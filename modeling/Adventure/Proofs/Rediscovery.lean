import Adventure.Proofs.Settlement
import Adventure.Proofs.Submission

/-!
# Submitting an answer again

Where nothing has failed, the answer to a puzzle leads nowhere new.  When it is submitted again, in
whatever case and with whatever blanks around it, the script for a rediscovered stage runs once for
each code of the puzzle that matches, and nothing else happens.

## Main definitions

* `Session.Submission`: the ways to submit a code to a puzzle

## Main results

* `Submission.outcome_of_exhausted`: submitting a code that leads nowhere new
* `Flawless.resubmission`: submitting an answer again
-/

namespace Adventure

open Session

theorem Play.outcome_forM_map {α β : Type} (f : β → Play Unit) (g : α → β) (l : List α)
    (s : Session) : ((l.map g).forM f).outcome s = (l.forM fun a => f (g a)).outcome s := by
  induction l generalizing s with
  | nil => rfl
  | cons a l ih =>
    rw [List.map_cons, outcome_forM_cons, outcome_forM_cons]
    exact congrArg (andThen ((f (g a)).outcome s)) (funext fun _ => funext ih)

/-- A script without actions does nothing, however often it runs. -/
theorem Play.outcome_forM_execute_nil {α : Type} (l : List α) {depth : Nat} (hdepth : 0 < depth)
    (s : Session) : (l.forM fun _ => execute depth []).outcome s = some (.ok (), s) := by
  obtain ⟨deep, rfl⟩ : ∃ deep, depth = deep + 1 := ⟨depth - 1, by omega⟩
  induction l with
  | nil => rfl
  | cons a l ih =>
    have hnil : (execute (deep + 1) []).outcome s = some (.ok (), s) := rfl
    rw [outcome_forM_cons, hnil, andThen_ok, ih]

namespace Session

/-- **The ways to submit a code** to a puzzle: it is typed where the current scene has that puzzle,
or entered by an action whose guard holds, for that puzzle or in such a scene. -/
inductive Submission (s : Session) (depth : Nat) (puzzle code : String) : Play Unit → Prop where
  | typed (h : s.puzzleFor none = .ok puzzle) :
      Submission s depth puzzle code (Play.handle depth (.codeSubmitted code))
  | entered {a : Action} {target : Option String} (he : a.effect = .enterCode target code)
      (hpasses : a.passes s.player = .ok true) (h : s.puzzleFor target = .ok puzzle) :
      Submission s depth puzzle code (Play.step (Play.execute depth) a)

variable {s : Session} {depth : Nat} {puzzle code : String} {p : Play Unit}

theorem Submission.exists_outcome (h : s.Submission depth puzzle code p) :
    ∃ target, s.puzzleFor target = .ok puzzle ∧
      p.outcome s = (Play.submitCode (Play.execute depth) target code).outcome s := by
  cases h with
  | typed h => exact ⟨none, h, rfl⟩
  | @entered a target he hpasses h =>
    refine ⟨target, h, ?_⟩
    rw [Play.outcome_step, hpasses]
    dsimp only
    rw [Play.perform, he]

/-- **Submitting a code that leads nowhere new**, but to some stages: the script for a rediscovered
one runs for each of them, in order. -/
theorem Submission.outcome_of_exhausted (h : s.Submission depth puzzle code p) (hs : s.Grounded)
    {declared : Puzzle} {targets : List String} (hp : s.puzzle puzzle = .ok declared)
    (ht : declared.targets (Text.trim code) = .ok targets) (hne : targets ≠ [])
    (hloaded : ∀ stage ∈ targets, s.player.hasLoaded stage = true) :
    p.outcome s = (targets.forM fun _ =>
      Play.execute depth s.catalog.parameters.rediscoveredActions).outcome s := by
  obtain ⟨target, hfor, houtcome⟩ := h.exists_outcome
  have htargets : s.targetsOf target code = .ok (puzzle, targets) := by
    simp only [targetsOf, hfor, hp, ht, bind, Except.bind, mapError_ok]
    rfl
  rw [houtcome, Play.outcome_submitCode hs, htargets]
  cases targets with
  | nil => exact absurd rfl hne
  | cons stage stages => exact Play.outcome_forM_acceptCode hs depth puzzle _ hloaded

end Session

section

variable {arrows : List String} {world : World} {s : Session}

/-- **Submitting an answer again**, in every session in which nothing has failed so far.  All stages
that the answer leads to are loaded.  When it is submitted once more, the script for a rediscovered
stage runs once for each code that matches, in their order, and that is all; if the script has no
actions, nothing changes. -/
theorem Flawless.resubmission (h : Flawless arrows world s) {puzzle answer : String}
    (ha : s.player.answers.get? puzzle = some answer) :
    Text.trim answer = answer ∧ ∃ declared solutions,
      world.puzzles.get? puzzle = some declared ∧ declared.solutions = .ok solutions ∧
      (∀ e ∈ solutions, Text.lower e.1 = Text.lower answer → s.player.hasLoaded e.2 = true) ∧
      ∀ code, Text.lower (Text.trim code) = Text.lower answer →
        ∀ depth p, s.Submission depth puzzle code p →
          p.outcome s = ((solutions.filter fun e => Text.lower e.1 == Text.lower answer).forM
            fun _ => Play.execute depth s.catalog.parameters.rediscoveredActions).outcome s ∧
          (s.catalog.parameters.rediscoveredActions = [] → 0 < depth →
            p.outcome s = some (.ok (), s)) := by
  have hunderway := h.played.underway
  obtain ⟨htrimmed, declared, targets, stage, hp, ht, hmem, -⟩ :=
    hunderway.justified puzzle answer ha
  have hloaded : ∀ stage ∈ targets, s.player.hasLoaded stage = true :=
    (h.settled puzzle answer ha).resolve_right List.not_mem_nil declared targets hp ht
  obtain ⟨-, hdeclared⟩ := hunderway.registered.puzzle hp
  obtain ⟨solutions, hsolutions, rfl⟩ := Puzzle.targets_ok ht
  refine ⟨htrimmed, declared, solutions, hdeclared, hsolutions, ?_, ?_⟩
  · intro e he hfold
    have hmatch : e ∈ solutions.filter fun e => Text.lower e.1 == Text.lower answer :=
      List.mem_filter.2 ⟨he, beq_iff_eq.2 hfold⟩
    exact hloaded e.2 (List.mem_map_of_mem hmatch)
  · intro code hfold depth p hsubmission
    have ht' := (declared.targets_congr hfold).trans ht
    -- There is a code that matches, since the answer was accepted once.
    have hsame := hsubmission.outcome_of_exhausted hunderway.grounded hp ht'
      (List.ne_nil_of_mem hmem) hloaded
    rw [Play.outcome_forM_map] at hsame
    refine ⟨hsame, ?_⟩
    intro hnone hdepth
    rw [hsame, hnone]
    exact Play.outcome_forM_execute_nil _ hdepth s

/-- The dial was turned to red, and nothing has failed. -/
theorem exists_flawless_dial :
    ∃ s, Flawless [] .dial s ∧ s.player.answers.get? "dial" = some "Red" ∧
      s.puzzleFor none = .ok "dial" ∧
      s.catalog.parameters.rediscoveredActions = [.new (.showText "You know the way.")] :=
  ⟨_, @Flawless.call _ _ _ _ (.handle (.codeSubmitted " Red")) 3
    (@Flawless.start [] .dial 3 (.ofNat 0) (.ofNat 1) _ rfl) rfl, rfl, rfl, rfl⟩

/-- When the dial is turned to red again, two of its codes match. -/
theorem resubmission_dial :
    ∃ s, Flawless [] .dial s ∧ s.player.answers.get? "dial" = some "Red" ∧
      ∀ depth, (Play.handle depth (.codeSubmitted "RED ")).outcome s =
        ([("RED", "cellar"), ("red", "attic")].forM fun _ =>
          Play.execute depth [.new (.showText "You know the way.")]).outcome s := by
  obtain ⟨s, h, ha, hfor, hscript⟩ := exists_flawless_dial
  obtain ⟨-, declared, solutions, hdeclared, hsolutions, -, hagain⟩ := h.resubmission ha
  obtain rfl := Option.some.inj hdeclared
  obtain rfl := Except.ok.inj hsolutions
  refine ⟨s, h, ha, ?_⟩
  intro depth
  rw [← hscript]
  exact (hagain "RED " (by decide) depth _ (.typed hfor)).1

end

end Adventure
