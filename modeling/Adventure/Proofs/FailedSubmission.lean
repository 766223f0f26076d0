import Adventure.Proofs.Answers
import Adventure.Proofs.Growth

/-!
# Submissions that fail

The stages that codes lead to are not looked at when a world is accepted, so a code can lead to one
that is not declared.  When such a code is submitted, it is recorded and shown before the stage is
looked up.  The submission fails then, but the puzzle is solved and stays so.

## Main definitions

* `Session.Strays`: a code leads to a stage that is not declared, and to no other one
* `World.pier`: a world with such a code

## Main results

* `Strays.outcome`: how the submission of such a code ends
* `Reached.failed_submission`: what it leaves, and when that is what was there before
* `not_forall_unsolved`: not always
-/

namespace Adventure

open Session

namespace Session

/-- A code leads to a single stage, which is neither loaded nor declared. -/
structure Strays (s : Session) (target : Option String) (code puzzle stage : String) : Prop where
  targets : s.targetsOf target code = .ok (puzzle, [stage])
  unloaded : s.player.hasLoaded stage = false
  undeclared : ∀ world, s.world = some world → world.stage? stage = none

/-- What the code input of the current scene shows, if the scene has one. -/
def input? (s : Session) : Option (Bool × String) := s.here?.bind s.codeInput?

variable {s : Session} {target : Option String} {puzzle code stage : String}

/-! ## What is recorded and shown -/

theorem player_solved_eq_iff :
    (s.solved puzzle code).player = s.player ↔ s.player.answers.get? puzzle = some code := by
  rw [← Table.insert_eq_self_iff]
  constructor
  · intro h
    exact congrArg Player.answers h
  · intro h
    show { s.player with answers := s.player.answers.insert puzzle code } = s.player
    rw [h]

/-- The code input on display is left alone if the current scene has none, or if it shows already
what it is to show. -/
theorem codeInput_solved_eq_iff :
    (s.solved puzzle code).display.codeInput = s.display.codeInput ↔
      ∀ input, (s.solved puzzle code).input? = some input →
        s.display.codeInput = some input := by
  have hcues : (s.solved puzzle code).display =
      (s.solved puzzle code).inputCues.foldl Display.perform s.display := rfl
  unfold inputCues at hcues
  rw [hcues, input?]
  cases (s.solved puzzle code).here?.bind (s.solved puzzle code).codeInput? with
  | none => exact ⟨fun _ => nofun, fun _ => rfl⟩
  | some input =>
    constructor
    · rintro h _ ⟨⟩
      exact h.symm
    · intro h
      exact (h input rfl).symm

/-! ## How the submission ends -/

theorem Strays.stage_eq_error (h : s.Strays target code puzzle stage) :
    s.stage stage = .error (.notFound .stage stage) := by
  -- The puzzle was found, so there is a world.
  obtain ⟨-, declared, hp, -⟩ := targetsOf_ok h.targets
  obtain ⟨world, hplayed, -⟩ := bind_eq_ok_iff.1 hp
  have hworld := worldOf_ok hplayed
  exact (stage_eq_error_iff hworld).2 ⟨h.undeclared world hworld, rfl⟩

/-- **The submission of such a code** fails behind the record of the answer, whatever scripts do. -/
theorem Strays.outcome (h : s.Strays target code puzzle stage) (hs : s.Grounded)
    (run : Script → Play Unit) :
    (Play.submitCode run target code).outcome s =
      some (.error (.notFound .stage stage), s.solved puzzle (Text.trim code)) := by
  have hstage : (s.solved puzzle (Text.trim code)).stage stage = .error (.notFound .stage stage) :=
    h.stage_eq_error
  rw [Play.outcome_submitCode hs, h.targets]
  dsimp only
  rw [Play.outcome_forM_cons, Play.outcome_acceptCode hs, h.unloaded,
    if_neg Bool.false_ne_true, Play.outcome_loadStage, hstage]
  rfl

end Session

section

variable {arrows : List String} {s : Session} {target : Option String} {puzzle code stage : String}

/-- An action can submit the code, whichever scene is the current one. -/
theorem Session.Strays.reached_solved (h : s.Strays target code puzzle stage)
    (hs : Reached arrows s) : Reached arrows (s.solved puzzle (Text.trim code)) := by
  have hstep : (Play.step (Play.execute 1) (.new (.enterCode target code))).outcome s =
      some (.error (.notFound .stage stage), s.solved puzzle (Text.trim code)) :=
    (Play.outcome_step s _ _).trans (h.outcome hs.grounded _)
  have hcall : ((Call.execute [.new (.enterCode target code)]).play 2).outcome s =
      some (.error (.notFound .stage stage), s.solved puzzle (Text.trim code)) := by
    refine (Play.outcome_forM_cons _ _ _ _).trans ?_
    rw [hstep, Play.andThen_error]
  exact .call hs hcall

/-- **What a submission leaves that fails** because the only stage of the code is not declared, in
every session and whatever scripts do: the answer is recorded and the code input of the current
scene shows it, and nothing else is changed.  The puzzle is solved from then on.  All is as before
exactly if the same answer was on record already, and the code input, if there is one, on display. -/
theorem Reached.failed_submission (hs : Reached arrows s)
    (h : s.Strays target code puzzle stage) :
    ∃ t, (∀ run, (Play.submitCode run target code).outcome s =
        some (.error (.notFound .stage stage), t)) ∧
      t = { s with
        player := s.player.recordAnswer puzzle (Text.trim code)
        display := t.display } ∧
      s.Cues [.codeInput] t ∧
      (t.player = s.player ∧ t.display.codeInput = s.display.codeInput ↔
        s.player.answers.get? puzzle = some (Text.trim code) ∧
          ∀ input, t.input? = some input → s.display.codeInput = some input) ∧
      ∀ u, t.Later u → u.player.isSolved puzzle = true := by
  have hground := hs.grounded
  refine ⟨s.solved puzzle (Text.trim code), h.outcome hground, rfl, cues_solved s _ _, ?_, ?_⟩
  · rw [player_solved_eq_iff, codeInput_solved_eq_iff]
  · intro u hu
    have hreached := h.reached_solved hs
    exact (hu.extends hreached).answers (by simp [solved, Player.recordAnswer])

/-- A world with a pier: the code of its locker leads to an island that is not declared. -/
def World.pier : World where
  stages := [{ id := "pier", scenes := [{ id := "hut", puzzle := some "locker" }] }]
  puzzles := .ofList [("locker", { code := some "gull", stage := some "island" })]

/-- The locker is closed at the start. -/
theorem exists_reached_pier :
    ∃ s, Reached [] s ∧ s.Strays none "gull" "locker" "island" ∧
      s.player.answers.get? "locker" = none ∧ s.display.codeInput = some (true, "") :=
  ⟨_, @Reached.start [] _ _ 3 (.ofNat 1) .pier _ (.fresh (.ofNat 0)) rfl,
    ⟨rfl, rfl, by rintro _ ⟨⟩; rfl⟩, rfl, rfl⟩

/-- The locker is solved by a submission that fails. -/
theorem failed_submission_pier :
    ∃ s t, Reached [] s ∧ s.player.answers.get? "locker" = none ∧
      (Play.handle 3 (.codeSubmitted "gull")).outcome s =
        some (.error (.notFound .stage "island"), t) ∧
      t.player.answers.get? "locker" = some "gull" := by
  obtain ⟨s, hs, hstrays, hnone, -⟩ := exists_reached_pier
  obtain ⟨t, houtcome, ht, -⟩ := hs.failed_submission hstrays
  refine ⟨s, t, hs, hnone, houtcome _, ?_⟩
  rw [ht]
  exact Table.get?_insert_self _ _ _

/-- **Not every submission that fails** leaves the puzzle unsolved. -/
theorem not_forall_unsolved :
    ¬ ∀ (arrows : List String) (s t : Session) (target : Option String)
      (code puzzle stage : String) (depth : Nat), Reached arrows s →
        s.Strays target code puzzle stage →
        (Play.submitCode (Play.execute depth) target code).outcome s =
          some (.error (.notFound .stage stage), t) →
        t.player = s.player ∧ t.display.codeInput = s.display.codeInput := by
  intro hall
  obtain ⟨s, hs, hstrays, hnone, -⟩ := exists_reached_pier
  have hplayer := (hall _ s _ none "gull" "locker" "island" 3 hs hstrays
    (hstrays.outcome hs.grounded _)).1
  have hsome := player_solved_eq_iff.1 hplayer
  rw [hnone] at hsome
  cases hsome

end

end Adventure
