import Adventure.Proofs.Containment
import Mathlib.Data.List.DropRight

/-!
# The answers of solved puzzles

A puzzle is solved when an answer is recorded for it.  The answer is recorded before the stage that
it leads to is asked for, later answers take its place, and what is asked for can fail; still, the
answer on record is always one for which there is a reason.

## Main definitions

* `Session.Justifies`: the reason for an answer
* `World.LeadsToStages`: the codes of puzzles lead to declared stages
* `World.dial`: a world with two codes that are the same but for their case

## Main results

* `Text.trim_trim`: what was trimmed has no blanks left to trim
* `Move.justified`, `Halt.justified`: every step keeps the answers justified
* `Played.solved_means_loaded`: an answer on record leads to a stage that was loaded
-/

namespace Adventure

open Session

/-! ## Trimmed texts -/

namespace Text

/-- A text that starts with no blank starts with none when its end is trimmed. -/
theorem trimStart_trimEnd {cs : List Char} (h : trimStart cs = cs) :
    trimStart (trimEnd cs) = trimEnd cs := by
  rw [trimStart, List.dropWhile_eq_self_iff] at h ⊢
  intro hlen
  -- What is left has the first character of the whole, since only its end was taken off.
  have hpre : trimEnd cs <+: cs := List.rdropWhile_prefix isBlank cs
  have hfirst := h (hlen.trans_le hpre.length_le)
  rwa [hpre.getElem hlen]

theorem trimStart_trimStart (cs : List Char) : trimStart (trimStart cs) = trimStart cs :=
  List.dropWhile_idempotent isBlank cs

theorem trimEnd_trimEnd (cs : List Char) : trimEnd (trimEnd cs) = trimEnd cs :=
  List.rdropWhile_idempotent isBlank cs

/-- **What was trimmed** has no blanks left at its ends. -/
theorem trim_trim (s : String) : trim (trim s) = trim s := by
  simp only [trim, String.toList_ofList]
  rw [trimStart_trimEnd (trimStart_trimStart _), trimEnd_trimEnd]

end Text

/-! ## Reasons for answers -/

namespace Session

/-- **The reason for an answer**: it is trimmed, and it is a code of its puzzle that leads to a
stage that was loaded, or to one that is not declared. -/
structure Justifies (s : Session) (puzzle answer : String) : Prop where
  trimmed : Text.trim answer = answer
  leads : ∃ declared targets stage, s.puzzle puzzle = .ok declared ∧
    declared.targets answer = .ok targets ∧ stage ∈ targets ∧
    (s.player.hasLoaded stage = true ∨ ∃ e, s.stage stage = .error e)

/-- There is a reason for every answer on record. -/
def Justified (s : Session) : Prop :=
  ∀ puzzle answer, s.player.answers.get? puzzle = some answer → s.Justifies puzzle answer

variable {s t u : Session}

/-- Reasons last, since stages stay loaded and the world stays the same. -/
theorem Justifies.extends {puzzle answer : String} (h : s.Justifies puzzle answer)
    (he : s.Extends t) : t.Justifies puzzle answer := by
  obtain ⟨htrimmed, declared, targets, stage, hp, ht, hmem, hstage⟩ := h
  refine ⟨htrimmed, declared, targets, stage, (he.puzzle puzzle).trans hp, ht, hmem, ?_⟩
  rw [he.stage]
  exact hstage.imp_left he.loaded

theorem justified_of_empty (h : s.player.answers = ∅) : s.Justified := by
  intro puzzle answer ha
  rw [h] at ha
  cases ha

theorem Justified.extends (h : s.Justified) (he : s.Extends t)
    (ha : t.player.answers = s.player.answers) : t.Justified := by
  intro puzzle answer hanswer
  rw [ha] at hanswer
  exact (h puzzle answer hanswer).extends he

end Session

section Steps

variable {P : Policy} {s t u : Session} {e : Error} {stage : String}

/-- A code that was recorded leads to the stage that is asked for, which is loaded then if it is
declared. -/
theorem Asked.justified (h : Asked P s stage t) (hs : s.Justified) (he : t.Extends u)
    (ha : u.player.answers = t.player.answers)
    (hstage : u.player.hasLoaded stage = true ∨ ∃ e, u.stage stage = .error e) : u.Justified := by
  have hsu : s.Extends u := h.extends.trans he
  cases h with
  | direct => exact hs.extends hsu ha
  | @code puzzle code declared targets hp htargets hmem =>
    intro other answer hanswer
    rw [ha] at hanswer
    have hinsert : (s.player.answers.insert puzzle (Text.trim code)).get? other = some answer :=
      hanswer
    rw [Table.get?_insert] at hinsert
    split at hinsert
    · next heq =>
      -- The new answer takes the place of an older one to the same puzzle.
      subst heq
      cases hinsert
      refine ⟨Text.trim_trim code, declared, targets, stage, ?_, ?_, hmem, hstage⟩
      · exact (hsu.puzzle other).trans hp
      · exact htargets
    · exact (hs other answer hinsert).extends hsu

/-- **Every step** keeps the answers on record justified. -/
theorem Move.justified (h : Move P s t) (hs : s.Justified) : t.Justified := by
  have hextends := h.extends
  -- Answers are recorded where a stage is asked for, and nowhere else.
  cases h with
  | @preload id stage u h =>
    exact h.justified hs ((extends_requested u id).trans (extends_preloading _ stage)) rfl
      (.inl (hasLoaded_requested_self u id))
  | @load id stage scenes u h =>
    exact h.justified hs ((extends_requested u id).trans (extends_finished _ stage scenes)) rfl
      (.inl (hasLoaded_requested_self u id))
  | enter | hide | notice | block | close | answer | assign | increment | fade | swell | play
  | stop | redirect | tune | schedule | fire | clear | complete | queue | reportBatches
  | reportTimers => exact hs.extends hextends rfl

theorem Halt.justified (h : Halt P s e t) (hs : s.Justified) : t.Justified := by
  have hextends := h.extends
  cases h with
  | unstaged h hstage => exact h.justified hs (.refl t) rfl (.inr ⟨e, hstage⟩)
  | @unresolved id stage u e h =>
    exact h.justified hs (extends_requested u id) rfl (.inl (hasLoaded_requested_self u id))
  | reject | strand | close | answer | incomplete => exact hs.extends hextends rfl

end Steps

/-! ## Sessions -/

/-- The codes of puzzles lead to declared stages. -/
def World.LeadsToStages (w : World) : Prop :=
  ∀ e ∈ w.puzzles.entries, ∀ target ∈ e.2.solutions.toOption.getD [],
    (w.stage? target.2).isSome = true

theorem Puzzle.targets_ok {p : Puzzle} {code : String} {targets : List String}
    (h : p.targets code = .ok targets) :
    ∃ solutions, p.solutions = .ok solutions ∧
      targets = (solutions.filter fun e => Text.lower e.1 == Text.lower code).map Prod.snd := by
  obtain ⟨solutions, hsolutions, h⟩ := bind_eq_ok_iff.1 h
  cases h
  exact ⟨solutions, hsolutions, rfl⟩

namespace Session

variable {s : Session} {world : World}

/-- A puzzle that is found is declared by the world that is played. -/
theorem Registered.puzzle (h : s.Registered world) {id : String} {declared : Puzzle}
    (hp : s.puzzle id = .ok declared) :
    s.world = some world ∧ world.puzzles.get? id = some declared := by
  obtain ⟨played, hplayed, hlook⟩ := bind_eq_ok_iff.1 hp
  have hworld := worldOf_ok hplayed
  obtain rfl := h.world hworld
  exact ⟨hworld, Catalog.look_ok_iff.1 hlook⟩

/-- Stages are looked up in the world that is played. -/
theorem stage_eq_error_iff (hworld : s.world = some world) {id : String} {e : Error} :
    s.stage id = .error e ↔ world.stage? id = none ∧ e = .notFound .stage id := by
  simp only [stage, worldOf, hworld, bind, Except.bind]
  cases world.stage? id <;> simp [eq_comm]

end Session

section

variable {arrows : List String} {world : World} {s : Session}

/-- There is a reason for every answer, also between two steps. -/
theorem Underway.justified (h : Underway arrows world s) : s.Justified := by
  refine h.invariant (I := Justified) ?_ ?_ ?_
  · intro id
    exact justified_of_empty rfl
  · intro id id'
    exact justified_of_empty rfl
  · intro s t _ hs hstep
    cases hstep with
    | move h => exact h.justified hs
    | halt h => exact h.justified hs

/-- **Solved puzzles are really solved**, in every session of a world whose codes lead to declared
stages: the answer on record is trimmed, its puzzle is declared, and one of the codes of the puzzle
is the same but for its case and leads to a stage that was loaded. -/
theorem Played.solved_means_loaded (hw : world.LeadsToStages)
    (h : Played (fun _ _ => True) arrows world s) {puzzle answer : String}
    (ha : s.player.answers.get? puzzle = some answer) :
    Text.trim answer = answer ∧ ∃ declared solutions code stage,
      world.puzzles.get? puzzle = some declared ∧ declared.solutions = .ok solutions ∧
      (code, stage) ∈ solutions ∧ Text.lower code = Text.lower answer ∧
      s.player.hasLoaded stage = true := by
  obtain ⟨htrimmed, declared, targets, stage, hp, ht, hmem, hstage⟩ :=
    h.underway.justified puzzle answer ha
  obtain ⟨hworld, hdeclared⟩ := h.underway.registered.puzzle hp
  obtain ⟨solutions, hsolutions, rfl⟩ := Puzzle.targets_ok ht
  obtain ⟨⟨code, _⟩, hmatch, rfl⟩ := List.mem_map.1 hmem
  obtain ⟨hcode, hfold⟩ := List.mem_filter.1 hmatch
  refine ⟨htrimmed, declared, solutions, code, _, hdeclared, hsolutions, hcode,
    beq_iff_eq.1 hfold, ?_⟩
  rcases hstage with hloaded | ⟨e, he⟩
  · exact hloaded
  · -- The stage is declared, so it was found when it was asked for.
    have hnone := ((stage_eq_error_iff hworld).1 he).1
    have hsome := hw (puzzle, declared) (Table.mem_entries_iff.2 hdeclared) _
      (by rw [hsolutions]; exact hcode)
    rw [hnone] at hsome
    cases hsome

/-- A world with a dial: two of its codes differ in their case only, and the cellar that one of them
opens turns the dial on. -/
def World.dial : World where
  stages := [
    { id := "hall", scenes := [{ id := "hall", puzzle := some "dial" }] },
    { id := "cellar", loadActions := [.new (.enterCode (some "dial") "blue")] },
    { id := "attic" },
    { id := "roof" }]
  puzzles := .ofList [
    ("dial",
      { codes := some (.ofList [("RED", "cellar"), ("blue", "roof"), ("red", "attic")]) })]
  parameters := { rediscoveredActions := [.new (.showText "You know the way.")] }

theorem World.leadsToStages_dial : World.dial.LeadsToStages := by
  unfold World.LeadsToStages
  decide

/-- The dial is turned to red.  While the cellar is loaded it is turned to blue, but the attic is
loaded for red behind that. -/
theorem solved_means_loaded_dial :
    ∃ s, Played (fun _ _ => True) [] .dial s ∧
      s.player.answers.get? "dial" = some "Red" ∧ s.player.hasLoaded "roof" = true ∧
      ∃ declared solutions code stage, World.dial.puzzles.get? "dial" = some declared ∧
        declared.solutions = .ok solutions ∧ (code, stage) ∈ solutions ∧
        Text.lower code = Text.lower "Red" ∧ s.player.hasLoaded stage = true := by
  have h := @Played.call _ _ _ _ _ (.handle (.codeSubmitted " Red")) 3 _
    (@Played.start (fun _ _ => True) [] .dial 3 (.ofNat 0) (.ofNat 1) _ _ rfl) trivial rfl
  exact ⟨_, h, rfl, rfl, (h.solved_means_loaded World.leadsToStages_dial rfl).2⟩

end

end Adventure
