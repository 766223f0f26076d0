import Adventure.Proofs.Growth

/-!
# Submitting codes

A code that is submitted solves the puzzle of the current scene if it leads to a stage that is not
loaded yet, and otherwise it only runs scripts.  The puzzles that must be solved before have no part
in this: they decide what the code input shows, and not what it takes.

## Main definitions

* `Session.newStages`: the stages that a code leads to and that are not loaded yet
* `Session.Submits`: a code is submitted, and the scripts that it brings about are left aside
* `World.crypt`: a world with a puzzle that another one must be solved before

## Main results

* `exists_acceptCodes_idle`: what the stages of a code do to the answers
* `outcome_forM_acceptCode`: a code that leads nowhere new only runs scripts
* `Reached.submission`: when a code solves the puzzle of the current scene
-/

namespace Adventure

open Session

/-- Leaves a script aside. -/
def Play.idle (_ : Script) : Play Unit := pure ()

namespace Session

/-- The stages that a code leads to in the current scene and that are not loaded yet. -/
def newStages (s : Session) (code : String) : List String :=
  match s.targetsOf none code with
  | .ok (_, targets) => targets.filter fun stage => !s.player.hasLoaded stage
  | .error _ => []

/-- A code is submitted in the current scene.  The scripts that it brings about are left aside, so
what changes is due to the code itself. -/
def Submits (s : Session) (code : String) (r : Except Error Unit) (t : Session) : Prop :=
  (Play.submitCode Play.idle none code).outcome s = some (r, t)

variable {s t : Session}

theorem Submits.unique {code : String} {r r' : Except Error Unit} {t' : Session}
    (h : s.Submits code r t) (h' : s.Submits code r' t') : t = t' := by
  cases h.symm.trans h'
  rfl

end Session

namespace Play

variable {s t : Session}

/-! ## The scripts left aside -/

theorem outcome_openStage_idle (stage : Stage) (hs : s.player.currentScene.isSome = true) :
    (openStage idle stage).outcome s = some (.ok (), s) := by
  have hnone : s.player.currentScene.isNone = false := by simpa using hs
  simp only [openStage, idle, outcome_bind, outcome_pure, outcome_get, andThen_ok, hnone,
    Bool.false_eq_true, if_false]

/-- Loading a stage leaves the answers and the current scene as they are. -/
theorem exists_loadStage_idle (hs : s.Grounded) (hcurrent : s.player.currentScene.isSome = true)
    (id : String) :
    ∃ r t, (loadStage idle id).outcome s = some (r, t) ∧ t.Grounded ∧
      t.player.currentScene.isSome = true ∧ t.player.answers = s.player.answers := by
  rw [outcome_loadStage]
  cases s.stage id with
  | error e => exact ⟨_, _, rfl, hs, hcurrent, rfl⟩
  | ok stage =>
    have hrequested : (s.requested stage.id).Grounded := hs.congr rfl rfl rfl
    dsimp only
    split
    · exact ⟨_, _, rfl, hs.congr rfl rfl rfl, hcurrent, rfl⟩
    · rw [outcome_finishLoad]
      cases (s.requested stage.id).resolve [] stage.scenes with
      | error e => exact ⟨_, _, rfl, hrequested, hcurrent, rfl⟩
      | ok scenes =>
        exact ⟨_, _, outcome_openStage_idle stage hcurrent, hrequested.finished stage scenes,
          hcurrent, rfl⟩

/-- **What the stages of a code do to the answers**: the code is recorded if one of them is new. -/
theorem exists_acceptCodes_idle (hs : s.Grounded)
    (hcurrent : s.player.currentScene.isSome = true) (puzzle code : String)
    (targets : List String) :
    ∃ r t, (targets.forM (acceptCode idle puzzle code)).outcome s = some (r, t) ∧
      t.player.answers = if (targets.filter fun stage => !s.player.hasLoaded stage) = []
        then s.player.answers else s.player.answers.insert puzzle code := by
  induction targets generalizing s with
  | nil => exact ⟨_, _, rfl, rfl⟩
  | cons stage stages ih =>
    rw [outcome_forM_cons, outcome_acceptCode hs]
    cases hloaded : s.player.hasLoaded stage with
    | true =>
      obtain ⟨r, t, h, hanswers⟩ := ih hs hcurrent
      exact ⟨r, t, h, by simpa [hloaded] using hanswers⟩
    | false =>
      have hsolved : (s.solved puzzle code).Grounded := hs.congr rfl rfl rfl
      obtain ⟨r, u, h, hu, hplaced, hanswers⟩ := exists_loadStage_idle hsolved hcurrent stage
      have hrecorded : u.player.answers = s.player.answers.insert puzzle code := hanswers
      rw [if_neg Bool.false_ne_true, h]
      cases r with
      | error e => exact ⟨_, _, rfl, by simpa [hloaded] using hrecorded⟩
      | ok =>
        -- The stages behind the first new one record the same code, if anything.
        obtain ⟨r, t, h, hrest⟩ := ih hu hplaced
        have hsame : t.player.answers = s.player.answers.insert puzzle code := by
          rw [hrest, hrecorded, Table.insert_insert]
          split <;> rfl
        exact ⟨r, t, h, by simpa [hloaded] using hsame⟩

/-! ## The scripts as they run -/

/-- **A code that leads nowhere new** only runs scripts. -/
theorem outcome_forM_acceptCode (hs : s.Grounded) (depth : Nat) (puzzle code : String)
    {targets : List String} (hl : ∀ stage ∈ targets, s.player.hasLoaded stage = true) :
    (targets.forM (acceptCode (execute depth) puzzle code)).outcome s =
      (targets.forM fun _ => execute depth s.catalog.parameters.rediscoveredActions).outcome s := by
  induction targets generalizing s with
  | nil => rfl
  | cons stage stages ih =>
    rw [outcome_forM_cons, outcome_forM_cons, outcome_acceptCode hs, if_pos (hl stage (.head _))]
    cases h : (execute depth s.catalog.parameters.rediscoveredActions).outcome s with
    | none => rfl
    | some ended =>
      obtain ⟨r, t⟩ := ended
      cases r with
      | error e => rfl
      | ok =>
        -- What is loaded stays so while the script runs.
        obtain ⟨ht, hgrows⟩ := (keeps_extends s).call_inv hs (.refl s) (c := .execute _) h
        rw [andThen_ok, andThen_ok, ← hgrows.catalog.parameters]
        exact ih ht fun stage hstage => hgrows.loaded (hl stage (.tail _ hstage))

/-- A code whose first stage is new is recorded before anything else. -/
theorem outcome_handle_of_first (hs : s.Grounded) {puzzle code stage : String}
    {stages : List String} (htargets : s.targetsOf none code = .ok (puzzle, stage :: stages))
    (hnew : s.player.hasLoaded stage = false) (depth : Nat) :
    (handle depth (.codeSubmitted code)).outcome s =
      (do
        loadStage (execute depth) stage
        stages.forM (acceptCode (execute depth) puzzle (Text.trim code))).outcome
          (s.solved puzzle (Text.trim code)) := by
  refine (outcome_submitCode hs (execute depth) none code).trans ?_
  rw [htargets]
  dsimp only
  rw [outcome_forM_cons, outcome_acceptCode hs, hnew, if_neg Bool.false_ne_true]
  exact (outcome_bind _ _ _).symm

/-- **A code whose first stage is new** solves its puzzle, whatever scripts follow. -/
theorem isSolved_of_first (hs : s.Grounded) {puzzle code stage : String} {stages : List String}
    (htargets : s.targetsOf none code = .ok (puzzle, stage :: stages))
    (hnew : s.player.hasLoaded stage = false) {depth : Nat} {r : Except Error Unit}
    (h : (handle depth (.codeSubmitted code)).outcome s = some (r, t)) :
    t.player.isSolved puzzle = true := by
  rw [outcome_handle_of_first hs htargets hnew] at h
  -- From the session in which the code was recorded nothing is lost.
  have hsolved : (s.solved puzzle (Text.trim code)).Grounded := hs.congr rfl rfl rfl
  have k := keeps_extends (s.solved puzzle (Text.trim code))
  obtain ⟨-, declared, hp, ht⟩ := targetsOf_ok htargets
  have hload := k.loadStage (p := loadStage (execute depth) stage) (k.execute depth) hsolved
    (.refl _) (.direct trivial) rfl
  have hsafe := hload.bind fun _ u hu =>
    k.acceptCodes (k.execute depth) hu.grounded hu.inv ((hu.inv.puzzle puzzle).trans hp) ht
      (List.subset_cons_self stage stages)
  have hextends : (s.solved puzzle (Text.trim code)).Extends t := by
    cases r with
    | ok => exact (ensures_ok hsafe h).inv
    | error e => exact (ensures_error hsafe h).2
  exact hextends.answers (by simp [solved, Player.recordAnswer])

end Play

/-! ## Sessions -/

section

variable {arrows : List String} {s : Session}

/-- **What a submitted code is recorded for**: it is recorded for the puzzle of the current scene if
it leads to a stage that is not loaded yet, and only then. -/
theorem Session.exists_submits (hs : s.Grounded) {scene : Scene} {puzzle : String}
    (hscene : s.here? = some scene) (hpuzzle : scene.puzzle = some puzzle) (code : String) :
    ∃ r t, s.Submits code r t ∧ t.player.answers =
      if s.newStages code = [] then s.player.answers
      else s.player.answers.insert puzzle (Text.trim code) := by
  obtain ⟨id, hid, -⟩ := here?_eq_some hscene
  have hcurrent : s.player.currentScene.isSome = true := by rw [hid]; rfl
  have h := Play.outcome_submitCode hs Play.idle none code
  unfold Submits newStages
  rw [h]
  cases htargets : s.targetsOf none code with
  | error e => exact ⟨_, _, rfl, rfl⟩
  | ok found =>
    obtain ⟨other, targets⟩ := found
    -- The puzzle that was looked up is that of the current scene.
    obtain rfl : other = puzzle :=
      Except.ok.inj ((targetsOf_ok htargets).1.symm.trans (puzzleFor_none hscene hpuzzle))
    cases targets with
    | nil => exact ⟨_, _, rfl, rfl⟩
    | cons stage stages =>
      exact Play.exists_acceptCodes_idle hs hcurrent other (Text.trim code) (stage :: stages)

/-- **When a code solves the puzzle of the current scene**, in every session.  The code itself
records an answer exactly if it leads to a stage that is not loaded yet, and whether the puzzles are
solved that must be solved before is not asked.  With the scripts that it brings about: a code that
leads nowhere new only runs scripts, and one that first leads to a new stage solves the puzzle,
however the scripts end. -/
theorem Reached.submission (hs : Reached arrows s) {scene : Scene} {puzzle : String}
    (hscene : s.here? = some scene) (hpuzzle : scene.puzzle = some puzzle) (code : String) :
    (∃ r t, s.Submits code r t) ∧
    (∀ r t, s.Submits code r t → t.player.answers =
      if s.newStages code = [] then s.player.answers
      else s.player.answers.insert puzzle (Text.trim code)) ∧
    ∀ depth,
      (s.newStages code = [] → (Play.handle depth (.codeSubmitted code)).outcome s =
        match s.targetsOf none code with
        | .error e => some (.error e, s)
        | .ok (_, []) => (Play.execute depth s.wrongScript).outcome (s.cued [.clearCodeInput])
        | .ok (_, targets) => (targets.forM fun _ =>
            Play.execute depth s.catalog.parameters.rediscoveredActions).outcome s) ∧
      ∀ stage stages, s.targetsOf none code = .ok (puzzle, stage :: stages) →
        s.player.hasLoaded stage = false → ∀ r t,
          (Play.handle depth (.codeSubmitted code)).outcome s = some (r, t) →
            t.player.isSolved puzzle = true := by
  have hground := hs.grounded
  obtain ⟨r, t, h, hanswers⟩ := exists_submits hground hscene hpuzzle code
  refine ⟨⟨r, t, h⟩, ?_, ?_⟩
  · intro r' t' h'
    rwa [h'.unique h]
  · intro depth
    constructor
    · intro hnone
      refine (Play.outcome_submitCode hground (Play.execute depth) none code).trans ?_
      cases htargets : s.targetsOf none code with
      | error e => rfl
      | ok found =>
        obtain ⟨other, targets⟩ := found
        rw [newStages, htargets] at hnone
        have hloaded : ∀ stage ∈ targets, s.player.hasLoaded stage = true := by
          simpa [List.filter_eq_nil_iff] using hnone
        cases targets with
        | nil => rfl
        | cons stage stages => exact Play.outcome_forM_acceptCode hground depth _ _ hloaded
    · intro stage stages htargets hnew r t h
      exact Play.isSolved_of_first hground htargets hnew h

/-- A world with a crypt: the lid of its tomb has a code, but before it the seal must be broken. -/
def World.crypt : World where
  stages := [
    { id := "nave"
      scenes := [{ id := "tomb", puzzle := some "lid", prerequisites := ["seal"] }] },
    { id := "shaft" }]
  puzzles := .ofList [
    ("lid", { code := some "amen", stage := some "shaft" }),
    ("seal", { code := some "wax", stage := some "shaft" })]

/-- The tomb is entered at the start, with its seal unbroken. -/
theorem exists_reached_crypt :
    ∃ s scene, Reached [] s ∧ s.here? = some scene ∧ scene.puzzle = some "lid" ∧
      (∃ other ∈ scene.prerequisites, s.player.isSolved other = false) ∧
      s.player.answers.get? "lid" = none ∧ s.newStages "amen" = ["shaft"] :=
  ⟨_, _, @Reached.start [] _ _ 3 (.ofNat 1) .crypt _ (.fresh (.ofNat 0)) rfl, rfl, rfl,
    ⟨"seal", .head _, rfl⟩, rfl, rfl⟩

/-- The lid takes its code while the seal is unbroken. -/
theorem submission_crypt :
    ∃ s scene, Reached [] s ∧ s.here? = some scene ∧
      (∃ other ∈ scene.prerequisites, s.player.isSolved other = false) ∧
      ∃ r t, s.Submits "amen" r t ∧ t.player.answers.get? "lid" = some "amen" := by
  obtain ⟨s, scene, hs, hscene, hpuzzle, hlocked, -, hnew⟩ := exists_reached_crypt
  obtain ⟨⟨r, t, h⟩, hanswers, -⟩ := hs.submission hscene hpuzzle "amen"
  refine ⟨s, scene, hs, hscene, hlocked, r, t, h, ?_⟩
  rw [hanswers r t h, hnew, if_neg (List.cons_ne_nil _ _), Table.get?_insert_self]
  rfl

/-- A puzzle that others must be solved before can be solved without them. -/
theorem not_forall_locked :
    ¬∀ (arrows : List String) (s t : Session) (scene : Scene) (puzzle code : String)
      (r : Except Error Unit), Reached arrows s → s.here? = some scene →
        scene.puzzle = some puzzle →
        (∃ other ∈ scene.prerequisites, s.player.isSolved other = false) →
        s.Submits code r t → t.player.answers.get? puzzle = s.player.answers.get? puzzle := by
  intro hall
  obtain ⟨s, scene, hs, hscene, hpuzzle, hlocked, hnone, hnew⟩ := exists_reached_crypt
  obtain ⟨r, t, h, hanswers⟩ := exists_submits hs.grounded hscene hpuzzle "amen"
  have hsame := hall _ s t scene "lid" "amen" r hs hscene hpuzzle hlocked h
  rw [hanswers, hnew, if_neg (List.cons_ne_nil _ _), Table.get?_insert_self, hnone] at hsame
  cases hsame

end

end Adventure
