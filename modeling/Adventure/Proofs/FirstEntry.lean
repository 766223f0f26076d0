import Adventure.Proofs.Settlement
import Adventure.Proofs.Steps

/-!
# First entries

The log has a line for every entrance of a scene, which says whether it is the first one.  The line
is written right before the scripts of the scene run, those for the first entry only if the line
says so.  A scene counts as visited from the moment the player arrives in it, so a scene that is
entered again by its own scripts, or by those of the scenes that they lead to, is not entered for
the first time.  What is entered and cannot be shown counts as visited, too, but the entrance fails
before the line is written; so it is in sessions in which nothing has failed that the log has a
first entrance of every visited scene.

## Main definitions

* `Session.entrances`: the entrances of scenes, in order
* `Session.EntersOnce`: the first entrance of a scene is on record once it was visited
* `Session.Records`: what a step does about entrances
* `Session.Entering`: what becomes of an entrance
* `Session.AtMostOnce`: the first entrance of a scene is on record at most once
* `Session.Advances`: the sessions that steps lead to none of which fails

## Main results

* `Move.records`, `Halt.entrances`: what single steps put on record
* `Session.AtMostOnce.step`, `Session.EntersOnce.records`: first entrances are counted
* `Session.Grounded.entering`: an entrance is put on record right before the scripts of the scene run
* `Played.first_entry_once`: the scripts for the first entry run once
-/

namespace Adventure

open Session

/-! ## Entrances on record -/

/-- The entrance that a line of the log is about, and whether it is the first one. -/
def Note.entrance? : Note → Option (String × Bool)
  | sceneEntered scene first => some (scene, first)
  | _ => none

namespace Session

/-- The entrances of scenes so far, each with whether it was the first one. -/
def entrances (s : Session) : List (String × Bool) := s.notes.toList.filterMap Note.entrance?

variable {s t : Session}

theorem entrances_noted (s : Session) (n : Note) :
    (s.noted n).entrances = s.entrances ++ n.entrance?.toList := by
  cases h : n.entrance? <;> simp [entrances, h]

theorem entrances_requested (s : Session) (id : String) :
    (s.requested id).entrances = s.entrances :=
  (entrances_noted _ _).trans (List.append_nil _)

theorem entrances_preloading (s : Session) (stage : Stage) :
    (s.preloading stage).entrances = s.entrances :=
  (entrances_noted _ _).trans (List.append_nil _)

theorem entrances_finished (s : Session) (stage : Stage) (scenes : List Scene) :
    (s.finished stage scenes).entrances = s.entrances :=
  (entrances_noted _ _).trans (List.append_nil _)

theorem entrances_entered (s : Session) (id : String) (plan : List (String × Bool)) (first : Bool) :
    ((s.left.arrived id).entered id plan first).entrances = s.entrances ++ [(id, first)] :=
  entrances_noted _ _

/-- What a step does about entrances: nothing, or a scene is entered, or the player arrives in a
scene that cannot be shown. -/
inductive Records (s t : Session) : Prop where
  | stays (he : t.entrances = s.entrances) (hv : t.player.visitedScenes = s.player.visitedScenes)
  | enters (id : String) (he : t.entrances = s.entrances ++ [(id, !s.player.hasVisited id)])
      (hv : t.player.visitedScenes = s.player.visitedScenes.add id)

end Session

variable {P : Policy} {s t : Session} {e : Error} {id : String}

theorem Asked.entrances (h : Asked P s id t) :
    t.entrances = s.entrances ∧ t.player.visitedScenes = s.player.visitedScenes := by
  cases h with
  | direct | code => exact ⟨rfl, rfl⟩

/-- **Only entrances are put on record.** -/
theorem Move.records (h : Move P s t) : s.Records t := by
  cases h with
  | @enter a id => exact .enters id (entrances_entered s id _ _) rfl
  | preload h =>
    obtain ⟨he, hv⟩ := h.entrances
    exact .stays (by rw [entrances_preloading, entrances_requested, he]) hv
  | load h =>
    obtain ⟨he, hv⟩ := h.entrances
    exact .stays (by rw [entrances_finished, entrances_requested, he]) hv
  | complete => exact .stays (entrances_finished _ _ _) rfl
  | hide | notice | block | close | answer | assign | increment | fade | swell | play | stop
  | redirect | tune | schedule | fire | clear | queue | reportBatches | reportTimers =>
    exact .stays rfl rfl

/-- A step that fails puts nothing on record. -/
theorem Halt.entrances (h : Halt P s e t) : t.entrances = s.entrances := by
  cases h with
  | unstaged h => exact h.entrances.1
  | unresolved h => exact (entrances_requested _ _).trans h.entrances.1
  | reject | strand | close | answer | incomplete => rfl

namespace Session

/-! ## First entrances are counted -/

/-- The first entrance of a scene is on record at most once, and not before the scene is visited. -/
def AtMostOnce (s : Session) (id : String) : Prop :=
  s.entrances.count (id, true) ≤ if s.player.hasVisited id then 1 else 0

/-- **A scene is entered for the first time once.**  The first entrance is on record if the scene
was visited, and every other entrance is behind it. -/
structure EntersOnce (s : Session) (id : String) : Prop where
  once : s.entrances.count (id, true) = if s.player.hasVisited id then 1 else 0
  first : ∀ {before after}, s.entrances = before ++ (id, false) :: after → (id, true) ∈ before

theorem hasVisited_add {other : String}
    (h : t.player.visitedScenes = s.player.visitedScenes.add other) (id : String) :
    t.player.hasVisited id = (decide (id = other) || s.player.hasVisited id) := by
  rw [Player.hasVisited, h]
  exact Names.contains_add _ _ _

/-- An entrance counts as the first one of the scene that is entered, if that was not visited. -/
theorem count_enters {other : String}
    (he : t.entrances = s.entrances ++ [(other, !s.player.hasVisited other)]) (id : String) :
    t.entrances.count (id, true) =
      s.entrances.count (id, true) + if id = other ∧ s.player.hasVisited id = false then 1 else 0 := by
  rw [he, List.count_append, List.count_singleton]
  by_cases hid : id = other
  · subst hid
    cases s.player.hasVisited id <;> simp
  · simp [hid, Ne.symm hid]

theorem AtMostOnce.records (h : s.AtMostOnce id) (hr : s.Records t) : t.AtMostOnce id := by
  cases hr with
  | stays he hv => rwa [AtMostOnce, he, Player.hasVisited, hv]
  | enters other he hv =>
    rw [AtMostOnce] at h ⊢
    rw [count_enters he, hasVisited_add hv]
    by_cases hid : id = other
    · cases hvisited : s.player.hasVisited id <;> simp_all
    · simpa [hid] using h

/-- What was visited stays visited, so a step that fails cannot make a first entrance too many. -/
theorem AtMostOnce.extends (h : s.AtMostOnce id) (he : t.entrances = s.entrances)
    (hs : s.Extends t) : t.AtMostOnce id := by
  rw [AtMostOnce] at h ⊢
  rw [he]
  refine h.trans ?_
  cases hvisited : s.player.hasVisited id with
  | false => exact Nat.zero_le _
  | true => rw [hs.visited hvisited]

/-- **A first entrance is on record once at most**, whether or not steps have failed. -/
theorem AtMostOnce.step (h : s.AtMostOnce id) (hstep : s.Step t) : t.AtMostOnce id := by
  cases hstep with
  | move hm => exact h.records hm.records
  | halt hh => exact h.extends hh.entrances hh.extends

theorem EntersOnce.mem (h : s.EntersOnce id) (hv : s.player.hasVisited id = true) :
    (id, true) ∈ s.entrances := by
  rw [← List.count_pos_iff, h.once, hv]
  exact Nat.one_pos

theorem EntersOnce.enters {other : String} (h : s.EntersOnce id)
    (he : t.entrances = s.entrances ++ [(other, !s.player.hasVisited other)])
    (hv : t.player.visitedScenes = s.player.visitedScenes.add other) : t.EntersOnce id where
  once := by
    rw [count_enters he, hasVisited_add hv, h.once]
    by_cases hid : id = other
    · cases s.player.hasVisited id <;> simp [hid]
    · simp [hid]
  first := by
    intro before after hsplit
    rw [he] at hsplit
    rcases List.eq_nil_or_concat after with rfl | ⟨between, last, rfl⟩
    · -- The entrance is the new one, and so the scene was visited before.
      obtain ⟨rfl, hlast⟩ := List.append_inj' hsplit rfl
      obtain ⟨rfl, hvisited⟩ : other = id ∧ s.player.hasVisited other = true := by simpa using hlast
      exact h.mem hvisited
    · rw [List.concat_eq_append, ← List.cons_append, ← List.append_assoc] at hsplit
      exact h.first (List.append_inj' hsplit rfl).1

theorem EntersOnce.records (h : s.EntersOnce id) (hr : s.Records t) : t.EntersOnce id := by
  cases hr with
  | stays he hv =>
    constructor
    · rw [he, Player.hasVisited, hv]
      exact h.once
    · rw [he]
      exact h.first
  | enters other he hv => exact h.enters he hv

/-! ## Steps none of which fails -/

/-- The sessions that steps lead to none of which fails. -/
def Advances : Session → Session → Prop :=
  Relation.ReflTransGen (Move (.free fun _ _ => True))

theorem Advances.entersOnce (h : s.Advances t) (hs : s.EntersOnce id) : t.EntersOnce id := by
  induction h with
  | refl => exact hs
  | tail _ hm ih => exact ih.records hm.records

/-- Where scripts and events succeed, none of their steps has failed. -/
theorem keeps_advances (s : Session) :
    Keeps (.free fun _ _ => True) (fun t => s.Advances t) fun _ _ => True :=
  .free (fun _ hs hm => hs.tail hm) fun _ _ _ => trivial

/-! ## Entrances and scripts -/

/-- What becomes of an entrance of a scene.  It fails and is not put on record; or it is put on
record, as the first one if the scene was not visited, and then the scripts of the scene run, those
for the first entry at the first one only. -/
inductive Entering (s : Session) (run : Script → Play Unit) (id : String) : Prop where
  | fails {e : Error} {t : Session} (he : t.entrances = s.entrances)
      (h : (Play.goToScene run id).outcome s = some (.error e, t))
  | runs {scene : Scene} {t : Session} (hscene : s.catalog.scenes.get? id = some scene)
      (hid : scene.id = id) (he : t.entrances = s.entrances ++ [(id, !s.player.hasVisited id)])
      (hv : t.player.visitedScenes = s.player.visitedScenes.add id)
      (h : (Play.goToScene run id).outcome s = (do
          run (if s.player.hasVisited id then [] else scene.firstEntryActions)
          run scene.entryActions).outcome t)

/-- **An entrance is put on record right before the scripts of the scene run.** -/
theorem Grounded.entering (hs : s.Grounded) (run : Script → Play Unit) (id : String) :
    s.Entering run id := by
  have h := Play.outcome_goToScene hs run id
  cases hscene : s.catalog.scenes.get? id with
  | none =>
    rw [hscene] at h
    exact .fails rfl h
  | some scene =>
    simp only [hscene] at h
    cases hobject : Play.unknown? s scene.interactive.keys with
    | some object =>
      rw [hobject] at h
      exact .fails rfl h
    | none =>
      simp only [hobject] at h
      cases hplan : (s.left.arrived id).plan? with
      | error e =>
        rw [hplan] at h
        exact .fails (t := s.left.arrived id) rfl h
      | ok plan =>
        rw [hplan] at h
        exact .runs hscene (hs.keyed hscene) (entrances_entered s id plan _) rfl h

end Session

section

variable {arrows : List String} {world : World} {s t : Session} {id : String}

theorem atMostOnce_of_entrances (h : s.entrances = []) (id : String) : s.AtMostOnce id := by
  rw [AtMostOnce, h]
  exact Nat.zero_le _

theorem Underway.atMostOnce (h : Underway arrows world s) (id : String) : s.AtMostOnce id :=
  h.invariant (I := fun s => s.AtMostOnce id) (fun _ => atMostOnce_of_entrances rfl id)
    (fun _ _ => atMostOnce_of_entrances rfl id) fun _ hs hstep => hs.step hstep

/-- A call that succeeds takes no step that fails. -/
theorem Call.advances (hs : s.Grounded) {c : Call} {depth : Nat}
    (h : (c.play depth).outcome s = some (.ok (), t)) : s.Advances t :=
  (Play.ensures_ok ((keeps_advances s).call depth hs .refl (c.permitted_free fun _ _ => trivial))
    h).inv

/-- **Where nothing has failed**, none of the steps since the start has failed. -/
theorem Flawless.advances (h : Flawless arrows world s) :
    ∃ id id', ((Session.withArrows id arrows).begun id' world).Advances s := by
  induction h with
  | @start depth id id' t h =>
    obtain ⟨-, first, -, hload⟩ := Play.outcome_start_eq_ok_iff.1 h
    exact ⟨id, id', Call.advances (c := .loadStage first.id) (grounded_begun _ id' world) hload⟩
  | call hs h ih =>
    obtain ⟨id, id', hadvances⟩ := ih
    exact ⟨id, id', hadvances.trans (Call.advances hs.played.underway.grounded h)⟩

/-- **The scripts for the first entry of a scene run once.**  In every session, the first entrance
of a scene is on record at most once.  Where nothing has failed it is on record if and only if the
scene was visited, and before every other entrance of the scene; so it is also while a call that
has not failed goes on.  And whatever leads to a scene, the entrance is put on record right before
the scripts of the scene run, and those for the first entry run if and only if it is the first
one. -/
theorem Played.first_entry_once (h : Played (fun _ _ => True) arrows world s) :
    (∀ id, s.entrances.count (id, true) ≤ 1) ∧
      (Flawless arrows world s → ∀ t, s.Advances t → ∀ id, t.EntersOnce id) ∧
      ∀ u, Underway arrows world u → ∀ run id, u.Entering run id := by
  refine ⟨fun id => (h.underway.atMostOnce id).trans (by split <;> decide), ?_, ?_⟩
  · intro hflawless t hadvances id
    obtain ⟨session, session', hbegun⟩ := hflawless.advances
    have hempty : ((Session.withArrows session arrows).begun session' world).entrances = [] := rfl
    refine Advances.entersOnce (hbegun.trans hadvances) ⟨rfl, ?_⟩
    intro before after hsplit
    rw [hempty] at hsplit
    simp at hsplit
  · intro u hu run id
    exact hu.grounded.entering run id

/-- A world whose hall leads to its attic at the first entry, and whose attic leads back. -/
def World.spiral : World where
  stages := [
    { id := "house"
      scenes := [
        { id := "hall", firstEntryActions := [.new (.goToScene "attic")] },
        { id := "attic", firstEntryActions := [.new (.goToScene "hall")] }] }]

set_option maxRecDepth 4096 in
/-- The hall is entered again while its scripts for the first entry run, but not for the first
time. -/
theorem first_entry_once_spiral :
    ∃ s, Flawless ["left"] .spiral s ∧
      s.entrances = [("hall", true), ("attic", true), ("hall", false)] ∧
      (∀ id, s.entrances.count (id, true) ≤ 1) ∧ ∀ id, s.EntersOnce id := by
  have hflawless := @Flawless.start ["left"] .spiral 4 (.ofNat 0) (.ofNat 1) _ rfl
  obtain ⟨hcount, honce, -⟩ := hflawless.played.first_entry_once
  exact ⟨_, hflawless, rfl, hcount, honce hflawless _ .refl⟩

end

end Adventure
