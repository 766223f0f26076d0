import Adventure.Proofs.Cues
import Adventure.Session.Scenes

/-!
# Outcomes of the operations on scenes

In a session whose current scene is known, hiding and leaving cannot fail, and a scene is shown
unless a guard of its interactions cannot be evaluated.

## Main definitions

* `Session.Grounded`: scenes are known under their ids, and the current scene is known
* `Session.hidden`, `Session.shown?`, `Session.left`, `Session.arrived`, `Session.entered`: the
  sessions that the operations lead to

## Main results

* `outcome_hideScene`, `outcome_showScene`: hiding and showing the current scene
* `outcome_goToScene`: the ways in which a scene is entered or not
-/

namespace Adventure

namespace Session

/-- Every scene is known under its id, and the current scene is known and was visited. -/
structure Grounded (s : Session) : Prop where
  keyed : ∀ {id scene}, s.catalog.scenes.get? id = some scene → scene.id = id
  known : ∀ {id}, s.player.currentScene = some id → s.catalog.scenes.contains id = true
  visited : ∀ {id}, s.player.currentScene = some id → s.player.hasVisited id = true

/-- The current scene, if it is known. -/
def here? (s : Session) : Option Scene := s.player.currentScene.bind s.catalog.scenes.get?

/-! ## What is shown and hidden -/

/-- The cues that hide the objects of the current scene, arrows aside if they are kept, and its
code input unless arrows are kept. -/
def hidingCues (s : Session) (keepArrows : Bool) : List Cue :=
  match s.here? with
  | some scene =>
    (s.hideable keepArrows scene).map .hideObject ++
      if !keepArrows && scene.showsCodeInput then [.hideCodeInput] else []
  | none => []

/-- The cues that show or hide objects as planned. -/
def planCues (plan : List (String × Bool)) : List Cue :=
  plan.map fun e => if e.2 then .showObject e.1 else .hideObject e.1

/-- For each object of the current scene, whether it is to be shown. -/
def plan? (s : Session) : Except Error (List (String × Bool)) :=
  match s.here? with
  | some scene => s.visibility scene.interactive.entries
  | none => .ok []

/-- The cue that shows the code input of the current scene, if it has one. -/
def inputCues (s : Session) : List Cue :=
  match s.here?.bind s.codeInput? with
  | some (enabled, prefill) => [.showCodeInput enabled prefill]
  | none => []

/-- The session with the current scene hidden. -/
def hidden (s : Session) (keepArrows : Bool) : Session := s.cued (s.hidingCues keepArrows)

/-- The session with the objects of the current scene as planned, and with its code input. -/
def shown (s : Session) (plan : List (String × Bool)) : Session :=
  s.cued (planCues plan ++ s.inputCues)

/-! ## From one scene to the next -/

/-- The cue for the background of a scene, if it is known. -/
def backdropCues (s : Session) (cue : String → Cue) (id : String) : List Cue :=
  if s.catalog.backgrounds.contains id then [cue id] else []

/-- The cues that hide the current scene and its background. -/
def leavingCues (s : Session) : List Cue :=
  match s.player.currentScene with
  | some id => s.hidingCues false ++ s.backdropCues .hideBackground id
  | none => []

/-- The session after the current scene was left. -/
def left (s : Session) : Session :=
  { s with player := { s.player with currentScene := none } }.cued s.leavingCues

/-- The session at its arrival in a scene, of which nothing but the background is shown. -/
def arrived (s : Session) (id : String) : Session :=
  { s with player := { s.player with currentScene := some id }.markVisited id }.cued
    (s.backdropCues .showBackground id)

/-- The cues that hide again what an open message hides. -/
def coverCues (s : Session) : List Cue :=
  if s.player.isBlocked then s.hidingCues false
  else if s.noticeOpen then s.hidingCues true
  else []

/-- The session in which the scene of the arrival is shown as planned, as far as an open message
lets it be shown. -/
def entered (s : Session) (id : String) (plan : List (String × Bool)) (first : Bool) : Session :=
  ((s.shown plan).cued s.coverCues).noted (.sceneEntered id first)

variable {s : Session}

theorem Grounded.here?_of_some (hs : s.Grounded) {id : String}
    (h : s.player.currentScene = some id) :
    ∃ scene, s.here? = some scene ∧ s.catalog.scenes.get? id = some scene := by
  obtain ⟨scene, hscene⟩ := Table.contains_iff.1 (hs.known h)
  exact ⟨scene, by simp [here?, h, hscene], hscene⟩

theorem here?_of_none (h : s.player.currentScene = none) : s.here? = none := by
  simp [here?, h]

theorem here?_eq_some {scene : Scene} (h : s.here? = some scene) :
    ∃ id, s.player.currentScene = some id ∧ s.catalog.scenes.get? id = some scene := by
  simpa [here?, Option.bind_eq_some_iff] using h

theorem currentScene_of_here? {scene : Scene} (h : s.here? = some scene) :
    s.currentScene = .ok scene := by
  obtain ⟨id, hid, hscene⟩ := here?_eq_some h
  simp [currentScene, hid, Catalog.scene, Catalog.look, hscene]

theorem currentScene_eq_ok {scene : Scene} (h : s.currentScene = .ok scene) :
    ∃ id, s.player.currentScene = some id ∧ s.catalog.scenes.get? id = some scene := by
  unfold currentScene at h
  split at h
  · next id hid => exact ⟨id, hid, Catalog.look_ok_iff.1 h⟩
  · cases h

/-! What is to be shown or hidden does not depend on the display. -/

section Cued

variable (cues : List Cue)

@[simp] theorem here?_cued : (s.cued cues).here? = s.here? := rfl
@[simp] theorem plan?_cued : (s.cued cues).plan? = s.plan? := rfl
@[simp] theorem inputCues_cued : (s.cued cues).inputCues = s.inputCues := rfl
@[simp] theorem hidingCues_cued : (s.cued cues).hidingCues = s.hidingCues := rfl
@[simp] theorem coverCues_cued : (s.cued cues).coverCues = s.coverCues := rfl

end Cued

theorem hidingCues_of_none (h : s.player.currentScene = none) (keepArrows : Bool) :
    s.hidingCues keepArrows = [] := by
  simp [hidingCues, here?_of_none h]

theorem left_of_none (h : s.player.currentScene = none) : s.left = s := by
  simp only [left, leavingCues, h, cued_nil]
  rw [← h]

theorem Grounded.cued (hs : s.Grounded) (cues : List Cue) : (s.cued cues).Grounded :=
  ⟨hs.keyed, hs.known, hs.visited⟩

theorem Grounded.left (hs : s.Grounded) : s.left.Grounded where
  keyed := hs.keyed
  known := by
    rintro _ ⟨⟩
  visited := by
    rintro _ ⟨⟩

theorem Grounded.arrived (hs : s.Grounded) {id : String}
    (h : s.catalog.scenes.contains id = true) : (s.arrived id).Grounded where
  keyed := hs.keyed
  known := by
    rintro _ ⟨⟩
    exact h
  visited := by
    rintro _ ⟨⟩
    simp [Session.arrived, Player.markVisited, Player.hasVisited, Names.contains_add]

/-! Which parts of the display are changed. -/

section About

open Cue

variable (s)

theorem about_hideObjects (ids : List String) : About [.objects] (ids.map hideObject) := by
  intro c hc p hp
  obtain ⟨id, -, rfl⟩ := List.mem_map.1 hc
  simpa [part?, eq_comm] using hp

theorem about_backdropCues {c : String → Cue} (id : String)
    (h : (c id).part? = some .backgrounds) : About [.backgrounds] (s.backdropCues c id) := by
  unfold Session.backdropCues
  split <;> simp [About, h]

theorem about_hidingCues (keepArrows : Bool) :
    About [.objects, .codeInput] (s.hidingCues keepArrows) := by
  unfold hidingCues
  split
  · next scene hscene =>
    have hobjects : About [.objects] ((s.hideable keepArrows scene).map hideObject) :=
      about_hideObjects _
    have hinput : About [.codeInput]
        (if !keepArrows && scene.showsCodeInput then [hideCodeInput] else []) := by
      split <;> simp [About, part?]
    exact hobjects.append hinput
  · exact .nil

theorem about_planCues (plan : List (String × Bool)) : About [.objects] (planCues plan) := by
  intro c hc p hp
  obtain ⟨e, -, rfl⟩ := List.mem_map.1 hc
  split at hp <;> simpa [part?, eq_comm] using hp

theorem about_inputCues : About [.codeInput] s.inputCues := by
  unfold inputCues
  split <;> simp [About, part?]

theorem about_coverCues : About [.objects, .codeInput] s.coverCues := by
  unfold coverCues
  split
  · exact about_hidingCues s false
  · split
    · exact about_hidingCues s true
    · exact .nil

theorem cues_hidden (keepArrows : Bool) : s.Cues [.objects, .codeInput] (s.hidden keepArrows) :=
  cues_cued (about_hidingCues s keepArrows)

theorem cues_shown (plan : List (String × Bool)) : s.Cues [.objects, .codeInput] (s.shown plan) :=
  cues_cued ((about_planCues plan).append (about_inputCues s))

theorem cues_left : s.Cues [.objects, .codeInput, .backgrounds] s.left := by
  refine ⟨s.leavingCues, rfl, ?_⟩
  unfold leavingCues
  split
  · next id hid => exact (about_hidingCues s false).append (about_backdropCues s id rfl)
  · exact .nil

theorem cues_arrived (id : String) : s.Cues [.backgrounds] (s.arrived id) :=
  ⟨s.backdropCues .showBackground id, rfl, about_backdropCues s id rfl⟩

theorem cues_entered (id : String) (plan : List (String × Bool)) (first : Bool) :
    s.Cues [.objects, .codeInput] (s.entered id plan first) := by
  have hcovered : s.Cues _ ((s.shown plan).cued s.coverCues) :=
    (cues_shown s plan).trans (cues_cued (about_coverCues s))
  exact hcovered.mono (by simp)

/-- A scene is left, and the player arrives in another one. -/
theorem cues_stranded (id : String) :
    s.Cues [.objects, .codeInput, .backgrounds] (s.left.arrived id) := by
  have hcues := (cues_left s).trans (cues_arrived s.left id)
  exact hcues.mono (by simp)

/-- A scene is left, and another one is entered. -/
theorem cues_changed (id : String) (plan : List (String × Bool)) (first : Bool) :
    s.Cues [.objects, .codeInput, .backgrounds] ((s.left.arrived id).entered id plan first) := by
  have hcues := (cues_stranded s id).trans (cues_entered (s.left.arrived id) id plan first)
  exact hcues.mono (by simp)

end About

end Session

namespace Play

open Session

variable {s : Session}

/-- **Hiding** the current scene does not fail. -/
theorem outcome_hideScene (hs : s.Grounded) (keepArrows : Bool) :
    (hideScene keepArrows).outcome s = some (.ok (), s.hidden keepArrows) := by
  unfold hideScene
  cases hid : s.player.currentScene with
  | none => simp [outcome_bind, hid, Session.hidden, hidingCues, here?_of_none hid]
  | some id =>
    obtain ⟨scene, hscene, -⟩ := hs.here?_of_some hid
    simp only [outcome_bind, outcome_get, andThen_ok, hid, Option.isNone_some,
      Bool.false_eq_true, if_false, outcome_ask, currentScene_of_here? hscene, outcome_forM_cue]
    simp only [Session.hidden, hscene, hidingCues]
    split <;> simp

theorem outcome_hideInteractive (hs : s.Grounded) :
    hideInteractive.outcome s = some (.ok (), s.hidden false) :=
  outcome_hideScene hs false

theorem outcome_hideHotspots (hs : s.Grounded) :
    hideHotspots.outcome s = some (.ok (), s.hidden true) :=
  outcome_hideScene hs true

theorem outcome_forM_display (plan : List (String × Bool)) (s : Session) :
    (plan.forM display).outcome s = some (.ok (), s.cued (planCues plan)) :=
  outcome_forM_cue (fun e : String × Bool => if e.2 then .showObject e.1 else .hideObject e.1)
    plan s

theorem outcome_refreshObjects (hs : s.Grounded) {id : String}
    (hid : s.player.currentScene = some id) :
    refreshObjects.outcome s =
      match s.plan? with
      | .ok plan => some (.ok (), s.cued (planCues plan))
      | .error e => some (.error e, s) := by
  obtain ⟨scene, hscene, -⟩ := hs.here?_of_some hid
  unfold refreshObjects
  simp only [outcome_bind, outcome_ask, currentScene_of_here? hscene, andThen_ok, plan?, hscene]
  cases s.visibility scene.interactive.entries with
  | ok plan => exact outcome_forM_display plan s
  | error e => rfl

theorem outcome_refreshCodeInput (hs : s.Grounded) :
    refreshCodeInput.outcome s = some (.ok (), s.cued s.inputCues) := by
  unfold refreshCodeInput
  cases hid : s.player.currentScene with
  | none => simp [outcome_bind, hid, inputCues, here?_of_none hid]
  | some id =>
    obtain ⟨scene, hscene, -⟩ := hs.here?_of_some hid
    simp only [outcome_bind, outcome_get, andThen_ok, hid, Option.isNone_some,
      Bool.false_eq_true, if_false, outcome_ask, currentScene_of_here? hscene]
    simp only [inputCues, hscene, Option.bind_some]
    cases s.codeInput? scene with
    | none => simp
    | some input => simp

/-- **Showing** the current scene: its objects, and its code input behind them. -/
theorem outcome_showScene (hs : s.Grounded) {id : String}
    (hid : s.player.currentScene = some id) :
    (do refreshObjects; refreshCodeInput).outcome s =
      match s.plan? with
      | .ok plan => some (.ok (), s.shown plan)
      | .error e => some (.error e, s) := by
  simp only [outcome_bind, outcome_refreshObjects hs hid]
  cases s.plan? with
  | error e => rfl
  | ok plan =>
    refine (outcome_refreshCodeInput (hs.cued _)).trans ?_
    simp [shown]

theorem outcome_leaveScene (hs : s.Grounded) :
    leaveScene.outcome s = some (.ok (), s.left) := by
  unfold leaveScene
  -- The background is hidden last, by the id that was current.
  simp only [outcome_bind, outcome_hideInteractive hs, andThen_ok, outcome_get, Session.hidden,
    cued_player]
  cases hid : s.player.currentScene with
  | none => simp [left_of_none hid, hidingCues_of_none hid]
  | some id =>
    simp only [outcome_bind, outcome_player, andThen_ok, outcome_get, left, leavingCues, hid,
      backdropCues, cued_catalog]
    split <;> simp [cued]

theorem outcome_cover (hs : s.Grounded) : cover.outcome s = some (.ok (), s.cued s.coverCues) := by
  simp only [cover, outcome_bind, outcome_get, andThen_ok, outcome_ite,
    outcome_hideInteractive hs, outcome_hideHotspots hs, outcome_pure, Session.hidden, coverCues]
  split
  · rfl
  · split
    · rfl
    · simp

theorem outcome_arrive (s : Session) (id : String) :
    (arrive id).outcome s = some (.ok (s.player.hasVisited id), s.arrived id) := by
  simp only [arrive, outcome_bind, outcome_player, andThen_ok, outcome_get, arrived, backdropCues]
  split <;>
    simp only [outcome_bind, outcome_cue, outcome_pure, outcome_get, outcome_player, andThen_ok] <;>
    rfl

/-- **Arriving** in a known scene, up to its scripts. -/
theorem outcome_enterScene (hs : s.Grounded) (run : Script → Play Unit) {id : String}
    {scene : Scene} (h : s.catalog.scenes.get? id = some scene) :
    (enterScene run id).outcome s =
      match (s.arrived id).plan? with
      | .ok plan =>
        (do
          run (if s.player.hasVisited id then [] else scene.firstEntryActions)
          run scene.entryActions).outcome
            ((s.arrived id).entered id plan !s.player.hasVisited id)
      | .error e => some (.error e, s.arrived id) := by
  -- From here on the new scene is the current one, whether or not it can be shown.
  have ha : (s.arrived id).Grounded := hs.arrived (Table.contains_of_get? h)
  have hhere : (s.arrived id).player.currentScene = some id := rfl
  simp only [enterScene, outcome_bind, outcome_arrive, andThen_ok, outcome_refreshObjects ha hhere]
  cases (s.arrived id).plan? with
  | error e => rfl
  | ok plan =>
    have hlook : s.catalog.scene id = .ok scene := Catalog.look_ok_iff.2 h
    simp only [andThen_ok, outcome_bind, outcome_refreshCodeInput (ha.cued _), inputCues_cued,
      cued_cued, outcome_cover (ha.cued _), coverCues_cued, outcome_note, outcome_ask,
      noted_catalog, cued_catalog, entered, shown]
    rw [show (s.arrived id).catalog.scene id = .ok scene from hlook]
    simp only [andThen_ok, outcome_bind]

/-- An id in a list of objects that is not known. -/
def unknown? (s : Session) (ids : List String) : Option String :=
  ids.find? fun id => !s.catalog.objects.contains id

theorem outcome_requireObject (s : Session) (id : String) :
    (requireObject id).outcome s =
      if s.catalog.objects.contains id then some (.ok (), s)
      else some (.error (.notFound .object id), s) := by
  unfold requireObject
  cases h : s.catalog.objects.get? id <;>
    simp only [outcome_bind, outcome_ask, Catalog.object, Catalog.look, Table.contains, h] <;> rfl

theorem outcome_requireObjects (s : Session) (ids : List String) :
    (ids.forM requireObject).outcome s =
      match unknown? s ids with
      | some id => some (.error (.notFound .object id), s)
      | none => some (.ok (), s) := by
  induction ids with
  | nil => rfl
  | cons id ids ih =>
    rw [outcome_forM_cons, outcome_requireObject, unknown?, List.find?_cons]
    cases s.catalog.objects.contains id with
    | false => rfl
    | true => exact ih

theorem outcome_leaveAny (hs : s.Grounded) : leaveAny.outcome s = some (.ok (), s.left) := by
  simp only [leaveAny, outcome_bind, outcome_get, andThen_ok, outcome_ite, outcome_leaveScene hs,
    outcome_pure]
  split
  · rfl
  · next hnone => rw [left_of_none (by simpa using hnone)]

/-- **Entering** a scene: it is refused for an object that is not known, or fails for a guard, or
its scripts run. -/
theorem outcome_goToScene (hs : s.Grounded) (run : Script → Play Unit) (id : String) :
    (goToScene run id).outcome s =
      match s.catalog.scenes.get? id with
      | none => some (.error (.notFound .scene id), s)
      | some scene =>
        match unknown? s scene.interactive.keys with
        | some object => some (.error (.notFound .object object), s)
        | none =>
          match (s.left.arrived id).plan? with
          | .error e => some (.error e, s.left.arrived id)
          | .ok plan =>
            (do
              run (if s.player.hasVisited id then [] else scene.firstEntryActions)
              run scene.entryActions).outcome
                ((s.left.arrived id).entered id plan !s.player.hasVisited id) := by
  simp only [goToScene, outcome_bind, outcome_ask, Catalog.scene, Catalog.look]
  cases h : s.catalog.scenes.get? id with
  | none => rfl
  | some scene =>
    simp only [andThen_ok, outcome_bind, outcome_requireObjects]
    cases unknown? s scene.interactive.keys with
    | some object => rfl
    | none =>
      -- A scene is known under its own id, so the one that is entered is the one that was found.
      simp only [andThen_ok, outcome_bind, outcome_leaveAny hs, hs.keyed h]
      refine (outcome_enterScene hs.left run h).trans ?_
      cases (s.left.arrived id).plan? with
      | error e => rfl
      | ok plan => exact outcome_bind _ _ _

end Play

end Adventure
