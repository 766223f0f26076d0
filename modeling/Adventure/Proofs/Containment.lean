import Adventure.Proofs.Registration
import Adventure.Proofs.Steps

/-!
# What is on screen

Objects are shown only if the current scene reacts to them, backgrounds only if they are that of the
current scene, and a code input only if the current scene has one.  When a scene is left, what is
hidden is what the scene reacts to, so this needs that a scene is not replaced by another one of its
id while it is current.

## Main definitions

* `Session.Contained`: what is on screen belongs to the current scene
* `Session.Blank`: nothing of a scene is on screen
* `Session.isArrow`: an id stands for an arrow
* `Session.opened`: a message was opened, and nothing is hidden yet

## Main results

* `Contained.arrow_of_hidden`: hiding the current scene leaves at most arrows on screen
* `Contained.left`: nothing of a scene that is left stays on screen
* `Underway.contained`: what is on screen between two steps
* `Played.display_contained`: what is on screen in every session
-/

namespace Adventure

open Session

/-! ## Cues that show and hide -/

namespace Display

variable (d : Display)

theorem contains_objects_hide (ids : List String) (x : String) :
    ((ids.map Cue.hideObject).foldl perform d).objects.contains x =
      (d.objects.contains x && !decide (x ∈ ids)) := by
  induction ids generalizing d with
  | nil => simp
  | cons id ids ih =>
    have hid : (d.perform (.hideObject id)).objects = Table.erase d.objects id := rfl
    rw [List.map_cons, List.foldl_cons, ih, hid, Table.contains_erase]
    by_cases hx : x = id <;> simp [hx]

theorem contains_objects_plan {plan : List (String × Bool)} {x : String}
    (h : ((planCues plan).foldl perform d).objects.contains x = true) :
    d.objects.contains x = true ∨ x ∈ plan.map Prod.fst := by
  induction plan generalizing d with
  | nil => exact .inl h
  | cons e plan ih =>
    obtain ⟨id, visible⟩ := e
    rcases ih _ h with h | h
    · by_cases hx : x = id
      · exact .inr (by simp [hx])
      · refine .inl ?_
        cases visible with
        | true =>
          have hshow : (Names.add d.objects id).contains x = true := h
          simpa [Names.contains_add, hx] using hshow
        | false =>
          have hhide : (Table.erase d.objects id).contains x = true := h
          simpa [Table.contains_erase, hx] using hhide
    · exact .inr (by simp [h])

end Display

theorem forall₂_of_mapM_eq_ok {α β ε : Type} {f : α → Except ε β} {l : List α} {m : List β}
    (h : l.mapM f = .ok m) : l.Forall₂ (fun a b => f a = .ok b) m := by
  induction l generalizing m with
  | nil =>
    cases h
    exact .nil
  | cons a l ih =>
    rw [List.mapM_cons] at h
    obtain ⟨b, hb, h⟩ := bind_eq_ok_iff.1 h
    obtain ⟨bs, hbs, h⟩ := bind_eq_ok_iff.1 h
    cases h
    exact .cons hb (ih hbs)

namespace Session

variable {s t : Session}

theorem visibility_ok {interactive : List (String × Script)} {plan : List (String × Bool)}
    (h : s.visibility interactive = .ok plan) :
    interactive.Forall₂ (fun e p => e.1 = p.1 ∧ e.2.anyActive s.player = .ok p.2) plan := by
  apply (forall₂_of_mapM_eq_ok h).imp
  intro e p hp
  obtain ⟨object, -, hp⟩ := bind_eq_ok_iff.1 hp
  obtain ⟨active, hactive, hp⟩ := bind_eq_ok_iff.1 hp
  cases hp
  exact ⟨rfl, hactive⟩

/-- A plan is about the objects that the current scene reacts to, in order. -/
theorem keys_of_plan {plan : List (String × Bool)} (h : s.plan? = .ok plan) {scene : Scene}
    (hhere : s.here? = some scene) : scene.interactive.keys = plan.map Prod.fst := by
  unfold plan? at h
  rw [hhere] at h
  rw [Table.keys, ← List.forall₂_eq_eq_eq, List.forall₂_map_left_iff, List.forall₂_map_right_iff]
  exact (visibility_ok h).imp fun _ _ => And.left

theorem exists_scene_of_plan {plan : List (String × Bool)} (h : s.plan? = .ok plan) {id : String}
    (hid : id ∈ plan.map Prod.fst) :
    ∃ scene, s.here? = some scene ∧ scene.interactive.contains id = true := by
  cases hhere : s.here? with
  | none =>
    unfold plan? at h
    rw [hhere] at h
    cases h
    cases hid
  | some scene => exact ⟨scene, rfl, Table.mem_keys_iff.1 (keys_of_plan h hhere ▸ hid)⟩

/-- Hiding the current scene leaves only what was on screen and is not hidden. -/
theorem contains_objects_hidden (s : Session) (keepArrows : Bool) (x : String) :
    (s.hidden keepArrows).display.objects.contains x =
      (s.display.objects.contains x &&
        !(s.here?.elim false fun scene => decide (x ∈ s.hideable keepArrows scene))) := by
  unfold hidden hidingCues
  cases s.here? with
  | none => simp
  | some scene =>
    have hinput : ∀ d : Display, (List.foldl Display.perform d
        (if !keepArrows && scene.showsCodeInput then [.hideCodeInput] else [])).objects =
          d.objects := by
      intro d
      split <;> rfl
    simp only [cued, List.foldl_append, hinput, Display.contains_objects_hide, Option.elim_some]

theorem codeInput_hidden (s : Session) (keepArrows : Bool) :
    (s.hidden keepArrows).display.codeInput =
      match s.here? with
      | some scene =>
        if !keepArrows && scene.showsCodeInput then none else s.display.codeInput
      | none => s.display.codeInput := by
  unfold hidden hidingCues
  cases s.here? with
  | none => rfl
  | some scene =>
    have hobjects : (s.cued ((s.hideable keepArrows scene).map .hideObject)).display.codeInput =
        s.display.codeInput :=
      (cues_cued (about_hideObjects _)).codeInput (by simp)
    simp only [← cued_cued]
    split
    · rfl
    · exact hobjects

/-! ## What is on screen -/

/-- **What is on screen** belongs to the current scene, all of whose objects are known. -/
structure Contained (s : Session) : Prop where
  objects : ∀ {id}, s.display.objects.contains id = true →
    ∃ scene, s.here? = some scene ∧ scene.interactive.contains id = true
  known : ∀ {scene id}, s.here? = some scene → scene.interactive.contains id = true →
    s.catalog.objects.contains id = true
  backgrounds : ∀ {id}, s.display.backgrounds.contains id = true →
    s.player.currentScene = some id ∧ s.catalog.backgrounds.contains id = true
  codeInput : s.display.codeInput.isSome = true →
    ∃ scene, s.here? = some scene ∧ scene.showsCodeInput = true

/-- Nothing of a scene is on screen. -/
structure Blank (s : Session) : Prop where
  objects : ∀ id, s.display.objects.contains id = false
  backgrounds : ∀ id, s.display.backgrounds.contains id = false
  codeInput : s.display.codeInput = none

theorem here?_congr (hc : t.catalog = s.catalog)
    (hp : t.player.currentScene = s.player.currentScene) : t.here? = s.here? := by
  rw [here?, here?, hc, hp]

/-- Changes elsewhere leave on screen what is there. -/
theorem Contained.of_cues {parts : List Part} (h : s.Contained) (hcues : s.Cues parts t)
    (ho : .objects ∉ parts) (hb : .backgrounds ∉ parts) (hi : .codeInput ∉ parts)
    (hc : t.catalog = s.catalog) (hp : t.player.currentScene = s.player.currentScene) :
    t.Contained where
  objects := by rw [hcues.objects ho, here?_congr hc hp]; exact h.objects
  known := by rw [here?_congr hc hp, hc]; exact h.known
  backgrounds := by rw [hcues.backgrounds hb, hp, hc]; exact h.backgrounds
  codeInput := by rw [hcues.codeInput hi, here?_congr hc hp]; exact h.codeInput

theorem Contained.congr (h : s.Contained) (hc : t.catalog = s.catalog)
    (hp : t.player.currentScene = s.player.currentScene) (hd : t.display = s.display) :
    t.Contained :=
  h.of_cues (.of_display hd) (by simp) (by simp) (by simp) hc hp

/-- Less may be on screen. -/
theorem Contained.hidden (h : s.Contained) (keepArrows : Bool) :
    (s.hidden keepArrows).Contained where
  objects hid := by
    rw [contains_objects_hidden, Bool.and_eq_true] at hid
    exact h.objects hid.1
  known := h.known
  backgrounds := by
    rw [(cues_hidden s keepArrows).backgrounds (by simp)]
    exact h.backgrounds
  codeInput hsome := by
    rw [codeInput_hidden] at hsome
    split at hsome
    · split at hsome
      · cases hsome
      · exact h.codeInput hsome
    · exact h.codeInput hsome

/-- Whether an id stands for a known arrow. -/
def isArrow (s : Session) (id : String) : Bool := (s.catalog.objects.get? id).any Object.isArrow

/-- **Hiding the current scene** hides all objects on screen, except for arrows that are kept. -/
theorem Contained.arrow_of_hidden (h : s.Contained) {keepArrows : Bool} {id : String}
    (hid : (s.hidden keepArrows).display.objects.contains id = true) :
    keepArrows = true ∧ s.isArrow id = true := by
  rw [contains_objects_hidden, Bool.and_eq_true] at hid
  obtain ⟨hvisible, hkept⟩ := hid
  -- What is shown is known, so it is hidden unless it is kept.
  obtain ⟨scene, hscene, hkey⟩ := h.objects hvisible
  obtain ⟨object, hobject⟩ := Table.contains_iff.1 (h.known hscene hkey)
  have hmem : id ∈ scene.interactive.keys := Table.mem_keys_iff.2 hkey
  simpa [hscene, hideable, hmem, hobject, isArrow] using hkept

/-- Hiding the current scene hides the code input on screen, unless arrows are kept. -/
theorem Contained.codeInput_hidden (h : s.Contained) :
    (s.hidden false).display.codeInput = none := by
  rw [Session.codeInput_hidden]
  cases hi : s.display.codeInput with
  | none =>
    split
    · split <;> rfl
    · rfl
  | some input =>
    obtain ⟨scene, hscene, hshows⟩ := h.codeInput (by rw [hi]; rfl)
    simp [hscene, hshows]

theorem Contained.covered (h : s.Contained) : (s.cued s.coverCues).Contained := by
  unfold coverCues
  split
  · exact h.hidden false
  · split
    · exact h.hidden true
    · exact h

theorem exists_scene_of_input (h : s.inputCues ≠ []) :
    ∃ scene, s.here? = some scene ∧ scene.showsCodeInput = true := by
  unfold inputCues at h
  cases hhere : s.here? with
  | none => simp [hhere] at h
  | some scene =>
    refine ⟨scene, rfl, ?_⟩
    cases hshows : scene.showsCodeInput with
    | true => rfl
    | false =>
      have hnone : s.codeInput? scene = none := by
        unfold codeInput?
        cases scene.puzzle <;> simp [hshows]
      simp [hhere, hnone] at h

/-- The code input is shown only in a scene that has one. -/
theorem Contained.input (h : s.Contained) : (s.cued s.inputCues).Contained where
  objects := by
    rw [(cues_cued (about_inputCues s)).objects (by simp)]
    exact h.objects
  known := h.known
  backgrounds := by
    rw [(cues_cued (about_inputCues s)).backgrounds (by simp)]
    exact h.backgrounds
  codeInput hsome := by
    by_cases hinput : s.inputCues = []
    · rw [hinput] at hsome
      exact h.codeInput hsome
    · exact exists_scene_of_input hinput

/-- The objects of a plan are shown only in a scene that reacts to them. -/
theorem Contained.planned (h : s.Contained) {plan : List (String × Bool)}
    (hplan : s.plan? = .ok plan) : (s.cued (planCues plan)).Contained where
  objects hid := by
    rcases Display.contains_objects_plan _ hid with hid | hid
    · exact h.objects hid
    · exact exists_scene_of_plan hplan hid
  known := h.known
  backgrounds := by
    rw [(cues_cued (about_planCues plan)).backgrounds (by simp)]
    exact h.backgrounds
  codeInput := by
    rw [(cues_cued (about_planCues plan)).codeInput (by simp)]
    exact h.codeInput

theorem Contained.shown (h : s.Contained) {plan : List (String × Bool)}
    (hplan : s.plan? = .ok plan) : (s.shown plan).Contained := by
  have hinput := (h.planned hplan).input
  rwa [inputCues_cued, cued_cued] at hinput

/-! ## Leaving and arriving -/

/-- **Nothing of a scene that is left stays on screen**, since all its objects are known. -/
theorem Contained.left (h : s.Contained) : s.left.Blank := by
  cases hid : s.player.currentScene with
  | none =>
    have hhere := here?_of_none hid
    rw [left_of_none hid]
    constructor
    · intro id
      cases ho : s.display.objects.contains id with
      | false => rfl
      | true =>
        obtain ⟨scene, hscene, -⟩ := h.objects ho
        cases hhere.symm.trans hscene
    · intro id
      cases hb : s.display.backgrounds.contains id with
      | false => rfl
      | true => cases hid.symm.trans (h.backgrounds hb).1
    · cases hi : s.display.codeInput with
      | none => rfl
      | some input =>
        obtain ⟨scene, hscene, -⟩ := h.codeInput (by rw [hi]; rfl)
        cases hhere.symm.trans hscene
  | some current =>
    have hdisplay : s.left.display =
        ((s.hidden false).cued (s.backdropCues .hideBackground current)).display := by
      simp [Session.left, leavingCues, hid, Session.hidden, cued]
    have hcues : (s.hidden false).Cues [.backgrounds]
        ((s.hidden false).cued (s.backdropCues .hideBackground current)) :=
      cues_cued (about_backdropCues s current rfl)
    constructor
    · intro id
      rw [hdisplay, hcues.objects (by simp)]
      cases ho : (s.hidden false).display.objects.contains id with
      | false => rfl
      | true => cases (h.arrow_of_hidden ho).1
    · intro id
      have hhidden : (s.hidden false).display.backgrounds = s.display.backgrounds :=
        (cues_hidden s false).backgrounds (by simp)
      rw [hdisplay]
      unfold Session.backdropCues
      -- A background that is not known cannot be on screen.
      split
      · have herase : ((s.hidden false).cued [.hideBackground current]).display.backgrounds =
            Table.erase (s.hidden false).display.backgrounds current := rfl
        rw [herase, hhidden, Table.contains_erase]
        cases hb : s.display.backgrounds.contains id with
        | false => exact Bool.and_false _
        | true =>
          obtain rfl : current = id := Option.some.inj (hid.symm.trans (h.backgrounds hb).1)
          simp
      · next hunknown =>
        rw [cued_nil, hhidden]
        cases hb : s.display.backgrounds.contains id with
        | false => rfl
        | true =>
          obtain ⟨hcurrent, hknown⟩ := h.backgrounds hb
          obtain rfl : current = id := Option.some.inj (hid.symm.trans hcurrent)
          exact absurd hknown hunknown
    · rw [hdisplay, hcues.codeInput (by simp), h.codeInput_hidden]

theorem contains_of_unknown? {ids : List String} (h : Play.unknown? s ids = none) :
    ∀ id ∈ ids, s.catalog.objects.contains id = true := by
  intro id hid
  simpa using List.find?_eq_none.1 h id hid

/-- At the arrival in a scene whose objects are known, nothing but its background is shown. -/
theorem Blank.arrived (h : s.Blank) {id : String} {scene : Scene}
    (hscene : s.catalog.scenes.get? id = some scene)
    (hknown : Play.unknown? s scene.interactive.keys = none) : (s.arrived id).Contained where
  objects hobject := by
    rw [(cues_arrived s id).objects (by simp), h.objects] at hobject
    cases hobject
  known hhere hkey := by
    obtain rfl := Option.some.inj (hhere.symm.trans hscene)
    exact contains_of_unknown? hknown _ (Table.mem_keys_iff.2 hkey)
  backgrounds {other} hother := by
    have hdisplay : (s.arrived id).display =
      (s.backdropCues .showBackground id).foldl Display.perform s.display := rfl
    rw [hdisplay, Session.backdropCues] at hother
    split at hother
    · next hbackdrop =>
      have hadd : (Names.add s.display.backgrounds id).contains other = true := hother
      rw [Names.contains_add, h.backgrounds, Bool.or_false, decide_eq_true_iff] at hadd
      subst hadd
      exact ⟨rfl, hbackdrop⟩
    · rw [List.foldl_nil, h.backgrounds] at hother
      cases hother
  codeInput hsome := by
    rw [(cues_arrived s id).codeInput (by simp), h.codeInput] at hsome
    cases hsome

/-- A scene is entered from another one. -/
theorem Contained.entered (h : s.Contained) {id : String} {plan : List (String × Bool)}
    (hplan : s.plan? = .ok plan) (first : Bool) : (s.entered id plan first).Contained := by
  have hcover := (h.shown hplan).covered
  exact hcover.congr rfl rfl rfl

/-- The session whose message box was just opened, before anything is hidden. -/
def opened (s : Session) (text : String) (buttons : List String) (pending : Option (List Script))
    (noticeOpen : Bool) : Session :=
  { s with player := { s.player with pending }, noticeOpen }.cued [.showMessage text buttons]

theorem noticed_eq_hidden (s : Session) (text : String) :
    s.noticed text = (s.opened text [] none true).hidden true := rfl

theorem blocked_eq_hidden (s : Session) (text : String) (buttons : List String)
    (scripts : List Script) :
    s.blocked text buttons scripts =
      (s.opened text buttons (some scripts) false).hidden false := rfl

theorem Contained.opened (h : s.Contained) (text : String) (buttons : List String)
    (pending : Option (List Script)) (noticeOpen : Bool) :
    (s.opened text buttons pending noticeOpen).Contained :=
  h.of_cues ⟨_, rfl, about_showMessage text buttons⟩ (by simp) (by simp) (by simp) rfl rfl

/-! ## Stages -/

/-- A stage becomes known while the current scene stays as it is. -/
theorem Contained.finished (h : s.Contained) (stage : Stage) (scenes : List Scene)
    (hhere : (s.finished stage scenes).here? = s.here?) :
    (s.finished stage scenes).Contained where
  objects := by
    rw [(cues_finished s stage scenes).objects (by simp), hhere]
    exact h.objects
  known hscene hkey := by
    rw [hhere] at hscene
    exact (Catalog.within_learnAll s.catalog scenes stage.audio).contains_objects
      (h.known hscene hkey)
  backgrounds := by
    rw [(cues_finished s stage scenes).backgrounds (by simp)]
    exact fun hid => ⟨(h.backgrounds hid).1,
      (Catalog.within_learnAll s.catalog scenes stage.audio).backgrounds (h.backgrounds hid).2⟩
  codeInput := by
    rw [(cues_finished s stage scenes).codeInput (by simp), hhere]
    exact h.codeInput

/-- **A scene is not replaced by another one** of its id when its stage is loaded again. -/
theorem Registered.here?_finished {w : World} (hw : w.DistinctScenes) (h : s.Registered w)
    (hg : s.Grounded) {id : String} {stage : Stage} {scenes : List Scene}
    (hstage : s.stage id = .ok stage) (hscenes : s.resolve [] stage.scenes = .ok scenes) :
    (s.finished stage scenes).here? = s.here? := by
  have hlater := h.finished hstage hscenes
  have hg' := hg.finished stage scenes
  cases hid : s.player.currentScene with
  | none => exact (here?_of_none hid).symm ▸ here?_of_none (s := s.finished stage scenes) hid
  | some current =>
    obtain ⟨scene, hscene, hget⟩ := hg.here?_of_some hid
    obtain ⟨scene', hscene', hget'⟩ :=
      hg'.here?_of_some (s := s.finished stage scenes) hid
    -- Both are registered under one id.
    have hsame : scene = scene' := by
      apply (h.scenes hget).unique hw (hlater.scenes hget')
      rw [hg.keyed hget, hg'.keyed hget']
    rw [hscene, hscene', hsame]

theorem Contained.requested (h : s.Contained) (id : String) : (s.requested id).Contained :=
  h.of_cues (cues_requested s id) (by simp) (by simp) (by simp) rfl rfl

theorem Contained.noticeClosed (h : s.Contained) : s.noticeClosed.Contained :=
  h.of_cues (cues_noticeClosed s) (by simp) (by simp) (by simp) rfl rfl

theorem Contained.answered (h : s.Contained) : s.answered.Contained :=
  h.of_cues (cues_answered s) (by simp) (by simp) (by simp) rfl rfl

end Session

/-! ## Steps -/

section Steps

variable {P : Policy} {s t : Session} {e : Error} {w : World}

theorem Asked.contained {stage : String} (h : Asked P s stage t) (hs : s.Contained) :
    t.Contained := by
  cases h with
  | direct => exact hs
  | @code puzzle code =>
    have hrecorded :
        Contained { s with player := s.player.recordAnswer puzzle (Text.trim code) } :=
      hs.congr rfl rfl rfl
    exact hrecorded.input

theorem Move.contained (hw : w.DistinctScenes) (h : Move P s t) (hg : s.Grounded)
    (hr : s.Registered w) (hs : s.Contained) : t.Contained := by
  cases h with
  | enter ha he hscene hknown hplan => exact (hs.left.arrived hscene hknown).entered hplan _
  | hide => exact hs.hidden false
  | notice text =>
    rw [noticed_eq_hidden]
    exact (hs.opened text [] none true).hidden true
  | @block a text buttons scripts =>
    rw [blocked_eq_hidden]
    exact (hs.opened text buttons (some scripts) false).hidden false
  | close ho hplan => exact hs.noticeClosed.shown hplan
  | answer hp hplan => exact hs.answered.shown hplan
  | tune => exact hs.of_cues (cues_tuned s _) (by simp) (by simp) (by simp) rfl rfl
  | schedule => exact hs.of_cues (cues_scheduled s _ _) (by simp) (by simp) (by simp) rfl rfl
  | clear =>
    refine ⟨hs.objects, hs.known, hs.backgrounds, fun hsome => hs.codeInput ?_⟩
    have hmap : (s.cued [.clearCodeInput]).display.codeInput =
      s.display.codeInput.map fun input => (input.1, "") := rfl
    rwa [hmap, Option.isSome_map] at hsome
  | @preload id stage u h =>
    exact ((h.contained hs).requested id).of_cues (cues_preloading _ stage) (by simp) (by simp)
      (by simp) rfl rfl
  | @load id stage scenes u h hstage hneeds hscenes =>
    have hu : (u.requested id).Registered w := (h.registered hr).congr rfl rfl
    have hgu : (u.requested id).Grounded := (h.grounded hg).congr rfl rfl rfl
    exact ((h.contained hs).requested id).finished stage scenes
      (hu.here?_finished hw hgu hstage hscenes)
  | @complete batch id stage scenes h hstage hscenes =>
    have hreported : (s.reported batch).Contained := hs.congr rfl rfl rfl
    have hr' : (s.reported batch).Registered w := hr.congr rfl rfl
    have hg' : (s.reported batch).Grounded := hg.congr rfl rfl rfl
    exact hreported.finished stage scenes (hr'.here?_finished hw hg' hstage hscenes)
  | fade | swell | play | stop | redirect =>
    refine hs.of_cues (@cues_cued s [.playing, .redirect] _ ?_) (by simp) (by simp) (by simp) rfl rfl
    simp [Cue.About, Cue.part?]
  | assign | increment | fire | queue => exact hs.congr rfl rfl rfl
  | reportBatches | reportTimers => exact ⟨hs.objects, hs.known, hs.backgrounds, hs.codeInput⟩

theorem Halt.contained (h : Halt P s e t) (hs : s.Contained) : t.Contained := by
  cases h with
  | reject => exact hs
  | strand ha he hscene hknown => exact hs.left.arrived hscene hknown
  | close => exact hs.noticeClosed
  | answer => exact hs.answered
  | unstaged h => exact h.contained hs
  | @unresolved id _ u _ h => exact (h.contained hs).requested id
  | incomplete => exact hs.congr rfl rfl rfl

end Steps

/-! ## Sessions -/

theorem Session.Blank.contained {s : Session} (h : s.Blank) (hid : s.player.currentScene = none) :
    s.Contained where
  objects {id} hobject := by
    rw [h.objects id] at hobject
    cases hobject
  known hscene := by
    rw [here?_of_none hid] at hscene
    cases hscene
  backgrounds {id} hbackground := by
    rw [h.backgrounds id] at hbackground
    cases hbackground
  codeInput hsome := by
    rw [h.codeInput] at hsome
    cases hsome

namespace Underway

variable {arrows : List String} {world : World} {s : Session}

theorem registered (h : Underway arrows world s) : s.Registered world := by
  refine h.invariant (I := fun s => s.Registered world)
    (fun id => registered_withArrows id arrows world)
    (fun id id' => registered_begun _ id' world) ?_
  intro s t _ hs hstep
  cases hstep with
  | move h => exact h.registered hs
  | halt h => exact h.registered hs

/-- **What is on screen belongs to the current scene**, also between two steps. -/
theorem contained (hw : world.DistinctScenes) (h : Underway arrows world s) : s.Contained := by
  refine h.invariant ?_ ?_ ?_
  · intro id
    exact Blank.contained ⟨fun _ => rfl, fun _ => rfl, rfl⟩ rfl
  · intro id id'
    have hcues := cues_begun (withArrows id arrows) id' world
    refine Blank.contained ⟨?_, ?_, ?_⟩ rfl
    · intro object
      rw [hcues.objects (by simp)]
      rfl
    · intro scene
      rw [hcues.backgrounds (by simp)]
      rfl
    · rw [hcues.codeInput (by simp)]
      rfl
  · intro s t hunder hs hstep
    cases hstep with
    | move h => exact h.contained hw hunder.grounded hunder.registered hs
    | halt h => exact h.contained hs

end Underway

theorem Played.contained {arrows : List String} {world : World} (hw : world.DistinctScenes)
    {s : Session} (h : Played (fun _ _ => True) arrows world s) : s.Contained :=
  h.underway.contained hw

/-- **What is on screen belongs to the current scene**, in every session of a world that declares no
scene twice: the objects are ones that the scene reacts to, and all such objects are known; the
background is that of the scene; a code input is there only if the scene has one.  Without a current
scene nothing is on screen. -/
theorem Played.display_contained {arrows : List String} {world : World}
    (hw : world.DistinctScenes) {s : Session} (h : Played (fun _ _ => True) arrows world s) :
    s.Contained ∧ (s.player.currentScene = none → s.display.objects = ∅ ∧
      s.display.backgrounds = ∅ ∧ s.display.codeInput = none) := by
  have hs := h.contained hw
  refine ⟨hs, ?_⟩
  intro hid
  -- To leave where no scene is current changes nothing.
  have hblank : s.Blank := left_of_none hid ▸ hs.left
  refine ⟨Table.ext_get? ?_, Table.ext_get? ?_, hblank.codeInput⟩
  · intro id
    rw [Table.get?_empty, Table.get?_eq_none_iff]
    exact hblank.objects id
  · intro id
    rw [Table.get?_empty, Table.get?_eq_none_iff]
    exact hblank.backgrounds id

theorem World.distinctScenes_gate : World.gate.DistinctScenes := by
  unfold World.DistinctScenes
  decide

/-- The door of the gate is on screen after the start, since the road reacts to it. -/
theorem display_contained_gate :
    ∃ s, Played (fun _ _ => True) ["left"] .gate s ∧
      s.display.objects.contains "door" = true ∧
      ∃ scene, s.here? = some scene ∧ scene.interactive.contains "door" = true := by
  have hplayed := @Played.start (fun _ _ => True) ["left"] .gate 3 (.ofNat 0) (.ofNat 1) _ _ rfl
  exact ⟨_, hplayed, rfl, (hplayed.display_contained World.distinctScenes_gate).1.objects rfl⟩

end Adventure
