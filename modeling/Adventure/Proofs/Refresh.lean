import Adventure.Proofs.CodeInput
import Adventure.Proofs.Replay

/-!
# Refreshed scenes

When a scene is entered, and when a message is closed, the current scene is shown again: each object
that it reacts to is shown or hidden, and so is its code input.  Cues are given for the current
scene only, so what else is on screen stays there.  But nothing else is, and no object is named
twice; so a refresh leaves exactly what the guards and the answers say.

A message that is opened then hides a part of it and changes nothing that guards ask for.  So when
it is closed again, the screen is what it was before.

## Main definitions

* `Session.Exact`: what is on screen is what the guards and the answers say
* `Session.Refreshes`: calls that end with a refresh
* `Session.Restores`: a message that is opened and closed leaves the screen as it was

## Main results

* `Session.Contained.exact_shown`: a refresh makes the screen exact
* `Session.Exact.sameScreen`: what is exact depends only on what is known and reached
* `Played.display_exact`: the screen after a refresh
-/

namespace Adventure

open Session

/-! ## Plans -/

theorem Table.nodup_keys {α : Type} (t : Table α) : t.keys.Nodup := by
  refine List.pairwise_map.2 (t.sorted.imp ?_)
  intro a b hlt heq
  rw [heq] at hlt
  exact String.lt_irrefl _ hlt

namespace Display

variable (d : Display) {plan : List (String × Bool)} {id : String}

theorem contains_objects_perform (e : String × Bool) (id : String) :
    (d.perform (if e.2 then .showObject e.1 else .hideObject e.1)).objects.contains id =
      if id = e.1 then e.2 else d.objects.contains id := by
  obtain ⟨shown, visible⟩ := e
  cases visible with
  | true =>
    refine (Names.contains_add d.objects shown id).trans ?_
    by_cases h : id = shown <;> simp [h]
  | false =>
    refine (Table.contains_erase d.objects shown id).trans ?_
    by_cases h : id = shown <;> simp [h]

/-- What a plan does not name stays as it is. -/
theorem contains_objects_of_unplanned (h : id ∉ plan.map Prod.fst) :
    ((planCues plan).foldl perform d).objects.contains id = d.objects.contains id := by
  induction plan generalizing d with
  | nil => rfl
  | cons e plan ih =>
    rw [List.map_cons, List.mem_cons, not_or] at h
    have hrest := ih (d.perform (if e.2 then .showObject e.1 else .hideObject e.1)) h.2
    rw [contains_objects_perform, if_neg h.1] at hrest
    exact hrest

/-- **A plan is carried out**: what it names once is shown or hidden as it says. -/
theorem contains_objects_of_planned (hd : (plan.map Prod.fst).Nodup) {visible : Bool}
    (h : (id, visible) ∈ plan) :
    ((planCues plan).foldl perform d).objects.contains id = visible := by
  induction plan generalizing d with
  | nil => cases h
  | cons e plan ih =>
    obtain ⟨hfirst, hrest⟩ := List.nodup_cons.1 hd
    rcases List.mem_cons.1 h with rfl | hmem
    · -- The cues behind the first one are about other objects.
      refine (contains_objects_of_unplanned _ hfirst).trans ?_
      rw [contains_objects_perform, if_pos rfl]
    · exact ih _ hrest hmem

end Display

namespace Session

variable {s t u : Session} {scene : Scene} {plan : List (String × Bool)}

/-- A plan says of each object whether some entry of its script is active. -/
theorem exists_visible_of_plan (h : s.plan? = .ok plan) (hhere : s.here? = some scene)
    {object : String} {script : Script} (hs : scene.interactive.get? object = some script) :
    ∃ visible, (object, visible) ∈ plan ∧ script.anyActive s.player = .ok visible := by
  unfold plan? at h
  rw [hhere] at h
  have hentry : (object, script) ∈ scene.interactive.entries := Table.mem_entries_iff.2 hs
  obtain ⟨hlength, hplaces⟩ := List.forall₂_iff_get.1 (visibility_ok h)
  obtain ⟨place, hplace, hget⟩ := List.mem_iff_getElem.1 hentry
  obtain ⟨hobject, hactive⟩ := hplaces place hplace (hlength ▸ hplace)
  simp only [List.get_eq_getElem, hget] at hobject hactive
  refine ⟨_, ?_, hactive⟩
  rw [hobject]
  exact List.getElem_mem _

theorem plan?_congr (hc : t.catalog = s.catalog) (hp : t.player = s.player) :
    t.plan? = s.plan? := by
  unfold plan? here? visibility
  rw [hc, hp]

/-! ## Exact screens -/

/-- **What is on screen of the current scene** is what the guards and the answers say: the objects
that have an active entry, and the code input of the scene as it is to be shown, if there is one. -/
structure Exact (s : Session) (scene : Scene) : Prop where
  objects : ∀ object, s.display.objects.contains object = true ↔
    ∃ script, scene.interactive.get? object = some script ∧ script.anyActive s.player = .ok true
  codeInput : s.display.codeInput = s.codeInput? scene

theorem Exact.congr (h : s.Exact scene) (hc : t.catalog = s.catalog) (hp : t.player = s.player)
    (hd : t.display = s.display) : t.Exact scene where
  objects object := by
    rw [hd, hp]
    exact h.objects object
  codeInput := by
    rw [hd, h.codeInput]
    exact (codeInput?_congr (by rw [hp]) (by rw [hc]) scene).symm

/-- The code input is shown as it is to be, and none is where the scene has none. -/
theorem Contained.codeInput_refreshed (h : s.Contained) (hhere : s.here? = some scene) :
    (s.cued s.inputCues).display.codeInput = s.codeInput? scene := by
  cases hinput : s.codeInput? scene with
  | some input =>
    have hcues : s.inputCues = [.showCodeInput input.1 input.2] := by
      simp [inputCues, hhere, hinput]
    rw [hcues]
    rfl
  | none =>
    have hcues : s.inputCues = [] := by simp [inputCues, hhere, hinput]
    rw [hcues, cued_nil, ← Option.not_isSome_iff_eq_none]
    intro hsome
    obtain ⟨other, hother, hshows⟩ := h.codeInput hsome
    obtain rfl := Option.some.inj (hhere.symm.trans hother)
    rw [← isSome_codeInput? s scene, hinput] at hshows
    cases hshows

/-- **A refresh makes the screen exact**, since nothing of another scene is on screen. -/
theorem Contained.exact_shown (h : s.Contained) (hplan : s.plan? = .ok plan)
    (hhere : s.here? = some scene) : (s.shown plan).Exact scene where
  objects object := by
    have hcues : (s.shown plan).display.objects = (s.cued (planCues plan)).display.objects := by
      rw [Session.shown, ← cued_cued]
      exact (cues_cued (about_inputCues s)).objects (by simp)
    have hdistinct : (plan.map Prod.fst).Nodup := by
      rw [← keys_of_plan hplan hhere]
      exact scene.interactive.nodup_keys
    rw [hcues]
    constructor
    · intro hshown
      obtain ⟨other, hother, hkey⟩ := (h.planned hplan).objects hshown
      obtain rfl := Option.some.inj (hhere.symm.trans hother)
      obtain ⟨script, hscript⟩ := Table.contains_iff.1 hkey
      obtain ⟨visible, hmem, hactive⟩ := exists_visible_of_plan hplan hhere hscript
      obtain rfl := (Display.contains_objects_of_planned _ hdistinct hmem).symm.trans hshown
      exact ⟨script, hscript, hactive⟩
    · rintro ⟨script, hscript, hactive⟩
      obtain ⟨visible, hmem, hvisible⟩ := exists_visible_of_plan hplan hhere hscript
      obtain rfl := Except.ok.inj (hvisible.symm.trans hactive)
      exact Display.contains_objects_of_planned _ hdistinct hmem
  codeInput := by
    have hinput := @Contained.codeInput_refreshed _ scene (h.planned hplan) hhere
    rwa [inputCues_cued, cued_cued] at hinput

/-- **What is exact depends only on what is known and reached.** -/
theorem Exact.sameScreen (hs : s.Exact scene) (ht : t.Exact scene) (hc : t.catalog = s.catalog)
    (hp : t.player = s.player) (hcues : s.Cues [.message, .objects, .codeInput] t)
    (hm : t.display.message = s.display.message) : t.display.SameScreen s.display where
  message := hm
  objects := by
    refine @Display.names_eq_of_shown _ _ .showObject fun object => ?_
    have hsame : t.display.objects.contains object = s.display.objects.contains object := by
      rw [Bool.eq_iff_iff, ht.objects, hs.objects, hp]
    rw [hsame]
  backgrounds := hcues.backgrounds (by simp)
  codeInput := by
    rw [ht.codeInput, hs.codeInput]
    exact codeInput?_congr (by rw [hp]) (by rw [hc]) scene
  playing := hcues.playing (by simp)

/-! ## After a refresh -/

/-- The current scene was just refreshed, and no message hides anything of it. -/
structure Refreshed (s : Session) (scene : Scene) : Prop where
  here : s.here? = some scene
  exact : s.Exact scene
  planned : ∃ plan, s.plan? = .ok plan
  notice : s.noticeOpen = false
  pending : s.player.pending = none

theorem Refreshed.congr (h : s.Refreshed scene) (hc : t.catalog = s.catalog)
    (hp : t.player = s.player) (hd : t.display = s.display) (hn : t.noticeOpen = s.noticeOpen) :
    t.Refreshed scene where
  here := (here?_congr hc (by rw [hp])).trans h.here
  exact := h.exact.congr hc hp hd
  planned := by
    rw [plan?_congr hc hp]
    exact h.planned
  notice := hn.trans h.notice
  pending := by
    rw [hp]
    exact h.pending

/-- Where no message is open, a refresh ends so. -/
theorem Contained.refreshed_shown (h : s.Contained) (hplan : s.plan? = .ok plan)
    (hhere : s.here? = some scene) (hn : s.noticeOpen = false) (hp : s.player.pending = none) :
    (s.shown plan).Refreshed scene :=
  ⟨hhere, h.exact_shown hplan hhere, ⟨plan, hplan⟩, hn, hp⟩

/-! ## Messages that are opened and closed -/

/-- A message that is opened and closed again leaves the screen as it was: a notice that is
dismissed, and a blocking message of which a button without a script is clicked. -/
structure Restores (s : Session) : Prop where
  notice : ∀ text, ∃ t, (do Play.showNotice text; Play.dismiss).outcome s = some (.ok (), t) ∧
    t.display.SameScreen s.display
  blocking : ∀ text buttons (scripts : List Script) (index depth : Nat),
    scripts[index]? = some [] →
      ∃ t, (do
          Play.showBlocking text buttons scripts
          Play.clickButton (Play.execute (depth + 1)) index).outcome s = some (.ok (), t) ∧
        t.display.SameScreen s.display

/-- What is known and reached is the same behind a message, so the same is shown. -/
theorem Refreshed.sameScreen_shown (h : s.Refreshed scene) (hone : s.OneMessage)
    (hplan : s.plan? = .ok plan) (hu : u.Contained) (hc : u.catalog = s.catalog)
    (hp : u.player = s.player) (hcues : s.Cues [.message, .objects, .codeInput] u)
    (hm : u.display.message = none) :
    u.plan? = .ok plan ∧ (u.shown plan).display.SameScreen s.display := by
  have huplan : u.plan? = .ok plan := (plan?_congr hc hp).trans hplan
  refine ⟨huplan, h.exact.sameScreen ?_ hc hp ?_ ?_⟩
  · exact hu.exact_shown huplan ((here?_congr hc (by rw [hp])).trans h.here)
  · exact (hcues.trans (cues_shown u plan)).mono (by simp)
  · have hnone : s.display.message = none := by
      rw [← Option.not_isSome_iff_eq_none, hone.shown, h.notice, h.pending]
      simp
    rw [(cues_shown u plan).message (by simp), hm, hnone]

/-- **A message leaves the screen as it was**, if the scene was refreshed before. -/
theorem Refreshed.restores (h : s.Refreshed scene) (hg : s.Grounded) (hs : s.Contained)
    (hone : s.OneMessage) : s.Restores := by
  obtain ⟨plan, hplan⟩ := h.planned
  -- No script was put by, so none is lost with the message.
  have hplayer : { s.player with pending := none } = s.player := by rw [← h.pending]
  constructor
  · intro text
    have hnoticed : (s.noticed text).Contained := (hs.opened text [] none true).hidden true
    obtain ⟨huplan, hsame⟩ := h.sameScreen_shown hone hplan hnoticed.noticeClosed rfl hplayer
      (((cues_noticed s text).trans (cues_noticeClosed _)).mono (by simp)) rfl
    refine ⟨_, ?_, hsame⟩
    have hgn : (s.noticed text).Grounded := hg.congr rfl rfl rfl
    rw [Play.outcome_bind, Play.outcome_showNotice hg, Play.andThen_ok, Play.outcome_dismiss]
    refine (if_pos rfl).trans ?_
    rw [Play.outcome_closeNotice hgn, huplan]
  · intro text buttons scripts index depth hscript
    have hblocked : (s.blocked text buttons scripts).Contained :=
      (hs.opened text buttons (some scripts) false).hidden false
    obtain ⟨huplan, hsame⟩ := h.sameScreen_shown hone hplan hblocked.answered rfl hplayer
      (((cues_blocked s text buttons scripts).trans (cues_answered _)).mono (by simp)) rfl
    refine ⟨_, ?_, hsame⟩
    have hgb : (s.blocked text buttons scripts).Grounded := hg.congr rfl rfl rfl
    have hpending : (s.blocked text buttons scripts).player.pending = some scripts := rfl
    rw [Play.outcome_bind, Play.outcome_showBlocking hg, Play.andThen_ok,
      Play.outcome_clickButton hgb, hpending]
    simp only [hscript, huplan]
    rfl

/-! ## Calls that end with a refresh -/

/-- The calls that end with a refresh of the scene of an id.  It is entered without a message, and
has no scripts that would run then; or it is the current scene, and a notice is dismissed, or a
button without a script is clicked. -/
inductive Refreshes (s : Session) (id : String) : Call → Prop where
  | enter {scene : Scene} (hn : s.noticeOpen = false) (hp : s.player.pending = none)
      (hscene : s.catalog.scenes.get? id = some scene) (hfirst : scene.firstEntryActions = [])
      (hentry : scene.entryActions = []) : Refreshes s id (.goToScene id)
  | dismiss (ho : s.noticeOpen = true) (hid : s.player.currentScene = some id) :
      Refreshes s id (.handle .messageDismissed)
  | answer {scripts : List Script} {index : UInt64} (hp : s.player.pending = some scripts)
      (hscript : scripts[index.toNat]? = some []) (hid : s.player.currentScene = some id) :
      Refreshes s id (.handle (.buttonClicked index))

/-- The background of a scene that is entered is the only one on screen, if it is known. -/
theorem Blank.contains_backgrounds_arrived (h : s.Blank) (id other : String) :
    (s.arrived id).display.backgrounds.contains other = true ↔
      other = id ∧ s.catalog.backgrounds.contains id = true := by
  have hdisplay : (s.arrived id).display =
    (s.backdropCues .showBackground id).foldl Display.perform s.display := rfl
  rw [hdisplay, Session.backdropCues]
  split
  · next hknown =>
    have hadd : ((s.display.perform (.showBackground id)).backgrounds).contains other =
      (Names.add s.display.backgrounds id).contains other := rfl
    rw [List.foldl_cons, List.foldl_nil, hadd, Names.contains_add, h.backgrounds]
    simp [hknown]
  · next hunknown => simp [h.backgrounds, hunknown]

/-- A script without actions changes nothing. -/
theorem eq_of_execute_nil {depth : Nat} {r : Except Error Unit}
    (h : (Play.execute depth []).outcome s = some (r, t)) : t = s := by
  cases depth with
  | zero => cases h
  | succ depth =>
    cases h
    rfl

/-- **A call that ends with a refresh** leaves its scene refreshed. -/
theorem Refreshes.refreshed (hg : s.Grounded) (hs : s.Contained) (hone : s.OneMessage)
    {id : String} {c : Call} {depth : Nat} (h : s.Refreshes id c)
    (ho : (c.play depth).outcome s = some (.ok (), t)) :
    ∃ scene, t.player.currentScene = some id ∧ t.catalog.scenes.get? id = some scene ∧
      t.Refreshed scene ∧
      (c = .goToScene id → ∀ other, t.display.backgrounds.contains other = true ↔
        other = id ∧ t.catalog.backgrounds.contains id = true) := by
  cases h with
  | @enter scene hn hp hscene hfirst hentry =>
    refine ⟨scene, ?_⟩
    have houtcome := Play.outcome_goToScene hg (Play.execute depth) id
    rw [Call.play, houtcome] at ho
    cases hobject : Play.unknown? s scene.interactive.keys with
    | some object => simp [hscene, hobject] at ho
    | none =>
      cases hplan : (s.left.arrived id).plan? with
      | error e => simp [hscene, hobject, hplan] at ho
      | ok plan =>
        simp only [hscene, hobject, hplan, hfirst, hentry, ite_self] at ho
        -- The scripts are empty, so the scene is left as it was shown.
        obtain ⟨_, u, hbefore, hafter⟩ := Play.outcome_bind_eq_ok_iff.1 ho
        obtain rfl := (eq_of_execute_nil hafter).trans (eq_of_execute_nil hbefore)
        have harrived : (s.left.arrived id).Contained := hs.left.arrived hscene hobject
        have hcover : (s.left.arrived id).coverCues = [] := by
          have hpending : (s.left.arrived id).player.pending = none := hp
          have hnotice : (s.left.arrived id).noticeOpen = false := hn
          simp [coverCues, Player.isBlocked, hpending, hnotice]
        have hdisplay : ((s.left.arrived id).entered id plan !s.player.hasVisited id).display =
            ((s.left.arrived id).shown plan).display := by
          rw [Session.entered, hcover, cued_nil]
          rfl
        refine ⟨rfl, hscene, ?_, ?_⟩
        · exact (harrived.refreshed_shown hplan hscene hn hp).congr rfl rfl hdisplay rfl
        · rintro -
          rw [(cues_entered (s.left.arrived id) id plan _).backgrounds (by simp)]
          exact hs.left.contains_backgrounds_arrived id
  | dismiss hopen hid =>
    obtain ⟨scene, hhere, hscene⟩ := hg.here?_of_some hid
    have houtcome := Play.outcome_dismiss s
    rw [hopen, if_pos rfl, Play.outcome_closeNotice hg] at houtcome
    rw [Call.play, Play.handle, houtcome] at ho
    cases hplan : s.noticeClosed.plan? with
    | error e => simp [hplan] at ho
    | ok plan =>
      rw [hplan] at ho
      cases ho
      have hpending : s.noticeClosed.player.pending = none := hone.exclusive hopen
      refine ⟨scene, hid, hscene, hs.noticeClosed.refreshed_shown hplan hhere rfl hpending, ?_⟩
      rintro ⟨⟩
  | @answer scripts index hp hscript hid =>
    obtain ⟨scene, hhere, hscene⟩ := hg.here?_of_some hid
    rw [Call.play, Play.handle, Play.outcome_clickButton hg, hp] at ho
    simp only [hscript] at ho
    cases hplan : s.answered.plan? with
    | error e => simp [hplan] at ho
    | ok plan =>
      rw [hplan] at ho
      obtain rfl := eq_of_execute_nil ho
      have hnotice : s.answered.noticeOpen = false := hone.noticeOpen_of_pending hp
      refine ⟨scene, hid, hscene, hs.answered.refreshed_shown hplan hhere hnotice rfl, ?_⟩
      rintro ⟨⟩

end Session

section

variable {arrows : List String} {world : World} {s t : Session}

/-- **The screen after a refresh is exact.**  In every session of a world that declares no scene
twice, let a call that ends with a refresh succeed: a scene without scripts for its entry is entered
while no message is open, or in a current scene a notice is dismissed, or a button without a script
is clicked.  Then exactly those objects are on screen that the scene reacts to with an active entry,
and the code input is there exactly as the answers say, if the scene has one; where the scene was
entered, exactly its background is on screen, if it is known.  And a message that is opened then
and closed again leaves the screen as it was. -/
theorem Played.display_exact (hw : world.DistinctScenes)
    (h : Played (fun _ _ => True) arrows world s) {id : String} {c : Call} {depth : Nat}
    (hr : s.Refreshes id c) (ho : (c.play depth).outcome s = some (.ok (), t)) :
    ∃ scene, t.player.currentScene = some id ∧ t.catalog.scenes.get? id = some scene ∧
      t.Exact scene ∧
      (c = .goToScene id → ∀ other, t.display.backgrounds.contains other = true ↔
        other = id ∧ t.catalog.backgrounds.contains id = true) ∧
      t.Restores := by
  have ht : Played (fun _ _ => True) arrows world t := .call h trivial ho
  obtain ⟨scene, hid, hscene, hrefreshed, hbackgrounds⟩ :=
    hr.refreshed h.underway.grounded (h.contained hw) h.oneMessage ho
  exact ⟨scene, hid, hscene, hrefreshed.exact, hbackgrounds,
    hrefreshed.restores ht.underway.grounded (ht.contained hw) ht.oneMessage⟩

/-- A world with a shaft whose door can be seen once the light is on. -/
def World.shaft : World where
  stages := [
    { id := "shaft"
      scenes := [
        { id := "shaft"
          hotspots := [⟨"door", .ofInt 0, .ofInt 0, .ofInt 1, .ofInt 1⟩]
          interactive := .ofList [
            ("door",
              [{ (Action.new (.showText "A way out.")) with
                  guard := some (.new (.variableIs "lit" (.bool true))) }]),
            ("left", [.new (.setVariable "lit" (.bool true)), .new (.showText "Bright.")])] }] }]

theorem World.distinctScenes_shaft : World.shaft.DistinctScenes := by
  unfold DistinctScenes
  decide

/-- The light is on, and the text about it can be dismissed; then the door is on screen, and a click
on it opens its notice. -/
theorem exists_played_shaft :
    ∃ s t, Played (fun _ _ => True) ["left"] .shaft s ∧ s.noticeOpen = true ∧
      s.player.currentScene = some "shaft" ∧
      ((Call.handle .messageDismissed).play 3).outcome s = some (.ok (), t) ∧
      s.display.objects.contains "door" = false ∧ t.display.objects.contains "door" = true ∧
      ∃ u, (Play.clickObject 3 "door").outcome t = some (.ok (), u) ∧
        u.display.message = some ("A way out.", []) :=
  ⟨_, _, @Played.call _ _ _ _ _ (.handle (.objectClicked "left")) 3 _
    (@Played.start (fun _ _ => True) ["left"] .shaft 3 (.ofNat 0) (.ofNat 1) _ _ rfl) trivial rfl,
    rfl, rfl, rfl, rfl, rfl, _, rfl, rfl⟩

/-- The door is on screen because its guard holds, and it stays there behind other messages. -/
theorem display_exact_shaft :
    ∃ s t, s.Refreshes "shaft" (.handle .messageDismissed) ∧
      ((Call.handle .messageDismissed).play 3).outcome s = some (.ok (), t) ∧
      t.display.objects.contains "door" = true ∧
      ∃ scene, t.catalog.scenes.get? "shaft" = some scene ∧ t.Exact scene ∧ t.Restores := by
  obtain ⟨s, t, h, hopen, hid, ho, -, hdoor, -⟩ := exists_played_shaft
  have hr : s.Refreshes "shaft" (.handle .messageDismissed) := .dismiss hopen hid
  obtain ⟨scene, -, hscene, hexact, -, hrestores⟩ := h.display_exact World.distinctScenes_shaft hr ho
  exact ⟨s, t, hr, ho, hdoor, scene, hscene, hexact, hrestores⟩

end

end Adventure
