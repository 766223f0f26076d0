import Adventure.Proofs.Guards
import Adventure.Proofs.Refresh

/-!
# What is shown can be clicked

Whether an object is shown is decided by the first entry of its script whose guard does not refuse:
one that passes, or one that cannot be evaluated.  A click runs the whole script, and evaluates each
guard in the session that the entries before it have left.  Up to the first entry that passes
nothing has been done yet, so until then the two agree.

## Main definitions

* `Play.Reaches`: a script gets to one of its actions
* `Session.ClickReaches`: a click gets to an action
* `Session.JustRefreshed`: the objects on screen are those of a refresh

## Main results

* `Script.decidedByFirst`: the entry that decides whether an object is shown
* `Play.outcome_execute_of_active`, `Play.outcome_execute_of_inactive`,
  `Play.outcome_execute_of_unknown`: the script of an object that is shown, hidden, or neither
* `Play.exists_reaches_iff`: a script gets to an action if and only if it is active
* `Session.outcome_clickObject_of_active`, `Session.ClickReaches.outcome_clickObject`: what a click
  performs
* `Session.shown_can_be_clicked`: what is on screen after a refresh reacts to clicks, and nothing
  else does
-/

namespace Adventure

open Session

/-! ## The entry that decides -/

section

variable {p : Player} {script before : Script}

namespace Script

/-- **The first entry that does not refuse decides**: the script is active if it passes, and if its
guard cannot be evaluated, neither can the script. -/
theorem decidedByFirst (p : Player) :
    DecidedByFirst (Action.passes p) (.ok false) (anyActive p) where
  nil := rfl
  skip a script ha := by
    rw [anyActive, ha]
    rfl
  stop a script ha := by
    rw [anyActive]
    rcases hr : a.passes p with e | passes
    · rfl
    · cases passes with
      | true => rfl
      | false => exact absurd hr ha

/-- A script is inactive if and only if all its entries refuse. -/
theorem anyActive_eq_false_iff :
    anyActive p script = .ok false ↔ ∀ a ∈ script, a.passes p = .ok false :=
  (decidedByFirst p).eq_neutral_iff

/-- A script is active if and only if some entry passes, and all entries before it refuse. -/
theorem anyActive_eq_true_iff :
    anyActive p script = .ok true ↔
      ∃ before a after, script = before ++ a :: after ∧
        (∀ b ∈ before, b.passes p = .ok false) ∧ a.passes p = .ok true :=
  (decidedByFirst p).eq_iff nofun

theorem anyActive_eq_error_iff {e : Error} :
    anyActive p script = .error e ↔
      ∃ before a after, script = before ++ a :: after ∧
        (∀ b ∈ before, b.passes p = .ok false) ∧ a.passes p = .error e :=
  (decidedByFirst p).eq_iff nofun

/-- A script is active if its beginning is. -/
theorem anyActive_append (script : Script) (hb : anyActive p before = .ok true) :
    anyActive p (before ++ script) = .ok true := by
  obtain ⟨first, c, rest, rfl, hfirst, hc⟩ := anyActive_eq_true_iff.1 hb
  exact anyActive_eq_true_iff.2 ⟨first, c, rest ++ script, by simp, hfirst, hc⟩

end Script

end

/-! ## Scripts -/

namespace Play

variable {depth : Nat} {s t : Session} {a : Action} {script before : Script} {e : Error}

/-- Entries that refuse do nothing. -/
theorem outcome_execute_append_of_refused (script : Script)
    (hb : ∀ b ∈ before, b.passes s.player = .ok false) :
    (execute (depth + 1) (before ++ script)).outcome s =
      (execute (depth + 1) script).outcome s := by
  induction before with
  | nil => rfl
  | cons b before ih =>
    rw [List.forall_mem_cons] at hb
    refine (outcome_forM_cons _ b (before ++ script) s).trans ?_
    rw [outcome_step, hb.1]
    exact ih hb.2

/-- **A script that is not active does nothing.** -/
theorem outcome_execute_of_inactive (h : script.anyActive s.player = .ok false) :
    (execute (depth + 1) script).outcome s = some (.ok (), s) := by
  rw [← List.append_nil script,
    outcome_execute_append_of_refused [] (Script.anyActive_eq_false_iff.1 h)]
  rfl

/-- **A script of which it cannot be told whether it is active** fails with the same error, and does
nothing. -/
theorem outcome_execute_of_unknown (h : script.anyActive s.player = .error e) :
    (execute (depth + 1) script).outcome s = some (.error e, s) := by
  obtain ⟨before, a, after, rfl, hb, ha⟩ := Script.anyActive_eq_error_iff.1 h
  rw [outcome_execute_append_of_refused _ hb]
  refine (outcome_forM_cons _ a after s).trans ?_
  rw [outcome_step, ha]
  rfl

/-- An entry that passes is performed, and the rest of the script follows. -/
theorem outcome_execute_cons_of_passes (after : Script) (ha : a.passes s.player = .ok true) :
    (execute (depth + 1) (a :: after)).outcome s =
      (do perform (execute depth) a; execute (depth + 1) after).outcome s := by
  rw [outcome_bind]
  refine (outcome_forM_cons _ a after s).trans ?_
  rw [outcome_step, ha]
  rfl

/-- **A script that is active** begins with its first entry that passes. -/
theorem outcome_execute_of_active (h : script.anyActive s.player = .ok true) :
    ∃ before a after, script = before ++ a :: after ∧
      (∀ b ∈ before, b.passes s.player = .ok false) ∧ a.passes s.player = .ok true ∧
      (execute (depth + 1) script).outcome s =
        (do perform (execute depth) a; execute (depth + 1) after).outcome s := by
  obtain ⟨before, a, after, rfl, hb, ha⟩ := Script.anyActive_eq_true_iff.1 h
  exact ⟨before, a, after, rfl, hb, ha, (outcome_execute_append_of_refused _ hb).trans
    (outcome_execute_cons_of_passes after ha)⟩

/-- A script gets to one of its actions: those before it are passed over or done, and its guard
holds in the session that they have left. -/
def Reaches (depth : Nat) (script : Script) (s : Session) (a : Action) (t : Session) : Prop :=
  ∃ before after, script = before ++ a :: after ∧
    (execute depth before).outcome s = some (.ok (), t) ∧ a.passes t.player = .ok true

/-- An action that a script gets to is performed, and the rest of the script follows. -/
theorem Reaches.outcome_execute (h : Reaches (depth + 1) script s a t) :
    ∃ after, (execute (depth + 1) script).outcome s =
      (do perform (execute depth) a; execute (depth + 1) after).outcome t := by
  obtain ⟨before, after, rfl, hbefore, ha⟩ := h
  have happend := outcome_forM_append (step (execute depth)) before (a :: after) s
  refine ⟨after, happend.trans ?_⟩
  change andThen ((execute (depth + 1) before).outcome s) _ = _
  rw [hbefore]
  exact outcome_execute_cons_of_passes after ha

/-- A script that gets to some action gets to its first one in the session as it was. -/
theorem Reaches.anyActive (h : Reaches (depth + 1) script s a t) :
    script.anyActive s.player = .ok true := by
  obtain ⟨before, after, rfl, hbefore, ha⟩ := h
  cases hb : before.anyActive s.player with
  | error e =>
    rw [outcome_execute_of_unknown hb] at hbefore
    cases hbefore
  | ok active =>
    cases active with
    | true => exact Script.anyActive_append _ hb
    | false =>
      -- Nothing in front was done, so the action passes where the script began.
      rw [outcome_execute_of_inactive hb] at hbefore
      cases hbefore
      exact Script.anyActive_eq_true_iff.2
        ⟨before, a, after, rfl, Script.anyActive_eq_false_iff.1 hb, ha⟩

/-- **A script gets to an action** if and only if it is active. -/
theorem exists_reaches_iff :
    (∃ a t, Reaches (depth + 1) script s a t) ↔ script.anyActive s.player = .ok true := by
  constructor
  · rintro ⟨a, t, h⟩
    exact h.anyActive
  · intro h
    obtain ⟨before, a, after, rfl, hb, ha⟩ := Script.anyActive_eq_true_iff.1 h
    -- The entries in front all refuse, so to run them leaves the session as it is.
    exact ⟨a, s, before, after, rfl,
      outcome_execute_of_inactive (Script.anyActive_eq_false_iff.2 hb), ha⟩

/-- A refresh shows or hides the objects of the current scene as planned. -/
theorem exists_of_outcome_refreshObjects (h : refreshObjects.outcome s = some (.ok (), t)) :
    ∃ scene plan, s.currentScene = .ok scene ∧ s.visibility scene.interactive.entries = .ok plan ∧
      t = s.cued (planCues plan) := by
  obtain ⟨scene, u, hscene, h⟩ := outcome_bind_eq_ok_iff.1 h
  obtain ⟨plan, v, hplan, h⟩ := outcome_bind_eq_ok_iff.1 h
  simp only [outcome_ask, Option.some.injEq, Prod.mk.injEq] at hscene hplan
  obtain ⟨hscene, rfl⟩ := hscene
  obtain ⟨hplan, rfl⟩ := hplan
  rw [outcome_forM_display] at h
  cases h
  exact ⟨scene, plan, hscene, hplan, rfl⟩

end Play

/-! ## Clicks -/

namespace Session

variable {s t : Session} {scene : Scene} {object : String} {script : Script} {depth : Nat}

/-- A click on an object gets to an action: no blocking message swallows it, and once a notice is
closed, the current scene reacts to the object with a script that gets there. -/
def ClickReaches (depth : Nat) (s : Session) (object : String) (a : Action) (t : Session) : Prop :=
  s.player.isBlocked = false ∧
    ∃ u scene script, Play.dismiss.outcome s = some (.ok (), u) ∧ u.currentScene = .ok scene ∧
      scene.interactive.get? object = some script ∧ Play.Reaches depth script u a t

/-- The objects on screen are those that a refresh has left, and nothing that it depends on has
changed since. -/
def JustRefreshed (s : Session) : Prop :=
  ∃ u v, Play.refreshObjects.outcome u = some (.ok (), v) ∧ s.catalog = v.catalog ∧
    s.player = v.player ∧ s.display.objects = v.display.objects

/-- A refresh shows an object if its script is active, and hides it otherwise. -/
theorem anyActive_of_plan {plan : List (String × Bool)} (hplan : s.plan? = .ok plan)
    (hhere : s.here? = some scene) (hs : scene.interactive.get? object = some script) :
    script.anyActive s.player = .ok ((s.cued (planCues plan)).display.objects.contains object) := by
  obtain ⟨visible, hmem, hactive⟩ := exists_visible_of_plan hplan hhere hs
  have hdistinct : (plan.map Prod.fst).Nodup := by
    rw [← keys_of_plan hplan hhere]
    exact scene.interactive.nodup_keys
  rw [hactive]
  exact congrArg Except.ok (Display.contains_objects_of_planned s.display hdistinct hmem).symm

/-- **After a refresh, an object is on screen** if its script is active, and else it is not. -/
theorem JustRefreshed.anyActive (h : s.JustRefreshed) (hhere : s.here? = some scene)
    (hs : scene.interactive.get? object = some script) :
    script.anyActive s.player = .ok (s.display.objects.contains object) := by
  obtain ⟨u, v, hrefresh, hc, hp, hd⟩ := h
  obtain ⟨other, plan, hother, hplan, rfl⟩ := Play.exists_of_outcome_refreshObjects hrefresh
  -- The refresh was one of the scene that is current now, in a session with the same player.
  have huhere : u.here? = some scene := (here?_congr hc.symm (by rw [hp])).trans hhere
  obtain rfl := Except.ok.inj (hother.symm.trans (currentScene_of_here? huhere))
  have hplan? : u.plan? = .ok plan := by
    rw [plan?, huhere]
    exact hplan
  rw [hp, hd]
  exact anyActive_of_plan hplan? huhere hs

/-- A scene that is refreshed would not be changed by another refresh. -/
theorem Refreshed.justRefreshed (h : s.Refreshed scene) : s.JustRefreshed := by
  obtain ⟨plan, hplan⟩ := h.planned
  have hrefresh : Play.refreshObjects.outcome s = some (.ok (), s.cued (planCues plan)) := by
    have hvisibility := hplan
    rw [plan?, h.here] at hvisibility
    simp only [Play.refreshObjects, Play.outcome_bind, Play.outcome_ask,
      currentScene_of_here? h.here, Play.andThen_ok, hvisibility, Play.outcome_forM_display]
  refine ⟨s, _, hrefresh, rfl, rfl, @Display.names_eq_of_shown _ _ .showObject fun object => ?_⟩
  suffices hsame : s.display.objects.contains object =
      (s.cued (planCues plan)).display.objects.contains object by rw [hsame]
  cases hscript : scene.interactive.get? object with
  | some script =>
    have hactive := anyActive_of_plan hplan h.here hscript
    rw [Bool.eq_iff_iff, h.exact.objects]
    constructor
    · rintro ⟨other, hother, hyes⟩
      obtain rfl := Option.some.inj (hscript.symm.trans hother)
      exact Except.ok.inj (hactive.symm.trans hyes)
    · intro hshown
      rw [hshown] at hactive
      exact ⟨script, hscript, hactive⟩
  | none =>
    -- The scene does not react to the object, so the refresh leaves it alone.
    refine (Display.contains_objects_of_unplanned s.display ?_).symm
    rw [← keys_of_plan hplan h.here, Table.mem_keys_iff, Bool.not_eq_true]
    exact Table.get?_eq_none_iff.1 hscript

/-- Where no message is open, a click runs the script with which the current scene reacts. -/
theorem outcome_clickObject_of_quiet (hhere : s.here? = some scene) (hn : s.noticeOpen = false)
    (hp : s.player.pending = none) (hs : scene.interactive.get? object = some script) :
    (Play.clickObject depth object).outcome s = (Play.execute depth script).outcome s := by
  rw [Play.outcome_clickObject, Player.isBlocked, hp, Play.outcome_dismiss, hn]
  simp only [Option.isSome_none, Bool.false_eq_true, if_false, Play.andThen_ok]
  rw [Play.outcome_react, currentScene_of_here? hhere]
  simp only [hs]

/-- **A click on an object whose script is active** performs the first entry that passes, and then
runs the rest of the script. -/
theorem outcome_clickObject_of_active (hhere : s.here? = some scene) (hn : s.noticeOpen = false)
    (hp : s.player.pending = none) (hs : scene.interactive.get? object = some script)
    (hactive : script.anyActive s.player = .ok true) :
    ∃ before a after, scene.interactive.get? object = some (before ++ a :: after) ∧
      (∀ b ∈ before, b.passes s.player = .ok false) ∧ a.passes s.player = .ok true ∧
      (Play.clickObject (depth + 1) object).outcome s =
        (do
          Play.perform (Play.execute depth) a
          Play.execute (depth + 1) after).outcome s := by
  simp only [outcome_clickObject_of_quiet hhere hn hp hs, hs, Option.some.injEq]
  exact Play.outcome_execute_of_active hactive

/-- Where no message is open, a click gets where the script gets. -/
theorem clickReaches_iff (hhere : s.here? = some scene) (hn : s.noticeOpen = false)
    (hp : s.player.pending = none) (hs : scene.interactive.get? object = some script) {a : Action} :
    s.ClickReaches depth object a t ↔ Play.Reaches depth script s a t := by
  have hdismiss : Play.dismiss.outcome s = some (.ok (), s) := by
    rw [Play.outcome_dismiss, hn]
    rfl
  constructor
  · rintro ⟨-, u, other, script', hu, hother, hscript, h⟩
    cases hdismiss.symm.trans hu
    cases (currentScene_of_here? hhere).symm.trans hother
    cases hs.symm.trans hscript
    exact h
  · intro h
    have hblocked : s.player.isBlocked = false := by rw [Player.isBlocked, hp]; rfl
    exact ⟨hblocked, s, scene, script, hdismiss, currentScene_of_here? hhere, hs, h⟩

/-- An action that a click gets to is performed, and the rest of the script follows. -/
theorem ClickReaches.outcome_clickObject {a : Action} (h : s.ClickReaches (depth + 1) object a t) :
    ∃ after, (Play.clickObject (depth + 1) object).outcome s =
      (do Play.perform (Play.execute depth) a; Play.execute (depth + 1) after).outcome t := by
  obtain ⟨hblocked, u, scene, script, hdismiss, hscene, hs, hreaches⟩ := h
  obtain ⟨after, hafter⟩ := hreaches.outcome_execute
  refine ⟨after, ?_⟩
  rw [Play.outcome_clickObject, hblocked, hdismiss]
  simp only [Bool.false_eq_true, if_false, Play.andThen_ok]
  rw [Play.outcome_react, hscene]
  simp only [hs, hafter]

/-- **What is shown can be clicked, and what is hidden does nothing.**  In every session, a script
that is not active does nothing; one of which it cannot be told fails with the same error and does
nothing; and one that is active begins with its first entry that passes, in the session as it is,
whatever follows.  So after a refresh, while no message is open, a click on an object that the
current scene reacts to gets to an action if and only if the object is on screen, and performs each
action that it gets to.  If the object is on screen, the click performs the first entry that passes
and then runs the rest of the script; if it is not, the click does nothing. -/
theorem shown_can_be_clicked (s : Session) :
    (∀ (script : Script) (depth : Nat), script.anyActive s.player = .ok false →
      (Play.execute (depth + 1) script).outcome s = some (.ok (), s)) ∧
    (∀ (script : Script) (depth : Nat) (e : Error), script.anyActive s.player = .error e →
      (Play.execute (depth + 1) script).outcome s = some (.error e, s)) ∧
    (∀ (script : Script) (depth : Nat), script.anyActive s.player = .ok true →
      ∃ before a after, script = before ++ a :: after ∧
        (∀ b ∈ before, b.passes s.player = .ok false) ∧ a.passes s.player = .ok true ∧
        (Play.execute (depth + 1) script).outcome s =
          (do
            Play.perform (Play.execute depth) a
            Play.execute (depth + 1) after).outcome s) ∧
    ∀ scene, s.here? = some scene → s.noticeOpen = false → s.player.pending = none →
      s.JustRefreshed → ∀ object, scene.interactive.contains object = true → ∀ depth,
        ((∃ a t, s.ClickReaches (depth + 1) object a t) ↔
          s.display.objects.contains object = true) ∧
        (∀ a t, s.ClickReaches (depth + 1) object a t → ∃ after,
          (Play.clickObject (depth + 1) object).outcome s =
            (do
              Play.perform (Play.execute depth) a
              Play.execute (depth + 1) after).outcome t) ∧
        (s.display.objects.contains object = true →
          ∃ before a after, scene.interactive.get? object = some (before ++ a :: after) ∧
            (∀ b ∈ before, b.passes s.player = .ok false) ∧ a.passes s.player = .ok true ∧
            (Play.clickObject (depth + 1) object).outcome s =
              (do
                Play.perform (Play.execute depth) a
                Play.execute (depth + 1) after).outcome s) ∧
        (s.display.objects.contains object = false →
          (Play.clickObject (depth + 1) object).outcome s = some (.ok (), s)) := by
  refine ⟨fun _ _ => Play.outcome_execute_of_inactive, fun _ _ _ => Play.outcome_execute_of_unknown,
    fun _ _ => Play.outcome_execute_of_active, ?_⟩
  intro scene hhere hn hp hr object hkey depth
  obtain ⟨script, hs⟩ := Table.contains_iff.1 hkey
  have hactive := hr.anyActive hhere hs
  refine ⟨?_, fun a t h => h.outcome_clickObject, ?_, ?_⟩
  · simp only [clickReaches_iff hhere hn hp hs, Play.exists_reaches_iff, hactive, Except.ok.injEq]
  · intro hshown
    rw [hshown] at hactive
    exact outcome_clickObject_of_active hhere hn hp hs hactive
  · intro hhidden
    rw [hhidden] at hactive
    rw [outcome_clickObject_of_quiet hhere hn hp hs, Play.outcome_execute_of_inactive hactive]

end Session

section

variable {arrows : List String} {world : World} {s t : Session}

/-- Calls that end with a refresh leave a scene that was just refreshed, and no message open. -/
theorem Played.justRefreshed (hw : world.DistinctScenes)
    (h : Played (fun _ _ => True) arrows world s) {id : String} {c : Call} {depth : Nat}
    (hr : s.Refreshes id c) (ho : (c.play depth).outcome s = some (.ok (), t)) :
    ∃ scene, t.here? = some scene ∧ t.noticeOpen = false ∧ t.player.pending = none ∧
      t.JustRefreshed := by
  obtain ⟨scene, -, -, hrefreshed, -⟩ :=
    hr.refreshed h.underway.grounded (h.contained hw) h.oneMessage ho
  exact ⟨scene, hrefreshed.here, hrefreshed.notice, hrefreshed.pending, hrefreshed.justRefreshed⟩

/-- The door can be clicked once the light is on and the text about it is closed: the click performs
an action of the door, which opens the notice of the door. -/
theorem shown_can_be_clicked_shaft :
    ∃ s t, Played (fun _ _ => True) ["left"] .shaft s ∧
      ((Call.handle .messageDismissed).play 3).outcome s = some (.ok (), t) ∧
      (∃ a u, t.ClickReaches 3 "door" a u) ∧
      ∃ a after u, a.passes t.player = .ok true ∧
        (do
          Play.perform (Play.execute 2) a
          Play.execute 3 after).outcome t = some (.ok (), u) ∧
        (Play.clickObject 3 "door").outcome t = some (.ok (), u) ∧
        u.display.message = some ("A way out.", []) := by
  obtain ⟨s, t, h, hopen, hid, ho, -, hdoor, u, hclick, hmessage⟩ := exists_played_shaft
  have hr : s.Refreshes "shaft" (.handle .messageDismissed) := .dismiss hopen hid
  obtain ⟨scene, hhere, hn, hp, hjust⟩ := h.justRefreshed World.distinctScenes_shaft hr ho
  have ht : Played (fun _ _ => True) ["left"] .shaft t := .call h trivial ho
  -- What is on screen belongs to the current scene.
  obtain ⟨other, hother, hkey⟩ := (ht.contained World.distinctScenes_shaft).objects hdoor
  obtain rfl := Option.some.inj (hhere.symm.trans hother)
  obtain ⟨-, -, -, hclicks⟩ := Session.shown_can_be_clicked t
  obtain ⟨hreaches, -, hshown, -⟩ := hclicks scene hhere hn hp hjust "door" hkey 2
  obtain ⟨before, a, after, -, -, ha, hperforms⟩ := hshown hdoor
  exact ⟨s, t, h, ho, hreaches.2 hdoor, a, after, u, ha, hperforms.symm.trans hclick, hclick,
    hmessage⟩

end

end Adventure
