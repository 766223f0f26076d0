import Adventure.Proofs.Invariants

/-!
# Sessions from their start

A session is started once and then driven by calls in any order, whether they succeed or fail.

## Main definitions

* `Session.Refuses`: the reasons to refuse an event before any script runs
* `Session.begun`: the session right after a world was accepted
* `Call`: what the surroundings can do to a session
* `Played`: the sessions of a world that was started once

## Main results

* `Keeps.handle`: events keep an invariant
* `Keeps.played`: an invariant holds in every session
-/

namespace Adventure

open Session

/-! ## Events -/

namespace Session

/-- An event is refused, and no script is run. -/
inductive Refuses (s : Session) : Event Ticket → Error → Prop where
  | unplaced {object : String} {e : Error} (hb : s.player.isBlocked = false)
      (h : s.currentScene = .error e) : Refuses s (.objectClicked object) e
  | object {object : String} {scene : Scene} (hb : s.player.isBlocked = false)
      (h : s.currentScene = .ok scene) (hi : scene.interactive.get? object = none)
      (ho : s.catalog.objects.contains object = false) :
      Refuses s (.objectClicked object) (.notFound .object object)
  | code {code : String} {e : Error} (h : s.targetsOf none code = .error e) :
      Refuses s (.codeSubmitted code) e
  | puzzle {puzzle : String} {index : UInt64} {e : Error} (h : s.puzzle puzzle = .error e) :
      Refuses s (.hintRequested puzzle index) e
  | hint {puzzle : String} {index : UInt64} {declared : Puzzle}
      (h : s.puzzle puzzle = .ok declared) (hi : declared.hints[index.toNat]? = none) :
      Refuses s (.hintRequested puzzle index) (.notFound .hint s!"{puzzle}#{index.toNat}")
  | unasked {index : UInt64} (h : s.player.pending = none) :
      Refuses s (.buttonClicked index) .noOpenMessage
  | button {index : UInt64} {scripts : List Script} (h : s.player.pending = some scripts)
      (hi : scripts[index.toNat]? = none) :
      Refuses s (.buttonClicked index)
        (.notFound .button s!"{index.toNat} (message has {scripts.length})")
  | batch {batch : Ticket} (h : waiting? batch s.pendingLoads = none) :
      Refuses s (.assetsReady batch) (.notFound .batch batch.text)
  | timer {timer : Ticket} (h : waiting? timer s.pendingTimers = none) :
      Refuses s (.timerFired timer) (.notFound .timer timer.text)

theorem mem_of_waiting? {α : Type} {l : List (Nat × α)} {t : Ticket} {a : α}
    (h : waiting? t l = some a) : ∃ serial, t = .issued serial ∧ (serial, a) ∈ l := by
  cases t with
  | foreign id => cases h
  | issued serial =>
    obtain ⟨before, after, rfl, -⟩ := List.lookup_eq_some_iff.1 h
    exact ⟨serial, rfl, by simp⟩

theorem mem_of_mem_dropWaiting {α : Type} {l : List (Nat × α)} {t : Ticket} {e : Nat × α}
    (h : e ∈ dropWaiting t l) : e ∈ l := by
  cases t with
  | foreign id => exact h
  | issued serial => exact (List.mem_filter.1 h).1

end Session

namespace Play

variable (depth : Nat) {s : Session}

theorem outcome_clickObject (s : Session) (object : String) :
    (clickObject depth object).outcome s =
      if s.player.isBlocked then some (.ok (), s)
      else andThen (dismiss.outcome s) fun _ => react depth object := by
  simp only [clickObject, outcome_bind, outcome_get, andThen_ok, outcome_ite, outcome_pure]

theorem outcome_react (s : Session) (object : String) :
    (react depth object).outcome s =
      match s.currentScene with
      | .error e => some (.error e, s)
      | .ok scene =>
        match scene.interactive.get? object with
        | some script => (execute depth script).outcome s
        | none => (requireObject object).outcome s := by
  simp only [react, outcome_bind, outcome_ask]
  cases s.currentScene with
  | error e => rfl
  | ok scene =>
    rw [andThen_ok]
    dsimp only
    cases scene.interactive.get? object <;> rfl

theorem outcome_requestHint (hs : s.Grounded) (puzzle : String) (index : UInt64) :
    (handle depth (.hintRequested puzzle index)).outcome s =
      match s.puzzle puzzle with
      | .error e => some (.error e, s)
      | .ok declared =>
        match declared.hints[index.toNat]? with
        | none => some (.error (.notFound .hint s!"{puzzle}#{index.toNat}"), s)
        | some hint => some (.ok (), s.noticed hint) := by
  simp only [handle, requestHint, outcome_bind, outcome_ask]
  cases s.puzzle puzzle with
  | error e => rfl
  | ok declared =>
    cases hi : declared.hints[index.toNat]? with
    | none => simp only [andThen_ok, hi, outcome_throw, andThen_error]
    | some hint =>
      simp only [andThen_ok, hi, outcome_bind, outcome_showNotice hs, outcome_pure]

theorem outcome_timerFired (s : Session) (timer : Ticket) :
    (timerFired depth timer).outcome s =
      match waiting? timer s.pendingTimers with
      | none => some (.error (.notFound .timer timer.text), s)
      | some script => (execute depth script).outcome (s.fired timer) := by
  simp only [timerFired, outcome_bind, outcome_get, andThen_ok]
  cases waiting? timer s.pendingTimers with
  | none => rfl
  | some script => rfl

/-- Nothing waits in the queue. -/
theorem outcome_pumpUpTo_nil (hq : s.queue = []) (count : Nat) :
    (pumpUpTo depth count).outcome s = some (.ok 0, s) := by
  cases count with
  | zero => rfl
  | succ count => simp only [pumpUpTo, outcome_bind, outcome_get, andThen_ok, hq, outcome_pure]

/-- The first event of the queue is handled when it has left the queue. -/
theorem outcome_pumpUpTo_cons {event : Event Ticket} {rest : List (Event Ticket)}
    (hq : s.queue = event :: rest) (count : Nat) :
    (pumpUpTo depth (count + 1)).outcome s =
      (do
        handle depth event
        return (← pumpUpTo depth count) + 1).outcome (s.withQueue rest) := by
  simp only [pumpUpTo, outcome_bind, outcome_get, andThen_ok, hq, outcome_modify]
  rfl

end Play

section Events

variable {P : Policy} {I : Session → Prop} {E : Error → Session → Prop} {s : Session}

/-- What an event may end with: an error of the scripts that it runs, or its refusal. -/
def Refused (I : Session → Prop) (E : Error → Session → Prop) (s : Session) (event : Event Ticket)
    (e : Error) (t : Session) : Prop :=
  E e t ∨ I t ∧ s.Refuses event e

/-- What a call may end with: an error of the scripts that it runs, or the refusal of an event that
it handles. -/
def Ended (I : Session → Prop) (E : Error → Session → Prop) (e : Error) (t : Session) : Prop :=
  E e t ∨ I t ∧ ∃ u event, Session.Refuses u event e

variable (k : Keeps P I E) (depth : Nat)
include k

theorem Keeps.refusable (event : Event Ticket) : Keeps P I (Refused I E s event) :=
  k.weaken fun _ _ => .inl

omit k in
theorem Safe.of_refusal {p : Play Unit} {event : Event Ticket} {e : Error} {t : Session}
    (ht : t.Grounded) (hI : I t) (hr : s.Refuses event e) (h : p.outcome t = some (.error e, t)) :
    Safe P I (Refused I E s event) p t :=
  Safe.of_error ht (.inr ⟨hI, hr⟩) h

theorem Keeps.closeNotice (hs : s.Grounded) (hI : I s) (ho : s.noticeOpen = true) :
    Safe P I E Play.closeNotice s := by
  have h := Play.outcome_closeNotice hs
  cases hplan : s.noticeClosed.plan? with
  | ok plan =>
    rw [hplan] at h
    exact k.of_move hs hI (.close ho hplan) (.same rfl) h
  | error e =>
    rw [hplan] at h
    exact k.of_halt hs hI (.close ho hplan) h

theorem Keeps.dismiss (hs : s.Grounded) (hI : I s) : Safe P I E Play.dismiss s := by
  have h := Play.outcome_dismiss s
  cases ho : s.noticeOpen with
  | false =>
    rw [ho] at h
    exact Safe.of_ok hs hI h
  | true =>
    rw [ho, if_pos rfl] at h
    exact Safe.of_eq h (k.closeNotice hs hI ho)

/-- A click on an object, from a session in which nothing but a notice has gone since. -/
theorem Keeps.react {t : Session} (ht : t.Grounded) (hI : I t) (object : String)
    (hb : s.player.isBlocked = false) (hc : t.catalog = s.catalog)
    (hcurrent : t.player.currentScene = s.player.currentScene) :
    Safe P I (Refused I E s (.objectClicked object)) (Play.react depth object) t := by
  -- The notice that was closed before changes neither the scene nor what is known.
  have hscene : t.currentScene = s.currentScene := by
    unfold Session.currentScene
    rw [hc, hcurrent]
  have h := Play.outcome_react depth t object
  rw [hscene] at h
  cases hs : s.currentScene with
  | error e =>
    rw [hs] at h
    exact Safe.of_refusal ht hI (.unplaced hb hs) h
  | ok scene =>
    simp only [hs] at h
    cases hi : scene.interactive.get? object with
    | some script =>
      obtain ⟨id, -, hknown⟩ := currentScene_eq_ok (hscene.trans hs)
      rw [hi] at h
      refine Safe.of_eq h ((k.refusable _).execute depth ht hI ?_)
      exact k.stored hI (.interaction hknown hi)
    | none =>
      simp only [hi, Play.outcome_requireObject] at h
      cases ho : t.catalog.objects.contains object with
      | true =>
        rw [ho, if_pos rfl] at h
        exact Safe.of_ok ht hI h
      | false =>
        rw [ho] at h
        exact Safe.of_refusal ht hI (.object hb hs hi (hc ▸ ho)) h

theorem Keeps.clickObject (hs : s.Grounded) (hI : I s) (object : String) :
    Safe P I (Refused I E s (.objectClicked object)) (Play.clickObject depth object) s := by
  have h := Play.outcome_clickObject depth s object
  cases hb : s.player.isBlocked with
  | true =>
    rw [hb, if_pos rfl] at h
    exact Safe.of_ok hs hI h
  | false =>
    rw [hb, Play.outcome_dismiss, Play.outcome_closeNotice hs] at h
    cases ho : s.noticeOpen with
    | false =>
      rw [ho] at h
      exact Safe.of_eq h (k.react depth hs hI object hb rfl rfl)
    | true =>
      cases hplan : s.noticeClosed.plan? with
      | error e =>
        rw [ho, hplan] at h
        exact (k.refusable _).of_halt hs hI (.close ho hplan) h
      | ok plan =>
        rw [ho, hplan] at h
        have hafter := k.after hs hI (.close ho hplan) (.same rfl)
        exact Safe.later hafter h
          (k.react depth hafter.grounded hafter.inv object hb rfl rfl)

theorem Keeps.requestHint (hs : s.Grounded) (hI : I s) (puzzle : String) (index : UInt64) :
    Safe P I (Refused I E s (.hintRequested puzzle index))
      (Play.handle depth (.hintRequested puzzle index)) s := by
  have h := Play.outcome_requestHint depth hs puzzle index
  cases hp : s.puzzle puzzle with
  | error e =>
    rw [hp] at h
    exact Safe.of_refusal hs hI (.puzzle hp) h
  | ok declared =>
    simp only [hp] at h
    cases hi : declared.hints[index.toNat]? with
    | none =>
      rw [hi] at h
      exact Safe.of_refusal hs hI (.hint hp hi) h
    | some hint =>
      rw [hi] at h
      exact (k.refusable _).of_move hs hI (.notice hint) (.closed rfl) h

theorem Keeps.clickButton (hs : s.Grounded) (hI : I s) (index : UInt64) :
    Safe P I (Refused I E s (.buttonClicked index))
      (Play.clickButton (Play.execute depth) index.toNat) s := by
  have h := Play.outcome_clickButton hs (Play.execute depth) index.toNat
  cases hp : s.player.pending with
  | none =>
    rw [hp] at h
    exact Safe.of_refusal hs hI (.unasked hp) h
  | some scripts =>
    simp only [hp] at h
    cases hi : scripts[index.toNat]? with
    | none =>
      rw [hi] at h
      exact Safe.of_refusal hs hI (.button hp hi) h
    | some script =>
      simp only [hi] at h
      cases hplan : s.answered.plan? with
      | error e =>
        rw [hplan] at h
        exact (k.refusable _).of_halt hs hI (.answer hp hplan) h
      | ok plan =>
        rw [hplan] at h
        have hafter := k.after hs hI (.answer hp hplan) (.closed rfl)
        refine Safe.later hafter h
          ((k.refusable _).execute depth hafter.grounded hafter.inv ?_)
        intro b hb
        -- The scripts of the message were there before it was closed.
        exact hafter.performs (k.stored hI (.button hp (List.mem_of_getElem? hi)) b hb)

theorem Keeps.assetsReady (hs : s.Grounded) (hI : I s) (batch : Ticket) :
    Safe P I (Refused I E s (.assetsReady batch))
      (Play.assetsReady (Play.execute depth) batch) s := by
  have h := Play.outcome_assetsReady s (Play.execute depth) batch
  cases hw : waiting? batch s.pendingLoads with
  | none =>
    rw [hw] at h
    exact Safe.of_refusal hs hI (.batch hw) h
  | some id =>
    simp only [hw] at h
    cases hstage : s.stage id with
    | error e =>
      rw [hstage] at h
      exact (k.refusable _).of_halt hs hI (.incomplete hw (by rw [hstage]; rfl)) h
    | ok stage =>
      simp only [hstage, Play.outcome_finishLoad] at h
      cases hscenes : (s.reported batch).resolve [] stage.scenes with
      | error e =>
        rw [hscenes] at h
        exact (k.refusable _).of_halt hs hI (.incomplete hw (by rw [hstage]; exact hscenes)) h
      | ok scenes =>
        rw [hscenes] at h
        have hafter := k.after hs hI (.complete hw hstage hscenes) (.same rfl)
        apply Safe.later hafter h
        have hopens := Opens.finished (s := s.reported batch) hstage hscenes
        exact (k.refusable _).openStage ((k.refusable _).execute depth) hafter.grounded hafter.inv
          hopens

theorem Keeps.timerFired (hs : s.Grounded) (hI : I s) (timer : Ticket) :
    Safe P I (Refused I E s (.timerFired timer)) (Play.timerFired depth timer) s := by
  have h := Play.outcome_timerFired depth s timer
  cases hw : waiting? timer s.pendingTimers with
  | none =>
    rw [hw] at h
    exact Safe.of_refusal hs hI (.timer hw) h
  | some script =>
    rw [hw] at h
    have hafter := k.after hs hI (.fire hw) (.same rfl)
    obtain ⟨serial, -, hmem⟩ := mem_of_waiting? hw
    refine Safe.later hafter h
      ((k.refusable _).execute depth hafter.grounded hafter.inv ?_)
    intro b hb
    exact hafter.performs (k.stored hI (.timer hmem) b hb)

/-- **Events keep the invariant**; an event that is refused leaves it as it is. -/
theorem Keeps.handle (hs : s.Grounded) (hI : I s) (event : Event Ticket) :
    Safe P I (Refused I E s event) (Play.handle depth event) s := by
  cases event with
  | objectClicked object => exact k.clickObject depth hs hI object
  | codeSubmitted code =>
    apply (k.refusable _).submitCode ((k.refusable _).execute depth) hs hI
    intro e h
    exact .inr ⟨hI, .code h⟩
  | hintRequested puzzle index => exact k.requestHint depth hs hI puzzle index
  | buttonClicked index => exact k.clickButton depth hs hI index
  | messageDismissed => exact (k.refusable _).dismiss hs hI
  | assetsReady batch => exact k.assetsReady depth hs hI batch
  | timerFired timer => exact k.timerFired depth hs hI timer

theorem Keeps.pumpUpTo (count : Nat) (hs : s.Grounded) (hI : I s) :
    Safe P I (Ended I E) (Play.pumpUpTo depth count) s := by
  induction count generalizing s with
  | zero => exact Safe.of_ok hs hI rfl
  | succ count ih =>
    cases hq : s.queue with
    | nil => exact Safe.of_ok hs hI (Play.outcome_pumpUpTo_nil depth hq _)
    | cons event rest =>
      -- The event has left the queue when it is handled.
      have hafter := k.after hs hI (.queue rest) (.same rfl)
      have hhandle : Safe P I (Ended I E) (Play.handle depth event) (s.withQueue rest) :=
        (k.handle depth hafter.grounded hafter.inv event).imp fun _ _ h =>
          h.imp id fun h => ⟨h.1, _, _, h.2⟩
      apply Safe.later hafter (Play.outcome_pumpUpTo_cons depth hq count)
      apply hhandle.bind
      intro _ t ht
      exact (ih ht.grounded ht.inv).bind fun handled u hu => Safe.of_ok hu.grounded hu.inv rfl

end Events

/-! ## Calls -/

/-- What the surroundings can do to a session that was started.  To handle an event is to call the
operation of that event. -/
inductive Call where
  | handle (event : Event Ticket)
  | goToScene (id : String)
  | loadStage (id : String)
  | execute (script : Script)
  | post (event : Event Ticket)
  | pump
  /-- The batches on display are taken over, to be posted. -/
  | takeBatches
  /-- The timers on display are taken over, to be posted. -/
  | takeTimers

namespace Call

/-- The operation of a call. -/
def play (depth : Nat) : Call → Play Unit
  | handle event => Play.handle depth event
  | goToScene id => Play.goToScene (Play.execute depth) id
  | loadStage id => Play.loadStage (Play.execute depth) id
  | execute script => Play.execute depth script
  | post event => Play.post event
  | pump => do let _ ← Play.pump depth
  | takeBatches => modify fun s => s.withDisplay { s.display with batches := [] }
  | takeTimers => modify fun s => s.withDisplay { s.display with timers := [] }

/-- The calls that a policy permits: scripts that come from outside are as those of the world. -/
def Permitted (P : Policy) (s : Session) : Call → Prop
  | goToScene id => P.performs s (.new (.goToScene id))
  | loadStage id => P.loads s id
  | execute script => ∀ a ∈ script, P.performs s a
  | handle _ | post _ | pump | takeBatches | takeTimers => True

end Call

namespace Session

/-- The session right after a world was accepted. -/
def begun (s : Session) (id : Uuid) (world : World) : Session :=
  { s with
    world := some world
    catalog := ({ parameters := world.parameters } : Catalog).addArrows s.arrows
    player := { sessionId := id }
    queue := []
    pendingLoads := []
    pendingTimers := []
    noticeOpen := false }.cued (s.arrows.map .createObject)

theorem Grounded.of_scenes_eq_empty {s : Session} (h : s.catalog.scenes = ∅)
    (hcurrent : s.player.currentScene = none) : s.Grounded where
  keyed hget := by
    rw [h] at hget
    cases hget
  known hid := by
    rw [hcurrent] at hid
    cases hid
  visited hid := by
    rw [hcurrent] at hid
    cases hid

theorem grounded_withArrows (id : Uuid) (arrows : List String) : (withArrows id arrows).Grounded :=
  .of_scenes_eq_empty rfl rfl

theorem cues_begun (s : Session) (id : Uuid) (world : World) : s.Cues [] (s.begun id world) := by
  refine ⟨s.arrows.map .createObject, rfl, ?_⟩
  intro c hc p hp
  obtain ⟨arrow, -, rfl⟩ := List.mem_map.1 hc
  cases hp

theorem grounded_begun (s : Session) (id : Uuid) (world : World) : (s.begun id world).Grounded :=
  .of_scenes_eq_empty (by simp [begun, Catalog.addArrows_eq]) rfl

end Session

theorem Play.outcome_addArrows (arrows : List String) (s : Session) :
    (arrows.forM addArrow).outcome s =
      some (.ok (), (s.withCatalog (s.catalog.addArrows arrows)).cued
        (arrows.map .createObject)) := by
  induction arrows generalizing s with
  | nil => rfl
  | cons id arrows ih =>
    have h : (addArrow id).outcome s =
        some (.ok (), (s.withCatalog (s.catalog.addObject (.arrow id))).cued [.createObject id]) :=
      rfl
    rw [outcome_forM_cons, h, andThen_ok, ih]
    simp [withCatalog, cued, Catalog.addArrows]

/-- **Starting a world**: one with a defect changes nothing, and otherwise its first stage is
loaded. -/
theorem Play.outcome_start (s : Session) (depth : Nat) (id : Uuid) (world : World) :
    (start depth id world).outcome s =
      match world.validate with
      | .error defect => some (.error (.invalidConfig defect), s)
      | .ok () =>
        match world.firstStage with
        | .error defect => some (.error (.invalidConfig defect), s)
        | .ok first => (loadStage (execute depth) first.id).outcome (s.begun id world) := by
  simp only [start, outcome_bind, outcome_ofExcept]
  cases world.validate with
  | error defect => rfl
  | ok =>
    cases hf : world.firstStage with
    | error defect => rfl
    | ok first =>
      simp only [mapError_ok, andThen_ok, outcome_bind, outcome_ofExcept, outcome_modify,
        outcome_get, outcome_addArrows]
      rfl

/-- A start that succeeds is the load of the first stage. -/
theorem Play.outcome_start_eq_ok_iff {s t : Session} {depth : Nat} {id : Uuid} {world : World} :
    (start depth id world).outcome s = some (.ok (), t) ↔
      world.validate = .ok () ∧ ∃ first, world.firstStage = .ok first ∧
        (loadStage (execute depth) first.id).outcome (s.begun id world) = some (.ok (), t) := by
  rw [outcome_start]
  cases world.validate with
  | error defect => simp
  | ok =>
    cases world.firstStage with
    | error defect => simp
    | ok first => simp

/-- A session of a world: it was started with it once, and has been called as permitted since. -/
inductive Played (permits : Session → Call → Prop) (arrows : List String) (world : World) :
    Session → Prop where
  | start {depth : Nat} {id id' : Uuid} {r : Except Error Unit} {t : Session}
      (h : (Play.start depth id' world).outcome (.withArrows id arrows) = some (r, t)) :
      Played permits arrows world t
  | call {s t : Session} {c : Call} {depth : Nat} {r : Except Error Unit}
      (hs : Played permits arrows world s) (hc : permits s c)
      (h : (c.play depth).outcome s = some (r, t)) : Played permits arrows world t

section Played

variable {P : Policy} {I : Session → Prop} {E : Error → Session → Prop} {s t : Session}
  (k : Keeps P I E)
include k

theorem Keeps.call (depth : Nat) (hs : s.Grounded) (hI : I s) {c : Call} (hc : c.Permitted P s) :
    Safe P I (Ended I E) (c.play depth) s := by
  have k' : Keeps P I (Ended I E) := k.weaken fun _ _ => .inl
  cases c with
  | handle event =>
    exact (k.handle depth hs hI event).imp fun _ _ h => h.imp id fun h => ⟨h.1, _, _, h.2⟩
  | goToScene id => exact k'.goToScene (k'.execute depth) hs hI hc rfl
  | loadStage id => exact k'.loadStage (k'.execute depth) hs hI (.direct hc) rfl
  | execute script => exact k'.execute depth hs hI hc
  | post event => exact k'.of_move hs hI (.queue (s.queue ++ [event])) (.same rfl) rfl
  | pump =>
    refine Safe.of_eq (q := do let _ ← Play.pumpUpTo depth s.queue.length) ?_ ?_
    · simp only [Call.play, Play.pump, Play.outcome_bind, Play.outcome_get, Play.andThen_ok]
    · exact (k.pumpUpTo depth _ hs hI).bind fun _ u hu => Safe.of_ok hu.grounded hu.inv rfl
  | takeBatches => exact k'.of_move hs hI .reportBatches (.same rfl) rfl
  | takeTimers => exact k'.of_move hs hI .reportTimers (.same rfl) rfl

theorem Keeps.start (depth : Nat) {id : Uuid} {world : World} (hs : s.Grounded) (hI : I s)
    (hb : I (s.begun id world))
    (hload : ∀ first, world.firstStage = .ok first → P.loads (s.begun id world) first.id) :
    (Play.start depth id world).ensures (fun _ t => t.Grounded ∧ I t)
      (fun e t => t.Grounded ∧ (E e t ∨ I t)) s := by
  have k' : Keeps P I fun e t => E e t ∨ I t := k.weaken fun _ _ => .inl
  have h := Play.outcome_start s depth id world
  cases hv : world.validate with
  | error defect =>
    rw [hv] at h
    exact Play.ensures_of_error h ⟨hs, .inr hI⟩
  | ok =>
    cases hf : world.firstStage with
    | error defect =>
      rw [hv, hf] at h
      exact Play.ensures_of_error h ⟨hs, .inr hI⟩
    | ok first =>
      rw [hv, hf] at h
      have hg := grounded_begun s id world
      have hsafe := k'.loadStage (k'.execute depth) hg hb (.direct (hload first hf)) rfl
      exact Play.ensures_of_eq h
        (Play.ensures_imp hsafe (fun _ t ht => ⟨ht.grounded, ht.inv⟩) fun _ _ h => h)

/-- **An invariant holds in every session** if it holds before and after a world is accepted. -/
theorem Keeps.played (hE : ∀ e t, E e t → I t) {arrows : List String} {world : World}
    (hfresh : ∀ id, I (.withArrows id arrows))
    (hbegun : ∀ id id', I ((Session.withArrows id arrows).begun id' world))
    (hload : ∀ {s id}, s.player.hasLoaded id = false → P.loads s id)
    (h : Played (fun s c => c.Permitted P s) arrows world s) : s.Grounded ∧ I s := by
  have hend : ∀ {e t}, t.Grounded ∧ (E e t ∨ I t) → t.Grounded ∧ I t := by
    intro e t h
    exact ⟨h.1, h.2.elim (hE e t) id⟩
  have hended : ∀ {e t}, t.Grounded ∧ Ended I E e t → t.Grounded ∧ I t := by
    intro e t h
    exact ⟨h.1, h.2.elim (hE e t) And.left⟩
  -- Calls that fail are followed by others, so both ends of each call are looked at.
  induction h with
  | @start depth id id' r t h =>
    have hstart := k.start depth (grounded_withArrows id arrows) (hfresh id)
      (hbegun id id') fun _ _ => hload rfl
    cases r with
    | ok => exact Play.ensures_ok hstart h
    | error e => exact hend (Play.ensures_error hstart h)
  | @call s t c depth r hs hc h ih =>
    have hcall := k.call depth ih.1 ih.2 hc
    cases r with
    | ok =>
      have hafter := Play.ensures_ok hcall h
      exact ⟨hafter.grounded, hafter.inv⟩
    | error e => exact hended (Play.ensures_error hcall h)

omit k

/-- Where scripts may do everything, every call but that of a stage is permitted. -/
theorem Call.permitted_free {loads : Session → String → Prop} (c : Call)
    (h : ∀ id, c = .loadStage id → loads s id) : c.Permitted (.free loads) s := by
  cases c with
  | loadStage id => exact h id rfl
  | execute script => exact fun _ _ => trivial
  | handle | goToScene | post | pump | takeBatches | takeTimers => trivial

theorem Played.mono {permits permits' : Session → Call → Prop} {arrows : List String}
    {world : World} (hp : ∀ s c, permits s c → permits' s c) (h : Played permits arrows world s) :
    Played permits' arrows world s := by
  induction h with
  | start h => exact .start h
  | call hs hc h ih => exact .call ih (hp _ _ hc) h

/-- An invariant of sessions in which everything is permitted. -/
theorem Played.invariant (k : Keeps (.free fun _ _ => True) I fun _ => I) {arrows : List String}
    {world : World} (hfresh : ∀ id, I (.withArrows id arrows))
    (hbegun : ∀ id id', I ((Session.withArrows id arrows).begun id' world))
    (h : Played (fun _ _ => True) arrows world s) : s.Grounded ∧ I s :=
  k.played (fun _ _ => id) hfresh hbegun (fun _ => trivial)
    (h.mono fun _ c _ => c.permitted_free fun _ _ => trivial)

end Played

/-! ## An example -/

/-- A world with a gate, behind which a keep opens for a code. -/
def World.gate : World where
  stages := [
    { id := "gate"
      scenes := [
        { id := "road"
          hotspots := [⟨"door", .ofInt 0, .ofInt 0, .ofInt 1, .ofInt 1⟩]
          interactive := .ofList [
            ("door", [.new (.blockingText "Knock?" none [.new (.goToScene "road")])]),
            ("left", [.new (.showText "A wall.")])]
          puzzle := some "lock" }] },
    { id := "keep"
      scenes := [{ id := "hall", background := some "hall.png" }] }]
  puzzles := .ofList [("lock", { code := some "sesame", stage := some "keep" })]

/-- The world can be played, and its door can be clicked. -/
theorem exists_played_gate :
    ∃ s, Played (fun _ _ => True) ["left"] .gate s ∧
      s.player.pending = some [[.new (.goToScene "road")]] :=
  ⟨_, @Played.call _ _ _ _ _ (.handle (.objectClicked "door")) 3 _
    (@Played.start _ _ _ 3 (.ofNat 0) (.ofNat 1) _ _ rfl) trivial rfl, rfl⟩

end Adventure
