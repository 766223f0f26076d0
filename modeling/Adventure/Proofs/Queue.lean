import Adventure.Proofs.Depth
import Adventure.Proofs.Oblivion

/-!
# The queue

Nothing that a session does looks at its queue or changes it, but posting an event and pumping.  So
to pump events that were posted is to handle them directly, one after the other, up to the first
that fails; those behind it stay in the queue and are handled when it is pumped again.

## Main definitions

* `Session.Requeued q s u`: the session `u` is `s` with the queue `q`
* `Call.IsDirect`: the calls that do not use the queue
* `Play.drained`: events that are handled directly, with those that are left behind a failure
* `Session.Returns`: events whose handling has an answer, each at some depth

## Main results

* `Play.outcome_withQueue`, `Play.queue_eq`: the queue is neither looked at nor changed
* `Play.outcome_pumpUpTo`: pumping is handling directly, however many events may be handled
* `pump_transparent`: the queue adds nothing and drops nothing
-/

namespace Adventure

open Session

variable {s t u : Session} {events : List (Event Ticket)} {depth depth' : Nat}

/-! ## Sessions with another queue -/

/-- One session is the other one with a queue. -/
def Session.Requeued (q : List (Event Ticket)) (s u : Session) : Prop := u = s.withQueue q

/-- No operation can tell a session from the one with another queue. -/
theorem Session.attentive_requeued (q : List (Event Ticket)) : Attentive (Requeued q) where
  view := by rintro s _ rfl; rfl
  cued := by rintro s _ c rfl _; rfl
  noted := by rintro s _ n rfl; rfl
  changed := by rintro s _ f rfl _; rfl
  opened := by rintro s _ scripts rfl; rfl
  recorded := by rintro s _ puzzle code rfl; rfl
  shown := by rintro s _ scene rfl; exact rel_codeInput? rfl fun _ _ => rfl
  learned := by rintro s _ f rfl; rfl
  noticed := by rintro s _ isOpen rfl; rfl
  batched := by rintro s _ stage rfl; rfl
  scheduled := by rintro s _ duration script rfl; rfl
  pending := by rintro s _ rfl; rfl
  loads := by rintro s _ rfl; rfl
  reported := by rintro s _ batch rfl; rfl

namespace Play

variable {α : Type} {p : Play α} {q : List (Event Ticket)} {r : Except Error α}

/-- **An operation that does not look at the queue** does the same with any other one, and keeps
it. -/
theorem outcome_withQueue (hp : p.Oblivious (Requeued q)) (s : Session) :
    p.outcome (s.withQueue q) = (p.outcome s).map fun o => (o.1, o.2.withQueue q) := by
  have hends := hp s (s.withQueue q) rfl
  generalize p.outcome (s.withQueue q) = o at hends
  cases hs : p.outcome s with
  | none =>
    rw [hs] at hends
    cases hends
    rfl
  | some x =>
    rw [hs] at hends
    obtain ⟨hresult, hqueue⟩ | _ := hends
    rw [Option.map_some]
    exact congrArg some (Prod.ext hresult.symm hqueue)

/-- An operation that does not look at the queue leaves it as it is. -/
theorem queue_eq (hp : ∀ q, p.Oblivious (Requeued q)) (h : p.outcome s = some (r, t)) :
    t.queue = s.queue := by
  -- The session is the one with its own queue, so it ends with that queue.
  have hown := outcome_withQueue (hp s.queue) s
  rw [show s.withQueue s.queue = s from rfl, h] at hown
  have hend : t = t.withQueue s.queue := congrArg Prod.snd (Option.some.inj hown)
  rw [hend]
  rfl

theorem timerFired_requeued (timer : Ticket) : (timerFired depth timer).Oblivious (Requeued q) := by
  rintro s _ rfl
  rw [outcome_timerFired, outcome_timerFired]
  have hwaits : waiting? timer (s.withQueue q).pendingTimers = waiting? timer s.pendingTimers := rfl
  rw [hwaits]
  cases waiting? timer s.pendingTimers with
  | none => exact .some ⟨rfl, rfl⟩
  | some script => exact (attentive_requeued q).execute depth script _ _ rfl

theorem handle_requeued (event : Event Ticket) : (handle depth event).Oblivious (Requeued q) :=
  (attentive_requeued q).handle depth event fun timer _ => timerFired_requeued timer

end Play

namespace Call

/-- The calls that do not use the queue. -/
def IsDirect : Call → Prop
  | post _ | pump => False
  | handle _ | goToScene _ | loadStage _ | execute _ | takeBatches | takeTimers => True

theorem isDirect_iff (c : Call) : c.IsDirect ↔ c ≠ .pump ∧ ∀ event, c ≠ .post event := by
  cases c <;> simp [IsDirect]

theorem IsDirect.requeued {c : Call} (hc : c.IsDirect) (q : List (Event Ticket)) :
    (c.play depth).Oblivious (Requeued q) := by
  have k := attentive_requeued q
  cases c with
  | handle event => exact Play.handle_requeued event
  | goToScene id => exact k.goToScene (k.execute depth) id
  | loadStage id => exact k.loadStage (k.execute depth) id
  | execute script => exact k.execute depth script
  | takeBatches | takeTimers =>
    rintro s _ rfl
    exact .some ⟨rfl, rfl⟩
  | post | pump => cases hc

end Call

/-! ## Events one after the other -/

namespace Play

/-- Events that are handled directly, one after the other, up to the first that fails; those behind
it are left in the queue. -/
def drained (depth : Nat) :
    List (Event Ticket) → Session → Option (Except Error Nat × Session)
  | [], s => some (.ok 0, s)
  | event :: rest, s =>
    match (handle depth event).outcome s with
    | none => none
    | some (.error e, t) => some (.error e, t.withQueue rest)
    | some (.ok _, t) => (drained depth rest t).map fun o => (o.1.map (· + 1), o.2)

theorem outcome_forM_post (events : List (Event Ticket)) (s : Session) :
    (events.forM post).outcome s = some (.ok (), s.withQueue (s.queue ++ events)) := by
  induction events generalizing s with
  | nil => simp [withQueue]
  | cons event rest ih =>
    have hpost : (post event).outcome s = some (.ok (), s.withQueue (s.queue ++ [event])) := rfl
    rw [outcome_forM_cons, hpost, andThen_ok, ih]
    simp [withQueue]

/-- **Pumping is handling directly**, however many events may be handled beyond those that wait. -/
theorem outcome_pumpUpTo (hs : s.queue = []) {count : Nat} (hcount : events.length ≤ count) :
    (pumpUpTo depth count).outcome (s.withQueue events) = drained depth events s := by
  induction events generalizing s count with
  | nil =>
    have hsame : s.withQueue [] = s := by rw [← hs]; rfl
    rw [hsame, drained]
    exact outcome_pumpUpTo_nil depth hs count
  | cons event rest ih =>
    obtain ⟨count, rfl⟩ := Nat.exists_eq_succ_of_ne_zero (Nat.ne_of_gt (Nat.zero_lt_of_lt hcount))
    have hstep := outcome_pumpUpTo_cons (s := s.withQueue (event :: rest)) depth rfl count
    have hrest : (s.withQueue (event :: rest)).withQueue rest = s.withQueue rest := rfl
    rw [hstep, outcome_bind, hrest, outcome_withQueue (handle_requeued event), drained]
    cases hhandle : (handle depth event).outcome s with
    | none => rfl
    | some x =>
      obtain ⟨r, u⟩ := x
      -- What is handled keeps the queue empty, so that the next event finds it as it is now.
      have hu : u.queue = [] := (queue_eq (fun _ => handle_requeued event) hhandle).trans hs
      cases r with
      | error e => rfl
      | ok =>
        rw [Option.map_some, andThen_ok, outcome_bind, ih hu (by simpa using hcount)]
        dsimp only
        cases drained depth rest u with
        | none => rfl
        | some x =>
          obtain ⟨r, v⟩ := x
          cases r <;> rfl

/-- Events that are posted on an empty queue and pumped. -/
theorem outcome_pump_posted (hs : s.queue = []) :
    (do events.forM post; pump depth).outcome s = drained depth events s := by
  rw [outcome_bind, outcome_forM_post, andThen_ok, hs, List.nil_append]
  exact outcome_pumpUpTo hs (Nat.le_refl _)

/-- All events succeed if they do so directly. -/
theorem drained_eq_ok_iff {n : Nat} :
    drained depth events s = some (.ok n, t) ↔
      n = events.length ∧ (events.forM (handle depth)).outcome s = some (.ok (), t) := by
  induction events generalizing s n with
  | nil => simp [drained, eq_comm]
  | cons event rest ih =>
    rw [drained, outcome_forM_cons]
    cases (handle depth event).outcome s with
    | none => simp
    | some x =>
      obtain ⟨_ | _, u⟩ := x
      · simp
      · rw [andThen_ok]
        constructor
        · intro h
          obtain ⟨⟨_ | m, v⟩, hdrained, hsum⟩ := Option.map_eq_some_iff.1 h
          · cases hsum
          · cases hsum
            obtain ⟨rfl, hrest⟩ := ih.1 hdrained
            exact ⟨rfl, hrest⟩
        · rintro ⟨rfl, hrest⟩
          simp only [ih.2 ⟨rfl, hrest⟩]
          rfl

/-- **The first event that fails** ends the pumping, and those behind it are left. -/
theorem drained_eq_error_iff {e : Error} :
    drained depth events s = some (.error e, t) ↔
      ∃ before event after u v, events = before ++ event :: after ∧
        (before.forM (handle depth)).outcome s = some (.ok (), u) ∧
        (handle depth event).outcome u = some (.error e, v) ∧ t = v.withQueue after := by
  induction events generalizing s with
  | nil => simp [drained]
  | cons first rest ih =>
    rw [drained]
    constructor
    · intro h
      cases hfirst : (handle depth first).outcome s with
      | none =>
        rw [hfirst] at h
        cases h
      | some x =>
        obtain ⟨e' | _, u⟩ := x
        · rw [hfirst] at h
          cases h
          exact ⟨[], first, rest, s, u, rfl, rfl, hfirst, rfl⟩
        · rw [hfirst] at h
          obtain ⟨⟨e' | n, v⟩, hdrained, hsum⟩ := Option.map_eq_some_iff.1 h
          · cases hsum
            obtain ⟨before, event, after, u', v', rfl, hbefore, hevent, rfl⟩ := ih.1 hdrained
            refine ⟨first :: before, event, after, u', v', rfl, ?_, hevent, rfl⟩
            rw [outcome_forM_cons, hfirst, andThen_ok, hbefore]
          · cases hsum
    · rintro ⟨before, event, after, u, v, hevents, hbefore, hevent, rfl⟩
      cases before with
      | nil =>
        rw [List.nil_append, List.cons.injEq] at hevents
        obtain ⟨rfl, rfl⟩ := hevents
        cases hbefore
        rw [hevent]
      | cons _ before =>
        rw [List.cons_append, List.cons.injEq] at hevents
        obtain ⟨rfl, rfl⟩ := hevents
        rw [outcome_forM_cons] at hbefore
        cases hfirst : (handle depth first).outcome s with
        | none =>
          rw [hfirst] at hbefore
          cases hbefore
        | some x =>
          obtain ⟨e' | _, w⟩ := x
          · rw [hfirst] at hbefore
            cases hbefore
          · rw [hfirst, andThen_ok] at hbefore
            simp only [ih.2 ⟨before, event, after, u, v, rfl, hbefore, hevent, rfl⟩]
            rfl

end Play

/-! ## Events that return -/

/-- The handling of events has an answer, one after the other up to the first that fails, each at
some depth. -/
inductive Session.Returns : Session → List (Event Ticket) → Prop where
  | nil (s : Session) : Returns s []
  | fail {s t : Session} {event : Event Ticket} {rest : List (Event Ticket)} {depth : Nat}
      {e : Error} (h : (Play.handle depth event).outcome s = some (.error e, t)) :
      Returns s (event :: rest)
  | next {s t : Session} {event : Event Ticket} {rest : List (Event Ticket)} {depth : Nat}
      (h : (Play.handle depth event).outcome s = some (.ok (), t)) (hrest : Returns t rest) :
      Returns s (event :: rest)

/-- Events that return one by one return at one depth, and at all larger ones. -/
theorem Session.Returns.exists_depth (h : s.Returns events) :
    ∃ depth, ∀ depth', depth ≤ depth' → ∃ o, Play.drained depth' events s = some o := by
  induction h with
  | nil s => exact ⟨0, fun _ _ => ⟨_, rfl⟩⟩
  | @fail s t event rest depth e h =>
    refine ⟨depth, fun depth' hle => ?_⟩
    rw [Play.drained, Play.handle_below hle event s _ h]
    exact ⟨_, rfl⟩
  | @next s t event rest depth h hrest ih =>
    obtain ⟨deep, ih⟩ := ih
    refine ⟨max depth deep, fun depth' hle => ?_⟩
    obtain ⟨o, ho⟩ := ih depth' (by omega)
    rw [Play.drained, Play.handle_below (show depth ≤ depth' by omega) event s _ h]
    simp only [ho]
    exact ⟨_, rfl⟩

/-! ## The queue -/

/-- **The queue adds nothing and drops nothing.**  Events that are posted on an empty queue and
pumped end as those that are handled directly, up to the first that fails.  The events behind it are
left, and pumping again is as if they were posted then.  No other call looks at the queue or changes
it; so pumping events that return ends, and there are never more of them to handle. -/
theorem pump_transparent :
    (∀ depth s events, Session.queue s = [] →
      (∀ n t, (do events.forM Play.post; Play.pump depth).outcome s = some (.ok n, t) ↔
        n = events.length ∧ (events.forM (Play.handle depth)).outcome s = some (.ok (), t)) ∧
      (∀ e t, (do events.forM Play.post; Play.pump depth).outcome s = some (.error e, t) ↔
        ∃ before event after u v, events = before ++ event :: after ∧
          (before.forM (Play.handle depth)).outcome s = some (.ok (), u) ∧
          (Play.handle depth event).outcome u = some (.error e, v) ∧ t = v.withQueue after ∧
          v.queue = [] ∧ ∀ depth', (Play.pump depth').outcome t =
            (do after.forM Play.post; Play.pump depth').outcome v) ∧
      ∀ count, events.length ≤ count →
        (do events.forM Play.post; Play.pumpUpTo depth count).outcome s =
          (do events.forM Play.post; Play.pump depth).outcome s) ∧
    (∀ (c : Call) depth s, c ≠ .pump → (∀ event, c ≠ .post event) →
      (∀ r t, (c.play depth).outcome s = some (r, t) → t.queue = s.queue) ∧
      ∀ q, (c.play depth).outcome (s.withQueue q) =
        ((c.play depth).outcome s).map fun o => (o.1, o.2.withQueue q)) ∧
    ∀ s events, Session.queue s = [] → s.Returns events →
      ∃ depth, ∀ depth', depth ≤ depth' →
        ∃ o, (do events.forM Play.post; Play.pump depth').outcome s = some o := by
  refine ⟨fun depth s events hs => ⟨fun n t => ?_, fun e t => ?_, fun count hcount => ?_⟩,
    fun c depth s hpump hpost => ?_, fun s events hs h => ?_⟩
  · rw [Play.outcome_pump_posted hs]
    exact Play.drained_eq_ok_iff
  · rw [Play.outcome_pump_posted hs, Play.drained_eq_error_iff]
    constructor
    · rintro ⟨before, event, after, u, v, hevents, hbefore, hevent, rfl⟩
      have hu : u.queue = [] := by
        refine (Play.queue_eq (fun q => ?_) hbefore).trans hs
        exact .forM (fun event => Play.handle_requeued event) before
      have hv : v.queue = [] :=
        (Play.queue_eq (fun _ => Play.handle_requeued event) hevent).trans hu
      refine ⟨before, event, after, u, v, hevents, hbefore, hevent, rfl, hv, fun depth' => ?_⟩
      rw [Play.outcome_pump_posted hv]
      exact Play.outcome_pumpUpTo hv (Nat.le_refl _)
    · rintro ⟨before, event, after, u, v, hevents, hbefore, hevent, ht, -⟩
      exact ⟨before, event, after, u, v, hevents, hbefore, hevent, ht⟩
  · rw [Play.outcome_pump_posted hs, Play.outcome_bind, Play.outcome_forM_post, Play.andThen_ok, hs]
    exact Play.outcome_pumpUpTo hs hcount
  · have hc := c.isDirect_iff.2 ⟨hpump, hpost⟩
    exact ⟨fun r t h => Play.queue_eq hc.requeued h,
      fun q => Play.outcome_withQueue (hc.requeued q) s⟩
  · obtain ⟨depth, hdepth⟩ := h.exists_depth
    refine ⟨depth, fun depth' hle => ?_⟩
    rw [Play.outcome_pump_posted hs]
    exact hdepth depth' hle

/-- At the gate, a click on a wall opens a notice, and there is no button to click then: the event
behind it is left in the queue. -/
theorem pump_transparent_gate :
    ∃ s t, Played (fun _ _ => True) ["left"] .gate s ∧ s.queue = [] ∧
      (do
        [Event.objectClicked "left", .buttonClicked 0, .messageDismissed].forM Play.post
        Play.pump 3).outcome s = some (.error .noOpenMessage, t) ∧
      t.queue = [.messageDismissed] ∧ t.noticeOpen = true := by
  have h := @Played.start (fun _ _ => True) ["left"] .gate 3 (.ofNat 0) (.ofNat 1) _ _ rfl
  exact ⟨_, _, h, rfl, ((pump_transparent.1 3 _ _ rfl).2.1 _ _).2 ⟨[.objectClicked "left"],
    .buttonClicked 0, [.messageDismissed], _, _, rfl, rfl, rfl, rfl, rfl, fun _ => rfl⟩, rfl, rfl⟩

end Adventure
