import Adventure.Proofs.Queue
import Adventure.Proofs.Reachability

/-!
# Timers that are armed and fired

A timer is armed by a delayed action, which puts its script by under the next number and gives a cue
to the surroundings.  Nothing else does that, and only the event of a timer takes its script back.
So what a call does to the timers is seen from the cues that it gives and from the events that it
handles, whatever scripts it runs.

## Main definitions

* `Display.armed`: the timers that the cues of a display have armed
* `Session.Arms s armed t`: from `s` to `t`, timers were armed, and none was fired
* `Session.Turns s fired armed t`: from `s` to `t`, timers were armed, and some were fired
* `Session.Numbered`: timers are numbered in the order in which they are armed
* `Session.Serves`: from one session to another one, timers were armed and put on display, and none
  was fired but those that were reported
* `Call.Reports`: a call handles the event of a timer

## Main results

* `Session.exists_arms`: operations that fire no timers arm some
* `Session.Turns.spent`: a timer that does not wait any more never waits again
* `Play.serves_pumpUpTo`: what the events of a queue do to the timers
* `Call.serves`: what a call does to them
-/

namespace Adventure

open Session

/-- The timer that a cue arms. -/
def Cue.timer? : Cue → Option (Duration × Nat)
  | after delay timer => some (delay, timer)
  | _ => none

/-- The timers that the cues of a display have armed, whether they were reported since or not. -/
def Display.armed (d : Display) : List (Duration × Nat) := d.cues.toList.filterMap Cue.timer?

theorem Cue.timer?_eq_none {c : Cue} (h : c.part? ≠ some .timers) : c.timer? = none := by
  cases c with
  | after delay timer => exact absurd rfl h
  | _ => rfl

theorem Display.armed_perform (d : Display) (c : Cue) :
    (d.perform c).armed = d.armed ++ c.timer?.toList := by
  simp only [armed, perform, Array.toList_push, List.filterMap_append]
  cases h : c.timer? <;> simp [h]

/-! ## Timers that are armed -/

/-- From one session to another one, timers were armed under the next numbers, and none was fired:
each one waits with its script, and a cue was given for it. -/
structure Session.Arms (s : Session) (armed : List (Duration × Nat × Script)) (t : Session) :
    Prop where
  pending : t.pendingTimers = s.pendingTimers ++ armed.map Prod.snd
  serials : armed.map (fun e => e.2.1) = List.range' s.timerCount armed.length
  count : t.timerCount = s.timerCount + armed.length
  cues : t.display.armed = s.display.armed ++ armed.map fun e => (e.1, e.2.1)
  timers : t.display.timers = s.display.timers ++ armed.map fun e => (e.1, e.2.1)

namespace Session

variable {s t u : Session} {armed : List (Duration × Nat × Script)}

/-- No timer was armed. -/
theorem Arms.of_eq (hp : t.pendingTimers = s.pendingTimers) (hc : t.timerCount = s.timerCount)
    (ha : t.display.armed = s.display.armed) (ht : t.display.timers = s.display.timers) :
    s.Arms [] t :=
  ⟨by simp [hp], rfl, by simp [hc], by simp [ha], by simp [ht]⟩

theorem Arms.refl (s : Session) : s.Arms [] s := .of_eq rfl rfl rfl rfl

/-- What follows changes nothing about the timers. -/
theorem Arms.congr (h : s.Arms armed t) (hp : u.pendingTimers = t.pendingTimers)
    (hc : u.timerCount = t.timerCount) (hd : u.display = t.display) : s.Arms armed u :=
  ⟨hp.trans h.pending, h.serials, hc.trans h.count, by rw [hd, h.cues], by rw [hd, h.timers]⟩

/-- A cue that is not about timers. -/
theorem Arms.cued (h : s.Arms armed t) {c : Cue} (hc : c.part? ≠ some .timers) :
    s.Arms armed (t.cued [c]) where
  pending := h.pending
  serials := h.serials
  count := h.count
  cues := by
    show (t.display.perform c).armed = _
    rw [Display.armed_perform, Cue.timer?_eq_none hc, h.cues]
    simp
  timers := Eq.trans (Display.sameIn_perform t.display hc) h.timers

/-- A timer more. -/
theorem Arms.scheduled (h : s.Arms armed t) (duration : Duration) (script : Script) :
    s.Arms (armed ++ [(duration, t.timerCount, script)]) (t.scheduled duration script) where
  pending := by
    show t.pendingTimers ++ [(t.timerCount, script)] = _
    rw [h.pending]
    simp
  serials := by
    rw [List.map_append, h.serials, List.length_append, ← List.range'_append_1, h.count]
    rfl
  count := by
    show t.timerCount + 1 = _
    rw [h.count, List.length_append, Nat.add_assoc]
    rfl
  cues := by
    show (t.display.perform (.after duration t.timerCount)).armed = _
    rw [Display.armed_perform, h.cues]
    simp [Cue.timer?]
  timers := by
    show t.display.timers ++ [(duration, t.timerCount)] = _
    rw [h.timers]
    simp

/-- Operations that do not fire timers arm some. -/
theorem attentive_arms (s : Session) :
    Attentive fun t u => t = u ∧ ∃ armed, s.Arms armed t where
  view := by
    rintro t _ ⟨rfl, -⟩
    rfl
  cued := by
    rintro t _ c ⟨rfl, armed, h⟩ hc
    exact ⟨rfl, armed, h.cued hc⟩
  noted := by
    rintro t _ n ⟨rfl, armed, h⟩
    exact ⟨rfl, armed, h.congr rfl rfl rfl⟩
  changed := by
    rintro t _ f ⟨rfl, armed, h⟩ -
    exact ⟨rfl, armed, h.congr rfl rfl rfl⟩
  opened := by
    rintro t _ scripts ⟨rfl, armed, h⟩
    exact ⟨rfl, armed, h.congr rfl rfl rfl⟩
  recorded := by
    rintro t _ puzzle code ⟨rfl, armed, h⟩
    exact ⟨rfl, armed, h.congr rfl rfl rfl⟩
  shown := by
    rintro t _ scene ⟨rfl, armed, h⟩
    exact rel_codeInput? (A := fun t u => t = u ∧ ∃ armed, s.Arms armed t) rfl
      fun _ hc => ⟨rfl, armed, h.cued hc⟩
  learned := by
    rintro t _ f ⟨rfl, armed, h⟩
    exact ⟨rfl, armed, h.congr rfl rfl rfl⟩
  noticed := by
    rintro t _ isOpen ⟨rfl, armed, h⟩
    exact ⟨rfl, armed, h.congr rfl rfl rfl⟩
  batched := by
    rintro t _ stage ⟨rfl, armed, h⟩
    have hwaits : s.Arms armed ({ t with
        batchCount := t.batchCount + 1
        pendingLoads := t.pendingLoads ++ [(t.batchCount, stage)] }.noted
          (.stagePreloading stage t.batchCount)) := h.congr rfl rfl rfl
    exact ⟨rfl, armed, hwaits.cued nofun⟩
  scheduled := by
    rintro t _ duration script ⟨rfl, armed, h⟩
    exact ⟨rfl, _, h.scheduled duration script⟩
  pending := by
    rintro t _ ⟨rfl, -⟩
    rfl
  loads := by
    rintro t _ ⟨rfl, -⟩
    rfl
  reported := by
    rintro t _ batch ⟨rfl, armed, h⟩
    exact ⟨rfl, armed, h.congr rfl rfl rfl⟩

/-- What an operation does that fires no timers. -/
theorem exists_arms {α : Type} {p : Play α} {r : Except Error α}
    (hp : p.Oblivious fun t u => t = u ∧ ∃ armed, s.Arms armed t)
    (h : p.outcome s = some (r, t)) : ∃ armed, s.Arms armed t := by
  obtain ⟨_, -, -, harms⟩ := hp.answer ⟨rfl, [], .refl s⟩ h
  exact harms

end Session

/-! ## Timers that are fired -/

/-- From one session to another one, timers were armed, and some timers were fired, which do not
wait any more. -/
structure Session.Turns (s : Session) (fired : List Nat) (armed : List (Duration × Nat × Script))
    (t : Session) : Prop where
  pending : t.pendingTimers =
    (s.pendingTimers ++ armed.map Prod.snd).filter fun e => decide (e.1 ∉ fired)
  serials : armed.map (fun e => e.2.1) = List.range' s.timerCount armed.length
  count : t.timerCount = s.timerCount + armed.length
  cues : t.display.armed = s.display.armed ++ armed.map fun e => (e.1, e.2.1)
  fired_lt : ∀ n ∈ fired, n < t.timerCount

/-- Timers wait and are on display in the order of their numbers, which are those that were given
so far. -/
structure Session.Numbered (s : Session) : Prop where
  pending : (s.pendingTimers.map Prod.fst).Pairwise (· < ·)
  pending_lt : ∀ e ∈ s.pendingTimers, e.1 < s.timerCount
  timers : (s.display.timers.map Prod.snd).Pairwise (· < ·)
  timers_lt : ∀ e ∈ s.display.timers, e.2 < s.timerCount

namespace Session

variable {s t u : Session} {fired fired' : List Nat} {armed armed' : List (Duration × Nat × Script)}

/-- Where no timer was fired, those that were armed have come to those that have waited. -/
theorem Arms.turns (h : s.Arms armed t) : s.Turns [] armed t where
  pending := by
    rw [h.pending]
    exact (List.filter_eq_self.2 fun e _ => by simp).symm
  serials := h.serials
  count := h.count
  cues := h.cues
  fired_lt := nofun

theorem Turns.serial_le (h : s.Turns fired armed t) {e : Duration × Nat × Script}
    (he : e ∈ armed) : s.timerCount ≤ e.2.1 ∧ e.2.1 < t.timerCount := by
  have hmem : e.2.1 ∈ armed.map fun e => e.2.1 := List.mem_map_of_mem he
  rw [h.serials, List.mem_range'_1] at hmem
  rwa [h.count]

theorem Turns.trans (h : s.Turns fired armed t) (h' : t.Turns fired' armed' u) :
    s.Turns (fired ++ fired') (armed ++ armed') u where
  pending := by
    -- The timers that were armed later have other numbers than those that were fired before.
    have hlater : ∀ e ∈ armed'.map Prod.snd, e.1 ∉ fired := by
      intro e he hfired
      obtain ⟨a, ha, rfl⟩ := List.mem_map.1 he
      have hlt := h.fired_lt _ hfired
      have hle := (h'.serial_le ha).1
      omega
    rw [h'.pending, h.pending, List.map_append, ← List.append_assoc]
    simp only [List.filter_append, List.filter_filter, List.mem_append, not_or]
    congr 1
    · simp [Bool.and_comm]
    · apply List.filter_congr
      intro e he
      simp [hlater e he]
  serials := by
    rw [List.map_append, h.serials, h'.serials, h.count, List.length_append, List.range'_append_1]
  count := by rw [h'.count, h.count, List.length_append, Nat.add_assoc]
  cues := by rw [h'.cues, h.cues, List.map_append, List.append_assoc]
  fired_lt n hn := by
    rcases List.mem_append.1 hn with hn | hn
    · have hlt := h.fired_lt n hn
      have hcount := h'.count
      omega
    · exact h'.fired_lt n hn

/-- What waits has waited before, or was armed since. -/
theorem Turns.mem_pending (h : s.Turns fired armed t) {e : Nat × Script}
    (he : e ∈ t.pendingTimers) : e.1 ∉ fired ∧ (e ∈ s.pendingTimers ∨ ∃ a ∈ armed, a.2 = e) := by
  rw [h.pending, List.mem_filter, List.mem_append, List.mem_map] at he
  exact ⟨of_decide_eq_true he.2, he.1⟩

/-- **A timer that does not wait any more** never waits again. -/
theorem Turns.spent (h : s.Turns fired armed t) {n : Nat} (hlt : n < s.timerCount)
    (hn : ∀ e ∈ s.pendingTimers, e.1 ≠ n) : ∀ e ∈ t.pendingTimers, e.1 ≠ n := by
  intro e he
  rcases (h.mem_pending he).2 with he | ⟨a, ha, rfl⟩
  · exact hn e he
  · have hle := (h.serial_le ha).1
    omega

/-- The numbers of a list that goes on with new ones. -/
theorem pairwise_append_range' {l : List Nat} {n k : Nat} (h : l.Pairwise (· < ·))
    (hl : ∀ m ∈ l, m < n) : (l ++ List.range' n k).Pairwise (· < ·) := by
  refine List.pairwise_append.2 ⟨h, List.pairwise_lt_range', fun m hm m' hm' => ?_⟩
  exact Nat.lt_of_lt_of_le (hl m hm) (List.mem_range'_1.1 hm').1

/-- Timers stay numbered in their order. -/
theorem Turns.numbered (h : s.Turns fired armed t) (hs : s.Numbered)
    (ht : t.display.timers = [] ∨
      t.display.timers = s.display.timers ++ armed.map fun e => (e.1, e.2.1)) : t.Numbered where
  pending := by
    have hall : ((s.pendingTimers ++ armed.map Prod.snd).map Prod.fst).Pairwise (· < ·) := by
      have hserials : (armed.map Prod.snd).map Prod.fst = _ := (List.map_map ..).trans h.serials
      rw [List.map_append, hserials]
      refine pairwise_append_range' hs.pending fun m hm => ?_
      obtain ⟨e, he, rfl⟩ := List.mem_map.1 hm
      exact hs.pending_lt e he
    rw [h.pending]
    exact hall.sublist (List.filter_sublist.map Prod.fst)
  pending_lt e he := by
    rcases (h.mem_pending he).2 with he | ⟨a, ha, rfl⟩
    · have hlt := hs.pending_lt e he
      have hcount := h.count
      omega
    · exact (h.serial_le ha).2
  timers := by
    rcases ht with ht | ht
    · rw [ht]
      exact .nil
    · have hserials : (armed.map fun e => (e.1, e.2.1)).map Prod.snd = _ :=
        (List.map_map ..).trans h.serials
      rw [ht, List.map_append, hserials]
      refine pairwise_append_range' hs.timers fun m hm => ?_
      obtain ⟨e, he, rfl⟩ := List.mem_map.1 hm
      exact hs.timers_lt e he
  timers_lt e he := by
    rcases ht with ht | ht
    · rw [ht] at he
      cases he
    · rw [ht, List.mem_append] at he
      rcases he with he | he
      · have hlt := hs.timers_lt e he
        have hcount := h.count
        omega
      · obtain ⟨a, ha, rfl⟩ := List.mem_map.1 he
        exact (h.serial_le ha).2

/-- From one session to another one, timers were armed and put on display, and none was fired but
those that were reported. -/
def Serves (s : Session) (reports : Nat → Prop) (t : Session) : Prop :=
  ∃ fired armed, s.Turns fired armed t ∧ (∀ n ∈ fired, reports n) ∧
    t.display.timers = s.display.timers ++ armed.map fun e => (e.1, e.2.1)

variable {reports reports' : Nat → Prop}

theorem Serves.of_arms (h : s.Arms armed t) : s.Serves reports t :=
  ⟨[], armed, h.turns, nofun, h.timers⟩

theorem Serves.trans (h : s.Serves reports t) (h' : t.Serves reports' u)
    (hr : ∀ n, reports' n → reports n) : s.Serves reports u := by
  obtain ⟨fired, armed, hturns, hfired, hshown⟩ := h
  obtain ⟨fired', armed', hturns', hfired', hshown'⟩ := h'
  refine ⟨_, _, hturns.trans hturns', fun n hn => ?_, ?_⟩
  · rcases List.mem_append.1 hn with hn | hn
    · exact hfired n hn
    · exact hr n (hfired' n hn)
  · rw [hshown', hshown, List.map_append, List.append_assoc]

theorem Serves.numbered (h : s.Serves reports t) (hs : s.Numbered) : t.Numbered := by
  obtain ⟨fired, armed, hturns, -, hshown⟩ := h
  exact hturns.numbered hs (.inr hshown)

theorem Serves.spent (h : s.Serves reports t) {n : Nat} (hlt : n < s.timerCount)
    (hn : ∀ e ∈ s.pendingTimers, e.1 ≠ n) : ∀ e ∈ t.pendingTimers, e.1 ≠ n := by
  obtain ⟨fired, armed, hturns, -⟩ := h
  exact hturns.spent hlt hn

end Session

/-! ## Events -/

namespace Play

variable {s t : Session} {depth : Nat} {r : Except Error Unit}

/-- **The event of a timer** that waits takes its script back and runs it. -/
theorem outcome_timerFired_of_waiting {timer : Ticket} {script : Script}
    (h : waiting? timer s.pendingTimers = some script) (depth : Nat) :
    (timerFired depth timer).outcome s = (execute depth script).outcome (s.fired timer) := by
  rw [outcome_timerFired, h]

/-- The event of a timer that does not wait is refused. -/
theorem outcome_timerFired_of_not_waiting {timer : Ticket}
    (h : waiting? timer s.pendingTimers = none) (depth : Nat) :
    (timerFired depth timer).outcome s = some (.error (.notFound .timer timer.text), s) := by
  rw [outcome_timerFired, h]

/-- A timer is taken back. -/
theorem turns_fired (hs : s.Numbered) {n : Nat} {script : Script}
    (h : (n, script) ∈ s.pendingTimers) : s.Turns [n] [] (s.fired (.issued n)) where
  pending := by
    show s.pendingTimers.filter (fun e => e.1 != n) = _
    rw [List.map_nil, List.append_nil]
    apply List.filter_congr
    intro e _
    by_cases he : e.1 = n <;> simp [he]
  serials := rfl
  count := rfl
  cues := by simp [Session.fired]
  fired_lt m hm := by
    obtain rfl := List.mem_singleton.1 hm
    exact hs.pending_lt _ h

/-- What the event of a timer does to the timers. -/
theorem serves_timerFired (hs : s.Numbered) {timer : Ticket}
    (h : (timerFired depth timer).outcome s = some (r, t)) :
    s.Serves (fun n => timer = .issued n) t := by
  cases hw : waiting? timer s.pendingTimers with
  | none =>
    rw [outcome_timerFired_of_not_waiting hw] at h
    cases h
    exact .of_arms (.refl s)
  | some script =>
    rw [outcome_timerFired_of_waiting hw] at h
    obtain ⟨n, rfl, hmem⟩ := mem_of_waiting? hw
    obtain ⟨armed, harms⟩ := exists_arms ((attentive_arms _).execute depth script) h
    exact ⟨_, _, (turns_fired hs hmem).trans harms.turns, by simp, harms.timers⟩

/-- **After the event of a timer**, the timer does not wait any more; and if the event succeeded,
the timer was armed. -/
theorem gone_of_timerFired (hs : s.Numbered) {n : Nat}
    (h : (timerFired depth (.issued n)).outcome s = some (r, t)) :
    (∀ e ∈ t.pendingTimers, e.1 ≠ n) ∧ (r = .ok () → n < t.timerCount) := by
  cases hw : waiting? (.issued n) s.pendingTimers with
  | none =>
    rw [outcome_timerFired_of_not_waiting hw] at h
    cases h
    refine ⟨?_, nofun⟩
    rintro e he rfl
    have hnone := List.lookup_eq_none_iff.1 hw e he
    simp at hnone
  | some script =>
    rw [outcome_timerFired_of_waiting hw] at h
    obtain ⟨_, ⟨⟩, hmem⟩ := mem_of_waiting? hw
    obtain ⟨armed, harms⟩ := exists_arms ((attentive_arms _).execute depth script) h
    have hturns := (turns_fired hs hmem).trans harms.turns
    refine ⟨fun e he => ?_, fun _ => hturns.fired_lt n (.head _)⟩
    have hnot := (hturns.mem_pending he).1
    simpa using hnot

/-- What an event does to the timers. -/
theorem serves_handle (hs : s.Numbered) {event : Event Ticket}
    (h : (handle depth event).outcome s = some (r, t)) :
    s.Serves (fun n => event = .timerFired (.issued n)) t := by
  by_cases htimer : ∃ timer, event = .timerFired timer
  · obtain ⟨timer, rfl⟩ := htimer
    obtain ⟨fired, armed, hturns, hfired, hshown⟩ := serves_timerFired hs h
    exact ⟨fired, armed, hturns, fun n hn => by rw [hfired n hn], hshown⟩
  · have k := attentive_arms s
    obtain ⟨armed, harms⟩ := exists_arms
      (k.handle depth event fun timer he => absurd ⟨timer, he⟩ htimer) h
    exact .of_arms harms

/-- What the events of a queue do to the timers: those that were handled do not wait any more. -/
theorem serves_pumpUpTo (hs : s.Numbered) {count : Nat} {r : Except Error Nat}
    (h : (pumpUpTo depth count).outcome s = some (r, t)) :
    s.Serves (fun n => .timerFired (.issued n) ∈ s.queue) t ∧
      ∀ n, .timerFired (.issued n) ∈ s.queue →
        .timerFired (.issued n) ∈ t.queue ∨ ∀ e ∈ t.pendingTimers, e.1 ≠ n := by
  induction count generalizing s r with
  | zero =>
    cases h
    exact ⟨.of_arms (.refl _), fun n hn => .inl hn⟩
  | succ count ih =>
    cases hq : s.queue with
    | nil =>
      rw [outcome_pumpUpTo_nil depth hq] at h
      cases h
      exact ⟨.of_arms (.refl _), nofun⟩
    | cons event rest =>
      rw [outcome_pumpUpTo_cons depth hq, outcome_bind] at h
      cases hhandle : (handle depth event).outcome (s.withQueue rest) with
      | none =>
        rw [hhandle] at h
        cases h
      | some x =>
        obtain ⟨r', u⟩ := x
        have hrest : (s.withQueue rest).Numbered :=
          ⟨hs.pending, hs.pending_lt, hs.timers, hs.timers_lt⟩
        have hfirst : s.Serves (fun n => .timerFired (.issued n) ∈ event :: rest) u := by
          obtain ⟨fired, armed, hturns, hfired, hshown⟩ := serves_handle hrest hhandle
          refine ⟨fired, armed, ⟨hturns.pending, hturns.serials, hturns.count, hturns.cues,
            hturns.fired_lt⟩, fun n hn => ?_, hshown⟩
          rw [hfired n hn]
          exact .head _
        have hqueue : u.queue = rest := queue_eq (fun _ => handle_requeued event) hhandle
        cases r' with
        | error e =>
          rw [hhandle] at h
          cases h
          refine ⟨hfirst, fun n hn => ?_⟩
          rw [hqueue]
          rcases List.mem_cons.1 hn with rfl | hn
          · exact .inr (gone_of_timerFired hrest hhandle).1
          · exact .inl hn
        | ok =>
          rw [hhandle, andThen_ok] at h
          obtain ⟨r', hpump⟩ := exists_of_outcome_bind_pure h
          obtain ⟨hlater, hgone⟩ := ih (hfirst.numbered hs) hpump
          rw [hqueue] at hlater hgone
          refine ⟨hfirst.trans hlater fun n hn => .tail _ hn, fun n hn => ?_⟩
          rcases List.mem_cons.1 hn with rfl | hn
          · -- The event has succeeded, so the timer was armed before; it is not armed again.
            obtain ⟨hnone, hlt⟩ := gone_of_timerFired hrest hhandle
            exact .inr (hlater.spent (hlt rfl) hnone)
          · exact hgone n hn

end Play

/-- A call handles the event of a timer. -/
def Call.Reports (s : Session) : Call → Nat → Prop
  | handle event, n => event = .timerFired (.issued n)
  | pump, n => .timerFired (.issued n) ∈ s.queue
  | goToScene _, _ | loadStage _, _ | execute _, _ | post _, _ | takeBatches, _ | takeTimers, _ =>
    False

/-- Pumping handles as many events as wait. -/
theorem Call.exists_pumpUpTo {s t : Session} {depth : Nat} {r : Except Error Unit}
    (h : (pump.play depth).outcome s = some (r, t)) :
    ∃ r', (Play.pumpUpTo depth s.queue.length).outcome s = some (r', t) := by
  obtain ⟨r', hpump⟩ := Play.exists_of_outcome_bind_pure h
  rw [Play.pump, Play.outcome_bind, Play.outcome_get, Play.andThen_ok] at hpump
  exact ⟨r', hpump⟩

section Calls

variable {s t : Session} {c : Call} {depth : Nat} {r : Except Error Unit}

/-- **What a call does to the timers**: it arms some, which are put on display, and it fires none
but those whose events it handles. -/
theorem Call.serves (hs : s.Numbered) (hc : c ≠ .takeTimers)
    (h : (c.play depth).outcome s = some (r, t)) : s.Serves (c.Reports s) t := by
  have k := attentive_arms s
  cases c with
  | handle event => exact Play.serves_handle hs h
  | goToScene id =>
    obtain ⟨armed, harms⟩ := exists_arms (k.goToScene (k.execute depth) id) h
    exact .of_arms harms
  | loadStage id =>
    obtain ⟨armed, harms⟩ := exists_arms (k.loadStage (k.execute depth) id) h
    exact .of_arms harms
  | execute script =>
    obtain ⟨armed, harms⟩ := exists_arms (k.execute depth script) h
    exact .of_arms harms
  | post event =>
    cases h
    exact .of_arms (.of_eq rfl rfl rfl rfl)
  | pump =>
    obtain ⟨r', hpump⟩ := Call.exists_pumpUpTo h
    exact (Play.serves_pumpUpTo hs hpump).1
  | takeBatches =>
    cases h
    exact .of_arms (.of_eq rfl rfl rfl rfl)
  | takeTimers => exact absurd rfl hc

end Calls

end Adventure
