import Adventure.Proofs.Arming
import Mathlib.Data.List.Sort

/-!
# Timers fire once and are not lost

A delayed script waits under a number of its own until the event of its timer is handled, or until
the session is started again; scenes and stages come and go meanwhile.  The timers on display are
reported by the surroundings, the shortest delay first.  Where they post every event that they take
over, a script that waits is on display, in the queue or on its way there.

## Main definitions

* `Session.Onward`: the sessions that calls and starts lead to
* `Session.Punctual`: what becomes of timers that are armed, of those that wait and of the others
* `Relayed`: sessions whose surroundings post every event that they take over
* `Session.Traced`: each script that waits can be found on its way to be run

## Main results

* `Reached.punctual`: every session is punctual
* `Relayed.traced`: no timer is lost
* `Display.pairwise_timersByDelay`: timers are reported by their delay, and in the order of arming
* `timers_fire_once`: all of that, and what reporting all timers does
-/

namespace Adventure

open Session

variable {arrows : List String} {s t u : Session} {depth : Nat} {r : Except Error Unit}
  {id : Uuid} {world : World}

/-! ## Starts -/

/-- An accepted world forgets the timers that wait, but not those on display. -/
theorem Session.timers_begun (s : Session) (id : Uuid) (world : World) :
    (s.begun id world).display.timers = s.display.timers :=
  (cues_begun s id world).sameIn (p := .timers) (by simp)

/-- **A start** that is refused changes nothing; otherwise no timer waits but those that are armed
since. -/
theorem Play.exists_arms_start (h : (start depth id world).outcome s = some (r, t)) :
    (∃ defect, world.validate = .error defect ∧ t = s) ∨
      world.validate = .ok () ∧ ∃ armed, (s.begun id world).Arms armed t := by
  rw [outcome_start] at h
  cases hvalid : world.validate with
  | error defect =>
    rw [hvalid] at h
    cases h
    exact .inl ⟨defect, rfl, rfl⟩
  | ok =>
    obtain ⟨first, hfirst, -⟩ := bind_eq_ok_iff.1 hvalid
    rw [hvalid, hfirst] at h
    have k := attentive_arms (s.begun id world)
    exact .inr ⟨rfl, exists_arms (k.loadStage (k.execute depth) first.id) h⟩

theorem Session.Numbered.begun (hs : s.Numbered) (id : Uuid) (world : World) :
    (s.begun id world).Numbered where
  pending := .nil
  pending_lt := nofun
  timers := by
    rw [timers_begun]
    exact hs.timers
  timers_lt := by
    rw [timers_begun]
    exact hs.timers_lt

theorem Session.Numbered.start (hs : s.Numbered)
    (h : (Play.start depth id world).outcome s = some (r, t)) : t.Numbered := by
  obtain ⟨-, -, rfl⟩ | ⟨-, armed, harms⟩ := Play.exists_arms_start h
  · exact hs
  · exact harms.turns.numbered (hs.begun id world) (.inr harms.timers)

/-- **What a call does to the timers**, those on display aside. -/
theorem Call.exists_turns (hs : s.Numbered) {c : Call}
    (h : (c.play depth).outcome s = some (r, t)) :
    t.Numbered ∧ ∃ fired armed, s.Turns fired armed t ∧ ∀ n ∈ fired, c.Reports s n := by
  by_cases hc : c = .takeTimers
  · subst hc
    cases h
    have hturns : s.Turns [] [] (s.withDisplay { s.display with timers := [] }) :=
      ⟨(Arms.refl s).turns.pending, rfl, rfl, (Arms.refl s).cues, nofun⟩
    exact ⟨hturns.numbered hs (.inl rfl), [], [], hturns, nofun⟩
  · have hserves := c.serves hs hc h
    have hnumbered := hserves.numbered hs
    obtain ⟨fired, armed, hturns, hfired, -⟩ := hserves
    exact ⟨hnumbered, fired, armed, hturns, hfired⟩

theorem Reached.numbered (h : Reached arrows s) : s.Numbered := by
  induction h with
  | fresh id => exact ⟨.nil, nofun, .nil, nofun⟩
  | start hs h ih => exact ih.start h
  | call hs h ih => exact (Call.exists_turns ih h).1

/-! ## Timers that wait -/

/-- The sessions that calls and starts lead to. -/
inductive Session.Onward (s : Session) : Session → Prop where
  | refl : Onward s s
  | start {t u : Session} {depth : Nat} {id : Uuid} {world : World} {r : Except Error Unit}
      (ht : Onward s t) (h : (Play.start depth id world).outcome t = some (r, u)) : Onward s u
  | call {t u : Session} {c : Call} {depth : Nat} {r : Except Error Unit} (ht : Onward s t)
      (h : (c.play depth).outcome t = some (r, u)) : Onward s u

namespace Session

theorem waiting?_eq_none_iff {l : List (Nat × Script)} {timer : Ticket} :
    waiting? timer l = none ↔ ∀ n, timer = .issued n → ∀ e ∈ l, e.1 ≠ n := by
  cases timer with
  | foreign id => exact ⟨fun _ => nofun, fun _ => rfl⟩
  | issued n =>
    rw [waiting?, List.lookup_eq_none_iff]
    constructor
    · rintro h _ ⟨⟩ e he rfl
      simpa using h e he
    · intro h e he
      simpa using (h n rfl e he).symm

/-- A timer that was armed and does not wait any more. -/
def Spent (s : Session) (n : Nat) : Prop := n < s.timerCount ∧ ∀ e ∈ s.pendingTimers, e.1 ≠ n

variable {n : Nat}

theorem Spent.waiting (h : s.Spent n) : waiting? (.issued n) s.pendingTimers = none := by
  rw [waiting?_eq_none_iff]
  rintro _ ⟨⟩
  exact h.2

theorem Spent.turns (h : s.Spent n) {fired : List Nat} {armed : List (Duration × Nat × Script)}
    (ht : s.Turns fired armed t) : t.Spent n := by
  refine ⟨?_, ht.spent h.1 h.2⟩
  have hlt := h.1
  have hcount := ht.count
  omega

/-- No timer that was armed before a world was accepted waits any more. -/
theorem spent_begun (hlt : n < s.timerCount) (id : Uuid) (world : World) :
    (s.begun id world).Spent n :=
  ⟨hlt, nofun⟩

/-- **Timers that do not wait any more** never wait again, whatever is called or started. -/
theorem Spent.onward (h : s.Spent n) (hs : s.Numbered) (ht : s.Onward t) :
    t.Numbered ∧ t.Spent n := by
  induction ht with
  | refl => exact ⟨hs, h⟩
  | start ht hstart ih =>
    refine ⟨ih.1.start hstart, ?_⟩
    obtain ⟨-, -, rfl⟩ | ⟨-, armed, harms⟩ := Play.exists_arms_start hstart
    · exact ih.2
    · exact (spent_begun ih.2.1 _ _).turns harms.turns
  | call ht hcall ih =>
    obtain ⟨hnumbered, fired, armed, hturns, -⟩ := Call.exists_turns ih.1 hcall
    exact ⟨hnumbered, ih.2.turns hturns⟩

/-- A timer that waits is taken back, and no other one. -/
theorem Numbered.exists_fired (hs : s.Numbered) {timer : Ticket} {script : Script}
    (h : waiting? timer s.pendingTimers = some script) :
    ∃ n before after, timer = .issued n ∧ s.pendingTimers = before ++ (n, script) :: after ∧
      (s.fired timer).pendingTimers = before ++ after := by
  obtain ⟨n, rfl, hmem⟩ := mem_of_waiting? h
  obtain ⟨before, after, hsplit⟩ := List.append_of_mem hmem
  refine ⟨n, before, after, rfl, hsplit, ?_⟩
  -- The numbers before it are smaller, and those behind it are larger.
  have horder := hs.pending
  rw [hsplit, List.map_append, List.map_cons, List.pairwise_append, List.pairwise_cons] at horder
  obtain ⟨-, ⟨hafter, -⟩, hbefore⟩ := horder
  have hkeep : ∀ e ∈ before ++ after, (e.1 != n) = true := by
    intro e he
    rcases List.mem_append.1 he with he | he
    · have hlt := hbefore e.1 (List.mem_map_of_mem he) n (.head _)
      simpa using Nat.ne_of_lt hlt
    · have hlt := hafter e.1 (List.mem_map_of_mem he)
      simpa using Nat.ne_of_gt hlt
  show s.pendingTimers.filter (fun e => e.1 != n) = _
  rw [hsplit, List.filter_append, List.filter_cons_of_neg (by simp), ← List.filter_append]
  exact List.filter_eq_self.2 hkeep

/-- **Punctual sessions**: what becomes of timers that are armed, of those that wait, and of those
that do not. -/
structure Punctual (s : Session) : Prop where
  /-- An action that delays a script arms one timer for it, unless the delay is none. -/
  delays : ∀ run (a : Action) delay next, a.effect = .delayed delay next →
    (Play.perform run a).outcome s =
      match Duration.ofMilliseconds? delay with
      | none => some (.error (.invalidConfig (.badDelay delay)), s)
      | some duration => some (.ok (), s.scheduled duration next)
  arms : ∀ duration next, s.Arms [(duration, s.timerCount, next)] (s.scheduled duration next)
  /-- Whatever a call does, a script comes to those that wait only with the cue that arms its timer,
  and it leaves them only if the call handles the event of its timer. -/
  turns : ∀ (c : Call) depth r t, (c.play depth).outcome s = some (r, t) →
    ∃ fired armed, s.Turns fired armed t ∧ ∀ n ∈ fired, c.Reports s n
  /-- A start that is refused changes nothing, and otherwise nothing is left of what has waited. -/
  starts : ∀ depth id (world : World) r t, (Play.start depth id world).outcome s = some (r, t) →
    (∃ defect, world.validate = .error defect ∧ t = s) ∨
      (world.validate = .ok () ∧ (s.begun id world).pendingTimers = [] ∧
        (∃ armed, (s.begun id world).Arms armed t) ∧
        ∀ n < s.timerCount, ∀ u, t.Onward u → waiting? (.issued n) u.pendingTimers = none)
  /-- The event of a timer that does not wait is refused, and nothing is changed. -/
  refuses : ∀ timer, waiting? timer s.pendingTimers = none →
    ∀ depth, (Play.handle depth (.timerFired timer)).outcome s =
      some (.error (.notFound .timer timer.text), s)
  /-- A timer that was not armed does not wait. -/
  unarmed : ∀ timer, (∀ n < s.timerCount, timer ≠ .issued n) →
    waiting? timer s.pendingTimers = none
  /-- The event of a timer that waits takes back this one only, and runs its script; and the timer
  never waits again. -/
  fires : ∀ timer script, waiting? timer s.pendingTimers = some script →
    (∃ n before after, timer = .issued n ∧ s.pendingTimers = before ++ (n, script) :: after ∧
      (s.fired timer).pendingTimers = before ++ after) ∧
    ∀ depth, (Play.handle depth (.timerFired timer)).outcome s =
        (Play.execute depth script).outcome (s.fired timer) ∧
      ∀ r t u, (Play.handle depth (.timerFired timer)).outcome s = some (r, t) → t.Onward u →
        waiting? timer u.pendingTimers = none

end Session

/-- **Every session is punctual**, whatever it was started with and however it was called. -/
theorem Reached.punctual (hs : Reached arrows s) : s.Punctual where
  delays run a delay next ha := by
    unfold Play.perform
    rw [ha]
    exact Play.outcome_schedule s delay next
  arms duration next := (Arms.refl s).scheduled duration next
  turns c depth r t h := (Call.exists_turns hs.numbered h).2
  starts depth id world r t h := by
    have ht := hs.numbered.start h
    obtain hrefused | ⟨hvalid, armed, harms⟩ := Play.exists_arms_start h
    · exact .inl hrefused
    · refine .inr ⟨hvalid, rfl, ⟨armed, harms⟩, fun n hlt u hu => ?_⟩
      have hspent := (spent_begun hlt id world).turns harms.turns
      exact (hspent.onward ht hu).2.waiting
  refuses timer h depth := Play.outcome_timerFired_of_not_waiting h depth
  unarmed timer h := by
    rw [waiting?_eq_none_iff]
    rintro n rfl e he rfl
    exact h _ (hs.numbered.pending_lt e he) rfl
  fires timer script h := by
    refine ⟨hs.numbered.exists_fired h, fun depth =>
      ⟨Play.outcome_timerFired_of_waiting h depth, fun r t u ht hu => ?_⟩⟩
    obtain ⟨n, rfl, hmem⟩ := mem_of_waiting? h
    have hlt := hs.numbered.pending_lt _ hmem
    obtain ⟨hnumbered, fired, armed, hturns, -⟩ :=
      Call.exists_turns (c := .handle (.timerFired (.issued n))) hs.numbered ht
    have hcount := hturns.count
    have hgone := (Play.gone_of_timerFired hs.numbered ht).1
    have hspent : t.Spent n := ⟨by dsimp only at hlt; omega, hgone⟩
    exact (hspent.onward hnumbered hu).2.waiting

/-! ## Timers that are reported -/

/-- Two elements of a list without repetitions are in one order only. -/
theorem not_swap_sublist {α : Type} {l : List α} {a b : α} (hl : l.Nodup)
    (h : [a, b].Sublist l) : ¬ [b, a].Sublist l := by
  induction l with
  | nil => simp at h
  | cons x l ih =>
    obtain ⟨hx, hl⟩ := List.nodup_cons.1 hl
    -- If one of them is the first element, then the other one cannot come before it.
    intro h'
    rw [List.sublist_cons_iff] at h h'
    rcases h with h | ⟨_, ⟨⟩, h⟩ <;> rcases h' with h' | ⟨_, ⟨⟩, h'⟩
    · exact ih hl h h'
    · exact hx (h.subset (by simp))
    · exact hx (h'.subset (by simp))
    · exact hx (h.subset (by simp))

namespace Display

/-- A timer is reported before another one: its delay is shorter, or they have the same delay and it
was armed first. -/
def Earlier (a b : Duration × Nat) : Prop :=
  a.1.nanoseconds < b.1.nanoseconds ∨ a.1.nanoseconds = b.1.nanoseconds ∧ a.2 < b.2

theorem delay_le_trans (a b c : Duration × Nat)
    (hab : decide (a.1.nanoseconds ≤ b.1.nanoseconds) = true)
    (hbc : decide (b.1.nanoseconds ≤ c.1.nanoseconds) = true) :
    decide (a.1.nanoseconds ≤ c.1.nanoseconds) = true :=
  decide_eq_true (Nat.le_trans (of_decide_eq_true hab) (of_decide_eq_true hbc))

theorem delay_le_total (a b : Duration × Nat) :
    (decide (a.1.nanoseconds ≤ b.1.nanoseconds) ||
      decide (b.1.nanoseconds ≤ a.1.nanoseconds)) = true := by
  simpa using Nat.le_total a.1.nanoseconds b.1.nanoseconds

/-- Timers that are on display in the order in which they were armed stay in this order if one of
them has no longer delay than the other one. -/
theorem sublist_timersByDelay {d : Display} (h : (d.timers.map Prod.snd).Pairwise (· < ·))
    {a b : Duration × Nat} (ha : a ∈ d.timers) (hb : b ∈ d.timers) (hserial : a.2 < b.2)
    (hdelay : a.1.nanoseconds ≤ b.1.nanoseconds) : [a, b].Sublist d.timersByDelay := by
  have : Std.Antisymm fun a b : Duration × Nat => a.2 < b.2 :=
    ⟨fun a b hab hba => absurd hab (Nat.lt_asymm hba)⟩
  have hsub : [a, b].Sublist d.timers := by
    refine List.sublist_of_subperm_of_pairwise (List.subperm_of_subset ?_ ?_)
      (List.pairwise_pair.2 hserial) (List.pairwise_map.1 h)
    · rw [List.nodup_cons, List.mem_singleton]
      refine ⟨?_, List.nodup_singleton b⟩
      rintro rfl
      exact Nat.lt_irrefl _ hserial
    · simp [ha, hb]
  exact List.pair_sublist_mergeSort delay_le_trans delay_le_total (decide_eq_true hdelay) hsub

/-- **Timers are reported by their delay**, and those of one delay in the order in which they were
armed. -/
theorem pairwise_timersByDelay {d : Display} (h : (d.timers.map Prod.snd).Pairwise (· < ·)) :
    d.timersByDelay.Pairwise Earlier := by
  have hperm : d.timersByDelay.Perm d.timers := List.mergeSort_perm _ _
  have hnodup : (d.timersByDelay.map Prod.snd).Nodup :=
    (hperm.map Prod.snd).nodup_iff.2 (h.imp fun hlt => Nat.ne_of_lt hlt)
  have hsorted : d.timersByDelay.Pairwise fun a b => a.1.nanoseconds ≤ b.1.nanoseconds :=
    (List.pairwise_mergeSort delay_le_trans delay_le_total d.timers).imp of_decide_eq_true
  rw [List.pairwise_iff_forall_sublist] at hsorted ⊢
  intro a b hab
  rcases Nat.lt_or_eq_of_le (hsorted hab) with hlt | heq
  · exact .inl hlt
  have hne : a.2 ≠ b.2 := List.pairwise_iff_forall_sublist.1 (List.pairwise_map.1 hnodup) hab
  rcases Nat.lt_or_gt_of_ne hne with hlt | hgt
  · exact .inr ⟨heq, hlt⟩
  · -- Armed first, the second one would be reported first.
    have hmem : ∀ e ∈ [a, b], e ∈ d.timers := fun e he => hperm.subset (hab.subset he)
    have hba := sublist_timersByDelay h (hmem b (by simp)) (hmem a (by simp)) hgt heq.ge
    exact absurd hba (not_swap_sublist hnodup.of_map hab)

end Display

/-! ## Timers that are relayed -/

/-- A session whose surroundings post the event of each timer that they take over from the display,
though perhaps later and in another order; with the timers that they have taken over and not posted
yet. -/
inductive Relayed (arrows : List String) : List Nat → Session → Prop where
  | fresh (id : Uuid) : Relayed arrows [] (.withArrows id arrows)
  | start {hand : List Nat} {s t : Session} {depth : Nat} {id : Uuid} {world : World}
      {r : Except Error Unit} (hs : Relayed arrows hand s)
      (h : (Play.start depth id world).outcome s = some (r, t)) : Relayed arrows hand t
  | call {hand : List Nat} {s t : Session} {c : Call} {depth : Nat} {r : Except Error Unit}
      (hs : Relayed arrows hand s) (hc : c ≠ .takeTimers)
      (h : (c.play depth).outcome s = some (r, t)) : Relayed arrows hand t
  | take {hand : List Nat} {s t : Session} {depth : Nat} {r : Except Error Unit}
      (hs : Relayed arrows hand s) (h : (Call.takeTimers.play depth).outcome s = some (r, t)) :
      Relayed arrows (hand ++ s.display.timersByDelay.map Prod.snd) t
  | relay {hand : List Nat} {s t : Session} {n depth : Nat} {r : Except Error Unit}
      (hs : Relayed arrows hand s) (hn : n ∈ hand)
      (h : ((Call.post (.timerFired (.issued n))).play depth).outcome s = some (r, t)) :
      Relayed arrows (hand.erase n) t

variable {hand : List Nat}

theorem Relayed.reached (h : Relayed arrows hand s) : Reached arrows s := by
  induction h with
  | fresh id => exact .fresh id
  | start hs h ih => exact .start ih h
  | call hs hc h ih => exact .call ih h
  | take hs h ih => exact .call ih h
  | relay hs hn h ih => exact .call ih h

/-- Every timer whose script waits is on display, or in the queue, or on its way there. -/
def Session.Traced (hand : List Nat) (s : Session) : Prop :=
  ∀ e ∈ s.pendingTimers, e.1 ∈ s.display.timers.map Prod.snd ∨
    .timerFired (.issued e.1) ∈ s.queue ∨ e.1 ∈ hand

/-- What a call leaves in the queue: the events of timers, unless their timers do not wait any
more. -/
theorem Call.mem_queue (hs : s.Numbered) {c : Call} (h : (c.play depth).outcome s = some (r, t))
    {n : Nat} (hn : .timerFired (.issued n) ∈ s.queue) :
    .timerFired (.issued n) ∈ t.queue ∨ ∀ e ∈ t.pendingTimers, e.1 ≠ n := by
  by_cases hpump : c = .pump
  · subst hpump
    obtain ⟨r', hevents⟩ := Call.exists_pumpUpTo h
    exact (Play.serves_pumpUpTo hs hevents).2 n hn
  by_cases hpost : ∃ event, c = .post event
  · obtain ⟨event, rfl⟩ := hpost
    cases h
    exact .inl (List.mem_append_left _ hn)
  · have hdirect := c.isDirect_iff.2 ⟨hpump, fun event he => hpost ⟨event, he⟩⟩
    have hqueue : t.queue = s.queue := Play.queue_eq hdirect.requeued h
    exact .inl (hqueue ▸ hn)

/-- What is armed comes on display, so that it can be traced. -/
theorem Session.Arms.traced {armed : List (Duration × Nat × Script)} (h : s.Arms armed t)
    (hs : s.pendingTimers = []) : t.Traced hand := by
  intro e he
  rw [h.pending, hs, List.nil_append] at he
  obtain ⟨a, ha, rfl⟩ := List.mem_map.1 he
  refine .inl (List.mem_map.2 ⟨(a.1, a.2.1), ?_, rfl⟩)
  rw [h.timers]
  exact List.mem_append_right _ (List.mem_map_of_mem ha)

/-- A call that does not take the timers from display loses none. -/
theorem Session.Traced.call (hs : s.Numbered) (htraced : s.Traced hand) {c : Call}
    (hc : c ≠ .takeTimers) (h : (c.play depth).outcome s = some (r, t)) : t.Traced hand := by
  intro e he
  obtain ⟨fired, armed, hturns, -, hshown⟩ := c.serves hs hc h
  rw [hshown, List.map_append]
  rcases (hturns.mem_pending he).2 with hold | ⟨a, ha, rfl⟩
  · rcases htraced e hold with hdisplay | hqueue | hhand
    · exact .inl (List.mem_append_left _ hdisplay)
    · rcases Call.mem_queue hs h hqueue with hqueue | hgone
      · exact .inr (.inl hqueue)
      · exact absurd rfl (hgone e he)
    · exact .inr (.inr hhand)
  · refine .inl (List.mem_append_right _ ?_)
    rw [List.map_map]
    exact List.mem_map.2 ⟨a, ha, rfl⟩

/-- **No timer is lost** where the surroundings post the events that they take over. -/
theorem Relayed.traced (h : Relayed arrows hand s) : s.Traced hand := by
  induction h with
  | fresh id => nofun
  | start hs h ih =>
    obtain ⟨-, -, rfl⟩ | ⟨-, armed, harms⟩ := Play.exists_arms_start h
    · exact ih
    · exact harms.traced rfl
  | call hs hc h ih => exact ih.call hs.reached.numbered hc h
  | take hs h ih =>
    cases h
    intro e he
    rcases ih e he with hdisplay | hqueue | hhand
    · obtain ⟨timer, htimer, heq⟩ := List.mem_map.1 hdisplay
      refine .inr (.inr (List.mem_append_right _ (List.mem_map.2 ⟨timer, ?_, heq⟩)))
      exact List.mem_mergeSort.2 htimer
    · exact .inr (.inl hqueue)
    · exact .inr (.inr (List.mem_append_left _ hhand))
  | @relay _ _ _ n _ _ hs hn h ih =>
    cases h
    intro e he
    rcases ih e he with hdisplay | hqueue | hhand
    · exact .inl hdisplay
    · exact .inr (.inl (List.mem_append_left _ hqueue))
    · by_cases heq : e.1 = n
      · exact .inr (.inl (List.mem_append_right _ (by simp [heq])))
      · exact .inr (.inr ((List.mem_erase_of_ne heq).2 hhand))

/-! ## Reporting all timers -/

/-- The events of the timers on display, in the order in which they are reported. -/
def Display.timerEvents (d : Display) : List (Event Ticket) :=
  d.timersByDelay.map fun e => .timerFired (.issued e.2)

/-- The session when all timers were taken from display. -/
def Session.unreported (s : Session) : Session := s.withDisplay { s.display with timers := [] }

namespace Play

/-- A timer is taken back, and its script runs. -/
def fire (depth : Nat) (e : Duration × Nat × Script) : Play Unit := do
  modify fun s => s.fired (.issued e.2.1)
  execute depth e.2.2

/-- The event of a timer that succeeds finds the script of this timer and runs it. -/
theorem exists_fire_of_timerFired {timer : Duration × Nat}
    (h : (handle depth (.timerFired (.issued timer.2))).outcome s = some (.ok (), t)) :
    ∃ script, (timer.2, script) ∈ s.pendingTimers ∧
      (fire depth (timer.1, timer.2, script)).outcome s = some (.ok (), t) := by
  have hevent : (timerFired depth (.issued timer.2)).outcome s = some (.ok (), t) := h
  cases hw : waiting? (.issued timer.2) s.pendingTimers with
  | none =>
    rw [outcome_timerFired_of_not_waiting hw] at hevent
    cases hevent
  | some script =>
    rw [outcome_timerFired_of_waiting hw] at hevent
    obtain ⟨_, ⟨⟩, hmem⟩ := mem_of_waiting? hw
    exact ⟨script, hmem, hevent⟩

/-- **The events of timers that all succeed** run the scripts that wait for them. -/
theorem exists_fire_of_forM (hs : s.Numbered) {timers : List (Duration × Nat)}
    (hlt : ∀ e ∈ timers, e.2 < s.timerCount)
    (h : (timers.forM fun e => handle depth (.timerFired (.issued e.2))).outcome s =
      some (.ok (), t)) :
    ∃ due : List (Duration × Nat × Script), due.map (fun e => (e.1, e.2.1)) = timers ∧
      (∀ e ∈ due, e.2 ∈ s.pendingTimers) ∧
      (due.forM (fire depth)).outcome s = some (.ok (), t) := by
  induction timers generalizing s with
  | nil => exact ⟨[], rfl, nofun, h⟩
  | cons timer timers ih =>
    rw [outcome_forM_cons] at h
    cases hfirst : (handle depth (.timerFired (.issued timer.2))).outcome s with
    | none =>
      rw [hfirst] at h
      cases h
    | some x =>
      obtain ⟨_ | _, u⟩ := x
      · rw [hfirst] at h
        cases h
      · rw [hfirst, andThen_ok] at h
        obtain ⟨script, hmem, hfire⟩ := exists_fire_of_timerFired hfirst
        obtain ⟨fired, armed, hturns, -, hshown⟩ := serves_handle hs hfirst
        have hcount := hturns.count
        obtain ⟨due, hdue, hwait, hrun⟩ := ih (hturns.numbered hs (.inr hshown))
          (fun e he => by have := hlt e (.tail _ he); omega) h
        refine ⟨(timer.1, timer.2, script) :: due, by rw [List.map_cons, hdue], ?_, ?_⟩
        · intro e he
          rcases List.mem_cons.1 he with rfl | he
          · exact hmem
          · -- It has a number from before, so it was not armed by the scripts that ran already.
            rcases (hturns.mem_pending (hwait e he)).2 with hold | ⟨a, ha, heq⟩
            · exact hold
            · have hle := (hturns.serial_le ha).1
              have hnum : (e.1, e.2.1) ∈ timers := hdue ▸ List.mem_map_of_mem he
              have hold := hlt _ (.tail _ hnum)
              rw [heq] at hle
              dsimp only at hold
              omega
        · rw [outcome_forM_cons, hfire, andThen_ok, hrun]

theorem outcome_expireTimers {timers : List (Duration × Nat)}
    (h : s.display.timersByDelay = timers) :
    (expireTimers depth).outcome s =
      (do
        timers.forM fun e => post (.timerFired (.issued e.2))
        return (timers.length, ← pump depth)).outcome s.unreported := by
  subst h
  simp only [expireTimers, outcome_bind, outcome_get, andThen_ok, outcome_modify]
  rfl

/-- Reporting the timers on display posts their events to the queue and handles it. -/
theorem pump_of_expireTimers {n m : Nat}
    (h : (expireTimers depth).outcome s = some (.ok (n, m), t)) :
    n = s.display.timersByDelay.length ∧
      (do s.display.timerEvents.forM post; pump depth).outcome s.unreported =
        some (.ok m, t) := by
  have hpost : (s.display.timersByDelay.forM fun e => post (.timerFired (.issued e.2))) =
      s.display.timerEvents.forM post := (List.forM_map ..).symm
  rw [outcome_expireTimers rfl, hpost, outcome_bind, outcome_forM_post, andThen_ok] at h
  obtain ⟨m', u, hpump, heq⟩ := outcome_bind_eq_ok_iff.1 h
  cases heq
  rw [outcome_bind, outcome_forM_post, andThen_ok]
  exact ⟨rfl, hpump⟩

/-- **All timers are reported** to an empty queue, and all their events succeed. -/
theorem exists_fire_of_expireTimers (hs : s.Numbered) (hq : s.queue = []) {n m : Nat}
    (h : (expireTimers depth).outcome s = some (.ok (n, m), t)) :
    ∃ due : List (Duration × Nat × Script),
      due.map (fun e => (e.1, e.2.1)) = s.display.timersByDelay ∧
      (∀ e ∈ due, e.2 ∈ s.pendingTimers) ∧ n = due.length ∧ m = due.length ∧
      (due.forM (fire depth)).outcome s.unreported = some (.ok (), t) := by
  obtain ⟨rfl, hpump⟩ := pump_of_expireTimers h
  rw [outcome_pump_posted (s := s.unreported) hq, drained_eq_ok_iff] at hpump
  obtain ⟨rfl, hevents⟩ := hpump
  have hhandle : s.display.timerEvents.forM (handle depth) =
      s.display.timersByDelay.forM fun e => handle depth (.timerFired (.issued e.2)) :=
    List.forM_map ..
  rw [hhandle] at hevents
  have hlt : ∀ e ∈ s.display.timersByDelay, e.2 < s.unreported.timerCount :=
    fun e he => hs.timers_lt e (List.mem_mergeSort.1 he)
  have hnumbered : s.unreported.Numbered := ⟨hs.pending, hs.pending_lt, .nil, nofun⟩
  obtain ⟨due, hdue, hwait, hrun⟩ := exists_fire_of_forM hnumbered hlt hevents
  have hlength : s.display.timersByDelay.length = due.length := by rw [← hdue, List.length_map]
  refine ⟨due, hdue, hwait, hlength, ?_, hrun⟩
  rw [Display.timerEvents, List.length_map, hlength]

end Play

/-- Scripts that are run one after the other when all timers are reported: those that wait, each
once, the shortest delay first and those of one delay in the order in which they were armed. -/
structure Session.IsDue (s : Session) (due : List (Duration × Nat × Script)) : Prop where
  perm : (due.map Prod.snd).Perm s.pendingTimers
  timers : due.map (fun e => (e.1, e.2.1)) = s.display.timersByDelay
  order : due.Pairwise fun a b => Display.Earlier (a.1, a.2.1) (b.1, b.2.1)

/-- Where each timer that waits is on display, timers that wait and are reported are those that are
due. -/
theorem Session.Numbered.isDue (hs : s.Numbered) {due : List (Duration × Nat × Script)}
    (hdue : due.map (fun e => (e.1, e.2.1)) = s.display.timersByDelay)
    (hwait : ∀ e ∈ due, e.2 ∈ s.pendingTimers)
    (hshown : ∀ e ∈ s.pendingTimers, e.1 ∈ s.display.timers.map Prod.snd) : s.IsDue due where
  timers := hdue
  order := List.pairwise_map.1 (hdue ▸ Display.pairwise_timersByDelay hs.timers)
  perm := by
    have hperm : s.display.timersByDelay.Perm s.display.timers := List.mergeSort_perm _ _
    have hpending : (s.pendingTimers.map Prod.fst).Nodup :=
      hs.pending.imp fun hlt => Nat.ne_of_lt hlt
    -- Both lists have no number twice, and a timer has only one script.
    have hnumbers : (due.map Prod.snd).map Prod.fst = s.display.timersByDelay.map Prod.snd := by
      rw [← hdue, List.map_map, List.map_map]
      rfl
    have hnodup : ((due.map Prod.snd).map Prod.fst).Nodup := by
      rw [hnumbers, (hperm.map Prod.snd).nodup_iff]
      exact hs.timers.imp fun hlt => Nat.ne_of_lt hlt
    rw [List.perm_ext_iff_of_nodup hnodup.of_map hpending.of_map]
    intro e
    constructor
    · intro he
      obtain ⟨a, ha, rfl⟩ := List.mem_map.1 he
      exact hwait a ha
    · intro he
      have hnumber : e.1 ∈ (due.map Prod.snd).map Prod.fst := by
        rw [hnumbers, (hperm.map Prod.snd).mem_iff]
        exact hshown e he
      obtain ⟨e', he', heq⟩ := List.mem_map.1 hnumber
      obtain ⟨a, ha, rfl⟩ := List.mem_map.1 he'
      rwa [← List.inj_on_of_nodup_map hpending (hwait a ha) he heq]

/-! ## Timers -/

/-- **Timers fire once and are not lost.**  Whatever a session was started with and however it was
called, it is punctual.  Where the surroundings post every event that they take over, a script that
waits can be found on display, in the queue or on its way there; and if they report all timers to an
empty queue, and all events succeed, then the scripts that wait are run, each once, by their delay
and in the order of arming. -/
theorem timers_fire_once :
    (∀ arrows s, Reached arrows s → s.Punctual) ∧
    ∀ arrows hand s, Relayed arrows hand s → s.Traced hand ∧
      ∀ depth n m t, hand = [] → s.queue = [] →
        (Play.expireTimers depth).outcome s = some (.ok (n, m), t) →
        ∃ due, s.IsDue due ∧ n = due.length ∧ m = due.length ∧
          (due.forM (Play.fire depth)).outcome s.unreported = some (.ok (), t) := by
  refine ⟨fun arrows s hs => hs.punctual, fun arrows hand s hs => ⟨hs.traced, ?_⟩⟩
  rintro depth n m t rfl hq h
  have hnumbered := hs.reached.numbered
  obtain ⟨due, hdue, hwait, hn, hm, hrun⟩ := Play.exists_fire_of_expireTimers hnumbered hq h
  refine ⟨due, hnumbered.isDue hdue hwait fun e he => ?_, hn, hm, hrun⟩
  rcases hs.traced e he with hdisplay | hqueue | hhand
  · exact hdisplay
  · rw [hq] at hqueue
    cases hqueue
  · cases hhand

theorem Display.timersByDelay_swap {d : Display} {a b : Duration × Nat} (h : d.timers = [a, b])
    (hlt : b.1.nanoseconds < a.1.nanoseconds) : d.timersByDelay = [b, a] := by
  rw [timersByDelay, h]
  simp [List.mergeSort, hlt]

set_option maxRecDepth 4096 in
/-- At the gate, of two scripts that wait the one with the shorter delay runs first. -/
theorem timers_fire_once_gate :
    ∃ s t due, Relayed ["left"] [] s ∧ s.queue = [] ∧ s.IsDue due ∧
      due.map (fun e => e.2.1) = [1, 0] ∧
      (due.forM (Play.fire 3)).outcome s.unreported = some (.ok (), t) := by
  have hstart := @Relayed.start ["left"] [] _ _ 3 (.ofNat 1) .gate _ (.fresh (.ofNat 0)) rfl
  have harmed := @Relayed.call ["left"] [] _ _ (.execute [
    .new (.delayed (.ofNat 2) [.new (.showText "Later.")]),
    .new (.delayed (.ofNat 1) [.new (.showText "Sooner.")])]) 3 _ hstart nofun rfl
  obtain ⟨s, t, a, b, hs, hq, hsort, hexpire⟩ : ∃ s t a b, Relayed ["left"] [] s ∧ s.queue = [] ∧
      s.display.timersByDelay = [(b, 1), (a, 0)] ∧
      (Play.expireTimers 3).outcome s = some (.ok (2, 2), t) := by
    refine ⟨_, _, _, _, harmed, rfl, Display.timersByDelay_swap rfl ?_,
      (Play.outcome_expireTimers (Display.timersByDelay_swap rfl ?_)).trans rfl⟩
    · decide +kernel
    · decide +kernel
  obtain ⟨due, hdue, -, -, hrun⟩ := (timers_fire_once.2 _ _ _ hs).2 3 2 2 t rfl hq hexpire
  have hserials := congrArg (List.map Prod.snd) hdue.timers
  rw [hsort, List.map_map] at hserials
  exact ⟨s, t, due, hs, hq, hdue, hserials, hrun⟩

end Adventure
