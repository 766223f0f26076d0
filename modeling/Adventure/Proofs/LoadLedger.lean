import Adventure.Proofs.Reachability
import Adventure.Proofs.SingleLoad
import Mathlib.Data.List.Nodup

/-!
# The ledger of loads

Every request for a stage is settled: the stage waits for a batch, or it has become known.  The one
exception is a stage that could not be made known, because a scene of it inherits from none.  So the
log and the list of the stages that wait tell how often that has happened, also where stages are
asked for again and again, and where their batches arrive in any order.

## Main definitions

* `Session.Loads`, `Session.LoadFails`: what the steps of a session do about stages
* `Session.unsettled`: the requests for a stage that neither wait nor have made it known
* `Session.Ledger`: the agreement of the log with the stages that wait and that count as loaded
* `Session.Loses`: requests come to be unsettled only where a stage cannot be made known

## Main results

* `Move.loads`, `Halt.loadFails`: the steps of a session are such
* `Session.Loads.ledger`, `Session.LoadFails.ledger`: each of them keeps the ledger
* `Session.Ledger.call_loses`: what a call may leave unsettled
-/

namespace Adventure

open Session

namespace Session

variable {s t : Session}

/-! ## Steps about stages -/

/-- Nothing about stages has changed, and nothing is known that was not. -/
structure Quiet (s t : Session) : Prop where
  world : t.world = s.world
  catalog : t.catalog = s.catalog
  loaded : t.player.loadedStages = s.player.loadedStages
  pendingLoads : t.pendingLoads = s.pendingLoads
  batchCount : t.batchCount = s.batchCount
  notes : ∀ p : Note → Bool, (∀ scene first, p (.sceneEntered scene first) = false) →
    t.notes.countP p = s.notes.countP p

/-- What a step does about stages: nothing, or a stage is asked for and waits or becomes known, or a
stage that waited becomes known. -/
inductive Loads (s : Session) : Session → Prop where
  | quiet {t : Session} (h : s.Quiet t) : Loads s t
  | preload {t : Session} {id : String} {stage : Stage} (h : s.Quiet t)
      (hstage : t.stage id = .ok stage) : Loads s ((t.requested id).preloading stage)
  | load {t : Session} {id : String} {stage : Stage} {scenes : List Scene} (h : s.Quiet t)
      (hstage : t.stage id = .ok stage)
      (hscenes : (t.requested id).resolve [] stage.scenes = .ok scenes) :
      Loads s ((t.requested id).finished stage scenes)
  | complete {batch : Ticket} {id : String} {stage : Stage} {scenes : List Scene}
      (h : waiting? batch s.pendingLoads = some id) (hstage : s.stage id = .ok stage)
      (hscenes : (s.reported batch).resolve [] stage.scenes = .ok scenes) :
      Loads s ((s.reported batch).finished stage scenes)

/-- What a step that fails does about stages: nothing, or a stage cannot be made known. -/
inductive LoadFails (s : Session) : Error → Session → Prop where
  | quiet {e : Error} {t : Session} (h : s.Quiet t) : LoadFails s e t
  | unresolved {t : Session} {id : String} {stage : Stage} {e : Error} (h : s.Quiet t)
      (hstage : t.stage id = .ok stage)
      (hscenes : (t.requested id).resolve [] stage.scenes = .error e) :
      LoadFails s e (t.requested id)
  | incomplete {batch : Ticket} {id : String} {e : Error}
      (h : waiting? batch s.pendingLoads = some id)
      (hscenes : (do
        let stage ← s.stage id
        (s.reported batch).resolve [] stage.scenes) = .error e) : LoadFails s e (s.reported batch)

/-- The one new line of the log is about the scene. -/
theorem quiet_entered (s : Session) (id : String) (plan : List (String × Bool)) (first : Bool) :
    s.Quiet ((s.left.arrived id).entered id plan first) where
  world := rfl
  catalog := rfl
  loaded := rfl
  pendingLoads := rfl
  batchCount := rfl
  notes p hp := by
    refine Array.countP_push.trans ?_
    rw [hp]
    rfl

/-- A stage is looked up in the world. -/
theorem stage_congr (h : t.world = s.world) (id : String) : t.stage id = s.stage id := by
  unfold Session.stage worldOf
  rw [h]

end Session

section

variable {P : Policy} {s t : Session} {e : Error} {id : String}

theorem Asked.quiet (h : Asked P s id t) : s.Quiet t := by
  cases h with
  | direct | code => exact ⟨rfl, rfl, rfl, rfl, rfl, fun _ _ => rfl⟩

theorem Move.loads (h : Move P s t) : s.Loads t := by
  cases h with
  | enter => exact .quiet (quiet_entered s _ _ _)
  | preload h hstage => exact .preload h.quiet hstage
  | load h hstage _ hscenes => exact .load h.quiet hstage hscenes
  | complete h hstage hscenes => exact .complete h hstage hscenes
  | hide | notice | block | close | answer | assign | increment | fade | swell | play | stop
  | redirect | tune | schedule | fire | clear | queue | reportBatches | reportTimers =>
    exact .quiet ⟨rfl, rfl, rfl, rfl, rfl, fun _ _ => rfl⟩

theorem Halt.loadFails (h : Halt P s e t) : s.LoadFails e t := by
  cases h with
  | unresolved h hstage _ hscenes => exact .unresolved h.quiet hstage hscenes
  | incomplete h hscenes => exact .incomplete h hscenes
  | unstaged h => exact .quiet h.quiet
  | reject | strand | close | answer => exact .quiet ⟨rfl, rfl, rfl, rfl, rfl, fun _ _ => rfl⟩

end

namespace Session

variable {s t : Session} {e : Error} {id other : String} {stage : Stage}

/-! ## The ledger -/

/-- How often a stage was asked for. -/
def requests (s : Session) (id : String) : Nat := s.notes.countP (Note.isRequest id)

/-- How often a stage became known. -/
def openings (s : Session) (id : String) : Nat := s.notes.countP (Note.isOpening id)

/-- How often a stage was asked for, does not wait for a batch, and did not become known. -/
def unsettled (s : Session) (id : String) : Nat :=
  s.requests id - (s.openings id + s.waitingFor id)

/-- The log agrees with the stages that wait and with those that count as loaded, and these are
stages of the world. -/
structure Ledger (s : Session) : Prop where
  serials : (s.pendingLoads.map Prod.fst).Nodup
  issued : ∀ serial ∈ s.pendingLoads.map Prod.fst, serial < s.batchCount
  settled : ∀ id, s.openings id + s.waitingFor id ≤ s.requests id
  loaded : ∀ id, s.player.hasLoaded id = true ↔ 0 < s.requests id
  staged : ∀ id, s.player.hasLoaded id = true → ∃ stage, s.stage id = .ok stage

/-- A stage that waits was asked for. -/
theorem Ledger.hasLoaded_of_waitingFor (h : s.Ledger) (hw : 0 < s.waitingFor id) :
    s.player.hasLoaded id = true :=
  (h.loaded id).2 (by have := h.settled id; omega)

/-- There is room for one more settlement of a request that is unsettled. -/
theorem Ledger.room (h : s.Ledger) (hopen : 0 < s.unsettled id) (other : String) :
    s.openings other + s.waitingFor other + (if id = other then 1 else 0) ≤ s.requests other := by
  have := h.settled other
  split
  · next heq =>
    subst heq
    exact Nat.lt_of_sub_pos hopen
  · exact this

theorem mem_pendingLoads_iff : id ∈ s.pendingLoads.map Prod.snd ↔ 0 < s.waitingFor id := by
  simp [waitingFor, List.countP_pos_iff]

theorem waitingFor_pos {batch : Ticket} (h : waiting? batch s.pendingLoads = some id) :
    0 < s.waitingFor id := by
  obtain ⟨serial, -, hmem⟩ := mem_of_waiting? h
  exact mem_pendingLoads_iff.1 (List.mem_map.2 ⟨_, hmem, rfl⟩)

/-! What the single changes do to the counts. -/

section Counts

variable (s) (id) (stage) (other) (scenes : List Scene)

theorem requests_requested :
    (s.requested id).requests other = s.requests other + if id = other then 1 else 0 := by
  simp [requests, countP_requested, Note.isRequest]

theorem openings_requested : (s.requested id).openings other = s.openings other := by
  simp [openings, countP_requested, Note.isOpening]

theorem waitingFor_requested : (s.requested id).waitingFor other = s.waitingFor other := rfl

theorem requests_preloading : (s.preloading stage).requests other = s.requests other := by
  simp [requests, countP_preloading, Note.isRequest]

theorem openings_preloading : (s.preloading stage).openings other = s.openings other := by
  simp [openings, countP_preloading, Note.isOpening]

theorem waitingFor_preloading : (s.preloading stage).waitingFor other =
    s.waitingFor other + if stage.id = other then 1 else 0 := by
  simp [waitingFor, preloading]

theorem requests_finished : (s.finished stage scenes).requests other = s.requests other := by
  simp [requests, countP_finished, Note.isRequest]

theorem openings_finished : (s.finished stage scenes).openings other =
    s.openings other + if stage.id = other then 1 else 0 := by
  simp [openings, countP_finished, Note.isOpening]

theorem waitingFor_finished : (s.finished stage scenes).waitingFor other = s.waitingFor other := rfl

end Counts

/-- One entry goes with a batch, since no two batches have one number. -/
theorem Ledger.waitingFor_reported (h : s.Ledger) {batch : Ticket}
    (hw : waiting? batch s.pendingLoads = some id) (other : String) :
    (s.reported batch).waitingFor other + (if id = other then 1 else 0) = s.waitingFor other := by
  obtain ⟨serial, rfl, -⟩ := mem_of_waiting? hw
  obtain ⟨before, after, hsplit, hbefore⟩ := List.lookup_eq_some_iff.1 hw
  have hafter : ∀ e ∈ after, e.1 ≠ serial := by
    have hserials := h.serials
    rw [hsplit, List.map_append, List.map_cons, List.nodup_append, List.nodup_cons] at hserials
    intro e he heq
    exact hserials.2.1.1 (List.mem_map.2 ⟨e, he, heq⟩)
  have hdrop : (s.reported (.issued serial)).pendingLoads = before ++ after := by
    have hkeep : ∀ l : List (Nat × String), (∀ e ∈ l, e.1 ≠ serial) →
        l.filter (fun e => e.1 != serial) = l := by
      intro l hl
      exact List.filter_eq_self.2 fun e he => by simpa using hl e he
    rw [reported, dropWaiting, hsplit, List.filter_append, hkeep before,
      List.filter_cons_of_neg (by simp), hkeep after hafter]
    intro e he heq
    simpa [heq] using hbefore e he
  rw [waitingFor, waitingFor, hdrop, hsplit, List.countP_append, List.countP_append,
    List.countP_cons]
  simp only [beq_iff_eq]
  omega

/-! ## What keeps the ledger -/

theorem Quiet.requests (h : s.Quiet t) (id : String) : t.requests id = s.requests id :=
  h.notes _ fun _ _ => rfl

theorem Quiet.openings (h : s.Quiet t) (id : String) : t.openings id = s.openings id :=
  h.notes _ fun _ _ => rfl

theorem Quiet.waitingFor (h : s.Quiet t) (id : String) : t.waitingFor id = s.waitingFor id := by
  rw [Session.waitingFor, h.pendingLoads]
  rfl

theorem Quiet.unsettled (h : s.Quiet t) (id : String) : t.unsettled id = s.unsettled id := by
  rw [Session.unsettled, h.requests, h.openings, h.waitingFor]
  rfl

theorem Quiet.hasLoaded (h : s.Quiet t) (id : String) :
    t.player.hasLoaded id = s.player.hasLoaded id := by
  rw [Player.hasLoaded, h.loaded]
  rfl

theorem Ledger.quiet (hs : s.Ledger) (h : s.Quiet t) : t.Ledger where
  serials := by rw [h.pendingLoads]; exact hs.serials
  issued := by rw [h.pendingLoads, h.batchCount]; exact hs.issued
  settled id := by rw [h.requests, h.openings, h.waitingFor]; exact hs.settled id
  loaded id := by rw [h.requests, h.hasLoaded]; exact hs.loaded id
  staged id := by rw [h.hasLoaded, stage_congr h.world]; exact hs.staged id

/-- A stage is asked for: one more request is unsettled. -/
theorem Ledger.request (hs : s.Ledger) (hstage : s.stage id = .ok stage) :
    (s.requested id).Ledger ∧ ∀ other, (s.requested id).unsettled other =
      s.unsettled other + if id = other then 1 else 0 := by
  refine ⟨⟨hs.serials, hs.issued, ?_, ?_, ?_⟩, ?_⟩
  · intro other
    rw [requests_requested, openings_requested, waitingFor_requested]
    exact Nat.le_add_right_of_le (hs.settled other)
  · intro other
    rw [requests_requested, hasLoaded_requested]
    by_cases heq : id = other
    · simp [heq]
    · simp [heq, Ne.symm heq, hs.loaded other]
  · intro other
    rw [hasLoaded_requested, Bool.or_eq_true, decide_eq_true_iff]
    rintro (rfl | hother)
    · exact ⟨stage, hstage⟩
    · exact hs.staged other hother
  · intro other
    have := hs.settled other
    rw [unsettled, unsettled, requests_requested, openings_requested, waitingFor_requested]
    omega

/-- The same from the session in which a code has led to the stage. -/
theorem Ledger.ask (hs : s.Ledger) (h : s.Quiet t) (hstage : t.stage id = .ok stage) :
    (t.requested id).Ledger ∧ ∀ other, (t.requested id).unsettled other =
      s.unsettled other + if id = other then 1 else 0 := by
  obtain ⟨hledger, hcount⟩ := (hs.quiet h).request hstage
  refine ⟨hledger, fun other => ?_⟩
  rw [hcount, h.unsettled]

/-- A stage comes to wait: one request is settled. -/
theorem Ledger.preload (hs : s.Ledger) (hopen : 0 < s.unsettled stage.id) :
    (s.preloading stage).Ledger ∧ ∀ other, (s.preloading stage).unsettled other +
      (if stage.id = other then 1 else 0) = s.unsettled other := by
  have hpending : (s.preloading stage).pendingLoads.map Prod.fst =
      s.pendingLoads.map Prod.fst ++ [s.batchCount] := by
    simp [preloading]
  refine ⟨⟨?_, ?_, ?_, ?_, hs.staged⟩, ?_⟩
  · -- The number of the new batch was not used before.
    rw [hpending]
    refine List.nodup_append.2 ⟨hs.serials, List.nodup_singleton _, ?_⟩
    intro serial hserial other hother
    rw [List.mem_singleton.1 hother]
    exact Nat.ne_of_lt (hs.issued serial hserial)
  · intro serial hserial
    rw [hpending, List.mem_append, List.mem_singleton] at hserial
    rcases hserial with hserial | rfl
    · exact Nat.lt_succ_of_lt (hs.issued serial hserial)
    · exact Nat.lt_succ_self _
  · intro other
    have := hs.room hopen other
    rw [requests_preloading, openings_preloading, waitingFor_preloading]
    omega
  · intro other
    rw [requests_preloading]
    exact hs.loaded other
  · intro other
    have := hs.room hopen other
    rw [unsettled, unsettled, requests_preloading, openings_preloading, waitingFor_preloading]
    omega

/-- A batch has arrived: the request that has waited for it is unsettled. -/
theorem Ledger.report (hs : s.Ledger) {batch : Ticket}
    (hw : waiting? batch s.pendingLoads = some id) :
    (s.reported batch).Ledger ∧ ∀ other, (s.reported batch).unsettled other =
      s.unsettled other + if id = other then 1 else 0 := by
  have hcount := hs.waitingFor_reported hw
  have hsub : (s.reported batch).pendingLoads.Sublist s.pendingLoads := by
    unfold reported dropWaiting
    split
    · exact List.filter_sublist
    · exact .refl _
  refine ⟨⟨(hs.serials.sublist (hsub.map _)), ?_, ?_, hs.loaded, hs.staged⟩, ?_⟩
  · intro serial hserial
    exact hs.issued serial ((hsub.map _).subset hserial)
  · intro other
    have hle : s.openings other + s.waitingFor other ≤ s.requests other := hs.settled other
    have := hcount other
    show s.openings other + (s.reported batch).waitingFor other ≤ s.requests other
    omega
  · intro other
    have hle : s.openings other + s.waitingFor other ≤ s.requests other := hs.settled other
    have := hcount other
    show s.requests other - (s.openings other + (s.reported batch).waitingFor other) =
      s.requests other - (s.openings other + s.waitingFor other) + _
    omega

/-- A stage becomes known: one request is settled. -/
theorem Ledger.finish (hs : s.Ledger) (hopen : 0 < s.unsettled stage.id) (scenes : List Scene) :
    (s.finished stage scenes).Ledger ∧ ∀ other, (s.finished stage scenes).unsettled other +
      (if stage.id = other then 1 else 0) = s.unsettled other := by
  refine ⟨⟨hs.serials, hs.issued, ?_, ?_, hs.staged⟩, ?_⟩
  · intro other
    have := hs.room hopen other
    rw [requests_finished, openings_finished, waitingFor_finished]
    omega
  · intro other
    rw [requests_finished]
    exact hs.loaded other
  · intro other
    have := hs.room hopen other
    rw [unsettled, unsettled, requests_finished, openings_finished, waitingFor_finished]
    omega

/-- **A step keeps the ledger**, and leaves nothing unsettled that was not. -/
theorem Loads.ledger (h : s.Loads t) (hs : s.Ledger) :
    t.Ledger ∧ ∀ id, t.unsettled id = s.unsettled id := by
  -- Each request that comes to be unsettled is settled in the same step.
  cases h with
  | quiet h => exact ⟨hs.quiet h, h.unsettled⟩
  | @preload u id stage h hstage =>
    obtain rfl := stage_id hstage
    obtain ⟨hrequested, hasked⟩ := hs.ask h hstage
    have hopen : 0 < (u.requested stage.id).unsettled stage.id := by simp [hasked]
    obtain ⟨hledger, hwaits⟩ := hrequested.preload hopen
    exact ⟨hledger, fun id => Nat.add_right_cancel ((hwaits id).trans (hasked id))⟩
  | @load u id stage scenes h hstage =>
    obtain rfl := stage_id hstage
    obtain ⟨hrequested, hasked⟩ := hs.ask h hstage
    have hopen : 0 < (u.requested stage.id).unsettled stage.id := by simp [hasked]
    obtain ⟨hledger, hopened⟩ := hrequested.finish hopen scenes
    exact ⟨hledger, fun id => Nat.add_right_cancel ((hopened id).trans (hasked id))⟩
  | @complete batch id stage scenes h hstage =>
    obtain rfl := stage_id hstage
    obtain ⟨hreported, harrived⟩ := hs.report h
    have hopen : 0 < (s.reported batch).unsettled stage.id := by simp [harrived]
    obtain ⟨hledger, hopened⟩ := hreported.finish hopen scenes
    exact ⟨hledger, fun id => Nat.add_right_cancel ((hopened id).trans (harrived id))⟩

/-- From `s` to `t`, which was left with an error if there was one, a request has come to be
unsettled only if its stage could not be made known. -/
def Loses (s : Session) (r : Except Error Unit) (t : Session) : Prop :=
  ∀ id, t.unsettled id = s.unsettled id ∨ t.unsettled id = s.unsettled id + 1 ∧
    ∃ e stage, r = .error e ∧ t.stage id = .ok stage ∧
      (Play.materialize stage).outcome t = some (.error e, t)

/-- **A step that fails keeps the ledger**, and leaves at most the request unsettled for which it
has failed. -/
theorem LoadFails.ledger (h : s.LoadFails e t) (hs : s.Ledger) :
    t.Ledger ∧ s.Loses (.error e) t := by
  cases h with
  | quiet h => exact ⟨hs.quiet h, fun id => .inl (h.unsettled id)⟩
  | @unresolved u id stage e h hstage hscenes =>
    obtain ⟨hrequested, hcount⟩ := hs.ask h hstage
    refine ⟨hrequested, fun other => ?_⟩
    rw [hcount]
    by_cases heq : id = other
    · subst heq
      refine .inr ⟨by simp, e, stage, rfl, hstage, ?_⟩
      rw [Play.outcome_materialize, hscenes]
    · exact .inl (by simp [heq])
  | @incomplete batch id e h hscenes =>
    -- A stage that waits is one of the world, so it was found.
    obtain ⟨stage, hstage⟩ := hs.staged id (hs.hasLoaded_of_waitingFor (waitingFor_pos h))
    rw [hstage] at hscenes
    have hfailed : (s.reported batch).resolve [] stage.scenes = .error e := hscenes
    obtain ⟨hreported, hcount⟩ := hs.report h
    refine ⟨hreported, fun other => ?_⟩
    rw [hcount]
    by_cases heq : id = other
    · subst heq
      refine .inr ⟨by simp, e, stage, rfl, hstage, ?_⟩
      rw [Play.outcome_materialize, hfailed]
    · exact .inl (by simp [heq])

theorem ledger_withArrows (id : Uuid) (arrows : List String) : (withArrows id arrows).Ledger where
  serials := List.nodup_nil
  issued := nofun
  settled _ := Nat.le_refl 0
  loaded _ := ⟨nofun, nofun⟩
  staged _ := nofun

theorem ledger_begun (id id' : Uuid) (arrows : List String) (world : World) :
    ((withArrows id arrows).begun id' world).Ledger where
  serials := List.nodup_nil
  issued := nofun
  settled _ := Nat.le_refl 0
  loaded _ := ⟨nofun, nofun⟩
  staged _ := nofun

end Session

/-! ## Calls -/

section

variable {s t : Session} {r : Except Error Unit} {depth : Nat} {arrows : List String}

/-- As long as no step fails nothing new is unsettled, and the first one that fails is the last. -/
theorem keeps_unsettled (s : Session) :
    Keeps (.free fun _ _ => True)
      (fun t => t.Ledger ∧ ∀ id, t.unsettled id = s.unsettled id)
      fun e t => s.Loses (.error e) t := by
  apply Keeps.free
  · intro _ _ _ hs hm
    obtain ⟨hledger, hsame⟩ := hm.loads.ledger hs.1
    exact ⟨hledger, fun id => (hsame id).trans (hs.2 id)⟩
  · intro _ _ _ _ hs hh id
    rw [← hs.2 id]
    exact (hh.loadFails.ledger hs.1).2 id

/-- **What a call leaves unsettled**: nothing new, or one request for the stage that could not be
made known, with whose error the call has failed. -/
theorem Session.Ledger.call_loses (hs : s.Ledger) (hground : s.Grounded) {c : Call}
    (h : (c.play depth).outcome s = some (r, t)) : s.Loses r t := by
  have hends := (keeps_unsettled s).call_ends hground ⟨hs, fun _ => rfl⟩ h
  rcases hends.2 with hsame | ⟨e, rfl, hloses⟩
  · exact fun id => .inl (hsame.2 id)
  · exact hloses

/-- Nothing is unsettled before a world is started, and one request at most behind the start. -/
theorem start_loses {id id' : Uuid} {world : World}
    (h : (Play.start depth id' world).outcome (.withArrows id arrows) = some (r, t)) :
    (withArrows id arrows).Loses r t := by
  have hends := (keeps_unsettled (withArrows id arrows)).start_ends (grounded_withArrows id arrows)
    ⟨ledger_withArrows id arrows, fun _ => rfl⟩
    ⟨ledger_begun id id' arrows world, fun _ => rfl⟩ h
  rcases hends.2 with hsame | ⟨e, rfl, hloses⟩
  · exact fun stage => .inl (hsame.2 stage)
  · exact hloses

end

end Adventure
