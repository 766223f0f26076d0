import Adventure.Proofs.Sessions

/-!
# The depth of scripts

How deep scripts may be nested decides whether a call has an answer, but not which.

## Main definitions

* `Play.Below p q`: whatever `p` answers, `q` answers as well

## Main results

* `Play.execute_below`: a script answers the same if it may be nested deeper
* `Call.outcome_unique`, `Play.start_unique`: no two depths give different answers
-/

namespace Adventure

namespace Play

variable {α β : Type}

/-- Whatever an operation answers, another one answers as well. -/
def Below (p q : Play α) : Prop :=
  ∀ s o, p.outcome s = some o → q.outcome s = some o

theorem Below.refl (p : Play α) : p.Below p := by
  intro _ _ h
  exact h

theorem unanswered_below (p : Play α) : (unanswered : Play α).Below p := by
  intro s o h
  rw [outcome_unanswered] at h
  cases h

theorem Below.bind {p q : Play α} {f g : α → Play β} (hp : p.Below q)
    (hf : ∀ a, (f a).Below (g a)) : (p >>= f).Below (q >>= g) := by
  intro s o h
  rw [outcome_bind] at h ⊢
  -- The first operation has an answer, since the whole has one.
  cases hs : p.outcome s with
  | none =>
    rw [hs] at h
    cases h
  | some x =>
    obtain ⟨r, t⟩ := x
    rw [hs] at h
    rw [hp s _ hs]
    cases r with
    | error e => exact h
    | ok a => exact hf a t o h

/-- An operation is followed by another one. -/
theorem Below.followed (p : Play α) {f g : α → Play β} (hf : ∀ a, (f a).Below (g a)) :
    (p >>= f).Below (p >>= g) :=
  (Below.refl p).bind hf

theorem Below.ite {c : Prop} [Decidable c] {p p' q q' : Play α} (hp : p.Below p')
    (hq : q.Below q') : (if c then p else q).Below (if c then p' else q') := by
  by_cases hc : c
  · rw [if_pos hc, if_pos hc]
    exact hp
  · rw [if_neg hc, if_neg hc]
    exact hq

theorem Below.forM {f g : β → Play Unit} (hf : ∀ b, (f b).Below (g b)) (l : List β) :
    (l.forM f).Below (l.forM g) := by
  induction l with
  | nil => exact Below.refl _
  | cons b l ih => exact (hf b).bind fun _ => ih

/-! ## Operations that run scripts -/

section Run

variable {run run' : Script → Play Unit} (h : ∀ script, (run script).Below (run' script))
include h

theorem enterScene_below (id : String) : (enterScene run id).Below (enterScene run' id) := by
  unfold enterScene
  apply Below.followed
  intro visited
  -- What is shown of the scene does not depend on its scripts.
  refine .followed _ fun _ => .followed _ fun _ => .followed _ fun _ => .followed _ fun _ => ?_
  apply Below.followed
  intro scene
  apply (h _).bind
  intro _
  exact h scene.entryActions

theorem goToScene_below (id : String) : (goToScene run id).Below (goToScene run' id) := by
  unfold goToScene
  apply Below.followed
  intro scene
  apply Below.followed
  intro _
  apply Below.followed
  intro _
  exact enterScene_below h scene.id

theorem openStage_below (stage : Stage) : (openStage run stage).Below (openStage run' stage) := by
  apply (h stage.loadActions).bind
  intro _
  apply Below.followed
  intro s
  apply Below.ite
  · cases stage.scenes with
    | nil => exact Below.refl _
    | cons scene rest => exact goToScene_below h scene.id
  · exact Below.refl _

theorem finishLoad_below (stage : Stage) : (finishLoad run stage).Below (finishLoad run' stage) := by
  unfold finishLoad
  apply Below.followed
  intro _
  apply Below.followed
  intro _
  apply Below.followed
  intro _
  exact openStage_below h stage

theorem loadStage_below (id : String) : (loadStage run id).Below (loadStage run' id) := by
  unfold loadStage
  apply Below.followed
  intro stage
  apply Below.followed
  intro _
  apply Below.followed
  intro _
  apply Below.followed
  intro _
  apply Below.ite
  · exact Below.refl _
  · exact finishLoad_below h stage

theorem assetsReady_below (batch : Ticket) :
    (assetsReady run batch).Below (assetsReady run' batch) := by
  unfold assetsReady
  apply Below.followed
  intro s
  cases waiting? batch s.pendingLoads with
  | none => exact Below.refl _
  | some id =>
    apply Below.followed
    intro _
    apply Below.followed
    intro stage
    exact finishLoad_below h stage

theorem acceptCode_below (puzzle code stage : String) :
    (acceptCode run puzzle code stage).Below (acceptCode run' puzzle code stage) := by
  unfold acceptCode
  apply Below.followed
  intro s
  apply Below.ite
  · apply Below.followed
    intro s
    exact h _
  · apply Below.followed
    intro _
    apply Below.followed
    intro _
    exact loadStage_below h stage

theorem rejectCode_below : (rejectCode run).Below (rejectCode run') := by
  unfold rejectCode
  apply Below.followed
  intro _
  apply Below.followed
  intro script
  exact h script

theorem submitCode_below (puzzle : Option String) (code : String) :
    (submitCode run puzzle code).Below (submitCode run' puzzle code) := by
  unfold submitCode
  apply Below.followed
  intro puzzle
  apply Below.followed
  intro declared
  apply Below.followed
  intro targets
  apply Below.ite
  · exact rejectCode_below h
  · apply Below.forM
    intro stage
    exact acceptCode_below h puzzle (Text.trim code) stage

theorem clickButton_below (index : Nat) :
    (clickButton run index).Below (clickButton run' index) := by
  unfold clickButton
  apply Below.followed
  intro s
  cases s.player.pending with
  | none => exact Below.refl _
  | some scripts =>
    dsimp only
    cases scripts[index]? with
    | none => exact Below.refl _
    | some script =>
      apply Below.followed
      intro _
      apply Below.followed
      intro _
      apply Below.followed
      intro _
      exact h script

/-- Only the actions that run scripts depend on how they are run. -/
theorem perform_below (a : Action) : (perform run a).Below (perform run' a) := by
  unfold perform
  cases a.effect with
  | goToScene scene => exact goToScene_below h scene
  | enterCode puzzle code => exact submitCode_below h puzzle code
  | group next => exact h next
  | runProcedure name =>
    apply Below.followed
    intro script
    exact h script
  | _ => exact Below.refl _

theorem step_below (a : Action) : (step run a).Below (step run' a) := by
  unfold step
  apply Below.followed
  intro passes
  apply Below.ite
  · exact perform_below h a
  · exact Below.refl _

end Run

/-! ## Deeper scripts -/

/-- **A script that may be nested deeper** answers what it answered before. -/
theorem execute_below {depth depth' : Nat} (hle : depth ≤ depth') (script : Script) :
    (execute depth script).Below (execute depth' script) := by
  induction depth generalizing depth' script with
  | zero => exact unanswered_below _
  | succ depth ih =>
    -- Both bounds leave room for one more script, whose calls are one less deep.
    obtain ⟨deeper, rfl⟩ : ∃ deeper, depth' = deeper + 1 := ⟨depth' - 1, by omega⟩
    apply Below.forM
    intro a
    apply step_below
    intro next
    exact ih (by omega) next

section Deeper

variable {depth depth' : Nat} (hle : depth ≤ depth')
include hle

theorem start_below (id : Uuid) (world : World) :
    (start depth id world).Below (start depth' id world) := by
  unfold start
  apply Below.followed
  intro _
  apply Below.followed
  intro first
  refine .followed _ fun _ => .followed _ fun s => .followed _ fun _ => .followed _ fun _ => ?_
  exact loadStage_below (execute_below hle) first.id

theorem clickObject_below (id : String) :
    (clickObject depth id).Below (clickObject depth' id) := by
  unfold clickObject
  apply Below.followed
  intro s
  apply Below.ite
  · exact Below.refl _
  · apply Below.followed
    intro _
    unfold react
    apply Below.followed
    intro scene
    cases scene.interactive.get? id with
    | none => exact Below.refl _
    | some script => exact execute_below hle script

theorem timerFired_below (timer : Ticket) :
    (timerFired depth timer).Below (timerFired depth' timer) := by
  unfold timerFired
  apply Below.followed
  intro s
  cases waiting? timer s.pendingTimers with
  | none => exact Below.refl _
  | some script =>
    apply Below.followed
    intro _
    exact execute_below hle script

theorem handle_below (event : Event Ticket) :
    (handle depth event).Below (handle depth' event) := by
  cases event with
  | objectClicked object => exact clickObject_below hle object
  | codeSubmitted code => exact submitCode_below (execute_below hle) none code
  | buttonClicked index => exact clickButton_below (execute_below hle) index.toNat
  | assetsReady batch => exact assetsReady_below (execute_below hle) batch
  | timerFired timer => exact timerFired_below hle timer
  | hintRequested | messageDismissed => exact Below.refl _

theorem pumpUpTo_below (count : Nat) :
    (pumpUpTo depth count).Below (pumpUpTo depth' count) := by
  induction count with
  | zero => exact Below.refl _
  | succ count ih =>
    unfold pumpUpTo
    apply Below.followed
    intro s
    cases s.queue with
    | nil => exact Below.refl _
    | cons event rest =>
      apply Below.followed
      intro _
      apply (handle_below hle event).bind
      intro _
      apply ih.bind
      intro handled
      exact Below.refl _

theorem pump_below : (pump depth).Below (pump depth') := by
  unfold pump
  apply Below.followed
  intro s
  exact pumpUpTo_below hle s.queue.length

end Deeper

end Play

/-- **A call that may nest scripts deeper** answers what it answered before. -/
theorem Call.play_below {depth depth' : Nat} (hle : depth ≤ depth') (c : Call) :
    (c.play depth).Below (c.play depth') := by
  cases c with
  | handle event => exact Play.handle_below hle event
  | goToScene id => exact Play.goToScene_below (Play.execute_below hle) id
  | loadStage id => exact Play.loadStage_below (Play.execute_below hle) id
  | execute script => exact Play.execute_below hle script
  | pump =>
    apply (Play.pump_below hle).bind
    intro _
    exact Play.Below.refl _
  | post | takeBatches | takeTimers => exact Play.Below.refl _

/-- What one operation answers at each depth, if it is the same at all larger ones, is unique. -/
theorem Play.unique_of_below {α : Type} {p : Nat → Play α}
    (hp : ∀ {depth depth'}, depth ≤ depth' → (p depth).Below (p depth')) {s : Session}
    {depth depth' : Nat} {o o' : Except Error α × Session} (h : (p depth).outcome s = some o)
    (h' : (p depth').outcome s = some o') : o = o' := by
  -- Both answers are those at the larger of the two depths.
  have hmax := hp (Nat.le_max_left depth depth') s o h
  have hmax' := hp (Nat.le_max_right depth depth') s o' h'
  exact Option.some.inj (hmax.symm.trans hmax')

/-- **No two depths give different answers** to a call. -/
theorem Call.outcome_unique {c : Call} {s : Session} {depth depth' : Nat}
    {o o' : Except Error Unit × Session} (h : (c.play depth).outcome s = some o)
    (h' : (c.play depth').outcome s = some o') : o = o' := by
  apply Play.unique_of_below (p := fun depth => c.play depth) _ h h'
  intro depth depth' hle
  exact c.play_below hle

/-- No two depths start a world differently. -/
theorem Play.start_unique {id : Uuid} {world : World} {s : Session} {depth depth' : Nat}
    {o o' : Except Error Unit × Session} (h : (start depth id world).outcome s = some o)
    (h' : (start depth' id world).outcome s = some o') : o = o' := by
  apply Play.unique_of_below (p := fun depth => start depth id world) _ h h'
  intro depth depth' hle
  exact start_below hle id world

end Adventure
