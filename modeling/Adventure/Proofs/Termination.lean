import Adventure.Proofs.Inheritance
import Adventure.Proofs.References

/-!
# Termination

A script may call procedures, scenes and codes without end, so the depth of its calls is not bounded
beforehand.  In an acyclic world it is: whatever a session of the world knows was declared by the
world, so a chain of calls is one that can be read off the world, and ends.  Every script that a
session can be given ends then, and so does every call and every start.

## Main definitions

* `Play.Terminates`: from some depth on, an operation has an answer, and always the same
* `Play.Ends I`: so it is, and `I` holds of the session that is left
* `Session.Confined`: what a session knows was declared by a world
* `Routine.Ends`: the scripts behind a routine end in every such session

## Main results

* `Script.ends`: a script ends if all that it calls ends
* `World.Acyclic.routine_ends`: in an acyclic world every routine ends
* `World.Acyclic.sessions_terminate`: calls and starts end
-/

namespace Adventure

open Session

/-! ## Operations that end -/

namespace Play

variable {α β : Type}

/-- An operation has an answer from some depth on, which does not depend on the depth then. -/
def Terminates (p : Nat → Play α) (s : Session) : Prop :=
  ∃ depth o, ∀ deeper, depth ≤ deeper → (p deeper).outcome s = some o

/-- An operation has an answer from some depth on, and the session that is left satisfies `I`. -/
def Ends (I : Session → Prop) (p : Nat → Play α) (s : Session) : Prop :=
  ∃ depth r t, I t ∧ ∀ deeper, depth ≤ deeper → (p deeper).outcome s = some (r, t)

variable {I : Session → Prop} {p : Nat → Play α} {f : Nat → α → Play β} {s t : Session}

theorem Ends.terminates (h : Ends I p s) : Terminates p s := by
  obtain ⟨depth, r, t, -, h⟩ := h
  exact ⟨depth, (r, t), h⟩

theorem Ends.of_outcome {r : Except Error α} (h : ∀ depth, (p depth).outcome s = some (r, t))
    (ht : I t) : Ends I p s :=
  ⟨0, r, t, ht, fun deeper _ => h deeper⟩

/-- An operation goes on from a later session. -/
theorem Ends.later {q : Nat → Play α} (h : ∀ depth, (p depth).outcome s = (q depth).outcome t)
    (hq : Ends I q t) : Ends I p s := by
  obtain ⟨depth, r, u, hu, hq⟩ := hq
  exact ⟨depth, r, u, hu, fun deeper hle => (h deeper).trans (hq deeper hle)⟩

theorem Ends.bind (hp : Ends I p s) (hf : ∀ a t, I t → Ends I (fun depth => f depth a) t) :
    Ends I (fun depth => p depth >>= f depth) s := by
  obtain ⟨depth, r, t, ht, hp⟩ := hp
  cases r with
  | error e =>
    refine ⟨depth, .error e, t, ht, fun deeper hle => ?_⟩
    rw [outcome_bind, hp deeper hle, andThen_error]
  | ok a =>
    -- Both operations have their answers at the larger of the two depths.
    obtain ⟨depth', r, u, hu, hf⟩ := hf a t ht
    refine ⟨max depth depth', r, u, hu, fun deeper hle => ?_⟩
    rw [outcome_bind, hp deeper (le_of_max_le_left hle), andThen_ok]
    exact hf deeper (le_of_max_le_right hle)

theorem Ends.forM {g : Nat → β → Play Unit} {l : List β} (hs : I s)
    (hg : ∀ b ∈ l, ∀ t, I t → Ends I (fun depth => g depth b) t) :
    Ends I (fun depth => l.forM (g depth)) s := by
  induction l generalizing s with
  | nil => exact .of_outcome (fun depth => outcome_forM_nil (g depth) s) hs
  | cons b l ih =>
    refine Ends.bind (f := fun depth _ => l.forM (g depth)) (hg b (.head _) s hs) ?_
    intro _ t ht
    exact ih ht fun c hc => hg c (.tail _ hc)

/-- A script ends if its actions do, one after the other. -/
theorem Ends.script {script : Script}
    (h : Ends I (fun depth => script.forM (step (execute depth))) s) :
    Ends I (fun depth => execute depth script) s := by
  obtain ⟨depth, r, t, ht, h⟩ := h
  refine ⟨depth + 1, r, t, ht, fun deeper hle => ?_⟩
  obtain ⟨deeper, rfl⟩ : ∃ n, deeper = n + 1 := ⟨deeper - 1, by omega⟩
  exact h deeper (by omega)

end Play

/-! ## What a session knows -/

/-- What a session knows was declared by a world: it is this world that the session plays, if any,
and the parameters are the ones of the world or those that stand in before. -/
structure Session.Confined (w : World) (s : Session) : Prop where
  grounded : s.Grounded
  awaited : s.Awaited
  declared : s.Declared
  world : ∀ v, s.world = some v → v = w
  parameters : s.catalog.parameters = w.parameters ∨ s.catalog.parameters = {}

namespace Session.Confined

variable {w : World} {s t : Session} {r : Routine}

/-- **Steps lead to nothing that was not declared.** -/
theorem step (hs : s.Confined w) (h : s.Step t) : t.Confined w where
  grounded := h.grounded hs.grounded
  awaited := (h.declared ⟨hs.awaited, hs.declared⟩).1
  declared := (h.declared ⟨hs.awaited, hs.declared⟩).2
  world := by
    rw [h.extends.world]
    exact hs.world
  parameters := by
    rw [h.extends.catalog.parameters]
    exact hs.parameters

/-- Where the same is known and nothing new waits, a session stays confined. -/
theorem mono (hs : s.Confined w) (hg : t.Grounded) (hc : t.catalog = s.catalog)
    (hworld : t.world = s.world) (hp : ∀ e ∈ t.pendingLoads, e ∈ s.pendingLoads)
    (hl : ∀ stage, s.player.hasLoaded stage = true → t.player.hasLoaded stage = true) :
    t.Confined w where
  grounded := hg
  awaited := hs.awaited.mono hp hl
  declared := hs.declared.mono hc hworld hl
  world := by
    rw [hworld]
    exact hs.world
  parameters := by
    rw [hc]
    exact hs.parameters

theorem solved (hs : s.Confined w) (puzzle code : String) : (s.solved puzzle code).Confined w :=
  hs.mono (hs.grounded.congr rfl rfl rfl) rfl rfl (fun _ he => he) fun _ hl => hl

theorem requested (hs : s.Confined w) (id : String) : (s.requested id).Confined w :=
  hs.mono (hs.grounded.congr rfl rfl rfl) rfl rfl (fun _ he => he) fun _ =>
    (extends_requested s id).loaded

theorem reported (hs : s.Confined w) (batch : Ticket) : (s.reported batch).Confined w :=
  hs.mono (hs.grounded.congr rfl rfl rfl) rfl rfl (fun _ he => mem_of_mem_dropWaiting he)
    fun _ hl => hl

theorem mem_scenes (hs : s.Confined w) {d : Scene} (h : s.Loaded d) : d ∈ w.scenes := by
  obtain ⟨v, hv, stage, hstage, -, hd⟩ := h
  obtain rfl := hs.world v hv
  exact List.mem_flatMap.2 ⟨stage, hstage, hd⟩

theorem mem_stages (hs : s.Confined w) {id : String} {stage : Stage} (h : s.stage id = .ok stage) :
    stage ∈ w.stages := by
  obtain ⟨-, v, hv, hstage⟩ := stage_ok h
  obtain rfl := hs.world v hv
  exact hstage

/-- A scene that is known is declared under its id, with the same scripts but for its
interactions. -/
theorem exists_declared (hs : s.Confined w) {id : String} {scene : Scene}
    (h : s.catalog.scenes.get? id = some scene) :
    ∃ d ∈ w.scenes, d.id = id ∧ scene = { d with interactive := scene.interactive } := by
  obtain ⟨d, hd, hid, hbecomes⟩ := hs.declared.scenes h
  exact ⟨d, hs.mem_scenes hd, hid, hbecomes.eq⟩

/-! What the scripts call that a session has for its routines, the world calls. -/

theorem calls_procedure (hs : s.Confined w) {name : String} {script : Script}
    (h : s.catalog.procedures.get? name = some script) (hr : r ∈ Script.calls script) :
    w.Calls (.procedure name) r := by
  obtain ⟨d, hd, hget⟩ := hs.declared.procedures h
  exact World.calls_procedure (hs.mem_scenes hd) hget hr

theorem calls_entry (hs : s.Confined w) {id : String} {scene : Scene}
    (h : s.catalog.scenes.get? id = some scene)
    (hr : r ∈ Script.calls scene.firstEntryActions ∨ r ∈ Script.calls scene.entryActions) :
    w.Calls (.scene id) r := by
  obtain ⟨d, hd, rfl, heq⟩ := hs.exists_declared h
  rw [heq] at hr
  exact World.calls_entry hd hr

theorem calls_wrongDefault (hs : s.Confined w)
    (hr : r ∈ Script.calls s.catalog.parameters.wrongCodeActions) : w.Calls .submission r := by
  rcases hs.parameters with h | h
  · rw [h] at hr
    exact World.calls_default (.inl hr)
  · rw [h] at hr
    cases hr

theorem calls_rediscovered (hs : s.Confined w)
    (hr : r ∈ Script.calls s.catalog.parameters.rediscoveredActions) : w.Calls .submission r := by
  rcases hs.parameters with h | h
  · rw [h] at hr
    exact World.calls_default (.inr hr)
  · rw [h] at hr
    cases hr

theorem calls_wrongScript (hs : s.Confined w) (hr : r ∈ Script.calls s.wrongScript) :
    w.Calls .submission r := by
  unfold wrongScript at hr
  cases hhere : s.here? with
  | none =>
    rw [hhere] at hr
    exact hs.calls_wrongDefault hr
  | some scene =>
    rw [hhere] at hr
    obtain ⟨id, -, hscene⟩ := here?_eq_some hhere
    obtain ⟨d, hd, -, heq⟩ := hs.exists_declared hscene
    cases hwrong : scene.wrongCodeActions with
    | none =>
      simp only [hwrong, Option.getD_none] at hr
      exact hs.calls_wrongDefault hr
    | some script =>
      simp only [hwrong, Option.getD_some] at hr
      refine World.calls_wrongCode hd ?_ hr
      rw [← hwrong, heq]

end Session.Confined

/-! ## Scripts -/

/-- The scripts behind a routine end in every session of a world. -/
def Routine.Ends (w : World) : Routine → Prop
  | procedure name => ∀ s script, s.Confined w → s.catalog.procedures.get? name = some script →
    Play.Ends (Confined w) (fun depth => Play.execute depth script) s
  | scene id => ∀ s, s.Confined w →
    Play.Ends (Confined w) (fun depth => Play.goToScene (Play.execute depth) id) s
  | submission => ∀ s puzzle code, s.Confined w →
    Play.Ends (Confined w) (fun depth => Play.submitCode (Play.execute depth) puzzle code) s

section Scripts

variable {w : World} {s : Session}

/-- A single step ends. -/
theorem Session.Confined.ends_single (hs : s.Confined w) {a : Action}
    (h : a.effect.isSingle = true) :
    Play.Ends (Confined w) (fun depth => Play.perform (Play.execute depth) a) s := by
  have hrun := fun depth => Play.perform_of_isSingle h (Play.execute depth) fun _ => pure ()
  simp only [hrun]
  have ha : (Policy.free fun _ _ => True).performs s a := trivial
  cases Play.performs hs.grounded ha fun _ => pure () with
  | enter he => simp [he, Effect.isSingle] at h
  | submit he => simp [he, Effect.isSingle] at h
  | script _ h => exact .of_outcome (fun _ => h) hs
  | step hm _ _ h => exact .of_outcome (fun _ => h) (hs.step (.move hm))
  | pass h => exact .of_outcome (fun _ => h) hs
  | refuse _ h => exact .of_outcome (fun _ => h) hs

/-- A procedure ends if its script does; one that is not known fails at once. -/
theorem Session.Confined.ends_procedure (hs : s.Confined w) {name : String}
    (h : Routine.Ends w (.procedure name)) :
    Play.Ends (Confined w) (fun depth => do
      let script ← Play.ask fun s => s.catalog.procedure name
      Play.execute depth script) s := by
  cases hget : s.catalog.procedures.get? name with
  | none =>
    refine .of_outcome (r := .error (.notFound .procedure name)) (fun depth => ?_) hs
    rw [Play.outcome_bind, Play.outcome_ask, Catalog.procedure, Catalog.look, hget]
    rfl
  | some script =>
    refine .later (fun depth => ?_) (h s script hs hget)
    rw [Play.outcome_bind, Play.outcome_ask, Catalog.procedure, Catalog.look, hget]
    rfl

/-- An action with its guard ends if the action does. -/
theorem Session.Confined.ends_step (hs : s.Confined w) {a : Action}
    (h : Play.Ends (Confined w) (fun depth => Play.perform (Play.execute depth) a) s) :
    Play.Ends (Confined w) (fun depth => Play.step (Play.execute depth) a) s := by
  have hstep := fun depth => Play.outcome_step s (Play.execute depth) a
  cases hpasses : a.passes s.player with
  | error e =>
    simp only [hpasses] at hstep
    exact .of_outcome hstep hs
  | ok passes =>
    cases passes with
    | false =>
      simp only [hpasses] at hstep
      exact .of_outcome hstep hs
    | true =>
      simp only [hpasses] at hstep
      exact .later hstep h

mutual

/-- An action ends if all that it calls ends. -/
theorem Effect.ends : ∀ effect : Effect, (∀ r ∈ effect.calls, r.Ends w) →
    ∀ a : Action, a.effect = effect → ∀ s, s.Confined w →
      Play.Ends (Confined w) (fun depth => Play.perform (Play.execute depth) a) s
  | .goToScene id, hcalls, a, he, s, hs => by
    simp only [Play.perform, he]
    exact hcalls (.scene id) (.head _) s hs
  | .enterCode puzzle code, hcalls, a, he, s, hs => by
    simp only [Play.perform, he]
    exact hcalls .submission (.head _) s puzzle code hs
  | .runProcedure name, hcalls, a, he, s, hs => by
    simp only [Play.perform, he]
    exact hs.ends_procedure (hcalls (.procedure name) (.head _))
  | .group next, hcalls, a, he, s, hs => by
    simp only [Play.perform, he]
    exact .script (Script.ends_actions next hcalls s hs)
  | .showText _, _, a, he, s, hs | .blockingText .., _, a, he, s, hs
  | .alternative .., _, a, he, s, hs | .setVariable .., _, a, he, s, hs
  | .incrementVariable .., _, a, he, s, hs | .fadeTween _, _, a, he, s, hs
  | .setMusic .., _, a, he, s, hs | .musicTween _, _, a, he, s, hs
  | .playAudio .., _, a, he, s, hs | .stopAudio _, _, a, he, s, hs
  | .delayed .., _, a, he, s, hs | .hideInteractive, _, a, he, s, hs
  | .redirect _, _, a, he, s, hs | .unrecognized, _, a, he, s, hs =>
    hs.ends_single (by rw [he]; rfl)

/-- The actions of a script end, one after the other, if all that they call ends. -/
theorem Script.ends_actions : ∀ script : List Action, (∀ r ∈ Script.calls script, r.Ends w) →
    ∀ s, s.Confined w →
      Play.Ends (Confined w) (fun depth => script.forM (Play.step (Play.execute depth))) s
  | [], _, s, hs => .of_outcome (fun _ => rfl) hs
  | ⟨tag, guard, effect⟩ :: rest, hcalls, s, hs => by
    have hfirst := Effect.ends effect (fun r hr => hcalls r (List.mem_append_left _ hr))
      ⟨tag, guard, effect⟩ rfl s hs
    refine (hs.ends_step hfirst).bind fun _ t ht => ?_
    exact Script.ends_actions rest (fun r hr => hcalls r (List.mem_append_right _ hr)) t ht

end

/-- **A script ends** if all that it calls ends. -/
theorem Script.ends {script : Script} (hcalls : ∀ r ∈ Script.calls script, r.Ends w)
    (hs : s.Confined w) : Play.Ends (Confined w) (fun depth => Play.execute depth script) s :=
  .script (Script.ends_actions script hcalls s hs)

end Scripts

/-! ## Routines -/

section Routines

variable {w : World} {s : Session}

/-- **A scene can be entered** if all that its scripts call ends. -/
theorem Session.Confined.ends_goToScene (hs : s.Confined w) {id : String}
    (hcalls : ∀ r, w.Calls (.scene id) r → r.Ends w) :
    Play.Ends (Confined w) (fun depth => Play.goToScene (Play.execute depth) id) s := by
  have h := fun depth => Play.outcome_goToScene hs.grounded (Play.execute depth) id
  cases hscene : s.catalog.scenes.get? id with
  | none =>
    simp only [hscene] at h
    exact .of_outcome h hs
  | some scene =>
    cases hobject : Play.unknown? s scene.interactive.keys with
    | some object =>
      simp only [hscene, hobject] at h
      exact .of_outcome h hs
    | none =>
      have ha : (Action.new (.goToScene id)).effect = .goToScene id := rfl
      cases hplan : (s.left.arrived id).plan? with
      | error e =>
        simp only [hscene, hobject, hplan] at h
        exact .of_outcome h (hs.step (.halt (.strand trivial ha hscene hobject hplan)))
      | ok plan =>
        simp only [hscene, hobject, hplan] at h
        have hafter := hs.step (.move (.enter trivial ha hscene hobject hplan))
        refine .later h (Play.Ends.bind ?_ fun _ t ht => ?_)
        · refine Script.ends (fun r hr => ?_) hafter
          split at hr
          · cases hr
          · exact hcalls r (hs.calls_entry hscene (.inl hr))
        · exact Script.ends (fun r hr => hcalls r (hs.calls_entry hscene (.inr hr))) ht

variable (hcalls : ∀ r, w.Calls .submission r → r.Ends w)
include hcalls

/-- The load actions of a stage end, and so does the way to its first scene. -/
theorem Session.Confined.ends_openStage (hs : s.Confined w) {stage : Stage}
    (hstage : stage ∈ w.stages) :
    Play.Ends (Confined w) (fun depth => Play.openStage (Play.execute depth) stage) s := by
  have hends : ∀ r ∈ stage.calls, r.Ends w := fun r hr => hcalls r (World.calls_stage hstage hr)
  refine Play.Ends.bind (Script.ends (fun r hr => hends r (List.mem_append_left _ hr)) hs) ?_
  intro _ t ht
  refine Play.Ends.bind (.of_outcome (fun _ => Play.outcome_get t) ht) fun u v hv => ?_
  split
  · cases hscenes : stage.scenes with
    | nil => exact .of_outcome (fun _ => Play.outcome_pure () v) hv
    | cons scene rest =>
      have hfirst : .scene scene.id ∈ stage.calls :=
        List.mem_append_right _ (by simp [hscenes])
      exact hends _ hfirst v hv
  · exact .of_outcome (fun _ => Play.outcome_pure () v) hv

theorem Session.Confined.ends_finishLoad (hs : s.Confined w) {stage : Stage}
    (hstage : stage ∈ w.stages)
    (hfinished : ∀ scenes, s.resolve [] stage.scenes = .ok scenes →
      (s.finished stage scenes).Confined w) :
    Play.Ends (Confined w) (fun depth => Play.finishLoad (Play.execute depth) stage) s := by
  have h := fun depth => Play.outcome_finishLoad s (Play.execute depth) stage
  cases hscenes : s.resolve [] stage.scenes with
  | error e =>
    simp only [hscenes] at h
    exact .of_outcome h hs
  | ok scenes =>
    simp only [hscenes] at h
    exact .later h ((hfinished scenes hscenes).ends_openStage hcalls hstage)

/-- **Loading a stage ends.** -/
theorem Session.Confined.ends_loadStage (hs : s.Confined w) (id : String) :
    Play.Ends (Confined w) (fun depth => Play.loadStage (Play.execute depth) id) s := by
  have h := fun depth => Play.outcome_loadStage s (Play.execute depth) id
  cases hstage : s.stage id with
  | error e =>
    simp only [hstage] at h
    exact .of_outcome h hs
  | ok stage =>
    simp only [hstage, stage_id hstage] at h
    have hasked : Asked (.free fun _ _ => True) s id s := .direct trivial
    cases hneeds : stage.needsPreload with
    | true =>
      simp only [hneeds, if_true] at h
      exact .of_outcome h (hs.step (.move (.preload hasked hstage hneeds)))
    | false =>
      simp only [hneeds, Bool.false_eq_true, if_false] at h
      refine .later h ((hs.requested id).ends_finishLoad hcalls (hs.mem_stages hstage) ?_)
      intro scenes hscenes
      exact hs.step (.move (.load hasked hstage hneeds hscenes))

/-- A stage that a code leads to is loaded, or the script for a rediscovered one ends. -/
theorem Session.Confined.ends_acceptCode (hs : s.Confined w) (puzzle code stage : String) :
    Play.Ends (Confined w)
      (fun depth => Play.acceptCode (Play.execute depth) puzzle code stage) s := by
  have h := fun depth => Play.outcome_acceptCode hs.grounded (Play.execute depth) puzzle code stage
  cases hloaded : s.player.hasLoaded stage with
  | true =>
    simp only [hloaded, if_true] at h
    exact .later h (Script.ends (fun r hr => hcalls r (hs.calls_rediscovered hr)) hs)
  | false =>
    simp only [hloaded, Bool.false_eq_true, if_false] at h
    exact .later h ((hs.solved puzzle code).ends_loadStage hcalls stage)

/-- **Submitting a code ends.** -/
theorem Session.Confined.ends_submitCode (hs : s.Confined w) (puzzle : Option String)
    (code : String) :
    Play.Ends (Confined w)
      (fun depth => Play.submitCode (Play.execute depth) puzzle code) s := by
  have h := fun depth => Play.outcome_submitCode hs.grounded (Play.execute depth) puzzle code
  cases htargets : s.targetsOf puzzle code with
  | error e =>
    simp only [htargets] at h
    exact .of_outcome h hs
  | ok found =>
    obtain ⟨puzzle, targets⟩ := found
    cases targets with
    | nil =>
      simp only [htargets] at h
      have hclear : (s.cued [.clearCodeInput]).Confined w := hs.step (.move .clear)
      exact .later h (Script.ends (fun r hr => hcalls r (hs.calls_wrongScript hr)) hclear)
    | cons stage stages =>
      simp only [htargets] at h
      exact .later h (.forM hs fun stage _ t ht => ht.ends_acceptCode hcalls puzzle _ stage)

end Routines

/-! ## Events that run no scripts -/

section Events

variable {w : World} {s : Session}

theorem Session.Confined.ends_dismiss (hs : s.Confined w) :
    Play.Ends (Confined w) (fun _ => Play.dismiss) s := by
  have h := Play.outcome_dismiss s
  cases ho : s.noticeOpen with
  | false =>
    rw [ho, if_neg Bool.false_ne_true] at h
    exact .of_outcome (fun _ => h) hs
  | true =>
    rw [ho, if_pos rfl, Play.outcome_closeNotice hs.grounded] at h
    cases hplan : s.noticeClosed.plan? with
    | error e =>
      rw [hplan] at h
      exact .of_outcome (fun _ => h) (hs.step (.halt (.close ho hplan)))
    | ok plan =>
      rw [hplan] at h
      exact .of_outcome (fun _ => h) (hs.step (.move (.close ho hplan)))

theorem Session.Confined.ends_requestHint (hs : s.Confined w) (puzzle : String) (index : UInt64) :
    Play.Ends (Confined w) (fun depth => Play.handle depth (.hintRequested puzzle index)) s := by
  have h := fun depth => Play.outcome_requestHint depth hs.grounded puzzle index
  cases hp : s.puzzle puzzle with
  | error e =>
    simp only [hp] at h
    exact .of_outcome h hs
  | ok declared =>
    cases hhint : declared.hints[index.toNat]? with
    | none =>
      simp only [hp, hhint] at h
      exact .of_outcome h hs
    | some hint =>
      simp only [hp, hhint] at h
      exact .of_outcome h (hs.step (.move (.notice hint)))

end Events

/-! ## Acyclic worlds -/

section Acyclic

variable {w : World} (hw : w.Acyclic) {s : Session}
include hw

/-- **In an acyclic world every routine ends**, since those that it calls do. -/
theorem World.Acyclic.routine_ends (r : Routine) : r.Ends w := by
  induction r using hw.wellFounded.induction with
  | _ r ih =>
    cases r with
    | procedure name =>
      intro s script hs h
      exact Script.ends (fun r hr => ih r (hs.calls_procedure h hr)) hs
    | scene id => exact fun s hs => hs.ends_goToScene ih
    | submission => exact fun s puzzle code hs => hs.ends_submitCode ih puzzle code

/-- **In an acyclic world every script ends**, also one that comes from outside. -/
theorem World.Acyclic.script_ends (hs : s.Confined w) (script : Script) :
    Play.Ends (Confined w) (fun depth => Play.execute depth script) s :=
  Script.ends (fun r _ => hw.routine_ends r) hs

/-! ## Events and calls -/

theorem World.Acyclic.ends_react (hs : s.Confined w) (object : String) :
    Play.Ends (Confined w) (fun depth => Play.react depth object) s := by
  have h := fun depth => Play.outcome_react depth s object
  cases hscene : s.currentScene with
  | error e =>
    simp only [hscene] at h
    exact .of_outcome h hs
  | ok scene =>
    cases hscript : scene.interactive.get? object with
    | some script =>
      simp only [hscene, hscript] at h
      exact .later h (hw.script_ends hs script)
    | none =>
      simp only [hscene, hscript, Play.outcome_requireObject] at h
      cases hknown : s.catalog.objects.contains object with
      | true =>
        simp only [hknown, if_true] at h
        exact .of_outcome h hs
      | false =>
        simp only [hknown, Bool.false_eq_true, if_false] at h
        exact .of_outcome h hs

theorem World.Acyclic.ends_clickObject (hs : s.Confined w) (object : String) :
    Play.Ends (Confined w) (fun depth => Play.clickObject depth object) s := by
  have h := fun depth => Play.outcome_clickObject depth s object
  cases hblocked : s.player.isBlocked with
  | true =>
    simp only [hblocked, if_true] at h
    exact .of_outcome h hs
  | false =>
    simp only [hblocked, Bool.false_eq_true, if_false, ← Play.outcome_bind] at h
    exact .later h (.bind hs.ends_dismiss fun _ t ht => hw.ends_react ht object)

theorem World.Acyclic.ends_clickButton (hs : s.Confined w) (index : Nat) :
    Play.Ends (Confined w) (fun depth => Play.clickButton (Play.execute depth) index) s := by
  have h := fun depth => Play.outcome_clickButton hs.grounded (Play.execute depth) index
  cases hp : s.player.pending with
  | none =>
    simp only [hp] at h
    exact .of_outcome h hs
  | some scripts =>
    cases hscript : scripts[index]? with
    | none =>
      simp only [hp, hscript] at h
      exact .of_outcome h hs
    | some script =>
      cases hplan : s.answered.plan? with
      | error e =>
        simp only [hp, hscript, hplan] at h
        exact .of_outcome h (hs.step (.halt (.answer hp hplan)))
      | ok plan =>
        simp only [hp, hscript, hplan] at h
        exact .later h (hw.script_ends (hs.step (.move (.answer hp hplan))) script)

theorem World.Acyclic.ends_assetsReady (hs : s.Confined w) (batch : Ticket) :
    Play.Ends (Confined w) (fun depth => Play.assetsReady (Play.execute depth) batch) s := by
  have h := fun depth => Play.outcome_assetsReady s (Play.execute depth) batch
  cases hwaiting : waiting? batch s.pendingLoads with
  | none =>
    simp only [hwaiting] at h
    exact .of_outcome h hs
  | some id =>
    cases hstage : s.stage id with
    | error e =>
      simp only [hwaiting, hstage] at h
      exact .of_outcome h (hs.reported batch)
    | ok stage =>
      simp only [hwaiting, hstage] at h
      refine .later h ((hs.reported batch).ends_finishLoad (fun r _ => hw.routine_ends r)
        (hs.mem_stages hstage) fun scenes hscenes => ?_)
      exact hs.step (.move (.complete hwaiting hstage hscenes))

theorem World.Acyclic.ends_timerFired (hs : s.Confined w) (timer : Ticket) :
    Play.Ends (Confined w) (fun depth => Play.timerFired depth timer) s := by
  have h := fun depth => Play.outcome_timerFired depth s timer
  cases hwaiting : waiting? timer s.pendingTimers with
  | none =>
    simp only [hwaiting] at h
    exact .of_outcome h hs
  | some script =>
    simp only [hwaiting] at h
    exact .later h (hw.script_ends (hs.step (.move (.fire hwaiting))) script)

/-- **Every event ends.** -/
theorem World.Acyclic.ends_handle (hs : s.Confined w) (event : Event Ticket) :
    Play.Ends (Confined w) (fun depth => Play.handle depth event) s := by
  cases event with
  | objectClicked object => exact hw.ends_clickObject hs object
  | codeSubmitted code => exact hw.routine_ends .submission s none code hs
  | hintRequested puzzle index => exact hs.ends_requestHint puzzle index
  | buttonClicked index => exact hw.ends_clickButton hs index.toNat
  | messageDismissed => exact hs.ends_dismiss
  | assetsReady batch => exact hw.ends_assetsReady hs batch
  | timerFired timer => exact hw.ends_timerFired hs timer

/-- The queue is handled to its end, event by event. -/
theorem World.Acyclic.ends_pumpUpTo (hs : s.Confined w) (count : Nat) :
    Play.Ends (Confined w) (fun depth => Play.pumpUpTo depth count) s := by
  induction count generalizing s with
  | zero => exact .of_outcome (fun _ => Play.outcome_pure 0 s) hs
  | succ count ih =>
    cases hq : s.queue with
    | nil => exact .of_outcome (fun depth => Play.outcome_pumpUpTo_nil depth hq (count + 1)) hs
    | cons event rest =>
      have hqueue : (s.withQueue rest).Confined w := hs.step (.move (.queue rest))
      refine .later (fun depth => Play.outcome_pumpUpTo_cons depth hq count)
        ((hw.ends_handle hqueue event).bind fun _ t ht => ?_)
      exact (ih ht).bind fun handled u hu => .of_outcome (fun _ => Play.outcome_pure _ u) hu

/-- **Every call ends.** -/
theorem World.Acyclic.ends_call (hs : s.Confined w) (c : Call) :
    Play.Ends (Confined w) (fun depth => c.play depth) s := by
  cases c with
  | handle event => exact hw.ends_handle hs event
  | goToScene id => exact hw.routine_ends (.scene id) s hs
  | loadStage id => exact hs.ends_loadStage (fun r _ => hw.routine_ends r) id
  | execute script => exact hw.script_ends hs script
  | post event =>
    exact .of_outcome (fun _ => Play.outcome_modify _ s) (hs.step (.move (.queue _)))
  | pump =>
    refine (Play.Ends.bind (.of_outcome (fun _ => Play.outcome_get s) hs) ?_).bind ?_
    · exact fun u t ht => hw.ends_pumpUpTo ht u.queue.length
    · exact fun _ t ht => .of_outcome (fun _ => Play.outcome_pure () t) ht
  | takeBatches =>
    exact .of_outcome (fun _ => Play.outcome_modify _ s) (hs.step (.move .reportBatches))
  | takeTimers =>
    exact .of_outcome (fun _ => Play.outcome_modify _ s) (hs.step (.move .reportTimers))

end Acyclic

/-! ## All sessions -/

section

variable {arrows : List String} {w : World} {s : Session}

/-- The parameters of a world that was accepted are its own. -/
theorem Session.parameters_begun (s : Session) (id : Uuid) (w : World) :
    (s.begun id w).catalog.parameters = w.parameters := by
  simp [begun, Catalog.addArrows_eq]

theorem Session.confined_begun (s : Session) (id : Uuid) (w : World) :
    (s.begun id w).Confined w where
  grounded := grounded_begun s id w
  awaited := awaited_begun s id w
  declared := declared_begun s id w
  world := by
    rintro _ ⟨⟩
    rfl
  parameters := .inl (parameters_begun s id w)

/-- The parameters of a session are those of its world, through restarts. -/
theorem Reached.parameters (h : Reached arrows s) :
    s.catalog.parameters = s.world.elim {} World.parameters := by
  have k : Keeps (.free fun _ _ => True)
      (fun s => s.catalog.parameters = s.world.elim {} World.parameters) fun _ s =>
      s.catalog.parameters = s.world.elim {} World.parameters :=
    .of_step fun _ hs hstep => by rw [hstep.extends.catalog.parameters, hstep.extends.world, hs]
  exact (k.reached (fun _ => rfl) (fun {s} _ id w => parameters_begun s id w) h).2

/-- **What a session knows was declared by its world**, through restarts. -/
theorem Reached.confined (h : Reached arrows s) (hw : ∀ v, s.world = some v → v = w) :
    s.Confined w where
  grounded := h.grounded
  awaited := h.declared.1
  declared := h.declared.2
  world := hw
  parameters := by
    rw [h.parameters]
    cases hworld : s.world with
    | none => exact .inr rfl
    | some v =>
      rw [hw v hworld]
      exact .inl rfl

/-- A start refuses the world, or loads its first stage. -/
theorem World.Acyclic.start_terminates (hw : w.Acyclic) (s : Session) (id : Uuid) :
    Play.Terminates (fun depth => Play.start depth id w) s := by
  have h := fun depth => Play.outcome_start s depth id w
  cases hvalid : w.validate with
  | error defect =>
    simp only [hvalid] at h
    exact ⟨0, _, fun depth _ => h depth⟩
  | ok =>
    cases hfirst : w.firstStage with
    | error defect =>
      simp only [hvalid, hfirst] at h
      exact ⟨0, _, fun depth _ => h depth⟩
    | ok first =>
      simp only [hvalid, hfirst] at h
      have hload := (confined_begun s id w).ends_loadStage (fun r _ => hw.routine_ends r) first.id
      exact (hload.later h).terminates

/-- **Acyclic worlds come to an end.**  Let no chain of calls of a world come back to its start,
where a procedure calls what any of the scripts declared for it calls, a scene what the scripts for
its entry call that are declared for its id, and a code what the load actions of all stages, the
scripts for wrong codes and those of the parameters call, and the first scenes of all stages.  Then
the world can be started in every session, and in every session of the world, through restarts, all
calls end, whatever script they are given: from some depth on, deeper nesting changes nothing. -/
theorem World.Acyclic.sessions_terminate (hw : w.Acyclic) :
    (∀ s id, Play.Terminates (fun depth => Play.start depth id w) s) ∧
      ∀ arrows s, Reached arrows s → (∀ v, s.world = some v → v = w) →
        ∀ c : Call, Play.Terminates (fun depth => c.play depth) s := by
  refine ⟨hw.start_terminates, ?_⟩
  intro arrows s hs hworld c
  exact (hw.ends_call (hs.confined hworld) c).terminates

/-- A mill whose crane submits a code, which can lead to the yard of the mill; there the mill grinds
at the first entry, and grinding leads to the loft. -/
def World.mill : World where
  stages := [
    { id := "mill"
      scenes := [
        { id := "yard"
          interactive := .ofList [("left", [.new (.runProcedure "hoist")])]
          procedures := .ofList [
            ("grind", [.new (.group [.new (.goToScene "loft")])]),
            ("hoist", [.new (.enterCode (some "crane") "up")])]
          firstEntryActions := [.new (.runProcedure "grind")] },
        { id := "loft"
          entryActions := [.new (.setVariable "ground" (.bool true))]
          wrongCodeActions := some [.new (.runProcedure "grind")] }] }]
  puzzles := .ofList [("crane", { code := some "down", stage := some "mill" })]

/-- The calls of the mill lead from the crane down to the loft. -/
theorem World.mill_acyclic : World.mill.Acyclic := by
  apply acyclic_of_rank fun
    | .procedure name => if name = "hoist" then 4 else 1
    | .submission => 3
    | .scene id => if id = "yard" then 2 else 0
  decide

set_option maxRecDepth 4096 in
/-- The mill can be started, and its crane comes to an end. -/
theorem sessions_terminate_mill :
    World.mill.Acyclic ∧ ∃ s, Reached ["left"] s ∧ s.player.currentScene = some "loft" ∧
      Play.Terminates (fun depth =>
        (Call.execute [.new (.runProcedure "hoist")]).play depth) s := by
  have hs := @Reached.start ["left"] _ _ 5 (.ofNat 1) .mill _ (.fresh (.ofNat 0)) rfl
  obtain ⟨-, hcalls⟩ := World.Acyclic.sessions_terminate World.mill_acyclic
  refine ⟨World.mill_acyclic, _, hs, rfl, hcalls _ _ hs ?_ _⟩
  rintro _ ⟨⟩
  rfl

end

end Adventure
