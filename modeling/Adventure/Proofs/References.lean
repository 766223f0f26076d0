import Adventure.Proofs.Registration
import Mathlib.Data.Set.Finite.Basic
import Mathlib.Logic.Relation

/-!
# What scripts call

Scripts call procedures, scenes and codes, and these run further scripts.  What a script calls can
be read off the world, without playing it: guards are left aside, and so are the scripts that an
action only puts by.  A world in which no chain of such calls comes back to its start is acyclic;
since a world declares finitely many scripts, all chains of calls end there.

## Main definitions

* `Routine`: what scripts can call
* `Script.calls`, `World.callsOf`: what is called by a script, and by the scripts behind a routine
* `World.Acyclic`: no routine calls itself, however long the way

## Main results

* `World.mem_routines_of_calls`: only what a world declares calls anything
* `World.Acyclic.wellFounded`: in an acyclic world all chains of calls end
* `World.acyclic_of_rank`: a world is acyclic if calls lead to lower ranks
-/

namespace Adventure

/-- What a script can call: a procedure, a scene that is entered, or a code that is submitted. -/
inductive Routine where
  | procedure (name : String)
  | scene (id : String)
  | submission
  deriving DecidableEq

/-! ## Calls of scripts -/

mutual

/-- What an effect calls.  The scripts for buttons and timers are put by, so what they call is not
called by the effect. -/
def Effect.calls : Effect → List Routine
  | .goToScene id => [.scene id]
  | .enterCode .. => [.submission]
  | .runProcedure name => [.procedure name]
  | .group next => Script.calls next
  | _ => []

/-- What a script calls, whatever its guards are. -/
def Script.calls : List Action → List Routine
  | [] => []
  | ⟨_, _, effect⟩ :: rest => effect.calls ++ Script.calls rest

end

/-! ## Calls within a world -/

/-- What is called when a stage becomes known: its load actions, and its first scene. -/
def Stage.calls (stage : Stage) : List Routine :=
  Script.calls stage.loadActions ++ (stage.scenes.head?.map fun scene => .scene scene.id).toList

namespace World

variable {w : World} {r r' : Routine} {d : Scene} {script : Script}

/-- What the scripts call that a world has for a routine: all that are declared for a procedure or
for the entry of a scene, and for codes those of all stages, those for wrong codes and those of the
parameters. -/
def callsOf (w : World) : Routine → List Routine
  | .procedure name =>
    w.scenes.flatMap fun scene => (scene.procedures.get? name).elim [] Script.calls
  | .scene id =>
    (w.scenes.filter fun scene => scene.id == id).flatMap fun scene =>
      Script.calls scene.firstEntryActions ++ Script.calls scene.entryActions
  | .submission =>
    w.stages.flatMap Stage.calls ++
      w.scenes.flatMap (fun scene => scene.wrongCodeActions.elim [] Script.calls) ++
      Script.calls w.parameters.wrongCodeActions ++ Script.calls w.parameters.rediscoveredActions

/-- A routine calls another one. -/
def Calls (w : World) (r r' : Routine) : Prop := r' ∈ w.callsOf r

/-- **Acyclic worlds**: no routine calls itself, neither at once nor through others. -/
def Acyclic (w : World) : Prop := ∀ r, ¬Relation.TransGen w.Calls r r

theorem calls_procedure (hd : d ∈ w.scenes) {name : String}
    (h : d.procedures.get? name = some script) (hr : r ∈ Script.calls script) :
    w.Calls (.procedure name) r :=
  List.mem_flatMap.2 ⟨d, hd, by rwa [h]⟩

theorem calls_entry (hd : d ∈ w.scenes)
    (hr : r ∈ Script.calls d.firstEntryActions ∨ r ∈ Script.calls d.entryActions) :
    w.Calls (.scene d.id) r :=
  List.mem_flatMap.2 ⟨d, List.mem_filter.2 ⟨hd, by simp⟩, List.mem_append.2 hr⟩

theorem calls_stage {stage : Stage} (hstage : stage ∈ w.stages) (hr : r ∈ stage.calls) :
    w.Calls .submission r := by
  have hmem : r ∈ w.stages.flatMap Stage.calls := List.mem_flatMap.2 ⟨stage, hstage, hr⟩
  simp [Calls, callsOf, hmem]

theorem calls_wrongCode (hd : d ∈ w.scenes) (h : d.wrongCodeActions = some script)
    (hr : r ∈ Script.calls script) : w.Calls .submission r := by
  have hmem : r ∈ w.scenes.flatMap fun scene => scene.wrongCodeActions.elim [] Script.calls :=
    List.mem_flatMap.2 ⟨d, hd, by rwa [h]⟩
  simp [Calls, callsOf, hmem]

theorem calls_default (hr : r ∈ Script.calls w.parameters.wrongCodeActions ∨
    r ∈ Script.calls w.parameters.rediscoveredActions) : w.Calls .submission r := by
  rcases hr with hr | hr <;> simp [Calls, callsOf, hr]

/-- The routines that a world declares. -/
def routines (w : World) : List Routine :=
  .submission :: w.scenes.flatMap fun scene =>
    .scene scene.id :: scene.procedures.keys.map .procedure

theorem mem_routines_of_scene (hd : d ∈ w.scenes) : .scene d.id ∈ w.routines :=
  .tail _ (List.mem_flatMap.2 ⟨d, hd, .head _⟩)

theorem mem_routines_of_procedure (hd : d ∈ w.scenes) {name : String}
    (h : d.procedures.get? name = some script) : .procedure name ∈ w.routines := by
  have hkey : name ∈ d.procedures.keys := Table.mem_keys_iff.2 (Table.contains_of_get? h)
  exact .tail _ (List.mem_flatMap.2 ⟨d, hd, .tail _ (List.mem_map.2 ⟨name, hkey, rfl⟩)⟩)

/-- **Only what a world declares calls anything.** -/
theorem mem_routines_of_calls (h : w.Calls r r') : r ∈ w.routines := by
  cases r with
  | submission => exact .head _
  | scene id =>
    obtain ⟨d, hd, -⟩ := List.mem_flatMap.1 h
    obtain ⟨hmem, hid⟩ := List.mem_filter.1 hd
    obtain rfl : d.id = id := by simpa using hid
    exact mem_routines_of_scene hmem
  | procedure name =>
    obtain ⟨d, hd, hcalls⟩ := List.mem_flatMap.1 h
    cases hget : d.procedures.get? name with
    | none =>
      rw [hget] at hcalls
      cases hcalls
    | some script => exact mem_routines_of_procedure hd hget

/-- **In an acyclic world all chains of calls end.** -/
theorem Acyclic.wellFounded (hw : w.Acyclic) : WellFounded fun r' r => w.Calls r r' := by
  -- Among the routines that are declared, of which there are finitely many, chains come to an end.
  let Reaches (a b : { r // r ∈ w.routines }) : Prop := Relation.TransGen w.Calls b.1 a.1
  have : IsTrans _ Reaches := ⟨fun _ _ _ h h' => h'.trans h⟩
  have : Std.Irrefl Reaches := ⟨fun a => hw a.1⟩
  have : Finite { r // r ∈ w.routines } := w.routines.finite_toSet
  have hdeclared : WellFounded Reaches := Finite.wellFounded_of_trans_of_irrefl _
  -- The others call nothing.
  have hother : ∀ r, r ∉ w.routines → Acc (fun r' r => w.Calls r r') r := fun r hr =>
    ⟨r, fun _ hcalls => absurd (mem_routines_of_calls hcalls) hr⟩
  have hacc : ∀ a : { r // r ∈ w.routines }, Acc (fun r' r => w.Calls r r') a.1 := by
    intro a
    induction a using hdeclared.induction with
    | _ a ih =>
      refine ⟨a.1, fun r hcalls => ?_⟩
      by_cases hr : r ∈ w.routines
      · exact ih ⟨r, hr⟩ (.single hcalls)
      · exact hother r hr
  refine ⟨fun r => ?_⟩
  by_cases hr : r ∈ w.routines
  · exact hacc ⟨r, hr⟩
  · exact hother r hr

/-- **A world is acyclic** if its routines can be ranked so that calls lead to lower ranks. -/
theorem acyclic_of_rank (rank : Routine → Nat)
    (h : ∀ r ∈ w.routines, ∀ r' ∈ w.callsOf r, rank r' < rank r) : w.Acyclic := by
  have hcalls : ∀ {r r'}, Relation.TransGen w.Calls r r' → rank r' < rank r := by
    intro r r' hchain
    induction hchain with
    | single hcall => exact h _ (mem_routines_of_calls hcall) _ hcall
    | tail _ hcall ih => exact (h _ (mem_routines_of_calls hcall) _ hcall).trans ih
  intro r hr
  exact Nat.lt_irrefl _ (hcalls hr)

end World

end Adventure
