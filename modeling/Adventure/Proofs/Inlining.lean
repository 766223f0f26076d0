import Adventure.Proofs.Depth
import Adventure.Proofs.Growth
import Adventure.Proofs.Oblivion
import Mathlib.Data.List.Forall2

/-!
# Groups and procedures written out

A group without a guard does what its actions do in its place, and so does a procedure without a
guard, since what a name stands for never changes once it is known.  Neither is more than a way of
writing: where they are written out, at any place and to any depth, a script ends with the same
value or error, gives the same cues and leaves the same session.

Scripts that wait, for a button or for a timer, are not run yet.  They may be written out as well,
and then this is all in which the sessions differ that are left.

## Main definitions

* `Action.body? procedures a`: the script that a group or a procedure without a guard stands for
* `Script.WritesOut procedures later script written`: some of these are written out, and scripts
  that wait are replaced as `later` says
* `Script.flatten`, `Script.flattenAll`: all of them are written out, to some depth; in the second
  case also in scripts that wait
* `Session.UpTo later s u`: the same sessions but for the scripts that wait

## Main results

* `Session.blind_upTo`: nothing looks at the scripts that wait
* `Script.WritesOut.covers`, `Script.WritesOut.covered`: the script that is written out does what
  the other one does, and the other way round
* `Reached.writing_out_transparent`: both in every session that can be reached
-/

namespace Adventure

open Session

/-! ## Scripts that are written out -/

/-- The script that an action without a guard stands for: that of a group, or that of a procedure
which is known. -/
def Action.body? (procedures : Table Script) : Action → Option Script
  | ⟨_, none, .group next⟩ => some next
  | ⟨_, none, .runProcedure name⟩ => procedures.get? name
  | _ => none

/-- An effect with another script for a group and with other scripts that wait. -/
def Effect.mapScripts (now later : Script → Script) : Effect → Effect
  | .group next => .group (now next)
  | .blockingText text button next => .blockingText text button (later next)
  | .alternative text scripts buttons => .alternative text (scripts.map later) buttons
  | .delayed delay next => .delayed delay (later next)
  | effect => effect

/-- What is written in place of an action. -/
def Action.writtenOut (procedures : Table Script) (now later : Script → Script) (a : Action) :
    Script :=
  match a.body? procedures with
  | some next => now next
  | none => [{ a with effect := a.effect.mapScripts now later }]

namespace Script

/-- The script with groups and procedures written out wherever they are run at once, nested up to
the given depth. -/
def flatten (procedures : Table Script) : Nat → Script → Script
  | 0, script => script
  | depth + 1, script =>
    script.flatMap (Action.writtenOut procedures (flatten procedures depth) id)

/-- The script with groups and procedures written out everywhere, nested up to the given depth. -/
def flattenAll (procedures : Table Script) : Nat → Script → Script
  | 0, script => script
  | depth + 1, script =>
    script.flatMap (Action.writtenOut procedures (flattenAll procedures depth)
      (flattenAll procedures depth))

end Script

/-- Two effects are the same but for the scripts that wait. -/
inductive Effect.UpTo (later : Script → Script → Prop) : Effect → Effect → Prop where
  | refl (effect : Effect) : UpTo later effect effect
  | blockingText {text : String} {button : Option String} {next next' : Script}
      (h : later next next') :
      UpTo later (.blockingText text button next) (.blockingText text button next')
  | alternative {text : String} {buttons : List String} {scripts scripts' : List Script}
      (h : scripts.Forall₂ later scripts') :
      UpTo later (.alternative text scripts buttons) (.alternative text scripts' buttons)
  | delayed {delay : Double} {next next' : Script} (h : later next next') :
      UpTo later (.delayed delay next) (.delayed delay next')

/-- **Some groups and procedures are written out**, and scripts that wait are replaced as `later`
says. -/
inductive Script.WritesOut (procedures : Table Script) (later : Script → Script → Prop) :
    Script → Script → Prop where
  | nil : WritesOut procedures later [] []
  | keep {tag : String} {guard : Option Guard} {effect effect' : Effect} {rest rest' : Script}
      (heffect : effect.UpTo later effect') (hrest : WritesOut procedures later rest rest') :
      WritesOut procedures later (⟨tag, guard, effect⟩ :: rest) (⟨tag, guard, effect'⟩ :: rest')
  | within {tag : String} {guard : Option Guard} {next next' rest rest' : Script}
      (hnext : WritesOut procedures later next next')
      (hrest : WritesOut procedures later rest rest') :
      WritesOut procedures later (⟨tag, guard, .group next⟩ :: rest)
        (⟨tag, guard, .group next'⟩ :: rest')
  | splice {a : Action} {next next' rest rest' : Script} (hbody : a.body? procedures = some next)
      (hnext : WritesOut procedures later next next')
      (hrest : WritesOut procedures later rest rest') :
      WritesOut procedures later (a :: rest) (next' ++ rest')

namespace Script.WritesOut

variable {procedures : Table Script} {later : Script → Script → Prop}

/-- Nothing need be written out. -/
theorem refl (script : Script) : WritesOut procedures later script script := by
  induction script with
  | nil => exact .nil
  | cons a script ih =>
    obtain ⟨tag, guard, effect⟩ := a
    exact .keep (.refl effect) ih

/-- A script with what is written in place of each of its actions. -/
theorem flatMap {now after : Script → Script}
    (hnow : ∀ script, WritesOut procedures later script (now script))
    (hlater : ∀ script, later script (after script)) (script : Script) :
    WritesOut procedures later script
      (script.flatMap (Action.writtenOut procedures now after)) := by
  induction script with
  | nil => exact .nil
  | cons a script ih =>
    rw [List.flatMap_cons, Action.writtenOut]
    cases hbody : a.body? procedures with
    | some next => exact .splice hbody (hnow next) ih
    | none =>
      obtain ⟨tag, guard, effect⟩ := a
      cases effect with
      | group next => exact .within (hnow next) ih
      | blockingText text button next => exact .keep (.blockingText (hlater next)) ih
      | alternative text scripts buttons =>
        have hscripts : scripts.Forall₂ later (scripts.map after) :=
          List.forall₂_map_right_iff.2 (List.forall₂_same.2 fun next _ => hlater next)
        exact .keep (.alternative hscripts) ih
      | delayed delay next => exact .keep (.delayed (hlater next)) ih
      | _ => exact .keep (.refl _) ih

end Script.WritesOut

/-- A script is written out where it is run at once. -/
theorem Script.writesOut_flatten (procedures : Table Script) (depth : Nat) (script : Script) :
    WritesOut procedures Eq script (script.flatten procedures depth) := by
  induction depth generalizing script with
  | zero => exact .refl script
  | succ depth ih => exact .flatMap ih (fun _ => rfl) script

/-- A script is written out everywhere. -/
theorem Script.writesOut_flattenAll (procedures : Table Script) (depth : Nat) (script : Script) :
    WritesOut procedures (fun next next' => ∃ depth, next' = next.flattenAll procedures depth)
      script (script.flattenAll procedures depth) := by
  induction depth generalizing script with
  | zero => exact .refl script
  | succ depth ih => exact .flatMap ih (fun _ => ⟨depth, rfl⟩) script

/-! ## Sessions in which other scripts wait -/

section Scripts

variable {later : Script → Script → Prop} {x y : Option (List Script)}

theorem rel_flip (h : Option.Rel (List.Forall₂ later) x y) :
    Option.Rel (List.Forall₂ (flip later)) y x := by
  cases h with
  | none => exact .none
  | some hscripts => exact .some hscripts.flip

theorem eq_of_rel (h : Option.Rel (List.Forall₂ Eq) x y) : x = y := by
  cases h with
  | none => rfl
  | some hscripts =>
    rw [List.forall₂_eq_eq_eq] at hscripts
    rw [hscripts]

/-- Whether scripts wait does not depend on the scripts. -/
theorem map_const_of_rel {α : Type} (h : Option.Rel (List.Forall₂ later) x y) (a : α) :
    (x.map fun _ => a) = y.map fun _ => a := by
  cases h <;> rfl

end Scripts

namespace Session

/-- The session in which no script waits. -/
def idle (s : Session) : Session :=
  { s with player := { s.player with pending := none }, pendingTimers := [] }

/-- Two sessions are the same but for the scripts that wait. -/
structure UpTo (later : Script → Script → Prop) (s u : Session) : Prop where
  rest : s.idle = u.idle
  pending : Option.Rel (List.Forall₂ later) s.player.pending u.player.pending
  timers : s.pendingTimers.Forall₂ (fun e e' => e.1 = e'.1 ∧ later e.2 e'.2) u.pendingTimers

variable {later : Script → Script → Prop} {s u : Session}

theorem UpTo.refl (hlater : ∀ script, later script script) (s : Session) : s.UpTo later s where
  rest := rfl
  pending := by
    cases s.player.pending with
    | none => exact .none
    | some scripts => exact .some (List.forall₂_same.2 fun script _ => hlater script)
  timers := List.forall₂_same.2 fun e _ => ⟨rfl, hlater e.2⟩

/-- The other way round. -/
theorem UpTo.flip (h : s.UpTo later u) : u.UpTo (flip later) s where
  rest := h.rest.symm
  pending := rel_flip h.pending
  timers := h.timers.flip.imp fun _ _ he => ⟨he.1.symm, he.2⟩

/-- If the same scripts wait, then nothing differs. -/
theorem upTo_eq_iff : s.UpTo Eq u ↔ s = u := by
  constructor
  · intro h
    have hpending : s.player.pending = u.player.pending := eq_of_rel h.pending
    have htimers : s.pendingTimers = u.pendingTimers := by
      have hall := h.timers.imp fun _ _ he => Prod.ext he.1 he.2
      rwa [List.forall₂_eq_eq_eq] at hall
    have hself : ∀ s : Session, s = { s.idle with
        player := { s.idle.player with pending := s.player.pending }
        pendingTimers := s.pendingTimers } := fun _ => rfl
    rw [hself s, hself u, h.rest, hpending, htimers]
  · rintro rfl
    exact .refl (fun _ => rfl) s

/-- Sessions stay the same if the same is done to both, and no script comes or goes. -/
theorem UpTo.update (h : s.UpTo later u) {f : Session → Session}
    (hrest : ∀ s : Session, (f s.idle).idle = (f s).idle)
    (hpending : ∀ s : Session, (f s).player.pending = s.player.pending)
    (htimers : ∀ s : Session, (f s).pendingTimers = s.pendingTimers) :
    (f s).UpTo later (f u) where
  rest := by rw [← hrest s, h.rest, hrest u]
  pending := by rw [hpending, hpending]; exact h.pending
  timers := by rw [htimers, htimers]; exact h.timers

/-- Other messages are opened. -/
theorem UpTo.opened (h : s.UpTo later u) {scripts scripts' : Option (List Script)}
    (hscripts : Option.Rel (List.Forall₂ later) scripts scripts') :
    (s.withPlayer { s.player with pending := scripts }).UpTo later
      (u.withPlayer { u.player with pending := scripts' }) where
  rest := h.rest
  pending := hscripts
  timers := h.timers

/-- Timers are armed for other scripts. -/
theorem UpTo.scheduled (h : s.UpTo later u) (duration : Duration) {script script' : Script}
    (hscript : later script script') :
    (s.scheduled duration script).UpTo later (u.scheduled duration script') where
  rest := by
    show (s.idle.scheduled duration []).idle = (u.idle.scheduled duration []).idle
    rw [h.rest]
  pending := h.pending
  timers := by
    have hcount : s.timerCount = u.timerCount := congrArg (·.timerCount) h.rest
    exact List.rel_append h.timers (.cons ⟨hcount, hscript⟩ .nil)

/-- **Nothing looks at the scripts that wait** before they are run. -/
theorem blind_upTo (hlater : ∀ script, later script script) : Blind (UpTo later) where
  view {s u} h := by
    have hview : ∀ s : Session, s.view = { s.idle.view with
        player := { s.idle.view.player with pending := s.player.pending.map fun _ => [] } } :=
      fun _ => rfl
    rw [hview s, hview u, h.rest, map_const_of_rel h.pending []]
  cued {_ _ c} h _ := h.update (f := fun s => s.cued [c]) (fun _ => rfl) (fun _ => rfl)
    fun _ => rfl
  noted n h := h.update (f := fun s => s.noted n) (fun _ => rfl) (fun _ => rfl) fun _ => rfl
  changed f h hf := h.update (f := fun s => s.withPlayer (f s.player))
    (fun s => by
      have hidle := congrArg (fun p => (s.withPlayer p).idle) (hf.withPending s.player none)
      exact hidle)
    (fun s => hf.pending s.player) fun _ => rfl
  opened scripts h := by
    refine h.opened ?_
    cases scripts with
    | none => exact .none
    | some scripts => exact .some (List.forall₂_same.2 fun script _ => hlater script)
  recorded puzzle code h := h.update
    (f := fun s => s.withPlayer (s.player.recordAnswer puzzle code)) (fun _ => rfl)
    (fun _ => rfl) fun _ => rfl
  shown scene h := by
    have hinput := congrArg (fun s : Session => s.codeInput? scene) h.rest
    exact rel_codeInput? hinput fun c _ =>
      h.update (f := fun s => s.cued [c]) (fun _ => rfl) (fun _ => rfl) fun _ => rfl
  learned f h := h.update (f := fun s => s.withCatalog (f s.catalog)) (fun _ => rfl)
    (fun _ => rfl) fun _ => rfl
  noticed isOpen h := h.update (f := fun s => s.withNotice isOpen) (fun _ => rfl)
    (fun _ => rfl) fun _ => rfl
  batched stage h := h.update (f := fun s => s.batched stage) (fun _ => rfl) (fun _ => rfl)
    fun _ => rfl
  scheduled duration script h := h.scheduled duration (hlater script)

end Session

/-! ## One operation covers another one -/

/-- The procedures in a table are known to a catalog. -/
def Catalog.Defines (procedures : Table Script) (c : Catalog) : Prop :=
  ∀ {name : String} {script : Script}, procedures.get? name = some script →
    c.procedures.get? name = some script

/-- The procedures in a table are known to a session, and scripts can be run in it. -/
structure Session.Defines (procedures : Table Script) (s : Session) : Prop where
  grounded : s.Grounded
  catalog : s.catalog.Defines procedures

/-- What is known stays known while scripts are run. -/
theorem Session.Defines.execute {procedures : Table Script} {s t : Session} {script : Script}
    {r : Except Error Unit} {depth : Nat} (hs : s.Defines procedures)
    (h : (Play.execute depth script).outcome s = some (r, t)) : t.Defines procedures := by
  obtain ⟨ht, hextends⟩ :=
    (keeps_extends s).call_inv hs.grounded (.refl s) (c := .execute script) h
  exact ⟨ht, fun hname => hextends.catalog.procedures (hs.catalog hname)⟩

namespace Play

variable {procedures : Table Script} {later : Script → Script → Prop}
  {p q q' : Play Unit} {script script' next next' rest rest' : Script} {a : Action}
  {depth depth' : Nat} {s : Session}

/-- Whatever one operation answers where procedures are known, another one answers as well, and
leaves the same but for the scripts that wait. -/
def CoveredBy (procedures : Table Script) (later : Script → Script → Prop) (p q : Play Unit) :
    Prop :=
  ∀ s u r t, s.Defines procedures → s.UpTo later u → p.outcome s = some (r, t) →
    ∃ v, q.outcome u = some (r, v) ∧ t.UpTo later v

theorem CoveredBy.of_related (h : p.Related (UpTo later) q) : p.CoveredBy procedures later q :=
  fun _ _ _ _ _ hs hp => h.answer hs hp

theorem CoveredBy.below (h : p.CoveredBy procedures later q) (hq : q.Below q') :
    p.CoveredBy procedures later q' := by
  intro s u r t hdefines hs hp
  obtain ⟨v, hv, ht⟩ := h s u r t hdefines hs hp
  exact ⟨v, hq u _ hv, ht⟩

/-- A script that may be nested deeper covers as much. -/
theorem CoveredBy.deeper (h : p.CoveredBy procedures later (execute depth script))
    (hle : depth ≤ depth') : p.CoveredBy procedures later (execute depth' script) :=
  h.below (execute_below hle script)

/-- A script is run after another one, at every depth. -/
theorem outcome_execute_append (depth : Nat) (script rest : Script) (s : Session) :
    (execute depth (script ++ rest)).outcome s =
      andThen ((execute depth script).outcome s) fun _ => execute depth rest := by
  cases depth with
  | zero => rfl
  | succ depth => exact outcome_forM_append _ script rest s

/-- **Scripts one after the other** are covered if each of them is. -/
theorem CoveredBy.append
    (h : (execute depth script).CoveredBy procedures later (execute depth' script'))
    (hrest : (execute depth rest).CoveredBy procedures later (execute depth' rest')) :
    (execute depth (script ++ rest)).CoveredBy procedures later
      (execute depth' (script' ++ rest')) := by
  intro s u r t hdefines hs hp
  rw [outcome_execute_append] at hp ⊢
  cases hfirst : (execute depth script).outcome s with
  | none =>
    rw [hfirst] at hp
    cases hp
  | some o =>
    obtain ⟨r₁, t₁⟩ := o
    obtain ⟨v₁, hv₁, ht₁⟩ := h s u r₁ t₁ hdefines hs hfirst
    rw [hfirst] at hp
    rw [hv₁]
    cases r₁ with
    | error e =>
      -- An error ends both scripts at the same place.
      cases hp
      exact ⟨v₁, rfl, ht₁⟩
    | ok => exact hrest t₁ v₁ r t (hdefines.execute hfirst) ht₁ hp

/-- A script of one action is this action. -/
theorem outcome_execute_singleton (depth : Nat) (a : Action) (s : Session) :
    (execute (depth + 1) [a]).outcome s = (step (execute depth) a).outcome s := by
  refine (outcome_forM_cons _ a [] s).trans ?_
  cases (step (execute depth) a).outcome s with
  | none => rfl
  | some o =>
    obtain ⟨r, t⟩ := o
    cases r <;> rfl

/-- **A group or a procedure without a guard** does what the script does that it stands for. -/
theorem outcome_execute_body (hs : s.catalog.Defines procedures)
    (h : a.body? procedures = some next) :
    (execute (depth + 1) [a]).outcome s = (execute depth next).outcome s := by
  rw [outcome_execute_singleton, outcome_step]
  unfold Action.body? at h
  split at h
  · cases h
    rfl
  · next name =>
    have hlook : s.catalog.procedure name = .ok next := by
      simp only [Catalog.procedure, Catalog.look, hs h]
    simp only [Action.passes, perform, outcome_bind, outcome_ask, hlook, andThen_ok]
  · cases h

/-! ## What is written out covers what was written -/

/-- An action is covered if the script is that it stands for. -/
theorem CoveredBy.splice_left (hbody : a.body? procedures = some next)
    (h : ∀ depth, (execute depth next).CoveredBy procedures later (execute depth script)) :
    (execute depth [a]).CoveredBy procedures later (execute depth script) := by
  intro s u r t hdefines hs hp
  cases depth with
  | zero => cases hp
  | succ depth =>
    -- The action takes one level of the depth, and the script in its place takes none.
    rw [outcome_execute_body hdefines.catalog hbody] at hp
    exact (h depth).deeper (Nat.le_succ depth) s u r t hdefines hs hp

/-- An action covers what the script covers that it stands for. -/
theorem CoveredBy.splice_right (hbody : a.body? procedures = some next)
    (h : p.CoveredBy procedures later (execute depth next)) :
    p.CoveredBy procedures later (execute (depth + 1) [a]) := by
  intro s u r t hdefines hs hp
  have hcatalog : s.catalog = u.catalog := congrArg (·.catalog) hs.rest
  rw [outcome_execute_body (hcatalog ▸ hdefines.catalog) hbody]
  exact h s u r t hdefines hs hp

section Blind

variable (hlater : ∀ script, later script script)
include hlater

/-- A group is covered if its script is, whatever its guard says. -/
theorem CoveredBy.within (tag : String) (guard : Option Guard) (deeper : Nat)
    (h : ∀ depth, (execute depth next).CoveredBy procedures later
      (execute (depth + deeper) next')) :
    (execute depth [⟨tag, guard, .group next⟩]).CoveredBy procedures later
      (execute (depth + deeper) [⟨tag, guard, .group next'⟩]) := by
  intro s u r t hdefines hs hp
  cases depth with
  | zero => cases hp
  | succ depth =>
    have hpasses : Action.passes s.player ⟨tag, guard, .group next⟩ =
        Action.passes u.player ⟨tag, guard, .group next'⟩ :=
      (blind_upTo hlater).read hs (fun s => Action.passes s.player ⟨tag, guard, .group next⟩)
        fun s => Action.passes_masked s.player _
    rw [Nat.succ_add, outcome_execute_singleton, outcome_step] at *
    rw [← hpasses]
    cases hguard : Action.passes s.player ⟨tag, guard, .group next⟩ with
    | error e =>
      rw [hguard] at hp
      cases hp
      exact ⟨u, rfl, hs⟩
    | ok passes =>
      rw [hguard] at hp
      cases passes with
      | false =>
        cases hp
        exact ⟨u, rfl, hs⟩
      | true => exact h depth s u r t hdefines hs hp

/-- Effects that are the same but for scripts that wait do the same. -/
theorem related_perform {effect effect' : Effect} (heffect : effect.UpTo later effect')
    (tag : String) (guard : Option Guard) :
    (perform (execute depth) ⟨tag, guard, effect⟩).Related (UpTo later)
      (perform (execute depth) ⟨tag, guard, effect'⟩) := by
  have k := blind_upTo hlater
  have hshow : ∀ (text : String) (buttons : List String) {scripts scripts' : List Script},
      scripts.Forall₂ later scripts' →
      (showBlocking text buttons scripts).Related (UpTo later)
        (showBlocking text buttons scripts') := by
    intro text buttons scripts scripts' hscripts
    apply (k.message none).bind
    intro _
    apply (k.notice false).bind
    intro _
    apply (k.cue rfl).bind
    intro _
    apply (k.hideScene false).bind
    intro _
    exact fun s u hs => .some ⟨rfl, hs.opened (.some hscripts)⟩
  cases heffect with
  | refl => exact k.perform (fun script => k.execute depth script) _
  | @blockingText text button next next' h =>
    apply Related.get
    intro s u hs
    rw [k.catalog_eq hs]
    exact hshow text _ (.cons h .nil)
  | @alternative text buttons scripts scripts' h =>
    dsimp only [perform]
    rw [h.length_eq]
    exact .ite ((Related.throw _).bind fun _ => hshow text buttons h) (hshow text buttons h)
  | @delayed delay next next' h =>
    intro s u hs
    show Option.Rel _ ((schedule delay next).outcome s) ((schedule delay next').outcome u)
    rw [outcome_schedule, outcome_schedule]
    cases Duration.ofMilliseconds? delay with
    | none => exact .some ⟨rfl, hs⟩
    | some duration => exact .some ⟨rfl, hs.scheduled duration h⟩

/-- Actions that are the same but for scripts that wait do the same. -/
theorem related_singleton {effect effect' : Effect} (heffect : effect.UpTo later effect')
    (tag : String) (guard : Option Guard) (depth : Nat) :
    (execute depth [⟨tag, guard, effect⟩]).Related (UpTo later)
      (execute depth [⟨tag, guard, effect'⟩]) := by
  cases depth with
  | zero => exact .unanswered
  | succ depth =>
    have hpasses : Play.Oblivious (UpTo later)
        (ask fun s => Action.passes s.player ⟨tag, guard, effect⟩) :=
      (blind_upTo hlater).ask fun s => Action.passes_masked s.player _
    have hstep : (step (execute depth) ⟨tag, guard, effect⟩).Related (UpTo later)
        (step (execute depth) ⟨tag, guard, effect'⟩) :=
      hpasses.bind fun _ => .ite (related_perform hlater heffect tag guard) (.pure ())
    exact hstep.bind fun _ => .pure ()

end Blind

end Play

open Play

/-- The other way round. -/
theorem Effect.UpTo.flip {later : Script → Script → Prop} {effect effect' : Effect}
    (h : effect.UpTo later effect') : effect'.UpTo (flip later) effect := by
  cases h with
  | refl => exact .refl _
  | blockingText h => exact .blockingText h
  | alternative h => exact .alternative h.flip
  | delayed h => exact .delayed h

namespace Script.WritesOut

variable {procedures : Table Script} {later : Script → Script → Prop} {script written : Script}

/-- **What a script answers, it answers when it is written out**, with scripts nested as deep. -/
theorem covers (hlater : ∀ script, later script script)
    (h : WritesOut procedures later script written) (depth : Nat) :
    (execute depth script).CoveredBy procedures later (execute depth written) := by
  induction h generalizing depth with
  | nil => exact .of_related ((blind_upTo hlater).execute depth [])
  | keep heffect _ ih =>
    exact (CoveredBy.of_related (related_singleton hlater heffect _ _ depth)).append (ih depth)
  | within _ _ ihnext ihrest =>
    exact (CoveredBy.within hlater _ _ 0 ihnext).append (ihrest depth)
  | splice hbody _ _ ihnext ihrest =>
    exact (CoveredBy.splice_left hbody ihnext).append (ihrest depth)

/-- **What a script answers when it is written out, it answers as it was written**, with scripts
nested somewhat deeper. -/
theorem covered (hlater : ∀ script, later script script)
    (h : WritesOut procedures later script written) :
    ∃ deeper, ∀ depth, (execute depth written).CoveredBy procedures (flip later)
      (execute (depth + deeper) script) := by
  have hflip : ∀ script, flip later script script := hlater
  induction h with
  | nil => exact ⟨0, fun depth => .of_related ((blind_upTo hflip).execute depth [])⟩
  | @keep tag guard effect effect' rest rest' heffect _ ih =>
    obtain ⟨deeper, hrest⟩ := ih
    refine ⟨deeper, fun depth => ?_⟩
    have hfirst : (execute depth [⟨tag, guard, effect'⟩]).CoveredBy procedures (flip later)
        (execute depth [⟨tag, guard, effect⟩]) :=
      .of_related (related_singleton hflip heffect.flip tag guard depth)
    exact (hfirst.deeper (Nat.le_add_right depth deeper)).append (hrest depth)
  | @within tag guard next next' rest rest' _ _ ihnext ihrest =>
    obtain ⟨deeper₁, hnext⟩ := ihnext
    obtain ⟨deeper₂, hrest⟩ := ihrest
    refine ⟨max deeper₁ deeper₂, fun depth => ?_⟩
    have hfirst : (execute depth [⟨tag, guard, .group next'⟩]).CoveredBy procedures (flip later)
        (execute (depth + deeper₁) [⟨tag, guard, .group next⟩]) :=
      .within hflip tag guard deeper₁ hnext
    exact (hfirst.deeper (by omega)).append ((hrest depth).deeper (by omega))
  | splice hbody _ _ ihnext ihrest =>
    -- What is written out stood one level deeper.
    obtain ⟨deeper₁, hnext⟩ := ihnext
    obtain ⟨deeper₂, hrest⟩ := ihrest
    refine ⟨max (deeper₁ + 1) deeper₂, fun depth => ?_⟩
    have hfirst := CoveredBy.splice_right hbody (hnext depth)
    exact (hfirst.deeper (by omega)).append ((hrest depth).deeper (by omega))

end Script.WritesOut

/-! ## Sessions that can be reached -/

section Reached

variable {arrows : List String} {s : Session}

theorem Reached.defines (hs : Reached arrows s) : s.Defines s.catalog.procedures :=
  ⟨hs.grounded, id⟩

/-- **Groups and procedures are no more than a way of writing.**  In every session, whatever groups
and procedures without a guard are written out in a script, at whatever places: if it is run at
once, then it ends as it did before, with the same value or error and the same session, the log of
the cues included.  If scripts that wait are replaced as well, then the session differs in these
scripts only.  This covers the scripts in which all of them are written out to some depth. -/
theorem Reached.writing_out_transparent (hs : Reached arrows s) (script : Script) :
    (∀ written, script.WritesOut s.catalog.procedures Eq written →
      ∀ o, (∃ depth, (execute depth script).outcome s = some o) ↔
        ∃ depth, (execute depth written).outcome s = some o) ∧
    (∀ later : Script → Script → Prop, (∀ script, later script script) →
      ∀ written, script.WritesOut s.catalog.procedures later written → ∀ r,
        (∀ depth t, (execute depth script).outcome s = some (r, t) →
          ∃ depth' u, (execute depth' written).outcome s = some (r, u) ∧ t.UpTo later u) ∧
        (∀ depth u, (execute depth written).outcome s = some (r, u) →
          ∃ depth' t, (execute depth' script).outcome s = some (r, t) ∧ t.UpTo later u)) ∧
    ∀ depth,
      script.WritesOut s.catalog.procedures Eq (script.flatten s.catalog.procedures depth) ∧
      script.WritesOut s.catalog.procedures
        (fun next next' => ∃ depth, next' = next.flattenAll s.catalog.procedures depth)
        (script.flattenAll s.catalog.procedures depth) := by
  have hboth : ∀ later : Script → Script → Prop, (∀ script, later script script) →
      ∀ written, script.WritesOut s.catalog.procedures later written → ∀ r,
        (∀ depth t, (execute depth script).outcome s = some (r, t) →
          ∃ depth' u, (execute depth' written).outcome s = some (r, u) ∧ t.UpTo later u) ∧
        (∀ depth u, (execute depth written).outcome s = some (r, u) →
          ∃ depth' t, (execute depth' script).outcome s = some (r, t) ∧ t.UpTo later u) := by
    intro later hlater written h r
    constructor
    · intro depth t ht
      obtain ⟨u, hu, hupTo⟩ := h.covers hlater depth s s r t hs.defines (.refl hlater s) ht
      exact ⟨depth, u, hu, hupTo⟩
    · intro depth u hu
      have hself := (UpTo.refl hlater s).flip
      obtain ⟨deeper, hcovered⟩ := h.covered hlater
      obtain ⟨t, ht, hupTo⟩ := hcovered depth s s r u hs.defines hself hu
      exact ⟨depth + deeper, t, ht, hupTo.flip⟩
  refine ⟨fun written h o => ?_, hboth, fun depth =>
    ⟨script.writesOut_flatten _ depth, script.writesOut_flattenAll _ depth⟩⟩
  obtain ⟨r, v⟩ := o
  obtain ⟨hforth, hback⟩ := hboth Eq (fun _ => rfl) written h r
  constructor
  · rintro ⟨depth, ht⟩
    obtain ⟨depth', u, hu, hupTo⟩ := hforth depth v ht
    exact ⟨depth', upTo_eq_iff.1 hupTo ▸ hu⟩
  · rintro ⟨depth, hu⟩
    obtain ⟨depth', t, ht, hupTo⟩ := hback depth v hu
    exact ⟨depth', upTo_eq_iff.1 hupTo ▸ ht⟩

/-- A belfry whose bell is rung by a procedure. -/
def World.belfry : World where
  stages := [
    { id := "tower"
      scenes := [
        { id := "belfry"
          procedures := .ofList [
            ("toll", [.new (.setVariable "tolled" (.bool true)),
              .new (.group [.new (.showText "Dong.")])])] }] }]

/-- The bell is rung within a group, something is to happen later, and then a counter is missing. -/
def Script.tolling : Script := [
  .new (.group [.new (.runProcedure "toll")]),
  .new (.delayed (.ofInt 1000) [.new (.group [.new .hideInteractive])]),
  .new (.incrementVariable "tolls" (.int 1)),
  .new (.showText "Silence.")]

set_option maxRecDepth 4096 in
/-- The bell tolls as well without the procedure and the groups, up to the counter that is
missing. -/
theorem writing_out_transparent_belfry :
    ∃ s t, Reached ["left"] s ∧
      Script.tolling.flatten s.catalog.procedures 3 = [
        .new (.setVariable "tolled" (.bool true)),
        .new (.showText "Dong."),
        .new (.delayed (.ofInt 1000) [.new (.group [.new .hideInteractive])]),
        .new (.incrementVariable "tolls" (.int 1)),
        .new (.showText "Silence.")] ∧
      (execute 4 .tolling).outcome s = some (.error (.typeMismatch "tolls" "nothing"), t) ∧
      ∃ depth, (execute depth (Script.tolling.flatten s.catalog.procedures 3)).outcome s =
        some (.error (.typeMismatch "tolls" "nothing"), t) := by
  have hs := @Reached.start ["left"] _ _ 3 (.ofNat 1) .belfry _ (.fresh (.ofNat 0)) rfl
  obtain ⟨hends, -, hflat⟩ := hs.writing_out_transparent .tolling
  exact ⟨_, _, hs, rfl, rfl, (hends _ (hflat 3).1 _).1 ⟨4, rfl⟩⟩

end Reached

end Adventure
