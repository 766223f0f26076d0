import Adventure.Proofs.Actions
import Adventure.Proofs.Reachability
import Mathlib.Logic.ExistsUnique

/-!
# Scripts that fail

A script whose actions take at most one step each stops at the first action that fails.  The actions
before it are done, the action itself leaves no trace, and those behind it are not reached.  This
needs that every action does all its checks before it changes anything, and that a message can
always be shown: the scene that it covers is known in every session.

## Main definitions

* `Play.StopsAt`: a script fails at one of its actions, which leaves no trace

## Main results

* `Play.StopsAt.unique`: a script fails at one place
* `Reached.failed_script`: where a script of single steps fails, and why
-/

namespace Adventure

open Session

namespace Play

/-- A script fails at the action at `place`: those before it are done, and lead to the session that
is left.  There its guard cannot be evaluated, or it passes and the action fails without a trace,
whatever the scripts do that other actions run. -/
structure StopsAt (depth : Nat) (script : Script) (s : Session) (e : Error) (t : Session)
    (place : Nat) : Prop where
  before : (execute depth (script.take place)).outcome s = some (.ok (), t)
  fails : ∃ a, script[place]? = some a ∧
    (a.passes t.player = .error e ∨
      a.passes t.player = .ok true ∧ ∀ run, (perform run a).outcome t = some (.error e, t))

variable {depth : Nat} {script : Script} {s t u : Session} {a : Action} {e : Error}

/-- An action that fails does so in its guard or in its effect. -/
theorem outcome_step_eq_error_iff {run : Script → Play Unit} :
    (step run a).outcome s = some (.error e, t) ↔
      a.passes s.player = .error e ∧ t = s ∨
        a.passes s.player = .ok true ∧ (perform run a).outcome s = some (.error e, t) := by
  rw [outcome_step]
  cases a.passes s.player with
  | error e' => simp [eq_comm]
  | ok passes => cases passes <;> simp

/-- A single step that fails leaves no trace, whatever the scripts do that other actions run. -/
theorem outcome_perform_of_error (hs : s.Grounded) (h : a.effect.isSingle = true)
    {run : Script → Play Unit} (hr : (perform run a).outcome s = some (.error e, t)) :
    t = s ∧ s.Rejects a e ∧ ∀ run', (perform run' a).outcome s = some (.error e, s) := by
  obtain ⟨u, hu⟩ | ⟨e', hrejects, he'⟩ := outcome_perform_of_isSingle hs h run
  · cases hu.symm.trans hr
  · cases he'.symm.trans hr
    refine ⟨rfl, hrejects, fun run' => ?_⟩
    rw [perform_of_isSingle h run' run, he']

/-- **Where a script fails** there is only one place. -/
theorem StopsAt.unique {place other : Nat} {t' : Session} {e' : Error}
    (h : StopsAt depth script s e t place) (h' : StopsAt depth script s e' t' other) :
    other = place := by
  cases depth with
  | zero => cases h.before
  | succ depth =>
    obtain ⟨a, hplace, ha⟩ := h.fails
    obtain ⟨b, hother, hb⟩ := h'.fails
    have hfails := outcome_step_eq_error_iff.2 (ha.imp (⟨·, rfl⟩) (.imp_right (· (execute depth))))
    have hfails' := outcome_step_eq_error_iff.2 (hb.imp (⟨·, rfl⟩) (.imp_right (· (execute depth))))
    exact Nat.le_antisymm (le_of_outcome_forM_ok hplace h.before hfails h'.before)
      (le_of_outcome_forM_ok hother h'.before hfails' h.before)

/-- What fails at an action of single steps is the action, and it is refused. -/
theorem StopsAt.rejects {place : Nat} (h : StopsAt depth script s e t place) (ht : t.Grounded)
    (hsingle : ∀ a ∈ script, a.effect.isSingle = true) :
    ∃ a, script[place]? = some a ∧ t.Rejects a e := by
  obtain ⟨a, hplace, hguard | ⟨-, hperform⟩⟩ := h.fails
  · exact ⟨a, hplace, .guard hguard⟩
  · have ha := hsingle a (List.mem_of_getElem? hplace)
    exact ⟨a, hplace, (outcome_perform_of_error ht ha (hperform fun _ => pure ())).2.1⟩

end Play

section

variable {arrows : List String} {depth : Nat} {script : Script} {s t : Session} {e : Error}

open Play

/-- A script of single steps that fails stops at one of them. -/
theorem Reached.exists_stopsAt (hs : Reached arrows s)
    (hsingle : ∀ a ∈ script, a.effect.isSingle = true)
    (h : (execute depth script).outcome s = some (.error e, t)) :
    ∃ place, StopsAt depth script s e t place := by
  cases depth with
  | zero => cases h
  | succ depth =>
    obtain ⟨place, a, u, hplace, hbefore, hstep⟩ := exists_of_outcome_forM_error h
    -- The actions before it are a script of their own, so that the scene is known behind them.
    have hu : u.Grounded :=
      (@Reached.call _ _ _ (.execute (script.take place)) (depth + 1) _ hs hbefore).grounded
    obtain ⟨hguard, rfl⟩ | ⟨hpasses, hperform⟩ := outcome_step_eq_error_iff.1 hstep
    · exact ⟨place, hbefore, a, hplace, .inl hguard⟩
    · have ha := hsingle a (List.mem_of_getElem? hplace)
      obtain ⟨rfl, -, hfails⟩ := outcome_perform_of_error hu ha hperform
      exact ⟨place, hbefore, a, hplace, .inr ⟨hpasses, hfails⟩⟩

/-- **Where a script of single steps fails, and why.**  In every session, a script none of whose
actions enters a scene, submits a code, or runs a procedure or a group fails at exactly one place.
The session that it leaves, with its display and its log, is the one behind the actions before that
place.  The error is that of the guard or of the effect of the action there, which is refused in
that session. -/
theorem Reached.failed_script (hs : Reached arrows s)
    (hsingle : ∀ a ∈ script, a.effect.isSingle = true)
    (h : (execute depth script).outcome s = some (.error e, t)) :
    (∃! place, StopsAt depth script s e t place) ∧
      ∀ place, StopsAt depth script s e t place →
        ∃ a, script[place]? = some a ∧ t.Rejects a e := by
  obtain ⟨place, hplace⟩ := hs.exists_stopsAt hsingle h
  refine ⟨⟨place, hplace, fun other hother => hplace.unique hother⟩, ?_⟩
  intro other hother
  exact hother.rejects (Reached.call (c := .execute script) hs h).grounded hsingle

/-- The light is switched on, a text is shown, and the light is to be counted. -/
def Script.dimmer : Script := [
  .new (.setVariable "lit" (.bool true)),
  .new (.showText "Bright."),
  { (Action.new (.redirect "dark")) with guard := some (.new (.variableIs "lit" (.bool false))) },
  .new (.incrementVariable "lit" (.int 1)),
  .new (.redirect "bright")]

/-- The light stays on, and so does the text: a truth value cannot be counted. -/
theorem failed_script_dimmer :
    ∃ s t, Reached ["left"] s ∧ (execute 3 .dimmer).outcome s =
        some (.error (.typeMismatch "lit" "a boolean"), t) ∧
      (∃! place, StopsAt 3 .dimmer s (.typeMismatch "lit" "a boolean") t place) ∧
      StopsAt 3 .dimmer s (.typeMismatch "lit" "a boolean") t 3 ∧
      t.player.valueOf? "lit" = some (.bool true) ∧ t.display.message.isSome = true := by
  have hs := @Reached.start ["left"] _ _ 3 (.ofNat 1) .gate _ (.fresh (.ofNat 0)) rfl
  have hfailed := @Reached.failed_script ["left"] 3 .dimmer _ _ _ hs (by decide) rfl
  refine ⟨_, _, hs, rfl, hfailed.1, ⟨rfl, _, rfl, .inr ⟨rfl, fun _ => rfl⟩⟩, rfl, rfl⟩

end

end Adventure
