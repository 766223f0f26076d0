import Adventure.Proofs.Reachability
import Mathlib.Logic.Relation

/-!
# Between the steps of a session

A call is a row of steps, and between any two of them a session is as good as between two calls:
what is shown then, the player sees.  So the invariants of sessions are shown of every session that
comes up on the way, and from there of the ones that calls end in.

## Main definitions

* `Session.Step`: one step, which succeeds or fails
* `Session.Leads`: the sessions that steps lead to
* `Session.Lasts`: steps through which something holds
* `Underway`: the sessions that come up while a world is played

## Main results

* `Call.leads`, `Play.start_leads`: to what calls and starts end in, steps lead
* `Played.underway`: calls end in such sessions
* `Underway.invariant`: an invariant of single steps holds in all of them
* `Underway.exists_onset`: what does not hold at first came up with one of the steps
-/

namespace Adventure

open Session

namespace Session

/-- One step of a session, which succeeds or fails. -/
inductive Step (s : Session) : Session → Prop where
  | move {t : Session} (h : Move (.free fun _ _ => True) s t) : Step s t
  | halt {t : Session} {e : Error} (h : Halt (.free fun _ _ => True) s e t) : Step s t

/-- The sessions that steps lead to. -/
def Leads : Session → Session → Prop := Relation.ReflTransGen Step

/-- Steps through which something holds, before and after each of them. -/
def Lasts (I : Session → Prop) : Session → Session → Prop :=
  Relation.ReflTransGen fun s t => s.Step t ∧ I s ∧ I t

variable {s t : Session}

theorem Lasts.mono {I J : Session → Prop} (h : s.Lasts I t) (hIJ : ∀ u, I u → J u) :
    s.Lasts J t := by
  induction h with
  | refl => exact .refl
  | tail _ hstep ih => exact ih.tail (hstep.imp id (.imp (hIJ _) (hIJ _)))

theorem Lasts.leads {I : Session → Prop} (h : s.Lasts I t) : s.Leads t := by
  induction h with
  | refl => exact .refl
  | tail _ hstep ih => exact ih.tail hstep.1

theorem Lasts.holds {I : Session → Prop} (h : s.Lasts I t) (ht : I t) : I s := by
  rcases Relation.ReflTransGen.cases_head h with rfl | ⟨u, hstep, -⟩
  · exact ht
  · exact hstep.2.1

/-- What holds behind some steps has lasted through them, or came up with one of them. -/
theorem Leads.lasts_or_onset {I : Session → Prop} (h : s.Leads t) (ht : I t) :
    s.Lasts I t ∨ ∃ u v, s.Leads u ∧ ¬I u ∧ u.Step v ∧ I v ∧ v.Lasts I t := by
  induction h with
  | refl => exact .inl .refl
  | @tail u t hleads hstep ih =>
    by_cases hbefore : I u
    · rcases ih hbefore with hlasts | ⟨first, next, hfirst, hnot, honset, hnext, hlasts⟩
      · exact .inl (hlasts.tail ⟨hstep, hbefore, ht⟩)
      · exact .inr ⟨first, next, hfirst, hnot, honset, hnext, hlasts.tail ⟨hstep, hbefore, ht⟩⟩
    · exact .inr ⟨u, t, hleads, hbefore, hstep, ht, .refl⟩

theorem Step.grounded (h : s.Step t) (hs : s.Grounded) : t.Grounded := by
  cases h with
  | move h => exact h.grounded hs
  | halt h => exact h.grounded hs

theorem Step.extends (h : s.Step t) : s.Extends t := by
  cases h with
  | move h => exact h.extends
  | halt h => exact h.extends

end Session

/-- The sessions that come up while a world is played that was started once: before the start,
between two calls, and between the steps of a call. -/
inductive Underway (arrows : List String) (world : World) : Session → Prop where
  | fresh (id : Uuid) : Underway arrows world (.withArrows id arrows)
  | begun (id id' : Uuid) : Underway arrows world ((Session.withArrows id arrows).begun id' world)
  | step {s t : Session} (hs : Underway arrows world s) (h : s.Step t) : Underway arrows world t

variable {I : Session → Prop} {arrows : List String} {world : World} {s t : Session}

/-- What every step keeps, scripts and events keep. -/
theorem Keeps.of_step (h : ∀ {s t}, s.Grounded → I s → s.Step t → I t) :
    Keeps (.free fun _ _ => True) I fun _ => I :=
  .free (fun hs hI hm => h hs hI (.move hm)) fun hs hI hh => h hs hI (.halt hh)

/-- What steps lead to is kept by further steps. -/
theorem Session.keeps_leads (s : Session) :
    Keeps (.free fun _ _ => True) (fun t => s.Leads t) fun _ t => s.Leads t :=
  .of_step fun _ hs h => hs.tail h

/-- **Calls take steps**, and nothing else. -/
theorem Call.leads (hs : s.Grounded) {c : Call} {depth : Nat} {r : Except Error Unit}
    (h : (c.play depth).outcome s = some (r, t)) : s.Leads t :=
  (s.keeps_leads.call_inv hs .refl h).2

/-- A start refuses the world, or loads a stage from where the world was accepted. -/
theorem Play.start_cases {depth : Nat} {id : Uuid} {r : Except Error Unit}
    (h : (start depth id world).outcome s = some (r, t)) :
    t = s ∨ ∃ stage, ((Call.loadStage stage).play depth).outcome (s.begun id world) =
      some (r, t) := by
  rw [outcome_start] at h
  split at h
  · cases h
    exact .inl rfl
  · split at h
    · cases h
      exact .inl rfl
    · next first _ => exact .inr ⟨first.id, h⟩

/-- **A start takes steps** from where the world was accepted, or refuses the world. -/
theorem Play.start_leads {depth : Nat} {id : Uuid} {r : Except Error Unit}
    (h : (start depth id world).outcome s = some (r, t)) :
    t = s ∨ (s.begun id world).Leads t := by
  rcases start_cases h with heq | ⟨stage, hload⟩
  · exact .inl heq
  · exact .inr (Call.leads (grounded_begun s id world) hload)

/-- **What calls end in, steps lead to.** -/
theorem Played.underway (h : Played (fun _ _ => True) arrows world s) :
    Underway arrows world s :=
  (h.invariant (.of_step fun _ hs h => hs.step h) .fresh .begun).2

namespace Underway

theorem leads (h : s.Leads t) (hs : Underway arrows world s) : Underway arrows world t := by
  induction h with
  | refl => exact hs
  | tail _ h ih => exact ih.step h

theorem grounded (h : Underway arrows world s) : s.Grounded := by
  induction h with
  | fresh id => exact grounded_withArrows id arrows
  | begun id id' => exact grounded_begun _ id' world
  | step _ h ih => exact h.grounded ih

/-- An invariant of single steps holds between all of them. -/
theorem invariant (hfresh : ∀ id, I (.withArrows id arrows))
    (hbegun : ∀ id id', I ((Session.withArrows id arrows).begun id' world))
    (hstep : ∀ {s t}, Underway arrows world s → I s → s.Step t → I t)
    (h : Underway arrows world s) : I s := by
  induction h with
  | fresh id => exact hfresh id
  | begun id id' => exact hbegun id id'
  | step hs h ih => exact hstep hs ih h

/-- **What holds now and did not hold at first** came up with one of the steps, and has lasted
since. -/
theorem exists_onset (hfresh : ∀ id, ¬I (.withArrows id arrows))
    (hbegun : ∀ id id', ¬I ((Session.withArrows id arrows).begun id' world))
    (h : Underway arrows world s) (hs : I s) :
    ∃ t u, Underway arrows world t ∧ ¬I t ∧ t.Step u ∧ I u ∧ u.Lasts I s := by
  induction h with
  | fresh id => exact absurd hs (hfresh id)
  | begun id id' => exact absurd hs (hbegun id id')
  | @step s t hunder hstep ih =>
    by_cases hbefore : I s
    · obtain ⟨first, next, hfirst, hnot, honset, hnext, hlasts⟩ := ih hbefore
      exact ⟨first, next, hfirst, hnot, honset, hnext, hlasts.tail ⟨hstep, hbefore, hs⟩⟩
    · exact ⟨s, t, hunder, hbefore, hstep, hs, .refl⟩

end Underway

end Adventure
