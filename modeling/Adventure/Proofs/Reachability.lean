import Adventure.Proofs.Sessions

/-!
# Sessions through restarts

A session can be started again and again, with one world or another.  What was known is forgotten
then; only the display and the log stay.  Between two starts a session is called, and whatever a
call ends with, other calls may follow.

## Main definitions

* `Reached`: the sessions that starts and calls lead to
* `Session.Later`: the sessions that calls lead to, without another start

## Main results

* `Keeps.reached`: an invariant that also holds of every accepted world holds in every session
* `Played.reached`: sessions that are started once are among them
-/

namespace Adventure

open Session

/-- A session that was started, with whatever worlds, and called, in any order. -/
inductive Reached (arrows : List String) : Session → Prop where
  | fresh (id : Uuid) : Reached arrows (.withArrows id arrows)
  | start {s t : Session} {depth : Nat} {id : Uuid} {world : World} {r : Except Error Unit}
      (hs : Reached arrows s) (h : (Play.start depth id world).outcome s = some (r, t)) :
      Reached arrows t
  | call {s t : Session} {c : Call} {depth : Nat} {r : Except Error Unit} (hs : Reached arrows s)
      (h : (c.play depth).outcome s = some (r, t)) : Reached arrows t

/-- The sessions that a session leads to until it is started again. -/
inductive Session.Later (s : Session) : Session → Prop where
  | refl : Later s s
  | call {t u : Session} {c : Call} {depth : Nat} {r : Except Error Unit} (ht : Later s t)
      (h : (c.play depth).outcome t = some (r, u)) : Later s u

variable {arrows : List String} {s t : Session} {r : Except Error Unit} {depth : Nat}

/-- A session that is started once is reached. -/
theorem Played.reached {permits : Session → Call → Prop} {world : World}
    (h : Played permits arrows world s) : Reached arrows s := by
  induction h with
  | start h => exact .start (.fresh _) h
  | call hs hc h ih => exact .call ih h

theorem Session.Later.reached (h : s.Later t) (hs : Reached arrows s) : Reached arrows t := by
  induction h with
  | refl => exact hs
  | call ht h ih => exact .call ih h

/-! ## Invariants -/

section Invariants

variable {I : Session → Prop} {E : Error → Session → Prop}

/-- A call that fails ends as a step that fails does, or was refused. -/
theorem Keeps.call_ends (k : Keeps (.free fun _ _ => True) I E) (hs : s.Grounded) (hI : I s)
    {c : Call} (h : (c.play depth).outcome s = some (r, t)) :
    t.Grounded ∧ (I t ∨ ∃ e, r = .error e ∧ E e t) := by
  have hcall := k.call depth hs hI (c.permitted_free fun _ _ => trivial)
  cases r with
  | ok =>
    have hafter := Play.ensures_ok hcall h
    exact ⟨hafter.grounded, .inl hafter.inv⟩
  | error e =>
    obtain ⟨hground, he | ⟨hinv, -⟩⟩ := Play.ensures_error hcall h
    · exact ⟨hground, .inr ⟨e, rfl, he⟩⟩
    · exact ⟨hground, .inl hinv⟩

/-- A start that fails ends as a step that fails does, or the world was refused. -/
theorem Keeps.start_ends (k : Keeps (.free fun _ _ => True) I E) (hs : s.Grounded) (hI : I s)
    {session : Uuid} {world : World} (hb : I (s.begun session world))
    (h : (Play.start depth session world).outcome s = some (r, t)) :
    t.Grounded ∧ (I t ∨ ∃ e, r = .error e ∧ E e t) := by
  have hstart := k.start depth hs hI hb fun _ _ => trivial
  cases r with
  | ok =>
    obtain ⟨hground, hinv⟩ := Play.ensures_ok hstart h
    exact ⟨hground, .inl hinv⟩
  | error e =>
    obtain ⟨hground, he | hinv⟩ := Play.ensures_error hstart h
    · exact ⟨hground, .inr ⟨e, rfl, he⟩⟩
    · exact ⟨hground, .inl hinv⟩

variable (k : Keeps (.free fun _ _ => True) I fun _ => I)
include k

/-- What every step keeps, whether it succeeds or fails, every call keeps. -/
theorem Keeps.call_inv (hs : s.Grounded) (hI : I s) {c : Call}
    (h : (c.play depth).outcome s = some (r, t)) : t.Grounded ∧ I t := by
  obtain ⟨hground, hinv | ⟨e, -, hinv⟩⟩ := k.call_ends hs hI h
  · exact ⟨hground, hinv⟩
  · exact ⟨hground, hinv⟩

theorem Keeps.start_inv (hs : s.Grounded) (hI : I s) {session : Uuid} {world : World}
    (hb : I (s.begun session world))
    (h : (Play.start depth session world).outcome s = some (r, t)) : t.Grounded ∧ I t := by
  obtain ⟨hground, hinv | ⟨e, -, hinv⟩⟩ := k.start_ends hs hI hb h
  · exact ⟨hground, hinv⟩
  · exact ⟨hground, hinv⟩

/-- **An invariant holds through restarts** if it holds of a fresh session and of every world that
is accepted. -/
theorem Keeps.reached (hfresh : ∀ id, I (.withArrows id arrows))
    (hbegun : ∀ {s}, I s → ∀ id world, I (s.begun id world)) (h : Reached arrows s) :
    s.Grounded ∧ I s := by
  induction h with
  | fresh id => exact ⟨grounded_withArrows id arrows, hfresh id⟩
  | start hs h ih => exact k.start_inv ih.1 ih.2 (hbegun ih.2 _ _) h
  | call hs h ih => exact k.call_inv ih.1 ih.2 h

end Invariants

/-- **The current scene is known** in every session, and scenes are known under their ids. -/
theorem Reached.grounded (h : Reached arrows s) : s.Grounded := by
  have k : Keeps (.free fun _ _ => True) (fun _ => True) fun _ _ => True :=
    .free (fun _ _ _ => trivial) fun _ _ _ => trivial
  exact (k.reached (fun _ => trivial) (fun _ _ _ => trivial) h).1

end Adventure
