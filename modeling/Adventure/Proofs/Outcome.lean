import Adventure.Session.Basic

/-!
# Outcomes of operations

The outcome of an operation, one step at a time, and what can be said of every outcome.

## Main definitions

* `Play.ensures p Q E s`: if `p` has an answer from `s`, a value ends with `Q` and an error with `E`

## Main results

* `outcome_bind`: an operation after another one
* `exists_of_outcome_forM_error`, `le_of_outcome_forM_ok`: where a sequence fails
* `ensures_bind`, `ensures_forM`: sequences of operations keep what each of them keeps
-/

namespace Adventure

/-- A query after another one succeeds if both do. -/
theorem bind_eq_ok_iff {ε α β : Type} {x : Except ε α} {f : α → Except ε β} {b : β} :
    (x >>= f) = .ok b ↔ ∃ a, x = .ok a ∧ f a = .ok b := by
  cases x with
  | error e => exact ⟨nofun, nofun⟩
  | ok a => exact ⟨fun h => ⟨a, rfl, h⟩, fun ⟨_, rfl, h⟩ => h⟩

/-- A check before a query: both must succeed. -/
theorem check_bind_eq_ok_iff {ε β : Type} {x : Except ε Unit} {f : Unit → Except ε β} {b : β} :
    (x >>= f) = .ok b ↔ x = .ok () ∧ f () = .ok b := by
  rw [bind_eq_ok_iff]
  exact ⟨fun ⟨(), hx, hf⟩ => ⟨hx, hf⟩, fun ⟨hx, hf⟩ => ⟨(), hx, hf⟩⟩

/-- A query whose value is only changed succeeds if the query does. -/
theorem map_eq_ok_iff {ε α β : Type} {x : Except ε α} {f : α → β} {b : β} :
    x.map f = .ok b ↔ ∃ a, x = .ok a ∧ f a = b := by
  cases x with
  | error e => exact ⟨nofun, nofun⟩
  | ok a => exact ⟨fun h => ⟨a, rfl, Except.ok.inj h⟩, fun ⟨_, rfl, h⟩ => congrArg _ h⟩

theorem mapError_ok {ε ε' α : Type} (f : ε → ε') (a : α) :
    (Except.ok a : Except ε α).mapError f = .ok a := rfl

theorem mapError_error {ε ε' α : Type} (f : ε → ε') (e : ε) :
    (Except.error e : Except ε α).mapError f = .error (f e) := rfl

/-- Renaming the errors of a query changes no success. -/
theorem mapError_eq_ok_iff {ε ε' α : Type} {x : Except ε α} {f : ε → ε'} {a : α} :
    x.mapError f = .ok a ↔ x = .ok a := by
  cases x with
  | error e => simp [mapError_error]
  | ok b => simp [mapError_ok]

namespace Play

variable {α β : Type}

/-! ## One step at a time -/

/-- An operation continues from a value, and an error ends it. -/
def andThen (o : Option (Except Error α × Session)) (f : α → Play β) :
    Option (Except Error β × Session) :=
  match o with
  | none => none
  | some (.error e, s) => some (.error e, s)
  | some (.ok a, s) => (f a).outcome s

@[simp] theorem andThen_none (f : α → Play β) : andThen none f = none := rfl

@[simp] theorem andThen_ok (a : α) (s : Session) (f : α → Play β) :
    andThen (some (.ok a, s)) f = (f a).outcome s := rfl

@[simp] theorem andThen_error (e : Error) (s : Session) (f : α → Play β) :
    andThen (some (.error e, s)) f = some (.error e, s) := rfl

@[simp] theorem outcome_pure (a : α) (s : Session) :
    (pure a : Play α).outcome s = some (.ok a, s) := rfl

theorem outcome_bind (p : Play α) (f : α → Play β) (s : Session) :
    (p >>= f).outcome s = andThen (p.outcome s) f := by
  show (p s).bind _ = _
  unfold andThen outcome
  cases h : p s with
  | none => simp [StateT.run, ExceptT.run, h]
  | some x =>
    obtain ⟨r, t⟩ := x
    cases r <;> simp [StateT.run, ExceptT.run, h] <;> rfl

/-- A sequence of two operations succeeds if both do. -/
theorem outcome_bind_eq_ok_iff {p : Play α} {f : α → Play β} {s t : Session} {b : β} :
    (p >>= f).outcome s = some (.ok b, t) ↔
      ∃ a u, p.outcome s = some (.ok a, u) ∧ (f a).outcome u = some (.ok b, t) := by
  rw [outcome_bind]
  constructor
  · intro h
    unfold andThen at h
    split at h
    · cases h
    · cases h
    · next a u hp => exact ⟨a, u, hp, h⟩
  · rintro ⟨a, u, hp, hf⟩
    rw [hp, andThen_ok, hf]

/-- An operation whose value is only changed leaves the session that it leaves without that. -/
theorem exists_of_outcome_bind_pure {p : Play α} {f : α → β} {s t : Session} {r : Except Error β}
    (h : (p >>= fun a => pure (f a)).outcome s = some (r, t)) : ∃ r', p.outcome s = some (r', t) := by
  rw [outcome_bind] at h
  unfold andThen at h
  split at h
  · cases h
  · next e u hp =>
    cases h
    exact ⟨_, hp⟩
  · next a u hp =>
    cases h
    exact ⟨_, hp⟩

@[simp] theorem outcome_throw (e : Error) (s : Session) :
    (throw e : Play α).outcome s = some (.error e, s) := rfl

@[simp] theorem outcome_get (s : Session) : (get : Play Session).outcome s = some (.ok s, s) := rfl

@[simp] theorem outcome_modify (f : Session → Session) (s : Session) :
    (modify f : Play Unit).outcome s = some (.ok (), f s) := rfl

@[simp] theorem outcome_unanswered (s : Session) : (unanswered : Play α).outcome s = none := rfl

@[simp] theorem outcome_ofExcept (r : Except Error α) (s : Session) :
    (ofExcept r).outcome s = some (r, s) := rfl

@[simp] theorem outcome_ask (query : Session → Except Error α) (s : Session) :
    (ask query).outcome s = some (query s, s) := rfl

@[simp] theorem outcome_player (f : Player → Player) (s : Session) :
    (player f).outcome s = some (.ok (), { s with player := f s.player }) := rfl

@[simp] theorem outcome_catalog (f : Catalog → Catalog) (s : Session) :
    (catalog f).outcome s = some (.ok (), { s with catalog := f s.catalog }) := rfl

@[simp] theorem outcome_ite (c : Prop) [Decidable c] (p q : Play α) (s : Session) :
    (if c then p else q).outcome s = if c then p.outcome s else q.outcome s := by
  split <;> rfl

theorem outcome_forM_nil (f : β → Play Unit) (s : Session) :
    (([] : List β).forM f).outcome s = some (.ok (), s) := rfl

theorem outcome_forM_cons (f : β → Play Unit) (b : β) (l : List β) (s : Session) :
    ((b :: l).forM f).outcome s = andThen ((f b).outcome s) fun _ => l.forM f :=
  outcome_bind (f b) (fun _ => l.forM f) s

theorem outcome_forM_append (f : β → Play Unit) (l m : List β) (s : Session) :
    ((l ++ m).forM f).outcome s = andThen ((l.forM f).outcome s) fun _ => m.forM f := by
  induction l generalizing s with
  | nil => rfl
  | cons b l ih =>
    rw [List.cons_append, outcome_forM_cons, outcome_forM_cons]
    unfold andThen
    cases (f b).outcome s with
    | none => rfl
    | some x =>
      obtain ⟨r, t⟩ := x
      cases r with
      | error e => rfl
      | ok => exact ih t

/-- **A sequence fails at one of its operations**, which is reached behind those before it. -/
theorem exists_of_outcome_forM_error {f : β → Play Unit} {l : List β} {s t : Session} {e : Error}
    (h : (l.forM f).outcome s = some (.error e, t)) :
    ∃ place b u, l[place]? = some b ∧ ((l.take place).forM f).outcome s = some (.ok (), u) ∧
      (f b).outcome u = some (.error e, t) := by
  induction l generalizing s with
  | nil => cases h
  | cons b l ih =>
    rw [outcome_forM_cons] at h
    cases hb : (f b).outcome s with
    | none =>
      rw [hb] at h
      cases h
    | some x =>
      obtain ⟨r, u⟩ := x
      rw [hb] at h
      cases r with
      | error e' =>
        cases h
        exact ⟨0, b, s, rfl, rfl, hb⟩
      | ok =>
        obtain ⟨place, c, v, hplace, hbefore, hfails⟩ := ih h
        refine ⟨place + 1, c, v, hplace, ?_, hfails⟩
        rw [List.take_succ_cons, outcome_forM_cons, hb]
        exact hbefore

/-- Behind an operation that fails, a sequence does not succeed. -/
theorem le_of_outcome_forM_ok {f : β → Play Unit} {l : List β} {s t u v : Session} {b : β}
    {e : Error} {place other : Nat} (hplace : l[place]? = some b)
    (hbefore : ((l.take place).forM f).outcome s = some (.ok (), u))
    (hfails : (f b).outcome u = some (.error e, v))
    (h : ((l.take other).forM f).outcome s = some (.ok (), t)) : other ≤ place := by
  induction place generalizing l s other with
  | zero =>
    cases other with
    | zero => exact Nat.le_refl 0
    | succ other =>
      cases l with
      | nil => cases hplace
      | cons c l =>
        cases hplace
        cases hbefore
        rw [List.take_succ_cons, outcome_forM_cons, hfails] at h
        cases h
  | succ place ih =>
    cases l with
    | nil => cases hplace
    | cons c l =>
      cases other with
      | zero => exact Nat.zero_le _
      | succ other =>
        rw [List.take_succ_cons, outcome_forM_cons] at h hbefore
        cases hc : (f c).outcome s with
        | none =>
          rw [hc] at h
          cases h
        | some x =>
          obtain ⟨r, w⟩ := x
          rw [hc] at h hbefore
          cases r with
          | error e' => cases h
          | ok => exact Nat.succ_le_succ (ih hplace hbefore h)

/-! ## Every outcome -/

/-- If `p` has an answer from `s`, a value ends with `Q` and an error with `E`. -/
def ensures (p : Play α) (Q : α → Session → Prop) (E : Error → Session → Prop) (s : Session) :
    Prop :=
  match p.outcome s with
  | none => True
  | some (.ok a, t) => Q a t
  | some (.error e, t) => E e t

variable {p : Play α} {f : α → Play β} {s t : Session}
  {Q Q' : α → Session → Prop} {R : β → Session → Prop} {E E' : Error → Session → Prop}

theorem ensures_of_forall (hQ : ∀ a t, p.outcome s = some (.ok a, t) → Q a t)
    (hE : ∀ e t, p.outcome s = some (.error e, t) → E e t) : p.ensures Q E s := by
  unfold ensures
  split
  · trivial
  · next a t h => exact hQ a t h
  · next e t h => exact hE e t h

theorem ensures_of_none (h : p.outcome s = none) : p.ensures Q E s := by
  simp [ensures, h]

theorem ensures_of_ok {a : α} (h : p.outcome s = some (.ok a, t)) (hq : Q a t) :
    p.ensures Q E s := by
  simpa [ensures, h] using hq

theorem ensures_of_error {e : Error} (h : p.outcome s = some (.error e, t)) (he : E e t) :
    p.ensures Q E s := by
  simpa [ensures, h] using he

/-- Operations with the same outcome ensure the same. -/
theorem ensures_of_eq {q : Play α} (h : p.outcome s = q.outcome t) (hq : q.ensures Q E t) :
    p.ensures Q E s := by
  unfold ensures at hq ⊢
  rwa [h]

theorem ensures_ok {a : α} (hp : p.ensures Q E s) (h : p.outcome s = some (.ok a, t)) : Q a t := by
  simpa [ensures, h] using hp

theorem ensures_error {e : Error} (hp : p.ensures Q E s) (h : p.outcome s = some (.error e, t)) :
    E e t := by
  simpa [ensures, h] using hp

theorem ensures_imp (hp : p.ensures Q E s) (hQ : ∀ a t, Q a t → Q' a t)
    (hE : ∀ e t, E e t → E' e t) : p.ensures Q' E' s := by
  unfold ensures at hp ⊢
  split at hp
  · trivial
  · exact hQ _ _ hp
  · exact hE _ _ hp

theorem ensures_bind (hp : p.ensures (fun a t => (f a).ensures R E t) E s) :
    (p >>= f).ensures R E s := by
  unfold ensures at hp
  split at hp
  · next h => exact ensures_of_none (by rw [outcome_bind, h, andThen_none])
  · next a t h => exact ensures_of_eq (by rw [outcome_bind, h, andThen_ok]) hp
  · next e t h => exact ensures_of_error (by rw [outcome_bind, h, andThen_error]) hp

/-- What each operation of a sequence keeps, the sequence keeps. -/
theorem ensures_forM {I : Session → Prop} {g : β → Play Unit} {l : List β}
    (hg : ∀ b ∈ l, ∀ t, I t → (g b).ensures (fun _ => I) E t) (hs : I s) :
    (l.forM g).ensures (fun _ => I) E s := by
  induction l generalizing s with
  | nil => exact ensures_of_ok (outcome_forM_nil g s) hs
  | cons b l ih =>
    refine ensures_bind (f := fun _ => l.forM g) ?_
    refine ensures_imp (hg b (.head _) s hs) ?_ fun _ _ => id
    intro _ t ht
    exact ih (fun c hc => hg c (.tail _ hc)) ht

end Play

end Adventure
