import Adventure.Proofs.Readers
import Mathlib.Data.List.Forall2
import Mathlib.Data.List.Pairwise
import Mathlib.Logic.Relation

/-!
# The order of members

Two trees differ in the order of their members if one comes from the other by changes, each of which
puts the members of one object, at any depth, in another order.  If no object has a key twice, a
reader takes the same from both, or nothing from either: entries are stored in a table in any order,
the fields of a record are set in any order, and whether a key was seen does not depend on when.

## Main definitions

* `Json.Doc.Reorder`, `Json.Doc.Reordered`: one change, and any number of changes
* `Json.Doc.NoRepeats`: no object has a key twice
* `Json.Reader.Stable`: a reader takes the same after a change
* `Json.Field.Commutes`: two fields of a record may be set in any order

## Main results

* `foldlM_perm`: steps that can be exchanged may be taken in any order
* `Json.Reader.stable_list`, `Json.Reader.stable_table`, `Json.Reader.stable_json`,
  `Json.Reader.stable_record`: readers of containers take the same after a change if the readers of
  what is in them do
* `Json.Reader.Stable.toOption_eq`: what is read after any number of changes
-/

namespace Adventure

/-! ## Steps in any order -/

section Steps

variable {ε σ β : Type} {step : σ → β → Except ε σ} {E : σ → σ → Prop} {s t s' : σ}

/-- Related states stay related. -/
theorem foldlM_of_related
    (hstep : ∀ s t b s', E s t → step s b = .ok s' → ∃ t', step t b = .ok t' ∧ E s' t')
    {l : List β} (hst : E s t) (h : l.foldlM step s = .ok s') :
    ∃ t', l.foldlM step t = .ok t' ∧ E s' t' := by
  induction l generalizing s t with
  | nil =>
    obtain rfl := Except.ok.inj h
    exact ⟨t, rfl, hst⟩
  | cons b l ih =>
    obtain ⟨s₁, hs, h⟩ := bind_eq_ok_iff.1 h
    obtain ⟨t₁, ht, hE⟩ := hstep s t b s₁ hst hs
    obtain ⟨t', htail, hend⟩ := ih hE h
    exact ⟨t', bind_eq_ok_iff.2 ⟨t₁, ht, htail⟩, hend⟩

/-- **Steps that can be exchanged** may be taken in any order. -/
theorem foldlM_perm (hE : Equivalence E)
    (hstep : ∀ s t b s', E s t → step s b = .ok s' → ∃ t', step t b = .ok t' ∧ E s' t')
    {R : β → β → Prop} (hR : ∀ {b c}, R b c → R c b)
    (hcomm : ∀ b c, R b c → ∀ s s₁ s₂, step s b = .ok s₁ → step s₁ c = .ok s₂ →
      ∃ t₁ t₂, step s c = .ok t₁ ∧ step t₁ b = .ok t₂ ∧ E s₂ t₂)
    {l l' : List β} (hperm : l.Perm l') (hpair : l.Pairwise R) (h : l.foldlM step s = .ok s') :
    ∃ t', l'.foldlM step s = .ok t' ∧ E s' t' := by
  -- An exchange ends in related states only, from which the rest has to be carried on.
  induction hperm generalizing s s' with
  | nil => exact ⟨s', h, hE.refl s'⟩
  | cons b _ ih =>
    obtain ⟨s₁, hs, h⟩ := bind_eq_ok_iff.1 h
    obtain ⟨t', htail, hend⟩ := ih hpair.of_cons h
    exact ⟨t', bind_eq_ok_iff.2 ⟨s₁, hs, htail⟩, hend⟩
  | swap b c l =>
    obtain ⟨s₁, hs, h⟩ := bind_eq_ok_iff.1 h
    obtain ⟨s₂, hs', h⟩ := bind_eq_ok_iff.1 h
    have hdiffer : R c b := List.rel_of_pairwise_cons hpair List.mem_cons_self
    obtain ⟨t₁, t₂, ht, ht', hrelated⟩ := hcomm c b hdiffer s s₁ s₂ hs hs'
    obtain ⟨t', htail, hend⟩ := foldlM_of_related hstep hrelated h
    exact ⟨t', bind_eq_ok_iff.2 ⟨t₁, ht, bind_eq_ok_iff.2 ⟨t₂, ht', htail⟩⟩, hend⟩
  | trans hfirst _ ih ih' =>
    obtain ⟨u, hu, hsu⟩ := ih hpair h
    obtain ⟨t', ht, hut⟩ := ih' (hfirst.pairwise hpair hR) hu
    exact ⟨t', ht, hE.trans hsu hut⟩

/-- A step may take the place of one that it agrees with. -/
theorem foldlM_replace {b c : β} (hbc : ∀ s s₁, step s b = .ok s₁ → step s c = .ok s₁)
    {l r : List β} (h : (l ++ b :: r).foldlM step s = .ok s') :
    (l ++ c :: r).foldlM step s = .ok s' := by
  rw [List.foldlM_append] at h ⊢
  obtain ⟨u, hu, h⟩ := bind_eq_ok_iff.1 h
  obtain ⟨v, hv, h⟩ := bind_eq_ok_iff.1 h
  exact bind_eq_ok_iff.2 ⟨u, hu, bind_eq_ok_iff.2 ⟨v, hbc u v hv, h⟩⟩

end Steps

namespace Json

/-! ## Changes of the order -/

namespace Doc

/-- The members of one object, at any depth, are put in another order. -/
inductive Reorder : Doc → Doc → Prop where
  | members {ms ms' : List (Key × Doc)} (h : ms.Perm ms') (ending : ObjectEnd) :
    Reorder (.object ms ending) (.object ms' ending)
  | item {d d' : Doc} (h : Reorder d d') (l r : List Doc) (ending : ListEnd) :
    Reorder (.list (l ++ d :: r) ending) (.list (l ++ d' :: r) ending)
  | member {d d' : Doc} (h : Reorder d d') (key : Key) (l r : List (Key × Doc))
    (ending : ObjectEnd) :
    Reorder (.object (l ++ (key, d) :: r) ending) (.object (l ++ (key, d') :: r) ending)

/-- The trees differ only in the order of members inside objects. -/
def Reordered : Doc → Doc → Prop := Relation.ReflTransGen Reorder

theorem Reorder.symm {d d' : Doc} (h : Reorder d d') : Reorder d' d := by
  induction h with
  | members h ending => exact .members h.symm ending
  | item _ l r ending ih => exact .item ih l r ending
  | member _ key l r ending ih => exact .member ih key l r ending

/-- Lists differ only in the order of members if their items do. -/
theorem reordered_list {ds ds' : List Doc} (h : List.Forall₂ Reordered ds ds') (ending : ListEnd) :
    Reordered (.list ds ending) (.list ds' ending) := by
  have hmore : ∀ before,
      Reordered (.list (before ++ ds) ending) (.list (before ++ ds') ending) := by
    induction h with
    | nil => exact fun before => .refl
    | @cons d d' ds ds' hd _ ih =>
      intro before
      have hfirst := hd.lift (fun d => Doc.list (before ++ d :: ds) ending)
        fun _ _ hd => Reorder.item hd before ds ending
      have hrest := ih (before ++ [d'])
      rw [List.append_assoc, List.append_assoc] at hrest
      exact hfirst.trans hrest
  exact hmore []

/-- Objects differ only in the order of members if the values of their keys do. -/
theorem reordered_object {ms ms' ms'' : List (Key × Doc)} (hperm : ms.Perm ms')
    (h : List.Forall₂ (fun m m' => m.1 = m'.1 ∧ Reordered m.2 m'.2) ms' ms'')
    (ending : ObjectEnd) : Reordered (.object ms ending) (.object ms'' ending) := by
  have hmore : ∀ before,
      Reordered (.object (before ++ ms') ending) (.object (before ++ ms'') ending) := by
    clear hperm
    induction h with
    | nil => exact fun before => .refl
    | @cons m m' ms ms' hm _ ih =>
      intro before
      obtain ⟨k, d⟩ := m
      obtain ⟨k', d'⟩ := m'
      obtain ⟨rfl, hd⟩ : k = k' ∧ Reordered d d' := hm
      have hfirst := hd.lift (fun d => Doc.object (before ++ (k, d) :: ms) ending)
        fun _ _ hd => Reorder.member hd k before ms ending
      have hrest := ih (before ++ [(k, d')])
      rw [List.append_assoc, List.append_assoc] at hrest
      exact hfirst.trans hrest
  exact (hmore []).head (.members hperm ending)

/-- The keys differ, as far as they can be read. -/
def Differ (k k' : Key) : Prop := ∀ name, k = .ok name → k' ≠ .ok name

theorem Differ.symm {k k' : Key} (h : Differ k k') : Differ k' k :=
  fun name hk' hk => h name hk hk'

mutual

/-- No object has a key twice. -/
def NoRepeats : Doc → Prop
  | .list items _ => NoRepeatsItems items
  | .object members _ => (members.map Prod.fst).Pairwise Differ ∧ NoRepeatsMembers members
  | _ => True

/-- No object in a list of items has a key twice. -/
def NoRepeatsItems : List Doc → Prop
  | [] => True
  | item :: items => NoRepeats item ∧ NoRepeatsItems items

/-- No object in a list of members has a key twice. -/
def NoRepeatsMembers : List (Key × Doc) → Prop
  | [] => True
  | (_, value) :: members => NoRepeats value ∧ NoRepeatsMembers members

end

theorem noRepeatsItems_iff {items : List Doc} :
    NoRepeatsItems items ↔ ∀ d ∈ items, NoRepeats d := by
  induction items with
  | nil => simp [NoRepeatsItems]
  | cons d items ih => simp [NoRepeatsItems, ih]

theorem noRepeatsMembers_iff {members : List (Key × Doc)} :
    NoRepeatsMembers members ↔ ∀ m ∈ members, NoRepeats m.2 := by
  induction members with
  | nil => simp [NoRepeatsMembers]
  | cons m members ih =>
    obtain ⟨k, d⟩ := m
    simp [NoRepeatsMembers, ih]

theorem noRepeats_list_iff {items : List Doc} {ending : ListEnd} :
    NoRepeats (.list items ending) ↔ ∀ d ∈ items, NoRepeats d :=
  noRepeatsItems_iff

theorem noRepeats_object_iff {members : List (Key × Doc)} {ending : ObjectEnd} :
    NoRepeats (.object members ending) ↔
      (members.map Prod.fst).Pairwise Differ ∧ ∀ m ∈ members, NoRepeats m.2 :=
  and_congr_right fun _ => noRepeatsMembers_iff

/-- No key comes to be there twice. -/
theorem NoRepeats.reorder {d d' : Doc} (h : Reorder d d') (hd : NoRepeats d) : NoRepeats d' := by
  induction h with
  | members hperm ending =>
    rw [noRepeats_object_iff] at hd ⊢
    exact ⟨(hperm.map _).pairwise hd.1 Differ.symm, fun m hm => hd.2 m (hperm.mem_iff.2 hm)⟩
  | item _ l r ending ih =>
    rw [noRepeats_list_iff] at hd ⊢
    simp only [List.forall_mem_append, List.forall_mem_cons] at hd ⊢
    exact ⟨hd.1, ih hd.2.1, hd.2.2⟩
  | member _ key l r ending ih =>
    rw [noRepeats_object_iff] at hd ⊢
    obtain ⟨hkeys, hd⟩ := hd
    simp only [List.forall_mem_append, List.forall_mem_cons] at hd ⊢
    rw [List.map_append, List.map_cons] at hkeys ⊢
    exact ⟨hkeys, hd.1, ih hd.2.1, hd.2.2⟩

/-! ## Skipping -/

theorem skipItems_eq_ok_iff {items : List Doc} :
    skipItems items = .ok () ↔ ∀ d ∈ items, d.skip = .ok () := by
  induction items with
  | nil => simp [skipItems]
  | cons d items ih => rw [skipItems, check_bind_eq_ok_iff, ih, List.forall_mem_cons]

theorem skipMembers_eq_ok_iff {members : List (Key × Doc)} :
    skipMembers members = .ok () ↔ ∀ m ∈ members, m.2.skip = .ok () := by
  induction members with
  | nil => simp [skipMembers]
  | cons m members ih =>
    obtain ⟨k, d⟩ := m
    rw [skipMembers, check_bind_eq_ok_iff, ih, List.forall_mem_cons]

theorem skip_list_eq_ok_iff {items : List Doc} {ending : ListEnd} :
    skip (.list items ending) = .ok () ↔
      (∀ d ∈ items, d.skip = .ok ()) ∧ ending.fault? = none := by
  rw [skip, check_bind_eq_ok_iff, skipItems_eq_ok_iff]
  cases ending.fault? <;> simp

theorem skip_object_eq_ok_iff {members : List (Key × Doc)} {ending : ObjectEnd} :
    skip (.object members ending) = .ok () ↔
      (∀ m ∈ members, m.2.skip = .ok ()) ∧ ending.fault? = none := by
  rw [skip, check_bind_eq_ok_iff, skipMembers_eq_ok_iff]
  cases ending.fault? <;> simp

/-- A value that can be skipped can be skipped after a change. -/
theorem skip_of_reorder {d d' : Doc} (h : Reorder d d') (hd : d.skip = .ok ()) :
    d'.skip = .ok () := by
  induction h with
  | members hperm ending =>
    rw [skip_object_eq_ok_iff] at hd ⊢
    exact ⟨fun m hm => hd.1 m (hperm.mem_iff.2 hm), hd.2⟩
  | item _ l r ending ih =>
    rw [skip_list_eq_ok_iff] at hd ⊢
    simp only [List.forall_mem_append, List.forall_mem_cons] at hd ⊢
    exact ⟨⟨hd.1.1, ih hd.1.2.1, hd.1.2.2⟩, hd.2⟩
  | member _ key l r ending ih =>
    rw [skip_object_eq_ok_iff] at hd ⊢
    simp only [List.forall_mem_append, List.forall_mem_cons] at hd ⊢
    exact ⟨⟨hd.1.1, ih hd.1.2.1, hd.1.2.2⟩, hd.2⟩

end Doc

namespace Reader

variable {ε α β : Type}

/-! ## Readers that do not look at the order -/

/-- The reader takes the same after a change. -/
def Stable (r : Reader ε α) : Prop :=
  ∀ ⦃depth : Nat⦄ ⦃d d' : Doc⦄ ⦃a : α⦄, Doc.Reorder d d' → d.NoRepeats → r depth d = .ok a →
    r depth d' = .ok a

/-- **What is read after any number of changes** is the same, or nothing again. -/
theorem Stable.toOption_eq {r : Reader ε α} (hr : Stable r) {d d' : Doc} (hd : d.NoRepeats)
    (h : Doc.Reordered d d') (depth : Nat) : (r depth d).toOption = (r depth d').toOption := by
  have hone : ∀ {d d' : Doc}, d.NoRepeats → Doc.Reorder d d' →
      (r depth d).toOption = (r depth d').toOption := by
    intro d d' hd h
    cases hread : r depth d with
    | ok a => rw [hr h hd hread]
    | error m =>
      cases hread' : r depth d' with
      | ok a => cases hread.symm.trans (hr h.symm (hd.reorder h) hread')
      | error m' => rfl
  have hboth : d'.NoRepeats ∧ (r depth d).toOption = (r depth d').toOption := by
    induction h with
    | refl => exact ⟨hd, rfl⟩
    | tail _ hstep ih => exact ⟨ih.1.reorder hstep, ih.2.trans (hone ih.1 hstep)⟩
  exact hboth.2

/-- A reader of values that are no containers never meets a change. -/
theorem stable_of_not_container {r : Reader ε α}
    (hlist : ∀ depth items ending a, r depth (.list items ending) ≠ .ok a)
    (hobject : ∀ depth members ending a, r depth (.object members ending) ≠ .ok a) :
    Stable r := by
  intro depth d d' a h _ hread
  cases h with
  | members | member => exact absurd hread (hobject _ _ _ _)
  | item => exact absurd hread (hlist _ _ _ _)

theorem stable_string : Stable (string (ε := ε)) :=
  stable_of_not_container (fun _ _ _ _ => nofun) fun _ _ _ _ => nofun

theorem stable_bool : Stable (bool (ε := ε)) :=
  stable_of_not_container (fun _ _ _ _ => nofun) fun _ _ _ _ => nofun

theorem stable_single : Stable (single (ε := ε)) :=
  stable_of_not_container (fun _ _ _ _ => nofun) fun _ _ _ _ => nofun

theorem Stable.map {r : Reader ε α} (hr : Stable r) (f : α → β) :
    Stable fun depth doc => (r depth doc).map f := by
  intro depth d d' b h hd hread
  obtain ⟨a, ha, rfl⟩ := map_eq_ok_iff.1 hread
  exact map_eq_ok_iff.2 ⟨a, hr h hd ha, rfl⟩

theorem stable_nullable {r : Reader ε α} (hr : Stable r) : Stable (nullable r) := by
  intro depth d d' a h hd hread
  -- Only containers change, so that the value is not `null` before or after.
  have hnull : ∀ {e e' : Doc}, Doc.Reorder e e' →
      nullable r depth e = (r depth e).map some := by
    intro e e' h
    cases h <;> rfl
  rw [hnull h] at hread
  rw [hnull h.symm]
  exact hr.map some h hd hread

/-! ## Lists -/

theorem items_replace {r : Reader ε α} {depth : Nat} {d d' : Doc}
    (hd : ∀ a, r depth d = .ok a → r depth d' = .ok a) {l rest : List Doc} {i : Nat} {as : List α}
    (h : items r depth i (l ++ d :: rest) = .ok as) :
    items r depth i (l ++ d' :: rest) = .ok as := by
  induction l generalizing i as with
  | nil =>
    rw [List.nil_append, items] at h ⊢
    obtain ⟨a, ha, h⟩ := bind_eq_ok_iff.1 h
    have ha' := hd a (mapError_eq_ok_iff.1 ha)
    exact bind_eq_ok_iff.2 ⟨a, mapError_eq_ok_iff.2 ha', h⟩
  | cons e l ih =>
    rw [List.cons_append, items] at h ⊢
    obtain ⟨a, ha, h⟩ := bind_eq_ok_iff.1 h
    obtain ⟨as', has, h⟩ := bind_eq_ok_iff.1 h
    exact bind_eq_ok_iff.2 ⟨a, ha, bind_eq_ok_iff.2 ⟨as', ih has, h⟩⟩

/-- **A list** is read item by item. -/
theorem stable_list {r : Reader ε α} (hr : Stable r) : Stable (list r) := by
  intro depth d d' as h hd hread
  cases h with
  | members | member => cases hread
  | item h l rest ending =>
    rw [list_eq_ok_iff] at hread ⊢
    obtain ⟨hdepth, hending, hitems⟩ := hread
    rw [Doc.noRepeats_list_iff] at hd
    have hinner := hd _ (List.mem_append_right _ List.mem_cons_self)
    exact ⟨hdepth, hending, items_replace (fun a ha => hr h hinner ha) hitems⟩

/-! ## Objects -/

/-- One entry of an object, added to a table. -/
def entry (r : Reader ε α) (depth : Nat) (t : Table α) (m : Key × Doc) :
    Except (Misread ε) (Table α) := do
  let name ← key m.1
  let a ← within (.key name) (r depth m.2)
  return t.insert name a

theorem entries_eq_foldlM (r : Reader ε α) (depth : Nat) (t : Table α) (ms : List (Key × Doc)) :
    entries r depth t ms = ms.foldlM (entry r depth) t := by
  induction ms generalizing t with
  | nil => rfl
  | cons m ms ih =>
    obtain ⟨k, d⟩ := m
    simp only [entries, List.foldlM_cons, entry, bind_assoc, pure_bind, ih]

theorem entry_eq_ok_iff {r : Reader ε α} {depth : Nat} {t t' : Table α} {m : Key × Doc} :
    entry r depth t m = .ok t' ↔
      ∃ name a, m.1 = .ok name ∧ r depth m.2 = .ok a ∧ t.insert name a = t' := by
  rw [entry, bind_eq_ok_iff]
  simp only [key_eq_ok_iff, bind_eq_ok_iff, within, mapError_eq_ok_iff, pure, Except.pure,
    Except.ok.injEq]
  constructor
  · rintro ⟨name, hname, a, ha, h⟩
    exact ⟨name, a, hname, ha, h⟩
  · rintro ⟨name, a, hname, ha, h⟩
    exact ⟨name, hname, a, ha, h⟩

/-- Entries with different keys are stored in any order. -/
theorem entries_perm {r : Reader ε α} {depth : Nat} {ms ms' : List (Key × Doc)}
    (hperm : ms.Perm ms') (hkeys : (ms.map Prod.fst).Pairwise Doc.Differ) {t t' : Table α}
    (h : entries r depth t ms = .ok t') : entries r depth t ms' = .ok t' := by
  rw [entries_eq_foldlM] at h ⊢
  rw [List.pairwise_map] at hkeys
  have hcomm : ∀ b c : Key × Doc, Doc.Differ b.1 c.1 → ∀ t t₁ t₂, entry r depth t b = .ok t₁ →
      entry r depth t₁ c = .ok t₂ →
      ∃ u₁ u₂, entry r depth t c = .ok u₁ ∧ entry r depth u₁ b = .ok u₂ ∧ t₂ = u₂ := by
    intro b c hbc t t₁ t₂ hb hc
    obtain ⟨name, a, hname, ha, rfl⟩ := entry_eq_ok_iff.1 hb
    obtain ⟨name', a', hname', ha', rfl⟩ := entry_eq_ok_iff.1 hc
    have hne : name ≠ name' := fun heq => hbc name hname (heq ▸ hname')
    exact ⟨_, _, entry_eq_ok_iff.2 ⟨name', a', hname', ha', rfl⟩,
      entry_eq_ok_iff.2 ⟨name, a, hname, ha, rfl⟩, t.insert_comm hne a a'⟩
  have hstep : ∀ (s u : Table α) (b : Key × Doc) (s' : Table α), s = u →
      entry r depth s b = .ok s' → ∃ u', entry r depth u b = .ok u' ∧ s' = u' :=
    fun s u b s' hsu hs => ⟨s', hsu ▸ hs, rfl⟩
  obtain ⟨_, hread, rfl⟩ :=
    foldlM_perm ⟨Eq.refl, Eq.symm, Eq.trans⟩ hstep Doc.Differ.symm hcomm hperm hkeys h
  exact hread

theorem entries_replace {r : Reader ε α} {depth : Nat} {d d' : Doc}
    (hd : ∀ a, r depth d = .ok a → r depth d' = .ok a) {l rest : List (Key × Doc)} {k : Key}
    {t t' : Table α} (h : entries r depth t (l ++ (k, d) :: rest) = .ok t') :
    entries r depth t (l ++ (k, d') :: rest) = .ok t' := by
  rw [entries_eq_foldlM] at h ⊢
  refine foldlM_replace (fun t t₁ hstep => ?_) h
  obtain ⟨name, a, hname, ha, rfl⟩ := entry_eq_ok_iff.1 hstep
  exact entry_eq_ok_iff.2 ⟨name, a, hname, hd a ha, rfl⟩

/-- **A table** holds the same entries in whatever order they come. -/
theorem stable_table {r : Reader ε α} (hr : Stable r) : Stable (table r) := by
  intro depth d d' t h hd hread
  cases h with
  | item => cases hread
  | members hperm ending =>
    rw [table_eq_ok_iff] at hread ⊢
    rw [Doc.noRepeats_object_iff] at hd
    exact ⟨hread.1, hread.2.1, entries_perm hperm hd.1 hread.2.2⟩
  | member h k l rest ending =>
    rw [table_eq_ok_iff] at hread ⊢
    rw [Doc.noRepeats_object_iff] at hd
    have hinner := hd.2 _ (List.mem_append_right _ List.mem_cons_self)
    exact ⟨hread.1, hread.2.1, entries_replace (fun a ha => hr h hinner ha) hread.2.2⟩

/-! ## Any value -/

/-- **Any value** is read with its keys in increasing order. -/
theorem stable_json : Stable (json (ε := ε)) := by
  intro depth d d' v h hd hread
  -- The change may be at any depth, and each level is read by this reader again.
  induction h generalizing depth v with
  | members hperm ending =>
    simp only [json_object_eq_ok_iff, table_eq_ok_iff] at hread ⊢
    rw [Doc.noRepeats_object_iff] at hd
    obtain ⟨t, ⟨hdepth, hending, hentries⟩, hv⟩ := hread
    exact ⟨t, ⟨hdepth, hending, entries_perm hperm hd.1 hentries⟩, hv⟩
  | item _ l rest ending ih =>
    simp only [json_list_eq_ok_iff, list_eq_ok_iff] at hread ⊢
    rw [Doc.noRepeats_list_iff] at hd
    have hinner := hd _ (List.mem_append_right _ List.mem_cons_self)
    obtain ⟨vs, ⟨hdepth, hending, hitems⟩, hv⟩ := hread
    exact ⟨vs, ⟨hdepth, hending, items_replace (fun _ ha => ih hinner ha) hitems⟩, hv⟩
  | member _ k l rest ending ih =>
    simp only [json_object_eq_ok_iff, table_eq_ok_iff] at hread ⊢
    rw [Doc.noRepeats_object_iff] at hd
    have hinner := hd.2 _ (List.mem_append_right _ List.mem_cons_self)
    obtain ⟨t, ⟨hdepth, hending, hentries⟩, hv⟩ := hread
    exact ⟨t, ⟨hdepth, hending, entries_replace (fun _ ha => ih hinner ha) hentries⟩, hv⟩

theorem stable_understood (understand : Json → Except (Problem ε) α) :
    Stable (understood understand) := by
  intro depth d d' a h hd hread
  obtain ⟨v, hv, hread⟩ := bind_eq_ok_iff.1 hread
  exact bind_eq_ok_iff.2 ⟨v, stable_json h hd hv, hread⟩

end Reader

/-! ## Records -/

/-- Two fields may be set in any order. -/
def Field.Commutes {ε α : Type} (f g : Field ε α) : Prop :=
  ∀ ⦃depth depth' : Nat⦄ ⦃d d' : Doc⦄ ⦃set set' : α → α⦄, f.read depth d = .ok set →
    g.read depth' d' = .ok set' → ∀ a, set (set' a) = set' (set a)

instance {ε α : Type} : Std.Symm (Field.Commutes (ε := ε) (α := α)) where
  symm _ _ h _ _ _ _ _ _ hg hf a := (h hf hg a).symm

namespace Reader

variable {ε α : Type} {l : Layout ε α} {depth : Nat}

/-- One member of a record, with the fields that were seen and the record so far. -/
def fieldMember (l : Layout ε α) (depth : Nat) (s : List String × α) (m : Key × Doc) :
    Except (Misread ε) (List String × α) := do
  let name ← key m.1
  match l.fields.find? fun field => field.name == name with
  | some field =>
    if s.1.contains name then fail (.duplicateField name)
    let set ← within (.key name) (field.read depth m.2)
    return (name :: s.1, set s.2)
  | none =>
    match m.2.skip with
    | .ok () => return s
    | .error cause => within (.key name) (malformed cause)

theorem fieldMembers_eq_foldlM (ms : List (Key × Doc)) (seen : List String) (a : α) :
    fieldMembers l depth ms seen a = ms.foldlM (fieldMember l depth) (seen, a) := by
  induction ms generalizing seen a with
  | nil => rfl
  | cons m ms ih =>
    obtain ⟨k, d⟩ := m
    rw [fieldMembers, List.foldlM_cons, fieldMember, bind_assoc]
    congr 1
    funext name
    dsimp only
    cases l.fields.find? fun field => field.name == name with
    | some field =>
      cases seen.contains name with
      | true => rfl
      | false => simp [ih]
    | none =>
      cases d.skip with
      | ok => simp [ih]
      | error => rfl

/-- A member is a field that was not seen, or is skipped. -/
theorem fieldMember_eq_ok_iff {s s' : List String × α} {m : Key × Doc} :
    fieldMember l depth s m = .ok s' ↔ ∃ name, m.1 = .ok name ∧
      ((∃ field set, l.fields.find? (fun field => field.name == name) = some field ∧
          name ∉ s.1 ∧ field.read depth m.2 = .ok set ∧ (name :: s.1, set s.2) = s') ∨
        l.fields.find? (fun field => field.name == name) = none ∧ m.2.skip = .ok () ∧ s = s') := by
  rw [fieldMember, bind_eq_ok_iff]
  refine exists_congr fun name => ?_
  rw [key_eq_ok_iff]
  refine and_congr_right fun _ => ?_
  cases l.fields.find? fun field => field.name == name with
  | some field =>
    by_cases hseen : name ∈ s.1
    · have hcontains : s.1.contains name = true := List.elem_iff.2 hseen
      simp only [hcontains, if_true, hseen]
      refine ⟨nofun, ?_⟩
      rintro (⟨_, _, _, hnot, _⟩ | ⟨hnone, _⟩)
      · exact absurd trivial hnot
      · cases hnone
    · have hcontains : s.1.contains name = false := by simpa using hseen
      simp only [hcontains, Bool.false_eq_true, if_false, bind_eq_ok_iff, within,
        mapError_eq_ok_iff]
      constructor
      · rintro ⟨set, hset, h⟩
        exact .inl ⟨field, set, rfl, hseen, hset, Except.ok.inj h⟩
      · rintro (⟨_, set, hfield, -, hset, rfl⟩ | ⟨hnone, _⟩)
        · obtain rfl := Option.some.inj hfield
          exact ⟨set, hset, rfl⟩
        · cases hnone
  | none =>
    cases m.2.skip with
    | ok => simp [pure, Except.pure]
    | error => simp [within, malformed, fail, mapError_error]

/-- The same fields were seen, and the records are the same. -/
def SameSeen (s t : List String × α) : Prop := (∀ name, name ∈ s.1 ↔ name ∈ t.1) ∧ s.2 = t.2

theorem sameSeen_equivalence : Equivalence (SameSeen (α := α)) where
  refl _ := ⟨fun _ => .rfl, rfl⟩
  symm h := ⟨fun name => (h.1 name).symm, h.2.symm⟩
  trans h h' := ⟨fun name => (h.1 name).trans (h'.1 name), h.2.trans h'.2⟩

theorem fieldMember_of_sameSeen {s t s' : List String × α} {m : Key × Doc} (hst : SameSeen s t)
    (h : fieldMember l depth s m = .ok s') :
    ∃ t', fieldMember l depth t m = .ok t' ∧ SameSeen s' t' := by
  obtain ⟨name, hname, ⟨field, set, hfind, hseen, hset, rfl⟩ | ⟨hfind, hskip, rfl⟩⟩ :=
    fieldMember_eq_ok_iff.1 h
  · refine ⟨(name :: t.1, set t.2), fieldMember_eq_ok_iff.2 ⟨name, hname, .inl
      ⟨field, set, hfind, fun hmem => hseen ((hst.1 name).2 hmem), hset, rfl⟩⟩, ?_, ?_⟩
    · intro other
      simp only [List.mem_cons, hst.1]
    · rw [hst.2]
  · exact ⟨t, fieldMember_eq_ok_iff.2 ⟨name, hname, .inr ⟨hfind, hskip, rfl⟩⟩, hst⟩

/-- Members with different keys can be exchanged if the fields can be. -/
theorem fieldMember_comm (hfields : l.fields.Pairwise Field.Commutes) {m m' : Key × Doc}
    (hkeys : Doc.Differ m.1 m'.1) {s s₁ s₂ : List String × α}
    (h : fieldMember l depth s m = .ok s₁) (h' : fieldMember l depth s₁ m' = .ok s₂) :
    ∃ t₁ t₂, fieldMember l depth s m' = .ok t₁ ∧ fieldMember l depth t₁ m = .ok t₂ ∧
      SameSeen s₂ t₂ := by
  simp only [fieldMember_eq_ok_iff] at h h' ⊢
  obtain ⟨name, hname, hread⟩ := h
  obtain ⟨name', hname', hread'⟩ := h'
  have hne : name ≠ name' := fun heq => hkeys name hname (heq ▸ hname')
  rcases hread with ⟨field, set, hfind, hseen, hset, rfl⟩ | ⟨hfind, hskip, rfl⟩
  · rcases hread' with ⟨field', set', hfind', hseen', hset', rfl⟩ | ⟨hfind', hskip', rfl⟩
    · rw [List.mem_cons, not_or] at hseen'
      have hsets : set (set' s.2) = set' (set s.2) := by
        have hdiffer : field ≠ field' := by
          rintro rfl
          have hfield : field.name = name := by simpa using List.find?_some hfind
          have hfield' : field.name = name' := by simpa using List.find?_some hfind'
          exact hne (hfield.symm.trans hfield')
        exact hfields.forall (List.mem_of_find?_eq_some hfind)
          (List.mem_of_find?_eq_some hfind') hdiffer hset hset' s.2
      have hseen : name ∉ name' :: s.1 := by
        rw [List.mem_cons, not_or]
        exact ⟨hne, hseen⟩
      refine ⟨_, _, ⟨name', hname', .inl ⟨field', set', hfind', hseen'.2, hset', rfl⟩⟩,
        ⟨name, hname, .inl ⟨field, set, hfind, hseen, hset, rfl⟩⟩, fun other => ?_, hsets.symm⟩
      simp only [List.mem_cons]
      exact or_left_comm
    · exact ⟨_, _, ⟨name', hname', .inr ⟨hfind', hskip', rfl⟩⟩,
        ⟨name, hname, .inl ⟨field, set, hfind, hseen, hset, rfl⟩⟩, sameSeen_equivalence.refl _⟩
  · -- The member that is skipped leaves what the other one finds.
    exact ⟨_, _, ⟨name', hname', hread'⟩, ⟨name, hname, .inr ⟨hfind, hskip, rfl⟩⟩,
      sameSeen_equivalence.refl _⟩

theorem fieldMembers_perm (hfields : l.fields.Pairwise Field.Commutes) {ms ms' : List (Key × Doc)}
    (hperm : ms.Perm ms') (hkeys : (ms.map Prod.fst).Pairwise Doc.Differ) {seen : List String}
    {a : α} {s : List String × α} (h : fieldMembers l depth ms seen a = .ok s) :
    ∃ t, fieldMembers l depth ms' seen a = .ok t ∧ SameSeen s t := by
  rw [fieldMembers_eq_foldlM] at h ⊢
  rw [List.pairwise_map] at hkeys
  have hcomm : ∀ m m' : Key × Doc, Doc.Differ m.1 m'.1 → ∀ s s₁ s₂,
      fieldMember l depth s m = .ok s₁ → fieldMember l depth s₁ m' = .ok s₂ →
      ∃ t₁ t₂, fieldMember l depth s m' = .ok t₁ ∧ fieldMember l depth t₁ m = .ok t₂ ∧
        SameSeen s₂ t₂ :=
    fun _ _ hkeys _ _ _ => fieldMember_comm hfields hkeys
  have hstep : ∀ (s t : List String × α) (m : Key × Doc) (s' : List String × α), SameSeen s t →
      fieldMember l depth s m = .ok s' → ∃ t', fieldMember l depth t m = .ok t' ∧ SameSeen s' t' :=
    fun _ _ _ _ => fieldMember_of_sameSeen
  exact foldlM_perm sameSeen_equivalence hstep Doc.Differ.symm hcomm hperm hkeys h

theorem fieldMembers_replace {d d' : Doc} (hskip : d.skip = .ok () → d'.skip = .ok ())
    (hread : ∀ field ∈ l.fields, ∀ set, field.read depth d = .ok set →
      field.read depth d' = .ok set) {before rest : List (Key × Doc)} {k : Key}
    {seen : List String} {a : α} {s : List String × α}
    (h : fieldMembers l depth (before ++ (k, d) :: rest) seen a = .ok s) :
    fieldMembers l depth (before ++ (k, d') :: rest) seen a = .ok s := by
  rw [fieldMembers_eq_foldlM] at h ⊢
  refine foldlM_replace (fun t t₁ hstep => ?_) h
  obtain ⟨name, hname, ⟨field, set, hfind, hseen, hset, rfl⟩ | ⟨hfind, hd, rfl⟩⟩ :=
    fieldMember_eq_ok_iff.1 hstep
  · have hset' := hread field (List.mem_of_find?_eq_some hfind) set hset
    exact fieldMember_eq_ok_iff.2 ⟨name, hname, .inl ⟨field, set, hfind, hseen, hset', rfl⟩⟩
  · exact fieldMember_eq_ok_iff.2 ⟨name, hname, .inr ⟨hfind, hskip hd, rfl⟩⟩

theorem fieldItems_replace {d d' : Doc} {ending : ListEnd} {fields : List (Field ε α)}
    (hread : ∀ field ∈ fields, ∀ set, field.read depth d = .ok set →
      field.read depth d' = .ok set) {before rest : List Doc} {i : Nat} {a b : α}
    (h : fieldItems l depth ending i fields (before ++ d :: rest) a = .ok b) :
    fieldItems l depth ending i fields (before ++ d' :: rest) a = .ok b := by
  induction before generalizing i fields a with
  | nil =>
    cases fields with
    | nil => cases h
    | cons field fields =>
      rw [List.nil_append, fieldItems] at h ⊢
      obtain ⟨set, hset, h⟩ := bind_eq_ok_iff.1 h
      have hset' := hread field List.mem_cons_self set (mapError_eq_ok_iff.1 hset)
      exact bind_eq_ok_iff.2 ⟨set, mapError_eq_ok_iff.2 hset', h⟩
  | cons e before ih =>
    cases fields with
    | nil => cases h
    | cons field fields =>
      rw [List.cons_append, fieldItems] at h ⊢
      obtain ⟨set, hset, h⟩ := bind_eq_ok_iff.1 h
      have hrest := ih (fun f hf => hread f (List.mem_cons_of_mem _ hf)) h
      exact bind_eq_ok_iff.2 ⟨set, hset, hrest⟩

theorem missing_of_sameSeen {s t : List String × α} (h : SameSeen s t) :
    missing l s.1 = missing l t.1 := by
  have hcontains : ∀ name, s.1.contains name = t.1.contains name := by
    intro name
    simp [List.contains_eq_mem, h.1]
  simp only [missing, hcontains]

/-- **A record** is the same in whatever order its fields come. -/
theorem stable_record (hread : ∀ field ∈ l.fields, Stable field.read)
    (hfields : l.fields.Pairwise Field.Commutes) : Stable (record l) := by
  intro depth d d' a h hd ha
  cases h with
  | members hperm ending =>
    rw [record_object_eq_ok_iff] at ha ⊢
    rw [Doc.noRepeats_object_iff] at hd
    obtain ⟨hdepth, seen, hms, hending, hmissing⟩ := ha
    -- The names come to be seen in another order, which only matters for what is missing.
    obtain ⟨⟨seen', a'⟩, hms', hsame⟩ := fieldMembers_perm hfields hperm hd.1 hms
    obtain rfl : a = a' := hsame.2
    exact ⟨hdepth, seen', hms', hending, (missing_of_sameSeen hsame).symm.trans hmissing⟩
  | item h before rest ending =>
    -- A record may also be written as a list of its fields, and their places stay.
    rw [record_list_eq_ok_iff] at ha ⊢
    rw [Doc.noRepeats_list_iff] at hd
    have hinner := hd _ (List.mem_append_right _ List.mem_cons_self)
    exact ⟨ha.1, fieldItems_replace (fun f hf _ hset => hread f hf h hinner hset) ha.2⟩
  | member h k before rest ending =>
    rw [record_object_eq_ok_iff] at ha ⊢
    rw [Doc.noRepeats_object_iff] at hd
    have hinner := hd.2 _ (List.mem_append_right _ List.mem_cons_self)
    obtain ⟨hdepth, seen, hms, hend⟩ := ha
    exact ⟨hdepth, seen, fieldMembers_replace (Doc.skip_of_reorder h)
      (fun f hf _ hset => hread f hf h hinner hset) hms, hend⟩

end Reader

end Json

end Adventure
