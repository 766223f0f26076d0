/-!
# Tables: finite maps with string keys

A `Table α` is a finite map from strings to `α`, kept as the list of its entries with keys in
increasing order.  The order is that of code points, which is also the order of the UTF-8 bytes.
Since the list is determined by the look-ups, two tables with equal look-ups are equal
(`Table.ext_get?`), and every traversal visits the keys in the same order.

## Main definitions

* `Table`, `Table.get?`, `Table.insert`, `Table.erase`: the map and its operations.
* `Table.insertNew`: keeps the entry that is there (first writer wins).
* `Table.union`: the right table wins over the left one.
* `Names`: a finite set of strings, the keys of a table of units.
-/

namespace Adventure

universe u v

/-- A finite map from strings to `α`; the entries stand in increasing order of their keys. -/
structure Table (α : Type u) where
  entries : List (String × α)
  sorted : entries.Pairwise fun a b => a.1 < b.1

namespace Table

variable {α : Type u} {β : Type v}

/-- The value stored under a key in a list of entries. -/
def find (key : String) : List (String × α) → Option α
  | [] => none
  | (k, v) :: rest => if key = k then some v else find key rest

/-- Puts an entry in its place, replacing the one with the same key. -/
def place (key : String) (value : α) : List (String × α) → List (String × α)
  | [] => [(key, value)]
  | (k, v) :: rest =>
    if key = k then (key, value) :: rest
    else if key < k then (key, value) :: (k, v) :: rest
    -- The head has the smaller key and stays in front.
    else (k, v) :: place key value rest

theorem lt_of_not_lt {a b : String} (hne : ¬a = b) (hlt : ¬a < b) : b < a := by
  have hle : b ≤ a := String.not_lt.1 hlt
  by_cases h : b < a
  · exact h
  · exact absurd (String.le_antisymm (String.not_lt.1 h) hle) hne

theorem mem_place {key : String} {value : α} {e : String × α} {l : List (String × α)}
    (h : e ∈ place key value l) : e = (key, value) ∨ e ∈ l := by
  induction l with
  | nil => simpa [place] using h
  | cons head rest ih =>
    obtain ⟨k, v⟩ := head
    rw [place] at h
    split at h
    · rcases List.mem_cons.1 h with h | h
      · exact .inl h
      · exact .inr (.tail _ h)
    · split at h
      · rcases List.mem_cons.1 h with h | h
        · exact .inl h
        · exact .inr h
      · rcases List.mem_cons.1 h with h | h
        · exact .inr (h ▸ .head _)
        · exact (ih h).imp id (.tail _)

theorem pairwise_place (key : String) (value : α) {l : List (String × α)}
    (h : l.Pairwise fun a b => a.1 < b.1) :
    (place key value l).Pairwise fun a b => a.1 < b.1 := by
  induction l with
  | nil => simp [place]
  | cons head rest ih =>
    obtain ⟨k, v⟩ := head
    obtain ⟨hk, hrest⟩ := List.pairwise_cons.1 h
    rw [place]
    split
    · -- The entry takes the place of the head.
      next heq => exact List.pairwise_cons.2 ⟨fun e he => heq ▸ hk e he, hrest⟩
    · next hne =>
      split
      · -- The entry stands before the head.
        next hlt =>
        refine List.pairwise_cons.2 ⟨fun e he => ?_, h⟩
        rcases List.mem_cons.1 he with rfl | he
        · exact hlt
        · exact String.lt_trans hlt (hk e he)
      · -- The entry stands behind the head.
        next hlt =>
        refine List.pairwise_cons.2 ⟨fun e he => ?_, ih hrest⟩
        rcases mem_place he with rfl | he
        · exact lt_of_not_lt hne hlt
        · exact hk e he

/-! ## Operations -/

/-- The table without entries. -/
def empty : Table α := ⟨[], .nil⟩

instance : EmptyCollection (Table α) := ⟨empty⟩

instance : Inhabited (Table α) := ⟨empty⟩

/-- The value stored under `key`. -/
def get? (t : Table α) (key : String) : Option α := find key t.entries

/-- Whether `key` has a value. -/
def contains (t : Table α) (key : String) : Bool := (t.get? key).isSome

/-- Stores `value` under `key`; an earlier value is replaced. -/
def insert (t : Table α) (key : String) (value : α) : Table α :=
  ⟨place key value t.entries, pairwise_place key value t.sorted⟩

/-- Stores `value` under `key` unless the key has a value. -/
def insertNew (t : Table α) (key : String) (value : α) : Table α :=
  if t.contains key then t else t.insert key value

/-- Removes the entry of `key`. -/
def erase (t : Table α) (key : String) : Table α :=
  ⟨t.entries.filter fun e => e.1 ≠ key, t.sorted.filter _⟩

/-- The keys, in increasing order. -/
def keys (t : Table α) : List String := t.entries.map Prod.fst

/-- The values, in the order of their keys. -/
def values (t : Table α) : List α := t.entries.map Prod.snd

/-- The number of entries. -/
def size (t : Table α) : Nat := t.entries.length

/-- Whether there is no entry. -/
def isEmpty (t : Table α) : Bool := t.entries.isEmpty

/-- The table of a list of entries; of two entries with one key the later counts. -/
def ofList (l : List (String × α)) : Table α :=
  l.foldl (fun t e => t.insert e.1 e.2) ∅

/-- All entries of both tables; under a common key the entry of `top` counts. -/
def union (base top : Table α) : Table α :=
  top.entries.foldl (fun t e => t.insert e.1 e.2) base

/-! ## Look-ups -/

theorem find_place_self (key : String) (value : α) (l : List (String × α)) :
    find key (place key value l) = some value := by
  induction l with
  | nil => simp [place, find]
  | cons head rest ih =>
    obtain ⟨k, v⟩ := head
    rw [place]
    split
    · simp [find]
    · next hne =>
      split
      · simp [find]
      · simp [find, hne, ih]

theorem find_place_of_ne {key other : String} (hne : other ≠ key) (value : α)
    (l : List (String × α)) : find other (place key value l) = find other l := by
  induction l with
  | nil => simp [place, find, hne]
  | cons head rest ih =>
    obtain ⟨k, v⟩ := head
    rw [place]
    split
    · next heq => subst heq; simp [find, hne]
    · split
      · simp [find, hne]
      · simp [find, ih]

theorem find_filter_self (key : String) (l : List (String × α)) :
    find key (l.filter fun e => e.1 ≠ key) = none := by
  induction l with
  | nil => rfl
  | cons head rest ih =>
    by_cases h : head.1 = key
    · simpa [List.filter, h] using ih
    · simpa [List.filter, h, find, Ne.symm h] using ih

theorem find_filter_of_ne {key other : String} (hne : other ≠ key) (l : List (String × α)) :
    find other (l.filter fun e => e.1 ≠ key) = find other l := by
  induction l with
  | nil => rfl
  | cons head rest ih =>
    obtain ⟨k, v⟩ := head
    by_cases h : k = key
    · subst h; simpa [List.filter, find, hne] using ih
    · simp only [List.filter, h, ne_eq, not_false_eq_true, decide_true, find]
      simp only [ne_eq] at ih
      rw [ih]

@[simp] theorem get?_empty (key : String) : (∅ : Table α).get? key = none := rfl

@[simp] theorem get?_insert_self (t : Table α) (key : String) (value : α) :
    (t.insert key value).get? key = some value :=
  find_place_self key value t.entries

theorem get?_insert_of_ne (t : Table α) {key other : String} (hne : other ≠ key) (value : α) :
    (t.insert key value).get? other = t.get? other :=
  find_place_of_ne hne value t.entries

theorem get?_insert (t : Table α) (key other : String) (value : α) :
    (t.insert key value).get? other = if other = key then some value else t.get? other := by
  split
  · next h => rw [h, get?_insert_self]
  · next h => exact get?_insert_of_ne t h value

@[simp] theorem get?_erase_self (t : Table α) (key : String) : (t.erase key).get? key = none :=
  find_filter_self key t.entries

theorem get?_erase_of_ne (t : Table α) {key other : String} (hne : other ≠ key) :
    (t.erase key).get? other = t.get? other :=
  find_filter_of_ne hne t.entries

theorem get?_insertNew (t : Table α) (key other : String) (value : α) :
    (t.insertNew key value).get? other =
      if other = key then some ((t.get? key).getD value) else t.get? other := by
  unfold insertNew contains
  split
  · next h =>
    obtain ⟨w, hw⟩ := Option.isSome_iff_exists.1 h
    split
    · next heq => rw [heq, hw]; rfl
    · rfl
  · next h =>
    rw [get?_insert]
    split
    · cases hk : t.get? key with
      | none => rfl
      | some w => simp [hk] at h
    · rfl

/-! ## Keys -/

theorem contains_iff {t : Table α} {key : String} :
    t.contains key = true ↔ ∃ value, t.get? key = some value :=
  Option.isSome_iff_exists

@[simp] theorem contains_empty (key : String) : (∅ : Table α).contains key = false := rfl

theorem contains_of_get? {t : Table α} {key : String} {value : α} (h : t.get? key = some value) :
    t.contains key = true :=
  contains_iff.2 ⟨value, h⟩

theorem get?_eq_none_iff {t : Table α} {key : String} :
    t.get? key = none ↔ t.contains key = false := by
  simp [contains]

@[simp] theorem contains_insert (t : Table α) (key other : String) (value : α) :
    (t.insert key value).contains other = (decide (other = key) || t.contains other) := by
  unfold contains
  rw [get?_insert]
  by_cases h : other = key <;> simp [h]

@[simp] theorem contains_insertNew (t : Table α) (key other : String) (value : α) :
    (t.insertNew key value).contains other = (decide (other = key) || t.contains other) := by
  unfold contains
  rw [get?_insertNew]
  by_cases h : other = key <;> simp [h]

@[simp] theorem contains_erase (t : Table α) (key other : String) :
    (t.erase key).contains other = (decide (other ≠ key) && t.contains other) := by
  unfold contains
  by_cases h : other = key
  · simp [h]
  · simp [h, get?_erase_of_ne t h]

/-- What is found after `insertNew` was there before or is the new value. -/
theorem get?_insertNew_cases {t : Table α} {key other : String} {value w : α}
    (h : (t.insertNew key value).get? other = some w) :
    t.get? other = some w ∨ other = key ∧ value = w := by
  rw [get?_insertNew] at h
  split at h
  · next heq =>
    subst heq
    cases hk : t.get? other with
    | none => exact .inr ⟨rfl, by simpa [hk] using h⟩
    | some v => exact .inl (by simpa [hk] using h)
  · exact .inl h

/-- An entry that is there stays under `insertNew`. -/
theorem get?_insertNew_of_some {t : Table α} {key other : String} {value w : α}
    (h : t.get? other = some w) : (t.insertNew key value).get? other = some w := by
  rw [get?_insertNew]
  split
  · next heq => subst heq; simp [h]
  · exact h

theorem find_isSome_iff {key : String} {l : List (String × α)} :
    (find key l).isSome ↔ key ∈ l.map Prod.fst := by
  induction l with
  | nil => simp [find]
  | cons head rest ih =>
    obtain ⟨k, v⟩ := head
    by_cases h : key = k
    · simp [find, h]
    · simp [find, h, ih]

theorem mem_keys_iff {t : Table α} {key : String} : key ∈ t.keys ↔ t.contains key = true :=
  find_isSome_iff.symm

theorem get?_foldl_insert (l : List (String × α)) (hl : l.Pairwise fun a b => a.1 < b.1)
    (t : Table α) (key : String) :
    (l.foldl (fun t e => t.insert e.1 e.2) t).get? key = (find key l).or (t.get? key) := by
  induction l generalizing t with
  | nil => simp [find]
  | cons head rest ih =>
    obtain ⟨k, v⟩ := head
    obtain ⟨hk, hrest⟩ := List.pairwise_cons.1 hl
    rw [List.foldl_cons, ih hrest, get?_insert, find]
    by_cases h : key = k
    · -- The key of the head comes only once.
      have hnone : find key rest = none := by
        rw [← Option.not_isSome_iff_eq_none, find_isSome_iff, List.mem_map]
        rintro ⟨e, he, rfl⟩
        exact absurd (h ▸ hk e he) (String.lt_irrefl _)
      simp [h ▸ hnone, h]
    · simp [h]

theorem get?_union (base top : Table α) (key : String) :
    (base.union top).get? key = (top.get? key).or (base.get? key) :=
  get?_foldl_insert top.entries top.sorted base key

theorem contains_union (base top : Table α) (key : String) :
    (base.union top).contains key = (top.contains key || base.contains key) := by
  unfold contains
  rw [get?_union, Option.isSome_or]

/-! Storing the members of a list, the first of each key. -/

section Fold

variable (key : β → String) (value : β → α)

theorem contains_foldl_insertNew (l : List β) (t : Table α) (k : String) :
    (l.foldl (fun t b => t.insertNew (key b) (value b)) t).contains k =
      (t.contains k || l.any fun b => key b == k) := by
  induction l generalizing t with
  | nil => simp
  | cons b l ih =>
    rw [List.foldl_cons, ih, contains_insertNew, List.any_cons, Bool.or_comm (decide _),
      Bool.or_assoc]
    congr 2
    simp only [Bool.beq_eq_decide_eq, eq_comm]

theorem get?_foldl_insertNew_cases {l : List β} {t : Table α} {k : String} {v : α}
    (h : (l.foldl (fun t b => t.insertNew (key b) (value b)) t).get? k = some v) :
    t.get? k = some v ∨ ∃ b ∈ l, key b = k ∧ value b = v := by
  induction l generalizing t with
  | nil => exact .inl h
  | cons b l ih =>
    rcases ih h with h | ⟨c, hc, hk⟩
    · rcases get?_insertNew_cases h with h | ⟨rfl, hv⟩
      · exact .inl h
      · exact .inr ⟨b, .head _, rfl, hv⟩
    · exact .inr ⟨c, .tail _ hc, hk⟩

theorem get?_foldl_insertNew_of_some {l : List β} {t : Table α} {k : String} {v : α}
    (h : t.get? k = some v) :
    (l.foldl (fun t b => t.insertNew (key b) (value b)) t).get? k = some v := by
  induction l generalizing t with
  | nil => exact h
  | cons b l ih => exact ih (get?_insertNew_of_some h)

theorem insertNew_of_contains {t : Table α} {k : String} (h : t.contains k = true) (v : α) :
    t.insertNew k v = t :=
  if_pos h

/-- Storing members whose keys are all there changes nothing. -/
theorem foldl_insertNew_of_contains {l : List β} {t : Table α}
    (h : ∀ b ∈ l, t.contains (key b) = true) :
    l.foldl (fun t b => t.insertNew (key b) (value b)) t = t := by
  induction l with
  | nil => rfl
  | cons b l ih =>
    rw [List.forall_mem_cons] at h
    rw [List.foldl_cons, insertNew_of_contains h.1, ih h.2]

end Fold

theorem length_place (key : String) (value : α) {l : List (String × α)}
    (hl : l.Pairwise fun a b => a.1 < b.1) :
    (place key value l).length = if (find key l).isSome then l.length else l.length + 1 := by
  induction l with
  | nil => simp [place, find]
  | cons head rest ih =>
    obtain ⟨k, v⟩ := head
    obtain ⟨hk, hrest⟩ := List.pairwise_cons.1 hl
    rw [place, find]
    by_cases heq : key = k
    · simp [heq]
    · by_cases hlt : key < k
      · -- A key before the head is in front of every other key.
        have hnone : find key rest = none := by
          rw [← Option.not_isSome_iff_eq_none, find_isSome_iff, List.mem_map]
          rintro ⟨e, he, rfl⟩
          exact absurd (String.lt_trans hlt (hk e he)) (String.lt_irrefl _)
        simp [heq, hlt, hnone]
      · simp only [heq, hlt, if_false, List.length_cons, ih hrest]
        split <;> rfl

theorem size_insert (t : Table α) (key : String) (value : α) :
    (t.insert key value).size = if t.contains key then t.size else t.size + 1 :=
  length_place key value t.sorted

/-! ## Extensionality -/

theorem find_eq_some_iff {key : String} {value : α} {l : List (String × α)}
    (h : l.Pairwise fun a b => a.1 < b.1) : find key l = some value ↔ (key, value) ∈ l := by
  induction l with
  | nil => simp [find]
  | cons head rest ih =>
    obtain ⟨k, v⟩ := head
    obtain ⟨hk, hrest⟩ := List.pairwise_cons.1 h
    rw [find, List.mem_cons]
    split
    · next heq =>
      subst heq
      constructor
      · rintro ⟨⟩
        exact .inl rfl
      · rintro (h | h)
        · rw [(Prod.mk.inj h).2]
        · exact absurd (hk _ h) (String.lt_irrefl _)
    · next hne =>
      rw [ih hrest]
      constructor
      · exact .inr
      · rintro (h | h)
        · exact absurd (Prod.mk.inj h).1 hne
        · exact h

theorem mem_entries_iff {t : Table α} {key : String} {value : α} :
    (key, value) ∈ t.entries ↔ t.get? key = some value :=
  (find_eq_some_iff t.sorted).symm

theorem mem_values_iff {t : Table α} {value : α} :
    value ∈ t.values ↔ ∃ key, t.get? key = some value := by
  simp [values, ← mem_entries_iff]

theorem mem_values_union {base top : Table α} {value : α} (h : value ∈ (base.union top).values) :
    value ∈ top.values ∨ value ∈ base.values := by
  obtain ⟨key, hkey⟩ := mem_values_iff.1 h
  rw [get?_union, Option.or_eq_some_iff] at hkey
  rcases hkey with hkey | ⟨-, hkey⟩
  · exact .inl (mem_values_iff.2 ⟨key, hkey⟩)
  · exact .inr (mem_values_iff.2 ⟨key, hkey⟩)

theorem eq_of_pairwise_of_mem_iff {l m : List (String × α)}
    (hl : l.Pairwise fun a b => a.1 < b.1) (hm : m.Pairwise fun a b => a.1 < b.1)
    (h : ∀ e, e ∈ l ↔ e ∈ m) : l = m := by
  induction l generalizing m with
  | nil =>
    cases m with
    | nil => rfl
    | cons e m => exact absurd ((h e).2 (.head _)) List.not_mem_nil
  | cons a l ih =>
    cases m with
    | nil => exact absurd ((h a).1 (.head _)) List.not_mem_nil
    | cons b m =>
      obtain ⟨ha, hl'⟩ := List.pairwise_cons.1 hl
      obtain ⟨hb, hm'⟩ := List.pairwise_cons.1 hm
      -- Both heads are the least entry.
      have hab : a = b := by
        rcases List.mem_cons.1 ((h a).1 (.head _)) with hab | hab
        · exact hab
        · rcases List.mem_cons.1 ((h b).2 (.head _)) with hba | hba
          · exact hba.symm
          · exact absurd (String.lt_trans (ha _ hba) (hb _ hab)) (String.lt_irrefl _)
      subst hab
      refine congrArg _ (ih hl' hm' fun e => ?_)
      constructor
      · intro he
        rcases List.mem_cons.1 ((h e).1 (.tail _ he)) with rfl | he'
        · exact absurd (ha _ he) (String.lt_irrefl _)
        · exact he'
      · intro he
        rcases List.mem_cons.1 ((h e).2 (.tail _ he)) with rfl | he'
        · exact absurd (hb _ he) (String.lt_irrefl _)
        · exact he'

/-- Tables with equal look-ups are equal. -/
theorem ext_get? {s t : Table α} (h : ∀ key, s.get? key = t.get? key) : s = t := by
  have : s.entries = t.entries :=
    eq_of_pairwise_of_mem_iff s.sorted t.sorted fun ⟨k, v⟩ => by
      rw [mem_entries_iff, mem_entries_iff, h]
  cases s
  cases t
  cases this
  rfl

/-- Under two keys, values are stored in any order. -/
theorem insert_comm (t : Table α) {key other : String} (h : key ≠ other) (v w : α) :
    (t.insert key v).insert other w = (t.insert other w).insert key v := by
  apply ext_get?
  intro k
  simp only [get?_insert]
  by_cases hk : k = key
  · simp [hk, h]
  · simp [hk]

theorem insertNew_comm (t : Table α) {key other : String} (h : key ≠ other) (v w : α) :
    (t.insertNew key v).insertNew other w = (t.insertNew other w).insertNew key v := by
  apply ext_get?
  intro k
  simp only [get?_insertNew]
  by_cases hk : k = key
  · simp [hk, h]
  · by_cases ho : k = other <;> simp [hk, ho, Ne.symm h]

/-- Only an entry that is there can be inserted without a change. -/
theorem insert_eq_self_iff {t : Table α} {key : String} {value : α} :
    t.insert key value = t ↔ t.get? key = some value := by
  constructor
  · intro h
    rw [← h, get?_insert_self]
  · intro h
    apply ext_get?
    intro other
    rw [get?_insert]
    split
    · next heq => rw [heq, h]
    · rfl

@[simp] theorem insert_insert (t : Table α) (key : String) (value : α) :
    (t.insert key value).insert key value = t.insert key value := by
  apply ext_get?
  intro other
  rw [get?_insert, get?_insert]
  split <;> rfl

end Table

/-! ## Finite sets of names -/

/-- A finite set of strings. -/
abbrev Names := Table Unit

namespace Names

/-- The set with `name` added. -/
def add (s : Names) (name : String) : Names := s.insert name ()

/-- The set of the names in a list. -/
def ofList (l : List String) : Names := l.foldl add ∅

theorem contains_add (s : Names) (name other : String) :
    (s.add name).contains other = (decide (other = name) || s.contains other) := by
  unfold add Table.contains
  rw [Table.get?_insert]
  by_cases h : other = name <;> simp [h]

end Names

end Adventure
