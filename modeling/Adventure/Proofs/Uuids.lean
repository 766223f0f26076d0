import Adventure.Uuid
import Mathlib.Algebra.Order.Ring.Nat
import Mathlib.Data.List.Induction

/-!
# Notations of uuids

A text is read as a uuid if and only if it writes the uuid in one of four forms: its 32 digits, the
digits in groups, the groups in braces, or the groups behind the mark of a name.  Letters may be in
either case.  What is written is the groups in lower case.

## Main definitions

* `Uuid.Form`, `Uuid.Form.chars`: the forms
* `Uuid.Writes`: a text writes a uuid in a form

## Main results

* `Uuid.number?_eq_some_iff`: what the digits of a number are, but for their case
* `Uuid.digits?_eq_some_iff`: what stands around the digits
* `Uuid.parse_eq_ok_iff`: a text is read as a uuid just if it writes the uuid in a form
* `Uuid.writes_text`, `Uuid.parse_text`: what is written is one of the forms
-/

namespace Adventure

namespace Uuid

/-! ## Forms -/

/-- What stands around the digits of a uuid. -/
inductive Form where
  | plain
  | hyphenated
  | braced
  | named
  deriving DecidableEq

/-- Digits in a form; behind the mark of a name if the form has one. -/
def Form.chars (mark ds : List Char) : Form → List Char
  | plain => ds
  | hyphenated => grouped groupSizes ds
  | braced => '{' :: (grouped groupSizes ds ++ ['}'])
  | named => mark ++ grouped groupSizes ds

/-- The text writes the uuid in the form.  Letters may be in either case. -/
def Writes (u : Uuid) (form : Form) (s : String) : Prop :=
  ∃ mark ds : List Char, mark.map Char.toLower = urn ∧
    ds.map Char.toLower = digits 32 u.value.toNat ∧ s.toList = form.chars mark ds

/-! ## Digits -/

/-- A character is in no case, or its code is that of a letter in upper case. -/
theorem toLower_eq_or (c : Char) : c.toLower = c ∨ c.toNat < 128 := by
  unfold Char.toLower
  split
  · next h =>
    right
    have hle : c.val.toNat ≤ 'Z'.val.toNat := UInt32.le_iff_toNat_le.1 h.2
    exact Nat.lt_of_le_of_lt hle (by decide)
  · exact .inl rfl

/-- Of every character of one byte. -/
theorem forall_of_toNat_lt {P : Char → Prop} [DecidablePred P]
    (h : ∀ n < 128, P (Char.ofNat n)) {c : Char} (hc : c.toNat < 128) : P c := by
  rw [← Char.ofNat_toNat c]
  exact h _ hc

theorem digitValue?_toLower (c : Char) : Text.digitValue? c.toLower = Text.digitValue? c := by
  rcases toLower_eq_or c with h | h
  · rw [h]
  · exact forall_of_toNat_lt (P := fun c => Text.digitValue? c.toLower = Text.digitValue? c)
      (by decide +kernel) h

theorem utf8Size_toLower (c : Char) : c.toLower.utf8Size = c.utf8Size := by
  rcases toLower_eq_or c with h | h
  · rw [h]
  · exact forall_of_toNat_lt (P := fun c => c.toLower.utf8Size = c.utf8Size)
      (by decide +kernel) h

theorem toNat_lt_of_digitValue? {c : Char} {v : Nat} (h : Text.digitValue? c = some v) :
    c.toNat < 128 := by
  unfold Text.digitValue? at h
  split_ifs at h with hdigit hlower hupper
  · exact Nat.lt_of_le_of_lt (UInt32.le_iff_toNat_le.1 hdigit.2) (by decide)
  · exact Nat.lt_of_le_of_lt (UInt32.le_iff_toNat_le.1 hlower.2) (by decide)
  · exact Nat.lt_of_le_of_lt (UInt32.le_iff_toNat_le.1 hupper.2) (by decide)

theorem digitValue?_eq_some_iff {c : Char} {v : Nat} :
    Text.digitValue? c = some v ↔ v < 16 ∧ c.toLower = Nat.digitChar v := by
  constructor
  · intro h
    exact forall_of_toNat_lt
      (P := fun c => ∀ v ∈ Text.digitValue? c, v < 16 ∧ c.toLower = Nat.digitChar v)
      (by decide +kernel) (toNat_lt_of_digitValue? h) v h
  · rintro ⟨hv, hc⟩
    rw [← digitValue?_toLower, hc, Text.digitValue?_digitChar v hv]

theorem number?_concat (n : Nat) (ds : List Char) (c : Char) :
    number? n (ds ++ [c]) = do
      let m ← number? n ds
      return m * 16 + (← Text.digitValue? c) := by
  induction ds generalizing n with
  | nil => cases h : Text.digitValue? c <;> simp [number?, h]
  | cons d ds ih =>
    cases h : Text.digitValue? d with
    | none => simp [number?, h]
    | some value => simp [number?, h, ih]

theorem length_digits (count n : Nat) : (digits count n).length = count := by
  induction count generalizing n with
  | zero => rfl
  | succ count ih => rw [digits, List.length_append, ih, List.length_singleton]

/-- **The digits of a number** are those that are written for it, but for their case. -/
theorem number?_eq_some_iff {ds : List Char} {m : Nat} :
    number? 0 ds = some m ↔ m < 16 ^ ds.length ∧ ds.map Char.toLower = digits ds.length m := by
  -- Both sides treat the last digit on its own, so that the induction is from the end.
  induction ds using List.reverseRecOn generalizing m with
  | nil =>
    simp [number?, digits]
    omega
  | append_singleton ds c ih =>
    rw [number?_concat, List.length_append, List.length_singleton, List.map_append, digits,
      List.map_singleton, Nat.pow_succ]
    constructor
    · intro h
      obtain ⟨n, hn, v, hv, rfl⟩ : ∃ n, number? 0 ds = some n ∧ ∃ v, Text.digitValue? c = some v ∧
          n * 16 + v = m := by
        simpa [Option.bind_eq_some_iff] using h
      obtain ⟨hlt, hdigits⟩ := ih.1 hn
      obtain ⟨hv, hc⟩ := digitValue?_eq_some_iff.1 hv
      have hquotient : (n * 16 + v) / 16 = n := by omega
      have hremainder : (n * 16 + v) % 16 = v := by omega
      exact ⟨by omega, by rw [hquotient, hremainder, hdigits, hc]⟩
    · rintro ⟨hlt, hdigits⟩
      obtain ⟨hfront, hlast⟩ := List.append_inj' hdigits rfl
      have hn : number? 0 ds = some (m / 16) := ih.2 ⟨by omega, hfront⟩
      have hv : Text.digitValue? c = some (m % 16) :=
        digitValue?_eq_some_iff.2 ⟨by omega, List.singleton_inj.1 hlast⟩
      rw [hn, hv]
      simp only [Option.bind_eq_bind, Option.bind_some, Option.pure_def, Option.some.injEq]
      omega

/-- What is written of a number is digits in lower case. -/
theorem exists_digitChar {count n : Nat} {c : Char} (h : c ∈ digits count n) :
    ∃ d < 16, c = Nat.digitChar d := by
  induction count generalizing n with
  | zero => cases h
  | succ count ih =>
    rw [digits, List.mem_append, List.mem_singleton] at h
    rcases h with h | rfl
    · exact ih h
    · exact ⟨n % 16, Nat.mod_lt n (by decide), rfl⟩

theorem utf8Size_of_mem_digits {count n : Nat} {c : Char} (h : c ∈ digits count n) :
    c.utf8Size = 1 := by
  obtain ⟨d, hd, rfl⟩ := exists_digitChar h
  have hall : ∀ d < 16, (Nat.digitChar d).utf8Size = 1 := by decide
  exact hall d hd

theorem toLower_of_mem_digits {count n : Nat} {c : Char} (h : c ∈ digits count n) :
    c.toLower = c := by
  obtain ⟨d, hd, rfl⟩ := exists_digitChar h
  have hall : ∀ d < 16, (Nat.digitChar d).toLower = Nat.digitChar d := by decide
  exact hall d hd

/-! ## Groups -/

/-- Groups are cut where they were joined. -/
theorem ungroup?_grouped {sizes : List Nat} (hsizes : sizes ≠ []) {ds : List Char}
    (h : ds.length = sizes.sum) : ungroup? sizes (grouped sizes ds) = some ds := by
  induction sizes generalizing ds with
  | nil => exact absurd rfl hsizes
  | cons size sizes ih =>
    cases sizes with
    | nil =>
      -- The last group has no hyphen behind it.
      rw [List.sum_singleton] at h
      rw [grouped, ungroup?, if_pos h]
    | cons next sizes =>
      rw [List.sum_cons] at h
      have htake : (ds.take size).length = size := by
        rw [List.length_take]
        omega
      have hrest : ungroup? (next :: sizes) (grouped (next :: sizes) (ds.drop size)) =
          some (ds.drop size) := by
        apply ih (List.cons_ne_nil _ _)
        rw [List.length_drop]
        omega
      have hdrop : (grouped (size :: next :: sizes) ds).drop size =
          '-' :: grouped (next :: sizes) (ds.drop size) :=
        List.drop_left' htake
      have hfront : (grouped (size :: next :: sizes) ds).take size = ds.take size :=
        List.take_left' htake
      simp only [ungroup?, hdrop, hfront, hrest, Option.map_some, List.take_append_drop]

theorem ungroup?_eq_some_iff {sizes : List Nat} (hsizes : sizes ≠ []) {cs ds : List Char} :
    ungroup? sizes cs = some ds ↔ ds.length = sizes.sum ∧ cs = grouped sizes ds := by
  constructor
  · intro h
    induction sizes generalizing cs ds with
    | nil => exact absurd rfl hsizes
    | cons size sizes ih =>
      cases sizes with
      | nil =>
        rw [ungroup?] at h
        split_ifs at h with hsize
        obtain rfl := Option.some.inj h
        exact ⟨by rw [hsize, List.sum_singleton], rfl⟩
      | cons next sizes =>
        simp only [ungroup?] at h
        split at h
        case h_2 => cases h
        case h_1 rest hdrop =>
          obtain ⟨tail, htail, rfl⟩ := Option.map_eq_some_iff.1 h
          obtain ⟨hlength, rfl⟩ := ih (List.cons_ne_nil _ _) htail
          -- Something stands behind the first group, so that the group is complete.
          have hsize : (cs.take size).length = size := by
            have := congrArg List.length hdrop
            rw [List.length_drop, List.length_cons] at this
            rw [List.length_take]
            omega
          refine ⟨by rw [List.length_append, hsize, hlength, List.sum_cons (a := size)], ?_⟩
          simp only [grouped, List.take_left' hsize, List.drop_left' hsize, ← hdrop,
            List.take_append_drop]
  · rintro ⟨hlength, rfl⟩
    exact ungroup?_grouped hsizes hlength

theorem mem_grouped {sizes : List Nat} {ds : List Char} {c : Char} (h : c ∈ grouped sizes ds) :
    c = '-' ∨ c ∈ ds := by
  induction sizes generalizing ds with
  | nil => exact .inr h
  | cons size sizes ih =>
    cases sizes with
    | nil => exact .inr h
    | cons next sizes =>
      simp only [grouped, List.mem_append, List.mem_cons] at h
      rcases h with h | rfl | h
      · exact .inr (List.mem_of_mem_take h)
      · exact .inl rfl
      · exact (ih h).imp id List.mem_of_mem_drop

theorem byteSize_append (cs ds : List Char) : byteSize (cs ++ ds) = byteSize cs + byteSize ds := by
  rw [byteSize, String.ofList_append, String.utf8ByteSize_append]
  rfl

theorem byteSize_cons (c : Char) (cs : List Char) :
    byteSize (c :: cs) = c.utf8Size + byteSize cs := by
  rw [← List.singleton_append, byteSize_append, byteSize, ← String.singleton_eq_ofList,
    String.utf8ByteSize_singleton]

theorem byteSize_eq_length {cs : List Char} (h : ∀ c ∈ cs, c.utf8Size = 1) :
    byteSize cs = cs.length := by
  induction cs with
  | nil => rfl
  | cons c cs ih =>
    rw [List.forall_mem_cons] at h
    rw [byteSize_cons, h.1, ih h.2, List.length_cons, Nat.add_comm]

/-- Each group but the last one is followed by a hyphen. -/
theorem length_grouped {sizes : List Nat} (hsizes : sizes ≠ []) {ds : List Char}
    (h : ds.length = sizes.sum) : (grouped sizes ds).length + 1 = ds.length + sizes.length := by
  induction sizes generalizing ds with
  | nil => exact absurd rfl hsizes
  | cons size sizes ih =>
    cases sizes with
    | nil => rfl
    | cons next sizes =>
      rw [List.sum_cons] at h
      have hcount : (ds.drop size).length = (next :: sizes).sum := by
        rw [List.length_drop]
        omega
      have hrest := ih (List.cons_ne_nil _ _) hcount
      simp only [grouped, List.length_append, List.length_take, List.length_cons] at hrest ⊢
      omega

theorem utf8Size_eq_one {ds : List Char} {count n : Nat}
    (h : ds.map Char.toLower = digits count n) : ∀ c ∈ ds, c.utf8Size = 1 := by
  intro c hc
  rw [← utf8Size_toLower]
  exact utf8Size_of_mem_digits (h ▸ List.mem_map_of_mem hc)

theorem utf8Size_of_mem_mark {mark : List Char} (h : mark.map Char.toLower = urn) :
    ∀ c ∈ mark, c.utf8Size = 1 := by
  intro c hc
  have hurn : ∀ d ∈ urn, (d.utf8Size == 1) = true := List.all_eq_true.1 (by decide)
  rw [← utf8Size_toLower]
  exact beq_iff_eq.1 (hurn _ (h ▸ List.mem_map_of_mem hc))

theorem byteSize_grouped {ds : List Char} (hds : ∀ c ∈ ds, c.utf8Size = 1)
    (h : ds.length = 32) : byteSize (grouped groupSizes ds) = 36 := by
  have hnarrow : ∀ c ∈ grouped groupSizes ds, c.utf8Size = 1 := by
    intro c hc
    rcases mem_grouped hc with rfl | hc
    · rfl
    · exact hds c hc
  have hlength : (grouped groupSizes ds).length + 1 = ds.length + 5 :=
    length_grouped (List.cons_ne_nil _ _) h
  rw [h] at hlength
  exact (byteSize_eq_length hnarrow).trans (Nat.succ.inj hlength)

/-! ## Reading -/

/-- **What stands around the digits** of a uuid is one of the forms. -/
theorem digits?_eq_some_iff {cs ds : List Char} (hds : ∀ c ∈ ds, c.utf8Size = 1) :
    digits? cs = some ds ↔ ds.length = 32 ∧
      ∃ form : Form, ∃ mark : List Char, mark.map Char.toLower = urn ∧ cs = form.chars mark ds := by
  have hgroups : ∀ {body : List Char}, ungroup? groupSizes body = some ds ↔
      ds.length = 32 ∧ body = grouped groupSizes ds :=
    ungroup?_eq_some_iff (List.cons_ne_nil _ _)
  constructor
  · intro h
    unfold digits? at h
    split_ifs at h with hplain
    · obtain rfl := Option.some.inj h
      exact ⟨byteSize_eq_length hds ▸ hplain, .plain, urn, rfl, rfl⟩
    · obtain ⟨body, hframed, hbody⟩ := Option.bind_eq_some_iff.1 h
      obtain ⟨hlength, rfl⟩ := hgroups.1 hbody
      refine ⟨hlength, ?_⟩
      unfold framed? at hframed
      split at hframed
      · exact ⟨.hyphenated, urn, rfl, Option.some.inj hframed⟩
      · -- The braces are the first and the last character.
        unfold braced? at hframed
        split at hframed
        · next rest =>
          split_ifs at hframed with hlast
          obtain ⟨inner, rfl⟩ := List.getLast?_eq_some_iff.1 hlast
          rw [List.dropLast_concat] at hframed
          exact ⟨.braced, urn, rfl, by rw [Form.chars, Option.some.inj hframed]⟩
        · cases hframed
      · unfold named? at hframed
        split_ifs at hframed with hmark
        refine ⟨.named, cs.take urn.length, hmark, ?_⟩
        rw [Form.chars, ← Option.some.inj hframed, List.take_append_drop]
      · cases hframed
  · -- The forms differ in their length in bytes, which is looked at first.
    rintro ⟨hlength, form, mark, hmark, rfl⟩
    have hsize := byteSize_grouped hds hlength
    have hbody : ungroup? groupSizes (grouped groupSizes ds) = some ds := hgroups.2 ⟨hlength, rfl⟩
    cases form with
    | plain =>
      have hplain : byteSize ds = 32 := byteSize_eq_length hds ▸ hlength
      rw [Form.chars, digits?, if_pos hplain]
    | hyphenated => simp [Form.chars, digits?, framed?, hsize, hbody]
    | braced =>
      have hall : byteSize ('{' :: (grouped groupSizes ds ++ ['}'])) = 38 := by
        rw [byteSize_cons, byteSize_append, hsize]
        rfl
      simp [Form.chars, digits?, framed?, hall, braced?, hbody]
    | named =>
      have hwidth : mark.length = urn.length := by rw [← hmark, List.length_map]
      have hmarkSize : byteSize mark = 9 :=
        (byteSize_eq_length (utf8Size_of_mem_mark hmark)).trans hwidth
      have hall : byteSize (mark ++ grouped groupSizes ds) = 45 := by
        rw [byteSize_append, hmarkSize, hsize]
      simp [Form.chars, digits?, framed?, hall, named?, ← hwidth, hmark, hbody]

/-- **A text is read as a uuid** if and only if it writes the uuid in one of the forms. -/
theorem parse_eq_ok_iff {s : String} {u : Uuid} : parse s = .ok u ↔ ∃ form, u.Writes form s := by
  have hparse : parse s = .ok u ↔ ∃ ds m, digits? s.toList = some ds ∧ number? 0 ds = some m ∧
      ofNat m = u := by
    have hchars : parse s = .ok u ↔ ofChars? s.toList = some u := by
      unfold parse
      split
      · next h => rw [h, Except.ok.injEq, Option.some.injEq]
      · next h => simp [h]
    rw [hchars]
    simp [ofChars?, Option.bind_eq_some_iff]
  rw [hparse]
  constructor
  · rintro ⟨ds, m, hdigits, hnumber, rfl⟩
    obtain ⟨hlt, hds⟩ := number?_eq_some_iff.1 hnumber
    obtain ⟨hlength, form, mark, hmark, hchars⟩ :=
      (digits?_eq_some_iff (utf8Size_eq_one hds)).1 hdigits
    rw [hlength] at hlt hds
    have hvalue : (ofNat m).value.toNat = m := Nat.mod_eq_of_lt hlt
    exact ⟨form, mark, ds, hmark, hds.trans (by rw [hvalue]), hchars⟩
  · rintro ⟨form, mark, ds, hmark, hds, hchars⟩
    have hlength : ds.length = 32 := by
      rw [← List.length_map, hds, length_digits]
    refine ⟨ds, u.value.toNat, (digits?_eq_some_iff (utf8Size_eq_one hds)).2
      ⟨hlength, form, mark, hmark, hchars⟩, number?_eq_some_iff.2 ⟨?_, ?_⟩, ?_⟩
    · rw [hlength]
      exact u.value.isLt
    · rw [hlength, hds]
    · simp [ofNat]

/-- What is written is in lower case. -/
theorem toLower_of_mem_text {u : Uuid} {c : Char} (h : c ∈ u.text.toList) : c.toLower = c := by
  rw [text, String.toList_ofList] at h
  rcases mem_grouped h with rfl | h
  · rfl
  · exact toLower_of_mem_digits h

/-- **A uuid is written** as groups with hyphens between. -/
theorem writes_text (u : Uuid) : u.Writes .hyphenated u.text := by
  refine ⟨urn, digits 32 u.value.toNat, rfl, ?_, String.toList_ofList⟩
  exact (List.map_congr_left fun c hc => toLower_of_mem_digits hc).trans (List.map_id _)

/-- **A uuid is read back** from its written form. -/
theorem parse_text (u : Uuid) : parse u.text = .ok u :=
  parse_eq_ok_iff.2 ⟨.hyphenated, writes_text u⟩

end Uuid

end Adventure
