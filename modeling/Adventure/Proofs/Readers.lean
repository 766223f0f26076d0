import Adventure.Json.Reader
import Adventure.Proofs.Outcome
import Adventure.Proofs.Uuids

/-!
# What readers accept

Each reader accepts a tree for one reason, or one of a few.

## Main results

* `Json.Reader.uuid_eq_ok_iff`: what is read as a uuid
* `Json.Reader.list_eq_ok_iff`, `Json.Reader.table_eq_ok_iff`: containers without a fault at their
  end, all of whose parts are read
* `Json.Reader.record_object_eq_ok_iff`, `Json.Reader.record_list_eq_ok_iff`: the two ways to write a
  record
* `Json.Reader.variant_eq_ok_iff`: the two ways to write a value with one of several names
* `Json.Reader.fieldMembers_ok`, `Json.Reader.fieldMembers_error`: one member of a record
-/

namespace Adventure.Json.Reader

variable {ε α : Type} {depth : Nat} {doc : Doc}

/-- A value of the wrong kind is refused. -/
theorem mismatch_ne_ok {expected : String} {a : α} : mismatch (ε := ε) expected doc ≠ .ok a := by
  intro h
  unfold mismatch at h
  split at h <;> cases h

theorem malformed_ne_ok {cause : Malformed} {a : α} : malformed (ε := ε) cause ≠ .ok a := nofun

theorem enter_eq_ok_iff {inner : Nat} :
    enter (ε := ε) depth = .ok inner ↔ 1 < depth ∧ inner = depth - 1 := by
  unfold enter
  split_ifs with h
  · exact ⟨nofun, fun hinner => by omega⟩
  · rw [Except.ok.injEq, eq_comm]
    exact ⟨fun hinner => ⟨by omega, hinner⟩, And.right⟩

theorem enter_of_le (h : 2 ≤ depth) : enter (ε := ε) depth = .ok (depth - 1) :=
  if_neg (by omega)

theorem uuid_eq_ok_iff {u : Uuid} :
    uuid (ε := ε) depth doc = .ok u ↔ ∃ s, doc = .string (.ok s) ∧ Uuid.parse s = .ok u := by
  constructor
  · intro h
    unfold uuid at h
    split at h
    · next s =>
      split at h
      · next v hparse => exact ⟨s, rfl, hparse.trans (congrArg _ (Except.ok.inj h))⟩
      · cases h
    · exact absurd h mismatch_ne_ok
  · rintro ⟨s, rfl, hparse⟩
    simp only [uuid, hparse]

theorem uuid_text (u : Uuid) : uuid (ε := ε) depth (.ofJson (.string u.text)) = .ok u := by
  rw [Doc.ofJson, uuid, Uuid.parse_text]

/-- A text is read if its tree is, and nothing stands behind it. -/
theorem whole_eq_ok_iff {r : Reader ε α} {t : String} {a : α} :
    r.whole t = .ok a ↔ (Doc.ofText t).2 = false ∧ r depthLimit (Doc.ofText t).1 = .ok a := by
  unfold whole
  rw [bind_eq_ok_iff]
  cases h : (Doc.ofText t).2 with
  | true => simp [malformed_ne_ok]
  | false => simp

/-! ## Containers -/

theorem checked_map_eq_ok_iff {cause : Option Fault} {f : Fault → Malformed} {a b : α} :
    checked (ε := ε) (cause.map f) a = .ok b ↔ cause = none ∧ a = b := by
  cases cause with
  | none => simp [checked]
  | some c => simp [checked, malformed_ne_ok]

theorem objectEnd_eq_ok_iff {ending : ObjectEnd} {a b : α} :
    objectEnd (ε := ε) ending a = .ok b ↔ ending.fault? = none ∧ a = b := by
  unfold objectEnd
  split
  · exact checked_map_eq_ok_iff
  · rw [within, mapError_eq_ok_iff]
    exact checked_map_eq_ok_iff

theorem key_eq_ok_iff {k : Key} {name : String} : key (ε := ε) k = .ok name ↔ k = .ok name := by
  cases k with
  | ok n => simp [key]
  | error cause => exact ⟨fun h => (by cases h), fun h => by cases h⟩

theorem list_eq_ok_iff {r : Reader ε α} {ds : List Doc} {ending : ListEnd} {as : List α} :
    list r depth (.list ds ending) = .ok as ↔
      1 < depth ∧ ending.fault? = none ∧ items r (depth - 1) 0 ds = .ok as := by
  rw [list, bind_eq_ok_iff]
  simp only [enter_eq_ok_iff, bind_eq_ok_iff, checked_map_eq_ok_iff]
  constructor
  · rintro ⟨_, ⟨hdepth, rfl⟩, _, hitems, hending, rfl⟩
    exact ⟨hdepth, hending, hitems⟩
  · rintro ⟨hdepth, hending, hitems⟩
    exact ⟨_, ⟨hdepth, rfl⟩, as, hitems, hending, rfl⟩

theorem table_eq_ok_iff {r : Reader ε α} {ms : List (Key × Doc)} {ending : ObjectEnd}
    {t : Table α} :
    table r depth (.object ms ending) = .ok t ↔
      1 < depth ∧ ending.fault? = none ∧ entries r (depth - 1) ∅ ms = .ok t := by
  rw [table, bind_eq_ok_iff]
  simp only [enter_eq_ok_iff, bind_eq_ok_iff, objectEnd_eq_ok_iff]
  constructor
  · rintro ⟨_, ⟨hdepth, rfl⟩, _, hentries, hending, rfl⟩
    exact ⟨hdepth, hending, hentries⟩
  · rintro ⟨hdepth, hending, hentries⟩
    exact ⟨_, ⟨hdepth, rfl⟩, t, hentries, hending, rfl⟩

theorem jsonItems_eq (depth i : Nat) (ds : List Doc) :
    jsonItems (ε := ε) depth i ds = items json depth i ds := by
  induction ds generalizing i with
  | nil => rfl
  | cons d ds ih => rw [jsonItems, items, ih]

theorem jsonMembers_eq (depth : Nat) (t : Table Json) (ms : List (Key × Doc)) :
    jsonMembers (ε := ε) depth t ms = entries json depth t ms := by
  induction ms generalizing t with
  | nil => rfl
  | cons m ms ih =>
    obtain ⟨k, d⟩ := m
    simp only [jsonMembers, entries, ih]

theorem json_list_eq_ok_iff {ds : List Doc} {ending : ListEnd} {v : Json} :
    json (ε := ε) depth (.list ds ending) = .ok v ↔
      ∃ vs, list (ε := ε) json depth (.list ds ending) = .ok vs ∧ .array vs = v := by
  rw [json, bind_eq_ok_iff]
  simp only [list_eq_ok_iff, enter_eq_ok_iff, bind_eq_ok_iff, checked_map_eq_ok_iff, jsonItems_eq]
  constructor
  · rintro ⟨_, ⟨hdepth, rfl⟩, vs, hitems, hending, rfl⟩
    exact ⟨vs, ⟨hdepth, hending, hitems⟩, rfl⟩
  · rintro ⟨vs, ⟨hdepth, hending, hitems⟩, rfl⟩
    exact ⟨_, ⟨hdepth, rfl⟩, vs, hitems, hending, rfl⟩

theorem json_object_eq_ok_iff {ms : List (Key × Doc)} {ending : ObjectEnd} {v : Json} :
    json (ε := ε) depth (.object ms ending) = .ok v ↔
      ∃ t, table (ε := ε) json depth (.object ms ending) = .ok t ∧ .object t.entries = v := by
  rw [json, bind_eq_ok_iff]
  simp only [table_eq_ok_iff, enter_eq_ok_iff, bind_eq_ok_iff, objectEnd_eq_ok_iff, jsonMembers_eq]
  constructor
  · rintro ⟨_, ⟨hdepth, rfl⟩, t, hentries, hending, rfl⟩
    exact ⟨t, ⟨hdepth, hending, hentries⟩, rfl⟩
  · rintro ⟨t, ⟨hdepth, hending, hentries⟩, rfl⟩
    exact ⟨_, ⟨hdepth, rfl⟩, t, hentries, hending, rfl⟩

/-! ## Variants -/

theorem variantOf_eq_ok_iff {variants : List (Variant ε α)} {name : String} {v : Variant ε α} :
    variantOf variants name = .ok v ↔ variants.find? (fun v => v.name == name) = some v := by
  unfold variantOf
  split
  · next w hw => rw [hw, Except.ok.injEq, Option.some.injEq]
  · next hnone =>
    rw [hnone]
    exact ⟨nofun, nofun⟩

/-- **A value with one of several names** is the name alone, or an object with this key. -/
theorem variant_eq_ok_iff {variants : List (Variant ε α)} {a : α} :
    variant variants depth doc = .ok a ↔
      ∃ name v, variants.find? (fun v => v.name == name) = some v ∧
        (doc = .string (.ok name) ∧ v.alone = .ok a ∨
          1 < depth ∧ ∃ value, doc = .object [(.ok name, value)] .closed ∧
            v.read (depth - 1) value = .ok a) := by
  constructor
  · intro h
    unfold variant at h
    split at h
    · next members ending =>
      obtain ⟨inner, hinner, h⟩ := bind_eq_ok_iff.1 h
      obtain ⟨hdepth, rfl⟩ := enter_eq_ok_iff.1 hinner
      split at h
      · -- Without a member there is no value, however the object ends.
        exfalso
        split at h
        case h_5 =>
          obtain ⟨v, hv, h⟩ := bind_eq_ok_iff.1 h
          cases h
        all_goals cases h
      · cases h
      · next name value rest _ =>
        obtain ⟨v, hv, h⟩ := bind_eq_ok_iff.1 h
        obtain ⟨b, hread, h⟩ := bind_eq_ok_iff.1 h
        split at h
        · obtain rfl := Except.ok.inj h
          exact ⟨name, v, variantOf_eq_ok_iff.1 hv, .inr ⟨hdepth, value, rfl, hread⟩⟩
        · cases h
        · cases h
    · next name =>
      obtain ⟨v, hv, h⟩ := bind_eq_ok_iff.1 h
      split at h
      · next b halone =>
        obtain rfl := Except.ok.inj h
        exact ⟨name, v, variantOf_eq_ok_iff.1 hv, .inl ⟨rfl, halone⟩⟩
      · cases h
    all_goals cases h
  · rintro ⟨name, v, hv, ⟨rfl, halone⟩ | ⟨hdepth, value, rfl, hread⟩⟩
    · rw [variant, variantOf_eq_ok_iff.2 hv]
      simp only [bind, Except.bind, halone]
    · rw [variant, enter_eq_ok_iff.2 ⟨hdepth, rfl⟩]
      simp only [bind, Except.bind, variantOf_eq_ok_iff.2 hv, hread]

/-! ## Records -/

theorem record_object_eq_ok_iff {l : Layout ε α} {ms : List (Key × Doc)} {ending : ObjectEnd}
    {a : α} :
    record l depth (.object ms ending) = .ok a ↔
      1 < depth ∧ ∃ seen, fieldMembers l (depth - 1) ms [] l.blank = .ok (seen, a) ∧
        ending.fault? = none ∧ missing l seen = none := by
  -- The last key is only looked at where no value follows it, which is a fault.
  have hclosed : ∀ seen, ending.fault? = none → lastKey l seen ending = .ok () := by
    intro seen hending
    cases ending with
    | closed => rfl
    | noColon k => cases k <;> cases hending
    | _ => cases hending
  rw [record, bind_eq_ok_iff]
  simp only [enter_eq_ok_iff]
  constructor
  · rintro ⟨_, ⟨hdepth, rfl⟩, h⟩
    obtain ⟨⟨seen, b⟩, hms, h⟩ := bind_eq_ok_iff.1 h
    obtain ⟨-, h⟩ := check_bind_eq_ok_iff.1 h
    obtain ⟨hend, h⟩ := check_bind_eq_ok_iff.1 h
    dsimp only at h
    split at h
    · cases h
    · next hmissing =>
      obtain rfl := Except.ok.inj h
      exact ⟨hdepth, seen, hms, (objectEnd_eq_ok_iff.1 hend).1, hmissing⟩
  · rintro ⟨hdepth, seen, hms, hending, hmissing⟩
    refine ⟨_, ⟨hdepth, rfl⟩, bind_eq_ok_iff.2 ⟨(seen, a), hms, ?_⟩⟩
    refine check_bind_eq_ok_iff.2 ⟨hclosed seen hending, check_bind_eq_ok_iff.2
      ⟨objectEnd_eq_ok_iff.2 ⟨hending, rfl⟩, ?_⟩⟩
    simp only [hmissing]

theorem record_list_eq_ok_iff {l : Layout ε α} {ds : List Doc} {ending : ListEnd} {a : α} :
    record l depth (.list ds ending) = .ok a ↔
      1 < depth ∧ fieldItems l (depth - 1) ending 0 l.fields ds l.blank = .ok a := by
  rw [record, bind_eq_ok_iff]
  simp only [enter_eq_ok_iff]
  constructor
  · rintro ⟨_, ⟨hdepth, rfl⟩, h⟩
    exact ⟨hdepth, h⟩
  · rintro ⟨hdepth, h⟩
    exact ⟨_, ⟨hdepth, rfl⟩, h⟩

section Records

variable {β : Type} {l : Layout ε α} {name : String} {presence : Presence} {r : Reader ε β}
  {set : β → α → α} {doc : Doc} {members : List (Key × Doc)} {seen : List String} {a : α}
  (hfield : l.fields.find? (fun field => field.name == name) =
    some ⟨name, presence, fun depth doc => (r depth doc).map set⟩)
  (hseen : seen.contains name = false)
include hfield hseen

/-- A member that is read sets its field. -/
theorem fieldMembers_ok {b : β} (h : r depth doc = .ok b) :
    fieldMembers l depth ((.ok name, doc) :: members) seen a =
      fieldMembers l depth members (name :: seen) (set b a) := by
  simp only [fieldMembers, key, bind, Except.bind, hfield, hseen, h]
  rfl

/-- A member that is not read is refused at its name. -/
theorem fieldMembers_error {m : Misread ε} (h : r depth doc = .error m) :
    fieldMembers l depth ((.ok name, doc) :: members) seen a = .error (m.under (.key name)) := by
  simp only [fieldMembers, key, bind, Except.bind, hfield, hseen, h]
  rfl

end Records

end Adventure.Json.Reader
