import Adventure.Event
import Adventure.Proofs.ReadBack
import Adventure.Proofs.Readers

/-!
# Events in a log

An event that was written is read back, whatever strings, position or uuid it holds.  An id may be
written in any form of uuids; when the event is written again the id is in groups in lower case.

## Main definitions

* `Event.ofUuid`: the events that name something by a uuid

## Main results

* `Event.reader_toJson`: what is written for an event is read as the event
* `Event.reader_eq_ok_ofUuid_iff`: how a document may write an event with a uuid
* `Event.log_read_back`: events of a log are read back, and ids come to have one form
-/

namespace Adventure

namespace Event

open Json Json.Reader

theorem exact_toJson (e : Event Uuid) : e.toJson.Exact := by
  have hindex : ∀ index : UInt64, Fits index.toNat := by
    intro index
    have := index.toNat_lt
    unfold Fits minInt maxNat
    omega
  cases e with
  | objectClicked | codeSubmitted | messageDismissed | assetsReady | timerFired =>
    simp [toJson, Exact, MembersExact]
  | hintRequested | buttonClicked =>
    simp [toJson, Exact, MembersExact, indexToJson, hindex]

theorem indexReader_indexToJson (depth : Nat) (index : UInt64) :
    indexReader depth (Doc.ofJson (indexToJson index)) = .ok index := by
  have hpos : ¬(index.toNat : Int) < 0 := by omega
  have hread : position (ε := Defect) depth (Doc.ofJson (indexToJson index)) = .ok index.toNat := by
    rw [indexToJson, Doc.ofJson, position, if_neg hpos, Int.toNat_natCast]
  rw [indexReader, hread]
  exact congrArg Except.ok index.ofNat_toNat

theorem newtype_read {α : Type} {name : String} {r : Json.Reader Defect α} {make : α → Event Uuid}
    {depth : Nat} {doc : Doc} {a : α} (h : r depth doc = .ok a) :
    (newtype name r make).read depth doc = .ok (make a) :=
  map_eq_ok_iff.2 ⟨a, h, rfl⟩

/-- An object with the name of an event is read as what the reader of the name takes from it. -/
theorem reader_object {name : String} {v : Variant Defect (Event Uuid)} {value : Json}
    {e : Event Uuid} (hv : variants.find? (fun v => v.name == name) = some v)
    (h : v.read (depthLimit - 1) (Doc.ofJson value) = .ok e) :
    reader depthLimit (Doc.ofJson (.object [(name, value)])) = .ok e :=
  variant_eq_ok_iff.2 ⟨name, v, hv, .inr ⟨by decide, _, rfl, h⟩⟩

theorem record_hintLayout (puzzle : String) (index : UInt64) :
    record hintLayout (depthLimit - 1)
        (Doc.ofJson (.object [("puzzle", .string puzzle), ("index", indexToJson index)])) =
      .ok (puzzle, index) := by
  rw [Doc.ofJson, record, enter_of_le (by decide)]
  simp only [bind, Except.bind, Doc.ofMembers]
  rw [fieldMembers_ok (r := string) (by rfl) (by rfl) rfl,
    fieldMembers_ok (by rfl) (by rfl) (indexReader_indexToJson _ _)]
  rfl

/-- **What is written for an event** is read as the event. -/
theorem reader_toJson (e : Event Uuid) : reader depthLimit (Doc.ofJson e.toJson) = .ok e := by
  have huuid : ∀ (depth : Nat) (u : Uuid),
      Json.Reader.uuid (ε := Defect) depth (Doc.ofJson (.string u.text)) = .ok u :=
    fun _ u => uuid_eq_ok_iff.2 ⟨_, rfl, u.parse_text⟩
  cases e with
  | objectClicked | codeSubmitted | messageDismissed => rfl
  | hintRequested puzzle index =>
    refine reader_object rfl ?_
    exact (map_eq_ok_iff (f := fun h => hintRequested h.1 h.2)).2
      ⟨_, record_hintLayout puzzle index, rfl⟩
  | buttonClicked index => exact reader_object rfl (newtype_read (indexReader_indexToJson _ _))
  | assetsReady batch => exact reader_object rfl (newtype_read (huuid _ _))
  | timerFired timer => exact reader_object rfl (newtype_read (huuid _ _))

/-- The events that name something by a uuid, with their names. -/
def ofUuid : List (String × (Uuid → Event Uuid)) :=
  [("AssetsReady", assetsReady), ("TimerFired", timerFired)]

/-- An event with a uuid never stands alone. -/
theorem alone_ne_ofUuid {name : String} {make : Uuid → Event Uuid} (hmake : (name, make) ∈ ofUuid)
    {v : Variant Defect (Event Uuid)} (hv : v ∈ variants) (u : Uuid) : v.alone ≠ .ok (make u) := by
  simp only [ofUuid, List.mem_cons, List.not_mem_nil, or_false, Prod.mk.injEq] at hmake
  simp only [variants, List.mem_cons, List.not_mem_nil, or_false] at hv
  rcases hmake with ⟨rfl, rfl⟩ | ⟨rfl, rfl⟩ <;>
    rcases hv with rfl | rfl | rfl | rfl | rfl | rfl | rfl <;> simp [newtype]

/-- An event with a uuid is read under its name. -/
theorem eq_newtype_of_read {name : String} {make : Uuid → Event Uuid}
    (hmake : (name, make) ∈ ofUuid) {v : Variant Defect (Event Uuid)} (hv : v ∈ variants)
    {depth : Nat} {doc : Doc} {u : Uuid} (h : v.read depth doc = .ok (make u)) :
    v = newtype name Json.Reader.uuid make ∧ Json.Reader.uuid (ε := Defect) depth doc = .ok u := by
  simp only [ofUuid, List.mem_cons, List.not_mem_nil, or_false, Prod.mk.injEq] at hmake
  simp only [variants, List.mem_cons, List.not_mem_nil, or_false] at hv
  -- Only the reader under the name makes the event; the others make an event of another shape.
  rcases hmake with ⟨rfl, rfl⟩ | ⟨rfl, rfl⟩ <;>
    rcases hv with rfl | rfl | rfl | rfl | rfl | rfl | rfl <;>
    simp_all [newtype, map_eq_ok_iff]

/-- **A document writes an event with a uuid** as an object with the name of the event and the uuid
in one of its forms. -/
theorem reader_eq_ok_ofUuid_iff {name : String} {make : Uuid → Event Uuid}
    (hmake : (name, make) ∈ ofUuid) {doc : Doc} {u : Uuid} :
    reader depthLimit doc = .ok (make u) ↔
      ∃ s form, doc = .object [(.ok name, .string (.ok s))] .closed ∧ u.Writes form s := by
  constructor
  · intro h
    obtain ⟨name', v, hv, h⟩ := variant_eq_ok_iff.1 h
    have hmem : v ∈ variants := List.mem_of_find?_eq_some hv
    have hname : v.name = name' := by simpa using List.find?_some hv
    rcases h with ⟨-, halone⟩ | ⟨-, value, rfl, hread⟩
    · exact absurd halone (alone_ne_ofUuid hmake hmem u)
    · obtain ⟨rfl, huuid⟩ := eq_newtype_of_read hmake hmem hread
      obtain ⟨s, rfl, hparse⟩ := uuid_eq_ok_iff.1 huuid
      obtain ⟨form, hform⟩ := Uuid.parse_eq_ok_iff.1 hparse
      obtain rfl : name = name' := hname
      exact ⟨s, form, rfl, hform⟩
  · rintro ⟨s, form, rfl, hform⟩
    have hread : Json.Reader.uuid (ε := Defect) (depthLimit - 1) (.string (.ok s)) = .ok u :=
      uuid_eq_ok_iff.2 ⟨s, rfl, Uuid.parse_eq_ok_iff.2 ⟨form, hform⟩⟩
    have hfind : variants.find? (fun v => v.name == name) =
        some (newtype name Json.Reader.uuid make) := by
      simp only [ofUuid, List.mem_cons, List.not_mem_nil, or_false, Prod.mk.injEq] at hmake
      rcases hmake with ⟨rfl, rfl⟩ | ⟨rfl, rfl⟩ <;> rfl
    exact variant_eq_ok_iff.2 ⟨name, _, hfind, .inr ⟨by decide, _, rfl, newtype_read hread⟩⟩

/-- **Events of a log are read back.**  What is written for an event is read as the event, so that
a log that was read once is read the same way when it is written again.  A text is an event with a
uuid if and only if it is an object with the name of the event and the uuid in one of its forms;
what is written then is the groups in lower case. -/
theorem log_read_back :
    (∀ e : Event Uuid, whole reader e.toJson.compress = .ok e) ∧
      (∀ (t : String) (e : Event Uuid), whole reader t = .ok e →
        ∃ e', whole reader e.toJson.compress = .ok e' ∧ e' = e ∧
          e'.toJson.compress = e.toJson.compress) ∧
      ∀ (name : String) (make : Uuid → Event Uuid), (name, make) ∈ ofUuid →
        (∀ (t : String) (u : Uuid), whole reader t = .ok (make u) ↔
          ∃ s form, Doc.ofText t = (.object [(.ok name, .string (.ok s))] .closed, false) ∧
            u.Writes form s) ∧
        ∀ u : Uuid, (make u).toJson = .object [(name, .string u.text)] ∧
          u.Writes .hyphenated u.text ∧ ∀ c ∈ u.text.toList, c.toLower = c := by
  have hback : ∀ e : Event Uuid, whole reader e.toJson.compress = .ok e := by
    intro e
    rw [whole_compress reader e.exact_toJson, reader_toJson]
  refine ⟨hback, fun t e _ => ⟨e, hback e, rfl, rfl⟩, fun name make hmake => ⟨?_, fun u => ?_⟩⟩
  · intro t u
    rw [whole_eq_ok_iff]
    constructor
    · rintro ⟨htrailing, hread⟩
      obtain ⟨s, form, hdoc, hform⟩ := (reader_eq_ok_ofUuid_iff hmake).1 hread
      exact ⟨s, form, Prod.ext hdoc htrailing, hform⟩
    · rintro ⟨s, form, htext, hform⟩
      rw [htext]
      exact ⟨rfl, (reader_eq_ok_ofUuid_iff hmake).2 ⟨s, form, rfl, hform⟩⟩
  · refine ⟨?_, u.writes_text, fun c => Uuid.toLower_of_mem_text⟩
    simp only [ofUuid, List.mem_cons, List.not_mem_nil, or_false, Prod.mk.injEq] at hmake
    rcases hmake with ⟨rfl, rfl⟩ | ⟨rfl, rfl⟩ <;> rfl

/-- The timer with the uuid that the text names in upper case is read, and written in lower case. -/
theorem log_read_back_upper_case :
    let t := (Json.object
      [("TimerFired", .string "URN:UUID:67E55044-10B1-426F-9247-BB680E5FE0C8")]).compress
    let e := timerFired (.ofNat 0x67e5504410b1426f9247bb680e5fe0c8)
    whole reader t = .ok e ∧
      (∃ e', whole reader e.toJson.compress = .ok e' ∧ e' = e ∧
        e'.toJson.compress = e.toJson.compress) ∧
      e.toJson = .object [("TimerFired", .string "67e55044-10b1-426f-9247-bb680e5fe0c8")] := by
  intro t e
  have hmake : ("TimerFired", timerFired) ∈ ofUuid := .tail _ (.head _)
  have hform : (Uuid.ofNat 0x67e5504410b1426f9247bb680e5fe0c8).Writes .named
      "URN:UUID:67E55044-10B1-426F-9247-BB680E5FE0C8" :=
    ⟨"URN:UUID:".toList, "67E5504410B1426F9247BB680E5FE0C8".toList, by decide, by decide,
      by decide⟩
  have htext : Doc.ofText t = (Doc.ofJson _, false) :=
    ofText_compress (by simp [Exact, MembersExact])
  have hread : whole reader t = .ok e :=
    ((log_read_back.2.2 _ _ hmake).1 t _).2 ⟨_, .named, htext, hform⟩
  have hwritten : (Uuid.ofNat 0x67e5504410b1426f9247bb680e5fe0c8).text =
      "67e55044-10b1-426f-9247-bb680e5fe0c8" := by
    decide
  exact ⟨hread, log_read_back.2.1 t e hread, by rw [← hwritten]; rfl⟩

end Event

end Adventure
