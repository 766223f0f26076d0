import Adventure.Proofs.Reachability
import Adventure.Proofs.Readers

/-!
# Saved games

A saved game is read back as the player that was saved, but for the message that waits for an
answer.  Every value of a variable keeps its kind: an integer is written as an integer and a double
as a double, and what is read is taken for a boolean, an integer, a double or a string in this
order.  Only a double that is not finite has no written form: it is saved as nothing, and a game
that holds one cannot be read back.  Increments can make a variable infinite.

## Main definitions

* `Json.Reader.verdict`, `Json.Reader.flawOf?`: what is read back of something with or without a
  flaw, and the flaw of a table
* `Value.isFinite`, `Player.Finite`: a value, and all values of a player, have a written form

## Main results

* `Json.Reader.table_tableToJson`: a table is read back unless a value has a flaw
* `Value.ofJson?_toJson`: a value keeps its kind
* `Player.reader_toJson`: a saved game is read back unless a variable has a flaw
* `Player.restored_iff_finite`: a saved game is restored if and only if all variables are finite
-/

namespace Adventure

/-! ## Tables -/

namespace Table

variable {α : Type}

/-- A table is the table of its entries. -/
theorem ofList_entries (t : Table α) : ofList t.entries = t := by
  apply ext_get?
  intro key
  rw [ofList, get?_foldl_insert _ t.sorted, get?_empty, Option.or_none]
  rfl

end Table

/-- A set is the set of its names. -/
theorem Names.ofList_keys (s : Names) : Names.ofList s.keys = s := by
  rw [ofList, Table.keys, List.foldl_map]
  exact Table.ofList_entries s

/-! ## Readers -/

namespace Json.Reader

variable {ε α : Type} {depth : Nat}

/-- What was written, unless it has a flaw. -/
def verdict (flaw : Option (Misread ε)) (a : α) : Except (Misread ε) α :=
  match flaw with
  | none => .ok a
  | some m => .error m

/-- The flaw of the first entry that has one, at its key. -/
def flawOf? (flaw? : α → Option (Misread ε)) (l : List (String × α)) : Option (Misread ε) :=
  l.findSome? fun e => (flaw? e.2).map (Misread.under (.key e.1))

theorem nullable_optionToJson (s : Option String) :
    nullable (ε := ε) string depth (.ofJson (Player.optionToJson s)) = .ok s := by
  cases s <;> rfl

theorem items_strings (i : Nat) (l : List String) :
    items (ε := ε) string depth i (Doc.ofItems (l.map .string)) = .ok l := by
  induction l generalizing i with
  | nil => rfl
  | cons s l ih =>
    rw [List.map_cons, Doc.ofItems, items, ih]
    rfl

section Tables

variable {r : Reader ε α} {write : α → Json} {flaw? : α → Option (Misread ε)}

/-- Entries are read back up to the first one with a flaw. -/
theorem entries_written (hr : ∀ a, r depth (.ofJson (write a)) = verdict (flaw? a) a)
    (l : List (String × α)) (t : Table α) :
    entries r depth t (Doc.ofMembers (l.map fun e => (e.1, write e.2))) =
      verdict (flawOf? flaw? l) (l.foldl (fun t e => t.insert e.1 e.2) t) := by
  induction l generalizing t with
  | nil => rfl
  | cons e l ih =>
    rw [List.map_cons, Doc.ofMembers, entries, hr, flawOf?, List.findSome?_cons]
    cases flaw? e.2 with
    | none => exact ih _
    | some m => rfl

/-- **A table is read back**, unless a value has a flaw. -/
theorem table_tableToJson (hdepth : 2 ≤ depth)
    (hr : ∀ a, r (depth - 1) (.ofJson (write a)) = verdict (flaw? a) a) (t : Table α) :
    table r depth (.ofJson (Player.tableToJson write t)) =
      verdict (flawOf? flaw? t.entries) t := by
  have hentries := entries_written hr t.entries ∅
  rw [show t.entries.foldl _ ∅ = t from t.ofList_entries] at hentries
  rw [Player.tableToJson, Doc.ofJson, table, enter_of_le hdepth]
  simp only [bind, Except.bind, hentries]
  cases flawOf? flaw? t.entries <;> rfl

end Tables

theorem table_strings (hdepth : 2 ≤ depth) (t : Table String) :
    table (ε := ε) string depth (.ofJson (Player.tableToJson .string t)) = .ok t := by
  have hflaw : flawOf? (fun _ : String => (none : Option (Misread ε))) t.entries = none :=
    List.findSome?_eq_none_iff.2 fun _ _ => rfl
  have hread : ∀ s, string (ε := ε) (depth - 1) (.ofJson (.string s)) = verdict none s :=
    fun _ => rfl
  rw [table_tableToJson hdepth hread, hflaw]
  rfl

end Json.Reader

/-! ## Values -/

namespace Value

/-- Whether the value has a written form: it is no infinite double and no NaN. -/
def isFinite : Value → Bool
  | float x => x.isFinite
  | bool _ | int _ | string _ => true

/-- Why a value is not read back. -/
def flaw? (v : Value) : Option (Json.Misread Defect) :=
  if v.isFinite then none else some (.here (.noVariant "VarValue"))

theorem ofJson?_int (n : Int64) : ofJson? (.number (.int n.toInt)) = some (int n) := by
  rw [ofJson?, if_pos ⟨Int64.minValue_le_toInt n, Int64.toInt_le n⟩, Int64.ofInt_toInt]

/-- **A value keeps its kind**, if it has a written form. -/
theorem ofJson?_toJson (v : Value) : ofJson? v.toJson = if v.isFinite then some v else none := by
  cases v with
  | bool | string => rfl
  | int n => exact ofJson?_int n
  | float x =>
    rw [toJson, isFinite]
    cases x.isFinite <;> rfl

theorem json_toJson {ε : Type} (depth : Nat) (v : Value) :
    Json.Reader.json (ε := ε) depth (.ofJson v.toJson) = .ok v.toJson := by
  cases v with
  | bool | int | string => rfl
  | float x =>
    rw [toJson]
    cases x.isFinite <;> rfl

end Value

/-! ## Players -/

namespace Player

open Json.Reader (verdict flawOf? enter_of_le uuid_text nullable_optionToJson table_tableToJson
  table_strings fieldMembers_ok fieldMembers_error)

variable {depth : Nat}

theorem valueReader_toJson (depth : Nat) (v : Value) :
    valueReader depth (.ofJson v.toJson) = verdict v.flaw? v := by
  simp only [valueReader, Json.Reader.understood, v.json_toJson, Members.value,
    v.ofJson?_toJson, bind, Except.bind, Value.flaw?]
  cases v.isFinite <;> rfl

theorem namesReader_namesToJson (hdepth : 2 ≤ depth) (s : Names) :
    namesReader depth (.ofJson (namesToJson s)) = .ok s := by
  rw [namesReader, namesToJson, Json.Doc.ofJson, Json.Reader.list,
    Json.Reader.enter_of_le hdepth]
  simp only [bind, Except.bind, Json.Reader.items_strings]
  exact congrArg Except.ok (Names.ofList_keys s)

/-- The flaw of the first variable that has one. -/
def flaw? (p : Player) : Option (Json.Misread Defect) :=
  (flawOf? Value.flaw? p.values.entries).map (Json.Misread.under (.key "variables"))

/-- **A saved game is read back**, unless a variable has a flaw. -/
theorem reader_toJson (hdepth : 3 ≤ depth) (p : Player) :
    reader depth (.ofJson p.toJson) = verdict p.flaw? { p with pending := none } := by
  have hinner : 2 ≤ depth - 1 := by omega
  have hvalues := table_tableToJson hinner (valueReader_toJson _) p.values
  rw [reader, toJson, Json.Doc.ofJson, Json.Reader.record, enter_of_le (Nat.le_of_succ_le hdepth)]
  simp only [snapshot, Json.Doc.ofMembers, bind, Except.bind]
  -- The members stand in the order of their names; only the variables can be refused.
  rw [fieldMembers_ok (by rfl) (by rfl) (uuid_text _),
    fieldMembers_ok (by rfl) (by rfl) (nullable_optionToJson _),
    fieldMembers_ok (by rfl) (by rfl) (table_strings hinner _),
    fieldMembers_ok (by rfl) (by rfl) (nullable_optionToJson _),
    fieldMembers_ok (by rfl) (by rfl) (namesReader_namesToJson hinner _), flaw?]
  cases hflaw : flawOf? Value.flaw? p.values.entries with
  | none =>
    rw [hflaw] at hvalues
    rw [fieldMembers_ok (by rfl) (by rfl) hvalues,
      fieldMembers_ok (by rfl) (by rfl) (namesReader_namesToJson hinner _)]
    rfl
  | some m =>
    rw [hflaw] at hvalues
    rw [fieldMembers_error (by rfl) (by rfl) hvalues]
    rfl

/-- All variables have values with a written form. -/
def Finite (p : Player) : Prop := ∀ v ∈ p.values.values, v.isFinite = true

instance (p : Player) : Decidable p.Finite :=
  inferInstanceAs (Decidable (∀ v ∈ p.values.values, v.isFinite = true))

theorem flaw?_eq_none_iff {p : Player} : p.flaw? = none ↔ p.Finite := by
  simp only [flaw?, flawOf?, Value.flaw?, Finite, Table.values, Option.map_eq_none_iff,
    List.findSome?_eq_none_iff, List.forall_mem_map, ite_eq_left_iff, reduceCtorEq, imp_false,
    Bool.not_eq_true, Bool.not_eq_false]

/-- A flaw is that of some variable, and at its name. -/
theorem exists_of_flaw? {p : Player} {m : Json.Misread Defect} (h : p.flaw? = some m) :
    ∃ name v, p.valueOf? name = some v ∧ v.isFinite = false ∧
      m = ⟨[.key "variables", .key name], .noVariant "VarValue"⟩ := by
  obtain ⟨inner, hinner, rfl⟩ := Option.map_eq_some_iff.1 h
  obtain ⟨⟨name, v⟩, he, hv⟩ := List.exists_of_findSome?_eq_some hinner
  obtain ⟨cause, hcause, rfl⟩ := Option.map_eq_some_iff.1 hv
  rw [Value.flaw?] at hcause
  -- Only a value that is not finite has a cause.
  split at hcause
  · cases hcause
  · next hfinite =>
    cases hcause
    exact ⟨name, v, Table.mem_entries_iff.1 he, Bool.eq_false_iff.2 hfinite, rfl⟩

/-- **A saved game can be restored**, with the same session, scene, ambience, variables, stages,
scenes and answers and without an open message, if and only if all variables are finite.  Otherwise
it is refused for a variable that is not.  A saved game is nested two containers deep. -/
theorem restored_iff_finite (hdepth : 3 ≤ depth) (p : Player) :
    (reader depth (.ofJson p.toJson) = .ok { p with pending := none } ↔ p.Finite) ∧
    (¬p.Finite → ∃ name v, p.valueOf? name = some v ∧ v.isFinite = false ∧
      reader depth (.ofJson p.toJson) =
        .error ⟨[.key "variables", .key name], .noVariant "VarValue"⟩) := by
  rw [← flaw?_eq_none_iff, reader_toJson hdepth]
  cases hflaw : p.flaw? with
  | none => exact ⟨iff_of_true rfl rfl, fun h => absurd rfl h⟩
  | some m =>
    obtain ⟨name, v, hname, hv, rfl⟩ := exists_of_flaw? hflaw
    exact ⟨iff_of_false nofun nofun, fun _ => ⟨name, v, hname, hv, rfl⟩⟩

end Player

/-! ## An example -/

/-- A barn where a variable of each kind is kept. -/
def World.barn : World where
  stages := [
    { id := "yard"
      scenes := [
        { id := "loft"
          entryActions := [
            .new (.setVariable "door" (.bool true)),
            .new (.setVariable "owner" (.string "miller")),
            .new (.setVariable "sacks" (.int 41)),
            .new (.incrementVariable "sacks" (.int 1)),
            -- 1e308
            .new (.setVariable "grains" (.float (.ofCode false 0x7fe1ccf385ebc8a0)))]
          interactive := .ofList [
            ("up", [.new (.incrementVariable "grains" (.float (.ofCode false 0x7fe1ccf385ebc8a0)))]),
            ("down", [.new (.blockingText "Full." none [])])] }] }]

set_option maxRecDepth 4096 in
/-- The game of whoever reads the message in the barn is restored without the message. -/
theorem restored_iff_finite_barn :
    ∃ s, Reached ["up", "down"] s ∧ 3 ≤ Json.depthLimit ∧ s.player.Finite ∧
      s.player.pending = some [[]] ∧ s.player.valueOf? "sacks" = some (.int 42) ∧
      Player.reader Json.depthLimit (.ofJson s.player.toJson) =
        .ok { s.player with pending := none } := by
  have h := @Reached.call ["up", "down"] _ _ (.handle (.objectClicked "down")) 3 _
    (@Reached.start ["up", "down"] _ _ 3 (.ofNat 1) .barn _ (.fresh (.ofNat 0)) rfl) rfl
  refine ⟨_, h, by decide, by decide +kernel, rfl, rfl, ?_⟩
  exact (Player.restored_iff_finite (by decide) _).1.2 (by decide +kernel)

set_option maxRecDepth 4096 in
/-- Where the grains are doubled, they become infinite, and the game cannot be restored. -/
theorem not_forall_restored :
    ¬∀ (arrows : List String) (s : Session), Reached arrows s →
      Player.reader Json.depthLimit (.ofJson s.player.toJson) =
        .ok { s.player with pending := none } := by
  intro hall
  have h := @Reached.call ["up", "down"] _ _ (.handle (.objectClicked "up")) 3 _
    (@Reached.start ["up", "down"] _ _ 3 (.ofNat 1) .barn _ (.fresh (.ofNat 0)) rfl) rfl
  cases hall _ _ h

end Adventure
