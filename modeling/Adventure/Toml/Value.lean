import Adventure.Json.Value
import Adventure.Table
import Adventure.Toml.Numeral
import Adventure.Toml.Text

/-!
# Values

## Main definitions

* `Value`: the values of a document.
* `Value.toJson`: the value as actions and guards are read from it.
-/

namespace Adventure.Toml

/-- A value of a document.  No key occurs twice in a table. -/
inductive Value where
  | string (text : String)
  | number (value : Numeral)
  | bool (value : Bool)
  | moment (value : Moment)
  | array (items : List Value)
  | table (entries : List (String × Value))

namespace Value

instance : Inhabited Value := ⟨bool false⟩

/-- The key under which a moment has its text. -/
def momentKey : String := "$__toml_private_datetime"

/-- A number as a value; a double that is not finite has none. -/
def ofNumeral : Numeral → Json
  | .int n => .number (.int n.toInt)
  | .float x => if x.isFinite then .number (.float x) else .null

mutual

/-- The same value without the types that only this format has: a moment becomes an object that
holds its text, and a double that is not finite becomes `null`. -/
def toJson : Value → Json
  | string s => .string s
  | number n => ofNumeral n
  | bool b => .bool b
  | moment m => .object [(momentKey, .string m.text)]
  | array items => .array (toItems items)
  | table entries => .object (toTable ∅ entries).entries

/-- The values of a list. -/
def toItems : List Value → List Json
  | [] => []
  | item :: items => item.toJson :: toItems items

/-- The values of entries, added to a table. -/
def toTable (t : Table Json) : List (String × Value) → Table Json
  | [] => t
  | (key, value) :: entries => toTable (t.insert key value.toJson) entries

end

end Value

end Adventure.Toml
