import Adventure.Number.Double

/-!
# JSON values

A `Json` is a JSON value without its text: animations and audio settings are kept in this form, and
actions and guards are read from it.

## Main definitions

* `Json.Number`: an integer or a double.  A document writes integers from `-2 ^ 63` up to
  `2 ^ 64 - 1` as digits alone; every other number is a double.
* `Json`: the values.  An object that was read from a document has its keys in increasing order,
  each once.
* `Json.member?`: the value of a key.
-/

namespace Adventure

/-- A number of a document. -/
inductive Json.Number where
  | int (value : Int)
  | float (value : Double)
  deriving DecidableEq

/-- A JSON value. -/
inductive Json where
  | null
  | bool (value : Bool)
  | number (value : Json.Number)
  | string (value : String)
  | array (items : List Json)
  | object (members : List (String × Json))

namespace Json

instance : Inhabited Json := ⟨null⟩

/-- The number as a double; an integer is rounded. -/
def Number.toDouble : Number → Double
  | .int n => .ofInt n
  | .float x => x

/-- The least integer that fits 64 bits with a sign. -/
def minInt : Int := -0x8000000000000000

/-- The greatest integer that fits 64 bits without a sign. -/
def maxNat : Nat := 0xffffffffffffffff

/-- The value of a key in a list of members. -/
def find (key : String) : List (String × Json) → Option Json
  | [] => none
  | (k, v) :: rest => if k = key then some v else find key rest

/-- The value of a key; a value that is no object has none. -/
def member? (key : String) : Json → Option Json
  | object members => find key members
  | _ => none

end Json

end Adventure
