import Adventure.Json.Value

/-!
# Values of variables

A variable holds a truth value, an integer of 64 bits, a double or a string.

## Main definitions

* `Value`, `Value.ofJson?`, `Value.toJson`: the values and their form in documents.  An integer that
  does not fit 64 bits with a sign is read as a double; a number that is not finite is written as
  `null`, which no value is read from.
* `Value.strictlyEquals`: equality of kind and value, integers and doubles being one kind.
* `Value.add?`: the sum of two numbers.
-/

namespace Adventure

/-- The value of a variable. -/
inductive Value where
  | bool (value : Bool)
  | int (value : Int64)
  | float (value : Double)
  | string (value : String)
  deriving DecidableEq

namespace Value

/-- An integer of 64 bits as a double, rounded. -/
def intToDouble (n : Int64) : Double := .ofInt n.toInt

/-- Whether the value is a number. -/
def isNumber : Value → Bool
  | int _ | float _ => true
  | bool _ | string _ => false

/-- What a message calls a value of this kind. -/
def kindLabel : Value → String
  | bool _ => "a boolean"
  | int _ | float _ => "a number"
  | string _ => "a string"

/-- Whether two values are of one kind and equal.  An integer equals a double if it does after
rounding to one. -/
def strictlyEquals : Value → Value → Bool
  | bool a, bool b => a == b
  | string a, string b => a == b
  | int a, int b => a == b
  | int a, float b => (intToDouble a).equals b
  | float a, int b => (intToDouble b).equals a
  | float a, float b => a.equals b
  | _, _ => false

/-- The sum of two integers if it fits 64 bits, and otherwise the sum of their doubles. -/
def addInts (a b : Int64) : Value :=
  let sum := a.toInt + b.toInt
  if Int64.minValue.toInt ≤ sum ∧ sum ≤ Int64.maxValue.toInt then int (.ofInt sum)
  else float ((intToDouble a).add (intToDouble b))

/-- The sum of two numbers; other values have none. -/
def add? : Value → Value → Option Value
  | int a, int b => some (addInts a b)
  | int a, float b => some (float ((intToDouble a).add b))
  | float a, int b => some (float (a.add (intToDouble b)))
  | float a, float b => some (float (a.add b))
  | _, _ => none

/-- The value that a document writes, if it writes one. -/
def ofJson? : Json → Option Value
  | .bool b => some (bool b)
  | .number (.int n) =>
    if Int64.minValue.toInt ≤ n ∧ n ≤ Int64.maxValue.toInt then some (int (.ofInt n))
    -- Beyond the integers of 64 bits there are only doubles.
    else some (float (.ofInt n))
  | .number (.float x) => some (float x)
  | .string s => some (string s)
  | .null | .array _ | .object _ => none

/-- The value as a document writes it. -/
def toJson : Value → Json
  | bool b => .bool b
  | int n => .number (.int n.toInt)
  | float x => if x.isFinite then .number (.float x) else .null
  | string s => .string s

theorem strictlyEquals_comm (a b : Value) : a.strictlyEquals b = b.strictlyEquals a := by
  cases a <;> cases b <;> simp only [strictlyEquals] <;>
    first | exact Double.equals_comm _ _ | rw [Bool.beq_comm]

theorem add?_isSome_iff (a b : Value) :
    (a.add? b).isSome = (a.isNumber && b.isNumber) := by
  cases a <;> cases b <;> rfl

end Value

end Adventure
