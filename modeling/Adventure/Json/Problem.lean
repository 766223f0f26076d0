import Adventure.Json.Malformed
import Adventure.Number.Shortest
import Adventure.Text.Quoted
import Adventure.Uuid

/-!
# Why a document is refused

A document is refused for its text or for a value that does not fit.  The place is a path of keys
and positions from the outermost value.

## Main definitions

* `Found`: a value of the wrong kind, as messages show it.
* `Problem`: the causes; `Problem.refused` carries a cause of the one who reads.
* `Segment`, `pathText`: places.
* `Misread`: a cause at its place.
-/

namespace Adventure.Json

/-- A value of the wrong kind. -/
inductive Found where
  | null
  | bool (value : Bool)
  | int (value : Int)
  | float (value : Double)
  | string (text : String)
  | sequence
  | map
  | unitVariant
  deriving DecidableEq

/-- How a message shows a value of the wrong kind. -/
def Found.text : Found → String
  | null => "null"
  | bool b => s!"boolean `{b}`"
  | int n => s!"integer `{n}`"
  | float x => s!"floating point `{DecimalStyle.document.write x}`"
  | string s => "string " ++ Text.quoted s
  | sequence => "sequence"
  | map => "map"
  | unitVariant => "unit variant"

/-- Why a document is refused. -/
inductive Problem (ε : Type) where
  | malformed (cause : Malformed)
  | invalidType (found : Found) (expected : String)
  | invalidValue (found : Found) (expected : String)
  | invalidLength (length : Nat) (expected : String)
  | missingField (name : String)
  | duplicateField (name : String)
  | unknownVariant (name : String) (known : List String)
  | noVariant (type : String)
  | badUuid (cause : Uuid.Refusal)
  | refused (cause : ε)

/-- The names that a message offers. -/
def offer (names : List String) : String :=
  ", ".intercalate (names.map fun name => s!"`{name}`")

/-- The wording of a cause. -/
def Problem.message {ε : Type} (wording : ε → String) : Problem ε → String
  | malformed cause => cause.message
  | invalidType found expected => s!"invalid type: {found.text}, expected {expected}"
  | invalidValue found expected => s!"invalid value: {found.text}, expected {expected}"
  | invalidLength length expected => s!"invalid length {length}, expected {expected}"
  | missingField name => s!"missing field `{name}`"
  | duplicateField name => s!"duplicate field `{name}`"
  | unknownVariant name known => s!"unknown variant `{name}`, expected one of {offer known}"
  | noVariant type => s!"data did not match any variant of untagged enum {type}"
  | badUuid cause => s!"UUID parsing failed: {cause.message}"
  | refused cause => wording cause

/-- A step from a container to a value in it; the place of a key that cannot be read is not
known. -/
inductive Segment where
  | index (position : Nat)
  | key (name : String)
  | unknown
  deriving DecidableEq

/-- The text of a path behind the text of its beginning. -/
def pathTail : List Segment → String
  | [] => ""
  | .index i :: rest => s!"[{i}]" ++ pathTail rest
  | .key name :: rest => "." ++ name ++ pathTail rest
  | .unknown :: rest => ".?" ++ pathTail rest

/-- The text of a path: positions in brackets, and names with points between. -/
def pathText : List Segment → String
  | [] => "."
  | .key name :: rest => name ++ pathTail rest
  | .unknown :: rest => "?" ++ pathTail rest
  | path => pathTail path

/-- A cause at its place. -/
structure Misread (ε : Type) where
  path : List Segment
  problem : Problem ε

namespace Misread

variable {ε : Type}

/-- A cause at the value itself. -/
def here (problem : Problem ε) : Misread ε := ⟨[], problem⟩

/-- A cause in a value within a container. -/
def under (segment : Segment) (m : Misread ε) : Misread ε := ⟨segment :: m.path, m.problem⟩

end Misread

end Adventure.Json
