import Adventure.Json.Doc
import Adventure.Json.Problem
import Adventure.Table

/-!
# Reading typed values out of a document

A `Reader α` takes an `α` out of a tree, or says what is wrong and where.  Readers go through a tree
in the order of its text, so the first problem in this order is the one that is reported.  At most
`depthLimit - 1` containers may be open at once; values that are only skipped are not counted.

## Main definitions

* `Reader`: readers; `Reader.string`, `Reader.bool`, `Reader.list`, `Reader.table` and so on.
* `Layout`, `Reader.record`: records with named fields, which may also be written as the list of
  their fields.
* `Reader.json`: any value.  Objects get their keys in increasing order; of a repeated key the last
  value counts.
* `Reader.variant`: a value with one of several names.
* `Reader.first`, `Reader.whole`: the readers applied to a text.
-/

namespace Adventure.Json

/-- Containers may be nested up to one less than this. -/
def depthLimit : Nat := 128

/-- Takes a value out of a tree; the number is how deep containers may still be nested. -/
abbrev Reader (ε α : Type) := Nat → Doc → Except (Misread ε) α

namespace Reader

variable {ε α β : Type}

/-- Refuses the value. -/
def fail (problem : Problem ε) : Except (Misread ε) α := .error (.here problem)

/-- Refuses the value for its text. -/
def malformed (cause : Malformed) : Except (Misread ε) α := fail (.malformed cause)

/-- Refuses the value for what is wrong with its text, if anything is. -/
def checked (cause : Option Malformed) (a : α) : Except (Misread ε) α :=
  match cause with
  | none => .ok a
  | some cause => malformed cause

/-- A number of the wrong kind. -/
def foundNumber : Number → Found
  | .int n => .int n
  | .float x => .float x

/-- Refuses a value of the wrong kind.  A container is not looked into; any other value must itself
be without fault to be refused for its kind. -/
def mismatch (expected : String) : Doc → Except (Misread ε) α
  | .null => fail (.invalidType .null expected)
  | .bool b => fail (.invalidType (.bool b) expected)
  | .number (some n) => fail (.invalidType (foundNumber n) expected)
  | .number none => malformed .numberOutOfRange
  | .string (.ok s) => fail (.invalidType (.string s) expected)
  | .string (.error cause) => malformed cause
  | .list .. => fail (.invalidType .sequence expected)
  | .object .. => fail (.invalidType .map expected)
  | .broken cause | .fault cause => malformed cause.reading

/-- Runs a reader on a value within a container. -/
def within (segment : Segment) (r : Except (Misread ε) α) : Except (Misread ε) α :=
  r.mapError (Misread.under segment)

/-- The nesting that is left within a container. -/
def enter (depth : Nat) : Except (Misread ε) Nat :=
  if depth ≤ 1 then malformed .tooDeep else .ok (depth - 1)

/-! ## Scalars -/

/-- A string. -/
def string : Reader ε String
  | _, .string (.ok s) => .ok s
  | _, doc => mismatch "a string" doc

/-- A truth value. -/
def bool : Reader ε Bool
  | _, .bool b => .ok b
  | _, doc => mismatch "a boolean" doc

/-- Nothing, written as `null`. -/
def unit : Reader ε Unit
  | _, .null => .ok ()
  | _, doc => mismatch "unit" doc

/-- A number, rounded to binary32. -/
def single : Reader ε Single
  | _, .number (some (.int n)) => .ok (.ofInt n)
  | _, .number (some (.float x)) => .ok (.ofDouble x)
  | _, doc => mismatch "f32" doc

/-- A position: an integer of 64 bits without a sign. -/
def position : Reader ε Nat
  | _, .number (some (.int n)) =>
    if n < 0 then fail (.invalidValue (.int n) "usize") else .ok n.toNat
  | _, doc => mismatch "usize" doc

/-- A uuid in one of its notations. -/
def uuid : Reader ε Uuid
  | _, .string (.ok s) =>
    match Uuid.parse s with
    | .ok u => .ok u
    | .error cause => fail (.badUuid cause)
  | _, doc => mismatch "a formatted UUID string" doc

/-- A value that may be `null`. -/
def nullable (r : Reader ε α) : Reader ε (Option α)
  | _, .null => .ok none
  | depth, doc => (r depth doc).map some

/-! ## Containers -/

/-- The items of a list, from the position `i` on. -/
def items (r : Reader ε α) (depth : Nat) (i : Nat) : List Doc → Except (Misread ε) (List α)
  | [] => .ok []
  | item :: rest => do
    let a ← within (.index i) (r depth item)
    let as ← items r depth (i + 1) rest
    return a :: as

/-- A list. -/
def list (r : Reader ε α) : Reader ε (List α)
  | depth, .list ds ending => do
    let depth ← enter depth
    let as ← items r depth 0 ds
    checked (ending.fault?.map Fault.reading) as
  | _, doc => mismatch "a sequence" doc

/-- A key; the place of one that cannot be read is not known. -/
def key : Key → Except (Misread ε) String
  | .ok name => .ok name
  | .error cause => within .unknown (malformed cause)

/-- The end of an object.  What is wrong where a key should be has no known place; a missing colon
is a fault of the object. -/
def objectEnd (ending : ObjectEnd) (a : α) : Except (Misread ε) α :=
  match ending with
  | .noColon (.ok _) _ => checked (ending.fault?.map Fault.reading) a
  | _ => within .unknown (checked (ending.fault?.map Fault.reading) a)

/-- The entries of an object, added to a table. -/
def entries (r : Reader ε α) (depth : Nat) (t : Table α) :
    List (Key × Doc) → Except (Misread ε) (Table α)
  | [] => .ok t
  | (k, doc) :: rest => do
    let name ← key k
    let a ← within (.key name) (r depth doc)
    entries r depth (t.insert name a) rest

/-- An object with values of one type; of a repeated key the last value counts. -/
def table (r : Reader ε α) : Reader ε (Table α)
  | depth, .object members ending => do
    let depth ← enter depth
    let t ← entries r depth ∅ members
    objectEnd ending t
  | _, doc => mismatch "a map" doc

end Reader

/-! ## Records -/

/-- Where a field may be left out: nowhere, in an object, or also at the end of a list of fields. -/
inductive Presence where
  | required
  | optional
  | defaulted
  deriving DecidableEq

/-- A field of a record: its name, where it may be left out, and a reader of its value, which says
how the value changes a record. -/
structure Field (ε α : Type) where
  name : String
  presence : Presence
  read : Reader ε (α → α)

/-- A record: its name in messages, the record without any field, and its fields in order. -/
structure Layout (ε α : Type) where
  name : String
  blank : α
  fields : List (Field ε α)

namespace Field

variable {ε α β : Type}

/-- A field that must be there. -/
def required (name : String) (r : Reader ε β) (set : β → α → α) : Field ε α :=
  ⟨name, .required, fun depth doc => (r depth doc).map set⟩

/-- A field that an object may leave out. -/
def optional (name : String) (r : Reader ε β) (set : β → α → α) : Field ε α :=
  ⟨name, .optional, fun depth doc => (r depth doc).map set⟩

/-- A field that may be left out. -/
def defaulted (name : String) (r : Reader ε β) (set : β → α → α) : Field ε α :=
  ⟨name, .defaulted, fun depth doc => (r depth doc).map set⟩

end Field

namespace Reader

variable {ε α : Type}

/-- The fields of a record written as a list. -/
def fieldItems (l : Layout ε α) (depth : Nat) (ending : ListEnd) :
    Nat → List (Field ε α) → List Doc → α → Except (Misread ε) α
  | _, [], [], a => checked ending.afterLast? a
  | _, [], _ :: _, _ => malformed .trailingCharacters
  | i, field :: fields, [], a =>
    match ending.fault? with
    | some cause => malformed cause.reading
    | none =>
      -- The list has ended: the fields that are left must be ones that a list may leave out.
      if field.presence = .defaulted then fieldItems l depth ending (i + 1) fields [] a
      else
        let plural := if l.fields.length = 1 then "" else "s"
        fail (.invalidLength i s!"{l.name} with {l.fields.length} element{plural}")
  | i, field :: fields, doc :: docs, a => do
    let set ← within (.index i) (field.read depth doc)
    fieldItems l depth ending (i + 1) fields docs (set a)

/-- The members of a record written as an object.  Fields that were seen are named in `seen`;
members that are no fields are skipped. -/
def fieldMembers (l : Layout ε α) (depth : Nat) :
    List (Key × Doc) → List String → α → Except (Misread ε) (List String × α)
  | [], seen, a => .ok (seen, a)
  | (k, doc) :: members, seen, a => do
    let name ← key k
    match l.fields.find? fun field => field.name == name with
    | some field =>
      -- A repeated field is refused for its key; its value is not read.
      if seen.contains name then fail (.duplicateField name)
      let set ← within (.key name) (field.read depth doc)
      fieldMembers l depth members (name :: seen) (set a)
    | none =>
      match doc.skip with
      | .ok () => fieldMembers l depth members seen a
      | .error cause => within (.key name) (malformed cause)

/-- A key without a colon is still a field that must not be repeated. -/
def lastKey (l : Layout ε α) (seen : List String) : ObjectEnd → Except (Misread ε) Unit
  | .noColon (.ok name) _ =>
    if seen.contains name && l.fields.any (fun field => field.name == name) then
      fail (.duplicateField name)
    else .ok ()
  | _ => .ok ()

/-- The first required field that was not seen. -/
def missing (l : Layout ε α) (seen : List String) : Option (Field ε α) :=
  l.fields.find? fun field => field.presence == .required && !seen.contains field.name

/-- A record, written as an object or as the list of its fields. -/
def record (l : Layout ε α) : Reader ε α
  | depth, .object members ending => do
    let depth ← enter depth
    let (seen, a) ← fieldMembers l depth members [] l.blank
    lastKey l seen ending
    objectEnd ending ()
    match missing l seen with
    | some field => fail (.missingField field.name)
    | none => .ok a
  | depth, .list docs ending => do
    let depth ← enter depth
    fieldItems l depth ending 0 l.fields docs l.blank
  | _, doc => mismatch l.name doc

/-! ## Any value -/

mutual

/-- Any value. -/
def json (depth : Nat) : Doc → Except (Misread ε) Json
  | .null => .ok .null
  | .bool b => .ok (.bool b)
  | .number (some n) => .ok (.number n)
  | .number none => malformed .numberOutOfRange
  | .string (.ok s) => .ok (.string s)
  | .string (.error cause) => malformed cause
  | .list docs ending => do
    let depth ← enter depth
    let items ← jsonItems depth 0 docs
    checked (ending.fault?.map Fault.reading) (.array items)
  | .object members ending => do
    let depth ← enter depth
    let t ← jsonMembers depth ∅ members
    objectEnd ending (.object t.entries)
  | .broken cause | .fault cause => malformed cause.reading

/-- The values of a list, from the position `i` on. -/
def jsonItems (depth i : Nat) : List Doc → Except (Misread ε) (List Json)
  | [] => .ok []
  | doc :: docs => do
    let item ← within (.index i) (json depth doc)
    let items ← jsonItems depth (i + 1) docs
    return item :: items

/-- The values of an object, added to a table. -/
def jsonMembers (depth : Nat) (t : Table Json) :
    List (Key × Doc) → Except (Misread ε) (Table Json)
  | [] => .ok t
  | (k, doc) :: members => do
    let name ← key k
    let value ← within (.key name) (json depth doc)
    jsonMembers depth (t.insert name value) members

end

/-- A value that is read whole and then understood. -/
def understood (understand : Json → Except (Problem ε) α) : Reader ε α
  | depth, doc => do
    let value ← json depth doc
    match understand value with
    | .ok a => .ok a
    | .error problem => fail problem

/-! ## Variants -/

/-- A variant of a type: its name and a reader of what comes with the name. -/
structure Variant (ε α : Type) where
  name : String
  /-- The value of the name alone, or what is expected instead. -/
  alone : Except String α
  read : Reader ε α

/-- The variant of a name. -/
def variantOf (variants : List (Variant ε α)) (name : String) : Except (Misread ε) (Variant ε α) :=
  match variants.find? fun v => v.name == name with
  | some v => .ok v
  | none => fail (.unknownVariant name (variants.map Variant.name))

/-- A value with one of several names: an object whose only key is the name, or the name alone. -/
def variant (variants : List (Variant ε α)) : Reader ε α
  | depth, .object members ending => do
    let depth ← enter depth
    match members with
    | [] =>
      match ending with
      | .closed => malformed .noValue
      | .unfinished => malformed .endInObject
      | .keyNotString => malformed .keyNotString
      | .brokenKey cause => malformed cause.reading
      | .noColon (.ok name) atEnd => do
        let _ ← variantOf variants name
        malformed (if atEnd then .endInObject else .noColon)
      | .noColon (.error cause) _ => malformed cause
      | _ => malformed .noValue
    | (.error cause, _) :: _ => malformed cause
    | (.ok name, doc) :: rest => do
      let v ← variantOf variants name
      let a ← v.read depth doc
      match rest, ending with
      -- Nothing but the brace may stand behind the value.
      | [], .closed => .ok a
      | [], .unfinished => malformed .endInObject
      | _, _ => malformed .noValue
  | _, .string (.ok name) => do
    let v ← variantOf variants name
    match v.alone with
    | .ok a => .ok a
    | .error expected => fail (.invalidType .unitVariant expected)
  | _, .string (.error cause) => malformed cause
  | _, .fault cause => malformed cause.reading
  | _, _ => malformed .noValue

/-! ## Texts -/

/-- Reads the first value of a text; what stands behind it is not looked at. -/
def first (r : Reader ε α) (text : String) : Except (Misread ε) α :=
  r depthLimit (Doc.ofText text).1

/-- Reads a text that is one value. -/
def whole (r : Reader ε α) (text : String) : Except (Misread ε) α := do
  let (doc, trailing) := Doc.ofText text
  let a ← r depthLimit doc
  if trailing then malformed .trailingCharacters else .ok a

end Reader

end Adventure.Json
