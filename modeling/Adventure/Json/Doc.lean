import Adventure.Json.Token

/-!
# Documents as they were written

A `Doc` is the tree of a text that need not be a document: where the text is at fault the tree has a
fault, and nothing behind it.  Members keep the order in which they were written, and a repeated
key is there as often as it was written.  Whoever takes a value out of the tree in this order meets
a wrong value or a fault in the order of the text.

The tree is built by an automaton with a stack of the containers that are open
(`Builder.step`), one token at a time.

## Main definitions

* `Doc`, `ListEnd`, `ObjectEnd`: the trees and how a container ends.
* `Doc.ofText`: the tree of the first value of a text, and whether anything stands behind it.
* `Doc.skip`: the first fault, as one finds it who skips the value.
* `Doc.ofJson`: the tree of a value.
-/

namespace Adventure.Json

/-- A key as it was written; one whose escapes do not pair has no text. -/
abbrev Key := Except Malformed String

/-- How a list ends: by its bracket, at the end of the text, at a comma with nothing or only the
bracket behind it, at an item without a comma before it, or within its last item. -/
inductive ListEnd where
  | closed
  | unfinished
  | afterComma
  | trailingComma
  | noComma
  | cut
  deriving DecidableEq

/-- How an object ends: by its brace, at the end of the text, at a comma with nothing or only the
brace behind it, at a member without a comma before it, at a key that is no string, at a key that
breaks off, at a key without a colon, or within its last value. -/
inductive ObjectEnd where
  | closed
  | unfinished
  | afterComma
  | trailingComma
  | noComma
  | keyNotString
  | brokenKey (fault : Fault)
  | noColon (key : Key) (atEnd : Bool)
  | cut

/-- The tree of a text that need not be a document.  Where a value should be there may be a number
or a word that breaks off (`broken`), a string that breaks off, or no value at all (`fault`). -/
inductive Doc where
  | null
  | bool (value : Bool)
  | number (value : Option Number)
  | string (text : Except Malformed String)
  | list (items : List Doc) (ending : ListEnd)
  | object (members : List (Key × Doc)) (ending : ObjectEnd)
  | broken (cause : Fault)
  | fault (cause : Fault)

namespace ListEnd

/-- What is wrong with the end of a list. -/
def fault? : ListEnd → Option Fault
  | closed => none
  | unfinished => some (.both .endInList)
  | afterComma => some (.both .endInValue)
  | trailingComma => some ⟨.trailingComma, .noValue⟩
  | noComma => some (.both .noCommaInList)
  | cut => some (.both .endInValue)

/-- What is wrong with the end of a list of which no more items are asked for. -/
def afterLast? : ListEnd → Option Malformed
  | closed => none
  | unfinished => some .endInList
  | trailingComma => some .trailingComma
  | afterComma | noComma | cut => some .trailingCharacters

end ListEnd

namespace ObjectEnd

/-- What is wrong with the end of an object. -/
def fault? : ObjectEnd → Option Fault
  | closed => none
  | unfinished => some (.both .endInObject)
  | afterComma => some ⟨.endInValue, .endInObject⟩
  | trailingComma => some ⟨.trailingComma, .keyNotString⟩
  | noComma => some (.both .noCommaInObject)
  | keyNotString => some (.both .keyNotString)
  | brokenKey fault => some fault
  | noColon key atEnd =>
    let skipping := if atEnd then .endInObject else .noColon
    match key with
    | .ok _ => some (.both skipping)
    | .error reading => some ⟨reading, skipping⟩
  | cut => some (.both .endInValue)

end ObjectEnd

/-! ## Building the tree -/

namespace Builder

/-- A container that is open around the value at hand: a list with its items so far, or an object
with its members so far and the key of the value.  Items and members stand in reverse. -/
inductive Frame where
  | list (items : List Doc)
  | object (members : List (Key × Doc)) (key : Key)

/-- What has been read, from the innermost container outwards. -/
inductive State where
  /-- A value must start. -/
  | value (frames : List Frame)
  /-- A list was opened. -/
  | first (frames : List Frame)
  /-- An item is complete. -/
  | afterItem (items : List Doc) (frames : List Frame)
  /-- A comma was read in a list. -/
  | nextItem (items : List Doc) (frames : List Frame)
  /-- An object was opened. -/
  | firstKey (frames : List Frame)
  /-- A key was read. -/
  | colon (members : List (Key × Doc)) (key : Key) (frames : List Frame)
  /-- A member is complete. -/
  | afterMember (members : List (Key × Doc)) (frames : List Frame)
  /-- A comma was read in an object. -/
  | nextKey (members : List (Key × Doc)) (frames : List Frame)
  /-- The outermost value is complete or at fault. -/
  | complete (doc : Doc) (trailing : Bool)

/-- The whole tree when the innermost value is the last one that can be read. -/
def unwind (doc : Doc) : List Frame → Doc
  | [] => doc
  | .list items :: frames => unwind (.list (doc :: items).reverse .cut) frames
  | .object members key :: frames => unwind (.object ((key, doc) :: members).reverse .cut) frames

/-- The text is at fault within the value `doc`. -/
def stop (doc : Doc) (frames : List Frame) : State := .complete (unwind doc frames) false

/-- A value is complete. -/
def finish (doc : Doc) : List Frame → State
  | [] => .complete doc false
  | .list items :: frames => .afterItem (doc :: items) frames
  | .object members key :: frames => .afterMember ((key, doc) :: members) frames

/-- A token where a value must start. -/
def begin (frames : List Frame) : Token → State
  | .null => finish .null frames
  | .bool b => finish (.bool b) frames
  | .number n => finish (.number n) frames
  | .string s => finish (.string s) frames
  | .openList => .first frames
  | .openObject => .firstKey frames
  | .brokenString fault => stop (.fault fault) frames
  | .brokenScalar fault => stop (.broken fault) frames
  -- No value starts with any other token.
  | .closeList | .closeObject | .comma | .colon | .stray => stop (.fault (.both .noValue)) frames

/-- A token where a key must start. -/
def key (members : List (Key × Doc)) (frames : List Frame) : Token → State
  | .string s => .colon members s frames
  | .brokenString fault => stop (.object members.reverse (.brokenKey fault)) frames
  | _ => stop (.object members.reverse .keyNotString) frames

/-- Reads one token. -/
def step : State → Token → State
  | .value frames, token => begin frames token
  | .first frames, .closeList => finish (.list [] .closed) frames
  | .first frames, token => begin (.list [] :: frames) token
  | .afterItem items frames, .comma => .nextItem items frames
  | .afterItem items frames, .closeList => finish (.list items.reverse .closed) frames
  | .afterItem items frames, _ => stop (.list items.reverse .noComma) frames
  | .nextItem items frames, .closeList => stop (.list items.reverse .trailingComma) frames
  | .nextItem items frames, token => begin (.list items :: frames) token
  | .firstKey frames, .closeObject => finish (.object [] .closed) frames
  | .firstKey frames, token => key [] frames token
  | .colon members k frames, .colon => .value (.object members k :: frames)
  | .colon members k frames, _ => stop (.object members.reverse (.noColon k false)) frames
  | .afterMember members frames, .comma => .nextKey members frames
  | .afterMember members frames, .closeObject => finish (.object members.reverse .closed) frames
  | .afterMember members frames, _ => stop (.object members.reverse .noComma) frames
  | .nextKey members frames, .closeObject => stop (.object members.reverse .trailingComma) frames
  | .nextKey members frames, token => key members frames token
  | .complete doc _, _ => .complete doc true

/-- The tree when no token is left, and whether one stood behind the value. -/
def conclude : State → Doc × Bool
  | .value frames => (unwind (.fault (.both .endInValue)) frames, false)
  | .first frames => (unwind (.list [] .unfinished) frames, false)
  | .afterItem items frames => (unwind (.list items.reverse .unfinished) frames, false)
  | .nextItem items frames => (unwind (.list items.reverse .afterComma) frames, false)
  | .firstKey frames => (unwind (.object [] .unfinished) frames, false)
  | .colon members k frames => (unwind (.object members.reverse (.noColon k true)) frames, false)
  | .afterMember members frames => (unwind (.object members.reverse .unfinished) frames, false)
  | .nextKey members frames => (unwind (.object members.reverse .afterComma) frames, false)
  | .complete doc trailing => (doc, trailing)

/-- Reads tokens. -/
def run (state : State) (tokens : List Token) : State := tokens.foldl step state

@[simp] theorem run_nil (state : State) : run state [] = state := rfl

@[simp] theorem run_cons (state : State) (token : Token) (tokens : List Token) :
    run state (token :: tokens) = run (step state token) tokens := rfl

theorem run_append (state : State) (s t : List Token) :
    run state (s ++ t) = run (run state s) t := List.foldl_append

end Builder

namespace Doc

/-- The tree of a list of tokens, and whether some stand behind the value. -/
def ofTokens (tokens : List Token) : Doc × Bool :=
  Builder.conclude (Builder.run (.value []) tokens)

/-- The tree of the first value of a text, and whether anything but blanks stands behind it. -/
def ofText (text : String) : Doc × Bool := ofTokens (Token.scan text.toList)

/-! ## Skipping -/

mutual

/-- The first fault of a value that is only skipped.  Numbers may be out of range and escapes need
not pair. -/
def skip : Doc → Except Malformed Unit
  | .null | .bool _ | .number _ | .string _ => .ok ()
  | .list items ending => do
    skipItems items
    match ending.fault? with
    | none => .ok ()
    | some cause => .error cause.skipping
  | .object members ending => do
    skipMembers members
    match ending.fault? with
    | none => .ok ()
    | some cause => .error cause.skipping
  | .broken cause | .fault cause => .error cause.skipping

/-- The first fault of a list of items. -/
def skipItems : List Doc → Except Malformed Unit
  | [] => .ok ()
  | item :: items => do
    skip item
    skipItems items

/-- The first fault of a list of members. -/
def skipMembers : List (Key × Doc) → Except Malformed Unit
  | [] => .ok ()
  | (_, value) :: members => do
    skip value
    skipMembers members

end

/-! ## Values as documents -/

mutual

/-- The tree of a value. -/
def ofJson : Json → Doc
  | .null => .null
  | .bool b => .bool b
  | .number n => .number (some n)
  | .string s => .string (.ok s)
  | .array items => .list (ofItems items) .closed
  | .object members => .object (ofMembers members) .closed

/-- The trees of a list of values. -/
def ofItems : List Json → List Doc
  | [] => []
  | item :: items => ofJson item :: ofItems items

/-- The trees of a list of members. -/
def ofMembers : List (String × Json) → List (Key × Doc)
  | [] => []
  | (key, value) :: members => (.ok key, ofJson value) :: ofMembers members

end

end Doc

end Adventure.Json
