/-!
# What can be wrong with the text of a document

A document is either read for its values or, below a field nobody asked for, only skipped.  The two
find the same texts at fault but do not always name the fault alike, so a fault keeps both names.

## Main definitions

* `Malformed`, `Malformed.message`: the causes and their wording.
* `Fault`: a cause as reading and as skipping names it.
-/

namespace Adventure.Json

/-- A cause for which the text of a document is refused. -/
inductive Malformed where
  | endInValue
  | endInList
  | endInObject
  | endInString
  | noValue
  | noIdent
  | noColon
  | noCommaInList
  | noCommaInObject
  | keyNotString
  | trailingComma
  | trailingCharacters
  | badNumber
  | numberOutOfRange
  | badEscape
  | loneSurrogate
  | unfinishedPair
  | controlCharacter
  | tooDeep
  deriving DecidableEq

/-- The wording of a cause. -/
def Malformed.message : Malformed → String
  | endInValue => "EOF while parsing a value"
  | endInList => "EOF while parsing a list"
  | endInObject => "EOF while parsing an object"
  | endInString => "EOF while parsing a string"
  | noValue => "expected value"
  | noIdent => "expected ident"
  | noColon => "expected `:`"
  | noCommaInList => "expected `,` or `]`"
  | noCommaInObject => "expected `,` or `\x7d`"
  | keyNotString => "key must be a string"
  | trailingComma => "trailing comma"
  | trailingCharacters => "trailing characters"
  | badNumber => "invalid number"
  | numberOutOfRange => "number out of range"
  | badEscape => "invalid escape"
  | loneSurrogate => "lone leading surrogate in hex escape"
  | unfinishedPair => "unexpected end of hex escape"
  | controlCharacter => "control character (\\u0000-\\u001F) found while parsing a string"
  | tooDeep => "recursion limit exceeded"

/-- A cause as reading and as skipping names it. -/
structure Fault where
  reading : Malformed
  skipping : Malformed
  deriving DecidableEq

/-- A cause with one name. -/
def Fault.both (m : Malformed) : Fault := ⟨m, m⟩

end Adventure.Json
