import Adventure.Json.Literal

/-!
# Tokens of a document

The text of a document is cut into tokens.  Blanks between tokens are the space, the tab, the line
feed and the carriage return.  A token that breaks off, or a character that starts no token, ends
the list: nothing behind it can be read.

## Main definitions

* `Token`: the tokens.
* `Token.scan`: the tokens of a text.
-/

namespace Adventure.Json

/-- A token of a document. -/
inductive Token where
  | openList
  | closeList
  | openObject
  | closeObject
  | comma
  | colon
  | null
  | bool (value : Bool)
  /-- A number; one out of range has no value. -/
  | number (value : Option Number)
  /-- A string; one whose escapes do not pair has no text. -/
  | string (text : Except Malformed String)
  | brokenString (fault : Fault)
  | brokenScalar (fault : Fault)
  | stray

namespace Token

/-- Whether a character separates tokens. -/
def isBlank (c : Char) : Bool := c == ' ' || c == '\t' || c == '\n' || c == '\r'

/-- The token of a scanned string. -/
def ofPieces (pieces : List Piece) (ending : StringEnd) : Token :=
  let text := joinPieces ending pieces
  match ending.fault? with
  | none => .string (text.map String.ofList)
  | some skipping =>
    match text with
    | .error reading => .brokenString ⟨reading, skipping⟩
    | .ok _ => .brokenString ⟨skipping, skipping⟩

/-- The token that starts with `c`, and the text behind it; a token that breaks off leaves none. -/
def next (c : Char) (rest : List Char) : Token × List Char :=
  match c with
  | '[' => (.openList, rest)
  | ']' => (.closeList, rest)
  | '{' => (.openObject, rest)
  | '}' => (.closeObject, rest)
  | ',' => (.comma, rest)
  | ':' => (.colon, rest)
  | '"' =>
    let (pieces, ending, rest) := scanString rest
    (ofPieces pieces ending, rest)
  | 'n' => word .null ['u', 'l', 'l'] rest
  | 't' => word (.bool true) ['r', 'u', 'e'] rest
  | 'f' => word (.bool false) ['a', 'l', 's', 'e'] rest
  | c =>
    if c = '-' ∨ c.isDigit then
      match scanNumber (c :: rest) with
      | .ok (text, rest) => (.number text.value?, rest)
      | .error fault => (.brokenScalar fault, [])
    else (.stray, [])
where
  word (token : Token) (letters rest : List Char) : Token × List Char :=
    match scanWord letters rest with
    | .ok rest => (token, rest)
    | .error fault => (.brokenScalar fault, [])

theorem length_word_le (token : Token) (letters rest : List Char) :
    (next.word token letters rest).2.length ≤ rest.length := by
  unfold next.word
  split
  · next h => exact length_scanWord_le h
  · exact Nat.zero_le _

theorem length_next_le (c : Char) (rest : List Char) : (next c rest).2.length ≤ rest.length := by
  unfold next
  split
  case h_7 => exact length_scanString_le rest
  case h_11 =>
    split
    · split
      · next h' => exact length_scanNumber_le h'
      · exact Nat.zero_le _
    · exact Nat.zero_le _
  all_goals first | exact Nat.le_refl _ | exact length_word_le ..

/-- The tokens of a text. -/
def scan : List Char → List Token
  | [] => []
  | c :: rest =>
    if isBlank c then scan rest
    else (next c rest).1 :: scan (next c rest).2
termination_by cs => cs.length
decreasing_by
  · exact Nat.lt_succ_self _
  · exact Nat.lt_succ_of_le (length_next_le c rest)

end Token

end Adventure.Json
