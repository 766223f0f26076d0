import Adventure.Json.Value
import Adventure.Number.Shortest
import Adventure.Text.Quoted

/-!
# The compact text of a value

Values are written without blanks.  In a string only the quote, the backslash and the control
characters below the space are escaped.

## Main definitions

* `Json.escape`: how a string writes a character.
* `Json.compress`: the text of a value.
-/

namespace Adventure.Json

/-- How a string writes a character. -/
def escape (c : Char) : List Char :=
  if c = '"' then ['\\', '"']
  else if c = '\\' then ['\\', '\\']
  else if c = '\n' then ['\\', 'n']
  else if c = '\r' then ['\\', 'r']
  else if c = '\t' then ['\\', 't']
  else if c = '\x08' then ['\\', 'b']
  else if c = '\x0c' then ['\\', 'f']
  else if c.toNat < 0x20 then
    ['\\', 'u', '0', '0', Nat.digitChar (c.toNat / 16), Nat.digitChar (c.toNat % 16)]
  else [c]

/-- The text of a string. -/
def quoteString (s : String) : List Char := '"' :: s.toList.flatMap escape ++ ['"']

/-- The text of a number. -/
def Number.text : Number → List Char
  | .int n => (toString n).toList
  | .float x => (DecimalStyle.document.write x).toList

mutual

/-- The characters of a value. -/
def chars : Json → List Char
  | .null => ['n', 'u', 'l', 'l']
  | .bool true => ['t', 'r', 'u', 'e']
  | .bool false => ['f', 'a', 'l', 's', 'e']
  | .number n => n.text
  | .string s => quoteString s
  | .array [] => ['[', ']']
  | .array (item :: items) => '[' :: chars item ++ itemChars items
  | .object [] => ['{', '}']
  | .object ((key, value) :: members) =>
    '{' :: quoteString key ++ ':' :: chars value ++ memberChars members

/-- The characters of a list behind its first item. -/
def itemChars : List Json → List Char
  | [] => [']']
  | item :: items => ',' :: chars item ++ itemChars items

/-- The characters of an object behind its first member. -/
def memberChars : List (String × Json) → List Char
  | [] => ['}']
  | (key, value) :: members => ',' :: quoteString key ++ ':' :: chars value ++ memberChars members

end

/-- The text of a value. -/
def compress (value : Json) : String := .ofList value.chars

end Adventure.Json
