import Adventure.Text.Digits
import Adventure.Toml.Scanner

/-!
# Strings

There are four ways to write a string.  A basic string stands between quotes and has escapes, a
literal string stands between apostrophes and has none; with three quotes or apostrophes on each
side a string may go over several lines.

## Main definitions

* `Scanner.escape`: the character of an escape.
* `Scanner.basicText`, `Scanner.literalText`: strings within a line.
* `Scanner.text`: any string.
-/

namespace Adventure.Toml.Scanner

/-- The character with a code point of so many hexadecimal digits. -/
def codePoint (width : Nat) : Scanner Char := do
  let ds ← (List.range width).mapM fun _ => oneOf (Text.isDigit 16)
  let n := Text.digitsValue 16 ds
  guard n.isValidChar
  return Char.ofNat n

/-- The character of an escape, behind its backslash. -/
def escape : Scanner Char := do
  match ← oneOf fun _ => true with
  | 'b' => return '\x08'
  | 't' => return '\t'
  | 'n' => return '\n'
  | 'f' => return '\x0c'
  | 'r' => return '\r'
  | '"' => return '"'
  | '\\' => return '\\'
  | 'u' => codePoint 4
  | 'U' => codePoint 8
  | _ => failure

/-- A character of a basic string. -/
def basicChar : Scanner Char := do
  if ← accept '\\' then escape else oneOf isPrintable

/-- A basic string within a line, behind its opening quote. -/
def basicText : Scanner String := do
  return String.ofList (← repeatUntil (accept '"') basicChar)

/-- A literal string within a line, behind its opening apostrophe. -/
def literalText : Scanner String := do
  return String.ofList (← repeatUntil (accept '\'') (oneOf isPrintable))

/-- Whether the text starts with three times the same character. -/
def startsTriple (c : Char) : List Char → Bool
  | x :: y :: z :: _ => x == c && y == c && z == c
  | _ => false

/-- A string over several lines, behind the three quotes that open it.  A line break right behind
them does not count, and two more quotes may stand right before the three that close it. -/
def multiline (quote : Char) (item : Scanner (List Char)) : Scanner String := do
  let _ ← lineBreak
  let body ← repeatUntil (do return startsTriple quote (← get)) item
  let closing ← takeWhile (· == quote)
  -- Three quotes close the string; at most two more belong to it.
  guard (closing.length ≤ 5)
  return String.ofList (body.flatten ++ closing.drop 3)

/-- Whether a backslash ends its line: only blanks follow. -/
def endsLine (cs : List Char) : Bool :=
  match cs.dropWhile isBlank with
  | '\n' :: _ => true
  | '\r' :: '\n' :: _ => true
  | _ => false

/-- Takes blanks and line breaks. -/
def openLines : Scanner Unit := do
  blanks
  let _ ← repeatUntil (do return !(endsLine (← get))) do
    let _ ← lineBreak
    blanks

/-- What a string over several lines adds: nothing for a backslash that ends its line, which also
removes the blanks and line breaks behind it. -/
def basicItem : Scanner (List Char) := do
  if ← lineBreak then return ['\n']
  if ← accept '\\' then
    if endsLine (← get) then
      openLines
      return []
    else return [← escape]
  return [← oneOf isPrintable]

/-- What a literal string over several lines adds. -/
def literalItem : Scanner (List Char) := do
  if ← lineBreak then return ['\n']
  return [← oneOf isPrintable]

/-- A string. -/
def text : Scanner String := do
  let opening ← get
  if startsTriple '"' opening then
    word ['"', '"', '"']
    multiline '"' basicItem
  else if startsTriple '\'' opening then
    word ['\'', '\'', '\'']
    multiline '\'' literalItem
  else if ← accept '"' then basicText
  else
    expect '\''
    literalText

end Adventure.Toml.Scanner
