/-!
# Scanners

A scanner takes a value off the front of a text and leaves the rest, or refuses the text.

## Main definitions

* `Scanner`: a function from a text to a value and the rest.
* `Scanner.accept`, `Scanner.expect`, `Scanner.word`, `Scanner.takeWhile`: single steps.
* `Scanner.repeatUntil`, `Scanner.untilEnd`: repetition.
* `Scanner.blanks`, `Scanner.lineBreak`, `Scanner.comment`, `Scanner.gap`: what stands between
  the parts of a document.
-/

namespace Adventure.Toml

/-- Takes a value off the front of a text. -/
abbrev Scanner := StateT (List Char) Option

namespace Scanner

variable {α : Type}

/-! ## Steps -/

/-- The next character, which stays where it is. -/
def peek : Scanner (Option Char) := do return (← get).head?

/-- Takes the next character if it is `c`. -/
def accept (c : Char) : Scanner Bool := fun
  | [] => some (false, [])
  | d :: rest => if d = c then some (true, rest) else some (false, d :: rest)

/-- Takes the character `c`; refuses any other. -/
def expect (c : Char) : Scanner Unit := do
  guard (← accept c)

/-- Takes the given characters. -/
def word : List Char → Scanner Unit
  | [] => return
  | c :: cs => do
    expect c
    word cs

/-- Takes one character of a class. -/
def oneOf (p : Char → Bool) : Scanner Char := fun
  | [] => none
  | c :: rest => if p c then some (c, rest) else none

/-- Takes characters of a class as long as there are any. -/
def takeWhile (p : Char → Bool) : Scanner (List Char) := fun cs =>
  some (cs.takeWhile p, cs.dropWhile p)

/-! ## Repetition -/

/-- Repeats `item`, at most as often as the bound says, until `stop` holds. -/
def repeatUntil.go (stop : Scanner Bool) (item : Scanner α) :
    Nat → List α → Scanner (List α)
  | 0, _, _ => none
  -- The end is looked for before an item, so that there may be none.
  | n + 1, before, cs =>
    match stop cs with
    | none => none
    | some (true, rest) => some (before.reverse, rest)
    | some (false, rest) =>
      match item rest with
      | none => none
      | some (a, rest) => go stop item n (a :: before) rest

/-- Repeats `item` until `stop` holds.  Every item takes a character, so that there are no more of
them than characters. -/
def repeatUntil (stop : Scanner Bool) (item : Scanner α) : Scanner (List α) := fun cs =>
  repeatUntil.go stop item (cs.length + 1) [] cs

/-- Repeats `item` until the text ends. -/
def untilEnd (item : Scanner α) : Scanner (List α) :=
  repeatUntil (do return (← get).isEmpty) item

/-! ## Between the parts of a document -/

/-- Whether a character is a blank within a line. -/
def isBlank (c : Char) : Bool := c == ' ' || c == '\t'

/-- Whether a character may stand in a comment: no control character but the tab. -/
def isPrintable (c : Char) : Bool := c == '\t' || (' ' ≤ c && c != '\x7f')

/-- Takes the blanks. -/
def blanks : Scanner Unit := do
  let _ ← takeWhile isBlank

/-- Takes a line break, if one follows. -/
def lineBreak : Scanner Bool := fun
  | '\n' :: rest => some (true, rest)
  | '\r' :: '\n' :: rest => some (true, rest)
  | rest => some (false, rest)

/-- Takes a comment without its line break, if one follows. -/
def comment : Scanner Unit := do
  if ← accept '#' then
    let _ ← takeWhile isPrintable

/-- Takes the end of a line: blanks, a comment, and a line break unless the text ends. -/
def lineEnd : Scanner Unit := do
  blanks
  comment
  unless ← lineBreak do
    guard (← get).isEmpty

/-- Takes blanks, comments and line breaks; a comment must end with a line break. -/
def gap : Scanner Unit := do
  blanks
  let more : Scanner Bool := do
    match ← peek with
    | some c => return c == '#' || c == '\n' || c == '\r'
    | none => return false
  let _ ← repeatUntil (do return !(← more)) do
    comment
    guard (← lineBreak)
    blanks

end Scanner

end Adventure.Toml
