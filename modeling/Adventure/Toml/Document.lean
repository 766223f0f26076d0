import Adventure.Toml.Tree

/-!
# Documents

A document is a list of lines.  A line gives a key its value or is the header of a section; the
lines before the first header belong to the whole document.

## Main definitions

* `Line`, `Scanner.line`: the lines.
* `Scanner.value`: a value; arrays and inline tables nest less than `depthLimit` deep.
* `Document.ofText?`: the entries of a text, if it is a document.
-/

namespace Adventure.Toml

/-- A line that holds something. -/
inductive Line where
  | pair (path : Path) (value : Value)
  | header (list : Bool) (path : Path)

/-- Arrays and inline tables nest less deep, and keys have fewer parts. -/
def depthLimit : Nat := 80

namespace Scanner

/-! ## Keys -/

/-- Whether a character may stand in a key without quotes. -/
def isKeyChar (c : Char) : Bool := c.isAlphanum || c == '-' || c == '_'

/-- A part of a key. -/
def keyPart : Scanner String := do
  blanks
  let part ←
    if ← accept '"' then basicText
    else if ← accept '\'' then literalText
    else
      let cs ← takeWhile isKeyChar
      guard (!cs.isEmpty)
      pure (String.ofList cs)
  blanks
  return part

/-- A key of parts with points between. -/
def path : Scanner Path := do
  let first ← keyPart
  let rest ← repeatUntil (do return (← peek) != some '.') do
    expect '.'
    keyPart
  guard (rest.length + 1 < depthLimit)
  return ⟨first, rest⟩

/-- A key and its value. -/
def pair (value : Scanner Value) : Scanner (Path × Value) := do
  let key ← path
  expect '='
  blanks
  return (key, ← value)

/-! ## Values -/

/-- The rest of an array behind its bracket. -/
def array (value : Scanner Value) : Scanner (List Value) := do
  gap
  let items ← repeatUntil (accept ']') do
    let item ← value
    gap
    if ← accept ',' then gap else guard ((← peek) = some ']')
    return item
  return items

/-- The rest of an inline table behind its brace. -/
def inlineTable (value : Scanner Value) : Scanner (List (String × Value)) := do
  blanks
  let pairs ← repeatUntil (accept '\x7d') do
    let entry ← pair value
    blanks
    if ← accept ',' then
      blanks
      guard ((← peek) ≠ some '\x7d')
    else guard ((← peek) = some '\x7d')
    return entry
  return Node.toEntries (← Entries.assignAll [] pairs)

/-- A value that holds no others. -/
def scalar : Scanner Value := do
  match ← peek with
  | some '"' | some '\'' => return .string (← text)
  | some 't' =>
    word ['t', 'r', 'u', 'e']
    return .bool true
  | some 'f' =>
    word ['f', 'a', 'l', 's', 'e']
    return .bool false
  | _ =>
    if Moment.starts (← get) then return .moment (← Moment.scan)
    else return .number (← numeral)

/-- A value in which arrays and inline tables nest at most so deep. -/
def value : Nat → Scanner Value
  | 0 => scalar
  | depth + 1 => do
    if ← accept '[' then return .array (← array (value depth))
    else if ← accept '\x7b' then return .table (← inlineTable (value depth))
    else scalar

/-! ## Lines -/

/-- The rest of a header behind its first bracket. -/
def header : Scanner Line := do
  let list ← accept '['
  let key ← path
  if list then expect ']'
  expect ']'
  return .header list key

/-- A line; an empty one and a comment hold nothing. -/
def line : Scanner (Option Line) := do
  blanks
  let content ←
    match ← peek with
    | none | some '#' | some '\n' | some '\r' => pure none
    | some _ =>
      if ← accept '[' then pure (some (← header))
      else
        let (path, value) ← pair (value (depthLimit - 1))
        pure (some (.pair path value))
  lineEnd
  return content

end Scanner

/-! ## Sections -/

/-- The lines below a header. -/
structure Section where
  list : Bool
  path : Path
  pairs : List (Path × Value)

/-- The pairs before the first header, and the sections. -/
def sections : List Line → List (Path × Value) × List Section
  | [] => ([], [])
  | .pair path value :: lines =>
    let (pairs, rest) := sections lines
    ((path, value) :: pairs, rest)
  | .header list path :: lines =>
    let (pairs, rest) := sections lines
    ([], ⟨list, path, pairs⟩ :: rest)

/-- Adds a section to the entries of a document. -/
def Entries.addSection (entries : Entries) (s : Section) : Option Entries :=
  Node.openTable s.list (·.assignAll s.pairs) s.path.first s.path.rest entries

/-- The entries of a document. -/
abbrev Document := List (String × Value)

namespace Document

/-- The document of a list of lines, if they do not contradict each other. -/
def ofLines? (lines : List Line) : Option Document := do
  let (pairs, rest) := sections lines
  let entries ← Entries.assignAll [] pairs
  return Node.toEntries (← rest.foldlM Entries.addSection entries)

/-- The document of a text; a byte order mark may stand in front. -/
def ofText? (text : String) : Option Document := do
  let cs :=
    match text.toList with
    | '\ufeff' :: cs => cs
    | cs => cs
  let (lines, _) ← Scanner.untilEnd Scanner.line cs
  ofLines? (lines.filterMap id)

/-- The value of a key. -/
def find? (key : String) : Document → Option Value
  | [] => none
  | (k, value) :: entries => if k = key then some value else find? key entries

end Document

end Adventure.Toml
