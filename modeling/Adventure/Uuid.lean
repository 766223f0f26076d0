import Adventure.Text.Digits

/-!
# Uuids

A uuid is a number of 128 bits.  It is written as 32 hexadecimal digits, in lower case and in
groups of 8, 4, 4, 4 and 12 with hyphens between.  It is read from the digits alone, from the
groups, from the groups in braces, or from the groups behind `urn:uuid:`; the digits and this mark
may be in either case.

## Main definitions

* `Uuid.text`: the written form.
* `Uuid.parse`: the uuid of a text, or why it is none.
-/

namespace Adventure

/-- A number of 128 bits. -/
structure Uuid where
  value : BitVec 128
  deriving DecidableEq

namespace Uuid

/-- The uuid of a number. -/
def ofNat (n : Nat) : Uuid := ⟨.ofNat 128 n⟩

/-- Why a text is no uuid. -/
inductive Refusal where
  /-- A character that no group has, at its position. -/
  | character (found : Char) (position : Nat)
  /-- A size in bytes: of a text longer than every notation, or of digits alone that are not 32. -/
  | length (found : Nat)
  | groupCount (found : Nat)
  | groupLength (group found : Nat)
  deriving DecidableEq

/-- The digits of each group. -/
def groupSizes : List Nat := [8, 4, 4, 4, 12]

/-- The wording of a refusal. -/
def Refusal.message : Refusal → String
  | character c position => s!"invalid character: found `{c}` at {position}"
  | length n => s!"invalid length: found {n}"
  | groupCount n => s!"invalid group count: expected 5, found {n}"
  | groupLength group n =>
    let expected := groupSizes.getD group 0
    s!"invalid group length in group {group}: expected {expected}, found {n}"

/-! ## Writing -/

/-- The last `count` hexadecimal digits of a number. -/
def digits : Nat → Nat → List Char
  | 0, _ => []
  | count + 1, n => digits count (n / 16) ++ [Nat.digitChar (n % 16)]

/-- Cuts digits into groups, with hyphens between. -/
def grouped : List Nat → List Char → List Char
  | [], ds => ds
  | [_], ds => ds
  | size :: sizes, ds => ds.take size ++ '-' :: grouped sizes (ds.drop size)

/-- The characters of a uuid. -/
def chars (u : Uuid) : List Char := grouped groupSizes (digits 32 u.value.toNat)

/-- The written form of a uuid. -/
def text (u : Uuid) : String := .ofList u.chars

/-! ## Reading -/

/-- The number that digits write behind the number `n`. -/
def number? (n : Nat) : List Char → Option Nat
  | [] => some n
  | c :: rest => do number? (n * 16 + (← Text.digitValue? c)) rest

/-- The digits of groups of the given sizes, if the text is such groups with hyphens between. -/
def ungroup? : List Nat → List Char → Option (List Char)
  | [], cs => if cs.isEmpty then some [] else none
  | [size], cs => if cs.length = size then some cs else none
  | size :: sizes, cs =>
    match cs.drop size with
    | '-' :: rest => (ungroup? sizes rest).map (cs.take size ++ ·)
    | _ => none

/-- The text within braces. -/
def braced? : List Char → Option (List Char)
  | '{' :: rest => if rest.getLast? = some '}' then some rest.dropLast else none
  | _ => none

/-- The mark of a name, in lower case. -/
def urn : List Char := ['u', 'r', 'n', ':', 'u', 'u', 'i', 'd', ':']

/-- The text behind the mark of a name. -/
def named? (cs : List Char) : Option (List Char) :=
  if (cs.take urn.length).map Char.toLower = urn then some (cs.drop urn.length) else none

/-- The size of a text in bytes. -/
def byteSize (cs : List Char) : Nat := (String.ofList cs).utf8ByteSize

/-- The part of a text that must be the groups, if the text has the size and the marks of a notation
with groups. -/
def framed? (cs : List Char) : Option (List Char) :=
  match byteSize cs with
  | 36 => some cs
  | 38 => braced? cs
  | 45 => named? cs
  | _ => none

/-- The digits of a uuid in one of its notations. -/
def digits? (cs : List Char) : Option (List Char) :=
  if byteSize cs = 32 then some cs else (framed? cs).bind (ungroup? groupSizes)

/-- The first character that is neither a digit nor a hyphen, with its position. -/
def strange? (position : Nat) : List Char → Option (Char × Nat)
  | [] => none
  | c :: rest =>
    if c = '-' ∨ Text.isDigit 16 c then strange? (position + 1) rest else some (c, position)

/-- The lengths of the groups between hyphens. -/
def groupLengths (current : Nat) : List Char → List Nat
  | [] => [current]
  | c :: rest =>
    if c = '-' then current :: groupLengths 0 rest else groupLengths (current + 1) rest

/-- The first of the groups, the last one aside, that has not its size. -/
def oddGroup? (group : Nat) : List Nat → List Nat → Option (Nat × Nat)
  | size :: size' :: sizes, n :: ns =>
    if n = size then oddGroup? (group + 1) (size' :: sizes) ns else some (group, n)
  | _, _ => none

/-- Why a text is no groups.  Positions count from `start`; a text without hyphens is taken for
digits alone if it is `bare`.  The last group is what a text of `total` bytes has behind the
others. -/
def groupRefusal (start total : Nat) (bare : Bool) (cs : List Char) : Refusal :=
  match strange? start cs with
  | some (c, position) => .character c position
  | none =>
    let lengths := groupLengths 0 cs
    if lengths.length = 1 ∧ bare then .length total
    else if lengths.length ≠ 5 then .groupCount lengths.length
    else
      match oddGroup? 0 groupSizes lengths with
      | some (group, n) => .groupLength group n
      | none => .groupLength 4 (total - 24)

/-- The size of the longest notation: the groups behind the mark of a name. -/
def maxSize : Nat := 45

/-- Why a text in no notation is no uuid. -/
def refusal (cs : List Char) : Refusal :=
  let total := byteSize cs
  -- A text that is too long is refused whatever it holds.
  if maxSize < total then .length total
  else
    match framed? cs with
    | some body => groupRefusal 0 (byteSize body) false body
    | none =>
      -- The marks are not part of the groups, but they count for positions and for the last group.
      match braced? cs, named? cs with
      | some body, _ => groupRefusal 1 total false body
      | none, some body => groupRefusal urn.length total false body
      | none, none => groupRefusal 0 total true cs

/-- The uuid of a list of characters. -/
def ofChars? (cs : List Char) : Option Uuid := do
  return ofNat (← number? 0 (← digits? cs))

/-- The uuid of a text, or why it is none. -/
def parse (s : String) : Except Refusal Uuid :=
  match ofChars? s.toList with
  | some u => .ok u
  | none => .error (refusal s.toList)

end Uuid

end Adventure
