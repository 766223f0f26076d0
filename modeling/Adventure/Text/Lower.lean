import Adventure.Text.CaseTable
import Adventure.Text.Ranges

/-!
# Lower case

Every character is replaced by its lower-case form.  Two characters are special: the capital I with
a dot has a form of two characters, and the capital sigma has a form of its own at the end of a
word.

## Main definitions

* `lowerChar`: the lower-case form of a character, out of context.
* `endsWord`: the condition under which a sigma is final.
* `lower`: the lower-case form of a text.
-/

namespace Adventure.Text

/-- Whether a character has case. -/
def isCased (c : Char) : Bool := inRanges casedRanges c

/-- Whether case conditions look through a character. -/
def isIgnorable (c : Char) : Bool := inRanges ignorableRanges c

/-- Whether a run holds a code point. -/
def CaseRun.contains (r : CaseRun) (n : Nat) : Bool :=
  decide (r.first ≤ n) && decide (n ≤ r.last) && (n - r.first) % r.step == 0

/-- The lower-case form of a character, out of context. -/
def lowerChar (c : Char) : List Char :=
  if c.toNat = 0x130 then ['i', Char.ofNat 0x307]
  else
    match caseRuns.find? fun r => r.contains c.toNat with
    | some r => [Char.ofNat ((c.toNat : Int) + r.offset).toNat]
    | none => [c]

/-- Whether the first character that is not ignorable has case. -/
def startsCased (cs : List Char) : Bool :=
  match cs.dropWhile isIgnorable with
  | [] => false
  | c :: _ => isCased c

/-- Whether a sigma ends a word: a letter stands before it and none behind it.  The characters
before it are given from the nearest to the farthest. -/
def endsWord (before after : List Char) : Bool := startsCased before && !startsCased after

/-- The lower-case form of the characters behind `before`, which is given in reverse. -/
def lowerList (before : List Char) : List Char → List Char
  | [] => []
  | c :: after =>
    -- The capital sigma is the only character whose form depends on its neighbours.
    (if c.toNat = 0x3a3 then
      if endsWord before after then [Char.ofNat 0x3c2] else [Char.ofNat 0x3c3]
    else lowerChar c) ++ lowerList (c :: before) after

/-- The lower-case form of a text. -/
def lower (s : String) : String := .ofList (lowerList [] s.toList)

end Adventure.Text
