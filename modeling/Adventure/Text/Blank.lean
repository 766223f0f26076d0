import Adventure.Text.Ranges

/-!
# Blank characters and trimming

## Main definitions

* `isBlank`: the property `White_Space` of the Unicode character database.
* `trim`: a text without the blanks at its ends.
-/

namespace Adventure.Text

/-- The characters with the property `White_Space`. -/
def blankRanges : List (Nat × Nat) := [
  (0x9, 0xd), (0x20, 0x20), (0x85, 0x85), (0xa0, 0xa0), (0x1680, 0x1680), (0x2000, 0x200a),
  (0x2028, 0x2029), (0x202f, 0x202f), (0x205f, 0x205f), (0x3000, 0x3000)]

/-- Whether a character is blank. -/
def isBlank (c : Char) : Bool := inRanges blankRanges c

/-- The characters from the first one that is not blank. -/
def trimStart (cs : List Char) : List Char := cs.dropWhile isBlank

/-- The characters up to the last one that is not blank. -/
def trimEnd (cs : List Char) : List Char := (trimStart cs.reverse).reverse

/-- The text without the blanks at its ends. -/
def trim (s : String) : String := .ofList (trimEnd (trimStart s.toList))

end Adventure.Text
