/-!
# Sets of characters by ranges of code points

## Main definitions

* `inRanges`: membership in a list of ranges.
-/

namespace Adventure.Text

/-- Whether a character lies in one of the ranges, both ends included. -/
def inRanges (ranges : List (Nat × Nat)) (c : Char) : Bool :=
  ranges.any fun r => decide (r.1 ≤ c.toNat) && decide (c.toNat ≤ r.2)

theorem inRanges_append (r s : List (Nat × Nat)) (c : Char) :
    inRanges (r ++ s) c = (inRanges r c || inRanges s c) := by
  simp [inRanges]

end Adventure.Text
