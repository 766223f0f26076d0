/-!
# Digits

The digits of numbers in bases up to sixteen; the letters of either case stand for ten to fifteen.

## Main definitions

* `digitValue?`, `isDigit`: the value of a digit, and the digits of a base.
* `digitsValue`: the number that digits write.
* `padded`: a number with a least count of digits.
-/

namespace Adventure.Text

/-- The value of a digit. -/
def digitValue? (c : Char) : Option Nat :=
  if '0' ≤ c ∧ c ≤ '9' then some (c.toNat - '0'.toNat)
  else if 'a' ≤ c ∧ c ≤ 'f' then some (c.toNat - 'a'.toNat + 10)
  else if 'A' ≤ c ∧ c ≤ 'F' then some (c.toNat - 'A'.toNat + 10)
  else none

/-- Whether a character is a digit of a base. -/
def isDigit (base : Nat) (c : Char) : Bool :=
  match digitValue? c with
  | some d => d < base
  | none => false

/-- The value of a digit; other characters count as zeros. -/
def digitValue (c : Char) : Nat := (digitValue? c).getD 0

/-- A digit has the value that it is written for. -/
theorem digitValue?_digitChar : ∀ d < 16, digitValue? (Nat.digitChar d) = some d := by
  decide

/-- The number that digits write in a base. -/
def digitsValue (base : Nat) (ds : List Char) : Nat :=
  ds.foldl (fun n c => n * base + digitValue c) 0

@[simp] theorem digitsValue_nil (base : Nat) : digitsValue base [] = 0 := rfl

@[simp] theorem digitsValue_concat (base : Nat) (ds : List Char) (c : Char) :
    digitsValue base (ds ++ [c]) = digitsValue base ds * base + digitValue c := by
  simp [digitsValue]

/-- A number in decimal digits, with zeros in front up to the given count. -/
def padded (count n : Nat) : String :=
  let ds := Nat.toDigits 10 n
  .ofList (List.replicate (count - ds.length) '0' ++ ds)

end Adventure.Text
