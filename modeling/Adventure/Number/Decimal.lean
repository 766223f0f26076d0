import Adventure.Number.Double

/-!
# From decimal digits to doubles

A decimal literal stands for `digits * 10 ^ exponent`.  There are two readings of it.

## Main definitions

* `Decimal.nearest`: the double nearest to the literal.
* `Decimal.stepwise`: a product or quotient of two doubles, the rounded digits and a rounded power
  of ten.  Each step rounds, so the last bit may differ from the nearest double; the result is
  `none` where it would be infinite.
-/

namespace Adventure.Decimal

/-- The double nearest to `digits * 10 ^ exponent`.  From `10 ^ 400` on it is infinite and below
`10 ^ -400` it is zero, whatever the digits are. -/
def nearest (negative : Bool) (digits : Nat) (exponent : Int) : Double :=
  let magnitude := exponent + ((Nat.toDigits 10 digits).length : Int)
  if digits = 0 ∨ magnitude < -400 then .ofCode negative 0
  else if 400 < magnitude then .infinity negative
  else if 0 ≤ exponent then .ofRatio negative (digits * Nat.pow 10 exponent.toNat) 1
  else .ofRatio negative digits (Nat.pow 10 (-exponent).toNat)

/-- The largest power of ten among the finite doubles is `10 ^ maxPower`. -/
def maxPower : Nat := 308

/-- The double nearest to a power of ten. -/
def power (n : Nat) : Double := .ofNat (Nat.pow 10 n)

/-- Scales a non-negative double by `10 ^ exponent`, in steps that stay within the powers of ten
that doubles can hold. -/
def scale (x : Double) (exponent : Int) : Option Double :=
  if exponent < -(maxPower : Int) then
    -- Every step rounds; a number that has become zero stays zero.
    if x.isZero then some x else scale (x.div (power maxPower)) (exponent + maxPower)
  else if exponent < 0 then some (x.div (power (-exponent).toNat))
  else if exponent ≤ maxPower then
    let y := x.mul (power exponent.toNat)
    if y.isFinite then some y else none
  else if x.isZero then some x
  else none
termination_by (-exponent).toNat
decreasing_by simp only [maxPower] at *; omega

/-- The double that `digits * 10 ^ exponent` gives when digits and power are rounded first. -/
def stepwise (negative : Bool) (digits : Nat) (exponent : Int) : Option Double :=
  (scale (.ofNat digits) exponent).map fun x => if negative then x.neg else x

end Adventure.Decimal
