/-!
# Binary floating-point formats

A binary format is fixed by the bits of its significand and of its exponent.  The non-negative
numbers of a format are numbered in increasing order by their *codes*, the bit patterns without
the sign: code `0` is zero, the codes below `Format.infinity` are the finite numbers, and
rounding a ratio is choosing a code.

## Main definitions

* `roundHalfEven`: a quotient rounded to the nearest integer, a tie to the even one.
* `Format.round`: the code of the number nearest to a ratio, a tie to the even code; a ratio too
  large for the format gets the code of infinity.
* `Format.units`: the integer that a finite code stands for, in units of the least positive number.
-/

namespace Adventure

/-- `num / den` rounded to the nearest integer; a tie goes to the even neighbour. -/
def roundHalfEven (num den : Nat) : Nat :=
  let quotient := num / den
  let twice := 2 * (num % den)
  if twice < den then quotient
  else if den < twice then quotient + 1
  else if quotient % 2 = 0 then quotient
  else quotient + 1

/-- The largest integer `k` with `2 ^ k ≤ num / den`, for positive `num` and `den`. -/
def floorLog2 (num den : Nat) : Int :=
  let guess : Int := (num.log2 : Int) - (den.log2 : Int)
  let reached :=
    if 0 ≤ guess then decide (den <<< guess.toNat ≤ num)
    else decide (den ≤ num <<< (-guess).toNat)
  if reached then guess else guess - 1

/-- A binary floating-point format: the bits of the significand, the implicit one included, and
the bits of the exponent. -/
structure Format where
  precision : Nat
  exponentBits : Nat
  deriving DecidableEq

namespace Format

/-- The format with 53 bits of significand in 64 bits. -/
def binary64 : Format := ⟨53, 11⟩

/-- The format with 24 bits of significand in 32 bits. -/
def binary32 : Format := ⟨24, 8⟩

variable (f : Format)

/-- The number of codes that share one exponent. -/
def binade : Nat := 1 <<< (f.precision - 1)

/-- The code of infinity; larger codes are not numbers. -/
def infinity : Nat := (1 <<< f.exponentBits - 1) * f.binade

/-- The least positive number is `2 ^ (-f.scale)`. -/
def scale : Nat := 1 <<< (f.exponentBits - 1) + f.precision - 3

/-- How many binades above the lowest one a finite code lies. -/
def level (code : Nat) : Nat := code / f.binade - 1

/-- The integer significand of a finite code. -/
def significand (code : Nat) : Nat :=
  if code < f.binade then code else code % f.binade + f.binade

/-- A finite code stands for `f.units code` times the least positive number. -/
def units (code : Nat) : Nat := f.significand code <<< f.level code

/-- The code of the number of the format nearest to `num / den`, for a positive `den`. -/
def round (num den : Nat) : Nat :=
  if num = 0 then 0
  else
    -- The power of two of the last place, before it is clipped to that of the least number.
    let exponent := floorLog2 num den - ((f.precision : Int) - 1)
    let lift := (exponent + (f.scale : Int)).toNat
    let shifted :=
      if f.scale ≤ lift then roundHalfEven num (den <<< (lift - f.scale))
      else roundHalfEven (num <<< (f.scale - lift)) den
    -- A carry out of the significand is the next binade, which is where the code goes on.
    min (lift * f.binade + shifted) f.infinity

/-- The code of zero is the only one that stands for it. -/
theorem units_eq_zero_iff (code : Nat) : f.units code = 0 ↔ code = 0 := by
  have hbinade : 0 < f.binade := by
    rw [binade, Nat.shiftLeft_eq, Nat.one_mul]
    exact Nat.two_pow_pos _
  have hsignificand : f.significand code = 0 ↔ code = 0 := by
    unfold significand
    split <;> omega
  rw [← hsignificand, units, Nat.shiftLeft_eq, Nat.mul_eq_zero]
  exact or_iff_left (Nat.ne_of_gt (Nat.two_pow_pos _))

theorem units_zero : f.units 0 = 0 := (f.units_eq_zero_iff 0).2 rfl

theorem round_zero (den : Nat) : f.round 0 den = 0 := by simp [round]

theorem round_le_infinity (num den : Nat) : f.round num den ≤ f.infinity := by
  unfold round
  split
  · exact Nat.zero_le _
  · exact Nat.min_le_right _ _

end Format

end Adventure
