import Adventure.Number.Format

/-!
# Numbers in binary64 and binary32

`Double` is a binary64 datum given by its bits, `Single` a binary32 datum.  Every finite double is
an integer multiple of the least positive one, so the arithmetic is done exactly on those integers
(`Double.units`) and rounded once, to nearest with ties to even.

## Main definitions

* `Double.ofRatio`, `Double.ofInt`: the nearest double.
* `Double.add`, `Double.mul`, `Double.div`: correctly rounded arithmetic.
* `Double.equals`: equality of numbers; zeros are equal whatever their sign and a NaN differs from
  everything.
* `Single.ofInt`, `Single.ofDouble`: the nearest single.
-/

namespace Adventure

/-- A binary64 datum. -/
structure Double where
  bits : BitVec 64
  deriving DecidableEq

namespace Double

/-- The format of doubles. -/
abbrev format : Format := .binary64

/-- Whether the sign bit is set. -/
def negative (x : Double) : Bool := x.bits.msb

/-- The bits without the sign. -/
def code (x : Double) : Nat := x.bits.toNat % 0x8000000000000000

/-- The double of a sign and a code. -/
def ofCode (negative : Bool) (code : Nat) : Double :=
  ⟨.ofNat 64 ((if negative then 0x8000000000000000 else 0) + code)⟩

/-- The positive zero. -/
def zero : Double := ofCode false 0

/-- Infinity with the given sign. -/
def infinity (negative : Bool) : Double := ofCode negative format.infinity

/-- The result of an operation that has no value: the quiet NaN with its sign bit set. -/
def invalid : Double := ofCode true (format.infinity + format.binade / 2)

/-- Whether the datum is a number, infinities excluded. -/
def isFinite (x : Double) : Bool := decide (x.code < format.infinity)

/-- Whether the datum is not a number. -/
def isNaN (x : Double) : Bool := decide (format.infinity < x.code)

/-- Whether the datum is one of the two zeros. -/
def isZero (x : Double) : Bool := x.code == 0

/-- A finite double is `units` times the least positive double. -/
def units (x : Double) : Int :=
  if x.negative then -(format.units x.code : Int) else (format.units x.code : Int)

/-- The double nearest to `num / den` with the given sign. -/
def ofRatio (negative : Bool) (num den : Nat) : Double := ofCode negative (format.round num den)

/-- The double nearest to an integer. -/
def ofInt (n : Int) : Double := ofRatio (decide (n < 0)) n.natAbs 1

/-- The double nearest to a natural number. -/
def ofNat (n : Nat) : Double := ofRatio false n 1

/-- The denominator that turns `units` into a number. -/
def unit : Nat := 1 <<< format.scale

/-- The number with the opposite sign. -/
def neg (x : Double) : Double := ofCode (!x.negative) x.code

/-- The sum, correctly rounded.  A sum of opposite infinities is invalid; an exact zero is
positive unless both terms are negative zeros. -/
def add (x y : Double) : Double :=
  if x.isNaN then x
  else if y.isNaN then y
  else if x.isFinite && y.isFinite then
    -- The sum is exact in units, so that it is rounded once.
    let total := x.units + y.units
    if total = 0 then ofCode (x.negative && y.negative) 0
    else ofRatio (decide (total < 0)) total.natAbs unit
  else if x.isFinite then y
  else if y.isFinite then x
  else if x.negative = y.negative then x
  else invalid

/-- The product, correctly rounded.  Zero times infinity is invalid. -/
def mul (x y : Double) : Double :=
  let sign := x.negative != y.negative
  if x.isNaN then x
  else if y.isNaN then y
  else if x.isFinite && y.isFinite then
    ofRatio sign (x.units.natAbs * y.units.natAbs) (unit * unit)
  else if x.isZero || y.isZero then invalid
  else infinity sign

/-- The quotient, correctly rounded.  Zero by zero and infinity by infinity are invalid. -/
def div (x y : Double) : Double :=
  let sign := x.negative != y.negative
  if x.isNaN then x
  else if y.isNaN then y
  else if x.isFinite && y.isFinite then
    if y.isZero then if x.isZero then invalid else infinity sign
    else ofRatio sign x.units.natAbs y.units.natAbs
  else if x.isFinite then ofCode sign 0
  else if y.isFinite then infinity sign
  else invalid

/-- Equality of numbers. -/
def equals (x y : Double) : Bool :=
  !x.isNaN && !y.isNaN && (x == y || (x.isZero && y.isZero))

theorem equals_comm (x y : Double) : x.equals y = y.equals x := by
  unfold equals
  rw [Bool.beq_comm, Bool.and_comm (!x.isNaN), Bool.and_comm x.isZero]

theorem equals_self {x : Double} (h : x.isNaN = false) : x.equals x = true := by
  simp [equals, h]

end Double

/-- A binary32 datum. -/
structure Single where
  bits : BitVec 32
  deriving DecidableEq

namespace Single

/-- The format of singles. -/
abbrev format : Format := .binary32

/-- The single of a sign and a code. -/
def ofCode (negative : Bool) (code : Nat) : Single :=
  ⟨.ofNat 32 ((if negative then 0x80000000 else 0) + code)⟩

/-- The single nearest to an integer. -/
def ofInt (n : Int) : Single := ofCode (decide (n < 0)) (format.round n.natAbs 1)

/-- The single nearest to a double; a double too large for the format becomes infinite. -/
def ofDouble (x : Double) : Single :=
  if x.isFinite then ofCode x.negative (format.round x.units.natAbs Double.unit)
  else if x.isNaN then ofCode x.negative (format.infinity + format.binade / 2)
  else ofCode x.negative format.infinity

end Single

end Adventure
