import Adventure.Number.Double

/-!
# The shortest decimal of a double

The decimals that read back as a finite double form an interval around it, which contains its ends
iff the significand is even.  The shortest decimal is the point of the coarsest decimal grid that
meets the interval; of two points of that grid it is the one nearer to the double, and of two that
are equally near the one that a `Tie` says.

## Main definitions

* `Tie`: which of two equally near decimals counts.
* `Shortest.ofDouble`: digits and exponent of the shortest decimal.
* `DecimalStyle`: where a writer of decimals ends positional notation and how it writes the rest.
* `DecimalStyle.plain`, `DecimalStyle.document`: numbers in messages and numbers in JSON documents.
-/

namespace Adventure

/-- Which of two decimals counts for a double in the middle between them. -/
inductive Tie where
  /-- The one whose last digit is even. -/
  | toEven
  /-- The one farther from zero. -/
  | away
  deriving DecidableEq

/-- The point that counts for the middle between a point and the one above it. -/
def Tie.choose : Tie → Nat → Nat
  | toEven, below => if below % 2 = 0 then below else below + 1
  | away, below => below + 1

/-- The number `digits * 10 ^ exponent`. -/
structure Shortest where
  digits : Nat
  exponent : Int
  deriving DecidableEq

namespace Shortest

/-- The interval of numbers that round to a double, over a common denominator. -/
structure Interval where
  low : Nat
  value : Nat
  high : Nat
  denominator : Nat
  closed : Bool

/-- The numbers that round to the double with the given code.  Below a power of two the next double
is half as far away as above. -/
def Interval.ofCode (code : Nat) : Interval :=
  let f := Double.format
  let m := f.significand code
  let gap := 4 <<< f.level code
  let below := if m = f.binade ∧ f.binade < code then gap / 4 else gap / 2
  { low := m * gap - below, value := m * gap, high := m * gap + gap / 2
    denominator := 4 * Double.unit, closed := m % 2 == 0 }

/-- Whether `point / (i.denominator * scale)` lies in the interval. -/
def Interval.contains (i : Interval) (scale point : Nat) : Bool :=
  if i.closed then decide (i.low * scale ≤ point) && decide (point ≤ i.high * scale)
  else decide (i.low * scale < point) && decide (point < i.high * scale)

/-- The point of the grid of step `10 ^ exponent` that lies in the interval and nearest to its
value. -/
def Interval.onGrid (i : Interval) (tie : Tie) (exponent : Int) : Option Nat :=
  let scale := Nat.pow 10 (-exponent).toNat
  let step := i.denominator * Nat.pow 10 exponent.toNat
  let below := i.value * scale / step
  let above := below + 1
  match i.contains scale (below * step), i.contains scale (above * step) with
  | true, true =>
    -- Both neighbours read back, so that the nearer one counts.
    let twice := 2 * (i.value * scale - below * step)
    if twice < step then some below
    else if step < twice then some above
    else some (tie.choose below)
  | true, false => some below
  | false, true => some above
  | false, false => none

/-- The first grid that meets the interval, from the given one to finer ones. -/
def Interval.search (i : Interval) (tie : Tie) : Nat → Int → Option Shortest
  | 0, _ => none
  | fuel + 1, exponent =>
    match i.onGrid tie exponent with
    | some digits => some ⟨digits, exponent⟩
    | none => i.search tie fuel (exponent - 1)

/-- An exponent `k` such that `10 ^ k` exceeds a positive ratio. -/
def ceilLog10 (num den : Nat) : Int :=
  -- The decimal logarithm of two is about 30103 / 100000.
  (floorLog2 num den + 1) * 30103 / 100000 + 1

/-- The shortest decimal of a finite double, its sign aside.  Seventeen digits always suffice. -/
def ofDouble (tie : Tie) (x : Double) : Shortest :=
  if x.isZero then ⟨0, 0⟩
  else
    let i := Interval.ofCode x.code
    (i.search tie 20 (ceilLog10 i.value i.denominator)).getD ⟨0, 0⟩

end Shortest

/-! ## Written forms -/

/-- How decimals are written: which of two equally near ones counts, the exponents of the leading
digit that are written positionally, whether a whole number keeps one place, and whether a positive
exponent has its sign. -/
structure DecimalStyle where
  tie : Tie
  positional : Int → Bool
  wholePlace : Bool
  plusSign : Bool

namespace DecimalStyle

/-- Messages write every number positionally, and a whole one without places; a tie goes away from
zero. -/
def plain : DecimalStyle := ⟨.away, fun _ => true, false, false⟩

/-- Documents write numbers from `1e-5` up to `1e16` positionally, a whole one with one place, and
other numbers with a signed exponent; a tie goes to the even digit. -/
def document : DecimalStyle :=
  ⟨.toEven, fun k => decide (-5 ≤ k) && decide (k ≤ 15), true, true⟩

/-- The digits with a point `places` places from the right, for positional notation. -/
def positionalText (l : DecimalStyle) (digits : String) (exponent : Int) : String :=
  if 0 ≤ exponent then
    digits ++ "".pushn '0' exponent.toNat ++ (if l.wholePlace then ".0" else "")
  else
    let places := (-exponent).toNat
    if places < digits.length then
      let whole := digits.length - places
      (digits.take whole).toString ++ "." ++ (digits.drop whole).toString
    else "0." ++ "".pushn '0' (places - digits.length) ++ digits

/-- The first digit, the others behind a point, and the exponent. -/
def scientificText (l : DecimalStyle) (digits : String) (leading : Int) : String :=
  let fraction := (digits.drop 1).toString
  (digits.take 1).toString ++ (if fraction.isEmpty then "" else "." ++ fraction) ++ "e" ++
    (if 0 ≤ leading then if l.plusSign then "+" else "" else "-") ++ toString leading.natAbs

/-- The text of a finite double. -/
def write (l : DecimalStyle) (x : Double) : String :=
  let s := Shortest.ofDouble l.tie x
  let digits := toString s.digits
  let leading := s.exponent + (digits.length : Int) - 1
  (if x.negative then "-" else "") ++
    (if l.positional leading then l.positionalText digits s.exponent
    else l.scientificText digits leading)

end DecimalStyle

end Adventure
