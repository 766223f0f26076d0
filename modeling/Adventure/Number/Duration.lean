import Adventure.Number.Double

/-!
# Durations

Delays are given in milliseconds as doubles and kept as whole nanoseconds.

## Main definitions

* `Duration.ofSeconds?`: a double rounded to the nearest nanosecond, a tie to the even one; `none`
  for a negative number, an infinite one or a NaN, and from `2 ^ 64` seconds on.
* `Duration.ofMilliseconds?`: the same for milliseconds, divided by a thousand as a double first.
-/

namespace Adventure

/-- A span of time. -/
structure Duration where
  nanoseconds : Nat
  deriving DecidableEq

namespace Duration

/-- The nanoseconds of a second. -/
def perSecond : Nat := 1000000000

/-- The whole seconds. -/
def seconds (d : Duration) : Nat := d.nanoseconds / perSecond

/-- The nanoseconds beyond the whole seconds. -/
def subsecond (d : Duration) : Nat := d.nanoseconds % perSecond

/-- The duration of a number of seconds. -/
def ofSeconds? (x : Double) : Option Duration :=
  -- The bound is on the number of seconds, before it is rounded.
  if x.isFinite && decide (0 ≤ x.units) && decide (x.units < (Double.unit <<< 64 : Nat)) then
    some ⟨roundHalfEven (x.units.toNat * perSecond) Double.unit⟩
  else none

/-- The duration of a number of milliseconds. -/
def ofMilliseconds? (x : Double) : Option Duration := ofSeconds? (x.div (.ofNat 1000))

end Duration

end Adventure
