import Adventure.Text.Digits
import Adventure.Toml.Scanner

/-!
# Dates and times

A moment is a date, a time of day, or both, and with both there may be an offset from universal
time.

## Main definitions

* `Date`, `Clock`, `Offset`, `Moment`: the parts and the whole.
* `Moment.text`: the way a moment is written: a `T` before the time, no zeros behind the last digit
  of a fraction, and `Z` for universal time.
* `Moment.starts`, `Moment.scan`: the moment at the front of a text.
-/

namespace Adventure.Toml

open Text (digitsValue padded)

/-- A day of the calendar. -/
structure Date where
  year : Nat
  month : Nat
  day : Nat

/-- A time of day. -/
structure Clock where
  hour : Nat
  minute : Nat
  second : Nat
  nanosecond : Nat := 0

/-- How far a clock is from universal time. -/
inductive Offset where
  | universal
  | minutes (negative : Bool) (count : Nat)

/-- A date, a time, or both. -/
inductive Moment where
  | date (date : Date)
  | clock (clock : Clock)
  | both (date : Date) (clock : Clock) (offset : Option Offset)

/-! ## Writing -/

/-- The text of a date. -/
def Date.text (d : Date) : String :=
  s!"{padded 4 d.year}-{padded 2 d.month}-{padded 2 d.day}"

/-- The text of a time. -/
def Clock.text (t : Clock) : String :=
  let whole := s!"{padded 2 t.hour}:{padded 2 t.minute}:{padded 2 t.second}"
  if t.nanosecond = 0 then whole
  else
    let fraction := (padded 9 t.nanosecond).toList.reverse.dropWhile (· == '0')
    whole ++ "." ++ String.ofList fraction.reverse

/-- The text of an offset; no offset at all counts as positive. -/
def Offset.text : Offset → String
  | universal => "Z"
  | minutes negative count =>
    let sign := if negative && count != 0 then "-" else "+"
    s!"{sign}{padded 2 (count / 60)}:{padded 2 (count % 60)}"

/-- The text of a moment. -/
def Moment.text : Moment → String
  | date d => d.text
  | clock t => t.text
  | both d t offset => d.text ++ "T" ++ t.text ++ (offset.map Offset.text).getD ""

/-! ## Reading -/

namespace Scanner

/-- A number of exactly so many digits, within bounds. -/
def field (width least greatest : Nat) : Scanner Nat := do
  let ds ← (List.range width).mapM fun _ => oneOf Char.isDigit
  let n := digitsValue 10 ds
  guard (least ≤ n ∧ n ≤ greatest)
  return n

/-- The days of a month. -/
def daysIn (year month : Nat) : Nat :=
  if month = 2 then
    if year % 4 = 0 ∧ (year % 100 ≠ 0 ∨ year % 400 = 0) then 29 else 28
  else if month = 4 ∨ month = 6 ∨ month = 9 ∨ month = 11 then 30
  else 31

/-- A day of the calendar. -/
def date : Scanner Date := do
  let year ← field 4 0 9999
  expect '-'
  let month ← field 2 1 12
  expect '-'
  let day ← field 2 1 (daysIn year month)
  return ⟨year, month, day⟩

/-- The nanoseconds of a fraction, if one follows; digits behind the ninth do not count. -/
def fraction : Scanner Nat := do
  if ← accept '.' then
    let ds ← takeWhile Char.isDigit
    guard (!ds.isEmpty)
    -- Nine digits, filled up with zeros, are the nanoseconds.
    return digitsValue 10 ((ds ++ List.replicate 9 '0').take 9)
  else return 0

/-- A time of day; the last minute of a day may have a second more. -/
def clock : Scanner Clock := do
  let hour ← field 2 0 23
  expect ':'
  let minute ← field 2 0 59
  expect ':'
  let second ← field 2 0 60
  return ⟨hour, minute, second, ← fraction⟩

/-- The offset behind a time, if one follows. -/
def offset : Scanner (Option Offset) := do
  match ← peek with
  | some 'Z' | some 'z' =>
    let _ ← oneOf fun _ => true
    return some .universal
  | some '+' | some '-' =>
    let sign ← oneOf fun _ => true
    let hour ← field 2 0 23
    expect ':'
    let minute ← field 2 0 59
    return some (.minutes (sign == '-') (hour * 60 + minute))
  | _ => return none

/-- Takes what separates a date from its time, if a time follows: a letter, or a blank before a
digit. -/
def clockFollows : Scanner Bool := fun
  | 'T' :: rest | 't' :: rest => some (true, rest)
  | ' ' :: c :: rest => if c.isDigit then some (true, c :: rest) else some (false, ' ' :: c :: rest)
  | rest => some (false, rest)

end Scanner

namespace Moment

/-- Whether a text starts like a date. -/
def startsDate : List Char → Bool
  | a :: b :: c :: d :: '-' :: _ => a.isDigit && b.isDigit && c.isDigit && d.isDigit
  | _ => false

/-- Whether a text starts like a time. -/
def startsClock : List Char → Bool
  | a :: b :: ':' :: _ => a.isDigit && b.isDigit
  | _ => false

/-- Whether a text starts like a moment; no number does. -/
def starts (cs : List Char) : Bool := startsDate cs || startsClock cs

/-- The moment at the front of a text. -/
def scan : Scanner Moment := do
  if startsClock (← get) then return .clock (← Scanner.clock)
  let date ← Scanner.date
  if ← Scanner.clockFollows then
    let clock ← Scanner.clock
    return .both date clock (← Scanner.offset)
  else return .date date

end Moment

end Adventure.Toml
