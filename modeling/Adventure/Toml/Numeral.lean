import Adventure.Number.Decimal
import Adventure.Toml.Moment

/-!
# Numbers

An integer is written in decimal, hexadecimal, octal or binary digits and fits 64 bits with a sign;
a number with a fraction or an exponent is a double, the nearest to what is written.  An underscore
may stand between two digits.

## Main definitions

* `Numeral`: an integer or a double.
* `Scanner.digits`: digits with underscores between them.
* `Scanner.numeral`: a number.
-/

namespace Adventure.Toml

open Text (digitsValue)

/-- A number of a document. -/
inductive Numeral where
  | int (value : Int64)
  | float (value : Double)

/-- An integer, if it fits 64 bits with a sign. -/
def Numeral.ofInt? (n : Int) : Option Numeral :=
  if Int64.minValue.toInt ≤ n ∧ n ≤ Int64.maxValue.toInt then some (.int (.ofInt n))
  else none

/-- The double nearest to a decimal number.  One that is too large is refused; one that is too small
is the negative infinity. -/
def Numeral.ofDecimal? (negative : Bool) (digits : Nat) (exponent : Int) : Option Numeral :=
  let x := Decimal.nearest negative digits exponent
  if x = .infinity false then none else some (.float x)

/-- Whether every underscore stands between two other characters that are none. -/
def isGrouped : List Char → Bool
  | [] => false
  | '_' :: _ => false
  | [_] => true
  | _ :: '_' :: rest => isGrouped rest
  | _ :: rest => isGrouped rest

namespace Scanner

/-- Digits with underscores between them; the underscores do not count. -/
def digits (p : Char → Bool) : Scanner (List Char) := do
  let ds ← takeWhile fun c => p c || c == '_'
  guard (isGrouped ds)
  return ds.filter (· != '_')

/-- The digits of a whole part: a lone zero, or digits that do not start with one. -/
def whole : Scanner (List Char) := do
  let ds ← digits Char.isDigit
  guard (ds.length = 1 ∨ ds.head? ≠ some '0')
  return ds

/-- Takes a sign, if one follows, and says whether it is negative. -/
def sign : Scanner Bool := fun
  | '+' :: rest => some (false, rest)
  | '-' :: rest => some (true, rest)
  | rest => some (false, rest)

/-- The power of ten of an exponent, if one follows. -/
def power : Scanner (Option Int) := do
  match ← peek with
  | some 'e' | some 'E' =>
    let _ ← oneOf fun _ => true
    let negative ← sign
    let n := digitsValue 10 (← digits Char.isDigit)
    return some (if negative then -(n : Int) else n)
  | _ => return none

/-- A decimal number behind its sign. -/
def decimal (negative : Bool) : Scanner Numeral := do
  let ds ← whole
  let places : Option (List Char) ← do
    if ← accept '.' then pure (some (← digits Char.isDigit)) else pure none
  let exponent ← power
  match places, exponent with
  | none, none =>
    let n : Int := digitsValue 10 ds
    Numeral.ofInt? (if negative then -n else n)
  | places, exponent =>
    let places := places.getD []
    Numeral.ofDecimal? negative (digitsValue 10 (ds ++ places)) (exponent.getD 0 - places.length)

/-- The digits of a base, behind a zero and the mark of the base. -/
def based (mark : Char) (base : Nat) : Scanner Numeral := do
  word ['0', mark]
  Numeral.ofInt? (digitsValue base (← digits (Text.isDigit base)))

/-- A number. -/
def numeral : Scanner Numeral := do
  match ← get with
  | '0' :: 'x' :: _ => based 'x' 16
  | '0' :: 'o' :: _ => based 'o' 8
  | '0' :: 'b' :: _ => based 'b' 2
  | _ =>
    let negative ← sign
    match ← peek with
    -- A sign may stand before the two words as well.
    | some 'i' =>
      word ['i', 'n', 'f']
      return .float (.infinity negative)
    | some 'n' =>
      word ['n', 'a', 'n']
      return .float .invalid
    | _ => decimal negative

end Scanner

end Adventure.Toml
