import Adventure.Json.Malformed
import Adventure.Json.Value
import Adventure.Number.Decimal
import Adventure.Text.Digits

/-!
# Literals: the strings, numbers and words of a document

Each scanner takes the characters of its literal off the front of the text and returns the rest.

## Main definitions

* `Piece`, `joinPieces`: a string as it was written, and the text it stands for.  A code point above
  `U+FFFF` is written as two escapes, which must pair.
* `scanString`, `scanNumber`, `scanWord`: the scanners.
-/

namespace Adventure.Json

open Text (digitValue digitValue? digitsValue)

/-! ## Strings -/

/-- A part of a string as it was written: a character, the character of a short escape, or the
code unit of an escape with four digits. -/
inductive Piece where
  | plain (c : Char)
  | short (c : Char)
  | unit (n : Nat)
  deriving DecidableEq

/-- How the scan of a string ends. -/
inductive StringEnd where
  | closed
  | unterminated
  | control
  | badEscape
  | badDigits
  deriving DecidableEq

/-- The number that four hexadecimal digits write. -/
def fourDigits? (a b c d : Char) : Option Nat := do
  return ((← digitValue? a) * 16 + (← digitValue? b)) * 256 + (← digitValue? c) * 16 +
    (← digitValue? d)

/-- The character of a short escape. -/
def shortEscape? : Char → Option Char
  | '"' => some '"'
  | '\\' => some '\\'
  | '/' => some '/'
  | 'b' => some '\x08'
  | 'f' => some '\x0c'
  | 'n' => some '\n'
  | 'r' => some '\r'
  | 't' => some '\t'
  | _ => none

/-- Why four digits are missing: the text ends within the four bytes they would take, or some byte
is no digit. -/
def digitsEnd (rest : List Char) : StringEnd :=
  if (String.ofList rest).utf8ByteSize < 4 then .unterminated else .badDigits

/-- The parts of a string up to its closing quote. -/
def scanString : List Char → List Piece × StringEnd × List Char
  | [] => ([], .unterminated, [])
  | '"' :: rest => ([], .closed, rest)
  | '\\' :: 'u' :: a :: b :: c :: d :: rest =>
    match fourDigits? a b c d with
    | some n =>
      let (pieces, tail) := scanString rest
      (.unit n :: pieces, tail)
    | none => ([], digitsEnd (a :: b :: c :: d :: rest), [])
  | '\\' :: 'u' :: rest => ([], digitsEnd rest, [])
  | '\\' :: c :: rest =>
    match shortEscape? c with
    | some e =>
      let (pieces, tail) := scanString rest
      (.short e :: pieces, tail)
    | none => ([], .badEscape, [])
  | ['\\'] => ([], .unterminated, [])
  | c :: rest =>
    if c.toNat < 0x20 then ([], .control, [])
    else
      let (pieces, tail) := scanString rest
      (.plain c :: pieces, tail)

theorem length_scanString_le (cs : List Char) :
    (scanString cs).2.2.length ≤ cs.length := by
  fun_induction scanString cs <;> simp_all <;> omega

/-- Whether a code unit opens a pair. -/
def opensPair (n : Nat) : Bool := decide (0xd800 ≤ n) && decide (n ≤ 0xdbff)

/-- Whether a code unit closes a pair. -/
def closesPair (n : Nat) : Bool := decide (0xdc00 ≤ n) && decide (n ≤ 0xdfff)

/-- The code point of a pair of code units. -/
def pairValue (high low : Nat) : Nat := (high - 0xd800) * 0x400 + (low - 0xdc00) + 0x10000

/-- What reading says of a pair that breaks off where the scan ends. -/
def StringEnd.afterOpening : StringEnd → Malformed
  | .closed | .control | .badEscape => .unfinishedPair
  | .unterminated => .endInString
  | .badDigits => .badEscape

/-- What reading and skipping say of a string whose scan ends so. -/
def StringEnd.fault? : StringEnd → Option Malformed
  | .closed => none
  | .unterminated => some .endInString
  | .control => some .controlCharacter
  | .badEscape | .badDigits => some .badEscape

/-- The text of the parts of a string, or the first cause to refuse it. -/
def joinPieces (ending : StringEnd) : List Piece → Except Malformed (List Char)
  | [] =>
    match ending.fault? with
    | none => .ok []
    | some m => .error m
  | .plain c :: rest | .short c :: rest => (joinPieces ending rest).map (c :: ·)
  | .unit n :: rest =>
    if closesPair n then .error .loneSurrogate
    else if opensPair n then
      -- The unit that closes the pair must stand right behind.
      match rest with
      | [] => .error ending.afterOpening
      | .unit m :: rest' =>
        if closesPair m then (joinPieces ending rest').map (Char.ofNat (pairValue n m) :: ·)
        else .error .loneSurrogate
      | _ => .error .unfinishedPair
    else (joinPieces ending rest).map (Char.ofNat n :: ·)

/-! ## Numbers -/

/-- The digits at the front of a text, and the rest. -/
def spanDigits (cs : List Char) : List Char × List Char :=
  (cs.takeWhile Char.isDigit, cs.dropWhile Char.isDigit)

theorem length_spanDigits_le (cs : List Char) : (spanDigits cs).2.length ≤ cs.length :=
  (List.dropWhile_suffix _).length_le

/-- Reads digits behind the number `n` as long as it fits 64 bits; returns the number and the
digits that did not fit. -/
def accumulate (n : Nat) : List Char → Nat × List Char
  | [] => (n, [])
  | c :: rest =>
    if maxNat < n * 10 + digitValue c then (n, c :: rest)
    else accumulate (n * 10 + digitValue c) rest

/-- A number as it was written. -/
structure NumberText where
  negative : Bool
  whole : List Char
  fraction : Option (List Char)
  exponent : Option (Bool × List Char)

/-- The power of ten that an exponent writes. -/
def NumberText.power (t : NumberText) : Int :=
  match t.exponent with
  | none => 0
  | some (negative, ds) => if negative then -(digitsValue 10 ds : Int) else digitsValue 10 ds

/-- The number that a text stands for.  Digits alone are an integer if it fits 64 bits, with a sign
for a negative one.  Any other number is a double, made from as many leading digits as fit 64 bits;
it is out of range if it would be infinite. -/
def NumberText.value? (t : NumberText) : Option Number :=
  let (whole, rest) := accumulate 0 t.whole
  match t.fraction, t.exponent with
  | none, none =>
    if rest.isEmpty then
      if !t.negative then some (.int whole)
      else if 0 < whole ∧ Json.minInt ≤ -whole then some (.int (-whole))
      -- The negative zero is a double, and so is what lies below the integers.
      else some (.float (Double.ofNat whole).neg)
    else (Decimal.stepwise t.negative whole rest.length).map .float
  | fraction, _ =>
    let ds := fraction.getD []
    let (digits, left) := accumulate whole ds
    -- Digits of the whole part that did not fit raise the power of ten, and digits of the
    -- fraction that did fit lower it.
    let places := (rest.length : Int) - ((ds.length : Int) - left.length)
    (Decimal.stepwise t.negative digits (places + t.power)).map .float

/-- A number that breaks off: at the end of the text or at a character it cannot have. -/
def numberFault : List Char → Fault
  | [] => ⟨.endInValue, .badNumber⟩
  | _ => .both .badNumber

/-- The digits of the whole part: a lone zero, or digits that do not start with one. -/
def scanWhole : List Char → Except Fault (List Char × List Char)
  | '0' :: c :: rest =>
    if c.isDigit then .error (.both .badNumber) else .ok (['0'], c :: rest)
  | c :: rest =>
    if c.isDigit then .ok (spanDigits (c :: rest)) else .error (.both .badNumber)
  | [] => .error (numberFault [])

theorem length_scanWhole_lt {cs ds rest : List Char} (h : scanWhole cs = .ok (ds, rest)) :
    rest.length < cs.length := by
  unfold scanWhole at h
  split at h
  · split at h
    · cases h
    · cases h; simp
  · next c rest' _ =>
    split at h
    · next hd =>
      cases h
      simpa [spanDigits, List.dropWhile_cons, hd] using
        Nat.lt_succ_of_le (length_spanDigits_le rest')
    · cases h
  · cases h

/-- The digits behind a point, if one follows. -/
def scanFraction : List Char → Except Fault (Option (List Char) × List Char)
  | '.' :: rest =>
    match spanDigits rest with
    | ([], rest) => .error (numberFault rest)
    | (ds, rest) => .ok (some ds, rest)
  | rest => .ok (none, rest)

theorem length_scanFraction_le {cs rest : List Char} {ds : Option (List Char)}
    (h : scanFraction cs = .ok (ds, rest)) : rest.length ≤ cs.length := by
  unfold scanFraction at h
  split at h
  · next tail =>
    have := length_spanDigits_le tail
    split at h
    · cases h
    · next heq =>
      cases h
      rw [heq] at this
      exact Nat.le_succ_of_le this
  · cases h; exact Nat.le_refl _

/-- The sign of an exponent. -/
def scanSign : List Char → Bool × List Char
  | '+' :: rest => (false, rest)
  | '-' :: rest => (true, rest)
  | rest => (false, rest)

theorem length_scanSign_le (cs : List Char) : (scanSign cs).2.length ≤ cs.length := by
  unfold scanSign
  split <;> simp

/-- The sign and the digits of an exponent, if one follows. -/
def scanExponent : List Char → Except Fault (Option (Bool × List Char) × List Char)
  | c :: rest =>
    if c = 'e' ∨ c = 'E' then
      match spanDigits (scanSign rest).2 with
      | ([], behind) => .error (numberFault behind)
      | (ds, behind) => .ok (some ((scanSign rest).1, ds), behind)
    else .ok (none, c :: rest)
  | [] => .ok (none, [])

theorem length_scanExponent_le {cs rest : List Char} {e : Option (Bool × List Char)}
    (h : scanExponent cs = .ok (e, rest)) : rest.length ≤ cs.length := by
  unfold scanExponent at h
  split at h
  · next c tail =>
    split at h
    · have hs := length_scanSign_le tail
      have hd := length_spanDigits_le (scanSign tail).2
      split at h
      · cases h
      · next heq =>
        cases h
        rw [heq] at hd
        exact Nat.le_succ_of_le (Nat.le_trans hd hs)
    · cases h; exact Nat.le_refl _
  · cases h; exact Nat.le_refl _

/-- The sign of a number. -/
def scanMinus : List Char → Bool × List Char
  | '-' :: rest => (true, rest)
  | rest => (false, rest)

/-- The number at the front of a text. -/
def scanNumber (cs : List Char) : Except Fault (NumberText × List Char) := do
  let (negative, rest) := scanMinus cs
  let (whole, rest) ← scanWhole rest
  let (fraction, rest) ← scanFraction rest
  let (exponent, rest) ← scanExponent rest
  return (⟨negative, whole, fraction, exponent⟩, rest)

theorem length_scanNumber_le {c : Char} {cs rest : List Char} {t : NumberText}
    (h : scanNumber (c :: cs) = .ok (t, rest)) : rest.length ≤ cs.length := by
  have hm : (scanMinus (c :: cs)).2.length ≤ cs.length + 1 := by
    unfold scanMinus
    split
    · next heq => cases heq; simp
    · simp
  unfold scanNumber at h
  cases hw : scanWhole (scanMinus (c :: cs)).2 with
  | error e => simp [hw, bind, Except.bind] at h
  | ok w =>
    obtain ⟨ds, r₁⟩ := w
    have h₁ := length_scanWhole_lt hw
    cases hf : scanFraction r₁ with
    | error e => simp [hw, hf, bind, Except.bind] at h
    | ok f =>
      obtain ⟨fs, r₂⟩ := f
      have h₂ := length_scanFraction_le hf
      cases he : scanExponent r₂ with
      | error e => simp [hw, hf, he, bind, Except.bind] at h
      | ok e =>
        obtain ⟨es, r₃⟩ := e
        have h₃ := length_scanExponent_le he
        simp only [hw, hf, he, bind, Except.bind, pure, Except.pure] at h
        cases h
        omega

/-! ## Words -/

/-- The rest of a text behind the given characters. -/
def scanWord : List Char → List Char → Except Fault (List Char)
  | [], rest => .ok rest
  | _ :: _, [] => .error (.both .endInValue)
  | w :: word, c :: rest => if c = w then scanWord word rest else .error (.both .noIdent)

theorem length_scanWord_le {word cs rest : List Char} (h : scanWord word cs = .ok rest) :
    rest.length ≤ cs.length := by
  induction word generalizing cs with
  | nil => cases cs <;> cases h <;> simp
  | cons w word ih =>
    cases cs with
    | nil => cases h
    | cons c cs =>
      rw [scanWord] at h
      split at h
      · exact Nat.le_succ_of_le (ih h)
      · cases h

end Adventure.Json
