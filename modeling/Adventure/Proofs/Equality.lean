import Adventure.Player
import Adventure.Proofs.Nearest

/-!
# Equality of values

A guard compares a variable with a value.  Values of different kinds are never equal, and numbers
are one kind: an integer is rounded to a double before it is compared with one.  So equality of
values is that of what they stand for, with one exception.  Beyond `2 ^ 53` there are integers that
no double holds, and such an integer is equal to the double nearest to it.  Two integers that are
rounded to one double are then both equal to it, but not to each other.

## Main definitions

* `Value.content?`, `Value.Same`: what a value stands for, and the values that stand for the same
* `Value.Rounds`: an integer that no double holds, and the double nearest to it

## Main results

* `Value.strictlyEquals_iff`: values are equal if they stand for the same, or one is rounded to the
  other
* `Value.equivalence_but_for_rounding`: equality is an equivalence, but for integers that are
  rounded
-/

namespace Adventure

/-- Infinite doubles are equal if they have the same sign. -/
theorem Double.equals_iff_of_infinite {x y : Double} (hx : x.isFinite = false)
    (hx' : x.isNaN = false) (hy : y.isFinite = false) (hy' : y.isNaN = false) :
    x.equals y = true ↔ x.negative = y.negative := by
  have hcode : ∀ {z : Double}, z.isFinite = false → z.isNaN = false → z.code = format.infinity := by
    intro z hfinite hnan
    simp only [isFinite, isNaN, decide_eq_false_iff_not, not_lt] at hfinite hnan
    exact Nat.le_antisymm hnan hfinite
  have hzero : x.isZero = false := by
    rw [isZero, hcode hx hx']
    decide
  simp only [equals, hx', hy', hzero, Bool.not_false, Bool.true_and, Bool.false_and, Bool.or_false,
    beq_iff_eq]
  exact ⟨fun h => congrArg negative h,
    fun h => eq_of_code h ((hcode hx hx').trans (hcode hy hy').symm)⟩

/-- Doubles that equal one double are equal. -/
theorem Double.equals_trans {x y z : Double} (h : x.equals y = true) (h' : y.equals z = true) :
    x.equals z = true := by
  simp only [equals, isZero, Bool.and_eq_true, Bool.or_eq_true, beq_iff_eq] at h h' ⊢
  grind

namespace Value

/-- What a value stands for. -/
inductive Content where
  | truth (value : Bool)
  | number (value : ℚ)
  | infinite (negative : Bool)
  | text (value : String)

/-- What a value stands for; a NaN stands for nothing. -/
def content? : Value → Option Content
  | bool b => some (.truth b)
  | int n => some (.number n.toInt)
  | float x =>
    if x.isFinite then some (.number x.number)
    else if x.isNaN then none
    else some (.infinite x.negative)
  | string s => some (.text s)

/-- Whether the value is a double that is not a number. -/
def isNaN : Value → Bool
  | float x => x.isNaN
  | bool _ | int _ | string _ => false

/-- Two values stand for the same. -/
def Same (a b : Value) : Prop := ∃ c, a.content? = some c ∧ b.content? = some c

/-- An integer that no double holds, and the double nearest to it. -/
def Rounds : Value → Value → Prop
  | int n, float x => ¬Double.Holds n.toInt ∧ x.Nearest n.toInt
  | _, _ => False

variable {a b c : Value} {m n : Int64} {x y : Double}

theorem Same.symm (h : a.Same b) : b.Same a := by
  obtain ⟨content, ha, hb⟩ := h
  exact ⟨content, hb, ha⟩

theorem same_comm : a.Same b ↔ b.Same a := ⟨Same.symm, Same.symm⟩

theorem Same.trans (h : a.Same b) (h' : b.Same c) : a.Same c := by
  obtain ⟨content, ha, hb⟩ := h
  obtain ⟨content', hb', hc⟩ := h'
  obtain rfl := Option.some.inj (hb.symm.trans hb')
  exact ⟨content, ha, hc⟩

/-! ## Numbers -/

theorem natAbs_toInt_le (n : Int64) : n.toInt.natAbs ≤ 2 ^ 63 := by
  have hlow := Int64.le_toInt n
  have hhigh := Int64.toInt_lt n
  omega

/-- An integer equals the doubles that are nearest to it. -/
theorem int_equals_float_iff :
    (int n).strictlyEquals (float x) = true ↔ x.Nearest n.toInt :=
  Double.equals_ofInt_iff (natAbs_toInt_le n)

theorem same_iff {content : Content} (h : a.content? = some content) :
    a.Same b ↔ b.content? = some content := by
  constructor
  · rintro ⟨content', ha, hb⟩
    rwa [Option.some.inj (h.symm.trans ha)]
  · exact fun hb => ⟨content, h, hb⟩

theorem content?_of_isFinite (h : x.isFinite = true) :
    (float x).content? = some (.number x.number) := if_pos h

theorem content?_of_isNaN (h : x.isNaN = true) : (float x).content? = none := by
  have hfinite : ¬x.isFinite = true := fun hfinite => by
    cases (Double.isNaN_of_isFinite hfinite).symm.trans h
  rw [content?, if_neg hfinite, if_pos h]

theorem content?_of_infinite (hfinite : x.isFinite = false) (hnan : x.isNaN = false) :
    (float x).content? = some (.infinite x.negative) := by
  rw [content?, hfinite, hnan]
  rfl

theorem same_int_float_iff :
    (int n).Same (float x) ↔ x.isFinite = true ∧ x.number = n.toInt := by
  rw [same_iff rfl]
  cases hfinite : x.isFinite with
  | true => simp [content?_of_isFinite hfinite]
  | false =>
    cases hnan : x.isNaN with
    | true => simp [content?_of_isNaN hnan]
    | false => simp [content?_of_infinite hfinite hnan]

/-- The double nearest to an integer is this integer, or no double holds the integer. -/
theorem nearest_iff : x.Nearest n.toInt ↔ (int n).Same (float x) ∨ (int n).Rounds (float x) := by
  rw [same_int_float_iff, Rounds]
  by_cases hholds : Double.Holds n.toInt
  · rw [hholds.nearest_iff, or_iff_left fun h => h.1 hholds]
  · rw [or_iff_right fun h => hholds ⟨x, h⟩, and_iff_right hholds]

/-- Doubles are equal if they stand for the same. -/
theorem float_equals_float_iff :
    (float x).strictlyEquals (float y) = true ↔ (float x).Same (float y) := by
  show x.equals y = true ↔ _
  cases hnan : x.isNaN with
  | true => simp [Double.equals, hnan, Same, content?_of_isNaN hnan]
  | false =>
  cases hnan' : y.isNaN with
  | true => simp [Double.equals, hnan', Same, content?_of_isNaN hnan']
  | false =>
  cases hfinite : x.isFinite with
  | true =>
    rw [same_iff (content?_of_isFinite hfinite)]
    cases hfinite' : y.isFinite with
    | true => simp [Double.equals_iff hfinite hfinite', content?_of_isFinite hfinite', eq_comm]
    | false =>
      rw [content?_of_infinite hfinite' hnan']
      refine iff_of_false (fun h => ?_) (fun h => by cases h)
      cases hfinite'.symm.trans (Double.isFinite_of_equals hfinite h)
  | false =>
    rw [same_iff (content?_of_infinite hfinite hnan)]
    cases hfinite' : y.isFinite with
    | true =>
      rw [content?_of_isFinite hfinite', Double.equals_comm]
      refine iff_of_false (fun h => ?_) (fun h => by cases h)
      cases hfinite.symm.trans (Double.isFinite_of_equals hfinite' h)
    | false =>
      simp [content?_of_infinite hfinite' hnan',
        Double.equals_iff_of_infinite hfinite hnan hfinite' hnan', eq_comm]

/-! ## All values -/

theorem same_int_int_iff : (int m).Same (int n) ↔ m = n := by
  rw [same_iff (show (int m).content? = some (.number m.toInt) from rfl)]
  simp only [content?, Option.some.injEq, Content.number.injEq, Int.cast_inj, Int64.toInt_inj]
  exact eq_comm

theorem same_bool_bool_iff {v w : Bool} : (bool v).Same (bool w) ↔ v = w := by
  rw [same_iff (show (bool v).content? = some (.truth v) from rfl)]
  simp only [content?, Option.some.injEq, Content.truth.injEq]
  exact eq_comm

theorem same_string_string_iff {v w : String} : (string v).Same (string w) ↔ v = w := by
  rw [same_iff (show (string v).content? = some (.text v) from rfl)]
  simp only [content?, Option.some.injEq, Content.text.injEq]
  exact eq_comm

/-- **Values are equal** if and only if they stand for the same, or one is an integer that no double
holds and the other one is the double nearest to it. -/
theorem strictlyEquals_iff (a b : Value) :
    a.strictlyEquals b = true ↔ a.Same b ∨ a.Rounds b ∨ b.Rounds a := by
  cases a <;> cases b
  case int.float n x =>
    rw [int_equals_float_iff, nearest_iff]
    simp only [Rounds, or_false]
  case float.int x n =>
    rw [strictlyEquals_comm, int_equals_float_iff, nearest_iff, same_comm]
    simp only [Rounds, false_or]
  case float.float x y => simp only [float_equals_float_iff, Rounds, or_false]
  case int.int m n => simp [same_int_int_iff, Rounds, strictlyEquals]
  case bool.bool v w => simp [same_bool_bool_iff, Rounds, strictlyEquals]
  case string.string v w => simp [same_string_string_iff, Rounds, strictlyEquals]
  -- Values of different kinds stand for different things.
  all_goals
    refine iff_of_false Bool.false_ne_true ?_
    rintro (⟨content, ha, hb⟩ | h | h)
    · simp only [content?] at ha hb
      grind
    · exact h
    · exact h

/-! ## Equivalence -/

/-- A value equals itself unless it is a NaN. -/
theorem strictlyEquals_self_iff : a.strictlyEquals a = true ↔ a.isNaN = false := by
  cases a with
  | float x => simp [strictlyEquals, Double.equals, isNaN]
  | bool | int | string => simp [strictlyEquals, isNaN]

/-- Equality is transitive, but for two different integers that equal one double. -/
theorem strictlyEquals_trans (h : a.strictlyEquals b = true) (h' : b.strictlyEquals c = true)
    (hint : ∀ m x n, a = int m → b = float x → c = int n → m = n) :
    a.strictlyEquals c = true := by
  cases a <;> cases b <;> cases c
  case int.float.int m x n =>
    rw [hint m x n rfl rfl rfl]
    simp [strictlyEquals]
  -- An integer beside doubles counts as the double that it is rounded to.
  case int.float.float | float.float.float => exact Double.equals_trans h h'
  case float.float.int x y n =>
    rw [strictlyEquals, Double.equals_comm] at h
    exact Double.equals_trans h' h
  case float.int.float x n y =>
    rw [strictlyEquals, Double.equals_comm] at h
    exact Double.equals_trans h h'
  -- All other values are compared exactly.
  all_goals simp_all [strictlyEquals]

/-! ## Guards -/

/-- **Equality is an equivalence, but for integers that are rounded.**  Every value but a NaN equals
itself, and equality is symmetric.  It is transitive but for two different integers that equal one
double.  An integer equals the doubles that are nearest to it; these are the doubles that stand for
the integer if and only if there is one, as for all integers up to `2 ^ 53`.  So a guard passes if
and only if the variable stands for the same as the value of the guard, or one of the two is an
integer that no double holds and the other one is rounded from it. -/
theorem equivalence_but_for_rounding (a b c : Value) :
    (a.strictlyEquals a = true ↔ a.isNaN = false) ∧
    a.strictlyEquals b = b.strictlyEquals a ∧
    (a.strictlyEquals b = true → b.strictlyEquals c = true →
      (a.strictlyEquals c = false ↔ ∃ m x n, a = int m ∧ b = float x ∧ c = int n ∧ m ≠ n)) ∧
    (∀ (n : Int64) (x : Double), (int n).strictlyEquals (float x) = true ↔ x.Nearest n.toInt) ∧
    (∀ n : Int64, Double.Holds n.toInt ↔ ∀ x : Double,
      (int n).strictlyEquals (float x) = true ↔ x.isFinite = true ∧ x.number = n.toInt) ∧
    (∀ n : Int64, n.toInt.natAbs ≤ 2 ^ 53 → Double.Holds n.toInt) ∧
    ∀ (p : Player) (name : String) (value : Value),
      (Guard.new (.variableIs name value)).evaluate p = .ok true ↔ ∃ stored,
        p.valueOf? name = some stored ∧
          (stored.Same value ∨ stored.Rounds value ∨ value.Rounds stored) := by
  refine ⟨strictlyEquals_self_iff, strictlyEquals_comm a b, fun h h' => ?_,
    fun n x => int_equals_float_iff, fun n => ?_, fun n => Double.holds_of_le, ?_⟩
  · constructor
    · intro hne
      by_contra hnone
      refine absurd (strictlyEquals_trans h h' fun m x n ha hb hc => ?_) (Bool.eq_false_iff.1 hne)
      by_contra hmn
      exact hnone ⟨m, x, n, ha, hb, hc, hmn⟩
    · rintro ⟨m, x, n, rfl, rfl, rfl, hmn⟩
      simpa [strictlyEquals] using hmn
  · constructor
    · intro hholds x
      rw [int_equals_float_iff, hholds.nearest_iff]
    · -- The double that the integer is rounded to equals it.
      intro hall
      have hround := Double.nearest_ofInt (natAbs_toInt_le n)
      exact ⟨_, (hall _).1 (int_equals_float_iff.2 hround)⟩
  · intro p name value
    rw [Guard.new, Guard.evaluate, Condition.evaluate]
    cases p.valueOf? name with
    | none => simp [Except.map]
    | some stored => simp [Except.map, ← strictlyEquals_iff]

/-- A heap with one grain more than doubles can count passes for the heap without it. -/
theorem equivalence_but_for_rounding_heap :
    ∃ p : Player, p.valueOf? "grains" = some (.int 9007199254740993) ∧
      (Guard.new (.variableIs "grains" (.float (.ofNat 9007199254740992)))).evaluate p =
        .ok true ∧
      ¬Double.Holds 9007199254740993 := by
  have hequal : (int 9007199254740993).strictlyEquals (float (.ofNat 9007199254740992)) = true := by
    decide +kernel
  have hlaws := equivalence_but_for_rounding (int 9007199254740993)
    (float (.ofNat 9007199254740992)) (int 9007199254740992)
  refine ⟨{ sessionId := .ofNat 0, values := .ofList [("grains", .int 9007199254740993)] }, rfl,
    congrArg Except.ok hequal, fun hholds => ?_⟩
  have hexact := ((hlaws.2.2.2.2.1 9007199254740993).1 hholds _).1 hequal
  have hnumber : (Double.ofNat 9007199254740992).number = 9007199254740992 := by decide +kernel
  rw [hnumber] at hexact
  exact absurd hexact.2 (by decide)

/-- Two integers beyond `2 ^ 53` equal one double, but not each other. -/
theorem not_forall_strictlyEquals_trans :
    ¬∀ a b c : Value, a.isNaN = false → b.isNaN = false → c.isNaN = false →
      a.strictlyEquals b = true → b.strictlyEquals c = true → a.strictlyEquals c = true := by
  intro hall
  have h := hall (.int 9007199254740993) (.float (.ofNat 9007199254740992)) (.int 9007199254740992)
    rfl (by decide +kernel) rfl (by decide +kernel) (by decide +kernel)
  cases h

end Value

end Adventure
