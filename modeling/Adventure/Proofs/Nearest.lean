import Adventure.Number.Double
import Adventure.Proofs.Rounding

/-!
# Rounding gives the nearest number

The number that a ratio is rounded to is the nearest one of the format, and of two that are equally
near it is the one with the even code.  This determines the code, and for doubles the number.

## Main definitions

* `Format.Nearest`: a code is the nearest one to a number of units, ties to even
* `Double.number`, `Double.Nearest`: the number that a double stands for, and the doubles nearest to
  a number
* `Double.Holds`: an integer is the number of some double

## Main results

* `roundHalfEven_nearest`: rounding to an integer gives the nearest one
* `Format.nearest_round`, `Format.Nearest.unique`: rounding to a format gives the nearest code, and
  there is only one
* `Double.nearest_ofInt`, `Double.Nearest.equals`: so it is with integers and doubles
* `Double.holds_of_le`: doubles hold the integers up to `2 ^ 53`
-/

namespace Adventure

/-! ## Integers -/

section Integers

variable {num den : Nat}

/-- A ratio is at most a half away from what it is rounded to, and only a tie is that far. -/
theorem abs_roundHalfEven_sub (num : Nat) (hden : 0 < den) :
    |(roundHalfEven num den : ℚ) - num / den| ≤ 1 / 2 ∧
      (|(roundHalfEven num den : ℚ) - num / den| = 1 / 2 → roundHalfEven num den % 2 = 0) := by
  have hpos : (0 : ℚ) < den := Nat.cast_pos.2 hden
  have hsplit : (num / den : ℚ) = (num / den : Nat) + (num % den : Nat) / den := by
    rw [eq_comm, add_div' _ _ _ hpos.ne']
    congr 1
    exact_mod_cast Nat.div_add_mod' num den
  have hrest : 0 ≤ ((num % den : Nat) : ℚ) / den ∧ ((num % den : Nat) : ℚ) / den < 1 := by
    refine ⟨by positivity, ?_⟩
    rw [div_lt_one hpos]
    exact_mod_cast Nat.mod_lt num hden
  have hbelow : ((num % den : Nat) : ℚ) / den < 1 / 2 ↔ 2 * (num % den) < den := by
    rw [div_lt_div_iff₀ hpos two_pos, one_mul, mul_comm]
    exact_mod_cast Iff.rfl
  have habove : 1 / 2 < ((num % den : Nat) : ℚ) / den ↔ den < 2 * (num % den) := by
    rw [div_lt_div_iff₀ two_pos hpos, one_mul, mul_comm (_ : ℚ) 2]
    exact_mod_cast Iff.rfl
  rw [hsplit]
  unfold roundHalfEven
  dsimp only
  split_ifs with hlow hhigh heven
  · rw [← hbelow] at hlow
    rw [sub_add_cancel_left, abs_neg, abs_of_nonneg hrest.1]
    exact ⟨hlow.le, fun h => absurd h hlow.ne⟩
  · rw [← habove] at hhigh
    have hdistance : |((num / den + 1 : Nat) : ℚ) -
        ((num / den : Nat) + (num % den : Nat) / den)| = 1 - (num % den : Nat) / den := by
      rw [Nat.cast_succ, add_sub_add_left_eq_sub, abs_of_pos (by linarith)]
    rw [hdistance]
    exact ⟨by linarith, fun h => by linarith⟩
  · rw [sub_add_cancel_left, abs_neg, abs_of_nonneg hrest.1]
    exact ⟨not_lt.1 (habove.not.2 hhigh), fun _ => heven⟩
  · have hdistance : |((num / den + 1 : Nat) : ℚ) -
        ((num / den : Nat) + (num % den : Nat) / den)| = 1 - (num % den : Nat) / den := by
      rw [Nat.cast_succ, add_sub_add_left_eq_sub, abs_of_pos (by linarith)]
    have htie := not_lt.1 (hbelow.not.2 hlow)
    rw [hdistance]
    exact ⟨by linarith, fun _ => by omega⟩

/-- **Rounding to an integer gives the nearest one**, and of two the even one. -/
theorem roundHalfEven_nearest (num : Nat) (hden : 0 < den) (k : Nat) :
    |(roundHalfEven num den : ℚ) - num / den| ≤ |(k : ℚ) - num / den| ∧
      (|(k : ℚ) - num / den| = |(roundHalfEven num den : ℚ) - num / den| →
        k = roundHalfEven num den ∨ roundHalfEven num den % 2 = 0) := by
  obtain ⟨hhalf, htie⟩ := abs_roundHalfEven_sub num hden
  generalize roundHalfEven num den = r at hhalf htie ⊢
  generalize (num / den : ℚ) = ratio at hhalf htie ⊢
  by_cases hk : k = r
  · exact ⟨by rw [hk], fun _ => .inl hk⟩
  · -- Two integers are at least one apart.
    have hapart : 1 ≤ |(k : ℚ) - r| := by
      have hint : (1 : ℤ) ≤ |(k : ℤ) - r| := Int.one_le_abs (by omega)
      rw [show (k : ℚ) - r = ((((k : ℤ) - r : ℤ)) : ℚ) by push_cast; ring]
      exact_mod_cast hint
    have htriangle : |(k : ℚ) - r| ≤ |(k : ℚ) - ratio| + |(r : ℚ) - ratio| := by
      rw [abs_sub_comm (r : ℚ)]
      exact abs_sub_le _ _ _
    refine ⟨by linarith, fun heq => .inr (htie ?_)⟩
    linarith

end Integers

/-! ## Formats -/

namespace Format

/-- A finite code stands for the number of units nearest to `v`, and if another one is equally near,
the code is even. -/
structure Nearest (f : Format) (v : ℚ) (code : Nat) : Prop where
  finite : code < f.infinity
  closest : ∀ c < f.infinity, |(f.units code : ℚ) - v| ≤ |(f.units c : ℚ) - v|
  even : ∀ c < f.infinity, |(f.units c : ℚ) - v| = |(f.units code : ℚ) - v| →
    c = code ∨ code % 2 = 0

variable {f : Format} {num den : Nat} {v : ℚ} {c c' : Nat}

/-- Between two nearest codes there is no other one. -/
theorem Nearest.le_succ (h : f.Nearest v c) (h' : f.Nearest v c') : c' ≤ c + 1 := by
  by_contra hfar
  have hfirst : (f.units c : ℚ) < f.units (c + 1) := by exact_mod_cast f.units_lt_succ c
  have hlast : (f.units (c + 1) : ℚ) < f.units c' := by
    exact_mod_cast f.units_strictMono (not_le.1 hfar)
  -- Whatever is between the two would be nearer.
  have hmiddle := h.closest (c + 1) ((not_le.1 hfar).trans h'.finite)
  have hmiddle' := h'.closest (c + 1) ((not_le.1 hfar).trans h'.finite)
  rcases abs_cases ((f.units c : ℚ) - v) with ⟨h₁, h₁'⟩ | ⟨h₁, h₁'⟩ <;>
  rcases abs_cases ((f.units (c + 1) : ℚ) - v) with ⟨h₂, h₂'⟩ | ⟨h₂, h₂'⟩ <;>
  rcases abs_cases ((f.units c' : ℚ) - v) with ⟨h₃, h₃'⟩ | ⟨h₃, h₃'⟩ <;>
  linarith

/-- **There is one nearest code.** -/
theorem Nearest.unique (h : f.Nearest v c) (h' : f.Nearest v c') : c = c' := by
  have hdistance : |(f.units c : ℚ) - v| = |(f.units c' : ℚ) - v| :=
    le_antisymm (h.closest c' h'.finite) (h'.closest c h.finite)
  have heven := h.even c' h'.finite hdistance.symm
  have heven' := h'.even c h.finite hdistance
  have hle := h.le_succ h'
  have hle' := h'.le_succ h
  omega

/-- What the code of a rounded ratio stands for. -/
theorem units_lift (level : Nat) {place : Nat} (hplace : place ≤ 2 * f.binade)
    (hbits : level = 0 ∨ f.binade ≤ place) :
    f.units (level * f.binade + place) = place * 2 ^ level := by
  have hpos := f.binade_pos
  rcases Nat.lt_or_ge place f.binade with hlow | hhigh
  · obtain rfl : level = 0 := hbits.resolve_right (Nat.not_le_of_lt hlow)
    rw [f.units_eq 0 place rfl hlow, if_pos rfl, Nat.pow_zero, Nat.mul_one]
  · rcases Nat.eq_or_lt_of_le hplace with rfl | hlt
    · -- A carry leads to the first place of the binade after the next one.
      rw [f.units_eq (level + 2) 0 (by ring) hpos, if_neg (by omega), Nat.zero_add,
        Nat.shiftLeft_eq, show level + 2 - 1 = level + 1 from rfl, Nat.pow_succ]
      ring
    · obtain ⟨rest, rfl⟩ := Nat.exists_eq_add_of_le hhigh
      rw [f.units_eq (level + 1) rest (by ring) (by omega), if_neg (by omega),
        Nat.shiftLeft_eq, show level + 1 - 1 = level from rfl, Nat.add_comm rest]

/-- A code stands for an integer in the units of a binade, or lies below this binade. -/
theorem units_cases (level c : Nat) :
    (∃ k, f.units c = k * 2 ^ level) ∨ 0 < level ∧ f.units c < f.binade * 2 ^ level := by
  rcases Nat.eq_zero_or_pos level with rfl | hlevel
  · exact .inl ⟨f.units c, by rw [Nat.pow_zero, Nat.mul_one]⟩
  rcases Nat.lt_or_ge c ((level + 1) * f.binade) with hlow | hhigh
  · refine .inr ⟨hlevel, (f.units_strictMono hlow).trans_eq ?_⟩
    rw [Nat.succ_mul]
    exact f.units_lift level (by omega) (.inr le_rfl)
  · have hplace := Nat.mod_lt c f.binade_pos
    have hcode := Nat.div_add_mod' c f.binade
    have hdiv : level + 1 ≤ c / f.binade := (Nat.le_div_iff_mul_le f.binade_pos).2 hhigh
    obtain ⟨more, hmore⟩ := Nat.exists_eq_add_of_le hdiv
    refine .inl ⟨(c % f.binade + f.binade) * 2 ^ more, ?_⟩
    rw [f.units_eq _ _ hcode.symm hplace, if_neg (by omega), hmore, Nat.shiftLeft_eq,
      Nat.mul_assoc, ← Nat.pow_add]
    congr 2
    omega

/-- A binade has an even number of codes. -/
theorem binade_mod_two (hf : 1 < f.precision) : f.binade % 2 = 0 := by
  obtain ⟨k, hk⟩ := Nat.exists_eq_add_of_lt hf
  rw [binade, hk, Nat.shiftLeft_eq, Nat.one_mul, show 1 + k + 1 - 1 = k + 1 by omega, Nat.pow_succ]
  exact Nat.mul_mod_left _ _

/-- A ratio is rounded to an integer in the units of its binade. -/
theorem exists_round (hf : 0 < f.precision) (hnum : 0 < num) (hden : 0 < den)
    (hfinite : f.round num den < f.infinity) :
    ∃ level a b : Nat, 0 < b ∧ (num / den * 2 ^ f.scale : ℚ) = a / b * 2 ^ level ∧
      f.round num den = level * f.binade + roundHalfEven a b ∧
      f.units (f.round num den) = roundHalfEven a b * 2 ^ level ∧
      (0 < level → (f.binade : ℚ) ≤ a / b) := by
  have hround : f.round num den = f.lift num den * f.binade + f.shifted num den := by
    rw [round_eq f hnum] at hfinite ⊢
    exact min_eq_left (by omega)
  obtain ⟨a, b, hb, hshifted, hratio⟩ := f.exists_shifted num hden
  refine ⟨f.lift num den, a, b, hb, ?_, by rw [hround, hshifted], ?_, fun hlift => ?_⟩
  · rw [hratio, mul_assoc, ← zpow_natCast, ← zpow_natCast, ← zpow_add₀ two_ne_zero]
    congr 2
    ring
  · rw [hround, f.units_lift _ (shifted_le hf hnum hden)
      ((Nat.eq_zero_or_pos _).imp_right (le_shifted hf hnum hden)), hshifted]
  · rw [hratio]
    exact binade_le_scaled hf hnum hden hlift

/-- A distance in the units of a binade. -/
theorem abs_sub_grid (k level : Nat) (ratio : ℚ) :
    |((k * 2 ^ level : Nat) : ℚ) - ratio * 2 ^ level| = |(k : ℚ) - ratio| * 2 ^ level := by
  have hpower : (0 : ℚ) < 2 ^ level := by positivity
  rw [Nat.cast_mul, Nat.cast_pow, Nat.cast_ofNat, ← sub_mul, abs_mul, abs_of_pos hpower]

/-- **Rounding gives the nearest code**, unless the ratio is too large for the format. -/
theorem nearest_round (hf : 1 < f.precision) (hden : 0 < den)
    (hfinite : f.round num den < f.infinity) :
    f.Nearest (num / den * 2 ^ f.scale) (f.round num den) := by
  rcases Nat.eq_zero_or_pos num with rfl | hnum
  · rw [round_zero] at hfinite ⊢
    refine ⟨hfinite, fun c _ => ?_, fun c _ _ => .inr rfl⟩
    rw [units_zero]
    simp
  obtain ⟨level, a, b, hb, hv, hround, hunits, hbase⟩ :=
    exists_round (Nat.zero_lt_of_lt hf) hnum hden hfinite
  have hpower : (0 : ℚ) < 2 ^ level := by positivity
  rw [hv]
  -- What lies below the binade is further away than the first number of the binade.
  have hbelow : ∀ c, 0 < level → f.units c < f.binade * 2 ^ level →
      |(f.units (f.round num den) : ℚ) - a / b * 2 ^ level| <
        |(f.units c : ℚ) - a / b * 2 ^ level| := by
    intro c hlevel hlow
    have hfirst := (roundHalfEven_nearest a hb f.binade).1
    have hlow' : (f.units c : ℚ) < f.binade * 2 ^ level := by exact_mod_cast hlow
    rw [hunits, abs_sub_grid]
    calc |(roundHalfEven a b : ℚ) - a / b| * 2 ^ level
        ≤ |(f.binade : ℚ) - a / b| * 2 ^ level := by gcongr
      _ = a / b * 2 ^ level - f.binade * 2 ^ level := by
        rw [abs_sub_comm, abs_of_nonneg (sub_nonneg.2 (hbase hlevel)), sub_mul]
      _ < a / b * 2 ^ level - f.units c := by linarith
      _ ≤ |(f.units c : ℚ) - a / b * 2 ^ level| := by
        rw [abs_sub_comm]
        exact le_abs_self _
  refine ⟨hfinite, fun c _ => ?_, fun c _ heq => ?_⟩
  · rcases f.units_cases level c with ⟨k, hk⟩ | ⟨hlevel, hlow⟩
    · rw [hk, hunits, abs_sub_grid, abs_sub_grid]
      have hnear := (roundHalfEven_nearest a hb k).1
      gcongr
    · exact (hbelow c hlevel hlow).le
  · rcases f.units_cases level c with ⟨k, hk⟩ | ⟨hlevel, hlow⟩
    · rw [hk, hunits, abs_sub_grid, abs_sub_grid] at heq
      rcases (roundHalfEven_nearest a hb k).2 (mul_right_cancel₀ hpower.ne' heq) with rfl | heven
      · exact .inl (f.units_strictMono.injective (hk.trans hunits.symm))
      · right
        rw [hround, Nat.add_mod, Nat.mul_mod, binade_mod_two hf, heven, Nat.mul_zero]
    · exact absurd heq (hbelow c hlevel hlow).ne'

end Format

/-! ## Doubles -/

namespace Double

/-! ### Codes -/

theorem toNat_ofCode (negative : Bool) {code : Nat} (hcode : code < 2 ^ 63) :
    (ofCode negative code).bits.toNat = (if negative then 2 ^ 63 else 0) + code := by
  cases negative <;> (simp [ofCode, BitVec.toNat_ofNat]; omega)

theorem code_ofCode (sign : Bool) {code : Nat} (hcode : code < 2 ^ 63) :
    (ofCode sign code).code = code := by
  unfold Double.code
  rw [toNat_ofCode sign hcode]
  cases sign <;> (simp; omega)

theorem negative_ofCode (sign : Bool) {code : Nat} (hcode : code < 2 ^ 63) :
    (ofCode sign code).negative = sign := by
  unfold negative
  rw [BitVec.msb_eq_decide, toNat_ofCode sign hcode]
  cases sign with
  | false => simpa using hcode
  | true => simp

/-- A rounded ratio has the sign and the code that it was given. -/
theorem code_ofRatio (sign : Bool) (num den : Nat) :
    (ofRatio sign num den).code = format.round num den :=
  code_ofCode sign ((format.round_le_infinity num den).trans_lt (by decide))

theorem negative_ofRatio (sign : Bool) (num den : Nat) :
    (ofRatio sign num den).negative = sign :=
  negative_ofCode sign ((format.round_le_infinity num den).trans_lt (by decide))

theorem unit_pos : 0 < unit := by
  rw [unit, Nat.shiftLeft_eq, Nat.one_mul]
  exact Nat.two_pow_pos _

/-- Sign and code determine a double. -/
theorem eq_of_code {x y : Double} (hsign : x.negative = y.negative) (hcode : x.code = y.code) :
    x = y := by
  obtain ⟨x⟩ := x
  obtain ⟨y⟩ := y
  congr 1
  apply BitVec.eq_of_toNat_eq
  simp only [negative, BitVec.msb_eq_decide, code] at hsign hcode
  have hx := x.isLt
  have hy := y.isLt
  simp only [decide_eq_decide] at hsign
  omega

/-! ### Numbers -/

/-- The number that a finite double stands for. -/
def number (x : Double) : ℚ := x.units / unit

variable {x y : Double} {q : ℚ} {c : Nat}

theorem isFinite_iff : x.isFinite = true ↔ x.code < format.infinity := decide_eq_true_iff

theorem isNaN_of_isFinite (h : x.isFinite = true) : x.isNaN = false := by
  rw [isFinite_iff] at h
  exact decide_eq_false (Nat.lt_asymm h)

theorem isFinite_ofCode (sign : Bool) (hc : c < format.infinity) :
    (ofCode sign c).isFinite = true := by
  rw [isFinite_iff, code_ofCode sign (hc.trans (by decide))]
  exact hc

theorem unit_pos' : (0 : ℚ) < unit := Nat.cast_pos.2 unit_pos

theorem natAbs_units (x : Double) : x.units.natAbs = format.units x.code := by
  unfold units
  split <;> simp

/-- Without its sign, a double is the number of units of its code. -/
theorem abs_number (x : Double) : |x.number| = format.units x.code / unit := by
  rw [number, abs_div, abs_of_pos unit_pos', ← natAbs_units, Nat.cast_natAbs, Int.cast_abs]

theorem code_eq_of_number (h : x.number = y.number) : x.code = y.code := by
  apply format.units_strictMono.injective
  have habs := congrArg abs h
  rw [abs_number, abs_number, div_left_inj' unit_pos'.ne'] at habs
  exact_mod_cast habs

theorem number_eq_zero_iff : x.number = 0 ↔ x.code = 0 := by
  rw [← abs_eq_zero, abs_number, div_eq_zero_iff, or_iff_left unit_pos'.ne', Nat.cast_eq_zero,
    format.units_eq_zero_iff]

theorem number_ofCode (sign : Bool) (hc : c < format.infinity) :
    (ofCode sign c).number = (if sign then -1 else 1) * (format.units c / unit) := by
  have hlt : c < 2 ^ 63 := hc.trans (by decide)
  rw [number, units, negative_ofCode sign hlt, code_ofCode sign hlt]
  cases sign <;> simp [neg_div]

/-- **Finite doubles are equal if and only if their numbers are.** -/
theorem equals_iff (hx : x.isFinite = true) (hy : y.isFinite = true) :
    x.equals y = true ↔ x.number = y.number := by
  have hequals : x.equals y = true ↔ x = y ∨ x.code = 0 ∧ y.code = 0 := by
    simp [equals, isNaN_of_isFinite hx, isNaN_of_isFinite hy, isZero]
  rw [hequals]
  constructor
  · rintro (rfl | ⟨hzero, hzero'⟩)
    · rfl
    · rw [number_eq_zero_iff.2 hzero, number_eq_zero_iff.2 hzero']
  · intro h
    have hcode := code_eq_of_number h
    by_cases hzero : x.code = 0
    · exact .inr ⟨hzero, hcode ▸ hzero⟩
    · -- Doubles with one code differ in sign only, which a number that is not zero shows.
      refine .inl (eq_of_code ?_ hcode)
      have hunits : (format.units x.code : Int) ≠ 0 := by
        rw [Nat.cast_ne_zero, Ne, format.units_eq_zero_iff]
        exact hzero
      rw [number, number, div_left_inj' unit_pos'.ne', Int.cast_inj, units, units, ← hcode] at h
      cases hsign : x.negative <;> cases hsign' : y.negative <;> simp [hsign, hsign'] at h ⊢ <;>
        omega

/-- A double that a finite one equals is finite, and stands for the same number. -/
theorem isFinite_of_equals (hx : x.isFinite = true) (h : x.equals y = true) :
    y.isFinite = true := by
  simp only [equals, isZero, Bool.and_eq_true, Bool.or_eq_true, beq_iff_eq] at h
  rcases h.2 with rfl | ⟨-, hzero⟩
  · exact hx
  · rw [isFinite_iff, hzero]
    decide

/-! ### Nearest doubles -/

/-- No finite double is nearer to `q`, and if another one is equally near, the code is even. -/
structure Nearest (x : Double) (q : ℚ) : Prop where
  finite : x.isFinite = true
  closest : ∀ y : Double, y.isFinite = true → |x.number - q| ≤ |y.number - q|
  even : ∀ y : Double, y.isFinite = true → |y.number - q| = |x.number - q| →
    y.number = x.number ∨ x.code % 2 = 0

/-- The distance to a double without looking at the signs. -/
theorem abs_sub_code_le (x : Double) (q : ℚ) :
    |(format.units x.code : ℚ) - |q| * unit| / unit ≤ |x.number - q| := by
  rw [← abs_of_pos unit_pos', ← abs_div, abs_of_pos unit_pos', sub_div,
    mul_div_cancel_right₀ _ unit_pos'.ne', ← abs_number]
  exact abs_abs_sub_abs_le x.number q

/-- The double with the sign of `q` is as near as its code. -/
theorem abs_ofCode_sub (q : ℚ) (hc : c < format.infinity) :
    |(ofCode (decide (q < 0)) c).number - q| = |(format.units c : ℚ) - |q| * unit| / unit := by
  rw [← abs_of_pos unit_pos', ← abs_div, abs_of_pos unit_pos', sub_div,
    mul_div_cancel_right₀ _ unit_pos'.ne', number_ofCode _ hc]
  rcases lt_or_ge q 0 with hneg | hpos
  · rw [decide_eq_true hneg, abs_of_neg hneg, if_pos rfl, ← abs_neg]
    congr 1
    ring
  · rw [decide_eq_false (not_lt.2 hpos), abs_of_nonneg hpos]
    simp

/-- A nearest double has the nearest code. -/
theorem Nearest.code (h : x.Nearest q) : format.Nearest (|q| * unit) x.code := by
  have hx := isFinite_iff.1 h.finite
  have hdistance : ∀ c < format.infinity,
      |x.number - q| ≤ |(format.units c : ℚ) - |q| * unit| / unit := by
    intro c hc
    rw [← abs_ofCode_sub q hc]
    exact h.closest _ (isFinite_ofCode _ hc)
  have hown := le_antisymm (abs_sub_code_le x q) (hdistance _ hx)
  refine ⟨hx, fun c hc => ?_, fun c hc heq => ?_⟩
  · have hle := hdistance c hc
    rw [← hown, div_le_div_iff_of_pos_right unit_pos'] at hle
    exact hle
  · rw [← div_left_inj' unit_pos'.ne', hown, ← abs_ofCode_sub q hc] at heq
    refine (h.even _ (isFinite_ofCode _ hc) heq).imp_left fun hnumber => ?_
    rw [← code_eq_of_number hnumber, code_ofCode _ (hc.trans (by decide))]

/-- Two numbers that only differ in sign are equally near to zero only. -/
theorem eq_of_abs_eq {a b : ℚ} (habs : |a| = |b|) (hdistance : |a - q| = |b - q|) :
    a = b ∨ q = 0 := by
  rcases abs_eq_abs.1 habs with rfl | rfl
  · exact .inl rfl
  · rcases abs_eq_abs.1 hdistance with h | h
    · exact .inl (by linarith)
    · exact .inr (by linarith)

/-- To zero only zero is nearest. -/
theorem Nearest.eq_zero (h : x.Nearest 0) : x.number = 0 := by
  have hzero := h.closest zero (by decide)
  rw [number_eq_zero_iff.2 (by decide : zero.code = 0), sub_zero, sub_zero, abs_zero] at hzero
  exact abs_nonpos_iff.1 hzero

/-- **There is one nearest number.** -/
theorem Nearest.number_eq (h : x.Nearest q) (h' : y.Nearest q) : x.number = y.number := by
  have hcode := h.code.unique h'.code
  have hdistance := le_antisymm (h.closest y h'.finite) (h'.closest x h.finite)
  have habs : |x.number| = |y.number| := by rw [abs_number, abs_number, hcode]
  rcases eq_of_abs_eq habs hdistance with heq | rfl
  · exact heq
  · rw [h.eq_zero, h'.eq_zero]

/-- The double with the sign of a number and the nearest code is nearest. -/
theorem nearest_ofCode (h : format.Nearest (|q| * unit) c) :
    (ofCode (decide (q < 0)) c).Nearest q := by
  have hc := h.finite
  have hcode : (ofCode (decide (q < 0)) c).code = c := code_ofCode _ (hc.trans (by decide))
  have hle : ∀ y : Double, y.isFinite = true →
      |(format.units c : ℚ) - |q| * unit| / unit ≤
        |(format.units y.code : ℚ) - |q| * unit| / unit := fun y hy =>
    (div_le_div_iff_of_pos_right unit_pos').2 (h.closest _ (isFinite_iff.1 hy))
  refine ⟨isFinite_ofCode _ hc, fun y hy => ?_, fun y hy heq => ?_⟩
  · rw [abs_ofCode_sub q hc]
    exact (hle y hy).trans (abs_sub_code_le y q)
  · have hdistance := heq
    rw [abs_ofCode_sub q hc] at heq
    have htie := le_antisymm ((abs_sub_code_le y q).trans_eq heq) (hle y hy)
    rw [div_left_inj' unit_pos'.ne'] at htie
    rw [hcode]
    refine (h.even _ (isFinite_iff.1 hy) htie).imp_left fun hsame => ?_
    rcases eq_of_abs_eq (by rw [abs_number, abs_number, hcode, hsame]) hdistance with heq | rfl
    · exact heq
    · -- To zero, zero is strictly nearest.
      have hzero := h.closest 0 (by decide)
      rw [format.units_zero, abs_zero, zero_mul, Nat.cast_zero, sub_zero, sub_zero, abs_zero,
        abs_nonpos_iff, Nat.cast_eq_zero, format.units_eq_zero_iff] at hzero
      rw [number_eq_zero_iff.2 (hsame.trans hzero), number_eq_zero_iff.2 (hcode.trans hzero)]

/-! ### Integers as doubles -/

theorem cast_unit : (unit : ℚ) = 2 ^ format.scale := by
  rw [unit, Nat.shiftLeft_eq, Nat.one_mul, Nat.cast_pow, Nat.cast_ofNat]

/-- **An integer of 64 bits is rounded to the nearest double.** -/
theorem nearest_ofInt {n : ℤ} (hn : n.natAbs ≤ 2 ^ 63) : (ofInt n).Nearest n := by
  have hfinite : format.round n.natAbs 1 < format.infinity :=
    (Format.round_mono (by decide) Nat.one_pos Nat.one_pos (Nat.mul_le_mul_right 1 hn)).trans_lt
      (by decide +kernel)
  have hcode := Format.nearest_round (by decide) Nat.one_pos hfinite
  rw [Nat.cast_one, div_one, ← cast_unit, Nat.cast_natAbs, Int.cast_abs] at hcode
  have hnearest := nearest_ofCode hcode
  simp only [Int.cast_lt_zero] at hnearest
  exact hnearest

/-- The doubles that equal a rounded integer are the nearest ones. -/
theorem equals_ofInt_iff {n : ℤ} (hn : n.natAbs ≤ 2 ^ 63) :
    (ofInt n).equals x = true ↔ x.Nearest n := by
  have hround := nearest_ofInt hn
  constructor
  · intro h
    have hfinite := isFinite_of_equals hround.finite h
    have hnumber := (equals_iff hround.finite hfinite).1 h
    refine ⟨hfinite, ?_, ?_⟩
    · rw [← hnumber]
      exact hround.closest
    · rw [← hnumber, ← code_eq_of_number hnumber]
      exact hround.even
  · intro h
    exact (equals_iff hround.finite h.finite).2 (hround.number_eq h)

/-- Some double stands for the integer. -/
def Holds (n : ℤ) : Prop := ∃ y : Double, y.isFinite = true ∧ y.number = n

/-- Of an integer that a double holds, only this number is nearest. -/
theorem Holds.nearest_iff {n : ℤ} (h : Holds n) :
    x.Nearest n ↔ x.isFinite = true ∧ x.number = n := by
  obtain ⟨y, hy, hn⟩ := h
  constructor
  · intro hx
    have hle := hx.closest y hy
    rw [hn, sub_self, abs_zero, abs_nonpos_iff, sub_eq_zero] at hle
    exact ⟨hx.finite, hle⟩
  · rintro ⟨hfinite, hx⟩
    refine ⟨hfinite, fun z _ => ?_, fun z _ heq => .inl ?_⟩
    · rw [hx, sub_self, abs_zero]
      exact abs_nonneg _
    · rw [hx, sub_self, abs_zero, abs_eq_zero, sub_eq_zero] at heq
      rw [heq, hx]

/-- A double holds every integer with the units of a code. -/
theorem holds_of_units {n : ℤ} (hc : c < format.infinity)
    (hn : format.units c = n.natAbs * unit) : Holds n := by
  refine ⟨ofCode (decide (n < 0)) c, isFinite_ofCode _ hc, ?_⟩
  rw [number_ofCode _ hc, hn, Nat.cast_mul, mul_div_cancel_right₀ _ unit_pos'.ne']
  rcases lt_or_ge n 0 with hneg | hpos
  · rw [decide_eq_true hneg, if_pos rfl, Nat.cast_natAbs, abs_of_neg hneg]
    push_cast
    ring
  · rw [decide_eq_false (not_lt.2 hpos), if_neg Bool.false_ne_true, one_mul, Nat.cast_natAbs,
      abs_of_nonneg hpos]

/-- **Doubles hold the integers up to `2 ^ 53`.** -/
theorem holds_of_le {n : ℤ} (hn : n.natAbs ≤ 2 ^ 53) : Holds n := by
  rcases Nat.eq_zero_or_pos n.natAbs with hzero | hpos
  · exact holds_of_units (c := 0) (by decide) (by rw [hzero, format.units_zero, Nat.zero_mul])
  -- The integer is shifted until its first bit is the first one of a significand.
  obtain ⟨k, hk, hlow, hhigh⟩ :
      ∃ k ≤ 52, 2 ^ 52 ≤ n.natAbs * 2 ^ k ∧ n.natAbs * 2 ^ k ≤ 2 ^ 53 := by
    have hbelow := Nat.log2_self_le hpos.ne'
    have habove := Nat.lt_log2_self (n := n.natAbs)
    refine ⟨52 - n.natAbs.log2, Nat.sub_le _ _, ?_, ?_⟩
    · calc 2 ^ 52 ≤ 2 ^ (n.natAbs.log2 + (52 - n.natAbs.log2)) :=
            Nat.pow_le_pow_right (by decide) (by omega)
        _ = 2 ^ n.natAbs.log2 * 2 ^ (52 - n.natAbs.log2) := Nat.pow_add _ _ _
        _ ≤ n.natAbs * 2 ^ (52 - n.natAbs.log2) := Nat.mul_le_mul_right _ hbelow
    · rcases Nat.lt_or_ge 52 n.natAbs.log2 with hlarge | hsmall
      · rw [Nat.sub_eq_zero_of_le hlarge.le, Nat.pow_zero, Nat.mul_one]
        exact hn
      · calc n.natAbs * 2 ^ (52 - n.natAbs.log2)
            ≤ 2 ^ (n.natAbs.log2 + 1) * 2 ^ (52 - n.natAbs.log2) :=
              Nat.mul_le_mul_right _ habove.le
          _ = 2 ^ 53 := by
            rw [← Nat.pow_add]
            congr 1
            omega
  refine holds_of_units (c := (format.scale - k) * format.binade + n.natAbs * 2 ^ k) ?_ ?_
  · calc (format.scale - k) * format.binade + n.natAbs * 2 ^ k
        ≤ format.scale * format.binade + 2 ^ 53 :=
          Nat.add_le_add (Nat.mul_le_mul_right _ (Nat.sub_le _ _)) hhigh
      _ < format.infinity := by decide +kernel
  · rw [format.units_lift _ hhigh (.inr hlow), Nat.mul_assoc, ← Nat.pow_add,
      Nat.add_sub_of_le (hk.trans (by decide)), unit, Nat.shiftLeft_eq, Nat.one_mul]

end Double

end Adventure
