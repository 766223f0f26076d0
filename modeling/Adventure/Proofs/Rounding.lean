import Adventure.Number.Format
import Mathlib.Algebra.Order.Field.Power
import Mathlib.Data.Rat.Cast.Order
import Mathlib.Tactic.FieldSimp
import Mathlib.Tactic.Linarith
import Mathlib.Tactic.Positivity
import Mathlib.Tactic.Ring

/-!
# Rounding keeps the order

The codes of a format are in the order of the numbers that they stand for, and rounding a larger
ratio gives no smaller code.  So a bound on a rounded number need only be computed once.

## Main definitions

* `Format.lift`, `Format.shifted`: the binade in which a ratio is rounded, and the integer that it
  is rounded to there

## Main results

* `roundHalfEven_mono`: rounding to an integer keeps the order
* `floorLog2_spec`: the powers of two around a ratio
* `Format.round_mono`: rounding to a format keeps the order
* `Format.units_strictMono`: codes are in the order of the numbers that they stand for
-/

namespace Adventure

/-! ## Integers -/

section Integers

variable {num den num' den' : Nat}

/-- A ratio is rounded to its floor or to the next integer. -/
theorem div_le_roundHalfEven (num den : Nat) :
    num / den ≤ roundHalfEven num den ∧ roundHalfEven num den ≤ num / den + 1 := by
  unfold roundHalfEven
  dsimp only
  split
  · omega
  · split
    · omega
    · split <;> omega

/-- **Rounding to an integer keeps the order.** -/
theorem roundHalfEven_mono (hden : 0 < den) (hden' : 0 < den') (h : num * den' ≤ num' * den) :
    roundHalfEven num den ≤ roundHalfEven num' den' := by
  have hfloor : num / den ≤ num' / den' := by
    rw [Nat.le_div_iff_mul_le hden']
    refine Nat.le_of_mul_le_mul_right ?_ hden
    calc num / den * den' * den = num / den * den * den' := by ring
      _ ≤ num * den' := Nat.mul_le_mul_right _ (Nat.div_mul_le_self num den)
      _ ≤ num' * den := h
  rcases Nat.eq_or_lt_of_le hfloor with heq | hlt
  · -- With one floor, the larger ratio has the larger rest.
    have hrest : num % den * den' ≤ num' % den' * den := by
      have hnum : (num / den * den + num % den) * den' = num * den' := by rw [Nat.div_add_mod']
      have hnum' : (num' / den' * den' + num' % den') * den = num' * den := by
        rw [Nat.div_add_mod']
      rw [← heq] at hnum'
      linarith
    have hup : den < 2 * (num % den) → den' < 2 * (num' % den') := by
      intro hhalf
      by_contra hnot
      have hleft := Nat.mul_lt_mul_of_pos_right hhalf hden'
      have hright := Nat.mul_le_mul_right den (Nat.le_of_not_lt hnot)
      linarith
    have htie : den ≤ 2 * (num % den) → den' ≤ 2 * (num' % den') := by
      intro hhalf
      by_contra hnot
      have hleft := Nat.mul_le_mul_right den' hhalf
      have hright := Nat.mul_lt_mul_of_pos_right (Nat.lt_of_not_le hnot) hden
      linarith
    unfold roundHalfEven
    dsimp only
    rw [← heq]
    split_ifs <;> omega
  · have hupper := (div_le_roundHalfEven num den).2
    have hlower := (div_le_roundHalfEven num' den').1
    omega

/-- An integer is rounded to itself. -/
theorem roundHalfEven_mul (num : Nat) (hden : 0 < den) : roundHalfEven (num * den) den = num := by
  unfold roundHalfEven
  simp [Nat.mul_mod_left, Nat.mul_div_cancel num hden, hden]

theorem roundHalfEven_le (hden : 0 < den) {bound : Nat} (h : num ≤ bound * den) :
    roundHalfEven num den ≤ bound := by
  rw [← roundHalfEven_mul bound hden]
  exact roundHalfEven_mono hden hden (Nat.mul_le_mul_right den h)

theorem le_roundHalfEven (hden : 0 < den) {bound : Nat} (h : bound * den ≤ num) :
    bound ≤ roundHalfEven num den := by
  rw [← roundHalfEven_mul bound hden]
  exact roundHalfEven_mono hden hden (Nat.mul_le_mul_right den h)

end Integers

/-! ## Powers of two -/

section Powers

variable {num den num' den' : Nat}

/-- A ratio that is compared to a power of two by shifting. -/
theorem shifted_le_iff (hden : 0 < den) (exponent : Int) :
    (if 0 ≤ exponent then decide (den <<< exponent.toNat ≤ num)
      else decide (den ≤ num <<< (-exponent).toNat)) = true ↔
      (2 : ℚ) ^ exponent ≤ num / den := by
  have hpos : (0 : ℚ) < den := Nat.cast_pos.2 hden
  rw [le_div_iff₀ hpos]
  split
  · next h =>
    obtain ⟨k, rfl⟩ := Int.eq_ofNat_of_zero_le h
    rw [decide_eq_true_iff, Nat.shiftLeft_eq, Int.toNat_natCast, zpow_natCast, mul_comm den]
    exact_mod_cast Iff.rfl
  · next h =>
    obtain ⟨k, hk⟩ := Int.eq_ofNat_of_zero_le (show 0 ≤ -exponent by omega)
    obtain rfl : exponent = -(k : Int) := by omega
    rw [decide_eq_true_iff, Nat.shiftLeft_eq, neg_neg, Int.toNat_natCast, zpow_neg, zpow_natCast,
      inv_mul_le_iff₀ (by positivity), mul_comm num]
    exact_mod_cast Iff.rfl

/-- **The powers of two around a ratio.** -/
theorem floorLog2_spec (hnum : 0 < num) (hden : 0 < den) :
    (2 : ℚ) ^ floorLog2 num den ≤ num / den ∧
      (num / den : ℚ) < 2 ^ (floorLog2 num den + 1) := by
  have hpos : (0 : ℚ) < den := Nat.cast_pos.2 hden
  have hnumLow : (2 : ℚ) ^ num.log2 ≤ num := by exact_mod_cast Nat.log2_self_le hnum.ne'
  have hnumHigh : (num : ℚ) < 2 ^ (num.log2 + 1) := by exact_mod_cast Nat.lt_log2_self
  have hdenLow : (2 : ℚ) ^ den.log2 ≤ den := by exact_mod_cast Nat.log2_self_le hden.ne'
  have hdenHigh : (den : ℚ) < 2 ^ (den.log2 + 1) := by exact_mod_cast Nat.lt_log2_self
  have htwo : (2 : ℚ) ≠ 0 := two_ne_zero
  -- The difference of the two logarithms is right, or too large by one.
  have hlow : (2 : ℚ) ^ ((num.log2 : Int) - den.log2 - 1) ≤ num / den := by
    rw [le_div_iff₀ hpos]
    calc (2 : ℚ) ^ ((num.log2 : Int) - den.log2 - 1) * den
        ≤ 2 ^ ((num.log2 : Int) - den.log2 - 1) * 2 ^ (den.log2 + 1) := by gcongr
      _ = 2 ^ num.log2 := by
        rw [← zpow_natCast, ← zpow_natCast, ← zpow_add₀ htwo]
        congr 1
        push_cast
        ring
      _ ≤ num := hnumLow
  have hhigh : (num / den : ℚ) < 2 ^ ((num.log2 : Int) - den.log2 + 1) := by
    rw [div_lt_iff₀ hpos]
    calc (num : ℚ) < 2 ^ (num.log2 + 1) := hnumHigh
      _ = 2 ^ ((num.log2 : Int) - den.log2 + 1) * 2 ^ den.log2 := by
        rw [← zpow_natCast, ← zpow_natCast, ← zpow_add₀ htwo]
        congr 1
        push_cast
        ring
      _ ≤ 2 ^ ((num.log2 : Int) - den.log2 + 1) * den := by gcongr
  have hcases : floorLog2 num den =
      if (2 : ℚ) ^ ((num.log2 : Int) - den.log2) ≤ num / den then (num.log2 : Int) - den.log2
      else (num.log2 : Int) - den.log2 - 1 := if_congr (shifted_le_iff hden _) rfl rfl
  rw [hcases]
  split
  · next h => exact ⟨h, hhigh⟩
  · next h =>
    rw [not_le] at h
    exact ⟨hlow, by rwa [sub_add_cancel]⟩

/-- A larger ratio has no smaller logarithm. -/
theorem floorLog2_mono (hnum : 0 < num) (hnum' : 0 < num') (hden : 0 < den) (hden' : 0 < den')
    (h : (num / den : ℚ) ≤ num' / den') : floorLog2 num den ≤ floorLog2 num' den' := by
  have hlow := (floorLog2_spec hnum hden).1
  have hhigh := (floorLog2_spec hnum' hden').2
  have hpower : (2 : ℚ) ^ floorLog2 num den < 2 ^ (floorLog2 num' den' + 1) :=
    (hlow.trans h).trans_lt hhigh
  have hlt := (zpow_lt_zpow_iff_right₀ one_lt_two).1 hpower
  omega

end Powers

/-! ## Formats -/

namespace Format

variable (f : Format) {num den num' den' : Nat}

theorem binade_pos : 0 < f.binade := by
  rw [binade, Nat.shiftLeft_eq, Nat.one_mul]
  exact Nat.two_pow_pos _

/-- The binade in which a ratio is rounded, counted from the lowest one. -/
def lift (num den : Nat) : Nat :=
  (floorLog2 num den - ((f.precision : Int) - 1) + (f.scale : Int)).toNat

/-- The ratio in units of the last place of its binade, rounded to an integer. -/
def shifted (num den : Nat) : Nat :=
  if f.scale ≤ f.lift num den then roundHalfEven num (den <<< (f.lift num den - f.scale))
  else roundHalfEven (num <<< (f.scale - f.lift num den)) den

theorem round_eq (hnum : 0 < num) :
    f.round num den = min (f.lift num den * f.binade + f.shifted num den) f.infinity := by
  unfold round
  rw [if_neg hnum.ne']
  rfl

/-- What is rounded to an integer is the ratio, scaled by a power of two. -/
theorem exists_shifted (num : Nat) (hden : 0 < den) :
    ∃ a b, 0 < b ∧ f.shifted num den = roundHalfEven a b ∧
      (a / b : ℚ) = num / den * 2 ^ ((f.scale : Int) - f.lift num den) := by
  have hpos : (den : ℚ) ≠ 0 := Nat.cast_ne_zero.2 hden.ne'
  unfold shifted
  split
  · next h =>
    refine ⟨_, _, ?_, rfl, ?_⟩
    · rw [Nat.shiftLeft_eq]
      positivity
    · obtain ⟨k, hk⟩ := Nat.exists_eq_add_of_le h
      rw [hk, Nat.add_sub_cancel_left, Nat.shiftLeft_eq]
      push_cast
      rw [show (f.scale : Int) - (f.scale + k) = -(k : Int) by ring, zpow_neg, zpow_natCast]
      field_simp
  · next h =>
    refine ⟨_, _, hden, rfl, ?_⟩
    obtain ⟨k, hk⟩ := Nat.exists_eq_add_of_le (Nat.le_of_not_le h)
    rw [hk, Nat.add_sub_cancel_left, Nat.shiftLeft_eq]
    push_cast
    rw [add_sub_cancel_left, zpow_natCast]
    ring

section Order

variable {f}
variable (hf : 0 < f.precision)
include hf

theorem cast_binade : (f.binade : ℚ) = 2 ^ ((f.precision : Int) - 1) := by
  obtain ⟨k, hk⟩ := Nat.exists_eq_add_of_lt hf
  rw [binade, Nat.shiftLeft_eq, hk]
  push_cast
  rw [show (0 : Int) + k + 1 - 1 = (k : Int) by ring, zpow_natCast]
  simp

/-- What is rounded in a binade is below the next one. -/
theorem shifted_le (hnum : 0 < num) (hden : 0 < den) : f.shifted num den ≤ 2 * f.binade := by
  obtain ⟨a, b, hb, hshifted, hratio⟩ := f.exists_shifted num hden
  have hlift : (f.scale : Int) - f.lift num den ≤
      (f.precision : Int) - 1 - floorLog2 num den := by
    unfold lift
    omega
  have hbound : (a / b : ℚ) ≤ (2 * f.binade : Nat) := by
    rw [hratio]
    calc (num / den : ℚ) * 2 ^ ((f.scale : Int) - f.lift num den)
        ≤ 2 ^ (floorLog2 num den + 1) * 2 ^ ((f.precision : Int) - 1 - floorLog2 num den) := by
          have hhigh := (floorLog2_spec hnum hden).2.le
          gcongr
          exact one_le_two
      _ = (2 * f.binade : Nat) := by
        rw [← zpow_add₀ two_ne_zero, Nat.cast_mul, cast_binade hf, Nat.cast_ofNat,
          ← zpow_one_add₀ two_ne_zero]
        congr 1
        ring
  rw [hshifted]
  apply roundHalfEven_le hb
  rw [div_le_iff₀ (Nat.cast_pos.2 hb)] at hbound
  exact_mod_cast hbound

/-- Above the lowest binade, a ratio has all the bits of a significand before its point. -/
theorem binade_le_scaled (hnum : 0 < num) (hden : 0 < den) (hlift : 0 < f.lift num den) :
    (f.binade : ℚ) ≤ num / den * 2 ^ ((f.scale : Int) - f.lift num den) := by
  have hexponent : (f.scale : Int) - f.lift num den =
      (f.precision : Int) - 1 - floorLog2 num den := by
    unfold lift at hlift ⊢
    omega
  rw [hexponent, cast_binade hf]
  calc (2 : ℚ) ^ ((f.precision : Int) - 1)
      = 2 ^ floorLog2 num den * 2 ^ ((f.precision : Int) - 1 - floorLog2 num den) := by
        rw [← zpow_add₀ two_ne_zero]
        congr 1
        ring
    _ ≤ num / den * 2 ^ ((f.precision : Int) - 1 - floorLog2 num den) := by
      have hlow := (floorLog2_spec hnum hden).1
      gcongr

/-- Above the lowest binade, significands have all their bits. -/
theorem le_shifted (hnum : 0 < num) (hden : 0 < den) (hlift : 0 < f.lift num den) :
    f.binade ≤ f.shifted num den := by
  obtain ⟨a, b, hb, hshifted, hratio⟩ := f.exists_shifted num hden
  have hbound := binade_le_scaled hf hnum hden hlift
  rw [← hratio, le_div_iff₀ (Nat.cast_pos.2 hb)] at hbound
  rw [hshifted]
  apply le_roundHalfEven hb
  exact_mod_cast hbound

/-- **Rounding to a format keeps the order.** -/
theorem round_mono (hden : 0 < den) (hden' : 0 < den') (h : num * den' ≤ num' * den) :
    f.round num den ≤ f.round num' den' := by
  rcases Nat.eq_zero_or_pos num with rfl | hnum
  · rw [round_zero]
    exact Nat.zero_le _
  have hnum' : 0 < num' := by
    apply Nat.pos_of_mul_pos_right (b := den)
    exact (Nat.mul_pos hnum hden').trans_le h
  have hratio : (num / den : ℚ) ≤ num' / den' := by
    rw [div_le_div_iff₀ (Nat.cast_pos.2 hden) (Nat.cast_pos.2 hden')]
    exact_mod_cast h
  have hlift : f.lift num den ≤ f.lift num' den' := by
    have hlog := floorLog2_mono hnum hnum' hden hden' hratio
    unfold lift
    omega
  rw [round_eq f hnum, round_eq f hnum']
  refine min_le_min_right _ ?_
  rcases Nat.eq_or_lt_of_le hlift with heq | hlt
  · -- In one binade, both are rounded to integers in the same units.
    obtain ⟨a, b, hb, hshifted, hscaled⟩ := f.exists_shifted num hden
    obtain ⟨a', b', hb', hshifted', hscaled'⟩ := f.exists_shifted num' hden'
    have hcross : (a / b : ℚ) ≤ a' / b' := by
      rw [hscaled, hscaled', heq]
      gcongr
    rw [div_le_div_iff₀ (Nat.cast_pos.2 hb) (Nat.cast_pos.2 hb')] at hcross
    rw [heq, hshifted, hshifted']
    exact Nat.add_le_add_left (roundHalfEven_mono hb hb' (by exact_mod_cast hcross)) _
  · -- A carry goes no further than to the start of the next binade.
    have hupper := shifted_le hf hnum hden
    have hlower := le_shifted hf hnum' hden' (by omega)
    calc f.lift num den * f.binade + f.shifted num den
        ≤ (f.lift num den + 1) * f.binade + f.binade := by linarith
      _ ≤ f.lift num' den' * f.binade + f.shifted num' den' :=
        Nat.add_le_add (Nat.mul_le_mul_right _ hlt) hlower

end Order

/-- The number of a code, from the binade and the place within it. -/
theorem units_eq {code : Nat} (level place : Nat) (hcode : code = level * f.binade + place)
    (hplace : place < f.binade) :
    f.units code =
      if level = 0 then place else (place + f.binade) <<< (level - 1) := by
  have hsplit : code / f.binade = level ∧ code % f.binade = place :=
    (Nat.div_mod_unique f.binade_pos).2 ⟨by rw [hcode]; ring, hplace⟩
  unfold units significand Format.level
  rw [hsplit.1, hsplit.2]
  rcases Nat.eq_zero_or_pos level with rfl | hlevel
  · rw [if_pos rfl, if_pos (by omega), Nat.zero_sub, Nat.shiftLeft_zero]
    omega
  · have hle : f.binade ≤ level * f.binade := Nat.le_mul_of_pos_left _ hlevel
    rw [if_neg hlevel.ne', if_neg (by omega)]

/-- The next code stands for a larger number. -/
theorem units_lt_succ (code : Nat) : f.units code < f.units (code + 1) := by
  have hplace := Nat.mod_lt code f.binade_pos
  have hcode := Nat.div_add_mod' code f.binade
  generalize code / f.binade = level at hcode
  generalize code % f.binade = place at hcode hplace
  rw [f.units_eq level place hcode.symm hplace]
  rcases Nat.eq_or_lt_of_le (Nat.succ_le_of_lt hplace) with hlast | hnext
  · -- The last place of a binade is followed by the first one of the next binade.
    rw [f.units_eq (level + 1) 0 (by linarith) f.binade_pos]
    rcases Nat.eq_zero_or_pos level with rfl | hlevel
    · rw [if_pos rfl, if_neg (Nat.succ_ne_zero 0), Nat.add_sub_cancel, Nat.zero_add,
        Nat.shiftLeft_zero]
      exact hplace
    · rw [if_neg hlevel.ne', if_neg (Nat.succ_ne_zero level), Nat.add_sub_cancel, Nat.zero_add,
        Nat.shiftLeft_eq, Nat.shiftLeft_eq]
      have hpower : 2 ^ level = 2 * 2 ^ (level - 1) := by
        rw [← Nat.pow_succ', Nat.succ_eq_add_one, Nat.sub_add_cancel hlevel]
      rw [hpower, ← Nat.mul_assoc]
      exact Nat.mul_lt_mul_of_pos_right (by omega) (Nat.two_pow_pos _)
  · rw [f.units_eq level (place + 1) (by omega) hnext]
    split
    · omega
    · rw [Nat.shiftLeft_eq, Nat.shiftLeft_eq]
      exact Nat.mul_lt_mul_of_pos_right (by omega) (Nat.two_pow_pos _)

/-- **Codes are in the order of the numbers** that they stand for. -/
theorem units_strictMono : StrictMono f.units := strictMono_nat_of_lt_succ f.units_lt_succ

theorem units_mono : Monotone f.units := f.units_strictMono.monotone

end Format

end Adventure
