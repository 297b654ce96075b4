import ChainRelay.Decimal.Nearest
import Mathlib.Algebra.Order.Ring.Abs
import Mathlib.Data.Rat.Cast.Order
import Mathlib.Data.Rat.Floor
import Mathlib.Tactic.FieldSimp
import Mathlib.Tactic.GCongr
import Mathlib.Tactic.Linarith
import Mathlib.Tactic.Positivity
import Mathlib.Tactic.Ring

/-!
# How far rounding goes

Ages and limits are compared after a passage through double precision. Rounding keeps whole numbers
and moves nothing by more than one part in `2 ^ 53`, so a comparison of microseconds with a limit
of whole seconds comes out as if nothing had been rounded.

## Main results

* `two_mul_abs_roundDiv_sub_le` — rounding a quotient moves it by at most a half
* `abs_nearest_sub_le`, `abs_nearest_sub_le_add_one` — the error of `nearest`, relative and for all
  numbers
* `nearest_natCast` — whole numbers below `2 ^ 53` stay
* `lt_nearest_seconds_iff` — the comparison of microseconds with whole seconds is exact
-/

namespace ChainRelay.Decimal

/-! ### Rounding a quotient -/

theorem roundDiv_one (num : ℕ) : roundDiv num 1 = num := by
  simp [roundDiv, Nat.mod_one]

/-- Rounding moves a quotient by at most a half. Stated without a division. -/
theorem two_mul_abs_roundDiv_sub_le (num : ℕ) {den : ℕ} (hden : 0 < den) :
    2 * |(roundDiv num den : ℤ) * den - num| ≤ den := by
  have hdiv : (den : ℤ) * (num / den : ℕ) + (num % den : ℕ) = num := by
    exact_mod_cast Nat.div_add_mod num den
  have hlt : num % den < den := Nat.mod_lt num hden
  have down : ((num / den : ℕ) : ℤ) * den - num = -(num % den : ℕ) := by linarith
  have up : ((num / den + 1 : ℕ) : ℤ) * den - num = den - (num % den : ℕ) := by
    push_cast at hdiv ⊢
    linarith
  have hdown : |((num / den : ℕ) : ℤ) * den - num| = (num % den : ℕ) := by
    rw [down, abs_neg, Nat.abs_cast]
  have hup : |((num / den + 1 : ℕ) : ℤ) * den - num| = den - (num % den : ℕ) := by
    rw [up, abs_of_nonneg (by omega)]
  unfold roundDiv
  dsimp only
  split_ifs with h₁ h₂ h₃
  · rw [hdown]; omega
  · rw [hup]; omega
  · rw [hdown]; omega
  · rw [hup]; omega

/-! ### The last place -/

/-- Beside its last place a number has all 53 digits, unless it is too small for that. -/
theorem two_pow_le_of_lastPlace {num den : ℕ} (hnum : 0 < num)
    (hden : den.log2 < num.log2 + 1022) :
    den * 2 ^ (lastPlace num den).toNat * 2 ^ 52 ≤ num * 2 ^ (-lastPlace num den).toNat := by
  have hn : 2 ^ num.log2 ≤ num := Nat.log2_self_le hnum.ne'
  have hd : den < 2 ^ (den.log2 + 1) := Nat.lt_log2_self
  -- the exponent before it is corrected, which is in the range of doubles
  obtain ⟨e, he⟩ : ∃ e : ℤ, e = num.log2 - den.log2 - 52 := ⟨_, rfl⟩
  have hplace : lastPlace num den =
      if num * 2 ^ (-e).toNat < den * 2 ^ e.toNat * 2 ^ 52 then e - 1 else e := by
    unfold lastPlace
    simp only [Int.ofNat_eq_natCast, ← he, Nat.pow_eq, decide_eq_true_eq]
    split <;> omega
  rw [hplace]
  split_ifs with hshort
  · rcases le_or_gt e 0 with h | h
    · have h₁ : (e - 1).toNat = 0 := by omega
      have h₂ : (-(e - 1)).toNat + num.log2 = den.log2 + 1 + 52 := by omega
      calc den * 2 ^ (e - 1).toNat * 2 ^ 52
          ≤ 2 ^ (den.log2 + 1) * 2 ^ 52 := by
            rw [h₁, pow_zero, mul_one]
            exact Nat.mul_le_mul_right _ hd.le
        _ = 2 ^ num.log2 * 2 ^ (-(e - 1)).toNat := by rw [← pow_add, ← pow_add]; congr 1; omega
        _ ≤ num * 2 ^ (-(e - 1)).toNat := Nat.mul_le_mul_right _ hn
    · have h₁ : (-(e - 1)).toNat = 0 := by omega
      have h₂ : num.log2 = den.log2 + 1 + (e - 1).toNat + 52 := by omega
      calc den * 2 ^ (e - 1).toNat * 2 ^ 52
          ≤ 2 ^ (den.log2 + 1) * 2 ^ (e - 1).toNat * 2 ^ 52 :=
            Nat.mul_le_mul_right _ (Nat.mul_le_mul_right _ hd.le)
        _ = 2 ^ num.log2 := by rw [← pow_add, ← pow_add, h₂]
        _ ≤ num * 2 ^ (-(e - 1)).toNat := by rw [h₁, pow_zero, mul_one]; exact hn
  · exact Nat.le_of_not_lt hshort

theorem lastPlace_of_tiny {num den : ℕ} (h : num.log2 + 1022 ≤ den.log2) :
    lastPlace num den = -1074 := by
  unfold lastPlace
  simp only [Int.ofNat_eq_natCast]
  split <;> omega

theorem lastPlace_nonpos {num den : ℕ} (h : num.log2 ≤ 52) : lastPlace num den ≤ 0 := by
  unfold lastPlace
  simp only [Int.ofNat_eq_natCast]
  split <;> omega

/-! ### The nearest double -/

/-- The nearest double of a positive number, with all powers as quotients. -/
theorem nearest_of_pos {x : ℚ} (hx : 0 < x) :
    nearest x =
      roundDiv (x.num.natAbs * 2 ^ (-lastPlace x.num.natAbs x.den).toNat)
          (x.den * 2 ^ (lastPlace x.num.natAbs x.den).toNat)
        * (2 ^ (lastPlace x.num.natAbs x.den).toNat
          / 2 ^ (-lastPlace x.num.natAbs x.den).toNat) := by
  have hnum : 0 < x.num := Rat.num_pos.mpr hx
  unfold nearest
  rw [if_neg hnum.ne']
  simp only [not_lt.mpr hnum.le, if_false, Nat.pow_eq, Rat.mkRat_eq_div]
  push_cast
  ring

theorem nearest_nonpos {x : ℚ} (hx : x ≤ 0) : nearest x ≤ 0 := by
  rcases eq_or_lt_of_le (Rat.num_nonpos.mpr hx) with hnum | hnum
  · simp [nearest, hnum]
  · unfold nearest
    dsimp only
    rw [if_neg hnum.ne, if_pos hnum, Rat.mkRat_eq_div, Left.neg_nonpos_iff]
    positivity

theorem nearest_nonneg {x : ℚ} (hx : 0 ≤ x) : 0 ≤ nearest x := by
  rcases hx.eq_or_lt with rfl | hpos
  · exact le_rfl
  · rw [nearest_of_pos hpos]
    positivity

/-- One unit of the last place of a number. -/
def unit (x : ℚ) : ℚ :=
  2 ^ (lastPlace x.num.natAbs x.den).toNat / 2 ^ (-lastPlace x.num.natAbs x.den).toNat

theorem unit_pos (x : ℚ) : 0 < unit x := by
  unfold unit
  positivity

/-- Scaled to its last place, a positive number is the quotient of these two. -/
theorem eq_mul_unit {x : ℚ} (hx : 0 < x) :
    x = ((x.num.natAbs * 2 ^ (-lastPlace x.num.natAbs x.den).toNat : ℕ) : ℚ) /
      ((x.den * 2 ^ (lastPlace x.num.natAbs x.den).toNat : ℕ) : ℚ) * unit x := by
  have hxq : x = (x.num.natAbs : ℚ) / x.den := by
    rw [Nat.cast_natAbs, abs_of_pos (Rat.num_pos.mpr hx)]
    exact (Rat.num_div_den x).symm
  have hdenq : (x.den : ℚ) ≠ 0 := by exact_mod_cast x.den_nz
  unfold unit
  push_cast
  nth_rewrite 1 [hxq]
  field_simp

/-- It is this quotient that is rounded, and it has all 53 digits, unless the number is too small
for that. -/
theorem exists_quotient {x : ℚ} (hx : 0 < x) :
    ∃ a b : ℕ, 0 < b ∧ x = a / b * unit x ∧ nearest x = roundDiv a b * unit x ∧
      (x.den.log2 < x.num.natAbs.log2 + 1022 → b * 2 ^ 52 ≤ a) :=
  ⟨_, _, Nat.mul_pos x.den_pos (Nat.two_pow_pos _), eq_mul_unit hx, nearest_of_pos hx,
    two_pow_le_of_lastPlace (Int.natAbs_pos.mpr (Rat.num_pos.mpr hx).ne')⟩

/-- Rounding moves a number by at most half a unit of its last place. -/
theorem abs_nearest_sub_le_unit {x : ℚ} (hx : 0 < x) : |nearest x - x| ≤ unit x / 2 := by
  have hupos := unit_pos x
  obtain ⟨a, b, hbpos, hxu, hnear, -⟩ := exists_quotient hx
  have hbq : (0 : ℚ) < b := by exact_mod_cast hbpos
  have hround : |(roundDiv a b : ℚ) - a / b| ≤ 1 / 2 := by
    have h := two_mul_abs_roundDiv_sub_le a hbpos
    have hq : 2 * |(roundDiv a b : ℚ) * b - a| ≤ b := by exact_mod_cast h
    have hsplit : |(roundDiv a b : ℚ) * b - a| = |(roundDiv a b : ℚ) - a / b| * b := by
      rw [← abs_of_pos hbq, ← abs_mul, abs_of_pos hbq, sub_mul, div_mul_cancel₀ _ hbq.ne']
    rw [hsplit] at hq
    nlinarith
  calc |nearest x - x| = |(roundDiv a b : ℚ) - a / b| * unit x := by
        nth_rewrite 2 [hxu]
        rw [hnear, ← sub_mul, abs_mul, abs_of_pos hupos]
    _ ≤ 1 / 2 * unit x := mul_le_mul_of_nonneg_right hround hupos.le
    _ = unit x / 2 := by ring

/-- **The relative error of rounding.** A number that is not tiny is moved by at most one part in
`2 ^ 53`. -/
theorem abs_nearest_sub_le {x : ℚ} (hx : 0 < x)
    (hden : x.den.log2 < x.num.natAbs.log2 + 1022) : |nearest x - x| ≤ x / 2 ^ 53 := by
  have hupos := unit_pos x
  obtain ⟨a, b, hbpos, hxu, -, hfull⟩ := exists_quotient hx
  have hbq : (0 : ℚ) < b := by exact_mod_cast hbpos
  have hdigits : (2 : ℚ) ^ 52 ≤ a / b := by
    rw [le_div_iff₀ hbq]
    calc (2 : ℚ) ^ 52 * b = (b * 2 ^ 52 : ℕ) := by push_cast; ring
      _ ≤ a := by exact_mod_cast hfull hden
  calc |nearest x - x| ≤ unit x / 2 := abs_nearest_sub_le_unit hx
    _ = 2 ^ 52 * unit x / 2 ^ 53 := by ring
    _ ≤ a / b * unit x / 2 ^ 53 := by
        have := mul_le_mul_of_nonneg_right hdigits hupos.le
        gcongr
    _ = x / 2 ^ 53 := by rw [← hxu]

/-- The error of rounding, tiny numbers included. -/
theorem abs_nearest_sub_le_add_one {x : ℚ} (hx : 0 ≤ x) : |nearest x - x| ≤ (x + 1) / 2 ^ 53 := by
  rcases hx.eq_or_lt with rfl | hpos
  · have hzero : nearest 0 = 0 := rfl
    rw [hzero, sub_self, abs_zero]
    positivity
  rcases lt_or_ge x.den.log2 (x.num.natAbs.log2 + 1022) with hden | htiny
  · refine (abs_nearest_sub_le hpos hden).trans ?_
    gcongr
    linarith
  · have hunit : unit x = 1 / 2 ^ 1074 := by
      have hup : (-1074 : ℤ).toNat = 0 := rfl
      have hdown : (- -1074 : ℤ).toNat = 1074 := rfl
      rw [unit, lastPlace_of_tiny htiny, hup, hdown, pow_zero]
    calc |nearest x - x| ≤ unit x / 2 := abs_nearest_sub_le_unit hpos
      _ ≤ unit x := half_le_self (unit_pos x).le
      _ = 1 / 2 ^ 1074 := hunit
      _ ≤ 1 / 2 ^ 53 := one_div_le_one_div_of_le (by positivity)
          (pow_le_pow_right₀ (by norm_num) (by norm_num))
      _ ≤ (x + 1) / 2 ^ 53 := by
          gcongr
          linarith

/-- Whole numbers of at most 53 digits are doubles. -/
theorem nearest_natCast {n : ℕ} (hn : n < 2 ^ 53) : nearest (n : ℚ) = n := by
  rcases Nat.eq_zero_or_pos n with rfl | hpos
  · rfl
  · have hlog : n.log2 ≤ 52 := by
      have := (Nat.log2_lt hpos.ne').mpr hn
      omega
    have hplace : (lastPlace n 1).toNat = 0 := by
      have hle : lastPlace n 1 ≤ 0 := lastPlace_nonpos hlog
      omega
    rw [nearest_of_pos (by exact_mod_cast hpos)]
    simp only [Rat.num_natCast, Int.natAbs_natCast, Rat.den_natCast, hplace, pow_zero, mul_one,
      roundDiv_one]
    push_cast
    field_simp

/-! ### Whole numbers -/

theorem truncate_of_nonneg {x : ℚ} (hx : 0 ≤ x) : truncate x = ⌊x⌋ := by
  rw [truncate, Rat.floor_def', Int.tdiv_eq_ediv_of_nonneg (Rat.num_nonneg.mpr hx)]

/-- Rounding to a whole number moves a number by at most a half. -/
theorem abs_roundEven_sub_le {x : ℚ} (hx : 0 ≤ x) : |(roundEven x : ℚ) - x| ≤ 1 / 2 := by
  have hnum : 0 ≤ x.num := Rat.num_nonneg.mpr hx
  have hdenq : (0 : ℚ) < x.den := by exact_mod_cast x.den_pos
  have hround : roundEven x = (roundDiv x.num.natAbs x.den : ℤ) := by
    rw [roundEven]
    exact if_neg (not_lt.mpr hnum)
  have h := two_mul_abs_roundDiv_sub_le x.num.natAbs x.den_pos
  have hq : 2 * |(roundEven x : ℚ) * x.den - x.num| ≤ x.den := by
    rw [hround]
    rw [Int.natAbs_of_nonneg hnum] at h
    exact_mod_cast h
  have hsplit : (roundEven x : ℚ) * x.den - x.num = ((roundEven x : ℚ) - x) * x.den := by
    rw [sub_mul, Rat.mul_den_eq_num]
  rw [hsplit, abs_mul, abs_of_pos hdenq] at hq
  nlinarith

/-! ### Microseconds against seconds -/

/-- A number of microseconds in seconds is far from tiny. -/
theorem log2_den_seconds_lt (age : ℤ) : (mkRat age 1000000).den.log2 < 20 := by
  have hdvd : (mkRat age 1000000).den ∣ 1000000 := by
    rw [Rat.mkRat_eq_divInt]
    exact_mod_cast Rat.den_dvd age 1000000
  exact (Nat.log2_lt (mkRat age 1000000).den_nz).mpr
    (lt_of_le_of_lt (Nat.le_of_dvd (by norm_num) hdvd) (by norm_num))

/-- **No rounding shows.** A number of microseconds, as rounded seconds, exceeds a limit of whole
seconds exactly when it exceeds it in microseconds. -/
theorem lt_nearest_seconds_iff {n : ℕ} (hn : n ≤ 2 ^ 32) (age : ℤ) :
    (n : ℚ) < nearest (mkRat age 1000000) ↔ (n : ℤ) * 1000000 < age := by
  have hx : mkRat age 1000000 = (age : ℚ) / 1000000 := by rw [Rat.mkRat_eq_div]; norm_num
  have hnq : (n : ℚ) ≤ 2 ^ 32 := by exact_mod_cast hn
  rcases le_or_gt age 0 with hage | hage
  · have hneg : mkRat age 1000000 ≤ 0 := by
      rw [hx]
      have : (age : ℚ) ≤ 0 := by exact_mod_cast hage
      linarith
    have := nearest_nonpos hneg
    have hn0 : (0 : ℚ) ≤ n := Nat.cast_nonneg n
    constructor
    · intro h; linarith
    · intro h; omega
  · have hpos : 0 < mkRat age 1000000 := by
      rw [hx]
      have : (0 : ℚ) < age := by exact_mod_cast hage
      linarith
    have hden := log2_den_seconds_lt age
    have herr := abs_le.mp (abs_nearest_sub_le hpos (by omega))
    rw [hx] at herr ⊢
    rcases lt_trichotomy age (n * 1000000) with h | h | h
    · have hq : (age : ℚ) + 1 ≤ n * 1000000 := by exact_mod_cast h
      constructor
      · intro hlt; linarith [herr.2]
      · intro hlt; omega
    · have hq : (age : ℚ) / 1000000 = n := by
        have : (age : ℚ) = n * 1000000 := by exact_mod_cast h
        rw [this]; ring
      rw [hq, nearest_natCast (lt_of_le_of_lt hn (by norm_num))]
      constructor
      · intro hlt; exact absurd hlt (lt_irrefl _)
      · intro hlt; omega
    · have hq : (n : ℚ) * 1000000 + 1 ≤ age := by exact_mod_cast h
      constructor
      · intro _; exact h
      · intro _; linarith [herr.1]

end ChainRelay.Decimal
