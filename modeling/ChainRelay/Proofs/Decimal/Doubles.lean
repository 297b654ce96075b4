import ChainRelay.Proofs.Decimal.Rounding
import Mathlib.Algebra.Order.Field.Power

/-!
# No number is rounded past a double

Rounding keeps doubles where they are and keeps the order, so that what does not exceed a double
does not exceed it after rounding either. A comparison of a rounded number with a double can go
wrong in one way only: a number beyond the double may be rounded to it.

## Main definitions

* `IsDouble` — the numbers that double precision can hold, as far as their last place goes

## Main results

* `isDouble_of_ofFloat?` — finite floating numbers are doubles
* `IsDouble.multiple_or_small` — a double is a multiple of the last place of a number, or smaller
  than all numbers with that last place
* `nearest_le` — no number is rounded past a double above it
* `lt_of_lt_nearest` — what exceeds a double after rounding exceeded it before
-/

namespace ChainRelay.Decimal

/-- A number of at most 53 binary digits, the last of them not below the last place of all doubles.
Like that of `nearest` its range is not limited from above. -/
def IsDouble (x : ℚ) : Prop := ∃ m e : ℤ, |m| < 2 ^ 53 ∧ -1074 ≤ e ∧ x = m * 2 ^ e

theorem IsDouble.neg {x : ℚ} (h : IsDouble x) : IsDouble (-x) := by
  obtain ⟨m, e, hm, he, rfl⟩ := h
  exact ⟨-m, e, by rwa [abs_neg], he, by rw [Int.cast_neg, neg_mul]⟩

theorem isDouble_intCast {n : ℤ} (h : |n| < 2 ^ 53) : IsDouble n :=
  ⟨n, 0, h, by norm_num, by rw [zpow_zero, mul_one]⟩

/-- Powers of two as quotients of natural powers. -/
theorem two_zpow_eq (e : ℤ) : (2 : ℚ) ^ e = 2 ^ e.toNat / 2 ^ (-e).toNat := by
  have hsplit : e = e.toNat - (-e).toNat := by omega
  nth_rewrite 1 [hsplit]
  rw [zpow_sub₀ two_ne_zero, zpow_natCast, zpow_natCast]

theorem isDouble_mkRat {m : ℕ} {e : ℤ} (hm : m < 2 ^ 53) (he : -1074 ≤ e) :
    IsDouble (mkRat (m * Nat.pow 2 e.toNat) (Nat.pow 2 (-e).toNat)) := by
  refine ⟨m, e, by rw [Nat.abs_cast]; exact_mod_cast hm, he, ?_⟩
  rw [Rat.mkRat_eq_div, two_zpow_eq]
  push_cast [Nat.pow_eq]
  ring

/-- **The finite floating numbers are doubles.** Nothing about the bits is used but how many belong
to the fraction. -/
theorem isDouble_of_ofFloat? {x : Float} {y : ℚ} (h : ofFloat? x = some y) : IsDouble y := by
  have hfraction : x.toBits.toNat % Nat.pow 2 52 < 2 ^ 52 := Nat.mod_lt _ (by norm_num)
  unfold ofFloat? at h
  dsimp only at h
  generalize x.toBits.toNat % Nat.pow 2 52 = fraction at h hfraction
  generalize x.toBits.toNat / Nat.pow 2 52 % Nat.pow 2 11 = biased at h
  split at h
  · cases h
  · have hmagnitude := isDouble_mkRat
      (m := if biased = 0 then fraction else fraction + Nat.pow 2 52)
      (e := if biased = 0 then -1074 else Int.ofNat biased - 1075)
      (by rw [Nat.pow_eq]; split <;> omega) (by rw [Int.ofNat_eq_natCast]; split <;> omega)
    rw [← Option.some.inj h]
    split
    · exact hmagnitude.neg
    · exact hmagnitude

/-! ### Rounding and multiples of the last place -/

theorem nearest_neg (x : ℚ) : nearest (-x) = -nearest x := by
  unfold nearest
  simp only [Rat.neg_num, Rat.neg_den, Int.natAbs_neg]
  rcases lt_trichotomy x.num 0 with h | h | h
  · have h' : 0 < -x.num := by omega
    rw [if_neg h'.ne', if_neg h'.not_gt, if_neg h.ne, if_pos h, neg_neg]
  · rw [h, neg_zero, if_pos rfl, neg_zero]
  · have h' : -x.num < 0 := by omega
    rw [if_neg h'.ne, if_pos h', if_neg h.ne', if_neg h.not_gt]

theorem unit_eq_zpow (x : ℚ) : unit x = 2 ^ lastPlace x.num.natAbs x.den :=
  (two_zpow_eq _).symm

/-- A quotient is not rounded past a whole number. -/
theorem roundDiv_le {num den : ℕ} (hden : 0 < den) {k : ℤ} (h : (num : ℤ) ≤ k * den) :
    (roundDiv num den : ℤ) ≤ k := by
  have herr := two_mul_abs_roundDiv_sub_le num hden
  have hle := le_abs_self ((roundDiv num den : ℤ) * den - num)
  by_contra hlt
  have hnext : (k + 1) * den ≤ (roundDiv num den : ℤ) * den :=
    Int.mul_le_mul_of_nonneg_right (by omega) (by omega)
  rw [add_mul, one_mul] at hnext
  omega

theorem le_roundDiv {num den : ℕ} (hden : 0 < den) {k : ℤ} (h : k * den ≤ (num : ℤ)) :
    k ≤ roundDiv num den := by
  have herr := two_mul_abs_roundDiv_sub_le num hden
  have hle := neg_abs_le ((roundDiv num den : ℤ) * den - num)
  by_contra hlt
  have hnext : (roundDiv num den + 1 : ℤ) * den ≤ k * den :=
    Int.mul_le_mul_of_nonneg_right (by omega) (by omega)
  rw [add_mul, one_mul] at hnext
  omega

/-- A multiple of the last place is not passed. -/
theorem nearest_le_mul_unit {x : ℚ} (hx : 0 < x) {k : ℤ} (h : x ≤ k * unit x) :
    nearest x ≤ k * unit x := by
  obtain ⟨a, b, hb, hxu, hround, -⟩ := exists_quotient hx
  have hbq : (0 : ℚ) < b := by exact_mod_cast hb
  nth_rewrite 1 [hxu] at h
  rw [mul_le_mul_iff_left₀ (unit_pos x), div_le_iff₀ hbq] at h
  rw [hround, mul_le_mul_iff_left₀ (unit_pos x)]
  exact_mod_cast roundDiv_le hb (by exact_mod_cast h)

theorem mul_unit_le_nearest {x : ℚ} (hx : 0 < x) {k : ℤ} (h : k * unit x ≤ x) :
    k * unit x ≤ nearest x := by
  obtain ⟨a, b, hb, hxu, hround, -⟩ := exists_quotient hx
  have hbq : (0 : ℚ) < b := by exact_mod_cast hb
  nth_rewrite 2 [hxu] at h
  rw [mul_le_mul_iff_left₀ (unit_pos x), le_div_iff₀ hbq] at h
  rw [hround, mul_le_mul_iff_left₀ (unit_pos x)]
  exact_mod_cast le_roundDiv hb (by exact_mod_cast h)

theorem log2_lt_of_lastPlace {num den : ℕ} (h : -1074 < lastPlace num den) :
    den.log2 < num.log2 + 1022 := by
  by_contra htiny
  rw [lastPlace_of_tiny (not_lt.mp htiny)] at h
  exact lt_irrefl _ h

/-- A double is a multiple of the last place of a positive number, or all its digits are below the
first digit of that number. -/
theorem IsDouble.multiple_or_small {y : ℚ} (hy : IsDouble y) {x : ℚ} (hx : 0 < x) :
    (∃ k : ℤ, y = k * unit x) ∨ (y < (2 ^ 52 : ℤ) * unit x ∧ (2 ^ 52 : ℤ) * unit x ≤ x) := by
  obtain ⟨m, e, hm, he, rfl⟩ := hy
  obtain ⟨l, hl⟩ : ∃ l, l = lastPlace x.num.natAbs x.den := ⟨_, rfl⟩
  have hunit : unit x = 2 ^ l := by rw [unit_eq_zpow, hl]
  rcases le_or_gt l e with hle | hlt
  · refine .inl ⟨m * 2 ^ (e - l).toNat, ?_⟩
    have hsplit : e = (e - l).toNat + l := by omega
    rw [hunit]
    nth_rewrite 1 [hsplit]
    rw [zpow_add₀ two_ne_zero, zpow_natCast]
    push_cast
    ring
  · -- the last place of `x` is above that of `y`, so it is not the least one, and `x` has all digits
    obtain ⟨a, b, hb, hxu, -, hfull⟩ := exists_quotient hx
    have hdigits := hfull (log2_lt_of_lastPlace (by omega))
    have hbq : (0 : ℚ) < b := by exact_mod_cast hb
    refine .inr ⟨?_, ?_⟩
    · have hmq : (m : ℚ) < 2 ^ 53 := by exact_mod_cast lt_of_le_of_lt (le_abs_self m) hm
      calc (m : ℚ) * 2 ^ e < 2 ^ 53 * 2 ^ e := mul_lt_mul_of_pos_right hmq (by positivity)
        _ ≤ 2 ^ 53 * 2 ^ (l - 1) := by
            gcongr
            · norm_num
            · omega
        _ = (2 ^ 52 : ℤ) * unit x := by
            rw [hunit, zpow_sub_one₀ two_ne_zero]
            push_cast
            ring
    · nth_rewrite 2 [hxu]
      rw [mul_le_mul_iff_left₀ (unit_pos x), le_div_iff₀ hbq, mul_comm]
      exact_mod_cast hdigits

/-! ### Doubles stop rounding -/

theorem nearest_le_of_pos {x y : ℚ} (hx : 0 < x) (hy : IsDouble y) (h : x ≤ y) :
    nearest x ≤ y := by
  rcases hy.multiple_or_small hx with ⟨k, rfl⟩ | ⟨hsmall, hlarge⟩
  · exact nearest_le_mul_unit hx h
  · exact absurd (hsmall.trans_le hlarge) h.not_gt

theorem le_nearest_of_pos {x y : ℚ} (hx : 0 < x) (hy : IsDouble y) (h : y ≤ x) :
    y ≤ nearest x := by
  rcases hy.multiple_or_small hx with ⟨k, rfl⟩ | ⟨hsmall, hlarge⟩
  · exact mul_unit_le_nearest hx h
  · exact hsmall.le.trans (mul_unit_le_nearest hx hlarge)

/-- **No number is rounded past a double above it.** -/
theorem nearest_le {x y : ℚ} (hy : IsDouble y) (h : x ≤ y) : nearest x ≤ y := by
  rcases lt_trichotomy x 0 with hneg | rfl | hpos
  · have hle := le_nearest_of_pos (neg_pos.mpr hneg) hy.neg (neg_le_neg h)
    rw [nearest_neg] at hle
    exact neg_le_neg_iff.mp hle
  · exact h
  · exact nearest_le_of_pos hpos hy h

/-- **What exceeds a double after rounding exceeded it before.** -/
theorem lt_of_lt_nearest {x y : ℚ} (hy : IsDouble y) (h : y < nearest x) : y < x := by
  by_contra hle
  exact absurd (nearest_le hy (not_lt.mp hle)) h.not_ge

end ChainRelay.Decimal
