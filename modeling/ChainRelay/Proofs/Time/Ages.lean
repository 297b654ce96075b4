import ChainRelay.Confirmation.Tracker
import ChainRelay.Proofs.Decimal.Doubles
import ChainRelay.Time.Calendar

/-!
# Ages and their limits

What was sent long ago is given up when its age exceeds a limit. Both are compared as floating
numbers of seconds. Limits are doubles, and no age is rounded past a double, so that nothing is
given up early. It is given up late by the error of rounding at most, which for limits of whole
seconds shows after some centuries only.

## Main definitions

* `secondsBetween` — the exact age
* `Quantity.Exceeded` — a number of seconds is strictly greater than a limit

## Main results

* `Quantity.olderThan_iff` — an age is older than a limit if the limit is exceeded after rounding
* `Quantity.Exceeded.of_nearest` — a limit that is exceeded after rounding was exceeded before
* `Quantity.Exceeded.nearest` — one that is exceeded by more than the error of rounding is exceeded
  after it
* `Quantity.exceeded_nearest_iff` — for limits of whole seconds, up to more than a century, rounding
  does not show
-/

namespace ChainRelay

namespace Decimal

/-- Microseconds that are read as seconds are moved by at most one part in `2 ^ 53`. -/
theorem abs_nearest_seconds_sub_le (age : ℤ) :
    |nearest (mkRat age 1000000) - mkRat age 1000000| ≤ |mkRat age 1000000| / 2 ^ 53 := by
  have hpositive (n : ℤ) (hn : 0 < mkRat n 1000000) :
      |nearest (mkRat n 1000000) - mkRat n 1000000| ≤ |mkRat n 1000000| / 2 ^ 53 := by
    have hden := log2_den_seconds_lt n
    rw [abs_of_pos hn]
    exact abs_nearest_sub_le hn (by omega)
  rcases lt_trichotomy (mkRat age 1000000) 0 with hneg | hzero | hpos
  · have hflip : mkRat age 1000000 = -mkRat (-age) 1000000 := by rw [Rat.neg_mkRat, neg_neg]
    have hmirrored := hpositive (-age) (by rw [hflip] at hneg; exact neg_neg_iff_pos.mp hneg)
    rw [hflip, nearest_neg, abs_neg, ← neg_sub_neg, neg_neg, neg_neg, abs_sub_comm]
    exact hmirrored
  · have hstill : nearest 0 = 0 := rfl
    rw [hzero, hstill, sub_zero, abs_zero, zero_div]
  · exact hpositive age hpos

/-- What is beyond a limit by more than that is beyond it after rounding. -/
theorem lt_nearest_seconds_of_lt_sub {y : ℚ} {age : ℤ}
    (h : y < mkRat age 1000000 - |mkRat age 1000000| / 2 ^ 53) :
    y < nearest (mkRat age 1000000) := by
  have herr := (abs_le.mp (abs_nearest_seconds_sub_le age)).1
  linarith

end Decimal

/-! ### Limits -/

namespace Quantity

/-- A number of seconds is strictly greater than a limit. Every number exceeds the negative infinity,
and none exceeds the positive one or what is no number. -/
def Exceeded (limit : Quantity) (seconds : ℚ) : Prop :=
  match limit with
  | whole n => n < seconds
  | real x =>
    match Decimal.ofFloat? x with
    | some exact => exact < seconds
    | none => x < 0

variable {limit : Quantity}

theorem olderThan_iff {age : ℤ} :
    olderThan age limit = true ↔ limit.Exceeded (Decimal.nearest (mkRat age 1000000)) := by
  cases limit with
  | whole n => exact decide_eq_true_iff
  | real x =>
    simp only [olderThan, Exceeded]
    cases Decimal.ofFloat? x <;> exact decide_eq_true_iff

/-- What exceeds a limit after rounding exceeded it before. A limit of whole seconds may have more
digits than a double, but it is out of reach then. -/
theorem Exceeded.of_nearest {seconds : ℚ} (hseconds : |seconds| ≤ 2 ^ 52)
    (h : limit.Exceeded (Decimal.nearest seconds)) : limit.Exceeded seconds := by
  cases limit with
  | whole n =>
    change (n : ℚ) < Decimal.nearest seconds at h
    change (n : ℚ) < seconds
    rcases lt_or_ge |n| (2 ^ 53) with hn | hn
    · exact Decimal.lt_of_lt_nearest (Decimal.isDouble_intCast hn) h
    obtain ⟨hlow, hhigh⟩ := abs_le.mp hseconds
    have hceiling : Decimal.IsDouble ((2 ^ 52 : ℤ) : ℚ) := Decimal.isDouble_intCast (by norm_num)
    have hrounded := Decimal.nearest_le hceiling (x := seconds) (by exact_mod_cast hhigh)
    rcases le_abs'.mp hn with hn | hn
    · have hnq : (n : ℚ) ≤ -2 ^ 53 := by exact_mod_cast hn
      linarith
    · have hnq : (2 : ℚ) ^ 53 ≤ n := by exact_mod_cast hn
      push_cast at hrounded
      linarith
  | real x =>
    rw [Exceeded] at h ⊢
    split at h
    · rename_i exact hexact
      exact Decimal.lt_of_lt_nearest (Decimal.isDouble_of_ofFloat? hexact) h
    · exact h

/-- What exceeds a limit by more than the error of rounding exceeds it after rounding. -/
theorem Exceeded.nearest {age : ℤ}
    (h : limit.Exceeded (mkRat age 1000000 - |mkRat age 1000000| / 2 ^ 53)) :
    limit.Exceeded (Decimal.nearest (mkRat age 1000000)) := by
  cases limit with
  | whole n => exact Decimal.lt_nearest_seconds_of_lt_sub h
  | real x =>
    rw [Exceeded] at h ⊢
    split at h
    · exact Decimal.lt_nearest_seconds_of_lt_sub h
    · exact h

/-- Limits of whole seconds, up to more than a century, are exceeded after rounding exactly if they
were exceeded before. -/
theorem exceeded_nearest_iff {n : ℕ} (hn : n ≤ 2 ^ 32) (age : ℤ) :
    (whole n).Exceeded (Decimal.nearest (mkRat age 1000000)) ↔
      (whole n).Exceeded (mkRat age 1000000) := by
  simp only [Exceeded, Int.cast_natCast]
  rw [Decimal.lt_nearest_seconds_iff hn, Rat.mkRat_eq_div, Nat.cast_ofNat,
    lt_div_iff₀ (by norm_num)]
  exact_mod_cast Iff.rfl

end Quantity

/-! ### Ages -/

/-- The seconds from one instant to another. -/
def secondsBetween (sentAt now : Instant) : ℚ := mkRat (now - sentAt) 1000000

/-- Two dates are less than `2 ^ 52` seconds apart. -/
theorem abs_secondsBetween_le {sentAt now : Instant} (hsent : sentAt.isInCalendar = true)
    (hnow : now.isInCalendar = true) : |secondsBetween sentAt now| ≤ 2 ^ 52 := by
  rw [Instant.isInCalendar, Bool.and_eq_true, decide_eq_true_iff, decide_eq_true_iff] at hsent hnow
  have hspan (a b : ℤ) (ha : -62135596800000000 ≤ a ∧ a < 253402300800000000)
      (hb : -62135596800000000 ≤ b ∧ b < 253402300800000000) : |b - a| ≤ 2 ^ 52 * 1000000 :=
    abs_le.mpr ⟨by omega, by omega⟩
  have hage : |((now - sentAt : ℤ) : ℚ)| ≤ 2 ^ 52 * 1000000 := by
    rw [← Int.cast_abs]
    exact_mod_cast hspan sentAt now hsent hnow
  have hpos : (0 : ℚ) < 1000000 := by norm_num
  rw [secondsBetween, Rat.mkRat_eq_div, Nat.cast_ofNat, abs_div, abs_of_pos hpos, div_le_iff₀ hpos]
  exact hage

end ChainRelay
