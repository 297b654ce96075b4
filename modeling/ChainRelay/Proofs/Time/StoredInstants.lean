import ChainRelay.Proofs.Decimal.Rounding
import ChainRelay.Time.Calendar

/-!
# How well an instant is stored

Instants are stored as whole milliseconds and read back by way of floating numbers of seconds. What
is read is the instant up to two milliseconds.

## Main results

* `Instant.abs_ofMillis_toMillis_sub_le` — what is read of an instant that was stored
* `Instant.ofStored_eq_ok` — reading gives this instant, if it gives one
-/

namespace ChainRelay.Instant

open Decimal

/-- What is read is the instant that the milliseconds denote. -/
theorem ofStored_eq_ok {ms : ℤ} {t : Instant} (h : ofStored ms = .ok t) : t = ofMillis ms := by
  rw [ofStored] at h
  dsimp only at h
  split at h
  · cases h
  split at h
  · cases h
  split at h
  · cases h
  split at h
  · exact (Except.ok.inj h).symm
  · cases h

/-- The milliseconds of an instant. -/
theorem abs_toMillis_sub_le {t : Instant} (hfirst : 0 ≤ t) (hlast : t < calendar.2) :
    0 ≤ t.toMillis ∧ |(t.toMillis : ℚ) - t / 1000| ≤ 6 / 5 := by
  have ht : (0 : ℚ) ≤ t := by exact_mod_cast hfirst
  have ht' : (t : ℚ) < 253402300800000000 := by exact_mod_cast hlast
  obtain ⟨x, hx⟩ : ∃ x : ℚ, x = t / 1000000 := ⟨_, rfl⟩
  have hseconds : t.seconds = nearest x := by
    rw [seconds, hx, Rat.mkRat_eq_div]
    norm_num
  have hx0 : 0 ≤ x := by rw [hx]; positivity
  have hx1 : x < 253402300800 := by rw [hx]; linarith
  have hsecond := abs_le.mp (abs_nearest_sub_le_add_one hx0)
  have hs0 := nearest_nonneg hx0
  have hscaled : 0 ≤ nearest x * 1000 := mul_nonneg hs0 (by norm_num)
  have hthousand := abs_le.mp (abs_nearest_sub_le_add_one hscaled)
  have hy0 := nearest_nonneg hscaled
  rw [toMillis, hseconds, truncate_of_nonneg hy0]
  refine ⟨Int.floor_nonneg.mpr hy0, ?_⟩
  have hfloor := Int.floor_le (nearest (nearest x * 1000))
  have hfloor' := Int.lt_floor_add_one (nearest (nearest x * 1000))
  rw [abs_le]
  constructor <;> linarith [hsecond.1, hsecond.2, hthousand.1, hthousand.2]

/-- The instant of milliseconds. -/
theorem abs_ofMillis_sub_le {ms : ℤ} (hfirst : 0 ≤ ms) (hlast : ms ≤ 253402300800001) :
    |(ofMillis ms : ℚ) - ms * 1000| ≤ 200 := by
  have hms : (0 : ℚ) ≤ ms := by exact_mod_cast hfirst
  have hms' : (ms : ℚ) ≤ 253402300800001 := by exact_mod_cast hlast
  obtain ⟨x, hx⟩ : ∃ x : ℚ, x = ms / 1000 := ⟨_, rfl⟩
  have hseconds : nearest (mkRat ms 1000) = nearest x := by
    rw [hx, Rat.mkRat_eq_div]
    norm_num
  have hx0 : 0 ≤ x := by rw [hx]; positivity
  have hsecond := abs_le.mp (abs_nearest_sub_le_add_one hx0)
  -- the whole seconds and the rest are converted apart
  have hsplit : ofMillis ms = ⌊nearest x⌋ * 1000000 +
      roundEven (nearest ((nearest x - ⌊nearest x⌋) * 1000000)) := by
    rw [ofMillis, hseconds, truncate_of_nonneg (nearest_nonneg hx0)]
  obtain ⟨rest, hrest⟩ : ∃ rest : ℚ, rest = (nearest x - ⌊nearest x⌋) * 1000000 := ⟨_, rfl⟩
  have hrest0 : 0 ≤ rest := by
    rw [hrest]
    linarith [Int.floor_le (nearest x)]
  have hrest1 : rest ≤ 1000000 := by
    rw [hrest]
    linarith [Int.lt_floor_add_one (nearest x)]
  have hnear := abs_le.mp (abs_nearest_sub_le_add_one hrest0)
  have hround := abs_le.mp (abs_roundEven_sub_le (nearest_nonneg hrest0))
  rw [hsplit, ← hrest]
  push_cast
  have hwhole : (⌊nearest x⌋ : ℚ) * 1000000 = nearest x * 1000000 - rest := by rw [hrest]; ring
  have hscaled : (ms : ℚ) * 1000 = x * 1000000 := by rw [hx]; ring
  rw [hwhole, hscaled, abs_le]
  constructor <;> linarith [hsecond.1, hsecond.2, hnear.1, hnear.2, hround.1, hround.2]

/-- **What is read of an instant that was stored** is that instant up to two milliseconds. -/
theorem abs_ofMillis_toMillis_sub_le {t : Instant} (hfirst : 0 ≤ t) (hlast : t < calendar.2) :
    |ofMillis t.toMillis - t| ≤ 2000 := by
  obtain ⟨hnonneg, hstored⟩ := abs_toMillis_sub_le hfirst hlast
  have hstored := abs_le.mp hstored
  have ht' : (t : ℚ) < 253402300800000000 := by exact_mod_cast hlast
  have hmost : t.toMillis ≤ 253402300800001 := by
    have hq : (t.toMillis : ℚ) < 253402300800002 := by linarith [hstored.2]
    exact Int.lt_add_one_iff.mp (by exact_mod_cast hq)
  have hread := abs_le.mp (abs_ofMillis_sub_le hnonneg hmost)
  have hq : |((ofMillis t.toMillis - t : ℤ) : ℚ)| ≤ 2000 := by
    push_cast
    rw [abs_le]
    constructor <;> linarith [hstored.1, hstored.2, hread.1, hread.2]
  exact_mod_cast hq

end ChainRelay.Instant
