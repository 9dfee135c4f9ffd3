import TactileSensors.Arith.Fixed

/-!
# Ticks to block for

Rounded up, so that any time left is worth a tick, and saturated below the value that waits forever.
-/

namespace TactileSensors.Platform.ThreadX
open Arith

def txWaitForever : Int := 0xFFFFFFFF

def nsPerSecond : Int := 1000000000

def blockingTicks (perSecond duration : Int) : Option UInt32 := do
  let maxTicks ← int64 (txWaitForever - 1)
  let maxScaled ← int64 (maxTicks * nsPerSecond)
  let maxNs ← int64 (maxScaled.tdiv perSecond)
  if duration ≤ 0 then
    return 0
  let ns := min duration maxNs
  let scaled ← int64 (ns * perSecond)
  let raised ← int64 (scaled + nsPerSecond)
  let rounding ← int64 (raised - 1)
  let ticks ← int64 (rounding.tdiv nsPerSecond)
  return UInt32.ofInt ticks

def maxTicks : Int := txWaitForever - 1

def maxNs (perSecond : Int) : Int := maxTicks * nsPerSecond / perSecond

variable {perSecond duration : Int}

theorem maxNs_mul_le (slow : 1 ≤ perSecond) : maxNs perSecond * perSecond ≤ maxTicks * nsPerSecond :=
  Int.ediv_mul_le _ (by omega)

theorem lt_maxNs_mul (slow : 1 ≤ perSecond) :
    maxTicks * nsPerSecond < maxNs perSecond * perSecond + perSecond := by
  have past := Int.lt_ediv_add_one_mul_self (maxTicks * nsPerSecond) (show 0 < perSecond by omega)
  rwa [Int.add_mul, Int.one_mul] at past

theorem ceil_min (slow : 1 ≤ perSecond) (fast : perSecond ≤ nsPerSecond) :
    ⌈((min duration (maxNs perSecond) * perSecond : Int) : ℚ) / nsPerSecond⌉ =
      min ⌈((duration * perSecond : Int) : ℚ) / nsPerSecond⌉ maxTicks := by
  have most := maxNs_mul_le slow
  have past := lt_maxNs_mul slow
  refine eq_of_forall_ge_iff fun ticks => ?_
  rw [min_le_iff, ceil_le_iff (by decide), ceil_le_iff (by decide)]
  rcases Int.le_total duration (maxNs perSecond) with short | long
  · rw [min_eq_left short]
    have less := Int.mul_le_mul_of_nonneg_right short (show 0 ≤ perSecond by omega)
    refine ⟨.inl, fun h => h.elim id fun enough => ?_⟩
    calc duration * perSecond ≤ maxTicks * nsPerSecond := Int.le_trans less most
      _ ≤ ticks * nsPerSecond := Int.mul_le_mul_of_nonneg_right enough (by decide)
  · rw [min_eq_right long]
    have more := Int.mul_le_mul_of_nonneg_right long (show 0 ≤ perSecond by omega)
    constructor
    · intro covered
      right
      simp only [nsPerSecond] at fast past covered
      omega
    · rintro (covered | enough)
      · exact Int.le_trans more covered
      · exact Int.le_trans most (Int.mul_le_mul_of_nonneg_right enough (by decide))

theorem maxNs_nonneg (slow : 1 ≤ perSecond) : 0 ≤ maxNs perSecond :=
  Int.ediv_nonneg (by decide) (by omega)

theorem blockingTicks_eq (slow : 1 ≤ perSecond) :
    blockingTicks perSecond duration =
      if duration ≤ 0 then some 0
      else do
        let scaled ← int64 (min duration (maxNs perSecond) * perSecond)
        let raised ← int64 (scaled + nsPerSecond)
        let rounding ← int64 (raised - 1)
        let ticks ← int64 (rounding.tdiv nsPerSecond)
        return UInt32.ofInt ticks := by
  have cap : maxNs perSecond ≤ maxTicks * nsPerSecond := Int.ediv_le_self _ (by decide)
  have quotient : (maxTicks * nsPerSecond).tdiv perSecond = maxNs perSecond :=
    Int.tdiv_eq_ediv_of_nonneg (by decide)
  have fits : Fits (maxNs perSecond) :=
    fits_of_nonneg (maxNs_nonneg slow) (Int.le_trans cap (by decide))
  rw [blockingTicks, Fits.bind (by decide), ← maxTicks, Fits.bind (by decide), quotient, fits.bind]
  rfl

theorem blockingTicks_of_pos (slow : 1 ≤ perSecond) (fast : perSecond ≤ nsPerSecond)
    (pos : 0 < duration) :
    blockingTicks perSecond duration =
      some (UInt32.ofInt (min ⌈((duration * perSecond : Int) : ℚ) / nsPerSecond⌉ maxTicks)) := by
  have bound : maxTicks * nsPerSecond + nsPerSecond ≤ int64Max := by decide
  have second : 0 < nsPerSecond := by decide
  rw [blockingTicks_eq slow, if_neg (Int.not_le.mpr pos), ← ceil_min slow fast]
  have scaled_nonneg : 0 ≤ min duration (maxNs perSecond) * perSecond :=
    Int.mul_nonneg (le_min (Int.le_of_lt pos) (maxNs_nonneg slow)) (by omega)
  have scaled_le : min duration (maxNs perSecond) * perSecond ≤ maxTicks * nsPerSecond :=
    Int.le_trans (Int.mul_le_mul_of_nonneg_right (min_le_right _ _) (by omega)) (maxNs_mul_le slow)
  generalize min duration (maxNs perSecond) * perSecond = scaled at scaled_nonneg scaled_le
  have rounding_nonneg : 0 ≤ scaled + nsPerSecond - 1 := by omega
  have quotient_le : (scaled + nsPerSecond - 1).tdiv nsPerSecond ≤ scaled + nsPerSecond - 1 := by
    rw [Int.tdiv_eq_ediv_of_nonneg rounding_nonneg]
    exact Int.ediv_le_self _ rounding_nonneg
  rw [(fits_of_nonneg scaled_nonneg (by omega)).bind, Fits.bind (fits_of_nonneg (by omega) (by omega)),
    (fits_of_nonneg rounding_nonneg (by omega)).bind,
    (fits_of_nonneg (Int.tdiv_nonneg rounding_nonneg (by decide)) (by omega)).bind,
    Int.tdiv_eq_ediv_of_nonneg rounding_nonneg, Int.add_sub_assoc, add_ediv_eq_ceil scaled second]
  rfl

theorem toNat_ofInt {ticks : Int} (nonneg : 0 ≤ ticks) (small : ticks ≤ maxTicks) :
    ((UInt32.ofInt ticks).toNat : Int) = ticks := by
  simp only [maxTicks, txWaitForever] at small
  rw [UInt32.ofInt, UInt32.toNat_ofNat']
  omega

def exactTicks (perSecond duration : Int) : Int :=
  ⌈((duration * perSecond : Int) : ℚ) / nsPerSecond⌉

theorem exactTicks_le_iff {ticks : Int} :
    exactTicks perSecond duration ≤ ticks ↔ duration * perSecond ≤ ticks * nsPerSecond :=
  ceil_le_iff (by decide)

theorem exactTicks_pos_iff (slow : 1 ≤ perSecond) : 0 < exactTicks perSecond duration ↔ 0 < duration := by
  rw [← Int.not_le, exactTicks_le_iff, Int.zero_mul, Int.not_le, mul_pos_iff_of_pos_right (by omega)]

theorem exactTicks_mono (slow : 1 ≤ perSecond) {longer : Int} (le : duration ≤ longer) :
    exactTicks perSecond duration ≤ exactTicks perSecond longer := by
  rw [exactTicks_le_iff]
  have more := Int.mul_le_mul_of_nonneg_right le (show 0 ≤ perSecond by omega)
  exact Int.le_trans more (exactTicks_le_iff.mp (Int.le_refl _))

theorem exactTicks_le_maxTicks_iff (slow : 1 ≤ perSecond) :
    exactTicks perSecond duration ≤ maxTicks ↔ duration ≤ maxNs perSecond := by
  rw [exactTicks_le_iff, maxNs, Int.le_ediv_iff_mul_le (by omega)]

theorem blockingTicks_clamped (slow : 1 ≤ perSecond) (fast : perSecond ≤ nsPerSecond) :
    ∃ ticks, blockingTicks perSecond duration = some ticks ∧
      (ticks.toNat : Int) = max 0 (min (exactTicks perSecond duration) maxTicks) := by
  rcases Int.lt_or_le 0 duration with pos | none_
  · have some_ : 0 < exactTicks perSecond duration := (exactTicks_pos_iff slow).mpr pos
    have nonneg : 0 ≤ min (exactTicks perSecond duration) maxTicks :=
      le_min (Int.le_of_lt some_) (by decide)
    refine ⟨_, blockingTicks_of_pos slow fast pos, ?_⟩
    rw [max_eq_right nonneg]
    exact toNat_ofInt nonneg (min_le_right _ _)
  · have zero : exactTicks perSecond duration ≤ 0 :=
      Int.not_lt.mp fun some_ => Int.not_lt.mpr none_ ((exactTicks_pos_iff slow).mp some_)
    refine ⟨0, by rw [blockingTicks_eq slow, if_pos none_], ?_⟩
    rw [max_eq_left (Int.le_trans (min_le_left _ _) zero)]
    rfl

/-- For every tick rate and every duration. -/
theorem blockingTicks_exact (slow : 1 ≤ perSecond) (fast : perSecond ≤ 1000000000) (duration : Int) :
    ∃ ticks, blockingTicks perSecond duration = some ticks ∧
      (ticks = 0 ↔ duration ≤ 0) ∧ ticks.toNat ≤ 0xFFFFFFFE ∧
      (0 ≤ duration → duration ≤ maxNs perSecond →
        (ticks.toNat : Int) = ⌈(duration : ℚ) * perSecond / 1000000000⌉) ∧
      (maxNs perSecond < duration → ticks.toNat = 0xFFFFFFFE) ∧
      ∀ longer, duration ≤ longer →
        ∃ more, blockingTicks perSecond longer = some more ∧ ticks ≤ more := by
  obtain ⟨ticks, computed, clamped⟩ := @blockingTicks_clamped perSecond duration slow fast
  have most : maxTicks = 0xFFFFFFFE := rfl
  have pos := @exactTicks_pos_iff perSecond duration slow
  have cut := @exactTicks_le_maxTicks_iff perSecond duration slow
  have exact_ : exactTicks perSecond duration = ⌈(duration : ℚ) * perSecond / 1000000000⌉ := by
    rw [exactTicks, Int.cast_mul]
    rfl
  refine ⟨ticks, computed, ?_, ?_, fun nonneg short => ?_, fun long => ?_, fun longer le => ?_⟩
  · rw [← UInt32.toNat_inj, UInt32.toNat_zero]
    omega
  · omega
  · have some_ : 0 ≤ exactTicks perSecond duration := by
      rcases Int.le_iff_lt_or_eq.mp nonneg with time | rfl
      · exact Int.le_of_lt (pos.mpr time)
      · simp [exactTicks]
    omega
  · omega
  · obtain ⟨more, computed', clamped'⟩ := @blockingTicks_clamped perSecond longer slow fast
    have mono := exactTicks_mono slow le
    refine ⟨more, computed', UInt32.le_iff_toNat_le.mpr ?_⟩
    omega

theorem blockingTicks_at_100 :
    blockingTicks 100 10000000 = some 1 ∧
      ∃ more, blockingTicks 100 10000001 = some more ∧ 1 ≤ more := by
  obtain ⟨ticks, computed, -, -, -, -, longer⟩ :=
    @blockingTicks_exact 100 (by decide) (by decide) 10000000
  have one : blockingTicks 100 10000000 = some 1 := by decide
  cases one.symm.trans computed
  exact ⟨one, longer 10000001 (by decide)⟩

end TactileSensors.Platform.ThreadX
