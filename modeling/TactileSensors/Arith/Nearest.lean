import Mathlib.Algebra.Order.Round

/-!
# Spans and the nearest integer

A place in a span is a fraction of it, between 0 and 1. `lround` rounds halves away from zero, and no
integer is nearer to what is not negative.
-/

namespace TactileSensors.Arith

section Clamp
variable {α : Type*} [LinearOrder α] {x y low high : α}

def clamp (x low high : α) : α := if x < low then low else if high < x then high else x

theorem clamp_eq (ordered : low ≤ high) : clamp x low high = max low (min x high) := by
  unfold clamp
  split_ifs with below above
  · rw [min_eq_left (below.le.trans ordered), max_eq_left below.le]
  · rw [min_eq_right above.le, max_eq_right ordered]
  · rw [min_eq_left (not_lt.mp above), max_eq_right (not_lt.mp below)]

theorem le_clamp (ordered : low ≤ high) : low ≤ clamp x low high := by
  rw [clamp_eq ordered]
  exact le_max_left _ _

theorem clamp_le (ordered : low ≤ high) : clamp x low high ≤ high := by
  rw [clamp_eq ordered]
  exact max_le ordered (min_le_right _ _)

theorem clamp_mono (ordered : low ≤ high) (le : x ≤ y) : clamp x low high ≤ clamp y low high := by
  rw [clamp_eq ordered, clamp_eq ordered]
  gcongr

theorem clamp_of_mem (least : low ≤ x) (most : x ≤ high) : clamp x low high = x := by
  rw [clamp, if_neg (not_lt.mpr least), if_neg (not_lt.mpr most)]

end Clamp

section Fraction
variable {α : Type*} [Field α] [LinearOrder α] [IsStrictOrderedRing α] {x low high : α}

theorem add_fraction_mul (span : low < high) :
    low + clamp ((x - low) / (high - low)) 0 1 * (high - low) = clamp x low high := by
  have pos : 0 < high - low := sub_pos.mpr span
  have below : (x - low) / (high - low) < 0 ↔ x < low := by
    rw [div_lt_iff₀ pos, zero_mul, sub_neg]
  have above : 1 < (x - low) / (high - low) ↔ high < x := by
    rw [lt_div_iff₀ pos, one_mul, sub_lt_sub_iff_right]
  simp only [clamp, below, above]
  split_ifs
  · rw [zero_mul, add_zero]
  · rw [one_mul, add_sub_cancel]
  · rw [div_mul_cancel₀ _ pos.ne', add_sub_cancel]

end Fraction

section Round
variable {α : Type*} [Field α] [LinearOrder α] [IsStrictOrderedRing α] [FloorRing α] {x y : α}

def lround (x : α) : ℤ := if 0 ≤ x then ⌊x + 1 / 2⌋ else ⌈x - 1 / 2⌉

theorem lround_of_nonneg (nonneg : 0 ≤ x) : lround x = round x := by
  rw [lround, if_pos nonneg, round_eq]

theorem lround_natCast (n : ℕ) : lround (n : α) = n := by
  rw [lround_of_nonneg n.cast_nonneg, round_natCast]

theorem lround_le_lround (nonneg : 0 ≤ x) (le : x ≤ y) : lround x ≤ lround y := by
  rw [lround_of_nonneg nonneg, lround_of_nonneg (nonneg.trans le), round_eq, round_eq]
  exact Int.floor_le_floor (by gcongr)

theorem abs_sub_lround_le (nonneg : 0 ≤ x) (n : ℤ) : |x - lround x| ≤ |x - n| := by
  rw [lround_of_nonneg nonneg]
  exact round_le x n

end Round

end TactileSensors.Arith
