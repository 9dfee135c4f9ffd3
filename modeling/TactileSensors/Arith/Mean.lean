import Mathlib.Algebra.Order.BigOperators.Group.List
import Mathlib.Algebra.Order.Ring.Int
import Mathlib.Data.Rat.Floor
import Mathlib.Tactic.Linarith

/-!
# Means of integers, rounded down

A mean that is rounded down is still between the least and the greatest of what it is of. Dividing a sum
by too small a number gives the same exactly if what was left out fits into the remainder.
-/

namespace TactileSensors.Arith

/-- `mean` is the floor of the mean of `values`. -/
def IsMean (values : List ℤ) (mean : ℤ) : Prop :=
  mean = ⌊(values.sum : ℚ) / values.length⌋

variable {values : List ℤ} {mean sum few many : ℤ}

theorem isMean_iff : IsMean values mean ↔ mean = values.sum / values.length := by
  rw [IsMean, Rat.floor_intCast_div_natCast]

theorem IsMean.exists_le (isMean : IsMean values mean) (some : values ≠ []) : ∃ v ∈ values, v ≤ mean := by
  have length : (0 : ℤ) < values.length := Int.natCast_pos.mpr (List.length_pos_iff.mpr some)
  by_contra greater
  have all : ∀ v ∈ values, mean + 1 ≤ v := fun v hv => by
    by_contra le
    exact greater ⟨v, hv, by omega⟩
  have total := List.card_nsmul_le_sum values (mean + 1) all
  rw [nsmul_eq_mul, mul_comm, ← Int.le_ediv_iff_mul_le length, ← isMean_iff.mp isMean] at total
  omega

theorem IsMean.exists_ge (isMean : IsMean values mean) (some : values ≠ []) : ∃ v ∈ values, mean ≤ v := by
  have length : (0 : ℤ) < values.length := Int.natCast_pos.mpr (List.length_pos_iff.mpr some)
  by_contra smaller
  have all : ∀ v ∈ values, v ≤ mean - 1 := fun v hv => by
    by_contra ge
    exact smaller ⟨v, hv, by omega⟩
  have total := List.sum_le_card_nsmul values (mean - 1) all
  have least := Int.ediv_mul_le values.sum length.ne'
  rw [← isMean_iff.mp isMean] at least
  rw [nsmul_eq_mul] at total
  nlinarith

theorem ediv_eq_ediv_iff (nonneg : 0 ≤ sum) (pos : 0 < few) (le : few ≤ many) :
    sum / few = sum / many ↔ (many - few) * (sum / few) ≤ sum % few := by
  have split := Int.emod_add_mul_ediv sum few
  have least : sum / many ≤ sum / few := by
    have quotient : 0 ≤ sum / many := Int.ediv_nonneg nonneg (pos.le.trans le)
    refine (Int.le_ediv_iff_mul_le pos).mpr ?_
    calc sum / many * few ≤ sum / many * many := Int.mul_le_mul_of_nonneg_left le quotient
      _ ≤ sum := Int.ediv_mul_le sum (pos.trans_le le).ne'
  have exceeds : sum / few ≤ sum / many ↔ sum / few * many ≤ sum :=
    Int.le_ediv_iff_mul_le (pos.trans_le le)
  rw [eq_comm, ← least.ge_iff_eq, exceeds]
  constructor
  · intro h
    linarith
  · intro h
    linarith

end TactileSensors.Arith
