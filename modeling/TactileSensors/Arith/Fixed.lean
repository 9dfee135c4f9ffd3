import Mathlib.Data.Rat.Floor
import Mathlib.Tactic.Linarith

/-!
# Signed 64-bit arithmetic

A result that does not fit is no result. Quotients are rounded up by an addition before the division, or
by a correction after it.
-/

namespace TactileSensors.Arith

def int64Min : Int := -9223372036854775808

def int64Max : Int := 9223372036854775807

def Fits (x : Int) : Prop := int64Min ≤ x ∧ x ≤ int64Max

instance (x : Int) : Decidable (Fits x) := inferInstanceAs (Decidable (_ ∧ _))

/-- The result `x` of an operation. -/
def int64 (x : Int) : Option Int := if Fits x then some x else none

theorem int64_eq_some {x y : Int} : int64 x = some y ↔ Fits x ∧ x = y := by
  rw [int64, Option.ite_none_right_eq_some, Option.some.injEq]

theorem Fits.int64 {x : Int} (h : Fits x) : int64 x = some x := if_pos h

theorem Fits.bind {α : Type} {x : Int} (h : Fits x) (f : Int → Option α) :
    (Arith.int64 x >>= f) = f x := by
  rw [h.int64]
  rfl

theorem int64_bind_eq_some {α : Type} {x : Int} {f : Int → Option α} {y : α} :
    (int64 x >>= f) = some y ↔ Fits x ∧ f x = some y := by
  by_cases h : Fits x
  · rw [h.bind]
    exact (and_iff_right h).symm
  · rw [int64, if_neg h]
    exact iff_of_false nofun fun fits => h fits.1

theorem fits_of_nonneg {x : Int} (nonneg : 0 ≤ x) (small : x ≤ int64Max) : Fits x :=
  ⟨Int.le_trans (by decide) nonneg, small⟩

theorem add_ediv_le_iff {x m n : Int} (pos : 0 < n) : (x + (n - 1)) / n ≤ m ↔ x ≤ m * n := by
  rw [← Int.lt_add_one_iff, Int.ediv_lt_iff_lt_mul pos, Int.add_mul]
  omega

theorem ceil_le_iff {x m n : Int} (pos : 0 < n) : ⌈(x : ℚ) / n⌉ ≤ m ↔ x ≤ m * n := by
  rw [Int.ceil_le, div_le_iff₀ (Int.cast_pos.mpr pos)]
  exact_mod_cast Iff.rfl

theorem add_ediv_eq_ceil (x : Int) {n : Int} (pos : 0 < n) : (x + (n - 1)) / n = ⌈(x : ℚ) / n⌉ :=
  eq_of_forall_ge_iff fun _ => (add_ediv_le_iff pos).trans (ceil_le_iff pos).symm

end TactileSensors.Arith
