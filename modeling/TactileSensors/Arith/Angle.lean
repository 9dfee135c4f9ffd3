import Mathlib.Analysis.SpecialFunctions.Complex.Arg

/-!
# Angles of vectors in a plane

The angle of the opposite vector is half a turn away, and an angle that is brought into one turn does not
show how many turns it had.
-/

namespace TactileSensors.Arith

noncomputable def atan2 (y x : ℝ) : ℝ := Complex.arg ⟨x, y⟩

noncomputable def pmod (a m : ℝ) : ℝ := a - m * ⌊a / m⌋

noncomputable def wrap (angle : ℝ) : ℝ := pmod (angle + Real.pi) ((2 : ℕ) * Real.pi) - Real.pi

theorem pmod_add_mul {m : ℝ} (pos : m ≠ 0) (a : ℝ) (k : ℤ) : pmod (a + m * k) m = pmod a m := by
  have quotient : (a + m * k) / m = a / m + k := by
    rw [add_div, mul_div_cancel_left₀ _ pos]
  rw [pmod, quotient, Int.floor_add_intCast, pmod]
  push_cast
  ring

theorem wrap_congr {a b : ℝ} (same : (a : Real.Angle) = b) : wrap a = wrap b := by
  obtain ⟨k, turns⟩ := Real.Angle.angle_eq_iff_two_pi_dvd_sub.mp same
  have shifted : a + Real.pi = b + Real.pi + (2 : ℕ) * Real.pi * k := by
    push_cast
    linear_combination turns
  have turn : ((2 : ℕ) * Real.pi : ℝ) ≠ 0 := by
    push_cast
    exact Real.two_pi_pos.ne'
  rw [wrap, wrap, shifted, pmod_add_mul turn]

theorem coe_atan2_neg {y x : ℝ} (moves : y ≠ 0 ∨ x ≠ 0) :
    (atan2 (-y) (-x) : Real.Angle) = atan2 y x + Real.pi := by
  have vector : (⟨x, y⟩ : ℂ) ≠ 0 := by
    intro zero
    rcases moves with up | across
    · exact up (congrArg Complex.im zero)
    · exact across (congrArg Complex.re zero)
  have opposite : (⟨-x, -y⟩ : ℂ) = -⟨x, y⟩ := rfl
  rw [atan2, atan2, opposite, Complex.arg_neg_coe_angle vector]

end TactileSensors.Arith
