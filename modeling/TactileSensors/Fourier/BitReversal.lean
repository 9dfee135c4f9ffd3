import Mathlib.Algebra.Order.Ring.Nat

/-!
# Bit reversal

The lowest `n` bits of a number in the opposite order.
-/

namespace TactileSensors.Fourier

def bitReverse : Nat → Nat → Nat
  | 0, _ => 0
  | n + 1, i => i % 2 * 2 ^ n + bitReverse n (i / 2)

theorem bitReverse_lt (n i : Nat) : bitReverse n i < 2 ^ n := by
  induction n generalizing i with
  | zero => exact Nat.one_pos
  | succ n ih =>
      have rest := ih (i / 2)
      have top : i % 2 * 2 ^ n ≤ 1 * 2 ^ n := Nat.mul_le_mul_right _ (by omega)
      rw [bitReverse, Nat.pow_succ]
      omega

@[simp] theorem bitReverse_even (n u : Nat) : bitReverse (n + 1) (2 * u) = bitReverse n u := by
  have low : 2 * u % 2 = 0 := by omega
  have high : 2 * u / 2 = u := by omega
  rw [bitReverse, low, high, Nat.zero_mul, Nat.zero_add]

@[simp] theorem bitReverse_odd (n u : Nat) :
    bitReverse (n + 1) (2 * u + 1) = 2 ^ n + bitReverse n u := by
  have low : (2 * u + 1) % 2 = 1 := by omega
  have high : (2 * u + 1) / 2 = u := by omega
  rw [bitReverse, low, high, Nat.one_mul]

theorem bitReverse_zero (n : Nat) : bitReverse n 0 = 0 := by
  induction n with
  | zero => rfl
  | succ n ih => exact (bitReverse_even n 0).trans ih

theorem testBit_bitReverse {n k : Nat} (i : Nat) (inside : k < n) :
    (bitReverse n i).testBit k = i.testBit (n - 1 - k) := by
  induction n generalizing i k with
  | zero => cases inside
  | succ n ih =>
      have small := bitReverse_lt n (i / 2)
      by_cases top : k = n
      · -- the highest bit is the lowest of `i`
        subst top
        have zero : k + 1 - 1 - k = 0 := by omega
        rw [zero, Nat.testBit_zero, bitReverse]
        rcases Nat.mod_two_eq_zero_or_one i with even | odd
        · rw [even, Nat.zero_mul, Nat.zero_add, Nat.testBit_lt_two_pow small]
          rfl
        · rw [odd, Nat.one_mul, Nat.testBit_two_pow_add_eq, Nat.testBit_lt_two_pow small]
          rfl
      · have below : k < n := by omega
        have shift : n + 1 - 1 - k = n - 1 - k + 1 := by omega
        rw [shift, Nat.testBit_add_one, ← ih (i / 2) below, bitReverse]
        rcases Nat.mod_two_eq_zero_or_one i with even | odd
        · rw [even, Nat.zero_mul, Nat.zero_add]
        · rw [odd, Nat.one_mul, Nat.testBit_two_pow_add_gt below]

theorem bitReverse_bitReverse {n i : Nat} (inside : i < 2 ^ n) : bitReverse n (bitReverse n i) = i := by
  apply Nat.eq_of_testBit_eq
  intro k
  by_cases below : k < n
  · rw [testBit_bitReverse _ below, testBit_bitReverse _ (by omega)]
    congr 1
    omega
  · have beyond : 2 ^ n ≤ 2 ^ k := Nat.pow_le_pow_right Nat.two_pos (by omega)
    rw [Nat.testBit_lt_two_pow ((bitReverse_lt _ _).trans_le beyond),
      Nat.testBit_lt_two_pow (inside.trans_le beyond)]

end TactileSensors.Fourier
