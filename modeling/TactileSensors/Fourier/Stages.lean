import Mathlib.Algebra.BigOperators.Intervals
import Mathlib.Tactic.Ring
import TactileSensors.Fourier.BitReversal

/-!
# Stages of butterflies

A stage joins the transforms of two neighbouring blocks into the one of both, in any commutative ring with
roots of unity whose squares are each other. After the last stage the block is everything.
-/

namespace TactileSensors.Fourier
open Finset

variable {K : Type*} [CommRing K]

def dft (w : K) (n : Nat) (x : Nat → K) (k : Nat) : K := ∑ t ∈ range n, w ^ (k * t) * x t

def combine (w : K) (half : Nat) (f : Nat → K) (p : Nat) : K :=
  let m := p % (2 * half)
  if m < half then f p + w ^ m * f (p + half) else f (p - half) - w ^ (m - half) * f p

theorem combine_low (w : K) {half m : Nat} (f : Nat → K) (c : Nat) (low : m < half) :
    combine w half f (c * (2 * half) + m) =
      f (c * (2 * half) + m) + w ^ m * f (c * (2 * half) + m + half) := by
  have rest : (c * (2 * half) + m) % (2 * half) = m := by
    rw [Nat.mul_comm, Nat.mul_add_mod, Nat.mod_eq_of_lt (by omega)]
  simp only [combine, rest, if_pos low]

theorem combine_high (w : K) {half m : Nat} (f : Nat → K) (c : Nat) (low : m < half) :
    combine w half f (c * (2 * half) + m + half) =
      f (c * (2 * half) + m) - w ^ m * f (c * (2 * half) + m + half) := by
  have rest : (c * (2 * half) + m + half) % (2 * half) = m + half := by
    rw [Nat.add_assoc, Nat.mul_comm, Nat.mul_add_mod, Nat.mod_eq_of_lt (by omega)]
  have high : ¬ m + half < half := by omega
  simp only [combine, rest, if_neg high, Nat.add_sub_cancel]

theorem block_cases {half : Nat} (pos : 0 < half) (p : Nat) :
    ∃ c m, m < half ∧ (p = c * (2 * half) + m ∨ p = c * (2 * half) + m + half) := by
  have inside : p % (2 * half) < 2 * half := Nat.mod_lt p (by omega)
  have whole : p = p / (2 * half) * (2 * half) + p % (2 * half) := by
    rw [Nat.mul_comm]
    exact (Nat.div_add_mod p (2 * half)).symm
  by_cases low : p % (2 * half) < half
  · exact ⟨p / (2 * half), p % (2 * half), low, .inl whole⟩
  · exact ⟨p / (2 * half), p % (2 * half) - half, by omega, .inr (by omega)⟩

structure Roots (root : Nat → K) : Prop where
  one : root 1 = 1
  two : root 2 = -1
  square : ∀ s, root (2 ^ (s + 1)) ^ 2 = root (2 ^ s)

theorem Roots.pow_half {root : Nat → K} (roots : Roots root) (s : Nat) :
    root (2 ^ (s + 1)) ^ 2 ^ s = -1 := by
  induction s with
  | zero => rw [Nat.pow_zero, pow_one]; exact roots.two
  | succ s ih =>
      have twice : 2 ^ (s + 1) = 2 * 2 ^ s := Nat.pow_succ'
      calc root (2 ^ (s + 1 + 1)) ^ 2 ^ (s + 1)
        _ = (root (2 ^ (s + 1 + 1)) ^ 2) ^ 2 ^ s := by rw [← pow_mul, ← twice]
        _ = -1 := by rw [roots.square, ih]

theorem Roots.pow_length {root : Nat → K} (roots : Roots root) (s : Nat) : root (2 ^ s) ^ 2 ^ s = 1 := by
  cases s with
  | zero => rw [Nat.pow_zero, pow_one]; exact roots.one
  | succ s =>
      have twice : 2 ^ (s + 1) = 2 ^ s * 2 := Nat.pow_succ 2 s
      calc root (2 ^ (s + 1)) ^ 2 ^ (s + 1)
        _ = (root (2 ^ (s + 1)) ^ 2 ^ s) ^ 2 := by rw [← pow_mul, ← twice]
        _ = 1 := by rw [roots.pow_half, neg_one_sq]

/-- After `s` stages: within its block of `2 ^ s`, the transform of what was there in the opposite order of
bits. -/
def blockDft (root : Nat → K) (s : Nat) (f : Nat → K) (p : Nat) : K :=
  dft (root (2 ^ s)) (2 ^ s) (fun t => f (p / 2 ^ s * 2 ^ s + bitReverse s t)) (p % 2 ^ s)

theorem blockDft_zero (root : Nat → K) (f : Nat → K) : blockDft root 0 f = f := by
  funext p
  simp [blockDft, dft, bitReverse, Nat.mod_one]

theorem blockDft_eq (root : Nat → K) {s m : Nat} (f : Nat → K) (q : Nat) (inside : m < 2 ^ s) :
    blockDft root s f (q * 2 ^ s + m) =
      dft (root (2 ^ s)) (2 ^ s) (fun t => f (q * 2 ^ s + bitReverse s t)) m := by
  have quotient : (q * 2 ^ s + m) / 2 ^ s = q := by
    rw [Nat.mul_comm, Nat.mul_add_div (Nat.two_pow_pos s), Nat.div_eq_of_lt inside, Nat.add_zero]
  have rest : (q * 2 ^ s + m) % 2 ^ s = m := by
    rw [Nat.mul_comm, Nat.mul_add_mod, Nat.mod_eq_of_lt inside]
  rw [blockDft, quotient, rest]

theorem dft_double (w : K) (n : Nat) (x : Nat → K) (k : Nat) :
    dft w (2 * n) x k =
      dft (w ^ 2) n (fun t => x (2 * t)) k + w ^ k * dft (w ^ 2) n (fun t => x (2 * t + 1)) k := by
  induction n with
  | zero => simp [dft]
  | succ n ih =>
      have even : (w ^ 2) ^ (k * n) = w ^ (k * (2 * n)) := by
        rw [← pow_mul]
        ring_nf
      have odd : w ^ (k * (2 * n + 1)) = w ^ k * (w ^ 2) ^ (k * n) := by
        rw [even, ← pow_add]
        ring_nf
      simp only [dft] at ih ⊢
      rw [Nat.mul_succ, sum_range_succ, sum_range_succ, ih, sum_range_succ _ n, sum_range_succ _ n, odd,
        even]
      ring

theorem dft_periodic {w : K} {n : Nat} (root : w ^ n = 1) (x : Nat → K) (k : Nat) :
    dft w n x (k + n) = dft w n x k := by
  refine sum_congr rfl fun t _ => ?_
  rw [Nat.add_mul, pow_add, pow_mul w n t, root, one_pow, mul_one]

theorem blockDft_double {root : Nat → K} (roots : Roots root) {s : Nat} (f : Nat → K) (c : Nat) {k : Nat}
    (inside : k < 2 ^ (s + 1)) :
    blockDft root (s + 1) f (c * 2 ^ (s + 1) + k) =
      dft (root (2 ^ s)) (2 ^ s) (fun t => f (2 * c * 2 ^ s + bitReverse s t)) k +
        root (2 ^ (s + 1)) ^ k *
          dft (root (2 ^ s)) (2 ^ s) (fun t => f ((2 * c + 1) * 2 ^ s + bitReverse s t)) k := by
  have even (t : Nat) : c * 2 ^ (s + 1) + bitReverse (s + 1) (2 * t) =
      2 * c * 2 ^ s + bitReverse s t := by
    rw [bitReverse_even, Nat.pow_succ]
    ring
  have odd (t : Nat) : c * 2 ^ (s + 1) + bitReverse (s + 1) (2 * t + 1) =
      (2 * c + 1) * 2 ^ s + bitReverse s t := by
    rw [bitReverse_odd, Nat.pow_succ]
    ring
  have double := dft_double (root (2 ^ (s + 1))) (2 ^ s)
    (fun t => f (c * 2 ^ (s + 1) + bitReverse (s + 1) t)) k
  simp only [even, odd, roots.square] at double
  rw [blockDft_eq root f c inside, ← double, ← Nat.pow_succ']

theorem combine_blockDft {root : Nat → K} (roots : Roots root) (s : Nat) (f : Nat → K) :
    combine (root (2 ^ (s + 1))) (2 ^ s) (blockDft root s f) = blockDft root (s + 1) f := by
  funext p
  obtain ⟨c, m, low, here⟩ := block_cases (Nat.two_pow_pos s) p
  have first : c * (2 * 2 ^ s) + m = 2 * c * 2 ^ s + m := by ring
  have second : c * (2 * 2 ^ s) + m + 2 ^ s = (2 * c + 1) * 2 ^ s + m := by ring
  rcases here with rfl | rfl
  · rw [combine_low _ _ _ low, second, first, blockDft_eq root f _ low, blockDft_eq root f _ low]
    have whole : 2 * c * 2 ^ s + m = c * 2 ^ (s + 1) + m := by
      rw [Nat.pow_succ]
      ring
    rw [whole, blockDft_double roots f c (by rw [Nat.pow_succ]; omega)]
  · rw [combine_high _ _ _ low, second, first, blockDft_eq root f _ low, blockDft_eq root f _ low]
    have whole : (2 * c + 1) * 2 ^ s + m = c * 2 ^ (s + 1) + (m + 2 ^ s) := by
      rw [Nat.pow_succ]
      ring
    -- half a turn on, the roots of the shorter transform are the same and the other is the negative
    have turned : root (2 ^ (s + 1)) ^ (m + 2 ^ s) = -root (2 ^ (s + 1)) ^ m := by
      rw [pow_add, roots.pow_half, mul_neg_one]
    rw [whole, blockDft_double roots f c (by rw [Nat.pow_succ]; omega), dft_periodic (roots.pow_length s),
      dft_periodic (roots.pow_length s), turned, neg_mul, sub_eq_add_neg]

theorem blockDft_all (root : Nat → K) {n k : Nat} {f x : Nat → K}
    (reversed : ∀ p < 2 ^ n, f p = x (bitReverse n p)) (inside : k < 2 ^ n) :
    blockDft root n f k = dft (root (2 ^ n)) (2 ^ n) x k := by
  rw [blockDft, Nat.div_eq_of_lt inside, Nat.mod_eq_of_lt inside, Nat.zero_mul]
  refine sum_congr rfl fun t ht => ?_
  have back : f (0 + bitReverse n t) = x t := by
    rw [Nat.zero_add, reversed _ (bitReverse_lt n t), bitReverse_bitReverse (mem_range.mp ht)]
  simp only [back]

end TactileSensors.Fourier
