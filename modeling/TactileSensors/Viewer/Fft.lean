import Mathlib.Algebra.Ring.Defs
import TactileSensors.Bytes.BigEndian
import TactileSensors.Fourier.Reorder

/-!
# The transform of the web viewer

Real and imaginary parts in two buffers, reordered in place along a counter that runs with its bits reversed,
and then joined by butterflies with a factor that is turned on from one to the next.
-/

namespace TactileSensors.Viewer
open Bytes TactileSensors.Fourier

structure Buffers (R : Type*) where
  re : List R
  im : List R
deriving DecidableEq

variable {R : Type*} [CommRing R]

def Buffers.swap (b : Buffers R) (i j : Nat) : Buffers R := ⟨exchange b.re i j, exchange b.im i j⟩

/-- The inner `while` and the line behind it: one is added at the highest bit. -/
def increment (j bit : Nat) : Nat :=
  if j &&& bit ≠ 0 then increment (j ^^^ bit) (bit >>> 1) else j ^^^ bit
termination_by bit
decreasing_by
  rename_i set
  have pos : bit ≠ 0 := by
    rintro rfl
    exact set (Nat.and_zero j)
  rw [Nat.shiftRight_one]
  omega

def reorderAt {β : Type*} (swap : β → Nat → Nat → β) (n : Nat) (s : β × Nat) (i : Nat) : β × Nat :=
  let j := increment s.2 (n >>> 1)
  (if i < j then swap s.1 i j else s.1, j)

def reorder (n : Nat) (b : Buffers R) : Buffers R :=
  ((List.range' 1 (n - 1)).foldl (reorderAt Buffers.swap n) (b, 0)).1

def reorderSwaps (n : Nat) : List (Nat × Nat) :=
  ((List.range' 1 (n - 1)).foldl (reorderAt (fun pairs i j => pairs ++ [(i, j)]) n) ([], 0)).1

def times (a b : R × R) : R × R := (a.1 * b.1 - a.2 * b.2, a.1 * b.2 + a.2 * b.1)

def Buffers.butterfly (b : Buffers R) (cur : R × R) (u v : Nat) : Buffers R :=
  let tRe := cur.1 * b.re.getD v 0 - cur.2 * b.im.getD v 0
  let tIm := cur.1 * b.im.getD v 0 + cur.2 * b.re.getD v 0
  let re := b.re.set v (b.re.getD u 0 - tRe)
  let im := b.im.set v (b.im.getD u 0 - tIm)
  ⟨re.set u (re.getD u 0 + tRe), im.set u (im.getD u 0 + tIm)⟩

def butterflyAt (w : R × R) (half i : Nat) (s : Buffers R × (R × R)) (k : Nat) : Buffers R × (R × R) :=
  (s.1.butterfly s.2 (i + k) (i + k + half), times s.2 w)

def block (w : R × R) (half : Nat) (b : Buffers R) (i : Nat) : Buffers R :=
  ((List.range half).foldl (butterflyAt w half i) (b, (1, 0))).1

def stage (w : R × R) (n length : Nat) (b : Buffers R) : Buffers R :=
  (List.range' 0 ((n + length - 1) / length) length).foldl (block w (length / 2)) b

/-- The loop over `length`, which begins with 2. Twice zero would be no end. -/
def butterflies (twiddle : Nat → R × R) (n length : Nat) (b : Buffers R) : Buffers R :=
  if length = 0 ∨ n < length then b
  else butterflies twiddle n (length * 2) (stage (twiddle length) n length b)
termination_by n + 1 - length

/-- The buffers after the last stage. `twiddle` is the root that a stage takes for its length. -/
def fft (twiddle : Nat → R × R) (realData : List R) : Buffers R :=
  let n := realData.length
  butterflies twiddle n 2 (reorder n ⟨realData, List.replicate n 0⟩)

theorem xor_two_pow {m j : Nat} (small : j < 2 ^ m) : j ^^^ 2 ^ m = 2 ^ m + j := by
  apply Nat.eq_of_testBit_eq
  intro k
  rw [Nat.testBit_xor, Nat.testBit_two_pow]
  rcases Nat.lt_trichotomy k m with below | rfl | above
  · rw [Nat.testBit_two_pow_add_gt below]
    simp [Nat.ne_of_gt below]
  · rw [Nat.testBit_two_pow_add_eq, Nat.testBit_lt_two_pow small]
    simp
  · have wide : 2 ^ m + j < 2 ^ k := by
      have double : 2 ^ (m + 1) ≤ 2 ^ k := Nat.pow_le_pow_right Nat.two_pos above
      rw [Nat.pow_succ] at double
      omega
    rw [Nat.testBit_lt_two_pow wide, Nat.testBit_lt_two_pow (by omega)]
    simp [Nat.ne_of_lt above]

theorem increment_clear {m j : Nat} (small : j < 2 ^ m) : increment j (2 ^ m) = 2 ^ m + j := by
  have clear : ¬ j &&& 2 ^ m ≠ 0 := by
    rw [and_two_pow_ne_zero, Nat.testBit_lt_two_pow small]
    exact Bool.false_ne_true
  rw [increment, if_neg clear, xor_two_pow small]

theorem increment_set {m j : Nat} (small : j < 2 ^ m) :
    increment (2 ^ m + j) (2 ^ m) = increment j (2 ^ m >>> 1) := by
  have set : (2 ^ m + j) &&& 2 ^ m ≠ 0 := by
    rw [and_two_pow_ne_zero, Nat.testBit_two_pow_add_eq, Nat.testBit_lt_two_pow small]
    rfl
  have cleared : (2 ^ m + j) ^^^ 2 ^ m = j := by
    rw [← xor_two_pow small, Nat.xor_assoc, Nat.xor_self, Nat.xor_zero]
  rw [increment, if_pos set, cleared]

theorem increment_bitReverse (m : Nat) {i : Nat} (inside : i + 1 < 2 ^ (m + 1)) :
    increment (bitReverse (m + 1) i) (2 ^ m) = bitReverse (m + 1) (i + 1) := by
  induction m generalizing i with
  | zero =>
      obtain rfl : i = 0 := by omega
      rw [bitReverse_zero]
      exact increment_clear Nat.one_pos
  | succ m ih =>
      rcases Nat.even_or_odd' i with ⟨u, rfl | rfl⟩
      · rw [bitReverse_even, bitReverse_odd, increment_clear (bitReverse_lt _ u)]
      · have next : 2 * u + 1 + 1 = 2 * (u + 1) := by omega
        have halved : 2 ^ (m + 1) >>> 1 = 2 ^ m := by
          rw [Nat.shiftRight_one, Nat.pow_succ, Nat.mul_div_cancel _ Nat.two_pos]
        have below : u + 1 < 2 ^ (m + 1) := by
          rw [Nat.pow_succ] at inside
          omega
        rw [bitReverse_odd, increment_set (bitReverse_lt _ u), halved, ih below, next, bitReverse_even]

theorem exchanges_bitReverse_one (n : Nat) : exchanges (bitReverse n) 1 = [] := by
  rw [exchanges_succ, bitReverse_zero]
  rfl

theorem foldl_reorderAt {β : Type*} (swap : β → Nat → Nat → β) (b : β) {n t : Nat}
    (inside : t < 2 ^ (n + 1)) :
    (List.range' 1 t).foldl (reorderAt swap (2 ^ (n + 1))) (b, 0) =
      ((exchanges (bitReverse (n + 1)) (t + 1)).foldl (fun b pair => swap b pair.1 pair.2) b,
        bitReverse (n + 1) t) := by
  have highest : 2 ^ (n + 1) >>> 1 = 2 ^ n := by
    rw [Nat.shiftRight_one, Nat.pow_succ, Nat.mul_div_cancel _ Nat.two_pos]
  induction t with
  | zero =>
      rw [Nat.zero_add, exchanges_bitReverse_one, bitReverse_zero]
      rfl
  | succ t ih =>
      rw [List.range'_1_concat, List.foldl_append, ih (by omega), Nat.add_comm 1 t,
        exchanges_succ _ (t + 1), List.foldl_append]
      simp only [List.foldl_cons, List.foldl_nil, reorderAt, highest, increment_bitReverse n inside]
      by_cases up : t + 1 < bitReverse (n + 1) (t + 1)
      · simp only [if_pos up, List.foldl_cons, List.foldl_nil]
      · simp only [if_neg up, List.foldl_nil]

theorem foldl_append_pairs {α : Type*} (pairs : List (α × α)) (sofar : List (α × α)) :
    pairs.foldl (fun pairs pair => pairs ++ [(pair.1, pair.2)]) sofar = sofar ++ pairs := by
  induction pairs generalizing sofar with
  | nil => exact (List.append_nil _).symm
  | cons pair pairs ih => rw [List.foldl_cons, ih, List.append_assoc]; rfl

theorem last_index (n : Nat) : 2 ^ n - 1 < 2 ^ n ∧ 2 ^ n - 1 + 1 = 2 ^ n := by
  have pos := Nat.two_pow_pos n
  omega

theorem reorderSwaps_eq (n : Nat) :
    reorderSwaps (2 ^ (n + 1)) = exchanges (bitReverse (n + 1)) (2 ^ (n + 1)) := by
  obtain ⟨inside, all⟩ := last_index (n + 1)
  rw [reorderSwaps, foldl_reorderAt _ _ inside, all, foldl_append_pairs, List.nil_append]

theorem foldl_swap (b : Buffers R) (pairs : List (Nat × Nat)) :
    pairs.foldl (fun b pair => b.swap pair.1 pair.2) b =
      ⟨exchangeAll b.re pairs, exchangeAll b.im pairs⟩ := by
  induction pairs generalizing b with
  | nil => rfl
  | cons pair pairs ih => exact ih (b.swap pair.1 pair.2)

theorem reorder_eq (n : Nat) (b : Buffers R) :
    reorder (2 ^ (n + 1)) b =
      ⟨exchangeAll b.re (exchanges (bitReverse (n + 1)) (2 ^ (n + 1))),
        exchangeAll b.im (exchanges (bitReverse (n + 1)) (2 ^ (n + 1)))⟩ := by
  obtain ⟨inside, all⟩ := last_index (n + 1)
  rw [reorder, foldl_reorderAt _ _ inside, all, foldl_swap]

end TactileSensors.Viewer
