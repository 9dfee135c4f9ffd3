import Mathlib.Data.List.Basic
import Mathlib.Order.Monotone.Basic

/-!
# Lists that are cut in pieces

Pieces between bounds that do not decrease put the list together again. `k` bounds that are spread evenly
over `n` elements leave no piece empty as long as there are no more pieces than elements.
-/

namespace TactileSensors.Scan

variable {α : Type*} {xs : List α} {start mid stop i : ℕ}

def piece (xs : List α) (start stop : ℕ) : List α := (xs.take stop).drop start

theorem length_piece (fits : stop ≤ xs.length) : (piece xs start stop).length = stop - start := by
  rw [piece, List.length_drop, List.length_take_of_le fits]

theorem getElem?_piece (within : start + i < stop) : (piece xs start stop)[i]? = xs[start + i]? := by
  rw [piece, List.getElem?_drop, List.getElem?_take_of_lt within]

theorem piece_append (low : start ≤ mid) (high : mid ≤ stop) :
    piece xs start mid ++ piece xs mid stop = piece xs start stop := by
  have shorter : xs.take mid = (xs.take stop).take mid := by rw [List.take_take, min_eq_left high]
  rw [piece, piece, piece, shorter, List.drop_take]
  conv_rhs => rw [← List.take_append_drop (mid - start) ((xs.take stop).drop start)]
  rw [List.drop_drop, Nat.add_sub_cancel' low]

def pieces (xs : List α) (bound : ℕ → ℕ) (count : ℕ) : List (List α) :=
  (List.range count).map fun b => piece xs (bound b) (bound (b + 1))

theorem flatten_pieces {bound : ℕ → ℕ} (mono : Monotone bound) (xs : List α) (count : ℕ) :
    (pieces xs bound count).flatten = piece xs (bound 0) (bound count) := by
  induction count with
  | zero => simp [pieces, piece]
  | succ count ih =>
      rw [pieces] at ih
      rw [pieces, List.range_succ, List.map_append, List.flatten_append, ih]
      simp only [List.map_cons, List.map_nil, List.flatten_cons, List.flatten_nil, List.append_nil]
      exact piece_append (mono (Nat.zero_le count)) (mono (Nat.le_succ count))

theorem mem_pieces {bound : ℕ → ℕ} {count b : ℕ} (h : b < count) :
    piece xs (bound b) (bound (b + 1)) ∈ pieces xs bound count :=
  List.mem_map_of_mem (List.mem_range.mpr h)

def evenCut (n k b : ℕ) : ℕ := b * n / k

variable {n k : ℕ}

theorem monotone_evenCut (n k : ℕ) : Monotone (evenCut n k) :=
  fun _ _ less => Nat.div_le_div_right (Nat.mul_le_mul_right n less)

@[simp] theorem evenCut_zero (n k : ℕ) : evenCut n k 0 = 0 := by
  rw [evenCut, Nat.zero_mul, Nat.zero_div]

theorem evenCut_self (pos : 0 < k) (n : ℕ) : evenCut n k k = n :=
  Nat.mul_div_cancel_left n pos

theorem evenCut_le (pos : 0 < k) {b : ℕ} (h : b ≤ k) : evenCut n k b ≤ n :=
  (monotone_evenCut n k h).trans_eq (evenCut_self pos n)

theorem evenCut_lt_succ (pos : 0 < k) (few : k ≤ n) (b : ℕ) : evenCut n k b < evenCut n k (b + 1) := by
  have wider : evenCut n k b + 1 ≤ (b * n + n) / k := by
    rw [evenCut, ← Nat.add_div_right _ pos]
    exact Nat.div_le_div_right (Nat.add_le_add_left few _)
  rwa [evenCut, evenCut, Nat.succ_mul]

theorem pieces_evenCut_ne_nil (pos : 0 < k) (few : k ≤ xs.length) {p : List α}
    (h : p ∈ pieces xs (evenCut xs.length k) k) : p ≠ [] := by
  obtain ⟨b, inside, rfl⟩ := List.mem_map.mp h
  have fits := evenCut_le (n := xs.length) pos (Nat.succ_le_of_lt (List.mem_range.mp inside))
  have wider := evenCut_lt_succ pos few b
  refine List.ne_nil_of_length_pos ?_
  rw [length_piece fits]
  exact Nat.sub_pos_of_lt wider

theorem flatten_evenCut (pos : 0 < k) (xs : List α) : (pieces xs (evenCut xs.length k) k).flatten = xs := by
  rw [flatten_pieces (monotone_evenCut _ _), evenCut_zero, evenCut_self pos, piece, List.drop_zero,
    List.take_length]

end TactileSensors.Scan
