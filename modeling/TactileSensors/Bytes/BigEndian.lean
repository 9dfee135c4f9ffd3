import Mathlib.Data.List.Basic
import Mathlib.Tactic.Ring

/-!
# Big-endian numbers

Bytes as a number, the first one highest, and a number as so many bytes.
-/

namespace TactileSensors.Bytes

def number (bytes : List UInt8) : Nat :=
  bytes.foldl (fun n byte => n * 256 + byte.toNat) 0

def ofNumber : Nat → Nat → List UInt8
  | 0, _ => []
  | count + 1, n => ofNumber count (n / 256) ++ [n.toUInt8]

@[simp] theorem number_concat (bytes : List UInt8) (byte : UInt8) :
    number (bytes ++ [byte]) = number bytes * 256 + byte.toNat := by
  simp [number]

@[simp] theorem length_ofNumber (count n : Nat) : (ofNumber count n).length = count := by
  induction count generalizing n with
  | zero => rfl
  | succ count ih => simp [ofNumber, ih]

theorem number_ofNumber {count n : Nat} (small : n < 256 ^ count) : number (ofNumber count n) = n := by
  induction count generalizing n with
  | zero =>
      obtain rfl : n = 0 := by omega
      rfl
  | succ count ih =>
      have fewer : n / 256 < 256 ^ count := Nat.div_lt_of_lt_mul (by rwa [Nat.mul_comm, ← Nat.pow_succ])
      have last : n.toUInt8.toNat = n % 256 := UInt8.toNat_ofNat'
      rw [ofNumber, number_concat, ih fewer, last]
      exact Nat.div_add_mod' n 256

/-- The numbers of `width` bytes each; what is left of the bytes is less than one. -/
def words (width : Nat) (bytes : List UInt8) : List Nat :=
  (List.range (bytes.length / width)).map fun i => number ((bytes.drop (width * i)).take width)

def ofWords (width : Nat) (numbers : List Nat) : List UInt8 :=
  numbers.flatMap (ofNumber width)

@[simp] theorem length_words (width : Nat) (bytes : List UInt8) :
    (words width bytes).length = bytes.length / width := by
  simp [words]

@[simp] theorem length_ofWords (width : Nat) (numbers : List Nat) :
    (ofWords width numbers).length = numbers.length * width := by
  simp [ofWords, List.length_flatMap]

theorem words_append {width : Nat} (pos : 0 < width) {first : List UInt8} (rest : List UInt8)
    (whole : first.length = width) :
    words width (first ++ rest) = number first :: words width rest := by
  have count : (first ++ rest).length / width = rest.length / width + 1 := by
    rw [List.length_append, whole, Nat.add_div_left _ pos]
  have later (i : Nat) : (first ++ rest).drop (width * (i + 1)) = rest.drop (width * i) := by
    rw [Nat.mul_succ, Nat.add_comm, ← List.drop_drop, ← whole, List.drop_left]
  rw [words, count, List.range_succ_eq_map, List.map_cons, List.map_map]
  congr 1
  · rw [Nat.mul_zero, List.drop_zero, ← whole, List.take_left]
  · exact List.map_congr_left fun i _ => by simp only [Function.comp_apply, Nat.succ_eq_add_one, later]

theorem words_ofWords {width : Nat} (pos : 0 < width) {numbers : List Nat}
    (small : ∀ n ∈ numbers, n < 256 ^ width) : words width (ofWords width numbers) = numbers := by
  induction numbers with
  | nil => simp [words, ofWords]
  | cons n numbers ih =>
      have tail := ih fun m hm => small m (List.mem_cons_of_mem n hm)
      rw [ofWords, List.flatMap_cons, words_append pos _ (length_ofNumber width n),
        number_ofNumber (small n List.mem_cons_self)]
      exact congrArg (n :: ·) tail

theorem words_take {width count : Nat} (pos : 0 < width) (bytes : List UInt8) :
    words width (bytes.take (width * count)) =
      (List.range (min count (bytes.length / width))).map fun i =>
        number ((bytes.drop (width * i)).take width) := by
  have whole : (bytes.take (width * count)).length / width = min count (bytes.length / width) := by
    rw [List.length_take, Nat.mul_comm]
    rcases Nat.le_total (count * width) bytes.length with enough | short
    · have : count ≤ bytes.length / width := (Nat.le_div_iff_mul_le pos).mpr enough
      rw [Nat.min_eq_left enough, Nat.min_eq_left this, Nat.mul_div_cancel _ pos]
    · have : bytes.length / width ≤ count := by
        rw [← Nat.mul_div_cancel count pos]
        exact Nat.div_le_div_right short
      rw [Nat.min_eq_right short, Nat.min_eq_right this]
  rw [words, whole]
  refine List.map_congr_left fun i hi => ?_
  have inside : width * i + width ≤ width * count := by
    rw [← Nat.mul_succ]
    exact Nat.mul_le_mul_left width (Nat.lt_of_lt_of_le (List.mem_range.mp hi) (Nat.min_le_left _ _))
  rw [List.drop_take, List.take_take, Nat.min_eq_left (Nat.le_sub_of_add_le' inside)]

theorem take_drop_eq_map {bytes : List UInt8} {i width : Nat} (inside : i + width ≤ bytes.length) :
    (bytes.drop i).take width = (List.range width).map fun j => bytes.getD (i + j) 0 := by
  refine List.ext_getElem (by simp; omega) fun j hj _ => ?_
  have here : i + j < bytes.length := by simp at hj; omega
  simp [List.getD_eq_getElem?_getD, List.getElem?_eq_getElem here]

theorem shiftLeft_or_byte (n : Nat) (byte : UInt8) : n <<< 8 ||| byte.toNat = n * 256 + byte.toNat := by
  rw [← Nat.shiftLeft_add_eq_or_of_lt byte.toNat_lt, Nat.shiftLeft_eq]

theorem or_pair (a b : UInt8) : a.toNat <<< 8 ||| b.toNat = number [a, b] := by
  rw [shiftLeft_or_byte]
  simp [number]

theorem or_eight (a b c d e f g h : UInt8) :
    a.toNat <<< 56 ||| b.toNat <<< 48 ||| c.toNat <<< 40 ||| d.toNat <<< 32 ||| e.toNat <<< 24 |||
      f.toNat <<< 16 ||| g.toNat <<< 8 ||| h.toNat = number [a, b, c, d, e, f, g, h] := by
  have nested : number [a, b, c, d, e, f, g, h] =
      ((((((a.toNat <<< 8 ||| b.toNat) <<< 8 ||| c.toNat) <<< 8 ||| d.toNat) <<< 8 ||| e.toNat) <<< 8 |||
        f.toNat) <<< 8 ||| g.toNat) <<< 8 ||| h.toNat := by
    simp only [shiftLeft_or_byte]
    simp [number]
  rw [nested]
  simp only [Nat.shiftLeft_or_distrib, ← Nat.shiftLeft_add]

theorem and_two_pow_ne_zero (n i : Nat) : n &&& 2 ^ i ≠ 0 ↔ n.testBit i = true := by
  rw [← Bool.not_eq_false, not_iff_not]
  constructor
  · intro zero
    simpa using congrArg (·.testBit i) zero
  · intro clear
    apply Nat.eq_of_testBit_eq
    intro j
    rw [Nat.testBit_and, Nat.testBit_two_pow, Nat.zero_testBit]
    by_cases same : i = j
    · subst same
      rw [clear, Bool.false_and]
    · rw [decide_eq_false same, Bool.and_false]

theorem and_sign_bit {n : Nat} (small : n < 65536) : n &&& 0x8000 ≠ 0 ↔ 32768 ≤ n := by
  rw [show 0x8000 = 2 ^ 15 from rfl, and_two_pow_ne_zero, Nat.testBit_eq_decide_div_mod_eq,
    decide_eq_true_iff]
  omega

theorem toInt_toInt16 (value : UInt16) :
    value.toInt16.toInt =
      if 32768 ≤ value.toNat then (value.toNat : Int) - 65536 else value.toNat := by
  have bits : value.toInt16.toInt = value.toBitVec.toInt := rfl
  rw [bits, BitVec.toInt_eq_toNat_cond]
  simp only [UInt16.toNat_toBitVec]
  split <;> split <;> omega

end TactileSensors.Bytes
