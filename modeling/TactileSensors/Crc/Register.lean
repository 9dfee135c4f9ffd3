import Mathlib.Data.List.Basic
import Mathlib.Logic.Function.Iterate

/-!
# Cyclic redundancy registers

A register that shifts right and takes a polynomial in whenever a one falls out. It is linear in
exclusive or, and a polynomial with its highest bit set makes it lossless: a register that is not
zero never becomes zero by shifting. So as many bits as the register is wide, read from zero, leave
it zero only if they are all zero.
-/

namespace TactileSensors.Crc

variable {w : Nat} {poly : BitVec w}

def shift (poly r : BitVec w) : BitVec w :=
  if r.getLsbD 0 then r >>> 1 ^^^ poly else r >>> 1

def lowest (w : Nat) (bit : Bool) : BitVec w :=
  if bit then 1#w else 0#w

def absorb (poly r : BitVec w) (bit : Bool) : BitVec w :=
  shift poly (r ^^^ lowest w bit)

def read (poly r : BitVec w) (bits : List Bool) : BitVec w :=
  bits.foldl (absorb poly) r

theorem shift_zero : shift poly 0 = 0 := by
  simp [shift]

theorem shift_xor (a b : BitVec w) : shift poly (a ^^^ b) = shift poly a ^^^ shift poly b := by
  simp only [shift, BitVec.getLsbD_xor, BitVec.ushiftRight_xor_distrib]
  cases a.getLsbD 0 <;> cases b.getLsbD 0 <;> simp [BitVec.xor_assoc, BitVec.xor_comm poly]

theorem lowest_xor (a b : Bool) : lowest w (a ^^ b) = lowest w a ^^^ lowest w b := by
  cases a <;> cases b <;> simp [lowest]

theorem read_append (r : BitVec w) (first rest : List Bool) :
    read poly r (first ++ rest) = read poly (read poly r first) rest :=
  List.foldl_append

theorem read_xor (r s : BitVec w) {xs ys : List Bool} (h : xs.length = ys.length) :
    read poly (r ^^^ s) (List.zipWith Bool.xor xs ys) = read poly r xs ^^^ read poly s ys := by
  induction xs generalizing r s ys with
  | nil =>
      obtain rfl := List.eq_nil_of_length_eq_zero h.symm
      rfl
  | cons x xs ih =>
      cases ys with
      | nil => cases h
      | cons y ys =>
          have step : absorb poly (r ^^^ s) (x ^^ y) = absorb poly r x ^^^ absorb poly s y := by
            rw [absorb, absorb, absorb, ← shift_xor, lowest_xor]
            congr 1
            ac_rfl
          rw [List.zipWith_cons_cons, read, List.foldl_cons, step]
          exact ih _ _ (Nat.succ.inj h)

theorem read_replicate_false (r : BitVec w) (n : Nat) :
    read poly r (List.replicate n false) = (shift poly)^[n] r := by
  induction n generalizing r with
  | zero => rfl
  | succ n ih =>
      have first : absorb poly r false = shift poly r := by simp [absorb, lowest]
      rw [List.replicate_succ, read, List.foldl_cons, ← read, first, ih, Function.iterate_succ_apply]

theorem shift_eq_zero (high : poly.msb = true) {r : BitVec w} (h : shift poly r = 0) : r = 0 := by
  unfold shift at h
  split at h
  · -- the polynomial's highest bit stays
    have top := congrArg BitVec.msb h
    have positive : 0 < w := by
      by_contra none
      obtain rfl : w = 0 := by omega
      simp [BitVec.msb, BitVec.getMsbD] at high
    simp [high, BitVec.msb_ushiftRight] at top
  · rename_i even
    apply BitVec.eq_of_getLsbD_eq
    intro i hi
    cases i with
    | zero => simpa using even
    | succ i =>
        have same := congrArg (fun x : BitVec w => x.getLsbD i) h
        simpa [Nat.add_comm] using same

theorem shift_iterate_zero (n : Nat) : (shift poly)^[n] 0 = 0 :=
  Function.iterate_fixed shift_zero n

theorem shift_iterate_eq_zero (high : poly.msb = true) {n : Nat} {r : BitVec w}
    (h : (shift poly)^[n] r = 0) : r = 0 := by
  induction n generalizing r with
  | zero => exact h
  | succ n ih =>
      rw [Function.iterate_succ_apply] at h
      exact shift_eq_zero high (ih h)

def pattern (w : Nat) : List Bool → BitVec w
  | [] => 0
  | bit :: rest => lowest w bit ^^^ pattern w rest <<< 1

theorem getLsbD_lowest (bit : Bool) (i : Nat) :
    (lowest w bit).getLsbD i = (decide (i < w) && decide (i = 0) && bit) := by
  cases bit with
  | false => simp [lowest]
  | true =>
      simp only [lowest, if_true, BitVec.getLsbD_one, Bool.and_true]
      by_cases first : i = 0 <;> simp [first]

theorem getLsbD_pattern (bits : List Bool) (i : Nat) :
    (pattern w bits).getLsbD i = (decide (i < w) && bits.getD i false) := by
  induction bits generalizing i with
  | nil => simp [pattern]
  | cons bit rest ih =>
      rw [pattern, BitVec.getLsbD_xor, getLsbD_lowest, BitVec.getLsbD_shiftLeft]
      cases i with
      | zero => simp
      | succ i =>
          rw [Nat.add_sub_cancel, ih]
          by_cases inside : i + 1 < w
          · have : i < w := by omega
            simp [inside, this]
          · simp [inside]

theorem shift_pattern_cons {rest : List Bool} (short : rest.length < w) :
    shift poly (pattern w rest <<< 1) = pattern w rest := by
  have even : (pattern w rest <<< 1).getLsbD 0 = false := by simp
  rw [shift, even, if_neg Bool.false_ne_true]
  apply BitVec.eq_of_getLsbD_eq
  intro i hi
  simp only [BitVec.getLsbD_ushiftRight, BitVec.getLsbD_shiftLeft, getLsbD_pattern]
  by_cases inside : i < rest.length
  · have : 1 + i < w := by omega
    simp [this]
  · have beyond : rest.getD i false = false := by simp [Nat.le_of_not_lt inside]
    simp only [Nat.add_sub_cancel_left, beyond, Bool.and_false]

theorem read_eq_shift_pattern (r : BitVec w) {bits : List Bool} (short : bits.length ≤ w) :
    read poly r bits = (shift poly)^[bits.length] (r ^^^ pattern w bits) := by
  induction bits generalizing r with
  | nil => simp [read, pattern]
  | cons bit rest ih =>
      have fewer : rest.length < w := short
      have rest_in :
          absorb poly r bit ^^^ pattern w rest = shift poly (r ^^^ pattern w (bit :: rest)) := by
        rw [pattern, ← BitVec.xor_assoc, shift_xor _ (pattern w rest <<< 1), shift_pattern_cons fewer]
        rfl
      rw [read, List.foldl_cons, ← read, ih _ (Nat.le_of_lt fewer), rest_in, List.length_cons,
        Function.iterate_succ_apply]

theorem pattern_ne_zero {bits : List Bool} (short : bits.length ≤ w) (set : true ∈ bits) :
    pattern w bits ≠ 0 := by
  intro zero
  obtain ⟨i, hi, one⟩ := List.getElem_of_mem set
  have inside : i < w := Nat.lt_of_lt_of_le hi short
  have bit := @getLsbD_pattern w bits i
  simp [zero, inside, hi, one] at bit

theorem read_burst_ne_zero (high : poly.msb = true) {burst : List Bool} (short : burst.length ≤ w)
    (set : true ∈ burst) (before after : Nat) :
    read poly 0 (List.replicate before false ++ burst ++ List.replicate after false) ≠ 0 := by
  intro zero
  rw [read_append, read_append, read_replicate_false, read_replicate_false, shift_iterate_zero,
    read_eq_shift_pattern _ short] at zero
  have none_set := shift_iterate_eq_zero high (shift_iterate_eq_zero high zero)
  exact pattern_ne_zero short set (by simpa using none_set)

end TactileSensors.Crc
