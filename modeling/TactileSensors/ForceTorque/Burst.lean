import Mathlib.Data.List.GetD
import TactileSensors.Crc.Register
import TactileSensors.ForceTorque.Frame

/-!
# Bursts on the force/torque link

The bytes go out least significant bit first, and so do the two of the CRC, the low one first. A
frame passes its test exactly when the register, read through all of it, ends at zero; so what the
line adds to a good frame is noticed exactly when it does not end at zero when read alone.
-/

namespace TactileSensors.ForceTorque
open Crc

def polynomial : BitVec 16 := 0xA001

def bits (byte : UInt8) : List Bool :=
  (List.range 8).map fun i => byte.toBitVec.getLsbD i

def transmitted (data : List UInt8) : List Bool :=
  data.flatMap bits

def corrupted (frame error : List UInt8) : List UInt8 :=
  List.zipWith (· ^^^ ·) frame error

theorem crcBit_toBitVec (crc : UInt16) : (crcBit crc).toBitVec = shift polynomial crc.toBitVec := by
  have odd : crc &&& 1 ≠ 0 ↔ crc.toBitVec.getLsbD 0 = true := by
    rw [ne_eq, ← UInt16.toBitVec_inj, UInt16.toBitVec_and, ← Bool.not_eq_false, not_iff_not]
    constructor
    · intro h
      simpa using congrArg (fun x : BitVec 16 => x.getLsbD 0) h
    · intro h
      apply BitVec.eq_of_getLsbD_eq
      intro i hi
      cases i with
      | zero => simpa using h
      | succ i => simp [BitVec.getLsbD_one]
  unfold crcBit shift
  by_cases h : crc.toBitVec.getLsbD 0 = true
  · rw [if_pos (odd.mpr h), if_pos h]
    rfl
  · rw [if_neg (mt odd.mp h), if_neg h]
    rfl

theorem crcBit_iterate_toBitVec (n : Nat) (crc : UInt16) :
    (crcBit^[n] crc).toBitVec = (shift polynomial)^[n] crc.toBitVec := by
  induction n generalizing crc with
  | zero => rfl
  | succ n ih => rw [Function.iterate_succ_apply, ih, crcBit_toBitVec]; rfl

theorem getD_bits (byte : UInt8) (i : Nat) : (bits byte).getD i false = byte.toBitVec.getLsbD i := by
  by_cases inside : i < 8
  · simp [bits, inside]
  · simp [bits, inside, BitVec.getLsbD_of_ge _ i (Nat.le_of_not_lt inside)]

theorem length_bits (byte : UInt8) : (bits byte).length = 8 := by
  simp [bits]

theorem crcByte_toBitVec (crc : UInt16) (byte : UInt8) :
    (crcByte crc byte).toBitVec = read polynomial crc.toBitVec (bits byte) := by
  have same : byte.toUInt16.toBitVec = pattern 16 (bits byte) := by
    apply BitVec.eq_of_getLsbD_eq
    intro i hi
    rw [getLsbD_pattern, getD_bits, UInt8.toBitVec_toUInt16]
    simp
  rw [crcByte, crcBit_iterate_toBitVec, UInt16.toBitVec_xor, same,
    read_eq_shift_pattern _ (by rw [length_bits]; decide), length_bits]

theorem foldl_crcByte_toBitVec (crc : UInt16) (data : List UInt8) :
    (data.foldl crcByte crc).toBitVec = read polynomial crc.toBitVec (transmitted data) := by
  induction data generalizing crc with
  | nil => rfl
  | cons byte data ih =>
      rw [List.foldl_cons, ih, crcByte_toBitVec, ← read_append]
      rfl

theorem getLsbD_low (crc : UInt16) {i : Nat} (h : i < 8) :
    (crc &&& 0xFF).toUInt8.toBitVec.getLsbD i = crc.toBitVec.getLsbD i := by
  rw [UInt16.toBitVec_toUInt8, BitVec.getLsbD_setWidth, UInt16.toBitVec_and, BitVec.getLsbD_and]
  have mask : ∀ i < 8, (UInt16.toBitVec 0xFF).getLsbD i = true := by decide
  rw [mask i h, Bool.and_true, decide_eq_true h, Bool.true_and]

theorem getLsbD_high (crc : UInt16) {i : Nat} (h : i < 8) :
    (crc >>> 8 &&& 0xFF).toUInt8.toBitVec.getLsbD i = crc.toBitVec.getLsbD (8 + i) := by
  rw [getLsbD_low _ h, UInt16.toBitVec_shiftRight]
  exact BitVec.getLsbD_ushiftRight ..

theorem getD_bits_append (low high : UInt8) (i : Nat) :
    (bits low ++ bits high).getD i false =
      if i < 8 then low.toBitVec.getLsbD i else high.toBitVec.getLsbD (i - 8) := by
  split
  · rename_i inside
    rw [List.getD_append _ _ _ _ (by rwa [length_bits]), getD_bits]
  · rename_i beyond
    rw [List.getD_append_right _ _ _ _ (by rw [length_bits]; omega), length_bits, getD_bits]

theorem crc16_eq_iff (data : List UInt8) (low high : UInt8) :
    crc16 data = [low, high] ↔
      (data.foldl crcByte 0xFFFF).toBitVec = pattern 16 (bits low ++ bits high) := by
  rw [crc16]
  generalize data.foldl crcByte 0xFFFF = crc
  constructor
  · intro h
    obtain ⟨rfl, rfl⟩ : (crc &&& 0xFF).toUInt8 = low ∧ (crc >>> 8 &&& 0xFF).toUInt8 = high := by
      simpa using h
    apply BitVec.eq_of_getLsbD_eq
    intro i hi
    rw [getLsbD_pattern, getD_bits_append, decide_eq_true hi, Bool.true_and]
    split
    · rename_i inside
      exact (getLsbD_low crc inside).symm
    · rename_i beyond
      rw [getLsbD_high crc (by omega), Nat.add_sub_cancel' (Nat.le_of_not_lt beyond)]
  · intro h
    have bit : ∀ i < 16, crc.toBitVec.getLsbD i = (bits low ++ bits high).getD i false := by
      intro i hi
      rw [h, getLsbD_pattern, decide_eq_true hi, Bool.true_and]
    have same_low : (crc &&& 0xFF).toUInt8 = low := by
      apply UInt8.toBitVec_inj.mp
      apply BitVec.eq_of_getLsbD_eq
      intro i hi
      rw [getLsbD_low crc hi, bit i (by omega), getD_bits_append, if_pos hi]
    have same_high : (crc >>> 8 &&& 0xFF).toUInt8 = high := by
      apply UInt8.toBitVec_inj.mp
      apply BitVec.eq_of_getLsbD_eq
      intro i hi
      rw [getLsbD_high crc hi, bit _ (by omega), getD_bits_append, if_neg (by omega),
        Nat.add_sub_cancel_left]
    rw [same_low, same_high]

theorem crcHolds_append_iff {payload : List UInt8} {low high : UInt8} :
    crcHolds (payload ++ [low, high]) ↔
      read polynomial 0xFFFF (transmitted (payload ++ [low, high])) = 0 := by
  have split : (payload ++ [low, high]).length - 2 = payload.length := by simp
  have sixteen : (bits low ++ bits high).length ≤ 16 := by simp [length_bits]
  rw [crcHolds, split, List.take_left, List.drop_left, decide_eq_true_iff, crc16_eq_iff,
    foldl_crcByte_toBitVec]
  have tail : transmitted (payload ++ [low, high]) = transmitted payload ++ (bits low ++ bits high) := by
    simp [transmitted]
  rw [tail, read_append, read_eq_shift_pattern _ sixteen]
  constructor
  · intro same
    rw [show (0xFFFF : BitVec 16) = UInt16.toBitVec 0xFFFF from rfl, same, BitVec.xor_self]
    exact shift_iterate_zero _
  · intro zero
    exact BitVec.xor_eq_zero_iff.mp (shift_iterate_eq_zero (by decide) zero)

theorem crcHolds_iff {frame : List UInt8} (long : 2 ≤ frame.length) :
    crcHolds frame ↔ read polynomial 0xFFFF (transmitted frame) = 0 := by
  have two : (frame.drop (frame.length - 2)).length = 2 := by simp; omega
  obtain ⟨low, high, last⟩ := List.length_eq_two.mp two
  rw [← List.take_append_drop (frame.length - 2) frame, last]
  exact crcHolds_append_iff

theorem crcHolds_framed (payload : List UInt8) : crcHolds (framed payload) := by
  have split : (framed payload).length - 2 = payload.length := by simp [framed, crc16]
  rw [crcHolds, split, framed, List.take_left, List.drop_left]
  exact decide_eq_true rfl

theorem transmitted_cons (byte : UInt8) (data : List UInt8) :
    transmitted (byte :: data) = bits byte ++ transmitted data :=
  List.flatMap_cons

theorem length_transmitted (data : List UInt8) : (transmitted data).length = 8 * data.length := by
  simp [transmitted, List.length_flatMap, length_bits, Nat.mul_comm]

theorem transmitted_corrupted {frame error : List UInt8} (h : error.length = frame.length) :
    transmitted (corrupted frame error) =
      List.zipWith Bool.xor (transmitted frame) (transmitted error) := by
  induction frame generalizing error with
  | nil => simp [transmitted, corrupted]
  | cons byte frame ih =>
      cases error with
      | nil => cases h
      | cons wrong error =>
          have first : bits (byte ^^^ wrong) = List.zipWith Bool.xor (bits byte) (bits wrong) := by
            simp [bits, List.zipWith_map, List.zipWith_self]
          have rest := ih (Nat.succ.inj h)
          rw [corrupted, List.zipWith_cons_cons, transmitted_cons, transmitted_cons, transmitted_cons,
            first, ← corrupted, rest]
          exact (List.zipWith_append (by simp [length_bits])).symm

theorem bits_eq_zero {byte : UInt8} (clear : true ∉ bits byte) : byte = 0 := by
  apply UInt8.toBitVec_inj.mp
  apply BitVec.eq_of_getLsbD_eq
  intro i hi
  by_contra set
  refine clear (List.mem_map.mpr ⟨i, List.mem_range.mpr hi, ?_⟩)
  simpa using set

/-- All set bits lie within sixteen consecutive ones. -/
def Burst (sequence : List Bool) : Prop :=
  ∃ start, ∀ i, sequence[i]? = some true → start ≤ i ∧ i < start + 16

theorem Burst.split {sequence : List Bool} (burst : Burst sequence) :
    ∃ before window after, window.length ≤ 16 ∧
      sequence = List.replicate before false ++ window ++ List.replicate after false := by
  obtain ⟨start, within⟩ := burst
  have before : sequence.take start = List.replicate (sequence.take start).length false := by
    refine List.eq_replicate_of_mem fun bit hbit => ?_
    obtain ⟨i, hi, rfl⟩ := List.getElem_of_mem hbit
    by_contra set
    have place : sequence[i]? = some true := by
      rw [List.getElem?_eq_some_iff]
      exact ⟨by simp at hi; omega, by simpa using set⟩
    have := (within i place).1
    simp at hi
    omega
  have after : sequence.drop (start + 16) =
      List.replicate (sequence.drop (start + 16)).length false := by
    refine List.eq_replicate_of_mem fun bit hbit => ?_
    obtain ⟨i, hi, rfl⟩ := List.getElem_of_mem hbit
    by_contra set
    have place : sequence[start + 16 + i]? = some true := by
      rw [List.getElem?_eq_some_iff]
      exact ⟨by simp at hi; omega, by simpa using set⟩
    have := (within _ place).2
    omega
  refine ⟨(sequence.take start).length, (sequence.drop start).take 16,
    (sequence.drop (start + 16)).length, List.length_take_le .., ?_⟩
  rw [← before, ← after, ← List.drop_drop, List.append_assoc, List.take_append_drop,
    List.take_append_drop]

/-- Whatever the message, and wherever in the frame the burst is. -/
theorem burst_rejected (payload error : List UInt8)
    (length : error.length = (framed payload).length) (nonzero : ∃ byte ∈ error, byte ≠ 0)
    (burst : Burst (transmitted error)) : crcHolds (corrupted (framed payload) error) = false := by
  have set : true ∈ transmitted error := by
    obtain ⟨byte, member, nonzero⟩ := nonzero
    by_contra clear
    refine nonzero (bits_eq_zero fun h => clear ?_)
    exact List.mem_flatMap.mpr ⟨byte, member, h⟩
  have noticed : read polynomial 0 (transmitted error) ≠ 0 := by
    obtain ⟨before, window, after, short, split⟩ := burst.split
    rw [split] at set ⊢
    refine read_burst_ne_zero (by decide) short ?_ before after
    simpa using set
  have long : 2 ≤ (framed payload).length := by simp [framed, crc16]
  have same_length : (transmitted (framed payload)).length = (transmitted error).length := by
    simp [length_transmitted, length]
  have good := (crcHolds_iff long).mp (crcHolds_framed payload)
  have sum := @read_xor _ polynomial 0xFFFF 0 _ _ same_length
  rw [good, ← transmitted_corrupted length] at sum
  rw [← Bool.not_eq_true, crcHolds_iff (by simpa [corrupted, length] using long)]
  intro accepted
  rw [show (0xFFFF ^^^ 0 : BitVec 16) = 0xFFFF from rfl, accepted] at sum
  exact noticed (by simpa using sum.symm)

theorem burst_rejected_across_crc :
    crcHolds (framed [0x20, 0x4E]) ∧
      crcHolds (corrupted (framed [0x20, 0x4E]) [0x00, 0x80, 0xFF, 0x7F]) = false := by
  have length : [0x00, 0x80, 0xFF, 0x7F].length = (framed [0x20, 0x4E]).length := by
    simp [framed, crc16]
  refine ⟨crcHolds_framed _, burst_rejected [0x20, 0x4E] _ length ⟨0x80, by decide, by decide⟩ ?_⟩
  have sequence : transmitted [0x00, 0x80, 0xFF, 0x7F] =
      List.replicate 15 false ++ List.replicate 16 true ++ [false] := by decide +kernel
  rw [sequence]
  refine ⟨15, fun i set => ?_⟩
  by_contra outside
  have clear : ∀ i < 32, ¬ (15 ≤ i ∧ i < 15 + 16) →
      (List.replicate 15 false ++ List.replicate 16 true ++ [false])[i]? ≠ some true := by
    decide +kernel
  exact clear i (List.getElem?_eq_some_iff.mp set).1 outside set

end TactileSensors.ForceTorque
