import TactileSensors.Bytes.BigEndian
import TactileSensors.Modbus.Message

/-!
# What the message buffer holds

A message is looked at as the bytes before the index and those received and not yet got. What lies
further on in the buffer, from the messages before, is never looked at.
-/

namespace TactileSensors.Modbus
open ForceTorque Machine

structure View where
  unitId : UInt8
  fc : UInt8
  broadcast : Bool
  ignored : Bool
  taken : List UInt8
  ahead : List UInt8

structure Message.Shows (m : Message) (v : View) : Prop where
  unitId : m.unitId = v.unitId
  fc : m.fc = v.fc
  broadcast : m.broadcast = v.broadcast
  ignored : m.ignored = v.ignored
  index : m.bufIdx = v.taken.length
  room : v.taken.length + v.ahead.length ≤ bufferBytes
  bytes : m.slice 0 (v.taken.length + v.ahead.length) = v.taken ++ v.ahead

namespace Message

@[simp] theorem length_slice (m : Message) (start count : Nat) : (m.slice start count).length = count := by
  simp [slice]

theorem slice_add (m : Message) (start first second : Nat) :
    m.slice start (first + second) = m.slice start first ++ m.slice (start + first) second := by
  simp [slice, List.range_add, Nat.add_assoc]

theorem slice_congr {m m' : Message} {start count : Nat}
    (same : ∀ i, start ≤ i → i < start + count → m.buf i = m'.buf i) :
    m.slice start count = m'.slice start count :=
  List.map_congr_left fun i hi =>
    same (start + i) (Nat.le_add_right _ _) (Nat.add_lt_add_left (List.mem_range.mp hi) _)

theorem slice_fill (m : Message) (start : Nat) (bytes : List UInt8) :
    (m.fill start bytes).slice start bytes.length = bytes := by
  apply List.ext_getElem (by simp)
  intro i hi hi'
  simp [slice, fill, hi']

theorem slice_fill_before (m : Message) (start : Nat) (bytes : List UInt8) {from_ count : Nat}
    (before : from_ + count ≤ start) : (m.fill start bytes).slice from_ count = m.slice from_ count := by
  refine slice_congr fun i _ hi => ?_
  have outside : ¬ (start ≤ i ∧ i < start + bytes.length) := by omega
  exact if_neg outside

theorem Shows.taken_eq {m : Message} {v : View} (shows_ : m.Shows v) :
    m.slice 0 m.bufIdx = v.taken := by
  have whole := shows_.bytes
  rw [slice_add] at whole
  rw [shows_.index]
  exact (List.append_inj whole (by simp)).1

theorem Shows.ahead_eq {m : Message} {v : View} (shows_ : m.Shows v) :
    m.slice m.bufIdx v.ahead.length = v.ahead := by
  have whole := shows_.bytes
  rw [slice_add, Nat.zero_add] at whole
  rw [shows_.index]
  exact (List.append_inj whole (by simp)).2

end Message

def word (high low : UInt8) : UInt16 :=
  high.toUInt16 <<< 8 ||| low.toUInt16

def bytesOf (register : UInt16) : List UInt8 :=
  [((register >>> 8) &&& 0xFF).toUInt8, register.toUInt8]

theorem toNat_word (high low : UInt8) : (word high low).toNat = high.toNat * 256 + low.toNat := by
  have := high.toNat_lt
  have := low.toNat_lt
  have fits : high.toNat <<< 8 < 65536 := by rw [Nat.shiftLeft_eq]; omega
  simp [word, Nat.mod_eq_of_lt fits, Bytes.shiftLeft_or_byte]

theorem toNat_high (register : UInt16) :
    ((register >>> 8) &&& 0xFF).toUInt8.toNat = register.toNat / 256 := by
  have := register.toNat_lt
  simp [Nat.shiftRight_eq_div_pow, Nat.and_two_pow_sub_one_eq_mod _ 8]
  omega

theorem word_bytesOf (register : UInt16) :
    word ((register >>> 8) &&& 0xFF).toUInt8 register.toUInt8 = register := by
  apply UInt16.toNat_inj.mp
  rw [toNat_word, toNat_high, UInt16.toNat_toUInt8]
  omega

theorem bytesOf_word (high low : UInt8) : bytesOf (word high low) = [high, low] := by
  have := high.toNat_lt
  have := low.toNat_lt
  simp only [bytesOf, List.cons.injEq, and_true]
  constructor
  · apply UInt8.toNat_inj.mp
    rw [toNat_high, toNat_word]
    omega
  · apply UInt8.toNat_inj.mp
    rw [UInt16.toNat_toUInt8, toNat_word]
    omega

theorem swapped_eq_word (crc : UInt16) :
    (crc <<< 8) ||| (crc >>> 8) = word crc.toUInt8 ((crc >>> 8) &&& 0xFF).toUInt8 := by
  have shifted : crc.toUInt8.toUInt16 <<< 8 = crc <<< 8 := by
    apply UInt16.toNat_inj.mp
    simp [Nat.shiftLeft_eq]
    omega
  have high : ((crc >>> 8) &&& 0xFF).toUInt8.toUInt16 = crc >>> 8 := by
    apply UInt16.toNat_inj.mp
    rw [UInt8.toNat_toUInt16, toNat_high]
    simp [Nat.shiftRight_eq_div_pow]
  rw [word, shifted, high]

theorem bytesOf_nmbsCrcCalc (data : List UInt8) : bytesOf (nmbsCrcCalc data) = crc16 data := by
  have low (crc : UInt16) : crc.toUInt8 = (crc &&& 0xFF).toUInt8 := by
    apply UInt8.toNat_inj.mp
    simp [Nat.and_two_pow_sub_one_eq_mod _ 8]
  rw [nmbsCrcCalc, swapped_eq_word, bytesOf_word, low, crc16]

def wordsOf : List UInt8 → List UInt16
  | high :: low :: rest => word high low :: wordsOf rest
  | _ => []

theorem wordsOf_bytesOf (registers : List UInt16) : wordsOf (registers.flatMap bytesOf) = registers := by
  induction registers with
  | nil => rfl
  | cons register registers ih =>
      rw [List.flatMap_cons, bytesOf, List.cons_append, List.cons_append, List.nil_append, wordsOf, ih,
        word_bytesOf]

theorem bytesOf_wordsOf {count : Nat} {bytes : List UInt8} (even : bytes.length = 2 * count) :
    (wordsOf bytes).flatMap bytesOf = bytes := by
  induction count generalizing bytes with
  | zero => rw [List.length_eq_zero_iff.mp even]; rfl
  | succ count ih =>
      match bytes, even with
      | high :: low :: rest, even =>
          have shorter : rest.length = 2 * count := by
            simp only [List.length_cons] at even
            omega
          rw [wordsOf, List.flatMap_cons, bytesOf_word, ih shorter]
          rfl

theorem length_flatMap_bytesOf (registers : List UInt16) :
    (registers.flatMap bytesOf).length = 2 * registers.length := by
  simp [List.length_flatMap, bytesOf, Nat.mul_comm]

theorem length_wordsOf {count : Nat} {bytes : List UInt8} (even : bytes.length = 2 * count) :
    (wordsOf bytes).length = count := by
  have whole := length_flatMap_bytesOf (wordsOf bytes)
  rw [bytesOf_wordsOf even, even] at whole
  omega

namespace View

def get (v : View) (count : Nat) : View :=
  { v with taken := v.taken ++ v.ahead.take count, ahead := v.ahead.drop count }

def put (v : View) (bytes : List UInt8) : View :=
  { v with taken := v.taken ++ bytes, ahead := [] }

def receive (v : View) (bytes : List UInt8) : View :=
  { v with ahead := bytes }

def cleared : View :=
  ⟨0, 0, false, false, [], []⟩

end View

variable {σ : Type} {s : Nmbs σ} {v : View}

theorem Message.Shows.advance {m : Message} (shows_ : m.Shows v) {count : Nat}
    (there : count ≤ v.ahead.length) : (m.advance count).Shows (v.get count) where
  unitId := shows_.unitId
  fc := shows_.fc
  broadcast := shows_.broadcast
  ignored := shows_.ignored
  index := by simp [Message.advance, View.get, shows_.index, Nat.min_eq_left there]
  room := by
    have := shows_.room
    simp only [View.get, List.length_append, List.length_take, List.length_drop]
    omega
  bytes := by
    have whole : (v.get count).taken ++ (v.get count).ahead = v.taken ++ v.ahead := by
      simp [View.get]
    rw [← List.length_append, whole, List.length_append]
    exact shows_.bytes

theorem Message.Shows.fill {m : Message} (shows_ : m.Shows v) {bytes : List UInt8}
    (room : v.taken.length + bytes.length ≤ bufferBytes) :
    (m.fill m.bufIdx bytes).Shows (v.receive bytes) where
  unitId := shows_.unitId
  fc := shows_.fc
  broadcast := shows_.broadcast
  ignored := shows_.ignored
  index := shows_.index
  room := room
  bytes := by
    have before := slice_fill_before m m.bufIdx bytes (Nat.le_of_eq (Nat.zero_add _))
    rw [shows_.taken_eq] at before
    rw [slice_add, Nat.zero_add]
    have index : (v.receive bytes).taken.length = m.bufIdx := shows_.index.symm
    rw [index, before]
    exact congrArg (v.taken ++ ·) (slice_fill m m.bufIdx bytes)

theorem Message.Shows.put {m : Message} (shows_ : m.Shows v) {bytes : List UInt8}
    (room : v.taken.length + bytes.length ≤ bufferBytes) :
    ((m.fill m.bufIdx bytes).advance bytes.length).Shows (v.put bytes) := by
  have filled := (shows_.fill room).advance (Nat.le_refl bytes.length)
  rwa [View.get, View.receive, List.take_length, List.drop_length] at filled

theorem get1_shows {byte : UInt8} {rest : List UInt8} (shows_ : s.msg.Shows v)
    (next : v.ahead = byte :: rest) :
    ∃ m, get1 s = .ok byte { s with msg := m } ∧ m.Shows (v.get 1) := by
  have there : 1 ≤ v.ahead.length := by simp [next]
  have first : s.msg.buf s.msg.bufIdx = byte := by
    have ahead := shows_.ahead_eq
    rw [next, List.length_cons, Message.slice, List.range_succ_eq_map] at ahead
    exact (List.cons.inj ahead).1
  refine ⟨s.msg.advance 1, ?_, shows_.advance there⟩
  have inside : s.msg.bufIdx + 1 ≤ bufferBytes := by
    have := shows_.room
    rw [shows_.index]
    omega
  rw [get1, if_pos inside, first]
  rfl

theorem get2_shows {high low : UInt8} {rest : List UInt8} (shows_ : s.msg.Shows v)
    (next : v.ahead = high :: low :: rest) :
    ∃ m, get2 s = .ok (word high low) { s with msg := m } ∧ m.Shows (v.get 2) := by
  have there : 2 ≤ v.ahead.length := by simp [next]
  have both : s.msg.buf s.msg.bufIdx = high ∧ s.msg.buf (s.msg.bufIdx + 1) = low := by
    have ahead := shows_.ahead_eq
    rw [next, List.length_cons, List.length_cons, Message.slice, List.range_succ_eq_map,
      List.range_succ_eq_map] at ahead
    exact ⟨(List.cons.inj ahead).1, (List.cons.inj (List.cons.inj ahead).2).1⟩
  refine ⟨s.msg.advance 2, ?_, shows_.advance there⟩
  have inside : s.msg.bufIdx + 2 ≤ bufferBytes := by
    have := shows_.room
    rw [shows_.index]
    omega
  rw [get2, if_pos inside, both.1, both.2]
  rfl

theorem put_shows (shows_ : s.msg.Shows v) {bytes : List UInt8}
    (room : v.taken.length + bytes.length ≤ bufferBytes) :
    ∃ m, put bytes s = .ok () { s with msg := m } ∧ m.Shows (v.put bytes) := by
  refine ⟨_, ?_, shows_.put room⟩
  rw [put, if_pos (by rw [shows_.index]; exact room)]
  rfl

theorem put1_shows (shows_ : s.msg.Shows v) (data : UInt8) (room : v.taken.length + 1 ≤ bufferBytes) :
    ∃ m, put1 data s = .ok () { s with msg := m } ∧ m.Shows (v.put [data]) :=
  put_shows shows_ room

theorem put2_shows (shows_ : s.msg.Shows v) (data : UInt16) (room : v.taken.length + 2 ≤ bufferBytes) :
    ∃ m, put2 data s = .ok () { s with msg := m } ∧ m.Shows (v.put (bytesOf data)) :=
  put_shows shows_ room

theorem getRegisters_shows {count : Nat} (shows_ : s.msg.Shows v) (there : 2 * count ≤ v.ahead.length) :
    ∃ m, getRegisters count s = .ok (wordsOf (v.ahead.take (2 * count))) { s with msg := m } ∧
      m.Shows (v.get (2 * count)) := by
  induction count generalizing s v with
  | zero => exact ⟨s.msg, by simp [getRegisters, pure_apply, wordsOf], by simpa [View.get] using shows_⟩
  | succ count ih =>
      obtain ⟨high, low, rest, next⟩ : ∃ high low rest, v.ahead = high :: low :: rest := by
        match v.ahead, there with
        | high :: low :: rest, _ => exact ⟨high, low, rest, rfl⟩
      obtain ⟨m, first, holds⟩ := get2_shows shows_ next
      have ahead : (v.get 2).ahead = rest := by simp [View.get, next]
      have enough : 2 * count ≤ (v.get 2).ahead.length := by
        rw [next, List.length_cons, List.length_cons] at there
        rw [ahead]
        omega
      obtain ⟨m', others, holds'⟩ := @ih { s with msg := m } _ holds enough
      refine ⟨m', ?_, ?_⟩
      · rw [getRegisters, bind_of_ok first, bind_of_ok others, pure_apply, ahead, next,
          show 2 * (count + 1) = 2 * count + 1 + 1 from rfl, List.take_succ_cons, List.take_succ_cons,
          wordsOf]
      · have both : (v.get 2).get (2 * count) = v.get (2 * (count + 1)) := by
          simp [View.get, next, show 2 * (count + 1) = 2 * count + 1 + 1 from rfl]
        rwa [both] at holds'

theorem putRegisters_shows {registers : Nat → UInt16} {i count : Nat} (shows_ : s.msg.Shows v)
    (room : v.taken.length + 2 * count ≤ bufferBytes) (empty : v.ahead = []) :
    ∃ m, putRegisters registers i count s = .ok () { s with msg := m } ∧
      m.Shows (v.put ((List.range' i count).flatMap fun j => bytesOf (registers j))) := by
  induction count generalizing s v i with
  | zero =>
      refine ⟨s.msg, rfl, ?_⟩
      obtain ⟨unitId, fc, broadcast, ignored, taken, ahead⟩ := v
      obtain rfl : ahead = [] := empty
      simpa [View.put] using shows_
  | succ count ih =>
      obtain ⟨m, first, holds⟩ := put2_shows shows_ (registers i) (by omega)
      have room' : (v.put (bytesOf (registers i))).taken.length + 2 * count ≤ bufferBytes := by
        simp only [View.put, List.length_append, bytesOf, List.length_cons, List.length_nil]
        omega
      obtain ⟨m', others, holds'⟩ := @ih { s with msg := m } _ (i + 1) holds room' rfl
      refine ⟨m', ?_, ?_⟩
      · rw [putRegisters, bind_of_ok first, others]
      · simpa [View.put, List.range'_succ] using holds'

def written (quantity : UInt16) (registers : Nat → UInt16) : List UInt8 :=
  bytesOf quantity ++ [(quantity * 2).toUInt8] ++
    (List.range' 0 quantity.toNat).flatMap fun i => bytesOf (registers i)

theorem length_written (quantity : UInt16) (registers : Nat → UInt16) :
    (written quantity registers).length = 3 + 2 * quantity.toNat := by
  simp [written, List.length_flatMap, bytesOf]
  omega

theorem putWritten_shows {α : Type} {quantity : UInt16} {registers : Nat → UInt16} (rest : Call σ α)
    (shows_ : s.msg.Shows v) (room : v.taken.length + 3 + 2 * quantity.toNat ≤ bufferBytes) :
    ∃ m, (do
        put2 quantity
        put1 (quantity * 2).toUInt8
        putRegisters registers 0 quantity.toNat
        rest) s = rest { s with msg := m } ∧ m.Shows (v.put (written quantity registers)) := by
  obtain ⟨m₁, put₁, holds₁⟩ := put2_shows shows_ quantity (by omega)
  obtain ⟨m₂, put₂, holds₂⟩ := @put1_shows _ { s with msg := m₁ } _ holds₁ (quantity * 2).toUInt8
    (by simp [View.put, bytesOf]; omega)
  obtain ⟨m₃, put₃, holds₃⟩ := @putRegisters_shows _ { s with msg := m₂ } _ registers 0 quantity.toNat
    holds₂ (by simp [View.put, bytesOf]; omega) rfl
  refine ⟨m₃, ?_, ?_⟩
  · rw [bind_of_ok put₁, bind_of_ok put₂, bind_of_ok put₃]
  · simpa [View.put, written] using holds₃

theorem msgCrc_shows (shows_ : s.msg.Shows v) : msgCrc s = .ok (nmbsCrcCalc v.taken) s := by
  have inside : s.msg.bufIdx ≤ bufferBytes := by
    rw [shows_.index]
    exact Nat.le_trans (Nat.le_add_right _ _) shows_.room
  rw [msgCrc, if_pos inside, shows_.taken_eq]

theorem msgBufReset_shows (shows_ : s.msg.Shows v) :
    ∃ m, msgBufReset s = .ok () { s with msg := m } ∧ m.Shows { v with taken := [], ahead := [] } :=
  ⟨_, rfl, shows_.unitId, shows_.fc, shows_.broadcast, shows_.ignored, rfl, Nat.zero_le _, rfl⟩

theorem msgStateReset_shows (s : Nmbs σ) :
    ∃ m, msgStateReset s = .ok () { s with msg := m } ∧ m.Shows .cleared :=
  ⟨_, rfl, rfl, rfl, rfl, rfl, rfl, Nat.zero_le _, rfl⟩

end TactileSensors.Modbus
