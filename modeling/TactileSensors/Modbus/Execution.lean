import TactileSensors.Modbus.Requests
import TactileSensors.Modbus.Server

/-!
# Frames that are there

On a line that holds what was sent on it, in order, and gives as much of it as it is asked for, a frame
that is complete is taken whole: a response by the client, a request by the server.
-/

namespace TactileSensors.Modbus
open ForceTorque Machine

structure Queue {σ : Type} (io : Platform σ) where
  line : σ → List UInt8
  drop : Nat → σ → σ
  waits : Int → Prop
  line_drop : ∀ n arg, line (drop n arg) = (line arg).drop n
  drop_drop : ∀ m n arg, drop n (drop m arg) = drop (m + n) arg
  read : ∀ {timeout}, waits timeout → ∀ n arg,
    io.read n timeout arg = (some ((line arg).take n), drop n arg)

variable {σ : Type} {io : Platform σ} {s s' : Nmbs σ} {v : View} (q : Queue io)

structure Queue.Waits (s : Nmbs σ) : Prop where
  byte : q.waits s.byteTimeoutMs
  first : q.waits s.readTimeoutMs

variable {q}

/-! ## Pieces of a frame -/

theorem recv_of_queue (count : Nat) (data : List UInt8) {rest : List UInt8} (waits : q.Waits s) (shows_ : s.msg.Shows v)
    (whole : data.length = count) (on : q.line s.arg = data ++ rest)
    (room : v.taken.length + count ≤ bufferBytes) :
    ∃ m, recv io count s = .ok () { s with msg := m, arg := q.drop count s.arg } ∧
      m.Shows (v.receive data) ∧ q.line (q.drop count s.arg) = rest := by
  subst whole
  have read := q.read waits.byte data.length s.arg
  rw [on, List.take_left] at read
  obtain ⟨m, received, holds⟩ := recvWithin_of_read data shows_ room read
  exact ⟨m, received, holds, by rw [q.line_drop, on, List.drop_left]⟩

theorem recvMsgHeader_of_queue {unitId fc : UInt8} {rest : List UInt8} (waits : q.Waits s)
    (on : q.line s.arg = [unitId, fc] ++ rest) :
    ∃ m, recvMsgHeader io s =
        .ok () { s with msg := m, arg := q.drop 2 s.arg, firstByteReceived := true } ∧
      m.Shows ⟨unitId, fc, false, false, [unitId, fc], []⟩ ∧ q.line (q.drop 2 s.arg) = rest := by
  have first := q.read waits.first 1 s.arg
  have second := q.read waits.byte 1 (q.drop 1 s.arg)
  rw [on] at first
  rw [q.line_drop, on, q.drop_drop] at second
  obtain ⟨m, received, holds⟩ := recvMsgHeader_of_read first second
  exact ⟨m, received, holds, by rw [q.line_drop, on]; rfl⟩

theorem recvMsgFooter_of_queue {rest : List UInt8} (waits : q.Waits s) (shows_ : s.msg.Shows v)
    (on : q.line s.arg = crc16 v.taken ++ rest) (room : v.taken.length + 2 ≤ bufferBytes) :
    ∃ m, recvMsgFooter io s = .ok () { s with msg := m, arg := q.drop 2 s.arg } ∧
      m.Shows { v with taken := framed v.taken, ahead := [] } ∧ q.line (q.drop 2 s.arg) = rest := by
  have read := q.read waits.byte 2 s.arg
  have two : (crc16 v.taken).length = 2 := rfl
  rw [on, List.take_append_of_le_length (Nat.le_of_eq two.symm), List.take_of_length_le (Nat.le_of_eq two)]
    at read
  obtain ⟨m, received, holds⟩ := recvMsgFooter_of_read shows_ room read
  exact ⟨m, received, holds, by rw [q.line_drop, on]; rfl⟩

/-! ## Responses -/

theorem recvResHeader_of_queue {rest : List UInt8} (waits : q.Waits s)
    (on : q.line s.arg = [s.msg.unitId, s.msg.fc] ++ rest) :
    ∃ m, recvResHeader io s =
        .ok () { s with msg := m, arg := q.drop 2 s.arg, firstByteReceived := true } ∧
      m.Shows ⟨s.msg.unitId, s.msg.fc, false, false, [s.msg.unitId, s.msg.fc], []⟩ ∧
      q.line (q.drop 2 s.arg) = rest := by
  obtain ⟨m, header, holds, after⟩ := recvMsgHeader_of_queue waits on
  refine ⟨m, ?_, holds, after⟩
  have unitId : m.unitId = s.msg.unitId := holds.unitId
  have fc : m.fc = s.msg.fc := holds.fc
  rw [recvResHeader, bind_of_ok (get_apply _), bind_of_ok header, bind_of_ok (get_apply _),
    bind_of_ok (rejectIf_of_not (not_not.mpr unitId) _ _)]
  simp [fc, pure_apply]

theorem NmbsException.ofCode_code (e : NmbsException) : ofCode e.code = some e := by
  cases e <;> rfl

theorem toNat_add_exception {fc : UInt8} (plain : fc.toNat < 0x80) : (fc + 0x80).toNat = fc.toNat + 0x80 := by
  have bit : (0x80 : UInt8).toNat = 0x80 := rfl
  rw [UInt8.toNat_add, bit]
  omega

theorem recvResHeader_of_exception {e : NmbsException} {rest : List UInt8} (waits : q.Waits s)
    (plain : s.msg.fc.toNat < 0x80)
    (on : q.line s.arg = framed [s.msg.unitId, s.msg.fc + 0x80, e.code] ++ rest) :
    ∃ m, recvResHeader io s = .error (.error (.exception e))
        { s with msg := m, arg := q.drop 5 s.arg, firstByteReceived := true } ∧
      q.line (q.drop 5 s.arg) = rest := by
  have exceptionFc := toNat_add_exception plain
  have front : q.line s.arg = [s.msg.unitId, s.msg.fc + 0x80] ++
      ([e.code] ++ (crc16 [s.msg.unitId, s.msg.fc + 0x80, e.code] ++ rest)) := by
    rw [on]
    rfl
  obtain ⟨m₁, header, holds₁, on₁⟩ := recvMsgHeader_of_queue waits front
  obtain ⟨m₂, one, holds₂, on₂⟩ := recv_of_queue 1 [e.code]
    (s := { s with msg := m₁, arg := q.drop 2 s.arg, firstByteReceived := true }) ⟨waits.byte, waits.first⟩
    holds₁ rfl on₁ (show 2 + 1 ≤ 260 by decide)
  obtain ⟨m₃, got, holds₃⟩ := @get1_shows _
    { s with msg := m₂, arg := q.drop 1 (q.drop 2 s.arg), firstByteReceived := true } _ e.code []
    holds₂ rfl
  obtain ⟨m₄, footer, holds₄, on₄⟩ := recvMsgFooter_of_queue
    (s := { s with msg := m₃, arg := q.drop 1 (q.drop 2 s.arg), firstByteReceived := true })
    ⟨waits.byte, waits.first⟩ holds₃ on₂ (show 3 + 2 ≤ 260 by decide)
  have unitId : m₁.unitId = s.msg.unitId := holds₁.unitId
  have fc : m₁.fc = s.msg.fc + 0x80 := holds₁.fc
  have other : s.msg.fc + 0x80 ≠ s.msg.fc := fun same => by
    rw [same] at exceptionFc
    omega
  have whole : q.drop 2 (q.drop 1 (q.drop 2 s.arg)) = q.drop 5 s.arg := by
    rw [q.drop_drop, q.drop_drop]
  refine ⟨m₄, ?_, whole ▸ on₄⟩
  rw [recvResHeader, bind_of_ok (get_apply _), bind_of_ok header, bind_of_ok (get_apply _),
    bind_of_ok (rejectIf_of_not (not_not.mpr unitId) _ _)]
  simp only [fc, ne_eq, other, not_false_eq_true, if_true, recvResException, exceptionFc]
  rw [bind_of_ok one, bind_of_ok got, bind_of_ok footer, NmbsException.ofCode_code, whole]
  rfl

theorem recvReadRegistersRes_of_queue {quantity : UInt16} {count : UInt8} {data rest : List UInt8}
    (waits : q.Waits s) (counts : count.toNat = 2 * quantity.toNat) (few : quantity.toNat ≤ 125)
    (whole : data.length = count.toNat)
    (on : q.line s.arg = framed ([s.msg.unitId, s.msg.fc, count] ++ data) ++ rest) :
    ∃ m, recvReadRegistersRes io quantity s = .ok (wordsOf data)
        { s with msg := m, arg := q.drop (5 + count.toNat) s.arg, firstByteReceived := true } ∧
      q.line (q.drop (5 + count.toNat) s.arg) = rest := by
  have front : q.line s.arg = [s.msg.unitId, s.msg.fc] ++
      ([count] ++ (data ++ (crc16 ([s.msg.unitId, s.msg.fc, count] ++ data) ++ rest))) := by
    rw [on, framed, List.append_assoc]
    rfl
  obtain ⟨m₁, header, holds₁, on₁⟩ := recvResHeader_of_queue waits front
  obtain ⟨m₂, one, holds₂, on₂⟩ := recv_of_queue 1 [count]
    (s := { s with msg := m₁, arg := q.drop 2 s.arg, firstByteReceived := true }) ⟨waits.byte, waits.first⟩
    holds₁ rfl on₁ (show 2 + 1 ≤ 260 by decide)
  obtain ⟨m₃, got, holds₃⟩ := @get1_shows _
    { s with msg := m₂, arg := q.drop 1 (q.drop 2 s.arg), firstByteReceived := true } _ count [] holds₂ rfl
  obtain ⟨m₄, all, holds₄, on₄⟩ := recv_of_queue count.toNat data
    (s := { s with msg := m₃, arg := q.drop 1 (q.drop 2 s.arg), firstByteReceived := true })
    ⟨waits.byte, waits.first⟩ holds₃ whole on₂ (show 3 + count.toNat ≤ 260 by omega)
  have half : 2 * (count.toNat / 2) = data.length := by omega
  obtain ⟨m₅, words, holds₅⟩ := @getRegisters_shows _
    { s with msg := m₄, arg := q.drop count.toNat (q.drop 1 (q.drop 2 s.arg)), firstByteReceived := true } _
    (count.toNat / 2) holds₄ (Nat.le_of_eq half)
  have payload : ((((View.mk s.msg.unitId s.msg.fc false false [s.msg.unitId, s.msg.fc] []).receive
      [count]).get 1).receive data).get (2 * (count.toNat / 2)) =
        ⟨s.msg.unitId, s.msg.fc, false, false, [s.msg.unitId, s.msg.fc, count] ++ data, []⟩ := by
    simp [View.get, View.receive, half]
  rw [payload] at holds₅
  obtain ⟨m₆, footer, -, on₆⟩ := recvMsgFooter_of_queue
    (s := { s with msg := m₅, arg := q.drop count.toNat (q.drop 1 (q.drop 2 s.arg)),
                   firstByteReceived := true })
    ⟨waits.byte, waits.first⟩ holds₅ on₄ (by simp [bufferBytes]; omega)
  have place : q.drop 2 (q.drop count.toNat (q.drop 1 (q.drop 2 s.arg))) =
      q.drop (5 + count.toNat) s.arg := by
    rw [q.drop_drop, q.drop_drop, q.drop_drop]
    congr 1
    omega
  have taken : List.take (2 * (count.toNat / 2)) data = data := by rw [half, List.take_length]
  have fits : ¬ (count.toNat > 250 ∨ count.toNat ≠ quantity.toNat * 2) := by omega
  refine ⟨m₆, ?_, place ▸ on₆⟩
  rw [recvReadRegistersRes, bind_of_ok header, bind_of_ok one, bind_of_ok got,
    bind_of_ok (rejectIf_of_not fits _ _), bind_of_ok all, bind_of_ok words, bind_of_ok footer, place]
  exact congrArg (fun bytes => EStateM.Result.ok (wordsOf bytes) _) taken

theorem recvEchoRes_of_queue {first second : UInt16} {rest : List UInt8} (waits : q.Waits s)
    (on : q.line s.arg =
      framed ([s.msg.unitId, s.msg.fc] ++ bytesOf first ++ bytesOf second) ++ rest) :
    ∃ m, recvEchoRes io first second s =
        .ok () { s with msg := m, arg := q.drop 8 s.arg, firstByteReceived := true } ∧
      q.line (q.drop 8 s.arg) = rest := by
  have front : q.line s.arg = [s.msg.unitId, s.msg.fc] ++ ((bytesOf first ++ bytesOf second) ++
      (crc16 ([s.msg.unitId, s.msg.fc] ++ bytesOf first ++ bytesOf second) ++ rest)) := by
    rw [on, framed]
    simp
  obtain ⟨m₁, header, holds₁, on₁⟩ := recvResHeader_of_queue waits front
  obtain ⟨m₂, four, holds₂, on₂⟩ := recv_of_queue 4 (bytesOf first ++ bytesOf second)
    (s := { s with msg := m₁, arg := q.drop 2 s.arg, firstByteReceived := true }) ⟨waits.byte, waits.first⟩
    holds₁ rfl on₁ (show 2 + 4 ≤ 260 by decide)
  obtain ⟨m₃, got₃, holds₃⟩ := @get2_shows _
    { s with msg := m₂, arg := q.drop 4 (q.drop 2 s.arg), firstByteReceived := true } _ _ _
    (bytesOf second) holds₂ rfl
  obtain ⟨m₄, got₄, holds₄⟩ := @get2_shows _
    { s with msg := m₃, arg := q.drop 4 (q.drop 2 s.arg), firstByteReceived := true } _ _ _ [] holds₃ rfl
  obtain ⟨m₅, footer, -, on₅⟩ := recvMsgFooter_of_queue
    (s := { s with msg := m₄, arg := q.drop 4 (q.drop 2 s.arg), firstByteReceived := true })
    ⟨waits.byte, waits.first⟩ holds₄ on₂ (show 6 + 2 ≤ 260 by decide)
  have place : q.drop 2 (q.drop 4 (q.drop 2 s.arg)) = q.drop 8 s.arg := by
    rw [q.drop_drop, q.drop_drop]
  refine ⟨m₅, ?_, place ▸ on₅⟩
  rw [recvEchoRes, bind_of_ok header, bind_of_ok four, bind_of_ok got₃, bind_of_ok got₄,
    bind_of_ok footer, place, word_bytesOf, word_bytesOf,
    bind_of_ok (rejectIf_of_not (not_not.mpr rfl) _ _), rejectIf_of_not (not_not.mpr rfl)]

/-! ## Calls -/

def outcome {σ : Type} (s : Nmbs σ) :
    Except NmbsException (List UInt16) → EStateM.Result Stop (Nmbs σ) (List UInt16)
  | .ok registers => .ok registers s
  | .error e => .error (.error (.exception e)) s

theorem toNat_double (quantity : UInt16) (few : quantity.toNat ≤ 0x7D) :
    ((quantity * 2).toUInt8).toNat = 2 * quantity.toNat := by
  have two : (2 : UInt16).toNat = 2 := rfl
  rw [UInt16.toNat_toUInt8, UInt16.toNat_mul, two]
  omega

theorem registers_response_of_queue {fc : UInt8} {quantity : UInt16} {registers : List UInt16}
    {rest : List UInt8} (waits : q.Waits s) (code : s.msg.fc = fc) (few : quantity.toNat ≤ 0x7D)
    (whole : registers.length = quantity.toNat)
    (on : q.line s.arg = framed ([s.msg.unitId] ++
      ([fc, (quantity * 2).toUInt8] ++ registers.flatMap bytesOf)) ++ rest) :
    ∃ m n, recvReadRegistersRes io quantity s =
        .ok registers { s with msg := m, arg := q.drop n s.arg, firstByteReceived := true } ∧
      q.line (q.drop n s.arg) = rest := by
  have count := toNat_double quantity few
  have bytes : (registers.flatMap bytesOf).length = (quantity * 2).toUInt8.toNat := by
    rw [length_flatMap_bytesOf, whole, count]
  rw [← code] at on
  obtain ⟨m, received, after⟩ := recvReadRegistersRes_of_queue waits count few bytes on
  rw [wordsOf_bytesOf] at received
  exact ⟨m, _, received, after⟩

theorem Request.response_of_queue {request : Request} {answer : Except NmbsException (List UInt16)}
    {rest : List UInt8} (wellFormed : request.wellFormed)
    (whole : ∀ registers, answer = .ok registers → registers.length = request.asked)
    (waits : q.Waits s) (code : s.msg.fc = request.fc) (single : s.msg.broadcast = false)
    (on : q.line s.arg = framed ([s.msg.unitId] ++ request.reply answer) ++ rest) :
    ∃ m n, request.response io s =
        outcome { s with msg := m, arg := q.drop n s.arg, firstByteReceived := true } answer ∧
      q.line (q.drop n s.arg) = rest := by
  cases answer with
  | ok registers =>
      cases request with
      | read address quantity =>
          exact registers_response_of_queue waits code wellFormed.2.1 (whole registers rfl) on
      | write address quantity values =>
          obtain rfl : registers = [] := List.length_eq_zero_iff.mp (whole registers rfl)
          have front : q.line s.arg =
              framed ([s.msg.unitId, s.msg.fc] ++ bytesOf address ++ bytesOf quantity) ++ rest := by
            rw [code]
            exact on
          obtain ⟨m, received, after⟩ := recvEchoRes_of_queue waits front
          refine ⟨m, 8, ?_, after⟩
          exact (bind_of_ok ((awaitWritten_of_single single).trans received)).trans (pure_apply _ _)
      | readWrite readAddress readQuantity address quantity values =>
          exact registers_response_of_queue waits code wellFormed.1.2.1 (whole registers rfl) on
  | error e =>
      have plain : s.msg.fc.toNat < 0x80 := by
        rw [code]
        cases request <;> simp [fc]
      have frame : [s.msg.unitId] ++ request.reply (.error e) =
          [s.msg.unitId, s.msg.fc + 0x80, e.code] := by
        rw [code]
        cases request <;> rfl
      rw [frame] at on
      obtain ⟨m, received, after⟩ := recvResHeader_of_exception waits plain on
      refine ⟨m, 5, ?_, after⟩
      cases request with
      | read address quantity => exact bind_of_error received
      | write address quantity values =>
          exact bind_of_error ((awaitWritten_of_single single).trans (bind_of_error received))
      | readWrite readAddress readQuantity address quantity values => exact bind_of_error received

/-! ## Requests -/

def headed (unitId fc : UInt8) (broadcast ignored : Bool) : View :=
  ⟨unitId, fc, broadcast, ignored, [unitId, fc], []⟩

theorem recvTwoWords_of_queue {unitId fc : UInt8} {broadcast ignored : Bool} {first second : UInt16}
    {rest : List UInt8} (waits : q.Waits s) (shows_ : s.msg.Shows (headed unitId fc broadcast ignored))
    (on : q.line s.arg = bytesOf first ++ bytesOf second ++
      (crc16 ([unitId, fc] ++ bytesOf first ++ bytesOf second) ++ rest)) :
    ∃ m taken, recvTwoWords io s = .ok (first, second) { s with msg := m, arg := q.drop 6 s.arg } ∧
      m.Shows ⟨unitId, fc, broadcast, ignored, taken, []⟩ ∧ q.line (q.drop 6 s.arg) = rest := by
  obtain ⟨m₂, four, holds₂, on₂⟩ := recv_of_queue 4 (bytesOf first ++ bytesOf second) waits
    shows_ rfl on (show 2 + 4 ≤ 260 by decide)
  obtain ⟨m₃, got₃, holds₃⟩ := @get2_shows _ { s with msg := m₂, arg := q.drop 4 s.arg } _ _ _
    (bytesOf second) holds₂ rfl
  obtain ⟨m₄, got₄, holds₄⟩ := @get2_shows _ { s with msg := m₃, arg := q.drop 4 s.arg } _ _ _ []
    holds₃ rfl
  obtain ⟨m₅, footer, holds₅, on₅⟩ := recvMsgFooter_of_queue
    (s := { s with msg := m₄, arg := q.drop 4 s.arg }) ⟨waits.byte, waits.first⟩ holds₄ on₂
    (show 6 + 2 ≤ 260 by decide)
  have place : q.drop 2 (q.drop 4 s.arg) = q.drop 6 s.arg := q.drop_drop 4 2 s.arg
  refine ⟨m₅, _, ?_, holds₅, place ▸ on₅⟩
  rw [recvTwoWords, bind_of_ok four, bind_of_ok got₃, bind_of_ok got₄, bind_of_ok footer, place,
    word_bytesOf, word_bytesOf, pure_apply]

def registersBody (quantity : UInt16) (registers : Nat → UInt16) : List UInt8 :=
  (List.range' 0 quantity.toNat).flatMap fun i => bytesOf (registers i)

theorem written_eq (quantity : UInt16) (registers : Nat → UInt16) :
    written quantity registers =
      bytesOf quantity ++ [(quantity * 2).toUInt8] ++ registersBody quantity registers :=
  rfl

theorem registersBody_eq (quantity : UInt16) (registers : Nat → UInt16) :
    registersBody quantity registers =
      ((List.range' 0 quantity.toNat).map registers).flatMap bytesOf := by
  rw [registersBody, List.flatMap_map]

theorem map_range'_getD {registers : List UInt16} {n : Nat} (whole : registers.length = n) :
    (List.range' 0 n).map (fun i => registers.getD i 0) = registers := by
  subst whole
  rw [← List.range_eq_range']
  refine List.ext_getElem (by simp) fun i _ inside => ?_
  simp [List.getD_eq_getElem?_getD, inside]

theorem length_registersBody (quantity : UInt16) (registers : Nat → UInt16) :
    (registersBody quantity registers).length = 2 * quantity.toNat := by
  rw [registersBody_eq, length_flatMap_bytesOf]
  simp

theorem recvRegisters_of_queue {quantity : UInt16} (registers : Nat → UInt16) (rest : List UInt8)
    (few : quantity.toNat ≤ 0x7B) (waits : q.Waits s) (shows_ : s.msg.Shows v)
    (head : v.taken.length ≤ 11)
    (on : q.line s.arg = registersBody quantity registers ++
      (crc16 (v.taken ++ registersBody quantity registers) ++ rest)) :
    ∃ m₁ m₂ m₃ taken,
      recv io (quantity * 2).toUInt8.toNat s =
        .ok () { s with msg := m₁, arg := q.drop (2 * quantity.toNat) s.arg } ∧
      getRegisters ((quantity * 2).toUInt8.toNat / 2)
          { s with msg := m₁, arg := q.drop (2 * quantity.toNat) s.arg } =
        .ok ((List.range' 0 quantity.toNat).map registers)
          { s with msg := m₂, arg := q.drop (2 * quantity.toNat) s.arg } ∧
      recvMsgFooter io { s with msg := m₂, arg := q.drop (2 * quantity.toNat) s.arg } =
        .ok () { s with msg := m₃, arg := q.drop (2 * quantity.toNat + 2) s.arg } ∧
      m₃.Shows ⟨v.unitId, v.fc, v.broadcast, v.ignored, taken, []⟩ ∧
      q.line (q.drop (2 * quantity.toNat + 2) s.arg) = rest := by
  have count := toNat_double quantity (Nat.le_trans few (by decide))
  have whole := length_registersBody quantity registers
  obtain ⟨m₁, all, holds₁, on₁⟩ := recv_of_queue (2 * quantity.toNat) (registersBody quantity registers) waits shows_ whole on (by
    simp only [bufferBytes]
    omega)
  obtain ⟨m₂, words, holds₂⟩ := @getRegisters_shows _
    { s with msg := m₁, arg := q.drop (2 * quantity.toNat) s.arg } _ quantity.toNat holds₁
    (Nat.le_of_eq whole.symm)
  have payload : (v.receive (registersBody quantity registers)).get (2 * quantity.toNat) =
      ⟨v.unitId, v.fc, v.broadcast, v.ignored, v.taken ++ registersBody quantity registers, []⟩ := by
    simp [View.get, View.receive, ← whole]
  rw [payload] at holds₂
  obtain ⟨m₃, footer, holds₃, on₃⟩ := recvMsgFooter_of_queue
    (s := { s with msg := m₂, arg := q.drop (2 * quantity.toNat) s.arg }) ⟨waits.byte, waits.first⟩
    holds₂ on₁ (by
      simp only [List.length_append, whole, bufferBytes]
      omega)
  rw [q.drop_drop] at footer on₃
  refine ⟨m₁, m₂, m₃, _, by rw [count]; exact all, ?_, footer, holds₃, on₃⟩
  have half : (quantity * 2).toUInt8.toNat / 2 = quantity.toNat := by omega
  have taken : wordsOf (List.take (2 * quantity.toNat) (registersBody quantity registers)) =
      (List.range' 0 quantity.toNat).map registers := by
    rw [← whole, List.take_length, registersBody_eq, wordsOf_bytesOf]
  rw [half, words]
  exact congrArg (fun registers => EStateM.Result.ok registers _) taken

theorem recvWriteRequest_of_queue {unitId fc : UInt8} {broadcast ignored : Bool}
    {address quantity : UInt16} {registers : Nat → UInt16} {rest : List UInt8}
    (few : quantity.toNat ≤ 0x7B) (waits : q.Waits s)
    (shows_ : s.msg.Shows (headed unitId fc broadcast ignored))
    (on : q.line s.arg = bytesOf address ++ written quantity registers ++
      (crc16 ([unitId, fc] ++ (bytesOf address ++ written quantity registers)) ++ rest)) :
    ∃ m taken, recvWriteRequest io s =
        .ok ⟨address, quantity, (quantity * 2).toUInt8, (List.range' 0 quantity.toNat).map registers⟩
          { s with msg := m, arg := q.drop (7 + 2 * quantity.toNat) s.arg } ∧
      m.Shows ⟨unitId, fc, broadcast, ignored, taken, []⟩ ∧
      q.line (q.drop (7 + 2 * quantity.toNat) s.arg) = rest := by
  have count := toNat_double quantity (Nat.le_trans few (by decide))
  have front : bytesOf address ++ written quantity registers =
      (bytesOf address ++ bytesOf quantity ++ [(quantity * 2).toUInt8]) ++
        registersBody quantity registers := by
    simp [written_eq]
  rw [front, List.append_assoc] at on
  obtain ⟨m₁, five, holds₁, on₁⟩ := recv_of_queue 5
    (bytesOf address ++ bytesOf quantity ++ [(quantity * 2).toUInt8]) waits shows_ rfl on
    (show 2 + 5 ≤ 260 by decide)
  obtain ⟨m₂, got₂, holds₂⟩ := @get2_shows _ { s with msg := m₁, arg := q.drop 5 s.arg } _ _ _
    (bytesOf quantity ++ [(quantity * 2).toUInt8]) holds₁ rfl
  obtain ⟨m₃, got₃, holds₃⟩ := @get2_shows _ { s with msg := m₂, arg := q.drop 5 s.arg } _ _ _
    [(quantity * 2).toUInt8] holds₂ rfl
  obtain ⟨m₄, got₄, holds₄⟩ := @get1_shows _ { s with msg := m₃, arg := q.drop 5 s.arg } _ _ []
    holds₃ rfl
  obtain ⟨m₅, m₆, m₇, taken, all, words, footer, holds₇, on₇⟩ := recvRegisters_of_queue
    (s := { s with msg := m₄, arg := q.drop 5 s.arg }) registers rest few
    ⟨waits.byte, waits.first⟩ holds₄ (show 7 ≤ 11 by decide) (by rw [on₁]; rfl)
  have place : q.drop (2 * quantity.toNat + 2) (q.drop 5 s.arg) =
      q.drop (7 + 2 * quantity.toNat) s.arg := by
    rw [q.drop_drop]
    congr 1
    omega
  have fits : ¬ (quantity * 2).toUInt8.toNat > 246 := by omega
  refine ⟨m₇, taken, ?_, holds₇, place ▸ on₇⟩
  rw [recvWriteRequest, bind_of_ok five, bind_of_ok got₂, bind_of_ok got₃, bind_of_ok got₄,
    bind_of_ok all, bind_of_ok (rejectIf_of_not fits _ _), bind_of_ok words, bind_of_ok footer, place, pure_apply, word_bytesOf, word_bytesOf]

theorem recvReadWriteRequest_of_queue {unitId fc : UInt8} {broadcast ignored : Bool}
    {readAddress readQuantity address quantity : UInt16} {registers : Nat → UInt16} {rest : List UInt8}
    (few : quantity.toNat ≤ 0x79) (waits : q.Waits s)
    (shows_ : s.msg.Shows (headed unitId fc broadcast ignored))
    (on : q.line s.arg = bytesOf readAddress ++ bytesOf readQuantity ++ bytesOf address ++
        written quantity registers ++
      (crc16 ([unitId, fc] ++ (bytesOf readAddress ++ bytesOf readQuantity ++ bytesOf address ++
        written quantity registers)) ++ rest)) :
    ∃ m taken, recvReadWriteRequest io s =
        .ok ⟨⟨address, quantity, (quantity * 2).toUInt8, (List.range' 0 quantity.toNat).map registers⟩,
            readAddress, readQuantity⟩
          { s with msg := m, arg := q.drop (11 + 2 * quantity.toNat) s.arg } ∧
      m.Shows ⟨unitId, fc, broadcast, ignored, taken, []⟩ ∧
      q.line (q.drop (11 + 2 * quantity.toNat) s.arg) = rest := by
  have count := toNat_double quantity (Nat.le_trans few (by decide))
  have front : bytesOf readAddress ++ bytesOf readQuantity ++ bytesOf address ++
      written quantity registers =
        (bytesOf readAddress ++ bytesOf readQuantity ++ bytesOf address ++ bytesOf quantity ++
          [(quantity * 2).toUInt8]) ++ registersBody quantity registers := by
    simp [written_eq]
  rw [front, List.append_assoc] at on
  obtain ⟨m₁, nine, holds₁, on₁⟩ := recv_of_queue 9
    (bytesOf readAddress ++ bytesOf readQuantity ++ bytesOf address ++ bytesOf quantity ++
      [(quantity * 2).toUInt8]) waits shows_ rfl on (show 2 + 9 ≤ 260 by decide)
  obtain ⟨m₂, got₂, holds₂⟩ := @get2_shows _ { s with msg := m₁, arg := q.drop 9 s.arg } _ _ _
    (bytesOf readQuantity ++ bytesOf address ++ bytesOf quantity ++ [(quantity * 2).toUInt8]) holds₁ rfl
  obtain ⟨m₃, got₃, holds₃⟩ := @get2_shows _ { s with msg := m₂, arg := q.drop 9 s.arg } _ _ _
    (bytesOf address ++ bytesOf quantity ++ [(quantity * 2).toUInt8]) holds₂ rfl
  obtain ⟨m₄, got₄, holds₄⟩ := @get2_shows _ { s with msg := m₃, arg := q.drop 9 s.arg } _ _ _
    (bytesOf quantity ++ [(quantity * 2).toUInt8]) holds₃ rfl
  obtain ⟨m₅, got₅, holds₅⟩ := @get2_shows _ { s with msg := m₄, arg := q.drop 9 s.arg } _ _ _
    [(quantity * 2).toUInt8] holds₄ rfl
  obtain ⟨m₆, got₆, holds₆⟩ := @get1_shows _ { s with msg := m₅, arg := q.drop 9 s.arg } _ _ []
    holds₅ rfl
  obtain ⟨m₇, m₈, m₉, taken, all, words, footer, holds₉, on₉⟩ := recvRegisters_of_queue
    (s := { s with msg := m₆, arg := q.drop 9 s.arg }) registers rest
    (Nat.le_trans few (by decide)) ⟨waits.byte, waits.first⟩ holds₆ (show 11 ≤ 11 by decide)
    (by rw [on₁]; rfl)
  have place : q.drop (2 * quantity.toNat + 2) (q.drop 9 s.arg) =
      q.drop (11 + 2 * quantity.toNat) s.arg := by
    rw [q.drop_drop]
    congr 1
    omega
  have fits : ¬ (quantity * 2).toUInt8.toNat > 242 := by omega
  refine ⟨m₉, taken, ?_, holds₉, place ▸ on₉⟩
  rw [recvReadWriteRequest, bind_of_ok nine, bind_of_ok got₂, bind_of_ok got₃, bind_of_ok got₄,
    bind_of_ok got₅, bind_of_ok got₆, bind_of_ok (rejectIf_of_not fits _ _), bind_of_ok all, bind_of_ok words, bind_of_ok footer, place, pure_apply, word_bytesOf,
    word_bytesOf, word_bytesOf, word_bytesOf]

/-! ## Replies -/

theorem putEchoRes_of_write {arg : σ} {first second : UInt16} (shows_ : s.msg.Shows v)
    (write : io.write (framed ([v.unitId, v.fc] ++ bytesOf first ++ bytesOf second)) s.byteTimeoutMs
      s.arg = (some (framed ([v.unitId, v.fc] ++ bytesOf first ++ bytesOf second)).length, arg)) :
    ∃ m, putEchoRes io first second s = .ok () { s with msg := m, arg } := by
  obtain ⟨m₁, puts, holds₁⟩ := putWords_shows (sendMsg io) first second shows_
  obtain ⟨m₂, sent, -⟩ := sendMsg_of_write (s := { s with msg := m₁ }) holds₁
    (show 6 + 2 ≤ 260 by decide) write
  exact ⟨m₂, by rw [putEchoRes, puts, sent]⟩

theorem putRegistersRes_of_write {arg : σ} {quantity : UInt16} {registers : List UInt16}
    (few : quantity.toNat ≤ 0x7D) (shows_ : s.msg.Shows v)
    (write : io.write (framed ([v.unitId, v.fc, (quantity * 2).toUInt8] ++
        registersBody quantity fun i => registers.getD i 0)) s.byteTimeoutMs s.arg =
      (some (framed ([v.unitId, v.fc, (quantity * 2).toUInt8] ++
        registersBody quantity fun i => registers.getD i 0)).length, arg)) :
    ∃ m, putRegistersRes io quantity registers s = .ok () { s with msg := m, arg } := by
  obtain ⟨m₁, put₁, holds₁⟩ := putMsgHeader_shows shows_
  obtain ⟨m₂, put₂, holds₂⟩ := @put1_shows _ { s with msg := m₁ } _ holds₁ (quantity * 2).toUInt8
    (show 2 + 1 ≤ 260 by decide)
  obtain ⟨m₃, put₃, holds₃⟩ := @putRegisters_shows _ { s with msg := m₂ } _
    (fun i => registers.getD i 0) 0 quantity.toNat holds₂
    (show 3 + 2 * quantity.toNat ≤ 260 by omega) rfl
  have whole := length_registersBody quantity fun i => registers.getD i 0
  obtain ⟨m₄, sent, -⟩ := sendMsg_of_write (s := { s with msg := m₃ }) holds₃ (by
    change ([v.unitId, v.fc, (quantity * 2).toUInt8] ++ registersBody quantity _).length + 2 ≤ 260
    rw [List.length_append, whole]
    simp only [List.length_cons, List.length_nil]
    omega) write
  exact ⟨m₄, by rw [putRegistersRes, bind_of_ok put₁, bind_of_ok put₂, bind_of_ok put₃, sent]⟩

theorem sendExceptionMsg_of_write {arg : σ} {e : NmbsException} (shows_ : s.msg.Shows v)
    (asked : v.broadcast = false)
    (write : io.write (framed [v.unitId, v.fc + 0x80, e.code]) s.byteTimeoutMs s.arg =
      (some (framed [v.unitId, v.fc + 0x80, e.code]).length, arg)) :
    ∃ m, sendExceptionMsg io e s = .ok () { s with msg := m, arg } := by
  have shown := shows_.withFc (s.msg.fc + 0x80)
  rw [shows_.fc] at shown
  obtain ⟨m₁, put₁, holds₁⟩ := putMsgHeader_shows (s := { s with msg := _ }) shown
  obtain ⟨m₂, put₂, holds₂⟩ := @put1_shows _ { s with msg := m₁ } _ holds₁ e.code
    (show 2 + 1 ≤ 260 by decide)
  obtain ⟨m₃, sent, -⟩ := sendMsg_of_write (s := { s with msg := m₂ }) holds₂
    (show 3 + 2 ≤ 260 by decide) write
  refine ⟨m₃, ?_⟩
  have sole : s.msg.broadcast = false := shows_.broadcast.trans asked
  rw [sendExceptionMsg, bind_of_ok (get_apply _)]
  simp only [sole, Bool.not_false, if_true]
  rw [bind_of_ok (modify_apply _ _), Nmbs.withMsg, shows_.fc]
  rw [bind_of_ok put₁, bind_of_ok put₂, sent]

theorem recvReqHeader_of_queue {fc : UInt8} {rest : List UInt8} (waits : q.Waits s)
    (ours : s.addressRtu ≠ broadcastAddress) (on : q.line s.arg = [s.addressRtu, fc] ++ rest) :
    ∃ m, recvReqHeader io s =
        .ok () { s with msg := m, arg := q.drop 2 s.arg, firstByteReceived := true } ∧
      m.Shows (headed s.addressRtu fc false false) ∧ q.line (q.drop 2 s.arg) = rest := by
  obtain ⟨m, header, holds, after⟩ := recvMsgHeader_of_queue waits on
  refine ⟨{ m with ignored := m.unitId ≠ s.addressRtu }, ?_, ?_, after⟩
  · have unitId : m.unitId ≠ broadcastAddress := fun same => ours (holds.unitId.symm.trans same)
    rw [recvReqHeader, bind_of_ok header, modify_apply]
    simp only [unitId, if_false]
    rfl
  · have same : m.unitId = s.addressRtu := holds.unitId
    exact { holds with ignored := decide_eq_false (not_not.mpr same) }

theorem nmbsServerPoll_of_queue (callbacks : Callbacks σ) {fc : UInt8} {rest : List UInt8}
    (waits : q.Waits s) (ours : s.addressRtu ≠ broadcastAddress)
    (on : q.line s.arg = [s.addressRtu, fc] ++ rest) :
    ∃ m, m.Shows (headed s.addressRtu fc false false) ∧ q.line (q.drop 2 s.arg) = rest ∧
      ∀ s', handleReqFc io callbacks
          { s with msg := m, arg := q.drop 2 s.arg, firstByteReceived := true } = .ok () s' →
        nmbsServerPoll io callbacks s = .ok () s' := by
  obtain ⟨m₀, reset, -⟩ := msgStateReset_shows s
  obtain ⟨m, header, holds, after⟩ := recvReqHeader_of_queue (s := { s with msg := m₀ })
    ⟨waits.byte, waits.first⟩ ours on
  refine ⟨m, holds, after, fun s' handled => ?_⟩
  have begun := (bind_of_ok (f := fun _ => recvReqHeader io) reset).trans header
  simp only [nmbsServerPoll, begun, handled]

end TactileSensors.Modbus
