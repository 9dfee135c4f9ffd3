import TactileSensors.Modbus.Buffer

/-!
# Frames on the line

What a receive takes from the line, and from them what a header and a footer take: a frame is what is
between the reset of the index and a footer that did not fail, with the CRC of all before it.
-/

namespace TactileSensors.Modbus
open ForceTorque Machine

variable {σ : Type} {io : Platform σ} {s s' : Nmbs σ} {v : View}

inductive Took (io : Platform σ) : σ → List UInt8 → σ → Prop
  | nothing (arg : σ) : Took io arg [] arg
  | more {arg mid arg' : σ} {first data : List UInt8} (timeout : Int) (before : Took io arg first mid)
      (read : io.read data.length timeout mid = (some data, arg')) : Took io arg (first ++ data) arg'

theorem Took.trans {arg mid arg' : σ} {first data : List UInt8} (before : Took io arg first mid)
    (after : Took io mid data arg') : Took io arg (first ++ data) arg' := by
  induction after with
  | nothing => simpa using before
  | more timeout _ read ih =>
      rw [← List.append_assoc]
      exact .more timeout ih read

theorem Took.read {arg arg' : σ} (data : List UInt8) {timeout : Int}
    (read : io.read data.length timeout arg = (some data, arg')) : Took io arg data arg' :=
  .more timeout (.nothing arg) read

theorem recvWithin_of_read (data : List UInt8) {arg : σ} {timeout : Int} (shows_ : s.msg.Shows v)
    (room : v.taken.length + data.length ≤ bufferBytes)
    (read : io.read data.length timeout s.arg = (some data, arg)) :
    ∃ m, recvWithin io timeout data.length s = .ok () { s with msg := m, arg } ∧
      m.Shows (v.receive data) := by
  refine ⟨_, ?_, shows_.fill room⟩
  have inside : s.msg.bufIdx + data.length ≤ bufferBytes := by
    rw [shows_.index]
    exact room
  simp only [recvWithin, read, inside, if_true]

theorem recvWithin_eq_ok {timeout : Int} {count : Nat} (shows_ : s.msg.Shows v)
    (received : recvWithin io timeout count s = .ok () s') :
    ∃ data arg m, data.length = count ∧ io.read data.length timeout s.arg = (some data, arg) ∧
      s' = { s with msg := m, arg } ∧ m.Shows (v.receive data) := by
  unfold recvWithin at received
  split at received
  · cases received
  · rename_i data arg read
    split at received
    · rename_i room
      simp only at received
      split at received
      · rename_i whole
        cases received
        rw [shows_.index] at room
        exact ⟨data, arg, _, whole, whole ▸ read, rfl, shows_.fill room⟩
      · split at received <;> cases received
    · cases received

theorem recv_eq (count : Nat) : recv io count s = recvWithin io s.byteTimeoutMs count s := rfl

theorem recvMsgFooter_of_read {arg : σ} (shows_ : s.msg.Shows v)
    (room : v.taken.length + 2 ≤ bufferBytes)
    (read : io.read 2 s.byteTimeoutMs s.arg = (some (crc16 v.taken), arg)) :
    ∃ m, recvMsgFooter io s = .ok () { s with msg := m, arg } ∧
      m.Shows { v with taken := framed v.taken, ahead := [] } := by
  obtain ⟨m, received, holds⟩ := recvWithin_of_read (crc16 v.taken) shows_ room read
  have sent : crc16 v.taken = bytesOf (nmbsCrcCalc v.taken) := (bytesOf_nmbsCrcCalc v.taken).symm
  obtain ⟨m', got, holds'⟩ := @get2_shows _ { s with msg := m, arg } _ _ _ [] holds sent
  refine ⟨m', ?_, ?_⟩
  · have first := (recv_eq 2).trans received
    rw [recvMsgFooter, bind_of_ok (msgCrc_shows shows_), bind_of_ok first, bind_of_ok got, word_bytesOf,
      rejectIf_of_not (not_not.mpr rfl)]
  · simpa [View.get, View.receive, framed, crc16] using holds'

theorem recvMsgFooter_eq_ok (shows_ : s.msg.Shows v) (received : recvMsgFooter io s = .ok () s') :
    ∃ arg m, io.read 2 s.byteTimeoutMs s.arg = (some (crc16 v.taken), arg) ∧
      s' = { s with msg := m, arg } ∧ m.Shows { v with taken := framed v.taken, ahead := [] } := by
  have whole := received
  rw [recvMsgFooter, bind_of_ok (msgCrc_shows shows_)] at received
  obtain ⟨_, t, first, rest⟩ := bind_eq_ok.mp received
  obtain ⟨data, arg, m, two, read, rfl, holds⟩ := recvWithin_eq_ok shows_ first
  obtain ⟨high, low, rfl⟩ : ∃ high low, data = [high, low] := by
    match data, two with
    | [high, low], _ => exact ⟨high, low, rfl⟩
  obtain ⟨m', got, holds'⟩ := @get2_shows _ { s with msg := m, arg } _ high low [] holds rfl
  rw [bind_of_ok got] at rest
  obtain ⟨same, rfl⟩ := rejectIf_eq_ok rest
  have crc : crc16 v.taken = [high, low] := by
    rw [← bytesOf_nmbsCrcCalc, ← not_not.mp same, bytesOf_word]
  refine ⟨arg, m', crc ▸ read, rfl, ?_⟩
  simpa [View.get, View.receive, framed, crc] using holds'

theorem Message.Shows.withUnitId {m : Message} (shows_ : m.Shows v) (unitId : UInt8) :
    Message.Shows { m with unitId } { v with unitId } :=
  { shows_ with unitId := rfl }

theorem Message.Shows.withFc {m : Message} (shows_ : m.Shows v) (fc : UInt8) :
    Message.Shows { m with fc } { v with fc } :=
  { shows_ with fc := rfl }

theorem recvMsgHeader_of_no_read {arg : σ} (first : io.read 1 s.readTimeoutMs s.arg = (none, arg)) :
    ∃ m, recvMsgHeader io s =
      .error (.error .transport) { s with msg := m, arg, firstByteReceived := false } := by
  obtain ⟨m₀, reset, -⟩ := msgStateReset_shows s
  refine ⟨m₀, ?_⟩
  have unread : recvWithin io s.readTimeoutMs 1 { s with msg := m₀, firstByteReceived := false } =
      .error (.error .transport) { s with msg := m₀, arg, firstByteReceived := false } := by
    simp only [recvWithin, first]
  exact (bind_of_ok reset).trans <| (bind_of_ok (modify_apply _ _)).trans <|
    (bind_of_ok (get_apply _)).trans (bind_of_error unread)

theorem recvMsgHeader_of_read {unitId fc : UInt8} {mid arg : σ}
    (first : io.read 1 s.readTimeoutMs s.arg = (some [unitId], mid))
    (second : io.read 1 s.byteTimeoutMs mid = (some [fc], arg)) :
    ∃ m, recvMsgHeader io s = .ok () { s with msg := m, arg, firstByteReceived := true } ∧
      m.Shows ⟨unitId, fc, false, false, [unitId, fc], []⟩ := by
  obtain ⟨m₀, reset, clear⟩ := msgStateReset_shows s
  obtain ⟨m₁, one, holds₁⟩ := @recvWithin_of_read _ io
    { s with msg := m₀, firstByteReceived := false } _ [unitId] _ _ clear (show 0 + 1 ≤ 260 by decide) first
  obtain ⟨m₂, got, holds₂⟩ := @get1_shows _
    { s with msg := m₁, arg := mid, firstByteReceived := true } _ unitId [] holds₁ rfl
  obtain ⟨m₃, two, holds₃⟩ := @recvWithin_of_read _ io
    { s with msg := { m₂ with unitId }, arg := mid, firstByteReceived := true } _ [fc] _ _
    (holds₂.withUnitId unitId) (show 1 + 1 ≤ 260 by decide) second
  obtain ⟨m₄, got', holds₄⟩ := @get1_shows _
    { s with msg := m₃, arg, firstByteReceived := true } _ fc [] holds₃ rfl
  refine ⟨{ m₄ with fc }, ?_, holds₄.withFc fc⟩
  exact (bind_of_ok reset).trans <| (bind_of_ok (modify_apply _ _)).trans <|
    (bind_of_ok (get_apply _)).trans <| (bind_of_ok one).trans <|
    (bind_of_ok (modify_apply _ _)).trans <| (bind_of_ok got).trans <|
    (bind_of_ok (modify_apply _ _)).trans <| (bind_of_ok ((recv_eq 1).trans two)).trans <|
    (bind_of_ok got').trans (modify_apply _ _)

theorem recvMsgHeader_eq_ok (received : recvMsgHeader io s = .ok () s') :
    ∃ unitId fc mid arg m, io.read 1 s.readTimeoutMs s.arg = (some [unitId], mid) ∧
      io.read 1 s.byteTimeoutMs mid = (some [fc], arg) ∧
      s' = { s with msg := m, arg, firstByteReceived := true } ∧
      m.Shows ⟨unitId, fc, false, false, [unitId, fc], []⟩ := by
  have whole := received
  obtain ⟨m₀, reset, clear⟩ := msgStateReset_shows s
  rw [recvMsgHeader, bind_of_ok reset, bind_of_ok (modify_apply _ _), bind_of_ok (get_apply _)]
    at received
  obtain ⟨_, t₁, one, received⟩ := bind_eq_ok.mp received
  obtain ⟨data, mid, m₁, single, first, rfl, holds₁⟩ := recvWithin_eq_ok (v := .cleared) clear one
  obtain ⟨unitId, rfl⟩ := List.length_eq_one_iff.mp single
  obtain ⟨m₂, got, holds₂⟩ := @get1_shows _
    { s with msg := m₁, arg := mid, firstByteReceived := true } _ unitId [] holds₁ rfl
  rw [bind_of_ok (modify_apply _ _), bind_of_ok got, bind_of_ok (modify_apply _ _)] at received
  obtain ⟨_, t₂, two, received⟩ := bind_eq_ok.mp received
  obtain ⟨data, arg, m₃, single, second, -, -⟩ :=
    recvWithin_eq_ok (holds₂.withUnitId unitId) two
  obtain ⟨fc, rfl⟩ := List.length_eq_one_iff.mp single
  obtain ⟨m, header, holds⟩ := recvMsgHeader_of_read (s := s) first second
  rw [whole] at header
  cases header
  exact ⟨unitId, fc, mid, arg, m, first, second, rfl, holds⟩

theorem putMsgHeader_shows (shows_ : s.msg.Shows v) :
    ∃ m, putMsgHeader s = .ok () { s with msg := m } ∧
      m.Shows { v with taken := [v.unitId, v.fc], ahead := [] } := by
  obtain ⟨m₀, reset, holds₀⟩ := msgBufReset_shows shows_
  obtain ⟨m₁, first, holds₁⟩ := @put_shows _ { s with msg := m₀ } _ holds₀ [m₀.unitId]
    (show 0 + 1 ≤ 260 by decide)
  obtain ⟨m₂, second, holds₂⟩ := @put_shows _ { s with msg := m₁ } _ holds₁ [m₀.fc]
    (show 1 + 1 ≤ 260 by decide)
  refine ⟨m₂, ?_, ?_⟩
  · exact (bind_of_ok reset).trans <| (bind_of_ok (get_apply _)).trans <| (bind_of_ok first).trans second
  · have unitId : m₀.unitId = v.unitId := holds₀.unitId
    have fc : m₀.fc = v.fc := holds₀.fc
    simpa [View.put, unitId, fc] using holds₂

theorem putWords_shows {α : Type} (rest : Call σ α) (first second : UInt16) (shows_ : s.msg.Shows v) :
    ∃ m, (do
        putMsgHeader
        put2 first
        put2 second
        rest) s = rest { s with msg := m } ∧
      m.Shows { v with taken := [v.unitId, v.fc] ++ bytesOf first ++ bytesOf second, ahead := [] } := by
  obtain ⟨m₁, put₁, holds₁⟩ := putMsgHeader_shows shows_
  obtain ⟨m₂, put₂, holds₂⟩ := @put2_shows _ { s with msg := m₁ } _ holds₁ first
    (show 2 + 2 ≤ 260 by decide)
  obtain ⟨m₃, put₃, holds₃⟩ := @put2_shows _ { s with msg := m₂ } _ holds₂ second
    (show 4 + 2 ≤ 260 by decide)
  exact ⟨m₃, by rw [bind_of_ok put₁, bind_of_ok put₂, bind_of_ok put₃], holds₃⟩

theorem putWrite_shows {α : Type} (rest : Call σ α) (address : UInt16) {quantity : UInt16}
    {registers : Nat → UInt16} (shows_ : s.msg.Shows v) (few : quantity.toNat ≤ 0x7B) :
    ∃ m, (do
        putMsgHeader
        put2 address
        put2 quantity
        put1 (quantity * 2).toUInt8
        putRegisters registers 0 quantity.toNat
        rest) s = rest { s with msg := m } ∧
      m.Shows { v with
        taken := [v.unitId, v.fc] ++ (bytesOf address ++ written quantity registers), ahead := [] } := by
  obtain ⟨m₁, put₁, holds₁⟩ := putMsgHeader_shows shows_
  obtain ⟨m₂, put₂, holds₂⟩ := @put2_shows _ { s with msg := m₁ } _ holds₁ address
    (show 2 + 2 ≤ 260 by decide)
  obtain ⟨m₃, puts, holds₃⟩ := @putWritten_shows _ { s with msg := m₂ } _ _ quantity registers rest holds₂
    (show 4 + 3 + 2 * quantity.toNat ≤ 260 by omega)
  exact ⟨m₃, by rw [bind_of_ok put₁, bind_of_ok put₂, puts], holds₃⟩

theorem putReadWrite_shows {α : Type} (rest : Call σ α) (readAddress readQuantity writeAddress : UInt16)
    {writeQuantity : UInt16} {registers : Nat → UInt16} (shows_ : s.msg.Shows v)
    (few : writeQuantity.toNat ≤ 0x79) :
    ∃ m, (do
        putMsgHeader
        put2 readAddress
        put2 readQuantity
        put2 writeAddress
        put2 writeQuantity
        put1 (writeQuantity * 2).toUInt8
        putRegisters registers 0 writeQuantity.toNat
        rest) s = rest { s with msg := m } ∧
      m.Shows { v with
        taken := [v.unitId, v.fc] ++ (bytesOf readAddress ++ bytesOf readQuantity ++
          bytesOf writeAddress ++ written writeQuantity registers)
        ahead := [] } := by
  obtain ⟨m₁, puts, holds₁⟩ := putWords_shows (do
    put2 writeAddress
    put2 writeQuantity
    put1 (writeQuantity * 2).toUInt8
    putRegisters registers 0 writeQuantity.toNat
    rest) readAddress readQuantity shows_
  obtain ⟨m₂, put₂, holds₂⟩ := @put2_shows _ { s with msg := m₁ } _ holds₁ writeAddress
    (show 6 + 2 ≤ 260 by decide)
  obtain ⟨m₃, puts', holds₃⟩ := @putWritten_shows _ { s with msg := m₂ } _ _ writeQuantity registers rest
    holds₂ (show 8 + 3 + 2 * writeQuantity.toNat ≤ 260 by omega)
  refine ⟨m₃, by rw [puts, bind_of_ok put₂, puts'], ?_⟩
  simpa [View.put] using holds₃

theorem length_framed (payload : List UInt8) : (framed payload).length = payload.length + 2 := by
  simp [framed, crc16]

theorem sendMsg_eq (shows_ : s.msg.Shows v) (room : v.taken.length + 2 ≤ bufferBytes) :
    ∃ m, m.Shows { v with taken := framed v.taken, ahead := [] } ∧
      m.slice 0 (framed v.taken).length = framed v.taken ∧ (framed v.taken).length ≤ bufferBytes ∧
      sendMsg io s = send io (framed v.taken).length { s with msg := m } := by
  obtain ⟨m, done, holds⟩ := put2_shows shows_ (nmbsCrcCalc v.taken) room
  rw [View.put, bytesOf_nmbsCrcCalc] at holds
  have index : m.bufIdx = (framed v.taken).length := holds.index
  refine ⟨m, holds, index ▸ holds.taken_eq, (length_framed _).symm ▸ room, ?_⟩
  rw [sendMsg, bind_of_ok (msgCrc_shows shows_), bind_of_ok done, bind_of_ok (get_apply _), ← index]

theorem sendMsg_of_write {arg : σ} (shows_ : s.msg.Shows v) (room : v.taken.length + 2 ≤ bufferBytes)
    (write : io.write (framed v.taken) s.byteTimeoutMs s.arg = (some (framed v.taken).length, arg)) :
    ∃ m, sendMsg io s = .ok () { s with msg := m, arg } ∧
      m.Shows { v with taken := framed v.taken, ahead := [] } := by
  obtain ⟨m, holds, bytes, inside, same⟩ := @sendMsg_eq _ io _ _ shows_ room
  refine ⟨m, ?_, holds⟩
  rw [same, send, if_pos inside]
  simp only [bytes, write, if_true]

theorem sendMsg_of_no_write {arg : σ} (shows_ : s.msg.Shows v) (room : v.taken.length + 2 ≤ bufferBytes)
    (write : io.write (framed v.taken) s.byteTimeoutMs s.arg = (none, arg)) :
    ∃ m, sendMsg io s = .error (.error .transport) { s with msg := m, arg } := by
  obtain ⟨m, -, bytes, inside, same⟩ := @sendMsg_eq _ io _ _ shows_ room
  refine ⟨m, ?_⟩
  rw [same, send, if_pos inside]
  simp only [bytes, write]

theorem flush_of_no_read {arg : σ} (read : io.read bufferBytes 0 s.arg = (none, arg)) :
    flush io s = .ok () { s with arg } := by
  simp only [flush, read]

theorem flush_of_read {data : List UInt8} {arg : σ}
    (read : io.read bufferBytes 0 s.arg = (some data, arg)) (fits : data.length ≤ bufferBytes) :
    ∃ m, flush io s = .ok () { s with msg := m, arg } := by
  refine ⟨s.msg.fill 0 data, ?_⟩
  simp only [flush, read, fits, if_true]

def requested (s : Nmbs σ) (fc : UInt8) : View :=
  ⟨s.destAddressRtu, fc, s.destAddressRtu = broadcastAddress, false, [], []⟩

theorem msgStateReq_of_flush {m₀ : Message} {arg : σ} (fc : UInt8)
    (flushed : flush io s = .ok () { s with msg := m₀, arg }) :
    ∃ m, msgStateReq io fc s = .ok () { s with msg := m, arg } ∧ m.Shows (requested s fc) :=
  ⟨_, (bind_of_ok flushed).trans ((bind_of_ok rfl).trans (modify_apply _ _)),
    rfl, rfl, rfl, rfl, rfl, Nat.zero_le _, rfl⟩

end TactileSensors.Modbus
