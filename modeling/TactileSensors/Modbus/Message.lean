import TactileSensors.ForceTorque.Frame
import TactileSensors.Machine.Calls

/-!
# Modbus messages

The part of nanoMODBUS below its requests and its responses, on an RTU line: the message buffer, what
is put into it and got from it, and what goes through the platform's `read` and `write`. The C code
trusts its index into the buffer; here a call that would leave the buffer stops there.
-/

namespace TactileSensors.Modbus
open ForceTorque

inductive NmbsException
  | illegalFunction
  | illegalDataAddress
  | illegalDataValue
  | serverDeviceFailure
deriving DecidableEq, Repr

def NmbsException.code : NmbsException → UInt8
  | .illegalFunction => 1
  | .illegalDataAddress => 2
  | .illegalDataValue => 3
  | .serverDeviceFailure => 4

def NmbsException.ofCode (code : UInt8) : Option NmbsException :=
  if code = 1 then some .illegalFunction
  else if code = 2 then some .illegalDataAddress
  else if code = 3 then some .illegalDataValue
  else if code = 4 then some .serverDeviceFailure
  else none

inductive NmbsError
  | invalidRequest
  | invalidUnitId
  | crc
  | transport
  | timeout
  | invalidResponse
  | invalidArgument
  | exception (e : NmbsException)
deriving DecidableEq, Repr

inductive Stop
  | error (err : NmbsError)
  -- an access outside the message buffer: C says nothing about what follows
  | outOfBounds
deriving DecidableEq, Repr

def bufferBytes : Nat := 260

def broadcastAddress : UInt8 := 0

structure Message where
  buf : Nat → UInt8
  bufIdx : Nat
  unitId : UInt8
  fc : UInt8
  broadcast : Bool
  ignored : Bool

/-- The platform's functions. A read returns the bytes it put into the buffer, a write how many went
out, and `none` is a negative return. -/
structure Platform (σ : Type) where
  read : Nat → Int → σ → Option (List UInt8) × σ
  write : List UInt8 → Int → σ → Option Nat × σ

structure Nmbs (σ : Type) where
  msg : Message
  byteTimeoutMs : Int
  readTimeoutMs : Int
  addressRtu : UInt8
  destAddressRtu : UInt8
  -- what `recv_msg_header` tells its caller beside its error
  firstByteReceived : Bool
  -- what the platform's argument points to
  arg : σ

abbrev Call (σ : Type) := EStateM Stop (Nmbs σ)

variable {σ : Type}

def fail {α : Type} (err : NmbsError) : Call σ α :=
  throw (.error err)

def rejectIf (c : Prop) [Decidable c] (err : NmbsError) : Call σ Unit :=
  if c then fail err else pure ()

theorem rejectIf_of_not {c : Prop} [Decidable c] (passes : ¬ c) (err : NmbsError) (s : Nmbs σ) :
    rejectIf c err s = .ok () s := by
  rw [rejectIf, if_neg passes]
  rfl

theorem rejectIf_eq_ok {c : Prop} [Decidable c] {err : NmbsError} {s s' : Nmbs σ}
    (done : rejectIf c err s = .ok () s') : ¬ c ∧ s' = s := by
  unfold rejectIf at done
  split at done
  · cases done
  · rename_i passes
    cases done
    exact ⟨passes, rfl⟩

theorem rejectIf_bind_eq_ok {c : Prop} [Decidable c] {err : NmbsError} {α : Type} {a : α}
    {rest : Unit → Call σ α} {s s' : Nmbs σ} (done : (rejectIf c err >>= rest) s = .ok a s') :
    ¬ c ∧ rest () s = .ok a s' := by
  obtain ⟨_, mid, passed, done⟩ := Machine.bind_eq_ok.mp done
  obtain ⟨passes, same⟩ := rejectIf_eq_ok passed
  exact ⟨passes, same ▸ done⟩

theorem rejectIf_bind_of {c : Prop} [Decidable c] {err : NmbsError} {α : Type} {rest : Unit → Call σ α}
    {s : Nmbs σ} (otherwise : ¬ c → rest () s = .error (.error err) s) :
    (rejectIf c err >>= rest) s = .error (.error err) s := by
  by_cases holds : c
  · rw [rejectIf, if_pos holds]
    rfl
  · rw [Machine.bind_of_ok (rejectIf_of_not holds err s), otherwise holds]

namespace Message

def advance (m : Message) (n : Nat) : Message :=
  { m with bufIdx := m.bufIdx + n }

def fill (m : Message) (start : Nat) (bytes : List UInt8) : Message :=
  { m with buf := fun i =>
      if start ≤ i ∧ i < start + bytes.length then bytes.getD (i - start) 0 else m.buf i }

def slice (m : Message) (start count : Nat) : List UInt8 :=
  (List.range count).map fun i => m.buf (start + i)

end Message

namespace Nmbs

def withMsg (s : Nmbs σ) (f : Message → Message) : Nmbs σ :=
  { s with msg := f s.msg }

end Nmbs

/-- `buf_idx` counts in 16 bits, which matters only where a length from the wire is skipped unread. -/
def discardN (n : Nat) : Call σ Unit := fun s =>
  .ok () (s.withMsg fun m => { m with bufIdx := (m.bufIdx + n) % 65536 })

def get1 : Call σ UInt8 := fun s =>
  if s.msg.bufIdx + 1 ≤ bufferBytes then
    .ok (s.msg.buf s.msg.bufIdx) (s.withMsg fun m => m.advance 1)
  else .error .outOfBounds s

def get2 : Call σ UInt16 := fun s =>
  if s.msg.bufIdx + 2 ≤ bufferBytes then
    .ok ((s.msg.buf s.msg.bufIdx).toUInt16 <<< 8 ||| (s.msg.buf (s.msg.bufIdx + 1)).toUInt16)
      (s.withMsg fun m => m.advance 2)
  else .error .outOfBounds s

def put (bytes : List UInt8) : Call σ Unit := fun s =>
  if s.msg.bufIdx + bytes.length ≤ bufferBytes then
    .ok () (s.withMsg fun m => (m.fill m.bufIdx bytes).advance bytes.length)
  else .error .outOfBounds s

def put1 (data : UInt8) : Call σ Unit :=
  put [data]

def put2 (data : UInt16) : Call σ Unit :=
  put [((data >>> 8) &&& 0xFF).toUInt8, data.toUInt8]

def getBytes : Nat → Call σ (List UInt8)
  | 0 => return []
  | n + 1 => do
      let byte ← get1
      let bytes ← getBytes n
      return byte :: bytes

def getRegisters : Nat → Call σ (List UInt16)
  | 0 => return []
  | n + 1 => do
      let register ← get2
      let registers ← getRegisters n
      return register :: registers

def putRegisters (registers : Nat → UInt16) (i : Nat) : Nat → Call σ Unit
  | 0 => return ()
  | n + 1 => do
      put2 (registers i)
      putRegisters registers (i + 1) n

def msgBufReset : Call σ Unit := fun s =>
  .ok () (s.withMsg fun m => { m with bufIdx := 0 })

def msgStateReset : Call σ Unit := fun s =>
  .ok () (s.withMsg fun m =>
    { m with bufIdx := 0, unitId := 0, fc := 0, broadcast := false, ignored := false })

section
variable (io : Platform σ)

/-- `recv` with the byte timeout that holds at the time. -/
def recvWithin (timeout : Int) (count : Nat) : Call σ Unit := fun s =>
  match io.read count timeout s.arg with
  | (none, arg) => .error (.error .transport) { s with arg }
  | (some data, arg) =>
      if s.msg.bufIdx + data.length ≤ bufferBytes then
        let read := { s with msg := s.msg.fill s.msg.bufIdx data, arg }
        if data.length = count then .ok () read
        else if data.length < count then .error (.error .timeout) read
        else .error (.error .transport) read
      else .error .outOfBounds { s with arg }

def recv (count : Nat) : Call σ Unit := fun s =>
  recvWithin io s.byteTimeoutMs count s

def send (count : Nat) : Call σ Unit := fun s =>
  if count ≤ bufferBytes then
    match io.write (s.msg.slice 0 count) s.byteTimeoutMs s.arg with
    | (none, arg) => .error (.error .transport) { s with arg }
    | (some written, arg) =>
        if written = count then .ok () { s with arg }
        else if written < count then .error (.error .timeout) { s with arg }
        else .error (.error .transport) { s with arg }
  else .error .outOfBounds s

def flush : Call σ Unit := fun s =>
  match io.read bufferBytes 0 s.arg with
  | (none, arg) => .ok () { s with arg }
  | (some data, arg) =>
      if data.length ≤ bufferBytes then .ok () { s with msg := s.msg.fill 0 data, arg }
      else .error .outOfBounds { s with arg }

def nmbsCrcCalc (data : List UInt8) : UInt16 :=
  let crc := data.foldl crcByte 0xFFFF
  (crc <<< 8) ||| (crc >>> 8)

def msgCrc : Call σ UInt16 := fun s =>
  if s.msg.bufIdx ≤ bufferBytes then .ok (nmbsCrcCalc (s.msg.slice 0 s.msg.bufIdx)) s
  else .error .outOfBounds s

def recvMsgFooter : Call σ Unit := do
  let crc ← msgCrc
  recv io 2
  let recvCrc ← get2
  rejectIf (recvCrc ≠ crc) .crc

/-- Only the first byte is waited for as long as `read_timeout_ms`. -/
def recvMsgHeader : Call σ Unit := do
  msgStateReset
  modify fun s => { s with firstByteReceived := false }
  let s ← get
  recvWithin io s.readTimeoutMs 1
  modify fun s => { s with firstByteReceived := true }
  let unitId ← get1
  modify fun s => s.withMsg fun m => { m with unitId }
  recv io 1
  let fc ← get1
  modify fun s => s.withMsg fun m => { m with fc }

def putMsgHeader : Call σ Unit := do
  msgBufReset
  let s ← get
  put1 s.msg.unitId
  put1 s.msg.fc

def sendMsg : Call σ Unit := do
  let crc ← msgCrc
  put2 crc
  let s ← get
  send io s.msg.bufIdx

/-- What is left on the line goes first. -/
def msgStateReq (fc : UInt8) : Call σ Unit := do
  flush io
  msgStateReset
  modify fun s => s.withMsg fun m =>
    { m with unitId := s.destAddressRtu, fc, broadcast := s.destAddressRtu = broadcastAddress }

end
end TactileSensors.Modbus
