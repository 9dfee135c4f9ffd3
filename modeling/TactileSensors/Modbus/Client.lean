import TactileSensors.Modbus.Message

/-!
# The Modbus client

The requests the gripper driver sends, and the responses nanoMODBUS reads: its own, and as a server
those of the other devices on the line.
-/

namespace TactileSensors.Modbus

variable {σ : Type} (io : Platform σ)

def recvResException (reqFc fc : UInt8) : Call σ Unit :=
  if fc.toNat = reqFc.toNat + 0x80 then do
    recv io 1
    let exception ← get1
    recvMsgFooter io
    match NmbsException.ofCode exception with
    | some e => fail (.exception e)
    | none => fail .invalidResponse
  else fail .invalidResponse

def recvResHeader : Call σ Unit := do
  let req ← get
  recvMsgHeader io
  let res ← get
  rejectIf (res.msg.unitId ≠ req.msg.unitId) .invalidUnitId
  if res.msg.fc ≠ req.msg.fc then recvResException io req.msg.fc res.msg.fc

def bitfieldBytesMax : Nat := 250

def recvReadDiscreteRes : Call σ (List UInt8) := do
  recvResHeader io
  recv io 1
  let coilsBytes ← get1
  rejectIf (coilsBytes.toNat > bitfieldBytesMax) .invalidResponse
  recv io coilsBytes.toNat
  let values ← getBytes coilsBytes.toNat
  recvMsgFooter io
  return values

def recvReadRegistersRes (quantity : UInt16) : Call σ (List UInt16) := do
  recvResHeader io
  recv io 1
  let registersBytes ← get1
  rejectIf (registersBytes.toNat > 250 ∨ registersBytes.toNat ≠ quantity.toNat * 2) .invalidResponse
  recv io registersBytes.toNat
  let registers ← getRegisters (registersBytes.toNat / 2)
  recvMsgFooter io
  return registers

def recvEchoRes (first second : UInt16) : Call σ Unit := do
  recvResHeader io
  recv io 4
  let firstRes ← get2
  let secondRes ← get2
  recvMsgFooter io
  rejectIf (firstRes ≠ first) .invalidResponse
  rejectIf (secondRes ≠ second) .invalidResponse

def recvWriteSingleCoilRes (address valueReq : UInt16) : Call σ Unit :=
  recvEchoRes io address valueReq

def recvWriteSingleRegisterRes (address valueReq : UInt16) : Call σ Unit :=
  recvEchoRes io address valueReq

def recvWriteMultipleCoilsRes (address quantity : UInt16) : Call σ Unit :=
  recvEchoRes io address quantity

def recvWriteMultipleRegistersRes (address quantity : UInt16) : Call σ Unit :=
  recvEchoRes io address quantity

/-- For a caller that wants none of the records. -/
def recvReadFileRecordRes : Call σ Unit := do
  recvResHeader io
  recv io 1
  let responseSize ← get1
  rejectIf (responseSize.toNat > 250) .invalidResponse
  recv io responseSize.toNat
  let size ← get1
  let _referenceType ← get1
  discardN (size - 1).toNat
  recvMsgFooter io

/-- For a caller that wants none of the records. -/
def recvWriteFileRecordRes : Call σ Unit := do
  recvResHeader io
  recv io 1
  let responseSize ← get1
  rejectIf (responseSize.toNat > 251) .invalidResponse
  recv io responseSize.toNat
  let _referenceType ← get1
  let _fileNumber ← get2
  let _recordNumber ← get2
  let recordLength ← get2
  discardN (recordLength * 2).toNat
  recvMsgFooter io

/-- The objects of an identification. The room left shrinks by their heads only. -/
def recvObjects (resSizeLeft : UInt8) : Nat → Call σ Unit
  | 0 => return ()
  | n + 1 => do
      recv io 2
      let _objectId ← get1
      let objectLength ← get1
      rejectIf (objectLength > resSizeLeft - 2) .invalidResponse
      recv io objectLength.toNat
      discardN objectLength.toNat
      recvObjects (resSizeLeft - 2) n

/-- For a caller that wants none of the objects. -/
def recvReadDeviceIdentificationRes : Call σ Unit := do
  recvResHeader io
  recv io 6
  let meiType ← get1
  rejectIf (meiType ≠ 0x0E) .invalidResponse
  let readDeviceIdCode ← get1
  rejectIf (readDeviceIdCode < 1 ∨ readDeviceIdCode > 4) .invalidResponse
  let conformityLevel ← get1
  rejectIf (conformityLevel < 1 ∨ (conformityLevel > 3 ∧ conformityLevel < 0x81) ∨
    conformityLevel > 0x83) .invalidResponse
  let moreFollows ← get1
  rejectIf (moreFollows ≠ 0 ∧ moreFollows ≠ 0xFF) .invalidResponse
  let _nextObjectId ← get1
  let objectsCount ← get1
  recvObjects io (253 - 7) objectsCount.toNat
  recvMsgFooter io

/-- Whether `quantity` registers from `address` on are within the 65536 there can be. -/
def inAddressSpace (address quantity : UInt16) : Bool :=
  address.toNat + quantity.toNat ≤ 0xFFFF + 1

def readRegisters (fc : UInt8) (address quantity : UInt16) : Call σ (List UInt16) := do
  rejectIf (quantity < 1 ∨ quantity > 125) .invalidArgument
  rejectIf (¬ inAddressSpace address quantity) .invalidArgument
  msgStateReq io fc
  putMsgHeader
  put2 address
  put2 quantity
  sendMsg io
  recvReadRegistersRes io quantity

def nmbsReadHoldingRegisters (address quantity : UInt16) : Call σ (List UInt16) :=
  readRegisters io 3 address quantity

def nmbsWriteMultipleRegisters (address quantity : UInt16) (registers : Nat → UInt16) :
    Call σ Unit := do
  rejectIf (quantity < 1 ∨ quantity > 0x007B) .invalidArgument
  rejectIf (¬ inAddressSpace address quantity) .invalidArgument
  msgStateReq io 16
  putMsgHeader
  put2 address
  put2 quantity
  put1 (quantity * 2).toUInt8
  putRegisters registers 0 quantity.toNat
  sendMsg io
  let s ← get
  if !s.msg.broadcast then recvWriteMultipleRegistersRes io address quantity

def nmbsReadWriteRegisters (readAddress readQuantity writeAddress writeQuantity : UInt16)
    (registers : Nat → UInt16) : Call σ (List UInt16) := do
  rejectIf (readQuantity < 1 ∨ readQuantity > 0x007D) .invalidArgument
  rejectIf (¬ inAddressSpace readAddress readQuantity) .invalidArgument
  rejectIf (writeQuantity < 1 ∨ writeQuantity > 0x0079) .invalidArgument
  rejectIf (¬ inAddressSpace writeAddress writeQuantity) .invalidArgument
  msgStateReq io 23
  putMsgHeader
  put2 readAddress
  put2 readQuantity
  put2 writeAddress
  put2 writeQuantity
  put1 (writeQuantity * 2).toUInt8
  putRegisters registers 0 writeQuantity.toNat
  sendMsg io
  recvReadRegistersRes io readQuantity

end TactileSensors.Modbus
