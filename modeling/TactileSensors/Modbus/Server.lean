import TactileSensors.Modbus.Client

/-!
# The Modbus server

nanoMODBUS as a server on an RTU line. Of its callbacks only the two the fake gripper sets are here:
the functions of the others are answered as the server answers them with no callback set.
-/

namespace TactileSensors.Modbus

variable {σ : Type}

structure Callbacks (σ : Type) where
  readHoldingRegisters : UInt16 → UInt16 → σ → Except NmbsError (List UInt16) × σ
  writeMultipleRegisters : UInt16 → UInt16 → List UInt16 → σ → Except NmbsError Unit × σ

variable (io : Platform σ)

def recvReqHeader : Call σ Unit := do
  recvMsgHeader io
  modify fun s =>
    if s.msg.unitId = broadcastAddress then s.withMsg fun m => { m with broadcast := true }
    else s.withMsg fun m => { m with ignored := m.unitId ≠ s.addressRtu }

def sendExceptionMsg (exception : NmbsException) : Call σ Unit := do
  let s ← get
  if !s.msg.broadcast then
    modify fun s => s.withMsg fun m => { m with fc := m.fc + 0x80 }
    putMsgHeader
    put1 exception.code
    sendMsg io

def callbackException : NmbsError → NmbsException
  | .exception e => e
  | _ => .serverDeviceFailure

def invoke {α : Type} (callback : σ → Except NmbsError α × σ) : Call σ (Except NmbsError α) :=
  fun s => .ok (callback s.arg).1 { s with arg := (callback s.arg).2 }

def putRegistersRes (quantity : UInt16) (registers : List UInt16) : Call σ Unit := do
  putMsgHeader
  put1 (quantity * 2).toUInt8
  putRegisters (fun i => registers.getD i 0) 0 quantity.toNat
  sendMsg io

def putEchoRes (first second : UInt16) : Call σ Unit := do
  putMsgHeader
  put2 first
  put2 second
  sendMsg io

def recvTwoWords : Call σ (UInt16 × UInt16) := do
  recv io 4
  let first ← get2
  let second ← get2
  recvMsgFooter io
  return (first, second)

def handleReadDiscrete : Call σ Unit := do
  let (address, quantity) ← recvTwoWords io
  let s ← get
  if !s.msg.ignored then
    if quantity < 1 ∨ quantity > 2000 then sendExceptionMsg io .illegalDataValue
    else if !inAddressSpace address quantity then sendExceptionMsg io .illegalDataAddress
    else sendExceptionMsg io .illegalFunction
  else discard (recvReadDiscreteRes io)

def answerReadRegisters
    (callback : Option (UInt16 → UInt16 → σ → Except NmbsError (List UInt16) × σ))
    (address quantity : UInt16) : Call σ Unit := do
  if quantity < 1 ∨ quantity > 125 then sendExceptionMsg io .illegalDataValue
  else if !inAddressSpace address quantity then sendExceptionMsg io .illegalDataAddress
  else
    match callback with
    | some callback => do
        let s ← get
        let answer ← invoke (callback address quantity)
        match answer with
        | .error err => sendExceptionMsg io (callbackException err)
        | .ok registers => if !s.msg.broadcast then putRegistersRes io quantity registers
    | none => sendExceptionMsg io .illegalFunction

def handleReadRegisters
    (callback : Option (UInt16 → UInt16 → σ → Except NmbsError (List UInt16) × σ)) : Call σ Unit := do
  let (address, quantity) ← recvTwoWords io
  let s ← get
  if !s.msg.ignored then answerReadRegisters io callback address quantity
  else discard (recvReadRegistersRes io quantity)

def handleReadCoils : Call σ Unit :=
  handleReadDiscrete io

def handleReadDiscreteInputs : Call σ Unit :=
  handleReadDiscrete io

def handleReadHoldingRegisters (callbacks : Callbacks σ) : Call σ Unit :=
  handleReadRegisters io (some callbacks.readHoldingRegisters)

def handleReadInputRegisters : Call σ Unit :=
  handleReadRegisters io none

def handleWriteSingleCoil : Call σ Unit := do
  let (address, value) ← recvTwoWords io
  let s ← get
  if !s.msg.ignored then sendExceptionMsg io .illegalFunction
  else recvWriteSingleCoilRes io address value

def handleWriteSingleRegister : Call σ Unit := do
  let (address, value) ← recvTwoWords io
  let s ← get
  if !s.msg.ignored then sendExceptionMsg io .illegalFunction
  else recvWriteSingleRegisterRes io address value

def handleWriteMultipleCoils : Call σ Unit := do
  recv io 5
  let address ← get2
  let quantity ← get2
  let coilsBytes ← get1
  rejectIf (coilsBytes.toNat > 246) .invalidRequest
  recv io coilsBytes.toNat
  let _coils ← getBytes coilsBytes.toNat
  recvMsgFooter io
  let s ← get
  if !s.msg.ignored then
    if quantity < 1 ∨ quantity > 0x07B0 then sendExceptionMsg io .illegalDataValue
    else if !inAddressSpace address quantity then sendExceptionMsg io .illegalDataAddress
    else if coilsBytes = 0 then sendExceptionMsg io .illegalDataValue
    else if (quantity.toNat + 7) / 8 ≠ coilsBytes.toNat then sendExceptionMsg io .illegalDataValue
    else sendExceptionMsg io .illegalFunction
  else recvWriteMultipleCoilsRes io address quantity

variable (callbacks : Callbacks σ)

structure WriteRequest where
  address : UInt16
  quantity : UInt16
  registersBytes : UInt8
  registers : List UInt16

/-- The registers are received before their count is looked at. -/
def recvWriteRequest : Call σ WriteRequest := do
  recv io 5
  let address ← get2
  let quantity ← get2
  let registersBytes ← get1
  recv io registersBytes.toNat
  rejectIf (registersBytes.toNat > 246) .invalidRequest
  let registers ← getRegisters (registersBytes.toNat / 2)
  recvMsgFooter io
  return { address, quantity, registersBytes, registers }

def answerWriteMultipleRegisters (request : WriteRequest) : Call σ Unit := do
  if request.quantity < 1 ∨ request.quantity > 0x007B then sendExceptionMsg io .illegalDataValue
  else if !inAddressSpace request.address request.quantity then sendExceptionMsg io .illegalDataAddress
  else if request.registersBytes = 0 then sendExceptionMsg io .illegalDataValue
  else if request.registersBytes.toNat ≠ request.quantity.toNat * 2 then
    sendExceptionMsg io .illegalDataValue
  else do
    let s ← get
    let answer ← invoke
      (callbacks.writeMultipleRegisters request.address request.quantity request.registers)
    match answer with
    | .error err => sendExceptionMsg io (callbackException err)
    | .ok _ => if !s.msg.broadcast then putEchoRes io request.address request.quantity

def handleWriteMultipleRegisters : Call σ Unit := do
  let request ← recvWriteRequest io
  let s ← get
  if !s.msg.ignored then answerWriteMultipleRegisters io callbacks request
  else recvWriteMultipleRegistersRes io request.address request.quantity

structure FileSubRequest where
  referenceType : UInt8
  fileNumber : UInt16
  recordNumber : UInt16
  recordLength : UInt16

def FileSubRequest.refused (subreq : FileSubRequest) (maxLength : UInt16) : Bool :=
  subreq.referenceType ≠ 0x06 ∨ subreq.fileNumber = 0 ∨ subreq.recordNumber > 0x270F ∨
    subreq.recordLength > maxLength

def getSubRequest : Call σ FileSubRequest := do
  let referenceType ← get1
  let fileNumber ← get2
  let recordNumber ← get2
  let recordLength ← get2
  return { referenceType, fileNumber, recordNumber, recordLength }

def getSubRequests : Nat → Call σ (List FileSubRequest)
  | 0 => return []
  | n + 1 => do
      let subreq ← getSubRequest
      let subreqs ← getSubRequests n
      return subreq :: subreqs

def handleReadFileRecord : Call σ Unit := do
  recv io 1
  let requestSize ← get1
  rejectIf (requestSize.toNat > 245) .invalidRequest
  recv io requestSize.toNat
  let subreqs ← getSubRequests (requestSize.toNat / 7)
  discardN (requestSize.toNat % 7)
  recvMsgFooter io
  let s ← get
  if !s.msg.ignored then
    if requestSize.toNat % 7 ≠ 0 then sendExceptionMsg io .illegalDataValue
    else if requestSize < 0x07 ∨ requestSize > 0xF5 then sendExceptionMsg io .illegalDataValue
    else if subreqs.any fun subreq => subreq.refused 124 then sendExceptionMsg io .illegalDataAddress
    else do
      putMsgHeader
      put1 (subreqs.foldl (fun size subreq => size + (2 + subreq.recordLength * 2).toUInt8) 0)
      sendExceptionMsg io .illegalFunction
  else recvReadFileRecordRes io

/-- The check loop over the records of a write request, which counts `size` down in 16 bits: the
exception it answers with, none when it ends at zero. Each round gets seven bytes of the buffer. -/
def checkRecords (size : UInt16) : Nat → Call σ (Option NmbsException)
  | 0 => throw .outOfBounds
  | fuel + 1 => do
      let subreq ← getSubRequest
      discardN (subreq.recordLength * 2).toNat
      if subreq.refused 122 then return some .illegalDataAddress
      else
        let left := size - (7 + subreq.recordLength * 2)
        if left ≥ 7 then checkRecords left fuel
        else if left ≠ 0 then return some .illegalDataValue
        else return none

def swapRegs (n : Nat) : Call σ Unit := fun s =>
  let start := s.msg.bufIdx
  if start + 2 * n ≤ bufferBytes then
    .ok () (s.withMsg fun m =>
      { m with
        buf := fun i =>
          if start ≤ i ∧ i < start + 2 * n then
            if (i - start) % 2 = 0 then m.buf (i + 1) else m.buf (i - 1)
          else m.buf i
        bufIdx := start + 2 * n })
  else .error .outOfBounds s

def handleWriteFileRecord : Call σ Unit := do
  recv io 1
  let requestSize ← get1
  rejectIf (requestSize.toNat > 251) .invalidRequest
  recv io requestSize.toNat
  let start ← get
  discardN requestSize.toNat
  recvMsgFooter io
  let s ← get
  if !s.msg.ignored then do
    modify fun s => s.withMsg fun m => { m with bufIdx := start.msg.bufIdx }
    if requestSize < 7 then sendExceptionMsg io .illegalDataValue
    else do
      let refused ← checkRecords requestSize.toUInt16 bufferBytes
      match refused with
      | some exception => sendExceptionMsg io exception
      | none => do
          modify fun s => s.withMsg fun m => { m with bufIdx := start.msg.bufIdx }
          let subreq ← getSubRequest
          swapRegs subreq.recordLength.toNat
          sendExceptionMsg io .illegalFunction
  else recvWriteFileRecordRes io

structure ReadWriteRequest extends WriteRequest where
  readAddress : UInt16
  readQuantity : UInt16

def recvReadWriteRequest : Call σ ReadWriteRequest := do
  recv io 9
  let readAddress ← get2
  let readQuantity ← get2
  let address ← get2
  let quantity ← get2
  let registersBytes ← get1
  rejectIf (registersBytes.toNat > 242) .invalidRequest
  recv io registersBytes.toNat
  let registers ← getRegisters (registersBytes.toNat / 2)
  recvMsgFooter io
  return { address, quantity, registersBytes, registers, readAddress, readQuantity }

def answerReadWriteRegisters (request : ReadWriteRequest) : Call σ Unit := do
  if request.readQuantity < 1 ∨ request.readQuantity > 0x007D then sendExceptionMsg io .illegalDataValue
  else if request.quantity < 1 ∨ request.quantity > 0x007B then sendExceptionMsg io .illegalDataValue
  else if request.registersBytes.toNat ≠ request.quantity.toNat * 2 then
    sendExceptionMsg io .illegalDataValue
  else if !inAddressSpace request.readAddress request.readQuantity then
    sendExceptionMsg io .illegalDataAddress
  else if !inAddressSpace request.address request.quantity then sendExceptionMsg io .illegalDataAddress
  else do
    let s ← get
    let wrote ← invoke
      (callbacks.writeMultipleRegisters request.address request.quantity request.registers)
    match wrote with
    | .error err => sendExceptionMsg io (callbackException err)
    | .ok _ =>
        if !s.msg.broadcast then
          let answer ← invoke (callbacks.readHoldingRegisters request.readAddress request.readQuantity)
          match answer with
          | .error err => sendExceptionMsg io (callbackException err)
          | .ok registers => putRegistersRes io request.readQuantity registers

def handleReadWriteRegisters : Call σ Unit := do
  let request ← recvReadWriteRequest io
  let s ← get
  if !s.msg.ignored then answerReadWriteRegisters io callbacks request
  else recvWriteMultipleRegistersRes io request.address request.quantity

def handleReadDeviceIdentification : Call σ Unit := do
  recv io 3
  let _meiType ← get1
  let _readDeviceIdCode ← get1
  let _objectId ← get1
  recvMsgFooter io
  let s ← get
  if !s.msg.ignored then sendExceptionMsg io .illegalFunction
  else recvReadDeviceIdentificationRes io

def handleReqFc : Call σ Unit := do
  let s ← get
  if s.msg.fc = 1 then handleReadCoils io
  else if s.msg.fc = 2 then handleReadDiscreteInputs io
  else if s.msg.fc = 3 then handleReadHoldingRegisters io callbacks
  else if s.msg.fc = 4 then handleReadInputRegisters io
  else if s.msg.fc = 5 then handleWriteSingleCoil io
  else if s.msg.fc = 6 then handleWriteSingleRegister io
  else if s.msg.fc = 15 then handleWriteMultipleCoils io
  else if s.msg.fc = 16 then handleWriteMultipleRegisters io callbacks
  else if s.msg.fc = 20 then handleReadFileRecord io
  else if s.msg.fc = 21 then handleWriteFileRecord io
  else if s.msg.fc = 23 then handleReadWriteRegisters io callbacks
  else if s.msg.fc = 43 then handleReadDeviceIdentification io
  else do
    flush io
    if !s.msg.ignored then sendExceptionMsg io .illegalFunction

/-- Nothing on the line is no error; and after an error other than running out of time, what is left on
the line is dropped. -/
def nmbsServerPoll : Call σ Unit := fun s =>
  match (do msgStateReset; recvReqHeader io : Call σ Unit) s with
  | .error (.error .timeout) s' =>
      if s'.firstByteReceived then .error (.error .timeout) s' else .ok () s'
  | .error stop s' => .error stop s'
  | .ok _ s' =>
      match handleReqFc io callbacks s' with
      | .error (.error err) s'' =>
          if err = .timeout then .error (.error err) s''
          else (do flush io; fail err : Call σ Unit) s''
      | result => result

end TactileSensors.Modbus
