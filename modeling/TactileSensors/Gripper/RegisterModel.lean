import TactileSensors.Gripper.Host

/-!
# The device model

The register file of the fake gripper, and what an exchange does to it: the first registers of the
command block are written, the device acts on the block, and the first of the status block are read.
-/

namespace TactileSensors.Gripper

def registersFromBytes (block : Nat → UInt8) (i : Nat) : UInt16 :=
  (block (2 * i)).toUInt16 <<< 8 ||| (block (2 * i + 1)).toUInt16

def bytesFromRegisters (registerCount : Nat) (registers : Nat → UInt16) (block : Nat → UInt8)
    (i : Nat) : UInt8 :=
  if i < 2 * registerCount then
    if i % 2 = 0 then (registers (i / 2) >>> 8).toUInt8 else (registers (i / 2) &&& 0xFF).toUInt8
  else block i

theorem high_byte (high low : UInt8) :
    ((high.toUInt16 <<< 8 ||| low.toUInt16) >>> 8).toUInt8 = high := by
  apply UInt8.eq_of_toBitVec_eq
  ext i hi
  simp [show 8 + i < 16 by omega, show ¬ 8 + i < 8 by omega, show i < 16 by omega, hi]

theorem low_byte (high low : UInt8) :
    ((high.toUInt16 <<< 8 ||| low.toUInt16) &&& 0xFF).toUInt8 = low := by
  apply UInt8.eq_of_toBitVec_eq
  ext i hi
  have ones : (BitVec.ofNat 8 255)[i] = true := BitVec.getElem_allOnes i hi
  simp [ones]

theorem bytesFromRegisters_congr {registerCount : Nat} {registers : Nat → UInt16} {block : Nat → UInt8}
    {i : Nat} (hi : i < 2 * registerCount) {bytes : Nat → UInt8}
    (same : registers (i / 2) = registersFromBytes bytes (i / 2)) :
    bytesFromRegisters registerCount registers block i = bytes i := by
  rw [bytesFromRegisters, if_pos hi, same, registersFromBytes]
  split
  · rw [high_byte]
    congr 1
    omega
  · rw [low_byte]
    congr 1
    omega

def GripperCommand.data (command : GripperCommand) : Nat → UInt8
  | 0 => command.action.value
  | 1 => command.reserved1
  | 2 => command.reserved2
  | 3 => command.positionRequest
  | 4 => command.speed
  | 5 => command.force
  | i + 6 => command.reservedTail[i]?.getD 0

def GripperCommand.ofData (block : Nat → UInt8) : GripperCommand :=
  ⟨⟨block 0⟩, block 1, block 2, block 3, block 4, block 5, Vector.ofFn fun i => block (i + 6)⟩

def GripperStatus.data (status : GripperStatus) : Nat → UInt8
  | 0 => status.gripperStatus.bits
  | 1 => status.reserved1
  | 2 => status.faultStatus.bits
  | 3 => status.positionRequestEcho
  | 4 => status.position
  | 5 => status.current
  | i + 6 => status.reservedTail[i]?.getD 0

def GripperStatus.ofData (block : Nat → UInt8) : GripperStatus :=
  ⟨⟨block 0⟩, block 1, ⟨block 2⟩, block 3, block 4, block 5, Vector.ofFn fun i => block (i + 6)⟩

theorem GripperStatus.ofData_eq {block : Nat → UInt8} {status : GripperStatus}
    (same : ∀ i < 16, block i = status.data i) : ofData block = status := by
  obtain ⟨⟨bits⟩, reserved1, ⟨fault⟩, positionRequestEcho, position, current, tail⟩ := status
  have rest : Vector.ofFn (fun i : Fin 10 => block (i + 6)) = tail := by
    apply Vector.ext
    intro i hi
    rw [Vector.getElem_ofFn, same (i + 6) (by omega)]
    simp [data, hi]
  rw [ofData, same 0 (by decide), same 1 (by decide), same 2 (by decide), same 3 (by decide),
    same 4 (by decide), same 5 (by decide), rest]
  rfl

inductive ObjectDetection
  | moving
  | detectedWhileOpening
  | detectedWhileClosing
  | atRequestedPosition
deriving DecidableEq, Repr

def ObjectDetection.raw : ObjectDetection → UInt8
  | .moving => 0
  | .detectedWhileOpening => 1
  | .detectedWhileClosing => 2
  | .atRequestedPosition => 3

def ActivationState.raw : ActivationState → UInt8
  | .reset => 0
  | .inProgress => 1
  | .reserved => 2
  | .complete => 3

def withField (bits mask value : UInt8) : UInt8 :=
  (bits &&& ~~~mask) ||| (value &&& mask)

def withFlag (bits mask : UInt8) (set : Bool) : UInt8 :=
  if set then bits ||| mask else bits &&& ~~~mask

namespace GripperStatusFlags

def setActivated (flags : GripperStatusFlags) (activated : Bool) : GripperStatusFlags :=
  ⟨withFlag flags.bits activationStatusMask activated⟩

def setGoToEnabled (flags : GripperStatusFlags) (enabled : Bool) : GripperStatusFlags :=
  ⟨withFlag flags.bits goToEchoMask enabled⟩

def setActivationState (flags : GripperStatusFlags) (state : ActivationState) : GripperStatusFlags :=
  ⟨withField flags.bits activationStateMask (state.raw <<< 4)⟩

def setObjectDetection (flags : GripperStatusFlags) (detection : ObjectDetection) :
    GripperStatusFlags :=
  ⟨withField flags.bits objectDetectionMask (detection.raw <<< 6)⟩

end GripperStatusFlags

def commandAddress : UInt16 := 0x03E8
def commandRegisterCount : UInt16 := 3
def statusAddress : UInt16 := 0x07D0
def statusRegisterCount : UInt16 := 3
def blockRegisters : UInt16 := 8
def registerCount : UInt16 := statusAddress + blockRegisters
def reportedCurrent : UInt8 := 0x2A

structure RegisterModel where
  registers : Nat → UInt16
  previousActivateBit : Bool
  activationDone : Bool
  log : List LogEntry

namespace RegisterModel

/-- In 32 bits, so that an empty range at address 0 ends past the end. -/
def containsRange (address quantity : UInt16) : Bool :=
  address.toUInt32 + quantity.toUInt32 - 1 < registerCount.toUInt32

def outOfRange (access : String) (address quantity : UInt16) : LogEntry :=
  ⟨.error, access ++ " of " ++ toString quantity ++ " registers at " ++ toString address ++
    " reaches past the register file (" ++ toString registerCount ++ "); refused"⟩

def inCommandBlock (register : Nat) : Bool :=
  commandAddress.toNat ≤ register ∧ register < commandAddress.toNat + blockRegisters.toNat

/-- Command registers answer zero. -/
def read (device : RegisterModel) (address quantity : UInt16) (out : Nat → UInt16) :
    RegisterModel × (Nat → UInt16) :=
  if containsRange address quantity then
    (device, fun i =>
      if i < quantity.toNat then
        if inCommandBlock (address.toNat + i) then 0 else device.registers (address.toNat + i)
      else out i)
  else ({ device with log := device.log ++ [outOfRange "read" address quantity] }, out)

def copyIn (registers : Nat → UInt16) (address quantity : Nat) (values : Nat → UInt16) (register : Nat) :
    UInt16 :=
  if address ≤ register ∧ register < address + quantity then values (register - address)
  else registers register

def block (device : RegisterModel) (address : UInt16) (i : Nat) : UInt16 :=
  device.registers (address.toNat + i)

def command (device : RegisterModel) : GripperCommand :=
  .ofData (bytesFromRegisters blockRegisters.toNat (device.block commandAddress) fun _ => 0)

def status (device : RegisterModel) : GripperStatus :=
  .ofData (bytesFromRegisters blockRegisters.toNat (device.block statusAddress) fun _ => 0)

def setStatus (device : RegisterModel) (status : GripperStatus) : RegisterModel :=
  { device with
    registers := copyIn device.registers statusAddress.toNat blockRegisters.toNat
      (registersFromBytes status.data) }

def nextFlags (activateBit activationDone goTo : Bool) : GripperStatusFlags :=
  let flags := GripperStatusFlags.setActivated ⟨0⟩ activateBit
  if activateBit && activationDone then
    let flags := flags.setActivationState .complete
    if goTo then (flags.setGoToEnabled true).setObjectDetection .atRequestedPosition else flags
  else flags

def processCommand (device : RegisterModel) (command : GripperCommand) (currentStatus : GripperStatus) :
    RegisterModel × GripperStatus :=
  let activateBit := command.action.get .activate
  let activationDone :=
    -- a rising edge: the sweep completes instantly
    if activateBit && !device.previousActivateBit then true
    else if !activateBit then false
    else device.activationDone
  -- a latched fault survives until rACT is cleared
  let fault := if activateBit then currentStatus.faultStatus.bits else 0
  ({ device with previousActivateBit := activateBit, activationDone },
    { GripperStatus.zero with
      gripperStatus := nextFlags activateBit activationDone (command.action.get .goTo)
      faultStatus := ⟨fault⟩
      positionRequestEcho := command.positionRequest
      -- the fingers arrive instantly
      position := command.positionRequest
      current := reportedCurrent })

def write (device : RegisterModel) (address quantity : UInt16) (values : Nat → UInt16) : RegisterModel :=
  if containsRange address quantity then
    let written := { device with
      registers := copyIn device.registers address.toNat quantity.toNat values }
    let (acted, status) := written.processCommand written.command written.status
    acted.setStatus status
  else { device with log := device.log ++ [outOfRange "write" address quantity] }

/-- `GripperModbusClient::exchange` as the device sees it: function code 0x17, whose write comes before
its read. -/
def exchange (device : RegisterModel) (command : GripperCommand) : RegisterModel × GripperStatus :=
  let written := device.write commandAddress commandRegisterCount (registersFromBytes command.data)
  let (device, registers) := written.read statusAddress statusRegisterCount fun _ => 0
  (device, .ofData (bytesFromRegisters statusRegisterCount.toNat registers GripperStatus.zero.data))

def setFault (device : RegisterModel) (fault : UInt8) : RegisterModel :=
  device.setStatus { device.status with faultStatus := ⟨fault⟩ }

@[simp] theorem nextFlags_activated (activateBit activationDone goTo : Bool) :
    (nextFlags activateBit activationDone goTo).activated = activateBit := by
  cases activateBit <;> cases activationDone <;> cases goTo <;> decide

@[simp] theorem nextFlags_goToEnabled (activateBit activationDone goTo : Bool) :
    (nextFlags activateBit activationDone goTo).goToEnabled =
      (activateBit && activationDone && goTo) := by
  cases activateBit <;> cases activationDone <;> cases goTo <;> decide

theorem copyIn_of_lt {registers values : Nat → UInt16} {address quantity i : Nat} (hi : i < quantity) :
    copyIn registers address quantity values (address + i) = values i := by
  rw [copyIn, if_pos (by omega), Nat.add_sub_cancel_left]

theorem copyIn_of_ge {registers values : Nat → UInt16} {address quantity register : Nat}
    (past : address + quantity ≤ register) :
    copyIn registers address quantity values register = registers register := by
  rw [copyIn, if_neg (by omega)]

theorem status_setStatus (device : RegisterModel) (status : GripperStatus) :
    (device.setStatus status).status = status := by
  refine GripperStatus.ofData_eq fun i hi => bytesFromRegisters_congr hi ?_
  have register : i / 2 < blockRegisters.toNat := Nat.div_lt_of_lt_mul hi
  exact copyIn_of_lt register

def fault (device : RegisterModel) : UInt8 :=
  device.status.faultStatus.bits

def written (device : RegisterModel) (command : GripperCommand) : RegisterModel :=
  { device with
    registers := copyIn device.registers commandAddress.toNat commandRegisterCount.toNat
      (registersFromBytes command.data) }

theorem written_action (device : RegisterModel) (command : GripperCommand) :
    (device.written command).command.action = command.action := by
  have first : (0 : Nat) < commandRegisterCount.toNat := by decide
  have register : (device.written command).block commandAddress 0 =
      registersFromBytes command.data 0 := by
    simp only [block, written]
    exact copyIn_of_lt first
  exact congrArg ActionRequest.mk
    (@bytesFromRegisters_congr blockRegisters.toNat _ _ 0 (by decide) command.data register)

theorem written_status (device : RegisterModel) (command : GripperCommand) :
    (device.written command).status = device.status := by
  have same : (device.written command).block statusAddress = device.block statusAddress := by
    funext i
    exact copyIn_of_ge (Nat.le_trans (by decide) (Nat.le_add_right _ i))
  rw [status, same, status]

def acts (device : RegisterModel) (command : GripperCommand) : RegisterModel × GripperStatus :=
  (device.written command).processCommand (device.written command).command
    (device.written command).status

theorem write_command (device : RegisterModel) (command : GripperCommand) :
    device.write commandAddress commandRegisterCount (registersFromBytes command.data) =
      (device.acts command).1.setStatus (device.acts command).2 :=
  if_pos (by decide)

theorem exchange_device (device : RegisterModel) (command : GripperCommand) :
    (device.exchange command).1 = (device.acts command).1.setStatus (device.acts command).2 := by
  have inside : containsRange statusAddress statusRegisterCount = true := by decide
  simp only [exchange, read, inside, if_true, write_command]

end RegisterModel
end TactileSensors.Gripper
