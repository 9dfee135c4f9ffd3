import TactileSensors.Gripper.RegisterModel
import TactileSensors.Machine.Run

/-!
# The device model over a history of accesses

A write may be of part of a block, and may reach into the status registers, which the device then writes
over. Whatever it was, the status answers the command registers as they are after it.
-/

namespace TactileSensors.Gripper
open Machine
namespace RegisterModel

def fresh : RegisterModel := ⟨fun _ => 0, false, false, []⟩

/-! ## The range check -/

/-- The register of an access's value `i`, in 16 bits as the code computes it. -/
def register (address : UInt16) (i : Nat) : UInt16 := address + UInt16.ofNat i

theorem containsRange_iff {address quantity : UInt16} :
    containsRange address quantity = true ↔
      0 < address.toNat + quantity.toNat ∧ address.toNat + quantity.toNat ≤ registerCount.toNat := by
  have first := address.toNat_lt
  have count := quantity.toNat_lt
  have size : registerCount.toNat = 2008 := rfl
  have last : (address.toUInt32 + quantity.toUInt32 - 1).toNat =
      (2 ^ 32 - 1 + (address.toNat + quantity.toNat)) % 2 ^ 32 := by
    simp [UInt32.toNat_sub, UInt32.toNat_add]
  rw [containsRange, decide_eq_true_iff, UInt32.lt_iff_toNat_lt, last, UInt16.toNat_toUInt32, size]
  omega

theorem toNat_register {address quantity : UInt16} (accepted : containsRange address quantity) {i : Nat}
    (hi : i < quantity.toNat) : (register address i).toNat = address.toNat + i := by
  obtain ⟨-, inside⟩ := containsRange_iff.mp accepted
  have size : registerCount.toNat = 2008 := rfl
  rw [register, UInt16.toNat_add, UInt16.toNat_ofNat']
  omega

theorem register_lt {address quantity : UInt16} (accepted : containsRange address quantity) {i : Nat}
    (hi : i < quantity.toNat) : (register address i).toNat < registerCount.toNat := by
  obtain ⟨-, inside⟩ := containsRange_iff.mp accepted
  rw [toNat_register accepted hi]
  omega

/-! ## What an access uses -/

def SameFile (device other : RegisterModel) : Prop :=
  ∀ register < registerCount.toNat, device.registers register = other.registers register

def copied (device : RegisterModel) (address quantity : UInt16) (values : Nat → UInt16) : RegisterModel :=
  { device with registers := copyIn device.registers address.toNat quantity.toNat values }

def reacts (device : RegisterModel) : RegisterModel :=
  (device.processCommand device.command device.status).1.setStatus
    (device.processCommand device.command device.status).2

variable {device other : RegisterModel} {address quantity : UInt16} {values out : Nat → UInt16}

theorem write_eq (accepted : containsRange address quantity) :
    device.write address quantity values = (device.copied address quantity values).reacts :=
  if_pos accepted

theorem read_device (accepted : containsRange address quantity) :
    (device.read address quantity out).1 = device := by
  rw [read, if_pos accepted]

theorem read_values (accepted : containsRange address quantity) {i : Nat} (hi : i < quantity.toNat) :
    (device.read address quantity out).2 i =
      if inCommandBlock (address.toNat + i) then 0 else device.registers (address.toNat + i) := by
  rw [read, if_pos accepted]
  exact if_pos hi

theorem bytesFromRegisters_of_eq {registerCount : Nat} {registers others : Nat → UInt16}
    {block : Nat → UInt8} (same : ∀ i < registerCount, registers i = others i) :
    bytesFromRegisters registerCount registers block = bytesFromRegisters registerCount others block := by
  funext i
  simp only [bytesFromRegisters]
  split
  · rw [same (i / 2) (by omega)]
  · rfl

theorem SameFile.command (same : SameFile device other) : device.command = other.command := by
  rw [RegisterModel.command, RegisterModel.command]
  congr 1
  refine bytesFromRegisters_of_eq fun i hi => same _ ?_
  exact Nat.lt_trans (Nat.add_lt_add_left hi commandAddress.toNat) (by decide)

theorem SameFile.status (same : SameFile device other) : device.status = other.status := by
  rw [RegisterModel.status, RegisterModel.status]
  congr 1
  refine bytesFromRegisters_of_eq fun i hi => same _ ?_
  exact Nat.lt_of_lt_of_le (Nat.add_lt_add_left hi statusAddress.toNat) (by decide)

theorem SameFile.copyIn (same : SameFile device other) (address quantity : Nat) (values : Nat → UInt16) :
    ∀ register < registerCount.toNat, copyIn device.registers address quantity values register =
      RegisterModel.copyIn other.registers address quantity values register := by
  intro register inside
  simp only [RegisterModel.copyIn, same register inside]

theorem reacts_registers (device : RegisterModel) :
    device.reacts.registers = RegisterModel.copyIn device.registers statusAddress.toNat
      blockRegisters.toNat
      (registersFromBytes (device.processCommand device.command device.status).2.data) :=
  rfl

theorem SameFile.processCommand (same : SameFile device other)
    (previous : device.previousActivateBit = other.previousActivateBit)
    (done : device.activationDone = other.activationDone) :
    (device.processCommand device.command device.status).2 =
      (other.processCommand other.command other.status).2 := by
  simp only [RegisterModel.processCommand, same.command, same.status, previous, done]

theorem SameFile.write (same : SameFile device other)
    (previous : device.previousActivateBit = other.previousActivateBit)
    (done : device.activationDone = other.activationDone) (accepted : containsRange address quantity) :
    SameFile (device.write address quantity values) (other.write address quantity values) := by
  have file : SameFile (device.copied address quantity values) (other.copied address quantity values) :=
    same.copyIn _ _ _
  have answer := file.processCommand previous done
  intro register inside
  rw [write_eq accepted, write_eq accepted, reacts_registers, reacts_registers, answer]
  exact file.copyIn _ _ _ register inside

theorem write_past (accepted : containsRange address quantity) {register : Nat}
    (past : registerCount.toNat ≤ register) :
    (device.write address quantity values).registers register = device.registers register := by
  obtain ⟨-, inside⟩ := containsRange_iff.mp accepted
  have status : statusAddress.toNat + blockRegisters.toNat = registerCount.toNat := rfl
  rw [write_eq accepted, reacts_registers, copyIn_of_ge (by omega)]
  exact copyIn_of_ge (by omega)

theorem SameFile.read (same : SameFile device other) (accepted : containsRange address quantity) :
    (device.read address quantity out).2 = (other.read address quantity out).2 := by
  obtain ⟨-, inside⟩ := containsRange_iff.mp accepted
  funext i
  rw [RegisterModel.read, RegisterModel.read, if_pos accepted, if_pos accepted]
  by_cases hi : i < quantity.toNat
  · simp only [if_pos hi, same (address.toNat + i) (by omega)]
  · simp only [if_neg hi]

/-! ## What the status answers -/

theorem nextFlags_activationState (activateBit activationDone goTo : Bool) :
    (nextFlags activateBit activationDone goTo).activationState =
      if activateBit && activationDone then .complete else .reset := by
  cases activateBit <;> cases activationDone <;> cases goTo <;> decide

theorem command_setStatus (device : RegisterModel) (status : GripperStatus) :
    (device.setStatus status).command = device.command := by
  rw [command, command]
  congr 1
  refine bytesFromRegisters_of_eq fun i hi => ?_
  have apart : commandAddress.toNat + blockRegisters.toNat ≤ statusAddress.toNat := by decide
  exact if_neg (by omega)

def Consistent (device : RegisterModel) : Prop :=
  device.activationDone = device.previousActivateBit

theorem reacts_consistent (consistent : device.Consistent) : device.reacts.Consistent := by
  change device.activationDone = device.previousActivateBit at consistent
  simp only [reacts, setStatus, processCommand, Consistent, consistent]
  cases device.command.action.get .activate <;> cases device.previousActivateBit <;> rfl

/-- What the device says of the command registers, `copied` being it before it acted on them. -/
structure Answers (copied device : RegisterModel) : Prop where
  command : device.command = copied.command
  activated : device.status.gripperStatus.activated = device.command.activates
  activationState : device.status.gripperStatus.activationState =
    if device.command.activates then .complete else .reset
  goTo : device.status.gripperStatus.goToEnabled =
    (device.command.activates && device.command.goesTo)
  echo : device.status.positionRequestEcho = device.command.positionRequest
  position : device.status.position = device.command.positionRequest
  fault : device.status.faultStatus.bits =
    if device.command.activates then copied.status.faultStatus.bits else 0

theorem activationDone_reacts (consistent : device.Consistent) :
    (device.processCommand device.command device.status).1.activationDone =
      device.command.activates := by
  change device.activationDone = device.previousActivateBit at consistent
  simp only [processCommand, GripperCommand.activates, consistent]
  cases device.command.action.get .activate <;> cases device.previousActivateBit <;> rfl

theorem status_reacts (consistent : device.Consistent) :
    device.reacts.status = { GripperStatus.zero with
      gripperStatus := nextFlags device.command.activates device.command.activates device.command.goesTo
      faultStatus := ⟨if device.command.activates then device.status.faultStatus.bits else 0⟩
      positionRequestEcho := device.command.positionRequest
      position := device.command.positionRequest
      current := reportedCurrent } := by
  have done := activationDone_reacts consistent
  rw [reacts, status_setStatus]
  simp only [processCommand] at done
  simp only [processCommand, done]
  rfl

theorem reacts_answers (consistent : device.Consistent) : Answers device device.reacts := by
  have same : device.reacts.command = device.command := command_setStatus _ _
  have status := status_reacts consistent
  refine ⟨same, ?_, ?_, ?_, ?_, ?_, ?_⟩
  case refine_1 => rw [status, same, nextFlags_activated]
  case refine_2 => rw [status, same, nextFlags_activationState, Bool.and_self]
  case refine_3 => rw [status, same, nextFlags_goToEnabled, Bool.and_self]
  case refine_4 => rw [status, same]
  case refine_5 => rw [status, same]
  case refine_6 => rw [status, same]

/-! ## Any history -/

inductive Access
  | read (address quantity : UInt16) (out : Nat → UInt16)
  | write (address quantity : UInt16) (values : Nat → UInt16)

def access (device : RegisterModel) : Access → Option RegisterModel
  | .read address quantity out =>
      if containsRange address quantity then some (device.read address quantity out).1 else none
  | .write address quantity values =>
      if containsRange address quantity then some (device.write address quantity values) else none

theorem access_consistent {a : Access} {device' : RegisterModel} (consistent : device.Consistent)
    (taken : device.access a = some device') : device'.Consistent := by
  cases a with
  | read address quantity out =>
      obtain ⟨accepted, same⟩ := Option.ite_none_right_eq_some.mp taken
      rw [read_device accepted, Option.some_inj] at same
      exact same ▸ consistent
  | write address quantity values =>
      obtain ⟨accepted, same⟩ := Option.ite_none_right_eq_some.mp taken
      rw [write_eq accepted, Option.some_inj] at same
      have copied : (device.copied address quantity values).Consistent := consistent
      exact same ▸ reacts_consistent copied

theorem history_consistent {history : List Access} (taken : run access fresh history = some device) :
    device.Consistent :=
  run_invariant (fun _ _ _ => access_consistent) taken rfl

/-- After any history of accesses, an accepted write leaves the status that answers the command, an
accepted read leaves everything, and neither uses a register the file does not have. -/
theorem access_answers {history : List Access} (taken : run access fresh history = some device)
    {address quantity : UInt16} (accepted : containsRange address quantity) :
    (∀ values, Answers (device.copied address quantity values) (device.write address quantity values)) ∧
      (∀ out, (device.read address quantity out).1 = device ∧
        ∀ i < quantity.toNat, inCommandBlock (register address i).toNat →
          (device.read address quantity out).2 i = 0) ∧
      (∀ i < quantity.toNat, (register address i).toNat = address.toNat + i ∧
        (register address i).toNat < registerCount.toNat) ∧
      (∀ other, SameFile device other → device.previousActivateBit = other.previousActivateBit →
        device.activationDone = other.activationDone →
          (∀ values, SameFile (device.write address quantity values)
            (other.write address quantity values)) ∧
          ∀ out, (device.read address quantity out).2 = (other.read address quantity out).2) ∧
      ∀ values past, registerCount.toNat ≤ past →
        (device.write address quantity values).registers past = device.registers past := by
  have consistent := history_consistent taken
  refine ⟨fun values => ?_, fun out => ⟨read_device accepted, fun i hi inside => ?_⟩,
    fun i hi => ⟨toNat_register accepted hi, register_lt accepted hi⟩,
    fun other same previous done => ⟨fun values => same.write previous done accepted,
      fun out => same.read accepted⟩, fun values past hpast => write_past accepted hpast⟩
  · have copied : (device.copied address quantity values).Consistent := consistent
    rw [write_eq accepted]
    exact reacts_answers copied
  · rw [toNat_register accepted hi] at inside
    rw [read_values accepted hi, if_pos inside]

/-- A block across the end of the command registers and a read of the whole status block, and then a
write of one status register. -/
theorem access_answers_at_status :
    ∃ device, run access fresh [.write 1000 9 fun i => if i = 0 then 0x0900 else 7,
        .read 2000 8 fun _ => 0] = some device ∧
      (device.write 2001 1 fun _ => 0x0A00).status.faultStatus.bits = 0x0A := by
  obtain ⟨device, taken⟩ : ∃ device, run access fresh [.write 1000 9 fun i => if i = 0 then 0x0900 else 7,
      .read 2000 8 fun _ => 0] = some device := ⟨_, rfl⟩
  have accepted : containsRange 2001 1 = true := by decide
  have fault := ((access_answers taken accepted).1 fun _ => 0x0A00).fault
  refine ⟨device, taken, fault.trans ?_⟩
  cases Option.some.inj taken
  rfl

/-! ## Reconnecting -/

/-- A write of the command block: its defined registers and any of the rest. -/
structure CommandBlock where
  -- a fault the device met since the write before
  met : Option UInt8
  quantity : UInt16
  values : Nat → UInt16
  full : commandRegisterCount ≤ quantity ∧ quantity ≤ blockRegisters

def CommandBlock.sent (device : RegisterModel) (block : CommandBlock) : RegisterModel :=
  let device := match block.met with
    | some fault => device.setFault fault
    | none => device
  device.write commandAddress block.quantity block.values

def readStatus (device : RegisterModel) : RegisterModel × GripperStatus :=
  let (device, registers) := device.read statusAddress statusRegisterCount fun _ => 0
  (device, .ofData (bytesFromRegisters statusRegisterCount.toNat registers GripperStatus.zero.data))

def writeCommand (device : RegisterModel) (command : GripperCommand) : RegisterModel :=
  device.write commandAddress commandRegisterCount (registersFromBytes command.data)

theorem CommandBlock.accepted (block : CommandBlock) : containsRange commandAddress block.quantity := by
  obtain ⟨least, most⟩ := block.full
  have low : (3 : Nat) ≤ block.quantity.toNat := UInt16.le_iff_toNat_le.mp least
  have high : block.quantity.toNat ≤ 8 := UInt16.le_iff_toNat_le.mp most
  have first : commandAddress.toNat = 1000 := rfl
  have size : registerCount.toNat = 2008 := rfl
  rw [containsRange_iff]
  omega

theorem setFault_consistent (fault : UInt8) (consistent : device.Consistent) :
    (device.setFault fault).Consistent :=
  consistent

theorem sent_reacts (block : CommandBlock) (consistent : device.Consistent) :
    ∃ before : RegisterModel, before.Consistent ∧ block.sent device = before.reacts := by
  have taken : ∀ device : RegisterModel, device.Consistent → ∃ before : RegisterModel,
      before.Consistent ∧ device.write commandAddress block.quantity block.values = before.reacts :=
    fun device consistent => ⟨device.copied commandAddress block.quantity block.values, consistent,
      write_eq block.accepted⟩
  rw [CommandBlock.sent]
  cases block.met with
  | none => exact taken device consistent
  | some fault => exact taken _ (setFault_consistent fault consistent)

/-- What every device that has acted on a command is. -/
structure Settled (device : RegisterModel) : Prop where
  consistent : device.Consistent
  reported : ∃ goTo fault position, (device.previousActivateBit = false → fault = 0) ∧
    device.status = { GripperStatus.zero with
      gripperStatus := nextFlags device.previousActivateBit device.previousActivateBit goTo
      faultStatus := ⟨fault⟩
      positionRequestEcho := position
      position := position
      current := reportedCurrent }
  stored : ∀ i < blockRegisters.toNat,
    device.block statusAddress i = registersFromBytes device.status.data i

theorem reacts_settled (consistent : device.Consistent) : device.reacts.Settled := by
  have status := status_reacts consistent
  refine ⟨reacts_consistent consistent, ⟨device.command.goesTo,
    if device.command.activates then device.status.faultStatus.bits else 0,
    device.command.positionRequest, fun clear => ?_, status⟩, fun i hi => ?_⟩
  · change device.command.activates = false at clear
    rw [clear]
    rfl
  · rw [block, reacts_registers, copyIn_of_lt hi, reacts, status_setStatus]

theorem history_settled {history : List CommandBlock} (nonempty : history ≠ []) :
    (history.foldl CommandBlock.sent fresh).Settled := by
  have consistent : ∀ history : List CommandBlock,
      (history.foldl CommandBlock.sent fresh).Consistent := by
    intro history
    induction history using List.reverseRecOn with
    | nil => rfl
    | append_singleton history last ih =>
        obtain ⟨before, again, sent⟩ := sent_reacts last ih
        rw [List.foldl_append, List.foldl_cons, List.foldl_nil, sent]
        exact reacts_consistent again
  obtain ⟨earlier, last, rfl⟩ := (List.eq_nil_or_concat' history).resolve_left nonempty
  obtain ⟨before, again, sent⟩ := sent_reacts last (consistent earlier)
  rw [List.foldl_append, List.foldl_cons, List.foldl_nil, sent]
  exact reacts_settled again

theorem readStatus_device (device : RegisterModel) : device.readStatus.1 = device := by
  have inside : containsRange statusAddress statusRegisterCount = true := by decide
  rw [readStatus, read_device inside]

theorem readStatus_byte (device : RegisterModel) {i : Nat} (hi : i < 2 * statusRegisterCount.toNat) :
    bytesFromRegisters statusRegisterCount.toNat
        (device.read statusAddress statusRegisterCount fun _ => 0).2 GripperStatus.zero.data i =
      bytesFromRegisters blockRegisters.toNat (device.block statusAddress) (fun _ => 0) i := by
  have reads : ∀ i, i < 3 → inCommandBlock (statusAddress.toNat + i) = false := by decide
  have inside : i / 2 < 3 := Nat.div_lt_of_lt_mul hi
  have accepted : containsRange statusAddress statusRegisterCount = true := by decide
  have value : (device.read statusAddress statusRegisterCount fun _ => 0).2 (i / 2) =
      device.registers (statusAddress.toNat + i / 2) := by
    rw [read_values accepted inside, reads _ inside]
    rfl
  have wide : i < 2 * blockRegisters.toNat := Nat.lt_trans hi (by decide)
  rw [bytesFromRegisters, bytesFromRegisters, if_pos hi, if_pos wide, value]
  rfl

theorem readStatus_flags (device : RegisterModel) :
    device.readStatus.2.gripperStatus = device.status.gripperStatus :=
  congrArg GripperStatusFlags.mk (readStatus_byte device (i := 0) (by decide))

theorem readStatus_echo (device : RegisterModel) :
    device.readStatus.2.positionRequestEcho = device.status.positionRequestEcho :=
  readStatus_byte device (i := 3) (by decide)

theorem written_positionRequest (device : RegisterModel) (command : GripperCommand) :
    (device.written command).command.positionRequest = command.positionRequest := by
  have second : (1 : Nat) < commandRegisterCount.toNat := by decide
  have register : (device.written command).block commandAddress 1 =
      registersFromBytes command.data 1 := by
    simp only [block, written]
    exact copyIn_of_lt second
  exact @bytesFromRegisters_congr blockRegisters.toNat _ (fun _ => 0) 3 (by decide) command.data register

theorem nextFlags_again (activateBit goTo : Bool) :
    nextFlags activateBit activateBit (activateBit && goTo) = nextFlags activateBit activateBit goTo := by
  cases activateBit <;> cases goTo <;> rfl

def rising (device : RegisterModel) : Bool :=
  device.command.activates && !device.previousActivateBit

def falling (device : RegisterModel) : Bool :=
  !device.command.activates && device.previousActivateBit

def seeded (device : RegisterModel) : RegisterModel :=
  device.readStatus.1.written (GripperState.initialCommand device.readStatus.2)

theorem seeded_status (device : RegisterModel) : device.seeded.status = device.status := by
  rw [seeded, readStatus_device, written_status]

theorem seeded_command (device : RegisterModel) :
    device.seeded.command.activates = device.status.gripperStatus.activated ∧
      device.seeded.command.goesTo = device.status.gripperStatus.goToEnabled ∧
      device.seeded.command.positionRequest = device.status.positionRequestEcho := by
  refine ⟨?_, ?_, ?_⟩
  · rw [seeded, GripperCommand.activates, written_action, ← readStatus_flags]
    simp [GripperState.initialCommand]
  · rw [seeded, GripperCommand.goesTo, written_action, ← readStatus_flags]
    simp [GripperState.initialCommand]
  · rw [seeded, written_positionRequest, ← readStatus_echo]
    rfl

theorem seeded_consistent (consistent : device.Consistent) : device.seeded.Consistent := by
  rw [seeded, readStatus_device]
  exact consistent

theorem seeded_previous (device : RegisterModel) :
    device.seeded.previousActivateBit = device.previousActivateBit := by
  rw [seeded, readStatus_device]
  rfl

theorem seeded_activates (settled : device.Settled) :
    device.seeded.command.activates = device.previousActivateBit := by
  obtain ⟨goTo, fault, position, -, status⟩ := settled.reported
  rw [(seeded_command device).1, status, nextFlags_activated]

theorem seeded_reacts_status (settled : device.Settled) :
    device.seeded.reacts.status = device.status := by
  obtain ⟨goTo, fault, position, clear, status⟩ := settled.reported
  obtain ⟨-, goes, requested⟩ := seeded_command device
  rw [status_reacts (seeded_consistent settled.consistent), seeded_activates settled, goes, requested,
    seeded_status, status, nextFlags_goToEnabled, Bool.and_self, nextFlags_again]
  cases active : device.previousActivateBit with
  | false => rw [clear active]; rfl
  | true => rfl

/-- A connection to a device that has taken any commands: the write of the command that is seeded from
its status leaves the status block as it was and is no edge of rACT. -/
theorem reconnect_undisturbed {history : List CommandBlock} (nonempty : history ≠ []) :
    let device := history.foldl CommandBlock.sent fresh
    let command := GripperState.initialCommand device.readStatus.2
    let reconnected := device.readStatus.1.writeCommand command
    (device.readStatus.1.written command).rising = false ∧
      (device.readStatus.1.written command).falling = false ∧
      reconnected.previousActivateBit = device.previousActivateBit ∧
      reconnected.activationDone = device.activationDone ∧
      reconnected.status = device.status ∧
      ∀ i < blockRegisters.toNat, reconnected.block statusAddress i = device.block statusAddress i := by
  intro device command reconnected
  have settled : device.Settled := history_settled nonempty
  have written : reconnected = device.seeded.reacts :=
    write_eq (show containsRange commandAddress commandRegisterCount by decide)
  have activates := seeded_activates settled
  have again := reacts_settled (seeded_consistent settled.consistent)
  have previous : reconnected.previousActivateBit = device.previousActivateBit := by
    rw [written]
    exact activates
  have status : reconnected.status = device.status := by
    rw [written]
    exact seeded_reacts_status settled
  refine ⟨?_, ?_, previous, ?_, status, fun i hi => ?_⟩
  · change (device.seeded.command.activates && !device.seeded.previousActivateBit) = false
    rw [activates, seeded_previous, Bool.and_not_self]
  · change (!device.seeded.command.activates && device.seeded.previousActivateBit) = false
    rw [activates, seeded_previous, Bool.not_and_self]
  · rw [written]
    rw [written] at previous
    exact again.consistent.trans (previous.trans settled.consistent.symm)
  · rw [settled.stored i hi, ← status, written]
    exact again.stored i hi

theorem reconnect_undisturbed_at_fault :
    let history : List CommandBlock :=
      [⟨none, 3, fun _ => 0x0900, by decide⟩, ⟨some 0x0A, 8, fun _ => 0x0900, by decide⟩]
    let device := history.foldl CommandBlock.sent fresh
    device.status.faultStatus.bits = 0x0A ∧
      (device.readStatus.1.writeCommand (GripperState.initialCommand device.readStatus.2)).status =
        device.status := by
  intro history device
  have nonempty : history ≠ [] := List.cons_ne_nil _ _
  obtain ⟨-, -, -, -, status, -⟩ := reconnect_undisturbed nonempty
  exact ⟨by decide, status⟩

end RegisterModel
end TactileSensors.Gripper
