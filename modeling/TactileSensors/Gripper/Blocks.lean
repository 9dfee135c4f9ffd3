import Mathlib.Data.List.Basic

/-!
# Command and status blocks

The two blocks of the gripper's register map, byte by byte, with the bits and fields the driver reads
from them.
-/

namespace TactileSensors.Gripper

inductive ActionRequestBit
  | activate
  | goTo
  | autoRelease
  | autoReleaseOpenDirection
deriving DecidableEq, Repr

def ActionRequestBit.mask : ActionRequestBit → UInt8
  | .activate => 0x01
  | .goTo => 0x08
  | .autoRelease => 0x10
  | .autoReleaseOpenDirection => 0x20

structure ActionRequest where
  value : UInt8
deriving DecidableEq, Repr

namespace ActionRequest

def get (request : ActionRequest) (bit : ActionRequestBit) : Bool :=
  request.value &&& bit.mask ≠ 0

def set (request : ActionRequest) (bit : ActionRequestBit) (on : Bool) : ActionRequest :=
  ⟨if on then request.value ||| bit.mask else request.value &&& ~~~bit.mask⟩

theorem or_and_mask (v m n : UInt8) : (v ||| m) &&& n = (v &&& n) ||| (m &&& n) := by
  apply UInt8.eq_of_toBitVec_eq
  ext i hi
  simp [Bool.and_or_distrib_right]

theorem mask_and (written read : ActionRequestBit) :
    written.mask &&& read.mask = if written = read then read.mask else 0 := by
  cases written <;> cases read <;> rfl

theorem not_mask_and (written read : ActionRequestBit) :
    ~~~written.mask &&& read.mask = if written = read then 0 else read.mask := by
  cases written <;> cases read <;> rfl

theorem mask_ne_zero (bit : ActionRequestBit) : bit.mask ≠ 0 := by
  cases bit <;> decide

@[simp] theorem get_set (request : ActionRequest) (written read : ActionRequestBit) (on : Bool) :
    (request.set written on).get read = if written = read then on else request.get read := by
  cases on with
  | false =>
      simp only [get, set, Bool.false_eq_true, if_false, UInt8.and_assoc, not_mask_and]
      split_ifs <;> simp
  | true =>
      simp only [get, set, if_true, or_and_mask, mask_and]
      split_ifs <;> simp
      exact .inr (mask_ne_zero read)

end ActionRequest

/-- The command block. Two blocks are equal when all sixteen bytes are. -/
structure GripperCommand where
  action : ActionRequest
  reserved1 : UInt8
  reserved2 : UInt8
  positionRequest : UInt8
  speed : UInt8
  force : UInt8
  reservedTail : Vector UInt8 10
deriving DecidableEq, Repr

def GripperCommand.defaults : GripperCommand where
  action := (ActionRequest.mk 0).set .activate true
  reserved1 := 0
  reserved2 := 0
  positionRequest := 0
  speed := 0xFF
  force := 0xFF
  reservedTail := Vector.replicate 10 0

def GripperCommand.activates (command : GripperCommand) : Bool :=
  command.action.get .activate

def GripperCommand.goesTo (command : GripperCommand) : Bool :=
  command.action.get .goTo

inductive ActivationState
  | reset
  | inProgress
  | reserved
  | complete
deriving DecidableEq, Repr

inductive FaultSeverity
  | none
  | warning
  | minor
  | major
deriving DecidableEq, Repr

def activationStatusMask : UInt8 := 0x01
def goToEchoMask : UInt8 := 0x08
def activationStateMask : UInt8 := 0x30
def objectDetectionMask : UInt8 := 0xC0
def gripperFaultMask : UInt8 := 0x0F

structure GripperStatusFlags where
  bits : UInt8
deriving DecidableEq, Repr

namespace GripperStatusFlags

def activated (flags : GripperStatusFlags) : Bool :=
  flags.bits &&& activationStatusMask ≠ 0

def goToEnabled (flags : GripperStatusFlags) : Bool :=
  flags.bits &&& goToEchoMask ≠ 0

def activationState (flags : GripperStatusFlags) : ActivationState :=
  match (flags.bits &&& activationStateMask) >>> 4 with
  | 0 => .reset
  | 1 => .inProgress
  | 2 => .reserved
  | _ => .complete

end GripperStatusFlags

structure FaultStatus where
  bits : UInt8
deriving DecidableEq, Repr

def FaultStatus.gripperFault (fault : FaultStatus) : UInt8 :=
  fault.bits &&& gripperFaultMask

/-- The severity of a gFLT code; a code the table does not have is a major fault. -/
def severity : UInt8 → FaultSeverity
  | 0x00 => .none
  | 0x04 | 0x05 | 0x07 => .warning
  | 0x08 | 0x09 => .minor
  | _ => .major

structure GripperStatus where
  gripperStatus : GripperStatusFlags
  reserved1 : UInt8
  faultStatus : FaultStatus
  positionRequestEcho : UInt8
  position : UInt8
  current : UInt8
  reservedTail : Vector UInt8 10
deriving DecidableEq, Repr

def GripperStatus.zero : GripperStatus :=
  ⟨⟨0⟩, 0, ⟨0⟩, 0, 0, 0, Vector.replicate 10 0⟩

end TactileSensors.Gripper
