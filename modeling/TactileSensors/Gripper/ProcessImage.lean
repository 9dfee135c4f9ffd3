import TactileSensors.Gripper.Blocks

/-!
# The process image

The command block for the next exchange and the record of the last one. Every method holds the lock
from its first line, so each is one step; times are nanoseconds of the steady clock.
-/

namespace TactileSensors.Gripper

structure ExchangeMetadata where
  exchangeCount : Nat
  timestamp : Int
deriving DecidableEq, Repr

structure StampedExchange where
  metadata : ExchangeMetadata
  command : GripperCommand
  status : GripperStatus
deriving DecidableEq, Repr

structure ProcessImage where
  command : GripperCommand
  stamped : StampedExchange
  closed : Bool
deriving DecidableEq, Repr

namespace ProcessImage

def empty : ProcessImage :=
  let zero : GripperCommand := ⟨⟨0⟩, 0, 0, 0, 0, 0, Vector.replicate 10 0⟩
  ⟨zero, ⟨⟨0, 0⟩, zero, .zero⟩, false⟩

def seed (image : ProcessImage) (status : GripperStatus) (time : Int) (command : GripperCommand) :
    ProcessImage :=
  { image with stamped := ⟨⟨0, time⟩, command, status⟩, command }

def setCommand (image : ProcessImage) (command : GripperCommand) : ProcessImage :=
  { image with command }

def publish (image : ProcessImage) (command : GripperCommand) (status : GripperStatus)
    (completedAt : Int) : ProcessImage :=
  { image with stamped := ⟨⟨image.stamped.metadata.exchangeCount + 1, completedAt⟩, command, status⟩ }

def close (image : ProcessImage) : ProcessImage :=
  { image with closed := true }

def exchangeCount (image : ProcessImage) : Nat :=
  image.stamped.metadata.exchangeCount

/-- `sync`, at one of its looks at the image: `none` while it goes on waiting. -/
def sync (image : ProcessImage) (count : Nat) (deadline now : Int) : Option StampedExchange :=
  if image.exchangeCount ≤ count ∧ !image.closed ∧ now < deadline then none else some image.stamped

@[simp] theorem setCommand_command (image : ProcessImage) (command : GripperCommand) :
    (image.setCommand command).command = command := rfl

@[simp] theorem setCommand_stamped (image : ProcessImage) (command : GripperCommand) :
    (image.setCommand command).stamped = image.stamped := rfl

@[simp] theorem setCommand_exchangeCount (image : ProcessImage) (command : GripperCommand) :
    (image.setCommand command).exchangeCount = image.exchangeCount := rfl

@[simp] theorem publish_command (image : ProcessImage) (command : GripperCommand)
    (status : GripperStatus) (completedAt : Int) :
    (image.publish command status completedAt).command = image.command := rfl

@[simp] theorem publish_exchangeCount (image : ProcessImage) (command : GripperCommand)
    (status : GripperStatus) (completedAt : Int) :
    (image.publish command status completedAt).exchangeCount = image.exchangeCount + 1 := rfl

@[simp] theorem close_command (image : ProcessImage) : image.close.command = image.command := rfl

@[simp] theorem close_stamped (image : ProcessImage) : image.close.stamped = image.stamped := rfl

@[simp] theorem close_exchangeCount (image : ProcessImage) :
    image.close.exchangeCount = image.exchangeCount := rfl

end ProcessImage
end TactileSensors.Gripper
