import TactileSensors.Gripper.ProcessImage

/-!
# What is waited for

`sync` waits for an exchange past a count, or for the image to be closed, and `publish` and `close` bring
these about. The clocks are left out: no deadline has passed.
-/

namespace TactileSensors.Platform
open Gripper

def Waits (image : ProcessImage) (count : Nat) : Prop :=
  image.exchangeCount ≤ count ∧ image.closed = false

instance (image : ProcessImage) (count : Nat) : Decidable (Waits image count) :=
  inferInstanceAs (Decidable (_ ∧ _))

inductive Job
  | publish (command : GripperCommand) (status : GripperStatus) (completedAt : Int)
  | close
deriving DecidableEq

def Job.change (job : Job) (image : ProcessImage) : ProcessImage :=
  match job with
  | .publish command status completedAt => image.publish command status completedAt
  | .close => image.close

inductive News
  | exchange (count : Nat)
  | closed
deriving DecidableEq, Repr

def Job.news (job : Job) (after : ProcessImage) : News :=
  match job with
  | .publish .. => .exchange after.exchangeCount
  | .close => .closed

/-- It ends a wait past `count`. -/
def News.satisfies (count : Nat) : News → Bool
  | .exchange n => count < n
  | .closed => true

theorem Waits.of_change {job : Job} {image : ProcessImage} {count : Nat}
    (waits : Waits (job.change image) count) : Waits image count := by
  cases job with
  | publish command status completedAt => exact ⟨Nat.le_of_succ_le waits.1, waits.2⟩
  | close => cases waits.2

theorem Waits.not_satisfied {job : Job} {image : ProcessImage} {count : Nat}
    (waits : Waits (job.change image) count) :
    (job.news (job.change image)).satisfies count = false := by
  cases job with
  | publish command status completedAt => simpa [Job.news, News.satisfies] using waits.1
  | close => cases waits.2

end TactileSensors.Platform
