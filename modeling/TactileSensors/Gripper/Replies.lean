import TactileSensors.Gripper.FakeGripper
import TactileSensors.Modbus.Bounds

/-!
# What a transaction takes for a reply

On a line of which nothing is known, down to what a read returns: a transaction stays inside the
library's buffer, and returns only for the reply to what it asked.
-/

namespace TactileSensors.Gripper
open Modbus Machine ForceTorque

variable {σ : Type} {serial : Serial σ} {client client' : Nmbs (CallbackContext σ)}

theorem bounded_platformConf (serial : Serial σ) : (platformConf serial).Bounded := by
  intro n timeout arg data arg' read
  simp only [platformConf, readSerial] at read
  split at read
  · split at read
    · rename_i fits
      cases read
      exact fits
    · cases read
      exact List.length_take_le n _
  · cases read

/-- No line makes a transaction leave the buffer of the library's message. -/
theorem transaction_in_bounds (serial : Serial σ) (transaction : Transaction)
    (client client' : Nmbs (CallbackContext σ)) :
    transaction.perform serial client ≠ .error .outOfBounds client' := by
  intro performed
  have inside := @Request.call_in_bounds _ _ client (bounded_platformConf serial) transaction.request
  rw [Transaction.perform_eq] at performed
  unfold InBounds After at inside
  cases called : transaction.request.call (platformConf serial) client with
  | ok registers s =>
      rw [called] at performed
      cases performed
  | error stop s =>
      rw [called] at performed inside
      cases stop with
      | error err => cases performed
      | outOfBounds => exact inside rfl

end TactileSensors.Gripper
