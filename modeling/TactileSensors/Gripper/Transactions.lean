import TactileSensors.Gripper.ModbusClient
import TactileSensors.Modbus.Acceptance

/-!
# Transactions on any line

A transaction of `GripperModbusClient` is one call of the library, with its error turned into an
exception and its registers into a status.
-/

namespace TactileSensors.Gripper
open Modbus Machine ForceTorque

namespace Transaction

def request : Transaction → Request
  | readStatus => .read statusAddress statusRegisterCount
  | writeCommand command => .write commandAddress commandRegisterCount (registersFromBytes command.data)
  | exchange command =>
      .readWrite statusAddress statusRegisterCount commandAddress commandRegisterCount
        (registersFromBytes command.data)

theorem request_wellFormed (transaction : Transaction) : transaction.request.wellFormed := by
  cases transaction <;> simp only [request, Request.wellFormed] <;> decide

def result {τ α : Type} (context : String) (report : α → Option GripperStatus) :
    EStateM.Result Stop τ α → EStateM.Result GripperModbusClient.Failure τ (Option GripperStatus)
  | .ok a s => .ok (report a) s
  | .error (.error err) s =>
      .error (.driver (driverException (context ++ " failed: " ++ nmbsStrerror err))) s
  | .error .outOfBounds s => .error .outOfBounds s

theorem caught_result_congr {τ τ' α : Type} (context : String) (report : α → Option GripperStatus)
    {r : EStateM.Result Stop τ α} {r' : EStateM.Result Stop τ' α} (same : (caught r).1 = (caught r').1) :
    (caught (result context report r)).1 = (caught (result context report r')).1 := by
  cases r with
  | ok a s =>
      cases r' with
      | ok a' s' => exact congrArg (Except.ok ∘ report) (Except.ok.inj same)
      | error stop' s' => cases same
  | error stop s =>
      cases r' with
      | ok a' s' => cases same
      | error stop' s' =>
          obtain rfl := Except.error.inj same
          cases stop <;> rfl

theorem caught_result_state {τ α : Type} (context : String) (report : α → Option GripperStatus)
    (r : EStateM.Result Stop τ α) : (caught (result context report r)).2 = (caught r).2 := by
  cases r with
  | ok a s => rfl
  | error stop s => cases stop <;> rfl

theorem check_eq {τ α : Type} (context : String) (call : Call τ α) (report : α → Option GripperStatus)
    (s : Nmbs τ) :
    (do let a ← GripperModbusClient.check context call; return report a : EStateM _ _ _) s =
      result context report (call s) := by
  cases called : call s with
  | ok a s' =>
      have checked : GripperModbusClient.check context call s = .ok a s' := by
        rw [GripperModbusClient.check, called]
      exact bind_of_ok checked
  | error stop s' =>
      cases stop with
      | error err =>
          have checked : GripperModbusClient.check context call s =
              .error (.driver (driverException (context ++ " failed: " ++ nmbsStrerror err))) s' := by
            rw [GripperModbusClient.check, called]
          exact bind_of_error checked
      | outOfBounds =>
          have checked : GripperModbusClient.check context call s = .error .outOfBounds s' := by
            rw [GripperModbusClient.check, called]
          exact bind_of_error checked

variable {σ : Type} {serial : Serial σ} {client client' : Nmbs (CallbackContext σ)}

theorem perform_eq (transaction : Transaction) (client : Nmbs (CallbackContext σ)) :
    transaction.perform serial client = result transaction.context transaction.report
      (transaction.request.call (platformConf serial) client) := by
  cases transaction with
  | readStatus =>
      rw [perform, GripperModbusClient.readStatus, bind_assoc_apply]
      exact check_eq _ _ (report readStatus) client
  | writeCommand command =>
      rw [perform, GripperModbusClient.writeCommand, check_eq _ _ (fun _ => none) client, request,
        Request.call]
      cases wrote : nmbsWriteMultipleRegisters (platformConf serial) commandAddress commandRegisterCount
          (registersFromBytes command.data) client with
      | ok _ s => rw [bind_of_ok wrote]; rfl
      | error stop s => rw [bind_of_error wrote]; cases stop <;> rfl
  | exchange command =>
      rw [perform, GripperModbusClient.exchange, bind_assoc_apply]
      exact check_eq _ _ (report (exchange command)) client

end Transaction
end TactileSensors.Gripper
