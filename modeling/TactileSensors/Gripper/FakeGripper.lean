import TactileSensors.Gripper.FlakyLine
import TactileSensors.Gripper.Transactions

/-!
# The driver on the fake gripper

The three transactions of `GripperModbusClient` against the device that `makeFakeGripper` puts behind
it: each is what `RegisterModel` does, and fails only for what the line loses.
-/

namespace TactileSensors.Gripper
open Modbus Machine

namespace RegisterModel

def perform (device : RegisterModel) : Transaction → RegisterModel × Option GripperStatus
  | .readStatus => (device.readStatus.1, some device.readStatus.2)
  | .writeCommand command => (device.writeCommand command, none)
  | .exchange command => ((device.exchange command).1, some (device.exchange command).2)

theorem readStatus_eq (device : RegisterModel) :
    device.readStatus =
      (device, GripperModbusClient.statusOf (device.values statusAddress statusRegisterCount)) := by
  have inside : containsRange statusAddress statusRegisterCount = true := by decide
  have bytes : ∀ i, bytesFromRegisters statusRegisterCount.toNat
      (device.read statusAddress statusRegisterCount fun _ => 0).2 GripperStatus.zero.data i =
        bytesFromRegisters statusRegisterCount.toNat
          (fun i => (device.values statusAddress statusRegisterCount).getD i 0)
          GripperStatus.zero.data i := by
    intro i
    unfold bytesFromRegisters
    split
    · rename_i within
      have register : i / 2 < statusRegisterCount.toNat := Nat.div_lt_of_lt_mul within
      have same : (device.values statusAddress statusRegisterCount).getD (i / 2) 0 =
          (device.read statusAddress statusRegisterCount fun _ => 0).2 (i / 2) := by
        rw [values, List.range_eq_range']
        exact GripperServer.getD_map_range' register
      simp only [same]
    · rfl
  exact Prod.ext (@read_device device _ _ (fun _ => 0) inside)
    (congrArg GripperStatus.ofData (funext bytes))

theorem exchange_eq (device : RegisterModel) (command : GripperCommand) :
    device.exchange command = (device.writeCommand command,
      GripperModbusClient.statusOf ((device.writeCommand command).values statusAddress statusRegisterCount)) :=
  readStatus_eq (device.writeCommand command)

theorem serve_request (device : RegisterModel) (transaction : Transaction) :
    (device.serve transaction.request).1 = (device.perform transaction).1 ∧
      ∃ registers, (device.serve transaction.request).2 = .ok registers ∧
        transaction.report registers = (device.perform transaction).2 := by
  have statusInside : containsRange statusAddress statusRegisterCount = true := by decide
  have commandInside : containsRange commandAddress commandRegisterCount = true := by decide
  cases transaction with
  | readStatus =>
      simp only [Transaction.request, serve, statusInside, if_true, perform, readStatus_eq]
      exact ⟨trivial, _, rfl, rfl⟩
  | writeCommand command =>
      simp only [Transaction.request, serve, commandInside, if_true]
      exact ⟨rfl, _, rfl, rfl⟩
  | exchange command =>
      simp only [Transaction.request, serve, commandInside, statusInside, if_true, perform, exchange_eq]
      exact ⟨rfl, _, rfl, rfl⟩

end RegisterModel

def performOrLose (fate : Fate) (transaction : Transaction) :
    EStateM GripperModbusClient.Failure Ends (Option GripperStatus) := fun ends =>
  match fate with
  | .sound => .ok (ends.device.perform transaction).2
      { ends with device := (ends.device.perform transaction).1 }
  | .requestLost => .error (transaction.failure .transport) { ends with log := ends.log ++ fate.logged }
  | .replyLost => .error (transaction.failure .transport)
      ⟨(ends.device.perform transaction).1, ends.log ++ fate.logged⟩

theorem performOrLose_eq (fate : Fate) (transaction : Transaction) (ends : Ends) :
    performOrLose fate transaction ends =
      Transaction.result transaction.context transaction.report
        (serveOrLose fate transaction.request ends) := by
  obtain ⟨device, registers, answer, report⟩ := ends.device.serve_request transaction
  unfold serveOrLose performOrLose
  rw [if_pos transaction.request_wellFormed, answer, device, ← report]
  cases fate <;> rfl

theorem perform_tracks {client : Nmbs (CallbackContext GripperServer)} {ends : Ends} (fate : Fate)
    (transaction : Transaction) (tracks : Tracks client ends) :
    (caught (transaction.perform fate.serial client)).1 =
        (caught (performOrLose fate transaction ends)).1 ∧
      Tracks (caught (transaction.perform fate.serial client)).2
        (caught (performOrLose fate transaction ends)).2 := by
  obtain ⟨same, after⟩ := call_tracks fate transaction.request tracks
  rw [Transaction.perform_eq, performOrLose_eq, Transaction.caught_result_state,
    Transaction.caught_result_state]
  exact ⟨Transaction.caught_result_congr _ _ same, after⟩

/-- On the fake gripper a transaction fails only for what the line loses, whatever was done and lost before
it: what is returned is what the device model reports for the commands that reached it. -/
theorem transactions_performed {model : RegisterModel} {slaveAddress : UInt8} {server : GripperServer}
    (created : GripperServer.create model slaveAddress = .ok server)
    (transactions : List (Fate × Transaction)) :
    (attempts (transactions.map fun t => t.2.perform t.1.serial)
        (GripperModbusClient.mk gripperSerial slaveAddress server)).1 =
      (attempts (transactions.map fun t => performOrLose t.1 t.2) ⟨model, []⟩).1 ∧
    Tracks (attempts (transactions.map fun t => t.2.perform t.1.serial)
        (GripperModbusClient.mk gripperSerial slaveAddress server)).2
      (attempts (transactions.map fun t => performOrLose t.1 t.2) ⟨model, []⟩).2 :=
  attempts_refine (fun t _ _ => perform_tracks t.1 t.2) transactions (tracks_create created)

theorem transactions_performed_lost : ∃ server, GripperServer.create .fresh 9 = .ok server ∧
    (attempts ([(Fate.replyLost, Transaction.exchange .defaults), (.requestLost, .readStatus),
          (.sound, .readStatus), (.sound, .writeCommand .defaults)].map fun t => t.2.perform t.1.serial)
        (GripperModbusClient.mk gripperSerial 9 server)).1 =
      (attempts ([(Fate.replyLost, Transaction.exchange .defaults), (.requestLost, .readStatus),
          (.sound, .readStatus), (.sound, .writeCommand .defaults)].map fun t => performOrLose t.1 t.2)
        ⟨.fresh, []⟩).1 :=
  ⟨_, rfl, (transactions_performed rfl _).1⟩

end TactileSensors.Gripper
