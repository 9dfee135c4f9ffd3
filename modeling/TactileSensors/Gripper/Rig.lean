import TactileSensors.Gripper.Bench
import TactileSensors.Gripper.FakeGripper

/-!
# The driver down to the wire

The exchange thread with the client it really has: its exchanges are frames on a line that may lose
them, to a server in front of the device model. The host against the device model is what this comes to.
-/

namespace TactileSensors.Gripper
open Modbus Machine

structure Rig where
  state : GripperState
  now : Int
  client : Nmbs (CallbackContext GripperServer)
  -- the client's `exchange` has thrown, and the thread has yet to catch it
  thrown : Bool

inductive RigAction
  | elapse (ns : Nat)
  | exchangeOnce
  -- the client's `exchange`, on a line with this fate
  | transfer (fate : Fate)
  | fail
  | setCommand (command : GripperCommand)
  | close
  | inject (fault : UInt8)

namespace Rig

def device (r : Rig) : RegisterModel :=
  r.client.arg.serial.nmbs.arg.model

def setFault (client : Nmbs (CallbackContext GripperServer)) (fault : UInt8) :
    Nmbs (CallbackContext GripperServer) :=
  { client with
    arg := { client.arg with
      serial := client.arg.serial.withImpl fun impl => { impl with model := impl.model.setFault fault } } }

def step (r : Rig) : RigAction → Option Rig
  | .elapse ns => some { r with now := r.now + ns }
  | .exchangeOnce => (r.state.exchangeOnce r.now).map fun state => { r with state }
  | .transfer fate =>
      match r.state.point, r.thrown with
      | .onWire command none, false =>
          match GripperModbusClient.exchange fate.serial command r.client with
          | .ok status client =>
              some { r with state := { r.state with point := .onWire command (some status) }, client }
          | .error _ client => some { r with client, thrown := true }
      | _, _ => none
  | .fail =>
      if r.thrown then some { r with state := { r.state with point := .thrown }, thrown := false }
      else none
  | .setCommand command =>
      some { r with state := { r.state with image := r.state.image.setCommand command } }
  | .close => some { r with state := { r.state with image := r.state.image.close } }
  | .inject fault => some { r with client := setFault r.client fault }

end Rig

variable {client : Nmbs (CallbackContext GripperServer)}

inductive Transferred (command : GripperCommand) (device : RegisterModel) :
    Fate → Except GripperModbusClient.Failure GripperStatus → RegisterModel → Prop
  | sound :
      Transferred command device .sound (.ok (device.exchange command).2) (device.exchange command).1
  | requestLost (failed : GripperModbusClient.Failure) :
      Transferred command device .requestLost (.error failed) device
  | replyLost (failed : GripperModbusClient.Failure) :
      Transferred command device .replyLost (.error failed) (device.exchange command).1

theorem Transferred.of_ok {command : GripperCommand} {device device' : RegisterModel} {fate : Fate}
    {status : GripperStatus} (transferred : Transferred command device fate (.ok status) device') :
    status = (device.exchange command).2 ∧ device' = (device.exchange command).1 := by
  cases transferred
  exact ⟨rfl, rfl⟩

theorem exchange_transferred (connected : Connected client) (fate : Fate) (command : GripperCommand) :
    Connected (caught (GripperModbusClient.exchange fate.serial command client)).2 ∧
      Transferred command client.arg.serial.nmbs.arg.model fate
        (caught (GripperModbusClient.exchange fate.serial command client)).1
        (caught (GripperModbusClient.exchange fate.serial command client)).2.arg.serial.nmbs.arg.model := by
  have begun : Tracks client ⟨client.arg.serial.nmbs.arg.model, client.arg.log⟩ := ⟨connected, rfl, rfl⟩
  obtain ⟨same, tracks⟩ := perform_tracks fate (.exchange command) begun
  cases done : GripperModbusClient.exchange fate.serial command client with
  | ok status client' =>
      have performed : (Transaction.exchange command).perform fate.serial client =
          .ok (some status) client' := bind_of_ok done
      rw [performed] at same tracks
      refine ⟨tracks.connected, ?_⟩
      cases fate with
      | sound =>
          obtain rfl := Option.some.inj (Except.ok.inj same)
          exact tracks.device ▸ .sound
      | requestLost => cases same
      | replyLost => cases same
  | error failed client' =>
      have performed : (Transaction.exchange command).perform fate.serial client =
          .error failed client' := bind_of_error done
      rw [performed] at same tracks
      refine ⟨tracks.connected, ?_⟩
      cases fate with
      | sound => cases same
      | requestLost => exact tracks.device ▸ .requestLost failed
      | replyLost => exact tracks.device ▸ .replyLost failed

theorem Connected.setFault (connected : Connected client) (fault : UInt8) :
    Connected (Rig.setFault client fault) :=
  ⟨⟨connected.waits.byte, connected.waits.first⟩, connected.unit,
    ⟨connected.idle.ours, connected.idle.taken, connected.idle.sent, connected.idle.sound⟩⟩

namespace Rig

inductive Step (r : Rig) : RigAction → Rig → Prop
  | elapse (ns : Nat) : Step r (.elapse ns) { r with now := r.now + ns }
  | exchangeOnce {state : GripperState} (moves : r.state.exchangeOnce r.now = some state) :
      Step r .exchangeOnce { r with state }
  | answered {command : GripperCommand} {client : Nmbs (CallbackContext GripperServer)}
      (flying : r.state.point = .onWire command none) (waiting : r.thrown = false)
      (connected : Connected client)
      (device : client.arg.serial.nmbs.arg.model = (r.device.exchange command).1) :
      Step r (.transfer .sound)
        { r with
          state := { r.state with point := .onWire command (some (r.device.exchange command).2) }
          client }
  | requestLost {command : GripperCommand} {client : Nmbs (CallbackContext GripperServer)}
      (flying : r.state.point = .onWire command none) (waiting : r.thrown = false)
      (connected : Connected client) (device : client.arg.serial.nmbs.arg.model = r.device) :
      Step r (.transfer .requestLost) { r with client, thrown := true }
  | replyLost {command : GripperCommand} {client : Nmbs (CallbackContext GripperServer)}
      (flying : r.state.point = .onWire command none) (waiting : r.thrown = false)
      (connected : Connected client)
      (device : client.arg.serial.nmbs.arg.model = (r.device.exchange command).1) :
      Step r (.transfer .replyLost) { r with client, thrown := true }
  | fail (thrown : r.thrown = true) :
      Step r .fail { r with state := { r.state with point := .thrown }, thrown := false }
  | setCommand (command : GripperCommand) :
      Step r (.setCommand command)
        { r with state := { r.state with image := r.state.image.setCommand command } }
  | close : Step r .close { r with state := { r.state with image := r.state.image.close } }
  | inject (fault : UInt8) : Step r (.inject fault) { r with client := setFault r.client fault }

variable {r r' : Rig}

theorem step_transfer {fate : Fate} (connected : Connected r.client)
    (hstep : r.step (.transfer fate) = some r') : Step r (.transfer fate) r' := by
  simp only [step] at hstep
  split at hstep
  · rename_i command flying waiting
    obtain ⟨connected, transferred⟩ := exchange_transferred connected fate command
    split at hstep
    · rename_i status client done
      cases hstep
      rw [done] at connected transferred
      cases fate with
      | sound =>
          obtain ⟨rfl, device⟩ := transferred.of_ok
          exact .answered flying waiting connected device
      | requestLost => cases transferred
      | replyLost => cases transferred
    · rename_i failed client done
      cases hstep
      rw [done] at connected transferred
      generalize same : (caught (EStateM.Result.error failed client)).2.arg.serial.nmbs.arg.model = device
        at transferred
      cases transferred with
      | requestLost => exact .requestLost flying waiting connected same
      | replyLost => exact .replyLost flying waiting connected same
  · cases hstep

theorem step_cases {a : RigAction} (connected : Connected r.client) (hstep : r.step a = some r') :
    Step r a r' := by
  cases a with
  | elapse ns => cases hstep; exact .elapse ns
  | exchangeOnce =>
      obtain ⟨state, moves, rfl⟩ := Option.map_eq_some_iff.mp hstep
      exact .exchangeOnce moves
  | transfer fate => exact step_transfer connected hstep
  | fail =>
      obtain ⟨thrown, same⟩ := Option.ite_none_right_eq_some.mp hstep
      cases same
      exact .fail thrown
  | setCommand command => cases hstep; exact .setCommand command
  | close => cases hstep; exact .close
  | inject fault => cases hstep; exact .inject fault

theorem Step.connected {a : RigAction} (hstep : Step r a r') (connected : Connected r.client) :
    Connected r'.client := by
  cases hstep with
  | answered _ _ connected | requestLost _ _ connected | replyLost _ _ connected => exact connected
  | inject fault => exact connected.setFault fault
  | _ => exact connected

end Rig

/-- The bench shows what the rig holds. Once a reply is lost the bench has an answer the thread will not
see. -/
structure Matches (r : Rig) (b : Bench) : Prop where
  connected : Connected r.client
  device : b.device = r.device
  now : b.host.now = r.now
  image : b.host.image = r.state.image
  connectionState : b.host.connectionState = r.state.connectionState
  failures : b.host.consecutiveFailures = r.state.consecutiveFailures
  log : b.host.log = r.state.log
  point : b.host.point = r.state.point ∨ r.thrown = true ∧ ∃ answer command,
    r.state.point = .onWire command none ∧ b.host.point = .onWire command answer
  onWire : r.thrown = true → ∃ command, r.state.point = .onWire command none

namespace Matches

variable {r r' : Rig} {b : Bench}

theorem state (aligned : Matches r b) (waiting : r.thrown = false) : b.host.toGripperState = r.state := by
  have point : b.host.point = r.state.point := by
    rcases aligned.point with same | ⟨thrown, -⟩
    · exact same
    · rw [waiting] at thrown
      cases thrown
  change GripperState.mk b.host.image b.host.connectionState b.host.consecutiveFailures b.host.log
    b.host.point = _
  rw [aligned.image, aligned.connectionState, aligned.failures, aligned.log, point]

theorem of_host {a : HostAction} {host : Host} (unanswered : ∀ status, a ≠ .answer status)
    (hstep : b.host.step a = some host) (after : Matches r' { b with host }) :
    ∃ labels b', run Bench.step b labels = some b' ∧ Matches r' b' := by
  refine ⟨[.host a], { b with host }, run_cons_eq_some.mpr ⟨_, ?_, rfl⟩, after⟩
  cases a with
  | answer status => exact absurd rfl (unanswered status)
  | _ => exact congrArg (Option.map fun host => { b with host }) hstep

theorem exchangeOnce {state : GripperState} (aligned : Matches r b)
    (moves : r.state.exchangeOnce r.now = some state) :
    ∃ labels b', run Bench.step b labels = some b' ∧ Matches { r with state } b' := by
  have waiting : r.thrown = false := by
    cases thrown : r.thrown with
    | false => rfl
    | true =>
        obtain ⟨command, flying⟩ := aligned.onWire thrown
        simp [GripperState.exchangeOnce, flying] at moves
  rw [← aligned.state waiting, ← aligned.now] at moves
  have now : b.host.record.now = b.host.now := by
    unfold Host.record
    split <;> rfl
  refine of_host (a := .exchangeOnce) (by rintro _ ⟨⟩) (congrArg (Option.map _) moves) ?_
  exact ⟨aligned.connected, aligned.device, now.trans aligned.now, rfl, rfl, rfl, rfl, .inl rfl,
    fun thrown => absurd thrown (by simp [waiting])⟩

theorem transmits {command : GripperCommand} (flying : b.host.point = .onWire command none) :
    b.step .transmit = some { b with
      host := { b.host with
        point := .onWire command (some (b.device.exchange command).2)
        wire := b.host.wire ++ [command] }
      device := (b.device.exchange command).1
      events := b.events ++ [.processed command (b.device.exchange command).2] } := by
  simp [Bench.step, Host.step, flying]

theorem point_onWire (aligned : Matches r b) (waiting : r.thrown = false) {command : GripperCommand}
    (flying : r.state.point = .onWire command none) : b.host.point = .onWire command none :=
  (congrArg GripperState.point (aligned.state waiting)).trans flying

theorem fail (aligned : Matches r b) (thrown : r.thrown = true) :
    ∃ labels b', run Bench.step b labels = some b' ∧
      Matches { r with state := { r.state with point := .thrown }, thrown := false } b' := by
  obtain ⟨command, answer, flying⟩ : ∃ command answer, b.host.point = .onWire command answer := by
    rcases aligned.point with same | ⟨-, answer, command, -, flying⟩
    · obtain ⟨command, flying⟩ := aligned.onWire thrown
      exact ⟨command, none, same.trans flying⟩
    · exact ⟨command, answer, flying⟩
  have failed : b.host.step .fail =
      some { b.host with point := .thrown, outcomes := .failed :: b.host.outcomes } := by
    simp [Host.step, flying]
  refine of_host (a := .fail) (by rintro _ ⟨⟩) failed ?_
  exact ⟨aligned.connected, aligned.device, aligned.now, aligned.image, aligned.connectionState,
    aligned.failures, aligned.log, .inl rfl, by rintro ⟨⟩⟩

theorem step {a : RigAction} (aligned : Matches r b) (hstep : r.step a = some r') :
    ∃ labels b', run Bench.step b labels = some b' ∧ Matches r' b' := by
  cases Rig.step_cases aligned.connected hstep with
  | elapse ns =>
      exact of_host (a := .elapse ns) (by rintro _ ⟨⟩) rfl ⟨aligned.connected, aligned.device,
        congrArg (· + (ns : Int)) aligned.now, aligned.image, aligned.connectionState, aligned.failures,
        aligned.log, aligned.point, aligned.onWire⟩
  | exchangeOnce moves => exact aligned.exchangeOnce moves
  | answered flying waiting connected device =>
      have transmits : run Bench.step b [.transmit] = some _ :=
        run_cons_eq_some.mpr ⟨_, transmits (aligned.point_onWire waiting flying), rfl⟩
      rw [← aligned.device] at device
      exact ⟨_, _, transmits, connected, device.symm, aligned.now, aligned.image,
        aligned.connectionState, aligned.failures, aligned.log, .inl (by rw [aligned.device]),
        fun thrown => absurd thrown (by simp [waiting])⟩
  | @requestLost command _ flying waiting connected device =>
      exact ⟨[], b, rfl, connected, aligned.device.trans device.symm, aligned.now, aligned.image,
        aligned.connectionState, aligned.failures, aligned.log,
        .inl ((aligned.point_onWire waiting flying).trans flying.symm), fun _ => ⟨command, flying⟩⟩
  | @replyLost command _ flying waiting connected device =>
      have transmits : run Bench.step b [.transmit] = some _ :=
        run_cons_eq_some.mpr ⟨_, transmits (aligned.point_onWire waiting flying), rfl⟩
      rw [← aligned.device] at device
      exact ⟨_, _, transmits, connected, device.symm, aligned.now, aligned.image,
        aligned.connectionState, aligned.failures, aligned.log, .inr ⟨rfl, _, command, flying, rfl⟩,
        fun _ => ⟨command, flying⟩⟩
  | fail thrown => exact aligned.fail thrown
  | setCommand command =>
      exact of_host (a := .setCommand command) (by rintro _ ⟨⟩) rfl ⟨aligned.connected, aligned.device,
        aligned.now, congrArg (fun image => image.setCommand command) aligned.image,
        aligned.connectionState, aligned.failures, aligned.log, aligned.point, aligned.onWire⟩
  | close =>
      exact of_host (a := .close) (by rintro _ ⟨⟩) rfl ⟨aligned.connected, aligned.device, aligned.now,
        congrArg ProcessImage.close aligned.image, aligned.connectionState, aligned.failures, aligned.log,
        aligned.point, aligned.onWire⟩
  | inject fault =>
      exact ⟨[.inject fault], _, rfl, aligned.connected.setFault fault,
        congrArg (RegisterModel.setFault · fault) aligned.device, aligned.now, aligned.image,
        aligned.connectionState, aligned.failures, aligned.log, aligned.point, aligned.onWire⟩

end Matches

/-- Whatever the threads do, whatever the line loses and whatever faults the gripper meets, what a user of
the driver sees and what the gripper is are those of a run of the host against the device model. -/
theorem rig_refines_bench {model : RegisterModel} {slaveAddress : UInt8} {server : GripperServer}
    (created : GripperServer.create model slaveAddress = .ok server) (s : GripperState) (now : Int)
    {actions : List RigAction} {r : Rig}
    (hrun : run Rig.step ⟨s, now, GripperModbusClient.mk gripperSerial slaveAddress server, false⟩ actions =
      some r) :
    ∃ labels b, run Bench.step ⟨.start s now, model, []⟩ labels = some b ∧ b.device = r.device ∧
      b.host.now = r.now ∧ b.host.image = r.state.image ∧
      b.host.connectionState = r.state.connectionState ∧
      b.host.consecutiveFailures = r.state.consecutiveFailures ∧ b.host.log = r.state.log := by
  have tracks := tracks_create created
  have aligned : Matches ⟨s, now, GripperModbusClient.mk gripperSerial slaveAddress server, false⟩
      ⟨.start s now, model, []⟩ :=
    ⟨tracks.connected, tracks.device.symm, rfl, rfl, rfl, rfl, rfl, .inl rfl, nofun⟩
  obtain ⟨labels, b, ran, same⟩ := run_simulates (fun _ _ _ _ => Matches.step) aligned hrun
  exact ⟨labels, b, ran, same.device, same.now, same.image, same.connectionState, same.failures, same.log⟩

theorem rig_refines_bench_lost : ∃ labels b,
    run Bench.step ⟨.start .constructed 0, .fresh, []⟩ labels = some b ∧
      b.host.consecutiveFailures = 1 ∧ b.host.image.command = .defaults := by
  obtain ⟨labels, b, ran, -, -, image, -, failures, -⟩ := @rig_refines_bench .fresh 9 _ rfl .constructed 0
    [.exchangeOnce, .transfer .requestLost, .elapse 5, .setCommand .defaults, .inject 3, .fail,
      .exchangeOnce] _ rfl
  exact ⟨labels, b, ran, failures, congrArg ProcessImage.command image⟩

end TactileSensors.Gripper
