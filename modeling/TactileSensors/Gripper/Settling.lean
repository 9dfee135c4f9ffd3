import TactileSensors.Gripper.Rig

/-!
# What the driver settles on

A command is not acknowledged and a lost exchange is not repeated: the next cycle sends whatever is in
the image by then. So once commands stop coming, one block that arrives is enough for the gripper, and
one cycle that succeeds for the image.
-/

namespace TactileSensors.Gripper
open Modbus Machine
namespace RegisterModel

def Holds (device : RegisterModel) (command : GripperCommand) : Prop :=
  ∀ i < commandRegisterCount.toNat, device.block commandAddress i = registersFromBytes command.data i

theorem block_setStatus (device : RegisterModel) (status : GripperStatus) {i : Nat}
    (hi : i < commandRegisterCount.toNat) :
    (device.setStatus status).block commandAddress i = device.block commandAddress i := by
  have below : commandAddress.toNat + i < statusAddress.toNat :=
    Nat.lt_trans (Nat.add_lt_add_left hi _) (by decide)
  simp only [block, setStatus, copyIn]
  rw [if_neg (by omega)]

theorem Holds.setStatus {device : RegisterModel} {command : GripperCommand}
    (holds : device.Holds command) (status : GripperStatus) : (device.setStatus status).Holds command := by
  intro i hi
  rw [block_setStatus device status hi, holds i hi]

theorem Holds.congr {device device' : RegisterModel} {command : GripperCommand}
    (holds : device.Holds command) (same : device' = device) : device'.Holds command :=
  same ▸ holds

theorem holds_written (device : RegisterModel) (command : GripperCommand) :
    (device.written command).Holds command :=
  fun _ hi => copyIn_of_lt hi

theorem holds_exchange (device : RegisterModel) (command : GripperCommand) :
    (device.exchange command).1.Holds command := by
  rw [exchange_device]
  exact Holds.setStatus (device.holds_written command) _

theorem exchange_status (device : RegisterModel) (command : GripperCommand) :
    (device.exchange command).2 = (device.exchange command).1.readStatus.2 := by
  rw [exchange_eq, readStatus_eq]

end RegisterModel

def RigAction.commands : RigAction → Prop
  | .setCommand _ => True
  | _ => False

def RigAction.arrives : RigAction → Prop
  | .transfer fate => fate ≠ .requestLost
  | _ => False

def RigAction.sound : RigAction → Prop
  | .transfer fate => fate = .sound
  | .inject _ => False
  | _ => True

namespace ExchangePoint

def outgoing : ExchangePoint → Option GripperCommand
  | .onWire command none => some command
  | _ => none

def incoming : ExchangePoint → Option (GripperCommand × GripperStatus)
  | .onWire command (some status) | .returned command status | .stamped command status _
  | .cleared command status _ | .turned command status _ _ => some (command, status)
  | _ => none

def succeeds : ExchangePoint → Prop
  | .thrown | .counted _ | .reporting => False
  | _ => True

def clears : ExchangePoint → Prop
  | .cleared .. | .turned .. => True
  | _ => False

def operates : ExchangePoint → Prop
  | .turned .. => True
  | _ => False

end ExchangePoint

/-- Since `taken`, no command but this one was given: it is what goes out, and what has arrived. -/
structure Asks (command : GripperCommand) (taken : List RigAction) (r : Rig) : Prop where
  connected : Connected r.client
  image : r.state.image.command = command
  outgoing : ∀ copy ∈ r.state.point.outgoing, copy = command
  arrived : (∃ a ∈ taken, a.arrives) → r.device.Holds command

structure Settled (command : GripperCommand) (r : Rig) : Prop where
  command : r.state.image.stamped.command = command
  status : r.state.image.stamped.status = r.device.readStatus.2
  operational : r.state.connectionState = .operational
  failures : r.state.consecutiveFailures = 0

/-- No exchange has failed since `taken`: what one brought back is in the image or on its way there. -/
structure Runs (command : GripperCommand) (taken : List RigAction) (r : Rig) : Prop where
  waiting : r.thrown = false
  succeeds : r.state.point.succeeds
  incoming : ∀ record ∈ r.state.point.incoming, record = (command, r.device.readStatus.2)
  clears : r.state.point.clears → r.state.consecutiveFailures = 0
  operates : r.state.point.operates → r.state.connectionState = .operational
  settled : (∃ a ∈ taken, a.arrives) → r.state.point.incoming = none → Settled command r

variable {command : GripperCommand} {taken : List RigAction} {r r' : Rig} {a : RigAction}

theorem exists_arrives_concat (nothing : ¬ a.arrives) :
    (∃ b ∈ taken ++ [a], b.arrives) ↔ ∃ b ∈ taken, b.arrives := by
  constructor
  · rintro ⟨b, hb, arrives⟩
    rcases List.mem_append.mp hb with earlier | last
    · exact ⟨b, earlier, arrives⟩
    · rw [List.mem_singleton.mp last] at arrives
      exact absurd arrives nothing
  · rintro ⟨b, hb, arrives⟩
    exact ⟨b, List.mem_append_left _ hb, arrives⟩

theorem exchangeOnce_asks {s s' : GripperState} {now : Int} (moves : s.exchangeOnce now = some s') :
    s'.image.command = s.image.command ∧ ∀ copy ∈ s'.point.outgoing, copy = s.image.command := by
  obtain ⟨image, connectionState, failures, log, point⟩ := s
  cases point with
  | idle =>
      cases moves
      exact ⟨rfl, fun copy sent => (Option.some.inj sent).symm⟩
  | onWire copy answer =>
      cases answer with
      | none => cases moves
      | some status => cases moves; exact ⟨rfl, by rintro _ ⟨⟩⟩
  | counted failures' =>
      simp only [GripperState.exchangeOnce] at moves
      split at moves
      · cases moves
        exact ⟨rfl, by split <;> rintro _ ⟨⟩⟩
      · cases moves
        exact ⟨rfl, by rintro _ ⟨⟩⟩
  | _ => cases moves; exact ⟨rfl, by rintro _ ⟨⟩⟩

theorem Asks.step (asks : Asks command taken r) (unchanged : ¬ a.commands)
    (hstep : r.step a = some r') : Asks command (taken ++ [a]) r' := by
  have stepped := Rig.step_cases asks.connected hstep
  have connected := stepped.connected asks.connected
  cases stepped with
  | elapse ns =>
      exact ⟨connected, asks.image, asks.outgoing,
        fun some_ => asks.arrived ((exists_arrives_concat id).mp some_)⟩
  | exchangeOnce moves =>
      obtain ⟨image, outgoing⟩ := exchangeOnce_asks moves
      rw [asks.image] at image outgoing
      exact ⟨connected, image, outgoing, fun some_ => asks.arrived ((exists_arrives_concat id).mp some_)⟩
  | @answered copy _ flying _ _ device =>
      obtain rfl := asks.outgoing copy (by rw [flying]; rfl)
      refine ⟨connected, asks.image, by rintro _ ⟨⟩, fun _ => ?_⟩
      exact (r.device.holds_exchange copy).congr device
  | requestLost flying _ _ device =>
      refine ⟨connected, asks.image, asks.outgoing, fun some_ => ?_⟩
      exact (asks.arrived ((exists_arrives_concat (by simp [RigAction.arrives])).mp some_)).congr device
  | @replyLost copy _ flying _ _ device =>
      obtain rfl := asks.outgoing copy (by rw [flying]; rfl)
      exact ⟨connected, asks.image, asks.outgoing, fun _ => (r.device.holds_exchange copy).congr device⟩
  | fail thrown =>
      exact ⟨connected, asks.image, by rintro _ ⟨⟩,
        fun some_ => asks.arrived ((exists_arrives_concat id).mp some_)⟩
  | setCommand other => exact absurd trivial unchanged
  | close =>
      exact ⟨connected, asks.image, asks.outgoing,
        fun some_ => asks.arrived ((exists_arrives_concat id).mp some_)⟩
  | inject fault =>
      exact ⟨connected, asks.image, asks.outgoing,
        fun some_ => (asks.arrived ((exists_arrives_concat id).mp some_)).setStatus _⟩

theorem Runs.exchangeOnce {state : GripperState} (runs : Runs command taken r)
    (moves : r.state.exchangeOnce r.now = some state) :
    Runs command (taken ++ [.exchangeOnce]) { r with state } := by
  obtain ⟨⟨image, connectionState, failures, log, point⟩, now, client, thrown⟩ := r
  have before : (∃ a ∈ taken ++ [RigAction.exchangeOnce], a.arrives) → ∃ a ∈ taken, a.arrives :=
    (exists_arrives_concat id).mp
  cases point with
  | idle =>
      cases moves
      exact ⟨runs.waiting, trivial, by rintro _ ⟨⟩, by rintro ⟨⟩, by rintro ⟨⟩, fun some_ none_ =>
        have settled := runs.settled (before some_) rfl
        ⟨settled.command, settled.status, settled.operational, settled.failures⟩⟩
  | onWire copy answer =>
      cases answer with
      | none => cases moves
      | some status =>
          cases moves
          exact ⟨runs.waiting, trivial, runs.incoming, by rintro ⟨⟩, by rintro ⟨⟩, by rintro _ ⟨⟩⟩
  | returned copy status =>
      cases moves
      exact ⟨runs.waiting, trivial, runs.incoming, by rintro ⟨⟩, by rintro ⟨⟩, by rintro _ ⟨⟩⟩
  | stamped copy status time =>
      cases moves
      exact ⟨runs.waiting, trivial, runs.incoming, fun _ => rfl, by rintro ⟨⟩, by rintro _ ⟨⟩⟩
  | cleared copy status time =>
      cases moves
      exact ⟨runs.waiting, trivial, runs.incoming, fun _ => runs.clears trivial, fun _ => rfl,
        by rintro _ ⟨⟩⟩
  | turned copy status time recovered =>
      cases moves
      obtain ⟨rfl, shown⟩ := Prod.mk.inj (runs.incoming (copy, status) rfl)
      exact ⟨runs.waiting, trivial, by rintro _ ⟨⟩, by rintro ⟨⟩, by rintro ⟨⟩,
        fun _ _ => ⟨rfl, shown, runs.operates trivial, runs.clears trivial⟩⟩
  | published recovered =>
      cases moves
      exact ⟨runs.waiting, trivial, by rintro _ ⟨⟩, by rintro ⟨⟩, by rintro ⟨⟩, fun some_ none_ =>
        have settled := runs.settled (before some_) rfl
        ⟨settled.command, settled.status, settled.operational, settled.failures⟩⟩
  | thrown | counted _ | reporting => exact absurd runs.succeeds id

theorem Runs.step (runs : Runs command taken r) (asks : Asks command taken r) (sound : a.sound)
    (unchanged : ¬ a.commands) (hstep : r.step a = some r') : Runs command (taken ++ [a]) r' := by
  cases Rig.step_cases asks.connected hstep with
  | elapse ns =>
      exact ⟨runs.waiting, runs.succeeds, runs.incoming, runs.clears, runs.operates, fun some_ none_ =>
        have settled := runs.settled ((exists_arrives_concat id).mp some_) none_
        ⟨settled.command, settled.status, settled.operational, settled.failures⟩⟩
  | exchangeOnce moves => exact runs.exchangeOnce moves
  | @answered copy client flying waiting connected device =>
      obtain rfl := asks.outgoing copy (by rw [flying]; rfl)
      refine ⟨waiting, trivial, ?_, by rintro ⟨⟩, by rintro ⟨⟩, by rintro _ ⟨⟩⟩
      rintro _ ⟨⟩
      have status := r.device.exchange_status copy
      rw [← device] at status
      exact congrArg (Prod.mk copy) status
  | requestLost | replyLost => cases sound
  | fail thrown => rw [runs.waiting] at thrown; cases thrown
  | setCommand other => exact absurd trivial unchanged
  | close =>
      exact ⟨runs.waiting, runs.succeeds, runs.incoming, runs.clears, runs.operates, fun some_ none_ =>
        have settled := runs.settled ((exists_arrives_concat id).mp some_) none_
        ⟨settled.command, settled.status, settled.operational, settled.failures⟩⟩
  | inject fault => exact absurd sound id

theorem forall_mem_left {P : RigAction → Prop} (all : ∀ b ∈ taken ++ [a], P b) : ∀ b ∈ taken, P b :=
  fun b hb => all b (List.mem_append_left _ hb)

theorem Asks.run {later : List RigAction} (connected : Connected r.client)
    (rests : r.state.point = .idle) (unchanged : ∀ a ∈ later, ¬ a.commands)
    (hrun : Machine.run Rig.step r later = some r') : Asks r.state.image.command later r' := by
  have asks := @run_history _ _ _ (fun taken t => (∀ a ∈ taken, ¬ a.commands) →
    Asks r.state.image.command taken t) (fun taken t a t' asks hstep unchanged =>
      (asks (forall_mem_left unchanged)).step (unchanged a (by simp)) hstep) _ _ [] _ hrun
    fun _ => ⟨connected, rfl, by rw [rests]; rintro _ ⟨⟩, by simp⟩
  exact asks unchanged

theorem Runs.run {later : List RigAction} (connected : Connected r.client) (waiting : r.thrown = false)
    (rests : r.state.point = .idle) (unchanged : ∀ a ∈ later, ¬ a.commands) (sound : ∀ a ∈ later, a.sound)
    (hrun : Machine.run Rig.step r later = some r') : Runs r.state.image.command later r' := by
  -- what is on the wire is known to be the command by the run so far
  refine (@run_history _ _ _ (fun taken t => (∀ a ∈ taken, ¬ a.commands ∧ a.sound) →
    Asks r.state.image.command taken t ∧ Runs r.state.image.command taken t)
      (fun taken t a t' inv hstep both => ?_) _ _ [] _ hrun (fun _ => ⟨?_, ?_⟩)
        fun a ha => ⟨unchanged a ha, sound a ha⟩).2
  · obtain ⟨asks, runs⟩ := inv (forall_mem_left both)
    obtain ⟨unchanged, sound⟩ := both a (by simp)
    exact ⟨asks.step unchanged hstep, runs.step asks sound unchanged hstep⟩
  · exact ⟨connected, rfl, by rw [rests]; rintro _ ⟨⟩, by simp⟩
  · refine ⟨waiting, ?_, ?_, ?_, ?_, by simp⟩ <;> rw [rests]
    · trivial
    · rintro _ ⟨⟩
    · rintro ⟨⟩
    · rintro ⟨⟩

/-- Once the driver is given no further command, one block that arrives is enough for the gripper to hold
it, and one cycle with nothing lost for the image to be what the gripper is, whatever was lost, failed or
was asked for before. -/
theorem rig_settles {model : RegisterModel} {slaveAddress : UInt8} {server : GripperServer}
    (created : GripperServer.create model slaveAddress = .ok server) (s : GripperState) (now : Int)
    {history later : List RigAction} {r r' : Rig}
    (before : run Rig.step ⟨s, now, GripperModbusClient.mk gripperSerial slaveAddress server, false⟩
      history = some r) (rests : r.state.point = .idle) (unchanged : ∀ a ∈ later, ¬ a.commands)
    (hrun : run Rig.step r later = some r') (arrives : ∃ a ∈ later, a.arrives) :
    r'.device.Holds r.state.image.command ∧
      ((∀ a ∈ later, a.sound) → r'.state.point = .idle → Settled r.state.image.command r') := by
  have tracks := tracks_create created
  have aligned : Matches ⟨s, now, GripperModbusClient.mk gripperSerial slaveAddress server, false⟩
      ⟨.start s now, model, []⟩ :=
    ⟨tracks.connected, tracks.device.symm, rfl, rfl, rfl, rfl, rfl, .inl rfl, by rintro ⟨⟩⟩
  obtain ⟨-, b, -, aligned⟩ := run_simulates (fun _ _ _ _ => Matches.step) aligned before
  have waiting : r.thrown = false := by
    cases thrown : r.thrown with
    | false => rfl
    | true =>
        obtain ⟨command, flying⟩ := aligned.onWire thrown
        rw [rests] at flying
        cases flying
  have asks := Asks.run aligned.connected rests unchanged hrun
  refine ⟨asks.arrived arrives, fun sound finished => ?_⟩
  have runs := Runs.run aligned.connected waiting rests unchanged sound hrun
  exact runs.settled arrives (by rw [finished]; rfl)

theorem rig_settles_lost : ∃ server, GripperServer.create .fresh 9 = .ok server ∧ ∃ r r',
    run Rig.step ⟨.constructed, 0, GripperModbusClient.mk gripperSerial 9 server, false⟩
      [.exchangeOnce, .transfer .requestLost, .fail, .setCommand .defaults, .exchangeOnce,
        .exchangeOnce] = some r ∧
    run Rig.step r ([.exchangeOnce, .transfer .sound] ++ List.replicate 6 .exchangeOnce) = some r' ∧
    r'.device.Holds .defaults ∧ Settled .defaults r' := by
  obtain ⟨server, created, both⟩ : ∃ server, GripperServer.create .fresh 9 = .ok server ∧
      ((run Rig.step ⟨.constructed, 0, GripperModbusClient.mk gripperSerial 9 server, false⟩
        [.exchangeOnce, .transfer .requestLost, .fail, .setCommand .defaults, .exchangeOnce,
          .exchangeOnce]).bind fun r =>
        (run Rig.step r ([.exchangeOnce, .transfer .sound] ++ List.replicate 6 .exchangeOnce)).map
          fun r' => (r.state.point, r.state.image.command, r'.state.point)) =
        some (.idle, .defaults, .idle) := ⟨_, rfl, by decide +kernel⟩
  obtain ⟨r, before, rest⟩ := Option.bind_eq_some_iff.mp both
  obtain ⟨r', hrun, same⟩ := Option.map_eq_some_iff.mp rest
  obtain ⟨rests, asked, finished⟩ := by simpa only [Prod.mk.injEq] using same
  obtain ⟨holds, settled⟩ := rig_settles created .constructed 0 before rests
    (by simp [RigAction.commands]) hrun ⟨.transfer .sound, by simp, by simp [RigAction.arrives]⟩
  rw [asked] at holds settled
  exact ⟨server, created, r, r', before, hrun, holds, settled (by simp [RigAction.sound]) finished⟩

end TactileSensors.Gripper
