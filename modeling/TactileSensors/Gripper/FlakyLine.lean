import TactileSensors.Gripper.DeviceHistory
import TactileSensors.Gripper.FakeExchange

/-!
# A line that drops out

The two ways a request and its reply are lost between the client and the fake gripper: the write fails
and nothing arrives, or the gripper acts on the request and its reply is dropped. Whatever was lost, the
line is clear for the next call.
-/

namespace TactileSensors.Gripper
open Modbus Machine ForceTorque

def writeFailingSerial (failing : Bool) : Serial GripperServer where
  read := gripperSerial.read
  write data server :=
    if failing then (.error (serialIOException "injected wire failure"), server)
    else gripperSerial.write data server
  getTimeout := gripperSerial.getTimeout

def replyDroppingSerial (dropReplies : Bool) : Serial GripperServer where
  read size timeout server :=
    if dropReplies then (.error (serialIOException "injected reply loss"), server.discardPendingReply)
    else gripperSerial.read size timeout server
  write := gripperSerial.write
  getTimeout := gripperSerial.getTimeout

inductive Fate
  | sound
  | requestLost
  | replyLost
deriving DecidableEq, Repr

namespace Fate

def serial : Fate → Serial GripperServer
  | sound => gripperSerial
  | requestLost => writeFailingSerial true
  | replyLost => replyDroppingSerial true

def logged : Fate → List LogEntry
  | sound => []
  | requestLost => [⟨.error, failure "write" (serialIOException "injected wire failure")⟩]
  -- the flush before the request fails as the read of the reply does
  | replyLost => [⟨.error, failure "read" (serialIOException "injected reply loss")⟩,
      ⟨.error, failure "read" (serialIOException "injected reply loss")⟩]

end Fate

variable {client : Nmbs (CallbackContext GripperServer)}

theorem call_requestLost (connected : Connected client) (request : Request)
    (wellFormed : request.wellFormed) :
    ∃ client', request.call (platformConf Fate.requestLost.serial) client =
        .error (.error .transport) client' ∧
      Ended client client' client.arg.serial.nmbs.arg.model Fate.requestLost.logged := by
  have empty : (platformConf Fate.requestLost.serial).read bufferBytes 0 client.arg =
      (some [], client.arg) := rfl
  obtain ⟨m₁, flushed⟩ := flush_of_read empty (Nat.zero_le _)
  obtain ⟨m₂, holds₂, calls⟩ := request.call_asks wellFormed flushed
  obtain ⟨m₃, unsent⟩ := @sendMsg_of_no_write _ (platformConf Fate.requestLost.serial)
    { client with msg := m₂, arg := client.arg } _ _ holds₂ (Request.length_message wellFormed _) rfl
  refine ⟨_, calls.trans (bind_of_error unsent), ⟨⟨connected.waits.byte, connected.waits.first⟩,
    connected.unit, connected.idle⟩, rfl, rfl⟩

def afterFlush (client : Nmbs (CallbackContext GripperServer)) : Nmbs (CallbackContext GripperServer) :=
  { client with
    arg := ({ client.arg with serial := client.arg.serial.discardPendingReply } :
      CallbackContext GripperServer).logged (failure "read" (serialIOException "injected reply loss")) }

theorem connected_afterFlush (connected : Connected client) : Connected (afterFlush client) :=
  ⟨⟨connected.waits.byte, connected.waits.first⟩, connected.unit,
    ⟨connected.idle.ours, connected.idle.taken, rfl, connected.idle.sound⟩⟩

theorem call_replyLost (connected : Connected client) (request : Request)
    (wellFormed : request.wellFormed) :
    ∃ client', request.call (platformConf Fate.replyLost.serial) client =
        .error (.error .transport) client' ∧
      Ended client client' (client.arg.serial.nmbs.arg.model.serve request).1 Fate.replyLost.logged := by
  have flushed : flush (platformConf Fate.replyLost.serial) client = .ok () (afterFlush client) :=
    flush_of_no_read rfl
  obtain ⟨m₂, holds₂, calls⟩ := request.call_asks wellFormed flushed
  obtain ⟨m₀, delivered⟩ := deliver_answered (connected_afterFlush connected) request wellFormed
  have write : (platformConf Fate.replyLost.serial).write
      (framed ([client.destAddressRtu, request.fc] ++ request.body)) client.byteTimeoutMs
        (afterFlush client).arg =
      (some (framed ([client.destAddressRtu, request.fc] ++ request.body)).length,
        answered (afterFlush client) request m₀) := by
    rw [← delivered]
    rfl
  obtain ⟨m₃, sent, holds₃⟩ := @sendMsg_of_write _ _ { client with msg := m₂, arg := (afterFlush client).arg }
    _ (answered (afterFlush client) request m₀) holds₂ (Request.length_message wellFormed _) write
  have single : client.destAddressRtu ≠ broadcastAddress := connected.unit ▸ connected.idle.ours
  obtain ⟨m₄, lost⟩ := @Request.response_of_no_read _ (platformConf Fate.replyLost.serial)
    { client with msg := m₃, arg := answered (afterFlush client) request m₀ } request _
    (holds₃.broadcast.trans (decide_eq_false single)) rfl
  refine ⟨_, calls.trans ((bind_of_ok sent).trans lost), ⟨⟨connected.waits.byte, connected.waits.first⟩,
    connected.unit, ⟨connected.idle.ours, rfl, rfl, rfl⟩⟩, rfl, List.append_assoc _ _ _⟩

structure Ends where
  device : RegisterModel
  log : List LogEntry

def serveOrLose (fate : Fate) (request : Request) : EStateM Stop Ends (List UInt16) := fun ends =>
  if request.wellFormed then
    match fate, (ends.device.serve request).2 with
    | .sound, .ok registers => .ok registers { ends with device := (ends.device.serve request).1 }
    | .sound, .error e =>
        .error (.error (.exception e)) { ends with device := (ends.device.serve request).1 }
    | .requestLost, _ => .error (.error .transport) { ends with log := ends.log ++ fate.logged }
    | .replyLost, _ =>
        .error (.error .transport) ⟨(ends.device.serve request).1, ends.log ++ fate.logged⟩
  else .error (.error .invalidArgument) ends

structure Tracks (client : Nmbs (CallbackContext GripperServer)) (ends : Ends) : Prop where
  connected : Connected client
  device : client.arg.serial.nmbs.arg.model = ends.device
  log : client.arg.log = ends.log

theorem Ended.tracks {client' : Nmbs (CallbackContext GripperServer)} {device : RegisterModel}
    {log logged : List LogEntry} (finished : Ended client client' device logged) (before : client.arg.log = log) :
    Tracks client' ⟨device, log ++ logged⟩ :=
  ⟨finished.connected, finished.device, before ▸ finished.log⟩

theorem call_tracks (fate : Fate) (request : Request) {ends : Ends} (tracks : Tracks client ends) :
    (caught (request.call (platformConf fate.serial) client)).1 = (caught (serveOrLose fate request ends)).1 ∧
      Tracks (caught (request.call (platformConf fate.serial) client)).2
        (caught (serveOrLose fate request ends)).2 := by
  obtain ⟨connected, device, log⟩ := tracks
  by_cases wellFormed : request.wellFormed
  · unfold serveOrLose
    rw [if_pos wellFormed, ← device]
    cases fate with
    | sound =>
        obtain ⟨client', called, finished⟩ := call_serve connected request wellFormed
        have tracks := finished.tracks log
        rw [List.append_nil] at tracks
        rw [show request.call (platformConf Fate.sound.serial) client = _ from called]
        cases (client.arg.serial.nmbs.arg.model.serve request).2 with
        | ok registers => exact ⟨rfl, tracks⟩
        | error e => exact ⟨rfl, tracks⟩
    | requestLost =>
        obtain ⟨client', called, finished⟩ := call_requestLost connected request wellFormed
        rw [called]
        exact ⟨rfl, finished.tracks log⟩
    | replyLost =>
        obtain ⟨client', called, finished⟩ := call_replyLost connected request wellFormed
        rw [called]
        exact ⟨rfl, finished.tracks log⟩
  · unfold serveOrLose
    rw [Request.call_of_illFormed wellFormed, if_neg wellFormed]
    exact ⟨rfl, connected, device, log⟩

theorem tracks_create {model : RegisterModel} {slaveAddress : UInt8} {server : GripperServer}
    (created : GripperServer.create model slaveAddress = .ok server) :
    Tracks (GripperModbusClient.mk gripperSerial slaveAddress server) ⟨model, []⟩ := by
  unfold GripperServer.create at created
  split at created
  · cases created
  · rename_i ours
    cases created
    have byte : kByteTimeoutMs ≠ 0 := by decide
    have first : gripperSerial.getTimeout ≠ 0 := by decide
    exact ⟨⟨⟨byte, first⟩, rfl, ⟨ours, rfl, rfl, rfl⟩⟩, rfl, rfl⟩

/-- Whatever requests a client makes of the fake gripper and whichever of them the line loses, each call
returns what the device model answers to the requests that reached it, and the two are in step again. -/
theorem calls_served {model : RegisterModel} {slaveAddress : UInt8} {server : GripperServer}
    (created : GripperServer.create model slaveAddress = .ok server) (calls : List (Fate × Request)) :
    (attempts (calls.map fun call => call.2.call (platformConf call.1.serial))
        (GripperModbusClient.mk gripperSerial slaveAddress server)).1 =
      (attempts (calls.map fun call => serveOrLose call.1 call.2) ⟨model, []⟩).1 ∧
    Tracks (attempts (calls.map fun call => call.2.call (platformConf call.1.serial))
        (GripperModbusClient.mk gripperSerial slaveAddress server)).2
      (attempts (calls.map fun call => serveOrLose call.1 call.2) ⟨model, []⟩).2 :=
  attempts_refine (fun call _ _ => call_tracks call.1 call.2) calls (tracks_create created)

theorem calls_served_refused : ∃ server, GripperServer.create .fresh 9 = .ok server ∧
    (attempts ([(Fate.sound, Request.read statusAddress 0), (.sound, .write 0x07D8 1 fun _ => 7),
          (.replyLost, .readWrite 0x07D8 1 commandAddress 1 fun _ => 0x0900)].map
        fun call => call.2.call (platformConf call.1.serial))
        (GripperModbusClient.mk gripperSerial 9 server)).1 =
      [.error (.error .invalidArgument), .error (.error (.exception .illegalDataAddress)),
        .error (.error .transport)] :=
  ⟨_, rfl, (calls_served rfl _).1⟩

end TactileSensors.Gripper
