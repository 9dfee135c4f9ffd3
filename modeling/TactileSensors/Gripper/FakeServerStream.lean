import TactileSensors.Bytes.Blocks
import TactileSensors.Gripper.DeviceHistory
import TactileSensors.Gripper.FakeExchange
import TactileSensors.Modbus.Effects
import TactileSensors.Modbus.Parsing

/-!
# What the fake gripper lets be written

Bytes reach the server in any pieces, and may be any bytes. The device is written to by nothing but
whole frames that stand in them, with their CRC, to it or to every device, and by each of those once.
-/

namespace TactileSensors.Gripper
open Bytes ForceTorque Machine Modbus
namespace GripperServer

/-- Bytes taken from the line, and nothing else. -/
structure Quiet (impl impl' : Impl) : Prop where
  taken : ∃ taken, impl.fromClient = taken ++ impl'.fromClient
  model : impl'.model = impl.model

instance : IsPreorder Impl Quiet where
  refl impl := ⟨⟨[], rfl⟩, rfl⟩
  trans impl mid impl' := by
    rintro ⟨⟨first, split₁⟩, same₁⟩ ⟨⟨rest, split₂⟩, same₂⟩
    exact ⟨⟨first ++ rest, by rw [split₁, split₂, List.append_assoc]⟩, same₂.trans same₁⟩

instance : platformConf.Keeps Quiet where
  read n _ impl := ⟨⟨impl.fromClient.take n, (List.take_append_drop n _).symm⟩, rfl⟩
  write _ _ _ := ⟨⟨[], rfl⟩, rfl⟩

theorem quiet_read (address quantity : UInt16) (impl : Impl) :
    Quiet impl (callbacks.readHoldingRegisters address quantity impl).2 := by
  cases range : RegisterModel.containsRange address quantity with
  | true =>
      simp only [callbacks, onReadHoldingRegisters, range, if_true, RegisterModel.read_device]
      exact refl impl
  | false =>
      simp only [callbacks, onReadHoldingRegisters, range, Bool.false_eq_true, if_false]
      exact refl impl

theorem took_fromClient {impl impl' : Impl} {bytes : List UInt8} (took : Took platformConf impl bytes impl') :
    impl.fromClient = bytes ++ impl'.fromClient ∧ impl'.model = impl.model := by
  induction took with
  | nothing => exact ⟨rfl, rfl⟩
  | @more mid impl' first data timeout _ read ih =>
      obtain ⟨given, rfl⟩ := Prod.mk.inj read
      obtain ⟨split, same⟩ := ih
      have whole := List.take_append_drop data.length mid.fromClient
      rw [Option.some.inj given] at whole
      exact ⟨by rw [split, List.append_assoc, whole], same⟩

/-! ## A write -/

def served (device : RegisterModel) (request : Request) : RegisterModel :=
  (device.serve request).1

theorem served_readWrite (device : RegisterModel) (readAddress readQuantity address quantity : UInt16)
    (registers : Nat → UInt16) :
    served device (.readWrite readAddress readQuantity address quantity registers) =
      served device (.write address quantity registers) := by
  simp only [served, RegisterModel.serve]
  split
  · split <;> rfl
  · rfl

theorem invoke_follows {rest : Except NmbsError Unit → Call Impl Unit} (quiet : ∀ answer, Leaves Quiet (rest answer))
    (address quantity : UInt16) (registers : List UInt16) (s : Nmbs Impl) :
    Follows Quiet { s with arg := { s.arg with
        model := served s.arg.model (.write address quantity fun i => registers.getD i 0) } }
      (caught ((do
        let answer ← invoke (callbacks.writeMultipleRegisters address quantity registers)
        rest answer : Call Impl Unit) s)).2 := by
  cases range : RegisterModel.containsRange address quantity with
  | true =>
      have wrote : invoke (callbacks.writeMultipleRegisters address quantity registers) s =
          .ok (.ok ()) { s with arg := { s.arg with
            model := served s.arg.model (.write address quantity fun i => registers.getD i 0) } } := by
        simp only [invoke, callbacks, onWriteMultipleRegisters, served, RegisterModel.serve, range, if_true]
      rw [bind_of_ok wrote]
      exact (quiet _).follows _
  | false =>
      have refused : invoke (callbacks.writeMultipleRegisters address quantity registers) s =
          .ok (.error (.exception .illegalDataAddress)) { s with arg := { s.arg with
            model := served s.arg.model (.write address quantity fun i => registers.getD i 0) } } := by
        simp [invoke, callbacks, onWriteMultipleRegisters, served, RegisterModel.serve, range]
      rw [bind_of_ok refused]
      exact (quiet _).follows _

structure Serves (unitId : UInt8) (request : Request) (s s' : Nmbs Impl) : Prop where
  fc : s.msg.fc = request.fc
  frame : ∃ rest, s.arg.fromClient =
    request.body ++ crc16 ([unitId, request.fc] ++ request.body) ++ (rest ++ s'.arg.fromClient)
  model : s'.arg.model = served s.arg.model request
  addressRtu : s'.addressRtu = s.addressRtu

theorem serves_of_took {s s' : Nmbs Impl} {unitId : UInt8} {request : Request} {arg : Impl} {m : Message}
    (fc : s.msg.fc = request.fc)
    (took : Took platformConf s.arg (request.body ++ crc16 ([unitId, request.fc] ++ request.body)) arg)
    (wrote : Follows Quiet { s with msg := m, arg := { arg with model := served arg.model request } } s') :
    Serves unitId request s s' := by
  obtain ⟨split, same⟩ := took_fromClient took
  obtain ⟨⟨⟨rest, left⟩, model⟩, addressRtu⟩ := wrote
  have left : arg.fromClient = rest ++ s'.arg.fromClient := left
  exact ⟨fc, ⟨rest, by rw [split, left]⟩, same ▸ model, addressRtu⟩

theorem answerWriteMultipleRegisters_follows (request : WriteRequest) (s : Nmbs Impl) :
    Follows Quiet s (caught (answerWriteMultipleRegisters platformConf callbacks request s)).2 ∨
      request.registersBytes.toNat = request.quantity.toNat * 2 ∧
        Follows Quiet { s with arg := { s.arg with model := served s.arg.model request.request } }
          (caught (answerWriteMultipleRegisters platformConf callbacks request s)).2 := by
  have refused (exception : NmbsException) :
      Follows Quiet s (caught (sendExceptionMsg platformConf exception s)).2 := Leaves.follows s
  unfold answerWriteMultipleRegisters
  split
  · exact .inl (refused _)
  split
  · exact .inl (refused _)
  split
  · exact .inl (refused _)
  split
  · exact .inl (refused _)
  · rename_i twice
    refine .inr ⟨not_not.mp twice, ?_⟩
    rw [bind_of_ok (get_apply _)]
    refine invoke_follows (fun answer => ?_) request.address request.quantity request.registers s
    cases answer <;> infer_instance

theorem answerReadWriteRegisters_follows (request : ReadWriteRequest) (s : Nmbs Impl) :
    Follows Quiet s (caught (answerReadWriteRegisters platformConf callbacks request s)).2 ∨
      request.registersBytes.toNat = request.quantity.toNat * 2 ∧
        Follows Quiet { s with arg := { s.arg with model := served s.arg.model request.request } }
          (caught (answerReadWriteRegisters platformConf callbacks request s)).2 := by
  have refused (exception : NmbsException) :
      Follows Quiet s (caught (sendExceptionMsg platformConf exception s)).2 := Leaves.follows s
  have read : Leaves Quiet (invoke (callbacks.readHoldingRegisters request.readAddress request.readQuantity)) :=
    leaves_invoke (quiet_read _ _)
  unfold answerReadWriteRegisters
  split
  · exact .inl (refused _)
  split
  · exact .inl (refused _)
  split
  · exact .inl (refused _)
  rename_i twice
  split
  · exact .inl (refused _)
  split
  · exact .inl (refused _)
  · refine .inr ⟨not_not.mp twice, ?_⟩
    rw [bind_of_ok (get_apply _), ReadWriteRequest.request, served_readWrite]
    refine invoke_follows (fun answer => ?_) request.address request.quantity request.registers s
    cases answer <;> infer_instance

variable {s : Nmbs Impl} {unitId : UInt8} {broadcast ignored : Bool}

theorem handleWriteMultipleRegisters_follows (shows_ : s.msg.Shows (headed unitId 16 broadcast ignored)) :
    Follows Quiet s (caught (handleWriteMultipleRegisters platformConf callbacks s)).2 ∨
      ignored = false ∧ ∃ request,
        Serves unitId request s (caught (handleWriteMultipleRegisters platformConf callbacks s)).2 := by
  have before : Follows Quiet s (caught (recvWriteRequest platformConf s)).2 := Leaves.follows s
  unfold handleWriteMultipleRegisters
  cases received : recvWriteRequest platformConf s with
  | error stop s' =>
      rw [received] at before
      rw [bind_of_error received]
      exact .inl before
  | ok request s' =>
      rw [received] at before
      rw [bind_of_ok received, bind_of_ok (get_apply _)]
      split
      · rename_i ours
        rcases answerWriteMultipleRegisters_follows request s' with quiet | ⟨twice, wrote⟩
        · exact .inl (before.trans quiet)
        · obtain ⟨arg, m, took, rfl, -, same⟩ := recvWriteRequest_eq_ok shows_ received twice
          exact .inr ⟨by simpa [same] using ours, request.request, serves_of_took shows_.fc took wrote⟩
      · exact .inl (before.trans (Leaves.follows s'))

theorem handleReadWriteRegisters_follows (shows_ : s.msg.Shows (headed unitId 23 broadcast ignored)) :
    Follows Quiet s (caught (handleReadWriteRegisters platformConf callbacks s)).2 ∨
      ignored = false ∧ ∃ request,
        Serves unitId request s (caught (handleReadWriteRegisters platformConf callbacks s)).2 := by
  have before : Follows Quiet s (caught (recvReadWriteRequest platformConf s)).2 := Leaves.follows s
  unfold handleReadWriteRegisters
  cases received : recvReadWriteRequest platformConf s with
  | error stop s' =>
      rw [received] at before
      rw [bind_of_error received]
      exact .inl before
  | ok request s' =>
      rw [received] at before
      rw [bind_of_ok received, bind_of_ok (get_apply _)]
      split
      · rename_i ours
        rcases answerReadWriteRegisters_follows request s' with quiet | ⟨twice, wrote⟩
        · exact .inl (before.trans quiet)
        · obtain ⟨arg, m, took, rfl, -, same⟩ := recvReadWriteRequest_eq_ok shows_ received twice
          exact .inr ⟨by simpa [same] using ours, request.request, serves_of_took shows_.fc took wrote⟩
      · exact .inl (before.trans (Leaves.follows s'))

theorem handleReqFc_served {fc : UInt8} (shows_ : s.msg.Shows (headed unitId fc broadcast ignored)) :
    Follows Quiet s (caught (handleReqFc platformConf callbacks s)).2 ∨
      ignored = false ∧ ∃ request,
        Serves unitId request s (caught (handleReqFc platformConf callbacks s)).2 := by
  by_cases write : fc = 16
  · subst write
    rw [handleReqFc_write shows_.fc]
    exact handleWriteMultipleRegisters_follows shows_
  by_cases readWrite : fc = 23
  · subst readWrite
    rw [handleReqFc_readWrite shows_.fc]
    exact handleReadWriteRegisters_follows shows_
  · have code : s.msg.fc = fc := shows_.fc
    exact .inl (handleReqFc_follows quiet_read ⟨code ▸ write, code ▸ readWrite⟩)

/-! ## A poll -/

/-- A request on the line, from its first byte to its CRC. -/
structure Incoming where
  unitId : UInt8
  request : Request

def Incoming.frame (incoming : Incoming) : List UInt8 :=
  framed ([incoming.unitId, incoming.request.fc] ++ incoming.request.body)

structure Takes (incoming : Incoming) (s s' : Nmbs Impl) : Prop where
  addressed : incoming.unitId = s.addressRtu ∨ incoming.unitId = broadcastAddress
  frame : ∃ rest, s.arg.fromClient = incoming.frame ++ (rest ++ s'.arg.fromClient)
  model : s'.arg.model = served s.arg.model incoming.request
  addressRtu : s'.addressRtu = s.addressRtu

theorem Takes.trans {incoming : Incoming} {s mid s' : Nmbs Impl} (takes : Takes incoming s mid)
    (quiet : Follows Quiet mid s') : Takes incoming s s' := by
  obtain ⟨rest, split⟩ := takes.frame
  obtain ⟨more, left⟩ := quiet.arg.taken
  exact ⟨takes.addressed, ⟨rest ++ more, by rw [split, left, List.append_assoc]⟩,
    quiet.arg.model.trans takes.model, quiet.addressRtu.trans takes.addressRtu⟩

theorem recvReqHeader_takes {header : Nmbs Impl} (received : recvReqHeader platformConf s = .ok () header) :
    Follows Quiet s (caught (handleReqFc platformConf callbacks header)).2 ∨
      ∃ incoming, Takes incoming s (caught (handleReqFc platformConf callbacks header)).2 := by
  have before : Follows Quiet s (caught (recvReqHeader platformConf s)).2 := Leaves.follows s
  rw [received] at before
  obtain ⟨unitId, fc, ignored, arg, m, took, rfl, holds, ours⟩ := recvReqHeader_eq_ok received
  rcases handleReqFc_served (s := { s with msg := m, arg, firstByteReceived := true }) holds with
    quiet | ⟨single, request, serves⟩
  · exact .inl (before.trans quiet)
  · obtain ⟨split, same⟩ := took_fromClient took
    obtain ⟨rest, left⟩ := serves.frame
    have left : arg.fromClient = _ := left
    have code : fc = request.fc := holds.fc.symm.trans serves.fc
    refine .inr ⟨⟨unitId, request⟩, ours single, ⟨rest, ?_⟩, ?_, serves.addressRtu⟩
    · rw [split, left, code]
      simp [Incoming.frame, framed]
    · exact same ▸ serves.model

theorem nmbsServerPoll_follows {header : Nmbs Impl}
    (begun : (do msgStateReset; recvReqHeader platformConf : Call Impl Unit) s = .ok () header) :
    Follows Quiet (caught (handleReqFc platformConf callbacks header)).2
      (caught (nmbsServerPoll platformConf callbacks s)).2 := by
  have same (s' : Nmbs Impl) : Follows Quiet s' s' := ⟨refl _, rfl⟩
  simp only [nmbsServerPoll, begun]
  cases handled : handleReqFc platformConf callbacks header with
  | ok _ s' => exact same s'
  | error stop s' =>
      cases stop with
      | outOfBounds => exact same s'
      | error err =>
          dsimp only
          split
          · exact same s'
          · exact Leaves.follows s'

theorem nmbsServerPoll_takes (s : Nmbs Impl) :
    Follows Quiet s (caught (nmbsServerPoll platformConf callbacks s)).2 ∨
      ∃ incoming, Takes incoming s (caught (nmbsServerPoll platformConf callbacks s)).2 := by
  have before : Follows Quiet s
      (caught ((do msgStateReset; recvReqHeader platformConf : Call Impl Unit) s)).2 := Leaves.follows s
  cases begun : (do msgStateReset; recvReqHeader platformConf : Call Impl Unit) s with
  | error stop s' =>
      rw [begun] at before
      refine .inl ?_
      simp only [nmbsServerPoll, begun]
      split
      · rename_i stopped
        cases stopped
        split <;> exact before
      · rename_i stopped
        cases stopped
        exact before
      · rename_i stopped
        cases stopped
  | ok _ header =>
      have after := nmbsServerPoll_follows begun
      obtain ⟨m, reset, -⟩ := msgStateReset_shows s
      have received : recvReqHeader platformConf { s with msg := m } = .ok () header :=
        (bind_of_ok reset).symm.trans begun
      rcases recvReqHeader_takes received with quiet | ⟨incoming, takes⟩
      · have quiet : Follows Quiet s _ := ⟨quiet.arg, quiet.addressRtu⟩
        exact .inl (quiet.trans after)
      · have takes : Takes incoming s _ := ⟨takes.addressed, takes.frame, takes.model, takes.addressRtu⟩
        exact .inr ⟨incoming, takes.trans after⟩

/-! ## Any run of the server -/

inductive Event
  | deliver (request : List UInt8)
  | drain (max : Nat)
  | discardPendingReply

def handle (server : GripperServer) : Event → GripperServer
  | .deliver request => server.deliver request
  | .drain max => (server.drain max).2
  | .discardPendingReply => server.discardPendingReply

def Event.bytes : Event → List UInt8
  | .deliver request => request
  | _ => []

/-- What was delivered is what the server took and what it has yet to take; the frames it was written by
stand in what it took. -/
structure Account (model : RegisterModel) (unit : UInt8) (stream : List UInt8) (incoming : List Incoming)
    (server : GripperServer) : Prop where
  addressed : ∀ i ∈ incoming, i.unitId = unit ∨ i.unitId = broadcastAddress
  stream : ∃ taken, stream = taken ++ server.nmbs.arg.fromClient ∧ Blocks (incoming.map Incoming.frame) taken
  model : server.nmbs.arg.model = incoming.foldl (fun device i => served device i.request) model
  unit : server.nmbs.addressRtu = unit

theorem poll_eq (server : GripperServer) (sound : server.poll.overrun = false) :
    server.overrun = false ∧
      server.poll.nmbs = (caught (nmbsServerPoll platformConf callbacks server.nmbs)).2 := by
  unfold poll at sound ⊢
  cases polled : nmbsServerPoll platformConf callbacks server.nmbs with
  | ok _ nmbs =>
      rw [polled] at sound
      exact ⟨sound, rfl⟩
  | error stop nmbs =>
      rw [polled] at sound
      cases stop with
      | error err => exact ⟨sound, rfl⟩
      | outOfBounds => cases sound

variable {model : RegisterModel} {unit : UInt8} {stream : List UInt8} {incoming : List Incoming}
  {server : GripperServer}

theorem Account.poll (account : Account model unit stream incoming server)
    (sound : server.poll.overrun = false) : ∃ more, Account model unit stream (incoming ++ more) server.poll := by
  obtain ⟨addressed, ⟨taken, split, blocks⟩, model_, unit_⟩ := account
  obtain ⟨-, same⟩ := poll_eq server sound
  rcases nmbsServerPoll_takes server.nmbs with quiet | ⟨next, takes⟩
  · rw [← same] at quiet
    obtain ⟨more, left⟩ := quiet.arg.taken
    refine ⟨[], by simpa using addressed, ⟨taken ++ more, ?_, ?_⟩, ?_, quiet.addressRtu.trans unit_⟩
    · rw [split, left, List.append_assoc]
    · rw [List.append_nil]
      exact blocks.append_right more
    · rw [List.append_nil]
      exact quiet.arg.model.trans model_
  · rw [← same] at takes
    obtain ⟨rest, left⟩ := takes.frame
    refine ⟨[next], ?_, ⟨taken ++ (next.frame ++ rest), ?_, ?_⟩, ?_, takes.addressRtu.trans unit_⟩
    · intro i member
      rcases List.mem_append.mp member with old | new
      · exact addressed i old
      · rw [List.mem_singleton.mp new, ← unit_]
        exact takes.addressed
    · rw [split, left]
      simp
    · rw [List.map_append]
      exact blocks.append (.single next.frame rest)
    · rw [takes.model, model_, List.foldl_append]
      rfl

theorem Account.handle (account : Account model unit stream incoming server) (event : Event)
    (sound : (server.handle event).overrun = false) :
    ∃ more, Account model unit (stream ++ event.bytes) (incoming ++ more) (server.handle event) := by
  obtain ⟨addressed, ⟨taken, split, blocks⟩, model_, unit_⟩ := account
  cases event with
  | deliver request =>
      refine Account.poll ⟨addressed, ⟨taken, ?_, blocks⟩, model_, unit_⟩ sound
      simp [Event.bytes, withImpl, split]
  | drain max =>
      have nothing : stream ++ (Event.drain max).bytes = stream := List.append_nil stream
      refine ⟨[], ?_⟩
      rw [nothing, List.append_nil]
      exact ⟨addressed, ⟨taken, split, blocks⟩, model_, unit_⟩
  | discardPendingReply =>
      have nothing : stream ++ Event.discardPendingReply.bytes = stream := List.append_nil stream
      refine ⟨[], ?_⟩
      rw [nothing, List.append_nil]
      exact ⟨addressed, ⟨taken, split, blocks⟩, model_, unit_⟩

theorem handle_sound (event : Event) (sound : (server.handle event).overrun = false) :
    server.overrun = false := by
  cases event with
  | deliver request => exact (poll_eq _ sound).1
  | drain max => exact sound
  | discardPendingReply => exact sound

end GripperServer

open GripperServer in
/-- Whatever bytes reach the server, in whatever pieces, and whatever is taken of its replies: the device
was written to by frames that stand in those bytes apart and in order, each with its CRC and addressed to
the device or to every device, each of them once. -/
theorem written_by_frames {model : RegisterModel} {slaveAddress : UInt8} {server : GripperServer}
    (created : GripperServer.create model slaveAddress = .ok server) (events : List Event)
    (sound : (events.foldl handle server).overrun = false) :
    ∃ incoming : List Incoming,
      (∀ i ∈ incoming, i.unitId = slaveAddress ∨ i.unitId = broadcastAddress) ∧
      Blocks (incoming.map Incoming.frame) (events.flatMap Event.bytes) ∧
      (events.foldl handle server).nmbs.arg.model =
        incoming.foldl (fun device i => served device i.request) model := by
  have account : ∃ incoming, Account model slaveAddress (events.flatMap Event.bytes) incoming
      (events.foldl handle server) := by
    induction events using List.reverseRecOn with
    | nil =>
        have fresh : server.nmbs.arg = ⟨model, [], []⟩ ∧ server.nmbs.addressRtu = slaveAddress := by
          unfold GripperServer.create at created
          split at created
          · cases created
          · cases created
            exact ⟨rfl, rfl⟩
        exact ⟨[], nofun, ⟨[], by rw [List.foldl_nil, fresh.1]; rfl, .none []⟩,
          by rw [List.foldl_nil, fresh.1]; rfl, fresh.2⟩
    | append_singleton events event ih =>
        rw [List.foldl_append] at sound ⊢
        obtain ⟨incoming, account⟩ := ih (handle_sound event sound)
        obtain ⟨more, after⟩ := account.handle event sound
        rw [List.flatMap_append]
        exact ⟨incoming ++ more, by simpa using after⟩
  obtain ⟨incoming, addressed, ⟨taken, split, blocks⟩, written, -⟩ := account
  exact ⟨incoming, addressed, split ▸ blocks.append_right _, written⟩

theorem written_by_frames_broadcast : ∃ (server : GripperServer) (incoming : List GripperServer.Incoming),
    GripperServer.create .fresh 9 = .ok server ∧
      Bytes.Blocks (incoming.map GripperServer.Incoming.frame)
        ([7, 1, 2] ++ ([9] ++ framed [0, 16, 3, 0xE8, 0, 1, 2, 9, 0])) := by
  obtain ⟨server, created⟩ : ∃ server, GripperServer.create .fresh 9 = .ok server := ⟨_, rfl⟩
  have sound : ([GripperServer.Event.deliver [7, 1, 2], .drain 3, .deliver [9], .discardPendingReply,
      .deliver (framed [0, 16, 3, 0xE8, 0, 1, 2, 9, 0])].foldl GripperServer.handle server).overrun =
        false := by
    cases created
    decide +kernel
  obtain ⟨incoming, -, blocks, -⟩ := written_by_frames created _ sound
  exact ⟨server, incoming, created, blocks⟩

end TactileSensors.Gripper
