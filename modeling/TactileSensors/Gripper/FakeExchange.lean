import TactileSensors.Gripper.DeviceHistory
import TactileSensors.Gripper.FakeServer
import TactileSensors.Modbus.Execution

/-!
# The client against the fake gripper

The client's requests, the frames they become, the server that parses them, its reply and the client
that parses that come to one operation on the device model. The model is asked about registers only;
nothing of the frames is left on either side.
-/

namespace TactileSensors.Gripper
open Modbus Machine ForceTorque

/-! ## What the device makes of a request -/

namespace RegisterModel

def values (device : RegisterModel) (address quantity : UInt16) : List UInt16 :=
  (List.range quantity.toNat).map (device.read address quantity fun _ => 0).2

/-- A request as an operation on the device. A read refused after its write leaves it written. -/
def serve (device : RegisterModel) : Request → RegisterModel × Except NmbsException (List UInt16)
  | .read address quantity =>
      if containsRange address quantity then (device, .ok (device.values address quantity))
      else (device, .error .illegalDataAddress)
  | .write address quantity registers =>
      if containsRange address quantity then (device.write address quantity registers, .ok [])
      else (device, .error .illegalDataAddress)
  | .readWrite readAddress readQuantity address quantity registers =>
      if containsRange address quantity then
        let written := device.write address quantity registers
        if containsRange readAddress readQuantity then
          (written, .ok (written.values readAddress readQuantity))
        else (written, .error .illegalDataAddress)
      else (device, .error .illegalDataAddress)

theorem length_values (device : RegisterModel) (address quantity : UInt16) :
    (device.values address quantity).length = quantity.toNat := by
  simp [values]

theorem serve_length {device : RegisterModel} {request : Request} {registers : List UInt16}
    (served : (device.serve request).2 = .ok registers) : registers.length = request.asked := by
  cases request with
  | read address quantity =>
      cases range : containsRange address quantity with
      | true =>
          simp only [serve, range, if_true, Except.ok.injEq] at served
          exact served ▸ length_values device address quantity
      | false => simp [serve, range] at served
  | write address quantity written =>
      cases range : containsRange address quantity with
      | true =>
          simp only [serve, range, if_true, Except.ok.injEq] at served
          exact served ▸ rfl
      | false => simp [serve, range] at served
  | readWrite readAddress readQuantity address quantity written =>
      cases range : containsRange address quantity with
      | true =>
          cases readRange : containsRange readAddress readQuantity with
          | true =>
              simp only [serve, range, readRange, if_true, Except.ok.injEq] at served
              exact served ▸ length_values _ readAddress readQuantity
          | false => simp [serve, range, readRange] at served
      | false => simp [serve, range] at served

theorem write_congr {device : RegisterModel} {address quantity : UInt16} {values values' : Nat → UInt16}
    (same : ∀ i < quantity.toNat, values i = values' i) :
    device.write address quantity values = device.write address quantity values' := by
  have copied : copyIn device.registers address.toNat quantity.toNat values =
      copyIn device.registers address.toNat quantity.toNat values' := by
    funext register
    unfold copyIn
    split
    · rename_i inside
      exact same _ (by omega)
    · rfl
  rw [write, write, copied]

end RegisterModel

/-! ## The server -/

namespace GripperServer

def queue : Queue platformConf where
  line := Impl.fromClient
  drop n impl := { impl with fromClient := impl.fromClient.drop n }
  waits _ := True
  line_drop _ _ := rfl
  drop_drop m n impl := by simp [List.drop_drop]
  read _ _ _ := rfl

theorem waits (nmbs : Nmbs Impl) : queue.Waits nmbs :=
  ⟨trivial, trivial⟩

theorem getD_map_range' {registers : Nat → UInt16} {count i : Nat} (inside : i < count) :
    ((List.range' 0 count).map registers).getD i 0 = registers i := by
  simp [List.getD_eq_getElem?_getD, inside]

theorem registersBody_values (device : RegisterModel) (address quantity : UInt16) :
    (registersBody quantity fun i => (device.values address quantity).getD i 0) =
      (device.values address quantity).flatMap bytesOf := by
  rw [registersBody_eq, map_range'_getD (device.length_values address quantity)]

def parsed (unitId fc : UInt8) (taken : List UInt8) : View :=
  ⟨unitId, fc, false, false, taken, []⟩

def Answers (handler : Call Impl Unit) (s : Nmbs Impl) (device : RegisterModel) (reply : List UInt8) :
    Prop :=
  ∃ m, handler s = .ok () { s with
    msg := m, arg := { s.arg with model := device, toClient := s.arg.toClient ++ framed reply } }

variable {s : Nmbs Impl} {unitId : UInt8} {taken : List UInt8}

theorem answers_exception {e : NmbsException} {fc : UInt8}
    (shows_ : s.msg.Shows (parsed unitId fc taken)) :
    Answers (sendExceptionMsg platformConf e) s s.arg.model [unitId, fc + 0x80, e.code] :=
  sendExceptionMsg_of_write shows_ rfl rfl

theorem answers_registers {fc : UInt8} {device : RegisterModel} {address quantity : UInt16}
    (few : quantity.toNat ≤ 0x7D) (shows_ : s.msg.Shows (parsed unitId fc taken)) :
    Answers (putRegistersRes platformConf quantity (device.values address quantity)) s s.arg.model
      ([unitId, fc, (quantity * 2).toUInt8] ++ (device.values address quantity).flatMap bytesOf) := by
  rw [← registersBody_values]
  exact putRegistersRes_of_write few shows_ rfl

theorem invoke_read (address quantity : UInt16) (s : Nmbs Impl) :
    invoke (callbacks.readHoldingRegisters address quantity) s =
      .ok (if RegisterModel.containsRange address quantity then .ok (s.arg.model.values address quantity)
        else .error (.exception .illegalDataAddress)) s := by
  cases range : RegisterModel.containsRange address quantity with
  | true =>
      simp [invoke, callbacks, onReadHoldingRegisters, range, RegisterModel.read_device,
        RegisterModel.values]
  | false => simp [invoke, callbacks, onReadHoldingRegisters, range]

theorem invoke_write (address quantity : UInt16) (registers : Nat → UInt16) (s : Nmbs Impl) :
    invoke (callbacks.writeMultipleRegisters address quantity
        ((List.range' 0 quantity.toNat).map registers)) s =
      if RegisterModel.containsRange address quantity then
        .ok (.ok ()) { s with
          arg := { s.arg with model := s.arg.model.write address quantity registers } }
      else .ok (.error (.exception .illegalDataAddress)) s := by
  have same : ∀ i < quantity.toNat, ((List.range' 0 quantity.toNat).map registers).getD i 0 = registers i :=
    fun i hi => getD_map_range' hi
  cases range : RegisterModel.containsRange address quantity with
  | true =>
      simp only [invoke, callbacks, onWriteMultipleRegisters, range, if_true,
        RegisterModel.write_congr same]
  | false => simp [invoke, callbacks, onWriteMultipleRegisters, range]

theorem answers_read {address quantity : UInt16} (wellFormed : (Request.read address quantity).wellFormed)
    (shows_ : s.msg.Shows (parsed unitId 3 taken)) :
    Answers (answerReadRegisters platformConf (some callbacks.readHoldingRegisters) address quantity) s
      (s.arg.model.serve (.read address quantity)).1
      ([unitId] ++ (Request.read address quantity).reply (s.arg.model.serve (.read address quantity)).2) := by
  obtain ⟨lowest, few, inside⟩ := wellFormed
  have sole : s.msg.broadcast = false := shows_.broadcast
  have space : inAddressSpace address quantity = true := decide_eq_true inside
  have invoked := invoke_read address quantity s
  unfold answerReadRegisters
  rw [if_neg ((not_lt_or_gt 1 125).mpr ⟨lowest, few⟩), space]
  cases range : RegisterModel.containsRange address quantity with
  | true =>
      obtain ⟨m, done⟩ := @answers_registers s unitId taken 3 s.arg.model address quantity few shows_
      rw [range, if_pos rfl] at invoked
      refine ⟨m, ?_⟩
      simp only [Bool.not_true, Bool.false_eq_true, if_false]
      rw [bind_of_ok (get_apply _), bind_of_ok invoked]
      simp only [sole, Bool.not_false, if_true, done, RegisterModel.serve, range, Request.reply]
      rfl
  | false =>
      obtain ⟨m, done⟩ := @answers_exception s unitId taken .illegalDataAddress 3 shows_
      rw [range] at invoked
      refine ⟨m, ?_⟩
      simp only [Bool.not_true, Bool.false_eq_true, if_false]
      rw [bind_of_ok (get_apply _), bind_of_ok invoked]
      simp only [Bool.false_eq_true, if_false, callbackException, done, RegisterModel.serve, range, Request.reply]
      rfl

theorem answers_write {address quantity : UInt16} {registers : Nat → UInt16}
    (wellFormed : (Request.write address quantity registers).wellFormed)
    (shows_ : s.msg.Shows (parsed unitId 16 taken)) :
    Answers (answerWriteMultipleRegisters platformConf callbacks ⟨address, quantity,
        (quantity * 2).toUInt8, (List.range' 0 quantity.toNat).map registers⟩) s
      (s.arg.model.serve (.write address quantity registers)).1
      ([unitId] ++ (Request.write address quantity registers).reply
        (s.arg.model.serve (.write address quantity registers)).2) := by
  obtain ⟨lowest, few, inside⟩ := wellFormed
  have sole : s.msg.broadcast = false := shows_.broadcast
  have space : inAddressSpace address quantity = true := decide_eq_true inside
  have count := toNat_double quantity (Nat.le_trans few (by decide))
  have bytes : (quantity * 2).toUInt8 ≠ 0 := fun zero => by
    rw [zero] at count
    exact absurd count (by simp; omega)
  have double : ¬ (quantity * 2).toUInt8.toNat ≠ quantity.toNat * 2 := by omega
  have invoked := invoke_write address quantity registers s
  unfold answerWriteMultipleRegisters
  rw [if_neg ((not_lt_or_gt 1 0x7B).mpr ⟨lowest, few⟩), space]
  simp only [Bool.not_true, Bool.false_eq_true, if_false, bytes, double]
  cases range : RegisterModel.containsRange address quantity with
  | true =>
      obtain ⟨m, done⟩ := @putEchoRes_of_write _ platformConf
        { s with arg := { s.arg with model := s.arg.model.write address quantity registers } } _ _
        address quantity shows_ rfl
      rw [range, if_pos rfl] at invoked
      refine ⟨m, ?_⟩
      rw [bind_of_ok (get_apply _), bind_of_ok invoked]
      simp only [sole, Bool.not_false, if_true, done, RegisterModel.serve, range, Request.reply]
      rfl
  | false =>
      obtain ⟨m, done⟩ := @answers_exception s unitId taken .illegalDataAddress 16 shows_
      rw [range] at invoked
      refine ⟨m, ?_⟩
      rw [bind_of_ok (get_apply _), bind_of_ok invoked]
      simp only [Bool.false_eq_true, if_false, callbackException, done, RegisterModel.serve, range, Request.reply]
      rfl

theorem answers_readWrite {readAddress readQuantity address quantity : UInt16}
    {registers : Nat → UInt16}
    (wellFormed : (Request.readWrite readAddress readQuantity address quantity registers).wellFormed)
    (shows_ : s.msg.Shows (parsed unitId 23 taken)) :
    Answers (answerReadWriteRegisters platformConf callbacks ⟨⟨address, quantity,
        (quantity * 2).toUInt8, (List.range' 0 quantity.toNat).map registers⟩, readAddress,
        readQuantity⟩) s
      (s.arg.model.serve (.readWrite readAddress readQuantity address quantity registers)).1
      ([unitId] ++ (Request.readWrite readAddress readQuantity address quantity registers).reply
        (s.arg.model.serve (.readWrite readAddress readQuantity address quantity registers)).2) := by
  obtain ⟨⟨readLowest, readFew, readInside⟩, lowest, few, inside⟩ := wellFormed
  have sole : s.msg.broadcast = false := shows_.broadcast
  have readSpace : inAddressSpace readAddress readQuantity = true := decide_eq_true readInside
  have space : inAddressSpace address quantity = true := decide_eq_true inside
  have count := toNat_double quantity (Nat.le_trans few (by decide))
  have double : ¬ (quantity * 2).toUInt8.toNat ≠ quantity.toNat * 2 := by omega
  have invoked := invoke_write address quantity registers s
  unfold answerReadWriteRegisters
  rw [if_neg ((not_lt_or_gt 1 0x7D).mpr ⟨readLowest, readFew⟩),
    if_neg ((not_lt_or_gt 1 0x7B).mpr ⟨lowest, Nat.le_trans few (by decide)⟩), readSpace, space]
  simp only [Bool.not_true, Bool.false_eq_true, if_false, double]
  cases range : RegisterModel.containsRange address quantity with
  | true =>
      rw [range, if_pos rfl] at invoked
      have read := invoke_read readAddress readQuantity
        { s with arg := { s.arg with model := s.arg.model.write address quantity registers } }
      cases readRange : RegisterModel.containsRange readAddress readQuantity with
      | true =>
          obtain ⟨m, done⟩ := @answers_registers
            { s with arg := { s.arg with model := s.arg.model.write address quantity registers } }
            unitId taken 23 (s.arg.model.write address quantity registers) readAddress readQuantity
            readFew shows_
          rw [readRange, if_pos rfl] at read
          refine ⟨m, ?_⟩
          rw [bind_of_ok (get_apply _), bind_of_ok invoked]
          simp only [sole, Bool.not_false, if_true]
          rw [bind_of_ok read]
          simp only [done, RegisterModel.serve, range, readRange, if_true, Request.reply]
          rfl
      | false =>
          obtain ⟨m, done⟩ := @answers_exception
            { s with arg := { s.arg with model := s.arg.model.write address quantity registers } }
            unitId taken .illegalDataAddress 23 shows_
          rw [readRange] at read
          refine ⟨m, ?_⟩
          rw [bind_of_ok (get_apply _), bind_of_ok invoked]
          simp only [sole, Bool.not_false, if_true]
          rw [bind_of_ok read]
          simp only [Bool.false_eq_true, if_false, callbackException, done, RegisterModel.serve, range,
            readRange, if_true, Request.reply]
          rfl
  | false =>
      obtain ⟨m, done⟩ := @answers_exception s unitId taken .illegalDataAddress 23 shows_
      rw [range] at invoked
      refine ⟨m, ?_⟩
      rw [bind_of_ok (get_apply _), bind_of_ok invoked]
      simp only [Bool.false_eq_true, if_false, callbackException, done, RegisterModel.serve, range, Request.reply]
      rfl

theorem handleReqFc_read (fc : s.msg.fc = 3) :
    handleReqFc platformConf callbacks s = handleReadHoldingRegisters platformConf callbacks s := by
  rw [handleReqFc, bind_of_ok (get_apply _), fc]
  rfl

theorem handleReqFc_write (fc : s.msg.fc = 16) :
    handleReqFc platformConf callbacks s = handleWriteMultipleRegisters platformConf callbacks s := by
  rw [handleReqFc, bind_of_ok (get_apply _), fc]
  rfl

theorem handleReqFc_readWrite (fc : s.msg.fc = 23) :
    handleReqFc platformConf callbacks s = handleReadWriteRegisters platformConf callbacks s := by
  rw [handleReqFc, bind_of_ok (get_apply _), fc]
  rfl

theorem handles (request : Request) (wellFormed : request.wellFormed)
    (shows_ : s.msg.Shows (headed unitId request.fc false false))
    (on : s.arg.fromClient = request.body ++ crc16 ([unitId, request.fc] ++ request.body)) :
    ∃ m, handleReqFc platformConf callbacks s = .ok () { s with
      msg := m
      arg := ⟨(s.arg.model.serve request).1, [],
        s.arg.toClient ++ framed ([unitId] ++ request.reply (s.arg.model.serve request).2)⟩ } := by
  have fc : s.msg.fc = request.fc := shows_.fc
  rw [← List.append_nil (crc16 _)] at on
  cases request with
  | read address quantity =>
      obtain ⟨m, taken, received, holds, after⟩ := recvTwoWords_of_queue (waits s) shows_ on
      obtain ⟨m', done⟩ := answers_read (s := { s with msg := m, arg := queue.drop 6 s.arg }) wellFormed holds
      have empty : s.arg.fromClient.drop 6 = [] := after
      have ours : m.ignored = false := holds.ignored
      refine ⟨m', ?_⟩
      rw [handleReqFc_read fc, handleReadHoldingRegisters, handleReadRegisters, bind_of_ok received]
      dsimp only
      rw [bind_of_ok (get_apply _)]
      simp only [ours, Bool.not_false, if_true, done]
      simp only [queue, empty]
  | write address quantity registers =>
      obtain ⟨m, taken, received, holds, after⟩ := recvWriteRequest_of_queue wellFormed.2.1 (waits s)
        shows_ on
      obtain ⟨m', done⟩ := answers_write
        (s := { s with msg := m, arg := queue.drop (7 + 2 * quantity.toNat) s.arg }) wellFormed holds
      have empty : s.arg.fromClient.drop (7 + 2 * quantity.toNat) = [] := after
      have ours : m.ignored = false := holds.ignored
      refine ⟨m', ?_⟩
      rw [handleReqFc_write fc, handleWriteMultipleRegisters, bind_of_ok received,
        bind_of_ok (get_apply _)]
      simp only [ours, Bool.not_false, if_true, done]
      simp only [queue, empty]
  | readWrite readAddress readQuantity address quantity registers =>
      obtain ⟨m, taken, received, holds, after⟩ := recvReadWriteRequest_of_queue wellFormed.2.2.1 (waits s)
        shows_ on
      obtain ⟨m', done⟩ := answers_readWrite
        (s := { s with msg := m, arg := queue.drop (11 + 2 * quantity.toNat) s.arg }) wellFormed holds
      have empty : s.arg.fromClient.drop (11 + 2 * quantity.toNat) = [] := after
      have ours : m.ignored = false := holds.ignored
      refine ⟨m', ?_⟩
      rw [handleReqFc_readWrite fc, handleReadWriteRegisters, bind_of_ok received,
        bind_of_ok (get_apply _)]
      simp only [ours, Bool.not_false, if_true, done]
      simp only [queue, empty]

variable {server : GripperServer}

structure Idle (server : GripperServer) : Prop where
  ours : server.nmbs.addressRtu ≠ broadcastAddress
  taken : server.nmbs.arg.fromClient = []
  sent : server.nmbs.arg.toClient = []
  sound : server.overrun = false

theorem deliver_request (idle : server.Idle) (request : Request) (wellFormed : request.wellFormed) :
    ∃ m, server.deliver (framed ([server.nmbs.addressRtu, request.fc] ++ request.body)) =
      ⟨{ server.nmbs with
          msg := m
          firstByteReceived := true
          arg := ⟨(server.nmbs.arg.model.serve request).1, [],
            framed ([server.nmbs.addressRtu] ++
              request.reply (server.nmbs.arg.model.serve request).2)⟩ }, false⟩ := by
  let arrived : Nmbs Impl := { server.nmbs with arg := { server.nmbs.arg with
    fromClient := framed ([server.nmbs.addressRtu, request.fc] ++ request.body) } }
  have on : queue.line arrived.arg = [arrived.addressRtu, request.fc] ++
      (request.body ++ crc16 ([server.nmbs.addressRtu, request.fc] ++ request.body)) := by
    simp [arrived, queue, framed]
  obtain ⟨m, holds, after, handler⟩ := nmbsServerPoll_of_queue callbacks (waits arrived) idle.ours on
  obtain ⟨m', done⟩ := @handles
    { arrived with msg := m, arg := queue.drop 2 arrived.arg, firstByteReceived := true } _
    request wellFormed holds after
  refine ⟨m', ?_⟩
  have polled : nmbsServerPoll platformConf callbacks { server.nmbs with arg := { server.nmbs.arg with
      fromClient := framed ([server.nmbs.addressRtu, request.fc] ++ request.body) } } = _ :=
    handler _ done
  simp only [deliver, withImpl, poll, idle.taken, List.nil_append, polled]
  simp only [arrived, idle.sent, idle.sound, queue, List.nil_append]

end GripperServer

/-! ## The client -/

def replyQueue : Queue (platformConf gripperSerial) where
  line context := context.serial.nmbs.arg.toClient
  drop n context := { context with
    serial := context.serial.withImpl fun impl => { impl with toClient := impl.toClient.drop n } }
  waits timeout := timeout ≠ 0
  line_drop _ _ := rfl
  drop_drop m n context := by simp [GripperServer.withImpl, List.drop_drop]
  read {timeout} waits n context := by
    simp [platformConf, readSerial, gripperSerial, waits, GripperServer.drain]

structure Connected (client : Nmbs (CallbackContext GripperServer)) : Prop where
  waits : replyQueue.Waits client
  unit : client.destAddressRtu = client.arg.serial.nmbs.addressRtu
  idle : client.arg.serial.Idle

variable {client : Nmbs (CallbackContext GripperServer)}

def answered (client : Nmbs (CallbackContext GripperServer)) (request : Request) (m : Message) :
    CallbackContext GripperServer :=
  { client.arg with serial := ⟨{ client.arg.serial.nmbs with
      msg := m
      firstByteReceived := true
      arg := ⟨(client.arg.serial.nmbs.arg.model.serve request).1, [],
        framed ([client.destAddressRtu] ++
          request.reply (client.arg.serial.nmbs.arg.model.serve request).2)⟩ }, false⟩ }

theorem deliver_answered (connected : Connected client) (request : Request)
    (wellFormed : request.wellFormed) :
    ∃ m, { client.arg with
        serial := client.arg.serial.deliver
          (framed ([client.destAddressRtu, request.fc] ++ request.body)) } = answered client request m := by
  obtain ⟨m, delivered⟩ := GripperServer.deliver_request connected.idle request wellFormed
  rw [← connected.unit] at delivered
  exact ⟨m, by rw [delivered]; rfl⟩

structure Ended (client client' : Nmbs (CallbackContext GripperServer)) (device : RegisterModel)
    (logged : List LogEntry) : Prop where
  connected : Connected client'
  device : client'.arg.serial.nmbs.arg.model = device
  log : client'.arg.log = client.arg.log ++ logged

theorem ended (connected : Connected client) {request : Request} {m m' : Message} {n : Nat}
    (used : replyQueue.line (replyQueue.drop n (answered client request m')) = []) :
    Ended client { client with
        msg := m
        arg := replyQueue.drop n (answered client request m')
        firstByteReceived := true } (client.arg.serial.nmbs.arg.model.serve request).1 [] where
  connected := ⟨⟨connected.waits.byte, connected.waits.first⟩, connected.unit,
    ⟨connected.idle.ours, rfl, used, rfl⟩⟩
  device := rfl
  log := (List.append_nil _).symm

theorem call_serve (connected : Connected client) (request : Request) (wellFormed : request.wellFormed) :
    ∃ client', request.call (platformConf gripperSerial) client =
        outcome client' (client.arg.serial.nmbs.arg.model.serve request).2 ∧
      Ended client client' (client.arg.serial.nmbs.arg.model.serve request).1 [] := by
  obtain ⟨m₀, delivered⟩ := deliver_answered connected request wellFormed
  have single : client.destAddressRtu ≠ broadcastAddress := connected.unit ▸ connected.idle.ours
  have empty : (platformConf gripperSerial).read bufferBytes 0 client.arg = (some [], client.arg) := rfl
  obtain ⟨m₁, flushed⟩ := flush_of_read empty (Nat.zero_le _)
  obtain ⟨m₂, holds₂, calls⟩ := request.call_asks wellFormed flushed
  have write : (platformConf gripperSerial).write
      (framed ([client.destAddressRtu, request.fc] ++ request.body)) client.byteTimeoutMs client.arg =
        (some (framed ([client.destAddressRtu, request.fc] ++ request.body)).length,
          answered client request m₀) := by
    rw [← delivered]
    rfl
  obtain ⟨m₃, sent, holds₃⟩ := @sendMsg_of_write _ _ { client with msg := m₂, arg := client.arg } _
    (answered client request m₀) holds₂ (Request.length_message wellFormed _) write
  have waiting : replyQueue.Waits { client with msg := m₃, arg := answered client request m₀ } :=
    ⟨connected.waits.byte, connected.waits.first⟩
  have unitId : m₃.unitId = client.destAddressRtu := holds₃.unitId
  have on : replyQueue.line (answered client request m₀) = framed ([m₃.unitId] ++
      request.reply (client.arg.serial.nmbs.arg.model.serve request).2) ++ [] := by
    rw [List.append_nil, unitId]
    rfl
  obtain ⟨m₄, n, received, after⟩ := Request.response_of_queue wellFormed
    (fun _ => RegisterModel.serve_length) waiting holds₃.fc (holds₃.broadcast.trans (decide_eq_false single))
    on
  exact ⟨_, calls.trans ((bind_of_ok sent).trans received), ended connected after⟩

end TactileSensors.Gripper
