import Mathlib.Order.Defs.Unbundled
import TactileSensors.Modbus.Server

/-!
# What a call does beyond its message

A call reaches what the platform's argument points to only through the platform's reads and writes: a
preorder that these keep to is kept to by every call that runs no callback.
-/

namespace TactileSensors.Modbus
open Machine

variable {σ : Type} {α β : Type} (R : σ → σ → Prop)

class Platform.Keeps (io : Platform σ) : Prop where
  read : ∀ n timeout arg, R arg (io.read n timeout arg).2
  write : ∀ data timeout arg, R arg (io.write data timeout arg).2

structure Follows (s s' : Nmbs σ) : Prop where
  arg : R s.arg s'.arg
  addressRtu : s'.addressRtu = s.addressRtu

class Leaves (call : Call σ α) : Prop where
  follows : ∀ s, Follows R s (caught (call s)).2

variable {R}

theorem leaves_invoke {callback : σ → Except NmbsError α × σ} (keep : ∀ arg, R arg (callback arg).2) :
    Leaves R (invoke callback) :=
  ⟨fun s => ⟨keep s.arg, rfl⟩⟩

variable {io : Platform σ} [IsPreorder σ R]

theorem Follows.trans {s mid s' : Nmbs σ} (first : Follows R s mid) (rest : Follows R mid s') :
    Follows R s s' :=
  ⟨IsTrans.trans _ _ _ first.arg rest.arg, rest.addressRtu.trans first.addressRtu⟩

instance {x : Call σ α} {f : α → Call σ β} [first : Leaves R x] [rest : ∀ a, Leaves R (f a)] :
    Leaves R (x >>= f) where
  follows s := by
    have before := first.follows s
    cases done : x s with
    | ok a mid =>
        rw [done] at before
        rw [bind_of_ok done]
        exact before.trans ((rest a).follows mid)
    | error stop mid =>
        rw [done] at before
        rw [bind_of_error done]
        exact before

instance {ε : Type} {x : Call σ (Except ε α)} {f : Except ε α → Call σ β} [Leaves R x]
    [failed : ∀ err, Leaves R (f (.error err))] [done : ∀ a, Leaves R (f (.ok a))] :
    Leaves R (x >>= f) :=
  have (answer : Except ε α) : Leaves R (f answer) := by
    cases answer with
    | error err => exact failed err
    | ok a => exact done a
  inferInstance

theorem leaves_bind {x : Call σ α} {f : α → Call σ β} [Leaves R x] (rest : ∀ a, Leaves R (f a)) :
    Leaves R (x >>= f) :=
  inferInstance

instance {x : Call σ α} [first : Leaves R x] : Leaves R (discard x) where
  follows s := by
    have before := first.follows s
    change Follows R s (caught (EStateM.map (fun _ => ()) x s)).2
    unfold EStateM.map
    cases done : x s <;> (rw [done] at before; exact before)

theorem leaves_of_message {call : Call σ α} (arg : ∀ s, (caught (call s)).2.arg = s.arg)
    (addressRtu : ∀ s, (caught (call s)).2.addressRtu = s.addressRtu) : Leaves R call :=
  ⟨fun s => ⟨(arg s).symm ▸ refl s.arg, addressRtu s⟩⟩

instance (a : α) : Leaves R (pure a : Call σ α) :=
  leaves_of_message (fun _ => rfl) fun _ => rfl

instance (stop : Stop) : Leaves R (throw stop : Call σ α) :=
  leaves_of_message (fun _ => rfl) fun _ => rfl

instance (err : NmbsError) : Leaves R (fail err : Call σ α) :=
  leaves_of_message (fun _ => rfl) fun _ => rfl

instance : Leaves R (get : Call σ (Nmbs σ)) :=
  leaves_of_message (fun _ => rfl) fun _ => rfl

instance {c : Prop} [Decidable c] {x y : Call σ α} [Leaves R x] [Leaves R y] :
    Leaves R (if c then x else y) := by
  split <;> infer_instance

instance {g : Nmbs σ → Message → Message} :
    Leaves R (modify fun s => s.withMsg (g s) : Call σ PUnit) :=
  leaves_of_message (fun _ => rfl) fun _ => rfl

instance {received : Bool} :
    Leaves R (modify fun s => { s with firstByteReceived := received } : Call σ PUnit) :=
  leaves_of_message (fun _ => rfl) fun _ => rfl

theorem leaves_modify {f : Nmbs σ → Nmbs σ} (arg : ∀ s, (f s).arg = s.arg)
    (addressRtu : ∀ s, (f s).addressRtu = s.addressRtu) : Leaves R (modify f : Call σ PUnit) :=
  leaves_of_message arg addressRtu

instance {c : Prop} [Decidable c] {err : NmbsError} : Leaves R (rejectIf c err : Call σ Unit) := by
  unfold rejectIf fail
  infer_instance

/-! ## Steps -/

instance : Leaves R (get1 : Call σ UInt8) :=
  leaves_of_message (fun s => by unfold get1; split <;> rfl) fun s => by unfold get1; split <;> rfl

instance : Leaves R (get2 : Call σ UInt16) :=
  leaves_of_message (fun s => by unfold get2; split <;> rfl) fun s => by unfold get2; split <;> rfl

instance {bytes : List UInt8} : Leaves R (put bytes : Call σ Unit) :=
  leaves_of_message (fun s => by unfold put; split <;> rfl) fun s => by unfold put; split <;> rfl

instance {data : UInt8} : Leaves R (put1 data : Call σ Unit) :=
  inferInstanceAs (Leaves R (put [data]))

instance {data : UInt16} : Leaves R (put2 data : Call σ Unit) :=
  inferInstanceAs (Leaves R (put [((data >>> 8) &&& 0xFF).toUInt8, data.toUInt8]))

instance {n : Nat} : Leaves R (discardN n : Call σ Unit) :=
  leaves_of_message (fun _ => rfl) fun _ => rfl

instance {n : Nat} : Leaves R (swapRegs n : Call σ Unit) :=
  leaves_of_message (fun s => by unfold swapRegs; dsimp only; split <;> rfl)
    fun s => by unfold swapRegs; dsimp only; split <;> rfl

instance : Leaves R (msgBufReset : Call σ Unit) :=
  leaves_of_message (fun _ => rfl) fun _ => rfl

instance : Leaves R (msgStateReset : Call σ Unit) :=
  leaves_of_message (fun _ => rfl) fun _ => rfl

instance : Leaves R (msgCrc : Call σ UInt16) :=
  leaves_of_message (fun s => by unfold msgCrc; split <;> rfl) fun s => by unfold msgCrc; split <;> rfl

instance {n : Nat} : Leaves R (getBytes n : Call σ (List UInt8)) := by
  induction n with
  | zero => exact inferInstanceAs (Leaves R (pure []))
  | succ n ih =>
      unfold getBytes
      infer_instance

instance {n : Nat} : Leaves R (getRegisters n : Call σ (List UInt16)) := by
  induction n with
  | zero => exact inferInstanceAs (Leaves R (pure []))
  | succ n ih =>
      unfold getRegisters
      infer_instance

instance {registers : Nat → UInt16} {i n : Nat} : Leaves R (putRegisters registers i n : Call σ Unit) := by
  induction n generalizing i with
  | zero => exact inferInstanceAs (Leaves R (pure ()))
  | succ n ih =>
      unfold putRegisters
      infer_instance

-- a call is searched step by step
set_option synthInstance.maxSize 4000

variable [keeps : io.Keeps R]

instance {timeout : Int} {count : Nat} : Leaves R (recvWithin io timeout count) where
  follows s := by
    have read := keeps.read count timeout s.arg
    unfold recvWithin
    split
    · rename_i arg same
      rw [same] at read
      exact ⟨read, rfl⟩
    · rename_i data arg same
      rw [same] at read
      split
      · dsimp only
        split
        · exact ⟨read, rfl⟩
        · split <;> exact ⟨read, rfl⟩
      · exact ⟨read, rfl⟩

instance {count : Nat} : Leaves R (recv io count) where
  follows s :=
    have within : Leaves R (recvWithin io s.byteTimeoutMs count) := inferInstance
    within.follows s

instance {count : Nat} : Leaves R (send io count) where
  follows s := by
    have write := keeps.write (s.msg.slice 0 count) s.byteTimeoutMs s.arg
    unfold send
    split
    · split
      · rename_i arg same
        rw [same] at write
        exact ⟨write, rfl⟩
      · rename_i written arg same
        rw [same] at write
        split
        · exact ⟨write, rfl⟩
        · split <;> exact ⟨write, rfl⟩
    · exact ⟨refl _, rfl⟩

instance : Leaves R (flush io) where
  follows s := by
    have read := keeps.read bufferBytes 0 s.arg
    unfold flush
    split
    · rename_i arg same
      rw [same] at read
      exact ⟨read, rfl⟩
    · rename_i data arg same
      rw [same] at read
      split <;> exact ⟨read, rfl⟩

instance : Leaves R (recvMsgFooter io) := by
  unfold recvMsgFooter
  infer_instance

instance : Leaves R (recvMsgHeader io) := by
  unfold recvMsgHeader
  infer_instance

instance : Leaves R (putMsgHeader : Call σ Unit) := by
  unfold putMsgHeader
  infer_instance

instance : Leaves R (sendMsg io) := by
  unfold sendMsg
  infer_instance

/-! ## Responses -/

instance {reqFc fc : UInt8} : Leaves R (recvResException io reqFc fc) := by
  have ended (exception : UInt8) : Leaves R (match NmbsException.ofCode exception with
      | some e => fail (.exception e)
      | none => fail .invalidResponse : Call σ Unit) := by
    split <;> infer_instance
  unfold recvResException
  infer_instance

instance : Leaves R (recvResHeader io) := by
  unfold recvResHeader
  infer_instance

instance : Leaves R (recvReadDiscreteRes io) := by
  unfold recvReadDiscreteRes
  infer_instance

instance {quantity : UInt16} : Leaves R (recvReadRegistersRes io quantity) := by
  unfold recvReadRegistersRes
  infer_instance

instance {first second : UInt16} : Leaves R (recvEchoRes io first second) := by
  unfold recvEchoRes
  infer_instance

instance {address quantity : UInt16} : Leaves R (recvWriteMultipleRegistersRes io address quantity) :=
  inferInstanceAs (Leaves R (recvEchoRes io address quantity))

instance : Leaves R (recvReadFileRecordRes io) := by
  unfold recvReadFileRecordRes
  infer_instance

instance : Leaves R (recvWriteFileRecordRes io) := by
  unfold recvWriteFileRecordRes
  infer_instance

instance {left : UInt8} {n : Nat} : Leaves R (recvObjects io left n) := by
  induction n generalizing left with
  | zero => exact inferInstanceAs (Leaves R (pure ()))
  | succ n ih =>
      unfold recvObjects
      infer_instance

instance : Leaves R (recvReadDeviceIdentificationRes io) := by
  unfold recvReadDeviceIdentificationRes
  infer_instance

/-! ## Requests -/

instance : Leaves R (recvReqHeader io) := by
  have marked : Leaves R (modify fun s : Nmbs σ =>
      if s.msg.unitId = broadcastAddress then s.withMsg fun m => { m with broadcast := true }
      else s.withMsg fun m => { m with ignored := m.unitId ≠ s.addressRtu } : Call σ PUnit) :=
    leaves_modify (fun s => by split <;> rfl) fun s => by split <;> rfl
  unfold recvReqHeader
  infer_instance

instance {exception : NmbsException} : Leaves R (sendExceptionMsg io exception) := by
  unfold sendExceptionMsg
  infer_instance

instance {quantity : UInt16} {registers : List UInt16} : Leaves R (putRegistersRes io quantity registers) := by
  unfold putRegistersRes
  infer_instance

instance {first second : UInt16} : Leaves R (putEchoRes io first second) := by
  unfold putEchoRes
  infer_instance

/-! ## Handlers -/

instance : Leaves R (recvTwoWords io) := by
  unfold recvTwoWords
  infer_instance

instance : Leaves R (handleReadDiscrete io) := by
  refine leaves_bind fun words => ?_
  dsimp only
  infer_instance

instance : Leaves R (handleWriteSingleCoil io) := by
  refine leaves_bind fun words => ?_
  dsimp only [recvWriteSingleCoilRes]
  infer_instance

instance : Leaves R (handleWriteSingleRegister io) := by
  refine leaves_bind fun words => ?_
  dsimp only [recvWriteSingleRegisterRes]
  infer_instance

instance : Leaves R (handleWriteMultipleCoils io) := by
  unfold handleWriteMultipleCoils recvWriteMultipleCoilsRes
  infer_instance

theorem leaves_answerReadRegisters
    {callback : Option (UInt16 → UInt16 → σ → Except NmbsError (List UInt16) × σ)}
    {address quantity : UInt16} (keep : ∀ read ∈ callback, ∀ arg, R arg (read address quantity arg).2) :
    Leaves R (answerReadRegisters io callback address quantity) := by
  unfold answerReadRegisters
  cases callback with
  | none => infer_instance
  | some read =>
      have called : Leaves R (invoke (read address quantity)) := leaves_invoke (keep read rfl)
      infer_instance

theorem leaves_handleReadRegisters
    {callback : Option (UInt16 → UInt16 → σ → Except NmbsError (List UInt16) × σ)}
    (keep : ∀ read ∈ callback, ∀ address quantity arg, R arg (read address quantity arg).2) :
    Leaves R (handleReadRegisters io callback) := by
  refine leaves_bind fun words => ?_
  have answered : Leaves R (answerReadRegisters io callback words.1 words.2) :=
    leaves_answerReadRegisters fun read member => keep read member _ _
  dsimp only
  infer_instance

instance : Leaves R (getSubRequest : Call σ FileSubRequest) := by
  unfold getSubRequest
  infer_instance

instance {n : Nat} : Leaves R (getSubRequests n : Call σ (List FileSubRequest)) := by
  induction n with
  | zero => exact inferInstanceAs (Leaves R (pure []))
  | succ n ih =>
      unfold getSubRequests
      infer_instance

instance {size : UInt16} {fuel : Nat} : Leaves R (checkRecords size fuel : Call σ _) := by
  induction fuel generalizing size with
  | zero => exact inferInstanceAs (Leaves R (throw Stop.outOfBounds))
  | succ fuel ih =>
      unfold checkRecords
      infer_instance

instance : Leaves R (handleReadFileRecord io) := by
  refine leaves_bind fun _ => leaves_bind fun requestSize => leaves_bind fun _ => leaves_bind fun _ => ?_
  infer_instance

instance : Leaves R (handleWriteFileRecord io) := by
  refine leaves_bind fun _ => leaves_bind fun requestSize => leaves_bind fun _ => leaves_bind fun _ =>
    leaves_bind fun start => ?_
  have answered (refused : Option NmbsException) : Leaves R (match refused with
      | some exception => sendExceptionMsg io exception
      | none => do
          modify fun s => s.withMsg fun m => { m with bufIdx := start.msg.bufIdx }
          let subreq ← getSubRequest
          swapRegs subreq.recordLength.toNat
          sendExceptionMsg io .illegalFunction) := by
    cases refused <;> infer_instance
  infer_instance

instance : Leaves R (recvWriteRequest io) := by
  unfold recvWriteRequest
  infer_instance

instance : Leaves R (recvReadWriteRequest io) := by
  unfold recvReadWriteRequest
  infer_instance

instance : Leaves R (handleReadDeviceIdentification io) := by
  unfold handleReadDeviceIdentification
  infer_instance

theorem handleReqFc_follows {callbacks : Callbacks σ} {s : Nmbs σ}
    (keep : ∀ address quantity arg, R arg (callbacks.readHoldingRegisters address quantity arg).2)
    (other : s.msg.fc ≠ 16 ∧ s.msg.fc ≠ 23) : Follows R s (caught (handleReqFc io callbacks s)).2 := by
  have holding : Leaves R (handleReadHoldingRegisters io callbacks) :=
    leaves_handleReadRegisters fun read member => by cases member; exact keep
  have inputs : Leaves R (handleReadInputRegisters io) := leaves_handleReadRegisters nofun
  have coils : Leaves R (handleReadCoils io) := inferInstanceAs (Leaves R (handleReadDiscrete io))
  have discretes : Leaves R (handleReadDiscreteInputs io) :=
    inferInstanceAs (Leaves R (handleReadDiscrete io))
  obtain ⟨notWrite, notReadWrite⟩ := other
  rw [handleReqFc, bind_of_ok (get_apply _)]
  simp only [notWrite, notReadWrite, if_false]
  refine Leaves.follows s

end TactileSensors.Modbus
