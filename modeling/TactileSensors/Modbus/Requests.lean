import TactileSensors.Modbus.Client
import TactileSensors.Modbus.Line

/-!
# Requests and their replies

What the three calls of the client have in common: each flushes the line, sends one frame and waits for
the response to it.
-/

namespace TactileSensors.Modbus
open ForceTorque Machine

variable {σ : Type} (io : Platform σ)

def awaitWritten (address quantity : UInt16) : Call σ Unit := do
  let s ← get
  if !s.msg.broadcast then recvWriteMultipleRegistersRes io address quantity

inductive Request
  | read (address quantity : UInt16)
  | write (address quantity : UInt16) (registers : Nat → UInt16)
  | readWrite (readAddress readQuantity address quantity : UInt16) (registers : Nat → UInt16)

namespace Request

def wellFormed : Request → Prop
  | read address quantity => 1 ≤ quantity.toNat ∧ quantity.toNat ≤ 125 ∧
      address.toNat + quantity.toNat ≤ 65536
  | write address quantity _ => 1 ≤ quantity.toNat ∧ quantity.toNat ≤ 0x7B ∧
      address.toNat + quantity.toNat ≤ 65536
  | readWrite readAddress readQuantity address quantity _ =>
      (1 ≤ readQuantity.toNat ∧ readQuantity.toNat ≤ 0x7D ∧
        readAddress.toNat + readQuantity.toNat ≤ 65536) ∧
      1 ≤ quantity.toNat ∧ quantity.toNat ≤ 0x79 ∧ address.toNat + quantity.toNat ≤ 65536

instance : (request : Request) → Decidable request.wellFormed
  | read address quantity => inferInstanceAs (Decidable (1 ≤ quantity.toNat ∧ quantity.toNat ≤ 125 ∧
      address.toNat + quantity.toNat ≤ 65536))
  | write address quantity _ => inferInstanceAs (Decidable (1 ≤ quantity.toNat ∧ quantity.toNat ≤ 0x7B ∧
      address.toNat + quantity.toNat ≤ 65536))
  | readWrite readAddress readQuantity address quantity _ =>
      inferInstanceAs (Decidable ((1 ≤ readQuantity.toNat ∧ readQuantity.toNat ≤ 0x7D ∧
        readAddress.toNat + readQuantity.toNat ≤ 65536) ∧
        1 ≤ quantity.toNat ∧ quantity.toNat ≤ 0x79 ∧ address.toNat + quantity.toNat ≤ 65536))

def fc : Request → UInt8
  | read .. => 3
  | write .. => 16
  | readWrite .. => 23

def body : Request → List UInt8
  | read address quantity => bytesOf address ++ bytesOf quantity
  | write address quantity registers => bytesOf address ++ written quantity registers
  | readWrite readAddress readQuantity address quantity registers =>
      bytesOf readAddress ++ bytesOf readQuantity ++ bytesOf address ++ written quantity registers

def asked : Request → Nat
  | read _ quantity => quantity.toNat
  | write .. => 0
  | readWrite _ readQuantity _ _ _ => readQuantity.toNat

def reply : Request → Except NmbsException (List UInt16) → List UInt8
  | request, .error e => [request.fc + 0x80, e.code]
  | write address quantity _, .ok _ => [16] ++ bytesOf address ++ bytesOf quantity
  | read _ quantity, .ok registers => [3, (quantity * 2).toUInt8] ++ registers.flatMap bytesOf
  | readWrite _ readQuantity _ _ _, .ok registers =>
      [23, (readQuantity * 2).toUInt8] ++ registers.flatMap bytesOf

def call : Request → Call σ (List UInt16)
  | read address quantity => nmbsReadHoldingRegisters io address quantity
  | write address quantity registers => do
      nmbsWriteMultipleRegisters io address quantity registers
      return []
  | readWrite readAddress readQuantity address quantity registers =>
      nmbsReadWriteRegisters io readAddress readQuantity address quantity registers

def response : Request → Call σ (List UInt16)
  | read _ quantity => recvReadRegistersRes io quantity
  | write address quantity _ => do
      awaitWritten io address quantity
      return []
  | readWrite _ readQuantity _ _ _ => recvReadRegistersRes io readQuantity

end Request

variable {io} {s s' : Nmbs σ}

theorem awaitWritten_of_single {address quantity : UInt16} (single : s.msg.broadcast = false) :
    awaitWritten io address quantity s = recvWriteMultipleRegistersRes io address quantity s := by
  rw [awaitWritten, bind_of_ok (get_apply _)]
  simp only [single, Bool.not_false, if_true]

theorem Request.response_of_no_read (request : Request) {arg : σ} (single : s.msg.broadcast = false)
    (first : io.read 1 s.readTimeoutMs s.arg = (none, arg)) :
    ∃ m, request.response io s =
      .error (.error .transport) { s with msg := m, arg, firstByteReceived := false } := by
  obtain ⟨m, unread⟩ := recvMsgHeader_of_no_read first
  have header : recvResHeader io s =
      .error (.error .transport) { s with msg := m, arg, firstByteReceived := false } :=
    (bind_of_ok (get_apply _)).trans (bind_of_error unread)
  refine ⟨m, ?_⟩
  cases request with
  | read address quantity => exact bind_of_error header
  | write address quantity registers =>
      exact bind_of_error ((awaitWritten_of_single single).trans (bind_of_error header))
  | readWrite readAddress readQuantity address quantity registers => exact bind_of_error header

theorem not_lt_or_gt {quantity : UInt16} (low high : UInt16) :
    ¬ (quantity < low ∨ quantity > high) ↔ low.toNat ≤ quantity.toNat ∧ quantity.toNat ≤ high.toNat := by
  rw [not_or, UInt16.not_lt, gt_iff_lt, UInt16.not_lt, UInt16.le_iff_toNat_le, UInt16.le_iff_toNat_le]

theorem within_space {address quantity : UInt16} (inside : address.toNat + quantity.toNat ≤ 65536) :
    ¬ ¬ inAddressSpace address quantity = true :=
  not_not.mpr (decide_eq_true inside)

theorem of_not_not_within {address quantity : UInt16} (inside : ¬ ¬ inAddressSpace address quantity = true) :
    address.toNat + quantity.toNat ≤ 65536 :=
  of_decide_eq_true (not_not.mp inside)

theorem Request.call_of_illFormed {request : Request} (illFormed : ¬ request.wellFormed) :
    request.call io s = .error (.error .invalidArgument) s := by
  cases request with
  | read address quantity =>
      refine rejectIf_bind_of fun fits => rejectIf_bind_of fun inside => ?_
      obtain ⟨lowest, few⟩ := (not_lt_or_gt 1 125).mp fits
      exact absurd ⟨lowest, few, of_not_not_within inside⟩ illFormed
  | write address quantity registers =>
      refine bind_of_error (rejectIf_bind_of fun fits => rejectIf_bind_of fun inside => ?_)
      obtain ⟨lowest, few⟩ := (not_lt_or_gt 1 0x7B).mp fits
      exact absurd ⟨lowest, few, of_not_not_within inside⟩ illFormed
  | readWrite readAddress readQuantity address quantity registers =>
      refine rejectIf_bind_of fun readFits => rejectIf_bind_of fun readInside =>
        rejectIf_bind_of fun fits => rejectIf_bind_of fun inside => ?_
      obtain ⟨readLowest, readFew⟩ := (not_lt_or_gt 1 0x7D).mp readFits
      obtain ⟨lowest, few⟩ := (not_lt_or_gt 1 0x79).mp fits
      exact absurd ⟨⟨readLowest, readFew, of_not_not_within readInside⟩, lowest, few,
        of_not_not_within inside⟩ illFormed

def Request.message (request : Request) (unitId : UInt8) : View :=
  { unitId, fc := request.fc, broadcast := unitId = broadcastAddress, ignored := false
    taken := [unitId, request.fc] ++ request.body, ahead := [] }

theorem Request.length_message {request : Request} (wellFormed : request.wellFormed) (unitId : UInt8) :
    (request.message unitId).taken.length + 2 ≤ bufferBytes := by
  cases request with
  | read address quantity => exact show 6 + 2 ≤ 260 by decide
  | write address quantity registers =>
      obtain ⟨-, few, -⟩ := wellFormed
      simp [message, body, bytesOf, length_written, bufferBytes]
      omega
  | readWrite readAddress readQuantity address quantity registers =>
      obtain ⟨-, -, few, -⟩ := wellFormed
      simp [message, body, bytesOf, length_written, bufferBytes]
      omega

theorem Request.call_asks {m₀ : Message} {mid : σ} (request : Request) (wellFormed : request.wellFormed)
    (flushed : flush io s = .ok () { s with msg := m₀, arg := mid }) :
    ∃ m, m.Shows (request.message s.destAddressRtu) ∧ request.call io s =
      (do sendMsg io; request.response io : Call σ (List UInt16)) { s with msg := m, arg := mid } := by
  obtain ⟨m₁, started, holds₁⟩ := msgStateReq_of_flush request.fc flushed
  cases request with
  | read address quantity =>
      obtain ⟨lowest, few, inside⟩ := wellFormed
      obtain ⟨m₂, puts, holds₂⟩ := putWords_shows (s := { s with msg := m₁, arg := mid })
        (do sendMsg io; recvReadRegistersRes io quantity) address quantity holds₁
      refine ⟨m₂, holds₂, ?_⟩
      rw [call, nmbsReadHoldingRegisters, readRegisters,
        bind_of_ok (rejectIf_of_not ((not_lt_or_gt 1 125).mpr ⟨lowest, few⟩) _ _),
        bind_of_ok (rejectIf_of_not (within_space inside) _ _)]
      exact (bind_of_ok started).trans puts
  | write address quantity registers =>
      obtain ⟨lowest, few, inside⟩ := wellFormed
      obtain ⟨m₂, puts, holds₂⟩ := putWrite_shows (s := { s with msg := m₁, arg := mid })
        (do sendMsg io; awaitWritten io address quantity) address holds₁ few
      refine ⟨m₂, holds₂, ?_⟩
      have calls : nmbsWriteMultipleRegisters io address quantity registers s =
          (do sendMsg io; awaitWritten io address quantity : Call σ Unit)
            { s with msg := m₂, arg := mid } := by
        rw [nmbsWriteMultipleRegisters,
          bind_of_ok (rejectIf_of_not ((not_lt_or_gt 1 0x7B).mpr ⟨lowest, few⟩) _ _),
          bind_of_ok (rejectIf_of_not (within_space inside) _ _)]
        exact (bind_of_ok started).trans puts
      rw [call, bind_apply_congr calls, bind_assoc_apply]
      rfl
  | readWrite readAddress readQuantity address quantity registers =>
      obtain ⟨⟨readLowest, readFew, readInside⟩, lowest, few, inside⟩ := wellFormed
      obtain ⟨m₂, puts, holds₂⟩ := putReadWrite_shows (s := { s with msg := m₁, arg := mid })
        (do sendMsg io; recvReadRegistersRes io readQuantity) readAddress readQuantity address holds₁ few
      refine ⟨m₂, holds₂, ?_⟩
      rw [call, nmbsReadWriteRegisters,
        bind_of_ok (rejectIf_of_not ((not_lt_or_gt 1 0x7D).mpr ⟨readLowest, readFew⟩) _ _),
        bind_of_ok (rejectIf_of_not (within_space readInside) _ _),
        bind_of_ok (rejectIf_of_not ((not_lt_or_gt 1 0x79).mpr ⟨lowest, few⟩) _ _),
        bind_of_ok (rejectIf_of_not (within_space inside) _ _)]
      exact (bind_of_ok started).trans puts

end TactileSensors.Modbus
