import TactileSensors.Modbus.Acceptance
import TactileSensors.Modbus.Execution

/-!
# Requests that are taken

A request a server has received is a frame that was on the line, with its CRC, whatever is done with it.
-/

namespace TactileSensors.Modbus
open ForceTorque Machine

variable {σ : Type} {io : Platform σ} {s s' : Nmbs σ}

theorem recvReqHeader_eq_ok (received : recvReqHeader io s = .ok () s') :
    ∃ unitId fc ignored arg m, Took io s.arg [unitId, fc] arg ∧
      s' = { s with msg := m, arg, firstByteReceived := true } ∧
      m.Shows (headed unitId fc (unitId = broadcastAddress) ignored) ∧
      (ignored = false → unitId = s.addressRtu ∨ unitId = broadcastAddress) := by
  obtain ⟨_, t, header, marked⟩ := bind_eq_ok.mp received
  obtain ⟨unitId, fc, mid, arg, m, first, second, rfl, holds⟩ := recvMsgHeader_eq_ok header
  have took : Took io s.arg [unitId, fc] arg := (Took.read [unitId] first).trans (.read [fc] second)
  have unit : m.unitId = unitId := holds.unitId
  rw [modify_apply] at marked
  dsimp only at marked
  split at marked
  · rename_i all
    cases marked
    have broadcast : decide (unitId = broadcastAddress) = true := decide_eq_true (unit ▸ all)
    refine ⟨unitId, fc, false, arg, _, took, rfl, ?_, fun _ => .inr (unit ▸ all)⟩
    rw [broadcast]
    exact { holds with broadcast := rfl }
  · rename_i single
    cases marked
    have broadcast : decide (unitId = broadcastAddress) = false := decide_eq_false (unit ▸ single)
    refine ⟨unitId, fc, decide (m.unitId ≠ s.addressRtu), arg, _, took, rfl, ?_, fun ours => .inl ?_⟩
    · rw [broadcast]
      exact { holds with ignored := rfl }
    · exact unit ▸ not_not.mp (of_decide_eq_false ours)

variable {unitId fc : UInt8} {broadcast ignored : Bool}

def WriteRequest.request (request : WriteRequest) : Request :=
  .write request.address request.quantity fun i => request.registers.getD i 0

theorem written_of_twice {quantity : UInt16} {count : UInt8} {data : List UInt8}
    (twice : count.toNat = quantity.toNat * 2) (whole : data.length = count.toNat) :
    written quantity (fun i => (wordsOf data).getD i 0) = bytesOf quantity ++ [count] ++ data := by
  have even : data.length = 2 * quantity.toNat := by omega
  have byte : (quantity * 2).toUInt8 = count := by
    rw [double_eq_ofNat, ← even, whole, UInt8.ofNat_toNat]
  rw [written_eq, byte, registersBody_eq, map_range'_getD (length_wordsOf even), bytesOf_wordsOf even]

theorem recvWriteRequest_eq_ok {request : WriteRequest}
    (shows_ : s.msg.Shows (headed unitId fc broadcast ignored))
    (received : recvWriteRequest io s = .ok request s')
    (twice : request.registersBytes.toNat = request.quantity.toNat * 2) :
    ∃ arg m, Took io s.arg
        (request.request.body ++ crc16 ([unitId, fc] ++ request.request.body)) arg ∧
      s' = { s with msg := m, arg } ∧ m.broadcast = broadcast ∧ m.ignored = ignored := by
  obtain ⟨_, t, five, received⟩ := bind_eq_ok.mp received
  obtain ⟨front, arg₁, m₁, length, read₁, rfl, holds₁⟩ := recvWithin_eq_ok shows_ five
  obtain ⟨a, b, c, d, e, rfl⟩ : ∃ a b c d e, front = [a, b, c, d, e] := by
    match front, length with
    | [a, b, c, d, e], _ => exact ⟨a, b, c, d, e, rfl⟩
  obtain ⟨m₂, got₂, holds₂⟩ := @get2_shows _ { s with msg := m₁, arg := arg₁ } _ a b [c, d, e] holds₁ rfl
  obtain ⟨m₃, got₃, holds₃⟩ := @get2_shows _ { s with msg := m₂, arg := arg₁ } _ c d [e] holds₂ rfl
  obtain ⟨m₄, got₄, holds₄⟩ := @get1_shows _ { s with msg := m₃, arg := arg₁ } _ e [] holds₃ rfl
  rw [bind_of_ok got₂, bind_of_ok got₃, bind_of_ok got₄] at received
  obtain ⟨_, t, all, received⟩ := bind_eq_ok.mp received
  obtain ⟨data, arg₂, m₅, whole, read₂, rfl, holds₅⟩ := recvWithin_eq_ok holds₄ all
  obtain ⟨-, received⟩ := rejectIf_bind_eq_ok received
  obtain ⟨m₆, words, holds₆⟩ := @getRegisters_shows _ { s with msg := m₅, arg := arg₂ } _ (e.toNat / 2)
    holds₅ (show 2 * (e.toNat / 2) ≤ data.length by omega)
  rw [bind_of_ok words] at received
  obtain ⟨_, t, footer, received⟩ := bind_eq_ok.mp received
  obtain ⟨arg, m, read₃, rfl, holds⟩ := recvMsgFooter_eq_ok holds₆ footer
  cases received
  dsimp only at twice
  have half : 2 * (e.toNat / 2) = data.length := by omega
  have body : (WriteRequest.request ⟨word a b, word c d, e, wordsOf (data.take (2 * (e.toNat / 2)))⟩).body =
      [a, b, c, d, e] ++ data := by
    rw [half, List.take_length, WriteRequest.request, Request.body, written_of_twice twice whole,
      bytesOf_word, bytesOf_word]
    rfl
  have payload : (((((headed unitId fc broadcast ignored).receive [a, b, c, d, e]).get 2).get 2).get 1
      |>.receive data).get (2 * (e.toNat / 2)) =
        ⟨unitId, fc, broadcast, ignored, [unitId, fc] ++ ([a, b, c, d, e] ++ data), []⟩ := by
    simp [headed, View.get, View.receive, half]
  rw [payload] at read₃ holds
  have took := ((Took.read [a, b, c, d, e] read₁).trans (.read data read₂)).trans (.read (crc16 _) read₃)
  rw [← body] at took
  exact ⟨arg, m, took, rfl, holds.broadcast, holds.ignored⟩

def ReadWriteRequest.request (request : ReadWriteRequest) : Request :=
  .readWrite request.readAddress request.readQuantity request.address request.quantity
    fun i => request.registers.getD i 0

theorem recvReadWriteRequest_eq_ok {request : ReadWriteRequest}
    (shows_ : s.msg.Shows (headed unitId fc broadcast ignored))
    (received : recvReadWriteRequest io s = .ok request s')
    (twice : request.registersBytes.toNat = request.quantity.toNat * 2) :
    ∃ arg m, Took io s.arg
        (request.request.body ++ crc16 ([unitId, fc] ++ request.request.body)) arg ∧
      s' = { s with msg := m, arg } ∧ m.broadcast = broadcast ∧ m.ignored = ignored := by
  obtain ⟨_, t, nine, received⟩ := bind_eq_ok.mp received
  obtain ⟨front, arg₁, m₁, length, read₁, rfl, holds₁⟩ := recvWithin_eq_ok shows_ nine
  obtain ⟨a, b, c, d, e, f, g, h, k, rfl⟩ : ∃ a b c d e f g h k, front = [a, b, c, d, e, f, g, h, k] := by
    match front, length with
    | [a, b, c, d, e, f, g, h, k], _ => exact ⟨a, b, c, d, e, f, g, h, k, rfl⟩
  obtain ⟨m₂, got₂, holds₂⟩ := @get2_shows _ { s with msg := m₁, arg := arg₁ } _ a b [c, d, e, f, g, h, k]
    holds₁ rfl
  obtain ⟨m₃, got₃, holds₃⟩ := @get2_shows _ { s with msg := m₂, arg := arg₁ } _ c d [e, f, g, h, k]
    holds₂ rfl
  obtain ⟨m₄, got₄, holds₄⟩ := @get2_shows _ { s with msg := m₃, arg := arg₁ } _ e f [g, h, k] holds₃ rfl
  obtain ⟨m₅, got₅, holds₅⟩ := @get2_shows _ { s with msg := m₄, arg := arg₁ } _ g h [k] holds₄ rfl
  obtain ⟨m₆, got₆, holds₆⟩ := @get1_shows _ { s with msg := m₅, arg := arg₁ } _ k [] holds₅ rfl
  rw [bind_of_ok got₂, bind_of_ok got₃, bind_of_ok got₄, bind_of_ok got₅, bind_of_ok got₆] at received
  obtain ⟨-, received⟩ := rejectIf_bind_eq_ok received
  obtain ⟨_, t, all, received⟩ := bind_eq_ok.mp received
  obtain ⟨data, arg₂, m₇, whole, read₂, rfl, holds₇⟩ := recvWithin_eq_ok holds₆ all
  obtain ⟨m₈, words, holds₈⟩ := @getRegisters_shows _ { s with msg := m₇, arg := arg₂ } _ (k.toNat / 2)
    holds₇ (show 2 * (k.toNat / 2) ≤ data.length by omega)
  rw [bind_of_ok words] at received
  obtain ⟨_, t, footer, received⟩ := bind_eq_ok.mp received
  obtain ⟨arg, m, read₃, rfl, holds⟩ := recvMsgFooter_eq_ok holds₈ footer
  cases received
  dsimp only at twice
  have half : 2 * (k.toNat / 2) = data.length := by omega
  have body : (ReadWriteRequest.request ⟨⟨word e f, word g h, k, wordsOf (data.take (2 * (k.toNat / 2)))⟩,
      word a b, word c d⟩).body = [a, b, c, d, e, f, g, h, k] ++ data := by
    rw [half, List.take_length, ReadWriteRequest.request, Request.body, written_of_twice twice whole,
      bytesOf_word, bytesOf_word, bytesOf_word, bytesOf_word]
    rfl
  have payload : (((((((headed unitId fc broadcast ignored).receive [a, b, c, d, e, f, g, h, k]).get 2).get 2
      |>.get 2).get 2).get 1).receive data).get (2 * (k.toNat / 2)) =
        ⟨unitId, fc, broadcast, ignored, [unitId, fc] ++ ([a, b, c, d, e, f, g, h, k] ++ data), []⟩ := by
    simp [headed, View.get, View.receive, half]
  rw [payload] at read₃ holds
  have took := ((Took.read [a, b, c, d, e, f, g, h, k] read₁).trans (.read data read₂)).trans
    (.read (crc16 _) read₃)
  rw [← body] at took
  exact ⟨arg, m, took, rfl, holds.broadcast, holds.ignored⟩

end TactileSensors.Modbus
