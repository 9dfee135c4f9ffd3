import TactileSensors.Modbus.Requests

/-!
# Inside the message buffer

Whatever comes from the line, no call of the client reads or writes outside the buffer of its message:
each step of a call says where it leaves the index into it.
-/

namespace TactileSensors.Modbus
open Machine

def Platform.Bounded {σ : Type} (io : Platform σ) : Prop :=
  ∀ n timeout arg data arg', io.read n timeout arg = (some data, arg') → data.length ≤ n

variable {σ : Type} {io : Platform σ} {s : Nmbs σ}

def InBounds {α : Type} (call : Call σ α) (s : Nmbs σ) (Q : α → Nmbs σ → Prop) : Prop :=
  After call s Q fun stop _ => stop ≠ .outOfBounds

theorem inBounds_bind {α β : Type} {x : Call σ α} {f : α → Call σ β} {Q : β → Nmbs σ → Prop}
    (first : InBounds x s fun a mid => InBounds (f a) mid Q) : InBounds (x >>= f) s Q :=
  after_bind.mpr first

theorem inBounds_rejectIf {c : Prop} [Decidable c] {err : NmbsError} {Q : Unit → Nmbs σ → Prop}
    (otherwise : ¬ c → Q () s) : InBounds (rejectIf c err) s Q := by
  by_cases holds : c
  · rw [rejectIf, if_pos holds]
    exact after_throw.mpr (by rintro ⟨⟩)
  · rw [rejectIf, if_neg holds]
    exact after_pure.mpr (otherwise holds)

theorem inBounds_get1 {Q : UInt8 → Nmbs σ → Prop} (room : s.msg.bufIdx + 1 ≤ bufferBytes)
    (afterwards : ∀ data s', s'.msg.bufIdx = s.msg.bufIdx + 1 → Q data s') : InBounds get1 s Q := by
  unfold InBounds After
  rw [get1, if_pos room]
  exact afterwards _ _ rfl

theorem inBounds_get2 {Q : UInt16 → Nmbs σ → Prop} (room : s.msg.bufIdx + 2 ≤ bufferBytes)
    (afterwards : ∀ data s', s'.msg.bufIdx = s.msg.bufIdx + 2 → Q data s') : InBounds get2 s Q := by
  unfold InBounds After
  rw [get2, if_pos room]
  exact afterwards _ _ rfl

theorem inBounds_put {bytes : List UInt8} {Q : Unit → Nmbs σ → Prop}
    (room : s.msg.bufIdx + bytes.length ≤ bufferBytes)
    (afterwards : ∀ s', s'.msg.bufIdx = s.msg.bufIdx + bytes.length → Q () s') :
    InBounds (put bytes) s Q := by
  unfold InBounds After
  rw [put, if_pos room]
  exact afterwards _ rfl

theorem inBounds_getRegisters {n : Nat} {Q : List UInt16 → Nmbs σ → Prop}
    (room : s.msg.bufIdx + 2 * n ≤ bufferBytes)
    (afterwards : ∀ registers s', s'.msg.bufIdx = s.msg.bufIdx + 2 * n → Q registers s') :
    InBounds (getRegisters n) s Q := by
  induction n generalizing s Q with
  | zero => exact after_pure.mpr (afterwards [] s rfl)
  | succ n ih =>
      refine inBounds_bind (inBounds_get2 (by omega) fun register s₁ index₁ => ?_)
      refine inBounds_bind (ih (by omega) fun registers s₂ index₂ => ?_)
      exact after_pure.mpr (afterwards _ s₂ (by omega))

theorem inBounds_recvWithin (bounded : io.Bounded) {timeout : Int} {count : Nat}
    {Q : Unit → Nmbs σ → Prop} (room : s.msg.bufIdx + count ≤ bufferBytes)
    (afterwards : ∀ s', s'.msg.bufIdx = s.msg.bufIdx → Q () s') :
    InBounds (recvWithin io timeout count) s Q := by
  unfold InBounds After recvWithin
  cases read : io.read count timeout s.arg with
  | mk data arg =>
      cases data with
      | none => exact nofun
      | some data =>
          have fits := bounded _ _ _ _ _ read
          simp only [show s.msg.bufIdx + data.length ≤ bufferBytes by omega, if_true]
          split
          · rename_i done
            split at done
            · cases done
              exact afterwards _ rfl
            · split at done <;> cases done
          · rename_i done
            split at done
            · cases done
            · split at done <;> (cases done; exact nofun)

theorem inBounds_recv (bounded : io.Bounded) {count : Nat} {Q : Unit → Nmbs σ → Prop}
    (room : s.msg.bufIdx + count ≤ bufferBytes)
    (afterwards : ∀ s', s'.msg.bufIdx = s.msg.bufIdx → Q () s') : InBounds (recv io count) s Q :=
  inBounds_recvWithin bounded room afterwards

theorem inBounds_send {count : Nat} {Q : Unit → Nmbs σ → Prop} (room : count ≤ bufferBytes)
    (afterwards : ∀ s', s'.msg = s.msg → Q () s') : InBounds (send io count) s Q := by
  unfold InBounds After send
  simp only [room, if_true]
  split
  · rename_i done
    split at done
    · cases done
    · split at done
      · cases done
        exact afterwards _ rfl
      · split at done <;> cases done
  · rename_i done
    split at done
    · cases done
      exact nofun
    · split at done
      · cases done
      · split at done <;> (cases done; exact nofun)

theorem inBounds_msgStateReset {Q : Unit → Nmbs σ → Prop} (afterwards : ∀ s', s'.msg.bufIdx = 0 → Q () s') :
    InBounds msgStateReset s Q :=
  afterwards _ rfl

theorem inBounds_msgCrc {Q : UInt16 → Nmbs σ → Prop} (room : s.msg.bufIdx ≤ bufferBytes)
    (afterwards : ∀ crc, Q crc s) : InBounds msgCrc s Q := by
  unfold InBounds After
  rw [msgCrc, if_pos room]
  exact afterwards _

theorem inBounds_recvMsgFooter (bounded : io.Bounded) {Q : Unit → Nmbs σ → Prop}
    (room : s.msg.bufIdx + 2 ≤ bufferBytes) (afterwards : ∀ s', Q () s') :
    InBounds (recvMsgFooter io) s Q := by
  refine inBounds_bind (inBounds_msgCrc (by omega) fun crc => ?_)
  refine inBounds_bind (inBounds_recv bounded room fun s₁ index₁ => ?_)
  refine inBounds_bind (inBounds_get2 (by omega) fun recvCrc s₂ _ => ?_)
  exact inBounds_rejectIf fun _ => afterwards s₂

theorem inBounds_recvMsgHeader (bounded : io.Bounded) {Q : Unit → Nmbs σ → Prop}
    (afterwards : ∀ s', s'.msg.bufIdx = 2 → Q () s') : InBounds (recvMsgHeader io) s Q := by
  refine inBounds_bind (inBounds_msgStateReset fun s₀ start => ?_)
  refine inBounds_bind (after_modify.mpr (inBounds_bind (after_get.mpr ?_)))
  have room : s₀.msg.bufIdx + 2 ≤ bufferBytes := by
    rw [start]
    decide
  refine inBounds_bind (inBounds_recvWithin bounded (Nat.le_of_succ_le room) fun s₁ index₁ => ?_)
  have start₁ : s₁.msg.bufIdx = 0 := index₁.trans start
  refine inBounds_bind (after_modify.mpr (inBounds_bind (inBounds_get1 ?_ fun unitId s₂ index₂ => ?_)))
  · exact show s₁.msg.bufIdx + 1 ≤ bufferBytes by omega
  have start₂ : s₂.msg.bufIdx = 1 := index₂.trans (congrArg (· + 1) start₁)
  refine inBounds_bind (after_modify.mpr (inBounds_bind (inBounds_recv bounded ?_ fun s₃ index₃ => ?_)))
  · exact show s₂.msg.bufIdx + 1 ≤ bufferBytes by omega
  have start₃ : s₃.msg.bufIdx = 1 := index₃.trans start₂
  refine inBounds_bind (inBounds_get1 (by omega) fun fc s₄ index₄ => after_modify.mpr ?_)
  exact afterwards _ (index₄.trans (congrArg (· + 1) start₃))

theorem inBounds_sendMsg {Q : Unit → Nmbs σ → Prop} (room : s.msg.bufIdx + 2 ≤ bufferBytes)
    (afterwards : ∀ s', Q () s') : InBounds (sendMsg io) s Q := by
  refine inBounds_bind (inBounds_msgCrc (by omega) fun crc => ?_)
  refine inBounds_bind (inBounds_put room fun s₁ index₁ => ?_)
  refine inBounds_bind (after_get.mpr (inBounds_send ?_ fun s₂ _ => afterwards s₂))
  exact index₁ ▸ room

theorem inBounds_recvResException (bounded : io.Bounded) {reqFc fc : UInt8} {Q : Unit → Nmbs σ → Prop}
    (header : s.msg.bufIdx = 2) : InBounds (recvResException io reqFc fc) s Q := by
  unfold recvResException
  split
  · refine inBounds_bind (inBounds_recv bounded (by rw [header]; decide) fun s₁ index₁ => ?_)
    refine inBounds_bind (inBounds_get1 (by rw [index₁, header]; decide) fun exception s₂ index₂ => ?_)
    refine inBounds_bind (inBounds_recvMsgFooter bounded (by rw [index₂, index₁, header]; decide)
      fun s₃ => ?_)
    split <;> exact after_throw.mpr (by rintro ⟨⟩)
  · exact after_throw.mpr (by rintro ⟨⟩)

theorem inBounds_recvResHeader (bounded : io.Bounded) {Q : Unit → Nmbs σ → Prop}
    (afterwards : ∀ s', s'.msg.bufIdx = 2 → Q () s') : InBounds (recvResHeader io) s Q := by
  refine inBounds_bind (after_get.mpr (inBounds_bind (inBounds_recvMsgHeader bounded fun s₁ header => ?_)))
  refine inBounds_bind (after_get.mpr (inBounds_bind (inBounds_rejectIf fun _ => ?_)))
  split
  · exact inBounds_recvResException bounded header
  · exact after_pure.mpr (afterwards s₁ header)

theorem inBounds_recvReadRegistersRes (bounded : io.Bounded) {quantity : UInt16}
    {Q : List UInt16 → Nmbs σ → Prop} (afterwards : ∀ registers s', Q registers s') :
    InBounds (recvReadRegistersRes io quantity) s Q := by
  refine inBounds_bind (inBounds_recvResHeader bounded fun s₁ header => ?_)
  refine inBounds_bind (inBounds_recv bounded (by rw [header]; decide) fun s₂ index₂ => ?_)
  refine inBounds_bind (inBounds_get1 (by rw [index₂, header]; decide) fun registersBytes s₃ index₃ => ?_)
  refine inBounds_bind (inBounds_rejectIf fun fits => ?_)
  have room : s₃.msg.bufIdx + registersBytes.toNat + 2 ≤ bufferBytes := by
    simp only [bufferBytes]
    omega
  refine inBounds_bind (inBounds_recv bounded (by omega) fun s₄ index₄ => ?_)
  refine inBounds_bind (inBounds_getRegisters (by omega) fun registers s₅ index₅ => ?_)
  refine inBounds_bind (inBounds_recvMsgFooter bounded (by omega) fun s₆ => ?_)
  exact after_pure.mpr (afterwards registers s₆)

theorem inBounds_recvEchoRes (bounded : io.Bounded) {first second : UInt16} {Q : Unit → Nmbs σ → Prop}
    (afterwards : ∀ s', Q () s') : InBounds (recvEchoRes io first second) s Q := by
  refine inBounds_bind (inBounds_recvResHeader bounded fun s₁ header => ?_)
  refine inBounds_bind (inBounds_recv bounded (by rw [header]; decide) fun s₂ index₂ => ?_)
  refine inBounds_bind (inBounds_get2 (by rw [index₂, header]; decide) fun firstRes s₃ index₃ => ?_)
  refine inBounds_bind (inBounds_get2 (by rw [index₃, index₂, header]; decide)
    fun secondRes s₄ index₄ => ?_)
  refine inBounds_bind (inBounds_recvMsgFooter bounded (by rw [index₄, index₃, index₂, header]; decide)
    fun s₅ => ?_)
  exact inBounds_bind (inBounds_rejectIf fun _ => inBounds_rejectIf fun _ => afterwards s₅)

theorem Request.response_in_bounds (bounded : io.Bounded) (request : Request) :
    InBounds (request.response io) s fun _ _ => True := by
  cases request with
  | read address quantity => exact inBounds_recvReadRegistersRes bounded fun _ _ => trivial
  | write address quantity registers =>
      refine inBounds_bind (inBounds_bind (after_get.mpr ?_))
      split
      · exact inBounds_recvEchoRes bounded fun _ => after_pure.mpr trivial
      · exact after_pure.mpr (after_pure.mpr trivial)
  | readWrite readAddress readQuantity address quantity registers =>
      exact inBounds_recvReadRegistersRes bounded fun _ _ => trivial

theorem flush_of_bounded (bounded : io.Bounded) (s : Nmbs σ) :
    ∃ m mid, flush io s = .ok () { s with msg := m, arg := mid } := by
  cases read : io.read bufferBytes 0 s.arg with
  | mk data arg =>
      cases data with
      | none => exact ⟨s.msg, arg, flush_of_no_read read⟩
      | some data =>
          obtain ⟨m, flushed⟩ := flush_of_read read (bounded _ _ _ _ _ read)
          exact ⟨m, arg, flushed⟩

theorem Request.call_in_bounds (bounded : io.Bounded) (request : Request) :
    InBounds (request.call io) s fun _ _ => True := by
  by_cases wellFormed : request.wellFormed
  · obtain ⟨m₀, mid, flushed⟩ := flush_of_bounded bounded s
    obtain ⟨m, holds, calls⟩ := request.call_asks wellFormed flushed
    have room : m.bufIdx + 2 ≤ bufferBytes := holds.index ▸ length_message wellFormed _
    have sends : InBounds (do sendMsg io; request.response io : Call σ (List UInt16))
        { s with msg := m, arg := mid } fun _ _ => True :=
      inBounds_bind (inBounds_sendMsg room fun _ => request.response_in_bounds bounded)
    unfold InBounds After at sends ⊢
    rw [calls]
    exact sends
  · unfold InBounds After
    rw [call_of_illFormed wellFormed]
    exact nofun

end TactileSensors.Modbus
