import Mathlib.Data.List.Induction
import TactileSensors.Machine.Results
import TactileSensors.Scan.Ring

/-!
# The circular buffer

`SafeCircularBuffer` keeps the newest elements in a ring of slots, of which `start` is the oldest and `count`
the number. Its mutex makes a call one step.
-/

namespace TactileSensors.Usb
open Machine Scan

/-- `buffer` are the slots. -/
structure SafeCircularBuffer (T : Type) where
  buffer : List T
  start : UInt64
  count : UInt64
deriving DecidableEq, Repr

inductive BufferCall (T : Type)
  | size
  | empty
  | push (t : T)
  | pop
  | front
  | back
  | clear
  | extract (consume : Bool)
deriving DecidableEq, Repr

/-- What a call gives back. An item is `none` where nothing has been assigned to the variable returned. -/
inductive BufferResult (T : Type)
  | done
  | size (s : UInt64)
  | empty (isEmpty : Bool)
  | item (t : Option T)
  | items (vec : List T)
deriving DecidableEq, Repr

def maxSize : Nat := 9223372036854775807

namespace SafeCircularBuffer

variable {T : Type}

def construct [Inhabited T] (size : UInt64) : Option (SafeCircularBuffer T) :=
  if size.toNat ≤ maxSize then some ⟨List.replicate size.toNat default, 0, 0⟩ else none

variable (b : SafeCircularBuffer T)

def capacity : UInt64 := b.buffer.length.toUInt64

def load (i : UInt64) : Option T := b.buffer[i.toNat]?

def store (i : UInt64) (t : T) : Option (SafeCircularBuffer T) :=
  if i.toNat < b.buffer.length then some { b with buffer := b.buffer.set i.toNat t } else none

def push (t : T) : Option (SafeCircularBuffer T) := do
  let b ← b.store ((b.start + b.count) % b.capacity) t
  return if b.count = b.capacity then { b with start := (b.start + 1) % b.capacity }
    else { b with count := b.count + 1 }

def pop : Option (SafeCircularBuffer T × Option T) :=
  if b.count = 0 then some (b, none)
  else do
    let t ← b.load b.start
    return ({ b with start := (b.start + 1) % b.capacity, count := b.count - 1 }, some t)

def front : Option (Option T) :=
  if b.count = 0 then some none else (b.load b.start).map some

def back : Option (Option T) :=
  if b.count = 0 then some none else (b.load ((b.start + b.count - 1) % b.capacity)).map some

def clear : SafeCircularBuffer T := { b with start := 0, count := 0 }

def extract : Option (List T) :=
  (List.range b.count.toNat).mapM fun i => b.load ((b.start + i.toUInt64) % b.capacity)

def call (b : SafeCircularBuffer T) : BufferCall T → Option (SafeCircularBuffer T × BufferResult T)
  | .size => some (b, .size b.count)
  | .empty => some (b, .empty (b.count = 0))
  | .push t => (b.push t).map fun b => (b, .done)
  | .pop => b.pop.map fun (b, t) => (b, .item t)
  | .front => b.front.map fun t => (b, .item t)
  | .back => b.back.map fun t => (b, .item t)
  | .clear => some (b.clear, .done)
  | .extract consume => b.extract.map fun vec => (if consume then b.clear else b, .items vec)

end SafeCircularBuffer

def queueCall {T : Type} (capacity : Nat) (queue : List T) : BufferCall T → List T × BufferResult T
  | .size => (queue, .size queue.length.toUInt64)
  | .empty => (queue, .empty queue.isEmpty)
  | .push t => ((queue ++ [t]).drop (queue.length + 1 - capacity), .done)
  | .pop => (queue.tail, .item queue.head?)
  | .front => (queue, .item queue.head?)
  | .back => (queue, .item queue.getLast?)
  | .clear => ([], .done)
  | .extract consume => (if consume then [] else queue, .items queue)

theorem mapM_range {T : Type} {load : Nat → Option T} {queue : List T}
    (loads : ∀ i < queue.length, load i = queue[i]?) : (List.range queue.length).mapM load = some queue := by
  induction queue using List.reverseRecOn with
  | nil => rfl
  | append_singleton queue t ih =>
      rw [List.length_append, List.length_singleton] at loads ⊢
      have earlier := ih fun i inside => by
        rw [loads i (Nat.lt_succ_of_lt inside), List.getElem?_append_left inside]
      have last : load queue.length = some t := by
        rw [loads _ (Nat.lt_succ_self _), List.getElem?_concat_length]
      rw [List.range_succ, List.mapM_append, earlier]
      simp [last]

structure Holds {T : Type} (capacity : Nat) (b : SafeCircularBuffer T) (queue : List T) : Prop where
  length : b.buffer.length = capacity
  small : capacity ≤ maxSize
  count : b.count.toNat = queue.length
  ring : InRing b.buffer b.start.toNat queue

section
variable {T : Type} {capacity : Nat} {b : SafeCircularBuffer T} {queue : List T}

namespace Holds

variable (h : Holds capacity b queue)
include h

theorem pos : 0 < capacity := h.length ▸ h.ring.pos

theorem start_lt : b.start.toNat < capacity := h.length ▸ h.ring.start_lt

theorem count_le : queue.length ≤ capacity := h.length ▸ h.ring.fits

theorem toNat_capacity : b.capacity.toNat = capacity := by
  have small := h.small
  rw [maxSize] at small
  rw [SafeCircularBuffer.capacity, h.length]
  exact UInt64.toNat_ofNat_of_lt' (Nat.lt_of_le_of_lt small (by decide))

theorem toNat_slot {i : UInt64} (near : i.toNat ≤ capacity) :
    ((b.start + i) % b.capacity).toNat = (b.start.toNat + i.toNat) % capacity := by
  have small := h.small
  have start := h.start_lt
  rw [maxSize] at small
  have sum : (b.start.toNat + i.toNat) % 2 ^ 64 = b.start.toNat + i.toNat := Nat.mod_eq_of_lt (by omega)
  rw [UInt64.toNat_mod, UInt64.toNat_add, h.toNat_capacity, sum]

theorem full_iff : b.count = b.capacity ↔ queue.length = capacity := by
  rw [← UInt64.toNat_inj, h.count, h.toNat_capacity]

theorem count_eq_zero_iff : b.count = 0 ↔ queue = [] := by
  rw [← UInt64.toNat_inj, h.count]
  exact List.length_eq_zero_iff

theorem load {i : Nat} {at_i : UInt64} (inside : i < queue.length)
    (place : at_i.toNat = (b.start.toNat + i) % capacity) : b.load at_i = queue[i]? := by
  rw [SafeCircularBuffer.load, place, ← h.length]
  exact h.ring.holds i inside

theorem toNat_next : ((b.start + 1) % b.capacity).toNat = (b.start.toNat + 1) % b.buffer.length := by
  rw [h.length]
  exact h.toNat_slot (i := 1) h.pos

theorem push (t : T) : ∃ b', b.push t = some b' ∧ Holds capacity b' (queueCall capacity queue (.push t)).1 := by
  have free : ((b.start + b.count) % b.capacity).toNat = (b.start.toNat + queue.length) % b.buffer.length := by
    rw [h.length, ← h.count]
    exact h.toNat_slot (h.count ▸ h.count_le)
  have inside : ((b.start + b.count) % b.capacity).toNat < b.buffer.length := by
    rw [free]
    exact Nat.mod_lt _ h.ring.pos
  have length : (b.buffer.set ((b.start + b.count) % b.capacity).toNat t).length = capacity := by
    rw [List.length_set, h.length]
  have stored : b.store ((b.start + b.count) % b.capacity) t =
      some { b with buffer := b.buffer.set ((b.start + b.count) % b.capacity).toNat t } := if_pos inside
  have same : ({ b with buffer := b.buffer.set ((b.start + b.count) % b.capacity).toNat t } :
      SafeCircularBuffer T).capacity = b.capacity := by
    rw [SafeCircularBuffer.capacity, length, SafeCircularBuffer.capacity, h.length]
  simp only [SafeCircularBuffer.push, stored, Option.bind_eq_bind, Option.bind_some, same, h.full_iff]
  by_cases full : queue.length = capacity
  · have nonempty : queue ≠ [] := List.ne_nil_of_length_pos (full ▸ h.pos)
    have dropped : (queueCall capacity queue (.push t)).1 = queue.tail ++ [t] := by
      have one : queue.length + 1 - capacity = 1 := by omega
      rw [queueCall, one, List.drop_one, List.tail_append_of_ne_nil nonempty]
    refine ⟨_, by rw [if_pos full]; rfl, ?_⟩
    rw [dropped]
    constructor
    · exact length
    · exact h.small
    · rw [List.length_append, List.length_tail, List.length_singleton]
      have pos := List.length_pos_of_ne_nil nonempty
      exact h.count.trans (by omega)
    · show InRing (b.buffer.set _ t) _ _
      rw [free, h.toNat_next]
      exact h.ring.push_full (full.trans h.length.symm) t
  · have few : queue.length < capacity := Nat.lt_of_le_of_ne h.count_le full
    have kept : (queueCall capacity queue (.push t)).1 = queue ++ [t] := by
      rw [queueCall, Nat.sub_eq_zero_of_le few, List.drop_zero]
    refine ⟨_, by rw [if_neg full]; rfl, ?_⟩
    rw [kept]
    constructor
    · exact length
    · exact h.small
    · have small := h.small
      have one : UInt64.toNat 1 = 1 := rfl
      rw [maxSize] at small
      rw [List.length_append, List.length_singleton, ← h.count]
      show (b.count + 1).toNat = _
      rw [UInt64.toNat_add, one, h.count]
      exact Nat.mod_eq_of_lt (by omega)
    · show InRing (b.buffer.set _ t) _ _
      rw [free]
      exact h.ring.push (h.length ▸ few) t

theorem clear : Holds capacity b.clear [] where
  length := h.length
  small := h.small
  count := rfl
  ring := inRing_nil h.ring.pos

omit h in
theorem load_start {first : T} {rest : List T} (h : Holds capacity b (first :: rest)) :
    b.load b.start = some first := by
  have place : b.start.toNat = (b.start.toNat + 0) % capacity := (Nat.mod_eq_of_lt h.start_lt).symm
  exact h.load (Nat.zero_lt_succ _) place

theorem toNat_count_sub_one (nonempty : queue ≠ []) : (b.count - 1).toNat = queue.length - 1 := by
  have one : (1 : UInt64) ≤ b.count := by
    rw [UInt64.le_iff_toNat_le, h.count]
    exact List.length_pos_of_ne_nil nonempty
  rw [UInt64.toNat_sub_of_le _ _ one, h.count]
  rfl

theorem front : b.front = some queue.head? := by
  rw [SafeCircularBuffer.front]
  simp only [h.count_eq_zero_iff]
  cases queue with
  | nil => rfl
  | cons first rest =>
      rw [if_neg (List.cons_ne_nil _ _), load_start h]
      rfl

theorem pop : ∃ b', b.pop = some (b', queue.head?) ∧ Holds capacity b' queue.tail := by
  rw [SafeCircularBuffer.pop]
  simp only [h.count_eq_zero_iff]
  cases queue with
  | nil => exact ⟨b, rfl, h⟩
  | cons first rest =>
      rw [if_neg (List.cons_ne_nil _ _), load_start h]
      refine ⟨_, rfl, h.length, h.small, h.toNat_count_sub_one (List.cons_ne_nil _ _), ?_⟩
      rw [h.toNat_next]
      exact h.ring.tail

theorem back : b.back = some queue.getLast? := by
  rw [SafeCircularBuffer.back]
  simp only [h.count_eq_zero_iff]
  by_cases empty : queue = []
  · rw [if_pos empty, empty]
    rfl
  · have pos := List.length_pos_of_ne_nil empty
    have count := h.toNat_count_sub_one empty
    have fits := h.count_le
    have regrouped : b.start + b.count - 1 = b.start + (b.count - 1) := by
      rw [UInt64.sub_eq_add_neg, UInt64.sub_eq_add_neg, UInt64.add_assoc]
    have place := h.toNat_slot (by omega : (b.count - 1).toNat ≤ capacity)
    rw [← regrouped, count] at place
    rw [if_neg empty, h.load (Nat.sub_lt pos Nat.zero_lt_one) place, ← List.getLast?_eq_getElem?,
      List.getLast?_eq_some_getLast empty]
    rfl

theorem extract : b.extract = some queue := by
  rw [SafeCircularBuffer.extract, h.count]
  refine mapM_range fun i inside => ?_
  have fits := h.count_le
  have small := h.small
  rw [maxSize] at small
  have same : i.toUInt64.toNat = i := UInt64.toNat_ofNat_of_lt' (by rw [UInt64.size]; omega)
  refine h.load inside ?_
  rw [h.toNat_slot (by omega : i.toUInt64.toNat ≤ capacity), same]

theorem call (c : BufferCall T) :
    ∃ b', b.call c = some (b', (queueCall capacity queue c).2) ∧ Holds capacity b' (queueCall capacity queue c).1 := by
  cases c with
  | size =>
      have size : b.count = queue.length.toUInt64 := by
        rw [← h.count]
        exact UInt64.ofNat_toNat.symm
      exact ⟨b, by rw [SafeCircularBuffer.call, size]; rfl, h⟩
  | empty =>
      have isEmpty : decide (b.count = 0) = queue.isEmpty :=
        Bool.eq_iff_iff.mpr (decide_eq_true_iff.trans (h.count_eq_zero_iff.trans List.isEmpty_iff.symm))
      exact ⟨b, by rw [SafeCircularBuffer.call, isEmpty]; rfl, h⟩
  | push t =>
      obtain ⟨b', pushed, holds⟩ := h.push t
      exact ⟨b', by rw [SafeCircularBuffer.call, pushed]; rfl, holds⟩
  | pop =>
      obtain ⟨b', popped, holds⟩ := h.pop
      exact ⟨b', by rw [SafeCircularBuffer.call, popped]; rfl, holds⟩
  | front => exact ⟨b, by rw [SafeCircularBuffer.call, h.front]; rfl, h⟩
  | back => exact ⟨b, by rw [SafeCircularBuffer.call, h.back]; rfl, h⟩
  | clear => exact ⟨b.clear, rfl, h.clear⟩
  | extract consume =>
      refine ⟨if consume then b.clear else b, by rw [SafeCircularBuffer.call, h.extract]; rfl, ?_⟩
      cases consume with
      | true => exact h.clear
      | false => exact h

end Holds

theorem holds_construct [Inhabited T] {size : UInt64} (pos : 0 < size)
    (built : SafeCircularBuffer.construct size = some b) : Holds size.toNat b [] := by
  rw [SafeCircularBuffer.construct] at built
  split_ifs at built with small
  cases built
  have slots : (List.replicate size.toNat (default : T)).length = size.toNat := List.length_replicate
  have first : UInt64.toNat 0 < (List.replicate size.toNat (default : T)).length := by
    rw [slots]
    exact UInt64.lt_iff_toNat_lt.mp pos
  exact ⟨slots, small, rfl, inRing_nil first⟩

/-- What a call other than a push does when there is nothing in the buffer. -/
structure EmptyKept (b : SafeCircularBuffer T) (c : BufferCall T) : Prop where
  state : c ≠ .clear → c ≠ .extract true → ∃ r, b.call c = some (b, r)
  rewound : c = .clear ∨ c = .extract true → ∃ r, b.call c = some ({ b with start := 0 }, r)

theorem emptyKept (empty : b.count = 0) {c : BufferCall T} (noPush : ∀ t, c ≠ .push t) : EmptyKept b c := by
  have nothing : b.extract = some [] := by
    rw [SafeCircularBuffer.extract, empty]
    rfl
  have popped : b.pop = some (b, none) := if_pos empty
  have first : b.front = some none := if_pos empty
  have last : b.back = some none := if_pos empty
  have cleared : b.clear = { b with start := 0 } := by rw [SafeCircularBuffer.clear, ← empty]
  constructor
  · intro notClear notConsumed
    cases c with
    | push t => exact absurd rfl (noPush t)
    | clear => exact absurd rfl notClear
    | size => exact ⟨_, rfl⟩
    | empty => exact ⟨_, rfl⟩
    | pop => exact ⟨.item none, by rw [SafeCircularBuffer.call, popped]; rfl⟩
    | front => exact ⟨.item none, by rw [SafeCircularBuffer.call, first]; rfl⟩
    | back => exact ⟨.item none, by rw [SafeCircularBuffer.call, last]; rfl⟩
    | extract consume =>
        cases consume with
        | true => exact absurd rfl notConsumed
        | false => exact ⟨.items [], by rw [SafeCircularBuffer.call, nothing]; rfl⟩
  · rintro (rfl | rfl)
    · exact ⟨.done, by rw [SafeCircularBuffer.call, cleared]⟩
    · exact ⟨.items [], by rw [SafeCircularBuffer.call, nothing, ← cleared]; rfl⟩

/-- Whatever is called, the buffer is a queue that drops its oldest element at its capacity. -/
theorem buffer_refines_queue [Inhabited T] {size : UInt64} (pos : 0 < size)
    (built : SafeCircularBuffer.construct size = some b) (calls : List (BufferCall T)) :
    ∃ b', results SafeCircularBuffer.call b calls =
        some (b', (expected (queueCall size.toNat) [] calls).2) ∧
      Holds size.toNat b' (expected (queueCall size.toNat) [] calls).1 ∧
      b'.start.toNat < size.toNat ∧ b'.count.toNat ≤ size.toNat ∧
      (b'.count = 0 → ∀ c, (∀ t, c ≠ .push t) → EmptyKept b' c) := by
  obtain ⟨b', run, holds⟩ := results_eq_expected (fun _ _ c h => Holds.call h c) (holds_construct pos built) calls
  refine ⟨b', run, holds, holds.start_lt, ?_, fun empty _ noPush => emptyKept empty noPush⟩
  rw [holds.count]
  exact holds.count_le

def someCalls : List (BufferCall Nat) :=
  [.push 1, .push 2, .push 3, .pop, .push 4, .back, .extract true, .front]

theorem buffer_refines_queue_someCalls :
    ∃ b', results SafeCircularBuffer.call ⟨[0, 0], 0, 0⟩ someCalls =
        some (b', (expected (queueCall 2) [] someCalls).2) ∧
      Holds 2 b' (expected (queueCall 2) [] someCalls).1 ∧ b'.start.toNat < 2 ∧ b'.count.toNat ≤ 2 ∧
      (b'.count = 0 → ∀ c, (∀ t, c ≠ .push t) → EmptyKept b' c) :=
  buffer_refines_queue (by decide : (0 : UInt64) < 2) (by decide) someCalls

/-- Emptied by a pop, the buffer starts in its second slot until it is cleared. -/
theorem clear_rewinds :
    ∃ b b' : SafeCircularBuffer Nat, results SafeCircularBuffer.call ⟨[0, 0], 0, 0⟩ [.push 1, .pop] =
        some (b, [.done, .item (some 1)]) ∧
      b.count = 0 ∧ b.call .clear = some (b', .done) ∧ b' ≠ b :=
  ⟨⟨[1, 0], 1, 0⟩, ⟨[1, 0], 0, 0⟩, by decide, rfl, rfl, by decide⟩

example : (expected (queueCall 2) [] someCalls).2 =
    [.done, .done, .done, .item (some 2), .done, .item (some 4), .items [3, 4], .item none] := by decide

end

end TactileSensors.Usb
