import TactileSensors.Gripper.Recovery
import TactileSensors.Gripper.RegisterModel

/-!
# The host against the device model

The client's exchanges go to a `RegisterModel`. A request may be lost on its way, and a reply after the
device has acted. What the device did is kept in order; what the host has completed is part of it, in the
same order.
-/

namespace TactileSensors.Gripper
open Machine

inductive DeviceEvent
  -- a command arrived, and this is what the device replied
  | processed (command : GripperCommand) (status : GripperStatus)
  | injected (fault : UInt8)
deriving DecidableEq, Repr

def RegisterModel.step (device : RegisterModel) : DeviceEvent → Option RegisterModel
  | .processed command status =>
      if (device.exchange command).2 = status then some (device.exchange command).1 else none
  | .injected fault => some (device.setFault fault)

structure Bench where
  host : Host
  device : RegisterModel
  events : List DeviceEvent

inductive BenchAction
  -- anything but an answer
  | host (a : HostAction)
  -- the block reaches the device, which acts on it and answers
  | transmit
  | inject (fault : UInt8)
deriving DecidableEq, Repr

def BenchAction.aside : BenchAction → Bool
  | .host a => a.aside
  | _ => true

namespace Bench

def step (b : Bench) : BenchAction → Option Bench
  | .host (.answer _) => none
  | .host a => (b.host.step a).map fun host => { b with host }
  | .transmit =>
      match b.host.point with
      | .onWire command none =>
          let (device, status) := b.device.exchange command
          (b.host.step (.answer status)).map fun host =>
            { host, device, events := b.events ++ [.processed command status] }
      | _ => none
  | .inject fault =>
      some { b with device := b.device.setFault fault, events := b.events ++ [.injected fault] }

def recoverFromFault (timeout : Int) (point : ActivationPoint) (b : Bench) :
    Option (ActivationPoint × Option BenchAction) :=
  (Procedure.recoverFromFault.program timeout point b.host).map fun (point, act) =>
    (point, act.map .host)

inductive Step (b : Bench) : BenchAction → Bench → Prop
  | host {a : HostAction} {host : Host} (unanswered : ∀ status, a ≠ .answer status)
      (hstep : b.host.step a = some host) : Step b (.host a) { b with host }
  | transmit {command : GripperCommand} {host : Host} (at_ : b.host.point = .onWire command none)
      (hstep : b.host.step (.answer (b.device.exchange command).2) = some host) :
      Step b .transmit
        ⟨host, (b.device.exchange command).1,
          b.events ++ [.processed command (b.device.exchange command).2]⟩
  | inject (fault : UInt8) :
      Step b (.inject fault)
        { b with device := b.device.setFault fault, events := b.events ++ [.injected fault] }

theorem step_cases {b b' : Bench} {a : BenchAction} (hstep : b.step a = some b') : Step b a b' := by
  cases a with
  | host a =>
      unfold step at hstep
      split at hstep
      · cases hstep
      · rename_i a' unanswered same
        cases same
        obtain ⟨host, ha, rfl⟩ := Option.map_eq_some_iff.mp hstep
        exact .host unanswered ha
      · rename_i same
        cases same
      · rename_i same
        cases same
  | transmit =>
      simp only [step] at hstep
      split at hstep
      · rename_i command at_
        obtain ⟨host, ha, rfl⟩ := Option.map_eq_some_iff.mp hstep
        exact .transmit at_ ha
      · cases hstep
  | inject fault => cases hstep; exact .inject fault

def event (e : Exchange) : DeviceEvent :=
  .processed e.command e.status

def answered : ExchangePoint → List DeviceEvent
  | .onWire command (some status) | .returned command status => [.processed command status]
  | _ => []

def reported (n : Nat) (h : Host) : List DeviceEvent :=
  (h.completed.drop n).map event ++ if n ≤ h.completed.length then answered h.point else []

/-- Since `b₀`, the device went through `events`, and the host has some of it. -/
structure Replays (n : Nat) (b₀ b : Bench) (events : List DeviceEvent) : Prop where
  happened : b.events = b₀.events ++ events
  device : run RegisterModel.step b₀.device events = some b.device
  reported : (reported n b.host).Sublist events

theorem pair_sublist {α : Type} {l : List α} {i j : Nat} {x y : α} (hx : l[i]? = some x)
    (hy : l[j]? = some y) (lt : i < j) : [x, y].Sublist l := by
  have inside := (List.getElem?_eq_some_iff.mp hx).1
  have first : l.drop i = x :: l.drop (i + 1) := by
    rw [List.drop_eq_getElem_cons inside, (List.getElem?_eq_some_iff.mp hx).2]
  have second : y ∈ l.drop (i + 1) := by
    have place : (l.drop (i + 1))[j - (i + 1)]? = some y := by
      rw [List.getElem?_drop, Nat.add_sub_cancel' lt, hy]
    exact List.mem_of_getElem? place
  refine List.Sublist.trans ?_ (List.drop_sublist i l)
  rw [first]
  exact (List.singleton_sublist.mpr second).cons_cons x

theorem exists_of_pair_sublist {α : Type} {l : List α} {x y : α} (h : [x, y].Sublist l) :
    ∃ before between after, l = before ++ x :: (between ++ y :: after) := by
  obtain ⟨left, right, rfl, hx, hy⟩ := List.cons_sublist_iff.mp h
  obtain ⟨before, between, rfl⟩ := List.append_of_mem hx
  obtain ⟨between', after, rfl⟩ := List.append_of_mem (List.singleton_sublist.mp hy)
  exact ⟨before, between ++ between', after, by simp⟩

theorem Replays.split {n : Nat} {b₀ b : Bench} {events : List DeviceEvent}
    (inv : Replays n b₀ b events) {i j : Nat} {e e' : Exchange} (hi : n ≤ i) (lt : i < j)
    (he : b.host.completed[i]? = some e) (he' : b.host.completed[j]? = some e') :
    ∃ before between after, events = before ++ event e :: (between ++ event e' :: after) := by
  have hx : ((b.host.completed.drop n).map event)[i - n]? = some (event e) := by
    simp [Nat.add_sub_cancel' hi, he]
  have hy : ((b.host.completed.drop n).map event)[j - n]? = some (event e') := by
    simp [Nat.add_sub_cancel' (Nat.le_trans hi (Nat.le_of_lt lt)), he']
  have both := pair_sublist hx hy (Nat.sub_lt_sub_right hi lt)
  exact exists_of_pair_sublist
    ((both.trans (List.sublist_append_left _ _)).trans inv.reported)

end Bench
end TactileSensors.Gripper
