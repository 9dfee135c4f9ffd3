import Mathlib.Data.Rat.Floor
import TactileSensors.Control.MoveArguments

/-!
# What clients may put into a move

A decoded message may hold any value under each of the three names. What is no number leaves its entry as it
was, and a number is cut to a byte, but the infinities are numbers and have no integer part.
-/

namespace TactileSensors.Control

structure MoveMessage where
  position : ClientValue
  speed : ClientValue
  force : ClientValue
deriving DecidableEq

def Controller.receive (controller : Controller) (message : MoveMessage) : Controller × Bool :=
  controller.requestMove message.position message.speed message.force

def truncated (q : ℚ) : Int := if 0 ≤ q then ⌊q⌋ else ⌈q⌉

def ClientValue.integerPart : ClientValue → Option Int
  | .int n => some n
  | .finite q => some (truncated q)
  | .absent | .bool _ | .nan | .infinite _ | .other => none

def ClientValue.Infinite : ClientValue → Prop
  | .infinite _ => True
  | _ => False

def clamped (n : Int) : Int := max 0 (min 255 n)

structure InRange (command : Command) : Prop where
  position : ∀ p ∈ command.position, Byte p
  speed : Byte command.speed
  force : Byte command.force

/-- Each finite number is stored as a byte, and the other entries are as before. -/
structure Stores (before : Command) (message : MoveMessage) (after : Command) : Prop where
  position : after.position = (message.position.integerPart.map clamped).or before.position
  speed : after.speed = (message.speed.integerPart.map clamped).getD before.speed
  force : after.force = (message.force.integerPart.map clamped).getD before.force

def Tolerates (controller : Controller) : List MoveMessage → Prop
  | [] => True
  | message :: messages =>
      let next := controller.receive message
      next.2 = false ∧ InRange next.1.command ∧ Stores controller.command message next.1.command ∧
        Tolerates next.1 messages

def MoveMessage.Finite (message : MoveMessage) : Prop :=
  ¬ message.position.Infinite ∧ ¬ message.speed.Infinite ∧ ¬ message.force.Infinite

theorem tdiv_eq_truncated (q : ℚ) : q.num.tdiv q.den = truncated q := by
  rw [truncated]
  split_ifs with nonneg
  · rw [Int.tdiv_eq_ediv_of_nonneg (Rat.num_nonneg.mpr nonneg), Rat.floor_def']
  · have flipped : 0 ≤ -q.num := by
      have neg := Rat.num_neg.mpr (not_le.mp nonneg)
      omega
    rw [Rat.ceil_def', ← Int.tdiv_eq_ediv_of_nonneg flipped, Int.neg_tdiv, neg_neg]

theorem clampByte_of_not_infinite {value : ClientValue} (finite : ¬ value.Infinite) :
    clampByte value = .ok (value.integerPart.map clamped) := by
  cases value with
  | finite q => rw [clampByte, tdiv_eq_truncated]; rfl
  | infinite negative => exact absurd trivial finite
  | _ => rfl

theorem clampByte_of_infinite {value : ClientValue} (infinite : value.Infinite) :
    clampByte value = .error () := by
  cases value with
  | infinite negative => rfl
  | _ => cases infinite

theorem setAll_cons (command : Command) {key : Key} {value : ClientValue} (finite : ¬ value.Infinite)
    (rest : List (Key × ClientValue)) :
    command.setAll ((key, value) :: rest) =
      ((value.integerPart.map clamped).elim command (command.set key)).setAll rest := by
  rw [Command.setAll, clampByte_of_not_infinite finite]
  cases value.integerPart <;> rfl

theorem setAll_infinite (command : Command) {key : Key} {value : ClientValue} (infinite : value.Infinite)
    (rest : List (Key × ClientValue)) : command.setAll ((key, value) :: rest) = (command, true) := by
  rw [Command.setAll, clampByte_of_infinite infinite]

theorem setAll_raises_iff (command : Command) (values : List (Key × ClientValue)) :
    (command.setAll values).2 = true ↔ ∃ entry ∈ values, entry.2.Infinite := by
  induction values generalizing command with
  | nil => simp [Command.setAll]
  | cons entry rest ih =>
      obtain ⟨key, value⟩ := entry
      by_cases infinite : value.Infinite
      · rw [setAll_infinite command infinite]
        simp [infinite]
      · rw [setAll_cons command infinite, ih]
        simp [infinite]

theorem elim_set_position (command : Command) (byte : Option Int) :
    byte.elim command (command.set .position) =
      { command with position := byte.or command.position } := by
  cases byte <;> rfl

theorem elim_set_speed (command : Command) (byte : Option Int) :
    byte.elim command (command.set .speed) = { command with speed := byte.getD command.speed } := by
  cases byte <;> rfl

theorem elim_set_force (command : Command) (byte : Option Int) :
    byte.elim command (command.set .force) = { command with force := byte.getD command.force } := by
  cases byte <;> rfl

theorem setAll_stores (command : Command) {message : MoveMessage} (finite : message.Finite) :
    Stores command message (command.setAll
      [(.position, message.position), (.speed, message.speed), (.force, message.force)]).1 := by
  obtain ⟨position, speed, force⟩ := finite
  rw [setAll_cons _ position, setAll_cons _ speed, setAll_cons _ force, Command.setAll,
    elim_set_position, elim_set_speed, elim_set_force]
  exact ⟨rfl, rfl, rfl⟩

theorem receive_command (controller : Controller) (message : MoveMessage) :
    (controller.receive message).1.command = (controller.command.setAll
        [(.position, message.position), (.speed, message.speed), (.force, message.force)]).1 ∧
      (controller.receive message).2 = (controller.command.setAll
        [(.position, message.position), (.speed, message.speed), (.force, message.force)]).2 := by
  rw [Controller.receive, Controller.requestMove]
  generalize controller.command.setAll _ = set
  obtain ⟨command, raised⟩ := set
  cases raised with
  | true => exact ⟨rfl, rfl⟩
  | false =>
      simp only [Bool.false_eq_true, if_false]
      split_ifs <;> exact ⟨rfl, rfl⟩

theorem receive_raises_iff (controller : Controller) (message : MoveMessage) :
    (controller.receive message).2 = true ↔ ¬ message.Finite := by
  rw [(receive_command controller message).2, setAll_raises_iff]
  simp only [List.mem_cons, List.not_mem_nil, or_false, exists_eq_or_imp, exists_eq_left,
    MoveMessage.Finite]
  tauto

theorem receive_inRange {controller : Controller} (inRange : InRange controller.command)
    (message : MoveMessage) : InRange (controller.receive message).1.command := by
  have clamps := requestMove_clamped controller message.position message.speed message.force
  refine ⟨fun p set => ?_, clamps.speed inRange.speed, clamps.force inRange.force⟩
  rcases clamps.position with same | ⟨byte, new, isByte⟩
  · exact inRange.position p (same ▸ set)
  · obtain rfl : p = byte := Option.some.inj (set.symm.trans new)
    exact isByte

/-- A sequence of moves is taken as promised exactly when none of them has an infinite number in it. -/
theorem tolerates_iff {controller : Controller} (inRange : InRange controller.command)
    (messages : List MoveMessage) :
    Tolerates controller messages ↔ ∀ message ∈ messages, message.Finite := by
  induction messages generalizing controller with
  | nil => exact iff_of_true trivial (by simp)
  | cons message messages ih =>
      have kept := receive_inRange inRange message
      rw [Tolerates, ih kept, List.forall_mem_cons]
      constructor
      · rintro ⟨calm, -, -, rest⟩
        refine ⟨?_, rest⟩
        by_contra infinite
        rw [(receive_raises_iff controller message).mpr infinite] at calm
        cases calm
      · rintro ⟨finite, rest⟩
        have calm : (controller.receive message).2 = false := by
          rw [← Bool.not_eq_true, receive_raises_iff, not_not]
          exact finite
        refine ⟨calm, kept, ?_, rest⟩
        rw [(receive_command controller message).1]
        exact setAll_stores controller.command finite

theorem inRange_init (port : String) : InRange (Controller.init port).command :=
  ⟨nofun, (by decide : Byte defaultSpeed), (by decide : Byte defaultForce)⟩

theorem odd_values_tolerated :
    Tolerates (.init "") [⟨.int 1000, .finite (-1 / 2), .other⟩] ↔
      ∀ message ∈ [MoveMessage.mk (.int 1000) (.finite (-1 / 2)) .other], message.Finite :=
  tolerates_iff (inRange_init "") _

/-- `{"type": "gripper_move", "speed": 1e999}` raises. -/
theorem infinite_speed_raises :
    ((Controller.init "").receive ⟨.absent, .infinite false, .absent⟩).2 = true ∧
      ¬ Tolerates (.init "") [⟨.absent, .infinite false, .absent⟩] := by
  have raises : ((Controller.init "").receive ⟨.absent, .infinite false, .absent⟩).2 = true := by decide
  refine ⟨raises, ?_⟩
  rintro ⟨calm, -⟩
  rw [raises] at calm
  cases calm

end TactileSensors.Control
