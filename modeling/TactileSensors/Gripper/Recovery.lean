import TactileSensors.Gripper.Activation

/-!
# The recovery handshake

What `recoverFromFault` knows at each of its points. Each wait counts from a record that is out when its
command lands, so the exchange that shows the reset is complete before the one that shows the activation
has begun.
-/

namespace TactileSensors.Gripper
open Machine

def showsReset (exchange : StampedExchange) : Bool :=
  !exchange.status.gripperStatus.activated

def showsComplete (exchange : StampedExchange) : Bool :=
  exchange.status.gripperStatus.activationState = .complete

namespace Host

structure Untouched (h₀ h : Host) : Prop where
  landed : h.landed = h₀.landed
  command : h.image.command = h₀.image.command

structure Deactivated (h₀ : Host) (first : Landing) (h : Host) : Prop where
  landed : h.landed = h₀.landed ++ [first]
  command : first.command = deactivateCommand h₀.image.command
  alive : h₀.image.exchangeCount < first.exchangeCount

structure Reactivated (h₀ : Host) (first second : Landing) (reset : StampedExchange) (h : Host) :
    Prop where
  landed : h.landed = h₀.landed ++ [first, second]
  deactivates : first.command = deactivateCommand h₀.image.command
  activates : second.command = activateCommand h₀.image.command
  current : h.image.command = activateCommand h₀.image.command
  alive : h₀.image.exchangeCount < first.exchangeCount
  shown : Shown showsReset first.exchangeCount h reset
  after : reset.exchangeCount ≤ second.exchangeCount

def Recovers (h₀ h : Host) : ActivationPoint → Prop
  | .called => Untouched h₀ h ∧ h₀.image.exchangeCount ≤ h.image.exchangeCount
  | .waitingOperational _ p =>
      Untouched h₀ h ∧ Waits (fun _ => true) h₀.image.exchangeCount h p
  | .allowing _ | .handshake _ => Untouched h₀ h ∧ h₀.image.exchangeCount < h.image.exchangeCount
  | .deactivating _ previousCommand =>
      (Untouched h₀ h ∧ h₀.image.exchangeCount < h.image.exchangeCount) ∧
        previousCommand = h₀.image.command
  | .waitingReset _ previousCommand p =>
      ∃ first, Deactivated h₀ first h ∧ previousCommand = h₀.image.command ∧
        Waits showsReset first.exchangeCount h p
  | .activating _ previousCommand =>
      ∃ first reset, Deactivated h₀ first h ∧ previousCommand = h₀.image.command ∧
        Shown showsReset first.exchangeCount h reset
  | .waitingComplete _ p =>
      ∃ first second reset, Reactivated h₀ first second reset h ∧
        Waits showsComplete second.exchangeCount h p
  | .done .activated judged =>
      ∃ first second reset complete, judged = some complete ∧
        Reactivated h₀ first second reset h ∧ Shown showsComplete second.exchangeCount h complete
  | .restoring _ | .done _ _ => True

theorem Untouched.world {h₀ h h' : Host} {a : HostAction} (inv : Untouched h₀ h) (may : a.aside)
    (hstep : h.step a = some h') : Untouched h₀ h' := by
  obtain ⟨landed, command⟩ := step_aside may hstep
  exact ⟨landed.trans inv.landed, command.trans inv.command⟩

theorem Deactivated.world {h₀ h h' : Host} {first : Landing} {a : HostAction}
    (inv : Deactivated h₀ first h) (may : a.aside) (hstep : h.step a = some h') :
    Deactivated h₀ first h' :=
  { inv with landed := (step_aside may hstep).1.trans inv.landed }

theorem Reactivated.world {h₀ h h' : Host} {first second : Landing} {reset : StampedExchange}
    {a : HostAction} (inv : Reactivated h₀ first second reset h) (may : a.aside)
    (hstep : h.step a = some h') : Reactivated h₀ first second reset h' := by
  obtain ⟨landed, command⟩ := step_aside may hstep
  exact { inv with
    landed := landed.trans inv.landed
    current := command.trans inv.current
    shown := inv.shown.grows (step_grows hstep) }

theorem Recovers.world {h₀ h h' : Host} {a : HostAction} {point : ActivationPoint}
    (inv : Recovers h₀ h point) (may : a.aside) (hstep : h.step a = some h') :
    Recovers h₀ h' point := by
  have grown := step_grows hstep
  have counts := grown.exchangeCount
  cases point with
  | called => exact ⟨inv.1.world may hstep, Nat.le_trans inv.2 counts⟩
  | waitingOperational deadline p => exact ⟨inv.1.world may hstep, inv.2.grows grown⟩
  | allowing deadline | handshake deadline =>
      exact ⟨inv.1.world may hstep, Nat.lt_of_lt_of_le inv.2 counts⟩
  | deactivating deadline previousCommand =>
      obtain ⟨⟨untouched, alive⟩, previous⟩ := inv
      exact ⟨⟨untouched.world may hstep, Nat.lt_of_lt_of_le alive counts⟩, previous⟩
  | waitingReset deadline previousCommand p =>
      obtain ⟨first, deactivated, previous, waits⟩ := inv
      exact ⟨first, deactivated.world may hstep, previous, waits.grows grown⟩
  | activating deadline previousCommand =>
      obtain ⟨first, reset, deactivated, previous, shown⟩ := inv
      exact ⟨first, reset, deactivated.world may hstep, previous, shown.grows grown⟩
  | waitingComplete deadline p =>
      obtain ⟨first, second, reset, reactivated, waits⟩ := inv
      exact ⟨first, second, reset, reactivated.world may hstep, waits.grows grown⟩
  | restoring previousCommand => trivial
  | done result judged =>
      cases result with
      | activated =>
          obtain ⟨first, second, reset, complete, same, reactivated, shown⟩ := inv
          exact ⟨first, second, reset, complete, same, reactivated.world may hstep, shown.grows grown⟩
      | alreadyActive | faultLatched | timeout => trivial

theorem Recovers.caller {h₀ h h' : Host} {timeout : Int} {point point' : ActivationPoint}
    {label : Option HostAction} (inv : Recovers h₀ h point) (coherent : Coherent h)
    (hstep : withCaller HostAction.aside Host.step (Procedure.recoverFromFault.program timeout)
      (h, point) label = some (h', point')) : Recovers h₀ h' point' := by
  cases withCaller_cases hstep with
  | world may ha => exact inv.world may ha
  | acts goes ha =>
      cases Procedure.program_cases goes with
      | deactivate =>
          obtain ⟨⟨untouched, alive⟩, rfl⟩ := inv
          cases ha
          exact ⟨_, ⟨congrArg (· ++ [_]) untouched.landed, rfl, alive⟩, rfl, Nat.le_refl _⟩
      | restore => trivial
      | activate =>
          obtain ⟨first, reset, deactivated, rfl, shown⟩ := inv
          have grown := step_grows ha
          cases ha
          refine ⟨first, ⟨activateCommand h₀.image.command, h.wire.length, h.image.exchangeCount⟩,
            reset, ⟨?_, deactivated.command, rfl, rfl, deactivated.alive, shown.grows grown,
              shown.counted⟩, Nat.le_refl _⟩
          simp [deactivated.landed]
  | looks goes =>
      cases Procedure.program_cases goes with
      | call => exact inv
      | waitOperational waits => exact ⟨inv.1, inv.2.step coherent.recorded waits⟩
      | @operational deadline limit fresh =>
          cases fresh with
          | none => trivial
          | some fresh =>
              have shown := inv.2 fresh rfl
              exact ⟨inv.1, Nat.lt_of_lt_of_le shown.newer shown.counted⟩
      | allow enough => exact inv
      | refuse short | giveUp | incomplete => trivial
      | getCommand => exact ⟨inv, inv.1.command⟩
      | waitReset waits =>
          obtain ⟨first, deactivated, previous, before⟩ := inv
          exact ⟨first, deactivated, previous, before.step coherent.recorded waits⟩
      | reset =>
          obtain ⟨first, deactivated, previous, before⟩ := inv
          exact ⟨first, _, deactivated, previous, before _ rfl⟩
      | waitComplete waits =>
          obtain ⟨first, second, reset, reactivated, before⟩ := inv
          exact ⟨first, second, reset, reactivated, before.step coherent.recorded waits⟩
      | complete =>
          obtain ⟨first, second, reset, reactivated, before⟩ := inv
          exact ⟨first, second, reset, _, rfl, reactivated, before _ rfl⟩

theorem Recovers.run {h₀ h : Host} {timeout : Int} {point : ActivationPoint}
    {labels : List (Option HostAction)} (coherent : Coherent h₀)
    (hrun : Machine.run (withCaller HostAction.aside Host.step
      (Procedure.recoverFromFault.program timeout)) (h₀, .called) labels = some (h, point)) :
    Recovers h₀ h point := by
  have begun : Recovers h₀ h₀ .called := ⟨⟨rfl, rfl⟩, Nat.le_refl _⟩
  exact coherent.run_withCaller (fun coherent inv hstep => inv.caller coherent hstep) begun hrun

end Host
end TactileSensors.Gripper
