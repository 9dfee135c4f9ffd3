import TactileSensors.Gripper.Wait

/-!
# The activation procedures

`activate` and `recoverFromFault`, from one look at the image or the clock, or one `setCommand`, to the
next. A wait's outcome is judged on the exchange that ended it.
-/

namespace TactileSensors.Gripper
open Machine

inductive ActivationResult
  | activated
  | alreadyActive
  | faultLatched
  | timeout
deriving DecidableEq, Repr

def activateCommand (previousCommand : GripperCommand) : GripperCommand :=
  { previousCommand with action := (previousCommand.action.set .goTo false).set .activate true }

def deactivateCommand (previousCommand : GripperCommand) : GripperCommand :=
  { activateCommand previousCommand with
    action := (activateCommand previousCommand).action.set .activate false }

inductive ActivationPoint
  | called
  | waitingOperational (deadline : Int) (p : WaitPoint)
  | allowing (deadline : Int)
  | handshake (deadline : Int)
  | deactivating (deadline : Int) (previousCommand : GripperCommand)
  | waitingReset (deadline : Int) (previousCommand : GripperCommand) (p : WaitPoint)
  | restoring (previousCommand : GripperCommand)
  | activating (deadline : Int) (previousCommand : GripperCommand)
  | waitingComplete (deadline : Int) (p : WaitPoint)
  -- with the exchange it was judged on
  | done (result : ActivationResult) (judged : Option StampedExchange)
deriving DecidableEq, Repr

def waitForStatus (predicate : GripperStatus → Bool) (waiting : WaitPoint → ActivationPoint)
    (next : Option StampedExchange → ActivationPoint) (p : WaitPoint) (h : Host) :
    Option (ActivationPoint × Option HostAction) :=
  match p with
  | .done _ exchange => some (next exchange, none)
  | p =>
      (waitForExchangeAfter (fun exchange => predicate exchange.status) h.image h.now p).map
        fun p => (waiting p, none)

def waitOperational (deadline : Int) (next : Option StampedExchange → ActivationPoint) :
    WaitPoint → Host → Option (ActivationPoint × Option HostAction) :=
  waitForStatus (fun _ => true) (.waitingOperational deadline) next

def waitForActivationComplete (deadline : Int) :
    WaitPoint → Host → Option (ActivationPoint × Option HostAction) :=
  waitForStatus (fun status => status.gripperStatus.activationState = .complete)
    (.waitingComplete deadline) fun exchange =>
      match exchange with
      | some exchange => .done .activated (some exchange)
      | none => .done .timeout none

/-- `timeout / 2` rounds toward zero. -/
def isActivationHandshakeAllowed (deadline now timeout : Int) : Bool :=
  timeout.tdiv 2 * nsPerMs ≤ deadline - now

def runActivationHandshake : ActivationPoint → Host → Option (ActivationPoint × Option HostAction)
  | .handshake deadline, h => some (.deactivating deadline h.image.command, none)
  | .deactivating deadline previousCommand, _ =>
      some (.waitingReset deadline previousCommand (.budgeting deadline),
        some (.setCommand (deactivateCommand previousCommand)))
  | .waitingReset deadline previousCommand p, h =>
      waitForStatus (fun status => !status.gripperStatus.activated)
        (.waitingReset deadline previousCommand)
        (fun exchange =>
          if exchange.isSome then .activating deadline previousCommand else .restoring previousCommand)
        p h
  | .restoring previousCommand, _ =>
      some (.done .timeout none, some (.setCommand previousCommand))
  | .activating deadline previousCommand, _ =>
      some (.waitingComplete deadline (.budgeting deadline),
        some (.setCommand (activateCommand previousCommand)))
  | .waitingComplete deadline p, h => waitForActivationComplete deadline p h
  | _, _ => none

def judge (deadline : Int) (fresh : StampedExchange) : ActivationPoint :=
  if severity fresh.status.faultStatus.gripperFault = .major then .done .faultLatched (some fresh)
  else
    match fresh.status.gripperStatus.activationState with
    -- activation survives a lost link: the host restarted
    | .complete => .done .alreadyActive (some fresh)
    | .inProgress => .waitingComplete deadline (.budgeting deadline)
    | _ => .allowing deadline

inductive Procedure
  | activate
  | recoverFromFault
deriving DecidableEq, Repr

def Procedure.operational (procedure : Procedure) (deadline : Int) :
    Option StampedExchange → ActivationPoint
  | none => .done .timeout none
  | some fresh =>
      match procedure with
      | .activate => judge deadline fresh
      | .recoverFromFault => .allowing deadline

def Procedure.program (procedure : Procedure) (timeout : Int) :
    ActivationPoint → Host → Option (ActivationPoint × Option HostAction)
  | .called, h =>
      let deadline := h.now + timeout * nsPerMs
      some (.waitingOperational deadline (.budgeting deadline), none)
  | .waitingOperational deadline p, h => waitOperational deadline (procedure.operational deadline) p h
  | .allowing deadline, h =>
      some (if isActivationHandshakeAllowed deadline h.now timeout then .handshake deadline
        else .done .timeout none, none)
  | point, h => runActivationHandshake point h

@[simp] theorem activateCommand_activates (previousCommand : GripperCommand) :
    (activateCommand previousCommand).activates = true := by
  simp [activateCommand, GripperCommand.activates]

@[simp] theorem activateCommand_goesTo (previousCommand : GripperCommand) :
    (activateCommand previousCommand).goesTo = false := by
  simp [activateCommand, GripperCommand.goesTo]

@[simp] theorem deactivateCommand_activates (previousCommand : GripperCommand) :
    (deactivateCommand previousCommand).activates = false := by
  simp [deactivateCommand, GripperCommand.activates]

inductive ProcedureStep (procedure : Procedure) (timeout : Int) (h : Host) :
    ActivationPoint → ActivationPoint → Option HostAction → Prop
  | call : ProcedureStep procedure timeout h .called
      (.waitingOperational (h.now + timeout * nsPerMs) (.budgeting (h.now + timeout * nsPerMs))) none
  | waitOperational {deadline : Int} {p p' : WaitPoint}
      (waits : waitForExchangeAfter (fun _ => true) h.image h.now p = some p') :
      ProcedureStep procedure timeout h (.waitingOperational deadline p)
        (.waitingOperational deadline p') none
  | operational {deadline limit : Int} {fresh : Option StampedExchange} :
      ProcedureStep procedure timeout h (.waitingOperational deadline (.done limit fresh))
        (procedure.operational deadline fresh) none
  | allow {deadline : Int} (enough : isActivationHandshakeAllowed deadline h.now timeout) :
      ProcedureStep procedure timeout h (.allowing deadline) (.handshake deadline) none
  | refuse {deadline : Int} (short : ¬ isActivationHandshakeAllowed deadline h.now timeout) :
      ProcedureStep procedure timeout h (.allowing deadline) (.done .timeout none) none
  | getCommand {deadline : Int} : ProcedureStep procedure timeout h (.handshake deadline)
      (.deactivating deadline h.image.command) none
  | deactivate {deadline : Int} {previousCommand : GripperCommand} :
      ProcedureStep procedure timeout h (.deactivating deadline previousCommand)
        (.waitingReset deadline previousCommand (.budgeting deadline))
        (some (.setCommand (deactivateCommand previousCommand)))
  | waitReset {deadline : Int} {previousCommand : GripperCommand} {p p' : WaitPoint}
      (waits : waitForExchangeAfter (fun exchange => !exchange.status.gripperStatus.activated)
        h.image h.now p = some p') :
      ProcedureStep procedure timeout h (.waitingReset deadline previousCommand p)
        (.waitingReset deadline previousCommand p') none
  | giveUp {deadline limit : Int} {previousCommand : GripperCommand} :
      ProcedureStep procedure timeout h (.waitingReset deadline previousCommand (.done limit none))
        (.restoring previousCommand) none
  | reset {deadline limit : Int} {previousCommand : GripperCommand} {exchange : StampedExchange} :
      ProcedureStep procedure timeout h
        (.waitingReset deadline previousCommand (.done limit (some exchange)))
        (.activating deadline previousCommand) none
  | restore {previousCommand : GripperCommand} :
      ProcedureStep procedure timeout h (.restoring previousCommand) (.done .timeout none)
        (some (.setCommand previousCommand))
  | activate {deadline : Int} {previousCommand : GripperCommand} :
      ProcedureStep procedure timeout h (.activating deadline previousCommand)
        (.waitingComplete deadline (.budgeting deadline))
        (some (.setCommand (activateCommand previousCommand)))
  | waitComplete {deadline : Int} {p p' : WaitPoint}
      (waits : waitForExchangeAfter
        (fun exchange => exchange.status.gripperStatus.activationState = .complete) h.image h.now p =
          some p') :
      ProcedureStep procedure timeout h (.waitingComplete deadline p) (.waitingComplete deadline p') none
  | incomplete {deadline limit : Int} :
      ProcedureStep procedure timeout h (.waitingComplete deadline (.done limit none))
        (.done .timeout none) none
  | complete {deadline limit : Int} {exchange : StampedExchange} :
      ProcedureStep procedure timeout h (.waitingComplete deadline (.done limit (some exchange)))
        (.done .activated (some exchange)) none

theorem waitForStatus_cases {predicate : GripperStatus → Bool} {waiting : WaitPoint → ActivationPoint}
    {next : Option StampedExchange → ActivationPoint} {p : WaitPoint} {h : Host}
    {point : ActivationPoint} {act : Option HostAction}
    (goes : waitForStatus predicate waiting next p h = some (point, act)) :
    act = none ∧ ((∃ p', waitForExchangeAfter (fun exchange => predicate exchange.status) h.image h.now p =
        some p' ∧ point = waiting p') ∨
      ∃ limit exchange, p = .done limit exchange ∧ point = next exchange) := by
  unfold waitForStatus at goes
  split at goes
  · rename_i limit exchange
    cases goes
    exact ⟨rfl, .inr ⟨limit, exchange, rfl, rfl⟩⟩
  · obtain ⟨p', hp', same⟩ := Option.map_eq_some_iff.mp goes
    cases same
    exact ⟨rfl, .inl ⟨p', hp', rfl⟩⟩

theorem Procedure.program_cases {procedure : Procedure} {timeout : Int} {h : Host}
    {point point' : ActivationPoint} {act : Option HostAction}
    (goes : procedure.program timeout point h = some (point', act)) :
    ProcedureStep procedure timeout h point point' act := by
  cases point with
  | called => cases goes; exact .call
  | waitingOperational deadline p =>
      simp only [Procedure.program, waitOperational] at goes
      obtain ⟨rfl, ⟨p', hp', rfl⟩ | ⟨limit, fresh, rfl, rfl⟩⟩ := waitForStatus_cases goes
      · exact .waitOperational hp'
      · exact .operational
  | allowing deadline =>
      simp only [Procedure.program, Option.some.injEq, Prod.mk.injEq] at goes
      obtain ⟨rfl, rfl⟩ := goes
      split
      · exact .allow ‹_›
      · exact .refuse ‹_›
  | handshake deadline => cases goes; exact .getCommand
  | deactivating deadline previousCommand => cases goes; exact .deactivate
  | waitingReset deadline previousCommand p =>
      simp only [Procedure.program, runActivationHandshake] at goes
      obtain ⟨rfl, ⟨p', hp', rfl⟩ | ⟨limit, exchange, rfl, rfl⟩⟩ := waitForStatus_cases goes
      · exact .waitReset hp'
      · cases exchange with
        | none => exact .giveUp
        | some exchange => exact .reset
  | restoring previousCommand => cases goes; exact .restore
  | activating deadline previousCommand => cases goes; exact .activate
  | waitingComplete deadline p =>
      simp only [Procedure.program, runActivationHandshake, waitForActivationComplete] at goes
      obtain ⟨rfl, ⟨p', hp', rfl⟩ | ⟨limit, exchange, rfl, rfl⟩⟩ := waitForStatus_cases goes
      · exact .waitComplete hp'
      · cases exchange with
        | none => exact .incomplete
        | some exchange => exact .complete
  | done result judged => cases goes

end TactileSensors.Gripper
