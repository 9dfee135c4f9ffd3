import TactileSensors.Gripper.ProcessImage
import TactileSensors.Machine.Run

/-!
# The exchange thread and its surroundings

`GripperState` drives the image from one exchange thread. A step of the host is a step of that thread,
a `setCommand` or a read of the image by some other thread, the wire answering or failing, or the
clock going on; each lock-protected method and each atomic access is one step, so a run is any
interleaving of them. What happened is kept beside the state in fields the code does not have.
-/

namespace TactileSensors.Gripper

inductive ConnectionState
  | connecting
  | operational
  | faulted
deriving DecidableEq, Repr

inductive Level
  | info
  | warn
  | error
deriving DecidableEq, Repr

structure LogEntry where
  level : Level
  text : String
deriving DecidableEq, Repr

def faultThreshold : Nat := 3

def initialReadAttempts : Nat := 3

def linkFaulted : LogEntry :=
  ⟨.warn, "link faulted after " ++ toString faultThreshold ++
    " consecutive failed exchanges; the process image is now stale"⟩

def linkRecovered : LogEntry :=
  ⟨.info, "link recovered; the process image is live again"⟩

inductive ExchangePoint
  -- before the command is copied
  | idle
  -- in the client's `exchange`; `answer` is what the gripper answered once the block reached it
  | onWire (commandCopy : GripperCommand) (answer : Option GripperStatus)
  -- the exchange returned
  | returned (commandCopy : GripperCommand) (freshStatus : GripperStatus)
  -- the clock is read
  | stamped (commandCopy : GripperCommand) (freshStatus : GripperStatus) (completedAt : Int)
  -- the failures are cleared
  | cleared (commandCopy : GripperCommand) (freshStatus : GripperStatus) (completedAt : Int)
  -- the state is Operational
  | turned (commandCopy : GripperCommand) (freshStatus : GripperStatus) (completedAt : Int)
      (recovered : Bool)
  -- the record is out
  | published (recovered : Bool)
  -- the exchange threw
  | thrown
  -- the failure is counted, as `failures`
  | counted (failures : UInt32)
  -- the state is Faulted, and was not before
  | reporting
deriving DecidableEq, Repr

structure GripperState where
  image : ProcessImage
  connectionState : ConnectionState
  consecutiveFailures : UInt32
  log : List LogEntry
  point : ExchangePoint
deriving DecidableEq, Repr

def driverException (description : String) : String :=
  "DriverException: " ++ description ++ "."

namespace GripperState

def constructed : GripperState :=
  ⟨.empty, .connecting, 0, [], .idle⟩

def initialCommand (fresh : GripperStatus) : GripperCommand :=
  { GripperCommand.defaults with
    action := (GripperCommand.defaults.action.set .activate fresh.gripperStatus.activated).set .goTo
      fresh.gripperStatus.goToEnabled
    positionRequest := fresh.positionRequestEcho }

def noAnswer (what : String) : String :=
  driverException ("no gripper answered the initial status read (is it powered, and " ++
    "do its baud rate and Modbus slave address match this " ++
    "connection?) — last attempt: " ++ what)

def attemptFailed (attempt : Nat) (what : String) : LogEntry :=
  ⟨.warn, "initial status read attempt " ++ toString attempt ++ " of " ++
    toString initialReadAttempts ++ " failed: " ++ what⟩

/-- The retry loop of `initializeImage` with `left` attempts to go after this one. -/
def readInitially (answers : Nat → Except String GripperStatus) :
    Nat → List LogEntry → Except String GripperStatus × List LogEntry
  | left, log =>
      let attempt := initialReadAttempts - left
      match answers attempt, left with
      | .ok fresh, _ => (.ok fresh, log)
      | .error what, 0 => (.error (noAnswer what), log)
      | .error what, left + 1 => readInitially answers left (log ++ [attemptFailed attempt what])

/-- `answers attempt` is what the client's `readStatus` returns or throws, `time` what the clock
says after it. -/
def initializeImage (s : GripperState) (answers : Nat → Except String GripperStatus) (time : Int) :
    Except String Unit × GripperState :=
  match readInitially answers (initialReadAttempts - 1) s.log with
  | (.error what, log) => (.error what, { s with log })
  | (.ok fresh, log) =>
      (.ok (), { s with
        image := s.image.seed fresh time (initialCommand fresh)
        connectionState := .operational
        log })

/-- The thread's next step, where it waits for nothing outside. -/
def exchangeOnce (s : GripperState) (now : Int) : Option GripperState :=
  match s.point with
  | .idle => some { s with point := .onWire s.image.command none }
  | .onWire _ none => none
  | .onWire commandCopy (some freshStatus) => some { s with point := .returned commandCopy freshStatus }
  | .returned commandCopy freshStatus => some { s with point := .stamped commandCopy freshStatus now }
  | .stamped commandCopy freshStatus completedAt =>
      some { s with
        consecutiveFailures := 0
        point := .cleared commandCopy freshStatus completedAt }
  | .cleared commandCopy freshStatus completedAt =>
      some { s with
        connectionState := .operational
        point := .turned commandCopy freshStatus completedAt (s.connectionState = .faulted) }
  | .turned commandCopy freshStatus completedAt recovered =>
      some { s with
        image := s.image.publish commandCopy freshStatus completedAt
        point := .published recovered }
  | .published recovered =>
      some { s with
        log := if recovered then s.log ++ [linkRecovered] else s.log
        point := .idle }
  | .thrown =>
      -- `fetch_add(1) + 1`, in 32 bits
      some { s with
        consecutiveFailures := s.consecutiveFailures + 1
        point := .counted (s.consecutiveFailures + 1) }
  | .counted failures =>
      if faultThreshold ≤ failures.toNat then
        some { s with
          connectionState := .faulted
          point := if s.connectionState ≠ .faulted then .reporting else .idle }
      else some { s with point := .idle }
  | .reporting => some { s with log := s.log ++ [linkFaulted], point := .idle }

end GripperState

/-- A `setCommand` that took effect: how many blocks the wire had carried by then and how many
exchanges the image counted. -/
structure Landing where
  command : GripperCommand
  carried : Nat
  exchangeCount : Nat
deriving DecidableEq, Repr

structure Handed where
  landed : Nat
  command : GripperCommand
deriving DecidableEq, Repr

/-- An exchange the client returned from: which of the copies it was handed it had, and the time read
right after it. -/
structure Exchange where
  cycle : Nat
  landed : Nat
  command : GripperCommand
  status : GripperStatus
  completedAt : Int
deriving DecidableEq, Repr

inductive Outcome
  | succeeded
  | failed
deriving DecidableEq, Repr

/-- The state, the clock, and what has happened so far: the commands that landed, the copies handed
to the client, the blocks that reached the gripper, the exchanges that returned, the times they were
published, how the cycles ended (the last one first), and what was observed. -/
structure Host extends GripperState where
  now : Int
  seed : StampedExchange
  landed : List Landing
  handed : List Handed
  wire : List GripperCommand
  completed : List Exchange
  publishedAt : List Int
  outcomes : List Outcome
  observed : List StampedExchange
deriving DecidableEq, Repr

inductive HostAction
  | elapse (ns : Nat)
  | exchangeOnce
  -- the block reaches the gripper, which answers
  | answer (status : GripperStatus)
  -- the client's `exchange` throws, whether or not the block reached the gripper
  | fail
  | setCommand (command : GripperCommand)
  | observe
  | close
deriving DecidableEq, Repr

namespace Host

def start (s : GripperState) (now : Int) : Host :=
  { s with
    now, seed := s.image.stamped
    landed := [], handed := [], wire := [], completed := [], publishedAt := [], outcomes := []
    observed := [] }

def cycle (h : Host) : Nat :=
  h.handed.length - 1

def copiedAfter (h : Host) : Nat :=
  (h.handed[h.cycle]?.map Handed.landed).getD 0

def record (h : Host) : Host :=
  match h.point with
  | .idle => { h with handed := h.handed ++ [⟨h.landed.length, h.image.command⟩] }
  | .returned commandCopy freshStatus =>
      { h with completed := h.completed ++ [⟨h.cycle, h.copiedAfter, commandCopy, freshStatus, h.now⟩] }
  | .cleared _ _ _ => { h with outcomes := .succeeded :: h.outcomes }
  | .turned _ _ _ _ => { h with publishedAt := h.publishedAt ++ [h.now] }
  | _ => h

def step (h : Host) : HostAction → Option Host
  | .elapse ns => some { h with now := h.now + ns }
  | .exchangeOnce =>
      (h.toGripperState.exchangeOnce h.now).map fun s => { h.record with toGripperState := s }
  | .answer status =>
      match h.point with
      | .onWire commandCopy none =>
          some { h with
            point := .onWire commandCopy (some status)
            wire := h.wire ++ [commandCopy] }
      | _ => none
  | .fail =>
      match h.point with
      | .onWire _ _ => some { h with point := .thrown, outcomes := .failed :: h.outcomes }
      | _ => none
  | .setCommand command =>
      some { h with
        image := h.image.setCommand command
        landed := h.landed ++ [⟨command, h.wire.length, h.image.exchangeCount⟩] }
  | .observe => some { h with observed := h.observed ++ [h.image.stamped] }
  | .close => some { h with image := h.image.close }

inductive Step (h : Host) : HostAction → Host → Prop
  | elapse (ns : Nat) : Step h (.elapse ns) { h with now := h.now + ns }
  | copy (at_ : h.point = .idle) :
      Step h .exchangeOnce { h with
        point := .onWire h.image.command none
        handed := h.handed ++ [⟨h.landed.length, h.image.command⟩] }
  | reply (c : GripperCommand) (status : GripperStatus) (at_ : h.point = .onWire c (some status)) :
      Step h .exchangeOnce { h with point := .returned c status }
  | stamp (c : GripperCommand) (status : GripperStatus) (at_ : h.point = .returned c status) :
      Step h .exchangeOnce { h with
        point := .stamped c status h.now
        completed := h.completed ++ [⟨h.cycle, h.copiedAfter, c, status, h.now⟩] }
  | clear (c : GripperCommand) (status : GripperStatus) (time : Int)
      (at_ : h.point = .stamped c status time) :
      Step h .exchangeOnce { h with consecutiveFailures := 0, point := .cleared c status time }
  | turn (c : GripperCommand) (status : GripperStatus) (time : Int)
      (at_ : h.point = .cleared c status time) :
      Step h .exchangeOnce { h with
        connectionState := .operational
        point := .turned c status time (h.connectionState = .faulted)
        outcomes := .succeeded :: h.outcomes }
  | publish (c : GripperCommand) (status : GripperStatus) (time : Int) (recovered : Bool)
      (at_ : h.point = .turned c status time recovered) :
      Step h .exchangeOnce { h with
        image := h.image.publish c status time
        point := .published recovered
        publishedAt := h.publishedAt ++ [h.now] }
  | finish (recovered : Bool) (at_ : h.point = .published recovered) :
      Step h .exchangeOnce { h with
        log := if recovered then h.log ++ [linkRecovered] else h.log
        point := .idle }
  | count (at_ : h.point = .thrown) :
      Step h .exchangeOnce { h with
        consecutiveFailures := h.consecutiveFailures + 1
        point := .counted (h.consecutiveFailures + 1) }
  | degrade (failures : UInt32) (at_ : h.point = .counted failures)
      (many : faultThreshold ≤ failures.toNat) (was : h.connectionState ≠ .faulted) :
      Step h .exchangeOnce { h with connectionState := .faulted, point := .reporting }
  | endure (failures : UInt32) (at_ : h.point = .counted failures)
      (many : faultThreshold ≤ failures.toNat) (was : h.connectionState = .faulted) :
      Step h .exchangeOnce { h with connectionState := .faulted, point := .idle }
  | tolerate (failures : UInt32) (at_ : h.point = .counted failures)
      (few : ¬ faultThreshold ≤ failures.toNat) :
      Step h .exchangeOnce { h with point := .idle }
  | report (at_ : h.point = .reporting) :
      Step h .exchangeOnce { h with log := h.log ++ [linkFaulted], point := .idle }
  | answer (c : GripperCommand) (status : GripperStatus) (at_ : h.point = .onWire c none) :
      Step h (.answer status) { h with
        point := .onWire c (some status)
        wire := h.wire ++ [c] }
  | fail (c : GripperCommand) (answer : Option GripperStatus) (at_ : h.point = .onWire c answer) :
      Step h .fail { h with point := .thrown, outcomes := .failed :: h.outcomes }
  | setCommand (c : GripperCommand) :
      Step h (.setCommand c) { h with
        image := h.image.setCommand c
        landed := h.landed ++ [⟨c, h.wire.length, h.image.exchangeCount⟩] }
  | observe : Step h .observe { h with observed := h.observed ++ [h.image.stamped] }
  | close : Step h .close { h with image := h.image.close }

theorem step_cases {h h' : Host} {a : HostAction} (hstep : h.step a = some h') : Step h a h' := by
  cases a with
  | elapse ns => cases hstep; exact .elapse ns
  | exchangeOnce =>
      obtain ⟨s, hs, rfl⟩ := Option.map_eq_some_iff.mp hstep
      cases hpoint : h.point with
      | idle =>
          simp only [GripperState.exchangeOnce, hpoint, Option.some.injEq] at hs
          subst hs
          simpa only [record, hpoint] using Step.copy hpoint
      | onWire c answer =>
          cases answer with
          | none => simp [GripperState.exchangeOnce, hpoint] at hs
          | some status =>
              simp only [GripperState.exchangeOnce, hpoint, Option.some.injEq] at hs
              subst hs
              simpa only [record, hpoint] using Step.reply c status hpoint
      | returned c status =>
          simp only [GripperState.exchangeOnce, hpoint, Option.some.injEq] at hs
          subst hs
          simpa only [record, hpoint] using Step.stamp c status hpoint
      | stamped c status time =>
          simp only [GripperState.exchangeOnce, hpoint, Option.some.injEq] at hs
          subst hs
          simpa only [record, hpoint] using Step.clear c status time hpoint
      | cleared c status time =>
          simp only [GripperState.exchangeOnce, hpoint, Option.some.injEq] at hs
          subst hs
          simpa only [record, hpoint] using Step.turn c status time hpoint
      | turned c status time recovered =>
          simp only [GripperState.exchangeOnce, hpoint, Option.some.injEq] at hs
          subst hs
          simpa only [record, hpoint] using Step.publish c status time recovered hpoint
      | published recovered =>
          simp only [GripperState.exchangeOnce, hpoint, Option.some.injEq] at hs
          subst hs
          simpa only [record, hpoint] using Step.finish recovered hpoint
      | thrown =>
          simp only [GripperState.exchangeOnce, hpoint, Option.some.injEq] at hs
          subst hs
          simpa only [record, hpoint] using Step.count hpoint
      | counted failures =>
          simp only [GripperState.exchangeOnce, hpoint] at hs
          split at hs
          · rename_i many
            cases hs
            by_cases was : h.connectionState = .faulted
            · rw [if_neg (not_not_intro was)]
              simpa only [record, hpoint] using Step.endure failures hpoint many was
            · rw [if_pos was]
              simpa only [record, hpoint] using Step.degrade failures hpoint many was
          · rename_i few
            cases hs
            simpa only [record, hpoint] using Step.tolerate failures hpoint few
      | reporting =>
          simp only [GripperState.exchangeOnce, hpoint, Option.some.injEq] at hs
          subst hs
          simpa only [record, hpoint] using Step.report hpoint
  | answer status =>
      simp only [step] at hstep
      split at hstep
      · rename_i c hpoint
        cases hstep
        exact .answer c status hpoint
      · cases hstep
  | fail =>
      simp only [step] at hstep
      split at hstep
      · rename_i c answer hpoint
        cases hstep
        exact .fail c answer hpoint
      · cases hstep
  | setCommand c => cases hstep; exact .setCommand c
  | observe => cases hstep; exact .observe
  | close => cases hstep; exact .close

end Host
end TactileSensors.Gripper
