import TactileSensors.Machine.Run
import TactileSensors.Usb.Packet

/-!
# The reader thread's life cycle

`stop` only lowers the running flag; the reader leaves its loop when it next looks at the flag, and
`start` makes a new thread only when there is no thread object to join. Nothing joins the old one
before the destructor, so a `start` that comes after the reader has left raises the flag for nobody.
-/

namespace TactileSensors.Usb
open Machine

/-- Where the reader thread is in `threadLoop`: before the loop, at its `while (m_running)`, after
it, or returned. -/
inductive ReaderPoint
  | entering
  | looping
  | leaving
  | finished
deriving DecidableEq, Repr

/-- The part of `RobotiqTactileSensor` its life cycle touches. `thread` is the reader behind a
joinable `m_thread`; `sent` is every auto-send request put on the port, the last one first. -/
structure Sensor where
  connected : Bool
  running : Bool
  periodMs : Nat
  thread : Option ReaderPoint
  sent : List (UInt8 × UInt8)
deriving DecidableEq, Repr

def Sensor.opened (periodMs : Nat) : Sensor :=
  { connected := true, running := true, periodMs, thread := some .entering, sent := [] }

def Sensor.joinable (s : Sensor) : Bool :=
  s.thread.isSome

def Sensor.stop (s : Sensor) : Sensor :=
  { s with running := false }

def Sensor.start (s : Sensor) : Sensor :=
  if !s.running && s.connected then
    let s := { s with running := true }
    if !s.joinable then { s with thread := some .entering } else s
  else s

def Sensor.autosend (s : Sensor) (period : UInt8) : Sensor :=
  { s with sent := (usbCommandAutosendSyncSensors, period) :: s.sent }

def Sensor.threadLoop (s : Sensor) : Option Sensor :=
  match s.thread with
  | some .entering => some { s.autosend s.periodMs.toUInt8 with thread := some .looping }
  | some .looping => some (if s.running then s else { s with thread := some .leaving })
  | some .leaving => some { s.autosend 0 with thread := some .finished }
  | some .finished | none => none

inductive LifecycleEvent
  | start
  | stop
  | reader
deriving DecidableEq, Repr

def Sensor.step (s : Sensor) : LifecycleEvent → Option Sensor
  | .start => some s.start
  | .stop => some s.stop
  | .reader => s.threadLoop

def Sensor.reading (s : Sensor) : Bool :=
  s.thread = some .entering ∨ s.thread = some .looping

/-- The life-cycle law: a running sensor has a reader. -/
def Sensor.Served (s : Sensor) : Prop :=
  s.running → s.reading

/-- `start` finds the reader still in its loop. -/
def StartsInTime (s : Sensor) (event : LifecycleEvent) : Prop :=
  event = .start → s.reading

structure Sensor.Inv (s : Sensor) : Prop where
  connected : s.connected
  joinable : s.joinable
  served : s.Served

theorem inv_opened (periodMs : Nat) : (Sensor.opened periodMs).Inv :=
  ⟨rfl, rfl, fun _ => rfl⟩

theorem start_of_running {s : Sensor} (h : s.running) : s.start = s := by
  simp [Sensor.start, h]

theorem start_of_stopped {s : Sensor} (inv : s.Inv) (h : s.running = false) :
    s.start = { s with running := true } := by
  have joinable := inv.joinable
  simp_all [Sensor.start, inv.connected, Sensor.joinable]

theorem inv_start {s : Sensor} (inv : s.Inv) (inTime : s.reading) : s.start.Inv := by
  cases running : s.running with
  | true => rwa [start_of_running running]
  | false =>
      rw [start_of_stopped inv running]
      exact ⟨inv.connected, inv.joinable, fun _ => inTime⟩

theorem inv_threadLoop {s s' : Sensor} (inv : s.Inv) (h : s.threadLoop = some s') : s'.Inv := by
  unfold Sensor.threadLoop at h
  split at h
  · cases h
    exact ⟨inv.connected, rfl, fun _ => rfl⟩
  · cases running : s.running with
    | true => simp only [running, if_true, Option.some.injEq] at h; subst h; exact inv
    | false =>
        simp only [running, Bool.false_eq_true, if_false, Option.some.injEq] at h
        subst h
        exact ⟨inv.connected, rfl, fun up => by simp at up⟩
  · -- A reader past its loop was let go: the flag is down.
    rename_i leaving
    cases h
    refine ⟨inv.connected, rfl, fun up => ?_⟩
    have := inv.served up
    simp [Sensor.reading, leaving] at this
  · cases h
  · cases h

theorem inv_step {s s' : Sensor} {event : LifecycleEvent} (inv : s.Inv)
    (inTime : StartsInTime s event) (h : s.step event = some s') : s'.Inv := by
  cases event with
  | start => cases h; exact inv_start inv (inTime rfl)
  | stop => cases h; exact ⟨inv.connected, inv.joinable, fun up => by cases up⟩
  | reader => exact inv_threadLoop inv h

theorem late_start {s s' : Sensor} {event : LifecycleEvent} (inv : s.Inv)
    (late : ¬ StartsInTime s event) (h : s.step event = some s') : ¬ s'.Served := by
  obtain ⟨rfl, gone⟩ := Classical.not_imp.mp late
  have stopped : s.running = false := by
    by_contra up
    exact gone (inv.served (by simpa using up))
  cases h
  rw [start_of_stopped inv stopped]
  exact fun served => gone (served rfl)

/-- Every `start` leaves the flag raised and a reader in its loop. -/
def StartsStream (periodMs : Nat) (events : List LifecycleEvent) : Prop :=
  ∀ before after s, events = before ++ .start :: after →
    run Sensor.step (.opened periodMs) before = some s → s.start.running ∧ s.start.reading

/-- A running sensor has a reader at every moment, and every `start` leaves it streaming, exactly
when no `start` comes after the reader has left its loop. -/
theorem running_sensor_is_read_iff (periodMs : Nat) (events : List LifecycleEvent) (s : Sensor)
    (hrun : run Sensor.step (.opened periodMs) events = some s) :
    (Throughout Sensor.step Sensor.Served (.opened periodMs) events ∧
        StartsStream periodMs events) ↔
      StepsMeet Sensor.step StartsInTime (.opened periodMs) events := by
  have served_iff : Throughout Sensor.step Sensor.Served (.opened periodMs) events ↔
      StepsMeet Sensor.step StartsInTime (.opened periodMs) events :=
    throughout_iff_stepsMeet (fun _ inv => inv.served) (fun _ _ _ => inv_step)
      (fun _ _ _ => late_start) hrun (inv_opened periodMs)
  constructor
  · exact fun h => served_iff.mp h.1
  · intro inTime
    refine ⟨served_iff.mpr inTime, fun before after mid split hmid => ?_⟩
    have inv : mid.Inv :=
      run_invariant_of_stepsMeet (fun _ _ _ => inv_step) hmid (split ▸ inTime).left
        (inv_opened periodMs)
    have reading := inTime before .start after mid split hmid rfl
    cases running : mid.running with
    | true => rw [start_of_running running]; exact ⟨running, reading⟩
    | false => rw [start_of_stopped inv running]; exact ⟨rfl, reading⟩

/-- Stopped, gone, started again: the flag is up and the reader has left. -/
theorem restart_after_exit_reads_nothing :
    ∃ s, run Sensor.step (.opened 1) [.reader, .stop, .reader, .start] = some s ∧
      s.running ∧ s.thread = some .leaving ∧
      ¬ Throughout Sensor.step Sensor.Served (.opened 1) [.reader, .stop, .reader, .start] := by
  let stranded : Sensor := ⟨true, true, 1, some .leaving, [(usbCommandAutosendSyncSensors, 1)]⟩
  have hrun : run Sensor.step (.opened 1) [.reader, .stop, .reader, .start] = some stranded := by
    decide
  exact ⟨stranded, hrun, rfl, rfl, fun h => absurd (h.last hrun rfl) (by decide)⟩

theorem restart_in_time_reads :
    ∃ s, run Sensor.step (.opened 1) [.reader, .stop, .start, .reader] = some s ∧ s.reading ∧
      ((Throughout Sensor.step Sensor.Served (.opened 1) [.reader, .stop, .start, .reader] ∧
          StartsStream 1 [.reader, .stop, .start, .reader]) ↔
        StepsMeet Sensor.step StartsInTime (.opened 1) [.reader, .stop, .start, .reader]) := by
  refine ⟨⟨true, true, 1, some .looping, [(usbCommandAutosendSyncSensors, 1)]⟩, by decide, rfl, ?_⟩
  exact running_sensor_is_read_iff 1 _ ⟨true, true, 1, some .looping, [(usbCommandAutosendSyncSensors, 1)]⟩
    (by decide)

end TactileSensors.Usb
