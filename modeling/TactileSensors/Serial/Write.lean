import TactileSensors.Serial.Posix

/-!
# Writing to the serial port

`DefaultSerial::write` on the POSIX port: the loop of `SerialPort::write`, then the two waits of
`SerialPort::drain`. The operating system takes bytes into its output queue and puts them on the wire
when it likes; its answers, the wire and the clock are labels, as for a read.
-/

namespace TactileSensors.Serial
open Machine Arith

def wireBitsPerByte : Nat := 10

/-- What `::write` and `ioctl(TIOCOUTQ)` answer: a count, or -1 with `errno`. -/
abbrev CountAnswer := ReadAnswer

/-- What `::poll` sets of the events asked for here, POLLOUT in the place of POLLIN. -/
structure OutputRevents where
  pollout : Bool := false
  pollerr : Bool := false
  pollhup : Bool := false
  pollnval : Bool := false
deriving DecidableEq, Repr

inductive OutputPollAnswer
  | failed (errno : Errno)
  | timedOut
  | events (revents : OutputRevents)
deriving DecidableEq, Repr

/-- `waitReady` tests the event it is given, whichever that is. -/
def OutputPollAnswer.forEvent : OutputPollAnswer → PollAnswer
  | .failed errno => .failed errno
  | .timedOut => .timedOut
  | .events revents => .events ⟨revents.pollout, revents.pollerr, revents.pollhup, revents.pollnval⟩

inductive TcdrainAnswer
  | drained
  | failed (errno : Errno)
deriving DecidableEq, Repr

inductive WriteException
  | closed
  | port (exception : SerialIOException)
  | short (written size : Nat)
  | undrained
deriving DecidableEq, Repr

/-- The texts of `DefaultSerial`; those of the port are the operating system's. -/
def WriteException.what : WriteException → Option String
  | .closed => some "SerialIOException: write called on closed port"
  | .port _ => none
  | .short written size => some ("SerialIOException: write timeout: wrote " ++ toString written ++
      " of " ++ toString size ++ " bytes")
  | .undrained => some "SerialIOException: write timeout: the bytes written did not drain"

structure WriteCall where
  data : List UInt8
  -- in milliseconds
  timeout : Int
  baudrate : Nat
  isOpen : Bool
  -- the clock at the call
  entered : Int
deriving DecidableEq, Repr

namespace WriteCall

def unbounded (call : WriteCall) : Bool := call.timeout = 0

def after (call : WriteCall) (now : Int) : Option Int := deadlineAfter now call.timeout

def remaining (call : WriteCall) (now : Int) : Option Int := do
  let deadline ← call.after call.entered
  int64 (deadline - now)

/-- `microseconds(seconds(1)) * kWireBitsPerByte / _baudrate`, in nanoseconds. -/
def byteTime (call : WriteCall) : Nat := 1000000 * wireBitsPerByte / call.baudrate * 1000

end WriteCall

inductive WritePoint
  | writing
  -- about to see what is left of the timeout
  | timing
  | polling (timeout : Int) (since : Int)
  -- about to set the deadline of `drain`
  | written
  | queueing (deadline : Int)
  -- bytes are queued, and the clock is about to be read
  | judging (deadline : Int) (queued : Nat)
  | sleeping (deadline : Int) (target : Int)
  | draining
  | returned
  | threw (exception : WriteException)
  | overflowed
deriving DecidableEq, Repr

structure WriteState where
  now : Int
  sent : Nat
  -- what the operating system holds, and what has left
  queue : List UInt8
  wire : List UInt8
  point : WritePoint
deriving DecidableEq, Repr

inductive WriteEvent
  | elapse (duration : Nat)
  -- the line takes bytes off the queue
  | transmit (count : Nat)
  | write (answer : CountAnswer)
  | clock
  | poll (answer : OutputPollAnswer)
  | queued (answer : CountAnswer)
  | wake
  | tcdrain (answer : TcdrainAnswer)
deriving DecidableEq, Repr

namespace WriteCall
variable (call : WriteCall) (s : WriteState)

def ended : WritePoint :=
  if s.sent < call.data.length then .threw (.short s.sent call.data.length) else .written

def loopHead : WritePoint :=
  if s.sent < call.data.length then .writing else call.ended s

/-- The loop body from the answer of `::write` to the next system call. -/
def afterWrite : CountAnswer → WriteState
  | .count bytes =>
      if 0 < bytes then
        let s := { s with
          queue := s.queue ++ (call.data.drop s.sent).take bytes
          sent := s.sent + bytes }
        { s with point := call.loopHead s }
      else { s with point := .timing }
  | .failed errno =>
      if errno = .eintr then { s with point := call.loopHead s }
      else if errno ≠ .eagain ∧ errno ≠ .ewouldblock then
        { s with point := .threw (.port (.os "writing to the serial port" errno)) }
      else { s with point := .timing }

/-- The loop body from the clock reading on. `nanoseconds::max()` is no less than any wait `poll` is
given. -/
def afterClock : WriteState :=
  if call.unbounded then { s with point := .polling int32Max s.now }
  else
    match call.remaining s.now with
    | none => { s with point := .overflowed }
    | some remaining =>
        if remaining ≤ 0 then { s with point := call.ended s }
        else { s with point := .polling (pollTimeout remaining) s.now }

def afterPoll (answer : OutputPollAnswer) : WriteState :=
  match waitReady "waiting to send on the serial port" answer.forEvent with
  | .error exception => { s with point := .threw (.port exception) }
  | .ok .timedOut => { s with point := call.ended s }
  | .ok _ => { s with point := call.loopHead s }

def startDrain : WriteState :=
  { s with point := (call.after s.now).elim .overflowed .queueing }

def sleep (deadline : Int) (queued : Nat) : WriteState :=
  { s with point := .sleeping deadline (s.now + (call.byteTime * queued : Nat)) }

/-- The test of `drain`'s first loop, and its body up to the clock. -/
def afterQueued (deadline : Int) : CountAnswer → WriteState
  | .count queued =>
      if 0 < queued then
        if call.unbounded then call.sleep s deadline queued
        else { s with point := .judging deadline queued }
      else { s with point := .draining }
  | .failed _ => { s with point := .draining }

def judge (deadline : Int) (queued : Nat) : WriteState :=
  if deadline ≤ s.now then { s with point := .threw .undrained }
  else call.sleep s deadline queued

def afterTcdrain : TcdrainAnswer → WriteState
  | .drained => { s with point := .returned }
  | .failed errno =>
      if errno = .eintr then s
      else { s with point := .threw (.port (.os "draining the serial port" errno)) }

def step : WriteEvent → Option WriteState
  | .elapse duration => some { s with now := s.now + duration }
  | .transmit count =>
      some { s with wire := s.wire ++ s.queue.take count, queue := s.queue.drop count }
  | .write answer => if s.point = .writing then some (call.afterWrite s answer) else none
  | .clock =>
      match s.point with
      | .timing => some (call.afterClock s)
      | .written => some (call.startDrain s)
      | .judging deadline queued => some (call.judge s deadline queued)
      | _ => none
  | .poll answer =>
      match s.point with
      | .polling _ _ => some (call.afterPoll s answer)
      | _ => none
  | .queued answer =>
      match s.point with
      | .queueing deadline => some (call.afterQueued s deadline answer)
      | _ => none
  | .wake =>
      match s.point with
      | .sleeping deadline _ => some { s with point := .queueing deadline }
      | _ => none
  | .tcdrain answer => if s.point = .draining then some (afterTcdrain s answer) else none

/-- What the operating system answers, errors and hang-ups included: it takes no more than it is given,
`poll` and `sleep_for` end no earlier than they were told to, the queue is as long as TIOCOUTQ says, and
`tcdrain` succeeds once it is empty. -/
def osAnswers : WriteEvent → Bool
  | .write (.count bytes) => bytes ≤ call.data.length - s.sent
  | .poll .timedOut =>
      match s.point with
      | .polling timeout since => since + timeout * nanosecondsPerMillisecond ≤ s.now
      | _ => false
  | .queued (.count queued) => queued = s.queue.length
  | .wake =>
      match s.point with
      | .sleeping _ target => target ≤ s.now
      | _ => false
  | .tcdrain .drained => s.queue = []
  | _ => true

def osStep (event : WriteEvent) : Option WriteState :=
  if call.osAnswers s event then call.step s event else none

def startWrite : WriteState :=
  { s with point := if (call.after call.entered).isSome then call.loopHead s else .overflowed }

def enter (queue wire : List UInt8) : WriteState :=
  let s : WriteState := ⟨call.entered, 0, queue, wire, .written⟩
  if call.isOpen then call.startWrite s else { s with point := .threw .closed }

def run (queue wire : List UInt8) (schedule : List WriteEvent) : Option WriteState :=
  Machine.run call.osStep (call.enter queue wire) schedule

/-! ## How long a call waits -/

def due : Int := call.entered + call.timeout * nanosecondsPerMillisecond

def InClock (now : Int) : Prop :=
  0 ≤ call.entered ∧ 0 ≤ call.timeout ∧ now + call.timeout * nanosecondsPerMillisecond ≤ int64Max

/-- What a call waits for before it reports a timeout: `poll` is given no more than `INT32_MAX`
milliseconds, and a zero timeout is one that long. -/
def patience : Int :=
  (if call.unbounded then int32Max else min call.timeout int32Max) * nanosecondsPerMillisecond

end WriteCall

theorem le_ceilMilliseconds (duration : Int) :
    duration ≤ ceilMilliseconds duration * nanosecondsPerMillisecond := by
  have parts := Int.mul_tdiv_add_tmod duration nanosecondsPerMillisecond
  have less := Int.tmod_lt_of_pos duration (b := nanosecondsPerMillisecond) (by decide)
  have rounded : duration - duration.tmod nanosecondsPerMillisecond =
      duration.tdiv nanosecondsPerMillisecond * nanosecondsPerMillisecond := by
    rw [Int.mul_comm]
    omega
  by_cases lost : duration.tdiv nanosecondsPerMillisecond * nanosecondsPerMillisecond < duration
  · rw [ceilMilliseconds, if_pos lost, Int.add_mul, ← rounded]
    omega
  · rw [ceilMilliseconds, if_neg lost]
    omega

theorem pollTimeout_pos {remaining : Int} (positive : 0 < remaining) : 1 ≤ pollTimeout remaining := by
  have covers := le_ceilMilliseconds remaining
  simp only [pollTimeout, int32Max, nanosecondsPerMillisecond] at *
  omega

namespace WriteCall
variable {call : WriteCall} {line : List UInt8} {s s' : WriteState}

theorem after_eq_some {now deadline : Int} (sum : call.after now = some deadline) :
    now + call.timeout * nanosecondsPerMillisecond = deadline :=
  (deadlineAfter_eq_some.mp sum).2.2

theorem remaining_eq_some {now left : Int} (given : call.remaining now = some left) :
    call.due - now = left := by
  rw [remaining, Option.bind_eq_bind, Option.bind_eq_some_iff] at given
  obtain ⟨deadline, sum, difference⟩ := given
  obtain rfl := after_eq_some sum
  exact (int64_eq_some.mp difference).2

theorem InClock.earlier {since now : Int} (inClock : call.InClock now) (later : since ≤ now) :
    call.InClock since :=
  ⟨inClock.1, inClock.2.1, Int.le_trans (Int.add_le_add_right later _) inClock.2.2⟩

theorem InClock.after {now : Int} (inClock : call.InClock now) (later : call.entered ≤ now) :
    call.after now = some (now + call.timeout * nanosecondsPerMillisecond) := by
  obtain ⟨since, nonneg, small⟩ := inClock
  have duration : 0 ≤ call.timeout * nanosecondsPerMillisecond := Int.mul_nonneg nonneg (by decide)
  exact deadlineAfter_eq_some.mpr
    ⟨fits_of_nonneg duration (by omega), fits_of_nonneg (by omega) small, rfl⟩

theorem InClock.remaining {now : Int} (inClock : call.InClock now) (later : call.entered ≤ now) :
    call.remaining now = some (call.due - now) := by
  rw [WriteCall.remaining, (inClock.earlier later).after (Int.le_refl _)]
  obtain ⟨since, nonneg, small⟩ := inClock
  have duration : 0 ≤ call.timeout * nanosecondsPerMillisecond := Int.mul_nonneg nonneg (by decide)
  refine int64_eq_some.mpr ⟨⟨?_, ?_⟩, rfl⟩
  · simp only [int64Min, int64Max] at *
    omega
  · omega

theorem patience_le {since left now : Int} (bounded : call.unbounded = false)
    (entered : call.entered ≤ since) (given : call.remaining since = some left)
    (passed : since + pollTimeout left * nanosecondsPerMillisecond ≤ now) :
    call.entered + call.patience ≤ now := by
  obtain rfl := remaining_eq_some given
  have covers := le_ceilMilliseconds (call.due - since)
  rw [patience, bounded, if_neg Bool.false_ne_true]
  simp only [pollTimeout, due, int32Max, nanosecondsPerMillisecond] at *
  omega

theorem patience_le_of_late {now : Int} (bounded : call.unbounded = false) (late : call.due ≤ now) :
    call.entered + call.patience ≤ now := by
  rw [patience, bounded, if_neg Bool.false_ne_true]
  simp only [due, int32Max, nanosecondsPerMillisecond] at *
  omega

theorem waitReady_timedOut {context : String} {answer : OutputPollAnswer}
    (waited : waitReady context answer.forEvent = .ok .timedOut) : answer = .timedOut := by
  cases answer with
  | timedOut => rfl
  | failed errno =>
      simp only [OutputPollAnswer.forEvent, waitReady] at waited
      split at waited <;> cases waited
  | events revents =>
      simp only [OutputPollAnswer.forEvent, waitReady] at waited
      split at waited
      · cases waited
      · split at waited <;> cases waited

/-! ## The invariant of a call -/

def At (call : WriteCall) (s : WriteState) : WritePoint → Prop
  | .writing | .timing => s.sent < call.data.length
  | .polling timeout since =>
      s.sent < call.data.length ∧ 1 ≤ timeout ∧
        ∀ now, since + timeout * nanosecondsPerMillisecond ≤ now → call.entered + call.patience ≤ now
  | .written | .draining => s.sent = call.data.length
  | .queueing deadline | .sleeping deadline _ =>
      s.sent = call.data.length ∧ call.due ≤ deadline
  | .judging deadline _ =>
      s.sent = call.data.length ∧ call.due ≤ deadline ∧ call.unbounded = false
  | .returned => s.sent = call.data.length ∧ s.queue = []
  | .threw .closed => call.isOpen = false ∧ s.sent = 0
  | .threw (.port _) => True
  | .threw (.short written size) =>
      written = s.sent ∧ size = call.data.length ∧ written < size ∧ call.entered + call.patience ≤ s.now
  | .threw .undrained =>
      s.sent = call.data.length ∧ call.timeout ≠ 0 ∧ call.due ≤ s.now
  | .overflowed => ¬ call.InClock s.now

structure Progress (call : WriteCall) (line : List UInt8) (s : WriteState) : Prop where
  in_order : s.wire ++ s.queue = line ++ call.data.take s.sent
  within : s.sent ≤ call.data.length
  later : call.entered ≤ s.now
  opened : s.point ≠ .threw .closed → call.isOpen = true
  stands : call.At s s.point

theorem At.goto {point elsewhere : WritePoint} (stands : call.At s point) :
    call.At { s with point := elsewhere } point := by
  cases point <;> exact stands

theorem Progress.goto {point : WritePoint} (inv : Progress call line s) (inside : s.point ≠ .threw .closed)
    (stands : call.At s point) : Progress call line { s with point } :=
  ⟨inv.in_order, inv.within, inv.later, fun _ => inv.opened inside, stands.goto⟩

theorem at_ended (within : s.sent ≤ call.data.length)
    (waited : s.sent < call.data.length → call.entered + call.patience ≤ s.now) :
    call.At s (call.ended s) := by
  unfold ended
  split
  · rename_i fewer
    exact ⟨rfl, rfl, fewer, waited fewer⟩
  · exact Nat.le_antisymm within (not_lt.mp ‹_›)

theorem at_loopHead (within : s.sent ≤ call.data.length) : call.At s (call.loopHead s) := by
  unfold loopHead
  split
  · assumption
  · exact at_ended within fun fewer => absurd fewer ‹_›

/-! ## Steps -/

namespace Progress

theorem afterWrite {answer : CountAnswer} (inv : Progress call line s) (at_ : s.point = .writing)
    (asked : call.osAnswers s (.write answer) = true) : Progress call line (call.afterWrite s answer) := by
  have inside : s.point ≠ .threw .closed := by simp [at_]
  have fewer : s.sent < call.data.length := by simpa [at_, At] using inv.stands
  cases answer with
  | failed errno =>
      simp only [WriteCall.afterWrite]
      split
      · exact inv.goto inside (at_loopHead inv.within)
      split
      · exact inv.goto inside trivial
      · exact inv.goto inside fewer
  | count bytes =>
      have most : bytes ≤ call.data.length - s.sent := of_decide_eq_true asked
      simp only [WriteCall.afterWrite]
      split
      · refine ⟨?_, Nat.add_le_of_le_sub' (Nat.le_of_lt fewer) most, inv.later, fun _ => inv.opened inside, ?_⟩
        · rw [← List.append_assoc, inv.in_order, List.take_add, List.append_assoc]
        · exact at_loopHead (Nat.add_le_of_le_sub' (Nat.le_of_lt fewer) most)
      · exact inv.goto inside fewer

theorem afterClock (inv : Progress call line s) (at_ : s.point = .timing) :
    Progress call line (call.afterClock s) := by
  have inside : s.point ≠ .threw .closed := by simp [at_]
  have fewer : s.sent < call.data.length := by simpa [at_, At] using inv.stands
  unfold WriteCall.afterClock
  split
  · rename_i unbounded
    refine inv.goto inside ⟨fewer, by decide, fun now passed => ?_⟩
    rw [patience, if_pos unbounded]
    exact Int.le_trans (Int.add_le_add_right inv.later _) passed
  · rename_i bounded
    rw [Bool.not_eq_true] at bounded
    split
    · rename_i unfit
      refine inv.goto inside fun inClock => ?_
      rw [inClock.remaining inv.later] at unfit
      cases unfit
    · rename_i left given
      split
      · rename_i passed
        have late : call.due ≤ s.now := by
          have left := remaining_eq_some given
          omega
        exact inv.goto inside (at_ended inv.within fun _ => patience_le_of_late bounded late)
      · exact inv.goto inside ⟨fewer, pollTimeout_pos (by omega), fun now passed =>
          patience_le bounded inv.later given passed⟩

theorem startDrain (inv : Progress call line s) (at_ : s.point = .written) :
    Progress call line (call.startDrain s) := by
  have inside : s.point ≠ .threw .closed := by simp [at_]
  have whole : call.At s .written := at_ ▸ inv.stands
  unfold WriteCall.startDrain
  cases sum : call.after s.now with
  | none =>
      refine inv.goto inside fun inClock => ?_
      rw [inClock.after inv.later] at sum
      cases sum
  | some deadline =>
      obtain rfl := after_eq_some sum
      exact inv.goto inside ⟨whole, Int.add_le_add_right inv.later _⟩

theorem afterPoll {answer : OutputPollAnswer} {timeout since : Int} (inv : Progress call line s)
    (at_ : s.point = .polling timeout since) (asked : call.osAnswers s (.poll answer) = true) :
    Progress call line (call.afterPoll s answer) := by
  have inside : s.point ≠ .threw .closed := by simp [at_]
  obtain ⟨fewer, -, waited⟩ : call.At s (.polling timeout since) := at_ ▸ inv.stands
  unfold WriteCall.afterPoll
  split
  · exact inv.goto inside trivial
  · rename_i ended
    obtain rfl := waitReady_timedOut ended
    simp only [osAnswers, at_, decide_eq_true_eq] at asked
    exact inv.goto inside (at_ended inv.within fun _ => waited s.now asked)
  · exact inv.goto inside (at_loopHead inv.within)

theorem afterQueued {answer : CountAnswer} {deadline : Int} (inv : Progress call line s)
    (at_ : s.point = .queueing deadline) : Progress call line (call.afterQueued s deadline answer) := by
  have inside : s.point ≠ .threw .closed := by simp [at_]
  obtain ⟨whole, ahead⟩ : call.At s (.queueing deadline) := at_ ▸ inv.stands
  cases answer with
  | failed errno => exact inv.goto inside whole
  | count queued =>
      simp only [WriteCall.afterQueued]
      split
      · split
        · exact inv.goto inside ⟨whole, ahead⟩
        · rename_i bounded
          exact inv.goto inside ⟨whole, ahead, by simpa using bounded⟩
      · exact inv.goto inside whole

theorem judge {deadline : Int} {queued : Nat} (inv : Progress call line s)
    (at_ : s.point = .judging deadline queued) : Progress call line (call.judge s deadline queued) := by
  have inside : s.point ≠ .threw .closed := by simp [at_]
  obtain ⟨whole, ahead, bounded⟩ : call.At s (.judging deadline queued) := at_ ▸ inv.stands
  unfold WriteCall.judge
  split
  · rename_i late
    exact inv.goto inside ⟨whole, by simpa [unbounded] using bounded, Int.le_trans ahead late⟩
  · exact inv.goto inside ⟨whole, ahead⟩

theorem afterTcdrain {answer : TcdrainAnswer} (inv : Progress call line s) (at_ : s.point = .draining)
    (asked : call.osAnswers s (.tcdrain answer) = true) : Progress call line (afterTcdrain s answer) := by
  have inside : s.point ≠ .threw .closed := by simp [at_]
  have whole : call.At s .draining := at_ ▸ inv.stands
  cases answer with
  | drained => exact inv.goto inside ⟨whole, of_decide_eq_true asked⟩
  | failed errno =>
      simp only [WriteCall.afterTcdrain]
      split
      · exact inv
      · exact inv.goto inside trivial

theorem aside {now : Int} {queue wire : List UInt8} (inv : Progress call line s) (later : s.now ≤ now)
    (in_order : wire ++ queue = s.wire ++ s.queue) (shorter : s.queue = [] → queue = []) :
    Progress call line { s with now, queue, wire } := by
  refine ⟨in_order.trans inv.in_order, inv.within, Int.le_trans inv.later later, inv.opened, ?_⟩
  have stands := inv.stands
  cases at_ : s.point with
  | returned =>
      rw [at_] at stands
      exact ⟨stands.1, shorter stands.2⟩
  | threw exception =>
      rw [at_] at stands
      cases exception with
      | closed | port _ => exact stands
      | short written size =>
          exact ⟨stands.1, stands.2.1, stands.2.2.1, Int.le_trans stands.2.2.2 later⟩
      | undrained => exact ⟨stands.1, stands.2.1, Int.le_trans stands.2.2 later⟩
  | overflowed =>
      rw [at_] at stands
      exact fun inClock => stands (inClock.earlier later)
  | _ => rw [at_] at stands; exact stands

theorem step {event : WriteEvent} (inv : Progress call line s) (hstep : call.osStep s event = some s') :
    Progress call line s' := by
  obtain ⟨asked, moves⟩ := Option.ite_none_right_eq_some.mp hstep
  cases event with
  | elapse duration =>
      cases moves
      exact inv.aside (by omega) rfl id
  | transmit count =>
      cases moves
      refine inv.aside (Int.le_refl _) ?_ fun empty => by rw [empty, List.drop_nil]
      rw [List.append_assoc, List.take_append_drop]
  | write answer =>
      obtain ⟨at_, same⟩ := Option.ite_none_right_eq_some.mp moves
      cases same
      exact inv.afterWrite at_ asked
  | clock =>
      simp only [WriteCall.step] at moves
      split at moves
      · cases moves
        exact inv.afterClock ‹_›
      · cases moves
        exact inv.startDrain ‹_›
      · cases moves
        exact inv.judge ‹_›
      · cases moves
  | poll answer =>
      simp only [WriteCall.step] at moves
      split at moves
      · cases moves
        exact inv.afterPoll ‹_› asked
      · cases moves
  | queued answer =>
      simp only [WriteCall.step] at moves
      split at moves
      · cases moves
        exact inv.afterQueued ‹_›
      · cases moves
  | wake =>
      simp only [WriteCall.step] at moves
      split at moves
      · rename_i deadline target at_
        cases moves
        have rested : call.At s (.sleeping deadline target) := at_ ▸ inv.stands
        exact inv.goto (by simp [at_]) rested
      · cases moves
  | tcdrain answer =>
      obtain ⟨at_, same⟩ := Option.ite_none_right_eq_some.mp moves
      cases same
      exact inv.afterTcdrain at_ asked

theorem enter (call : WriteCall) (queue wire : List UInt8) :
    Progress call (wire ++ queue) (call.enter queue wire) := by
  unfold WriteCall.enter
  cases isOpen : call.isOpen with
  | false => exact ⟨by simp, Nat.zero_le _, Int.le_refl _, fun inside => absurd rfl inside, isOpen, rfl⟩
  | true =>
      refine ⟨by simp [startWrite], Nat.zero_le _, Int.le_refl _, fun _ => isOpen, ?_⟩
      cases sum : call.after call.entered with
      | some deadline =>
          rw [if_pos rfl, startWrite, sum]
          exact (at_loopHead (Nat.zero_le _)).goto
      | none =>
          rw [if_pos rfl, startWrite, sum]
          intro inClock
          rw [inClock.after (Int.le_refl _)] at sum
          cases sum

theorem run {queue wire : List UInt8} {schedule : List WriteEvent}
    (hrun : call.run queue wire schedule = some s) : Progress call (wire ++ queue) s :=
  run_invariant (fun _ _ _ => Progress.step) hrun (Progress.enter call queue wire)

end Progress

/-! ## Writes -/

/-- What a call promises, at every moment of it. -/
structure Delivers (call : WriteCall) (line : List UInt8) (s : WriteState) : Prop where
  -- the line has what was on it and a beginning of the data, in order and once
  in_order : s.wire ++ s.queue = line ++ call.data.take s.sent
  whole : s.point = .returned → s.wire = line ++ call.data
  closed : call.isOpen = false → s.point = .threw .closed ∧ s.sent = 0
  short : ∀ written size, s.point = .threw (.short written size) →
    written = s.sent ∧ size = call.data.length ∧ written < size ∧ call.entered + call.patience ≤ s.now
  undrained : s.point = .threw .undrained →
    s.sent = call.data.length ∧ call.timeout ≠ 0 ∧ call.due ≤ s.now
  defined : call.InClock s.now → s.point ≠ .overflowed
  waits : ∀ timeout since, s.point = .polling timeout since → 1 ≤ timeout

/-- Whatever the operating system answers and whenever it does, a write that returns has put its bytes on
the wire, whole and in order, and one that does not says how many it handed over; it never gives up
before its patience is over. -/
theorem write_delivers (call : WriteCall) (queue wire : List UInt8) (schedule : List WriteEvent)
    (s : WriteState) (hrun : call.run queue wire schedule = some s) :
    Delivers call (wire ++ queue) s := by
  have inv := Progress.run hrun
  have stands := inv.stands
  refine ⟨inv.in_order, fun at_ => ?_, fun shut => ?_, fun written size at_ => ?_, fun at_ => ?_,
    fun inClock at_ => ?_, fun timeout since at_ => ?_⟩
  · rw [at_] at stands
    obtain ⟨all, empty⟩ := stands
    have in_order := inv.in_order
    rwa [empty, List.append_nil, all, List.take_length] at in_order
  · have at_ : s.point = .threw .closed := by
      by_contra inside
      rw [inv.opened inside] at shut
      cases shut
    rw [at_] at stands
    exact ⟨at_, stands.2⟩
  · rw [at_] at stands
    exact stands
  · rw [at_] at stands
    exact stands
  · rw [at_] at stands
    exact stands inClock
  · rw [at_] at stands
    exact stands.2.1

/-- Two bytes behind one that is still queued: taken one at a time, with a full queue between them, and
drained while the caller sleeps. -/
def behind : List WriteEvent :=
  [.write (.count 1), .write (.failed .eagain), .clock, .transmit 1,
    .poll (.events ⟨true, false, false, false⟩), .write (.count 1), .clock, .queued (.count 2), .clock,
    .transmit 2, .elapse 172000, .wake, .queued (.count 0), .tcdrain .drained]

theorem write_delivers_behind :
    ∃ s, WriteCall.run ⟨[0x09, 0x17], 500, 115200, true, 0⟩ [0xAA] [] behind = some s ∧
      s.point = .returned ∧ s.wire = [0xAA, 0x09, 0x17] := by
  refine ⟨⟨172000, 2, [], [0xAA, 0x09, 0x17], .returned⟩, by decide, rfl, ?_⟩
  exact (write_delivers ⟨[0x09, 0x17], 500, 115200, true, 0⟩ [0xAA] [] behind _ (by decide)).whole rfl

end WriteCall
end TactileSensors.Serial
