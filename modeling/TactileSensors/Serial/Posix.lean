import TactileSensors.Arith.Fixed
import TactileSensors.Machine.Run

/-!
# The POSIX serial port

`SerialPort::read` against the operating system it calls. The thread's part is a translation of the
loop, cut at the system calls; the calls' answers, the arrival of bytes and the passing of time are
labels, so a list of labels is one schedule of a call. The clock counts nanoseconds in 64 bits; a sum
or difference that does not fit has no meaning, and the call none after it.
-/

namespace TactileSensors.Serial
open Arith

def nanosecondsPerMillisecond : Int := 1000000

inductive Errno
  | eintr
  | eagain
  | ewouldblock
  | other (number : Nat)
deriving DecidableEq, Repr

/-- What `::read` answers: a count, zero included, or -1 with `errno`. -/
inductive ReadAnswer
  | count (bytes : Nat)
  | failed (errno : Errno)
deriving DecidableEq, Repr

structure Revents where
  pollin : Bool := false
  pollerr : Bool := false
  pollhup : Bool := false
  pollnval : Bool := false
deriving DecidableEq, Repr

inductive PollAnswer
  | failed (errno : Errno)
  | timedOut
  | events (revents : Revents)
deriving DecidableEq, Repr

inductive SerialIOException
  | os (context : String) (errno : Errno)
  | eio (context : String)
  | hungUp (context : String)
deriving DecidableEq, Repr

inductive WaitResult
  | ready
  | interrupted
  | timedOut
deriving DecidableEq, Repr

/-- `std::chrono::ceil<milliseconds>`: truncate, then step up if that lost something. -/
def ceilMilliseconds (duration : Int) : Int :=
  let truncated := duration.tdiv nanosecondsPerMillisecond
  if truncated * nanosecondsPerMillisecond < duration then truncated + 1 else truncated

def int32Max : Int := 2147483647

/-- The timeout `waitReady` hands to `::poll`, in milliseconds. -/
def pollTimeout (remaining : Int) : Int :=
  min (ceilMilliseconds remaining) int32Max

def waitReady (context : String) : PollAnswer → Except SerialIOException WaitResult
  | .failed errno => if errno = .eintr then .ok .interrupted else .error (.os context errno)
  | .timedOut => .ok .timedOut
  | .events revents =>
      if revents.pollerr || revents.pollnval then .error (.eio context)
      else if !revents.pollin && revents.pollhup then .error (.hungUp context)
      else .ok .ready

def deadlineAfter (now timeout : Int) : Option Int := do
  let duration ← int64 (timeout * nanosecondsPerMillisecond)
  int64 (now + duration)

theorem deadlineAfter_eq_some {now timeout deadline : Int} :
    deadlineAfter now timeout = some deadline ↔
      Fits (timeout * nanosecondsPerMillisecond) ∧ Fits (now + timeout * nanosecondsPerMillisecond) ∧
        now + timeout * nanosecondsPerMillisecond = deadline := by
  rw [deadlineAfter, int64_bind_eq_some, int64_eq_some]

structure Call where
  size : Nat
  -- in milliseconds
  timeout : Int
  -- the clock at the call
  entered : Int
deriving DecidableEq, Repr

def Call.deadline (call : Call) : Option Int := deadlineAfter call.entered call.timeout

def Call.remaining (call : Call) (now : Int) : Option Int := do
  let deadline ← call.deadline
  int64 (deadline - now)

/-- Where the thread stands: in `::read`, about to read the clock because nothing was buffered, in
`::poll` since some instant, or out of the function. -/
inductive Point
  | reading
  | timing
  | polling (timeout : Int) (since : Int)
  | returned
  | threw (exception : SerialIOException)
  | overflowed
deriving DecidableEq, Repr

structure State where
  buffered : List UInt8
  now : Int
  received : List UInt8
  polledReadable : Bool
  point : Point
deriving DecidableEq, Repr

inductive Event
  | arrive (bytes : List UInt8)
  | elapse (duration : Nat)
  | read (answer : ReadAnswer)
  | clock
  | poll (answer : PollAnswer)
deriving DecidableEq, Repr

def loopHead (call : Call) (received : List UInt8) : Point :=
  if received.length < call.size then .reading else .returned

/-- The loop body from the answer of `::read` to the next system call. -/
def afterRead (call : Call) (s : State) : ReadAnswer → State
  | .count bytes =>
      if 0 < bytes then
        let received := s.received ++ s.buffered.take bytes
        { s with
          buffered := s.buffered.drop bytes
          received := received
          point := loopHead call received }
      else if s.polledReadable then
        { s with point := .threw (.hungUp "reading from the serial port") }
      else { s with point := .timing }
  | .failed errno =>
      if errno = .eintr then { s with point := loopHead call s.received }
      else if errno ≠ .eagain ∧ errno ≠ .ewouldblock then
        { s with point := .threw (.os "reading from the serial port" errno) }
      else { s with point := .timing }

def afterClock (call : Call) (s : State) : State :=
  match call.remaining s.now with
  | none => { s with point := .overflowed }
  | some remaining =>
      if remaining ≤ 0 then { s with point := .returned }
      else { s with point := .polling (pollTimeout remaining) s.now }

/-- The loop body from the answer of `::poll` on. -/
def afterPoll (call : Call) (s : State) (answer : PollAnswer) : State :=
  match waitReady "waiting for serial input" answer with
  | .error exception => { s with point := .threw exception }
  | .ok .timedOut => { s with point := .returned }
  | .ok result =>
      { s with polledReadable := result = .ready, point := loopHead call s.received }

def readStep (call : Call) (s : State) : Event → Option State
  | .arrive bytes => some { s with buffered := s.buffered ++ bytes }
  | .elapse duration => some { s with now := s.now + duration }
  | .read answer => if s.point = .reading then some (afterRead call s answer) else none
  | .clock => if s.point = .timing then some (afterClock call s) else none
  | .poll answer =>
      match s.point with
      | .polling _ _ => some (afterPoll call s answer)
      | _ => none

def readable : Revents := { pollin := true }

def peerStays (call : Call) (s : State) : Event → Bool
  | .arrive _ | .elapse _ | .clock => true
  | .read (.count bytes) =>
      if s.buffered = [] then bytes = 0
      else 0 < bytes ∧ bytes ≤ call.size - s.received.length ∧ bytes ≤ s.buffered.length
  | .read (.failed errno) => errno = .eintr ∨ errno = .eagain ∨ errno = .ewouldblock
  | .poll (.failed errno) => errno = .eintr
  | .poll .timedOut =>
      match s.point with
      | .polling timeout since =>
          s.buffered = [] ∧ since + timeout * nanosecondsPerMillisecond ≤ s.now
      | _ => false
  | .poll (.events revents) => revents = readable ∧ s.buffered ≠ []

def peerStep (call : Call) (s : State) (event : Event) : Option State :=
  if peerStays call s event then readStep call s event else none

def entry (call : Call) (buffered : List UInt8) : State where
  buffered := buffered
  now := call.entered
  received := []
  polledReadable := false
  point := if call.deadline.isSome then loopHead call [] else .overflowed

def arrivals (schedule : List Event) : List UInt8 :=
  schedule.flatMap fun
    | .arrive bytes => bytes
    | _ => []

def elapsed (schedule : List Event) : Int :=
  (schedule.map fun
    | .elapse duration => (duration : Int)
    | _ => 0).sum

end TactileSensors.Serial
