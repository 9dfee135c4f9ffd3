import TactileSensors.Serial.Posix

/-!
# What a read delivers

`SerialPort::read` over a peer that stays. Whatever the schedule, the bytes taken and the bytes
still buffered are the stream in order. The loop remembers the last poll that reported input and
forgets it only at the next poll, so a read that finds the buffer drained again is taken for a
hang-up: the call is safe exactly on the schedules without such a read, and where the clock's
arithmetic fits.
-/

namespace TactileSensors.Serial
open Machine Arith

inductive PeerStep (call : Call) (s : State) : Event → State → Prop
  | arrive (bytes : List UInt8) :
      PeerStep call s (.arrive bytes) { s with buffered := s.buffered ++ bytes }
  | elapse (duration : Nat) : PeerStep call s (.elapse duration) { s with now := s.now + duration }
  | took (bytes : Nat) (reading : s.point = .reading) (positive : 0 < bytes)
      (asked : bytes ≤ call.size - s.received.length) (held : bytes ≤ s.buffered.length) :
      PeerStep call s (.read (.count bytes))
        { s with
          buffered := s.buffered.drop bytes
          received := s.received ++ s.buffered.take bytes
          point := loopHead call (s.received ++ s.buffered.take bytes) }
  | dry (reading : s.point = .reading) (empty : s.buffered = []) (fresh : s.polledReadable = false) :
      PeerStep call s (.read (.count 0)) { s with point := .timing }
  | mistaken (reading : s.point = .reading) (empty : s.buffered = [])
      (stale : s.polledReadable = true) :
      PeerStep call s (.read (.count 0))
        { s with point := .threw (.hungUp "reading from the serial port") }
  | interrupted (reading : s.point = .reading) :
      PeerStep call s (.read (.failed .eintr)) { s with point := loopHead call s.received }
  | again (errno : Errno) (reading : s.point = .reading) (retry : errno = .eagain ∨ errno = .ewouldblock) :
      PeerStep call s (.read (.failed errno)) { s with point := .timing }
  | late (remaining : Int) (timing : s.point = .timing) (left : call.remaining s.now = some remaining)
      (passed : remaining ≤ 0) : PeerStep call s .clock { s with point := .returned }
  | wait (remaining : Int) (timing : s.point = .timing) (left : call.remaining s.now = some remaining)
      (ahead : 0 < remaining) :
      PeerStep call s .clock { s with point := .polling (pollTimeout remaining) s.now }
  | overflow (timing : s.point = .timing) (unfit : call.remaining s.now = none) :
      PeerStep call s .clock { s with point := .overflowed }
  | pollInterrupted (timeout : Int) (since : Int) (polling : s.point = .polling timeout since) :
      PeerStep call s (.poll (.failed .eintr))
        { s with polledReadable := false, point := loopHead call s.received }
  | pollTimedOut (timeout : Int) (since : Int) (polling : s.point = .polling timeout since) :
      PeerStep call s (.poll .timedOut) { s with point := .returned }
  | pollReady (timeout : Int) (since : Int) (polling : s.point = .polling timeout since) :
      PeerStep call s (.poll (.events readable))
        { s with polledReadable := true, point := loopHead call s.received }

theorem peerStep_read {call : Call} {s s' : State} {answer : ReadAnswer}
    (h : peerStep call s (.read answer) = some s') : PeerStep call s (.read answer) s' := by
  obtain ⟨stays, h⟩ := (Option.ite_none_right_eq_some).mp h
  obtain ⟨reading, h⟩ := (Option.ite_none_right_eq_some).mp h
  cases h
  cases answer with
  | count bytes =>
      by_cases empty : s.buffered = []
      · have zero : bytes = 0 := by simpa [peerStays, empty] using stays
        subst zero
        cases flag : s.polledReadable with
        | false => simpa [afterRead, flag] using PeerStep.dry reading empty flag
        | true => simpa [afterRead, flag] using PeerStep.mistaken reading empty flag
      · obtain ⟨positive, asked, held⟩ : 0 < bytes ∧ bytes ≤ call.size - s.received.length ∧
            bytes ≤ s.buffered.length := by simpa [peerStays, empty] using stays
        simpa [afterRead, positive] using PeerStep.took bytes reading positive asked held
  | failed errno =>
      cases errno with
      | eintr => simpa [afterRead] using PeerStep.interrupted reading
      | eagain => simpa [afterRead] using PeerStep.again .eagain reading (.inl rfl)
      | ewouldblock => simpa [afterRead] using PeerStep.again .ewouldblock reading (.inr rfl)
      | other number => simp [peerStays] at stays

theorem peerStep_poll {call : Call} {s s' : State} {answer : PollAnswer}
    (h : peerStep call s (.poll answer) = some s') : PeerStep call s (.poll answer) s' := by
  obtain ⟨stays, h⟩ := (Option.ite_none_right_eq_some).mp h
  cases point : s.point with
  | polling timeout since =>
      simp only [readStep, point, Option.some.injEq] at h
      subst h
      cases answer with
      | failed errno =>
          have eintr : errno = .eintr := by simpa [peerStays] using stays
          subst eintr
          simpa [afterPoll, waitReady] using PeerStep.pollInterrupted timeout since point
      | timedOut => simpa [afterPoll, waitReady] using PeerStep.pollTimedOut timeout since point
      | events revents =>
          obtain ⟨rfl, -⟩ : revents = readable ∧ s.buffered ≠ [] := by simpa [peerStays] using stays
          simpa [afterPoll, waitReady, readable] using PeerStep.pollReady timeout since point
  | _ => simp [readStep, point] at h

theorem peerStep_cases {call : Call} {s s' : State} {event : Event}
    (h : peerStep call s event = some s') : PeerStep call s event s' := by
  cases event with
  | arrive bytes => cases h; exact .arrive bytes
  | elapse duration => cases h; exact .elapse duration
  | read answer => exact peerStep_read h
  | poll answer => exact peerStep_poll h
  | clock =>
      simp only [peerStep, peerStays, if_true, readStep, Option.ite_none_right_eq_some,
        Option.some.injEq] at h
      obtain ⟨timing, rfl⟩ := h
      cases left : call.remaining s.now with
      | none => simpa [afterClock, left] using PeerStep.overflow timing left
      | some remaining =>
          by_cases passed : remaining ≤ 0
          · simpa [afterClock, left, passed] using PeerStep.late remaining timing left passed
          · simpa [afterClock, left, passed] using
              PeerStep.wait remaining timing left (not_le.mp passed)

/-! ## The contract and the schedules that meet it -/

def latestPoll : Bool → Event → Bool
  | _, .poll (.events _) => true
  | _, .poll _ => false
  | latest, _ => latest

def inputReported (schedule : List Event) : Bool :=
  schedule.foldl latestPoll false

/-- No `::read` comes back empty while the latest poll is one that reported input: whenever the
bytes a poll announced have been taken and more are wanted, more have come by the next `::read`. -/
def NoDryRead (schedule : List Event) : Prop :=
  ∀ before after, schedule = before ++ .read (.count 0) :: after → inputReported before = false

/-- The timeout, the deadline and, at each reading of the clock, what is left until it are in the
clock's range. -/
structure NoOverflow (call : Call) (schedule : List Event) : Prop where
  duration : Fits (call.timeout * nanosecondsPerMillisecond)
  deadline : Fits (call.entered + call.timeout * nanosecondsPerMillisecond)
  left : ∀ before after, schedule = before ++ .clock :: after →
    Fits (call.timeout * nanosecondsPerMillisecond - elapsed before)

/-- What a call promises of the state a schedule leaves it in. -/
structure Delivers (call : Call) (buffered : List UInt8) (schedule : List Event) (s : State) :
    Prop where
  never_throws : ∀ exception, s.point ≠ .threw exception
  defined : s.point ≠ .overflowed
  in_order : s.received ++ s.buffered = buffered ++ arrivals schedule
  within : s.received.length ≤ call.size
  short_only_late : s.point = .returned → s.received.length < call.size →
    (∃ deadline, call.deadline = some deadline ∧ deadline ≤ s.now) ∨ .poll .timedOut ∈ schedule

@[simp] theorem inputReported_concat (schedule : List Event) (event : Event) :
    inputReported (schedule ++ [event]) = latestPoll (inputReported schedule) event := by
  simp [inputReported]

theorem noDryRead_concat {schedule : List Event} {event : Event} :
    NoDryRead (schedule ++ [event]) ↔
      NoDryRead schedule ∧ (event = .read (.count 0) → inputReported schedule = false) :=
  forall_split_concat

theorem noOverflow_concat {call : Call} {schedule : List Event} {event : Event} :
    NoOverflow call (schedule ++ [event]) ↔
      NoOverflow call schedule ∧
        (event = .clock → Fits (call.timeout * nanosecondsPerMillisecond - elapsed schedule)) := by
  constructor
  · rintro ⟨duration, deadline, left⟩
    obtain ⟨earlier, last⟩ := forall_split_concat.mp left
    exact ⟨⟨duration, deadline, earlier⟩, last⟩
  · rintro ⟨⟨duration, deadline, earlier⟩, last⟩
    exact ⟨duration, deadline, forall_split_concat.mpr ⟨earlier, last⟩⟩

def Clean (call : Call) (schedule : List Event) : Prop :=
  NoDryRead schedule ∧ NoOverflow call schedule

theorem Clean.concat {call : Call} {taken : List Event} {event : Event} (clean : Clean call taken)
    (fresh : event = .read (.count 0) → inputReported taken = false)
    (fits : event = .clock → Fits (call.timeout * nanosecondsPerMillisecond - elapsed taken)) :
    Clean call (taken ++ [event]) :=
  ⟨noDryRead_concat.mpr ⟨clean.1, fresh⟩, noOverflow_concat.mpr ⟨clean.2, fits⟩⟩

theorem clean_concat_iff {call : Call} {taken : List Event} {event : Event}
    (notRead : event ≠ .read (.count 0)) (notClock : event ≠ .clock) :
    Clean call (taken ++ [event]) ↔ Clean call taken := by
  simp [Clean, noDryRead_concat, noOverflow_concat, notRead, notClock]

/-! ## The clock of a call -/

theorem Call.deadline_eq_none {call : Call} : call.deadline = none ↔
    ¬ (Fits (call.timeout * nanosecondsPerMillisecond) ∧
      Fits (call.entered + call.timeout * nanosecondsPerMillisecond)) := by
  rw [Option.eq_none_iff_forall_ne_some, not_and]
  constructor
  · intro none duration fits
    exact none _ (deadlineAfter_eq_some.mpr ⟨duration, fits, rfl⟩)
  · intro unfit deadline some
    obtain ⟨duration, fits, -⟩ := deadlineAfter_eq_some.mp some
    exact unfit duration fits

theorem Call.remaining_eq_some {call : Call} {now left : Int} : call.remaining now = some left ↔
    ∃ deadline, call.deadline = some deadline ∧ Fits (deadline - now) ∧ deadline - now = left := by
  rw [remaining, Option.bind_eq_bind, Option.bind_eq_some_iff]
  simp only [int64_eq_some]

theorem Call.remaining_of_noOverflow {call : Call} {schedule : List Event}
    (fits : NoOverflow call schedule) (ahead : Int) :
    call.remaining (call.entered + ahead) =
      int64 (call.timeout * nanosecondsPerMillisecond - ahead) := by
  have deadline := deadlineAfter_eq_some.mpr ⟨fits.duration, fits.deadline, rfl⟩
  rw [remaining, Call.deadline, deadline]
  change int64 _ = int64 _
  rw [Int.add_sub_add_left]

theorem elapsed_concat (schedule : List Event) (event : Event) :
    elapsed (schedule ++ [event]) = elapsed schedule + elapsed [event] := by
  simp [elapsed]

/-! ## The invariant of a call -/

def Point.inLoop : Point → Bool
  | .reading | .timing | .polling _ _ => true
  | .returned | .threw _ | .overflowed => false

def Point.failed : Point → Bool
  | .threw _ | .overflowed => true
  | .reading | .timing | .polling _ _ | .returned => false

structure Progress (call : Call) (buffered : List UInt8) (taken : List Event) (s : State) :
    Prop where
  in_order : s.received ++ s.buffered = buffered ++ arrivals taken
  within : s.received.length ≤ call.size
  clock : s.now = call.entered + elapsed taken
  wants_more : s.point.inLoop → s.received.length < call.size
  remembers : s.point.inLoop → s.polledReadable = inputReported taken
  ended : s.point = .returned → s.received.length < call.size →
    (∃ deadline, call.deadline = some deadline ∧ deadline ≤ s.now) ∨ .poll .timedOut ∈ taken
  failed_iff : s.point.failed ↔ ¬ Clean call taken

theorem loopHead_inLoop {call : Call} {received : List UInt8}
    (h : (loopHead call received).inLoop) : received.length < call.size := by
  unfold loopHead at h
  split at h
  · assumption
  · cases h

theorem loopHead_returned {call : Call} {received : List UInt8}
    (h : loopHead call received = .returned) : call.size ≤ received.length := by
  unfold loopHead at h
  split at h
  · cases h
  · omega

theorem loopHead_not_short {call : Call} {received : List UInt8} {P : Prop}
    (h : loopHead call received = .returned) (short : received.length < call.size) : P :=
  absurd short (not_lt.mpr (loopHead_returned h))

theorem loopHead_failed (call : Call) (received : List UInt8) :
    (loopHead call received).failed = false := by
  unfold loopHead
  split <;> rfl

theorem Progress.entry (call : Call) (buffered : List UInt8) :
    Progress call buffered [] (entry call buffered) := by
  unfold Serial.entry
  by_cases fits : call.deadline.isSome = true
  · rw [if_pos fits]
    refine ⟨by simp [arrivals], Nat.zero_le _, by simp [elapsed], loopHead_inLoop, fun _ => rfl,
      loopHead_not_short, ?_⟩
    rw [loopHead_failed]
    refine iff_of_false Bool.false_ne_true (not_not.mpr ⟨by simp [NoDryRead], ?_⟩)
    obtain ⟨deadline, given⟩ := Option.isSome_iff_exists.mp fits
    obtain ⟨duration, sum, -⟩ := deadlineAfter_eq_some.mp given
    exact ⟨duration, sum, by simp⟩
  · rw [if_neg fits]
    refine ⟨by simp [arrivals], Nat.zero_le _, by simp [elapsed], nofun, nofun, nofun,
      iff_of_true rfl fun clean => ?_⟩
    rw [Option.not_isSome_iff_eq_none, Call.deadline_eq_none] at fits
    exact fits ⟨clean.2.duration, clean.2.deadline⟩

theorem Progress.clean {call : Call} {buffered : List UInt8} {taken : List Event} {s : State}
    (h : Progress call buffered taken s) (calm : s.point.failed = false) : Clean call taken := by
  by_contra dirty
  exact Bool.false_ne_true (calm.symm.trans (h.failed_iff.mpr dirty))

theorem calm_iff {call : Call} {taken : List Event} {point : Point} (clean : Clean call taken)
    (calm : point.failed = false) : point.failed ↔ ¬ Clean call taken :=
  iff_of_false (by simp [calm]) (not_not.mpr clean)

theorem Progress.fits_of_remaining {call : Call} {buffered : List UInt8} {taken : List Event}
    {s : State} {remaining : Int} (h : Progress call buffered taken s) (clean : Clean call taken)
    (left : call.remaining s.now = some remaining) :
    Fits (call.timeout * nanosecondsPerMillisecond - elapsed taken) := by
  rw [h.clock, Call.remaining_of_noOverflow clean.2] at left
  exact (int64_eq_some.mp left).1

theorem Progress.goto {call : Call} {buffered : List UInt8} {taken : List Event} {s : State}
    {event : Event} {polledReadable : Bool} {point : Point} (h : Progress call buffered taken s)
    (quiet : arrivals [event] = []) (still : elapsed [event] = 0)
    (wants_more : point.inLoop → s.received.length < call.size)
    (remembers : point.inLoop → polledReadable = latestPoll (inputReported taken) event)
    (ended : point = .returned → s.received.length < call.size →
      (∃ deadline, call.deadline = some deadline ∧ deadline ≤ s.now) ∨
        .poll .timedOut ∈ taken ++ [event])
    (failed_iff : point.failed ↔ ¬ Clean call (taken ++ [event])) :
    Progress call buffered (taken ++ [event]) { s with polledReadable, point } where
  in_order := by
    rw [arrivals, List.flatMap_append, ← arrivals, ← arrivals, quiet, List.append_nil]
    exact h.in_order
  within := h.within
  clock := by
    rw [elapsed_concat, still, Int.add_zero]
    exact h.clock
  wants_more := wants_more
  remembers := fun inside => by rw [inputReported_concat, remembers inside]
  ended := ended
  failed_iff := failed_iff

theorem Progress.step {call : Call} {buffered : List UInt8} {taken : List Event} {s s' : State}
    {event : Event} (h : Progress call buffered taken s) (hs : PeerStep call s event s') :
    Progress call buffered (taken ++ [event]) s' := by
  have more := h.wants_more
  have flag := h.remembers
  cases hs with
  | arrive bytes =>
      refine ⟨?_, h.within, ?_, more, ?_, ?_, ?_⟩
      · simp [arrivals, ← List.append_assoc, h.in_order]
      · simpa [elapsed] using h.clock
      · simpa [latestPoll] using flag
      · intro returned short
        exact (h.ended returned short).imp id (List.mem_append_left _)
      · rw [clean_concat_iff (by simp) (by simp)]
        exact h.failed_iff
  | elapse duration =>
      refine ⟨by simpa [arrivals] using h.in_order, h.within, ?_, more, ?_, ?_, ?_⟩
      · simp [elapsed, h.clock, Int.add_assoc]
      · simpa [latestPoll] using flag
      · intro returned short
        refine (h.ended returned short).imp (fun passed => ?_) (List.mem_append_left _)
        obtain ⟨deadline, given, late⟩ := passed
        exact ⟨deadline, given, Int.le_trans late (Int.le_add_of_nonneg_right (Int.natCast_nonneg _))⟩
      · rw [clean_concat_iff (by simp) (by simp)]
        exact h.failed_iff
  | took bytes reading positive asked held =>
      have clean := h.clean (by rw [reading]; rfl)
      refine ⟨?_, ?_, by simpa [elapsed] using h.clock, loopHead_inLoop, ?_, loopHead_not_short, ?_⟩
      · simpa [arrivals] using h.in_order
      · have := h.within
        simp only [List.length_append, List.length_take]
        omega
      · intro _
        simpa [latestPoll] using flag (by simp [reading, Point.inLoop])
      · refine calm_iff (clean.concat ?_ (by simp)) (loopHead_failed call _)
        simp [positive.ne']
  | dry reading empty fresh =>
      have clean := h.clean (by rw [reading]; rfl)
      have latest : inputReported taken = false := by
        rw [← flag (by simp [reading, Point.inLoop]), fresh]
      refine h.goto rfl rfl (fun _ => more (by simp [reading, Point.inLoop])) (fun _ => ?_) nofun ?_
      · simp [latestPoll, fresh, latest]
      · exact calm_iff (clean.concat (fun _ => latest) (by simp)) rfl
  | mistaken reading empty stale =>
      have latest : inputReported taken = true := by
        rw [← flag (by simp [reading, Point.inLoop]), stale]
      refine h.goto rfl rfl nofun nofun nofun (iff_of_true rfl fun clean => ?_)
      have fresh := (noDryRead_concat.mp clean.1).2 rfl
      exact Bool.false_ne_true (fresh.symm.trans latest)
  | interrupted reading =>
      have clean := h.clean (by rw [reading]; rfl)
      refine h.goto rfl rfl loopHead_inLoop (fun _ => ?_) loopHead_not_short ?_
      · exact flag (by simp [reading, Point.inLoop])
      · exact calm_iff (clean.concat (by simp) (by simp)) (loopHead_failed call _)
  | again errno reading retry =>
      have clean := h.clean (by rw [reading]; rfl)
      refine h.goto rfl rfl (fun _ => more (by simp [reading, Point.inLoop])) (fun _ => ?_) nofun ?_
      · exact flag (by simp [reading, Point.inLoop])
      · exact calm_iff (clean.concat (by simp) (by simp)) rfl
  | late remaining timing left passed =>
      have clean := h.clean (by rw [timing]; rfl)
      obtain ⟨deadline, given, fits, rfl⟩ := Call.remaining_eq_some.mp left
      refine h.goto rfl rfl nofun nofun (fun _ _ => .inl ⟨deadline, given, by omega⟩) ?_
      refine calm_iff (clean.concat (by simp) fun _ => ?_) rfl
      exact h.fits_of_remaining clean left
  | wait remaining timing left ahead =>
      have clean := h.clean (by rw [timing]; rfl)
      refine h.goto rfl rfl (fun _ => more (by simp [timing, Point.inLoop])) (fun _ => ?_) nofun ?_
      · exact flag (by simp [timing, Point.inLoop])
      · exact calm_iff (clean.concat (by simp) fun _ => h.fits_of_remaining clean left) rfl
  | overflow timing unfit =>
      have clean := h.clean (by rw [timing]; rfl)
      refine h.goto rfl rfl nofun nofun nofun (iff_of_true rfl fun after => ?_)
      have fits := (noOverflow_concat.mp after.2).2 rfl
      rw [h.clock, Call.remaining_of_noOverflow clean.2, fits.int64] at unfit
      cases unfit
  | pollInterrupted timeout since polling =>
      have clean := h.clean (by rw [polling]; rfl)
      refine h.goto rfl rfl loopHead_inLoop (fun _ => rfl) loopHead_not_short ?_
      exact calm_iff (clean.concat (by simp) (by simp)) (loopHead_failed call _)
  | pollTimedOut timeout since polling =>
      have clean := h.clean (by rw [polling]; rfl)
      refine h.goto rfl rfl nofun nofun (fun _ _ => .inr (by simp)) ?_
      exact calm_iff (clean.concat (by simp) (by simp)) rfl
  | pollReady timeout since polling =>
      have clean := h.clean (by rw [polling]; rfl)
      refine h.goto rfl rfl loopHead_inLoop (fun _ => rfl) loopHead_not_short ?_
      exact calm_iff (clean.concat (by simp) (by simp)) (loopHead_failed call _)

theorem Progress.run {call : Call} {buffered : List UInt8} {schedule : List Event} {s : State}
    (hrun : run (peerStep call) (Serial.entry call buffered) schedule = some s) :
    Progress call buffered schedule s :=
  run_history (fun _ _ _ _ h hs => h.step (peerStep_cases hs)) hrun (Progress.entry call buffered)

/-! ## Reads -/

/-- A read delivers the stream exactly on the schedules without a dry read and without an overflow of
the clock. -/
theorem read_delivers_iff (call : Call) (buffered : List UInt8) (schedule : List Event) (s : State)
    (hrun : run (peerStep call) (entry call buffered) schedule = some s) :
    Delivers call buffered schedule s ↔ NoDryRead schedule ∧ NoOverflow call schedule := by
  have progress := Progress.run hrun
  constructor
  · intro delivers
    refine progress.clean ?_
    cases point : s.point with
    | threw exception => exact absurd point (delivers.never_throws exception)
    | overflowed => exact absurd point delivers.defined
    | _ => rfl
  · intro clean
    have calm : ¬ s.point.failed := fun failed => progress.failed_iff.mp failed clean
    exact {
      never_throws := fun exception threw => calm (by rw [threw]; rfl)
      defined := fun overflowed => calm (by rw [overflowed]; rfl)
      in_order := progress.in_order
      within := progress.within
      short_only_late := progress.ended }

/-- A two-byte reply whose bytes come one at a time: the first ends the wait, and the second is
not there yet when the loop asks for it. -/
def trickle : List Event :=
  [.read (.count 0), .clock, .arrive [0x06], .poll (.events readable), .read (.count 1),
    .read (.count 0)]

theorem trickle_throws :
    ∃ s, run (peerStep ⟨2, 500, 0⟩) (entry ⟨2, 500, 0⟩ []) trickle = some s ∧
      ¬ Delivers ⟨2, 500, 0⟩ [] trickle s := by
  refine ⟨⟨[], 0, [0x06], true, .threw (.hungUp "reading from the serial port")⟩, by decide,
    fun h => ?_⟩
  exact h.never_throws _ rfl

def prompt : List Event :=
  [.read (.count 0), .clock, .arrive [0x06], .poll (.events readable), .arrive [0x11],
    .read (.count 1), .read (.count 1)]

theorem prompt_delivers :
    ∃ s, run (peerStep ⟨2, 500, 0⟩) (entry ⟨2, 500, 0⟩ []) prompt = some s ∧
      s.received = [0x06, 0x11] ∧
      (Delivers ⟨2, 500, 0⟩ [] prompt s ↔ NoDryRead prompt ∧ NoOverflow ⟨2, 500, 0⟩ prompt) := by
  refine ⟨⟨[], 0, [0x06, 0x11], true, .returned⟩, by decide, rfl, ?_⟩
  exact read_delivers_iff ⟨2, 500, 0⟩ [] prompt _ (by decide)

end TactileSensors.Serial
