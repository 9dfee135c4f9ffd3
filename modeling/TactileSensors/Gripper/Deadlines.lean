import TactileSensors.Arith.Fixed
import TactileSensors.Gripper.Activation
import TactileSensors.Gripper.WaitFor

/-!
# Deadlines in 64 bits

The arithmetic of the blocking calls as the clock's 64-bit nanoseconds do it, where an overflow is no
result. The waits cap their timeout at half of the range, so a clock in its first half cannot overflow;
the activation procedures add theirs as it is.
-/

namespace TactileSensors.Gripper
open Machine Arith

/-! ## The arithmetic, checked -/

def nanoseconds (ms : Int) : Option Int := int64 (ms * nsPerMs)

def checkedSum (now timeout : Int) : Option Int := do
  let ns ← nanoseconds timeout
  int64 (now + ns)

def checkedDeadlineAfter (now timeout : Int) : Option Int :=
  checkedSum now (min timeout longest)

/-- `ceil` truncates to milliseconds, compares in nanoseconds, and adds one if it has to. -/
def checkedCeil (left : Int) : Option Int := do
  let whole ← int64 (left.tdiv nsPerMs)
  let back ← nanoseconds whole
  if back < left then int64 (whole + 1) else some whole

def checkedRemaining (deadline now : Int) : Option Int :=
  if now < deadline then do
    let left ← int64 (deadline - now)
    checkedCeil left
  else some 0

def checkedHandshakeAllowed (deadline now timeout : Int) : Option Bool := do
  let left ← int64 (deadline - now)
  let half ← nanoseconds (timeout.tdiv 2)
  some (half ≤ left)

def latest : Int := int64Max / 2

variable {now timeout deadline left ms : Int}

theorem checkedSum_eq_some {sum : Int} : checkedSum now timeout = some sum ↔
    Fits (timeout * nsPerMs) ∧ Fits (now + timeout * nsPerMs) ∧ now + timeout * nsPerMs = sum := by
  rw [checkedSum, nanoseconds, int64_bind_eq_some, int64_eq_some]

theorem checkedSum_of_le (since : 0 ≤ now) (nonneg : 0 ≤ timeout)
    (small : now + timeout * nsPerMs ≤ int64Max) :
    checkedSum now timeout = some (now + timeout * nsPerMs) := by
  have positive : 0 ≤ timeout * nsPerMs := Int.mul_nonneg nonneg (by decide)
  exact checkedSum_eq_some.mpr
    ⟨fits_of_nonneg positive (by omega), fits_of_nonneg (by omega) small, rfl⟩

theorem checkedDeadlineAfter_eq (since : 0 ≤ now) (early : now ≤ latest) (nonneg : 0 ≤ timeout) :
    checkedDeadlineAfter now timeout = some (deadlineAfter now timeout) := by
  have capped : min timeout longest ≤ longest := Int.min_le_right _ _
  have least : 0 ≤ min timeout longest := Int.le_min.mpr ⟨nonneg, by decide⟩
  refine checkedSum_of_le since least ?_
  simp only [latest, longest, nsPerMs, int64Max] at *
  omega

theorem deadlineAfter_range (since : 0 ≤ now) (early : now ≤ latest) (nonneg : 0 ≤ timeout) :
    now ≤ deadlineAfter now timeout ∧ deadlineAfter now timeout ≤ int64Max := by
  have capped : min timeout longest ≤ longest := Int.min_le_right _ _
  have least : 0 ≤ min timeout longest := Int.le_min.mpr ⟨nonneg, by decide⟩
  simp only [deadlineAfter, latest, longest, nsPerMs, int64Max] at *
  omega

theorem checkedCeil_eq (pos : 0 < left) (small : left ≤ int64Max) :
    checkedCeil left = some ((left + (nsPerMs - 1)) / nsPerMs) := by
  have quotient : left.tdiv nsPerMs = left / nsPerMs := Int.tdiv_eq_ediv_of_nonneg pos.le
  have whole : Fits (left / nsPerMs) := fits_of_nonneg (by simp only [nsPerMs]; omega)
    (by simp only [nsPerMs] at *; omega)
  have back : Fits (left / nsPerMs * nsPerMs) := fits_of_nonneg (by simp only [nsPerMs]; omega)
    (by simp only [nsPerMs] at *; omega)
  have more : Fits (left / nsPerMs + 1) := fits_of_nonneg (by simp only [nsPerMs]; omega)
    (by simp only [nsPerMs, int64Max] at *; omega)
  rw [checkedCeil, quotient, whole.bind, nanoseconds, back.bind, more.int64]
  by_cases rest : left / nsPerMs * nsPerMs < left
  · rw [if_pos rest, Option.some_inj]
    simp only [nsPerMs] at *
    omega
  · rw [if_neg rest, Option.some_inj]
    simp only [nsPerMs] at *
    omega

theorem remaining_range (since : 0 ≤ now) (late : deadline ≤ int64Max) :
    0 ≤ remaining deadline now ∧ remaining deadline now ≤ int64Max := by
  simp only [remaining, nsPerMs, int64Max] at *
  split <;> omega

theorem checkedRemaining_eq (since : 0 ≤ now) (late : deadline ≤ int64Max) :
    checkedRemaining deadline now = some (remaining deadline now) := by
  rw [checkedRemaining, remaining]
  split
  · rename_i ahead
    have pos : 0 < deadline - now := Int.sub_pos.mpr ahead
    have small : deadline - now ≤ int64Max := by omega
    rw [(fits_of_nonneg pos.le small).bind, checkedCeil_eq pos small]
  · rfl

theorem checkedHandshakeAllowed_eq (since : 0 ≤ now) (early : now ≤ latest) (nonneg : 0 ≤ timeout)
    (ahead : 0 ≤ deadline) (late : deadline ≤ int64Max) (small : timeout * nsPerMs ≤ int64Max) :
    checkedHandshakeAllowed deadline now timeout =
      some (isActivationHandshakeAllowed deadline now timeout) := by
  have left : Fits (deadline - now) := by
    simp only [Fits, latest, int64Min, int64Max] at *
    omega
  have quotient : timeout.tdiv 2 = timeout / 2 := Int.tdiv_eq_ediv_of_nonneg nonneg
  have half : Fits (timeout.tdiv 2 * nsPerMs) := by
    rw [quotient]
    refine fits_of_nonneg ?_ ?_ <;> (simp only [nsPerMs] at *; omega)
  rw [checkedHandshakeAllowed, left.bind, nanoseconds, half.bind]
  rfl

/-! ## The blocking calls -/

inductive EntryPoint
  | waitForExchange
  | waitForExchangeCount (desired : Nat)
  | waitFor (predicate : StampedExchange → Bool)
  | setCommandAndWaitForExchange (command : GripperCommand)
  | activate
  | recoverFromFault

inductive CallPoint
  -- `waitForExchange`, before it reads the count
  | exchanging
  | counting (desired : Nat) (p : CountPoint)
  | waiting (p : WaitPoint)
  | setting (p : SetCommandPoint)
  | procedure (p : ActivationPoint)

namespace EntryPoint

def start (timeout : Int) : EntryPoint → CallPoint
  | waitForExchange => .exchanging
  | waitForExchangeCount desired => .counting desired .called
  | waitFor _ => .waiting (.sampling timeout)
  | setCommandAndWaitForExchange _ => .setting .called
  | activate | recoverFromFault => .procedure .called

def capped : EntryPoint → Bool
  | activate | recoverFromFault => false
  | _ => true

def program (timeout : Int) : EntryPoint → CallPoint → Host → Option (CallPoint × Option HostAction)
  | waitForExchange, .exchanging, h => some (.counting (h.image.exchangeCount + 1) .called, none)
  | waitForExchange, .counting desired p, h | waitForExchangeCount _, .counting desired p, h =>
      (Gripper.waitForExchangeCount desired timeout p h).map fun next => (.counting desired next.1, next.2)
  | waitFor predicate, .waiting p, h =>
      (Gripper.waitFor predicate p h).map fun next => (.waiting next.1, next.2)
  | setCommandAndWaitForExchange command, .setting p, h =>
      (Gripper.setCommandAndWaitForExchange command timeout p h).map fun next =>
        (.setting next.1, next.2)
  | activate, .procedure p, h =>
      (Procedure.activate.program timeout p h).map fun next => (.procedure next.1, next.2)
  | recoverFromFault, .procedure p, h =>
      (Procedure.recoverFromFault.program timeout p h).map fun next => (.procedure next.1, next.2)
  | _, _, _ => none

end EntryPoint

/-! ## What a step computes -/

/-- The step's arithmetic does not overflow, so the exact numbers are the code's, and a deadline is not
before the clock it was reckoned from. -/
def WaitPoint.Exact (now : Int) : WaitPoint → Prop
  | .budgeting deadline | .looping deadline _ =>
      checkedRemaining deadline now = some (remaining deadline now)
  | .entering _ timeout | .counting _ _ timeout =>
      checkedDeadlineAfter now timeout = some (deadlineAfter now timeout) ∧
        now ≤ deadlineAfter now timeout
  | .sampling _ | .syncing _ _ _ | .done _ _ => True

def ActivationPoint.Exact (timeout now : Int) : ActivationPoint → Prop
  | .called =>
      checkedSum now timeout = some (now + timeout * nsPerMs) ∧ now ≤ now + timeout * nsPerMs
  | .waitingOperational _ p | .waitingReset _ _ p | .waitingComplete _ p => p.Exact now
  | .allowing deadline => checkedHandshakeAllowed deadline now timeout =
      some (isActivationHandshakeAllowed deadline now timeout)
  | .handshake _ | .deactivating _ _ | .restoring _ | .activating _ _ | .done _ _ => True

def CallPoint.Exact (timeout now : Int) : CallPoint → Prop
  | .counting _ .called =>
      checkedDeadlineAfter now timeout = some (deadlineAfter now timeout) ∧
        now ≤ deadlineAfter now timeout
  | .waiting p | .setting (.waiting p) => p.Exact now
  | .procedure p => p.Exact timeout now
  | .exchanging | .counting _ _ | .setting _ => True

def InRange (x : Int) : Prop := 0 ≤ x ∧ x ≤ int64Max

def WaitPoint.Ranges : WaitPoint → Prop
  | .budgeting deadline | .looping deadline _ | .syncing deadline _ _ => InRange deadline
  | .sampling timeout | .entering _ timeout => InRange timeout
  | .counting deadline _ timeout => InRange deadline ∧ InRange timeout
  | .done _ _ => True

theorem WaitPoint.Ranges.exact {p : WaitPoint} (ranges : p.Ranges) (since : 0 ≤ now)
    (early : now ≤ latest) : p.Exact now := by
  cases p with
  | budgeting deadline | looping deadline desired => exact checkedRemaining_eq since ranges.2
  | entering afterCount timeout =>
      exact ⟨checkedDeadlineAfter_eq since early ranges.1, (deadlineAfter_range since early ranges.1).1⟩
  | counting deadline desired timeout =>
      exact ⟨checkedDeadlineAfter_eq since early ranges.2.1,
        (deadlineAfter_range since early ranges.2.1).1⟩
  | sampling timeout | syncing deadline desired limit | done deadline exchange => trivial

theorem WaitPoint.Ranges.step {predicate : StampedExchange → Bool} {image : ProcessImage}
    {p p' : WaitPoint} (ranges : p.Ranges) (since : 0 ≤ now) (early : now ≤ latest)
    (hstep : waitForExchangeAfter predicate image now p = some p') : p'.Ranges := by
  cases p with
  | budgeting deadline => cases hstep; exact remaining_range since ranges.2
  | sampling timeout => cases hstep; exact ranges
  | entering afterCount timeout =>
      cases hstep
      obtain ⟨least, most⟩ := deadlineAfter_range since early ranges.1
      exact ⟨Int.le_trans since least, most⟩
  | looping deadline desired => cases hstep; exact ⟨ranges, remaining_range since ranges.2⟩
  | counting deadline desired timeout => cases hstep; exact ranges.1
  | syncing deadline desired limit =>
      rcases syncing_cases hstep with ⟨-, -, rfl⟩ | ⟨-, -, rfl⟩ | ⟨-, -, rfl⟩
      · trivial
      · trivial
      · exact ranges
  | done deadline exchange => cases hstep

def ActivationPoint.Ranges : ActivationPoint → Prop
  | .called => False
  | .waitingOperational deadline p | .waitingReset deadline _ p | .waitingComplete deadline p =>
      InRange deadline ∧ p.Ranges
  | .allowing deadline | .handshake deadline | .deactivating deadline _ | .activating deadline _ =>
      InRange deadline
  | .restoring _ | .done _ _ => True

theorem judge_ranges (range : InRange deadline) (fresh : StampedExchange) :
    (judge deadline fresh).Ranges := by
  unfold judge
  split
  · trivial
  · split
    · trivial
    · exact ⟨range, range⟩
    · exact range

theorem operational_ranges (procedure : Procedure) (range : InRange deadline)
    (fresh : Option StampedExchange) : (procedure.operational deadline fresh).Ranges := by
  cases fresh with
  | none => trivial
  | some fresh =>
      cases procedure with
      | activate => exact judge_ranges range fresh
      | recoverFromFault => exact range

theorem ActivationPoint.Ranges.step {procedure : Procedure} {h : Host} {p p' : ActivationPoint}
    {act : Option HostAction} (ranges : p.Ranges) (since : 0 ≤ h.now) (early : h.now ≤ latest)
    (goes : procedure.program timeout p h = some (p', act)) : p'.Ranges := by
  cases Procedure.program_cases goes with
  | call => exact ranges.elim
  | waitOperational waits | waitReset waits | waitComplete waits =>
      exact ⟨ranges.1, ranges.2.step since early waits⟩
  | operational => exact operational_ranges procedure ranges.1 _
  | allow enough | getCommand => exact ranges
  | refuse short | giveUp | restore | incomplete | complete => trivial
  | deactivate | activate => exact ⟨ranges, ranges⟩
  | reset => exact ranges.1

theorem ActivationPoint.Ranges.exact {p : ActivationPoint} (ranges : p.Ranges) (since : 0 ≤ now)
    (early : now ≤ latest) (nonneg : 0 ≤ timeout) (small : timeout * nsPerMs ≤ int64Max) :
    p.Exact timeout now := by
  cases p with
  | called => exact ranges.elim
  | waitingOperational deadline p | waitingReset deadline c p | waitingComplete deadline p =>
      exact ranges.2.exact since early
  | allowing deadline =>
      exact checkedHandshakeAllowed_eq since early nonneg ranges.1 ranges.2 small
  | handshake deadline | deactivating deadline c | restoring c | activating deadline c
  | done result judged => trivial

def CallPoint.Ranges (timeout : Int) : CallPoint → Prop
  | .waiting p | .setting (.waiting p) => p.Ranges
  | .procedure p => timeout * nsPerMs ≤ int64Max ∧ p.Ranges
  | .exchanging | .counting _ _ | .setting _ => True

theorem CallPoint.Ranges.exact {p : CallPoint} (ranges : p.Ranges timeout) (since : 0 ≤ now)
    (early : now ≤ latest) (nonneg : 0 ≤ timeout) : p.Exact timeout now := by
  cases p with
  | exchanging => trivial
  | counting desired p =>
      cases p with
      | called =>
          exact ⟨checkedDeadlineAfter_eq since early nonneg, (deadlineAfter_range since early nonneg).1⟩
      | syncing limit | done limit exchange => trivial
  | waiting p => exact WaitPoint.Ranges.exact ranges since early
  | setting p =>
      cases p with
      | called | counted before => trivial
      | waiting p => exact WaitPoint.Ranges.exact ranges since early
  | procedure p => exact ranges.2.exact since early nonneg ranges.1

theorem CallPoint.Ranges.step {entry : EntryPoint} {h : Host} {p p' : CallPoint}
    {act : Option HostAction} (ranges : p.Ranges timeout) (given : InRange timeout) (since : 0 ≤ h.now)
    (early : h.now ≤ latest) (goes : entry.program timeout p h = some (p', act)) :
    p'.Ranges timeout := by
  cases entry with
  | waitForExchange | waitForExchangeCount desired =>
      cases p with
      | exchanging => cases goes <;> trivial
      | counting desired p =>
          obtain ⟨next, -, same⟩ := Option.map_eq_some_iff.mp goes
          cases same
          trivial
      | waiting p | setting p | procedure p => cases goes
  | waitFor predicate =>
      cases p with
      | waiting p =>
          obtain ⟨next, hnext, same⟩ := Option.map_eq_some_iff.mp goes
          obtain ⟨p', hp', rfl⟩ := Option.map_eq_some_iff.mp hnext
          cases same
          exact WaitPoint.Ranges.step ranges since early hp'
      | exchanging | counting desired p | setting p | procedure p => cases goes
  | setCommandAndWaitForExchange command =>
      cases p with
      | setting p =>
          obtain ⟨next, hnext, same⟩ := Option.map_eq_some_iff.mp goes
          cases same
          cases p with
          | called => cases hnext; trivial
          | counted before => cases hnext; exact given
          | waiting p =>
              obtain ⟨p', hp', rfl⟩ := Option.map_eq_some_iff.mp hnext
              exact WaitPoint.Ranges.step ranges since early hp'
      | exchanging | counting desired p | waiting p | procedure p => cases goes
  | activate | recoverFromFault =>
      cases p with
      | procedure p =>
          obtain ⟨next, hnext, same⟩ := Option.map_eq_some_iff.mp goes
          cases same
          exact ⟨ranges.1, ranges.2.step since early hnext⟩
      | exchanging | counting desired p | waiting p | setting p => cases goes

/-! ## The calls, beside everything else -/

namespace EntryPoint

def beside (entry : EntryPoint) (timeout : Int) :
    Host × CallPoint → Option HostAction → Option (Host × CallPoint) :=
  withCaller (fun _ => true) Host.step (entry.program timeout)

/-- While the clock is in the first half of its range, no step of the call overflows. -/
def ExactWhileEarly (timeout : Int) (s : Host × CallPoint) (label : Option HostAction) : Prop :=
  label = none → s.1.now ≤ latest → s.2.Exact timeout s.1.now

def RangesWhileEarly (timeout : Int) (s : Host × CallPoint) : Prop :=
  0 ≤ s.1.now ∧ (s.1.now ≤ latest → s.2.Ranges timeout)

theorem RangesWhileEarly.step {entry : EntryPoint} {s s' : Host × CallPoint}
    {label : Option HostAction} (given : InRange timeout) (inv : RangesWhileEarly timeout s)
    (hstep : entry.beside timeout s label = some s') : RangesWhileEarly timeout s' := by
  obtain ⟨h, p⟩ := s
  obtain ⟨h', p'⟩ := s'
  obtain ⟨since, ranges⟩ := inv
  cases withCaller_cases hstep with
  | world may ha =>
      have later := (Host.step_grows ha).now
      exact ⟨since.trans later, fun early => ranges (later.trans early)⟩
  | acts goes ha =>
      have later := (Host.step_grows ha).now
      exact ⟨since.trans later, fun early =>
        (ranges (later.trans early)).step given since (later.trans early) goes⟩
  | looks goes => exact ⟨since, fun early => (ranges early).step given since early goes⟩

theorem start_ranges {entry : EntryPoint} (given : InRange timeout) (capped : entry.capped) :
    (entry.start timeout).Ranges timeout := by
  cases entry with
  | waitFor predicate => exact given
  | waitForExchange | waitForExchangeCount desired | setCommandAndWaitForExchange command => trivial
  | activate | recoverFromFault => cases capped

theorem start_exact_iff {entry : EntryPoint} (given : InRange timeout) (since : 0 ≤ now)
    (early : now ≤ latest) : (entry.start timeout).Exact timeout now ↔
      entry.capped ∨ now + timeout * nsPerMs ≤ int64Max := by
  constructor
  · intro exact
    cases entry with
    | activate | recoverFromFault =>
        obtain ⟨-, sum, -⟩ := checkedSum_eq_some.mp exact.1
        exact .inr sum.2
    | _ => exact .inl rfl
  · intro fits
    cases entry with
    | activate | recoverFromFault =>
        have small : now + timeout * nsPerMs ≤ int64Max := fits.resolve_left Bool.false_ne_true
        have forward : 0 ≤ timeout * nsPerMs := Int.mul_nonneg given.1 (by decide)
        exact ⟨checkedSum_of_le since given.1 small, by omega⟩
    | _ => exact (start_ranges given rfl).exact since early given.1

theorem first_step {entry : EntryPoint} {h : Host} {s : Host × CallPoint} (given : InRange timeout)
    (since : 0 ≤ h.now) (fits : entry.capped ∨ h.now + timeout * nsPerMs ≤ int64Max)
    (hstep : entry.beside timeout (h, entry.start timeout) none = some s) :
    RangesWhileEarly timeout s := by
  by_cases capped : entry.capped
  · exact RangesWhileEarly.step given ⟨since, fun _ => start_ranges given capped⟩ hstep
  · have small := fits.resolve_left capped
    have forward : 0 ≤ timeout * nsPerMs := Int.mul_nonneg given.1 (by decide)
    have range : InRange (h.now + timeout * nsPerMs) := ⟨by omega, small⟩
    cases entry with
    | activate | recoverFromFault =>
        cases hstep
        exact ⟨since, fun _ => ⟨by omega, range, range⟩⟩
    | _ => exact absurd rfl capped

/-- A call's arithmetic fits 64 bits at each of its steps, whatever is done to the host meanwhile, exactly
if it is one of the waits or the clock has as much left as the timeout. -/
theorem arithmetic_exact_iff (entry : EntryPoint) {timeout : Int} (nonneg : 0 ≤ timeout)
    (small : timeout ≤ int64Max) {h₀ : Host} (since : 0 ≤ h₀.now) (early : h₀.now ≤ latest)
    (labels : List (Option HostAction)) :
    StepsMeet (entry.beside timeout) (ExactWhileEarly timeout) (h₀, entry.start timeout)
        (none :: labels) ↔
      entry.capped ∨ h₀.now + timeout * nsPerMs ≤ int64Max := by
  have given : InRange timeout := ⟨nonneg, small⟩
  constructor
  · exact fun meets => (start_exact_iff given since early).mp (meets.head rfl early)
  · intro fits
    refine stepsMeet_cons.mpr ⟨fun _ _ => (start_exact_iff given since early).mpr fits, ?_⟩
    rintro mid hfirst before label after ⟨h, p⟩ - hrun - stillEarly
    obtain ⟨now, ranges⟩ := run_invariant (fun _ _ _ inv hstep => RangesWhileEarly.step given inv hstep)
      hrun (first_step given since fits hfirst)
    exact (ranges stillEarly).exact now stillEarly nonneg

theorem arithmetic_exact_for_hour :
    let s := (GripperState.constructed.initializeImage (fun _ => .ok .zero) 0).2
    let labels : List (Option HostAction) := List.flatten [[some (.elapse 1000000)],
      List.replicate 3 none, [some .exchangeOnce, some (.answer .zero)],
      List.replicate 6 (some .exchangeOnce), List.replicate 8 none]
    (run (EntryPoint.activate.beside 3600000) (.start s 1000000000, .procedure .called)
        (none :: labels)).isSome ∧
      StepsMeet (EntryPoint.activate.beside 3600000) (ExactWhileEarly 3600000)
        (.start s 1000000000, .procedure .called) (none :: labels) := by
  intro s labels
  refine ⟨by decide +kernel, ?_⟩
  exact (arithmetic_exact_iff .activate (by decide) (by decide) (by decide) (by decide) labels).mpr
    (.inr (by decide))

/-- The longest timeout there is overflows in the first step of an activation, on a clock at zero. -/
theorem activate_deadline_overflows :
    let s := (GripperState.constructed.initializeImage (fun _ => .ok .zero) 0).2
    checkedSum (Host.start s 0).now int64Max = none ∧
      ¬ StepsMeet (EntryPoint.activate.beside int64Max) (ExactWhileEarly int64Max)
        (.start s 0, .procedure .called) [none] := by
  intro s
  have overflows : checkedSum (Host.start s 0).now int64Max = none := by decide +kernel
  refine ⟨overflows, fun meets => ?_⟩
  have exact : checkedSum (Host.start s 0).now int64Max = some _ := (meets.head rfl (by decide)).1
  rw [overflows] at exact
  cases exact

end EntryPoint

end TactileSensors.Gripper
