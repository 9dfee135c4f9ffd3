import TactileSensors.Gripper.Coherence

/-!
# The connection state

The state is a function of how the cycles ended: Faulted from the third failure in a row until the
next success. The counter behind it wraps at 32 bits, but by then the state is Faulted already and
only a success takes it back. A cycle counts, turns the state and logs in separate steps, so between
cycles all three agree with the history and within one they lag behind it by that cycle.
-/

namespace TactileSensors.Gripper

def failuresSince : List Outcome → Nat
  | .failed :: older => failuresSince older + 1
  | _ => 0

/-- How many cycles have failed since the `n`th success, or since the beginning for `n = 0`. -/
def failuresAfter (n : Nat) : List Outcome → Nat
  | [] => 0
  | outcome :: older =>
      if n ≤ older.count .succeeded then
        failuresAfter n older + if outcome = .failed then 1 else 0
      else 0

def linkOf (outcomes : List Outcome) : ConnectionState :=
  if faultThreshold ≤ failuresSince outcomes then .faulted else .operational

def turnLog (before after : ConnectionState) : List LogEntry :=
  match before, after with
  | .operational, .faulted => [linkFaulted]
  | .faulted, .operational => [linkRecovered]
  | _, _ => []

def linkLog : List Outcome → List LogEntry
  | [] => []
  | outcome :: older => linkLog older ++ turnLog (linkOf older) (linkOf (outcome :: older))

theorem linkOf_eq_faulted {outcomes : List Outcome} :
    linkOf outcomes = .faulted ↔ faultThreshold ≤ failuresSince outcomes := by
  rw [linkOf]
  split <;> simp_all

theorem linkOf_eq_operational {outcomes : List Outcome} :
    linkOf outcomes = .operational ↔ failuresSince outcomes < faultThreshold := by
  rw [linkOf]
  split <;> simp_all

theorem linkOf_succeeded (older : List Outcome) : linkOf (.succeeded :: older) = .operational := rfl

theorem linkOf_ne_faulted {outcomes : List Outcome} (h : linkOf outcomes ≠ .faulted) :
    linkOf outcomes = .operational := by
  rw [ne_eq, linkOf_eq_faulted] at h
  exact linkOf_eq_operational.mpr (Nat.lt_of_not_le h)

theorem turnLog_self (state : ConnectionState) : turnLog state state = [] := by
  cases state <;> rfl

theorem failuresSince_le_failuresAfter {n : Nat} {outcomes : List Outcome}
    (h : n ≤ outcomes.count .succeeded) : failuresSince outcomes ≤ failuresAfter n outcomes := by
  induction outcomes with
  | nil => exact Nat.zero_le _
  | cons outcome older ih =>
      cases outcome with
      | succeeded => exact Nat.zero_le _
      | failed =>
          rw [List.count_cons_of_ne (by decide)] at h
          have := ih h
          rw [failuresSince, failuresAfter, if_pos h, if_pos rfl]
          omega

namespace Host

structure Shows (log₀ : List LogEntry) (consecutiveFailures : UInt32)
    (connectionState : ConnectionState) (log : List LogEntry) (counted turned logged : List Outcome) :
    Prop where
  failures : consecutiveFailures = UInt32.ofNat (failuresSince counted)
  state : connectionState = linkOf turned
  log : log = log₀ ++ linkLog logged

/-- Which of them have the outcome of the current cycle, by where the thread is in it. -/
def Linked (log₀ : List LogEntry) (h : Host) : Prop :=
  let shows := Shows log₀ h.consecutiveFailures h.connectionState h.log
  match h.point with
  | .idle | .onWire _ _ | .returned _ _ | .stamped _ _ _ => shows h.outcomes h.outcomes h.outcomes
  | .cleared _ _ _ => shows (.succeeded :: h.outcomes) h.outcomes h.outcomes
  | .turned _ _ _ recovered | .published recovered =>
      ∃ older, h.outcomes = .succeeded :: older ∧ recovered = decide (linkOf older = .faulted) ∧
        shows h.outcomes h.outcomes older
  | .thrown => ∃ older, h.outcomes = .failed :: older ∧ shows older older older
  | .counted failures =>
      ∃ older, h.outcomes = .failed :: older ∧ failures = h.consecutiveFailures ∧
        shows h.outcomes older older
  | .reporting =>
      ∃ older, h.outcomes = .failed :: older ∧ linkOf older = .operational ∧
        linkOf h.outcomes = .faulted ∧ shows h.outcomes h.outcomes older

theorem linkLog_of_turn {log₀ : List LogEntry} {outcome : Outcome} {older : List Outcome}
    {before after : ConnectionState} (hbefore : linkOf older = before)
    (hafter : linkOf (outcome :: older) = after) :
    log₀ ++ linkLog (outcome :: older) = log₀ ++ linkLog older ++ turnLog before after := by
  rw [linkLog, hbefore, hafter, List.append_assoc]

theorem linkOf_of_counted {outcomes : List Outcome}
    (many : faultThreshold ≤ (UInt32.ofNat (failuresSince outcomes)).toNat) :
    linkOf outcomes = .faulted := by
  rw [UInt32.toNat_ofNat'] at many
  exact linkOf_eq_faulted.mpr (many.trans (Nat.mod_le _ _))

theorem Linked.step {log₀ : List LogEntry} {h h' : Host} {a : HostAction} (inv : Linked log₀ h)
    (hstep : h.step a = some h') : Linked log₀ h' := by
  cases step_cases hstep with
  | elapse ns | observe | setCommand c | close => exact inv
  | copy at_ | reply c status at_ | stamp c status at_ | answer c status at_ =>
      rw [Linked, at_] at inv
      exact inv
  | clear c status time at_ =>
      rw [Linked, at_] at inv
      exact ⟨rfl, inv.state, inv.log⟩
  | turn c status time at_ =>
      rw [Linked, at_] at inv
      exact ⟨h.outcomes, rfl, by rw [inv.state], inv.failures, rfl, inv.log⟩
  | publish c status time recovered at_ =>
      rw [Linked, at_] at inv
      exact inv
  | finish recovered at_ =>
      rw [Linked, at_] at inv
      obtain ⟨older, outcomes, turned, failures, state, log⟩ := inv
      refine ⟨failures, state, ?_⟩
      rw [log, outcomes]
      by_cases was : linkOf older = .faulted
      · rw [linkLog_of_turn was (linkOf_succeeded older), turned, decide_eq_true was]
        rfl
      · rw [linkLog_of_turn (linkOf_ne_faulted was) (linkOf_succeeded older), turned,
          decide_eq_false was, turnLog_self, List.append_nil]
        rfl
  | fail c answer at_ =>
      rw [Linked, at_] at inv
      exact ⟨h.outcomes, rfl, inv⟩
  | count at_ =>
      rw [Linked, at_] at inv
      obtain ⟨older, outcomes, failures, state, log⟩ := inv
      refine ⟨older, outcomes, rfl, ?_, state, log⟩
      rw [failures, outcomes, failuresSince, UInt32.ofNat_add]
      rfl
  | degrade failures at_ many was =>
      rw [Linked, at_] at inv
      obtain ⟨older, outcomes, counted, failures, state, log⟩ := inv
      rw [counted, failures] at many
      have faulted := linkOf_of_counted many
      rw [state] at was
      exact ⟨older, outcomes, linkOf_ne_faulted was, faulted, failures, faulted.symm, log⟩
  | endure failures at_ many was =>
      rw [Linked, at_] at inv
      obtain ⟨older, outcomes, counted, failures, state, log⟩ := inv
      rw [counted, failures] at many
      have faulted := linkOf_of_counted many
      refine ⟨failures, faulted.symm, ?_⟩
      rw [state] at was
      rw [outcomes] at faulted
      rw [log, outcomes, linkLog_of_turn was faulted, turnLog_self, List.append_nil]
  | tolerate failures at_ few =>
      rw [Linked, at_] at inv
      obtain ⟨older, outcomes, counted, failures, state, log⟩ := inv
      -- either there are too few failures, or the counter has wrapped and the state turned long ago
      have same : linkOf h.outcomes = linkOf older := by
        rw [counted, failures, UInt32.toNat_ofNat', outcomes, failuresSince] at few
        rw [outcomes, linkOf, linkOf, failuresSince]
        have three : faultThreshold = 3 := rfl
        by_cases many : faultThreshold ≤ failuresSince older
        · rw [if_pos many, if_pos (Nat.le_succ_of_le many)]
        · rw [if_neg many, if_neg (by omega)]
      refine ⟨failures, state.trans same.symm, ?_⟩
      rw [outcomes] at same
      rw [log, outcomes, linkLog_of_turn rfl same, turnLog_self, List.append_nil]
  | report at_ =>
      rw [Linked, at_] at inv
      obtain ⟨older, outcomes, was, faulted, failures, state, log⟩ := inv
      refine ⟨failures, state, ?_⟩
      rw [outcomes] at faulted
      rw [log, outcomes, linkLog_of_turn was faulted]
      rfl

def announcing (h : Host) : Nat :=
  match h.point with
  | .turned _ _ _ _ => 1
  | _ => 0

def Announced (h : Host) : Prop :=
  h.outcomes.count .succeeded = h.image.exchangeCount + h.announcing

theorem Announced.step {h h' : Host} {a : HostAction} (inv : Announced h)
    (hstep : h.step a = some h') : Announced h' := by
  cases step_cases hstep with
  | elapse ns | observe | setCommand c | close => exact inv
  | copy at_ | reply c status at_ | stamp c status at_ | answer c status at_
  | clear c status time at_ | finish recovered at_ | count at_ | degrade failures at_ many was
  | endure failures at_ many was | tolerate failures at_ few | report at_ =>
      rw [Announced, announcing, at_] at inv
      exact inv
  | turn c status time at_ =>
      rw [Announced, announcing, at_] at inv
      rw [Announced, List.count_cons_self, inv]
      rfl
  | fail c answer at_ =>
      rw [Announced, announcing, at_] at inv
      rw [Announced, List.count_cons_of_ne (by decide), inv]
      rfl
  | publish c status time recovered at_ =>
      rw [Announced, announcing, at_] at inv
      rw [Announced, inv]
      rfl

theorem Linked.failures_of_faulted {log₀ : List LogEntry} {h : Host} (inv : Linked log₀ h)
    (faulted : h.connectionState = .faulted) : faultThreshold ≤ failuresSince h.outcomes := by
  have older_failed : ∀ {older : List Outcome}, h.outcomes = .failed :: older →
      faultThreshold ≤ failuresSince older → faultThreshold ≤ failuresSince h.outcomes := by
    intro older outcomes many
    rw [outcomes]
    exact Nat.le_succ_of_le many
  cases hpoint : h.point with
  | idle | onWire c answer | returned c status | stamped c status time | cleared c status time =>
      rw [Linked, hpoint] at inv
      exact linkOf_eq_faulted.mp (inv.state.symm.trans faulted)
  | turned c status time recovered | published recovered =>
      rw [Linked, hpoint] at inv
      obtain ⟨older, -, -, shows⟩ := inv
      exact linkOf_eq_faulted.mp (shows.state.symm.trans faulted)
  | thrown =>
      rw [Linked, hpoint] at inv
      obtain ⟨older, outcomes, shows⟩ := inv
      exact older_failed outcomes (linkOf_eq_faulted.mp (shows.state.symm.trans faulted))
  | counted failures =>
      rw [Linked, hpoint] at inv
      obtain ⟨older, outcomes, -, shows⟩ := inv
      exact older_failed outcomes (linkOf_eq_faulted.mp (shows.state.symm.trans faulted))
  | reporting =>
      rw [Linked, hpoint] at inv
      obtain ⟨older, -, -, faulted, -⟩ := inv
      exact linkOf_eq_faulted.mp faulted

/-- After any run from a successful `initializeImage`. Between cycles the state is Faulted exactly
from three failures since the last success on, and the log has one entry for each turn of the link;
at any moment an observer that has the record of an exchange and reads Faulted reads it at least
three failed cycles after that exchange turned the link. -/
theorem link_follows_outcomes {answers : Nat → Except String GripperStatus} {time : Int}
    {s : GripperState}
    (ready : GripperState.constructed.initializeImage answers time = (.ok (), s))
    {labels : List HostAction} {h : Host}
    (hrun : Machine.run Host.step (.start s time) labels = some h) :
    (h.point = .idle →
      (h.connectionState = .faulted ↔ 3 ≤ failuresSince h.outcomes) ∧
      (h.connectionState = .operational ↔ failuresSince h.outcomes < 3) ∧
      h.log = s.log ++ linkLog h.outcomes) ∧
    ∀ r ∈ h.observed, h.connectionState = .faulted →
      3 ≤ failuresAfter r.metadata.exchangeCount h.outcomes := by
  obtain ⟨point, operational, zero, fresh, image⟩ := initialized ready
  have linked : Linked s.log h := by
    refine Machine.run_invariant (fun _ _ _ inv hstep => Linked.step inv hstep) hrun ?_
    rw [Linked, show (start s time).point = .idle from point]
    exact ⟨zero, operational, (List.append_nil _).symm⟩
  have announced : Announced h := by
    refine Machine.run_invariant (fun _ _ _ inv hstep => Announced.step inv hstep) hrun ?_
    rw [Announced, announcing, show (start s time).point = .idle from point]
    simp [start, image, ProcessImage.seed, ProcessImage.exchangeCount]
  refine ⟨fun idle => ?_, fun r hr faulted => ?_⟩
  · rw [Linked, idle] at linked
    rw [linked.state]
    exact ⟨linkOf_eq_faulted, linkOf_eq_operational, linked.log⟩
  · have counted := (((Coherent.start ready).run hrun).recorded.observed r hr).1
    rw [Announced] at announced
    exact (linked.failures_of_faulted faulted).trans (failuresSince_le_failuresAfter (by omega))

/-- Three failures in a row turn the link. -/
theorem link_follows_outage :
    let s := (GripperState.constructed.initializeImage (fun _ => .ok .zero) 0).2
    let failure : List HostAction := [.exchangeOnce, .fail, .exchangeOnce, .exchangeOnce]
    ∃ h, Machine.run Host.step (.start s 0)
        (.observe :: failure ++ failure ++ failure ++ [.exchangeOnce]) = some h ∧
      h.point = .idle ∧ h.connectionState = .faulted ∧ h.log = [linkFaulted] ∧
      ∀ r ∈ h.observed, 3 ≤ failuresAfter r.metadata.exchangeCount h.outcomes := by
  intro s failure
  have ready : GripperState.constructed.initializeImage (fun _ => .ok .zero) 0 = (.ok (), s) := rfl
  obtain ⟨h, hrun, idle, three⟩ : ∃ h, Machine.run Host.step (.start s 0)
      (.observe :: failure ++ failure ++ failure ++ [.exchangeOnce]) = some h ∧
      h.point = .idle ∧ 3 ≤ failuresSince h.outcomes ∧ h.log = [linkFaulted] :=
    ⟨_, rfl, rfl, by decide, rfl⟩
  obtain ⟨between, observer⟩ := link_follows_outcomes ready hrun
  have faulted := (between idle).1.mpr three.1
  exact ⟨h, hrun, idle, faulted, three.2, fun r hr => observer r hr faulted⟩

end Host
end TactileSensors.Gripper
