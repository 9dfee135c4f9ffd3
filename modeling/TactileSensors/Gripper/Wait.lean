import TactileSensors.Gripper.Coherence
import TactileSensors.Machine.Caller

/-!
# Waiting on the exchanges

A wait looks at the image and at the clock in steps of its own, between which the exchange thread goes
on. Timeouts are milliseconds, deadlines nanoseconds of the steady clock.
-/

namespace TactileSensors.Gripper
open Machine

def nsPerMs : Int := 1000000

def longest : Int := 9223372036854775807 / nsPerMs / 2

def deadlineAfter (now timeout : Int) : Int :=
  now + min timeout longest * nsPerMs

/-- The time to the deadline, rounded up. -/
def remaining (deadline now : Int) : Int :=
  if now < deadline then (deadline - now + (nsPerMs - 1)) / nsPerMs else 0

def StampedExchange.exchangeCount (exchange : StampedExchange) : Nat :=
  exchange.metadata.exchangeCount

/-- `GripperState::waitForExchange`, at one of its looks at the image: `none` while it goes on
waiting. -/
def ProcessImage.waitForExchange (image : ProcessImage) (desiredExchangeCount : Nat)
    (deadline now : Int) : Option StampedExchange :=
  match desiredExchangeCount with
  | 0 => some image.stamped
  | count + 1 => image.sync count deadline now

inductive WaitPoint
  -- `waitForStatus`, before it asks how long is left
  | budgeting (deadline : Int)
  -- `waitFor`, before it reads the count
  | sampling (timeout : Int)
  -- `waitForExchangeAfter`, before its deadline
  | entering (afterCount : Nat) (timeout : Int)
  -- at the top of its loop
  | looping (deadline : Int) (desired : Nat)
  -- `waitForExchangeCount`, before its deadline
  | counting (deadline : Int) (desired : Nat) (timeout : Int)
  -- in `sync`
  | syncing (deadline : Int) (desired : Nat) (limit : Int)
  | done (deadline : Int) (exchange : Option StampedExchange)
deriving DecidableEq, Repr

def waitForExchangeAfter (predicate : StampedExchange → Bool) (image : ProcessImage) (now : Int) :
    WaitPoint → Option WaitPoint
  | .budgeting deadline => some (.sampling (remaining deadline now))
  | .sampling timeout => some (.entering image.exchangeCount timeout)
  | .entering afterCount timeout => some (.looping (deadlineAfter now timeout) (afterCount + 1))
  | .looping deadline desired => some (.counting deadline desired (remaining deadline now))
  | .counting deadline desired timeout => some (.syncing deadline desired (deadlineAfter now timeout))
  | .syncing deadline desired limit =>
      (image.waitForExchange desired limit now).map fun fresh =>
        if fresh.exchangeCount < desired then .done deadline none
        else if predicate fresh then .done deadline (some fresh)
        else .looping deadline (fresh.exchangeCount + 1)
  | .done _ _ => none

theorem le_add_remaining (deadline now : Int) : deadline ≤ now + remaining deadline now * nsPerMs := by
  simp only [remaining, nsPerMs]
  split <;> omega

theorem remaining_le_longest {deadline now : Int} (h : deadline ≤ now + longest * nsPerMs) :
    remaining deadline now ≤ longest := by
  simp only [remaining, longest, nsPerMs] at h ⊢
  split <;> omega

theorem deadlineAfter_le (now timeout : Int) : deadlineAfter now timeout ≤ now + longest * nsPerMs := by
  simp only [deadlineAfter, longest, nsPerMs]
  omega

theorem deadlineAfter_mono {now now' : Int} (h : now ≤ now') (timeout : Int) :
    deadlineAfter now timeout ≤ deadlineAfter now' timeout :=
  Int.add_le_add_right h _

theorem waitForExchange_cases {image : ProcessImage} {desired : Nat} {deadline now : Int}
    {fresh : StampedExchange} (h : image.waitForExchange desired deadline now = some fresh) :
    fresh = image.stamped ∧ (image.exchangeCount < desired → image.closed ∨ deadline ≤ now) := by
  cases desired with
  | zero => exact ⟨(Option.some.inj h).symm, nofun⟩
  | succ count =>
      simp only [ProcessImage.waitForExchange, ProcessImage.sync] at h
      split at h
      · cases h
      · rename_i out
        refine ⟨(Option.some.inj h).symm, fun behind => ?_⟩
        by_contra stays
        simp only [not_or, Int.not_le] at stays
        exact out ⟨Nat.le_of_lt_succ behind, by simpa using stays.1, stays.2⟩

theorem syncing_cases {predicate : StampedExchange → Bool} {image : ProcessImage} {now deadline limit : Int}
    {desired : Nat} {p : WaitPoint}
    (h : waitForExchangeAfter predicate image now (.syncing deadline desired limit) = some p) :
    (image.exchangeCount < desired ∧ (image.closed ∨ limit ≤ now) ∧ p = .done deadline none) ∨
    (desired ≤ image.exchangeCount ∧ predicate image.stamped ∧
      p = .done deadline (some image.stamped)) ∨
    (desired ≤ image.exchangeCount ∧ ¬ predicate image.stamped ∧
      p = .looping deadline (image.exchangeCount + 1)) := by
  obtain ⟨fresh, woke, rfl⟩ := Option.map_eq_some_iff.mp h
  obtain ⟨rfl, why⟩ := waitForExchange_cases woke
  by_cases behind : image.exchangeCount < desired
  · exact .inl ⟨behind, why behind, if_pos behind⟩
  · have reached := Nat.le_of_not_lt behind
    simp only [show image.stamped.exchangeCount = image.exchangeCount from rfl, if_neg behind]
    by_cases holds : predicate image.stamped
    · exact .inr (.inl ⟨reached, holds, if_pos holds⟩)
    · exact .inr (.inr ⟨reached, holds, if_neg holds⟩)

structure Shown (predicate : StampedExchange → Bool) (base : Nat) (h : Host)
    (exchange : StampedExchange) : Prop where
  newer : base < exchange.exchangeCount
  counted : exchange.exchangeCount ≤ h.image.exchangeCount
  record : h.recordOf exchange.exchangeCount = some exchange
  holds : predicate exchange

theorem Shown.grows {predicate : StampedExchange → Bool} {base : Nat} {h h' : Host}
    {exchange : StampedExchange} (shown : Shown predicate base h exchange) (grown : h.Grows h') :
    Shown predicate base h' exchange :=
  { shown with
    counted := Nat.le_trans shown.counted grown.exchangeCount
    record := grown.recordOf shown.record }

def Waits (predicate : StampedExchange → Bool) (base : Nat) (h : Host) : WaitPoint → Prop
  | .budgeting _ | .sampling _ => base ≤ h.image.exchangeCount
  | .entering afterCount _ => base ≤ afterCount ∧ afterCount ≤ h.image.exchangeCount
  | .looping _ desired | .counting _ desired _ | .syncing _ desired _ =>
      base < desired ∧ desired ≤ h.image.exchangeCount + 1
  | .done _ exchange => ∀ shown ∈ exchange, Shown predicate base h shown

theorem Waits.grows {predicate : StampedExchange → Bool} {base : Nat} {h h' : Host} {p : WaitPoint}
    (waits : Waits predicate base h p) (grown : h.Grows h') : Waits predicate base h' p := by
  have counts := grown.exchangeCount
  cases p with
  | budgeting deadline | sampling timeout => exact Nat.le_trans waits counts
  | entering afterCount timeout => exact ⟨waits.1, Nat.le_trans waits.2 counts⟩
  | looping deadline desired | counting deadline desired timeout | syncing deadline desired limit =>
      exact ⟨waits.1, Nat.le_trans waits.2 (Nat.succ_le_succ counts)⟩
  | done deadline exchange => exact fun shown hshown => (waits shown hshown).grows grown

theorem Waits.step {predicate : StampedExchange → Bool} {base : Nat} {h : Host} {p p' : WaitPoint}
    (waits : Waits predicate base h p) (recorded : h.Recorded)
    (hstep : waitForExchangeAfter predicate h.image h.now p = some p') :
    Waits predicate base h p' := by
  cases p with
  | budgeting deadline => cases hstep; exact waits
  | sampling timeout => cases hstep; exact ⟨waits, Nat.le_refl _⟩
  | entering afterCount timeout =>
      cases hstep
      exact ⟨Nat.lt_succ_of_le waits.1, Nat.succ_le_succ waits.2⟩
  | looping deadline desired | counting deadline desired timeout => cases hstep; exact waits
  | syncing deadline desired limit =>
      rcases syncing_cases hstep with ⟨-, -, rfl⟩ | ⟨reached, holds, rfl⟩ | ⟨reached, -, rfl⟩
      · exact nofun
      · intro shown same
        cases same
        exact ⟨Nat.lt_of_lt_of_le waits.1 reached, Nat.le_refl _, recorded.current, holds⟩
      · exact ⟨Nat.lt_succ_of_le (Nat.le_trans (Nat.le_of_lt waits.1) reached), Nat.le_refl _⟩
  | done deadline exchange => cases hstep

def HostAction.aside : HostAction → Bool
  | .setCommand _ => false
  | _ => true

def HostAction.asideOpen : HostAction → Bool
  | .setCommand _ | .close => false
  | _ => true

namespace Host

theorem step_aside {h h' : Host} {a : HostAction} (may : a.aside) (hstep : h.step a = some h') :
    h'.landed = h.landed ∧ h'.image.command = h.image.command := by
  cases step_cases hstep with
  | setCommand c => exact absurd may Bool.false_ne_true
  | _ => exact ⟨rfl, rfl⟩

theorem step_asideOpen {h h' : Host} {a : HostAction} (may : a.asideOpen)
    (hstep : h.step a = some h') : h'.landed = h.landed ∧ h'.image.closed = h.image.closed := by
  cases step_cases hstep with
  | setCommand c | close => exact absurd may Bool.false_ne_true
  | _ => exact ⟨rfl, rfl⟩

theorem step_publishedAt {h h' : Host} {a : HostAction} (hstep : h.step a = some h') {i : Nat}
    {t : Int} (ht : h'.publishedAt[i]? = some t) : h.publishedAt[i]? = some t ∨ h.now ≤ t := by
  cases step_cases hstep with
  | publish c status time recovered at_ =>
      rcases getElem?_concat_cases ht with ht | ⟨-, rfl⟩
      · exact .inl ht
      · exact .inr (Int.le_refl _)
  | _ => exact .inl ht

theorem Carried.landed_le {h : Host} (inv : Carried h) {e : Exchange} (he : e ∈ h.completed) :
    e.landed ≤ h.landed.length := by
  have current := inv.handed _ (List.mem_of_getElem? (inv.completed e he))
  have inside := (List.getElem?_eq_some_iff.mp current).1
  simpa [commands, Nat.lt_succ_iff] using inside

theorem Carried.command_eq {h : Host} (inv : Carried h) {e : Exchange} (he : e ∈ h.completed) {j : Nat}
    {l : Landing} (hl : h.landed[j]? = some l) (hj : e.landed = j + 1) : e.command = l.command := by
  have current := inv.handed _ (List.mem_of_getElem? (inv.completed e he))
  simpa [commands, hj, hl, eq_comm] using current

theorem Coherent.run_withCaller {κ : Type*} {allowed : HostAction → Bool}
    {caller : κ → Host → Option (κ × Option HostAction)} {Inv : Host → κ → Prop}
    (keeps : ∀ {h k label h' k'}, Coherent h → Inv h k →
      withCaller allowed Host.step caller (h, k) label = some (h', k') → Inv h' k')
    {h h' : Host} {k k' : κ} {labels : List (Option HostAction)} (coherent : Coherent h)
    (inv : Inv h k)
    (hrun : Machine.run (withCaller allowed Host.step caller) (h, k) labels = some (h', k')) :
    Inv h' k' := by
  refine (@run_invariant _ _ _ (fun s => Coherent s.1 ∧ Inv s.1 s.2)
    (fun s label s' inv hstep => ?_) _ _ _ hrun ⟨coherent, inv⟩).2
  obtain ⟨actions, hactions⟩ := step_withCaller hstep
  exact ⟨inv.1.run hactions, keeps inv.1 inv.2 hstep⟩

end Host
end TactileSensors.Gripper
