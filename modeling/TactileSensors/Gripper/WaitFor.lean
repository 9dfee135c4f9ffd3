import TactileSensors.Gripper.SetCommand
import TactileSensors.Machine.Observe
import Mathlib.Data.List.Chain

/-!
# Waiting exchange by exchange

`waitFor` hands its predicate each exchange it catches, and `waitForExchangeCount` waits for one count.
Anyone may command meanwhile; only a gripper that is being destroyed is left out.
-/

namespace TactileSensors.Gripper
open Machine

def waitFor (predicate : StampedExchange → Bool) (p : WaitPoint) (h : Host) :
    Option (WaitPoint × Option HostAction) :=
  (waitForExchangeAfter predicate h.image h.now p).map fun p => (p, none)

/-- What the predicate is evaluated on in the wait's next step. An exchange is never seen twice, so a
predicate with a state of its own is none the worse for one without. -/
def evaluates (h : Host) : WaitPoint → Option StampedExchange
  | .syncing _ desired limit =>
      (h.image.waitForExchange desired limit h.now).filter fun fresh => desired ≤ fresh.exchangeCount
  | _ => none

def noteEvaluated (s : Host × WaitPoint) (label : Option HostAction) (_ : Host × WaitPoint)
    (evaluated : List StampedExchange) : List StampedExchange :=
  match label with
  | none => evaluated ++ (evaluates s.1 s.2).toList
  | some _ => evaluated

def HostAction.staysOpen : HostAction → Bool
  | .close => false
  | _ => true

def waiting (predicate : StampedExchange → Bool) :
    (Host × WaitPoint) × List StampedExchange → Option HostAction →
      Option ((Host × WaitPoint) × List StampedExchange) :=
  observed (withCaller HostAction.staysOpen Host.step (waitFor predicate)) noteEvaluated

inductive CountPoint
  | called
  | syncing (limit : Int)
  | done (limit : Int) (exchange : Option StampedExchange)
deriving DecidableEq, Repr

def waitForExchangeCount (desired : Nat) (timeout : Int) :
    CountPoint → Host → Option (CountPoint × Option HostAction)
  | .called, h => some (.syncing (deadlineAfter h.now timeout), none)
  | .syncing limit, h =>
      (h.image.waitForExchange desired limit h.now).map fun fresh =>
        (.done limit (if fresh.exchangeCount < desired then none else some fresh), none)
  | .done _ _, _ => none

namespace Host

theorem step_staysOpen {h h' : Host} {a : HostAction} (may : a.staysOpen)
    (hstep : h.step a = some h') : h'.image.closed = h.image.closed := by
  cases step_cases hstep with
  | close => exact absurd may Bool.false_ne_true
  | _ => rfl

/-! ## What is evaluated -/

theorem evaluates_of_step {predicate : StampedExchange → Bool} {h : Host} {deadline limit : Int}
    {desired : Nat} {p : WaitPoint}
    (hstep : waitForExchangeAfter predicate h.image h.now (.syncing deadline desired limit) = some p) :
    evaluates h (.syncing deadline desired limit) =
      if desired ≤ h.image.exchangeCount then some h.image.stamped else none := by
  obtain ⟨fresh, woke, -⟩ := Option.map_eq_some_iff.mp hstep
  obtain ⟨rfl, -⟩ := waitForExchange_cases woke
  rw [evaluates, woke, Option.filter_some]
  simp only [decide_eq_true_eq]
  rfl

theorem waitForExchangeAfter_congr {predicate other : StampedExchange → Bool} {h : Host} {p : WaitPoint}
    (same : ∀ exchange ∈ evaluates h p, other exchange = predicate exchange) :
    waitForExchangeAfter other h.image h.now p = waitForExchangeAfter predicate h.image h.now p := by
  cases p with
  | syncing deadline desired limit =>
      simp only [waitForExchangeAfter]
      cases woke : h.image.waitForExchange desired limit h.now with
      | none => rfl
      | some fresh =>
          by_cases behind : fresh.exchangeCount < desired
          · simp only [Option.map_some, if_pos behind]
          · have seen : fresh ∈ evaluates h (.syncing deadline desired limit) := by
              simp [evaluates, woke, Nat.le_of_not_lt behind]
            simp only [Option.map_some, same fresh seen]
  | budgeting deadline | sampling timeout | entering afterCount timeout | looping deadline desired
  | counting deadline desired timeout | done deadline exchange => rfl

theorem waiting_congr {predicate other : StampedExchange → Bool} {s s' : Host × WaitPoint}
    {label : Option HostAction} {evaluated evaluated' : List StampedExchange}
    (hstep : waiting predicate (s, evaluated) label = some (s', evaluated'))
    (same : ∀ exchange ∈ evaluated', other exchange = predicate exchange) :
    waiting other (s, evaluated) label = some (s', evaluated') := by
  obtain ⟨hstep, noted⟩ := observed_eq_some.mp hstep
  refine observed_eq_some.mpr ⟨?_, noted⟩
  obtain ⟨h, p⟩ := s
  cases label with
  | some a => exact hstep
  | none =>
      have agree : waitForExchangeAfter other h.image h.now p =
          waitForExchangeAfter predicate h.image h.now p := by
        refine waitForExchangeAfter_congr fun exchange hexchange => same exchange ?_
        rw [show evaluated' = evaluated ++ (evaluates h p).toList from noted]
        exact List.mem_append_right _ (Option.mem_toList.mpr hexchange)
      simpa only [withCaller, waitFor, agree] using hstep

theorem waiting_evaluated {predicate : StampedExchange → Bool} {s s' : Host × WaitPoint}
    {label : Option HostAction} {evaluated evaluated' : List StampedExchange}
    (hstep : waiting predicate (s, evaluated) label = some (s', evaluated')) :
    evaluated <+: evaluated' := by
  obtain ⟨-, rfl⟩ := observed_pair_eq_some.mp hstep
  cases label with
  | some a => exact List.prefix_refl _
  | none => exact List.prefix_append _ _

theorem run_waiting_congr {predicate other : StampedExchange → Bool} {s s' : Host × WaitPoint}
    {labels : List (Option HostAction)} {evaluated evaluated' : List StampedExchange}
    (hrun : run (waiting predicate) (s, evaluated) labels = some (s', evaluated'))
    (same : ∀ exchange ∈ evaluated', other exchange = predicate exchange) :
    run (waiting other) (s, evaluated) labels = some (s', evaluated') := by
  induction labels generalizing s evaluated with
  | nil => exact hrun
  | cons label labels ih =>
      obtain ⟨⟨mid, noted⟩, hstep, hrest⟩ := run_cons_eq_some.mp hrun
      have more : noted <+: evaluated' :=
        run_induction (R := fun t t' : (Host × WaitPoint) × List StampedExchange => t.2 <+: t'.2)
          (fun t => List.prefix_refl t.2)
          (fun t u label u' grown hstep => grown.trans (waiting_evaluated hstep)) hrest
      have now := waiting_congr hstep fun exchange hexchange => same exchange (more.subset hexchange)
      exact run_cons_eq_some.mpr ⟨_, now, ih hrest⟩

/-! ## What a wait has seen -/

/-- The count of the exchange last evaluated, or the count at the call. -/
def lastCount (base : Nat) (evaluated : List StampedExchange) : Nat :=
  (evaluated.map StampedExchange.exchangeCount).getLastD base

theorem lastCount_concat (base : Nat) (evaluated : List StampedExchange) (exchange : StampedExchange) :
    lastCount base (evaluated ++ [exchange]) = exchange.exchangeCount := by
  simp [lastCount]

structure Seen (base : Nat) (h : Host) (evaluated : List StampedExchange) : Prop where
  increasing : (base :: evaluated.map StampedExchange.exchangeCount).IsChain (· < ·)
  records : ∀ exchange ∈ evaluated, h.recordOf exchange.exchangeCount = some exchange

theorem Seen.grows {base : Nat} {h h' : Host} {evaluated : List StampedExchange}
    (seen : Seen base h evaluated) (grown : h.Grows h') : Seen base h' evaluated :=
  ⟨seen.increasing, fun exchange hexchange => grown.recordOf (seen.records exchange hexchange)⟩

theorem Seen.concat {base : Nat} {h : Host} {evaluated : List StampedExchange} {exchange : StampedExchange}
    (seen : Seen base h evaluated) (newer : lastCount base evaluated < exchange.exchangeCount)
    (record : h.recordOf exchange.exchangeCount = some exchange) :
    Seen base h (evaluated ++ [exchange]) := by
  constructor
  · rw [List.map_append, List.map_singleton, ← List.cons_append]
    refine List.isChain_append.mpr ⟨seen.increasing, List.isChain_singleton _, ?_⟩
    intro last hlast next hnext
    cases Option.some.inj hnext
    rw [List.getLast?_cons, Option.mem_some_iff, ← List.getLastD_eq_getLast?] at hlast
    exact hlast ▸ newer
  · intro other hother
    rcases List.mem_append.mp hother with hother | hother
    · exact seen.records other hother
    · cases List.mem_singleton.mp hother
      exact record

def Evaluates (predicate : StampedExchange → Bool) (base : Nat) (timeout : Int) (h : Host)
    (evaluated : List StampedExchange) : WaitPoint → Prop
  | .budgeting _ | .sampling _ => False
  | .entering afterCount timeout' => afterCount = base ∧ timeout' = timeout ∧ evaluated = []
  | .looping _ desired =>
      desired = lastCount base evaluated + 1 ∧ ∀ exchange ∈ evaluated, predicate exchange = false
  | .counting deadline desired left =>
      (desired = lastCount base evaluated + 1 ∧ ∀ exchange ∈ evaluated, predicate exchange = false) ∧
        deadline ≤ deadlineAfter h.now left
  | .syncing deadline desired limit =>
      (desired = lastCount base evaluated + 1 ∧ ∀ exchange ∈ evaluated, predicate exchange = false) ∧
        deadline ≤ limit
  | .done _ (some exchange) =>
      ∃ earlier, evaluated = earlier ++ [exchange] ∧ predicate exchange ∧
        ∀ before ∈ earlier, predicate before = false
  | .done deadline none =>
      (∀ exchange ∈ evaluated, predicate exchange = false) ∧ deadline ≤ h.now ∧
        ∀ i t, h.publishedAt[i]? = some t → t < deadline → i < lastCount base evaluated

theorem Evaluates.world {predicate : StampedExchange → Bool} {base : Nat} {timeout : Int} {h h' : Host}
    {evaluated : List StampedExchange} {p : WaitPoint} {a : HostAction}
    (inv : Evaluates predicate base timeout h evaluated p) (hstep : h.step a = some h') :
    Evaluates predicate base timeout h' evaluated p := by
  have now := (step_grows hstep).now
  cases p with
  | budgeting deadline | sampling timeout' | entering afterCount timeout' | looping deadline desired
  | syncing deadline desired limit => exact inv
  | counting deadline desired left => exact ⟨inv.1, Int.le_trans inv.2 (deadlineAfter_mono now _)⟩
  | done deadline exchange =>
      cases exchange with
      | some exchange => exact inv
      | none =>
          obtain ⟨fail, past, published⟩ := inv
          refine ⟨fail, Int.le_trans past now, fun i t ht early => ?_⟩
          rcases step_publishedAt hstep ht with ht | late
          · exact published i t ht early
          · exact absurd (Int.le_trans past late) (Int.not_le.mpr early)

structure WaitsFor (predicate : StampedExchange → Bool) (h₀ : Host) (timeout : Int) (h : Host)
    (p : WaitPoint) (evaluated : List StampedExchange) : Prop where
  grown : Grows h₀ h
  stays : h.image.closed = false
  seen : Seen h₀.image.exchangeCount h evaluated
  point : Evaluates predicate h₀.image.exchangeCount timeout h evaluated p
  deadline : ∀ d ∈ p.deadline?, deadlineAfter h₀.now timeout ≤ d ∧ d ≤ h.now + longest * nsPerMs

theorem WaitsFor.world {predicate : StampedExchange → Bool} {h₀ h h' : Host} {timeout : Int}
    {p : WaitPoint} {evaluated : List StampedExchange} {a : HostAction}
    (inv : WaitsFor predicate h₀ timeout h p evaluated) (may : a.staysOpen) (hstep : h.step a = some h') :
    WaitsFor predicate h₀ timeout h' p evaluated := by
  have grown := step_grows hstep
  constructor
  case grown => exact inv.grown.trans grown
  case stays => rw [step_staysOpen may hstep, inv.stays]
  case seen => exact inv.seen.grows grown
  case point => exact inv.point.world hstep
  case deadline =>
      intro d hd
      obtain ⟨least, most⟩ := inv.deadline d hd
      exact ⟨least, Int.le_trans most (Int.add_le_add_right grown.now _)⟩

theorem WaitsFor.caller {predicate : StampedExchange → Bool} {h₀ h : Host} {timeout : Int}
    {p p' : WaitPoint} {evaluated : List StampedExchange}
    (inv : WaitsFor predicate h₀ timeout h p evaluated) (coherent : Coherent h)
    (hstep : waitForExchangeAfter predicate h.image h.now p = some p') :
    WaitsFor predicate h₀ timeout h p' (evaluated ++ (evaluates h p).toList) := by
  have before := inv.point
  cases p with
  | budgeting deadline | sampling timeout' => exact before.elim
  | entering afterCount timeout' =>
      cases hstep
      obtain ⟨rfl, rfl, rfl⟩ := before
      have nothing : evaluates h (.entering h₀.image.exchangeCount timeout') = none := rfl
      rw [nothing, Option.toList_none, List.append_nil]
      refine ⟨inv.grown, inv.stays, inv.seen, ⟨rfl, nofun⟩, fun d hd => ?_⟩
      cases hd
      exact ⟨deadlineAfter_mono inv.grown.now _, deadlineAfter_le _ _⟩
  | looping deadline desired =>
      cases hstep
      have left := remaining_le_longest (inv.deadline deadline rfl).2
      have again : deadline ≤ deadlineAfter h.now (remaining deadline h.now) := by
        rw [deadlineAfter, Int.min_eq_left left]
        exact le_add_remaining deadline h.now
      have nothing : evaluates h (.looping deadline desired) = none := rfl
      rw [nothing, Option.toList_none, List.append_nil]
      exact { inv with point := ⟨before, again⟩ }
  | counting deadline desired left =>
      cases hstep
      have nothing : evaluates h (.counting deadline desired left) = none := rfl
      rw [nothing, Option.toList_none, List.append_nil]
      exact { inv with point := before }
  | syncing deadline desired limit =>
      obtain ⟨⟨rfl, fail⟩, reaches⟩ := before
      rw [evaluates_of_step hstep]
      rcases syncing_cases hstep with ⟨behind, why, rfl⟩ | ⟨reached, holds, rfl⟩ | ⟨reached, fails, rfl⟩
      · have past : limit ≤ h.now := why.resolve_left (by simp [inv.stays])
        rw [if_neg (Nat.not_le.mpr behind), Option.toList_none, List.append_nil]
        refine { inv with point := ⟨fail, Int.le_trans reaches past, fun i t ht _ => ?_⟩ }
        have published := (List.getElem?_eq_some_iff.mp ht).1
        rw [coherent.counted.publishedAt] at published
        exact Nat.lt_of_lt_of_le published (Nat.le_of_lt_succ behind)
      · rw [if_pos reached, Option.toList_some]
        exact { inv with
          seen := inv.seen.concat reached coherent.recorded.current
          point := ⟨evaluated, rfl, holds, fail⟩ }
      · rw [if_pos reached, Option.toList_some]
        refine { inv with
          seen := inv.seen.concat reached coherent.recorded.current
          point := ⟨?_, fun exchange hexchange => ?_⟩ }
        · rw [lastCount_concat]
          rfl
        · rcases List.mem_append.mp hexchange with hexchange | hexchange
          · exact fail exchange hexchange
          · cases List.mem_singleton.mp hexchange
            simpa using fails
  | done deadline exchange => cases hstep

theorem WaitsFor.step {predicate : StampedExchange → Bool} {h₀ h h' : Host} {timeout : Int}
    {p p' : WaitPoint} {evaluated evaluated' : List StampedExchange} {label : Option HostAction}
    (inv : WaitsFor predicate h₀ timeout h p evaluated) (coherent : Coherent h)
    (hstep : waiting predicate ((h, p), evaluated) label = some ((h', p'), evaluated')) :
    WaitsFor predicate h₀ timeout h' p' evaluated' := by
  obtain ⟨taken, rfl⟩ := observed_pair_eq_some.mp hstep
  cases withCaller_cases taken with
  | world may ha => exact inv.world may ha
  | acts goes ha => simp [waitFor] at goes
  | looks goes =>
      obtain ⟨next, hnext, same⟩ := Option.map_eq_some_iff.mp goes
      cases same
      exact inv.caller coherent hnext

theorem WaitsFor.run {predicate : StampedExchange → Bool} {h₀ h : Host} {timeout : Int} {p : WaitPoint}
    {evaluated : List StampedExchange} {labels : List (Option HostAction)} (coherent : Coherent h₀)
    (living : h₀.image.closed = false)
    (hrun : Machine.run (waiting predicate) ((h₀, .sampling timeout), []) (none :: labels) =
      some ((h, p), evaluated)) : WaitsFor predicate h₀ timeout h p evaluated := by
  obtain ⟨mid, hfirst, hrest⟩ := run_cons_eq_some.mp hrun
  cases hfirst
  have begun : WaitsFor predicate h₀ timeout h₀ (.entering h₀.image.exchangeCount timeout) [] :=
    ⟨.refl h₀, living, ⟨List.isChain_singleton _, nofun⟩, ⟨rfl, rfl, rfl⟩, nofun⟩
  refine (@run_invariant _ _ _ (fun s => Coherent s.1.1 ∧ WaitsFor predicate h₀ timeout s.1.1 s.1.2 s.2)
    (fun s label s' inv hstep => ?_) _ _ _ hrest ⟨coherent, begun⟩).2
  obtain ⟨actions, hactions⟩ := step_withCaller (observed_eq_some.mp hstep).1
  exact ⟨inv.1.run hactions, inv.2.step inv.1 hstep⟩

/-! ## Waiting for a count -/

def LastLook (desired : Nat) (limit : Int) (result : Option StampedExchange) :
    Host × CountPoint → Option HostAction → Prop
  | (h, .syncing _), none =>
      result = (if h.image.exchangeCount < desired then none else some h.image.stamped) ∧
        (h.image.exchangeCount < desired → limit ≤ h.now)
  | _, _ => False

def Counts (h₀ : Host) (desired : Nat) (timeout : Int) (taken : List (Option HostAction)) (h : Host) :
    CountPoint → Prop
  | .called => False
  | .syncing limit =>
      limit = deadlineAfter h₀.now timeout ∧ Grows h₀ h ∧ h.image.closed = false
  | .done limit result =>
      limit = deadlineAfter h₀.now timeout ∧
        (∀ exchange ∈ result, desired ≤ exchange.exchangeCount ∧
          h.recordOf exchange.exchangeCount = some exchange) ∧
        (result = none → limit ≤ h.now ∧ h₀.image.exchangeCount < desired ∧
          ∀ t, h.publishedAt[desired - 1]? = some t → limit ≤ t) ∧
        SomeStepMeets (withCaller HostAction.staysOpen Host.step (waitForExchangeCount desired timeout))
          (LastLook desired limit result) (h₀, .called) taken

theorem Counts.world {h₀ h h' : Host} {desired : Nat} {timeout : Int} {taken : List (Option HostAction)}
    {p : CountPoint} {a : HostAction} (inv : Counts h₀ desired timeout taken h p) (may : a.staysOpen)
    (hstep : h.step a = some h') : Counts h₀ desired timeout (taken ++ [some a]) h' p := by
  have grown := step_grows hstep
  cases p with
  | called => exact inv
  | syncing limit =>
      obtain ⟨begun, since, stays⟩ := inv
      exact ⟨begun, since.trans grown, (step_staysOpen may hstep).trans stays⟩
  | done limit result =>
      obtain ⟨begun, found, empty, look⟩ := inv
      refine ⟨begun, fun exchange hexchange => ?_, fun nothing => ?_, look.append _⟩
      · obtain ⟨reached, record⟩ := found exchange hexchange
        exact ⟨reached, grown.recordOf record⟩
      · obtain ⟨past, behind, published⟩ := empty nothing
        refine ⟨Int.le_trans past grown.now, behind, fun t ht => ?_⟩
        rcases step_publishedAt hstep ht with ht | late
        · exact published t ht
        · exact Int.le_trans past late

theorem Counts.caller {h₀ h : Host} {desired : Nat} {timeout : Int} {taken : List (Option HostAction)}
    {p p' : CountPoint} (inv : Counts h₀ desired timeout taken h p) (coherent : Coherent h)
    (hrun : run (withCaller HostAction.staysOpen Host.step (waitForExchangeCount desired timeout))
      (h₀, .called) taken = some (h, p))
    (goes : waitForExchangeCount desired timeout p h = some (p', none)) :
    Counts h₀ desired timeout (taken ++ [none]) h p' := by
  cases p with
  | called => exact inv.elim
  | syncing limit =>
      obtain ⟨begun, since, stays⟩ := inv
      obtain ⟨fresh, woke, same⟩ := Option.map_eq_some_iff.mp goes
      obtain ⟨rfl, why⟩ := waitForExchange_cases woke
      have due : h.image.exchangeCount < desired → limit ≤ h.now := fun behind =>
        (why behind).resolve_left (by simp [stays])
      cases same
      refine ⟨begun, ?_, ?_, someStepMeets_concat hrun ⟨rfl, due⟩⟩
      · intro exchange hexchange
        obtain ⟨reached, found⟩ := Option.ite_none_left_eq_some.mp hexchange
        cases found
        exact ⟨Nat.le_of_not_lt reached, coherent.recorded.current⟩
      · intro nothing
        have behind : h.image.exchangeCount < desired := by
          by_contra reached
          rw [if_neg (show ¬ h.image.stamped.exchangeCount < desired from reached)] at nothing
          cases nothing
        refine ⟨due behind, Nat.lt_of_le_of_lt since.exchangeCount behind, fun t ht => ?_⟩
        have published := (List.getElem?_eq_some_iff.mp ht).1
        rw [coherent.counted.publishedAt] at published
        omega
  | done limit result => cases goes

theorem Counts.step {h₀ h h' : Host} {desired : Nat} {timeout : Int} {taken : List (Option HostAction)}
    {p p' : CountPoint} {label : Option HostAction} (inv : Counts h₀ desired timeout taken h p)
    (coherent : Coherent h)
    (hrun : run (withCaller HostAction.staysOpen Host.step (waitForExchangeCount desired timeout))
      (h₀, .called) taken = some (h, p))
    (hstep : withCaller HostAction.staysOpen Host.step (waitForExchangeCount desired timeout) (h, p) label =
      some (h', p')) : Counts h₀ desired timeout (taken ++ [label]) h' p' := by
  cases withCaller_cases hstep with
  | world may ha => exact inv.world may ha
  | acts goes ha => cases p <;> simp [waitForExchangeCount] at goes
  | looks goes => exact inv.caller coherent hrun goes

theorem Counts.run {h₀ h : Host} {desired : Nat} {timeout : Int} {p : CountPoint}
    {labels : List (Option HostAction)} (coherent : Coherent h₀) (living : h₀.image.closed = false)
    (hrun : Machine.run (withCaller HostAction.staysOpen Host.step (waitForExchangeCount desired timeout))
      (h₀, .called) (none :: labels) = some (h, p)) :
    Counts h₀ desired timeout (none :: labels) h p := by
  refine run_history_of_first (R := fun taken s => Counts h₀ desired timeout taken s.1 s.2) ?begun ?keeps
    hrun
  case begun =>
    intro mid hfirst
    cases hfirst
    exact ⟨rfl, .refl h₀, living⟩
  case keeps =>
    intro taken s label s' sofar counts hstep
    obtain ⟨actions, hactions⟩ := run_withCaller sofar
    exact counts.step (coherent.run hactions) sofar hstep

theorem waitForExchange_due {image : ProcessImage} {desired : Nat} {limit now : Int}
    (due : desired ≤ image.exchangeCount ∨ limit ≤ now) :
    image.waitForExchange desired limit now = some image.stamped := by
  cases desired with
  | zero => rfl
  | succ count =>
      refine if_neg fun stays => ?_
      rcases due with reached | past
      · exact absurd stays.1 (Nat.not_le.mpr reached)
      · exact absurd stays.2.2 (Int.not_lt.mpr past)

/-- `waitFor` evaluates its predicate on records past the count at the call, their counts going up, and
returns the first that satisfies it; if it returns empty, every exchange published before its deadline
was the last one evaluated or came before it. `waitForExchangeCount` returns what the image shows at its
last look if the count is reached then, and nothing otherwise; while the count is not reached, no look is
the last one before the deadline, and from the deadline on the next one is. -/
theorem waits_exact {answers : Nat → Except String GripperStatus} {time : Int} {s : GripperState}
    (ready : GripperState.constructed.initializeImage answers time = (.ok (), s))
    {before : List HostAction} {h₀ : Host}
    (hbefore : Machine.run Host.step (.start s time) before = some h₀)
    (living : h₀.image.closed = false) (timeout : Int) :
    (∀ predicate labels h deadline result evaluated,
      Machine.run (waiting predicate) ((h₀, .sampling timeout), []) (none :: labels) =
        some ((h, .done deadline result), evaluated) →
      (h₀.image.exchangeCount :: evaluated.map StampedExchange.exchangeCount).Pairwise (· < ·) ∧
        (∀ exchange ∈ evaluated, h.recordOf exchange.exchangeCount = some exchange) ∧
        result = evaluated.find? predicate ∧
        (∀ exchange, result = some exchange → evaluated.getLast? = some exchange) ∧
        deadlineAfter h₀.now timeout ≤ deadline ∧
        (result = none → deadline ≤ h.now ∧ ∀ i t, h.publishedAt[i]? = some t → t < deadline →
          i + 1 ≤ lastCount h₀.image.exchangeCount evaluated)) ∧
    ∀ desired,
      (∀ labels h limit result,
        Machine.run (withCaller HostAction.staysOpen Host.step (waitForExchangeCount desired timeout))
          (h₀, .called) (none :: labels) = some (h, .done limit result) →
        limit = deadlineAfter h₀.now timeout ∧
          (∀ exchange, result = some exchange → desired ≤ exchange.exchangeCount ∧
            h.recordOf exchange.exchangeCount = some exchange) ∧
          (desired ≤ h₀.image.exchangeCount ∨
            (∃ t, h.publishedAt[desired - 1]? = some t ∧ t < limit) → result ≠ none) ∧
          SomeStepMeets (withCaller HostAction.staysOpen Host.step (waitForExchangeCount desired timeout))
            (LastLook desired limit result) (h₀, .called) (none :: labels)) ∧
      ∀ (h : Host) limit, desired ≤ h.image.exchangeCount ∨ limit ≤ h.now →
        ∃ result, waitForExchangeCount desired timeout (.syncing limit) h =
          some (.done limit result, none) := by
  have coherent := (Coherent.start ready).run hbefore
  refine ⟨fun predicate labels h deadline result evaluated hrun => ?_,
    fun desired => ⟨fun labels h limit result hrun => ?_, fun h limit due => ?_⟩⟩
  · have inv := WaitsFor.run coherent living hrun
    refine ⟨List.isChain_iff_pairwise.mp inv.seen.increasing, inv.seen.records, ?_, ?_,
      (inv.deadline deadline rfl).1, ?_⟩
    · cases result with
      | none =>
          have fail := inv.point.1
          exact (List.find?_eq_none.mpr fun exchange hexchange => by simp [fail exchange hexchange]).symm
      | some exchange =>
          obtain ⟨earlier, rfl, holds, fail⟩ := inv.point
          have skipped : earlier.find? predicate = none :=
            List.find?_eq_none.mpr fun other hother => by simp [fail other hother]
          rw [List.find?_append, skipped, Option.none_or, List.find?_cons_of_pos holds]
    · rintro exchange rfl
      obtain ⟨earlier, rfl, -⟩ := inv.point
      exact List.getLast?_concat
    · rintro rfl
      exact inv.point.2
  · obtain ⟨begun, found, empty, look⟩ := Counts.run coherent living hrun
    refine ⟨begun, found, fun reached nothing => ?_, look⟩
    obtain ⟨-, behind, published⟩ := empty nothing
    rcases reached with reached | ⟨t, ht, early⟩
    · exact absurd reached (Nat.not_le.mpr behind)
    · exact absurd (published t ht) (Int.not_le.mpr early)
  · rw [waitForExchangeCount, waitForExchange_due due]
    exact ⟨_, rfl⟩

theorem waits_exact_for_second :
    let s := (GripperState.constructed.initializeImage (fun _ => .ok .zero) 0).2
    let second : StampedExchange → Bool := fun exchange => 2 ≤ exchange.exchangeCount
    let cycle : List (Option HostAction) :=
      [some .exchangeOnce, some (.answer .zero)] ++ List.replicate 6 (some .exchangeOnce)
    let labels : List (Option HostAction) :=
      List.flatten [List.replicate 3 none, cycle, List.replicate 3 none, cycle, [none]]
    ∃ h deadline exchange evaluated,
      run (waiting second) ((.start s 0, .sampling 1000), []) (none :: labels) =
        some ((h, .done deadline (some exchange)), evaluated) ∧
      evaluated.length = 2 ∧ evaluated.find? second = some exchange ∧
      h.recordOf exchange.exchangeCount = some exchange := by
  intro s second cycle labels
  have ready : GripperState.constructed.initializeImage (fun _ => .ok .zero) 0 = (.ok (), s) := rfl
  have living : (start s 0).image.closed = false := rfl
  let exchange : StampedExchange := ⟨⟨2, 0⟩, s.image.command, .zero⟩
  have call : (run (waiting second) ((.start s 0, .sampling 1000), []) (none :: labels)).map
      (fun t => (t.1.2, t.2.length)) = some (.done (1000 * nsPerMs) (some exchange), 2) := by
    decide +kernel
  obtain ⟨⟨⟨h, p⟩, evaluated⟩, hrun, same⟩ := Option.map_eq_some_iff.mp call
  obtain ⟨rfl, two⟩ := Prod.mk.inj same
  obtain ⟨-, records, found, newest, -⟩ :=
    (@waits_exact _ _ _ ready [] _ rfl living 1000).1 second labels h _ _ evaluated hrun
  have last := newest exchange rfl
  exact ⟨h, _, exchange, evaluated, hrun, two, found.symm,
    records exchange (List.mem_of_getLast? last)⟩

/-- With no time left at all, `waitForExchangeCount` still returns an exchange that was published after its
deadline and before its one look at the image. And an exchange that ended in time is not there yet for a
`waitFor` whose deadline passes before it is published. -/
theorem waits_around_deadline :
    let s := (GripperState.constructed.initializeImage (fun _ => .ok .zero) 0).2
    let late : List (Option HostAction) := List.flatten [[none, some (.elapse 5)],
      [some .exchangeOnce, some (.answer .zero)], List.replicate 6 (some .exchangeOnce), [none]]
    let stamped : List (Option HostAction) := List.flatten [List.replicate 4 none,
      [some .exchangeOnce, some (.answer .zero)], List.replicate 2 (some .exchangeOnce),
      [some (.elapse 1000000000), none], List.replicate 3 (some .exchangeOnce)]
    (∃ h limit exchange, run (withCaller HostAction.staysOpen Host.step (waitForExchangeCount 1 0))
        (.start s 0, .called) late = some (h, .done limit (some exchange)) ∧
      (start s 0).image.exchangeCount < 1 ∧ limit = (start s 0).now ∧ h.publishedAt = [limit + 5]) ∧
    ∃ h, run (waiting fun _ => true) ((.start s 0, .sampling 1000), []) stamped =
        some ((h, .done (1000 * nsPerMs) none), []) ∧
      h.completed.map Exchange.completedAt = [0] ∧ h.publishedAt = [1000 * nsPerMs] := by
  intro s late stamped
  have counted : (run (withCaller HostAction.staysOpen Host.step (waitForExchangeCount 1 0))
      (.start s 0, .called) late).map (fun t => (t.2, t.1.publishedAt)) =
        some (.done 0 (some ⟨⟨1, 5⟩, s.image.command, .zero⟩), [5]) := by decide +kernel
  have missed : (run (waiting fun _ => true) ((.start s 0, .sampling 1000), []) stamped).map
      (fun t => ((t.1.2, t.2), t.1.1.completed.map Exchange.completedAt, t.1.1.publishedAt)) =
        some ((.done (1000 * nsPerMs) none, []), [0], [1000 * nsPerMs]) := by decide +kernel
  obtain ⟨⟨h, p⟩, hrun, same⟩ := Option.map_eq_some_iff.mp counted
  obtain ⟨rfl, published⟩ := Prod.mk.inj same
  obtain ⟨⟨⟨h', p⟩, evaluated⟩, hrun', same'⟩ := Option.map_eq_some_iff.mp missed
  obtain ⟨ended, times⟩ := Prod.mk.inj same'
  obtain ⟨rfl, rfl⟩ := Prod.mk.inj ended
  obtain ⟨completedAt, publishedAt⟩ := Prod.mk.inj times
  exact ⟨⟨h, 0, _, hrun, by decide, rfl, published⟩, h', hrun', completedAt, publishedAt⟩

end Host
end TactileSensors.Gripper
