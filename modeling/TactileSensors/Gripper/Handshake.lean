import TactileSensors.Gripper.Recovery

/-!
# What the activation procedures leave and judge

A procedure that gives up restores the command it was called with, or has set rACT and cleared rGTO in
it. `activate` writes nothing unless an exchange the image had not counted showed an idle gripper.
-/

namespace TactileSensors.Gripper
open Machine

namespace Host

/-! ## The command a procedure leaves -/

def LeftFrom (c after : GripperCommand) : Prop :=
  after = c ∨ after = activateCommand c

def Leaves (c : GripperCommand) (h : Host) : ActivationPoint → Prop
  | .called | .waitingOperational _ _ | .allowing _ | .handshake _ => h.image.command = c
  | .deactivating _ previousCommand => h.image.command = c ∧ previousCommand = c
  | .waitingReset _ previousCommand _ | .restoring previousCommand | .activating _ previousCommand =>
      previousCommand = c
  | .waitingComplete _ _ | .done _ _ => LeftFrom c h.image.command

theorem judge_leaves {c : GripperCommand} {h : Host} (kept : h.image.command = c) (deadline : Int)
    (fresh : StampedExchange) : Leaves c h (judge deadline fresh) := by
  unfold judge
  split
  · exact .inl kept
  · split
    · exact .inl kept
    · exact .inl kept
    · exact kept

theorem operational_leaves {c : GripperCommand} {h : Host} (kept : h.image.command = c)
    (procedure : Procedure) (deadline : Int) (fresh : Option StampedExchange) :
    Leaves c h (procedure.operational deadline fresh) := by
  cases fresh with
  | none => exact .inl kept
  | some fresh =>
      cases procedure with
      | activate => exact judge_leaves kept deadline fresh
      | recoverFromFault => exact kept

theorem Leaves.step {procedure : Procedure} {timeout : Int} {c : GripperCommand} {h h' : Host}
    {point point' : ActivationPoint} {label : Option HostAction} (inv : Leaves c h point)
    (hstep : withCaller HostAction.aside Host.step (procedure.program timeout) (h, point) label =
      some (h', point')) : Leaves c h' point' := by
  cases withCaller_cases hstep with
  | world may ha =>
      have same := (step_aside may ha).2
      cases point <;> simpa only [Leaves, same] using inv
  | acts goes ha =>
      cases Procedure.program_cases goes with
      | deactivate => exact inv.2
      | restore =>
          cases ha
          exact .inl inv
      | activate =>
          cases ha
          exact .inr (congrArg activateCommand inv)
  | looks goes =>
      cases Procedure.program_cases goes with
      | call | waitOperational waits | allow enough | waitReset waits | waitComplete waits => exact inv
      | operational => exact operational_leaves inv procedure _ _
      | refuse short => exact .inl inv
      | getCommand => exact ⟨inv, inv⟩
      | giveUp | reset | incomplete | complete => exact inv

def otherBits : UInt8 := ~~~(ActionRequestBit.activate.mask ||| ActionRequestBit.goTo.mask)

theorem LeftFrom.fields {c after : GripperCommand} (left : LeftFrom c after) :
    { after with action := c.action } = c ∧
      after.action.value &&& otherBits = c.action.value &&& otherBits ∧
      (c.activates → after.activates) ∧ (after.goesTo → c.goesTo) := by
  rcases left with rfl | rfl
  · exact ⟨rfl, rfl, id, id⟩
  · refine ⟨rfl, ?_, fun _ => activateCommand_activates c, fun goes => ?_⟩
    · have others : (~~~ActionRequestBit.goTo.mask &&& otherBits) = otherBits ∧
          ActionRequestBit.activate.mask &&& otherBits = 0 := by decide
      simp only [activateCommand, ActionRequest.set, Bool.false_eq_true, if_false, if_true,
        ActionRequest.or_and_mask, UInt8.and_assoc, others, UInt8.or_zero]
    · rw [activateCommand_goesTo] at goes
      cases goes

/-- However a procedure returns, the command is the one it was called with, but that rACT may have been
set and rGTO cleared. -/
theorem activation_leaves_command {procedure : Procedure} {timeout : Int} {h₀ h : Host}
    {labels : List (Option HostAction)} {result : ActivationResult} {judged : Option StampedExchange}
    (hrun : run (withCaller HostAction.aside Host.step (procedure.program timeout)) (h₀, .called) labels =
      some (h, .done result judged)) :
    (h.image.command = h₀.image.command ∨ h.image.command = { h₀.image.command with
        action := (h₀.image.command.action.set .goTo false).set .activate true }) ∧
      { h.image.command with action := h₀.image.command.action } = h₀.image.command ∧
      h.image.command.action.value &&& otherBits = h₀.image.command.action.value &&& otherBits ∧
      (h₀.image.command.activates → h.image.command.activates) ∧
      (h.image.command.goesTo → h₀.image.command.goesTo) := by
  have begun : Leaves h₀.image.command h₀ .called := rfl
  have left : Leaves h₀.image.command h (.done result judged) :=
    @run_invariant _ _ _ (fun s => Leaves h₀.image.command s.1 s.2)
      (fun _ _ _ inv hstep => Leaves.step inv hstep) _ _ _ hrun begun
  exact ⟨left, left.fields⟩

theorem recoverFromFault_leaves_command :
    let fresh : GripperStatus := { GripperStatus.zero with gripperStatus := ⟨0x39⟩ }
    let s := (GripperState.constructed.initializeImage (fun _ => .ok fresh) 0).2
    let labels : List (Option HostAction) := List.flatten [List.replicate 3 none,
      [some .exchangeOnce, some (.answer fresh)], List.replicate 6 (some .exchangeOnce),
      List.replicate 8 none, [some .exchangeOnce, some .fail, some .exchangeOnce, some .exchangeOnce],
      List.replicate 5 none, [some (.elapse 1000000000)], List.replicate 3 none]
    ∃ h, run (withCaller HostAction.aside Host.step (Procedure.recoverFromFault.program 1000))
        (.start s 0, .called) labels = some (h, .done .timeout none) ∧
      h.landed.length = 2 ∧ s.image.command.activates ∧ h.image.command.activates := by
  intro fresh s labels
  have call : (run (withCaller HostAction.aside Host.step (Procedure.recoverFromFault.program 1000))
      (.start s 0, .called) labels).map (fun t => (t.2, t.1.landed.length)) =
        some (.done .timeout none, 2) := by decide +kernel
  obtain ⟨⟨h, point⟩, hrun, same⟩ := Option.map_eq_some_iff.mp call
  obtain ⟨rfl, wrote⟩ := Prod.mk.inj same
  have active : s.image.command.activates := by decide +kernel
  exact ⟨h, hrun, wrote, active, (activation_leaves_command hrun).2.2.2.1 active⟩

/-! ## What `activate` judges -/

def showsMajorFault (exchange : StampedExchange) : Bool :=
  severity exchange.status.faultStatus.gripperFault = .major

def showsActive (exchange : StampedExchange) : Bool :=
  !showsMajorFault exchange && showsComplete exchange

def showsIdle (exchange : StampedExchange) : Bool :=
  !showsMajorFault exchange && !showsComplete exchange &&
    exchange.status.gripperStatus.activationState ≠ .inProgress

def JudgesIdle (h₀ : Host) : Host × ActivationPoint → Option HostAction → Prop
  | (h, .waitingOperational _ (.done _ (some first))), none =>
      h.landed = h₀.landed ∧ Shown showsIdle h₀.image.exchangeCount h first
  | _, _ => False

def ChecksTimeLeft (h₀ : Host) (timeout : Int) : Host × ActivationPoint → Option HostAction → Prop
  | (h, .allowing _), none =>
      h.landed = h₀.landed ∧ timeout.tdiv 2 * nsPerMs ≤ h₀.now + timeout * nsPerMs - h.now
  | _, _ => False

structure Warranted (h₀ : Host) (timeout : Int) (labels : List (Option HostAction)) : Prop where
  idle : SomeStepMeets (withCaller HostAction.aside Host.step (Procedure.activate.program timeout))
    (JudgesIdle h₀) (h₀, .called) labels
  timeLeft : SomeStepMeets (withCaller HostAction.aside Host.step (Procedure.activate.program timeout))
    (ChecksTimeLeft h₀ timeout) (h₀, .called) labels

def Wrote (h₀ : Host) (timeout : Int) (taken : List (Option HostAction)) (h : Host) (base : Nat) : Prop :=
  ∃ calls, h.landed = h₀.landed ++ calls ∧ (∀ l ∈ calls, l.exchangeCount ≤ base) ∧
    h₀.image.exchangeCount ≤ base ∧ (calls ≠ [] → Warranted h₀ timeout taken)

variable {h₀ h h' : Host} {timeout : Int} {taken : List (Option HostAction)}

theorem Warranted.append (warranted : Warranted h₀ timeout taken) (more : List (Option HostAction)) :
    Warranted h₀ timeout (taken ++ more) :=
  ⟨warranted.idle.append more, warranted.timeLeft.append more⟩

theorem wrote_nothing (same : h.landed = h₀.landed) {base : Nat} (le : h₀.image.exchangeCount ≤ base) :
    Wrote h₀ timeout taken h base :=
  ⟨[], by rw [same, List.append_nil], nofun, le, nofun⟩

theorem Wrote.later {base base' : Nat} (wrote : Wrote h₀ timeout taken h base)
    (same : h'.landed = h.landed) (le : base ≤ base') (more : List (Option HostAction)) :
    Wrote h₀ timeout (taken ++ more) h' base' := by
  obtain ⟨calls, landed, early, least, warranted⟩ := wrote
  exact ⟨calls, same.trans landed, fun l hl => (early l hl).trans le, least.trans le,
    fun some => (warranted some).append more⟩

theorem Wrote.issue {base : Nat} (wrote : Wrote h₀ timeout taken h base)
    (counted : base ≤ h.image.exchangeCount) (warranted : Warranted h₀ timeout taken)
    {c : GripperCommand} (ha : h.step (.setCommand c) = some h') (more : List (Option HostAction)) :
    Wrote h₀ timeout (taken ++ more) h' h'.image.exchangeCount := by
  obtain ⟨calls, landed, early, least, -⟩ := wrote
  cases ha
  refine ⟨calls ++ [⟨c, h.wire.length, h.image.exchangeCount⟩], ?_, fun l hl => ?_, least.trans counted,
    fun _ => warranted.append more⟩
  · simp [landed]
  · rcases List.mem_append.mp hl with hl | hl
    · exact (early l hl).trans counted
    · cases List.mem_singleton.mp hl
      exact Nat.le_refl _

def Evident (h₀ : Host) (timeout : Int) (taken : List (Option HostAction)) (h : Host) :
    ActivationPoint → Prop
  | .called => False
  | .waitingOperational deadline p =>
      deadline = h₀.now + timeout * nsPerMs ∧ h.landed = h₀.landed ∧
        Waits (fun _ => true) h₀.image.exchangeCount h p
  | .allowing deadline =>
      deadline = h₀.now + timeout * nsPerMs ∧ h.landed = h₀.landed ∧
        h₀.image.exchangeCount ≤ h.image.exchangeCount ∧
        SomeStepMeets (withCaller HostAction.aside Host.step (Procedure.activate.program timeout))
          (JudgesIdle h₀) (h₀, .called) taken
  | .handshake _ | .deactivating _ _ | .waitingReset _ _ _ | .restoring _ | .activating _ _ =>
      Warranted h₀ timeout taken ∧ Wrote h₀ timeout taken h h.image.exchangeCount
  | .waitingComplete _ p =>
      ∃ base, Wrote h₀ timeout taken h base ∧ Waits showsComplete base h p
  | .done .activated judged =>
      ∃ base exchange, judged = some exchange ∧ Wrote h₀ timeout taken h base ∧
        Shown showsComplete base h exchange
  | .done .alreadyActive judged =>
      h.landed = h₀.landed ∧ ∃ exchange, judged = some exchange ∧
        Shown showsActive h₀.image.exchangeCount h exchange
  | .done .faultLatched judged =>
      h.landed = h₀.landed ∧ ∃ exchange, judged = some exchange ∧
        Shown showsMajorFault h₀.image.exchangeCount h exchange
  | .done .timeout _ => ∃ base, Wrote h₀ timeout taken h base

theorem Evident.world {point : ActivationPoint} {a : HostAction} (inv : Evident h₀ timeout taken h point)
    (may : a.aside) (hstep : h.step a = some h') :
    Evident h₀ timeout (taken ++ [some a]) h' point := by
  have same := (step_aside may hstep).1
  have grown := step_grows hstep
  have counts := grown.exchangeCount
  cases point with
  | called => exact inv
  | waitingOperational deadline p =>
      obtain ⟨begun, landed, waits⟩ := inv
      exact ⟨begun, same.trans landed, waits.grows grown⟩
  | allowing deadline =>
      obtain ⟨begun, landed, least, idle⟩ := inv
      exact ⟨begun, same.trans landed, least.trans counts, idle.append _⟩
  | handshake deadline | deactivating deadline c | waitingReset deadline c p | restoring c
  | activating deadline c => exact ⟨inv.1.append _, inv.2.later same counts _⟩
  | waitingComplete deadline p =>
      obtain ⟨base, wrote, waits⟩ := inv
      exact ⟨base, wrote.later same (Nat.le_refl _) _, waits.grows grown⟩
  | done result judged =>
      cases result with
      | activated =>
          obtain ⟨base, exchange, found, wrote, shown⟩ := inv
          exact ⟨base, exchange, found, wrote.later same (Nat.le_refl _) _, shown.grows grown⟩
      | alreadyActive | faultLatched =>
          obtain ⟨landed, exchange, found, shown⟩ := inv
          exact ⟨same.trans landed, exchange, found, shown.grows grown⟩
      | timeout =>
          obtain ⟨base, wrote⟩ := inv
          exact ⟨base, wrote.later same (Nat.le_refl _) _⟩

theorem judge_evident {deadline limit : Int} {fresh : StampedExchange}
    (hrun : run (withCaller HostAction.aside Host.step (Procedure.activate.program timeout))
      (h₀, .called) taken = some (h, .waitingOperational deadline (.done limit (some fresh))))
    (begun : deadline = h₀.now + timeout * nsPerMs) (landed : h.landed = h₀.landed)
    (shown : Shown (fun _ => true) h₀.image.exchangeCount h fresh) :
    Evident h₀ timeout (taken ++ [none]) h (judge deadline fresh) := by
  have least := Nat.le_of_lt (Nat.lt_of_lt_of_le shown.newer shown.counted)
  unfold judge
  split
  · rename_i fault
    exact ⟨landed, fresh, rfl, { shown with holds := decide_eq_true fault }⟩
  · rename_i fault
    have noFault : showsMajorFault fresh = false := decide_eq_false fault
    split
    · rename_i complete
      have active : showsActive fresh = true := by simp [showsActive, noFault, showsComplete, complete]
      exact ⟨landed, fresh, rfl, { shown with holds := active }⟩
    · exact ⟨h₀.image.exchangeCount, wrote_nothing landed (Nat.le_refl _), least⟩
    · rename_i complete inProgress
      have idle : showsIdle fresh = true := by
        simp only [showsIdle, noFault, showsComplete, Bool.not_false, Bool.true_and, Bool.and_eq_true,
          Bool.not_eq_true', decide_eq_false_iff_not, decide_eq_true_iff]
        exact ⟨complete, inProgress⟩
      have judges : JudgesIdle h₀ (h, .waitingOperational deadline (.done limit (some fresh))) none :=
        ⟨landed, { shown with holds := idle }⟩
      exact ⟨begun, landed, least, someStepMeets_concat hrun judges⟩

theorem Evident.step {point point' : ActivationPoint} {label : Option HostAction}
    (inv : Evident h₀ timeout taken h point) (coherent : Coherent h)
    (hrun : run (withCaller HostAction.aside Host.step (Procedure.activate.program timeout))
      (h₀, .called) taken = some (h, point))
    (hstep : withCaller HostAction.aside Host.step (Procedure.activate.program timeout) (h, point) label =
      some (h', point')) : Evident h₀ timeout (taken ++ [label]) h' point' := by
  cases withCaller_cases hstep with
  | world may ha => exact inv.world may ha
  | acts goes ha =>
      have counts := (step_grows ha).exchangeCount
      cases Procedure.program_cases goes with
      | deactivate =>
          obtain ⟨warranted, wrote⟩ := inv
          exact ⟨warranted.append _, wrote.issue (Nat.le_refl _) warranted ha _⟩
      | restore =>
          obtain ⟨warranted, wrote⟩ := inv
          exact ⟨_, wrote.issue (Nat.le_refl _) warranted ha _⟩
      | activate =>
          obtain ⟨warranted, wrote⟩ := inv
          exact ⟨h'.image.exchangeCount, wrote.issue (Nat.le_refl _) warranted ha _, Nat.le_refl _⟩
  | looks goes =>
      cases Procedure.program_cases goes with
      | call => exact inv.elim
      | waitOperational waits => exact ⟨inv.1, inv.2.1, inv.2.2.step coherent.recorded waits⟩
      | @operational deadline limit fresh =>
          obtain ⟨begun, landed, waits⟩ := inv
          cases fresh with
          | none => exact ⟨_, wrote_nothing landed (Nat.le_refl _)⟩
          | some fresh => exact judge_evident hrun begun landed (waits fresh rfl)
      | @allow deadline enough =>
          obtain ⟨rfl, landed, least, idle⟩ := inv
          have checks : ChecksTimeLeft h₀ timeout
              (h, .allowing (h₀.now + timeout * nsPerMs)) none :=
            ⟨landed, of_decide_eq_true enough⟩
          exact ⟨⟨idle.append _, someStepMeets_concat hrun checks⟩, wrote_nothing landed least⟩
      | refuse short => exact ⟨_, wrote_nothing inv.2.1 inv.2.2.1⟩
      | getCommand | waitReset waits | giveUp | reset =>
          exact ⟨inv.1.append _, inv.2.later rfl (Nat.le_refl _) _⟩
      | waitComplete waits =>
          obtain ⟨base, wrote, before⟩ := inv
          exact ⟨base, wrote.later rfl (Nat.le_refl _) _, before.step coherent.recorded waits⟩
      | incomplete =>
          obtain ⟨base, wrote, -⟩ := inv
          exact ⟨base, wrote.later rfl (Nat.le_refl _) _⟩
      | complete =>
          obtain ⟨base, wrote, before⟩ := inv
          exact ⟨base, _, rfl, wrote.later rfl (Nat.le_refl _) _, before _ rfl⟩

theorem Evident.run {point : ActivationPoint} {labels : List (Option HostAction)} (coherent : Coherent h₀)
    (hrun : Machine.run (withCaller HostAction.aside Host.step (Procedure.activate.program timeout))
      (h₀, .called) (none :: labels) = some (h, point)) :
    Evident h₀ timeout (none :: labels) h point := by
  refine run_history_of_first (R := fun taken t => Evident h₀ timeout taken t.1 t.2) ?begun ?keeps hrun
  case begun =>
    intro mid hfirst
    cases hfirst
    exact ⟨rfl, rfl, Nat.le_refl _⟩
  case keeps =>
    intro taken t label t' sofar evident hstep
    obtain ⟨actions, hactions⟩ := run_withCaller sofar
    exact evident.step (coherent.run hactions) sofar hstep

theorem Evident.wrote {point : ActivationPoint} (inv : Evident h₀ timeout taken h point) :
    ∃ base, Wrote h₀ timeout taken h base := by
  cases point with
  | called => exact inv.elim
  | waitingOperational deadline p => exact ⟨_, wrote_nothing inv.2.1 (Nat.le_refl _)⟩
  | allowing deadline => exact ⟨_, wrote_nothing inv.2.1 inv.2.2.1⟩
  | handshake deadline | deactivating deadline c | waitingReset deadline c p | restoring c
  | activating deadline c => exact ⟨_, inv.2⟩
  | waitingComplete deadline p =>
      obtain ⟨base, wrote, -⟩ := inv
      exact ⟨base, wrote⟩
  | done result judged =>
      cases result with
      | activated =>
          obtain ⟨base, exchange, -, wrote, -⟩ := inv
          exact ⟨base, wrote⟩
      | alreadyActive | faultLatched => exact ⟨_, wrote_nothing inv.1 (Nat.le_refl _)⟩
      | timeout => exact inv

/-- Whatever `activate` returns rests on an exchange that the image counted after the call, and it writes
a block only after the first one judged showed an idle gripper and half of the timeout, in whole
milliseconds, was left when it checked. -/
theorem activate_judges_fresh {answers : Nat → Except String GripperStatus} {time : Int}
    {s : GripperState}
    (ready : GripperState.constructed.initializeImage answers time = (.ok (), s))
    {labels₀ : List HostAction} {h₀ : Host}
    (hbefore : Machine.run Host.step (.start s time) labels₀ = some h₀)
    {timeout : Int} {labels : List (Option HostAction)} {h : Host} {point : ActivationPoint}
    (hrun : Machine.run (withCaller HostAction.aside Host.step (Procedure.activate.program timeout))
      (h₀, .called) (none :: labels) = some (h, point)) :
    (∀ judged, point = .done .alreadyActive judged → h.landed = h₀.landed ∧
      ∃ exchange, judged = some exchange ∧ Shown showsActive h₀.image.exchangeCount h exchange) ∧
    (∀ judged, point = .done .faultLatched judged → h.landed = h₀.landed ∧
      ∃ exchange, judged = some exchange ∧ Shown showsMajorFault h₀.image.exchangeCount h exchange) ∧
    ∃ calls, h.landed = h₀.landed ++ calls ∧
      (∀ judged, point = .done .activated judged → ∃ exchange, judged = some exchange ∧
        Shown showsComplete h₀.image.exchangeCount h exchange ∧
        ∀ l ∈ calls, l.exchangeCount < exchange.exchangeCount) ∧
      ∀ l ∈ calls, l.command.activates = false → Warranted h₀ timeout (none :: labels) := by
  have evident := Evident.run ((Coherent.start ready).run hbefore) hrun
  refine ⟨?_, ?_, ?_⟩
  · rintro judged rfl
    exact evident
  · rintro judged rfl
    exact evident
  · obtain ⟨base, calls, landed, early, least, warranted⟩ := evident.wrote
    refine ⟨calls, landed, ?_, fun l hl _ => warranted (List.ne_nil_of_mem hl)⟩
    rintro judged rfl
    obtain ⟨base', exchange, found, ⟨calls', landed', early', least', -⟩, shown⟩ := evident
    have same : calls' = calls := List.append_cancel_left (landed'.symm.trans landed)
    exact ⟨exchange, found, { shown with newer := Nat.lt_of_le_of_lt least' shown.newer },
      fun l hl => Nat.lt_of_le_of_lt (early' l (same ▸ hl)) shown.newer⟩

theorem activate_judges_fresh_after_reset :
    let s := (GripperState.constructed.initializeImage (fun _ => .ok .zero) 0).2
    let complete : GripperStatus := { GripperStatus.zero with gripperStatus := ⟨0x31⟩ }
    let cycle : GripperStatus → List (Option HostAction) := fun status =>
      [some .exchangeOnce, some (.answer status)] ++ List.replicate 6 (some .exchangeOnce)
    let labels : List (Option HostAction) := List.flatten [List.replicate 2 none, cycle .zero,
      List.replicate 10 none, cycle .zero, List.replicate 8 none, cycle complete, List.replicate 5 none]
    ∃ h exchange, run (withCaller HostAction.aside Host.step (Procedure.activate.program 1000))
        (.start s 0, .called) (none :: labels) = some (h, .done .activated (some exchange)) ∧
      h.landed.length = 2 ∧ h.recordOf exchange.exchangeCount = some exchange ∧
      Warranted (.start s 0) 1000 (none :: labels) := by
  intro s complete cycle labels
  have ready : GripperState.constructed.initializeImage (fun _ => .ok .zero) 0 = (.ok (), s) := rfl
  have call : (run (withCaller HostAction.aside Host.step (Procedure.activate.program 1000))
      (.start s 0, .called) (none :: labels)).map (fun t => (t.2, t.1.landed.map
        fun l => l.command.activates)) =
      some (.done .activated (some ⟨⟨3, 0⟩, activateCommand s.image.command, complete⟩),
        [false, true]) := by decide +kernel
  obtain ⟨⟨h, point⟩, hrun, same⟩ := Option.map_eq_some_iff.mp call
  obtain ⟨rfl, wrote⟩ := Prod.mk.inj same
  obtain ⟨-, -, calls, landed, activated, warranted⟩ :=
    @activate_judges_fresh _ _ _ ready [] _ rfl _ _ _ _ hrun
  obtain ⟨exchange, found, shown, -⟩ := activated _ rfl
  cases found
  have two : h.landed.length = 2 := by simpa using congrArg List.length wrote
  obtain ⟨first, hfirst, clears⟩ : ∃ l ∈ h.landed, l.command.activates = false := by
    have member : false ∈ h.landed.map fun l => l.command.activates := by simp [wrote]
    exact List.mem_map.mp member
  rw [landed] at hfirst
  exact ⟨h, _, hrun, two, shown.record, warranted first hfirst clears⟩

/-- The stamp of an exchange is older than its count: what `activate` judges may have ended before the call, and
before the block that it answers for was written. And the check of the time left is older than the block it lets
through, and lets one through with four tenths of a millisecond left of one. -/
theorem activate_around_stamps :
    let s := (GripperState.constructed.initializeImage (fun _ => .ok .zero) 0).2
    let complete : GripperStatus := { GripperStatus.zero with gripperStatus := ⟨0x31⟩ }
    let program := fun timeout =>
      withCaller HostAction.aside Host.step (Procedure.activate.program timeout)
    let stamping := fun status : GripperStatus =>
      [HostAction.exchangeOnce, .answer status, .exchangeOnce, .exchangeOnce, .elapse 5]
    let publishing := List.replicate 4 (some HostAction.exchangeOnce)
    let looking : List (Option HostAction) := List.flatten [List.replicate 3 none, publishing, List.replicate 5 none]
    -- already active, on an exchange that was over before the call
    (∃ h₀ h exchange, run Host.step (.start s 0) (stamping complete) = some h₀ ∧
      run (program 1000) (h₀, .called) looking = some (h, .done .alreadyActive (some exchange)) ∧
      exchange.metadata.timestamp < h₀.now) ∧
    -- reset, on an exchange that was over before the call
    (∃ h₀ h point, run Host.step (.start s 0) (stamping .zero) = some h₀ ∧
      run (program 1000) (h₀, .called) (looking ++ List.replicate 3 none) = some (h, point) ∧
      h.landed.map (fun l => l.command.activates) = [false] ∧ h.image.exchangeCount = 1 ∧
      h.image.stamped.metadata.timestamp < h₀.now) ∧
    -- activated, on an exchange that was over before the activate block was written
    (∃ h₁ h point exchange, run (program 1000) (.start s 0, .called) (List.flatten [List.replicate 3 none,
        (stamping .zero).map some, publishing, List.replicate 13 none, (stamping .zero).map some, publishing,
        List.replicate 2 none, (stamping complete).map some]) = some (h₁, point) ∧
      h₁.landed.length = 1 ∧
      run (program 1000) (h₁, point) (List.flatten [List.replicate 3 none, publishing, List.replicate 5 none]) =
        some (h, .done .activated (some exchange)) ∧
      exchange.metadata.timestamp < h₁.now ∧ h.landed.length = 2) ∧
    -- reset, with less than half of the timeout left when the block is written
    (∃ h₁ h deadline previous, run (program 1000) (.start s 0, .called) (List.flatten [List.replicate 3 none,
        (stamping .zero).map some, publishing, List.replicate 7 none, [some (.elapse 600000000)]]) =
          some (h₁, .deactivating deadline previous) ∧
      2 * (deadline - h₁.now) < 1000 * nsPerMs ∧ h₁.landed = [] ∧
      (run (program 1000) (h₁, .deactivating deadline previous) [none]).map (·.1) = some h ∧
      h.landed.map (fun l => l.command.activates) = [false]) ∧
    -- reset, with less than half of an odd timeout left when it is checked
    ∃ h₁ h deadline point, run (program 1) (.start s 0, .called) [none, some (.elapse 600000)] =
        some (h₁, .waitingOperational deadline (.budgeting deadline)) ∧
      deadline = 1 * nsPerMs ∧ 2 * (deadline - h₁.now) < 1 * nsPerMs ∧ h₁.landed = [] ∧
      run (program 1) (h₁, .waitingOperational deadline (.budgeting deadline)) (List.flatten [List.replicate 2 none,
        [some .exchangeOnce, some (.answer .zero)], List.replicate 6 (some .exchangeOnce),
        List.replicate 8 none]) = some (h, point) ∧
      h.now = h₁.now ∧ h.landed.map (fun l => l.command.activates) = [false] := by
  intro s complete program stamping publishing looking
  have active : ((run Host.step (.start s 0) (stamping complete)).bind fun h₀ =>
      (run (program 1000) (h₀, .called) looking).map fun t => (h₀.now, t.2)) =
        some (5, .done .alreadyActive (some ⟨⟨1, 0⟩, s.image.command, complete⟩)) := by decide +kernel
  have idle : ((run Host.step (.start s 0) (stamping .zero)).bind fun h₀ =>
      (run (program 1000) (h₀, .called) (looking ++ List.replicate 3 none)).map fun t =>
        (h₀.now, t.1.landed.map (fun l => l.command.activates), t.1.image.stamped.metadata)) =
        some (5, [false], ⟨1, 0⟩) := by decide +kernel
  have resetting : ((run (program 1000) (.start s 0, .called) (List.flatten [List.replicate 3 none,
      (stamping .zero).map some, publishing, List.replicate 13 none, (stamping .zero).map some, publishing,
      List.replicate 2 none, (stamping complete).map some])).bind fun t =>
        (run (program 1000) t (List.flatten [List.replicate 3 none, publishing, List.replicate 5 none])).map fun t' =>
          (t.1.now, t.1.landed.length, t'.2, t'.1.landed.length)) =
      some (15, 1, .done .activated (some ⟨⟨3, 10⟩, deactivateCommand s.image.command, complete⟩), 2) := by
    decide +kernel
  have passing : ((run (program 1000) (.start s 0, .called) (List.flatten [List.replicate 3 none,
      (stamping .zero).map some, publishing, List.replicate 7 none, [some (.elapse 600000000)]])).bind fun t =>
        (run (program 1000) t [none]).map fun t' => (t.2, t.1.now, t.1.landed,
          t'.1.landed.map fun l => l.command.activates)) =
      some (.deactivating (1000 * nsPerMs) s.image.command, 600000005, [], [false]) := by decide +kernel
  have rounded : ((run (program 1) (.start s 0, .called) [none, some (.elapse 600000)]).bind fun t =>
      (run (program 1) t (List.flatten [List.replicate 2 none, [some .exchangeOnce, some (.answer .zero)],
        List.replicate 6 (some .exchangeOnce), List.replicate 8 none])).map fun t' => (t.2, t.1.now, t.1.landed,
          t'.1.now, t'.1.landed.map fun l => l.command.activates)) =
      some (.waitingOperational nsPerMs (.budgeting nsPerMs), 600000, [], 600000, [false]) := by decide +kernel
  refine ⟨?_, ?_, ?_, ?_, ?_⟩
  · obtain ⟨h₀, hbefore, rest⟩ := Option.bind_eq_some_iff.mp active
    obtain ⟨⟨h, point⟩, hrun, same⟩ := Option.map_eq_some_iff.mp rest
    obtain ⟨now, rfl⟩ := Prod.mk.inj same
    exact ⟨h₀, h, _, hbefore, hrun, by rw [now]; decide⟩
  · obtain ⟨h₀, hbefore, rest⟩ := Option.bind_eq_some_iff.mp idle
    obtain ⟨⟨h, point⟩, hrun, same⟩ := Option.map_eq_some_iff.mp rest
    obtain ⟨now, same⟩ := Prod.mk.inj same
    obtain ⟨wrote, metadata⟩ := Prod.mk.inj same
    exact ⟨h₀, h, point, hbefore, hrun, wrote, congrArg ExchangeMetadata.exchangeCount metadata,
      by rw [metadata, now]; decide⟩
  · obtain ⟨⟨h₁, point⟩, hfirst, rest⟩ := Option.bind_eq_some_iff.mp resetting
    obtain ⟨⟨h, ended⟩, hrun, same⟩ := Option.map_eq_some_iff.mp rest
    obtain ⟨now, same⟩ := Prod.mk.inj same
    obtain ⟨one, same⟩ := Prod.mk.inj same
    obtain ⟨rfl, two⟩ := Prod.mk.inj same
    exact ⟨h₁, h, point, _, hfirst, one, hrun, by rw [now]; decide, two⟩
  · obtain ⟨⟨h₁, point⟩, hfirst, rest⟩ := Option.bind_eq_some_iff.mp passing
    obtain ⟨⟨h, ended⟩, hrun, same⟩ := Option.map_eq_some_iff.mp rest
    obtain ⟨rfl, same⟩ := Prod.mk.inj same
    obtain ⟨now, same⟩ := Prod.mk.inj same
    obtain ⟨untouched, wrote⟩ := Prod.mk.inj same
    exact ⟨h₁, h, _, _, hfirst, by rw [now]; decide, untouched, by rw [hrun]; rfl, wrote⟩
  · obtain ⟨⟨h₁, point⟩, hfirst, rest⟩ := Option.bind_eq_some_iff.mp rounded
    obtain ⟨⟨h, ended⟩, hrun, same⟩ := Option.map_eq_some_iff.mp rest
    obtain ⟨rfl, same⟩ := Prod.mk.inj same
    obtain ⟨now, same⟩ := Prod.mk.inj same
    obtain ⟨untouched, same⟩ := Prod.mk.inj same
    obtain ⟨still, wrote⟩ := Prod.mk.inj same
    exact ⟨h₁, h, _, ended, hfirst, rfl, by rw [now]; decide, untouched, hrun, still.trans now.symm, wrote⟩

end Host
end TactileSensors.Gripper
