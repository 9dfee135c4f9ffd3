import TactileSensors.Gripper.Wait

/-!
# Setting a command and waiting for the exchange that carries it

The count is read before the command lands, so of the exchanges past that count those already on the
wire carry an older command, and all but the first to complete after the landing carry the new one.
A record the wait passes over is therefore one of the former, whether it was looked at or replaced.
-/

namespace TactileSensors.Gripper
open Machine

inductive SetCommandPoint
  | called
  | counted (before : Nat)
  | waiting (p : WaitPoint)
deriving DecidableEq, Repr

def setCommandAndWaitForExchange (command : GripperCommand) (timeout : Int) :
    SetCommandPoint → Host → Option (SetCommandPoint × Option HostAction)
  | .called, h => some (.counted h.image.exchangeCount, none)
  | .counted before, _ => some (.waiting (.entering before timeout), some (.setCommand command))
  | .waiting p, h =>
      (waitForExchangeAfter (fun exchange => exchange.command = command) h.image h.now p).map
        fun p => (.waiting p, none)

def WaitPoint.deadline? : WaitPoint → Option Int
  | .looping deadline _ | .counting deadline _ _ | .syncing deadline _ _ | .done deadline _ =>
      some deadline
  | _ => none

namespace Host

/-- None of the first `n` exchanges that were not complete when `l` landed had its command. -/
def Unseen (l : Landing) (h : Host) (n : Nat) : Prop :=
  ∀ i e, l.exchangeCount ≤ i → i < n → h.completed[i]? = some e → e.command ≠ l.command

/-- What a wait for the command of `l` has passed over, and how long it goes on. -/
def Watches (l : Landing) (base : Nat) (timeout : Int) (h : Host) : WaitPoint → Prop
  | .budgeting _ | .sampling _ => False
  | .entering afterCount timeout' => afterCount = base ∧ timeout' = timeout
  | .looping _ desired => Unseen l h (desired - 1)
  | .counting deadline desired left =>
      deadline ≤ deadlineAfter h.now left ∧ Unseen l h (desired - 1)
  | .syncing deadline desired limit => deadline ≤ limit ∧ Unseen l h (desired - 1)
  | .done _ (some _) => True
  | .done deadline none =>
      deadline ≤ h.now ∧ ∀ i e t, l.exchangeCount ≤ i → h.completed[i]? = some e →
        h.publishedAt[i]? = some t → t < deadline → e.command ≠ l.command

theorem Grows.completed_of_lt {h h' : Host} (g : Grows h h') {i : Nat}
    (inside : i < h.completed.length) : h'.completed[i]? = h.completed[i]? := by
  obtain ⟨more, same⟩ := g.completed
  rw [← same, List.getElem?_append_left inside]

theorem Unseen.grows {l : Landing} {h h' : Host} {n : Nat} (unseen : Unseen l h n) (grown : Grows h h')
    (counted : Counted h) (hn : n ≤ h.image.exchangeCount) : Unseen l h' n := by
  intro i e hl hi he
  have inside : i < h.completed.length := by
    rw [counted.completed]
    omega
  exact unseen i e hl hi (grown.completed_of_lt inside ▸ he)

theorem Watches.world {l : Landing} {base : Nat} {timeout : Int} {predicate : StampedExchange → Bool}
    {h h' : Host} {a : HostAction} {p : WaitPoint} (watches : Watches l base timeout h p)
    (waits : Waits predicate base h p) (counted : Counted h) (hstep : h.step a = some h') :
    Watches l base timeout h' p := by
  have grown := step_grows hstep
  have now := grown.now
  cases p with
  | budgeting deadline | sampling timeout' | entering afterCount timeout' => exact watches
  | looping deadline desired =>
      have hn : desired - 1 ≤ h.image.exchangeCount := Nat.sub_le_of_le_add waits.2
      exact watches.grows grown counted hn
  | counting deadline desired left =>
      have hn : desired - 1 ≤ h.image.exchangeCount := Nat.sub_le_of_le_add waits.2
      exact ⟨Int.le_trans watches.1 (deadlineAfter_mono now _), watches.2.grows grown counted hn⟩
  | syncing deadline desired limit =>
      have hn : desired - 1 ≤ h.image.exchangeCount := Nat.sub_le_of_le_add waits.2
      exact ⟨watches.1, watches.2.grows grown counted hn⟩
  | done deadline exchange =>
      cases exchange with
      | some exchange => trivial
      | none =>
          refine ⟨Int.le_trans watches.1 now, fun i e t hl he ht early => ?_⟩
          -- what is published from now on is published after the deadline
          rcases step_publishedAt hstep ht with ht | late
          · have inside : i < h.completed.length := by
              have := (List.getElem?_eq_some_iff.mp ht).1
              rw [counted.publishedAt] at this
              rw [counted.completed]
              omega
            exact watches.2 i e t hl (grown.completed_of_lt inside ▸ he) ht early
          · exact absurd (Int.le_trans watches.1 late) (Int.not_le.mpr early)

structure Awaits (h₀ : Host) (l : Landing) (timeout : Int) (h : Host) (p : WaitPoint) : Prop where
  grown : Grows h₀ h
  landed : h.landed = h₀.landed ++ [l]
  after : h₀.image.exchangeCount ≤ l.exchangeCount
  counted : l.exchangeCount ≤ h.completed.length
  early : ∀ i e, i < l.exchangeCount → h.completed[i]? = some e → e.landed ≤ h₀.landed.length
  stays : h.image.closed = false
  waits : Waits (fun exchange => exchange.command = l.command) h₀.image.exchangeCount h p
  watches : Watches l h₀.image.exchangeCount timeout h p
  deadline : ∀ d ∈ p.deadline?, deadlineAfter h₀.now timeout ≤ d ∧ d ≤ h.now + longest * nsPerMs

theorem Awaits.world {h₀ h h' : Host} {l : Landing} {timeout : Int} {a : HostAction} {p : WaitPoint}
    (inv : Awaits h₀ l timeout h p) (coherent : Coherent h) (may : a.asideOpen)
    (hstep : h.step a = some h') : Awaits h₀ l timeout h' p := by
  have grown := step_grows hstep
  obtain ⟨landed, closed⟩ := step_asideOpen may hstep
  constructor
  case grown => exact inv.grown.trans grown
  case landed => rw [landed, inv.landed]
  case after => exact inv.after
  case counted => exact Nat.le_trans inv.counted grown.completed.length_le
  case early =>
      intro i e hi he
      rw [grown.completed_of_lt (Nat.lt_of_lt_of_le hi inv.counted)] at he
      exact inv.early i e hi he
  case stays => rw [closed, inv.stays]
  case waits => exact inv.waits.grows grown
  case watches => exact inv.watches.world inv.waits coherent.counted hstep
  case deadline =>
      intro d hd
      obtain ⟨least, most⟩ := inv.deadline d hd
      exact ⟨least, Int.le_trans most (Int.add_le_add_right grown.now _)⟩

theorem Awaits.command_of_landed {h₀ h : Host} {l : Landing} {timeout : Int} {p : WaitPoint}
    (inv : Awaits h₀ l timeout h p) (coherent : Coherent h) {e : Exchange} (he : e ∈ h.completed)
    (later : h₀.landed.length < e.landed) : e.command = l.command := by
  have hl : h.landed[h₀.landed.length]? = some l := by simp [inv.landed]
  have most := coherent.carried.landed_le he
  rw [inv.landed, List.length_append, List.length_singleton] at most
  exact coherent.carried.command_eq he hl (Nat.le_antisymm most later)

theorem Awaits.command_eq {h₀ h : Host} {l : Landing} {timeout : Int} {p : WaitPoint}
    (inv : Awaits h₀ l timeout h p) (coherent : Coherent h) {i : Nat} {e : Exchange}
    (hi : l.exchangeCount < i) (he : h.completed[i]? = some e) : e.command = l.command := by
  have hl : h.landed[h₀.landed.length]? = some l := by simp [inv.landed]
  exact inv.command_of_landed coherent (List.mem_of_getElem? he)
    (coherent.follows.completed _ _ hl i e hi he)

theorem Awaits.unseen {h₀ h : Host} {l : Landing} {timeout : Int} {p : WaitPoint}
    (inv : Awaits h₀ l timeout h p) (coherent : Coherent h)
    (other : h.image.stamped.command ≠ l.command) : Unseen l h h.image.exchangeCount := by
  intro i e hl hi he
  obtain ⟨n, hn⟩ : ∃ n, h.image.exchangeCount = n + 1 := Nat.exists_eq_add_one.mpr (by omega)
  have current := coherent.recorded.current
  rw [hn] at current hi
  obtain ⟨newest, hnewest, same⟩ := Option.map_eq_some_iff.mp current
  rw [← same] at other
  rcases Nat.lt_or_eq_of_le (Nat.le_of_lt_succ hi) with older | rfl
  · -- then the newest record is past the first, and carries the command
    exact absurd (inv.command_eq coherent (Nat.lt_of_le_of_lt hl older) hnewest) other
  · rw [hnewest] at he
    cases he
    exact other

theorem Awaits.caller {h₀ h : Host} {l : Landing} {timeout : Int} {p p' : WaitPoint}
    (inv : Awaits h₀ l timeout h p) (coherent : Coherent h)
    (hstep : waitForExchangeAfter (fun exchange => exchange.command = l.command) h.image h.now p =
      some p') : Awaits h₀ l timeout h p' := by
  refine { inv with waits := inv.waits.step coherent.recorded hstep, watches := ?watches, deadline := ?deadline }
  case watches =>
      have watches := inv.watches
      cases p with
      | budgeting deadline | sampling timeout' => exact watches.elim
      | entering afterCount timeout' =>
          cases hstep
          obtain ⟨rfl, rfl⟩ := watches
          intro i e hl hi
          exact absurd (Nat.le_trans inv.after hl) (Nat.not_le.mpr hi)
      | looping deadline desired =>
          cases hstep
          have left := remaining_le_longest (inv.deadline deadline rfl).2
          refine ⟨?_, watches⟩
          rw [deadlineAfter, Int.min_eq_left left]
          exact le_add_remaining deadline h.now
      | counting deadline desired left => cases hstep; exact watches
      | syncing deadline desired limit =>
          rcases syncing_cases hstep with ⟨behind, why, rfl⟩ | ⟨reached, holds, rfl⟩ | ⟨reached, fails, rfl⟩
          · have past : limit ≤ h.now := why.resolve_left (by simp [inv.stays])
            refine ⟨Int.le_trans watches.1 past, fun i e t hl he ht early => ?_⟩
            have published := (List.getElem?_eq_some_iff.mp ht).1
            rw [coherent.counted.publishedAt] at published
            exact watches.2 i e hl (by omega) he
          · trivial
          · exact inv.unseen coherent (by simpa using fails)
      | done deadline exchange => cases hstep
  case deadline =>
      have deadline := inv.deadline
      cases p with
      | budgeting deadline | sampling timeout' => exact inv.watches.elim
      | entering afterCount timeout' =>
          cases hstep
          obtain ⟨rfl, rfl⟩ := inv.watches
          intro d hd
          cases hd
          exact ⟨deadlineAfter_mono inv.grown.now _, deadlineAfter_le _ _⟩
      | looping deadline desired | counting deadline desired left => cases hstep; exact deadline
      | syncing deadline desired limit =>
          rcases syncing_cases hstep with ⟨-, -, rfl⟩ | ⟨-, -, rfl⟩ | ⟨-, -, rfl⟩ <;> exact deadline
      | done deadline exchange => cases hstep

def Calls (h₀ : Host) (command : GripperCommand) (timeout : Int) (h : Host) : SetCommandPoint → Prop
  | .called => False
  | .counted before =>
      Grows h₀ h ∧ h.landed = h₀.landed ∧ h.image.closed = false ∧ before = h₀.image.exchangeCount
  | .waiting p => ∃ l, l.command = command ∧ Awaits h₀ l timeout h p

theorem Calls.step {h₀ h h' : Host} {command : GripperCommand} {timeout : Int}
    {p p' : SetCommandPoint} {label : Option HostAction} (inv : Calls h₀ command timeout h p)
    (coherent : Coherent h)
    (hstep : withCaller HostAction.asideOpen Host.step (setCommandAndWaitForExchange command timeout)
      (h, p) label = some (h', p')) : Calls h₀ command timeout h' p' := by
  cases withCaller_cases hstep with
  | world may ha =>
      cases p with
      | called => exact inv.elim
      | counted before =>
          obtain ⟨grown, landed, open_, counted⟩ := inv
          obtain ⟨landed', open'⟩ := step_asideOpen may ha
          exact ⟨grown.trans (step_grows ha), landed'.trans landed, open'.trans open_, counted⟩
      | waiting p =>
          obtain ⟨l, hl, awaits⟩ := inv
          exact ⟨l, hl, awaits.world coherent may ha⟩
  | acts goes ha =>
      cases p with
      | called => cases goes
      | counted before =>
          obtain ⟨grown, landed, open_, rfl⟩ := inv
          cases goes
          cases ha
          refine ⟨⟨command, h.wire.length, h.image.exchangeCount⟩, rfl, ?_⟩
          constructor
          case grown => exact grown.trans (@step_grows h _ (.setCommand command) rfl)
          case landed => simp [landed]
          case after => exact grown.exchangeCount
          case counted => simp [coherent.counted.completed]
          case early =>
              intro i e hi he
              rw [← landed]
              exact coherent.carried.landed_le (List.mem_of_getElem? he)
          case stays => exact open_
          case waits => exact ⟨Nat.le_refl _, grown.exchangeCount⟩
          case watches => exact ⟨rfl, rfl⟩
          case deadline => exact nofun
      | waiting p => simp [setCommandAndWaitForExchange] at goes
  | looks goes =>
      cases p with
      | called => exact inv.elim
      | counted before => cases goes
      | waiting p =>
          obtain ⟨l, rfl, awaits⟩ := inv
          simp only [setCommandAndWaitForExchange, Option.map_eq_some_iff] at goes
          obtain ⟨next, hnext, same⟩ := goes
          cases same
          exact ⟨l, rfl, awaits.caller coherent hnext⟩

theorem Calls.run {h₀ h h' : Host} {command : GripperCommand} {timeout : Int} {p p' : SetCommandPoint}
    {labels : List (Option HostAction)} (inv : Calls h₀ command timeout h p) (coherent : Coherent h)
    (hrun : Machine.run (withCaller HostAction.asideOpen Host.step
      (setCommandAndWaitForExchange command timeout)) (h, p) labels = some (h', p')) :
    Calls h₀ command timeout h' p' :=
  coherent.run_withCaller (fun coherent inv hstep => inv.step coherent hstep) inv hrun

/-- The call begins as it reads the count. An exchange carried the block if its copy was taken with the
block in the image. What the call returns is the record of an exchange that was counted since and has
that command. If it returns empty, no exchange that was counted since and before the deadline carried
the block; nor has any that was counted after the block was set an equal command. -/
theorem setCommandAndWaitForExchange_exact {answers : Nat → Except String GripperStatus} {time : Int}
    {s : GripperState}
    (ready : GripperState.constructed.initializeImage answers time = (.ok (), s))
    {before : List HostAction} {h₀ : Host}
    (hbefore : Machine.run Host.step (.start s time) before = some h₀)
    (living : h₀.image.closed = false)
    {command : GripperCommand} {timeout deadline : Int} {result : Option StampedExchange}
    {labels : List (Option HostAction)} {h : Host}
    (hrun : Machine.run (withCaller HostAction.asideOpen Host.step
      (setCommandAndWaitForExchange command timeout)) (h₀, .called) (none :: labels) =
        some (h, .waiting (.done deadline result))) :
    deadlineAfter h₀.now timeout ≤ deadline ∧
      (∀ exchange, result = some exchange →
        h₀.image.exchangeCount < exchange.exchangeCount ∧ exchange.command = command ∧
          h.recordOf exchange.exchangeCount = some exchange) ∧
      ∃ landing, h.landed = h₀.landed ++ [landing] ∧ landing.command = command ∧
        (result = none → ∀ i e t, h₀.image.exchangeCount ≤ i → h.completed[i]? = some e →
          h.publishedAt[i]? = some t → t < deadline →
            e.landed ≤ h₀.landed.length ∧ (landing.exchangeCount ≤ i → e.command ≠ command)) := by
  have coherent := (Coherent.start ready).run hbefore
  obtain ⟨⟨h₁, p₁⟩, hcalled, hrest⟩ := run_cons_eq_some.mp hrun
  cases hcalled
  have begun : Calls h₀ command timeout h₀ (.counted h₀.image.exchangeCount) :=
    ⟨.refl h₀, rfl, living, rfl⟩
  obtain ⟨landing, rfl, awaits⟩ := begun.run coherent hrest
  obtain ⟨actions, hactions⟩ := run_withCaller hrest
  have coherent' := coherent.run hactions
  refine ⟨(awaits.deadline deadline rfl).1, ?_, landing, awaits.landed, rfl, ?_⟩
  · rintro exchange rfl
    have shown := awaits.waits exchange rfl
    exact ⟨shown.newer, by simpa using shown.holds, shown.record⟩
  · rintro rfl i e t - he ht early
    have other : landing.exchangeCount ≤ i → e.command ≠ landing.command :=
      fun hl => awaits.watches.2 i e t hl he ht early
    refine ⟨?_, other⟩
    rcases Nat.lt_or_ge i landing.exchangeCount with old | new
    · exact awaits.early i e old he
    · by_contra later
      exact other new (awaits.command_of_landed coherent' (List.mem_of_getElem? he) (by omega))

/-- The exchange that carries the block ends in time, and is published too late. -/
theorem setCommandAndWaitForExchange_misses_stamped :
    let fresh : GripperStatus := .zero
    let command : GripperCommand := { GripperCommand.defaults with positionRequest := 42 }
    let s := (GripperState.constructed.initializeImage (fun _ => .ok fresh) 0).2
    let labels : List (Option HostAction) :=
      [none, some .exchangeOnce, some (.answer fresh), some .exchangeOnce, some .exchangeOnce] ++
        List.replicate 3 none ++ [some (.elapse 1000000000), none] ++ List.replicate 3 (some .exchangeOnce)
    ∃ h, Machine.run (withCaller HostAction.asideOpen Host.step
        (setCommandAndWaitForExchange command 1000)) (.start s 0, .called) (none :: labels) =
          some (h, .waiting (.done (1000 * nsPerMs) none)) ∧
      h.landed = [⟨command, 0, 0⟩] ∧ h.completed = [⟨0, 1, command, fresh, 0⟩] ∧
      h.publishedAt = [1000 * nsPerMs] := by
  intro fresh command s labels
  have call : (Machine.run (withCaller HostAction.asideOpen Host.step
      (setCommandAndWaitForExchange command 1000)) (.start s 0, .called) (none :: labels)).map
        (fun r => (r.2, r.1.landed, r.1.completed, r.1.publishedAt)) =
      some (.waiting (.done (1000 * nsPerMs) none), [⟨command, 0, 0⟩], [⟨0, 1, command, fresh, 0⟩],
        [1000 * nsPerMs]) := by decide +kernel
  obtain ⟨⟨h, p⟩, hrun, same⟩ := Option.map_eq_some_iff.mp call
  obtain ⟨rfl, landed, completed, publishedAt⟩ : _ ∧ _ ∧ _ ∧ _ := by simpa using same
  exact ⟨h, hrun, landed, completed, publishedAt⟩

/-- A call beside an exchange that still carries the block before: it passes over that one. -/
theorem setCommandAndWaitForExchange_past_old_block :
    let fresh : GripperStatus := .zero
    let command : GripperCommand := { GripperCommand.defaults with positionRequest := 42 }
    let s := (GripperState.constructed.initializeImage (fun _ => .ok fresh) 0).2
    let rest : List (Option HostAction) := some (.answer fresh) :: List.replicate 6 (some .exchangeOnce)
    let labels : List (Option HostAction) := [none] ++ rest ++ List.replicate 4 none ++
      [some .exchangeOnce] ++ rest ++ List.replicate 3 none
    let exchange : StampedExchange := ⟨⟨2, 0⟩, command, fresh⟩
    ∃ h₀ h, Machine.run Host.step (.start s 0) [.exchangeOnce] = some h₀ ∧
      Machine.run (withCaller HostAction.asideOpen Host.step
        (setCommandAndWaitForExchange command 1000)) (h₀, .called) (none :: labels) =
          some (h, .waiting (.done (1000 * nsPerMs) (some exchange))) ∧
      h₀.image.exchangeCount < exchange.exchangeCount ∧
      h.recordOf exchange.exchangeCount = some exchange := by
  intro fresh command s rest labels exchange
  have ready : GripperState.constructed.initializeImage (fun _ => .ok fresh) 0 = (.ok (), s) := rfl
  obtain ⟨h₀, hbefore, living, hcall⟩ :
      ∃ h₀, Machine.run Host.step (.start s 0) [.exchangeOnce] = some h₀ ∧
        h₀.image.closed = false ∧
        (Machine.run (withCaller HostAction.asideOpen Host.step
          (setCommandAndWaitForExchange command 1000)) (h₀, .called) (none :: labels)).map Prod.snd =
            some (.waiting (.done (1000 * nsPerMs) (some exchange))) :=
    ⟨_, rfl, rfl, by decide +kernel⟩
  obtain ⟨⟨h, p⟩, hrun, rfl⟩ := Option.map_eq_some_iff.mp hcall
  have exact := (setCommandAndWaitForExchange_exact ready hbefore living hrun).2.1 exchange rfl
  exact ⟨h₀, h, hbefore, hrun, exact.1, exact.2.2⟩

end Host
end TactileSensors.Gripper
