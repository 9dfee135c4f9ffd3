import TactileSensors.Gripper.Activation
import Mathlib.Data.List.Chain

/-!
# Activation and motion

Finishing an activation should not start a motion: from the block that clears rACT on, no block that
raises rACT should ask for a motion too. The handshake's own blocks keep to that. The block it puts back
when the reset does not show in time does so only if no block with rACT clear has gone out, and none is
about to.
-/

namespace TactileSensors.Gripper
open Machine

def startsMotion (before after : GripperCommand) : Bool :=
  !before.activates && after.activates && after.goesTo

/-- No block in a row raises rACT with rGTO set. -/
def Quiet (blocks : List GripperCommand) : Prop :=
  blocks.IsChain fun before after => startsMotion before after = false

theorem startsMotion_self (block : GripperCommand) : startsMotion block block = false := by
  cases h : block.activates <;> simp [startsMotion, h]

theorem startsMotion_deactivateCommand (before previousCommand : GripperCommand) :
    startsMotion before (deactivateCommand previousCommand) = false := by
  simp [startsMotion]

theorem startsMotion_activateCommand (before previousCommand : GripperCommand) :
    startsMotion before (activateCommand previousCommand) = false := by
  simp [startsMotion]

theorem quiet_concat {blocks : List GripperCommand} {block : GripperCommand} :
    Quiet (blocks ++ [block]) ↔
      Quiet blocks ∧ ∀ last ∈ blocks.getLast?, startsMotion last block = false := by
  simp [Quiet, List.isChain_append]

def ExchangePoint.pending? : ExchangePoint → Option GripperCommand
  | .onWire c none => some c
  | _ => none

namespace Host

/-- The blocks the wire has carried since the `n`th command landed. -/
def carriedSince (h : Host) (n : Nat) : List GripperCommand :=
  match h.landed[n]? with
  | some l => h.wire.drop l.carried
  | none => []

/-- What is carried, in flight and current makes a quiet sequence, whether or not the copy in flight is
carried. -/
structure StaysQuiet (n : Nat) (h : Host) : Prop where
  issued : ∃ l, h.landed[n]? = some l ∧ l.command.activates = false ∧ l.carried ≤ h.wire.length
  pending : ∀ block ∈ h.point.pending?,
    Quiet (h.carriedSince n ++ [block] ++ [h.image.command])
  current : Quiet (h.carriedSince n ++ [h.image.command])

theorem StaysQuiet.carried {n : Nat} {h : Host} (inv : StaysQuiet n h) : Quiet (h.carriedSince n) :=
  (quiet_concat.mp inv.current).1

theorem StaysQuiet.world {n : Nat} {h h' : Host} {a : HostAction} (inv : StaysQuiet n h) (may : a.aside)
    (hstep : h.step a = some h') : StaysQuiet n h' := by
  obtain ⟨issued, pending, current⟩ := inv
  cases step_cases hstep with
  | setCommand c => exact absurd may Bool.false_ne_true
  | elapse ns | observe | close => exact ⟨issued, pending, current⟩
  | copy at_ =>
      refine ⟨issued, fun block same => ?_, current⟩
      cases same
      exact quiet_concat.mpr ⟨current, by simpa using startsMotion_self h.image.command⟩
  | answer c status at_ =>
      obtain ⟨l, hl, clears, carried⟩ := issued
      have grown : carriedSince { h with
          point := .onWire c (some status)
          wire := h.wire ++ [c] } n = h.carriedSince n ++ [c] := by
        simp only [carriedSince, hl]
        exact List.drop_append_of_le_length carried
      refine ⟨⟨l, hl, clears, Nat.le_trans carried (by simp)⟩, nofun, ?_⟩
      rw [grown]
      exact pending c (by rw [at_]; rfl)
  | reply c status at_ | stamp c status at_ | clear c status time at_ | turn c status time at_
  | publish c status time recovered at_ | finish recovered at_ | count at_
  | degrade failures at_ many was | endure failures at_ many was | tolerate failures at_ few
  | report at_ | fail c answer at_ =>
      exact ⟨issued, nofun, current⟩

theorem staysQuiet_issue {h h' : Host} {c : GripperCommand} (clears : c.activates = false)
    (hstep : h.step (.setCommand c) = some h') : StaysQuiet h.landed.length h' := by
  cases hstep
  have calm : ∀ before, startsMotion before c = false := by simp [startsMotion, clears]
  constructor
  case issued =>
      exact ⟨⟨c, h.wire.length, h.image.exchangeCount⟩, by simp, clears, Nat.le_refl _⟩
  case pending =>
      intro block _
      simp [carriedSince, Quiet, calm]
  case current => simp [carriedSince, Quiet]

theorem setCommand_carriedSince {n : Nat} {h h' : Host} {c : GripperCommand} {l : Landing}
    (hl : h.landed[n]? = some l) (hstep : h.step (.setCommand c) = some h') :
    h'.landed[n]? = some l ∧ h'.carriedSince n = h.carriedSince n ∧ h'.wire = h.wire ∧
      h'.point = h.point ∧ h'.image.command = c := by
  have hl' := getElem?_of_prefix (step_grows hstep).landed hl
  cases hstep
  exact ⟨hl', by simp only [carriedSince, hl, hl'], rfl, rfl, rfl⟩

theorem StaysQuiet.setCommand {n : Nat} {h h' : Host} {c : GripperCommand} (inv : StaysQuiet n h)
    (calm : ∀ block ∈ (h.carriedSince n).getLast?.toList ++ h.point.pending?.toList,
      startsMotion block c = false)
    (hstep : h.step (.setCommand c) = some h') : StaysQuiet n h' := by
  obtain ⟨⟨l, hl, clears, carried⟩, pending, current⟩ := inv
  obtain ⟨hl', same, wire, point, command⟩ := setCommand_carriedSince hl hstep
  refine ⟨⟨l, hl', clears, wire ▸ carried⟩, fun block hblock => ?_, ?_⟩
  · rw [point] at hblock
    rw [same, command, quiet_concat]
    refine ⟨(quiet_concat.mp (pending block hblock)).1, fun last hlast => ?_⟩
    rw [List.getLast?_concat] at hlast
    cases hlast
    exact calm block (by simp [Option.mem_def.mp hblock])
  · rw [same, command, quiet_concat]
    exact ⟨(quiet_concat.mp current).1, fun last hlast => calm last (by simp [Option.mem_def.mp hlast])⟩

end Host

def ActivationPoint.resetting : ActivationPoint → Bool
  | .waitingReset _ _ _ | .restoring _ | .activating _ _ => true
  | _ => false

/-- Putting the previous block back starts no motion: it does not follow a block with rACT clear, on the
wire or in flight, or does not itself set rACT and rGTO. -/
def restorable (n : Nat) : Host × ActivationPoint → Option HostAction → Bool
  | (h, .restoring previousCommand), none =>
      ((h.carriedSince n).getLast?.toList ++ h.point.pending?.toList).all fun block =>
        !startsMotion block previousCommand
  | _, _ => true

theorem restorable_some (n : Nat) (s : Host × ActivationPoint) (a : HostAction) :
    restorable n s (some a) = true := by
  unfold restorable
  split
  · rename_i same
    cases same
  · rfl

namespace Host

/-- No command has landed since the `n`th, or what has is quiet. -/
def KeepsQuiet (n : Nat) (h : Host) (point : ActivationPoint) : Prop :=
  h.landed.length = n ∧ point.resetting = false ∨ StaysQuiet n h

theorem KeepsQuiet.carried {n : Nat} {h : Host} {point : ActivationPoint} (inv : KeepsQuiet n h point) :
    (∀ l, h.landed[n]? = some l → l.command.activates = false) ∧ Quiet (h.carriedSince n) := by
  rcases inv with ⟨rfl, -⟩ | quiet
  · simp [carriedSince, Quiet]
  · obtain ⟨l, hl, clears, -⟩ := quiet.issued
    refine ⟨fun l' hl' => ?_, quiet.carried⟩
    rw [hl] at hl'
    cases hl'
    exact clears

theorem judge_resetting (deadline : Int) (fresh : StampedExchange) :
    (judge deadline fresh).resetting = false := by
  unfold judge
  split
  · rfl
  · split <;> rfl

theorem operational_resetting (procedure : Procedure) (deadline : Int)
    (fresh : Option StampedExchange) : (procedure.operational deadline fresh).resetting = false := by
  cases fresh with
  | none => rfl
  | some fresh =>
      cases procedure with
      | activate => exact judge_resetting deadline fresh
      | recoverFromFault => rfl

theorem KeepsQuiet.step {procedure : Procedure} {timeout : Int} {n : Nat} {h h' : Host}
    {point point' : ActivationPoint} {label : Option HostAction} (inv : KeepsQuiet n h point)
    (meets : restorable n (h, point) label)
    (hstep : withCaller HostAction.aside Host.step (procedure.program timeout) (h, point) label =
      some (h', point')) : KeepsQuiet n h' point' := by
  cases withCaller_cases hstep with
  | world may ha =>
      rcases inv with ⟨none_, before⟩ | quiet
      · exact .inl ⟨(step_aside may ha).1 ▸ none_, before⟩
      · exact .inr (quiet.world may ha)
  | acts goes ha =>
      right
      cases Procedure.program_cases goes with
      | deactivate =>
          rcases inv with ⟨rfl, -⟩ | quiet
          · exact staysQuiet_issue (deactivateCommand_activates _) ha
          · exact quiet.setCommand (fun block _ => startsMotion_deactivateCommand block _) ha
      | restore =>
          rcases inv with ⟨-, before⟩ | quiet
          · cases before
          · have calm := List.all_eq_true.mp meets
            exact quiet.setCommand (fun block hblock => by simpa using calm block hblock) ha
      | activate =>
          rcases inv with ⟨-, before⟩ | quiet
          · cases before
          · exact quiet.setCommand (fun block _ => startsMotion_activateCommand block _) ha
  | looks goes =>
      rcases inv with ⟨none_, before⟩ | quiet
      · left
        cases Procedure.program_cases goes with
        | operational => exact ⟨none_, operational_resetting _ _ _⟩
        | waitReset waits | giveUp | reset => cases before
        | call | waitOperational waits | allow enough | refuse short | getCommand | waitComplete waits
        | incomplete | complete => exact ⟨none_, rfl⟩
      · exact .inr quiet

def stepsToIdle : ExchangePoint → Nat
  | .idle => 0
  | .published _ | .reporting => 1
  | .turned _ _ _ _ | .counted _ => 2
  | .cleared _ _ _ | .thrown => 3
  | .stamped _ _ _ => 4
  | .returned _ _ => 5
  | .onWire _ _ => 6

theorem step_toward_idle {h : Host} (free : h.point.pending? = none) (busy : h.point ≠ .idle) :
    ∃ h', h.step .exchangeOnce = some h' ∧ h'.wire = h.wire ∧ h'.point.pending? = none ∧
      stepsToIdle h'.point < stepsToIdle h.point := by
  obtain ⟨h', hstep⟩ : ∃ h', h.step .exchangeOnce = some h' := by
    rw [← Option.isSome_iff_exists, step, Option.isSome_map, GripperState.exchangeOnce]
    split <;> simp_all [ExchangePoint.pending?]
    split <;> rfl
  refine ⟨h', hstep, ?_⟩
  cases step_cases hstep with
  | copy at_ => exact absurd at_ busy
  | reply c status at_ | stamp c status at_ | clear c status time at_ | turn c status time at_
  | publish c status time recovered at_ | finish recovered at_ | count at_
  | degrade failures at_ many was | endure failures at_ many was | tolerate failures at_ few
  | report at_ =>
      rw [at_]
      exact ⟨rfl, rfl, by simp [stepsToIdle]⟩

theorem reaches_idle (h : Host) (free : h.point.pending? = none) :
    ∃ actions h', (∀ a ∈ actions, HostAction.aside a) ∧ Machine.run Host.step h actions = some h' ∧
      h'.point = .idle ∧ h'.wire = h.wire ∧ h'.landed = h.landed ∧
      h'.image.command = h.image.command := by
  by_cases busy : h.point = .idle
  · exact ⟨[], h, by simp, rfl, busy, rfl, rfl, rfl⟩
  · obtain ⟨mid, hstep, wire, free', less⟩ := step_toward_idle free busy
    obtain ⟨landed, command⟩ := step_aside rfl hstep
    obtain ⟨actions, h', may, hrun, idle, wire', landed', command'⟩ := reaches_idle mid free'
    exact ⟨.exchangeOnce :: actions, h', by simpa [HostAction.aside] using may,
      run_cons_eq_some.mpr ⟨mid, hstep, hrun⟩, idle, wire'.trans wire, landed'.trans landed,
      command'.trans command⟩
termination_by stepsToIdle h.point

theorem reaches_motion {n : Nat} {h : Host} {l : Landing} {last : GripperCommand}
    (hl : h.landed[n]? = some l) (inside : l.carried ≤ h.wire.length)
    (free : h.point.pending? = none) (hlast : last ∈ (h.carriedSince n).getLast?)
    (starts : startsMotion last h.image.command) :
    ∃ actions h', (∀ a ∈ actions, HostAction.aside a) ∧ Machine.run Host.step h actions = some h' ∧
      ¬ Quiet (h'.carriedSince n) := by
  obtain ⟨actions, mid, may, hrun, idle, wire, landed, command⟩ := reaches_idle h free
  have copied : mid.step .exchangeOnce = some { mid with
      point := .onWire mid.image.command none
      handed := mid.handed ++ [⟨mid.landed.length, mid.image.command⟩] } := by
    simp [step, GripperState.exchangeOnce, record, idle]
  refine ⟨actions ++ [.exchangeOnce, .answer .zero], _, ?_,
    run_trans hrun (run_cons_eq_some.mpr ⟨_, copied, rfl⟩), ?_⟩
  · intro a ha
    rcases List.mem_append.mp ha with ha | ha
    · exact may a ha
    · rcases List.mem_pair.mp ha with rfl | rfl <;> rfl
  · intro quiet
    simp only [carriedSince, landed, hl, wire, command] at quiet hlast
    rw [List.drop_append_of_le_length inside] at quiet
    have calm := (quiet_concat.mp quiet).2 last hlast
    rw [starts] at calm
    cases calm

theorem pending?_eq_some {point : ExchangePoint} {c : GripperCommand} :
    point.pending? = some c ↔ point = .onWire c none := by
  constructor
  · intro h
    unfold ExchangePoint.pending? at h
    split at h
    · cases h
      rfl
    · cases h
  · rintro rfl
    rfl

theorem reaches_motion_of_next {n : Nat} {h : Host} {l : Landing} {block : GripperCommand}
    (hl : h.landed[n]? = some l) (inside : l.carried ≤ h.wire.length)
    (hblock : block ∈ (h.carriedSince n).getLast? ∨ block ∈ h.point.pending?)
    (starts : startsMotion block h.image.command) :
    ∃ actions h', (∀ a ∈ actions, HostAction.aside a) ∧ Machine.run Host.step h actions = some h' ∧
      ¬ Quiet (h'.carriedSince n) := by
  cases hpending : h.point.pending? with
  | none =>
      have hlast := hblock.resolve_right (by simp [hpending])
      exact reaches_motion hl inside hpending hlast starts
  | some c =>
      have flying := pending?_eq_some.mp hpending
      rcases hblock with hlast | same
      · -- the copy in flight is lost
        let lost : Host := { h with point := .thrown, outcomes := .failed :: h.outcomes }
        have failed : h.step .fail = some lost := by simp [step, flying, lost]
        obtain ⟨actions, h', may, hrun, broken⟩ :=
          @reaches_motion n lost l block hl inside rfl hlast starts
        exact ⟨.fail :: actions, h', by simpa [HostAction.aside] using may,
          run_cons_eq_some.mpr ⟨lost, failed, hrun⟩, broken⟩
      · -- it is carried
        rw [hpending] at same
        cases same
        let carried : Host := { h with
          point := .onWire block (some .zero)
          wire := h.wire ++ [block] }
        have answered : h.step (.answer .zero) = some carried := by simp [step, flying, carried]
        have inside' : l.carried ≤ carried.wire.length := Nat.le_trans inside (by simp [carried])
        have hlast : block ∈ (carried.carriedSince n).getLast? := by
          simp [carriedSince, carried, hl, List.drop_append_of_le_length inside]
        obtain ⟨actions, h', may, hrun, broken⟩ :=
          @reaches_motion n carried l block hl inside' rfl hlast starts
        exact ⟨.answer .zero :: actions, h', by simpa [HostAction.aside] using may,
          run_cons_eq_some.mpr ⟨carried, answered, hrun⟩, broken⟩

theorem done_step {procedure : Procedure} {timeout : Int} {h h' : Host} {result : ActivationResult}
    {judged : Option StampedExchange} {point : ActivationPoint} {label : Option HostAction}
    (hstep : withCaller HostAction.aside Host.step (procedure.program timeout)
      (h, .done result judged) label = some (h', point)) :
    point = .done result judged ∧ ∃ a, HostAction.aside a ∧ h.step a = some h' := by
  cases withCaller_cases hstep with
  | world may ha => exact ⟨rfl, _, may, ha⟩
  | acts goes ha | looks goes => cases Procedure.program_cases goes

theorem keepsQuiet_or_done_step {procedure : Procedure} {timeout : Int} {n : Nat} {h h' : Host}
    {point point' : ActivationPoint} {label : Option HostAction}
    (inv : KeepsQuiet n h point ∨ ∃ result judged, point = .done result judged)
    (hstep : withCaller HostAction.aside Host.step (procedure.program timeout) (h, point) label =
      some (h', point')) :
    KeepsQuiet n h' point' ∨ ∃ result judged, point' = .done result judged := by
  rcases inv with keeps | ⟨result, judged, rfl⟩
  · by_cases meets : restorable n (h, point) label
    · exact .inl (keeps.step meets hstep)
    · right
      cases withCaller_cases hstep with
      | world may ha => exact absurd (restorable_some _ _ _) meets
      | acts goes ha =>
          cases Procedure.program_cases goes with
          | deactivate | activate => exact absurd rfl meets
          | restore => exact ⟨_, _, rfl⟩
      | looks goes => cases Procedure.program_cases goes <;> exact absurd rfl meets
  · exact .inr ⟨result, judged, (done_step hstep).1⟩

theorem staysQuiet_of_done {procedure : Procedure} {timeout : Int} {n : Nat} {h : Host}
    {result : ActivationResult} {judged : Option StampedExchange} {s : Host × ActivationPoint}
    {labels : List (Option HostAction)} (quiet : StaysQuiet n h)
    (hrun : Machine.run (withCaller HostAction.aside Host.step (procedure.program timeout))
      (h, .done result judged) labels = some s) : StaysQuiet n s.1 := by
  refine (@run_invariant _ _ _ (fun s => StaysQuiet n s.1 ∧ s.2 = .done result judged)
    (fun s label s' inv hstep => ?_) _ _ _ hrun ⟨quiet, rfl⟩).1
  obtain ⟨h, point⟩ := s
  obtain ⟨quiet, rfl⟩ := inv
  obtain ⟨ended, a, may, ha⟩ := done_step hstep
  exact ⟨quiet.world may ha, ended⟩

theorem restorable_iff {procedure : Procedure} {timeout : Int} {h₀ h : Host}
    {previousCommand : GripperCommand} {labels : List (Option HostAction)}
    (hrun : Machine.run (withCaller HostAction.aside Host.step (procedure.program timeout))
      (h₀, .called) labels = some (h, .restoring previousCommand)) :
    restorable h₀.landed.length (h, .restoring previousCommand) none ↔
      ∀ rest s, Machine.run (withCaller HostAction.aside Host.step (procedure.program timeout))
        (h, .restoring previousCommand) (none :: rest) = some s →
          Quiet (s.1.carriedSince h₀.landed.length) := by
  have begun : KeepsQuiet h₀.landed.length h₀ .called := .inl ⟨rfl, rfl⟩
  have inv : StaysQuiet h₀.landed.length h := by
    rcases @run_invariant _ _ _
      (fun s => KeepsQuiet h₀.landed.length s.1 s.2 ∨ ∃ result judged, s.2 = .done result judged)
      (fun s label s' inv hstep => keepsQuiet_or_done_step inv hstep) _ _ _ hrun (.inl begun) with
      (⟨-, before⟩ | quiet) | ⟨result, judged, ended⟩
    · cases before
    · exact quiet
    · cases ended
  obtain ⟨h', hset⟩ : ∃ h', h.step (.setCommand previousCommand) = some h' := ⟨_, rfl⟩
  have restored : withCaller HostAction.aside Host.step (procedure.program timeout)
      (h, .restoring previousCommand) none = some (h', .done .timeout none) := by
    change (h.step (.setCommand previousCommand)).map (·, ActivationPoint.done .timeout none) = _
    rw [hset]
    rfl
  constructor
  · intro meets rest s hrest
    obtain ⟨t, hstep, hrest⟩ := run_cons_eq_some.mp hrest
    rw [restored] at hstep
    cases hstep
    have calm := List.all_eq_true.mp meets
    have quiet := inv.setCommand (fun block hblock => by simpa using calm block hblock) hset
    exact (staysQuiet_of_done quiet hrest).carried
  · intro quiet
    by_contra bad
    obtain ⟨l, hl, -, inside⟩ := inv.issued
    simp only [restorable, List.all_eq_true, not_forall, Bool.not_eq_true', Bool.not_eq_false] at bad
    obtain ⟨block, hblock, starts⟩ := bad
    obtain ⟨hl', same, wire, point, command⟩ := setCommand_carriedSince hl hset
    obtain ⟨actions, s, may, hactions, broken⟩ := reaches_motion_of_next hl' (wire ▸ inside)
      (by simpa [same, point] using hblock) (command ▸ starts)
    exact broken (quiet _ _ (run_cons_eq_some.mpr ⟨_, restored, run_world may hactions⟩))

end Host
end TactileSensors.Gripper
