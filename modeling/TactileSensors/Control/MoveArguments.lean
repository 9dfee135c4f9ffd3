import TactileSensors.Control.Controller
import TactileSensors.Machine.Observe

/-!
# What the gripper is told to move to

A request sets the move flag only with a position set, but an activation that runs at the time takes
the position away again and leaves the flag. The next status usually fills the position in.
-/

namespace TactileSensors.Control
open Machine

def Byte (n : Int) : Prop := 0 ≤ n ∧ n ≤ 255

instance (n : Int) : Decidable (Byte n) := inferInstanceAs (Decidable (_ ∧ _))

structure Command.WellFormed (command : Command) : Prop where
  position : ∃ p ∈ command.position, Byte p
  speed : Byte command.speed
  force : Byte command.force

instance (command : Command) : Decidable command.WellFormed :=
  decidable_of_iff ((∃ p ∈ command.position, Byte p) ∧ Byte command.speed ∧ Byte command.force)
    ⟨fun ⟨h₁, h₂, h₃⟩ => ⟨h₁, h₂, h₃⟩, fun ⟨h₁, h₂, h₃⟩ => ⟨h₁, h₂, h₃⟩⟩

/-! ## The calls, and what may spoil them -/

structure MoveLog where
  calls : List Command
  /-- An activation has reset the position under a pending move, and nothing has set it since. -/
  overtaken : Bool
  /-- The position was filled in from a register above 255. -/
  foreign : Bool
  /-- One of the two was so when the worker took what it is to do. -/
  spoiled : Bool
deriving DecidableEq, Repr

def MoveLog.init : MoveLog := ⟨[], false, false, false⟩

def noteMoves (s : State) (a : Action) (s' : State) (log : MoveLog) : MoveLog :=
  let position := s.controller.command.position
  let position' := s'.controller.command.position
  match a with
  | .requestMove .. =>
      { log with
        overtaken := log.overtaken && position'.isNone
        foreign := log.foreign && position' = position }
  | .worker =>
      match s.point with
      | .top => { log with overtaken := false, spoiled := log.overtaken || log.foreign }
      | .taken .. =>
          match s'.point with
          | .moving command => { log with calls := log.calls ++ [command] }
          | _ => log
      | .activated => { log with overtaken := s.controller.pendingMove, foreign := false }
      | .storing _ status =>
          if position.isNone then
            { log with
              overtaken := log.overtaken && position'.isNone
              foreign := status.gPO.any (255 < ·) }
          else log
      | _ => log
  | _ => log

/-- The worker calls `move` on nothing that was spoiled. -/
def MayMove (blocking : List Int) (s : State × MoveLog) (a : Action) : Prop :=
  a = .worker → ∀ command, s.1.point = .taken false true command →
    ready blocking s.1.controller.status → s.2.spoiled = false

def CallsWellFormed (s : State × MoveLog) : Prop := ∀ command ∈ s.2.calls, command.WellFormed

/-! ## Requests -/

theorem clampByte_byte {value : ClientValue} {byte : Int} (h : clampByte value = .ok (some byte)) :
    Byte byte := by
  have clamped (n : Int) : Byte (max 0 (min 255 n)) := ⟨by omega, by omega⟩
  cases value with
  | int n => cases h; exact clamped n
  | finite q => cases h; exact clamped _
  | _ => cases h

structure Clamped (command command' : Command) : Prop where
  position : command'.position = command.position ∨ ∃ p, command'.position = some p ∧ Byte p
  speed : Byte command.speed → Byte command'.speed
  force : Byte command.force → Byte command'.force

theorem setAll_clamped (command : Command) (values : List (Key × ClientValue)) :
    Clamped command (command.setAll values).1 := by
  induction values generalizing command with
  | nil => exact ⟨.inl rfl, id, id⟩
  | cons entry rest ih =>
      obtain ⟨key, value⟩ := entry
      rw [Command.setAll]
      cases clamp : clampByte value with
      | error => exact ⟨.inl rfl, id, id⟩
      | ok clamped =>
          cases clamped with
          | none => exact ih command
          | some byte =>
              have isByte := clampByte_byte clamp
              have later := ih (command.set key byte)
              cases key with
              | position =>
                  refine ⟨?_, later.speed, later.force⟩
                  rcases later.position with same | set
                  · exact .inr ⟨byte, same, isByte⟩
                  · exact .inr set
              | speed => exact ⟨later.position, fun _ => later.speed isByte, later.force⟩
              | force => exact ⟨later.position, later.speed, fun _ => later.force isByte⟩

theorem requestMove_clamped (c : Controller) (position speed force : ClientValue) :
    Clamped c.command (c.requestMove position speed force).1.command := by
  have set := setAll_clamped c.command [(.position, position), (.speed, speed), (.force, force)]
  rw [Controller.requestMove]
  split
  · exact set
  · split <;> exact set

theorem requestMove_pendingMove (c : Controller) (position speed force : ClientValue)
    (pending : (c.requestMove position speed force).1.pendingMove) :
    c.pendingMove ∨ (c.requestMove position speed force).1.command.position.isSome := by
  rw [Controller.requestMove] at pending ⊢
  split at pending
  · exact .inl pending
  · rename_i calm
    rw [if_neg calm]
    split at pending
    · rename_i isSome
      rw [if_pos isSome]
      exact .inr isSome
    · exact .inl pending

theorem requestMove_keeps_pending (c : Controller) (position speed force : ClientValue)
    (pending : c.pendingMove) : (c.requestMove position speed force).1.pendingMove := by
  rw [Controller.requestMove]
  split
  · exact pending
  · split
    · rfl
    · exact pending

/-! ## The invariant -/

def Held : Point → MoveLog → Prop
  | .taken _ true command, log => command.WellFormed ↔ log.spoiled = false
  | .storing _ status, _ => ∀ p, status.gPO = some p → 0 ≤ p
  | _, _ => True

structure MoveInv (s : State × MoveLog) : Prop where
  speed : Byte s.1.controller.command.speed
  force : Byte s.1.controller.command.force
  position : ∀ p, s.1.controller.command.position = some p → 0 ≤ p ∧ (p ≤ 255 ∨ s.2.foreign)
  foreign : s.2.foreign → ∃ p, s.1.controller.command.position = some p ∧ 255 < p
  pending : s.1.controller.pendingMove →
    s.1.controller.command.position.isSome ∨ s.2.overtaken
  overtaken : s.2.overtaken → s.1.controller.command.position = none ∧ s.1.controller.pendingMove
  held : Held s.1.point s.2
  calls : CallsWellFormed s

theorem moveInv_init (port : String) : MoveInv (.init port, .init) where
  speed := (by decide : Byte defaultSpeed)
  force := (by decide : Byte defaultForce)
  position := nofun
  foreign := nofun
  pending := nofun
  overtaken := nofun
  held := trivial
  calls := nofun

theorem MoveInv.frame {c c' : Controller} {point point' : Point} {log : MoveLog}
    (h : MoveInv (⟨c, point⟩, log)) (command : c'.command = c.command)
    (pending : c'.pendingMove = c.pendingMove)
    (held : Held point log → Held point' log) :
    MoveInv (⟨c', point'⟩, log) where
  speed := by rw [command]; exact h.speed
  force := by rw [command]; exact h.force
  position := by rw [command]; exact h.position
  foreign := by rw [command]; exact h.foreign
  pending := by rw [command, pending]; exact h.pending
  overtaken := by rw [command, pending]; exact h.overtaken
  held := held h.held
  calls := h.calls

theorem MoveInv.requestMove {c : Controller} {point : Point} {log : MoveLog}
    (h : MoveInv (⟨c, point⟩, log)) (position speed force : ClientValue) :
    MoveInv (⟨(c.requestMove position speed force).1, point⟩,
      noteMoves ⟨c, point⟩ (.requestMove position speed force)
        ⟨(c.requestMove position speed force).1, point⟩ log) := by
  have clamped := requestMove_clamped c position speed force
  have flag := requestMove_pendingMove c position speed force
  have keeps := requestMove_keeps_pending c position speed force
  generalize (c.requestMove position speed force).1 = c' at clamped flag keeps ⊢
  constructor
  case speed => exact clamped.speed h.speed
  case force => exact clamped.force h.force
  case position =>
    intro p hp
    rcases clamped.position with same | ⟨byte, set, isByte⟩
    · have before := h.position p (same.symm.trans hp)
      simpa [noteMoves, same] using before
    · obtain rfl : byte = p := Option.some.inj (set.symm.trans hp)
      exact ⟨isByte.1, .inl isByte.2⟩
  case foreign =>
    intro foreign
    obtain ⟨was, same⟩ : log.foreign = true ∧ c'.command.position = c.command.position := by
      simpa [noteMoves] using foreign
    rw [same]
    exact h.foreign was
  case pending =>
    intro pending
    cases position' : c'.command.position with
    | some p => exact .inl rfl
    | none =>
        have overtaken : log.overtaken = true := by
          rcases flag pending with before | set
          · refine (h.pending before).resolve_left fun isSome => ?_
            obtain ⟨p, hp⟩ := Option.isSome_iff_exists.mp isSome
            rcases clamped.position with same | ⟨byte, set, -⟩
            · rw [position', hp] at same
              cases same
            · rw [position'] at set
              cases set
          · rw [position'] at set
            cases set
        exact .inr (by simp [noteMoves, overtaken, position'])
  case overtaken =>
    intro overtaken
    obtain ⟨was, none⟩ : log.overtaken = true ∧ c'.command.position = none := by
      simpa [noteMoves] using overtaken
    exact ⟨none, keeps (h.overtaken was).2⟩
  case held =>
    have held := h.held
    cases point with
    | taken activate move command => cases move <;> exact held
    | _ => exact held
  case calls => exact h.calls

theorem MoveInv.fit {c : Controller} {point : Point} {log : MoveLog} (h : MoveInv (⟨c, point⟩, log))
    (pending : c.pendingMove = true) :
    c.command.WellFormed ↔ (log.overtaken || log.foreign) = false := by
  rw [Bool.or_eq_false_iff]
  constructor
  · rintro ⟨⟨p, set, byte⟩, -, -⟩
    refine ⟨Bool.eq_false_iff.mpr fun overtaken => ?_, Bool.eq_false_iff.mpr fun foreign => ?_⟩
    · rw [(h.overtaken overtaken).1] at set
      cases set
    · obtain ⟨q, other, above⟩ := h.foreign foreign
      obtain rfl : p = q := Option.some.inj (set.symm.trans other)
      exact Int.not_lt.mpr byte.2 above
  · rintro ⟨inTime, own⟩
    have isSome := (h.pending pending).resolve_right (by simp [inTime])
    obtain ⟨p, set⟩ := Option.isSome_iff_exists.mp isSome
    obtain ⟨low, high⟩ := h.position p set
    exact ⟨⟨p, set, low, high.resolve_right (by simp [own])⟩, h.speed, h.force⟩

theorem MoveInv.take {c : Controller} {log : MoveLog} (h : MoveInv (⟨c, .top⟩, log)) :
    MoveInv (⟨{ c with pendingActivate := false, pendingMove := false },
        .taken c.pendingActivate c.pendingMove c.command⟩,
      { log with overtaken := false, spoiled := log.overtaken || log.foreign }) where
  speed := h.speed
  force := h.force
  position := h.position
  foreign := h.foreign
  pending := nofun
  overtaken := nofun
  held := by
    cases pending : c.pendingMove with
    | false => trivial
    | true => exact h.fit pending
  calls := h.calls

theorem MoveInv.move {c : Controller} {command : Command} {log : MoveLog}
    (h : MoveInv (⟨c, .taken false true command⟩, log)) (fit : log.spoiled = false) :
    MoveInv (⟨c, .moving command⟩, { log with calls := log.calls ++ [command] }) where
  speed := h.speed
  force := h.force
  position := h.position
  foreign := h.foreign
  pending := h.pending
  overtaken := h.overtaken
  held := trivial
  calls := by
    intro call hcall
    rcases List.mem_append.mp hcall with before | now
    · exact h.calls call before
    · rw [List.mem_singleton.mp now]
      exact h.held.mpr fit

theorem MoveInv.reset {c : Controller} {log : MoveLog} (h : MoveInv (⟨c, .activated⟩, log)) :
    MoveInv (⟨{ c with command := { c.command with position := none } }, .fetching none⟩,
      { log with overtaken := c.pendingMove, foreign := false }) where
  speed := h.speed
  force := h.force
  position := nofun
  foreign := nofun
  pending := .inr
  overtaken overtaken := ⟨rfl, overtaken⟩
  held := trivial
  calls := h.calls

theorem MoveInv.store {c : Controller} {failure : Option Failure} {status : Status} {log : MoveLog}
    (h : MoveInv (⟨c, .storing failure status⟩, log)) :
    MoveInv (⟨c.storeStatus status, .noting (failure.map Failure.report)⟩,
      noteMoves ⟨c, .storing failure status⟩ .worker
        ⟨c.storeStatus status, .noting (failure.map Failure.report)⟩ log) := by
  cases position : c.command.position with
  | some p =>
      have same : (c.storeStatus status).command = c.command := by
        simp [Controller.storeStatus, position]
      have log' : noteMoves ⟨c, .storing failure status⟩ .worker
          ⟨c.storeStatus status, .noting (failure.map Failure.report)⟩ log = log := by
        simp [noteMoves, position]
      rw [log']
      exact h.frame same rfl fun _ => trivial
  | none =>
      have filled : (c.storeStatus status).command = { c.command with position := status.gPO } := by
        simp [Controller.storeStatus, position]
      have log' : noteMoves ⟨c, .storing failure status⟩ .worker
          ⟨c.storeStatus status, .noting (failure.map Failure.report)⟩ log =
          { log with
            overtaken := log.overtaken && status.gPO.isNone
            foreign := status.gPO.any (255 < ·) } := by
        simp [noteMoves, position, filled]
      rw [log']
      have register := h.held
      constructor
      case speed => rw [filled]; exact h.speed
      case force => rw [filled]; exact h.force
      case position =>
        intro p hp
        rw [filled] at hp
        have set : status.gPO = some p := hp
        refine ⟨register p set, ?_⟩
        simp only [set, Option.any_some, decide_eq_true_eq]
        omega
      case foreign =>
        intro foreign
        obtain ⟨p, set, above⟩ := (Option.any_eq_true _ _).mp foreign
        exact ⟨p, by rw [filled]; exact set, of_decide_eq_true above⟩
      case pending =>
        intro pending
        rw [filled]
        have overtaken := (h.pending pending).resolve_left (by simp [position])
        cases set : status.gPO with
        | some p => exact .inl rfl
        | none => exact .inr (by simpa [set] using overtaken)
      case overtaken =>
        intro overtaken
        obtain ⟨was, none⟩ := Bool.and_eq_true_iff.mp overtaken
        rw [filled]
        exact ⟨Option.isNone_iff_eq_none.mp none, (h.overtaken was).2⟩
      case held => trivial
      case calls => exact h.calls

theorem asInt_nonneg {register : Option Int} {value : Int} (h : asInt register = some value) :
    0 ≤ value := by
  cases register with
  | none => cases h
  | some n =>
      rw [asInt] at h
      split at h
      · cases h
      · cases h
        omega

theorem MoveInv.statusReturns {c : Controller} {failure : Option Failure} {log : MoveLog}
    (h : MoveInv (⟨c, .fetching failure⟩, log)) (raw : Status) :
    MoveInv (⟨c, .storing failure (.ofRaw raw)⟩, log) where
  speed := h.speed
  force := h.force
  position := h.position
  foreign := h.foreign
  pending := h.pending
  overtaken := h.overtaken
  held _ := asInt_nonneg
  calls := h.calls

theorem raised_point (s : State) (failure : Failure) :
    (raised s failure).controller = s.controller ∧
      ((raised s failure).point = .fetching (some failure) ∨
        (raised s failure).point = .noting (some failure.report)) := by
  rw [raised]
  split
  · exact ⟨rfl, .inl rfl⟩
  · exact ⟨rfl, .inr rfl⟩

theorem MoveInv.raised {s : State} {log : MoveLog} (h : MoveInv (s, log)) (failure : Failure) :
    MoveInv (Control.raised s failure, log) := by
  obtain ⟨same, point⟩ := raised_point s failure
  obtain ⟨c, before⟩ := s
  generalize Control.raised ⟨c, before⟩ failure = after at same point
  obtain ⟨c', point'⟩ := after
  obtain rfl : c' = c := same
  refine h.frame rfl rfl fun _ => ?_
  obtain rfl | rfl : point' = _ ∨ point' = _ := point <;> trivial

theorem moveInv_step {blocking : List Int} {s s' : State × MoveLog} {a : Action} (h : MoveInv s)
    (may : MayMove blocking s a) (hstep : observed (step blocking) noteMoves s a = some s') :
    MoveInv s' := by
  obtain ⟨s, log⟩ := s
  obtain ⟨s', log'⟩ := s'
  obtain ⟨hs, rfl⟩ := observed_pair_eq_some.mp hstep
  cases step_cases hs with
  | requestMove c point position speed force => exact h.requestMove position speed force
  | requestActivate | snapshot => exact h.frame rfl rfl id
  | take c => exact h.take
  | move c command isReady => exact h.move (may rfl command rfl isReady)
  | reset c => exact h.reset
  | store c failure status => exact h.store
  | statusReturns c failure raw => exact h.statusReturns raw
  | activate | read | note | wake | activateReturns | moveReturns | readReturns | dies =>
      exact h.frame rfl rfl fun _ => trivial
  | activateRaises c failure =>
      have h' : MoveInv (⟨{ c with activating := false }, .activating⟩, log) := h.frame rfl rfl id
      exact h'.raised failure
  | moveRaises c command failure | readRaises c failure | statusRaises c failure =>
      exact h.raised failure

theorem step_move {blocking : List Int} {c : Controller} {command : Command}
    (isReady : ready blocking c.status) :
    step blocking ⟨c, .taken false true command⟩ .worker = some ⟨c, .moving command⟩ := by
  simp [step, workerStep, begin, isReady]

theorem spoiled_call {blocking : List Int} {s s' : State × MoveLog} {a : Action} (h : MoveInv s)
    (mayNot : ¬ MayMove blocking s a) (hstep : observed (step blocking) noteMoves s a = some s') :
    ¬ CallsWellFormed s' := by
  obtain ⟨⟨c, point⟩, log⟩ := s
  obtain ⟨s', log'⟩ := s'
  simp only [MayMove, Classical.not_imp, not_forall] at mayNot
  obtain ⟨rfl, command, rfl, isReady, spoiled⟩ := mayNot
  obtain ⟨hs, rfl⟩ := observed_pair_eq_some.mp hstep
  rw [step_move isReady] at hs
  cases hs
  intro wellFormed
  exact spoiled (h.held.mp (wellFormed command (List.mem_append_right log.calls (.head _))))

/-- In every run, every move that is sent is one of three bytes exactly if the worker never sends what
was spoiled. -/
theorem moves_well_formed_iff (blocking : List Int) (port : String) (actions : List Action) (s : State)
    (hrun : run (step blocking) (.init port) actions = some s) :
    Throughout (observed (step blocking) noteMoves) CallsWellFormed (.init port, .init) actions ↔
      StepsMeet (observed (step blocking) noteMoves) (MayMove blocking) (.init port, .init) actions := by
  obtain ⟨log, hobserved⟩ := exists_run_observed hrun MoveLog.init
  exact throughout_iff_stepsMeet (fun _ inv => inv.calls) (fun _ _ _ => moveInv_step)
    (fun _ _ _ => spoiled_call) hobserved (moveInv_init port)

def statusOf (gSTA gPO : Int) : Status := ⟨some gSTA, some gPO, some 0, some 0, some 3, some 0⟩

def firstTurn : List Action :=
  [.worker, .worker, .returns, .statusReturns (statusOf 3 10), .worker, .worker, .worker]

def overtakingActivation : List Action :=
  [.requestActivate, .worker, .worker, .requestMove (.int 50) .absent .absent, .returns, .worker]

/-- The status after the activation cannot be read, and the old one still says that it is activated:
the call is `move(None, 128, 128)`. -/
theorem move_to_none :
    ¬ ∀ actions, Throughout (observed (step []) noteMoves) CallsWellFormed (.init "", .init)
      actions := by
  let actions := firstTurn ++ overtakingActivation ++
    [.raises ⟨some "ConnectionException", "no response"⟩, .worker, .worker, .worker, .worker]
  have calls : (run (observed (step []) noteMoves) (.init "", .init) actions).map (·.2.calls) =
      some [⟨none, 128, 128⟩] := by decide
  obtain ⟨s, hrun, called⟩ := Option.map_eq_some_iff.mp calls
  intro wellFormed
  have after : CallsWellFormed s := (wellFormed actions).last hrun
  exact absurd (after ⟨none, 128, 128⟩ (called ▸ .head _)) (by decide)

theorem move_filled_in_well_formed :
    ∃ s log, run (observed (step []) noteMoves) (.init "", .init) (firstTurn ++ overtakingActivation ++
        [.statusReturns (statusOf 3 0), .worker, .worker, .worker, .worker, .worker]) = some (s, log) ∧
      log.calls = [⟨some 0, 128, 128⟩] ∧
      (Throughout (observed (step []) noteMoves) CallsWellFormed (.init "", .init)
          (firstTurn ++ overtakingActivation ++
            [.statusReturns (statusOf 3 0), .worker, .worker, .worker, .worker, .worker]) ↔
        StepsMeet (observed (step []) noteMoves) (MayMove []) (.init "", .init)
          (firstTurn ++ overtakingActivation ++
            [.statusReturns (statusOf 3 0), .worker, .worker, .worker, .worker, .worker])) :=
  ⟨_, _, rfl, rfl, moves_well_formed_iff [] "" _ _ rfl⟩

end TactileSensors.Control
