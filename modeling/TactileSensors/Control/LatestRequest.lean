import TactileSensors.Control.MoveArguments

/-!
# Whether the latest request is sent

The worker takes the flag down before it calls the gripper. A request that comes during the call raises
it again, but a call that raises does not.
-/

namespace TactileSensors.Control
open Machine

structure SendLog where
  /-- What the last call of `move` that returned carried. -/
  lastMove : Option Command
  /-- A move was requested while ready, and neither has that ended nor an activation come up since. -/
  armed : Bool
  /-- A call or a request raised and left a command that was not sent, and no flag was taken since. -/
  lost : Bool
deriving DecidableEq, Repr

def SendLog.init : SendLog := ⟨none, false, false⟩

def Point.activates : Point → Bool
  | .taken activate _ _ => activate
  | .activating | .activated => true
  | _ => false

/-- What the last call of `move` will have carried when the worker is through with the current one. -/
def Point.underway (lastMove : Option Command) : Point → Option Command
  | .taken false true command | .moving command => some command
  | _ => lastMove

def noteSends (blocking : List Int) (s : State) (a : Action) (s' : State) (log : SendLog) : SendLog :=
  let command' := s'.controller.command
  match a with
  | .requestMove position speed force =>
      { log with
        armed := log.armed || (ready blocking s.controller.status && command'.position.isSome)
        lost := if (s.controller.requestMove position speed force).2 then
          s.point.underway log.lastMove ≠ some command' else log.lost }
  | .requestActivate => { log with armed := false }
  | .snapshot | .statusReturns _ => log
  | .worker | .returns | .raises _ =>
      if s.point.activates then { log with armed := false }
      else match s.point, a with
        | .top, _ => { log with lost := log.lost && !s.controller.pendingMove }
        | .storing .., _ => { log with armed := log.armed && ready blocking s'.controller.status }
        | .moving command, .returns => { log with lastMove := some command }
        | .moving _, .raises _ => { log with lost := log.lastMove ≠ some s.controller.command }
        | _, _ => log

def Controller.Idle (c : Controller) : Prop := c.pendingMove = false ∧ c.pendingActivate = false

instance (c : Controller) : Decidable c.Idle := inferInstanceAs (Decidable (_ ∧ _))

def LatestSent (s : State × SendLog) : Prop :=
  s.1.point = .top → s.1.controller.Idle → s.2.armed → s.2.lastMove = some s.1.controller.command

/-- The worker does not start over on a loss, and a request does not bring one about in front of it. -/
def LosesNothing (blocking : List Int) (s : State × SendLog) : Action → Prop
  | .worker => s.1.point = .sleeping → s.1.controller.Idle → s.2.armed → s.2.lost = false
  | .requestMove position speed force =>
      let left := s.1.controller.requestMove position speed force
      left.2 → s.1.point = .top → s.1.controller.Idle → ready blocking s.1.controller.status →
        left.1.command.position.isSome → s.2.lastMove = some left.1.command
  | _ => True

structure SendInv (blocking : List Int) (s : State × SendLog) : Prop where
  fit : s.2.armed → ready blocking s.1.controller.status ∧ s.1.controller.command.position.isSome
  lost : s.2.armed → s.1.controller.Idle → s.1.point.activates = false →
    (s.2.lost = false ↔ s.1.point.underway s.2.lastMove = some s.1.controller.command)
  latest : LatestSent s

theorem sendInv_init (blocking : List Int) (port : String) : SendInv blocking (.init port, .init) where
  fit := nofun
  lost := nofun
  latest _ _ := nofun

theorem SendInv.disarmed {blocking : List Int} {s : State × SendLog} (off : s.2.armed = false) :
    SendInv blocking s where
  fit armed := absurd (off ▸ armed) Bool.false_ne_true
  lost armed := absurd (off ▸ armed) Bool.false_ne_true
  latest _ _ armed := absurd (off ▸ armed) Bool.false_ne_true

theorem SendInv.frame {blocking : List Int} {c c' : Controller} {point point' : Point} {log : SendLog}
    (h : SendInv blocking (⟨c, point⟩, log)) (command : c'.command = c.command)
    (status : c'.status = c.status) (idle : c'.Idle → c.Idle)
    (activates : point'.activates = false → point.activates = false)
    (underway : point'.underway log.lastMove = point.underway log.lastMove) (away : point' ≠ .top) :
    SendInv blocking (⟨c', point'⟩, log) where
  fit := by rw [status, command]; exact h.fit
  lost armed nothing calm := by
    rw [underway, command]
    exact h.lost armed (idle nothing) (activates calm)
  latest atTop := absurd atTop away

theorem setAll_position_isSome (command : Command) (values : List (Key × ClientValue))
    (isSome : command.position.isSome) : (command.setAll values).1.position.isSome := by
  rcases (setAll_clamped command values).position with same | ⟨p, set, -⟩
  · rw [same]
    exact isSome
  · rw [set]
    rfl

theorem requestMove_flag (c : Controller) (position speed force : ClientValue) :
    let left := c.requestMove position speed force
    left.1.status = c.status ∧ left.1.pendingActivate = c.pendingActivate ∧
      (c.command.position.isSome → left.1.command.position.isSome) ∧
      (left.2 = true → left.1.pendingMove = c.pendingMove) ∧
      (left.2 = false → left.1.command.position.isSome → left.1.pendingMove = true) := by
  have kept := setAll_position_isSome c.command
    [(.position, position), (.speed, speed), (.force, force)]
  rw [Controller.requestMove]
  split
  · rename_i raises
    exact ⟨rfl, rfl, kept, fun _ => rfl, fun returns => by simp at returns⟩
  · split
    · exact ⟨rfl, rfl, kept, fun raises => by simp at raises, fun _ _ => rfl⟩
    · rename_i unset
      exact ⟨rfl, rfl, kept, fun raises => by simp at raises, fun _ isSome => absurd isSome unset⟩

theorem SendInv.requestMove {blocking : List Int} {c : Controller} {point : Point} {log : SendLog}
    (h : SendInv blocking (⟨c, point⟩, log)) (position speed force : ClientValue)
    (keeps : LosesNothing blocking (⟨c, point⟩, log) (.requestMove position speed force)) :
    SendInv blocking (⟨(c.requestMove position speed force).1, point⟩,
      noteSends blocking ⟨c, point⟩ (.requestMove position speed force)
        ⟨(c.requestMove position speed force).1, point⟩ log) := by
  obtain ⟨status, activation, kept, raised, returned⟩ := requestMove_flag c position speed force
  simp only [noteSends, LosesNothing] at keeps ⊢
  generalize c.requestMove position speed force = left at *
  obtain ⟨c', raises⟩ := left
  simp only at *
  have armed' (armed : (log.armed || (ready blocking c.status && c'.command.position.isSome)) = true) :
      ready blocking c.status ∧ c'.command.position.isSome := by
    rcases Bool.or_eq_true_iff.mp armed with before | now
    · exact ⟨(h.fit before).1, kept (h.fit before).2⟩
    · exact Bool.and_eq_true_iff.mp now
  constructor
  case fit =>
    intro armed
    rw [status]
    exact armed' armed
  case lost =>
    intro armed idle calm
    cases raises with
    | true => simp
    | false => exact absurd (returned rfl (armed' armed).2) (Bool.eq_false_iff.mp idle.1)
  case latest =>
    intro atTop idle armed
    cases raises with
    | true =>
        have before : c.Idle := ⟨raised rfl ▸ idle.1, activation ▸ idle.2⟩
        exact keeps rfl atTop before (armed' armed).1 (armed' armed).2
    | false => exact absurd (returned rfl (armed' armed).2) (Bool.eq_false_iff.mp idle.1)

theorem SendInv.take {blocking : List Int} {c : Controller} {log : SendLog}
    (h : SendInv blocking (⟨c, .top⟩, log)) :
    SendInv blocking (⟨{ c with pendingActivate := false, pendingMove := false },
        .taken c.pendingActivate c.pendingMove c.command⟩,
      { log with lost := log.lost && !c.pendingMove }) where
  fit := h.fit
  lost armed _ calm := by
    have noActivation : c.pendingActivate = false := calm
    cases move : c.pendingMove with
    | true => simp [noActivation, Point.underway]
    | false => simpa [noActivation, Point.underway] using h.lost armed ⟨move, noActivation⟩ rfl
  latest atTop := by simp at atTop

theorem SendInv.read {blocking : List Int} {c : Controller} {move : Bool} {command : Command}
    {log : SendLog} (h : SendInv blocking (⟨c, .taken false move command⟩, log))
    (idle : move = false ∨ ready blocking c.status = false) :
    SendInv blocking (⟨c, .reading⟩, log) := by
  rcases idle with rfl | unready
  · exact h.frame rfl rfl id (fun _ => rfl) rfl (by simp)
  · cases armed : log.armed with
    | false => exact .disarmed armed
    | true =>
        have isReady : ready blocking c.status = true := (h.fit armed).1
        rw [unready] at isReady
        cases isReady

theorem SendInv.store {blocking : List Int} {c : Controller} {failure : Option Failure}
    {status : Status} {log : SendLog} (h : SendInv blocking (⟨c, .storing failure status⟩, log)) :
    SendInv blocking (⟨c.storeStatus status, .noting (failure.map Failure.report)⟩,
      { log with armed := log.armed && ready blocking (c.storeStatus status).status }) := by
  cases armed : log.armed with
  | false => exact .disarmed rfl
  | true =>
      obtain ⟨p, set⟩ := Option.isSome_iff_exists.mp (h.fit armed).2
      have same : (c.storeStatus status).command = c.command := by
        simp only at set
        simp [Controller.storeStatus, set]
      constructor
      case fit =>
        intro isReady
        rw [same]
        exact ⟨isReady, (h.fit armed).2⟩
      case lost =>
        intro _ idle _
        rw [same]
        exact h.lost armed idle rfl
      case latest =>
        intro atTop
        simp at atTop

theorem SendInv.wake {blocking : List Int} {c : Controller} {log : SendLog}
    (h : SendInv blocking (⟨c, .sleeping⟩, log)) (kept : c.Idle → log.armed → log.lost = false) :
    SendInv blocking (⟨c, .top⟩, log) where
  fit := h.fit
  lost := h.lost
  latest _ idle armed := (h.lost armed idle rfl).mp (kept idle armed)

theorem SendInv.moveReturns {blocking : List Int} {c : Controller} {command : Command}
    {log : SendLog} (h : SendInv blocking (⟨c, .moving command⟩, log)) :
    SendInv blocking (⟨c, .fetching none⟩, { log with lastMove := some command }) where
  fit := h.fit
  lost := h.lost
  latest atTop := by simp at atTop

theorem SendInv.moveRaises {blocking : List Int} {c : Controller} {command : Command}
    {log : SendLog} (h : SendInv blocking (⟨c, .moving command⟩, log)) (failure : Failure) :
    SendInv blocking (raised ⟨c, .moving command⟩ failure,
      { log with lost := log.lastMove ≠ some c.command }) := by
  have compared : SendInv blocking (⟨c, .reading⟩, { log with lost := log.lastMove ≠ some c.command }) :=
    ⟨h.fit, fun _ _ _ => by simp [Point.underway], fun atTop => by simp at atTop⟩
  rw [Control.raised]
  split <;> exact compared.frame rfl rfl id (fun _ => rfl) rfl (by simp)

theorem SendInv.raised {blocking : List Int} {c : Controller} {point : Point} {log : SendLog}
    (h : SendInv blocking (⟨c, point⟩, log)) (failure : Failure) (calm : point.activates = false)
    (waits : point.underway log.lastMove = log.lastMove) :
    SendInv blocking (Control.raised ⟨c, point⟩ failure, log) := by
  rw [Control.raised]
  split <;> exact h.frame rfl rfl id (fun _ => calm) waits.symm (by simp)

theorem sendInv_step {blocking : List Int} {s s' : State × SendLog} {a : Action}
    (h : SendInv blocking s) (keeps : LosesNothing blocking s a)
    (hstep : observed (step blocking) (noteSends blocking) s a = some s') : SendInv blocking s' := by
  obtain ⟨s, log⟩ := s
  obtain ⟨s', log'⟩ := s'
  obtain ⟨hs, rfl⟩ := observed_pair_eq_some.mp hstep
  cases step_cases hs with
  | requestMove c point position speed force => exact h.requestMove position speed force keeps
  | snapshot => exact h
  | take c => exact h.take
  | read c move command idle => exact h.read idle
  | store c failure status => exact h.store
  | wake c => exact h.wake (keeps rfl)
  | moveReturns c command => exact h.moveReturns
  | moveRaises c command failure => exact h.moveRaises failure
  | readRaises c failure | statusRaises c failure => exact h.raised failure rfl rfl
  | move | note | readReturns | statusReturns | dies =>
      exact h.frame rfl rfl id (fun _ => rfl) rfl (by simp)
  | requestActivate | activate | reset | activateReturns | activateRaises => exact .disarmed rfl

theorem lost_request {blocking : List Int} {s s' : State × SendLog} {a : Action}
    (h : SendInv blocking s) (loses : ¬ LosesNothing blocking s a)
    (hstep : observed (step blocking) (noteSends blocking) s a = some s') : ¬ LatestSent s' := by
  obtain ⟨⟨c, point⟩, log⟩ := s
  obtain ⟨s', log'⟩ := s'
  obtain ⟨hs, rfl⟩ := observed_pair_eq_some.mp hstep
  cases a with
  | worker =>
      simp only [LosesNothing, Classical.not_imp] at loses
      obtain ⟨rfl, idle, armed, lost⟩ := loses
      cases hs
      intro latest
      exact lost ((h.lost armed idle rfl).mpr (latest rfl idle armed))
  | requestMove position speed force =>
      simp only [LosesNothing, Classical.not_imp] at loses
      obtain ⟨raises, rfl, idle, isReady, isSome, unsent⟩ := loses
      obtain ⟨-, activation, -, raised, -⟩ := requestMove_flag c position speed force
      cases hs
      intro latest
      refine unsent (latest rfl ⟨(raised raises).trans idle.1, activation.trans idle.2⟩ ?_)
      simp [noteSends, isReady, isSome]
  | _ => exact absurd trivial loses

/-- In every run, what was asked for last while ready is what was sent last when the worker starts over
with nothing to do, exactly if nothing is lost to a call or a request that raises. -/
theorem latest_request_sent_iff (blocking : List Int) (port : String) (actions : List Action) (s : State)
    (hrun : run (step blocking) (.init port) actions = some s) :
    Throughout (observed (step blocking) (noteSends blocking)) LatestSent (.init port, .init) actions ↔
      StepsMeet (observed (step blocking) (noteSends blocking)) (LosesNothing blocking)
        (.init port, .init) actions := by
  obtain ⟨log, hobserved⟩ := exists_run_observed hrun SendLog.init
  exact throughout_iff_stepsMeet (fun _ inv => inv.latest) (fun _ _ _ => sendInv_step)
    (fun _ _ _ => lost_request) hobserved (sendInv_init blocking port)

/-- The call that carries the request raises, and the worker starts over with the flag down. -/
theorem request_lost_to_raising_move :
    ¬ ∀ actions, Throughout (observed (step []) (noteSends [])) LatestSent (.init "", .init) actions := by
  let actions := firstTurn ++ [.requestMove (.int 50) .absent .absent, .worker, .worker,
    .raises ⟨some "ModbusIOException", "no response"⟩, .worker, .worker]
  let left (s : State × SendLog) :=
    (s.1.point, s.1.controller.pendingMove, s.1.controller.pendingActivate, s.2)
  have ends : (run (observed (step []) (noteSends [])) (.init "", .init) actions).map left =
      some (.top, false, false, ⟨none, true, true⟩) := by decide
  obtain ⟨s, hrun, atTop⟩ := Option.map_eq_some_iff.mp ends
  simp only [left, Prod.mk.injEq] at atTop
  obtain ⟨top, move, activate, log⟩ := atTop
  intro latest
  have sent : s.2.lastMove = some s.1.controller.command :=
    (latest actions).last hrun top ⟨move, activate⟩ (by rw [log])
  rw [log] at sent
  cases sent

/-- A request that comes while another one is sent is sent in the next turn. -/
def twoRequests : List Action :=
  firstTurn ++ [.requestMove (.int 50) .absent .absent, .worker, .worker,
    .requestMove (.int 60) .absent (.int 20), .returns, .statusReturns (statusOf 3 10), .worker, .worker,
    .worker, .worker, .worker, .returns, .statusReturns (statusOf 3 50), .worker, .worker, .worker]

theorem second_request_sent :
    ∃ s, run (observed (step []) (noteSends [])) (.init "", .init) twoRequests =
        some (s, ⟨some ⟨some 60, 128, 20⟩, true, false⟩) ∧
      (Throughout (observed (step []) (noteSends [])) LatestSent (.init "", .init) twoRequests ↔
        StepsMeet (observed (step []) (noteSends [])) (LosesNothing []) (.init "", .init)
          twoRequests) :=
  ⟨_, rfl, latest_request_sent_iff [] "" twoRequests _ rfl⟩

end TactileSensors.Control
