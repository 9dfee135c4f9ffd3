import Mathlib.Data.Rat.Init
import TactileSensors.Machine.Run

/-!
# The gripper behind the web viewer

Handlers of the websocket record what was asked for, each under the lock; one worker talks to the
gripper. Its turns are cut at the lock's sections and at the calls of the gripper library, which return
or raise as they like.
-/

namespace TactileSensors.Control

def defaultSpeed : Int := 128
def defaultForce : Int := 128
def gstaActivated : Int := 3

inductive ClientValue
  | absent
  | bool (b : Bool)
  | int (n : Int)
  | nan
  | infinite (negative : Bool)
  | finite (q : Rat)
  | other
deriving DecidableEq

/-- `_clamp_byte`. The `int` of an infinite number raises. -/
def clampByte : ClientValue → Except Unit (Option Int)
  | .int n => .ok (some (max 0 (min 255 n)))
  | .finite q => .ok (some (max 0 (min 255 (q.num.tdiv q.den))))
  | .infinite _ => .error ()
  | .absent | .bool _ | .nan | .other => .ok none

structure Command where
  position : Option Int
  speed : Int
  force : Int
deriving DecidableEq, Repr

inductive Key
  | position
  | speed
  | force
deriving DecidableEq, Repr

def Command.set (command : Command) : Key → Int → Command
  | .position, value => { command with position := some value }
  | .speed, value => { command with speed := value }
  | .force, value => { command with force := value }

def Command.setAll (command : Command) : List (Key × ClientValue) → Command × Bool
  | [] => (command, false)
  | (key, value) :: rest =>
      match clampByte value with
      | .ok (some byte) => (command.set key byte).setAll rest
      | .ok none => command.setAll rest
      | .error () => (command, true)

structure Status where
  gSTA : Option Int
  gPO : Option Int
  gPR : Option Int
  gCU : Option Int
  gOBJ : Option Int
  gFLT : Option Int
deriving DecidableEq, Repr

def Status.empty : Status := ⟨none, none, none, none, none, none⟩

def asInt : Option Int → Option Int
  | none => none
  | some value => if value < 0 then none else some value

def Status.ofRaw (raw : Status) : Status :=
  ⟨asInt raw.gSTA, asInt raw.gPO, asInt raw.gPR, asInt raw.gCU, asInt raw.gOBJ, asInt raw.gFLT⟩

/-- `_ready`. The faults that block are the library's. -/
def ready (blocking : List Int) (status : Status) : Bool :=
  status.gSTA = some gstaActivated ∧ ∀ fault ∈ status.gFLT, fault ∉ blocking

structure Controller where
  port : String
  pendingMove : Bool
  pendingActivate : Bool
  activating : Bool
  command : Command
  status : Status
  error : Option String
deriving DecidableEq, Repr

def Controller.init (port : String) : Controller where
  port := port
  pendingMove := false
  pendingActivate := false
  activating := false
  command := ⟨none, defaultSpeed, defaultForce⟩
  status := .empty
  error := none

def Controller.requestMove (controller : Controller) (position speed force : ClientValue) :
    Controller × Bool :=
  let set := controller.command.setAll [(.position, position), (.speed, speed), (.force, force)]
  let controller := { controller with command := set.1 }
  if set.2 then (controller, true)
  else if set.1.position.isSome then ({ controller with pendingMove := true }, false)
  else (controller, false)

def Controller.requestActivate (controller : Controller) : Controller :=
  { controller with pendingActivate := true }

structure Snapshot where
  port : String
  activated : Bool
  activating : Bool
  position : Option Int
  requested : Option Int
  current : Option Int
  object : Option Int
  fault : Option Int
  command : Command
  error : Option String
deriving DecidableEq, Repr

def Controller.snapshot (blocking : List Int) (controller : Controller) : Snapshot where
  port := controller.port
  activated := ready blocking controller.status
  activating := controller.activating
  position := controller.status.gPO
  requested := controller.status.gPR
  current := controller.status.gCU
  object := controller.status.gOBJ
  fault := controller.status.gFLT
  command := controller.command
  error := controller.error

def Controller.storeStatus (controller : Controller) (status : Status) : Controller :=
  { controller with
    status := status
    command := match controller.command.position with
      | some _ => controller.command
      | none => { controller.command with position := status.gPO } }

structure Failure where
  type : Option String
  text : String
deriving DecidableEq, Repr

def Failure.isFault (failure : Failure) : Bool := failure.type.isNone

def Failure.report (failure : Failure) : String :=
  match failure.type with
  | none => s!"fault: {failure.text}"
  | some type => s!"{type}: {failure.text}"

/-- Where the worker is: in front of its first section, behind it with what it took, in a call of the
library, in front of another section, or in front of the line that notes the error. -/
inductive Point
  | top
  | taken (activate move : Bool) (command : Command)
  | activating
  | activated
  | moving (command : Command)
  | reading
  | fetching (failure : Option Failure)
  | storing (failure : Option Failure) (status : Status)
  | noting (error : Option String)
  | sleeping
  | dead
deriving DecidableEq, Repr

structure State where
  controller : Controller
  point : Point
deriving DecidableEq, Repr

def State.init (port : String) : State := ⟨.init port, .top⟩

inductive Action
  | requestMove (position speed force : ClientValue)
  | requestActivate
  | snapshot
  /-- The worker goes on from where it is, other than by the end of a call. -/
  | worker
  /-- The call of `activate`, `move` or `readStatus` returns. -/
  | returns
  /-- The call of `status` returns these registers. -/
  | statusReturns (raw : Status)
  | raises (failure : Failure)
deriving DecidableEq

def begin (blocking : List Int) (s : State) (activate move : Bool) (command : Command) : State :=
  if activate then ⟨{ s.controller with activating := true }, .activating⟩
  else if move && ready blocking s.controller.status then { s with point := .moving command }
  else { s with point := .reading }

def workerStep (blocking : List Int) (s : State) : Option State :=
  match s.point with
  | .top =>
      some ⟨{ s.controller with pendingActivate := false, pendingMove := false },
        .taken s.controller.pendingActivate s.controller.pendingMove s.controller.command⟩
  | .taken activate move command => some (begin blocking s activate move command)
  | .activated =>
      some ⟨{ s.controller with command := { s.controller.command with position := none } },
        .fetching none⟩
  | .storing failure status =>
      some ⟨s.controller.storeStatus status, .noting (failure.map Failure.report)⟩
  | .noting error => some ⟨{ s.controller with error := error }, .sleeping⟩
  | .sleeping => some { s with point := .top }
  | .activating | .moving _ | .reading | .fetching _ | .dead => none

/-- An exception in the `try` block goes to one of its handlers, and one in a handler ends the thread. -/
def raised (s : State) (failure : Failure) : State :=
  if failure.isFault then { s with point := .fetching (some failure) }
  else { s with point := .noting (some failure.report) }

def step (blocking : List Int) (s : State) : Action → Option State
  | .requestMove position speed force =>
      some { s with controller := (s.controller.requestMove position speed force).1 }
  | .requestActivate => some { s with controller := s.controller.requestActivate }
  | .snapshot => some s
  | .worker => workerStep blocking s
  | .returns =>
      match s.point with
      | .activating => some ⟨{ s.controller with activating := false }, .activated⟩
      | .moving _ | .reading => some { s with point := .fetching none }
      | _ => none
  | .statusReturns raw =>
      match s.point with
      | .fetching failure => some { s with point := .storing failure (.ofRaw raw) }
      | _ => none
  | .raises failure =>
      match s.point with
      | .activating =>
          some (raised { s with controller := { s.controller with activating := false } } failure)
      | .moving _ | .reading | .fetching none => some (raised s failure)
      | .fetching (some _) => some { s with point := .dead }
      | _ => none

inductive Steps (blocking : List Int) : State → Action → State → Prop
  | requestMove (c : Controller) (point : Point) (position speed force : ClientValue) :
      Steps blocking ⟨c, point⟩ (.requestMove position speed force)
        ⟨(c.requestMove position speed force).1, point⟩
  | requestActivate (c : Controller) (point : Point) :
      Steps blocking ⟨c, point⟩ .requestActivate ⟨c.requestActivate, point⟩
  | snapshot (s : State) : Steps blocking s .snapshot s
  | take (c : Controller) :
      Steps blocking ⟨c, .top⟩ .worker ⟨{ c with pendingActivate := false, pendingMove := false },
        .taken c.pendingActivate c.pendingMove c.command⟩
  | activate (c : Controller) (move : Bool) (command : Command) :
      Steps blocking ⟨c, .taken true move command⟩ .worker ⟨{ c with activating := true }, .activating⟩
  | move (c : Controller) (command : Command) (isReady : ready blocking c.status) :
      Steps blocking ⟨c, .taken false true command⟩ .worker ⟨c, .moving command⟩
  | read (c : Controller) (move : Bool) (command : Command)
      (idle : move = false ∨ ready blocking c.status = false) :
      Steps blocking ⟨c, .taken false move command⟩ .worker ⟨c, .reading⟩
  | reset (c : Controller) :
      Steps blocking ⟨c, .activated⟩ .worker ⟨{ c with command := { c.command with position := none } },
        .fetching none⟩
  | store (c : Controller) (failure : Option Failure) (status : Status) :
      Steps blocking ⟨c, .storing failure status⟩ .worker
        ⟨c.storeStatus status, .noting (failure.map Failure.report)⟩
  | note (c : Controller) (error : Option String) :
      Steps blocking ⟨c, .noting error⟩ .worker ⟨{ c with error := error }, .sleeping⟩
  | wake (c : Controller) : Steps blocking ⟨c, .sleeping⟩ .worker ⟨c, .top⟩
  | activateReturns (c : Controller) :
      Steps blocking ⟨c, .activating⟩ .returns ⟨{ c with activating := false }, .activated⟩
  | moveReturns (c : Controller) (command : Command) :
      Steps blocking ⟨c, .moving command⟩ .returns ⟨c, .fetching none⟩
  | readReturns (c : Controller) : Steps blocking ⟨c, .reading⟩ .returns ⟨c, .fetching none⟩
  | statusReturns (c : Controller) (failure : Option Failure) (raw : Status) :
      Steps blocking ⟨c, .fetching failure⟩ (.statusReturns raw) ⟨c, .storing failure (.ofRaw raw)⟩
  | activateRaises (c : Controller) (failure : Failure) :
      Steps blocking ⟨c, .activating⟩ (.raises failure)
        (raised ⟨{ c with activating := false }, .activating⟩ failure)
  | moveRaises (c : Controller) (command : Command) (failure : Failure) :
      Steps blocking ⟨c, .moving command⟩ (.raises failure) (raised ⟨c, .moving command⟩ failure)
  | readRaises (c : Controller) (failure : Failure) :
      Steps blocking ⟨c, .reading⟩ (.raises failure) (raised ⟨c, .reading⟩ failure)
  | statusRaises (c : Controller) (failure : Failure) :
      Steps blocking ⟨c, .fetching none⟩ (.raises failure) (raised ⟨c, .fetching none⟩ failure)
  | dies (c : Controller) (first failure : Failure) :
      Steps blocking ⟨c, .fetching (some first)⟩ (.raises failure) ⟨c, .dead⟩

theorem begin_cases (blocking : List Int) (c : Controller) (activate move : Bool) (command : Command) :
    Steps blocking ⟨c, .taken activate move command⟩ .worker
      (begin blocking ⟨c, .taken activate move command⟩ activate move command) := by
  cases activate with
  | true => exact .activate c move command
  | false =>
      cases move with
      | false => exact .read c false command (.inl rfl)
      | true =>
          cases isReady : ready blocking c.status with
          | false => simpa [begin, isReady] using Steps.read c true command (.inr isReady)
          | true => simpa [begin, isReady] using Steps.move c command isReady

theorem step_cases {blocking : List Int} {s s' : State} {a : Action}
    (h : step blocking s a = some s') : Steps blocking s a s' := by
  obtain ⟨c, point⟩ := s
  cases a with
  | requestMove position speed force => cases h; exact .requestMove c point position speed force
  | requestActivate => cases h; exact .requestActivate c point
  | snapshot => cases h; exact .snapshot _
  | worker =>
      cases point with
      | top => cases h; exact .take c
      | taken activate move command => cases h; exact begin_cases blocking c activate move command
      | activated => cases h; exact .reset c
      | storing failure status => cases h; exact .store c failure status
      | noting error => cases h; exact .note c error
      | sleeping => cases h; exact .wake c
      | _ => cases h
  | returns =>
      cases point with
      | activating => cases h; exact .activateReturns c
      | moving command => cases h; exact .moveReturns c command
      | reading => cases h; exact .readReturns c
      | _ => cases h
  | statusReturns raw =>
      cases point with
      | fetching failure => cases h; exact .statusReturns c failure raw
      | _ => cases h
  | raises failure =>
      cases point with
      | activating => cases h; exact .activateRaises c failure
      | moving command => cases h; exact .moveRaises c command failure
      | reading => cases h; exact .readRaises c failure
      | fetching first =>
          cases first with
          | none => cases h; exact .statusRaises c failure
          | some first => cases h; exact .dies c first failure
      | _ => cases h

end TactileSensors.Control
