import Mathlib.Data.Finset.Basic
import Mathlib.Data.List.AList
import TactileSensors.Control.MoveMessages
import TactileSensors.Viewer.Broadcast
import TactileSensors.Viewer.Buffer
import TactileSensors.Viewer.Wrench

/-!
# The clients of the viewer

The handlers of the websocket, one for each client, and the loop that sends the frames share one event loop, so
what they do between two awaits is one step. The readers of the sensors and the gripper's worker are threads,
whose sections under a lock fall in between.
-/

namespace TactileSensors.Viewer
open Usb Quickstart Control

/-- A tab that a client names, up to what a dictionary tells apart. -/
inductive Tab
  | text (name : String)
  -- a number or a truth value, written in one way for all that are equal
  | number (value : String)
  | null
  -- a list or an object
  | container (json : String)
deriving DecidableEq

def defaultTab : Tab := .text "overview"

namespace Tab

def hashable : Tab → Bool
  | .container _ => false
  | _ => true

def isText : Tab → Bool
  | .text _ => true
  | _ => false

def isNumber : Tab → Bool
  | .number _ => true
  | _ => false

/-- `sorted` cannot compare a text with a number, nor either with `None`. -/
def sortable (tabs : List Tab) : Bool := tabs.all isText || tabs.all isNumber || tabs.all (· = .null)

end Tab

inductive Floated
  -- a `TypeError` or a `ValueError`
  | invalid
  -- an `OverflowError`, of an integer beyond the floats
  | overflow
  | nan
  | infinite (negative : Bool)
  | finite (q : ℚ)
deriving DecidableEq

def Floated.rate : Floated → Option Rate
  | .finite q => if positive : 0 < q then some ⟨min q maxBroadcastHz, clamped_valid positive⟩ else none
  | .infinite false => some ⟨maxBroadcastHz, by rw [maxBroadcastHz]; norm_num⟩
  | .infinite true | .invalid | .overflow | .nan => none

theorem setRate_eq (rate : Rate) (hz : ℚ) : setRate rate hz = (Floated.finite hz).rate.getD rate := by
  rw [setRate, Floated.rate]
  split <;> rfl

inductive ClientMessage
  -- what `json.loads` or `msg.get` raises at
  | unreadable
  | tabChange (tab : Option Tab)
  | setRate (hz : Floated)
  | resetBaseline
  | zeroWrench
  | gripperMove (message : MoveMessage)
  | gripperActivate
  | setRawMode (raw : Bool)
  | setAdaptiveRange (adaptive : Bool)
  | other
deriving DecidableEq

inductive Handler
  | absent
  | serving
  -- in the grace period
  | leaving (wakes : ℚ)
  | done
deriving DecidableEq

structure Frame (Client : Type) where
  client : Client
  tab : Tab
  -- the static part, of the tab that has one
  shown : Option StaticSnapshot
  sentAt : ℚ

structure WebViewer (τ Client : Type) where
  now : ℚ
  buffer : SensorDataBuffer τ
  wrench : WrenchBuffer
  gripper : Option Controller
  clients : Finset Client
  hadClient : Bool
  clientTabs : AList fun _ : Client => Tab
  clientRates : AList fun _ : Client => Rate
  handler : Client → Handler
  busy : Finset Client
  nextDue : AList fun _ : Client => ℚ
  lastDiag : ℚ
  -- when the loop's sleep is over
  nextTick : ℚ
  frames : List (Frame Client)
  exited : Bool

namespace WebViewer
variable {τ Client : Type} [DecidableEq Client]

def create (buffer : SensorDataBuffer τ) (gripper : Option Controller) : WebViewer τ Client where
  now := 0
  buffer := buffer
  wrench := .init
  gripper := gripper
  clients := ∅
  hadClient := false
  clientTabs := ∅
  clientRates := ∅
  handler _ := .absent
  busy := ∅
  nextDue := ∅
  lastDiag := 0
  nextTick := 0
  frames := []
  exited := false

variable (s : WebViewer τ Client)

def connect (client : Client) : WebViewer τ Client :=
  { s with
    clients := insert client s.clients
    clientTabs := s.clientTabs.insert client defaultTab
    clientRates := s.clientRates.insert client broadcastHz
    hadClient := true
    handler := Function.update s.handler client .serving }

def receive (client : Client) : ClientMessage → WebViewer τ Client × Bool
  | .unreadable | .tabChange none | .setRate .overflow => (s, true)
  | .tabChange (some tab) => ({ s with clientTabs := s.clientTabs.insert client tab }, false)
  | .setRate hz =>
      match hz.rate with
      | some rate => ({ s with clientRates := s.clientRates.insert client rate }, false)
      | none => (s, false)
  | .resetBaseline => ({ s with buffer := s.buffer.resetBaseline }, false)
  | .zeroWrench => ({ s with wrench := s.wrench.zeroWrench }, false)
  | .gripperMove message =>
      match s.gripper with
      | some gripper =>
          let received := gripper.receive message
          ({ s with gripper := some received.1 }, received.2)
      | none => (s, false)
  | .gripperActivate => ({ s with gripper := s.gripper.map Controller.requestActivate }, false)
  | .setRawMode raw => ({ s with buffer := s.buffer.setRawMode raw }, false)
  | .setAdaptiveRange adaptive => ({ s with buffer := s.buffer.setAdaptiveRange adaptive }, false)
  | .other => (s, false)

def leave (client : Client) : WebViewer τ Client :=
  let s := { s with
    clients := s.clients.erase client
    clientTabs := s.clientTabs.erase client
    clientRates := s.clientRates.erase client }
  { s with
    handler := Function.update s.handler client
      (if s.hadClient ∧ s.clients = ∅ then .leaving (s.now + 2) else .done) }

def interval : ℚ := 1 / ((s.clientRates.entries.map fun entry => entry.2.val).max?.getD broadcastHz.val)

def diagnose : WebViewer τ Client × Bool :=
  if 5 ≤ s.now - s.lastDiag then
    let tabs := s.clientTabs.entries.map (·.2)
    ({ s with lastDiag := s.now }, !(tabs.all (·.hashable) && Tab.sortable tabs))
  else (s, false)

def tabMessage (tab : Tab) : Option (Option StaticSnapshot × WebViewer τ Client) :=
  if tab = .text "overview" then
    s.buffer.staticSnapshot.map fun shown => (some shown.1, { s with buffer := shown.2 })
  else some (none, s)

def isDue (interval : ℚ) (client : Client) : Prop :=
  client ∉ s.busy ∧ (s.nextDue.lookup client).getD 0 - interval / 2 ≤ s.now

instance (interval : ℚ) (client : Client) : Decidable (s.isDue interval client) :=
  inferInstanceAs (Decidable (_ ∧ _))

def rateOf (client : Client) : Rate := (s.clientRates.lookup client).getD broadcastHz
def tabOf (client : Client) : Tab := (s.clientTabs.lookup client).getD defaultTab

def owe (client : Client) : WebViewer τ Client :=
  { s with nextDue := s.nextDue.insert client (s.now + 1 / (s.rateOf client).val) }

def send (client : Client) (tab : Tab) (shown : Option StaticSnapshot) : WebViewer τ Client :=
  { s with busy := insert client s.busy, frames := s.frames ++ [⟨client, tab, shown, s.now⟩] }

def visit (interval : ℚ) (s : WebViewer τ Client) (payloads : AList fun _ : Tab => Option StaticSnapshot) :
    List Client → WebViewer τ Client × Bool
  | [] => (s, false)
  | client :: rest =>
      if s.isDue interval client then
        let tab := s.tabOf client
        let s := s.owe client
        if tab.hashable then
          match payloads.lookup tab with
          | some shown => visit interval (s.send client tab shown) payloads rest
          | none =>
              match s.tabMessage tab with
              | some (shown, s) => visit interval (s.send client tab shown) (payloads.insert tab shown) rest
              | none => (s, true)
        else (s, true)
      else visit interval s payloads rest

def forget : WebViewer τ Client :=
  { s with nextDue :=
      (s.nextDue.keys.filter (· ∉ s.clients)).foldl (fun nextDue client => nextDue.erase client) s.nextDue }

def attempt (order : List Client) : WebViewer τ Client :=
  let diagnosed := s.diagnose
  if diagnosed.2 then diagnosed.1
  else
    let visited := visit s.interval diagnosed.1 ∅ order
    if visited.2 then visited.1 else visited.1.forget

def tick (order : List Client) : WebViewer τ Client :=
  { s.attempt order with nextTick := s.now + s.interval }

end WebViewer

inductive ViewerEvent (Client : Type)
  | connect (client : Client)
  | message (client : Client) (message : ClientMessage)
  -- the connection is closed
  | close (client : Client)
  | wake (client : Client)
  -- in the order the set has its clients in
  | tick (order : List Client)
  -- a frame is sent, or the connection it was for is closed
  | sent (client : Client)
  -- with the time that the reader took before the lock
  | push (sensorData : SensorData) (now : ℚ)
  | pushWrench (values : Wrench) (now : ℚ)
  -- what the worker makes of its controller
  | work (controller : Controller)
  | elapse (duration : ℚ)

namespace WebViewer
variable {τ Client : Type} [DecidableEq Client] (estimate : Estimator τ) (s : WebViewer τ Client)

def running : ViewerEvent Client → Option (WebViewer τ Client)
  | .connect client => if s.handler client = .absent then some (s.connect client) else none
  | .message client message =>
      if s.handler client = .serving then
        let received := s.receive client message
        some (if received.2 then received.1.leave client else received.1)
      else none
  | .close client => if s.handler client = .serving then some (s.leave client) else none
  | .wake client =>
      match s.handler client with
      | .leaving wakes =>
          if wakes ≤ s.now then
            some { s with handler := Function.update s.handler client .done, exited := decide (s.clients = ∅) }
          else none
      | _ => none
  | .tick order => if s.nextTick ≤ s.now ∧ (order : Multiset Client) = s.clients.val then some (s.tick order)
      else none
  | .sent client => if client ∈ s.busy then some { s with busy := s.busy.erase client } else none
  | .push sensorData now => some { s with buffer := s.buffer.push estimate sensorData now }
  | .pushWrench values now => some { s with wrench := s.wrench.pushWrench values now }
  | .work controller => some { s with gripper := s.gripper.map fun _ => controller }
  | .elapse duration => if 0 ≤ duration then some { s with now := s.now + duration } else none

def step (event : ViewerEvent Client) : Option (WebViewer τ Client) :=
  if s.exited then none else s.running estimate event

end WebViewer
end TactileSensors.Viewer