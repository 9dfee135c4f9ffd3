import TactileSensors.Machine.Lock
import TactileSensors.Machine.Observe
import TactileSensors.Usb.Command
import TactileSensors.Usb.Sdk

/-!
# The reader thread and `findBaseline`

The reader takes the received bytes one by one and brings what a packet says to the callback or into the
buffer of baseline samples, as a flag tells it that it reads outside the buffer's mutex. `findBaseline` is
called by any threads; it raises the flag under the mutex, but lowers it without on its failure paths.
-/

namespace TactileSensors.Usb.Sdk
open Machine

inductive Thread (θ : Type*)
  | reader
  | caller (t : θ)
deriving DecidableEq

inductive ReaderAt
  | receiving
  -- a finger has new data: in front of the test of `m_calculatingBaseline`
  | deciding
  | locking
  | storing
  | unlocking
  | calling
  | clearing
deriving DecidableEq, Repr

abbrev Baseline := Fin numFingers → Fin staticTactileSize → UInt16

inductive CallerAt
  | outside
  | locking
  | resetting
  | raising
  | unlocking
  -- the loop that waits for the samples, with `timeout_counter`
  | sleeping (timeoutCounter : Nat)
  | counting (timeoutCounter : Nat)
  | counted (timeoutCounter sampleCount : Nat)
  | deciding (timeoutCounter sampleCount : Nat)
  -- the averages
  | relocking
  | lowering
  | averaging
  | emptying (baseline : Baseline)
  | returning (baseline : Baseline)

def ReaderAt.inside : ReaderAt → Bool
  | .storing | .unlocking => true
  | _ => false

def CallerAt.inside : CallerAt → Bool
  | .resetting | .raising | .unlocking | .counting _ | .counted .. | .lowering | .averaging | .emptying _
  | .returning _ => true
  | _ => false

structure State (θ : Type*) where
  connected : Bool
  dataCallback : Bool
  receiver : Receiver
  fingers : Fingers
  calculatingBaseline : Bool
  baselineSamples : List Fingers
  baselineMutex : Option (Thread θ)
  reader : ReaderAt
  caller : θ → CallerAt

def maxSamples : Nat := 1000
def maxTimeout : Nat := 500

def anyNew (fingers : Fingers) : Bool := decide (∃ f : Fin numFingers, (fingers.get f).newDataAvailable)

def clearNew (fingers : Fingers) : Fingers :=
  fingers.map fun finger => { finger with newDataAvailable := false }

variable {θ : Type*}

/-- A packet from `usbReadByte`. The version of the firmware is handed over elsewhere. -/
def State.handle (s : State θ) (packet : UsbPacket) : State θ :=
  if packet.command = usbCommandGetVersion then s
  else if isSensorCommand packet.command then
    let fingers := parseSensors packet s.fingers
    { s with fingers, reader := if anyNew fingers then .deciding else .receiving }
  else s

def State.receive (s : State θ) (byte : UInt8) : State θ :=
  let next := usbReadByte s.receiver byte
  let s := { s with receiver := next.2 }
  if next.1 = .completed then s.handle next.2.packet else s

def store (samples : List Fingers) (fingers : Fingers) : List Fingers :=
  if samples.length < maxSamples then samples ++ [fingers] else samples

def goReader (s : State θ) : Option (State θ) :=
  match s.reader with
  | .receiving => none
  | .deciding =>
      some { s with
        reader := if s.calculatingBaseline then .locking else if s.dataCallback then .calling
          else .clearing }
  | .locking =>
      if s.baselineMutex.isNone then some { s with baselineMutex := some .reader, reader := .storing }
      else none
  | .storing =>
      some { s with baselineSamples := store s.baselineSamples s.fingers, reader := .unlocking }
  | .unlocking => some { s with baselineMutex := none, reader := .clearing }
  | .calling => some { s with reader := .clearing }
  | .clearing => some { s with fingers := clearNew s.fingers, reader := .receiving }

def accumulator (samples : List Fingers) (f : Fin numFingers) (i : Fin staticTactileSize) : UInt32 :=
  samples.foldl (fun sum sample => sum + ((sample.get f).staticTactile.get i).toUInt32) 0

def average (samples : List Fingers) : Baseline := fun f i => (accumulator samples f i / 1000).toUInt16

variable [DecidableEq θ]

def State.move (s : State θ) (t : θ) (p : CallerAt) : State θ :=
  { s with caller := Function.update s.caller t p }

def State.acquire (s : State θ) (t : θ) (p : CallerAt) : Option (State θ) :=
  if s.baselineMutex.isNone then some { s.move t p with baselineMutex := some (.caller t) } else none

def State.release (s : State θ) (t : θ) (p : CallerAt) : State θ :=
  { s.move t p with baselineMutex := none }

def goCaller (s : State θ) (t : θ) : Option (State θ) :=
  match s.caller t with
  | .outside => none
  | .locking => s.acquire t .resetting
  | .resetting => some { s.move t .raising with baselineSamples := [] }
  | .raising => some { s.move t .unlocking with calculatingBaseline := true }
  | .unlocking => some (s.release t (.sleeping 0))
  | .sleeping n => s.acquire t (.counting n)
  | .counting n => some (s.move t (.counted n s.baselineSamples.length))
  | .counted n count => some (s.release t (.deciding n count))
  | .deciding n count =>
      some (if !s.connected then { s.move t .outside with calculatingBaseline := false }
        else if maxTimeout ≤ n + 1 then { s.move t .outside with calculatingBaseline := false }
        else if count < maxSamples then s.move t (.sleeping (n + 1))
        else s.move t .relocking)
  | .relocking => s.acquire t .lowering
  | .lowering => some { s.move t .averaging with calculatingBaseline := false }
  | .averaging => some (s.move t (.emptying (average s.baselineSamples)))
  | .emptying baseline => some { s.move t (.returning baseline) with baselineSamples := [] }
  | .returning _ => some (s.release t .outside)

inductive Action (θ : Type*)
  /-- The reader takes the next byte. -/
  | byte (d : UInt8)
  | findBaseline (t : θ)
  /-- A thread goes on from where it is. -/
  | go (thread : Thread θ)

def step (s : State θ) : Action θ → Option (State θ)
  | .byte d => match s.reader with
      | .receiving => some (s.receive d)
      | _ => none
  | .findBaseline t => match s.caller t with
      | .outside => some (if s.connected then s.move t .locking else s)
      | _ => none
  | .go .reader => goReader s
  | .go (.caller t) => goCaller s t

def State.init (connected dataCallback : Bool) (memory : UsbPacket) : State θ where
  connected := connected
  dataCallback := dataCallback
  receiver := ⟨memory, 0⟩
  fingers := .init
  calculatingBaseline := false
  baselineSamples := []
  baselineMutex := none
  reader := .receiving
  caller := fun _ => .outside

inductive ReaderSteps (s : State θ) : State θ → Prop
  | stores (at_ : s.reader = .deciding) (calculating : s.calculatingBaseline = true) :
      ReaderSteps s { s with reader := .locking }
  | calls (at_ : s.reader = .deciding) (idle : s.calculatingBaseline = false)
      (callback : s.dataCallback = true) : ReaderSteps s { s with reader := .calling }
  | drops (at_ : s.reader = .deciding) (idle : s.calculatingBaseline = false)
      (none : s.dataCallback = false) : ReaderSteps s { s with reader := .clearing }
  | lock (at_ : s.reader = .locking) (free : s.baselineMutex = none) :
      ReaderSteps s { s with baselineMutex := some .reader, reader := .storing }
  | store (at_ : s.reader = .storing) :
      ReaderSteps s { s with
        baselineSamples := store s.baselineSamples s.fingers, reader := .unlocking }
  | unlock (at_ : s.reader = .unlocking) :
      ReaderSteps s { s with baselineMutex := none, reader := .clearing }
  | call (at_ : s.reader = .calling) : ReaderSteps s { s with reader := .clearing }
  | clear (at_ : s.reader = .clearing) :
      ReaderSteps s { s with fingers := clearNew s.fingers, reader := .receiving }

omit [DecidableEq θ] in
theorem goReader_cases {s s' : State θ} (h : goReader s = some s') : ReaderSteps s s' := by
  rw [goReader] at h
  split at h
  · cases h
  · rename_i at_
    cases h
    split_ifs with calculating callback
    · exact .stores at_ calculating
    · exact .calls at_ (by simpa using calculating) callback
    · exact .drops at_ (by simpa using calculating) (by simpa using callback)
  · rename_i at_
    obtain ⟨free, same⟩ := Option.ite_none_right_eq_some.mp h
    cases same
    exact .lock at_ (Option.isNone_iff_eq_none.mp free)
  · rename_i at_
    cases h
    exact .store at_
  · rename_i at_
    cases h
    exact .unlock at_
  · rename_i at_
    cases h
    exact .call at_
  · rename_i at_
    cases h
    exact .clear at_

inductive CallerSteps (s : State θ) (t : θ) : State θ → Prop
  | lock (at_ : s.caller t = .locking) (free : s.baselineMutex = none) :
      CallerSteps s t { s.move t .resetting with baselineMutex := some (.caller t) }
  | reset (at_ : s.caller t = .resetting) :
      CallerSteps s t { s.move t .raising with baselineSamples := [] }
  | raise (at_ : s.caller t = .raising) :
      CallerSteps s t { s.move t .unlocking with calculatingBaseline := true }
  | unlock (at_ : s.caller t = .unlocking) : CallerSteps s t (s.release t (.sleeping 0))
  | look (n : Nat) (at_ : s.caller t = .sleeping n) (free : s.baselineMutex = none) :
      CallerSteps s t { s.move t (.counting n) with baselineMutex := some (.caller t) }
  | count (n : Nat) (at_ : s.caller t = .counting n) :
      CallerSteps s t (s.move t (.counted n s.baselineSamples.length))
  | looked (n count : Nat) (at_ : s.caller t = .counted n count) :
      CallerSteps s t (s.release t (.deciding n count))
  | fail (n count : Nat) (at_ : s.caller t = .deciding n count)
      (ends : s.connected = false ∨ maxTimeout ≤ n + 1) :
      CallerSteps s t { s.move t .outside with calculatingBaseline := false }
  | again (n count : Nat) (at_ : s.caller t = .deciding n count) (few : count < maxSamples) :
      CallerSteps s t (s.move t (.sleeping (n + 1)))
  | enough (n count : Nat) (at_ : s.caller t = .deciding n count) (many : maxSamples ≤ count) :
      CallerSteps s t (s.move t .relocking)
  | relock (at_ : s.caller t = .relocking) (free : s.baselineMutex = none) :
      CallerSteps s t { s.move t .lowering with baselineMutex := some (.caller t) }
  | lower (at_ : s.caller t = .lowering) :
      CallerSteps s t { s.move t .averaging with calculatingBaseline := false }
  | average (at_ : s.caller t = .averaging) :
      CallerSteps s t (s.move t (.emptying (average s.baselineSamples)))
  | empty (baseline : Baseline) (at_ : s.caller t = .emptying baseline) :
      CallerSteps s t { s.move t (.returning baseline) with baselineSamples := [] }
  | finish (baseline : Baseline) (at_ : s.caller t = .returning baseline) :
      CallerSteps s t (s.release t .outside)

theorem acquire_eq_some {s s' : State θ} {t : θ} {p : CallerAt} (h : s.acquire t p = some s') :
    s.baselineMutex = none ∧ s' = { s.move t p with baselineMutex := some (.caller t) } := by
  rw [State.acquire, Option.ite_none_right_eq_some] at h
  exact ⟨Option.isNone_iff_eq_none.mp h.1, (Option.some.inj h.2).symm⟩

theorem goCaller_cases {s s' : State θ} {t : θ} (h : goCaller s t = some s') : CallerSteps s t s' := by
  rw [goCaller] at h
  split at h
  · cases h
  · rename_i at_
    obtain ⟨free, rfl⟩ := acquire_eq_some h
    exact .lock at_ free
  · rename_i at_
    cases h
    exact .reset at_
  · rename_i at_
    cases h
    exact .raise at_
  · rename_i at_
    cases h
    exact .unlock at_
  · rename_i n at_
    obtain ⟨free, rfl⟩ := acquire_eq_some h
    exact .look n at_ free
  · rename_i n at_
    cases h
    exact .count n at_
  · rename_i n count at_
    cases h
    exact .looked n count at_
  · rename_i n count at_
    cases h
    split_ifs with lost late few
    · exact .fail n count at_ (.inl (by simpa using lost))
    · exact .fail n count at_ (.inr late)
    · exact .again n count at_ few
    · exact .enough n count at_ (Nat.le_of_not_lt few)
  · rename_i at_
    obtain ⟨free, rfl⟩ := acquire_eq_some h
    exact .relock at_ free
  · rename_i at_
    cases h
    exact .lower at_
  · rename_i at_
    cases h
    exact .average at_
  · rename_i baseline at_
    cases h
    exact .empty baseline at_
  · rename_i baseline at_
    cases h
    exact .finish baseline at_

inductive Steps (s : State θ) : Action θ → State θ → Prop
  | byte (d : UInt8) (at_ : s.reader = .receiving) : Steps s (.byte d) (s.receive d)
  | refuse (t : θ) (at_ : s.caller t = .outside) (lost : s.connected = false) :
      Steps s (.findBaseline t) s
  | enter (t : θ) (at_ : s.caller t = .outside) (connected : s.connected = true) :
      Steps s (.findBaseline t) (s.move t .locking)
  | reader {s' : State θ} (goes : ReaderSteps s s') : Steps s (.go .reader) s'
  | caller (t : θ) {s' : State θ} (goes : CallerSteps s t s') : Steps s (.go (.caller t)) s'

theorem step_cases {s s' : State θ} {a : Action θ} (h : step s a = some s') : Steps s a s' := by
  cases a with
  | byte d =>
      rw [step] at h
      split at h
      · rename_i at_
        cases h
        exact .byte d at_
      · cases h
  | findBaseline t =>
      rw [step] at h
      split at h
      · rename_i at_
        cases h
        split_ifs with connected
        · exact .enter t at_ connected
        · exact .refuse t at_ (by simpa using connected)
      · cases h
  | go thread =>
      cases thread with
      | reader => exact .reader (goReader_cases h)
      | caller t => exact .caller t (goCaller_cases h)

def Passes (packet : UsbPacket) : Prop :=
  packet.command = usbCommandGetVersion ∨ isSensorCommand packet.command = false

instance (packet : UsbPacket) : Decidable (Passes packet) := inferInstanceAs (Decidable (_ ∨ _))

inductive Receives (s : State θ) (d : UInt8) : State θ → Prop
  | more (incomplete : (usbReadByte s.receiver d).1 ≠ .completed) :
      Receives s d { s with receiver := (usbReadByte s.receiver d).2 }
  | pass (complete : (usbReadByte s.receiver d).1 = .completed)
      (passes : Passes (usbReadByte s.receiver d).2.packet) :
      Receives s d { s with receiver := (usbReadByte s.receiver d).2 }
  | parse (complete : (usbReadByte s.receiver d).1 = .completed)
      (sensor : ¬ Passes (usbReadByte s.receiver d).2.packet) {p : ReaderAt}
      (next : p = if anyNew (parseSensors (usbReadByte s.receiver d).2.packet s.fingers) then .deciding
        else .receiving) :
      Receives s d { s with
        receiver := (usbReadByte s.receiver d).2
        fingers := parseSensors (usbReadByte s.receiver d).2.packet s.fingers
        reader := p }

omit [DecidableEq θ] in
theorem receive_cases (s : State θ) (d : UInt8) : Receives s d (s.receive d) := by
  rw [State.receive]
  by_cases complete : (usbReadByte s.receiver d).1 = .completed
  · simp only [complete, if_true, State.handle]
    by_cases version : (usbReadByte s.receiver d).2.packet.command = usbCommandGetVersion
    · rw [if_pos version]
      exact .pass complete (.inl version)
    · rw [if_neg version]
      by_cases sensor : isSensorCommand (usbReadByte s.receiver d).2.packet.command = true
      · rw [if_pos sensor]
        exact .parse complete (by simp [Passes, version, sensor]) rfl
      · rw [if_neg sensor]
        exact .pass complete (.inr (by simpa using sensor))
  · simp only [complete, if_false]
    exact .more complete

end TactileSensors.Usb.Sdk
