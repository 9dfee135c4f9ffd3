import TactileSensors.Machine.Lock
import TactileSensors.Machine.Observe
import TactileSensors.Usb.Command
import TactileSensors.Usb.ThreadLoop

/-!
# The handoff of the firmware version

One slot and one flag serve all callers of `getFirmwareVersion`. Each resets both under their mutex, asks,
and waits for the reader to fill the slot; what it then copies was tested under the same hold of the mutex.
-/

namespace TactileSensors.Usb.Handoff
open Machine
open Sdk (Thread)

/-! ## The threads -/

/-- Where a thread is: in front of the line that is named. -/
inductive Point
  -- `threadLoop`
  | receiving
  | handing (payload : List UInt8)
  | assigning (payload : List UInt8)
  | readying
  | leaving
  | notifying
  -- `getFirmwareVersion`, up to the request
  | idle
  | resetting
  | lowering
  | emptying
  | unlocking
  | writing
  | sending
  | sent (ok : Bool)
  -- the wait with its predicate; a wait that has timed out tests once more
  | waiting
  | testing (timedOut : Bool)
  | blocked
  | woken
  | reading
  | returning (version : List UInt8)
  | failing

namespace Point

def inside : Point → Bool
  | .assigning _ | .readying | .leaving | .lowering | .emptying | .unlocking | .testing _ | .reading
  | .returning _ | .failing => true
  | _ => false

def notified : Point → Point
  | .blocked => .woken
  | p => p

def carried : Point → List (List UInt8)
  | .handing payload | .assigning payload => [payload]
  | _ => []

@[simp] theorem notified_inside (p : Point) : p.notified.inside = p.inside := by cases p <;> rfl

theorem eq_of_notified {p q : Point} (h : p.notified = q) (other : q ≠ .woken) : p = q := by
  cases p with
  | blocked => exact absurd h.symm other
  | _ => exact h

end Point

structure State (θ : Type*) where
  connected : Bool
  receiver : Receiver
  firmwareVersion : List UInt8
  versionReady : Bool
  versionMutex : Option (Thread θ)
  portWriteMutex : Option (Thread θ)
  point : Thread θ → Point

inductive Action (θ : Type*)
  /-- The reader takes the next byte. -/
  | byte (d : UInt8)
  | getFirmwareVersion (t : θ)
  /-- A thread goes on from where it is. -/
  | go (thread : Thread θ)
  | usbSend (thread : Thread θ) (ok : Bool)
  /-- The underlying wait returns by itself, in time or not. -/
  | wake (thread : Thread θ)
  | relock (thread : Thread θ) (timedOut : Bool)

def State.init {θ : Type*} (connected : Bool) (memory : UsbPacket) : State θ where
  connected := connected
  receiver := ⟨memory, 0⟩
  firmwareVersion := []
  versionReady := false
  versionMutex := none
  portWriteMutex := none
  point
    | .reader => .receiving
    | .caller _ => .idle

variable {θ : Type*} [DecidableEq θ]

def State.move (s : State θ) (thread : Thread θ) (p : Point) : State θ :=
  { s with point := Function.update s.point thread p }

def State.acquire (s : State θ) (thread : Thread θ) (p : Point) : Option (State θ) :=
  if s.versionMutex.isNone then some { s.move thread p with versionMutex := some thread } else none

def State.release (s : State θ) (thread : Thread θ) (p : Point) : State θ :=
  { s.move thread p with versionMutex := none }

/-- The packets with sensor data leave the slot alone. -/
def State.receive (s : State θ) (byte : UInt8) : State θ :=
  let next := usbReadByte s.receiver byte
  let s := { s with receiver := next.2 }
  if next.1 = .completed ∧ next.2.packet.command = usbCommandGetVersion then
    s.move .reader (.handing next.2.packet.payload)
  else s

def go (s : State θ) (thread : Thread θ) : Option (State θ) :=
  match s.point thread with
  | .receiving | .idle | .sending | .blocked | .woken => none
  | .handing payload => s.acquire thread (.assigning payload)
  | .assigning payload => some { s.move thread .readying with firmwareVersion := payload }
  | .readying => some { s.move thread .leaving with versionReady := true }
  | .leaving => some (s.release thread .notifying)
  | .notifying =>
      some { s with point := Function.update (fun u => (s.point u).notified) thread .receiving }
  | .resetting => s.acquire thread .lowering
  | .lowering => some { s.move thread .emptying with versionReady := false }
  | .emptying => some { s.move thread .unlocking with firmwareVersion := [] }
  | .unlocking => some (s.release thread .writing)
  | .writing =>
      if s.portWriteMutex.isNone then some { s.move thread .sending with portWriteMutex := some thread }
      else none
  | .sent ok => some { s.move thread (if ok then .waiting else .idle) with portWriteMutex := none }
  | .waiting => s.acquire thread (.testing false)
  | .testing timedOut =>
      some (if s.versionReady then s.move thread .reading
        else if timedOut then s.move thread .failing
        else s.release thread .blocked)
  | .reading => some (s.move thread (.returning s.firmwareVersion))
  | .returning _ | .failing => some (s.release thread .idle)

def step (s : State θ) : Action θ → Option (State θ)
  | .byte d => match s.point .reader with
      | .receiving => some (s.receive d)
      | _ => none
  | .getFirmwareVersion t => match s.point (.caller t) with
      | .idle => some (if s.connected then s.move (.caller t) .resetting else s)
      | _ => none
  | .go thread => go s thread
  | .usbSend thread ok => match s.point thread with
      | .sending => some (s.move thread (.sent ok))
      | _ => none
  | .wake thread => match s.point thread with
      | .blocked => some (s.move thread .woken)
      | _ => none
  | .relock thread timedOut => match s.point thread with
      | .woken => s.acquire thread (.testing timedOut)
      | _ => none

/-! ## What a step can do -/

inductive Steps (s : State θ) : Action θ → State θ → Prop
  | byte (d : UInt8) (at_ : s.point .reader = .receiving) : Steps s (.byte d) (s.receive d)
  | refuse (t : θ) (at_ : s.point (.caller t) = .idle) (lost : s.connected = false) :
      Steps s (.getFirmwareVersion t) s
  | enter (t : θ) (at_ : s.point (.caller t) = .idle) (connected : s.connected = true) :
      Steps s (.getFirmwareVersion t) (s.move (.caller t) .resetting)
  | lock (thread : Thread θ) (payload : List UInt8) (at_ : s.point thread = .handing payload)
      (free : s.versionMutex = none) :
      Steps s (.go thread) { s.move thread (.assigning payload) with versionMutex := some thread }
  | assign (thread : Thread θ) (payload : List UInt8) (at_ : s.point thread = .assigning payload) :
      Steps s (.go thread) { s.move thread .readying with firmwareVersion := payload }
  | ready (thread : Thread θ) (at_ : s.point thread = .readying) :
      Steps s (.go thread) { s.move thread .leaving with versionReady := true }
  | leave (thread : Thread θ) (at_ : s.point thread = .leaving) :
      Steps s (.go thread) (s.release thread .notifying)
  | notify (thread : Thread θ) (at_ : s.point thread = .notifying) :
      Steps s (.go thread)
        { s with point := Function.update (fun u => (s.point u).notified) thread .receiving }
  | lockReset (thread : Thread θ) (at_ : s.point thread = .resetting) (free : s.versionMutex = none) :
      Steps s (.go thread) { s.move thread .lowering with versionMutex := some thread }
  | lower (thread : Thread θ) (at_ : s.point thread = .lowering) :
      Steps s (.go thread) { s.move thread .emptying with versionReady := false }
  | empty (thread : Thread θ) (at_ : s.point thread = .emptying) :
      Steps s (.go thread) { s.move thread .unlocking with firmwareVersion := [] }
  | unlock (thread : Thread θ) (at_ : s.point thread = .unlocking) :
      Steps s (.go thread) (s.release thread .writing)
  | write (thread : Thread θ) (at_ : s.point thread = .writing) (free : s.portWriteMutex = none) :
      Steps s (.go thread) { s.move thread .sending with portWriteMutex := some thread }
  | send (thread : Thread θ) (ok : Bool) (at_ : s.point thread = .sending) :
      Steps s (.usbSend thread ok) (s.move thread (.sent ok))
  | written (thread : Thread θ) (ok : Bool) (at_ : s.point thread = .sent ok) {p : Point}
      (next : p = if ok then .waiting else .idle) :
      Steps s (.go thread) { s.move thread p with portWriteMutex := none }
  | lockWait (thread : Thread θ) (at_ : s.point thread = .waiting) (free : s.versionMutex = none) :
      Steps s (.go thread) { s.move thread (.testing false) with versionMutex := some thread }
  | pass (thread : Thread θ) (timedOut : Bool) (at_ : s.point thread = .testing timedOut)
      (ready : s.versionReady = true) : Steps s (.go thread) (s.move thread .reading)
  | fail (thread : Thread θ) (at_ : s.point thread = .testing true) (unready : s.versionReady = false) :
      Steps s (.go thread) (s.move thread .failing)
  | block (thread : Thread θ) (at_ : s.point thread = .testing false)
      (unready : s.versionReady = false) : Steps s (.go thread) (s.release thread .blocked)
  | wake (thread : Thread θ) (at_ : s.point thread = .blocked) :
      Steps s (.wake thread) (s.move thread .woken)
  | relock (thread : Thread θ) (timedOut : Bool) (at_ : s.point thread = .woken)
      (free : s.versionMutex = none) :
      Steps s (.relock thread timedOut)
        { s.move thread (.testing timedOut) with versionMutex := some thread }
  | read (thread : Thread θ) (at_ : s.point thread = .reading) :
      Steps s (.go thread) (s.move thread (.returning s.firmwareVersion))
  | deliver (thread : Thread θ) (version : List UInt8) (at_ : s.point thread = .returning version) :
      Steps s (.go thread) (s.release thread .idle)
  | giveUp (thread : Thread θ) (at_ : s.point thread = .failing) :
      Steps s (.go thread) (s.release thread .idle)

theorem acquire_eq_some {s s' : State θ} {thread : Thread θ} {p : Point}
    (h : s.acquire thread p = some s') :
    s.versionMutex = none ∧ s' = { s.move thread p with versionMutex := some thread } := by
  rw [State.acquire, Option.ite_none_right_eq_some] at h
  exact ⟨Option.isNone_iff_eq_none.mp h.1, (Option.some.inj h.2).symm⟩

theorem go_cases {s s' : State θ} {thread : Thread θ} (h : go s thread = some s') :
    Steps s (.go thread) s' := by
  unfold go at h
  cases at_ : s.point thread with
  | receiving | idle | sending | blocked | woken =>
      rw [at_] at h
      cases h
  | handing payload =>
      rw [at_] at h
      obtain ⟨free, rfl⟩ := acquire_eq_some h
      exact .lock thread payload at_ free
  | assigning payload =>
      rw [at_] at h
      cases h
      exact .assign thread payload at_
  | readying =>
      rw [at_] at h
      cases h
      exact .ready thread at_
  | leaving =>
      rw [at_] at h
      cases h
      exact .leave thread at_
  | notifying =>
      rw [at_] at h
      cases h
      exact .notify thread at_
  | resetting =>
      rw [at_] at h
      obtain ⟨free, rfl⟩ := acquire_eq_some h
      exact .lockReset thread at_ free
  | lowering =>
      rw [at_] at h
      cases h
      exact .lower thread at_
  | emptying =>
      rw [at_] at h
      cases h
      exact .empty thread at_
  | unlocking =>
      rw [at_] at h
      cases h
      exact .unlock thread at_
  | writing =>
      rw [at_] at h
      obtain ⟨free, same⟩ := Option.ite_none_right_eq_some.mp h
      cases same
      exact .write thread at_ (Option.isNone_iff_eq_none.mp free)
  | sent ok =>
      rw [at_] at h
      cases h
      exact .written thread ok at_ rfl
  | waiting =>
      rw [at_] at h
      obtain ⟨free, rfl⟩ := acquire_eq_some h
      exact .lockWait thread at_ free
  | testing timedOut =>
      rw [at_] at h
      cases h
      cases ready : s.versionReady with
      | true => exact .pass thread timedOut at_ ready
      | false =>
          cases timedOut with
          | true => exact .fail thread at_ ready
          | false => exact .block thread at_ ready
  | reading =>
      rw [at_] at h
      cases h
      exact .read thread at_
  | returning version =>
      rw [at_] at h
      cases h
      exact .deliver thread version at_
  | failing =>
      rw [at_] at h
      cases h
      exact .giveUp thread at_

theorem step_cases {s s' : State θ} {a : Action θ} (h : step s a = some s') : Steps s a s' := by
  cases a with
  | go thread => exact go_cases h
  | byte d =>
      rw [step] at h
      split at h
      · rename_i at_
        cases h
        exact .byte d at_
      · cases h
  | getFirmwareVersion t =>
      rw [step] at h
      split at h
      · rename_i at_
        cases h
        split_ifs with connected
        · exact .enter t at_ connected
        · exact .refuse t at_ (by simpa using connected)
      · cases h
  | usbSend thread ok =>
      rw [step] at h
      split at h
      · rename_i at_
        cases h
        exact .send thread ok at_
      · cases h
  | wake thread =>
      rw [step] at h
      split at h
      · rename_i at_
        cases h
        exact .wake thread at_
      · cases h
  | relock thread timedOut =>
      rw [step] at h
      split at h
      · rename_i at_
        obtain ⟨free, rfl⟩ := acquire_eq_some h
        exact .relock thread timedOut at_ free
      · cases h

/-! ## What is handed over -/

structure Returned where
  /-- How many payloads had been handed over when the call reset the slot. -/
  resetAt : Nat
  returnedAt : Nat
  version : List UInt8

structure VersionLog (θ : Type*) where
  /-- What the reader has put into the slot. -/
  handed : List (List UInt8)
  resetAt : Thread θ → Nat
  returned : List Returned

def VersionLog.init : VersionLog θ := ⟨[], fun _ => 0, []⟩

def noteVersions (s : State θ) (a : Action θ) (_ : State θ) (log : VersionLog θ) : VersionLog θ :=
  match a with
  | .go thread => match s.point thread with
      | .assigning payload => { log with handed := log.handed ++ [payload] }
      | .emptying => { log with resetAt := Function.update log.resetAt thread log.handed.length }
      | .returning version =>
          { log with returned := ⟨log.resetAt thread, log.handed.length, version⟩ :: log.returned }
      | _ => log
  | _ => log

structure Current (slot : List UInt8) (handed : List (List UInt8)) (resetAt : Thread θ → Nat) : Prop where
  last : handed.getLast? = some slot
  later : ∀ thread, resetAt thread < handed.length

/-- Between `since` and `upTo`, `version` was handed over. -/
def HandedOver (handed : List (List UInt8)) (since upTo : Nat) (version : List UInt8) : Prop :=
  ∃ i, since ≤ i ∧ i < upTo ∧ handed[i]? = some version

structure HandoffInv (s : State θ × VersionLog θ) : Prop where
  exclusive : Exclusive Point.inside s.1.point s.1.versionMutex
  early : ∀ thread, s.2.resetAt thread ≤ s.2.handed.length
  ready : s.1.versionReady = true → Current s.1.firmwareVersion s.2.handed s.2.resetAt
  readying : ∀ thread, s.1.point thread = .readying → Current s.1.firmwareVersion s.2.handed s.2.resetAt
  emptying : ∀ thread, s.1.point thread = .emptying → s.1.versionReady = false
  reading : ∀ thread, s.1.point thread = .reading → s.1.versionReady = true
  returning : ∀ thread version, s.1.point thread = .returning version →
    HandedOver s.2.handed (s.2.resetAt thread) s.2.handed.length version
  returned : ∀ r ∈ s.2.returned, HandedOver s.2.handed r.resetAt r.returnedAt r.version

omit [DecidableEq θ] in
theorem Current.handedOver {slot : List UInt8} {handed : List (List UInt8)} {resetAt : Thread θ → Nat}
    (h : Current slot handed resetAt) (thread : Thread θ) :
    HandedOver handed (resetAt thread) handed.length slot := by
  have later := h.later thread
  refine ⟨handed.length - 1, by omega, by omega, ?_⟩
  rw [← List.getLast?_eq_getElem?]
  exact h.last

theorem HandedOver.append {handed : List (List UInt8)} {since upTo : Nat} {version : List UInt8}
    (h : HandedOver handed since upTo version) (payload : List UInt8) :
    HandedOver (handed ++ [payload]) since upTo version := by
  obtain ⟨i, after, before, at_⟩ := h
  refine ⟨i, after, before, ?_⟩
  rw [List.getElem?_append_left (List.getElem?_eq_some_iff.mp at_).1, at_]

theorem HandedOver.mono {handed : List (List UInt8)} {since upTo upTo' : Nat} {version : List UInt8}
    (h : HandedOver handed since upTo version) (later : upTo ≤ upTo') :
    HandedOver handed since upTo' version := by
  obtain ⟨i, after, before, at_⟩ := h
  exact ⟨i, after, before.trans_le later, at_⟩

/-! ## The invariant -/

omit [DecidableEq θ] in
theorem handoffInv_init (connected : Bool) (memory : UsbPacket) :
    HandoffInv ((.init connected memory : State θ), .init) where
  exclusive thread := by cases thread <;> simp [State.init, Point.inside]
  early thread := Nat.le_refl 0
  ready := nofun
  readying thread at_ := by cases thread <;> cases at_
  emptying thread at_ := by cases thread <;> cases at_
  reading thread at_ := by cases thread <;> cases at_
  returning thread version at_ := by cases thread <;> cases at_
  returned r hr := by cases hr

section
variable {s s' : State θ} {log : VersionLog θ} {thread : Thread θ} {p : Point}

theorem HandoffInv.goOn (h : HandoffInv (s, log)) (point : s'.point = Function.update s.point thread p)
    (exclusive : Exclusive Point.inside s'.point s'.versionMutex)
    (slot : s'.firmwareVersion = s.firmwareVersion) (ready : s'.versionReady = s.versionReady)
    (readying : p ≠ .readying) (emptying : p ≠ .emptying) (reading : p = .reading → s.versionReady = true)
    (returning : ∀ version, p = .returning version →
      HandedOver log.handed (log.resetAt thread) log.handed.length version) :
    HandoffInv (s', log) := by
  have before {u : Thread θ} {q : Point} (at_ : s'.point u = q) : u = thread ∧ p = q ∨ s.point u = q := by
    rw [point] at at_
    exact update_cases id at_
  constructor
  case exclusive => exact exclusive
  case early => exact h.early
  case ready =>
    rw [slot, ready]
    exact h.ready
  case readying =>
    intro u at_
    rw [slot]
    rcases before at_ with ⟨-, now⟩ | was
    · exact absurd now readying
    · exact h.readying u was
  case emptying =>
    intro u at_
    rw [ready]
    rcases before at_ with ⟨-, now⟩ | was
    · exact absurd now emptying
    · exact h.emptying u was
  case reading =>
    intro u at_
    rw [ready]
    rcases before at_ with ⟨-, now⟩ | was
    · exact reading now
    · exact h.reading u was
  case returning =>
    intro u version at_
    rcases before at_ with ⟨rfl, now⟩ | was
    · exact returning version now
    · exact h.returning u version was
  case returned => exact h.returned

theorem was_at {u : Thread θ} {q : Point} (now : (s.move thread p).point u = q) (other : q ≠ p) :
    s.point u = q := by
  rcases update_cases id now with ⟨-, new⟩ | was
  · exact absurd new.symm other
  · exact was

omit [DecidableEq θ] in
theorem HandoffInv.apart (h : HandoffInv (s, log)) {q : Point} {u : Thread θ}
    (at_ : s.point thread = p) (inside : p.inside = true) (other : s.point u = q)
    (also_ : q.inside = true) : p = q := by
  have same : thread = u := h.exclusive.alone (by rw [at_, inside]) (by rw [other, also_])
  rw [← at_, same, other]

theorem HandoffInv.assigns (h : HandoffInv (s, log)) {payload : List UInt8}
    (at_ : s.point thread = .assigning payload) :
    HandoffInv ({ s.move thread .readying with firmwareVersion := payload },
      { log with handed := log.handed ++ [payload] }) := by
  have current : Current payload (log.handed ++ [payload]) log.resetAt :=
    ⟨List.getLast?_concat, fun u => by simpa using Nat.lt_succ_of_le (h.early u)⟩
  constructor
  case exclusive => exact h.exclusive.stay (by rw [at_]; rfl)
  case early => exact fun u => (current.later u).le
  case ready => exact fun _ => current
  case readying => exact fun _ _ => current
  case emptying => exact fun u now => h.emptying u (was_at now nofun)
  case reading => exact fun u now => h.reading u (was_at now nofun)
  case returning =>
    intro u version now
    refine ((h.returning u version (was_at now nofun)).append payload).mono ?_
    simp
  case returned => exact fun r hr => (h.returned r hr).append payload

theorem HandoffInv.readies (h : HandoffInv (s, log)) (at_ : s.point thread = .readying) :
    HandoffInv ({ s.move thread .leaving with versionReady := true }, log) := by
  constructor
  case exclusive => exact h.exclusive.stay (by rw [at_]; rfl)
  case early => exact h.early
  case ready => exact fun _ => h.readying thread at_
  case readying => exact fun u now => h.readying u (was_at now nofun)
  case emptying =>
    intro u now
    cases h.apart at_ rfl (was_at now nofun) rfl
  case reading => exact fun _ _ => rfl
  case returning => exact fun u version now => h.returning u version (was_at now nofun)
  case returned => exact h.returned

theorem HandoffInv.lowers (h : HandoffInv (s, log)) (at_ : s.point thread = .lowering) :
    HandoffInv ({ s.move thread .emptying with versionReady := false }, log) := by
  constructor
  case exclusive => exact h.exclusive.stay (by rw [at_]; rfl)
  case early => exact h.early
  case ready => nofun
  case readying => exact fun u now => h.readying u (was_at now nofun)
  case emptying => exact fun _ _ => rfl
  case reading =>
    intro u now
    cases h.apart at_ rfl (was_at now nofun) rfl
  case returning => exact fun u version now => h.returning u version (was_at now nofun)
  case returned => exact h.returned

theorem HandoffInv.empties (h : HandoffInv (s, log)) (at_ : s.point thread = .emptying) :
    HandoffInv ({ s.move thread .unlocking with firmwareVersion := [] },
      { log with resetAt := Function.update log.resetAt thread log.handed.length }) := by
  have unready : s.versionReady = false := h.emptying thread at_
  constructor
  case exclusive => exact h.exclusive.stay (by rw [at_]; rfl)
  case early =>
    intro u
    show Function.update log.resetAt thread log.handed.length u ≤ log.handed.length
    by_cases hu : u = thread
    · rw [hu, Function.update_self]
    · rw [Function.update_of_ne hu]
      exact h.early u
  case ready =>
    intro ready
    rw [show s.versionReady = true from ready] at unready
    cases unready
  case readying =>
    intro u now
    cases h.apart at_ rfl (was_at now nofun) rfl
  case emptying => exact fun _ _ => unready
  case reading => exact fun u now => h.reading u (was_at now nofun)
  case returning =>
    intro u version now
    have was := was_at now nofun
    have hu : u ≠ thread := by
      rintro rfl
      rw [at_] at was
      cases was
    show HandedOver log.handed (Function.update log.resetAt thread log.handed.length u) _ version
    rw [Function.update_of_ne hu]
    exact h.returning u version was
  case returned => exact h.returned

omit [DecidableEq θ] in
theorem HandoffInv.notified (h : HandoffInv (s, log)) :
    HandoffInv ({ s with point := fun u => (s.point u).notified }, log) where
  exclusive := h.exclusive.map fun u => Point.notified_inside (s.point u)
  early := h.early
  ready := h.ready
  readying u at_ := h.readying u (Point.eq_of_notified at_ nofun)
  emptying u at_ := h.emptying u (Point.eq_of_notified at_ nofun)
  reading u at_ := h.reading u (Point.eq_of_notified at_ nofun)
  returning u version at_ := h.returning u version (Point.eq_of_notified at_ nofun)
  returned := h.returned

theorem HandoffInv.passes (h : HandoffInv (s, log)) (point : s'.point = Function.update s.point thread p)
    (exclusive : Exclusive Point.inside s'.point s'.versionMutex)
    (slot : s'.firmwareVersion = s.firmwareVersion) (ready : s'.versionReady = s.versionReady)
    (plain : p ≠ .readying ∧ p ≠ .emptying ∧ p ≠ .reading ∧ ∀ version, p ≠ .returning version) :
    HandoffInv (s', log) :=
  h.goOn point exclusive slot ready plain.1 plain.2.1 (fun now => absurd now plain.2.2.1)
    fun version now => absurd now (plain.2.2.2 version)

theorem HandoffInv.stays (h : HandoffInv (s, log)) (inside : p.inside = (s.point thread).inside)
    (plain : p ≠ .readying ∧ p ≠ .emptying ∧ p ≠ .reading ∧ ∀ version, p ≠ .returning version) :
    HandoffInv (s.move thread p, log) :=
  h.passes rfl (h.exclusive.stay inside) rfl rfl plain

theorem HandoffInv.acquires (h : HandoffInv (s, log)) (free : s.versionMutex = none)
    (inside : p.inside = true)
    (plain : p ≠ .readying ∧ p ≠ .emptying ∧ p ≠ .reading ∧ ∀ version, p ≠ .returning version) :
    HandoffInv ({ s.move thread p with versionMutex := some thread }, log) := by
  have exclusive : Exclusive Point.inside s.point none := free ▸ h.exclusive
  exact h.passes rfl (exclusive.acquire inside) rfl rfl plain

theorem HandoffInv.releases (h : HandoffInv (s, log)) (was : (s.point thread).inside = true)
    (leaves : p.inside = false)
    (plain : p ≠ .readying ∧ p ≠ .emptying ∧ p ≠ .reading ∧ ∀ version, p ≠ .returning version) :
    HandoffInv (s.release thread p, log) :=
  h.passes rfl (h.exclusive.release was leaves) rfl rfl plain

theorem HandoffInv.receives (h : HandoffInv (s, log)) (at_ : s.point .reader = .receiving) (d : UInt8) :
    HandoffInv (s.receive d, log) := by
  have reads : HandoffInv ({ s with receiver := (usbReadByte s.receiver d).2 }, log) :=
    ⟨h.exclusive, h.early, h.ready, h.readying, h.emptying, h.reading, h.returning, h.returned⟩
  rw [State.receive]
  by_cases version : (usbReadByte s.receiver d).1 = .completed ∧
      (usbReadByte s.receiver d).2.packet.command = usbCommandGetVersion
  · simp only [if_pos version]
    exact reads.stays (by rw [at_]; rfl) (by simp)
  · simp only [if_neg version]
    exact reads

end

theorem handoffInv_step {s s' : State θ × VersionLog θ} {a : Action θ} (h : HandoffInv s)
    (hstep : observed step noteVersions s a = some s') : HandoffInv s' := by
  obtain ⟨s, log⟩ := s
  obtain ⟨s', log'⟩ := s'
  obtain ⟨moves, rfl⟩ := observed_pair_eq_some.mp hstep
  cases step_cases moves with
  | byte d at_ => exact h.receives at_ d
  | refuse => exact h
  | enter t at_ connected => exact h.stays (by rw [at_]; rfl) (by simp)
  | lock thread payload at_ free =>
      simp only [noteVersions, at_]
      exact h.acquires free rfl (by simp)
  | assign thread payload at_ =>
      simp only [noteVersions, at_]
      exact h.assigns at_
  | ready thread at_ =>
      simp only [noteVersions, at_]
      exact h.readies at_
  | leave thread at_ =>
      simp only [noteVersions, at_]
      exact h.releases (by rw [at_]; rfl) rfl (by simp)
  | notify thread at_ =>
      simp only [noteVersions, at_]
      refine h.notified.passes (by rfl) ?_ (by rfl) (by rfl) (p := .receiving) (by simp)
      refine h.notified.exclusive.stay ?_
      show _ = (s.point thread).notified.inside
      rw [at_]
      rfl
  | lockReset thread at_ free =>
      simp only [noteVersions, at_]
      exact h.acquires free rfl (by simp)
  | lower thread at_ =>
      simp only [noteVersions, at_]
      exact h.lowers at_
  | empty thread at_ =>
      simp only [noteVersions, at_]
      exact h.empties at_
  | unlock thread at_ =>
      simp only [noteVersions, at_]
      exact h.releases (by rw [at_]; rfl) rfl (by simp)
  | write thread at_ free =>
      simp only [noteVersions, at_]
      refine h.passes (p := .sending) (by rfl) ?_ (by rfl) (by rfl) (by simp)
      exact h.exclusive.stay (by rw [at_]; rfl)
  | send thread ok at_ => exact h.stays (by rw [at_]; rfl) (by simp)
  | written thread ok at_ next =>
      simp only [noteVersions, at_]
      subst next
      refine h.passes (p := if ok then .waiting else .idle) (by rfl) ?_ (by rfl) (by rfl) ?_
      · refine h.exclusive.stay ?_
        rw [at_]
        cases ok <;> rfl
      · cases ok <;> simp
  | lockWait thread at_ free =>
      simp only [noteVersions, at_]
      exact h.acquires free rfl (by simp)
  | pass thread timedOut at_ ready =>
      simp only [noteVersions, at_]
      refine h.goOn (p := .reading) (by rfl) ?_ (by rfl) (by rfl) nofun nofun (fun _ => ready) nofun
      exact h.exclusive.stay (by rw [at_]; rfl)
  | fail thread at_ unready =>
      simp only [noteVersions, at_]
      exact h.stays (by rw [at_]; rfl) (by simp)
  | block thread at_ unready =>
      simp only [noteVersions, at_]
      exact h.releases (by rw [at_]; rfl) rfl (by simp)
  | wake thread at_ => exact h.stays (by rw [at_]; rfl) (by simp)
  | relock thread timedOut at_ free => exact h.acquires free rfl (by simp)
  | read thread at_ =>
      simp only [noteVersions, at_]
      have current := h.ready (h.reading thread at_)
      refine h.goOn (p := .returning s.firmwareVersion) (by rfl) ?_ (by rfl) (by rfl) nofun nofun nofun ?_
      · exact h.exclusive.stay (by rw [at_]; rfl)
      · rintro version same
        cases same
        exact current.handedOver thread
  | deliver thread version at_ =>
      simp only [noteVersions, at_]
      have goes : HandoffInv (s.release thread .idle, log) :=
        h.releases (by rw [at_]; rfl) rfl (by simp)
      refine ⟨goes.exclusive, goes.early, goes.ready, goes.readying, goes.emptying, goes.reading,
        goes.returning, ?_⟩
      intro r among
      rcases List.mem_cons.mp among with rfl | before
      · exact h.returning thread version at_
      · exact h.returned r before
  | giveUp thread at_ =>
      simp only [noteVersions, at_]
      exact h.releases (by rw [at_]; rfl) rfl (by simp)

/-! ## Where the payloads come from -/

def bytesOf (actions : List (Action θ)) : List UInt8 :=
  actions.filterMap fun
    | .byte d => some d
    | _ => none

def versionsOf (packets : List UsbPacket) : List (List UInt8) :=
  (packets.filter (·.command = usbCommandGetVersion)).map UsbPacket.payload

omit [DecidableEq θ] in
theorem bytesOf_append_quiet (taken : List (Action θ)) {a : Action θ} (quiet : bytesOf [a] = []) :
    bytesOf (taken ++ [a]) = bytesOf taken := by
  rw [bytesOf, List.filterMap_append]
  exact (congrArg _ quiet).trans (List.append_nil _)

structure Received (memory : UsbPacket) (taken : List (Action θ)) (s : State θ × VersionLog θ) : Prop where
  receiver : s.1.receiver = (readBytes ⟨memory, 0⟩ (bytesOf taken)).2
  versions : s.2.handed ++ (s.1.point .reader).carried =
    versionsOf (completed ⟨memory, 0⟩ (bytesOf taken))
  callers : ∀ t, (s.1.point (.caller t)).carried = []

section
variable {memory : UsbPacket} {taken : List (Action θ)} {s s' : State θ} {log log' : VersionLog θ}
  {a : Action θ}

theorem carried_update {thread : Thread θ} {p : Point} (same : p.carried = (s.point thread).carried)
    (u : Thread θ) : (Function.update s.point thread p u).carried = (s.point u).carried := by
  by_cases hu : u = thread
  · rw [hu, Function.update_self, same]
  · rw [Function.update_of_ne hu]

theorem carried_notified (p : Point) : p.notified.carried = p.carried := by
  cases p <;> rfl

omit [DecidableEq θ] in
theorem Received.still (h : Received memory taken (s, log)) (quiet : bytesOf [a] = [])
    (receiver : s'.receiver = s.receiver) (handed : log'.handed = log.handed)
    (carried : ∀ u, (s'.point u).carried = (s.point u).carried) :
    Received memory (taken ++ [a]) (s', log') := by
  have same := bytesOf_append_quiet taken quiet
  refine ⟨?_, ?_, fun t => (carried _).trans (h.callers t)⟩
  · rw [same]
    exact receiver.trans h.receiver
  · rw [same, ← h.versions]
    show log'.handed ++ (s'.point .reader).carried = log.handed ++ (s.point .reader).carried
    rw [handed, carried]

theorem Received.receives (h : Received memory taken (s, log)) (at_ : s.point .reader = .receiving)
    (d : UInt8) : Received memory (taken ++ [.byte d]) (s.receive d, log) := by
  have more : bytesOf (taken ++ [Action.byte d]) = bytesOf taken ++ [d] := List.filterMap_append
  have sofar : log.handed = versionsOf (completed ⟨memory, 0⟩ (bytesOf taken)) := by
    have idle : (s.point .reader).carried = [] := by rw [at_]; rfl
    have versions : log.handed ++ (s.point .reader).carried = _ := h.versions
    rwa [idle, List.append_nil] at versions
  have receiver : s.receiver = (readBytes ⟨memory, 0⟩ (bytesOf taken)).2 := h.receiver
  have last : completed s.receiver [d] =
      if (usbReadByte s.receiver d).1 = .completed then [(usbReadByte s.receiver d).2.packet] else [] :=
    List.append_nil _
  have next : (s.receive d).receiver = (usbReadByte s.receiver d).2 ∧
      ((s.receive d).point .reader).carried = versionsOf (completed s.receiver [d]) ∧
      ∀ t, (s.receive d).point (.caller t) = s.point (.caller t) := by
    rw [last, State.receive]
    by_cases complete : (usbReadByte s.receiver d).1 = .completed
    · by_cases version : (usbReadByte s.receiver d).2.packet.command = usbCommandGetVersion
      · simp [complete, version, State.move, versionsOf, Point.carried]
      · simp [complete, version, at_, versionsOf, Point.carried]
    · simp [complete, at_, versionsOf, Point.carried]
  refine ⟨?_, ?_, fun t => ?_⟩
  · rw [more, readBytes_append, ← receiver]
    exact next.1
  · rw [more, completed_append, ← receiver]
    show log.handed ++ _ = _
    rw [next.2.1, sofar, versionsOf, versionsOf, versionsOf, List.filter_append, List.map_append]
  · exact (congrArg Point.carried (next.2.2 t)).trans (h.callers t)

theorem Received.assigns (h : Received memory taken (s, log)) {thread : Thread θ} {payload : List UInt8}
    (at_ : s.point thread = .assigning payload) :
    Received memory (taken ++ [.go thread]) ({ s.move thread .readying with firmwareVersion := payload },
      noteVersions s (.go thread) s' log) := by
  have same : bytesOf (taken ++ [.go thread]) = bytesOf taken := bytesOf_append_quiet taken rfl
  have versions : log.handed ++ (s.point .reader).carried = _ := h.versions
  simp only [noteVersions, at_]
  cases thread with
  | caller t =>
      have none : (s.point (.caller t)).carried = [] := h.callers t
      rw [at_] at none
      cases none
  | reader =>
      rw [at_] at versions
      refine ⟨?_, ?_, fun t => h.callers t⟩
      · rw [same]
        exact h.receiver
      · rw [same, ← versions]
        simp [State.move, Point.carried]

theorem received_step {s s' : State θ × VersionLog θ} (h : Received memory taken s)
    (hstep : observed step noteVersions s a = some s') : Received memory (taken ++ [a]) s' := by
  obtain ⟨s, log⟩ := s
  obtain ⟨s', log'⟩ := s'
  obtain ⟨moves, rfl⟩ := observed_pair_eq_some.mp hstep
  cases step_cases moves with
  | byte d at_ => exact h.receives at_ d
  | refuse => exact h.still rfl rfl rfl fun _ => rfl
  | assign thread payload at_ => exact h.assigns at_
  | notify thread at_ =>
      simp only [noteVersions, at_]
      refine h.still rfl rfl rfl fun u => ?_
      show (Function.update (fun u => (s.point u).notified) thread .receiving u).carried = _
      by_cases hu : u = thread
      · rw [hu, Function.update_self, at_]
        rfl
      · rw [Function.update_of_ne hu]
        exact carried_notified (s.point u)
  | written thread ok at_ next =>
      simp only [noteVersions, at_]
      refine h.still rfl rfl rfl (carried_update ?_)
      rw [at_, next]
      cases ok <;> rfl
  | enter t at_ => exact h.still rfl rfl rfl (carried_update (by rw [at_]; rfl))
  | send thread ok at_ | wake thread at_ | relock thread timedOut at_ =>
      exact h.still rfl rfl rfl (carried_update (by rw [at_]; rfl))
  | lock thread payload at_ | ready thread at_ | leave thread at_ | lockReset thread at_ | lower thread at_
  | empty thread at_ | unlock thread at_ | write thread at_ | lockWait thread at_ | pass thread timedOut at_
  | fail thread at_ | block thread at_ | read thread at_ | deliver thread version at_ | giveUp thread at_ =>
      simp only [noteVersions, at_]
      exact h.still rfl rfl rfl (carried_update (by rw [at_]; rfl))

end

/-- A call that returns true delivers the whole payload of a GET_VERSION packet, which the reader handed
over between this call's own reset of the slot and its return. -/
theorem getFirmwareVersion_fresh (connected : Bool) (memory : UsbPacket) {actions : List (Action θ)}
    {s : State θ} {log : VersionLog θ}
    (hrun : run (observed step noteVersions) (.init connected memory, .init) actions = some (s, log)) :
    log.handed ++ (s.point .reader).carried =
        versionsOf (completed ⟨memory, 0⟩ (bytesOf actions)) ∧
      ∀ r ∈ log.returned, HandedOver log.handed r.resetAt r.returnedAt r.version := by
  have begun : Received memory [] ((.init connected memory : State θ), .init) := ⟨rfl, rfl, fun _ => rfl⟩
  have received := run_history (R := Received memory) (fun taken s a s' => received_step) hrun begun
  have inv := run_invariant (fun s a s' => handoffInv_step) hrun (handoffInv_init connected memory)
  exact ⟨received.versions, inv.returned⟩

/-- The reply to the first call is taken away by the reset of the second, and both get the next. -/
def twoCalls : List (Action Bool) :=
  let asks (t : Bool) : List (Action Bool) :=
    .getFirmwareVersion t :: List.replicate 5 (.go (.caller t)) ++
      [.usbSend (.caller t) true, .go (.caller t), .go (.caller t), .go (.caller t)]
  let reply (version : UInt8) : List (Action Bool) :=
    [usbPacketStartByte, 0, usbCommandGetVersion, 1, version].map .byte ++ List.replicate 5 (.go .reader)
  let returns (t : Bool) : List (Action Bool) :=
    .relock (.caller t) false :: List.replicate 3 (.go (.caller t))
  asks false ++ reply 49 ++ asks true ++ reply 50 ++ returns false ++ returns true

theorem second_reply_serves_both :
    let memory : UsbPacket := ⟨List.replicate usbPacketMaxSize 0, List.length_replicate⟩
    ∃ s log, run (observed step noteVersions) (.init true memory, .init) twoCalls = some (s, log) ∧
      log.handed = [[49], [50]] ∧ log.returned.map (·.version) = [[50], [50]] ∧
      ∀ r ∈ log.returned, HandedOver log.handed r.resetAt r.returnedAt r.version := by
  intro memory
  have ends : (run (observed step noteVersions) ((.init true memory : State Bool), .init) twoCalls).map
      (fun s => (s.2.handed, s.2.returned.map (·.version))) = some ([[49], [50]], [[50], [50]]) := by
    decide +kernel
  obtain ⟨⟨s, log⟩, hrun, atLast⟩ := Option.map_eq_some_iff.mp ends
  obtain ⟨handed, versions⟩ := Prod.mk.inj atLast
  exact ⟨s, log, hrun, handed, versions, (getFirmwareVersion_fresh true memory hrun).2⟩

end TactileSensors.Usb.Handoff
