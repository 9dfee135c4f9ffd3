import TactileSensors.Usb.ThreadLoop

/-!
# What the reader delivers

A record of each packet that was framed: what it found in the flags, what the test of
`m_calculatingBaseline` saw, and what went to the callback and into the buffer.
-/

namespace TactileSensors.Usb.Sdk
open Machine

structure Handled where
  packet : UsbPacket
  before : Fingers
  after : Fingers
  calculating : Option Bool
  -- the buffer held its thousand samples when the reader looked
  full : Bool
  called : List Fingers
  stored : List Fingers

variable {θ : Type*} [DecidableEq θ]

def noteHandled (s : State θ) (a : Action θ) (s' : State θ) (log : List Handled) : List Handled :=
  match a with
  | .byte d =>
      let next := usbReadByte s.receiver d
      if next.1 = .completed then ⟨next.2.packet, s.fingers, s'.fingers, none, false, [], []⟩ :: log
      else log
  | .go .reader =>
      match s.reader with
      | .deciding => log.modifyHead fun h => { h with calculating := some s.calculatingBaseline }
      | .storing =>
          log.modifyHead fun h => { h with
            full := decide (maxSamples ≤ s.baselineSamples.length)
            stored := h.stored ++ s'.baselineSamples.drop s.baselineSamples.length }
      | .calling => log.modifyHead fun h => { h with called := h.called ++ [s.fingers] }
      | _ => log
  | _ => log

/-! ## The records -/

def Clear (fingers : Fingers) : Prop := ∀ f, (observe fingers).isNew f = false

def Brings (packet : UsbPacket) : Prop := ¬ Passes packet ∧ ∃ f, tagged packet f = true

namespace Handled

structure Parsed (h : Handled) : Prop where
  before : Clear h.before
  after : ∀ f, (observe h.after).isNew f = tagged h.packet f

structure Delivered (dataCallback : Bool) (h : Handled) : Prop extends Parsed h where
  calculating : h.calculating ≠ none
  called : h.called = if h.calculating = some false ∧ dataCallback then [h.after] else []
  stored : h.stored = if h.calculating = some true ∧ h.full = false then [h.after] else []

structure Ignored (h : Handled) : Prop where
  before : Clear h.before
  after : h.after = h.before
  called : h.called = []
  stored : h.stored = []

def Exact (dataCallback : Bool) (h : Handled) : Prop :=
  (Brings h.packet → h.Delivered dataCallback) ∧ (¬ Brings h.packet → h.Ignored)

/-- The record of the packet that the reader is busy with, at each of its points. -/
def At (dataCallback : Bool) (h : Handled) : ReaderAt → Prop
  | .receiving => h.Exact dataCallback
  | .deciding => h.called = [] ∧ h.stored = []
  | .locking | .storing => h.calculating = some true ∧ h.called = [] ∧ h.stored = []
  | .unlocking => h.Delivered dataCallback
  | .calling => h.calculating = some false ∧ dataCallback = true ∧ h.called = [] ∧ h.stored = []
  | .clearing => h.Delivered dataCallback

end Handled

structure Working (dataCallback : Bool) (s : State θ) (h : Handled) : Prop where
  brings : Brings h.packet
  parsed : h.Parsed
  after : h.after = s.fingers
  here : h.At dataCallback s.reader

structure DeliveryInv (dataCallback : Bool) (s : State θ × List Handled) : Prop where
  callback : s.1.dataCallback = dataCallback
  idle : s.1.reader = .receiving → Clear s.1.fingers ∧ ∀ h ∈ s.2, h.Exact dataCallback
  busy : s.1.reader ≠ .receiving → ∃ h rest, s.2 = h :: rest ∧ Working dataCallback s.1 h ∧
    ∀ h ∈ rest, h.Exact dataCallback

variable {dataCallback : Bool}

theorem clear_init : Clear .init := by
  intro f
  match f with
  | 0 | 1 => rfl

omit [DecidableEq θ] in
theorem DeliveryInv.frame {s s' : State θ} {log : List Handled} (h : DeliveryInv dataCallback (s, log))
    (callback : s'.dataCallback = s.dataCallback) (fingers : s'.fingers = s.fingers)
    (reader : s'.reader = s.reader) : DeliveryInv dataCallback (s', log) := by
  refine ⟨callback.trans h.callback, ?_, ?_⟩
  · intro idle
    rw [fingers]
    exact h.idle (reader ▸ idle)
  · intro busy
    obtain ⟨head, rest, split, working, exact_⟩ := h.busy (reader ▸ busy)
    refine ⟨head, rest, split, ⟨working.brings, working.parsed, ?_, ?_⟩, exact_⟩
    · rw [fingers]
      exact working.after
    · rw [reader]
      exact working.here

omit [DecidableEq θ] in
theorem DeliveryInv.goOn {s s' : State θ} {log : List Handled} (h : DeliveryInv dataCallback (s, log))
    (busy : s.reader ≠ .receiving) (still : s'.reader ≠ .receiving)
    (callback : s'.dataCallback = s.dataCallback) (fingers : s'.fingers = s.fingers)
    {f : Handled → Handled} (same : ∀ h, (f h).packet = h.packet ∧ (f h).before = h.before ∧
      (f h).after = h.after)
    (here : ∀ h, h.Parsed → h.after = s.fingers → h.At dataCallback s.reader →
      (f h).At dataCallback s'.reader) : DeliveryInv dataCallback (s', log.modifyHead f) := by
  obtain ⟨head, rest, split, working, others⟩ := h.busy busy
  obtain ⟨packet, before, after⟩ := same head
  refine ⟨callback.trans h.callback, fun idle => absurd idle still, fun _ => ?_⟩
  refine ⟨f head, rest, by rw [show log = head :: rest from split]; rfl, ⟨?_, ⟨?_, ?_⟩, ?_, ?_⟩, others⟩
  · rw [packet]
    exact working.brings
  · rw [before]
    exact working.parsed.before
  · rw [after, packet]
    exact working.parsed.after
  · rw [after, fingers]
    exact working.after
  · exact here head working.parsed working.after working.here

omit [DecidableEq θ] in
theorem clearNew_clear (fingers : Fingers) : Clear (clearNew fingers) := by
  intro f
  simp [observe, clearNew, Vector.get]

omit [DecidableEq θ] in
theorem anyNew_iff (fingers : Fingers) :
    anyNew fingers = true ↔ ∃ f, (observe fingers).isNew f = true := by
  rw [anyNew, decide_eq_true_iff]
  rfl

theorem store_drop (samples : List Fingers) (fingers : Fingers) :
    (store samples fingers).drop samples.length =
      if decide (maxSamples ≤ samples.length) = false then [fingers] else [] := by
  rw [store]
  by_cases room : samples.length < maxSamples
  · rw [if_pos room, if_pos (by simpa using room), List.drop_left]
  · rw [if_neg room, if_neg (by simpa using room), List.drop_length]

omit [DecidableEq θ] in
theorem DeliveryInv.receiving {s s' : State θ} {log : List Handled}
    (h : DeliveryInv dataCallback (s, log)) (idle : s.reader = .receiving)
    (callback : s'.dataCallback = s.dataCallback) (reader : s'.reader = .receiving)
    (clear : Clear s'.fingers) {record : Handled} (exact_ : record.Exact dataCallback) :
    DeliveryInv dataCallback (s', record :: log) := by
  refine ⟨callback.trans h.callback, fun _ => ⟨clear, ?_⟩, fun busy => absurd reader busy⟩
  exact List.forall_mem_cons.mpr ⟨exact_, (h.idle idle).2⟩

omit [DecidableEq θ] in
theorem DeliveryInv.receive {s : State θ} {log : List Handled} (h : DeliveryInv dataCallback (s, log))
    (at_ : s.reader = .receiving) (d : UInt8) :
    DeliveryInv dataCallback (s.receive d, noteHandled s (.byte d) (s.receive d) log) := by
  obtain ⟨clear, exact_⟩ := h.idle at_
  have receives := receive_cases s d
  generalize s.receive d = s' at receives ⊢
  rw [noteHandled]
  cases receives with
  | more incomplete =>
      rw [if_neg incomplete]
      exact h.frame rfl rfl rfl
  | pass complete passes =>
      rw [if_pos complete]
      refine h.receiving at_ (by rfl) (by exact at_) (by exact clear)
        ⟨fun brings => absurd passes (by exact brings.1), fun _ => ?_⟩
      exact ⟨clear, rfl, rfl, rfl⟩
  | parse complete sensor next =>
      rw [if_pos complete]
      generalize (usbReadByte s.receiver d).2 = receiver at sensor next ⊢
      have flags : ∀ f, (observe (parseSensors receiver.packet s.fingers)).isNew f =
          tagged receiver.packet f := by
        intro f
        rw [parseSensors_isNew, clear f, Bool.or_false]
      by_cases new : anyNew (parseSensors receiver.packet s.fingers) = true
      · rw [if_pos new] at next
        subst next
        obtain ⟨f, flag⟩ := (anyNew_iff _).mp new
        refine ⟨h.callback, nofun, fun _ => ⟨_, log, rfl, ⟨⟨sensor, f, ?_⟩, ⟨clear, flags⟩, rfl, ?_⟩, exact_⟩⟩
        · exact (flags f).symm.trans flag
        · exact ⟨rfl, rfl⟩
      · rw [if_neg new] at next
        subst next
        have none : ∀ f, tagged receiver.packet f = false := by
          intro f
          rw [← flags f]
          exact Bool.eq_false_iff.mpr fun flag => new ((anyNew_iff _).mpr ⟨f, flag⟩)
        have same := parseSensors_untagged none s.fingers
        refine h.receiving at_ (by rfl) (by rfl) (by exact same.symm ▸ clear)
          ⟨fun brings => ?_, fun _ => ?_⟩
        · obtain ⟨f, tag⟩ := brings.2
          exact absurd ((none f).symm.trans tag) Bool.false_ne_true
        · exact ⟨clear, same, rfl, rfl⟩

theorem deliveryInv_step {s s' : State θ × List Handled} {a : Action θ}
    (h : DeliveryInv dataCallback s) (hstep : observed step noteHandled s a = some s') :
    DeliveryInv dataCallback s' := by
  obtain ⟨s, log⟩ := s
  obtain ⟨s', log'⟩ := s'
  obtain ⟨hs, rfl⟩ := observed_pair_eq_some.mp hstep
  have kept : log.modifyHead id = log := by
    rw [List.modifyHead_id]
    rfl
  cases step_cases hs with
  | byte d at_ => exact h.receive at_ d
  | refuse t at_ lost => exact h
  | enter t at_ connected => exact h.frame rfl rfl rfl
  | caller t goes => cases goes <;> exact h.frame rfl rfl rfl
  | reader goes =>
      have busy {p : ReaderAt} (at_ : s.reader = p) (other : p ≠ .receiving) : s.reader ≠ .receiving :=
        at_ ▸ other
      cases goes with
      | stores at_ calculating =>
          simp only [noteHandled, at_]
          refine h.goOn (busy at_ (by simp)) (by simp) (by rfl) (by rfl) (by simp) fun record _ _ here => ?_
          rw [at_] at here
          exact ⟨congrArg some calculating, here.1, here.2⟩
      | calls at_ idle callback =>
          simp only [noteHandled, at_]
          refine h.goOn (busy at_ (by simp)) (by simp) (by rfl) (by rfl) (by simp) fun record _ _ here => ?_
          rw [at_] at here
          exact ⟨congrArg some idle, h.callback.symm.trans callback, here.1, here.2⟩
      | drops at_ idle none =>
          simp only [noteHandled, at_]
          refine h.goOn (busy at_ (by simp)) (by simp) (by rfl) (by rfl) (by simp)
            fun record parsed _ here => ?_
          rw [at_] at here
          have silent : dataCallback = false := h.callback.symm.trans none
          exact ⟨⟨parsed.before, parsed.after⟩, nofun, by simp [here.1, silent], by simp [here.2, idle]⟩
      | lock at_ free =>
          simp only [noteHandled, at_]
          rw [← kept]
          refine h.goOn (busy at_ (by simp)) (by simp) (by rfl) (by rfl) (by simp) fun record _ _ here => ?_
          rwa [at_] at here
      | store at_ =>
          simp only [noteHandled, at_]
          refine h.goOn (busy at_ (by simp)) (by simp) (by rfl) (by rfl) (by simp)
            fun record parsed after here => ?_
          rw [at_] at here
          obtain ⟨calculating, called, stored⟩ := here
          refine ⟨⟨parsed.before, parsed.after⟩, ?_, ?_, ?_⟩
          · simp [calculating]
          · simp [calculating, called]
          · simp only [calculating, stored, store_drop, after, List.nil_append, true_and]
      | unlock at_ =>
          simp only [noteHandled, at_]
          rw [← kept]
          refine h.goOn (busy at_ (by simp)) (by simp) (by rfl) (by rfl) (by simp) fun record _ _ here => ?_
          rwa [at_] at here
      | call at_ =>
          simp only [noteHandled, at_]
          refine h.goOn (busy at_ (by simp)) (by simp) (by rfl) (by rfl) (by simp)
            fun record parsed after here => ?_
          rw [at_] at here
          obtain ⟨calculating, callback, called, stored⟩ := here
          refine ⟨⟨parsed.before, parsed.after⟩, ?_, ?_, ?_⟩
          · simp [calculating]
          · simp [calculating, callback, called, after]
          · simp [calculating, stored]
      | clear at_ =>
          simp only [noteHandled, at_]
          obtain ⟨record, rest, split, working, others⟩ := h.busy (busy at_ nofun)
          have here := working.here
          rw [at_] at here
          refine ⟨h.callback, fun _ => ⟨clearNew_clear s.fingers, ?_⟩, fun still => absurd rfl still⟩
          rw [show log = record :: rest from split]
          refine List.forall_mem_cons.mpr ⟨⟨fun _ => here, fun silent => ?_⟩, others⟩
          exact absurd working.brings silent

/-! ## One record for each packet -/

def bytesOf (actions : List (Action θ)) : List UInt8 :=
  actions.filterMap fun
    | .byte d => some d
    | _ => none

omit [DecidableEq θ] in
theorem bytesOf_append_quiet (taken : List (Action θ)) {a : Action θ} (quiet : bytesOf [a] = []) :
    bytesOf (taken ++ [a]) = bytesOf taken := by
  rw [bytesOf, List.filterMap_append]
  exact (congrArg _ quiet).trans (List.append_nil _)

omit [DecidableEq θ] in
theorem receive_receiver (s : State θ) (d : UInt8) :
    (s.receive d).receiver = (usbReadByte s.receiver d).2 := by
  have receives := receive_cases s d
  generalize s.receive d = s' at receives ⊢
  cases receives <;> rfl

omit [DecidableEq θ] in
theorem noteHandled_byte (s s' : State θ) (d : UInt8) (log : List Handled) :
    (noteHandled s (.byte d) s' log).reverse.map (·.packet) =
      log.reverse.map (·.packet) ++ completed s.receiver [d] := by
  rw [noteHandled, completed, completed, List.append_nil]
  by_cases complete : (usbReadByte s.receiver d).1 = .completed <;> simp [complete]

theorem map_modifyHead (log : List Handled) {f : Handled → Handled}
    (same : ∀ h, (f h).packet = h.packet) : (log.modifyHead f).map (·.packet) = log.map (·.packet) := by
  cases log <;> simp [same]

omit [DecidableEq θ] in
theorem noteHandled_go (s s' : State θ) (thread : Thread θ) (log : List Handled) :
    (noteHandled s (.go thread) s' log).map (·.packet) = log.map (·.packet) := by
  cases thread with
  | caller t => rfl
  | reader =>
      rw [noteHandled]
      cases s.reader with
      | deciding | storing | calling => exact map_modifyHead log fun _ => rfl
      | receiving | locking | unlocking | clearing => rfl

structure Received (memory : UsbPacket) (taken : List (Action θ)) (s : State θ × List Handled) : Prop where
  receiver : s.1.receiver = (readBytes ⟨memory, 0⟩ (bytesOf taken)).2
  packets : s.2.reverse.map (·.packet) = completed ⟨memory, 0⟩ (bytesOf taken)

theorem received_step {memory : UsbPacket} {taken : List (Action θ)} {s s' : State θ × List Handled}
    {a : Action θ} (h : Received memory taken s) (hstep : observed step noteHandled s a = some s') :
    Received memory (taken ++ [a]) s' := by
  obtain ⟨s, log⟩ := s
  obtain ⟨s', log'⟩ := s'
  obtain ⟨hs, rfl⟩ := observed_pair_eq_some.mp hstep
  have still {s'' : State θ} {log'' : List Handled} (none : bytesOf [a] = [])
      (receiver : s''.receiver = s.receiver) (packets : log''.map (·.packet) = log.map (·.packet)) :
      Received memory (taken ++ [a]) (s'', log'') := by
    have same := bytesOf_append_quiet taken none
    refine ⟨?_, ?_⟩
    · rw [same]
      exact receiver.trans h.receiver
    · rw [same, List.map_reverse, packets, ← List.map_reverse]
      exact h.packets
  cases step_cases hs with
  | byte d at_ =>
      have more : bytesOf (taken ++ [Action.byte d]) = bytesOf taken ++ [d] := List.filterMap_append
      refine ⟨?_, ?_⟩
      · rw [more, readBytes_append, ← h.receiver]
        exact receive_receiver s d
      · rw [more, completed_append, ← h.receiver, ← h.packets]
        exact noteHandled_byte s _ d log
  | refuse t at_ lost => exact still rfl rfl rfl
  | enter t at_ connected => exact still rfl rfl rfl
  | caller t goes => cases goes <;> exact still rfl rfl rfl
  | reader goes => cases goes <;> exact still rfl rfl (noteHandled_go s _ .reader log)

omit [DecidableEq θ] in
theorem deliveryInv_init (connected dataCallback : Bool) (memory : UsbPacket) :
    DeliveryInv dataCallback ((.init connected dataCallback memory : State θ), []) :=
  ⟨rfl, fun _ => ⟨clear_init, fun _ none => by cases none⟩, fun busy => absurd rfl busy⟩

theorem Handled.Delivered.length_le {h : Handled} (delivered : h.Delivered dataCallback) :
    h.called.length + h.stored.length ≤ 1 := by
  rw [delivered.called, delivered.stored]
  cases h.calculating with
  | none => simp
  | some calculating => cases calculating <;> split_ifs <;> simp_all

theorem Handled.At.length_le {h : Handled} {p : ReaderAt} (at_ : h.At dataCallback p)
    (busy : p ≠ .receiving) : h.called.length + h.stored.length ≤ 1 := by
  cases p with
  | receiving => exact absurd rfl busy
  | deciding => simp [at_.1, at_.2]
  | locking | storing => simp [at_.2.1, at_.2.2]
  | unlocking | clearing => exact Handled.Delivered.length_le at_
  | calling => simp [at_.2.2.1, at_.2.2.2]

theorem Handled.Exact.begins {h : Handled} (exact_ : h.Exact dataCallback) :
    Clear h.before ∧ h.called.length + h.stored.length ≤ 1 := by
  by_cases brings : Brings h.packet
  · exact ⟨(exact_.1 brings).before, (exact_.1 brings).length_le⟩
  · have ignored := exact_.2 brings
    exact ⟨ignored.before, by simp [ignored.called, ignored.stored]⟩

/-- Each framed packet has one record. It begins with clear flags, and by the time the reader is back at its
bytes a sensor packet with a known tag for a finger has been delivered once, to the callback or into the
buffer, and any other packet to neither. -/
theorem delivered_exactly (connected dataCallback : Bool) (memory : UsbPacket) {actions : List (Action θ)}
    {s : State θ} {log : List Handled}
    (hrun : run (observed step noteHandled) (.init connected dataCallback memory, []) actions =
      some (s, log)) :
    log.reverse.map (·.packet) = completed ⟨memory, 0⟩ (bytesOf actions) ∧
      (∀ h ∈ log, Clear h.before ∧ h.called.length + h.stored.length ≤ 1) ∧
      ∀ h ∈ (if s.reader = .receiving then log else log.tail), h.Exact dataCallback := by
  have begun : Received memory [] ((.init connected dataCallback memory : State θ), []) := ⟨rfl, rfl⟩
  have received := run_history (R := Received memory) (fun taken s a s' => received_step) hrun begun
  have inv := run_invariant (fun s a s' => deliveryInv_step) hrun
    (deliveryInv_init connected dataCallback memory)
  refine ⟨received.packets, ?_, ?_⟩
  · by_cases idle : s.reader = .receiving
    · exact fun h hh => ((inv.idle idle).2 h hh).begins
    · obtain ⟨head, rest, split, working, others⟩ := inv.busy idle
      rw [show log = head :: rest from split]
      exact List.forall_mem_cons.mpr
        ⟨⟨working.parsed.before, working.here.length_le idle⟩, fun h hh => (others h hh).begins⟩
  · by_cases idle : s.reader = .receiving
    · rw [if_pos idle]
      exact (inv.idle idle).2
    · obtain ⟨head, rest, split, -, others⟩ := inv.busy idle
      rw [if_neg idle, show log = head :: rest from split]
      exact others

def zeroMemory : UsbPacket := ⟨List.replicate usbPacketMaxSize 0, List.length_replicate⟩

def dynamicDelivery : List (Action Unit) :=
  [usbPacketStartByte, 0, usbCommandReadSensors, 3, 0x20, 0, 7].map .byte ++
    List.replicate 3 (.go .reader)

theorem dynamic_value_delivered :
    ∃ s log, run (observed step noteHandled) (.init true true zeroMemory, []) dynamicDelivery =
        some (s, log) ∧
      s.reader = .receiving ∧ log.map (·.called.length) = [1] ∧
      ∀ h ∈ (if s.reader = .receiving then log else log.tail), h.Exact true := by
  have ends : (run (observed step noteHandled) ((.init true true zeroMemory : State Unit), [])
      dynamicDelivery).map (fun s => (s.1.reader, s.2.map (·.called.length))) =
        some (.receiving, [1]) := by decide +kernel
  obtain ⟨⟨s, log⟩, hrun, atLast⟩ := Option.map_eq_some_iff.mp ends
  obtain ⟨idle, calls⟩ := Prod.mk.inj atLast
  exact ⟨s, log, hrun, idle, calls, (delivered_exactly true true zeroMemory hrun).2.2⟩

end TactileSensors.Usb.Sdk
