import TactileSensors.Usb.Delivery

/-!
# What `findBaseline` averages

With one caller, the buffer holds what the reader has stored since the caller emptied it, and it is full
when the caller comes back for it. Samples of an attempt that failed are gone by then.
-/

namespace TactileSensors.Usb.Sdk
open Machine

/-! ## The averages -/

def total (samples : List Fingers) (f : Fin numFingers) (i : Fin staticTactileSize) : Nat :=
  (samples.map fun sample => ((sample.get f).staticTactile.get i).toNat).sum

theorem total_le (samples : List Fingers) (f : Fin numFingers) (i : Fin staticTactileSize) :
    total samples f i ≤ 65535 * samples.length := by
  induction samples with
  | nil => exact Nat.le_refl 0
  | cons sample samples ih =>
      have taxel := ((sample.get f).staticTactile.get i).toNat_lt
      simp only [total, List.map_cons, List.sum_cons, List.length_cons] at ih ⊢
      omega

theorem foldl_add_toNat (taxels : List UInt16) {sum : UInt32}
    (fits : sum.toNat + 65535 * taxels.length < 2 ^ 32) :
    (taxels.foldl (fun sum taxel => sum + taxel.toUInt32) sum).toNat =
      sum.toNat + (taxels.map (·.toNat)).sum := by
  induction taxels generalizing sum with
  | nil => simp
  | cons taxel taxels ih =>
      have small := taxel.toNat_lt
      rw [List.length_cons] at fits
      have next : (sum + taxel.toUInt32).toNat = sum.toNat + taxel.toNat := by
        rw [UInt32.toNat_add, UInt16.toNat_toUInt32]
        exact Nat.mod_eq_of_lt (by omega)
      rw [List.foldl_cons, ih (by omega), next, List.map_cons, List.sum_cons, Nat.add_assoc]

/-- The 32 bits of an accumulator do not overflow, on the way or in the end. -/
theorem accumulator_toNat {samples : List Fingers} (few : samples.length ≤ maxSamples)
    (f : Fin numFingers) (i : Fin staticTactileSize) :
    (accumulator samples f i).toNat = total samples f i := by
  have fits : (0 : UInt32).toNat +
      65535 * (samples.map fun sample => (sample.get f).staticTactile.get i).length < 2 ^ 32 := by
    simp only [List.length_map, maxSamples] at few ⊢
    change 0 + _ < _
    omega
  have sum := foldl_add_toNat _ fits
  rw [List.foldl_map, List.map_map] at sum
  rw [accumulator, sum, total]
  exact Nat.zero_add _

theorem average_toNat {samples : List Fingers} (few : samples.length ≤ maxSamples)
    (f : Fin numFingers) (i : Fin staticTactileSize) :
    (average samples f i).toNat = total samples f i / 1000 ∧ total samples f i / 1000 < 2 ^ 16 ∧
      total samples f i < 2 ^ 32 := by
  have most := total_le samples f i
  simp only [maxSamples] at few
  have small : total samples f i / 1000 < 2 ^ 16 := by omega
  refine ⟨?_, small, by omega⟩
  rw [average, UInt32.toNat_toUInt16, UInt32.toNat_div, accumulator_toNat few]
  exact Nat.mod_eq_of_lt small

/-! ## What the reader has stored -/

structure BaselineLog where
  packets : Nat
  /-- What was stored since the caller emptied the buffer, with the number of its packet. -/
  pushed : List (Nat × Fingers)
  /-- The calls that returned true. -/
  results : List (List (Nat × Fingers) × Baseline)

def BaselineLog.init : BaselineLog := ⟨0, [], []⟩

def noteBaseline (s : State Unit) (a : Action Unit) (s' : State Unit) (log : BaselineLog) : BaselineLog :=
  match a with
  | .byte d =>
      if (usbReadByte s.receiver d).1 = .completed then { log with packets := log.packets + 1 } else log
  | .go .reader =>
      match s.reader with
      | .storing =>
          { log with
            pushed := log.pushed ++
              (s'.baselineSamples.drop s.baselineSamples.length).map (log.packets, ·) }
      | _ => log
  | .go (.caller t) =>
      match s.caller t with
      | .resetting => { log with pushed := [] }
      | .returning baseline => { log with results := (log.pushed, baseline) :: log.results }
      | _ => log
  | .findBaseline _ => log

/-- The averages of exactly a thousand samples, each of a later packet than the one before. -/
structure IsBaseline (pushed : List (Nat × Fingers)) (baseline : Baseline) : Prop where
  count : pushed.length = 1000
  inOrder : (pushed.map (·.1)).Pairwise (· < ·)
  value : ∀ f i, (baseline f i).toNat = total (pushed.map (·.2)) f i / 1000
  fits : ∀ f i, total (pushed.map (·.2)) f i < 2 ^ 32 ∧ total (pushed.map (·.2)) f i / 1000 < 2 ^ 16

namespace CallerAt

def collecting : CallerAt → Bool
  | .outside | .locking | .resetting | .returning _ => false
  | _ => true

def seen : CallerAt → Nat
  | .counted _ count | .deciding _ count => count
  | .relocking | .lowering | .averaging | .emptying _ => maxSamples
  | _ => 0

end CallerAt

def ReaderAt.carrying : ReaderAt → Bool
  | .deciding | .locking | .storing => true
  | _ => false

def State.inside (s : State Unit) : Thread Unit → Bool
  | .reader => s.reader.inside
  | .caller t => (s.caller t).inside

structure BaselineInv (s : State Unit × BaselineLog) : Prop where
  exclusive : Exclusive id s.1.inside s.1.baselineMutex
  bounded : s.1.baselineSamples.length ≤ maxSamples
  collected : (s.1.caller ()).collecting → s.1.baselineSamples = s.2.pushed.map (·.2)
  seen : (s.1.caller ()).seen ≤ s.1.baselineSamples.length
  averaged : ∀ baseline, s.1.caller () = .emptying baseline → baseline = average s.1.baselineSamples
  returning : ∀ baseline, s.1.caller () = .returning baseline → IsBaseline s.2.pushed baseline
  inOrder : (s.2.pushed.map (·.1)).Pairwise (· < ·)
  packets : ∀ p ∈ s.2.pushed, p.1 ≤ s.2.packets
  carrying : s.1.reader.carrying → ∀ p ∈ s.2.pushed, p.1 < s.2.packets
  results : ∀ result ∈ s.2.results, IsBaseline result.1 result.2

/-! ## The invariant -/

theorem inside_reader {s s' : State Unit} (caller : s'.caller = s.caller) :
    s'.inside = Function.update s.inside .reader s'.reader.inside := by
  funext thread
  cases thread <;> simp [State.inside, caller]

theorem inside_caller {s s' : State Unit} {p : CallerAt} (moves : s'.caller = Function.update s.caller () p)
    (reader : s'.reader = s.reader) : s'.inside = Function.update s.inside (.caller ()) p.inside := by
  funext thread
  cases thread <;> simp [State.inside, reader, moves]

theorem baselineInv_init (connected dataCallback : Bool) (memory : UsbPacket) :
    BaselineInv (.init connected dataCallback memory, .init) where
  exclusive thread := by cases thread <;> simp [State.init, State.inside, ReaderAt.inside, CallerAt.inside]
  bounded := Nat.zero_le _
  collected := nofun
  seen := Nat.le_refl 0
  averaged := nofun
  returning := nofun
  inOrder := List.Pairwise.nil
  packets p hp := by cases hp
  carrying := nofun
  results result hresult := by cases hresult

theorem BaselineInv.readerGoes {s s' : State Unit} {log : BaselineLog} (h : BaselineInv (s, log))
    (exclusive : Exclusive id s'.inside s'.baselineMutex)
    (samples : s'.baselineSamples = s.baselineSamples) (caller : s'.caller = s.caller) {packets : Nat}
    (later : log.packets ≤ packets)
    (carrying : s'.reader.carrying → s.reader.carrying ∨ log.packets < packets) :
    BaselineInv (s', { log with packets := packets }) where
  exclusive := exclusive
  bounded := by rw [samples]; exact h.bounded
  collected := by rw [samples, caller]; exact h.collected
  seen := by rw [samples, caller]; exact h.seen
  averaged := by rw [samples, caller]; exact h.averaged
  returning := by rw [caller]; exact h.returning
  inOrder := h.inOrder
  packets p hp := (h.packets p hp).trans later
  carrying busy p hp := by
    rcases carrying busy with before | new
    · exact (h.carrying before p hp).trans_le later
    · exact (h.packets p hp).trans_lt new
  results := h.results

theorem BaselineInv.stores {s s' : State Unit} {log : BaselineLog} (h : BaselineInv (s, log))
    (at_ : s.reader = .storing) (reader : s'.reader = .unlocking) (caller : s'.caller = s.caller)
    (mutex : s'.baselineMutex = s.baselineMutex)
    (samples : s'.baselineSamples = store s.baselineSamples s.fingers) :
    BaselineInv (s', { log with
      pushed := log.pushed ++
        (s'.baselineSamples.drop s.baselineSamples.length).map (log.packets, ·) }) := by
  have inside : s.inside .reader = true := congrArg ReaderAt.inside at_
  -- the caller is outside of the lock
  have apart : (s.caller ()).inside = false := by
    by_contra held
    have held : s.inside (.caller ()) = true := Bool.eq_true_of_not_eq_false held
    cases h.exclusive.alone inside held
  have exclusive : Exclusive id s'.inside s'.baselineMutex := by
    rw [mutex, inside_reader caller]
    exact h.exclusive.stay (by rw [inside, reader]; rfl)
  have below := h.carrying (by rw [at_]; rfl)
  rw [samples, store_drop]
  by_cases full : maxSamples ≤ s.baselineSamples.length
  · have kept : store s.baselineSamples s.fingers = s.baselineSamples := if_neg (Nat.not_lt.mpr full)
    rw [kept] at samples
    rw [if_neg (by simpa using full), List.map_nil, List.append_nil]
    exact h.readerGoes exclusive samples caller (Nat.le_refl _) (by rw [reader]; nofun)
  · have room : s.baselineSamples.length < maxSamples := Nat.lt_of_not_le full
    have stored : store s.baselineSamples s.fingers = s.baselineSamples ++ [s.fingers] := if_pos room
    rw [stored] at samples
    rw [if_pos (by simpa using full)]
    constructor
    case exclusive => exact exclusive
    case bounded =>
      rw [samples, List.length_append]
      exact room
    case collected =>
      intro collecting
      rw [caller] at collecting
      rw [samples, h.collected collecting]
      simp
    case seen =>
      rw [samples, caller, List.length_append]
      exact h.seen.trans (Nat.le_add_right _ _)
    case averaged =>
      intro baseline emptying
      rw [← caller, emptying] at apart
      cases apart
    case returning =>
      intro baseline returning
      rw [← caller, returning] at apart
      cases apart
    case inOrder =>
      simp only [List.map_append, List.map_cons, List.map_nil]
      refine List.pairwise_append.mpr ⟨h.inOrder, List.pairwise_singleton _ _, ?_⟩
      intro n hn m hm
      obtain ⟨p, hp, rfl⟩ := List.mem_map.mp hn
      rw [List.mem_singleton.mp hm]
      exact below p hp
    case packets =>
      intro p hp
      rcases List.mem_append.mp hp with old | new
      · exact h.packets p old
      · rw [List.mem_map] at new
        obtain ⟨sample, -, rfl⟩ := new
        exact Nat.le_refl _
    case carrying =>
      rw [reader]
      nofun
    case results => exact h.results

theorem BaselineInv.callerGoes {s s' : State Unit} {log : BaselineLog} (h : BaselineInv (s, log))
    {p q : CallerAt} (at_ : s.caller () = q) (moves : s'.caller = Function.update s.caller () p)
    (exclusive : Exclusive id s'.inside s'.baselineMutex)
    (reader : s'.reader = s.reader) (samples : s'.baselineSamples = s.baselineSamples)
    (collecting : p.collecting → q.collecting)
    (seen : p.seen ≤ s.baselineSamples.length)
    (averaged : ∀ baseline, p = .emptying baseline → baseline = average s.baselineSamples)
    (returning : ∀ baseline, p ≠ .returning baseline) : BaselineInv (s', log) where
  exclusive := exclusive
  bounded := by rw [samples]; exact h.bounded
  collected := by
    rw [samples, moves, Function.update_self]
    exact fun busy => h.collected (at_ ▸ collecting busy)
  seen := by
    rw [samples, moves, Function.update_self]
    exact seen
  averaged := by
    rw [samples, moves, Function.update_self]
    exact averaged
  returning := by
    rw [moves, Function.update_self]
    exact fun baseline returns => absurd returns (returning baseline)
  inOrder := h.inOrder
  packets := h.packets
  carrying := by rw [reader]; exact h.carrying
  results := h.results

section
variable {s s' : State Unit} {thread : Thread Unit} {inside : Bool}

theorem exclusive_stays (h : Exclusive id s.inside s.baselineMutex)
    (moves : s'.inside = Function.update s.inside thread inside) (same : inside = s.inside thread)
    (mutex : s'.baselineMutex = s.baselineMutex) : Exclusive id s'.inside s'.baselineMutex := by
  rw [moves, mutex]
  exact h.stay same

theorem exclusive_acquires (h : Exclusive id s.inside s.baselineMutex)
    (moves : s'.inside = Function.update s.inside thread inside) (enters : inside = true)
    (free : s.baselineMutex = none) (mutex : s'.baselineMutex = some thread) :
    Exclusive id s'.inside s'.baselineMutex := by
  rw [free] at h
  rw [moves, mutex]
  exact h.acquire enters

theorem exclusive_releases (h : Exclusive id s.inside s.baselineMutex)
    (moves : s'.inside = Function.update s.inside thread inside) (was : s.inside thread = true)
    (leaves : inside = false) (mutex : s'.baselineMutex = none) :
    Exclusive id s'.inside s'.baselineMutex := by
  rw [moves, mutex]
  exact h.release was leaves

end

theorem BaselineInv.receives {s : State Unit} {log : BaselineLog} (h : BaselineInv (s, log))
    (at_ : s.reader = .receiving) (d : UInt8) :
    BaselineInv (s.receive d, noteBaseline s (.byte d) (s.receive d) log) := by
  have outside : s.inside .reader = false := congrArg ReaderAt.inside at_
  have receives := receive_cases s d
  generalize s.receive d = s' at receives ⊢
  rw [noteBaseline]
  cases receives with
  | more incomplete =>
      rw [if_neg incomplete]
      refine h.readerGoes ?_ (by rfl) (by rfl) (Nat.le_refl _) .inl
      exact exclusive_stays h.exclusive (inside_reader rfl) rfl rfl
  | pass complete passes =>
      rw [if_pos complete]
      refine h.readerGoes ?_ (by rfl) (by rfl) (Nat.le_succ _) .inl
      exact exclusive_stays h.exclusive (inside_reader rfl) rfl rfl
  | parse complete sensor next =>
      rw [if_pos complete]
      refine h.readerGoes ?_ (by rfl) (by rfl) (Nat.le_succ _) fun _ => .inr (Nat.lt_succ_self _)
      refine exclusive_stays h.exclusive (inside_reader rfl) ?_ rfl
      rw [outside, next]
      split <;> rfl

theorem BaselineInv.reader_step {s s' : State Unit} {log : BaselineLog} (h : BaselineInv (s, log))
    (goes : ReaderSteps s s') : BaselineInv (s', noteBaseline s (.go .reader) s' log) := by
  have inside {p : ReaderAt} (at_ : s.reader = p) : s.inside .reader = p.inside :=
    congrArg ReaderAt.inside at_
  cases goes with
  | stores at_ | calls at_ | drops at_ | call at_ | clear at_ =>
      simp only [noteBaseline, at_]
      refine h.readerGoes ?_ (by rfl) (by rfl) (Nat.le_refl _) (by rw [at_]; simp [ReaderAt.carrying])
      exact exclusive_stays h.exclusive (inside_reader rfl) (inside at_).symm rfl
  | lock at_ free =>
      simp only [noteBaseline, at_]
      refine h.readerGoes ?_ (by rfl) (by rfl) (Nat.le_refl _) (by rw [at_]; simp [ReaderAt.carrying])
      exact exclusive_acquires h.exclusive (inside_reader rfl) rfl free rfl
  | unlock at_ =>
      simp only [noteBaseline, at_]
      refine h.readerGoes ?_ (by rfl) (by rfl) (Nat.le_refl _) nofun
      exact exclusive_releases h.exclusive (inside_reader rfl) (inside at_) rfl rfl
  | store at_ =>
      simp only [noteBaseline, at_]
      exact h.stores at_ rfl rfl rfl rfl

theorem isBaseline_of_full {s : State Unit} {log : BaselineLog} (h : BaselineInv (s, log))
    {baseline : Baseline} (at_ : s.caller () = .emptying baseline) : IsBaseline log.pushed baseline := by
  have samples : s.baselineSamples = log.pushed.map (·.2) := h.collected (by rw [at_]; rfl)
  have most : s.baselineSamples.length ≤ maxSamples := h.bounded
  have full : (s.caller ()).seen ≤ s.baselineSamples.length := h.seen
  rw [at_] at full
  have averages : baseline = average s.baselineSamples := h.averaged baseline at_
  rw [samples] at most full averages
  subst averages
  refine ⟨?_, h.inOrder, fun f i => (average_toNat most f i).1, fun f i => ?_⟩
  · rw [← List.length_map]
    exact Nat.le_antisymm most full
  · exact ⟨(average_toNat most f i).2.2, (average_toNat most f i).2.1⟩

theorem BaselineInv.caller_step {s s' : State Unit} {log : BaselineLog} (h : BaselineInv (s, log))
    (goes : CallerSteps s () s') : BaselineInv (s', noteBaseline s (.go (.caller ())) s' log) := by
  have inside {p : CallerAt} (at_ : s.caller () = p) : s.inside (.caller ()) = p.inside :=
    congrArg CallerAt.inside at_
  have seen {p : CallerAt} (at_ : s.caller () = p) : p.seen ≤ s.baselineSamples.length := at_ ▸ h.seen
  cases goes with
  | lock at_ free =>
      simp only [noteBaseline, at_]
      refine h.callerGoes (p := .resetting) at_ (by rfl) ?_ (by rfl) (by rfl) nofun (Nat.zero_le _) nofun nofun
      exact exclusive_acquires h.exclusive (inside_caller rfl rfl) rfl free rfl
  | reset at_ =>
      simp only [noteBaseline, at_]
      constructor
      case exclusive => exact exclusive_stays h.exclusive (inside_caller rfl rfl) (inside at_).symm rfl
      case bounded => exact Nat.zero_le _
      case collected => exact fun _ => rfl
      case seen => simp [State.move, CallerAt.seen]
      case averaged => simp [State.move]
      case returning => simp [State.move]
      case inOrder => exact List.Pairwise.nil
      case packets => nofun
      case carrying => nofun
      case results => exact h.results
  | raise at_ =>
      simp only [noteBaseline, at_]
      refine h.callerGoes (p := .unlocking) at_ (by rfl) ?_ (by rfl) (by rfl) (fun _ => rfl)
        (Nat.zero_le _) nofun nofun
      exact exclusive_stays h.exclusive (inside_caller rfl rfl) (inside at_).symm rfl
  | unlock at_ =>
      simp only [noteBaseline, at_]
      refine h.callerGoes (p := .sleeping 0) at_ (by rfl) ?_ (by rfl) (by rfl) (fun _ => rfl)
        (Nat.zero_le _) nofun nofun
      exact exclusive_releases h.exclusive (inside_caller rfl rfl) (inside at_) rfl rfl
  | look n at_ free =>
      simp only [noteBaseline, at_]
      refine h.callerGoes (p := .counting n) at_ (by rfl) ?_ (by rfl) (by rfl) (fun _ => rfl)
        (Nat.zero_le _) nofun nofun
      exact exclusive_acquires h.exclusive (inside_caller rfl rfl) rfl free rfl
  | count n at_ =>
      simp only [noteBaseline, at_]
      refine h.callerGoes (p := .counted n s.baselineSamples.length) at_ (by rfl) ?_ (by rfl) (by rfl)
        (fun _ => rfl) (Nat.le_refl _) nofun nofun
      exact exclusive_stays h.exclusive (inside_caller rfl rfl) (inside at_).symm rfl
  | looked n count at_ =>
      simp only [noteBaseline, at_]
      refine h.callerGoes (p := .deciding n count) at_ (by rfl) ?_ (by rfl) (by rfl)
        (fun _ => rfl) (seen (p := .counted n count) at_) nofun nofun
      exact exclusive_releases h.exclusive (inside_caller rfl rfl) (inside at_) rfl rfl
  | fail n count at_ ends =>
      simp only [noteBaseline, at_]
      refine h.callerGoes (p := .outside) at_ (by rfl) ?_ (by rfl) (by rfl) nofun (Nat.zero_le _) nofun nofun
      exact exclusive_stays h.exclusive (inside_caller rfl rfl) (inside at_).symm rfl
  | again n count at_ few =>
      simp only [noteBaseline, at_]
      refine h.callerGoes (p := .sleeping (n + 1)) at_ (by rfl) ?_ (by rfl) (by rfl)
        (fun _ => rfl) (Nat.zero_le _) nofun nofun
      exact exclusive_stays h.exclusive (inside_caller rfl rfl) (inside at_).symm rfl
  | enough n count at_ many =>
      simp only [noteBaseline, at_]
      refine h.callerGoes (p := .relocking) at_ (by rfl) ?_ (by rfl) (by rfl)
        (fun _ => rfl) (many.trans (seen at_)) nofun nofun
      exact exclusive_stays h.exclusive (inside_caller rfl rfl) (inside at_).symm rfl
  | relock at_ free =>
      simp only [noteBaseline, at_]
      refine h.callerGoes (p := .lowering) at_ (by rfl) ?_ (by rfl) (by rfl) (fun _ => rfl)
        (seen (p := .relocking) at_) nofun nofun
      exact exclusive_acquires h.exclusive (inside_caller rfl rfl) rfl free rfl
  | lower at_ =>
      simp only [noteBaseline, at_]
      refine h.callerGoes (p := .averaging) at_ (by rfl) ?_ (by rfl) (by rfl) (fun _ => rfl)
        (seen (p := .lowering) at_) nofun nofun
      exact exclusive_stays h.exclusive (inside_caller rfl rfl) (inside at_).symm rfl
  | average at_ =>
      simp only [noteBaseline, at_]
      refine h.callerGoes (p := .emptying (average s.baselineSamples)) at_ (by rfl) ?_ (by rfl) (by rfl)
        (fun _ => rfl) (seen (p := .averaging) at_) ?_ nofun
      · exact exclusive_stays h.exclusive (inside_caller rfl rfl) (inside at_).symm rfl
      · rintro baseline same
        cases same
        rfl
  | empty baseline at_ =>
      simp only [noteBaseline, at_]
      constructor
      case exclusive => exact exclusive_stays h.exclusive (inside_caller rfl rfl) (inside at_).symm rfl
      case bounded => exact Nat.zero_le _
      case collected => simp [State.move, CallerAt.collecting]
      case seen => simp [State.move, CallerAt.seen]
      case averaged => simp [State.move]
      case returning =>
        intro returned at_return
        obtain rfl : baseline = returned := by simpa [State.move] using at_return
        exact isBaseline_of_full h at_
      case inOrder => exact h.inOrder
      case packets => exact h.packets
      case carrying => exact h.carrying
      case results => exact h.results
  | finish baseline at_ =>
      simp only [noteBaseline, at_]
      have goes : BaselineInv (s.release () .outside, log) := by
        refine h.callerGoes (p := .outside) at_ (by rfl) ?_ (by rfl) (by rfl) nofun (Nat.zero_le _) nofun nofun
        exact exclusive_releases h.exclusive (inside_caller rfl rfl) (inside at_) rfl rfl
      refine { goes with results := ?_ }
      intro result among
      rcases List.mem_cons.mp among with rfl | before
      · exact h.returning baseline at_
      · exact h.results result before

theorem baselineInv_step {s s' : State Unit × BaselineLog} {a : Action Unit} (h : BaselineInv s)
    (hstep : observed step noteBaseline s a = some s') : BaselineInv s' := by
  obtain ⟨s, log⟩ := s
  obtain ⟨s', log'⟩ := s'
  obtain ⟨moves, rfl⟩ := observed_pair_eq_some.mp hstep
  cases step_cases moves with
  | byte d at_ => exact h.receives at_ d
  | refuse => exact h
  | enter t at_ connected =>
      refine h.callerGoes (p := .locking) at_ (by rfl) ?_ (by rfl) (by rfl) nofun (Nat.zero_le _) nofun nofun
      refine exclusive_stays h.exclusive (inside_caller rfl rfl) ?_ rfl
      exact (congrArg CallerAt.inside at_).symm
  | reader goes => exact h.reader_step goes
  | caller t goes => exact h.caller_step goes

/-- What `findBaseline` returns is the mean of a thousand samples of its own, whatever the reader is doing
and whatever an earlier attempt has left. -/
theorem findBaseline_exact (connected dataCallback : Bool) (memory : UsbPacket) {s : State Unit}
    {log : BaselineLog} {actions : List (Action Unit)}
    (hrun : run (observed step noteBaseline) (.init connected dataCallback memory, .init) actions =
      some (s, log)) : ∀ result ∈ log.results, IsBaseline result.1 result.2 :=
  (run_invariant (fun _ _ _ => baselineInv_step) hrun (baselineInv_init connected dataCallback memory)).results

def staticPacket : List UInt8 := [usbPacketStartByte, 0, usbCommandReadSensors, 3, 0x10, 0, 7]

def staticMemory : UsbPacket :=
  ⟨staticPacket ++ List.replicate (usbPacketMaxSize - staticPacket.length) 0, by
    rw [List.length_append, List.length_replicate]
    exact Nat.add_sub_of_le (by decide)⟩

def staticSample : Fingers := parseSensors staticMemory .init

def collecting (k : Nat) : State Unit where
  connected := true
  dataCallback := false
  receiver := ⟨staticMemory, 0⟩
  fingers := if k = 0 then .init else clearNew staticSample
  calculatingBaseline := true
  baselineSamples := List.replicate k staticSample
  baselineMutex := none
  reader := .receiving
  caller := fun _ => .sleeping 0

def storePacket : List (Action Unit) := staticPacket.map .byte ++ List.replicate 5 (.go .reader)

theorem collecting_parses (k : Nat) : parseSensors staticMemory (collecting k).fingers = staticSample := by
  have again : parseSensors staticMemory (clearNew staticSample) = staticSample := by decide +kernel
  cases k with
  | zero => rfl
  | succ k => exact again

theorem step_byte {s : State Unit} (idle : s.reader = .receiving) (d : UInt8) :
    step s (.byte d) = some (s.receive d) := by
  rw [step, idle]

theorem receive_buffered {s : State Unit} {d : UInt8} {next : Receiver}
    (reads : usbReadByte s.receiver d = (.buffered, next)) : s.receive d = { s with receiver := next } := by
  simp [State.receive, reads]

theorem run_buffered {s : State Unit} (idle : s.reader = .receiving)
    (receiver : s.receiver = ⟨staticMemory, 0⟩) {k : Nat} (few : k ≤ 6) :
    run step s ((staticPacket.take k).map .byte) = some { s with receiver := ⟨staticMemory, k⟩ } := by
  have buffers : ∀ k < 6, usbReadByte ⟨staticMemory, k⟩ (staticPacket.getD k 0) =
      (.buffered, ⟨staticMemory, k + 1⟩) := by decide +kernel
  induction k with
  | zero => exact congrArg some (by rw [← receiver])
  | succ k ih =>
      have next : staticPacket.take (k + 1) = staticPacket.take k ++ [staticPacket.getD k 0] := by
        rw [List.take_succ_eq_append_getElem (by exact few.trans (by decide)),
          List.getD_eq_getElem _ _ (by exact few.trans (by decide))]
      rw [next, List.map_append, run_append, ih (Nat.le_of_succ_le few), Option.bind_some, List.map_singleton,
        run_cons, step_byte (by exact idle), receive_buffered (buffers k few)]
      rfl

theorem run_staticPacket {s : State Unit} (idle : s.reader = .receiving)
    (receiver : s.receiver = ⟨staticMemory, 0⟩) (parses : parseSensors staticMemory s.fingers = staticSample) :
    run step s (staticPacket.map .byte) = some { s with fingers := staticSample, reader := .deciding } := by
  have completes : usbReadByte ⟨staticMemory, 6⟩ 7 = (.completed, ⟨staticMemory, 0⟩) := by decide +kernel
  have sensor : staticMemory.command ≠ usbCommandGetVersion ∧
      isSensorCommand staticMemory.command = true := by decide +kernel
  have brings : anyNew staticSample = true := by decide +kernel
  have last : staticPacket.map (Action.byte (θ := Unit)) =
      (staticPacket.take 6).map .byte ++ [.byte 7] := rfl
  rw [last, run_append, run_buffered idle receiver (Nat.le_refl 6), Option.bind_some, run_cons,
    step_byte (by exact idle), Option.bind_some, run_nil]
  simp [State.receive, completes, State.handle, sensor, parses, brings, receiver]

theorem collecting_stores {k : Nat} (room : k < maxSamples) :
    run step (collecting k) storePacket = some (collecting (k + 1)) := by
  rw [storePacket, run_append, run_staticPacket rfl rfl (collecting_parses k), Option.bind_some]
  have stored : store (List.replicate k staticSample) staticSample = List.replicate (k + 1) staticSample := by
    rw [store, if_pos (by rwa [List.length_replicate]), List.replicate_succ']
  simp only [List.replicate, run_cons, run_nil, step, goReader, collecting, Option.bind_some, stored,
    if_true, Option.isNone_none]
  simp

def thousandPackets : List (Action Unit) :=
  .findBaseline () :: List.replicate 4 (.go (.caller ())) ++
    (List.replicate 1000 storePacket).flatten ++ List.replicate 8 (.go (.caller ()))

theorem run_storePackets (n : Nat) {k : Nat} (room : k + n ≤ maxSamples) :
    run step (collecting k) (List.replicate n storePacket).flatten = some (collecting (k + n)) := by
  induction n generalizing k with
  | zero => rfl
  | succ n ih =>
      rw [List.replicate_succ, List.flatten_cons]
      have rest := ih (k := k + 1) (by omega)
      rw [Nat.add_right_comm] at rest
      exact run_trans (collecting_stores (by omega)) rest

theorem run_asks : run step (.init true false staticMemory)
    (.findBaseline () :: List.replicate 4 (.go (.caller ()))) = some (collecting 0) := by
  simp [List.replicate, step, goCaller, State.init, State.move, State.acquire, State.release, collecting,
    Function.update_eq_const_of_subsingleton]
  rfl

theorem run_averages {s : State Unit} (connected : s.connected = true) (free : s.baselineMutex = none)
    (full : s.baselineSamples.length = maxSamples) (sleeps : s.caller () = .sleeping 0) :
    run step s (List.replicate 8 (.go (.caller ()))) = some { s with
      calculatingBaseline := false
      baselineSamples := []
      baselineMutex := some (.caller ())
      caller := fun _ => .returning (average s.baselineSamples) } := by
  simp [List.replicate, step, goCaller, State.move, State.acquire, State.release, connected, free, full,
    sleeps, maxSamples, maxTimeout, Function.update_eq_const_of_subsingleton]
  rfl

theorem thousand_packets_averaged :
    ∃ s log result, run (observed step noteBaseline) (.init true false staticMemory, .init)
        (thousandPackets ++ [.go (.caller ())]) = some (s, log) ∧
      result ∈ log.results ∧ IsBaseline result.1 result.2 := by
  have stores := run_storePackets 1000 (k := 0) (Nat.le_refl _)
  have averages := run_averages (s := collecting 1000) rfl rfl List.length_replicate rfl
  obtain ⟨log, hrun⟩ := @exists_run_observed _ _ _ _ noteBaseline _ _ _
    (run_trans (run_trans run_asks stores) averages) .init
  have whole := run_trans hrun
    (run_cons_eq_some.mpr ⟨_, observed_pair_eq_some.mpr ⟨(by rfl : step _ (.go (.caller ())) = _), rfl⟩,
      run_nil _⟩)
  exact ⟨_, _, _, whole, List.mem_cons_self,
    findBaseline_exact true false staticMemory whole _ List.mem_cons_self⟩

end TactileSensors.Usb.Sdk
