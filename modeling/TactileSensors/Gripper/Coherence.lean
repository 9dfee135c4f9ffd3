import TactileSensors.Gripper.Host

/-!
# What the process image pairs

Whatever the interleaving, the image's record is the last exchange that was published: its count, its
time, the copy that was handed to the client for it, and the status it brought back.
-/

namespace TactileSensors.Gripper
open Machine

def ExchangePoint.unpublished? : ExchangePoint → Option (GripperCommand × GripperStatus × Int)
  | .stamped c status time | .cleared c status time | .turned c status time _ =>
      some (c, status, time)
  | _ => none

def ExchangePoint.copy? : ExchangePoint → Option GripperCommand
  | .onWire c _ | .returned c _ => some c
  | _ => none

namespace Host

def stampedExchange (n : Nat) (e : Exchange) : StampedExchange :=
  ⟨⟨n, e.completedAt⟩, e.command, e.status⟩

def recordOf (h : Host) : Nat → Option StampedExchange
  | 0 => some h.seed
  | n + 1 => h.completed[n]?.map (stampedExchange (n + 1))

def commands (h : Host) : List GripperCommand :=
  h.seed.command :: h.landed.map Landing.command

/-! ## The history only grows -/

structure Grows (h h' : Host) : Prop where
  seed : h'.seed = h.seed
  landed : h.landed <+: h'.landed
  handed : h.handed <+: h'.handed
  wire : h.wire <+: h'.wire
  completed : h.completed <+: h'.completed
  publishedAt : h.publishedAt <+: h'.publishedAt
  observed : h.observed <+: h'.observed
  exchangeCount : h.image.exchangeCount ≤ h'.image.exchangeCount
  now : h.now ≤ h'.now

theorem Grows.refl (h : Host) : Grows h h := by
  constructor <;> simp

theorem Grows.trans {h mid h' : Host} (h₁ : Grows h mid) (h₂ : Grows mid h') : Grows h h' where
  seed := h₂.seed.trans h₁.seed
  landed := h₁.landed.trans h₂.landed
  handed := h₁.handed.trans h₂.handed
  wire := h₁.wire.trans h₂.wire
  completed := h₁.completed.trans h₂.completed
  publishedAt := h₁.publishedAt.trans h₂.publishedAt
  observed := h₁.observed.trans h₂.observed
  exchangeCount := h₁.exchangeCount.trans h₂.exchangeCount
  now := Int.le_trans h₁.now h₂.now

theorem step_grows {h h' : Host} {a : HostAction} (hstep : h.step a = some h') : Grows h h' := by
  have later : ∀ ns : Nat, h.now ≤ h.now + ns := fun ns => by omega
  cases step_cases hstep <;> constructor <;> simp [later]

theorem run_grows {h h' : Host} {labels : List HostAction} (hrun : run step h labels = some h') :
    Grows h h' :=
  run_induction Grows.refl (fun _ _ _ _ grown hstep => grown.trans (step_grows hstep)) hrun

theorem getElem?_of_prefix {α : Type} {l l' : List α} (h : l <+: l') {n : Nat} {x : α}
    (hx : l[n]? = some x) : l'[n]? = some x := by
  obtain ⟨more, rfl⟩ := h
  obtain ⟨inside, -⟩ := List.getElem?_eq_some_iff.mp hx
  rwa [List.getElem?_append_left inside]

theorem Grows.commands {h h' : Host} (g : Grows h h') : h.commands <+: h'.commands := by
  rw [Host.commands, Host.commands, g.seed, List.prefix_cons_inj]
  exact g.landed.map _

theorem Grows.recordOf {h h' : Host} (g : Grows h h') {n : Nat} {r : StampedExchange}
    (hr : h.recordOf n = some r) : h'.recordOf n = some r := by
  cases n with
  | zero => rwa [Host.recordOf, g.seed]
  | succ n =>
      obtain ⟨e, he, rfl⟩ := Option.map_eq_some_iff.mp hr
      rw [Host.recordOf, getElem?_of_prefix g.completed he]
      rfl

/-! ## Counts -/

/-- Every completed exchange is counted, but for the one on its way to `publish`. -/
structure Counted (h : Host) : Prop where
  completed : h.completed.length = h.image.exchangeCount + h.point.unpublished?.toList.length
  unpublished : ∀ c status time, h.point.unpublished? = some (c, status, time) →
    ∃ cycle landed, h.completed[h.image.exchangeCount]? = some ⟨cycle, landed, c, status, time⟩
  publishedAt : h.publishedAt.length = h.image.exchangeCount

theorem Counted.step {h h' : Host} {a : HostAction} (inv : Counted h) (hstep : h.step a = some h') :
    Counted h' := by
  obtain ⟨completed, unpublished, publishedAt⟩ := inv
  cases step_cases hstep with
  | elapse ns | setCommand c | observe | close => exact ⟨completed, unpublished, publishedAt⟩
  | copy at_ | reply c status at_ | finish recovered at_ | count at_ | tolerate failures at_ few
  | degrade failures at_ many was | endure failures at_ many was | report at_
  | answer c status at_ | fail c answer at_ =>
      rw [at_] at completed
      exact ⟨completed, nofun, publishedAt⟩
  | stamp c status at_ =>
      simp only [at_, ExchangePoint.unpublished?, Option.toList_none, List.length_nil,
        Nat.add_zero] at completed
      refine ⟨?_, fun c' status' time' same => ?_, publishedAt⟩
      · simp [ExchangePoint.unpublished?, completed]
      · cases same
        exact ⟨h.cycle, h.copiedAfter, by simp [← completed]⟩
  | clear c status time at_ | turn c status time at_ =>
      rw [at_] at completed unpublished
      exact ⟨completed, unpublished, publishedAt⟩
  | publish c status time recovered at_ =>
      rw [at_] at completed
      exact ⟨completed, nofun, by simp [publishedAt]⟩

theorem Counted.length_eq {h : Host} (inv : Counted h) (copies : h.point.copy?.isSome) :
    h.completed.length = h.image.exchangeCount := by
  rw [inv.completed]
  cases hpoint : h.point <;> simp [hpoint, ExchangePoint.copy?, ExchangePoint.unpublished?] at copies ⊢

theorem Counted.length_le {h : Host} (inv : Counted h) :
    h.completed.length ≤ h.image.exchangeCount + 1 := by
  rw [inv.completed]
  cases h.point.unpublished? <;> simp

/-! ## Records -/

structure Recorded (h : Host) : Prop where
  current : h.recordOf h.image.exchangeCount = some h.image.stamped
  observed : ∀ r ∈ h.observed, r.metadata.exchangeCount ≤ h.image.exchangeCount ∧
    h.recordOf r.metadata.exchangeCount = some r

theorem Recorded.step {h h' : Host} {a : HostAction} (inv : Recorded h) (counted : Counted h)
    (hstep : h.step a = some h') : Recorded h' := by
  have grown := step_grows hstep
  have observed : ∀ r ∈ h.observed, r.metadata.exchangeCount ≤ h'.image.exchangeCount ∧
      h'.recordOf r.metadata.exchangeCount = some r :=
    fun r hr => (inv.observed r hr).imp (fun le => le.trans grown.exchangeCount) grown.recordOf
  cases step_cases hstep with
  | elapse ns | setCommand c | close | copy at_ | stamp c status at_ | reply c status at_
  | clear c status time at_ | turn c status time at_ | finish recovered at_ | count at_
  | degrade failures at_ many was | endure failures at_ many was | tolerate failures at_ few
  | report at_ | answer c status at_ | fail c answer at_ =>
      exact ⟨grown.recordOf inv.current, observed⟩
  | publish c status time recovered at_ =>
      obtain ⟨cycle, landed, completed⟩ := counted.unpublished c status time (by rw [at_]; rfl)
      refine ⟨?_, observed⟩
      simp only [recordOf, ProcessImage.publish_exchangeCount, completed]
      rfl
  | observe =>
      refine ⟨inv.current, fun r hr => ?_⟩
      rcases List.mem_append.mp hr with hr | hr
      · exact observed r hr
      · obtain rfl := List.mem_singleton.mp hr
        exact ⟨Nat.le_refl _, inv.current⟩

/-! ## Commands -/

structure Carried (h : Host) : Prop where
  current : h.commands.getLast? = some h.image.command
  handed : ∀ x ∈ h.handed, h.commands[x.landed]? = some x.command
  copied : ∀ c, h.point.copy? = some c → h.handed[h.cycle]? = some ⟨h.copiedAfter, c⟩
  completed : ∀ e ∈ h.completed, h.handed[e.cycle]? = some ⟨e.landed, e.command⟩

theorem Carried.step {h h' : Host} {a : HostAction} (inv : Carried h) (hstep : h.step a = some h') :
    Carried h' := by
  have grown := step_grows hstep
  have handed : ∀ x ∈ h.handed, h'.commands[x.landed]? = some x.command :=
    fun x hx => getElem?_of_prefix grown.commands (inv.handed x hx)
  have completed : ∀ e ∈ h.completed, h'.handed[e.cycle]? = some ⟨e.landed, e.command⟩ :=
    fun e he => getElem?_of_prefix grown.handed (inv.completed e he)
  cases step_cases hstep with
  | elapse ns | observe | close => exact ⟨inv.current, handed, inv.copied, completed⟩
  | setCommand c =>
      refine ⟨?_, handed, inv.copied, completed⟩
      rw [commands, List.map_append, ← List.cons_append]
      exact List.getLast?_concat
  | copy at_ =>
      have current : h.commands[h.landed.length]? = some h.image.command := by
        rw [← inv.current, List.getLast?_eq_getElem?]
        simp [commands]
      refine ⟨inv.current, fun x hx => ?_, fun c same => ?_, completed⟩
      · rcases List.mem_append.mp hx with hx | hx
        · exact handed x hx
        · obtain rfl := List.mem_singleton.mp hx
          exact current
      · cases same
        simp [copiedAfter, cycle]
  | answer c status at_ | reply c status at_ =>
      exact ⟨inv.current, handed, fun c' same => inv.copied c' (by rw [at_]; exact same), completed⟩
  | stamp c status at_ =>
      refine ⟨inv.current, handed, nofun, fun e he => ?_⟩
      rcases List.mem_append.mp he with he | he
      · exact completed e he
      · obtain rfl := List.mem_singleton.mp he
        exact inv.copied c (by rw [at_]; rfl)
  | publish c status time recovered at_ | clear c status time at_ | turn c status time at_
  | finish recovered at_ | count at_ | degrade failures at_ many was
  | endure failures at_ many was | tolerate failures at_ few | report at_ | fail c answer at_ =>
      exact ⟨inv.current, handed, nofun, completed⟩

/-! ## Times -/

def times (h : Host) : List Int :=
  h.seed.metadata.timestamp :: h.completed.map Exchange.completedAt

structure Timed (h : Host) : Prop where
  sorted : h.times.Pairwise (· ≤ ·)
  past : ∀ time ∈ h.times, time ≤ h.now

theorem Timed.step {h h' : Host} {a : HostAction} (inv : Timed h) (hstep : h.step a = some h') :
    Timed h' := by
  cases step_cases hstep with
  | elapse ns =>
      exact ⟨inv.sorted, fun time htime => Int.le_trans (inv.past time htime) (step_grows hstep).now⟩
  | stamp c status at_ =>
      have times : h.times ++ [h.now] = h.seed.metadata.timestamp ::
          (h.completed ++ [(⟨h.cycle, h.copiedAfter, c, status, h.now⟩ : Exchange)]).map
            Exchange.completedAt := by
        simp [Host.times]
      refine ⟨?_, fun time htime => ?_⟩
      · rw [Host.times, ← times, List.pairwise_append]
        refine ⟨inv.sorted, List.pairwise_singleton _ _, fun time htime time' htime' => ?_⟩
        obtain rfl := List.mem_singleton.mp htime'
        exact inv.past time htime
      · rw [Host.times, ← times, List.mem_append, List.mem_singleton] at htime
        rcases htime with htime | rfl
        · exact inv.past time htime
        · exact Int.le_refl _
  | setCommand c | observe | close | copy at_ | reply c status at_ | answer c status at_
  | publish c status time recovered at_ | clear c status time at_ | turn c status time at_
  | finish recovered at_ | count at_ | degrade failures at_ many was
  | endure failures at_ many was | tolerate failures at_ few | report at_ | fail c answer at_ =>
      exact ⟨inv.sorted, inv.past⟩

theorem recordOf_timestamp {h : Host} {n : Nat} {r : StampedExchange} (hr : h.recordOf n = some r) :
    h.times[n]? = some r.metadata.timestamp := by
  cases n with
  | zero =>
      cases hr
      rfl
  | succ n =>
      obtain ⟨e, he, rfl⟩ := Option.map_eq_some_iff.mp hr
      simp [times, he, stampedExchange]

/-! ## Which exchanges follow a command -/

/-- Of the exchanges that complete after a command has landed, all but the first have copied it or a
later one. -/
structure Follows (h : Host) : Prop where
  counted : ∀ l ∈ h.landed, l.exchangeCount ≤ h.image.exchangeCount
  completed : ∀ (j : Nat) (l : Landing), h.landed[j]? = some l →
    ∀ (i : Nat) (e : Exchange), l.exchangeCount < i → h.completed[i]? = some e → j < e.landed
  copied : ∀ (j : Nat) (l : Landing), h.landed[j]? = some l → h.point.copy?.isSome →
    l.exchangeCount < h.image.exchangeCount → j < h.copiedAfter

theorem getElem?_concat_cases {α : Type} {l : List α} {x y : α} {i : Nat}
    (h : (l ++ [x])[i]? = some y) : l[i]? = some y ∨ i = l.length ∧ y = x := by
  rw [List.getElem?_append] at h
  split at h
  · exact .inl h
  · have := (List.getElem?_eq_some_iff.mp h).1
    simp only [List.length_singleton] at this
    exact .inr ⟨by omega, List.mem_singleton.mp (List.mem_of_getElem? h)⟩

theorem Follows.step {h h' : Host} {a : HostAction} (inv : Follows h) (counted : Counted h)
    (hstep : h.step a = some h') : Follows h' := by
  have grown := step_grows hstep
  have landed : ∀ l ∈ h.landed, l.exchangeCount ≤ h'.image.exchangeCount :=
    fun l hl => (inv.counted l hl).trans grown.exchangeCount
  cases step_cases hstep with
  | elapse ns | observe | close => exact ⟨landed, inv.completed, inv.copied⟩
  | answer c status at_ | reply c status at_ =>
      exact ⟨landed, inv.completed, fun j l hl _ => inv.copied j l hl (by rw [at_]; rfl)⟩
  | publish c status time recovered at_ | clear c status time at_ | turn c status time at_
  | finish recovered at_ | count at_ | degrade failures at_ many was
  | endure failures at_ many was | tolerate failures at_ few | report at_ | fail c answer at_ =>
      exact ⟨landed, inv.completed, nofun⟩
  | copy at_ =>
      refine ⟨landed, inv.completed, fun j l hl _ _ => ?_⟩
      simpa [copiedAfter, cycle] using (List.getElem?_eq_some_iff.mp hl).1
  | stamp c status at_ =>
      refine ⟨landed, fun j l hl i e hi he => ?_, nofun⟩
      rcases getElem?_concat_cases he with he | ⟨rfl, rfl⟩
      · exact inv.completed j l hl i e hi he
      · have all := counted.length_eq (by rw [at_]; rfl)
        exact inv.copied j l hl (by rw [at_]; rfl) (all ▸ hi)
  | setCommand c =>
      refine ⟨fun l hl => ?_, fun j l hl i e hi he => ?_, fun j l hl copies hlt => ?_⟩
      · rcases List.mem_append.mp hl with hl | hl
        · exact landed l hl
        · rw [List.mem_singleton.mp hl]
          exact Nat.le_refl _
      · rcases getElem?_concat_cases hl with hl | ⟨-, rfl⟩
        · exact inv.completed j l hl i e hi he
        · have inside := (List.getElem?_eq_some_iff.mp he).1
          have := counted.length_le
          simp only at hi inside
          omega
      · rcases getElem?_concat_cases hl with hl | ⟨-, rfl⟩
        · exact inv.copied j l hl copies hlt
        · exact absurd hlt (Nat.lt_irrefl _)

/-! ## Every run -/

structure Coherent (h : Host) : Prop where
  counted : Counted h
  recorded : Recorded h
  carried : Carried h
  timed : Timed h
  follows : Follows h

theorem Coherent.step {h h' : Host} {a : HostAction} (inv : Coherent h) (hstep : h.step a = some h') :
    Coherent h' where
  counted := inv.counted.step hstep
  recorded := inv.recorded.step inv.counted hstep
  carried := inv.carried.step hstep
  timed := inv.timed.step hstep
  follows := inv.follows.step inv.counted hstep

theorem Coherent.run {h h' : Host} {labels : List HostAction} (inv : Coherent h)
    (hrun : Machine.run Host.step h labels = some h') : Coherent h' :=
  run_invariant (fun _ _ _ inv hstep => inv.step hstep) hrun inv

theorem initialized {answers : Nat → Except String GripperStatus} {time : Int} {s : GripperState}
    (ready : GripperState.constructed.initializeImage answers time = (.ok (), s)) :
    s.point = .idle ∧ s.connectionState = .operational ∧ s.consecutiveFailures = 0 ∧
      ∃ fresh, s.image = ProcessImage.empty.seed fresh time (GripperState.initialCommand fresh) := by
  rw [GripperState.initializeImage] at ready
  split at ready
  · cases ready
  · rename_i fresh log _
    obtain ⟨-, rfl⟩ := Prod.mk.inj ready
    exact ⟨rfl, rfl, rfl, fresh, rfl⟩

theorem Coherent.start {answers : Nat → Except String GripperStatus} {time : Int} {s : GripperState}
    (ready : GripperState.constructed.initializeImage answers time = (.ok (), s)) :
    Coherent (.start s time) := by
  obtain ⟨point, -, -, fresh, image⟩ := initialized ready
  constructor
  · constructor <;> simp [Host.start, point, image, ExchangePoint.unpublished?, ProcessImage.seed,
      ProcessImage.exchangeCount]
  · constructor <;> simp [Host.start, image, recordOf, ProcessImage.seed, ProcessImage.exchangeCount]
  · constructor <;> simp [Host.start, point, image, commands, ExchangePoint.copy?, ProcessImage.seed]
  · constructor <;> simp [Host.start, image, times, ProcessImage.seed]
  · constructor <;> simp [Host.start]

def failing (h : Host) : Bool :=
  match h.point with
  | .thrown | .counted _ | .reporting => true
  | _ => false

/-- What a step may do to the image: nothing, take a command, be closed, or count the one exchange
that is complete and not published yet. A failed exchange does nothing to it. -/
structure ImageStep (h : Host) (a : HostAction) (h' : Host) : Prop where
  changes : h'.image = h.image ∨ (∃ c, a = .setCommand c ∧ h'.image = h.image.setCommand c) ∨
    (a = .close ∧ h'.image = h.image.close) ∨
    ∃ c status time, a = .exchangeOnce ∧ h.point.unpublished? = some (c, status, time) ∧
      h'.image = h.image.publish c status time
  failed : a = .fail ∨ a = .exchangeOnce ∧ h.failing → h'.image = h.image

theorem step_image {h h' : Host} {a : HostAction} (hstep : h.step a = some h') :
    ImageStep h a h' := by
  cases step_cases hstep with
  | setCommand c => exact ⟨.inr (.inl ⟨c, rfl, rfl⟩), by simp⟩
  | close => exact ⟨.inr (.inr (.inl ⟨rfl, rfl⟩)), by simp⟩
  | publish c status time recovered at_ =>
      refine ⟨.inr (.inr (.inr ⟨c, status, time, rfl, by rw [at_]; rfl, rfl⟩)), ?_⟩
      simp [failing, at_]
  | elapse ns | observe | copy at_ | stamp c status at_ | reply c status at_
  | clear c status time at_ | turn c status time at_ | finish recovered at_ | count at_
  | degrade failures at_ many was | endure failures at_ many was | tolerate failures at_ few
  | report at_ | answer c status at_ | fail c answer at_ =>
      exact ⟨.inl rfl, fun _ => rfl⟩

/-- Whatever the interleaving: what was observed are records of completed exchanges, one for each
count, their times in order; the image counts the completed exchanges, but for one on its way; each
of them carried the copy handed to the client in its own cycle, and that was the command in effect. -/
theorem image_coherent {answers : Nat → Except String GripperStatus} {time : Int} {s : GripperState}
    (ready : GripperState.constructed.initializeImage answers time = (.ok (), s))
    {labels : List HostAction} {h : Host}
    (hrun : Machine.run Host.step (.start s time) labels = some h) :
    h.recordOf 0 = some s.image.stamped ∧
      (∀ r ∈ h.observed, h.recordOf r.metadata.exchangeCount = some r) ∧
      (∀ r ∈ h.observed, ∀ r' ∈ h.observed,
        r.metadata.exchangeCount = r'.metadata.exchangeCount → r = r') ∧
      (∀ r ∈ h.observed, ∀ r' ∈ h.observed,
        r.metadata.exchangeCount ≤ r'.metadata.exchangeCount →
          r.metadata.timestamp ≤ r'.metadata.timestamp) ∧
      h.completed.length = h.image.exchangeCount + h.point.unpublished?.toList.length ∧
      (∀ e ∈ h.completed, h.handed[e.cycle]? = some ⟨e.landed, e.command⟩) ∧
      (∀ x ∈ h.handed, h.commands[x.landed]? = some x.command) ∧
      ∀ a h', h.step a = some h' → ImageStep h a h' := by
  have coherent := (Coherent.start ready).run hrun
  have seed := (run_grows hrun).seed
  have recorded := fun r hr => (coherent.recorded.observed r hr).2
  refine ⟨congrArg some seed, recorded, fun r hr r' hr' same => ?_, fun r hr r' hr' le => ?_,
    coherent.counted.completed, coherent.carried.completed, coherent.carried.handed,
    fun a h' hstep => step_image hstep⟩
  · have first := recorded r hr
    rw [same, recorded r' hr'] at first
    exact (Option.some.inj first).symm
  · have first := recordOf_timestamp (recorded r hr)
    have second := recordOf_timestamp (recorded r' hr')
    rcases Nat.lt_or_eq_of_le le with lt | same
    · obtain ⟨inside, first⟩ := List.getElem?_eq_some_iff.mp first
      obtain ⟨inside', second⟩ := List.getElem?_eq_some_iff.mp second
      rw [← first, ← second]
      exact List.pairwise_iff_getElem.mp coherent.timed.sorted _ _ inside inside' lt
    · rw [same, second] at first
      exact Int.le_of_eq (Option.some.inj first).symm

theorem image_coherent_across_setCommand :
    let fresh : GripperStatus := .zero
    let other : GripperCommand := { GripperCommand.defaults with positionRequest := 7 }
    let s := (GripperState.constructed.initializeImage (fun _ => .ok fresh) 0).2
    let labels : List HostAction := [.observe, .exchangeOnce, .setCommand other, .answer fresh,
      .exchangeOnce, .exchangeOnce, .exchangeOnce, .exchangeOnce, .exchangeOnce, .observe]
    ∃ h, Machine.run Host.step (.start s 0) labels = some h ∧
      h.observed.length = 2 ∧ h.image.command = other ∧ h.image.stamped.command ≠ other ∧
      ∀ r ∈ h.observed, h.recordOf r.metadata.exchangeCount = some r := by
  intro fresh other s labels
  have ready : GripperState.constructed.initializeImage (fun _ => .ok fresh) 0 = (.ok (), s) := rfl
  obtain ⟨h, hrun, two, command, carried⟩ : ∃ h, Machine.run Host.step (.start s 0) labels = some h ∧
      h.observed.length = 2 ∧ h.image.command = other ∧ h.image.stamped.command ≠ other :=
    ⟨_, rfl, rfl, rfl, by decide +kernel⟩
  exact ⟨h, hrun, two, command, carried, (image_coherent ready hrun).2.1⟩

end Host
end TactileSensors.Gripper
