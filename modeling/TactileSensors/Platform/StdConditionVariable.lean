import TactileSensors.Machine.Lock
import TactileSensors.Machine.Observe
import TactileSensors.Platform.Waiting

/-!
# The condition variable of the hosted platform

`notifyAll` counts a generation and wakes who is blocked, both outside the lock. A wait that is woken for
nothing goes back to sleep on its own when the generation is the one it has loaded.
-/

namespace TactileSensors.Platform.Std
open Gripper Machine

/-! ## Threads -/

/-- Where a thread is: in front of the line that is named. The news that a job has brought are carried
for the statements. -/
inductive Point
  | idle
  -- `sync`
  | entering (count : Nat)
  | testing (count : Nat)
  -- `waitUntil`, with the underlying wait and what follows it there
  | loading (count : Nat)
  | comparing (count generation : Nat)
  | blocking (count generation : Nat)
  | blocked (count generation : Nat)
  | woken (count generation : Nat)
  -- `publish` or `close`
  | locking (job : Job)
  | changing (job : Job)
  | unlocking (news : News)
  -- `notifyAll`
  | bumping (news : News)
  | notifying (news : News)
deriving DecidableEq

namespace Point

def inside : Point → Bool
  | .testing _ | .loading _ | .comparing .. | .blocking .. | .changing _ | .unlocking _ => true
  | _ => false

def loaded : Point → Option (Nat × Nat)
  | .comparing count g | .blocking count g | .blocked count g | .woken count g => some (count, g)
  | _ => none

def news : Point → Option News
  | .unlocking news | .bumping news | .notifying news => some news
  | _ => none

def notified : Point → Point
  | .blocked count g => .woken count g
  | p => p

@[simp] theorem notified_inside (p : Point) : p.notified.inside = p.inside := by cases p <;> rfl

@[simp] theorem notified_loaded (p : Point) : p.notified.loaded = p.loaded := by cases p <;> rfl

@[simp] theorem notified_news (p : Point) : p.notified.news = p.news := by cases p <;> rfl

theorem notified_ne_blocked (p : Point) (count g : Nat) : p.notified ≠ .blocked count g := by
  cases p <;> simp [notified]

theorem eq_of_notified_loading {p : Point} {count : Nat} (h : p.notified = .loading count) :
    p = .loading count := by
  cases p <;> simp [notified] at h ⊢
  exact h

theorem eq_of_notified_notifying {p : Point} {news : News} (h : p.notified = .notifying news) :
    p = .notifying news := by
  cases p <;> simp [notified] at h ⊢
  exact h

end Point

/-- `generation` counts all bumps. The source compares it in 64 bits. -/
structure State (θ : Type*) where
  image : ProcessImage
  generation : Nat
  mutex : Option θ
  point : θ → Point

def State.init {θ : Type*} (image : ProcessImage) : State θ := ⟨image, 0, none, fun _ => .idle⟩

inductive Action (θ : Type*)
  | sync (t : θ) (count : Nat)
  | start (t : θ) (job : Job)
  /-- The thread goes on from where it is. -/
  | go (t : θ)
  /-- The underlying wait returns by itself. -/
  | spurious (t : θ)
deriving DecidableEq

variable {θ : Type*} [DecidableEq θ]

def State.move (s : State θ) (t : θ) (p : Point) : State θ :=
  { s with point := Function.update s.point t p }

def State.acquire (s : State θ) (t : θ) (p : Point) : Option (State θ) :=
  if s.mutex = none then some { s.move t p with mutex := some t } else none

def State.release (s : State θ) (t : θ) (p : Point) : State θ := { s.move t p with mutex := none }

def go (s : State θ) (t : θ) : Option (State θ) :=
  match s.point t with
  | .idle | .blocked .. => none
  | .entering count => s.acquire t (.testing count)
  | .testing count => some (if Waits s.image count then s.move t (.loading count) else s.release t .idle)
  | .loading count => some (s.move t (.comparing count s.generation))
  | .comparing count g =>
      some (s.move t (if UInt64.ofNat s.generation = .ofNat g then .blocking count g else .testing count))
  | .blocking count g => some (s.release t (.blocked count g))
  | .woken count g => s.acquire t (.comparing count g)
  | .locking job => s.acquire t (.changing job)
  | .changing job =>
      let after := job.change s.image
      some { s.move t (.unlocking (job.news after)) with image := after }
  | .unlocking news => some (s.release t (.bumping news))
  | .bumping news => some { s.move t (.notifying news) with generation := s.generation + 1 }
  | .notifying _ =>
      some { s with point := Function.update (fun u => (s.point u).notified) t .idle }

def step (s : State θ) : Action θ → Option (State θ)
  | .sync t count => if s.point t = .idle then some (s.move t (.entering count)) else none
  | .start t job => if s.point t = .idle then some (s.move t (.locking job)) else none
  | .go t => go s t
  | .spurious t =>
      match s.point t with
      | .blocked count g => some (s.move t (.woken count g))
      | _ => none

/-! ## What a step can do -/

inductive Steps (s : State θ) : Action θ → State θ → Prop
  | sync (t : θ) (count : Nat) (idle : s.point t = .idle) :
      Steps s (.sync t count) (s.move t (.entering count))
  | start (t : θ) (job : Job) (idle : s.point t = .idle) : Steps s (.start t job) (s.move t (.locking job))
  | enter (t : θ) (count : Nat) (at_ : s.point t = .entering count) (free : s.mutex = none) :
      Steps s (.go t) { s.move t (.testing count) with mutex := some t }
  | waits (t : θ) (count : Nat) (at_ : s.point t = .testing count) (waits : Waits s.image count) :
      Steps s (.go t) (s.move t (.loading count))
  | returns (t : θ) (count : Nat) (at_ : s.point t = .testing count)
      (satisfied : ¬ Waits s.image count) :
      Steps s (.go t) (s.release t .idle)
  | load (t : θ) (count : Nat) (at_ : s.point t = .loading count) :
      Steps s (.go t) (s.move t (.comparing count s.generation))
  | again (t : θ) (count g : Nat) (at_ : s.point t = .comparing count g)
      (same : UInt64.ofNat s.generation = .ofNat g) :
      Steps s (.go t) (s.move t (.blocking count g))
  | leave (t : θ) (count g : Nat) (at_ : s.point t = .comparing count g)
      (moved : UInt64.ofNat s.generation ≠ .ofNat g) :
      Steps s (.go t) (s.move t (.testing count))
  | block (t : θ) (count g : Nat) (at_ : s.point t = .blocking count g) :
      Steps s (.go t) (s.release t (.blocked count g))
  | relock (t : θ) (count g : Nat) (at_ : s.point t = .woken count g) (free : s.mutex = none) :
      Steps s (.go t) { s.move t (.comparing count g) with mutex := some t }
  | lock (t : θ) (job : Job) (at_ : s.point t = .locking job) (free : s.mutex = none) :
      Steps s (.go t) { s.move t (.changing job) with mutex := some t }
  | change (t : θ) (job : Job) (at_ : s.point t = .changing job) :
      Steps s (.go t) { s.move t (.unlocking (job.news (job.change s.image))) with
        image := job.change s.image }
  | unlock (t : θ) (news : News) (at_ : s.point t = .unlocking news) :
      Steps s (.go t) (s.release t (.bumping news))
  | bump (t : θ) (news : News) (at_ : s.point t = .bumping news) :
      Steps s (.go t) { s.move t (.notifying news) with generation := s.generation + 1 }
  | notify (t : θ) (news : News) (at_ : s.point t = .notifying news) :
      Steps s (.go t) { s with point := Function.update (fun u => (s.point u).notified) t .idle }
  | spurious (t : θ) (count g : Nat) (at_ : s.point t = .blocked count g) :
      Steps s (.spurious t) (s.move t (.woken count g))

theorem acquire_eq_some {s s' : State θ} {t : θ} {p : Point} (h : s.acquire t p = some s') :
    s.mutex = none ∧ s' = { s.move t p with mutex := some t } := by
  rw [State.acquire, Option.ite_none_right_eq_some] at h
  exact ⟨h.1, (Option.some.inj h.2).symm⟩

theorem go_cases {s s' : State θ} {t : θ} (h : go s t = some s') : Steps s (.go t) s' := by
  rw [go] at h
  split at h
  · cases h
  · cases h
  · rename_i count at_
    obtain ⟨free, rfl⟩ := acquire_eq_some h
    exact .enter t count at_ free
  · rename_i count at_
    cases h
    split
    · rename_i waits
      exact .waits t count at_ waits
    · rename_i satisfied
      exact .returns t count at_ satisfied
  · rename_i count at_
    cases h
    exact .load t count at_
  · rename_i count g at_
    cases h
    split
    · rename_i same
      exact .again t count g at_ same
    · rename_i moved
      exact .leave t count g at_ moved
  · rename_i count g at_
    cases h
    exact .block t count g at_
  · rename_i count g at_
    obtain ⟨free, rfl⟩ := acquire_eq_some h
    exact .relock t count g at_ free
  · rename_i job at_
    obtain ⟨free, rfl⟩ := acquire_eq_some h
    exact .lock t job at_ free
  · rename_i job at_
    cases h
    exact .change t job at_
  · rename_i news at_
    cases h
    exact .unlock t news at_
  · rename_i news at_
    cases h
    exact .bump t news at_
  · rename_i news at_
    cases h
    exact .notify t news at_

theorem step_cases {s s' : State θ} {a : Action θ} (h : step s a = some s') : Steps s a s' := by
  cases a with
  | sync t count =>
      obtain ⟨idle, same⟩ := Option.ite_none_right_eq_some.mp h
      cases same
      exact .sync t count idle
  | start t job =>
      obtain ⟨idle, same⟩ := Option.ite_none_right_eq_some.mp h
      cases same
      exact .start t job idle
  | go t => exact go_cases h
  | spurious t =>
      rw [step] at h
      split at h
      · rename_i count g at_
        cases h
        exact .spurious t count g at_
      · cases h

/-! ## Notifications that a waiter misses -/

structure WaitLog (θ : Type*) where
  /-- What the jobs brought whose `notifyAll` has finished. -/
  finished : List News
  /-- A `notifyAll` that satisfies the thread has finished since it loaded the generation, or compared
  it last and found it unmoved. -/
  missed : θ → Bool

def WaitLog.init : WaitLog θ := ⟨[], fun _ => false⟩

def noteWaits (s : State θ) (a : Action θ) (_ : State θ) (log : WaitLog θ) : WaitLog θ :=
  match a with
  | .go t =>
      match s.point t with
      | .loading _ => { log with missed := Function.update log.missed t false }
      | .comparing _ g =>
          if g = s.generation then { log with missed := Function.update log.missed t false } else log
      | .notifying news =>
          { finished := news :: log.finished
            missed := fun u => log.missed u || (s.point u).loaded.any fun x => news.satisfies x.1 }
      | _ => log
  | _ => log

/-- No thread is blocked that a finished notification satisfies. -/
def NoneLost (s : State θ × WaitLog θ) : Prop :=
  ∀ t count g, s.1.point t = .blocked count g → ∀ news ∈ s.2.finished, news.satisfies count = false

/-- No thread goes to sleep on a notification that it missed. -/
def SleepsInTime (s : State θ × WaitLog θ) (a : Action θ) : Prop :=
  ∀ t count g, a = .go t → s.1.point t = .blocking count g → s.2.missed t = false

/-! ## The invariant -/

def Brought (s : State θ × WaitLog θ) (news : News) : Prop :=
  news ∈ s.2.finished ∨ ∃ t, (s.1.point t).news = some news

def Counted (s : State θ × WaitLog θ) (news : News) : Prop :=
  news ∈ s.2.finished ∨ ∃ t, s.1.point t = .notifying news

omit [DecidableEq θ] in
theorem Counted.brought {s : State θ × WaitLog θ} {news : News} (h : Counted s news) :
    Brought s news :=
  h.imp_right fun ⟨t, at_⟩ => ⟨t, by rw [at_]; rfl⟩

structure WaitInv (s : State θ × WaitLog θ) : Prop where
  exclusive : Exclusive Point.inside s.1.point s.1.mutex
  brought : ∀ news, Brought s news → ∀ count, Waits s.1.image count → news.satisfies count = false
  tested : ∀ t count, s.1.point t = .loading count → Waits s.1.image count
  loaded : ∀ t count g, (s.1.point t).loaded = some (count, g) → g ≤ s.1.generation
  counted : ∀ t count g, (s.1.point t).loaded = some (count, g) →
    ∀ news, Counted s news → news.satisfies count → g < s.1.generation
  missed : ∀ t count g, (s.1.point t).loaded = some (count, g) →
    (s.2.missed t = true ↔ ∃ news ∈ s.2.finished, news.satisfies count)
  noneLost : NoneLost s

omit [DecidableEq θ] in
theorem waitInv_init (image : ProcessImage) : WaitInv ((State.init image : State θ), .init) where
  exclusive t := by simp [State.init, Point.inside]
  brought news h := by simp [Brought, State.init, WaitLog.init, Point.news] at h
  tested t count at_ := by simp [State.init] at at_
  loaded t count g at_ := by simp [State.init, Point.loaded] at at_
  counted t count g at_ := by simp [State.init, Point.loaded] at at_
  missed t count g at_ := by simp [State.init, Point.loaded] at at_
  noneLost t count g at_ := by simp [State.init] at at_

theorem WaitInv.goOn {s s' : State θ} {log : WaitLog θ} (h : WaitInv (s, log)) {t : θ} {p : Point}
    (point : s'.point = Function.update s.point t p)
    (exclusive : Exclusive Point.inside s'.point s'.mutex)
    (ended : ∀ count, Waits s'.image count → Waits s.image count)
    (later : s.generation ≤ s'.generation)
    (loaded : ∀ count g, p.loaded = some (count, g) → (s.point t).loaded = some (count, g) ∨
      g = s.generation ∧ Waits s.image count ∧ log.missed t = false)
    (news : ∀ n, p.news = some n → (s.point t).news = some n ∨
      ∀ count, Waits s'.image count → n.satisfies count = false)
    (bumped : ∀ n, p = .notifying n → s.generation < s'.generation)
    (tested : ∀ u count, s'.point u = .loading count → Waits s'.image count)
    (inTime : ∀ count g, p = .blocked count g → ∀ n ∈ log.finished, n.satisfies count = false) :
    WaitInv (s', log) := by
  have before {u : θ} {count g : Nat} (at_ : (s'.point u).loaded = some (count, g)) :
      (s.point u).loaded = some (count, g) ∨
        g = s.generation ∧ Waits s.image count ∧ log.missed u = false := by
    rw [point] at at_
    rcases update_cases Point.loaded at_ with ⟨rfl, now⟩ | before
    · exact loaded count g now
    · exact .inl before
  constructor
  case exclusive => exact exclusive
  case brought =>
    rintro n (done | ⟨u, brings⟩) count waits
    · exact h.brought n (.inl done) count (ended count waits)
    · simp only [point] at brings
      rcases update_cases Point.news brings with ⟨rfl, now⟩ | before
      · rcases news n now with before | inImage
        · exact h.brought n (.inr ⟨u, before⟩) count (ended count waits)
        · exact inImage count waits
      · exact h.brought n (.inr ⟨u, before⟩) count (ended count waits)
  case tested => exact tested
  case loaded =>
    intro u count g at_
    rcases before at_ with old | ⟨rfl, -, -⟩
    · exact (h.loaded u count g old).trans later
    · exact later
  case counted =>
    intro u count g at_ n was satisfied
    -- a generation counted in this step is later than every one that was loaded
    have counted : Counted (s, log) n ∨ s.generation < s'.generation := by
      rcases was with done | ⟨v, notifies⟩
      · exact .inl (.inl done)
      · simp only [point] at notifies
        rcases update_cases id notifies with ⟨rfl, now⟩ | notified
        · exact .inr (bumped n now)
        · exact .inl (.inr ⟨v, notified⟩)
    rcases before at_ with old | ⟨rfl, waits, -⟩
    · rcases counted with counted | bumped
      · exact (h.counted u count g old n counted satisfied).trans_le later
      · exact (h.loaded u count g old).trans_lt bumped
    · rcases counted with counted | bumped
      · rw [h.brought n counted.brought count waits] at satisfied
        cases satisfied
      · exact bumped
  case missed =>
    intro u count g at_
    rcases before at_ with old | ⟨-, waits, unmissed⟩
    · exact h.missed u count g old
    · simp only [unmissed, Bool.false_eq_true, false_iff, not_exists, not_and, Bool.not_eq_true]
      exact fun n done => h.brought n (.inl done) count waits
  case noneLost =>
    intro u count g at_
    simp only [point] at at_
    rcases update_cases id at_ with ⟨rfl, now⟩ | old
    · exact inTime count g now
    · exact h.noneLost u count g old

theorem WaitInv.move {s : State θ} {log : WaitLog θ} (h : WaitInv (s, log)) {t : θ} {p : Point}
    {mutex : Option θ} (exclusive : Exclusive Point.inside (Function.update s.point t p) mutex)
    (loaded : ∀ x, p.loaded = some x → (s.point t).loaded = some x)
    (news : ∀ n, p.news = some n → (s.point t).news = some n)
    (notifying : ∀ n, p ≠ .notifying n)
    (tested : ∀ count, p = .loading count → Waits s.image count)
    (inTime : ∀ count g, p = .blocked count g → ∀ n ∈ log.finished, n.satisfies count = false) :
    WaitInv ({ s.move t p with mutex := mutex }, log) := by
  refine h.goOn rfl exclusive (fun _ => id) (Nat.le_refl _) (fun count g now => .inl (loaded _ now))
    (fun n now => .inl (news n now)) (fun n now => absurd now (notifying n)) ?_ inTime
  intro u count at_
  rcases update_cases id at_ with ⟨rfl, now⟩ | before
  · exact tested count now
  · exact h.tested u count before

theorem WaitInv.forget {s : State θ} {log : WaitLog θ} (h : WaitInv (s, log)) {t : θ}
    (unsatisfied : ∀ count g, (s.point t).loaded = some (count, g) →
      ∀ news ∈ log.finished, news.satisfies count = false) :
    WaitInv (s, { log with missed := Function.update log.missed t false }) := by
  refine ⟨h.exclusive, h.brought, h.tested, h.loaded, h.counted, fun u count g at_ => ?_, h.noneLost⟩
  by_cases hu : u = t
  · subst hu
    simpa using unsatisfied count g at_
  · simpa [hu] using h.missed u count g at_

theorem WaitInv.load {s : State θ} {log : WaitLog θ} (h : WaitInv (s, log)) {t : θ} {count : Nat}
    (at_ : s.point t = .loading count) (unmissed : log.missed t = false) :
    WaitInv (s.move t (.comparing count s.generation), log) := by
  refine h.goOn rfl (h.exclusive.stay (by rw [at_]; rfl)) (fun _ => id) (Nat.le_refl _) ?_ nofun nofun ?_
    nofun
  · rintro count' g ⟨⟩
    exact .inr ⟨rfl, h.tested t count at_, unmissed⟩
  · intro u count' at'
    rcases update_cases id at' with ⟨rfl, ⟨⟩⟩ | before
    exact h.tested u count' before

theorem WaitInv.change {s : State θ} {log : WaitLog θ} (h : WaitInv (s, log)) {t : θ} {job : Job}
    (at_ : s.point t = .changing job) :
    WaitInv ({ s.move t (.unlocking (job.news (job.change s.image))) with
      image := job.change s.image }, log) := by
  refine h.goOn rfl (h.exclusive.stay (by rw [at_]; rfl)) (fun _ waits => waits.of_change)
    (Nat.le_refl _) nofun ?_ nofun ?_ nofun
  · rintro n ⟨⟩
    exact .inr fun _ waits => waits.not_satisfied
  · intro u count at'
    rcases update_cases id at' with ⟨rfl, ⟨⟩⟩ | loading
    have same : u = t :=
      h.exclusive.alone (by rw [show s.point u = .loading count from loading]; rfl) (by rw [at_]; rfl)
    subst same
    cases at_.symm.trans loading

theorem WaitInv.bump {s : State θ} {log : WaitLog θ} (h : WaitInv (s, log)) {t : θ} {news : News}
    (at_ : s.point t = .bumping news) :
    WaitInv ({ s.move t (.notifying news) with generation := s.generation + 1 }, log) := by
  refine h.goOn rfl (h.exclusive.stay (by rw [at_]; rfl)) (fun _ => id) (Nat.le_succ _) nofun ?_
    (fun _ _ => Nat.lt_succ_self _) ?_ nofun
  · rintro n ⟨⟩
    exact .inl (by rw [at_]; rfl)
  · intro u count at'
    rcases update_cases id at' with ⟨rfl, ⟨⟩⟩ | before
    exact h.tested u count before

omit [DecidableEq θ] in
theorem WaitInv.wake {s : State θ} {log : WaitLog θ} (h : WaitInv (s, log)) {news : News}
    (counted : Counted (s, log) news) :
    WaitInv ({ s with point := fun u => (s.point u).notified },
      { finished := news :: log.finished
        missed := fun u => log.missed u || (s.point u).loaded.any fun x => news.satisfies x.1 }) := by
  have finished {n : News} (done : n ∈ news :: log.finished) : Counted (s, log) n := by
    rcases List.mem_cons.mp done with rfl | done
    · exact counted
    · exact .inl done
  constructor
  case exclusive => exact h.exclusive.map fun u => Point.notified_inside _
  case brought =>
    rintro n (done | ⟨u, brings⟩) count waits
    · exact h.brought n (finished done).brought count waits
    · exact h.brought n (.inr ⟨u, by simpa using brings⟩) count waits
  case tested => exact fun u count loading => h.tested u count (Point.eq_of_notified_loading loading)
  case loaded => exact fun u count g loaded => h.loaded u count g (by simpa using loaded)
  case counted =>
    rintro u count g loaded n (done | ⟨v, notifies⟩) satisfied
    · exact h.counted u count g (by simpa using loaded) n (finished done) satisfied
    · exact h.counted u count g (by simpa using loaded) n
        (.inr ⟨v, Point.eq_of_notified_notifying notifies⟩) satisfied
  case missed =>
    intro u count g loaded
    have before : (s.point u).loaded = some (count, g) := by simpa using loaded
    simp [before, h.missed u count g before, or_comm]
  case noneLost => exact fun u count g blocked => absurd blocked (Point.notified_ne_blocked _ count g)

theorem WaitInv.notify {s : State θ} {log : WaitLog θ} (h : WaitInv (s, log)) {t : θ} {news : News}
    (at_ : s.point t = .notifying news) :
    WaitInv ({ s with point := Function.update (fun u => (s.point u).notified) t .idle },
      { finished := news :: log.finished
        missed := fun u => log.missed u || (s.point u).loaded.any fun x => news.satisfies x.1 }) := by
  have woken := h.wake (.inr ⟨t, at_⟩)
  have outside : Exclusive Point.inside (Function.update (fun u => (s.point u).notified) t .idle) s.mutex :=
    woken.exclusive.stay (by rw [Point.notified_inside, at_]; rfl)
  exact woken.move outside nofun nofun nofun nofun nofun

theorem waitInv_step {s s' : State θ × WaitLog θ} {a : Action θ} (h : WaitInv s)
    (inTime : SleepsInTime s a) (hstep : observed step noteWaits s a = some s') : WaitInv s' := by
  obtain ⟨s, log⟩ := s
  obtain ⟨s', log'⟩ := s'
  obtain ⟨hs, rfl⟩ := observed_pair_eq_some.mp hstep
  cases step_cases hs with
  | sync t count idle => exact h.move (h.exclusive.stay (by rw [idle]; rfl)) nofun nofun nofun nofun nofun
  | start t job idle => exact h.move (h.exclusive.stay (by rw [idle]; rfl)) nofun nofun nofun nofun nofun
  | enter t count at_ free =>
      simp only [noteWaits, at_]
      exact h.move ((free ▸ h.exclusive).acquire rfl) nofun nofun nofun nofun nofun
  | waits t count at_ waits =>
      simp only [noteWaits, at_]
      refine h.move (h.exclusive.stay (by rw [at_]; rfl)) nofun nofun nofun ?_ nofun
      rintro count' ⟨⟩
      exact waits
  | returns t count at_ =>
      simp only [noteWaits, at_]
      exact h.move (h.exclusive.release (by rw [at_]; rfl) rfl) nofun nofun nofun nofun nofun
  | load t count at_ =>
      simp only [noteWaits, at_]
      exact (h.forget (by simp [at_, Point.loaded])).load at_ (by simp)
  | again t count g at_ =>
      have loaded : (s.point t).loaded = some (count, g) := by rw [at_]; rfl
      have goes (log : WaitLog θ) (h : WaitInv (s, log)) :
          WaitInv (s.move t (.blocking count g), log) :=
        h.move (h.exclusive.stay (by rw [at_]; rfl)) (fun _ same => loaded.trans same) nofun nofun nofun
          nofun
      simp only [noteWaits, at_]
      split
      · rename_i unmoved
        refine goes _ (h.forget fun count' g' loaded' news done => ?_)
        by_contra satisfied
        have later : g' < s.generation :=
          h.counted t count' g' loaded' news (.inl done) (by simpa using satisfied)
        cases loaded.symm.trans loaded'
        exact absurd unmoved later.ne
      · exact goes log h
  | leave t count g at_ =>
      have forgotten : WaitInv (s, noteWaits s (.go t) (s.move t (.testing count)) log) := by
        simp only [noteWaits, at_]
        split
        · rename_i moved unmoved
          exact absurd (by rw [unmoved]) moved
        · exact h
      exact forgotten.move (forgotten.exclusive.stay (by rw [at_]; rfl)) nofun nofun nofun nofun nofun
  | block t count g at_ =>
      have loaded : (s.point t).loaded = some (count, g) := by rw [at_]; rfl
      simp only [noteWaits, at_]
      refine h.move (h.exclusive.release (by rw [at_]; rfl) rfl) (fun _ same => loaded.trans same) nofun
        nofun nofun ?_
      rintro count' g' ⟨⟩ news done
      have unmissed : log.missed t = false := inTime t count g rfl at_
      have none := (h.missed t count g loaded).not.mp (by simp [unmissed])
      simpa using fun satisfied => none ⟨news, done, satisfied⟩
  | relock t count g at_ free =>
      have loaded : (s.point t).loaded = some (count, g) := by rw [at_]; rfl
      simp only [noteWaits, at_]
      exact h.move ((free ▸ h.exclusive).acquire rfl) (fun _ same => loaded.trans same) nofun nofun nofun
        nofun
  | lock t job at_ free =>
      simp only [noteWaits, at_]
      exact h.move ((free ▸ h.exclusive).acquire rfl) nofun nofun nofun nofun nofun
  | change t job at_ =>
      simp only [noteWaits, at_]
      exact h.change at_
  | unlock t news at_ =>
      simp only [noteWaits, at_]
      refine h.move (h.exclusive.release (by rw [at_]; rfl) rfl) nofun ?_ nofun nofun nofun
      exact fun n same => by rw [at_]; exact same
  | bump t news at_ =>
      simp only [noteWaits, at_]
      exact h.bump at_
  | notify t news at_ =>
      simp only [noteWaits, at_]
      exact h.notify at_
  | spurious t count g at_ =>
      have loaded : (s.point t).loaded = some (count, g) := by rw [at_]; rfl
      exact h.move (h.exclusive.stay (by rw [at_]; rfl)) (fun _ same => loaded.trans same) nofun nofun
        nofun nofun

theorem sleeps_late {s s' : State θ × WaitLog θ} {a : Action θ} (h : WaitInv s)
    (late : ¬ SleepsInTime s a) (hstep : observed step noteWaits s a = some s') : ¬ NoneLost s' := by
  obtain ⟨s, log⟩ := s
  obtain ⟨s', log'⟩ := s'
  simp only [SleepsInTime, not_forall] at late
  obtain ⟨t, count, g, rfl, at_, missed⟩ := late
  obtain ⟨news, done, satisfied⟩ : ∃ news ∈ log.finished, news.satisfies count = true :=
    (h.missed t count g (by rw [at_]; rfl)).mp (by simpa using missed)
  obtain ⟨hs, rfl⟩ := observed_pair_eq_some.mp hstep
  simp only [step, go, at_, Option.some.injEq] at hs
  subst hs
  intro noneLost
  have unsatisfied := noneLost t count g (by simp [State.release, State.move]) news
    (by simpa only [noteWaits, at_] using done)
  rw [satisfied] at unsatisfied
  cases unsatisfied

/-- In every run, nobody is ever left blocked by a notification that satisfies it, exactly if nobody goes
to sleep on a notification that has finished since it compared the generations. -/
theorem none_lost_iff (image : ProcessImage) (actions : List (Action θ)) (s : State θ)
    (hrun : run step (.init image) actions = some s) :
    Throughout (observed step noteWaits) NoneLost (.init image, .init) actions ↔
      StepsMeet (observed step noteWaits) SleepsInTime (.init image, .init) actions := by
  obtain ⟨log, hobserved⟩ := exists_run_observed hrun WaitLog.init
  exact throughout_iff_stepsMeet (fun _ inv => inv.noneLost) (fun _ _ _ => waitInv_step)
    (fun _ _ _ => sleeps_late) hobserved (waitInv_init image)

/-- A thread waits for the first exchange and is woken for nothing, while another one has changed the
image. -/
def wokenForNothing (job : Job) : List (Action Bool) :=
  [.sync false 0, .go false, .go false, .go false, .go false, .go false, .spurious false, .start true job,
    .go true, .go true, .go true]

/-- The woken thread finds the old generation, and is notified before it is back to sleep. -/
theorem notification_lost_to_spurious_wakeup :
    ¬ ∀ actions : List (Action Bool),
      Throughout (observed step noteWaits) NoneLost (.init .empty, .init) actions := by
  let actions := wokenForNothing .close ++ [.go false, .go false, .go true, .go true, .go false]
  let left (s : State Bool × WaitLog Bool) := (s.1.point false, s.2.finished)
  have ends : (run (observed step noteWaits) (.init .empty, .init) actions).map left =
      some (.blocked 0 0, [.closed]) := by decide
  obtain ⟨s, hrun, atLast⟩ := Option.map_eq_some_iff.mp ends
  obtain ⟨blocked, finished⟩ := Prod.mk.inj atLast
  intro noneLost
  have unsatisfied := (noneLost actions).last hrun false 0 0 blocked .closed (by simp [finished])
  cases unsatisfied

theorem spurious_wakeup_harmless :
    ∃ s log, run (observed step noteWaits) (.init .empty, .init)
        (wokenForNothing .close ++ [.go true, .go false, .go false, .go true, .go false]) =
          some (s, log) ∧
      s.point false = .idle ∧ log.finished = [.closed] ∧
      (Throughout (observed step noteWaits) NoneLost (.init .empty, .init)
          (wokenForNothing .close ++ [.go true, .go false, .go false, .go true, .go false]) ↔
        StepsMeet (observed step noteWaits) SleepsInTime (.init .empty, .init)
          (wokenForNothing .close ++ [.go true, .go false, .go false, .go true, .go false])) :=
  ⟨_, _, rfl, by decide, by decide, none_lost_iff .empty _ _ rfl⟩

end TactileSensors.Platform.Std
