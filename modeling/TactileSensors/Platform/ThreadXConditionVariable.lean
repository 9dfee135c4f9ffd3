import Mathlib.Data.Fintype.Powerset
import TactileSensors.Machine.Observe
import TactileSensors.Machine.Tokens
import TactileSensors.Platform.Waiting

/-!
# The condition variable of the ThreadX port

A counting semaphore and a count of waiters. A notification is one token for each waiter that is counted,
and the tokens do not say whom they are for.
-/

namespace TactileSensors.Platform.ThreadX
open Gripper Machine

/-! ## Threads -/

inductive Point
  | idle
  -- `sync`
  | entering (count : Nat)
  | testing (count : Nat)
  -- `waitUntil`
  | registering (count : Nat)
  | unlocking (count : Nat)
  | getting (count : Nat)
  | suspended (count : Nat)
  | unregistering (count : Nat)
  | relocking (count : Nat)
  -- `publish` or `close`
  | locking (job : Job)
  | changing (job : Job)
  | releasing
  -- `notifyAll`
  | reading
  | putting (pending : Nat)
deriving DecidableEq

namespace Point

def registered : Point → Bool
  | .unlocking _ | .getting _ | .suspended _ | .unregistering _ => true
  | _ => false

def waiting : Point → Bool
  | .unlocking _ | .getting _ | .suspended _ => true
  | _ => false

def gets : Point → Bool
  | .getting _ => true
  | _ => false

def outstanding : Point → Nat
  | .putting pending => pending
  | _ => 0

@[simp] theorem putting_outstanding (pending : Nat) : (putting pending).outstanding = pending := rfl

end Point

/-- `suspended` are the threads that the semaphore holds. -/
structure State (θ : Type*) where
  image : ProcessImage
  waiters : Nat
  tokens : Nat
  suspended : List θ
  mutex : Option θ
  point : θ → Point

def State.init {θ : Type*} (image : ProcessImage) : State θ := ⟨image, 0, 0, [], none, fun _ => .idle⟩

inductive Action (θ : Type*)
  | sync (t : θ) (count : Nat)
  | start (t : θ) (job : Job)
  /-- The thread goes on from where it is. -/
  | go (t : θ)
  /-- The put of `t` hands its token to `w`, which is suspended. -/
  | hand (t w : θ)
deriving DecidableEq

variable {θ : Type*} [DecidableEq θ]

def State.move (s : State θ) (t : θ) (p : Point) : State θ :=
  { s with point := Function.update s.point t p }

def State.acquire (s : State θ) (t : θ) (p : Point) : Option (State θ) :=
  if s.mutex = none then some { s.move t p with mutex := some t } else none

def State.release (s : State θ) (t : θ) (p : Point) : State θ := { s.move t p with mutex := none }

/-- `tx_semaphore_get`, with time left. -/
def State.get (s : State θ) (t : θ) (count : Nat) : State θ :=
  match s.tokens with
  | tokens + 1 => { s.move t (.unregistering count) with tokens := tokens }
  | 0 => { s.move t (.suspended count) with suspended := s.suspended ++ [t] }

def go (s : State θ) (t : θ) : Option (State θ) :=
  match s.point t with
  | .idle | .suspended _ => none
  | .entering count => s.acquire t (.testing count)
  | .testing count =>
      some (if Waits s.image count then s.move t (.registering count) else s.release t .idle)
  | .registering count => some { s.move t (.unlocking count) with waiters := s.waiters + 1 }
  | .unlocking count => some (s.release t (.getting count))
  | .getting count => some (s.get t count)
  | .unregistering count => some { s.move t (.relocking count) with waiters := s.waiters - 1 }
  | .relocking count => s.acquire t (.testing count)
  | .locking job => s.acquire t (.changing job)
  | .changing job => some { s.move t .releasing with image := job.change s.image }
  | .releasing => some (s.release t .reading)
  | .reading => some (s.move t (.putting s.waiters))
  | .putting 0 => some (s.move t .idle)
  -- `tx_semaphore_put`, with nobody suspended
  | .putting (pending + 1) =>
      if s.suspended = [] then some { s.move t (.putting pending) with tokens := s.tokens + 1 } else none

def hand (s : State θ) (t w : θ) : Option (State θ) :=
  match s.point t, s.point w with
  | .putting (pending + 1), .suspended count =>
      if w ∈ s.suspended then
        some { (s.move t (.putting pending)).move w (.unregistering count) with
          suspended := s.suspended.erase w }
      else none
  | _, _ => none

def step (s : State θ) : Action θ → Option (State θ)
  | .sync t count => if s.point t = .idle then some (s.move t (.entering count)) else none
  | .start t job => if s.point t = .idle then some (s.move t (.locking job)) else none
  | .go t => go s t
  | .hand t w => hand s t w

/-! ## What a step can do -/

inductive Steps (s : State θ) : Action θ → State θ → Prop
  | sync (t : θ) (count : Nat) (idle : s.point t = .idle) :
      Steps s (.sync t count) (s.move t (.entering count))
  | start (t : θ) (job : Job) (idle : s.point t = .idle) : Steps s (.start t job) (s.move t (.locking job))
  | enter (t : θ) (count : Nat) (at_ : s.point t = .entering count) (free : s.mutex = none) :
      Steps s (.go t) { s.move t (.testing count) with mutex := some t }
  | waits (t : θ) (count : Nat) (at_ : s.point t = .testing count) (waits : Waits s.image count) :
      Steps s (.go t) (s.move t (.registering count))
  | returns (t : θ) (count : Nat) (at_ : s.point t = .testing count)
      (satisfied : ¬ Waits s.image count) :
      Steps s (.go t) (s.release t .idle)
  | register (t : θ) (count : Nat) (at_ : s.point t = .registering count) :
      Steps s (.go t) { s.move t (.unlocking count) with waiters := s.waiters + 1 }
  | unlock (t : θ) (count : Nat) (at_ : s.point t = .unlocking count) :
      Steps s (.go t) (s.release t (.getting count))
  | take (t : θ) (count tokens : Nat) (at_ : s.point t = .getting count) (some_ : s.tokens = tokens + 1) :
      Steps s (.go t) { s.move t (.unregistering count) with tokens := tokens }
  | suspend (t : θ) (count : Nat) (at_ : s.point t = .getting count) (none_ : s.tokens = 0) :
      Steps s (.go t) { s.move t (.suspended count) with suspended := s.suspended ++ [t] }
  | unregister (t : θ) (count : Nat) (at_ : s.point t = .unregistering count) :
      Steps s (.go t) { s.move t (.relocking count) with waiters := s.waiters - 1 }
  | relock (t : θ) (count : Nat) (at_ : s.point t = .relocking count) (free : s.mutex = none) :
      Steps s (.go t) { s.move t (.testing count) with mutex := some t }
  | lock (t : θ) (job : Job) (at_ : s.point t = .locking job) (free : s.mutex = none) :
      Steps s (.go t) { s.move t (.changing job) with mutex := some t }
  | change (t : θ) (job : Job) (at_ : s.point t = .changing job) :
      Steps s (.go t) { s.move t .releasing with image := job.change s.image }
  | release (t : θ) (at_ : s.point t = .releasing) : Steps s (.go t) (s.release t .reading)
  | read (t : θ) (at_ : s.point t = .reading) : Steps s (.go t) (s.move t (.putting s.waiters))
  | finish (t : θ) (at_ : s.point t = .putting 0) : Steps s (.go t) (s.move t .idle)
  | put (t : θ) (pending : Nat) (at_ : s.point t = .putting (pending + 1)) (nobody : s.suspended = []) :
      Steps s (.go t) { s.move t (.putting pending) with tokens := s.tokens + 1 }
  | hand (t w : θ) (pending count : Nat) (at_ : s.point t = .putting (pending + 1))
      (waits : s.point w = .suspended count) (held : w ∈ s.suspended) :
      Steps s (.hand t w) { (s.move t (.putting pending)).move w (.unregistering count) with
        suspended := s.suspended.erase w }

theorem acquire_eq_some {s s' : State θ} {t : θ} {p : Point} (h : s.acquire t p = some s') :
    s.mutex = none ∧ s' = { s.move t p with mutex := some t } := by
  rw [State.acquire, Option.ite_none_right_eq_some] at h
  exact ⟨h.1, (Option.some.inj h.2).symm⟩

theorem get_cases {s : State θ} {t : θ} {count : Nat} (at_ : s.point t = .getting count) :
    Steps s (.go t) (s.get t count) := by
  rw [State.get]
  split
  · rename_i tokens some_
    exact .take t count tokens at_ some_
  · rename_i none_
    exact .suspend t count at_ none_

theorem go_cases {s s' : State θ} {t : θ} (h : go s t = some s') : Steps s (.go t) s' := by
  rw [go] at h
  split at h
  · cases h
  · cases h
  · rename_i count at_
    obtain ⟨free, rfl⟩ := acquire_eq_some h
    exact .enter t count at_ free
  · rename_i count at_
    cases h
    split
    · rename_i waits
      exact .waits t count at_ waits
    · rename_i satisfied
      exact .returns t count at_ satisfied
  · rename_i count at_
    cases h
    exact .register t count at_
  · rename_i count at_
    cases h
    exact .unlock t count at_
  · rename_i count at_
    cases h
    exact get_cases at_
  · rename_i count at_
    cases h
    exact .unregister t count at_
  · rename_i count at_
    obtain ⟨free, rfl⟩ := acquire_eq_some h
    exact .relock t count at_ free
  · rename_i job at_
    obtain ⟨free, rfl⟩ := acquire_eq_some h
    exact .lock t job at_ free
  · rename_i job at_
    cases h
    exact .change t job at_
  · rename_i at_
    cases h
    exact .release t at_
  · rename_i at_
    cases h
    exact .read t at_
  · rename_i at_
    cases h
    exact .finish t at_
  · rename_i pending at_
    obtain ⟨nobody, same⟩ := Option.ite_none_right_eq_some.mp h
    cases same
    exact .put t pending at_ nobody

theorem hand_cases {s s' : State θ} {t w : θ} (h : hand s t w = some s') : Steps s (.hand t w) s' := by
  rw [hand] at h
  split at h
  · rename_i pending count at_ waits
    obtain ⟨held, same⟩ := Option.ite_none_right_eq_some.mp h
    cases same
    exact .hand t w pending count at_ waits held
  · cases h

theorem step_cases {s s' : State θ} {a : Action θ} (h : step s a = some s') : Steps s a s' := by
  cases a with
  | sync t count =>
      obtain ⟨idle, same⟩ := Option.ite_none_right_eq_some.mp h
      cases same
      exact .sync t count idle
  | start t job =>
      obtain ⟨idle, same⟩ := Option.ite_none_right_eq_some.mp h
      cases same
      exact .start t job idle
  | go t => exact go_cases h
  | hand t w => exact hand_cases h

/-! ## Whom the tokens are for -/

/-- A thread is served when it gets a token, and is in `seen` and `told` only until then: in the former
when `notifyAll` of some thread has counted its current wait, in the latter when that has finished. -/
structure TokenLog (θ : Type*) where
  registered : Finset θ
  seen : θ → Finset θ
  told : Finset θ

def TokenLog.init : TokenLog θ := ⟨∅, fun _ => ∅, ∅⟩

def TokenLog.serve (log : TokenLog θ) (w : θ) : TokenLog θ :=
  { log with seen := fun t => (log.seen t).erase w, told := log.told.erase w }

def noteTokens (s : State θ) (a : Action θ) (_ : State θ) (log : TokenLog θ) : TokenLog θ :=
  match a with
  | .go t =>
      match s.point t with
      | .registering _ => { log with registered := insert t log.registered }
      | .getting _ => if s.tokens = 0 then log else log.serve t
      | .unregistering _ => { log with registered := log.registered.erase t }
      | .reading =>
          { log with
            seen := Function.update log.seen t (log.registered.filter fun u => (s.point u).waiting) }
      | .putting 0 =>
          { log with seen := Function.update log.seen t ∅, told := log.told ∪ log.seen t }
      | _ => log
  | .hand _ w => log.serve w
  | _ => log

def ledger (s : State θ × TokenLog θ) : Ledger θ θ where
  tokens := s.1.tokens
  outstanding t := (s.1.point t).outstanding
  told := s.2.told
  seen := s.2.seen

/-- Nobody whose wait was counted by a finished notification is suspended without a token although it need
not wait. -/
def NoneStranded (s : State θ × TokenLog θ) : Prop :=
  ∀ t count, t ∈ s.2.told → ¬ Waits s.1.image count → s.1.point t = .suspended count → s.1.tokens ≠ 0

/-- Who gets a token was counted for it, or leaves enough for those who were. -/
def SparesTokens (s : State θ × TokenLog θ) : Action θ → Prop
  | .go t =>
      (s.1.point t).gets = true → s.1.tokens ≠ 0 → ∀ group : Finset θ, (ledger s).Spares t group
  | .hand t w => ∀ group : Finset θ, t ∈ group → (ledger s).Spares w group
  | .sync .. | .start .. => True

instance [Fintype θ] (s : State θ × TokenLog θ) : ∀ a, Decidable (SparesTokens s a)
  | .go _ => inferInstanceAs (Decidable (_ → _ → ∀ _ : Finset θ, _))
  | .hand _ _ => inferInstanceAs (Decidable (∀ _ : Finset θ, _ → _))
  | .sync .. | .start .. => isTrue trivial

/-! ## The invariant -/

structure TokenInv (s : State θ × TokenLog θ) : Prop where
  registered : ∀ t, t ∈ s.2.registered ↔ (s.1.point t).registered = true
  waiters : s.1.waiters = s.2.registered.card
  covered : (ledger s).Covered

theorem TokenInv.noneStranded {s : State θ × TokenLog θ} (h : TokenInv s) :
    NoneStranded s :=
  fun _ _ told _ _ => h.covered.tokens_ne_zero told

theorem tokenInv_init (image : ProcessImage) : TokenInv ((State.init image : State θ), .init) where
  registered t := by simp [State.init, TokenLog.init, Point.registered]
  waiters := rfl
  covered group := by
    have nobody : (ledger ((State.init image : State θ), .init)).owed group = ∅ := by
      ext u
      simp [Ledger.mem_owed, ledger, TokenLog.init]
    rw [nobody]
    exact Nat.zero_le _

theorem outstanding_update (point : θ → Point) (t : θ) (p : Point) :
    (fun u => (Function.update point t p u).outstanding) =
      Function.update (fun u => (point u).outstanding) t p.outstanding :=
  funext fun u => Function.apply_update (fun _ => Point.outstanding) point t p u

theorem outstanding_update_same {point : θ → Point} {t : θ} {p : Point}
    (same : p.outstanding = (point t).outstanding) :
    (fun u => (Function.update point t p u).outstanding) = fun u => (point u).outstanding := by
  rw [outstanding_update, same, Function.update_eq_self]

theorem registered_update {point : θ → Point} {registered : Finset θ} {t : θ} {p : Point}
    (h : ∀ u, u ∈ registered ↔ (point u).registered = true)
    (same : p.registered = (point t).registered) (u : θ) :
    u ∈ registered ↔ (Function.update point t p u).registered = true := by
  by_cases hu : u = t
  · subst hu
    rw [Function.update_self, same]
    exact h u
  · rw [Function.update_of_ne hu]
    exact h u

theorem ledger_move (s : State θ) (log : TokenLog θ) {t : θ} {p : Point}
    (outstanding : p.outstanding = (s.point t).outstanding) :
    ledger (s.move t p, log) = ledger (s, log) := by
  simp only [ledger, State.move, outstanding_update_same outstanding]

theorem TokenInv.move {s s' : State θ} {log : TokenLog θ} (h : TokenInv (s, log)) {t : θ} {p : Point}
    (point : s'.point = Function.update s.point t p) (waiters : s'.waiters = s.waiters)
    (tokens : s'.tokens = s.tokens) (registered : p.registered = (s.point t).registered)
    (outstanding : p.outstanding = (s.point t).outstanding) : TokenInv (s', log) where
  registered := by
    simp only [point]
    exact registered_update h.registered registered
  waiters := waiters.trans h.waiters
  covered := by
    have same : ledger (s', log) = ledger (s.move t p, log) := by
      simp only [ledger, State.move, tokens, point]
    rw [same, ledger_move s log outstanding]
    exact h.covered

theorem TokenInv.register {s : State θ} {log : TokenLog θ} (h : TokenInv (s, log)) {t : θ} {count : Nat}
    (at_ : s.point t = .registering count) :
    TokenInv ({ s.move t (.unlocking count) with waiters := s.waiters + 1 },
      { log with registered := insert t log.registered }) where
  registered u := by
    by_cases hu : u = t
    · subst hu
      simp [State.move, Point.registered]
    · simpa [State.move, hu] using h.registered u
  waiters := by
    have new : t ∉ log.registered := by
      rw [h.registered t, at_]
      simp [Point.registered]
    simpa [Finset.card_insert_of_notMem new] using h.waiters
  covered := by
    have same : ledger (s.move t (.unlocking count), log) = ledger (s, log) :=
      ledger_move s log (by rw [at_]; rfl)
    exact same ▸ h.covered

theorem TokenInv.unregister {s : State θ} {log : TokenLog θ} (h : TokenInv (s, log)) {t : θ}
    {count : Nat} (at_ : s.point t = .unregistering count) :
    TokenInv ({ s.move t (.relocking count) with waiters := s.waiters - 1 },
      { log with registered := log.registered.erase t }) where
  registered u := by
    by_cases hu : u = t
    · subst hu
      simp [State.move, Point.registered]
    · simpa [State.move, hu] using h.registered u
  waiters := by
    have counted : t ∈ log.registered := by
      rw [h.registered t, at_]
      rfl
    simpa [Finset.card_erase_of_mem counted] using congrArg (· - 1) h.waiters
  covered := by
    have same : ledger (s.move t (.relocking count), log) = ledger (s, log) :=
      ledger_move s log (by rw [at_]; rfl)
    exact same ▸ h.covered

theorem TokenInv.take {s : State θ} {log : TokenLog θ} (h : TokenInv (s, log)) {t : θ}
    {count tokens : Nat} (at_ : s.point t = .getting count) (some_ : s.tokens = tokens + 1)
    (spares : ∀ group, (ledger (s, log)).Spares t group) :
    TokenInv ({ s.move t (.unregistering count) with tokens := tokens }, log.serve t) where
  registered := registered_update h.registered (by rw [at_]; rfl)
  waiters := h.waiters
  covered := by
    have taken := h.covered.take some_ spares
    have still : (Point.unregistering count).outstanding = (s.point t).outstanding := by
      rw [at_]
      rfl
    simpa only [ledger, State.move, TokenLog.serve, Ledger.take, Ledger.serve,
      outstanding_update_same still] using taken

theorem TokenInv.read {s : State θ} {log : TokenLog θ} (h : TokenInv (s, log)) {t : θ}
    (at_ : s.point t = .reading) :
    TokenInv (s.move t (.putting s.waiters), { log with
      seen := Function.update log.seen t (log.registered.filter fun u => (s.point u).waiting) }) where
  registered := registered_update h.registered (by rw [at_]; rfl)
  waiters := h.waiters
  covered := by
    have enough : (log.registered.filter fun u => (s.point u).waiting).card ≤ s.waiters := by
      rw [show s.waiters = log.registered.card from h.waiters]
      exact Finset.card_filter_le _ _
    have rests : (ledger (s, log)).outstanding t = 0 := by simp [ledger, at_, Point.outstanding]
    have counted := h.covered.count rests enough
    simpa only [ledger, State.move, Ledger.count, outstanding_update,
      Point.putting_outstanding] using counted

theorem TokenInv.finish {s : State θ} {log : TokenLog θ} (h : TokenInv (s, log)) {t : θ}
    (at_ : s.point t = .putting 0) :
    TokenInv (s.move t .idle, { log with
      seen := Function.update log.seen t ∅, told := log.told ∪ log.seen t }) where
  registered := registered_update h.registered (by rw [at_]; rfl)
  waiters := h.waiters
  covered := by
    have through : (ledger (s, log)).outstanding t = 0 := by simp [ledger, at_, Point.outstanding]
    have finished := h.covered.finish through
    have still : Point.idle.outstanding = (s.point t).outstanding := by
      rw [at_]
      rfl
    simpa only [ledger, State.move, Ledger.finish, outstanding_update_same still] using finished

theorem TokenInv.put {s : State θ} {log : TokenLog θ} (h : TokenInv (s, log)) {t : θ} {pending : Nat}
    (at_ : s.point t = .putting (pending + 1)) :
    TokenInv ({ s.move t (.putting pending) with tokens := s.tokens + 1 }, log) where
  registered := registered_update h.registered (by rw [at_]; rfl)
  waiters := h.waiters
  covered := by
    have due : (ledger (s, log)).outstanding t = pending + 1 := by simp [ledger, at_, Point.outstanding]
    have put := h.covered.put due
    simpa only [ledger, State.move, Ledger.put, outstanding_update, Point.putting_outstanding] using put

omit [DecidableEq θ] in
theorem ne_of_points {s : State θ} {t w : θ} {pending count : Nat}
    (putting : s.point t = .putting pending) (suspended : s.point w = .suspended count) : w ≠ t := by
  rintro rfl
  cases putting.symm.trans suspended

theorem TokenInv.hand {s : State θ} {log : TokenLog θ} (h : TokenInv (s, log)) {t w : θ}
    {pending count : Nat} (at_ : s.point t = .putting (pending + 1)) (waits : s.point w = .suspended count)
    (spares : ∀ group, t ∈ group → (ledger (s, log)).Spares w group) :
    TokenInv ({ (s.move t (.putting pending)).move w (.unregistering count) with
      suspended := s.suspended.erase w }, log.serve w) where
  registered := by
    have same : (Point.putting pending).registered = (s.point t).registered := by
      rw [at_]
      rfl
    refine registered_update (registered_update h.registered same) ?_
    change _ = (Function.update s.point t (.putting pending) w).registered
    rw [Function.update_of_ne (ne_of_points at_ waits), waits]
    rfl
  waiters := h.waiters
  covered := by
    have due : (ledger (s, log)).outstanding t = pending + 1 := by simp [ledger, at_, Point.outstanding]
    have handed := h.covered.hand due spares
    have still : (Point.unregistering count).outstanding =
        (Function.update s.point t (.putting pending) w).outstanding := by
      rw [Function.update_of_ne (ne_of_points at_ waits), waits]
      rfl
    simpa only [ledger, State.move, TokenLog.serve, Ledger.hand, Ledger.serve,
      outstanding_update_same still, outstanding_update, Point.putting_outstanding] using handed

theorem tokenInv_step {s s' : State θ × TokenLog θ} {a : Action θ} (h : TokenInv s)
    (spares : SparesTokens s a) (hstep : observed step noteTokens s a = some s') : TokenInv s' := by
  obtain ⟨s, log⟩ := s
  obtain ⟨s', log'⟩ := s'
  obtain ⟨hs, rfl⟩ := observed_pair_eq_some.mp hstep
  cases step_cases hs with
  | sync t count idle => exact h.move rfl rfl rfl (by rw [idle]; rfl) (by rw [idle]; rfl)
  | start t job idle => exact h.move rfl rfl rfl (by rw [idle]; rfl) (by rw [idle]; rfl)
  | enter t _ at_ | waits t _ at_ | returns t _ at_ | unlock t _ at_ | relock t _ at_ | lock t _ at_
  | change t _ at_ | release t at_ =>
      simp only [noteTokens, at_]
      exact h.move rfl rfl rfl (by rw [at_]; rfl) (by rw [at_]; rfl)
  | register t count at_ =>
      simp only [noteTokens, at_]
      exact h.register at_
  | take t count tokens at_ some_ =>
      have present : s.tokens ≠ 0 := by omega
      simp only [noteTokens, at_, if_neg present]
      exact h.take at_ some_ (spares (by rw [at_]; rfl) present)
  | suspend t count at_ none_ =>
      simp only [noteTokens, at_, if_pos none_]
      exact h.move rfl rfl rfl (by rw [at_]; rfl) (by rw [at_]; rfl)
  | unregister t count at_ =>
      simp only [noteTokens, at_]
      exact h.unregister at_
  | read t at_ =>
      simp only [noteTokens, at_]
      exact h.read at_
  | finish t at_ =>
      simp only [noteTokens, at_]
      exact h.finish at_
  | put t pending at_ nobody =>
      simp only [noteTokens, at_]
      exact h.put at_
  | hand t w pending count at_ waits held => exact h.hand at_ waits spares

/-- In every run in which whoever gets a token was counted for it or leaves enough for those who were,
nobody is ever stranded. -/
theorem none_stranded (image : ProcessImage) (actions : List (Action θ))
    (spares : StepsMeet (observed step noteTokens) SparesTokens (.init image, .init) actions) :
    Throughout (observed step noteTokens) NoneStranded (.init image, .init) actions :=
  throughout_of_stepsMeet (fun _ inv => inv.noneStranded) (fun _ _ _ => tokenInv_step) spares
    (tokenInv_init image)

/-- A thread that waits for the first exchange is preempted in front of the semaphore, one that waits for
the sixth is suspended there, and a job of a third thread hands that one a token and leaves one more. -/
def twoTokens (job : Job) : List (Action (Fin 3)) :=
  [.sync 0 0, .go 0, .go 0, .go 0, .go 0, .sync 1 5, .go 1, .go 1, .go 1, .go 1, .go 1,
    .start 2 job, .go 2, .go 2, .go 2, .go 2, .hand 2 1, .go 2, .go 2]

def firstExchange : Job :=
  .publish ProcessImage.empty.command ProcessImage.empty.stamped.status 0

/-- The thread that was handed a token waits again, and takes the one that was left. -/
theorem token_taken_by_other :
    ¬ ∀ actions : List (Action (Fin 3)),
      Throughout (observed step noteTokens) NoneStranded (.init .empty, .init) actions := by
  let actions := twoTokens firstExchange ++ [.go 1, .go 1, .go 1, .go 1, .go 1, .go 1, .go 0]
  let left (s : State (Fin 3) × TokenLog (Fin 3)) :=
    (s.1.point 0, s.1.tokens, decide (0 ∈ s.2.told), decide (Waits s.1.image 0))
  have ends : (run (observed step noteTokens) (.init .empty, .init) actions).map left =
      some (.suspended 0, 0, true, false) := by decide
  obtain ⟨s, hrun, atLast⟩ := Option.map_eq_some_iff.mp ends
  simp only [left, Prod.mk.injEq, decide_eq_true_eq, decide_eq_false_iff_not] at atLast
  obtain ⟨suspended, tokens, told, satisfied⟩ := atLast
  intro noneStranded
  exact (noneStranded actions).last hrun 0 0 told satisfied suspended tokens

theorem tokens_left_by_closed :
    ∃ s, run (observed step noteTokens) (.init .empty, .init)
        (twoTokens .close ++ [.go 1, .go 1, .go 1, .go 0]) = some s ∧
      s.1.point 0 = .unregistering 0 ∧ s.1.point 1 = .idle ∧
      Throughout (observed step noteTokens) NoneStranded (.init .empty, .init)
        (twoTokens .close ++ [.go 1, .go 1, .go 1, .go 0]) :=
  ⟨_, rfl, by decide, by decide, none_stranded .empty _ (by decide +kernel)⟩

end TactileSensors.Platform.ThreadX
