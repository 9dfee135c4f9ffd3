import Mathlib.Algebra.Order.Field.Rat
import Mathlib.Algebra.Order.Ring.Int
import TactileSensors.Arith.Spacing
import TactileSensors.Machine.Run

/-!
# The pace of the exchanges

The thread that `start` spawns exchanges, puts the next cycle a period further on or at the time it is if that
is later, and sleeps until then. Times are those of the steady clock, in nanoseconds.
-/

namespace TactileSensors.Gripper
open Machine Arith

inductive PacePoint
  | exchange
  | exchangeEnd
  | reschedule
  | sleepEnd
deriving DecidableEq, Repr

structure StartedCycle where
  scheduled : ℤ
  start : ℤ
deriving DecidableEq, Repr

structure Pacing where
  clock : ℤ
  nextCycle : ℤ
  point : PacePoint
  /-- The cycles so far, and when their exchanges were finished or had failed. -/
  cycles : List StartedCycle
  finishes : List ℤ
deriving DecidableEq, Repr

namespace Pacing

def init (now : ℤ) : Pacing := ⟨now, now, .exchange, [], []⟩

/-- The thread's next point, passed when the clock reads `now`: readings do not go back, and a sleep ends at its
target or after it. -/
def step (period : ℤ) (s : Pacing) (now : ℤ) : Option Pacing :=
  if now < s.clock then none
  else
    let s := { s with clock := now }
    match s.point with
    | .exchange =>
        some { s with point := .exchangeEnd, cycles := s.cycles ++ [⟨s.nextCycle, now⟩] }
    | .exchangeEnd => some { s with point := .reschedule, finishes := s.finishes ++ [now] }
    | .reschedule => some { s with point := .sleepEnd, nextCycle := max (s.nextCycle + period) now }
    | .sleepEnd => if now < s.nextCycle then none else some { s with point := .exchange }

/-- The cycles are due a period apart and start when they are due or later, and the next one is due a period
after those that are over. -/
structure Paced (period : ℤ) (s : Pacing) : Prop where
  spaced : Spaced period StartedCycle.scheduled s.cycles
  late : ∀ c ∈ s.cycles, c.scheduled ≤ c.start
  due : ∀ c ∈ s.cycles,
    (if s.point = .exchange ∨ s.point = .sleepEnd then c.scheduled + period else c.scheduled) ≤ s.nextCycle
  awake : s.point = .exchange → s.nextCycle ≤ s.clock

structure Orderly (s : Pacing) : Prop where
  finished : s.cycles.length = s.finishes.length + (if s.point = .exchangeEnd then 1 else 0)
  past : ∀ finish ∈ s.finishes, finish ≤ s.clock
  inOrder : ∀ i c, s.cycles[i + 1]? = some c → ∃ finish, s.finishes[i]? = some finish ∧ finish ≤ c.start

variable {period now : ℤ} {s s' : Pacing}

theorem paced_init (period now : ℤ) : Paced period (init now) where
  spaced := .nil
  late := nofun
  due := nofun
  awake _ := le_rfl

theorem orderly_init (now : ℤ) : Orderly (init now) where
  finished := rfl
  past := nofun
  inOrder := nofun

theorem step_eq_some : step period s now = some s' ↔ s.clock ≤ now ∧
    (s.point = .exchange ∧ s' = { s with
        clock := now, point := .exchangeEnd, cycles := s.cycles ++ [⟨s.nextCycle, now⟩] } ∨
      s.point = .exchangeEnd ∧ s' = { s with
        clock := now, point := .reschedule, finishes := s.finishes ++ [now] } ∨
      s.point = .reschedule ∧ s' = { s with
        clock := now, point := .sleepEnd, nextCycle := max (s.nextCycle + period) now } ∨
      s.point = .sleepEnd ∧ s.nextCycle ≤ now ∧ s' = { s with clock := now, point := .exchange }) := by
  rw [step]
  by_cases back : now < s.clock
  · simp [back]
  · cases point : s.point <;> simp [back, not_lt.mp back, eq_comm]

theorem Paced.step (h : Paced period s) (pos : 0 < period) (next : Pacing.step period s now = some s') :
    Paced period s' := by
  obtain ⟨clock, ⟨point, rfl⟩ | ⟨point, rfl⟩ | ⟨point, rfl⟩ | ⟨point, woken, rfl⟩⟩ := step_eq_some.mp next
  · have before : ∀ c ∈ s.cycles, c.scheduled + period ≤ s.nextCycle := by simpa [point] using h.due
    constructor
    · exact h.spaced.concat before
    · intro c hc
      rcases List.mem_append.mp hc with earlier | new
      · exact h.late c earlier
      · rw [List.mem_singleton.mp new]
        exact (h.awake point).trans clock
    · intro c hc
      rcases List.mem_append.mp hc with earlier | new
      · exact (le_add_of_nonneg_right pos.le).trans (before c earlier)
      · rw [List.mem_singleton.mp new]
        exact le_rfl
    · exact nofun
  · exact ⟨h.spaced, h.late, by simpa [point] using h.due, nofun⟩
  · have before : ∀ c ∈ s.cycles, c.scheduled ≤ s.nextCycle := by simpa [point] using h.due
    refine ⟨h.spaced, h.late, fun c hc => ?_, nofun⟩
    exact (add_le_add_left (before c hc) period).trans (le_max_left _ _)
  · exact ⟨h.spaced, h.late, by simpa [point] using h.due, fun _ => woken⟩

theorem Orderly.step (h : Orderly s) (next : Pacing.step period s now = some s') : Orderly s' := by
  obtain ⟨clock, ⟨point, rfl⟩ | ⟨point, rfl⟩ | ⟨point, rfl⟩ | ⟨point, woken, rfl⟩⟩ := step_eq_some.mp next
  · have all : s.cycles.length = s.finishes.length := by simpa [point] using h.finished
    constructor
    · simp [all]
    · exact fun finish hf => (h.past finish hf).trans clock
    · intro i c hc
      rcases Nat.lt_or_ge (i + 1) s.cycles.length with earlier | new
      · rw [List.getElem?_append_left earlier] at hc
        exact h.inOrder i c hc
      · have last : i + 1 = s.cycles.length := by
          have inside := (List.getElem?_eq_some_iff.mp hc).1
          rw [List.length_append, List.length_singleton] at inside
          omega
        rw [last, List.getElem?_concat_length] at hc
        cases hc
        have finished : i < s.finishes.length := by omega
        exact ⟨_, List.getElem?_eq_getElem finished, (h.past _ (List.getElem_mem finished)).trans clock⟩
  · have oneMore : s.cycles.length = s.finishes.length + 1 := by simpa [point] using h.finished
    constructor
    · simp [oneMore]
    · intro finish hf
      rcases List.mem_append.mp hf with earlier | new
      · exact (h.past finish earlier).trans clock
      · exact (List.mem_singleton.mp new).le
    · intro i c hc
      obtain ⟨finish, hf, before⟩ := h.inOrder i c hc
      have inside := (List.getElem?_eq_some_iff.mp hf).1
      exact ⟨finish, (List.getElem?_append_left inside).trans hf, before⟩
  · exact ⟨by simpa [point] using h.finished, fun finish hf => (h.past finish hf).trans clock, h.inOrder⟩
  · exact ⟨by simpa [point] using h.finished, fun finish hf => (h.past finish hf).trans clock, h.inOrder⟩

/-- However long the exchanges take and however late the thread wakes, the cycles do not burst. -/
structure NoBurst (period : ℤ) (s : Pacing) : Prop where
  inOrder : ∀ i c, s.cycles[i + 1]? = some c → ∃ finish, s.finishes[i]? = some finish ∧ finish ≤ c.start
  spread : ∀ (i j : ℕ) (a b : StartedCycle), i < j → s.cycles[i]? = some a → s.cycles[j]? = some b →
    a.scheduled + ((j : ℤ) - i) * period ≤ b.scheduled
  window : ∀ (start length : ℤ) (first : StartedCycle) (rest : List StartedCycle),
    inWindow StartedCycle.start start length s.cycles = first :: rest →
    ((first :: rest).length : ℚ) ≤ 1 + (length + (first.start - first.scheduled) : ℤ) / period

theorem noBurst_of_run (pos : 0 < period) {begun : ℤ} {readings : List ℤ}
    (hrun : run (Pacing.step period) (init begun) readings = some s) : NoBurst period s := by
  have paced : Paced period s :=
    run_invariant (fun _ _ _ h next => h.step pos next) hrun (paced_init period begun)
  have orderly : Orderly s := run_invariant (fun _ _ _ h next => h.step next) hrun (orderly_init begun)
  constructor
  · exact orderly.inOrder
  · intro i j a b less hi hj
    obtain ⟨count, rfl⟩ := Nat.exists_eq_add_of_lt less
    rw [Nat.add_assoc] at hj
    have gaps := paced.spaced.due_add_mul_le hi hj
    have steps : ((i + count + 1 : ℕ) : ℤ) - i = (count + 1 : ℕ) := by omega
    rwa [steps]
  · intro start length first rest window
    have few := length_inWindow_le paced.spaced paced.late window
    have positive : (0 : ℚ) < period := Int.cast_pos.mpr pos
    rw [List.length_cons, Nat.cast_add, Nat.cast_one, add_comm, add_le_add_iff_left, le_div_iff₀ positive]
    exact_mod_cast few

def overrun : List ℤ := [1, 4, 4, 10, 11, 36, 37, 38, 38]

theorem noBurst_overrun : NoBurst 10
    ⟨38, 37, .exchangeEnd, [⟨0, 1⟩, ⟨10, 11⟩, ⟨37, 38⟩], [4, 36]⟩ :=
  noBurst_of_run (by decide) (by decide : run (Pacing.step 10) (init 0) overrun = _)

end Pacing

end TactileSensors.Gripper
