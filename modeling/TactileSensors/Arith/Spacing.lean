import Mathlib.Algebra.Order.Ring.Defs
import Mathlib.Data.List.Pairwise
import Mathlib.Tactic.Linarith

/-!
# Events that are due a gap apart

However late an event happens, those of a window are at most as many as fit in its length and the lateness of
the first of them.
-/

namespace TactileSensors.Arith

variable {α K : Type*} [CommRing K] [LinearOrder K]

/-- Each event is due at least `gap` after any before it. -/
def Spaced (gap : K) (due : α → K) (events : List α) : Prop :=
  events.Pairwise fun a b => due a + gap ≤ due b

/-- The events that happen from `start` on, `length` long. -/
def inWindow (happens : α → K) (start length : K) (events : List α) : List α :=
  events.filter fun a => start ≤ happens a ∧ happens a ≤ start + length

variable {gap : K} {due happens : α → K} {events : List α}

theorem Spaced.concat (spaced : Spaced gap due events) {a : α} (last : ∀ b ∈ events, due b + gap ≤ due a) :
    Spaced gap due (events ++ [a]) := by
  refine List.pairwise_append.mpr ⟨spaced, List.pairwise_singleton _ a, fun b hb c hc => ?_⟩
  rw [List.mem_singleton.mp hc]
  exact last b hb

variable [IsStrictOrderedRing K]

omit [IsStrictOrderedRing K] in
theorem Spaced.due_add_le_of_lt (spaced : Spaced gap due events) {i j : ℕ} (less : i < j) {a b : α}
    (hi : events[i]? = some a) (hj : events[j]? = some b) : due a + gap ≤ due b := by
  obtain ⟨inside, rfl⟩ := List.getElem?_eq_some_iff.mp hi
  obtain ⟨inside', rfl⟩ := List.getElem?_eq_some_iff.mp hj
  exact List.pairwise_iff_getElem.mp spaced i j inside inside' less

theorem Spaced.due_add_mul_le (spaced : Spaced gap due events) {i count : ℕ} {a b : α}
    (hi : events[i]? = some a) (hj : events[i + (count + 1)]? = some b) :
    due a + (count + 1 : ℕ) * gap ≤ due b := by
  induction count generalizing b with
  | zero => simpa using spaced.due_add_le_of_lt (Nat.lt_succ_self i) hi hj
  | succ count ih =>
      have inside : i + (count + 1) < events.length :=
        Nat.lt_of_succ_lt (List.getElem?_eq_some_iff.mp hj).1
      have before := List.getElem?_eq_getElem inside
      have sofar := ih before
      have last := spaced.due_add_le_of_lt (by omega) before hj
      push_cast at sofar ⊢
      linarith

theorem Spaced.due_add_le {first : α} {rest : List α} (spaced : Spaced gap due (first :: rest)) :
    ∃ last ∈ first :: rest, due first + rest.length * gap ≤ due last := by
  induction rest generalizing first with
  | nil => exact ⟨first, List.mem_singleton_self first, by simp⟩
  | cons second rest ih =>
      obtain ⟨next, later⟩ := List.pairwise_cons.mp spaced
      obtain ⟨last, isLast, further⟩ := ih later
      refine ⟨last, List.mem_cons_of_mem first isLast, ?_⟩
      have gapped := next second List.mem_cons_self
      rw [List.length_cons]
      push_cast
      linarith

theorem length_inWindow_le (spaced : Spaced gap due events) (late : ∀ a ∈ events, due a ≤ happens a)
    {start length : K} {first : α} {rest : List α}
    (window : inWindow happens start length events = first :: rest) :
    rest.length * gap ≤ length + (happens first - due first) := by
  have inside : Spaced gap due (first :: rest) := window ▸ List.Pairwise.filter _ spaced
  have among : ∀ a ∈ first :: rest, a ∈ events ∧ start ≤ happens a ∧ happens a ≤ start + length := by
    intro a ha
    rw [← window, inWindow, List.mem_filter, decide_eq_true_iff] at ha
    exact ha
  obtain ⟨last, isLast, further⟩ := inside.due_add_le
  have begins := (among first List.mem_cons_self).2.1
  obtain ⟨event, -, ends⟩ := among last isLast
  have after := late last event
  linarith

theorem length_inWindow_le_of_punctual (spaced : Spaced gap happens events) (pos : 0 < gap) {length : K}
    (nonneg : 0 ≤ length) (start : K) :
    (inWindow happens start length events).length * gap ≤ length + gap := by
  cases window : inWindow happens start length events with
  | nil =>
      rw [List.length_nil, Nat.cast_zero, zero_mul]
      exact add_nonneg nonneg pos.le
  | cons first rest =>
      have few := length_inWindow_le spaced (fun _ _ => le_rfl) window
      rw [List.length_cons]
      push_cast
      linarith

end TactileSensors.Arith
