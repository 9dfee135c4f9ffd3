import Mathlib.Algebra.BigOperators.Group.Finset.Piecewise
import Mathlib.Algebra.Order.BigOperators.Group.Finset
import Mathlib.Data.Finset.Card

/-!
# Anonymous tokens

Notifiers count who waits and put a token for each one into a common pool, from which anybody may take.
Who was counted and has not been served yet is owed a token, by a notifier that is still putting or by
one that is through.
-/

namespace TactileSensors.Machine

/-- `outstanding` are the puts a notifier has still to make, `seen` those it has counted, and `told` those
that notifiers have counted who are through. Who is served is in neither. -/
structure Ledger (θ ι : Type*) where
  tokens : ℕ
  outstanding : ι → ℕ
  told : Finset θ
  seen : ι → Finset θ

namespace Ledger

variable {θ ι : Type*} [DecidableEq θ] {l : Ledger θ ι} {n : ι} {w : θ} {k : ℕ}

/-- Those who are owed a token by the notifiers that are through and the ones of `group`. -/
def owed (l : Ledger θ ι) (group : Finset ι) : Finset θ := l.told ∪ group.biUnion l.seen

/-- The tokens there are, and the ones that `group` will put. -/
def supply (l : Ledger θ ι) (group : Finset ι) : ℕ := l.tokens + ∑ n ∈ group, l.outstanding n

/-- Whoever puts next, and whoever is slow, there is a token for everybody who is owed one. -/
def Covered (l : Ledger θ ι) : Prop := ∀ group, (l.owed group).card ≤ l.supply group

/-- `w` is owed a token by `group` itself, or leaves enough for those who are. -/
def Spares (l : Ledger θ ι) (w : θ) (group : Finset ι) : Prop :=
  w ∉ l.owed group → (l.owed group).card < l.supply group

instance (l : Ledger θ ι) (w : θ) (group : Finset ι) : Decidable (l.Spares w group) :=
  inferInstanceAs (Decidable (_ → _))

theorem mem_owed {group : Finset ι} : w ∈ l.owed group ↔ w ∈ l.told ∨ ∃ n ∈ group, w ∈ l.seen n := by
  simp [owed]

theorem Covered.tokens_ne_zero (h : l.Covered) (hw : w ∈ l.told) : l.tokens ≠ 0 := by
  have owed : w ∈ l.owed ∅ := mem_owed.mpr (.inl hw)
  have enough := (Finset.card_pos.mpr ⟨w, owed⟩).trans_le (h ∅)
  simpa [Ledger.supply] using enough.ne'

def serve (l : Ledger θ ι) (w : θ) : Ledger θ ι :=
  { l with told := l.told.erase w, seen := fun n => (l.seen n).erase w }

def take (l : Ledger θ ι) (w : θ) (k : ℕ) : Ledger θ ι := { l.serve w with tokens := k }

theorem owed_serve (group : Finset ι) : (l.serve w).owed group = (l.owed group).erase w := by
  ext u
  simp only [mem_owed, Finset.mem_erase, serve]
  tauto

theorem card_owed_serve_lt (h : l.Covered) {group : Finset ι} (spares : l.Spares w group) :
    ((l.serve w).owed group).card < l.supply group := by
  rw [owed_serve]
  by_cases hw : w ∈ l.owed group
  · rw [← Nat.succ_le_iff, Nat.succ_eq_add_one, Finset.card_erase_add_one hw]
    exact h group
  · rw [Finset.erase_eq_of_notMem hw]
    exact spares hw

theorem Covered.take (h : l.Covered) (some_ : l.tokens = k + 1) (spares : ∀ group, l.Spares w group) :
    (l.take w k).Covered := by
  intro group
  have fewer := card_owed_serve_lt h (spares group)
  have owed : (l.take w k).owed group = (l.serve w).owed group := rfl
  rw [owed]
  simp only [Ledger.supply, Ledger.take, Ledger.serve, some_] at fewer ⊢
  omega

variable [DecidableEq ι]

def count (l : Ledger θ ι) (n : ι) (waiting : Finset θ) (k : ℕ) : Ledger θ ι :=
  { l with outstanding := Function.update l.outstanding n k, seen := Function.update l.seen n waiting }

def put (l : Ledger θ ι) (n : ι) (k : ℕ) : Ledger θ ι :=
  { l with tokens := l.tokens + 1, outstanding := Function.update l.outstanding n k }

def finish (l : Ledger θ ι) (n : ι) : Ledger θ ι :=
  { l with told := l.told ∪ l.seen n, seen := Function.update l.seen n ∅ }

def hand (l : Ledger θ ι) (n : ι) (w : θ) (k : ℕ) : Ledger θ ι :=
  { l.serve w with outstanding := Function.update l.outstanding n k }

theorem sum_update {group : Finset ι} (hn : n ∈ group) (f : ι → ℕ) :
    ∑ m ∈ group, Function.update f n k m + f n = ∑ m ∈ group, f m + k := by
  rw [Finset.sum_update_of_mem hn, ← Finset.sum_sdiff (Finset.singleton_subset_iff.mpr hn)]
  simp only [Finset.sum_singleton]
  omega

theorem Covered.count (h : l.Covered) {waiting : Finset θ} (rests : l.outstanding n = 0)
    (enough : waiting.card ≤ k) : (l.count n waiting k).Covered := by
  intro group
  by_cases hn : n ∈ group
  · have owed : (l.count n waiting k).owed group ⊆ l.owed (group.erase n) ∪ waiting := by
      intro u hu
      simp only [Finset.mem_union, mem_owed, Finset.mem_erase]
      rcases mem_owed.mp hu with told | ⟨m, hm, seen⟩
      · exact .inl (.inl told)
      · by_cases same : m = n
        · subst same
          exact .inr (by simpa [Ledger.count] using seen)
        · exact .inl (.inr ⟨m, ⟨same, hm⟩, by simpa [Ledger.count, same] using seen⟩)
    have rest : ∑ m ∈ group.erase n, l.outstanding m = ∑ m ∈ group, l.outstanding m := by
      rw [← Finset.sum_erase_add group l.outstanding hn, rests, Nat.add_zero]
    have supply := sum_update (k := k) hn l.outstanding
    calc ((l.count n waiting k).owed group).card
        ≤ (l.owed (group.erase n)).card + waiting.card :=
          (Finset.card_le_card owed).trans (Finset.card_union_le _ _)
      _ ≤ l.supply (group.erase n) + k := Nat.add_le_add (h _) enough
      _ = (l.count n waiting k).supply group := by
          simp only [Ledger.supply, Ledger.count, rest]
          omega
  · have owed : (l.count n waiting k).owed group = l.owed group := by
      ext u
      simp only [mem_owed, Ledger.count]
      refine or_congr_right (exists_congr fun m => and_congr_right fun hm => ?_)
      rw [Function.update_of_ne (ne_of_mem_of_not_mem hm hn)]
    rw [owed]
    simpa only [Ledger.supply, Ledger.count, Finset.sum_update_of_notMem hn] using h group

theorem Covered.put (h : l.Covered) (pending : l.outstanding n = k + 1) : (l.put n k).Covered := by
  intro group
  refine (h group).trans ?_
  simp only [Ledger.supply, Ledger.put]
  by_cases hn : n ∈ group
  · have := sum_update (k := k) hn l.outstanding
    omega
  · rw [Finset.sum_update_of_notMem hn]
    omega

theorem Covered.finish (h : l.Covered) (through : l.outstanding n = 0) : (l.finish n).Covered := by
  intro group
  have owed : (l.finish n).owed group ⊆ l.owed (insert n group) := by
    intro u hu
    simp only [mem_owed, Ledger.finish, Finset.mem_union] at hu
    refine mem_owed.mpr ?_
    rcases hu with (told | seen) | ⟨m, hm, seen⟩
    · exact .inl told
    · exact .inr ⟨n, Finset.mem_insert_self n group, seen⟩
    · by_cases same : m = n
      · subst same
        simp at seen
      · exact .inr ⟨m, Finset.mem_insert_of_mem hm, by simpa [same] using seen⟩
  have supply : l.supply (insert n group) = (l.finish n).supply group := by
    simp only [Ledger.supply, Ledger.finish, Finset.sum_insert_of_eq_zero_if_notMem fun _ => through]
  exact (Finset.card_le_card owed).trans ((h _).trans_eq supply)

theorem Covered.hand (h : l.Covered) (pending : l.outstanding n = k + 1)
    (spares : ∀ group, n ∈ group → l.Spares w group) : (l.hand n w k).Covered := by
  intro group
  have owed : (l.hand n w k).owed group = (l.serve w).owed group := rfl
  rw [owed]
  by_cases hn : n ∈ group
  · have fewer := card_owed_serve_lt h (spares group hn)
    have sum := sum_update (k := k) hn l.outstanding
    simp only [Ledger.supply, Ledger.hand, Ledger.serve] at fewer ⊢
    omega
  · have same : (l.hand n w k).supply group = l.supply group := by
      simp only [Ledger.supply, Ledger.hand, Ledger.serve, Finset.sum_update_of_notMem hn]
    rw [same, owed_serve]
    exact (Finset.card_erase_le).trans (h group)

end Ledger
end TactileSensors.Machine
