import Mathlib.Data.List.Basic

/-!
# Calls that give results

A step may fail, or give a state and a result. A component whose steps give the results of another, and keep
a relation to its states, gives its results in every run.
-/

namespace TactileSensors.Machine

variable {σ τ α ρ : Type} {step : σ → α → Option (σ × ρ)} {spec : τ → α → τ × ρ}

def results (step : σ → α → Option (σ × ρ)) (s : σ) : List α → Option (σ × List ρ)
  | [] => some (s, [])
  | a :: calls => do
      let (s, r) ← step s a
      let (s, rs) ← results step s calls
      return (s, r :: rs)

def expected (spec : τ → α → τ × ρ) (t : τ) : List α → τ × List ρ
  | [] => (t, [])
  | a :: calls => ((expected spec (spec t a).1 calls).1, (spec t a).2 :: (expected spec (spec t a).1 calls).2)

theorem results_eq_expected {R : σ → τ → Prop}
    (simulates : ∀ s t a, R s t → ∃ s', step s a = some (s', (spec t a).2) ∧ R s' (spec t a).1)
    {s : σ} {t : τ} (related : R s t) (calls : List α) :
    ∃ s', results step s calls = some (s', (expected spec t calls).2) ∧ R s' (expected spec t calls).1 := by
  induction calls generalizing s t with
  | nil => exact ⟨s, rfl, related⟩
  | cons a calls ih =>
      obtain ⟨mid, first, kept⟩ := simulates s t a related
      obtain ⟨s', rest, last⟩ := ih kept
      refine ⟨s', ?_, last⟩
      rw [results, first]
      simp [rest, expected]

end TactileSensors.Machine
