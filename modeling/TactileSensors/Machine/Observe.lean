import TactileSensors.Machine.Run

/-!
# An observer of runs

Notes that are taken of the steps of a system, and that the system does not see: what a statement about
a run has to remember of it.
-/

namespace TactileSensors.Machine

variable {σ ω α : Type*} {step : σ → α → Option σ} {note : σ → α → σ → ω → ω}

def observed (step : σ → α → Option σ) (note : σ → α → σ → ω → ω) (s : σ × ω) (a : α) :
    Option (σ × ω) :=
  (step s.1 a).map fun s' => (s', note s.1 a s' s.2)

theorem observed_eq_some {s s' : σ × ω} {a : α} :
    observed step note s a = some s' ↔ step s.1 a = some s'.1 ∧ s'.2 = note s.1 a s'.1 s.2 := by
  rw [observed, Option.map_eq_some_iff]
  constructor
  · rintro ⟨t, ht, rfl⟩
    exact ⟨ht, rfl⟩
  · rintro ⟨hs, hw⟩
    exact ⟨s'.1, hs, Prod.ext rfl hw.symm⟩

theorem observed_pair_eq_some {s s' : σ} {w w' : ω} {a : α} :
    observed step note (s, w) a = some (s', w') ↔ step s a = some s' ∧ w' = note s a s' w :=
  observed_eq_some

theorem exists_run_observed {s s' : σ} {labels : List α} (hrun : run step s labels = some s') (w : ω) :
    ∃ w', run (observed step note) (s, w) labels = some (s', w') := by
  induction labels generalizing s w with
  | nil => cases hrun; exact ⟨w, rfl⟩
  | cons a labels ih =>
      obtain ⟨mid, ha, hrest⟩ := run_cons_eq_some.mp hrun
      obtain ⟨w', h⟩ := ih hrest (note s a mid w)
      exact ⟨w', run_cons_eq_some.mpr ⟨_, observed_eq_some.mpr ⟨ha, rfl⟩, h⟩⟩

end TactileSensors.Machine
