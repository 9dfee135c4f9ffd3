import Mathlib.Logic.Function.Basic

/-!
# Threads at their points, and a lock

Each thread is at a point of its program, and some of the points are inside the sections of one lock.
-/

namespace TactileSensors.Machine

variable {θ π : Type*} {inside : π → Bool} {point point' : θ → π} {holder : Option θ}

def Exclusive (inside : π → Bool) (point : θ → π) (holder : Option θ) : Prop :=
  ∀ t, inside (point t) = true ↔ holder = some t

theorem Exclusive.alone (h : Exclusive inside point holder) {t u : θ}
    (ht : inside (point t) = true) (hu : inside (point u) = true) : t = u :=
  Option.some.inj (((h t).mp ht).symm.trans ((h u).mp hu))

theorem Exclusive.map (h : Exclusive inside point holder)
    (same : ∀ t, inside (point' t) = inside (point t)) : Exclusive inside point' holder := by
  intro t
  rw [same]
  exact h t

variable [DecidableEq θ] {t : θ} {p : π}

theorem update_cases {β : Type*} (f : π → β) {u : θ} {x : β} (h : f (Function.update point t p u) = x) :
    u = t ∧ f p = x ∨ f (point u) = x := by
  by_cases hu : u = t
  · subst hu
    exact .inl ⟨rfl, by simpa using h⟩
  · exact .inr (by simpa [hu] using h)

theorem Exclusive.stay (h : Exclusive inside point holder) (same : inside p = inside (point t)) :
    Exclusive inside (Function.update point t p) holder := by
  refine h.map fun u => ?_
  by_cases hu : u = t
  · subst hu
    simpa using same
  · rw [Function.update_of_ne hu]

theorem Exclusive.acquire (h : Exclusive inside point none) (enters : inside p = true) :
    Exclusive inside (Function.update point t p) (some t) := by
  intro u
  by_cases hu : u = t
  · subst hu
    simpa using enters
  · rw [Function.update_of_ne hu, h u]
    simp [Ne.symm hu]

theorem Exclusive.release (h : Exclusive inside point holder) (was : inside (point t) = true)
    (leaves : inside p = false) : Exclusive inside (Function.update point t p) none := by
  intro u
  by_cases hu : u = t
  · subst hu
    simp [leaves]
  · rw [Function.update_of_ne hu, h u, (h t).mp was]
    simp [Ne.symm hu]

end TactileSensors.Machine
