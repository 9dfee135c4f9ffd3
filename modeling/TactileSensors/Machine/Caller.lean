import TactileSensors.Machine.Run

/-!
# A caller beside the system

A thread with a program of its own runs beside a system: at each of its points it looks at the state
and goes on to another point, taking at most one action of the system, or it waits. The rest of the
world takes the actions that are allowed to it.
-/

namespace TactileSensors.Machine

variable {σ κ α : Type*} {step : σ → α → Option σ} {allowed : α → Bool}
  {caller : κ → σ → Option (κ × Option α)}

/-- The label `some a` is the world's action `a`, and `none` the caller's next step. -/
def withCaller (allowed : α → Bool) (step : σ → α → Option σ) (caller : κ → σ → Option (κ × Option α)) :
    σ × κ → Option α → Option (σ × κ)
  | (s, k), some a => if allowed a then (step s a).map (·, k) else none
  | (s, k), none =>
      match caller k s with
      | some (k', some a) => (step s a).map (·, k')
      | some (k', none) => some (s, k')
      | none => none

inductive CallerStep (allowed : α → Bool) (step : σ → α → Option σ)
    (caller : κ → σ → Option (κ × Option α)) : σ → κ → Option α → σ → κ → Prop
  | world {s s' : σ} {k : κ} {a : α} (may : allowed a) (hstep : step s a = some s') :
      CallerStep allowed step caller s k (some a) s' k
  | acts {s s' : σ} {k k' : κ} {a : α} (goes : caller k s = some (k', some a))
      (hstep : step s a = some s') : CallerStep allowed step caller s k none s' k'
  | looks {s : σ} {k k' : κ} (goes : caller k s = some (k', none)) :
      CallerStep allowed step caller s k none s k'

theorem withCaller_cases {s s' : σ} {k k' : κ} {label : Option α}
    (h : withCaller allowed step caller (s, k) label = some (s', k')) :
    CallerStep allowed step caller s k label s' k' := by
  cases label with
  | some a =>
      simp only [withCaller, Option.ite_none_right_eq_some, Option.map_eq_some_iff] at h
      obtain ⟨may, t, ht, same⟩ := h
      cases same
      exact .world may ht
  | none =>
      simp only [withCaller] at h
      split at h
      · rename_i goes
        obtain ⟨t, ht, same⟩ := Option.map_eq_some_iff.mp h
        cases same
        exact .acts goes ht
      · rename_i goes
        cases h
        exact .looks goes
      · cases h

theorem step_withCaller {s s' : σ × κ} {label : Option α}
    (hstep : withCaller allowed step caller s label = some s') :
    ∃ actions, run step s.1 actions = some s'.1 := by
  obtain ⟨s, k⟩ := s
  obtain ⟨s', k'⟩ := s'
  cases withCaller_cases hstep with
  | world may ha | acts goes ha => exact ⟨[_], run_cons_eq_some.mpr ⟨_, ha, rfl⟩⟩
  | looks goes => exact ⟨[], rfl⟩

theorem run_withCaller {s s' : σ × κ} {labels : List (Option α)}
    (hrun : run (withCaller allowed step caller) s labels = some s') :
    ∃ actions, run step s.1 actions = some s'.1 :=
  run_project Prod.fst (fun _ _ _ hstep => step_withCaller hstep) hrun

theorem run_world {s s' : σ} {k : κ} {actions : List α} (may : ∀ a ∈ actions, allowed a)
    (hrun : run step s actions = some s') :
    run (withCaller allowed step caller) (s, k) (actions.map some) = some (s', k) := by
  induction actions generalizing s with
  | nil => cases hrun; rfl
  | cons a actions ih =>
      obtain ⟨mid, ha, hrest⟩ := run_cons_eq_some.mp hrun
      refine run_cons_eq_some.mpr ⟨(mid, k), ?_, ih (fun b hb => may b (.tail a hb)) hrest⟩
      simp [withCaller, may a (.head actions), ha]

end TactileSensors.Machine
