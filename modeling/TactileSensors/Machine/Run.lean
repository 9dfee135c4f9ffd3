import Mathlib.Data.List.Basic
import Mathlib.Data.List.Infix

/-!
# Runs of a partial step function

A system is a step function `σ → α → Option σ` over a state and a label: a label the state does not
allow has no successor. Everything a thread, an operating system or a device may choose is in the
labels, so a run is a list of labels and a statement about every interleaving is one about every
list.
-/

namespace TactileSensors.Machine

variable {σ τ α β : Type*} {step : σ → α → Option σ}

def run (step : σ → α → Option σ) (s : σ) (labels : List α) : Option σ :=
  labels.foldlM step s

@[simp] theorem run_nil (s : σ) : run step s [] = some s := rfl

@[simp] theorem run_cons (s : σ) (a : α) (labels : List α) :
    run step s (a :: labels) = (step s a).bind fun s' => run step s' labels := rfl

theorem run_cons_eq_some {s s' : σ} {a : α} {labels : List α} :
    run step s (a :: labels) = some s' ↔ ∃ mid, step s a = some mid ∧ run step mid labels = some s' := by
  simp [Option.bind_eq_some_iff]

theorem run_append (s : σ) (first rest : List α) :
    run step s (first ++ rest) = (run step s first).bind fun mid => run step mid rest := by
  simp [run, List.foldlM_append]

theorem run_append_eq_some {s s' : σ} {first rest : List α} :
    run step s (first ++ rest) = some s' ↔
      ∃ mid, run step s first = some mid ∧ run step mid rest = some s' := by
  simp [run_append, Option.bind_eq_some_iff]

theorem run_trans {s mid s' : σ} {first rest : List α} (h₁ : run step s first = some mid)
    (h₂ : run step mid rest = some s') : run step s (first ++ rest) = some s' :=
  run_append_eq_some.mpr ⟨mid, h₁, h₂⟩

theorem run_invariant {Inv : σ → Prop}
    (keeps : ∀ s a s', Inv s → step s a = some s' → Inv s')
    {s s' : σ} {labels : List α} (hrun : run step s labels = some s') (hs : Inv s) : Inv s' := by
  induction labels generalizing s with
  | nil => cases hrun; exact hs
  | cons a labels ih =>
      obtain ⟨mid, ha, hrest⟩ := run_cons_eq_some.mp hrun
      exact ih hrest (keeps s a mid hs ha)

theorem run_induction {R : σ → σ → Prop} (refl : ∀ s, R s s)
    (keeps : ∀ s t a t', R s t → step t a = some t' → R s t')
    {s s' : σ} {labels : List α} (hrun : run step s labels = some s') : R s s' :=
  run_invariant (fun t a t' => keeps s t a t') hrun (refl s)

theorem run_history {R : List α → σ → Prop}
    (keeps : ∀ taken s a s', R taken s → step s a = some s' → R (taken ++ [a]) s')
    {s s' : σ} {taken labels : List α} (hrun : run step s labels = some s') (hs : R taken s) :
    R (taken ++ labels) s' := by
  induction labels generalizing s taken with
  | nil => cases hrun; simpa using hs
  | cons a labels ih =>
      obtain ⟨mid, ha, hrest⟩ := run_cons_eq_some.mp hrun
      simpa using ih hrest (keeps taken s a mid hs ha)

theorem run_history_of_first {R : List α → σ → Prop} {s₀ : σ} {a : α}
    (begun : ∀ s, step s₀ a = some s → R [a] s)
    (keeps : ∀ taken s b s', run step s₀ taken = some s → R taken s → step s b = some s' →
      R (taken ++ [b]) s')
    {s' : σ} {labels : List α} (hrun : run step s₀ (a :: labels) = some s') : R (a :: labels) s' := by
  obtain ⟨mid, hfirst, hrest⟩ := run_cons_eq_some.mp hrun
  have first : run step s₀ [a] = some mid := run_cons_eq_some.mpr ⟨mid, hfirst, rfl⟩
  -- a step may need the run so far, which is carried along
  refine (run_history (R := fun taken s => run step s₀ taken = some s ∧ R taken s)
    (fun taken s b s' inv hstep => ?_) hrest ⟨first, begun mid hfirst⟩).2
  obtain ⟨sofar, holds⟩ := inv
  exact ⟨run_trans sofar (run_cons_eq_some.mpr ⟨s', hstep, rfl⟩), keeps taken s b s' sofar holds hstep⟩

theorem run_filter {Inv : σ → Prop} {keep : α → Bool} {labels : List α}
    (keeps : ∀ s, ∀ a ∈ labels, ∀ s', Inv s → step s a = some s' → Inv s')
    (still : ∀ s, ∀ a ∈ labels, keep a = false → Inv s → step s a = some s) {s : σ} (hs : Inv s) :
    run step s (labels.filter keep) = run step s labels := by
  induction labels generalizing s with
  | nil => rfl
  | cons a labels ih =>
      have later : ∀ {t}, Inv t → run step t (labels.filter keep) = run step t labels :=
        ih (fun s b hb => keeps s b (List.mem_cons_of_mem a hb))
          fun s b hb => still s b (List.mem_cons_of_mem a hb)
      cases kept : keep a with
      | false =>
          rw [List.filter_cons_of_neg (by simp [kept]), run_cons,
            still s a List.mem_cons_self kept hs]
          exact later hs
      | true =>
          rw [List.filter_cons_of_pos kept, run_cons, run_cons]
          cases next : step s a with
          | none => rfl
          | some mid => exact later (keeps s a List.mem_cons_self mid hs next)

theorem run_some (f : σ → α → σ) (s : σ) (labels : List α) :
    run (fun s a => some (f s a)) s labels = some (labels.foldl f s) := by
  induction labels generalizing s with
  | nil => rfl
  | cons a labels ih => exact ih (f s a)

theorem foldl_filter {f : σ → α → σ} {Inv : σ → Prop} {keep : α → Bool} {labels : List α}
    (keeps : ∀ s, ∀ a ∈ labels, Inv s → Inv (f s a))
    (still : ∀ s, ∀ a ∈ labels, keep a = false → Inv s → f s a = s) {s : σ} (hs : Inv s) :
    (labels.filter keep).foldl f s = labels.foldl f s := by
  have same := @run_filter _ _ (fun s a => some (f s a)) Inv keep labels
    (fun s a ha s' inv step => Option.some.inj step ▸ keeps s a ha inv)
    (fun s a ha away inv => congrArg some (still s a ha away inv)) s hs
  rw [run_some, run_some] at same
  exact Option.some.inj same

theorem forall_split_concat {P : List α → Prop} {labels : List α} {a b : α} :
    (∀ before after, labels ++ [a] = before ++ b :: after → P before) ↔
      (∀ before after, labels = before ++ b :: after → P before) ∧ (a = b → P labels) := by
  constructor
  · intro h
    refine ⟨fun before after split => ?_, fun same => h labels [] (by rw [same])⟩
    exact h before (after ++ [a]) (by simp [split])
  · rintro ⟨earlier, last⟩ before after split
    rcases List.eq_nil_or_concat after with rfl | ⟨after, final, rfl⟩
    · obtain ⟨rfl, same⟩ := List.append_inj' split rfl
      exact last (List.cons.inj same).1
    · have split' : labels ++ [a] = (before ++ b :: after) ++ [final] := by
        simpa using split
      exact earlier before after (List.append_inj' split' rfl).1

/-- Each step of the run is taken in a state, and with a label, that meet `condition`. -/
def StepsMeet (step : σ → α → Option σ) (condition : σ → α → Prop) (s : σ) (labels : List α) : Prop :=
  ∀ before a after mid, labels = before ++ a :: after → run step s before = some mid → condition mid a

/-- Some step of the run is. -/
def SomeStepMeets (step : σ → α → Option σ) (condition : σ → α → Prop) (s : σ) (labels : List α) :
    Prop :=
  ∃ before a after mid, labels = before ++ a :: after ∧ run step s before = some mid ∧ condition mid a

/-- `P` holds at the start of the run and after each of its steps. -/
def Throughout (step : σ → α → Option σ) (P : σ → Prop) (s : σ) (labels : List α) : Prop :=
  ∀ before after mid, labels = before ++ after → run step s before = some mid → P mid

theorem StepsMeet.head {condition : σ → α → Prop} {s : σ} {a : α} {labels : List α}
    (h : StepsMeet step condition s (a :: labels)) : condition s a :=
  h [] a labels s rfl rfl

theorem StepsMeet.tail {condition : σ → α → Prop} {s mid : σ} {a : α} {labels : List α}
    (h : StepsMeet step condition s (a :: labels)) (ha : step s a = some mid) :
    StepsMeet step condition mid labels := by
  intro before b after t hsplit hrun
  exact h (a :: before) b after t (by rw [hsplit]; rfl) (run_cons_eq_some.mpr ⟨mid, ha, hrun⟩)

theorem StepsMeet.left {condition : σ → α → Prop} {s : σ} {first rest : List α}
    (h : StepsMeet step condition s (first ++ rest)) : StepsMeet step condition s first := by
  rintro before a after mid rfl hrun
  exact h before a (after ++ rest) mid (by simp) hrun

theorem SomeStepMeets.append {condition : σ → α → Prop} {s : σ} {labels : List α}
    (h : SomeStepMeets step condition s labels) (more : List α) :
    SomeStepMeets step condition s (labels ++ more) := by
  obtain ⟨before, a, after, mid, rfl, hrun, meets⟩ := h
  exact ⟨before, a, after ++ more, mid, by simp, hrun, meets⟩

theorem someStepMeets_concat {condition : σ → α → Prop} {s mid : σ} {a : α} {taken : List α}
    (hrun : run step s taken = some mid) (meets : condition mid a) :
    SomeStepMeets step condition s (taken ++ [a]) :=
  ⟨taken, a, [], mid, rfl, hrun, meets⟩

theorem stepsMeet_of_forall_mem {condition : α → Prop} {s : σ} {labels : List α}
    (all : ∀ a ∈ labels, condition a) : StepsMeet step (fun _ a => condition a) s labels := by
  rintro before a after mid rfl -
  exact all a (by simp)

theorem stepsMeet_iff_forall_mem {condition : α → Prop} {s s' : σ} {labels : List α}
    (hrun : run step s labels = some s') :
    StepsMeet step (fun _ a => condition a) s labels ↔ ∀ a ∈ labels, condition a := by
  refine ⟨fun meets a ha => ?_, stepsMeet_of_forall_mem⟩
  obtain ⟨before, after, rfl⟩ := List.append_of_mem ha
  obtain ⟨mid, hbefore, -⟩ := run_append_eq_some.mp hrun
  exact meets before a after mid rfl hbefore

theorem Throughout.head {P : σ → Prop} {s : σ} {labels : List α}
    (h : Throughout step P s labels) : P s :=
  h [] labels s rfl rfl

theorem Throughout.last {P : σ → Prop} {s s' : σ} {labels : List α}
    (h : Throughout step P s labels) (hrun : run step s labels = some s') : P s' :=
  h labels [] s' (List.append_nil labels).symm hrun

theorem throughout_cons {P : σ → Prop} {s mid : σ} {a : α} {labels : List α}
    (ha : step s a = some mid) :
    Throughout step P s (a :: labels) ↔ P s ∧ Throughout step P mid labels := by
  constructor
  · intro h
    refine ⟨h.head, fun before after t hsplit hrun => ?_⟩
    exact h (a :: before) after t (by rw [hsplit]; rfl) (run_cons_eq_some.mpr ⟨mid, ha, hrun⟩)
  · rintro ⟨hs, h⟩ before after t hsplit hrun
    cases before with
    | nil => cases hrun; exact hs
    | cons b before =>
        obtain ⟨rfl, hrest⟩ := List.cons.inj hsplit
        obtain ⟨u, hb, hrun⟩ := run_cons_eq_some.mp hrun
        rw [ha] at hb
        cases hb
        exact h before after t hrest hrun

theorem stepsMeet_cons {condition : σ → α → Prop} {s : σ} {a : α} {labels : List α} :
    StepsMeet step condition s (a :: labels) ↔
      condition s a ∧ ∀ mid, step s a = some mid → StepsMeet step condition mid labels := by
  constructor
  · exact fun h => ⟨h.head, fun mid ha => h.tail ha⟩
  · rintro ⟨hs, h⟩ before b after t hsplit hrun
    cases before with
    | nil =>
        obtain ⟨rfl, -⟩ := List.cons.inj hsplit
        cases hrun
        exact hs
    | cons c before =>
        obtain ⟨rfl, hrest⟩ := List.cons.inj hsplit
        obtain ⟨mid, ha, hrun⟩ := run_cons_eq_some.mp hrun
        exact h mid ha before b after t hrest hrun

instance decidableStepsMeet {condition : σ → α → Prop} [∀ s a, Decidable (condition s a)] :
    ∀ (s : σ) (labels : List α), Decidable (StepsMeet step condition s labels)
  | _, [] => isTrue fun _ _ _ _ hsplit => by simp at hsplit
  | s, a :: labels =>
      match ha : step s a with
      | some mid =>
          have : Decidable (StepsMeet step condition mid labels) := decidableStepsMeet mid labels
          decidable_of_iff (condition s a ∧ StepsMeet step condition mid labels)
            (by simp [stepsMeet_cons, ha])
      | none => decidable_of_iff (condition s a) (by simp [stepsMeet_cons, ha])

theorem run_invariant_of_stepsMeet {Inv : σ → Prop} {condition : σ → α → Prop}
    (keeps : ∀ s a s', Inv s → condition s a → step s a = some s' → Inv s')
    {s s' : σ} {labels : List α} (hrun : run step s labels = some s')
    (meets : StepsMeet step condition s labels) (hs : Inv s) : Inv s' := by
  induction labels generalizing s with
  | nil => cases hrun; exact hs
  | cons a labels ih =>
      obtain ⟨mid, ha, hrest⟩ := run_cons_eq_some.mp hrun
      exact ih hrest (meets.tail ha) (keeps s a mid hs meets.head ha)

theorem throughout_of_stepsMeet {Inv P : σ → Prop} {condition : σ → α → Prop}
    (good : ∀ s, Inv s → P s)
    (keeps : ∀ s a s', Inv s → condition s a → step s a = some s' → Inv s')
    {s : σ} {labels : List α} (meets : StepsMeet step condition s labels) (hs : Inv s) :
    Throughout step P s labels := by
  rintro before after mid rfl hrun
  exact good mid (run_invariant_of_stepsMeet keeps hrun meets.left hs)

/-- A condition that keeps the invariant, and whose first violation breaks the property, is exactly
what a run needs for the property to hold throughout. -/
theorem throughout_iff_stepsMeet {Inv P : σ → Prop} {condition : σ → α → Prop}
    (good : ∀ s, Inv s → P s)
    (keeps : ∀ s a s', Inv s → condition s a → step s a = some s' → Inv s')
    (breaks : ∀ s a s', Inv s → ¬ condition s a → step s a = some s' → ¬ P s')
    {s s' : σ} {labels : List α} (hrun : run step s labels = some s') (hs : Inv s) :
    Throughout step P s labels ↔ StepsMeet step condition s labels := by
  induction labels generalizing s with
  | nil =>
      refine iff_of_true ?_ ?_
      · intro before after mid hsplit hmid
        obtain ⟨rfl, -⟩ := List.append_eq_nil_iff.mp hsplit.symm
        cases hmid
        exact good s hs
      · intro before a after mid hsplit
        simp at hsplit
  | cons a labels ih =>
      obtain ⟨mid, ha, hrest⟩ := run_cons_eq_some.mp hrun
      rw [throughout_cons ha, stepsMeet_cons]
      by_cases hc : condition s a
      · rw [ih hrest (keeps s a mid hs hc ha)]
        simp [hc, good s hs, ha]
      · refine iff_of_false (fun h => ?_) (fun h => hc h.1)
        exact breaks s a mid hs hc ha h.2.head

theorem run_project {step' : τ → β → Option τ} (f : τ → σ)
    (shows : ∀ t b t', step' t b = some t' → ∃ labels, run step (f t) labels = some (f t'))
    {t t' : τ} {labels : List β} (hrun : run step' t labels = some t') :
    ∃ labels', run step (f t) labels' = some (f t') := by
  induction labels generalizing t with
  | nil => cases hrun; exact ⟨[], rfl⟩
  | cons b labels ih =>
      obtain ⟨mid, hb, hrest⟩ := run_cons_eq_some.mp hrun
      obtain ⟨first, h₁⟩ := shows t b mid hb
      obtain ⟨rest, h₂⟩ := ih hrest
      exact ⟨first ++ rest, run_trans h₁ h₂⟩

/-- If each step of one system is matched by a run of another, so is each of its runs. -/
theorem run_simulates {step' : τ → β → Option τ} {R : τ → σ → Prop}
    (simulates : ∀ t s b t', R t s → step' t b = some t' →
      ∃ labels s', run step s labels = some s' ∧ R t' s')
    {t t' : τ} {s : σ} {labels : List β} (related : R t s) (hrun : run step' t labels = some t') :
    ∃ labels' s', run step s labels' = some s' ∧ R t' s' := by
  induction labels generalizing t s with
  | nil => cases hrun; exact ⟨[], s, rfl, related⟩
  | cons b labels ih =>
      obtain ⟨mid, hb, hrest⟩ := run_cons_eq_some.mp hrun
      obtain ⟨first, s₁, h₁, related₁⟩ := simulates t s b mid related hb
      obtain ⟨rest, s', h₂, related'⟩ := ih related₁ hrest
      exact ⟨first ++ rest, s', run_trans h₁ h₂, related'⟩

end TactileSensors.Machine
