import Mathlib.Logic.Basic

/-!
# Calls that return or stop

A program of a C library is a function of the state it works on that returns a value or stops with
an error, and leaves a state either way: `EStateM`. What a sequence of calls does is what the first
does, and then the rest if it returned.
-/

namespace TactileSensors.Machine

variable {ε σ α β : Type}

theorem bind_of_ok {x : EStateM ε σ α} {f : α → EStateM ε σ β} {s mid : σ} {a : α}
    (first : x s = .ok a mid) : (x >>= f) s = f a mid := by
  change EStateM.bind x f s = _
  rw [EStateM.bind, first]

theorem bind_of_error {x : EStateM ε σ α} {f : α → EStateM ε σ β} {s mid : σ} {e : ε}
    (first : x s = .error e mid) : (x >>= f) s = .error e mid := by
  change EStateM.bind x f s = _
  rw [EStateM.bind, first]

theorem bind_eq_ok {x : EStateM ε σ α} {f : α → EStateM ε σ β} {s s' : σ} {b : β} :
    (x >>= f) s = .ok b s' ↔ ∃ a mid, x s = .ok a mid ∧ f a mid = .ok b s' := by
  cases first : x s with
  | ok a mid => simp [bind_of_ok first, and_assoc]
  | error e mid => simp [bind_of_error first]

theorem bind_apply_congr {x y : EStateM ε σ α} {f : α → EStateM ε σ β} {s t : σ} (same : x s = y t) :
    (x >>= f) s = (y >>= f) t := by
  cases first : y t with
  | ok a mid => rw [bind_of_ok first, bind_of_ok (same.trans first)]
  | error e mid => rw [bind_of_error first, bind_of_error (same.trans first)]

theorem bind_assoc_apply {γ : Type} {x : EStateM ε σ α} {f : α → EStateM ε σ β}
    {g : β → EStateM ε σ γ} (s : σ) : ((x >>= f) >>= g) s = (x >>= fun a => f a >>= g) s := by
  cases first : x s with
  | ok a mid => rw [bind_of_ok first, bind_apply_congr (bind_of_ok first)]
  | error e mid => rw [bind_of_error first, bind_of_error (bind_of_error first)]

theorem modify_apply (f : σ → σ) (s : σ) :
    (modify f : EStateM ε σ PUnit) s = .ok ⟨⟩ (f s) :=
  rfl

theorem get_apply (s : σ) : (get : EStateM ε σ σ) s = .ok s s :=
  rfl

theorem pure_apply (a : α) (s : σ) : (pure a : EStateM ε σ α) s = .ok a s :=
  rfl

/-- `Q` of what a call returned and left, or `E` of what stopped it. -/
def After (call : EStateM ε σ α) (s : σ) (Q : α → σ → Prop) (E : ε → σ → Prop) : Prop :=
  match call s with
  | .ok a s' => Q a s'
  | .error e s' => E e s'

section
variable {E : ε → σ → Prop} {s : σ}

theorem after_bind {x : EStateM ε σ α} {f : α → EStateM ε σ β} {Q : β → σ → Prop} :
    After (x >>= f) s Q E ↔ After x s (fun a mid => After (f a) mid Q E) E := by
  unfold After
  cases first : x s with
  | ok a mid => simp only [bind_of_ok first]
  | error e mid => simp only [bind_of_error first]

theorem After.imp {x : EStateM ε σ α} {Q Q' : α → σ → Prop} (after : After x s Q E)
    (stronger : ∀ a s', Q a s' → Q' a s') : After x s Q' E := by
  unfold After at after ⊢
  split
  · rename_i done
    rw [done] at after
    exact stronger _ _ after
  · rename_i stopped
    rw [stopped] at after
    exact after

theorem after_pure {a : α} {Q : α → σ → Prop} : After (pure a) s Q E ↔ Q a s := Iff.rfl

theorem after_get {Q : σ → σ → Prop} : After (get : EStateM ε σ σ) s Q E ↔ Q s s := Iff.rfl

theorem after_modify {f : σ → σ} {Q : PUnit → σ → Prop} :
    After (modify f : EStateM ε σ PUnit) s Q E ↔ Q ⟨⟩ (f s) := Iff.rfl

theorem after_throw {e : ε} {Q : α → σ → Prop} : After (throw e : EStateM ε σ α) s Q E ↔ E e s := Iff.rfl

end

def caught : EStateM.Result ε σ α → Except ε α × σ
  | .ok a s => (.ok a, s)
  | .error e s => (.error e, s)

def attempts : List (EStateM ε σ α) → σ → List (Except ε α) × σ
  | [], s => ([], s)
  | call :: calls, s =>
      ((caught (call s)).1 :: (attempts calls (caught (call s)).2).1, (attempts calls (caught (call s)).2).2)

theorem attempts_refine {τ ι : Type} {R : σ → τ → Prop} {call : ι → EStateM ε σ α}
    {model : ι → EStateM ε τ α}
    (step : ∀ i s t, R s t → (caught (call i s)).1 = (caught (model i t)).1 ∧
      R (caught (call i s)).2 (caught (model i t)).2)
    (items : List ι) {s : σ} {t : τ} (related : R s t) :
    (attempts (items.map call) s).1 = (attempts (items.map model) t).1 ∧
      R (attempts (items.map call) s).2 (attempts (items.map model) t).2 := by
  induction items generalizing s t with
  | nil => exact ⟨rfl, related⟩
  | cons i items ih =>
      obtain ⟨same, after⟩ := step i s t related
      obtain ⟨others, last⟩ := ih after
      exact ⟨congrArg₂ List.cons same others, last⟩

end TactileSensors.Machine
