import Mathlib.Data.List.Basic

/-!
# Walking from tag to tag

A reader that takes a tag, acts on it and on what follows, and skips what it consumed of that. Where
what it consumes is a matter of the data alone, it is a fold over the tags that are met.
-/

namespace TactileSensors.Scan

variable {σ β : Type*}

/-- `skip` symbols more belong to the last field. -/
def walkFrom (field : σ → β → List β → σ × Nat) (s : σ) : Nat → List β → σ
  | _, [] => s
  | skip + 1, _ :: rest => walkFrom field s skip rest
  | 0, tag :: rest => walkFrom field (field s tag rest).1 (field s tag rest).2 rest

def walk (field : σ → β → List β → σ × Nat) (s : σ) (data : List β) : σ :=
  walkFrom field s 0 data

theorem walkFrom_eq (field : σ → β → List β → σ × Nat) (s : σ) (skip : Nat) (data : List β) :
    walkFrom field s skip data = walk field s (data.drop skip) := by
  induction skip generalizing data with
  | zero => rfl
  | succ skip ih =>
      cases data with
      | nil => rfl
      | cons symbol rest => exact ih rest

@[simp] theorem walk_nil (field : σ → β → List β → σ × Nat) (s : σ) : walk field s [] = s := rfl

theorem walk_cons (field : σ → β → List β → σ × Nat) (s : σ) (tag : β) (rest : List β) :
    walk field s (tag :: rest) = walk field (field s tag rest).1 (rest.drop (field s tag rest).2) :=
  walkFrom_eq field _ _ rest

theorem drop_induction {motive : List β → Prop} (nil : motive [])
    (cons : ∀ tag rest, (∀ n, motive (rest.drop n)) → motive (tag :: rest)) (data : List β) :
    motive data := by
  have every : ∀ n, motive (data.drop n) := by
    induction data with
    | nil => simpa using nil
    | cons tag rest ih =>
        rintro (_ | n)
        · exact cons tag rest ih
        · exact ih n
  exact every 0

def metFrom (size : β → List β → Nat) : Nat → List β → List (β × List β)
  | _, [] => []
  | skip + 1, _ :: rest => metFrom size skip rest
  | 0, tag :: rest => (tag, rest) :: metFrom size (size tag rest) rest

/-- The tags of the data, each with what follows it, where a tag takes what `size` says. -/
def met (size : β → List β → Nat) (data : List β) : List (β × List β) :=
  metFrom size 0 data

theorem metFrom_eq (size : β → List β → Nat) (skip : Nat) (data : List β) :
    metFrom size skip data = met size (data.drop skip) := by
  induction skip generalizing data with
  | zero => rfl
  | succ skip ih =>
      cases data with
      | nil => rfl
      | cons symbol rest => exact ih rest

@[simp] theorem met_nil (size : β → List β → Nat) : met size [] = [] := rfl

theorem met_cons (size : β → List β → Nat) (tag : β) (rest : List β) :
    met size (tag :: rest) = (tag, rest) :: met size (rest.drop (size tag rest)) :=
  congrArg ((tag, rest) :: ·) (metFrom_eq size _ rest)

theorem met_field {size : β → List β → Nat} {tag : β} {value rest : List β}
    (taken : size tag (value ++ rest) = value.length) :
    met size (tag :: value ++ rest) = (tag, value ++ rest) :: met size rest := by
  rw [List.cons_append, met_cons, taken, List.drop_left]

theorem met_append {size : β → List β → Nat} {data : List β} (rest : List β)
    (within : ∀ m ∈ met size data, size m.1 (m.2 ++ rest) = size m.1 m.2 ∧ size m.1 m.2 ≤ m.2.length) :
    met size (data ++ rest) = (met size data).map (fun m => (m.1, m.2 ++ rest)) ++ met size rest := by
  induction data using drop_induction with
  | nil => rfl
  | cons tag data ih =>
      rw [met_cons] at within ⊢
      obtain ⟨same, fits⟩ := within _ List.mem_cons_self
      rw [List.cons_append, met_cons, same, List.drop_append_of_le_length fits,
        ih _ fun m hm => within m (List.mem_cons_of_mem _ hm)]
      rfl

theorem met_append_of_not {size : β → List β → Nat} {passed : β × List β → Prop}
    (within : ∀ m rest, passed m → size m.1 (m.2 ++ rest) = size m.1 m.2 ∧ size m.1 m.2 ≤ m.2.length)
    {data : List β} (stops : ∃ m ∈ met size data, ¬ passed m) :
    ∃ (before : List (β × List β)) (m : β × List β), (∀ b ∈ before, passed b) ∧ ¬ passed m ∧
      ∀ rest, met size (data ++ rest) =
        before.map (fun b => (b.1, b.2 ++ rest)) ++ met size (m.1 :: (m.2 ++ rest)) := by
  induction data using drop_induction with
  | nil => exact absurd stops (by simp)
  | cons tag data ih =>
      by_cases here : passed (tag, data)
      · have later : ∃ m ∈ met size (data.drop (size tag data)), ¬ passed m := by
          obtain ⟨m, hm, stopped⟩ := stops
          rw [met_cons] at hm
          rcases List.mem_cons.mp hm with rfl | hm
          · exact absurd here stopped
          · exact ⟨m, hm, stopped⟩
        obtain ⟨before, m, passes, stopped, same⟩ := ih _ later
        refine ⟨(tag, data) :: before, m, List.forall_mem_cons.mpr ⟨here, passes⟩, stopped, fun rest => ?_⟩
        obtain ⟨size_eq, fits⟩ := within _ rest here
        rw [List.cons_append, met_cons, size_eq, List.drop_append_of_le_length fits, same rest]
        rfl
      · exact ⟨[], (tag, data), nofun, here, fun _ => rfl⟩

theorem walk_eq_foldl {field : σ → β → List β → σ × Nat} {size : β → List β → Nat} {data : List β}
    (takes : ∀ tag rest, (tag, rest) ∈ met size data → ∀ s, (field s tag rest).2 = size tag rest)
    (s : σ) : walk field s data = (met size data).foldl (fun s m => (field s m.1 m.2).1) s := by
  induction data using drop_induction generalizing s with
  | nil => rfl
  | cons tag rest ih =>
      rw [met_cons] at takes ⊢
      rw [walk_cons, List.foldl_cons, takes tag rest List.mem_cons_self]
      exact ih _ (fun tag' rest' hm => takes tag' rest' (List.mem_cons_of_mem _ hm)) _

section
variable {field : σ → β → List β → σ × Nat} {idle : β → Prop}

theorem walk_whole {s s' : σ} {tag : β} {value rest : List β}
    (whole : field s tag (value ++ rest) = (s', value.length)) :
    walk field s (tag :: value ++ rest) = walk field s' rest := by
  rw [List.cons_append, walk_cons, whole, List.drop_left]

theorem walk_idle (skips : ∀ symbol, idle symbol → ∀ s rest, field s symbol rest = (s, 0))
    {data : List β} (quiet : ∀ symbol ∈ data, idle symbol) (s : σ) (rest : List β) :
    walk field s (data ++ rest) = walk field s rest := by
  induction data with
  | nil => rfl
  | cons symbol data ih =>
      rw [List.forall_mem_cons] at quiet
      rw [List.cons_append, walk_cons, skips symbol quiet.1, List.drop_zero]
      exact ih quiet.2

theorem walk_keeps {P : σ → Prop} (keeps : ∀ s tag rest, P s → P (field s tag rest).1) {s : σ}
    (start : P s) (data : List β) : P (walk field s data) := by
  induction data using drop_induction generalizing s with
  | nil => exact start
  | cons tag rest ih =>
      rw [walk_cons]
      exact ih _ (keeps s tag rest start)

theorem walk_loud {P : σ → Prop} (skips : ∀ symbol, idle symbol → ∀ s rest, field s symbol rest = (s, 0))
    (raises : ∀ symbol, ¬ idle symbol → ∀ s rest, P (field s symbol rest).1)
    (keeps : ∀ s tag rest, P s → P (field s tag rest).1) {data : List β} (s : σ)
    (loud : ∃ symbol ∈ data, ¬ idle symbol) : P (walk field s data) := by
  induction data with
  | nil =>
      obtain ⟨symbol, hsymbol, -⟩ := loud
      cases hsymbol
  | cons symbol data ih =>
      rw [walk_cons]
      by_cases quiet : idle symbol
      · rw [skips symbol quiet, List.drop_zero]
        obtain ⟨other, hother, speaks⟩ := loud
        rcases List.mem_cons.mp hother with rfl | later
        · exact absurd quiet speaks
        · exact ih ⟨other, later, speaks⟩
      · exact walk_keeps keeps (raises symbol quiet s data) _

theorem walk_filter {φ : Type*} {encode : φ → List β} {present : φ → Bool}
    (acts : ∀ f, present f → ∃ next : σ → σ, ∀ s rest,
      walk field s (encode f ++ rest) = walk field (next s) rest) {fields : List φ}
    (skipped : ∀ f ∈ fields, present f = false → ∀ s rest,
      walk field s (encode f ++ rest) = walk field s rest) (s : σ) :
    walk field s (fields.flatMap encode) = walk field s ((fields.filter present).flatMap encode) := by
  induction fields generalizing s with
  | nil => rfl
  | cons f fields ih =>
      rw [List.forall_mem_cons] at skipped
      rw [List.flatMap_cons]
      cases here : present f with
      | false => rw [skipped.1 here, List.filter_cons_of_neg (by simp [here]), ih skipped.2]
      | true =>
          obtain ⟨next, act⟩ := acts f here
          rw [List.filter_cons_of_pos here, List.flatMap_cons, act, act, ih skipped.2]

end

end TactileSensors.Scan
