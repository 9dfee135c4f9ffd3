import Mathlib.Data.List.Basic

/-!
# Blocks of a sequence

Pieces of a sequence that do not overlap, in the order in which they stand in it.
-/

namespace TactileSensors.Bytes

variable {α : Type}

/-- The blocks stand in the sequence one after the other, with anything between them. -/
inductive Blocks : List (List α) → List α → Prop
  | none (rest : List α) : Blocks [] rest
  | skip (x : α) {blocks : List (List α)} {rest : List α} (later : Blocks blocks rest) :
      Blocks blocks (x :: rest)
  | block (first : List α) {blocks : List (List α)} {rest : List α} (later : Blocks blocks rest) :
      Blocks (first :: blocks) (first ++ rest)

theorem Blocks.single (first rest : List α) : Blocks [first] (first ++ rest) :=
  .block first (.none rest)

theorem Blocks.append_left {blocks : List (List α)} {rest : List α} (gap : List α) (later : Blocks blocks rest) :
    Blocks blocks (gap ++ rest) := by
  induction gap with
  | nil => exact later
  | cons x gap ih => exact .skip x ih

theorem Blocks.append {blocks others : List (List α)} {front rest : List α} (first : Blocks blocks front)
    (later : Blocks others rest) : Blocks (blocks ++ others) (front ++ rest) := by
  induction first with
  | none gap => exact later.append_left gap
  | skip x _ ih => exact .skip x ih
  | block piece _ ih =>
      rw [List.append_assoc]
      exact .block piece ih

theorem Blocks.append_right {blocks : List (List α)} {front : List α} (first : Blocks blocks front)
    (rest : List α) : Blocks blocks (front ++ rest) := by
  have whole := first.append (Blocks.none rest)
  rwa [List.append_nil] at whole

end TactileSensors.Bytes
