import Mathlib.Data.List.Basic

/-!
# The newest elements of a history

A bounded queue that drops its oldest element shows the end of everything that was put into it.
-/

namespace TactileSensors.Scan

variable {α β : Type*} {maxlen : ℕ}

def latest (maxlen : ℕ) (history : List α) : List α := history.drop (history.length - maxlen)

def appendBounded (maxlen : ℕ) (queue : List α) (a : α) : List α :=
  if maxlen < queue.length + 1 then (queue ++ [a]).tail else queue ++ [a]

@[simp] theorem latest_nil : latest maxlen ([] : List α) = [] := List.drop_nil

theorem length_latest (history : List α) : (latest maxlen history).length = min maxlen history.length := by
  rw [latest, List.length_drop]
  omega

theorem latest_of_le {history : List α} (few : history.length ≤ maxlen) : latest maxlen history = history := by
  rw [latest, Nat.sub_eq_zero_of_le few, List.drop_zero]

theorem appendBounded_latest (history : List α) (a : α) :
    appendBounded maxlen (latest maxlen history) a = latest maxlen (history ++ [a]) := by
  have size : (latest maxlen history).length = _ := length_latest history
  by_cases few : history.length < maxlen
  · rw [appendBounded, if_neg (by omega), latest_of_le (Nat.le_of_lt few), latest_of_le (by simp; omega)]
  · rw [appendBounded, if_pos (by omega), latest, latest, List.length_append, List.length_singleton,
      ← List.drop_append_of_le_length (Nat.sub_le _ _), List.tail_drop]
    congr 1
    omega

theorem map_latest (f : α → β) (history : List α) :
    (latest maxlen history).map f = latest maxlen (history.map f) := by
  rw [latest, latest, List.map_drop, List.length_map]

end TactileSensors.Scan
