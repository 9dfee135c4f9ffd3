import Mathlib.Data.List.Basic
import Mathlib.Data.Nat.ModEq

/-!
# Rings of slots

Some items lie in the slots from a start on, and go on at the first slot behind the last one.
-/

namespace TactileSensors.Scan

variable {α : Type*} {slots items : List α} {start : ℕ}

structure InRing (slots : List α) (start : ℕ) (items : List α) : Prop where
  start_lt : start < slots.length
  fits : items.length ≤ slots.length
  holds : ∀ i < items.length, slots[(start + i) % slots.length]? = items[i]?

theorem InRing.pos (h : InRing slots start items) : 0 < slots.length := Nat.zero_lt_of_lt h.start_lt

theorem inRing_nil (start_lt : start < slots.length) : InRing slots start [] where
  start_lt := start_lt
  fits := Nat.zero_le _
  holds := nofun

theorem turn_ne {n i j : ℕ} (less : i < j) (near : j < i + n) : i % n ≠ j % n := by
  intro same
  have whole : n ∣ j - i := (Nat.modEq_iff_dvd' less.le).mp same
  have turn := Nat.le_of_dvd (Nat.sub_pos_of_lt less) whole
  omega

theorem InRing.push (h : InRing slots start items) (room : items.length < slots.length) (a : α) :
    InRing (slots.set ((start + items.length) % slots.length) a) start (items ++ [a]) := by
  constructor
  · rw [List.length_set]
    exact h.start_lt
  · rw [List.length_set, List.length_append]
    exact room
  · intro i hi
    rw [List.length_append, List.length_singleton] at hi
    rw [List.length_set]
    by_cases last : i = items.length
    · subst last
      rw [List.getElem?_set_self (Nat.mod_lt _ h.pos), List.getElem?_concat_length]
    · have earlier : i < items.length := by omega
      have other : (start + items.length) % slots.length ≠ (start + i) % slots.length :=
        (turn_ne (by omega) (by omega)).symm
      rw [List.getElem?_set_ne other, List.getElem?_append_left earlier, h.holds i earlier]

theorem InRing.tail (h : InRing slots start items) : InRing slots ((start + 1) % slots.length) items.tail := by
  have shorter : items.tail.length = items.length - 1 := List.length_tail
  constructor
  · exact Nat.mod_lt _ h.pos
  · exact (shorter.trans_le (Nat.sub_le _ 1)).trans h.fits
  · intro i hi
    have next : ((start + 1) % slots.length + i) % slots.length = (start + (i + 1)) % slots.length := by
      rw [Nat.mod_add_mod, Nat.add_assoc, Nat.add_comm 1 i]
    rw [next, h.holds (i + 1) (by omega), List.getElem?_tail]

theorem InRing.push_full (h : InRing slots start items) (full : items.length = slots.length) (a : α) :
    InRing (slots.set ((start + items.length) % slots.length) a) ((start + 1) % slots.length)
      (items.tail ++ [a]) := by
  have pos := h.pos
  have shorter : items.tail.length = items.length - 1 := List.length_tail
  have place : ((start + 1) % slots.length + items.tail.length) % slots.length =
      (start + items.length) % slots.length := by
    rw [Nat.mod_add_mod]
    exact congrArg (· % slots.length) (by omega)
  have pushed := h.tail.push (by omega) a
  rwa [place] at pushed

end TactileSensors.Scan
