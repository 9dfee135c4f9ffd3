import Mathlib.Data.Nat.Find

/-!
# Searching a growing buffer for a window

After each chunk the whole buffer is searched again for a window of a given width. All windows are equally
wide, so the first in the stream is also the first to be whole, and the chunks decide only when it is seen.
-/

namespace TactileSensors.Scan

variable {α : Type*} {valid : List α → Bool} {width : Nat} {stream buffer : List α} {i j : Nat}

def window (width : Nat) (stream : List α) (i : Nat) : List α := (stream.drop i).take width

/-- A whole window that is valid begins at `i`. -/
def Hit (valid : List α → Bool) (width : Nat) (stream : List α) (i : Nat) : Prop :=
  i + width ≤ stream.length ∧ valid (window width stream i) = true

def FirstHit (valid : List α → Bool) (width : Nat) (stream : List α) (i : Nat) : Prop :=
  Hit valid width stream i ∧ ∀ j < i, ¬ Hit valid width stream j

theorem FirstHit.unique (hi : FirstHit valid width stream i) (hj : FirstHit valid width stream j) :
    i = j := by
  rcases Nat.lt_trichotomy i j with less | same | more
  · exact absurd hi.1 (hj.2 i less)
  · exact same
  · exact absurd hj.1 (hi.2 j more)

theorem exists_firstHit (h : ∃ i, Hit valid width stream i) : ∃ i, FirstHit valid width stream i := by
  classical
  exact ⟨Nat.find h, Nat.find_spec h, fun j less => Nat.find_min h less⟩

theorem window_append (inside : i + width ≤ stream.length) (more : List α) :
    window width (stream ++ more) i = window width stream i := by
  rw [window, window, List.drop_append_of_le_length (by omega),
    List.take_append_of_le_length (by rw [List.length_drop]; omega)]

theorem hit_append (inside : i + width ≤ stream.length) (more : List α) :
    Hit valid width (stream ++ more) i ↔ Hit valid width stream i := by
  rw [Hit, Hit, window_append inside, List.length_append]
  exact and_congr_left fun _ => iff_of_true (by omega) inside

theorem Hit.append (h : Hit valid width stream i) (more : List α) : Hit valid width (stream ++ more) i :=
  (hit_append h.1 more).mpr h

theorem FirstHit.append (h : FirstHit valid width stream i) (more : List α) :
    FirstHit valid width (stream ++ more) i := by
  refine ⟨h.1.append more, fun j less hit => h.2 j less ?_⟩
  have inside := h.1.1
  exact (hit_append (by omega) more).mp hit

def findWindow (valid : List α → Bool) (width : Nat) (buffer : List α) : Option Nat :=
  (List.range (buffer.length + 1 - width)).find? fun i => valid (window width buffer i)

theorem findWindow_eq_some : findWindow valid width buffer = some i ↔ FirstHit valid width buffer i := by
  rw [findWindow, List.find?_range_eq_some, FirstHit, Hit, List.mem_range]
  constructor
  · rintro ⟨holds, inside, before⟩
    refine ⟨⟨by omega, holds⟩, fun j less hit => ?_⟩
    have fails := before j less
    rw [hit.2] at fails
    cases fails
  · rintro ⟨⟨inside, holds⟩, before⟩
    refine ⟨holds, by omega, fun j less => ?_⟩
    cases fails : valid (window width buffer j) with
    | false => rfl
    | true => exact absurd ⟨by omega, fails⟩ (before j less)

theorem findWindow_eq_none : findWindow valid width buffer = none ↔ ∀ i, ¬ Hit valid width buffer i := by
  rw [findWindow, List.find?_range_eq_none]
  constructor
  · intro none i hit
    have fails := none i (by have := hit.1; omega)
    rw [hit.2] at fails
    cases fails
  · intro none i inside
    cases fails : valid (window width buffer i) with
    | false => rfl
    | true => exact absurd ⟨by omega, fails⟩ (none i)

def searchChunks (valid : List α → Bool) (width : Nat) (buffer : List α) :
    List (List α) → Option (List α) × Nat
  | [] => (none, 0)
  | chunk :: chunks =>
      match findWindow valid width (buffer ++ chunk) with
      | some i => (some (window width (buffer ++ chunk) i), 1)
      | none =>
          let later := searchChunks valid width (buffer ++ chunk) chunks
          (later.1, later.2 + 1)

structure WholeAt (width : Nat) (buffer : List α) (chunks : List (List α)) (i n : Nat) : Prop where
  available : n ≤ chunks.length
  whole : i + width ≤ (buffer ++ (chunks.take n).flatten).length
  soonest : ∀ m < n, (buffer ++ (chunks.take m).flatten).length < i + width

theorem WholeAt.unique {chunks : List (List α)} {n m : Nat} (hn : WholeAt width buffer chunks i n)
    (hm : WholeAt width buffer chunks i m) : n = m := by
  rcases Nat.lt_trichotomy n m with less | same | more
  · exact absurd hn.whole (Nat.not_le.mpr (hm.soonest n less))
  · exact same
  · exact absurd hm.whole (Nat.not_le.mpr (hn.soonest m more))

theorem searchChunks_of_firstHit {chunks : List (List α)} (quiet : ∀ i, ¬ Hit valid width buffer i)
    (first : FirstHit valid width (buffer ++ chunks.flatten) i) :
    ∃ n, searchChunks valid width buffer chunks =
        (some (window width (buffer ++ chunks.flatten) i), n) ∧
      WholeAt width buffer chunks i n := by
  -- the buffer itself does not hold the window
  have beyond : buffer.length < i + width := by
    by_contra inside
    exact quiet i ((hit_append (Nat.le_of_not_lt inside) _).mp first.1)
  induction chunks generalizing buffer with
  | nil =>
      rw [List.flatten_nil, List.append_nil] at first
      exact absurd first.1 (quiet i)
  | cons chunk chunks ih =>
      rw [List.flatten_cons, ← List.append_assoc] at first ⊢
      rw [searchChunks]
      cases found : findWindow valid width (buffer ++ chunk) with
      | some j =>
          have here : FirstHit valid width (buffer ++ chunk) j := findWindow_eq_some.mp found
          obtain rfl : i = j := first.unique (here.append _)
          refine ⟨1, by rw [window_append here.1.1], ?_⟩
          refine ⟨Nat.succ_le_succ (Nat.zero_le _), by simpa using here.1.1, fun m less => ?_⟩
          rw [Nat.lt_one_iff.mp less]
          simpa using beyond
      | none =>
          have still := findWindow_eq_none.mp found
          have further : (buffer ++ chunk).length < i + width := by
            by_contra inside
            exact still i ((hit_append (Nat.le_of_not_lt inside) _).mp first.1)
          obtain ⟨n, finds, whole⟩ := ih still first further
          refine ⟨n + 1, by rw [finds], ?_⟩
          refine ⟨Nat.succ_le_succ whole.available, ?_, fun m less => ?_⟩
          · simpa [List.append_assoc] using whole.whole
          · cases m with
            | zero => simpa using beyond
            | succ m => simpa [List.append_assoc] using whole.soonest m (by omega)

theorem searchChunks_of_no_hit {chunks : List (List α)}
    (none : ∀ i, ¬ Hit valid width (buffer ++ chunks.flatten) i) :
    searchChunks valid width buffer chunks = (.none, chunks.length) := by
  induction chunks generalizing buffer with
  | nil => rfl
  | cons chunk chunks ih =>
      rw [List.flatten_cons, ← List.append_assoc] at none
      have still : findWindow valid width (buffer ++ chunk) = .none :=
        findWindow_eq_none.mpr fun i hit => none i (hit.append _)
      rw [searchChunks, still]
      simp only [ih none, List.length_cons]

theorem searchChunks_congr {chunks chunks' : List (List α)} (quiet : ∀ i, ¬ Hit valid width buffer i)
    (same : chunks'.flatten = chunks.flatten) :
    (searchChunks valid width buffer chunks').1 = (searchChunks valid width buffer chunks).1 := by
  by_cases hits : ∃ i, Hit valid width (buffer ++ chunks.flatten) i
  · obtain ⟨i, first⟩ := exists_firstHit hits
    obtain ⟨n, finds, -⟩ := searchChunks_of_firstHit quiet first
    obtain ⟨n', finds', -⟩ := searchChunks_of_firstHit quiet (same ▸ first)
    rw [finds, finds', same]
  · have none := not_exists.mp hits
    rw [searchChunks_of_no_hit none, searchChunks_of_no_hit (same ▸ none)]

end TactileSensors.Scan
