import Mathlib.Data.List.FinRange
import Mathlib.Data.List.MinMax
import Mathlib.Order.Bounds.Basic
import TactileSensors.Scan.Cuts
import TactileSensors.Usb.Fields

/-!
# The envelope of a trace

A long trace is shown by the extremes of its buckets, in the order they occurred.
-/

namespace TactileSensors.Viewer
open Scan

variable {α : Type} [LinearOrder α]

def displayPoints : ℕ := 500

def extremes (chunk : List α) : Option (Fin chunk.length × Fin chunk.length) := do
  let lo ← (List.finRange chunk.length).argmin chunk.get
  let hi ← (List.finRange chunk.length).argmax chunk.get
  return if lo ≤ hi then (lo, hi) else (hi, lo)

def bucket (samples : List α) (buckets b : ℕ) : List α :=
  piece samples (evenCut samples.length buckets b) (evenCut samples.length buckets (b + 1))

def showBucket (samples : List α) (buckets : ℕ) (out : List α) (b : ℕ) : Option (List α) := do
  let chunk := bucket samples buckets b
  let (first, second) ← extremes chunk
  return out ++ [chunk.get first, chunk.get second]

def envelope (samples : List α) (maxPoints : ℕ) : Option (List α) :=
  if samples.length ≤ maxPoints then some samples
  else
    let buckets := maxPoints / 2
    (List.range buckets).foldlM (showBucket samples buckets) []

def dynamicEnvelopes (dynamicTactile : Fin Usb.numFingers → List α) (f : Fin Usb.numFingers) :
    Option (List α) :=
  envelope (dynamicTactile f) displayPoints

structure Extremes (chunk : List α) (lo hi : α) : Prop where
  least : IsLeast { x | x ∈ chunk } lo
  greatest : IsGreatest { x | x ∈ chunk } hi

structure AtExtremes (chunk : List α) (first second : ℕ) : Prop where
  inOrder : first ≤ second
  inside : second < chunk.length
  shown : ∃ lo hi, Extremes chunk lo hi ∧
    (chunk[first]? = some lo ∧ chunk[second]? = some hi ∨
      chunk[first]? = some hi ∧ chunk[second]? = some lo)

theorem extremes_spec {chunk : List α} (nonempty : chunk ≠ []) :
    ∃ first second, extremes chunk = some (first, second) ∧ AtExtremes chunk first second := by
  have positions : List.finRange chunk.length ≠ [] := by
    rwa [Ne, List.finRange_eq_nil_iff, List.length_eq_zero_iff]
  obtain ⟨lo, isLo⟩ := Option.ne_none_iff_exists'.mp (mt (List.argmin_eq_none (f := chunk.get)).mp positions)
  obtain ⟨hi, isHi⟩ := Option.ne_none_iff_exists'.mp (mt (List.argmax_eq_none (f := chunk.get)).mp positions)
  have extreme : Extremes chunk (chunk.get lo) (chunk.get hi) := by
    constructor
    · refine ⟨List.get_mem chunk lo, fun x hx => ?_⟩
      obtain ⟨i, rfl⟩ := List.mem_iff_get.mp hx
      exact List.le_of_mem_argmin (List.mem_finRange i) isLo
    · refine ⟨List.get_mem chunk hi, fun x hx => ?_⟩
      obtain ⟨i, rfl⟩ := List.mem_iff_get.mp hx
      exact List.le_of_mem_argmax (List.mem_finRange i) isHi
  have atLo : chunk[lo.val]? = some (chunk.get lo) := List.getElem?_eq_getElem lo.isLt
  have atHi : chunk[hi.val]? = some (chunk.get hi) := List.getElem?_eq_getElem hi.isLt
  by_cases order : lo ≤ hi
  · refine ⟨lo, hi, by simp [extremes, isLo, isHi, order], order, hi.isLt, ?_⟩
    exact ⟨_, _, extreme, .inl ⟨atLo, atHi⟩⟩
  · refine ⟨hi, lo, by simp [extremes, isLo, isHi, order], (not_le.mp order).le, lo.isLt, ?_⟩
    exact ⟨_, _, extreme, .inr ⟨atHi, atLo⟩⟩

def positions (n buckets : ℕ) (first second : ℕ → ℕ) (count : ℕ) : List ℕ :=
  (List.range count).flatMap fun b => [evenCut n buckets b + first b, evenCut n buckets b + second b]

/-- What `out` shows of the samples, where `first` and `second` are the positions in each bucket. -/
structure Envelopes (samples : List α) (buckets : ℕ) (first second : ℕ → ℕ) (out : List α) : Prop where
  whole : (pieces samples (evenCut samples.length buckets) buckets).flatten = samples
  nonempty : ∀ b < buckets, bucket samples buckets b ≠ []
  extremes : ∀ b < buckets, AtExtremes (bucket samples buckets b) (first b) (second b)
  shown : out.map some = (positions samples.length buckets first second buckets).map fun i => samples[i]?
  inOrder : (positions samples.length buckets first second buckets).Pairwise (· ≤ ·)
  least : ∃ lo ∈ out, IsLeast { x | x ∈ samples } lo
  greatest : ∃ hi ∈ out, IsGreatest { x | x ∈ samples } hi

theorem positions_succ (n buckets : ℕ) (first second : ℕ → ℕ) (count : ℕ) :
    positions n buckets first second (count + 1) = positions n buckets first second count ++
      [evenCut n buckets count + first count, evenCut n buckets count + second count] := by
  rw [positions, List.range_succ, List.flatMap_append, List.flatMap_singleton]
  rfl

theorem length_positions (n buckets : ℕ) (first second : ℕ → ℕ) (count : ℕ) :
    (positions n buckets first second count).length = 2 * count := by
  induction count with
  | zero => rfl
  | succ count ih => rw [positions_succ, List.length_append, ih, Nat.mul_succ]; rfl

section
variable {samples : List α} {buckets : ℕ} {first second : ℕ → ℕ}

omit [LinearOrder α] in
theorem getElem?_bucket (cut : 0 < buckets) {b i : ℕ} (h : b < buckets)
    (inside : i < (bucket samples buckets b).length) :
    (bucket samples buckets b)[i]? = samples[evenCut samples.length buckets b + i]? ∧
      evenCut samples.length buckets b + i < evenCut samples.length buckets (b + 1) := by
  rw [bucket, length_piece (evenCut_le cut h)] at inside
  have within := Nat.add_lt_of_lt_sub' inside
  exact ⟨getElem?_piece within, within⟩

theorem foldlM_showBucket (cut : 0 < buckets)
    (seen : ∀ b < buckets, ∃ i j, extremes (bucket samples buckets b) = some (i, j) ∧
      first b = i ∧ second b = j) {count : ℕ} (h : count ≤ buckets) :
    ∃ out, (List.range count).foldlM (showBucket samples buckets) [] = some out ∧
      out.map some = (positions samples.length buckets first second count).map fun i => samples[i]? := by
  induction count with
  | zero => exact ⟨[], rfl, rfl⟩
  | succ count ih =>
      obtain ⟨out, sofar, shown⟩ := ih (Nat.le_of_succ_le h)
      obtain ⟨i, j, found, atFirst, atSecond⟩ := seen count h
      have values : ∀ i : Fin (bucket samples buckets count).length,
          some ((bucket samples buckets count).get i) =
            samples[evenCut samples.length buckets count + i.val]? := by
        intro i
        rw [← (getElem?_bucket cut h i.isLt).1]
        exact (List.getElem?_eq_getElem i.isLt).symm
      refine ⟨out ++ [(bucket samples buckets count).get i, (bucket samples buckets count).get j], ?_, ?_⟩
      · rw [List.range_succ, List.foldlM_append, sofar]
        simp [showBucket, found]
      · rw [positions_succ, List.map_append, List.map_append, shown, atFirst, atSecond]
        simp only [List.map_cons, List.map_nil, values]

theorem positions_inOrder (cut : 0 < buckets)
    (atExtremes : ∀ b < buckets, AtExtremes (bucket samples buckets b) (first b) (second b)) {count : ℕ}
    (h : count ≤ buckets) :
    (positions samples.length buckets first second count).Pairwise (· ≤ ·) ∧
      ∀ i ∈ positions samples.length buckets first second count, i < evenCut samples.length buckets count := by
  induction count with
  | zero => exact ⟨.nil, nofun⟩
  | succ count ih =>
      obtain ⟨inOrder, before⟩ := ih (Nat.le_of_succ_le h)
      obtain ⟨ordered, inside, -⟩ := atExtremes count h
      have last := (getElem?_bucket cut h inside).2
      rw [positions_succ]
      refine ⟨List.pairwise_append.mpr ⟨inOrder, ?_, fun i hi j hj => ?_⟩, fun i hi => ?_⟩
      · simpa using ordered
      · have earlier := before i hi
        simp only [List.mem_cons, List.not_mem_nil, or_false] at hj
        omega
      · rcases List.mem_append.mp hi with earlier | here
        · exact (before i earlier).trans_le (monotone_evenCut _ _ (Nat.le_succ count))
        · simp only [List.mem_cons, List.not_mem_nil, or_false] at here
          omega

theorem exists_extremes {chunk : List α} (nonempty : chunk ≠ []) : ∃ lo hi, Extremes chunk lo hi := by
  obtain ⟨_, _, -, atExtremes⟩ := extremes_spec nonempty
  obtain ⟨lo, hi, extreme, -⟩ := atExtremes.shown
  exact ⟨lo, hi, extreme⟩

omit [LinearOrder α] in
theorem mem_of_shown {out : List α} {positions : List ℕ}
    (shown : out.map some = positions.map fun i => samples[i]?) {i : ℕ} {x : α} (hi : i ∈ positions)
    (hx : samples[i]? = some x) : x ∈ out := by
  have among : some x ∈ positions.map fun i => samples[i]? := List.mem_map.mpr ⟨i, hi, hx⟩
  rw [← shown] at among
  simpa using among

theorem mem_of_extremes (cut : 0 < buckets)
    (atExtremes : ∀ b < buckets, AtExtremes (bucket samples buckets b) (first b) (second b)) {out : List α}
    (shown : out.map some = (positions samples.length buckets first second buckets).map fun i => samples[i]?)
    {b : ℕ} (h : b < buckets) : ∃ lo ∈ out, ∃ hi ∈ out, Extremes (bucket samples buckets b) lo hi := by
  obtain ⟨ordered, inside, lo, hi, extreme, values⟩ := atExtremes b h
  have here : ∀ i, i = first b ∨ i = second b → evenCut samples.length buckets b + i ∈
      positions samples.length buckets first second buckets := by
    intro i either
    refine List.mem_flatMap.mpr ⟨b, List.mem_range.mpr h, ?_⟩
    rcases either with rfl | rfl <;> simp
  have atFirst := (getElem?_bucket cut h (ordered.trans_lt inside)).1
  have atSecond := (getElem?_bucket cut h inside).1
  rw [atFirst, atSecond] at values
  rcases values with ⟨atLo, atHi⟩ | ⟨atHi, atLo⟩
  · exact ⟨lo, mem_of_shown shown (here _ (.inl rfl)) atLo, hi, mem_of_shown shown (here _ (.inr rfl)) atHi,
      extreme⟩
  · exact ⟨lo, mem_of_shown shown (here _ (.inr rfl)) atLo, hi, mem_of_shown shown (here _ (.inl rfl)) atHi,
      extreme⟩

theorem envelopes_of_loop (cut : 0 < buckets) (few : buckets ≤ samples.length) :
    ∃ out, (List.range buckets).foldlM (showBucket samples buckets) [] = some out ∧
      ∃ first second, Envelopes samples buckets first second out := by
  have nonempty : ∀ b < buckets, bucket samples buckets b ≠ [] :=
    fun b h => pieces_evenCut_ne_nil cut few (mem_pieces h)
  have seen : ∀ b, ∃ i j : ℕ, b < buckets → AtExtremes (bucket samples buckets b) i j ∧
      ∃ i' j', extremes (bucket samples buckets b) = some (i', j') ∧ i = i' ∧ j = j' := by
    intro b
    by_cases h : b < buckets
    · obtain ⟨i, j, found, atExtremes⟩ := extremes_spec (nonempty b h)
      exact ⟨i, j, fun _ => ⟨atExtremes, i, j, found, rfl, rfl⟩⟩
    · exact ⟨0, 0, fun h' => absurd h' h⟩
  choose first second both using seen
  have atExtremes : ∀ b < buckets, AtExtremes (bucket samples buckets b) (first b) (second b) :=
    fun b h => (both b h).1
  obtain ⟨out, result, shown⟩ := foldlM_showBucket cut (fun b h => (both b h).2) le_rfl
  refine ⟨out, result, first, second, ?_⟩
  have whole := flatten_evenCut cut samples
  have some : samples ≠ [] := List.ne_nil_of_length_pos (cut.trans_le few)
  obtain ⟨lo, hi, least, greatest⟩ := exists_extremes some
  have bucketOf : ∀ x ∈ samples, ∃ b < buckets, x ∈ bucket samples buckets b := by
    intro x hx
    rw [← whole, List.mem_flatten] at hx
    obtain ⟨p, hp, hx⟩ := hx
    obtain ⟨b, h, rfl⟩ := List.mem_map.mp hp
    exact ⟨b, List.mem_range.mp h, hx⟩
  have contained : ∀ b < buckets, ∀ x ∈ bucket samples buckets b, x ∈ samples := by
    intro b h x hx
    rw [← whole, List.mem_flatten]
    exact ⟨_, mem_pieces h, hx⟩
  constructor
  · exact whole
  · exact nonempty
  · exact atExtremes
  · exact shown
  · exact (positions_inOrder cut atExtremes le_rfl).1
  · obtain ⟨b, h, here⟩ := bucketOf lo least.1
    obtain ⟨lo', shownLo, _, _, extreme⟩ := mem_of_extremes cut atExtremes shown h
    have same : lo' = lo := le_antisymm (extreme.least.2 here) (least.2 (contained b h lo' extreme.least.1))
    exact ⟨lo, same ▸ shownLo, least⟩
  · obtain ⟨b, h, here⟩ := bucketOf hi greatest.1
    obtain ⟨_, _, hi', shownHi, extreme⟩ := mem_of_extremes cut atExtremes shown h
    have same : hi' = hi :=
      le_antisymm (greatest.2 (contained b h hi' extreme.greatest.1)) (extreme.greatest.2 here)
    exact ⟨hi, same ▸ shownHi, greatest⟩

theorem Envelopes.length {out : List α} (h : Envelopes samples buckets first second out) :
    out.length = 2 * buckets := by
  have same := congrArg List.length h.shown
  rwa [List.length_map, List.length_map, length_positions] at same

theorem envelope_of_lt {maxPoints : ℕ} (two : 2 ≤ maxPoints) (more : maxPoints < samples.length) :
    ∃ out, envelope samples maxPoints = some out ∧ out.length ≤ maxPoints ∧
      ∃ first second, Envelopes samples (maxPoints / 2) first second out := by
  obtain ⟨out, result, first, second, envelopes⟩ :=
    envelopes_of_loop (by omega : 0 < maxPoints / 2) (by omega : maxPoints / 2 ≤ samples.length)
  refine ⟨out, ?_, envelopes.length.trans_le (Nat.mul_div_le maxPoints 2), first, second, envelopes⟩
  rw [envelope, if_neg (Nat.not_le.mpr more)]
  exact result

end

theorem envelope_keeps_peaks (samples : List α) {maxPoints : ℕ} (two : 2 ≤ maxPoints) :
    ∃ out, envelope samples maxPoints = some out ∧ out.length ≤ maxPoints ∧
      (samples.length ≤ maxPoints → out = samples) ∧
      (maxPoints < samples.length →
        ∃ first second, Envelopes samples (maxPoints / 2) first second out) := by
  by_cases fits : samples.length ≤ maxPoints
  · exact ⟨samples, if_pos fits, fits, fun _ => rfl, fun more => absurd fits (Nat.not_le.mpr more)⟩
  · obtain ⟨out, result, length, envelopes⟩ := envelope_of_lt two (Nat.not_le.mp fits)
    exact ⟨out, result, length, fun less => absurd less fits, fun _ => envelopes⟩

theorem envelope_keeps_peaks_tap :
    ∃ out, envelope [0, 0, 5, -1, 0, 0, 9] 5 = some out ∧ out.length ≤ 5 ∧
      ([0, 0, 5, -1, 0, 0, 9].length ≤ 5 → out = [0, 0, 5, -1, 0, 0, (9 : ℤ)]) ∧
      (5 < [0, 0, 5, -1, 0, 0, 9].length →
        ∃ first second, Envelopes [0, 0, 5, -1, 0, 0, (9 : ℤ)] (5 / 2) first second out) :=
  envelope_keeps_peaks [0, 0, 5, -1, 0, 0, (9 : ℤ)] (by decide)

example : envelope [0, 0, 5, -1, 0, 0, (9 : ℤ)] 5 = some [0, 5, -1, 9] := by decide

theorem dynamicEnvelopes_eq_some (dynamicTactile : Fin Usb.numFingers → List α) (f : Fin Usb.numFingers) :
    ∃ out, dynamicEnvelopes dynamicTactile f = some out ∧ out.length ≤ displayPoints := by
  by_cases fits : (dynamicTactile f).length ≤ displayPoints
  · exact ⟨dynamicTactile f, if_pos fits, fits⟩
  · obtain ⟨out, result, length, -⟩ := envelope_of_lt (by decide) (Nat.not_le.mp fits)
    exact ⟨out, result, length⟩

end TactileSensors.Viewer
