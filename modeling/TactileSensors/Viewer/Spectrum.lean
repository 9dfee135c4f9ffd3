import Mathlib.Analysis.SpecialFunctions.Trigonometric.Basic
import TactileSensors.Fourier.Stages
import TactileSensors.Viewer.Fft

/-!
# The magnitudes are those of the transform

Over the real numbers, with exact roots of unity, a stage of the loops is a stage of butterflies, and behind
the last one the buffers hold the discrete Fourier transform of the data.
-/

namespace TactileSensors.Viewer
open TactileSensors.Fourier

/-! ## Complex numbers -/

def point (a : ℝ × ℝ) : ℂ := ⟨a.1, a.2⟩

theorem point_times (a b : ℝ × ℝ) : point (times a b) = point a * point b := by
  apply Complex.ext <;> simp [point, times]

namespace Buffers

noncomputable def value (b : Buffers ℝ) (p : Nat) : ℂ := ⟨b.re.getD p 0, b.im.getD p 0⟩

structure Sized {R : Type*} (b : Buffers R) (n : Nat) : Prop where
  re : b.re.length = n
  im : b.im.length = n

variable {b : Buffers ℝ} {n : Nat}

theorem Sized.value_of_le (sized : b.Sized n) {p : Nat} (beyond : n ≤ p) : b.value p = 0 := by
  rw [value, List.getD_eq_default _ _ (by rwa [sized.re]), List.getD_eq_default _ _ (by rwa [sized.im])]
  rfl

theorem Sized.butterfly (sized : b.Sized n) (cur : ℝ × ℝ) (u v : Nat) : (b.butterfly cur u v).Sized n := by
  constructor
  · simp [Buffers.butterfly, sized.re]
  · simp [Buffers.butterfly, sized.im]

theorem Sized.value_butterfly (sized : b.Sized n) (cur : ℝ × ℝ) {u v : Nat} (hu : u < n) (hv : v < n)
    (apart : u ≠ v) (p : Nat) :
    (b.butterfly cur u v).value p =
      if p = u then b.value u + point cur * b.value v
      else if p = v then b.value u - point cur * b.value v else b.value p := by
  have re : u < b.re.length ∧ v < b.re.length := by
    rw [sized.re]
    exact ⟨hu, hv⟩
  have im : u < b.im.length ∧ v < b.im.length := by
    rw [sized.im]
    exact ⟨hu, hv⟩
  simp only [value, Buffers.butterfly, getD_set_set re.1 re.2, getD_set_set im.1 im.2, getD_set _ re.2,
    getD_set _ im.2, if_neg apart]
  by_cases first : p = u
  · simp only [if_pos first]
    apply Complex.ext <;> simp [point]
  · by_cases second : p = v
    · simp only [if_neg first, if_pos second]
      apply Complex.ext <;> simp [point]
    · simp only [if_neg first, if_neg second]

end Buffers

/-! ## One stage -/

/-- The loops of a stage have been at `p`, before they come to butterfly `k` of block `c`. -/
def Done (half c k p : Nat) : Prop := p / (2 * half) < c ∨ p / (2 * half) = c ∧ p % half < k

instance (half c k p : Nat) : Decidable (Done half c k p) := inferInstanceAs (Decidable (_ ∨ _))

section
variable {half m : Nat}

theorem div_mod_lower (c : Nat) (low : m < half) :
    (c * (2 * half) + m) / (2 * half) = c ∧ (c * (2 * half) + m) % half = m := by
  constructor
  · rw [Nat.mul_comm, Nat.mul_add_div (by omega), Nat.div_eq_of_lt (by omega), Nat.add_zero]
  · rw [← Nat.mul_assoc, Nat.mul_comm, Nat.mul_add_mod, Nat.mod_eq_of_lt low]

theorem div_mod_upper (c : Nat) (low : m < half) :
    (c * (2 * half) + m + half) / (2 * half) = c ∧ (c * (2 * half) + m + half) % half = m := by
  constructor
  · rw [Nat.add_assoc, Nat.mul_comm, Nat.mul_add_div (by omega), Nat.div_eq_of_lt (by omega), Nat.add_zero]
  · rw [Nat.add_mod_right]
    exact (div_mod_lower c low).2

theorem at_butterfly {c k : Nat} (below : k < half) (p : Nat) :
    p = c * (2 * half) + k ∨ p = c * (2 * half) + k + half ↔ p / (2 * half) = c ∧ p % half = k := by
  constructor
  · rintro (rfl | rfl)
    · exact div_mod_lower c below
    · exact div_mod_upper c below
  · rintro ⟨quotient, rest⟩
    obtain ⟨d, m, low, here⟩ := block_cases (Nat.zero_lt_of_lt below) p
    rcases here with rfl | rfl
    · rw [(div_mod_lower d low).1] at quotient
      rw [(div_mod_lower d low).2] at rest
      rw [quotient, rest]
      exact .inl rfl
    · rw [(div_mod_upper d low).1] at quotient
      rw [(div_mod_upper d low).2] at rest
      rw [quotient, rest]
      exact .inr rfl

theorem done_succ {c k : Nat} (below : k < half) (p : Nat) :
    Done half c (k + 1) p ↔
      (p = c * (2 * half) + k ∨ p = c * (2 * half) + k + half) ∨ Done half c k p := by
  rw [at_butterfly below, Done, Done]
  generalize p / (2 * half) = quotient
  generalize p % half = rest
  omega

theorem not_done {c k p : Nat} (below : k < half)
    (here : p = c * (2 * half) + k ∨ p = c * (2 * half) + k + half) : ¬ Done half c k p := by
  obtain ⟨quotient, rest⟩ := (at_butterfly below p).mp here
  rw [Done, quotient, rest]
  omega

theorem done_half {c : Nat} (pos : 0 < half) (p : Nat) : Done half c half p ↔ Done half (c + 1) 0 p := by
  have inside := Nat.mod_lt p pos
  simp only [Done, inside, and_true, Nat.not_lt_zero, and_false, or_false]
  omega

end

def joined (w : ℂ) (half c k : Nat) (f : Nat → ℂ) (p : Nat) : ℂ :=
  if Done half c k p then combine w half f p else f p

structure Reaches (w : ℂ) (n half c k : Nat) (f : Nat → ℂ) (b : Buffers ℝ) : Prop where
  sized : b.Sized n
  value : b.value = joined w half c k f

theorem Reaches.butterfly {w : ℂ} {n half c k : Nat} {f : Nat → ℂ} {b : Buffers ℝ}
    (h : Reaches w n half c k f b) (below : k < half) (inside : (c + 1) * (2 * half) ≤ n) {cur : ℝ × ℝ}
    (turned : point cur = w ^ k) :
    Reaches w n half c (k + 1) f (b.butterfly cur (c * (2 * half) + k) (c * (2 * half) + k + half)) := by
  have room : c * (2 * half) + k + half < n := by
    rw [Nat.succ_mul] at inside
    omega
  have lower : b.value (c * (2 * half) + k) = f (c * (2 * half) + k) := by
    rw [h.value, joined, if_neg (not_done below (.inl rfl))]
  have upper : b.value (c * (2 * half) + k + half) = f (c * (2 * half) + k + half) := by
    rw [h.value, joined, if_neg (not_done below (.inr rfl))]
  refine ⟨h.sized.butterfly _ _ _, ?_⟩
  funext p
  rw [h.sized.value_butterfly cur (by omega) room (by omega), lower, upper, turned, joined]
  by_cases first : p = c * (2 * half) + k
  · rw [if_pos first, if_pos ((done_succ below p).mpr (.inl (.inl first))), first, combine_low w f c below]
  · by_cases second : p = c * (2 * half) + k + half
    · rw [if_neg first, if_pos second, if_pos ((done_succ below p).mpr (.inl (.inr second))), second,
        combine_high w f c below]
    · rw [if_neg first, if_neg second, h.value, joined]
      refine if_congr ?_ rfl rfl
      rw [done_succ below p]
      exact ⟨.inr, fun done => done.resolve_left (not_or.mpr ⟨first, second⟩)⟩

theorem Reaches.block {w : ℝ × ℝ} {n half c : Nat} {f : Nat → ℂ} {b : Buffers ℝ} (pos : 0 < half)
    (h : Reaches (point w) n half c 0 f b) (inside : (c + 1) * (2 * half) ≤ n) :
    Reaches (point w) n half (c + 1) 0 f (block w half b (c * (2 * half))) := by
  have loop {k : Nat} (few : k ≤ half) :
      let s := (List.range k).foldl (butterflyAt w half (c * (2 * half))) (b, (1, 0))
      Reaches (point w) n half c k f s.1 ∧ point s.2 = point w ^ k := by
    induction k with
    | zero => exact ⟨h, rfl⟩
    | succ k ih =>
        obtain ⟨reaches, turned⟩ := ih (Nat.le_of_succ_le few)
        rw [List.range_succ, List.foldl_append]
        refine ⟨reaches.butterfly few inside turned, ?_⟩
        exact (point_times _ w).trans (by rw [turned, pow_succ])
  obtain ⟨sized, value⟩ := (loop (Nat.le_refl half)).1
  refine ⟨sized, value.trans ?_⟩
  funext p
  exact if_congr (done_half pos p) rfl rfl

theorem combine_of_le (w : ℂ) {half blocks p : Nat} {f : Nat → ℂ} (pos : 0 < half)
    (zero : ∀ q, blocks * (2 * half) ≤ q → f q = 0) (beyond : blocks * (2 * half) ≤ p) :
    combine w half f p = 0 := by
  obtain ⟨c, m, low, here⟩ := block_cases pos p
  have later : blocks ≤ c := by
    have quotient : p / (2 * half) = c := by
      rcases here with rfl | rfl
      · exact (div_mod_lower c low).1
      · exact (div_mod_upper c low).1
    rw [← quotient, Nat.le_div_iff_mul_le (by omega)]
    exact beyond
  have start : blocks * (2 * half) ≤ c * (2 * half) := Nat.mul_le_mul_right _ later
  have first : f (c * (2 * half) + m) = 0 := zero _ (by omega)
  have second : f (c * (2 * half) + m + half) = 0 := zero _ (by omega)
  rcases here with rfl | rfl
  · rw [combine_low w f c low, first, second, mul_zero, add_zero]
  · rw [combine_high w f c low, first, second, mul_zero, sub_zero]

theorem Reaches.stage {w : ℝ × ℝ} {n half blocks : Nat} {b : Buffers ℝ} (pos : 0 < half) (sized : b.Sized n)
    (whole : n = blocks * (2 * half)) :
    (stage w n (2 * half) b).Sized n ∧ (stage w n (2 * half) b).value = combine (point w) half b.value := by
  have loop {c : Nat} (few : c ≤ blocks) :
      Reaches (point w) n half c 0 b.value ((List.range' 0 c (2 * half)).foldl (Viewer.block w half) b) := by
    induction c with
    | zero =>
        refine ⟨sized, ?_⟩
        funext p
        exact (if_neg (by simp [Done])).symm
    | succ c ih =>
        have inside : (c + 1) * (2 * half) ≤ n := by
          rw [whole]
          exact Nat.mul_le_mul_right _ few
        rw [List.range'_concat, List.foldl_append, Nat.zero_add, Nat.mul_comm (2 * half) c]
        exact (ih (Nat.le_of_succ_le few)).block pos inside
  have count : (n + 2 * half - 1) / (2 * half) = blocks := by
    have split : n + 2 * half - 1 = 2 * half * blocks + (2 * half - 1) := by
      rw [whole, Nat.mul_comm blocks]
      omega
    rw [split, Nat.mul_add_div (by omega), Nat.div_eq_of_lt (by omega), Nat.add_zero]
  have middle : 2 * half / 2 = half := Nat.mul_div_cancel_left half Nat.two_pos
  rw [Viewer.stage, count, middle]
  obtain ⟨sized', value⟩ := loop (Nat.le_refl blocks)
  refine ⟨sized', value.trans ?_⟩
  funext p
  rw [joined]
  by_cases inside : p < n
  · refine if_pos (.inl ?_)
    rw [Nat.div_lt_iff_lt_mul (by omega), ← whole]
    exact inside
  · have beyond : n ≤ p := Nat.le_of_not_lt inside
    have away : combine (point w) half b.value p = 0 :=
      @combine_of_le _ half blocks p _ pos (fun q far => sized.value_of_le (whole ▸ far)) (whole ▸ beyond)
    rw [sized.value_of_le beyond, away, ite_self]

/-! ## All stages -/

/-- Over exact complex numbers, `-2 * pi / length` around the circle. -/
noncomputable def exactTwiddle (length : Nat) : ℝ × ℝ :=
  let ang := -(2 : ℕ) * Real.pi / length
  (Real.cos ang, Real.sin ang)

noncomputable def root (length : Nat) : ℂ := point (exactTwiddle length)

theorem root_eq (length : Nat) : root length = Complex.exp (-2 * Real.pi * Complex.I / length) := by
  have angle : -2 * Real.pi * Complex.I / length =
      ((-(2 : ℕ) * Real.pi / length : ℝ) : ℂ) * Complex.I := by
    push_cast
    ring
  rw [angle]
  apply Complex.ext
  · exact (Complex.exp_ofReal_mul_I_re _).symm
  · exact (Complex.exp_ofReal_mul_I_im _).symm

theorem roots : Roots root where
  one := by
    have turn : -2 * Real.pi * Complex.I / ((1 : ℕ) : ℂ) = -(2 * Real.pi * Complex.I) := by
      push_cast
      ring
    rw [root_eq, turn, Complex.exp_neg, Complex.exp_two_pi_mul_I, inv_one]
  two := by
    have halfTurn : -2 * Real.pi * Complex.I / ((2 : ℕ) : ℂ) = -(Real.pi * Complex.I) := by
      push_cast
      ring
    rw [root_eq, halfTurn, Complex.exp_neg, Complex.exp_pi_mul_I, inv_neg, inv_one]
  square s := by
    rw [root_eq, root_eq, ← Complex.exp_nat_mul]
    congr 1
    push_cast
    rw [pow_succ]
    field_simp

theorem butterflies_blockDft {s d : Nat} {b : Buffers ℝ} {f : Nat → ℂ} (sized : b.Sized (2 ^ (s + d)))
    (value : b.value = blockDft root s f) :
    (butterflies exactTwiddle (2 ^ (s + d)) (2 ^ (s + 1)) b).value = blockDft root (s + d) f := by
  induction d generalizing s b with
  | zero =>
      have done : 2 ^ (s + 1) = 0 ∨ 2 ^ (s + 0) < 2 ^ (s + 1) :=
        .inr (Nat.pow_lt_pow_right Nat.one_lt_two (Nat.lt_succ_self s))
      rw [butterflies, if_pos done]
      exact value
  | succ d ih =>
      have goesOn : ¬ (2 ^ (s + 1) = 0 ∨ 2 ^ (s + (d + 1)) < 2 ^ (s + 1)) := by
        rw [not_or, Nat.not_lt]
        exact ⟨(Nat.two_pow_pos _).ne', Nat.pow_le_pow_right Nat.two_pos (by omega)⟩
      have length : 2 ^ (s + 1) = 2 * 2 ^ s := Nat.pow_succ'
      have blocks : 2 ^ (s + (d + 1)) = 2 ^ d * (2 * 2 ^ s) := by
        rw [← length, ← Nat.pow_add]
        congr 1
        omega
      obtain ⟨sized', value'⟩ := Reaches.stage (w := exactTwiddle (2 ^ (s + 1))) (Nat.two_pow_pos s) sized blocks
      rw [value, ← length] at value'
      rw [← length] at sized'
      have next : (stage (exactTwiddle (2 ^ (s + 1))) (2 ^ (s + (d + 1))) (2 ^ (s + 1)) b).value =
          blockDft root (s + 1) f := value'.trans (combine_blockDft roots s f)
      have shift : s + (d + 1) = s + 1 + d := by omega
      rw [butterflies, if_neg goesOn, ← Nat.pow_succ]
      rw [shift] at sized' next ⊢
      exact ih sized' next

/-! ## The whole -/

noncomputable def fftMagnitudes (realData : List ℝ) : List ℝ :=
  let b := fft exactTwiddle realData
  (List.range (realData.length / 2)).map fun i => √(b.re.getD i 0 ^ 2 + b.im.getD i 0 ^ 2)

/-- Bin `k` of the discrete Fourier transform. -/
noncomputable def fourierBin (x : List ℝ) (k : Nat) : ℂ :=
  ∑ t ∈ Finset.range x.length, (x.getD t 0 : ℂ) * Complex.exp (-(2 : ℕ) * Real.pi * Complex.I * k * t / x.length)

theorem dft_root (x : List ℝ) (k : Nat) :
    dft (root x.length) x.length (fun t => (x.getD t 0 : ℂ)) k = fourierBin x k := by
  refine Finset.sum_congr rfl fun t _ => ?_
  rw [root_eq, ← Complex.exp_nat_mul, mul_comm]
  congr 2
  push_cast
  ring

theorem sized_init (x : List ℝ) : (Buffers.mk x (List.replicate x.length 0)).Sized x.length :=
  ⟨rfl, List.length_replicate⟩

theorem sized_reorder {n : Nat} {b : Buffers ℝ} (sized : b.Sized (2 ^ (n + 1))) :
    (reorder (2 ^ (n + 1)) b).Sized (2 ^ (n + 1)) := by
  rw [reorder_eq]
  exact ⟨(length_exchangeAll _ _).trans sized.re, (length_exchangeAll _ _).trans sized.im⟩

theorem value_reorder {n p : Nat} {b : Buffers ℝ} (sized : b.Sized (2 ^ (n + 1)))
    (inside : p < 2 ^ (n + 1)) :
    (reorder (2 ^ (n + 1)) b).value p = b.value (bitReverse (n + 1) p) := by
  have involutive := involutiveBelow_bitReverse (n + 1)
  have re := @getD_exchangeAll ℝ _ (bitReverse (n + 1)) b.re (by rwa [sized.re]) p (by rwa [sized.re])
  have im := @getD_exchangeAll ℝ _ (bitReverse (n + 1)) b.im (by rwa [sized.im]) p (by rwa [sized.im])
  rw [sized.re] at re
  rw [sized.im] at im
  rw [reorder_eq, Buffers.value, re, im, Buffers.value]

theorem value_init {n : Nat} {x : List ℝ} (p : Nat) :
    (Buffers.mk x (List.replicate n 0)).value p = (x.getD p 0 : ℂ) := by
  have zero : (List.replicate n (0 : ℝ)).getD p 0 = 0 :=
    (List.getD_eq_getElem?_getD ..).trans (List.getElem?_getD_replicate_default_eq ..)
  simp only [Buffers.value, zero]
  rfl

theorem value_fft {n : Nat} {x : List ℝ} (length : x.length = 2 ^ (n + 1)) {k : Nat}
    (inside : k < x.length) : (fft exactTwiddle x).value k = fourierBin x k := by
  have sized := sized_init x
  rw [length] at sized
  have reversed : ∀ p < 2 ^ (n + 1),
      (reorder (2 ^ (n + 1)) ⟨x, List.replicate (2 ^ (n + 1)) 0⟩).value p =
        (x.getD (bitReverse (n + 1) p) 0 : ℂ) := by
    intro p hp
    rw [value_reorder sized hp, value_init]
  have stages := @butterflies_blockDft 0 (n + 1) _ _ (by rw [Nat.zero_add]; exact sized_reorder sized)
    (blockDft_zero root _).symm
  rw [Nat.zero_add, Nat.zero_add, pow_one] at stages
  rw [← dft_root, length, ← blockDft_all root reversed (length ▸ inside), ← stages, fft, length]

theorem norm_value (b : Buffers ℝ) (i : Nat) :
    √(b.re.getD i 0 ^ 2 + b.im.getD i 0 ^ 2) = ‖b.value i‖ :=
  (Complex.norm_eq_sqrt_sq_add_sq (b.value i)).symm

theorem fftMagnitudes_eq {n : Nat} {x : List ℝ} (length : x.length = 2 ^ (n + 1)) :
    fftMagnitudes x = (List.range (x.length / 2)).map (fun k => ‖fourierBin x k‖) := by
  refine List.map_congr_left fun k among => ?_
  have inside := List.mem_range.mp among
  rw [norm_value, value_fft length (by omega)]

theorem reorder_perm {n : Nat} {b : Buffers ℝ} (sized : b.Sized (2 ^ (n + 1))) :
    (reorder (2 ^ (n + 1)) b).re.Perm b.re ∧ (reorder (2 ^ (n + 1)) b).im.Perm b.im := by
  have inside {xs : List ℝ} (length : xs.length = 2 ^ (n + 1)) :
      ∀ pair ∈ exchanges (bitReverse (n + 1)) (2 ^ (n + 1)), pair.1 < xs.length ∧ pair.2 < xs.length := by
    rintro ⟨i, j⟩ among
    obtain ⟨low, -, rfl⟩ := mem_exchanges.mp among
    rw [length]
    exact ⟨low, bitReverse_lt _ i⟩
  rw [reorder_eq]
  exact ⟨exchangeAll_perm (inside sized.re), exchangeAll_perm (inside sized.im)⟩

/-- For every power of two, the buffers hold the transform behind the last stage and the magnitudes are those
of its lower half. The reordering before it is the bit reversal, and swaps each pair once. -/
theorem fft_exact {n : Nat} {x : List ℝ} (length : x.length = 2 ^ (n + 1)) :
    (∀ k < x.length, (fft exactTwiddle x).value k = fourierBin x k) ∧
      fftMagnitudes x = (List.range (x.length / 2)).map (fun k => ‖fourierBin x k‖) ∧
      (∀ b : Buffers ℝ, b.Sized x.length →
        (∀ p < x.length, (reorder x.length b).value p = b.value (bitReverse (n + 1) p)) ∧
          (reorder x.length b).re.Perm b.re ∧ (reorder x.length b).im.Perm b.im) ∧
      (reorderSwaps x.length).Nodup ∧
      ∀ i j, (i, j) ∈ reorderSwaps x.length ↔ i < x.length ∧ i < j ∧ j = bitReverse (n + 1) i := by
  refine ⟨fun k inside => value_fft length inside, fftMagnitudes_eq length, ?_, ?_, ?_⟩
  · rw [length]
    exact fun b sized => ⟨fun p => value_reorder sized, reorder_perm sized⟩
  · rw [length, reorderSwaps_eq]
    exact nodup_exchanges _ _
  · intro i j
    rw [length, reorderSwaps_eq, mem_exchanges]

theorem four_samples_transformed :
    fftMagnitudes [1, 2, 3, 4] = (List.range 2).map (fun k => ‖fourierBin [1, 2, 3, 4] k‖) :=
  (@fft_exact 1 [1, 2, 3, 4] rfl).2.1

/-! ## What is transformed -/

def fftSize : Nat := 4096
def minSamples : Nat := 512

noncomputable def padded (samples : List ℝ) : List ℝ :=
  let snapshot := samples.drop (samples.length - fftSize)
  snapshot ++ List.replicate (fftSize - snapshot.length) 0

noncomputable def computeFft (dynamicTactile : List (List ℝ)) : List (Option (List ℝ)) :=
  dynamicTactile.map fun samples =>
    if minSamples ≤ samples.length then some (fftMagnitudes (padded samples)) else none

theorem length_padded (samples : List ℝ) : (padded samples).length = fftSize := by
  rw [padded, List.length_append, List.length_replicate, List.length_drop]
  omega

theorem computeFft_eq (dynamicTactile : List (List ℝ)) :
    computeFft dynamicTactile = dynamicTactile.map fun samples =>
      if minSamples ≤ samples.length then
        some ((List.range 2048).map fun k => ‖fourierBin (padded samples) k‖)
      else none := by
  refine List.map_congr_left fun samples _ => ?_
  have power : (padded samples).length = 2 ^ (11 + 1) := length_padded samples
  have half : 2 ^ (11 + 1) / 2 = 2048 := rfl
  rw [fftMagnitudes_eq power, power, half]

end TactileSensors.Viewer
