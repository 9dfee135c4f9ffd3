import Mathlib.Data.List.GetD
import Mathlib.Data.List.Nodup
import TactileSensors.Fourier.BitReversal

/-!
# Reordering in place

Exchanging each index with its image under an involution, once for every pair, applies the involution.
-/

namespace TactileSensors.Fourier

variable {α : Type*} [Zero α]

def exchange (xs : List α) (i j : Nat) : List α := (xs.set i (xs.getD j 0)).set j (xs.getD i 0)

@[simp] theorem length_exchange (xs : List α) (i j : Nat) : (exchange xs i j).length = xs.length := by
  simp [exchange]

theorem getD_set (xs : List α) {i : Nat} (inside : i < xs.length) (x : α) (p : Nat) :
    (xs.set i x).getD p 0 = if p = i then x else xs.getD p 0 := by
  rw [List.getD_eq_getElem?_getD, List.getD_eq_getElem?_getD, List.getElem?_set]
  by_cases here : p = i
  · simp [here, inside]
  · simp [here, Ne.symm here]

theorem getD_set_set {xs : List α} {u v : Nat} (hu : u < xs.length) (hv : v < xs.length) (x y : α)
    (p : Nat) :
    ((xs.set v x).set u y).getD p 0 = if p = u then y else if p = v then x else xs.getD p 0 := by
  rw [getD_set _ (by rwa [List.length_set]), getD_set _ hv]

theorem getD_exchange {xs : List α} {i j : Nat} (hi : i < xs.length) (hj : j < xs.length) (p : Nat) :
    (exchange xs i j).getD p 0 =
      if p = j then xs.getD i 0 else if p = i then xs.getD j 0 else xs.getD p 0 :=
  getD_set_set hj hi _ _ p

/-- The pairs below `t` that an involution exchanges, each by its smaller index. -/
def exchanges (σ : Nat → Nat) (t : Nat) : List (Nat × Nat) :=
  ((List.range t).filter fun i => i < σ i).map fun i => (i, σ i)

theorem exchanges_succ (σ : Nat → Nat) (t : Nat) :
    exchanges σ (t + 1) = exchanges σ t ++ if t < σ t then [(t, σ t)] else [] := by
  rw [exchanges, List.range_succ, List.filter_append, List.map_append, exchanges]
  by_cases up : t < σ t <;> simp [up]

def exchangeAll (xs : List α) (pairs : List (Nat × Nat)) : List α :=
  pairs.foldl (fun xs pair => exchange xs pair.1 pair.2) xs

@[simp] theorem length_exchangeAll (xs : List α) (pairs : List (Nat × Nat)) :
    (exchangeAll xs pairs).length = xs.length := by
  induction pairs generalizing xs with
  | nil => rfl
  | cons pair pairs ih => exact (ih _).trans (length_exchange xs pair.1 pair.2)

theorem mem_exchanges {σ : Nat → Nat} {t i j : Nat} :
    (i, j) ∈ exchanges σ t ↔ i < t ∧ i < j ∧ j = σ i := by
  simp only [exchanges, List.mem_map, List.mem_filter, List.mem_range, decide_eq_true_eq, Prod.mk.injEq]
  constructor
  · rintro ⟨k, ⟨inside, up⟩, rfl, rfl⟩
    exact ⟨inside, up, rfl⟩
  · rintro ⟨inside, up, rfl⟩
    exact ⟨i, ⟨inside, up⟩, rfl, rfl⟩

theorem nodup_exchanges (σ : Nat → Nat) (t : Nat) : (exchanges σ t).Nodup := by
  refine List.Nodup.map_on ?_ (List.nodup_range.filter _)
  intro i _ j _ same
  exact congrArg Prod.fst same

theorem exchangeAll_perm {xs : List α} {pairs : List (Nat × Nat)}
    (inside : ∀ pair ∈ pairs, pair.1 < xs.length ∧ pair.2 < xs.length) :
    (exchangeAll xs pairs).Perm xs := by
  induction pairs generalizing xs with
  | nil => exact .refl xs
  | cons pair pairs ih =>
      obtain ⟨⟨hi, hj⟩, rest⟩ := List.forall_mem_cons.mp inside
      have one : (exchange xs pair.1 pair.2).Perm xs := by
        rw [exchange, List.getD_eq_getElem _ _ hi, List.getD_eq_getElem _ _ hj]
        exact List.set_set_perm hi hj
      exact (ih (by simpa using rest)).trans one

structure InvolutiveBelow (σ : Nat → Nat) (n : Nat) : Prop where
  lt : ∀ {p}, p < n → σ p < n
  back : ∀ {p}, p < n → σ (σ p) = p

theorem getD_exchangeAll_below {σ : Nat → Nat} {xs : List α} (involutive : InvolutiveBelow σ xs.length)
    {t p : Nat} (some : t ≤ xs.length) (inside : p < xs.length) :
    (exchangeAll xs (exchanges σ t)).getD p 0 = xs.getD (if min p (σ p) < t then σ p else p) 0 := by
  induction t generalizing p with
  | zero => rfl
  | succ t ih =>
      have back := involutive.back inside
      have met {q : Nat} := @ih q (Nat.le_of_succ_le some)
      by_cases up : t < σ t
      · have last : exchangeAll xs (exchanges σ (t + 1)) =
            exchange (exchangeAll xs (exchanges σ t)) t (σ t) := by
          rw [exchanges_succ, if_pos up, exchangeAll, List.foldl_append]
          rfl
        have below : σ t < xs.length := involutive.lt some
        have lower : (exchangeAll xs (exchanges σ t)).getD t 0 = xs.getD t 0 := by
          rw [met some, if_neg (by omega)]
        have upper : (exchangeAll xs (exchanges σ t)).getD (σ t) 0 = xs.getD (σ t) 0 := by
          rw [met below, involutive.back some, if_neg (by omega)]
        rw [last, getD_exchange (by rwa [length_exchangeAll]) (by rwa [length_exchangeAll]), lower, upper]
        by_cases image : p = σ t
        · rw [if_pos image, image, involutive.back some, if_pos (by omega)]
        · rw [if_neg image]
          by_cases here : p = t
          · rw [if_pos here, here, if_pos (by omega)]
          · have other : σ p ≠ t := by
              rintro rfl
              exact image back.symm
            rw [if_neg here, met inside]
            congr 1
            exact if_congr (by omega) rfl rfl
      · have same : exchanges σ (t + 1) = exchanges σ t := by
          rw [exchanges_succ, if_neg up, List.append_nil]
        rw [same, met inside]
        by_cases now : min p (σ p) = t
        · -- an index that is first met now is its own image
          have fixed : σ p = p := by
            rcases Nat.le_total p (σ p) with low | high
            · have here : p = t := by omega
              rw [here] at low ⊢
              omega
            · have image : σ p = t := by omega
              rw [image] at back
              omega
          rw [fixed]
          simp
        · congr 1
          exact if_congr (by omega) rfl rfl

theorem getD_exchangeAll {σ : Nat → Nat} {xs : List α} (involutive : InvolutiveBelow σ xs.length)
    {p : Nat} (inside : p < xs.length) :
    (exchangeAll xs (exchanges σ xs.length)).getD p 0 = xs.getD (σ p) 0 := by
  rw [getD_exchangeAll_below involutive (Nat.le_refl _) inside, if_pos]
  exact (Nat.min_le_left _ _).trans_lt inside

theorem involutiveBelow_bitReverse (n : Nat) : InvolutiveBelow (bitReverse n) (2 ^ n) where
  lt _ := bitReverse_lt n _
  back := bitReverse_bitReverse

end TactileSensors.Fourier
