import Mathlib.Algebra.BigOperators.Group.List.Basic
import Mathlib.Algebra.Field.Rat
import Mathlib.Data.List.Induction

/-!
# The zero of the force/torque sensor

The first samples after a request are averaged, and the mean is subtracted from then on. Until there is a
mean, the zero from before the request is.
-/

namespace TactileSensors.Viewer

def ftZeroSamples : ℕ := 100

abbrev Wrench := Fin 6 → ℚ

structure WrenchBuffer where
  wrench : Option Wrench
  wrenchTime : ℚ
  wrenchZero : Wrench
  wrenchZeroSum : Wrench
  wrenchZeroCount : ℕ
  wrenchZeroed : Bool

inductive WrenchCall
  | pushWrench (values : Wrench) (now : ℚ)
  | zeroWrench

namespace WrenchBuffer

def init : WrenchBuffer := ⟨none, 0, fun _ => 0, fun _ => 0, 0, false⟩

def addToZero (s : WrenchBuffer) (values : Wrench) : WrenchBuffer :=
  let s := { s with
    wrenchZeroSum := fun i => s.wrenchZeroSum i + values i
    wrenchZeroCount := s.wrenchZeroCount + 1 }
  if ftZeroSamples ≤ s.wrenchZeroCount then
    { s with wrenchZero := fun i => s.wrenchZeroSum i / s.wrenchZeroCount, wrenchZeroed := true }
  else s

def pushWrench (s : WrenchBuffer) (values : Wrench) (now : ℚ) : WrenchBuffer :=
  let s := if s.wrenchZeroed then s else s.addToZero values
  { s with wrench := some fun i => values i - s.wrenchZero i, wrenchTime := now }

def zeroWrench (s : WrenchBuffer) : WrenchBuffer :=
  { s with wrenchZeroSum := fun _ => 0, wrenchZeroCount := 0, wrenchZeroed := false }

def call (s : WrenchBuffer) : WrenchCall → WrenchBuffer
  | .pushWrench values now => s.pushWrench values now
  | .zeroWrench => s.zeroWrench

def after (calls : List WrenchCall) : WrenchBuffer := calls.foldl call init

theorem after_concat (calls : List WrenchCall) (c : WrenchCall) : after (calls ++ [c]) = (after calls).call c := by
  rw [after, List.foldl_append]
  rfl

end WrenchBuffer

open WrenchBuffer

def addSample (taken : List Wrench) : WrenchCall → List Wrench
  | .pushWrench values _ => taken ++ [values]
  | .zeroWrench => []

def since (calls : List WrenchCall) : List Wrench := calls.foldl addSample []

theorem since_concat (calls : List WrenchCall) (c : WrenchCall) :
    since (calls ++ [c]) = addSample (since calls) c := by
  rw [since, List.foldl_append]
  rfl

def total (samples : List Wrench) : Wrench := fun i => (samples.map (· i)).sum

theorem total_concat (samples : List Wrench) (values : Wrench) :
    total (samples ++ [values]) = fun i => total samples i + values i := by
  funext i
  rw [total, List.map_append, List.sum_append, List.map_singleton, List.sum_singleton]
  rfl

def zeroOf (samples : List Wrench) : Wrench := fun i => total (samples.take ftZeroSamples) i / ftZeroSamples

theorem zeroOf_concat {samples : List Wrench} (enough : ftZeroSamples ≤ samples.length) (values : Wrench) :
    zeroOf (samples ++ [values]) = zeroOf samples := by
  funext i
  rw [zeroOf, zeroOf, List.take_append_of_le_length enough]

theorem zeroOf_of_length {samples : List Wrench} (all : samples.length = ftZeroSamples) :
    zeroOf samples = fun i => total samples i / samples.length := by
  funext i
  rw [zeroOf, List.take_of_length_le all.le, all]

structure Averages (samples : List Wrench) (s : WrenchBuffer) : Prop where
  zeroed : s.wrenchZeroed = true ↔ ftZeroSamples ≤ samples.length
  mean : s.wrenchZeroed = true → s.wrenchZero = zeroOf samples
  count : s.wrenchZeroed = false → s.wrenchZeroCount = samples.length
  sum : s.wrenchZeroed = false → s.wrenchZeroSum = total samples

section
variable {samples : List Wrench} {s : WrenchBuffer}

theorem averages_nil (zeroed : s.wrenchZeroed = false) (count : s.wrenchZeroCount = 0)
    (sum : s.wrenchZeroSum = fun _ => 0) : Averages [] s where
  zeroed := iff_of_false (Bool.eq_false_iff.mp zeroed) (by decide)
  mean set := nomatch zeroed.symm.trans set
  count _ := count
  sum _ := sum

theorem Averages.beyond (h : Averages samples s) (zeroed : s.wrenchZeroed = true) (values : Wrench) :
    Averages (samples ++ [values]) s := by
  have enough := h.zeroed.mp zeroed
  constructor
  · refine iff_of_true zeroed ?_
    rw [List.length_append]
    exact enough.trans (Nat.le_add_right _ _)
  · intro _
    rw [zeroOf_concat enough]
    exact h.mean zeroed
  · exact fun unset => nomatch unset.symm.trans zeroed
  · exact fun unset => nomatch unset.symm.trans zeroed

theorem Averages.addToZero (h : Averages samples s) (zeroed : s.wrenchZeroed = false) (values : Wrench) :
    Averages (samples ++ [values]) (s.addToZero values) := by
  have few : samples.length < ftZeroSamples := by
    by_contra many
    exact Bool.eq_false_iff.mp zeroed (h.zeroed.mpr (Nat.not_lt.mp many))
  have more : (samples ++ [values]).length = samples.length + 1 := List.length_append
  have length : s.wrenchZeroCount + 1 = (samples ++ [values]).length := by rw [h.count zeroed, more]
  have sum : (fun i => s.wrenchZeroSum i + values i) = total (samples ++ [values]) := by
    rw [h.sum zeroed, total_concat]
  simp only [WrenchBuffer.addToZero, length, sum]
  by_cases enough : ftZeroSamples ≤ (samples ++ [values]).length
  · have all : (samples ++ [values]).length = ftZeroSamples := by omega
    rw [if_pos enough]
    constructor
    · exact iff_of_true rfl enough
    · intro _
      rw [zeroOf_of_length all, total_concat, ← h.sum zeroed]
    · exact nofun
    · exact nofun
  · rw [if_neg enough]
    constructor
    · exact iff_of_false (Bool.eq_false_iff.mp zeroed) enough
    · exact fun set => nomatch zeroed.symm.trans set
    · exact fun _ => rfl
    · exact fun _ => rfl

theorem pushWrench_eq (s : WrenchBuffer) (values : Wrench) (now : ℚ) : ∃ mid,
    s.pushWrench values now =
      { mid with wrench := some fun i => values i - mid.wrenchZero i, wrenchTime := now } ∧
    (s.wrenchZeroed = true ∧ mid = s ∨ s.wrenchZeroed = false ∧ mid = s.addToZero values) := by
  rw [WrenchBuffer.pushWrench]
  cases zeroed : s.wrenchZeroed with
  | true => exact ⟨s, by simp, .inl ⟨rfl, rfl⟩⟩
  | false => exact ⟨s.addToZero values, by simp, .inr ⟨rfl, rfl⟩⟩

theorem Averages.pushWrench (h : Averages samples s) (values : Wrench) (now : ℚ) :
    Averages (samples ++ [values]) (s.pushWrench values now) := by
  obtain ⟨mid, shown, ⟨zeroed, rfl⟩ | ⟨zeroed, rfl⟩⟩ := pushWrench_eq s values now
  · have averages := h.beyond zeroed values
    rw [shown]
    exact ⟨averages.zeroed, averages.mean, averages.count, averages.sum⟩
  · have averages := h.addToZero zeroed values
    rw [shown]
    exact ⟨averages.zeroed, averages.mean, averages.count, averages.sum⟩

end

theorem averages_since (calls : List WrenchCall) : Averages (since calls) (after calls) := by
  induction calls using List.reverseRecOn with
  | nil => exact averages_nil rfl rfl rfl
  | append_singleton calls c ih =>
      rw [since_concat, after_concat]
      cases c with
      | pushWrench values now => exact ih.pushWrench values now
      | zeroWrench => exact averages_nil rfl rfl rfl

theorem wrenchZero_pushWrench {s : WrenchBuffer} {values : Wrench} {now : ℚ}
    (waits : (s.pushWrench values now).wrenchZeroed = false) :
    s.wrenchZeroed = false ∧ (s.pushWrench values now).wrenchZero = s.wrenchZero := by
  obtain ⟨mid, shown, ⟨zeroed, rfl⟩ | ⟨zeroed, rfl⟩⟩ := pushWrench_eq s values now
  · rw [shown] at waits
    exact nomatch waits.symm.trans zeroed
  · rw [shown] at waits ⊢
    refine ⟨zeroed, ?_⟩
    simp only [addToZero] at waits ⊢
    split_ifs at waits ⊢ with enough
    rfl

theorem wrenchZero_of_pushes {s : WrenchBuffer} {pushes : List WrenchCall} (noRequest : .zeroWrench ∉ pushes)
    (waits : (pushes.foldl call s).wrenchZeroed = false) : (pushes.foldl call s).wrenchZero = s.wrenchZero := by
  induction pushes using List.reverseRecOn with
  | nil => rfl
  | append_singleton pushes c ih =>
      rw [List.mem_append, not_or] at noRequest
      rw [List.foldl_append] at waits ⊢
      cases c with
      | zeroWrench => exact absurd List.mem_cons_self noRequest.2
      | pushWrench values now =>
          obtain ⟨waited, same⟩ := wrenchZero_pushWrench waits
          exact same.trans (ih noRequest.1 waited)

theorem wrench_of_requests {s : WrenchBuffer} {requests : List WrenchCall}
    (only : ∀ c ∈ requests, c = .zeroWrench) :
    (requests.foldl call s).wrench = s.wrench ∧ (requests.foldl call s).wrenchZero = s.wrenchZero := by
  induction requests generalizing s with
  | nil => exact ⟨rfl, rfl⟩
  | cons c requests ih =>
      have request := only c List.mem_cons_self
      subst request
      exact ih (s := s.zeroWrench) fun c hc => only c (List.mem_cons_of_mem _ hc)

/-- The zero and the wrench after some calls, in terms of the samples that were pushed. -/
structure Zeroing (calls : List WrenchCall) : Prop where
  zeroed : (after calls).wrenchZeroed = true ↔ ftZeroSamples ≤ (since calls).length
  mean : (after calls).wrenchZeroed = true → ∀ i, (after calls).wrenchZero i =
    (((since calls).take ftZeroSamples).map (· i)).sum / ftZeroSamples
  wrench : ∀ before values now requests, calls = before ++ .pushWrench values now :: requests →
    (∀ c ∈ requests, c = .zeroWrench) → (after calls).wrench =
      some fun i => values i - (after (before ++ [.pushWrench values now])).wrenchZero i
  first : .zeroWrench ∉ calls → (after calls).wrenchZeroed = false → ∀ i, (after calls).wrenchZero i = 0
  waits : ∀ before pushes, calls = before ++ .zeroWrench :: pushes → .zeroWrench ∉ pushes →
    (after calls).wrenchZeroed = false → (after calls).wrenchZero = (after before).wrenchZero

theorem zeroing (calls : List WrenchCall) : Zeroing calls := by
  have averages := averages_since calls
  constructor
  · exact averages.zeroed
  · exact fun zeroed i => congrFun (averages.mean zeroed) i
  · rintro before values now requests rfl only
    obtain ⟨mid, shown, -⟩ := pushWrench_eq (after before) values now
    have pushed : after (before ++ .pushWrench values now :: requests) =
        requests.foldl call ((after before).pushWrench values now) := List.foldl_append
    rw [pushed, (wrench_of_requests only).1, after_concat, call, shown]
  · intro noRequest unset i
    exact congrFun (wrenchZero_of_pushes noRequest unset) i
  · rintro before pushes rfl noRequest unset
    have requested : after (before ++ .zeroWrench :: pushes) =
        pushes.foldl call (after before).zeroWrench := List.foldl_append
    rw [requested] at unset ⊢
    exact wrenchZero_of_pushes noRequest unset

end TactileSensors.Viewer
