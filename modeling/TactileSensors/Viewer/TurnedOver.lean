import TactileSensors.Viewer.TipAngle

/-!
# The gripper turned over

Two runs of the estimate, the second with gravity the other way round in some of the samples. The references
are the same up to whole turns, and the angle that is measured against them only while the finger is still.
-/

namespace TactileSensors.Viewer
open Arith

/-! ## Gravity the other way round -/

def Orientation.opposite : Orientation → Orientation
  | .up => .down
  | .down => .up
  | .side => .side

namespace Axes

noncomputable def turn (turned : Bool) (a : Axes) : Axes := if turned then ⟨a.x, -a.y, -a.z⟩ else a

variable (turned : Bool) (a b : Axes)

@[simp] theorem turn_x : (a.turn turned).x = a.x := by
  cases turned <;> rfl

@[simp] theorem norm_turn : (a.turn turned).norm = a.norm := by
  cases turned with
  | false => rfl
  | true => simp [turn, norm]

theorem zero_turn : zero.turn turned = zero := by
  cases turned with
  | false => rfl
  | true => simp [turn, zero]

theorem add_turn : (a.turn turned).add (b.turn turned) = (a.add b).turn turned := by
  cases turned with
  | false => rfl
  | true => simp only [turn, add, if_true, neg_add]

theorem div_turn (count : ℕ) : (a.turn turned).div count = (a.div count).turn turned := by
  cases turned with
  | false => rfl
  | true => simp only [turn, div, if_true, neg_div]

end Axes

structure Sample where
  accel : Axes
  gyro : Axes
  now : ℝ

noncomputable def Sample.turn (turned : Bool) (sample : Sample) : Sample :=
  { sample with accel := sample.accel.turn turned }

noncomputable def Tip.push (tip : Tip) (f : Fin Usb.numFingers) (sample : Sample) : Tip :=
  tip.update f sample.accel sample.gyro sample.now

noncomputable def estimate (f : Fin Usb.numFingers) (samples : List Sample) : Tip :=
  samples.foldl (fun tip sample => tip.push f sample) .init

theorem orientationOf_turn (turned : Bool) (a : Axes) (norm : ℝ) :
    orientationOf (a.turn turned) norm =
      if turned then (orientationOf a norm).opposite else orientationOf a norm := by
  cases turned with
  | false => rfl
  | true =>
      have flipped : (tipUpYSign : ℝ) * -a.y / norm = -(tipUpYSign * a.y / norm) := by ring
      have positive : (0 : ℝ) < tipOrientationMinY := by
        rw [tipOrientationMinY]
        norm_num
      simp only [orientationOf, Axes.turn, if_true, flipped]
      generalize (tipUpYSign : ℝ) * a.y / norm = y
      by_cases up : tipOrientationMinY ≤ y
      · have low : ¬ tipOrientationMinY ≤ -y := by linarith
        have down : -y ≤ -tipOrientationMinY := neg_le_neg up
        rw [if_pos up, if_neg low, if_pos down]
        rfl
      · by_cases down : y ≤ -tipOrientationMinY
        · have high : tipOrientationMinY ≤ -y := le_neg_of_le_neg down
          rw [if_neg up, if_pos down, if_pos high]
          rfl
        · have low : ¬ tipOrientationMinY ≤ -y := fun high => down (le_neg_of_le_neg high)
          have high : ¬ -y ≤ -tipOrientationMinY := fun low => up (neg_le_neg_iff.mp low)
          rw [if_neg up, if_neg down, if_neg low, if_neg high]
          rfl

theorem orientationOf_turn_side (turned : Bool) (a : Axes) (norm : ℝ) :
    orientationOf (a.turn turned) norm = .side ↔ orientationOf a norm = .side := by
  rw [orientationOf_turn]
  cases turned with
  | false => rfl
  | true => cases orientationOf a norm <;> simp [Orientation.opposite]

theorem y_ne_zero {a : Axes} {norm : ℝ} (stands : orientationOf a norm ≠ .side) : a.y ≠ 0 := by
  intro zero
  refine stands ?_
  have positive : (0 : ℝ) < tipOrientationMinY := by
    rw [tipOrientationMinY]
    norm_num
  rw [orientationOf, zero, mul_zero, zero_div, if_neg (not_le.mpr positive),
    if_neg (not_le.mpr (neg_neg_of_pos positive))]

/-! ## Measured angles -/

noncomputable def zeroFor (seen : Orientation) (zeroAngle : ℝ) : ℝ :=
  if seen = .down then zeroAngle + Real.pi else zeroAngle

theorem coe_zeroFor_opposite {seen : Orientation} (stands : seen ≠ .side) (zeroAngle : ℝ) :
    (zeroFor seen.opposite zeroAngle : Real.Angle) = zeroFor seen zeroAngle + Real.pi := by
  cases seen with
  | side => exact absurd rfl stands
  | up => exact Real.Angle.coe_add _ _
  | down =>
      have whole : (zeroFor .down zeroAngle : Real.Angle) = zeroAngle + Real.pi := Real.Angle.coe_add _ _
      rw [whole, add_assoc, Real.Angle.coe_pi_add_coe_pi, add_zero]
      rfl

theorem measured_turn (turned : Bool) {a : Axes} {norm zeroAngle zeroAngle' : ℝ}
    (stands : orientationOf a norm ≠ .side) (same : (zeroAngle : Real.Angle) = zeroAngle') :
    wrap (atan2 (a.turn turned).z (a.turn turned).y -
        zeroFor (orientationOf (a.turn turned) norm) zeroAngle') =
      wrap (atan2 a.z a.y - zeroFor (orientationOf a norm) zeroAngle) := by
  refine wrap_congr ?_
  have against : (zeroFor (orientationOf a norm) zeroAngle' : Real.Angle) =
      zeroFor (orientationOf a norm) zeroAngle := by
    rw [zeroFor, zeroFor]
    split_ifs
    · rw [Real.Angle.coe_add, Real.Angle.coe_add, same]
    · exact same.symm
  rw [orientationOf_turn, Real.Angle.coe_sub, Real.Angle.coe_sub]
  cases turned with
  | false => exact congrArg _ against
  | true =>
      have opposite : (atan2 (-a.z) (-a.y) : Real.Angle) = atan2 a.z a.y + Real.pi :=
        coe_atan2_neg (.inr (y_ne_zero stands))
      simp only [Axes.turn, if_true]
      rw [opposite, coe_zeroFor_opposite stands, against, add_sub_add_right_eq_sub]

theorem zero_turn (turned : Bool) {mean : Axes} {norm : ℝ} (stands : orientationOf mean norm ≠ .side) :
    ((if orientationOf mean norm = .down then atan2 mean.z mean.y - Real.pi
        else atan2 mean.z mean.y : ℝ) : Real.Angle) =
      (if orientationOf (mean.turn turned) norm = .down
        then atan2 (mean.turn turned).z (mean.turn turned).y - Real.pi
        else atan2 (mean.turn turned).z (mean.turn turned).y : ℝ) := by
  cases turned with
  | false => rfl
  | true =>
      have opposite : (atan2 (-mean.z) (-mean.y) : Real.Angle) = atan2 mean.z mean.y + Real.pi :=
        coe_atan2_neg (.inr (y_ne_zero stands))
      rw [orientationOf_turn, if_pos rfl]
      simp only [Axes.turn, if_true]
      cases seen : orientationOf mean norm with
      | side => exact absurd seen stands
      | up =>
          show (atan2 mean.z mean.y : Real.Angle) = ((atan2 (-mean.z) (-mean.y) - Real.pi : ℝ) : Real.Angle)
          rw [Real.Angle.coe_sub, opposite, add_sub_cancel_right]
      | down =>
          show ((atan2 mean.z mean.y - Real.pi : ℝ) : Real.Angle) = (atan2 (-mean.z) (-mean.y) : Real.Angle)
          rw [Real.Angle.coe_sub, opposite, Real.Angle.sub_coe_pi_eq_add_coe_pi]

/-! ## Two runs -/

structure SameReference (r r' : Reference) : Prop where
  zeroAngle : (r.zeroAngle : Real.Angle) = r'.zeroAngle
  refNorm : r'.refNorm = r.refNorm

/-- The same is reported, and the filter is in the same state, its reference up to whole turns. -/
structure SameEstimate (s t : Tip) : Prop where
  tipAngle : t.tipAngle = s.tipAngle
  tipValid : t.tipValid = s.tipValid
  tipRawAngle : t.tipRawAngle = s.tipRawAngle
  tipLastTime : t.tipLastTime = s.tipLastTime
  tipCalCount : t.tipCalCount = s.tipCalCount
  reference : Option.Rel SameReference s.reference t.reference

structure Paired (before : Bool) (s t : Tip) : Prop extends SameEstimate s t where
  sums : s.reference = none → t.tipCalSum = s.tipCalSum.turn before
  onSide : t.orientationSeen = some .side ↔ s.orientationSeen = some .side

theorem paired_init (before : Bool) : Paired before .init .init where
  tipAngle := rfl
  tipValid := rfl
  tipRawAngle := rfl
  tipLastTime := rfl
  tipCalCount := rfl
  reference := .none
  sums _ := (Axes.zero_turn before).symm
  onSide := Iff.rfl

section
variable {before : Bool} {s t : Tip} {f : Fin Usb.numFingers} {now : ℝ}

theorem Paired.calibrate (h : Paired before s t) (calibrating : s.reference = none) (accel : Axes) :
    Paired before (s.calibrate accel now) (t.calibrate (accel.turn before) now) := by
  have sum : t.tipCalSum.add (accel.turn before) = (s.tipCalSum.add accel).turn before := by
    rw [h.sums calibrating, Axes.add_turn]
  simp only [Tip.calibrate, sum, h.tipCalCount, Axes.div_turn, Axes.norm_turn]
  generalize s.tipCalSum.add accel = total
  by_cases enough : tipCalSamples ≤ s.tipCalCount + 1
  · simp only [if_pos enough]
    generalize total.div (s.tipCalCount + 1) = mean
    by_cases weightless : mean.norm = 0
    · simp only [if_pos weightless]
      exact { h with
        tipCalCount := rfl
        sums := fun _ => (Axes.zero_turn before).symm }
    · simp only [if_neg weightless, orientationOf_turn_side]
      by_cases side : orientationOf mean mean.norm = .side
      · simp only [if_pos side]
        exact { h with
          tipCalCount := rfl
          sums := fun _ => (Axes.zero_turn before).symm
          onSide := by simp [Tip.restart, side, orientationOf_turn_side] }
      · simp only [if_neg side]
        exact { h with
          tipLastTime := rfl
          tipCalCount := rfl
          reference := .some ⟨zero_turn before side, rfl⟩
          sums := nofun
          onSide := by simp [side, orientationOf_turn_side] }
  · simp only [if_neg enough]
    exact { h with
      tipCalCount := rfl
      sums := fun _ => rfl }

theorem Paired.report (h : Paired before s t) (angle offPlane : ℝ) :
    Paired before (s.report f angle offPlane) (t.report f angle offPlane) :=
  { h with
    tipRawAngle := rfl
    tipAngle := rfl
    tipValid := rfl }

theorem Paired.filter (h : Paired before s t) {quiescent quiescent' : Prop} [Decidable quiescent]
    [Decidable quiescent'] (rests : quiescent' ↔ quiescent) {angle angle' : ℝ}
    (same : quiescent → angle' = angle) (offPlane : ℝ) (gyro : Axes) :
    Paired before (s.filter f quiescent angle offPlane gyro now)
      (t.filter f quiescent' angle' offPlane gyro now) := by
  have timed : Paired before { s with tipLastTime := some now } { t with tipLastTime := some now } :=
    { h with tipLastTime := rfl }
  simp only [Tip.filter, h.tipLastTime, h.tipRawAngle, rests]
  by_cases still : quiescent
  · simp only [same still]
    split_ifs
    · exact timed.report _ _
    · exact timed.report _ _
  · simp only [if_neg still]
    split_ifs
    · exact timed.report _ _
    · exact { timed with
        tipRawAngle := rfl
        tipValid := rfl }

theorem Paired.measure (h : Paired before s t) {r r' : Reference} (same : SameReference r r')
    (turned : Bool) (accel gyro : Axes) :
    Paired before (s.measure f r accel gyro now) (t.measure f r' (accel.turn turned) gyro now) := by
  have rests : Tip.Quiescent r' accel.norm ↔ Tip.Quiescent r accel.norm := by
    rw [Tip.Quiescent, Tip.Quiescent, same.refNorm]
  simp only [Tip.measure, Axes.norm_turn, Axes.turn_x, rests]
  by_cases still : Tip.Quiescent r accel.norm
  · simp only [if_pos still, Option.some.injEq, orientationOf_turn_side]
    have seen : Paired before { s with orientationSeen := some (orientationOf accel accel.norm) }
        { t with orientationSeen := some (orientationOf (accel.turn turned) accel.norm) } :=
      { h with onSide := by simp only [Option.some.injEq, orientationOf_turn_side] }
    by_cases side : orientationOf accel accel.norm = .side
    · simp only [if_pos side]
      exact { seen with
        tipLastTime := rfl
        tipValid := rfl }
    · simp only [if_neg side]
      exact seen.filter Iff.rfl (fun _ => measured_turn turned side same.zeroAngle) _ _
  · simp only [if_neg still, h.onSide]
    by_cases side : s.orientationSeen = some .side
    · simp only [if_pos side]
      exact { h with
        tipLastTime := rfl
        tipValid := rfl }
    · simp only [if_neg side]
      exact h.filter Iff.rfl (fun rest => absurd rest still) _ _

theorem Paired.push (h : Paired before s t) (sample : Sample) {turned : Bool}
    (calibrating : s.reference = none → turned = before) :
    Paired before (s.push f sample) (t.push f (sample.turn turned)) := by
  have reference := h.reference
  simp only [Tip.push, Tip.update, Sample.turn, Axes.norm_turn]
  by_cases weightless : sample.accel.norm = 0
  · simp only [if_pos weightless]
    exact { h with tipValid := rfl }
  · simp only [if_neg weightless]
    generalize known : s.reference = r at reference
    generalize t.reference = r' at reference
    cases reference with
    | none =>
        rw [calibrating known]
        exact h.calibrate known sample.accel
    | some same => exact h.measure same turned sample.accel sample.gyro

end

/-! ## Runs -/

/-- Up to the end of the calibration, each sample is turned as `before` says. -/
def TurnedAsOne (f : Fin Usb.numFingers) (before : Bool) (samples : List (Sample × Bool)) : Prop :=
  ∀ taken sample rest, samples = taken ++ sample :: rest →
    (estimate f (taken.map Prod.fst)).reference = none → sample.2 = before

noncomputable def turnedSamples (samples : List (Sample × Bool)) : List Sample :=
  samples.map fun sample => sample.1.turn sample.2

theorem paired_estimate (f : Fin Usb.numFingers) {before : Bool} {samples : List (Sample × Bool)}
    (asOne : TurnedAsOne f before samples) :
    Paired before (estimate f (samples.map Prod.fst)) (estimate f (turnedSamples samples)) := by
  induction samples using List.reverseRecOn with
  | nil => exact paired_init before
  | append_singleton taken sample ih =>
      have earlier : TurnedAsOne f before taken := by
        rintro first x rest rfl
        exact asOne first x (rest ++ [sample]) (by simp)
      have step := (ih earlier).push (f := f) sample.1 (asOne taken sample [] rfl)
      rw [estimate, estimate, turnedSamples, List.map_append, List.map_append, List.foldl_append,
        List.foldl_append]
      exact step

theorem estimate_turned_over (f : Fin Usb.numFingers) (before : Bool) (samples : List (Sample × Bool))
    (asOne : TurnedAsOne f before samples) (taken rest : List (Sample × Bool))
    (sofar : samples = taken ++ rest) :
    SameEstimate (estimate f (taken.map Prod.fst)) (estimate f (turnedSamples taken)) := by
  subst sofar
  have earlier : TurnedAsOne f before taken := by
    rintro first x more rfl
    exact asOne first x (more ++ rest) (by simp)
  exact (paired_estimate f earlier).toSameEstimate

/-! ## A gripper that is turned over once it is calibrated -/

noncomputable def upright : Sample := ⟨⟨0, -1, 0⟩, .zero, 0⟩

theorem norm_upright : upright.accel.norm = 1 := by
  simp [upright, Axes.norm]

theorem estimate_upright (f : Fin Usb.numFingers) {count : ℕ} (few : count < tipCalSamples) :
    estimate f (List.replicate count upright) =
      { Tip.init with tipCalSum := ⟨0, -count, 0⟩, tipCalCount := count } := by
  induction count with
  | zero => simp [estimate, Tip.init, Axes.zero]
  | succ count ih =>
      have sofar := ih (Nat.lt_of_succ_lt few)
      have sum : (⟨0, -count, 0⟩ : Axes).add upright.accel = ⟨0, -(count + 1 : ℕ), 0⟩ := by
        simp only [upright, Axes.add, add_zero, Nat.cast_add, Nat.cast_one, neg_add]
      rw [estimate] at sofar
      rw [List.replicate_succ', estimate, List.foldl_append, sofar, List.foldl_cons, List.foldl_nil, Tip.push,
        Tip.update, norm_upright, if_neg one_ne_zero]
      simp only [Tip.init, Tip.calibrate, sum, if_neg (Nat.not_le.mpr few)]

theorem calibrated_upright (f : Fin Usb.numFingers) :
    (estimate f (List.replicate tipCalSamples upright)).reference ≠ none := by
  have sofar := estimate_upright f (by decide : 199 < tipCalSamples)
  have enough : tipCalSamples = 199 + 1 := rfl
  have mean : ((⟨0, -(199 : ℕ), 0⟩ : Axes).add upright.accel).div (199 + 1) = ⟨0, -1, 0⟩ := by
    simp only [upright, Axes.add, Axes.div]
    norm_num
  have unit : (⟨0, -1, 0⟩ : Axes).norm = 1 := norm_upright
  have up : orientationOf ⟨0, -1, 0⟩ 1 = .up := by
    have positive : (tipOrientationMinY : ℝ) ≤ tipUpYSign * -1 / 1 := by
      norm_num [tipOrientationMinY, tipUpYSign]
    rw [orientationOf, if_pos positive]
  rw [estimate] at sofar
  rw [enough, List.replicate_succ', estimate, List.foldl_append, sofar, List.foldl_cons, List.foldl_nil, Tip.push,
    Tip.update, norm_upright, if_neg one_ne_zero]
  simp only [Tip.init, Tip.calibrate, mean, unit, up, if_pos enough.le, one_ne_zero, if_false]
  exact Option.some_ne_none _

theorem estimate_turned_over_upright :
    SameEstimate (estimate ⟨0, Nat.two_pos⟩ (List.replicate tipCalSamples upright ++ [upright]))
      (estimate ⟨0, Nat.two_pos⟩ (List.replicate tipCalSamples upright ++ [upright.turn true])) := by
  let samples := List.replicate tipCalSamples (upright, false) ++ [(upright, true)]
  have asOne : TurnedAsOne ⟨0, Nat.two_pos⟩ false samples := by
    intro taken sample rest split calibrating
    have known := calibrated_upright ⟨0, Nat.two_pos⟩
    rw [List.append_eq_append_iff] at split
    rcases split with ⟨more, rfl, last⟩ | ⟨_ | ⟨first, more⟩, all, last⟩
    · have ends : more = [] := by
        have length := congrArg List.length last
        simp only [List.length_append, List.length_cons, List.length_nil] at length
        exact List.length_eq_zero_iff.mp (by omega)
      rw [ends, List.append_nil, List.map_replicate] at calibrating
      exact absurd calibrating known
    · rw [List.append_nil] at all
      rw [← all, List.map_replicate] at calibrating
      exact absurd calibrating known
    · obtain ⟨rfl, -⟩ := List.cons.inj last
      have among : sample ∈ List.replicate tipCalSamples (upright, false) := by
        rw [all]
        exact List.mem_append_right _ List.mem_cons_self
      rw [List.eq_of_mem_replicate among]
  have same := estimate_turned_over _ false samples asOne samples [] (List.append_nil _).symm
  have left : samples.map Prod.fst = List.replicate tipCalSamples upright ++ [upright] := by
    simp [samples]
  have right : turnedSamples samples = List.replicate tipCalSamples upright ++ [upright.turn true] := by
    simp [samples, turnedSamples, Sample.turn, Axes.turn]
  rwa [left, right] at same

end TactileSensors.Viewer
