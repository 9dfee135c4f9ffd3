import TactileSensors.Arith.Angle
import TactileSensors.Usb.Fields

/-!
# The fingertip angle

Gravity in the fingertip's own frame, against a reference that the first samples fix. Turned over, the
gripper shows gravity the other way round, and is measured against the opposite of the reference.
-/

namespace TactileSensors.Viewer
open Arith

def tipCalSamples : ℕ := 200
def tipAccelTolerance : ℚ := 0.10
def tipAxisTolerance : ℚ := 0.30
def tipFilterTauS : ℚ := 0.05
def tipAngleMinDeg : ℚ := 0.0
def tipAngleMaxDeg : ℚ := 33.0
def tipOrientationMinY : ℚ := 0.5
def tipUpYSign : ℚ := -1.0
def gyroLsbPerDps : ℚ := 32768.0 / 250.0

def tipAngleSign (_ : Fin Usb.numFingers) : ℚ := -1.0

structure Axes where
  x : ℝ
  y : ℝ
  z : ℝ

namespace Axes

def zero : Axes := ⟨0, 0, 0⟩

noncomputable def add (a b : Axes) : Axes := ⟨a.x + b.x, a.y + b.y, a.z + b.z⟩

noncomputable def div (a : Axes) (count : ℕ) : Axes := ⟨a.x / count, a.y / count, a.z / count⟩

noncomputable def norm (a : Axes) : ℝ := √(a.x * a.x + a.y * a.y + a.z * a.z)

end Axes

inductive Orientation
  | up
  | down
  | side
deriving DecidableEq, Repr

noncomputable def orientationOf (accel : Axes) (norm : ℝ) : Orientation :=
  let y := tipUpYSign * accel.y / norm
  if tipOrientationMinY ≤ y then .up else if y ≤ -tipOrientationMinY then .down else .side

structure Reference where
  zeroAngle : ℝ
  refNorm : ℝ

structure Tip where
  tipAngle : ℝ
  tipValid : Bool
  tipCalSum : Axes
  tipCalCount : ℕ
  reference : Option Reference
  orientationSeen : Option Orientation
  tipLastTime : Option ℝ
  tipRawAngle : ℝ

namespace Tip

noncomputable def init : Tip where
  tipAngle := 0
  tipValid := false
  tipCalSum := .zero
  tipCalCount := 0
  reference := none
  orientationSeen := none
  tipLastTime := none
  tipRawAngle := 0

def restart (tip : Tip) : Tip := { tip with tipCalSum := .zero, tipCalCount := 0 }

noncomputable def calibrate (tip : Tip) (accel : Axes) (now : ℝ) : Tip :=
  let tip := { tip with tipCalSum := tip.tipCalSum.add accel, tipCalCount := tip.tipCalCount + 1 }
  if tipCalSamples ≤ tip.tipCalCount then
    let mean := tip.tipCalSum.div tip.tipCalCount
    let refNorm := mean.norm
    if refNorm = 0 then tip.restart
    else
      let seen := orientationOf mean refNorm
      let tip := { tip with orientationSeen := some seen }
      if seen = .side then tip.restart
      else
        let zero := atan2 mean.z mean.y
        let zero := if seen = .down then zero - Real.pi else zero
        { tip with reference := some ⟨zero, refNorm⟩, tipLastTime := some now }
  else tip

noncomputable def degrees (angle : ℝ) : ℝ := angle * (180 : ℕ) / Real.pi
noncomputable def radians (angle : ℝ) : ℝ := angle * Real.pi / (180 : ℕ)

/-- What is reported is clamped, and so is the state of the filter. -/
noncomputable def report (tip : Tip) (f : Fin Usb.numFingers) (angle offPlane : ℝ) : Tip :=
  let reported := degrees angle * tipAngleSign f
  let clamped := min (max reported tipAngleMinDeg) tipAngleMaxDeg
  { tip with
    tipRawAngle := radians clamped / tipAngleSign f
    tipAngle := clamped
    tipValid := decide (offPlane ≤ tipAxisTolerance) }

def Quiescent (reference : Reference) (norm : ℝ) : Prop :=
  |norm / reference.refNorm - 1| ≤ tipAccelTolerance

noncomputable instance (reference : Reference) (norm : ℝ) : Decidable (Quiescent reference norm) :=
  inferInstanceAs (Decidable (_ ≤ _))

/-- The filter: the gyroscope, drawn to the accelerometer while the finger is still. -/
noncomputable def filter (tip : Tip) (f : Fin Usb.numFingers) (quiescent : Prop) [Decidable quiescent]
    (angle offPlane : ℝ) (gyro : Axes) (now : ℝ) : Tip :=
  let dt : ℝ := match tip.tipLastTime with
    | some last => now - last
    | none => 0
  let tip := { tip with tipLastTime := some now }
  if gyroLsbPerDps ≠ 0 ∧ 0 < dt ∧ dt < (0.1 : ℚ) then
    let rate := radians (gyro.x / gyroLsbPerDps)
    let predicted := tip.tipRawAngle + rate * dt
    let alpha := tipFilterTauS / (tipFilterTauS + dt)
    tip.report f (if quiescent then alpha * predicted + (1 - alpha) * angle else predicted) offPlane
  else if ¬ quiescent then { tip with tipValid := false }
  else tip.report f angle offPlane

noncomputable def measure (tip : Tip) (f : Fin Usb.numFingers) (reference : Reference) (accel gyro : Axes)
    (now : ℝ) : Tip :=
  let norm := accel.norm
  let offPlane := |accel.x| / norm
  let tip := if Quiescent reference norm then { tip with orientationSeen := some (orientationOf accel norm) }
    else tip
  if tip.orientationSeen = some .side then { tip with tipLastTime := some now, tipValid := false }
  else
    let zero := if tip.orientationSeen = some .down then reference.zeroAngle + Real.pi
      else reference.zeroAngle
    let angle := wrap (atan2 accel.z accel.y - zero)
    tip.filter f (Quiescent reference norm) angle offPlane gyro now

noncomputable def update (tip : Tip) (f : Fin Usb.numFingers) (accel gyro : Axes) (now : ℝ) : Tip :=
  if accel.norm = 0 then { tip with tipValid := false }
  else match tip.reference with
    | none => tip.calibrate accel now
    | some reference => tip.measure f reference accel gyro now

end Tip

end TactileSensors.Viewer
