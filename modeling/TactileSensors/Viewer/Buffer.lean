import Mathlib.Data.Rat.Init
import TactileSensors.Machine.Run
import TactileSensors.Scan.Latest
import TactileSensors.Usb.Baseline

/-!
# What the viewer holds of the sensor

`SensorDataBuffer`, each method of which runs under its lock. The reader thread pushes, the loops and
the handlers of the websocket read it and change its settings. The estimate of the fingertip angle is
any function of the samples here.
-/

namespace TactileSensors.Viewer
open Scan Usb Quickstart

def dynamicLength : ℕ := 4096
def imuLength : ℕ := 2000

def firstFinger : Fin numFingers := ⟨0, Nat.zero_lt_two⟩

abbrev Estimator (τ : Type) := Fin numFingers → τ → List Int → List Int → ℚ → τ

structure SensorDataBuffer (τ : Type) where
  staticTactile : Fin numFingers → Option (List Int)
  dynamicTactile : Fin numFingers → List Int
  accelerometer : Fin numFingers → List (List Int)
  gyroscope : Fin numFingers → List (List Int)
  baseline : Fin numFingers → List Int
  useBaseline : Bool
  adaptiveRange : Bool
  defaultRange : Int
  maxRange : Fin numFingers → Int
  pushTotal : Fin numFingers → ℕ
  pushCorrupt : Fin numFingers → ℕ
  staticFloor : Int
  tip : Fin numFingers → τ

structure StaticSnapshot where
  values : Fin numFingers → List Int
  maxRange : Fin numFingers → Int

namespace SensorDataBuffer
variable {τ : Type}

/-- A new buffer, after `run_web_viewer` has seeded its baseline and its floor. -/
def create (tip : τ) (baseline : Fin numFingers → List Int) (staticFloor : Int) : SensorDataBuffer τ where
  staticTactile _ := none
  dynamicTactile _ := []
  accelerometer _ := []
  gyroscope _ := []
  baseline := baseline
  useBaseline := true
  adaptiveRange := true
  defaultRange := 3000
  maxRange _ := 300
  pushTotal _ := 0
  pushCorrupt _ := 0
  staticFloor := staticFloor
  tip _ := tip

variable (estimate : Estimator τ) (s : SensorDataBuffer τ)

def pushFinger (sensorData : SensorData) (now : ℚ) (s : SensorDataBuffer τ) (f : Fin numFingers) :
    SensorDataBuffer τ :=
  let finger := sensorData.fingers.get f
  let st := finger.staticTactile
  let s := { s with pushTotal := Function.update s.pushTotal f (s.pushTotal f + 1) }
  if st.length ≠ 28 then { s with pushCorrupt := Function.update s.pushCorrupt f (s.pushCorrupt f + 1) }
  else
    { s with
      staticTactile := Function.update s.staticTactile f (some st)
      dynamicTactile := Function.update s.dynamicTactile f
        (appendBounded dynamicLength (s.dynamicTactile f) finger.dynamicTactile)
      accelerometer := Function.update s.accelerometer f
        (appendBounded imuLength (s.accelerometer f) finger.accelerometer)
      gyroscope := Function.update s.gyroscope f
        (appendBounded imuLength (s.gyroscope f) finger.gyroscope)
      tip := Function.update s.tip f
        (estimate f (s.tip f) finger.accelerometer finger.gyroscope now) }

def push (sensorData : SensorData) (now : ℚ) : SensorDataBuffer τ :=
  let s := if (sensorData.fingers.get firstFinger).timestamp ≠ 0 ∧ s.defaultRange ≠ 1200 then
    { s with defaultRange := 1200 } else s
  (List.finRange numFingers).foldl (pushFinger estimate sensorData now) s

def deflection (f : Fin numFingers) (raw : List Int) (i : ℕ) : Option Int := do
  let value ← raw[i]?
  let rest ← (s.baseline f)[i]?
  let deflection := max 0 (value - rest)
  return if s.staticFloor ≤ deflection then deflection else 0

def shownValues (f : Fin numFingers) (raw : List Int) : Option (List Int) :=
  if s.useBaseline then (List.range 28).mapM (s.deflection f raw) else some raw

/-- The body of `get_static_snapshot`'s loop: the values of a finger, and its range after them. -/
def showFinger (f : Fin numFingers) : Option (List Int × Int) :=
  match s.staticTactile f with
  | none => some (List.replicate 28 0, s.maxRange f)
  | some raw =>
      if raw.length ≠ 28 then some (List.replicate 28 0, s.maxRange f)
      else do
        let values ← s.shownValues f raw
        if s.adaptiveRange then
          let m := values.max?.getD 0
          return (values, if s.maxRange f < m then m else s.maxRange f)
        else return (values, s.maxRange f)

def staticSnapshot : Option (StaticSnapshot × SensorDataBuffer τ) := do
  let shown ← (List.finRange numFingers).mapM s.showFinger
  let values (f : Fin numFingers) := (shown.getD f ([], 0)).1
  let maxRange (f : Fin numFingers) := (shown.getD f ([], 0)).2
  return (⟨values, maxRange⟩, { s with maxRange })

def resetBaseline : SensorDataBuffer τ :=
  let resetVal := if s.adaptiveRange then 300 else s.defaultRange
  { s with
    -- an empty list counts for nothing, as no list does
    baseline := fun f =>
      match s.staticTactile f with
      | some raw => if raw = [] then s.baseline f else raw
      | none => s.baseline f
    maxRange := fun _ => resetVal }

def setRawMode (raw : Bool) : SensorDataBuffer τ := { s with useBaseline := !raw }

def setAdaptiveRange (adaptive : Bool) : SensorDataBuffer τ :=
  { s with
    adaptiveRange := adaptive
    maxRange := fun _ => if adaptive then 300 else s.defaultRange }

end SensorDataBuffer

inductive BufferCall
  | push (sensorData : SensorData) (now : ℚ)
  | staticSnapshot
  | resetBaseline
  | setRawMode (raw : Bool)
  | setAdaptiveRange (adaptive : Bool)

namespace SensorDataBuffer
variable {τ : Type} (estimate : Estimator τ)

def call (s : SensorDataBuffer τ) : BufferCall → Option (SensorDataBuffer τ)
  -- the estimate looks at three axes
  | .push sensorData now =>
      if Inertial sensorData.fingers then some (s.push estimate sensorData now) else none
  | .staticSnapshot => s.staticSnapshot.map (·.2)
  | .resetBaseline => some s.resetBaseline
  | .setRawMode raw => some (s.setRawMode raw)
  | .setAdaptiveRange adaptive => some (s.setAdaptiveRange adaptive)

theorem call_push (s : SensorDataBuffer τ) (sensorData : SensorData) (now : ℚ) :
    s.call estimate (.push sensorData now) = some (s.push estimate sensorData now) :=
  if_pos sensorData.inertial

end SensorDataBuffer
end TactileSensors.Viewer
