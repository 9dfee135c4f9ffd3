import TactileSensors.Usb.Samples
import TactileSensors.Viewer.Recorded

/-!
# From the line to the viewer

The thread of `run_web_viewer` reads the sensor and pushes each sample. What the buffer holds at any moment is
what the sensor reported, in order, of the samples pushed so far.
-/

namespace TactileSensors.Viewer
open Machine Scan Usb Quickstart

def BufferCall.data : BufferCall → Option SensorData
  | .push sensorData _ => some sensorData
  | _ => none

def pushed (calls : List BufferCall) : List SensorData := calls.filterMap (·.data)

def isWhole (values : Kind → List Int) : Bool := (values .staticTactile).length = 28

structure Shows {τ : Type} (shown : List (Kind → List Int)) (view : FingerView τ) : Prop where
  pushTotal : view.pushTotal = shown.length
  pushCorrupt : view.pushCorrupt = shown.countP fun values => !isWhole values
  staticTactile : view.staticTactile = (shown.filter isWhole).getLast?.map (· .staticTactile)
  dynamicTactile : view.dynamicTactile.map ([·]) =
    latest dynamicLength ((shown.filter isWhole).map (· .dynamicTactile))
  accelerometer : view.accelerometer = latest imuLength ((shown.filter isWhole).map (· .accelerometer))
  gyroscope : view.gyroscope = latest imuLength ((shown.filter isWhole).map (· .gyroscope))

section
variable {τ : Type} (calls : List BufferCall) (f : Fin numFingers)

theorem frame_values (c : BufferCall) : ((c.frame f).map (·.1.values)).toList =
    (c.data.toList.map fun sensorData => sensorData.values f).filter isWhole := by
  cases c with
  | push sensorData now =>
      have same : isWhole (sensorData.fingers.get f).values =
          decide ((sensorData.fingers.get f).staticTactile.length = 28) := rfl
      by_cases whole : (sensorData.fingers.get f).staticTactile.length = 28 <;>
        simp [BufferCall.frame, BufferCall.data, same, whole, SensorData.values]
  | _ => rfl

theorem map_frames : (frames calls f).map (·.1.values) =
    ((pushed calls).map fun sensorData => sensorData.values f).filter isWhole := by
  induction calls using List.reverseRecOn with
  | nil => rfl
  | append_singleton calls c ih =>
      have last := frame_values f c
      rw [frames_concat, List.map_append, ih, pushed, pushed, filterMap_concat, List.map_append,
        List.filter_append, ← last]
      cases c.frame f <;> rfl

theorem countP_isPush : calls.countP (·.isPush) = (pushed calls).length := by
  rw [pushed, List.length_filterMap_eq_countP]
  congr 1
  funext c
  cases c <;> rfl

theorem countP_corrupt : calls.countP (fun c => c.isPush && (c.frame f).isNone) =
    ((pushed calls).map fun sensorData => sensorData.values f).countP fun values => !isWhole values := by
  rw [List.countP_map, pushed, List.countP_filterMap]
  congr 1
  funext c
  cases c with
  | push sensorData now =>
      have same : isWhole (sensorData.values f) =
          decide ((sensorData.fingers.get f).staticTactile.length = 28) := rfl
      by_cases whole : (sensorData.fingers.get f).staticTactile.length = 28 <;>
        simp [BufferCall.isPush, BufferCall.frame, BufferCall.data, same, whole]
  | _ => rfl

theorem shows_viewAfter (estimate : Estimator τ) (tip : τ) :
    Shows ((pushed calls).map fun sensorData => sensorData.values f) (viewAfter estimate tip calls f) := by
  have values (k : Kind) : (frames calls f).map (·.1.values k) =
      (((pushed calls).map fun sensorData => sensorData.values f).filter isWhole).map (· k) := by
    rw [← map_frames, List.map_map]
    rfl
  refine ⟨?_, countP_corrupt calls f, ?_, ?_, ?_, ?_⟩
  · rw [List.length_map]
    exact countP_isPush calls
  · rw [← List.getLast?_map, ← values, List.getLast?_map]
    rfl
  · rw [← values, viewAfter, map_latest, List.map_map]
    rfl
  · rw [← values]
    simp only [viewAfter, FingerData.values]
  · rw [← values]
    simp only [viewAfter, FingerData.values]

end

/-- However the bytes of the sensor are cut into reads, with noise between the packets and part of one at the
end, and however the pushes of its samples fall among the other calls, the loop calls back once for each sample
and each finger shows what it last reported with each sample pushed: its newest values in order, none lost and
none twice. -/
theorem viewer_streams {τ : Type} (estimate : Estimator τ) (tip : τ) {seed : Fin numFingers → List Int}
    (whole : ∀ f, (seed f).length = 28) (staticFloor : Int) (connectedFingers : Fin numFingers → Bool)
    (start : SensorData) {parser : UsbPacketParser} (waits : framing.finds parser.buffer = [])
    {turns : List Turn} {arrivals : List FieldPacket} {last : List UInt8} (incomplete : framing.finds last = [])
    (came : parser.buffer ++ received turns = arriving arrivals last) {calls : List BufferCall}
    (pushes : pushed calls <+: (readSerialData connectedFingers parser ⟨start, []⟩ turns).2.calls) :
    let sent := samples connectedFingers start.isNew [] (arrivals.map (·.fields))
    (readSerialData connectedFingers parser ⟨start, []⟩ turns).2.calls.length = sent.length ∧
    ∃ s, run (SensorDataBuffer.call estimate) (.create tip seed staticFloor) calls = some s ∧
      ∀ f, Shows ((sent.take (pushed calls).length).map fun sent => reported start sent f) (s.view f) := by
  intro sent
  have called := readSerialData_samples connectedFingers start waits incomplete came
  obtain ⟨s, ran, recorded⟩ := (recorded_create estimate tip seed staticFloor).run whole calls
  refine ⟨by simpa using congrArg List.length called, s, ran, fun f => ?_⟩
  have values : (pushed calls).map (·.values) = (sent.take (pushed calls).length).map (reported start) := by
    rw [List.map_take, ← called, ← List.map_take, ← List.prefix_iff_eq_take.mp pushes]
  have finger : (pushed calls).map (fun sensorData => sensorData.values f) =
      (sent.take (pushed calls).length).map fun sent => reported start sent f := by
    simpa [Function.comp_def] using congrArg (List.map fun values => values f) values
  rw [recorded.view f, ← finger]
  exact shows_viewAfter calls f estimate tip

def dynamicFrame (value : UInt8) : Framed := ⟨[0x9A, 0, 0x58, 3, 0x20, 0, value], ⟨_, rfl⟩, rfl⟩

def dynamicSent (value : UInt8) (field : Field)
    (carries : (dynamicFrame value).payload = encodeFields [field]) : FieldPacket :=
  ⟨[0x0A], dynamicFrame value, [field], by decide, carries⟩

def cutInTwo : List Turn :=
  [.read [0x0A, 0x9A, 0, 0x58, 3, 0x20, 0, 5, 0x0A, 0x9A], .idle, .read [0, 0x58, 3, 0x20, 0, 7, 0x9A]]

theorem viewer_streams_cut : ∃ calls s,
    run (SensorDataBuffer.call fun _ _ _ _ _ => ()) (.create () (fun _ => List.replicate 28 0) 25) calls =
      some s ∧ (s.dynamicTactile 0).map ([·]) = [[5], [7]] := by
  obtain ⟨-, s, ran, shows⟩ := @viewer_streams _ (fun _ _ _ _ _ => ()) () (fun _ => List.replicate 28 0)
    (fun _ => rfl) 25 (fun f => f == 0) .init .init finds_nil cutInTwo
    [dynamicSent 5 ⟨0, 0, .dynamicTactile 5⟩ (by decide), dynamicSent 7 ⟨0, 0, .dynamicTactile 7⟩ (by decide)]
    [0x9A] (by decide +kernel) rfl
    ((readSerialData (fun f => f == 0) .init ⟨.init, []⟩ cutInTwo).2.calls.map (.push · 0) ++
      [.resetBaseline])
    (by simp [pushed, BufferCall.data, List.filterMap_map])
  exact ⟨_, s, ran, (shows 0).dynamicTactile.trans (by decide +kernel)⟩

end TactileSensors.Viewer
