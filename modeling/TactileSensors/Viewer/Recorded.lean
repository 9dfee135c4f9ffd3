import TactileSensors.Viewer.History

/-!
# The buffer as a record of its calls

All that the buffer holds, and all that it shows, is a function of the calls so far.
-/

namespace TactileSensors.Viewer
open Machine Scan Usb Quickstart

/-! ## The buffer the calls leave -/

structure FingerView (τ : Type) where
  staticTactile : Option (List Int)
  dynamicTactile : List Int
  accelerometer : List (List Int)
  gyroscope : List (List Int)
  pushTotal : ℕ
  pushCorrupt : ℕ
  tip : τ

@[ext] structure Settings where
  baseline : Fin numFingers → List Int
  useBaseline : Bool
  adaptiveRange : Bool
  maxRange : Fin numFingers → Int
  staticFloor : Int

namespace SensorDataBuffer
variable {τ : Type} (s : SensorDataBuffer τ)

def view (f : Fin numFingers) : FingerView τ :=
  ⟨s.staticTactile f, s.dynamicTactile f, s.accelerometer f, s.gyroscope f, s.pushTotal f, s.pushCorrupt f,
    s.tip f⟩

def settings : Settings := ⟨s.baseline, s.useBaseline, s.adaptiveRange, s.maxRange, s.staticFloor⟩

end SensorDataBuffer

section
variable {τ : Type} (estimate : Estimator τ) (tip : τ) (seed : Fin numFingers → List Int)
  (staticFloor : Int) (calls : List BufferCall)

def viewAfter (f : Fin numFingers) : FingerView τ where
  staticTactile := lastStatic calls f
  dynamicTactile := latest dynamicLength ((frames calls f).map (·.1.dynamicTactile))
  accelerometer := latest imuLength ((frames calls f).map (·.1.accelerometer))
  gyroscope := latest imuLength ((frames calls f).map (·.1.gyroscope))
  pushTotal := calls.countP (·.isPush)
  pushCorrupt := calls.countP fun c => c.isPush && (c.frame f).isNone
  tip := (frames calls f).foldl
    (fun tip frame => estimate f tip frame.1.accelerometer frame.1.gyroscope frame.2) tip

def settingsAfter : Settings where
  baseline f := (zeroed calls f).getD (seed f)
  useBaseline := !rawMode calls
  adaptiveRange := adaptiveMode calls
  maxRange f := range calls f seed staticFloor
  staticFloor := staticFloor

end

structure Recorded {τ : Type} (estimate : Estimator τ) (tip : τ) (seed : Fin numFingers → List Int)
    (staticFloor : Int) (calls : List BufferCall) (s : SensorDataBuffer τ) : Prop where
  view : ∀ f, s.view f = viewAfter estimate tip calls f
  settings : s.settings = settingsAfter seed staticFloor calls
  defaultRange : s.defaultRange = defaultRange calls

/-! ## A push, finger by finger -/

namespace FingerView
variable {τ : Type} (v : FingerView τ)

def take (estimate : τ → List Int → List Int → ℚ → τ) (finger : FingerData) (now : ℚ) : FingerView τ where
  staticTactile := some finger.staticTactile
  dynamicTactile := appendBounded dynamicLength v.dynamicTactile finger.dynamicTactile
  accelerometer := appendBounded imuLength v.accelerometer finger.accelerometer
  gyroscope := appendBounded imuLength v.gyroscope finger.gyroscope
  pushTotal := v.pushTotal + 1
  pushCorrupt := v.pushCorrupt
  tip := estimate v.tip finger.accelerometer finger.gyroscope now

def refuse : FingerView τ :=
  { v with pushTotal := v.pushTotal + 1, pushCorrupt := v.pushCorrupt + 1 }

end FingerView

namespace SensorDataBuffer
variable {τ : Type} (estimate : Estimator τ) (sensorData : SensorData) (now : ℚ) (s : SensorDataBuffer τ)
  {f g : Fin numFingers}

theorem view_pushFinger_ne (other : g ≠ f) : (pushFinger estimate sensorData now s g).view f = s.view f := by
  have apart : f ≠ g := other.symm
  simp only [pushFinger]
  split <;> simp [view, apart]

theorem settings_pushFinger : (pushFinger estimate sensorData now s f).settings = s.settings ∧
    (pushFinger estimate sensorData now s f).defaultRange = s.defaultRange := by
  simp only [pushFinger]
  split <;> exact ⟨rfl, rfl⟩

theorem view_pushFinger : (pushFinger estimate sensorData now s f).view f =
    if (sensorData.fingers.get f).staticTactile.length = 28 then
      (s.view f).take (estimate f) (sensorData.fingers.get f) now
    else (s.view f).refuse := by
  simp only [pushFinger]
  split
  · simp [view, FingerView.refuse]
  · rename_i whole
    rw [if_pos (not_not.mp whole)]
    simp [view, FingerView.take]

theorem finger_eq (f : Fin numFingers) : f = 0 ∨ f = 1 := by
  revert f
  decide

theorem finRange_fingers : List.finRange numFingers = [0, 1] := rfl

theorem view_push : (s.push estimate sensorData now).view f =
    if (sensorData.fingers.get f).staticTactile.length = 28 then
      (s.view f).take (estimate f) (sensorData.fingers.get f) now
    else (s.view f).refuse := by
  have ranged (t : SensorDataBuffer τ) (same : t.view f = s.view f) :
      ((List.finRange numFingers).foldl (pushFinger estimate sensorData now) t).view f =
        if (sensorData.fingers.get f).staticTactile.length = 28 then
          (s.view f).take (estimate f) (sensorData.fingers.get f) now
        else (s.view f).refuse := by
    rw [finRange_fingers, List.foldl_cons, List.foldl_cons, List.foldl_nil]
    obtain rfl | rfl := finger_eq f
    · rw [view_pushFinger_ne _ _ _ _ (by decide), view_pushFinger, same]
    · rw [view_pushFinger, view_pushFinger_ne _ _ _ _ (by decide), same]
  unfold push
  dsimp only
  split <;> exact ranged _ rfl

theorem settings_push : (s.push estimate sensorData now).settings = s.settings := by
  have kept (t : SensorDataBuffer τ) :
      ((List.finRange numFingers).foldl (pushFinger estimate sensorData now) t).settings = t.settings :=
    List.foldlRecOn (motive := fun u : SensorDataBuffer τ => u.settings = t.settings) _ _ rfl
      fun u same f _ => (settings_pushFinger estimate sensorData now u).1.trans same
  unfold push
  dsimp only
  split <;> exact kept _

theorem defaultRange_push : (s.push estimate sensorData now).defaultRange =
    if (sensorData.fingers.get firstFinger).timestamp ≠ 0 then 1200 else s.defaultRange := by
  have kept (t : SensorDataBuffer τ) :
      ((List.finRange numFingers).foldl (pushFinger estimate sensorData now) t).defaultRange =
        t.defaultRange :=
    List.foldlRecOn (motive := fun u : SensorDataBuffer τ => u.defaultRange = t.defaultRange) _ _ rfl
      fun u same f _ => (settings_pushFinger estimate sensorData now u).2.trans same
  unfold push
  dsimp only
  split
  · rename_i turns
    rw [kept, if_pos turns.1]
  · rename_i stays
    rw [kept]
    split
    · rename_i timed
      exact not_not.mp fun other => stays ⟨timed, other⟩
    · rfl

end SensorDataBuffer

/-! ## Each call -/

section
variable {τ : Type} {estimate : Estimator τ} {tip : τ} {seed : Fin numFingers → List Int}
  {staticFloor : Int} {calls : List BufferCall} {c : BufferCall} {s : SensorDataBuffer τ}
  {f : Fin numFingers}

theorem frame_of_not_push (other : c.isPush = false) : c.frame f = none := by
  cases c <;> first | rfl | cases other

theorem viewAfter_push (sensorData : SensorData) (now : ℚ) :
    viewAfter estimate tip (calls ++ [.push sensorData now]) f =
      if (sensorData.fingers.get f).staticTactile.length = 28 then
        (viewAfter estimate tip calls f).take (estimate f) (sensorData.fingers.get f) now
      else (viewAfter estimate tip calls f).refuse := by
  by_cases whole : (sensorData.fingers.get f).staticTactile.length = 28
  · have frame : (BufferCall.push sensorData now).frame f = some (sensorData.fingers.get f, now) :=
      if_pos whole
    simp [viewAfter, FingerView.take, lastStatic_concat, frames_concat, frame, whole, BufferCall.isPush,
      appendBounded_latest]
  · have frame : (BufferCall.push sensorData now).frame f = none := if_neg whole
    simp [viewAfter, FingerView.refuse, lastStatic_concat, frames_concat, frame, whole, BufferCall.isPush]

theorem viewAfter_other (other : c.isPush = false) :
    viewAfter estimate tip (calls ++ [c]) f = viewAfter estimate tip calls f := by
  simp [viewAfter, lastStatic_concat, frames_concat, frame_of_not_push other, other]

namespace Recorded

section
variable (recorded : Recorded estimate tip seed staticFloor calls s)
include recorded

theorem staticTactile (f : Fin numFingers) : s.staticTactile f = lastStatic calls f :=
  congrArg FingerView.staticTactile (recorded.view f)

theorem baseline (f : Fin numFingers) : s.baseline f = (zeroed calls f).getD (seed f) :=
  congrFun (congrArg Settings.baseline recorded.settings) f

theorem useBaseline : s.useBaseline = !rawMode calls := congrArg Settings.useBaseline recorded.settings

theorem adaptiveRange : s.adaptiveRange = adaptiveMode calls :=
  congrArg Settings.adaptiveRange recorded.settings

theorem maxRange (f : Fin numFingers) : s.maxRange f = range calls f seed staticFloor :=
  congrFun (congrArg Settings.maxRange recorded.settings) f

theorem floor_eq : s.staticFloor = staticFloor := congrArg Settings.staticFloor recorded.settings

theorem push (sensorData : SensorData) (now : ℚ) :
    Recorded estimate tip seed staticFloor (calls ++ [.push sensorData now])
      (s.push estimate sensorData now) where
  view f := by rw [SensorDataBuffer.view_push, viewAfter_push, recorded.view]
  settings := by
    rw [SensorDataBuffer.settings_push, recorded.settings]
    ext f
    · simp [settingsAfter, zeroed_concat, BufferCall.isReset]
    · simp [settingsAfter, rawMode_concat, BufferCall.asksRaw]
    · simp [settingsAfter, adaptiveMode_concat, BufferCall.asksAdaptive]
    · exact (range_concat_of_quiet calls _ f seed staticFloor rfl rfl).symm
    · rfl
  defaultRange := by
    rw [SensorDataBuffer.defaultRange_push, defaultRange_concat, recorded.defaultRange]
    simp [BufferCall.isTimed]

theorem resetBaseline :
    Recorded estimate tip seed staticFloor (calls ++ [.resetBaseline]) s.resetBaseline where
  view f := by
    rw [viewAfter_other rfl]
    exact recorded.view f
  settings := by
    ext f
    · simp only [settingsAfter, zeroed_concat, BufferCall.isReset, if_true, lastStatic_concat,
        BufferCall.frame, Option.map_none, Option.none_or, SensorDataBuffer.settings,
        SensorDataBuffer.resetBaseline, recorded.staticTactile, recorded.baseline]
      cases static : lastStatic calls f with
      | none => rfl
      | some raw =>
          have whole := length_of_lastStatic static
          have some_ : raw ≠ [] := by rintro rfl; cases whole
          simp [some_]
    · simp [settingsAfter, rawMode_concat, BufferCall.asksRaw, SensorDataBuffer.settings,
        SensorDataBuffer.resetBaseline, recorded.useBaseline]
    · simp [settingsAfter, adaptiveMode_concat, BufferCall.asksAdaptive, SensorDataBuffer.settings,
        SensorDataBuffer.resetBaseline, recorded.adaptiveRange]
    · refine Eq.trans ?_ (range_concat_sets calls _ f seed staticFloor rfl).symm
      rw [adaptiveMode_concat, defaultRange_concat]
      simp [SensorDataBuffer.settings, SensorDataBuffer.resetBaseline, recorded.adaptiveRange,
        recorded.defaultRange, BufferCall.asksAdaptive, BufferCall.isTimed]
    · exact recorded.floor_eq
  defaultRange := by
    rw [defaultRange_concat]
    exact recorded.defaultRange

theorem setRawMode (raw : Bool) :
    Recorded estimate tip seed staticFloor (calls ++ [.setRawMode raw]) (s.setRawMode raw) where
  view f := by
    rw [viewAfter_other rfl]
    exact recorded.view f
  settings := by
    ext f
    · simp [settingsAfter, zeroed_concat, BufferCall.isReset, SensorDataBuffer.settings,
        SensorDataBuffer.setRawMode, recorded.baseline]
    · simp [settingsAfter, rawMode_concat, BufferCall.asksRaw, SensorDataBuffer.settings,
        SensorDataBuffer.setRawMode]
    · simp [settingsAfter, adaptiveMode_concat, BufferCall.asksAdaptive, SensorDataBuffer.settings,
        SensorDataBuffer.setRawMode, recorded.adaptiveRange]
    · exact (recorded.maxRange f).trans (range_concat_of_quiet calls _ f seed staticFloor rfl rfl).symm
    · exact recorded.floor_eq
  defaultRange := by
    rw [defaultRange_concat]
    exact recorded.defaultRange

theorem setAdaptiveRange (adaptive : Bool) :
    Recorded estimate tip seed staticFloor (calls ++ [.setAdaptiveRange adaptive])
      (s.setAdaptiveRange adaptive) where
  view f := by
    rw [viewAfter_other rfl]
    exact recorded.view f
  settings := by
    ext f
    · simp [settingsAfter, zeroed_concat, BufferCall.isReset, SensorDataBuffer.settings,
        SensorDataBuffer.setAdaptiveRange, recorded.baseline]
    · simp [settingsAfter, rawMode_concat, BufferCall.asksRaw, SensorDataBuffer.settings,
        SensorDataBuffer.setAdaptiveRange, recorded.useBaseline]
    · simp [settingsAfter, adaptiveMode_concat, BufferCall.asksAdaptive, SensorDataBuffer.settings,
        SensorDataBuffer.setAdaptiveRange]
    · refine Eq.trans ?_ (range_concat_sets calls _ f seed staticFloor rfl).symm
      rw [adaptiveMode_concat, defaultRange_concat]
      simp [SensorDataBuffer.settings, SensorDataBuffer.setAdaptiveRange, recorded.defaultRange,
        BufferCall.asksAdaptive, BufferCall.isTimed]
    · exact recorded.floor_eq
  defaultRange := by
    rw [defaultRange_concat]
    exact recorded.defaultRange

/-! ## A snapshot -/

theorem deflection_eq {raw : List Int} (long : raw.length = 28) (whole : (seed f).length = 28) {i : ℕ}
    (hi : i < 28) : s.deflection f raw i =
      some (let deflection := max 0 (raw.getD i 0 - ((zeroed calls f).getD (seed f)).getD i 0)
        if staticFloor ≤ deflection then deflection else 0) := by
  have rest : ((zeroed calls f).getD (seed f)).length = 28 := by
    cases zero : zeroed calls f with
    | none => exact whole
    | some raw => exact length_of_zeroed zero
  have value : raw[i]? = some (raw.getD i 0) := by
    rw [List.getD_eq_getElem _ _ (long ▸ hi), List.getElem?_eq_getElem (long ▸ hi)]
  have zero : ((zeroed calls f).getD (seed f))[i]? = some (((zeroed calls f).getD (seed f)).getD i 0) := by
    rw [List.getD_eq_getElem _ _ (rest ▸ hi), List.getElem?_eq_getElem (rest ▸ hi)]
  rw [SensorDataBuffer.deflection, recorded.baseline, value, zero, recorded.floor_eq]
  rfl

theorem shownValues_eq (whole : (seed f).length = 28) {raw : List Int}
    (static : lastStatic calls f = some raw) :
    s.shownValues f raw = some (displayed calls f seed staticFloor) := by
  rw [SensorDataBuffer.shownValues, recorded.useBaseline, displayed, static]
  cases mode : rawMode calls with
  | true => rfl
  | false =>
      exact mapM_eq_some fun i hi =>
        recorded.deflection_eq (length_of_lastStatic static) whole (List.mem_range.mp hi)

theorem showFinger (whole : ∀ f, (seed f).length = 28) (f : Fin numFingers) :
    s.showFinger f = some (displayed calls f seed staticFloor,
      range (calls ++ [.staticSnapshot]) f seed staticFloor) := by
  have quiet : range (calls ++ [.staticSnapshot]) f seed staticFloor =
      if adaptiveMode calls then
        (displayed calls f seed staticFloor).foldr max (range calls f seed staticFloor)
      else range calls f seed staticFloor := by
    rw [range_concat calls _ f seed staticFloor rfl, displayed_concat_snapshot]
    simp [BufferCall.shows]
  rw [SensorDataBuffer.showFinger, recorded.staticTactile, quiet]
  cases static : lastStatic calls f with
  | none =>
      have zeros : displayed calls f seed staticFloor = List.replicate 28 0 := by rw [displayed, static]
      simp only [zeros, recorded.maxRange]
      split
      · rename_i adaptive
        have positive := le_range calls f seed staticFloor adaptive
        rw [foldr_max_of_le fun v hv => by rw [List.eq_of_mem_replicate hv]; omega]
      · rfl
  | some raw =>
      have long := length_of_lastStatic static
      have some_ : displayed calls f seed staticFloor ≠ [] := by
        rintro none_
        have size := length_displayed calls f seed staticFloor
        rw [none_] at size
        cases size
      simp only [recorded.shownValues_eq (whole f) static, recorded.adaptiveRange, recorded.maxRange]
      rw [if_neg (not_not.mpr long), foldr_max_eq some_]
      cases adaptiveMode calls <;> rfl

theorem staticSnapshot (whole : ∀ f, (seed f).length = 28) :
    ∃ shown s', s.staticSnapshot = some (shown, s') ∧
      Recorded estimate tip seed staticFloor (calls ++ [.staticSnapshot]) s' ∧
      ∀ f, shown.values f = displayed calls f seed staticFloor ∧
        shown.maxRange f = range (calls ++ [.staticSnapshot]) f seed staticFloor := by
  have fingers : (List.finRange numFingers).mapM s.showFinger = some ((List.finRange numFingers).map
      fun f => (displayed calls f seed staticFloor,
        range (calls ++ [.staticSnapshot]) f seed staticFloor)) :=
    mapM_eq_some fun f _ => recorded.showFinger whole f
  have each (f : Fin numFingers) : ((List.finRange numFingers).map fun f =>
      (displayed calls f seed staticFloor,
        range (calls ++ [.staticSnapshot]) f seed staticFloor)).getD f ([], 0) =
      (displayed calls f seed staticFloor, range (calls ++ [.staticSnapshot]) f seed staticFloor) := by
    obtain rfl | rfl := SensorDataBuffer.finger_eq f <;> rfl
  refine ⟨_, _, by rw [SensorDataBuffer.staticSnapshot, fingers]; rfl, ⟨fun f => ?_, ?_, ?_⟩, fun f =>
    ⟨congrArg Prod.fst (each f), congrArg Prod.snd (each f)⟩⟩
  · rw [viewAfter_other rfl]
    exact recorded.view f
  · ext f
    · simp [settingsAfter, zeroed_concat, BufferCall.isReset, SensorDataBuffer.settings, recorded.baseline]
    · simp [settingsAfter, rawMode_concat, BufferCall.asksRaw, SensorDataBuffer.settings,
        recorded.useBaseline]
    · simp [settingsAfter, adaptiveMode_concat, BufferCall.asksAdaptive, SensorDataBuffer.settings,
        recorded.adaptiveRange]
    · exact congrArg Prod.snd (each f)
    · exact recorded.floor_eq
  · rw [defaultRange_concat]
    exact recorded.defaultRange

/-! ## Runs -/

theorem call (whole : ∀ f, (seed f).length = 28) (c : BufferCall) :
    ∃ s', s.call estimate c = some s' ∧ Recorded estimate tip seed staticFloor (calls ++ [c]) s' := by
  cases c with
  | push sensorData now => exact ⟨_, SensorDataBuffer.call_push _ _ sensorData now, recorded.push sensorData now⟩
  | staticSnapshot =>
      obtain ⟨shown, s', done, recorded', -⟩ := recorded.staticSnapshot whole
      exact ⟨s', by rw [SensorDataBuffer.call, done]; rfl, recorded'⟩
  | resetBaseline => exact ⟨_, rfl, recorded.resetBaseline⟩
  | setRawMode raw => exact ⟨_, rfl, recorded.setRawMode raw⟩
  | setAdaptiveRange adaptive => exact ⟨_, rfl, recorded.setAdaptiveRange adaptive⟩

end
end Recorded

theorem recorded_create (estimate : Estimator τ) (tip : τ) (seed : Fin numFingers → List Int)
    (staticFloor : Int) :
    Recorded estimate tip seed staticFloor [] (.create tip seed staticFloor) where
  view f := by simp [viewAfter, SensorDataBuffer.view, SensorDataBuffer.create, lastStatic, frames]
  settings := rfl
  defaultRange := rfl

theorem Recorded.run (whole : ∀ f, (seed f).length = 28)
    (recorded : Recorded estimate tip seed staticFloor calls s) (more : List BufferCall) :
    ∃ s', Machine.run (SensorDataBuffer.call estimate) s more = some s' ∧
      Recorded estimate tip seed staticFloor (calls ++ more) s' := by
  induction more generalizing calls s with
  | nil => exact ⟨s, rfl, by rwa [List.append_nil]⟩
  | cons c more ih =>
      obtain ⟨mid, first, recorded'⟩ := recorded.call whole c
      obtain ⟨s', rest, after⟩ := ih recorded'
      exact ⟨s', run_cons_eq_some.mpr ⟨mid, first, rest⟩, by simpa using after⟩

end

/-- However the reader, the loops and the clients take turns, no call raises, and the buffer is what the calls
say: the newest samples of the whole frames, and the settings and the zero last asked for. What a snapshot
shows are the deflections from that zero above the noise, none above the range it is drawn on. -/
theorem buffer_recorded {τ : Type} (estimate : Estimator τ) (tip : τ) {seed : Fin numFingers → List Int}
    (whole : ∀ f, (seed f).length = 28) (staticFloor : Int) (calls : List BufferCall) :
    ∃ s, run (SensorDataBuffer.call estimate) (.create tip seed staticFloor) calls = some s ∧
      Recorded estimate tip seed staticFloor calls s ∧
      ∃ shown s', s.staticSnapshot = some (shown, s') ∧ ∀ f, (shown.values f).length = 28 ∧
        shown.values f = displayed calls f seed staticFloor ∧
        shown.maxRange f = range (calls ++ [.staticSnapshot]) f seed staticFloor ∧
        (adaptiveMode calls → ∀ v ∈ shown.values f, v ≤ shown.maxRange f) := by
  obtain ⟨s, ran, recorded⟩ := (recorded_create estimate tip seed staticFloor).run whole calls
  rw [List.nil_append] at recorded
  obtain ⟨shown, s', done, -, each⟩ := recorded.staticSnapshot whole
  refine ⟨s, ran, recorded, shown, s', done, fun f => ?_⟩
  obtain ⟨values, maxRange⟩ := each f
  refine ⟨by rw [values, length_displayed], values, maxRange, fun adaptive v hv => ?_⟩
  rw [maxRange, range_concat calls _ f seed staticFloor rfl, if_pos ⟨rfl, adaptive⟩,
    displayed_concat_snapshot, ← values]
  exact (le_foldr_max _ _).2 v hv

def pressed : SensorData where
  fingers := SensorData.init.fingers.set 0
    { FingerData.init with staticTactile := 400 :: 20 :: List.replicate 26 0 }
  measured := by decide
  inertial := by decide

theorem buffer_recorded_pressed : ∃ s shown s',
    run (SensorDataBuffer.call fun _ _ _ _ _ => ()) (.create () (fun _ => List.replicate 28 0) 25)
      [.push .init 0, .resetBaseline, .push pressed 1] = some s ∧
    s.staticSnapshot = some (shown, s') ∧ shown.values 0 = 400 :: List.replicate 27 0 ∧
    shown.maxRange 0 = 400 := by
  obtain ⟨s, ran, -, shown, s', done, each⟩ := @buffer_recorded _ (fun _ _ _ _ _ => ()) ()
    (fun _ => List.replicate 28 0) (fun _ => rfl) 25 [.push .init 0, .resetBaseline, .push pressed 1]
  obtain ⟨-, values, maxRange, -⟩ := each 0
  exact ⟨s, shown, s', ran, done, values.trans (by decide), maxRange.trans (by decide +kernel)⟩

end TactileSensors.Viewer
