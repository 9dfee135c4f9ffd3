import Mathlib.Data.List.Infix
import TactileSensors.Viewer.Buffer

/-!
# What the calls on the buffer say

The frames that were whole, the settings and the zero that were last asked for, and what was shown since the
range was set.
-/

namespace TactileSensors.Viewer
open Machine Scan Usb Quickstart

namespace BufferCall

def frame (f : Fin numFingers) : BufferCall → Option (FingerData × ℚ)
  | .push sensorData now =>
      if (sensorData.fingers.get f).staticTactile.length = 28 then some (sensorData.fingers.get f, now)
      else none
  | _ => none

def isPush : BufferCall → Bool
  | .push .. => true
  | _ => false

def isTimed : BufferCall → Bool
  | .push sensorData _ => (sensorData.fingers.get firstFinger).timestamp ≠ 0
  | _ => false

def isReset : BufferCall → Bool
  | .resetBaseline => true
  | _ => false

def shows : BufferCall → Bool
  | .staticSnapshot => true
  | _ => false

def setsRange : BufferCall → Bool
  | .resetBaseline | .setAdaptiveRange _ => true
  | _ => false

def asksRaw : BufferCall → Option Bool
  | .setRawMode raw => some raw
  | _ => none

def asksAdaptive : BufferCall → Option Bool
  | .setAdaptiveRange adaptive => some adaptive
  | _ => none

end BufferCall

section
variable (calls : List BufferCall) (f : Fin numFingers)

def frames : List (FingerData × ℚ) := calls.filterMap (·.frame f)

def lastStatic : Option (List Int) := (frames calls f).getLast?.map (·.1.staticTactile)

def rawMode : Bool := (calls.filterMap (·.asksRaw)).getLast?.getD false

def adaptiveMode : Bool := (calls.filterMap (·.asksAdaptive)).getLast?.getD true

def defaultRange : Int := if calls.any (·.isTimed) then 1200 else 3000

def zeroed : Option (List Int) :=
  calls.inits.reverse.findSome? fun before =>
    if before.getLast?.any (·.isReset) then lastStatic before f else none

def displayed (seed : Fin numFingers → List Int) (staticFloor : Int) : List Int :=
  match lastStatic calls f with
  | none => List.replicate 28 0
  | some raw =>
      if rawMode calls then raw
      else (List.range 28).map fun i =>
        let deflection := max 0 (raw.getD i 0 - ((zeroed calls f).getD (seed f)).getD i 0)
        if staticFloor ≤ deflection then deflection else 0

def sinceSet : List (List BufferCall) :=
  calls.inits.reverse.takeWhile fun before => !before.getLast?.any (·.setsRange)

def shownSince (seed : Fin numFingers → List Int) (staticFloor : Int) : List Int :=
  ((sinceSet calls).filter fun before => before.getLast?.any (·.shows)).flatMap
    fun before => displayed before f seed staticFloor

def range (seed : Fin numFingers → List Int) (staticFloor : Int) : Int :=
  if adaptiveMode calls then (shownSince calls f seed staticFloor).foldr max 300
  else ((calls.inits.reverse.find? fun before => before.getLast?.any (·.setsRange)).map
    defaultRange).getD 300

end

section
variable {calls : List BufferCall} {c : BufferCall} {f : Fin numFingers}

theorem length_of_frame {frame : FingerData × ℚ} (whole : c.frame f = some frame) :
    frame.1.staticTactile.length = 28 := by
  cases c with
  | push sensorData now =>
      obtain ⟨long, same⟩ := Option.ite_none_right_eq_some.mp whole
      cases same
      exact long
  | _ => cases whole

theorem length_of_lastStatic {raw : List Int} (static : lastStatic calls f = some raw) :
    raw.length = 28 := by
  obtain ⟨frame, last, rfl⟩ := Option.map_eq_some_iff.mp static
  obtain ⟨c, -, taken⟩ := List.mem_filterMap.mp (List.mem_of_getLast? last)
  exact length_of_frame taken

theorem length_of_zeroed {raw : List Int} (rest : zeroed calls f = some raw) : raw.length = 28 := by
  obtain ⟨before, -, found⟩ := List.exists_of_findSome?_eq_some rest
  obtain ⟨-, static⟩ := Option.ite_none_right_eq_some.mp found
  exact length_of_lastStatic static

theorem mapM_eq_some {α β : Type} {g : α → Option β} {h : α → β} {l : List α}
    (all : ∀ a ∈ l, g a = some (h a)) : l.mapM g = some (l.map h) := by
  induction l with
  | nil => rfl
  | cons a l ih =>
      rw [List.mapM_cons, all a List.mem_cons_self, ih fun b hb => all b (List.mem_cons_of_mem _ hb)]
      rfl

end

section
variable (calls : List BufferCall) (c : BufferCall) (f : Fin numFingers)
  (seed : Fin numFingers → List Int) (staticFloor : Int)

theorem reverse_inits_concat {α : Type} (l : List α) (a : α) :
    (l ++ [a]).inits.reverse = (l ++ [a]) :: l.inits.reverse := by
  rw [List.inits_append, List.reverse_append]
  rfl

theorem filterMap_concat {α β : Type} (g : α → Option β) (l : List α) (a : α) :
    (l ++ [a]).filterMap g = l.filterMap g ++ (g a).toList := by
  rw [List.filterMap_append]
  cases last : g a <;> simp [last]

theorem frames_concat : frames (calls ++ [c]) f = frames calls f ++ (c.frame f).toList :=
  filterMap_concat _ calls c

theorem lastStatic_concat : lastStatic (calls ++ [c]) f =
    ((c.frame f).map (·.1.staticTactile)).or (lastStatic calls f) := by
  rw [lastStatic, lastStatic, frames_concat]
  cases c.frame f with
  | none => simp
  | some frame => simp

theorem rawMode_concat : rawMode (calls ++ [c]) = c.asksRaw.getD (rawMode calls) := by
  rw [rawMode, rawMode, filterMap_concat]
  cases c.asksRaw <;> simp

theorem adaptiveMode_concat : adaptiveMode (calls ++ [c]) = c.asksAdaptive.getD (adaptiveMode calls) := by
  rw [adaptiveMode, adaptiveMode, filterMap_concat]
  cases c.asksAdaptive <;> simp

theorem defaultRange_concat : defaultRange (calls ++ [c]) =
    if c.isTimed then 1200 else defaultRange calls := by
  rw [defaultRange, defaultRange, List.any_append, List.any_cons, List.any_nil, Bool.or_false]
  cases c.isTimed <;> cases calls.any (·.isTimed) <;> rfl

theorem zeroed_concat : zeroed (calls ++ [c]) f =
    if c.isReset then (lastStatic (calls ++ [c]) f).or (zeroed calls f) else zeroed calls f := by
  rw [zeroed, reverse_inits_concat, List.findSome?_cons, List.getLast?_concat, Option.any_some]
  cases c.isReset with
  | false => rfl
  | true =>
      simp only [if_true]
      cases lastStatic (calls ++ [c]) f <;> rfl

theorem sinceSet_concat : sinceSet (calls ++ [c]) =
    if c.setsRange then [] else (calls ++ [c]) :: sinceSet calls := by
  rw [sinceSet, reverse_inits_concat, List.takeWhile_cons, List.getLast?_concat, Option.any_some]
  cases c.setsRange <;> rfl

theorem shownSince_concat : shownSince (calls ++ [c]) f seed staticFloor =
    if c.setsRange then []
    else (if c.shows then displayed (calls ++ [c]) f seed staticFloor else []) ++
      shownSince calls f seed staticFloor := by
  rw [shownSince, sinceSet_concat]
  cases c.setsRange with
  | true => rfl
  | false =>
      rw [if_neg Bool.false_ne_true, if_neg Bool.false_ne_true, List.filter_cons, List.getLast?_concat,
        Option.any_some]
      cases c.shows <;> rfl

theorem range_concat_sets (sets : c.setsRange = true) : range (calls ++ [c]) f seed staticFloor =
    if adaptiveMode (calls ++ [c]) then 300 else defaultRange (calls ++ [c]) := by
  rw [range, shownSince_concat, if_pos sets, reverse_inits_concat, List.find?_cons_of_pos (by simp [sets])]
  rfl

theorem range_concat (keeps : c.setsRange = false) : range (calls ++ [c]) f seed staticFloor =
    if c.shows ∧ adaptiveMode calls then
      (displayed (calls ++ [c]) f seed staticFloor).foldr max (range calls f seed staticFloor)
    else range calls f seed staticFloor := by
  have mode : adaptiveMode (calls ++ [c]) = adaptiveMode calls := by
    rw [adaptiveMode_concat]
    cases c <;> first | rfl | cases keeps
  rw [range, range, mode]
  cases adaptiveMode calls with
  | false =>
      rw [reverse_inits_concat, List.find?_cons_of_neg (by simp [keeps])]
      simp
  | true =>
      rw [shownSince_concat, keeps]
      simp only [if_true, Bool.false_eq_true, if_false, List.foldr_append, and_true]
      cases c.shows <;> rfl

theorem range_concat_of_quiet (keeps : c.setsRange = false) (quiet : c.shows = false) :
    range (calls ++ [c]) f seed staticFloor = range calls f seed staticFloor := by
  rw [range_concat calls c f seed staticFloor keeps, quiet, if_neg (by simp)]

theorem displayed_concat_snapshot :
    displayed (calls ++ [.staticSnapshot]) f seed staticFloor = displayed calls f seed staticFloor := by
  simp [displayed, lastStatic_concat, rawMode_concat, zeroed_concat, BufferCall.frame,
    BufferCall.asksRaw, BufferCall.isReset]

theorem le_foldr_max (values : List Int) (start : Int) :
    start ≤ values.foldr max start ∧ ∀ v ∈ values, v ≤ values.foldr max start := by
  induction values with
  | nil => exact ⟨Int.le_refl _, by simp⟩
  | cons first values ih =>
      rw [List.foldr_cons]
      refine ⟨Int.le_trans ih.1 (Int.le_max_right _ _), fun v hv => ?_⟩
      rcases List.mem_cons.mp hv with rfl | later
      · exact Int.le_max_left _ _
      · exact Int.le_trans (ih.2 v later) (Int.le_max_right _ _)

theorem foldr_max_le {values : List Int} {start bound : Int} (first : start ≤ bound)
    (rest : ∀ v ∈ values, v ≤ bound) : values.foldr max start ≤ bound :=
  List.foldrRecOn (motive := (· ≤ bound)) _ _ first fun _ le v hv => Int.max_le.mpr ⟨rest v hv, le⟩

theorem foldr_max_eq {values : List Int} (some_ : values ≠ []) (start : Int) :
    values.foldr max start = if start < values.max?.getD 0 then values.max?.getD 0 else start := by
  obtain ⟨most, hmost⟩ := Option.ne_none_iff_exists'.mp (mt List.max?_eq_none_iff.mp some_)
  obtain ⟨hmem, above⟩ := List.max?_eq_some_iff.mp hmost
  have low := le_foldr_max values start
  rw [hmost, Option.getD_some]
  split
  · rename_i less
    exact Int.le_antisymm (foldr_max_le (Int.le_of_lt less) above) (low.2 most hmem)
  · rename_i least
    exact Int.le_antisymm
      (foldr_max_le (Int.le_refl _) fun v hv => Int.le_trans (above v hv) (Int.not_lt.mp least)) low.1

theorem foldr_max_of_le {values : List Int} {start : Int} (below : ∀ v ∈ values, v ≤ start) :
    values.foldr max start = start :=
  Int.le_antisymm (foldr_max_le (Int.le_refl _) below) (le_foldr_max _ _).1

theorem length_displayed : (displayed calls f seed staticFloor).length = 28 := by
  unfold displayed
  split
  · rfl
  · rename_i raw static
    split
    · exact length_of_lastStatic static
    · simp

theorem le_range (adaptive : adaptiveMode calls = true) : 300 ≤ range calls f seed staticFloor := by
  rw [range, if_pos adaptive]
  exact (le_foldr_max _ _).1

end

end TactileSensors.Viewer
