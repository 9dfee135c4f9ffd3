import TactileSensors.Usb.Fields
import TactileSensors.Usb.Packet
import Mathlib.Data.List.GetD
import Mathlib.Tactic.SplitIfs

/-!
# The field parser of the quickstart

Python slices what follows a tag and takes as many bytes of it as the field wants or there are, an
odd one included. A static tactile field keeps what it got, an inertial one with less than three
axes is zeroed, a single number that is not there is left as it was.
-/

namespace TactileSensors.Usb.Quickstart
open Bytes

structure FingerData where
  newDataAvailable : Bool
  staticTactile : List Int
  dynamicTactile : Int
  accelerometer : List Int
  gyroscope : List Int
  magnetometer : List Int
  temperature : Int
  timestamp : Int
deriving DecidableEq, Repr

def FingerData.init : FingerData :=
  ⟨false, List.replicate staticTactileSize 0, 0, [0, 0, 0], [0, 0, 0], [0, 0, 0], 0, 0⟩

abbrev Fingers := Vector FingerData numFingers

def Fingers.init : Fingers := Vector.replicate numFingers FingerData.init

/-- `range(0, stop, step)`. -/
def strides (stop step : Nat) : List Nat :=
  (List.range ((stop + (step - 1)) / step)).map (step * ·)

def byteAt (data : List UInt8) (i : Nat) : Nat := (data.getD i 0).toNat

/-- `_extract_uint16_array` and `_extract_int16_array`, which differ in the sign only. -/
def extractArray16 (convert : Nat → Int) (data : List UInt8) (count : Nat) : List Int × Nat :=
  let bytesNeeded := count * 2
  let bytesAvailable := min data.length bytesNeeded
  let values := (strides bytesAvailable 2).filterMap fun i =>
    if i + 1 < data.length then some (convert (byteAt data i <<< 8 ||| byteAt data (i + 1))) else none
  (values, bytesAvailable)

def extractUint16Array : List UInt8 → Nat → List Int × Nat :=
  extractArray16 fun value => value

def extractInt16Array : List UInt8 → Nat → List Int × Nat :=
  extractArray16 fun value => if 32768 ≤ value then value - 65536 else value

def extractUint64Array (data : List UInt8) (count : Nat) : List Int × Nat :=
  let bytesNeeded := count * 8
  let bytesAvailable := min (data.length / 8 * 8) bytesNeeded
  let values := (strides bytesAvailable 8).map fun i =>
    ((byteAt data i <<< 56 ||| byteAt data (i + 1) <<< 48 ||| byteAt data (i + 2) <<< 40 |||
      byteAt data (i + 3) <<< 32 ||| byteAt data (i + 4) <<< 24 ||| byteAt data (i + 5) <<< 16 |||
      byteAt data (i + 6) <<< 8 ||| byteAt data (i + 7) : Nat) : Int)
  (values, bytesAvailable)

def imuValues (values : List Int) : List Int :=
  if values.length = imuSize then values else [0, 0, 0]

/-- The branches on `sensor_type`, with the number of bytes consumed behind the tag. -/
def parseField (finger : FingerData) (sensorType : UInt8) (data : List UInt8) : FingerData × Nat :=
  let finger := { finger with newDataAvailable := true }
  if sensorType = sensorTypeStaticTactile then
    let (values, bytesConsumed) := extractUint16Array data staticTactileSize
    ({ finger with staticTactile := values }, bytesConsumed)
  else if sensorType = sensorTypeDynamicTactile then
    let (values, bytesConsumed) := extractInt16Array data dynamicTactileSize
    ({ finger with dynamicTactile := values.headD finger.dynamicTactile }, bytesConsumed)
  else if sensorType = sensorTypeAccelerometer then
    let (values, bytesConsumed) := extractInt16Array data imuSize
    ({ finger with accelerometer := imuValues values }, bytesConsumed)
  else if sensorType = sensorTypeGyroscope then
    let (values, bytesConsumed) := extractInt16Array data imuSize
    ({ finger with gyroscope := imuValues values }, bytesConsumed)
  else if sensorType = sensorTypeMagnetometer then
    let (values, bytesConsumed) := extractInt16Array data imuSize
    ({ finger with magnetometer := imuValues values }, bytesConsumed)
  else if sensorType = sensorTypeTemperature then
    let (values, bytesConsumed) := extractInt16Array data 1
    ({ finger with temperature := values.headD finger.temperature }, bytesConsumed)
  else if sensorType = sensorTypeTimestamp then
    let (values, bytesConsumed) := extractUint64Array data 1
    ({ finger with timestamp := values.headD finger.timestamp }, bytesConsumed)
  else (finger, 0)

def parseTag (fingers : Fingers) (sensorByte : UInt8) (data : List UInt8) : Fingers × Nat :=
  if h : fingerIdOf sensorByte < numFingers then
    let (finger, bytesConsumed) := parseField fingers[fingerIdOf sensorByte] (sensorTypeOf sensorByte) data
    (fingers.set (fingerIdOf sensorByte) finger, bytesConsumed)
  else (fingers, 0)

def parseFrom (data : List UInt8) (fingers : Fingers) (idx : Nat) : Fingers :=
  if h : idx < data.length then
    let next := parseTag fingers data[idx] (data.drop (idx + 1))
    parseFrom data next.1 (idx + 1 + next.2)
  else fingers
termination_by data.length - idx

def newData (fingers : Fingers) : List Bool := fingers.toList.map (·.newDataAvailable)

def parseSensorPacket (fingers : Fingers) (packet : List UInt8) : Fingers × List Bool :=
  if packet.length < usbPacketHeaderSize then (fingers, List.replicate numFingers false)
  else
    let fingers := parseFrom (packet.drop usbPacketHeaderSize) fingers 0
    (fingers, newData fingers)

/-! ## The arrays -/

theorem filterMap_range {α : Type*} {k m : Nat} {p : Nat → Prop} [DecidablePred p] (hk : k ≤ m)
    (h : ∀ i < m, p i ↔ i < k) (f : Nat → α) :
    (List.range m).filterMap (fun i => if p i then some (f i) else none) = (List.range k).map f := by
  obtain ⟨more, rfl⟩ := Nat.exists_eq_add_of_le hk
  have low : (List.range k).filterMap (fun i => if p i then some (f i) else none) =
      (List.range k).map f := by
    rw [← List.filterMap_eq_map']
    refine List.filterMap_congr fun i hi => if_pos ?_
    exact (h i (by have := List.mem_range.mp hi; omega)).mpr (List.mem_range.mp hi)
  have high : ((List.range more).map (k + ·)).filterMap
      (fun i => if p i then some (f i) else none) = [] := by
    refine List.filterMap_eq_nil_iff.mpr fun i hi => ?_
    obtain ⟨j, hj, rfl⟩ := List.mem_map.mp hi
    have inside : k + j < k + more := by have := List.mem_range.mp hj; omega
    exact if_neg fun met => by have := (h (k + j) inside).mp met; omega
  rw [List.range_add, List.filterMap_append, low, high, List.append_nil]

theorem extractArray16_eq (convert : Nat → Int) (data : List UInt8) (count : Nat) :
    extractArray16 convert data count =
      ((words 2 (data.take (2 * count))).map convert, min data.length (2 * count)) := by
  have paired (i : Nat) (hi : i < min count (data.length / 2)) :
      byteAt data (2 * i) <<< 8 ||| byteAt data (2 * i + 1) = number ((data.drop (2 * i)).take 2) := by
    rw [take_drop_eq_map (by omega)]
    exact or_pair _ _
  have values := @filterMap_range _ (min count (data.length / 2))
    ((min data.length (2 * count) + (2 - 1)) / 2) (fun i => 2 * i + 1 < data.length) _
    (by omega) (by omega) fun i => convert (byteAt data (2 * i) <<< 8 ||| byteAt data (2 * i + 1))
  rw [extractArray16, words_take (by decide), List.map_map, Nat.mul_comm count 2, strides,
    List.filterMap_map]
  refine Prod.ext_iff.mpr ⟨values.trans (List.map_congr_left fun i hi => ?_), rfl⟩
  rw [paired i (List.mem_range.mp hi)]
  rfl

theorem extractUint64Array_eq (data : List UInt8) (count : Nat) :
    extractUint64Array data count =
      ((words 8 (data.take (8 * count))).map fun n : Nat => (n : Int),
        min (data.length / 8 * 8) (8 * count)) := by
  have eight (i : Nat) (hi : i < min count (data.length / 8)) :
      byteAt data (8 * i) <<< 56 ||| byteAt data (8 * i + 1) <<< 48 ||| byteAt data (8 * i + 2) <<< 40 |||
        byteAt data (8 * i + 3) <<< 32 ||| byteAt data (8 * i + 4) <<< 24 |||
        byteAt data (8 * i + 5) <<< 16 ||| byteAt data (8 * i + 6) <<< 8 ||| byteAt data (8 * i + 7) =
      number ((data.drop (8 * i)).take 8) := by
    rw [take_drop_eq_map (by omega)]
    exact or_eight _ _ _ _ _ _ _ _
  have steps : (min (data.length / 8 * 8) (8 * count) + (8 - 1)) / 8 = min count (data.length / 8) := by
    omega
  rw [extractUint64Array, words_take (by decide), List.map_map, Nat.mul_comm count 8, strides, steps,
    List.map_map]
  refine Prod.ext_iff.mpr ⟨List.map_congr_left fun i hi => ?_, rfl⟩
  simp only [Function.comp_apply, eight i (List.mem_range.mp hi)]

/-! ## One field -/

def FingerData.values (finger : FingerData) : Kind → List Int
  | .staticTactile => finger.staticTactile
  | .dynamicTactile => [finger.dynamicTactile]
  | .accelerometer => finger.accelerometer
  | .gyroscope => finger.gyroscope
  | .temperature => [finger.temperature]
  | .timestamp => [finger.timestamp]

theorem length_imuValues (values : List Int) : (imuValues values).length = imuSize := by
  rw [imuValues]
  split
  · assumption
  · rfl

def FingerData.store (finger : FingerData) (kind : Kind) (values : List Int) : FingerData :=
  match kind with
  | .staticTactile => { finger with staticTactile := values }
  | .dynamicTactile => { finger with dynamicTactile := values.headD finger.dynamicTactile }
  | .accelerometer => { finger with accelerometer := imuValues values }
  | .gyroscope => { finger with gyroscope := imuValues values }
  | .temperature => { finger with temperature := values.headD finger.temperature }
  | .timestamp => { finger with timestamp := values.headD finger.timestamp }

theorem parseField_kind (finger : FingerData) (kind : Kind) (data : List UInt8) :
    parseField finger kind.sensorType data =
      (({ finger with newDataAvailable := true }).store kind (kind.valuesAt data),
        taken kind.sensorType data) := by
  have timestamp : min (data.length / 8 * 8) (8 * 1) = if 8 ≤ data.length then 8 else 0 := by
    split <;> omega
  cases kind <;>
    simp only [parseField, extractUint16Array, extractInt16Array, extractArray16_eq,
      extractUint64Array_eq, taken, Kind.ofType_sensorType, timestamp] <;> rfl

theorem parseField_magnetometer (finger : FingerData) (data : List UInt8) :
    parseField finger sensorTypeMagnetometer data =
      ({ finger with
          newDataAvailable := true
          magnetometer := imuValues (extractInt16Array data imuSize).1 },
        taken sensorTypeMagnetometer data) := by
  simp only [parseField, extractInt16Array, extractArray16_eq]
  rfl

theorem parseField_unknown (finger : FingerData) {sensorType : UInt8} (data : List UInt8)
    (unknown : Kind.ofType sensorType = none) (other : sensorType ≠ sensorTypeMagnetometer) :
    parseField finger sensorType data =
      ({ finger with newDataAvailable := true }, taken sensorType data) := by
  obtain ⟨noStatic, noDynamic, noAccelerometer, noGyroscope, noTemperature, noTimestamp⟩ :=
    Kind.ofType_eq_none unknown
  simp only [parseField, taken, unknown, other, noStatic, noDynamic, noAccelerometer, noGyroscope,
    noTemperature, noTimestamp, if_false]

theorem parseField_taken (finger : FingerData) (sensorType : UInt8) (data : List UInt8) :
    (parseField finger sensorType data).2 = taken sensorType data := by
  cases known : Kind.ofType sensorType with
  | some kind => rw [Kind.ofType_eq_some known, parseField_kind]
  | none =>
      by_cases magnetometer : sensorType = sensorTypeMagnetometer
      · rw [magnetometer, parseField_magnetometer]
      · rw [parseField_unknown finger data known magnetometer]

theorem parseField_newData (finger : FingerData) (sensorType : UInt8) (data : List UInt8) :
    (parseField finger sensorType data).1.newDataAvailable = true := by
  cases known : Kind.ofType sensorType with
  | some kind =>
      rw [Kind.ofType_eq_some known, parseField_kind]
      cases kind <;> rfl
  | none =>
      by_cases magnetometer : sensorType = sensorTypeMagnetometer
      · rw [magnetometer, parseField_magnetometer]
      · rw [parseField_unknown finger data known magnetometer]

theorem store_values_of_ne (finger : FingerData) {kind k : Kind} (values : List Int) (h : k ≠ kind) :
    (finger.store kind values).values k = finger.values k := by
  cases kind <;> cases k <;> first | rfl | exact absurd rfl h

theorem store_values_self (finger : FingerData) {kind : Kind} {values : List Int}
    (whole : values.length = kind.count) : (finger.store kind values).values kind = values := by
  have single {n : Int} (one : values.length = 1) : [values.headD n] = values := by
    obtain ⟨value, rfl⟩ := List.length_eq_one_iff.mp one
    rfl
  cases kind with
  | staticTactile => rfl
  | accelerometer | gyroscope => exact if_pos whole
  | dynamicTactile | temperature | timestamp => exact single whole

theorem store_values_nil (finger : FingerData) {kind : Kind} (single : kind.count ≤ 1) :
    (finger.store kind []).values kind = finger.values kind := by
  cases kind <;> first | rfl | exact absurd single (by decide)

theorem store_valuesAt (finger : FingerData) {kind : Kind} {data : List UInt8}
    (kept : ¬ kind.cutOff data) :
    (finger.store kind (kind.valuesAt data)).values kind =
      if kind.size ≤ data.length then kind.valuesAt data else finger.values kind := by
  by_cases whole : kind.size ≤ data.length
  · rw [if_pos whole, store_values_self finger (Kind.length_valuesAt whole)]
  · have short : data.length < kind.size := Nat.lt_of_not_le whole
    have single : kind.count ≤ 1 := Nat.le_of_not_lt fun many => kept ⟨many, short⟩
    rw [if_neg whole, Kind.valuesAt_short single short, store_values_nil finger single]

theorem parseField_values (finger : FingerData) (sensorType : UInt8) (data : List UInt8) (k : Kind)
    (kept : ¬ (Kind.ofType sensorType = some k ∧ k.cutOff data)) :
    (parseField finger sensorType data).1.values k =
      if Kind.ofType sensorType = some k ∧ k.size ≤ data.length then k.valuesAt data
      else finger.values k := by
  cases known : Kind.ofType sensorType with
  | some kind =>
      rw [Kind.ofType_eq_some known, parseField_kind]
      by_cases same : kind = k
      · subst same
        simp only [known, true_and] at kept
        simp only [true_and]
        exact store_valuesAt _ kept
      · rw [if_neg fun h => same (Option.some.inj h.1)]
        exact store_values_of_ne _ _ (Ne.symm same)
  | none =>
      rw [if_neg fun h => nomatch h.1]
      by_cases magnetometer : sensorType = sensorTypeMagnetometer
      · rw [magnetometer, parseField_magnetometer]
        cases k <;> rfl
      · rw [parseField_unknown finger data known magnetometer]
        cases k <;> rfl

/-! ## A packet -/

def observe (fingers : Fingers) : Observed :=
  ⟨fun f k => (fingers.get f).values k, fun f => (fingers.get f).newDataAvailable⟩

theorem parseTag_some (fingers : Fingers) {sensorByte : UInt8} (data : List UInt8)
    {f : Fin numFingers} (addressed : finger? sensorByte = some f) :
    parseTag fingers sensorByte data =
      (fingers.set f (parseField (fingers.get f) (sensorTypeOf sensorByte) data).1 f.isLt,
        (parseField (fingers.get f) (sensorTypeOf sensorByte) data).2) := by
  obtain ⟨inside, rfl⟩ := finger?_eq_some.mp addressed
  rw [parseTag, dif_pos inside]
  rfl

theorem parseTag_none (fingers : Fingers) {sensorByte : UInt8} (data : List UInt8)
    (absent : finger? sensorByte = none) : parseTag fingers sensorByte data = (fingers, 0) := by
  rw [parseTag, dif_neg (finger?_eq_none.mp absent)]

theorem parseTag_taken (fingers : Fingers) (sensorByte : UInt8) (data : List UInt8) :
    (parseTag fingers sensorByte data).2 = fieldSize sensorByte data := by
  rw [fieldSize]
  cases addressed : finger? sensorByte with
  | none => rw [parseTag_none fingers data addressed]
  | some f => rw [parseTag_some fingers data addressed, parseField_taken]

theorem parseFrom_eq_walk (data : List UInt8) (fingers : Fingers) (idx : Nat) :
    parseFrom data fingers idx = Scan.walk parseTag fingers (data.drop idx) := by
  fun_induction parseFrom data fingers idx with
  | case1 fingers idx h next ih =>
      rw [ih, List.drop_eq_getElem_cons h, Scan.walk_cons, List.drop_drop]
  | case2 fingers idx h => rw [List.drop_eq_nil_of_le (Nat.le_of_not_lt h), Scan.walk_nil]

theorem parseFrom_eq_foldl (data : List UInt8) (fingers : Fingers) :
    parseFrom data fingers 0 =
      (tags data).foldl (fun fingers m => (parseTag fingers m.1 m.2).1) fingers := by
  rw [parseFrom_eq_walk, List.drop_zero]
  exact Scan.walk_eq_foldl (fun tag rest _ fingers => parseTag_taken fingers tag rest) fingers

theorem parseTag_values (fingers : Fingers) (tag : UInt8) (rest : List UInt8) (f : Fin numFingers)
    (k : Kind) (kept : ¬ (field? tag = some (f, k) ∧ k.cutOff rest)) :
    (observe (parseTag fingers tag rest).1).values f k =
      ((observe fingers).read tag rest).values f k := by
  rw [Observed.read_values]
  cases addressed : finger? tag with
  | none =>
      rw [parseTag_none fingers rest addressed, if_neg (by simp [field?, addressed])]
  | some finger =>
      rw [parseTag_some fingers rest addressed]
      by_cases same : finger = f
      · subst same
        simp only [field?_eq_some addressed] at kept ⊢
        simpa [observe] using parseField_values (fingers.get finger) (sensorTypeOf tag) rest k kept
      · have elsewhere : ¬ (field? tag = some (f, k) ∧ k.size ≤ rest.length) := by
          simp [field?, addressed, same]
        rw [if_neg elsewhere]
        simp [observe, get_set_ne _ _ same]

theorem parseTag_isNew (fingers : Fingers) (tag : UInt8) (rest : List UInt8) (f : Fin numFingers) :
    (observe (parseTag fingers tag rest).1).isNew f =
      (decide (finger? tag = some f) || (observe fingers).isNew f) := by
  cases addressed : finger? tag with
  | none => simp [parseTag_none fingers rest addressed]
  | some finger =>
      rw [parseTag_some fingers rest addressed]
      by_cases same : finger = f
      · subst same
        simp [observe, parseField_newData]
      · simp [observe, get_set_ne _ _ same, same]

theorem foldl_parseTag_values {met : List (UInt8 × List UInt8)} {fingers : Fingers}
    {observed : Observed} {f : Fin numFingers} {k : Kind}
    (kept : ∀ m ∈ met, ¬ (field? m.1 = some (f, k) ∧ k.cutOff m.2))
    (same : (observe fingers).values f k = observed.values f k) :
    (observe (met.foldl (fun fingers m => (parseTag fingers m.1 m.2).1) fingers)).values f k =
      (met.foldl (fun observed m => observed.read m.1 m.2) observed).values f k := by
  induction met generalizing fingers observed with
  | nil => exact same
  | cons m met ih =>
      refine ih (fun m' hm => kept m' (List.mem_cons_of_mem m hm)) ?_
      rw [parseTag_values fingers m.1 m.2 f k (kept m List.mem_cons_self), Observed.read_values,
        Observed.read_values, same]

theorem parseFrom_values (data : List UInt8) (fingers : Fingers) (f : Fin numFingers) (k : Kind)
    (kept : ∀ m ∈ tags data, ¬ (field? m.1 = some (f, k) ∧ k.cutOff m.2)) :
    (observe (parseFrom data fingers 0)).values f k = ((observe fingers).readAll data).values f k := by
  rw [parseFrom_eq_foldl]
  exact foldl_parseTag_values kept rfl

theorem parseTag_cutOff (fingers : Fingers) {tag : UInt8} {rest : List UInt8} {f : Fin numFingers}
    {k : Kind} (field : field? tag = some (f, k)) (cut : k.cutOff rest) :
    (observe (parseTag fingers tag rest).1).values f k =
      if k = .staticTactile then k.valuesAt rest else [0, 0, 0] := by
  have addressed := finger?_of_field? field
  have type := Kind.ofType_eq_some ((field?_eq_some addressed).mp field)
  have fewer := Kind.length_valuesAt_lt cut
  rw [parseTag_some fingers rest addressed, type, parseField_kind]
  simp only [observe, get_set_self]
  cases k with
  | staticTactile => rfl
  | accelerometer | gyroscope => exact if_neg (Nat.ne_of_lt fewer)
  | dynamicTactile | temperature | timestamp => exact absurd cut.1 (by decide)

theorem parseFrom_isNew (data : List UInt8) (fingers : Fingers) (f : Fin numFingers) :
    (observe (parseFrom data fingers 0)).isNew f =
      ((tags data).any (fun m => decide (finger? m.1 = some f)) || (observe fingers).isNew f) := by
  rw [parseFrom_eq_foldl]
  generalize tags data = met
  induction met generalizing fingers with
  | nil => simp
  | cons m met ih =>
      rw [List.foldl_cons, ih, parseTag_isNew, List.any_cons, Bool.or_left_comm, Bool.or_assoc]

theorem parseField_magnetometer_kept (finger : FingerData) {sensorType : UInt8} (data : List UInt8)
    (other : sensorType ≠ sensorTypeMagnetometer) :
    (parseField finger sensorType data).1.magnetometer = finger.magnetometer := by
  cases known : Kind.ofType sensorType with
  | some kind =>
      rw [Kind.ofType_eq_some known, parseField_kind]
      cases kind <;> rfl
  | none => rw [parseField_unknown finger data known other]

theorem parseTag_magnetometer (fingers : Fingers) {tag : UInt8} (rest : List UInt8)
    (other : ¬ magnetometerTag tag) (f : Fin numFingers) :
    ((parseTag fingers tag rest).1.get f).magnetometer = (fingers.get f).magnetometer := by
  cases addressed : finger? tag with
  | none => rw [parseTag_none fingers rest addressed]
  | some finger =>
      rw [parseTag_some fingers rest addressed]
      by_cases same : finger = f
      · subst same
        have type : sensorTypeOf tag ≠ sensorTypeMagnetometer :=
          fun h => other ⟨by simp [addressed], h⟩
        simpa using parseField_magnetometer_kept (fingers.get finger) rest type
      · simp [get_set_ne _ _ same]

theorem parseFrom_magnetometer (data : List UInt8) (fingers : Fingers)
    (known : ∀ m ∈ tags data, ¬ magnetometerTag m.1) (f : Fin numFingers) :
    ((parseFrom data fingers 0).get f).magnetometer = (fingers.get f).magnetometer := by
  rw [parseFrom_eq_foldl]
  generalize tags data = met at known
  induction met generalizing fingers with
  | nil => rfl
  | cons m met ih =>
      rw [List.forall_mem_cons] at known
      rw [List.foldl_cons, ih _ known.2, parseTag_magnetometer fingers m.2 known.1]

/-! ## What every field keeps -/

section
variable {P : FingerData → Prop}
  (keeps : ∀ finger sensorType data, P finger → P (parseField finger sensorType data).1)
include keeps

theorem parseTag_keeps {fingers : Fingers} (tag : UInt8) (rest : List UInt8)
    (start : ∀ f, P (fingers.get f)) (f : Fin numFingers) : P ((parseTag fingers tag rest).1.get f) := by
  cases addressed : finger? tag with
  | none =>
      rw [parseTag_none fingers rest addressed]
      exact start f
  | some finger =>
      rw [parseTag_some fingers rest addressed]
      by_cases same : finger = f
      · subst same
        simpa using keeps _ (sensorTypeOf tag) rest (start finger)
      · simpa [get_set_ne _ _ same] using start f

theorem parseSensorPacket_keeps {fingers : Fingers} (packet : List UInt8)
    (start : ∀ f, P (fingers.get f)) : ∀ f, P ((parseSensorPacket fingers packet).1.get f) := by
  rw [parseSensorPacket]
  split
  · exact start
  · rw [parseFrom_eq_foldl]
    exact List.foldlRecOn (motive := fun fingers => ∀ f, P (Vector.get fingers f)) _ _ start
      fun _ start m _ => parseTag_keeps keeps m.1 m.2 start

end

end TactileSensors.Usb.Quickstart
