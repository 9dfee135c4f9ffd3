import TactileSensors.Usb.Fields
import TactileSensors.Usb.Packet
import Mathlib.Data.List.GetD
import Mathlib.Tactic.SplitIfs

/-!
# The field parser of the SDK

C++ reads out of the packet's memory through a pointer behind the tag, writes whole numbers into
arrays of fixed size and takes the bytes of those. It does not know the magnetometer.
-/

namespace TactileSensors.Usb.Sdk
open Bytes

structure FingerData where
  newDataAvailable : Bool
  staticTactile : Vector UInt16 staticTactileSize
  dynamicTactile : Vector Int16 dynamicTactileSize
  accelerometer : Vector Int16 3
  gyroscope : Vector Int16 3
  temperature : Int16
  timestamp : UInt64
deriving DecidableEq

abbrev Fingers := Vector FingerData numFingers

def Fingers.init : Fingers :=
  Vector.replicate numFingers ⟨false, Vector.replicate _ 0, Vector.replicate _ 0, Vector.replicate _ 0,
    Vector.replicate _ 0, 0, 0⟩

variable {α : Type} {n : Nat}

def extract (width : Nat) (parse : (Nat → UInt8) → α) (data : Nat → UInt8) (size : Nat) :
    Nat → Nat → Vector α n → Vector α n × Nat
  | 0, cur, into => (into, cur)
  | left + 1, cur, into =>
      if width * cur + (width - 1) < size then
        extract width parse data size left (cur + 1)
          (into.setIfInBounds cur (parse fun j => data (width * cur + j)))
      else (into, cur)

def parseBigEndian2 (data : Nat → UInt8) : UInt16 :=
  (data 0).toUInt16 <<< 8 ||| (data 1).toUInt16

/-- `cast` is what a `uint16_t` means in the array that is cast to `uint16_t *`. -/
def extractUint16 (cast : UInt16 → α) (into : Vector α n) (data : Nat → UInt8) (size : Nat) :
    Vector α n × UInt8 :=
  let (into, cur) := extract 2 (fun data => cast (parseBigEndian2 data)) data size n 0 into
  (into, (cur * 2).toUInt8)

def parseBigEndian8 (data : Nat → UInt8) : UInt64 :=
  (data 0).toUInt64 <<< 56 ||| (data 1).toUInt64 <<< 48 ||| (data 2).toUInt64 <<< 40 |||
    (data 3).toUInt64 <<< 32 ||| (data 4).toUInt64 <<< 24 ||| (data 5).toUInt64 <<< 16 |||
    (data 6).toUInt64 <<< 8 ||| (data 7).toUInt64

def extractUint64 (into : Vector UInt64 n) (data : Nat → UInt8) (size : Nat) : Vector UInt64 n × Nat :=
  let (into, cur) := extract 8 parseBigEndian8 data size n 0 into
  (into, cur * 8)

def parseField (finger : FingerData) (sensorType : UInt8) (sensorData : Nat → UInt8)
    (sensorDataBytes : Nat) : FingerData × Nat :=
  if sensorType = sensorTypeDynamicTactile then
    let (into, count) := extractUint16 UInt16.toInt16 finger.dynamicTactile sensorData sensorDataBytes
    ({ finger with dynamicTactile := into, newDataAvailable := true }, count.toNat)
  else if sensorType = sensorTypeStaticTactile then
    let (into, count) := extractUint16 id finger.staticTactile sensorData sensorDataBytes
    ({ finger with staticTactile := into, newDataAvailable := true }, count.toNat)
  else if sensorType = sensorTypeAccelerometer then
    let (into, count) := extractUint16 UInt16.toInt16 finger.accelerometer sensorData sensorDataBytes
    ({ finger with accelerometer := into, newDataAvailable := true }, count.toNat)
  else if sensorType = sensorTypeGyroscope then
    let (into, count) := extractUint16 UInt16.toInt16 finger.gyroscope sensorData sensorDataBytes
    ({ finger with gyroscope := into, newDataAvailable := true }, count.toNat)
  else if sensorType = sensorTypeTemperature then
    let (into, count) := extractUint16 UInt16.toInt16 #v[finger.temperature] sensorData sensorDataBytes
    ({ finger with temperature := into[0], newDataAvailable := true }, count.toNat)
  else if sensorType = sensorTypeTimestamp then
    let (into, count) := extractUint64 #v[finger.timestamp] sensorData sensorDataBytes
    ({ finger with timestamp := into[0], newDataAvailable := true }, count)
  else (finger, 0)

def parseTag (fingers : Fingers) (tag : UInt8) (sensorData : Nat → UInt8) (sensorDataBytes : Nat) :
    Fingers × Nat :=
  if h : fingerIdOf tag < numFingers then
    let (finger, count) := parseField fingers[fingerIdOf tag] (sensorTypeOf tag) sensorData sensorDataBytes
    (fingers.set (fingerIdOf tag) finger, count)
  else (fingers, 0)

def packetData (packet : UsbPacket) (i : Nat) : UInt8 := packet.get (usbPacketHeaderSize + i)

def parseFrom (packet : UsbPacket) (fingers : Fingers) (i : Nat) : Fingers :=
  if i < packet.dataLength.toNat then
    let next := parseTag fingers (packetData packet i) (fun j => packetData packet (i + 1 + j))
      (packet.dataLength.toNat - (i + 1))
    parseFrom packet next.1 (i + 1 + next.2)
  else fingers
termination_by packet.dataLength.toNat - i

def parseSensors (packet : UsbPacket) (fingers : Fingers) : Fingers := parseFrom packet fingers 0

/-! ## The arrays -/

theorem room_iff {width : Nat} (pos : 0 < width) (cur size : Nat) :
    width * cur + (width - 1) < size ↔ cur < size / width := by
  rw [Nat.lt_div_iff_mul_lt pos, Nat.mul_comm]
  omega

theorem extract_count {width : Nat} (pos : 0 < width) (parse : (Nat → UInt8) → α) (data : Nat → UInt8)
    (size left : Nat) {cur : Nat} (into : Vector α n) (inside : cur ≤ size / width) :
    (extract width parse data size left cur into).2 = min (cur + left) (size / width) := by
  induction left generalizing cur into with
  | zero => exact (Nat.min_eq_left inside).symm
  | succ left ih =>
      by_cases room : cur < size / width
      · rw [extract, if_pos ((room_iff pos cur size).mpr room), ih _ room, Nat.succ_add_eq_add_succ]
      · rw [extract, if_neg (mt (room_iff pos cur size).mp room)]
        show cur = _
        omega

theorem extract_getElem {width : Nat} (pos : 0 < width) (parse : (Nat → UInt8) → α)
    (data : Nat → UInt8) (size left cur : Nat) (into : Vector α n) {i : Nat} (hi : i < n) :
    (extract width parse data size left cur into).1[i] =
      if cur ≤ i ∧ i < min (cur + left) (size / width) then parse fun j => data (width * i + j)
      else into[i] := by
  induction left generalizing cur into with
  | zero => rw [extract, if_neg (by omega)]
  | succ left ih =>
      by_cases room : cur < size / width
      · rw [extract, if_pos ((room_iff pos cur size).mpr room), ih, Vector.getElem_setIfInBounds]
        by_cases here : cur = i
        · subst here
          rw [if_neg (by omega), if_pos rfl, if_pos (by omega)]
        · rw [if_neg here]
          exact if_congr (by omega) rfl rfl
      · rw [extract, if_neg (mt (room_iff pos cur size).mp room), if_neg (by omega)]

def Shows (data : Nat → UInt8) (rest : List UInt8) : Prop :=
  ∀ j < rest.length, data j = rest.getD j 0

theorem Shows.drop {data : Nat → UInt8} {rest : List UInt8} (shows : Shows data rest) (i : Nat) :
    Shows (fun j => data (i + j)) (rest.drop i) := by
  intro j hj
  rw [List.length_drop] at hj
  show data (i + j) = _
  rw [shows (i + j) (by omega), List.getD_eq_getElem?_getD, List.getD_eq_getElem?_getD,
    List.getElem?_drop]

theorem extract_spliced {width : Nat} (pos : 0 < width) {parse : (Nat → UInt8) → α} {value : α → Int}
    {meaning : Nat → Int}
    (means : ∀ data, value (parse data) = meaning (number ((List.range width).map data)))
    {data : Nat → UInt8} {rest : List UInt8} (shows : Shows data rest) (into : Vector α n) :
    (extract width parse data rest.length n 0 into).1.toList.map value =
      Kind.spliced ((words width (rest.take (width * n))).map meaning) (into.toList.map value) := by
  rw [words_take pos, List.map_map, Kind.spliced, List.length_map, List.length_range]
  refine List.ext_getElem (by simp) fun i hi _ => ?_
  have inside : i < n := by simpa using hi
  rw [List.getElem_map, Vector.getElem_toList, extract_getElem pos, Nat.zero_add]
  by_cases read : i < min n (rest.length / width)
  · have room : width * i + width ≤ rest.length := by
      have whole := Nat.mul_le_mul_left width (Nat.succ_le_of_lt (Nat.lt_of_lt_of_le read (Nat.min_le_right _ _)))
      have most := Nat.mul_div_le rest.length width
      rw [Nat.mul_succ] at whole
      omega
    have bytes : (List.range width).map (fun j => data (width * i + j)) =
        (rest.drop (width * i)).take width := by
      rw [take_drop_eq_map room]
      refine List.map_congr_left fun j hj => shows _ ?_
      have := List.mem_range.mp hj
      omega
    rw [if_pos ⟨Nat.zero_le i, read⟩, means, bytes, List.getElem_append_left (by simpa using read)]
    simp
  · rw [if_neg fun h => read h.2, List.getElem_append_right (by simpa using Nat.le_of_not_lt read)]
    simp [Nat.add_sub_cancel' (Nat.le_of_not_lt read)]

/-! ## What the numbers stand for -/

theorem byte_shift (byte : UInt8) {k w : Nat} (fits : 8 + k ≤ w) :
    byte.toNat <<< k % 2 ^ w = byte.toNat <<< k := by
  refine Nat.mod_eq_of_lt ?_
  rw [Nat.shiftLeft_eq]
  calc byte.toNat * 2 ^ k < 2 ^ 8 * 2 ^ k := Nat.mul_lt_mul_of_pos_right byte.toNat_lt (Nat.two_pow_pos k)
    _ = 2 ^ (8 + k) := (Nat.pow_add 2 8 k).symm
    _ ≤ 2 ^ w := Nat.pow_le_pow_right (by decide) fits

theorem toNat_parseBigEndian2 (data : Nat → UInt8) :
    (parseBigEndian2 data).toNat = number ((List.range 2).map data) := by
  have bits : (parseBigEndian2 data).toNat =
      (data 0).toNat <<< 8 % 2 ^ 16 ||| (data 1).toNat := rfl
  rw [bits, byte_shift _ (by decide), or_pair]
  rfl

theorem toNat_parseBigEndian8 (data : Nat → UInt8) :
    (parseBigEndian8 data).toNat = number ((List.range 8).map data) := by
  have bits : (parseBigEndian8 data).toNat =
      (data 0).toNat <<< 56 % 2 ^ 64 ||| (data 1).toNat <<< 48 % 2 ^ 64 |||
        (data 2).toNat <<< 40 % 2 ^ 64 ||| (data 3).toNat <<< 32 % 2 ^ 64 |||
        (data 4).toNat <<< 24 % 2 ^ 64 ||| (data 5).toNat <<< 16 % 2 ^ 64 |||
        (data 6).toNat <<< 8 % 2 ^ 64 ||| (data 7).toNat := rfl
  rw [bits, byte_shift _ (by decide), byte_shift _ (by decide), byte_shift _ (by decide),
    byte_shift _ (by decide), byte_shift _ (by decide), byte_shift _ (by decide),
    byte_shift _ (by decide), or_eight]
  rfl

theorem min_room {width : Nat} (pos : 0 < width) (n size : Nat) :
    width * min n (size / width) =
      if width * n ≤ size then width * n else width * (size / width) := by
  have fits : width * n ≤ size ↔ n ≤ size / width := by
    rw [Nat.le_div_iff_mul_le pos, Nat.mul_comm]
  by_cases whole : width * n ≤ size
  · rw [if_pos whole, Nat.min_eq_left (fits.mp whole)]
  · rw [if_neg whole, Nat.min_eq_right (Nat.le_of_not_le (mt fits.mpr whole))]

theorem extractUint16_count (cast : UInt16 → α) (into : Vector α n) (small : n < 128)
    (data : Nat → UInt8) (size : Nat) :
    (extractUint16 cast into data size).2.toNat = if 2 * n ≤ size then 2 * n else 2 * (size / 2) := by
  have count := extract_count (by decide : 0 < 2) (fun data => cast (parseBigEndian2 data)) data size n
    into (Nat.zero_le _)
  rw [Nat.zero_add] at count
  rw [← min_room (by decide)]
  simp only [extractUint16, count, Nat.mul_comm _ 2]
  exact Nat.mod_eq_of_lt (by omega)

/-! ## One field -/

def FingerData.values (finger : FingerData) : Kind → List Int
  | .staticTactile => finger.staticTactile.toList.map fun value => (value.toNat : Int)
  | .dynamicTactile => finger.dynamicTactile.toList.map (·.toInt)
  | .accelerometer => finger.accelerometer.toList.map (·.toInt)
  | .gyroscope => finger.gyroscope.toList.map (·.toInt)
  | .temperature => [finger.temperature.toInt]
  | .timestamp => [(finger.timestamp.toNat : Int)]

theorem FingerData.length_values (finger : FingerData) (k : Kind) :
    (finger.values k).length = k.count := by
  cases k <;> simp only [values, List.length_map, Vector.length_toList] <;> rfl

theorem toList_one (into : Vector α 1) : into.toList = [into[0]] := by
  refine List.ext_getElem (by simp) fun i hi _ => ?_
  obtain rfl : i = 0 := by simp at hi; omega
  simp

theorem parseField_unknown (finger : FingerData) {sensorType : UInt8} (data : Nat → UInt8) (size : Nat)
    (unknown : Kind.ofType sensorType = none) :
    parseField finger sensorType data size = (finger, 0) := by
  obtain ⟨noStatic, noDynamic, noAccelerometer, noGyroscope, noTemperature, noTimestamp⟩ :=
    Kind.ofType_eq_none unknown
  simp only [parseField, noStatic, noDynamic, noAccelerometer, noGyroscope, noTemperature, noTimestamp,
    if_false]

theorem parseField_newData (finger : FingerData) (kind : Kind) (data : Nat → UInt8) (size : Nat) :
    (parseField finger kind.sensorType data size).1.newDataAvailable = true := by
  cases kind <;> rfl

theorem parseField_values_of_ne (finger : FingerData) {kind k : Kind} (data : Nat → UInt8) (size : Nat)
    (h : k ≠ kind) :
    (parseField finger kind.sensorType data size).1.values k = finger.values k := by
  cases kind <;> cases k <;> first | rfl | exact absurd rfl h

theorem parseField_spliced (finger : FingerData) (kind : Kind) {data : Nat → UInt8} {rest : List UInt8}
    (shows : Shows data rest) :
    (parseField finger kind.sensorType data rest.length).1.values kind =
      Kind.spliced (kind.valuesAt rest) (finger.values kind) := by
  have signed {n : Nat} (into : Vector Int16 n) :=
    @extract_spliced _ _ 2 (by decide) (fun data => (parseBigEndian2 data).toInt16) Int16.toInt
      Kind.temperature.meaning (fun data => by rw [toInt_toInt16, toNat_parseBigEndian2]; rfl) _ _ shows
      into
  cases kind with
  | staticTactile =>
      exact @extract_spliced _ _ 2 (by decide) parseBigEndian2 (fun value => (value.toNat : Int))
        Kind.staticTactile.meaning (fun data => congrArg Nat.cast (toNat_parseBigEndian2 data)) _ _ shows
        finger.staticTactile
  | dynamicTactile => exact signed finger.dynamicTactile
  | accelerometer => exact signed finger.accelerometer
  | gyroscope => exact signed finger.gyroscope
  | temperature =>
      have read := signed #v[finger.temperature]
      rw [toList_one] at read
      exact read
  | timestamp =>
      have read := @extract_spliced _ _ 8 (by decide) parseBigEndian8 (fun value => (value.toNat : Int))
        Kind.timestamp.meaning (fun data => congrArg Nat.cast (toNat_parseBigEndian8 data)) _ _ shows
        #v[finger.timestamp]
      rw [toList_one] at read
      exact read

theorem parseField_taken (finger : FingerData) (kind : Kind) (data : Nat → UInt8) (size : Nat) :
    (parseField finger kind.sensorType data size).2 =
      if kind.size ≤ size then kind.size else kind.width * (size / kind.width) := by
  cases kind with
  | staticTactile => exact extractUint16_count id finger.staticTactile (by decide) data size
  | dynamicTactile => exact extractUint16_count _ finger.dynamicTactile (by decide) data size
  | accelerometer => exact extractUint16_count _ finger.accelerometer (by decide) data size
  | gyroscope => exact extractUint16_count _ finger.gyroscope (by decide) data size
  | temperature => exact extractUint16_count _ #v[finger.temperature] (by decide) data size
  | timestamp =>
      have count := extract_count (by decide : 0 < 8) parseBigEndian8 data size 1 #v[finger.timestamp]
        (Nat.zero_le _)
      rw [Nat.zero_add] at count
      calc (parseField finger Kind.timestamp.sensorType data size).2
          = 8 * min 1 (size / 8) := (congrArg (· * 8) count).trans (Nat.mul_comm _ _)
        _ = _ := min_room (by decide) 1 size

/-! ## A packet -/

def observe (fingers : Fingers) : Observed :=
  ⟨fun f k => (fingers.get f).values k, fun f => (fingers.get f).newDataAvailable⟩

theorem parseTag_some (fingers : Fingers) {tag : UInt8} (data : Nat → UInt8) (size : Nat)
    {f : Fin numFingers} (addressed : finger? tag = some f) :
    parseTag fingers tag data size =
      (fingers.set f (parseField (fingers.get f) (sensorTypeOf tag) data size).1 f.isLt,
        (parseField (fingers.get f) (sensorTypeOf tag) data size).2) := by
  obtain ⟨inside, rfl⟩ := finger?_eq_some.mp addressed
  rw [parseTag, dif_pos inside]
  rfl

theorem parseTag_none (fingers : Fingers) {tag : UInt8} (data : Nat → UInt8) (size : Nat)
    (absent : finger? tag = none) : parseTag fingers tag data size = (fingers, 0) := by
  rw [parseTag, dif_neg (finger?_eq_none.mp absent)]

theorem parseTag_isNew (fingers : Fingers) (tag : UInt8) (data : Nat → UInt8) (rest : List UInt8)
    (f : Fin numFingers) :
    (observe (parseTag fingers tag data rest.length).1).isNew f =
      ((observe fingers).read tag rest).isNew f := by
  rw [Observed.read_isNew]
  cases addressed : finger? tag with
  | none => simp [parseTag_none fingers data _ addressed, field?, addressed]
  | some finger =>
      rw [parseTag_some fingers data _ addressed]
      by_cases same : finger = f
      · subst same
        cases known : Kind.ofType (sensorTypeOf tag) with
        | none =>
            rw [parseField_unknown _ data _ known]
            simp [observe, field?, kind?, known]
        | some kind =>
            rw [Kind.ofType_eq_some known]
            simp [observe, field?, kind?, known, addressed, parseField_newData]
      · have other : (field? tag).any (·.1 == f) = false := by
          cases known : kind? tag <;> simp [field?, addressed, known, same]
        rw [other]
        simp [observe, get_set_ne _ _ same]

theorem dataLength_eq (packet : UsbPacket) : packet.dataLength.toNat = packet.payload.length := by
  have := packet.dataLength.toNat_lt
  have size := packet.size
  rw [UsbPacket.payload, List.length_take, List.length_drop, size]
  simp only [usbPacketMaxSize, usbPacketHeaderSize, usbPacketMaxDataSize]
  omega

theorem packetData_eq (packet : UsbPacket) {i : Nat} (h : i < packet.payload.length) :
    packetData packet i = packet.payload.getD i 0 := by
  have inside : i < packet.dataLength.toNat := by rwa [dataLength_eq]
  rw [packetData, UsbPacket.get, UsbPacket.payload, List.getD_eq_getElem?_getD,
    List.getD_eq_getElem?_getD, List.getElem?_take_of_lt inside, List.getElem?_drop]

theorem shows_payload (packet : UsbPacket) (i : Nat) :
    Shows (fun j => packetData packet (i + j)) (packet.payload.drop i) :=
  Shows.drop (fun _ h => packetData_eq packet h) i

theorem parseFrom_cons (packet : UsbPacket) (fingers : Fingers) {i : Nat} {tag : UInt8}
    {rest : List UInt8} (left : packet.payload.drop i = tag :: rest) :
    ∃ data, Shows data rest ∧ parseFrom packet fingers i =
      parseFrom packet (parseTag fingers tag data rest.length).1
        (i + 1 + (parseTag fingers tag data rest.length).2) := by
  have inside : i < packet.payload.length := by
    by_contra outside
    rw [List.drop_eq_nil_of_le (Nat.le_of_not_lt outside)] at left
    cases left
  rw [List.drop_eq_getElem_cons inside] at left
  obtain ⟨rfl, rfl⟩ := List.cons.inj left
  refine ⟨fun j => packetData packet (i + 1 + j), shows_payload packet (i + 1), ?_⟩
  rw [parseFrom, if_pos (by rwa [dataLength_eq]), packetData_eq packet inside,
    List.getD_eq_getElem _ _ inside, List.length_drop, dataLength_eq]

theorem parseFrom_nil (packet : UsbPacket) (fingers : Fingers) {i : Nat}
    (done : packet.payload.drop i = []) : parseFrom packet fingers i = fingers := by
  rw [parseFrom, if_neg]
  rw [dataLength_eq]
  exact Nat.not_lt_of_le (List.drop_eq_nil_iff.mp done)

theorem drop_behind {payload rest : List UInt8} {tag : UInt8} {i : Nat}
    (left : payload.drop i = tag :: rest) (n : Nat) : payload.drop (i + 1 + n) = rest.drop n := by
  rw [Nat.add_assoc, ← List.drop_drop, left, Nat.add_comm, List.drop_succ_cons]

/-! ## The loop as a walk -/

theorem extract_congr {width : Nat} (pos : 0 < width) {parse : (Nat → UInt8) → α}
    (bytes : ∀ data data', (∀ j < width, data j = data' j) → parse data = parse data')
    {data data' : Nat → UInt8} {size size' left cur : Nat} (into : Vector α n)
    (room : ∀ j < width * (cur + left), (j < size ↔ j < size'))
    (same : ∀ j < width * (cur + left), j < size → data j = data' j) :
    extract width parse data size left cur into = extract width parse data' size' left cur into := by
  induction left generalizing cur into with
  | zero => rfl
  | succ left ih =>
      have last : width * cur + (width - 1) < width * (cur + (left + 1)) := by
        have step : width * (cur + 1) ≤ width * (cur + (left + 1)) := Nat.mul_le_mul_left _ (by omega)
        rw [Nat.mul_succ] at step
        omega
      have rest : width * (cur + 1 + left) = width * (cur + (left + 1)) := by
        rw [Nat.add_assoc, Nat.add_comm 1]
      rw [extract, extract]
      by_cases more : width * cur + (width - 1) < size
      · have number : parse (fun j => data (width * cur + j)) = parse fun j => data' (width * cur + j) :=
          bytes _ _ fun j hj => same _ (by omega) (by omega)
        rw [if_pos more, if_pos ((room _ last).mp more), number]
        exact ih _ (rest ▸ room) (rest ▸ same)
      · rw [if_neg more, if_neg (mt (room _ last).mpr more)]

theorem parseBigEndian2_congr (cast : UInt16 → α) (data data' : Nat → UInt8)
    (same : ∀ j < 2, data j = data' j) : cast (parseBigEndian2 data) = cast (parseBigEndian2 data') := by
  rw [parseBigEndian2, parseBigEndian2, same 0 (by decide), same 1 (by decide)]

theorem parseBigEndian8_congr (data data' : Nat → UInt8) (same : ∀ j < 8, data j = data' j) :
    parseBigEndian8 data = parseBigEndian8 data' := by
  rw [parseBigEndian8, parseBigEndian8, same 0 (by decide), same 1 (by decide), same 2 (by decide),
    same 3 (by decide), same 4 (by decide), same 5 (by decide), same 6 (by decide), same 7 (by decide)]

theorem parseField_congr (finger : FingerData) (kind : Kind) {data data' : Nat → UInt8}
    {size size' : Nat} (room : ∀ j < kind.size, (j < size ↔ j < size'))
    (same : ∀ j < kind.size, j < size → data j = data' j) :
    parseField finger kind.sensorType data size = parseField finger kind.sensorType data' size' := by
  have array {n : Nat} {α : Type} (cast : UInt16 → α) (into : Vector α n) (fits : 2 * n = kind.size) :
      extractUint16 cast into data size = extractUint16 cast into data' size' := by
    have taken : extract 2 (fun data => cast (parseBigEndian2 data)) data size n 0 into =
        extract 2 (fun data => cast (parseBigEndian2 data)) data' size' n 0 into :=
      extract_congr (by decide) (parseBigEndian2_congr cast) into (by rwa [Nat.zero_add, fits])
        (by rwa [Nat.zero_add, fits])
    rw [extractUint16, extractUint16, taken]
  cases kind with
  | staticTactile =>
      exact congrArg (fun read : Vector UInt16 _ × UInt8 =>
        ({ finger with staticTactile := read.1, newDataAvailable := true }, read.2.toNat))
        (array id finger.staticTactile rfl)
  | dynamicTactile =>
      exact congrArg (fun read : Vector Int16 _ × UInt8 =>
        ({ finger with dynamicTactile := read.1, newDataAvailable := true }, read.2.toNat))
        (array _ finger.dynamicTactile rfl)
  | accelerometer =>
      exact congrArg (fun read : Vector Int16 _ × UInt8 =>
        ({ finger with accelerometer := read.1, newDataAvailable := true }, read.2.toNat))
        (array _ finger.accelerometer rfl)
  | gyroscope =>
      exact congrArg (fun read : Vector Int16 _ × UInt8 =>
        ({ finger with gyroscope := read.1, newDataAvailable := true }, read.2.toNat))
        (array _ finger.gyroscope rfl)
  | temperature =>
      exact congrArg (fun read : Vector Int16 1 × UInt8 =>
        ({ finger with temperature := read.1[0], newDataAvailable := true }, read.2.toNat))
        (array UInt16.toInt16 #v[finger.temperature] rfl)
  | timestamp =>
      have taken : extract 8 parseBigEndian8 data size 1 0 #v[finger.timestamp] =
          extract 8 parseBigEndian8 data' size' 1 0 #v[finger.timestamp] :=
        extract_congr (by decide) parseBigEndian8_congr _ room same
      exact congrArg (fun read : Vector UInt64 1 × Nat =>
        ({ finger with timestamp := read.1[0], newDataAvailable := true }, read.2 * 8)) taken

def readTag (fingers : Fingers) (tag : UInt8) (rest : List UInt8) : Fingers × Nat :=
  parseTag fingers tag (fun j => rest.getD j 0) rest.length

theorem shows_getD (rest : List UInt8) : Shows (fun j => rest.getD j 0) rest := fun _ _ => rfl

theorem parseTag_eq_readTag (fingers : Fingers) (tag : UInt8) {data : Nat → UInt8} {rest : List UInt8}
    (shows : Shows data rest) : parseTag fingers tag data rest.length = readTag fingers tag rest := by
  rw [readTag]
  cases addressed : finger? tag with
  | none => rw [parseTag_none fingers data _ addressed, parseTag_none fingers _ _ addressed]
  | some f =>
      rw [parseTag_some fingers data _ addressed, parseTag_some fingers _ _ addressed]
      cases known : Kind.ofType (sensorTypeOf tag) with
      | none => rw [parseField_unknown _ data _ known, parseField_unknown _ _ _ known]
      | some kind =>
          rw [Kind.ofType_eq_some known]
          have same := parseField_congr (fingers.get f) kind (fun _ _ => Iff.rfl) fun j _ hj => shows j hj
          rw [same]

theorem parseFrom_eq_walk (packet : UsbPacket) (fingers : Fingers) (i : Nat) {payload : List UInt8}
    (left : packet.payload.drop i = payload) :
    parseFrom packet fingers i = Scan.walk readTag fingers payload := by
  induction payload using Scan.drop_induction generalizing fingers i with
  | nil => rw [parseFrom_nil packet fingers left, Scan.walk_nil]
  | cons tag rest ih =>
      obtain ⟨data, shows, step⟩ := parseFrom_cons packet fingers left
      rw [step, Scan.walk_cons, parseTag_eq_readTag fingers tag shows]
      exact ih _ _ _ (drop_behind left _)

theorem parseSensors_eq_walk (packet : UsbPacket) (fingers : Fingers) :
    parseSensors packet fingers = Scan.walk readTag fingers packet.payload :=
  parseFrom_eq_walk packet fingers 0 rfl

theorem readTag_values (fingers : Fingers) (tag : UInt8) (rest : List UInt8) (f : Fin numFingers)
    (k : Kind) :
    (observe (readTag fingers tag rest).1).values f k =
      if field? tag = some (f, k) then Kind.spliced (k.valuesAt rest) ((observe fingers).values f k)
      else (observe fingers).values f k := by
  rw [readTag]
  cases addressed : finger? tag with
  | none => rw [parseTag_none fingers _ _ addressed, if_neg (by simp [field?, addressed])]
  | some finger =>
      rw [parseTag_some fingers _ _ addressed]
      by_cases same : finger = f
      · subst same
        simp only [field?_eq_some addressed]
        cases known : Kind.ofType (sensorTypeOf tag) with
        | none => simp [parseField_unknown _ _ _ known, observe]
        | some kind =>
            rw [Kind.ofType_eq_some known]
            by_cases same : kind = k
            · subst same
              simpa [observe] using parseField_spliced (fingers.get finger) kind (shows_getD rest)
            · rw [if_neg fun h => same (Option.some.inj h)]
              simpa [observe] using parseField_values_of_ne (fingers.get finger) _ _ (Ne.symm same)
      · rw [if_neg fun h => same (Option.some.inj (addressed.symm.trans (finger?_of_field? h)))]
        simp [observe, get_set_ne _ _ same]

theorem readTag_isNew (fingers : Fingers) (tag : UInt8) (rest : List UInt8) (f : Fin numFingers) :
    (observe (readTag fingers tag rest).1).isNew f =
      ((field? tag).any (·.1 == f) || (observe fingers).isNew f) := by
  rw [readTag, parseTag_isNew, Observed.read_isNew]

theorem readTag_unread (fingers : Fingers) {tag : UInt8} (rest : List UInt8)
    (unread : field? tag = none) : readTag fingers tag rest = (fingers, 0) := by
  rw [readTag]
  cases addressed : finger? tag with
  | none => rw [parseTag_none fingers _ _ addressed]
  | some f =>
      have unknown : Kind.ofType (sensorTypeOf tag) = none := by
        simpa [field?, addressed, kind?] using unread
      rw [parseTag_some fingers _ _ addressed, parseField_unknown _ _ _ unknown]
      simp [Vector.get]

/-! ## The tags that the loop reaches -/

def takenBy (tag : UInt8) (rest : List UInt8) : Nat :=
  match field? tag with
  | some (_, kind) =>
      if kind.size ≤ rest.length then kind.size else kind.width * (rest.length / kind.width)
  | none => 0

def reached (payload : List UInt8) : List (UInt8 × List UInt8) := Scan.met takenBy payload

def tagged (packet : UsbPacket) (f : Fin numFingers) : Bool :=
  (reached packet.payload).any fun m => (field? m.1).any (·.1 == f)

theorem readTag_taken (fingers : Fingers) (tag : UInt8) (rest : List UInt8) :
    (readTag fingers tag rest).2 = takenBy tag rest := by
  cases known : field? tag with
  | none => rw [readTag_unread fingers rest known, takenBy, known]
  | some field =>
      obtain ⟨f, kind⟩ := field
      have addressed := finger?_of_field? known
      have type := Kind.ofType_eq_some ((field?_eq_some addressed).mp known)
      rw [readTag, parseTag_some fingers _ _ addressed, type, takenBy, known]
      exact parseField_taken _ kind _ rest.length

theorem parseSensors_eq_foldl (packet : UsbPacket) (fingers : Fingers) :
    parseSensors packet fingers =
      (reached packet.payload).foldl (fun fingers m => (readTag fingers m.1 m.2).1) fingers := by
  rw [parseSensors_eq_walk]
  exact Scan.walk_eq_foldl (fun tag rest _ fingers => readTag_taken fingers tag rest) fingers

theorem parseSensors_isNew (packet : UsbPacket) (fingers : Fingers) (f : Fin numFingers) :
    (observe (parseSensors packet fingers)).isNew f = (tagged packet f || (observe fingers).isNew f) := by
  rw [parseSensors_eq_foldl, tagged]
  generalize reached packet.payload = met
  induction met generalizing fingers with
  | nil => simp
  | cons m met ih =>
      rw [List.foldl_cons, ih, readTag_isNew, List.any_cons, Bool.or_left_comm, Bool.or_assoc]

theorem parseSensors_untagged {packet : UsbPacket} (none : ∀ f, tagged packet f = false)
    (fingers : Fingers) : parseSensors packet fingers = fingers := by
  have unread : ∀ m ∈ reached packet.payload, field? m.1 = .none := by
    intro m hm
    cases known : field? m.1 with
    | none => rfl
    | some field =>
        have here : tagged packet field.1 = true := List.any_eq_true.mpr ⟨m, hm, by simp [known]⟩
        rw [none] at here
        cases here
  rw [parseSensors_eq_foldl]
  exact List.foldlRecOn (motive := (· = fingers)) _ _ rfl fun other same m hm => by
    rw [readTag_unread other m.2 (unread m hm), same]

end TactileSensors.Usb.Sdk
