import TactileSensors.Usb.Sdk

/-!
# The memory that the field parser touches

The parser again, with the indices in 32 and the counts in 8 bits, where it fails if it reads outside the data
of the packet, writes outside an array or a finger, or takes more turns than the data has bytes. It never does.
-/

namespace TactileSensors.Usb.Bounds

variable {α : Type} {n : Nat}

def load (packet : UsbPacket) (i : Nat) : Option UInt8 :=
  if i < packet.dataLength.toNat then some (Sdk.packetData packet i) else none

def store (into : Vector α n) (cur : UInt32) (value : α) : Option (Vector α n) :=
  if cur.toNat < n then some (into.setIfInBounds cur.toNat value) else none

def parseBigEndian2 (data : Nat → Option UInt8) : Option UInt16 := do
  let b₀ ← data 0
  let b₁ ← data 1
  return b₀.toUInt16 <<< 8 ||| b₁.toUInt16

def parseBigEndian8 (data : Nat → Option UInt8) : Option UInt64 := do
  let b₀ ← data 0
  let b₁ ← data 1
  let b₂ ← data 2
  let b₃ ← data 3
  let b₄ ← data 4
  let b₅ ← data 5
  let b₆ ← data 6
  let b₇ ← data 7
  return b₀.toUInt64 <<< 56 ||| b₁.toUInt64 <<< 48 ||| b₂.toUInt64 <<< 40 ||| b₃.toUInt64 <<< 32 |||
    b₄.toUInt64 <<< 24 ||| b₅.toUInt64 <<< 16 ||| b₆.toUInt64 <<< 8 ||| b₇.toUInt64

/-- The loop over `cur` of both extractions, where it takes at most so many turns. -/
def extract (width : UInt32) (parse : (Nat → Option UInt8) → Option α) (data : Nat → Option UInt8)
    (size toCount : UInt32) : Nat → UInt32 → Vector α n → Option (Vector α n × UInt32)
  | 0, cur, into => if width * cur + (width - 1) < size ∧ cur < toCount then none else some (into, cur)
  | turns + 1, cur, into =>
      if width * cur + (width - 1) < size ∧ cur < toCount then do
        let value ← parse fun j => data ((width * cur).toNat + j)
        let into ← store into cur value
        extract width parse data size toCount turns (cur + 1) into
      else some (into, cur)

def extractUint16 (cast : UInt16 → α) (into : Vector α n) (toCount : UInt16) (data : Nat → Option UInt8)
    (size : UInt32) : Option (Vector α n × UInt8) := do
  let (into, cur) ← extract 2 (fun data => (parseBigEndian2 data).map cast) data size toCount.toUInt32
    toCount.toNat 0 into
  return (into, (cur * 2).toUInt8)

def extractUint64 (into : Vector UInt64 n) (toCount : UInt32) (data : Nat → Option UInt8) (size : UInt32) :
    Option (Vector UInt64 n × UInt32) := do
  let (into, cur) ← extract 8 parseBigEndian8 data size toCount toCount.toNat 0 into
  return (into, cur * 8)

def parseField (finger : Sdk.FingerData) (sensorType : UInt8) (sensorData : Nat → Option UInt8)
    (sensorDataBytes : UInt32) : Option (Sdk.FingerData × UInt32) :=
  if sensorType = sensorTypeDynamicTactile then
    (extractUint16 UInt16.toInt16 finger.dynamicTactile dynamicTactileSize.toUInt16 sensorData
      sensorDataBytes).map fun read =>
        ({ finger with dynamicTactile := read.1, newDataAvailable := true }, read.2.toUInt32)
  else if sensorType = sensorTypeStaticTactile then
    (extractUint16 id finger.staticTactile staticTactileSize.toUInt16 sensorData sensorDataBytes).map
      fun read => ({ finger with staticTactile := read.1, newDataAvailable := true }, read.2.toUInt32)
  else if sensorType = sensorTypeAccelerometer then
    (extractUint16 UInt16.toInt16 finger.accelerometer 3 sensorData sensorDataBytes).map fun read =>
      ({ finger with accelerometer := read.1, newDataAvailable := true }, read.2.toUInt32)
  else if sensorType = sensorTypeGyroscope then
    (extractUint16 UInt16.toInt16 finger.gyroscope 3 sensorData sensorDataBytes).map fun read =>
      ({ finger with gyroscope := read.1, newDataAvailable := true }, read.2.toUInt32)
  else if sensorType = sensorTypeTemperature then
    (extractUint16 UInt16.toInt16 (Vector.singleton finger.temperature) 1 sensorData sensorDataBytes).map
      fun read => ({ finger with temperature := read.1.get ⟨0, Nat.one_pos⟩, newDataAvailable := true },
        read.2.toUInt32)
  else if sensorType = sensorTypeTimestamp then
    (extractUint64 (Vector.singleton finger.timestamp) 1 sensorData sensorDataBytes).map fun read =>
      ({ finger with timestamp := read.1.get ⟨0, Nat.one_pos⟩, newDataAvailable := true }, read.2)
  else some (finger, 0)

def storeFinger (fingers : Sdk.Fingers) (f : Nat) (finger : Sdk.FingerData) : Option Sdk.Fingers :=
  if f < numFingers then some (fingers.setIfInBounds f finger) else none

def parseTag (fingers : Sdk.Fingers) (tag : UInt8) (sensorData : Nat → Option UInt8)
    (sensorDataBytes : UInt32) : Option (Sdk.Fingers × UInt32) :=
  if numFingers ≤ fingerIdOf tag then some (fingers, 0)
  else do
    let finger ← fingers[fingerIdOf tag]?
    let (finger, count) ← parseField finger (sensorTypeOf tag) sensorData sensorDataBytes
    let fingers ← storeFinger fingers (fingerIdOf tag) finger
    return (fingers, count)

def parseFrom (packet : UsbPacket) : Nat → Sdk.Fingers → UInt32 → Option Sdk.Fingers
  | 0, fingers, i => if i < packet.dataLength.toUInt32 then none else some fingers
  | turns + 1, fingers, i =>
      if i < packet.dataLength.toUInt32 then do
        let tag ← load packet i.toNat
        let i := i + 1
        let (fingers, count) ← parseTag fingers tag (fun j => load packet (i.toNat + j))
          (packet.dataLength.toUInt32 - i)
        parseFrom packet turns fingers (i + count)
      else some fingers

def parseSensors (packet : UsbPacket) (fingers : Sdk.Fingers) : Option Sdk.Fingers :=
  parseFrom packet packet.dataLength.toNat fingers 0

/-- The bytes that may be read are those of `bytes`. -/
def Shows (data : Nat → Option UInt8) (bytes : Nat → UInt8) (size : Nat) : Prop :=
  ∀ j < size, data j = some (bytes j)

theorem parseBigEndian2_eq {data : Nat → Option UInt8} {bytes : Nat → UInt8} (shows : Shows data bytes 2) :
    parseBigEndian2 data = some (Sdk.parseBigEndian2 bytes) := by
  rw [parseBigEndian2, shows 0 (by decide), shows 1 (by decide)]
  rfl

theorem parseBigEndian8_eq {data : Nat → Option UInt8} {bytes : Nat → UInt8} (shows : Shows data bytes 8) :
    parseBigEndian8 data = some (Sdk.parseBigEndian8 bytes) := by
  rw [parseBigEndian8, shows 0 (by decide), shows 1 (by decide), shows 2 (by decide), shows 3 (by decide),
    shows 4 (by decide), shows 5 (by decide), shows 6 (by decide), shows 7 (by decide)]
  rfl

section
variable {width size : UInt32} {data : Nat → Option UInt8} {bytes : Nat → UInt8}

theorem toNat_succ {i : UInt32} (small : i.toNat < 256) : (i + 1).toNat = i.toNat + 1 := by
  have one : UInt32.toNat 1 = 1 := rfl
  rw [UInt32.toNat_add, one]
  exact Nat.mod_eq_of_lt (by omega)

theorem toNat_last {cur : UInt32} (pos : 0 < width.toNat) (narrow : width.toNat ≤ 8) (small : cur.toNat < 256) :
    (width * cur).toNat = width.toNat * cur.toNat ∧
      (width * cur + (width - 1)).toNat = width.toNat * cur.toNat + (width.toNat - 1) := by
  have one : (1 : UInt32) ≤ width := UInt32.le_iff_toNat_le.mpr pos
  have less : width.toNat * cur.toNat ≤ 8 * 256 := Nat.mul_le_mul narrow small.le
  have product : (width * cur).toNat = width.toNat * cur.toNat := by
    rw [UInt32.toNat_mul]
    exact Nat.mod_eq_of_lt (by omega)
  refine ⟨product, ?_⟩
  have last : (width - 1).toNat = width.toNat - 1 := UInt32.toNat_sub_of_le _ _ one
  rw [UInt32.toNat_add, product, last]
  exact Nat.mod_eq_of_lt (by omega)

theorem extract_eq (pos : 0 < width.toNat) (narrow : width.toNat ≤ 8)
    {parse : (Nat → Option UInt8) → Option α} {parse' : (Nat → UInt8) → α}
    (parses : ∀ {data bytes}, Shows data bytes width.toNat → parse data = some (parse' bytes))
    (shows : Shows data bytes size.toNat) {toCount : UInt32} (count : toCount.toNat = n) (few : n < 256)
    {left : Nat} {cur : UInt32} (into : Vector α n) (rest : cur.toNat + left = n) :
    ∃ cur', extract width parse data size toCount left cur into =
        some ((Sdk.extract width.toNat parse' bytes size.toNat left cur.toNat into).1, cur') ∧
      cur'.toNat = (Sdk.extract width.toNat parse' bytes size.toNat left cur.toNat into).2 := by
  induction left generalizing cur into with
  | zero =>
      have full : ¬ cur < toCount := by
        rw [UInt32.lt_iff_toNat_lt, count]
        omega
      exact ⟨cur, if_neg fun more => full more.2, rfl⟩
  | succ left ih =>
      have inside : cur.toNat < n := by omega
      obtain ⟨product, last⟩ := toNat_last pos narrow (inside.trans few)
      have room : width * cur + (width - 1) < size ∧ cur < toCount ↔
          width.toNat * cur.toNat + (width.toNat - 1) < size.toNat := by
        rw [UInt32.lt_iff_toNat_lt, UInt32.lt_iff_toNat_lt, last, count]
        exact and_iff_left inside
      rw [extract, Sdk.extract]
      simp only [room]
      by_cases more : width.toNat * cur.toNat + (width.toNat - 1) < size.toNat
      · have value : parse (fun j => data ((width * cur).toNat + j)) =
            some (parse' fun j => bytes (width.toNat * cur.toNat + j)) := by
          rw [product]
          exact parses fun j hj => shows _ (by omega)
        have next : (cur + 1).toNat = cur.toNat + 1 := toNat_succ (inside.trans few)
        have later : (cur + 1).toNat + left = n := by omega
        obtain ⟨cur', run, stops⟩ :=
          ih (into.setIfInBounds cur.toNat (parse' fun j => bytes (width.toNat * cur.toNat + j))) later
        rw [next] at run stops
        refine ⟨cur', ?_, ?_⟩
        · rw [if_pos more, if_pos more, value]
          simp only [Option.bind_eq_bind, Option.bind_some, store, if_pos inside]
          exact run
        · rw [if_pos more]
          exact stops
      · rw [if_neg more, if_neg more]
        exact ⟨cur, rfl, rfl⟩

theorem extractUint16_eq (cast : UInt16 → α) (into : Vector α n) {toCount : UInt16} (count : toCount.toNat = n)
    (few : n < 256) (shows : Shows data bytes size.toNat) :
    extractUint16 cast into toCount data size = some (Sdk.extractUint16 cast into bytes size.toNat) := by
  have parses : ∀ {data : Nat → Option UInt8} {bytes}, Shows data bytes 2 →
      (parseBigEndian2 data).map cast = some (cast (Sdk.parseBigEndian2 bytes)) := by
    intro data bytes both
    rw [parseBigEndian2_eq both]
    rfl
  have wide : toCount.toUInt32.toNat = n := (UInt16.toNat_toUInt32 toCount).trans count
  have all : (0 : UInt32).toNat + n = n := Nat.zero_add n
  obtain ⟨cur, run, stops⟩ :=
    extract_eq (by decide : 0 < (2 : UInt32).toNat) (by decide) parses shows wide few into all
  have byte : (cur * 2).toUInt8 = (cur.toNat * 2).toUInt8 := by
    apply UInt8.toNat_inj.mp
    have two : UInt32.toNat 2 = 2 := rfl
    have whole : (cur.toNat * 2).toUInt8.toNat = cur.toNat * 2 % 2 ^ 8 := UInt8.toNat_ofNat'
    rw [UInt32.toNat_toUInt8, UInt32.toNat_mul, two, whole]
    omega
  rw [extractUint16, Sdk.extractUint16, count, run]
  simp only [Option.bind_eq_bind, Option.bind_some, byte, stops]
  rfl

theorem extractUint64_eq (into : Vector UInt64 n) {toCount : UInt32} (count : toCount.toNat = n)
    (few : n < 256) (shows : Shows data bytes size.toNat) :
    ∃ taken, extractUint64 into toCount data size =
        some ((Sdk.extractUint64 into bytes size.toNat).1, taken) ∧
      taken.toNat = (Sdk.extractUint64 into bytes size.toNat).2 ∧ taken.toNat ≤ 8 * n := by
  have all : (0 : UInt32).toNat + n = n := Nat.zero_add n
  obtain ⟨cur, run, stops⟩ :=
    extract_eq (by decide : 0 < (8 : UInt32).toNat) (by decide) parseBigEndian8_eq shows count few into all
  have fits : cur.toNat ≤ n := by
    rw [stops]
    exact (Sdk.extract_count (by decide) _ _ _ _ _ (Nat.zero_le _)).trans_le
      ((Nat.min_le_left _ _).trans (Nat.zero_add n).le)
  have eight : UInt32.toNat 8 = 8 := rfl
  have taken : (cur * 8).toNat = cur.toNat * 8 := by
    rw [UInt32.toNat_mul, eight]
    exact Nat.mod_eq_of_lt (by omega)
  refine ⟨cur * 8, ?_, ?_, by omega⟩
  · rw [extractUint64, count, run]
    rfl
  · rw [taken, stops]
    rfl

theorem parseField_eq (finger : Sdk.FingerData) (sensorType : UInt8) (shows : Shows data bytes size.toNat) :
    ∃ count, parseField finger sensorType data size =
        some ((Sdk.parseField finger sensorType bytes size.toNat).1, count) ∧
      count.toNat = (Sdk.parseField finger sensorType bytes size.toNat).2 ∧ count.toNat < 256 := by
  have narrow : ∀ count : UInt8, count.toUInt32.toNat < 256 := fun count =>
    (UInt8.toNat_toUInt32 count).trans_lt count.toNat_lt
  rw [parseField, Sdk.parseField]
  split_ifs
  · rw [extractUint16_eq _ _ (by decide) (by decide) shows]
    exact ⟨_, rfl, UInt8.toNat_toUInt32 _, narrow _⟩
  · rw [extractUint16_eq _ _ (by decide) (by decide) shows]
    exact ⟨_, rfl, UInt8.toNat_toUInt32 _, narrow _⟩
  · rw [extractUint16_eq _ _ (by decide) (by decide) shows]
    exact ⟨_, rfl, UInt8.toNat_toUInt32 _, narrow _⟩
  · rw [extractUint16_eq _ _ (by decide) (by decide) shows]
    exact ⟨_, rfl, UInt8.toNat_toUInt32 _, narrow _⟩
  · rw [extractUint16_eq _ _ (by decide) (by decide) shows]
    exact ⟨_, rfl, UInt8.toNat_toUInt32 _, narrow _⟩
  · obtain ⟨taken, run, same, small⟩ := extractUint64_eq (Vector.singleton finger.timestamp)
      (by decide : (1 : UInt32).toNat = 1) (by decide) shows
    rw [run]
    exact ⟨_, rfl, same, small.trans_lt (by decide)⟩
  · exact ⟨0, rfl, rfl, by decide⟩

theorem parseTag_eq (fingers : Sdk.Fingers) (tag : UInt8) (shows : Shows data bytes size.toNat) :
    ∃ count, parseTag fingers tag data size = some ((Sdk.parseTag fingers tag bytes size.toNat).1, count) ∧
      count.toNat = (Sdk.parseTag fingers tag bytes size.toNat).2 ∧ count.toNat < 256 := by
  rw [parseTag, Sdk.parseTag]
  by_cases known : fingerIdOf tag < numFingers
  · obtain ⟨count, run, same, small⟩ := parseField_eq fingers[fingerIdOf tag] (sensorTypeOf tag) shows
    rw [if_neg (Nat.not_le.mpr known), dif_pos known, Vector.getElem?_eq_getElem known]
    simp only [Option.bind_eq_bind, Option.bind_some, run, storeFinger, if_pos known]
    have stored : fingers.setIfInBounds (fingerIdOf tag)
          (Sdk.parseField fingers[fingerIdOf tag] (sensorTypeOf tag) bytes size.toNat).1 =
        fingers.set (fingerIdOf tag)
          (Sdk.parseField fingers[fingerIdOf tag] (sensorTypeOf tag) bytes size.toNat).1 := by
      ext i hi
      rw [Vector.getElem_setIfInBounds, Vector.getElem_set]
    exact ⟨count, by rw [stored]; rfl, same, small⟩
  · rw [if_pos (Nat.not_lt.mp known), dif_neg known]
    exact ⟨0, rfl, rfl, by decide⟩

end

theorem lt_dataLength_iff (dataLength : UInt8) {i : UInt32} :
    i < dataLength.toUInt32 ↔ i.toNat < dataLength.toNat := by
  rw [UInt32.lt_iff_toNat_lt, UInt8.toNat_toUInt32]

theorem parseFrom_eq (packet : UsbPacket) {turns : Nat} (fingers : Sdk.Fingers) {i : UInt32}
    (enough : packet.dataLength.toNat - i.toNat ≤ turns) :
    parseFrom packet turns fingers i = some (Sdk.parseFrom packet fingers i.toNat) := by
  induction turns generalizing fingers i with
  | zero =>
      have done : ¬ i.toNat < packet.dataLength.toNat := by omega
      rw [parseFrom, if_neg (mt (lt_dataLength_iff _).mp done), Sdk.parseFrom, if_neg done]
  | succ turns ih =>
      rw [parseFrom, Sdk.parseFrom]
      by_cases more : i.toNat < packet.dataLength.toNat
      · have short := packet.dataLength.toNat_lt
        have next : (i + 1).toNat = i.toNat + 1 := toNat_succ (more.trans short)
        have left : (packet.dataLength.toUInt32 - (i + 1)).toNat = packet.dataLength.toNat - (i.toNat + 1) := by
          have behind : i + 1 ≤ packet.dataLength.toUInt32 := by
            rw [UInt32.le_iff_toNat_le, next, UInt8.toNat_toUInt32]
            exact more
          rw [UInt32.toNat_sub_of_le _ _ behind, next, UInt8.toNat_toUInt32]
        have shows : Shows (fun j => load packet ((i + 1).toNat + j))
            (fun j => Sdk.packetData packet (i.toNat + 1 + j)) (packet.dataLength.toUInt32 - (i + 1)).toNat := by
          intro j hj
          show load packet _ = _
          rw [next, load, if_pos (by omega)]
        obtain ⟨count, run, same, small⟩ := parseTag_eq fingers (Sdk.packetData packet i.toNat) shows
        rw [left] at run same
        have behind : (i + 1 + count).toNat = i.toNat + 1 + count.toNat := by
          rw [UInt32.toNat_add, next]
          exact Nat.mod_eq_of_lt (by omega)
        rw [if_pos ((lt_dataLength_iff _).mpr more), if_pos more, load, if_pos more]
        simp only [Option.bind_eq_bind, Option.bind_some, run]
        rw [ih _ (by omega), behind, same]
      · rw [if_neg (mt (lt_dataLength_iff _).mp more), if_neg more]

/-- The parser stays within the packet and the arrays, ends, and gives what the parser without checks does. -/
theorem parseSensors_in_bounds (packet : UsbPacket) (fingers : Sdk.Fingers) :
    parseSensors packet fingers = some (Sdk.parseSensors packet fingers) :=
  parseFrom_eq packet fingers (Nat.sub_le _ _)

end TactileSensors.Usb.Bounds
