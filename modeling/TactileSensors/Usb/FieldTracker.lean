import Mathlib.Data.List.Induction
import TactileSensors.Usb.Quickstart

/-!
# The field tracker

Before a packet is parsed, the tracker walks it on its own and counts the fields that have arrived. It knows how
long a field is from a table without the magnetometer, and stops where that does not help. Unlike the parser, it
passes over the whole field of a finger that is not there.
-/

namespace TactileSensors.Usb.Quickstart
open Bytes Scan

def fieldByteSizes : List (UInt8 × Nat) :=
  [(sensorTypeStaticTactile, staticTactileSize * 2), (sensorTypeDynamicTactile, dynamicTactileSize * 2),
    (sensorTypeAccelerometer, imuSize * 2), (sensorTypeGyroscope, imuSize * 2), (sensorTypeTemperature, 2),
    (sensorTypeTimestamp, 8)]

structure Tracking where
  fieldCounts : UInt8 × Nat → Nat
  tsDeltas : Fin numFingers → List Int
  tsPrev : Fin numFingers → Option Int

structure TrackingParser extends Tracking where
  fingers : Fingers

namespace Tracking

def init : Tracking := ⟨fun _ => 0, fun _ => [], fun _ => none⟩

def countField (s : Tracking) (sensorType : UInt8) (fingerId : Nat) : Tracking :=
  { s with
    fieldCounts := Function.update s.fieldCounts (sensorType, fingerId)
      (s.fieldCounts (sensorType, fingerId) + 1) }

def withDelta (prev : Option Int) (deltas : List Int) (ts : Int) : List Int :=
  match prev with
  | some prev => if prev < ts then deltas ++ [ts - prev] else deltas
  | none => deltas

def accumulate (s : Tracking) (finger : Fin numFingers) (ts : Int) : Tracking :=
  { s with
    tsDeltas := Function.update s.tsDeltas finger (withDelta (s.tsPrev finger) (s.tsDeltas finger) ts)
    tsPrev := Function.update s.tsPrev finger (some ts) }

end Tracking

def timestampAt (data : List UInt8) (idx : Nat) : Int :=
  ((byteAt data idx <<< 56 ||| byteAt data (idx + 1) <<< 48 ||| byteAt data (idx + 2) <<< 40 |||
    byteAt data (idx + 3) <<< 32 ||| byteAt data (idx + 4) <<< 24 ||| byteAt data (idx + 5) <<< 16 |||
    byteAt data (idx + 6) <<< 8 ||| byteAt data (idx + 7) : Nat) : Int)

/-- What the scan does with a field whose value is at `idx`. -/
def Tracking.arrive (s : Tracking) (sensorType : UInt8) (fingerId : Nat) (data : List UInt8) (idx : Nat) :
    Tracking :=
  let s := if fingerId < numFingers then s.countField sensorType fingerId else s
  if sensorType = sensorTypeTimestamp then
    if h : fingerId < numFingers then s.accumulate ⟨fingerId, h⟩ (timestampAt data idx) else s
  else s

def scanFrom (data : List UInt8) (s : Tracking) (idx : Nat) : Tracking :=
  if h : idx < data.length then
    let sensorByte := data[idx]
    match fieldByteSizes.lookup (sensorTypeOf sensorByte) with
    | none => s
    | some fieldSize =>
        if data.length < idx + 1 + fieldSize then s
        else
          scanFrom data (s.arrive (sensorTypeOf sensorByte) (fingerIdOf sensorByte) data (idx + 1))
            (idx + 1 + fieldSize)
  else s
termination_by data.length - idx

namespace TrackingParser

def snapshotAndReset (p : TrackingParser) :
    TrackingParser × (UInt8 × Nat → Nat) × (Fin numFingers → List Int) :=
  ({ p with fieldCounts := fun _ => 0, tsDeltas := fun _ => [] }, p.fieldCounts, p.tsDeltas)

def parseSensorPacket (p : TrackingParser) (packet : List UInt8) : TrackingParser × Option (List Bool) :=
  if packet.length < usbPacketHeaderSize then (p, none)
  else
    let tracking := scanFrom (packet.drop usbPacketHeaderSize) p.toTracking 0
    let parsed := Quickstart.parseSensorPacket p.fingers packet
    (⟨tracking, parsed.1.map fun finger => { finger with newDataAvailable := false }⟩, some parsed.2)

end TrackingParser

/-! ## What the parser decodes -/

structure Decoded where
  finger : Fin numFingers
  kind : Kind
  values : List Int
deriving DecidableEq

def decode? (tag : UInt8) (rest : List UInt8) : Option Decoded :=
  (field? tag).bind fun field =>
    if field.2.size ≤ rest.length then some ⟨field.1, field.2, field.2.valuesAt rest⟩ else none

def decoded (payload : List UInt8) : List Decoded := (tags payload).filterMap fun m => decode? m.1 m.2

def decodedOf (packet : List UInt8) : List Decoded := decoded (packet.drop usbPacketHeaderSize)

theorem decode?_eq_none {tag : UInt8} {rest : List UInt8} :
    decode? tag rest = none ↔ ∀ field ∈ field? tag, rest.length < field.2.size := by
  rw [decode?]
  cases field? tag with
  | none => simp
  | some field => simp

theorem decode?_of_field? {tag : UInt8} {f : Fin numFingers} {kind : Kind} {rest : List UInt8}
    (field : field? tag = some (f, kind)) (whole : kind.size ≤ rest.length) :
    decode? tag rest = some ⟨f, kind, kind.valuesAt rest⟩ := by
  rw [decode?, field, Option.bind_some, if_pos whole]

theorem decoded_cons (tag : UInt8) (rest : List UInt8) :
    decoded (tag :: rest) = (decode? tag rest).toList ++ decoded (rest.drop (fieldSize tag rest)) := by
  rw [decoded, tags_cons, List.filterMap_cons]
  cases decode? tag rest with
  | none => rfl
  | some field => rfl

theorem read_values_decode? {observed other : Observed} (same : observed.values = other.values) (tag : UInt8)
    (rest : List UInt8) : (observed.read tag rest).values =
      ((decode? tag rest).elim other fun d => other.put d.finger d.kind d.values).values := by
  rw [Observed.read, decode?]
  cases field? tag with
  | none => exact same
  | some field =>
      by_cases whole : field.2.size ≤ rest.length
      · simp only [whole, if_true, Option.bind_some, Option.elim_some, Observed.put, Observed.address, same]
      · simp only [whole, if_false, Option.bind_some, Option.elim_none]
        exact same

theorem parseFrom_decoded (data : List UInt8) (fingers : Fingers) (f : Fin numFingers) (k : Kind)
    (kept : ∀ m ∈ tags data, ¬ (field? m.1 = some (f, k) ∧ k.cutOff m.2)) :
    (observe (parseFrom data fingers 0)).values f k =
      ((decoded data).foldl (fun observed d => observed.put d.finger d.kind d.values)
        (observe fingers)).values f k := by
  rw [parseFrom_values data fingers f k kept, Observed.readAll, decoded]
  suffices same : ∀ observed other : Observed, observed.values = other.values →
      ((tags data).foldl (fun observed m => observed.read m.1 m.2) observed).values =
        (((tags data).filterMap fun m => decode? m.1 m.2).foldl
          (fun observed d => observed.put d.finger d.kind d.values) other).values by
    rw [same _ _ rfl]
  induction tags data with
  | nil => exact fun _ _ same => same
  | cons m met ih =>
      intro observed other same
      have next := read_values_decode? same m.1 m.2
      rw [List.foldl_cons, List.filterMap_cons]
      cases field : decode? m.1 m.2 with
      | none =>
          rw [field] at next
          exact ih _ _ next
      | some d =>
          rw [field] at next
          exact ih _ _ next

/-! ## What the tracker walks -/

structure Arrival where
  tag : UInt8
  kind : Kind
  value : List UInt8
  known : kind? tag = some kind
  whole : value.length = kind.size

namespace Arrival

def encode (a : Arrival) : List UInt8 := a.tag :: a.value

theorem length_encode (a : Arrival) : a.encode.length = a.kind.size + 1 := by
  rw [encode, List.length_cons, a.whole]

def decoded? (a : Arrival) : Option Decoded := decode? a.tag a.value

theorem field?_tag (a : Arrival) : field? a.tag = (finger? a.tag).map (·, a.kind) := by
  rw [field?, a.known]
  cases finger? a.tag <;> rfl

theorem size_le (a : Arrival) (rest : List UInt8) : a.kind.size ≤ (a.value ++ rest).length := by
  rw [List.length_append, a.whole]
  exact Nat.le_add_right _ _

theorem decode?_tag (a : Arrival) {rest : List UInt8} (fits : a.kind.size ≤ rest.length) :
    decode? a.tag rest = (finger? a.tag).map fun f => ⟨f, a.kind, a.kind.valuesAt rest⟩ := by
  rw [decode?, a.field?_tag]
  cases finger? a.tag with
  | none => rfl
  | some f => simp only [Option.map_some, Option.bind_some, if_pos fits]

theorem decoded?_eq (a : Arrival) :
    a.decoded? = (finger? a.tag).map fun f => ⟨f, a.kind, a.kind.valuesAt a.value⟩ :=
  a.decode?_tag a.whole.ge

theorem decode?_append (a : Arrival) (rest : List UInt8) : decode? a.tag (a.value ++ rest) = a.decoded? := by
  have values : a.kind.valuesAt (a.value ++ rest) = a.kind.valuesAt a.value := by
    rw [Kind.valuesAt, Kind.valuesAt, List.take_append_of_le_length a.whole.ge]
  rw [a.decode?_tag (a.size_le rest), a.decoded?_eq, values]

end Arrival

def encodeArrivals (as : List Arrival) : List UInt8 := as.flatMap Arrival.encode

theorem encodeArrivals_cons (a : Arrival) (as : List Arrival) (tail : List UInt8) :
    encodeArrivals (a :: as) ++ tail = a.encode ++ (encodeArrivals as ++ tail) := by
  rw [encodeArrivals, List.flatMap_cons, List.append_assoc, encodeArrivals]

def Stops (tail : List UInt8) : Prop :=
  ∀ tag rest kind, tail = tag :: rest → kind? tag = some kind → rest.length < kind.size

def arrivals (payload : List UInt8) : List Arrival × List UInt8 :=
  match payload with
  | [] => ([], [])
  | tag :: rest =>
      match known : kind? tag with
      | none => ([], tag :: rest)
      | some kind =>
          if whole : kind.size ≤ rest.length then
            let later := arrivals (rest.drop kind.size)
            (⟨tag, kind, rest.take kind.size, known, List.length_take_of_le whole⟩ :: later.1, later.2)
          else ([], tag :: rest)
termination_by payload.length
decreasing_by simp only [List.length_drop, List.length_cons]; omega

theorem arrivals_of_stops {tail : List UInt8} (stops : Stops tail) : arrivals tail = ([], tail) := by
  rw [arrivals.eq_def]
  cases tail with
  | nil => rfl
  | cons tag rest =>
      simp only
      split
      · rfl
      · rename_i kind known
        rw [dif_neg (Nat.not_le.mpr (stops tag rest kind rfl known))]

theorem arrivals_encode (a : Arrival) (rest : List UInt8) :
    arrivals (a.encode ++ rest) = (a :: (arrivals rest).1, (arrivals rest).2) := by
  have fits := a.size_le rest
  have taken : (a.value ++ rest).take a.kind.size = a.value := by rw [← a.whole, List.take_left]
  have left : (a.value ++ rest).drop a.kind.size = rest := by rw [← a.whole, List.drop_left]
  rw [arrivals.eq_def]
  simp only [Arrival.encode, List.cons_append]
  split
  · rename_i unknown
    rw [a.known] at unknown
    cases unknown
  · rename_i kind known
    obtain rfl : a.kind = kind := Option.some.inj (a.known.symm.trans known)
    simp only [fits, dif_pos, taken, left]

theorem arrivals_encodeArrivals (as : List Arrival) {tail : List UInt8} (stops : Stops tail) :
    arrivals (encodeArrivals as ++ tail) = (as, tail) := by
  induction as with
  | nil => exact arrivals_of_stops stops
  | cons a as ih => rw [encodeArrivals_cons, arrivals_encode, ih]

theorem arrivals_spec (payload : List UInt8) :
    encodeArrivals (arrivals payload).1 ++ (arrivals payload).2 = payload ∧ Stops (arrivals payload).2 := by
  fun_induction arrivals payload with
  | case1 => exact ⟨rfl, nofun⟩
  | case2 tag rest unknown =>
      refine ⟨rfl, fun tag' rest' kind same known => ?_⟩
      cases same
      rw [unknown] at known
      cases known
  | case3 tag rest kind known whole later ih =>
      refine ⟨?_, ih.2⟩
      rw [encodeArrivals_cons, ih.1, Arrival.encode, List.cons_append, List.take_append_drop]
  | case4 tag rest kind known short =>
      refine ⟨rfl, fun tag' rest' kind' same known' => ?_⟩
      cases same
      obtain rfl : kind = kind' := Option.some.inj (known.symm.trans known')
      exact Nat.lt_of_not_le short

/-! ## The scan -/

def Tracking.note (s : Tracking) (d : Decoded) : Tracking :=
  let s := s.countField d.kind.sensorType d.finger
  if d.kind = .timestamp then s.accumulate d.finger (d.values.headD 0) else s

theorem lookup_fieldByteSizes (sensorType : UInt8) :
    fieldByteSizes.lookup sensorType = (Kind.ofType sensorType).map Kind.size := by
  cases known : Kind.ofType sensorType with
  | some kind =>
      rw [Kind.ofType_eq_some known]
      cases kind <;> rfl
  | none =>
      obtain ⟨noStatic, noDynamic, noAccelerometer, noGyroscope, noTemperature, noTimestamp⟩ :=
        Kind.ofType_eq_none known
      refine List.lookup_eq_none_iff.mpr ?_
      simp [fieldByteSizes, noStatic, noDynamic, noAccelerometer, noGyroscope, noTemperature, noTimestamp]

theorem timestampAt_eq {data : List UInt8} {idx : Nat} (inside : idx + 8 ≤ data.length) :
    timestampAt data idx = (number ((data.drop idx).take 8) : Nat) := by
  rw [timestampAt, take_drop_eq_map inside]
  exact congrArg Nat.cast (or_eight _ _ _ _ _ _ _ _)

theorem valuesAt_timestamp {value : List UInt8} (eight : value.length = 8) :
    Kind.timestamp.valuesAt value = [(number value : Int)] := by
  have all : value.take Kind.timestamp.size = value := List.take_of_length_le eight.le
  have one : words 8 (value ++ []) = [number value] := words_append (by decide) [] eight
  rw [List.append_nil] at one
  rw [Kind.valuesAt, all]
  exact congrArg (List.map _) one

theorem Kind.sensorType_inj {k k' : Kind} (same : k.sensorType = k'.sensorType) : k = k' := by
  have types := congrArg Kind.ofType same
  rw [Kind.ofType_sensorType, Kind.ofType_sensorType] at types
  exact Option.some.inj types

theorem arrive_eq (s : Tracking) (a : Arrival) {data rest : List UInt8} {idx : Nat}
    (here : data.drop idx = a.value ++ rest) :
    s.arrive (sensorTypeOf a.tag) (fingerIdOf a.tag) data idx = a.decoded?.elim s s.note := by
  have type : sensorTypeOf a.tag = a.kind.sensorType := Kind.ofType_eq_some a.known
  rw [a.decoded?_eq]
  cases addressed : finger? a.tag with
  | none =>
      have outside := finger?_eq_none.mp addressed
      simp [Tracking.arrive, outside]
  | some f =>
      obtain ⟨inside, rfl⟩ := finger?_eq_some.mp addressed
      simp only [Tracking.arrive, Tracking.note, Option.map_some, Option.elim_some, inside, if_true, type]
      by_cases timestamp : a.kind = .timestamp
      · have eight : a.value.length = 8 := a.whole.trans (by rw [timestamp]; rfl)
        have long : idx + 8 ≤ data.length := by
          have length := congrArg List.length here
          rw [List.length_drop, List.length_append, eight] at length
          omega
        have value : timestampAt data idx = (a.kind.valuesAt a.value).headD 0 := by
          rw [timestampAt_eq long, here, List.take_left' eight, timestamp, valuesAt_timestamp eight]
          rfl
        rw [value, timestamp]
        rfl
      · have other : a.kind.sensorType ≠ sensorTypeTimestamp :=
          fun same => timestamp (Kind.sensorType_inj (same : _ = Kind.timestamp.sensorType))
        rw [if_neg other, if_neg timestamp]

theorem scanFrom_of_stops {data : List UInt8} (s : Tracking) {idx : Nat} (stops : Stops (data.drop idx)) :
    scanFrom data s idx = s := by
  rw [scanFrom]
  by_cases h : idx < data.length
  · have here := List.drop_eq_getElem_cons h
    have table := lookup_fieldByteSizes (sensorTypeOf data[idx])
    rw [dif_pos h]
    simp only [table]
    cases known : Kind.ofType (sensorTypeOf data[idx]) with
    | none => rfl
    | some kind =>
        have short := stops _ _ kind here known
        rw [List.length_drop] at short
        exact if_pos (by omega)
  · rw [dif_neg h]

theorem scanFrom_encode {data rest : List UInt8} (s : Tracking) {idx : Nat} (a : Arrival)
    (here : data.drop idx = a.encode ++ rest) :
    scanFrom data s idx = scanFrom data (a.decoded?.elim s s.note) (idx + a.encode.length) := by
  have length := congrArg List.length here
  rw [List.length_drop, Arrival.encode, List.cons_append, List.length_cons, List.length_append, a.whole] at length
  have inside : idx < data.length := by omega
  obtain ⟨tag, value⟩ := List.cons.inj ((List.drop_eq_getElem_cons inside).symm.trans here)
  have table : fieldByteSizes.lookup (sensorTypeOf a.tag) = some a.kind.size := by
    have known : Kind.ofType (sensorTypeOf a.tag) = some a.kind := a.known
    rw [lookup_fieldByteSizes, known, Option.map_some]
  have next : idx + a.encode.length = idx + 1 + a.kind.size := by
    rw [a.length_encode]
    omega
  rw [scanFrom, dif_pos inside, next]
  simp only [tag, table]
  rw [if_neg (by omega), arrive_eq s a value]

theorem scanFrom_arrivals {data tail : List UInt8} (s : Tracking) {idx : Nat} {as : List Arrival}
    (here : data.drop idx = encodeArrivals as ++ tail) (stops : Stops tail) :
    scanFrom data s idx = (as.filterMap Arrival.decoded?).foldl Tracking.note s := by
  induction as generalizing s idx with
  | nil => exact scanFrom_of_stops s (here ▸ stops)
  | cons a as ih =>
      rw [encodeArrivals_cons] at here
      have behind : data.drop (idx + a.encode.length) = encodeArrivals as ++ tail := by
        rw [← List.drop_drop, here, List.drop_left]
      rw [scanFrom_encode s a here, ih _ behind, List.filterMap_cons]
      cases a.decoded? with
      | none => rfl
      | some d => rfl

/-! ## Where the walks go together -/

/-- The parser decodes nothing here, and goes on at the end at the latest. -/
def Passed (m : UInt8 × List UInt8) : Prop :=
  field? m.1 = none ∧ (magnetometerTag m.1 → 2 * imuSize ≤ m.2.length)

instance (m : UInt8 × List UInt8) : Decidable (Passed m) := inferInstanceAs (Decidable (_ ∧ _))

/-- If the finger is not there, the parser passes over the value from tag to tag. -/
def Arrival.Quiet (a : Arrival) : Prop := finger? a.tag = none → ∀ m ∈ tags a.value, Passed m

instance (a : Arrival) : Decidable a.Quiet := inferInstanceAs (Decidable (_ → _))

theorem decode?_of_passed {m : UInt8 × List UInt8} (passed : Passed m) (rest : List UInt8) :
    decode? m.1 rest = none := by
  rw [decode?, passed.1, Option.bind_none]

theorem fieldSize_of_passed (m : UInt8 × List UInt8) (rest : List UInt8) (passed : Passed m) :
    fieldSize m.1 (m.2 ++ rest) = fieldSize m.1 m.2 ∧ fieldSize m.1 m.2 ≤ m.2.length := by
  obtain ⟨unknown, room⟩ := passed
  rw [fieldSize, fieldSize]
  cases addressed : finger? m.1 with
  | none => exact ⟨rfl, Nat.zero_le _⟩
  | some f =>
      have noKind : Kind.ofType (sensorTypeOf m.1) = none := by
        simpa [field?, kind?, addressed] using unknown
      simp only [taken, noKind]
      by_cases magnetometer : sensorTypeOf m.1 = sensorTypeMagnetometer
      · have fits := room ⟨by simp [addressed], magnetometer⟩
        rw [if_pos magnetometer, if_pos magnetometer, List.length_append]
        omega
      · rw [if_neg magnetometer, if_neg magnetometer]
        exact ⟨rfl, Nat.zero_le _⟩

theorem filterMap_decode?_of_passed {ms : List (UInt8 × List UInt8)} (passed : ∀ m ∈ ms, Passed m)
    (rest : List UInt8) : (ms.map fun m => (m.1, m.2 ++ rest)).filterMap (fun m => decode? m.1 m.2) = [] := by
  refine List.filterMap_eq_nil_iff.mpr fun m hm => ?_
  obtain ⟨m', among, rfl⟩ := List.mem_map.mp hm
  exact decode?_of_passed (passed m' among) _

theorem decoded_of_passed {value : List UInt8} (passed : ∀ m ∈ tags value, Passed m) (rest : List UInt8) :
    decoded (value ++ rest) = decoded rest := by
  have split : tags (value ++ rest) = (tags value).map (fun m => (m.1, m.2 ++ rest)) ++ tags rest :=
    met_append rest fun m hm => fieldSize_of_passed m rest (passed m hm)
  rw [decoded, split, List.filterMap_append, filterMap_decode?_of_passed passed, List.nil_append, decoded]

theorem decoded_encode {a : Arrival} (quiet : a.Quiet) (rest : List UInt8) :
    decoded (a.encode ++ rest) = a.decoded?.toList ++ decoded rest := by
  rw [Arrival.encode, List.cons_append, decoded_cons, a.decode?_append]
  cases addressed : finger? a.tag with
  | none =>
      have stays : fieldSize a.tag (a.value ++ rest) = 0 := by rw [fieldSize, addressed]
      rw [stays, List.drop_zero, decoded_of_passed (quiet addressed)]
  | some f =>
      have field : field? a.tag = some (f, a.kind) := by rw [a.field?_tag, addressed, Option.map_some]
      rw [fieldSize_eq _ field, taken_kind (a.size_le rest), ← a.whole, List.drop_left]

theorem decoded_arrivals {as : List Arrival} (quiet : ∀ a ∈ as, a.Quiet) (tail : List UInt8) :
    decoded (encodeArrivals as ++ tail) = as.filterMap Arrival.decoded? ++ decoded tail := by
  induction as with
  | nil => rfl
  | cons a as ih =>
      obtain ⟨here, later⟩ := List.forall_mem_cons.mp quiet
      rw [encodeArrivals_cons, decoded_encode here, ih later, List.filterMap_cons]
      cases a.decoded? with
      | none => rfl
      | some d => rfl

/-! ## What is counted -/

def countOf (ds : List Decoded) (f : Fin numFingers) (k : Kind) : Nat :=
  ds.countP fun d => d.finger = f ∧ d.kind = k

def timesOf (ds : List Decoded) (f : Fin numFingers) : List Int :=
  (ds.filter fun d => d.finger = f ∧ d.kind = .timestamp).map fun d => d.values.headD 0

def SameTimes (f : Fin numFingers) (s t : Tracking) : Prop :=
  s.tsPrev f = t.tsPrev f ∧ s.tsDeltas f = t.tsDeltas f

/-- The tracker counts what the parser decodes from the packet, and takes its timestamps from there. -/
structure Tracks (packet : List UInt8) : Prop where
  counts : ∀ (p : TrackingParser) (f : Fin numFingers) (k : Kind),
    (p.parseSensorPacket packet).1.fieldCounts (k.sensorType, f) =
      p.fieldCounts (k.sensorType, f) + countOf (decodedOf packet) f k
  times : ∀ (p : TrackingParser) (f : Fin numFingers), ∃ times : List Int,
    times.Sublist (timesOf (decodedOf packet) f) ∧
      SameTimes f (p.parseSensorPacket packet).1.toTracking
        (times.foldl (fun s ts => s.accumulate f ts) p.toTracking)

def fieldsOf (packet : List UInt8) : List Arrival := (arrivals (packet.drop usbPacketHeaderSize)).1
def tailOf (packet : List UInt8) : List UInt8 := (arrivals (packet.drop usbPacketHeaderSize)).2

def trackedOf (packet : List UInt8) : List Decoded := (fieldsOf packet).filterMap Arrival.decoded?

theorem toTracking_parseSensorPacket (p : TrackingParser) (packet : List UInt8) :
    (p.parseSensorPacket packet).1.toTracking = (trackedOf packet).foldl Tracking.note p.toTracking := by
  obtain ⟨whole, stops⟩ := arrivals_spec (packet.drop usbPacketHeaderSize)
  rw [TrackingParser.parseSensorPacket]
  split_ifs with short
  · have nothing : packet.drop usbPacketHeaderSize = [] := List.drop_eq_nil_of_le (Nat.le_of_lt short)
    rw [trackedOf, fieldsOf, nothing, arrivals]
    rfl
  · exact scanFrom_arrivals _ whole.symm stops

theorem fieldCounts_note (s : Tracking) (d : Decoded) (f : Fin numFingers) (k : Kind) :
    (s.note d).fieldCounts (k.sensorType, f) =
      s.fieldCounts (k.sensorType, f) + if d.finger = f ∧ d.kind = k then 1 else 0 := by
  have counted : (s.note d).fieldCounts = (s.countField d.kind.sensorType d.finger).fieldCounts := by
    rw [Tracking.note]
    split_ifs <;> rfl
  rw [counted, Tracking.countField]
  by_cases same : d.finger = f ∧ d.kind = k
  · obtain ⟨rfl, rfl⟩ := same
    simp
  · have other : (k.sensorType, f.val) ≠ (d.kind.sensorType, d.finger.val) := by
      intro key
      obtain ⟨type, finger⟩ := Prod.mk.inj key
      exact same ⟨Fin.ext finger.symm, (Kind.sensorType_inj type).symm⟩
    rw [if_neg same]
    exact Function.update_of_ne other _ _

theorem fieldCounts_foldl (s : Tracking) (ds : List Decoded) (f : Fin numFingers) (k : Kind) :
    (ds.foldl Tracking.note s).fieldCounts (k.sensorType, f) =
      s.fieldCounts (k.sensorType, f) + countOf ds f k := by
  induction ds generalizing s with
  | nil => rfl
  | cons d ds ih =>
      rw [List.foldl_cons, ih, fieldCounts_note, countOf, countOf, List.countP_cons]
      simp only [decide_eq_true_iff]
      omega

theorem SameTimes.accumulate {f : Fin numFingers} {s t : Tracking} (same : SameTimes f s t) (ts : Int) :
    SameTimes f (s.accumulate f ts) (t.accumulate f ts) := by
  simp [SameTimes, Tracking.accumulate, same.1, same.2]

theorem sameTimes_note_of_not {f : Fin numFingers} {s t : Tracking} (same : SameTimes f s t) {d : Decoded}
    (other : ¬ (d.finger = f ∧ d.kind = .timestamp)) : SameTimes f (s.note d) t := by
  rw [Tracking.note]
  split_ifs with timestamp
  · have apart : f ≠ d.finger := fun here => other ⟨here.symm, timestamp⟩
    simpa [SameTimes, Tracking.accumulate, Tracking.countField, apart] using same
  · exact same

theorem sameTimes_foldl {f : Fin numFingers} {s t : Tracking} (same : SameTimes f s t) (ds : List Decoded) :
    SameTimes f (ds.foldl Tracking.note s) ((timesOf ds f).foldl (fun s ts => s.accumulate f ts) t) := by
  induction ds generalizing s t with
  | nil => exact same
  | cons d ds ih =>
      rw [List.foldl_cons, timesOf, List.filter_cons]
      by_cases here : d.finger = f ∧ d.kind = .timestamp
      · obtain ⟨rfl, timestamp⟩ := here
        have noted : SameTimes d.finger (s.note d) (t.accumulate d.finger (d.values.headD 0)) := by
          rw [Tracking.note, if_pos timestamp]
          exact SameTimes.accumulate (s := s.countField d.kind.sensorType d.finger) same _
        rw [if_pos (by simp [timestamp])]
        exact ih noted
      · rw [if_neg (by simpa using here)]
        exact ih (sameTimes_note_of_not same here)

theorem Tracks.countOf_eq {packet : List UInt8} (tracks : Tracks packet) (f : Fin numFingers) (k : Kind) :
    countOf (trackedOf packet) f k = countOf (decodedOf packet) f k := by
  have counted := tracks.counts ⟨.init, .init⟩ f k
  rw [toTracking_parseSensorPacket, fieldCounts_foldl] at counted
  exact Nat.add_left_cancel counted

theorem tracks_of_sublist {packet : List UInt8} (sublist : (trackedOf packet).Sublist (decodedOf packet))
    (same : ∀ f k, countOf (trackedOf packet) f k = countOf (decodedOf packet) f k) : Tracks packet where
  counts p f k := by rw [toTracking_parseSensorPacket, fieldCounts_foldl, same]
  times p f := by
    refine ⟨timesOf (trackedOf packet) f, (sublist.filter _).map _, ?_⟩
    rw [toTracking_parseSensorPacket]
    exact sameTimes_foldl ⟨rfl, rfl⟩ _

def Silent (tail : List UInt8) : Prop :=
  ∀ m ∈ tags tail, ∀ field ∈ field? m.1, m.2.length < field.2.size

instance (tail : List UInt8) : Decidable (Silent tail) := inferInstanceAs (Decidable (∀ m ∈ tags tail, _))

theorem silent_iff {tail : List UInt8} : Silent tail ↔ decoded tail = [] := by
  rw [decoded, List.filterMap_eq_nil_iff]
  exact forall₂_congr fun m _ => decode?_eq_none.symm

theorem decodedOf_eq {packet : List UInt8} (quiet : ∀ a ∈ fieldsOf packet, a.Quiet) :
    decodedOf packet = trackedOf packet ++ decoded (tailOf packet) := by
  rw [decodedOf, ← (arrivals_spec (packet.drop usbPacketHeaderSize)).1]
  exact decoded_arrivals quiet _

theorem tracks_iff_silent {packet : List UInt8} (quiet : ∀ a ∈ fieldsOf packet, a.Quiet) :
    Tracks packet ↔ Silent (tailOf packet) := by
  have both := decodedOf_eq quiet
  rw [silent_iff]
  constructor
  · intro tracks
    refine List.eq_nil_iff_forall_not_mem.mpr fun d among => ?_
    have counted := tracks.countOf_eq d.finger d.kind
    have some : 0 < countOf (decoded (tailOf packet)) d.finger d.kind :=
      List.countP_pos_iff.mpr ⟨d, among, by simp⟩
    rw [both, countOf, countOf, List.countP_append] at counted
    rw [countOf] at some
    omega
  · intro nothing
    rw [nothing, List.append_nil] at both
    exact tracks_of_sublist (by rw [both]) fun f k => by rw [both]

/-! ## Other packets with the same absent fields -/

def Arrival.absent (a : Arrival) : Bool := (finger? a.tag).isNone

def absentOf (packet : List UInt8) : List Arrival := (fieldsOf packet).filter Arrival.absent

def packetOf (as : List Arrival) (tail : List UInt8) : List UInt8 :=
  List.replicate usbPacketHeaderSize 0 ++ (encodeArrivals as ++ tail)

theorem payload_packetOf (as : List Arrival) (tail : List UInt8) :
    (packetOf as tail).drop usbPacketHeaderSize = encodeArrivals as ++ tail :=
  List.drop_left' List.length_replicate

theorem fieldsOf_packetOf (as : List Arrival) {tail : List UInt8} (stops : Stops tail) :
    fieldsOf (packetOf as tail) = as ∧ tailOf (packetOf as tail) = tail := by
  rw [fieldsOf, tailOf, payload_packetOf, arrivals_encodeArrivals as stops]
  exact ⟨rfl, rfl⟩

theorem decoded?_of_absent {a : Arrival} (away : a.absent) : a.decoded? = none := by
  rw [a.decoded?_eq, Option.isNone_iff_eq_none.mp away, Option.map_none]

theorem filterMap_decoded?_of_absent {as : List Arrival} (away : ∀ a ∈ as, a.absent) :
    as.filterMap Arrival.decoded? = [] :=
  List.filterMap_eq_nil_iff.mpr fun a ha => decoded?_of_absent (away a ha)

def staticTag (f : Fin numFingers) : UInt8 := sensorTypeStaticTactile ||| f.val.toUInt8 <<< 2

theorem staticTag_eq (f : Fin numFingers) :
    kind? (staticTag f) = some .staticTactile ∧ finger? (staticTag f) = some f := by
  revert f
  decide

def staticField (f : Fin numFingers) : Arrival :=
  ⟨staticTag f, .staticTactile, List.replicate 56 0x08, (staticTag_eq f).1, rfl⟩

theorem length_staticField (f : Fin numFingers) : (staticField f).encode.length = 57 := rfl

theorem finger?_staticField (f : Fin numFingers) : finger? (staticField f).tag = some f := (staticTag_eq f).2

theorem decoded?_staticField (f : Fin numFingers) :
    (staticField f).decoded? = some ⟨f, .staticTactile, Kind.staticTactile.valuesAt (List.replicate 56 0x08)⟩ := by
  rw [Arrival.decoded?_eq, finger?_staticField]
  rfl

theorem absent_staticField (f : Fin numFingers) : (staticField f).absent = false := by
  rw [Arrival.absent, finger?_staticField]
  rfl

theorem decoded_idle (count : Nat) (rest : List UInt8) :
    decoded (List.replicate count 0x08 ++ rest) = decoded rest := by
  induction count with
  | zero => rfl
  | succ count ih =>
      have stays : fieldSize 0x08 (List.replicate count 0x08 ++ rest) = 0 := rfl
      rw [List.replicate_succ, List.cons_append, decoded_cons, stays, List.drop_zero, ih]
      rfl

theorem decoded_of_not_quiet {a : Arrival} (away : a.absent) (loud : ¬ a.Quiet) :
    ∃ m : UInt8 × List UInt8, ¬ Passed m ∧ ∀ rest, decoded (a.encode ++ rest) = decoded (m.1 :: (m.2 ++ rest)) := by
  have addressed : finger? a.tag = none := Option.isNone_iff_eq_none.mp away
  have stops : ∃ m ∈ met fieldSize a.value, ¬ Passed m := by
    by_contra all
    exact loud fun _ m hm => by_contra fun stopped => all ⟨m, hm, stopped⟩
  obtain ⟨before, m, passes, stopped, split⟩ := met_append_of_not fieldSize_of_passed stops
  refine ⟨m, stopped, fun rest => ?_⟩
  have stays : fieldSize a.tag (a.value ++ rest) = 0 := by rw [fieldSize, addressed]
  have absent : decode? a.tag (a.value ++ rest) = none := by
    rw [a.decode?_append, decoded?_of_absent away]
  rw [Arrival.encode, List.cons_append, decoded_cons, absent, stays, List.drop_zero, Option.toList_none,
    List.nil_append, decoded, tags, split rest, List.filterMap_append, filterMap_decode?_of_passed passes]
  rfl

theorem decoded_magnetometer {m : UInt8 × List UInt8} (magnetometer : magnetometerTag m.1)
    (short : m.2.length < 2 * imuSize) (f : Fin numFingers) (rest : List UInt8) :
    decoded (m.1 :: (m.2 ++ ((staticField f).encode ++ rest))) = decoded rest := by
  obtain ⟨there, type⟩ := magnetometer
  obtain ⟨finger, addressed⟩ := Option.ne_none_iff_exists'.mp there
  have unknown : field? m.1 = none := by
    have noKind : kind? m.1 = none := by rw [kind?, type]; rfl
    rw [field?, addressed, noKind]
    rfl
  have six : fieldSize m.1 (m.2 ++ ((staticField f).encode ++ rest)) = 2 * imuSize := by
    have takes : taken sensorTypeMagnetometer (m.2 ++ ((staticField f).encode ++ rest)) =
        min (m.2 ++ ((staticField f).encode ++ rest)).length (2 * imuSize) := rfl
    rw [fieldSize, addressed]
    simp only [type, takes, List.length_append, length_staticField, imuSize]
    omega
  obtain ⟨more, six_eq⟩ := Nat.exists_eq_add_of_lt short
  have left : (m.2 ++ ((staticField f).encode ++ rest)).drop (2 * imuSize) =
      List.replicate (56 - more) 0x08 ++ rest := by
    have fits : more ≤ (List.replicate 56 (0x08 : UInt8)).length := by
      rw [List.length_replicate]
      rw [imuSize] at six_eq
      omega
    have behind : (staticField f).encode ++ rest = staticTag f :: (List.replicate 56 0x08 ++ rest) := rfl
    rw [six_eq, Nat.add_assoc, ← List.drop_drop, List.drop_left, behind, List.drop_succ_cons,
      List.drop_append_of_le_length fits, List.drop_replicate]
  rw [decoded_cons, decode?, unknown, six, left, decoded_idle]
  rfl

section
variable {before after : List Arrival} {a : Arrival} {tail : List UInt8}

def between (before : List Arrival) (a : Arrival) (after : List Arrival) (f : Fin numFingers) : List Arrival :=
  before ++ a :: staticField f :: after

theorem absent_between (away : ∀ b ∈ before ++ a :: after, b.absent) (f : Fin numFingers) :
    (between before a after f).filter Arrival.absent = before ++ a :: after := by
  obtain ⟨first, others⟩ := List.forall_mem_append.mp away
  obtain ⟨here, last⟩ := List.forall_mem_cons.mp others
  have present : ¬ (staticField f).absent = true := by rw [absent_staticField]; exact Bool.false_ne_true
  rw [between, List.filter_append, List.filter_cons_of_pos here, List.filter_cons_of_neg present,
    List.filter_eq_self.mpr first, List.filter_eq_self.mpr last]

theorem tracked_between (away : ∀ b ∈ before ++ a :: after, b.absent) (f : Fin numFingers) :
    (between before a after f).filterMap Arrival.decoded? =
      [⟨f, .staticTactile, Kind.staticTactile.valuesAt (List.replicate 56 0x08)⟩] := by
  obtain ⟨first, others⟩ := List.forall_mem_append.mp away
  obtain ⟨here, last⟩ := List.forall_mem_cons.mp others
  rw [between, List.filterMap_append, filterMap_decoded?_of_absent first, List.filterMap_cons,
    decoded?_of_absent here, List.filterMap_cons, decoded?_staticField, filterMap_decoded?_of_absent last]
  rfl

theorem decoded_between (away : ∀ b ∈ before ++ a :: after, b.absent) (quiet : ∀ b ∈ before, b.Quiet)
    {m : UInt8 × List UInt8} (leaves : ∀ rest, decoded (a.encode ++ rest) = decoded (m.1 :: (m.2 ++ rest)))
    (f : Fin numFingers) :
    decoded (encodeArrivals (between before a after f) ++ tail) =
      decoded (m.1 :: (m.2 ++ ((staticField f).encode ++ (encodeArrivals after ++ tail)))) := by
  obtain ⟨first, -⟩ := List.forall_mem_append.mp away
  have bytes : encodeArrivals (between before a after f) ++ tail =
      encodeArrivals before ++
        (a.encode ++ ((staticField f).encode ++ (encodeArrivals after ++ tail))) := by
    simp [between, encodeArrivals]
  rw [bytes, decoded_arrivals quiet, filterMap_decoded?_of_absent first, List.nil_append, leaves]

theorem quiet_of_counts (away : ∀ b ∈ before ++ a :: after, b.absent) (quiet : ∀ b ∈ before, b.Quiet)
    (counts : ∀ g f k, countOf ((between before a after g).filterMap Arrival.decoded?) f k =
      countOf (decoded (encodeArrivals (between before a after g) ++ tail)) f k) : a.Quiet := by
  by_contra loud
  have here : a.absent := away a (List.mem_append_right before List.mem_cons_self)
  obtain ⟨m, stopped, leaves⟩ := decoded_of_not_quiet here loud
  have shown : ∀ g f k, countOf [⟨g, .staticTactile, Kind.staticTactile.valuesAt (List.replicate 56 0x08)⟩] f k =
      countOf (decoded (m.1 :: (m.2 ++ ((staticField g).encode ++ (encodeArrivals after ++ tail))))) f k := by
    intro g f k
    rw [← tracked_between away, counts g f k, decoded_between away quiet leaves]
  cases field : field? m.1 with
  | some known =>
      obtain ⟨f, k⟩ := known
      have apart : ∀ f : Fin numFingers, ∃ g, g ≠ f := by decide
      obtain ⟨g, other⟩ := apart f
      have small : k.size ≤ 56 := by cases k <;> decide
      have whole : k.size ≤ (m.2 ++ ((staticField g).encode ++ (encodeArrivals after ++ tail))).length := by
        rw [List.length_append, List.length_append, length_staticField]
        omega
      have counted := shown g f k
      rw [decoded_cons, decode?_of_field? field whole] at counted
      simp [countOf, other] at counted
  | none =>
      have magnetometer : magnetometerTag m.1 ∧ m.2.length < 2 * imuSize := by
        by_contra neither
        exact stopped ⟨field, fun tag => Nat.le_of_not_lt fun short => neither ⟨tag, short⟩⟩
      have first := shown 0 0 .staticTactile
      have second := shown 1 0 .staticTactile
      rw [decoded_magnetometer magnetometer.1 magnetometer.2] at first second
      exact absurd (first.trans second.symm) (by decide)

end

/-- The absent fields do not mislead the parser, and it comes to no complete field in the tail. -/
structure Aligned (packet : List UInt8) : Prop where
  quiet : ∀ a ∈ fieldsOf packet, a.Quiet
  silent : Silent (tailOf packet)

theorem quiet_iff_absentOf {packet : List UInt8} :
    (∀ a ∈ fieldsOf packet, a.Quiet) ↔ ∀ a ∈ absentOf packet, a.Quiet := by
  constructor
  · exact fun quiet a ha => quiet a (List.mem_filter.mp ha).1
  · intro quiet a ha away
    exact quiet a (List.mem_filter.mpr ⟨ha, by rw [Arrival.absent, away]; rfl⟩) away

theorem quiet_of_all {packet : List UInt8}
    (all : ∀ other, absentOf other = absentOf packet → tailOf other = tailOf packet → Tracks other) :
    ∀ a ∈ fieldsOf packet, a.Quiet := by
  have stops : Stops (tailOf packet) := (arrivals_spec _).2
  have away : ∀ a ∈ absentOf packet, a.absent := fun a ha => (List.mem_filter.mp ha).2
  -- one absent field after the other, where those before it are quiet
  have upTo : ∀ before after, absentOf packet = before ++ after → ∀ b ∈ before, b.Quiet := by
    intro before
    induction before using List.reverseRecOn with
    | nil => exact fun _ _ => nofun
    | append_singleton before a ih =>
        intro after split
        rw [List.append_assoc, List.singleton_append] at split
        have quiet := ih (a :: after) split
        rw [split] at away
        refine List.forall_mem_append.mpr ⟨quiet, List.forall_mem_singleton.mpr ?_⟩
        have counts : ∀ g f k, countOf ((between before a after g).filterMap Arrival.decoded?) f k =
            countOf (decoded (encodeArrivals (between before a after g) ++ tailOf packet)) f k := by
          intro g f k
          obtain ⟨fields, tail⟩ := fieldsOf_packetOf (between before a after g) stops
          have absent : absentOf (packetOf (between before a after g) (tailOf packet)) = absentOf packet := by
            rw [absentOf, fields, absent_between away, split]
          have counted := (all _ absent tail).countOf_eq f k
          rwa [trackedOf, fields, decodedOf, payload_packetOf] at counted
        exact quiet_of_counts away quiet counts
  exact quiet_iff_absentOf.mpr (upTo _ [] (List.append_nil _).symm)

theorem tracks_of_aligned {packet : List UInt8} (aligned : Aligned packet) : Tracks packet :=
  (tracks_iff_silent aligned.quiet).mpr aligned.silent

theorem snapshot_fieldCounts (p : TrackingParser) {packets : List (List UInt8)}
    (aligned : ∀ packet ∈ packets, Aligned packet) (f : Fin numFingers) (k : Kind) :
    ((packets.foldl (fun p packet => (p.parseSensorPacket packet).1)
        p.snapshotAndReset.1).snapshotAndReset.2.1 (k.sensorType, f)) =
      countOf (packets.flatMap decodedOf) f k := by
  have counted : ∀ q : TrackingParser,
      (packets.foldl (fun p packet => (p.parseSensorPacket packet).1) q).fieldCounts (k.sensorType, f) =
        q.fieldCounts (k.sensorType, f) + countOf (packets.flatMap decodedOf) f k := by
    induction packets with
    | nil => exact fun _ => rfl
    | cons packet packets ih =>
        intro q
        obtain ⟨here, later⟩ := List.forall_mem_cons.mp aligned
        rw [List.foldl_cons, ih later, (tracks_of_aligned here).counts, List.flatMap_cons, countOf, countOf,
          countOf, List.countP_append, Nat.add_assoc]
  exact (counted p.snapshotAndReset.1).trans (Nat.zero_add _)

/-- Where no absent field misleads the parser, the tracker counts what is decoded if and only if nothing is
decoded in the tail. An absent field that does spoils it in some packet with the same absent fields and tail. -/
theorem tracks_iff_aligned (packet : List UInt8) :
    (Aligned packet → Tracks packet) ∧
      ((∀ a ∈ fieldsOf packet, a.Quiet) → (Tracks packet ↔ Aligned packet)) ∧
      ((∀ other, absentOf other = absentOf packet → tailOf other = tailOf packet → Tracks other) ↔
        Aligned packet) := by
  refine ⟨tracks_of_aligned, fun quiet => ?_, ?_⟩
  · rw [tracks_iff_silent quiet]
    exact ⟨fun silent => ⟨quiet, silent⟩, fun aligned => aligned.silent⟩
  · constructor
    · intro all
      have quiet := quiet_of_all all
      exact ⟨quiet, (tracks_iff_silent quiet).mp (all packet rfl rfl)⟩
    · intro aligned other absent tail
      have quiet : ∀ a ∈ fieldsOf other, a.Quiet := by
        rw [quiet_iff_absentOf, absent, ← quiet_iff_absentOf]
        exact aligned.quiet
      exact (tracks_iff_silent quiet).mpr (tail ▸ aligned.silent)

def someArrivals : List Arrival :=
  [staticField ⟨1, Nat.one_lt_two⟩, ⟨0x28, .dynamicTactile, [0x08, 0x0C], rfl, rfl⟩]

theorem tracks_iff_aligned_someArrivals : Tracks (packetOf someArrivals [0x20, 0x7F]) := by
  refine (tracks_iff_aligned (packetOf someArrivals [0x20, 0x7F])).1 ?_
  -- a dynamic tactile field that is cut off
  have stops : Stops [0x20, 0x7F] := by
    intro tag rest kind same known
    cases same
    cases known
    decide
  obtain ⟨fields, tail⟩ := fieldsOf_packetOf someArrivals stops
  constructor
  · rw [fields]
    decide +kernel
  · rw [tail]
    decide +kernel

def magnetometerFirst : List UInt8 :=
  [0x9A, 0x00, 0x58, 0x0A, 0x50, 0x00, 0x01, 0x00, 0x02, 0x00, 0x03, 0x20, 0x01, 0x02]

theorem magnetometerFirst_not_tracked : ¬ Tracks magnetometerFirst := by
  have stops : Stops (magnetometerFirst.drop usbPacketHeaderSize) := by
    intro tag rest kind same known
    cases same
    cases known
  have nothing : trackedOf magnetometerFirst = [] := by
    rw [trackedOf, fieldsOf, arrivals_of_stops stops]
    rfl
  intro tracks
  have counted := tracks.countOf_eq 0 .dynamicTactile
  rw [nothing] at counted
  revert counted
  decide +kernel

end TactileSensors.Usb.Quickstart
