import TactileSensors.Usb.Agreement
import Mathlib.Data.List.Induction

/-!
# What the firmware encodes

The fields of a packet as the sensor means them, and that both parsers read them back.
-/

namespace TactileSensors.Usb
open Bytes

inductive Content
  | staticTactile (taxels : Vector UInt16 28)
  | dynamicTactile (value : Int16)
  | accelerometer (axes : Vector Int16 3)
  | gyroscope (axes : Vector Int16 3)
  | temperature (value : Int16)
  | timestamp (value : UInt64)
deriving DecidableEq

namespace Content

def kind : Content → Kind
  | staticTactile _ => .staticTactile
  | dynamicTactile _ => .dynamicTactile
  | accelerometer _ => .accelerometer
  | gyroscope _ => .gyroscope
  | temperature _ => .temperature
  | timestamp _ => .timestamp

def values : Content → List Int
  | staticTactile taxels => taxels.toList.map fun taxel => (taxel.toNat : Int)
  | accelerometer axes | gyroscope axes => axes.toList.map (·.toInt)
  | dynamicTactile value | temperature value => [value.toInt]
  | timestamp value => [(value.toNat : Int)]

def numbers : Content → List Nat
  | staticTactile taxels => taxels.toList.map (·.toNat)
  | accelerometer axes | gyroscope axes => axes.toList.map (·.toUInt16.toNat)
  | dynamicTactile value | temperature value => [value.toUInt16.toNat]
  | timestamp value => [value.toNat]

theorem length_numbers (content : Content) : content.numbers.length = content.kind.count := by
  cases content <;> simp [numbers, kind, Kind.count, staticTactileSize, imuSize]

theorem numbers_small (content : Content) : ∀ n ∈ content.numbers, n < 256 ^ content.kind.width := by
  cases content with
  | staticTactile taxels =>
      intro n hn
      obtain ⟨taxel, -, rfl⟩ := List.mem_map.mp hn
      exact taxel.toNat_lt
  | accelerometer axes | gyroscope axes =>
      intro n hn
      obtain ⟨axis, -, rfl⟩ := List.mem_map.mp hn
      exact axis.toUInt16.toNat_lt
  | dynamicTactile value | temperature value =>
      intro n hn
      rw [List.mem_singleton.mp hn]
      exact value.toUInt16.toNat_lt
  | timestamp value =>
      intro n hn
      rw [List.mem_singleton.mp hn]
      exact value.toNat_lt

theorem meaning_toUInt16 (value : Int16) : Kind.temperature.meaning value.toUInt16.toNat = value.toInt :=
  (toInt_toInt16 value.toUInt16).symm

theorem map_meaning_numbers (content : Content) :
    content.numbers.map content.kind.meaning = content.values := by
  cases content with
  | staticTactile taxels => exact List.map_map
  | accelerometer axes | gyroscope axes =>
      exact List.map_map.trans (List.map_congr_left fun axis _ => meaning_toUInt16 axis)
  | dynamicTactile value | temperature value => exact congrArg ([·]) (meaning_toUInt16 value)
  | timestamp value => rfl

def encode (content : Content) : List UInt8 := ofWords content.kind.width content.numbers

theorem length_encode (content : Content) : content.encode.length = content.kind.size := by
  rw [encode, length_ofWords, length_numbers, Kind.size, Nat.mul_comm]

theorem valuesAt_encode (content : Content) (rest : List UInt8) :
    content.kind.valuesAt (content.encode ++ rest) = content.values := by
  rw [Kind.valuesAt, ← content.length_encode, List.take_left, encode,
    words_ofWords content.kind.width_pos content.numbers_small, map_meaning_numbers]

end Content

/-- A field of a packet. Nobody reads its index. -/
structure Field where
  finger : Fin numFingers
  index : Fin 4
  content : Content
deriving DecidableEq

namespace Field

def kind (field : Field) : Kind := field.content.kind

def tag (field : Field) : UInt8 :=
  field.kind.sensorType ||| field.finger.val.toUInt8 <<< 2 ||| field.index.val.toUInt8

def encode (field : Field) : List UInt8 := field.tag :: field.content.encode

theorem field?_tag (field : Field) : field? field.tag = some (field.finger, field.kind) := by
  have all : ∀ (kind : Kind) (finger : Fin numFingers) (index : Fin 4),
      field? (kind.sensorType ||| finger.val.toUInt8 <<< 2 ||| index.val.toUInt8) =
        some (finger, kind) := by
    intro kind
    cases kind <;> decide
  exact all field.kind field.finger field.index

end Field

def encodeFields (fields : List Field) : List UInt8 := fields.flatMap Field.encode

theorem fieldSize_encode (field : Field) (rest : List UInt8) :
    fieldSize field.tag (field.content.encode ++ rest) = field.content.encode.length := by
  have whole : field.kind.size ≤ (field.content.encode ++ rest).length := by
    rw [List.length_append, field.content.length_encode]
    exact Nat.le_add_right _ _
  rw [fieldSize_eq _ field.field?_tag, taken_kind whole, field.content.length_encode]
  rfl

theorem mem_tags_encodeFields {fields : List Field} {m : UInt8 × List UInt8}
    (hm : m ∈ tags (encodeFields fields)) :
    ∃ field ∈ fields, m.1 = field.tag ∧ field.kind.size ≤ m.2.length := by
  induction fields with
  | nil => cases hm
  | cons field fields ih =>
      rw [encodeFields, List.flatMap_cons, Field.encode, tags,
        Scan.met_field (fieldSize_encode field _), List.mem_cons] at hm
      rcases hm with rfl | later
      · refine ⟨field, List.mem_cons_self, rfl, ?_⟩
        rw [List.length_append, field.content.length_encode]
        exact Nat.le_add_right _ _
      · obtain ⟨field', hfield, rest⟩ := ih later
        exact ⟨field', List.mem_cons_of_mem _ hfield, rest⟩

def lastField (fields : List Field) (f : Fin numFingers) (k : Kind) : Option Field :=
  fields.reverse.find? fun field => field.finger == f && field.kind == k

def Observed.readField (observed : Observed) (field : Field) : Observed :=
  (observed.address field.finger).put field.finger field.kind field.content.values

theorem readAll_encodeFields (observed : Observed) (fields : List Field) :
    observed.readAll (encodeFields fields) = fields.foldl Observed.readField observed := by
  induction fields generalizing observed with
  | nil => rfl
  | cons field fields ih =>
      have whole : field.kind.size ≤ (field.content.encode ++ encodeFields fields).length := by
        rw [List.length_append, field.content.length_encode]
        exact Nat.le_add_right _ _
      have read : observed.read field.tag (field.content.encode ++ encodeFields fields) =
          observed.readField field := by
        rw [Observed.read, field.field?_tag]
        simp only [if_pos whole, Observed.readField]
        rw [Field.kind, field.content.valuesAt_encode]
      rw [encodeFields, List.flatMap_cons, Field.encode, List.cons_append, Observed.readAll_cons,
        fieldSize_encode, List.drop_left, List.foldl_cons, ← read]
      exact ih _

theorem foldl_readField_values (observed : Observed) (fields : List Field) (f : Fin numFingers)
    (k : Kind) :
    (fields.foldl Observed.readField observed).values f k =
      ((lastField fields f k).map (·.content.values)).getD (observed.values f k) := by
  induction fields using List.reverseRecOn with
  | nil => rfl
  | append_singleton fields field ih =>
      rw [List.foldl_concat, lastField, List.reverse_concat, List.find?_cons]
      by_cases here : field.finger = f ∧ field.kind = k
      · obtain ⟨rfl, rfl⟩ := here
        simp [Observed.readField, Observed.put]
      · have other : ¬ ((f, k) = (field.finger, field.kind)) := by
          rintro ⟨⟩
          exact here ⟨rfl, rfl⟩
        have skips : (field.finger == f && field.kind == k) = false := by
          simpa using here
        rw [skips, Observed.readField, Observed.put]
        simp only [if_neg other]
        exact ih

theorem foldl_readField_isNew (observed : Observed) (fields : List Field) (f : Fin numFingers) :
    (fields.foldl Observed.readField observed).isNew f =
      (fields.any (·.finger == f) || observed.isNew f) := by
  induction fields generalizing observed with
  | nil => simp
  | cons field fields ih =>
      rw [List.foldl_cons, ih, List.any_cons]
      simp only [Observed.readField, Observed.put, Observed.address]
      rw [Bool.or_left_comm, Bool.or_assoc, Bool.beq_comm]

/-- Each finger and kind has its last occurrence or what it had before, and new data is flagged for
exactly the fingers that are mentioned. -/
structure ReadBack (fields : List Field) (before after : Observed) : Prop where
  values : ∀ f k, after.values f k =
    ((lastField fields f k).map (·.content.values)).getD (before.values f k)
  isNew : ∀ f, after.isNew f = fields.any (·.finger == f)

theorem not_magnetometerTag (field : Field) : ¬ magnetometerTag field.tag := by
  rintro ⟨-, type⟩
  have known := (field?_eq_some (finger?_of_field? field.field?_tag)).mp field.field?_tag
  rw [type] at known
  cases known

theorem parsers_read_back (fields : List Field) (packet : UsbPacket)
    (holds : packet.payload = encodeFields fields) (python : Quickstart.Fingers) (cpp : Sdk.Fingers)
    (pythonClear : ∀ f, (Quickstart.observe python).isNew f = false)
    (cppClear : ∀ f, (Sdk.observe cpp).isNew f = false) :
    ReadBack fields (Quickstart.observe python)
        (Quickstart.observe (Quickstart.parseSensorPacket python packet.contents).1) ∧
      (∀ f : Fin numFingers, ((Quickstart.parseSensorPacket python packet.contents).1.get f).magnetometer =
        (python.get f).magnetometer) ∧
      ReadBack fields (Sdk.observe cpp) (Sdk.observe (Sdk.parseSensors packet cpp)) := by
  have known : ∀ m ∈ tags (encodeFields fields), ¬ magnetometerTag m.1 := by
    intro m hm
    obtain ⟨field, -, tag, -⟩ := mem_tags_encodeFields hm
    rw [tag]
    exact not_magnetometerTag field
  have complete : ∀ m ∈ tags (encodeFields fields), ∀ f k, field? m.1 = some (f, k) →
      k.size ≤ m.2.length := by
    intro m hm f k read
    obtain ⟨field, -, tag, whole⟩ := mem_tags_encodeFields hm
    rw [tag, field.field?_tag] at read
    obtain ⟨-, rfl⟩ := Prod.mk.inj (Option.some.inj read)
    exact whole
  have kept : ∀ f k, ∀ m ∈ tags (encodeFields fields), ¬ (field? m.1 = some (f, k) ∧ k.cutOff m.2) :=
    fun f k m hm ⟨read, _, short⟩ => Nat.not_lt_of_le (complete m hm f k read) short
  have even : ∀ m ∈ tags (encodeFields fields), ¬ cutsNumber m.1 m.2 :=
    fun m hm ⟨(f, k), read, _, short, _⟩ => Nat.not_lt_of_le (complete m hm f k read) short
  have passes : PassesOver packet.payload := by
    rw [holds]
    exact fun m hm magnetometer => absurd magnetometer (known m hm)
  rw [parseSensorPacket_contents]
  refine ⟨⟨fun f k => ?_, fun f => ?_⟩, ?_, ⟨fun f k => ?_, fun f => ?_⟩⟩
  · rw [holds, Quickstart.parseFrom_values _ python f k (kept f k), readAll_encodeFields,
      foldl_readField_values]
  · have answers : ¬ unknownOnly (encodeFields fields) f := by
      rintro ⟨⟨m, hm, addressed⟩, unknown⟩
      obtain ⟨field, -, tag, -⟩ := mem_tags_encodeFields hm
      rw [tag, finger?_of_field? field.field?_tag] at addressed
      rw [← Option.some.inj addressed] at unknown
      exact unknown m hm field.kind (by rw [tag, field.field?_tag])
    rw [holds, Quickstart.parseFrom_isNew_of_known _ python answers, readAll_encodeFields,
      foldl_readField_isNew, pythonClear, Bool.or_false]
  · intro f
    rw [holds, Quickstart.parseFrom_magnetometer _ python known f]
  · rw [Sdk.parseSensors_values passes, holds, Sdk.foldl_readTag_values (kept f k) rfl,
      ← foldl_readField_values, ← readAll_encodeFields, Observed.readAll]
  · rw [Sdk.parseSensors_named passes, holds, leftOver_eq_nil even, List.any_nil, Bool.false_or,
      ← Observed.readAll_isNew, readAll_encodeFields, foldl_readField_isNew, cppClear, Bool.or_false]

def repeatedFields : List Field :=
  [⟨1, 3, .dynamicTactile (-2)⟩, ⟨0, 0, .accelerometer #v[1, -1, 1000]⟩, ⟨1, 0, .dynamicTactile 7⟩]

theorem repeated_fields_read_back :
    (Sdk.observe (Sdk.parseSensors (sensorPacket (encodeFields repeatedFields) (by decide)) .init)).values
        1 .dynamicTactile = [7] :=
  ((parsers_read_back repeatedFields (sensorPacket (encodeFields repeatedFields) (by decide)) (by decide)
    .init .init sameStart_init.pythonClear sameStart_init.cppClear).2.2.values 1 .dynamicTactile).trans
    (by decide)

end TactileSensors.Usb
