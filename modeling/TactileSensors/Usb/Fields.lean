import TactileSensors.Bytes.BigEndian
import TactileSensors.Scan.Walk

/-!
# Fields of a sensor packet

A field is a tag byte (type in the high nibble, finger in bits 2 and 3, an index in the low two) and
big-endian numbers. What a payload says is a fold over the tags that are met in it, each complete
field replacing the values of its finger and kind.
-/

namespace TactileSensors.Usb
open Bytes

def sensorTypeStaticTactile : UInt8 := 0x10
def sensorTypeDynamicTactile : UInt8 := 0x20
def sensorTypeAccelerometer : UInt8 := 0x30
def sensorTypeGyroscope : UInt8 := 0x40
def sensorTypeMagnetometer : UInt8 := 0x50
def sensorTypeTemperature : UInt8 := 0x60
def sensorTypeTimestamp : UInt8 := 0x70

def staticTactileSize : Nat := 28
def dynamicTactileSize : Nat := 1
def imuSize : Nat := 3
abbrev numFingers : Nat := 2

inductive Kind
  | staticTactile
  | dynamicTactile
  | accelerometer
  | gyroscope
  | temperature
  | timestamp
deriving DecidableEq, Repr

namespace Kind

def sensorType : Kind → UInt8
  | staticTactile => sensorTypeStaticTactile
  | dynamicTactile => sensorTypeDynamicTactile
  | accelerometer => sensorTypeAccelerometer
  | gyroscope => sensorTypeGyroscope
  | temperature => sensorTypeTemperature
  | timestamp => sensorTypeTimestamp

def ofType (sensorType : UInt8) : Option Kind :=
  [staticTactile, dynamicTactile, accelerometer, gyroscope, temperature, timestamp].find?
    (·.sensorType == sensorType)

def width : Kind → Nat
  | timestamp => 8
  | _ => 2

def count : Kind → Nat
  | staticTactile => staticTactileSize
  | accelerometer | gyroscope => imuSize
  | dynamicTactile | temperature | timestamp => 1

def size (kind : Kind) : Nat := kind.width * kind.count

def meaning : Kind → Nat → Int
  | staticTactile, n | timestamp, n => n
  | _, n => if 32768 ≤ n then n - 65536 else n

def valuesAt (kind : Kind) (rest : List UInt8) : List Int :=
  (words kind.width (rest.take kind.size)).map kind.meaning

theorem ofType_sensorType (kind : Kind) : ofType kind.sensorType = some kind := by
  cases kind <;> rfl

theorem ofType_eq_some {sensorType : UInt8} {kind : Kind} (h : ofType sensorType = some kind) :
    sensorType = kind.sensorType := by
  have found := List.find?_some h
  exact (eq_of_beq found).symm

theorem ne_of_ofType_none {sensorType : UInt8} (h : ofType sensorType = none) (kind : Kind) :
    sensorType ≠ kind.sensorType := by
  rintro rfl
  rw [ofType_sensorType] at h
  cases h

theorem ofType_eq_none {sensorType : UInt8} (h : ofType sensorType = none) :
    sensorType ≠ sensorTypeStaticTactile ∧ sensorType ≠ sensorTypeDynamicTactile ∧
      sensorType ≠ sensorTypeAccelerometer ∧ sensorType ≠ sensorTypeGyroscope ∧
      sensorType ≠ sensorTypeTemperature ∧ sensorType ≠ sensorTypeTimestamp :=
  ⟨ne_of_ofType_none h .staticTactile, ne_of_ofType_none h .dynamicTactile,
    ne_of_ofType_none h .accelerometer, ne_of_ofType_none h .gyroscope,
    ne_of_ofType_none h .temperature, ne_of_ofType_none h .timestamp⟩

def spliced (values old : List Int) : List Int := values ++ old.drop values.length

@[simp] theorem spliced_nil (old : List Int) : spliced [] old = old := rfl

theorem width_pos (kind : Kind) : 0 < kind.width := by
  cases kind <;> decide

theorem width_of_ne {kind : Kind} (other : kind ≠ timestamp) : kind.width = 2 := by
  cases kind <;> first | rfl | exact absurd rfl other

def cutOff (kind : Kind) (rest : List UInt8) : Prop :=
  1 < kind.count ∧ rest.length < kind.size

instance (kind : Kind) (rest : List UInt8) : Decidable (kind.cutOff rest) :=
  inferInstanceAs (Decidable (_ ∧ _))

theorem length_valuesAt {kind : Kind} {rest : List UInt8} (whole : kind.size ≤ rest.length) :
    (kind.valuesAt rest).length = kind.count := by
  rw [valuesAt, List.length_map, length_words, List.length_take_of_le whole, size,
    Nat.mul_div_cancel_left _ kind.width_pos]

@[simp] theorem valuesAt_nil (kind : Kind) : kind.valuesAt [] = [] := by
  cases kind <;> rfl

theorem length_valuesAt_lt {kind : Kind} {rest : List UInt8} (cut : kind.cutOff rest) :
    (kind.valuesAt rest).length < kind.count := by
  rw [valuesAt, List.length_map, length_words, List.length_take,
    Nat.min_eq_right (Nat.le_of_lt cut.2)]
  exact Nat.div_lt_of_lt_mul cut.2

theorem size_le_width {kind : Kind} (single : kind.count ≤ 1) : kind.size ≤ kind.width := by
  simpa [Kind.size] using Nat.mul_le_mul_left kind.width single

theorem valuesAt_short {kind : Kind} {rest : List UInt8} (single : kind.count ≤ 1)
    (short : rest.length < kind.size) : kind.valuesAt rest = [] := by
  have size := size_le_width single
  have none : (rest.take kind.size).length / kind.width = 0 := by
    rw [List.length_take, Nat.div_eq_zero_iff]
    omega
  rw [valuesAt, words, none]
  rfl

/-- But for an array that is cut off, the values replace all the old ones, or there are none. -/
theorem spliced_valuesAt {kind : Kind} {rest : List UInt8} {old : List Int}
    (kept : ¬ kind.cutOff rest) (full : old.length = kind.count) :
    spliced (kind.valuesAt rest) old = if kind.size ≤ rest.length then kind.valuesAt rest else old := by
  by_cases whole : kind.size ≤ rest.length
  · rw [if_pos whole, spliced, length_valuesAt whole, ← full, List.drop_length, List.append_nil]
  · have short : rest.length < kind.size := Nat.lt_of_not_le whole
    have single : kind.count ≤ 1 := Nat.le_of_not_lt fun many => kept ⟨many, short⟩
    rw [if_neg whole, valuesAt_short single short, spliced_nil]

end Kind

def sensorTypeOf (tag : UInt8) : UInt8 := tag &&& 0xF0
def fingerIdOf (tag : UInt8) : Nat := (tag >>> 2 &&& 0x03).toNat

def finger? (tag : UInt8) : Option (Fin numFingers) :=
  if h : fingerIdOf tag < numFingers then some ⟨fingerIdOf tag, h⟩ else none

theorem finger?_eq_some {tag : UInt8} {f : Fin numFingers} :
    finger? tag = some f ↔ ∃ h : fingerIdOf tag < numFingers, ⟨fingerIdOf tag, h⟩ = f := by
  rw [finger?]
  by_cases h : fingerIdOf tag < numFingers
  · rw [dif_pos h, Option.some.injEq]
    exact ⟨fun same => ⟨h, same⟩, fun ⟨_, same⟩ => same⟩
  · rw [dif_neg h]
    exact iff_of_false nofun fun ⟨inside, _⟩ => h inside

theorem finger?_eq_none {tag : UInt8} : finger? tag = none ↔ ¬ fingerIdOf tag < numFingers := by
  rw [finger?]
  by_cases h : fingerIdOf tag < numFingers
  · rw [dif_pos h]
    exact iff_of_false nofun fun outside => outside h
  · rw [dif_neg h]
    exact iff_of_true rfl h

def kind? (tag : UInt8) : Option Kind := Kind.ofType (sensorTypeOf tag)

@[simp] theorem get_set_self {α : Type} (fingers : Vector α numFingers) (f : Fin numFingers)
    (finger : α) : (fingers.set f finger).get f = finger :=
  Vector.getElem_set_self f.isLt

theorem get_set_ne {α : Type} (fingers : Vector α numFingers) {f g : Fin numFingers} (finger : α)
    (apart : f ≠ g) : (fingers.set f finger).get g = fingers.get g :=
  Vector.getElem_set_ne f.isLt g.isLt fun same => apart (Fin.ext same)

def field? (tag : UInt8) : Option (Fin numFingers × Kind) :=
  (finger? tag).bind fun finger => (kind? tag).map (finger, ·)

theorem field?_eq_some {tag : UInt8} {f : Fin numFingers} {k : Kind} (addressed : finger? tag = some f) :
    field? tag = some (f, k) ↔ Kind.ofType (sensorTypeOf tag) = some k := by
  simp [field?, kind?, addressed]

theorem finger?_of_field? {tag : UInt8} {f : Fin numFingers} {k : Kind}
    (field : field? tag = some (f, k)) : finger? tag = some f := by
  obtain ⟨finger, addressed, h⟩ := Option.bind_eq_some_iff.mp field
  obtain ⟨kind, -, same⟩ := Option.map_eq_some_iff.mp h
  rw [addressed, (Prod.mk.inj same).1]

def magnetometerTag (tag : UInt8) : Prop :=
  finger? tag ≠ none ∧ sensorTypeOf tag = sensorTypeMagnetometer

instance (tag : UInt8) : Decidable (magnetometerTag tag) := inferInstanceAs (Decidable (_ ∧ _))

def cutsNumber (tag : UInt8) (rest : List UInt8) : Prop :=
  ∃ field ∈ field? tag, field.2 ≠ .timestamp ∧ rest.length < field.2.size ∧ rest.length % 2 = 1

instance (tag : UInt8) (rest : List UInt8) : Decidable (cutsNumber tag rest) :=
  inferInstanceAs (Decidable (∃ field ∈ field? tag, _))

/-- What the value behind a tag takes of the rest: as much as there is of it, but a timestamp only
whole. -/
def taken (sensorType : UInt8) (rest : List UInt8) : Nat :=
  match Kind.ofType sensorType with
  | some .timestamp => if Kind.timestamp.size ≤ rest.length then Kind.timestamp.size else 0
  | some kind => min rest.length kind.size
  | none => if sensorType = sensorTypeMagnetometer then min rest.length (2 * imuSize) else 0

def fieldSize (tag : UInt8) (rest : List UInt8) : Nat :=
  match finger? tag with
  | some _ => taken (sensorTypeOf tag) rest
  | none => 0

def tags (payload : List UInt8) : List (UInt8 × List UInt8) :=
  Scan.met fieldSize payload

theorem tags_cons (tag : UInt8) (rest : List UInt8) :
    tags (tag :: rest) = (tag, rest) :: tags (rest.drop (fieldSize tag rest)) :=
  Scan.met_cons fieldSize tag rest

theorem taken_kind {kind : Kind} {rest : List UInt8} (whole : kind.size ≤ rest.length) :
    taken kind.sensorType rest = kind.size := by
  rw [taken, Kind.ofType_sensorType]
  cases kind <;> first | exact if_pos whole | exact Nat.min_eq_right whole

theorem fieldSize_eq {tag : UInt8} {f : Fin numFingers} {kind : Kind} (rest : List UInt8)
    (field : field? tag = some (f, kind)) : fieldSize tag rest = taken kind.sensorType rest := by
  have addressed := finger?_of_field? field
  have type := Kind.ofType_eq_some ((field?_eq_some addressed).mp field)
  rw [fieldSize, addressed, type]

theorem fieldSize_short {tag : UInt8} {f : Fin numFingers} {kind : Kind} {rest : List UInt8}
    (field : field? tag = some (f, kind)) (other : kind ≠ .timestamp)
    (short : rest.length < kind.size) : fieldSize tag rest = rest.length := by
  have all : taken kind.sensorType rest = min rest.length kind.size := by
    rw [taken, Kind.ofType_sensorType]
    cases kind <;> first | rfl | exact absurd rfl other
  rw [fieldSize_eq rest field, all, Nat.min_eq_left (Nat.le_of_lt short)]

theorem tags_cut {payload : List UInt8} {m : UInt8 × List UInt8} {f : Fin numFingers} {kind : Kind}
    (hm : m ∈ tags payload) (field : field? m.1 = some (f, kind)) (other : kind ≠ .timestamp)
    (short : m.2.length < kind.size) :
    ∃ before, tags payload = before ++ [m] ∧
      ∀ b ∈ before, ¬ (field? b.1 = some (f, kind) ∧ b.2.length < kind.size) := by
  induction payload using Scan.drop_induction with
  | nil => cases hm
  | cons tag rest ih =>
      rw [tags_cons] at hm ⊢
      rcases List.mem_cons.mp hm with rfl | hm
      · rw [fieldSize_short field other short, List.drop_length]
        exact ⟨[], rfl, nofun⟩
      · obtain ⟨before, same, whole⟩ := ih _ hm
        refine ⟨(tag, rest) :: before, by rw [same]; rfl, List.forall_mem_cons.mpr ⟨?_, whole⟩⟩
        rintro ⟨field', short'⟩
        rw [fieldSize_short field' other short', List.drop_length] at hm
        cases hm

structure Observed where
  values : Fin numFingers → Kind → List Int
  isNew : Fin numFingers → Bool

namespace Observed

def address (observed : Observed) (finger : Fin numFingers) : Observed :=
  { observed with isNew := fun f => f == finger || observed.isNew f }

def put (observed : Observed) (finger : Fin numFingers) (kind : Kind) (values : List Int) : Observed :=
  { observed with values := fun f k => if (f, k) = (finger, kind) then values else observed.values f k }

def read (observed : Observed) (tag : UInt8) (rest : List UInt8) : Observed :=
  match field? tag with
  | some (finger, kind) =>
      if kind.size ≤ rest.length then (observed.address finger).put finger kind (kind.valuesAt rest)
      else observed.address finger
  | none => observed

def readAll (observed : Observed) (payload : List UInt8) : Observed :=
  (tags payload).foldl (fun observed m => observed.read m.1 m.2) observed

@[simp] theorem readAll_nil (observed : Observed) : observed.readAll [] = observed := rfl

theorem readAll_cons (observed : Observed) (tag : UInt8) (rest : List UInt8) :
    observed.readAll (tag :: rest) =
      (observed.read tag rest).readAll (rest.drop (fieldSize tag rest)) := by
  rw [readAll, tags_cons]
  rfl

theorem read_isNew (observed : Observed) (tag : UInt8) (rest : List UInt8) (f : Fin numFingers) :
    (observed.read tag rest).isNew f =
      ((field? tag).any (·.1 == f) || observed.isNew f) := by
  rw [read]
  cases field? tag with
  | none => rfl
  | some field =>
      by_cases whole : field.2.size ≤ rest.length
      · simp [whole, put, address, Bool.beq_comm]
      · simp [whole, address, Bool.beq_comm]

theorem read_values (observed : Observed) (tag : UInt8) (rest : List UInt8) (f : Fin numFingers)
    (k : Kind) :
    (observed.read tag rest).values f k =
      if field? tag = some (f, k) ∧ k.size ≤ rest.length then k.valuesAt rest
      else observed.values f k := by
  rw [read]
  cases field? tag with
  | none => simp
  | some field =>
      obtain ⟨finger, kind⟩ := field
      by_cases same : (finger, kind) = (f, k)
      · cases same
        by_cases whole : k.size ≤ rest.length
        · simp [whole, put]
        · simp [whole, address]
      · rw [if_neg fun h => same (Option.some.inj h.1)]
        by_cases whole : kind.size ≤ rest.length
        · simp only [whole, if_true, put, if_neg (Ne.symm same), address]
        · simp only [whole, if_false, address]

theorem readAll_values_congr {observed other : Observed} {f : Fin numFingers} {k : Kind}
    (same : observed.values f k = other.values f k) (payload : List UInt8) :
    (observed.readAll payload).values f k = (other.readAll payload).values f k := by
  rw [readAll, readAll]
  induction tags payload generalizing observed other with
  | nil => exact same
  | cons m met ih =>
      refine ih ?_
      rw [read_values, read_values, same]

end Observed

end TactileSensors.Usb
