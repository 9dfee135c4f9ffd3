import TactileSensors.Machine.Run
import TactileSensors.Usb.Framing
import TactileSensors.Usb.Quickstart

/-!
# The shape of the quickstart's data

Consumers index 28 taxels and 3 axes. An inertial field with less than three axes is zeroed, but a
static tactile field at the end of a packet leaves a list as short as what there was of it.
-/

namespace TactileSensors.Usb.Quickstart
open Machine

structure FingerData.Shaped (finger : FingerData) : Prop where
  staticTactile : finger.staticTactile.length = staticTactileSize
  accelerometer : finger.accelerometer.length = imuSize
  gyroscope : finger.gyroscope.length = imuSize
  magnetometer : finger.magnetometer.length = imuSize

instance (finger : FingerData) : Decidable finger.Shaped :=
  decidable_of_iff (finger.staticTactile.length = staticTactileSize ∧
      finger.accelerometer.length = imuSize ∧ finger.gyroscope.length = imuSize ∧
      finger.magnetometer.length = imuSize)
    ⟨fun ⟨h₁, h₂, h₃, h₄⟩ => ⟨h₁, h₂, h₃, h₄⟩, fun ⟨h₁, h₂, h₃, h₄⟩ => ⟨h₁, h₂, h₃, h₄⟩⟩

/-- Every finger has 28 taxels and three times three axes. -/
def Shaped (fingers : Fingers) : Prop := ∀ f : Fin numFingers, (fingers.get f).Shaped

instance (fingers : Fingers) : Decidable (Shaped fingers) :=
  inferInstanceAs (Decidable (∀ f : Fin numFingers, (fingers.get f).Shaped))

theorem shaped_init : Shaped .init := by decide

def cutsStatic (tag : UInt8) (rest : List UInt8) : Prop :=
  (field? tag).map (·.2) = some .staticTactile ∧ rest.length < Kind.staticTactile.size

instance (tag : UInt8) (rest : List UInt8) : Decidable (cutsStatic tag rest) :=
  inferInstanceAs (Decidable (_ ∧ _))

theorem parseField_shaped {finger : FingerData} (sensorType : UInt8) (data : List UInt8)
    (shaped : finger.Shaped) :
    (parseField finger sensorType data).1.Shaped ↔
      ¬ (Kind.ofType sensorType = some .staticTactile ∧ data.length < Kind.staticTactile.size) := by
  obtain ⟨static, accelerometer, gyroscope, magnetometer⟩ := shaped
  cases known : Kind.ofType sensorType with
  | none =>
      refine iff_of_true ?_ fun h => by cases h.1
      by_cases isMagnetometer : sensorType = sensorTypeMagnetometer
      · rw [isMagnetometer, parseField_magnetometer]
        exact ⟨static, accelerometer, gyroscope, length_imuValues _⟩
      · rw [parseField_unknown finger data known isMagnetometer]
        exact ⟨static, accelerometer, gyroscope, magnetometer⟩
  | some kind =>
      rw [Kind.ofType_eq_some known, parseField_kind]
      cases kind with
      | staticTactile =>
          have length : (Kind.staticTactile.valuesAt data).length = min data.length 56 / 2 := by
            rw [Kind.valuesAt, List.length_map, Bytes.length_words, List.length_take, Nat.min_comm]
            rfl
          have size : Kind.staticTactile.size = 56 := rfl
          rw [size]
          constructor
          · rintro ⟨whole, -, -, -⟩ ⟨-, short⟩
            have few : min data.length 56 / 2 = 28 := length.symm.trans whole
            omega
          · intro whole
            have enough : 56 ≤ data.length := Nat.le_of_not_lt fun short => whole ⟨rfl, short⟩
            have full : min data.length 56 / 2 = 28 := by omega
            exact ⟨length.trans full, accelerometer, gyroscope, magnetometer⟩
      | accelerometer =>
          exact iff_of_true ⟨static, length_imuValues _, gyroscope, magnetometer⟩ fun h => by cases h.1
      | gyroscope =>
          exact iff_of_true ⟨static, accelerometer, length_imuValues _, magnetometer⟩
            fun h => by cases h.1
      | dynamicTactile | temperature | timestamp =>
          exact iff_of_true ⟨static, accelerometer, gyroscope, magnetometer⟩ fun h => by cases h.1

theorem parseTag_shaped {fingers : Fingers} (tag : UInt8) (rest : List UInt8)
    (shaped : Shaped fingers) : Shaped (parseTag fingers tag rest).1 ↔ ¬ cutsStatic tag rest := by
  rw [cutsStatic]
  cases addressed : finger? tag with
  | none =>
      rw [parseTag_none fingers rest addressed]
      exact iff_of_true shaped (by simp [field?, addressed])
  | some finger =>
      have kind : (field? tag).map (·.2) = Kind.ofType (sensorTypeOf tag) := by
        simp [field?, addressed, kind?, Function.comp_def]
      rw [parseTag_some fingers rest addressed, kind,
        ← parseField_shaped (sensorTypeOf tag) rest (shaped finger)]
      constructor
      · intro after
        simpa using after finger
      · intro field f
        by_cases same : finger = f
        · subst same
          simpa using field
        · simpa [get_set_ne _ _ same] using shaped f

def shortStatic (packet : List UInt8) : Prop :=
  ∃ m ∈ tags (packet.drop usbPacketHeaderSize), cutsStatic m.1 m.2

instance (packet : List UInt8) : Decidable (shortStatic packet) :=
  inferInstanceAs (Decidable (∃ m ∈ tags (packet.drop usbPacketHeaderSize), cutsStatic m.1 m.2))

theorem walk_shaped {fingers : Fingers} (payload : List UInt8) (shaped : Shaped fingers) :
    Shaped (Scan.walk parseTag fingers payload) ↔ ¬ ∃ m ∈ tags payload, cutsStatic m.1 m.2 := by
  induction payload using Scan.drop_induction generalizing fingers with
  | nil => exact iff_of_true shaped (by rintro ⟨m, hm, -⟩; cases hm)
  | cons tag rest ih =>
      have step := parseTag_shaped tag rest shaped
      rw [Scan.walk_cons, tags_cons, List.exists_mem_cons_iff, not_or, parseTag_taken]
      by_cases cut : cutsStatic tag rest
      · -- the field takes the rest of the packet
        obtain ⟨⟨f, kind⟩, field, rfl⟩ := Option.map_eq_some_iff.mp cut.1
        have all := fieldSize_short field nofun cut.2
        rw [all, List.drop_length, Scan.walk_nil]
        exact iff_of_false (fun after => step.mp after cut) fun h => h.1 cut
      · rw [ih _ (step.mpr cut)]
        exact ⟨fun rest => ⟨cut, rest⟩, fun h => h.2⟩

theorem parseSensorPacket_shaped {fingers : Fingers} (packet : List UInt8) (shaped : Shaped fingers) :
    Shaped (parseSensorPacket fingers packet).1 ↔ ¬ shortStatic packet := by
  rw [parseSensorPacket, shortStatic]
  by_cases header : packet.length < usbPacketHeaderSize
  · rw [if_pos header, List.drop_eq_nil_of_le (Nat.le_of_lt header)]
    exact iff_of_true shaped (by rintro ⟨m, hm, -⟩; cases hm)
  · rw [if_neg header, parseFrom_eq_walk, List.drop_zero]
    exact walk_shaped _ shaped

def parseStep (fingers : Fingers) (packet : List UInt8) : Option Fingers :=
  some (parseSensorPacket fingers packet).1

theorem run_parseStep (fingers : Fingers) (packets : List (List UInt8)) :
    ∃ fingers', run parseStep fingers packets = some fingers' := by
  induction packets generalizing fingers with
  | nil => exact ⟨fingers, rfl⟩
  | cons packet packets ih => exact ih (parseSensorPacket fingers packet).1

/-- After each packet that is framed from the stream, whatever the chunks it comes in, the data has
its shape, exactly if none of the packets ends inside a static tactile field. -/
theorem shaped_throughout_iff (chunks : List (List UInt8)) :
    Throughout parseStep Shaped .init (UsbPacketParser.init.feedChunks chunks).1 ↔
      ∀ packet ∈ framing.finds chunks.flatten, ¬ shortStatic packet := by
  have framed : (UsbPacketParser.init.feedChunks chunks).1 = framing.finds chunks.flatten :=
    feedChunks_eq_finds .init finds_nil chunks
  obtain ⟨fingers, hrun⟩ := run_parseStep .init (framing.finds chunks.flatten)
  rw [framed, ← stepsMeet_iff_forall_mem hrun]
  refine throughout_iff_stepsMeet (fun _ shaped => shaped) ?_ ?_ hrun shaped_init
  · rintro fingers packet _ shaped whole ⟨⟩
    exact (parseSensorPacket_shaped packet shaped).mpr whole
  · rintro fingers packet _ shaped short ⟨⟩ after
    exact short ((parseSensorPacket_shaped packet shaped).mp after)

/-- A static tactile field of a single taxel, and 27 taxels are gone. -/
theorem short_static_field_shrinks :
    ¬ ∀ chunks, Throughout parseStep Shaped .init (UsbPacketParser.init.feedChunks chunks).1 := by
  intro shaped
  have framed : (UsbPacketParser.init.feedChunks [[0x9A, 0, 0x61, 3, 0x10, 0x00, 0x07]]).1 =
      [[0x9A, 0, 0x61, 3, 0x10, 0x00, 0x07]] := by decide +kernel
  have after := shaped [[0x9A, 0, 0x61, 3, 0x10, 0x00, 0x07]]
  rw [framed] at after
  exact (parseSensorPacket_shaped _ shaped_init).mp (after.last rfl) (by decide)

end TactileSensors.Usb.Quickstart
