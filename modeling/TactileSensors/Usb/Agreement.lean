import TactileSensors.Usb.Quickstart
import TactileSensors.Usb.Sdk

/-!
# Where the field parsers agree

Both parsers read what the payload says. They part at the magnetometer, which one of them does not
know, and at the end of a payload that cuts a field off.
-/

namespace TactileSensors.Usb

theorem parseSensorPacket_contents (fingers : Quickstart.Fingers) (packet : UsbPacket) :
    Quickstart.parseSensorPacket fingers packet.contents =
      (Quickstart.parseFrom packet.payload fingers 0,
        Quickstart.newData (Quickstart.parseFrom packet.payload fingers 0)) := by
  have header : ¬ packet.contents.length < usbPacketHeaderSize := by
    have size := packet.size
    rw [UsbPacket.contents, List.length_take, size]
    simp only [usbPacketMaxSize, usbPacketHeaderSize, usbPacketMaxDataSize]
    omega
  rw [Quickstart.parseSensorPacket, if_neg header, UsbPacket.payload_eq_drop]

theorem Observed.readAll_isNew (observed : Observed) (payload : List UInt8) (f : Fin numFingers) :
    (observed.readAll payload).isNew f =
      ((tags payload).any (fun m => (field? m.1).any (·.1 == f)) || observed.isNew f) := by
  rw [readAll]
  induction tags payload generalizing observed with
  | nil => simp
  | cons m met ih =>
      rw [List.foldl_cons, ih, read_isNew, List.any_cons, Bool.or_left_comm, Bool.or_assoc]

structure SameStart (python : Quickstart.Fingers) (cpp : Sdk.Fingers) : Prop where
  values : ∀ f k, (Quickstart.observe python).values f k = (Sdk.observe cpp).values f k
  pythonClear : ∀ f, (Quickstart.observe python).isNew f = false
  cppClear : ∀ f, (Sdk.observe cpp).isNew f = false

def unknownOnly (payload : List UInt8) (f : Fin numFingers) : Prop :=
  (∃ m ∈ tags payload, finger? m.1 = some f) ∧ ∀ m ∈ tags payload, ∀ k, field? m.1 ≠ some (f, k)

theorem Quickstart.parseFrom_isNew_of_known (payload : List UInt8) (fingers : Quickstart.Fingers)
    {f : Fin numFingers} (known : ¬ unknownOnly payload f) :
    (Quickstart.observe (Quickstart.parseFrom payload fingers 0)).isNew f =
      ((Quickstart.observe fingers).readAll payload).isNew f := by
  rw [Quickstart.parseFrom_isNew, Observed.readAll_isNew]
  congr 1
  rw [Bool.eq_iff_iff, List.any_eq_true, List.any_eq_true]
  constructor
  · rintro ⟨m, hm, addressed⟩
    by_contra none
    refine known ⟨⟨m, hm, of_decide_eq_true addressed⟩, fun m' hm' k field => none ⟨m', hm', ?_⟩⟩
    simp [field]
  · rintro ⟨m, hm, field⟩
    obtain ⟨⟨finger, k⟩, here, same⟩ := (Option.any_eq_true _ _).mp field
    refine ⟨m, hm, decide_eq_true ?_⟩
    rw [finger?_of_field? here, show finger = f from eq_of_beq same]

/-! ## Where the SDK's loop goes -/

/-- The SDK does not know the magnetometer, and passes over the bytes behind its tag: none of them is a
tag that it reads. -/
def PassesOver (payload : List UInt8) : Prop :=
  ∀ m ∈ tags payload, magnetometerTag m.1 → ∀ byte ∈ m.2.take (2 * imuSize), field? byte = none

instance (payload : List UInt8) : Decidable (PassesOver payload) :=
  inferInstanceAs (Decidable (∀ m ∈ tags payload, _))

/-- The byte that the SDK is left with where the payload ends in the middle of a two-byte number. -/
def leftOver (payload : List UInt8) : List UInt8 :=
  (tags payload).flatMap fun m => if cutsNumber m.1 m.2 then m.2.drop (m.2.length - 1) else []

theorem leftOver_cons (tag : UInt8) (rest : List UInt8) :
    leftOver (tag :: rest) =
      (if cutsNumber tag rest then rest.drop (rest.length - 1) else []) ++
        leftOver (rest.drop (fieldSize tag rest)) := by
  rw [leftOver, tags_cons, List.flatMap_cons]
  rfl

theorem fieldSize_of_cutsNumber {tag : UInt8} {rest : List UInt8} (cut : cutsNumber tag rest) :
    fieldSize tag rest = rest.length := by
  obtain ⟨⟨f, k⟩, field, other, short, -⟩ := cut
  exact fieldSize_short field other short

theorem length_leftOver (payload : List UInt8) : (leftOver payload).length ≤ 1 := by
  induction payload using Scan.drop_induction with
  | nil => exact Nat.zero_le 1
  | cons tag rest ih =>
      rw [leftOver_cons]
      by_cases cut : cutsNumber tag rest
      · rw [if_pos cut, fieldSize_of_cutsNumber cut, List.drop_length, List.length_append,
          List.length_drop]
        change _ + 0 ≤ 1
        omega
      · rw [if_neg cut]
        exact ih _

theorem leftOver_eq_nil {payload : List UInt8} (even : ∀ m ∈ tags payload, ¬ cutsNumber m.1 m.2) :
    leftOver payload = [] := by
  apply List.flatMap_eq_nil_iff.mpr
  intro m hm
  rw [if_neg (even m hm)]

theorem PassesOver.tail {tag : UInt8} {rest : List UInt8} (passes : PassesOver (tag :: rest)) :
    PassesOver (rest.drop (fieldSize tag rest)) := by
  intro m hm
  exact passes m (by rw [tags_cons]; exact List.mem_cons_of_mem _ hm)

theorem PassesOver.unread {tag : UInt8} {rest : List UInt8} (passes : PassesOver (tag :: rest))
    (unread : field? tag = none) : ∀ byte ∈ rest.take (fieldSize tag rest), field? byte = none := by
  rw [fieldSize]
  cases addressed : finger? tag with
  | none =>
      intro byte hbyte
      simp at hbyte
  | some f =>
      have unknown : Kind.ofType (sensorTypeOf tag) = none := by
        simpa [field?, addressed, kind?] using unread
      simp only [taken, unknown]
      by_cases magnetometer : sensorTypeOf tag = sensorTypeMagnetometer
      · have quiet := passes (tag, rest) (by rw [tags_cons]; exact List.mem_cons_self)
          ⟨by simp [addressed], magnetometer⟩
        rw [if_pos magnetometer, ← List.take_take]
        exact fun byte hbyte => quiet byte (List.mem_of_mem_take hbyte)
      · rw [if_neg magnetometer, List.take_zero]
        intro byte hbyte
        cases hbyte

namespace Sdk

theorem takenBy_eq_fieldSize {tag : UInt8} {rest : List UInt8} {f : Fin numFingers} {k : Kind}
    (field : field? tag = some (f, k)) (whole : ¬ cutsNumber tag rest) :
    takenBy tag rest = fieldSize tag rest := by
  rw [takenBy, field]
  by_cases fits : k.size ≤ rest.length
  · rw [fieldSize_eq rest field, taken_kind fits]
    exact if_pos fits
  · have short : rest.length < k.size := Nat.lt_of_not_le fits
    by_cases timestamp : k = .timestamp
    · subst timestamp
      have nothing : taken Kind.timestamp.sensorType rest = 0 := if_neg fits
      have few : rest.length < 8 := short
      rw [fieldSize_eq rest field, nothing]
      simp only [fits, if_false, Kind.width]
      omega
    · have even : rest.length % 2 ≠ 1 := fun odd => whole ⟨(f, k), field, timestamp, short, odd⟩
      rw [fieldSize_short field timestamp short]
      simp only [fits, if_false, Kind.width_of_ne timestamp]
      omega

theorem takenBy_of_cutsNumber {tag : UInt8} {rest : List UInt8} (cut : cutsNumber tag rest) :
    takenBy tag rest = rest.length - 1 := by
  obtain ⟨⟨f, k⟩, field, other, short, odd⟩ := cut
  have fits : ¬ k.size ≤ rest.length := Nat.not_le_of_lt short
  rw [takenBy, field]
  simp only [fits, if_false, Kind.width_of_ne other]
  omega

theorem walk_readTag {payload : List UInt8} (passes : PassesOver payload) (fingers : Fingers) :
    Scan.walk readTag fingers payload =
      Scan.walk readTag ((tags payload).foldl (fun fingers m => (readTag fingers m.1 m.2).1) fingers)
        (leftOver payload) := by
  induction payload using Scan.drop_induction generalizing fingers with
  | nil => rfl
  | cons tag rest ih =>
      rw [Scan.walk_cons, readTag_taken, tags_cons, List.foldl_cons, leftOver_cons]
      by_cases cut : cutsNumber tag rest
      · rw [if_pos cut, fieldSize_of_cutsNumber cut, List.drop_length, takenBy_of_cutsNumber cut]
        change _ = Scan.walk readTag (readTag fingers tag rest).1 (_ ++ [])
        rw [List.append_nil]
      · rw [if_neg cut, List.nil_append, ← ih _ passes.tail]
        cases read : field? tag with
        | some field => rw [takenBy_eq_fieldSize read cut]
        | none =>
            have skips : ∀ symbol, field? symbol = none → ∀ s rest, readTag s symbol rest = (s, 0) :=
              fun _ unread s rest => readTag_unread s rest unread
            have nothing : takenBy tag rest = 0 := by rw [takenBy, read]
            rw [skips tag read, nothing, List.drop_zero]
            calc Scan.walk readTag fingers rest
                = Scan.walk readTag fingers
                    (rest.take (fieldSize tag rest) ++ rest.drop (fieldSize tag rest)) := by
                  rw [List.take_append_drop]
              _ = Scan.walk readTag fingers (rest.drop (fieldSize tag rest)) :=
                  Scan.walk_idle skips (passes.unread read) fingers _

theorem walk_leftOver {bytes : List UInt8} (few : bytes.length ≤ 1) (fingers : Fingers)
    (f : Fin numFingers) :
    (∀ k, (observe (Scan.walk readTag fingers bytes)).values f k = (observe fingers).values f k) ∧
      (observe (Scan.walk readTag fingers bytes)).isNew f =
        (bytes.any (fun byte => (field? byte).any (·.1 == f)) || (observe fingers).isNew f) := by
  match bytes, few with
  | [], _ => exact ⟨fun _ => rfl, rfl⟩
  | [tag], _ =>
      rw [Scan.walk_cons, List.drop_nil, Scan.walk_nil, readTag_isNew]
      refine ⟨fun k => ?_, by simp⟩
      rw [readTag_values, Kind.valuesAt_nil, Kind.spliced_nil, ite_self]

theorem foldl_readTag_values {met : List (UInt8 × List UInt8)} {fingers : Fingers}
    {observed : Observed} {f : Fin numFingers} {k : Kind}
    (kept : ∀ m ∈ met, ¬ (field? m.1 = some (f, k) ∧ k.cutOff m.2))
    (same : (observe fingers).values f k = observed.values f k) :
    (observe (met.foldl (fun fingers m => (readTag fingers m.1 m.2).1) fingers)).values f k =
      (met.foldl (fun observed m => observed.read m.1 m.2) observed).values f k := by
  induction met generalizing fingers observed with
  | nil => exact same
  | cons m met ih =>
      refine ih (fun m' hm => kept m' (List.mem_cons_of_mem m hm)) ?_
      rw [readTag_values, Observed.read_values, ← same, ite_and]
      refine if_ctx_congr Iff.rfl (fun field => ?_) fun _ => rfl
      exact Kind.spliced_valuesAt (fun cut => kept m List.mem_cons_self ⟨field, cut⟩)
        ((fingers.get f).length_values k)

theorem foldl_readTag_isNew (met : List (UInt8 × List UInt8)) (fingers : Fingers) (f : Fin numFingers) :
    (observe (met.foldl (fun fingers m => (readTag fingers m.1 m.2).1) fingers)).isNew f =
      (met.any (fun m => (field? m.1).any (·.1 == f)) || (observe fingers).isNew f) := by
  induction met generalizing fingers with
  | nil => simp
  | cons m met ih =>
      rw [List.foldl_cons, ih, readTag_isNew, List.any_cons, Bool.or_left_comm, Bool.or_assoc]

theorem parseSensors_values {packet : UsbPacket} (passes : PassesOver packet.payload) (fingers : Fingers)
    (f : Fin numFingers) (k : Kind) :
    (observe (parseSensors packet fingers)).values f k =
      (observe ((tags packet.payload).foldl (fun fingers m => (readTag fingers m.1 m.2).1) fingers)).values
        f k := by
  rw [parseSensors_eq_walk, walk_readTag passes]
  exact (walk_leftOver (length_leftOver _) _ f).1 k

theorem parseSensors_named {packet : UsbPacket} (passes : PassesOver packet.payload) (fingers : Fingers)
    (f : Fin numFingers) :
    (observe (parseSensors packet fingers)).isNew f =
      ((leftOver packet.payload).any (fun byte => (field? byte).any (·.1 == f)) ||
        ((tags packet.payload).any (fun m => (field? m.1).any (·.1 == f)) || (observe fingers).isNew f)) := by
  rw [parseSensors_eq_walk, walk_readTag passes, (walk_leftOver (length_leftOver _) _ f).2,
    foldl_readTag_isNew]

end Sdk

/-! ## Fields that are cut off -/

theorem Observed.readAll_values_of_cut {payload : List UInt8} {before : List (UInt8 × List UInt8)}
    {m : UInt8 × List UInt8} (same : tags payload = before ++ [m]) (observed : Observed)
    {f : Fin numFingers} {k : Kind} (short : m.2.length < k.size) :
    (before.foldl (fun observed m => observed.read m.1 m.2) observed).values f k =
      (observed.readAll payload).values f k := by
  rw [readAll, same, List.foldl_append, List.foldl_cons, List.foldl_nil, read_values, if_neg]
  exact fun whole => Nat.not_le_of_lt short whole.2

section
variable {packet : UsbPacket} {python : Quickstart.Fingers} {cpp : Sdk.Fingers} {f : Fin numFingers}
  {k : Kind}

theorem values_kept (start : SameStart python cpp) (passes : PassesOver packet.payload)
    (kept : ∀ m ∈ tags packet.payload, ¬ (field? m.1 = some (f, k) ∧ k.cutOff m.2)) :
    (Quickstart.observe (Quickstart.parseSensorPacket python packet.contents).1).values f k =
      (Sdk.observe (Sdk.parseSensors packet cpp)).values f k := by
  rw [parseSensorPacket_contents, Sdk.parseSensors_values passes, Quickstart.parseFrom_eq_foldl,
    Quickstart.foldl_parseTag_values kept rfl, Sdk.foldl_readTag_values kept rfl]
  exact Observed.readAll_values_congr (start.values f k) _

variable (python cpp) in
theorem values_cut (passes : PassesOver packet.payload) {m : UInt8 × List UInt8}
    (hm : m ∈ tags packet.payload) (field : field? m.1 = some (f, k)) (cut : k.cutOff m.2) :
    (Quickstart.observe (Quickstart.parseSensorPacket python packet.contents).1).values f k =
        (if k = .staticTactile then k.valuesAt m.2 else [0, 0, 0]) ∧
      (Sdk.observe (Sdk.parseSensors packet cpp)).values f k =
        Kind.spliced (k.valuesAt m.2) (((Sdk.observe cpp).readAll packet.payload).values f k) := by
  have other : k ≠ .timestamp := by
    rintro rfl
    exact absurd cut.1 (by decide)
  obtain ⟨before, same, whole⟩ := tags_cut hm field other cut.2
  have kept : ∀ b ∈ before, ¬ (field? b.1 = some (f, k) ∧ k.cutOff b.2) :=
    fun b hb h => whole b hb ⟨h.1, h.2.2⟩
  constructor
  · rw [parseSensorPacket_contents, Quickstart.parseFrom_eq_foldl, same, List.foldl_append]
    exact Quickstart.parseTag_cutOff _ field cut
  · rw [Sdk.parseSensors_values passes, same, List.foldl_append, List.foldl_cons, List.foldl_nil,
      Sdk.readTag_values, if_pos field, Sdk.foldl_readTag_values kept rfl,
      Observed.readAll_values_of_cut same _ cut.2]

end

/-! ## Agreement -/

def Agree (packet : UsbPacket) (python : Quickstart.Fingers) (cpp : Sdk.Fingers) : Prop :=
  (∀ f k, (Quickstart.observe (Quickstart.parseSensorPacket python packet.contents).1).values f k =
      (Sdk.observe (Sdk.parseSensors packet cpp)).values f k) ∧
    ∀ f, (Quickstart.observe (Quickstart.parseSensorPacket python packet.contents).1).isNew f =
      (Sdk.observe (Sdk.parseSensors packet cpp)).isNew f

/-- A tag of a known type names the finger, or what is left over does. -/
def Named (payload : List UInt8) (f : Fin numFingers) : Prop :=
  (∃ m ∈ tags payload, ∃ field ∈ field? m.1, field.1 = f) ∨
    ∃ byte ∈ leftOver payload, ∃ field ∈ field? byte, field.1 = f

instance (payload : List UInt8) (f : Fin numFingers) : Decidable (Named payload f) :=
  inferInstanceAs (Decidable (_ ∨ _))

/-- No array is cut off, but for one of axes where those that are there are zeros, in front of zeros; and
a finger is addressed where it is named. -/
structure EndsWell (start : Observed) (payload : List UInt8) : Prop where
  static_whole : ∀ m ∈ tags payload, ∀ f, field? m.1 = some (f, .staticTactile) →
    ¬ Kind.staticTactile.cutOff m.2
  axes_zero : ∀ m ∈ tags payload, ∀ f, ∀ k ∈ [Kind.accelerometer, Kind.gyroscope],
    field? m.1 = some (f, k) → k.cutOff m.2 →
      Kind.spliced (k.valuesAt m.2) ((start.readAll payload).values f k) = [0, 0, 0]
  addressed : ∀ f, (∃ m ∈ tags payload, finger? m.1 = some f) ↔ Named payload f

section
variable {packet : UsbPacket} {python : Quickstart.Fingers} {cpp : Sdk.Fingers}

theorem isNew_quickstart (start : SameStart python cpp) (f : Fin numFingers) :
    (Quickstart.observe (Quickstart.parseSensorPacket python packet.contents).1).isNew f = true ↔
      ∃ m ∈ tags packet.payload, finger? m.1 = some f := by
  rw [parseSensorPacket_contents, Quickstart.parseFrom_isNew, start.pythonClear, Bool.or_false,
    List.any_eq_true]
  simp only [decide_eq_true_eq]

theorem isNew_sdk (start : SameStart python cpp) (passes : PassesOver packet.payload) (f : Fin numFingers) :
    (Sdk.observe (Sdk.parseSensors packet cpp)).isNew f = true ↔ Named packet.payload f := by
  rw [Sdk.parseSensors_named passes, start.cppClear, Bool.or_false, Bool.or_comm, Bool.or_eq_true,
    List.any_eq_true, List.any_eq_true]
  simp only [Option.any_eq_true, beq_iff_eq, Named, Option.mem_def]

theorem EndsWell.of_agree (start : SameStart python cpp) (passes : PassesOver packet.payload)
    (agree : Agree packet python cpp) : EndsWell (Sdk.observe cpp) packet.payload where
  static_whole m hm f field cut := by
    obtain ⟨python_, cpp_⟩ := values_cut python cpp passes hm field cut
    have same := (agree.1 f .staticTactile).symm.trans python_
    have fewer := Kind.length_valuesAt_lt cut
    rw [if_pos rfl] at same
    rw [← same] at fewer
    exact fewer.ne (Sdk.FingerData.length_values _ .staticTactile)
  axes_zero m hm f k axes field cut := by
    obtain ⟨python_, cpp_⟩ := values_cut python cpp passes hm field cut
    rw [if_neg (by rintro rfl; revert axes; decide)] at python_
    exact cpp_.symm.trans ((agree.1 f k).symm.trans python_)
  addressed f := by
    rw [← isNew_quickstart start, ← isNew_sdk start passes, agree.2 f]

theorem EndsWell.agree (start : SameStart python cpp) (passes : PassesOver packet.payload)
    (ends : EndsWell (Sdk.observe cpp) packet.payload) : Agree packet python cpp := by
  constructor
  · intro f k
    by_cases cut : ∃ m ∈ tags packet.payload, field? m.1 = some (f, k) ∧ k.cutOff m.2
    · obtain ⟨m, hm, field, cut⟩ := cut
      obtain ⟨python_, cpp_⟩ := values_cut python cpp passes hm field cut
      rw [python_, cpp_]
      cases k with
      | staticTactile => exact absurd cut (ends.static_whole m hm f field)
      | accelerometer => exact (ends.axes_zero m hm f _ (by decide) field cut).symm
      | gyroscope => exact (ends.axes_zero m hm f _ (by decide) field cut).symm
      | dynamicTactile | temperature | timestamp => exact absurd cut.1 (by decide)
    · exact values_kept start passes fun m hm here => cut ⟨m, hm, here⟩
  · intro f
    rw [Bool.eq_iff_iff, isNew_quickstart start, isNew_sdk start passes]
    exact ends.addressed f

end

/-- Where the SDK passes over the magnetometers, the parsers agree exactly where the payload ends well. -/
theorem parsers_agree_iff (packet : UsbPacket) (python : Quickstart.Fingers) (cpp : Sdk.Fingers)
    (start : SameStart python cpp) (passes : PassesOver packet.payload) :
    Agree packet python cpp ↔ EndsWell (Sdk.observe cpp) packet.payload :=
  ⟨EndsWell.of_agree start passes, EndsWell.agree start passes⟩

theorem sameStart_init : SameStart .init .init where
  values f k := by
    match f with
    | 0 | 1 => cases k <;> rfl
  pythonClear f := by
    match f with
    | 0 | 1 => rfl
  cppClear f := by
    match f with
    | 0 | 1 => rfl

theorem length_sensorPacket {payload : List UInt8} (small : payload.length < 256) :
    ([usbPacketStartByte, 0, 0x61, payload.length.toUInt8] ++ payload ++
      List.replicate (256 - payload.length) 0).length = usbPacketMaxSize := by
  simp only [List.length_append, List.length_cons, List.length_nil, List.length_replicate,
    usbPacketMaxSize, usbPacketHeaderSize, usbPacketMaxDataSize]
  omega

def sensorPacket (payload : List UInt8) (small : payload.length < 256) : UsbPacket :=
  ⟨[usbPacketStartByte, 0, 0x61, payload.length.toUInt8] ++ payload ++
    List.replicate (256 - payload.length) 0, length_sensorPacket small⟩

def magnetometerPacket : UsbPacket := sensorPacket [0x50, 0x60, 0x12, 0x34, 0, 0, 0] (by decide)

/-- The quickstart reads an axis where the SDK reads a temperature. -/
theorem magnetometer_read_as_fields :
    ¬ ∀ (packet : UsbPacket) (python : Quickstart.Fingers) (cpp : Sdk.Fingers), SameStart python cpp →
      Agree packet python cpp := by
  intro agree
  have temperature := (agree magnetometerPacket .init .init sameStart_init).1 0 .temperature
  revert temperature
  decide +kernel

/-- A magnetometer whose bytes name a third finger, a temperature, and the end of an accelerometer at
rest. -/
def restingPacket : UsbPacket :=
  sensorPacket [0x50, 8, 8, 8, 8, 8, 8, 0x60, 0x12, 0x34, 0x30, 0, 0] (by decide)

theorem parsers_agree_resting : Agree restingPacket .init .init :=
  (parsers_agree_iff restingPacket .init .init sameStart_init (by decide +kernel)).mpr
    ⟨by decide +kernel, by decide +kernel, by decide +kernel⟩

end TactileSensors.Usb
