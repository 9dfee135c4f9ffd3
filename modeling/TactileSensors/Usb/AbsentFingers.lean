import TactileSensors.Usb.FieldCodec

/-!
# Fields of fingers that are not there

Both parsers pass over the tag of a finger that they do not have, and take the bytes behind it for
tags.
-/

namespace TactileSensors.Usb
open Scan

structure BusField where
  finger : Fin 4
  index : Fin 4
  content : Content
deriving DecidableEq

namespace BusField

def present (field : BusField) : Bool := decide (field.finger.val < numFingers)

def tag (field : BusField) : UInt8 :=
  field.content.kind.sensorType ||| field.finger.val.toUInt8 <<< 2 ||| field.index.val.toUInt8

def encode (field : BusField) : List UInt8 := field.tag :: field.content.encode

theorem tag_eq (field : BusField) :
    finger? field.tag =
        (if h : field.finger.val < numFingers then some ⟨field.finger.val, h⟩ else none) ∧
      sensorTypeOf field.tag = field.content.kind.sensorType := by
  have all : ∀ (kind : Kind) (finger : Fin 4) (index : Fin 4),
      finger? (kind.sensorType ||| finger.val.toUInt8 <<< 2 ||| index.val.toUInt8) =
          (if h : finger.val < numFingers then some ⟨finger.val, h⟩ else none) ∧
        sensorTypeOf (kind.sensorType ||| finger.val.toUInt8 <<< 2 ||| index.val.toUInt8) =
          kind.sensorType := by
    intro kind
    cases kind <;> decide
  exact all field.content.kind field.finger field.index

theorem finger?_tag_present {field : BusField} (here : field.present) :
    ∃ f, finger? field.tag = some f := by
  have inside : field.finger.val < numFingers := of_decide_eq_true here
  exact ⟨⟨field.finger.val, inside⟩, by rw [field.tag_eq.1, dif_pos inside]⟩

theorem finger?_tag_absent {field : BusField} (absent : field.present = false) :
    finger? field.tag = none := by
  rw [field.tag_eq.1, dif_neg (of_decide_eq_false absent)]

end BusField

def encodeBusFields (fields : List BusField) : List UInt8 := fields.flatMap BusField.encode

/-- How a parser reads: a whole field does the same whatever follows it, and what is not for one of its
fingers is passed over until something raises a flag, which nothing lowers again. -/
structure ReadsFields {σ : Type} (read : σ → UInt8 → List UInt8 → σ × Nat) (idle : UInt8 → Prop)
    (raised : σ → Prop) : Prop where
  whole : ∀ field : BusField, field.present → ∃ next : σ → σ, ∀ s rest,
    read s field.tag (field.content.encode ++ rest) = (next s, field.content.encode.length)
  absent : ∀ field : BusField, field.present = false → idle field.tag
  skips : ∀ symbol, idle symbol → ∀ s rest, read s symbol rest = (s, 0)
  raises : ∀ symbol, ¬ idle symbol → ∀ s rest, raised (read s symbol rest).1
  keeps : ∀ s tag rest, raised s → raised (read s tag rest).1

section
variable {σ : Type} {read : σ → UInt8 → List UInt8 → σ × Nat} {idle : UInt8 → Prop}
variable {raised : σ → Prop}

theorem ReadsFields.walk_present (reads : ReadsFields read idle raised) {fields : List BusField}
    (quiet : ∀ field ∈ fields, field.present = false → ∀ byte ∈ field.content.encode, idle byte)
    (s : σ) :
    walk read s (encodeBusFields fields) =
      walk read s (encodeBusFields (fields.filter BusField.present)) := by
  refine walk_filter (fun field here => ?_) (fun field hfield away s rest => ?_) s
  · obtain ⟨next, whole⟩ := reads.whole field here
    exact ⟨next, fun s rest => walk_whole (whole s rest)⟩
  · refine walk_idle reads.skips (fun symbol hsymbol => ?_) s rest
    rcases List.mem_cons.mp hsymbol with rfl | data
    · exact reads.absent field away
    · exact quiet field hfield away symbol data

theorem ReadsFields.quiet (reads : ReadsFields read idle raised) {s : σ} (clear : ¬ raised s)
    {absent : List BusField} (same : walk read s (encodeBusFields absent) = s) :
    ∀ field ∈ absent, ∀ byte ∈ field.content.encode, idle byte := by
  intro field hfield byte hbyte
  by_contra loud
  have inside : byte ∈ encodeBusFields absent :=
    List.mem_flatMap.mpr ⟨field, hfield, List.mem_cons_of_mem _ hbyte⟩
  have raises := walk_loud reads.skips reads.raises reads.keeps s ⟨byte, inside, loud⟩
  exact clear (same ▸ raises)

end

theorem Quickstart.parseTag_whole {field : BusField} {f : Fin numFingers}
    (here : finger? field.tag = some f) (fingers : Fingers) (rest : List UInt8) :
    parseTag fingers field.tag (field.content.encode ++ rest) =
      (fingers.set f (({ fingers.get f with newDataAvailable := true } : FingerData).store
        field.content.kind field.content.values) f.isLt, field.content.encode.length) := by
  have whole : field.content.kind.size ≤ (field.content.encode ++ rest).length := by
    rw [List.length_append, field.content.length_encode]
    exact Nat.le_add_right _ _
  rw [parseTag_some fingers _ here, field.tag_eq.2, parseField_kind, field.content.valuesAt_encode,
    taken_kind whole, field.content.length_encode]

theorem Quickstart.readsFields :
    ReadsFields parseTag (fun byte => finger? byte = none)
      (fun fingers => ∃ f, (observe fingers).isNew f = true) where
  whole field here := by
    obtain ⟨f, addressed⟩ := BusField.finger?_tag_present here
    exact ⟨_, fun fingers rest => parseTag_whole addressed fingers rest⟩
  absent field away := BusField.finger?_tag_absent away
  skips symbol idle fingers rest := parseTag_none fingers rest idle
  raises symbol loud fingers rest := by
    obtain ⟨f, addressed⟩ := Option.ne_none_iff_exists'.mp loud
    exact ⟨f, by rw [parseTag_isNew, addressed, decide_eq_true rfl, Bool.true_or]⟩
  keeps fingers tag rest := fun ⟨f, new⟩ => ⟨f, by rw [parseTag_isNew, new, Bool.or_true]⟩

theorem Sdk.readTag_whole {field : BusField} {f : Fin numFingers}
    (here : finger? field.tag = some f) (fingers : Fingers) (rest : List UInt8) :
    readTag fingers field.tag (field.content.encode ++ rest) =
      ((readTag fingers field.tag field.content.encode).1, field.content.encode.length) := by
  have length := field.content.length_encode
  have whole : field.content.kind.size ≤ (field.content.encode ++ rest).length := by
    rw [List.length_append, length]
    exact Nat.le_add_right _ _
  have taken := (parseField_taken (fingers.get f) field.content.kind
    (fun j => (field.content.encode ++ rest).getD j 0) (field.content.encode ++ rest).length).trans
      (if_pos whole)
  have same := parseField_congr (fingers.get f) field.content.kind
    (fun j hj => iff_of_true (Nat.lt_of_lt_of_le hj whole) (length ▸ hj))
    (fun j hj _ => List.getD_append field.content.encode rest 0 j (length ▸ hj))
  rw [readTag, readTag, parseTag_some fingers _ _ here, parseTag_some fingers _ _ here, field.tag_eq.2,
    taken, same, length]

theorem Sdk.readsFields :
    ReadsFields readTag (fun byte => field? byte = none)
      (fun fingers => ∃ f, (observe fingers).isNew f = true) where
  whole field here := by
    obtain ⟨f, addressed⟩ := BusField.finger?_tag_present here
    exact ⟨_, fun fingers rest => readTag_whole addressed fingers rest⟩
  absent field away := by rw [field?, BusField.finger?_tag_absent away, Option.bind_none]
  skips symbol idle fingers rest := readTag_unread fingers rest idle
  raises symbol loud fingers rest := by
    obtain ⟨field, known⟩ := Option.ne_none_iff_exists'.mp loud
    exact ⟨field.1, by rw [readTag_isNew, known, Option.any_some, beq_self_eq_true, Bool.true_or]⟩
  keeps fingers tag rest := fun ⟨f, new⟩ => ⟨f, by rw [readTag_isNew, new, Bool.or_true]⟩

theorem Quickstart.parseSensorPacket_walk (fingers : Fingers) (packet : UsbPacket) :
    parseSensorPacket fingers packet.contents =
      (Scan.walk parseTag fingers packet.payload, newData (Scan.walk parseTag fingers packet.payload)) := by
  rw [parseSensorPacket_contents, parseFrom_eq_walk, List.drop_zero]

/-- Whatever other fields a packet mixes the absent ones with, its parser ends as if they were not
there. -/
def Undisturbed {σ τ : Type} (parse : UsbPacket → σ → τ) (absent : List BusField) : Prop :=
  ∀ (fields : List BusField) (packet without : UsbPacket),
    fields.filter (fun field => !field.present) = absent →
    packet.payload = encodeBusFields fields →
    without.payload = encodeBusFields (fields.filter BusField.present) →
    ∀ fingers, parse packet fingers = parse without fingers

def quickstartParse (packet : UsbPacket) (fingers : Quickstart.Fingers) :
    Quickstart.Fingers × List Bool :=
  Quickstart.parseSensorPacket fingers packet.contents

theorem payload_sensorPacket {payload : List UInt8} (small : payload.length < 256) :
    (sensorPacket payload small).payload = payload := by
  have length : payload.length.toUInt8.toNat = payload.length := Nat.mod_eq_of_lt small
  have dataLength : (sensorPacket payload small).dataLength = payload.length.toUInt8 := rfl
  rw [UsbPacket.payload, dataLength, length]
  have memory : (sensorPacket payload small).bytes.drop usbPacketHeaderSize =
      payload ++ List.replicate (256 - payload.length) 0 := rfl
  rw [memory, List.take_left]

theorem undisturbed_iff {σ τ : Type} {read : σ → UInt8 → List UInt8 → σ × Nat} {idle : UInt8 → Prop}
    {raised : σ → Prop} (reads : ReadsFields read idle raised) {parse : UsbPacket → σ → τ}
    {result : σ → τ} (walks : ∀ packet s, parse packet s = result (walk read s packet.payload))
    (injective : Function.Injective result) {clear : σ} (start : ¬ raised clear)
    {absent : List BusField} (away : ∀ field ∈ absent, field.present = false)
    (fits : (encodeBusFields absent).length < 256) :
    Undisturbed parse absent ↔ ∀ field ∈ absent, ∀ byte ∈ field.content.encode, idle byte := by
  constructor
  · intro undisturbed
    have none : absent.filter BusField.present = [] :=
      List.filter_eq_nil_iff.mpr fun field hfield => by simp [away field hfield]
    have all : absent.filter (fun field => !field.present) = absent :=
      List.filter_eq_self.mpr fun field hfield => by simp [away field hfield]
    have same := undisturbed absent (sensorPacket _ fits) (sensorPacket [] (by decide)) all
      (payload_sensorPacket fits) (by rw [none]; exact payload_sensorPacket _) clear
    rw [walks, walks, payload_sensorPacket, payload_sensorPacket] at same
    exact reads.quiet start (injective same)
  · intro quiet fields packet without mixed holds rest s
    rw [walks, walks, holds, rest]
    refine congrArg result (reads.walk_present (fun field hfield gone => ?_) s)
    exact quiet field (mixed ▸ List.mem_filter.mpr ⟨hfield, by simp [gone]⟩)

/-- The parsers leave the fields of present fingers alone exactly if no data byte of the absent ones
passes for a tag: of a finger that is there, and for the SDK also of a known type. -/
theorem absent_fields_undisturbing_iff {absent : List BusField}
    (away : ∀ field ∈ absent, field.present = false) (fits : (encodeBusFields absent).length < 256) :
    ((Undisturbed quickstartParse absent ∧ Undisturbed Sdk.parseSensors absent) ↔
        ∀ field ∈ absent, ∀ byte ∈ field.content.encode, finger? byte = none) ∧
      (Undisturbed Sdk.parseSensors absent ↔
        ∀ field ∈ absent, ∀ byte ∈ field.content.encode, field? byte = none) := by
  have python : Undisturbed quickstartParse absent ↔ _ :=
    @undisturbed_iff _ _ _ _ _ Quickstart.readsFields _
      (fun fingers => (fingers, Quickstart.newData fingers))
      (fun packet fingers => Quickstart.parseSensorPacket_walk fingers packet)
      (fun _ _ same => (Prod.mk.inj same).1) .init
      (fun ⟨f, new⟩ => Bool.false_ne_true ((sameStart_init.pythonClear f).symm.trans new)) _ away fits
  have cpp : Undisturbed Sdk.parseSensors absent ↔ _ :=
    @undisturbed_iff _ _ _ _ _ Sdk.readsFields _ id Sdk.parseSensors_eq_walk Function.injective_id .init
      (fun ⟨f, new⟩ => Bool.false_ne_true ((sameStart_init.cppClear f).symm.trans new)) _ away fits
  refine ⟨?_, cpp⟩
  rw [python, cpp]
  refine and_iff_left_of_imp fun quiet field hfield byte hbyte => ?_
  rw [field?, quiet field hfield byte hbyte, Option.bind_none]

def quietAbsent : List BusField :=
  [⟨.last 3, .last 3, .dynamicTactile 0x0809⟩, ⟨.last 3, .last 3, .temperature (-1)⟩]

theorem quiet_absent_fields_undisturbing : Undisturbed Sdk.parseSensors quietAbsent :=
  ((absent_fields_undisturbing_iff (by decide) (by decide)).1.mpr (by decide +kernel)).2

def loudAbsent : BusField := ⟨.last 3, .last 3, .dynamicTactile 0x2000⟩
def loudPacket : UsbPacket := sensorPacket [0x2F, 0x20, 0x00] (by decide)
def emptyPacket : UsbPacket := sensorPacket [] (by decide)

/-- The value of an absent finger is read as a tag of the first. -/
theorem absent_field_disturbs :
    (¬ ∀ (fields : List BusField) (packet without : UsbPacket),
      packet.payload = encodeBusFields fields →
      without.payload = encodeBusFields (fields.filter BusField.present) →
      ∀ fingers, Sdk.parseSensors packet fingers = Sdk.parseSensors without fingers) ∧
    ¬ ∀ (fields : List BusField) (packet without : UsbPacket),
      packet.payload = encodeBusFields fields →
      without.payload = encodeBusFields (fields.filter BusField.present) →
      ∀ fingers, quickstartParse packet fingers = quickstartParse without fingers := by
  have holds : loudPacket.payload = encodeBusFields [loudAbsent] := by decide
  have nothing : emptyPacket.payload = encodeBusFields ([loudAbsent].filter BusField.present) := by
    decide
  constructor
  · intro same
    have flag := congrArg (fun fingers => (Sdk.observe fingers).isNew 0)
      (same [loudAbsent] loudPacket emptyPacket holds nothing .init)
    revert flag
    decide +kernel
  · intro same
    have flag := congrArg (fun parsed => (Quickstart.observe parsed.1).isNew 0)
      (same [loudAbsent] loudPacket emptyPacket holds nothing .init)
    revert flag
    decide +kernel

end TactileSensors.Usb
