import TactileSensors.Usb.FieldCodec
import TactileSensors.Usb.ReadSerialData

/-!
# The samples of a stream

What `read_serial_data` calls back with, said of the fields that the sensor sent and not of the bytes they
came in.
-/

namespace TactileSensors.Usb.Quickstart
open Bytes Scan

/-- A packet of fields, whatever its second byte and its command, and what was on the line before it. -/
structure FieldPacket where
  garbage : List UInt8
  packet : Framed
  fields : List Field
  noStart : usbPacketStartByte ∉ garbage
  carries : packet.payload = encodeFields fields

def arriving (arrivals : List FieldPacket) (last : List UInt8) : List UInt8 :=
  arrivals.flatMap (fun arrival => arrival.garbage ++ arrival.packet.bytes) ++ last

def received : List Turn → List UInt8
  | [] | .expired :: _ => []
  | .idle :: turns => received turns
  | .read data :: turns => data ++ received turns

theorem finds_arriving (arrivals : List FieldPacket) {last : List UInt8} (waits : framing.finds last = []) :
    framing.finds (arriving arrivals last) = arrivals.map (·.packet.bytes) := by
  induction arrivals with
  | nil => exact waits
  | cons arrival arrivals ih =>
      have split : arriving (arrival :: arrivals) last =
          arrival.garbage ++ (arrival.packet.bytes ++ arriving arrivals last) := by
        simp [arriving]
      rw [split, finds_garbage arrival.noStart, finds_packet arrival.packet.starts arrival.packet.whole, ih]
      rfl

theorem taken_framed {parser : UsbPacketParser} (waits : framing.finds parser.buffer = [])
    (turns : List Turn) :
    taken (framed parser turns) = framing.finds (parser.buffer ++ received turns) := by
  induction turns generalizing parser with
  | nil => simp [framed, taken, received, waits]
  | cons turn turns ih =>
      cases turn with
      | expired => simp [framed, Turn.batch, taken, received, waits]
      | idle => exact ih waits
      | read data =>
          have later := ih (feedBytes_waits parser data)
          have all := feedBytes_finds parser data (received turns)
          rw [← later, List.append_assoc] at all
          exact all

/-- Everything sent until each of the packets that complete a sample: every connected finger has been new
since the one before. -/
def samples (connectedFingers : Fin numFingers → Bool) (isNew : Fin numFingers → Bool) (sent : List Field) :
    List (List Field) → List (List Field)
  | [] => []
  | fields :: packets =>
      if ∀ f, connectedFingers f → fields.any (·.finger == f) || isNew f then
        (sent ++ fields) :: samples connectedFingers (fun _ => false) (sent ++ fields) packets
      else samples connectedFingers (fun f => fields.any (·.finger == f) || isNew f) (sent ++ fields) packets

def reported (start : SensorData) (sent : List Field) (f : Fin numFingers) (k : Kind) : List Int :=
  ((lastField sent f k).map (·.content.values)).getD ((start.fingers.get f).values k)

def SensorData.values (sensorData : SensorData) (f : Fin numFingers) : Kind → List Int :=
  (sensorData.fingers.get f).values

structure Reflects (start : SensorData) (isNew : Fin numFingers → Bool) (sent : List Field)
    (sensorData : SensorData) : Prop where
  values : sensorData.values = reported start sent
  isNew : ∀ f, sensorData.isNew f = isNew f

theorem lastField_append (first rest : List Field) (f : Fin numFingers) (k : Kind) :
    lastField (first ++ rest) f k = (lastField rest f k).or (lastField first f k) := by
  rw [lastField, List.reverse_append, List.find?_append]
  rfl

theorem reported_append (start : SensorData) (sent fields : List Field) (f : Fin numFingers) (k : Kind) :
    reported start (sent ++ fields) f k =
      ((lastField fields f k).map (·.content.values)).getD (reported start sent f k) := by
  rw [reported, lastField_append, reported]
  cases lastField fields f k <;> rfl

theorem values_clearNew (sensorData : SensorData) : sensorData.clearNew.values = sensorData.values := by
  funext f k
  have got : sensorData.clearNew.fingers.get f =
      { sensorData.fingers.get f with newDataAvailable := false } :=
    Vector.getElem_map _ f.isLt
  rw [SensorData.values, got]
  cases k <;> rfl

section
variable {start : SensorData} {isNew : Fin numFingers → Bool} {sent : List Field}
  {connectedFingers : Fin numFingers → Bool}

theorem Reflects.parse {sensorData : SensorData} (reflects : Reflects start isNew sent sensorData)
    (arrival : FieldPacket) :
    Reflects start (fun f => arrival.fields.any (·.finger == f) || isNew f) (sent ++ arrival.fields)
      (sensorData.parseSensorPacket arrival.packet.bytes).1 := by
  have parsed : (sensorData.parseSensorPacket arrival.packet.bytes).1.fingers =
      parseFrom (encodeFields arrival.fields) sensorData.fingers 0 := by
    rw [← arrival.carries]
    exact congrArg Prod.fst (parseSensorPacket_framed sensorData.fingers arrival.packet)
  have tag : ∀ m ∈ tags (encodeFields arrival.fields), ∃ field ∈ arrival.fields,
      field? m.1 = some (field.finger, field.kind) ∧ field.kind.size ≤ m.2.length := by
    intro m hm
    obtain ⟨field, hfield, tag, whole⟩ := mem_tags_encodeFields hm
    exact ⟨field, hfield, by rw [tag, field.field?_tag], whole⟩
  constructor
  · funext f k
    have kept : ∀ m ∈ tags (encodeFields arrival.fields), ¬ (field? m.1 = some (f, k) ∧ k.cutOff m.2) := by
      rintro m hm ⟨read, _, short⟩
      obtain ⟨field, -, found, whole⟩ := tag m hm
      obtain ⟨-, rfl⟩ := Prod.mk.inj (Option.some.inj (found.symm.trans read))
      exact Nat.not_lt_of_le whole short
    have before : (observe sensorData.fingers).values f k = reported start sent f k :=
      congrFun (congrFun reflects.values f) k
    have after := parseFrom_values _ sensorData.fingers f k kept
    rw [readAll_encodeFields, foldl_readField_values, before] at after
    rw [reported_append, ← after, SensorData.values, parsed]
    rfl
  · intro f
    have answers : ¬ unknownOnly (encodeFields arrival.fields) f := by
      rintro ⟨⟨m, hm, addressed⟩, unknown⟩
      obtain ⟨field, -, found, -⟩ := tag m hm
      rw [finger?_of_field? found] at addressed
      rw [← Option.some.inj addressed] at unknown
      exact unknown m hm field.kind found
    have before : (observe sensorData.fingers).isNew f = isNew f := reflects.isNew f
    have after := parseFrom_isNew_of_known _ sensorData.fingers answers
    rw [readAll_encodeFields, foldl_readField_isNew, before] at after
    rw [SensorData.isNew, parsed]
    exact after

theorem Reflects.clear {sensorData : SensorData} (reflects : Reflects start isNew sent sensorData) :
    Reflects start (fun _ => false) sent sensorData.clearNew where
  values := (values_clearNew sensorData).trans reflects.values
  isNew := SensorData.clearNew_isNew sensorData

theorem Reflects.complete_iff {sensorData : SensorData} (reflects : Reflects start isNew sent sensorData)
    (arrival : FieldPacket) :
    complete connectedFingers (sensorData.parseSensorPacket arrival.packet.bytes).2 = true ↔
      ∀ f, connectedFingers f → arrival.fields.any (·.finger == f) || isNew f :=
  (SensorData.complete_iff sensorData arrival.packet).trans
    (forall_congr' fun f => by rw [(reflects.parse arrival).isNew f])

theorem Reflects.packets {s : Reading} (reflects : Reflects start isNew sent s.sensorData)
    (arrivals : List FieldPacket) :
    (s.packets connectedFingers (arrivals.map (·.packet.bytes))).calls.map (·.values) =
      s.calls.map (·.values) ++
        (samples connectedFingers isNew sent (arrivals.map (·.fields))).map (reported start) := by
  induction arrivals generalizing s isNew sent with
  | nil => exact (List.append_nil _).symm
  | cons arrival arrivals ih =>
      have parsed := reflects.parse arrival
      have sample : complete connectedFingers
          (s.sensorData.parseSensorPacket arrival.packet.bytes).2 = true ↔ _ :=
        reflects.complete_iff arrival
      rw [List.map_cons, List.map_cons, samples, Reading.packets, List.foldl_cons]
      by_cases all : ∀ f, connectedFingers f → arrival.fields.any (·.finger == f) || isNew f
      · have next : s.packet connectedFingers arrival.packet.bytes =
            ⟨(s.sensorData.parseSensorPacket arrival.packet.bytes).1.clearNew,
              s.calls ++ [(s.sensorData.parseSensorPacket arrival.packet.bytes).1.clearNew]⟩ := by
          rw [Reading.packet, SensorData.next, if_pos (sample.mpr all)]
          rfl
        rw [if_pos all, next]
        refine (ih parsed.clear).trans ?_
        rw [List.map_append, List.append_assoc, List.map_singleton, parsed.clear.values]
        rfl
      · have next : s.packet connectedFingers arrival.packet.bytes =
            ⟨(s.sensorData.parseSensorPacket arrival.packet.bytes).1, s.calls⟩ := by
          rw [Reading.packet, SensorData.next, if_neg (mt sample.mp all)]
          rfl
        rw [if_neg all, next]
        exact ih parsed

end

theorem readSerialData_samples (connectedFingers : Fin numFingers → Bool) (start : SensorData)
    {parser : UsbPacketParser} (waits : framing.finds parser.buffer = []) {turns : List Turn}
    {arrivals : List FieldPacket} {last : List UInt8} (incomplete : framing.finds last = [])
    (came : parser.buffer ++ received turns = arriving arrivals last) :
    (readSerialData connectedFingers parser ⟨start, []⟩ turns).2.calls.map (·.values) =
      (samples connectedFingers start.isNew [] (arrivals.map (·.fields))).map (reported start) := by
  have reflects : Reflects start start.isNew [] (Reading.mk start []).sensorData := ⟨rfl, fun _ => rfl⟩
  rw [readSerialData_eq, taken_framed waits, came, finds_arriving arrivals incomplete]
  exact reflects.packets arrivals

end TactileSensors.Usb.Quickstart
