import TactileSensors.Usb.Baseline
import TactileSensors.Usb.Command

/-!
# The read loop of the quickstart

`read_serial_data` calls back when every connected finger has its flag raised, and clears the flags
then. The flag goes up with the tag, before the type and the value behind it are looked at.
-/

namespace TactileSensors.Usb.Quickstart
open Bytes Scan

/-- A packet as `feed_bytes` cuts it out. -/
structure Framed where
  bytes : List UInt8
  starts : ∃ rest, bytes = usbPacketStartByte :: rest
  whole : packetSize bytes = bytes.length

namespace Framed

def command (packet : Framed) : UInt8 := packet.bytes.getD 2 0
def payload (packet : Framed) : List UInt8 := packet.bytes.drop usbPacketHeaderSize
def isSensor (packet : Framed) : Bool := isSensorCommand packet.command

theorem header (packet : Framed) : ¬ packet.bytes.length < usbPacketHeaderSize := by
  rw [← packet.whole]
  exact Nat.not_lt_of_le (four_le_packetSize _)

end Framed

theorem finds_framed (packets : List Framed) :
    framing.finds (packets.flatMap (·.bytes)) = packets.map (·.bytes) := by
  induction packets with
  | nil => exact finds_nil
  | cons packet packets ih =>
      rw [List.flatMap_cons, finds_packet packet.starts packet.whole, ih, List.map_cons]

theorem packetSize_of_take (buffer : List UInt8) {n : Nat} (header : usbPacketHeaderSize ≤ n) :
    packetSize (buffer.take n) = packetSize buffer := by
  rw [packetSize, packetSize, List.getD_eq_getElem?_getD, List.getD_eq_getElem?_getD,
    List.getElem?_take_of_lt header]

theorem findPackets_framed (buffer : List UInt8) :
    ∀ bytes ∈ (findPackets buffer).1, ∃ packet : Framed, packet.bytes = bytes := by
  have shorter := length_fromStart_le buffer
  have header : 4 ≤ packetSize (fromStart buffer) := four_le_packetSize _
  rw [findPackets_eq]
  split_ifs with short incomplete
  · exact fun bytes hbytes => by cases hbytes
  · exact fun bytes hbytes => by cases hbytes
  · have later := findPackets_framed ((fromStart buffer).drop (packetSize (fromStart buffer)))
    intro bytes hbytes
    rcases List.mem_cons.mp hbytes with rfl | rest
    · have complete : packetSize (fromStart buffer) ≤ (fromStart buffer).length :=
        Nat.le_of_not_lt incomplete
      refine ⟨⟨_, ?_, ?_⟩, rfl⟩
      · rcases fromStart_cases buffer with nothing | ⟨rest, found⟩
        · rw [nothing] at complete header
          simp only [List.length_nil] at complete
          omega
        · rw [found, ← Nat.succ_pred_eq_of_pos (Nat.lt_of_lt_of_le (by decide) (four_le_packetSize _)),
            List.take_succ_cons]
          exact ⟨_, rfl⟩
      · rw [List.length_take_of_le complete, packetSize_of_take _ header]
    · exact later bytes rest
termination_by buffer.length
decreasing_by
  simp only [List.length_drop]
  omega

/-! ## `read_serial_data` -/

structure Reading where
  sensorData : SensorData
  -- what the callback was called with
  calls : List SensorData

namespace Reading

def packet (connectedFingers : Fin numFingers → Bool) (s : Reading) (packet : List UInt8) : Reading :=
  let next := s.sensorData.next connectedFingers packet
  if next.2 then { s with sensorData := next.1, calls := s.calls ++ [next.1] }
  else { s with sensorData := next.1 }

def packets (connectedFingers : Fin numFingers → Bool) (s : Reading) (packets : List (List UInt8)) :
    Reading :=
  packets.foldl (packet connectedFingers) s

end Reading

/-- In the turn that is `expired`, `running` has been cleared. -/
def readSerialData (connectedFingers : Fin numFingers → Bool) (parser : UsbPacketParser) (s : Reading) :
    List Turn → UsbPacketParser × Reading
  | [] | .expired :: _ => (parser, s)
  | .idle :: turns => readSerialData connectedFingers parser s turns
  | .read data :: turns =>
      let fed := parser.feedBytes data
      readSerialData connectedFingers fed.2 (s.packets connectedFingers fed.1) turns

/-! ## The packets of the turns -/

def Turn.batch (parser : UsbPacketParser) : Turn → Option (List (List UInt8) × UsbPacketParser)
  | .expired => none
  | .idle => some ([], parser)
  | .read data => some (parser.feedBytes data)

def framed (parser : UsbPacketParser) : List Turn → List (Option (List (List UInt8)))
  | [] => []
  | turn :: turns =>
      match turn.batch parser with
      | none => none :: framed parser turns
      | some batch => some batch.1 :: framed batch.2 turns

def taken : List (Option (List (List UInt8))) → List (List UInt8)
  | [] | none :: _ => []
  | some packets :: batches => packets ++ taken batches

variable {connectedFingers : Fin numFingers → Bool}

theorem readSerialData_eq (parser : UsbPacketParser) (s : Reading) (turns : List Turn) :
    (readSerialData connectedFingers parser s turns).2 =
      s.packets connectedFingers (taken (framed parser turns)) := by
  induction turns generalizing parser s with
  | nil => rfl
  | cons turn turns ih =>
      cases turn with
      | expired => rfl
      | idle => exact ih parser s
      | read data =>
          have all : taken (framed parser (.read data :: turns)) =
              (parser.feedBytes data).1 ++ taken (framed (parser.feedBytes data).2 turns) := rfl
          rw [readSerialData, ih, all, Reading.packets, Reading.packets, Reading.packets,
            List.foldl_append]

/-! ## Flags -/

def addresses (packet : List UInt8) (f : Fin numFingers) : Prop :=
  ∃ m ∈ tags (packet.drop usbPacketHeaderSize), finger? m.1 = some f

def knownSize (sensorType : UInt8) : Option Nat :=
  if sensorType = sensorTypeMagnetometer then some (2 * imuSize)
  else (Kind.ofType sensorType).map (·.size)

def decodes (packet : List UInt8) (f : Fin numFingers) : Prop :=
  ∃ m ∈ tags (packet.drop usbPacketHeaderSize), finger? m.1 = some f ∧
    ∃ size ∈ knownSize (sensorTypeOf m.1), size ≤ m.2.length

instance (packet : List UInt8) (f : Fin numFingers) : Decidable (addresses packet f) :=
  inferInstanceAs (Decidable (∃ m ∈ _, _))

instance (packet : List UInt8) (f : Fin numFingers) : Decidable (decodes packet f) :=
  inferInstanceAs (Decidable (∃ m ∈ _, _))

theorem addresses_of_decodes {packet : List UInt8} {f : Fin numFingers} (h : decodes packet f) :
    addresses packet f := by
  obtain ⟨m, hm, addressed, -⟩ := h
  exact ⟨m, hm, addressed⟩

theorem parseSensorPacket_framed (fingers : Fingers) (packet : Framed) :
    parseSensorPacket fingers packet.bytes =
      (parseFrom packet.payload fingers 0, newData (parseFrom packet.payload fingers 0)) := by
  rw [parseSensorPacket, if_neg packet.header]
  rfl

namespace SensorData

def isNew (sensorData : SensorData) (f : Fin numFingers) : Bool :=
  (sensorData.fingers.get f).newDataAvailable

theorem newData_getD (sensorData : SensorData) (f : Fin numFingers) :
    (newData sensorData.fingers).getD f false = sensorData.isNew f := by
  have inRange : f.val < (newData sensorData.fingers).length := by
    rw [newData, List.length_map, Vector.length_toList]
    exact f.isLt
  rw [List.getD_eq_getElem _ _ inRange]
  simp only [newData, List.getElem_map, Vector.getElem_toList]
  rfl

theorem parseSensorPacket_isNew (sensorData : SensorData) (packet : Framed) (f : Fin numFingers) :
    (sensorData.parseSensorPacket packet.bytes).1.isNew f = true ↔
      addresses packet.bytes f ∨ sensorData.isNew f = true := by
  have parsed : (sensorData.parseSensorPacket packet.bytes).1.isNew f =
      (observe (parseFrom packet.payload sensorData.fingers 0)).isNew f :=
    congrArg (fun parsed : Fingers × List Bool => (observe parsed.1).isNew f)
      (parseSensorPacket_framed sensorData.fingers packet)
  rw [parsed, parseFrom_isNew, Bool.or_eq_true, List.any_eq_true]
  simp only [addresses, Framed.payload, decide_eq_true_eq, isNew, observe]

theorem clearNew_isNew (sensorData : SensorData) (f : Fin numFingers) :
    sensorData.clearNew.isNew f = false := by
  simp [isNew, clearNew, Vector.get]

theorem parseSensorPacket_flag (sensorData : SensorData) (packet : Framed) (f : Fin numFingers) :
    (sensorData.parseSensorPacket packet.bytes).2.getD f false =
      (sensorData.parseSensorPacket packet.bytes).1.isNew f := by
  have parsed := parseSensorPacket_framed sensorData.fingers packet
  have fingers : (sensorData.parseSensorPacket packet.bytes).1.fingers =
      parseFrom packet.payload sensorData.fingers 0 :=
    congrArg (fun parsed : Fingers × List Bool => parsed.1) parsed
  have flags : (sensorData.parseSensorPacket packet.bytes).2 =
      newData (parseFrom packet.payload sensorData.fingers 0) :=
    congrArg (fun parsed : Fingers × List Bool => parsed.2) parsed
  rw [← newData_getD, fingers, flags]

theorem complete_iff (sensorData : SensorData) (packet : Framed) :
    complete connectedFingers (sensorData.parseSensorPacket packet.bytes).2 = true ↔
      ∀ f, connectedFingers f → (sensorData.parseSensorPacket packet.bytes).1.isNew f = true := by
  rw [complete, decide_eq_true_iff]
  simp only [parseSensorPacket_flag]

theorem next_isNew (sensorData : SensorData) (packet : Framed) :
    ((sensorData.next connectedFingers packet.bytes).2 = true ↔ ∀ f, connectedFingers f →
        addresses packet.bytes f ∨ sensorData.isNew f = true) ∧
      ∀ f, ((sensorData.next connectedFingers packet.bytes).1.isNew f = true ↔
        (sensorData.next connectedFingers packet.bytes).2 = false ∧
          (addresses packet.bytes f ∨ sensorData.isNew f = true)) := by
  have sample := @complete_iff connectedFingers sensorData packet
  simp only [parseSensorPacket_isNew] at sample
  rw [next]
  by_cases all : complete connectedFingers (sensorData.parseSensorPacket packet.bytes).2 = true
  · rw [if_pos all]
    exact ⟨iff_of_true rfl (sample.mp all), fun f => iff_of_false (by simp [clearNew_isNew]) (by simp)⟩
  · rw [if_neg all]
    exact ⟨iff_of_false Bool.false_ne_true (mt sample.mpr all),
      fun f => by simp [parseSensorPacket_isNew]⟩

end SensorData

/-! ## Complete frames -/

structure Watched where
  reading : Reading
  pending : List (List UInt8)

namespace Watched

def packet (connectedFingers : Fin numFingers → Bool) (w : Watched) (packet : List UInt8) : Watched :=
  let reading := w.reading.packet connectedFingers packet
  ⟨reading, if reading.calls.length = w.reading.calls.length then w.pending ++ [packet] else []⟩

def packets (connectedFingers : Fin numFingers → Bool) (w : Watched) (packets : List (List UInt8)) :
    Watched :=
  packets.foldl (packet connectedFingers) w

def calls (connectedFingers : Fin numFingers → Bool) (w : Watched) (packet : List UInt8) : Prop :=
  (w.reading.packet connectedFingers packet).calls.length = w.reading.calls.length + 1

end Watched

/-- The callback is called at the packets with which every connected finger has had a field decoded since
the last call, and no finger counts as updated without one. -/
structure CompleteFrames (connectedFingers : Fin numFingers → Bool) (s : Reading)
    (packets : List (List UInt8)) : Prop where
  called : ∀ before packet after, packets = before ++ packet :: after →
    let w := (Watched.mk s []).packets connectedFingers before
    w.calls connectedFingers packet ↔
      ∀ f, connectedFingers f → ∃ p ∈ w.pending ++ [packet], decodes p f
  counted : ∀ before after, packets = before ++ after →
    let w := (Watched.mk s []).packets connectedFingers before
    ∀ f, w.reading.sensorData.isNew f = true → ∃ p ∈ w.pending, decodes p f

theorem watched_calls_iff (w : Watched) (packet : List UInt8) :
    w.calls connectedFingers packet ↔
      (w.reading.sensorData.next connectedFingers packet).2 = true := by
  rw [Watched.calls, Reading.packet]
  by_cases sample : (w.reading.sensorData.next connectedFingers packet).2 = true <;> simp [sample]

theorem watched_packet_pending (w : Watched) (packet : List UInt8) :
    (w.packet connectedFingers packet).pending =
      if (w.reading.sensorData.next connectedFingers packet).2 = true then []
      else w.pending ++ [packet] := by
  simp only [Watched.packet, Reading.packet]
  by_cases sample : (w.reading.sensorData.next connectedFingers packet).2 = true <;> simp [sample]

theorem watched_packet_sensorData (w : Watched) (packet : List UInt8) :
    (w.packet connectedFingers packet).reading.sensorData =
      (w.reading.sensorData.next connectedFingers packet).1 := by
  simp only [Watched.packet, Reading.packet]
  split <;> rfl

def Flagged (w : Watched) : Prop :=
  ∀ f, w.reading.sensorData.isNew f = true ↔ ∃ p ∈ w.pending, addresses p f

theorem flagged_packet {w : Watched} (h : Flagged w) (packet : Framed) :
    Flagged (w.packet connectedFingers packet.bytes) := by
  intro f
  have flag := (@SensorData.next_isNew connectedFingers w.reading.sensorData packet).2 f
  rw [watched_packet_sensorData, watched_packet_pending, flag]
  by_cases sample : (w.reading.sensorData.next connectedFingers packet.bytes).2 = true
  · simp [sample]
  · rw [if_neg sample, h f]
    simp [sample, or_and_right, exists_or, or_comm]

theorem flagged_packets {s : Reading} (clear : ∀ f, s.sensorData.isNew f = false)
    (packets : List Framed) :
    Flagged ((Watched.mk s []).packets connectedFingers (packets.map (·.bytes))) := by
  have start : Flagged ⟨s, []⟩ := fun f => by simp [clear f]
  rw [Watched.packets, List.foldl_map]
  exact List.foldlRecOn packets _ start fun w h packet _ => flagged_packet h packet

theorem calls_iff_addressed {w : Watched} (h : Flagged w) (packet : Framed) :
    w.calls connectedFingers packet.bytes ↔
      ∀ f, connectedFingers f → ∃ p ∈ w.pending ++ [packet.bytes], addresses p f := by
  rw [watched_calls_iff, (w.reading.sensorData.next_isNew packet).1]
  refine forall_congr' fun f => imp_congr_right fun _ => ?_
  rw [h f]
  simp [or_and_right, exists_or, or_comm]

theorem pending_subset (w : Watched) (packets : List (List UInt8)) :
    ∀ p ∈ (w.packets connectedFingers packets).pending, p ∈ w.pending ∨ p ∈ packets := by
  induction packets generalizing w with
  | nil => exact fun p hp => .inl hp
  | cons packet packets ih =>
      intro p hp
      rcases ih (w.packet connectedFingers packet) p hp with before | later
      · rw [watched_packet_pending] at before
        split at before
        · cases before
        · rcases List.mem_append.mp before with old | new
          · exact .inl old
          · exact .inr (List.mem_singleton.mp new ▸ List.mem_cons_self)
      · exact .inr (List.mem_cons_of_mem _ later)

theorem not_pending_addresses {s : Reading} (clear : ∀ f, s.sensorData.isNew f = false)
    (packets : List Framed) (f : Fin numFingers) :
    ∀ p ∈ ((Watched.mk s []).packets (fun g => g == f) (packets.map (·.bytes))).pending,
      ¬ addresses p f := by
  induction packets using List.reverseRecOn with
  | nil => exact fun p hp => by cases hp
  | append_singleton packets packet ih =>
      have flagged := @flagged_packets (fun g => g == f) s clear packets
      rw [List.map_append, Watched.packets, List.foldl_append]
      change ∀ p ∈ (Watched.packet _ (Watched.packets _ _ _) _).pending, _
      rw [watched_packet_pending]
      split
      · exact fun p hp => by cases hp
      · rename_i quiet
        intro p hp
        rcases List.mem_append.mp hp with old | new
        · exact ih p old
        · intro addressed
          rw [List.mem_singleton.mp new] at addressed
          refine quiet ((watched_calls_iff _ _).mp ((calls_iff_addressed flagged packet).mpr ?_))
          intro g same
          rw [eq_of_beq same]
          exact ⟨packet.bytes, by simp, addressed⟩

/-- Packets that decode a field for each finger they address are exactly those with which the frames are
complete, whichever fingers are connected. -/
theorem complete_frames_iff {s : Reading} (clear : ∀ f, s.sensorData.isNew f = false)
    (packets : List Framed) :
    (∀ connectedFingers : Fin numFingers → Bool, (∃ f, connectedFingers f) →
        CompleteFrames connectedFingers s (packets.map (·.bytes))) ↔
      ∀ packet ∈ packets, ∀ f, addresses packet.bytes f → decodes packet.bytes f := by
  constructor
  · intro complete packet hpacket f addressed
    by_contra undecoded
    obtain ⟨before, after, rfl⟩ := List.append_of_mem hpacket
    have flagged := @flagged_packets (fun g => g == f) s clear before
    have silent := not_pending_addresses clear before f
    have called := (complete (fun g => g == f) ⟨f, beq_self_eq_true f⟩).called
      (before.map (·.bytes)) packet.bytes (after.map (·.bytes)) (by simp)
    obtain ⟨p, hp, decoded⟩ := called.mp ((calls_iff_addressed flagged packet).mpr fun g same =>
      ⟨packet.bytes, by simp, eq_of_beq same ▸ addressed⟩) f (beq_self_eq_true f)
    rcases List.mem_append.mp hp with old | new
    · exact silent p old (addresses_of_decodes decoded)
    · exact undecoded (List.mem_singleton.mp new ▸ decoded)
  · intro decoded connectedFingers _
    have same : ∀ p ∈ packets.map (·.bytes), ∀ f, decodes p f ↔ addresses p f := by
      intro p hp f
      obtain ⟨packet, hpacket, rfl⟩ := List.mem_map.mp hp
      exact ⟨addresses_of_decodes, decoded packet hpacket f⟩
    constructor
    · intro before packet after split w
      obtain ⟨first, rest, rfl, hfirst, hrest⟩ := List.map_eq_append_iff.mp split
      obtain ⟨packet', after', rfl, rfl, -⟩ := List.map_eq_cons_iff.mp hrest
      subst hfirst
      refine (calls_iff_addressed (flagged_packets clear first) packet').trans ?_
      refine forall_congr' fun f => imp_congr_right fun _ => exists_congr fun p =>
        and_congr_right fun hp => (same p ?_ f).symm
      rcases List.mem_append.mp hp with old | new
      · rcases pending_subset _ _ p old with none | past
        · cases none
        · rw [split]
          exact List.mem_append_left _ past
      · rw [split, List.mem_singleton.mp new]
        exact List.mem_append_right _ List.mem_cons_self
    · intro before after split w f new
      obtain ⟨first, rest, rfl, hfirst, -⟩ := List.map_eq_append_iff.mp split
      subst hfirst
      obtain ⟨p, hp, addressed⟩ := (flagged_packets clear first f).mp new
      refine ⟨p, hp, (same p ?_ f).mpr addressed⟩
      rcases pending_subset _ _ p hp with none | past
      · cases none
      · rw [split]
        exact List.mem_append_left _ past

def Reading.start : Reading := ⟨.init, []⟩

def dynamicPacket (tag : UInt8) : Framed :=
  ⟨[usbPacketStartByte, 0, usbCommandReadSensors, 3, tag, 0, 1], ⟨_, rfl⟩, rfl⟩

theorem complete_frames_of_two_fingers :
    CompleteFrames (fun _ => true) .start ([dynamicPacket 0x20, dynamicPacket 0x24].map (·.bytes)) :=
  (complete_frames_iff (by decide) [dynamicPacket 0x20, dynamicPacket 0x24]).mpr (by decide) _
    ⟨⟨0, by decide⟩, rfl⟩

def unknownTypePacket : Framed :=
  ⟨[usbPacketStartByte, 0, usbCommandAutosendSyncSensors, 1, 0x00], ⟨_, rfl⟩, rfl⟩

theorem unknown_type_completes_frame :
    ¬ ∀ (connectedFingers : Fin numFingers → Bool) (s : Reading) (packets : List Framed),
      (∃ f, connectedFingers f) → (∀ f, s.sensorData.isNew f = false) →
      (∀ packet ∈ packets, packet.isSensor) →
      CompleteFrames connectedFingers s (packets.map (·.bytes)) := by
  intro complete
  have first : ∃ f : Fin numFingers, decide (f.val = 0) = true := ⟨⟨0, by decide⟩, rfl⟩
  have frames := complete (fun f => decide (f.val = 0)) .start [unknownTypePacket] first (by decide)
    (by decide)
  have called : Watched.calls (fun f => decide (f.val = 0)) ⟨.start, []⟩ unknownTypePacket.bytes := by
    rw [watched_calls_iff]
    decide +kernel
  have undecoded : ¬ decodes unknownTypePacket.bytes ⟨0, by decide⟩ := by decide
  obtain ⟨p, hp, decoded⟩ := (frames.called [] unknownTypePacket.bytes [] rfl).mp called
    ⟨0, by decide⟩ rfl
  exact undecoded (List.mem_singleton.mp hp ▸ decoded)

end TactileSensors.Usb.Quickstart
