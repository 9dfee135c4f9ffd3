import TactileSensors.Usb.Framing

/-!
# Command packets on the wire

What `create_command_packet` makes, among bytes that are no start byte, is what both framers cut out
again, whatever its data holds.
-/

namespace TactileSensors.Usb
open Scan

def appendByte (packet : List UInt8) (value : Int) : Except String (List UInt8) :=
  if 0 ≤ value ∧ value < 256 then .ok (packet ++ [value.toNat.toUInt8])
  else .error "byte must be in range(0, 256)"

def createCommandPacket (command : Int) (data : List UInt8) : Except String (List UInt8) :=
  let dataLength := data.length
  if usbPacketMaxDataSize < dataLength then
    .error s!"Data too large: {dataLength} > {usbPacketMaxDataSize}"
  else do
    let packet := [usbPacketStartByte]
    let packet ← appendByte packet 0x00
    let packet ← appendByte packet command
    let packet ← appendByte packet dataLength
    pure (packet ++ data)

/-- It makes a packet of a byte and of 255 bytes at most. The check for 256 lets one more through, and
appending its length raises. -/
theorem createCommandPacket_eq_ok {command : Int} {data packet : List UInt8} :
    createCommandPacket command data = .ok packet ↔
      (0 ≤ command ∧ command < 256) ∧ data.length < 256 ∧
        packet = [usbPacketStartByte, 0, command.toNat.toUInt8, data.length.toUInt8] ++ data := by
  by_cases large : usbPacketMaxDataSize < data.length
  · have long : ¬ data.length < 256 := by
      simp only [usbPacketMaxDataSize] at large
      omega
    rw [createCommandPacket, if_pos large]
    exact iff_of_false (fun h => by cases h) fun h => long h.2.1
  have placeholder : appendByte [usbPacketStartByte] 0x00 = .ok [usbPacketStartByte, 0] := rfl
  rw [createCommandPacket, if_neg large]
  by_cases byte : 0 ≤ command ∧ command < 256
  · have second : appendByte [usbPacketStartByte, 0] command =
        .ok [usbPacketStartByte, 0, command.toNat.toUInt8] := if_pos byte
    by_cases fits : data.length < 256
    · have third : appendByte [usbPacketStartByte, 0, command.toNat.toUInt8] data.length =
          .ok [usbPacketStartByte, 0, command.toNat.toUInt8, data.length.toUInt8] := if_pos (by omega)
      simp only [bind, Except.bind, pure, Except.pure, placeholder, second, third, Except.ok.injEq]
      exact ⟨fun h => ⟨byte, fits, h.symm⟩, fun h => h.2.2.symm⟩
    · have third : appendByte [usbPacketStartByte, 0, command.toNat.toUInt8] data.length =
          .error "byte must be in range(0, 256)" := if_neg (by omega)
      simp only [bind, Except.bind, placeholder, second, third]
      exact iff_of_false (fun h => by cases h) fun h => fits h.2.1
  · have second : appendByte [usbPacketStartByte, 0] command =
        .error "byte must be in range(0, 256)" := if_neg byte
    simp only [bind, Except.bind, placeholder, second]
    exact iff_of_false (fun h => by cases h) fun h => byte h.1

/-- A packet that was made, and what was on the line before it. -/
structure Sent where
  garbage : List UInt8
  command : Int
  data : List UInt8
  packet : List UInt8
  noStart : usbPacketStartByte ∉ garbage
  created : createCommandPacket command data = .ok packet

def stream (sent : List Sent) (last : List UInt8) : List UInt8 :=
  sent.flatMap (fun s => s.garbage ++ s.packet) ++ last

theorem finds_garbage {garbage : List UInt8} (noStart : usbPacketStartByte ∉ garbage)
    (more : List UInt8) : framing.finds (garbage ++ more) = framing.finds more := by
  have nothing : fromStart garbage = [] := by
    refine (fromStart_cases garbage).resolve_right ?_
    rintro ⟨rest, found⟩
    have start : usbPacketStartByte ∈ fromStart garbage := by simp [found]
    exact noStart ((List.dropWhile_sublist _).subset start)
  rw [← (finds_fromStart garbage more).1, nothing, List.nil_append]

theorem finds_packet {packet : List UInt8} (starts : ∃ rest, packet = usbPacketStartByte :: rest)
    (whole : packetSize packet = packet.length) (more : List UInt8) :
    framing.finds (packet ++ more) = packet :: framing.finds more := by
  obtain ⟨rest, rfl⟩ := starts
  have header : usbPacketHeaderSize ≤ (usbPacketStartByte :: rest).length := by
    rw [← whole]
    exact four_le_packetSize _
  have same := packetSize_append more header
  have looks := look_start (rest ++ more)
  rw [← List.cons_append, same, whole, if_neg (by simp), List.take_left] at looks
  rw [Scanner.finds_of_some looks, List.drop_left]
  rfl

theorem Sent.packet_eq (s : Sent) :
    s.packet = [usbPacketStartByte, 0, s.command.toNat.toUInt8, s.data.length.toUInt8] ++ s.data :=
  (createCommandPacket_eq_ok.mp s.created).2.2

theorem Sent.length_data (s : Sent) : s.data.length.toUInt8.toNat = s.data.length :=
  Nat.mod_eq_of_lt (createCommandPacket_eq_ok.mp s.created).2.1

theorem Sent.packetSize_eq (s : Sent) : packetSize s.packet = s.packet.length := by
  have fourth : s.packet.getD 3 0 = s.data.length.toUInt8 := by rw [s.packet_eq]; rfl
  rw [packetSize, fourth, s.length_data, s.packet_eq, List.length_append]
  rfl

theorem finds_stream (sent : List Sent) {last : List UInt8} (noStart : usbPacketStartByte ∉ last) :
    framing.finds (stream sent last) = sent.map (·.packet) := by
  induction sent with
  | nil => simpa [stream] using finds_garbage noStart []
  | cons s sent ih =>
      have starts : ∃ rest, s.packet = usbPacketStartByte :: rest := ⟨_, s.packet_eq⟩
      have split : stream (s :: sent) last = s.garbage ++ (s.packet ++ stream sent last) := by
        simp [stream]
      rw [split, finds_garbage s.noStart, finds_packet starts s.packetSize_eq, ih]
      rfl

/-- The packets for which `usbReadByte` returns `true`. -/
def completed (r : Receiver) : List UInt8 → List UsbPacket
  | [] => []
  | d :: rest =>
      let next := usbReadByte r d
      (if next.1 = .completed then [next.2.packet] else []) ++ completed next.2 rest

theorem readBytes_eq_completed (r : Receiver) (bytes : List UInt8) :
    (readBytes r bytes).1 = (completed r bytes).map UsbPacket.contents := by
  induction bytes generalizing r with
  | nil => rfl
  | cons d rest ih =>
      rw [readBytes, completed, List.map_append, ← ih, packetOf]
      split <;> rfl

theorem completed_append (r : Receiver) (first rest : List UInt8) :
    completed r (first ++ rest) = completed r first ++ completed (readBytes r first).2 rest := by
  induction first generalizing r with
  | nil => rfl
  | cons d first ih => rw [List.cons_append, completed, completed, ih, readBytes, List.append_assoc]

theorem get_eq_contents (packet : UsbPacket) {i : Nat} (header : i < usbPacketHeaderSize) :
    packet.get i = packet.contents.getD i 0 := by
  have inside : i < packet.dataLength.toNat + usbPacketHeaderSize := Nat.lt_add_left _ header
  rw [UsbPacket.get, UsbPacket.contents, List.getD_eq_getElem?_getD, List.getD_eq_getElem?_getD,
    List.getElem?_take_of_lt inside]

/-- Whatever the data and the chunks, the quickstart cuts out the packets that were sent, and the SDK
has the command, the length and the data of each. -/
theorem commands_framed (sent : List Sent) {last : List UInt8} (noStart : usbPacketStartByte ∉ last)
    {chunks : List (List UInt8)} (split : chunks.flatten = stream sent last) (memory : UsbPacket) :
    (UsbPacketParser.init.feedChunks chunks).1 = sent.map (·.packet) ∧
      (completed ⟨memory, 0⟩ chunks.flatten).map
          (fun packet => (packet.command, packet.dataLength, packet.payload)) =
        sent.map fun s => (s.command.toNat.toUInt8, s.data.length.toUInt8, s.data) := by
  have python : (UsbPacketParser.init.feedChunks chunks).1 = framing.finds chunks.flatten :=
    feedChunks_eq_finds .init finds_nil chunks
  have cpp := (readBytes_spec (.start memory) chunks.flatten).1
  rw [split, List.nil_append, readBytes_eq_completed, finds_stream sent noStart] at cpp
  rw [python, split, finds_stream sent noStart]
  refine ⟨rfl, ?_⟩
  have ofContents := congrArg (List.map fun bytes : List UInt8 =>
    (bytes.getD 2 0, bytes.getD 3 0, bytes.drop usbPacketHeaderSize)) cpp
  rw [List.map_map, List.map_map] at ofContents
  refine Eq.trans (List.map_congr_left fun packet _ => ?_)
    (ofContents.trans (List.map_congr_left fun s _ => ?_))
  · rw [UsbPacket.command, UsbPacket.dataLength, get_eq_contents packet (by decide),
      get_eq_contents packet (by decide), packet.payload_eq_drop]
    rfl
  · rw [Function.comp_apply, s.packet_eq]
    rfl

def autosend : Sent := ⟨[0x01], 0x58, [0x9A], [0x9A, 0x00, 0x58, 0x01, 0x9A], by decide, rfl⟩
def getVersion : Sent := ⟨[0x02, 0x03], 0xE3, [], [0x9A, 0x00, 0xE3, 0x00], by decide, rfl⟩

theorem commands_framed_around_start_bytes :
    (UsbPacketParser.init.feedChunks [[0x01, 0x9A, 0x00], [], [0x58, 0x01, 0x9A, 0x02],
        [0x03, 0x9A, 0x00, 0xE3, 0x00, 0x04]]).1 =
      [[0x9A, 0x00, 0x58, 0x01, 0x9A], [0x9A, 0x00, 0xE3, 0x00]] :=
  (@commands_framed [autosend, getVersion] [0x04] (by decide)
    [[0x01, 0x9A, 0x00], [], [0x58, 0x01, 0x9A, 0x02], [0x03, 0x9A, 0x00, 0xE3, 0x00, 0x04]] rfl
    ⟨List.replicate usbPacketMaxSize 0, List.length_replicate⟩).1

end TactileSensors.Usb
