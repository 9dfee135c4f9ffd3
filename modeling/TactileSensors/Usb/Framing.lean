import TactileSensors.Scan.Scanner
import TactileSensors.Usb.Packet

/-!
# The framers agree

Both framers are one scanner: skip what is no start byte, wait for the header and the length it
announces, then cut the packet off. The Python buffer is what the scanner leaves of the stream behind
some garbage, and the C++ reader has it in the first `readSoFar` bytes of its packet.
-/

namespace TactileSensors.Usb
open Scan

def packetLook (buffer : List UInt8) : Option (Nat × Option (List UInt8)) :=
  match buffer with
  | [] => none
  | byte :: rest =>
      if byte ≠ usbPacketStartByte then some (1, none)
      else if (byte :: rest).length < packetSize (byte :: rest) then none
      else some (packetSize (byte :: rest), some ((byte :: rest).take (packetSize (byte :: rest))))

theorem packetSize_append {buffer : List UInt8} (more : List UInt8)
    (h : usbPacketHeaderSize ≤ buffer.length) : packetSize (buffer ++ more) = packetSize buffer := by
  have third : (buffer ++ more)[3]? = buffer[3]? :=
    List.getElem?_append_left (by simp only [usbPacketHeaderSize] at h; omega)
  simp only [packetSize, List.getD_eq_getElem?_getD, third]

theorem four_le_packetSize (buffer : List UInt8) : usbPacketHeaderSize ≤ packetSize buffer :=
  Nat.le_add_right _ _

theorem packetLook_bounds {buffer : List UInt8} {drop : Nat} {found : Option (List UInt8)}
    (h : packetLook buffer = some (drop, found)) : 0 < drop ∧ drop ≤ buffer.length := by
  match buffer with
  | [] => cases h
  | byte :: rest =>
      have header : 4 ≤ packetSize (byte :: rest) := four_le_packetSize _
      rw [packetLook] at h
      split_ifs at h with other short
      · obtain ⟨rfl, -⟩ := Prod.mk.inj (Option.some.inj h)
        simp
      · obtain ⟨rfl, -⟩ := Prod.mk.inj (Option.some.inj h)
        omega

theorem packetLook_append {buffer : List UInt8} {seen : Nat × Option (List UInt8)}
    (more : List UInt8) (h : packetLook buffer = some seen) :
    packetLook (buffer ++ more) = some seen := by
  match buffer with
  | [] => cases h
  | byte :: rest =>
      rw [packetLook] at h
      split_ifs at h with other short
      · rw [List.cons_append, packetLook, if_pos other, ← h]
      · have header : usbPacketHeaderSize ≤ (byte :: rest).length :=
          Nat.le_trans (four_le_packetSize _) (Nat.le_of_not_lt short)
        have same := packetSize_append more header
        rw [List.cons_append] at same
        have longer : ¬ (byte :: (rest ++ more)).length < packetSize (byte :: rest) := by
          simp only [List.length_cons, List.length_append] at short ⊢
          omega
        rw [List.cons_append, packetLook, if_neg other, same, if_neg longer, ← h, ← List.cons_append,
          List.take_append_of_le_length (Nat.le_of_not_lt short)]

def framing : Scanner UInt8 (List UInt8) where
  look := packetLook
  advances h := (packetLook_bounds h).1
  within h := (packetLook_bounds h).2
  stable more h := packetLook_append more h

@[simp] theorem finds_nil : framing.finds [] = [] := Scanner.finds_of_none rfl

@[simp] theorem residue_nil : framing.residue [] = [] := Scanner.residue_of_none rfl

theorem look_start (rest : List UInt8) :
    framing.look (usbPacketStartByte :: rest) =
      if (usbPacketStartByte :: rest).length < packetSize (usbPacketStartByte :: rest) then none
      else some (packetSize (usbPacketStartByte :: rest),
        some ((usbPacketStartByte :: rest).take (packetSize (usbPacketStartByte :: rest)))) := by
  simp [framing, packetLook]

def fromStart (buffer : List UInt8) : List UInt8 :=
  buffer.dropWhile (· != usbPacketStartByte)

theorem look_garbage {byte : UInt8} (rest : List UInt8) (other : byte ≠ usbPacketStartByte) :
    framing.look (byte :: rest) = some (1, none) := by
  simp [framing, packetLook, other]

theorem finds_fromStart (buffer more : List UInt8) :
    framing.finds (fromStart buffer ++ more) = framing.finds (buffer ++ more) ∧
      framing.residue (fromStart buffer ++ more) = framing.residue (buffer ++ more) := by
  induction buffer with
  | nil => exact ⟨rfl, rfl⟩
  | cons byte rest ih =>
      by_cases h : byte = usbPacketStartByte
      · simp [fromStart, h]
      · have skips := look_garbage (rest ++ more) h
        rw [fromStart, List.dropWhile_cons_of_pos (by simpa using h), List.cons_append,
          Scanner.finds_of_some skips, Scanner.residue_of_some skips]
        exact ih

theorem finds_fromStart_self (buffer : List UInt8) :
    framing.finds (fromStart buffer) = framing.finds buffer ∧
      framing.residue (fromStart buffer) = framing.residue buffer := by
  simpa using finds_fromStart buffer []

theorem fromStart_cases (buffer : List UInt8) :
    fromStart buffer = [] ∨ ∃ rest, fromStart buffer = usbPacketStartByte :: rest := by
  induction buffer with
  | nil => exact .inl rfl
  | cons byte rest ih =>
      by_cases h : byte = usbPacketStartByte
      · exact .inr ⟨rest, by simp [fromStart, h]⟩
      · rwa [fromStart, List.dropWhile_cons_of_pos (by simpa using h)]

theorem fromStart_fromStart (buffer : List UInt8) : fromStart (fromStart buffer) = fromStart buffer := by
  rcases fromStart_cases buffer with h | ⟨rest, h⟩ <;> rw [h] <;> simp [fromStart]

theorem length_fromStart_le (buffer : List UInt8) : (fromStart buffer).length ≤ buffer.length :=
  (List.dropWhile_sublist _).length_le

theorem fromStart_of_findIdx? {buffer : List UInt8} {i : Nat}
    (h : buffer.findIdx? (· == usbPacketStartByte) = some i) :
    fromStart buffer = buffer.drop i := by
  induction buffer generalizing i with
  | nil => cases h
  | cons byte rest ih =>
      rw [List.findIdx?_cons] at h
      by_cases hb : byte = usbPacketStartByte
      · simp only [hb, beq_self_eq_true, if_true, Option.some.injEq] at h
        subst h
        simp [fromStart, hb]
      · simp only [beq_iff_eq, hb, if_false, Option.map_eq_some_iff] at h
        obtain ⟨j, hj, rfl⟩ := h
        rw [fromStart, List.dropWhile_cons_of_pos (by simpa using hb)]
        exact ih hj

theorem fromStart_of_findIdx?_none {buffer : List UInt8}
    (h : buffer.findIdx? (· == usbPacketStartByte) = none) : fromStart buffer = [] := by
  rcases fromStart_cases buffer with nothing | ⟨rest, found⟩
  · exact nothing
  · have start : usbPacketStartByte ∈ fromStart buffer := by simp [found]
    have := List.findIdx?_eq_none_iff.mp h _ ((List.dropWhile_sublist _).subset start)
    simp at this

theorem look_fromStart (buffer : List UInt8) :
    framing.look (fromStart buffer) =
      if (fromStart buffer).length < packetSize (fromStart buffer) then none
      else some (packetSize (fromStart buffer),
        some ((fromStart buffer).take (packetSize (fromStart buffer)))) := by
  rcases fromStart_cases buffer with nothing | ⟨rest, found⟩
  · rw [nothing]; rfl
  · rw [found, look_start]

theorem short_of_header {buffer : List UInt8} (h : buffer.length < usbPacketHeaderSize) :
    buffer.length < packetSize buffer :=
  Nat.lt_of_lt_of_le h (four_le_packetSize _)

theorem findPackets_eq (buffer : List UInt8) :
    findPackets buffer =
      if buffer.length < usbPacketHeaderSize then ([], buffer)
      else if (fromStart buffer).length < packetSize (fromStart buffer) then ([], fromStart buffer)
      else
        let rest := findPackets ((fromStart buffer).drop (packetSize (fromStart buffer)))
        ((fromStart buffer).take (packetSize (fromStart buffer)) :: rest.1, rest.2) := by
  rw [findPackets]
  by_cases short : buffer.length < usbPacketHeaderSize
  · rw [if_pos short, if_pos short]
  · rw [if_neg short, if_neg short]
    cases hfind : buffer.findIdx? (· == usbPacketStartByte) with
    | none =>
        rw [fromStart_of_findIdx?_none hfind]
        rfl
    | some i =>
        have start : buffer.drop i = fromStart buffer := (fromStart_of_findIdx? hfind).symm
        simp only [start]
        by_cases header : (fromStart buffer).length < usbPacketHeaderSize
        · rw [if_pos header, if_pos (short_of_header header)]
        · rw [if_neg header]

/-- The loop finds what the framing finds and leaves what it leaves, up to garbage before a start
byte that is yet to come. -/
theorem findPackets_spec (buffer : List UInt8) :
    (findPackets buffer).1 = framing.finds buffer ∧
      fromStart (findPackets buffer).2 = framing.residue buffer := by
  have same := finds_fromStart_self buffer
  have looks := look_fromStart buffer
  have shorter := length_fromStart_le buffer
  have header : 4 ≤ packetSize (fromStart buffer) := four_le_packetSize _
  rw [findPackets_eq, ← same.1, ← same.2]
  split_ifs with short incomplete
  · rw [if_pos (short_of_header (Nat.lt_of_le_of_lt shorter short))] at looks
    rw [Scanner.finds_of_none looks, Scanner.residue_of_none looks]
    exact ⟨rfl, rfl⟩
  · rw [if_pos incomplete] at looks
    rw [Scanner.finds_of_none looks, Scanner.residue_of_none looks]
    exact ⟨rfl, fromStart_fromStart buffer⟩
  · rw [if_neg incomplete] at looks
    have later := findPackets_spec ((fromStart buffer).drop (packetSize (fromStart buffer)))
    rw [Scanner.finds_of_some looks, Scanner.residue_of_some looks]
    exact ⟨by simp [later.1], later.2⟩
termination_by buffer.length
decreasing_by
  simp only [List.length_drop]
  omega

theorem feedBytes_finds (parser : UsbPacketParser) (data more : List UInt8) :
    (parser.feedBytes data).1 ++ framing.finds ((parser.feedBytes data).2.buffer ++ more) =
      framing.finds (parser.buffer ++ data ++ more) := by
  obtain ⟨finds, residue⟩ := findPackets_spec (parser.buffer ++ data)
  rw [framing.finds_append (parser.buffer ++ data), ← residue, (finds_fromStart _ more).1, ← finds]
  rfl

theorem feedBytes_waits (parser : UsbPacketParser) (data : List UInt8) :
    framing.finds (parser.feedBytes data).2.buffer = [] := by
  have residue := (findPackets_spec (parser.buffer ++ data)).2
  have waits := framing.look_residue (parser.buffer ++ data)
  rw [← residue] at waits
  rw [← (finds_fromStart_self _).1]
  exact Scanner.finds_of_none waits

theorem feedChunks_eq_finds (parser : UsbPacketParser)
    (waits : framing.finds parser.buffer = []) (chunks : List (List UInt8)) :
    (parser.feedChunks chunks).1 = framing.finds (parser.buffer ++ chunks.flatten) := by
  induction chunks generalizing parser with
  | nil => simp [UsbPacketParser.feedChunks, waits]
  | cons chunk chunks ih =>
      rw [UsbPacketParser.feedChunks, ih _ (feedBytes_waits parser chunk), feedBytes_finds]
      simp

structure Receiving (r : Receiver) (pending : List UInt8) : Prop where
  holds : r.packet.bytes.take r.readSoFar = pending
  waits : framing.look pending = none
  fits : r.readSoFar < usbPacketMaxSize

theorem Receiving.length_eq {r : Receiver} {pending : List UInt8} (h : Receiving r pending) :
    pending.length = r.readSoFar := by
  have fits := h.fits
  rw [← h.holds, List.length_take, r.packet.size]
  omega

theorem Receiving.start (packet : UsbPacket) : Receiving ⟨packet, 0⟩ [] :=
  ⟨rfl, rfl, Nat.succ_pos _⟩

theorem crc8_eq_calcCrc8 (packet : UsbPacket) (len : Nat) : packet.crc8 = calcCrc8 packet 2 len :=
  rfl

theorem packetSize_lt (buffer : List UInt8) : packetSize buffer < usbPacketMaxSize := by
  have := (buffer.getD 3 0).toNat_lt
  simp only [packetSize, usbPacketMaxSize, usbPacketHeaderSize, usbPacketMaxDataSize]
  omega

theorem waiting_cases {pending : List UInt8} (h : framing.look pending = none) :
    pending = [] ∨ (∃ rest, pending = usbPacketStartByte :: rest) ∧
      pending.length < packetSize pending := by
  match pending with
  | [] => exact .inl rfl
  | byte :: rest =>
      by_cases start : byte = usbPacketStartByte
      · subst start
        rw [look_start] at h
        exact .inr ⟨⟨rest, rfl⟩, by by_contra long; rw [if_neg long] at h; cases h⟩
      · rw [look_garbage rest start] at h
        cases h

theorem length_append_le {pending : List UInt8} (h : framing.look pending = none) (d : UInt8) :
    (pending ++ [d]).length ≤ packetSize (pending ++ [d]) := by
  have header : 4 ≤ packetSize (pending ++ [d]) := four_le_packetSize _
  rw [List.length_append, List.length_singleton]
  by_cases short : pending.length < 4
  · omega
  · rcases waiting_cases h with rfl | ⟨-, incomplete⟩
    · simp at short
    · rw [packetSize_append [d] (Nat.le_of_not_lt short)]
      omega

theorem take_set (packet : UsbPacket) {i : Nat} (d : UInt8) (h : i < usbPacketMaxSize) :
    (packet.set i d).bytes.take (i + 1) = packet.bytes.take i ++ [d] := by
  have inside : i < packet.bytes.length := packet.size ▸ h
  change (packet.bytes.set i d).take (i + 1) = _
  rw [List.take_add_one, List.take_set_of_le (Nat.le_refl i), List.getElem?_set_self inside]
  rfl

theorem packetSize_take (packet : UsbPacket) {n : Nat} (h : 3 < n) :
    packetSize (packet.bytes.take n) = packet.dataLength.toNat + usbPacketHeaderSize := by
  rw [packetSize, List.getD_eq_getElem?_getD, List.getElem?_take_of_lt h,
    ← List.getD_eq_getElem?_getD, Nat.add_comm]
  rfl

theorem usbReadByte_spec {r : Receiver} {pending : List UInt8} (h : Receiving r pending) (d : UInt8) :
    packetOf (usbReadByte r d) = framing.finds (pending ++ [d]) ∧
      Receiving (usbReadByte r d).2 (framing.residue (pending ++ [d])) ∧
      (usbReadByte r d).1 ≠ .resynced := by
  have length := h.length_eq
  by_cases garbage : r.readSoFar = 0 ∧ d ≠ usbPacketStartByte
  · obtain rfl : pending = [] := List.eq_nil_of_length_eq_zero (length.trans garbage.1)
    have skips := look_garbage [] garbage.2
    rw [usbReadByte, if_pos garbage, List.nil_append, Scanner.finds_of_some skips,
      Scanner.residue_of_some skips]
    exact ⟨by simp [packetOf], by simpa using h, fun same => by cases same⟩
  · have starts : ∃ rest, pending ++ [d] = usbPacketStartByte :: rest := by
      rcases waiting_cases h.waits with rfl | ⟨⟨rest, rfl⟩, -⟩
      · exact ⟨[], by simpa [← length] using garbage⟩
      · exact ⟨rest ++ [d], rfl⟩
    obtain ⟨rest, starts⟩ := starts
    have looks := look_start rest
    have stored := take_set r.packet d h.fits
    have grown := length_append_le h.waits d
    have small := packetSize_lt (pending ++ [d])
    have length' : (pending ++ [d]).length = r.readSoFar + 1 := by simp [length]
    rw [← starts] at looks
    rw [h.holds] at stored
    rw [usbReadByte, if_neg garbage, if_pos h.fits]
    by_cases complete : packetSize (pending ++ [d]) ≤ r.readSoFar + 1
    · -- the byte is the last one of its packet
      have whole : packetSize (pending ++ [d]) = (pending ++ [d]).length := by omega
      have header : 3 < r.readSoFar + 1 := by
        have := four_le_packetSize (pending ++ [d])
        simp only [usbPacketHeaderSize] at this
        omega
      have size := packetSize_take (r.packet.set r.readSoFar d) header
      rw [stored] at size
      rw [whole, if_neg (Nat.lt_irrefl _), List.take_length] at looks
      rw [Scanner.finds_of_some looks, Scanner.residue_of_some looks, List.drop_length, if_pos,
        if_pos (crc8_eq_calcCrc8 _ _)]
      · refine ⟨?_, ?_, fun same => by cases same⟩
        · simp [packetOf, UsbPacket.contents, ← size, whole, length', stored]
        · rw [residue_nil]
          exact .start _
      · exact ⟨header, by omega⟩
    · have waits : framing.look (pending ++ [d]) = none := by rw [looks, if_pos (by omega)]
      rw [Scanner.finds_of_none waits, Scanner.residue_of_none waits]
      rw [if_neg]
      · exact ⟨by simp [packetOf], ⟨stored, waits, by change r.readSoFar + 1 < _; omega⟩,
          fun same => by cases same⟩
      · rintro ⟨header, full⟩
        rw [← packetSize_take _ header, stored] at full
        exact complete full

/-- Byte by byte, the reader completes what the framing finds and never needs to resynchronise. -/
theorem readBytes_spec {r : Receiver} {pending : List UInt8} (h : Receiving r pending)
    (bytes : List UInt8) :
    (readBytes r bytes).1 = framing.finds (pending ++ bytes) ∧
      Receiving (readBytes r bytes).2 (framing.residue (pending ++ bytes)) := by
  induction bytes generalizing r pending with
  | nil => simpa [readBytes, Scanner.finds_of_none h.waits, Scanner.residue_of_none h.waits] using h
  | cons d bytes ih =>
      obtain ⟨completed, next, -⟩ := usbReadByte_spec h d
      obtain ⟨later, last⟩ := ih next
      rw [List.append_cons, framing.finds_append (pending ++ [d]),
        framing.residue_append (pending ++ [d]), ← completed, ← later]
      exact ⟨rfl, last⟩

theorem readBytes_append (r : Receiver) (first rest : List UInt8) :
    readBytes r (first ++ rest) =
      ((readBytes r first).1 ++ (readBytes (readBytes r first).2 rest).1,
        (readBytes (readBytes r first).2 rest).2) := by
  induction first generalizing r with
  | nil => rfl
  | cons d first ih => simp [readBytes, ih]

theorem readChunks_eq_readBytes (r : Receiver) (chunks : List (List UInt8)) :
    readChunks r chunks = readBytes r chunks.flatten := by
  induction chunks generalizing r with
  | nil => rfl
  | cons chunk chunks ih => simp [readChunks, ih, readBytes_append]

/-- Whatever the bytes and the chunks they come in, and whatever the packet's memory held, the two
framers cut out the same packets; the C++ one writes inside its packet and never resynchronises. -/
theorem framers_agree (packet : UsbPacket) (chunks : List (List UInt8)) :
    (UsbPacketParser.init.feedChunks chunks).1 = (readBytes ⟨packet, 0⟩ chunks.flatten).1 ∧
      (UsbPacketParser.init.feedChunks chunks).1 =
        (UsbPacketParser.init.feedBytes chunks.flatten).1 ∧
      readChunks ⟨packet, 0⟩ chunks = readBytes ⟨packet, 0⟩ chunks.flatten ∧
      (∀ received len, UsbPacket.crc8 received = calcCrc8 received 2 len) ∧
      ∀ bytes d, (readBytes ⟨packet, 0⟩ bytes).2.readSoFar < usbPacketMaxSize ∧
        (usbReadByte (readBytes ⟨packet, 0⟩ bytes).2 d).1 ≠ .resynced := by
  have python := feedChunks_eq_finds .init finds_nil chunks
  have whole := feedChunks_eq_finds .init finds_nil [chunks.flatten]
  have cpp := readBytes_spec (.start packet) chunks.flatten
  refine ⟨python.trans cpp.1.symm, ?_, readChunks_eq_readBytes _ _, crc8_eq_calcCrc8, ?_⟩
  · rw [python]
    simpa [UsbPacketParser.feedChunks] using whole.symm
  · intro bytes d
    have reading := (readBytes_spec (.start packet) bytes).2
    exact ⟨reading.fits, (usbReadByte_spec reading d).2.2⟩

end TactileSensors.Usb
