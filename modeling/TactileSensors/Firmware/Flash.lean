import Mathlib.Data.List.Induction
import TactileSensors.Firmware.Bootloader

/-!
# Flashing an image

A row is a fixed list of commands, its three branches notwithstanding: full packets for the row
buffer, then one command that programs what is left. Flashing is sending the commands of all rows
until one is not acknowledged, so the device has acted on a prefix of them.
-/

namespace TactileSensors.Firmware

/-! ## Reports -/

def Fits (c : Command) : Prop := c.data.length ≤ 64 - 7

def reportOf (c : Command) : List UInt8 :=
  packetHead c.code c.data ++
    [lowByte (checksum (packetHead c.code c.data)), highByte (checksum (packetHead c.code c.data)), 0x17]

theorem makePacket_of_fits {c : Command} (h : Fits c) : makePacket c.code c.data = .ok (reportOf c) := by
  exact if_pos h

theorem bytes_join (n : UInt16) : (lowByte n).toUInt16 ||| (highByte n).toUInt16 <<< 8 = n := by
  have small : n.toNat < 2 ^ 16 := n.toNat_lt
  have low : n.toNat % 2 ^ 8 < 2 ^ 8 := Nat.mod_lt _ (by decide)
  have join := Nat.shiftLeft_add_eq_or_of_lt low (n.toNat / 2 ^ 8)
  have eight : UInt16.toNat 8 % 16 = 8 := rfl
  have high : n.toNat / 2 ^ 8 % 2 ^ 8 = n.toNat / 2 ^ 8 := Nat.mod_eq_of_lt (by omega)
  have whole : n.toNat / 2 ^ 8 * 2 ^ 8 % 2 ^ 16 = n.toNat / 2 ^ 8 * 2 ^ 8 :=
    Nat.mod_eq_of_lt (by omega)
  apply UInt16.toNat_inj.mp
  simp only [lowByte, highByte, UInt16.toNat_or, UInt8.toNat_toUInt16, UInt16.toNat_toUInt8,
    UInt16.toNat_shiftLeft, UInt16.toNat_shiftRight, eight, Nat.shiftRight_eq_div_pow, high]
  rw [Nat.shiftLeft_eq] at join ⊢
  rw [whole, Nat.or_comm, ← join]
  omega

theorem decode_reportOf {c : Command} (h : Fits c) : Device.decode (reportOf c) = c := by
  have length : c.data.length.toUInt16.toNat = c.data.length := by
    have : c.data.length ≤ 57 := h
    rw [Nat.toUInt16, UInt16.toNat_ofNat_of_lt']
    exact Nat.lt_of_le_of_lt this (by decide)
  have joined := bytes_join c.data.length.toUInt16
  have data : (reportOf c).drop 5 = c.data ++ [lowByte (checksum (packetHead c.code c.data)),
      highByte (checksum (packetHead c.code c.data)), 0x17] := rfl
  have lengthBytes : ((reportOf c).getD 3 0).toUInt16 ||| ((reportOf c).getD 4 0).toUInt16 <<< 8 =
      c.data.length.toUInt16 := joined
  rw [Device.decode]
  simp only [lengthBytes, data, length]
  rw [List.take_left]
  rfl

/-! ## Sending commands until one is refused -/

section
variable (replies : Nat → List UInt8)

/-- What a caller of `send_command` makes of the reply. -/
def verdict (reply : List UInt8) : Except BootloaderError Bool :=
  ((parseResponse reply).mapError .response).map Response.good

theorem acknowledges_iff {reply : List UInt8} : acknowledges reply ↔ verdict reply = .ok true := by
  rw [acknowledges, verdict]
  cases parseResponse reply with
  | error failure => simp [Except.map, Except.mapError]
  | ok response => simp [Except.map, Except.mapError]

theorem verdict_ne_packetTooLong (reply : List UInt8) : verdict reply ≠ .error .packetTooLong := by
  rw [verdict]
  cases parseResponse reply <;> simp [Except.map, Except.mapError]

theorem verdict_of_isOk {reply : List UInt8} (h : (parseResponse reply).isOk) :
    ∃ ret, verdict reply = .ok ret := by
  rw [verdict]
  cases hparse : parseResponse reply with
  | error failure => simp [hparse, Except.isOk, Except.toBool] at h
  | ok response => exact ⟨response.good, rfl⟩

def send (session : Session) (c : Command) : Session × Except BootloaderError Bool :=
  let answer := sendCommand replies session c.code c.data
  (answer.1, answer.2.map Response.good)

def sendAll (session : Session) : List Command → Session × Except BootloaderError Bool
  | [] => (session, .ok true)
  | c :: rest =>
      match send replies session c with
      | (session, .ok true) => sendAll session rest
      | stopped => stopped

def Device.actAll (device : Device) (commands : List Command) : Device :=
  commands.foldl Device.act device

/-- What comes of sending commands that fit: all of them are acknowledged, or the first that is not
is the last one sent. -/
inductive Sent (session : Session) (commands : List Command)
    (result : Session × Except BootloaderError Bool) : Prop
  | all (acknowledged : ∀ i < commands.length, acknowledges (replies (session.sent.length + i)))
      (device : result.1.device = session.device.actAll commands)
      (sent : result.1.sent = session.sent ++ commands.map reportOf)
      (returned : result.2 = .ok true)
  | stopped (before after : List Command) (c : Command) (split : commands = before ++ c :: after)
      (acknowledged : ∀ i < before.length, acknowledges (replies (session.sent.length + i)))
      (refused : ¬ acknowledges (replies (session.sent.length + before.length)))
      (device : result.1.device = session.device.actAll before)
      (sent : result.1.sent = session.sent ++ (before ++ [c]).map reportOf)
      (returned : result.2 = verdict (replies (session.sent.length + before.length)))

variable {replies}

theorem send_of_fits (session : Session) {c : Command} (h : Fits c) :
    send replies session c =
      (session.write (reportOf c) (replies session.sent.length),
        verdict (replies session.sent.length)) := by
  rw [send, sendCommand, makePacket_of_fits h]
  rfl

theorem write_acknowledged (session : Session) {c : Command} {reply : List UInt8} (h : Fits c)
    (acked : acknowledges reply) :
    session.write (reportOf c) reply =
      ⟨session.device.act c, session.sent ++ [reportOf c]⟩ := by
  rw [Session.write, if_pos acked, decode_reportOf h]

theorem write_refused (session : Session) (c : Command) {reply : List UInt8}
    (refused : ¬ acknowledges reply) :
    session.write (reportOf c) reply = ⟨session.device, session.sent ++ [reportOf c]⟩ := by
  rw [Session.write, if_neg refused]

theorem send_acknowledged (session : Session) {c : Command} (h : Fits c)
    (acked : acknowledges (replies session.sent.length)) :
    send replies session c =
      (⟨session.device.act c, session.sent ++ [reportOf c]⟩, .ok true) := by
  rw [send_of_fits session h, write_acknowledged session h acked, acknowledges_iff.mp acked]

theorem sendAll_sent (session : Session) {commands : List Command} (h : ∀ c ∈ commands, Fits c) :
    Sent replies session commands (sendAll replies session commands) := by
  induction commands generalizing session with
  | nil => exact .all (by simp) rfl (by simp [sendAll]) rfl
  | cons c commands ih =>
      have fits : Fits c := h c List.mem_cons_self
      by_cases acked : acknowledges (replies session.sent.length)
      · rw [sendAll, send_acknowledged session fits acked]
        have first : ∀ n, (∀ i < n, acknowledges (replies (session.sent.length + 1 + i))) →
            ∀ i < n + 1, acknowledges (replies (session.sent.length + i)) := by
          intro n later i hi
          cases i with
          | zero => exact acked
          | succ i =>
              have := later i (Nat.lt_of_succ_lt_succ hi)
              rwa [Nat.add_assoc, Nat.add_comm 1 i] at this
        cases ih ⟨session.device.act c, session.sent ++ [reportOf c]⟩
            (fun c' h' => h c' (List.mem_cons_of_mem c h')) with
        | all acknowledged device sent returned =>
            simp only [List.length_append, List.length_singleton] at acknowledged
            exact .all (first _ acknowledged) device (by simp [sent]) returned
        | stopped before after c' split acknowledged refused device sent returned =>
            simp only [List.length_append, List.length_singleton] at acknowledged refused returned
            rw [Nat.add_assoc, Nat.add_comm 1] at refused returned
            exact .stopped (c :: before) after c' (by simp [split]) (first _ acknowledged) refused
              device (by simp [sent]) returned
      · have refused : verdict (replies session.sent.length) ≠ .ok true :=
          fun good => acked (acknowledges_iff.mpr good)
        have stops : sendAll replies session (c :: commands) = send replies session c := by
          rw [sendAll]
          split
          · rename_i session' good
            rw [send_of_fits session fits] at good
            exact absurd (congrArg Prod.snd good) refused
          · rfl
        rw [stops, send_of_fits session fits, write_refused session c acked]
        exact .stopped [] commands c rfl (by simp) acked rfl rfl rfl

/-! ## The commands of a row -/

def packetsAhead (length : Nat) : Nat := (length - 1) / maxDataLength

def fullPacket (data : List UInt8) (i : Nat) : List UInt8 :=
  slice data (maxDataLength * i) (maxDataLength * i + maxDataLength)

def rowCommands (row : Row) : List Command :=
  let ahead := packetsAhead row.data.length
  (List.range ahead).map (fun i => ⟨sendDataCommand, fullPacket row.data i⟩) ++
    [⟨programRowCommand, [row.arrayId, lowByte row.rowNumber, highByte row.rowNumber] ++
      row.data.drop (maxDataLength * ahead)⟩]

theorem sendAll_append (session : Session) (first rest : List Command) :
    sendAll replies session (first ++ rest) =
      match sendAll replies session first with
      | (session, .ok true) => sendAll replies session rest
      | stopped => stopped := by
  induction first generalizing session with
  | nil => rfl
  | cons c first ih =>
      rw [List.cons_append, sendAll, sendAll]
      split
      · exact ih _
      · rename_i stopped hstopped
        split
        · rename_i h
          exact absurd h (hstopped _)
        · rfl

theorem sendAll_singleton (session : Session) (c : Command) :
    sendAll replies session [c] = send replies session c := by
  rw [sendAll]
  split
  · rename_i h
    rw [h, sendAll]
  · rfl

theorem sendFullPackets_eq (session : Session) (data : List UInt8) (is : List Nat) :
    sendFullPackets replies session data is =
      sendAll replies session (is.map fun i => ⟨sendDataCommand, fullPacket data i⟩) := by
  induction is generalizing session with
  | nil => rfl
  | cons i is ih => simp only [sendFullPackets, List.map_cons, sendAll, ih]; rfl

theorem slice_to_end {data : List UInt8} (start : Nat) {stop : Nat} (h : data.length ≤ stop) :
    slice data start stop = data.drop start := by
  rw [slice, List.take_of_length_le h]

theorem flashRow_eq (session : Session) (row : Row) :
    flashRow replies session row = sendAll replies session (rowCommands row) := by
  rw [rowCommands, sendAll_append, ← sendFullPackets_eq, flashRow]
  simp only [sendAll_singleton]
  have split := Nat.div_add_mod row.data.length maxDataLength
  by_cases long : maxDataLength ≤ row.data.length
  · rw [if_pos long]
    by_cases more : 0 < row.data.length % maxDataLength
    · have ahead : packetsAhead row.data.length = row.data.length / maxDataLength := by
        simp only [packetsAhead, maxDataLength] at more ⊢
        omega
      rw [if_pos more, ahead, slice_to_end _ (Nat.le_of_eq split.symm)]
      rfl
    · have ahead : packetsAhead row.data.length = row.data.length / maxDataLength - 1 := by
        simp only [packetsAhead, maxDataLength] at more long ⊢
        omega
      rw [if_neg more, ahead, slice_to_end]
      · rfl
      · simp only [maxDataLength] at more long split ⊢
        omega
  · have ahead : packetsAhead row.data.length = 0 := by
      simp only [packetsAhead, maxDataLength] at long ⊢
      omega
    rw [if_neg long, ahead]
    rfl

theorem flashFrom_eq (session : Session) (rows : List Row) :
    flashFrom replies true session rows = sendAll replies session (rows.flatMap rowCommands) := by
  induction rows generalizing session with
  | nil => rfl
  | cons row rows ih =>
      have split := @sendAll_append replies session (rowCommands row) (rows.flatMap rowCommands)
      simp only [← ih, ← flashRow_eq] at split
      exact split.symm

theorem flash_eq (session : Session) {image : List Row} (nonempty : image ≠ []) :
    flash replies session image = sendAll replies session (image.flatMap rowCommands) := by
  cases image with
  | nil => exact absurd rfl nonempty
  | cons row rows =>
      rw [← flashFrom_eq]
      rfl

end

/-! ## What the device makes of them -/

theorem flatten_fullPackets (data : List UInt8) (n : Nat) :
    ((List.range n).map (fullPacket data)).flatten = data.take (maxDataLength * n) := by
  induction n with
  | zero => simp
  | succ n ih =>
      rw [List.range_succ, List.map_append, List.flatten_append, ih, Nat.mul_succ, List.take_add]
      simp [fullPacket, slice, List.drop_take]

theorem actAll_sends (device : Device) (packets : List (List UInt8)) :
    device.actAll (packets.map fun data => ⟨sendDataCommand, data⟩) =
      { device with buffer := device.buffer ++ packets.flatten } := by
  induction packets generalizing device with
  | nil => simp [Device.actAll]
  | cons data packets ih =>
      have first : device.act ⟨sendDataCommand, data⟩ =
          { device with buffer := device.buffer ++ data } := if_pos rfl
      rw [Device.actAll, List.map_cons, List.foldl_cons, ← Device.actAll, first, ih]
      simp

theorem actAll_append (device : Device) (first rest : List Command) :
    device.actAll (first ++ rest) = (device.actAll first).actAll rest :=
  List.foldl_append

theorem actAll_singleton (device : Device) (c : Command) : device.actAll [c] = device.act c :=
  rfl

theorem act_programRow (device : Device) (arrayId : UInt8) (rowNumber : UInt16)
    (data : List UInt8) :
    device.act ⟨programRowCommand, [arrayId, lowByte rowNumber, highByte rowNumber] ++ data⟩ =
      ⟨[], device.programmed ++ [⟨arrayId, rowNumber, device.buffer ++ data⟩]⟩ := by
  have other : programRowCommand ≠ sendDataCommand := by decide
  rw [Device.act, if_neg other, if_pos rfl]
  simp [bytes_join]

def packetsOf (row : Row) : List (List UInt8) :=
  (List.range (packetsAhead row.data.length)).map (fullPacket row.data)

theorem rowCommands_eq (row : Row) :
    rowCommands row = (packetsOf row).map (fun data => ⟨sendDataCommand, data⟩) ++
      [⟨programRowCommand, [row.arrayId, lowByte row.rowNumber, highByte row.rowNumber] ++
        row.data.drop (maxDataLength * packetsAhead row.data.length)⟩] := by
  simp [rowCommands, packetsOf]

theorem actAll_rowCommands {device : Device} (empty : device.buffer = []) (row : Row) :
    device.actAll (rowCommands row) = ⟨[], device.programmed ++ [row]⟩ := by
  rw [rowCommands_eq, actAll_append, actAll_sends, packetsOf, flatten_fullPackets, empty]
  rw [actAll_singleton, act_programRow, List.nil_append, List.take_append_drop]

theorem programmed_of_prefix (device : Device) {row : Row} {commands : List Command}
    (h : commands <+: rowCommands row) :
    commands = rowCommands row ∨ (device.actAll commands).programmed = device.programmed := by
  rw [rowCommands_eq, List.prefix_concat_iff, ← rowCommands_eq] at h
  refine h.imp id fun h => ?_
  obtain ⟨packets, -, rfl⟩ := List.prefix_map_iff.mp h
  rw [actAll_sends]

theorem actAll_image {device : Device} (empty : device.buffer = []) (image : List Row) :
    device.actAll (image.flatMap rowCommands) = ⟨[], device.programmed ++ image⟩ := by
  induction image generalizing device with
  | nil =>
      cases device
      cases empty
      simp [Device.actAll]
  | cons row rows ih =>
      rw [List.flatMap_cons, actAll_append, actAll_rowCommands empty, ih rfl]
      simp

theorem programmed_of_prefix_image {device : Device} (empty : device.buffer = []) {image : List Row}
    {commands : List Command} (h : commands <+: image.flatMap rowCommands) :
    ∃ n, (device.actAll commands).programmed = device.programmed ++ image.take n := by
  induction image generalizing device commands with
  | nil =>
      obtain rfl : commands = [] := List.prefix_nil.mp h
      exact ⟨0, by simp [Device.actAll]⟩
  | cons row rows ih =>
      rw [List.flatMap_cons] at h
      rcases List.prefix_or_prefix_of_prefix h (List.prefix_append _ _) with inside | ⟨later, rfl⟩
      · rcases programmed_of_prefix device inside with rfl | same
        · exact ⟨1, by simp [actAll_rowCommands empty]⟩
        · exact ⟨0, by simp [same]⟩
      · have rest := (List.prefix_append_right_inj _).mp h
        rw [actAll_append, actAll_rowCommands empty]
        obtain ⟨n, programmed⟩ := @ih ⟨[], device.programmed ++ [row]⟩ rfl later rest
        exact ⟨n + 1, by simp [programmed]⟩

def lastData (image : List Row) (arrayId : UInt8) (rowNumber : UInt16) : Option (List UInt8) :=
  (image.reverse.find? fun row => row.arrayId = arrayId ∧ row.rowNumber = rowNumber).map Row.data

theorem content_eq_lastData (device : Device) (before : UInt8 → UInt16 → List UInt8)
    (arrayId : UInt8) (rowNumber : UInt16) :
    device.content before arrayId rowNumber =
      (lastData device.programmed arrayId rowNumber).getD (before arrayId rowNumber) := by
  rw [Device.content, lastData]
  induction device.programmed using List.reverseRecOn with
  | nil => rfl
  | append_singleton rows row ih =>
      rw [List.foldl_append, List.foldl_cons, List.foldl_nil, List.reverse_concat, List.find?_cons, ih]
      by_cases here : row.arrayId = arrayId ∧ row.rowNumber = rowNumber
      · simp [here]
      · simp [here]

/-! ## Flashing -/

def rowBytes (c : Command) : List UInt8 :=
  if c.code = programRowCommand then c.data.drop 3 else c.data

/-- The report carries a command that fits, with no more row data than `MAX_DATA_LENGTH`. -/
def ReportWithin (report : List UInt8) : Prop :=
  makePacket (Device.decode report).code (Device.decode report).data = .ok report ∧
    (Device.decode report).data.length ≤ 64 - 7 ∧
    (rowBytes (Device.decode report)).length ≤ maxDataLength

theorem rowCommands_within {row : Row} {c : Command} (h : c ∈ rowCommands row) :
    Fits c ∧ (rowBytes c).length ≤ maxDataLength := by
  rw [rowCommands, List.mem_append, List.mem_map, List.mem_singleton] at h
  rcases h with ⟨i, -, rfl⟩ | rfl
  · have other : sendDataCommand ≠ programRowCommand := by decide
    have length : (fullPacket row.data i).length ≤ 48 := by
      simp only [fullPacket, slice, List.length_drop, List.length_take, maxDataLength]
      omega
    simp only [Fits, rowBytes, if_neg other, maxDataLength]
    omega
  · have length : (row.data.drop (maxDataLength * packetsAhead row.data.length)).length ≤ 48 := by
      simp only [List.length_drop, packetsAhead, maxDataLength]
      omega
    simp only [Fits, rowBytes, if_pos, List.length_append, List.length_cons, List.length_nil]
    refine ⟨by omega, length⟩

theorem reportOf_within {row : Row} {c : Command} (h : c ∈ rowCommands row) :
    ReportWithin (reportOf c) := by
  obtain ⟨fits, within⟩ := rowCommands_within h
  rw [ReportWithin, decode_reportOf fits]
  exact ⟨makePacket_of_fits fits, fits, within⟩

def Session.start : Session := ⟨⟨[], []⟩, []⟩

theorem flash_sent (replies : Nat → List UInt8) (session : Session) {image : List Row}
    (nonempty : image ≠ []) :
    Sent replies session (image.flatMap rowCommands) (flash replies session image) := by
  rw [flash_eq session nonempty]
  refine sendAll_sent session fun c h => ?_
  obtain ⟨row, -, h⟩ := List.mem_flatMap.mp h
  exact (rowCommands_within h).1

/-- Whatever the device answers. -/
theorem flash_programs_image (replies : Nat → List UInt8) (image : List Row) (nonempty : image ≠ []) :
    let (session, outcome) := flash replies .start image
    (∀ report ∈ session.sent, ReportWithin report) ∧
      outcome ≠ .error .packetTooLong ∧
      ((∀ i < session.sent.length, (parseResponse (replies i)).isOk) → ∃ ret, outcome = .ok ret) ∧
      (outcome = .ok true →
        (∀ i < session.sent.length, acknowledges (replies i)) ∧
        session.device.programmed = image ∧
        ∀ before arrayId rowNumber, session.device.content before arrayId rowNumber =
          (lastData image arrayId rowNumber).getD (before arrayId rowNumber)) ∧
      (outcome = .ok false →
        (∃ k, session.sent.length = k + 1 ∧ (∀ i < k, acknowledges (replies i)) ∧
          ¬ acknowledges (replies k)) ∧
        ∃ n, session.device.programmed = image.take n) := by
  have sent := flash_sent replies .start nonempty
  have within : ∀ commands, commands <+: image.flatMap rowCommands →
      ∀ report ∈ commands.map reportOf, ReportWithin report := by
    intro commands front report hreport
    obtain ⟨c, h, rfl⟩ := List.mem_map.mp hreport
    obtain ⟨row, -, h⟩ := List.mem_flatMap.mp (front.subset h)
    exact reportOf_within h
  revert sent
  generalize flash replies .start image = result
  obtain ⟨session, outcome⟩ := result
  rintro (⟨acknowledged, device, reports, returned⟩ |
    ⟨before, after, c, split, acknowledged, refused, device, reports, returned⟩)
  all_goals simp only [Session.start, List.length_nil, List.nil_append, Nat.zero_add] at *
  · subst returned
    rw [actAll_image rfl] at device
    simp only [reports, device, List.length_map, List.nil_append]
    refine ⟨within _ (List.prefix_refl _), nofun, fun _ => ⟨true, rfl⟩, fun _ => ?_, nofun⟩
    exact ⟨acknowledged, trivial, content_eq_lastData _⟩
  · have front : before ++ [c] <+: image.flatMap rowCommands := ⟨after, by simp [split]⟩
    have unacknowledged : verdict (replies before.length) ≠ .ok true :=
      fun good => refused (acknowledges_iff.mpr good)
    obtain ⟨n, programmed⟩ := @programmed_of_prefix_image ⟨[], []⟩ rfl image before
      ((List.prefix_append before [c]).trans front)
    subst returned
    simp only [reports, device, List.length_map, List.length_append, List.length_singleton]
    refine ⟨within _ front, verdict_ne_packetTooLong _, fun readable => ?_, fun good => ?_, fun _ => ?_⟩
    · exact verdict_of_isOk (readable _ (Nat.lt_succ_self _))
    · exact absurd good unacknowledged
    · exact ⟨⟨before.length, rfl, acknowledged, refused⟩, n, programmed⟩

def acknowledgement : List UInt8 := [0x01, 0x00, 0x00, 0x00, 0xFF, 0xFF, 0x17]

theorem flash_programs_long_row :
    let row : Row := ⟨1, 0x102, List.replicate 49 0xA5⟩
    (flash (fun _ => acknowledgement) .start [row]).2 = .ok true ∧
      (flash (fun _ => acknowledgement) .start [row]).1.device.programmed = [row] := by
  intro row
  have flashed : (flash (fun _ => acknowledgement) .start [row]).2 = .ok true := by decide +kernel
  exact ⟨flashed, ((flash_programs_image (fun _ => acknowledgement) [row]
    (List.cons_ne_nil row [])).2.2.2.1 flashed).2.1⟩

end TactileSensors.Firmware
