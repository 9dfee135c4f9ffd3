import Mathlib.Algebra.Order.Ring.Nat
import TactileSensors.Firmware.Flash

/-!
# Both ends of the packet format

What the host writes, a device that takes the same format apart gets back, and what a device writes, the host
reads. The sum and the checksum cancel, so a byte that changes alone is noticed.
-/

namespace TactileSensors.Firmware

def byteSum (data : List UInt8) : UInt16 := data.foldl (fun sum byte => sum + byte.toUInt16) 0

def total (data : List UInt8) : Nat := (data.map UInt8.toNat).sum

theorem checksum_eq_neg (data : List UInt8) : checksum data = -byteSum data := by
  rw [checksum, UInt16.not_eq_neg_sub, UInt16.sub_add_cancel]
  rfl

theorem toNat_byteSum (data : List UInt8) : (byteSum data).toNat = total data % 65536 := by
  induction data using List.reverseRecOn with
  | nil => rfl
  | append_singleton data byte ih =>
      have concat : byteSum (data ++ [byte]) = byteSum data + byte.toUInt16 := List.foldl_append
      rw [concat, UInt16.toNat_add, ih, UInt8.toNat_toUInt16, total, total, List.map_append, List.sum_append]
      simp

theorem total_add_checksum (data : List UInt8) : (total data + (checksum data).toNat) % 65536 = 0 := by
  have cancel : byteSum data + checksum data = 0 := by
    rw [checksum_eq_neg]
    exact UInt16.add_right_neg _
  have zero := congrArg UInt16.toNat cancel
  rw [UInt16.toNat_add, toNat_byteSum, UInt16.toNat_zero] at zero
  omega

theorem toNat_bytes (n : UInt16) : (lowByte n).toNat + 256 * (highByte n).toNat = n.toNat := by
  have small : n.toNat < 2 ^ 16 := n.toNat_lt
  have low : (lowByte n).toNat = n.toNat % 2 ^ 8 := UInt16.toNat_toUInt8 n
  have eight : UInt16.toNat 8 % 16 = 8 := rfl
  have high : (highByte n).toNat = n.toNat / 2 ^ 8 := by
    rw [highByte, UInt16.toNat_toUInt8, UInt16.toNat_shiftRight, eight, Nat.shiftRight_eq_div_pow]
    exact Nat.mod_eq_of_lt (by omega)
  rw [low, high]
  omega

theorem checksum_inj {before after : List UInt8} {b c : UInt8}
    (same : checksum (before ++ b :: after) = checksum (before ++ c :: after)) : b = c := by
  rw [checksum_eq_neg, checksum_eq_neg, UInt16.neg_inj] at same
  have sums := congrArg UInt16.toNat same
  have small := b.toNat_lt
  have small' := c.toNat_lt
  simp only [toNat_byteSum, total, List.map_append, List.map_cons, List.sum_append, List.sum_cons] at sums
  exact UInt8.toNat_inj.mp (by omega)

def decodePacket : List UInt8 → Option Command
  | start :: command :: low :: high :: rest =>
    let length := (low.toUInt16 ||| high.toUInt16 <<< 8).toNat
    let data := rest.take length
    match rest.drop length with
    | sumLow :: sumHigh :: stop :: _ =>
      let head := start :: command :: low :: high :: data
      if start = 0x01 ∧ stop = 0x17 ∧ sumLow.toUInt16 ||| sumHigh.toUInt16 <<< 8 = checksum head then
        some ⟨command, data⟩
      else none
    | _ => none
  | _ => none

theorem toNat_length {data : List UInt8} (fits : data.length ≤ 64 - 7) :
    data.length.toUInt16.toNat = data.length := by
  rw [Nat.toUInt16, UInt16.toNat_ofNat_of_lt']
  exact Nat.lt_of_le_of_lt fits (by decide)

theorem checksum_packetHead (command : UInt8) (data : List UInt8) :
    checksum (packetHead command data).tail = checksum (packetHead command data) := by
  rw [checksum_eq_neg, checksum_eq_neg]
  rfl

theorem decodePacket_reportOf {c : Command} (h : Fits c) (padding : List UInt8) :
    decodePacket ((reportOf c).tail ++ padding) = some c := by
  have length := toNat_length h
  have report : (reportOf c).tail ++ padding =
      0x01 :: c.code :: lowByte c.data.length.toUInt16 :: highByte c.data.length.toUInt16 ::
        (c.data ++ lowByte (checksum (packetHead c.code c.data)) ::
          highByte (checksum (packetHead c.code c.data)) :: 0x17 :: padding) := by
    simp [reportOf, packetHead]
  have sum := checksum_packetHead c.code c.data
  rw [report, decodePacket, bytes_join, length]
  simp only [List.take_left', List.drop_left', bytes_join]
  exact if_pos ⟨trivial, trivial, sum.symm⟩

def responseHead (code : UInt8) (data : List UInt8) : List UInt8 :=
  [0x01, code, lowByte data.length.toUInt16, highByte data.length.toUInt16] ++ data

def framed (code : UInt8) (data : List UInt8) (sumLow sumHigh : UInt8) : List UInt8 :=
  responseHead code data ++ [sumLow, sumHigh, 0x17]

def respond (code : UInt8) (data : List UInt8) : List UInt8 :=
  framed code data (lowByte (checksum (responseHead code data))) (highByte (checksum (responseHead code data)))

theorem length_responseHead (code : UInt8) (data : List UInt8) :
    (responseHead code data).length = 4 + data.length := by
  rw [responseHead, List.length_append]
  rfl

theorem framed_append (code : UInt8) {data : List UInt8} (sumLow sumHigh : UInt8) (padding : List UInt8) :
    framed code data sumLow sumHigh ++ padding =
      responseHead code data ++ sumLow :: sumHigh :: 0x17 :: padding := by
  simp [framed]

theorem parseResponse_framed {code : UInt8} {status : Status} (known : statuses code = some status)
    {data : List UInt8} (fits : data.length ≤ 64 - 7) (sumLow sumHigh : UInt8) (padding : List UInt8) :
    parseResponse (framed code data sumLow sumHigh ++ padding) =
      .ok ⟨status, data, checksum (responseHead code data) = sumLow.toUInt16 ||| sumHigh.toUInt16 <<< 8⟩ := by
  have length := toNat_length fits
  have report : framed code data sumLow sumHigh ++ padding = _ := framed_append code sumLow sumHigh padding
  have behind : ∀ i, byteAt (framed code data sumLow sumHigh ++ padding) (4 + data.length + i) =
      byteAt (sumLow :: sumHigh :: 0x17 :: padding) i := by
    intro i
    rw [report, byteAt, byteAt, ← length_responseHead code data,
      List.getElem?_append_right (Nat.le_add_right _ _), Nat.add_sub_cancel_left]
  have atSumLow : byteAt (framed code data sumLow sumHigh ++ padding) (4 + data.length) = .ok sumLow := behind 0
  have atSumHigh : byteAt (framed code data sumLow sumHigh ++ padding) (4 + data.length + 1) = .ok sumHigh :=
    behind 1
  have atEnd : byteAt (framed code data sumLow sumHigh ++ padding) (4 + data.length + 2) = .ok 0x17 := behind 2
  have atStart : byteAt (framed code data sumLow sumHigh ++ padding) 0 = .ok 0x01 := rfl
  have atStatus : byteAt (framed code data sumLow sumHigh ++ padding) 1 = .ok code := rfl
  have atLow : byteAt (framed code data sumLow sumHigh ++ padding) 2 =
    .ok (lowByte data.length.toUInt16) := rfl
  have atHigh : byteAt (framed code data sumLow sumHigh ++ padding) 3 =
    .ok (highByte data.length.toUInt16) := rfl
  have dataLength : ((highByte data.length.toUInt16).toUInt16 <<< 8 |||
      (lowByte data.length.toUInt16).toUInt16).toNat = data.length := by
    rw [UInt16.or_comm, bytes_join, length]
  have payload : ((framed code data sumLow sumHigh ++ padding).drop 4).take data.length = data := by
    simp [framed, responseHead]
  have head : (framed code data sumLow sumHigh ++ padding).take (4 + data.length) = responseHead code data := by
    rw [report, List.take_left' (length_responseHead code data)]
  simp [parseResponse, atStart, atStatus, known, atLow, atHigh, dataLength, payload, atSumLow, atSumHigh, head,
    atEnd, bind, Except.bind, pure, Except.pure]

theorem toNat_join (low high : UInt8) :
    (low.toUInt16 ||| high.toUInt16 <<< 8).toNat = low.toNat + 256 * high.toNat := by
  have join := Nat.shiftLeft_add_eq_or_of_lt low.toNat_lt high.toNat
  have small := high.toNat_lt
  have eight : UInt16.toNat 8 % 16 = 8 := rfl
  have whole : high.toNat * 2 ^ 8 % 2 ^ 16 = high.toNat * 2 ^ 8 := Nat.mod_eq_of_lt (by omega)
  rw [Nat.shiftLeft_eq] at join
  rw [UInt16.toNat_or, UInt8.toNat_toUInt16, UInt16.toNat_shiftLeft, UInt8.toNat_toUInt16, eight,
    Nat.shiftLeft_eq, whole, Nat.or_comm, ← join]
  omega

theorem join_inj {low high low' high' : UInt8}
    (same : low.toUInt16 ||| high.toUInt16 <<< 8 = low'.toUInt16 ||| high'.toUInt16 <<< 8) :
    low = low' ∧ high = high' := by
  have numbers := congrArg UInt16.toNat same
  have small := low.toNat_lt
  have small' := low'.toNat_lt
  rw [toNat_join, toNat_join] at numbers
  exact ⟨UInt8.toNat_inj.mp (by omega), UInt8.toNat_inj.mp (by omega)⟩

def Covered (data : List UInt8) (i : Nat) : Prop := i = 1 ∨ 4 ≤ i ∧ i < 4 + data.length + 2

theorem checksum_ne_of_status {code b : UInt8} (changed : b ≠ code) (data : List UInt8) :
    checksum (responseHead b data) ≠ checksum (responseHead code data) := by
  intro same
  have split : ∀ c, responseHead c data =
      [0x01] ++ c :: ([lowByte data.length.toUInt16, highByte data.length.toUInt16] ++ data) := fun _ => rfl
  rw [split, split] at same
  exact changed (checksum_inj same)

theorem checksum_ne_of_data {data : List UInt8} {j : Nat} {b : UInt8} (inside : j < data.length)
    (changed : data[j]? ≠ some b) (code : UInt8) :
    checksum (responseHead code (data.set j b)) ≠ checksum (responseHead code data) := by
  intro same
  have split : data = data.take j ++ data[j] :: data.drop (j + 1) := by
    rw [List.getElem_cons_drop, List.take_append_drop]
  have head : responseHead code data =
      ([0x01, code, lowByte data.length.toUInt16, highByte data.length.toUInt16] ++ data.take j) ++
        data[j] :: data.drop (j + 1) := by
    rw [responseHead, List.append_assoc, ← split]
  have head' : responseHead code (data.set j b) =
      ([0x01, code, lowByte data.length.toUInt16, highByte data.length.toUInt16] ++ data.take j) ++
        b :: data.drop (j + 1) := by
    rw [responseHead, List.length_set, List.append_assoc, List.set_eq_take_append_cons_drop, if_pos inside]
  rw [head, head'] at same
  exact changed (by rw [List.getElem?_eq_getElem inside, checksum_inj same])

section
variable {data : List UInt8} (code sumLow sumHigh b : UInt8) (padding : List UInt8)

theorem set_data {j : Nat} (inside : j < data.length) :
    (framed code data sumLow sumHigh ++ padding).set (4 + j) b =
      framed code (data.set j b) sumLow sumHigh ++ padding := by
  have within : 4 + j < (responseHead code data).length := by
    rw [length_responseHead]
    exact Nat.add_lt_add_left inside 4
  have head : (responseHead code data).set (4 + j) b = responseHead code (data.set j b) := by
    rw [responseHead, responseHead, List.length_set, List.set_append_right _ _ (Nat.le_add_right 4 j)]
    exact congrArg _ (congrArg (data.set · b) (Nat.add_sub_cancel_left 4 j))
  rw [framed_append, framed_append, List.set_append_left _ _ within, head]

theorem set_sum (i : Nat) : (framed code data sumLow sumHigh ++ padding).set (4 + data.length + i) b =
    responseHead code data ++ (sumLow :: sumHigh :: 0x17 :: padding).set i b := by
  rw [framed_append, ← length_responseHead code data, List.set_append_right _ _ (Nat.le_add_right _ i),
    Nat.add_sub_cancel_left]

end

theorem parseResponse_sum_changed {code : UInt8} {status : Status} (known : statuses code = some status)
    {data : List UInt8} (fits : data.length ≤ 64 - 7) (padding : List UInt8) {low high : UInt8}
    (other : low.toUInt16 ||| high.toUInt16 <<< 8 ≠ checksum (responseHead code data)) :
    ∃ response, parseResponse (framed code data low high ++ padding) = .ok response ∧
      response.checksumOk = false :=
  ⟨_, parseResponse_framed known fits low high padding, decide_eq_false (Ne.symm other)⟩

theorem parseResponse_changed {code : UInt8} {status : Status} (known : statuses code = some status)
    {data : List UInt8} (fits : data.length ≤ 64 - 7) (padding : List UInt8) {i : Nat} {b : UInt8}
    (covered : Covered data i) (stillKnown : i = 1 → (statuses b).isSome)
    (changed : (respond code data)[i]? ≠ some b) :
    ∃ response, parseResponse ((respond code data ++ padding).set i b) = .ok response ∧
      response.checksumOk = false := by
  have sum := bytes_join (checksum (responseHead code data))
  rcases covered with rfl | ⟨low, high⟩
  · obtain ⟨status', known'⟩ := Option.isSome_iff_exists.mp (stillKnown rfl)
    have other : b ≠ code := fun same => changed (same ▸ rfl)
    refine ⟨_, parseResponse_framed known' fits _ _ padding, decide_eq_false ?_⟩
    rw [sum]
    exact checksum_ne_of_status other data
  · obtain ⟨j, rfl⟩ := Nat.exists_eq_add_of_le low
    by_cases inside : j < data.length
    · have other : data[j]? ≠ some b := by
        intro same
        refine changed ?_
        rw [respond, framed, List.getElem?_append_left (by rw [length_responseHead]; omega), responseHead,
          List.getElem?_append_right low]
        exact (congrArg (data[·]?) (Nat.add_sub_cancel_left 4 j)).trans same
      have fits' : (data.set j b).length ≤ 64 - 7 := by rwa [List.length_set]
      rw [respond, set_data _ _ _ _ _ inside]
      refine ⟨_, parseResponse_framed known fits' _ _ padding, decide_eq_false ?_⟩
      rw [sum]
      exact checksum_ne_of_data inside other code
    · have behind : ∀ k, (respond code data)[4 + data.length + k]? =
          [lowByte (checksum (responseHead code data)), highByte (checksum (responseHead code data)), 0x17][k]? := by
        intro k
        rw [respond, framed, ← length_responseHead code data,
          List.getElem?_append_right (Nat.le_add_right _ _), Nat.add_sub_cancel_left]
      obtain rfl | rfl : j = data.length ∨ j = data.length + 1 := by omega
      · have first : (respond code data ++ padding).set (4 + data.length) b =
            framed code data b (highByte (checksum (responseHead code data))) ++ padding := by
          rw [framed_append]
          exact set_sum code _ _ b padding 0
        rw [first]
        refine parseResponse_sum_changed known fits padding fun same => changed ?_
        rw [(join_inj (same.trans sum.symm)).1]
        exact behind 0
      · have second : (respond code data ++ padding).set (4 + (data.length + 1)) b =
            framed code data (lowByte (checksum (responseHead code data))) b ++ padding := by
          rw [framed_append]
          exact set_sum code _ _ b padding 1
        rw [second]
        refine parseResponse_sum_changed known fits padding fun same => changed ?_
        rw [(join_inj (same.trans sum.symm)).2]
        exact behind 1

/-- Both directions of the format for some data, and what the checksum notices. -/
structure Codec (data : List UInt8) : Prop where
  sent : ∀ command, ∃ packet body low high, makePacket command data = .ok packet ∧
    packet = body ++ [low, high, 0x17] ∧ body.length = 5 + data.length ∧
    (total body + (low.toNat + 256 * high.toNat)) % 65536 = 0 ∧
    ∀ padding, decodePacket (packet.tail ++ padding) = some ⟨command, data⟩
  received : ∀ code status padding, statuses code = some status →
    parseResponse (respond code data ++ padding) = .ok ⟨status, data, true⟩
  changed : ∀ code status padding i b, statuses code = some status → Covered data i →
    (i = 1 → (statuses b).isSome) → (respond code data)[i]? ≠ some b →
    ∃ response, parseResponse ((respond code data ++ padding).set i b) = .ok response ∧
      response.checksumOk = false

theorem packet_codec {data : List UInt8} (fits : data.length ≤ 57) : Codec data := by
  constructor
  · intro command
    have within : Fits ⟨command, data⟩ := fits
    refine ⟨reportOf ⟨command, data⟩, packetHead command data, _, _, makePacket_of_fits within, rfl, ?_, ?_,
      decodePacket_reportOf within⟩
    · rw [packetHead, List.length_append]
      rfl
    · rw [toNat_bytes]
      exact total_add_checksum (packetHead command data)
  · intro code status padding known
    rw [respond, parseResponse_framed known fits, bytes_join]
    simp
  · exact fun code status padding i b known => parseResponse_changed known fits padding

theorem packet_codec_two_bytes : Codec [0x12, 0x34] := packet_codec (by decide)

end TactileSensors.Firmware
