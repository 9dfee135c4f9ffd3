import TactileSensors.Bytes.BigEndian
import TactileSensors.ForceTorque.Burst
import TactileSensors.ForceTorque.Resync

/-!
# What the stream reader delivers

Windows of the stream, one behind the other and each with the header and a CRC that holds, whatever the
chunks. On a stream of frames only these are all of them, and each decodes to what was encoded.
-/

namespace TactileSensors.ForceTorque
open Bytes Scan

/-- Compensated force and torque, as the sensor sends it. -/
structure Reading where
  fx : Int16
  fy : Int16
  fz : Int16
  mx : Int16
  my : Int16
  mz : Int16
deriving DecidableEq

def littleEndian (value : Int16) : List UInt8 :=
  [value.toUInt16.toUInt8, (value.toUInt16 >>> 8).toUInt8]

namespace Reading

def payload (r : Reading) : List UInt8 :=
  [r.fx, r.fy, r.fz, r.mx, r.my, r.mz].flatMap littleEndian

def frame (r : Reading) : List UInt8 :=
  framed (streamHeader ++ r.payload)

def scaled (r : Reading) : List ℚ :=
  [r.fx.toInt / 100, r.fy.toInt / 100, r.fz.toInt / 100, r.mx.toInt / 1000, r.my.toInt / 1000,
    r.mz.toInt / 1000]

end Reading

theorem window_of_look {buffer frame : List UInt8} {drop : Nat}
    (h : look buffer = some (drop, some frame)) :
    drop = streamFrameBytes ∧ frame = buffer.take streamFrameBytes ∧
      streamFrameBytes ≤ buffer.length ∧ frame.take 2 = streamHeader ∧ crcHolds frame := by
  have full := full_of_look h
  by_cases starts : startsFrame buffer
  · have found := look_of_frame starts
    rw [h] at found
    cases found
    obtain ⟨-, header, crc⟩ := of_decide_eq_true starts
    refine ⟨rfl, rfl, full, ?_, crc⟩
    rw [List.take_take]
    exact header
  · cases buffer with
    | nil => cases h
    | cons byte rest =>
        by_cases twenty : byte = 0x20
        · subst twenty
          rw [look_of_false_start full starts] at h
          cases h
        · rw [look_of_garbage full twenty] at h
          cases h

theorem toInt16_littleEndian (value : Int16) :
    toInt16 value.toUInt16.toUInt8 (value.toUInt16 >>> 8).toUInt8 = value.toInt := by
  have word : value.toUInt16.toUInt8.toNat ||| (value.toUInt16 >>> 8).toUInt8.toNat <<< 8 =
      value.toUInt16.toNat := by
    rw [Nat.or_comm, shiftLeft_or_byte]
    have small := value.toUInt16.toNat_lt
    simp
    omega
  have means : value.toInt = if 32768 ≤ value.toUInt16.toNat then (value.toUInt16.toNat : Int) - 65536
      else value.toUInt16.toNat := toInt_toInt16 value.toUInt16
  rw [toInt16, word, means]
  simp only [and_sign_bit value.toUInt16.toNat_lt]

namespace Reading

theorem length_frame (r : Reading) : r.frame.length = streamFrameBytes := rfl

theorem decode_frame (r : Reading) : decodeStreamFrame r.frame = r.scaled := by
  have payload : (r.frame.take (r.frame.length - 2)).drop 2 = r.payload := rfl
  rw [decodeStreamFrame, payload]
  have values : ((List.range 6).map fun i =>
      toInt16 (r.payload.getD (2 * i) 0) (r.payload.getD (2 * i + 1) 0)) =
      [r.fx, r.fy, r.fz, r.mx, r.my, r.mz].map Int16.toInt := by
    simp only [← toInt16_littleEndian, List.map_cons, List.map_nil]
    rfl
  rw [values]
  rfl

theorem startsFrame_frame (r : Reading) (rest : List UInt8) : startsFrame (r.frame ++ rest) := by
  have window : (r.frame ++ rest).take streamFrameBytes = r.frame := by
    rw [← r.length_frame, List.take_left]
  refine decide_eq_true ⟨?_, rfl, ?_⟩
  · rw [List.length_append, r.length_frame]
    exact Nat.le_add_right _ _
  · rw [window]
    exact crcHolds_framed _

end Reading

theorem finds_frames (readings : List Reading) {rest : List UInt8}
    (short : rest.length < streamFrameBytes) :
    streamReader.finds (readings.flatMap Reading.frame ++ rest) = readings.map Reading.frame := by
  induction readings with
  | nil => exact Scanner.finds_of_none (look_eq_none.mpr short)
  | cons r readings ih =>
      rw [List.flatMap_cons, List.append_assoc]
      have found : streamReader.look (r.frame ++ (readings.flatMap Reading.frame ++ rest)) = _ :=
        look_of_frame (r.startsFrame_frame _)
      rw [Scanner.finds_of_some found, ← r.length_frame, List.take_left, List.drop_left, ih]
      rfl

/-- The frames that are delivered are windows of the stream, one behind the other, with the header and
a CRC that holds; how the stream is cut does not matter; and of a stream of frames, behind which the
next one may have begun, each is delivered as what it encodes. -/
theorem stream_delivered (chunks : List (List UInt8)) :
    (delivered chunks).Pairwise (fun x y => x.1 + streamFrameBytes ≤ y.1) ∧
      (∀ x ∈ delivered chunks, x.1 + streamFrameBytes ≤ chunks.flatten.length ∧
        x.2 = (chunks.flatten.drop x.1).take streamFrameBytes ∧ x.2.take 2 = streamHeader ∧
        crcHolds x.2) ∧
      (∀ others : List (List UInt8), others.flatten = chunks.flatten →
        delivered others = delivered chunks) ∧
      ∀ (readings : List Reading) (rest : List UInt8), rest.length < streamFrameBytes →
        chunks.flatten = readings.flatMap Reading.frame ++ rest →
          (delivered chunks).map Prod.snd = readings.map Reading.frame ∧
          callbacks chunks = readings.map Reading.scaled := by
  refine ⟨?_, fun x hx => ?_, fun others same => ?_, fun readings rest short stream => ?_⟩
  · rw [delivered_eq_scan]
    exact streamReader.pairwise_scan (fun h => (window_of_look h).1.ge) _
  · rw [delivered_eq_scan] at hx
    obtain ⟨drop, h⟩ := streamReader.look_of_mem_scan _ hx
    obtain ⟨-, window, full, header, crc⟩ := window_of_look h
    have inside : streamFrameBytes ≤ chunks.flatten.length - x.1 := by simpa using full
    have positive : 0 < streamFrameBytes := by decide
    exact ⟨by omega, window, header, crc⟩
  · rw [delivered_eq_scan, delivered_eq_scan, same]
  · have frames : (delivered chunks).map Prod.snd = readings.map Reading.frame := by
      rw [delivered_eq_scan, streamReader.map_scan, stream]
      exact finds_frames readings short
    refine ⟨frames, ?_⟩
    have decoded : callbacks chunks = ((delivered chunks).map Prod.snd).map decodeStreamFrame := by
      rw [callbacks, List.map_map]
      rfl
    rw [decoded, frames, List.map_map]
    exact List.map_congr_left fun r _ => r.decode_frame

end TactileSensors.ForceTorque
