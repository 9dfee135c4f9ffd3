import TactileSensors.ForceTorque.Frame
import TactileSensors.Scan.Scanner

/-!
# Resynchronising on the force/torque stream

The buffer loop of `ModbusRTUStreamSource.read` as a scanner. After a first header byte with the
wrong second one it drops both, although that second one may be the first byte of a frame. Looked at
from the stream, the scanner walks a run of bytes 20 in steps of two from where the run begins, so
it meets a frame exactly when the run before it is even.
-/

namespace TactileSensors.ForceTorque
open Scan

def look (buffer : List UInt8) : Option (Nat × Option (List UInt8)) :=
  if buffer.length < streamFrameBytes then none
  else if buffer[0]? ≠ streamHeader[0]? then some (1, none)
  else if buffer[1]? ≠ streamHeader[1]? then some (2, none)
  else if !crcHolds (buffer.take streamFrameBytes) then some (2, none)
  else some (streamFrameBytes, some (buffer.take streamFrameBytes))

theorem look_eq_none {buffer : List UInt8} :
    look buffer = none ↔ buffer.length < streamFrameBytes := by
  unfold look
  split_ifs <;> simp_all

theorem full_of_look {buffer : List UInt8} {seen : Nat × Option (List UInt8)}
    (h : look buffer = some seen) : streamFrameBytes ≤ buffer.length := by
  by_contra short
  rw [look_eq_none.mpr (not_le.mp short)] at h
  cases h

theorem look_bounds {buffer : List UInt8} {drop : Nat} {found : Option (List UInt8)}
    (h : look buffer = some (drop, found)) : 0 < drop ∧ drop ≤ buffer.length := by
  have full : 16 ≤ buffer.length := full_of_look h
  unfold look at h
  split_ifs at h <;> simp only [Option.some.injEq, Prod.mk.injEq, streamFrameBytes] at h <;> omega

theorem look_append {buffer : List UInt8} {seen : Nat × Option (List UInt8)} (more : List UInt8)
    (h : look buffer = some seen) : look (buffer ++ more) = some seen := by
  have full : 16 ≤ buffer.length := full_of_look h
  have longer : ¬ (buffer ++ more).length < streamFrameBytes := by
    simp only [streamFrameBytes, List.length_append]
    omega
  have first : (buffer ++ more)[0]? = buffer[0]? := List.getElem?_append_left (by omega)
  have second : (buffer ++ more)[1]? = buffer[1]? := List.getElem?_append_left (by omega)
  have window : (buffer ++ more).take streamFrameBytes = buffer.take streamFrameBytes :=
    List.take_append_of_le_length full
  rw [look, if_neg longer, first, second, window, ← h, look,
    if_neg (not_lt.mpr (full_of_look h))]

def streamReader : Scanner UInt8 (List UInt8) where
  look := look
  advances h := (look_bounds h).1
  within h := (look_bounds h).2
  stable more h := look_append more h

def delivered (chunks : List (List UInt8)) : List (Nat × List UInt8) :=
  (streamReader.feedAll .start chunks).1

def callbacks (chunks : List (List UInt8)) : List (List ℚ) :=
  (delivered chunks).map fun x => decodeStreamFrame x.2

theorem delivered_eq_scan (chunks : List (List UInt8)) :
    delivered chunks = (streamReader.scan ⟨0, chunks.flatten⟩).1 := by
  have empty : streamReader.look (Cursor.buffer .start) = none := rfl
  rw [delivered, streamReader.feedAll_eq_feed empty]
  simp [Scanner.feed, Cursor.extend, Cursor.start]

def startsFrame (stream : List UInt8) : Bool :=
  streamFrameBytes ≤ stream.length ∧ stream.take 2 = streamHeader ∧
    crcHolds (stream.take streamFrameBytes)

def frameAt (stream : List UInt8) (o : Nat) : Bool :=
  startsFrame (stream.drop o)

/-- Every frame that overlaps no frame delivered from an earlier offset is itself delivered. -/
def Complete (stream : List UInt8) (offsets : List Nat) : Prop :=
  ∀ o, frameAt stream o → (∀ d ∈ offsets, d < o → d + streamFrameBytes ≤ o) → o ∈ offsets

/-- Going through the stream frame by frame, `run` bytes 20 precede the current byte directly, and
`skip` more bytes belong to a frame already met: every frame is preceded by an even run. -/
def evenRuns : Nat → Nat → List UInt8 → Bool
  | _, _, [] => true
  | skip + 1, run, _ :: rest => evenRuns skip run rest
  | 0, run, byte :: rest =>
      if startsFrame (byte :: rest) then run % 2 = 0 && evenRuns (streamFrameBytes - 1) 0 rest
      else evenRuns 0 (if byte = 0x20 then run + 1 else 0) rest

theorem startsFrame_iff {stream : List UInt8} :
    startsFrame stream ↔ streamFrameBytes ≤ stream.length ∧ stream[0]? = streamHeader[0]? ∧
      stream[1]? = streamHeader[1]? ∧ crcHolds (stream.take streamFrameBytes) := by
  match stream with
  | [] => simp [startsFrame, streamFrameBytes]
  | [a] => simp [startsFrame, streamFrameBytes]
  | a :: b :: rest => simp [startsFrame, streamHeader, and_assoc]

theorem look_of_frame {buffer : List UInt8} (h : startsFrame buffer) :
    look buffer = some (streamFrameBytes, some (buffer.take streamFrameBytes)) := by
  obtain ⟨full, first, second, crc⟩ := startsFrame_iff.mp h
  simp [look, not_lt.mpr full, first, second, crc]

theorem look_of_garbage {byte : UInt8} {rest : List UInt8}
    (full : streamFrameBytes ≤ (byte :: rest).length) (other : byte ≠ 0x20) :
    look (byte :: rest) = some (1, none) := by
  rw [look, if_neg (not_lt.mpr full), if_pos (by simpa [streamHeader] using other)]

theorem look_of_false_start {rest : List UInt8}
    (full : streamFrameBytes ≤ (0x20 :: rest).length) (h : ¬ startsFrame (0x20 :: rest)) :
    look (0x20 :: rest) = some (2, none) := by
  have noFrame : (0x20 :: rest : List UInt8)[1]? = streamHeader[1]? →
      ¬ crcHolds ((0x20 :: rest).take streamFrameBytes) :=
    fun second crc => h (startsFrame_iff.mpr ⟨full, rfl, second, crc⟩)
  rw [look, if_neg (not_lt.mpr full), if_neg (by simp [streamHeader])]
  by_cases second : (0x20 :: rest : List UInt8)[1]? = streamHeader[1]?
  · rw [if_neg (not_not.mpr second), if_pos (by simpa using noFrame second)]
  · rw [if_pos second]

def offsets (c : Cursor UInt8) : List Nat :=
  (streamReader.scan c).1.map Prod.fst

theorem le_of_mem_offsets {c : Cursor UInt8} {d : Nat} (h : d ∈ offsets c) : c.offset ≤ d := by
  obtain ⟨⟨o, frame⟩, found, rfl⟩ := List.mem_map.mp h
  exact streamReader.offset_le_of_mem_scan c found

theorem offsets_of_frame {o : Nat} {stream : List UInt8} (h : startsFrame stream) :
    offsets ⟨o, stream⟩ = o :: offsets ⟨o + streamFrameBytes, stream.drop streamFrameBytes⟩ := by
  have hlook : streamReader.look (Cursor.buffer ⟨o, stream⟩) = _ := look_of_frame h
  simp [offsets, streamReader.scan_of_some hlook, Cursor.advance]

theorem offsets_of_garbage {o : Nat} {byte : UInt8} {rest : List UInt8}
    (full : streamFrameBytes ≤ (byte :: rest).length) (other : byte ≠ 0x20) :
    offsets ⟨o, byte :: rest⟩ = offsets ⟨o + 1, rest⟩ := by
  have hlook : streamReader.look (Cursor.buffer ⟨o, byte :: rest⟩) = _ :=
    look_of_garbage full other
  simp [offsets, streamReader.scan_of_some hlook, Cursor.advance]

theorem offsets_of_false_start {o : Nat} {rest : List UInt8}
    (full : streamFrameBytes ≤ (0x20 :: rest).length) (h : ¬ startsFrame (0x20 :: rest)) :
    offsets ⟨o, 0x20 :: rest⟩ = offsets ⟨o + 1 + 1, rest.tail⟩ := by
  have hlook : streamReader.look (Cursor.buffer ⟨o, 0x20 :: rest⟩) = _ :=
    look_of_false_start full h
  simp [offsets, streamReader.scan_of_some hlook, Cursor.advance]

/-- `Complete` for a stream whose first byte has offset `base`. -/
def CompleteFrom (base : Nat) (stream : List UInt8) (found : List Nat) : Prop :=
  ∀ o, frameAt stream o → (∀ d ∈ found, d < base + o → d + streamFrameBytes ≤ base + o) →
    base + o ∈ found

theorem not_frameAt_of_short {stream : List UInt8} (short : stream.length < streamFrameBytes)
    (o : Nat) : ¬ frameAt stream o := by
  intro h
  have := (startsFrame_iff.mp h).1
  simp only [List.length_drop, streamFrameBytes] at this short
  omega

theorem completeFrom_of_short {base : Nat} {stream : List UInt8} {found : List Nat}
    (short : stream.length < streamFrameBytes) : CompleteFrom base stream found :=
  fun o h => absurd h (not_frameAt_of_short short o)

theorem completeFrom_cons {base : Nat} {byte : UInt8} {rest : List UInt8} {found : List Nat}
    (h : ¬ startsFrame (byte :: rest)) :
    CompleteFrom base (byte :: rest) found ↔ CompleteFrom (base + 1) rest found := by
  constructor
  · intro complete o frame clear
    have shifted := complete (o + 1) frame (by rwa [show base + (o + 1) = base + 1 + o by omega])
    rwa [show base + (o + 1) = base + 1 + o by omega] at shifted
  · intro complete o frame clear
    cases o with
    | zero => exact absurd frame h
    | succ o =>
        rw [show base + (o + 1) = base + 1 + o by omega] at clear ⊢
        exact complete o frame clear

theorem completeFrom_frame {base : Nat} {stream : List UInt8} {found : List Nat}
    (later : ∀ d ∈ found, base + streamFrameBytes ≤ d) :
    CompleteFrom base stream (base :: found) ↔
      CompleteFrom (base + streamFrameBytes) (stream.drop streamFrameBytes) found := by
  constructor
  · intro complete o frame clear
    have behind := complete (streamFrameBytes + o) (by simpa [frameAt, Nat.add_comm] using frame) ?_
    · rcases List.mem_cons.mp behind with e | member
      · simp only [streamFrameBytes] at e
        omega
      · rwa [Nat.add_assoc]
    · intro d member before
      rcases List.mem_cons.mp member with rfl | member
      · omega
      · rw [← Nat.add_assoc] at before ⊢
        exact clear d member before
  · intro complete o frame clear
    rcases Nat.eq_zero_or_pos o with rfl | positive
    · exact List.mem_cons_self
    · have beyond := clear base List.mem_cons_self (by omega)
      obtain ⟨o, rfl⟩ := Nat.exists_eq_add_of_le (show streamFrameBytes ≤ o by omega)
      refine List.mem_cons_of_mem base ?_
      rw [← Nat.add_assoc] at clear ⊢
      refine complete o (by simpa [frameAt, Nat.add_comm] using frame) fun d member before => ?_
      exact clear d (List.mem_cons_of_mem base member) before

theorem not_completeFrom_of_missed {base : Nat} {stream : List UInt8} {found : List Nat}
    (h : startsFrame stream) (later : ∀ d ∈ found, base < d) : ¬ CompleteFrom base stream found := by
  intro complete
  have met := complete 0 h fun d member before => by
    have := later d member
    omega
  exact absurd (later (base + 0) met) (by omega)

theorem evenRuns_skip (skip run : Nat) (stream : List UInt8) :
    evenRuns skip run stream = evenRuns 0 run (stream.drop skip) := by
  induction skip generalizing stream with
  | zero => rfl
  | succ skip ih =>
      cases stream with
      | nil => rfl
      | cons byte rest => simpa [evenRuns] using ih rest

theorem evenRuns_of_short (run : Nat) {stream : List UInt8}
    (short : stream.length < streamFrameBytes) : evenRuns 0 run stream = true := by
  induction stream generalizing run with
  | nil => rfl
  | cons byte rest ih =>
      have noFrame : ¬ startsFrame (byte :: rest) := not_frameAt_of_short short 0
      simp only [evenRuns, noFrame]
      exact ih _ (by simp only [List.length_cons] at short; omega)

theorem evenRuns_of_frame {run : Nat} {stream : List UInt8} (h : startsFrame stream) :
    evenRuns 0 run stream = (run % 2 = 0 && evenRuns 0 0 (stream.drop streamFrameBytes)) := by
  cases stream with
  | nil => simp [startsFrame, streamFrameBytes] at h
  | cons byte rest => simp [evenRuns, h, evenRuns_skip 15, streamFrameBytes]

/-- Both phases of the walk: at an even run the reader stands where the stream is judged, at an odd
one it has already dropped the byte it would have to judge. -/
theorem completeFrom_offsets_iff (stream : List UInt8) (base run : Nat) :
    (run % 2 = 0 → (CompleteFrom base stream (offsets ⟨base, stream⟩) ↔ evenRuns 0 run stream)) ∧
    (run % 2 = 1 →
      (CompleteFrom base stream (offsets ⟨base + 1, stream.tail⟩) ↔ evenRuns 0 run stream)) := by
  induction hn : stream.length using Nat.strong_induction_on generalizing stream base run with
  | _ n ih =>
  subst hn
  by_cases short : stream.length < streamFrameBytes
  · simp [completeFrom_of_short short, evenRuns_of_short run short]
  have full : streamFrameBytes ≤ stream.length := not_lt.mp short
  by_cases frame : startsFrame stream
  · constructor
    · intro even
      have later : ∀ d ∈ offsets ⟨base + streamFrameBytes, stream.drop streamFrameBytes⟩,
          base + streamFrameBytes ≤ d := fun d => le_of_mem_offsets
      have shorter : (stream.drop streamFrameBytes).length < stream.length := by
        simp only [List.length_drop, streamFrameBytes] at full ⊢
        omega
      rw [offsets_of_frame frame, completeFrom_frame later, evenRuns_of_frame frame,
        (ih _ shorter _ (base + streamFrameBytes) 0 rfl).1 rfl]
      simp [even]
    · intro odd
      have later : ∀ d ∈ offsets ⟨base + 1, stream.tail⟩, base < d := fun d => le_of_mem_offsets
      rw [evenRuns_of_frame frame]
      refine iff_of_false (not_completeFrom_of_missed frame later) ?_
      simp [odd]
  · cases stream with
    | nil => simp [streamFrameBytes] at full
    | cons byte rest =>
        have next := ih rest.length (Nat.lt_succ_self _) rest (base + 1)
        simp only [completeFrom_cons frame, evenRuns, frame, List.tail_cons]
        by_cases twenty : byte = 0x20
        · subst twenty
          simp only [if_true]
          constructor
          · intro even
            rw [offsets_of_false_start full frame]
            exact (next (run + 1) rfl).2 (by omega)
          · intro odd
            exact (next (run + 1) rfl).1 (by omega)
        · simp only [twenty, if_false]
          rw [offsets_of_garbage full twenty]
          exact ⟨fun _ => (next 0 rfl).1 rfl, fun _ => (next 0 rfl).1 rfl⟩

theorem complete_scan_iff (stream : List UInt8) :
    Complete stream (offsets ⟨0, stream⟩) ↔ evenRuns 0 0 stream := by
  rw [← (completeFrom_offsets_iff stream 0 0).1 rfl]
  simp [Complete, CompleteFrom]

/-- The reader delivers every frame of the stream, however it is cut, exactly when an even number of
bytes 20 stands directly before each. -/
theorem every_frame_delivered_iff (chunks : List (List UInt8)) :
    Complete chunks.flatten ((delivered chunks).map Prod.fst) ↔ evenRuns 0 0 chunks.flatten := by
  rw [delivered_eq_scan]
  exact complete_scan_iff chunks.flatten

def strayHeaderByte : List UInt8 :=
  0x20 :: framed (streamHeader ++ List.replicate 12 0)

theorem frame_after_stray_byte_missed :
    frameAt strayHeaderByte 1 ∧ delivered [strayHeaderByte] = [] ∧
      ¬ Complete strayHeaderByte ((delivered [strayHeaderByte]).map Prod.fst) := by
  have frame : frameAt strayHeaderByte 1 := by decide +kernel
  have missed : delivered [strayHeaderByte] = [] := by
    have first : streamReader.look (Cursor.buffer ⟨0, strayHeaderByte⟩) = some (2, none) := by
      decide +kernel
    have second : streamReader.look (Cursor.advance ⟨0, strayHeaderByte⟩ 2).buffer = none := by
      decide +kernel
    rw [delivered_eq_scan, List.flatten_singleton, streamReader.scan_of_some first,
      streamReader.scan_of_none second]
    rfl
  refine ⟨frame, missed, fun complete => ?_⟩
  have met := complete 1 frame (by simp [missed])
  simp [missed] at met

end TactileSensors.ForceTorque
