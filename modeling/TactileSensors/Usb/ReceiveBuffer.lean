import Mathlib.Algebra.Order.Ring.Int
import TactileSensors.Usb.Framing

/-!
# The bytes that the reader takes from the port

A pass of the loop joins the first byte, the count of what else is waiting and a second read in one buffer.
An error of the second read is asked for, one of the count is not: the count is made a size as it is.
-/

namespace TactileSensors.Usb.Sdk

/-- What the calls of one pass return, and the bytes that they put into the buffer. -/
structure PortResults where
  blockingRead : Int
  firstByte : UInt8
  inputWaiting : Int
  nonblockingRead : Int
  moreBytes : List UInt8
  -- an `int`, of whatever sign
  int : -2 ^ 31 ≤ inputWaiting ∧ inputWaiting < 2 ^ 31
  more : moreBytes.length = nonblockingRead.toNat
  requested : 0 < inputWaiting → nonblockingRead ≤ inputWaiting

inductive Fault
  /-- `std::length_error`, which nothing catches. -/
  | lengthError
  | outOfRange
deriving DecidableEq, Repr

def maxSize : Nat := 2 ^ 63 - 1

def toSize (i : Int) : Nat := (i % 2 ^ 64).toNat

def toInt (i : Int) : Int := i.bmod (2 ^ 32)

def resize (buffer : List UInt8) (size : Nat) : Except Fault (List UInt8) :=
  if maxSize < size then .error .lengthError
  else .ok (buffer.take size ++ List.replicate (size - buffer.length) 0)

def makeRoom (buffer : List UInt8) (available : Int) : Except Fault (List UInt8) :=
  if buffer.length < toSize available then resize buffer (toSize available) else .ok buffer

def write (buffer : List UInt8) (start : Nat) (bytes : List UInt8) : Except Fault (List UInt8) :=
  if start + bytes.length ≤ buffer.length then
    .ok (buffer.take start ++ bytes ++ buffer.drop (start + bytes.length))
  else .error .outOfRange

structure ReadLoop where
  buffer : List UInt8
  receiver : Receiver
  -- what `usbReadByte` was given
  fed : List UInt8

def ReadLoop.init (memory : UsbPacket) : ReadLoop := ⟨List.replicate 1024 0, ⟨memory, 0⟩, []⟩

def feedByte (s : ReadLoop) (i : Nat) : Except Fault ReadLoop :=
  match s.buffer[i]? with
  | none => .error .outOfRange
  | some d => .ok { s with receiver := (usbReadByte s.receiver d).2, fed := s.fed ++ [d] }

def feed (s : ReadLoop) (available : Int) : Except Fault ReadLoop :=
  (List.range available.toNat).foldlM feedByte s

def readPass (s : ReadLoop) (r : PortResults) : Except Fault ReadLoop :=
  if r.blockingRead ≠ 1 then .ok s
  else do
    let available := r.inputWaiting + 1
    let buffer ← makeRoom s.buffer available
    let buffer ← write buffer 0 [r.firstByte]
    if 1 < available then
      if r.nonblockingRead < 0 then feed { s with buffer } 1
      else do
        let buffer ← write buffer 1 r.moreBytes
        feed { s with buffer } (toInt (1 + r.nonblockingRead))
    else feed { s with buffer } available

def threadLoop (s : ReadLoop) (results : List PortResults) : Except Fault ReadLoop :=
  results.foldlM readPass s

/-- The bytes that the calls of a pass have returned. The second read is asked only for a positive count. -/
def PortResults.returned (r : PortResults) : List UInt8 :=
  if r.blockingRead ≠ 1 then [] else r.firstByte :: if 0 < r.inputWaiting then r.moreBytes else []

/-- The count is no error code, and with the first byte what was read has a size that is an `int`. -/
def PortResults.Sound (r : PortResults) : Prop :=
  r.blockingRead = 1 → 0 ≤ r.inputWaiting ∧ (0 < r.inputWaiting → r.nonblockingRead < 2 ^ 31 - 1)

def Fits (buffer : List UInt8) : Prop := 0 < buffer.length ∧ buffer.length ≤ maxSize

structure Advances (s s' : ReadLoop) (bytes : List UInt8) : Prop where
  fits : Fits s'.buffer
  fed : s'.fed = s.fed ++ bytes
  receiver : s'.receiver = (readBytes s.receiver bytes).2

theorem feed_bytes {buffer bytes rest : List UInt8} {i : Nat} (receiver : Receiver) (fed : List UInt8)
    (shown : buffer.drop i = bytes ++ rest) :
    (List.range' i bytes.length).foldlM feedByte ⟨buffer, receiver, fed⟩ =
      .ok ⟨buffer, (readBytes receiver bytes).2, fed ++ bytes⟩ := by
  induction bytes generalizing i receiver fed with
  | nil => simp [readBytes, pure, Except.pure]
  | cons d bytes ih =>
      have head : buffer[i]? = some d := by
        rw [← List.head?_drop, shown]
        rfl
      have tail : buffer.drop (i + 1) = bytes ++ rest := by
        rw [← List.tail_drop, shown]
        rfl
      have fedByte : feedByte ⟨buffer, receiver, fed⟩ i =
          .ok ⟨buffer, (usbReadByte receiver d).2, fed ++ [d]⟩ := by
        simp only [feedByte, head]
      rw [List.length_cons, List.range'_succ, List.foldlM_cons, fedByte]
      show (List.range' (i + 1) bytes.length).foldlM feedByte _ = _
      rw [ih _ _ tail, readBytes, List.append_assoc]
      rfl

theorem feed_eq {buffer bytes rest : List UInt8} (receiver : Receiver) (fed : List UInt8) {available : Int}
    (shown : buffer = bytes ++ rest) (count : available.toNat = bytes.length) :
    feed ⟨buffer, receiver, fed⟩ available =
      .ok ⟨buffer, (readBytes receiver bytes).2, fed ++ bytes⟩ := by
  rw [feed, count, List.range_eq_range']
  exact feed_bytes receiver fed shown

theorem feed_advances {s : ReadLoop} {buffer bytes rest : List UInt8} {available : Int}
    (fits : Fits buffer) (shown : buffer = bytes ++ rest) (count : available.toNat = bytes.length) :
    ∃ s', feed { s with buffer } available = .ok s' ∧ Advances s s' bytes :=
  ⟨_, feed_eq s.receiver s.fed shown count, fits, rfl, rfl⟩

theorem toSize_of_nonneg {i : Int} (nonneg : 0 ≤ i) (small : i < 2 ^ 64) : toSize i = i.toNat := by
  rw [toSize, Int.emod_eq_of_lt nonneg small]

theorem toSize_of_neg {i : Int} (neg : i < 0) (small : -2 ^ 31 ≤ i) : maxSize < toSize i := by
  have wraps : i % 2 ^ 64 = i + 2 ^ 64 := by omega
  rw [toSize, wraps, maxSize]
  omega

theorem makeRoom_eq_ok {buffer : List UInt8} (fits : Fits buffer) {r : PortResults}
    (count : 0 ≤ r.inputWaiting) :
    ∃ room, makeRoom buffer (r.inputWaiting + 1) = .ok room ∧ Fits room ∧
      r.inputWaiting.toNat < room.length := by
  have int := r.int
  have size : toSize (r.inputWaiting + 1) = r.inputWaiting.toNat + 1 := by
    rw [toSize_of_nonneg (by omega) (by omega)]
    omega
  have small : r.inputWaiting.toNat + 1 ≤ maxSize := by
    rw [maxSize]
    omega
  rw [makeRoom, size]
  by_cases short : buffer.length < r.inputWaiting.toNat + 1
  · have length : (buffer.take (r.inputWaiting.toNat + 1) ++
        List.replicate (r.inputWaiting.toNat + 1 - buffer.length) 0).length = r.inputWaiting.toNat + 1 := by
      simp only [List.length_append, List.length_take, List.length_replicate]
      omega
    rw [if_pos short, resize, if_neg (Nat.not_lt.mpr small)]
    refine ⟨_, rfl, ⟨?_, ?_⟩, ?_⟩ <;> rw [length] <;> omega
  · rw [if_neg short]
    exact ⟨buffer, rfl, fits, Nat.lt_of_not_le fun below => short (Nat.lt_succ_of_le below)⟩

theorem write_first {buffer : List UInt8} (fits : Fits buffer) (d : UInt8) :
    write buffer 0 [d] = .ok (d :: buffer.tail) ∧ Fits (d :: buffer.tail) := by
  have pos := fits.1
  cases buffer with
  | nil => cases pos
  | cons old rest => exact ⟨if_pos (Nat.succ_le_of_lt pos), fits⟩

theorem write_more {room : List UInt8} {r : PortResults} (fits : Fits room) (waiting : 0 < r.inputWaiting)
    (wide : r.inputWaiting.toNat < room.length) :
    ∃ rest, write (r.firstByte :: room.tail) 1 r.moreBytes = .ok (r.firstByte :: r.moreBytes ++ rest) ∧
      Fits (r.firstByte :: r.moreBytes ++ rest) := by
  have requested := r.requested waiting
  have short : 1 + r.moreBytes.length ≤ room.length := by
    rw [r.more]
    omega
  have same : (r.firstByte :: room.tail).length = room.length := by
    rw [List.length_cons, List.length_tail]
    omega
  refine ⟨room.tail.drop r.moreBytes.length, ?_, ?_⟩
  · rw [write, if_pos (by rwa [same]), Nat.add_comm 1]
    rfl
  · have length : (r.firstByte :: r.moreBytes ++ room.tail.drop r.moreBytes.length).length =
        room.length := by
      rw [← same]
      simp only [List.length_append, List.length_cons, List.length_drop, List.length_tail]
      omega
    rw [Fits, length]
    exact fits

theorem readPass_sound {s : ReadLoop} {r : PortResults} (fits : Fits s.buffer) (sound : r.Sound) :
    ∃ s', readPass s r = .ok s' ∧ Advances s s' r.returned := by
  by_cases one : r.blockingRead = 1
  · obtain ⟨count, small⟩ := sound one
    obtain ⟨room, makes, roomFits, wide⟩ := makeRoom_eq_ok fits count
    obtain ⟨first, firstFits⟩ := write_first roomFits r.firstByte
    have alone : r.firstByte :: room.tail = [r.firstByte] ++ room.tail := rfl
    rw [readPass, if_neg (not_not.mpr one), PortResults.returned, if_neg (not_not.mpr one)]
    simp only [makes, bind, Except.bind, first]
    by_cases waiting : 0 < r.inputWaiting
    · rw [if_pos (by omega), if_pos waiting]
      by_cases failed : r.nonblockingRead < 0
      · have none : r.moreBytes = [] := by
          rw [← List.length_eq_zero_iff, r.more]
          omega
        rw [if_pos failed, none]
        exact feed_advances firstFits alone rfl
      · have sum : toInt (1 + r.nonblockingRead) = 1 + r.nonblockingRead := by
          have small := small waiting
          rw [toInt]
          exact Int.bmod_eq_of_le (by omega) (by omega)
        obtain ⟨rest, more, moreFits⟩ := write_more roomFits waiting wide
        rw [if_neg failed, more]
        refine feed_advances moreFits rfl ?_
        rw [sum, List.length_cons, r.more]
        omega
    · have zero : r.inputWaiting = 0 := by omega
      rw [if_neg (by omega), if_neg waiting, zero]
      exact feed_advances firstFits alone rfl
  · rw [readPass, if_pos one, PortResults.returned, if_pos one]
    exact ⟨s, rfl, fits, (List.append_nil _).symm, rfl⟩

theorem not_sound {r : PortResults} (unsound : ¬ r.Sound) :
    r.blockingRead = 1 ∧ (r.inputWaiting < 0 ∨ 0 < r.inputWaiting ∧ 2 ^ 31 - 1 ≤ r.nonblockingRead) := by
  rw [PortResults.Sound, Classical.not_imp] at unsound
  refine ⟨unsound.1, ?_⟩
  by_cases count : 0 ≤ r.inputWaiting
  · have large := unsound.2
    simp only [count, true_and, Classical.not_imp, Int.not_lt] at large
    exact .inr large
  · exact .inl (by omega)

theorem readPass_unsound {s : ReadLoop} {r : PortResults} (fits : Fits s.buffer) (unsound : ¬ r.Sound) :
    readPass s r = .error .lengthError ∨ ∃ s', readPass s r = .ok s' ∧ Advances s s' [] := by
  obtain ⟨one, why⟩ := not_sound unsound
  have int := r.int
  rw [readPass, if_neg (not_not.mpr one)]
  rcases why with negative | ⟨waiting, large⟩
  · by_cases last : r.inputWaiting = -1
    · -- the sum is zero, and the first byte is overwritten by the next pass
      right
      have makes : makeRoom s.buffer (r.inputWaiting + 1) = .ok s.buffer := by
        rw [last]
        exact if_neg (Nat.not_lt_zero _)
      obtain ⟨first, firstFits⟩ := write_first fits r.firstByte
      simp only [makes, bind, Except.bind, first]
      rw [if_neg (by omega), last]
      exact feed_advances firstFits (List.nil_append _).symm rfl
    · left
      have huge : maxSize < toSize (r.inputWaiting + 1) := toSize_of_neg (by omega) (by omega)
      have makes : makeRoom s.buffer (r.inputWaiting + 1) = .error .lengthError := by
        rw [makeRoom, if_pos (Nat.lt_of_le_of_lt fits.2 huge), resize, if_pos huge]
      simp only [makes, bind, Except.bind]
  · -- the second sum overflows
    right
    have requested := r.requested waiting
    obtain ⟨room, makes, roomFits, wide⟩ := makeRoom_eq_ok fits waiting.le
    obtain ⟨first, -⟩ := write_first roomFits r.firstByte
    obtain ⟨rest, more, moreFits⟩ := write_more roomFits waiting wide
    have sum : toInt (1 + r.nonblockingRead) = -2 ^ 31 := by
      have all : r.nonblockingRead = 2 ^ 31 - 1 := by omega
      rw [all]
      decide
    simp only [makes, bind, Except.bind, first]
    rw [if_pos (by omega), if_neg (by omega), more]
    refine feed_advances moreFits (List.nil_append _).symm ?_
    rw [sum]
    rfl

/-- Every byte that the calls returned was fed, once and in order, and nothing was out of range. -/
def FeedsAll (s : ReadLoop) (results : List PortResults) : Prop :=
  ∃ s', threadLoop s results = .ok s' ∧ Advances s s' (results.flatMap PortResults.returned)

theorem Advances.trans {s mid s' : ReadLoop} {first rest : List UInt8} (h₁ : Advances s mid first)
    (h₂ : Advances mid s' rest) : Advances s s' (first ++ rest) where
  fits := h₂.fits
  fed := by rw [h₂.fed, h₁.fed, List.append_assoc]
  receiver := by rw [h₂.receiver, h₁.receiver, readBytes_append]

theorem feedsAll_of_sound {s : ReadLoop} {results : List PortResults} (fits : Fits s.buffer)
    (sound : ∀ r ∈ results, r.Sound) : FeedsAll s results := by
  induction results generalizing s with
  | nil => exact ⟨s, rfl, fits, (List.append_nil _).symm, rfl⟩
  | cons r results ih =>
      obtain ⟨first, rest⟩ := List.forall_mem_cons.mp sound
      obtain ⟨mid, passes, advances⟩ := readPass_sound fits first
      obtain ⟨s', loops, later⟩ := ih advances.fits rest
      refine ⟨s', ?_, ?_⟩
      · rw [threadLoop, List.foldlM_cons, passes]
        exact loops
      · rw [List.flatMap_cons]
        exact advances.trans later

theorem threadLoop_fed {s s' : ReadLoop} {results : List PortResults} (fits : Fits s.buffer)
    (loops : threadLoop s results = .ok s') :
    s'.fed.length ≤ s.fed.length + (results.flatMap PortResults.returned).length ∧
      (s'.fed.length = s.fed.length + (results.flatMap PortResults.returned).length →
        ∀ r ∈ results, r.Sound) := by
  induction results generalizing s with
  | nil =>
      cases loops
      exact ⟨Nat.le_refl _, fun _ _ none => by cases none⟩
  | cons r results ih =>
      rw [threadLoop, List.foldlM_cons] at loops
      by_cases sound : r.Sound
      · obtain ⟨mid, passes, advances⟩ := readPass_sound fits sound
        rw [passes] at loops
        obtain ⟨most, all⟩ := ih advances.fits loops
        rw [advances.fed, List.length_append] at most all
        rw [List.flatMap_cons, List.length_append, ← Nat.add_assoc]
        exact ⟨most, fun same => List.forall_mem_cons.mpr ⟨sound, all same⟩⟩
      · have lost : 0 < r.returned.length := by
          rw [PortResults.returned, if_neg (not_not.mpr (not_sound sound).1)]
          exact Nat.succ_pos _
        rcases readPass_unsound fits sound with fault | ⟨mid, passes, advances⟩
        · rw [fault] at loops
          cases loops
        · rw [passes] at loops
          have most := (ih advances.fits loops).1
          rw [advances.fed, List.append_nil] at most
          rw [List.flatMap_cons, List.length_append]
          exact ⟨by omega, fun same => absurd same (by omega)⟩

theorem fits_init (memory : UsbPacket) : Fits (ReadLoop.init memory).buffer := by
  have length : (ReadLoop.init memory).buffer.length = 1024 := List.length_replicate
  rw [Fits, length, maxSize]
  decide

theorem feedsAll_iff_sound {s : ReadLoop} (fits : Fits s.buffer) (results : List PortResults) :
    FeedsAll s results ↔ ∀ r ∈ results, r.Sound := by
  constructor
  · rintro ⟨s', loops, advances⟩
    refine (threadLoop_fed fits loops).2 ?_
    rw [advances.fed, List.length_append]
  · exact feedsAll_of_sound fits

/-- No byte is lost exactly when no count that was asked for with a byte in hand is an error code, and no
second read returns all the bytes that an `int` can count. -/
theorem feedsAll_iff (memory : UsbPacket) (results : List PortResults) :
    FeedsAll (.init memory) results ↔ ∀ r ∈ results, r.Sound :=
  feedsAll_iff_sound (fits_init memory) results

/-- A byte has come, and the count of the others is `SP_ERR_FAIL`. -/
def failedCount : PortResults where
  blockingRead := 1
  firstByte := usbPacketStartByte
  inputWaiting := -2
  nonblockingRead := 0
  moreBytes := []
  int := by decide
  more := rfl
  requested := nofun

theorem failed_count_is_a_size :
    let memory : UsbPacket := ⟨List.replicate usbPacketMaxSize 0, List.length_replicate⟩
    threadLoop (.init memory) [failedCount] = .error .lengthError ∧
      ¬ FeedsAll (.init memory) [failedCount] := by
  intro memory
  have huge : makeRoom (ReadLoop.init memory).buffer (-2 + 1) = .error .lengthError := by decide +kernel
  have faults : threadLoop (.init memory) [failedCount] = .error .lengthError := by
    rw [threadLoop, List.foldlM_cons, readPass, if_neg (by decide)]
    simp only [failedCount, huge, bind, Except.bind]
  refine ⟨faults, ?_⟩
  rintro ⟨s', loops, -⟩
  rw [faults] at loops
  cases loops

end TactileSensors.Usb.Sdk
