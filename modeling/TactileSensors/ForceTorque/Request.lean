import TactileSensors.ForceTorque.Frame
import TactileSensors.Scan.Windows

/-!
# Requests to the force/torque sensor

The reply to a request may come among stream frames and noise, so after each read everything received is
searched for a frame of the right length that begins like the request and whose CRC holds.
-/

namespace TactileSensors.ForceTorque
open Scan

def slaveId : UInt8 := 9

structure Request where
  frame : List UInt8
  expectedLength : Nat
  addressed : 2 ≤ frame.length
  replies : 2 ≤ expectedLength

def readRegistersFrame (address count : Nat) (slave : UInt8) : List UInt8 :=
  framed [slave, 0x03, ((address >>> 8) &&& 0xFF).toUInt8, (address &&& 0xFF).toUInt8,
    ((count >>> 8) &&& 0xFF).toUInt8, (count &&& 0xFF).toUInt8]

def readRegisters (address count : Nat) : Request where
  frame := readRegistersFrame address count slaveId
  expectedLength := 5 + 2 * count
  addressed := Nat.le_of_ble_eq_true rfl
  replies := by omega

/-- The loop over `i`. A window has two bytes at least, so both indices are in the buffer. -/
def Request.scan (r : Request) (buffer : List UInt8) : Option (List UInt8) :=
  (List.range (buffer.length + 1 - r.expectedLength)).findSome? fun i =>
    if buffer.getD i 0 ≠ r.frame.getD 0 0 ∨ buffer.getD (i + 1) 0 ≠ r.frame.getD 1 0 then none
    else
      let candidate := (buffer.drop i).take r.expectedLength
      if crcHolds candidate then some candidate else none

def noReply (buffer : List UInt8) : String :=
  if buffer = [] then "no response" else s!"no valid response in {buffer.length} bytes"

/-- The loop up to the deadline, of which `chunks` is what its reads bring. With the result comes how many
reads were made. -/
def Request.receive (r : Request) (buffer : List UInt8) :
    List (List UInt8) → Except String (List UInt8) × Nat
  | [] => (.error (noReply buffer), 0)
  | chunk :: chunks =>
      match r.scan (buffer ++ chunk) with
      | some candidate => (.ok candidate, 1)
      | none =>
          let later := r.receive (buffer ++ chunk) chunks
          (later.1, later.2 + 1)

def Request.request (r : Request) (chunks : List (List UInt8)) : Except String (List UInt8) × Nat :=
  r.receive [] chunks

/-- At `i` stands a frame of the expected length, with the slave and function of the request and a CRC that
holds. -/
structure Request.ReplyAt (r : Request) (stream : List UInt8) (i : Nat) : Prop where
  whole : i + r.expectedLength ≤ stream.length
  slave : stream.getD i 0 = r.frame.getD 0 0
  function : stream.getD (i + 1) 0 = r.frame.getD 1 0
  crc : crcHolds (window r.expectedLength stream i)

def Request.valid (r : Request) (candidate : List UInt8) : Bool :=
  candidate.getD 0 0 = r.frame.getD 0 0 ∧ candidate.getD 1 0 = r.frame.getD 1 0 ∧ crcHolds candidate

theorem getD_window {width : Nat} (stream : List UInt8) (i : Nat) {k : Nat} (inside : k < width) :
    (window width stream i).getD k 0 = stream.getD (i + k) 0 := by
  rw [window, List.getD_eq_getElem?_getD, List.getD_eq_getElem?_getD, List.getElem?_take_of_lt inside,
    List.getElem?_drop]

theorem Request.replyAt_iff (r : Request) {stream : List UInt8} {i : Nat} :
    r.ReplyAt stream i ↔ Hit r.valid r.expectedLength stream i := by
  have two := r.replies
  rw [Hit, Request.valid, decide_eq_true_eq, getD_window stream i (by omega), getD_window stream i (by omega)]
  exact ⟨fun h => ⟨h.whole, h.slave, h.function, h.crc⟩, fun h => ⟨h.1, h.2.1, h.2.2.1, h.2.2.2⟩⟩

theorem findSome?_guard {α β : Type*} {p : α → Bool} {f : α → β} (xs : List α) :
    xs.findSome? (fun x => if p x then some (f x) else none) = (xs.find? p).map f := by
  induction xs with
  | nil => rfl
  | cons x xs ih => cases holds : p x <;> simp [holds, ih]

theorem Request.scan_eq (r : Request) (buffer : List UInt8) :
    r.scan buffer = (findWindow r.valid r.expectedLength buffer).map (window r.expectedLength buffer) := by
  have two := r.replies
  have judges (i : Nat) : r.valid (window r.expectedLength buffer i) = true ↔
      buffer.getD i 0 = r.frame.getD 0 0 ∧ buffer.getD (i + 1) 0 = r.frame.getD 1 0 ∧
        crcHolds (window r.expectedLength buffer i) = true := by
    rw [Request.valid, decide_eq_true_eq, getD_window buffer i (by omega), getD_window buffer i (by omega)]
    rfl
  rw [Request.scan, findWindow, ← findSome?_guard]
  congr 1
  funext i
  simp only [judges]
  by_cases slave : buffer.getD i 0 = r.frame.getD 0 0
  · by_cases function : buffer.getD (i + 1) 0 = r.frame.getD 1 0
    · simp only [slave, function, ne_eq, not_true, or_self, if_false, true_and]
      rfl
    · rw [if_pos (.inr function), if_neg fun all => function all.2.1]
  · rw [if_pos (.inl slave), if_neg fun all => slave all.1]

theorem Request.receive_eq (r : Request) (buffer : List UInt8) (chunks : List (List UInt8)) :
    r.receive buffer chunks =
      (match (searchChunks r.valid r.expectedLength buffer chunks).1 with
        | some candidate => .ok candidate
        | none => .error (noReply (buffer ++ chunks.flatten)),
        (searchChunks r.valid r.expectedLength buffer chunks).2) := by
  induction chunks generalizing buffer with
  | nil => simp [Request.receive, searchChunks]
  | cons chunk chunks ih =>
      rw [Request.receive, searchChunks, Request.scan_eq]
      cases found : findWindow r.valid r.expectedLength (buffer ++ chunk) with
      | some i => rfl
      | none =>
          simp only [Option.map_none, ih, List.flatten_cons, List.append_assoc]

/-- The reply is the first of the stream, at `i`, and no fewer reads bring it. -/
structure Request.Answers (r : Request) (chunks : List (List UInt8)) (reply : List UInt8) (reads i : Nat) :
    Prop where
  valid : r.ReplyAt chunks.flatten i
  lowest : ∀ j < i, ¬ r.ReplyAt chunks.flatten j
  same : reply = window r.expectedLength chunks.flatten i
  available : reads ≤ chunks.length
  received : i + r.expectedLength ≤ (chunks.take reads).flatten.length
  soonest : ∀ fewer < reads, (chunks.take fewer).flatten.length < i + r.expectedLength

theorem Request.quiet (r : Request) (i : Nat) : ¬ Hit r.valid r.expectedLength [] i := by
  rintro ⟨inside, -⟩
  have two := r.replies
  rw [List.length_nil] at inside
  omega

theorem Request.firstHit_iff (r : Request) {stream : List UInt8} {i : Nat} :
    FirstHit r.valid r.expectedLength stream i ↔
      r.ReplyAt stream i ∧ ∀ j < i, ¬ r.ReplyAt stream j := by
  simp only [FirstHit, r.replyAt_iff]

theorem Request.request_of_reply (r : Request) {chunks : List (List UInt8)} {i : Nat}
    (first : FirstHit r.valid r.expectedLength chunks.flatten i) :
    ∃ reads, r.request chunks = (.ok (window r.expectedLength chunks.flatten i), reads) ∧
      WholeAt r.expectedLength [] chunks i reads := by
  obtain ⟨reads, finds, whole⟩ := searchChunks_of_firstHit r.quiet first
  exact ⟨reads, by rw [Request.request, Request.receive_eq, finds]; rfl, whole⟩

theorem Request.request_of_no_reply (r : Request) {chunks : List (List UInt8)}
    (none : ∀ i, ¬ Hit r.valid r.expectedLength chunks.flatten i) :
    r.request chunks = (.error (noReply chunks.flatten), chunks.length) := by
  have nothing : searchChunks r.valid r.expectedLength [] chunks = (.none, chunks.length) :=
    searchChunks_of_no_hit none
  rw [Request.request, Request.receive_eq, nothing]
  rfl

theorem Request.request_ok_iff (r : Request) (chunks : List (List UInt8)) (reply : List UInt8)
    (reads : Nat) : r.request chunks = (.ok reply, reads) ↔ ∃ i, r.Answers chunks reply reads i := by
  constructor
  · intro ok
    by_cases hits : ∃ i, Hit r.valid r.expectedLength chunks.flatten i
    · obtain ⟨i, first⟩ := exists_firstHit hits
      obtain ⟨n, returns, whole⟩ := r.request_of_reply first
      rw [returns] at ok
      cases ok
      obtain ⟨valid, lowest⟩ := r.firstHit_iff.mp first
      exact ⟨i, valid, lowest, rfl, whole.available, whole.whole, whole.soonest⟩
    · rw [r.request_of_no_reply (not_exists.mp hits)] at ok
      cases ok
  · rintro ⟨i, answers⟩
    have first := r.firstHit_iff.mpr ⟨answers.valid, answers.lowest⟩
    obtain ⟨n, returns, whole⟩ := r.request_of_reply first
    obtain rfl : reads = n := WholeAt.unique ⟨answers.available, answers.received, answers.soonest⟩ whole
    rw [returns, answers.same]

/-- `_request` returns the first valid reply of the stream with the read that completes it, and raises only
when there is none. How the stream is cut into chunks makes no difference. -/
theorem request_answers (r : Request) (chunks : List (List UInt8)) :
    (∀ reply reads, r.request chunks = (.ok reply, reads) ↔ ∃ i, r.Answers chunks reply reads i) ∧
      (∀ text reads, r.request chunks = (.error text, reads) →
        (∀ i, ¬ r.ReplyAt chunks.flatten i) ∧ text = noReply chunks.flatten ∧ reads = chunks.length) ∧
      ∀ chunks', chunks'.flatten = chunks.flatten → (r.request chunks').1 = (r.request chunks).1 := by
  refine ⟨r.request_ok_iff chunks, ?_, ?_⟩
  · intro text reads error
    by_cases hits : ∃ i, Hit r.valid r.expectedLength chunks.flatten i
    · obtain ⟨i, first⟩ := exists_firstHit hits
      obtain ⟨n, returns, -⟩ := r.request_of_reply first
      rw [returns] at error
      cases error
    · have none := not_exists.mp hits
      rw [r.request_of_no_reply none] at error
      cases error
      exact ⟨fun i reply => none i (r.replyAt_iff.mp reply), rfl, rfl⟩
  · intro chunks' same
    have found := searchChunks_congr r.quiet same
    simp only [Request.request, Request.receive_eq, found, same]

end TactileSensors.ForceTorque
