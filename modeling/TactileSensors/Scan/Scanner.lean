import Mathlib.Data.List.Basic
import Mathlib.Data.List.TakeDrop

/-!
# Scanners

A reader that keeps the bytes it cannot judge yet, looks at the front of its buffer, and each time
either waits for more or drops some bytes and perhaps reports what it found there. As long as more
input never changes a look that was already decided, how the input is cut into chunks does not
matter.
-/

namespace TactileSensors.Scan

universe u v
variable {β : Type u} {γ : Type v}

/-- One look at the front of a buffer: wait (`none`), or drop so many symbols and report. -/
structure Scanner (β : Type u) (γ : Type v) where
  look : List β → Option (Nat × Option γ)
  advances : ∀ {buffer drop found}, look buffer = some (drop, found) → 0 < drop
  within : ∀ {buffer drop found}, look buffer = some (drop, found) → drop ≤ buffer.length
  stable : ∀ {buffer seen} (more : List β), look buffer = some seen → look (buffer ++ more) = some seen

structure Cursor (β : Type u) where
  offset : Nat
  buffer : List β
deriving DecidableEq

def Cursor.start : Cursor β := ⟨0, []⟩

def Cursor.extend (c : Cursor β) (chunk : List β) : Cursor β :=
  { c with buffer := c.buffer ++ chunk }

def Cursor.advance (c : Cursor β) (drop : Nat) : Cursor β :=
  ⟨c.offset + drop, c.buffer.drop drop⟩

namespace Scanner

def scan (sc : Scanner β γ) (c : Cursor β) : List (Nat × γ) × Cursor β :=
  match _h : sc.look c.buffer with
  | none => ([], c)
  | some (drop, found) =>
      let rest := sc.scan (c.advance drop)
      (found.toList.map (fun x => (c.offset, x)) ++ rest.1, rest.2)
termination_by c.buffer.length
decreasing_by
  have := sc.advances _h
  have := sc.within _h
  simp only [Cursor.advance, List.length_drop]
  omega

def feed (sc : Scanner β γ) (c : Cursor β) (chunk : List β) : List (Nat × γ) × Cursor β :=
  sc.scan (c.extend chunk)

def feedAll (sc : Scanner β γ) (c : Cursor β) : List (List β) → List (Nat × γ) × Cursor β
  | [] => ([], c)
  | chunk :: chunks =>
      let first := sc.feed c chunk
      let rest := sc.feedAll first.2 chunks
      (first.1 ++ rest.1, rest.2)

variable (sc : Scanner β γ)

theorem scan_of_none {c : Cursor β} (h : sc.look c.buffer = none) : sc.scan c = ([], c) := by
  rw [scan]
  split
  · rfl
  · rename_i drop found h'
    rw [h] at h'
    cases h'

theorem scan_of_some {c : Cursor β} {drop : Nat} {found : Option γ}
    (h : sc.look c.buffer = some (drop, found)) :
    sc.scan c = (found.toList.map (fun x => (c.offset, x)) ++ (sc.scan (c.advance drop)).1,
      (sc.scan (c.advance drop)).2) := by
  rw [scan]
  split
  · rename_i h'
    rw [h] at h'
    cases h'
  · rename_i drop' found' h'
    rw [h] at h'
    cases h'
    rfl

theorem extend_advance {c : Cursor β} {drop : Nat} (h : drop ≤ c.buffer.length) (chunk : List β) :
    (c.extend chunk).advance drop = (c.advance drop).extend chunk := by
  simp [Cursor.extend, Cursor.advance, List.drop_append_of_le_length h]

theorem scan_induction {motive : Cursor β → Prop}
    (wait : ∀ c, sc.look c.buffer = none → motive c)
    (look : ∀ c drop found, sc.look c.buffer = some (drop, found) → motive (c.advance drop) → motive c)
    (c : Cursor β) : motive c := by
  induction c using scan.induct sc with
  | case1 c h => exact wait c h
  | case2 c drop found h ih => exact look c drop found h ih

theorem look_scan (c : Cursor β) : sc.look (sc.scan c).2.buffer = none := by
  induction c using scan_induction sc with
  | wait c h => rw [scan_of_none sc h]; exact h
  | look c drop found h ih => rw [scan_of_some sc h]; exact ih

theorem look_feed (c : Cursor β) (chunk : List β) : sc.look (sc.feed c chunk).2.buffer = none :=
  sc.look_scan _

theorem scan_extend (c : Cursor β) (chunk : List β) :
    sc.scan (c.extend chunk) =
      ((sc.scan c).1 ++ (sc.feed (sc.scan c).2 chunk).1, (sc.feed (sc.scan c).2 chunk).2) := by
  induction c using scan_induction sc with
  | wait c h => simp [scan_of_none sc h, feed]
  | look c drop found h ih =>
      have later : sc.look (c.extend chunk).buffer = some (drop, found) := sc.stable chunk h
      rw [scan_of_some sc h, scan_of_some sc later, extend_advance (sc.within h), ih]
      simp [Cursor.extend]

theorem feed_feed (c : Cursor β) (first rest : List β) :
    sc.feed c (first ++ rest) =
      ((sc.feed c first).1 ++ (sc.feed (sc.feed c first).2 rest).1,
        (sc.feed (sc.feed c first).2 rest).2) := by
  have h := sc.scan_extend (c.extend first) rest
  simpa [feed, Cursor.extend] using h

/-- However the input is cut, the finds are those of the whole of it. -/
theorem feedAll_eq_feed {c : Cursor β} (waits : sc.look c.buffer = none) (chunks : List (List β)) :
    sc.feedAll c chunks = sc.feed c chunks.flatten := by
  induction chunks generalizing c with
  | nil => simp [feedAll, feed, Cursor.extend, scan_of_none sc waits]
  | cons chunk chunks ih =>
      rw [feedAll, ih (sc.look_feed c chunk), List.flatten_cons, feed_feed]

theorem offset_le_of_mem_scan (c : Cursor β) {o : Nat} {x : γ} (h : (o, x) ∈ (sc.scan c).1) :
    c.offset ≤ o := by
  induction c using scan_induction sc with
  | wait c hlook => simp [scan_of_none sc hlook] at h
  | look c drop found hlook ih =>
      rw [scan_of_some sc hlook] at h
      rcases List.mem_append.mp h with h | h
      · obtain ⟨y, -, e⟩ := List.mem_map.mp h
        exact Nat.le_of_eq (congrArg Prod.fst e)
      · exact Nat.le_trans (Nat.le_add_right _ _) (ih h)

theorem look_of_mem_scan (c : Cursor β) {o : Nat} {x : γ} (h : (o, x) ∈ (sc.scan c).1) :
    ∃ drop, sc.look (c.buffer.drop (o - c.offset)) = some (drop, some x) := by
  induction c using scan_induction sc with
  | wait c hlook => simp [scan_of_none sc hlook] at h
  | look c drop found hlook ih =>
      rw [scan_of_some sc hlook] at h
      rcases List.mem_append.mp h with h | h
      · obtain ⟨y, hy, e⟩ := List.mem_map.mp h
        obtain ⟨rfl, rfl⟩ := Prod.mk.inj e
        obtain rfl := Option.mem_toList.mp hy
        rw [Nat.sub_self, List.drop_zero, hlook]
        exact ⟨drop, rfl⟩
      · have behind : c.offset + drop ≤ o := sc.offset_le_of_mem_scan _ h
        have place : drop + (o - (c.offset + drop)) = o - c.offset := by omega
        simpa only [Cursor.advance, List.drop_drop, place] using ih h

theorem pairwise_scan {width : Nat}
    (wide : ∀ {buffer drop x}, sc.look buffer = some (drop, some x) → width ≤ drop) (c : Cursor β) :
    (sc.scan c).1.Pairwise fun x y => x.1 + width ≤ y.1 := by
  induction c using scan_induction sc with
  | wait c hlook => simp [scan_of_none sc hlook]
  | look c drop found hlook ih =>
      rw [scan_of_some sc hlook, List.pairwise_append]
      refine ⟨?_, ih, fun x hx y hy => ?_⟩
      · cases found <;> simp
      · obtain ⟨z, hz, rfl⟩ := List.mem_map.mp hx
        obtain rfl := Option.mem_toList.mp hz
        exact Nat.le_trans (Nat.add_le_add_left (wide hlook) c.offset) (sc.offset_le_of_mem_scan _ hy)

def finds (buffer : List β) : List γ :=
  (sc.scan ⟨0, buffer⟩).1.map Prod.snd

def residue (buffer : List β) : List β :=
  (sc.scan ⟨0, buffer⟩).2.buffer

theorem scan_offset_free (c : Cursor β) (o : Nat) :
    (sc.scan c).1.map Prod.snd = (sc.scan ⟨o, c.buffer⟩).1.map Prod.snd ∧
      (sc.scan c).2.buffer = (sc.scan ⟨o, c.buffer⟩).2.buffer := by
  induction c using scan_induction sc generalizing o with
  | wait c h =>
      have h' : sc.look (Cursor.mk o c.buffer).buffer = none := h
      simp [scan_of_none sc h, scan_of_none sc h']
  | look c drop found h ih =>
      have h' : sc.look (Cursor.mk o c.buffer).buffer = some (drop, found) := h
      obtain ⟨same, left⟩ := ih (o + drop)
      rw [scan_of_some sc h, scan_of_some sc h']
      refine ⟨?_, left⟩
      simp only [List.map_append, List.map_map, same]
      rfl

theorem map_scan (c : Cursor β) : (sc.scan c).1.map Prod.snd = sc.finds c.buffer :=
  (sc.scan_offset_free c 0).1

theorem buffer_scan (c : Cursor β) : (sc.scan c).2.buffer = sc.residue c.buffer :=
  (sc.scan_offset_free c 0).2

variable {sc} {buffer : List β}

theorem finds_of_none (h : sc.look buffer = none) : sc.finds buffer = [] := by
  rw [finds, scan_of_none sc h, List.map_nil]

theorem residue_of_none (h : sc.look buffer = none) : sc.residue buffer = buffer := by
  rw [residue, scan_of_none sc h]

theorem finds_of_some {drop : Nat} {found : Option γ} (h : sc.look buffer = some (drop, found)) :
    sc.finds buffer = found.toList ++ sc.finds (buffer.drop drop) := by
  rw [finds, scan_of_some sc h, List.map_append, map_scan]
  cases found <;> rfl

theorem residue_of_some {drop : Nat} {found : Option γ} (h : sc.look buffer = some (drop, found)) :
    sc.residue buffer = sc.residue (buffer.drop drop) := by
  rw [residue, scan_of_some sc h]
  exact sc.buffer_scan _

variable (sc)

theorem look_residue (buffer : List β) : sc.look (sc.residue buffer) = none :=
  sc.look_scan _

theorem finds_append (first rest : List β) :
    sc.finds (first ++ rest) = sc.finds first ++ sc.finds (sc.residue first ++ rest) := by
  rw [finds, show (⟨0, first ++ rest⟩ : Cursor β) = Cursor.extend ⟨0, first⟩ rest from rfl,
    scan_extend, List.map_append, map_scan, feed, map_scan]
  rfl

theorem residue_append (first rest : List β) :
    sc.residue (first ++ rest) = sc.residue (sc.residue first ++ rest) := by
  rw [residue, show (⟨0, first ++ rest⟩ : Cursor β) = Cursor.extend ⟨0, first⟩ rest from rfl,
    scan_extend, feed, buffer_scan]
  rfl

end Scanner
end TactileSensors.Scan
