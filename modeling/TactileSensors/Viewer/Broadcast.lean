import Mathlib.Algebra.Order.Archimedean.Basic
import Mathlib.Data.Rat.Floor
import TactileSensors.Arith.Spacing
import TactileSensors.Machine.Run

/-!
# Frames for the clients

The loop ticks as fast as its fastest client wants, and sends a client a frame up to half a tick before it is
due. The fastest client gets a frame a tick at most; to every other one, the slack is more than it is owed.
-/

namespace TactileSensors.Viewer
open Machine Arith

def maxBroadcastHz : ℚ := 30

abbrev Rate := { hz : ℚ // 0 < hz ∧ hz ≤ maxBroadcastHz }

theorem broadcastHz_valid : (0 : ℚ) < 5 ∧ (5 : ℚ) ≤ maxBroadcastHz := by
  rw [maxBroadcastHz]
  norm_num

def broadcastHz : Rate := ⟨5, broadcastHz_valid⟩

theorem clamped_valid {hz : ℚ} (pos : 0 < hz) : 0 < min hz maxBroadcastHz ∧ min hz maxBroadcastHz ≤ maxBroadcastHz :=
  ⟨lt_min pos (by rw [maxBroadcastHz]; norm_num), min_le_right _ _⟩

def setRate (rate : Rate) (hz : ℚ) : Rate :=
  if pos : 0 < hz then ⟨min hz maxBroadcastHz, clamped_valid pos⟩ else rate

structure Clients (Client : Type) where
  clients : List Client
  nodup : clients.Nodup
  clientRates : Client → Rate

structure Broadcast (Client : Type) where
  busy : List Client
  nextDue : Client → Option ℚ
  lastTick : Option ℚ
  /-- The frames that were sent, with their times. -/
  sent : List (Client × ℚ)

inductive BroadcastAction (Client : Type)
  /-- The loop wakes, and `now` is what its clock reads. -/
  | tick (now : ℚ)
  /-- A client has taken its frame. -/
  | finished (client : Client)

namespace Broadcast

variable {Client : Type} [DecidableEq Client]

def init : Broadcast Client := ⟨[], fun _ => none, none, []⟩

variable (cs : Clients Client)

def interval : ℚ := 1 / ((cs.clients.map fun c => (cs.clientRates c).val).max?.getD broadcastHz)

def visit (now : ℚ) (s : Broadcast Client) (client : Client) : Broadcast Client :=
  if client ∈ s.busy then s
  else if now < (s.nextDue client).getD 0 - interval cs / 2 then s
  else
    { s with
      nextDue := Function.update s.nextDue client (some (now + 1 / (cs.clientRates client).val))
      busy := client :: s.busy
      sent := s.sent ++ [(client, now)] }

def tick (now : ℚ) (s : Broadcast Client) : Broadcast Client :=
  { cs.clients.foldl (visit cs now) s with lastTick := some now }

def Rested (s : Broadcast Client) (now : ℚ) : Prop := ∀ last ∈ s.lastTick, last + interval cs ≤ now

instance (s : Broadcast Client) (now : ℚ) : Decidable (Rested cs s now) :=
  inferInstanceAs (Decidable (∀ last ∈ s.lastTick, _))

def step (s : Broadcast Client) : BroadcastAction Client → Option (Broadcast Client)
  | .tick now => if Rested cs s now then some (tick cs now s) else none
  | .finished client => some { s with busy := s.busy.filter (· ≠ client) }

def framesTo (s : Broadcast Client) (client : Client) : List ℚ :=
  (s.sent.filter (·.1 = client)).map (·.2)

/-- In no window of time does the client get more than two frames beyond what its rate allows. -/
def RateLimited (client : Client) : Prop :=
  ∀ (actions : List (BroadcastAction Client)) (s : Broadcast Client), run (step cs) init actions = some s →
    ∀ start length : ℚ, 0 ≤ length →
      ((inWindow id start length (s.framesTo client)).length : ℚ) ≤ (cs.clientRates client).val * length + 2

structure View where
  busy : Bool
  nextDue : Option ℚ
  frames : List ℚ

def view (s : Broadcast Client) (c : Client) : View := ⟨decide (c ∈ s.busy), s.nextDue c, s.framesTo c⟩

def View.visit (interval rate now : ℚ) (v : View) : View :=
  if v.busy then v
  else if now < v.nextDue.getD 0 - interval / 2 then v
  else ⟨true, some (now + 1 / rate), v.frames ++ [now]⟩

section
variable {cs} {s s' : Broadcast Client} {c d : Client} {now : ℚ}

theorem view_visit_ne (other : d ≠ c) : (visit cs now s d).view c = s.view c := by
  rw [visit]
  split_ifs with busy early
  · rfl
  · rfl
  · have busyToo : c ∈ d :: s.busy ↔ c ∈ s.busy := by simp [other.symm]
    simp only [view, framesTo, busyToo, Function.update_of_ne other.symm, View.mk.injEq, List.filter_append,
      List.filter_singleton, other, decide_false]
    simp

theorem view_visit_self :
    (visit cs now s c).view c = (s.view c).visit (interval cs) (cs.clientRates c).val now := by
  rw [visit, View.visit]
  by_cases busy : c ∈ s.busy
  · simp [view, busy]
  · by_cases early : now < (s.nextDue c).getD 0 - interval cs / 2
    · simp [view, busy, early]
    · simp [view, framesTo, busy, early]

theorem view_foldl_of_not_mem {clients : List Client} (apart : c ∉ clients) (s : Broadcast Client) :
    (clients.foldl (visit cs now) s).view c = s.view c := by
  induction clients generalizing s with
  | nil => rfl
  | cons d clients ih =>
      rw [List.mem_cons, not_or] at apart
      rw [List.foldl_cons, ih apart.2, view_visit_ne (Ne.symm apart.1)]

theorem view_tick (connected : c ∈ cs.clients) :
    (tick cs now s).view c = (s.view c).visit (interval cs) (cs.clientRates c).val now := by
  obtain ⟨before, after, split⟩ := List.append_of_mem connected
  have once := cs.nodup
  rw [split, List.nodup_append] at once
  have notBefore : c ∉ before := fun h => once.2.2 c h c List.mem_cons_self rfl
  have notAfter : c ∉ after := (List.nodup_cons.mp once.2.1).1
  have visited : (cs.clients.foldl (visit cs now) s).view c =
      (s.view c).visit (interval cs) (cs.clientRates c).val now := by
    rw [split, List.foldl_append, List.foldl_cons, view_foldl_of_not_mem notAfter, view_visit_self,
      view_foldl_of_not_mem notBefore]
  exact visited

omit [DecidableEq Client] in
theorem interval_eq (connected : c ∈ cs.clients) : ∃ d ∈ cs.clients,
    interval cs = 1 / (cs.clientRates d).val ∧
      ∀ e ∈ cs.clients, (cs.clientRates e).val ≤ (cs.clientRates d).val := by
  have nonempty : (cs.clients.map fun c => (cs.clientRates c).val) ≠ [] := by
    simpa using List.ne_nil_of_mem connected
  obtain ⟨fastest, found⟩ := Option.ne_none_iff_exists'.mp (mt List.max?_eq_none_iff.mp nonempty)
  obtain ⟨among, greatest⟩ := List.max?_eq_some_iff.mp found
  obtain ⟨d, hd, rfl⟩ := List.mem_map.mp among
  refine ⟨d, hd, by rw [interval, found, Option.getD_some], fun e he => ?_⟩
  exact greatest _ (List.mem_map_of_mem he)

omit [DecidableEq Client] in
theorem interval_pos (connected : c ∈ cs.clients) : 0 < interval cs := by
  obtain ⟨d, -, same, -⟩ := interval_eq connected
  rw [same]
  exact one_div_pos.mpr (cs.clientRates d).2.1

structure Ticked (cs : Clients Client) (c : Client) (s : Broadcast Client) : Prop where
  spaced : Spaced (interval cs) id (s.framesTo c)
  past : ∀ frame ∈ s.framesTo c, ∃ last ∈ s.lastTick, frame ≤ last

theorem ticked_init : Ticked cs c init where
  spaced := .nil
  past := nofun

theorem Ticked.tick (h : Ticked cs c s) (connected : c ∈ cs.clients) (rested : Rested cs s now) :
    Ticked cs c (tick cs now s) := by
  have apart : ∀ frame ∈ s.framesTo c, frame + interval cs ≤ now := by
    intro frame isFrame
    obtain ⟨last, isLast, past⟩ := h.past frame isFrame
    exact (add_le_add_left past _).trans (rested last isLast)
  have pos := interval_pos connected
  have frames : (Broadcast.tick cs now s).framesTo c = s.framesTo c ∨
      (Broadcast.tick cs now s).framesTo c = s.framesTo c ++ [now] := by
    have one : (Broadcast.tick cs now s).framesTo c =
        ((s.view c).visit (interval cs) (cs.clientRates c).val now).frames :=
      congrArg View.frames (view_tick connected)
    rw [one, View.visit]
    split_ifs
    · exact .inl rfl
    · exact .inl rfl
    · exact .inr rfl
  rcases frames with same | more
  · constructor
    · exact same ▸ h.spaced
    · intro frame isFrame
      rw [same] at isFrame
      exact ⟨now, rfl, by linarith [apart frame isFrame]⟩
  · constructor
    · rw [more]
      exact h.spaced.concat apart
    · intro frame isFrame
      rw [more, List.mem_append, List.mem_singleton] at isFrame
      rcases isFrame with earlier | rfl
      · exact ⟨now, rfl, by linarith [apart frame earlier]⟩
      · exact ⟨frame, rfl, le_rfl⟩

theorem Ticked.step (h : Ticked cs c s) (connected : c ∈ cs.clients) (action : BroadcastAction Client)
    (next : step cs s action = some s') : Ticked cs c s' := by
  cases action with
  | tick now =>
      rw [Broadcast.step] at next
      split_ifs at next with rested
      cases next
      exact h.tick connected rested
  | finished d =>
      cases next
      exact ⟨h.spaced, h.past⟩

theorem ticked_of_run (connected : c ∈ cs.clients) {actions : List (BroadcastAction Client)}
    (hrun : run (Broadcast.step cs) init actions = some s) : Ticked cs c s :=
  run_invariant (fun _ action _ h next => h.step connected action next) hrun ticked_init

theorem rateLimited_of_fastest (connected : c ∈ cs.clients)
    (fastest : ∀ d ∈ cs.clients, (cs.clientRates d).val ≤ (cs.clientRates c).val) : RateLimited cs c := by
  intro actions s hrun start length nonneg
  obtain ⟨d, hd, same, greatest⟩ := interval_eq connected
  have rate : (cs.clientRates d).val = (cs.clientRates c).val := le_antisymm (fastest d hd) (greatest c connected)
  have pos := (cs.clientRates c).2.1
  have counted := length_inWindow_le_of_punctual (ticked_of_run connected hrun).spaced
    (interval_pos connected) nonneg start
  rw [same, rate, mul_one_div, div_le_iff₀ pos, add_mul, one_div, inv_mul_cancel₀ pos.ne'] at counted
  linarith

/-- Ticks `gap` apart, after each of which the client takes its frame. -/
def eager (c : Client) (gap : ℚ) (count : ℕ) : List (BroadcastAction Client) :=
  (List.range count).flatMap fun k : ℕ => [.tick (k * gap), .finished c]

/-- The client has got a frame at each tick, and would get one at the next. -/
structure Served (cs : Clients Client) (c : Client) (gap : ℚ) (count : ℕ) (s : Broadcast Client) : Prop where
  idle : c ∉ s.busy
  due : (s.nextDue c).getD 0 - interval cs / 2 ≤ count * gap
  rested : Rested cs s (count * gap)
  frames : s.framesTo c = (List.range count).map fun k : ℕ => k * gap

theorem served_init (connected : c ∈ cs.clients) (gap : ℚ) : Served cs c gap 0 init where
  idle := nofun
  due := by
    have pos := interval_pos connected
    rw [init, Option.getD_none, Nat.cast_zero, zero_mul]
    linarith
  rested := nofun
  frames := rfl

theorem Served.next (connected : c ∈ cs.clients) {gap : ℚ} (slow : interval cs ≤ gap)
    (slack : 1 / (cs.clientRates c).val - interval cs / 2 ≤ gap) {count : ℕ} (h : Served cs c gap count s) :
    ∃ s', run (Broadcast.step cs) s [.tick (count * gap), .finished c] = some s' ∧
      Served cs c gap (count + 1) s' := by
  let ticked := Broadcast.tick cs (count * gap) s
  let taken : Broadcast Client := { ticked with busy := ticked.busy.filter (· ≠ c) }
  have later : ((count + 1 : ℕ) : ℚ) * gap = count * gap + gap := by
    push_cast
    ring
  have sent : ticked.view c =
      ⟨true, some (count * gap + 1 / (cs.clientRates c).val), s.framesTo c ++ [count * gap]⟩ := by
    rw [view_tick connected, View.visit]
    simp [view, h.idle, not_lt.mpr h.due]
  have nextDue : ticked.nextDue c = some (count * gap + 1 / (cs.clientRates c).val) :=
    congrArg View.nextDue sent
  have frames : ticked.framesTo c = s.framesTo c ++ [count * gap] := congrArg View.frames sent
  refine ⟨taken, ?_, ?_, ?_, ?_, ?_⟩
  · rw [run_cons, Broadcast.step, if_pos h.rested]
    rfl
  · simp [taken]
  · show (ticked.nextDue c).getD 0 - interval cs / 2 ≤ _
    rw [nextDue, Option.getD_some, later]
    linarith
  · intro last isLast
    cases isLast
    rw [later]
    exact add_le_add_right slow _
  · show ticked.framesTo c = _
    rw [frames, h.frames, List.range_succ, List.map_append]
    rfl

theorem served_of_eager (connected : c ∈ cs.clients) {gap : ℚ} (slow : interval cs ≤ gap)
    (slack : 1 / (cs.clientRates c).val - interval cs / 2 ≤ gap) (count : ℕ) :
    ∃ s, run (Broadcast.step cs) init (eager c gap count) = some s ∧ Served cs c gap count s := by
  induction count with
  | zero => exact ⟨init, rfl, served_init connected gap⟩
  | succ count ih =>
      obtain ⟨s, sofar, served⟩ := ih
      obtain ⟨s', next, served'⟩ := served.next connected slow slack
      refine ⟨s', ?_, served'⟩
      rw [eager, List.range_succ, List.flatMap_append, List.flatMap_singleton]
      exact run_trans sofar next

theorem length_inWindow_of_eager {gap : ℚ} (nonneg : 0 ≤ gap) {count : ℕ}
    (served : Served cs c gap (count + 1) s) :
    (inWindow id 0 (count * gap) (s.framesTo c)).length = count + 1 := by
  have all : inWindow id 0 (count * gap) (s.framesTo c) = s.framesTo c := by
    refine List.filter_eq_self.mpr fun frame isFrame => decide_eq_true ?_
    rw [served.frames, List.mem_map] at isFrame
    obtain ⟨k, hk, rfl⟩ := isFrame
    have small : (k : ℚ) ≤ count := Nat.cast_le.mpr (Nat.le_of_lt_succ (List.mem_range.mp hk))
    rw [id_eq, zero_add]
    exact ⟨mul_nonneg (Nat.cast_nonneg k) nonneg, mul_le_mul_of_nonneg_right small nonneg⟩
  rw [all, served.frames, List.length_map, List.length_range]

theorem not_rateLimited_of_slower (connected : c ∈ cs.clients) (other : d ∈ cs.clients)
    (slower : (cs.clientRates c).val < (cs.clientRates d).val) : ¬ RateLimited cs c := by
  intro limited
  obtain ⟨e, -, same, greatest⟩ := interval_eq connected
  have pos := (cs.clientRates c).2.1
  have ticks : interval cs < 1 / (cs.clientRates c).val := by
    rw [same]
    exact one_div_lt_one_div_of_lt pos (slower.trans_le (greatest d other))
  have tick := interval_pos connected
  -- the least gap at which the client is sent a frame at every tick
  let gap := max (interval cs) (1 / (cs.clientRates c).val - interval cs / 2)
  have short : gap < 1 / (cs.clientRates c).val := max_lt ticks (by linarith)
  have surplus : 0 < 1 - (cs.clientRates c).val * gap := by
    rw [lt_div_iff₀ pos] at short
    linarith
  obtain ⟨count, many⟩ := exists_nat_gt (1 / (1 - (cs.clientRates c).val * gap))
  rw [div_lt_iff₀ surplus] at many
  obtain ⟨s, hrun, served⟩ := served_of_eager connected (le_max_left _ _) (le_max_right _ _) (count + 1)
  have nonneg : 0 ≤ gap := tick.le.trans (le_max_left _ _)
  have few := limited _ s hrun 0 (count * gap) (mul_nonneg (Nat.cast_nonneg count) nonneg)
  rw [length_inWindow_of_eager nonneg served] at few
  push_cast at few
  linarith

theorem rateLimited_iff_fastest (cs : Clients Client) {c : Client} (connected : c ∈ cs.clients) :
    RateLimited cs c ↔ ∀ d ∈ cs.clients, (cs.clientRates d).val ≤ (cs.clientRates c).val := by
  refine ⟨fun limited d hd => ?_, rateLimited_of_fastest connected⟩
  by_contra faster
  exact not_rateLimited_of_slower connected hd (not_le.mp faster) limited

end

theorem nodup_viewers : [false, true].Nodup := by decide

/-- A viewer that asks for 20 Hz, and one that asks for 30 Hz. -/
def twoViewers : Clients Bool where
  clients := [false, true]
  nodup := nodup_viewers
  clientRates fast := setRate broadcastHz (if fast then 30 else 20)

theorem interval_twoViewers : interval twoViewers = 1 / 30 := by decide +kernel

theorem rateLimited_iff_fastest_twoViewers : RateLimited twoViewers true ↔
    ∀ d ∈ twoViewers.clients, (twoViewers.clientRates d).val ≤ (twoViewers.clientRates true).val :=
  rateLimited_iff_fastest twoViewers (List.mem_cons_of_mem _ List.mem_cons_self)

theorem not_rateLimited_twoViewers :
    ¬ ∀ (cs : Clients Bool) (c : Bool), c ∈ cs.clients → RateLimited cs c := by
  intro limited
  have connected : false ∈ twoViewers.clients := List.mem_cons_self
  have rate : (twoViewers.clientRates false).val = 20 := by decide +kernel
  have slack : 1 / (twoViewers.clientRates false).val - interval twoViewers / 2 ≤ 1 / 30 := by
    rw [interval_twoViewers, rate]
    norm_num
  -- five ticks at 30 Hz, each of which sends the viewer at 20 Hz a frame
  obtain ⟨s, hrun, served⟩ := served_of_eager connected interval_twoViewers.le slack (4 + 1)
  have few := limited twoViewers false connected _ s hrun 0 ((4 : ℕ) * (1 / 30)) (by norm_num)
  rw [length_inWindow_of_eager (by norm_num) served, rate] at few
  norm_num at few

end Broadcast

end TactileSensors.Viewer
