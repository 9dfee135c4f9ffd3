import TactileSensors.Viewer.Agreement

/-!
# The frames the viewer sends

In one tick the loop goes over the clients once. It makes each tab's payload for the first client that is due on
it and has it for all others.
-/

namespace TactileSensors.Viewer
open Machine Usb Quickstart Control

/-! ## One tick -/

namespace WebViewer
variable {τ Client : Type} [DecidableEq Client] {s s' s₀ : WebViewer τ Client} {interval : ℚ}
  {payloads : AList fun _ : Tab => Option StaticSnapshot} {client c : Client}

def drawn (s : WebViewer τ Client) (tab : Tab) : Option StaticSnapshot :=
  if tab = .text "overview" then s.buffer.staticSnapshot.map (·.1) else none

structure Ticking (s₀ s : WebViewer τ Client) (payloads : AList fun _ : Tab => Option StaticSnapshot) : Prop where
  now : s.now = s₀.now
  clientTabs : s.clientTabs = s₀.clientTabs
  made : ∀ tab shown, payloads.lookup tab = some shown → shown = s₀.drawn tab
  buffer : payloads.lookup (.text "overview") = none → s.buffer = s₀.buffer

theorem Ticking.send (ticking : Ticking s₀ s payloads) (client : Client) (tab : Tab)
    (shown : Option StaticSnapshot) : Ticking s₀ ((s.owe client).send client tab shown) payloads :=
  ⟨ticking.now, ticking.clientTabs, ticking.made, ticking.buffer⟩

omit [DecidableEq Client] in
theorem Ticking.tabMessage {tab : Tab} {shown : Option StaticSnapshot} (ticking : Ticking s₀ s payloads)
    (new : payloads.lookup tab = none) (made : s.tabMessage tab = some (shown, s')) :
    shown = s₀.drawn tab ∧ Ticking s₀ s' (payloads.insert tab shown) := by
  have later (same : shown = s₀.drawn tab) : ∀ tab' shown', (payloads.insert tab shown).lookup tab' = some shown' →
      shown' = s₀.drawn tab' := by
    intro tab' shown' found
    by_cases its : tab' = tab
    · subst its
      rw [AList.lookup_insert] at found
      exact (Option.some.inj found).symm.trans same
    · rw [AList.lookup_insert_ne its] at found
      exact ticking.made tab' shown' found
  rw [WebViewer.tabMessage] at made
  split at made
  · rename_i overview
    obtain ⟨⟨snapshot, buffer⟩, taken, same⟩ := Option.map_eq_some_iff.mp made
    obtain ⟨rfl, rfl⟩ := Prod.mk.inj same
    have first : some snapshot = s₀.drawn tab := by
      rw [drawn, if_pos overview, ← ticking.buffer (overview ▸ new), taken]
      rfl
    refine ⟨first, ticking.now, ticking.clientTabs, later first, fun absent => ?_⟩
    rw [overview, AList.lookup_insert] at absent
    cases absent
  · rename_i other
    obtain ⟨rfl, rfl⟩ := Prod.mk.inj (Option.some.inj made)
    have first : none = s₀.drawn tab := by rw [drawn, if_neg other]
    refine ⟨first, ticking.now, ticking.clientTabs, later first, fun absent => ticking.buffer ?_⟩
    rwa [AList.lookup_insert_ne (Ne.symm other)] at absent

omit [DecidableEq Client] in
theorem Ticking.failed {tab : Tab} (ticking : Ticking s₀ s payloads) (new : payloads.lookup tab = none)
    (failed : s.tabMessage tab = none) : s₀.buffer.staticSnapshot = none := by
  rw [WebViewer.tabMessage] at failed
  split at failed
  · rename_i overview
    rw [← ticking.buffer (overview ▸ new)]
    exact Option.map_eq_none_iff.mp failed
  · cases failed

theorem isDue_owe (other : c ≠ client) : (s.owe client).isDue interval c ↔ s.isDue interval c := by
  simp [isDue, owe, AList.lookup_insert_ne other]

theorem isDue_owe_send (other : c ≠ client) (tab : Tab) (shown : Option StaticSnapshot) :
    ((s.owe client).send client tab shown).isDue interval c ↔ s.isDue interval c := by
  simp [isDue, owe, send, other, AList.lookup_insert_ne other]

theorem isDue_tabMessage {tab : Tab} {shown : Option StaticSnapshot} (made : s.tabMessage tab = some (shown, s')) :
    s'.frames = s.frames ∧ ∀ c, s'.isDue interval c ↔ s.isDue interval c := by
  rw [WebViewer.tabMessage] at made
  split at made
  · obtain ⟨⟨snapshot, buffer⟩, -, same⟩ := Option.map_eq_some_iff.mp made
    obtain ⟨-, rfl⟩ := Prod.mk.inj same
    exact ⟨rfl, fun _ => Iff.rfl⟩
  · obtain ⟨-, rfl⟩ := Prod.mk.inj (Option.some.inj made)
    exact ⟨rfl, fun _ => Iff.rfl⟩

structure Sends (s₀ : WebViewer τ Client) (interval : ℚ) (frame : Frame Client) : Prop where
  due : s₀.isDue interval frame.client
  tab : frame.tab = s₀.tabOf frame.client
  shown : frame.shown = s₀.drawn frame.tab
  sentAt : frame.sentAt = s₀.now

structure Visits (s₀ : WebViewer τ Client) (interval : ℚ) (order : List Client) (before : List (Frame Client))
    (visited : WebViewer τ Client × Bool) (new : List (Frame Client)) : Prop where
  frames : visited.1.frames = before ++ new
  inOrder : (new.map (·.client)).Sublist order
  sends : ∀ frame ∈ new, Sends s₀ interval frame
  all : visited.2 = false → ∀ c ∈ order, s₀.isDue interval c → c ∈ new.map (·.client)
  raised : visited.2 = true → (∃ c ∈ order, (s₀.tabOf c).hashable = false) ∨ s₀.buffer.staticSnapshot = none

theorem Visits.cons {rest : List Client} {before new : List (Frame Client)} {visited : WebViewer τ Client × Bool}
    {frame : Frame Client} (sends : Sends s₀ interval frame)
    (visits : Visits s₀ interval rest (before ++ [frame]) visited new) :
    Visits s₀ interval (frame.client :: rest) before visited (frame :: new) where
  frames := by rw [visits.frames, List.append_assoc]; rfl
  inOrder := visits.inOrder.cons_cons _
  sends := List.forall_mem_cons.mpr ⟨sends, visits.sends⟩
  all calm c hc due := by
    rcases List.mem_cons.mp hc with rfl | later
    · exact List.mem_cons_self
    · exact List.mem_cons_of_mem _ (visits.all calm c later due)
  raised raised := by
    rcases visits.raised raised with ⟨c, hc, unhashable⟩ | failed
    · exact .inl ⟨c, List.mem_cons_of_mem _ hc, unhashable⟩
    · exact .inr failed

theorem Visits.skip {rest : List Client} {before new : List (Frame Client)} {visited : WebViewer τ Client × Bool}
    (notDue : ¬ s₀.isDue interval client) (visits : Visits s₀ interval rest before visited new) :
    Visits s₀ interval (client :: rest) before visited new where
  frames := visits.frames
  inOrder := visits.inOrder.cons _
  sends := visits.sends
  all calm c hc due := by
    rcases List.mem_cons.mp hc with rfl | later
    · exact absurd due notDue
    · exact visits.all calm c later due
  raised raised := by
    rcases visits.raised raised with ⟨c, hc, unhashable⟩ | failed
    · exact .inl ⟨c, List.mem_cons_of_mem _ hc, unhashable⟩
    · exact .inr failed

theorem Visits.stop {order : List Client}
    (cause : (∃ c ∈ order, (s₀.tabOf c).hashable = false) ∨ s₀.buffer.staticSnapshot = none) :
    Visits s₀ interval order s.frames (s, true) [] where
  frames := (List.append_nil _).symm
  inOrder := List.nil_sublist _
  sends := by simp
  all := by simp
  raised _ := cause

theorem exists_visits (order : List Client) (once : order.Nodup) (ticking : Ticking s₀ s payloads)
    (due : ∀ c ∈ order, s.isDue interval c ↔ s₀.isDue interval c) :
    ∃ new, Visits s₀ interval order s.frames (visit interval s payloads order) new := by
  induction order generalizing s payloads with
  | nil =>
      exact ⟨[], (List.append_nil _).symm, .slnil, by simp, by simp, by simp [visit]⟩
  | cons client rest ih =>
      obtain ⟨apart, once⟩ := List.nodup_cons.mp once
      have other {c : Client} (hc : c ∈ rest) : c ≠ client := by
        rintro rfl
        exact apart hc
      have tab : s.tabOf client = s₀.tabOf client := by rw [tabOf, tabOf, ticking.clientTabs]
      rw [visit]
      by_cases its : s.isDue interval client
      · rw [if_pos its]
        have first := (due client List.mem_cons_self).mp its
        have owed : Ticking s₀ (s.owe client) payloads :=
          ⟨ticking.now, ticking.clientTabs, ticking.made, ticking.buffer⟩
        dsimp only
        by_cases hashable : (s.tabOf client).hashable = true
        · rw [if_pos hashable]
          split
          · rename_i shown found
            obtain ⟨new, visits⟩ := ih once (ticking.send client (s.tabOf client) shown) fun c hc =>
              (isDue_owe_send (other hc) _ _).trans (due c (List.mem_cons_of_mem _ hc))
            exact ⟨_, Visits.cons (show Sends s₀ interval ⟨client, s.tabOf client, shown, s.now⟩ from
              ⟨first, tab, ticking.made _ _ found, ticking.now⟩) visits⟩
          · rename_i new
            split
            · rename_i shown t made
              obtain ⟨same, ticking'⟩ := owed.tabMessage new made
              obtain ⟨frames, keeps⟩ := @isDue_tabMessage _ _ _ _ _ interval _ _ made
              have later : ∀ c ∈ rest, (t.send client (s.tabOf client) shown).isDue interval c ↔
                  s₀.isDue interval c := by
                intro c hc
                have sent : (t.send client (s.tabOf client) shown).isDue interval c ↔ t.isDue interval c := by
                  simp [isDue, send, other hc]
                exact sent.trans ((keeps c).trans ((isDue_owe (other hc)).trans (due c (List.mem_cons_of_mem _ hc))))
              have sends : Ticking s₀ (t.send client (s.tabOf client) shown)
                  (payloads.insert (s.tabOf client) shown) :=
                ⟨ticking'.now, ticking'.clientTabs, ticking'.made, ticking'.buffer⟩
              obtain ⟨sent, visits⟩ := ih once sends later
              have added : (t.send client (s.tabOf client) shown).frames =
                  s.frames ++ [⟨client, s.tabOf client, shown, t.now⟩] := congrArg (· ++ _) frames
              rw [added] at visits
              exact ⟨_, Visits.cons (show Sends s₀ interval ⟨client, s.tabOf client, shown, t.now⟩ from
                ⟨first, tab, same, ticking'.now⟩) visits⟩
            · rename_i failed
              exact ⟨[], Visits.stop (s := s.owe client) (.inr (owed.failed new failed))⟩
        · rw [if_neg hashable]
          have unhashable : (s₀.tabOf client).hashable = false := by rw [← tab, Bool.eq_false_of_not_eq_true hashable]
          exact ⟨[], Visits.stop (s := s.owe client) (.inl ⟨client, List.mem_cons_self, unhashable⟩)⟩
      · rw [if_neg its]
        have notDue : ¬ s₀.isDue interval client := fun first => its ((due client List.mem_cons_self).mpr first)
        obtain ⟨new, visits⟩ := ih once ticking fun c hc => due c (List.mem_cons_of_mem _ hc)
        exact ⟨new, visits.skip notDue⟩

end WebViewer

/-! ## What is drawn -/

theorem settings_filter (calls : List BufferCall) (f : Fin numFingers) :
    lastStatic (calls.filter (!·.shows)) f = lastStatic calls f ∧
      rawMode (calls.filter (!·.shows)) = rawMode calls ∧
      zeroed (calls.filter (!·.shows)) f = zeroed calls f := by
  induction calls using List.reverseRecOn with
  | nil => exact ⟨rfl, rfl, rfl⟩
  | append_singleton calls c ih =>
      obtain ⟨static, raw, zero⟩ := ih
      rw [List.filter_append]
      cases shows : c.shows with
      | false =>
          have kept : [c].filter (!·.shows) = [c] := by simp [shows]
          have static' : lastStatic (calls.filter (!·.shows) ++ [c]) f = lastStatic (calls ++ [c]) f := by
            rw [lastStatic_concat, lastStatic_concat, static]
          rw [kept]
          exact ⟨static', by rw [rawMode_concat, rawMode_concat, raw],
            by rw [zeroed_concat, zeroed_concat, static', zero]⟩
      | true =>
          cases c with
          | staticSnapshot =>
              have dropped : [BufferCall.staticSnapshot].filter (!·.shows) = [] := rfl
              rw [dropped, List.append_nil]
              refine ⟨?_, ?_, ?_⟩
              · rw [lastStatic_concat, static]
                rfl
              · rw [rawMode_concat, raw]
                rfl
              · rw [zeroed_concat, zero]
                rfl
          | _ => cases shows

theorem displayed_filter (calls : List BufferCall) (f : Fin numFingers) (seed : Fin numFingers → List Int)
    (staticFloor : Int) :
    displayed (calls.filter (!·.shows)) f seed staticFloor = displayed calls f seed staticFloor := by
  obtain ⟨static, raw, zero⟩ := settings_filter calls f
  rw [displayed, displayed, static, raw, zero]

section
variable {τ Client : Type} [DecidableEq Client] {estimate : Estimator τ} {tip : τ}
  {seed : Fin numFingers → List Int} {staticFloor : Int} {s s' : WebViewer τ Client}
  {hasGripper : Bool} {events : List (ViewerEvent Client)} {event : ViewerEvent Client}

omit [DecidableEq Client] in
theorem Asked.values (whole : ∀ f, (seed f).length = 28) (asked : Asked estimate tip seed staticFloor events s) :
    ∃ shown buffer, s.buffer.staticSnapshot = some (shown, buffer) ∧
      shown.values = fun f => displayed (events.filterMap (·.bufferCall)) f seed staticFloor := by
  obtain ⟨calls, direct, recorded⟩ := asked.buffer
  obtain ⟨shown, buffer, taken, -, each⟩ := recorded.staticSnapshot whole
  refine ⟨shown, buffer, taken, funext fun f => ?_⟩
  rw [(each f).1, ← direct, displayed_filter]

structure Drawn (seed : Fin numFingers → List Int) (staticFloor : Int) (hasGripper : Bool)
    (events : List (ViewerEvent Client)) (frame : Frame Client) : Prop where
  connected : connected hasGripper events frame.client = true
  tab : frame.tab = chosenTab events frame.client
  values : frame.shown.map (·.values) = if frame.tab = .text "overview" then
    some (displayed (events.filterMap (·.bufferCall)) · seed staticFloor) else none
  sentAt : frame.sentAt = clock events

variable {c : Client} {frame : Frame Client}

theorem Agrees.mem_clients (agrees : Agrees estimate tip seed staticFloor hasGripper events s) :
    c ∈ s.clients ↔ connected hasGripper events c = true :=
  (agrees.seats c).present

theorem Agrees.tabOf (agrees : Agrees estimate tip seed staticFloor hasGripper events s)
    (here : connected hasGripper events c = true) : s.tabOf c = chosenTab events c := by
  have tab : s.clientTabs.lookup c = some (chosenTab events c) := (agrees.seats c).tab.trans (if_pos here)
  rw [WebViewer.tabOf, tab, Option.getD_some]

theorem Agrees.sends (whole : ∀ f, (seed f).length = 28)
    (agrees : Agrees estimate tip seed staticFloor hasGripper events s) {interval : ℚ}
    (sends : WebViewer.Sends s interval frame) (here : connected hasGripper events frame.client = true) :
    Drawn seed staticFloor hasGripper events frame where
  connected := here
  tab := sends.tab.trans (agrees.tabOf here)
  values := by
    obtain ⟨shown, buffer, taken, values⟩ := agrees.asked.values whole
    rw [sends.shown, WebViewer.drawn, taken]
    split
    · exact congrArg some values
    · rfl
  sentAt := sends.sentAt.trans agrees.grace.now

def allText (hasGripper : Bool) (events : List (ViewerEvent Client)) : Prop :=
  ∀ c, connected hasGripper events c = true → (chosenTab events c).isText = true

theorem Tab.hashable_of_isText {tab : Tab} (text : tab.isText = true) : tab.hashable = true := by
  cases tab <;> first | rfl | cases text

theorem Agrees.diagnose (agrees : Agrees estimate tip seed staticFloor hasGripper events s)
    (text : allText hasGripper events) : s.diagnose.2 = false := by
  rw [WebViewer.diagnose]
  split
  · have each : ∀ tab ∈ s.clientTabs.entries.map (·.2), tab.isText = true := by
      intro tab member
      obtain ⟨⟨c, tab⟩, entry, rfl⟩ := List.mem_map.mp member
      have held : s.clientTabs.lookup c = some tab := AList.mem_lookup_iff.mpr entry
      have seat := (agrees.seats c).tab
      have here : connected hasGripper events c = true := by
        by_contra gone
        rw [if_neg gone] at seat
        cases held.symm.trans seat
      rw [if_pos here] at seat
      obtain rfl : tab = chosenTab events c := Option.some.inj (held.symm.trans seat)
      exact text c here
    have hashable : (s.clientTabs.entries.map (·.2)).all (·.hashable) = true :=
      List.all_eq_true.mpr fun tab member => Tab.hashable_of_isText (each tab member)
    have sortable : Tab.sortable (s.clientTabs.entries.map (·.2)) = true := by
      rw [Tab.sortable, List.all_eq_true.mpr each, Bool.true_or, Bool.true_or]
    dsimp only
    rw [hashable, sortable]
    rfl
  · rfl

structure Ticks (seed : Fin numFingers → List Int) (staticFloor : Int) (hasGripper : Bool)
    (events : List (ViewerEvent Client)) (s s' : WebViewer τ Client) (new : List (Frame Client)) : Prop where
  frames : s'.frames = s.frames ++ new
  once : (new.map (·.client)).Nodup
  due : ∀ frame ∈ new, s.isDue s.interval frame.client
  drawn : ∀ frame ∈ new, Drawn seed staticFloor hasGripper events frame
  all : allText hasGripper events → ∀ c, connected hasGripper events c = true → s.isDue s.interval c →
    c ∈ new.map (·.client)

theorem Agrees.ticks (whole : ∀ f, (seed f).length = 28)
    (agrees : Agrees estimate tip seed staticFloor hasGripper events s) {order : List Client}
    (clients : (order : Multiset Client) = s.clients.val) :
    ∃ new, Ticks seed staticFloor hasGripper events s (s.tick order) new := by
  have once : order.Nodup := by
    rw [← Multiset.coe_nodup, clients]
    exact s.clients.nodup
  have mem (c : Client) : c ∈ order ↔ connected hasGripper events c = true := by
    rw [← agrees.mem_clients, ← Multiset.mem_coe, clients]
    rfl
  have diagnosed : s.diagnose.1 = { s with lastDiag := s.diagnose.1.lastDiag } := by
    rw [WebViewer.diagnose]
    split <;> rfl
  have ticking : WebViewer.Ticking s s.diagnose.1 ∅ := by
    rw [diagnosed]
    exact ⟨rfl, rfl, by simp, fun _ => rfl⟩
  obtain ⟨new, visits⟩ : ∃ new, WebViewer.Visits s s.interval order s.diagnose.1.frames
      (WebViewer.visit s.interval s.diagnose.1 ∅ order) new :=
    WebViewer.exists_visits order once ticking fun c _ => by
      rw [diagnosed]
      exact Iff.rfl
  have shown : (s.tick order).frames = (s.attempt order).frames := rfl
  cases raises : s.diagnose.2 with
  | true =>
      refine ⟨[], ?_, List.nodup_nil, by simp, by simp, fun text => ?_⟩
      · rw [shown, WebViewer.attempt]
        dsimp only
        rw [if_pos raises, diagnosed, List.append_nil]
      · cases raises.symm.trans (agrees.diagnose text)
  | false =>
      refine ⟨new, ?_, visits.inOrder.nodup once, fun frame sent => (visits.sends frame sent).due,
        fun frame sent => agrees.sends whole (visits.sends frame sent) ?_, fun text c here due => ?_⟩
      · have visited : (s.attempt order).frames = (WebViewer.visit s.interval s.diagnose.1 ∅ order).1.frames := by
          rw [WebViewer.attempt]
          dsimp only
          rw [raises, if_neg Bool.false_ne_true]
          split <;> rfl
        rw [shown, visited, visits.frames, diagnosed]
      · exact (mem _).mp (visits.inOrder.subset (List.mem_map_of_mem sent))
      · refine visits.all ?_ c ((mem c).mpr here) due
        rw [← Bool.not_eq_true]
        intro raised
        rcases visits.raised raised with ⟨d, hd, unhashable⟩ | failed
        · have there := (mem d).mp hd
          rw [agrees.tabOf there, Tab.hashable_of_isText (text d there)] at unhashable
          cases unhashable
        · obtain ⟨_, _, taken, -⟩ := agrees.asked.values whole
          cases taken.symm.trans failed

/-! ## A run -/

theorem WebViewer.frames_running (hrun : s.running estimate event = some s') :
    s'.frames = s.frames ∨
      ∃ order, event = .tick order ∧ (order : Multiset Client) = s.clients.val ∧ s' = s.tick order := by
  cases event with
  | tick order =>
      obtain ⟨clients, rfl, -⟩ := WebViewer.running_tick hrun
      exact .inr ⟨order, rfl, clients, rfl⟩
  | message client message =>
      obtain ⟨-, rfl⟩ := WebViewer.running_message hrun
      have kept := congrArg WebViewer.frames (s.receive_eq client message)
      left
      split <;> exact kept
  | wake client =>
      obtain ⟨-, -, -, rfl⟩ := WebViewer.running_wake hrun
      exact .inl rfl
  | push sensorData now => cases hrun; exact .inl rfl
  | pushWrench values now => cases hrun; exact .inl rfl
  | work controller => cases hrun; exact .inl rfl
  | _ =>
      obtain ⟨-, same⟩ := Option.ite_none_right_eq_some.mp hrun
      cases same
      exact .inl rfl

structure Traced (estimate : Estimator τ) (tip : τ) (seed : Fin numFingers → List Int) (staticFloor : Int)
    (hasGripper : Bool) (events : List (ViewerEvent Client)) (s : WebViewer τ Client) : Prop where
  agrees : Agrees estimate tip seed staticFloor hasGripper events s
  frames : ∀ frame ∈ s.frames, ∃ before order late, events = before ++ .tick order :: late ∧
    Drawn seed staticFloor hasGripper before frame

theorem Traced.step (whole : ∀ f, (seed f).length = 28)
    (traced : Traced estimate tip seed staticFloor hasGripper events s) (hstep : s.step estimate event = some s') :
    Traced estimate tip seed staticFloor hasGripper (events ++ [event]) s' where
  agrees := traced.agrees.step whole hstep
  frames frame sent := by
    have earlier (past : frame ∈ s.frames) : ∃ before order late,
        events ++ [event] = before ++ .tick order :: late ∧ Drawn seed staticFloor hasGripper before frame := by
      obtain ⟨before, order, late, same, drawn⟩ := traced.frames frame past
      exact ⟨before, order, late ++ [event], by simp [same], drawn⟩
    rcases WebViewer.frames_running (WebViewer.running_of_step hstep).2 with same | ⟨order, rfl, clients, rfl⟩
    · exact earlier (same ▸ sent)
    · obtain ⟨new, ticks⟩ := traced.agrees.ticks whole clients
      rw [ticks.frames] at sent
      rcases List.mem_append.mp sent with past | now
      · exact earlier past
      · exact ⟨events, order, [], rfl, ticks.drawn frame now⟩

theorem Traced.run (whole : ∀ f, (seed f).length = 28) {more : List (ViewerEvent Client)}
    (traced : Traced estimate tip seed staticFloor hasGripper events s)
    (ran : Machine.run (WebViewer.step estimate) s more = some s') :
    Traced estimate tip seed staticFloor hasGripper (events ++ more) s' :=
  run_history (fun _ _ _ _ traced hstep => traced.step whole hstep) ran traced

end

/-- In every run each frame went to a client that was there, with the tab that this client last asked for and with
what the calls on the buffer so far say of the pads. A tick sends each client that is due one frame, unless a tab
is no text. -/
theorem viewer_sends {τ Client : Type} [DecidableEq Client] (estimate : Estimator τ) (tip : τ)
    {seed : Fin numFingers → List Int} (whole : ∀ f, (seed f).length = 28) (staticFloor : Int)
    (gripper : Option Controller) (events : List (ViewerEvent Client)) (s : WebViewer τ Client)
    (ran : run (WebViewer.step estimate) (.create (.create tip seed staticFloor) gripper) events = some s) :
    (∀ frame ∈ s.frames, ∃ before order late, events = before ++ .tick order :: late ∧
      Drawn seed staticFloor gripper.isSome before frame) ∧
    ∀ order s', s.step estimate (.tick order) = some s' →
      ∃ new, Ticks seed staticFloor gripper.isSome events s s' new := by
  have begun : Traced estimate tip seed staticFloor gripper.isSome []
      (.create (.create tip seed staticFloor) gripper : WebViewer τ Client) :=
    ⟨agrees_create gripper, fun _ sent => absurd sent List.not_mem_nil⟩
  have traced : Traced estimate tip seed staticFloor gripper.isSome events s := begun.run whole ran
  refine ⟨traced.frames, fun order s' hstep => ?_⟩
  obtain ⟨-, hrun⟩ := WebViewer.running_of_step hstep
  obtain ⟨clients, rfl, -⟩ := WebViewer.running_tick hrun
  exact traced.agrees.ticks whole clients

def pressedFrames : List (ViewerEvent Bool) :=
  [.connect false, .connect true, .message false (.tabChange (some (.text "imu"))), .push pressed 1]

theorem viewer_sends_pressed : ∃ s s' : WebViewer Unit Bool,
    run (WebViewer.step fun _ _ _ _ _ => ()) (.create (.create () (fun _ => List.replicate 28 0) 25) none)
      pressedFrames = some s ∧
    s.step (fun _ _ _ _ _ => ()) (.tick [true, false]) = some s' ∧
    ∃ frame ∈ s'.frames, frame.client = true ∧ frame.tab = .text "overview" ∧
      frame.shown.map (·.values 0) = some (400 :: List.replicate 27 0) := by
  have ticks : ((run (WebViewer.step fun _ _ _ _ _ => ())
      (.create (.create () (fun _ => List.replicate 28 0) 25) none : WebViewer Unit Bool) pressedFrames).bind
        (WebViewer.step (fun _ _ _ _ _ => ()) · (.tick [true, false]))).isSome := by decide +kernel
  have allDue : (run (WebViewer.step fun _ _ _ _ _ => ())
      (.create (.create () (fun _ => List.replicate 28 0) 25) none : WebViewer Unit Bool) pressedFrames).all
        (fun s => s.isDue s.interval true) = true := by decide +kernel
  obtain ⟨s', both⟩ := Option.isSome_iff_exists.mp ticks
  obtain ⟨s, ran, ticked⟩ := Option.bind_eq_some_iff.mp both
  rw [ran] at allDue
  obtain ⟨-, each⟩ := viewer_sends (fun _ _ _ _ _ => ()) () (fun _ => rfl) 25 none pressedFrames s ran
  obtain ⟨new, sent⟩ := each _ s' ticked
  have text : allText false pressedFrames := fun c _ => by cases c <;> decide +kernel
  obtain ⟨frame, member, client⟩ :=
    List.mem_map.mp (sent.all text true (by decide +kernel) (of_decide_eq_true allDue))
  have drawn := sent.drawn frame member
  have tab : frame.tab = .text "overview" := by
    rw [drawn.tab, client]
    decide +kernel
  have values := drawn.values
  rw [if_pos tab] at values
  refine ⟨s, s', ran, ticked, frame, by rw [sent.frames]; exact List.mem_append_right _ member, client, tab, ?_⟩
  calc frame.shown.map (·.values 0) = (frame.shown.map (·.values)).map (· 0) := by rw [Option.map_map]; rfl
    _ = some (400 :: List.replicate 27 0) := by
      rw [values]
      decide +kernel

end TactileSensors.Viewer
