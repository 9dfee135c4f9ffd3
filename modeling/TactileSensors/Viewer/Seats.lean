import Mathlib.Algebra.BigOperators.Group.List.Basic
import TactileSensors.Viewer.Clients
import TactileSensors.Viewer.Recorded

/-!
# What the events say of each client

Who is connected, on which tab and at which rate, is in each client's own events, whatever happens between them.
-/

namespace TactileSensors.Viewer
open Machine Usb Quickstart Control

/-! ## What the events say -/

instance : (value : ClientValue) → Decidable value.Infinite
  | .infinite _ => isTrue trivial
  | .absent | .bool _ | .int _ | .nan | .finite _ | .other => isFalse id

instance (message : MoveMessage) : Decidable message.Finite :=
  inferInstanceAs (Decidable (¬ _ ∧ ¬ _ ∧ ¬ _))

/-- The messages at which a handler raises, and ends. -/
def ClientMessage.raises (hasGripper : Bool) : ClientMessage → Bool
  | .unreadable | .tabChange none | .setRate .overflow => true
  | .gripperMove message => hasGripper && !decide message.Finite
  | _ => false

namespace ViewerEvent
variable {Client : Type} [DecidableEq Client]

def joins (c : Client) : ViewerEvent Client → Bool
  | .connect client => client = c
  | _ => false

def ends (hasGripper : Bool) (c : Client) : ViewerEvent Client → Bool
  | .close client => client = c
  | .message client m => client = c && m.raises hasGripper
  | _ => false

def concerns (c : Client) : ViewerEvent Client → Bool
  | .connect client | .message client _ | .close client => client = c
  | _ => false

def asksTab (c : Client) : ViewerEvent Client → Option Tab
  | .message client (.tabChange tab) => if client = c then tab else none
  | _ => none

def asksRate (c : Client) : ViewerEvent Client → Option Rate
  | .message client (.setRate hz) => if client = c then hz.rate else none
  | _ => none

def bufferCall : ViewerEvent Client → Option BufferCall
  | .push sensorData now => some (.push sensorData now)
  | .message _ .resetBaseline => some .resetBaseline
  | .message _ (.setRawMode raw) => some (.setRawMode raw)
  | .message _ (.setAdaptiveRange adaptive) => some (.setAdaptiveRange adaptive)
  | _ => none

def wrenchCall : ViewerEvent Client → Option WrenchCall
  | .pushWrench values now => some (.pushWrench values now)
  | .message _ .zeroWrench => some .zeroWrench
  | _ => none

def duration : ViewerEvent Client → ℚ
  | .elapse duration => duration
  | _ => 0

end ViewerEvent

section
variable {Client : Type} [DecidableEq Client] (hasGripper : Bool) (events : List (ViewerEvent Client))
  (c : Client)

def connected : Bool := events.any (·.joins c) && !events.any (·.ends hasGripper c)
def chosenTab : Tab := (events.filterMap (·.asksTab c)).getLast?.getD defaultTab
def chosenRate : Rate := (events.filterMap (·.asksRate c)).getLast?.getD broadcastHz
def clock : ℚ := (events.map (·.duration)).sum

variable (event : ViewerEvent Client)

theorem connected_concat : connected hasGripper (events ++ [event]) c =
    ((events.any (·.joins c) || event.joins c) && !(events.any (·.ends hasGripper c) || event.ends hasGripper c)) := by
  simp [connected]

theorem chosenTab_concat : chosenTab (events ++ [event]) c = (event.asksTab c).getD (chosenTab events c) := by
  rw [chosenTab, chosenTab, filterMap_concat]
  cases event.asksTab c <;> simp

theorem chosenRate_concat :
    chosenRate (events ++ [event]) c = (event.asksRate c).getD (chosenRate events c) := by
  rw [chosenRate, chosenRate, filterMap_concat]
  cases event.asksRate c <;> simp

omit [DecidableEq Client] in
theorem clock_concat : clock (events ++ [event]) = clock events + event.duration := by
  simp [clock]

variable {hasGripper events c event}

theorem ends_eq_false (other : event.concerns c = false) : event.ends hasGripper c = false := by
  cases event <;> simp_all [ViewerEvent.concerns, ViewerEvent.ends]

theorem joins_eq_false (other : event.concerns c = false) : event.joins c = false := by
  cases event <;> simp_all [ViewerEvent.concerns, ViewerEvent.joins]

theorem asksTab_eq_none (other : event.concerns c = false) : event.asksTab c = none := by
  cases event with
  | message client m =>
      have apart : ¬ client = c := of_decide_eq_false other
      cases m <;> simp [ViewerEvent.asksTab, apart]
  | _ => rfl

theorem asksRate_eq_none (other : event.concerns c = false) : event.asksRate c = none := by
  cases event with
  | message client m =>
      have apart : ¬ client = c := of_decide_eq_false other
      cases m <;> simp [ViewerEvent.asksRate, apart]
  | _ => rfl

theorem of_unseen (unseen : ∀ e ∈ events, e.concerns c = false) :
    events.any (·.ends hasGripper c) = false ∧ connected hasGripper events c = false ∧
      chosenTab events c = defaultTab ∧ chosenRate events c = broadcastHz := by
  have noEnds : events.any (·.ends hasGripper c) = false :=
    List.any_eq_false.mpr fun e he => by simp [ends_eq_false (unseen e he)]
  have noJoins : events.any (·.joins c) = false :=
    List.any_eq_false.mpr fun e he => by simp [joins_eq_false (unseen e he)]
  have noTabs : events.filterMap (·.asksTab c) = [] :=
    List.filterMap_eq_nil_iff.mpr fun e he => asksTab_eq_none (unseen e he)
  have noRates : events.filterMap (·.asksRate c) = [] :=
    List.filterMap_eq_nil_iff.mpr fun e he => asksRate_eq_none (unseen e he)
  exact ⟨noEnds, by simp [connected, noJoins], by simp [chosenTab, noTabs], by simp [chosenRate, noRates]⟩

end

/-! ## One client -/

@[ext] structure Seat where
  present : Prop
  tab : Option Tab
  rate : Option Rate
  handler : Handler

def WebViewer.seat {τ Client : Type} [DecidableEq Client] (s : WebViewer τ Client) (c : Client) : Seat :=
  ⟨c ∈ s.clients, s.clientTabs.lookup c, s.clientRates.lookup c, s.handler c⟩

structure Seated {Client : Type} [DecidableEq Client] (hasGripper : Bool) (events : List (ViewerEvent Client))
    (c : Client) (seat : Seat) : Prop where
  present : seat.present ↔ connected hasGripper events c = true
  tab : seat.tab = if connected hasGripper events c then some (chosenTab events c) else none
  rate : seat.rate = if connected hasGripper events c then some (chosenRate events c) else none
  serving : seat.handler = .serving ↔ connected hasGripper events c = true
  unseen : seat.handler = .absent → ∀ event ∈ events, event.concerns c = false

namespace WebViewer
variable {τ Client : Type} [DecidableEq Client] {estimate : Estimator τ} {s s' : WebViewer τ Client}

structure Registries (Client : Type) where
  now : ℚ
  wrench : WrenchBuffer
  gripper : Option Controller
  clients : Finset Client
  hadClient : Bool
  clientTabs : AList fun _ : Client => Tab
  clientRates : AList fun _ : Client => Rate
  handler : Client → Handler
  exited : Bool

def registries (s : WebViewer τ Client) : Registries Client :=
  ⟨s.now, s.wrench, s.gripper, s.clients, s.hadClient, s.clientTabs, s.clientRates, s.handler, s.exited⟩

/-! ## A tick -/

structure Looks (estimate : Estimator τ) (s s' : WebViewer τ Client) : Prop where
  registries : s'.registries = s.registries
  buffer : ∃ n, run (SensorDataBuffer.call estimate) s.buffer (List.replicate n .staticSnapshot) = some s'.buffer

namespace Looks

omit [DecidableEq Client] in
theorem of_eq (registries : s'.registries = s.registries) (buffer : s'.buffer = s.buffer) :
    Looks estimate s s' :=
  ⟨registries, 0, by rw [buffer]; rfl⟩

omit [DecidableEq Client] in
theorem trans {s'' : WebViewer τ Client} (first : Looks estimate s s') (second : Looks estimate s' s'') :
    Looks estimate s s'' := by
  obtain ⟨n, shown⟩ := first.buffer
  obtain ⟨m, later⟩ := second.buffer
  refine ⟨second.registries.trans first.registries, n + m, ?_⟩
  rw [← List.replicate_append_replicate]
  exact run_trans shown later

omit [DecidableEq Client] in
theorem tabMessage {tab : Tab} {shown : Option StaticSnapshot} (made : s.tabMessage tab = some (shown, s')) :
    Looks estimate s s' := by
  rw [WebViewer.tabMessage] at made
  split at made
  · obtain ⟨⟨snapshot, buffer⟩, taken, same⟩ := Option.map_eq_some_iff.mp made
    obtain ⟨-, rfl⟩ := Prod.mk.inj same
    refine ⟨rfl, 1, run_cons_eq_some.mpr ⟨buffer, ?_, rfl⟩⟩
    rw [SensorDataBuffer.call, taken]
    rfl
  · obtain ⟨-, rfl⟩ := Prod.mk.inj (Option.some.inj made)
    exact of_eq rfl rfl

theorem visit {interval : ℚ} (s : WebViewer τ Client) (payloads : AList fun _ : Tab => Option StaticSnapshot)
    (order : List Client) : Looks estimate s (WebViewer.visit interval s payloads order).1 := by
  induction order generalizing s payloads with
  | nil => exact of_eq rfl rfl
  | cons client rest ih =>
      have owed : Looks estimate s (s.owe client) := of_eq rfl rfl
      have sent (t : WebViewer τ Client) (tab : Tab) (shown : Option StaticSnapshot) :
          Looks estimate t (t.send client tab shown) := of_eq rfl rfl
      rw [WebViewer.visit]
      split
      · dsimp only
        split
        · split
          · exact owed.trans ((sent _ _ _).trans (ih _ _))
          · split
            · rename_i made
              exact owed.trans ((tabMessage made).trans ((sent _ _ _).trans (ih _ _)))
            · exact owed
        · exact owed
      · exact ih s payloads

omit [DecidableEq Client] in
theorem diagnose (s : WebViewer τ Client) : Looks estimate s s.diagnose.1 := by
  rw [WebViewer.diagnose]
  split <;> exact of_eq rfl rfl

theorem tick (s : WebViewer τ Client) (order : List Client) : Looks estimate s (s.tick order) := by
  have attempted : Looks estimate s (s.attempt order) := by
    rw [attempt]
    dsimp only
    split
    · exact diagnose s
    · split
      · exact (diagnose s).trans (visit _ _ _)
      · exact (diagnose s).trans ((visit _ _ _).trans (of_eq rfl rfl))
  exact attempted.trans (of_eq rfl rfl)

end Looks

/-! ## Messages -/

theorem receive_setRate (client : Client) (hz : Floated) : (s.receive client (.setRate hz)).1 =
    hz.rate.elim s fun rate => { s with clientRates := s.clientRates.insert client rate } := by
  cases hz with
  | overflow => rfl
  | _ =>
      rw [receive]
      split <;> simp_all
      simp

theorem receive_eq (client : Client) (message : ClientMessage) :
    (s.receive client message).1 =
      { s with
        clientTabs := (s.receive client message).1.clientTabs
        clientRates := (s.receive client message).1.clientRates
        buffer := (s.receive client message).1.buffer
        wrench := (s.receive client message).1.wrench
        gripper := (s.receive client message).1.gripper } := by
  cases message with
  | tabChange asked => cases asked <;> rfl
  | setRate hz =>
      rw [receive_setRate]
      cases hz.rate <;> rfl
  | gripperMove message =>
      rw [receive]
      split <;> rfl
  | _ => rfl

theorem raises_receive (client : Client) (message : ClientMessage) :
    (s.receive client message).2 = message.raises s.gripper.isSome := by
  cases message with
  | tabChange tab => cases tab <;> rfl
  | setRate hz =>
      cases hz with
      | finite q =>
          rw [receive]
          split <;> rfl
          simp
      | infinite negative => cases negative <;> rfl
      | _ => rfl
  | gripperMove message =>
      cases held : s.gripper with
      | none => simp [receive, ClientMessage.raises, held]
      | some gripper =>
          have raises := receive_raises_iff gripper message
          simp only [receive, ClientMessage.raises, held, Option.isSome_some, Bool.true_and]
          rw [Bool.eq_iff_iff, raises]
          simp
  | _ => rfl

theorem seat_receive_ne {client c : Client} (message : ClientMessage) (other : client ≠ c) :
    (s.receive client message).1.seat c = s.seat c := by
  have tab (tab : Tab) : (s.clientTabs.insert client tab).lookup c = s.clientTabs.lookup c :=
    AList.lookup_insert_ne other.symm
  have rate (rate : Rate) : (s.clientRates.insert client rate).lookup c = s.clientRates.lookup c :=
    AList.lookup_insert_ne other.symm
  cases message with
  | tabChange asked => cases asked <;> simp [receive, seat, tab]
  | setRate hz =>
      rw [receive_setRate]
      cases hz.rate <;> simp [seat, rate]
  | gripperMove message =>
      rw [receive]
      split <;> rfl
  | _ => rfl

theorem seat_receive {client : Client} (message : ClientMessage) :
    (s.receive client message).1.seat client = { s.seat client with
      tab := ((ViewerEvent.message client message).asksTab client).or (s.seat client).tab
      rate := ((ViewerEvent.message client message).asksRate client).or (s.seat client).rate } := by
  cases message with
  | tabChange asked => cases asked <;> simp [receive, seat, ViewerEvent.asksTab, ViewerEvent.asksRate]
  | setRate hz =>
      rw [receive_setRate]
      cases asked : hz.rate <;> simp [seat, ViewerEvent.asksTab, ViewerEvent.asksRate, asked]
  | gripperMove message =>
      simp only [receive, ViewerEvent.asksTab, ViewerEvent.asksRate, Option.none_or]
      split <;> rfl
  | _ => simp [receive, seat, ViewerEvent.asksTab, ViewerEvent.asksRate]

theorem seat_leave_ne {client c : Client} (other : client ≠ c) : (s.leave client).seat c = s.seat c := by
  simp [leave, seat, AList.lookup_erase_ne other.symm, other.symm]

theorem seat_leave (s : WebViewer τ Client) (client : Client) : ∃ handler, handler ≠ .serving ∧ handler ≠ .absent ∧
    (s.leave client).seat client = ⟨False, none, none, handler⟩ := by
  refine ⟨_, ?_, ?_, by simp [leave, seat]; rfl⟩ <;> split <;> simp

theorem seat_connect_ne {client c : Client} (other : client ≠ c) : (s.connect client).seat c = s.seat c := by
  simp [connect, seat, AList.lookup_insert_ne other.symm, other.symm]

theorem seat_connect {client : Client} :
    (s.connect client).seat client = ⟨True, some defaultTab, some broadcastHz, .serving⟩ := by
  simp [connect, seat]

/-! ## A step -/

theorem running_of_step {event : ViewerEvent Client} (hstep : s.step estimate event = some s') :
    s.exited = false ∧ s.running estimate event = some s' := by
  rw [step] at hstep
  split at hstep
  · cases hstep
  · rename_i runs
    exact ⟨Bool.not_eq_true _ ▸ runs, hstep⟩

omit [DecidableEq Client] in
theorem handler_eq (c : Client) (same : s'.registries = s.registries) : s'.handler c = s.handler c :=
  congrFun (congrArg Registries.handler same) c

theorem seat_of_registries (c : Client) (same : s'.registries = s.registries) : s'.seat c = s.seat c := by
  have clients : s'.clients = s.clients := congrArg Registries.clients same
  have clientTabs : s'.clientTabs = s.clientTabs := congrArg Registries.clientTabs same
  have clientRates : s'.clientRates = s.clientRates := congrArg Registries.clientRates same
  rw [seat, seat, clients, clientTabs, clientRates, handler_eq c same]

theorem running_message {client : Client} {message : ClientMessage}
    (hrun : s.running estimate (.message client message) = some s') :
    s.handler client = .serving ∧ s' =
      if message.raises s.gripper.isSome then (s.receive client message).1.leave client
      else (s.receive client message).1 := by
  obtain ⟨serving, same⟩ := Option.ite_none_right_eq_some.mp hrun
  rw [← Option.some.inj same, ← raises_receive client]
  exact ⟨serving, rfl⟩

theorem running_wake {client : Client} (hrun : s.running estimate (.wake client) = some s') :
    ∃ wakes, s.handler client = .leaving wakes ∧ wakes ≤ s.now ∧
      s' = { s with handler := Function.update s.handler client .done, exited := decide (s.clients = ∅) } := by
  rw [running] at hrun
  split at hrun
  · rename_i wakes leaving
    obtain ⟨passed, same⟩ := Option.ite_none_right_eq_some.mp hrun
    exact ⟨wakes, leaving, passed, (Option.some.inj same).symm⟩
  · cases hrun

theorem running_tick {order : List Client} (hrun : s.running estimate (.tick order) = some s') :
    (order : Multiset Client) = s.clients.val ∧ s' = s.tick order ∧ Looks estimate s s' := by
  obtain ⟨⟨-, clients⟩, same⟩ := Option.ite_none_right_eq_some.mp hrun
  cases same
  exact ⟨clients, rfl, .tick s order⟩

theorem seat_running_ne {event : ViewerEvent Client} {c : Client} (other : event.concerns c = false)
    (hrun : s.running estimate event = some s') :
    s'.seat c = s.seat c ∨ (∃ wakes, s.handler c = .leaving wakes) ∧
      s'.seat c = { s.seat c with handler := .done } := by
  cases event with
  | connect client =>
      obtain ⟨-, same⟩ := Option.ite_none_right_eq_some.mp hrun
      cases same
      exact .inl (seat_connect_ne (of_decide_eq_false other))
  | message client message =>
      have apart : ¬ client = c := of_decide_eq_false other
      obtain ⟨-, rfl⟩ := running_message hrun
      left
      split
      · exact (seat_leave_ne apart).trans (seat_receive_ne message apart)
      · exact seat_receive_ne message apart
  | close client =>
      obtain ⟨-, same⟩ := Option.ite_none_right_eq_some.mp hrun
      cases same
      exact .inl (seat_leave_ne (of_decide_eq_false other))
  | wake client =>
      obtain ⟨wakes, leaving, -, rfl⟩ := running_wake hrun
      by_cases its : client = c
      · subst its
        exact .inr ⟨⟨wakes, leaving⟩, by simp [seat]⟩
      · left
        simp [seat, Function.update_of_ne (Ne.symm its)]
  | tick order =>
      obtain ⟨-, -, looks⟩ := running_tick hrun
      exact .inl (seat_of_registries c looks.registries)
  | sent client =>
      obtain ⟨-, same⟩ := Option.ite_none_right_eq_some.mp hrun
      cases same
      exact .inl rfl
  | elapse duration =>
      obtain ⟨-, same⟩ := Option.ite_none_right_eq_some.mp hrun
      cases same
      exact .inl rfl
  | push sensorData now => cases hrun; exact .inl rfl
  | pushWrench values now => cases hrun; exact .inl rfl
  | work controller => cases hrun; exact .inl rfl

end WebViewer

section
variable {τ Client : Type} [DecidableEq Client] {estimate : Estimator τ} {s s' : WebViewer τ Client}
  {hasGripper : Bool} {events : List (ViewerEvent Client)} {event : ViewerEvent Client} {c : Client}

theorem Seated.of_ne (seated : Seated hasGripper events c (s.seat c)) (other : event.concerns c = false)
    (hrun : s.running estimate event = some s') :
    Seated hasGripper (events ++ [event]) c (s'.seat c) := by
  have stays : connected hasGripper (events ++ [event]) c = connected hasGripper events c := by
    rw [connected_concat, joins_eq_false other, ends_eq_false other, Bool.or_false, Bool.or_false]
    rfl
  have tab : chosenTab (events ++ [event]) c = chosenTab events c := by
    rw [chosenTab_concat, asksTab_eq_none other, Option.getD_none]
  have rate : chosenRate (events ++ [event]) c = chosenRate events c := by
    rw [chosenRate_concat, asksRate_eq_none other, Option.getD_none]
  have unseen (before : (s.seat c).handler = .absent) : ∀ e ∈ events ++ [event], e.concerns c = false := by
    intro e he
    rcases List.mem_append.mp he with past | now
    · exact seated.unseen before e past
    · rw [List.mem_singleton.mp now]
      exact other
  rcases WebViewer.seat_running_ne other hrun with same | ⟨⟨wakes, leaving⟩, same⟩
  · rw [same]
    exact ⟨by rw [stays]; exact seated.present, by rw [stays, tab]; exact seated.tab,
      by rw [stays, rate]; exact seated.rate, by rw [stays]; exact seated.serving, unseen⟩
  · have gone : ¬ connected hasGripper events c = true := by
      rw [← seated.serving]
      simp [WebViewer.seat, leaving]
    rw [same]
    exact ⟨by rw [stays]; exact seated.present, by rw [stays, tab]; exact seated.tab,
      by rw [stays, rate]; exact seated.rate, iff_of_false (by simp) (by rwa [stays]), by simp⟩

theorem Seated.gone {handler : Handler} (ends : event.ends hasGripper c = true) (notServing : handler ≠ .serving)
    (notAbsent : handler ≠ .absent) :
    Seated hasGripper (events ++ [event]) c ⟨False, none, none, handler⟩ := by
  have gone : connected hasGripper (events ++ [event]) c = false := by simp [connected_concat, ends]
  refine ⟨by simp [gone], by simp [gone], by simp [gone], ?_, fun absent => absurd absent notAbsent⟩
  exact iff_of_false notServing (by simp [gone])

theorem Seated.step (seated : Seated s.gripper.isSome events c (s.seat c))
    (hrun : s.running estimate event = some s') :
    Seated s.gripper.isSome (events ++ [event]) c (s'.seat c) := by
  cases its : event.concerns c with
  | false => exact seated.of_ne its hrun
  | true =>
      cases event with
      | connect client =>
          obtain rfl : client = c := of_decide_eq_true its
          obtain ⟨absent, same⟩ := Option.ite_none_right_eq_some.mp hrun
          cases same
          obtain ⟨noEnds, -, tab, rate⟩ := @of_unseen _ _ s.gripper.isSome _ _ (seated.unseen absent)
          have joined : connected s.gripper.isSome (events ++ [.connect client]) client = true := by
            rw [connected_concat, noEnds]
            simp [ViewerEvent.joins, ViewerEvent.ends]
          rw [WebViewer.seat_connect]
          refine ⟨by simp [joined], ?_, ?_, by simp [joined], by simp⟩
          · rw [if_pos joined, chosenTab_concat, tab]
            rfl
          · rw [if_pos joined, chosenRate_concat, rate]
            rfl
      | message client message =>
          obtain rfl : client = c := of_decide_eq_true its
          obtain ⟨serving, rfl⟩ := WebViewer.running_message hrun
          have here := seated.serving.mp serving
          split
          · rename_i raises
            obtain ⟨handler, notServing, notAbsent, same⟩ := (s.receive client message).1.seat_leave client
            rw [same]
            exact .gone (by simp [ViewerEvent.ends, raises]) notServing notAbsent
          · rename_i calm
            have stays : connected s.gripper.isSome (events ++ [.message client message]) client = true := by
              obtain ⟨joins, ends⟩ := (Bool.and_eq_true _ _).mp here
              rw [connected_concat, joins, Bool.eq_false_of_not_eq_true' ends]
              simp [ViewerEvent.joins, ViewerEvent.ends, calm]
            have tab := seated.tab
            have rate := seated.rate
            rw [if_pos here] at tab rate
            rw [WebViewer.seat_receive]
            refine ⟨iff_of_true (seated.present.mpr here) stays, ?_, ?_, iff_of_true serving stays, ?_⟩
            · rw [if_pos stays, chosenTab_concat, tab]
              cases (ViewerEvent.message client message).asksTab client <;> rfl
            · rw [if_pos stays, chosenRate_concat, rate]
              cases (ViewerEvent.message client message).asksRate client <;> rfl
            · intro absent
              cases serving.symm.trans absent
      | close client =>
          obtain rfl : client = c := of_decide_eq_true its
          obtain ⟨-, same⟩ := Option.ite_none_right_eq_some.mp hrun
          cases same
          obtain ⟨handler, notServing, notAbsent, same⟩ := s.seat_leave client
          rw [same]
          exact .gone (by simp [ViewerEvent.ends]) notServing notAbsent
      | _ => cases its

end

end TactileSensors.Viewer
