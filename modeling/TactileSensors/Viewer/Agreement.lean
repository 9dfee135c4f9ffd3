import TactileSensors.Viewer.Seats

/-!
# The viewer over its whole run

What the viewer holds of its clients and of its buffers, and when its program ends, is a matter of the events so
far.
-/

namespace TactileSensors.Viewer
open Machine Usb Quickstart Control

section
variable {τ Client : Type} [DecidableEq Client] {estimate : Estimator τ} {tip : τ}
  {seed : Fin numFingers → List Int} {staticFloor : Int} {s s' : WebViewer τ Client}
  {events : List (ViewerEvent Client)} {event : ViewerEvent Client}

structure Asked (estimate : Estimator τ) (tip : τ) (seed : Fin numFingers → List Int) (staticFloor : Int)
    (events : List (ViewerEvent Client)) (s : WebViewer τ Client) : Prop where
  wrench : s.wrench = WrenchBuffer.after (events.filterMap (·.wrenchCall))
  buffer : ∃ calls, calls.filter (!·.shows) = events.filterMap (·.bufferCall) ∧
    Recorded estimate tip seed staticFloor calls s.buffer

theorem WebViewer.buffers_receive (client : Client) (message : ClientMessage) :
    (s.receive client message).1.wrench =
        (ViewerEvent.message client message).wrenchCall.toList.foldl WrenchBuffer.call s.wrench ∧
      run (SensorDataBuffer.call estimate) s.buffer (ViewerEvent.message client message).bufferCall.toList =
        some (s.receive client message).1.buffer := by
  cases message with
  | tabChange asked => cases asked <;> exact ⟨rfl, rfl⟩
  | setRate hz =>
      rw [WebViewer.receive_setRate]
      cases hz.rate <;> exact ⟨rfl, rfl⟩
  | gripperMove message =>
      rw [WebViewer.receive]
      split <;> exact ⟨rfl, rfl⟩
  | _ => exact ⟨rfl, rfl⟩

theorem WebViewer.buffers_running (hrun : s.running estimate event = some s') :
    s'.wrench = event.wrenchCall.toList.foldl WrenchBuffer.call s.wrench ∧
      ∃ n, run (SensorDataBuffer.call estimate) s.buffer
        (event.bufferCall.toList ++ List.replicate n .staticSnapshot) = some s'.buffer := by
  cases event with
  | message client message =>
      obtain ⟨-, rfl⟩ := WebViewer.running_message hrun
      obtain ⟨wrench, buffer⟩ := @WebViewer.buffers_receive _ _ _ estimate s client message
      split <;> exact ⟨wrench, 0, by rwa [List.replicate_zero, List.append_nil]⟩
  | tick order =>
      obtain ⟨-, -, looks⟩ := WebViewer.running_tick hrun
      exact ⟨congrArg Registries.wrench looks.registries, looks.buffer⟩
  | wake client =>
      obtain ⟨-, -, -, rfl⟩ := WebViewer.running_wake hrun
      exact ⟨rfl, 0, rfl⟩
  | push sensorData now =>
      cases hrun
      exact ⟨rfl, 0, run_cons_eq_some.mpr ⟨_, SensorDataBuffer.call_push _ _ sensorData now, rfl⟩⟩
  | pushWrench values now => cases hrun; exact ⟨rfl, 0, rfl⟩
  | work controller => cases hrun; exact ⟨rfl, 0, rfl⟩
  | _ =>
      obtain ⟨-, same⟩ := Option.ite_none_right_eq_some.mp hrun
      cases same
      exact ⟨rfl, 0, rfl⟩

omit [DecidableEq Client] in
theorem filter_bufferCall (event : ViewerEvent Client) :
    event.bufferCall.toList.filter (!·.shows) = event.bufferCall.toList := by
  cases event with
  | message client m => cases m <;> rfl
  | _ => rfl

theorem Asked.step (whole : ∀ f, (seed f).length = 28) (asked : Asked estimate tip seed staticFloor events s)
    (hrun : s.running estimate event = some s') :
    Asked estimate tip seed staticFloor (events ++ [event]) s' := by
  obtain ⟨wrench, n, ran⟩ := WebViewer.buffers_running hrun
  obtain ⟨calls, direct, recorded⟩ := asked.buffer
  constructor
  · rw [wrench, asked.wrench, filterMap_concat, WrenchBuffer.after, WrenchBuffer.after, List.foldl_append]
  · obtain ⟨buffer, done, recorded'⟩ :=
      recorded.run whole (event.bufferCall.toList ++ List.replicate n .staticSnapshot)
    obtain rfl : buffer = s'.buffer := Option.some.inj (done.symm.trans ran)
    refine ⟨_, ?_, recorded'⟩
    have noShows : (List.replicate n BufferCall.staticSnapshot).filter (!·.shows) = [] := by
      rw [List.filter_eq_nil_iff]
      intro c hc
      rw [List.eq_of_mem_replicate hc]
      decide
    rw [List.filter_append, List.filter_append, direct, filter_bufferCall, noShows, List.append_nil,
      filterMap_concat]

end

section
variable {τ Client : Type} [DecidableEq Client] {estimate : Estimator τ} {s s' t : WebViewer τ Client}
  {hasGripper : Bool} {events : List (ViewerEvent Client)} {event : ViewerEvent Client} {left : ℚ}

def LeftEmpty (hasGripper : Bool) (events : List (ViewerEvent Client)) (left : ℚ) : Prop :=
  ∃ before event late c, events = before ++ event :: late ∧ event.ends hasGripper c = true ∧
    (∀ d, connected hasGripper (before ++ [event]) d = false) ∧ clock (before ++ [event]) = left

/-- The program ends only where a grace period does and nobody is there, and the end of one is always to come
where nobody is there any more. -/
structure Grace (hasGripper : Bool) (events : List (ViewerEvent Client)) (s : WebViewer τ Client) : Prop where
  now : s.now = clock events
  had : ∀ c, s.handler c ≠ .absent → s.hadClient = true
  leaving : ∀ c wakes, s.handler c = .leaving wakes → ∃ left, LeftEmpty hasGripper events left ∧ wakes = left + 2
  pending : s.hadClient = true → s.exited = false → s.clients = ∅ → ∃ c wakes, s.handler c = .leaving wakes
  exited : s.exited = true → (∀ d, connected hasGripper events d = false) ∧
    ∃ left, LeftEmpty hasGripper events left ∧ left + 2 ≤ s.now

theorem LeftEmpty.concat (empty : LeftEmpty hasGripper events left) (event : ViewerEvent Client) :
    LeftEmpty hasGripper (events ++ [event]) left := by
  obtain ⟨before, last, late, c, rfl, rest⟩ := empty
  exact ⟨before, last, late ++ [event], c, by simp, rest⟩

theorem Grace.of_same (grace : Grace hasGripper events s) (running : s.exited = false)
    (now : s'.now = s.now + event.duration) (handler : s'.handler = s.handler)
    (hadClient : s'.hadClient = s.hadClient) (clients : s'.clients = s.clients) (exited : s'.exited = s.exited) :
    Grace hasGripper (events ++ [event]) s' where
  now := by rw [now, grace.now, clock_concat]
  had c := by
    rw [handler, hadClient]
    exact grace.had c
  leaving c wakes leaves := by
    rw [handler] at leaves
    obtain ⟨left, empty, same⟩ := grace.leaving c wakes leaves
    exact ⟨left, empty.concat event, same⟩
  pending := by
    rw [handler, hadClient, clients, exited]
    exact grace.pending
  exited ended := by
    rw [exited, running] at ended
    cases ended

theorem Grace.leave {client : Client} (grace : Grace hasGripper events s) (serving : s.handler client = .serving)
    (running : s.exited = false) (still : event.duration = 0) (ends : event.ends hasGripper client = true)
    (now : t.now = s.now) (handler : t.handler = s.handler) (hadClient : t.hadClient = s.hadClient)
    (exited : t.exited = s.exited)
    (seats : ∀ d, Seated hasGripper (events ++ [event]) d ((t.leave client).seat d)) :
    Grace hasGripper (events ++ [event]) (t.leave client) := by
  have had : s.hadClient = true := grace.had client (by simp [serving])
  have reads : clock (events ++ [event]) = s.now := by rw [clock_concat, still, add_zero, grace.now]
  have alone (empty : t.clients.erase client = ∅) (d : Client) :
      connected hasGripper (events ++ [event]) d = false := by
    rw [← Bool.not_eq_true, ← (seats d).present]
    simp [WebViewer.seat, WebViewer.leave, empty]
  constructor
  · exact now.trans reads.symm
  · exact fun _ _ => hadClient.trans had
  · intro c wakes leaves
    by_cases its : c = client
    · subst its
      have leaves' : (if t.hadClient = true ∧ t.clients.erase c = ∅ then Handler.leaving (t.now + 2) else .done) =
          .leaving wakes := by simpa [WebViewer.leave] using leaves
      split at leaves'
      · rename_i last
        cases leaves'
        exact ⟨s.now, ⟨events, event, [], c, rfl, ends, alone last.2, reads⟩, by rw [now]⟩
      · cases leaves'
    · have before : s.handler c = .leaving wakes := by
        rw [← handler]
        simpa [WebViewer.leave, Function.update_of_ne its] using leaves
      obtain ⟨left, empty, same⟩ := grace.leaving c wakes before
      exact ⟨left, empty.concat event, same⟩
  · intro _ _ empty
    have last : t.hadClient = true ∧ t.clients.erase client = ∅ := ⟨hadClient.trans had, empty⟩
    exact ⟨client, t.now + 2, by simp [WebViewer.leave, last]⟩
  · intro ended
    have before : t.exited = true := ended
    rw [exited, running] at before
    cases before

theorem Grace.leaving_of_update {client c : Client} {handler : Handler} {wakes : ℚ}
    (grace : Grace hasGripper events s) (notLeaving : handler ≠ .leaving wakes)
    (leaves : Function.update s.handler client handler c = .leaving wakes) :
    ∃ left, LeftEmpty hasGripper (events ++ [event]) left ∧ wakes = left + 2 := by
  by_cases its : c = client
  · subst its
    rw [Function.update_self] at leaves
    exact absurd leaves notLeaving
  · rw [Function.update_of_ne its] at leaves
    obtain ⟨left, empty, same⟩ := grace.leaving c wakes leaves
    exact ⟨left, empty.concat event, same⟩

theorem Grace.connect {client : Client} (grace : Grace hasGripper events s) (running : s.exited = false) :
    Grace hasGripper (events ++ [.connect client]) (s.connect client) where
  now := by
    rw [clock_concat, ← grace.now]
    exact (add_zero _).symm
  had _ _ := rfl
  leaving c wakes leaves := grace.leaving_of_update (by simp) leaves
  pending _ _ empty := absurd empty (Finset.insert_ne_empty _ _)
  exited ended := by
    have before : s.exited = true := ended
    rw [running] at before
    cases before

theorem Grace.wake {client : Client} (grace : Grace hasGripper events s)
    (hrun : s.running estimate (.wake client) = some s')
    (seats : ∀ d, Seated hasGripper (events ++ [.wake client]) d (s'.seat d)) :
    Grace hasGripper (events ++ [.wake client]) s' := by
  obtain ⟨wakes, leaves, passed, rfl⟩ := WebViewer.running_wake hrun
  obtain ⟨left, empty, same⟩ := grace.leaving client wakes leaves
  constructor
  case now =>
    rw [clock_concat, ← grace.now]
    exact (add_zero _).symm
  case had =>
    intro c other
    apply grace.had c
    rintro absent
    by_cases its : c = client
    · rw [its, leaves] at absent
      cases absent
    · exact other (by simpa [Function.update_of_ne its] using absent)
  case leaving => exact fun c wakes' leaves' => grace.leaving_of_update (by simp) leaves'
  case pending => exact fun _ going nobody => absurd nobody (of_decide_eq_false going)
  case exited =>
    intro ended
    have nobody : s.clients = ∅ := of_decide_eq_true ended
    refine ⟨fun d => ?_, left, empty.concat _, same ▸ passed⟩
    rw [← Bool.not_eq_true, ← (seats d).present]
    simp [WebViewer.seat, nobody]

theorem WebViewer.gripper_receive (client : Client) (message : ClientMessage) :
    (s.receive client message).1.gripper.isSome = s.gripper.isSome := by
  cases message with
  | tabChange asked => cases asked <;> rfl
  | setRate hz =>
      rw [WebViewer.receive_setRate]
      cases hz.rate <;> rfl
  | gripperMove message =>
      rw [WebViewer.receive]
      split
      · rename_i held
        simp [held]
      · rfl
  | gripperActivate => simp [WebViewer.receive]
  | _ => rfl

theorem WebViewer.gripper_running (hrun : s.running estimate event = some s') :
    s'.gripper.isSome = s.gripper.isSome := by
  cases event with
  | message client message =>
      obtain ⟨-, rfl⟩ := WebViewer.running_message hrun
      split <;> exact WebViewer.gripper_receive client message
  | tick order =>
      obtain ⟨-, -, looks⟩ := WebViewer.running_tick hrun
      exact congrArg (fun registries => registries.gripper.isSome) looks.registries
  | wake client =>
      obtain ⟨-, -, -, rfl⟩ := WebViewer.running_wake hrun
      rfl
  | push sensorData now => cases hrun; rfl
  | pushWrench values now => cases hrun; rfl
  | work controller => cases hrun; simp
  | _ =>
      obtain ⟨-, same⟩ := Option.ite_none_right_eq_some.mp hrun
      cases same
      rfl

theorem Grace.step (grace : Grace s.gripper.isSome events s) (going : s.exited = false)
    (hrun : s.running estimate event = some s')
    (seats : ∀ d, Seated s.gripper.isSome (events ++ [event]) d (s'.seat d)) :
    Grace s.gripper.isSome (events ++ [event]) s' := by
  cases event with
  | connect client =>
      obtain ⟨absent, same⟩ := Option.ite_none_right_eq_some.mp hrun
      cases same
      exact grace.connect going
  | message client message =>
      obtain ⟨serving, same⟩ := WebViewer.running_message hrun
      have kept := s.receive_eq client message
      have now := congrArg WebViewer.now kept
      have handler := congrArg WebViewer.handler kept
      have hadClient := congrArg WebViewer.hadClient kept
      have clients := congrArg WebViewer.clients kept
      have exited := congrArg WebViewer.exited kept
      cases raises : message.raises s.gripper.isSome with
      | true =>
          rw [raises, if_pos rfl] at same
          subst same
          exact grace.leave serving going rfl (by simp [ViewerEvent.ends, raises]) now handler hadClient exited
            seats
      | false =>
          rw [raises, if_neg Bool.false_ne_true] at same
          subst same
          exact grace.of_same going (now.trans (add_zero _).symm) handler hadClient clients exited
  | close client =>
      obtain ⟨serving, same⟩ := Option.ite_none_right_eq_some.mp hrun
      cases same
      exact grace.leave serving going rfl (by simp [ViewerEvent.ends]) rfl rfl rfl rfl seats
  | wake client => exact grace.wake hrun seats
  | tick order =>
      obtain ⟨-, -, looks⟩ := WebViewer.running_tick hrun
      have now := congrArg WebViewer.Registries.now looks.registries
      have handler := congrArg WebViewer.Registries.handler looks.registries
      have hadClient := congrArg WebViewer.Registries.hadClient looks.registries
      have clients := congrArg WebViewer.Registries.clients looks.registries
      have exited := congrArg WebViewer.Registries.exited looks.registries
      exact grace.of_same going (now.trans (add_zero _).symm) handler hadClient clients exited
  | sent client =>
      obtain ⟨-, same⟩ := Option.ite_none_right_eq_some.mp hrun
      cases same
      exact grace.of_same going (add_zero _).symm rfl rfl rfl rfl
  | elapse duration =>
      obtain ⟨-, same⟩ := Option.ite_none_right_eq_some.mp hrun
      cases same
      exact grace.of_same going rfl rfl rfl rfl rfl
  | push sensorData now => cases hrun; exact grace.of_same going (add_zero _).symm rfl rfl rfl rfl
  | pushWrench values now => cases hrun; exact grace.of_same going (add_zero _).symm rfl rfl rfl rfl
  | work controller => cases hrun; exact grace.of_same going (add_zero _).symm rfl rfl rfl rfl

end

section
variable {τ Client : Type} [DecidableEq Client] {estimate : Estimator τ} {tip : τ}
  {seed : Fin numFingers → List Int} {staticFloor : Int} {s s' : WebViewer τ Client}
  {hasGripper : Bool} {events : List (ViewerEvent Client)} {event : ViewerEvent Client}

structure Agrees (estimate : Estimator τ) (tip : τ) (seed : Fin numFingers → List Int) (staticFloor : Int)
    (hasGripper : Bool) (events : List (ViewerEvent Client)) (s : WebViewer τ Client) : Prop where
  gripper : s.gripper.isSome = hasGripper
  seats : ∀ c, Seated hasGripper events c (s.seat c)
  asked : Asked estimate tip seed staticFloor events s
  grace : Grace hasGripper events s

theorem agrees_create (gripper : Option Controller) :
    Agrees estimate tip seed staticFloor gripper.isSome []
      (WebViewer.create (.create tip seed staticFloor) gripper : WebViewer τ Client) where
  gripper := rfl
  seats c := ⟨by simp [WebViewer.seat, WebViewer.create, connected], rfl, rfl,
    by simp [WebViewer.seat, WebViewer.create, connected], fun _ _ ended => nomatch ended⟩
  asked := ⟨rfl, [], rfl, recorded_create estimate tip seed staticFloor⟩
  grace := ⟨rfl, fun _ other => absurd rfl other, fun _ _ leaves => (nomatch leaves), fun had => (nomatch had),
    fun ended => (nomatch ended)⟩

theorem Agrees.step (whole : ∀ f, (seed f).length = 28)
    (agrees : Agrees estimate tip seed staticFloor hasGripper events s) (hstep : s.step estimate event = some s') :
    Agrees estimate tip seed staticFloor hasGripper (events ++ [event]) s' := by
  obtain ⟨going, hrun⟩ := WebViewer.running_of_step hstep
  obtain ⟨rfl, seats, asked, grace⟩ := agrees
  have seats' (c : Client) := (seats c).step hrun
  exact ⟨WebViewer.gripper_running hrun, seats', asked.step whole hrun, grace.step going hrun seats'⟩

theorem Agrees.run (whole : ∀ f, (seed f).length = 28) {more : List (ViewerEvent Client)}
    (agrees : Agrees estimate tip seed staticFloor hasGripper events s)
    (ran : Machine.run (WebViewer.step estimate) s more = some s') :
    Agrees estimate tip seed staticFloor hasGripper (events ++ more) s' :=
  run_history (fun _ _ _ _ agrees hstep => agrees.step whole hstep) ran agrees

end

/-- Whoever connects, leaves and sends what in whatever order, each client has the tab and the rate it last asked
for itself and is dropped for its own messages only, the buffers are what was asked of them, and the program ends
only with nobody there and two seconds after a moment at which nobody was; who came and left in between does not
put it off. -/
theorem viewer_agrees {τ Client : Type} [DecidableEq Client] (estimate : Estimator τ) (tip : τ)
    {seed : Fin numFingers → List Int} (whole : ∀ f, (seed f).length = 28) (staticFloor : Int)
    (gripper : Option Controller) (events : List (ViewerEvent Client)) (s : WebViewer τ Client)
    (ran : run (WebViewer.step estimate) (.create (.create tip seed staticFloor) gripper) events = some s) :
    Agrees estimate tip seed staticFloor gripper.isSome events s :=
  (agrees_create gripper).run whole ran

/-- The second client sends what cannot be read; the first one stays on its tab. -/
def twoClients : List (ViewerEvent Bool) :=
  [.connect false, .connect true, .message false (.tabChange (some (.text "imu"))), .message true .unreadable,
    .message false (.setRate (.finite 60)), .tick [false], .elapse 3]

theorem viewer_agrees_twoClients : ∃ s : WebViewer Unit Bool,
    run (WebViewer.step fun _ _ _ _ _ => ()) (.create (.create () (fun _ => List.replicate 28 0) 25) none)
      twoClients = some s ∧
    s.clientTabs.lookup false = some (.text "imu") ∧ s.clientTabs.lookup true = none := by
  obtain ⟨s, ran⟩ := Option.isSome_iff_exists.mp (show (run (WebViewer.step fun _ _ _ _ _ => ())
    (.create (.create () (fun _ => List.replicate 28 0) 25) none : WebViewer Unit Bool) twoClients).isSome by
      decide +kernel)
  have agrees := viewer_agrees (fun _ _ _ _ _ => ()) () (fun _ => rfl) 25 none twoClients s ran
  exact ⟨s, ran, (agrees.seats false).tab.trans (by decide +kernel), (agrees.seats true).tab.trans (by decide +kernel)⟩

end TactileSensors.Viewer
