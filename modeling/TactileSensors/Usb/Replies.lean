import TactileSensors.Usb.AbsentFingers
import TactileSensors.Usb.ReadSerialData

/-!
# Replies among the sensor packets

The SDK looks at the command of a packet before it parses it. The three loops of the quickstart do not:
they parse whatever was framed, and ask for the flags after each packet.
-/

namespace TactileSensors.Usb.Quickstart
open Bytes Scan Machine

/-! ## `detect_connected_fingers` -/

structure Listening where
  sensorData : SensorData
  seen : Fin numFingers → Bool

namespace Listening

def packet (s : Listening) (packet : List UInt8) : Listening :=
  let parsed := s.sensorData.parseSensorPacket packet
  ⟨parsed.1.clearNew, fun f => parsed.2.getD f false || s.seen f⟩

def packets (s : Listening) (packets : List (List UInt8)) : Listening := packets.foldl packet s

end Listening

def listen (parser : UsbPacketParser) (s : Listening) : List Turn → Option (UsbPacketParser × Listening)
  | [] => none
  | .expired :: _ => some (parser, s)
  | .idle :: turns => listen parser s turns
  | .read data :: turns =>
      let fed := parser.feedBytes data
      listen fed.2 (s.packets fed.1) turns

def detectConnectedFingers (monitor : SensorMonitor) (turns : List Turn) : Option SensorMonitor :=
  (listen monitor.parser ⟨monitor.sensorData, fun _ => false⟩ turns).map fun ended =>
    { monitor with
      parser := ended.1
      sensorData := ended.2.sensorData
      connectedFingers := ended.2.seen }

/-! ## Streams without the replies -/

def isSensorPacket (packet : List UInt8) : Bool := isSensorCommand (packet.getD 2 0)

structure Reply extends Framed where
  other : isSensorPacket bytes = false

def withoutReplies (batches : List (Option (List (List UInt8)))) : List (Option (List (List UInt8))) :=
  batches.map (Option.map (List.filter isSensorPacket))

def repliesIn (batches : List (Option (List (List UInt8)))) : List (List UInt8) :=
  (batches.filterMap id).flatten.filter fun packet => !isSensorPacket packet

theorem batch_framed {parser next : UsbPacketParser} {turn : Turn} {packets : List (List UInt8)}
    (h : turn.batch parser = some (packets, next)) :
    ∀ bytes ∈ packets, ∃ packet : Framed, packet.bytes = bytes := by
  cases turn with
  | expired => cases h
  | idle =>
      cases h
      exact fun bytes hbytes => by cases hbytes
  | read data =>
      cases h
      exact findPackets_framed _

theorem framed_of_none {parser : UsbPacketParser} {turn : Turn} (h : turn.batch parser = none)
    (turns : List Turn) : framed parser (turn :: turns) = none :: framed parser turns := by
  rw [framed, h]

theorem framed_of_some {parser next : UsbPacketParser} {turn : Turn} {packets : List (List UInt8)}
    (h : turn.batch parser = some (packets, next)) (turns : List Turn) :
    framed parser (turn :: turns) = some packets :: framed next turns := by
  rw [framed, h]

theorem without_induction {replies : List (List UInt8)}
    {motive : UsbPacketParser → List Turn → UsbPacketParser → List Turn → Prop}
    (nil : ∀ parser parser', motive parser [] parser' [])
    (expired : ∀ parser turns parser' turns',
      motive parser (.expired :: turns) parser' (.expired :: turns'))
    (batch : ∀ {parser turn packets next turns parser' turn' next' turns'},
      turn.batch parser = some (packets, next) →
      turn'.batch parser' = some (packets.filter isSensorPacket, next') →
      (∀ bytes ∈ packets, isSensorPacket bytes = false → bytes ∈ replies) →
      motive next turns next' turns' → motive parser (turn :: turns) parser' (turn' :: turns'))
    {parser parser' : UsbPacketParser} {turns turns' : List Turn}
    (removed : ∀ bytes ∈ repliesIn (framed parser turns), bytes ∈ replies)
    (same : framed parser' turns' = withoutReplies (framed parser turns)) :
    motive parser turns parser' turns' := by
  induction turns generalizing parser parser' turns' with
  | nil =>
      cases turns' with
      | nil => exact nil parser parser'
      | cons turn' turns' =>
          cases first' : turn'.batch parser' with
          | none => rw [framed_of_none first'] at same; cases same
          | some taken' => rw [framed_of_some first'] at same; cases same
  | cons turn turns ih =>
      cases first : turn.batch parser with
      | none =>
          rw [framed_of_none first] at same
          cases turns' with
          | nil => cases same
          | cons turn' turns' =>
              cases first' : turn'.batch parser' with
              | some taken' => rw [framed_of_some first'] at same; cases same
              | none =>
                  cases turn <;> cases first
                  cases turn' <;> cases first'
                  exact expired parser turns parser' turns'
      | some taken =>
          obtain ⟨packets, next⟩ := taken
          rw [framed_of_some first] at same removed
          cases turns' with
          | nil => cases same
          | cons turn' turns' =>
              cases first' : turn'.batch parser' with
              | none => rw [framed_of_none first'] at same; cases same
              | some taken' =>
                  obtain ⟨packets', next'⟩ := taken'
                  rw [framed_of_some first'] at same
                  obtain ⟨head, rest⟩ := List.cons.inj same
                  obtain rfl := Option.some.inj head
                  simp only [repliesIn, List.filterMap_cons, id, List.flatten_cons,
                    List.filter_append, List.mem_append] at removed
                  refine batch first first' (fun bytes hbytes away => ?_)
                    (ih (fun bytes hbytes => removed bytes (.inr hbytes)) rest)
                  exact removed bytes (.inl (List.mem_filter.mpr ⟨hbytes, by simp [away]⟩))

/-! ## The loops on such streams -/

section
variable {connectedFingers : Fin numFingers → Bool} {replies : List (List UInt8)}
variable {parser parser' : UsbPacketParser} {turns turns' : List Turn}

/-- As long as `Inv` holds, which every packet keeps, the replies do nothing to the data and are no
samples. -/
structure Harmless (connectedFingers : Fin numFingers → Bool) (replies : List (List UInt8))
    (Inv : SensorData → Prop) : Prop where
  keeps : ∀ sensorData (packet : Framed), Inv sensorData →
    Inv (sensorData.next connectedFingers packet.bytes).1
  still : ∀ sensorData, ∀ reply ∈ replies, Inv sensorData →
    sensorData.next connectedFingers reply = (sensorData, false)

theorem reading_without {Inv : SensorData → Prop} (harmless : Harmless connectedFingers replies Inv)
    (removed : ∀ bytes ∈ repliesIn (framed parser turns), bytes ∈ replies)
    (same : framed parser' turns' = withoutReplies (framed parser turns)) {s : Reading}
    (hs : Inv s.sensorData) :
    (readSerialData connectedFingers parser' s turns').2 =
      (readSerialData connectedFingers parser s turns).2 := by
  have sensorData : ∀ (s : Reading) (bytes : List UInt8),
      (s.packet connectedFingers bytes).sensorData = (s.sensorData.next connectedFingers bytes).1 := by
    intro s bytes
    simp only [Reading.packet]
    split <;> rfl
  refine @without_induction replies (fun parser turns parser' turns' => ∀ s : Reading, Inv s.sensorData →
    (readSerialData connectedFingers parser' s turns').2 =
      (readSerialData connectedFingers parser s turns).2) (fun _ _ _ _ => rfl) (fun _ _ _ _ _ _ => rfl)
    (fun {parser turn packets next turns parser' turn' next' turns'} first first' away ih s hs => ?_)
    parser parser' turns turns' removed same s hs
  have step {parser next : UsbPacketParser} {turn : Turn} {packets : List (List UInt8)}
      (first : turn.batch parser = some (packets, next)) (turns : List Turn) :
      readSerialData connectedFingers parser s (turn :: turns) =
        readSerialData connectedFingers next (s.packets connectedFingers packets) turns := by
    cases turn <;> cases first <;> rfl
  have keeps : ∀ s : Reading, ∀ bytes ∈ packets, Inv s.sensorData →
      Inv (s.packet connectedFingers bytes).sensorData := by
    intro s bytes hbytes hs
    obtain ⟨packet, rfl⟩ := batch_framed first bytes hbytes
    rw [sensorData]
    exact harmless.keeps s.sensorData packet hs
  have kept : s.packets connectedFingers (packets.filter isSensorPacket) =
      s.packets connectedFingers packets := by
    refine foldl_filter keeps (fun s bytes hbytes other hs => ?_) hs
    rw [Reading.packet, harmless.still s.sensorData bytes (away bytes hbytes other) hs]
    rfl
  have last : Inv (s.packets connectedFingers packets).sensorData :=
    List.foldlRecOn (motive := fun s : Reading => Inv s.sensorData) packets _ hs
      fun s hs bytes hbytes => keeps s bytes hbytes hs
  rw [step first, step first', kept]
  exact ih _ last

theorem listening_without {Inv : Listening → Prop} (keeps : ∀ s bytes, Inv s → Inv (s.packet bytes))
    (still : ∀ s, ∀ reply ∈ replies, Inv s → s.packet reply = s)
    (removed : ∀ bytes ∈ repliesIn (framed parser turns), bytes ∈ replies)
    (same : framed parser' turns' = withoutReplies (framed parser turns)) {s : Listening} (hs : Inv s) :
    (listen parser' s turns').map Prod.snd = (listen parser s turns).map Prod.snd := by
  refine @without_induction replies (fun parser turns parser' turns' => ∀ s, Inv s →
    (listen parser' s turns').map Prod.snd = (listen parser s turns).map Prod.snd)
    (fun _ _ _ _ => rfl) (fun _ _ _ _ _ _ => rfl)
    (fun {parser turn packets next turns parser' turn' next' turns'} first first' away ih s hs => ?_)
    parser parser' turns turns' removed same s hs
  have step {parser next : UsbPacketParser} {turn : Turn} {packets : List (List UInt8)}
      (first : turn.batch parser = some (packets, next)) (turns : List Turn) :
      listen parser s (turn :: turns) = listen next (s.packets packets) turns := by
    cases turn <;> cases first <;> rfl
  have kept : s.packets (packets.filter isSensorPacket) = s.packets packets :=
    foldl_filter (fun s bytes _ => keeps s bytes)
      (fun s bytes hbytes other => still s bytes (away bytes hbytes other)) hs
  rw [step first, step first', kept]
  exact ih _ (List.foldlRecOn packets _ hs fun s hs bytes _ => keeps s bytes hs)

def Collecting.withParser (s : Collecting) (parser : UsbPacketParser) : Collecting :=
  { s with parser := parser }

@[simp] theorem samplesCollected_withParser (s : Collecting) (parser : UsbPacketParser) :
    (s.withParser parser).samplesCollected = s.samplesCollected := rfl

def Collected.withParser (parser : UsbPacketParser) : Collected → Collected
  | .enough s => .enough (s.withParser parser)
  | .expired s => .expired (s.withParser parser)
  | .raised => .raised
  | .waiting => .waiting

theorem packet_withParser (s : Collecting) (parser : UsbPacketParser) (bytes : List UInt8) :
    (s.withParser parser).packet connectedFingers bytes =
      (s.packet connectedFingers bytes).map (·.withParser parser) := by
  rw [Collecting.packet, Collecting.packet, Collecting.withParser]
  by_cases sample : (s.sensorData.next connectedFingers bytes).2 = true
  · simp only [sample, if_true, Option.map_map]
    rfl
  · simp only [sample]
    rfl

theorem run_withParser (s : Collecting) (parser : UsbPacketParser) (packets : List (List UInt8)) :
    run (Collecting.packet connectedFingers) (s.withParser parser) packets =
      (run (Collecting.packet connectedFingers) s packets).map (·.withParser parser) := by
  induction packets generalizing s with
  | nil => rfl
  | cons bytes packets ih =>
      rw [run_cons, run_cons, packet_withParser]
      cases s.packet connectedFingers bytes with
      | none => rfl
      | some mid => exact ih mid

theorem collect_batch {numSamples : Int} {s : Collecting} {turn : Turn} {packets : List (List UInt8)}
    {next : UsbPacketParser} (first : turn.batch s.parser = some (packets, next))
    (few : ¬ numSamples ≤ s.samplesCollected) (turns : List Turn) :
    collect connectedFingers numSamples s (turn :: turns) =
      ((run (Collecting.packet connectedFingers) s packets).map fun s =>
        collect connectedFingers numSamples (s.withParser next) turns).getD .raised := by
  cases turn with
  | expired => cases first
  | idle =>
      cases first
      exact if_neg few
  | read data =>
      have fed : s.parser.feedBytes data = (packets, next) := Option.some.inj first
      have read : s.read connectedFingers data =
          (run (Collecting.packet connectedFingers) s packets).map (·.withParser next) := by
        rw [Collecting.read, fed]
        exact run_withParser s next packets
      rw [collect, if_neg few]
      simp only [read]
      cases run (Collecting.packet connectedFingers) s packets <;> rfl

theorem collecting_enough {numSamples : Int} {s : Collecting}
    (enough : numSamples ≤ s.samplesCollected) (parser parser' : UsbPacketParser)
    (turns turns' : List Turn) :
    (collect connectedFingers numSamples (s.withParser parser') turns').withParser .init =
      (collect connectedFingers numSamples (s.withParser parser) turns).withParser .init := by
  have first := @collect_of_le connectedFingers (s.withParser parser) numSamples enough turns
  have second := @collect_of_le connectedFingers (s.withParser parser') numSamples enough turns'
  rw [first, second]
  rfl

theorem collecting_without {numSamples : Int} {Inv : SensorData → Prop}
    (harmless : Harmless connectedFingers replies Inv)
    (removed : ∀ bytes ∈ repliesIn (framed parser turns), bytes ∈ replies)
    (same : framed parser' turns' = withoutReplies (framed parser turns)) {s : Collecting}
    (hs : Inv s.sensorData) :
    (collect connectedFingers numSamples (s.withParser parser') turns').withParser .init =
      (collect connectedFingers numSamples (s.withParser parser) turns).withParser .init := by
  refine @without_induction replies (fun parser turns parser' turns' => ∀ s : Collecting,
    Inv s.sensorData →
      (collect connectedFingers numSamples (s.withParser parser') turns').withParser .init =
        (collect connectedFingers numSamples (s.withParser parser) turns).withParser .init)
    (fun parser parser' s _ => ?_) (fun parser turns parser' turns' s _ => ?_)
    (fun {parser turn packets next turns parser' turn' next' turns'} first first' away ih s hs => ?_)
    parser parser' turns turns' removed same s hs
  · by_cases enough : numSamples ≤ s.samplesCollected
    · exact collecting_enough enough parser parser' [] []
    · simp only [collect, samplesCollected_withParser, enough, if_false]
  · by_cases enough : numSamples ≤ s.samplesCollected
    · exact collecting_enough enough parser parser' _ _
    · simp only [collect, samplesCollected_withParser, enough, if_false]
      rfl
  · by_cases enough : numSamples ≤ s.samplesCollected
    · exact collecting_enough enough parser parser' _ _
    have keeps : ∀ s : Collecting, ∀ bytes ∈ packets, ∀ s', Inv s.sensorData →
        s.packet connectedFingers bytes = some s' → Inv s'.sensorData := by
      intro s bytes hbytes s' hs step
      obtain ⟨packet, rfl⟩ := batch_framed first bytes hbytes
      rw [(packet_adds step).2.1]
      exact harmless.keeps s.sensorData packet hs
    have kept : run (Collecting.packet connectedFingers) s (packets.filter isSensorPacket) =
        run (Collecting.packet connectedFingers) s packets := by
      refine run_filter keeps (fun s bytes hbytes other hs => ?_) hs
      rw [Collecting.packet, harmless.still s.sensorData bytes (away bytes hbytes other) hs]
      rfl
    have all := @collect_batch connectedFingers numSamples (s.withParser parser) _ _ _ first enough turns
    have some := @collect_batch connectedFingers numSamples (s.withParser parser') _ _ _ first' enough
      turns'
    rw [all, some, run_withParser, run_withParser, kept]
    cases last : run (Collecting.packet connectedFingers) s packets with
    | none => rfl
    | some mid =>
        have members : StepsMeet (Collecting.packet connectedFingers) (fun _ bytes => bytes ∈ packets) s
            packets := stepsMeet_of_forall_mem fun bytes hbytes => hbytes
        exact ih mid (@run_invariant_of_stepsMeet _ _ _ (fun s => Inv s.sensorData) _
          (fun s bytes s' hs hbytes step => keeps s bytes hbytes s' hs step) _ _ _ last members hs)

end

/-! ## Quiet replies -/

theorem SensorData.eq_of_fingers {sensorData other : SensorData}
    (same : sensorData.fingers = other.fingers) : sensorData = other := by
  cases sensorData
  cases other
  cases same
  rfl

def QuietReply (reply : Reply) : Prop := ∀ byte ∈ reply.payload, finger? byte = none

instance (reply : Reply) : Decidable (QuietReply reply) :=
  inferInstanceAs (Decidable (∀ byte ∈ reply.payload, _))

theorem parse_quiet {reply : Reply} (quiet : QuietReply reply) (sensorData : SensorData) :
    sensorData.parseSensorPacket reply.bytes = (sensorData, newData sensorData.fingers) := by
  have same : parseFrom reply.payload sensorData.fingers 0 = sensorData.fingers := by
    rw [parseFrom_eq_walk, List.drop_zero, ← List.append_nil reply.payload]
    exact walk_idle readsFields.skips quiet _ _
  have parsed := parseSensorPacket_framed sensorData.fingers reply.toFramed
  rw [same] at parsed
  refine Prod.ext (SensorData.eq_of_fingers ?_) ?_
  · exact congrArg (fun parsed : Fingers × List Bool => parsed.1) parsed
  · exact congrArg (fun parsed : Fingers × List Bool => parsed.2) parsed

theorem addresses_of_loud {reply : Reply} (loud : ¬ QuietReply reply) :
    ∃ f, addresses reply.bytes f := by
  have byte : ∃ byte ∈ reply.payload, ¬ finger? byte = none := by
    by_contra none
    exact loud fun byte hbyte => by_contra fun speaks => none ⟨byte, hbyte, speaks⟩
  have raised := walk_loud readsFields.skips readsFields.raises readsFields.keeps Fingers.init byte
  rw [← List.drop_zero (l := reply.payload), ← parseFrom_eq_walk] at raised
  obtain ⟨f, new⟩ := raised
  rw [parseFrom_isNew, (sameStart_init.pythonClear f), Bool.or_false, List.any_eq_true] at new
  obtain ⟨m, hm, addressed⟩ := new
  exact ⟨f, m, hm, of_decide_eq_true addressed⟩

def Incomplete (connectedFingers : Fin numFingers → Bool) (sensorData : SensorData) : Prop :=
  ∃ f, connectedFingers f ∧ sensorData.isNew f = false

theorem harmless_of_quiet {connectedFingers : Fin numFingers → Bool} {replies : List Reply}
    (some : ∃ f, connectedFingers f) (quiet : ∀ reply ∈ replies, QuietReply reply) :
    Harmless connectedFingers (replies.map (·.bytes)) (Incomplete connectedFingers) where
  keeps sensorData packet incomplete := by
    obtain ⟨sample, flags⟩ := @SensorData.next_isNew connectedFingers sensorData packet
    by_cases all : (sensorData.next connectedFingers packet.bytes).2 = true
    · obtain ⟨f, connected⟩ := some
      exact ⟨f, connected, Bool.eq_false_iff.mpr fun new => by simpa [all] using (flags f).mp new⟩
    · have missing := mt sample.mpr all
      push Not at missing
      obtain ⟨f, connected, silent, old⟩ := missing
      refine ⟨f, connected, Bool.eq_false_iff.mpr fun new => ?_⟩
      rcases ((flags f).mp new).2 with addressed | before
      · exact silent addressed
      · exact old before
  still sensorData reply hreply incomplete := by
    obtain ⟨reply, mem, rfl⟩ := List.mem_map.mp hreply
    obtain ⟨f, connected, old⟩ := incomplete
    have parsed := parse_quiet (quiet reply mem) sensorData
    have missing : ¬ complete connectedFingers (newData sensorData.fingers) = true := by
      intro all
      have flags := @SensorData.complete_iff connectedFingers sensorData reply.toFramed
      rw [parsed] at flags
      exact Bool.false_ne_true (old.symm.trans (flags.mp all f connected))
    simp only [SensorData.next, parsed]
    exact if_neg missing

/-! ## The three loops together -/

def SensorMonitor.withParser (monitor : SensorMonitor) (parser : UsbPacketParser) : SensorMonitor :=
  { monitor with parser := parser }

def Outcome.withParser (parser : UsbPacketParser) : Outcome → Outcome
  | .returned done monitor => .returned done (monitor.withParser parser)
  | .raised => .raised
  | .waiting => .waiting

/-- Whatever stream brings the replies, the loops end as on the stream without them, but for what is
left in the parser. -/
def Unaltered (monitor : SensorMonitor) (replies : List Reply) : Prop :=
  ∀ (parser parser' : UsbPacketParser) (turns turns' : List Turn),
    repliesIn (framed parser turns) = replies.map (·.bytes) →
    framed parser' turns' = withoutReplies (framed parser turns) →
    (detectConnectedFingers (monitor.withParser parser') turns').map (·.withParser .init) =
        (detectConnectedFingers (monitor.withParser parser) turns).map (·.withParser .init) ∧
      (∀ numSamples, (resetBaseline numSamples (monitor.withParser parser') turns').withParser .init =
        (resetBaseline numSamples (monitor.withParser parser) turns).withParser .init) ∧
      (readSerialData monitor.connectedFingers parser' ⟨monitor.sensorData, []⟩ turns').2 =
        (readSerialData monitor.connectedFingers parser ⟨monitor.sensorData, []⟩ turns).2

theorem detectConnectedFingers_congr {monitor : SensorMonitor} {parser parser' : UsbPacketParser}
    {turns turns' : List Turn}
    (same : (listen parser' ⟨monitor.sensorData, fun _ => false⟩ turns').map Prod.snd =
      (listen parser ⟨monitor.sensorData, fun _ => false⟩ turns).map Prod.snd) :
    (detectConnectedFingers (monitor.withParser parser') turns').map (·.withParser .init) =
      (detectConnectedFingers (monitor.withParser parser) turns).map (·.withParser .init) := by
  have view (parser : UsbPacketParser) (turns : List Turn) :
      (detectConnectedFingers (monitor.withParser parser) turns).map (·.withParser .init) =
        ((listen parser ⟨monitor.sensorData, fun _ => false⟩ turns).map Prod.snd).map fun s =>
          { monitor with parser := .init, sensorData := s.sensorData, connectedFingers := s.seen } := by
    rw [detectConnectedFingers, Option.map_map, Option.map_map]
    rfl
  rw [view, view, same]

theorem resetBaseline_congr {monitor : SensorMonitor} {numSamples : Int}
    {parser parser' : UsbPacketParser} {turns turns' : List Turn}
    (same : ∀ s : Collecting, s.sensorData = monitor.sensorData →
      (collect monitor.connectedFingers numSamples (s.withParser parser') turns').withParser .init =
        (collect monitor.connectedFingers numSamples (s.withParser parser) turns).withParser .init) :
    (resetBaseline numSamples (monitor.withParser parser') turns').withParser .init =
      (resetBaseline numSamples (monitor.withParser parser) turns).withParser .init := by
  have collected := same ⟨.init, monitor.sensorData, fun _ _ => 0, 0⟩ rfl
  rw [resetBaseline, resetBaseline]
  cases running : monitor.running with
  | false => simp [SensorMonitor.withParser, running, Outcome.withParser]
  | true =>
      simp only [SensorMonitor.withParser, running, Collecting.withParser, Bool.not_true,
        Bool.false_eq_true, if_false] at collected ⊢
      revert collected
      generalize collect monitor.connectedFingers numSamples _ turns' = ended'
      generalize collect monitor.connectedFingers numSamples _ turns = ended
      intro collected
      rcases ended with ⟨⟨_, _, _, _⟩⟩ | ⟨⟨_, _, _, _⟩⟩ | _ | _ <;>
        rcases ended' with ⟨⟨_, _, _, _⟩⟩ | ⟨⟨_, _, _, _⟩⟩ | _ | _ <;> cases collected
      case true.enough.enough.refl =>
        by_cases zero : numSamples = 0 ∧ ∃ f, monitor.connectedFingers f = true
        · simp only [zero]
          rfl
        · simp only [zero, if_false]
          rfl
      all_goals rfl

theorem unaltered_of {monitor : SensorMonitor} {replies : List Reply} {Inv : SensorData → Prop}
    (harmless : Harmless monitor.connectedFingers (replies.map (·.bytes)) Inv)
    (start : Inv monitor.sensorData) {Heard : Listening → Prop}
    (keeps : ∀ s bytes, Heard s → Heard (s.packet bytes))
    (still : ∀ s, ∀ reply ∈ replies.map (·.bytes), Heard s → s.packet reply = s)
    (heard : Heard ⟨monitor.sensorData, fun _ => false⟩) : Unaltered monitor replies := by
  intro parser parser' turns turns' removed same
  have known : ∀ bytes ∈ repliesIn (framed parser turns), bytes ∈ replies.map (·.bytes) :=
    fun bytes hbytes => removed ▸ hbytes
  refine ⟨?_, fun numSamples => ?_, reading_without harmless known same start⟩
  · exact detectConnectedFingers_congr (listening_without keeps still known same heard)
  · exact resetBaseline_congr fun s hs => collecting_without harmless known same (hs ▸ start)

theorem listening_packet_isNew (s : Listening) (bytes : List UInt8) (f : Fin numFingers) :
    (s.packet bytes).sensorData.isNew f = false :=
  SensorData.clearNew_isNew _ f

theorem clearNew_of_clear {sensorData : SensorData} (clear : ∀ f, sensorData.isNew f = false) :
    sensorData.clearNew = sensorData := by
  refine SensorData.eq_of_fingers (Vector.ext fun i hi => ?_)
  have old : (sensorData.fingers[i]).newDataAvailable = false := clear ⟨i, hi⟩
  rw [SensorData.clearNew, Vector.getElem_map, ← old]

theorem listening_still {reply : Reply} (quiet : QuietReply reply) {s : Listening}
    (clear : ∀ f, s.sensorData.isNew f = false) : s.packet reply.bytes = s := by
  have flags : ∀ f : Fin numFingers, (newData s.sensorData.fingers).getD f false = false := by
    intro f
    rw [SensorData.newData_getD]
    exact clear f
  simp only [Listening.packet, parse_quiet quiet, clearNew_of_clear clear, flags, Bool.false_or]

theorem listening_seen (s : Listening) (packets : List Framed) (f : Fin numFingers)
    (seen : s.seen f = true ∨ (packets ≠ [] ∧ s.sensorData.isNew f = true) ∨
      ∃ packet ∈ packets, addresses packet.bytes f) :
    (s.packets (packets.map (·.bytes))).seen f = true := by
  induction packets generalizing s with
  | nil =>
      rcases seen with before | ⟨none, -⟩ | ⟨packet, hpacket, -⟩
      · exact before
      · exact absurd rfl none
      · cases hpacket
  | cons packet packets ih =>
      have flag : (s.packet packet.bytes).seen f =
          ((s.sensorData.parseSensorPacket packet.bytes).1.isNew f || s.seen f) := by
        rw [← SensorData.parseSensorPacket_flag]
        rfl
      refine ih (s.packet packet.bytes) ?_
      rw [flag, Bool.or_eq_true, SensorData.parseSensorPacket_isNew]
      rcases seen with before | ⟨-, new⟩ | ⟨other, hother, addressed⟩
      · exact .inl (.inr before)
      · exact .inl (.inl (.inr new))
      · rcases List.mem_cons.mp hother with rfl | later
        · exact .inl (.inl (.inl addressed))
        · exact .inr (.inr ⟨other, later, addressed⟩)

theorem length_calls_le {connectedFingers : Fin numFingers → Bool} (s : Reading)
    (packets : List (List UInt8)) :
    s.calls.length ≤ (s.packets connectedFingers packets).calls.length := by
  induction packets generalizing s with
  | nil => exact Nat.le_refl _
  | cons packet packets ih =>
      refine Nat.le_trans ?_ (ih (s.packet connectedFingers packet))
      rw [Reading.packet]
      by_cases sample : (s.sensorData.next connectedFingers packet).2 = true <;> simp [sample]

def repliesOnly (replies : List Reply) : List Turn := [.read (replies.flatMap (·.bytes)), .expired]

theorem feed_replies (replies : List Reply) :
    (UsbPacketParser.init.feedBytes (replies.flatMap (·.bytes))).1 = replies.map (·.bytes) := by
  have found := finds_framed (replies.map (·.toFramed))
  rw [List.flatMap_map, List.map_map] at found
  exact (findPackets_spec _).1.trans found

theorem framed_repliesOnly (replies : List Reply) :
    framed .init (repliesOnly replies) = [some (replies.map (·.bytes)), none] := by
  rw [repliesOnly, framed, Turn.batch]
  simp only [feed_replies, framed, Turn.batch]

theorem detect_repliesOnly (monitor : SensorMonitor) (replies : List Reply) :
    ((detectConnectedFingers (monitor.withParser .init) (repliesOnly replies)).map
        (·.withParser .init)).map (·.connectedFingers) =
      some ((Listening.mk monitor.sensorData fun _ => false).packets (replies.map (·.bytes))).seen := by
  rw [← feed_replies]
  rfl

theorem quiet_of_unaltered {monitor : SensorMonitor} {replies : List Reply}
    (unaltered : Unaltered monitor replies) (nonempty : replies ≠ []) :
    (∀ f, monitor.sensorData.isNew f = false) ∧ (∃ f, monitor.connectedFingers f) ∧
      ∀ reply ∈ replies, QuietReply reply := by
  have framed_all := framed_repliesOnly replies
  have others : (replies.map (·.bytes)).filter (fun packet => !isSensorPacket packet) =
      replies.map (·.bytes) := by
    refine List.filter_eq_self.mpr fun bytes hbytes => ?_
    obtain ⟨reply, -, rfl⟩ := List.mem_map.mp hbytes
    simp [reply.other]
  have sensors : (replies.map (·.bytes)).filter isSensorPacket = [] := by
    refine List.filter_eq_nil_iff.mpr fun bytes hbytes => ?_
    obtain ⟨reply, -, rfl⟩ := List.mem_map.mp hbytes
    simp [reply.other]
  obtain ⟨detect, -, read⟩ := unaltered .init .init (repliesOnly replies) [.idle, .expired]
    (by simpa [framed_all, repliesIn] using others)
    (by rw [framed_all]; simp [framed, Turn.batch, withoutReplies, sensors])
  have toFramed : replies.map (·.bytes) = (replies.map (·.toFramed)).map (·.bytes) := by
    rw [List.map_map]
    rfl
  -- no finger is seen without the replies, so none is with them
  have unseen : ∀ f, ¬ ((Listening.mk monitor.sensorData fun _ => false).packets
      (replies.map (·.bytes))).seen f = true := by
    have same := congrArg (Option.map SensorMonitor.connectedFingers) detect
    rw [detect_repliesOnly] at same
    have seen : (fun _ => false) = ((Listening.mk monitor.sensorData fun _ => false).packets
        (replies.map (·.bytes))).seen := Option.some.inj same
    rw [← seen]
    exact fun _ => Bool.false_ne_true
  rw [toFramed] at unseen
  refine ⟨fun f => ?_, ?_, fun reply hreply => ?_⟩
  · refine Bool.eq_false_iff.mpr fun new => unseen f (listening_seen _ _ f (.inr (.inl ⟨?_, new⟩)))
    simpa using nonempty
  · by_contra none
    obtain ⟨reply, later, rfl⟩ := List.exists_cons_of_ne_nil nonempty
    have sample : (monitor.sensorData.next monitor.connectedFingers reply.bytes).2 = true :=
      (monitor.sensorData.next_isNew reply.toFramed).1.mpr fun f connected => absurd ⟨f, connected⟩ none
    have calls := congrArg (fun s : Reading => s.calls.length) read
    rw [readSerialData_eq, readSerialData_eq, framed_all] at calls
    have grown := @length_calls_le monitor.connectedFingers
      ((Reading.mk monitor.sensorData []).packet monitor.connectedFingers reply.bytes)
      (later.map (·.bytes))
    have first : ((Reading.mk monitor.sensorData []).packet monitor.connectedFingers
        reply.bytes).calls.length = 1 := by simp [Reading.packet, sample]
    have nothing : 0 = (((Reading.mk monitor.sensorData []).packet monitor.connectedFingers
        reply.bytes).packets monitor.connectedFingers (later.map (·.bytes))).calls.length := by
      simpa [framed, Turn.batch, taken, Reading.packets] using calls
    omega
  · by_contra loud
    obtain ⟨f, addressed⟩ := addresses_of_loud loud
    exact unseen f (listening_seen _ _ f (.inr (.inr
      ⟨reply.toFramed, List.mem_map.mpr ⟨reply, hreply, rfl⟩, addressed⟩)))

/-- The loops take no notice of replies exactly if there are none, or no finger has new data at the start,
some finger is connected, and no byte of the replies' data passes for a tag of a finger. -/
theorem unaltered_iff (monitor : SensorMonitor) (replies : List Reply) :
    Unaltered monitor replies ↔ replies = [] ∨
      ((∀ f, monitor.sensorData.isNew f = false) ∧ (∃ f, monitor.connectedFingers f) ∧
        ∀ reply ∈ replies, QuietReply reply) := by
  constructor
  · intro unaltered
    exact or_iff_not_imp_left.mpr fun nonempty => quiet_of_unaltered unaltered nonempty
  · rintro (rfl | ⟨clear, some, quiet⟩)
    · exact @unaltered_of monitor [] (fun _ => True)
        ⟨fun _ _ _ => trivial, fun _ _ h => by cases h⟩ trivial (fun _ => True) (fun _ _ _ => trivial)
        (fun _ _ h => by cases h) trivial
    · obtain ⟨f, connected⟩ := some
      refine @unaltered_of monitor replies _ (harmless_of_quiet ⟨f, connected⟩ quiet)
        ⟨f, connected, clear f⟩ (fun s => ∀ f, s.sensorData.isNew f = false)
        (fun s bytes _ => listening_packet_isNew s bytes) (fun s bytes hbytes clear => ?_) clear
      obtain ⟨reply, hreply, rfl⟩ := List.mem_map.mp hbytes
      exact listening_still (quiet reply hreply) clear

def versionReply : Reply :=
  ⟨⟨[usbPacketStartByte, 0, usbCommandGetVersion, 3, 0x31, 0x2E, 0x32], ⟨_, rfl⟩, rfl⟩, by decide⟩

/-- The text passes for an accelerometer field of the first finger. -/
theorem version_reply_read_as_fields :
    ¬ ∀ (monitor : SensorMonitor) (replies : List Reply), Unaltered monitor replies := by
  intro unaltered
  have altered := unaltered firstFingerMonitor [versionReply] .init .init
    [.read versionReply.bytes] [.idle] (by decide +kernel) (by decide +kernel)
  have calls := congrArg (fun s : Reading => s.calls.length) altered.2.2
  revert calls
  decide +kernel

end TactileSensors.Usb.Quickstart
