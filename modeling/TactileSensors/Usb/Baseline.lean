import TactileSensors.Arith.Mean
import TactileSensors.Machine.Run
import TactileSensors.Usb.Quickstart

/-!
# The baseline of the quickstart

`reset_baseline` adds up the static tactile data of the packets it reads and divides by the number of
samples it was asked for. It looks at that number between reads only, so the last read may bring more.
-/

namespace TactileSensors.Usb.Quickstart
open Bytes Machine Arith

/-! ## The monitor -/

def Measured (fingers : Fingers) : Prop :=
  ∀ f : Fin numFingers, ∀ value ∈ (fingers.get f).staticTactile, 0 ≤ value

instance (fingers : Fingers) : Decidable (Measured fingers) :=
  inferInstanceAs
    (Decidable (∀ f : Fin numFingers, ∀ value ∈ (fingers.get f).staticTactile, 0 ≤ value))

theorem measured_init : Measured .init := by decide

theorem parseField_measured {finger : FingerData} (sensorType : UInt8) (data : List UInt8)
    (measured : ∀ value ∈ finger.staticTactile, 0 ≤ value) :
    ∀ value ∈ (parseField finger sensorType data).1.staticTactile, 0 ≤ value := by
  cases known : Kind.ofType sensorType with
  | some kind =>
      rw [Kind.ofType_eq_some known, parseField_kind]
      cases kind with
      | staticTactile =>
          intro value hvalue
          obtain ⟨n, -, rfl⟩ := List.mem_map.mp hvalue
          exact Int.natCast_nonneg n
      | dynamicTactile | accelerometer | gyroscope | temperature | timestamp => exact measured
  | none =>
      by_cases magnetometer : sensorType = sensorTypeMagnetometer
      · rw [magnetometer, parseField_magnetometer]
        exact measured
      · rw [parseField_unknown finger data known magnetometer]
        exact measured

theorem parseSensorPacket_measured {fingers : Fingers} (packet : List UInt8)
    (measured : Measured fingers) : Measured (parseSensorPacket fingers packet).1 :=
  parseSensorPacket_keeps (P := fun finger => ∀ value ∈ finger.staticTactile, 0 ≤ value)
    (fun _ sensorType data => parseField_measured sensorType data) packet measured

def FingerData.Inertial (finger : FingerData) : Prop :=
  finger.accelerometer.length = imuSize ∧ finger.gyroscope.length = imuSize

instance (finger : FingerData) : Decidable finger.Inertial := inferInstanceAs (Decidable (_ ∧ _))

def Inertial (fingers : Fingers) : Prop := ∀ f : Fin numFingers, (fingers.get f).Inertial

instance (fingers : Fingers) : Decidable (Inertial fingers) :=
  inferInstanceAs (Decidable (∀ f : Fin numFingers, (fingers.get f).Inertial))

theorem inertial_init : Inertial .init := by decide

theorem parseField_inertial {finger : FingerData} (sensorType : UInt8) (data : List UInt8)
    (inertial : finger.Inertial) : (parseField finger sensorType data).1.Inertial := by
  cases known : Kind.ofType sensorType with
  | some kind =>
      rw [Kind.ofType_eq_some known, parseField_kind]
      cases kind with
      | accelerometer => exact ⟨length_imuValues _, inertial.2⟩
      | gyroscope => exact ⟨inertial.1, length_imuValues _⟩
      | staticTactile | dynamicTactile | temperature | timestamp => exact inertial
  | none =>
      by_cases magnetometer : sensorType = sensorTypeMagnetometer
      · rw [magnetometer, parseField_magnetometer]
        exact inertial
      · rw [parseField_unknown finger data known magnetometer]
        exact inertial

theorem parseSensorPacket_inertial {fingers : Fingers} (packet : List UInt8)
    (inertial : Inertial fingers) : Inertial (parseSensorPacket fingers packet).1 :=
  parseSensorPacket_keeps (P := FingerData.Inertial)
    (fun _ sensorType data => parseField_inertial sensorType data) packet inertial

structure SensorData where
  fingers : Fingers
  measured : Measured fingers
  inertial : Inertial fingers

namespace SensorData

def init : SensorData := ⟨.init, measured_init, inertial_init⟩

def parseSensorPacket (sensorData : SensorData) (packet : List UInt8) : SensorData × List Bool :=
  (⟨(Quickstart.parseSensorPacket sensorData.fingers packet).1,
    parseSensorPacket_measured packet sensorData.measured,
    parseSensorPacket_inertial packet sensorData.inertial⟩,
    (Quickstart.parseSensorPacket sensorData.fingers packet).2)

/-- `f.new_data_available = False`, for each finger. -/
def clearNew (sensorData : SensorData) : SensorData where
  fingers := sensorData.fingers.map fun finger => { finger with newDataAvailable := false }
  measured := fun f value hvalue => sensorData.measured f value (by simpa [Vector.get] using hvalue)
  inertial := fun f => by simpa [Vector.get, FingerData.Inertial] using sensorData.inertial f

def taxel (sensorData : SensorData) (f : Fin numFingers) (taxelIdx : Fin staticTactileSize) : Int :=
  (sensorData.fingers.get f).staticTactile.getD taxelIdx 0

theorem taxel_nonneg (sensorData : SensorData) (f : Fin numFingers) (taxelIdx : Fin staticTactileSize) :
    0 ≤ sensorData.taxel f taxelIdx := by
  rw [taxel, List.getD_eq_getElem?_getD]
  cases value : (sensorData.fingers.get f).staticTactile[taxelIdx.val]? with
  | none => exact Int.le_refl 0
  | some value' => exact sensorData.measured f value' (List.mem_of_getElem? value)

end SensorData

abbrev Taxels := Fin numFingers → Fin staticTactileSize → Int

structure SensorMonitor where
  parser : UsbPacketParser
  sensorData : SensorData
  connectedFingers : Fin numFingers → Bool
  -- the port is open and the monitor runs
  running : Bool
  baseline : Taxels

/-! ## `reset_baseline` -/

/-- One turn of the collecting loop: its 30 seconds are over, nothing is waiting, or `data` is. -/
inductive Turn
  | expired
  | idle
  | read (data : List UInt8)

structure Collecting where
  parser : UsbPacketParser
  sensorData : SensorData
  accumulators : Taxels
  samplesCollected : Nat

def complete (connectedFingers : Fin numFingers → Bool) (newDataAvailable : List Bool) : Bool :=
  decide (∀ f, connectedFingers f → newDataAvailable.getD f false)

def SensorData.next (connectedFingers : Fin numFingers → Bool) (sensorData : SensorData)
    (packet : List UInt8) : SensorData × Bool :=
  let parsed := sensorData.parseSensorPacket packet
  if complete connectedFingers parsed.2 then (parsed.1.clearNew, true) else (parsed.1, false)

/-- An index error where a connected finger has less than 28 taxels. -/
def accumulate (connectedFingers : Fin numFingers → Bool) (accumulators : Taxels)
    (sensorData : SensorData) : Option Taxels :=
  if ∀ f, connectedFingers f → staticTactileSize ≤ (sensorData.fingers.get f).staticTactile.length then
    some fun f taxelIdx =>
      if connectedFingers f then accumulators f taxelIdx + sensorData.taxel f taxelIdx
      else accumulators f taxelIdx
  else none

namespace Collecting

def packet (connectedFingers : Fin numFingers → Bool) (s : Collecting) (packet : List UInt8) :
    Option Collecting :=
  let next := s.sensorData.next connectedFingers packet
  if next.2 then
    (accumulate connectedFingers s.accumulators next.1).map fun accumulators =>
      { s with sensorData := next.1, accumulators, samplesCollected := s.samplesCollected + 1 }
  else some { s with sensorData := next.1 }

def read (connectedFingers : Fin numFingers → Bool) (s : Collecting) (data : List UInt8) :
    Option Collecting :=
  let fed := s.parser.feedBytes data
  run (packet connectedFingers) { s with parser := fed.2 } fed.1

end Collecting

inductive Collected
  | enough (s : Collecting)
  | expired (s : Collecting)
  | raised
  | waiting

def collect (connectedFingers : Fin numFingers → Bool) (numSamples : Int) (s : Collecting) :
    List Turn → Collected
  | [] => if numSamples ≤ s.samplesCollected then .enough s else .waiting
  | turn :: turns =>
      if numSamples ≤ s.samplesCollected then .enough s
      else match turn with
        | .expired => .expired s
        | .idle => collect connectedFingers numSamples s turns
        | .read data =>
            match s.read connectedFingers data with
            | some s => collect connectedFingers numSamples s turns
            | none => .raised

inductive Outcome
  | returned (done : Bool) (monitor : SensorMonitor)
  | raised
  | waiting

def SensorMonitor.collected (monitor : SensorMonitor) (s : Collecting) : SensorMonitor :=
  { monitor with parser := s.parser, sensorData := s.sensorData }

def resetBaseline (numSamples : Int) (monitor : SensorMonitor) (turns : List Turn) : Outcome :=
  if !monitor.running then .returned false monitor
  else
    match collect monitor.connectedFingers numSamples
        ⟨monitor.parser, monitor.sensorData, fun _ _ => 0, 0⟩ turns with
    | .enough s =>
        -- a division by zero
        if numSamples = 0 ∧ ∃ f, monitor.connectedFingers f then .raised
        else .returned true { monitor.collected s with
          baseline := fun f taxelIdx =>
            if monitor.connectedFingers f then (s.accumulators f taxelIdx).fdiv numSamples
            else monitor.baseline f taxelIdx }
    | .expired s => .returned false (monitor.collected s)
    | .raised => .raised
    | .waiting => .waiting

/-! ## What a call accumulates -/

def SensorData.samples (connectedFingers : Fin numFingers → Bool) (sensorData : SensorData) :
    List (List UInt8) → List SensorData × SensorData
  | [] => ([], sensorData)
  | packet :: packets =>
      let next := sensorData.next connectedFingers packet
      let rest := next.1.samples connectedFingers packets
      ((if next.2 then [next.1] else []) ++ rest.1, rest.2)

def batches (connectedFingers : Fin numFingers → Bool) (parser : UsbPacketParser)
    (sensorData : SensorData) : List Turn → List (List SensorData)
  | [] => []
  | .read data :: turns =>
      let fed := parser.feedBytes data
      let read := sensorData.samples connectedFingers fed.1
      read.1 :: batches connectedFingers fed.2 read.2 turns
  | .expired :: turns | .idle :: turns => batches connectedFingers parser sensorData turns

def untilEnough {α : Type*} (numSamples : Int) : List (List α) → List α
  | [] => []
  | batch :: batches =>
      if numSamples ≤ batch.length then batch
      else batch ++ untilEnough (numSamples - batch.length) batches

/-- The samples of the reads that it takes to get `numSamples`. -/
def SensorMonitor.samplesTaken (monitor : SensorMonitor) (numSamples : Int) (turns : List Turn) :
    List SensorData :=
  untilEnough numSamples (batches monitor.connectedFingers monitor.parser monitor.sensorData turns)

variable {connectedFingers : Fin numFingers → Bool} {s mid s' : Collecting}

structure Adds (connectedFingers : Fin numFingers → Bool) (samples : List SensorData)
    (s s' : Collecting) : Prop where
  collected : s'.samplesCollected = s.samplesCollected + samples.length
  totals : ∀ f, connectedFingers f → ∀ taxelIdx, s'.accumulators f taxelIdx =
    s.accumulators f taxelIdx + (samples.map (·.taxel f taxelIdx)).sum

theorem Adds.nothing (collected : s'.samplesCollected = s.samplesCollected)
    (totals : s'.accumulators = s.accumulators) : Adds connectedFingers [] s s' :=
  ⟨collected, fun f _ taxelIdx => by simp [totals]⟩

theorem Adds.append {first rest : List SensorData} (h₁ : Adds connectedFingers first s mid)
    (h₂ : Adds connectedFingers rest mid s') : Adds connectedFingers (first ++ rest) s s' := by
  constructor
  · rw [h₂.collected, h₁.collected, List.length_append, Nat.add_assoc]
  · intro f connected taxelIdx
    rw [h₂.totals f connected, h₁.totals f connected, List.map_append, List.sum_append, Int.add_assoc]

theorem accumulate_adds {sensorData : SensorData} {accumulators : Taxels} {samplesCollected : Nat}
    {parser : UsbPacketParser}
    (h : accumulate connectedFingers s.accumulators sensorData = some accumulators)
    (collected : samplesCollected = s.samplesCollected + 1) :
    Adds connectedFingers [sensorData] s ⟨parser, sensorData, accumulators, samplesCollected⟩ := by
  obtain ⟨-, same⟩ := Option.ite_none_right_eq_some.mp h
  refine ⟨collected, fun f connected taxelIdx => ?_⟩
  simp [← Option.some.inj same, connected]

theorem packet_adds {packet : List UInt8} (h : s.packet connectedFingers packet = some s') :
    s'.parser = s.parser ∧ s'.sensorData = (s.sensorData.next connectedFingers packet).1 ∧
      Adds connectedFingers (if (s.sensorData.next connectedFingers packet).2
        then [(s.sensorData.next connectedFingers packet).1] else []) s s' := by
  simp only [Collecting.packet] at h
  split at h
  · rename_i sample
    obtain ⟨accumulators, added, rfl⟩ := Option.map_eq_some_iff.mp h
    rw [if_pos sample]
    exact ⟨rfl, rfl, accumulate_adds added rfl⟩
  · rename_i other
    cases h
    rw [if_neg other]
    exact ⟨rfl, rfl, .nothing rfl rfl⟩

theorem packets_add {packets : List (List UInt8)}
    (h : run (Collecting.packet connectedFingers) s packets = some s') :
    s'.parser = s.parser ∧ s'.sensorData = (s.sensorData.samples connectedFingers packets).2 ∧
      Adds connectedFingers (s.sensorData.samples connectedFingers packets).1 s s' := by
  induction packets generalizing s with
  | nil =>
      cases h
      exact ⟨rfl, rfl, .nothing rfl rfl⟩
  | cons packet packets ih =>
      obtain ⟨mid, hfirst, hrest⟩ := run_cons_eq_some.mp h
      obtain ⟨parser, sensorData, first⟩ := packet_adds hfirst
      obtain ⟨parser', sensorData', rest⟩ := ih hrest
      rw [sensorData] at sensorData' rest
      exact ⟨parser'.trans parser, sensorData', first.append rest⟩

theorem read_adds {data : List UInt8} (h : s.read connectedFingers data = some s') :
    s'.parser = (s.parser.feedBytes data).2 ∧
      s'.sensorData = (s.sensorData.samples connectedFingers (s.parser.feedBytes data).1).2 ∧
      Adds connectedFingers (s.sensorData.samples connectedFingers (s.parser.feedBytes data).1).1 s s' := by
  obtain ⟨parser, sensorData, adds⟩ := packets_add h
  exact ⟨parser, sensorData, adds.collected, adds.totals⟩

theorem collect_of_le {numSamples : Int} (enough : numSamples ≤ s.samplesCollected) (turns : List Turn) :
    collect connectedFingers numSamples s turns = .enough s := by
  cases turns <;> exact if_pos enough

theorem collect_adds {numSamples : Int} {turns : List Turn} (few : s.samplesCollected < numSamples)
    (h : collect connectedFingers numSamples s turns = .enough s') :
    numSamples ≤ s'.samplesCollected ∧
      Adds connectedFingers (untilEnough (numSamples - s.samplesCollected)
        (batches connectedFingers s.parser s.sensorData turns)) s s' := by
  induction turns generalizing s with
  | nil =>
      rw [collect, if_neg (Int.not_le.mpr few)] at h
      cases h
  | cons turn turns ih =>
      simp only [collect, if_neg (Int.not_le.mpr few)] at h
      cases turn with
      | expired => cases h
      | idle => exact ih few h
      | read data =>
          simp only at h
          split at h
          · rename_i mid taken
            obtain ⟨parser, sensorData, first⟩ := read_adds taken
            have length := first.collected
            rw [batches, untilEnough]
            by_cases enough : numSamples ≤ mid.samplesCollected
            · rw [collect_of_le enough] at h
              cases h
              rw [if_pos (by omega)]
              exact ⟨enough, first⟩
            · obtain ⟨reached, rest⟩ := ih (Int.not_le.mp enough) h
              rw [if_neg (by omega)]
              rw [parser, sensorData] at rest
              refine ⟨reached, ?_⟩
              have left : numSamples - mid.samplesCollected = numSamples - s.samplesCollected -
                  (s.sensorData.samples connectedFingers (s.parser.feedBytes data).1).1.length := by
                omega
              rw [left] at rest
              exact first.append rest
          · cases h

/-! ## What is stored -/

def SensorMonitor.values (monitor : SensorMonitor) (numSamples : Int) (turns : List Turn)
    (f : Fin numFingers) (taxelIdx : Fin staticTactileSize) : List Int :=
  (monitor.samplesTaken numSamples turns).map (·.taxel f taxelIdx)

theorem values_nonneg (monitor : SensorMonitor) (numSamples : Int) (turns : List Turn)
    (f : Fin numFingers) (taxelIdx : Fin staticTactileSize) :
    0 ≤ (monitor.values numSamples turns f taxelIdx).sum := by
  refine List.sum_nonneg fun value hvalue => ?_
  obtain ⟨sample, -, rfl⟩ := List.mem_map.mp hvalue
  exact sample.taxel_nonneg f taxelIdx

theorem resetBaseline_eq {numSamples : Int} (positive : 0 < numSamples) {monitor monitor' : SensorMonitor}
    {turns : List Turn} (done : resetBaseline numSamples monitor turns = .returned true monitor')
    {f : Fin numFingers} (connected : monitor.connectedFingers f) (taxelIdx : Fin staticTactileSize) :
    numSamples ≤ (monitor.values numSamples turns f taxelIdx).length ∧
      monitor'.baseline f taxelIdx = (monitor.values numSamples turns f taxelIdx).sum / numSamples := by
  rw [resetBaseline] at done
  split at done
  · cases done
  · split at done
    · rename_i s collected
      rw [if_neg fun zero => positive.ne' zero.1] at done
      cases done
      obtain ⟨enough, adds⟩ := collect_adds positive collected
      have total := adds.totals f connected taxelIdx
      have length := adds.collected
      rw [Nat.cast_zero, Int.sub_zero] at total length
      rw [Int.zero_add] at total
      rw [Nat.zero_add] at length
      constructor
      · rw [SensorMonitor.values, List.length_map]
        exact length ▸ enough
      · simp only [connected, if_true]
        rw [total, Int.fdiv_eq_ediv_of_nonneg _ positive.le]
        rfl
    · cases done
    · cases done
    · cases done

def SensorMonitor.samplesPast (monitor : SensorMonitor) (numSamples : Int) (turns : List Turn) :
    List SensorData :=
  (monitor.samplesTaken numSamples turns).drop numSamples.toNat

/-- A call that returns True has divided what came past the number asked for with the rest. Where nothing came
past it, the baseline is the mean, and with it between the least and the greatest value; where something did, it
can be the mean only of totals that are less than the square of that number. -/
theorem resetBaseline_mean {numSamples : Int} (positive : 0 < numSamples)
    {monitor monitor' : SensorMonitor} {turns : List Turn}
    (done : resetBaseline numSamples monitor turns = .returned true monitor') :
    (monitor.samplesPast numSamples turns = [] → ∀ f, monitor.connectedFingers f → ∀ taxelIdx,
      IsMean (monitor.values numSamples turns f taxelIdx) (monitor'.baseline f taxelIdx) ∧
        (∃ v ∈ monitor.values numSamples turns f taxelIdx, v ≤ monitor'.baseline f taxelIdx) ∧
        ∃ v ∈ monitor.values numSamples turns f taxelIdx, monitor'.baseline f taxelIdx ≤ v) ∧
    ∀ f, monitor.connectedFingers f → ∀ taxelIdx,
      monitor'.baseline f taxelIdx =
          (((monitor.values numSamples turns f taxelIdx).take numSamples.toNat).sum +
            ((monitor.samplesPast numSamples turns).map (·.taxel f taxelIdx)).sum) / numSamples ∧
        (monitor.samplesPast numSamples turns ≠ [] →
          IsMean (monitor.values numSamples turns f taxelIdx) (monitor'.baseline f taxelIdx) →
          (monitor.values numSamples turns f taxelIdx).sum < numSamples * numSamples) := by
  constructor
  · intro nonePast f connected taxelIdx
    obtain ⟨enough, stored⟩ := resetBaseline_eq positive done connected taxelIdx
    have most := List.drop_eq_nil_iff.mp nonePast
    have length : (monitor.values numSamples turns f taxelIdx).length =
        (monitor.samplesTaken numSamples turns).length := List.length_map _
    have exactly : ((monitor.values numSamples turns f taxelIdx).length : Int) = numSamples := by omega
    have some : monitor.values numSamples turns f taxelIdx ≠ [] := by
      intro none
      rw [none] at enough
      exact absurd positive (Int.not_lt.mpr enough)
    have isMean : IsMean (monitor.values numSamples turns f taxelIdx) (monitor'.baseline f taxelIdx) := by
      rw [isMean_iff, exactly]
      exact stored
    exact ⟨isMean, isMean.exists_le some, isMean.exists_ge some⟩
  · intro f connected taxelIdx
    obtain ⟨enough, stored⟩ := resetBaseline_eq positive done connected taxelIdx
    constructor
    · rw [stored, SensorMonitor.samplesPast, List.map_drop, ← SensorMonitor.values, List.sum_take_add_sum_drop]
    · intro past isMean
      have many : numSamples.toNat < (monitor.values numSamples turns f taxelIdx).length := by
        rw [SensorMonitor.values, List.length_map]
        exact Nat.lt_of_not_le fun few => past (List.drop_eq_nil_iff.mpr few)
      have nonneg := values_nonneg monitor numSamples turns f taxelIdx
      rw [isMean_iff, stored, ediv_eq_ediv_iff nonneg positive enough] at isMean
      have rest := Int.emod_lt_of_pos (monitor.values numSamples turns f taxelIdx).sum positive
      have quotient : 0 ≤ (monitor.values numSamples turns f taxelIdx).sum / numSamples :=
        Int.ediv_nonneg nonneg positive.le
      have more : (1 : Int) ≤ (monitor.values numSamples turns f taxelIdx).length - numSamples := by omega
      have small : (monitor.values numSamples turns f taxelIdx).sum / numSamples < numSamples := by
        calc (monitor.values numSamples turns f taxelIdx).sum / numSamples
            ≤ ((monitor.values numSamples turns f taxelIdx).length - numSamples) *
              ((monitor.values numSamples turns f taxelIdx).sum / numSamples) :=
                le_mul_of_one_le_left quotient more
          _ ≤ (monitor.values numSamples turns f taxelIdx).sum % numSamples := isMean
          _ < numSamples := rest
      exact (Int.ediv_lt_iff_lt_mul positive).mp small

def staticPacket (value : UInt8) : List UInt8 :=
  [usbPacketStartByte, 0, 0x61, 57, 0x10] ++ (List.replicate staticTactileSize [0, value]).flatten

def firstTaxel : Fin staticTactileSize := ⟨0, by decide⟩

def firstFingerMonitor : SensorMonitor where
  parser := .init
  sensorData := .init
  connectedFingers := fun f => f.val = 0
  running := true
  baseline := fun _ _ => 0

def Outcome.succeeded : Outcome → Option SensorMonitor
  | .returned true monitor => some monitor
  | _ => none

theorem Outcome.eq_returned {outcome : Outcome} {monitor : SensorMonitor}
    (h : outcome.succeeded = some monitor) : outcome = .returned true monitor := by
  cases outcome with
  | returned done monitor =>
      cases done with
      | false => cases h
      | true => cases h; rfl
  | raised | waiting => cases h

theorem resetBaseline_mean_of_two :
    ∃ monitor', resetBaseline 2 firstFingerMonitor [.idle, .read (staticPacket 10 ++ staticPacket 21)] =
        .returned true monitor' ∧
      IsMean (firstFingerMonitor.values 2 [.idle, .read (staticPacket 10 ++ staticPacket 21)] 0 firstTaxel)
        (monitor'.baseline 0 firstTaxel) := by
  have ends : ((resetBaseline 2 firstFingerMonitor
      [.idle, .read (staticPacket 10 ++ staticPacket 21)]).succeeded).isSome := by decide +kernel
  obtain ⟨monitor', succeeded⟩ := Option.isSome_iff_exists.mp ends
  have done := Outcome.eq_returned succeeded
  have nonePast : firstFingerMonitor.samplesPast 2 [.idle, .read (staticPacket 10 ++ staticPacket 21)] = [] :=
    List.isEmpty_iff.mp (by decide +kernel)
  exact ⟨monitor', done, ((resetBaseline_mean (by decide) done).1 nonePast 0 rfl firstTaxel).1⟩

/-- One sample is asked for and a single read brings two: the baseline is their sum. -/
theorem resetBaseline_overshoots :
    ∃ monitor', resetBaseline 1 firstFingerMonitor [.read (staticPacket 10 ++ staticPacket 20)] =
        .returned true monitor' ∧
      monitor'.baseline 0 firstTaxel = 30 ∧
      firstFingerMonitor.values 1 [.read (staticPacket 10 ++ staticPacket 20)] 0 firstTaxel = [10, 20] ∧
      ¬ IsMean (firstFingerMonitor.values 1 [.read (staticPacket 10 ++ staticPacket 20)] 0 firstTaxel)
        (monitor'.baseline 0 firstTaxel) := by
  have stored : (resetBaseline 1 firstFingerMonitor
      [.read (staticPacket 10 ++ staticPacket 20)]).succeeded.map
        (fun monitor => monitor.baseline 0 firstTaxel) = some 30 := by decide +kernel
  obtain ⟨monitor', succeeded, thirty⟩ := Option.map_eq_some_iff.mp stored
  have values : firstFingerMonitor.values 1 [.read (staticPacket 10 ++ staticPacket 20)] 0 firstTaxel =
      [10, 20] := by decide +kernel
  refine ⟨monitor', Outcome.eq_returned succeeded, thirty, values, ?_⟩
  rw [values, thirty, isMean_iff]
  decide

end TactileSensors.Usb.Quickstart
