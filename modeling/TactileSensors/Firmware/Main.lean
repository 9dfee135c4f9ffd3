import TactileSensors.Firmware.Cyacd
import TactileSensors.Firmware.Flash

/-!
# The firmware updater

`main` reboots a device into its bootloader, waits for that to appear, and updates it from a firmware
file, telling what it does on the standard error stream.
-/

namespace TactileSensors.Firmware

def bootloaderVid : Nat := 0x04B4
def bootloaderPid : Nat := 0xB71D
def masterHubAppVidOld : Nat := 0x04B4
def masterHubAppPidOld : Nat := 0xF232
def masterHubAppVid : Nat := 0x16D0
def masterHubAppPid : Nat := 0x14CC

def enterBootloaderCommand : UInt8 := 0x38
def exitBootloaderCommand : UInt8 := 0x3b

/-! ## Entering and leaving the bootloader -/

structure Identity where
  jtagId : Nat
  deviceRevision : UInt8
deriving DecidableEq, Repr

def identityOf (data : List UInt8) : Except ResponseError Identity := do
  let id₀ ← byteAt data 0
  let id₁ ← byteAt data 1
  let id₂ ← byteAt data 2
  let id₃ ← byteAt data 3
  let jtagId := id₀.toNat ||| id₁.toNat <<< 8 ||| id₂.toNat <<< 16 ||| id₃.toNat <<< 24
  let deviceRevision ← byteAt data 4
  return ⟨jtagId, deviceRevision⟩

section
variable (replies : Nat → List UInt8)

/-- The identity that is stored where `enter_bootloader` returns `True`. -/
def enterBootloader (session : Session) : Session × Except BootloaderError (Option Identity) :=
  match sendCommand replies session enterBootloaderCommand [] with
  | (session, .error failure) => (session, .error failure)
  | (session, .ok response) =>
      if response.good then (session, ((identityOf response.data).map some).mapError .response)
      else (session, .ok none)

def exitBootloader (session : Session) : Session :=
  { session with sent := session.sent ++ [reportOf ⟨exitBootloaderCommand, []⟩] }

end

/-! ## What `main` is run on -/

structure Port where
  device : String
  vid : Option Nat
  pid : Option Nat
  /-- The text of what opening it raises. -/
  failure : Option String

structure Surroundings where
  latest : Bool
  firmware : Option String
  binDir : String
  latestFirmware : Option String
  /-- The serial ports, as they are listed the first and the second time. -/
  comports : Bool → List Port
  /-- The vendor and product ids of the HID devices at each attempt. -/
  enumerate : Nat → List (Nat × Nat)
  hidFailure : Option String
  /-- What is in a file, if it can be read. -/
  files : String → Option (List Char)
  /-- What the device answers to its k-th report. -/
  replies : Nat → List UInt8

inductive Message
  | noFirmwareFiles (dir : String)
  | firmware (name : String)
  | portFailed (port failure : String)
  | rebooting (port : String)
  | lookingDirectly
  | waiting (attempt : Nat)
  | hidFailed (failure : String)
  | hidHint
  | noCommunication
  | programming
  | programmingFailed
  | programmed
  | notFound
deriving DecidableEq, Repr

def Message.text : Message → String
  | noFirmwareFiles dir => s!"Error: No firmware files found in {dir}\n"
  | firmware name => s!"Firmware: {name}\n"
  | portFailed port failure => s!"Error while opening port {port}: {failure}\n"
  | rebooting port => s!"Device found on {port}. Rebooting into bootloader...\n"
  | lookingDirectly => "No device in application mode found. Looking for bootloader directly...\n"
  | waiting attempt => s!"Waiting for bootloader device to appear (attempt {attempt}/5)...\n"
  | hidFailed failure => s!"Error: {failure}\n"
  | hidHint => "Make sure you have permissions to access the HID device (try running with sudo or adding a udev rule).\n"
  | noCommunication => "Enable to communicate with bootloader!\n"
  | programming => "Programming firmware application...\n"
  | programmingFailed => "Error while programming!\n"
  | programmed => "Device programmed successfully!\n"
  | notFound => "Bootloader not found!\n"

inductive Ending
  | returned
  | exited (code : Nat)
  | bootloader (failure : BootloaderError)
  | file
  | cyacd (failure : CyacdError)
deriving DecidableEq, Repr

structure Outcome where
  messages : List Message
  serial : List UInt8
  session : Session
  ending : Ending
deriving DecidableEq

def Outcome.after (outcome : Outcome) (messages : List Message) (serial : List UInt8) : Outcome :=
  { outcome with messages := messages ++ outcome.messages, serial := serial }

/-! ## `main` -/

def basename (path : String) : String := (path.splitOn "/").getLastD ""

def defaultFirmwareFile (binDir : String) : String := binDir ++ "/Master_hub_1.1.8.cyacd"

def firmwareFile (w : Surroundings) : Option String :=
  if w.latest then w.latestFirmware
  else match w.firmware with
    | some file => if file.isEmpty then some (defaultFirmwareFile w.binDir) else some file
    | none => some (defaultFirmwareFile w.binDir)

def openSerialByVidPid (ports : List Port) (vid pid : Nat) : List Message × Option String :=
  match ports.find? fun port => port.vid = some vid ∧ port.pid = some pid with
  | none => ([], none)
  | some port =>
      match port.failure with
      | none => ([], some port.device)
      | some failure => ([.portFailed port.device failure], none)

def reboot (w : Surroundings) : List Message × List UInt8 :=
  let new := openSerialByVidPid (w.comports false) masterHubAppVid masterHubAppPid
  let found := match new with
    | (messages, some device) => (messages, some device)
    | (messages, none) =>
        let old := openSerialByVidPid (w.comports true) masterHubAppVidOld masterHubAppPidOld
        (messages ++ old.1, old.2)
  match found with
  | (messages, some device) => (messages ++ [.rebooting device], [0x9A, 0x00, 0xE2, 0x00])
  | (messages, none) => (messages ++ [.lookingDirectly], [])

/-- The attempts that are left, and whether one of them found the bootloader. -/
def await (w : Surroundings) : Nat → Nat → List Message × Bool
  | 0, _ => ([], false)
  | left + 1, attempt =>
      if (bootloaderVid, bootloaderPid) ∈ w.enumerate attempt then ([], true)
      else
        let later := await w left (attempt + 1)
        (.waiting (attempt + 1) :: later.1, later.2)

def finish (messages : List Message) (session : Session) : Outcome :=
  ⟨messages ++ [.programmed], [], exitBootloader session, .returned⟩

/-- From the chip check on. -/
def update (w : Surroundings) (session : Session) (identity : Identity) (firmware : Cyacd) : Outcome :=
  if identity.jtagId = firmware.siliconId ∧ identity.deviceRevision = firmware.siliconRevision then
    match flash w.replies session firmware.firmware with
    | (session, .error failure) => ⟨[.programming], [], session, .bootloader failure⟩
    | (session, .ok false) => ⟨[.programming, .programmingFailed], [], session, .returned⟩
    | (session, .ok true) => finish [.programming] session
  else finish [] session

def program (w : Surroundings) (filename : String) : Outcome :=
  match w.hidFailure with
  | some failure => ⟨[.hidFailed failure, .hidHint], [], .start, .exited 1⟩
  | none =>
      match enterBootloader w.replies .start with
      | (session, .error failure) => ⟨[], [], session, .bootloader failure⟩
      | (session, .ok none) => ⟨[.noCommunication], [], session, .exited 1⟩
      | (session, .ok (some identity)) =>
          match w.files filename with
          | none => ⟨[], [], session, .file⟩
          | some content =>
              match Cyacd.parse content with
              | .error failure => ⟨[], [], session, .cyacd failure⟩
              | .ok firmware => update w session identity firmware

def main (w : Surroundings) : Outcome :=
  match firmwareFile w with
  | none => ⟨[.noFirmwareFiles w.binDir], [], .start, .exited 1⟩
  | some filename =>
      let rebooted := reboot w
      let found := await w 5 0
      let messages := .firmware (basename filename) :: rebooted.1 ++ found.1
      if found.2 then (program w filename).after messages rebooted.2
      else (⟨[.notFound], [], .start, .returned⟩ : Outcome).after messages rebooted.2

/-! ## How far a run comes -/

def IdentifiedAs (reply : List UInt8) (identity : Identity) : Prop :=
  ∃ response, parseResponse reply = .ok response ∧ response.good ∧ identityOf response.data = .ok identity

def Reaches (w : Surroundings) (identity : Identity) (firmware : Cyacd) : Prop :=
  ∃ filename content, firmwareFile w = some filename ∧ (await w 5 0).2 ∧ w.hidFailure = none ∧
    IdentifiedAs (w.replies 0) identity ∧ w.files filename = some content ∧
    Cyacd.parse content = .ok firmware

def SameChip (identity : Identity) (firmware : Cyacd) : Prop :=
  identity.jtagId = firmware.siliconId ∧ identity.deviceRevision = firmware.siliconRevision

def enterReport : List UInt8 := reportOf ⟨enterBootloaderCommand, []⟩
def exitReport : List UInt8 := reportOf ⟨exitBootloaderCommand, []⟩

def entered (w : Surroundings) : Session := Session.start.write enterReport (w.replies 0)

theorem enterBootloader_eq (w : Surroundings) :
    enterBootloader w.replies .start =
      (entered w, match parseResponse (w.replies 0) with
        | .error failure => .error (.response failure)
        | .ok response =>
            if response.good then ((identityOf response.data).map some).mapError .response
            else .ok none) := by
  have fits : makePacket enterBootloaderCommand [] = .ok enterReport := rfl
  rw [enterBootloader, sendCommand, fits]
  simp only [entered, Session.start, List.length_nil]
  cases parseResponse (w.replies 0) with
  | error failure => rfl
  | ok response => cases good : response.good <;> simp [Except.mapError, good]

theorem enterBootloader_some {w : Surroundings} {identity : Identity} :
    (enterBootloader w.replies .start).2 = .ok (some identity) ↔
      IdentifiedAs (w.replies 0) identity := by
  rw [enterBootloader_eq, IdentifiedAs]
  cases parseResponse (w.replies 0) with
  | error failure => simp
  | ok response =>
      cases good : response.good with
      | false => simp [good]
      | true =>
          cases read : identityOf response.data <;> simp [good, read, Except.map, Except.mapError]

theorem identifiedAs_unique {reply : List UInt8} {identity other : Identity}
    (h : IdentifiedAs reply identity) (h' : IdentifiedAs reply other) : identity = other := by
  obtain ⟨response, parsed, -, read⟩ := h
  obtain ⟨response', parsed', -, read'⟩ := h'
  rw [parsed] at parsed'
  cases parsed'
  rw [read] at read'
  exact Except.ok.inj read'

theorem program_cases (w : Surroundings) (filename : String) :
    .programmed ∉ (program w filename).messages ∨
      ∃ identity content firmware, w.hidFailure = none ∧ IdentifiedAs (w.replies 0) identity ∧
        w.files filename = some content ∧ Cyacd.parse content = .ok firmware := by
  rw [program]
  cases opened : w.hidFailure with
  | some failure => exact .inl (by simp)
  | none =>
      have session : (enterBootloader w.replies .start).1 = entered w := by rw [enterBootloader_eq]
      obtain ⟨answer, hanswer⟩ : ∃ answer, enterBootloader w.replies .start = (entered w, answer) :=
        ⟨_, Prod.ext session rfl⟩
      simp only [hanswer]
      match answer with
      | .error failure => exact .inl (by simp)
      | .ok none => exact .inl (by simp)
      | .ok (some identity) =>
          have identified := enterBootloader_some.mp (congrArg Prod.snd hanswer)
          cases read : w.files filename with
          | none => exact .inl (by simp)
          | some content =>
              cases parsed : Cyacd.parse content with
              | error failure => exact .inl (by simp [parsed])
              | ok firmware =>
                  exact .inr ⟨identity, content, firmware, trivial, identified, rfl, parsed⟩

theorem programmed_not_mem_await (w : Surroundings) (left attempt : Nat) :
    Message.programmed ∉ (await w left attempt).1 := by
  induction left generalizing attempt with
  | zero => simp [await]
  | succ left ih =>
      rw [await]
      split
      · simp
      · simp [ih]

theorem programmed_not_mem_open (ports : List Port) (vid pid : Nat) :
    Message.programmed ∉ (openSerialByVidPid ports vid pid).1 := by
  rw [openSerialByVidPid]
  split
  · simp
  · split <;> simp

theorem programmed_not_mem_reboot (w : Surroundings) : Message.programmed ∉ (reboot w).1 := by
  have new := programmed_not_mem_open (w.comports false) masterHubAppVid masterHubAppPid
  have old := programmed_not_mem_open (w.comports true) masterHubAppVidOld masterHubAppPidOld
  rw [reboot]
  generalize openSerialByVidPid (w.comports false) masterHubAppVid masterHubAppPid = first at new
  generalize openSerialByVidPid (w.comports true) masterHubAppVidOld masterHubAppPidOld = second at old
  obtain ⟨messages, _ | device⟩ := first
  · obtain ⟨messages', _ | device⟩ := second <;> simpa using ⟨new, old⟩
  · simpa using new

theorem program_eq {w : Surroundings} {filename : String} {identity : Identity} {content : List Char}
    {firmware : Cyacd} (opened : w.hidFailure = none) (identified : IdentifiedAs (w.replies 0) identity)
    (read : w.files filename = some content) (parsed : Cyacd.parse content = .ok firmware) :
    program w filename = update w (entered w) identity firmware := by
  have session : (enterBootloader w.replies .start).1 = entered w := by rw [enterBootloader_eq]
  have answer := enterBootloader_some.mpr identified
  have both : enterBootloader w.replies .start = (entered w, .ok (some identity)) :=
    Prod.ext session answer
  rw [program, opened]
  simp only [both, read, parsed]

theorem quiet_start (w : Surroundings) (filename : String) :
    Message.programmed ∉ .firmware (basename filename) :: (reboot w).1 ++ (await w 5 0).1 := by
  simpa using ⟨programmed_not_mem_reboot w, programmed_not_mem_await w 5 0⟩

theorem main_of_reaches {w : Surroundings} {identity : Identity} {firmware : Cyacd}
    (reaches : Reaches w identity firmware) :
    (main w).session = (update w (entered w) identity firmware).session ∧
      (.programmed ∈ (main w).messages ↔
        .programmed ∈ (update w (entered w) identity firmware).messages) := by
  obtain ⟨filename, content, chosen, found, opened, identified, read, parsed⟩ := reaches
  have quiet := quiet_start w filename
  rw [main, chosen]
  simp only [found, if_true, program_eq opened identified read parsed]
  exact ⟨rfl, by rw [Outcome.after, List.mem_append, or_iff_right quiet]⟩

theorem reaches_of_programmed {w : Surroundings} (programmed : .programmed ∈ (main w).messages) :
    ∃ identity firmware, Reaches w identity firmware := by
  rw [main] at programmed
  cases chosen : firmwareFile w with
  | none => simp [chosen] at programmed
  | some filename =>
      have quiet := quiet_start w filename
      cases found : (await w 5 0).2 with
      | false =>
          simp only [chosen, found, Bool.false_eq_true, if_false, Outcome.after] at programmed
          have late := (List.mem_append.mp programmed).resolve_left quiet
          simp at late
      | true =>
          simp only [chosen, found, if_true, Outcome.after] at programmed
          have late := (List.mem_append.mp programmed).resolve_left quiet
          rcases program_cases w filename with
            silent | ⟨identity, content, firmware, opened, identified, read, parsed⟩
          · exact absurd late silent
          · exact ⟨identity, firmware, filename, content, chosen, found, opened, identified, read, parsed⟩

theorem update_other {w : Surroundings} {identity : Identity} {firmware : Cyacd}
    (other : ¬ SameChip identity firmware) (session : Session) :
    update w session identity firmware = finish [] session :=
  if_neg other

structure Flashed (w : Surroundings) (firmware : Cyacd) (session : Session) : Prop where
  sent : session.sent =
    [enterReport] ++ (firmware.firmware.flatMap rowCommands).map reportOf ++ [exitReport]
  acknowledged : ∀ i < (firmware.firmware.flatMap rowCommands).length,
    acknowledges (w.replies (1 + i))

theorem update_same {w : Surroundings} {identity : Identity} {firmware : Cyacd}
    (same : SameChip identity firmware)
    (programmed : .programmed ∈ (update w (entered w) identity firmware).messages) :
    Flashed w firmware (update w (entered w) identity firmware).session := by
  have checked : identity.jtagId = firmware.siliconId ∧
      identity.deviceRevision = firmware.siliconRevision := same
  rw [update, if_pos checked] at programmed ⊢
  cases image : firmware.firmware with
  | nil =>
      rw [image] at programmed
      simp [flash, flashFrom] at programmed
  | cons row rows =>
      rw [image] at programmed
      have sent := flash_sent w.replies (entered w) (List.cons_ne_nil row rows)
      revert sent programmed
      generalize flash w.replies (entered w) (row :: rows) = result
      obtain ⟨session, outcome⟩ := result
      rintro programmed
        (⟨acknowledged, -, reports, rfl⟩ | ⟨before, after, c, -, -, refused, -, -, returned⟩)
      · refine ⟨?_, fun i hi => ?_⟩
        · have reports : session.sent = _ := reports
          rw [image]
          change session.sent ++ [exitReport] = _
          rw [reports]
          rfl
        · rw [image] at hi
          exact acknowledged i hi
      · -- a refused command makes `flash` return something else than `True`
        have returned : outcome = verdict _ := returned
        have other : outcome ≠ .ok true :=
          fun good => refused (acknowledges_iff.mpr (returned.symm.trans good))
        match outcome, other with
        | .error failure, _ => simp at programmed
        | .ok false, _ => simp at programmed
        | .ok true, other => exact absurd rfl other

/-! ## The report of success -/

/-- Success is told of only where the device was entered and identified as the file's chip, and every
row of the file was sent and acknowledged. -/
def SuccessSound (w : Surroundings) : Prop :=
  .programmed ∈ (main w).messages → ∃ identity firmware, Reaches w identity firmware ∧
    SameChip identity firmware ∧ Flashed w firmware (main w).session

/-- The bootloader is found, opened and entered and the file is one, but for another chip. -/
def WrongChip (w : Surroundings) : Prop :=
  ∃ identity firmware, Reaches w identity firmware ∧ ¬ SameChip identity firmware

theorem reaches_unique {w : Surroundings} {identity identity' : Identity} {firmware firmware' : Cyacd}
    (h : Reaches w identity firmware) (h' : Reaches w identity' firmware') :
    identity = identity' ∧ firmware = firmware' := by
  obtain ⟨filename, content, chosen, -, -, identified, read, parsed⟩ := h
  obtain ⟨filename', content', chosen', -, -, identified', read', parsed'⟩ := h'
  obtain rfl : filename = filename' := Option.some.inj (chosen.symm.trans chosen')
  obtain rfl : content = content' := Option.some.inj (read.symm.trans read')
  exact ⟨identifiedAs_unique identified identified', Except.ok.inj (parsed.symm.trans parsed')⟩

theorem success_sound_iff (w : Surroundings) : SuccessSound w ↔ ¬ WrongChip w := by
  constructor
  · rintro sound ⟨identity, firmware, reaches, other⟩
    have told : .programmed ∈ (main w).messages := by
      rw [(main_of_reaches reaches).2, update_other other]
      simp [finish]
    obtain ⟨identity', firmware', reaches', same, -⟩ := sound told
    obtain ⟨rfl, rfl⟩ := reaches_unique reaches reaches'
    exact other same
  · intro right programmed
    obtain ⟨identity, firmware, reaches⟩ := reaches_of_programmed programmed
    have same : SameChip identity firmware := by
      by_contra other
      exact right ⟨identity, firmware, reaches, other⟩
    obtain ⟨session, told⟩ := main_of_reaches reaches
    refine ⟨identity, firmware, reaches, same, ?_⟩
    rw [session]
    exact update_same same (told.mp programmed)

def otherChip : List UInt8 :=
  [0x01, 0x00, 0x08, 0x00, 0x69, 0xA0, 0x15, 0x2E, 0x01, 0x00, 0x00, 0x00, 0xAA, 0xFE, 0x17]

def wrongRevision : Surroundings where
  latest := false
  firmware := none
  binDir := "bin"
  latestFirmware := none
  comports _ := []
  enumerate _ := [(bootloaderVid, bootloaderPid)]
  hidFailure := none
  files _ := some "2E15A0690000\n:010102000141BA\n".toList
  replies _ := otherChip

theorem wrongRevision_reaches :
    Reaches wrongRevision ⟨0x2E15A069, 1⟩ ⟨0x2E15A069, 0, 0, [⟨0x01, 0x0102, [0x41]⟩]⟩ :=
  ⟨_, _, rfl, by decide +kernel, rfl, ⟨_, rfl, by decide +kernel, by decide +kernel⟩, rfl,
    by decide +kernel⟩

/-- Nothing is flashed, and success is told of. -/
theorem success_without_flashing :
    (main wrongRevision).session.sent = [enterReport, exitReport] ∧ ¬ SuccessSound wrongRevision := by
  refine ⟨by decide +kernel, fun sound => ?_⟩
  obtain ⟨identity, firmware, reaches, same, -⟩ := sound (by decide +kernel)
  obtain ⟨rfl, rfl⟩ := reaches_unique wrongRevision_reaches reaches
  exact absurd same.2 (by decide)

end TactileSensors.Firmware
