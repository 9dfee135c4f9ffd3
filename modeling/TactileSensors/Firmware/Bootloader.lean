import Mathlib.Data.List.Basic
import Mathlib.Data.List.TakeDrop

/-!
# The bootloader host

`Bootloader` talks to a device over HID reports: each command is one report, answered by another
that the host parses. The device keeps a row buffer that one command appends to and another programs
a row from.
-/

namespace TactileSensors.Firmware

/-- What `_parse_response` raises: the report ends too early, `STATUSES` lacks its status, or one of
the assertions on its first and last byte fails. -/
inductive ResponseError
  | indexError
  | keyError
  | badStart
  | badEnd
deriving DecidableEq, Repr

/-- What the methods raise instead of returning: the assertion of `_make_packet`, or what comes from
a response. -/
inductive BootloaderError
  | packetTooLong
  | response (error : ResponseError)
deriving DecidableEq, Repr

inductive Status
  | success
  | errLength
  | errData
  | errCmd
  | errChecksum
  | errArray
  | errRow
  | errApp
  | errActive
  | errCallback
  | errUnk
deriving DecidableEq, Repr

def statuses : UInt8 → Option Status
  | 0x00 => some .success
  | 0x03 => some .errLength
  | 0x04 => some .errData
  | 0x05 => some .errCmd
  | 0x08 => some .errChecksum
  | 0x09 => some .errArray
  | 0x0a => some .errRow
  | 0x0c => some .errApp
  | 0x0d => some .errActive
  | 0x0e => some .errCallback
  | 0x0f => some .errUnk
  | _ => none

/-- `MAX_DATA_LENGTH`: what a report leaves for row data. -/
def maxDataLength : Nat := 64 - 7 - 9

def checksum (data : List UInt8) : UInt16 :=
  ~~~(data.foldl (fun sum byte => sum + byte.toUInt16) 0) + 1

def lowByte (n : UInt16) : UInt8 := n.toUInt8
def highByte (n : UInt16) : UInt8 := (n >>> 8).toUInt8

def packetHead (command : UInt8) (data : List UInt8) : List UInt8 :=
  [0x00, 0x01, command, lowByte data.length.toUInt16, highByte data.length.toUInt16] ++ data

def makePacket (command : UInt8) (data : List UInt8) : Except BootloaderError (List UInt8) :=
  if data.length ≤ 64 - 7 then
    let packet := packetHead command data
    .ok (packet ++ [lowByte (checksum packet), highByte (checksum packet), 0x17])
  else .error .packetTooLong

structure Response where
  status : Status
  data : List UInt8
  checksumOk : Bool
deriving DecidableEq, Repr

def byteAt (responseData : List UInt8) (i : Nat) : Except ResponseError UInt8 :=
  match responseData[i]? with
  | some byte => .ok byte
  | none => .error .indexError

def parseResponse (responseData : List UInt8) : Except ResponseError Response := do
  let sop ← byteAt responseData 0
  if sop ≠ 0x01 then throw .badStart
  let code ← byteAt responseData 1
  let some status := statuses code | throw .keyError
  let high ← byteAt responseData 3
  let low ← byteAt responseData 2
  let dataLength := (high.toUInt16 <<< 8 ||| low.toUInt16).toNat
  let data := (responseData.drop 4).take dataLength
  let received ← byteAt responseData (4 + dataLength)
  let receivedHigh ← byteAt responseData (4 + dataLength + 1)
  let checksumReceived := received.toUInt16 ||| receivedHigh.toUInt16 <<< 8
  let checksumCalculated := checksum (responseData.take (4 + dataLength))
  let eop ← byteAt responseData (4 + dataLength + 2)
  if eop ≠ 0x17 then throw .badEnd
  return ⟨status, data, checksumCalculated = checksumReceived⟩

def Response.good (response : Response) : Bool :=
  response.checksumOk && response.status = .success

structure Row where
  arrayId : UInt8
  rowNumber : UInt16
  data : List UInt8
deriving DecidableEq, Repr

def sendDataCommand : UInt8 := 0x37
def programRowCommand : UInt8 := 0x39

structure Command where
  code : UInt8
  data : List UInt8
deriving DecidableEq, Repr

structure Device where
  buffer : List UInt8
  programmed : List Row
deriving DecidableEq, Repr

def Device.act (device : Device) (command : Command) : Device :=
  if command.code = sendDataCommand then { device with buffer := device.buffer ++ command.data }
  else if command.code = programRowCommand then
    match command.data with
    | arrayId :: low :: high :: rest =>
        { buffer := []
          programmed := device.programmed ++
            [⟨arrayId, low.toUInt16 ||| high.toUInt16 <<< 8, device.buffer ++ rest⟩] }
    | _ => device
  else device

def Device.decode (report : List UInt8) : Command :=
  let length := (report.getD 3 0).toUInt16 ||| (report.getD 4 0).toUInt16 <<< 8
  ⟨report.getD 2 0, (report.drop 5).take length.toNat⟩

def Device.content (device : Device) (before : UInt8 → UInt16 → List UInt8) (arrayId : UInt8)
    (rowNumber : UInt16) : List UInt8 :=
  device.programmed.foldl
    (fun content row =>
      if row.arrayId = arrayId ∧ row.rowNumber = rowNumber then row.data else content)
    (before arrayId rowNumber)

/-- The device acknowledges a command by a response the host can read and calls good. -/
def acknowledges (reply : List UInt8) : Bool :=
  match parseResponse reply with
  | .ok response => response.good
  | .error _ => false

structure Session where
  device : Device
  sent : List (List UInt8)
deriving DecidableEq, Repr

def Session.write (session : Session) (report reply : List UInt8) : Session where
  device :=
    if acknowledges reply then session.device.act (Device.decode report) else session.device
  sent := session.sent ++ [report]

section
-- what the device answers to its k-th report: any bytes at all
variable (replies : Nat → List UInt8)

def sendCommand (session : Session) (command : UInt8) (data : List UInt8) :
    Session × Except BootloaderError Response :=
  match makePacket command data with
  | .error failure => (session, .error failure)
  | .ok packet =>
      let reply := replies session.sent.length
      (session.write packet reply, (parseResponse reply).mapError .response)

def programRow (session : Session) (arrayId : UInt8) (rowNumber : UInt16) (data : List UInt8) :
    Session × Except BootloaderError Bool :=
  let arguments := [arrayId, lowByte rowNumber, highByte rowNumber]
  let answer := sendCommand replies session programRowCommand (arguments ++ data)
  (answer.1, answer.2.map Response.good)

def sendData (session : Session) (data : List UInt8) : Session × Except BootloaderError Bool :=
  let answer := sendCommand replies session sendDataCommand data
  (answer.1, answer.2.map Response.good)

def slice (data : List UInt8) (start stop : Nat) : List UInt8 :=
  (data.take stop).drop start

/-- The `for` loop over full packets: `true` when it has sent them all. -/
def sendFullPackets (session : Session) (data : List UInt8) :
    List Nat → Session × Except BootloaderError Bool
  | [] => (session, .ok true)
  | i :: rest =>
      match sendData replies session
          (slice data (maxDataLength * i) (maxDataLength * i + maxDataLength)) with
      | (session, .ok true) => sendFullPackets session data rest
      | stopped => stopped

def flashRow (session : Session) (row : Row) : Session × Except BootloaderError Bool :=
  let data := row.data
  if maxDataLength ≤ data.length then
    let fullPackets := data.length / maxDataLength
    let partialPacketLength := data.length % maxDataLength
    if 0 < partialPacketLength then
      match sendFullPackets replies session data (List.range fullPackets) with
      | (session, .ok true) =>
          programRow replies session row.arrayId row.rowNumber
            (slice data (maxDataLength * fullPackets)
              (maxDataLength * fullPackets + partialPacketLength))
      | stopped => stopped
    else
      match sendFullPackets replies session data (List.range (fullPackets - 1)) with
      | (session, .ok true) =>
          programRow replies session row.arrayId row.rowNumber
            (slice data (maxDataLength * (fullPackets - 1))
              (maxDataLength * (fullPackets - 1) + maxDataLength))
      | stopped => stopped
  else programRow replies session row.arrayId row.rowNumber data

/-- `ret` is what the last row left in it. -/
def flashFrom (ret : Bool) (session : Session) : List Row → Session × Except BootloaderError Bool
  | [] => (session, .ok ret)
  | row :: rows =>
      match flashRow replies session row with
      | (session, .ok true) => flashFrom true session rows
      | stopped => stopped

def flash (session : Session) (firmware : List Row) : Session × Except BootloaderError Bool :=
  flashFrom replies false session firmware

end

end TactileSensors.Firmware
