import Mathlib.Data.List.Basic
import Mathlib.Data.List.TakeDrop

/-!
# The two framers of the USB protocol

A packet is a start byte, a placeholder CRC, a command, a data length and the data. The Python
parser searches a growing buffer for it; the C++ one takes a byte at a time into the memory of one
`UsbPacket`, which nothing initialises.
-/

namespace TactileSensors.Usb

def usbPacketStartByte : UInt8 := 0x9A
def usbPacketHeaderSize : Nat := 4
def usbPacketMaxDataSize : Nat := 256
def usbPacketMaxSize : Nat := usbPacketHeaderSize + usbPacketMaxDataSize

def usbCommandReadSensors : UInt8 := 0x61
def usbCommandAutosendSyncSensors : UInt8 := 0x58
def usbCommandAutosendAsyncSensors : UInt8 := 0x59
def usbCommandGetVersion : UInt8 := 0xE3

def isSensorCommand (command : UInt8) : Bool :=
  command == usbCommandAutosendSyncSensors || command == usbCommandAutosendAsyncSensors ||
    command == usbCommandReadSensors

/-- The parser, less the sensor data its packets are read into. -/
structure UsbPacketParser where
  buffer : List UInt8
  packetCount : Nat
deriving DecidableEq, Repr

def UsbPacketParser.init : UsbPacketParser := ⟨[], 0⟩

def packetSize (buffer : List UInt8) : Nat :=
  usbPacketHeaderSize + (buffer.getD 3 0).toNat

def findPackets (buffer : List UInt8) : List (List UInt8) × List UInt8 :=
  if buffer.length < usbPacketHeaderSize then ([], buffer)
  else match buffer.findIdx? (· == usbPacketStartByte) with
    | none => ([], [])
    | some startIdx =>
        let found := buffer.drop startIdx
        if found.length < usbPacketHeaderSize then ([], found)
        else if found.length < packetSize found then ([], found)
        else
          let rest := findPackets (found.drop (packetSize found))
          (found.take (packetSize found) :: rest.1, rest.2)
termination_by buffer.length
decreasing_by
  simp only [packetSize, usbPacketHeaderSize, List.length_drop] at *
  omega

def UsbPacketParser.feedBytes (parser : UsbPacketParser) (data : List UInt8) :
    List (List UInt8) × UsbPacketParser :=
  let found := findPackets (parser.buffer ++ data)
  (found.1, ⟨found.2, parser.packetCount + found.1.length⟩)

def UsbPacketParser.feedChunks (parser : UsbPacketParser) :
    List (List UInt8) → List (List UInt8) × UsbPacketParser
  | [] => ([], parser)
  | chunk :: chunks =>
      let first := parser.feedBytes chunk
      let rest := first.2.feedChunks chunks
      (first.1 ++ rest.1, rest.2)

/-- A `UsbPacket`, as the bytes of its memory. -/
structure UsbPacket where
  bytes : List UInt8
  size : bytes.length = usbPacketMaxSize
deriving DecidableEq

namespace UsbPacket

def get (packet : UsbPacket) (i : Nat) : UInt8 := packet.bytes.getD i 0

def crc8 (packet : UsbPacket) : UInt8 := packet.get 1
def command (packet : UsbPacket) : UInt8 := packet.get 2
def dataLength (packet : UsbPacket) : UInt8 := packet.get 3

def set (packet : UsbPacket) (i : Nat) (d : UInt8) : UsbPacket :=
  ⟨packet.bytes.set i d, by rw [List.length_set, packet.size]⟩

def moveBack (packet : UsbPacket) (i count : Nat) : UsbPacket :=
  let moved := (packet.bytes.drop i).take count
  ⟨moved ++ packet.bytes.drop moved.length, by
    have := packet.size
    simp only [moved, List.length_append, List.length_take, List.length_drop]
    omega⟩

def contents (packet : UsbPacket) : List UInt8 :=
  packet.bytes.take (packet.dataLength.toNat + usbPacketHeaderSize)

def payload (packet : UsbPacket) : List UInt8 :=
  (packet.bytes.drop usbPacketHeaderSize).take packet.dataLength.toNat

theorem payload_eq_drop (packet : UsbPacket) :
    packet.payload = packet.contents.drop usbPacketHeaderSize := by
  rw [payload, contents, List.drop_take, Nat.add_sub_cancel]

end UsbPacket

/-- The placeholder returns the byte before `data`, whatever the length. -/
def calcCrc8 (packet : UsbPacket) (data _len : Nat) : UInt8 := packet.get (data - 1)

structure Receiver where
  packet : UsbPacket
  readSoFar : Nat
deriving DecidableEq

/-- Which way `usbReadByte` went with a byte. It returns `true` for `completed` only. -/
inductive Taken
  | ignored
  | buffered
  | completed
  | resynced
deriving DecidableEq, Repr

def resync (packet : UsbPacket) : Receiver :=
  let size := packet.dataLength.toNat + usbPacketHeaderSize
  match (List.range' 1 (size - 1)).find? (fun i => packet.get i == usbPacketStartByte) with
  | none => ⟨packet, 0⟩
  | some i => ⟨packet.moveBack i (size - i), size - i⟩

def usbReadByte (r : Receiver) (d : UInt8) : Taken × Receiver :=
  if r.readSoFar = 0 ∧ d ≠ usbPacketStartByte then (.ignored, r)
  else
    let packet := if r.readSoFar < usbPacketMaxSize then r.packet.set r.readSoFar d else r.packet
    let readSoFar := r.readSoFar + 1
    let length := packet.dataLength.toNat
    if 3 < readSoFar ∧ length + usbPacketHeaderSize ≤ readSoFar then
      if packet.crc8 = calcCrc8 packet 2 (length + 2) then (.completed, ⟨packet, 0⟩)
      else (.resynced, resync packet)
    else (.buffered, ⟨packet, readSoFar⟩)

def packetOf (taken : Taken × Receiver) : List (List UInt8) :=
  if taken.1 = .completed then [taken.2.packet.contents] else []

def readBytes (r : Receiver) : List UInt8 → List (List UInt8) × Receiver
  | [] => ([], r)
  | d :: rest =>
      let next := usbReadByte r d
      let later := readBytes next.2 rest
      (packetOf next ++ later.1, later.2)

def readChunks (r : Receiver) : List (List UInt8) → List (List UInt8) × Receiver
  | [] => ([], r)
  | chunk :: chunks =>
      let first := readBytes r chunk
      let rest := readChunks first.2 chunks
      (first.1 ++ rest.1, rest.2)

end TactileSensors.Usb
