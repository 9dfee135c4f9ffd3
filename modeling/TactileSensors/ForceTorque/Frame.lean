import Mathlib.Data.Rat.Defs
import Mathlib.Data.List.Basic
import Mathlib.Logic.Function.Iterate

/-!
# Frames of the force/torque link

The Modbus CRC-16 and the sixteen-byte stream frame: a two-byte header, six little-endian int16
values and the CRC.
-/

namespace TactileSensors.ForceTorque

def streamFrameBytes : Nat := 16

def streamHeader : List UInt8 := [0x20, 0x4E]

def forceDivisor : ℚ := 100

def momentDivisor : ℚ := 1000

def crcBit (crc : UInt16) : UInt16 :=
  if crc &&& 1 ≠ 0 then (crc >>> 1) ^^^ 0xA001 else crc >>> 1

def crcByte (crc : UInt16) (byte : UInt8) : UInt16 :=
  crcBit^[8] (crc ^^^ byte.toUInt16)

def crc16 (data : List UInt8) : List UInt8 :=
  let crc := data.foldl crcByte 0xFFFF
  [(crc &&& 0xFF).toUInt8, ((crc >>> 8) &&& 0xFF).toUInt8]

def framed (payload : List UInt8) : List UInt8 :=
  payload ++ crc16 payload

/-- The test a received frame has to pass: `crc16(frame[:-2]) == frame[-2:]`. -/
def crcHolds (frame : List UInt8) : Bool :=
  crc16 (frame.take (frame.length - 2)) = frame.drop (frame.length - 2)

def toInt16 (low high : UInt8) : Int :=
  let value := low.toNat ||| (high.toNat <<< 8)
  if value &&& 0x8000 ≠ 0 then (value : Int) - 0x10000 else value

def decodeStreamFrame (frame : List UInt8) : List ℚ :=
  let payload := (frame.take (frame.length - 2)).drop 2
  let values := (List.range 6).map fun i =>
    toInt16 (payload.getD (2 * i) 0) (payload.getD (2 * i + 1) 0)
  (values.take 3).map (fun v => v / forceDivisor) ++
    (values.drop 3).map (fun v => v / momentDivisor)

end TactileSensors.ForceTorque
