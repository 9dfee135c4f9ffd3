import TactileSensors.Firmware.Bootloader

/-!
# Firmware files

`Cyacd` reads a header line and one line for each row of flash, in hexadecimal.
-/

namespace TactileSensors.Firmware

/-- What `parse` raises: a list or a line ends too early, a text is no hexadecimal, or the row checksum
is not what its assertion wants. -/
inductive CyacdError
  | indexError
  | valueError
  | assertionError
deriving DecidableEq, Repr

/-- What a file opened for text gives for the line ends in it. -/
def translateNewlines : List Char → List Char
  | '\r' :: '\n' :: rest => '\n' :: translateNewlines rest
  | '\r' :: rest => '\n' :: translateNewlines rest
  | c :: rest => c :: translateNewlines rest
  | [] => []

def splitLines (line : List Char) : List Char → List (List Char)
  | [] => if line.isEmpty then [] else [line]
  | c :: rest => if c = '\n' then (line ++ [c]) :: splitLines [] rest else splitLines (line ++ [c]) rest

def readlines (content : List Char) : List (List Char) :=
  splitLines [] (translateNewlines content)

def rstrip (line : List Char) : List Char :=
  (line.reverse.dropWhile fun c => c = '\r' ∨ c = '\n').reverse

def hexDigit (c : Char) : Option UInt8 :=
  if '0' ≤ c ∧ c ≤ '9' then some (c.toNat - '0'.toNat).toUInt8
  else if 'a' ≤ c ∧ c ≤ 'f' then some (c.toNat - 'a'.toNat + 10).toUInt8
  else if 'A' ≤ c ∧ c ≤ 'F' then some (c.toNat - 'A'.toNat + 10).toUInt8
  else none

def a2bHex : List Char → Except CyacdError (List UInt8)
  | [] => .ok []
  | [_] => .error .valueError
  | high :: low :: rest =>
      match hexDigit high, hexDigit low with
      | some high, some low => (a2bHex rest).map ((high <<< 4 ||| low) :: ·)
      | _, _ => .error .valueError

def cyacdByte (bytes : List UInt8) (i : Nat) : Except CyacdError UInt8 :=
  match bytes[i]? with
  | some byte => .ok byte
  | none => .error .indexError

def rowChecksum (data : List UInt8) : UInt8 :=
  ~~~(data.foldl (· + ·) 0) + 1

structure Cyacd where
  siliconId : Nat
  siliconRevision : UInt8
  checksumType : UInt8
  firmware : List Row
deriving DecidableEq, Repr

/-- What `parse` makes of the bytes of a row. -/
def rowOf (line : List UInt8) : Except CyacdError Row := do
  let arrayId ← cyacdByte line 0
  let rowHigh ← cyacdByte line 1
  let rowLow ← cyacdByte line 2
  let rowNumber := rowHigh.toUInt16 <<< 8 ||| rowLow.toUInt16
  let lengthHigh ← cyacdByte line 3
  let lengthLow ← cyacdByte line 4
  let dataLength := (lengthHigh.toUInt16 <<< 8 ||| lengthLow.toUInt16).toNat
  let data := (line.drop 5).take dataLength
  let checksum ← cyacdByte line (5 + dataLength)
  let checksumCalculated := rowChecksum line.dropLast
  if checksum ≠ checksumCalculated then throw .assertionError
  return ⟨arrayId, rowNumber, data⟩

def parseRow (line : List Char) : Except CyacdError Row := do
  let line ← a2bHex (rstrip (line.drop 1))
  rowOf line

def Cyacd.parse (content : List Char) : Except CyacdError Cyacd :=
  match readlines content with
  | [] => .error .indexError
  | headerLine :: lines => do
      let header ← a2bHex (rstrip headerLine)
      let id₃ ← cyacdByte header 3
      let id₂ ← cyacdByte header 2
      let id₁ ← cyacdByte header 1
      let id₀ ← cyacdByte header 0
      let siliconId := id₃.toNat ||| id₂.toNat <<< 8 ||| id₁.toNat <<< 16 ||| id₀.toNat <<< 24
      let siliconRevision ← cyacdByte header 4
      let checksumType ← cyacdByte header 5
      let firmware ← lines.mapM parseRow
      return ⟨siliconId, siliconRevision, checksumType, firmware⟩

example : parseRow ":010102000141BA\n".toList = .ok ⟨0x01, 0x0102, [0x41]⟩ := by decide +kernel

end TactileSensors.Firmware
