import TactileSensors.Gripper.RegisterModel
import TactileSensors.Modbus.Client

/-!
# The gripper's Modbus client

`GripperModbusClient` on any `Serial`: the callbacks that keep the C library on a line that may return
too much or throw, and the three transactions.
-/

namespace TactileSensors.Gripper
open Modbus

inductive Thrown
  | exception (what : String)
  | unknown
deriving DecidableEq, Repr

def serialIOException (description : String) : Thrown :=
  .exception ("SerialIOException: " ++ description)

/-- An implementation of `Serial`, the part the client uses once it is open. -/
structure Serial (σ : Type) where
  read : Nat → Int → σ → Except Thrown (List UInt8) × σ
  write : List UInt8 → σ → Except Thrown Unit × σ
  getTimeout : Int

/-- The serial line and the logger the callbacks get. -/
structure CallbackContext (σ : Type) where
  serial : σ
  log : List LogEntry

namespace CallbackContext

variable {σ : Type}

def logged (context : CallbackContext σ) (text : String) : CallbackContext σ :=
  { context with log := context.log ++ [⟨.error, text⟩] }

end CallbackContext

def failure (operation : String) : Thrown → String
  | .exception what => "serial " ++ operation ++ " failed: " ++ what
  | .unknown => "serial " ++ operation ++ " failed with an unknown exception"

def tooMuch (returned count : Nat) : String :=
  "serial read returned " ++ toString returned ++ " bytes for a request of " ++ toString count ++
    "; ignoring the excess"

section
variable {σ : Type} (serial : Serial σ)

def readSerial (count : Nat) (byteTimeoutMs : Int) (context : CallbackContext σ) :
    Option (List UInt8) × CallbackContext σ :=
  match serial.read count byteTimeoutMs context.serial with
  | (.ok data, after) =>
      let context := { context with serial := after }
      if data.length ≤ count then (some data, context)
      else (some (data.take count), context.logged (tooMuch data.length count))
  | (.error thrown, after) =>
      (none, { context with serial := after }.logged (failure "read" thrown))

def writeSerial (data : List UInt8) (_byteTimeoutMs : Int) (context : CallbackContext σ) :
    Option Nat × CallbackContext σ :=
  match serial.write data context.serial with
  | (.ok _, after) => (some data.length, { context with serial := after })
  | (.error thrown, after) =>
      (none, { context with serial := after }.logged (failure "write" thrown))

def platformConf : Platform (CallbackContext σ) :=
  ⟨readSerial serial, writeSerial serial⟩

end

def nmbsStrerror : NmbsError → String
  | .invalidRequest => "invalid request received"
  | .invalidUnitId => "invalid unit ID received"
  | .crc => "invalid CRC received"
  | .transport => "transport error"
  | .timeout => "timeout"
  | .invalidResponse => "invalid response received"
  | .invalidArgument => "invalid argument provided"
  | .exception .illegalFunction => "modbus exception 1: illegal function"
  | .exception .illegalDataAddress => "modbus exception 2: illegal data address"
  | .exception .illegalDataValue => "modbus exception 3: data value"
  | .exception .serverDeviceFailure => "modbus exception 4: server device failure"

def kByteTimeoutMs : Int := 50

namespace GripperModbusClient

variable {σ : Type}

def mk (serial : Serial σ) (slaveAddress : UInt8) (line : σ) : Nmbs (CallbackContext σ) where
  msg := { buf := fun _ => 0, bufIdx := 0, unitId := 0, fc := 0, broadcast := false, ignored := false }
  byteTimeoutMs := kByteTimeoutMs
  readTimeoutMs := serial.getTimeout
  addressRtu := 0
  destAddressRtu := slaveAddress
  firstByteReceived := false
  arg := ⟨line, []⟩

inductive Failure
  -- a `DriverException` with what it says
  | driver (what : String)
  | outOfBounds
deriving DecidableEq, Repr

def check {τ α : Type} (context : String) (call : Call τ α) : EStateM Failure (Nmbs τ) α := fun s =>
  match call s with
  | .ok a s => .ok a s
  | .error (.error err) s =>
      .error (.driver (driverException (context ++ " failed: " ++ nmbsStrerror err))) s
  | .error .outOfBounds s => .error .outOfBounds s

abbrev Transaction (σ α : Type) := EStateM Failure (Nmbs (CallbackContext σ)) α

variable (serial : Serial σ)

def statusOf (registers : List UInt16) : GripperStatus :=
  .ofData (bytesFromRegisters statusRegisterCount.toNat (fun i => registers.getD i 0)
    GripperStatus.zero.data)

def readStatus : Transaction σ GripperStatus := do
  let registers ← check "readStatus"
    (nmbsReadHoldingRegisters (platformConf serial) statusAddress statusRegisterCount)
  return statusOf registers

def writeCommand (command : GripperCommand) : Transaction σ Unit :=
  check "writeCommand" (nmbsWriteMultipleRegisters (platformConf serial) commandAddress
    commandRegisterCount (registersFromBytes command.data))

def exchange (command : GripperCommand) : Transaction σ GripperStatus := do
  let registers ← check "exchange" (nmbsReadWriteRegisters (platformConf serial) statusAddress
    statusRegisterCount commandAddress commandRegisterCount (registersFromBytes command.data))
  return statusOf registers

end GripperModbusClient

inductive Transaction
  | readStatus
  | writeCommand (command : GripperCommand)
  | exchange (command : GripperCommand)

namespace Transaction

def perform {σ : Type} (serial : Serial σ) :
    Transaction → GripperModbusClient.Transaction σ (Option GripperStatus)
  | readStatus => do
      let status ← GripperModbusClient.readStatus serial
      return some status
  | writeCommand command => do
      GripperModbusClient.writeCommand serial command
      return none
  | exchange command => do
      let status ← GripperModbusClient.exchange serial command
      return some status

def context : Transaction → String
  | readStatus => "readStatus"
  | writeCommand _ => "writeCommand"
  | exchange _ => "exchange"

def failure (transaction : Transaction) (err : NmbsError) : GripperModbusClient.Failure :=
  .driver (driverException (transaction.context ++ " failed: " ++ nmbsStrerror err))

def report : Transaction → List UInt16 → Option GripperStatus
  | readStatus, registers => some (GripperModbusClient.statusOf registers)
  | writeCommand _, _ => none
  | exchange _, registers => some (GripperModbusClient.statusOf registers)

end Transaction
end TactileSensors.Gripper
