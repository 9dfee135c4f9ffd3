import TactileSensors.Gripper.ModbusClient
import TactileSensors.Modbus.Server

/-!
# The fake gripper's server

A Modbus server in front of the device model, fed and drained by the serial line of the client's
process: a write hands the request over and runs the server, a read takes from its reply.
-/

namespace TactileSensors.Gripper
open Modbus

namespace GripperServer

structure Impl where
  model : RegisterModel
  fromClient : List UInt8
  toClient : List UInt8

def readFromClient (count : Nat) (_timeout : Int) (impl : Impl) : Option (List UInt8) × Impl :=
  (some (impl.fromClient.take count), { impl with fromClient := impl.fromClient.drop count })

def writeToClient (data : List UInt8) (_timeout : Int) (impl : Impl) : Option Nat × Impl :=
  (some data.length, { impl with toClient := impl.toClient ++ data })

def platformConf : Platform Impl :=
  ⟨readFromClient, writeToClient⟩

def onReadHoldingRegisters (address quantity : UInt16) (impl : Impl) :
    Except NmbsError (List UInt16) × Impl :=
  if RegisterModel.containsRange address quantity then
    let (model, registers) := impl.model.read address quantity fun _ => 0
    (.ok ((List.range quantity.toNat).map registers), { impl with model })
  else (.error (.exception .illegalDataAddress), impl)

def onWriteMultipleRegisters (address quantity : UInt16) (values : List UInt16) (impl : Impl) :
    Except NmbsError Unit × Impl :=
  if RegisterModel.containsRange address quantity then
    (.ok (), { impl with model := impl.model.write address quantity fun i => values.getD i 0 })
  else (.error (.exception .illegalDataAddress), impl)

def callbacks : Callbacks Impl :=
  ⟨onReadHoldingRegisters, onWriteMultipleRegisters⟩

end GripperServer

/-- The server, and whether a message left its buffer: nothing is known of it from then on. -/
structure GripperServer where
  nmbs : Nmbs GripperServer.Impl
  overrun : Bool

namespace GripperServer

def create (model : RegisterModel) (slaveAddress : UInt8) : Except String GripperServer :=
  if slaveAddress = 0 then
    .error (driverException
      ("creating the fake gripper's Modbus server failed: " ++ nmbsStrerror .invalidArgument))
  else .ok {
    nmbs := {
      msg := { buf := fun _ => 0, bufIdx := 0, unitId := 0, fc := 0, broadcast := false, ignored := false }
      byteTimeoutMs := 10
      readTimeoutMs := 10
      addressRtu := slaveAddress
      destAddressRtu := 0
      firstByteReceived := false
      arg := ⟨model, [], []⟩ }
    overrun := false }

def withImpl (server : GripperServer) (f : Impl → Impl) : GripperServer :=
  { server with nmbs := { server.nmbs with arg := f server.nmbs.arg } }

/-- What the poll says of the request is not looked at. -/
def poll (server : GripperServer) : GripperServer :=
  match nmbsServerPoll platformConf callbacks server.nmbs with
  | .ok _ nmbs => { server with nmbs }
  | .error (.error _) nmbs => { server with nmbs }
  | .error .outOfBounds nmbs => ⟨nmbs, true⟩

def deliver (server : GripperServer) (request : List UInt8) : GripperServer :=
  (server.withImpl fun impl => { impl with fromClient := impl.fromClient ++ request }).poll

def drain (server : GripperServer) (max : Nat) : List UInt8 × GripperServer :=
  (server.nmbs.arg.toClient.take max,
    server.withImpl fun impl => { impl with toClient := impl.toClient.drop max })

def discardPendingReply (server : GripperServer) : GripperServer :=
  server.withImpl fun impl => { impl with toClient := [] }

end GripperServer

/-- `GripperSerial`. A read that waits for nothing takes nothing. -/
def gripperSerial : Serial GripperServer where
  read size timeout server :=
    if timeout = 0 then (.ok [], server)
    else
      let (data, server) := server.drain size
      (.ok data, server)
  write data server := (.ok (), server.deliver data)
  getTimeout := 100

end TactileSensors.Gripper
