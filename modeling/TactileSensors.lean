import TactileSensors.Arith.Angle
import TactileSensors.Arith.Fixed
import TactileSensors.Arith.Mean
import TactileSensors.Arith.Nearest
import TactileSensors.Arith.Spacing
import TactileSensors.Bytes.BigEndian
import TactileSensors.Bytes.Blocks
import TactileSensors.Control.Controller
import TactileSensors.Control.LatestRequest
import TactileSensors.Control.MoveArguments
import TactileSensors.Control.MoveMessages
import TactileSensors.Crc.Register
import TactileSensors.Firmware.Bootloader
import TactileSensors.Firmware.Cyacd
import TactileSensors.Firmware.CyacdFormat
import TactileSensors.Firmware.Flash
import TactileSensors.Firmware.Main
import TactileSensors.Firmware.PacketCodec
import TactileSensors.ForceTorque.Burst
import TactileSensors.ForceTorque.Frame
import TactileSensors.ForceTorque.Request
import TactileSensors.ForceTorque.Resync
import TactileSensors.ForceTorque.Stream
import TactileSensors.Fourier.BitReversal
import TactileSensors.Fourier.Reorder
import TactileSensors.Fourier.Stages
import TactileSensors.Gripper.Activation
import TactileSensors.Gripper.Bench
import TactileSensors.Gripper.Blocks
import TactileSensors.Gripper.Coherence
import TactileSensors.Gripper.Deadlines
import TactileSensors.Gripper.DeviceHistory
import TactileSensors.Gripper.FakeExchange
import TactileSensors.Gripper.FakeGripper
import TactileSensors.Gripper.FakeServer
import TactileSensors.Gripper.FakeServerStream
import TactileSensors.Gripper.FlakyLine
import TactileSensors.Gripper.Handshake
import TactileSensors.Gripper.Host
import TactileSensors.Gripper.Link
import TactileSensors.Gripper.ModbusClient
import TactileSensors.Gripper.Motion
import TactileSensors.Gripper.Pacing
import TactileSensors.Gripper.ProcessImage
import TactileSensors.Gripper.Recovery
import TactileSensors.Gripper.RegisterModel
import TactileSensors.Gripper.Replies
import TactileSensors.Gripper.Rig
import TactileSensors.Gripper.SetCommand
import TactileSensors.Gripper.Settling
import TactileSensors.Gripper.Transactions
import TactileSensors.Gripper.Units
import TactileSensors.Gripper.Wait
import TactileSensors.Gripper.WaitFor
import TactileSensors.Machine.Caller
import TactileSensors.Machine.Calls
import TactileSensors.Machine.Lock
import TactileSensors.Machine.Observe
import TactileSensors.Machine.Results
import TactileSensors.Machine.Run
import TactileSensors.Machine.Tokens
import TactileSensors.Modbus.Acceptance
import TactileSensors.Modbus.Bounds
import TactileSensors.Modbus.Buffer
import TactileSensors.Modbus.Client
import TactileSensors.Modbus.Effects
import TactileSensors.Modbus.Execution
import TactileSensors.Modbus.Line
import TactileSensors.Modbus.Message
import TactileSensors.Modbus.Parsing
import TactileSensors.Modbus.Requests
import TactileSensors.Modbus.Server
import TactileSensors.Platform.StdConditionVariable
import TactileSensors.Platform.ThreadXConditionVariable
import TactileSensors.Platform.ThreadXTicks
import TactileSensors.Platform.Waiting
import TactileSensors.Scan.Cuts
import TactileSensors.Scan.Latest
import TactileSensors.Scan.Ring
import TactileSensors.Scan.Scanner
import TactileSensors.Scan.Walk
import TactileSensors.Scan.Windows
import TactileSensors.Serial.Posix
import TactileSensors.Serial.Read
import TactileSensors.Serial.Write
import TactileSensors.Usb.AbsentFingers
import TactileSensors.Usb.Agreement
import TactileSensors.Usb.Baseline
import TactileSensors.Usb.Bounds
import TactileSensors.Usb.CircularBuffer
import TactileSensors.Usb.Command
import TactileSensors.Usb.Delivery
import TactileSensors.Usb.FieldCodec
import TactileSensors.Usb.FieldTracker
import TactileSensors.Usb.Fields
import TactileSensors.Usb.FindBaseline
import TactileSensors.Usb.Framing
import TactileSensors.Usb.Lifecycle
import TactileSensors.Usb.Packet
import TactileSensors.Usb.Quickstart
import TactileSensors.Usb.ReadSerialData
import TactileSensors.Usb.ReceiveBuffer
import TactileSensors.Usb.Replies
import TactileSensors.Usb.Samples
import TactileSensors.Usb.Sdk
import TactileSensors.Usb.Shape
import TactileSensors.Usb.ThreadLoop
import TactileSensors.Usb.VersionHandoff
import TactileSensors.Viewer.Agreement
import TactileSensors.Viewer.Broadcast
import TactileSensors.Viewer.Buffer
import TactileSensors.Viewer.Clients
import TactileSensors.Viewer.Envelope
import TactileSensors.Viewer.Fft
import TactileSensors.Viewer.Frames
import TactileSensors.Viewer.History
import TactileSensors.Viewer.Recorded
import TactileSensors.Viewer.Seats
import TactileSensors.Viewer.Spectrum
import TactileSensors.Viewer.Stream
import TactileSensors.Viewer.TipAngle
import TactileSensors.Viewer.TurnedOver
import TactileSensors.Viewer.Wrench
