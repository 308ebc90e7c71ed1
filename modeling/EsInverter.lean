import EsInverter.TcpProtocol.Parser
import EsInverter.TcpProtocol.ParserBounds
import EsInverter.TcpProtocol.RoundTrip
import EsInverter.Lib.Transducer
import EsInverter.Slip.Codec
import EsInverter.Slip.Scan
import EsInverter.Slip.Stream
import EsInverter.Lib.Transition
import EsInverter.TcpClient.Queues
import EsInverter.TcpClient.Pairing
import EsInverter.TcpClient.Ownership
import EsInverter.Ota.HttpOta
import EsInverter.Ota.Handles
import EsInverter.Ota.Validation
import EsInverter.Rs232.Crc
import EsInverter.SerialClient.Requests
import EsInverter.SerialClient.Timing
import EsInverter.Lib.Scanf
import EsInverter.Rs232.SubParsers
import EsInverter.Rs232.Protocol
import EsInverter.RingBuf.Ring
import EsInverter.SerialClient.Receive
import EsInverter.SerialClient.Delivery
import EsInverter.Rs232.RoundTrip
import EsInverter.Rs232.Drain
import EsInverter.Inverter.Conservation
import EsInverter.Inverter.Integration
import EsInverter.Inverter.Independence
import EsInverter.Update.Phase
import EsInverter.Storage.Commit
import EsInverter.Lib.Filled
import EsInverter.Storage.History
import EsInverter.Storage.Readback
import EsInverter.Ble.Gatt
import EsInverter.Ble.Confidential
import EsInverter.Lib.LastOf
import EsInverter.RingBuf.Queue
import EsInverter.SerialClient.Link
import EsInverter.SerialClient.Credit
import EsInverter.Led.Scene
import EsInverter.Slip.Sweep
import EsInverter.TcpProtocol.Receiver
import EsInverter.Dispatcher.Handlers
import EsInverter.Dispatcher.Network
import EsInverter.Lib.Simulation
import EsInverter.RingBuf.Refinement
import EsInverter.Slip.Inverse
import EsInverter.Slip.Resync
import EsInverter.Coredump.Upload
import EsInverter.SerialClient.Removal
import EsInverter.SerialClient.Retries
import EsInverter.SerialClient.Period
import EsInverter.Scheduler.Entries
import EsInverter.Scheduler.Race
import EsInverter.Storage.Mapper
import EsInverter.Storage.Restart
import EsInverter.SerialClient.Resync
import EsInverter.Inverter.Status
import EsInverter.Storage.Capacity
import EsInverter.Storage.Coordinates
import EsInverter.Lib.Numerals
import EsInverter.Update.Start
import EsInverter.Update.Version
import EsInverter.Inverter.Qpigs
import EsInverter.Lib.Scanning
import EsInverter.Rs232.Decoding
import EsInverter.Lib.Demand
import EsInverter.TcpClient.Backoff
import EsInverter.Lib.Layout
import EsInverter.TcpProtocol.Layouts
import EsInverter.TcpProtocol.Capacities
import EsInverter.TcpProtocol.Replies
import EsInverter.Lib.Remainder
import EsInverter.Rs232.Checksum
import EsInverter.Rs232.Burst
import EsInverter.Rs232.Packing
import EsInverter.Rs232.DecimalText
import EsInverter.Rs232.Flags
import EsInverter.Rs232.Leftovers
import EsInverter.Scheduler.Deadlines
import EsInverter.Wifi.Station
import EsInverter.Wifi.Credentials
import EsInverter.Wifi.Scan
import EsInverter.Led.Blinking
import EsInverter.Dataset.Average
import EsInverter.Dispatcher.Position
import EsInverter.Lib.Footed
import EsInverter.Rs232.Footprint
import EsInverter.Rs232.Confinement
import EsInverter.SerialClient.Consumption
import EsInverter.Slip.Bounded
import EsInverter.Slip.Bounds
import EsInverter.Lib.Heap
import EsInverter.SerialClient.Payloads
import EsInverter.SerialClient.Ledger
import EsInverter.SerialClient.Shown
import EsInverter.SerialClient.Provenance
import EsInverter.EncryptedImg.Acceptance
import EsInverter.EncryptedImg.Generator
import EsInverter.TcpClient.Wire
import EsInverter.TcpClient.Parts
import EsInverter.Lib.Since
import EsInverter.Button.Driver
import EsInverter.Button.Gesture
import EsInverter.Lib.Reaching
import EsInverter.TcpClient.Session
import EsInverter.TcpClient.Attendance
import EsInverter.TcpClient.Recovery
import EsInverter.TcpClient.Dialling
