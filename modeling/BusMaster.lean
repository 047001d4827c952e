import BusMaster.Adapter.Basic
import BusMaster.Adapter.Bus
import BusMaster.Adapter.Devices
import BusMaster.Adapter.Workbench
import BusMaster.Address.Basic
import BusMaster.Address.Text
import BusMaster.Capability
import BusMaster.Checksum
import BusMaster.CommandLine.Arguments
import BusMaster.CommandLine.Grammar
import BusMaster.CommandLine.Run
import BusMaster.Decimal.Shortest
import BusMaster.Error
import BusMaster.FileSystem
import BusMaster.Hardware
import BusMaster.Json.Access
import BusMaster.Json.Decode
import BusMaster.Json.Read
import BusMaster.Json.Value
import BusMaster.Lease.Arbiter
import BusMaster.Lease.Clock
import BusMaster.Lease.Wait
import BusMaster.Main
import BusMaster.Monitor.DeviceSet
import BusMaster.Monitor.Scan
import BusMaster.Monitor.Watch
import BusMaster.Proofs.Adapter.Bookkeeping
import BusMaster.Proofs.Adapter.Bracket
import BusMaster.Proofs.Adapter.Copies
import BusMaster.Proofs.Adapter.Exclusion
import BusMaster.Proofs.Adapter.Failure
import BusMaster.Proofs.Adapter.Frame
import BusMaster.Proofs.Adapter.Hardware
import BusMaster.Proofs.Adapter.History
import BusMaster.Proofs.Adapter.Interleaving
import BusMaster.Proofs.Adapter.Placement
import BusMaster.Proofs.Adapter.Traffic
import BusMaster.Proofs.Address.Corruption
import BusMaster.Proofs.Address.Grammar
import BusMaster.Proofs.Address.SearchOrder
import BusMaster.Proofs.Address.Spelling
import BusMaster.Proofs.Address.Text
import BusMaster.Proofs.Address.WireOrder
import BusMaster.Proofs.Checksum.Division
import BusMaster.Proofs.Checksum.Residue
import BusMaster.Proofs.Lease.Schedule
import BusMaster.Proofs.Monitor.DeviceSet
import BusMaster.Proofs.Monitor.Families
import BusMaster.Proofs.Monitor.Scan
import BusMaster.Proofs.Monitor.Watch
import BusMaster.Proofs.Properties.Composition
import BusMaster.Proofs.Properties.Escapes
import BusMaster.Proofs.Properties.Lines
import BusMaster.Proofs.Properties.Written
import BusMaster.Proofs.Record
import BusMaster.Proofs.Registry.Enumeration
import BusMaster.Proofs.Registry.Opening
import BusMaster.Proofs.Registry.Settings
import BusMaster.Proofs.Registry.Simulated
import BusMaster.Proofs.Search.Agreement
import BusMaster.Proofs.Search.Cursor
import BusMaster.Proofs.Search.Enumeration
import BusMaster.Proofs.Search.Filtering
import BusMaster.Proofs.Search.Plugging
import BusMaster.Proofs.Search.Presence
import BusMaster.Proofs.Search.Protocol
import BusMaster.Proofs.Search.Pulling
import BusMaster.Proofs.Search.Repetition
import BusMaster.Proofs.Search.Resumption
import BusMaster.Proofs.Search.Straying
import BusMaster.Proofs.Search.Unplugging
import BusMaster.Proofs.Search.View
import BusMaster.Proofs.Wire.Attachment
import BusMaster.Proofs.Wire.Buffer
import BusMaster.Proofs.Wire.Conversation
import BusMaster.Proofs.Wire.Descent
import BusMaster.Proofs.Wire.Effect
import BusMaster.Proofs.Wire.Pass
import BusMaster.Proofs.Wire.Population
import BusMaster.Proofs.Wire.Power
import BusMaster.Proofs.Wire.Queue
import BusMaster.Properties.Basic
import BusMaster.Properties.Charset
import BusMaster.Properties.Escape
import BusMaster.Properties.File
import BusMaster.Properties.Line
import BusMaster.Registry.Basic
import BusMaster.Registry.Config
import BusMaster.Registry.Descriptor
import BusMaster.Search.Cursor
import BusMaster.Search.Filter
import BusMaster.Search.Walk
import BusMaster.Signal
import BusMaster.Text.Blank
import BusMaster.Text.ControlSequence
import BusMaster.Text.Hex
import BusMaster.Text.Hidden
import BusMaster.Text.Numeral
import BusMaster.Transport.Basic
import BusMaster.Transport.Record
import BusMaster.Transport.Script
import BusMaster.Version
import BusMaster.Wire.Descent
import BusMaster.Wire.Driver
import BusMaster.Wire.Network
