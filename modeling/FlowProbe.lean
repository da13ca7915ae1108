import FlowProbe.Address
import FlowProbe.Address.Reader
import FlowProbe.Capture
import FlowProbe.Classifier
import FlowProbe.Collector
import FlowProbe.CommandLine
import FlowProbe.Config
import FlowProbe.Config.Load
import FlowProbe.Exporter
import FlowProbe.Failure
import FlowProbe.Files
import FlowProbe.Frame
import FlowProbe.Hub
import FlowProbe.LogFilter
import FlowProbe.LogFilter.Pattern
import FlowProbe.LogFilter.Pattern.Atom
import FlowProbe.LogFilter.Pattern.Brackets
import FlowProbe.Main
import FlowProbe.Meter
import FlowProbe.Meter.Flow
import FlowProbe.Meter.Setup
import FlowProbe.Number.Binary64
import FlowProbe.Octets
import FlowProbe.Packet
import FlowProbe.Probe
import FlowProbe.Program
import FlowProbe.Proofs.Address.Text
import FlowProbe.Proofs.Config.Admission
import FlowProbe.Proofs.Config.Timeouts
import FlowProbe.Proofs.Exporter.Accounting
import FlowProbe.Proofs.Exporter.Attribution
import FlowProbe.Proofs.Exporter.Delivery
import FlowProbe.Proofs.Exporter.Order
import FlowProbe.Proofs.Exporter.Run
import FlowProbe.Proofs.Exporter.Schedule
import FlowProbe.Proofs.Exporter.Stopping
import FlowProbe.Proofs.Exporter.Trace
import FlowProbe.Proofs.Fibers
import FlowProbe.Proofs.FlowKey
import FlowProbe.Proofs.Hub.Binding
import FlowProbe.Proofs.Hub.Fanout
import FlowProbe.Proofs.Hub.Fragments
import FlowProbe.Proofs.Hub.Ledger
import FlowProbe.Proofs.Hub.Membership
import FlowProbe.Proofs.Hub.Tagging
import FlowProbe.Proofs.Meter.Account
import FlowProbe.Proofs.Meter.Conservation
import FlowProbe.Proofs.Meter.Farewell
import FlowProbe.Proofs.Meter.Gap
import FlowProbe.Proofs.Meter.History
import FlowProbe.Proofs.Meter.Identifier
import FlowProbe.Proofs.Meter.Identity
import FlowProbe.Proofs.Meter.Isolation
import FlowProbe.Proofs.Meter.Lifetime
import FlowProbe.Proofs.Meter.Pacing
import FlowProbe.Proofs.Meter.Reordering
import FlowProbe.Proofs.Meter.Scan
import FlowProbe.Proofs.Meter.Sharing
import FlowProbe.Proofs.Meter.Soundness
import FlowProbe.Proofs.Meter.Stay
import FlowProbe.Proofs.Meter.Stretch
import FlowProbe.Proofs.Meter.Succession
import FlowProbe.Proofs.Meter.Table
import FlowProbe.Proofs.Meter.Times
import FlowProbe.Proofs.Octets
import FlowProbe.Proofs.Probe.Balance
import FlowProbe.Proofs.Probe.FlowOrder
import FlowProbe.Proofs.Probe.Journal
import FlowProbe.Proofs.Probe.Teardown
import FlowProbe.Proofs.Queue.Accounting
import FlowProbe.Proofs.Queue.History
import FlowProbe.Proofs.Ring
import FlowProbe.Proofs.Text.Json
import FlowProbe.Proofs.Text.Numeral
import FlowProbe.Proofs.Time.Calendar
import FlowProbe.Proofs.Time.Moment
import FlowProbe.Proofs.Toml.Keys
import FlowProbe.Proofs.Toml.Layout
import FlowProbe.Proofs.Transport.Delivery
import FlowProbe.Proofs.Transport.Messages
import FlowProbe.Proofs.Transport.Stream
import FlowProbe.Proofs.Wire.Chain
import FlowProbe.Proofs.Wire.Datagram
import FlowProbe.Proofs.Wire.Extension
import FlowProbe.Proofs.Wire.Extent
import FlowProbe.Proofs.Wire.Fragment
import FlowProbe.Proofs.Wire.Frame
import FlowProbe.Proofs.Wire.Header
import FlowProbe.Proofs.Wire.Segment
import FlowProbe.Proofs.Wire.Tag
import FlowProbe.Proofs.WorkerPool.Channel
import FlowProbe.Proofs.WorkerPool.Crew
import FlowProbe.Proofs.WorkerPool.Metering
import FlowProbe.Proofs.WorkerPool.Opening
import FlowProbe.Proofs.WorkerPool.Progress
import FlowProbe.Proofs.WorkerPool.Sharding
import FlowProbe.Proofs.WorkerPool.Stopping
import FlowProbe.Proofs.WorkerPool.Worklog
import FlowProbe.Queue
import FlowProbe.Record
import FlowProbe.Ring
import FlowProbe.Text
import FlowProbe.Text.Alphanumeric
import FlowProbe.Text.Quoted
import FlowProbe.Time
import FlowProbe.Toml.Document
import FlowProbe.Toml.Layout
import FlowProbe.Toml.Numeral
import FlowProbe.Toml.Quotation
import FlowProbe.Toml.Value
import FlowProbe.Transport
import FlowProbe.Transport.Framed
import FlowProbe.Worker
import FlowProbe.WorkerPool
