import ProcessBus.Lib.Trace
import ProcessBus.Lib.Fold
import ProcessBus.Lib.Loop
import ProcessBus.Lib.Columns
import ProcessBus.Lib.Latest
import ProcessBus.Lib.Losses
import ProcessBus.Common.Console
import ProcessBus.Lib.Memory
import ProcessBus.Lib.Tlv
import ProcessBus.Lib.Access
import ProcessBus.Common.Containers
import ProcessBus.Common.Session.Basic
import ProcessBus.Common.Session.Readers
import ProcessBus.Common.Session.Layout
import ProcessBus.Common.Session.RoundTrip
import ProcessBus.Parser.Asn1
import ProcessBus.Parser.Goose.Basic
import ProcessBus.Parser.Goose.Chain
import ProcessBus.Parser.Goose.Termination
import ProcessBus.Parser.Goose.Fields
import ProcessBus.Parser.Goose.Bounds
import ProcessBus.Parser.Sv.Basic
import ProcessBus.Parser.Sv.Readers
import ProcessBus.Parser.Sv.Grammar
import ProcessBus.Parser.Sv.Asdu
import ProcessBus.Parser.Sv.Correctness
import ProcessBus.Parser.Copies
import ProcessBus.Parser.Sv.Quality
import ProcessBus.Parser.Routable.Basic
import ProcessBus.Parser.Routable.Unwrap
import ProcessBus.Parser.Sv.Bounds
import ProcessBus.Processor.Pipeline
import ProcessBus.Processor.Authentication
import ProcessBus.Parser.Goose.Grammar
import ProcessBus.Parser.Goose.Tiling
import ProcessBus.Parser.Goose.Correctness
import ProcessBus.Parser.Goose.Numbers
import ProcessBus.Parser.Goose.Recorded
import ProcessBus.Parser.Goose.Padding
import ProcessBus.Parser.Goose.Unknown
import ProcessBus.Parser.Goose.Agreement
import ProcessBus.Processor.Matrix
import ProcessBus.Processor.Accounting
import ProcessBus.Common.Registration
import ProcessBus.Common.Naming
import ProcessBus.Processor.Init
import ProcessBus.Processor.Gaps
import ProcessBus.Lib.Sharding
import ProcessBus.Parser.Identity
import ProcessBus.Processor.Dispatch
import ProcessBus.Lib.Checksum
import ProcessBus.Lib.Patch
import ProcessBus.Common.Frame
import ProcessBus.Common.Prefix
import ProcessBus.Generator.LayerTwo
import ProcessBus.Generator.Routable
import ProcessBus.Common.Session.Reseal
import ProcessBus.Lib.Pool
import ProcessBus.Generator.Recycling
import ProcessBus.Generator.Streams
import ProcessBus.Generator.Counters
import ProcessBus.Lib.Slices
import ProcessBus.Generator.Runs
import ProcessBus.Generator.Workers
import ProcessBus.Lib.Segments
import ProcessBus.Generator.Skeleton
import ProcessBus.Generator.Nonces
import ProcessBus.Generator.Emitted
import ProcessBus.Processor.EndToEnd
import ProcessBus.Processor.Names
import ProcessBus.Common.History
import ProcessBus.Common.Sequence
import ProcessBus.Common.Session.Acceptance
import ProcessBus.Parser.Routable.Verified
import ProcessBus.Parser.Routable.Received
import ProcessBus.Parser.Routable.Header
import ProcessBus.Common.Session.Tamper
import ProcessBus.Generator.Schedule
import ProcessBus.Lib.Ledger
import ProcessBus.Lib.Window
import ProcessBus.Generator.Transmit
import ProcessBus.Generator.Steady
import ProcessBus.Generator.Burst
import ProcessBus.Generator.Pulses
import ProcessBus.Generator.Application
import ProcessBus.Generator.Published
import ProcessBus.Processor.Delivery
import ProcessBus.Processor.Lost
import ProcessBus.Processor.InOrder
import ProcessBus.Lib.Overflow
import ProcessBus.Processor.Overflow
import ProcessBus.Processor.Found
import ProcessBus.Processor.Traffic
import ProcessBus.Generator.Fleet
import ProcessBus.Processor.ClosedLoop
import ProcessBus.Generator.BurstRun
import ProcessBus.Generator.Cadence
import ProcessBus.Lib.Fields
import ProcessBus.Deploy.Summary
import ProcessBus.Deploy.Batch
