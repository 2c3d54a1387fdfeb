import LinkLocal.Bench
import LinkLocal.Bench.World
import LinkLocal.Config
import LinkLocal.Config.Field
import LinkLocal.Config.OfDocument
import LinkLocal.Config.Reading
import LinkLocal.Config.Written
import LinkLocal.Daemon.Settings
import LinkLocal.Daemon.Supervisor
import LinkLocal.Detector
import LinkLocal.Duration
import LinkLocal.Engine
import LinkLocal.Error
import LinkLocal.Host
import LinkLocal.Host.Stream
import LinkLocal.IPv4
import LinkLocal.Json.Blank
import LinkLocal.Json.Document
import LinkLocal.Json.Fault
import LinkLocal.Json.Number
import LinkLocal.Json.Quoted
import LinkLocal.LinkAddress
import LinkLocal.Main
import LinkLocal.Notice
import LinkLocal.Queue
import LinkLocal.Registry
import LinkLocal.Scripted
import LinkLocal.Selector
import LinkLocal.Simulation.Detection
import LinkLocal.Simulation.Link
import LinkLocal.Simulation.Network
import LinkLocal.Simulation.PacketLog
import LinkLocal.Simulation.Timer
import LinkLocal.Table
import LinkLocal.Text.Blank
import LinkLocal.Text.Numeral
import LinkLocal.Transport
import LinkLocal.Proofs.Network.Frame
import LinkLocal.Proofs.Network.Moves
import LinkLocal.Proofs.Network.Kept
import LinkLocal.Proofs.Network.Conduct
import LinkLocal.Proofs.Network.Happening
import LinkLocal.Proofs.Host.Keeping
import LinkLocal.Proofs.Segment
import LinkLocal.Proofs.Segment.Duplicate
import LinkLocal.Proofs.Network.Findings
import LinkLocal.Proofs.Segment.Overtaking
import LinkLocal.Proofs.Host.Agreement
import LinkLocal.Proofs.Segment.Serving
import LinkLocal.Proofs.Segment.Answering
import LinkLocal.Proofs.Generator.Turn
import LinkLocal.Proofs.Generator.Fold
import LinkLocal.Proofs.Selector.Uniform
import LinkLocal.Proofs.Network.Timing
import LinkLocal.Proofs.Network.Marks
import LinkLocal.Proofs.Network.Strokes
import LinkLocal.Proofs.Network.Attention
import LinkLocal.Proofs.Host.Starting
import LinkLocal.Proofs.Segment.Wakeup
import LinkLocal.Proofs.Selector.Candidates
import LinkLocal.Proofs.Host.Search
import LinkLocal.Proofs.Segment.FirstFree
import LinkLocal.Proofs.Host.Chapters
import LinkLocal.Proofs.Host.Telling
import LinkLocal.Proofs.Host.Orders
import LinkLocal.Proofs.Segment.Story
import LinkLocal.Proofs.Host.Takings
import LinkLocal.Proofs.Host.Record
import LinkLocal.Proofs.Host.Lasting
import LinkLocal.Proofs.Host.Seeded
import LinkLocal.Proofs.Host.Accounting
import LinkLocal.Proofs.Host.Stray
import LinkLocal.Proofs.Host.Refusal
import LinkLocal.Proofs.Segment.Holdings
import LinkLocal.Proofs.Segment.Attending
import LinkLocal.Proofs.Segment.CarrierLoss
import LinkLocal.Proofs.Network.Waiting
import LinkLocal.Proofs.Segment.Readiness
import LinkLocal.Proofs.Selector.Repeats
import LinkLocal.Proofs.Host.Advancing
import LinkLocal.Proofs.Generator.HalfTurn
import LinkLocal.Proofs.Daemon.Acceptance
import LinkLocal.Proofs.Daemon.Neighbours
import LinkLocal.Proofs.Generator.Echo
import LinkLocal.Proofs.Selector.Merging
import LinkLocal.Proofs.Network.Traffic
import LinkLocal.Proofs.Network.Defense
import LinkLocal.Proofs.Host.Guarding
import LinkLocal.Proofs.Segment.Defense
import LinkLocal.Proofs.Network.Sparing
import LinkLocal.Proofs.Host.Unrefused
import LinkLocal.Proofs.Segment.Unrefused
import LinkLocal.Proofs.Network.Likeness
import LinkLocal.Proofs.Segment.Interference
import LinkLocal.Proofs.Selector.Exact
import LinkLocal.Proofs.Written.Configuration
import LinkLocal.Proofs.Segment.Claiming
import LinkLocal.Proofs.Host.Lockstep
import LinkLocal.Proofs.Network.Twins
import LinkLocal.Proofs.Network.Lull
import LinkLocal.Proofs.Host.Polling
import LinkLocal.Proofs.Host.Tending
import LinkLocal.Proofs.Host.Listening
import LinkLocal.Proofs.Segment.Streaming
import LinkLocal.Proofs.Written.ColonHex
import LinkLocal.Proofs.Segment.Refusing
import LinkLocal.Proofs.Text.ByteOrder
import LinkLocal.Proofs.Registry
