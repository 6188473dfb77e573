import Telemetry.Agent.Collector
import Telemetry.Agent.Host
import Telemetry.Agent.Run
import Telemetry.Audit.Event
import Telemetry.Audit.Publisher
import Telemetry.Bytes
import Telemetry.Compression.Bits
import Telemetry.Compression.Crc32
import Telemetry.Compression.Gzip
import Telemetry.Compression.Inflate
import Telemetry.Compression.PrefixCode
import Telemetry.Compression.Stored
import Telemetry.Digest.Sha256
import Telemetry.Dispatch.Order
import Telemetry.Dispatch.Run
import Telemetry.Dispatch.State
import Telemetry.Dispatch.Turn
import Telemetry.Files.Path
import Telemetry.Files.Tree
import Telemetry.Http.Message
import Telemetry.Http.Page
import Telemetry.Http.Server
import Telemetry.Http.Target
import Telemetry.Json.Fault
import Telemetry.Json.Number
import Telemetry.Json.Reader
import Telemetry.Json.Record
import Telemetry.Json.Scan
import Telemetry.Json.Skip
import Telemetry.Json.Style
import Telemetry.Json.Writer
import Telemetry.Metric
import Telemetry.Metric.Json
import Telemetry.Network.Address
import Telemetry.Network.Caller
import Telemetry.Network.Subnet
import Telemetry.Number.Binary64
import Telemetry.Number.Format
import Telemetry.Number.Reading
import Telemetry.Number.Shortest
import Telemetry.Payload
import Telemetry.Pool
import Telemetry.Proofs.Agent.Counters
import Telemetry.Proofs.Agent.Mirror
import Telemetry.Proofs.Agent.Polls
import Telemetry.Proofs.Agent.Reports
import Telemetry.Proofs.Agent.Runs
import Telemetry.Proofs.Agent.Timetable
import Telemetry.Proofs.Audit
import Telemetry.Proofs.Dispatch.Counts
import Telemetry.Proofs.Dispatch.Fates
import Telemetry.Proofs.Dispatch.Guarantees
import Telemetry.Proofs.Dispatch.History
import Telemetry.Proofs.Dispatch.Jobs
import Telemetry.Proofs.Dispatch.Moves
import Telemetry.Proofs.Dispatch.Parts
import Telemetry.Proofs.Dispatch.Quiet
import Telemetry.Proofs.Dispatch.Settle
import Telemetry.Proofs.Dispatch.Steady
import Telemetry.Proofs.Dispatch.Turns
import Telemetry.Proofs.Entries
import Telemetry.Proofs.Files
import Telemetry.Proofs.Http.Authentic
import Telemetry.Proofs.Service.Steps
import Telemetry.Proofs.Service.Update
import Telemetry.Proofs.Snapshot
import Telemetry.Proofs.Store.History
import Telemetry.Proofs.Store.Listing
import Telemetry.Proofs.Text.Encoding
import Telemetry.Repository
import Telemetry.Retry
import Telemetry.Rpc.Endpoint
import Telemetry.Rpc.Entry
import Telemetry.Rpc.Fields
import Telemetry.Rpc.Server
import Telemetry.Rpc.Varint
import Telemetry.Sealing.Base64
import Telemetry.Sealing.Block
import Telemetry.Sealing.Der
import Telemetry.Sealing.Key
import Telemetry.Sealing.Payload
import Telemetry.Sealing.Pem
import Telemetry.Sending.Delivery
import Telemetry.Sending.Http
import Telemetry.Sending.Rpc
import Telemetry.Sending.Sender
import Telemetry.Service
import Telemetry.Service.Interleaving
import Telemetry.Settings.Agent
import Telemetry.Settings.Environment
import Telemetry.Settings.Error
import Telemetry.Settings.File
import Telemetry.Settings.Server
import Telemetry.Signature
import Telemetry.Snapshot
import Telemetry.Snapshot.Loop
import Telemetry.Snapshot.Sharing
import Telemetry.Store
import Telemetry.Text.Blank
import Telemetry.Text.CodeRange
import Telemetry.Text.LetterCase
import Telemetry.Text.Pieces
import Telemetry.Text.Quoted
import Telemetry.Text.Unshown
import Telemetry.TimeSpan
import Telemetry.World
import Telemetry.Proofs.Service.Accounts
import Telemetry.Proofs.Service.Concurrent
import Telemetry.Proofs.Service.Replica
import Telemetry.Proofs.Bytes
import Telemetry.Proofs.Compression.Gzip
import Telemetry.Proofs.Sealing.Block
import Telemetry.Proofs.Sealing.Payload
import Telemetry.Proofs.Number.Rounding
import Telemetry.Proofs.Signature
import Telemetry.Proofs.Number.Shortest
import Telemetry.Proofs.Json.Scaling
import Telemetry.Proofs.Number.Digits
import Telemetry.Proofs.Json.Number
import Telemetry.Proofs.Json.NumberText
import Telemetry.Proofs.Json.Text
import Telemetry.Proofs.Json.Record
import Telemetry.Proofs.Metric.Json
import Telemetry.Proofs.Sending.Arrival
import Telemetry.Proofs.Service.Alone
import Telemetry.Proofs.Network.Subnet
import Telemetry.Proofs.Network.Address
import Telemetry.Proofs.Rpc.Trusted
import Telemetry.Proofs.Service.FrontEnds
import Telemetry.Proofs.Number.Nearest
import Telemetry.Proofs.Json.Exact
import Telemetry.Proofs.Number.Drift
import Telemetry.Proofs.Json.Drift
import Telemetry.Proofs.Metric.RoundTrip
import Telemetry.Proofs.Snapshot.RoundTrip
import Telemetry.Proofs.Snapshot.Load
import Telemetry.Proofs.Snapshot.Schedule
import Telemetry.Proofs.Snapshot.Sharing
import Telemetry.Proofs.Retry
import Telemetry.Proofs.Rpc.Wire
import Telemetry.Proofs.Rpc.Merge
import Telemetry.Proofs.Audit.Lines
import Telemetry.Proofs.Audit.Offers
import Telemetry.Proofs.Audit.Handles
import Telemetry.Proofs.Audit.History
import Telemetry.Proofs.Json.Extent
import Telemetry.Proofs.Json.TwoShapes
import Telemetry.Proofs.Settings.Agreement
import Telemetry.Proofs.Compression.Limits
import Telemetry.Proofs.Pool
import Telemetry.Proofs.Payload
import Telemetry.Proofs.Sending.Delivery
import Telemetry.Proofs.Sending.Posting
import Telemetry.Proofs.Rpc.Rereading
import Telemetry.Proofs.Sealing.Opening
import Telemetry.Proofs.TimeSpan
import Telemetry.Proofs.Number.PlainText
import Telemetry.Proofs.Http.Segments
import Telemetry.Proofs.Http.ReadBack
import Telemetry.Proofs.Http.Signed
import Telemetry.Proofs.Http.Page
import Telemetry.Proofs.Json.Alone
import Telemetry.Proofs.Json.Layout
import Telemetry.Proofs.Json.Gathered
import Telemetry.Proofs.Json.Differing
import Telemetry.Proofs.Settings.Overridden
