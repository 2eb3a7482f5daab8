import Civitas.Aggregation
import Civitas.Audit.JsonlFileSink
import Civitas.Base64
import Civitas.BoundedCache
import Civitas.Calendar
import Civitas.CountTable
import Civitas.Decimal
import Civitas.Discovery.Announcements
import Civitas.Discovery.Announcers
import Civitas.Discovery.Listeners
import Civitas.Discovery.LocalRegistry
import Civitas.Discovery.Ownership
import Civitas.Discovery.RemoteSafety
import Civitas.Discovery.Returning
import Civitas.Discovery.RouteKeys
import Civitas.Dynamic.Broadcasts
import Civitas.Dynamic.Budgets
import Civitas.Dynamic.Changes
import Civitas.Dynamic.ExitIsolation
import Civitas.Dynamic.FailedSpawns
import Civitas.Dynamic.FailedStarts
import Civitas.Dynamic.Finality
import Civitas.Dynamic.Lineage
import Civitas.Dynamic.Observations
import Civitas.Dynamic.Publication
import Civitas.Dynamic.Quotas
import Civitas.Dynamic.Removal
import Civitas.Dynamic.Removals
import Civitas.Dynamic.Requests
import Civitas.Dynamic.Resolution
import Civitas.Dynamic.Roster
import Civitas.Dynamic.Routes
import Civitas.Dynamic.Routing
import Civitas.Dynamic.SpawnCopies
import Civitas.Dynamic.SpawnReplies
import Civitas.Dynamic.SpawnerIdentity
import Civitas.Dynamic.State
import Civitas.Dynamic.Step
import Civitas.Dynamic.Tracking
import Civitas.EvalLoop
import Civitas.ExpositionFormat
import Civitas.FirstRows
import Civitas.Flights
import Civitas.Forest
import Civitas.Gateway.Arrivals
import Civitas.Gateway.BodyReading
import Civitas.Gateway.ControlPlane
import Civitas.Gateway.Dispatch
import Civitas.Gateway.FrameworkTypes
import Civitas.Gateway.HttpExchange
import Civitas.Gateway.Introspection
import Civitas.Gateway.RateLimiting
import Civitas.Gateway.RouteAuthorization
import Civitas.Gateway.RouteMatching
import Civitas.Gateway.RouteTable
import Civitas.Gateway.ServerIntent
import Civitas.Gateway.Surfaces
import Civitas.Gateway.TopologyAgent
import Civitas.Gateway.TopologyRequests
import Civitas.Gateway.WebSocketRelay
import Civitas.Lifecycle.Checkpoints
import Civitas.Lifecycle.Dispatching
import Civitas.Lifecycle.Gating
import Civitas.Lifecycle.LastRequest
import Civitas.Lifecycle.Marker
import Civitas.Lifecycle.Startup
import Civitas.Lifecycle.Suspension
import Civitas.ObjectHeap
import Civitas.Observability.Agreement
import Civitas.Observability.PrometheusExport
import Civitas.Observability.SpanExport
import Civitas.Observability.SpanStores
import Civitas.Observability.TraceTree
import Civitas.Observability.WindowFiles
import Civitas.Plugins.EncryptedStore
import Civitas.PyText
import Civitas.PyValue
import Civitas.Security.Decoding
import Civitas.Security.FrameworkTraffic
import Civitas.Security.ReplayProtection
import Civitas.Security.ReservedTypes
import Civitas.Security.SenderAuthenticity
import Civitas.Security.ShortWire
import Civitas.Security.Signing
import Civitas.SlidingWindow
import Civitas.Streaming.ControlFrames
import Civitas.Streaming.Frames
import Civitas.Streaming.Integrity
import Civitas.Streaming.SinkDiscipline
import Civitas.Streaming.Terminators
import Civitas.Supervision.Backlog
import Civitas.Supervision.CrashEvents
import Civitas.Supervision.Escalation
import Civitas.Supervision.Heartbeats
import Civitas.Supervision.Mailbox
import Civitas.Supervision.MailboxWaits
import Civitas.Supervision.Positions
import Civitas.Supervision.RestartEngine
import Civitas.Supervision.RestartSets
import Civitas.Supervision.Stopping
import Civitas.Supervision.Tree
import Civitas.Topology.Config
import Civitas.Topology.EmptyDiff
import Civitas.Topology.Flattening
import Civitas.Topology.ProcessSplit
import Civitas.Topology.Refinement
import Civitas.Topology.Sections
import Civitas.Topology.ValidatedLoading
import Civitas.Topology.Validation
import Civitas.Transition
import Civitas.Transport.Addresses
import Civitas.Transport.ReceivePath
import Civitas.Transport.ReceiverLoop
import Civitas.Transport.Replies
import Civitas.Transport.Subscriptions
import Civitas.Wire.Carriage
import Civitas.Wire.Json
import Civitas.Wire.Msgpack
import Civitas.Wire.Objects
import Civitas.Wire.SignedEnvelopes
