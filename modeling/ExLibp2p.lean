import ExLibp2p.Data.Machine
import ExLibp2p.Data.Component
import ExLibp2p.Data.Dict
import ExLibp2p.Data.KeyList
import ExLibp2p.Data.Label
import ExLibp2p.Data.Tally
import ExLibp2p.Data.Bytes
import ExLibp2p.Data.Cursor
import ExLibp2p.Data.Fields
import ExLibp2p.Data.Audited
import ExLibp2p.Data.Base58
import ExLibp2p.Data.Oneshot
import ExLibp2p.Data.OnceLock
import ExLibp2p.Data.FileSystem
import ExLibp2p.Data.Disk
import ExLibp2p.Data.SeenCache
import ExLibp2p.Data.SipHash
import ExLibp2p.Data.Grouping
import ExLibp2p.Data.Exposition
import ExLibp2p.Data.Segments
import ExLibp2p.Data.Script
import ExLibp2p.Data.Conduit
import ExLibp2p.Erlang.Term
import ExLibp2p.PeerId
import ExLibp2p.Native.Policy
import ExLibp2p.Native.PeerId
import ExLibp2p.Native.DhtState
import ExLibp2p.Native.DhtState.Grammar
import ExLibp2p.Native.DhtState.RoundTrip
import ExLibp2p.Native.DhtState.Truncation
import ExLibp2p.Native.DhtState.Audit
import ExLibp2p.Native.Config
import ExLibp2p.Native.ConnectionLimits
import ExLibp2p.Native.Events
import ExLibp2p.Native.Command
import ExLibp2p.Native.Nif
import ExLibp2p.Native.Identity
import ExLibp2p.Native.SwarmLoop
import ExLibp2p.Native.SwarmLoop.Pending
import ExLibp2p.Native.SwarmLoop.Ledger
import ExLibp2p.Native.SwarmLoop.Safety
import ExLibp2p.Native.SwarmLoop.Retention
import ExLibp2p.Native.RoutingTable
import ExLibp2p.Native.RoutingTable.History
import ExLibp2p.Native.RoutingTable.Import
import ExLibp2p.Native.RoutingTable.Snapshot
import ExLibp2p.Native.RoutingTable.Truncation
import ExLibp2p.Native.RoutingTable.Restore
import ExLibp2p.Native.CommandChannel
import ExLibp2p.Native.CommandChannel.Steps
import ExLibp2p.Native.CommandChannel.Ledger
import ExLibp2p.Native.CommandChannel.Protocol
import ExLibp2p.Native.CommandChannel.Shutdown
import ExLibp2p.Native.CommandChannel.Registration
import ExLibp2p.Native.CommandChannel.Messages
import ExLibp2p.Native.Gossipsub
import ExLibp2p.Native.GetRuntime
import ExLibp2p.Native.StartNode
import ExLibp2p.Native.StartNode.Outcome
import ExLibp2p.Keypair.Storage.File
import ExLibp2p.Keypair.Storage.Atomic
import ExLibp2p.Keypair.Storage.Cell
import ExLibp2p.Keypair.Storage.Writers
import ExLibp2p.Keypair.Storage.Overlap
import ExLibp2p.Keypair
import ExLibp2p.Keypair.Loads
import ExLibp2p.Node.Config
import ExLibp2p.Node.Config.Flattening
import ExLibp2p.Node.Config.Fields
import ExLibp2p.Node.Config.Getters
import ExLibp2p.Node.Config.Wiring
import ExLibp2p.Node.Config.Limits
import ExLibp2p.Node.Event
import ExLibp2p.Node.Dispatch
import ExLibp2p.Node.Names
import ExLibp2p.Node.Agreement
import ExLibp2p.Node.DiscoveryBatches
import ExLibp2p.Node.Crossing
import ExLibp2p.Node.Ops
import ExLibp2p.Node.Replies
import ExLibp2p.Node.HandlerRegistry
import ExLibp2p.Node.HandlerRegistry.Invariant
import ExLibp2p.Node.HandlerRegistry.Runs
import ExLibp2p.Node.HandlerRegistry.Refinement
import ExLibp2p.Node.HandlerRegistry.Mailbox
import ExLibp2p.Node.HandlerRegistry.Standing
import ExLibp2p.Node.HandlerRegistry.Nodes
import ExLibp2p.Node.HandlerRegistry.Subscribed
import ExLibp2p.Node.EventPath
import ExLibp2p.Node.EventPath.Connected
import ExLibp2p.Node.EventPath.Delivery
import ExLibp2p.Node.Shutdown
import ExLibp2p.Node.Start
import ExLibp2p.Node.Bringup
import ExLibp2p.Node.Persistence
import ExLibp2p.Call
import ExLibp2p.Health
import ExLibp2p.Health.Runs
import ExLibp2p.Otp.Distribution
import ExLibp2p.Otp.DistributionServer
import ExLibp2p.Otp.Calls
import ExLibp2p.Otp.Correlation
import ExLibp2p.Otp.HostileResponses
import ExLibp2p.Otp.RemoteCalls
import ExLibp2p.Otp.RemoteCalls.Steps
import ExLibp2p.Otp.RemoteCalls.Origins
import ExLibp2p.Otp.RemoteCalls.EndToEnd
import ExLibp2p.Otp.RemoteCalls.Once
import ExLibp2p.Otp.TaskTracker
import ExLibp2p.Otp.TaskTracker.Accounting
import ExLibp2p.Otp.TaskTracker.Lifecycle
import ExLibp2p.Otp.TaskTracker.Announcements
import ExLibp2p.Telemetry
import ExLibp2p.Telemetry.Counters
import ExLibp2p.Telemetry.Counters.Prometheus
import ExLibp2p.Telemetry.Counters.Exactness
import ExLibp2p.Client.Multiaddr
import ExLibp2p.Client
import ExLibp2p.Client.Reports
import ExLibp2p.Client.Bootstrap
import ExLibp2p.Native.StartNode
import ExLibp2p.Native.StartNode.Outcome
import ExLibp2p.Node.Bringup
