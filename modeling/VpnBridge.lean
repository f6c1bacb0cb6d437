import VpnBridge.Core.ByteReader
import VpnBridge.Core.Checks
import VpnBridge.Core.Interaction
import VpnBridge.Core.TransitionSystem
import VpnBridge.Core.Environment
import VpnBridge.Core.Pool
import VpnBridge.Core.TaskSystem
import VpnBridge.Core.PrefixCode
import VpnBridge.Core.PrefixTable
import VpnBridge.Core.Cut
import VpnBridge.Core.Pipeline
import VpnBridge.Core.Draining
import VpnBridge.Core.Fairness
import VpnBridge.Core.BoundedQueue
import VpnBridge.Core.FileTree
import VpnBridge.Net.Address
import VpnBridge.Net.IpNet
import VpnBridge.Net.Parse
import VpnBridge.Net.Destination
import VpnBridge.Proto.Text
import VpnBridge.Proto.Characters
import VpnBridge.Proto.Wire
import VpnBridge.Proto.RequestCodec
import VpnBridge.Proto.ResponseCodec
import VpnBridge.Proto.Truncation
import VpnBridge.Proto.Datagram
import VpnBridge.Server.Config
import VpnBridge.Server.Handler
import VpnBridge.Server.Session
import VpnBridge.Server.HandlerRuns
import VpnBridge.Server.Authorization
import VpnBridge.Server.MappedAddress
import VpnBridge.Server.Authentication
import VpnBridge.Server.Verdict
import VpnBridge.Server.Chances
import VpnBridge.Server.Commands
import VpnBridge.Server.Certificate
import VpnBridge.Server.Identity
import VpnBridge.Server.Accept
import VpnBridge.Host.Tunnel
import VpnBridge.Host.Handshake
import VpnBridge.Host.Connect
import VpnBridge.Host.Dns
import VpnBridge.Host.DnsRuns
import VpnBridge.Client.Config
import VpnBridge.Client.Transport
import VpnBridge.Client.Steps
import VpnBridge.Client.SlotInvariant
import VpnBridge.Client.QuicSlot
import VpnBridge.Client.Sharing
import VpnBridge.Client.Window
import VpnBridge.Client.SuppressionWindow
import VpnBridge.Client.FallbackCause
import VpnBridge.Client.Refusal
import VpnBridge.Client.Deletion
import VpnBridge.Client.Liveness
import VpnBridge.Client.Availability
import VpnBridge.Host.Config
import VpnBridge.Host.Route
import VpnBridge.Host.NextHop
import VpnBridge.Host.RouteRuns
import VpnBridge.Host.Cleanup
import VpnBridge.Host.Capture
import VpnBridge.Host.Exclude
import VpnBridge.Client.Route
import VpnBridge.Client.Steering
import VpnBridge.Grpc.Pumps
import VpnBridge.Grpc.Tunnel
import VpnBridge.Grpc.Delivery
import VpnBridge.Grpc.Download
import VpnBridge.Grpc.Entry
import VpnBridge.Grpc.Hop
import VpnBridge.Grpc.Backlog
import VpnBridge.Grpc.Progress
import VpnBridge.Relay.UdpClient
import VpnBridge.Relay.UdpServer
import VpnBridge.Relay.UdpBridge
import VpnBridge.Relay.TcpIdle
import VpnBridge.Relay.TcpHalfClose
import VpnBridge.Relay.Deadline
import VpnBridge.Relay.Splice
import VpnBridge.Relay.TcpLine
import VpnBridge.Relay.TcpBacklog
import VpnBridge.Relay.TcpProgress
import VpnBridge.Relay.Dispatch
