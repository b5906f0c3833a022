import Rstun.Base.Run
import Rstun.Base.Weights
import Rstun.Base.Exclusive
import Rstun.Base.BigEndian
import Rstun.Base.HistoryCodec
import Rstun.Codec.Lru
import Rstun.Codec.Tasks
import Rstun.Codec.Flow
import Rstun.Codec.Host
import Rstun.Codec.Net
import Rstun.Codec.Agreement
import Rstun.Codec.Naming
import Rstun.Codec.Conduct
import Rstun.Codec.Sync
import Rstun.Codec.Isolation
import Rstun.Base.Select
import Rstun.Tunnel.Waiting
import Rstun.Tunnel.UdpOut
import Rstun.Tunnel.TcpOut
import Rstun.Tunnel.Target
import Rstun.Base.Framing
import Rstun.Control.Message
import Rstun.Client.Endpoint
import Rstun.Client.Stop
import Rstun.Client.Resting
import Rstun.Control.Egress
import Rstun.Control.Session
import Rstun.Tunnel.Relay
import Rstun.Udp.Channel
import Rstun.Udp.Cleanup
import Rstun.Base.Scan
import Rstun.Http.Header
import Rstun.Http.Reader
import Rstun.Http.Framing
import Rstun.Http.Messages
import Rstun.Http.Limits
import Rstun.Events.Bus
import Rstun.Client.Monitor
import Rstun.Client.Lifecycle
import Rstun.Client.Traffic
import Rstun.Udp.Datagrams
import Rstun.Base.XorShift
import Rstun.Codec.RandId
import Rstun.Tunnel.Format
import Rstun.Udp.Frames
import Rstun.Tunnel.Progress
import Rstun.Tunnel.Receivers
import Rstun.Udp.Reservation
import Rstun.Base.Parser
import Rstun.Config.Addr
import Rstun.Config.Create
import Rstun.Config.ServerAddr
import Rstun.Config.Transport
import Rstun.Config.Trust
import Rstun.Codec.IdleTimeout
import Rstun.Codec.Handshake
import Rstun.Codec.HttpStream
import Rstun.Control.Wire
import Rstun.Control.Exchange
import Rstun.Control.TcpIn
import Rstun.Control.UdpIn
import Rstun.Base.Timer
import Rstun.Control.Heartbeat
import Rstun.Control.Closing
import Rstun.Client.Connecting
import Rstun.Tunnel.EndToEnd
import Rstun.Tunnel.Shared
import Rstun.Udp.Release
import Rstun.Codec.Mixed
import Rstun.Codec.Stats
