import UefiNetstack.Lib.Words
import UefiNetstack.Lib.Memory
import UefiNetstack.Lib.OnesComplement
import UefiNetstack.Lib.InternetChecksum
import UefiNetstack.Lib.InOrder
import UefiNetstack.Lib.LastWrite
import UefiNetstack.Lib.Tlv
import UefiNetstack.Lib.Fifo
import UefiNetstack.Lib.Custody
import UefiNetstack.Lib.Countdown
import UefiNetstack.Lib.Relay
import UefiNetstack.Types
import UefiNetstack.RoundTrip
import UefiNetstack.Constants
import UefiNetstack.NetMath
import UefiNetstack.Checksum
import UefiNetstack.ArpCache
import UefiNetstack.Arp.Fifo
import UefiNetstack.Globals
import UefiNetstack.Core.SendRaw
import UefiNetstack.Core.Senders
import UefiNetstack.Protocols
import UefiNetstack.Frames.WellFormed
import UefiNetstack.Core.Handlers
import UefiNetstack.Frames.Emitted
import UefiNetstack.Core.Tcp
import UefiNetstack.Core.Poll
import UefiNetstack.Core.Cases
import UefiNetstack.Session.Dispatch
import UefiNetstack.Api.Loops
import UefiNetstack.Api.Tcp
import UefiNetstack.Api.Datagram
import UefiNetstack.Api.Http
import UefiNetstack.Api.Init
import UefiNetstack.Session.Reaction
import UefiNetstack.Session.Moves
import UefiNetstack.Session.Segment
import UefiNetstack.Session.Isolation
import UefiNetstack.Session.Peer
import UefiNetstack.Session.Stream
import UefiNetstack.Session.Sender
import UefiNetstack.Dhcp.Scan
import UefiNetstack.Dhcp.Loop
import UefiNetstack.Dhcp.Handshake
import UefiNetstack.Dhcp.ServerId
import UefiNetstack.Dhcp.Transaction
import UefiNetstack.Dhcp.Provenance
import UefiNetstack.Dns.Message
import UefiNetstack.Dns.Response
import UefiNetstack.Dns.Lost
import UefiNetstack.Reception.Frame
import UefiNetstack.Reception.Settled
import UefiNetstack.Reception.Stale
import UefiNetstack.Dns.Bounds
import UefiNetstack.Exchange.Delivery
import UefiNetstack.Exchange.Ping
import UefiNetstack.Exchange.Arp
import UefiNetstack.Buffers.Ownership
import UefiNetstack.Buffers.Copies
import UefiNetstack.Session.Acts
import UefiNetstack.Session.Initialization
import UefiNetstack.Buffers.Bounds
import UefiNetstack.Buffers.Receive
import UefiNetstack.Buffers.Payload
import UefiNetstack.Session.Refused
import UefiNetstack.Exchange.Datagram
import UefiNetstack.Exchange.Chunks
import UefiNetstack.Exchange.Stream
import UefiNetstack.Session.Flags
import UefiNetstack.Session.Received
import UefiNetstack.Session.Calls
import UefiNetstack.Session.Lifecycle
import UefiNetstack.Session.Fin
import UefiNetstack.Session.Handshake
import UefiNetstack.Session.Failure
import UefiNetstack.Dns.Query
import UefiNetstack.Dns.Qname
import UefiNetstack.Reception.Taken
import UefiNetstack.Reception.Unchecked
import UefiNetstack.Reception.Acceptance
import UefiNetstack.Buffers.Datagram
import UefiNetstack.Buffers.Segment
import UefiNetstack.Dhcp.Reference
import UefiNetstack.Buffers.Echo
import UefiNetstack.Exchange.Echo
import UefiNetstack.Exchange.Reply
import UefiNetstack.Exchange.Storm
import UefiNetstack.Arp.Gateway
import UefiNetstack.Arp.Coherence
import UefiNetstack.Dns.Authentic
import UefiNetstack.Timing.Cadence
import UefiNetstack.Timing.DhcpCadence
import UefiNetstack.Timing.Waits
import UefiNetstack.Http.Request
import UefiNetstack.Http.Response
import UefiNetstack.Dhcp.Failure
import UefiNetstack.Network.Neighbours
import UefiNetstack.Session.Unread
import UefiNetstack.Reception.Interleaving
import UefiNetstack.Programs.Shown
import UefiNetstack.Network.Conformance
import UefiNetstack.Timing.Costs
import UefiNetstack.Timing.Budgets
import UefiNetstack.Programs.Bounded
import UefiNetstack.Outcomes.Inbox
import UefiNetstack.Outcomes.Datagram
import UefiNetstack.Outcomes.Tcp
import UefiNetstack.Outcomes.Initialization
import UefiNetstack.Session.Related
import UefiNetstack.Session.Transmitter
