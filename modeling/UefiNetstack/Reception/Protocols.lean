import UefiNetstack.Reception.Stale
import UefiNetstack.Network.Emission

namespace UefiNetstack
open Constants Memory NetStack

inductive Protocol where
  | arp
  | icmp
  | udp
  | tcp
deriving DecidableEq

/-- The handler that the dispatcher calls for two header fields. -/
def Protocol.ofFields (type : UINT16) (protocol : UINT8) : Option Protocol :=
  if type = htons ethertypeArp then some .arp
  else if type = htons ethertypeIpv4 then
    if protocol = ipProtoIcmp then some .icmp
    else if protocol = ipProtoUdp then some .udp
    else if protocol = ipProtoTcp then some .tcp
    else none
  else none

/-- The protocol of a frame on the wire. -/
def frameProtocol (frame : Bytes) : Option Protocol :=
  Protocol.ofFields (EthHdr.read (ofBytes frame) 0).type (frameIp frame).protocol

/-- What a frame says to its receiver. Of an IPv4 packet the addresses and the payload count, and neither the MAC
of the router nor the random id does. -/
inductive Content where
  | whole (frame : Bytes)
  | packet (saddr daddr : UINT32) (payload : Bytes)
deriving DecidableEq

def frameContent (frame : Bytes) : Content :=
  if frameProtocol frame = some .arp then .whole frame
  else .packet (frameIp frame).saddr (frameIp frame).daddr (frameSegment frame)

section Parts

variable {s : NetStack} {eth : EthHdr} {ip : IpHdr} {rest : Bytes}

theorem frameProtocol_ip :
    frameProtocol (s.unicastEth.bytes ++ ip.bytes ++ rest) = Protocol.ofFields (htons ethertypeIpv4) ip.protocol := by
  have eth : EthHdr.read (ofBytes (s.unicastEth.bytes ++ ip.bytes ++ rest)) 0 = s.unicastEth := by
    rw [List.append_assoc]
    exact frameEth_parts
  rw [frameProtocol, eth, frameIp_parts]
  rfl

theorem frameProtocol_arp (type : eth.type = htons ethertypeArp) : frameProtocol (eth.bytes ++ rest) = some .arp := by
  rw [frameProtocol, frameEth_parts, type]
  exact if_pos rfl

theorem frameContent_ip :
    frameContent (s.unicastEth.bytes ++ ip.bytes ++ rest) = .packet ip.saddr ip.daddr rest := by
  have notArp : frameProtocol (s.unicastEth.bytes ++ ip.bytes ++ rest) ≠ some .arp := by
    have types : htons ethertypeIpv4 ≠ htons ethertypeArp := by decide
    rw [frameProtocol_ip, Protocol.ofFields, if_neg types, if_pos rfl]
    split_ifs
    all_goals simp
  rw [frameContent, if_neg notArp, frameIp_parts, frameSegment_parts]

end Parts

namespace NetStack

/-- The contents of the frames that a protocol has sent, in order. -/
def transcript (protocol : Protocol) (s : NetStack) : List Content :=
  (s.sent.filter fun frame => frameProtocol frame = some protocol).map frameContent

/-- What the protocols share and no poll changes: the addresses and how much is mapped behind the page. -/
def context (s : NetStack) : Identity × Nat := ({ s.identity with routerMac := ByteArr.zero 6 }, s.rxPkt.limit)

end NetStack

/-- What a protocol has. -/
def Protocol.View : Option Protocol → Type
  | some .arp => Mac × ArpResolution × ArpCache × List Content
  | some .icmp => PingState × List Content
  | some .udp => UdpReceiver × DnsResolution × List Content
  | some .tcp => TcpSession × Bytes × List Content
  | none => Unit

def NetStack.view (protocol : Option Protocol) (s : NetStack) : Protocol.View protocol :=
  match protocol with
  | some .arp => (s.identity.routerMac, s.arp, s.arpCache, s.transcript .arp)
  | some .icmp => (s.ping, s.transcript .icmp)
  | some .udp => (s.udp, s.dns, s.transcript .udp)
  | some .tcp => (s.tcp, s.tcpDelivered, s.transcript .tcp)
  | none => ()

namespace NetStack

variable {s s' : NetStack}

theorem transcript_congr (protocol : Protocol) (sent : s'.sent = s.sent) :
    s'.transcript protocol = s.transcript protocol := by
  rw [transcript, sent, transcript]

/-- A log of no frame. -/
theorem log_silent (s : NetStack) {event : Event} (silent : event.frame? = none) : (s.log event).sent = s.sent := by
  simp [sent, log, silent]

/-- A log that no protocol looks at. -/
theorem view_log (protocol : Option Protocol) (s : NetStack) {event : Event} (silent : event.frame? = none)
    (noCopy : event.tcpBytes = []) : (s.log event).view protocol = s.view protocol := by
  have sent (other : Protocol) := transcript_congr other (s.log_silent silent)
  have delivered : (s.log event).tcpDelivered = s.tcpDelivered := by
    simp [tcpDelivered, log, noCopy]
  cases protocol with
  | none => rfl
  | some protocol =>
      cases protocol with
      | arp => exact Prod.ext rfl (Prod.ext rfl (Prod.ext rfl (sent .arp)))
      | icmp => exact Prod.ext rfl (sent .icmp)
      | udp => exact Prod.ext rfl (Prod.ext rfl (sent .udp))
      | tcp => exact Prod.ext rfl (Prod.ext delivered (sent .tcp))

/-- A frame goes to the transcript of its protocol. -/
theorem sendFrame_transcript (data : TxFrame) (s : NetStack) (protocol : Protocol) :
    (s.sendFrame data).transcript protocol = s.transcript protocol ++
      if frameProtocol data.bytes = some protocol then [frameContent data.bytes] else [] := by
  rw [transcript, sendFrame_sent, List.filter_append, List.map_append, transcript]
  split
  · rename_i own
    rw [List.filter_cons_of_pos (by simpa using own)]
    rfl
  · rename_i other
    rw [List.filter_cons_of_neg (by simpa using other)]
    rfl

theorem arpReplyFrame_protocol (s : NetStack) (arp : ArpHdr) : frameProtocol (s.arpReplyFrame arp) = some .arp :=
  frameProtocol_arp rfl

theorem icmpReplyFrame_protocol (s : NetStack) (saddr : UINT32) (message : Bytes) (random : UINT32) :
    frameProtocol (s.icmpReplyFrame saddr message random) = some .icmp := by
  unfold icmpReplyFrame
  rw [frameProtocol_ip]
  change Protocol.ofFields (htons ethertypeIpv4) ipProtoIcmp = some .icmp
  decide

theorem icmpReplyFrame_content (s : NetStack) (saddr : UINT32) (message : Bytes) (random : UINT32) :
    frameContent (s.icmpReplyFrame saddr message random) = .packet s.identity.myIp saddr (icmpReply message) := by
  unfold icmpReplyFrame
  rw [frameContent_ip]
  rfl

theorem tcpFrame_protocol (s : NetStack) (flags : UINT8) (seq ack : UINT32) (data : Bytes) (random : UINT32) :
    frameProtocol (s.tcpFrame flags seq ack data random) = some .tcp := by
  unfold tcpFrame
  rw [frameProtocol_ip]
  change Protocol.ofFields (htons ethertypeIpv4) ipProtoTcp = some .tcp
  decide

/-- The content of a segment depends on the session and the own address only. -/
theorem tcpFrame_content {s t : NetStack} (myIp : t.identity.myIp = s.identity.myIp) (tcp : t.tcp = s.tcp)
    (flags : UINT8) (seq ack : UINT32) (data : Bytes) (random random' : UINT32) :
    frameContent (t.tcpFrame flags seq ack data random') = frameContent (s.tcpFrame flags seq ack data random) := by
  unfold tcpFrame
  dsimp only
  rw [frameContent_ip, frameContent_ip]
  simp only [tcpSegment, ipHeader, myIp, tcp]

end NetStack
end UefiNetstack
