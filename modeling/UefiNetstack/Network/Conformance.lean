import UefiNetstack.Network.Clients
import UefiNetstack.Frames.Emitted
import UefiNetstack.Dhcp.Handshake

namespace UefiNetstack
open Constants Memory NetMath Words NetStack Relation

/-- The Ethernet header that a receiver finds in a frame. -/
def frameEth (frame : Bytes) : EthHdr := EthHdr.read (ofBytes frame) 0

/-- The ARP packet that a receiver finds in a frame. -/
def frameArp (frame : Bytes) : ArpHdr := ArpHdr.read (ofBytes frame) sizeofEthHdr

/-- An ARP packet for IPv4 over Ethernet, and nothing behind it. -/
structure ArpFormat (frame : Bytes) : Prop where
  type : (frameEth frame).type = htons ethertypeArp
  length : frame.length = sizeofEthHdr + sizeofArpHdr
  hardware : ntohs (frameArp frame).htype = arpHtypeEthernet ∧ (frameArp frame).hlen = arpHlenEthernet
  protocol : ntohs (frameArp frame).ptype = arpPtypeIpv4 ∧ (frameArp frame).plen = arpPlenIpv4

/-- An IPv4 header without options on a packet in one piece. -/
structure PlainIp (frame : Bytes) : Prop where
  type : (frameEth frame).type = htons ethertypeIpv4
  version : (frameIp frame).ihlVersion = ipVersionIhlDefault
  fragOff : (frameIp frame).fragOff = 0#16
  ttl : (frameIp frame).ttl = ipDefaultTtl

/-- An IPv4 packet from a host to its router. -/
structure FromHost (identity : Identity) (frame : Bytes) : Prop where
  plain : PlainIp frame
  saddr : (frameIp frame).saddr = identity.myIp
  router : (frameEth frame).dst = identity.routerMac

/-- An IPv4 packet from a host without an address to everyone. -/
structure FromNobody (frame : Bytes) : Prop where
  plain : PlainIp frame
  saddr : (frameIp frame).saddr = 0#32
  daddr : (frameIp frame).daddr = ipv4Broadcast
  everyone : (frameEth frame).dst = ethBroadcast

/-- The packets of a client, each with what a strict receiver checks. -/
inductive Packet (identity : Identity) (frame : Bytes) : Prop
  | arp (format : ArpFormat frame)
      (sender : (frameArp frame).sha = identity.myMac ∧ (frameArp frame).spa = identity.myIp)
      (oper : (ntohs (frameArp frame).oper = arpOperRequest ∧ (frameEth frame).dst = ethBroadcast) ∨
        (ntohs (frameArp frame).oper = arpOperReply ∧ (frameEth frame).dst = (frameArp frame).tha))
  | dhcp (host : FromNobody frame) (checks : DhcpWellFormed frame sizeofDhcpHdr)
      (ports : ntohs (frameUdp frame).source = udpPortDhcpClient ∧ ntohs (frameUdp frame).dest = udpPortDhcpServer)
      (client : (frameDhcp frame).op = dhcpOpRequest ∧
        (frameDhcp frame).chaddr = ByteArr.padded 16 identity.myMac.toList)
  | tcp (host : FromHost identity frame) (checks : TcpWellFormed frame) (port : ephemeralPortBase ≤ frameSource frame)
  | udp (host : FromHost identity frame) {payloadLen : Nat} (checks : UdpWellFormed frame payloadLen)
      (port : ephemeralPortBase ≤ ntohs (frameUdp frame).source)
  | icmp (host : FromHost identity frame) (checks : IcmpWellFormed frame)
      (echo : (frameSegment frame).head? = some icmpTypeEchoRequest ∨
        (frameSegment frame).head? = some icmpTypeEchoReply)
  | runt (host : FromHost identity frame) (checks : Ipv4WellFormed frame ipProtoIcmp)
      (short : (frameSegment frame).length < 4)

/-- A frame that fits the packet buffer, from the MAC of its sender. -/
structure Conforms (identity : Identity) (frame : Bytes) : Prop where
  source : (frameEth frame).src = identity.myMac
  size : frame.length ≤ maxPktSize
  packet : Packet identity frame

theorem frameEth_ipv4 {eth : EthHdr} {ip : IpHdr} {rest : Bytes} :
    frameEth (eth.bytes ++ ip.bytes ++ rest) = eth := by
  rw [List.append_assoc]
  exact frameEth_parts

theorem frameArp_parts {eth : EthHdr} {arp : ArpHdr} : frameArp (eth.bytes ++ arp.bytes) = arp := by
  have stored := ofBytes_bytesAt eth.bytes arp.bytes []
  rw [EthHdr.bytes_length, List.append_nil] at stored
  exact ArpHdr.read_stored stored

namespace NetStack

variable (t : NetStack)

/-- The two headers of a unicast packet name the host. -/
theorem fromHost_parts (protocol : UINT8) (payloadLen : Nat) (random daddr : UINT32) (rest : Bytes) :
    FromHost t.identity (t.unicastEth.bytes ++ (t.ipHeader protocol payloadLen random daddr).bytes ++ rest) ∧
      (frameEth (t.unicastEth.bytes ++ (t.ipHeader protocol payloadLen random daddr).bytes ++ rest)).src =
        t.identity.myMac := by
  have eth : frameEth (t.unicastEth.bytes ++ (t.ipHeader protocol payloadLen random daddr).bytes ++ rest) =
      t.unicastEth := frameEth_ipv4
  have ip : frameIp (t.unicastEth.bytes ++ (t.ipHeader protocol payloadLen random daddr).bytes ++ rest) =
      t.ipHeader protocol payloadLen random daddr := frameIp_parts
  refine ⟨⟨⟨?_, ?_, ?_, ?_⟩, ?_, ?_⟩, ?_⟩
  all_goals simp only [eth, ip]
  all_goals rfl

/-- An ARP packet of the stack for all or for one receiver. -/
theorem arp_conforms (dst tha : Mac) (oper : UINT16) (tpa : UINT32)
    (way : (oper = arpOperRequest ∧ dst = ethBroadcast) ∨ (oper = arpOperReply ∧ dst = tha)) :
    Conforms t.identity (EthHdr.bytes { dst, src := t.identity.myMac, type := htons ethertypeArp } ++ ArpHdr.bytes
      { htype := htons arpHtypeEthernet, ptype := htons arpPtypeIpv4, hlen := arpHlenEthernet, plen := arpPlenIpv4,
        oper := htons oper, sha := t.identity.myMac, spa := t.identity.myIp, tha, tpa }) := by
  have field (x : UINT16) : ntohs (htons x) = x := swap16_swap16 x
  constructor
  · rw [frameEth, frameEth_parts]
  · simp [maxPktSize]
  · apply Packet.arp
    · constructor
      · rw [frameEth, frameEth_parts]
      · simp [sizeofEthHdr, sizeofArpHdr]
      · rw [frameArp_parts, field]
        exact ⟨rfl, rfl⟩
      · rw [frameArp_parts, field]
        exact ⟨rfl, rfl⟩
    · rw [frameArp_parts]
      exact ⟨rfl, rfl⟩
    · rw [frameArp_parts, frameEth, frameEth_parts, field]
      exact way

/-- Every DHCP message is broadcast by a client without an address. -/
theorem dhcpFrame_conforms (type : UINT8) (xid : UINT32) : Conforms t.identity (t.dhcpFrame type xid) := by
  have field (x : UINT16) : ntohs (htons x) = x := swap16_swap16 x
  have message := dhcpFrame_header t type xid
  obtain ⟨frame, sent, formed⟩ := t.sendDhcp_emits type xid
  rw [sendDhcp_sent] at sent
  obtain rfl := List.singleton_inj.mp (List.append_cancel_left sent)
  have parts : t.dhcpFrame type xid = EthHdr.bytes
      { dst := ethBroadcast, src := t.identity.myMac, type := htons ethertypeIpv4 } ++ dhcpIpHeader.bytes ++
        (dhcpUdpHeader.bytes ++ (t.dhcpMessage type xid).bytes) := List.append_assoc _ _ _
  have eth : frameEth (t.dhcpFrame type xid) =
      { dst := ethBroadcast, src := t.identity.myMac, type := htons ethertypeIpv4 } := by
    rw [parts]
    exact frameEth_ipv4
  have ip : frameIp (t.dhcpFrame type xid) = dhcpIpHeader := by
    rw [parts]
    exact frameIp_parts
  have udp : frameUdp (t.dhcpFrame type xid) = dhcpUdpHeader := by
    rw [parts]
    exact frameUdp_parts
  constructor
  · rw [eth]
  · simp [maxPktSize]
  · apply Packet.dhcp _ formed
    · rw [udp]
      exact ⟨field _, field _⟩
    · rw [message]
      exact ⟨rfl, rfl⟩
    · refine ⟨⟨?_, ?_, ?_, ?_⟩, ?_, ?_, ?_⟩
      all_goals simp only [eth, ip]
      all_goals rfl

theorem tcpFrame_conforms (flags : UINT8) (seq ack : UINT32) {data : Bytes} (fits : data.length ≤ 1446) (random : UINT32)
    (port : ephemeralPortBase ≤ frameSource (t.tcpFrame flags seq ack data random)) :
    Conforms t.identity (t.tcpFrame flags seq ack data random) := by
  have parts : FromHost t.identity (t.tcpFrame flags seq ack data random) ∧
      (frameEth (t.tcpFrame flags seq ack data random)).src = t.identity.myMac := t.fromHost_parts ..
  obtain ⟨host, source⟩ := parts
  constructor
  · exact source
  · rw [tcpFrame_length, maxPktSize]
    omega
  · exact Packet.tcp host (t.tcpFrame_wellFormed flags seq ack data random fits) port

theorem udpFrame_conforms (destIp : UINT32) (destPort : UINT16) {srcPort : UINT16}
    (port : ephemeralPortBase ≤ srcPort) {data : Bytes} (fits : data.length ≤ 1458) (random : UINT32) :
    Conforms t.identity (t.udpFrame destIp destPort srcPort data random) := by
  have parts : FromHost t.identity (t.udpFrame destIp destPort srcPort data random) ∧
      (frameEth (t.udpFrame destIp destPort srcPort data random)).src = t.identity.myMac := t.fromHost_parts ..
  obtain ⟨host, source⟩ := parts
  constructor
  · exact source
  · rw [udpFrame_length, maxPktSize]
    omega
  · apply Packet.udp host (t.udpFrame_wellFormed destIp destPort srcPort data random fits)
    obtain ⟨udp, parts, found, -⟩ := udpDatagram_header
      (t.ipHeader ipProtoUdp (sizeofUdpHdr + data.length) random destIp) srcPort destPort data
    have header : frameUdp (t.udpFrame destIp destPort srcPort data random) = udp := by
      unfold udpFrame
      dsimp only
      rw [parts]
      exact frameUdp_parts
    rw [header, found]
    exact port

theorem icmpEchoFrame_conforms (targetIp : UINT32) (id seq : UINT16) (random : UINT32) :
    Conforms t.identity (t.icmpEchoFrame targetIp id seq random) := by
  have parts : t.icmpEchoFrame targetIp id seq random = t.unicastEth.bytes ++
      (t.ipHeader ipProtoIcmp (sizeofIcmpHdr + icmpPattern.length) random targetIp).bytes ++
        ((icmpEchoHeader id seq).bytes ++ icmpPattern) := List.append_assoc _ _ _
  obtain ⟨host, source⟩ := t.fromHost_parts ipProtoIcmp (sizeofIcmpHdr + icmpPattern.length) random targetIp
    ((icmpEchoHeader id seq).bytes ++ icmpPattern)
  constructor
  · rw [parts]
    exact source
  · simp [maxPktSize]
  · rw [parts]
    apply Packet.icmp host
    · constructor
      · apply ipv4WellFormed_parts (ipHeader_checksum ..) rfl
        rw [ipHeader_totLen _ _ _ _ (by decide)]
        simp [sizeofIcmpHdr]
      · rw [frameSegment_parts]
        exact IcmpHdr.checksum_stored
          { type := icmpTypeEchoRequest, code := icmpCodeZero, id := htons id, seq := htons seq } icmpPattern rfl
          (by decide)
    · left
      rw [frameSegment_parts]
      rfl

/-- An answer to an echo request is complete when the request reaches behind its checksum. -/
theorem icmpReplyFrame_conforms (saddr : UINT32) {message : Bytes} (fits : message.length ≤ 1466) (random : UINT32) :
    Conforms t.identity (t.icmpReplyFrame saddr message random) := by
  have parts : FromHost t.identity (t.icmpReplyFrame saddr message random) ∧
      (frameEth (t.icmpReplyFrame saddr message random)).src = t.identity.myMac := t.fromHost_parts ..
  obtain ⟨host, source⟩ := parts
  have formed : Ipv4WellFormed (t.icmpReplyFrame saddr message random) ipProtoIcmp := by
    apply ipv4WellFormed_parts (ipHeader_checksum ..) rfl
    rw [icmpReply_length]
    apply ipHeader_totLen
    rw [sizeofIpHdr]
    omega
  have segment : frameSegment (t.icmpReplyFrame saddr message random) = icmpReply message := frameSegment_parts
  constructor
  · exact source
  · rw [icmpReplyFrame_length, maxPktSize]
    omega
  · by_cases whole : 4 ≤ message.length
    · refine Packet.icmp host ⟨formed, ?_⟩ ?_
      · rw [segment]
        exact icmpReply_verifies message whole (by omega)
      · right
        rw [segment]
        match message, whole with
        | type :: code :: low :: high :: rest, _ => rw [icmpReply_cons]; rfl
    · apply Packet.runt host formed
      rw [segment, icmpReply_length]
      omega

end NetStack

/-- What the builders make conforms when its TCP segments come from a drawn port. -/
theorem Built.conforms {identity : Identity} {frame : Bytes} (built : Built identity frame)
    (source : IsTcpFrame frame → ephemeralPortBase ≤ frameSource frame) : Conforms identity frame := by
  cases built with
  | arpRequest t own targetIp =>
      rw [← own]
      exact t.arp_conforms ethBroadcast (ByteArr.zero 6) arpOperRequest targetIp (Or.inl ⟨rfl, rfl⟩)
  | arpReply t own arp =>
      rw [← own]
      exact t.arp_conforms arp.sha arp.sha arpOperReply arp.spa (Or.inr ⟨rfl, rfl⟩)
  | dhcp t own type xid => exact own ▸ t.dhcpFrame_conforms type xid
  | icmpEcho t own targetIp id seq random => exact own ▸ t.icmpEchoFrame_conforms targetIp id seq random
  | icmpReply t own saddr fits random => exact own ▸ t.icmpReplyFrame_conforms saddr fits random
  | @tcp t own port flags seq ack data fits random =>
      have isTcp : IsTcpFrame (t.tcpFrame flags seq ack data random) := by
        unfold NetStack.tcpFrame
        exact isTcpFrame_parts.mpr rfl
      exact own ▸ t.tcpFrame_conforms flags seq ack fits random (source isTcp)
  | udp t own destIp destPort port fits random => exact own ▸ t.udpFrame_conforms destIp destPort port fits random

/-- The ports are ephemeral, and without a TCP port there is no session. -/
structure NetStack.PortsDrawn (s : NetStack) : Prop where
  ephemeral : s.PortsEphemeral
  closed : s.tcp.localPort = 0#16 → s.tcp.state = .closed

theorem call_source {s : NetStack} {call : Call} {frame : Bytes} (segment : call.Segment s frame) :
    frameSource frame = s.tcp.localPort := by
  cases call with
  | syn => exact segment.2.1
  | send data => exact segment.2.2.1
  | closeStart => exact segment.2.1
  | _ => exact absurd segment id

/-- A step of the calls sends its segments from a drawn port. -/
theorem callStep_sends {s s' : NetStack} (ports : s.PortsDrawn) (step : CallStep s s') :
    Sends (fun frame => ephemeralPortBase ≤ frameSource frame) s s' := by
  cases step with
  | move own drawn done =>
      by_cases unset : s.tcp.localPort = 0#16
      · have other : (Action.move own).Connectionless := ⟨own, rfl, fun syn => drawn syn unset⟩
        have stays := other.staysClosed ⟨ports.closed unset, unset⟩ done
        exact stays.sends.mono fun frame sent => sent.elim
      · have bound := ports.ephemeral.tcp.resolve_left unset
        cases own with
        | poll => exact (poll_keepsPort done).sends.mono fun frame source => source ▸ bound
        | call call => exact (call_sends call done).mono fun frame segment => call_source segment ▸ bound
  | openNic boot opens => exact Sends.of_same (openNic_silent opens)
  | dhcp xid loop pending =>
      have asks := TcpQuiet.preparation.sendRequest xid loop
      have hears := TcpQuiet.preparation.onReceive (loop.sendRequest xid).stack.nextReceive (loop.sendRequest xid)
      exact (asks.trans hears).sends
  | arpRequest s => exact sendFrame_other (s.arpRequestFrame_not_tcp _)
  | tcpOpen | flushArp | dhcpId | configure | gateway => exact Sends.of_same rfl

theorem callStep_portsDrawn {s s' : NetStack} (ports : s.PortsDrawn) (step : CallStep s s') : s'.PortsDrawn := by
  refine ⟨(smallStep_emits ports.ephemeral step.small).ports, ?_⟩
  cases step with
  | move own drawn done =>
      intro unset
      by_cases before : s.tcp.localPort = 0#16
      · have other : (Action.move own).Connectionless := ⟨own, rfl, fun syn => drawn syn before⟩
        exact (other.staysClosed ⟨ports.closed before, before⟩ done).closed.1
      · cases own with
        | poll => exact absurd ((poll_keepsPort done).port.symm.trans unset) before
        | call call =>
            rcases call_localPort done with same | closed
            · exact absurd (same.symm.trans unset) before
            · exact closed.1
  | tcpOpen s ip port =>
      intro unset
      have random : ephemeralPortBase ≤ s.getEphemeralPort.1 := s.getEphemeralPort_ge
      have same : s.getEphemeralPort.1 = 0#16 := unset
      rw [same] at random
      exact absurd random (by decide)
  | openNic boot opens =>
      have prepares := Prepares.of_openNic opens
      rw [prepares.tcp]
      exact ports.closed
  | dhcp xid loop pending =>
      have asks := Prepares.preparation.sendRequest xid loop
      have hears := Prepares.preparation.onReceive (loop.sendRequest xid).stack.nextReceive (loop.sendRequest xid)
      have same : (loop.iteration xid).stack.tcp = loop.stack.tcp := (asks.trans hears).tcp
      rw [same]
      exact ports.closed
  | flushArp | dhcpId | configure | gateway | arpRequest => exact ports.closed

/-- What a step hands to Transmit conforms, and names the stack as it is before the step. -/
def SendsConforming (sender next : NetStack) : Prop :=
  ∃ frames, next.sent = sender.sent ++ frames ∧ ∀ frame ∈ frames, Conforms sender.identity frame

/-- A step of the run has sent the frame, and it conforms to the identity at that step. -/
def ConformedDuring (moments : List NetStack) (frame : Bytes) : Prop :=
  ∃ sender next frames, [sender, next] <:+: moments ∧ next.sent = sender.sent ++ frames ∧ frame ∈ frames ∧
    Conforms sender.identity frame

theorem callStep_conforms {s s' : NetStack} (ports : s.PortsDrawn) (step : CallStep s s') : SendsConforming s s' := by
  obtain ⟨frames, sent, built⟩ := (smallStep_emits ports.ephemeral step.small).sent
  obtain ⟨others, sent', sources⟩ := callStep_sends ports step
  obtain rfl := List.append_cancel_left (sent.symm.trans sent')
  exact ⟨frames, sent, fun frame member => (built frame member).conforms (sources frame member)⟩

section Run

variable {rxPkt : RxPkt} {snp : Snp} {s : NetStack} {moments : List NetStack}

theorem run_portsDrawn (passes : Passes CallStep (.initial rxPkt snp) moments s) : ∀ state ∈ moments, state.PortsDrawn :=
  passes.keeps ⟨⟨Or.inl rfl, Or.inl rfl, Or.inl rfl⟩, fun _ => rfl⟩ fun _ _ => callStep_portsDrawn

/-- In every run of the calls from power-on, whatever is called and received, each step sends only frames that conform
to the identity of the stack at that step, and each frame that the run has sent is one of these. -/
theorem wire_conforms (passes : Passes CallStep (.initial rxPkt snp) moments s) :
    (∀ sender next, [sender, next] <:+: moments → SendsConforming sender next) ∧
      ∀ frame ∈ s.sent, ConformedDuring moments frame := by
  constructor
  · intro sender next pair
    obtain ⟨member, step⟩ := passes.step_of_infix pair
    exact callStep_conforms (run_portsDrawn passes sender member) step
  · induction passes with
    | refl => exact fun frame member => absurd member List.not_mem_nil
    | @tail moments middle last before step ih =>
        obtain ⟨frames, sent, conform⟩ := callStep_conforms (run_portsDrawn before middle before.last_mem) step
        intro frame member
        rw [sent] at member
        rcases List.mem_append.mp member with earlier | new
        · obtain ⟨sender, next, frames, pair, rest⟩ := ih frame earlier
          exact ⟨sender, next, frames, pair.trans (List.prefix_append _ _).isInfix, rest⟩
        · exact ⟨middle, last, frames, before.last_infix, sent, new, conform frame new⟩

end Run

open Scenario in
/-- The SYN of an instance that asks for a connection conforms. -/
theorem wire_conforms_syn : ∃ moments, Passes CallStep poweredOn moments asking ∧ asking.sent = [synFrame.bytes] ∧
    ConformedDuring moments synFrame.bytes := by
  have drawn : (poweredOn.tcpOpen remoteIp 80).tcp.localPort ≠ 0#16 := by decide +kernel
  have run : CallSteps poweredOn asking :=
    (ReflTransGen.single (.tcpOpen poweredOn remoteIp 80)).tail (.move (.call .syn) (fun _ => drawn) asking_asks)
  have sent : asking.sent = [synFrame.bytes] := by decide +kernel
  obtain ⟨moments, passes⟩ := Passes.of_run run
  refine ⟨moments, passes, sent, (wire_conforms passes).2 synFrame.bytes ?_⟩
  rw [sent]
  exact List.mem_cons_self

end UefiNetstack
