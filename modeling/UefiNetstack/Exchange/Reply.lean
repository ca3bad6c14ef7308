import UefiNetstack.Buffers.Echo
import UefiNetstack.Reception.Stale

namespace UefiNetstack
open Constants Memory

namespace NetStack

variable {s s' : NetStack} {frame : RxFrame}

/-- The handler takes the page for the reply that the pending ping waits for. -/
structure MatchesReply (s : NetStack) : Prop where
  reaches : s.ReachesIcmp
  type : s.pageIcmp.type = icmpTypeEchoReply
  id : ntohs s.pageIcmp.id = s.ping.id
  seq : ntohs s.pageIcmp.seq = s.ping.seq

theorem sendTcpControl_ping {flags : UINT8} (done : s.sendTcpControl flags = some s') : s'.ping = s.ping := by
  obtain ⟨frame, -, rfl⟩ := sendTcpInternal_cases done
  rfl

theorem onSegment_ping {input : TcpInput} {tcpAt : Nat} (done : s.onSegment input tcpAt = some s') :
    s'.ping = s.ping := by
  refine @onSegment_keeps s s' input tcpAt (fun s s' => s'.ping = s.ping) ?_ ?_ ?_ ?_ done
  · exact fun first second => second.trans first
  · exact fun s tcp => rfl
  · exact fun sent => sendTcpControl_ping sent
  · exact fun s offset data => rfl

theorem handleArp_ping (s : NetStack) (arp : ArpHdr) : (s.handleArp arp).ping = s.ping := by
  rcases s.handleArp_cases arp with ⟨-, learned⟩ | ⟨-, ⟨frame, -, sent⟩ | same⟩
  · rw [learned, learnArp_eq]
  · rw [sent]
    rfl
  · rw [same]

theorem handleUdp_ping {udpAt : Nat} (done : s.handleUdp udpAt = some s') : s'.ping = s.ping := by
  refine @handleUdp_keeps s s' (fun s s' => s'.ping = s.ping) ?_ ?_ ?_ udpAt done
  · exact fun first second => second.trans first
  · exact fun s dns udp => rfl
  · exact fun s data => rfl

/-- A matching reply sets the flag. -/
theorem dispatch_matches (matching : s.MatchesReply) :
    s.dispatch = some { s with ping := { s.ping with replyReceived := true } } := by
  have notRequest : ¬s.AsksEcho := by
    rintro ⟨request, -⟩
    rw [matching.type] at request
    cases request
  rw [dispatch_icmp matching.reaches]
  refine (if_neg notRequest).trans ((if_pos matching.type).trans ?_)
  exact if_pos ⟨matching.id, matching.seq⟩

/-- Every other page leaves the ping as it is. -/
theorem dispatch_ping (other : ¬s.MatchesReply) (done : s.dispatch = some s') : s'.ping = s.ping := by
  cases dispatch_branch done with
  | arp type handled =>
    rw [handled]
    exact s.handleArp_ping _
  | icmp type ip header protocol handled =>
    subst header
    have reaches : s.ReachesIcmp := ⟨type, protocol⟩
    rw [dispatch_icmp reaches, handleIcmp] at done
    dsimp only at done
    split at done
    · rcases replyToPing_cases done with rfl | ⟨message, frame, -, -, rfl⟩
      all_goals rfl
    · split at done
      · rename_i reply
        split at done
        · rename_i own
          exact absurd ⟨reaches, reply, own.1, own.2⟩ other
        · rw [← Option.some.inj done]
      · rw [← Option.some.inj done]
  | udp type ip header protocol handled => exact handleUdp_ping handled
  | tcp type ip header protocol handled =>
    rcases handleTcp_cases handled with ⟨-, rfl⟩ | ⟨-, -, segment⟩
    · rfl
    · exact onSegment_ping segment
  | drop notArp notTcp unchanged => rw [unchanged]

/-- The next poll gets a frame and takes it for the reply. -/
structure TakesReply (s : NetStack) (frame : RxFrame) : Prop where
  delivered : s.nextReceive = .frame frame
  matching : (s.received.landed frame).MatchesReply

theorem TakesReply.poll (takes : s.TakesReply frame) : ∃ s', s.poll = some s' ∧ s'.ping.replyReceived = true :=
  ⟨_, (poll_frame takes.delivered).trans (dispatch_matches takes.matching), rfl⟩

/-- A poll keeps the id and the number, and it sets the flag only when it takes its frame for the reply. -/
structure KeepsPing (s s' : NetStack) : Prop where
  id : s'.ping.id = s.ping.id
  seq : s'.ping.seq = s.ping.seq
  replied : s.ping.replyReceived = false → s'.ping.replyReceived = true → ∃ frame, s.TakesReply frame

theorem resetNic_ping (s : NetStack) : s.resetNic.ping = s.ping := rfl

theorem KeepsPing.of_same (same : s'.ping = s.ping) : KeepsPing s s' where
  id := by rw [same]
  seq := by rw [same]
  replied open_ closed := by
    rw [same, open_] at closed
    cases closed

theorem poll_keepsPing (done : s.poll = some s') : KeepsPing s s' := by
  cases poll_branch done with
  | handle frame answer handled =>
    by_cases matching : (s.received.landed frame).MatchesReply
    · obtain rfl := Option.some.inj ((dispatch_matches matching).symm.trans handled)
      exact ⟨rfl, rfl, fun _ _ => ⟨frame, answer, matching⟩⟩
    · have kept := dispatch_ping matching handled
      exact KeepsPing.of_same kept
  | wait answer waited =>
    subst waited
    exact KeepsPing.of_same rfl
  | reset answer recovered =>
    subst recovered
    exact KeepsPing.of_same (resetNic_ping (s.received.log (.receive .error)))

end NetStack

/-- A packet comes from a host: its headers lie in the frame and the IP header names the host as source. -/
structure RxFrame.CameFrom (frame : RxFrame) (host : UINT32) : Prop where
  ihl : 5 ≤ (frame.ip.ihlVersion &&& 0x0F#8).toNat
  inside : frame.transportAt + sizeofIcmpHdr ≤ frame.bytes.length
  saddr : frame.ip.saddr = host

/-- An ICMP echo reply of a host with an id and a sequence number. -/
structure RxFrame.IsEchoReply (frame : RxFrame) (host : UINT32) (id seq : UINT16) : Prop
    extends frame.CameFrom host where
  type : frame.eth.type = htons ethertypeIpv4
  protocol : frame.ip.protocol = ipProtoIcmp
  reply : frame.icmp.type = icmpTypeEchoReply
  ident : ntohs frame.icmp.id = id
  number : ntohs frame.icmp.seq = seq

namespace NetStack

variable {s s' : NetStack} {frame : RxFrame} {host : UINT32}

/-- The headers of a frame that holds them are those of the page. -/
theorem landed_reads (s : NetStack) (inside : frame.transportAt + sizeofIcmpHdr ≤ frame.bytes.length) :
    EthHdr.read (s.landed frame).rxPkt.byte 0 = frame.eth ∧ (s.landed frame).pageIp = frame.ip ∧
      (s.landed frame).pageIcmp = frame.icmp := by
  have agree : AgreeOn frame.alone.byte (s.landed frame).rxPkt.byte 0 frame.bytes.length := received_agree frame _
  have place : 34 ≤ frame.transportAt := transportOf_ge frame.alone.byte
  rw [sizeofIcmpHdr] at inside
  have ip : (s.landed frame).pageIp = frame.ip :=
    (IpHdr.read_agree agree (Nat.zero_le _) (by rw [sizeofEthHdr, sizeofIpHdr]; omega)).symm
  have transport : transportOf (s.landed frame).rxPkt.byte = frame.transportAt :=
    congrArg (fun ip => sizeofEthHdr + (ipHlen ip).toNat) ip
  refine ⟨(EthHdr.read_agree agree (Nat.zero_le _) (by rw [sizeofEthHdr]; omega)).symm, ip, ?_⟩
  rw [pageIcmp, transport]
  exact (IcmpHdr.read_agree agree (Nat.zero_le _) inside).symm

/-- The handler takes a packet of a host for the reply exactly when it is the reply. -/
theorem takesReply_iff (delivered : s.nextReceive = .frame frame) (came : frame.CameFrom host) :
    s.TakesReply frame ↔ frame.IsEchoReply host s.ping.id s.ping.seq := by
  obtain ⟨eth, ip, icmp⟩ := s.received.landed_reads came.inside
  constructor
  · intro takes
    obtain ⟨⟨type, protocol⟩, reply, id, seq⟩ := takes.matching
    rw [eth] at type
    rw [ip] at protocol
    rw [icmp] at reply id seq
    exact { toCameFrom := came, type, protocol, reply, ident := id, number := seq }
  · intro reply
    refine { delivered, matching := { reaches := ⟨?_, ?_⟩, type := ?_, id := ?_, seq := ?_ } }
    · rw [eth]
      exact reply.type
    · rw [ip]
      exact reply.protocol
    · rw [icmp]
      exact reply.reply
    · rw [icmp]
      exact reply.ident
    · rw [icmp]
      exact reply.number

/-- The stacks that poll during a `ping`. -/
def pingPolls (targetIp : UINT32) (timeoutMs : UINT32) (s : NetStack) : List NetStack :=
  waitPolls (fun s => s.ping.replyReceived) stall100us (maxLoops timeoutMs) (s.pingStart targetIp)

/-- Every poll waits for the reply with the id and the number of the call. -/
theorem pingPolls_waiting {targetIp timeoutMs : UINT32} :
    ∀ polling ∈ s.pingPolls targetIp timeoutMs,
      (polling.ping.id = (s.pingStart targetIp).ping.id ∧ polling.ping.seq = (s.pingStart targetIp).ping.seq) ∧
        polling.ping.replyReceived = false := by
  refine waitPolls_keeps (P := fun polling => polling.ping.id = (s.pingStart targetIp).ping.id ∧
    polling.ping.seq = (s.pingStart targetIp).ping.seq) ⟨rfl, rfl⟩ ?_
  intro before after same _ polled _
  have keeps := poll_keepsPing polled
  exact ⟨keeps.id.trans same.1, keeps.seq.trans same.2⟩

/-- The poll that takes a reply is the last one, and the ping succeeds with it. -/
theorem ping_takes {targetIp timeoutMs : UINT32} {polling : NetStack} (member : polling ∈ s.pingPolls targetIp timeoutMs)
    (takes : polling.TakesReply frame) :
    (∃ s', Api.ping targetIp timeoutMs s = some (.success, s')) ∧
      (s.pingPolls targetIp timeoutMs).getLast? = some polling := by
  obtain ⟨polled, poll, raised⟩ := takes.poll
  have completes : (polled.stall stall100us).ping.replyReceived = true := raised
  obtain ⟨ended, last⟩ := waitPolls_completes member poll completes
  refine ⟨⟨polled.stall stall100us, ?_⟩, last⟩
  rw [Api.ping, ended]
  exact congrArg (fun st => some (st, _)) (if_pos completes)

/-- A ping that succeeds has taken a reply. -/
theorem ping_taken {targetIp timeoutMs : UINT32} (success : Api.ping targetIp timeoutMs s = some (.success, s')) :
    ∃ polling ∈ s.pingPolls targetIp timeoutMs, ∃ frame, polling.TakesReply frame := by
  obtain ⟨ended, waits, result⟩ := Option.bind_eq_some_iff.mp success
  obtain ⟨status, rfl⟩ := Prod.mk.inj (Option.some.inj result)
  have closed : ended.ping.replyReceived = true := by
    by_contra open_
    rw [if_neg open_] at status
    cases status
  obtain ⟨polling, member, polled, poll, rfl⟩ := waitLoop_last rfl waits closed
  have waiting := pingPolls_waiting polling member
  exact ⟨polling, member, (poll_keepsPing poll).replied waiting.2 closed⟩

/-- The frame that a ping takes is the only reply to it that it polls. -/
theorem reply_unique {targetIp timeoutMs : UINT32} {polling other : NetStack} {answer : RxFrame}
    (member : polling ∈ s.pingPolls targetIp timeoutMs) (takes : polling.TakesReply frame)
    (otherMember : other ∈ s.pingPolls targetIp timeoutMs) (delivered : other.nextReceive = .frame answer)
    (reply : answer.IsEchoReply host (s.pingStart targetIp).ping.id (s.pingStart targetIp).ping.seq) :
    frame = answer := by
  obtain ⟨-, last⟩ := ping_takes member takes
  obtain ⟨⟨id, seq⟩, -⟩ := pingPolls_waiting other otherMember
  rw [← id, ← seq] at reply
  obtain ⟨-, otherLast⟩ := ping_takes otherMember ((takesReply_iff delivered reply.toCameFrom).mpr reply)
  obtain rfl := Option.some.inj (last.symm.trans otherLast)
  exact Receive.frame.inj (takes.delivered.symm.trans delivered)

/-- Success of a ping means a reply of the target, exactly when each frame that a poll of the ping takes for its
reply holds its headers and names the target as its source. -/
theorem ping_answered_iff (s : NetStack) (targetIp timeoutMs : UINT32) :
    (∀ s', Api.ping targetIp timeoutMs s = some (.success, s') →
      ∃ polling ∈ s.pingPolls targetIp timeoutMs, ∃ frame, polling.nextReceive = .frame frame ∧
        frame.IsEchoReply targetIp (s.pingStart targetIp).ping.id (s.pingStart targetIp).ping.seq) ↔
      ∀ polling ∈ s.pingPolls targetIp timeoutMs, ∀ frame, polling.TakesReply frame → frame.CameFrom targetIp := by
  constructor
  · intro answered polling member frame takes
    obtain ⟨⟨s', success⟩, -⟩ := ping_takes member takes
    obtain ⟨other, otherMember, answer, delivered, reply⟩ := answered s' success
    obtain rfl := reply_unique member takes otherMember delivered reply
    exact reply.toCameFrom
  · intro fromTarget s' success
    obtain ⟨polling, member, frame, takes⟩ := ping_taken success
    obtain ⟨⟨id, seq⟩, -⟩ := pingPolls_waiting polling member
    refine ⟨polling, member, frame, takes.delivered, ?_⟩
    rw [← id, ← seq]
    exact (takesReply_iff takes.delivered (fromTarget polling member frame takes)).mp takes

end NetStack

namespace Scenario

/-- The id and the sequence number that the default seed gives the first ping. -/
def firstPing : PingState := ((powered []).pingStart gatewayIp).ping

/-- Another host answers the ping of the gateway. -/
def forgedReply : RxFrame :=
  icmpPacket
    { ihlVersion := ipVersionIhlDefault, totLen := htons 28, ttl := ipDefaultTtl, protocol := ipProtoIcmp
      saddr := remoteIp, daddr := localIp }
    { type := icmpTypeEchoReply, id := htons firstPing.id, seq := htons firstPing.seq }

end Scenario

namespace NetStack

open Scenario in
theorem forged_reply_answers : ¬∀ (s : NetStack) (targetIp timeoutMs : UINT32) (s' : NetStack),
    Api.ping targetIp timeoutMs s = some (.success, s') →
    ∃ polling ∈ s.pingPolls targetIp timeoutMs, ∃ frame, polling.nextReceive = .frame frame ∧
      frame.IsEchoReply targetIp (s.pingStart targetIp).ping.id (s.pingStart targetIp).ping.seq := by
  intro answered
  have first : (powered [.frame forgedReply]).pingStart gatewayIp ∈
      (powered [.frame forgedReply]).pingPolls gatewayIp 1 := List.mem_cons_self
  have takes : ((powered [.frame forgedReply]).pingStart gatewayIp).TakesReply forgedReply :=
    { delivered := by decide +kernel
      matching :=
        { reaches := by decide +kernel
          type := by decide +kernel
          id := by decide +kernel
          seq := by decide +kernel } }
  obtain ⟨⟨s', success⟩, -⟩ := ping_takes first takes
  obtain ⟨other, member, frame, delivered, reply⟩ := answered _ gatewayIp 1 s' success
  obtain rfl := reply_unique first takes member delivered reply
  exact absurd reply.saddr (by decide +kernel)

end NetStack
end UefiNetstack
