import UefiNetstack.Lib.Relational
import UefiNetstack.Core.Poll

namespace UefiNetstack.NetStack
open Constants Relational

variable {R : NetStack → NetStack → Prop} {s t : NetStack}

/-- What the ICMP handler asks of a relation. -/
structure IcmpRelated (R : NetStack → NetStack → Prop) : Prop where
  rxPkt : ∀ {s t}, R s t → t.rxPkt = s.rxPkt
  ping : ∀ {s t}, R s t → t.ping = s.ping
  update : ∀ {s t}, R s t → ∀ ping, R { s with ping } { t with ping }
  reply : ∀ {s t}, R s t → ∀ ip icmpAt len, Option.Rel R (s.replyToPing ip icmpAt len) (t.replyToPing ip icmpAt len)

theorem IcmpRelated.handleIcmp (related : IcmpRelated R) (same : R s t) (ip : IpHdr) (icmpAt : Nat) (len : UINTN) :
    Option.Rel R (s.handleIcmp ip icmpAt len) (t.handleIcmp ip icmpAt len) := by
  obtain ⟨_, rxPkt, _, _, _, _, _, _, ping, _, _⟩ := t
  obtain rfl : rxPkt = s.rxPkt := related.rxPkt same
  obtain rfl : ping = s.ping := related.ping same
  refine ite_related Iff.rfl (fun _ => related.reply same ip icmpAt len) fun _ => ?_
  refine ite_related Iff.rfl (fun _ => ?_) fun _ => .some same
  exact ite_related Iff.rfl (fun _ => .some (related.update same _)) fun _ => .some same

/-- What the UDP handler asks of a relation. -/
structure UdpRelated (R : NetStack → NetStack → Prop) : Prop where
  rxPkt : ∀ {s t}, R s t → t.rxPkt = s.rxPkt
  udp : ∀ {s t}, R s t → t.udp = s.udp
  dns : ∀ {s t}, R s t → t.dns = s.dns
  receiver : ∀ {s t}, R s t → ∀ udp, R { s with udp } { t with udp }
  resolver : ∀ {s t}, R s t → ∀ dns, R { s with dns } { t with dns }
  copied : ∀ {s t}, R s t → ∀ data, R (s.log (.udpCopy data)) (t.log (.udpCopy data))

theorem UdpRelated.udpDeliver (related : UdpRelated R) (same : R s t) (udp : UdpHdr) (udpAt : Nat) :
    Option.Rel R (s.udpDeliver udp udpAt) (t.udpDeliver udp udpAt) := by
  obtain ⟨_, rxPkt, _, _, _, _, _, receiver, _, _, _⟩ := t
  obtain rfl : rxPkt = s.rxPkt := related.rxPkt same
  obtain rfl : receiver = s.udp := related.udp same
  unfold NetStack.udpDeliver
  dsimp only
  cases s.udp.rxBuffer with
  | none => exact .some same
  | some buffer =>
      refine ite_related Iff.rfl (fun _ => ?_) fun _ => .some same
      refine rel_bind (R := Eq) (rel_refl (fun _ => rfl) _) fun data _ equal => ?_
      subst equal
      exact .some (related.receiver (related.copied same data.val) _)

theorem UdpRelated.handleDns (related : UdpRelated R) (same : R s t) (dnsAt : Nat) :
    Option.Rel R (s.handleDns dnsAt) (t.handleDns dnsAt) := by
  obtain ⟨_, rxPkt, _, _, _, dns, _, _, _, _, _⟩ := t
  obtain rfl : rxPkt = s.rxPkt := related.rxPkt same
  obtain rfl : dns = s.dns := related.dns same
  refine ite_related Iff.rfl (fun _ => .some same) fun _ => ?_
  refine ite_related Iff.rfl (fun _ => .some same) fun _ => ?_
  refine ite_related Iff.rfl (fun _ => .some same) fun _ => ?_
  refine rel_bind (R := Eq) (rel_refl (fun _ => rfl) _) fun p _ equal => ?_
  subst equal
  refine rel_bind (R := Eq) (rel_refl (fun _ => rfl) _) fun answer _ equal => ?_
  subst equal
  cases answer with
  | none => exact .some same
  | some address => exact .some (related.resolver same _)

theorem UdpRelated.handleUdp (related : UdpRelated R) (same : R s t) (udpAt : Nat) :
    Option.Rel R (s.handleUdp udpAt) (t.handleUdp udpAt) := by
  unfold NetStack.handleUdp
  rw [related.rxPkt same]
  dsimp only
  refine rel_bind (R := R) ?_ fun middle middle' between => ?_
  · exact ite_related (by rw [related.udp same]) (fun _ => related.udpDeliver same _ _) fun _ => .some same
  · exact ite_related (by rw [related.dns between]) (fun _ => related.handleDns between _) fun _ => .some between

/-- What the state machine asks of a relation. -/
structure TcpRelated (R : NetStack → NetStack → Prop) : Prop where
  rxPkt : ∀ {s t}, R s t → t.rxPkt = s.rxPkt
  tcp : ∀ {s t}, R s t → t.tcp = s.tcp
  session : ∀ {s t}, R s t → ∀ tcp, R { s with tcp } { t with tcp }
  control : ∀ {s t}, R s t → ∀ flags, Option.Rel R (s.sendTcpControl flags) (t.sendTcpControl flags)
  copied : ∀ {s t}, R s t → ∀ offset data, R (s.log (.tcpCopy offset data)) (t.log (.tcpCopy offset data))

/-- A segment goes out from the same numbers, and the session goes on the same. -/
theorem TcpRelated.sendThen (related : TcpRelated R) (same : R s t) (flags : UINT8)
    (before after : TcpSession → TcpSession) : Option.Rel R
      ((sendTcpControl flags { s with tcp := before s.tcp }).bind fun s => some { s with tcp := after s.tcp })
      ((sendTcpControl flags { t with tcp := before t.tcp }).bind fun t => some { t with tcp := after t.tcp }) := by
  rw [related.tcp same]
  refine rel_bind (related.control (related.session same _) flags) fun sent sent' between => .some ?_
  rw [related.tcp between]
  exact related.session between _

theorem TcpRelated.receiveData (related : TcpRelated R) (same : R s t) (input : TcpInput) (tcpAt : Nat) :
    Option.Rel R (s.receiveData input tcpAt) (t.receiveData input tcpAt) := by
  obtain ⟨_, rxPkt, _, _, _, _, tcp, _, _, _, _⟩ := t
  obtain rfl : rxPkt = s.rxPkt := related.rxPkt same
  obtain rfl : tcp = s.tcp := related.tcp same
  unfold NetStack.receiveData
  dsimp only
  cases s.tcp.rxBuffer with
  | none => exact .some same
  | some buffer =>
      refine ite_related Iff.rfl (fun _ => ?_) fun _ => .some same
      refine ite_related Iff.rfl (fun _ => ?_) fun _ => .some same
      refine rel_bind (R := Eq) (rel_refl (fun _ => rfl) _) fun data _ equal => ?_
      subst equal
      exact .some (related.session (related.copied same _ data.val) _)

theorem TcpRelated.acknowledgeData (related : TcpRelated R) (same : R s t) (input : TcpInput) :
    Option.Rel R (s.acknowledgeData input) (t.acknowledgeData input) := by
  refine ite_related Iff.rfl (fun _ => ?_) fun _ => .some same
  dsimp only
  rw [related.tcp same]
  exact related.control (related.session same _) _

theorem TcpRelated.receiveFin (related : TcpRelated R) (same : R s t) (input : TcpInput) :
    Option.Rel R (s.receiveFin input) (t.receiveFin input) := by
  refine ite_related Iff.rfl (fun _ => ?_) fun _ => .some same
  exact related.sendThen same tcpFlagFinAck (fun tcp => { tcp with seq := _, ack := _ })
    fun tcp => { tcp with state := _ }

theorem TcpRelated.onSegment (related : TcpRelated R) (same : R s t) (input : TcpInput) (tcpAt : Nat) :
    Option.Rel R (s.onSegment input tcpAt) (t.onSegment input tcpAt) := by
  refine ite_related Iff.rfl (fun _ => ?_) fun _ => ?_
  · unfold abortTcp
    rw [related.tcp same]
    exact .some (related.session same _)
  · refine ite_related (by rw [related.tcp same]) (fun _ => ?_) fun _ => ?_
    · refine ite_related Iff.rfl (fun _ => ?_) fun _ => .some same
      exact related.sendThen same tcpFlagAck (fun tcp => { tcp with seq := _, ack := _ })
        fun tcp => { tcp with state := _ }
    · refine ite_related (by rw [related.tcp same]) (fun _ => ?_) fun _ => .some same
      refine rel_bind (related.receiveData same input tcpAt) fun copied copied' first => ?_
      refine rel_bind (related.acknowledgeData first input) fun acked acked' second => ?_
      exact related.receiveFin second input

theorem TcpRelated.handleTcp (related : TcpRelated R) (same : R s t) (ip : IpHdr) (tcpAt : Nat) :
    Option.Rel R (s.handleTcp ip tcpAt) (t.handleTcp ip tcpAt) := by
  unfold NetStack.handleTcp
  rw [related.rxPkt same]
  refine ite_related (by rw [related.tcp same]) (fun _ => .some same) fun _ => ?_
  exact related.onSegment same _ _

/-- What a poll asks of a relation. -/
structure PollRelated (R : NetStack → NetStack → Prop) : Prop where
  icmp : IcmpRelated R
  udp : UdpRelated R
  tcp : TcpRelated R
  arp : ∀ {s t}, R s t → ∀ arp, R (s.handleArp arp) (t.handleArp arp)
  answer : ∀ {s t}, R s t → t.nextReceive = s.nextReceive
  received : ∀ {s t}, R s t → R s.received t.received
  page : ∀ {s t}, R s t → ∀ rxPkt, R { s with rxPkt } { t with rxPkt }
  logged : ∀ {s t}, R s t → ∀ event, R (s.log event) (t.log event)

theorem PollRelated.dispatch (related : PollRelated R) (same : R s t) : Option.Rel R s.dispatch t.dispatch := by
  have rxPkt := related.icmp.rxPkt same
  unfold NetStack.dispatch dispatchIp
  rw [rxPkt]
  refine ite_related Iff.rfl (fun _ => .some (related.arp same _)) fun _ => ?_
  refine ite_related Iff.rfl (fun _ => ?_) fun _ => .some same
  refine ite_related Iff.rfl (fun _ => related.icmp.handleIcmp same _ _ _) fun _ => ?_
  refine ite_related Iff.rfl (fun _ => related.udp.handleUdp same _) fun _ => ?_
  exact ite_related Iff.rfl (fun _ => related.tcp.handleTcp same _ _) fun _ => .some same

theorem PollRelated.poll (related : PollRelated R) (same : R s t) : Option.Rel R s.poll t.poll := by
  have logged := related.logged (related.received same) (.receive s.nextReceive)
  unfold NetStack.poll
  rw [related.answer same]
  cases next : s.nextReceive with
  | frame frame =>
      rw [next] at logged
      unfold pollOn
      dsimp only
      rw [related.icmp.rxPkt logged]
      exact related.dispatch (related.page logged _)
  | notReady =>
      rw [next] at logged
      exact .some logged
  | error =>
      rw [next] at logged
      exact .some (related.logged (related.logged (related.logged logged .reset) .receiveFilters) (.stall stall10ms))

end UefiNetstack.NetStack
