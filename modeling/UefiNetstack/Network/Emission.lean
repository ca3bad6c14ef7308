import UefiNetstack.Network.Steps
import UefiNetstack.Session.Failure
import UefiNetstack.Dhcp.Loop

namespace UefiNetstack
open Constants NetStack Relation

/-- A port that is unset or was drawn at random. -/
def Ephemeral (port : UINT16) : Prop := port = 0#16 ∨ ephemeralPortBase ≤ port

/-- The frames that the builders make from an identity. -/
inductive Built (identity : Identity) : Bytes → Prop
  | arpRequest (t : NetStack) (own : t.identity = identity) (targetIp : UINT32) :
      Built identity (t.arpRequestFrame targetIp)
  | arpReply (t : NetStack) (own : t.identity = identity) (arp : ArpHdr) : Built identity (t.arpReplyFrame arp)
  | dhcp (t : NetStack) (own : t.identity = identity) (type : UINT8) (xid : UINT32) :
      Built identity (t.dhcpFrame type xid)
  | icmpEcho (t : NetStack) (own : t.identity = identity) (targetIp : UINT32) (id seq : UINT16) (random : UINT32) :
      Built identity (t.icmpEchoFrame targetIp id seq random)
  | icmpReply (t : NetStack) (own : t.identity = identity) (saddr : UINT32) {message : Bytes}
      (fits : message.length ≤ 1466) (random : UINT32) : Built identity (t.icmpReplyFrame saddr message random)
  | tcp (t : NetStack) (own : t.identity = identity) (port : Ephemeral t.tcp.localPort) (flags : UINT8)
      (seq ack : UINT32) {data : Bytes} (fits : data.length ≤ 1446) (random : UINT32) :
      Built identity (t.tcpFrame flags seq ack data random)
  | udp (t : NetStack) (own : t.identity = identity) (destIp : UINT32) (destPort : UINT16) {srcPort : UINT16}
      (port : ephemeralPortBase ≤ srcPort) {data : Bytes} (fits : data.length ≤ 1458) (random : UINT32) :
      Built identity (t.udpFrame destIp destPort srcPort data random)

namespace NetStack

variable {s s' s'' : NetStack}

/-- Every port that the stack has bound is unset or ephemeral. -/
structure PortsEphemeral (s : NetStack) : Prop where
  tcp : Ephemeral s.tcp.localPort
  udp : Ephemeral s.udp.localPort
  dns : Ephemeral s.dns.localPort

/-- A step keeps the ports ephemeral and emits what the builders make from the identity before it. -/
structure Emits (s s' : NetStack) : Prop where
  sent : ∃ frames, s'.sent = s.sent ++ frames ∧ ∀ frame ∈ frames, Built s.identity frame
  ports : s'.PortsEphemeral

/-- Such a step that keeps the identity. -/
def EmitsAsOne (s s' : NetStack) : Prop := s'.identity = s.identity ∧ (s.PortsEphemeral → Emits s s')

theorem EmitsAsOne.trans (first : EmitsAsOne s s') (second : EmitsAsOne s' s'') : EmitsAsOne s s'' := by
  refine ⟨second.1.trans first.1, fun ports => ?_⟩
  obtain ⟨⟨before, sent, made⟩, middle⟩ := first.2 ports
  obtain ⟨⟨after, sent', made'⟩, last⟩ := second.2 middle
  rw [first.1] at made'
  refine ⟨⟨before ++ after, by rw [sent', sent, List.append_assoc], ?_⟩, last⟩
  intro frame member
  rcases List.mem_append.mp member with member | member
  · exact made frame member
  · exact made' frame member

/-- A step that sends nothing. -/
theorem Emits.silent (sent : s'.sent = s.sent) (ports : s'.PortsEphemeral) : Emits s s' :=
  ⟨⟨[], by rw [sent, List.append_nil], by simp⟩, ports⟩

theorem EmitsAsOne.silent (identity : s'.identity = s.identity) (sent : s'.sent = s.sent)
    (ports : s.PortsEphemeral → s'.PortsEphemeral) : EmitsAsOne s s' :=
  ⟨identity, fun before => Emits.silent sent (ports before)⟩

theorem EmitsAsOne.refl (s : NetStack) : EmitsAsOne s s := EmitsAsOne.silent rfl rfl id

/-- A step that keeps the ports and sends one frame. -/
theorem EmitsAsOne.one {bytes : Bytes} (identity : s'.identity = s.identity) (sent : s'.sent = s.sent ++ [bytes])
    (ports : s.PortsEphemeral → s'.PortsEphemeral) (built : s.PortsEphemeral → Built s.identity bytes) :
    EmitsAsOne s s' := by
  refine ⟨identity, fun before => ⟨⟨[bytes], sent, fun frame member => ?_⟩, ports before⟩⟩
  rw [List.mem_singleton.mp member]
  exact built before

/-- A segment that is sent fits the packet. -/
theorem sendTcpInternal_data_le {flags : UINT8} {seq ack : UINT32} {data : Bytes}
    (done : s.sendTcpInternal flags seq ack data = some s') : data.length ≤ 1446 := by
  by_contra long
  have outside : ¬sizeofEthHdr + sizeofIpHdr + sizeofTcpHdr + data.length ≤ maxPktSize := by
    simp only [sizeofEthHdr, sizeofIpHdr, sizeofTcpHdr, maxPktSize]
    omega
  rw [sendTcpInternal, dif_neg outside] at done
  cases done

theorem sendUdp_data_le {destIp : UINT32} {destPort srcPort : UINT16} {data : Bytes}
    (done : s.sendUdp destIp destPort srcPort data = some s') : data.length ≤ 1458 := by
  by_contra long
  have outside : ¬sizeofEthHdr + sizeofIpHdr + sizeofUdpHdr + data.length ≤ maxPktSize := by
    simp only [sizeofEthHdr, sizeofIpHdr, sizeofUdpHdr, maxPktSize]
    omega
  rw [sendUdp, dif_neg outside] at done
  cases done

/-- The message of a query that is sent fits the smaller packet of queries. -/
theorem dnsQuery_message_le {hostname : CString} {id : UINT16} (done : s.dnsQuery hostname = some s') :
    ((dnsHeader id).bytes ++ dnsQuestion hostname).length ≤ 1458 := by
  by_contra long
  rw [List.length_append, DnsHdr.bytes_length] at long
  have outside : ¬sizeofEthHdr + sizeofIpHdr + sizeofUdpHdr + sizeofDnsHdr + (dnsQuestion hostname).length ≤
      dnsPktSize := by
    simp only [sizeofEthHdr, sizeofIpHdr, sizeofUdpHdr, sizeofDnsHdr, dnsPktSize]
    omega
  rw [dnsQuery, dif_neg outside] at done
  cases done

/-- A message that does not fit the packet is not answered. -/
theorem replyToPing_of_long {ip : IpHdr} {icmpAt : Nat} {len : UINTN} (done : s.replyToPing ip icmpAt len = some s')
    (long : ¬len.toNat ≤ 1466) : s' = s := by
  have outside : ¬sizeofEthHdr + sizeofIpHdr + len.toNat ≤ maxPktSize := by
    simp only [sizeofEthHdr, sizeofIpHdr, maxPktSize]
    omega
  simp only [replyToPing, dif_neg outside] at done
  split at done
  · exact (Option.some.inj done).symm
  · cases done

theorem sendTcpInternal_emitsAsOne {flags : UINT8} {seq ack : UINT32} {data : Bytes}
    (done : s.sendTcpInternal flags seq ack data = some s') : EmitsAsOne s s' := by
  have fits := sendTcpInternal_data_le done
  obtain ⟨frame, bytes, rfl⟩ := sendTcpInternal_cases done
  refine EmitsAsOne.one rfl (sendFrame_sent frame s.getU32.2) (fun ports => ⟨ports.tcp, ports.udp, ports.dns⟩) ?_
  intro ports
  rw [bytes]
  exact .tcp s.getU32.2 rfl ports.tcp flags seq ack fits _

theorem handleArp_emits (s : NetStack) (arp : ArpHdr) (ports : s.PortsEphemeral) : Emits s (s.handleArp arp) := by
  rcases s.handleArp_cases arp with ⟨-, learned⟩ | ⟨-, ⟨frame, bytes, sent⟩ | same⟩
  · rw [learned, learnArp_eq]
    exact Emits.silent rfl ⟨ports.tcp, ports.udp, ports.dns⟩
  · rw [sent]
    refine ⟨⟨[_], sendFrame_sent frame s, fun other member => ?_⟩, ⟨ports.tcp, ports.udp, ports.dns⟩⟩
    rw [List.mem_singleton.mp member, bytes]
    exact .arpReply s rfl arp
  · rw [same]
    exact Emits.silent rfl ports

theorem handleIcmp_emitsAsOne {ip : IpHdr} {icmpAt : Nat} {len : UINTN}
    (done : s.handleIcmp ip icmpAt len = some s') : EmitsAsOne s s' := by
  rcases handleIcmp_cases done with echoed | rfl | rfl
  · by_cases fits : len.toNat ≤ 1466
    · rcases replyToPing_cases echoed with rfl | ⟨message, frame, -, bytes, rfl⟩
      · exact EmitsAsOne.refl s'
      · refine EmitsAsOne.one rfl (sendFrame_sent frame s.getU32.2) (fun ports => ⟨ports.tcp, ports.udp, ports.dns⟩) ?_
        intro _
        rw [bytes]
        apply Built.icmpReply s.getU32.2 rfl
        rwa [message.property]
    · rw [replyToPing_of_long echoed fits]
      exact EmitsAsOne.refl s
  · exact EmitsAsOne.silent rfl rfl fun ports => ⟨ports.tcp, ports.udp, ports.dns⟩
  · exact EmitsAsOne.refl s'

/-- A log of no frame. -/
theorem log_emitsAsOne (s : NetStack) {event : Event} (silent : event.frame? = none) :
    EmitsAsOne s (s.log event) := by
  refine EmitsAsOne.silent rfl ?_ fun ports => ⟨ports.tcp, ports.udp, ports.dns⟩
  simp [sent, log, silent]

/-- The ports of the receiver and of the resolver stay, and nothing is sent. -/
structure KeepsPorts (s s' : NetStack) : Prop where
  identity : s'.identity = s.identity
  sent : s'.sent = s.sent
  tcp : s'.tcp.localPort = s.tcp.localPort
  udp : s'.udp.localPort = s.udp.localPort
  dns : s'.dns.localPort = s.dns.localPort

theorem KeepsPorts.emits (keeps : KeepsPorts s s') : EmitsAsOne s s' :=
  EmitsAsOne.silent keeps.identity keeps.sent fun ports =>
    ⟨keeps.tcp ▸ ports.tcp, keeps.udp ▸ ports.udp, keeps.dns ▸ ports.dns⟩

theorem receiveUser_keepsPorts {udp : UdpHdr} {udpAt : Nat} (done : s.receiveUser udp udpAt = some s') :
    KeepsPorts s s' := by
  rcases receiveUser_cases done with delivered | rfl
  · rcases udpDeliver_cases delivered with rfl | ⟨buffer, copyLen, data, -, -, -, rfl⟩
    · exact ⟨rfl, rfl, rfl, rfl, rfl⟩
    · refine ⟨rfl, ?_, rfl, rfl, rfl⟩
      have logged : (s.log (.udpCopy data.val)).sent = s.sent := by simp [sent, log, Event.frame?]
      exact logged
  · exact ⟨rfl, rfl, rfl, rfl, rfl⟩

theorem handleUdp_emitsAsOne {udpAt : Nat} (done : s.handleUdp udpAt = some s') : EmitsAsOne s s' := by
  obtain ⟨middle, user, dns⟩ := Option.bind_eq_some_iff.mp done
  refine (receiveUser_keepsPorts user).emits.trans ?_
  rcases receiveDns_cases dns with ⟨-, answered⟩ | rfl
  · rcases handleDns_cases answered with rfl | ⟨address, -, rfl⟩
    · exact EmitsAsOne.refl s'
    · exact EmitsAsOne.silent rfl rfl fun ports => ⟨ports.tcp, ports.udp, ports.dns⟩
  · exact EmitsAsOne.refl s'

theorem sendTcpControl_emitsAsOne {flags : UINT8} {before after : TcpSession}
    (sent : ({ s with tcp := before } : NetStack).sendTcpControl flags = some s')
    (same : before.localPort = s.tcp.localPort) (kept : after.localPort = s'.tcp.localPort) :
    EmitsAsOne s { s' with tcp := after } := by
  have starts : EmitsAsOne s { s with tcp := before } :=
    EmitsAsOne.silent rfl rfl fun ports => ⟨same ▸ ports.tcp, ports.udp, ports.dns⟩
  have ends : EmitsAsOne s' { s' with tcp := after } :=
    EmitsAsOne.silent rfl rfl fun ports => ⟨kept ▸ ports.tcp, ports.udp, ports.dns⟩
  exact (starts.trans (sendTcpInternal_emitsAsOne sent)).trans ends

theorem onSegment_emitsAsOne {input : TcpInput} {tcpAt : Nat} (done : s.onSegment input tcpAt = some s') :
    EmitsAsOne s s' := by
  cases onSegment_branch done with
  | abort rst aborted =>
      subst aborted
      exact EmitsAsOne.silent rfl rfl fun ports => ⟨ports.tcp, ports.udp, ports.dns⟩
  | accept noRst waiting synAck accepted =>
      obtain ⟨out, sent, rfl⟩ := acceptSynAck_cases accepted
      exact sendTcpControl_emitsAsOne sent rfl rfl
  | receive noRst listening middle acked copies acknowledges ends =>
      have first : EmitsAsOne s middle := by
        rcases receiveData_cases copies with ⟨-, rfl⟩ | ⟨buffer, -, -, copy⟩
        · exact EmitsAsOne.refl middle
        · obtain ⟨data, -, rfl⟩ := copyPayload_cases copy
          have copied := @log_emitsAsOne s (.tcpCopy s.tcp.rxCurrentLen data.val) rfl
          exact copied.trans (EmitsAsOne.silent rfl rfl fun ports => ⟨ports.tcp, ports.udp, ports.dns⟩)
      have second : EmitsAsOne middle acked := by
        rcases acknowledgeData_cases acknowledges with ⟨-, rfl⟩ | ⟨-, sent⟩
        · exact EmitsAsOne.refl acked
        · exact sendTcpControl_emitsAsOne sent rfl rfl
      have third : EmitsAsOne acked s' := by
        rcases receiveFin_cases ends with ⟨-, rfl⟩ | ⟨-, out, sent, rfl⟩
        · exact EmitsAsOne.refl s'
        · exact sendTcpControl_emitsAsOne sent rfl rfl
      exact (first.trans second).trans third
  | ignore noRst notSynAck deaf unchanged =>
      subst unchanged
      exact EmitsAsOne.refl s'

theorem dispatch_emits (ports : s.PortsEphemeral) (done : s.dispatch = some s') : Emits s s' := by
  cases dispatch_branch done with
  | arp type handled =>
      rw [handled]
      exact s.handleArp_emits _ ports
  | icmp type ip header protocol handled => exact (handleIcmp_emitsAsOne handled).2 ports
  | udp type ip header protocol handled => exact (handleUdp_emitsAsOne handled).2 ports
  | tcp type ip header protocol handled =>
      rcases handleTcp_cases handled with ⟨-, rfl⟩ | ⟨-, -, segment⟩
      · exact Emits.silent rfl ports
      · exact (onSegment_emitsAsOne segment).2 ports
  | drop notArp notTcp unchanged =>
      rw [unchanged]
      exact Emits.silent rfl ports

theorem resetNic_emitsAsOne (s : NetStack) : EmitsAsOne s s.resetNic :=
  ((s.log_emitsAsOne rfl).trans (log_emitsAsOne _ rfl)).trans (log_emitsAsOne _ rfl)

theorem Emits.after {middle : NetStack} (emits : Emits middle s') (identity : middle.identity = s.identity)
    (sent : middle.sent = s.sent) : Emits s s' := by
  obtain ⟨⟨frames, appended, made⟩, ports⟩ := emits
  rw [sent] at appended
  rw [identity] at made
  exact ⟨⟨frames, appended, made⟩, ports⟩

theorem poll_emits (ports : s.PortsEphemeral) (polled : s.poll = some s') : Emits s s' := by
  have same : s.received.PortsEphemeral := ⟨ports.tcp, ports.udp, ports.dns⟩
  cases poll_branch polled with
  | handle frame answer handled =>
      have landed : (s.received.landed frame).PortsEphemeral := ⟨ports.tcp, ports.udp, ports.dns⟩
      exact Emits.after (dispatch_emits landed handled) rfl (received_landed_sent s frame)
  | wait answer waited =>
      subst waited
      exact Emits.after ((@log_emitsAsOne s.received (.receive .notReady) rfl).2 same) rfl rfl
  | reset answer recovered =>
      subst recovered
      have logged := @log_emitsAsOne s.received (.receive .error) rfl
      exact Emits.after ((logged.trans (resetNic_emitsAsOne _)).2 same) rfl rfl

theorem getEphemeralPort_ephemeral (s : NetStack) : Ephemeral s.getEphemeralPort.1 := Or.inr s.getEphemeralPort_ge

theorem udpBind_emitsAsOne (s : NetStack) : EmitsAsOne s s.udpBind := by
  unfold udpBind
  split
  · exact EmitsAsOne.silent rfl rfl fun ports => ⟨ports.tcp, s.getEphemeralPort_ephemeral, ports.dns⟩
  · exact EmitsAsOne.refl s

/-- The port that a send binds is a random one. -/
theorem udpBind_port (ports : s.PortsEphemeral) : ephemeralPortBase ≤ s.udpBind.udp.localPort := by
  unfold udpBind
  split
  · exact s.getEphemeralPort_ge
  · rename_i bound
    exact ports.udp.resolve_left bound

theorem call_emits {call : Call} (ports : s.PortsEphemeral) (done : call.run s = some s') : Emits s s' := by
  cases call with
  | stall micros =>
      obtain rfl := Option.some.inj done
      exact (s.log_emitsAsOne rfl).2 ports
  | syn =>
      have sent : s.sendTcpControl tcpFlagSyn = some s' := done
      exact (sendTcpInternal_emitsAsOne sent).2 ports
  | send data =>
      rcases Call.send_cases done with ⟨-, rfl⟩ | ⟨-, out, first, rfl⟩
      · exact Emits.silent rfl ports
      · obtain ⟨sent, kept⟩ := (sendTcpInternal_emitsAsOne first).2 ports
        exact ⟨sent, kept.tcp, kept.udp, kept.dns⟩
  | closeStart =>
      obtain ⟨-, out, first, rfl⟩ := Call.closeStart_cases done
      obtain ⟨sent, kept⟩ := (sendTcpInternal_emitsAsOne first).2 ports
      exact ⟨sent, kept.tcp, kept.udp, kept.dns⟩
  | closeEnd =>
      obtain rfl := Option.some.inj done
      exact Emits.silent rfl ⟨Or.inl rfl, ports.udp, ports.dns⟩
  | udpSend destIp destPort data =>
      have fits := sendUdp_data_le (Call.udpSend_cases done)
      obtain ⟨frame, bytes, rfl⟩ := sendUdp_cases (Call.udpSend_cases done)
      obtain ⟨-, bound⟩ := (s.udpBind_emitsAsOne).2 ports
      have sent := sendFrame_sent frame s.udpBind.getU32.2
      have before : s.udpBind.getU32.2.sent = s.sent := by
        unfold udpBind
        split
        all_goals rfl
      refine ⟨⟨[_], sent.trans (by rw [before]), fun other member => ?_⟩, ⟨bound.tcp, bound.udp, bound.dns⟩⟩
      rw [List.mem_singleton.mp member, bytes]
      exact .udp s.udpBind.getU32.2 s.udpBind_emitsAsOne.1 destIp destPort (udpBind_port ports) fits _
  | ping targetIp =>
      obtain rfl := Option.some.inj done
      refine ⟨⟨[_], sendIcmpEcho_sent _ _ _ _, fun other member => ?_⟩, ⟨ports.tcp, ports.udp, ports.dns⟩⟩
      rw [List.mem_singleton.mp member]
      exact .icmpEcho _ rfl _ _ _ _
  | query hostname =>
      have fits := @dnsQuery_message_le _ _ _ s.dnsPrepared.dns.currentId done
      obtain ⟨frame, bytes, rfl⟩ := dnsQuery_cases done
      have sent := sendFrame_sent frame s.dnsPrepared
      have port : ephemeralPortBase ≤ s.dnsPrepared.dns.localPort := s.getU32.2.getEphemeralPort_ge
      refine ⟨⟨[_], sent, fun other member => ?_⟩, ⟨ports.tcp, ports.udp, Or.inr port⟩⟩
      rw [List.mem_singleton.mp member, bytes]
      exact .udp s.dnsPrepared rfl _ _ port fits _
  | receiveStart | receiveEnd | udpReceiveStart | udpReceiveEnd | resolve =>
      obtain rfl := Option.some.inj done
      exact Emits.silent rfl ⟨ports.tcp, ports.udp, ports.dns⟩

/-- Up to the open NIC nothing is sent. -/
theorem openNic_silent {boot : Boot} (opens : OpensNic boot s s') : s'.sent = s.sent := by
  obtain ⟨seed, rxPkt, rfl | rfl⟩ := opens.cases
  · rfl
  · simp [NetStack.nicOpened, stall, log, sent, repaged, Event.frame?]

theorem openNic_emits {boot : Boot} (opens : OpensNic boot s s') (ports : s.PortsEphemeral) : Emits s s' := by
  have prepares := Prepares.of_openNic opens
  exact Emits.silent (openNic_silent opens)
    ⟨prepares.tcp ▸ ports.tcp, prepares.udp ▸ ports.udp, prepares.dns ▸ ports.dns⟩

/-- An iteration of the DHCP loop emits its message before it receives. -/
theorem iteration_emits {xid : UINT32} {loop : DhcpLoop} (pending : loop.state ≠ .bound)
    (ports : loop.stack.PortsEphemeral) : Emits loop.stack (loop.iteration xid).stack := by
  have asks := loop.sendRequest_sends xid pending
  have hears := DhcpLoop.onReceive_reception (loop.sendRequest xid) (loop.sendRequest xid).stack.nextReceive
  have prepares := (Prepares.preparation.sendRequest xid loop).trans
    (Prepares.preparation.onReceive (loop.sendRequest xid).stack.nextReceive (loop.sendRequest xid))
  have sent : (loop.iteration xid).stack.sent = (loop.sendRequest xid).stack.sent := by
    cases hears with
    | nothing keeps => exact keeps.sent
    | ignored keeps => exact keeps.sent
    | offered keeps => exact keeps.sent
    | bound keeps => exact keeps.sent
  refine
    ⟨⟨_, sent.trans asks.sent, ?_⟩, prepares.tcp ▸ ports.tcp, prepares.udp ▸ ports.udp, prepares.dns ▸ ports.dns⟩
  intro frame member
  split at member
  · rw [List.mem_singleton.mp member]
    unfold DhcpLoop.request
    split
    all_goals exact .dhcp loop.stack rfl _ _
  · cases member

/-- Every small step emits what the builders make. -/
theorem smallStep_emits (ports : s.PortsEphemeral) (step : SmallStep s s') : Emits s s' := by
  cases step with
  | move own _ done =>
      cases own with
      | poll => exact poll_emits ports done
      | call call => exact call_emits ports done
  | tcpOpen s ip port => exact Emits.silent rfl ⟨s.getEphemeralPort_ephemeral, ports.udp, ports.dns⟩
  | openNic boot opens => exact openNic_emits opens ports
  | dhcp xid loop pending => exact iteration_emits pending ports
  | arpRequest s =>
      refine ⟨⟨[_], sendFrame_sent _ s, fun frame member => ?_⟩, ⟨ports.tcp, ports.udp, ports.dns⟩⟩
      rw [List.mem_singleton.mp member]
      exact .arpRequest s rfl _
  | flushArp | dhcpId | configure | gateway => exact Emits.silent rfl ⟨ports.tcp, ports.udp, ports.dns⟩

end NetStack
end UefiNetstack
