import UefiNetstack.Core.Poll

namespace UefiNetstack
open Constants

namespace NetStack

variable {s s' : NetStack} {input : TcpInput} {tcpAt : Nat}

/-- A sender that returns has drawn a random number and sent one frame. -/
theorem sendTcpInternal_cases {flags : UINT8} {seq ack : UINT32} {data : Bytes}
    (done : s.sendTcpInternal flags seq ack data = some s') :
    ∃ frame : TxFrame, frame.bytes = s.getU32.2.tcpFrame flags seq ack data s.getU32.1 ∧
      s' = s.getU32.2.sendFrame frame := by
  unfold sendTcpInternal at done
  split at done
  · exact ⟨_, rfl, (Option.some.inj done).symm⟩
  · cases done

theorem sendUdp_cases {destIp : UINT32} {destPort srcPort : UINT16} {data : Bytes}
    (done : s.sendUdp destIp destPort srcPort data = some s') :
    ∃ frame : TxFrame, frame.bytes = s.getU32.2.udpFrame destIp destPort srcPort data s.getU32.1 ∧
      s' = s.getU32.2.sendFrame frame := by
  unfold sendUdp at done
  split at done
  · exact ⟨_, rfl, (Option.some.inj done).symm⟩
  · cases done

theorem dnsQuery_cases {hostname : CString} (done : s.dnsQuery hostname = some s') :
    ∃ frame : TxFrame, frame.bytes =
        s.dnsPrepared.dnsFrame hostname s.dnsPrepared.dns.localPort s.dnsPrepared.dns.currentId s.getU32.1 ∧
      s' = s.dnsPrepared.sendFrame frame := by
  unfold dnsQuery at done
  split at done
  · exact ⟨_, rfl, (Option.some.inj done).symm⟩
  · cases done

/-- A reply changes three groups of globals. -/
theorem learnArp_eq (s : NetStack) (arp : ArpHdr) : s.learnArp arp =
    { s with
      arpCache := s.arpCache.update arp.spa arp.sha
      arp := if arp.spa = s.arp.targetIp then { s.arp with targetMac := arp.sha, resolved := true } else s.arp
      identity := if arp.spa = s.identity.routerIp then { s.identity with routerMac := arp.sha } else s.identity } := by
  unfold learnArp
  dsimp only
  by_cases target : arp.spa = s.arp.targetIp
  · rw [if_pos target, if_pos target]
    dsimp only
    split
    all_goals rfl
  · rw [if_neg target, if_neg target]
    dsimp only
    split
    all_goals rfl

theorem handleArp_cases (arp : ArpHdr) (s : NetStack) :
    (ntohs arp.oper = arpOperReply ∧ s.handleArp arp = s.learnArp arp) ∨
    ntohs arp.oper ≠ arpOperReply ∧ ((∃ frame : TxFrame, frame.bytes = s.arpReplyFrame arp ∧
      s.handleArp arp = s.sendFrame frame) ∨ s.handleArp arp = s) := by
  unfold handleArp
  dsimp only
  split
  · rename_i reply
    exact Or.inl ⟨reply, rfl⟩
  · rename_i notReply
    refine Or.inr ⟨notReply, ?_⟩
    split
    · split
      · exact Or.inl ⟨_, rfl, rfl⟩
      · exact Or.inr rfl
    · exact Or.inr rfl

/-- A message that is too long for the packet is dropped, any other one is sent back. -/
theorem replyToPing_cases {ip : IpHdr} {icmpAt : Nat} {len : UINTN} (done : s.replyToPing ip icmpAt len = some s') :
    s' = s ∨ ∃ (message : { data : Bytes // data.length = len.toNat }) (frame : TxFrame),
      s.rxPkt.copy icmpAt len.toNat = some message ∧
      frame.bytes = s.getU32.2.icmpReplyFrame ip.saddr message.val s.getU32.1 ∧
      s' = s.getU32.2.sendFrame frame := by
  unfold replyToPing at done
  dsimp only at done
  split at done
  · exact Or.inl (Option.some.inj done).symm
  · split at done
    · obtain ⟨message, copied, sent⟩ := Option.bind_eq_some_iff.mp done
      exact Or.inr ⟨message, _, copied, rfl, (Option.some.inj sent).symm⟩
    · cases done

theorem handleIcmp_cases {ip : IpHdr} {icmpAt : Nat} {len : UINTN} (done : s.handleIcmp ip icmpAt len = some s') :
    s.replyToPing ip icmpAt len = some s' ∨
      s' = { s with ping := { s.ping with replyReceived := true } } ∨ s' = s := by
  unfold handleIcmp at done
  dsimp only at done
  split at done
  · exact Or.inl done
  · split at done
    · split at done
      · exact Or.inr (Or.inl (Option.some.inj done).symm)
      · exact Or.inr (Or.inr (Option.some.inj done).symm)
    · exact Or.inr (Or.inr (Option.some.inj done).symm)

/-- The copy is as long as the payload and the buffer allow. -/
theorem udpDeliver_cases {udp : UdpHdr} {udpAt : Nat} (done : s.udpDeliver udp udpAt = some s') :
    s' = s ∨ ∃ (buffer : Memory) (copyLen : UINTN) (data : { data : Bytes // data.length = copyLen.toNat }),
      s.udp.rxBuffer = some buffer ∧ copyLen.toNat ≤ s.udp.rxMaxLen.toNat ∧
      s.rxPkt.copy (udpAt + sizeofUdpHdr) copyLen.toNat = some data ∧
      s' = { s.log (.udpCopy data.val) with
        udp := { s.udp with rxBuffer := some (buffer.write 0 data.val), rxCurrentLen := copyLen, rxDone := true } } := by
  unfold udpDeliver at done
  dsimp only at done
  split at done
  · rename_i buffer pending
    split at done
    · obtain ⟨data, copied, stored⟩ := Option.bind_eq_some_iff.mp done
      refine Or.inr ⟨buffer, _, data, pending, ?_, copied, (Option.some.inj stored).symm⟩
      split
      · exact Nat.le_refl _
      · rename_i fits
        exact Nat.le_of_not_lt fits
    · exact Or.inl (Option.some.inj done).symm
  · exact Or.inl (Option.some.inj done).symm

theorem receiveUser_cases {udp : UdpHdr} {udpAt : Nat} (done : s.receiveUser udp udpAt = some s') :
    s.udpDeliver udp udpAt = some s' ∨ s' = s := by
  unfold receiveUser at done
  split at done
  · exact Or.inl done
  · exact Or.inr (Option.some.inj done).symm

theorem receiveDns_cases {udp : UdpHdr} {udpAt : Nat} (done : s.receiveDns udp udpAt = some s') :
    ((ntohs udp.dest = s.dns.localPort ∧ s.dns.localPort ≠ 0#16 ∧ ntohs udp.source = udpPortDns) ∧
      s.handleDns (udpAt + sizeofUdpHdr) = some s') ∨ s' = s := by
  unfold receiveDns at done
  split at done
  · rename_i wanted
    exact Or.inl ⟨wanted, done⟩
  · exact Or.inr (Option.some.inj done).symm

theorem acceptSynAck_cases (done : s.acceptSynAck input = some s') :
    ∃ sent, sendTcpControl tcpFlagAck
        { s with tcp := { s.tcp with seq := input.rxAck, ack := input.rxSeq + 0x01#32 } } = some sent ∧
      s' = { sent with tcp := { sent.tcp with state := .established } } := by
  unfold acceptSynAck at done
  obtain ⟨sent, first, result⟩ := Option.bind_eq_some_iff.mp done
  exact ⟨sent, first, (Option.some.inj result).symm⟩

theorem copyPayload_cases {buffer : Memory} {payloadAt : Nat} {copyLen : UINTN}
    (done : s.copyPayload buffer payloadAt copyLen = some s') :
    ∃ data, s.rxPkt.copy payloadAt copyLen.toNat = some data ∧
      s' = { s.log (.tcpCopy s.tcp.rxCurrentLen data.val) with
        tcp := { s.tcp with
          rxBuffer := some (buffer.write s.tcp.rxCurrentLen.toNat data.val)
          rxCurrentLen := s.tcp.rxCurrentLen + copyLen
          rxDone := true } } := by
  obtain ⟨data, copied, stored⟩ := Option.bind_eq_some_iff.mp done
  exact ⟨data, copied, (Option.some.inj stored).symm⟩

/-- Payload is copied when a receive waits for it and has room. -/
theorem receiveData_cases (done : s.receiveData input tcpAt = some s') :
    (¬(s.tcp.rxBuffer.isSome ∧ input.payloadLen > 0#64 ∧ s.copyLen input > 0#64) ∧ s' = s) ∨
    ∃ buffer, s.tcp.rxBuffer = some buffer ∧ s.copyLen input > 0#64 ∧
      s.copyPayload buffer (tcpAt + input.tcpHlen.toNat) (s.copyLen input) = some s' := by
  unfold receiveData at done
  split at done
  · rename_i buffer pending
    split at done
    · split at done
      · rename_i room
        exact Or.inr ⟨buffer, pending, room, done⟩
      · rename_i full
        exact Or.inl ⟨fun copies => full copies.2.2, (Option.some.inj done).symm⟩
    · rename_i empty
      exact Or.inl ⟨fun copies => empty copies.2.1, (Option.some.inj done).symm⟩
  · rename_i unset
    exact Or.inl ⟨fun copies => by simp [unset] at copies, (Option.some.inj done).symm⟩

theorem receiveData_empty (empty : ¬input.payloadLen > 0#64) : s.receiveData input tcpAt = some s := by
  unfold receiveData
  split
  · rw [if_neg empty]
  · rfl

theorem acknowledgeData_cases (done : s.acknowledgeData input = some s') :
    (¬input.payloadLen > 0#64 ∧ s' = s) ∨ input.payloadLen > 0#64 ∧ sendTcpControl tcpFlagAck
      { s with
        tcp := { s.tcp with
          seq := input.rxAck
          ack := (input.rxSeq.setWidth 64 + input.payloadLen).setWidth 32 } } = some s' := by
  unfold acknowledgeData at done
  split at done
  · rename_i data
    exact Or.inr ⟨data, done⟩
  · rename_i empty
    exact Or.inl ⟨empty, (Option.some.inj done).symm⟩

theorem receiveFin_cases (done : s.receiveFin input = some s') :
    (¬input.has tcpFlagFin ∧ s' = s) ∨ input.has tcpFlagFin ∧ ∃ sent, sendTcpControl tcpFlagFinAck
        { s with
          tcp := { s.tcp with
            seq := input.rxAck
            ack := (input.rxSeq.setWidth 64 + input.payloadLen + 0x01#64).setWidth 32 } } = some sent ∧
      s' = { sent with tcp := { sent.tcp with state := .closedDone } } := by
  unfold receiveFin at done
  split at done
  · rename_i fin
    obtain ⟨sent, first, result⟩ := Option.bind_eq_some_iff.mp done
    exact Or.inr ⟨fin, sent, first, (Option.some.inj result).symm⟩
  · rename_i noFin
    exact Or.inl ⟨noFin, (Option.some.inj done).symm⟩

/-- The branch of the state machine that a segment takes. -/
inductive SegmentBranch (input : TcpInput) (tcpAt : Nat) (s s' : NetStack) : Prop
  | abort (rst : input.has tcpFlagRst) (aborted : s' = s.abortTcp)
  | accept (noRst : ¬input.has tcpFlagRst) (waiting : s.tcp.state = .synSent) (synAck : input.isSynAck)
      (accepted : s.acceptSynAck input = some s')
  | receive (noRst : ¬input.has tcpFlagRst) (listening : s.tcp.state = .established ∨ s.tcp.state = .finWait)
      (copied acked : NetStack) (copies : s.receiveData input tcpAt = some copied)
      (acknowledges : copied.acknowledgeData input = some acked) (ends : acked.receiveFin input = some s')
  | ignore (noRst : ¬input.has tcpFlagRst) (notSynAck : ¬(s.tcp.state = .synSent ∧ input.isSynAck))
      (deaf : ¬(s.tcp.state = .established ∨ s.tcp.state = .finWait)) (unchanged : s' = s)

theorem onSegment_branch (done : s.onSegment input tcpAt = some s') : SegmentBranch input tcpAt s s' := by
  unfold onSegment at done
  split at done
  · rename_i rst
    exact .abort rst (Option.some.inj done).symm
  · rename_i noRst
    split at done
    · rename_i waiting
      split at done
      · rename_i synAck
        exact .accept noRst waiting synAck done
      · rename_i other
        exact .ignore noRst (fun both => other both.2) (by simp [waiting]) (Option.some.inj done).symm
    · rename_i notWaiting
      split at done
      · rename_i listening
        obtain ⟨copied, copies, rest⟩ := Option.bind_eq_some_iff.mp done
        obtain ⟨acked, acknowledges, ends⟩ := Option.bind_eq_some_iff.mp rest
        exact .receive noRst listening copied acked copies acknowledges ends
      · rename_i deaf
        exact .ignore noRst (fun both => notWaiting both.1) deaf (Option.some.inj done).symm

/-- What changes of the session, segments of our own and copies keep, the state machine keeps. -/
theorem onSegment_keeps {keeps : NetStack → NetStack → Prop}
    (trans : ∀ {s s' s''}, keeps s s' → keeps s' s'' → keeps s s'')
    (session : ∀ (s : NetStack) (tcp : TcpSession), keeps s { s with tcp })
    (control : ∀ {s s' : NetStack} {flags : UINT8}, s.sendTcpControl flags = some s' → keeps s s')
    (copied : ∀ (s : NetStack) (offset : UINTN) (data : Bytes), keeps s (s.log (.tcpCopy offset data)))
    (done : s.onSegment input tcpAt = some s') : keeps s s' := by
  have same (s : NetStack) : keeps s s := session s s.tcp
  have answer {s s' : NetStack} {flags : UINT8} {before after : TcpSession}
      (sent : ({ s with tcp := before } : NetStack).sendTcpControl flags = some s') : keeps s { s' with tcp := after } :=
    trans (trans (session s before) (control sent)) (session s' after)
  cases onSegment_branch done with
  | abort rst aborted =>
      subst aborted
      exact session s _
  | accept noRst waiting synAck accepted =>
      obtain ⟨out, sent, rfl⟩ := acceptSynAck_cases accepted
      exact answer sent
  | receive noRst listening middle acked copies acknowledges ends =>
      have first : keeps s middle := by
        rcases receiveData_cases copies with ⟨-, rfl⟩ | ⟨buffer, -, -, copy⟩
        · exact same middle
        · obtain ⟨data, -, rfl⟩ := copyPayload_cases copy
          exact trans (copied s _ _) (session _ _)
      have second : keeps middle acked := by
        rcases acknowledgeData_cases acknowledges with ⟨-, rfl⟩ | ⟨-, sent⟩
        · exact same acked
        · exact trans (session middle _) (control sent)
      have third : keeps acked s' := by
        rcases receiveFin_cases ends with ⟨-, rfl⟩ | ⟨-, out, sent, rfl⟩
        · exact same s'
        · exact answer sent
      exact trans (trans first second) third
  | ignore noRst notSynAck deaf unchanged =>
      subst unchanged
      exact same s'

theorem handleTcp_cases {ip : IpHdr} (done : s.handleTcp ip tcpAt = some s') :
    (¬(ntohs (TcpHdr.read s.rxPkt.byte tcpAt).dest = s.tcp.localPort ∧ s.tcp.localPort ≠ 0#16) ∧ s' = s) ∨
    (ntohs (TcpHdr.read s.rxPkt.byte tcpAt).dest = s.tcp.localPort ∧ s.tcp.localPort ≠ 0#16 ∧
      s.onSegment (TcpInput.ofHeaders ip (TcpHdr.read s.rxPkt.byte tcpAt)) tcpAt = some s') := by
  unfold handleTcp at done
  dsimp only at done
  split at done
  · rename_i elsewhere
    exact Or.inl ⟨by tauto, (Option.some.inj done).symm⟩
  · rename_i here
    exact Or.inr ⟨by tauto, by tauto, done⟩

/-- The handler that the dispatcher calls for the page. -/
inductive DispatchBranch (s s' : NetStack) : Prop
  | arp (type : (EthHdr.read s.rxPkt.byte 0).type = htons ethertypeArp)
      (handled : s' = s.handleArp (ArpHdr.read s.rxPkt.byte sizeofEthHdr))
  | icmp (type : (EthHdr.read s.rxPkt.byte 0).type = htons ethertypeIpv4) (ip : IpHdr)
      (header : ip = IpHdr.read s.rxPkt.byte sizeofEthHdr) (protocol : ip.protocol = ipProtoIcmp)
      (handled : s.handleIcmp ip (sizeofEthHdr + (ipHlen ip).toNat)
        ((ntohs ip.totLen).setWidth 64 - ipHlen ip) = some s')
  | udp (type : (EthHdr.read s.rxPkt.byte 0).type = htons ethertypeIpv4) (ip : IpHdr)
      (header : ip = IpHdr.read s.rxPkt.byte sizeofEthHdr) (protocol : ip.protocol = ipProtoUdp)
      (handled : s.handleUdp (sizeofEthHdr + (ipHlen ip).toNat) = some s')
  | tcp (type : (EthHdr.read s.rxPkt.byte 0).type = htons ethertypeIpv4) (ip : IpHdr)
      (header : ip = IpHdr.read s.rxPkt.byte sizeofEthHdr) (protocol : ip.protocol = ipProtoTcp)
      (handled : s.handleTcp ip (sizeofEthHdr + (ipHlen ip).toNat) = some s')
  | drop (notArp : (EthHdr.read s.rxPkt.byte 0).type ≠ htons ethertypeArp)
      (notTcp : ¬((EthHdr.read s.rxPkt.byte 0).type = htons ethertypeIpv4 ∧
        (IpHdr.read s.rxPkt.byte sizeofEthHdr).protocol = ipProtoTcp))
      (unchanged : s' = s)

theorem dispatch_branch (done : s.dispatch = some s') : DispatchBranch s s' := by
  unfold dispatch at done
  dsimp only at done
  split at done
  · rename_i type
    exact .arp type (Option.some.inj done).symm
  · rename_i notArp
    split at done
    · rename_i type
      unfold dispatchIp at done
      dsimp only at done
      split at done
      · rename_i protocol
        exact .icmp type _ rfl protocol done
      · split at done
        · rename_i protocol
          exact .udp type _ rfl protocol done
        · split at done
          · rename_i protocol
            exact .tcp type _ rfl protocol done
          · rename_i other
            exact .drop notArp (fun both => other both.2) (Option.some.inj done).symm
    · rename_i other
      exact .drop notArp (fun both => other both.1) (Option.some.inj done).symm

variable {ip : IpHdr} {tcpAt : Nat}

theorem dispatch_ipv4 (type : (EthHdr.read s.rxPkt.byte 0).type = htons ethertypeIpv4) : s.dispatch = s.dispatchIp := by
  have notArp : htons ethertypeIpv4 ≠ htons ethertypeArp := by decide
  exact (if_neg (type ▸ notArp)).trans (if_pos type)

theorem dispatch_toIcmp (type : (EthHdr.read s.rxPkt.byte 0).type = htons ethertypeIpv4)
    (header : IpHdr.read s.rxPkt.byte sizeofEthHdr = ip) (protocol : ip.protocol = ipProtoIcmp) :
    s.dispatch = s.handleIcmp ip (sizeofEthHdr + (ipHlen ip).toNat) ((ntohs ip.totLen).setWidth 64 - ipHlen ip) := by
  rw [dispatch_ipv4 type, dispatchIp, header]
  exact if_pos protocol

theorem dispatch_toUdp (type : (EthHdr.read s.rxPkt.byte 0).type = htons ethertypeIpv4)
    (header : IpHdr.read s.rxPkt.byte sizeofEthHdr = ip) (protocol : ip.protocol = ipProtoUdp) :
    s.dispatch = s.handleUdp (sizeofEthHdr + (ipHlen ip).toNat) := by
  have notIcmp : ipProtoUdp ≠ ipProtoIcmp := by decide
  rw [dispatch_ipv4 type, dispatchIp, header]
  exact (if_neg (protocol ▸ notIcmp)).trans (if_pos protocol)

theorem dispatch_toTcp (type : (EthHdr.read s.rxPkt.byte 0).type = htons ethertypeIpv4)
    (header : IpHdr.read s.rxPkt.byte sizeofEthHdr = ip) (protocol : ip.protocol = ipProtoTcp) :
    s.dispatch = s.handleTcp ip (sizeofEthHdr + (ipHlen ip).toNat) := by
  have notIcmp : ipProtoTcp ≠ ipProtoIcmp := by decide
  have notUdp : ipProtoTcp ≠ ipProtoUdp := by decide
  rw [dispatch_ipv4 type, dispatchIp, header]
  exact (if_neg (protocol ▸ notIcmp)).trans ((if_neg (protocol ▸ notUdp)).trans (if_pos protocol))

/-- A segment for the local port runs the state machine. -/
theorem handleTcp_here (dest : ntohs (TcpHdr.read s.rxPkt.byte tcpAt).dest = s.tcp.localPort)
    (bound : s.tcp.localPort ≠ 0#16) :
    s.handleTcp ip tcpAt = s.onSegment (TcpInput.ofHeaders ip (TcpHdr.read s.rxPkt.byte tcpAt)) tcpAt :=
  if_neg fun elsewhere => elsewhere.elim (fun other => other dest) bound

theorem handleTcp_elsewhere
    (elsewhere : ¬(ntohs (TcpHdr.read s.rxPkt.byte tcpAt).dest = s.tcp.localPort ∧ s.tcp.localPort ≠ 0#16)) :
    s.handleTcp ip tcpAt = some s := by
  refine if_pos ?_
  by_contra here
  exact elsewhere ⟨not_not.mp (not_or.mp here).1, (not_or.mp here).2⟩

end NetStack
end UefiNetstack
