import UefiNetstack.Frames.WellFormed
import UefiNetstack.Core.Cases

namespace UefiNetstack
open Memory Constants

/-- A receiver hands a frame with these two fields to TCP. -/
def IsTcpFrame (frame : Bytes) : Prop :=
  (EthHdr.read (ofBytes frame) 0).type = htons ethertypeIpv4 ∧ (frameIp frame).protocol = ipProtoTcp

instance (frame : Bytes) : Decidable (IsTcpFrame frame) := inferInstanceAs (Decidable (_ ∧ _))

theorem frameEth_parts {eth : EthHdr} {rest : Bytes} : EthHdr.read (ofBytes (eth.bytes ++ rest)) 0 = eth :=
  EthHdr.read_stored (ofBytes_bytesAt [] eth.bytes rest)

/-- A frame with a unicast IPv4 header is TCP when its protocol is. -/
theorem isTcpFrame_parts {s : NetStack} {ip : IpHdr} {rest : Bytes} :
    IsTcpFrame (s.unicastEth.bytes ++ ip.bytes ++ rest) ↔ ip.protocol = ipProtoTcp := by
  have eth : EthHdr.read (ofBytes (s.unicastEth.bytes ++ ip.bytes ++ rest)) 0 = s.unicastEth := by
    rw [List.append_assoc]
    exact frameEth_parts
  rw [IsTcpFrame, eth, frameIp_parts]
  exact and_iff_right rfl

namespace NetStack

variable {s s' s'' : NetStack}

/-- A step keeps the session, copies nothing to its caller and sends no segment. -/
structure TcpQuiet (s s' : NetStack) : Prop where
  tcp : s'.tcp = s.tcp
  tcpDelivered : s'.tcpDelivered = s.tcpDelivered
  sent : ∃ frames, s'.sent = s.sent ++ frames ∧ ∀ frame ∈ frames, ¬IsTcpFrame frame

theorem TcpQuiet.refl (s : NetStack) : TcpQuiet s s where
  tcp := rfl
  tcpDelivered := rfl
  sent := ⟨[], (List.append_nil _).symm, by simp⟩

theorem TcpQuiet.trans (first : TcpQuiet s s') (second : TcpQuiet s' s'') : TcpQuiet s s'' where
  tcp := second.tcp.trans first.tcp
  tcpDelivered := second.tcpDelivered.trans first.tcpDelivered
  sent := by
    obtain ⟨before, sent, silent⟩ := first.sent
    obtain ⟨after, sent', silent'⟩ := second.sent
    refine ⟨before ++ after, by rw [sent', sent, List.append_assoc], ?_⟩
    intro frame member
    rcases List.mem_append.mp member with member | member
    · exact silent frame member
    · exact silent' frame member

/-- A step that changes no field of the session and leaves the trace alone is quiet. -/
theorem TcpQuiet.of_trace (tcp : s'.tcp = s.tcp) (trace : s'.trace = s.trace) : TcpQuiet s s' where
  tcp := tcp
  tcpDelivered := congrArg (List.flatMap Event.tcpBytes) trace
  sent := ⟨[], by rw [List.append_nil]; exact congrArg (List.filterMap Event.frame?) trace, by simp⟩

/-- Logging an event that is neither a frame nor a copy is quiet. -/
theorem log_tcpQuiet (s : NetStack) {event : Event} (noFrame : event.frame? = none) (noCopy : event.tcpBytes = []) :
    TcpQuiet s (s.log event) where
  tcp := rfl
  tcpDelivered := by simp [tcpDelivered, log, noCopy]
  sent := ⟨[], by simp [sent, log, noFrame], by simp⟩

theorem sendFrame_tcpQuiet (s : NetStack) {data : TxFrame} (other : ¬IsTcpFrame data.bytes) :
    TcpQuiet s (s.sendFrame data) where
  tcp := rfl
  tcpDelivered := sendFrame_tcpDelivered data s
  sent := ⟨[data.bytes], sendFrame_sent data s, by simpa using other⟩

theorem arpReplyFrame_not_tcp (s : NetStack) (arp : ArpHdr) : ¬IsTcpFrame (s.arpReplyFrame arp) := by
  intro tcp
  have type := tcp.1
  unfold arpReplyFrame at type
  rw [frameEth_parts] at type
  have equal : htons ethertypeArp = htons ethertypeIpv4 := type
  exact absurd equal (by decide)

theorem learnArp_tcpQuiet (s : NetStack) (arp : ArpHdr) : TcpQuiet s (s.learnArp arp) := by
  rw [learnArp_eq]
  exact TcpQuiet.of_trace rfl rfl

theorem handleArp_tcpQuiet (s : NetStack) (arp : ArpHdr) : TcpQuiet s (s.handleArp arp) := by
  rcases s.handleArp_cases arp with ⟨-, learned⟩ | ⟨-, ⟨frame, bytes, sent⟩ | same⟩
  · rw [learned]
    exact s.learnArp_tcpQuiet arp
  · rw [sent]
    exact s.sendFrame_tcpQuiet (bytes ▸ s.arpReplyFrame_not_tcp arp)
  · rw [same]
    exact TcpQuiet.refl s

theorem icmpReplyFrame_not_tcp (s : NetStack) (saddr : UINT32) (message : Bytes) (random : UINT32) :
    ¬IsTcpFrame (s.icmpReplyFrame saddr message random) := by
  unfold icmpReplyFrame
  rw [isTcpFrame_parts]
  have different : ipProtoIcmp ≠ ipProtoTcp := by decide
  exact different

theorem replyToPing_tcpQuiet {ip : IpHdr} {icmpAt : Nat} {len : UINTN}
    (done : s.replyToPing ip icmpAt len = some s') : TcpQuiet s s' := by
  rcases replyToPing_cases done with rfl | ⟨message, frame, -, bytes, rfl⟩
  · exact TcpQuiet.refl s'
  · have drawn : TcpQuiet s s.getU32.2 := TcpQuiet.of_trace rfl rfl
    exact drawn.trans (s.getU32.2.sendFrame_tcpQuiet (bytes ▸ icmpReplyFrame_not_tcp _ _ _ _))

theorem handleIcmp_tcpQuiet {ip : IpHdr} {icmpAt : Nat} {len : UINTN}
    (done : s.handleIcmp ip icmpAt len = some s') : TcpQuiet s s' := by
  rcases handleIcmp_cases done with echoed | rfl | rfl
  · exact replyToPing_tcpQuiet echoed
  · exact TcpQuiet.of_trace rfl rfl
  · exact TcpQuiet.refl s'

/-- The resolver accepts the message at an offset and finds the address in it. -/
structure AnswersQuery (s : NetStack) (dnsAt : Nat) (address : UINT32) : Prop where
  id : (DnsHdr.read s.rxPkt.byte dnsAt).id = htons s.dns.currentId
  response : ntohs (DnsHdr.read s.rxPkt.byte dnsAt).flags &&& dnsFlagResponse ≠ 0#16
  found : ∃ p, s.rxPkt.skipQuestions (ntohs (DnsHdr.read s.rxPkt.byte dnsAt).qdcount).toNat (dnsAt + sizeofDnsHdr) =
      some p ∧
    s.rxPkt.findAddress (ntohs (DnsHdr.read s.rxPkt.byte dnsAt).ancount).toNat p = some (some address)

/-- The resolver stores the address of an answer and changes nothing else. -/
theorem handleDns_cases {dnsAt : Nat} (done : s.handleDns dnsAt = some s') :
    s' = s ∨ ∃ address, AnswersQuery s dnsAt address ∧
      s' = { s with dns := { s.dns with resolvedIp := address, resolved := true } } := by
  unfold handleDns at done
  dsimp only at done
  split at done
  · exact Or.inl (Option.some.inj done).symm
  · rename_i id
    split at done
    · exact Or.inl (Option.some.inj done).symm
    · rename_i response
      split at done
      · exact Or.inl (Option.some.inj done).symm
      · obtain ⟨p, skips, rest⟩ := Option.bind_eq_some_iff.mp done
        obtain ⟨answer, finds, stored⟩ := Option.bind_eq_some_iff.mp rest
        cases answer with
        | none => exact Or.inl (Option.some.inj stored).symm
        | some address =>
          exact Or.inr ⟨address, ⟨not_not.mp id, response, p, skips, finds⟩, (Option.some.inj stored).symm⟩

/-- What changes of the receiver and the resolver and copies keep, the UDP handler keeps. -/
theorem handleUdp_keeps {keeps : NetStack → NetStack → Prop}
    (trans : ∀ {s s' s''}, keeps s s' → keeps s' s'' → keeps s s'')
    (globals : ∀ (s : NetStack) (dns : DnsResolution) (udp : UdpReceiver), keeps s { s with dns, udp })
    (copied : ∀ (s : NetStack) (data : Bytes), keeps s (s.log (.udpCopy data))) {udpAt : Nat}
    (done : s.handleUdp udpAt = some s') : keeps s s' := by
  have same (s : NetStack) : keeps s s := globals s _ _
  obtain ⟨middle, user, dns⟩ := Option.bind_eq_some_iff.mp done
  have first : keeps s middle := by
    rcases receiveUser_cases user with delivered | rfl
    · rcases udpDeliver_cases delivered with rfl | ⟨buffer, copyLen, data, -, -, -, rfl⟩
      · exact same middle
      · exact trans (copied s data.val) (globals _ _ _)
    · exact same middle
  have second : keeps middle s' := by
    rcases receiveDns_cases dns with ⟨-, answered⟩ | rfl
    · rcases handleDns_cases answered with rfl | ⟨address, -, rfl⟩
      · exact same s'
      · exact globals middle _ _
    · exact same s'
  exact trans first second

theorem handleUdp_tcpQuiet {udpAt : Nat} (done : s.handleUdp udpAt = some s') : TcpQuiet s s' := by
  refine handleUdp_keeps TcpQuiet.trans ?_ ?_ done
  · intro s dns udp
    exact TcpQuiet.of_trace rfl rfl
  · intro s data
    exact s.log_tcpQuiet rfl rfl

/-- The segment for the session that the page carries: what `handle_tcp` computes from its headers
and where its TCP header starts. -/
def arrival (s : NetStack) : Option (TcpInput × Nat) :=
  let ip := IpHdr.read s.rxPkt.byte sizeofEthHdr
  let tcpAt := sizeofEthHdr + (ipHlen ip).toNat
  let tcp := TcpHdr.read s.rxPkt.byte tcpAt
  if (EthHdr.read s.rxPkt.byte 0).type = htons ethertypeIpv4 ∧ ip.protocol = ipProtoTcp ∧
      ntohs tcp.dest = s.tcp.localPort ∧ s.tcp.localPort ≠ 0#16 then
    some (TcpInput.ofHeaders ip tcp, tcpAt)
  else none

/-- The dispatcher leaves the session alone or runs the state machine on the segment of the page. -/
theorem dispatch_cases (done : s.dispatch = some s') :
    (s.arrival = none ∧ TcpQuiet s s') ∨
    ∃ input tcpAt, s.arrival = some (input, tcpAt) ∧ s.onSegment input tcpAt = some s' := by
  have arpIpv4 : htons ethertypeArp ≠ htons ethertypeIpv4 := by decide
  have icmpTcp : ipProtoIcmp ≠ ipProtoTcp := by decide
  have udpTcp : ipProtoUdp ≠ ipProtoTcp := by decide
  cases dispatch_branch done with
  | arp type handled =>
    rw [handled]
    exact Or.inl ⟨if_neg fun here => arpIpv4 (type.symm.trans here.1), s.handleArp_tcpQuiet _⟩
  | icmp type ip header protocol handled =>
    subst header
    exact Or.inl ⟨if_neg fun here => icmpTcp (protocol.symm.trans here.2.1), handleIcmp_tcpQuiet handled⟩
  | udp type ip header protocol handled =>
    subst header
    exact Or.inl ⟨if_neg fun here => udpTcp (protocol.symm.trans here.2.1), handleUdp_tcpQuiet handled⟩
  | tcp type ip header protocol handled =>
    subst header
    rcases handleTcp_cases handled with ⟨elsewhere, rfl⟩ | ⟨dest, bound, segment⟩
    · exact Or.inl ⟨if_neg fun here => elsewhere here.2.2, TcpQuiet.refl s'⟩
    · exact Or.inr ⟨_, _, if_pos ⟨type, protocol, dest, bound⟩, segment⟩
  | drop notArp notTcp unchanged =>
    rw [unchanged]
    exact Or.inl ⟨if_neg fun here => notTcp ⟨here.1, here.2.1⟩, TcpQuiet.refl s⟩

/-- What changes of the globals, frames and copies keep, a dispatch keeps. -/
theorem dispatch_keeps {keeps : NetStack → NetStack → Prop}
    (trans : ∀ {s s' s''}, keeps s s' → keeps s' s'' → keeps s s'')
    (globals : ∀ (s : NetStack) (identity : Identity) (seed : UINT32) (arp : ArpResolution) (arpCache : ArpCache)
      (dns : DnsResolution) (tcp : TcpSession) (udp : UdpReceiver) (ping : PingState),
      keeps s { s with identity, rngSeed := seed, arp, arpCache, dns, tcp, udp, ping })
    (sends : ∀ (s : NetStack) (frame : TxFrame), keeps s (s.sendFrame frame))
    (tcpCopied : ∀ (s : NetStack) (offset : UINTN) (data : Bytes), keeps s (s.log (.tcpCopy offset data)))
    (udpCopied : ∀ (s : NetStack) (data : Bytes), keeps s (s.log (.udpCopy data)))
    (done : s.dispatch = some s') : keeps s s' := by
  have same (s : NetStack) : keeps s s := globals s _ _ _ _ _ _ _ _
  have drawn (s : NetStack) (frame : TxFrame) : keeps s (s.getU32.2.sendFrame frame) :=
    trans (globals s _ _ _ _ _ _ _ _) (sends _ frame)
  cases dispatch_branch done with
  | arp type handled =>
    rcases s.handleArp_cases (ArpHdr.read s.rxPkt.byte sizeofEthHdr) with ⟨-, learned⟩ | ⟨-, ⟨frame, -, sent⟩ | nothing⟩
    · rw [handled, learned, learnArp_eq]
      exact globals s _ _ _ _ _ _ _ _
    · rw [handled, sent]
      exact sends s frame
    · rw [handled, nothing]
      exact same s
  | icmp type ip header protocol handled =>
    rcases handleIcmp_cases handled with echoed | rfl | rfl
    · rcases replyToPing_cases echoed with rfl | ⟨message, frame, -, -, rfl⟩
      · exact same s'
      · exact drawn s frame
    · exact globals s _ _ _ _ _ _ _ _
    · exact same s'
  | udp type ip header protocol handled =>
    exact handleUdp_keeps trans (fun s dns udp => globals s _ _ _ _ dns _ udp _) udpCopied handled
  | tcp type ip header protocol handled =>
    rcases handleTcp_cases handled with ⟨-, rfl⟩ | ⟨-, -, segment⟩
    · exact same s'
    · refine onSegment_keeps trans (fun s tcp => globals s _ _ _ _ _ _ _ _) ?_ tcpCopied segment
      intro s s' flags sent
      obtain ⟨frame, -, rfl⟩ := sendTcpInternal_cases sent
      exact drawn s frame
  | drop notArp notTcp unchanged =>
    rw [unchanged]
    exact same s

/-- The stack after Receive has put a frame on the page. -/
def landed (s : NetStack) (frame : RxFrame) : NetStack :=
  { s.log (.receive (.frame frame)) with rxPkt := s.rxPkt.receive frame }

theorem landed_tcpQuiet (s : NetStack) (frame : RxFrame) : TcpQuiet s (s.landed frame) :=
  (s.log_tcpQuiet rfl rfl).trans (TcpQuiet.of_trace rfl rfl)

theorem received_tcpQuiet (s : NetStack) : TcpQuiet s s.received := TcpQuiet.of_trace rfl rfl

/-- The segment for the session that an answer of Receive brings. -/
def arrivalOn (answer : Receive) (s : NetStack) : Option (TcpInput × Nat) :=
  match answer with
  | .frame frame => (s.landed frame).arrival
  | .notReady => none
  | .error => none

theorem resetNic_tcpQuiet (s : NetStack) : TcpQuiet s s.resetNic :=
  ((s.log_tcpQuiet rfl rfl).trans (log_tcpQuiet _ rfl rfl)).trans (log_tcpQuiet _ rfl rfl)

/-- What a poll does with the answer of Receive. -/
inductive PollBranch (s s' : NetStack) : Prop
  | handle (frame : RxFrame) (answer : s.nextReceive = .frame frame)
      (handled : (s.received.landed frame).dispatch = some s')
  | wait (answer : s.nextReceive = .notReady) (waited : s' = s.received.log (.receive .notReady))
  | reset (answer : s.nextReceive = .error) (recovered : s' = (s.received.log (.receive .error)).resetNic)

theorem poll_branch (done : s.poll = some s') : PollBranch s s' := by
  unfold poll at done
  cases answer : s.nextReceive with
  | frame frame =>
    rw [answer] at done
    exact .handle frame answer done
  | notReady =>
    rw [answer] at done
    exact .wait answer (Option.some.inj done).symm
  | error =>
    rw [answer] at done
    exact .reset answer (Option.some.inj done).symm

/-- One poll on a given answer leaves the session alone or runs the state machine. -/
theorem pollOn_cases {answer : Receive} (done : s.pollOn answer = some s') :
    (s.arrivalOn answer = none ∧ TcpQuiet s s') ∨
    ∃ frame input tcpAt, answer = .frame frame ∧ s.arrivalOn answer = some (input, tcpAt) ∧
      (s.landed frame).onSegment input tcpAt = some s' := by
  cases answer with
  | frame frame =>
    rcases dispatch_cases (s := s.landed frame) done with ⟨nothing, quiet⟩ | ⟨input, tcpAt, arrives, segment⟩
    · exact Or.inl ⟨nothing, (s.landed_tcpQuiet frame).trans quiet⟩
    · exact Or.inr ⟨frame, input, tcpAt, rfl, arrives, segment⟩
  | notReady =>
    obtain rfl := Option.some.inj done
    exact Or.inl ⟨rfl, s.log_tcpQuiet rfl rfl⟩
  | error =>
    obtain rfl := Option.some.inj done
    exact Or.inl ⟨rfl, (s.log_tcpQuiet rfl rfl).trans (resetNic_tcpQuiet _)⟩

end NetStack
end UefiNetstack
