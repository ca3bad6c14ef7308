import UefiNetstack.Exchange.Delivery

namespace UefiNetstack
open Constants

/-- The frame that an event takes from Receive. -/
def Event.taken? : Event → Option RxFrame
  | .receive (.frame frame) => some frame
  | _ => none

theorem Snp.Quiet.taken?_eq_none {event : Event} (quiet : Snp.Quiet event) : event.taken? = none := by
  rcases quiet with ⟨_, rfl⟩ | ⟨_, rfl⟩ <;> rfl

/-- The ARP reply on a page. -/
def RxPkt.arpReply (page : RxPkt) : Option ArpHdr :=
  let arp := ArpHdr.read page.byte sizeofEthHdr
  if (EthHdr.read page.byte 0).type = htons ethertypeArp ∧ ntohs arp.oper = arpOperReply then some arp else none

namespace NetStack

variable {s s' s'' : NetStack}

/-- The frames that were taken from Receive, in order. -/
def taken (s : NetStack) : List RxFrame := s.trace.filterMap Event.taken?

/-- A step that takes no frame and learns nothing of the neighbours. -/
structure TakesNothing (s s' : NetStack) : Prop where
  identity : s'.identity = s.identity
  arp : s'.arp = s.arp
  arpCache : s'.arpCache = s.arpCache
  rxPkt : s'.rxPkt = s.rxPkt
  taken : s'.taken = s.taken

theorem TakesNothing.refl (s : NetStack) : TakesNothing s s := ⟨rfl, rfl, rfl, rfl, rfl⟩

theorem TakesNothing.trans (first : TakesNothing s s') (second : TakesNothing s' s'') : TakesNothing s s'' where
  identity := second.identity.trans first.identity
  arp := second.arp.trans first.arp
  arpCache := second.arpCache.trans first.arpCache
  rxPkt := second.rxPkt.trans first.rxPkt
  taken := second.taken.trans first.taken

/-- Such a step that keeps the resolver as well. -/
structure KeepsResolver (s s' : NetStack) : Prop extends TakesNothing s s' where
  dns : s'.dns = s.dns

theorem KeepsResolver.refl (s : NetStack) : KeepsResolver s s := ⟨TakesNothing.refl s, rfl⟩

theorem KeepsResolver.trans (first : KeepsResolver s s') (second : KeepsResolver s' s'') : KeepsResolver s s'' :=
  ⟨first.toTakesNothing.trans second.toTakesNothing, second.dns.trans first.dns⟩

theorem log_taken (s : NetStack) {event : Event} (other : event.taken? = none) : (s.log event).taken = s.taken := by
  simp [taken, log, other]

theorem log_keepsResolver (s : NetStack) {event : Event} (other : event.taken? = none) :
    KeepsResolver s (s.log event) :=
  ⟨⟨rfl, rfl, rfl, rfl, s.log_taken other⟩, rfl⟩

theorem sendFrame_taken (data : TxFrame) (s : NetStack) : (s.sendFrame data).taken = s.taken := by
  have seen := sendFrame_filterMap Event.taken? (fun _ quiet => quiet.taken?_eq_none) data s
  exact seen.trans (List.append_nil _)

theorem sendFrame_keepsResolver (data : TxFrame) (s : NetStack) : KeepsResolver s (s.sendFrame data) :=
  ⟨⟨rfl, rfl, rfl, rfl, sendFrame_taken data s⟩, rfl⟩

theorem sendTcpInternal_keepsResolver {flags : UINT8} {seq ack : UINT32} {data : Bytes}
    (done : s.sendTcpInternal flags seq ack data = some s') : KeepsResolver s s' := by
  obtain ⟨frame, -, rfl⟩ := sendTcpInternal_cases done
  exact ⟨⟨rfl, rfl, rfl, rfl, sendFrame_taken frame s.getU32.2⟩, rfl⟩

theorem replyToPing_keepsResolver {ip : IpHdr} {icmpAt : Nat} {len : UINTN}
    (done : s.replyToPing ip icmpAt len = some s') : KeepsResolver s s' := by
  rcases replyToPing_cases done with rfl | ⟨message, frame, -, -, rfl⟩
  · exact KeepsResolver.refl s'
  · exact ⟨⟨rfl, rfl, rfl, rfl, sendFrame_taken frame s.getU32.2⟩, rfl⟩

theorem handleIcmp_keepsResolver {ip : IpHdr} {icmpAt : Nat} {len : UINTN}
    (done : s.handleIcmp ip icmpAt len = some s') : KeepsResolver s s' := by
  rcases handleIcmp_cases done with echoed | rfl | rfl
  · exact replyToPing_keepsResolver echoed
  · exact ⟨⟨rfl, rfl, rfl, rfl, rfl⟩, rfl⟩
  · exact KeepsResolver.refl s'

theorem udpDeliver_keepsResolver {udp : UdpHdr} {udpAt : Nat} (done : s.udpDeliver udp udpAt = some s') :
    KeepsResolver s s' := by
  rcases udpDeliver_cases done with rfl | ⟨buffer, copyLen, data, -, -, -, rfl⟩
  · exact KeepsResolver.refl s'
  · exact ⟨⟨rfl, rfl, rfl, rfl, s.log_taken rfl⟩, rfl⟩

theorem receiveUser_keepsResolver {udp : UdpHdr} {udpAt : Nat} (done : s.receiveUser udp udpAt = some s') :
    KeepsResolver s s' := by
  rcases receiveUser_cases done with delivered | rfl
  · exact udpDeliver_keepsResolver delivered
  · exact KeepsResolver.refl s'

/-- A change of the session alone is not one of the resolver. -/
theorem KeepsResolver.of_tcp {tcp tcp' : TcpSession} (keeps : KeepsResolver { s with tcp } s') :
    KeepsResolver s { s' with tcp := tcp' } :=
  ⟨⟨keeps.identity, keeps.arp, keeps.arpCache, keeps.rxPkt, keeps.taken⟩, keeps.dns⟩

theorem onSegment_keepsResolver {input : TcpInput} {tcpAt : Nat} (done : s.onSegment input tcpAt = some s') :
    KeepsResolver s s' := by
  refine onSegment_keeps ?_ ?_ ?_ ?_ done
  · exact KeepsResolver.trans
  · exact fun s tcp => (KeepsResolver.refl s).of_tcp
  · exact fun sent => sendTcpInternal_keepsResolver sent
  · exact fun s offset data => s.log_keepsResolver rfl

/-- The page carries a datagram that answers the query of the resolver with an address. -/
structure AnswerOnPage (s : NetStack) (udpAt : Nat) (address : UINT32) : Prop where
  type : (EthHdr.read s.rxPkt.byte 0).type = htons ethertypeIpv4
  protocol : (IpHdr.read s.rxPkt.byte sizeofEthHdr).protocol = ipProtoUdp
  place : udpAt = sizeofEthHdr + (ipHlen (IpHdr.read s.rxPkt.byte sizeofEthHdr)).toNat
  dest : ntohs (UdpHdr.read s.rxPkt.byte udpAt).dest = s.dns.localPort
  asked : s.dns.localPort ≠ 0#16
  source : ntohs (UdpHdr.read s.rxPkt.byte udpAt).source = udpPortDns
  answers : AnswersQuery s (udpAt + sizeofUdpHdr) address

/-- What a dispatch does to the neighbours and to the resolver. -/
inductive DispatchStep (s s' : NetStack) : Prop
  | reply (arp : ArpHdr) (found : s.rxPkt.arpReply = some arp) (learned : s' = s.learnArp arp)
  | answer (udpAt : Nat) (address : UINT32) (noReply : s.rxPkt.arpReply = none)
      (found : AnswerOnPage s udpAt address) (keeps : TakesNothing s s')
      (dns : s'.dns = { s.dns with resolvedIp := address, resolved := true })
  | other (noReply : s.rxPkt.arpReply = none) (keeps : KeepsResolver s s')

theorem arpReply_ipv4 {page : RxPkt} (ipv4 : (EthHdr.read page.byte 0).type ≠ htons ethertypeArp) :
    page.arpReply = none :=
  if_neg fun here => ipv4 here.1

theorem handleArp_step (type : (EthHdr.read s.rxPkt.byte 0).type = htons ethertypeArp) :
    DispatchStep s (s.handleArp (ArpHdr.read s.rxPkt.byte sizeofEthHdr)) := by
  rcases s.handleArp_cases (ArpHdr.read s.rxPkt.byte sizeofEthHdr) with ⟨reply, learned⟩ | ⟨notReply, rest⟩
  · exact .reply _ (if_pos ⟨type, reply⟩) learned
  · have noReply : s.rxPkt.arpReply = none := if_neg fun here => notReply here.2
    rcases rest with ⟨frame, -, sent⟩ | same
    · rw [sent]
      exact .other noReply (sendFrame_keepsResolver frame s)
    · rw [same]
      exact .other noReply (KeepsResolver.refl s)

/-- The resolver takes an answer or nothing. -/
theorem handleUdp_step {udpAt : Nat} (type : (EthHdr.read s.rxPkt.byte 0).type = htons ethertypeIpv4)
    (protocol : (IpHdr.read s.rxPkt.byte sizeofEthHdr).protocol = ipProtoUdp)
    (place : udpAt = sizeofEthHdr + (ipHlen (IpHdr.read s.rxPkt.byte sizeofEthHdr)).toNat)
    (done : s.handleUdp udpAt = some s') : DispatchStep s s' := by
  have notArp : htons ethertypeIpv4 ≠ htons ethertypeArp := by decide
  have noReply := arpReply_ipv4 (type ▸ notArp)
  obtain ⟨middle, user, rest⟩ := Option.bind_eq_some_iff.mp done
  have keeps := receiveUser_keepsResolver user
  rcases receiveDns_cases rest with ⟨wanted, handled⟩ | rfl
  · rw [keeps.dns] at wanted
    obtain ⟨dest, asked, source⟩ := wanted
    rcases handleDns_cases handled with rfl | ⟨address, answers, rfl⟩
    · exact .other noReply keeps
    · have found : AnswersQuery s (udpAt + sizeofUdpHdr) address := by
        obtain ⟨id, response, found⟩ := answers
        rw [keeps.rxPkt] at id response found
        rw [keeps.dns] at id
        exact ⟨id, response, found⟩
      have dns : ({ middle with dns := { middle.dns with resolvedIp := address, resolved := true } } : NetStack).dns =
          { s.dns with resolvedIp := address, resolved := true } := by rw [← keeps.dns]
      exact .answer udpAt address noReply ⟨type, protocol, place, dest, asked, source, found⟩
        ⟨keeps.identity, keeps.arp, keeps.arpCache, keeps.rxPkt, keeps.taken⟩ dns
  · exact .other noReply keeps

theorem dispatch_step (done : s.dispatch = some s') : DispatchStep s s' := by
  have ipv4Arp : htons ethertypeIpv4 ≠ htons ethertypeArp := by decide
  cases dispatch_branch done with
  | arp type handled =>
      subst handled
      exact handleArp_step type
  | icmp type ip header protocol handled =>
      exact .other (arpReply_ipv4 (type ▸ ipv4Arp)) (handleIcmp_keepsResolver handled)
  | udp type ip header protocol handled =>
      subst header
      exact handleUdp_step type protocol rfl handled
  | tcp type ip header protocol handled =>
      have noReply := arpReply_ipv4 (type ▸ ipv4Arp)
      rcases handleTcp_cases handled with ⟨-, rfl⟩ | ⟨-, -, segment⟩
      · exact .other noReply (KeepsResolver.refl s')
      · exact .other noReply (onSegment_keepsResolver segment)
  | drop notArp notTcp unchanged =>
      subst unchanged
      exact .other (arpReply_ipv4 notArp) (KeepsResolver.refl s')

theorem landed_taken (s : NetStack) (frame : RxFrame) : (s.landed frame).taken = s.taken ++ [frame] := by
  have taken : (s.trace ++ [Event.receive (.frame frame)]).filterMap Event.taken? = s.taken ++ [frame] := by
    simp [NetStack.taken, Event.taken?]
  exact taken

theorem resetNic_keepsResolver (s : NetStack) : KeepsResolver s s.resetNic := by
  have reset := @log_keepsResolver s .reset rfl
  have filters := @log_keepsResolver (s.log .reset) .receiveFilters rfl
  exact (reset.trans filters).trans (@log_keepsResolver _ (.stall stall10ms) rfl)

/-- A poll dispatches the frame that it gets, or takes none. -/
theorem poll_step (done : s.poll = some s') :
    (∃ frame, s.nextReceive = .frame frame ∧ DispatchStep (s.received.landed frame) s') ∨ KeepsResolver s s' := by
  have start : KeepsResolver s s.received := ⟨⟨rfl, rfl, rfl, rfl, rfl⟩, rfl⟩
  cases poll_branch done with
  | handle frame answer handled => exact Or.inl ⟨frame, answer, dispatch_step handled⟩
  | wait answer waited =>
      subst waited
      exact Or.inr (start.trans (@log_keepsResolver s.received (.receive .notReady) rfl))
  | reset answer recovered =>
      subst recovered
      exact Or.inr ((start.trans (@log_keepsResolver s.received (.receive .error) rfl)).trans (resetNic_keepsResolver _))

end NetStack
end UefiNetstack
