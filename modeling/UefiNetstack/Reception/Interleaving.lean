import UefiNetstack.Core.Related
import UefiNetstack.Exchange.Arp
import UefiNetstack.Lib.Separation
import UefiNetstack.Reception.Acceptance
import UefiNetstack.Reception.Protocols

namespace UefiNetstack
open Constants Memory NetStack Relational Separation

namespace NetStack

variable {s s' t t' : NetStack}

/-- The stacks look the same to the handler of a protocol. -/
structure SameFor (protocol : Protocol) (s t : NetStack) : Prop where
  rxPkt : t.rxPkt = s.rxPkt
  context : t.context = s.context
  view : t.view (some protocol) = s.view (some protocol)

theorem SameFor.myIp {protocol : Protocol} (same : SameFor protocol s t) : t.identity.myIp = s.identity.myIp :=
  congrArg (fun context => context.1.myIp) same.context

/-- Frames of one protocol with the same content keep its transcripts the same. -/
theorem sendFrame_sameTranscript {protocol : Protocol} {frame frame' : TxFrame}
    (before : t.transcript protocol = s.transcript protocol)
    (same : frameProtocol frame'.bytes = frameProtocol frame.bytes)
    (content : frameContent frame'.bytes = frameContent frame.bytes) :
    (t.sendFrame frame').transcript protocol = (s.sendFrame frame).transcript protocol := by
  rw [sendFrame_transcript, sendFrame_transcript, before, same, content]

theorem unmask_identity {own other : Identity}
    (masked : { own with routerMac := ByteArr.zero 6 } = { other with routerMac := ByteArr.zero 6 })
    (mac : own.routerMac = other.routerMac) : own = other := by
  have unmasked (identity : Identity) : identity =
      { { identity with routerMac := ByteArr.zero 6 } with routerMac := identity.routerMac } := rfl
  rw [unmasked own, masked, mac]

theorem SameFor.identity (same : SameFor .arp s t) : t.identity = s.identity :=
  unmask_identity (Prod.mk.inj same.context).1 (Prod.mk.inj same.view).1

theorem sameFor_arp (rxPkt : t.rxPkt = s.rxPkt) (identity : t.identity = s.identity) (arp : t.arp = s.arp)
    (arpCache : t.arpCache = s.arpCache) (sent : t.transcript .arp = s.transcript .arp) : SameFor .arp s t where
  rxPkt := rxPkt
  context := by rw [NetStack.context, NetStack.context, identity, rxPkt]
  view := Prod.ext (congrArg Identity.routerMac identity) (Prod.ext arp (Prod.ext arpCache sent))

theorem sameFor_handleArp (same : SameFor .arp s t) (arp : ArpHdr) :
    SameFor .arp (s.handleArp arp) (t.handleArp arp) := by
  have identity := same.identity
  obtain ⟨-, rest⟩ := Prod.mk.inj same.view
  obtain ⟨resolution, rest⟩ := Prod.mk.inj rest
  obtain ⟨arpCache, sent⟩ := Prod.mk.inj rest
  have frames : t.arpReplyFrame arp = s.arpReplyFrame arp := by
    simp only [arpReplyFrame, identity]
  refine ite_related Iff.rfl (fun _ => ?_) fun _ => ?_
  · rw [learnArp_eq, learnArp_eq]
    refine sameFor_arp same.rxPkt ?_ ?_ ?_ sent
    · rw [identity]
    · rw [resolution]
    · rw [arpCache]
  · refine ite_related Iff.rfl (fun _ => ?_) fun _ => same
    refine ite_related (by rw [identity]) (fun _ => ?_) fun _ => same
    refine sameFor_arp same.rxPkt identity resolution arpCache ?_
    exact sendFrame_sameTranscript sent (congrArg frameProtocol frames) (congrArg frameContent frames)

theorem icmp_related : IcmpRelated (SameFor .icmp) where
  rxPkt := fun same => same.rxPkt
  ping := fun same => (Prod.mk.inj same.view).1
  update := by
    intro s t same ping
    exact ⟨same.rxPkt, same.context, Prod.ext rfl (Prod.mk.inj same.view).2⟩
  reply := by
    intro s t same ip icmpAt len
    refine ite_related Iff.rfl (fun _ => .some same) fun _ => ?_
    split
    · have copies : t.getU32.2.rxPkt.copy icmpAt len.toNat = s.getU32.2.rxPkt.copy icmpAt len.toNat := by
        have page : t.getU32.2.rxPkt = s.getU32.2.rxPkt := same.rxPkt
        rw [page]
      refine rel_bind (R := Eq) (copies ▸ rel_refl (fun _ => rfl) _) fun message _ equal => ?_
      subst equal
      obtain ⟨ping, sent⟩ := Prod.mk.inj same.view
      refine .some ⟨same.rxPkt, same.context, Prod.ext ping (sendFrame_sameTranscript sent ?_ ?_)⟩
      · rw [icmpReplyFrame_protocol, icmpReplyFrame_protocol]
      · rw [icmpReplyFrame_content, icmpReplyFrame_content]
        exact congrArg (Content.packet · ip.saddr (icmpReply message.val)) same.myIp
    · exact .none

theorem udp_related : UdpRelated (SameFor .udp) where
  rxPkt := fun same => same.rxPkt
  udp := fun same => (Prod.mk.inj same.view).1
  dns := fun same => (Prod.mk.inj (Prod.mk.inj same.view).2).1
  receiver := by
    intro s t same udp
    exact ⟨same.rxPkt, same.context, Prod.ext rfl (Prod.mk.inj same.view).2⟩
  resolver := by
    intro s t same dns
    obtain ⟨udp, rest⟩ := Prod.mk.inj same.view
    exact ⟨same.rxPkt, same.context, Prod.ext udp (Prod.ext rfl (Prod.mk.inj rest).2)⟩
  copied := by
    intro s t same data
    refine ⟨same.rxPkt, same.context, ?_⟩
    rw [view_log _ t rfl rfl, view_log _ s rfl rfl, same.view]

theorem tcp_related : TcpRelated (SameFor .tcp) where
  rxPkt := fun same => same.rxPkt
  tcp := fun same => (Prod.mk.inj same.view).1
  session := by
    intro s t same tcp
    exact ⟨same.rxPkt, same.context, Prod.ext rfl (Prod.mk.inj same.view).2⟩
  control := by
    intro s t same flags
    obtain ⟨tcp, rest⟩ := Prod.mk.inj same.view
    obtain ⟨delivered, sent⟩ := Prod.mk.inj rest
    obtain ⟨frame, sends, bytes⟩ := s.sendTcpInternal_eq flags s.tcp.seq s.tcp.ack [] (Nat.zero_le _)
    obtain ⟨frame', sends', bytes'⟩ := t.sendTcpInternal_eq flags t.tcp.seq t.tcp.ack [] (Nat.zero_le _)
    unfold sendTcpControl
    rw [sends, sends']
    refine .some ⟨same.rxPkt, same.context, Prod.ext tcp (Prod.ext ?_ (sendFrame_sameTranscript sent ?_ ?_))⟩
    · exact (sendFrame_tcpDelivered frame' _).trans (delivered.trans (sendFrame_tcpDelivered frame _).symm)
    · rw [bytes, bytes', tcpFrame_protocol, tcpFrame_protocol]
    · have myIp : t.getU32.2.identity.myIp = s.getU32.2.identity.myIp := same.myIp
      have session : t.getU32.2.tcp = s.getU32.2.tcp := tcp
      rw [bytes, bytes', tcp]
      exact tcpFrame_content myIp session _ _ _ _ _ _
  copied := by
    intro s t same offset data
    obtain ⟨tcp, rest⟩ := Prod.mk.inj same.view
    obtain ⟨delivered, sent⟩ := Prod.mk.inj rest
    have grows (x : NetStack) : (x.log (.tcpCopy offset data)).tcpDelivered = x.tcpDelivered ++ data := by
      simp [tcpDelivered, log, Event.tcpBytes]
    refine ⟨same.rxPkt, same.context, Prod.ext tcp (Prod.ext ?_ ?_)⟩
    · exact (grows t).trans ((congrArg (· ++ data) delivered).trans (grows s).symm)
    · exact (transcript_congr .tcp (log_silent t rfl)).trans (sent.trans (transcript_congr .tcp (log_silent s rfl)).symm)

/-- The next seed of the generator. -/
def nextSeed (seed : UINT32) : UINT32 := (0x3039#32 + 0x41C64E6D#32 * seed) % 0x7FFFFFFF#32

/-- Each segment and each echo reply has drawn one random id. -/
def drawn (s : NetStack) : Nat := (s.transcript .icmp).length + (s.transcript .tcp).length

/-- A step draws for what it sends. -/
def Draws (s s' : NetStack) : Prop := ∃ count, s'.drawn = s.drawn + count ∧ s'.rngSeed = nextSeed^[count] s.rngSeed

/-- A step of one protocol. -/
structure ProtocolStep (protocol : Protocol) (s s' : NetStack) : Prop where
  context : s'.context = s.context
  others : ∀ other, other ≠ some protocol → s'.view other = s.view other
  draws : Draws s s'

variable {protocol : Protocol} {s'' : NetStack}

theorem Draws.trans (first : Draws s s') (second : Draws s' s'') : Draws s s'' := by
  obtain ⟨count, drawn, seed⟩ := first
  obtain ⟨count', drawn', seed'⟩ := second
  refine ⟨count + count', by omega, ?_⟩
  rw [seed', seed, ← Function.iterate_add_apply, Nat.add_comm]

theorem ProtocolStep.refl (protocol : Protocol) (s : NetStack) : ProtocolStep protocol s s :=
  ⟨rfl, fun _ _ => rfl, 0, rfl, rfl⟩

theorem ProtocolStep.trans (first : ProtocolStep protocol s s') (second : ProtocolStep protocol s' s'') :
    ProtocolStep protocol s s'' where
  context := second.context.trans first.context
  others := fun other different => (second.others other different).trans (first.others other different)
  draws := first.draws.trans second.draws

/-- A step that sends nothing and draws nothing. -/
theorem ProtocolStep.silent (context : s'.context = s.context)
    (others : ∀ other, other ≠ some protocol → s'.view other = s.view other) (sent : s'.sent = s.sent)
    (seed : s'.rngSeed = s.rngSeed) : ProtocolStep protocol s s' := by
  refine ⟨context, others, 0, ?_, seed⟩
  rw [drawn, drawn, transcript_congr .icmp sent, transcript_congr .tcp sent]
  rfl

theorem ProtocolStep.sends {frame : TxFrame} (own : frameProtocol frame.bytes = some protocol) (s : NetStack)
    (count : Nat) (draws : count = if protocol = .icmp ∨ protocol = .tcp then 1 else 0) :
    ProtocolStep protocol s (({ s with rngSeed := nextSeed^[count] s.rngSeed } : NetStack).sendFrame frame) := by
  have sent (other : Protocol) := sendFrame_transcript frame { s with rngSeed := nextSeed^[count] s.rngSeed } other
  have silent (other : Protocol) (different : some other ≠ some protocol) :
      (({ s with rngSeed := nextSeed^[count] s.rngSeed } : NetStack).sendFrame frame).transcript other =
        s.transcript other := by
    rw [sent, if_neg (by rw [own]; exact Ne.symm different), List.append_nil]
    rfl
  refine ⟨rfl, fun other different => ?_, count, ?_, rfl⟩
  · match other with
    | none => rfl
    | some .arp => exact Prod.ext rfl (Prod.ext rfl (Prod.ext rfl (silent .arp different)))
    | some .icmp => exact Prod.ext rfl (silent .icmp different)
    | some .udp => exact Prod.ext rfl (Prod.ext rfl (silent .udp different))
    | some .tcp =>
        exact Prod.ext rfl (Prod.ext (sendFrame_tcpDelivered frame _) (silent .tcp different))
  · have same (other : Protocol) :
        transcript other { s with rngSeed := nextSeed^[count] s.rngSeed } = s.transcript other := rfl
    rw [drawn, sent, sent, own, same, same, List.length_append, List.length_append, draws, drawn]
    cases protocol with
    | arp => rfl
    | icmp => exact Nat.add_right_comm _ 1 _
    | udp => rfl
    | tcp => rfl

theorem handleArp_protocolStep (s : NetStack) (arp : ArpHdr) : ProtocolStep .arp s (s.handleArp arp) := by
  rcases s.handleArp_cases arp with ⟨-, learned⟩ | ⟨-, ⟨frame, bytes, sent⟩ | same⟩
  · rw [learned, learnArp_eq]
    refine ProtocolStep.silent ?_ (fun other different => ?_) rfl rfl
    · refine Prod.ext ?_ rfl
      dsimp only [NetStack.context]
      split
      all_goals rfl
    · match other with
      | some .arp => exact absurd rfl different
      | none | some .icmp | some .udp | some .tcp => rfl
  · rw [sent]
    exact ProtocolStep.sends (by rw [bytes]; exact s.arpReplyFrame_protocol arp) s 0 rfl
  · rw [same]
    exact ProtocolStep.refl .arp s

theorem handleIcmp_protocolStep {ip : IpHdr} {icmpAt : Nat} {len : UINTN}
    (done : s.handleIcmp ip icmpAt len = some s') : ProtocolStep .icmp s s' := by
  rcases handleIcmp_cases done with echoed | rfl | rfl
  · rcases replyToPing_cases echoed with rfl | ⟨message, frame, -, bytes, rfl⟩
    · exact ProtocolStep.refl .icmp s'
    · exact ProtocolStep.sends (by rw [bytes]; exact icmpReplyFrame_protocol _ _ _ _) s 1 rfl
  · refine ProtocolStep.silent rfl (fun other different => ?_) rfl rfl
    match other with
    | some .icmp => exact absurd rfl different
    | none | some .arp | some .udp | some .tcp => rfl
  · exact ProtocolStep.refl .icmp s'

/-- A copy to the receiver. -/
theorem udpCopy_protocolStep (s : NetStack) (data : Bytes) : ProtocolStep .udp s (s.log (.udpCopy data)) :=
  ProtocolStep.silent rfl (fun other _ => view_log other s rfl rfl) (s.log_silent rfl) rfl

theorem handleUdp_protocolStep {udpAt : Nat} (done : s.handleUdp udpAt = some s') : ProtocolStep .udp s s' := by
  refine handleUdp_keeps ProtocolStep.trans (fun s dns udp => ?_) udpCopy_protocolStep done
  refine ProtocolStep.silent rfl (fun other different => ?_) rfl rfl
  match other with
  | some .udp => exact absurd rfl different
  | none | some .arp | some .icmp | some .tcp => rfl

theorem onSegment_protocolStep {input : TcpInput} {tcpAt : Nat} (done : s.onSegment input tcpAt = some s') :
    ProtocolStep .tcp s s' := by
  refine onSegment_keeps ProtocolStep.trans (fun s tcp => ?_) ?_ ?_ done
  · refine ProtocolStep.silent rfl (fun other different => ?_) rfl rfl
    match other with
    | some .tcp => exact absurd rfl different
    | none | some .arp | some .icmp | some .udp => rfl
  · intro s s' flags sent
    obtain ⟨frame, bytes, rfl⟩ := sendTcpInternal_cases sent
    exact ProtocolStep.sends (by rw [bytes]; exact tcpFrame_protocol _ _ _ _ _ _) s 1 rfl
  · intro s offset data
    have silent : (s.log (.tcpCopy offset data)).sent = s.sent := s.log_silent rfl
    have sent (other : Protocol) := transcript_congr other silent
    refine ProtocolStep.silent rfl (fun other different => ?_) (s.log_silent rfl) rfl
    match other with
    | some .tcp => exact absurd rfl different
    | none => rfl
    | some .arp => exact Prod.ext rfl (Prod.ext rfl (Prod.ext rfl (sent .arp)))
    | some .icmp => exact Prod.ext rfl (sent .icmp)
    | some .udp => exact Prod.ext rfl (Prod.ext rfl (sent .udp))

end NetStack

/-- The protocol of a received frame. -/
def RxFrame.protocol (frame : RxFrame) : Option Protocol := Protocol.ofFields frame.eth.type frame.ip.protocol

/-- The protocol that an answer of Receive is for. -/
def Receive.protocol : Receive → Option Protocol
  | .frame arrived => arrived.protocol
  | .notReady => none
  | .error => none

/-- A frame that holds all that its handler reads, whatever the stack is waiting for. -/
def Receive.SelfContained : Receive → Prop
  | .frame arrived => ∀ s : NetStack, s.Contained arrived
  | .notReady => True
  | .error => True

namespace NetStack

variable {s s' t t' : NetStack} {frame : RxFrame}

/-- A step of a protocol, or of none. -/
def FrameStep (protocol : Option Protocol) (s s' : NetStack) : Prop :=
  match protocol with
  | some protocol => ProtocolStep protocol s s'
  | none => s' = s

theorem FrameStep.refl (protocol : Option Protocol) (s : NetStack) : FrameStep protocol s s := by
  cases protocol with
  | none => rfl
  | some protocol => exact ProtocolStep.refl protocol s

theorem dispatch_protocolStep (has : s.HasFrame frame) (done : s.dispatch = some s') :
    FrameStep frame.protocol s s' := by
  have notArp : htons ethertypeIpv4 ≠ htons ethertypeArp := by decide
  have ofIp (isIp : frame.eth.type = htons ethertypeIpv4) (protocol : UINT8) (same : frame.ip.protocol = protocol) :
      frame.protocol = Protocol.ofFields (htons ethertypeIpv4) protocol := by
    rw [RxFrame.protocol, isIp, same]
  cases dispatch_branch done with
  | arp type handled =>
      rw [has.eth] at type
      rw [show frame.protocol = some .arp from if_pos type, handled]
      exact s.handleArp_protocolStep _
  | icmp type ip header protocol handled =>
      rw [has.eth] at type
      rw [header, has.ip type] at protocol
      rw [ofIp type _ protocol, show Protocol.ofFields (htons ethertypeIpv4) ipProtoIcmp = some .icmp by decide]
      exact handleIcmp_protocolStep handled
  | udp type ip header protocol handled =>
      rw [has.eth] at type
      rw [header, has.ip type] at protocol
      rw [ofIp type _ protocol, show Protocol.ofFields (htons ethertypeIpv4) ipProtoUdp = some .udp by decide]
      exact handleUdp_protocolStep handled
  | tcp type ip header protocol handled =>
      rw [has.eth] at type
      rw [header, has.ip type] at protocol
      rw [ofIp type _ protocol, show Protocol.ofFields (htons ethertypeIpv4) ipProtoTcp = some .tcp by decide]
      rcases handleTcp_cases handled with ⟨-, rfl⟩ | ⟨-, -, segment⟩
      · exact ProtocolStep.refl .tcp s'
      · exact onSegment_protocolStep segment
  | drop notArp notTcp unchanged =>
      rw [unchanged]
      exact FrameStep.refl _ s

/-- The views that the protocol of the frame has. -/
def SameViews (frame : RxFrame) (s t : NetStack) : Prop := s.view frame.protocol = t.view frame.protocol

theorem dispatch_sameViews (has : s.HasFrame frame) (page : t.rxPkt = s.rxPkt)
    (same : ∀ protocol, frame.protocol = some protocol → SameFor protocol s t) :
    Option.Rel (SameViews frame) s.dispatch t.dispatch := by
  have views {protocol : Protocol} (own : frame.protocol = some protocol) (s t : NetStack) (same : SameFor protocol s t) :
      SameViews frame s t := by
    rw [SameViews, own]
    exact same.view.symm
  have silent (unknown : frame.protocol = none) : SameViews frame s t := by
    rw [SameViews, unknown]
    rfl
  unfold dispatch
  rw [page, has.eth]
  refine ite_related Iff.rfl (fun isArp => ?_) fun notArp => ?_
  · have own : frame.protocol = some .arp := if_pos isArp
    exact .some (views own _ _ (sameFor_handleArp (same .arp own) _))
  · refine ite_related Iff.rfl (fun isIp => ?_) fun notIp => .some (silent ((if_neg notArp).trans (if_neg notIp)))
    unfold dispatchIp
    rw [page, has.ip isIp]
    have fields : frame.protocol = _ := (if_neg notArp).trans (if_pos isIp)
    refine ite_related Iff.rfl (fun isIcmp => ?_) fun notIcmp => ?_
    · have own : frame.protocol = some .icmp := fields.trans (if_pos isIcmp)
      exact rel_mono (views own) (icmp_related.handleIcmp (same .icmp own) _ _ _)
    refine ite_related Iff.rfl (fun isUdp => ?_) fun notUdp => ?_
    · have own : frame.protocol = some .udp := fields.trans ((if_neg notIcmp).trans (if_pos isUdp))
      exact rel_mono (views own) (udp_related.handleUdp (same .udp own) _)
    refine ite_related Iff.rfl (fun isTcp => ?_) fun notTcp => ?_
    · have own : frame.protocol = some .tcp :=
        fields.trans ((if_neg notIcmp).trans ((if_neg notUdp).trans (if_pos isTcp)))
      exact rel_mono (views own) (tcp_related.handleTcp (same .tcp own) _ _)
    · exact .some (silent (fields.trans ((if_neg notIcmp).trans ((if_neg notUdp).trans (if_neg notTcp)))))

/-- The stack with a frame alone on its page. -/
def onFrame (frame : RxFrame) (s : NetStack) : NetStack :=
  (s.log (.receive (.frame frame))).withBytes (Memory.write (fun _ => 0) 0 frame.bytes)

theorem onFrame_hasFrame (headers : frame.HeadersInside) (s : NetStack) : (s.onFrame frame).HasFrame frame where
  headers := headers
  agree := received_agree frame _

/-- A poll does what the dispatcher does to the frame alone, and keeps its own page. -/
theorem pollOn_onFrame (contained : ∀ s : NetStack, s.Contained frame) (s : NetStack) :
    ∃ ended, (s.onFrame frame).dispatch = some ended ∧
      ∃ m, s.pollOn (.frame frame) = some (ended.withBytes m) := by
  obtain ⟨s', every⟩ := (contained s).staleFree
  refine ⟨s'.withBytes (Memory.write (fun _ => 0) 0 frame.bytes), ?_, s.rxPkt.byte.write 0 frame.bytes, ?_⟩
  · exact every fun _ => 0
  · exact every s.rxPkt.byte

theorem draws_log (s : NetStack) {event : Event} (silent : event.frame? = none) : Draws s (s.log event) := by
  refine ⟨0, ?_, rfl⟩
  rw [drawn, drawn, transcript_congr .icmp (s.log_silent silent), transcript_congr .tcp (s.log_silent silent)]
  rfl

theorem view_onFrame (protocol : Option Protocol) (frame : RxFrame) (s : NetStack) :
    (s.onFrame frame).view protocol = s.view protocol :=
  view_log protocol s rfl rfl

/-- Without a frame a poll changes no view. -/
theorem pollOn_idle {answer : Receive} (idle : answer = .notReady ∨ answer = .error)
    (done : s.pollOn answer = some s') :
    s'.context = s.context ∧ (∀ protocol, s'.view protocol = s.view protocol) ∧ Draws s s' := by
  rcases idle with rfl | rfl
  · obtain rfl := Option.some.inj done
    exact ⟨rfl, fun protocol => view_log protocol s rfl rfl, draws_log s rfl⟩
  · obtain rfl := Option.some.inj done
    refine ⟨rfl, fun protocol => ?_, ?_⟩
    · have logged := @view_log protocol s (.receive .error) rfl rfl
      have reset := @view_log protocol (s.log (.receive .error)) .reset rfl rfl
      have filters := @view_log protocol ((s.log (.receive .error)).log .reset) .receiveFilters rfl rfl
      exact (view_log protocol _ rfl rfl).trans (filters.trans (reset.trans logged))
    · exact (((draws_log s rfl).trans (draws_log _ rfl)).trans (draws_log _ rfl)).trans (draws_log _ rfl)

/-- A poll is a step of the protocol of its frame. -/
theorem pollOn_protocolStep (contained : ∀ s : NetStack, s.Contained frame)
    (done : s.pollOn (.frame frame) = some s') :
    s'.context = s.context ∧ (∀ other, other ≠ frame.protocol → s'.view other = s.view other) ∧ Draws s s' := by
  obtain ⟨ended, handled, m, polled⟩ := pollOn_onFrame contained s
  obtain rfl := Option.some.inj (polled.symm.trans done)
  have starts : Draws s (s.onFrame frame) := draws_log s rfl
  have stepped := dispatch_protocolStep (onFrame_hasFrame (contained s).headers s) handled
  generalize frame.protocol = protocol at stepped
  cases protocol with
  | none =>
      rw [show ended = s.onFrame frame from stepped]
      exact ⟨rfl, fun other _ => view_onFrame other frame s, starts⟩
  | some protocol =>
      have step : ProtocolStep protocol (s.onFrame frame) ended := stepped
      exact ⟨step.context, fun other different => (step.others other different).trans (view_onFrame other frame s),
        starts.trans step.draws⟩

/-- Stacks with the same context have the same page behind a frame. -/
theorem onFrame_rxPkt (sameContext : s.context = t.context) : (t.onFrame frame).rxPkt = (s.onFrame frame).rxPkt := by
  have limit : s.rxPkt.limit = t.rxPkt.limit := (Prod.mk.inj sameContext).2
  obtain ⟨_, ⟨⟨_, _⟩, _⟩, _, _, _, _, _, _, _, _, _⟩ := s
  obtain ⟨_, ⟨⟨_, _⟩, _⟩, _, _, _, _, _, _, _, _, _⟩ := t
  subst limit
  rfl

/-- A poll with a frame does to its protocol what the variables of the protocol say. -/
theorem pollOn_own (contained : ∀ s : NetStack, s.Contained frame) (sameContext : s.context = t.context)
    (sameView : s.view frame.protocol = t.view frame.protocol) (first : s.pollOn (.frame frame) = some s')
    (second : t.pollOn (.frame frame) = some t') : s'.view frame.protocol = t'.view frame.protocol := by
  obtain ⟨ended, handled, m, polled⟩ := pollOn_onFrame contained s
  obtain ⟨ended', handled', m', polled'⟩ := pollOn_onFrame contained t
  obtain rfl := Option.some.inj (polled.symm.trans first)
  obtain rfl := Option.some.inj (polled'.symm.trans second)
  have agree := dispatch_sameViews (onFrame_hasFrame (contained s).headers s) (onFrame_rxPkt sameContext) ?_
  · rw [handled, handled'] at agree
    have views : SameViews frame ended ended' := Option.rel_some_some.mp agree
    exact views
  · intro protocol own
    refine ⟨onFrame_rxPkt sameContext, sameContext.symm, ?_⟩
    rw [view_onFrame, view_onFrame, ← own, sameView]

theorem polls_separate :
    Separate view context Receive.protocol Receive.SelfContained fun s answer => s.pollOn answer where
  total := by
    intro s answer good
    cases answer with
    | frame arrived =>
        obtain ⟨ended, -, m, polled⟩ := pollOn_onFrame good s
        exact ⟨_, polled⟩
    | notReady => exact ⟨_, rfl⟩
    | error => exact ⟨_, rfl⟩
  constant := by
    intro s s' answer good done
    cases answer with
    | frame arrived => exact (pollOn_protocolStep good done).1
    | notReady => exact (pollOn_idle (Or.inl rfl) done).1
    | error => exact (pollOn_idle (Or.inr rfl) done).1
  other := by
    intro s s' answer protocol good done different
    cases answer with
    | frame arrived => exact (pollOn_protocolStep good done).2.1 protocol different
    | notReady => exact (pollOn_idle (Or.inl rfl) done).2.1 protocol
    | error => exact (pollOn_idle (Or.inr rfl) done).2.1 protocol
  own := by
    intro s s' t t' answer good sameContext sameView first second
    cases answer with
    | frame arrived => exact pollOn_own good sameContext sameView first second
    | notReady | error => rfl

theorem pollOn_draws {answer : Receive} (good : answer.SelfContained) (done : s.pollOn answer = some s') :
    Draws s s' := by
  cases answer with
  | frame arrived => exact (pollOn_protocolStep good done).2.2
  | notReady => exact (pollOn_idle (Or.inl rfl) done).2.2
  | error => exact (pollOn_idle (Or.inr rfl) done).2.2

/-- The polls on a list of answers. -/
def pollAll (answers : List Receive) (s : NetStack) : Option NetStack :=
  answers.foldlM (fun s answer => s.pollOn answer) s

theorem pollAll_draws {answers : List Receive} (good : ∀ answer ∈ answers, answer.SelfContained)
    (done : s.pollAll answers = some s') : Draws s s' := by
  induction answers generalizing s with
  | nil =>
      obtain rfl := Option.some.inj done
      exact ⟨0, rfl, rfl⟩
  | cons answer answers ih =>
      obtain ⟨middle, first, rest⟩ := Option.bind_eq_some_iff.mp done
      have before := pollOn_draws (good answer List.mem_cons_self) first
      exact before.trans (ih (fun other member => good other (List.mem_cons_of_mem _ member)) rest)

/-- Polls on the same frames of each protocol, in any interleaving of the protocols and with any answers without
a frame between them, leave every protocol variable, the random seed, the bytes for the caller and the contents of
what each protocol has sent the same. -/
theorem poll_interleaving {xs ys : List Receive} (goodXs : ∀ answer ∈ xs, answer.SelfContained)
    (goodYs : ∀ answer ∈ ys, answer.SelfContained)
    (same : ∀ protocol, project Receive.protocol (some protocol) xs = project Receive.protocol (some protocol) ys)
    (s : NetStack) : ∃ s₁ s₂, s.pollAll xs = some s₁ ∧ s.pollAll ys = some s₂ ∧ SameProtocolState s₁ s₂ ∧
      s₂.tcpDelivered = s₁.tcpDelivered ∧ ∀ protocol, s₂.transcript protocol = s₁.transcript protocol := by
  obtain ⟨s₁, first⟩ := polls_separate.run_total goodXs s
  obtain ⟨s₂, second⟩ := polls_separate.run_total goodYs s
  have views (protocol : Protocol) : s₁.view (some protocol) = s₂.view (some protocol) :=
    polls_separate.interleave (some protocol) goodXs goodYs (same protocol) first second
  have contexts : s₂.context = s₁.context :=
    (polls_separate.run_context goodYs second).trans (polls_separate.run_context goodXs first).symm
  obtain ⟨routerMac, arp⟩ := Prod.mk.inj (views .arp)
  obtain ⟨resolution, arp⟩ := Prod.mk.inj arp
  obtain ⟨cache, arpSent⟩ := Prod.mk.inj arp
  obtain ⟨ping, icmpSent⟩ := Prod.mk.inj (views .icmp)
  obtain ⟨udp, resolver⟩ := Prod.mk.inj (views .udp)
  obtain ⟨dns, udpSent⟩ := Prod.mk.inj resolver
  obtain ⟨tcp, stream⟩ := Prod.mk.inj (views .tcp)
  obtain ⟨delivered, tcpSent⟩ := Prod.mk.inj stream
  have identity : s₂.identity = s₁.identity := by
    have masked : { s₂.identity with routerMac := ByteArr.zero 6 } = { s₁.identity with routerMac := ByteArr.zero 6 } :=
      (Prod.mk.inj contexts).1
    exact unmask_identity masked routerMac.symm
  have seed : s₂.rngSeed = s₁.rngSeed := by
    obtain ⟨count, drawn, seeds⟩ := pollAll_draws goodXs first
    obtain ⟨count', drawn', seeds'⟩ := pollAll_draws goodYs second
    have totals : s₂.drawn = s₁.drawn := by rw [NetStack.drawn, NetStack.drawn, icmpSent, tcpSent]
    obtain rfl : count' = count := by omega
    rw [seeds, seeds']
  refine ⟨s₁, s₂, first, second, ?_, delivered.symm, fun protocol => ?_⟩
  · exact ⟨identity, seed, resolution.symm, cache.symm, dns.symm, tcp.symm, udp.symm, ping.symm⟩
  · cases protocol with
    | arp => exact arpSent.symm
    | icmp => exact icmpSent.symm
    | tcp => exact tcpSent.symm
    | udp => exact udpSent.symm

theorem plainEcho_selfContained : (Receive.frame Scenario.plainEcho).SelfContained := by
  have notUdp : Scenario.plainEcho.ip.protocol ≠ ipProtoUdp := by decide +kernel
  have notTcp : Scenario.plainEcho.ip.protocol ≠ ipProtoTcp := by decide +kernel
  intro s
  refine ⟨by constructor <;> decide +kernel, ?_, fun dns => absurd dns.2.1 notUdp⟩
  refine ⟨fun _ _ _ => by decide +kernel, fun _ udp => absurd udp notUdp, fun _ tcp => absurd tcp notTcp⟩

theorem gatewayRequest_selfContained : (Receive.frame gatewayRequest).SelfContained := by
  have notIp : gatewayRequest.eth.type ≠ htons ethertypeIpv4 := by decide +kernel
  intro s
  refine ⟨by constructor <;> decide +kernel, ?_, fun dns => absurd dns.1 notIp⟩
  exact ⟨fun ip => absurd ip notIp, fun ip => absurd ip notIp, fun ip => absurd ip notIp⟩

/-- The host answers both whatever comes first. -/
theorem poll_interleaving_echo : ∃ s₁ s₂,
    hostStack.pollAll [.frame Scenario.plainEcho, .notReady, .frame gatewayRequest] = some s₁ ∧
    hostStack.pollAll [.frame gatewayRequest, .frame Scenario.plainEcho] = some s₂ ∧ SameProtocolState s₁ s₂ ∧
    s₂.tcpDelivered = s₁.tcpDelivered ∧ ∀ protocol, s₂.transcript protocol = s₁.transcript protocol := by
  refine poll_interleaving ?_ ?_ (fun protocol => ?_) hostStack
  · have idle : Receive.notReady.SelfContained := trivial
    simp [plainEcho_selfContained, gatewayRequest_selfContained, idle]
  · simp [plainEcho_selfContained, gatewayRequest_selfContained]
  · have echo : (Receive.frame Scenario.plainEcho).protocol = some .icmp := by decide +kernel
    have request : (Receive.frame gatewayRequest).protocol = some .arp := by decide +kernel
    have idle : Receive.notReady.protocol = none := rfl
    cases protocol with
    | arp | icmp | udp | tcp => simp [project, echo, request, idle]

end NetStack
end UefiNetstack
