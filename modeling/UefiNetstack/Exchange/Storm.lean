import UefiNetstack.Lib.Relay
import UefiNetstack.Exchange.Arp
import UefiNetstack.Exchange.Chunks
import UefiNetstack.Buffers.Echo
import UefiNetstack.Session.Isolation

namespace UefiNetstack
open Words Memory Constants

namespace NetStack

variable {s s' t : NetStack} {frame : RxFrame} {input : TcpInput} {tcpAt : Nat}

/-- A poll of the frame sends nothing and keeps the session. -/
def Inert (bytes : Bytes) : Prop :=
  ∀ (s s' : NetStack) (frame : RxFrame), frame.bytes = bytes → s.pollOn (.frame frame) = some s' →
    s'.sent = s.sent ∧ s'.tcp = s.tcp

/-- The stack when Receive gives the frame next. -/
def offered (s : NetStack) (frame : RxFrame) : NetStack :=
  { s with snp := { s.snp with receive := .frame frame :: s.snp.receive } }

theorem pollOn_offered (s : NetStack) (frame : RxFrame) : s.pollOn (.frame frame) = (s.offered frame).poll := rfl

theorem learnArp_sent (s : NetStack) (arp : ArpHdr) : (s.learnArp arp).sent = s.sent := by
  rw [learnArp_eq]
  rfl

theorem arpReply_inert (answerer : NetStack) (arp : ArpHdr) : Inert (answerer.arpReplyFrame arp) := by
  intro s s' frame bytes done
  rw [pollOn_offered, poll_reply answerer bytes rfl] at done
  obtain rfl := Option.some.inj done
  exact ⟨(learnArp_sent _ _).trans (landed_sent s frame), (learnArp_tcpQuiet _ _).tcp⟩

/-- A page that asks for no echo is not answered. -/
theorem dispatch_noEcho (reaches : t.ReachesIcmp) (asks : ¬t.AsksEcho) (done : t.dispatch = some s') :
    s'.sent = t.sent ∧ s'.tcp = t.tcp := by
  rw [dispatch_icmp reaches] at done
  obtain ⟨silent, handled, sent⟩ := handleIcmp_silent asks t.pageIp t.pageIcmpLen
  obtain rfl := Option.some.inj (handled.symm.trans done)
  exact ⟨sent, (handleIcmp_tcpQuiet handled).tcp⟩

/-- What the receiver of an echo finds on its page. -/
structure EchoLanded (t : NetStack) (ip : IpHdr) (message : Bytes) : Prop where
  reaches : t.ReachesIcmp
  place : transportOf t.rxPkt.byte = 34
  pageIp : t.pageIp = ip
  message : BytesAt t.rxPkt.byte 34 (icmpReply message)

theorem echo_landed {a : NetStack} {saddr random : UINT32} {message : Bytes}
    (bytes : frame.bytes = a.icmpReplyFrame saddr message random) :
    EchoLanded (s.landed frame) (a.ipHeader ipProtoIcmp message.length random saddr) message := by
  have stored := landed_bytesAt s frame
  rw [bytes, icmpReplyFrame, bytesAt_append_iff, bytesAt_append_iff, List.length_append, EthHdr.bytes_length,
    IpHdr.bytes_length, Nat.zero_add, Nat.zero_add] at stored
  obtain ⟨⟨ethAt, ipAt⟩, messageAt⟩ := stored
  have pageIp : (s.landed frame).pageIp = a.ipHeader ipProtoIcmp message.length random saddr := IpHdr.read_stored ipAt
  have hlen : ipHlen (s.landed frame).pageIp = 20#64 := by
    rw [pageIp]
    change ipHlen { ihlVersion := ipVersionIhlDefault } = _
    decide
  refine ⟨⟨congrArg EthHdr.type (EthHdr.read_stored ethAt), congrArg IpHdr.protocol pageIp⟩, ?_, pageIp, messageAt⟩
  change sizeofEthHdr + (ipHlen (s.landed frame).pageIp).toNat = 34
  rw [hlen]
  rfl

theorem icmpReply_type {message : Bytes} (nonempty : message ≠ []) :
    (icmpReply message)[0]? = some icmpTypeEchoReply := by
  cases message with
  | nil => exact absurd rfl nonempty
  | cons byte message => rfl

/-- An echo with a message is an echo reply to its receiver. -/
theorem echo_inert (a : NetStack) (saddr random : UINT32) {message : Bytes} (nonempty : message ≠ []) :
    Inert (a.icmpReplyFrame saddr message random) := by
  intro s s' frame bytes done
  have landed := @echo_landed s frame a saddr random message bytes
  have type : (s.landed frame).pageIcmp.type = icmpTypeEchoReply := by
    obtain ⟨inside, first⟩ := List.getElem?_eq_some_iff.mp (icmpReply_type nonempty)
    change (s.landed frame).rxPkt.byte (transportOf (s.landed frame).rxPkt.byte) = _
    rw [landed.place, ← first]
    exact landed.message 0 inside
  have asks : ¬(s.landed frame).AsksEcho := by
    rintro ⟨request, -⟩
    rw [type] at request
    cases request
  obtain ⟨sent, tcp⟩ := dispatch_noEcho landed.reaches asks done
  exact ⟨sent.trans (landed_sent s frame), tcp⟩

/-- An echo without a message. -/
def IsEmptyEcho (bytes : Bytes) : Prop :=
  ∃ (a : NetStack) (saddr random : UINT32), bytes = a.icmpReplyFrame saddr [] random

/-- An earlier frame left an echo request where the ICMP header of a frame without IP options starts. -/
def HoldsRequest (s : NetStack) : Prop := s.rxPkt.byte 34 = icmpTypeEchoRequest ∧ s.rxPkt.byte 35 = icmpCodeZero

instance : Decidable s.HoldsRequest := inferInstanceAs (Decidable (_ ∧ _))

/-- A page that asks for the echo of no bytes is answered with an empty echo. -/
theorem dispatch_emptyEcho (reaches : t.ReachesIcmp) (asks : t.AsksEcho) (empty : t.pageIcmpLen = 0#64) :
    ∃ s' bytes, t.dispatch = some s' ∧ s'.sent = t.sent ++ [bytes] ∧ IsEmptyEcho bytes ∧ s'.rxPkt = t.rxPkt := by
  have mapped : transportOf t.rxPkt.byte + t.pageIcmpLen.toNat ≤ t.rxPkt.limit := by
    have place := transportOf_le t.rxPkt.byte
    have page := t.rxPkt.page
    rw [pktBufSize] at page
    rw [empty]
    exact Nat.le_trans place (Nat.le_trans (by decide) page)
  obtain ⟨frame, replied, bytes⟩ := t.replyToPing_eq t.pageIp (transportOf t.rxPkt.byte) t.pageIcmpLen
    (by rw [empty]; decide) mapped
  refine ⟨t.getU32.2.sendFrame frame, frame.bytes, ?_, ?_, ?_, rfl⟩
  · rw [dispatch_icmp reaches, handleIcmp_request asks, replied]
  · rw [sendFrame_sent, getU32_sent]
  · rw [bytes, empty]
    exact ⟨_, _, _, rfl⟩

/-- An empty echo leaves the page behind its headers as it was. -/
theorem emptyEcho_lands (isEcho : IsEmptyEcho frame.bytes) :
    (s.landed frame).ReachesIcmp ∧ ((s.landed frame).AsksEcho ↔ s.HoldsRequest) ∧
      (s.landed frame).pageIcmpLen = 0#64 ∧ ((s.landed frame).HoldsRequest ↔ s.HoldsRequest) := by
  obtain ⟨a, saddr, random, bytes⟩ := isEcho
  have landed := @echo_landed s frame a saddr random [] bytes
  have length : frame.bytes.length = 34 := by rw [bytes, icmpReplyFrame_length, List.length_nil]
  have kept (p : Nat) (behind : 34 ≤ p) : (s.landed frame).rxPkt.byte p = s.rxPkt.byte p :=
    @write_outside s.rxPkt.byte 0 p frame.bytes (Or.inr (by omega))
  have holds : (s.landed frame).HoldsRequest ↔ s.HoldsRequest := by
    rw [HoldsRequest, HoldsRequest, kept 34 (by decide), kept 35 (by decide)]
  have asks : (s.landed frame).AsksEcho ↔ (s.landed frame).HoldsRequest := by
    change (s.landed frame).rxPkt.byte (transportOf _) = _ ∧ (s.landed frame).rxPkt.byte (transportOf _ + 1) = _ ↔ _
    rw [landed.place]
    rfl
  refine ⟨landed.reaches, asks.trans holds, ?_, holds⟩
  rw [pageIcmpLen, landed.pageIp]
  have total : ntohs (a.ipHeader ipProtoIcmp ([] : Bytes).length random saddr).totLen = 20#16 := swap16_swap16 _
  rw [total]
  change 20#64 - ipHlen { ihlVersion := ipVersionIhlDefault } = _
  decide

/-- An ARP reply of a stack. -/
def IsArpReply (bytes : Bytes) : Prop := ∃ (a : NetStack) (arp : ArpHdr), bytes = a.arpReplyFrame arp

/-- An echo reply of a stack, with or without a message. -/
def IsEcho (bytes : Bytes) : Prop :=
  ∃ (a : NetStack) (saddr random : UINT32) (message : Bytes), bytes = a.icmpReplyFrame saddr message random

/-- A segment without payload. -/
def IsControl (flags : UINT8) (bytes : Bytes) : Prop :=
  ∃ (p : NetStack) (seq ack random : UINT32), bytes = p.tcpFrame flags seq ack [] random

theorem sendTcpControl_emits (flags : UINT8) (s : NetStack) :
    ∃ s' bytes, s.sendTcpControl flags = some s' ∧ s'.sent = s.sent ++ [bytes] ∧ IsControl flags bytes := by
  obtain ⟨frame, sent, bytes⟩ := s.sendTcpInternal_eq flags s.tcp.seq s.tcp.ack [] (Nat.zero_le _)
  exact ⟨_, frame.bytes, sent, sendFrame_sent frame s.getU32.2, s.getU32.2, _, _, _, bytes⟩

/-- A segment runs the state machine, or it is for another port and dropped. -/
theorem dispatch_segment {f : SegmentFrame} (bytes : frame.bytes = f.bytes) :
    (s.landed frame).dispatch = some (s.landed frame) ∨
      (s.landed frame).dispatch = (s.landed frame).onSegment f.input f.tcpAt := by
  by_cases here : ntohs f.tcp.dest = s.tcp.localPort ∧ s.tcp.localPort ≠ 0#16
  · exact Or.inr (dispatch_arrival (SegmentFrame.arrivalOn_eq bytes here.1 here.2))
  · obtain ⟨eth, ip, tcp, -⟩ := SegmentFrame.stored_parts (SegmentFrame.landed_stored bytes (s := s))
    have place : sizeofEthHdr + (ipHlen f.ip).toNat = f.tcpAt := by rw [f.ipHlen_toNat]; rfl
    rw [dispatch_toTcp (eth ▸ f.type) ip f.protocol, place]
    exact Or.inl (handleTcp_elsewhere (tcp ▸ here))

/-- A control segment without RST and SYN does nothing, or a session that receives looks at its FIN. -/
theorem control_polls {flags : UINT8} (isControl : IsControl flags frame.bytes)
    (noRst : flags.setWidth 16 &&& 0x3F#16 &&& tcpFlagRst.setWidth 16 = 0#16)
    (noSynAck : flags.setWidth 16 &&& 0x3F#16 &&& tcpFlagSynAck.setWidth 16 ≠ tcpFlagSynAck.setWidth 16)
    (done : s.pollOn (.frame frame) = some s') :
    s' = s.landed frame ∨ s.Listening ∧ ∃ input : TcpInput, input.flags = flags.setWidth 16 &&& 0x3F#16 ∧
      (s.landed frame).receiveFin input = some s' := by
  obtain ⟨p, seq, ack, random, bytes⟩ := isControl
  obtain ⟨f, content, data, -, flagged, -, -⟩ := p.tcpFrame_segment flags seq ack [] random (Nat.zero_le _)
  have empty : f.input.payloadLen = 0#64 := by
    apply BitVec.eq_of_toNat_eq
    rw [f.input_payloadLen, data]
    rfl
  have withoutRst : f.input.has tcpFlagRst = false := by rw [TcpInput.has, flagged]; simpa using noRst
  have withoutSyn : f.input.isSynAck = false := by rw [TcpInput.isSynAck, flagged]; simpa using noSynAck
  have polled : (s.landed frame).dispatch = some s' := done
  rcases dispatch_segment (s := s) (bytes.trans content.symm) with dropped | taken
  · rw [dropped] at polled
    exact Or.inl (Option.some.inj polled).symm
  · rw [taken] at polled
    rcases @onSegment_empty (s.landed frame) f.input f.tcpAt withoutRst withoutSyn empty with ignored | ⟨listening, fin⟩
    · rw [ignored] at polled
      exact Or.inl (Option.some.inj polled).symm
    · exact Or.inr ⟨listening, f.input, flagged, fin.symm.trans polled⟩

/-- An acknowledgement is answered by nothing. -/
theorem ack_inert {bytes : Bytes} (isAck : IsControl tcpFlagAck bytes) : Inert bytes := by
  rintro s s' frame rfl done
  rcases control_polls isAck (by decide) (by decide) done with rfl | ⟨-, input, flags, fin⟩
  · exact ⟨landed_sent s frame, rfl⟩
  · have noFin : ¬input.has tcpFlagFin := by
      rw [TcpInput.has, flags]
      decide
    rw [receiveFin, if_neg noFin] at fin
    obtain rfl := Option.some.inj fin
    exact ⟨landed_sent s frame, rfl⟩

/-- A session that receives answers a FIN with its own and receives nothing more. -/
theorem receiveFin_emits (done : s.receiveFin input = some s') :
    s' = s ∨ s'.tcp.state = .closedDone ∧ ∃ bytes, s'.sent = s.sent ++ [bytes] ∧ IsControl tcpFlagFinAck bytes := by
  rcases receiveFin_cases done with ⟨-, same⟩ | ⟨-, ended, answered, rfl⟩
  · exact Or.inl same
  · obtain ⟨out, bytes, emitted, frames, isControl⟩ := sendTcpControl_emits tcpFlagFinAck
      { s with
        tcp := { s.tcp with
          seq := input.rxAck
          ack := (input.rxSeq.setWidth 64 + input.payloadLen + 0x01#64).setWidth 32 } }
    obtain rfl := Option.some.inj (emitted.symm.trans answered)
    exact Or.inr ⟨rfl, bytes, frames, isControl⟩

/-- A FIN ends the session of its receiver, who answers with a FIN, or it does nothing. -/
theorem finAck_polls (isFin : IsControl tcpFlagFinAck frame.bytes) (done : s.pollOn (.frame frame) = some s') :
    (s'.sent = s.sent ∧ s'.tcp = s.tcp) ∨ s.Listening ∧ s'.tcp.state = .closedDone ∧
      ∃ bytes, s'.sent = s.sent ++ [bytes] ∧ IsControl tcpFlagFinAck bytes := by
  rcases control_polls isFin (by decide) (by decide) done with rfl | ⟨listening, input, -, fin⟩
  · exact Or.inl ⟨landed_sent s frame, rfl⟩
  · rcases receiveFin_emits fin with rfl | ⟨ended, bytes, sent, isControl⟩
    · exact Or.inl ⟨landed_sent s frame, rfl⟩
    · exact Or.inr ⟨listening, ended, bytes, by rw [sent, landed_sent], isControl⟩

/-- The answers are frames that nothing answers, and a FIN with which the session has ended. -/
structure Winds (s s' : NetStack) (out : List Bytes) : Prop where
  sent : s'.sent = s.sent ++ out
  few : out.length ≤ 2
  each : ∀ bytes ∈ out, Inert bytes ∨ IsControl tcpFlagFinAck bytes ∧ ¬s'.Listening

theorem Winds.of_same (sent : s'.sent = s.sent) : Winds s s' [] where
  sent := by rw [sent, List.append_nil]
  few := Nat.zero_le _
  each := by simp

theorem Winds.of_inert {bytes : Bytes} (sent : s'.sent = s.sent ++ [bytes]) (inert : Inert bytes) :
    Winds s s' [bytes] where
  sent := sent
  few := by simp
  each := by simpa using Or.inl inert

theorem handleArp_winds (s : NetStack) (arp : ArpHdr) : ∃ out, Winds s (s.handleArp arp) out := by
  rcases s.handleArp_cases arp with ⟨-, learned⟩ | ⟨-, ⟨frame, bytes, sent⟩ | same⟩
  · rw [learned]
    exact ⟨[], .of_same (s.learnArp_sent arp)⟩
  · rw [sent]
    exact ⟨_, .of_inert (sendFrame_sent frame s) (bytes ▸ s.arpReply_inert arp)⟩
  · rw [same]
    exact ⟨[], .of_same rfl⟩

theorem replyToPing_winds {ip : IpHdr} {icmpAt : Nat} {len : UINTN} (nonzero : len ≠ 0#64)
    (done : s.replyToPing ip icmpAt len = some s') : ∃ out, Winds s s' out := by
  rcases replyToPing_cases done with rfl | ⟨message, frame, -, bytes, rfl⟩
  · exact ⟨[], .of_same rfl⟩
  · have nonempty : message.val ≠ [] := by
      intro empty
      have length := message.property
      rw [empty] at length
      exact nonzero (BitVec.eq_of_toNat_eq length.symm)
    exact ⟨_, .of_inert (by rw [sendFrame_sent, getU32_sent]) (bytes ▸ echo_inert _ _ _ nonempty)⟩

theorem handleUdp_sent {udpAt : Nat} (done : s.handleUdp udpAt = some s') : s'.sent = s.sent := by
  refine @handleUdp_keeps s s' (fun s s' => s'.sent = s.sent) ?_ ?_ ?_ udpAt done
  · exact fun first second => second.trans first
  · exact fun s dns udp => rfl
  · intro s data
    simp [sent, log, Event.frame?]

theorem acceptSynAck_winds (done : s.acceptSynAck input = some s') : ∃ out, Winds s s' out := by
  obtain ⟨ended, answered, rfl⟩ := acceptSynAck_cases done
  obtain ⟨out, bytes, emitted, frames, isControl⟩ := sendTcpControl_emits tcpFlagAck
    { s with tcp := { s.tcp with seq := input.rxAck, ack := input.rxSeq + 0x01#32 } }
  obtain rfl := Option.some.inj (emitted.symm.trans answered)
  exact ⟨[bytes], .of_inert frames (ack_inert isControl)⟩

theorem acknowledgeData_winds (done : s.acknowledgeData input = some s') :
    ∃ acks, s'.sent = s.sent ++ acks ∧ acks.length ≤ 1 ∧ ∀ bytes ∈ acks, Inert bytes := by
  rcases acknowledgeData_cases done with ⟨-, rfl⟩ | ⟨-, acknowledged⟩
  · exact ⟨[], (List.append_nil _).symm, Nat.zero_le _, by simp⟩
  · obtain ⟨out, bytes, emitted, frames, isControl⟩ := sendTcpControl_emits tcpFlagAck
      { s with
        tcp := { s.tcp with
          seq := input.rxAck
          ack := (input.rxSeq.setWidth 64 + input.payloadLen).setWidth 32 } }
    obtain rfl := Option.some.inj (emitted.symm.trans acknowledged)
    exact ⟨[bytes], frames, Nat.le_refl _, by simpa using ack_inert isControl⟩

theorem onSegment_winds (done : s.onSegment input tcpAt = some s') : ∃ out, Winds s s' out := by
  cases onSegment_branch done with
  | abort rst aborted =>
    subst aborted
    exact ⟨[], .of_same rfl⟩
  | accept noRst waiting synAck accepted => exact acceptSynAck_winds accepted
  | receive noRst listening copied acked copies acknowledges ends =>
    have kept : copied.sent = s.sent := (receiveData_eq copies).2.2.2.1
    obtain ⟨acks, sent, few, inert⟩ := acknowledgeData_winds acknowledges
    rw [kept] at sent
    rcases receiveFin_emits ends with rfl | ⟨ended, fin, finSent, isFin⟩
    · exact ⟨acks, sent, by omega, fun bytes member => Or.inl (inert bytes member)⟩
    · have silent : ¬s'.Listening := by
        rw [Listening, ended]
        simp
      refine ⟨acks ++ [fin], by rw [finSent, sent, List.append_assoc], by simpa using few, ?_⟩
      intro bytes member
      rcases List.mem_append.mp member with member | member
      · exact Or.inl (inert bytes member)
      · rw [List.mem_singleton.mp member]
        exact Or.inr ⟨isFin, silent⟩
  | ignore noRst notSynAck deaf unchanged =>
    subst unchanged
    exact ⟨[], .of_same rfl⟩

/-- A dispatch winds the exchange down, or it is asked for the echo of no bytes. -/
theorem dispatch_winds (done : t.dispatch = some s') :
    (∃ out, Winds t s' out) ∨ t.ReachesIcmp ∧ t.AsksEcho ∧ t.pageIcmpLen = 0#64 := by
  by_cases reaches : t.ReachesIcmp
  · by_cases asks : t.AsksEcho
    · by_cases empty : t.pageIcmpLen = 0#64
      · exact Or.inr ⟨reaches, asks, empty⟩
      · rw [dispatch_icmp reaches, handleIcmp_request asks] at done
        exact Or.inl (replyToPing_winds empty done)
    · exact Or.inl ⟨[], .of_same (dispatch_noEcho reaches asks done).1⟩
  · left
    cases dispatch_branch done with
    | arp type handled =>
      rw [handled]
      exact t.handleArp_winds _
    | icmp type ip header protocol handled =>
      subst header
      exact absurd ⟨type, protocol⟩ reaches
    | udp type ip header protocol handled => exact ⟨[], .of_same (handleUdp_sent handled)⟩
    | tcp type ip header protocol handled =>
      rcases handleTcp_cases handled with ⟨-, rfl⟩ | ⟨-, -, segment⟩
      · exact ⟨[], .of_same rfl⟩
      · exact onSegment_winds segment
    | drop notArp notTcp unchanged =>
      rw [unchanged]
      exact ⟨[], .of_same rfl⟩

/-- An instance polls the frames that reach it, and in between it polls without a frame. -/
def stackEnds : Relay.Ends NetStack Bytes where
  react s bytes s' out :=
    ∃ frame : RxFrame, frame.bytes = bytes ∧ s.pollOn (.frame frame) = some s' ∧ s'.sent = s.sent ++ out
  idle s s' := ∃ answer, (∀ frame, answer ≠ .frame frame) ∧ s.pollOn answer = some s'

/-- Two instances and a frame that reaches the near one. -/
def injected (a b : NetStack) (frame : RxFrame) : Relay.Wire NetStack Bytes where
  state
    | .near => a
    | .far => b
  flight
    | .near => [frame.bytes]
    | .far => []

/-- A poll without a frame keeps the session and the page. -/
theorem idle_keeps (idle : stackEnds.idle s s') : s'.tcp = s.tcp ∧ s'.rxPkt = s.rxPkt := by
  obtain ⟨answer, noFrame, polled⟩ := idle
  cases answer with
  | frame frame => exact absurd rfl (noFrame frame)
  | notReady =>
    obtain rfl := Option.some.inj polled
    exact ⟨rfl, rfl⟩
  | error =>
    obtain rfl := Option.some.inj polled
    exact ⟨rfl, rfl⟩

/-- The frame makes the near instance answer with an empty echo, and the page of the far one holds an echo request
where that echo ends. -/
structure Echoes (a b : NetStack) (frame : RxFrame) : Prop where
  reaches : (a.landed frame).ReachesIcmp
  asks : (a.landed frame).AsksEcho
  empty : (a.landed frame).pageIcmpLen = 0#64
  far : b.HoldsRequest

/-- The page of the near instance holds an echo request there too. -/
structure Storms (a b : NetStack) (frame : RxFrame) : Prop extends Echoes a b frame where
  near : (a.landed frame).HoldsRequest

open Relay

variable {n : Nat} {wire wire' : Wire NetStack Bytes} {side : Side}

/-- Everything on its way is answered by nothing, but for a FIN of an ended session. A FIN on its way to a
session that receives is paid for. -/
structure Winding (n : Nat) (wire : Wire NetStack Bytes) : Prop where
  frames : ∀ side, ∀ bytes ∈ wire.flight side,
    Inert bytes ∨ IsControl tcpFlagFinAck bytes ∧ ¬(wire.state side.other).Listening
  paid : 0 < n ∨ ∀ side, ∀ bytes ∈ wire.flight side, Inert bytes ∨ ¬(wire.state side).Listening

/-- An empty echo is on its way, and nothing else. It is answered at most once. -/
structure Echoing (n : Nat) (wire : Wire NetStack Bytes) (side : Side) (bytes : Bytes) : Prop where
  flight : wire.flight side = [bytes]
  back : wire.flight side.other = []
  isEcho : IsEmptyEcho bytes
  once : (wire.state side).HoldsRequest → 0 < n ∧ ¬(wire.state side.other).HoldsRequest

/-- The frame has not reached the near instance. -/
structure Unreached (frame : RxFrame) (wire : Wire NetStack Bytes) : Prop where
  flight : wire.flight .near = [frame.bytes]
  back : wire.flight .far = []

structure Pending (frame : RxFrame) (wire : Wire NetStack Bytes) : Prop extends Unreached frame wire where
  calm : ¬Storms (wire.state .near) (wire.state .far) frame

/-- What the instances may still send. -/
inductive Calms (frame : RxFrame) : Nat → Wire NetStack Bytes → Prop
  | pending {wire : Wire NetStack Bytes} (pending : Pending frame wire) : Calms frame 3 wire
  | winding {n : Nat} {wire : Wire NetStack Bytes} (winding : Winding n wire) : Calms frame n wire
  | echoing {n : Nat} {wire : Wire NetStack Bytes} {side : Side} {bytes : Bytes}
      (echoing : Echoing n wire side bytes) : Calms frame n wire

/-- A change of one session that ends no silence keeps the exchange winding. -/
theorem Winding.moved (winding : Winding n wire) {state : NetStack} (tcp : state.tcp = (wire.state side).tcp) :
    Winding n (wire.moved side state) := by
  have same (home : Side) : ((wire.moved side state).state home).Listening ↔ (wire.state home).Listening := by
    rcases side.eq_or_other home with rfl | rfl
    · rw [Wire.moved_self, Listening, Listening, tcp]
    · rw [Wire.moved_other]
  refine ⟨?_, ?_⟩
  · intro home bytes member
    rw [same]
    exact winding.frames home bytes member
  · refine winding.paid.imp_right fun silent home bytes member => ?_
    rw [same]
    exact silent home bytes member

/-- A frame that is not answered keeps the exchange winding. -/
theorem Winding.unanswered (winding : Winding n wire) {left : List Bytes} {state : NetStack}
    (fewer : ∀ bytes ∈ left, bytes ∈ wire.flight side) (tcp : state.tcp = (wire.state side).tcp) :
    Winding n (wire.answered side left state []) := by
  have moved := winding.moved tcp
  have before (home : Side) (bytes : Bytes) (member : bytes ∈ (wire.answered side left state []).flight home) :
      bytes ∈ wire.flight home := by
    rcases side.eq_or_other home with rfl | rfl
    · rw [Wire.answered_flight_self] at member
      exact fewer bytes member
    · rw [Wire.answered_flight_other, List.append_nil] at member
      exact member
  exact ⟨fun home bytes member => moved.frames home bytes (before home bytes member),
    moved.paid.imp_right fun silent home bytes member => silent home bytes (before home bytes member)⟩

/-- When both sessions have ended, nothing is answered. -/
theorem Winding.ended {left out : List Bytes} {state : NetStack}
    (frames : ∀ bytes ∈ left, Inert bytes ∨ IsControl tcpFlagFinAck bytes)
    (frames' : ∀ bytes ∈ wire.flight side.other ++ out, Inert bytes ∨ IsControl tcpFlagFinAck bytes)
    (here : ¬state.Listening) (there : ¬(wire.state side.other).Listening) :
    Winding 0 (wire.answered side left state out) := by
  have silent (home : Side) : ¬((wire.answered side left state out).state home).Listening := by
    rcases side.eq_or_other home with rfl | rfl
    · rw [Wire.answered_self]
      exact here
    · rw [Wire.answered_other]
      exact there
  refine ⟨?_, Or.inr fun home bytes _ => Or.inr (silent home)⟩
  intro home bytes member
  rcases side.eq_or_other home with rfl | rfl
  · rw [Wire.answered_flight_self] at member
    exact (frames bytes member).imp_right fun isFin => ⟨isFin, silent _⟩
  · rw [Wire.answered_flight_other] at member
    exact (frames' bytes member).imp_right fun isFin => ⟨isFin, silent _⟩

/-- What nothing answers is taken in silence. -/
theorem Inert.silent {message : Bytes} {out : List Bytes} (inert : Inert message)
    (reacts : stackEnds.react s message s' out) : out = [] := by
  obtain ⟨frame, bytes, polled, sent⟩ := reacts
  exact List.append_right_eq_self.mp (sent.symm.trans (inert s s' frame bytes polled).1)

/-- A delivery is answered by nothing, or by a FIN that ends the last session. -/
theorem Winding.deliver (winding : Winding n wire) {message : Bytes} {before after out : List Bytes} {state : NetStack}
    (waits : wire.flight side = before ++ message :: after)
    (reacts : stackEnds.react (wire.state side) message state out) :
    (out = [] ∧ Winding n (wire.answered side (before ++ after) state out)) ∨
      (out.length = 1 ∧ 0 < n ∧ Winding 0 (wire.answered side (before ++ after) state out)) := by
  obtain ⟨frame, rfl, polled, sent⟩ := reacts
  have fewer (bytes : Bytes) (member : bytes ∈ before ++ after) : bytes ∈ wire.flight side := by
    rw [waits]
    rcases List.mem_append.mp member with member | member
    · exact List.mem_append_left _ member
    · exact List.mem_append_right _ (List.mem_cons_of_mem _ member)
  have taken : frame.bytes ∈ wire.flight side := by
    rw [waits]
    exact List.mem_append_right _ List.mem_cons_self
  have quiet (same : state.sent = (wire.state side).sent ∧ state.tcp = (wire.state side).tcp) :
      out = [] ∧ Winding n (wire.answered side (before ++ after) state out) := by
    obtain rfl : out = [] := List.append_right_eq_self.mp (sent.symm.trans same.1)
    exact ⟨rfl, winding.unanswered fewer same.2⟩
  by_cases inert : Inert frame.bytes
  · exact Or.inl (quiet (inert _ _ frame rfl polled))
  · obtain ⟨isFin, there⟩ := (winding.frames side frame.bytes taken).resolve_left inert
    rcases finAck_polls isFin polled with same | ⟨listening, ended, fin, finSent, isControl⟩
    · exact Or.inl (quiet same)
    · obtain rfl : out = [fin] := List.append_cancel_left (sent.symm.trans finSent)
      have paid : 0 < n := winding.paid.resolve_right fun silent =>
        (silent side frame.bytes taken).elim inert (not_not_intro listening)
      have here : ¬state.Listening := by
        rw [Listening, ended]
        simp
      have known (home : Side) (bytes : Bytes) (member : bytes ∈ wire.flight home) :
          Inert bytes ∨ IsControl tcpFlagFinAck bytes := (winding.frames home bytes member).imp_right (·.1)
      refine Or.inr ⟨rfl, paid, Winding.ended (fun bytes member => known side bytes (fewer bytes member)) ?_ here there⟩
      intro bytes member
      rcases List.mem_append.mp member with member | member
      · exact known _ bytes member
      · rw [List.mem_singleton.mp member]
        exact Or.inr isControl

/-- A delivery pays for the one FIN that it may cause. -/
theorem winding_budget : Budget stackEnds Winding := by
  intro n wire wire' winding step
  cases step with
  | @deliver side message before after out state waits reacts =>
    rcases winding.deliver waits reacts with ⟨rfl, rest⟩ | ⟨one, paid, rest⟩
    · exact ⟨n, rest, Nat.le_refl _⟩
    · refine ⟨0, rest, ?_⟩
      rw [Wire.answered, one]
      exact Nat.add_le_add_left paid _
  | idle side idle => exact ⟨n, winding.moved (idle_keeps idle).1, Nat.le_refl _⟩

theorem Winding.of_empty (empty : ∀ side, wire.flight side = []) : Winding n wire where
  frames side bytes member := by
    rw [empty] at member
    cases member
  paid := Or.inr fun side bytes member => by
    rw [empty] at member
    cases member

/-- The only frame on its way reaches its end. -/
theorem flight_only {only message : Bytes} {before after : List Bytes} {home : Side} (flight : wire.flight side = [only])
    (back : wire.flight side.other = []) (waits : wire.flight home = before ++ message :: after) :
    home = side ∧ message = only ∧ before ++ after = [] := by
  rcases side.eq_or_other home with rfl | rfl
  · rw [flight] at waits
    obtain ⟨rfl, same⟩ | ⟨_, _, rest⟩ := List.cons_eq_append_iff.mp waits
    · obtain ⟨rfl, rfl⟩ := List.cons_eq_cons.mp same
      exact ⟨rfl, rfl, rfl⟩
    · simp at rest
  · rw [back] at waits
    simp at waits

/-- An empty echo is answered with another one, by which the exchange is over, or with nothing. -/
theorem Echoing.deliver {bytes message : Bytes} (injection : RxFrame) (echoing : Echoing n wire side bytes)
    {before after out : List Bytes} {state : NetStack} {home : Side}
    (waits : wire.flight home = before ++ message :: after)
    (reacts : stackEnds.react (wire.state home) message state out) :
    ∃ m, Calms injection m (wire.answered home (before ++ after) state out) ∧ out.length + m ≤ n := by
  obtain ⟨rfl, rfl, left⟩ := flight_only echoing.flight echoing.back waits
  obtain ⟨frame, rfl, polled, sent⟩ := reacts
  obtain ⟨reaches, asks, empty, -⟩ := emptyEcho_lands (s := wire.state home) echoing.isEcho
  rw [left]
  by_cases holds : (wire.state home).HoldsRequest
  · obtain ⟨s', echo, replied, echoed, isEcho, -⟩ := dispatch_emptyEcho reaches (asks.mpr holds) empty
    obtain rfl : s' = state := Option.some.inj (replied.symm.trans polled)
    rw [landed_sent] at echoed
    obtain rfl : out = [echo] := List.append_cancel_left (sent.symm.trans echoed)
    obtain ⟨positive, once⟩ := echoing.once holds
    obtain ⟨m, rfl⟩ := Nat.exists_eq_succ_of_ne_zero (Nat.ne_of_gt positive)
    refine ⟨m, @Calms.echoing injection m _ home.other echo ?_, by simp [Nat.add_comm]⟩
    exact
      { flight := by rw [Wire.answered_flight_other, echoing.back, List.nil_append]
        back := by rw [Side.other_other, Wire.answered_flight_self]
        isEcho
        once := by
          rw [Wire.answered_other]
          exact fun again => absurd again once }
  · obtain ⟨silent, -⟩ := dispatch_noEcho reaches (mt asks.mp holds) polled
    rw [landed_sent] at silent
    obtain rfl : out = [] := List.append_right_eq_self.mp (sent.symm.trans silent)
    refine ⟨n, .winding (.of_empty fun side => ?_), by simp⟩
    rcases home.eq_or_other side with rfl | rfl
    · exact Wire.answered_flight_self
    · rw [Wire.answered_flight_other, echoing.back, List.append_nil]

theorem Echoing.moved {bytes : Bytes} {home : Side} (echoing : Echoing n wire side bytes) {state : NetStack}
    (rxPkt : state.rxPkt = (wire.state home).rxPkt) : Echoing n (wire.moved home state) side bytes := by
  have same (side : Side) : ((wire.moved home state).state side).HoldsRequest ↔ (wire.state side).HoldsRequest := by
    rcases home.eq_or_other side with rfl | rfl
    · rw [Wire.moved_self, HoldsRequest, HoldsRequest, rxPkt]
    · rw [Wire.moved_other]
  exact
    { flight := echoing.flight
      back := echoing.back
      isEcho := echoing.isEcho
      once := by
        rw [same, same]
        exact echoing.once }

/-- The pages decide whether an echo is answered. -/
theorem Echoes.congr {a a' b b' : NetStack} {frame : RxFrame} (near : a'.rxPkt = a.rxPkt) (far : b'.rxPkt = b.rxPkt)
    (echoes : Echoes a' b' frame) : Echoes a b frame := by
  have page : (a.landed frame).rxPkt = (a'.landed frame).rxPkt := congrArg (·.receive frame) near.symm
  have ip : (a.landed frame).pageIp = (a'.landed frame).pageIp := by rw [pageIp, pageIp, page]
  have icmp : (a.landed frame).pageIcmp = (a'.landed frame).pageIcmp := by rw [pageIcmp, pageIcmp, page]
  exact
    { reaches := by
        rw [ReachesIcmp, page, ip]
        exact echoes.reaches
      asks := by
        rw [AsksEcho, icmp]
        exact echoes.asks
      empty := by
        rw [pageIcmpLen, ip]
        exact echoes.empty
      far := by
        rw [HoldsRequest, ← far]
        exact echoes.far }

theorem Storms.congr {a a' b b' : NetStack} {frame : RxFrame} (near : a'.rxPkt = a.rxPkt) (far : b'.rxPkt = b.rxPkt)
    (storms : Storms a' b' frame) : Storms a b frame where
  toEchoes := storms.toEchoes.congr near far
  near := by
    have page : (a.landed frame).rxPkt = (a'.landed frame).rxPkt := congrArg (·.receive frame) near.symm
    rw [HoldsRequest, page]
    exact storms.near

theorem moved_rxPkt {state : NetStack} (rxPkt : state.rxPkt = (wire.state side).rxPkt) (home : Side) :
    ((wire.moved side state).state home).rxPkt = (wire.state home).rxPkt := by
  rcases side.eq_or_other home with rfl | rfl
  · rw [Wire.moved_self, rxPkt]
  · rw [Wire.moved_other]

theorem Pending.moved (pending : Pending frame wire) {state : NetStack} (rxPkt : state.rxPkt = (wire.state side).rxPkt) :
    Pending frame (wire.moved side state) where
  flight := pending.flight
  back := pending.back
  calm := fun storms => pending.calm (storms.congr (moved_rxPkt rxPkt .near) (moved_rxPkt rxPkt .far))

/-- The near instance sends frames that wind down, or one empty echo. -/
theorem Unreached.deliver (unreached : Unreached frame wire) {message : Bytes} {before after out : List Bytes}
    {state : NetStack} (waits : wire.flight side = before ++ message :: after)
    (reacts : stackEnds.react (wire.state side) message state out) :
    side = .near ∧ ((out.length ≤ 2 ∧ Winding 1 (wire.answered side (before ++ after) state out)) ∨
      ((wire.state .near).landed frame).ReachesIcmp ∧ ((wire.state .near).landed frame).AsksEcho ∧
        ((wire.state .near).landed frame).pageIcmpLen = 0#64 ∧
        state.rxPkt = ((wire.state .near).landed frame).rxPkt ∧
        ∃ echo, out = [echo] ∧ IsEmptyEcho echo ∧
          (wire.answered side (before ++ after) state out).flight .far = [echo] ∧
          (wire.answered side (before ++ after) state out).flight .near = []) := by
  obtain ⟨rfl, rfl, left⟩ := flight_only unreached.flight unreached.back waits
  obtain ⟨frame', same, polled, sent⟩ := reacts
  obtain rfl : frame' = frame := by
    cases frame'
    cases frame
    cases same
    rfl
  have polled : ((wire.state .near).landed frame').dispatch = some state := polled
  have back : (wire.answered .near [] state out).flight .far = out := by
    have far := @Wire.answered_flight_other _ _ wire .near [] out state
    rw [Side.other, unreached.back, List.nil_append] at far
    exact far
  rw [left]
  refine ⟨rfl, ?_⟩
  rcases dispatch_winds polled with ⟨out', winds⟩ | ⟨reaches, asks, empty⟩
  · have answered := winds.sent
    rw [landed_sent] at answered
    obtain rfl : out = out' := List.append_cancel_left (sent.symm.trans answered)
    refine Or.inl ⟨winds.few, ?_, Or.inl Nat.one_pos⟩
    intro home bytes member
    cases home with
    | near => cases member
    | far =>
      rw [back] at member
      exact winds.each bytes member
  · obtain ⟨s', echo, replied, echoed, isEcho, page⟩ := dispatch_emptyEcho reaches asks empty
    obtain rfl : s' = state := Option.some.inj (replied.symm.trans polled)
    rw [landed_sent] at echoed
    obtain rfl : out = [echo] := List.append_cancel_left (sent.symm.trans echoed)
    exact Or.inr ⟨reaches, asks, empty, page, echo, rfl, isEcho, back, rfl⟩

/-- The near instance sends at most two frames, or one empty echo that is answered at most once. -/
theorem Pending.deliver (pending : Pending frame wire) {message : Bytes} {before after out : List Bytes}
    {state : NetStack} (waits : wire.flight side = before ++ message :: after)
    (reacts : stackEnds.react (wire.state side) message state out) :
    ∃ m, Calms frame m (wire.answered side (before ++ after) state out) ∧ out.length + m ≤ 3 := by
  obtain ⟨rfl, ⟨few, winding⟩ | ⟨reaches, asks, empty, page, echo, rfl, isEcho, far, near⟩⟩ :=
    pending.toUnreached.deliver waits reacts
  · exact ⟨1, .winding winding, Nat.succ_le_succ few⟩
  · refine ⟨1, @Calms.echoing frame 1 _ .far echo ?_, by simp⟩
    exact
      { flight := far
        back := near
        isEcho
        once := fun holds => ⟨Nat.one_pos, fun here => pending.calm
          { reaches, asks, empty, far := holds
            near := by
              rw [HoldsRequest, ← page]
              exact here }⟩ }

/-- Every delivery is paid for. -/
theorem calms_budget (frame : RxFrame) : Budget stackEnds (Calms frame) := by
  intro n wire wire' calms step
  cases calms with
  | winding winding =>
    obtain ⟨m, rest, paid⟩ := winding_budget winding step
    exact ⟨m, .winding rest, paid⟩
  | pending pending =>
    cases step with
    | @deliver side message before after out state waits reacts =>
      obtain ⟨m, rest, paid⟩ := pending.deliver waits reacts
      refine ⟨m, rest, ?_⟩
      rw [Wire.answered, Nat.add_assoc]
      exact Nat.add_le_add_left paid _
    | idle side idle => exact ⟨3, .pending (pending.moved (idle_keeps idle).2), Nat.le_refl _⟩
  | echoing echoing =>
    cases step with
    | @deliver side message before after out state waits reacts =>
      obtain ⟨m, rest, paid⟩ := echoing.deliver frame waits reacts
      refine ⟨m, rest, ?_⟩
      rw [Wire.answered, Nat.add_assoc]
      exact Nat.add_le_add_left paid _
    | idle side idle => exact ⟨n, .echoing (echoing.moved (idle_keeps idle).2), Nat.le_refl _⟩

/-- What may be on its way when no empty echo is answered. -/
inductive Quiets (frame : RxFrame) (wire : Wire NetStack Bytes) : Prop
  | unreached (unreached : Unreached frame wire) (unsent : wire.count = 0)
      (quiet : ¬Echoes (wire.state .near) (wire.state .far) frame)
  | winding (n : Nat) (winding : Winding n wire)
  | echoing (side : Side) (bytes : Bytes) (echoing : Echoing 0 wire side bytes)

/-- An empty echo that finds no request behind it is not answered. -/
theorem Echoing.silent {bytes message : Bytes} (echoing : Echoing 0 wire side bytes)
    {before after out : List Bytes} {state : NetStack} {home : Side}
    (waits : wire.flight home = before ++ message :: after)
    (reacts : stackEnds.react (wire.state home) message state out) :
    out = [] ∧ ∃ m, Winding m (wire.answered home (before ++ after) state out) := by
  obtain ⟨m, calms, paid⟩ := echoing.deliver ⟨[], Nat.zero_le _⟩ waits reacts
  obtain ⟨rfl, rfl, left⟩ := flight_only echoing.flight echoing.back waits
  obtain rfl : out = [] := List.length_eq_zero_iff.mp (by omega)
  refine ⟨rfl, 0, .of_empty fun side => ?_⟩
  rw [left]
  rcases home.eq_or_other side with rfl | rfl
  · exact Wire.answered_flight_self
  · rw [Wire.answered_flight_other, echoing.back, List.append_nil]

theorem Unreached.moved (unreached : Unreached frame wire) (state : NetStack) : Unreached frame (wire.moved side state) :=
  ⟨unreached.flight, unreached.back⟩

theorem quiets_step (quiets : Quiets frame wire) (step : Step stackEnds wire wire') : Quiets frame wire' := by
  cases quiets with
  | winding n winding =>
    obtain ⟨m, rest, -⟩ := winding_budget winding step
    exact .winding m rest
  | unreached unreached unsent quiet =>
    cases step with
    | @deliver side message before after out state waits reacts =>
      obtain ⟨rfl, ⟨-, winding⟩ | ⟨reaches, asks, empty, -, echo, rfl, isEcho, far, near⟩⟩ :=
        unreached.deliver waits reacts
      · exact .winding 1 winding
      · exact .echoing .far echo
          { flight := far
            back := near
            isEcho
            once := fun holds => absurd { reaches, asks, empty, far := holds } quiet }
    | @idle side state idle =>
      have rxPkt := moved_rxPkt (idle_keeps idle).2
      exact .unreached (unreached.moved state) unsent fun echoes => quiet (echoes.congr (rxPkt .near) (rxPkt .far))
  | echoing side bytes echoing =>
    cases step with
    | deliver home waits reacts =>
      obtain ⟨-, m, winding⟩ := echoing.silent waits reacts
      exact .winding m winding
    | idle home idle => exact .echoing side bytes (echoing.moved (idle_keeps idle).2)

/-- One instance reacts to a frame that the other one has sent. Until a frame is sent only the injected one is on its
way. -/
structure Triggers (a b : NetStack) (frame : RxFrame) (message : Bytes) (out : List Bytes)
    (wire' : Wire NetStack Bytes) : Prop where
  reacts : ∃ wire side before after state, Run stackEnds (injected a b frame) wire ∧ 0 < wire.count ∧
    wire.flight side = before ++ message :: after ∧ stackEnds.react (wire.state side) message state out ∧
    wire' = wire.answered side (before ++ after) state out

/-- The reaction to a frame is bounded: replies and pure acknowledgements trigger nothing, and a FIN that is answered
triggers one frame, which is the last of the run. -/
structure Calm (a b : NetStack) (frame : RxFrame) : Prop where
  bounded : ∀ wire, Run stackEnds (injected a b frame) wire → wire.count ≤ 3
  replies : ∀ message out wire, Triggers a b frame message out wire →
    IsArpReply message ∨ IsEcho message ∨ IsControl tcpFlagAck message → out = []
  fin : ∀ message out wire, Triggers a b frame message out wire → IsControl tcpFlagFinAck message →
    out = [] ∨ out.length = 1 ∧ ∀ later, Run stackEnds wire later → later.count = wire.count

theorem IsControl.length {flags : UINT8} {bytes : Bytes} (isControl : IsControl flags bytes) : bytes.length = 54 := by
  obtain ⟨p, seq, ack, random, rfl⟩ := isControl
  rw [tcpFrame_length, List.length_nil]

theorem IsEmptyEcho.length {bytes : Bytes} (isEcho : IsEmptyEcho bytes) : bytes.length = 34 := by
  obtain ⟨a, saddr, random, rfl⟩ := isEcho
  rw [icmpReplyFrame_length, List.length_nil]

/-- An answer comes from a wire on which the frame has been taken. -/
theorem Triggers.cases {a b : NetStack} {message : Bytes} {out : List Bytes} (quiet : ¬Echoes a b frame)
    (triggers : Triggers a b frame message out wire') :
    (out = [] ∧ IsEmptyEcho message) ∨ ((out = [] ∨ out.length = 1 ∧ Winding 0 wire') ∧
      (Inert message ∨ IsControl tcpFlagFinAck message)) := by
  obtain ⟨wire, side, before, after, state, run, sent, waits, reacts, rfl⟩ := triggers.reacts
  have starts : Quiets frame (injected a b frame) := .unreached ⟨rfl, rfl⟩ rfl quiet
  have quiets : Quiets frame wire := by
    clear triggers sent waits reacts
    induction run with
    | refl => exact starts
    | tail _ step ih => exact quiets_step ih step
  cases quiets with
  | unreached unreached unsent quiet =>
    rw [unsent] at sent
    exact absurd sent (Nat.lt_irrefl 0)
  | winding n winding =>
    have member : message ∈ wire.flight side := by
      rw [waits]
      exact List.mem_append_right _ List.mem_cons_self
    refine Or.inr ⟨?_, (winding.frames side message member).imp_right (·.1)⟩
    rcases winding.deliver waits reacts with ⟨silent, -⟩ | ⟨one, -, rest⟩
    · exact Or.inl silent
    · exact Or.inr ⟨one, rest⟩
  | echoing home bytes echoing =>
    obtain ⟨rfl, rfl, -⟩ := flight_only echoing.flight echoing.back waits
    exact Or.inl ⟨(echoing.silent waits reacts).1, echoing.isEcho⟩

theorem Triggers.silent {a b : NetStack} {message : Bytes} {out : List Bytes}
    (triggers : Triggers a b frame message out wire') (inert : Inert message) : out = [] := by
  obtain ⟨wire, side, before, after, state, run, sent, waits, reacts, -⟩ := triggers.reacts
  exact inert.silent reacts

theorem calm_of_quiet {a b : NetStack} (quiet : ¬Echoes a b frame) : Calm a b frame where
  bounded wire run := by
    have starts : Calms frame 3 (injected a b frame) :=
      .pending { flight := rfl, back := rfl, calm := fun storms => quiet storms.toEchoes }
    exact (calms_budget frame).bounds starts run
  replies message out wire triggers kind := by
    rcases kind with ⟨sender, arp, rfl⟩ | ⟨sender, saddr, random, content, rfl⟩ | isAck
    · exact triggers.silent (arpReply_inert sender arp)
    · by_cases empty : content = []
      · subst empty
        rcases triggers.cases quiet with ⟨silent, -⟩ | ⟨-, inert | isFin⟩
        · exact silent
        · exact triggers.silent inert
        · have length := isFin.length
          rw [icmpReplyFrame_length, List.length_nil] at length
          exact absurd length (by decide)
      · exact triggers.silent (echo_inert sender saddr random empty)
    · exact triggers.silent (ack_inert isAck)
  fin message out wire triggers isFin := by
    rcases triggers.cases quiet with ⟨-, isEcho⟩ | ⟨silent | ⟨one, winding⟩, -⟩
    · exact absurd (isFin.length.symm.trans isEcho.length) (by decide)
    · exact Or.inl silent
    · exact Or.inr ⟨one, fun later run => Nat.le_antisymm (winding_budget.bounds winding run) (Run.count_le run)⟩

/-- An empty echo is on its way between two pages that hold an echo request. -/
def Storming (wire : Wire NetStack Bytes) : Prop :=
  ∃ side bytes, wire.flight side = [bytes] ∧ wire.flight side.other = [] ∧ IsEmptyEcho bytes ∧
    ∀ side, (wire.state side).HoldsRequest

/-- The only frame on its way is answered with an empty echo. -/
theorem storming_step {bytes echo : Bytes} {state : NetStack} (flight : wire.flight side = [bytes])
    (back : wire.flight side.other = []) (reacts : stackEnds.react (wire.state side) bytes state [echo])
    (isEcho : IsEmptyEcho echo) (here : state.HoldsRequest) (there : (wire.state side.other).HoldsRequest) :
    ∃ wire', Step stackEnds wire wire' ∧ Storming wire' ∧ wire'.count = wire.count + 1 := by
  have step := @Step.deliver _ _ stackEnds wire side bytes [] [] [echo] state flight reacts
  refine ⟨_, step, ⟨side.other, echo, ?_, ?_, isEcho, ?_⟩, rfl⟩
  · rw [Wire.answered_flight_other, back, List.nil_append]
  · rw [Side.other_other]
    exact Wire.answered_flight_self
  · intro home
    rcases side.eq_or_other home with rfl | rfl
    · rw [Wire.answered_self]
      exact here
    · rw [Wire.answered_other]
      exact there

theorem storming_again (wire : Wire NetStack Bytes) (storming : Storming wire) :
    ∃ wire', Step stackEnds wire wire' ∧ Storming wire' ∧ wire'.count = wire.count + 1 := by
  obtain ⟨side, bytes, flight, back, isEcho, holds⟩ := storming
  have fits : bytes.length ≤ pktBufSize := by
    obtain ⟨a, saddr, random, rfl⟩ := isEcho
    rw [icmpReplyFrame_length]
    decide
  let frame : RxFrame := { bytes, fits }
  obtain ⟨reaches, asks, empty, kept⟩ := @emptyEcho_lands (wire.state side) frame isEcho
  obtain ⟨state, echo, replied, echoed, isEcho', page⟩ := dispatch_emptyEcho reaches (asks.mpr (holds side)) empty
  rw [landed_sent] at echoed
  have here : state.HoldsRequest := by
    rw [HoldsRequest, page]
    exact kept.mpr (holds side)
  exact storming_step flight back ⟨frame, rfl, replied, echoed⟩ isEcho' here (holds side.other)

/-- A storm sends any number of frames. -/
theorem Storms.endless {a b : NetStack} {frame : RxFrame} (storms : Storms a b frame) (n : Nat) :
    ∃ wire, Run stackEnds (injected a b frame) wire ∧ wire.count = n := by
  cases n with
  | zero => exact ⟨_, .refl, rfl⟩
  | succ n =>
    obtain ⟨state, echo, replied, echoed, isEcho, page⟩ := dispatch_emptyEcho storms.reaches storms.asks storms.empty
    rw [landed_sent] at echoed
    have here : state.HoldsRequest := by
      rw [HoldsRequest, page]
      exact storms.near
    obtain ⟨first, step, storming, count⟩ := @storming_step (injected a b frame) .near frame.bytes echo state rfl rfl
      ⟨frame, rfl, replied, echoed⟩ isEcho here storms.far
    obtain ⟨wire, run, -, total⟩ := Run.endless storming_again storming n
    refine ⟨wire, .head step run, ?_⟩
    rw [total, count]
    exact Nat.add_comm _ _

/-- An empty echo that finds a request behind it is answered. -/
theorem Echoes.answered {a b : NetStack} (echoes : Echoes a b frame) :
    ∃ echo out wire, Triggers a b frame echo out wire ∧ IsEcho echo ∧ out ≠ [] := by
  obtain ⟨state, echo, replied, echoed, isEcho, -⟩ := dispatch_emptyEcho echoes.reaches echoes.asks echoes.empty
  rw [landed_sent] at echoed
  have first : Step stackEnds (injected a b frame) _ := @Step.deliver _ _ stackEnds (injected a b frame) .near
    frame.bytes [] [] [echo] state rfl ⟨frame, rfl, replied, echoed⟩
  let back : RxFrame := { bytes := echo, fits := by rw [isEcho.length]; decide }
  obtain ⟨reaches, asks, empty, -⟩ := @emptyEcho_lands b back isEcho
  obtain ⟨state', again, replied', echoed', -⟩ := dispatch_emptyEcho reaches (asks.mpr echoes.far) empty
  rw [landed_sent] at echoed'
  obtain ⟨sender, saddr, random, bytes⟩ := isEcho
  exact ⟨echo, [again], _,
    ⟨_, .far, [], [], state', .single first, Nat.one_pos, rfl, ⟨back, rfl, replied', echoed'⟩, rfl⟩,
    ⟨sender, saddr, random, [], bytes⟩, by simp⟩

/-- The reaction of two instances to a frame is calm exactly when the frame makes no echo without a message be
answered. It has at most three frames unless it is a storm, which sends any number of them. -/
theorem reply_storm_iff (a b : NetStack) (frame : RxFrame) :
    (Calm a b frame ↔ ¬Echoes a b frame) ∧
      ((∀ wire, Run stackEnds (injected a b frame) wire → wire.count ≤ 3) ↔ ¬Storms a b frame) ∧
      (Storms a b frame → ∀ n, ∃ wire, Run stackEnds (injected a b frame) wire ∧ wire.count = n) := by
  refine ⟨⟨?_, calm_of_quiet⟩, ⟨?_, ?_⟩, Storms.endless⟩
  · intro calm echoes
    obtain ⟨echo, out, wire, triggers, isEcho, nonempty⟩ := echoes.answered
    exact nonempty (calm.replies echo out wire triggers (Or.inr (Or.inl isEcho)))
  · intro bounded storms
    obtain ⟨wire, run, count⟩ := storms.endless 4
    have bound := bounded wire run
    omega
  · intro calm wire run
    have starts : Calms frame 3 (injected a b frame) := .pending { flight := rfl, back := rfl, calm }
    exact (calms_budget frame).bounds starts run

end NetStack

namespace Scenario

/-- A packet without a message that claims to be ICMP. -/
def emptyEcho : RxFrame where
  bytes :=
    { type := htons ethertypeIpv4 : EthHdr }.bytes ++
      { ihlVersion := ipVersionIhlDefault, totLen := htons 20, ttl := ipDefaultTtl, protocol := ipProtoIcmp
        saddr := gatewayIp, daddr := localIp : IpHdr }.bytes
  fits := by simp [pktBufSize]

/-- A stack that has been configured and then polled an echo request. -/
def pinged : Option NetStack := do
  let (_, s) ← Api.initNetworkStatic boot localIp gatewayIp 0x00FFFFFF#32 0#32
    (.initial .zeros { receive := [.frame gatewayReply, .frame plainEcho] })
  s.poll

def echoed : NetStack := pinged.get (by decide +kernel)

theorem echoed_reachable : Reachable echoed := by
  have done : pinged = some echoed := (Option.some_get _).symm
  unfold pinged at done
  obtain ⟨⟨st, s⟩, configured, polled⟩ := Option.bind_eq_some_iff.mp done
  exact @Reachable.move .poll s echoed ((Reachable.initial _ _).initNetworkStatic configured) polled

end Scenario

open Scenario Relay in
/-- Between two stacks that have been pinged, one empty packet is echoed for ever. -/
theorem NetStack.empty_echo_storms : ¬∃ bound, ∀ (a b : NetStack) (frame : RxFrame) (wire : Wire NetStack Bytes),
    Reachable a → Reachable b → Run stackEnds (injected a b frame) wire → wire.count ≤ bound := by
  rintro ⟨bound, bounded⟩
  have storms : Storms echoed echoed emptyEcho :=
    { reaches := by decide +kernel
      asks := by decide +kernel
      empty := by decide +kernel
      near := by decide +kernel
      far := by decide +kernel }
  obtain ⟨wire, run, count⟩ := storms.endless (bound + 1)
  have least := bounded echoed echoed emptyEcho wire echoed_reachable echoed_reachable run
  omega

end UefiNetstack
