import UefiNetstack.Exchange.Chunks
import UefiNetstack.Reception.Frame
import UefiNetstack.Session.Moves

namespace UefiNetstack
open Words Memory Constants

/-- The flags and the source port of a segment that was sent. -/
def frameFlags (frame : Bytes) : UINT16 := ntohs (frameTcp frame).res1DoffFlags &&& 0x3F#16
def frameSource (frame : Bytes) : UINT16 := ntohs (frameTcp frame).source

/-- A sent segment has a flag when its bit is set. -/
def FrameHas (flag : UINT8) (frame : Bytes) : Prop := frameFlags frame &&& flag.setWidth 16 ≠ 0#16

instance (flag : UINT8) (frame : Bytes) : Decidable (FrameHas flag frame) := inferInstanceAs (Decidable (_ ≠ _))

theorem frameHas_iff {flag flags : UINT8} {frame : Bytes} (sent : frameFlags frame = flags.setWidth 16 &&& 0x3F#16) :
    FrameHas flag frame ↔ (flags.setWidth 16 &&& 0x3F#16) &&& flag.setWidth 16 ≠ 0#16 := by
  rw [FrameHas, sent]

namespace NetStack

variable {s s' s'' : NetStack} {allowed allowed' : Bytes → Prop}

theorem tcpFrame_flags (s : NetStack) (flags : UINT8) (seq ack : UINT32) (data : Bytes) (random : UINT32) :
    frameFlags (s.tcpFrame flags seq ack data random) = flags.setWidth 16 &&& 0x3F#16 ∧
      frameSource (s.tcpFrame flags seq ack data random) = s.tcp.localPort := by
  have field (x : UINT16) : ntohs (htons x) = x := swap16_swap16 x
  constructor
  · dsimp only [tcpFrame, tcpSegment]
    rw [frameFlags, frameTcp_parts]
    dsimp only
    rw [field]
    exact doff_flags flags
  · dsimp only [tcpFrame, tcpSegment]
    rw [frameSource, frameTcp_parts]
    exact field _

/-- A step sends frames, and the segments among them are allowed ones. -/
def Sends (allowed : Bytes → Prop) (s s' : NetStack) : Prop :=
  ∃ frames, s'.sent = s.sent ++ frames ∧ ∀ frame ∈ frames, IsTcpFrame frame → allowed frame

theorem Sends.of_same (sent : s'.sent = s.sent) : Sends allowed s s' :=
  ⟨[], by rw [sent, List.append_nil], by simp⟩

theorem Sends.trans (first : Sends allowed s s') (second : Sends allowed s' s'') : Sends allowed s s'' := by
  obtain ⟨before, sent, meets⟩ := first
  obtain ⟨after, sent', meets'⟩ := second
  refine ⟨before ++ after, by rw [sent', sent, List.append_assoc], ?_⟩
  intro frame member
  rcases List.mem_append.mp member with member | member
  · exact meets frame member
  · exact meets' frame member

theorem Sends.mono (sends : Sends allowed s s') (weaker : ∀ frame, allowed frame → allowed' frame) :
    Sends allowed' s s' := by
  obtain ⟨frames, sent, meets⟩ := sends
  exact ⟨frames, sent, fun frame member tcp => weaker frame (meets frame member tcp)⟩

theorem TcpQuiet.sends (quiet : TcpQuiet s s') : Sends allowed s s' := by
  obtain ⟨frames, sent, silent⟩ := quiet.sent
  exact ⟨frames, sent, fun frame member tcp => absurd tcp (silent frame member)⟩

/-- The frame of a segment carries the flags, the local port and the sequence number it was built from. -/
def IsSegment (flags : UINT8) (s : NetStack) (seq : UINT32) (frame : Bytes) : Prop :=
  frameFlags frame = flags.setWidth 16 &&& 0x3F#16 ∧ frameSource frame = s.tcp.localPort ∧ frameSeqNo frame = seq

theorem sendTcpInternal_sends {flags : UINT8} {seq ack : UINT32} {data : Bytes}
    (done : s.sendTcpInternal flags seq ack data = some s') :
    s'.tcp = s.tcp ∧ Sends (IsSegment flags s seq) s s' := by
  obtain ⟨sent, bytes, rfl⟩ := sendTcpInternal_cases done
  refine ⟨rfl, [_], sendFrame_sent sent s.getU32.2, ?_⟩
  intro frame member _
  rw [List.mem_singleton.mp member, bytes]
  have header := s.getU32.2.tcpFrame_flags flags seq ack data s.getU32.1
  exact ⟨header.1, header.2, (s.getU32.2.tcpFrame_numbers flags seq ack data s.getU32.1).2.1⟩

theorem sendTcpControl_sends {flags : UINT8} (done : s.sendTcpControl flags = some s') :
    s'.tcp = s.tcp ∧ Sends (IsSegment flags s s.tcp.seq) s s' :=
  sendTcpInternal_sends done

/-- A step keeps the local port and sends its segments from it. -/
structure KeepsPort (s s' : NetStack) : Prop where
  port : s'.tcp.localPort = s.tcp.localPort
  sends : Sends (fun frame => frameSource frame = s.tcp.localPort) s s'

theorem KeepsPort.of_same (port : s'.tcp.localPort = s.tcp.localPort) (sent : s'.sent = s.sent) : KeepsPort s s' :=
  ⟨port, Sends.of_same sent⟩

theorem KeepsPort.trans (first : KeepsPort s s') (second : KeepsPort s' s'') : KeepsPort s s'' := by
  refine ⟨second.port.trans first.port, first.sends.trans (second.sends.mono fun frame source => ?_)⟩
  rw [source, first.port]

theorem sendTcpControl_keepsPort {flags : UINT8} {before after : TcpSession}
    (sent : ({ s with tcp := before } : NetStack).sendTcpControl flags = some s')
    (same : before.localPort = s.tcp.localPort) (kept : after.localPort = s'.tcp.localPort) :
    KeepsPort s { s' with tcp := after } := by
  obtain ⟨tcp, sends⟩ := sendTcpControl_sends sent
  have port : s'.tcp.localPort = s.tcp.localPort := by rw [tcp, same]
  refine ⟨kept.trans port, sends.mono fun frame segment => ?_⟩
  exact segment.2.1.trans same

theorem receiveData_keepsPort {input : TcpInput} {tcpAt : Nat} (done : s.receiveData input tcpAt = some s') :
    KeepsPort s s' := by
  have sent := (receiveData_eq done).2.2.2.1
  rcases receiveData_cases done with ⟨-, rfl⟩ | ⟨buffer, -, -, copy⟩
  · exact .of_same rfl rfl
  · obtain ⟨data, -, rfl⟩ := copyPayload_cases copy
    exact .of_same rfl sent

theorem acknowledgeData_keepsPort {input : TcpInput} (done : s.acknowledgeData input = some s') : KeepsPort s s' := by
  rcases acknowledgeData_cases done with ⟨-, rfl⟩ | ⟨-, sent⟩
  · exact .of_same rfl rfl
  · exact sendTcpControl_keepsPort sent rfl rfl

theorem receiveFin_keepsPort {input : TcpInput} (done : s.receiveFin input = some s') : KeepsPort s s' := by
  rcases receiveFin_cases done with ⟨-, rfl⟩ | ⟨-, out, sent, rfl⟩
  · exact .of_same rfl rfl
  · exact sendTcpControl_keepsPort sent rfl rfl

theorem onSegment_keepsPort {input : TcpInput} {tcpAt : Nat} (done : s.onSegment input tcpAt = some s') :
    KeepsPort s s' := by
  cases onSegment_branch done with
  | abort rst aborted =>
    subst aborted
    exact .of_same rfl rfl
  | accept noRst waiting synAck accepted =>
    obtain ⟨out, sent, rfl⟩ := acceptSynAck_cases accepted
    exact sendTcpControl_keepsPort sent rfl rfl
  | receive noRst listening copied acked copies acknowledges ends =>
    have taken := receiveData_keepsPort copies
    exact (taken.trans (acknowledgeData_keepsPort acknowledges)).trans (receiveFin_keepsPort ends)
  | ignore noRst notSynAck deaf unchanged =>
    subst unchanged
    exact .of_same rfl rfl

variable {input : TcpInput} {tcpAt : Nat} {t : NetStack}

/-- The handler answers with an ACK, and to a FIN with a FIN as well. -/
def Answers (input : TcpInput) (frame : Bytes) : Prop :=
  frameFlags frame = tcpFlagAck.setWidth 16 ∨ input.has tcpFlagFin ∧ frameFlags frame = tcpFlagFinAck.setWidth 16

/-- An answer starts where the segment says that the peer waits, and only a connection that receives ends it. -/
structure Replies (s : NetStack) (input : TcpInput) (frame : Bytes) : Prop where
  answers : Answers input frame
  seqNo : frameSeqNo frame = input.rxAck
  fin : FrameHas tcpFlagFin frame → s.Listening

theorem ack_noFin {frame : Bytes} (flags : frameFlags frame = tcpFlagAck.setWidth 16) : ¬FrameHas tcpFlagFin frame := by
  rw [FrameHas, flags]
  decide

theorem acknowledgeData_replies (done : s.acknowledgeData input = some s') :
    Sends (fun frame => Answers input frame ∧ frameSeqNo frame = input.rxAck) s s' := by
  rcases acknowledgeData_cases done with ⟨-, rfl⟩ | ⟨-, acknowledged⟩
  · exact Sends.of_same rfl
  · exact (sendTcpControl_sends acknowledged).2.mono fun frame segment => ⟨Or.inl segment.1, segment.2.2⟩

theorem receiveFin_replies (done : s.receiveFin input = some s') :
    Sends (fun frame => Answers input frame ∧ frameSeqNo frame = input.rxAck) s s' := by
  rcases receiveFin_cases done with ⟨-, rfl⟩ | ⟨fin, out, answered, rfl⟩
  · exact Sends.of_same rfl
  · exact (sendTcpControl_sends answered).2.mono fun frame segment => ⟨Or.inr ⟨fin, segment.1⟩, segment.2.2⟩

theorem acceptSynAck_replies (done : s.acceptSynAck input = some s') : Sends (Replies t input) s s' := by
  obtain ⟨out, answered, rfl⟩ := acceptSynAck_cases done
  refine (sendTcpControl_sends answered).2.mono fun frame segment => ?_
  exact
    { answers := Or.inl segment.1
      seqNo := segment.2.2
      fin := fun fin => absurd fin (ack_noFin segment.1) }

theorem onSegment_replies (done : s.onSegment input tcpAt = some s') : Sends (Replies s input) s s' := by
  cases onSegment_branch done with
  | abort rst aborted =>
    subst aborted
    exact Sends.of_same rfl
  | accept noRst waiting synAck accepted => exact acceptSynAck_replies accepted
  | receive noRst listening copied acked copies acknowledges ends =>
    have taken : Sends (fun frame => Answers input frame ∧ frameSeqNo frame = input.rxAck) s copied :=
      Sends.of_same (receiveData_eq copies).2.2.2.1
    have sends := (taken.trans (acknowledgeData_replies acknowledges)).trans (receiveFin_replies ends)
    exact sends.mono fun frame answer => { answers := answer.1, seqNo := answer.2, fin := fun _ => listening }
  | ignore noRst notSynAck deaf unchanged =>
    subst unchanged
    exact Sends.of_same rfl

/-- The segment for the local port that the next poll takes. -/
def incoming (s : NetStack) : Option TcpInput := (s.arrivalOn s.nextReceive).map (·.1)

/-- The next frame holds a segment for the local port. -/
def ReceivesSegment (s : NetStack) (input : TcpInput) : Prop :=
  ∃ frame, s.nextReceive = .frame frame ∧ frame.Holds (segmentOn s.tcp.localPort) (some input)

theorem arrival_segmentOn (s : NetStack) : s.arrival.map (·.1) = segmentOn s.tcp.localPort s.rxPkt.byte := by
  unfold arrival segmentOn
  dsimp only
  split
  · rfl
  · rfl

theorem incoming_frame {frame : RxFrame} (next : s.nextReceive = .frame frame) :
    s.incoming = segmentOn s.tcp.localPort (s.rxPkt.receive frame).byte := by
  rw [incoming, next]
  exact arrival_segmentOn (s.landed frame)

/-- A poll answers the segment that it takes and sends no other. -/
theorem poll_replies (done : s.poll = some s') :
    (s.incoming = none ∧ TcpQuiet s s') ∨
      ∃ input tcpAt t, s.incoming = some input ∧ TcpQuiet s t ∧ Reaction input tcpAt t s' ∧
        Sends (Replies t input) s s' := by
  rcases pollOn_cases done with ⟨nothing, quiet⟩ | ⟨frame, input, tcpAt, answer, arrives, segment⟩
  · have noArrival : s.arrivalOn s.nextReceive = none := nothing
    exact Or.inl ⟨by rw [incoming, noArrival]; rfl, s.received_tcpQuiet.trans quiet⟩
  · have arrival : s.arrivalOn s.nextReceive = some (input, tcpAt) := arrives
    have landed := s.received_tcpQuiet.trans (s.received.landed_tcpQuiet frame)
    refine Or.inr ⟨input, tcpAt, s.received.landed frame, by rw [incoming, arrival]; rfl, landed,
      onSegment_reaction segment, ?_⟩
    exact landed.sends.trans (onSegment_replies segment)

theorem poll_answers (done : s.poll = some s') :
    (s.incoming = none ∧ TcpQuiet s s') ∨
      ∃ input tcpAt t, s.incoming = some input ∧ t.tcp = s.tcp ∧ Reaction input tcpAt t s' ∧
        Sends (Answers input) s s' := by
  rcases poll_replies done with nothing | ⟨input, tcpAt, t, takes, quiet, reaction, sends⟩
  · exact Or.inl nothing
  · exact Or.inr ⟨input, tcpAt, t, takes, quiet.tcp, reaction, sends.mono fun frame replies => replies.answers⟩

theorem poll_keepsPort (done : s.poll = some s') : KeepsPort s s' := by
  rcases pollOn_cases done with ⟨-, quiet⟩ | ⟨frame, input, tcpAt, -, -, segment⟩
  · exact ⟨congrArg TcpSession.localPort quiet.tcp, (s.received_tcpQuiet.trans quiet).sends⟩
  · have landed := s.received_tcpQuiet.trans (s.received.landed_tcpQuiet frame)
    have keeps := onSegment_keepsPort segment
    exact ⟨keeps.port, landed.sends.trans keeps.sends⟩

theorem answers_noSyn {frame : Bytes} (answers : Answers input frame) : ¬FrameHas tcpFlagSyn frame := by
  rcases answers with flags | ⟨-, flags⟩
  all_goals
    rw [FrameHas, flags]
    decide

theorem answers_noFin {frame : Bytes} (noFin : ¬input.has tcpFlagFin) (answers : Answers input frame) :
    ¬FrameHas tcpFlagFin frame := by
  rcases answers with flags | ⟨fin, -⟩
  · exact ack_noFin flags
  · exact absurd fin noFin

theorem sendFrame_other {data : TxFrame} (other : ¬IsTcpFrame data.bytes) : Sends allowed s (s.sendFrame data) :=
  (s.sendFrame_tcpQuiet other).sends

theorem udpFrame_not_tcp (s : NetStack) (destIp : UINT32) (destPort srcPort : UINT16) (data : Bytes) (random : UINT32) :
    ¬IsTcpFrame (s.udpFrame destIp destPort srcPort data random) := by
  unfold udpFrame
  rw [isTcpFrame_parts]
  have different : ipProtoUdp ≠ ipProtoTcp := by decide
  exact different

theorem icmpEchoFrame_not_tcp (s : NetStack) (targetIp : UINT32) (id seq : UINT16) (random : UINT32) :
    ¬IsTcpFrame (s.icmpEchoFrame targetIp id seq random) := by
  unfold icmpEchoFrame
  dsimp only
  rw [List.append_assoc, isTcpFrame_parts]
  have different : ipProtoIcmp ≠ ipProtoTcp := by decide
  exact different

theorem sendUdp_sends {destIp : UINT32} {destPort srcPort : UINT16} {data : Bytes}
    (done : s.sendUdp destIp destPort srcPort data = some s') : Sends allowed s s' := by
  obtain ⟨frame, bytes, rfl⟩ := sendUdp_cases done
  exact @sendFrame_other s.getU32.2 allowed _ (bytes ▸ udpFrame_not_tcp _ _ _ _ _ _)

theorem dnsQuery_sends {hostname : CString} (done : s.dnsQuery hostname = some s') : Sends allowed s s' := by
  obtain ⟨frame, bytes, rfl⟩ := dnsQuery_cases done
  have prepared : Sends allowed s s.dnsPrepared := Sends.of_same s.dnsPrepared_sent
  exact prepared.trans (sendFrame_other (bytes ▸ udpFrame_not_tcp _ _ _ _ _ _))

theorem udpBind_sends (s : NetStack) : Sends allowed s s.udpBind := by
  unfold udpBind
  split
  all_goals exact Sends.of_same rfl

end NetStack

/-- The segments that a call sends. -/
def Call.Segment (s : NetStack) : Call → Bytes → Prop
  | .syn, frame => NetStack.IsSegment tcpFlagSyn s s.tcp.seq frame
  | .send _, frame => s.tcp.state = .established ∧ NetStack.IsSegment tcpFlagPshAck s s.tcp.seq frame
  | .closeStart, frame => NetStack.IsSegment tcpFlagFinAck s s.tcp.seq frame
  | _, _ => False

namespace NetStack

variable {s s' : NetStack}

theorem call_sends (call : Call) (done : call.run s = some s') : Sends (call.Segment s) s s' := by
  cases call with
  | stall micros =>
    obtain rfl := Option.some.inj done
    exact (s.log_tcpQuiet rfl rfl).sends
  | syn => exact (sendTcpControl_sends done).2
  | send data =>
    rcases Call.send_cases done with ⟨-, rfl⟩ | ⟨established, out, first, rfl⟩
    · exact Sends.of_same rfl
    · exact (sendTcpInternal_sends first).2.mono fun frame segment => ⟨established, segment⟩
  | receiveStart buffer maxLen =>
    obtain rfl := Option.some.inj done
    exact Sends.of_same rfl
  | receiveEnd =>
    obtain rfl := Option.some.inj done
    exact Sends.of_same rfl
  | closeStart =>
    obtain ⟨-, out, first, rfl⟩ := Call.closeStart_cases done
    exact (sendTcpControl_sends first).2
  | closeEnd =>
    obtain rfl := Option.some.inj done
    exact Sends.of_same rfl
  | udpSend destIp destPort data =>
    exact s.udpBind_sends.trans (sendUdp_sends (Call.udpSend_cases done))
  | udpReceiveStart buffer maxLen =>
    obtain rfl := Option.some.inj done
    exact Sends.of_same rfl
  | udpReceiveEnd =>
    obtain rfl := Option.some.inj done
    exact Sends.of_same rfl
  | ping targetIp =>
    obtain rfl := Option.some.inj done
    exact sendFrame_other (icmpEchoFrame_not_tcp _ _ _ _ _)
  | resolve =>
    obtain rfl := Option.some.inj done
    exact Sends.of_same rfl
  | query hostname => exact dnsQuery_sends done

end NetStack
end UefiNetstack
