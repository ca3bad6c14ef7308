import UefiNetstack.Exchange.Delivery
import UefiNetstack.Session.Segment

namespace UefiNetstack
open Words Memory Constants NetMath

/-- The first bytes of a payload, as far as a pending receive that is empty has room. -/
def TcpSession.filled (tcp : TcpSession) (data : Bytes) : TcpSession :=
  match tcp.rxBuffer with
  | none => tcp
  | some buffer =>
    let taken := data.take tcp.rxMaxLen.toNat
    if taken = [] then tcp
    else { tcp with
      rxBuffer := some (buffer.write 0 taken)
      rxCurrentLen := BitVec.ofNat 64 taken.length
      rxDone := true }

theorem TcpSession.filled_eq (tcp : TcpSession) (data : Bytes) : ∃ rxBuffer rxCurrentLen rxDone,
    tcp.filled data = { tcp with rxBuffer, rxCurrentLen, rxDone } := by
  unfold filled
  split
  · exact ⟨_, _, _, rfl⟩
  · dsimp only
    split
    · exact ⟨_, _, _, rfl⟩
    · exact ⟨_, _, _, rfl⟩

theorem TcpSession.filled_dropped {tcp : TcpSession} (dropped : tcp.rxBuffer = none) (data : Bytes) :
    tcp.filled data = tcp := by
  rw [filled, dropped]

theorem TcpSession.filled_nothing {tcp : TcpSession} {data : Bytes} (nothing : data.take tcp.rxMaxLen.toNat = []) :
    tcp.filled data = tcp := by
  unfold filled
  split
  · rfl
  · exact if_pos nothing

theorem TcpSession.filled_some {tcp : TcpSession} {data : Bytes} {buffer : Memory} (pending : tcp.rxBuffer = some buffer)
    (nonempty : data.take tcp.rxMaxLen.toNat ≠ []) : tcp.filled data = { tcp with
      rxBuffer := some (buffer.write 0 (data.take tcp.rxMaxLen.toNat))
      rxCurrentLen := BitVec.ofNat 64 (data.take tcp.rxMaxLen.toNat).length
      rxDone := true } := by
  rw [filled, pending]
  exact if_neg nonempty

namespace NetStack

variable {s s' : NetStack} {frame : RxFrame} {input : TcpInput} {tcpAt : Nat}

theorem doff_nibble (flags : UINT8) :
    ((tcpDataOffset5.setWidth 16 <<< 0x0C ||| flags.setWidth 16) >>> 0x0C &&& 0x0F#16) = 5#16 := by
  revert flags
  decide

theorem doff_flags (flags : UINT8) :
    ((tcpDataOffset5.setWidth 16 <<< 0x0C ||| flags.setWidth 16) &&& 0x3F#16) = flags.setWidth 16 &&& 0x3F#16 := by
  revert flags
  decide

/-- The frame of a segment, in parts, and what a receiver computes from its headers. -/
theorem tcpFrame_segment (s : NetStack) (flags : UINT8) (seq ack : UINT32) (data : Bytes) (random : UINT32)
    (fits : data.length ≤ 1446) :
    ∃ f : SegmentFrame, f.bytes = s.tcpFrame flags seq ack data random ∧ f.data = data ∧
      ntohs f.tcp.dest = s.tcp.remotePort ∧ f.input.flags = flags.setWidth 16 &&& 0x3F#16 ∧
      f.input.rxSeq = seq ∧ f.input.rxAck = ack := by
  let ip := s.ipHeader ipProtoTcp (sizeofTcpHdr + data.length) random s.tcp.remoteIp
  let tcp : TcpHdr :=
    { source := htons s.tcp.localPort
      dest := htons s.tcp.remotePort
      seq := htonl seq
      ackSeq := htonl ack
      res1DoffFlags := htons ((tcpDataOffset5.setWidth 16 <<< 0x0C) ||| flags.setWidth 16)
      window := htons tcpDefaultWindow }
  let check := pseudoChecksum ip.saddr ip.daddr ipProtoTcp (tcp.bytes ++ data)
    (BitVec.ofNat 16 (sizeofTcpHdr + data.length))
  let f : SegmentFrame :=
    { eth := s.unicastEth, ip, ipOptions := [], tcp := { tcp with check }, tcpOptions := [], data, padding := []
      type := rfl
      protocol := rfl
      ihl := by
        change (ipVersionIhlDefault &&& 0x0F#8).toNat * 4 = 20
        decide
      doff := by
        simp only [tcp, swap16_swap16, doff_nibble]
        rfl
      totLen := by
        simp only [ip, ipHeader, swap16_swap16, BitVec.toNat_ofNat, sizeofIpHdr, sizeofTcpHdr, List.length_nil]
        omega }
  refine ⟨f, ?_, rfl, swap16_swap16 _, ?_, swap32_swap32 _, swap32_swap32 _⟩
  · simp only [SegmentFrame.bytes, f, List.append_nil, List.append_assoc, tcpFrame, tcpSegment]
    rfl
  · have field (x : UINT16) : ntohs (htons x) = x := swap16_swap16 x
    change ntohs (htons _) &&& 0x3F#16 = _
    rw [field]
    exact doff_flags flags

/-- The dispatcher hands the segment of the page to the state machine. -/
theorem dispatch_arrival (arrives : s.arrival = some (input, tcpAt)) : s.dispatch = s.onSegment input tcpAt := by
  unfold arrival at arrives
  dsimp only at arrives
  split at arrives
  · rename_i here
    obtain ⟨type, protocol, dest, bound⟩ := here
    obtain ⟨rfl, rfl⟩ := Prod.mk.inj (Option.some.inj arrives)
    exact (dispatch_toTcp type rfl protocol).trans (handleTcp_here dest bound)
  · cases arrives

/-- A segment for the local port reaches the state machine as it was sent. -/
theorem poll_segment {f : SegmentFrame} (bytes : frame.bytes = f.bytes) (dest : ntohs f.tcp.dest = s.tcp.localPort)
    (bound : s.tcp.localPort ≠ 0#16) (delivered : s.nextReceive = .frame frame) :
    s.poll = (s.received.landed frame).onSegment f.input f.tcpAt := by
  rw [poll_frame delivered]
  exact dispatch_arrival (SegmentFrame.arrivalOn_eq (s := s.received) bytes dest bound)

/-- The frame of a segment without payload that acknowledges a number. -/
def IsAckTo (port : UINT16) (number : UINT32) (bytes : Bytes) : Prop :=
  ∃ (p : NetStack) (seq random : UINT32), p.tcp.remotePort = port ∧ bytes = p.tcpFrame tcpFlagAck seq number [] random

theorem IsAckTo.numbers {port : UINT16} {number : UINT32} {bytes : Bytes} (isAck : IsAckTo port number bytes) :
    IsTcpFrame bytes ∧ frameAckNo bytes = number := by
  obtain ⟨p, seq, random, -, rfl⟩ := isAck
  obtain ⟨isTcp, -, ackNo⟩ := p.tcpFrame_numbers tcpFlagAck seq number [] random
  exact ⟨isTcp, ackNo⟩

/-- A segment without payload, RST or SYN+ACK does nothing, or a session that receives looks at its FIN. -/
theorem onSegment_empty (noRst : input.has tcpFlagRst = false) (noSynAck : input.isSynAck = false)
    (empty : input.payloadLen = 0#64) :
    s.onSegment input tcpAt = some s ∨ s.Listening ∧ s.onSegment input tcpAt = s.receiveFin input := by
  have nothing : ¬input.payloadLen > 0#64 := by
    rw [empty]
    decide
  have data : s.receiveData input tcpAt = some s := receiveData_empty nothing
  have silent : s.acknowledgeData input = some s := if_neg nothing
  rw [onSegment, if_neg (by simp [noRst])]
  by_cases waiting : s.tcp.state = .synSent
  · rw [if_pos waiting, if_neg (by simp [noSynAck])]
    exact Or.inl rfl
  · by_cases listening : s.tcp.state = .established ∨ s.tcp.state = .finWait
    · refine Or.inr ⟨listening, ?_⟩
      rw [if_neg waiting, if_pos listening, data]
      change (s.acknowledgeData input).bind (receiveFin input) = _
      rw [silent]
      rfl
    · rw [if_neg waiting]
      exact Or.inl (if_neg listening)

/-- A segment without payload and without RST, SYN+ACK or FIN is ignored. -/
theorem onSegment_ignores (noRst : input.has tcpFlagRst = false) (noSynAck : input.isSynAck = false)
    (noFin : input.has tcpFlagFin = false) (empty : input.payloadLen = 0#64) : s.onSegment input tcpAt = some s := by
  rcases @onSegment_empty s input tcpAt noRst noSynAck empty with ignored | ⟨-, fin⟩
  · exact ignored
  · rw [fin]
    exact if_neg (by simp [noFin])

/-- Polling the acknowledgement of a segment changes nothing in a session. -/
theorem poll_ack {number : UINT32} (bound : s.tcp.localPort ≠ 0#16)
    (isAck : IsAckTo s.tcp.localPort number frame.bytes) (delivered : s.nextReceive = .frame frame) :
    ∃ s', s.poll = some s' ∧ s'.tcp = s.tcp := by
  obtain ⟨p, seq, random, port, bytes⟩ := isAck
  obtain ⟨f, content, data, dest, flags, -, -⟩ := p.tcpFrame_segment tcpFlagAck seq number [] random (Nat.zero_le _)
  have empty : f.input.payloadLen = 0#64 := by
    apply BitVec.eq_of_toNat_eq
    rw [f.input_payloadLen, data]
    rfl
  refine ⟨s.received.landed frame, ?_, rfl⟩
  have noRst : f.input.has tcpFlagRst = false := by
    rw [TcpInput.has, flags]
    decide
  have noFin : f.input.has tcpFlagFin = false := by
    rw [TcpInput.has, flags]
    decide
  have noSynAck : f.input.isSynAck = false := by
    rw [TcpInput.isSynAck, flags]
    decide
  have ignored := @onSegment_ignores (s.received.landed frame) f.input f.tcpAt noRst noSynAck noFin empty
  rw [poll_segment (bytes.trans content.symm) (dest.trans port) bound delivered]
  exact ignored

/-- The session of a receiver after a chunk. -/
def tcpFilled (tcp : TcpSession) (input : TcpInput) (buffer : Memory) (data : Bytes) : TcpSession :=
  { tcp with
    seq := input.rxAck
    ack := input.payloadEnd
    rxBuffer := some (buffer.write 0 data)
    rxCurrentLen := BitVec.ofNat 64 data.length
    rxDone := true }

/-- A pending receive that is empty takes the payload as far as it has room. -/
theorem receiveData_filled {data : Bytes} (empty : s.tcp.rxBuffer = none ∨ s.tcp.rxCurrentLen = 0#64)
    (len : input.payloadLen.toNat = data.length)
    (stored : s.rxPkt.byte.slice (tcpAt + input.tcpHlen.toNat) data.length = data)
    (inside : tcpAt + input.tcpHlen.toNat + data.length ≤ s.rxPkt.limit) :
    ∃ s', s.receiveData input tcpAt = some s' ∧ s'.sent = s.sent ∧ s'.tcp = s.tcp.filled data := by
  unfold receiveData TcpSession.filled
  cases pending : s.tcp.rxBuffer with
  | none => exact ⟨s, rfl, rfl, rfl⟩
  | some buffer =>
    have empty : s.tcp.rxCurrentLen = 0#64 := by
      rcases empty with noBuffer | empty
      · rw [pending] at noBuffer
        cases noBuffer
      · exact empty
    dsimp only
    have cut : (s.copyLen input).toNat = min data.length s.tcp.rxMaxLen.toNat := by
      unfold copyLen
      rw [cut_toNat, len, empty, BitVec.sub_zero]
    have length : (data.take s.tcp.rxMaxLen.toNat).length = (s.copyLen input).toNat := by
      rw [List.length_take, cut, Nat.min_comm]
    by_cases nothing : data.take s.tcp.rxMaxLen.toNat = []
    · have noCopy : ¬s.copyLen input > 0#64 := by
        rw [nothing, List.length_nil] at length
        rw [gt_iff_lt, BitVec.lt_def, ← length]
        exact Nat.lt_irrefl 0
      rw [if_pos nothing, if_neg noCopy]
      exact ⟨s, ite_self _, rfl, rfl⟩
    · have copies : s.copyLen input > 0#64 := by
        rw [gt_iff_lt, BitVec.lt_def, ← length]
        exact List.length_pos_iff.mpr nothing
      have payload : input.payloadLen > 0#64 :=
        BitVec.lt_def.mpr (Nat.lt_of_lt_of_le (BitVec.lt_def.mp copies) (s.copyLen_le input))
      obtain ⟨copied, copy⟩ := s.rxPkt.copy_mapped
        (show tcpAt + input.tcpHlen.toNat + (s.copyLen input).toNat ≤ s.rxPkt.limit by omega)
      have content : copied.val = data.take s.tcp.rxMaxLen.toNat := by
        have part := s.rxPkt.byte.slice_prefix (tcpAt + input.tcpHlen.toNat) (cut ▸ Nat.min_le_left _ _)
        rw [MappedMemory.copy_val copy, List.prefix_iff_eq_take.mp part, slice_length, stored, List.take_eq_take_iff, cut]
        omega
      rw [if_neg nothing, if_pos payload, if_pos copies, copyPayload, copy]
      refine ⟨_, rfl, ?_, ?_⟩
      · simp [sent, log, Event.frame?]
      · change { s.tcp with
          rxBuffer := some (buffer.write s.tcp.rxCurrentLen.toNat copied.val)
          rxCurrentLen := s.tcp.rxCurrentLen + s.copyLen input
          rxDone := true } = _
        rw [content, empty, length, BitVec.zero_add, BitVec.ofNat_toNat, BitVec.setWidth_eq]
        rfl

/-- A payload is acknowledged by one segment without payload. -/
theorem acknowledgeData_sends (payload : input.payloadLen > 0#64) :
    ∃ (s' : NetStack) (frame : TxFrame), s.acknowledgeData input = some (s'.sendFrame frame) ∧ s'.sent = s.sent ∧
      s'.tcp = { s.tcp with seq := input.rxAck, ack := input.payloadEnd } ∧
      IsAckTo s.tcp.remotePort input.payloadEnd frame.bytes := by
  have number : (input.rxSeq.setWidth 64 + input.payloadLen).setWidth 32 = input.payloadEnd := by
    apply BitVec.eq_of_toNat_eq
    simp only [TcpInput.payloadEnd, BitVec.toNat_setWidth, BitVec.toNat_add]
    omega
  unfold acknowledgeData
  rw [if_pos payload]
  dsimp only
  rw [number]
  let updated : NetStack := { s with tcp := { s.tcp with seq := input.rxAck, ack := input.payloadEnd } }
  obtain ⟨frame, sent, bytes⟩ := updated.sendTcpInternal_eq tcpFlagAck input.rxAck input.payloadEnd [] (Nat.zero_le _)
  exact ⟨updated.getU32.2, frame, sent, rfl, rfl, updated.getU32.2, input.rxAck, updated.getU32.1, rfl, bytes⟩

/-- An established session with an empty pending receive takes a segment with payload and acknowledges it
once. -/
theorem onSegment_takes {data : Bytes} {buffer : Memory} (established : s.tcp.state = .established)
    (noRst : input.has tcpFlagRst = false) (noFin : input.has tcpFlagFin = false)
    (pending : s.tcp.rxBuffer = some buffer) (empty : s.tcp.rxCurrentLen = 0#64)
    (len : input.payloadLen.toNat = data.length) (nonempty : 0 < data.length)
    (room : data.length ≤ s.tcp.rxMaxLen.toNat)
    (stored : s.rxPkt.byte.slice (tcpAt + input.tcpHlen.toNat) data.length = data)
    (inside : tcpAt + input.tcpHlen.toNat + data.length ≤ s.rxPkt.limit) :
    ∃ (s' : NetStack) (frame : TxFrame), s.onSegment input tcpAt = some s' ∧ s'.sent = s.sent ++ [frame.bytes] ∧
      s'.tcp = tcpFilled s.tcp input buffer data ∧ IsAckTo s.tcp.remotePort input.payloadEnd frame.bytes := by
  have payload : input.payloadLen > 0#64 := by
    rw [gt_iff_lt, BitVec.lt_def, len]
    exact nonempty
  obtain ⟨copied, copies, sent, tcp⟩ := receiveData_filled (Or.inr empty) len stored inside
  have whole : data.take s.tcp.rxMaxLen.toNat = data := List.take_of_length_le room
  rw [TcpSession.filled_some pending (whole.symm ▸ List.length_pos_iff.mp nonempty), whole] at tcp
  obtain ⟨acked, frame, answers, sent', tcp', isAck⟩ := @acknowledgeData_sends copied input payload
  have waiting : s.tcp.state ≠ .synSent := by simp [established]
  have open_ : (acked.sendFrame frame).receiveFin input = some (acked.sendFrame frame) := if_neg (by simp [noFin])
  refine ⟨acked.sendFrame frame, frame, ?_, ?_, ?_, ?_⟩
  · rw [onSegment, if_neg (by simp [noRst]), if_neg waiting, if_pos (Or.inl established), copies]
    change (copied.acknowledgeData input).bind (receiveFin input) = _
    rw [answers]
    exact open_
  · rw [sendFrame_sent, sent', sent]
  · rw [sendFrame_tcp, tcp', tcp]
    rfl
  · rw [tcp] at isAck
    exact isAck

end NetStack
end UefiNetstack
