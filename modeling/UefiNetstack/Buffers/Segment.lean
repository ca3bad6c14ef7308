import UefiNetstack.Buffers.Datagram
import UefiNetstack.Session.Stream

namespace UefiNetstack
open Constants Words Memory

/-- The bytes that a copy takes into the stream buffer. -/
def Copy.tcpBytes : Copy → Bytes
  | .tcp _ data => data
  | .udp _ => []

namespace NetStack

variable {s s' : NetStack} {frame : RxFrame}

/-- The header of a segment on the page, and what the handler computes from it. -/
def pageTcp (s : NetStack) : TcpHdr := TcpHdr.read s.rxPkt.byte (transportOf s.rxPkt.byte)
def segment (s : NetStack) : TcpInput := TcpInput.ofHeaders s.pageIp s.pageTcp

/-- The three length fields of a segment. -/
def ihl (s : NetStack) : Nat := (s.pageIp.ihlVersion &&& 0x0F#8).toNat
def doff (s : NetStack) : Nat := ((ntohs s.pageTcp.res1DoffFlags >>> 0x0C) &&& 0x0F#16).toNat
def totLen (s : NetStack) : Nat := (ntohs s.pageIp.totLen).toNat

/-- The page has a segment. -/
structure ReachesTcp (s : NetStack) : Prop where
  ipv4 : (EthHdr.read s.rxPkt.byte 0).type = htons ethertypeIpv4
  protocol : s.pageIp.protocol = ipProtoTcp

/-- The header lengths of a segment are valid, and its packet covers them and lies in the frame. -/
structure SegmentConsistent (s : NetStack) (frame : RxFrame) : Prop where
  ihl : 5 ≤ s.ihl
  doff : 5 ≤ s.doff
  headers : 4 * s.ihl + 4 * s.doff ≤ s.totLen
  received : sizeofEthHdr + s.totLen ≤ frame.bytes.length

/-- The payload of a segment in its frame. -/
def segmentSlice (s : NetStack) (frame : RxFrame) : Bytes :=
  (frame.bytes.take (sizeofEthHdr + s.totLen)).drop (sizeofEthHdr + 4 * s.ihl + 4 * s.doff)

/-- The session takes what the segment carries. -/
structure TakesSegment (s : NetStack) : Prop where
  forTcp : s.ForTcp s.pageTcp
  noRst : ¬s.segment.has tcpFlagRst
  listening : s.Listening

/-- The segment is the answer that `tcp_connect` waits for. -/
structure AcceptsSynAck (s : NetStack) : Prop where
  forTcp : s.ForTcp s.pageTcp
  noRst : ¬s.segment.has tcpFlagRst
  waiting : s.tcp.state = .synSent
  synAck : s.segment.isSynAck

/-- A step that appends a block to the caller's buffer and counts it. -/
structure Appends (s s' : NetStack) (data : Bytes) : Prop where
  delivered : s'.tcpDelivered = s.tcpDelivered ++ data
  stored : data = [] ∧ s'.tcp.pending = s.tcp.pending ∨ ∃ buffer, s.tcp.rxBuffer = some buffer ∧ s'.tcp.pending =
    { buffer := some (buffer.write s.tcp.rxCurrentLen.toNat data)
      maxLen := s.tcp.rxMaxLen
      currentLen := s.tcp.rxCurrentLen + BitVec.ofNat 64 data.length }

/-- What the handler owes on a consistent segment. Its payload is the only source of what is appended, and the
number to acknowledge moves behind it. A FIN takes one number more, and a SYN+ACK sets the number anew. -/
structure SegmentExtracted (s s' : NetStack) (frame : RxFrame) : Prop where
  appends : ∃ data, data <+: s.segmentSlice frame ∧ Appends s s' data
  advances : s.TakesSegment → s'.tcp.ack =
    s.tcp.ack + BitVec.ofNat 32 ((s.segmentSlice frame).length + (s.segment.has tcpFlagFin).toNat)
  keeps : ¬s.TakesSegment → ¬s.AcceptsSynAck → s'.tcp.ack = s.tcp.ack

/-- What the handler owes on an inconsistent segment. -/
structure SegmentDropped (s s' : NetStack) : Prop where
  appends : Appends s s' []
  seq : s'.tcp.seq = s.tcp.seq
  ack : s'.tcp.ack = s.tcp.ack
  sent : s'.sent = s.sent

/-- A poll extracts the payload of a segment. -/
def ExtractsSegment (s : NetStack) (frame : RxFrame) : Prop :=
  ∃ s', s.pollOn (.frame frame) = some s' ∧
    ((s.landed frame).SegmentConsistent frame → SegmentExtracted (s.landed frame) s' frame) ∧
    (¬(s.landed frame).SegmentConsistent frame → SegmentDropped (s.landed frame) s')

theorem ihl_lt (s : NetStack) : s.ihl < 16 := by
  rw [ihl, BitVec.toNat_and]
  exact Nat.lt_of_le_of_lt Nat.and_le_right (by decide)

theorem doff_lt (s : NetStack) : s.doff < 16 := by
  rw [doff, BitVec.toNat_and]
  exact Nat.lt_of_le_of_lt Nat.and_le_right (by decide)

theorem segment_tcpHlen (s : NetStack) : s.segment.tcpHlen.toNat = s.doff * 4 := tcpHlen_toNat s.pageIp s.pageTcp

/-- The computed length is the difference of the length fields modulo 2^64. -/
theorem segment_payloadLen (s : NetStack) : s.segment.payloadLen.toNat =
    (s.totLen + 2 ^ 64 - 4 * s.ihl - 4 * s.doff) % 2 ^ 64 := by
  have ihl := s.ihl_lt
  have doff := s.doff_lt
  have total : s.totLen < 2 ^ 16 := (ntohs s.pageIp.totLen).isLt
  have header : ((s.pageIp.ihlVersion &&& 0x0F#8).setWidth 64 * 0x04#64).toNat = s.ihl * 4 := by
    refine nibble_toNat ?_ ihl rfl
    rw [BitVec.toNat_setWidth]
    exact Nat.mod_eq_of_lt (Nat.lt_trans ihl (by decide))
  change ((ntohs s.pageIp.totLen).setWidth 64 - (s.pageIp.ihlVersion &&& 0x0F#8).setWidth 64 * 0x04#64 -
    s.segment.tcpHlen).toNat = _
  have wide : ((ntohs s.pageIp.totLen).setWidth 64).toNat = s.totLen := by
    rw [BitVec.toNat_setWidth]
    exact Nat.mod_eq_of_lt (Nat.lt_trans total (by decide))
  rw [BitVec.toNat_sub, BitVec.toNat_sub, header, segment_tcpHlen, wide]
  omega

theorem segment_payloadLen_consistent (consistent : s.SegmentConsistent frame) :
    s.segment.payloadLen.toNat = (s.segmentSlice frame).length := by
  have headers := consistent.headers
  have received := consistent.received
  have total : s.totLen < 2 ^ 16 := (ntohs s.pageIp.totLen).isLt
  rw [segment_payloadLen, segmentSlice, List.length_drop, List.length_take]
  omega

/-- A segment carries nothing if it has no FIN and its packet is exactly as long as its headers say. -/
theorem segment_carries : s.segment.Carries ↔ s.totLen ≠ 4 * s.ihl + 4 * s.doff ∨ s.segment.has tcpFlagFin := by
  have ihl := s.ihl_lt
  have doff := s.doff_lt
  have total : s.totLen < 2 ^ 16 := (ntohs s.pageIp.totLen).isLt
  have positive : s.segment.payloadLen > 0#64 ↔ s.totLen ≠ 4 * s.ihl + 4 * s.doff := by
    rw [gt_iff_lt, BitVec.lt_def, segment_payloadLen, BitVec.toNat_ofNat]
    omega
  rw [TcpInput.Carries, positive]

/-- The delivered bytes are those of the copies. -/
theorem tcpDelivered_copies (s : NetStack) : s.tcpDelivered = s.copies.flatMap Copy.tcpBytes := by
  unfold tcpDelivered copies
  induction s.trace with
  | nil => rfl
  | cons event rest ih =>
      rw [List.flatMap_cons, ih]
      cases event <;> rfl

/-- A poll appends the bytes that it delivers. -/
theorem BufferStep.appends {data : Bytes} (step : BufferStep s s') (delivered : s'.tcpDelivered = s.tcpDelivered ++ data) :
    Appends s s' data := by
  refine ⟨delivered, ?_⟩
  rw [tcpDelivered_copies, tcpDelivered_copies] at delivered
  cases step with
  | nothing nothing =>
      rw [nothing.copies] at delivered
      exact Or.inl ⟨List.self_eq_append_right.mp delivered, nothing.tcp⟩
  | tcp buffer copied pending room stored udp copies =>
      rw [copies, List.flatMap_append, List.append_cancel_left_eq] at delivered
      have same : data = copied := by simpa [Copy.tcpBytes] using delivered.symm
      rw [same]
      exact Or.inr ⟨buffer, pending, stored⟩
  | udp buffer copied pending room stored tcp copies =>
      rw [copies, List.flatMap_append] at delivered
      have noTcp : [Copy.udp copied].flatMap Copy.tcpBytes = [] := rfl
      rw [noTcp, List.append_nil] at delivered
      exact Or.inl ⟨List.self_eq_append_right.mp delivered, tcp⟩

theorem Appends.of_tcp (tcp : s'.tcp.pending = s.tcp.pending) (delivered : s'.tcpDelivered = s.tcpDelivered) :
    Appends s s' [] :=
  ⟨delivered.trans (List.append_nil _).symm, Or.inl ⟨rfl, tcp⟩⟩

theorem ReachesTcp.pollOn (reaches : (s.landed frame).ReachesTcp) : s.pollOn (.frame frame) =
    (s.landed frame).handleTcp (s.landed frame).pageIp (transportOf (s.landed frame).rxPkt.byte) :=
  dispatch_toTcp reaches.ipv4 rfl reaches.protocol

theorem ForTcp.handled (forTcp : s.ForTcp s.pageTcp) :
    s.handleTcp s.pageIp (transportOf s.rxPkt.byte) = s.onSegment s.segment (transportOf s.rxPkt.byte) :=
  handleTcp_here forTcp.1 forTcp.2

/-- The state machine ends where what it copies is on the page. -/
theorem onSegment_ends {input : TcpInput} {tcpAt : Nat}
    (inside : s.SegmentCopies input → tcpAt + input.tcpHlen.toNat + s.takenLen input ≤ pktBufSize) :
    ∃ s', s.onSegment input tcpAt = some s' := by
  obtain ⟨ended, every⟩ :=
    @onSegment_settles s { byte := s.rxPkt.byte, limit := pktBufSize } (Nat.le_refl _) input tcpAt inside
  exact ⟨_, every s.rxPkt.byte fun _ _ _ => rfl⟩

/-- The segment that a connection takes starts at the number to acknowledge, and its headers are consistent. A
SYN+ACK that is waited for is consistent. -/
structure SegmentInTurn (s : NetStack) (frame : RxFrame) : Prop where
  synAck : s.AcceptsSynAck → s.SegmentConsistent frame
  consistent : s.TakesSegment → s.totLen ≠ 4 * s.ihl + 4 * s.doff ∨ s.segment.has tcpFlagFin → s.SegmentConsistent frame
  next : s.TakesSegment → s.totLen ≠ 4 * s.ihl + 4 * s.doff ∨ s.segment.has tcpFlagFin → s.segment.rxSeq = s.tcp.ack

/-- A consistent segment has its payload behind its headers on the page. -/
theorem consistent_slice (consistent : (s.landed frame).SegmentConsistent frame) {len : Nat}
    (short : len ≤ ((s.landed frame).segmentSlice frame).length) : (s.landed frame).rxPkt.byte.slice
      (transportOf (s.landed frame).rxPkt.byte + (s.landed frame).segment.tcpHlen.toNat) len =
        ((s.landed frame).segmentSlice frame).take len := by
  have place : transportOf (s.landed frame).rxPkt.byte = sizeofEthHdr + 4 * (s.landed frame).ihl := by
    have known := consistent.ihl
    rw [transportOf_eq, sizeofIpHdr]
    change sizeofEthHdr + max 20 ((s.landed frame).ihl * 4) = _
    omega
  rw [segmentSlice, List.length_drop, List.length_take] at short
  rw [place, segment_tcpHlen, Nat.mul_comm (s.landed frame).doff, segmentSlice, landed_slice s (by omega),
    List.drop_take, List.take_take,
    Nat.min_eq_left (by omega)]

/-- The number after a segment that starts at the number to acknowledge. -/
theorem stop_iff (consistent : s.SegmentConsistent frame) : s.segment.stop = s.tcp.ack +
    BitVec.ofNat 32 ((s.segmentSlice frame).length + (s.segment.has tcpFlagFin).toNat) ↔ s.segment.rxSeq = s.tcp.ack := by
  have length := segment_payloadLen_consistent consistent
  have payload : s.segment.payloadLen.setWidth 32 = BitVec.ofNat 32 (s.segmentSlice frame).length := by
    rw [← length]
    exact (BitVec.ofNat_toNat 32 s.segment.payloadLen).symm
  rw [TcpInput.stop, TcpInput.payloadEnd, payload, BitVec.add_assoc, ← BitVec.ofNat_add, BitVec.add_left_inj]

/-- A segment that the handler answers is not dropped. -/
theorem answered_not_dropped {frames : List Bytes} (sent : s'.sent = s.sent ++ frames) (nonempty : frames ≠ []) :
    ¬SegmentDropped s s' := by
  intro dropped
  rw [dropped.sent] at sent
  exact nonempty (List.self_eq_append_right.mp sent)

/-- A poll that extracts has a segment in turn. -/
theorem ExtractsSegment.inTurn (reaches : (s.landed frame).ReachesTcp) (extracts : s.ExtractsSegment frame) :
    (s.landed frame).SegmentInTurn frame := by
  obtain ⟨s', done, extracted, dropped⟩ := extracts
  rw [reaches.pollOn] at done
  have reacts (forTcp : (s.landed frame).ForTcp (s.landed frame).pageTcp) := onSegment_reaction (forTcp.handled ▸ done)
  have takes (taken : (s.landed frame).TakesSegment) (carries : (s.landed frame).segment.Carries) :=
    (reacts taken.forTcp).taken_of taken.noRst taken.listening carries
  have consistent (taken : (s.landed frame).TakesSegment) (carries : (s.landed frame).segment.Carries) :
      (s.landed frame).SegmentConsistent frame := by
    by_contra inconsistent
    obtain ⟨frames, sent, nonempty, -⟩ := (takes taken carries).sent
    exact answered_not_dropped sent nonempty (dropped inconsistent)
  refine ⟨fun accepts => ?_, fun taken carries => consistent taken (segment_carries.mpr carries), fun taken carries => ?_⟩
  · by_contra inconsistent
    have established := (reacts accepts.forTcp).established_of accepts.noRst accepts.waiting accepts.synAck
    obtain ⟨answer, sent, -⟩ := established.sent
    exact answered_not_dropped sent (List.cons_ne_nil _ _) (dropped inconsistent)
  · have carries := segment_carries.mpr carries
    have sound := consistent taken carries
    exact (stop_iff sound).mp ((takes taken carries).ack.symm.trans ((extracted sound).advances taken))

/-- A poll on a segment in turn ends. -/
theorem SegmentInTurn.ends (reaches : (s.landed frame).ReachesTcp) (inTurn : (s.landed frame).SegmentInTurn frame) :
    ∃ s', s.pollOn (.frame frame) = some s' := by
  rw [reaches.pollOn]
  by_cases forTcp : (s.landed frame).ForTcp (s.landed frame).pageTcp
  · rw [forTcp.handled]
    refine onSegment_ends fun copies => ?_
    obtain ⟨noRst, listening, positive⟩ := copies
    have bound := (s.landed frame).takenLen_le (s.landed frame).segment
    have carries : (s.landed frame).segment.Carries := Or.inl (Nat.lt_of_lt_of_le positive bound)
    have consistent := inTurn.consistent ⟨forTcp, noRst, listening⟩ (segment_carries.mp carries)
    have length := segment_payloadLen_consistent consistent
    have known := consistent.ihl
    have received := consistent.received
    have fits := frame.fits
    rw [length, segmentSlice, List.length_drop, List.length_take] at bound
    rw [segment_tcpHlen, transportOf_eq, sizeofIpHdr]
    change sizeofEthHdr + max 20 ((s.landed frame).ihl * 4) + (s.landed frame).doff * 4 + _ ≤ _
    omega
  · exact ⟨_, handleTcp_elsewhere forTcp⟩

/-- A step that keeps the session extracts nothing, which is right where nothing is to take. -/
theorem kept_extracted (pending : s'.tcp.pending = s.tcp.pending) (delivered : s'.tcpDelivered = s.tcpDelivered)
    (ack : s'.tcp.ack = s.tcp.ack) (idle : s.TakesSegment → ¬s.segment.Carries)
    (consistent : s.SegmentConsistent frame) : SegmentExtracted s s' frame where
  appends := ⟨[], List.nil_prefix, Appends.of_tcp pending delivered⟩
  advances := by
    intro takes
    obtain ⟨noData, noFin⟩ := not_or.mp (idle takes)
    have length := segment_payloadLen_consistent consistent
    have empty : (s.segmentSlice frame).length = 0 := by
      rw [← length]
      exact Nat.eq_zero_of_not_pos noData
    rw [ack, empty, Bool.eq_false_iff.mpr noFin]
    exact (BitVec.add_zero _).symm
  keeps := fun _ _ => ack

/-- A poll on a segment in turn extracts its payload. -/
theorem SegmentInTurn.extracts (reaches : (s.landed frame).ReachesTcp) (inTurn : (s.landed frame).SegmentInTurn frame) :
    s.ExtractsSegment frame := by
  obtain ⟨s', done⟩ := inTurn.ends reaches
  refine ⟨s', done, ?_⟩
  rw [reaches.pollOn] at done
  by_cases forTcp : (s.landed frame).ForTcp (s.landed frame).pageTcp
  · rw [forTcp.handled] at done
    have step : BufferStep (s.landed frame) s' := onSegment_bufferStep done
    cases onSegment_reaction done with
    | reset rst aborted =>
        rw [aborted]
        exact ⟨kept_extracted rfl rfl rfl fun takes => absurd rst takes.noRst,
          fun _ => ⟨Appends.of_tcp rfl rfl, rfl, rfl, rfl⟩⟩
    | establish noRst waiting synAck established =>
        have accepts : (s.landed frame).AcceptsSynAck := ⟨forTcp, noRst, waiting, synAck⟩
        have appends := step.appends (established.delivered.trans (List.append_nil _).symm)
        have deaf : ¬(s.landed frame).TakesSegment := fun takes => takes.listening.not_waiting waiting
        exact ⟨fun _ =>
            ⟨⟨[], List.nil_prefix, appends⟩, fun takes => absurd takes deaf, fun _ other => absurd accepts other⟩,
          fun inconsistent => absurd (inTurn.synAck accepts) inconsistent⟩
    | take noRst listening carries taken =>
        have takes : (s.landed frame).TakesSegment := ⟨forTcp, noRst, listening⟩
        have consistent := inTurn.consistent takes (segment_carries.mp carries)
        have length := segment_payloadLen_consistent consistent
        have bound := (s.landed frame).takenLen_le (s.landed frame).segment
        rw [length] at bound
        have delivered := taken.delivered
        rw [consistent_slice consistent bound] at delivered
        refine ⟨fun _ => ⟨⟨_, List.take_prefix _ _, step.appends delivered⟩, fun _ => ?_, fun other => absurd takes other⟩,
          fun inconsistent => absurd consistent inconsistent⟩
        rw [taken.ack]
        exact (stop_iff consistent).mpr (inTurn.next takes (segment_carries.mp carries))
    | ignore noRst notSynAck nothing unchanged =>
        rw [unchanged]
        exact ⟨kept_extracted rfl rfl rfl fun takes carries => nothing ⟨takes.listening, carries⟩,
          fun _ => ⟨Appends.of_tcp rfl rfl, rfl, rfl, rfl⟩⟩
  · rw [handleTcp_elsewhere forTcp] at done
    rw [← Option.some.inj done]
    exact ⟨kept_extracted rfl rfl rfl fun takes => absurd takes.forTcp forTcp,
      fun _ => ⟨Appends.of_tcp rfl rfl, rfl, rfl, rfl⟩⟩

/-- A poll extracts the payload of a segment if and only if the segment is in turn: a SYN+ACK that is waited for
is consistent, and so is a segment that carries something to a connection, which starts at the number to
acknowledge. -/
theorem segment_extracted_iff (s : NetStack) (frame : RxFrame) (reaches : (s.landed frame).ReachesTcp) :
    s.ExtractsSegment frame ↔ (s.landed frame).SegmentInTurn frame :=
  ⟨ExtractsSegment.inTurn reaches, SegmentInTurn.extracts reaches⟩

open Scenario in
theorem segment_extracted_both : (stack₂.landed bothFrame).ReachesTcp ∧ stack₂.ExtractsSegment bothFrame := by
  have reaches : (stack₂.landed bothFrame).ReachesTcp := ⟨by decide +kernel, by decide +kernel⟩
  have consistent : (stack₂.landed bothFrame).SegmentConsistent bothFrame :=
    ⟨by decide +kernel, by decide +kernel, by decide +kernel, by decide +kernel⟩
  exact ⟨reaches, (segment_extracted_iff stack₂ bothFrame reaches).mpr
    ⟨fun _ => consistent, fun _ _ => consistent, fun _ _ => by decide +kernel⟩⟩

end NetStack

namespace Scenario

/-- The two bytes behind an IP header that gives its length as four words. -/
def misreadFrame : RxFrame where
  bytes :=
    EthHdr.bytes bothBytes.eth ++ IpHdr.bytes { bothBytes.ip with ihlVersion := 0x44#8 } ++
      TcpHdr.bytes bothBytes.tcp ++ bothBytes.data
  fits := by decide

end Scenario

namespace NetStack

open Scenario in
/-- The payload of a packet with a header length of 16 is counted as six bytes and acknowledged. -/
theorem misread_header_acknowledged :
    (stack₂.landed misreadFrame).ReachesTcp ∧ ¬stack₂.ExtractsSegment misreadFrame := by
  have reaches : (stack₂.landed misreadFrame).ReachesTcp := ⟨by decide +kernel, by decide +kernel⟩
  have takes : (stack₂.landed misreadFrame).TakesSegment :=
    ⟨⟨by decide +kernel, by decide +kernel⟩, by decide +kernel, by decide +kernel⟩
  refine ⟨reaches, fun extracts => ?_⟩
  have consistent := (extracts.inTurn reaches).consistent takes (Or.inl (by decide +kernel))
  exact absurd consistent.ihl (by decide +kernel)

end NetStack
end UefiNetstack
