import UefiNetstack.Session.Dispatch

namespace UefiNetstack
open Words Memory Constants

/-- The TCP header that a receiver finds in a frame without IP options. -/
def frameTcp (frame : Bytes) : TcpHdr := TcpHdr.read (ofBytes frame) (sizeofEthHdr + sizeofIpHdr)

/-- The numbers of a segment that was sent. -/
def frameSeqNo (frame : Bytes) : UINT32 := ntohl (frameTcp frame).seq
def frameAckNo (frame : Bytes) : UINT32 := ntohl (frameTcp frame).ackSeq

theorem frameTcp_parts {eth : EthHdr} {ip : IpHdr} {tcp : TcpHdr} {rest : Bytes} :
    frameTcp (eth.bytes ++ ip.bytes ++ (tcp.bytes ++ rest)) = tcp := by
  have stored := ofBytes_bytesAt (eth.bytes ++ ip.bytes) tcp.bytes rest
  rw [List.length_append, EthHdr.bytes_length, IpHdr.bytes_length, List.append_assoc] at stored
  exact TcpHdr.read_stored stored

/-- A segment with a FIN or with payload has something to take. -/
def TcpInput.Carries (input : TcpInput) : Prop := input.payloadLen > 0#64 ∨ input.has tcpFlagFin

instance (input : TcpInput) : Decidable input.Carries := inferInstanceAs (Decidable (_ ∨ _))

/-- The number after the payload of a segment. -/
def TcpInput.payloadEnd (input : TcpInput) : UINT32 := input.rxSeq + input.payloadLen.setWidth 32

/-- The number after everything that a segment carries. -/
def TcpInput.stop (input : TcpInput) : UINT32 := input.payloadEnd + BitVec.ofNat 32 (input.has tcpFlagFin).toNat

namespace NetStack

variable {s s' : NetStack} {input : TcpInput} {tcpAt : Nat}

/-- A connection takes data in these two states. -/
def Listening (s : NetStack) : Prop := s.tcp.state = .established ∨ s.tcp.state = .finWait

instance (s : NetStack) : Decidable s.Listening := inferInstanceAs (Decidable (_ ∨ _))

theorem Listening.not_waiting (listening : s.Listening) : s.tcp.state ≠ .synSent := by
  intro waiting
  rcases listening with established | finWait
  · exact absurd (waiting.symm.trans established) (by decide)
  · exact absurd (waiting.symm.trans finWait) (by decide)

/-- The length of the payload that is copied: nothing is while no receive is pending. -/
def takenLen (s : NetStack) (input : TcpInput) : Nat :=
  if s.tcp.rxBuffer.isSome then (s.copyLen input).toNat else 0

theorem copyLen_le (s : NetStack) (input : TcpInput) : (s.copyLen input).toNat ≤ input.payloadLen.toNat := by
  unfold copyLen
  dsimp only
  split
  · rename_i exceeds
    exact Nat.le_of_lt (BitVec.lt_def.mp exceeds)
  · exact Nat.le_refl _

theorem takenLen_le (s : NetStack) (input : TcpInput) : s.takenLen input ≤ input.payloadLen.toNat := by
  unfold takenLen
  split
  · exact s.copyLen_le input
  · exact Nat.zero_le _

/-- The frame of a segment carries the numbers that it was built from. -/
theorem tcpFrame_numbers (s : NetStack) (flags : UINT8) (seq ack : UINT32) (data : Bytes) (random : UINT32) :
    IsTcpFrame (s.tcpFrame flags seq ack data random) ∧ frameSeqNo (s.tcpFrame flags seq ack data random) = seq ∧
      frameAckNo (s.tcpFrame flags seq ack data random) = ack := by
  refine ⟨isTcpFrame_parts.mpr rfl, ?_, ?_⟩
  all_goals
    dsimp only [tcpFrame, tcpSegment]
    first
      | rw [frameSeqNo, frameTcp_parts]
      | rw [frameAckNo, frameTcp_parts]
    simp only [swap32_swap32]

/-- A segment without payload keeps the session and sends one frame with its numbers. -/
theorem sendTcpControl_eq (flags : UINT8) (s : NetStack) :
    ∃ s' frame, s.sendTcpControl flags = some s' ∧ s'.tcp = s.tcp ∧ s'.tcpDelivered = s.tcpDelivered ∧
      s'.sent = s.sent ++ [frame] ∧ IsTcpFrame frame ∧ frameSeqNo frame = s.tcp.seq ∧
      frameAckNo frame = s.tcp.ack := by
  obtain ⟨frame, sent, bytes⟩ := s.sendTcpInternal_eq flags s.tcp.seq s.tcp.ack [] (Nat.zero_le _)
  have numbers := s.getU32.2.tcpFrame_numbers flags s.tcp.seq s.tcp.ack [] s.getU32.1
  rw [← bytes] at numbers
  exact ⟨_, frame.bytes, sent, rfl, sendFrame_tcpDelivered frame s.getU32.2, sendFrame_sent frame s.getU32.2,
    numbers⟩

theorem copyPayload_eq {buffer : Memory} {payloadAt : Nat} {copyLen : UINTN}
    (done : s.copyPayload buffer payloadAt copyLen = some s') :
    s'.tcp.state = s.tcp.state ∧ s'.tcp.seq = s.tcp.seq ∧ s'.tcp.ack = s.tcp.ack ∧ s'.sent = s.sent ∧
      s'.tcpDelivered = s.tcpDelivered ++ s.rxPkt.byte.slice payloadAt copyLen.toNat := by
  obtain ⟨data, copied, rfl⟩ := copyPayload_cases done
  have bytes : data.val = s.rxPkt.byte.slice payloadAt copyLen.toNat := MappedMemory.copy_val copied
  refine ⟨rfl, rfl, rfl, ?_, ?_⟩
  · simp [sent, log, Event.frame?]
  · rw [← bytes]
    simp [tcpDelivered, log, Event.tcpBytes]

/-- The copy adds the taken bytes to what the caller has and keeps numbers and state. -/
theorem receiveData_eq (done : s.receiveData input tcpAt = some s') :
    s'.tcp.state = s.tcp.state ∧ s'.tcp.seq = s.tcp.seq ∧ s'.tcp.ack = s.tcp.ack ∧ s'.sent = s.sent ∧
      s'.tcpDelivered = s.tcpDelivered ++ s.rxPkt.byte.slice (tcpAt + input.tcpHlen.toNat) (s.takenLen input) := by
  rcases receiveData_cases done with ⟨nothing, rfl⟩ | ⟨buffer, pending, -, copied⟩
  · have zero : s'.takenLen input = 0 := by
      have bound := s'.takenLen_le input
      unfold takenLen at bound ⊢
      split
      · rename_i waits
        simp only [waits, true_and, gt_iff_lt, BitVec.lt_def, BitVec.toNat_ofNat, Nat.zero_mod, not_and] at nothing
        rw [if_pos waits] at bound
        omega
      · rfl
    rw [zero, Memory.slice_zero, List.append_nil]
    exact ⟨rfl, rfl, rfl, rfl, rfl⟩
  · have taken : s.takenLen input = (s.copyLen input).toNat := by simp [takenLen, pending]
    rw [taken]
    exact copyPayload_eq copied

/-- Payload moves both numbers and is acknowledged. -/
theorem acknowledgeData_eq (input : TcpInput) (s : NetStack) :
    ∃ s' frames, s.acknowledgeData input = some s' ∧ s'.tcp.state = s.tcp.state ∧
      s'.tcpDelivered = s.tcpDelivered ∧ s'.sent = s.sent ++ frames ∧
      (∀ frame ∈ frames, IsTcpFrame frame ∧ frameAckNo frame = input.payloadEnd) ∧
      (input.payloadLen > 0#64 → s'.tcp.seq = input.rxAck ∧ s'.tcp.ack = input.payloadEnd ∧ frames ≠ []) ∧
      (¬input.payloadLen > 0#64 → s'.tcp.seq = s.tcp.seq ∧ s'.tcp.ack = s.tcp.ack) := by
  unfold acknowledgeData
  split
  · rename_i data
    dsimp only
    have number : (input.rxSeq.setWidth 64 + input.payloadLen).setWidth 32 = input.payloadEnd := by
      apply BitVec.eq_of_toNat_eq
      simp only [TcpInput.payloadEnd, BitVec.toNat_setWidth, BitVec.toNat_add]
      omega
    rw [number]
    obtain ⟨s', frame, sent, tcp, delivered, frames, isTcp, -, ackNo⟩ := sendTcpControl_eq tcpFlagAck
      { s with tcp := { s.tcp with seq := input.rxAck, ack := input.payloadEnd } }
    refine ⟨s', [frame], sent, by rw [tcp], delivered, frames, ?_, fun _ => ⟨by rw [tcp], by rw [tcp], by simp⟩,
      fun empty => absurd data empty⟩
    intro other member
    rw [List.mem_singleton.mp member]
    exact ⟨isTcp, ackNo⟩
  · rename_i empty
    exact ⟨s, [], rfl, rfl, rfl, (List.append_nil _).symm, by simp, fun data => absurd data empty,
      fun _ => ⟨rfl, rfl⟩⟩

/-- A FIN moves both numbers past itself, is acknowledged and ends the session. -/
theorem receiveFin_eq (input : TcpInput) (s : NetStack) :
    ∃ s' frames, s.receiveFin input = some s' ∧ s'.tcpDelivered = s.tcpDelivered ∧
      s'.sent = s.sent ++ frames ∧ (∀ frame ∈ frames, IsTcpFrame frame ∧ frameAckNo frame = input.stop) ∧
      (input.has tcpFlagFin → s'.tcp.state = .closedDone ∧ s'.tcp.seq = input.rxAck ∧ s'.tcp.ack = input.stop ∧
        frames ≠ []) ∧
      (¬input.has tcpFlagFin → s' = s) := by
  unfold receiveFin
  split
  · rename_i fin
    dsimp only
    have number : (input.rxSeq.setWidth 64 + input.payloadLen + 0x01#64).setWidth 32 = input.stop := by
      apply BitVec.eq_of_toNat_eq
      simp only [TcpInput.stop, TcpInput.payloadEnd, fin, Bool.toNat_true, BitVec.toNat_setWidth,
        BitVec.toNat_add, BitVec.toNat_ofNat]
      omega
    rw [number]
    obtain ⟨s', frame, sent, tcp, delivered, frames, isTcp, -, ackNo⟩ := sendTcpControl_eq tcpFlagFinAck
      { s with tcp := { s.tcp with seq := input.rxAck, ack := input.stop } }
    rw [sent]
    refine ⟨_, [frame], rfl, delivered, frames, ?_, fun _ => ⟨rfl, by rw [tcp], by rw [tcp], by simp⟩,
      fun noFin => absurd fin noFin⟩
    intro other member
    rw [List.mem_singleton.mp member]
    exact ⟨isTcp, ackNo⟩
  · rename_i noFin
    exact ⟨s, [], rfl, rfl, (List.append_nil _).symm, by simp, fun fin => absurd fin noFin, fun _ => rfl⟩

/-- A connection in a receiving state takes what a segment carries. -/
structure Taken (input : TcpInput) (tcpAt : Nat) (s s' : NetStack) : Prop where
  state : s'.tcp.state = if input.has tcpFlagFin then .closedDone else s.tcp.state
  seq : s'.tcp.seq = input.rxAck
  ack : s'.tcp.ack = input.stop
  delivered : s'.tcpDelivered =
    s.tcpDelivered ++ s.rxPkt.byte.slice (tcpAt + input.tcpHlen.toNat) (s.takenLen input)
  sent : ∃ frames, s'.sent = s.sent ++ frames ∧ frames ≠ [] ∧
    ∀ frame ∈ frames, IsTcpFrame frame ∧ (frameAckNo frame = input.payloadEnd ∨ frameAckNo frame = input.stop)

/-- A waiting connection is established by a SYN+ACK. -/
structure Established (input : TcpInput) (s s' : NetStack) : Prop where
  state : s'.tcp.state = .established
  seq : s'.tcp.seq = input.rxAck
  ack : s'.tcp.ack = input.rxSeq + 1
  delivered : s'.tcpDelivered = s.tcpDelivered
  sent : ∃ frame, s'.sent = s.sent ++ [frame] ∧ IsTcpFrame frame ∧ frameAckNo frame = input.rxSeq + 1

/-- The state machine does one of four things. -/
inductive Reaction (input : TcpInput) (tcpAt : Nat) (s s' : NetStack) : Prop
  | reset (rst : input.has tcpFlagRst) (aborted : s' = s.abortTcp)
  | establish (noRst : ¬input.has tcpFlagRst) (waiting : s.tcp.state = .synSent) (synAck : input.isSynAck)
      (established : Established input s s')
  | take (noRst : ¬input.has tcpFlagRst) (listening : s.Listening) (carries : input.Carries)
      (taken : Taken input tcpAt s s')
  | ignore (noRst : ¬input.has tcpFlagRst) (notSynAck : ¬(s.tcp.state = .synSent ∧ input.isSynAck))
      (nothing : ¬(s.Listening ∧ input.Carries)) (unchanged : s' = s)

/-- A connection that receives takes what is not a reset and carries something. -/
theorem Reaction.taken_of (reaction : Reaction input tcpAt s s') (noRst : ¬input.has tcpFlagRst) (listening : s.Listening)
    (carries : input.Carries) : Taken input tcpAt s s' := by
  cases reaction with
  | reset rst _ => exact absurd rst noRst
  | establish _ waiting _ _ => exact absurd waiting listening.not_waiting
  | take _ _ _ taken => exact taken
  | ignore _ _ nothing _ => exact absurd ⟨listening, carries⟩ nothing

/-- A connection that waits takes a SYN+ACK that is not a reset. -/
theorem Reaction.established_of (reaction : Reaction input tcpAt s s') (noRst : ¬input.has tcpFlagRst)
    (waiting : s.tcp.state = .synSent) (synAck : input.isSynAck) : Established input s s' := by
  cases reaction with
  | reset rst _ => exact absurd rst noRst
  | establish _ _ _ established => exact established
  | take _ listening _ _ => exact absurd waiting listening.not_waiting
  | ignore _ notSynAck _ _ => exact absurd ⟨waiting, synAck⟩ notSynAck

theorem acceptSynAck_eq (done : s.acceptSynAck input = some s') : Established input s s' := by
  obtain ⟨out, answered, rfl⟩ := acceptSynAck_cases done
  obtain ⟨middle, frame, sent, tcp, delivered, frames, isTcp, -, ackNo⟩ := sendTcpControl_eq tcpFlagAck
    { s with tcp := { s.tcp with seq := input.rxAck, ack := input.rxSeq + 0x01#32 } }
  obtain rfl := Option.some.inj (sent.symm.trans answered)
  exact
    { state := rfl
      seq := by rw [tcp]
      ack := by rw [tcp]; rfl
      delivered
      sent := ⟨frame, frames, isTcp, ackNo⟩ }

/-- The receiving branch on a segment that carries something. -/
theorem receive_taken (carries : input.Carries)
    {copied acked ended : NetStack} (first : s.receiveData input tcpAt = some copied)
    (second : copied.acknowledgeData input = some acked) (third : acked.receiveFin input = some ended) :
    Taken input tcpAt s ended := by
  obtain ⟨state, -, -, sent, delivered⟩ := receiveData_eq first
  obtain ⟨out, acks, acknowledged, state', delivered', sent', ackNos, withData, -⟩ := copied.acknowledgeData_eq input
  obtain rfl := Option.some.inj (acknowledged.symm.trans second)
  obtain ⟨out', fins, answered, delivered'', sent'', finNos, withFin, noFin⟩ := out.receiveFin_eq input
  obtain rfl := Option.some.inj (answered.symm.trans third)
  have answers : ∀ frame ∈ acks ++ fins,
      IsTcpFrame frame ∧ (frameAckNo frame = input.payloadEnd ∨ frameAckNo frame = input.stop) := by
    intro frame member
    rcases List.mem_append.mp member with member | member
    · exact ⟨(ackNos frame member).1, Or.inl (ackNos frame member).2⟩
    · exact ⟨(finNos frame member).1, Or.inr (finNos frame member).2⟩
  have frames : out'.sent = s.sent ++ (acks ++ fins) := by rw [sent'', sent', sent, List.append_assoc]
  have bytes := delivered''.trans (delivered'.trans delivered)
  by_cases fin : input.has tcpFlagFin
  · obtain ⟨closed, seq, ack, nonempty⟩ := withFin fin
    exact
      { state := by rw [if_pos fin, closed]
        seq
        ack
        delivered := bytes
        sent := ⟨acks ++ fins, frames, by simp [nonempty], answers⟩ }
  · obtain ⟨seq, ack, nonempty⟩ := withData (carries.resolve_right fin)
    have same := noFin fin
    exact
      { state := by rw [if_neg fin, same, state', state]
        seq := by rw [same, seq]
        ack := by
          rw [same, ack, TcpInput.stop, Bool.eq_false_iff.mpr fin]
          exact (BitVec.add_zero _).symm
        delivered := bytes
        sent := ⟨acks ++ fins, frames, by simp [nonempty], answers⟩ }

/-- The receiving branch on a segment that carries nothing. -/
theorem receive_nothing (nothing : ¬input.Carries) {copied acked ended : NetStack}
    (first : s.receiveData input tcpAt = some copied) (second : copied.acknowledgeData input = some acked)
    (third : acked.receiveFin input = some ended) : ended = s := by
  obtain ⟨noData, noFin⟩ := not_or.mp nothing
  obtain rfl := Option.some.inj ((receiveData_empty noData).symm.trans first)
  obtain rfl := Option.some.inj ((if_neg noData).symm.trans second)
  exact (Option.some.inj ((if_neg noFin).symm.trans third)).symm

/-- Every run of the state machine is one of the reactions. -/
theorem onSegment_reaction (done : s.onSegment input tcpAt = some s') : Reaction input tcpAt s s' := by
  cases onSegment_branch done with
  | abort rst aborted => exact .reset rst aborted
  | accept noRst waiting synAck accepted => exact .establish noRst waiting synAck (acceptSynAck_eq accepted)
  | receive noRst listening copied acked copies acknowledges ends =>
    by_cases carries : input.Carries
    · exact .take noRst listening carries (receive_taken carries copies acknowledges ends)
    · have notWaiting : s.tcp.state ≠ .synSent := Listening.not_waiting listening
      exact .ignore noRst (fun both => notWaiting both.1) (fun both => carries both.2)
        (receive_nothing carries copies acknowledges ends)
  | ignore noRst notSynAck deaf unchanged => exact .ignore noRst notSynAck (fun both => deaf both.1) unchanged

end NetStack
end UefiNetstack
