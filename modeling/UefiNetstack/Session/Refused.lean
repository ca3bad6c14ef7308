import UefiNetstack.Buffers.Payload

namespace UefiNetstack
open Constants

/-- The answer of Transmit to a frame. -/
def Event.answer? : Event → Option EfiStatus
  | .transmit _ status => some status
  | _ => none

theorem Snp.Quiet.answer?_eq_none {event : Event} (quiet : Snp.Quiet event) : event.answer? = none := by
  rcases quiet with ⟨_, rfl⟩ | ⟨_, rfl⟩ <;> rfl

namespace NetStack

variable {s s' : NetStack} {data : Bytes}

/-- What Transmit answered to the frames so far. -/
def answers (s : NetStack) : List EfiStatus := s.trace.filterMap Event.answer?

/-- Between two states one frame went to Transmit, which accepted it, perhaps with a warning. -/
def Accepted (s s' : NetStack) : Prop := ∃ answer, s'.answers = s.answers ++ [answer] ∧ answer.isError = false

theorem sendFrame_answers (data : TxFrame) (s : NetStack) :
    (s.sendFrame data).answers = s.answers ++ [s.snp.nextTransmit.1] :=
  sendFrame_filterMap Event.answer? (fun _ quiet => quiet.answer?_eq_none) data s

theorem udpBind_snp (s : NetStack) : s.udpBind.snp = s.snp ∧ s.udpBind.answers = s.answers := by
  unfold udpBind
  split
  all_goals exact ⟨rfl, rfl⟩

/-- A send of one frame is accepted exactly when Transmit answers its frame without an error. -/
theorem accepted_iff (sent : s'.answers = s.answers ++ [s.snp.nextTransmit.1]) :
    s.Accepted s' ↔ s.snp.nextTransmit.1.isError = false := by
  constructor
  · rintro ⟨answer, answered, accepted⟩
    rw [sent, List.append_cancel_left_eq, List.singleton_inj] at answered
    rw [answered]
    exact accepted
  · exact fun accepted => ⟨_, sent, accepted⟩

/-- `tcp_send` returns. It reports success and advances the sequence number only for an accepted frame, and
else it reports an error and leaves the sequence number to a retry. -/
def TcpSendReports (data : Bytes) (s : NetStack) : Prop :=
  ∃ st s', Api.tcpSend data s = some (st, s') ∧
    (s.Accepted s' → st = .success ∧ s'.tcp.seq = s.tcp.seq + BitVec.ofNat 32 data.length) ∧
    (¬s.Accepted s' → st ≠ .success ∧ s'.tcp.seq = s.tcp.seq)

/-- `udp_send` returns, and it reports success only for an accepted frame. -/
def UdpSendReports (destIp : UINT32) (destPort : UINT16) (data : Bytes) (s : NetStack) : Prop :=
  ∃ st s', Api.udpSend destIp destPort data s = some (st, s') ∧ (st = .success → s.Accepted s')

/-- An established session sends a payload that fits and reports success, whatever Transmit answers. -/
theorem tcpSend_answers (established : s.tcp.state = .established) (fits : data.length ≤ 1446) :
    ∃ s', Api.tcpSend data s = some (.success, s') ∧
      s'.tcp.seq = s.tcp.seq + BitVec.ofNat 32 data.length ∧
      s'.answers = s.answers ++ [s.snp.nextTransmit.1] := by
  obtain ⟨frame, sent, -⟩ := s.sendTcpInternal_eq tcpFlagPshAck s.tcp.seq s.tcp.ack data fits
  refine ⟨{ s.getU32.2.sendFrame frame with
      tcp := { s.tcp with seq := s.tcp.seq + BitVec.ofNat 32 data.length } }, ?_, rfl, ?_⟩
  · rw [Api.tcpSend, if_neg (not_not.mpr established), sent]
    rfl
  · exact sendFrame_answers frame s.getU32.2

theorem tcpSend_refused (other : s.tcp.state ≠ .established) : Api.tcpSend data s = some (.notReady, s) := if_pos other

theorem udpSend_answers {destIp : UINT32} {destPort : UINT16} (fits : data.length ≤ 1458) :
    ∃ s', Api.udpSend destIp destPort data s = some (.success, s') ∧
      s'.answers = s.answers ++ [s.snp.nextTransmit.1] := by
  obtain ⟨frame, sent, -⟩ := s.udpBind.sendUdp_eq destIp destPort s.udpBind.udp.localPort data fits
  refine ⟨s.udpBind.getU32.2.sendFrame frame, ?_, ?_⟩
  · rw [Api.udpSend, sent]
    rfl
  · have answered := sendFrame_answers frame s.udpBind.getU32.2
    obtain ⟨snp, answers⟩ := s.udpBind_snp
    rw [answered, show s.udpBind.getU32.2.snp = s.udpBind.snp from rfl, snp,
      show s.udpBind.getU32.2.answers = s.udpBind.answers from rfl, answers]

/-- A longer datagram overruns the packet. -/
theorem sendUdp_overruns (s : NetStack) (destIp : UINT32) (destPort srcPort : UINT16) (long : 1458 < data.length) :
    s.sendUdp destIp destPort srcPort data = none := by
  have outside : ¬sizeofEthHdr + sizeofIpHdr + sizeofUdpHdr + data.length ≤ maxPktSize := by
    simp only [sizeofEthHdr, sizeofIpHdr, sizeofUdpHdr, maxPktSize]
    omega
  unfold sendUdp
  rw [dif_neg outside]

theorem tcpSend_reports_iff (s : NetStack) (data : Bytes) : s.TcpSendReports data ↔
    s.tcp.state ≠ .established ∨ data.length ≤ 1446 ∧ s.snp.nextTransmit.1.isError = false := by
  by_cases established : s.tcp.state = .established
  · constructor
    · rintro ⟨st, s', done, -, refused⟩
      by_cases fits : data.length ≤ 1446
      · obtain ⟨out, sent, -, answers⟩ := tcpSend_answers established fits
        obtain ⟨rfl, rfl⟩ := Prod.mk.inj (Option.some.inj (sent.symm.trans done))
        have accepted : s.Accepted out := by
          by_contra other
          exact (refused other).1 rfl
        exact Or.inr ⟨fits, (accepted_iff answers).mp accepted⟩
      · have overruns := s.sendTcpInternal_overruns tcpFlagPshAck s.tcp.seq s.tcp.ack (Nat.lt_of_not_le fits)
        rw [Api.tcpSend, if_neg (not_not.mpr established), overruns] at done
        cases done
    · rintro (other | ⟨fits, noError⟩)
      · exact absurd established other
      · obtain ⟨out, sent, seq, answers⟩ := tcpSend_answers established fits
        have accepted := (accepted_iff answers).mpr noError
        exact ⟨.success, out, sent, fun _ => ⟨rfl, seq⟩, fun other => absurd accepted other⟩
  · have nothing : ¬s.Accepted s := by simp [Accepted]
    refine iff_of_true ⟨.notReady, s, tcpSend_refused established, ?_, ?_⟩ (Or.inl established)
    · exact fun accepted => absurd accepted nothing
    · exact fun _ => ⟨EfiStatus.noConfusion, rfl⟩

theorem udpSend_reports_iff (s : NetStack) (destIp : UINT32) (destPort : UINT16) (data : Bytes) :
    s.UdpSendReports destIp destPort data ↔ data.length ≤ 1458 ∧ s.snp.nextTransmit.1.isError = false := by
  constructor
  · rintro ⟨st, s', done, accepted⟩
    by_cases fits : data.length ≤ 1458
    · obtain ⟨out, sent, answers⟩ := @udpSend_answers s data destIp destPort fits
      obtain ⟨rfl, rfl⟩ := Prod.mk.inj (Option.some.inj (sent.symm.trans done))
      exact ⟨fits, (accepted_iff answers).mp (accepted rfl)⟩
    · have overruns := s.udpBind.sendUdp_overruns destIp destPort s.udpBind.udp.localPort (Nat.lt_of_not_le fits)
      rw [Api.udpSend, overruns] at done
      cases done
  · rintro ⟨fits, noError⟩
    obtain ⟨out, sent, answers⟩ := @udpSend_answers s data destIp destPort fits
    exact ⟨.success, out, sent, fun _ => (accepted_iff answers).mpr noError⟩

/-- The sends report what Transmit answers exactly when it accepts the frame of a payload that fits, or when the
session sends none. -/
theorem send_reports_iff (s : NetStack) (data : Bytes) :
    (s.TcpSendReports data ↔
      s.tcp.state ≠ .established ∨ data.length ≤ 1446 ∧ s.snp.nextTransmit.1.isError = false) ∧
    ∀ destIp destPort, s.UdpSendReports destIp destPort data ↔
      data.length ≤ 1458 ∧ s.snp.nextTransmit.1.isError = false :=
  ⟨s.tcpSend_reports_iff data, fun destIp destPort => s.udpSend_reports_iff destIp destPort data⟩

/-- A busy NIC takes no frame. -/
def busyStack : NetStack := { establishedStack with snp := { transmit := [.notReady] } }

theorem refused_send_reports_success : ¬∀ (s : NetStack) (data : Bytes), s.TcpSendReports data := by
  intro always
  rcases (busyStack.tcpSend_reports_iff [1, 2, 3]).mp (always busyStack [1, 2, 3]) with other | ⟨-, noError⟩
  · exact other rfl
  · cases noError

end NetStack
end UefiNetstack
