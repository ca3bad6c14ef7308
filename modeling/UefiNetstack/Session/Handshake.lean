import UefiNetstack.Session.Lifecycle

namespace UefiNetstack
open Constants

namespace NetStack

variable {s s' : NetStack} {input : TcpInput} {ip : UINT32} {port : UINT16}

/-- A waiting session takes such a segment. -/
def TakesSynAck (s : NetStack) (input : TcpInput) : Prop :=
  s.incoming = some input ∧ input.isSynAck ∧ ¬input.has tcpFlagRst

/-- A waiting session is established by every SYN+ACK, with the number that it acknowledges. -/
theorem poll_accepts (waiting : s.tcp.state = .synSent) (takes : s.TakesSynAck input) :
    ∃ s', s.poll = some s' ∧ s'.tcp.state = .established ∧ s'.tcp.seq = input.rxAck := by
  obtain ⟨arriving, synAck, noRst⟩ := takes
  obtain ⟨⟨other, tcpAt⟩, arrives, rfl⟩ := Option.map_eq_some_iff.mp arriving
  cases next : s.nextReceive with
  | frame frame =>
    rw [next] at arrives
    have here : (s.received.landed frame).arrival = some (other, tcpAt) := arrives
    have before : (s.received.landed frame).tcp.state = .synSent := waiting
    obtain ⟨accepted, -, sent, -⟩ := sendTcpControl_eq tcpFlagAck
      { s.received.landed frame with
        tcp := { (s.received.landed frame).tcp with seq := other.rxAck, ack := other.rxSeq + 0x01#32 } }
    have done : (s.received.landed frame).acceptSynAck other =
        some { accepted with tcp := { accepted.tcp with state := .established } } := by
      rw [acceptSynAck]
      dsimp only
      rw [sent]
      rfl
    have established := acceptSynAck_eq done
    refine ⟨_, ?_, established.state, established.seq⟩
    rw [poll_frame next, dispatch_arrival here, onSegment, if_neg noRst, if_pos before, if_pos synAck, done]
  | notReady =>
    rw [next] at arrives
    cases arrives
  | error =>
    rw [next] at arrives
    cases arrives

end NetStack

namespace Scenario

end Scenario

end UefiNetstack
