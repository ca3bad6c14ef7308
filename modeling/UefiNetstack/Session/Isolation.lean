import UefiNetstack.Session.Segment

namespace UefiNetstack
open Memory Constants

namespace NetStack

/-- The frame is a TCP segment from the peer's address and port to the local port. -/
def FromPeer (s : NetStack) (frame : RxFrame) : Prop :=
  let m := ofBytes frame.bytes
  let ip := IpHdr.read m sizeofEthHdr
  let tcpAt := sizeofEthHdr + (ipHlen ip).toNat
  let tcp := TcpHdr.read m tcpAt
  tcpAt + sizeofTcpHdr ≤ frame.bytes.length ∧ (EthHdr.read m 0).type = htons ethertypeIpv4 ∧
    ip.protocol = ipProtoTcp ∧ ip.saddr = s.tcp.remoteIp ∧ ntohs tcp.source = s.tcp.remotePort ∧
    ntohs tcp.dest = s.tcp.localPort

instance (s : NetStack) (frame : RxFrame) : Decidable (FromPeer s frame) := inferInstanceAs (Decidable (_ ∧ _))

/-- A step leaves the session and the caller's buffer unchanged and sends no segment. -/
structure Isolated (s s' : NetStack) : Prop where
  state : s'.tcp.state = s.tcp.state
  seq : s'.tcp.seq = s.tcp.seq
  ack : s'.tcp.ack = s.tcp.ack
  rxCurrentLen : s'.tcp.rxCurrentLen = s.tcp.rxCurrentLen
  rxDone : s'.tcp.rxDone = s.tcp.rxDone
  rxBuffer : s'.tcp.rxBuffer = s.tcp.rxBuffer
  silent : ∃ frames, s'.sent = s.sent ++ frames ∧ ∀ frame ∈ frames, ¬IsTcpFrame frame

/-- A frame is harmless when it is no segment for the local port, or a segment that the state of the
session ignores: a reset of a session that was reset, no SYN+ACK while one is awaited, neither
payload nor FIN on a connection, and anything but a reset on a session that is over. -/
def Harmless (s : NetStack) (frame : RxFrame) : Prop :=
  match s.arrivalOn (.frame frame) with
  | none => True
  | some (input, _) =>
    if input.has tcpFlagRst then s.tcp.state = .closed ∧ s.tcp.rxDone = true
    else ¬(s.tcp.state = .synSent ∧ input.isSynAck) ∧ ¬(s.Listening ∧ input.Carries)

variable {s s' : NetStack}

theorem TcpQuiet.isolated (quiet : TcpQuiet s s') : Isolated s s' where
  state := by rw [quiet.tcp]
  seq := by rw [quiet.tcp]
  ack := by rw [quiet.tcp]
  rxCurrentLen := by rw [quiet.tcp]
  rxDone := by rw [quiet.tcp]
  rxBuffer := by rw [quiet.tcp]
  silent := quiet.sent

/-- A step that sends a segment is not isolated. -/
theorem not_isolated_of_sent {frames : List Bytes} (sent : s'.sent = s.sent ++ frames) (nonempty : frames ≠ [])
    (segments : ∀ frame ∈ frames, IsTcpFrame frame) : ¬Isolated s s' := by
  intro isolated
  obtain ⟨others, sent', silent⟩ := isolated.silent
  have same : others = frames := List.append_cancel_left (sent'.symm.trans sent)
  obtain ⟨frame, member⟩ := List.exists_mem_of_ne_nil frames nonempty
  exact silent frame (same ▸ member) (segments frame member)

/-- A reset closes the session and wakes its receive. -/
theorem abortTcp_isolated_iff (s : NetStack) :
    Isolated s s.abortTcp ↔ s.tcp.state = .closed ∧ s.tcp.rxDone = true := by
  constructor
  · intro isolated
    exact ⟨isolated.state.symm, isolated.rxDone.symm⟩
  · rintro ⟨closed, done⟩
    refine TcpQuiet.isolated (TcpQuiet.of_trace ?_ rfl)
    unfold abortTcp
    rw [← closed, ← done]

/-- The session is isolated from a segment exactly when its state ignores the segment. -/
theorem reaction_isolated_iff {input : TcpInput} {tcpAt : Nat} (reaction : Reaction input tcpAt s s') :
    Isolated s s' ↔
      if input.has tcpFlagRst then s.tcp.state = .closed ∧ s.tcp.rxDone = true
      else ¬(s.tcp.state = .synSent ∧ input.isSynAck) ∧ ¬(s.Listening ∧ input.Carries) := by
  cases reaction with
  | reset rst aborted =>
    rw [if_pos rst, aborted]
    exact s.abortTcp_isolated_iff
  | establish noRst waiting synAck established =>
    rw [if_neg noRst]
    obtain ⟨frame, sent, segment, -⟩ := established.sent
    exact ⟨fun isolated => absurd isolated (not_isolated_of_sent sent (by simp) (by simpa using segment)),
      fun harmless => absurd ⟨waiting, synAck⟩ harmless.1⟩
  | take noRst listening carries taken =>
    rw [if_neg noRst]
    obtain ⟨frames, sent, nonempty, segments⟩ := taken.sent
    have seen := @not_isolated_of_sent s s' frames sent nonempty fun frame member => (segments frame member).1
    exact ⟨fun isolated => absurd isolated seen, fun harmless => absurd ⟨listening, carries⟩ harmless.2⟩
  | ignore noRst notSynAck nothing unchanged =>
    rw [if_neg noRst, unchanged]
    exact ⟨fun _ => ⟨notSynAck, nothing⟩, fun _ => (TcpQuiet.refl s).isolated⟩

/-- Isolation of a step counts from the stack before Receive has put the frame on the page. -/
theorem isolated_of_quiet_iff {s₀ : NetStack} (quiet : TcpQuiet s₀ s) (unsent : s.sent = s₀.sent) :
    Isolated s₀ s' ↔ Isolated s s' := by
  constructor
  · intro isolated
    exact
      { state := by rw [quiet.tcp, isolated.state]
        seq := by rw [quiet.tcp, isolated.seq]
        ack := by rw [quiet.tcp, isolated.ack]
        rxCurrentLen := by rw [quiet.tcp, isolated.rxCurrentLen]
        rxDone := by rw [quiet.tcp, isolated.rxDone]
        rxBuffer := by rw [quiet.tcp, isolated.rxBuffer]
        silent := by rw [unsent]; exact isolated.silent }
  · intro isolated
    exact
      { state := by rw [isolated.state, quiet.tcp]
        seq := by rw [isolated.seq, quiet.tcp]
        ack := by rw [isolated.ack, quiet.tcp]
        rxCurrentLen := by rw [isolated.rxCurrentLen, quiet.tcp]
        rxDone := by rw [isolated.rxDone, quiet.tcp]
        rxBuffer := by rw [isolated.rxBuffer, quiet.tcp]
        silent := by rw [← unsent]; exact isolated.silent }

theorem landed_sent (s : NetStack) (frame : RxFrame) : (s.landed frame).sent = s.sent := by
  simp [sent, landed, log, Event.frame?]

/-- A poll isolates the session from a frame exactly when the frame is harmless. -/
theorem pollOn_isolated_iff {frame : RxFrame} (polled : s.pollOn (.frame frame) = some s') :
    Isolated s s' ↔ Harmless s frame := by
  unfold Harmless
  rcases pollOn_cases polled with ⟨nothing, quiet⟩ | ⟨_, input, tcpAt, same, arrives, segment⟩
  · rw [nothing]
    exact iff_of_true quiet.isolated trivial
  · obtain rfl := Receive.frame.inj same
    rw [arrives, isolated_of_quiet_iff (s.landed_tcpQuiet frame) (landed_sent s frame)]
    exact reaction_isolated_iff (onSegment_reaction segment)

/-- In every state, a poll isolates the session from a frame that is not the peer's exactly when the
frame is harmless in that state. -/
theorem poll_isolates_iff {frame : RxFrame} (next : s.nextReceive = .frame frame) (polled : s.poll = some s') :
    (¬FromPeer s frame → Isolated s s') ↔ FromPeer s frame ∨ Harmless s frame := by
  rw [poll, next] at polled
  have same : Isolated s s' ↔ Harmless s frame := by
    rw [isolated_of_quiet_iff s.received_tcpQuiet rfl, pollOn_isolated_iff polled]
    rfl
  rw [same]
  tauto

end NetStack

namespace Scenario

/-- Host 10.0.0.9 sends a reset to the local port of the scenario. -/
def foreignReset : RxFrame where
  bytes := (segmentFrom 0x0900000A 4444 tcpFlagRst 0 0 [] noData_fits).bytes
  fits := by decide

/-- The session that waits for its peer, and the stack after the poll of the reset. -/
def waiting : NetStack := (opened [.frame foreignReset]).get (by decide +kernel)
def afterReset : NetStack := waiting.poll.get (by decide +kernel)

theorem waiting_opened : opened [.frame foreignReset] = some waiting := (Option.some_get _).symm
theorem waiting_polled : waiting.poll = some afterReset := (Option.some_get _).symm

end Scenario

namespace NetStack
open Scenario

/-- The reset is not the peer's, and it is not harmless either. -/
theorem poll_isolates_iff_foreignReset :
    (¬FromPeer waiting foreignReset → Isolated waiting afterReset) ↔
      FromPeer waiting foreignReset ∨ Harmless waiting foreignReset :=
  poll_isolates_iff (by decide +kernel) waiting_polled

/-- A reset of a third party closes the session while it waits for the peer. -/
theorem foreign_reset_not_isolated : ¬∀ (s s' : NetStack) (frame : RxFrame), Reachable s →
    s.tcp.localPort ≠ 0#16 → s.nextReceive = .frame frame → s.poll = some s' → ¬FromPeer s frame →
    Isolated s s' := by
  intro isolates
  have reachable : Reachable waiting := opened_reachable waiting_opened
  have isolated := isolates waiting afterReset foreignReset reachable (by decide +kernel) (by decide +kernel)
    waiting_polled (by decide +kernel)
  have before : waiting.tcp.state = .synSent := by decide +kernel
  have after : afterReset.tcp.state = .closed := by decide +kernel
  have equal := isolated.state
  rw [before, after] at equal
  cases equal

end NetStack
end UefiNetstack
