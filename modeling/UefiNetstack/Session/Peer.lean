import UefiNetstack.Lib.InOrder
import UefiNetstack.Session.Segment

namespace UefiNetstack
open Memory Constants NetStack InOrder Relation Set

/-- The initial sequence number of a peer and the bytes that it sends. -/
structure Peer where
  irs : UINT32
  stream : Bytes

/-- The sequence number of a position. The first byte follows the SYN, and the FIN follows the last
byte. -/
def Peer.number (peer : Peer) (position : Nat) : UINT32 := peer.irs + 1 + BitVec.ofNat 32 position

/-- A part of a stream that one segment carries: bytes from a position on, and a FIN after the last
byte of the stream. -/
structure Piece (stream : Bytes) where
  start : Nat
  data : Bytes
  fin : Bool
  within : data <+: stream.drop start
  last : fin = true → start + data.length = stream.length

namespace Piece

variable {stream : Bytes} (piece : Piece stream)

/-- The position after everything that the piece carries. -/
def stop : Nat := piece.start + piece.data.length + piece.fin.toNat

/-- The positions that the piece carries; a FIN has the position after the last byte. -/
def span : Set ℕ := Ico piece.start piece.stop

theorem start_le_stop : piece.start ≤ piece.stop := by
  unfold stop
  omega

end Piece

theorem Peer.number_add (peer : Peer) (position len : Nat) :
    peer.number position + BitVec.ofNat 32 len = peer.number (position + len) := by
  rw [number, number, BitVec.ofNat_add, BitVec.add_assoc]

/-- What happens to a session: a call, or a poll that brings nothing for it, a SYN+ACK, a reset or a
piece of the stream. -/
inductive Input (peer : Peer) where
  | call (own : Call)
  | other
  | synAck (frame : SegmentFrame)
  | reset (frame : SegmentFrame)
  | piece (frame : SegmentFrame) (part : Piece peer.stream)

/-- The next answer of Receive is this segment of the peer for the session. -/
structure Brings (s : NetStack) (f : SegmentFrame) : Prop where
  next : ∃ frame, s.nextReceive = .frame frame ∧ frame.bytes = f.bytes
  saddr : f.ip.saddr = s.tcp.remoteIp
  source : ntohs f.tcp.source = s.tcp.remotePort
  dest : ntohs f.tcp.dest = s.tcp.localPort
  bound : s.tcp.localPort ≠ 0#16

/-- The SYN+ACK has the initial number and carries nothing else. -/
structure SynAckOf (peer : Peer) (f : SegmentFrame) : Prop where
  noRst : ¬f.input.has tcpFlagRst
  synAck : f.input.isSynAck
  noFin : ¬f.input.has tcpFlagFin
  noData : f.data = []
  seq : f.input.rxSeq = peer.irs

/-- A segment of the stream has the number of its first position. -/
structure PieceOf (peer : Peer) (f : SegmentFrame) (part : Piece peer.stream) : Prop where
  noRst : ¬f.input.has tcpFlagRst
  noSyn : ¬f.input.has tcpFlagSyn
  fin : f.input.has tcpFlagFin = part.fin
  data : f.data = part.data
  seq : f.input.rxSeq = peer.number part.start

namespace Input

variable {peer : Peer}

def move : Input peer → Move
  | .call own => .call own
  | _ => .poll

/-- The next answer of Receive is what the input says. -/
def Brought (s : NetStack) : Input peer → Prop
  | .call _ => True
  | .other => s.arrivalOn s.nextReceive = none
  | .synAck frame => Brings s frame ∧ SynAckOf peer frame
  | .reset frame => Brings s frame ∧ frame.input.has tcpFlagRst
  | .piece frame part => Brings s frame ∧ PieceOf peer frame part

/-- The positions that arrive while the connection receives. -/
def span (s : NetStack) : Input peer → Set ℕ
  | .piece _ part => {position | s.Listening ∧ position ∈ part.span}
  | _ => ∅

end Input

/-- A stack with what its peer's segments have brought since `tcp_connect`, and the number of bytes
that had been delivered before. -/
structure Session where
  stack : NetStack
  received : Set ℕ
  before : Nat

namespace Session

/-- The bytes that were copied to the callers since `tcp_connect`. -/
def got (a : Session) : Bytes := a.stack.tcpDelivered.drop a.before

/-- `tcp_connect` opens a session on any stack. -/
def Opened (a : Session) : Prop :=
  ∃ s ip port, a.stack = NetStack.tcpOpen ip port s ∧ a.received = ∅ ∧ a.before = a.stack.tcpDelivered.length

variable {peer : Peer}

/-- One input moves the stack and adds the positions that it brings. -/
structure Step (input : Input peer) (a b : Session) : Prop where
  brought : input.Brought a.stack
  moved : input.move.run a.stack = some b.stack
  received : b.received = a.received ∪ input.span a.stack
  before : b.before = a.before

/-- The session after an input that leaves a given stack. -/
def next (a : Session) (input : Input peer) (stack : NetStack) : Session where
  stack
  received := a.received ∪ input.span a.stack
  before := a.before

theorem step_next {a : Session} {input : Input peer} {stack : NetStack} (brought : input.Brought a.stack)
    (moved : input.move.run a.stack = some stack) : Step input a (a.next input stack) :=
  { brought, moved, received := rfl, before := rfl }

/-- A run in which every input meets a condition on the session before it. -/
def Run (peer : Peer) (meets : Session → Input peer → Prop) : Session → Session → Prop :=
  ReflTransGen fun a b => ∃ input : Input peer, meets a input ∧ Step input a b

/-- A run goes on with an input that meets the condition. -/
theorem Run.extend {meets : Session → Input peer → Prop} {a b c : Session} {input : Input peer}
    (run : Run peer meets a b) (step : Step input b c) (met : meets b input) : Run peer meets a c :=
  run.tail ⟨input, met, step⟩

end Session

/-- The connection was established and has not been aborted or closed. -/
def NetStack.Connected (s : NetStack) : Prop :=
  s.tcp.state = .established ∨ s.tcp.state = .finWait ∨ s.tcp.state = .closedDone

/-- A segment of the session runs the state machine on a page that carries its payload. -/
theorem Brings.reaction {s s' : NetStack} {f : SegmentFrame} (brings : Brings s f) (polled : s.poll = some s') :
    ∃ t : NetStack, t.tcp = s.tcp ∧ t.tcpDelivered = s.tcpDelivered ∧ t.sent = s.sent ∧
      t.rxPkt.byte.slice (f.tcpAt + f.input.tcpHlen.toNat) f.data.length = f.data ∧
      Reaction f.input f.tcpAt t s' := by
  obtain ⟨frame, next, same⟩ := brings.next
  rw [poll, next] at polled
  have arrives := SegmentFrame.arrivalOn_eq (s := s.received) same brings.dest brings.bound
  have quiet := (s.received_tcpQuiet).trans (s.received.landed_tcpQuiet frame)
  rcases pollOn_cases polled with ⟨missed, -⟩ | ⟨_, input, tcpAt, equal, arrival, segment⟩
  · rw [arrives] at missed
    cases missed
  · obtain rfl := Receive.frame.inj equal
    obtain ⟨rfl, rfl⟩ := Prod.mk.inj (Option.some.inj (arrives.symm.trans arrival))
    refine ⟨s.received.landed frame, quiet.tcp, quiet.tcpDelivered, ?_, ?_, onSegment_reaction segment⟩
    · simp [sent, landed, log, Event.frame?, received]
    · exact (SegmentFrame.stored_parts (SegmentFrame.landed_stored same)).2.2.2

/-- The bytes of a payload that a poll copies. -/
def SegmentFrame.copied (f : SegmentFrame) (s : NetStack) : Bytes := f.data.take (s.takenLen f.input)

/-- A session takes a piece: the numbers move behind it and its first bytes are copied. -/
structure Takes (peer : Peer) (frame : SegmentFrame) (part : Piece peer.stream) (a b : Session) : Prop where
  listening : a.stack.Listening
  carries : frame.input.Carries
  state : b.stack.tcp.state = if part.fin then .closedDone else a.stack.tcp.state
  ack : b.stack.tcp.ack = peer.number part.stop
  received : b.received = a.received ∪ part.span
  delivered : b.stack.tcpDelivered = a.stack.tcpDelivered ++ frame.copied a.stack
  sent : ∃ frames, b.stack.sent = a.stack.sent ++ frames ∧ ∀ answer ∈ frames, IsTcpFrame answer ∧
    (frameAckNo answer = peer.number (part.start + part.data.length) ∨
      frameAckNo answer = peer.number part.stop)

/-- Every step keeps what the session has of the peer, establishes the connection, or takes a piece. -/
inductive Effect {peer : Peer} (input : Input peer) (a b : Session) : Prop
  | kept (received : b.received = a.received) (ack : b.stack.tcp.ack = a.stack.tcp.ack)
      (delivered : b.stack.tcpDelivered = a.stack.tcpDelivered)
      (state : b.stack.tcp.state = a.stack.tcp.state ∨
        a.stack.tcp.state = .established ∧ b.stack.tcp.state = .finWait ∨ b.stack.tcp.state = .closed)
      (silent : input.move = .poll → ∃ frames, b.stack.sent = a.stack.sent ++ frames ∧
        ∀ frame ∈ frames, ¬IsTcpFrame frame)
  | established (waiting : a.stack.tcp.state = .synSent) (received : b.received = a.received)
      (state : b.stack.tcp.state = .established) (ack : b.stack.tcp.ack = peer.number 0)
      (delivered : b.stack.tcpDelivered = a.stack.tcpDelivered)
      (sent : ∃ frame, b.stack.sent = a.stack.sent ++ [frame] ∧ frameAckNo frame = peer.number 0)
  | taken (frame : SegmentFrame) (part : Piece peer.stream) (same : input = .piece frame part)
      (takes : Takes peer frame part a b)

variable {peer : Peer} {input : Input peer} {a b : Session}

/-- A SYN+ACK has a SYN. -/
theorem isSynAck_has {input : TcpInput} (synAck : input.isSynAck) : input.has tcpFlagSyn := by
  have both : input.flags &&& tcpFlagSynAck.setWidth 16 = tcpFlagSynAck.setWidth 16 := of_decide_eq_true synAck
  have bit : input.flags &&& tcpFlagSyn.setWidth 16 =
      (input.flags &&& tcpFlagSynAck.setWidth 16) &&& tcpFlagSyn.setWidth 16 := by
    rw [BitVec.and_assoc]
    rfl
  unfold TcpInput.has
  rw [bit, both]
  decide

/-- A frame carries something exactly when it has payload or a FIN. -/
theorem SegmentFrame.carries_iff (f : SegmentFrame) : f.input.Carries ↔ f.data ≠ [] ∨ f.input.has tcpFlagFin := by
  have len := f.input_payloadLen
  unfold TcpInput.Carries
  rw [gt_iff_lt, BitVec.lt_def, len]
  simp [List.length_pos_iff]

/-- An unchanged stack is an effect that keeps everything. -/
theorem Effect.of_unchanged {t : NetStack} (received : b.received = a.received) (tcp : t.tcp = a.stack.tcp)
    (delivered : t.tcpDelivered = a.stack.tcpDelivered) (sent : t.sent = a.stack.sent)
    (unchanged : b.stack = t) : Effect input a b := by
  subst unchanged
  exact .kept received (by rw [tcp]) delivered (Or.inl (by rw [tcp]))
    fun _ => ⟨[], by rw [sent, List.append_nil], by simp⟩

theorem call_effect {own : Call} (step : Session.Step (.call own : Input peer) a b) :
    Effect (.call own : Input peer) a b := by
  have keeps := call_keeps own step.moved
  exact .kept (step.received.trans (union_empty _)) keeps.ack keeps.tcpDelivered keeps.state nofun

theorem other_effect (step : Session.Step (.other : Input peer) a b) : Effect (.other : Input peer) a b := by
  have received : b.received = a.received := step.received.trans (union_empty _)
  have polled : a.stack.received.pollOn a.stack.nextReceive = some b.stack := step.moved
  have brought : a.stack.received.arrivalOn a.stack.nextReceive = none := step.brought
  rcases pollOn_cases polled with ⟨-, quiet⟩ | ⟨_, _, _, -, arrives, -⟩
  · have whole := a.stack.received_tcpQuiet.trans quiet
    exact .kept received (by rw [whole.tcp]) whole.tcpDelivered (Or.inl (by rw [whole.tcp])) fun _ => whole.sent
  · rw [brought] at arrives
    cases arrives

theorem synAck_effect {frame : SegmentFrame} (step : Session.Step (.synAck frame : Input peer) a b) :
    Effect (.synAck frame : Input peer) a b := by
  have received : b.received = a.received := step.received.trans (union_empty _)
  obtain ⟨brings, synAck⟩ := step.brought
  obtain ⟨t, tcp, delivered, sent, -, reaction⟩ := brings.reaction step.moved
  cases reaction with
  | reset rst aborted => exact absurd rst synAck.noRst
  | establish noRst waiting isSynAck established =>
    have first : frame.input.rxSeq + 1 = peer.number 0 := by
      rw [synAck.seq, Peer.number]
      exact (BitVec.add_zero _).symm
    obtain ⟨answer, answered, -, ackNo⟩ := established.sent
    exact .established (by rw [← tcp, waiting]) received established.state (established.ack.trans first)
      (established.delivered.trans delivered) ⟨answer, by rw [answered, sent], ackNo.trans first⟩
  | take noRst listening carries taken =>
    rcases frame.carries_iff.mp carries with data | fin
    · exact absurd synAck.noData data
    · exact absurd fin synAck.noFin
  | ignore noRst notSynAck nothing unchanged => exact .of_unchanged received tcp delivered sent unchanged

theorem reset_effect {frame : SegmentFrame} (step : Session.Step (.reset frame : Input peer) a b) :
    Effect (.reset frame : Input peer) a b := by
  have received : b.received = a.received := step.received.trans (union_empty _)
  obtain ⟨brings, rst⟩ := step.brought
  obtain ⟨t, tcp, delivered, sent, -, reaction⟩ := brings.reaction step.moved
  cases reaction with
  | reset rst aborted =>
    have ack : b.stack.tcp.ack = t.tcp.ack := by rw [aborted]; rfl
    have trace : b.stack.trace = t.trace := by rw [aborted]; rfl
    have state : b.stack.tcp.state = .closed := by rw [aborted]; rfl
    have quiet : b.stack.tcpDelivered = t.tcpDelivered := by rw [tcpDelivered, trace, tcpDelivered]
    have same : b.stack.sent = t.sent := by rw [NetStack.sent, trace, NetStack.sent]
    exact .kept received (by rw [ack, tcp]) (quiet.trans delivered) (Or.inr (Or.inr state))
      fun _ => ⟨[], by rw [same, sent, List.append_nil], by simp⟩
  | establish noRst => exact absurd rst noRst
  | take noRst => exact absurd rst noRst
  | ignore noRst => exact absurd rst noRst

/-- The numbers of a segment end where its piece ends. -/
theorem PieceOf.ends {frame : SegmentFrame} {part : Piece peer.stream} (of : PieceOf peer frame part) :
    frame.input.payloadEnd = peer.number (part.start + part.data.length) ∧
      frame.input.stop = peer.number part.stop := by
  have len : frame.input.payloadLen.setWidth 32 = BitVec.ofNat 32 part.data.length := by
    apply BitVec.eq_of_toNat_eq
    rw [BitVec.toNat_setWidth, frame.input_payloadLen, of.data, BitVec.toNat_ofNat]
  have first : frame.input.payloadEnd = peer.number (part.start + part.data.length) := by
    rw [TcpInput.payloadEnd, of.seq, len, peer.number_add]
  refine ⟨first, ?_⟩
  rw [TcpInput.stop, first, of.fin, peer.number_add]
  rfl

/-- A segment that carries nothing has an empty span. -/
theorem span_of_nothing {frame : SegmentFrame} {part : Piece peer.stream} (of : PieceOf peer frame part)
    (nothing : ¬frame.input.Carries) : part.span = ∅ := by
  rw [frame.carries_iff, not_or, of.data, of.fin, not_not] at nothing
  obtain ⟨data, fin⟩ := nothing
  have stop : part.stop = part.start := by simp [Piece.stop, data, Bool.eq_false_iff.mpr fin]
  rw [Piece.span, stop, Ico_self]

theorem piece_effect {frame : SegmentFrame} {part : Piece peer.stream}
    (step : Session.Step (.piece frame part : Input peer) a b) :
    Effect (.piece frame part : Input peer) a b := by
  obtain ⟨brings, of⟩ := step.brought
  obtain ⟨payloadEnd, stop⟩ := of.ends
  obtain ⟨t, tcp, delivered, sent, payload, reaction⟩ := brings.reaction step.moved
  have listens : t.Listening ↔ a.stack.Listening := by rw [Listening, tcp, Listening]
  cases reaction with
  | reset rst => exact absurd rst of.noRst
  | establish noRst waiting synAck => exact absurd (isSynAck_has synAck) of.noSyn
  | take noRst listening carries taken =>
    have here := listens.mp listening
    have len : t.takenLen frame.input = a.stack.takenLen frame.input := by
      unfold takenLen copyLen
      rw [tcp]
    have copied : t.rxPkt.byte.slice (frame.tcpAt + frame.input.tcpHlen.toNat) (t.takenLen frame.input) =
        frame.copied a.stack := by
      have fits := a.stack.takenLen_le frame.input
      rw [frame.input_payloadLen] at fits
      have short := slice_prefix t.rxPkt.byte (frame.tcpAt + frame.input.tcpHlen.toNat) fits
      rw [payload] at short
      rw [len, SegmentFrame.copied, List.prefix_iff_eq_take.mp short, slice_length]
    obtain ⟨frames, answered, -, answers⟩ := taken.sent
    refine .taken frame part rfl
      { listening := here
        carries
        state := by rw [taken.state, of.fin, tcp]
        ack := taken.ack.trans stop
        received := ?_
        delivered := by rw [taken.delivered, copied, delivered]
        sent := ⟨frames, by rw [answered, sent], ?_⟩ }
    · rw [step.received, Input.span]
      simp [here]
    · intro answer member
      obtain ⟨isTcp, ackNo⟩ := answers answer member
      rw [payloadEnd, stop] at ackNo
      exact ⟨isTcp, ackNo⟩
  | ignore noRst notSynAck nothing unchanged =>
    refine .of_unchanged ?_ tcp delivered sent unchanged
    -- A piece that a receiving connection ignores carries nothing.
    have empty : Input.span a.stack (.piece frame part) = ∅ := by
      rw [Input.span, eq_empty_iff_forall_notMem]
      rintro position ⟨listening, inside⟩
      rw [span_of_nothing of fun carries => nothing ⟨listens.mpr listening, carries⟩] at inside
      exact inside
    rw [step.received, empty, union_empty]

/-- Every step has one of the effects. -/
theorem step_effect (step : Session.Step input a b) : Effect input a b := by
  cases input with
  | call own => exact call_effect step
  | other => exact other_effect step
  | synAck frame => exact synAck_effect step
  | reset frame => exact reset_effect step
  | piece frame part => exact piece_effect step

end UefiNetstack
