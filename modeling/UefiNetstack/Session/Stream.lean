import UefiNetstack.Session.Peer

namespace UefiNetstack
open Memory Constants NetStack InOrder Relation Set

namespace Session

variable {peer : Peer} {input : Input peer} {a b start : Session}

/-- A piece that a connection takes starts in order and does not end before, and its bytes are copied
only where the caller's bytes end. -/
def Adjoins (a : Session) : Input peer → Prop
  | .piece frame part => a.stack.Listening → frame.input.Carries →
      part.start ≤ inOrder a.received ∧ inOrder a.received ≤ part.stop ∧
        (frame.copied a.stack ≠ [] → part.start = a.got.length)
  | _ => True

/-- The invariant: the received positions are in order, the acknowledgement number follows them and
the callers have a prefix of the stream. -/
structure Sound (peer : Peer) (a : Session) : Prop where
  before : a.before ≤ a.stack.tcpDelivered.length
  received : a.received = Iio (inOrder a.received)
  waiting : a.stack.tcp.state = .synSent → a.received = ∅ ∧ a.got = []
  ack : a.stack.Connected → a.stack.tcp.ack = peer.number (inOrder a.received)
  got : a.got <+: peer.stream

theorem Opened.sound (opened : start.Opened) : Sound peer start := by
  obtain ⟨s, ip, port, stack, received, before⟩ := opened
  have untaken : start.got = [] := by rw [got, before, List.drop_length]
  have waiting : start.stack.tcp.state = .synSent := by rw [stack]; rfl
  exact
    { before := Nat.le_of_eq before
      received := by rw [received, inOrder_empty]; ext; simp
      waiting := fun _ => ⟨received, untaken⟩
      ack := fun connected => by simp [NetStack.Connected, waiting] at connected
      got := by rw [untaken]; exact List.nil_prefix }

/-- A step that copies nothing keeps the callers' bytes. -/
theorem Step.got_of_kept (step : Step input a b) (delivered : b.stack.tcpDelivered = a.stack.tcpDelivered) :
    b.got = a.got := by
  rw [got, got, delivered, step.before]

/-- A copy is added behind the callers' bytes. -/
theorem Step.got_of_copied (step : Step input a b) (before : a.before ≤ a.stack.tcpDelivered.length) {block : Bytes}
    (delivered : b.stack.tcpDelivered = a.stack.tcpDelivered ++ block) : b.got = a.got ++ block := by
  rw [got, got, delivered, step.before, List.drop_append_of_le_length before]

/-- A call that keeps the connection, or starts to close it, leaves no other state connected. -/
theorem state_kept (state : b.stack.tcp.state = a.stack.tcp.state ∨
      a.stack.tcp.state = .established ∧ b.stack.tcp.state = .finWait ∨ b.stack.tcp.state = .closed) :
    (b.stack.tcp.state = .synSent → a.stack.tcp.state = .synSent) ∧ (b.stack.Connected → a.stack.Connected) ∧
      (b.stack.Listening → a.stack.Listening) := by
  unfold NetStack.Connected NetStack.Listening
  rcases state with same | ⟨before, after⟩ | closed
  · rw [same]
    exact ⟨id, id, id⟩
  · rw [before, after]
    simp
  · rw [closed]
    simp

/-- The positions of an adjoining piece extend the positions in order to its end. -/
theorem takes_inOrder {frame : SegmentFrame} {part : Piece peer.stream} (takes : Takes peer frame part a b)
    (sound : Sound peer a) (starts : part.start ≤ inOrder a.received) (ends : inOrder a.received ≤ part.stop) :
    b.received = Iio part.stop ∧ inOrder b.received = part.stop := by
  have block : b.received = Iio part.stop := by
    rw [takes.received, sound.received, Piece.span, Iio_union_block starts ends]
  exact ⟨block, by rw [block, inOrder_Iio]⟩

/-- The callers' bytes stay a prefix when a copy starts where they end. -/
theorem got_append_prefix {frame : SegmentFrame} {part : Piece peer.stream} (of : PieceOf peer frame part)
    (got : a.got <+: peer.stream) (place : frame.copied a.stack ≠ [] → part.start = a.got.length) :
    a.got ++ frame.copied a.stack <+: peer.stream := by
  by_cases uncopied : frame.copied a.stack = []
  · rw [uncopied, List.append_nil]
    exact got
  · have within := part.within
    rw [place uncopied, ← of.data] at within
    exact prefix_append got ((List.take_prefix _ _).trans within)

/-- One input that adjoins keeps the invariant, and the positions in order never become fewer. -/
theorem Step.sound (step : Step input a b) (adjoins : a.Adjoins input) (sound : Sound peer a) :
    Sound peer b ∧ inOrder a.received ≤ inOrder b.received := by
  cases step_effect step with
  | kept received ack delivered state =>
    obtain ⟨waits, connects, -⟩ := state_kept state
    have same := step.got_of_kept delivered
    refine ⟨?_, Nat.le_of_eq (by rw [received])⟩
    exact
      { before := by rw [step.before, delivered]; exact sound.before
        received := by rw [received]; exact sound.received
        waiting := fun waiting => by rw [received, same]; exact sound.waiting (waits waiting)
        ack := fun connected => by rw [ack, received]; exact sound.ack (connects connected)
        got := by rw [same]; exact sound.got }
  | established waiting received state ack delivered =>
    obtain ⟨empty, untaken⟩ := sound.waiting waiting
    have same := step.got_of_kept delivered
    refine ⟨?_, Nat.le_of_eq (by rw [received])⟩
    exact
      { before := by rw [step.before, delivered]; exact sound.before
        received := by rw [received]; exact sound.received
        waiting := fun waiting => by rw [state] at waiting; cases waiting
        ack := fun _ => by rw [ack, received, empty, inOrder_empty]
        got := by rw [same]; exact sound.got }
  | taken frame part equal takes =>
    subst equal
    obtain ⟨starts, ends, place⟩ := adjoins takes.listening takes.carries
    obtain ⟨received, count⟩ := takes_inOrder takes sound starts ends
    have whole := step.got_of_copied sound.before takes.delivered
    refine ⟨?_, by rw [count]; exact ends⟩
    exact
      { before := by
          rw [step.before, takes.delivered, List.length_append]
          exact Nat.le_add_right_of_le sound.before
        received := by rw [count, received]
        waiting := fun waiting => by
          have listening := takes.listening
          rw [takes.state] at waiting
          unfold NetStack.Listening at listening
          split at waiting <;> simp_all
        ack := fun _ => by rw [takes.ack, count]
        got := by
          rw [whole]
          exact got_append_prefix step.brought.2 sound.got place }

/-- A run whose inputs adjoin keeps the invariant. -/
theorem Run.sound (run : Run peer Adjoins a b) (sound : Sound peer a) :
    Sound peer b ∧ inOrder a.received ≤ inOrder b.received := by
  induction run with
  | refl => exact ⟨sound, Nat.le_refl _⟩
  | tail _ step ih =>
      obtain ⟨input, adjoins, step⟩ := step
      have next := step.sound adjoins ih.1
      exact ⟨next.1, Nat.le_trans ih.2 next.2⟩

/-- In every run whose inputs adjoin, the callers have a prefix of the peer's stream, the number of an
established connection follows the positions in order, and they never become fewer. -/
theorem stream_integrity (opened : start.Opened) (reached : Run peer Adjoins start a)
    (continued : Run peer Adjoins a b) :
    b.got <+: peer.stream ∧
      (b.stack.Connected → b.stack.tcp.ack = peer.number (inOrder b.received)) ∧
      inOrder a.received ≤ inOrder b.received := by
  have before := (reached.sound opened.sound).1
  obtain ⟨sound, grows⟩ := continued.sound before
  exact ⟨sound.got, sound.ack, grows⟩

/-- The pieces arrive in order and exactly once. -/
def InTurn (a : Session) : Input peer → Prop
  | .piece frame part => a.stack.Listening → frame.input.Carries → part.start = inOrder a.received
  | _ => True

/-- A receive is pending and has room for the payload. -/
def Room (a : Session) : Input peer → Prop
  | .piece _ part => a.stack.Listening → part.data ≠ [] → a.stack.tcp.rxBuffer.isSome ∧
      part.data.length ≤ (a.stack.tcp.rxMaxLen - a.stack.tcp.rxCurrentLen).toNat
  | _ => True

/-- The number of payload bytes that are acknowledged: the positions in order without the FIN. -/
noncomputable def acked (peer : Peer) (a : Session) : Nat := min (inOrder a.received) peer.stream.length

/-- The invariant: a receiving connection has delivered every position in order. -/
structure Delivered (peer : Peer) (a : Session) : Prop where
  sound : Sound peer a
  caught : a.stack.Listening → a.got.length = inOrder a.received
  acked : a.acked peer ≤ a.got.length

theorem Opened.delivered (opened : start.Opened) : Delivered peer start := by
  have sound : Sound peer start := opened.sound
  obtain ⟨s, ip, port, stack, received, before⟩ := opened
  have waiting : start.stack.tcp.state = .synSent := by rw [stack]; rfl
  exact
    { sound
      caught := fun listening => by simp [NetStack.Listening, waiting] at listening
      acked := by rw [Session.acked, received, inOrder_empty]; exact (Nat.zero_min _).le.trans (Nat.zero_le _) }

/-- A payload that has room is copied whole. -/
theorem copied_of_room {frame : SegmentFrame} {part : Piece peer.stream} (of : PieceOf peer frame part)
    (listening : a.stack.Listening) (room : a.Room (.piece frame part)) : frame.copied a.stack = part.data := by
  rw [SegmentFrame.copied, of.data]
  by_cases empty : part.data = []
  · rw [empty, List.take_nil]
  · obtain ⟨pending, fits⟩ := room listening empty
    have len := frame.input_payloadLen
    rw [of.data] at len
    have whole : a.stack.takenLen frame.input = part.data.length := by
      unfold takenLen copyLen
      rw [if_pos pending, if_neg]
      · exact len
      · rw [gt_iff_lt, BitVec.lt_def, len]
        omega
    rw [whole, List.take_length]

/-- A piece in turn that has room adjoins. -/
theorem Delivered.adjoins (delivered : Delivered peer a) (turn : a.InTurn input) : a.Adjoins input := by
  cases input with
  | piece frame part =>
    intro listening carries
    have start := turn listening carries
    refine ⟨Nat.le_of_eq start, ?_, fun _ => ?_⟩
    · rw [← start]
      exact part.start_le_stop
    · rw [start, delivered.caught listening]
  | call own => trivial
  | other => trivial
  | synAck frame => trivial
  | reset frame => trivial

theorem Step.delivered (step : Step input a b) (turn : a.InTurn input) (room : a.Room input)
    (delivered : Delivered peer a) : Delivered peer b := by
  have sound := (step.sound (delivered.adjoins turn) delivered.sound).1
  cases step_effect step with
  | kept received ack copied state =>
    have same := step.got_of_kept copied
    exact
      { sound
        caught := fun listening => by
          rw [same, received]
          exact delivered.caught ((state_kept state).2.2 listening)
        acked := by rw [Session.acked, received, same]; exact delivered.acked }
  | established waiting received state ack copied =>
    obtain ⟨empty, untaken⟩ := delivered.sound.waiting waiting
    have same := step.got_of_kept copied
    have count : inOrder b.received = 0 := by rw [received, empty, inOrder_empty]
    exact
      { sound
        caught := fun _ => by rw [same, untaken, count]; rfl
        acked := by rw [Session.acked, count]; omega }
  | taken frame part equal takes =>
    subst equal
    have begins := turn takes.listening takes.carries
    have caught := delivered.caught takes.listening
    have count := (takes_inOrder takes delivered.sound (Nat.le_of_eq begins)
      (begins ▸ part.start_le_stop)).2
    have whole := step.got_of_copied delivered.sound.before takes.delivered
    rw [copied_of_room step.brought.2 takes.listening room] at whole
    have length : b.got.length = part.start + part.data.length := by
      rw [whole, List.length_append, caught, begins]
    exact
      { sound
        caught := fun listening => by
          -- A connection that still receives has taken no FIN.
          have open_ : part.fin = false := by
            by_contra fin
            unfold NetStack.Listening at listening
            rw [takes.state, if_pos (by simpa using fin)] at listening
            simp at listening
          rw [length, count, Piece.stop, open_]
          rfl
        acked := by
          rw [Session.acked, length, count, Piece.stop]
          by_cases fin : part.fin = true
          · have last := part.last fin
            omega
          · rw [Bool.eq_false_iff.mpr fin]
            exact min_le_left _ _ }

theorem Run.delivered (run : Run peer (fun a input => a.InTurn input ∧ a.Room input) a b)
    (delivered : Delivered peer a) : Delivered peer b := by
  induction run with
  | refl => exact delivered
  | tail _ step ih =>
      obtain ⟨input, ⟨turn, room⟩, step⟩ := step
      exact step.delivered turn room ih

/-- The segments that a poll sends acknowledge only bytes that were delivered by then. -/
theorem Step.answers (step : Step input a b) (delivered : Delivered peer a) (turn : a.InTurn input)
    (room : a.Room input) (polls : input.move = .poll) :
    ∃ frames, b.stack.sent = a.stack.sent ++ frames ∧ ∀ frame ∈ frames, IsTcpFrame frame →
      ∃ count, frameAckNo frame = peer.number count ∧ min count peer.stream.length ≤ b.got.length := by
  have after := step.delivered turn room delivered
  cases step_effect step with
  | kept received ack copied state silent =>
    obtain ⟨frames, sent, silent⟩ := silent polls
    exact ⟨frames, sent, fun frame member segment => absurd segment (silent frame member)⟩
  | established waiting received state ack copied sent =>
    obtain ⟨frame, sent, ackNo⟩ := sent
    refine ⟨[frame], sent, fun other member _ => ⟨0, ?_, by omega⟩⟩
    rw [List.mem_singleton.mp member, ackNo]
  | taken frame part equal takes =>
    subst equal
    obtain ⟨frames, sent, answers⟩ := takes.sent
    have begins := turn takes.listening takes.carries
    have count := (takes_inOrder takes delivered.sound (Nat.le_of_eq begins) (begins ▸ part.start_le_stop)).2
    have bound := after.acked
    rw [Session.acked, count] at bound
    refine ⟨frames, sent, fun answer member _ => ?_⟩
    rcases (answers answer member).2 with ackNo | ackNo
    · refine ⟨_, ackNo, Nat.le_trans ?_ bound⟩
      exact min_le_min_right _ (Nat.le_add_right _ _)
    · exact ⟨_, ackNo, bound⟩

/-- In every run whose pieces come in turn and find a receive with room, the connection acknowledges
no payload byte that was not delivered, neither in its state nor in an answer to a poll. -/
theorem acknowledged_delivered (opened : start.Opened)
    (run : Run peer (fun a input => a.InTurn input ∧ a.Room input) start a) :
    (a.stack.Connected → a.stack.tcp.ack = peer.number (inOrder a.received)) ∧ a.acked peer ≤ a.got.length ∧
      ∀ (input : Input peer) (b : Session), a.InTurn input → a.Room input → Step input a b → input.move = .poll →
        ∃ frames, b.stack.sent = a.stack.sent ++ frames ∧ ∀ frame ∈ frames, IsTcpFrame frame →
          ∃ count, frameAckNo frame = peer.number count ∧ min count peer.stream.length ≤ b.got.length := by
  have delivered := run.delivered opened.delivered
  exact ⟨delivered.sound.ack, delivered.acked,
    fun input b turn room step polls => step.answers delivered turn room polls⟩

end Session

namespace Scenario
open Session

/-- The peer sends two bytes. -/
def peer : Peer := { irs := 1000, stream := [0x61, 0x62] }
def synAck : SegmentFrame := segmentFrom remoteIp 80 tcpFlagSynAck 1000 (iss + 1) [] noData_fits
def bothBytes : SegmentFrame := segmentFrom remoteIp 80 tcpFlagPshAck 1001 (iss + 1) [0x61, 0x62] (by decide)

def whole : Piece peer.stream where
  start := 0
  data := [0x61, 0x62]
  fin := false
  within := by decide
  last := by decide

theorem synAck_of : SynAckOf peer synAck :=
  { noRst := by decide, synAck := by decide, noFin := by decide, noData := rfl, seq := by decide }

theorem whole_of : PieceOf peer bothBytes whole :=
  { noRst := by decide, noSyn := by decide, fin := by decide, data := rfl, seq := by decide }

def synAckFrame : RxFrame := { bytes := synAck.bytes, fits := by decide }
def bothFrame : RxFrame := { bytes := bothBytes.bytes, fits := by decide }

/-- Receive gives the SYN+ACK, the two bytes, and the two bytes again. -/
def answers : List Receive := [.frame synAckFrame, .frame bothFrame, .frame bothFrame]

/-- The session waits, is connected, and one receive after the other takes two bytes. -/
def stack₀ : NetStack := (opened answers).get (by decide +kernel)
def stack₁ : NetStack := stack₀.poll.get (by decide +kernel)
def stack₂ : NetStack := stack₁.tcpReceiveStart (fun _ => 0) 64
def stack₃ : NetStack := stack₂.poll.get (by decide +kernel)
def stack₄ : NetStack := stack₃.tcpReceiveStart (fun _ => 0) 64
def stack₅ : NetStack := stack₄.poll.get (by decide +kernel)

theorem opened_answers : opened answers = some stack₀ := (Option.some_get _).symm
theorem stack₀_polled : stack₀.poll = some stack₁ := (Option.some_get _).symm

def session₀ : Session := { stack := stack₀, received := ∅, before := stack₀.tcpDelivered.length }
def session₁ : Session := session₀.next (.synAck synAck : Input peer) stack₁
def session₂ : Session := session₁.next (.call (.receiveStart (fun _ => 0) 64) : Input peer) stack₂
def session₃ : Session := session₂.next (.piece bothBytes whole : Input peer) stack₃
def session₄ : Session := session₃.next (.call (.receiveStart (fun _ => 0) 64) : Input peer) stack₄
def session₅ : Session := session₄.next (.piece bothBytes whole : Input peer) stack₅

theorem session₀_opened : session₀.Opened := by
  obtain ⟨s, -, open_⟩ := opened_eq opened_answers
  exact ⟨s, remoteIp, 80, open_, rfl, rfl⟩

theorem step₁ : Step (.synAck synAck : Input peer) session₀ session₁ :=
  step_next ⟨⟨⟨synAckFrame, by decide +kernel, rfl⟩, by decide +kernel, by decide +kernel, by decide +kernel,
    by decide +kernel⟩, synAck_of⟩ (Option.some_get _).symm

theorem step₂ : Step (.call (.receiveStart (fun _ => 0) 64) : Input peer) session₁ session₂ :=
  step_next trivial rfl

theorem step₃ : Step (.piece bothBytes whole : Input peer) session₂ session₃ :=
  step_next ⟨⟨⟨bothFrame, by decide +kernel, rfl⟩, by decide +kernel, by decide +kernel, by decide +kernel,
    by decide +kernel⟩, whole_of⟩ (Option.some_get _).symm

theorem step₄ : Step (.call (.receiveStart (fun _ => 0) 64) : Input peer) session₃ session₄ :=
  step_next trivial rfl

theorem step₅ : Step (.piece bothBytes whole : Input peer) session₄ session₅ :=
  step_next ⟨⟨⟨bothFrame, by decide +kernel, rfl⟩, by decide +kernel, by decide +kernel, by decide +kernel,
    by decide +kernel⟩, whole_of⟩ (Option.some_get _).symm

theorem session₂_received : session₂.received = ∅ := by
  simp [session₂, session₁, session₀, next, Input.span]

/-- The first three inputs come in turn and find room. -/
theorem run₃ : Run peer (fun a input => a.InTurn input ∧ a.Room input) session₀ session₃ := by
  have first : Run peer (fun a input => a.InTurn input ∧ a.Room input) session₀ session₂ :=
    (Run.extend ReflTransGen.refl step₁ ⟨trivial, trivial⟩).extend step₂ ⟨trivial, trivial⟩
  refine first.extend step₃ ⟨fun _ _ => ?_, fun _ _ => by decide +kernel⟩
  rw [session₂_received, inOrder_empty]
  rfl

/-- Each of these inputs adjoins as well. -/
theorem run₃_adjoins : Run peer Adjoins session₀ session₃ := by
  have first : Run peer Adjoins session₀ session₂ :=
    (Run.extend ReflTransGen.refl step₁ trivial).extend step₂ trivial
  refine first.extend step₃ fun _ _ => ?_
  rw [session₂_received, inOrder_empty]
  exact ⟨Nat.le_refl _, Nat.zero_le _, fun _ => by decide +kernel⟩

/-- The second copy of the segment is copied again. -/
theorem run₅ : Run peer (fun _ _ => True) session₀ session₅ :=
  ((((Run.extend ReflTransGen.refl step₁ trivial).extend step₂ trivial).extend step₃ trivial).extend
    step₄ trivial).extend step₅ trivial

/-- The same session with a receive of one byte. -/
def stack₂' : NetStack := stack₁.tcpReceiveStart (fun _ => 0) 1
def stack₃' : NetStack := stack₂'.poll.get (by decide +kernel)
def session₂' : Session := session₁.next (.call (.receiveStart (fun _ => 0) 1) : Input peer) stack₂'
def session₃' : Session := session₂'.next (.piece bothBytes whole : Input peer) stack₃'

theorem step₂' : Step (.call (.receiveStart (fun _ => 0) 1) : Input peer) session₁ session₂' :=
  step_next trivial rfl

theorem step₃' : Step (.piece bothBytes whole : Input peer) session₂' session₃' :=
  step_next ⟨⟨⟨bothFrame, by decide +kernel, rfl⟩, by decide +kernel, by decide +kernel, by decide +kernel,
    by decide +kernel⟩, whole_of⟩ (Option.some_get _).symm

theorem session₂'_received : session₂'.received = ∅ := by
  simp [session₂', session₁, session₀, next, Input.span]

theorem run₃' : Run peer InTurn session₀ session₃' := by
  have first : Run peer InTurn session₀ session₂' :=
    (Run.extend ReflTransGen.refl step₁ trivial).extend step₂' trivial
  refine first.extend step₃' fun _ _ => ?_
  rw [session₂'_received, inOrder_empty]
  rfl

end Scenario

namespace Session
open Scenario

/-- The session that takes the two bytes once. -/
theorem stream_integrity_scenario :
    session₃.got <+: Scenario.peer.stream ∧
      (session₃.stack.Connected → session₃.stack.tcp.ack = Scenario.peer.number (inOrder session₃.received)) ∧
      inOrder session₃.received ≤ inOrder session₃.received :=
  stream_integrity session₀_opened run₃_adjoins ReflTransGen.refl

/-- A duplicate of the first segment is delivered to the next receive: the stream `ab` arrives as
`abab`. -/
theorem duplicate_breaks_stream : ¬∀ (peer : Peer) (start a b : Session), start.Opened →
    Run peer (fun _ _ => True) start a → Run peer (fun _ _ => True) a b →
    b.got <+: peer.stream ∧
      (b.stack.Connected → b.stack.tcp.ack = peer.number (inOrder b.received)) ∧
      inOrder a.received ≤ inOrder b.received := by
  intro intact
  have got := (intact Scenario.peer session₀ session₅ session₅ session₀_opened run₅ ReflTransGen.refl).1
  exact absurd got (by decide +kernel)

/-- The session that takes the two bytes into a buffer with room. -/
theorem acknowledged_delivered_scenario :
    (session₃.stack.Connected → session₃.stack.tcp.ack = Scenario.peer.number (inOrder session₃.received)) ∧
      session₃.acked Scenario.peer ≤ session₃.got.length ∧
      ∀ (input : Input Scenario.peer) (b : Session), session₃.InTurn input → session₃.Room input →
        Step input session₃ b → input.move = .poll →
        ∃ frames, b.stack.sent = session₃.stack.sent ++ frames ∧ ∀ frame ∈ frames, IsTcpFrame frame →
          ∃ count, frameAckNo frame = Scenario.peer.number count ∧
            min count Scenario.peer.stream.length ≤ b.got.length :=
  acknowledged_delivered session₀_opened run₃

/-- A receive of one byte gets one of two bytes, and both are acknowledged. -/
theorem small_buffer_loses_bytes : ¬∀ (peer : Peer) (start a : Session), start.Opened →
    Run peer InTurn start a →
    (a.stack.Connected → a.stack.tcp.ack = peer.number (inOrder a.received)) ∧ a.acked peer ≤ a.got.length := by
  intro kept
  have bound := (kept Scenario.peer session₀ session₃' session₀_opened run₃').2
  have listens : session₂'.stack.Listening := by decide +kernel
  have received : session₃'.received = Iio 2 := by
    change session₂'.received ∪ {position | session₂'.stack.Listening ∧ position ∈ whole.span} = _
    ext position
    simp [session₂'_received, listens, Piece.span, Piece.stop, whole]
  have got : session₃'.got.length = 1 := by decide +kernel
  rw [acked, received, inOrder_Iio, got] at bound
  exact absurd bound (by decide)

end Session
end UefiNetstack
