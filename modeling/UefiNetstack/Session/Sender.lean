import UefiNetstack.Session.Stream

namespace UefiNetstack
open Constants NetStack Relation

/-- A session with its initial number and the bytes that were passed to `tcp_send` on it. -/
structure Sending where
  stack : NetStack
  iss : UINT32
  total : Nat

namespace Sending

variable {a b start : Sending} {move : Move}

/-- The number of a position of our stream. -/
def number (a : Sending) (position : Nat) : UINT32 := a.iss + 1 + BitVec.ofNat 32 position

/-- `tcp_connect` opens a session with an initial number. -/
def Opened (a : Sending) : Prop :=
  ∃ s ip port, a.stack = NetStack.tcpOpen ip port s ∧ a.iss = a.stack.tcp.seq ∧ a.total = 0

/-- The bytes that a move passes to the stream. -/
def sentLen (s : NetStack) : Move → Nat
  | .poll => 0
  | .call own => own.sentLen s

structure Step (move : Move) (a b : Sending) : Prop where
  moved : move.run a.stack = some b.stack
  iss : b.iss = a.iss
  total : b.total = a.total + sentLen a.stack move

/-- A run in which every move meets a condition on the session before it. -/
def Run (meets : Sending → Move → Prop) : Sending → Sending → Prop :=
  ReflTransGen fun a b => ∃ move, meets a move ∧ Step move a b

theorem Run.extend {meets : Sending → Move → Prop} {a b c : Sending} (run : Run meets a b) (step : Step move b c)
    (met : meets b move) : Run meets a c :=
  run.tail ⟨move, met, step⟩

/-- A segment without a reset acknowledges only what the peer has received: a part of the bytes sent so
far, or all of them and our FIN. -/
def Honest (a : Sending) : Move → Prop
  | .poll => ∀ input tcpAt, a.stack.arrivalOn a.stack.nextReceive = some (input, tcpAt) →
      ¬input.has tcpFlagRst →
      ∃ count ≤ a.total + if a.stack.tcp.state = .finWait then 1 else 0, input.rxAck = a.number count
  | .call _ => True

/-- A segment that the connection takes acknowledges all bytes sent so far. -/
def UpToDate (a : Sending) : Move → Prop
  | .poll => ∀ input tcpAt, a.stack.arrivalOn a.stack.nextReceive = some (input, tcpAt) →
      ¬input.has tcpFlagRst → a.stack.Listening → input.Carries → input.rxAck = a.number a.total
  | .call _ => True

/-- The invariant: nothing is sent before the connection is established, and from then on `tcp_seq`
follows the bytes sent. -/
structure Law (a : Sending) : Prop where
  waiting : a.stack.tcp.state = .synSent → a.total = 0
  seq : a.stack.Connected → a.stack.tcp.seq = a.number a.total

theorem Opened.law (opened : start.Opened) : Law start := by
  obtain ⟨s, ip, port, stack, iss, total⟩ := opened
  have waiting : start.stack.tcp.state = .synSent := by rw [stack]; rfl
  exact
    { waiting := fun _ => total
      seq := fun connected => by simp [NetStack.Connected, waiting] at connected }

/-- The reaction of the stack to the segment that a poll brings. -/
theorem poll_reaction {s s' : NetStack} (polled : s.poll = some s') :
    s'.tcp = s.tcp ∨ ∃ input tcpAt t, s.arrivalOn s.nextReceive = some (input, tcpAt) ∧ t.tcp = s.tcp ∧
      Reaction input tcpAt t s' := by
  rcases pollOn_cases polled with ⟨-, quiet⟩ | ⟨frame, input, tcpAt, answer, arrives, segment⟩
  · exact Or.inl quiet.tcp
  · have landed := s.received_tcpQuiet.trans (s.received.landed_tcpQuiet frame)
    exact Or.inr ⟨input, tcpAt, _, arrives, landed.tcp, onSegment_reaction segment⟩

/-- A call counts the bytes that it sends. -/
theorem call_law {own : Call} (step : Step (.call own) a b) (law : Law a) : Law b := by
  have keeps := call_keeps own step.moved
  have total : b.total = a.total + own.sentLen a.stack := step.total
  have number : b.number b.total = a.number a.total + BitVec.ofNat 32 (own.sentLen a.stack) := by
    rw [Sending.number, Sending.number, step.iss, total, BitVec.ofNat_add, BitVec.add_assoc, BitVec.add_assoc,
      BitVec.add_assoc]
  constructor
  · intro waiting
    have before : a.stack.tcp.state = .synSent := by
      rcases keeps.state with same | ⟨-, after⟩ | closed
      · rw [← same, waiting]
      · rw [after] at waiting; cases waiting
      · rw [closed] at waiting; cases waiting
    have silent : own.sentLen a.stack = 0 := by
      cases own <;> simp [Call.sentLen, before]
    rw [total, law.waiting before, silent]
  · intro connected
    have before : a.stack.Connected := by
      unfold NetStack.Connected at connected ⊢
      rcases keeps.state with same | ⟨before, -⟩ | closed
      · rwa [← same]
      · exact Or.inl before
      · simp [closed] at connected
    rw [keeps.seq, law.seq before, number]

/-- A poll keeps the law when what it brings is honest and up to date. -/
theorem poll_law (step : Step .poll a b) (honest : a.Honest .poll) (upToDate : a.UpToDate .poll) (law : Law a) :
    Law b := by
  have total : b.total = a.total := step.total
  have number (position : Nat) : b.number position = a.number position := by rw [Sending.number, step.iss, Sending.number]
  rcases poll_reaction step.moved with tcp | ⟨input, tcpAt, t, brought, tcp, reaction⟩
  · exact
      { waiting := fun waiting => by rw [tcp] at waiting; rw [total, law.waiting waiting]
        seq := fun connected => by
          rw [NetStack.Connected, tcp] at connected
          rw [tcp, total, number, law.seq connected] }
  · cases reaction with
    | reset rst aborted =>
      have closed : b.stack.tcp.state = .closed := by rw [aborted]; rfl
      exact
        { waiting := fun waiting => by rw [closed] at waiting; cases waiting
          seq := fun connected => by simp [NetStack.Connected, closed] at connected }
    | establish noRst waiting synAck established =>
      rw [tcp] at waiting
      have unsent := law.waiting waiting
      obtain ⟨count, bound, ack⟩ := honest input tcpAt brought noRst
      have zero : count = 0 := by simpa [unsent, waiting] using bound
      exact
        { waiting := fun waiting => by rw [established.state] at waiting; cases waiting
          seq := fun _ => by rw [established.seq, ack, zero, number, total, unsent] }
    | take noRst listening carries taken =>
      have here : a.stack.Listening := by rwa [Listening, tcp] at listening
      have ack := upToDate input tcpAt brought noRst here carries
      exact
        { waiting := fun waiting => by
            rw [taken.state] at waiting
            unfold Listening at listening
            split at waiting <;> simp_all
          seq := fun _ => by rw [taken.seq, ack, number, total] }
    | ignore noRst notSynAck nothing unchanged =>
      have same : b.stack.tcp = a.stack.tcp := by rw [unchanged, tcp]
      exact
        { waiting := fun waiting => by rw [same] at waiting; rw [total, law.waiting waiting]
          seq := fun connected => by
            rw [NetStack.Connected, same] at connected
            rw [same, total, number, law.seq connected] }

theorem Step.law (step : Step move a b) (honest : a.Honest move) (upToDate : a.UpToDate move) (law : Law a) :
    Law b := by
  cases move with
  | poll => exact poll_law step honest upToDate law
  | call own => exact call_law step law

theorem Run.law (run : Run (fun a move => a.Honest move ∧ a.UpToDate move) a b) (law : Law a) : Law b := by
  induction run with
  | refl => exact law
  | tail _ step ih =>
      obtain ⟨move, ⟨honest, upToDate⟩, step⟩ := step
      exact step.law honest upToDate ih

/-- The payload of a segment in a frame without options. -/
def framePayload (frame : Bytes) : Bytes := (frameSegment frame).drop sizeofTcpHdr

theorem tcpFrame_payload (s : NetStack) (flags : UINT8) (seq ack : UINT32) (data : Bytes) (random : UINT32) :
    framePayload (s.tcpFrame flags seq ack data random) = data := by
  dsimp only [framePayload, tcpFrame]
  rw [frameSegment_parts]
  dsimp only [tcpSegment]
  exact List.drop_left' (TcpHdr.bytes_length _)

/-- A send on an established connection puts its bytes at the current number. -/
theorem Step.send {data : Bytes} (step : Step (.call (.send data)) a b)
    (established : a.stack.tcp.state = .established) :
    b.total = a.total + data.length ∧ ∃ frame, b.stack.sent = a.stack.sent ++ [frame] ∧ IsTcpFrame frame ∧
      frameSeqNo frame = a.stack.tcp.seq ∧ framePayload frame = data := by
  refine ⟨?_, ?_⟩
  · rw [step.total, sentLen, Call.sentLen, if_pos established]
  · rcases Call.send_cases step.moved with ⟨closed, -⟩ | ⟨-, out, first, stack⟩
    · exact absurd established closed
    · obtain ⟨frame, bytes, rfl⟩ := sendTcpInternal_cases first
      have numbers := a.stack.getU32.2.tcpFrame_numbers tcpFlagPshAck a.stack.tcp.seq a.stack.tcp.ack data
        a.stack.getU32.1
      have payload := tcpFrame_payload a.stack.getU32.2 tcpFlagPshAck a.stack.tcp.seq a.stack.tcp.ack data
        a.stack.getU32.1
      rw [← bytes] at numbers payload
      have frames : b.stack.sent = (a.stack.getU32.2.sendFrame frame).sent := by
        rw [stack]
        rfl
      exact ⟨frame.bytes, frames.trans (sendFrame_sent frame a.stack.getU32.2), numbers.1, numbers.2.1, payload⟩

/-- In every run whose segments are honest and up to date, `tcp_seq` of an established connection
follows the bytes passed to `tcp_send`, and a send puts its bytes right behind those of the sends
before it. -/
theorem send_sequence (opened : start.Opened)
    (run : Run (fun a move => a.Honest move ∧ a.UpToDate move) start a) :
    (a.stack.Connected → a.stack.tcp.seq = a.number a.total) ∧
      ∀ data b, a.stack.tcp.state = .established → Step (.call (.send data)) a b →
        b.total = a.total + data.length ∧ ∃ frame, b.stack.sent = a.stack.sent ++ [frame] ∧ IsTcpFrame frame ∧
          frameSeqNo frame = a.number a.total ∧ framePayload frame = data := by
  have law := run.law opened.law
  refine ⟨law.seq, fun data b established step => ?_⟩
  obtain ⟨total, frame, sent, isTcp, seq, payload⟩ := step.send established
  exact ⟨total, frame, sent, isTcp, seq.trans (law.seq (Or.inl established)), payload⟩

end Sending

namespace Scenario
open Sending

/-- Three bytes are sent while the peer's segment is on its way. -/
def sent₂ : NetStack := (Call.run (.send [1, 2, 3]) stack₁).get (by decide +kernel)
def sent₃ : NetStack := sent₂.poll.get (by decide +kernel)

def sending₀ : Sending := { stack := stack₀, iss, total := 0 }
def sending₁ : Sending := { stack := stack₁, iss, total := 0 }
def sending₂ : Sending := { stack := sent₂, iss, total := 3 }
def sending₃ : Sending := { stack := sent₃, iss, total := 3 }

theorem sending₀_opened : sending₀.Opened := by
  obtain ⟨s, -, open_⟩ := opened_eq opened_answers
  exact ⟨s, remoteIp, 80, open_, by decide +kernel, rfl⟩

theorem stack₁_sends : Call.run (.send [1, 2, 3]) stack₁ = some sent₂ := (Option.some_get _).symm
theorem sent₂_polled : sent₂.poll = some sent₃ := (Option.some_get _).symm

theorem sending_step₁ : Sending.Step .poll sending₀ sending₁ :=
  { moved := stack₀_polled, iss := rfl, total := rfl }

theorem sending_step₂ : Sending.Step (.call (.send [1, 2, 3])) sending₁ sending₂ :=
  { moved := stack₁_sends, iss := rfl, total := by decide +kernel }

theorem sending_step₃ : Sending.Step .poll sending₂ sending₃ :=
  { moved := sent₂_polled, iss := rfl, total := rfl }

/-- A segment that acknowledges the SYN alone is honest whatever was sent after it. -/
theorem honest_of_ack {a : Sending} {input : TcpInput} {tcpAt : Nat}
    (arrives : a.stack.arrivalOn a.stack.nextReceive = some (input, tcpAt)) (ack : input.rxAck = a.number 0) :
    a.Honest .poll := by
  intro other otherAt brought _
  obtain ⟨rfl, rfl⟩ := Prod.mk.inj (Option.some.inj (arrives.symm.trans brought))
  exact ⟨0, Nat.zero_le _, ack⟩

theorem synAck_arrives : stack₀.arrivalOn stack₀.nextReceive = some (synAck.input, synAck.tcpAt) := by
  have next : stack₀.nextReceive = .frame synAckFrame := by decide +kernel
  rw [next]
  exact SegmentFrame.arrivalOn_eq rfl (by decide +kernel) (by decide +kernel)

theorem bothBytes_arrives : sent₂.arrivalOn sent₂.nextReceive = some (bothBytes.input, bothBytes.tcpAt) := by
  have next : sent₂.nextReceive = .frame bothFrame := by decide +kernel
  rw [next]
  exact SegmentFrame.arrivalOn_eq rfl (by decide +kernel) (by decide +kernel)

/-- The connection sends three bytes. -/
theorem sending_run₂ : Sending.Run (fun a move => a.Honest move ∧ a.UpToDate move) sending₀ sending₂ := by
  have deaf : ¬stack₀.Listening := by decide +kernel
  have first : Sending.Run (fun a move => a.Honest move ∧ a.UpToDate move) sending₀ sending₁ :=
    Sending.Run.extend ReflTransGen.refl sending_step₁
      ⟨honest_of_ack synAck_arrives (by decide), fun _ _ _ _ listening => absurd listening deaf⟩
  exact first.extend sending_step₂ ⟨trivial, trivial⟩

/-- Then the peer's segment arrives, which the peer sent before it received them. -/
theorem sending_run₃ : Sending.Run Honest sending₀ sending₃ := by
  have first : Sending.Run Honest sending₀ sending₁ :=
    Sending.Run.extend ReflTransGen.refl sending_step₁ (honest_of_ack synAck_arrives (by decide))
  have second : Sending.Run Honest sending₀ sending₂ := first.extend sending_step₂ trivial
  exact second.extend sending_step₃ (honest_of_ack bothBytes_arrives (by decide))

end Scenario

namespace Sending
open Scenario

/-- The connection after a send of three bytes. -/
theorem send_sequence_scenario :
    (sending₂.stack.Connected → sending₂.stack.tcp.seq = sending₂.number sending₂.total) ∧
      ∀ data b, sending₂.stack.tcp.state = .established → Step (.call (.send data)) sending₂ b →
        b.total = sending₂.total + data.length ∧ ∃ frame, b.stack.sent = sending₂.stack.sent ++ [frame] ∧
          IsTcpFrame frame ∧ frameSeqNo frame = sending₂.number sending₂.total ∧ framePayload frame = data :=
  send_sequence sending₀_opened sending_run₂

/-- A segment that crosses a send moves `tcp_seq` back to the first byte. -/
theorem crossing_breaks_sequence : ¬∀ (start a : Sending), start.Opened → Run Honest start a →
    (a.stack.Connected → a.stack.tcp.seq = a.number a.total) := by
  intro law
  have connected : sending₃.stack.Connected := Or.inl (by decide +kernel)
  have seq := law sending₀ sending₃ sending₀_opened sending_run₃ connected
  exact absurd seq (by decide +kernel)

end Sending
end UefiNetstack
