import UefiNetstack.Session.Lifecycle

namespace UefiNetstack
open Constants NetStack Relation

namespace NetStack

/-- The state machine stores the acknowledgement number of such a segment in `tcp_seq`. -/
def Stores (s : NetStack) (input : TcpInput) : Prop :=
  ¬input.has tcpFlagRst ∧ (s.tcp.state = .synSent ∧ input.isSynAck ∨ s.Listening ∧ input.Carries)

end NetStack

/-- A session with whether the acknowledgement number that it stored last covers all bytes sent by then. -/
structure Closing extends Sending where
  current : Prop

namespace Closing

variable {a b c start : Closing} {move : Move}

/-- The session opens without an acknowledgement. -/
def Opened (a : Closing) : Prop := a.toSending.Opened

/-- A poll that stores a number asks whether it is the current one. -/
def CurrentAfter (a : Closing) : Move → Prop
  | .poll =>
    (∀ input, a.stack.incoming = some input → a.stack.Stores input → input.rxAck = a.number a.total) ∧
      ((∀ input, a.stack.incoming = some input → ¬a.stack.Stores input) → a.current)
  | .call _ => a.current

structure Step (move : Move) (a b : Closing) : Prop where
  sending : Sending.Step move a.toSending b.toSending
  current : b.current ↔ a.CurrentAfter move

/-- A run in which every move meets a condition on the session before it. -/
def Run (meets : Closing → Move → Prop) : Closing → Closing → Prop :=
  ReflTransGen fun a b => ∃ move, meets a move ∧ Step move a b

/-- The session after a move that leaves a given stack. -/
def next (a : Closing) (move : Move) (stack : NetStack) : Closing where
  stack
  iss := a.iss
  total := a.total + Sending.sentLen a.stack move
  current := a.CurrentAfter move

theorem step_next {stack : NetStack} (moved : move.run a.stack = some stack) : Step move a (a.next move stack) :=
  { sending := { moved, iss := rfl, total := rfl }, current := Iff.rfl }

theorem Run.extend {meets : Closing → Move → Prop} (run : Run meets a b) (step : Step move b c) (met : meets b move) :
    Run meets a c :=
  run.tail ⟨move, met, step⟩

/-- A segment without a reset acknowledges only what the peer has received. -/
def Honest (a : Closing) (move : Move) : Prop := a.toSending.Honest move

/-- A FIN that the connection takes acknowledges the bytes sent and no more, and `tcp_close` starts after a
segment that acknowledged all bytes sent by then. -/
def InPlace (a : Closing) : Move → Prop
  | .poll => ∀ input, a.stack.incoming = some input → ¬input.has tcpFlagRst → a.stack.Listening →
      input.has tcpFlagFin → input.rxAck = a.number a.total
  | .call .closeStart => a.current
  | .call _ => True

/-- The numbers from the SYN to the one behind the FIN. -/
def Within (a : Closing) (x : UINT32) : Prop := ∃ count ≤ a.total + 2, x = a.iss + BitVec.ofNat 32 count

/-- A FIN has the number behind the bytes sent, and no segment a number beyond the next. -/
def Placed (a : Closing) (frame : Bytes) : Prop :=
  (FrameHas tcpFlagFin frame → frameSeqNo frame = a.number a.total) ∧ a.Within (frameSeqNo frame)

/-- A connection in these states has sent no FIN. -/
def Open (a : Closing) : Prop := a.stack.tcp.state = .synSent ∨ a.stack.tcp.state = .established

theorem number_within {position : Nat} (bound : position ≤ a.total + 1) : a.Within (a.number position) := by
  refine ⟨position + 1, by omega, ?_⟩
  rw [Sending.number, BitVec.add_assoc, Nat.add_comm position 1, BitVec.ofNat_add]
  rfl

theorem number_add (a : Closing) (position len : Nat) :
    a.number (position + len) = a.number position + BitVec.ofNat 32 len := by
  rw [Sending.number, Sending.number, BitVec.ofNat_add, ← BitVec.add_assoc]

theorem Step.number (step : Step move a b) (position : Nat) : b.number position = a.number position := by
  rw [Sending.number, step.sending.iss, Sending.number]

theorem Step.within {x : UINT32} (step : Step move a b) (within : a.Within x) : b.Within x := by
  obtain ⟨count, bound, same⟩ := within
  refine ⟨count, ?_, by rw [step.sending.iss, same]⟩
  rw [step.sending.total]
  omega

/-- Only `tcp_send` on an established connection adds bytes. -/
theorem sentLen_open {s : NetStack} (fresh : Sending.sentLen s move ≠ 0) : s.tcp.state = .established := by
  cases move with
  | poll => exact absurd rfl fresh
  | call own =>
    cases own with
    | send data =>
      by_contra closed
      exact fresh (if_neg closed)
    | _ => exact absurd rfl fresh

structure Law (start a : Closing) : Prop where
  waiting : a.stack.tcp.state = .synSent → a.total = 0 ∧ a.stack.tcp.seq = a.iss
  established : a.stack.tcp.state = .established → ∃ position ≤ a.total, a.stack.tcp.seq = a.number position
  current : a.stack.tcp.state = .established → a.current → a.stack.tcp.seq = a.number a.total
  within : a.Within a.stack.tcp.seq
  unfinished : a.Open →
    Sends (fun frame => ¬FrameHas tcpFlagFin frame ∧ a.Within (frameSeqNo frame)) start.stack a.stack
  placed : Sends a.Placed start.stack a.stack

theorem Opened.law (opened : start.Opened) : Law start start := by
  obtain ⟨s, ip, port, stack, iss, total⟩ := opened
  have waiting : start.stack.tcp.state = .synSent := by rw [stack]; rfl
  exact
    { waiting := fun _ => ⟨total, iss.symm⟩
      established := fun established => by rw [waiting] at established; cases established
      current := fun established => by rw [waiting] at established; cases established
      within := ⟨0, Nat.zero_le _, by rw [iss]; exact (BitVec.add_zero _).symm⟩
      unfinished := fun _ => Sends.of_same rfl
      placed := Sends.of_same rfl }

/-- The segments sent so far keep their places: bytes are added only while no FIN is sent. -/
theorem Law.keeps_placed (law : Law start a) (step : Step move a b) : Sends b.Placed start.stack a.stack := by
  by_cases fresh : Sending.sentLen a.stack move = 0
  · have total : b.total = a.total := by rw [step.sending.total, fresh, Nat.add_zero]
    refine law.placed.mono fun frame placed => ⟨fun fin => ?_, step.within placed.2⟩
    rw [placed.1 fin, total, step.number]
  · have open_ : a.Open := Or.inr (sentLen_open fresh)
    exact (law.unfinished open_).mono fun frame kept => ⟨fun fin => absurd fin kept.1, step.within kept.2⟩

/-- The FIN of `tcp_close` has its place, and no other call sends one. -/
theorem call_placed {own : Call} {frame : Bytes} (step : Step (.call own) a b) (inPlace : a.InPlace (.call own))
    (law : Law start a) (segment : own.Segment a.stack frame) : b.Placed frame := by
  have seq (same : frameSeqNo frame = a.stack.tcp.seq) : b.Within (frameSeqNo frame) := by
    rw [same]
    exact step.within law.within
  cases own with
  | syn => exact ⟨fun fin => absurd ((frameHas_iff segment.1).mp fin) (by decide), seq segment.2.2⟩
  | send data =>
    obtain ⟨-, flags, -, same⟩ := segment
    exact ⟨fun fin => absurd ((frameHas_iff flags).mp fin) (by decide), seq same⟩
  | closeStart =>
    have established := (closeStart_state step.sending.moved).1
    have total : b.total = a.total := step.sending.total
    refine ⟨fun _ => ?_, seq segment.2.2⟩
    rw [segment.2.2, law.current established inPlace, total, step.number]
  | _ => exact absurd segment id

/-- A call that leaves the connection open found it open and sends no FIN. -/
theorem call_open {own : Call} (step : Step (.call own) a b) (open_ : b.Open) :
    a.Open ∧ ∀ frame, own.Segment a.stack frame → ¬FrameHas tcpFlagFin frame := by
  have moved : Call.run own a.stack = some b.stack := step.sending.moved
  rcases (call_keeps own moved).state with same | ⟨-, after⟩ | after
  · have before : a.Open := by rwa [Open, same] at open_
    refine ⟨before, fun frame segment fin => ?_⟩
    cases own with
    | syn => exact absurd ((frameHas_iff segment.1).mp fin) (by decide)
    | send data => exact absurd ((frameHas_iff segment.2.1).mp fin) (by decide)
    | closeStart => simp [Open, (closeStart_state moved).2] at open_
    | _ => exact segment
  · simp [Open, after] at open_
  · simp [Open, after] at open_

/-- A call keeps the law when the FIN of `tcp_close` has its place. -/
theorem call_law {own : Call} (step : Step (.call own) a b) (inPlace : a.InPlace (.call own)) (law : Law start a) :
    Law start b := by
  have moved : Call.run own a.stack = some b.stack := step.sending.moved
  have keeps := call_keeps own moved
  have sends := call_sends own moved
  have total : b.total = a.total + own.sentLen a.stack := step.sending.total
  have current : b.current ↔ a.current := step.current
  have open_established (established : b.stack.tcp.state = .established) : a.stack.tcp.state = .established :=
    (call_undisturbed moved established).1
  constructor
  · intro waiting
    have before : a.stack.tcp.state = .synSent := move_waiting step.sending.moved waiting
    have silent : own.sentLen a.stack = 0 := by
      by_contra fresh
      have adds : Sending.sentLen a.stack (.call own) ≠ 0 := fresh
      have established := sentLen_open adds
      rw [before] at established
      cases established
    obtain ⟨empty, seq⟩ := law.waiting before
    refine ⟨by rw [total, empty, silent], ?_⟩
    rw [keeps.seq, silent, seq, step.sending.iss]
    exact BitVec.add_zero _
  · intro established
    obtain ⟨position, bound, seq⟩ := law.established (open_established established)
    refine ⟨position + own.sentLen a.stack, by omega, ?_⟩
    rw [keeps.seq, seq, number_add, step.number]
  · intro established covers
    rw [keeps.seq, law.current (open_established established) (current.mp covers), total, number_add, step.number]
  · obtain ⟨count, bound, seq⟩ := law.within
    refine ⟨count + own.sentLen a.stack, by omega, ?_⟩
    rw [keeps.seq, seq, step.sending.iss, BitVec.ofNat_add, BitVec.add_assoc]
  · intro open_
    obtain ⟨before, noFin⟩ := call_open step open_
    have earlier := (law.unfinished before).mono fun frame kept => And.intro kept.1 (step.within kept.2)
    exact earlier.trans (sends.mono fun frame segment =>
      ⟨noFin frame segment, (call_placed step inPlace law segment).2⟩)
  · exact (law.keeps_placed step).trans (sends.mono fun frame segment => call_placed step inPlace law segment)

variable {input : TcpInput} {tcpAt : Nat}

/-- A poll that stores no number and sends no segment keeps the law. -/
theorem Law.quiet (law : Law start a) (step : Step .poll a b) (quiet : TcpQuiet a.stack b.stack)
    (ignored : ∀ input, a.stack.incoming = some input → ¬a.stack.Stores input) : Law start b := by
  have total : b.total = a.total := step.sending.total
  have silent : Sends (fun _ => False) a.stack b.stack := quiet.sends
  constructor
  · intro waiting
    rw [quiet.tcp] at waiting ⊢
    rw [total, step.sending.iss]
    exact law.waiting waiting
  · intro established
    rw [quiet.tcp] at established ⊢
    obtain ⟨position, bound, seq⟩ := law.established established
    exact ⟨position, by rwa [total], by rw [seq, step.number]⟩
  · intro established covers
    rw [quiet.tcp] at established ⊢
    rw [law.current established ((step.current.mp covers).2 ignored), total, step.number]
  · rw [quiet.tcp]
    exact step.within law.within
  · intro open_
    rw [Open, quiet.tcp] at open_
    have earlier := (law.unfinished open_).mono fun frame kept => And.intro kept.1 (step.within kept.2)
    exact earlier.trans (silent.mono fun frame impossible => impossible.elim)
  · exact (law.keeps_placed step).trans (silent.mono fun frame impossible => impossible.elim)

/-- The peer acknowledges a position that we have sent. -/
theorem Honest.position (honest : a.Honest .poll) (takes : a.stack.incoming = some input)
    (noRst : ¬input.has tcpFlagRst) :
    ∃ position ≤ a.total + (if a.stack.tcp.state = .finWait then 1 else 0), input.rxAck = a.number position := by
  obtain ⟨⟨other, tcpAt⟩, arrives, rfl⟩ := Option.map_eq_some_iff.mp takes
  exact honest other tcpAt arrives noRst

/-- The law behind a segment whose number is stored. -/
theorem Law.stored (law : Law start a) (step : Step .poll a b) (takes : a.stack.incoming = some input)
    (stores : a.stack.Stores input) (honest : a.Honest .poll) (inPlace : a.InPlace .poll)
    (seq : b.stack.tcp.seq = input.rxAck)
    (state : b.stack.tcp.state = .established ∧ a.stack.tcp.state ≠ .finWait ∧
        (a.stack.Listening → ¬input.has tcpFlagFin) ∨
      b.stack.tcp.state = .finWait ∨ b.stack.tcp.state = .closedDone)
    (sends : Sends (Replies a.stack input) a.stack b.stack) : Law start b := by
  have total : b.total = a.total := step.sending.total
  obtain ⟨position, bound, ack⟩ := honest.position takes stores.1
  have within : a.Within input.rxAck := by
    rw [ack]
    refine number_within (Nat.le_trans bound (Nat.add_le_add_left ?_ _))
    split <;> decide
  have placed : Sends b.Placed a.stack b.stack := by
    refine sends.mono fun frame replies => ⟨fun fin => ?_, ?_⟩
    · have listening := replies.fin fin
      have carried : input.has tcpFlagFin := by
        by_contra none
        exact answers_noFin none replies.answers fin
      rw [replies.seqNo, inPlace input takes stores.1 listening carried, total, step.number]
    · rw [replies.seqNo]
      exact step.within within
  constructor
  · intro waiting
    rcases state with ⟨after, -⟩ | after | after
    all_goals
      rw [after] at waiting
      cases waiting
  · intro established
    rcases state with ⟨-, open_, -⟩ | after | after
    · rw [if_neg open_] at bound
      exact ⟨position, by rwa [total], by rw [seq, ack, step.number]⟩
    all_goals
      rw [after] at established
      cases established
  · intro established covers
    rw [seq, (step.current.mp covers).1 input takes stores, total, step.number]
  · rw [seq]
    exact step.within within
  · intro open_
    rcases state with ⟨-, notFin, noFin⟩ | after | after
    · have before : a.Open := by
        rcases stores.2 with ⟨waiting, -⟩ | ⟨listening, -⟩
        · exact Or.inl waiting
        · exact Or.inr (listening.resolve_right notFin)
      have earlier := (law.unfinished before).mono fun frame kept => And.intro kept.1 (step.within kept.2)
      refine earlier.trans (sends.mono fun frame replies => ⟨fun fin => ?_, ?_⟩)
      · exact answers_noFin (noFin (replies.fin fin)) replies.answers fin
      · rw [replies.seqNo]
        exact step.within within
    all_goals simp [Open, after] at open_
  · exact (law.keeps_placed step).trans placed

/-- A reset ends the connection and sends nothing. -/
theorem Law.reset (law : Law start a) (step : Step .poll a b) {t : NetStack} (quiet : TcpQuiet a.stack t)
    (aborted : b.stack = t.abortTcp) : Law start b := by
  have closed : b.stack.tcp.state = .closed := by rw [aborted]; rfl
  have seq : b.stack.tcp.seq = a.stack.tcp.seq := by rw [aborted, ← quiet.tcp]; rfl
  have silent : Sends (fun _ => False) a.stack b.stack := by
    rw [aborted]
    exact quiet.sends.trans (Sends.of_same rfl)
  exact
    { waiting := fun waiting => by rw [closed] at waiting; cases waiting
      established := fun established => by rw [closed] at established; cases established
      current := fun established => by rw [closed] at established; cases established
      within := by rw [seq]; exact step.within law.within
      unfinished := fun open_ => by simp [Open, closed] at open_
      placed := (law.keeps_placed step).trans (silent.mono fun frame impossible => impossible.elim) }

/-- A poll keeps the law when the segment that it takes is honest and a FIN has its place. -/
theorem poll_law (step : Step .poll a b) (honest : a.Honest .poll) (inPlace : a.InPlace .poll) (law : Law start a) :
    Law start b := by
  rcases poll_replies step.sending.moved with ⟨nothing, quiet⟩ | ⟨input, tcpAt, t, takes, quiet, reaction, sends⟩
  · refine law.quiet step quiet fun input takes => ?_
    rw [nothing] at takes
    cases takes
  · have listens : t.Listening ↔ a.stack.Listening := by rw [Listening, quiet.tcp, Listening]
    have replies : Sends (Replies a.stack input) a.stack b.stack := sends.mono fun frame reply =>
      { answers := reply.answers, seqNo := reply.seqNo, fin := fun fin => listens.mp (reply.fin fin) }
    cases reaction with
    | reset rst aborted => exact law.reset step quiet aborted
    | establish noRst waiting synAck established =>
      rw [quiet.tcp] at waiting
      have notFin : a.stack.tcp.state ≠ .finWait := by rw [waiting]; decide
      refine law.stored step takes ⟨noRst, Or.inl ⟨waiting, synAck⟩⟩ honest inPlace established.seq
        (Or.inl ⟨established.state, notFin, fun listening => ?_⟩) replies
      simp [Listening, waiting] at listening
    | take noRst listening carries taken =>
      have here := listens.mp listening
      refine law.stored step takes ⟨noRst, Or.inr ⟨here, carries⟩⟩ honest inPlace taken.seq ?_ replies
      rw [taken.state]
      split
      · exact Or.inr (Or.inr rfl)
      · rename_i noFin
        rw [quiet.tcp]
        rcases here with established | waits
        · exact Or.inl ⟨established, by rw [established]; decide, fun _ => noFin⟩
        · exact Or.inr (Or.inl waits)
    | ignore noRst notSynAck nothing unchanged =>
      subst unchanged
      refine law.quiet step quiet fun other takes' stores => ?_
      obtain rfl := Option.some.inj (takes.symm.trans takes')
      rcases stores.2 with waiting | listening
      · exact notSynAck (by rwa [quiet.tcp])
      · exact nothing ⟨listens.mpr listening.1, listening.2⟩

theorem Step.law (step : Step move a b) (honest : a.Honest move) (inPlace : a.InPlace move) (law : Law start a) :
    Law start b := by
  cases move with
  | poll => exact poll_law step honest inPlace law
  | call own => exact call_law step inPlace law

theorem Run.law (run : Run (fun a move => a.Honest move ∧ a.InPlace move) a b) (law : Law start a) : Law start b := by
  induction run with
  | refl => exact law
  | tail _ step ih =>
      obtain ⟨move, ⟨honest, inPlace⟩, step⟩ := step
      exact step.law honest inPlace ih

/-- In every run of one connection whose segments are honest and whose FINs have their place, every FIN carries
the number behind the bytes passed to `tcp_send`, and no segment a number beyond the next. -/
theorem one_fin_position (opened : start.Opened)
    (run : Run (fun a move => a.Honest move ∧ a.InPlace move) start a) :
    Sends a.Placed start.stack a.stack :=
  (run.law opened.law).placed

end Closing

namespace Scenario
open Closing

/-- A FIN of the peer that acknowledges our SYN, and one that acknowledges our FIN as well. -/
def finOfPeer : SegmentFrame := segmentFrom remoteIp 80 tcpFlagFinAck 1001 (iss + 1) [] noData_fits
def finBehindOurs : SegmentFrame := segmentFrom remoteIp 80 tcpFlagFinAck 1001 (iss + 2) [] noData_fits

def finOfPeerFrame : RxFrame := { bytes := finOfPeer.bytes, fits := by decide }
def finBehindOursFrame : RxFrame := { bytes := finBehindOurs.bytes, fits := by decide }

/-- The peer closes a connection on which nothing was sent. -/
def passive₀ : NetStack := (opened [.frame synAckFrame, .frame finOfPeerFrame]).get (by decide +kernel)
def passive₁ : NetStack := passive₀.poll.get (by decide +kernel)
def passive₂ : NetStack := passive₁.poll.get (by decide +kernel)

/-- `tcp_close` sends a FIN, and the peer answers it with its own. -/
def active₀ : NetStack := (opened [.frame synAckFrame, .frame finBehindOursFrame]).get (by decide +kernel)
def active₁ : NetStack := active₀.poll.get (by decide +kernel)
def active₂ : NetStack := (Call.run .closeStart active₁).get (by decide +kernel)
def active₃ : NetStack := active₂.poll.get (by decide +kernel)

def closing (stack : NetStack) : Closing := { stack, iss, total := 0, current := False }

theorem closing_opened {receive : List Receive} {s : NetStack} (done : opened receive = some s)
    (seq : s.tcp.seq = iss) : (closing s).Opened := by
  obtain ⟨before, -, open_⟩ := opened_eq done
  exact ⟨before, remoteIp, 80, open_, seq.symm, rfl⟩

def passiveRun₁ : Closing := (closing passive₀).next .poll passive₁
def passiveRun₂ : Closing := passiveRun₁.next .poll passive₂

def activeRun₁ : Closing := (closing active₀).next .poll active₁
def activeRun₂ : Closing := activeRun₁.next (.call .closeStart) active₂
def activeRun₃ : Closing := activeRun₂.next .poll active₃

/-- The segment that the next poll takes acknowledges a position. -/
theorem honest_of_incoming {a : Closing} (position : Nat)
    (acks : a.stack.incoming.map (·.rxAck) = some (a.number position))
    (bound : position ≤ a.total + if a.stack.tcp.state = .finWait then 1 else 0) : a.Honest .poll := by
  intro input tcpAt brought _
  refine ⟨position, bound, ?_⟩
  rw [NetStack.incoming, brought] at acks
  exact Option.some.inj acks

theorem passive_run : Run (fun a move => a.Honest move ∧ a.InPlace move) (closing passive₀) passiveRun₂ := by
  have deaf : ¬passive₀.Listening := by decide +kernel
  have first : Run (fun a move => a.Honest move ∧ a.InPlace move) (closing passive₀) passiveRun₁ :=
    Run.extend ReflTransGen.refl (step_next (Option.some_get _).symm)
      ⟨honest_of_incoming 0 (by decide +kernel) (Nat.zero_le _),
        fun _ _ _ listening => absurd listening deaf⟩
  refine first.extend (step_next (Option.some_get _).symm)
    ⟨honest_of_incoming 0 (by decide +kernel) (Nat.zero_le _), fun input takes _ _ _ => ?_⟩
  have ack : passive₁.incoming.map (·.rxAck) = some (passiveRun₁.number passiveRun₁.total) := by decide +kernel
  have here : passive₁.incoming = some input := takes
  rw [here] at ack
  exact Option.some.inj ack

theorem active_run : Run Honest (closing active₀) activeRun₃ := by
  have first : Run Honest (closing active₀) activeRun₁ :=
    Run.extend ReflTransGen.refl (step_next (Option.some_get _).symm)
      (honest_of_incoming 0 (by decide +kernel) (Nat.zero_le _))
  have second : Run Honest (closing active₀) activeRun₂ := first.extend (step_next (Option.some_get _).symm) trivial
  exact second.extend (step_next (Option.some_get _).symm)
    (honest_of_incoming 1 (by decide +kernel) (by decide +kernel))

end Scenario

namespace Closing
open Scenario

/-- A passive close. -/
theorem one_fin_position_passive : Sends passiveRun₂.Placed (closing passive₀).stack passiveRun₂.stack :=
  one_fin_position (closing_opened (Option.some_get _).symm (by decide +kernel)) passive_run

/-- An active close sends a second FIN behind the first. -/
theorem active_close_moves_fin : ¬∀ start a : Closing, start.Opened → Run Honest start a →
    Sends a.Placed start.stack a.stack := by
  intro law
  obtain ⟨frames, sent, placed⟩ := law (closing active₀) activeRun₃
    (closing_opened (Option.some_get _).symm (by decide +kernel)) active_run
  have since : frames = activeRun₃.stack.sent.drop (closing active₀).stack.sent.length := by
    rw [sent, List.drop_left]
  have misplaced : ∃ frame ∈ activeRun₃.stack.sent.drop (closing active₀).stack.sent.length, IsTcpFrame frame ∧
      FrameHas tcpFlagFin frame ∧ frameSeqNo frame ≠ activeRun₃.number activeRun₃.total := by decide +kernel
  rw [← since] at misplaced
  obtain ⟨frame, member, segment, fin, elsewhere⟩ := misplaced
  exact elsewhere ((placed frame member segment).1 fin)

end Closing
end UefiNetstack
