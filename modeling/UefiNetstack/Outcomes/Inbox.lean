import UefiNetstack.Http.Response
import UefiNetstack.Lib.Search
import UefiNetstack.Reception.Taken

namespace UefiNetstack
open Constants Search

/-- What Receive holds for a stack: the page and the answers to come. -/
structure Inbox where
  page : RxPkt
  answers : List Receive

namespace Inbox

/-- The page with the frame of the next answer on it. -/
def arrival (inbox : Inbox) : Option RxPkt :=
  match inbox.answers.headD .notReady with
  | .frame frame => some (inbox.page.receive frame)
  | .notReady => none
  | .error => none

/-- Behind the next answer the page is the one that arrived. -/
def next (inbox : Inbox) : Inbox where
  page := inbox.arrival.getD inbox.page
  answers := inbox.answers.tail

/-- The next answer brings a page of a kind. -/
def Brings (wanted : RxPkt → Prop) (inbox : Inbox) : Prop := ∃ page, inbox.arrival = some page ∧ wanted page

variable {inbox : Inbox} {page : RxPkt} {wanted : RxPkt → Prop}

theorem brings_iff (arrives : inbox.arrival = some page) : inbox.Brings wanted ↔ wanted page := by
  constructor
  · rintro ⟨other, same, here⟩
    obtain rfl := Option.some.inj (arrives.symm.trans same)
    exact here
  · exact fun here => ⟨page, arrives, here⟩

/-- The first page of a kind comes with an answer. What comes behind it is left. -/
structure Finds (before : Inbox) (wanted : RxPkt → Prop) (i : ℕ) (page : RxPkt) (after : Inbox) : Prop where
  first : FirstHit next (Brings wanted) i before
  arrives : (next^[i] before).arrival = some page
  left : after = next^[i + 1] before

/-- No page of a kind comes in time. -/
structure Misses (before : Inbox) (wanted : RxPkt → Prop) (rounds : ℕ) (after : Inbox) : Prop where
  misses : ∀ i < rounds, ¬(next^[i] before).Brings wanted
  left : after = next^[rounds] before

theorem Finds.of_kind {before after : Inbox} {i : ℕ} (finds : before.Finds wanted i page after) : wanted page :=
  (brings_iff finds.arrives).mp finds.first.hits

/-- A call has success with the first page of a kind, if it comes in time. -/
inductive Decided (wanted : RxPkt → Prop) (rounds : ℕ) (before after : Inbox) : EfiStatus → Prop
  | success (i : ℕ) (inside : i < rounds) (page : RxPkt) (finds : before.Finds wanted i page after) :
      Decided wanted rounds before after .success
  | timeout (misses : before.Misses wanted rounds after) : Decided wanted rounds before after .timeout

theorem not_brings (nothing : inbox.arrival = none) : ¬inbox.Brings wanted := by
  rintro ⟨page, arrives, -⟩
  rw [nothing] at arrives
  cases arrives

end Inbox

/-- What a receive call returns: its status and some bytes in the buffer. -/
structure Received.Is (received : Received) (status : EfiStatus) (buffer : Memory) (data : Bytes) : Prop where
  status : received.status = status
  actualLen : received.actualLen = BitVec.ofNat 64 data.length
  buffer : received.buffer = buffer.write 0 data

namespace NetStack

variable {s s' : NetStack} {done : NetStack → Bool} {request : NetStack → Option NetStack}
  {micros loops timeout : ℕ} {frame : RxFrame}

def inbox (s : NetStack) : Inbox where
  page := s.rxPkt
  answers := s.snp.receive

theorem arrival_frame (answer : s.nextReceive = .frame frame) :
    s.inbox.arrival = some (s.received.landed frame).rxPkt := by
  have head : s.snp.receive.headD .notReady = .frame frame := answer
  simp only [Inbox.arrival, inbox, head]
  rfl

theorem arrival_notReady (answer : s.nextReceive = .notReady) : s.inbox.arrival = none := by
  have head : s.snp.receive.headD .notReady = .notReady := answer
  simp only [Inbox.arrival, inbox, head]

theorem arrival_error (answer : s.nextReceive = .error) : s.inbox.arrival = none := by
  have head : s.snp.receive.headD .notReady = .error := answer
  simp only [Inbox.arrival, inbox, head]

/-- A poll handles the page that arrives, or nothing arrives and no variable changes. -/
inductive PollArrival (s s' : NetStack) : Prop
  | page (frame : RxFrame) (arrives : s.inbox.arrival = some (s.received.landed frame).rxPkt)
      (handled : (s.received.landed frame).dispatch = some s')
  | nothing (silent : s.inbox.arrival = none) (trace : List Event) (snp : Snp) (same : s' = { s with trace, snp })

theorem poll_arrival (polled : s.poll = some s') : PollArrival s s' := by
  cases poll_branch polled with
  | handle frame answer handled => exact .page frame (arrival_frame answer) handled
  | wait answer waited => exact .nothing (arrival_notReady answer) _ _ waited
  | reset answer recovered => exact .nothing (arrival_error answer) _ _ recovered

/-- Handlers leave the page as it arrived. -/
theorem dispatch_rxPkt (done : s.dispatch = some s') : s'.rxPkt = s.rxPkt := by
  refine @dispatch_keeps s s' (fun s s' => s'.rxPkt = s.rxPkt) (fun first second => second.trans first) ?_ ?_ ?_ ?_ done
  · exact fun _ _ _ _ _ _ _ _ _ => rfl
  · exact fun s frame => (sendFrame_keepsResolver frame s).rxPkt
  · exact fun _ _ _ => rfl
  · exact fun _ _ => rfl

/-- A poll takes one answer. -/
theorem poll_inbox (polled : s.poll = some s') : s'.inbox = s.inbox.next := by
  have answers := poll_receive polled
  have page : s'.rxPkt = s.inbox.arrival.getD s.rxPkt := by
    cases poll_arrival polled with
    | page frame arrives handled => rw [arrives, dispatch_rxPkt handled, Option.getD_some]
    | nothing silent trace snp same => rw [silent, same, Option.getD_none]
  unfold inbox Inbox.next
  rw [page, answers]
  rfl

theorem sendFrame_inbox (frame : TxFrame) (s : NetStack) : (s.sendFrame frame).inbox = s.inbox := by
  unfold inbox
  rw [(sendFrame_keepsResolver frame s).rxPkt, sendFrame_receive]

/-- A round of a wait. -/
def Polls (micros : ℕ) (s s' : NetStack) : Prop := ∃ polled, s.poll = some polled ∧ s' = polled.stall micros

/-- A round of a wait that may start with a request. -/
def AsksAndPolls (request : NetStack → Option NetStack) (s s' : NetStack) : Prop :=
  ∃ asked, (asked = s ∨ request s = some asked) ∧ Polls stall1ms asked s'

theorem Polls.inbox (polls : Polls micros s s') : s'.inbox = s.inbox.next := by
  obtain ⟨polled, poll, rfl⟩ := polls
  have taken : (polled.stall micros).inbox = polled.inbox := rfl
  rw [taken, poll_inbox poll]

theorem waitLoop_ends (ended : waitLoop done micros loops s = some s') :
    Ends (Polls micros) (fun s => done s = true) loops s s' := by
  induction loops generalizing s with
  | zero =>
      obtain rfl := Option.some.inj ended
      exact .out s
  | succ loops ih =>
      rw [waitLoop] at ended
      split at ended
      · rename_i halts
        obtain rfl := Option.some.inj ended
        exact .stopped halts
      · rename_i waits
        obtain ⟨polled, first, rest⟩ := Option.bind_eq_some_iff.mp ended
        exact .next waits ⟨polled, first, rfl⟩ (ih rest)

theorem requestLoop_ends (ended : requestLoop done request loops timeout s = some s') :
    Ends (AsksAndPolls request) (fun s => done s = true) loops s s' := by
  induction loops generalizing s timeout with
  | zero =>
      obtain rfl := Option.some.inj ended
      exact .out s
  | succ loops ih =>
      rw [requestLoop] at ended
      split at ended
      · rename_i halts
        obtain rfl := Option.some.inj ended
        exact .stopped halts
      · rename_i waits
        obtain ⟨asked, due, rest⟩ := Option.bind_eq_some_iff.mp ended
        obtain ⟨polled, first, rest⟩ := Option.bind_eq_some_iff.mp rest
        have asks : asked = s ∨ request s = some asked := by
          unfold requestDue at due
          split at due
          · exact Or.inr due
          · exact Or.inl (Option.some.inj due).symm
        exact .next waits ⟨asked, asks, polled, first, rfl⟩ (ih rest)

/-- A loop that waits for a page of a kind. Its end and its invariant are about other variables than the page, the
trace and the firmware. -/
structure Searches (done : NetStack → Bool) (holds : NetStack → Prop) (wanted : RxPkt → Prop) : Prop where
  done_same : ∀ (s : NetStack) (rxPkt : RxPkt) (trace : List Event) (snp : Snp),
    done { s with rxPkt, trace, snp } = done s
  holds_same : ∀ (s : NetStack) (rxPkt : RxPkt) (trace : List Event) (snp : Snp),
    holds s → holds { s with rxPkt, trace, snp }
  hits : ∀ {s s' : NetStack}, holds s → done s = false → s.dispatch = some s' → (done s' = true ↔ wanted s.rxPkt)
  keeps : ∀ {s s' : NetStack}, holds s → done s = false → s.dispatch = some s' → done s' = false → holds s'

/-- How a loop ends: with the handler on the first page of its kind, or without such a page. -/
inductive Outcome (done : NetStack → Bool) (holds : NetStack → Prop) (wanted : RxPkt → Prop) (micros loops : ℕ)
    (s s' : NetStack) : Prop
  | found (i : ℕ) (inside : i < loops) (last polled : NetStack) (finds : s.inbox.Finds wanted i last.rxPkt s'.inbox)
      (held : holds last) (waits : done last = false) (handled : last.dispatch = some polled)
      (ended : s' = polled.stall micros)
  | missed (misses : s.inbox.Misses wanted loops s'.inbox) (held : holds s') (waits : done s' = false)

namespace Searches

variable {holds : NetStack → Prop} {wanted : RxPkt → Prop} (searches : Searches done holds wanted)

include searches

/-- A poll under the invariant is done exactly with a page of the kind. -/
theorem poll (held : holds s) (waits : done s = false) (polled : s.poll = some s') :
    (done s' = true ↔ s.inbox.Brings wanted) ∧ (done s' = false → holds s') := by
  cases poll_arrival polled with
  | page frame arrives handled =>
      have landed : holds (s.received.landed frame) := searches.holds_same s _ _ _ held
      have pending : done (s.received.landed frame) = false := (searches.done_same s _ _ _).trans waits
      rw [Inbox.brings_iff arrives]
      exact ⟨searches.hits landed pending handled, searches.keeps landed pending handled⟩
  | nothing silent trace snp same =>
      subst same
      have kept : holds { s with trace, snp } := searches.holds_same s s.rxPkt trace snp held
      have open_ : done { s with trace, snp } = false := (searches.done_same s s.rxPkt trace snp).trans waits
      refine ⟨iff_of_false ?_ (Inbox.not_brings silent), fun _ => kept⟩
      rw [open_]
      exact Bool.false_ne_true

/-- The last poll of a search has the page on which it ends. -/
theorem poll_found (held : holds s) (waits : done s = false) (polled : s.poll = some s') (ended : done s' = true) :
    ∃ last : NetStack, s.inbox.arrival = some last.rxPkt ∧ holds last ∧ done last = false ∧ last.dispatch = some s' := by
  cases poll_arrival polled with
  | page frame arrives handled =>
      exact ⟨_, arrives, searches.holds_same s _ _ _ held, (searches.done_same s _ _ _).trans waits, handled⟩
  | nothing silent trace snp same =>
      have still : done s' = done s := same ▸ searches.done_same s s.rxPkt trace snp
      rw [still, waits] at ended
      cases ended

/-- Rounds read one answer each, where the request of a round keeps what the loop waits for. -/
theorem reads {round : NetStack → NetStack → Prop}
    (asks : ∀ {s s'}, holds s → done s = false → round s s' →
      ∃ asked, holds asked ∧ done asked = false ∧ asked.inbox = s.inbox ∧ Polls micros asked s') :
    Reads round (fun s => done s = true) inbox Inbox.next (Inbox.Brings wanted) holds := by
  constructor
  · intro s s' held waits first
    obtain ⟨asked, -, -, same, polls⟩ := asks held (Bool.eq_false_iff.mpr waits) first
    rw [polls.inbox, same]
  · intro s s' held waits first
    obtain ⟨asked, held, waits, same, polled, poll, rfl⟩ := asks held (Bool.eq_false_iff.mpr waits) first
    rw [← same, ← (searches.poll held waits poll).1]
    exact iff_of_eq (congrArg (· = true) (searches.done_same polled polled.rxPkt _ polled.snp))
  · intro s s' held waits first open_
    obtain ⟨asked, held, waits, -, polled, poll, rfl⟩ := asks held (Bool.eq_false_iff.mpr waits) first
    have pending : done polled = false :=
      (searches.done_same polled polled.rxPkt _ polled.snp).symm.trans (Bool.eq_false_iff.mpr open_)
    exact searches.holds_same polled polled.rxPkt _ polled.snp ((searches.poll held waits poll).2 pending)

theorem outcome {round : NetStack → NetStack → Prop}
    (asks : ∀ {s s'}, holds s → done s = false → round s s' →
      ∃ asked, holds asked ∧ done asked = false ∧ asked.inbox = s.inbox ∧ Polls micros asked s')
    (start : holds s) (waits : done s = false) (ends : Ends round (fun s => done s = true) loops s s') :
    Outcome done holds wanted micros loops s s' := by
  rcases (searches.reads asks).ends_cases start (Bool.eq_false_iff.mp waits) ends with ⟨i, inside, found⟩ | missed
  · obtain ⟨before, held, open_, seen, last⟩ := found.last
    obtain ⟨asked, held, pending, same, polled, poll, rfl⟩ := asks held (Bool.eq_false_iff.mpr open_) last
    have ended : done polled = true := (searches.done_same polled polled.rxPkt _ polled.snp).symm.trans found.ended
    obtain ⟨last, arrives, held, pending, handled⟩ := searches.poll_found held pending poll ended
    rw [same, seen] at arrives
    exact .found i inside last polled ⟨found.first, arrives, found.left⟩ held pending handled rfl
  · exact .missed ⟨missed.misses, missed.left⟩ missed.kept (Bool.eq_false_iff.mpr missed.waits)

/-- A wait is a search. -/
theorem wait (start : holds s) (waits : done s = false) (ended : waitLoop done micros loops s = some s') :
    Outcome done holds wanted micros loops s s' :=
  searches.outcome (fun {s _} held waits polls => ⟨s, held, waits, rfl, polls⟩) start waits (waitLoop_ends ended)

/-- A request loop is a search as well. -/
theorem ask
    (requests : ∀ {s s'}, holds s → done s = false → request s = some s' →
      holds s' ∧ done s' = false ∧ s'.inbox = s.inbox)
    (start : holds s) (waits : done s = false) (ended : requestLoop done request loops timeout s = some s') :
    Outcome done holds wanted stall1ms loops s s' := by
  refine searches.outcome ?_ start waits (requestLoop_ends ended)
  rintro s s' held waits ⟨asked, rfl | sent, polls⟩
  · exact ⟨asked, held, waits, rfl, polls⟩
  · obtain ⟨kept, pending, same⟩ := requests held waits sent
    exact ⟨asked, kept, pending, same, polls⟩

end Searches
end NetStack
end UefiNetstack
