import UefiNetstack.Core.Poll

namespace UefiNetstack
open Constants

namespace NetStack

/-- Each iteration polls once and stalls. -/
def waitLoop (done : NetStack → Bool) (micros : Nat) : Nat → NetStack → Option NetStack
  | 0, s => some s
  | loops + 1, s =>
    if done s then some s
    else do
      let s ← s.poll
      waitLoop done micros loops (s.stall micros)

/-- A request is sent when the countdown is zero. -/
def requestDue (request : NetStack → Option NetStack) (timeout : Nat) (s : NetStack) : Option NetStack :=
  if timeout = 0 then request s else some s

/-- Each iteration sends the request when it is due, polls once, stalls for a millisecond and counts
down. -/
def requestLoop (done : NetStack → Bool) (request : NetStack → Option NetStack) :
    Nat → Nat → NetStack → Option NetStack
  | 0, _, s => some s
  | loops + 1, timeout, s =>
    if done s then some s
    else do
      let s ← requestDue request timeout s
      let timeout := if timeout = 0 then timeoutRetransmit else timeout
      let s ← s.poll
      requestLoop done request loops (timeout - 1) (s.stall stall1ms)

variable {P : NetStack → Prop} {done : NetStack → Bool} {s s' : NetStack}

theorem waitLoop_done (micros loops : Nat) (ended : done s = true) : waitLoop done micros loops s = some s := by
  cases loops with
  | zero => rfl
  | succ loops => rw [waitLoop, if_pos ended]

/-- An iteration polls and goes on behind its stall. -/
theorem waitLoop_poll {micros : Nat} (loops : Nat) (open_ : done s = false) (polled : s.poll = some s') :
    waitLoop done micros (loops + 1) s = waitLoop done micros loops (s'.stall micros) := by
  rw [waitLoop, if_neg (Bool.eq_false_iff.mp open_), polled]
  rfl

/-- The first iterations are followed by the others. -/
theorem waitLoop_add (done : NetStack → Bool) (micros first second : Nat) (s : NetStack) :
    waitLoop done micros (first + second) s =
      (waitLoop done micros first s).bind (waitLoop done micros second) := by
  induction first generalizing s with
  | zero => rw [Nat.zero_add]; rfl
  | succ first ih =>
      rw [Nat.succ_add, waitLoop, waitLoop]
      by_cases ended : done s
      · rw [if_pos ended, if_pos ended, Option.bind_some, waitLoop_done micros second ended]
      · rw [if_neg ended, if_neg ended]
        cases s.poll with
        | none => rfl
        | some polled => exact ih (polled.stall micros)

/-- A wait ends with the poll that completes it. -/
theorem waitLoop_completes {micros rounds loops : Nat} {waiting polled : NetStack} (before : rounds < loops)
    (wait : waitLoop done micros rounds s = some waiting) (open_ : done waiting = false)
    (poll : waiting.poll = some polled) (completes : done (polled.stall micros) = true) :
    waitLoop done micros loops s = some (polled.stall micros) := by
  obtain ⟨rest, rfl⟩ := Nat.exists_eq_add_of_lt before
  rw [Nat.add_assoc, waitLoop_add, wait, Option.bind_some, waitLoop_poll rest open_ poll]
  exact waitLoop_done micros rest completes

/-- What polls and stalls keep, a wait loop keeps. -/
theorem waitLoop_keeps {micros : Nat} (polls : ∀ s s', P s → done s = false → s.poll = some s' → P s')
    (stalls : ∀ s, P s → P (s.stall micros)) {loops : Nat} (start : P s)
    (ended : waitLoop done micros loops s = some s') : P s' := by
  induction loops generalizing s with
  | zero =>
      obtain rfl := Option.some.inj ended
      exact start
  | succ loops ih =>
      rw [waitLoop] at ended
      split at ended
      · obtain rfl := Option.some.inj ended
        exact start
      · rename_i waiting
        obtain ⟨polled, first, rest⟩ := Option.bind_eq_some_iff.mp ended
        exact ih (stalls polled (polls s polled start (Bool.eq_false_iff.mpr waiting) first)) rest

/-- The stacks that poll in a wait loop, in order. -/
def waitPolls (done : NetStack → Bool) (micros : Nat) : Nat → NetStack → List NetStack
  | 0, _ => []
  | loops + 1, s =>
    if done s then []
    else
      s ::
        match s.poll with
        | none => []
        | some polled => waitPolls done micros loops (polled.stall micros)

theorem waitPolls_done (micros loops : Nat) (ended : done s = true) : waitPolls done micros loops s = [] := by
  cases loops with
  | zero => rfl
  | succ loops => rw [waitPolls, if_pos ended]

/-- An iteration that returns polls once and goes on behind its stall. -/
theorem waitLoop_step {micros loops : Nat} (open_ : done s = false)
    (ended : waitLoop done micros (loops + 1) s = some s') :
    ∃ polled, s.poll = some polled ∧ waitLoop done micros loops (polled.stall micros) = some s' ∧
      waitPolls done micros (loops + 1) s = s :: waitPolls done micros loops (polled.stall micros) := by
  have waiting : ¬done s = true := Bool.eq_false_iff.mp open_
  rw [waitLoop, if_neg waiting] at ended
  obtain ⟨polled, first, rest⟩ := Option.bind_eq_some_iff.mp ended
  refine ⟨polled, first, rest, ?_⟩
  rw [waitPolls, if_neg waiting, first]

/-- What polls with their stalls keep holds at every poll of a wait. -/
theorem waitPolls_keeps {micros loops : Nat} (start : P s)
    (polls : ∀ s s', P s → done s = false → s.poll = some s' → done (s'.stall micros) = false → P (s'.stall micros)) :
    ∀ polling ∈ waitPolls done micros loops s, P polling ∧ done polling = false := by
  induction loops generalizing s with
  | zero => intro polling member; cases member
  | succ loops ih =>
      rw [waitPolls]
      split
      · intro polling member
        cases member
      · rename_i waiting
        have open_ := Bool.eq_false_iff.mpr waiting
        intro polling member
        rcases List.mem_cons.mp member with rfl | member
        · exact ⟨start, open_⟩
        · cases first : s.poll with
          | none =>
              rw [first] at member
              cases member
          | some polled =>
              rw [first] at member
              dsimp only at member
              cases halts : done (polled.stall micros) with
              | true =>
                  rw [waitPolls_done _ _ halts] at member
                  cases member
              | false => exact ih (polls s polled start open_ first halts) polling member

/-- A wait that ends done ends with its last poll. -/
theorem waitLoop_last {micros loops : Nat} (open_ : done s = false) (ended : waitLoop done micros loops s = some s')
    (closed : done s' = true) : ∃ polling ∈ waitPolls done micros loops s, ∃ polled,
      polling.poll = some polled ∧ s' = polled.stall micros := by
  induction loops generalizing s with
  | zero =>
      obtain rfl := Option.some.inj ended
      rw [open_] at closed
      cases closed
  | succ loops ih =>
      obtain ⟨polled, first, rest, polls⟩ := waitLoop_step open_ ended
      rw [polls]
      cases halts : done (polled.stall micros) with
      | true =>
          rw [waitLoop_done _ _ halts] at rest
          exact ⟨s, List.mem_cons_self, polled, first, (Option.some.inj rest).symm⟩
      | false =>
          obtain ⟨polling, member, found⟩ := ih halts rest
          exact ⟨polling, List.mem_cons_of_mem _ member, found⟩

/-- A poll that completes a wait is its last and gives its result. -/
theorem waitPolls_completes {micros loops : Nat} {polling polled : NetStack}
    (member : polling ∈ waitPolls done micros loops s) (poll : polling.poll = some polled)
    (completes : done (polled.stall micros) = true) :
    waitLoop done micros loops s = some (polled.stall micros) ∧
      (waitPolls done micros loops s).getLast? = some polling := by
  induction loops generalizing s with
  | zero => cases member
  | succ loops ih =>
      rw [waitPolls] at member
      by_cases ended : done s
      · rw [if_pos ended] at member
        cases member
      · rw [if_neg ended] at member
        rw [waitLoop, if_neg ended, waitPolls, if_neg ended]
        rcases List.mem_cons.mp member with rfl | member
        · rw [poll]
          refine ⟨waitLoop_done _ _ completes, ?_⟩
          dsimp only
          rw [waitPolls_done _ _ completes]
          rfl
        · cases next : s.poll with
          | none =>
              rw [next] at member
              cases member
          | some middle =>
              rw [next] at member
              obtain ⟨result, last⟩ := ih member
              refine ⟨result, ?_⟩
              dsimp only
              rw [List.getLast?_cons, last]
              rfl

/-- What requests, polls and stalls keep, a request loop keeps. Each request is made before it is done. -/
theorem requestLoop_keeps {request : NetStack → Option NetStack}
    (requests : ∀ s s', P s → done s = false → request s = some s' → P s' ∧ done s' = false)
    (polls : ∀ s s', P s → done s = false → s.poll = some s' → P s') (stalls : ∀ s, P s → P (s.stall stall1ms))
    {loops timeout : Nat} (start : P s) (ended : requestLoop done request loops timeout s = some s') : P s' := by
  induction loops generalizing s timeout with
  | zero =>
      obtain rfl := Option.some.inj ended
      exact start
  | succ loops ih =>
      rw [requestLoop] at ended
      split at ended
      · obtain rfl := Option.some.inj ended
        exact start
      · rename_i waiting
        have open_ := Bool.eq_false_iff.mpr waiting
        obtain ⟨asked, due, rest⟩ := Option.bind_eq_some_iff.mp ended
        obtain ⟨polled, second, rest⟩ := Option.bind_eq_some_iff.mp rest
        have first : P asked ∧ done asked = false := by
          unfold requestDue at due
          split at due
          · exact requests s asked start open_ due
          · obtain rfl := Option.some.inj due
            exact ⟨start, open_⟩
        exact ih (stalls polled (polls asked polled first.1 first.2 second)) rest

/-- A poll of a request loop: the stack after the latest request and the stack that polls. -/
structure LoopPoll where
  asked : NetStack
  stack : NetStack

/-- The polls that a request loop makes, in order. -/
def requestPolls (done : NetStack → Bool) (request : NetStack → Option NetStack) :
    Nat → Nat → NetStack → NetStack → List LoopPoll
  | 0, _, _, _ => []
  | loops + 1, timeout, asked, s =>
    if done s then []
    else
      match requestDue request timeout s with
      | none => []
      | some due =>
        let asked := if timeout = 0 then due else asked
        let timeout := if timeout = 0 then timeoutRetransmit else timeout
        { asked, stack := due } ::
          match due.poll with
          | none => []
          | some polled => requestPolls done request loops (timeout - 1) asked (polled.stall stall1ms)

variable {request : NetStack → Option NetStack} {asked : NetStack} {loops timeout : Nat}

theorem requestLoop_done (loops timeout : Nat) (ended : done s = true) :
    requestLoop done request loops timeout s = some s := by
  cases loops with
  | zero => rfl
  | succ loops => rw [requestLoop, if_pos ended]

/-- A loop that ends done ends with one of its polls. -/
theorem requestLoop_last (open_ : done s = false) (ended : requestLoop done request loops timeout s = some s')
    (closed : done s' = true) : ∃ last ∈ requestPolls done request loops timeout asked s,
      ∃ polled, last.stack.poll = some polled ∧ s' = polled.stall stall1ms := by
  induction loops generalizing s asked timeout with
  | zero =>
      obtain rfl := Option.some.inj ended
      rw [open_] at closed
      cases closed
  | succ loops ih =>
      have waiting : ¬done s = true := Bool.eq_false_iff.mp open_
      rw [requestLoop, if_neg waiting] at ended
      obtain ⟨due, first, rest⟩ := Option.bind_eq_some_iff.mp ended
      obtain ⟨polled, second, rest⟩ := Option.bind_eq_some_iff.mp rest
      rw [requestPolls, if_neg waiting, first]
      dsimp only
      rw [second]
      cases halts : done (polled.stall stall1ms) with
      | true =>
          rw [requestLoop_done _ _ halts] at rest
          exact ⟨_, List.mem_cons_self, polled, second, (Option.some.inj rest).symm⟩
      | false =>
          obtain ⟨last, member, found⟩ := ih halts rest
          exact ⟨last, List.mem_cons_of_mem _ member, found⟩

/-- What requests, stalls and the polls of the loop keep, the loop keeps. -/
theorem requestLoop_keeps_of_polls (asked : NetStack) (requests : ∀ s s', P s → request s = some s' → P s')
    (stalls : ∀ s, P s → P (s.stall stall1ms)) (start : P s)
    (polls : ∀ last ∈ requestPolls done request loops timeout asked s, ∀ s', P last.stack →
      last.stack.poll = some s' → P s')
    (ended : requestLoop done request loops timeout s = some s') : P s' := by
  induction loops generalizing s asked timeout with
  | zero =>
      obtain rfl := Option.some.inj ended
      exact start
  | succ loops ih =>
      rw [requestLoop] at ended
      rw [requestPolls] at polls
      by_cases halts : done s
      · rw [if_pos halts] at ended
        obtain rfl := Option.some.inj ended
        exact start
      · rw [if_neg halts] at ended polls
        obtain ⟨due, first, rest⟩ := Option.bind_eq_some_iff.mp ended
        obtain ⟨polled, second, rest⟩ := Option.bind_eq_some_iff.mp rest
        have asks : P due := by
          unfold requestDue at first
          split at first
          · exact requests s due start first
          · obtain rfl := Option.some.inj first
            exact start
        rw [first] at polls
        dsimp only at polls
        rw [second] at polls
        exact ih _ (stalls polled (polls _ List.mem_cons_self polled asks second))
          (fun last member => polls last (List.mem_cons_of_mem _ member)) rest

/-- What requests establish and polls and stalls keep holds at every poll. -/
theorem requestPolls_keeps {S : NetStack → Prop} {R : NetStack → NetStack → Prop}
    (requests : ∀ s s', S s → done s = false → request s = some s' → S s' ∧ R s' s' ∧ done s' = false)
    (polls : ∀ asked s s', S s → R asked s → done s = false → s.poll = some s' → S s' ∧ R asked s')
    (stalls : ∀ asked s, S s → R asked s → S (s.stall stall1ms) ∧ R asked (s.stall stall1ms))
    (start : S s) (asks : timeout = 0 ∨ R asked s) :
    ∀ poll ∈ requestPolls done request loops timeout asked s,
      S poll.stack ∧ R poll.asked poll.stack ∧ done poll.stack = false := by
  induction loops generalizing s asked timeout with
  | zero => intro poll member; cases member
  | succ loops ih =>
      rw [requestPolls]
      split
      · intro poll member
        cases member
      · rename_i waiting
        have open_ := Bool.eq_false_iff.mpr waiting
        cases first : requestDue request timeout s with
        | none => intro poll member; cases member
        | some due =>
            dsimp only
            have holds : S due ∧ R (if timeout = 0 then due else asked) due ∧ done due = false := by
              unfold requestDue at first
              split at first
              · rename_i now
                rw [if_pos now]
                exact requests s due start open_ first
              · rename_i later
                obtain rfl := Option.some.inj first
                rw [if_neg later]
                exact ⟨start, asks.resolve_left later, open_⟩
            intro poll member
            rcases List.mem_cons.mp member with rfl | member
            · exact holds
            · cases second : due.poll with
              | none =>
                  rw [second] at member
                  cases member
              | some polled =>
                  rw [second] at member
                  obtain ⟨keptS, keptR⟩ := polls _ due polled holds.1 holds.2.1 holds.2.2 second
                  obtain ⟨stalledS, stalledR⟩ := stalls _ polled keptS keptR
                  exact ih stalledS (Or.inr stalledR) poll member

/-- The limit of the loops that take a timeout is a 32 bit product. -/
def maxLoops (timeoutMs : UINT32) : Nat := (timeoutMs * 0x0A#32).toNat

end NetStack
end UefiNetstack
