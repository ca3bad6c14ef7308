import UefiNetstack.Timing.Cadence

namespace UefiNetstack
open Constants Countdown Memory Words

namespace DhcpLoop

variable {xid : UINT32} {loop : DhcpLoop}

/-- The rounds in which the loop waits, in order. -/
def rounds (xid : UINT32) : Nat → DhcpLoop → List DhcpLoop
  | 0, _ => []
  | loops + 1, loop => if loop.state = .bound then [] else loop :: rounds xid loops (loop.iteration xid)

/-- The loop ends with what its last round leaves. -/
theorem run_rounds (xid : UINT32) (loops : Nat) (loop : DhcpLoop) :
    run xid loops loop = match (rounds xid loops loop).getLast? with
      | none => loop
      | some last => last.iteration xid := by
  induction loops generalizing loop with
  | zero => rfl
  | succ loops ih =>
      rw [run, rounds]
      split
      · rfl
      · rw [ih, List.getLast?_cons]
        cases (rounds xid loops (loop.iteration xid)).getLast? with
        | none => rfl
        | some last => rfl

/-- In a round the state accepts the offer that it waits for. -/
def Offered (loop : DhcpLoop) : Prop :=
  loop.state = .discover ∧ ∃ heard, loop.heard = some heard ∧ heard.Accepted .discover

/-- The round hands the message of its state to Transmit before it receives. -/
def Transmits (xid : UINT32) (loop : DhcpLoop) : Prop :=
  (loop.sendRequest xid).stack.sent = loop.stack.sent ++ [loop.request xid loop.state]

theorem timeoutRetransmit_pos : 0 < timeoutRetransmit := by decide

/-- The loop counts the rounds in which Receive has nothing. -/
def clock : Clock DhcpLoop where
  period := timeoutRetransmit
  positive := timeoutRetransmit_pos
  count := DhcpLoop.timeout
  ticks loop := loop.stack.nextReceive = .notReady
  rewinds := Offered

theorem transmits_iff (pending : loop.state ≠ .bound) : loop.Transmits xid ↔ loop.timeout = 0 := by
  have sends := (loop.sendRequest_sends xid pending).sent
  rw [Transmits, sends]
  by_cases due : loop.timeout = 0
  · simp [due]
  · simp [due]

/-- Sending starts the countdown again where it has run out. -/
theorem sendRequest_timeout (xid : UINT32) (loop : DhcpLoop) : (loop.sendRequest xid).timeout = clock.loaded loop := by
  unfold sendRequest Clock.loaded
  by_cases due : loop.timeout = 0
  · rw [if_pos due]
    exact (if_pos due).symm
  · rw [if_neg due]
    exact (if_neg due).symm

/-- Only an offer touches the countdown of a message on the page. -/
theorem onPage_timeout (loop : DhcpLoop) : loop.onPage.timeout = loop.timeout ∨
    loop.state = .discover ∧ loop.onPage.state = .offerRcvd := by
  unfold onPage
  dsimp only
  split
  · rename_i message found
    unfold transition
    dsimp only
    split
    · rename_i searching
      split
      · exact Or.inr ⟨searching, rfl⟩
      · exact Or.inl rfl
    · split
      · exact Or.inl rfl
      · exact Or.inl rfl
    · exact Or.inl rfl
  · exact Or.inl rfl

/-- A reception takes one from the countdown when Receive has nothing. -/
theorem onReceive_timeout (answer : Receive) (loop : DhcpLoop) :
    (loop.onReceive answer).timeout = loop.timeout - (decide (answer = .notReady)).toNat ∨
      loop.state = .discover ∧ (loop.onReceive answer).state = .offerRcvd := by
  cases answer with
  | frame frame => exact onPage_timeout _
  | notReady => exact Or.inl rfl
  | error => exact Or.inl rfl

/-- An iteration counts by the clock. -/
theorem iteration_next (pending : loop.state ≠ .bound) : clock.Next loop (loop.iteration xid) := by
  obtain ⟨sends, hears, reception⟩ := loop.iteration_reception xid pending
  have heard : (loop.sendRequest xid).hears loop.stack.nextReceive = loop.heard := hears
  -- A round that does not leave the search for the request counts down.
  have counted (stays : ¬((loop.sendRequest xid).state = .discover ∧ (loop.iteration xid).state = .offerRcvd)) :
      (loop.iteration xid).timeout = clock.loaded loop - (clock.ticks loop).toNat := by
    have step := onReceive_timeout (loop.sendRequest xid).stack.nextReceive (loop.sendRequest xid)
    rw [sendRequest_timeout, sends.next] at step
    have same : (loop.sendRequest xid).onReceive loop.stack.nextReceive = loop.iteration xid := by
      rw [iteration, sends.next]
    rw [same] at step
    exact step.resolve_right stays
  cases reception with
  | nothing keeps silent state identity =>
      refine ⟨?_, fun _ => counted ?_⟩
      · rintro ⟨-, message, found, -⟩
        rw [← heard, silent] at found
        cases found
      · rintro ⟨searching, offered⟩
        rw [state, searching] at offered
        cases offered
  | ignored keeps message found refused state identity =>
      refine ⟨?_, fun _ => counted ?_⟩
      · rintro ⟨searching, other, found', accepted⟩
        obtain rfl := Option.some.inj (found.symm.trans (heard.trans found'))
        rw [sends.state, searching] at refused
        exact absurd accepted refused
      · rintro ⟨searching, offered⟩
        rw [state, searching] at offered
        cases offered
  | offered keeps message found before accepted state due identity =>
      refine ⟨fun _ => due, fun noOffer => absurd ?_ noOffer⟩
      rw [before] at accepted
      exact ⟨sends.state.symm.trans before, message, heard.symm.trans found, accepted⟩
  | bound keeps message found before accepted state identity =>
      refine ⟨?_, fun _ => counted ?_⟩
      · rintro ⟨searching, -⟩
        rw [sends.state, searching] at before
        cases before
      · rintro ⟨searching, -⟩
        rw [before] at searching
        cases searching

/-- Only an offer leads to another state that waits. -/
theorem iteration_offered (pending : loop.state ≠ .bound) (moves : (loop.iteration xid).state ≠ loop.state)
    (waits : (loop.iteration xid).state ≠ .bound) : loop.Offered := by
  obtain ⟨sends, hears, reception⟩ := loop.iteration_reception xid pending
  cases reception with
  | nothing keeps silent state identity => exact absurd (state.trans sends.state) moves
  | ignored keeps message found refused state identity => exact absurd (state.trans sends.state) moves
  | offered keeps message found before accepted state due identity =>
      rw [before] at accepted
      exact ⟨sends.state.symm.trans before, message, hears.symm.trans found, accepted⟩
  | bound keeps message found before accepted state identity => exact absurd state waits

theorem rounds_head {loops : Nat} {first : DhcpLoop} (head : first ∈ (rounds xid loops loop).head?) : first = loop := by
  cases loops with
  | zero => cases head
  | succ loops =>
      unfold rounds at head
      split at head
      · cases head
      · exact (Option.some.inj head).symm

theorem rounds_pending {loops : Nat} : ∀ round ∈ rounds xid loops loop, round.state ≠ .bound := by
  induction loops generalizing loop with
  | zero => simp [rounds]
  | succ loops ih =>
      rw [rounds]
      split
      · simp
      · rename_i pending
        exact List.forall_mem_cons.mpr ⟨pending, ih⟩

/-- Behind each round but the last comes its iteration. -/
theorem rounds_chain (loops : Nat) (loop : DhcpLoop) :
    (rounds xid loops loop).IsChain fun round next => next = round.iteration xid := by
  induction loops generalizing loop with
  | zero => exact List.isChain_nil
  | succ loops ih =>
      rw [rounds]
      split
      · exact List.isChain_nil
      · exact List.isChain_cons.mpr ⟨fun next head => rounds_head head, ih _⟩

theorem rounds_clock (loops : Nat) (loop : DhcpLoop) : (rounds xid loops loop).IsChain clock.Next := by
  refine (@rounds_chain xid loops loop).imp_of_mem_imp fun round next member _ step => ?_
  rw [step]
  exact iteration_next (rounds_pending round member)

end DhcpLoop

namespace NetStack

/-- The rounds of the DHCP loop of `init_network` behind the open NIC. -/
def dhcpRounds (s : NetStack) : List DhcpLoop := DhcpLoop.rounds s.getU32.1 timeoutDhcpLoops { stack := s.getU32.2 }

/-- The DHCP loop transmits its pending message in its first round, in the first round of each state and once in
every block of rounds. -/
structure DhcpRetransmits (s : NetStack) : Prop where
  cadence : Cadence (timeoutRetransmit + 1) (DhcpLoop.Transmits s.getU32.1) s.dhcpRounds
  changes : ∀ loop next, [loop, next] <:+: s.dhcpRounds → next.state ≠ loop.state → next.Transmits s.getU32.1

/-- Enough rounds are idle: in each block of rounds behind a countdown that has run out, which another round
follows, an offer comes or Receive has nothing in all rounds but one. -/
def IdleEnough (s : NetStack) : Prop :=
  ∀ first middle last, first :: middle ++ [last] <:+: s.dhcpRounds → first.timeout = 0 →
    (first :: middle).length = timeoutRetransmit + 1 →
    (∃ loop ∈ first :: middle, loop.Offered) ∨
      (first :: middle).countP (fun loop => loop.stack.nextReceive ≠ .notReady) ≤ 1

theorem dhcp_cadence_iff (s : NetStack) :
    Cadence (timeoutRetransmit + 1) (DhcpLoop.Transmits s.getU32.1) s.dhcpRounds ↔ s.IdleEnough := by
  have pending : ∀ round ∈ s.dhcpRounds, round.state ≠ .bound := DhcpLoop.rounds_pending
  have starts : ∀ round ∈ s.dhcpRounds.head?, DhcpLoop.clock.count round = 0 := by
    intro round head
    rw [DhcpLoop.rounds_head head]
    rfl
  have zero : Cadence (timeoutRetransmit + 1) (DhcpLoop.Transmits s.getU32.1) s.dhcpRounds ↔
      Cadence (timeoutRetransmit + 1) (fun round => DhcpLoop.clock.count round = 0) s.dhcpRounds :=
    ⟨fun cadence => cadence.imp fun round member => (DhcpLoop.transmits_iff (pending round member)).mp,
      fun cadence => cadence.imp fun round member => (DhcpLoop.transmits_iff (pending round member)).mpr⟩
  have timely (block : List DhcpLoop) : DhcpLoop.clock.Timely block ↔ (∃ loop ∈ block, loop.Offered) ∨
      block.countP (fun loop => loop.stack.nextReceive ≠ .notReady) ≤ 1 := by
    simp only [Clock.Timely, DhcpLoop.clock, decide_not, ne_eq]
  refine zero.trans ((Clock.cadence_iff (DhcpLoop.rounds_clock _ _) starts).trans ?_)
  simp only [timely]
  exact Iff.rfl

/-- Each round in which another message has become the pending one transmits it. -/
theorem dhcp_changes (s : NetStack) (loop next : DhcpLoop) (inside : [loop, next] <:+: s.dhcpRounds)
    (moves : next.state ≠ loop.state) : next.Transmits s.getU32.1 := by
  have pending : ∀ round ∈ s.dhcpRounds, round.state ≠ .bound := DhcpLoop.rounds_pending
  have waits := pending next (inside.mem (by simp))
  have before := pending loop (inside.mem (by simp))
  have step := List.IsChain.infix (@DhcpLoop.rounds_chain s.getU32.1 _ _) inside
  obtain rfl : next = loop.iteration s.getU32.1 := (List.isChain_cons_cons.mp step).1
  refine (DhcpLoop.transmits_iff waits).mpr ?_
  exact (DhcpLoop.iteration_next before).rewound (DhcpLoop.iteration_offered before moves waits)

/-- The DHCP loop repeats its message in time exactly when enough of its rounds are idle. The loops for the gateway
and for a connection always repeat their request in time, and so does the resolver for a name that fits. -/
theorem retransmission_cadence (s : NetStack) (hostname : CString) (ip : UINT32) (port : UINT16) :
    (s.DhcpRetransmits ↔ s.IdleEnough) ∧ s.GatewayRetransmits ∧
      (s.ResolveRetransmits hostname ↔ hostname.chars.length ≤ 540) ∧ s.ConnectRetransmits ip port :=
  ⟨⟨fun retransmits => s.dhcp_cadence_iff.mp retransmits.cadence,
      fun idle => ⟨s.dhcp_cadence_iff.mpr idle, s.dhcp_changes⟩⟩,
    gateway_retransmits s, resolve_retransmits_iff hostname s, connect_retransmits ip port s⟩

end NetStack

namespace Scenario

/-- A frame of another protocol. -/
def otherProtocol : RxFrame where
  bytes := EthHdr.bytes { dst := ethBroadcast, src := gatewayMac, type := htons 0x86DD#16 }
  fits := by decide

/-- The open NIC gets one frame of another protocol after the other. -/
def busy : NetStack := powered (List.replicate (timeoutRetransmit + 2) (.frame otherProtocol))

end Scenario

namespace DhcpLoop
open Scenario

variable {xid : UINT32} {loop : DhcpLoop}

theorem hears_otherProtocol : loop.hears (.frame otherProtocol) = none := by
  have header : EthHdr.read (loop.stack.rxPkt.receive otherProtocol).byte 0 =
      { dst := ethBroadcast, src := gatewayMac, type := htons 0x86DD#16 } :=
    EthHdr.read_stored (write_bytesAt loop.stack.rxPkt.byte 0 otherProtocol.bytes)
  have noMessage : dhcpMessageOn (loop.stack.rxPkt.receive otherProtocol).byte = none := by
    unfold dhcpMessageOn
    rw [header]
    exact if_neg (by decide)
  unfold hears
  dsimp only
  rw [noMessage]
  rfl

/-- While frames of another protocol arrive the search neither ticks nor ends. -/
theorem rounds_busy {count loops : Nat} {rest : List Receive} (searching : loop.state = .discover)
    (answers : loop.stack.snp.receive = List.replicate count (.frame otherProtocol) ++ rest) (enough : count ≤ loops) :
    ∃ front back, rounds xid loops loop = front ++ back ∧ front.length = count ∧
      ∀ round ∈ front, round.stack.nextReceive ≠ .notReady ∧ ¬round.Offered := by
  induction count generalizing loop loops with
  | zero => exact ⟨[], _, rfl, rfl, by simp⟩
  | succ count ih =>
      obtain ⟨loops, rfl⟩ := Nat.exists_eq_add_of_lt (Nat.lt_of_lt_of_le (Nat.zero_lt_succ count) enough)
      have next : loop.stack.nextReceive = .frame otherProtocol := by
        rw [NetStack.nextReceive, answers]
        rfl
      have pending : loop.state ≠ .bound := by
        rw [searching]
        decide
      have silent : loop.heard = none := by
        unfold heard
        rw [next]
        exact hears_otherProtocol
      obtain ⟨sends, hears, reception⟩ := loop.iteration_reception xid pending
      have stays : (loop.iteration xid).state = .discover := by
        cases reception with
        | nothing keeps _ state identity => exact state.trans (sends.state.trans searching)
        | ignored keeps message found _ _ _ =>
            rw [hears, silent] at found
            cases found
        | offered keeps message found _ _ _ _ _ =>
            rw [hears, silent] at found
            cases found
        | bound keeps message found _ _ _ _ =>
            rw [hears, silent] at found
            cases found
      have left : (loop.iteration xid).stack.snp.receive = List.replicate count (.frame otherProtocol) ++ rest := by
        rw [iteration_receive, answers]
        rfl
      obtain ⟨front, back, parts, length, busy⟩ := @ih (loop.iteration xid) (0 + loops) stays left (by omega)
      refine ⟨loop :: front, back, ?_, by rw [List.length_cons, length], List.forall_mem_cons.mpr ⟨⟨?_, ?_⟩, busy⟩⟩
      · rw [rounds, if_neg pending, parts]
        rfl
      · rw [next]
        exact Receive.noConfusion
      · rintro ⟨-, message, found, -⟩
        rw [silent] at found
        cases found

end DhcpLoop

namespace NetStack
open Scenario

/-- With frames of another protocol back to back the discover is not repeated. -/
theorem busy_network_starves : ¬∀ s : NetStack, s.DhcpRetransmits := by
  intro always
  have idle := busy.dhcp_cadence_iff.mp (always busy).cadence
  obtain ⟨front, back, parts, length, noTicks⟩ := @DhcpLoop.rounds_busy busy.getU32.1 { stack := busy.getU32.2 }
    (timeoutRetransmit + 2) timeoutDhcpLoops [] rfl (List.append_nil _).symm (by decide)
  have positive : 0 < front.length := by
    rw [length]
    decide
  obtain ⟨first, rest, rfl⟩ := List.exists_cons_of_ne_nil (List.length_pos_iff.mp positive)
  obtain ⟨middle, last, rfl⟩ : ∃ middle last, rest = middle ++ [last] := by
    refine ⟨_, _, (List.dropLast_append_getLast ?_).symm⟩
    rintro rfl
    rw [List.length_singleton, timeoutRetransmit] at length
    omega
  have rounds : busy.dhcpRounds = first :: middle ++ [last] ++ back := parts
  have start : first = { stack := busy.getU32.2 } :=
    @DhcpLoop.rounds_head busy.getU32.1 _ timeoutDhcpLoops first (by
      rw [parts]
      rfl)
  have size : (first :: middle).length = timeoutRetransmit + 1 := by
    simp only [List.length_cons, List.length_append, List.length_nil] at length ⊢
    omega
  have all : ∀ round ∈ first :: middle, round.stack.nextReceive ≠ .notReady ∧ ¬round.Offered := by
    intro round member
    exact noTicks round (List.mem_append_left _ member)
  rcases idle first middle last ⟨[], back, rounds.symm⟩ (by rw [start]) size with ⟨round, member, offered⟩ | few
  · exact (all round member).2 offered
  · have every : (first :: middle).countP (fun loop => loop.stack.nextReceive ≠ .notReady) = timeoutRetransmit + 1 := by
      rw [← size, List.countP_eq_length]
      exact fun round member => decide_eq_true (all round member).1
    rw [every] at few
    exact absurd few (by decide)

end NetStack
end UefiNetstack
