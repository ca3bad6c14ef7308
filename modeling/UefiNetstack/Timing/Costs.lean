import UefiNetstack.Lib.Budget
import UefiNetstack.Timing.Waits

namespace UefiNetstack
open Constants Budget

/-- A count of frames, of polls and of microseconds. -/
@[ext]
structure Spent where
  frames : Nat := 0
  polls : Nat := 0
  micros : Nat := 0
deriving DecidableEq

namespace Spent

instance : Add Spent :=
  ⟨fun a b => { frames := a.frames + b.frames, polls := a.polls + b.polls, micros := a.micros + b.micros }⟩

instance : Zero Spent := ⟨{}⟩

instance : LE Spent := ⟨fun a b => a.frames ≤ b.frames ∧ a.polls ≤ b.polls ∧ a.micros ≤ b.micros⟩

instance : SMul ℕ Spent :=
  ⟨fun n a => { frames := n * a.frames, polls := n * a.polls, micros := n * a.micros }⟩

variable (a b : Spent) (n : ℕ)

@[simp] theorem frames_add : (a + b).frames = a.frames + b.frames := rfl
@[simp] theorem polls_add : (a + b).polls = a.polls + b.polls := rfl
@[simp] theorem micros_add : (a + b).micros = a.micros + b.micros := rfl
@[simp] theorem frames_zero : (0 : Spent).frames = 0 := rfl
@[simp] theorem polls_zero : (0 : Spent).polls = 0 := rfl
@[simp] theorem micros_zero : (0 : Spent).micros = 0 := rfl
@[simp] theorem frames_nsmul : (n • a).frames = n * a.frames := rfl
@[simp] theorem polls_nsmul : (n • a).polls = n * a.polls := rfl
@[simp] theorem micros_nsmul : (n • a).micros = n * a.micros := rfl

theorem le_iff {a b : Spent} : a ≤ b ↔ a.frames ≤ b.frames ∧ a.polls ≤ b.polls ∧ a.micros ≤ b.micros := Iff.rfl

instance (a b : Spent) : Decidable (a ≤ b) := decidable_of_iff _ le_iff.symm

instance : AddCommMonoid Spent where
  add_assoc a b c := by ext <;> simp [Nat.add_assoc]
  zero_add a := by ext <;> simp
  add_zero a := by ext <;> simp
  add_comm a b := by ext <;> simp [Nat.add_comm]
  nsmul := (· • ·)
  nsmul_zero a := by ext <;> simp
  nsmul_succ n a := by ext <;> simp [Nat.succ_mul]

instance : PartialOrder Spent where
  le_refl a := ⟨le_rfl, le_rfl, le_rfl⟩
  le_trans _ _ _ first second :=
    ⟨first.1.trans second.1, first.2.1.trans second.2.1, first.2.2.trans second.2.2⟩
  le_antisymm a b up down := by
    ext
    · exact le_antisymm up.1 down.1
    · exact le_antisymm up.2.1 down.2.1
    · exact le_antisymm up.2.2 down.2.2

instance : IsOrderedAddMonoid Spent where
  add_le_add_left _ _ le _ :=
    ⟨Nat.add_le_add_right le.1 _, Nat.add_le_add_right le.2.1 _, Nat.add_le_add_right le.2.2 _⟩

instance : CanonicallyOrderedAdd Spent where
  le_self_add a b := ⟨Nat.le_add_right .., Nat.le_add_right .., Nat.le_add_right ..⟩
  le_add_self a b := ⟨Nat.le_add_left .., Nat.le_add_left .., Nat.le_add_left ..⟩
  exists_add_of_le {a b} le := by
    refine ⟨{ frames := b.frames - a.frames, polls := b.polls - a.polls, micros := b.micros - a.micros }, ?_⟩
    ext
    · exact (Nat.add_sub_of_le le.1).symm
    · exact (Nat.add_sub_of_le le.2.1).symm
    · exact (Nat.add_sub_of_le le.2.2).symm

end Spent

/-- What a list of events costs. -/
def cost (events : List Event) : Spent where
  frames := (events.filterMap Event.frame?).length
  polls := events.countP Event.isReceive
  micros := (events.map Event.micros).sum

theorem cost_append (first second : List Event) : cost (first ++ second) = cost first + cost second := by
  ext
  · simp [cost]
  · simp [cost]
  · simp [cost]

/-- One frame, and a stall for each of the retries. -/
def sendPrice : Spent := { frames := 1, micros := timeoutTxRetries * stall500us }

/-- The completion loop costs nothing but its stalls. -/
theorem awaitTransmit_cost (retries : ℕ) (snp : Snp) :
    cost (snp.awaitTransmit retries).1 ≤ { micros := retries * stall500us } := by
  induction retries generalizing snp with
  | zero => exact le_rfl
  | succ retries ih =>
      obtain ⟨frames, polls, micros⟩ := ih snp.nextStatus.2
      rw [Snp.awaitTransmit]
      dsimp only
      split
      · exact ⟨le_rfl, le_rfl, Nat.zero_le _⟩
      · refine ⟨frames, polls, ?_⟩
        have later : ((snp.nextStatus.2.awaitTransmit retries).1.map Event.micros).sum ≤ retries * stall500us := micros
        simp only [cost, List.map_cons, List.sum_cons, Event.micros, Nat.succ_mul]
        omega

namespace NetStack

variable {s s' s'' : NetStack} {price : Spent}

/-- What a stack has spent since power-on. -/
def spent (s : NetStack) : Spent := cost s.trace

theorem spends_of_trace (events : List Event) (trace : s'.trace = s.trace ++ events) (le : cost events ≤ price) :
    Spends spent price s s' := by
  rw [Spends, spent, spent, trace, cost_append]
  exact add_le_add le_rfl le

theorem sendFrame_spends (s : NetStack) (frame : TxFrame) : Spends spent sendPrice s (s.sendFrame frame) := by
  have waits := awaitTransmit_cost timeoutTxRetries s.snp.nextStatus.2.nextTransmit.2
  refine spends_of_trace (s.snp.sendRaw frame.bytes).2.1 rfl ?_
  unfold Snp.sendRaw
  dsimp only
  split
  · exact ⟨le_rfl, le_rfl, Nat.zero_le _⟩
  · rw [cost_append]
    have copied : cost [.copyToTxPkt frame.bytes, .getStatus s.snp.nextStatus.1,
        .transmit frame.bytes s.snp.nextStatus.2.nextTransmit.1] ≤ { frames := 1 } := ⟨le_rfl, le_rfl, le_rfl⟩
    exact add_le_add copied waits

theorem sendTcpInternal_spends {flags : UINT8} {seq ack : UINT32} {data : Bytes}
    (done : s.sendTcpInternal flags seq ack data = some s') : Spends spent sendPrice s s' := by
  obtain ⟨frame, -, rfl⟩ := sendTcpInternal_cases done
  exact s.getU32.2.sendFrame_spends frame

theorem handleArp_spends (s : NetStack) (arp : ArpHdr) : Spends spent sendPrice s (s.handleArp arp) := by
  rcases s.handleArp_cases arp with ⟨-, learned⟩ | ⟨-, ⟨frame, -, sent⟩ | same⟩
  · rw [learned, learnArp_eq]
    exact Spends.of_same rfl
  · rw [sent]
    exact s.sendFrame_spends frame
  · rw [same]
    exact Spends.of_same rfl

theorem handleIcmp_spends {ip : IpHdr} {icmpAt : Nat} {len : UINTN} (done : s.handleIcmp ip icmpAt len = some s') :
    Spends spent sendPrice s s' := by
  rcases handleIcmp_cases done with echoed | rfl | rfl
  · rcases replyToPing_cases echoed with rfl | ⟨message, frame, -, -, rfl⟩
    · exact Spends.of_same rfl
    · exact s.getU32.2.sendFrame_spends frame
  · exact Spends.of_same rfl
  · exact Spends.of_same rfl

/-- Events without a price. -/
theorem log_spends (s : NetStack) {event : Event} (free : cost [event] = 0) : Spends spent 0 s (s.log event) :=
  spends_of_trace [event] rfl (le_of_eq free)

theorem handleUdp_spends {udpAt : Nat} (done : s.handleUdp udpAt = some s') : Spends spent 0 s s' := by
  refine handleUdp_keeps ?_ ?_ ?_ done
  · intro s s' s'' first second
    exact (first.trans second).mono (le_of_eq (add_zero 0))
  · exact fun s dns udp => Spends.of_same rfl
  · exact fun s data => s.log_spends rfl

/-- Data and a FIN are acknowledged apart. -/
theorem onSegment_spends {input : TcpInput} {tcpAt : Nat} (done : s.onSegment input tcpAt = some s') :
    Spends spent (2 • sendPrice) s s' := by
  have once : sendPrice ≤ 2 • sendPrice := by decide
  cases onSegment_branch done with
  | abort rst aborted =>
      subst aborted
      exact Spends.of_same rfl
  | accept noRst waiting synAck accepted =>
      obtain ⟨out, sent, rfl⟩ := acceptSynAck_cases accepted
      exact (sendTcpInternal_spends sent).mono once
  | receive noRst listening middle acked copies acknowledges ends =>
      have first : Spends spent 0 s middle := by
        rcases receiveData_cases copies with ⟨-, rfl⟩ | ⟨buffer, -, -, copy⟩
        · exact Spends.of_same rfl
        · obtain ⟨data, -, rfl⟩ := copyPayload_cases copy
          exact @log_spends s (.tcpCopy s.tcp.rxCurrentLen data.val) rfl
      have second : Spends spent sendPrice middle acked := by
        rcases acknowledgeData_cases acknowledges with ⟨-, rfl⟩ | ⟨-, sent⟩
        · exact Spends.of_same rfl
        · have acknowledged := sendTcpInternal_spends sent
          exact acknowledged
      have third : Spends spent sendPrice acked s' := by
        rcases receiveFin_cases ends with ⟨-, rfl⟩ | ⟨-, out, sent, rfl⟩
        · exact Spends.of_same rfl
        · have answered := sendTcpInternal_spends sent
          exact answered
      exact (first.trans second).trans third
  | ignore noRst notSynAck deaf unchanged =>
      subst unchanged
      exact Spends.of_same rfl

theorem dispatch_spends (done : s.dispatch = some s') : Spends spent (2 • sendPrice) s s' := by
  have once : sendPrice ≤ 2 • sendPrice := by decide
  cases dispatch_branch done with
  | arp type handled =>
      rw [handled]
      exact (s.handleArp_spends _).mono once
  | icmp type ip header protocol handled => exact (handleIcmp_spends handled).mono once
  | udp type ip header protocol handled => exact (handleUdp_spends handled).mono zero_le
  | tcp type ip header protocol handled =>
      rcases handleTcp_cases handled with ⟨-, rfl⟩ | ⟨-, -, segment⟩
      · exact Spends.of_same rfl
      · exact onSegment_spends segment
  | drop notArp notTcp unchanged =>
      rw [unchanged]
      exact Spends.of_same rfl

/-- One frame is asked for, and two may be sent in answer. -/
def pollPrice : Spent := { polls := 1 } + 2 • sendPrice

theorem poll_spends (polled : s.poll = some s') : Spends spent pollPrice s s' := by
  have asks (answer : Receive) : Spends spent { polls := 1 } s (s.received.log (.receive answer)) :=
    spends_of_trace [.receive answer] rfl ⟨le_rfl, le_rfl, le_rfl⟩
  cases poll_branch polled with
  | handle frame answer handled =>
      have landed : Spends spent { polls := 1 } s (s.received.landed frame) := asks (.frame frame)
      exact landed.trans (dispatch_spends handled)
  | wait answer waited =>
      rw [waited]
      exact (asks .notReady).mono (by decide)
  | reset answer recovered =>
      rw [recovered]
      refine (asks .error).trans (spends_of_trace [.reset, .receiveFilters, .stall stall10ms] ?_ ?_)
      · simp only [resetNic, stall, log, List.append_assoc, List.cons_append, List.nil_append]
      · decide

/-- A poll and the stall behind it. -/
def roundPrice (micros : ℕ) : Spent := pollPrice + { micros }

theorem stall_spends (s : NetStack) (micros : ℕ) : Spends spent { micros } s (s.stall micros) :=
  spends_of_trace [.stall micros] rfl ⟨le_rfl, le_rfl, le_rfl⟩

theorem round_spends {micros : ℕ} (polled : s.poll = some s') :
    Spends spent (roundPrice micros) s (s'.stall micros) :=
  (poll_spends polled).trans (s'.stall_spends micros)

theorem waitLoop_affords (done : NetStack → Bool) (micros loops : ℕ) (s : NetStack) :
    Affords spent (loops • roundPrice micros) s (fun s => s) (waitLoop done micros loops s) := by
  induction loops generalizing s with
  | zero =>
      intro s' ended
      obtain rfl := Option.some.inj ended
      exact Spends.of_same rfl
  | succ loops ih =>
      rw [waitLoop, succ_nsmul']
      split
      · intro s' ended
        obtain rfl := Option.some.inj ended
        exact Spends.of_same rfl
      · intro s' ended
        obtain ⟨polled, first, rest⟩ := Option.bind_eq_some_iff.mp ended
        exact (round_spends first).trans (ih _ s' rest)

/-- The requests that a loop makes when its countdown stands at a value. -/
def requests (loops timeout : ℕ) : ℕ := (loops + timeoutRetransmit - 1 - timeout) / timeoutRetransmit

/-- A loop of rounds with a request as often as its countdown runs out. -/
def requestPrice (request : Spent) (loops timeout : ℕ) : Spent :=
  loops • roundPrice stall1ms + requests loops timeout • request

theorem requestLoop_affords {done : NetStack → Bool} {request : NetStack → Option NetStack}
    (asks : ∀ s s', request s = some s' → Spends spent price s s') (loops timeout : ℕ) (s : NetStack) :
    Affords spent (requestPrice price loops timeout) s (fun s => s) (requestLoop done request loops timeout s) := by
  induction loops generalizing s timeout with
  | zero =>
      intro s' ended
      obtain rfl := Option.some.inj ended
      exact Spends.of_same rfl
  | succ loops ih =>
      rw [requestLoop]
      split
      · intro s' ended
        obtain rfl := Option.some.inj ended
        exact Spends.of_same rfl
      · intro s' ended
        obtain ⟨asked, due, rest⟩ := Option.bind_eq_some_iff.mp ended
        obtain ⟨polled, first, rest⟩ := Option.bind_eq_some_iff.mp rest
        have later := (round_spends first).trans (ih _ _ s' rest)
        unfold requestDue at due
        split at due
        · rename_i now
          rw [if_pos now] at later
          refine ((asks s asked due).trans later).mono (le_of_eq ?_)
          have counts : requests (loops + 1) timeout = requests loops (timeoutRetransmit - 1) + 1 := by
            simp only [requests, timeoutRetransmit]
            omega
          rw [requestPrice, requestPrice, counts, succ_nsmul', succ_nsmul']
          abel
        · rename_i running
          obtain rfl := Option.some.inj due
          rw [if_neg running] at later
          refine later.mono (le_of_eq ?_)
          have counts : requests (loops + 1) timeout = requests loops (timeout - 1) := by
            simp only [requests, timeoutRetransmit]
            omega
          rw [requestPrice, requestPrice, counts, succ_nsmul', add_assoc]

end NetStack
end UefiNetstack
