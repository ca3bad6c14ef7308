import UefiNetstack.Lib.Countdown
import UefiNetstack.Api.Init
import UefiNetstack.Dhcp.Loop
import UefiNetstack.Session.Failure

namespace UefiNetstack
open Constants Countdown

namespace NetStack

variable {done : NetStack → Bool} {request : NetStack → Option NetStack} {s s' : NetStack}

/-- A round of a request loop: its countdown and its stack as it starts. -/
structure RequestRound where
  timeout : Nat
  stack : NetStack

/-- What a round leaves to the next one. -/
def RequestRound.next (request : NetStack → Option NetStack) (round : RequestRound) : Option RequestRound := do
  let s ← requestDue request round.timeout round.stack
  let timeout := if round.timeout = 0 then timeoutRetransmit else round.timeout
  let s ← s.poll
  some { timeout := timeout - 1, stack := s.stall stall1ms }

/-- The rounds in which a request loop waits, in order. -/
def requestRounds (done : NetStack → Bool) (request : NetStack → Option NetStack) :
    Nat → RequestRound → List RequestRound
  | 0, _ => []
  | loops + 1, round =>
    if done round.stack then []
    else
      round ::
        match round.next request with
        | none => []
        | some next => requestRounds done request loops next

/-- The loop returns what its last round leaves. -/
theorem requestLoop_rounds (loops : Nat) (round : RequestRound) :
    requestLoop done request loops round.timeout round.stack =
      match (requestRounds done request loops round).getLast? with
      | none => some round.stack
      | some last => (last.next request).map (·.stack) := by
  induction loops generalizing round with
  | zero => rfl
  | succ loops ih =>
      rw [requestLoop, requestRounds]
      by_cases ended : done round.stack
      · rw [if_pos ended, if_pos ended]
        rfl
      · rw [if_neg ended, if_neg ended]
        have step : round.next request = (requestDue request round.timeout round.stack).bind fun due =>
          due.poll.bind fun polled => some
            { timeout := (if round.timeout = 0 then timeoutRetransmit else round.timeout) - 1
              stack := polled.stall stall1ms } := rfl
        cases first : requestDue request round.timeout round.stack with
        | none =>
            rw [first] at step
            simp [step]
        | some due =>
            cases second : due.poll with
            | none =>
                rw [first, Option.bind_some, second] at step
                simp [step, second]
            | some polled =>
                rw [first, Option.bind_some, second, Option.bind_some] at step
                simp only [step, Option.bind_eq_bind, Option.bind_some, second]
                rw [ih { timeout := _, stack := polled.stall stall1ms }, List.getLast?_cons]
                cases (requestRounds done request loops _).getLast? with
                | none => simp [step]
                | some last => rfl

/-- A request loop counts every round down. -/
def requestClock : Clock RequestRound where
  period := timeoutRetransmit
  positive := by decide
  count := RequestRound.timeout
  ticks _ := true
  rewinds _ := False

theorem requestRounds_head {loops : Nat} {round first : RequestRound}
    (head : first ∈ (requestRounds done request loops round).head?) : first = round := by
  cases loops with
  | zero => cases head
  | succ loops =>
      unfold requestRounds at head
      split at head
      · cases head
      · exact (Option.some.inj head).symm

theorem requestRounds_chain (loops : Nat) (round : RequestRound) :
    (requestRounds done request loops round).IsChain requestClock.Next := by
  induction loops generalizing round with
  | zero => exact List.isChain_nil
  | succ loops ih =>
      rw [requestRounds]
      split
      · exact List.isChain_nil
      · cases step : round.next request with
        | none => exact List.isChain_singleton round
        | some next =>
            refine List.isChain_cons.mpr ⟨?_, ih next⟩
            have counted : next.timeout = (if round.timeout = 0 then timeoutRetransmit else round.timeout) - 1 := by
              obtain ⟨due, -, rest⟩ := Option.bind_eq_some_iff.mp step
              obtain ⟨polled, -, rest⟩ := Option.bind_eq_some_iff.mp rest
              rw [← Option.some.inj rest]
            intro head first
            obtain rfl := requestRounds_head first
            exact ⟨False.elim, fun _ => counted⟩

/-- A round hands the frame of its stack to Transmit before it polls. -/
def RequestRound.Transmits (request : NetStack → Option NetStack) (frame : NetStack → Bytes) (round : RequestRound) :
    Prop :=
  ∃ asked, requestDue request round.timeout round.stack = some asked ∧
    asked.sent = round.stack.sent ++ [frame round.stack]

/-- A request loop transmits its request in its first round and once in every block of rounds. -/
def Retransmits (done : NetStack → Bool) (request : NetStack → Option NetStack) (frame : NetStack → Bytes)
    (loops : Nat) (s : NetStack) : Prop :=
  Cadence (timeoutRetransmit + 1) (RequestRound.Transmits request frame)
    (requestRounds done request loops { timeout := 0, stack := s })

/-- A request that always transmits its frame is repeated in time. -/
theorem Retransmits.of_transmits {frame : NetStack → Bytes} (loops : Nat) (s : NetStack)
    (transmits : ∀ s, ∃ asked, request s = some asked ∧ asked.sent = s.sent ++ [frame s]) :
    Retransmits done request frame loops s := by
  have starts : ∀ round ∈ (requestRounds done request loops { timeout := 0, stack := s }).head?,
      requestClock.count round = 0 := by
    intro round first
    rw [requestRounds_head first]
    rfl
  refine (Clock.cadence_of_ticks (requestRounds_chain loops _) starts fun _ _ => rfl).imp fun round _ zero => ?_
  obtain ⟨asked, done, sent⟩ := transmits round.stack
  exact ⟨asked, (if_pos zero).trans done, sent⟩

/-- The requests for the gateway of both init functions. -/
def GatewayRetransmits (s : NetStack) : Prop :=
  Retransmits (fun s => s.arp.resolved) (fun s => some (s.arpRequest s.identity.routerIp))
    (fun s => s.arpRequestFrame s.identity.routerIp) timeoutArpLoops s.gatewayOpen

/-- The frame that a query hands to Transmit. -/
def queryFrame (hostname : CString) (s : NetStack) : Bytes :=
  s.dnsPrepared.dnsFrame hostname s.dnsPrepared.dns.localPort s.dnsPrepared.dns.currentId s.getU32.1

/-- The queries of `resolve_hostname`. -/
def ResolveRetransmits (hostname : CString) (s : NetStack) : Prop :=
  Retransmits (fun s => s.dns.resolved) (fun s => s.dnsQuery hostname) (queryFrame hostname) timeoutTcpLoops
    s.resolveStart

/-- The SYN segments of `tcp_connect`. -/
def ConnectRetransmits (ip : UINT32) (port : UINT16) (s : NetStack) : Prop :=
  Retransmits (fun s => s.tcp.state = .established || s.tcp.state = .closed) (fun s => s.sendTcpControl tcpFlagSyn)
    (fun s => s.getU32.2.tcpFrame tcpFlagSyn s.tcp.seq s.tcp.ack [] s.getU32.1) timeoutTcpLoops (s.tcpOpen ip port)

theorem gateway_retransmits (s : NetStack) : s.GatewayRetransmits := by
  refine Retransmits.of_transmits timeoutArpLoops s.gatewayOpen fun t => ⟨_, rfl, ?_⟩
  exact sendFrame_sent _ t

theorem connect_retransmits (ip : UINT32) (port : UINT16) (s : NetStack) : s.ConnectRetransmits ip port := by
  refine Retransmits.of_transmits timeoutTcpLoops (s.tcpOpen ip port) fun t => ?_
  obtain ⟨frame, sent, bytes⟩ := t.sendTcpInternal_eq tcpFlagSyn t.tcp.seq t.tcp.ack [] (Nat.zero_le _)
  refine ⟨_, sent, ?_⟩
  rw [sendFrame_sent, bytes]
  rfl

/-- A name that overruns the packet is never asked for. -/
theorem resolve_retransmits_iff (hostname : CString) (s : NetStack) :
    s.ResolveRetransmits hostname ↔ hostname.chars.length ≤ 540 := by
  constructor
  · intro cadence
    obtain ⟨asked, due, -⟩ := cadence.first { timeout := 0, stack := s.resolveStart } rfl
    by_contra long
    have overruns : s.resolveStart.dnsQuery hostname = none := by
      refine dif_neg ?_
      simp only [sizeofEthHdr, sizeofIpHdr, sizeofUdpHdr, sizeofDnsHdr, dnsQuestion_length, dnsPktSize]
      omega
    have query : s.resolveStart.dnsQuery hostname = some asked := due
    rw [overruns] at query
    cases query
  · intro fits
    refine Retransmits.of_transmits timeoutTcpLoops s.resolveStart fun t => ?_
    obtain ⟨frame, sent, bytes⟩ := t.dnsQuery_eq hostname fits
    refine ⟨_, sent, ?_⟩
    rw [sendFrame_sent, bytes]
    rfl

end NetStack
end UefiNetstack
