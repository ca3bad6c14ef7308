import UefiNetstack.Timing.Costs
import UefiNetstack.Timing.DhcpCadence
import UefiNetstack.Network.Steps

namespace UefiNetstack
open Constants NetStack Budget

namespace DhcpLoop

variable {xid : UINT32} {loop : DhcpLoop}

/-- A round asks for one frame and stalls at most once. -/
def receivePrice : Spent := { polls := 1, micros := stall1ms }

/-- The messages that are due in the rounds ahead. An offer starts the countdown again, but only once. -/
def messages (loops : ℕ) (loop : DhcpLoop) : ℕ :=
  requests loops loop.timeout + if loop.state = .discover then 1 else 0

/-- The message of this round. -/
def message (loop : DhcpLoop) : ℕ := if loop.timeout = 0 then 1 else 0

theorem sendRequest_spends (xid : UINT32) (loop : DhcpLoop) :
    Spends spent (loop.message • sendPrice) loop.stack (loop.sendRequest xid).stack := by
  unfold sendRequest message
  split
  · rw [one_nsmul]
    cases loop.state with
    | discover => exact loop.stack.sendFrame_spends _
    | offerRcvd => exact loop.stack.sendFrame_spends _
    | bound => exact Spends.of_same rfl
  · exact Spends.of_same rfl

theorem onReceive_spends (answer : Receive) (loop : DhcpLoop) :
    Spends spent receivePrice loop.stack (loop.onReceive answer).stack := by
  cases answer with
  | frame frame =>
      have trace : (loop.landed frame).onPage.stack.trace = loop.stack.trace ++ [.receive (.frame frame)] := by
        unfold onPage transition
        dsimp only
        split
        · split
          · split
            all_goals rfl
          · split
            all_goals rfl
          · rfl
        · rfl
      exact spends_of_trace _ trace ⟨le_rfl, le_rfl, Nat.zero_le _⟩
  | notReady =>
      apply spends_of_trace [.receive .notReady, .stall stall1ms]
      · exact List.append_assoc loop.stack.trace [.receive .notReady] [.stall stall1ms]
      · exact ⟨le_rfl, le_rfl, le_rfl⟩
  | error => exact spends_of_trace [.receive .error] rfl ⟨le_rfl, le_rfl, Nat.zero_le _⟩

theorem iteration_spends (xid : UINT32) (loop : DhcpLoop) :
    Spends spent (loop.message • sendPrice + receivePrice) loop.stack (loop.iteration xid).stack :=
  (sendRequest_spends xid loop).trans (onReceive_spends _ _)

/-- A search that goes on has seen no offer. -/
theorem iteration_searching (pending : loop.state ≠ .bound) (searches : (loop.iteration xid).state = .discover) :
    loop.state = .discover ∧ ¬loop.Offered := by
  obtain ⟨sends, hears, reception⟩ := loop.iteration_reception xid pending
  cases reception with
  | nothing keeps silent state identity =>
      refine ⟨sends.state.symm.trans (state.symm.trans searches), ?_⟩
      rintro ⟨-, message, found, -⟩
      rw [← hears, silent] at found
      cases found
  | ignored keeps message found refused state identity =>
      refine ⟨sends.state.symm.trans (state.symm.trans searches), ?_⟩
      rintro ⟨before, other, found', accepted⟩
      obtain rfl := Option.some.inj (found.symm.trans (hears.trans found'))
      rw [sends.state, before] at refused
      exact refused accepted
  | offered keeps message found before accepted state due identity =>
      rw [state] at searches
      cases searches
  | bound keeps message found before accepted state identity =>
      rw [state] at searches
      cases searches

/-- A round takes its message from those that are due. -/
theorem iteration_messages (pending : loop.state ≠ .bound) (small : loop.timeout ≤ timeoutRetransmit) (loops : ℕ) :
    (loop.iteration xid).timeout ≤ timeoutRetransmit ∧
      loop.message + (loop.iteration xid).messages loops ≤ loop.messages (loops + 1) := by
  have next := @iteration_next xid loop pending
  have ticks : (clock.ticks loop).toNat ≤ 1 := Bool.toNat_le _
  have loads : clock.loaded loop = if loop.timeout = 0 then timeoutRetransmit else loop.timeout := rfl
  by_cases offered : loop.Offered
  · have searching : loop.state = .discover := offered.1
    have found : (loop.iteration xid).state ≠ .discover := fun searches =>
      (iteration_searching pending searches).2 offered
    have again : (loop.iteration xid).timeout = 0 := next.rewound offered
    rw [messages, messages, message, again, if_neg found, if_pos searching]
    simp only [requests, timeoutRetransmit] at small ⊢
    split
    all_goals omega
  · have counted : (loop.iteration xid).timeout = clock.loaded loop - (clock.ticks loop).toNat := next.counted offered
    have searches : (if (loop.iteration xid).state = .discover then 1 else 0) ≤
        if loop.state = .discover then 1 else 0 := by
      split
      · rename_i still
        rw [if_pos (iteration_searching pending still).1]
      · exact Nat.zero_le _
    rw [messages, messages, message, counted, loads]
    generalize (clock.ticks loop).toNat = tick at ticks
    simp only [requests, timeoutRetransmit] at small ⊢
    split
    all_goals omega

theorem run_spends (xid : UINT32) (loops : ℕ) {loop : DhcpLoop} (small : loop.timeout ≤ timeoutRetransmit) :
    Spends spent (loop.messages loops • sendPrice + loops • receivePrice) loop.stack (run xid loops loop).stack := by
  induction loops generalizing loop with
  | zero => exact Spends.of_same rfl
  | succ loops ih =>
      rw [run]
      split
      · exact Spends.of_same rfl
      · rename_i pending
        obtain ⟨smaller, fewer⟩ := @iteration_messages xid loop pending small loops
        refine ((iteration_spends xid loop).trans (ih smaller)).mono ?_
        calc loop.message • sendPrice + receivePrice +
              ((loop.iteration xid).messages loops • sendPrice + loops • receivePrice)
            = (loop.message + (loop.iteration xid).messages loops) • sendPrice + (loops + 1) • receivePrice := by
              rw [add_nsmul, succ_nsmul]
              abel
          _ ≤ loop.messages (loops + 1) • sendPrice + (loops + 1) • receivePrice :=
              add_le_add (nsmul_le_nsmul_left zero_le fewer) le_rfl

end DhcpLoop

namespace NetStack

variable {s s' : NetStack}

/-- The NIC is given twice ten milliseconds. -/
def openPrice : Spent := { micros := 2 * stall10ms }

theorem openNic_spends {boot : Boot} (opens : OpensNic boot s s') : Spends spent openPrice s s' := by
  obtain ⟨seed, rxPkt, rfl | rfl⟩ := opens.cases
  · exact Spends.of_same rfl
  · apply spends_of_trace [.stall stall10ms, .stall stall10ms, .receiveFilters]
    · simp [nicOpened, stall, log, repaged]
    · decide

/-- The messages of the search, one more for the offer, and the rounds of the loop. -/
def dhcpPrice : Spent :=
  (requests timeoutDhcpLoops 0 + 1) • sendPrice + timeoutDhcpLoops • DhcpLoop.receivePrice

theorem dhcp_spends (s : NetStack) : Spends spent dhcpPrice s s.dhcp.stack :=
  @DhcpLoop.run_spends s.getU32.1 timeoutDhcpLoops { stack := s.getU32.2 } (Nat.zero_le _)

/-- The gateway is asked for again after every five thousand rounds. -/
def gatewayPrice : Spent := requestPrice sendPrice timeoutArpLoops 0

theorem resolveGateway_affords (s : NetStack) : Affords spent gatewayPrice s (fun s => s) s.resolveGateway := by
  have asks (before after : NetStack) (asked : some (before.arpRequest before.identity.routerIp) = some after) :
      Spends spent sendPrice before after := by
    obtain rfl := Option.some.inj asked
    exact before.sendFrame_spends _
  exact @requestLoop_affords sendPrice (fun s => s.arp.resolved) _ asks timeoutArpLoops 0
    { s with arp := { s.arp with resolved := false, targetIp := s.identity.routerIp } }

def initNetworkPrice : Spent := openPrice + (dhcpPrice + gatewayPrice)

theorem initNetwork_affords (boot : Boot) (s : NetStack) :
    Affords spent initNetworkPrice s Prod.snd (Api.initNetwork boot s) := by
  unfold Api.initNetwork
  cases opened : s.openNic boot with
  | error failed =>
      intro result returned
      obtain rfl := Option.some.inj returned
      exact (openNic_spends (Or.inr ⟨_, opened⟩)).mono le_self_add
  | ok open_ =>
      have opens := openNic_spends (Or.inl opened)
      refine Affords.after opens ?_
      dsimp only
      split
      · intro result returned
        obtain rfl := Option.some.inj returned
        exact (dhcp_spends open_).mono le_self_add
      · refine Affords.after (dhcp_spends open_) ?_
        intro result returned
        obtain ⟨asked, resolved, last⟩ := Option.bind_eq_some_iff.mp returned
        obtain rfl := Option.some.inj last
        exact resolveGateway_affords _ asked resolved

def initNetworkStaticPrice : Spent := openPrice + gatewayPrice

theorem initNetworkStatic_affords (boot : Boot) (ip gateway mask dns : UINT32) (s : NetStack) :
    Affords spent initNetworkStaticPrice s Prod.snd (Api.initNetworkStatic boot ip gateway mask dns s) := by
  unfold Api.initNetworkStatic
  cases opened : s.openNic boot with
  | error failed =>
      intro result returned
      obtain rfl := Option.some.inj returned
      exact (openNic_spends (Or.inr ⟨_, opened⟩)).mono le_self_add
  | ok open_ =>
      refine Affords.after (openNic_spends (Or.inl opened)) ?_
      intro result returned
      obtain ⟨asked, resolved, last⟩ := Option.bind_eq_some_iff.mp returned
      obtain rfl := Option.some.inj last
      have asks := resolveGateway_affords _ asked resolved
      exact asks

end NetStack

/-- The requests of a loop of half a million rounds, a hundred of them. -/
def askingPrice : Spent := requestPrice sendPrice timeoutTcpLoops 0

/-- The rounds of a timeout. -/
def waitingPrice (timeoutMs : UINT32) : Spent := maxLoops timeoutMs • roundPrice stall100us

/-- What a call may cost. -/
def ApiCall.price : ApiCall → Spent
  | .tcpConnect _ _ => askingPrice
  | .tcpSend _ => sendPrice
  | .tcpReceive _ _ timeoutMs => waitingPrice timeoutMs
  | .tcpClose => sendPrice + timeoutCloseLoops • roundPrice stall1ms
  | .udpSend _ _ _ => sendPrice
  | .udpReceive _ _ timeoutMs => waitingPrice timeoutMs
  | .ping _ timeoutMs => sendPrice + waitingPrice timeoutMs
  | .resolveHostname _ _ => askingPrice

namespace NetStack

variable {s s' : NetStack}

theorem dnsQuery_spends {hostname : CString} (done : s.dnsQuery hostname = some s') : Spends spent sendPrice s s' := by
  obtain ⟨frame, -, rfl⟩ := dnsQuery_cases done
  exact s.dnsPrepared.sendFrame_spends frame

theorem udpBind_spent (s : NetStack) : s.udpBind.spent = s.spent := by
  unfold udpBind
  split
  · rfl
  · rfl

theorem tcpCloseStart_affords (s : NetStack) : Affords spent sendPrice s (fun s => s) s.tcpCloseStart := by
  unfold tcpCloseStart
  apply Affords.last
  · exact fun _ => rfl
  · exact fun _ sent => sendTcpInternal_spends sent

theorem tcpDrain_affords (s : NetStack) : Affords spent ApiCall.tcpClose.price s (fun s => s) s.tcpDrain := by
  unfold tcpDrain
  split
  · exact Affords.bind s.tcpCloseStart_affords fun started _ => waitLoop_affords _ stall1ms timeoutCloseLoops started
  · intro s' returned
    obtain rfl := Option.some.inj returned
    exact Spends.of_same rfl

theorem tcpSend_affords (data : Bytes) (s : NetStack) : Affords spent sendPrice s Prod.snd (Api.tcpSend data s) := by
  unfold Api.tcpSend
  split
  · intro result returned
    obtain rfl := Option.some.inj returned
    exact Spends.of_same rfl
  · apply Affords.last
    · exact fun _ => rfl
    · exact fun _ sent => sendTcpInternal_spends sent

theorem udpSend_affords (destIp : UINT32) (destPort : UINT16) (data : Bytes) (s : NetStack) :
    Affords spent sendPrice s Prod.snd (Api.udpSend destIp destPort data s) := by
  apply Affords.last
  · exact fun _ => rfl
  · intro s' sent
    obtain ⟨frame, -, rfl⟩ := sendUdp_cases sent
    have sends := s.udpBind.getU32.2.sendFrame_spends frame
    rw [Spends] at sends ⊢
    exact s.udpBind_spent ▸ sends

theorem tcpConnect_affords (ip : UINT32) (port : UINT16) (s : NetStack) :
    Affords spent askingPrice s Prod.snd (Api.tcpConnect ip port s) := by
  have asks (before after : NetStack) (sent : before.sendTcpControl tcpFlagSyn = some after) :
      Spends spent sendPrice before after := sendTcpInternal_spends sent
  apply Affords.last
  · exact fun _ => rfl
  · exact requestLoop_affords asks timeoutTcpLoops 0 (s.tcpOpen ip port)

theorem resolveHostname_affords (hostname : CString) (outIp : UINT32) (s : NetStack) :
    Affords spent askingPrice s (·.2.2) (Api.resolveHostname hostname outIp s) := by
  have asks (before after : NetStack) (sent : before.dnsQuery hostname = some after) :
      Spends spent sendPrice before after := dnsQuery_spends sent
  apply Affords.last
  · intro ended
    split
    · rfl
    · rfl
  · exact requestLoop_affords asks timeoutTcpLoops 0 s.resolveStart

theorem tcpReceive_affords (buffer : Memory) (maxLen : UINTN) (timeoutMs : UINT32) (s : NetStack) :
    Affords spent (waitingPrice timeoutMs) s Received.stack (Api.tcpReceive buffer maxLen timeoutMs s) := by
  apply Affords.last
  · exact fun _ => rfl
  · exact waitLoop_affords tcpReceiveDone stall100us (maxLoops timeoutMs) (s.tcpReceiveStart buffer maxLen)

theorem udpReceive_affords (buffer : Memory) (maxLen : UINTN) (timeoutMs : UINT32) (s : NetStack) :
    Affords spent (waitingPrice timeoutMs) s Received.stack (Api.udpReceive buffer maxLen timeoutMs s) := by
  apply Affords.last
  · exact fun _ => rfl
  · exact waitLoop_affords (fun s => s.udp.rxDone) stall100us (maxLoops timeoutMs) (s.udpReceiveStart buffer maxLen)

theorem tcpClose_affords (s : NetStack) : Affords spent ApiCall.tcpClose.price s Prod.snd (Api.tcpClose s) := by
  apply Affords.last
  · exact fun _ => rfl
  · exact s.tcpDrain_affords

theorem ping_affords (targetIp timeoutMs : UINT32) (s : NetStack) :
    Affords spent (sendPrice + waitingPrice timeoutMs) s Prod.snd (Api.ping targetIp timeoutMs s) := by
  have sends : Spends spent sendPrice s (s.pingStart targetIp) := sendFrame_spends _ _
  apply Affords.last
  · exact fun _ => rfl
  · exact Affords.after sends (waitLoop_affords _ stall100us (maxLoops timeoutMs) (s.pingStart targetIp))

end NetStack

/-- Every call keeps within its price. -/
theorem ApiCall.run_affords (call : ApiCall) (s : NetStack) :
    Affords spent call.price s (fun s => s) (call.run s) := by
  cases call with
  | tcpConnect ip port => exact (tcpConnect_affords ip port s).state
  | tcpSend data => exact (tcpSend_affords data s).state
  | tcpReceive buffer maxLen timeoutMs => exact (tcpReceive_affords buffer maxLen timeoutMs s).state
  | tcpClose => exact (tcpClose_affords s).state
  | udpSend destIp destPort data => exact (udpSend_affords destIp destPort data s).state
  | udpReceive buffer maxLen timeoutMs => exact (udpReceive_affords buffer maxLen timeoutMs s).state
  | ping targetIp timeoutMs => exact (ping_affords targetIp timeoutMs s).state
  | resolveHostname hostname outIp => exact (resolveHostname_affords hostname outIp s).state

/-- A run of calls in any order, from any stack and against any firmware and network, sends, asks and stalls within
the sum of the prices of its calls. -/
theorem calls_bounded (calls : List ApiCall) {s s' : NetStack} (done : ApiCall.runAll calls s = some s') :
    s'.sent.length ≤ s.sent.length + (calls.map ApiCall.price).sum.frames ∧
      s'.trace.countP Event.isReceive ≤ s.trace.countP Event.isReceive + (calls.map ApiCall.price).sum.polls ∧
      s'.waited ≤ s.waited + (calls.map ApiCall.price).sum.micros := by
  have affords : Affords spent (calls.map ApiCall.price).sum s (fun s => s) (ApiCall.runAll calls s) :=
    Affords.foldlM (fun s call => call.run_affords s) calls s
  exact affords s' done

open Scenario in
/-- A datagram and a ping that nobody answers within a millisecond. -/
theorem calls_bounded_ping : ∃ s', ApiCall.runAll [.udpSend remoteIp 7 [1], .ping remoteIp 1] (powered []) = some s' ∧
    s'.sent.length ≤ 22 ∧ s'.trace.countP Event.isReceive ≤ 10 ∧ s'.waited ≤ 55021000 := by
  have returns : (ApiCall.runAll [.udpSend remoteIp 7 [1], .ping remoteIp 1] (powered [])).isSome := by decide +kernel
  obtain ⟨s', done⟩ := Option.isSome_iff_exists.mp returns
  obtain ⟨frames, polls, micros⟩ := calls_bounded [.udpSend remoteIp 7 [1], .ping remoteIp 1] done
  refine ⟨s', done, frames.trans ?_, polls.trans ?_, micros.trans ?_⟩
  all_goals decide +kernel

end UefiNetstack
