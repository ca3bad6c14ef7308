import UefiNetstack.Session.Reaction
import UefiNetstack.Api.Init

namespace UefiNetstack
open Constants NetStack Relation

/-- What the API functions do between two polls. -/
inductive Call where
  | stall (micros : Nat)
  | syn
  | send (data : Bytes)
  | receiveStart (buffer : Memory) (maxLen : UINTN)
  | receiveEnd
  | closeStart
  | closeEnd
  | udpSend (destIp : UINT32) (destPort : UINT16) (data : Bytes)
  | udpReceiveStart (buffer : Memory) (maxLen : UINTN)
  | udpReceiveEnd
  | ping (targetIp : UINT32)
  | resolve
  | query (hostname : CString)

def Call.run : Call → NetStack → Option NetStack
  | .stall micros, s => some (s.stall micros)
  | .syn, s => s.sendTcpControl tcpFlagSyn
  | .send data, s => (Api.tcpSend data s).map (·.2)
  | .receiveStart buffer maxLen, s => some (s.tcpReceiveStart buffer maxLen)
  | .receiveEnd, s => some s.tcpReceiveEnd
  | .closeStart, s => if s.tcp.state = .established then s.tcpCloseStart else none
  | .closeEnd, s => some s.tcpCloseEnd
  | .udpSend destIp destPort data, s => (Api.udpSend destIp destPort data s).map (·.2)
  | .udpReceiveStart buffer maxLen, s => some (s.udpReceiveStart buffer maxLen)
  | .udpReceiveEnd, s => some s.udpReceiveEnd
  | .ping targetIp, s => some (s.pingStart targetIp)
  | .resolve, s => some s.resolveStart
  | .query hostname, s => s.dnsQuery hostname

inductive Move where
  | poll
  | call (call : Call)

def Move.run : Move → NetStack → Option NetStack
  | .poll, s => s.poll
  | .call own, s => own.run s

/-- The first stack reaches the second by moves. -/
def Moves : NetStack → NetStack → Prop := ReflTransGen fun s s' => ∃ move : Move, move.run s = some s'

/-- The states of the stack: an initialization configures it, `tcp_connect` opens a session, and
everything else is a move. -/
inductive Reachable : NetStack → Prop
  | initial (rxPkt : RxPkt) (snp : Snp) : Reachable (.initial rxPkt snp)
  | initNetwork {boot : Boot} {s s' : NetStack} {st : EfiStatus} :
      Reachable s → Api.initNetwork boot s = some (st, s') → Reachable s'
  | initNetworkStatic {boot : Boot} {ip gateway mask dns : UINT32} {s s' : NetStack} {st : EfiStatus} :
      Reachable s → Api.initNetworkStatic boot ip gateway mask dns s = some (st, s') → Reachable s'
  | tcpOpen (ip : UINT32) (port : UINT16) {s : NetStack} : Reachable s → Reachable (s.tcpOpen ip port)
  | move {move : Move} {s s' : NetStack} : Reachable s → move.run s = some s' → Reachable s'

variable {s s' : NetStack}

theorem Reachable.moves (reachable : Reachable s) (moves : Moves s s') : Reachable s' := by
  induction moves with
  | refl => exact reachable
  | tail _ step ih =>
      obtain ⟨move, done⟩ := step
      exact ih.move done

theorem Moves.call (call : Call) (done : call.run s = some s') : Moves s s' :=
  ReflTransGen.single ⟨.call call, done⟩

theorem Moves.poll (done : s.poll = some s') : Moves s s' := ReflTransGen.single ⟨.poll, done⟩

theorem waitLoop_moves {done : NetStack → Bool} {micros : Nat} (loops : Nat)
    (ended : waitLoop done micros loops s = some s') : Moves s s' := by
  induction loops generalizing s with
  | zero =>
      obtain rfl := Option.some.inj ended
      exact ReflTransGen.refl
  | succ loops ih =>
      rw [waitLoop] at ended
      split at ended
      · obtain rfl := Option.some.inj ended
        exact ReflTransGen.refl
      · obtain ⟨polled, first, rest⟩ := Option.bind_eq_some_iff.mp ended
        exact ((Moves.poll first).trans (Moves.call (.stall micros) rfl)).trans (ih rest)

/-- A send goes out on an established connection only. -/
theorem Call.send_cases {data : Bytes} (done : (Call.send data).run s = some s') :
    (s.tcp.state ≠ .established ∧ s' = s) ∨ s.tcp.state = .established ∧
      ∃ out, s.sendTcpInternal tcpFlagPshAck s.tcp.seq s.tcp.ack data = some out ∧
        s' = { out with tcp := { out.tcp with seq := out.tcp.seq + BitVec.ofNat 32 data.length } } := by
  obtain ⟨⟨st, ended⟩, sent, rfl⟩ := Option.map_eq_some_iff.mp done
  unfold Api.tcpSend at sent
  split at sent
  · rename_i closed
    obtain ⟨-, rfl⟩ := Prod.mk.inj (Option.some.inj sent)
    exact Or.inl ⟨closed, rfl⟩
  · rename_i established
    obtain ⟨out, first, result⟩ := Option.bind_eq_some_iff.mp sent
    obtain ⟨-, rfl⟩ := Prod.mk.inj (Option.some.inj result)
    exact Or.inr ⟨not_not.mp established, out, first, rfl⟩

theorem Call.closeStart_cases (done : Call.closeStart.run s = some s') :
    s.tcp.state = .established ∧ ∃ out, s.sendTcpControl tcpFlagFinAck = some out ∧
      s' = { out with tcp := { out.tcp with state := .finWait } } := by
  rw [Call.run] at done
  split at done
  · rename_i established
    unfold tcpCloseStart at done
    obtain ⟨out, first, result⟩ := Option.bind_eq_some_iff.mp done
    exact ⟨established, out, first, (Option.some.inj result).symm⟩
  · cases done

theorem Call.udpSend_cases {destIp : UINT32} {destPort : UINT16} {data : Bytes}
    (done : (Call.udpSend destIp destPort data).run s = some s') :
    s.udpBind.sendUdp destIp destPort s.udpBind.udp.localPort data = some s' := by
  obtain ⟨⟨st, ended⟩, sent, rfl⟩ := Option.map_eq_some_iff.mp done
  obtain ⟨out, first, result⟩ := Option.bind_eq_some_iff.mp sent
  obtain ⟨-, rfl⟩ := Prod.mk.inj (Option.some.inj result)
  exact first

/-- The bytes that a call adds to the stream to the peer. -/
def Call.sentLen (s : NetStack) : Call → Nat
  | .send data => if s.tcp.state = .established then data.length else 0
  | _ => 0

/-- A call takes nothing from the peer. It moves the state only to close the connection. -/
structure CallKeeps (call : Call) (s s' : NetStack) : Prop where
  ack : s'.tcp.ack = s.tcp.ack
  seq : s'.tcp.seq = s.tcp.seq + BitVec.ofNat 32 (call.sentLen s)
  tcpDelivered : s'.tcpDelivered = s.tcpDelivered
  state : s'.tcp.state = s.tcp.state ∨ s.tcp.state = .established ∧ s'.tcp.state = .finWait ∨
    s'.tcp.state = .closed

/-- A call that keeps the whole session. -/
theorem CallKeeps.of_quiet {call : Call} (unsent : call.sentLen s = 0) (tcp : s'.tcp = s.tcp)
    (tcpDelivered : s'.tcpDelivered = s.tcpDelivered) : CallKeeps call s s' where
  ack := by rw [tcp]
  seq := by rw [tcp, unsent]; exact (BitVec.add_zero _).symm
  tcpDelivered := tcpDelivered
  state := Or.inl (by rw [tcp])

theorem tcpSend_keeps {data : Bytes} (done : (Call.send data).run s = some s') : CallKeeps (.send data) s s' := by
  rcases Call.send_cases done with ⟨closed, rfl⟩ | ⟨established, out, first, rfl⟩
  · exact CallKeeps.of_quiet (if_neg closed) rfl rfl
  · obtain ⟨frame, -, rfl⟩ := sendTcpInternal_cases first
    exact
      { ack := rfl
        seq := by
          rw [Call.sentLen, if_pos established]
          rfl
        tcpDelivered := sendFrame_tcpDelivered frame s.getU32.2
        state := Or.inl rfl }

theorem sendUdp_keeps {destIp : UINT32} {destPort srcPort : UINT16} {data : Bytes}
    (done : s.sendUdp destIp destPort srcPort data = some s') :
    s'.tcp = s.tcp ∧ s'.tcpDelivered = s.tcpDelivered := by
  obtain ⟨frame, -, rfl⟩ := sendUdp_cases done
  exact ⟨rfl, sendFrame_tcpDelivered frame s.getU32.2⟩

theorem dnsQuery_keeps {hostname : CString} (done : s.dnsQuery hostname = some s') :
    s'.tcp = s.tcp ∧ s'.tcpDelivered = s.tcpDelivered := by
  obtain ⟨frame, -, rfl⟩ := dnsQuery_cases done
  exact ⟨rfl, sendFrame_tcpDelivered frame s.dnsPrepared⟩

theorem udpBind_keeps (s : NetStack) : s.udpBind.tcp = s.tcp ∧ s.udpBind.tcpDelivered = s.tcpDelivered := by
  unfold udpBind
  split
  all_goals exact ⟨rfl, rfl⟩

/-- Every call keeps what the session has of the peer. -/
theorem call_keeps (call : Call) (done : call.run s = some s') : CallKeeps call s s' := by
  cases call with
  | stall micros =>
    obtain rfl := Option.some.inj done
    exact CallKeeps.of_quiet rfl rfl (s.log_tcpQuiet rfl rfl).tcpDelivered
  | syn =>
    obtain ⟨ended, frame, sent, tcp, delivered, -⟩ := s.sendTcpControl_eq tcpFlagSyn
    obtain rfl := Option.some.inj (sent.symm.trans done)
    exact CallKeeps.of_quiet rfl tcp delivered
  | send data => exact tcpSend_keeps done
  | receiveStart buffer maxLen =>
    obtain rfl := Option.some.inj done
    exact { ack := rfl, seq := (BitVec.add_zero _).symm, tcpDelivered := rfl, state := Or.inl rfl }
  | receiveEnd =>
    obtain rfl := Option.some.inj done
    exact { ack := rfl, seq := (BitVec.add_zero _).symm, tcpDelivered := rfl, state := Or.inl rfl }
  | closeStart =>
    obtain ⟨established, out, first, rfl⟩ := Call.closeStart_cases done
    obtain ⟨ended, frame, sent, tcp, delivered, -⟩ := s.sendTcpControl_eq tcpFlagFinAck
    obtain rfl := Option.some.inj (sent.symm.trans first)
    have ack : ended.tcp.ack = s.tcp.ack := by rw [tcp]
    have seq : ended.tcp.seq = s.tcp.seq := by rw [tcp]
    exact
      { ack
        seq := seq.trans (BitVec.add_zero _).symm
        tcpDelivered := delivered
        state := Or.inr (Or.inl ⟨established, rfl⟩) }
  | closeEnd =>
    obtain rfl := Option.some.inj done
    exact { ack := rfl, seq := (BitVec.add_zero _).symm, tcpDelivered := rfl, state := Or.inr (Or.inr rfl) }
  | udpSend destIp destPort data =>
    have keeps := sendUdp_keeps (Call.udpSend_cases done)
    exact CallKeeps.of_quiet rfl (keeps.1.trans (udpBind_keeps s).1) (keeps.2.trans (udpBind_keeps s).2)
  | udpReceiveStart buffer maxLen =>
    obtain rfl := Option.some.inj done
    exact CallKeeps.of_quiet rfl rfl rfl
  | udpReceiveEnd =>
    obtain rfl := Option.some.inj done
    exact CallKeeps.of_quiet rfl rfl rfl
  | ping targetIp =>
    obtain rfl := Option.some.inj done
    exact CallKeeps.of_quiet rfl rfl (sendFrame_tcpDelivered _ _)
  | resolve =>
    obtain rfl := Option.some.inj done
    exact CallKeeps.of_quiet rfl rfl rfl
  | query hostname =>
    have keeps := dnsQuery_keeps done
    exact CallKeeps.of_quiet rfl keeps.1 keeps.2

namespace NetStack

variable {s s' : NetStack}

/-- A poll takes one answer of Receive. -/
theorem poll_receive (polled : s.poll = some s') : s'.snp.receive = s.snp.receive.tail := by
  have handled (s s' : NetStack) (done : s.dispatch = some s') : s'.snp.receive = s.snp.receive := by
    refine @dispatch_keeps s s' (fun s s' => s'.snp.receive = s.snp.receive) (fun first second => second.trans first)
      ?_ ?_ ?_ ?_ done
    · exact fun _ _ _ _ _ _ _ _ _ => rfl
    · exact fun s frame => sendFrame_receive frame s
    · exact fun _ _ _ => rfl
    · exact fun _ _ => rfl
  cases poll_branch polled with
  | handle frame answer done => exact handled (s.received.landed frame) s' done
  | wait answer waited =>
    rw [waited]
    rfl
  | reset answer recovered =>
    rw [recovered]
    rfl

/-- The frame that Receive gives next is one that waits. -/
theorem nextReceive_mem {frame : RxFrame} (next : s.nextReceive = .frame frame) : .frame frame ∈ s.snp.receive := by
  unfold nextReceive at next
  cases answers : s.snp.receive with
  | nil =>
      rw [answers] at next
      cases next
  | cons first rest =>
      rw [answers] at next
      rw [← next]
      exact List.mem_cons_self

theorem call_receive {call : Call} (done : call.run s = some s') : s'.snp.receive = s.snp.receive := by
  cases call with
  | send data =>
      rcases Call.send_cases done with ⟨-, rfl⟩ | ⟨-, out, first, rfl⟩
      · rfl
      · obtain ⟨frame, -, rfl⟩ := sendTcpInternal_cases first
        exact sendFrame_receive frame s.getU32.2
  | syn =>
      have sent : s.sendTcpControl tcpFlagSyn = some s' := done
      obtain ⟨frame, -, rfl⟩ := sendTcpInternal_cases sent
      exact sendFrame_receive frame s.getU32.2
  | closeStart =>
      obtain ⟨-, out, first, rfl⟩ := Call.closeStart_cases done
      obtain ⟨frame, -, rfl⟩ := sendTcpInternal_cases first
      exact sendFrame_receive frame s.getU32.2
  | udpSend destIp destPort data =>
      obtain ⟨frame, -, rfl⟩ := sendUdp_cases (Call.udpSend_cases done)
      refine (sendFrame_receive frame s.udpBind.getU32.2).trans ?_
      change s.udpBind.snp.receive = _
      unfold udpBind
      split
      all_goals rfl
  | query hostname =>
      obtain ⟨frame, -, rfl⟩ := dnsQuery_cases done
      exact sendFrame_receive frame s.dnsPrepared
  | ping targetIp =>
      obtain rfl := Option.some.inj done
      exact sendFrame_receive _ _
  | stall | receiveStart | receiveEnd | closeEnd | udpReceiveStart | udpReceiveEnd | resolve =>
      obtain rfl := Option.some.inj done
      rfl

end NetStack

namespace Scenario

def gatewayReply : RxFrame where
  bytes :=
    EthHdr.bytes { dst := localMac, src := gatewayMac, type := htons ethertypeArp } ++
      ArpHdr.bytes
        { oper := htons arpOperReply, sha := gatewayMac, spa := gatewayIp, tha := localMac, tpa := localIp }
  fits := by decide

/-- The stack after a static initialization and after `tcp_connect` has opened a session to port 80,
with the answers that Receive will give next. -/
def opened (receive : List Receive) : Option NetStack := do
  let (_, s) ← Api.initNetworkStatic boot localIp gatewayIp 0x00FFFFFF#32 0#32
    (.initial .zeros { receive := .frame gatewayReply :: receive })
  some (s.tcpOpen remoteIp 80)

/-- The numbers that the default seed gives the session. -/
def localPort : UINT16 := 59434
def iss : UINT32 := 1126946332

theorem opened_eq {receive : List Receive} {s : NetStack} (done : opened receive = some s) :
    ∃ s₀, Reachable s₀ ∧ s = s₀.tcpOpen remoteIp 80 := by
  obtain ⟨⟨st, s₀⟩, configured, open_⟩ := Option.bind_eq_some_iff.mp done
  exact ⟨s₀, (Reachable.initial _ _).initNetworkStatic configured, (Option.some.inj open_).symm⟩

theorem opened_reachable {receive : List Receive} {s : NetStack} (done : opened receive = some s) : Reachable s := by
  obtain ⟨s₀, reachable, rfl⟩ := opened_eq done
  exact reachable.tcpOpen remoteIp 80

end Scenario
end UefiNetstack
