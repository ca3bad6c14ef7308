import UefiNetstack.Api.Http
import UefiNetstack.Session.Handshake
import UefiNetstack.Session.Initialization

namespace UefiNetstack
open Constants NetStack Relation

namespace NetStack

variable {s s' s'' : NetStack}

/-- A session that waits or is closed. -/
def Unconnected (s : NetStack) : Prop := s.tcp.state = .synSent ∨ s.tcp.state = .closed

/-- A `tcp_connect` fails, or the connect step of an `http_get`. -/
inductive ConnectFails (s s' : NetStack) : Prop
  | tcpConnect {ip : UINT32} {port : UINT16} {st : EfiStatus} (done : Api.tcpConnect ip port s = some (st, s'))
      (failed : st ≠ .success)
  | httpGet {hostname path : CString} {buffer : Memory} {maxLen actualLen : UINTN} {received : Received}
      {targetIp : UINT32} {resolved connected : NetStack} {st : EfiStatus}
      (done : Api.httpGet hostname path buffer maxLen actualLen s = some received)
      (resolves : Api.resolveHostname hostname 0#32 s = some (.success, targetIp, resolved))
      (connects : Api.tcpConnect targetIp 0x50#16 resolved = some (st, connected)) (failed : st ≠ .success)
      (behind : s' = received.stack)

theorem tcpConnect_unconnected {ip : UINT32} {port : UINT16} {st : EfiStatus}
    (done : Api.tcpConnect ip port s = some (st, s')) (failed : st ≠ .success) : s'.Unconnected := by
  have connecting := tcpConnect_connecting done
  obtain ⟨ended, loop, result⟩ := Option.bind_eq_some_iff.mp done
  obtain ⟨status, rfl⟩ := Prod.mk.inj (Option.some.inj result)
  rcases connecting.state with waiting | established | closed
  · exact Or.inl waiting
  · rw [if_pos established] at status
    exact absurd status.symm failed
  · exact Or.inr closed

theorem ConnectFails.unconnected (fails : ConnectFails s s') : s'.Unconnected := by
  cases fails with
  | tcpConnect done failed => exact tcpConnect_unconnected done failed
  | httpGet done resolves connects failed behind =>
    rename_i received _ _ connected st
    unfold Api.httpGet at done
    rw [resolves] at done
    have noError : EfiStatus.success.isError = false := rfl
    simp only [Option.bind_eq_bind, Option.bind_some, noError] at done
    rw [connects] at done
    have error : st.isError = true := by
      by_contra noError
      exact failed (Api.tcpConnect_noWarning connects noError)
    simp only [Option.bind_some, error] at done
    obtain rfl := Option.some.inj done
    rw [behind]
    exact tcpConnect_unconnected connects failed

/-- The question for the gateway is open. -/
def gatewayOpen (s : NetStack) : NetStack :=
  { s with arp := { s.arp with resolved := false, targetIp := s.identity.routerIp } }

/-- The polls in which an initialization waits for the gateway. -/
def gatewayPolls (prepared : Except (EfiStatus × NetStack) NetStack) : List NetStack :=
  match prepared with
  | .error _ => []
  | .ok s =>
    (requestPolls (fun s => s.arp.resolved) (fun s => some (s.arpRequest s.identity.routerIp)) timeoutArpLoops 0
      s.gatewayOpen s.gatewayOpen).map (·.stack)

end NetStack

/-- The stacks that poll during an act. -/
def Act.polls : Act → NetStack → List NetStack
  | .move .poll, s => [s]
  | .move (.call _), _ => []
  | .tcpOpen _ _, _ => []
  | .initNetwork boot, s => gatewayPolls (s.dhcpPrepared boot)
  | .initNetworkStatic boot ip gateway mask dns, s => gatewayPolls (s.staticPrepared boot ip gateway mask dns)
  | .flushArp, _ => []

/-- An act of another call than `tcp_connect` and `http_get`. -/
def Act.OpensNothing (act : Act) : Prop := (∀ ip port, act ≠ .tcpOpen ip port) ∧ act ≠ .move (.call .syn)

namespace NetStack

variable {s s' s'' : NetStack}

/-- No poll of the act brings a waiting session a SYN+ACK. -/
def Unanswered (s : NetStack) (act : Act) : Prop :=
  ∀ polling ∈ act.polls s, polling.tcp.state = .synSent → ∀ input, ¬polling.TakesSynAck input

/-- A run of other calls in which every act meets a condition on the stack before it. -/
def Afterwards (meets : NetStack → Act → Prop) : NetStack → NetStack → Prop :=
  ReflTransGen fun s s' => ∃ act : Act, act.OpensNothing ∧ meets s act ∧ act.run s = some s'

/-- The session is not established, and no segment is sent. -/
structure StaysUnconnected (s s' : NetStack) : Prop where
  unconnected : s'.Unconnected
  sends : Sends (fun _ => False) s s'

theorem StaysUnconnected.refl (unconnected : s.Unconnected) : StaysUnconnected s s where
  unconnected := unconnected
  sends := Sends.of_same rfl

theorem StaysUnconnected.trans (first : StaysUnconnected s s') (second : StaysUnconnected s' s'') :
    StaysUnconnected s s'' where
  unconnected := second.unconnected
  sends := first.sends.trans second.sends

theorem StaysUnconnected.of_quiet (unconnected : s.Unconnected) (quiet : TcpQuiet s s') : StaysUnconnected s s' where
  unconnected := by rw [Unconnected, quiet.tcp]; exact unconnected
  sends := quiet.sends

/-- A poll keeps the session unconnected unless it brings a waiting one its SYN+ACK. -/
theorem poll_staysUnconnected (unconnected : s.Unconnected)
    (unanswered : s.tcp.state = .synSent → ∀ input, ¬s.TakesSynAck input) (polled : s.poll = some s') :
    StaysUnconnected s s' := by
  rcases poll_replies polled with ⟨-, quiet⟩ | ⟨input, tcpAt, t, takes, quiet, reaction, -⟩
  · exact .of_quiet unconnected quiet
  · have before := StaysUnconnected.of_quiet unconnected quiet
    cases reaction with
    | reset rst aborted =>
      refine before.trans ⟨?_, ?_⟩
      · rw [aborted]
        exact Or.inr rfl
      · rw [aborted]
        exact Sends.of_same rfl
    | establish noRst waiting synAck established =>
      rw [quiet.tcp] at waiting
      exact absurd ⟨takes, synAck, noRst⟩ (unanswered waiting input)
    | take noRst listening carries taken =>
      rcases before.unconnected with waiting | closed
      · simp [Listening, waiting] at listening
      · simp [Listening, closed] at listening
    | ignore noRst notSynAck nothing unchanged =>
      rw [unchanged]
      exact before

theorem call_staysUnconnected {call : Call} (noSyn : call ≠ .syn) (unconnected : s.Unconnected)
    (done : call.run s = some s') : StaysUnconnected s s' := by
  have notEstablished : s.tcp.state ≠ .established := by
    rcases unconnected with waiting | closed
    · rw [waiting]
      decide
    · rw [closed]
      decide
  refine ⟨?_, (call_sends call done).mono fun frame segment => ?_⟩
  · rcases (call_keeps call done).state with same | ⟨before, -⟩ | after
    · rwa [Unconnected, same]
    · exact absurd before notEstablished
    · exact Or.inr after
  · cases call with
    | syn => exact noSyn rfl
    | send data => exact notEstablished segment.1
    | closeStart => exact notEstablished (closeStart_state done).1
    | _ => exact segment

theorem arpRequestFrame_not_tcp (s : NetStack) (targetIp : UINT32) : ¬IsTcpFrame (s.arpRequestFrame targetIp) := by
  intro tcp
  have type := tcp.1
  unfold arpRequestFrame at type
  rw [frameEth_parts] at type
  have equal : htons ethertypeArp = htons ethertypeIpv4 := type
  exact absurd equal (by decide)

/-- An initialization keeps the session unconnected unless one of its polls brings the SYN+ACK. -/
theorem askGateway_staysUnconnected {result : Except (EfiStatus × NetStack) NetStack} {st : EfiStatus}
    (unconnected : s.Unconnected) (prepared : Prepared TcpQuiet s result)
    (unanswered : ∀ polling ∈ gatewayPolls result, polling.tcp.state = .synSent → ∀ input, ¬polling.TakesSynAck input)
    (done : askGateway result = some (st, s')) : StaysUnconnected s s' := by
  cases result with
  | error failed =>
      obtain rfl := Option.some.inj done
      exact .of_quiet unconnected prepared.2
  | ok asking =>
      obtain ⟨asked, loop, result⟩ := Option.bind_eq_some_iff.mp done
      obtain ⟨rfl, rfl⟩ := Prod.mk.inj (Option.some.inj result)
      have start : TcpQuiet s asking.gatewayOpen := prepared.trans (TcpQuiet.of_trace rfl rfl)
      refine requestLoop_keeps_of_polls (P := StaysUnconnected s) asking.gatewayOpen ?_ ?_ (.of_quiet unconnected start)
        ?_ loop
      · intro before after stays sent
        obtain rfl := Option.some.inj sent
        exact stays.trans (.of_quiet stays.unconnected (before.sendFrame_tcpQuiet (before.arpRequestFrame_not_tcp _)))
      · intro before stays
        exact stays.trans (.of_quiet stays.unconnected (before.log_tcpQuiet rfl rfl))
      · intro last member after stays polled
        have brings := unanswered last.stack (List.mem_map_of_mem member)
        exact stays.trans (poll_staysUnconnected stays.unconnected brings polled)

theorem act_staysUnconnected {act : Act} (other : act.OpensNothing) (unanswered : s.Unanswered act)
    (unconnected : s.Unconnected) (done : act.run s = some s') : StaysUnconnected s s' := by
  cases act with
  | move own =>
    cases own with
    | poll => exact poll_staysUnconnected unconnected (unanswered s List.mem_cons_self) done
    | call call =>
      exact call_staysUnconnected (fun syn => other.2 (congrArg (Act.move ∘ Move.call) syn)) unconnected done
  | tcpOpen ip port => exact absurd rfl (other.1 ip port)
  | initNetwork boot =>
    obtain ⟨⟨st, ended⟩, called, rfl⟩ := Option.map_eq_some_iff.mp done
    rw [initNetwork_eq] at called
    exact askGateway_staysUnconnected unconnected (TcpQuiet.preparation.dhcpPrepared boot s) unanswered called
  | initNetworkStatic boot ip gateway mask dns =>
    obtain ⟨⟨st, ended⟩, called, rfl⟩ := Option.map_eq_some_iff.mp done
    rw [initNetworkStatic_eq] at called
    exact askGateway_staysUnconnected unconnected (TcpQuiet.preparation.staticPrepared boot ip gateway mask dns s)
      unanswered called
  | flushArp =>
    obtain rfl := Option.some.inj done
    exact .of_quiet unconnected (TcpQuiet.of_trace rfl rfl)

theorem Afterwards.staysUnconnected (run : Afterwards Unanswered s s') (unconnected : s.Unconnected) :
    StaysUnconnected s s' := by
  induction run with
  | refl => exact .refl unconnected
  | tail _ step ih =>
      obtain ⟨act, other, unanswered, done⟩ := step
      exact ih.trans (act_staysUnconnected other unanswered ih.unconnected done)

/-- What a failed connect promises of a later stack. -/
structure StaysFailed (s s' : NetStack) : Prop where
  notEstablished : s'.tcp.state ≠ .established
  sends : Sends (fun _ => False) s s'
  refuses : ∀ data, Api.tcpSend data s' = some (.notReady, s')

theorem StaysUnconnected.failed (stays : StaysUnconnected s s') : StaysFailed s s' := by
  have notEstablished : s'.tcp.state ≠ .established := by
    rcases stays.unconnected with waiting | closed
    · rw [waiting]
      decide
    · rw [closed]
      decide
  exact { notEstablished, sends := stays.sends, refuses := fun data => if_pos notEstablished }

/-- Behind a failed connect, every run of other calls in which no poll brings a waiting session a SYN+ACK leaves
the connection failed. -/
theorem failed_connect_stays (fails : ConnectFails s s') (run : Afterwards Unanswered s' s'') :
    StaysFailed s' s'' :=
  (run.staysUnconnected fails.unconnected).failed

end NetStack

namespace Scenario

/-- The peer refuses the connection, and a SYN+ACK comes behind its reset. -/
def refusal : SegmentFrame := segmentFrom remoteIp 80 (tcpFlagRst ||| tcpFlagAck) 0 (iss + 1) [] noData_fits

def refusalFrame : RxFrame := { bytes := refusal.bytes, fits := by decide }

def beforeRefusal : NetStack :=
  { beforeConnect with snp := { receive := [.frame refusalFrame, .frame synAckFrame] } }

theorem beforeRefusal_connects : (Api.tcpConnect remoteIp 80 beforeRefusal).isSome := by decide +kernel

def refused : EfiStatus × NetStack := (Api.tcpConnect remoteIp 80 beforeRefusal).get beforeRefusal_connects

theorem refused_polls : refused.2.poll.isSome := by decide +kernel

def afterRefusal : NetStack := refused.2.poll.get refused_polls

theorem refused_fails : NetStack.ConnectFails beforeRefusal refused.2 :=
  .tcpConnect (Option.some_get beforeRefusal_connects).symm (by decide +kernel)

theorem afterRefusal_run : NetStack.Afterwards NetStack.Unanswered refused.2 afterRefusal := by
  have closed : refused.2.tcp.state = .closed := by decide +kernel
  refine ReflTransGen.single ⟨.move .poll, ⟨by simp, by simp⟩, ?_, (Option.some_get refused_polls).symm⟩
  intro polling member waiting
  rw [List.mem_singleton.mp member, closed] at waiting
  cases waiting

/-- A configured stack on which nothing arrives during `tcp_connect`, and its SYN+ACK right behind it. -/
def beforeSilence : NetStack :=
  { beforeConnect with
    snp := { receive := List.replicate timeoutTcpLoops .notReady ++ [.frame synAckFrame] } }

end Scenario

namespace NetStack

variable {s s' : NetStack}

/-- A request loop of `tcp_connect` that hears nothing gives up as it was opened. -/
theorem requestLoop_silent {rest : List Receive} {loops timeout : Nat} (waiting : s.tcp.state = .synSent)
    (silent : s.snp.receive = List.replicate loops .notReady ++ rest) :
    ∃ s', requestLoop (fun s => s.tcp.state = .established || s.tcp.state = .closed)
        (fun s => s.sendTcpControl tcpFlagSyn) loops timeout s = some s' ∧ s'.tcp = s.tcp ∧ s'.snp.receive = rest := by
  induction loops generalizing s timeout with
  | zero => exact ⟨s, rfl, rfl, silent⟩
  | succ loops ih =>
      have asks : ∃ asked, requestDue (fun s => s.sendTcpControl tcpFlagSyn) timeout s = some asked ∧
          asked.tcp = s.tcp ∧ asked.snp.receive = s.snp.receive := by
        unfold requestDue
        split
        · obtain ⟨frame, sent, -⟩ := s.sendTcpInternal_eq tcpFlagSyn s.tcp.seq s.tcp.ack [] (Nat.zero_le _)
          exact ⟨_, sent, rfl, sendFrame_receive frame s.getU32.2⟩
        · exact ⟨s, rfl, rfl, rfl⟩
      obtain ⟨asked, due, tcp, receive⟩ := asks
      have answers : asked.snp.receive = .notReady :: (List.replicate loops .notReady ++ rest) := by
        rw [receive, silent, List.replicate_succ, List.cons_append]
      have next : asked.nextReceive = .notReady := by rw [nextReceive, answers]; rfl
      have polled : asked.poll = some (asked.received.log (.receive .notReady)) := by
        rw [poll, next]
        rfl
      have still : ((asked.received.log (.receive .notReady)).stall stall1ms).tcp = s.tcp := tcp
      have tail : ((asked.received.log (.receive .notReady)).stall stall1ms).snp.receive =
          List.replicate loops .notReady ++ rest := by
        change asked.snp.receive.tail = _
        rw [answers]
        rfl
      rw [requestLoop, if_neg (by simp [waiting]), due]
      simp only [Option.bind_eq_bind, Option.bind_some]
      rw [polled]
      obtain ⟨ended, loop, same, left⟩ := ih (by rw [still, waiting]) tail
      exact ⟨ended, loop, by rw [same, still], left⟩

open Scenario in
/-- The SYN+ACK that comes behind the limit of the loop establishes the failed connection. -/
theorem late_synAck_establishes : ¬∀ s s' s'' : NetStack, ConnectFails s s' → Afterwards (fun _ _ => True) s' s'' →
    StaysFailed s' s'' := by
  intro stays
  obtain ⟨ended, loop, tcp, left⟩ := @requestLoop_silent (beforeSilence.tcpOpen remoteIp 80) [.frame synAckFrame]
    timeoutTcpLoops 0 rfl rfl
  have waiting : ended.tcp.state = .synSent := by rw [tcp]; rfl
  have gaveUp : Api.tcpConnect remoteIp 80 beforeSilence = some (.timeout, ended) := by
    rw [Api.tcpConnect, loop]
    exact congrArg some (Prod.ext (if_neg (by rw [waiting]; decide)) rfl)
  have fails : ConnectFails beforeSilence ended := .tcpConnect gaveUp (by decide)
  have port : ended.tcp.localPort = localPort := by
    rw [tcp]
    decide +kernel
  have next : ended.nextReceive = .frame synAckFrame := by rw [nextReceive, left]; rfl
  have takes : ended.TakesSynAck synAck.input := by
    refine ⟨?_, by decide, by decide⟩
    have arrives := @SegmentFrame.arrivalOn_eq synAck ended synAckFrame rfl (by rw [port]; decide)
      (by rw [port]; decide)
    rw [incoming, next, arrives]
    rfl
  obtain ⟨after, polled, established, -⟩ := poll_accepts waiting takes
  have run : Afterwards (fun _ _ => True) ended after :=
    ReflTransGen.single ⟨.move .poll, ⟨by simp, by simp⟩, trivial, polled⟩
  exact (stays _ _ _ fails run).notEstablished established

open Scenario in
/-- A refused connect, and a SYN+ACK behind the reset. -/
theorem failed_connect_stays_refused : StaysFailed refused.2 afterRefusal :=
  failed_connect_stays refused_fails afterRefusal_run

end NetStack
end UefiNetstack
