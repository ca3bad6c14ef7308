import UefiNetstack.Buffers.Bounds
import UefiNetstack.Session.Initialization

namespace UefiNetstack
open Constants NetStack Relation

/-- The receive call whose buffer an act passes. -/
def Act.passes : Act → Option Channel
  | .move (.call (.receiveStart _ _)) => some .tcp
  | .move (.call (.udpReceiveStart _ _)) => some .udp
  | _ => none

/-- The receive call whose buffer pointer an act drops, before the call returns. -/
def Act.returns : Act → Option Channel
  | .move (.call .receiveEnd) => some .tcp
  | .move (.call .udpReceiveEnd) => some .udp
  | _ => none

namespace NetStack

variable {s s' s'' : NetStack} {channel : Channel}

/-- Steps that keep both waiting calls, or make the copies of a poll. -/
def BufferRun : NetStack → NetStack → Prop := ReflTransGen fun s s' => KeepsPending s s' ∨ BufferStep s s'

theorem KeepsPending.run (keeps : KeepsPending s s') : BufferRun s s' := ReflTransGen.single (Or.inl keeps)

theorem BufferStep.run (step : BufferStep s s') : BufferRun s s' := ReflTransGen.single (Or.inr step)

theorem BufferRun.bounded (run : BufferRun s s') (bounded : s.Bounded) : s'.Bounded := by
  induction run with
  | refl => exact bounded
  | tail _ step ih =>
      rcases step with keeps | step
      · exact keeps.bounded ih
      · exact (step.within ih).bounded

theorem BufferRun.null (run : BufferRun s s') (null : (s.pending channel).buffer = none) :
    (s'.pending channel).buffer = none ∧ s'.copiesTo channel = s.copiesTo channel := by
  induction run with
  | refl => exact ⟨null, rfl⟩
  | tail _ step ih =>
      obtain ⟨dropped, same⟩ := ih
      rcases step with keeps | step
      · exact ⟨(keeps.null dropped).1, (keeps.null dropped).2.trans same⟩
      · exact ⟨(step.null dropped).1, (step.null dropped).2.trans same⟩

theorem stall_keepsPending (s : NetStack) (micros : Nat) : KeepsPending s (s.stall micros) :=
  (s.log_copiesNothing rfl).keepsPending

theorem sendFrame_keepsPending (data : TxFrame) (s : NetStack) : KeepsPending s (s.sendFrame data) :=
  (sendFrame_copiesNothing data s).keepsPending

/-- A step that changes neither the receive state nor the trace. -/
theorem KeepsPending.of_trace (tcp : s'.tcp.pending = s.tcp.pending) (udp : s'.udp.pending = s.udp.pending)
    (trace : s'.trace = s.trace) : KeepsPending s s' where
  pending channel := by
    cases channel with
    | tcp => exact tcp
    | udp => exact udp
  copies := congrArg (List.filterMap Event.copy?) trace

theorem sendUdp_keepsPending {destIp : UINT32} {destPort srcPort : UINT16} {data : Bytes}
    (done : s.sendUdp destIp destPort srcPort data = some s') : KeepsPending s s' := by
  obtain ⟨frame, -, rfl⟩ := sendUdp_cases done
  have drawn : KeepsPending s s.getU32.2 := KeepsPending.of_trace rfl rfl rfl
  exact drawn.trans (sendFrame_keepsPending frame _)

theorem dnsQuery_keepsPending {hostname : CString} (done : s.dnsQuery hostname = some s') : KeepsPending s s' := by
  obtain ⟨frame, -, rfl⟩ := dnsQuery_cases done
  have drawn : KeepsPending s s.dnsPrepared := KeepsPending.of_trace rfl rfl rfl
  exact drawn.trans (sendFrame_keepsPending frame _)

theorem udpBind_keepsPending (s : NetStack) : KeepsPending s s.udpBind := by
  unfold udpBind
  split
  all_goals exact KeepsPending.of_trace rfl rfl rfl

theorem sendTcpInternal_keepsPending {flags : UINT8} {seq ack : UINT32} {data : Bytes}
    (done : s.sendTcpInternal flags seq ack data = some s') : KeepsPending s s' :=
  (sendTcpInternal_copiesNothing done).keepsPending

/-- An act polls and keeps the pending receives, or is at one end of a receive call. -/
inductive ActStep (act : Act) (s s' : NetStack) : Prop
  | quiet (passes : act.passes = none) (returns : act.returns = none) (run : BufferRun s s')
  | start (channel : Channel) (passes : act.passes = some channel) (returns : act.returns = none) (buffer : Memory)
      (maxLen : UINTN)
      (pending : s'.pending channel = { buffer := some buffer, maxLen, currentLen := 0 })
      (others : ∀ other, other ≠ channel → s'.pending other = s.pending other) (copies : s'.copies = s.copies)
  | drop (channel : Channel) (passes : act.passes = none) (returns : act.returns = some channel)
      (pending : s'.pending channel = { s.pending channel with buffer := none })
      (others : ∀ other, other ≠ channel → s'.pending other = s.pending other) (copies : s'.copies = s.copies)

theorem call_actStep {call : Call} (done : call.run s = some s') : ActStep (.move (.call call)) s s' := by
  cases call with
  | stall micros =>
      obtain rfl := Option.some.inj done
      exact .quiet rfl rfl (s.stall_keepsPending micros).run
  | syn =>
      have sent : s.sendTcpControl tcpFlagSyn = some s' := done
      exact .quiet rfl rfl (sendTcpInternal_keepsPending sent).run
  | send data =>
      rcases Call.send_cases done with ⟨-, rfl⟩ | ⟨-, out, first, rfl⟩
      · exact .quiet rfl rfl (KeepsPending.refl s').run
      · have sent := sendTcpInternal_keepsPending first
        exact .quiet rfl rfl (KeepsPending.run (sent.trans (KeepsPending.of_trace rfl rfl rfl)))
  | receiveStart buffer maxLen =>
      obtain rfl := Option.some.inj done
      exact .start .tcp rfl rfl buffer maxLen rfl (fun other different => by cases other <;> first | rfl | contradiction) rfl
  | receiveEnd =>
      obtain rfl := Option.some.inj done
      exact .drop .tcp rfl rfl rfl (fun other different => by cases other <;> first | rfl | contradiction) rfl
  | closeStart =>
      obtain ⟨-, out, first, rfl⟩ := Call.closeStart_cases done
      have sent := sendTcpInternal_keepsPending first
      exact .quiet rfl rfl (KeepsPending.run (sent.trans (KeepsPending.of_trace rfl rfl rfl)))
  | closeEnd =>
      obtain rfl := Option.some.inj done
      have keeps : KeepsPending s s.tcpCloseEnd := KeepsPending.of_trace rfl rfl rfl
      exact .quiet rfl rfl keeps.run
  | udpSend destIp destPort data =>
      have sent := sendUdp_keepsPending (Call.udpSend_cases done)
      exact .quiet rfl rfl (s.udpBind_keepsPending.trans sent).run
  | udpReceiveStart buffer maxLen =>
      obtain rfl := Option.some.inj done
      exact .start .udp rfl rfl buffer maxLen rfl (fun other different => by cases other <;> first | rfl | contradiction) rfl
  | udpReceiveEnd =>
      obtain rfl := Option.some.inj done
      exact .drop .udp rfl rfl rfl (fun other different => by cases other <;> first | rfl | contradiction) rfl
  | ping targetIp =>
      obtain rfl := Option.some.inj done
      have keeps : KeepsPending s (s.pingStart targetIp) :=
        ⟨fun channel => by cases channel <;> rfl, sendFrame_copies _ _⟩
      exact .quiet rfl rfl keeps.run
  | resolve =>
      obtain rfl := Option.some.inj done
      have keeps : KeepsPending s s.resolveStart := KeepsPending.of_trace rfl rfl rfl
      exact .quiet rfl rfl keeps.run
  | query hostname => exact .quiet rfl rfl (dnsQuery_keepsPending done).run

theorem Prepares.keepsPending (prepares : Prepares s s') : KeepsPending s s' where
  pending channel := by
    cases channel with
    | tcp => exact congrArg TcpSession.pending prepares.tcp
    | udp => exact congrArg UdpReceiver.pending prepares.udp
  copies := prepares.copies

/-- While an initialization waits for the gateway the handlers see what it polls. -/
theorem resolveGateway_run (done : s.resolveGateway = some s') : BufferRun s s' := by
  have start : KeepsPending s { s with arp := { s.arp with resolved := false, targetIp := s.identity.routerIp } } :=
    KeepsPending.of_trace rfl rfl rfl
  refine requestLoop_keeps (P := BufferRun s) ?_ ?_ ?_ start.run done
  · intro before after run waiting asked
    obtain rfl := Option.some.inj asked
    exact ⟨run.trans (sendFrame_keepsPending _ before).run, waiting⟩
  · intro before after run _ polled
    exact run.trans (poll_bufferStep polled).run
  · intro before run
    exact run.trans (before.stall_keepsPending _).run

theorem GatewayAsked.run {st : EfiStatus} (asked : GatewayAsked s s' st) : BufferRun s s' := by
  obtain ⟨prepared, prepares, ⟨-, rfl⟩ | ⟨resolved, -⟩⟩ := asked
  · exact prepares.keepsPending.run
  · exact prepares.keepsPending.run.trans (resolveGateway_run resolved)

theorem tcpOpen_keepsPending (ip : UINT32) (port : UINT16) (s : NetStack) : KeepsPending s (s.tcpOpen ip port) :=
  KeepsPending.of_trace rfl rfl rfl

theorem act_actStep {act : Act} (done : act.run s = some s') : ActStep act s s' := by
  cases act with
  | move move =>
      cases move with
      | poll => exact .quiet rfl rfl (poll_bufferStep done).run
      | call call => exact call_actStep done
  | tcpOpen ip port =>
      obtain rfl := Option.some.inj done
      exact .quiet rfl rfl (tcpOpen_keepsPending ip port s).run
  | initNetwork boot =>
      obtain ⟨⟨st, ended⟩, called, rfl⟩ := Option.map_eq_some_iff.mp done
      exact .quiet rfl rfl (initNetwork_asks called).run
  | initNetworkStatic boot ip gateway mask dns =>
      obtain ⟨⟨st, ended⟩, called, rfl⟩ := Option.map_eq_some_iff.mp done
      exact .quiet rfl rfl (initNetworkStatic_asks called).run
  | flushArp =>
      obtain rfl := Option.some.inj done
      have keeps : KeepsPending s { s with arpCache := s.arpCache.flush } := KeepsPending.of_trace rfl rfl rfl
      exact .quiet rfl rfl keeps.run

theorem ActStep.bounded {act : Act} (step : ActStep act s s') (bounded : s.Bounded) : s'.Bounded := by
  cases step with
  | quiet _ _ run => exact run.bounded bounded
  | start channel _ _ buffer maxLen pending others _ =>
      intro other
      by_cases same : other = channel
      · rw [same, pending]
        exact BitVec.le_def.mpr (Nat.zero_le _)
      · rw [others other same]
        exact bounded other
  | drop channel _ _ pending others _ =>
      intro other
      by_cases same : other = channel
      · rw [same, pending]
        exact bounded channel
      · rw [others other same]
        exact bounded other

/-- A pointer that is null stays null until an act passes a buffer to its call, and nothing is copied through
it. -/
theorem ActStep.null {act : Act} (step : ActStep act s s') (null : (s.pending channel).buffer = none) :
    s'.copiesTo channel = s.copiesTo channel ∧ (act.passes ≠ some channel → (s'.pending channel).buffer = none) := by
  cases step with
  | quiet _ _ run => exact ⟨(run.null null).2, fun _ => (run.null null).1⟩
  | start started passes _ _ _ _ others copies =>
      refine ⟨by rw [copiesTo, copies, copiesTo], fun other => ?_⟩
      rw [others channel fun same => other (same ▸ passes)]
      exact null
  | drop dropped _ _ pending others copies =>
      refine ⟨by rw [copiesTo, copies, copiesTo], fun _ => ?_⟩
      by_cases same : channel = dropped
      · rw [same, pending]
      · rw [others channel same]
        exact null

/-- An act that ends a receive call drops its pointer. -/
theorem ActStep.dropped {act : Act} (step : ActStep act s s') (returns : act.returns = some channel) :
    (s'.pending channel).buffer = none := by
  cases step with
  | quiet _ noReturn _ => cases noReturn.symm.trans returns
  | start _ _ noReturn _ _ _ _ _ => cases noReturn.symm.trans returns
  | drop dropped _ returned pending _ _ =>
      obtain rfl := Option.some.inj (returned.symm.trans returns)
      rw [pending]

/-- The counted lengths are within the sizes in every reachable state. -/
theorem reachable_bounded (reachable : Reachable s) : s.Bounded := by
  induction reachable with
  | initial rxPkt snp =>
      intro channel
      cases channel
      all_goals exact BitVec.le_def.mpr (Nat.le_refl _)
  | initNetwork _ called ih => exact (initNetwork_asks called).run.bounded ih
  | initNetworkStatic _ called ih => exact (initNetworkStatic_asks called).run.bounded ih
  | tcpOpen ip port _ ih => exact (tcpOpen_keepsPending ip port _).bounded ih
  | @move move _ _ _ done ih => exact (@act_actStep _ _ (.move move) done).bounded ih

/-- In a run from a state without a pending buffer, the buffer that is pending was passed by an act of the
run, and its call has not ended since. -/
theorem runAll_passed {acts : List Act} (null : (s.pending channel).buffer = none)
    (run : Act.runAll acts s = some s') (pending : (s'.pending channel).buffer ≠ none) :
    ∃ before act after, acts = before ++ act :: after ∧ act.passes = some channel ∧
      ∀ later ∈ after, later.passes ≠ some channel ∧ later.returns ≠ some channel := by
  induction acts using List.reverseRecOn generalizing s' with
  | nil =>
      obtain rfl := Option.some.inj run
      exact absurd null pending
  | append_singleton acts act ih =>
      obtain ⟨middle, first, last⟩ := Act.runAll_append_singleton run
      have step := act_actStep last
      by_cases passes : act.passes = some channel
      · exact ⟨acts, act, [], rfl, passes, by simp⟩
      · have kept : act.returns ≠ some channel := fun returns => pending (step.dropped returns)
        have held : (middle.pending channel).buffer ≠ none := fun dropped => pending ((step.null dropped).2 passes)
        obtain ⟨before, passed, after, rfl, here, quiet⟩ := ih first held
        refine ⟨before, passed, after ++ [act], by simp, here, ?_⟩
        intro later member
        rcases List.mem_append.mp member with old | new
        · exact quiet later old
        · rw [List.mem_singleton.mp new]
          exact ⟨passes, kept⟩

/-- The loop in which a receive call waits. -/
def waitOn (channel : Channel) : Nat → NetStack → Option NetStack :=
  match channel with
  | .tcp => waitLoop tcpReceiveDone stall100us
  | .udp => waitLoop (fun s => s.udp.rxDone) stall100us

/-- The state in which a receive call starts to wait. -/
def receiveStart (channel : Channel) (buffer : Memory) (maxLen : UINTN) : NetStack → NetStack :=
  match channel with
  | .tcp => tcpReceiveStart buffer maxLen
  | .udp => udpReceiveStart buffer maxLen

end NetStack

/-- The two receive calls of the API. -/
def Api.receive (channel : Channel) : Memory → UINTN → UINT32 → NetStack → Option Received :=
  match channel with
  | .tcp => Api.tcpReceive
  | .udp => Api.udpReceive

namespace NetStack

theorem receiveStart_waits (channel : Channel) (buffer : Memory) (maxLen : UINTN) (s : NetStack) :
    Waits channel buffer maxLen (receiveStart channel buffer maxLen s) := by
  cases channel
  all_goals exact ⟨rfl, BitVec.le_def.mpr (Nat.zero_le _), buffer, rfl, fun _ _ => rfl⟩

theorem receiveStart_reachable (reachable : Reachable s) (buffer : Memory) (maxLen : UINTN) :
    Reachable (receiveStart channel buffer maxLen s) := by
  cases channel with
  | tcp => exact reachable.moves (Moves.call (.receiveStart buffer maxLen) rfl)
  | udp => exact reachable.moves (Moves.call (.udpReceiveStart buffer maxLen) rfl)

theorem waitOn_waits {buffer : Memory} {maxLen : UINTN} {rounds : Nat} (waits : Waits channel buffer maxLen s)
    (done : waitOn channel rounds s = some s') : Waits channel buffer maxLen s' := by
  have polls (before after : NetStack) (waits : Waits channel buffer maxLen before) (polled : before.poll = some after) :=
    (poll_bufferStep polled).waits waits
  have stalls (before : NetStack) (waits : Waits channel buffer maxLen before) :
      Waits channel buffer maxLen (before.stall stall100us) :=
    waits.congr ((before.stall_keepsPending stall100us).pending channel)
  cases channel with
  | tcp => exact waitLoop_keeps (fun before after waits _ polled => polls before after waits polled) stalls waits done
  | udp => exact waitLoop_keeps (fun before after waits _ polled => polls before after waits polled) stalls waits done

theorem waitOn_reachable {rounds : Nat} (reachable : Reachable s) (done : waitOn channel rounds s = some s') :
    Reachable s' := by
  cases channel with
  | tcp => exact reachable.moves (waitLoop_moves rounds done)
  | udp => exact reachable.moves (waitLoop_moves rounds done)

/-- A receive call returns what the wait has left and drops the pointer. -/
theorem receive_returns {buffer : Memory} {maxLen : UINTN} {timeoutMs : UINT32} {received : Received}
    (done : Api.receive channel buffer maxLen timeoutMs s = some received) :
    ∃ ended, waitOn channel (maxLoops timeoutMs) (receiveStart channel buffer maxLen s) = some ended ∧
      received.actualLen = (ended.pending channel).currentLen ∧
      received.buffer = (ended.pending channel).buffer.getD buffer ∧
      (received.stack.pending channel).buffer = none := by
  cases channel with
  | tcp =>
      obtain ⟨ended, loop, result⟩ := Option.bind_eq_some_iff.mp done
      obtain rfl := Option.some.inj result
      exact ⟨ended, loop, rfl, rfl, rfl⟩
  | udp =>
      obtain ⟨ended, loop, result⟩ := Option.bind_eq_some_iff.mp done
      obtain rfl := Option.some.inj result
      exact ⟨ended, loop, rfl, rfl, rfl⟩

/-- In every state in which a receive call waits, a poll copies below the size of its buffer and behind what is
counted, and keeps the counted lengths within the sizes. The call returns at most the size and leaves the
buffer alone from the size on. Afterwards, whatever the callers do, each copy goes through a pointer that
was passed since. -/
theorem receive_within_buffer (channel : Channel) (buffer : Memory) (maxLen : UINTN) (reachable : Reachable s) :
    (∀ rounds waiting, waitOn channel rounds (receiveStart channel buffer maxLen s) = some waiting →
      (waiting.pending channel).maxLen = maxLen ∧ (waiting.pending channel).currentLen ≤ maxLen ∧
        ∀ polled, waiting.poll = some polled → WithinBuffers waiting polled) ∧
    ∀ timeoutMs received, Api.receive channel buffer maxLen timeoutMs s = some received →
      received.actualLen ≤ maxLen ∧ (∀ index, maxLen.toNat ≤ index → received.buffer index = buffer index) ∧
        ∀ (acts : List Act) (act : Act) (before after : NetStack),
          Act.runAll acts received.stack = some before → act.run before = some after →
          after.copiesTo channel ≠ before.copiesTo channel →
          ∃ earlier passing later, acts = earlier ++ passing :: later ∧ passing.passes = some channel ∧
            ∀ other ∈ later, other.passes ≠ some channel ∧ other.returns ≠ some channel := by
  constructor
  · intro rounds waiting wait
    have waits := waitOn_waits (receiveStart_waits channel buffer maxLen s) wait
    have bounded := reachable_bounded (waitOn_reachable (receiveStart_reachable reachable buffer maxLen) wait)
    exact ⟨waits.size, waits.counted, fun polled poll => (poll_bufferStep poll).within bounded⟩
  · intro timeoutMs received done
    obtain ⟨ended, loop, actualLen, contents, null⟩ := receive_returns done
    have waits := waitOn_waits (receiveStart_waits channel buffer maxLen s) loop
    obtain ⟨held, same, rest⟩ := waits.held
    refine ⟨actualLen.symm ▸ waits.counted, ?_, ?_⟩
    · intro index outside
      rw [contents, same]
      exact rest index outside
    · intro acts act before after run last copied
      refine runAll_passed null run fun dropped => copied ?_
      exact ((act_actStep last).null dropped).1

end NetStack

namespace Scenario

/-- A datagram with three bytes for the port that the default seed gives the first send. -/
def datagram : RxFrame where
  bytes :=
    EthHdr.bytes { dst := localMac, src := gatewayMac, type := htons ethertypeIpv4 } ++
      IpHdr.bytes { ihlVersion := ipVersionIhlDefault, totLen := htons 31, protocol := ipProtoUdp } ++
      UdpHdr.bytes { source := htons 7, dest := htons localPort, len := htons 11 } ++ [1, 2, 3]
  fits := by decide

/-- The stack after its first send, with the datagram to come. -/
def bound : Option NetStack :=
  Move.run (.call (.udpSend gatewayIp 7 [0])) (.initial .zeros { receive := [.frame datagram] })

end Scenario

namespace NetStack

open Scenario in
/-- A receive with room for two bytes gets two of the three. -/
theorem receive_within_buffer_datagram : ∃ s received, bound = some s ∧
    Api.receive .udp (fun _ => 0) 2 1 s = some received ∧ received.actualLen = 2 ∧ received.actualLen ≤ 2 := by
  have returns : (bound.bind fun s => (Api.receive .udp (fun _ => 0) 2 1 s).map Received.actualLen) = some 2 := by
    decide +kernel
  obtain ⟨s, opened, rest⟩ := Option.bind_eq_some_iff.mp returns
  obtain ⟨received, done, actualLen⟩ := Option.map_eq_some_iff.mp rest
  have reachable : Reachable s := (Reachable.initial _ _).move opened
  exact ⟨s, received, opened, done, actualLen, ((receive_within_buffer .udp (fun _ => 0) 2 reachable).2 1 received done).1⟩

end NetStack
end UefiNetstack
