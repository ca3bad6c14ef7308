import UefiNetstack.Session.Stream

namespace UefiNetstack
open Constants

/-- The microseconds for which an event stalls. -/
def Event.micros : Event → Nat
  | .stall micros => micros
  | _ => 0

/-- An event asks Receive for a frame. -/
def Event.isReceive : Event → Bool
  | .receive _ => true
  | _ => false

/-- The events of one poll iteration: it asks for a frame once, handles the answer and stalls. -/
def IsIteration (micros : Nat) (events : List Event) : Prop :=
  ∃ answer work, events = .receive answer :: (work ++ [.stall micros]) ∧ ∀ event ∈ work, event.isReceive = false

theorem IsIteration.receives {micros : Nat} {events : List Event} (iteration : IsIteration micros events) :
    events.countP Event.isReceive = 1 := by
  obtain ⟨answer, work, rfl, silent⟩ := iteration
  have noReceive : work.countP Event.isReceive = 0 :=
    List.countP_eq_zero.mpr fun event member => Bool.eq_false_iff.mp (silent event member)
  rw [List.countP_cons, List.countP_append, noReceive]
  rfl

theorem IsIteration.stalls {micros : Nat} {events : List Event} (iteration : IsIteration micros events) :
    micros ≤ (events.map Event.micros).sum := by
  obtain ⟨answer, work, rfl, -⟩ := iteration
  simp only [List.map_cons, List.map_append, List.sum_cons, List.sum_append, Event.micros]
  omega

namespace NetStack

variable {done : NetStack → Bool} {micros count loops : Nat} {timeoutMs : UINT32} {s s' s'' : NetStack}

/-- The microseconds for which the stack has stalled. -/
def waited (s : NetStack) : Nat := (s.trace.map Event.micros).sum

/-- A step that asks for no frame. -/
def Works (s s' : NetStack) : Prop := ∃ work, s'.trace = s.trace ++ work ∧ ∀ event ∈ work, event.isReceive = false

/-- One stack leads to another by a number of poll iterations. -/
def Iterates (micros count : Nat) (s s' : NetStack) : Prop :=
  ∃ rounds : List (List Event), rounds.length = count ∧ (∀ events ∈ rounds, IsIteration micros events) ∧
    s'.trace = s.trace ++ rounds.flatten

theorem Works.of_trace (trace : s'.trace = s.trace) : Works s s' :=
  ⟨[], by rw [trace, List.append_nil], by simp⟩

theorem Works.trans (first : Works s s') (second : Works s' s'') : Works s s'' := by
  obtain ⟨work, trace, silent⟩ := first
  obtain ⟨work', trace', silent'⟩ := second
  refine ⟨work ++ work', by rw [trace', trace, List.append_assoc], fun event member => ?_⟩
  rcases List.mem_append.mp member with member | member
  · exact silent event member
  · exact silent' event member

theorem log_works (s : NetStack) {event : Event} (silent : event.isReceive = false) : Works s (s.log event) :=
  ⟨[event], rfl, by simpa using silent⟩

theorem sendFrame_works (s : NetStack) (frame : TxFrame) : Works s (s.sendFrame frame) := by
  obtain ⟨polled, events, quiet⟩ := Snp.sendRaw_events frame.bytes s.snp
  refine ⟨(s.snp.sendRaw frame.bytes).2.1, rfl, fun event member => ?_⟩
  rw [events] at member
  rcases List.mem_append.mp member with member | member
  · simp only [List.mem_cons, List.not_mem_nil, or_false] at member
    rcases member with rfl | rfl | rfl
    all_goals rfl
  · rcases quiet event member with ⟨answer, rfl⟩ | ⟨time, rfl⟩
    all_goals rfl

theorem dispatch_works (handled : s.dispatch = some s') : Works s s' :=
  dispatch_keeps Works.trans (fun _ _ _ _ _ _ _ _ _ => Works.of_trace rfl) sendFrame_works
    (fun s _ _ => s.log_works rfl) (fun s _ => s.log_works rfl) handled

/-- A poll asks for one frame, then handles the answer. -/
theorem poll_works (polled : s.poll = some s') : Works (s.received.log (.receive s.nextReceive)) s' := by
  cases poll_branch polled with
  | handle frame answer handled =>
    have landed : Works (s.received.log (.receive (.frame frame))) (s.received.landed frame) := Works.of_trace rfl
    rw [answer]
    exact landed.trans (dispatch_works handled)
  | wait answer waited =>
    rw [answer, waited]
    exact Works.of_trace rfl
  | reset answer recovered =>
    rw [answer, recovered]
    exact ((log_works _ rfl).trans (log_works _ rfl)).trans (log_works _ rfl)

theorem poll_iteration (polled : s.poll = some s') :
    ∃ events, IsIteration micros events ∧ (s'.stall micros).trace = s.trace ++ events := by
  obtain ⟨work, trace, silent⟩ := poll_works polled
  refine ⟨_, ⟨s.nextReceive, work, rfl, silent⟩, ?_⟩
  change s'.trace ++ [.stall micros] = _
  rw [trace]
  change s.trace ++ [.receive s.nextReceive] ++ work ++ [.stall micros] = _
  simp only [List.append_assoc, List.cons_append, List.nil_append]

/-- The trace counts the iterations. -/
theorem Iterates.receives (iterates : Iterates micros count s s') :
    s'.trace.countP Event.isReceive = s.trace.countP Event.isReceive + count := by
  obtain ⟨rounds, rfl, iterations, trace⟩ := iterates
  have ones : rounds.map (List.countP Event.isReceive) = List.replicate rounds.length 1 :=
    List.eq_replicate_iff.mpr ⟨List.length_map _, fun number member => by
      obtain ⟨events, round, rfl⟩ := List.mem_map.mp member
      exact (iterations events round).receives⟩
  rw [trace, List.countP_append, List.countP_flatten, ones, List.sum_replicate, smul_eq_mul, Nat.mul_one]

theorem Iterates.unique {count' : Nat} (iterates : Iterates micros count s s') (iterates' : Iterates micros count' s s') :
    count' = count := by
  have same := iterates.receives.symm.trans iterates'.receives
  omega

/-- Each iteration stalls. -/
theorem Iterates.waited (iterates : Iterates micros count s s') : s.waited + count * micros ≤ s'.waited := by
  obtain ⟨rounds, rfl, iterations, trace⟩ := iterates
  have each : rounds.length * micros ≤ (rounds.flatten.map Event.micros).sum := by
    clear trace
    induction rounds with
    | nil => simp
    | cons events rounds ih =>
      obtain ⟨here, rest⟩ := List.forall_mem_cons.mp iterations
      have stalls := here.stalls
      have others := ih rest
      rw [List.flatten_cons, List.map_append, List.sum_append, List.length_cons, Nat.succ_mul]
      omega
  rw [NetStack.waited, NetStack.waited, trace, List.map_append, List.sum_append]
  exact Nat.add_le_add_left each _

/-- A wait makes at most its number of iterations, and all of them when it does not end done. -/
theorem waitLoop_iterates (ended : waitLoop done micros loops s = some s') :
    ∃ count ≤ loops, Iterates micros count s s' ∧ (done s' = false → count = loops) := by
  induction loops generalizing s with
  | zero =>
      obtain rfl := Option.some.inj ended
      exact ⟨0, Nat.le_refl 0, ⟨[], rfl, by simp, (List.append_nil _).symm⟩, fun _ => rfl⟩
  | succ loops ih =>
      cases halts : done s with
      | true =>
          rw [waitLoop_done _ _ halts] at ended
          obtain rfl := Option.some.inj ended
          refine ⟨0, Nat.zero_le _, ⟨[], rfl, by simp, (List.append_nil _).symm⟩, fun open_ => ?_⟩
          rw [halts] at open_
          cases open_
      | false =>
          obtain ⟨polled, first, rest, -⟩ := waitLoop_step halts ended
          obtain ⟨count, most, ⟨rounds, length, iterations, trace⟩, all⟩ := ih rest
          obtain ⟨events, iteration, begins⟩ := @poll_iteration micros _ _ first
          refine ⟨count + 1, Nat.succ_le_succ most, ⟨events :: rounds, congrArg (· + 1) length, ?_, ?_⟩, ?_⟩
          · exact List.forall_mem_cons.mpr ⟨iteration, iterations⟩
          · rw [trace, begins, List.flatten_cons, List.append_assoc]
          · exact fun open_ => congrArg (· + 1) (all open_)

/-- The number of iterations of a timeout, without wrap. -/
def wanted (timeoutMs : UINT32) : Nat := 10 * timeoutMs.toNat

theorem maxLoops_eq (timeoutMs : UINT32) : maxLoops timeoutMs = wanted timeoutMs % 2 ^ 32 := by
  unfold maxLoops wanted
  rw [BitVec.toNat_mul, Nat.mul_comm]
  rfl

theorem maxLoops_le (timeoutMs : UINT32) : maxLoops timeoutMs ≤ wanted timeoutMs :=
  maxLoops_eq timeoutMs ▸ Nat.mod_le _ _

/-- The limit is the timeout exactly when the product does not wrap. -/
theorem wanted_le_maxLoops_iff (timeoutMs : UINT32) :
    wanted timeoutMs ≤ maxLoops timeoutMs ↔ wanted timeoutMs < 2 ^ 32 := by
  rw [maxLoops_eq]
  constructor
  · intro enough
    exact Nat.lt_of_le_of_lt enough (Nat.mod_lt _ (by decide))
  · intro small
    rw [Nat.mod_eq_of_lt small]

/-- A call waits for at most its timeout, and if it times out it has waited as long. -/
def WaitsFor (timeoutMs : UINT32) (timedOut : Prop) (s s' : NetStack) : Prop :=
  ∃ count, Iterates stall100us count s s' ∧ count ≤ wanted timeoutMs ∧
    (timedOut → wanted timeoutMs ≤ count ∧ s.waited + 1000 * timeoutMs.toNat ≤ s'.waited)

/-- A wait that does not wrap is long enough. -/
theorem waitLoop_waits {timedOut : Prop} (small : wanted timeoutMs < 2 ^ 32)
    (ended : waitLoop done stall100us (maxLoops timeoutMs) s = some s') (late : timedOut → done s' = false) :
    WaitsFor timeoutMs timedOut s s' := by
  obtain ⟨count, most, iterates, all⟩ := waitLoop_iterates ended
  refine ⟨count, iterates, most.trans (maxLoops_le timeoutMs), fun timedOut => ?_⟩
  have enough : wanted timeoutMs ≤ count := all (late timedOut) ▸ (wanted_le_maxLoops_iff timeoutMs).mpr small
  refine ⟨enough, ?_⟩
  have stalls : s.waited + count * 100 ≤ s'.waited := iterates.waited
  unfold wanted at enough
  omega

/-- A wait that wraps and times out is too short. -/
theorem WaitsFor.small {timedOut : Prop} (waits : WaitsFor timeoutMs timedOut s s')
    (ended : waitLoop done stall100us (maxLoops timeoutMs) s = some s') (late : timedOut) :
    wanted timeoutMs < 2 ^ 32 := by
  obtain ⟨count, iterates, -, enough⟩ := waits
  obtain ⟨count', most, iterates', -⟩ := waitLoop_iterates ended
  rw [iterates.unique iterates'] at most
  exact (wanted_le_maxLoops_iff timeoutMs).mp ((enough late).1.trans most)

/-- A wait for which nothing arrives runs to its end. -/
theorem waitLoop_silent (blind : ∀ s : NetStack, done ((s.received.log (.receive .notReady)).stall micros) = done s)
    (silent : s.snp.receive = []) (waiting : done s = false) (loops : Nat) :
    ∃ s', waitLoop done micros loops s = some s' ∧ done s' = false := by
  induction loops generalizing s with
  | zero => exact ⟨s, rfl, waiting⟩
  | succ loops ih =>
      have next : s.nextReceive = .notReady := by
        rw [nextReceive, silent]
        rfl
      have polled : s.poll = some (s.received.log (.receive .notReady)) := by
        rw [poll, next]
        rfl
      have left : ((s.received.log (.receive .notReady)).stall micros).snp.receive = [] := by
        change s.snp.receive.tail = []
        rw [silent]
        rfl
      obtain ⟨s', ended, open_⟩ := ih left ((blind s).trans waiting)
      exact ⟨s', (waitLoop_poll loops waiting polled).trans ended, open_⟩

end NetStack

namespace Scenario

/-- An established session of a peer that stays silent. -/
def connected : NetStack := ((opened [.frame synAckFrame]).bind NetStack.poll).get (by decide +kernel)

end Scenario

namespace NetStack
open Scenario

/-- The waits of `ping` keep their timeout. -/
def PingKeepsTimeout (timeoutMs : UINT32) : Prop :=
  ∀ (s : NetStack) (targetIp : UINT32) (st : EfiStatus) (s' : NetStack),
    Api.ping targetIp timeoutMs s = some (st, s') → WaitsFor timeoutMs (st = .timeout) (s.pingStart targetIp) s'

/-- The waits of `udp_receive` keep their timeout. -/
def UdpKeepsTimeout (timeoutMs : UINT32) : Prop :=
  ∀ (s : NetStack) (buffer : Memory) (maxLen : UINTN) (received : Received),
    Api.udpReceive buffer maxLen timeoutMs s = some received →
      WaitsFor timeoutMs (received.status = .timeout) s received.stack

/-- The waits of `tcp_receive` keep their timeout while the connection is neither closed nor reset. -/
def TcpKeepsTimeout (timeoutMs : UINT32) : Prop :=
  ∀ (s : NetStack) (buffer : Memory) (maxLen : UINTN) (received : Received),
    Api.tcpReceive buffer maxLen timeoutMs s = some received →
      WaitsFor timeoutMs (received.status = .timeout ∧ received.stack.tcp.state ≠ .closed ∧
        received.stack.tcp.state ≠ .closedDone) s received.stack

theorem pingKeepsTimeout_iff (timeoutMs : UINT32) : PingKeepsTimeout timeoutMs ↔ wanted timeoutMs < 2 ^ 32 := by
  constructor
  · intro waits
    obtain ⟨s', ended, open_⟩ := @waitLoop_silent (fun s => s.ping.replyReceived) stall100us
      ((powered []).pingStart remoteIp) (fun _ => rfl) (sendFrame_receive _ _) rfl (maxLoops timeoutMs)
    have returned : Api.ping remoteIp timeoutMs (powered []) = some (.timeout, s') := by
      rw [Api.ping, ended]
      exact congrArg some (Prod.ext (if_neg (Bool.eq_false_iff.mp open_)) rfl)
    exact (waits _ _ _ _ returned).small ended rfl
  · intro small s targetIp st s' returned
    obtain ⟨ended, loop, result⟩ := Option.bind_eq_some_iff.mp returned
    obtain ⟨rfl, rfl⟩ := Prod.mk.inj (Option.some.inj result)
    refine waitLoop_waits small loop fun late => Bool.eq_false_iff.mpr fun replied => ?_
    rw [if_pos replied] at late
    cases late

theorem udpKeepsTimeout_iff (timeoutMs : UINT32) : UdpKeepsTimeout timeoutMs ↔ wanted timeoutMs < 2 ^ 32 := by
  constructor
  · intro waits
    obtain ⟨s', ended, open_⟩ := @waitLoop_silent (fun s => s.udp.rxDone) stall100us
      ((powered []).udpReceiveStart (fun _ => 0) 64) (fun _ => rfl) rfl rfl (maxLoops timeoutMs)
    have returned : Api.udpReceive (fun _ => 0) 64 timeoutMs (powered []) = some
        { status := .timeout, actualLen := s'.udp.rxCurrentLen, buffer := s'.udp.rxBuffer.getD fun _ => 0,
          stack := s'.udpReceiveEnd } := by
      have flag : s'.udp.rxDone = false := open_
      rw [Api.udpReceive, ended]
      simp [flag]
    have late : WaitsFor timeoutMs _ ((powered []).udpReceiveStart (fun _ => 0) 64) s' := waits _ _ _ _ returned
    exact late.small ended rfl
  · intro small s buffer maxLen received returned
    obtain ⟨ended, loop, result⟩ := Option.bind_eq_some_iff.mp returned
    obtain rfl := Option.some.inj result
    have waits : WaitsFor timeoutMs ((if ended.udp.rxDone then EfiStatus.success else .timeout) = .timeout)
        (s.udpReceiveStart buffer maxLen) ended := by
      refine waitLoop_waits small loop fun late => Bool.eq_false_iff.mpr fun delivered => ?_
      rw [if_pos delivered] at late
      cases late
    exact waits

theorem tcpKeepsTimeout_iff (timeoutMs : UINT32) : TcpKeepsTimeout timeoutMs ↔ wanted timeoutMs < 2 ^ 32 := by
  constructor
  · intro waits
    have start : (connected.tcpReceiveStart (fun _ => 0) 64).tcpReceiveDone = false := by decide +kernel
    obtain ⟨s', ended, open_⟩ := @waitLoop_silent tcpReceiveDone stall100us
      (connected.tcpReceiveStart (fun _ => 0) 64) (fun _ => rfl) (by decide +kernel) start (maxLoops timeoutMs)
    have goesOn : s'.tcp.rxDone = false ∧ s'.tcp.state ≠ .closed ∧ s'.tcp.state ≠ .closedDone := by
      simpa [tcpReceiveDone, and_assoc] using open_
    have returned : Api.tcpReceive (fun _ => 0) 64 timeoutMs connected = some
        { status := .timeout, actualLen := s'.tcp.rxCurrentLen, buffer := s'.tcp.rxBuffer.getD fun _ => 0,
          stack := s'.tcpReceiveEnd } := by
      rw [Api.tcpReceive, ended]
      simp [goesOn.1]
    have late : WaitsFor timeoutMs _ (connected.tcpReceiveStart (fun _ => 0) 64) s' := waits _ _ _ _ returned
    exact late.small ended ⟨rfl, goesOn.2⟩
  · intro small s buffer maxLen received returned
    obtain ⟨ended, loop, result⟩ := Option.bind_eq_some_iff.mp returned
    obtain rfl := Option.some.inj result
    have waits : WaitsFor timeoutMs ((if ended.tcp.rxDone then EfiStatus.success else .timeout) = .timeout ∧
        ended.tcp.state ≠ .closed ∧ ended.tcp.state ≠ .closedDone) (s.tcpReceiveStart buffer maxLen) ended := by
      refine waitLoop_waits small loop ?_
      rintro ⟨late, closed, closedDone⟩
      have empty : ended.tcp.rxDone = false := by
        refine Bool.eq_false_iff.mpr fun delivered => ?_
        rw [if_pos delivered] at late
        cases late
      simp [tcpReceiveDone, empty, closed, closedDone]
    exact waits

/-- The three calls wait for their timeout exactly when ten times the timeout is below 2^32. -/
theorem timeouts_iff (timeoutMs : UINT32) : (PingKeepsTimeout timeoutMs ↔ 10 * timeoutMs.toNat < 2 ^ 32) ∧
    (UdpKeepsTimeout timeoutMs ↔ 10 * timeoutMs.toNat < 2 ^ 32) ∧
    (TcpKeepsTimeout timeoutMs ↔ 10 * timeoutMs.toNat < 2 ^ 32) :=
  ⟨pingKeepsTimeout_iff timeoutMs, udpKeepsTimeout_iff timeoutMs, tcpKeepsTimeout_iff timeoutMs⟩

/-- With a timeout of 429496730 milliseconds ten times the timeout is 2^32 + 4. -/
theorem timeouts_wrap :
    ¬∀ timeoutMs : UINT32, PingKeepsTimeout timeoutMs ∧ UdpKeepsTimeout timeoutMs ∧ TcpKeepsTimeout timeoutMs := by
  intro waits
  have small := (pingKeepsTimeout_iff 0x1999999A#32).mp (waits 0x1999999A#32).1
  exact absurd small (by decide)

end NetStack
end UefiNetstack
