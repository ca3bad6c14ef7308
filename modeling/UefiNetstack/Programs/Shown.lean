import UefiNetstack.Buffers.Segment
import UefiNetstack.Programs.Runs
import UefiNetstack.Outcomes.Initialization

namespace UefiNetstack
open Constants NetStack Relation

namespace NetStack

variable {s s' : NetStack}

/-- A `tcp_receive` has delivered the bytes that its buffer starts with. -/
structure Filled (delivered : Bytes) (maxLen : UINTN) (s : NetStack) : Prop where
  size : s.tcp.rxMaxLen = maxLen
  counted : s.tcp.rxCurrentLen ≤ maxLen
  held : ∃ held, s.tcp.rxBuffer = some held ∧ s.tcpDelivered = delivered ++ held.slice 0 s.tcp.rxCurrentLen.toNat

theorem Filled.of_pending {delivered : Bytes} {maxLen : UINTN} (filled : Filled delivered maxLen s)
    (pending : s'.tcp.pending = s.tcp.pending) (same : s'.tcpDelivered = s.tcpDelivered) :
    Filled delivered maxLen s' := by
  have buffer : s'.tcp.rxBuffer = s.tcp.rxBuffer := congrArg Pending.buffer pending
  have size : s'.tcp.rxMaxLen = s.tcp.rxMaxLen := congrArg Pending.maxLen pending
  have counted : s'.tcp.rxCurrentLen = s.tcp.rxCurrentLen := congrArg Pending.currentLen pending
  exact ⟨size ▸ filled.size, counted ▸ filled.counted, by rw [buffer, counted, same]; exact filled.held⟩

/-- A write behind a block extends it. -/
theorem slice_write (m : Memory) (len : Nat) (data : Bytes) :
    (m.write len data).slice 0 (len + data.length) = m.slice 0 len ++ data := by
  have front : (m.write len data).slice 0 len = m.slice 0 len := by
    refine List.map_congr_left fun index inside => ?_
    have below := List.mem_range.mp inside
    exact m.write_outside (Or.inl (by omega))
  rw [Memory.slice_add, front, Nat.zero_add, Memory.bytesAt_iff_slice.mp (m.write_bytesAt len data)]

theorem BufferStep.filled {delivered : Bytes} {maxLen : UINTN} (step : BufferStep s s')
    (filled : Filled delivered maxLen s) : Filled delivered maxLen s' := by
  cases step with
  | nothing nothing =>
      exact filled.of_pending nothing.tcp (by rw [tcpDelivered_copies, tcpDelivered_copies, nothing.copies])
  | udp buffer data pending room stored tcp copies =>
      refine filled.of_pending tcp ?_
      rw [tcpDelivered_copies, tcpDelivered_copies, copies, List.flatMap_append]
      exact List.append_nil _
  | tcp buffer data pending room stored udp copies =>
      obtain ⟨held, same, all⟩ := filled.held
      obtain rfl : buffer = held := Option.some.inj (pending.symm.trans same)
      have size := filled.size
      obtain ⟨below, counted⟩ := add_within (size ▸ filled.counted) room
      have buffer' : s'.tcp.rxBuffer = some (buffer.write s.tcp.rxCurrentLen.toNat data) :=
        congrArg Pending.buffer stored
      have maxLen' : s'.tcp.rxMaxLen = s.tcp.rxMaxLen := congrArg Pending.maxLen stored
      have currentLen' : s'.tcp.rxCurrentLen = s.tcp.rxCurrentLen + BitVec.ofNat 64 data.length :=
        congrArg Pending.currentLen stored
      have length : s'.tcp.rxCurrentLen.toNat = s.tcp.rxCurrentLen.toNat + data.length := by
        have small := s.tcp.rxMaxLen.isLt
        rw [currentLen', BitVec.toNat_add, BitVec.toNat_ofNat]
        omega
      refine ⟨maxLen'.trans size, ?_, _, buffer', ?_⟩
      · rw [currentLen', ← size]
        exact counted
      · have block := slice_write buffer s.tcp.rxCurrentLen.toNat data
        rw [tcpDelivered_copies, copies, List.flatMap_append, ← tcpDelivered_copies, all, length, block,
          List.append_assoc]
        exact congrArg _ (congrArg _ (List.append_nil data))

/-- What a `tcp_receive` returns is what was delivered in it. -/
theorem tcpReceive_delivers {buffer : Memory} {maxLen : UINTN} {timeoutMs : UINT32} {received : Received}
    (done : Api.tcpReceive buffer maxLen timeoutMs s = some received) :
    received.stack.tcpDelivered = s.tcpDelivered ++ received.buffer.slice 0 received.actualLen.toNat ∧
      received.stack.tcp.rxBuffer = none := by
  obtain ⟨ended, loop, result⟩ := Option.bind_eq_some_iff.mp done
  obtain rfl := Option.some.inj result
  have start : Filled s.tcpDelivered maxLen (s.tcpReceiveStart buffer maxLen) :=
    ⟨rfl, BitVec.le_def.mpr (Nat.zero_le _), buffer, rfl, (List.append_nil _).symm⟩
  have filled : Filled s.tcpDelivered maxLen ended := by
    refine waitLoop_keeps (fun before after filled _ polled => (poll_bufferStep polled).filled filled) ?_ start loop
    intro before filled
    refine filled.of_pending rfl ?_
    rw [tcpDelivered, tcpDelivered, NetStack.stall, log, List.flatMap_append]
    exact List.append_nil _
  obtain ⟨held, same, all⟩ := filled.held
  refine ⟨?_, rfl⟩
  dsimp only
  rw [same]
  exact all

/-- Without a pending buffer a step delivers nothing and passes none. -/
def Undelivering (s s' : NetStack) : Prop :=
  s.tcp.rxBuffer = none → s'.tcp.rxBuffer = none ∧ s'.tcpDelivered = s.tcpDelivered

theorem Undelivering.trans {s'' : NetStack} (first : Undelivering s s') (second : Undelivering s' s'') :
    Undelivering s s'' := by
  intro null
  obtain ⟨null', same⟩ := first null
  obtain ⟨null'', same'⟩ := second null'
  exact ⟨null'', same'.trans same⟩

theorem BufferRun.undelivering (run : BufferRun s s') : Undelivering s s' := by
  intro null
  obtain ⟨null', same⟩ := @BufferRun.null s s' .tcp run null
  refine ⟨null', ?_⟩
  have onlyTcp (s : NetStack) : s.tcpDelivered = (s.copiesTo .tcp).flatMap Copy.tcpBytes := by
    rw [tcpDelivered_copies, copiesTo]
    induction s.copies with
    | nil => rfl
    | cons copy copies ih => cases copy <;> simp [ih, Copy.channel, Copy.tcpBytes]
  rw [onlyTcp, onlyTcp, same]

theorem waitLoop_run {done : NetStack → Bool} {micros loops : Nat}
    (ended : waitLoop done micros loops s = some s') : BufferRun s s' := by
  refine waitLoop_keeps (P := BufferRun s) ?_ ?_ ReflTransGen.refl ended
  · exact fun before after run _ polled => run.trans (poll_bufferStep polled).run
  · exact fun before run => run.trans (before.stall_keepsPending micros).run

theorem requestLoop_run {done : NetStack → Bool} {request : NetStack → Option NetStack} {loops timeout : Nat}
    (asks : ∀ before after, request before = some after → KeepsPending before after)
    (ended : requestLoop done request loops timeout s = some s') : BufferRun s s' := by
  refine requestLoop_keeps_of_polls (P := BufferRun s) s ?_ ?_ ReflTransGen.refl ?_ ended
  · exact fun before after run asked => run.trans (asks before after asked).run
  · exact fun before run => run.trans (before.stall_keepsPending stall1ms).run
  · exact fun last _ after run polled => run.trans (poll_bufferStep polled).run

/-- An act that neither passes nor drops a buffer. -/
theorem ActStep.run {act : Act} (step : ActStep act s s') (passes : act.passes = none) (returns : act.returns = none) :
    BufferRun s s' := by
  cases step with
  | quiet _ _ run => exact run
  | start _ passed => cases passed.symm.trans passes
  | drop _ _ dropped => cases dropped.symm.trans returns

theorem Call.bufferRun (call : Call) (done : call.run s = some s') (passes : (Act.move (.call call)).passes = none)
    (returns : (Act.move (.call call)).returns = none) : BufferRun s s' := (call_actStep done).run passes returns

theorem ping_run {targetIp timeoutMs : UINT32} {st : EfiStatus}
    (done : Api.ping targetIp timeoutMs s = some (st, s')) : BufferRun s s' := by
  obtain ⟨ended, loop, result⟩ := Option.bind_eq_some_iff.mp done
  obtain ⟨-, rfl⟩ := Prod.mk.inj (Option.some.inj result)
  exact (Call.bufferRun (.ping targetIp) rfl rfl rfl).trans (waitLoop_run loop)

theorem resolveHostname_run {hostname : CString} {outIp ip : UINT32} {st : EfiStatus}
    (done : Api.resolveHostname hostname outIp s = some (st, ip, s')) : BufferRun s s' := by
  obtain ⟨ended, loop, result⟩ := Option.bind_eq_some_iff.mp done
  have same : s' = ended := by
    split at result
    all_goals
      obtain ⟨-, ends⟩ := Prod.mk.inj (Option.some.inj result)
      exact (Prod.mk.inj ends).2.symm
  subst same
  have started : BufferRun s s.resolveStart := Call.bufferRun .resolve rfl rfl rfl
  exact started.trans (requestLoop_run (fun _ _ asked => dnsQuery_keepsPending asked) loop)

theorem tcpConnect_run {ip : UINT32} {port : UINT16} {st : EfiStatus}
    (done : Api.tcpConnect ip port s = some (st, s')) : BufferRun s s' := by
  obtain ⟨ended, loop, result⟩ := Option.bind_eq_some_iff.mp done
  obtain ⟨-, rfl⟩ := Prod.mk.inj (Option.some.inj result)
  exact (tcpOpen_keepsPending ip port s).run.trans
    (requestLoop_run (fun _ _ asked => sendTcpInternal_keepsPending asked) loop)

theorem tcpSend_run {data : Bytes} {st : EfiStatus} (done : Api.tcpSend data s = some (st, s')) : BufferRun s s' := by
  have sent : (Call.send data).run s = some s' := by
    rw [Call.run, done]
    rfl
  exact Call.bufferRun (.send data) sent rfl rfl

theorem tcpClose_run {st : EfiStatus} (done : Api.tcpClose s = some (st, s')) : BufferRun s s' := by
  obtain ⟨drained, drains, result⟩ := Option.bind_eq_some_iff.mp done
  obtain ⟨-, rfl⟩ := Prod.mk.inj (Option.some.inj result)
  have ends : BufferRun drained drained.tcpCloseEnd := Call.bufferRun .closeEnd rfl rfl rfl
  refine ReflTransGen.trans ?_ ends
  unfold tcpDrain at drains
  split at drains
  · rename_i established
    obtain ⟨started, starts, loop⟩ := Option.bind_eq_some_iff.mp drains
    have closing : (Call.closeStart).run s = some started := (if_pos established).trans starts
    exact (Call.bufferRun .closeStart closing rfl rfl).trans (waitLoop_run loop)
  · obtain rfl := Option.some.inj drains
    exact ReflTransGen.refl

/-- The bytes that a call delivers are what it returns: all of them with success, or there are none and it returns
no success with a byte. -/
structure Returns (s : NetStack) (received : Received) : Prop where
  null : received.stack.tcp.rxBuffer = none
  delivers : ∃ delivered, received.stack.tcpDelivered = s.tcpDelivered ++ delivered ∧
    (delivered = [] ∧ (received.status.isError ∨ received.actualLen = 0#64) ∨
      delivered ≠ [] ∧ received.status = .success ∧ received.actualLen.toNat = delivered.length ∧
        received.buffer.slice 0 received.actualLen.toNat = delivered)

theorem tcpReceive_returned {buffer : Memory} {maxLen : UINTN} {timeoutMs : UINT32} {received : Received}
    (done : Api.tcpReceive buffer maxLen timeoutMs s = some received) : Returns s received := by
  obtain ⟨delivers, null⟩ := tcpReceive_delivers done
  refine ⟨null, _, delivers, ?_⟩
  by_cases empty : received.actualLen = 0#64
  · exact Or.inl ⟨by rw [empty]; rfl, Or.inr empty⟩
  · have positive : 1 ≤ received.actualLen.toNat := by
      by_contra zero
      exact empty (BitVec.eq_of_toNat_eq (by simpa using zero))
    have success : received.status = .success := by
      rcases tcpReceive_reports done with ⟨-, success, -⟩ | ⟨-, truthful⟩
      · exact success
      · exact truthful.mpr positive
    refine Or.inr ⟨fun noBytes => ?_, success, (Memory.slice_length _ _ _).symm, rfl⟩
    have length := congrArg List.length noBytes
    rw [Memory.slice_length, List.length_nil] at length
    omega

/-- A call that fails has delivered nothing. -/
theorem Undelivering.failed {received : Received} (before : Undelivering s received.stack)
    (null : s.tcp.rxBuffer = none) (error : received.status.isError) : Returns s received := by
  obtain ⟨null', same⟩ := before null
  exact ⟨null', [], by rw [same, List.append_nil], Or.inl ⟨rfl, Or.inl error⟩⟩

theorem Returns.between {start middle : NetStack} {received : Received} {stack : NetStack}
    (null : start.tcp.rxBuffer = none) (before : Undelivering start middle) (returns : Returns middle received)
    (after : Undelivering received.stack stack) : Returns start { received with stack } := by
  obtain ⟨-, same⟩ := before null
  obtain ⟨null', same'⟩ := after returns.null
  obtain ⟨delivered, all, what⟩ := returns.delivers
  exact ⟨null', delivered, by rw [same', all, same], what⟩

theorem httpGet_returned {hostname path : CString} {buffer : Memory} {maxLen actualLen : UINTN} {received : Received}
    (null : s.tcp.rxBuffer = none)
    (done : Api.httpGet hostname path buffer maxLen actualLen s = some received) : Returns s received := by
  unfold Api.httpGet at done
  obtain ⟨⟨st, targetIp, resolved⟩, resolves, done⟩ := Option.bind_eq_some_iff.mp done
  have first := (resolveHostname_run resolves).undelivering
  dsimp only at done
  split at done
  · rename_i failed
    obtain rfl := Option.some.inj done
    exact first.failed null failed
  obtain ⟨⟨st, connected⟩, connects, done⟩ := Option.bind_eq_some_iff.mp done
  have second := first.trans (tcpConnect_run connects).undelivering
  dsimp only at done
  split at done
  · rename_i failed
    obtain rfl := Option.some.inj done
    exact second.failed null failed
  obtain ⟨⟨st, sent⟩, sends, done⟩ := Option.bind_eq_some_iff.mp done
  have third := second.trans (tcpSend_run sends).undelivering
  dsimp only at done
  split at done
  · rename_i failed
    obtain ⟨⟨_, closed⟩, closes, result⟩ := Option.bind_eq_some_iff.mp done
    obtain rfl := Option.some.inj result
    exact (third.trans (tcpClose_run closes).undelivering).failed null failed
  obtain ⟨inner, receives, done⟩ := Option.bind_eq_some_iff.mp done
  obtain ⟨⟨_, closed⟩, closes, result⟩ := Option.bind_eq_some_iff.mp done
  obtain rfl := Option.some.inj result
  exact Returns.between null third (tcpReceive_returned receives) (tcpClose_run closes).undelivering

end NetStack

namespace Program
open Machine

/-- The text that the demonstration shows for the bytes of a response. -/
def responseText (delivered : Bytes) : List CHAR16 :=
  (if delivered = [] then [Output.str "[-] HTTP request failed.\r\n"]
  else
    [.str "\r\n--- HTTP Response (", .dec (BitVec.ofNat 64 delivered.length), .str " bytes) ---\r\n",
      .ascii { byte := Memory.ofBytes delivered, limit := delivered.length } (BitVec.ofNat 64 delivered.length),
      .str "\r\n--- End of Response ---\r\n"]).flatMap Output.text

/-- The last text of the demonstration. -/
def farewell : List CHAR16 :=
  [Output.str "\r\n[*] Demo complete. Press reset to reboot.\r\n"].flatMap Output.text

variable {m m' m'' : Machine}

/-- A part of the program that shows some text and takes no byte of TCP. -/
structure Quiet (m m' : Machine) : Prop where
  stack : Undelivering m.stack m'.stack
  text : ∃ text, m'.console = m.console.put text

theorem Quiet.trans (first : Quiet m m') (second : Quiet m' m'') : Quiet m m'' := by
  obtain ⟨stack, text, shown⟩ := first
  obtain ⟨stack', text', shown'⟩ := second
  exact ⟨stack.trans stack', text ++ text', by rw [shown', shown, Console.put_put]⟩

theorem print_quiet {outputs : List Output} (fits : ∀ output ∈ outputs, output.Fits)
    (done : m.print outputs = some m') : Quiet m m' := by
  rw [print_eq fits] at done
  obtain rfl := Option.some.inj done
  exact ⟨fun null => ⟨null, rfl⟩, _, rfl⟩

theorem stack_quiet {stack : NetStack} (run : BufferRun m.stack stack) : Quiet m { m with stack } :=
  ⟨run.undelivering, [], congrArg Machine.console m.put_nil.symm⟩

theorem pingGateway_quiet (done : pingGateway m = some m') : Quiet m m' := by
  obtain ⟨first, prints, done⟩ := Option.bind_eq_some_iff.mp done
  obtain ⟨⟨st, second⟩, pings, prints'⟩ := Option.bind_eq_some_iff.mp done
  obtain ⟨⟨_, stack⟩, call, same⟩ := Option.map_eq_some_iff.mp pings
  obtain ⟨rfl, rfl⟩ := Prod.mk.inj same
  refine ((print_quiet (fits_of_plain rfl) prints).trans (stack_quiet (ping_run call))).trans (print_quiet ?_ prints')
  split
  · exact fits_of_plain rfl
  · exact fits_of_plain rfl

theorem resolveExample_quiet (done : resolveExample m = some m') : Quiet m m' := by
  obtain ⟨first, prints, done⟩ := Option.bind_eq_some_iff.mp done
  obtain ⟨⟨st, ip, second⟩, resolves, prints'⟩ := Option.bind_eq_some_iff.mp done
  obtain ⟨⟨_, _, stack⟩, call, same⟩ := Option.map_eq_some_iff.mp resolves
  obtain ⟨rfl, ends⟩ := Prod.mk.inj same
  obtain ⟨rfl, rfl⟩ := Prod.mk.inj ends
  refine ((print_quiet (fits_of_plain rfl) prints).trans (stack_quiet (resolveHostname_run call))).trans
    (print_quiet ?_ prints')
  split
  · exact fits_of_plain rfl
  · exact fits_of_plain rfl

/-- What is shown of a returned response is the text of what was delivered. -/
theorem showResponse_text {returned : Received} {delivered : Bytes}
    (what : delivered = [] ∧ (returned.status.isError ∨ returned.actualLen = 0#64) ∨
      delivered ≠ [] ∧ returned.status = .success ∧ returned.actualLen.toNat = delivered.length ∧
        returned.buffer.slice 0 returned.actualLen.toNat = delivered) :
    (showResponse 0x1000
      [.str "\r\n--- HTTP Response (", .dec returned.actualLen, .str " bytes) ---\r\n"]
      [.str "\r\n--- End of Response ---\r\n"]
      [.str "[-] HTTP request failed.\r\n"] returned).flatMap Output.text = responseText delivered := by
  rcases what with ⟨noBytes, failed⟩ | ⟨nonempty, success, length, block⟩
  · have other : ¬(¬returned.status.isError ∧ returned.actualLen > 0x00#64) := by
      rintro ⟨noError, positive⟩
      rcases failed with error | zero
      · exact noError error
      · rw [zero] at positive
        exact absurd positive (by decide)
    rw [showResponse, if_neg other, responseText, if_pos noBytes]
  · have count : returned.actualLen = BitVec.ofNat 64 delivered.length := by
      rw [← length, BitVec.ofNat_toNat, BitVec.setWidth_eq]
    have positive : ¬returned.status.isError ∧ returned.actualLen > 0x00#64 := by
      refine ⟨by rw [success]; decide, ?_⟩
      have nonempty := List.length_pos_iff.mpr nonempty
      exact BitVec.lt_def.mpr (by rw [length]; exact nonempty)
    have whole : (Memory.ofBytes delivered).slice 0 returned.actualLen.toNat = delivered := by
      have stored := Memory.ofBytes_bytesAt [] delivered []
      rw [List.nil_append, List.append_nil] at stored
      rw [length]
      exact Memory.bytesAt_iff_slice.mp stored
    rw [showResponse, if_pos positive, responseText, if_neg nonempty, ← count]
    simp [Output.text, block, whole]

/-- The response that is shown is what was delivered. -/
theorem fetchExample_shows {uninitialized : Memory} (null : m.stack.tcp.rxBuffer = none)
    (done : fetchExample uninitialized m = some m') : ∃ delivered text,
      m'.stack.tcpDelivered = m.stack.tcpDelivered ++ delivered ∧
        m'.console = m.console.put (text ++ responseText delivered) := by
  obtain ⟨first, prints, done⟩ := Option.bind_eq_some_iff.mp done
  obtain ⟨⟨received, second⟩, receives, prints'⟩ := Option.bind_eq_some_iff.mp done
  obtain ⟨returned, call, same⟩ := Option.map_eq_some_iff.mp receives
  obtain ⟨rfl, rfl⟩ := Prod.mk.inj same
  rw [print_eq (fits_of_plain rfl)] at prints
  obtain rfl := Option.some.inj prints
  obtain ⟨-, delivered, all, what⟩ := httpGet_returned null call
  have fits := print_eq (@showResponse_fits 0x1000 0x0FFF#64 [.str "\r\n--- HTTP Response (", .dec returned.actualLen,
    .str " bytes) ---\r\n"] [.str "\r\n--- End of Response ---\r\n"] [.str "[-] HTTP request failed.\r\n"] returned
    (by decide) (httpGet_bounded call) rfl rfl rfl)
  obtain rfl := Option.some.inj ((fits _).symm.trans prints')
  refine ⟨delivered, _, all, (Console.put_put _ _ _).trans (congrArg (m.console.put) (congrArg _ ?_))⟩
  exact showResponse_text what

/-- When the initialization of the demonstration fails, its error is returned and TCP has delivered nothing. When it
comes up, the program has success, and the bytes that TCP delivers in the run are shown on the console, all of them and
nothing else, as the last text but the farewell. -/
theorem main_shows {boot : Boot} {uninitialized : Memory} {rxPkt : RxPkt} {snp : Snp} {console : Console}
    {st : EfiStatus} (attached : console.attached)
    (done : main boot uninitialized (.started rxPkt snp console) = some (st, m')) :
    ∃ came up, Api.initNetwork boot (.initial rxPkt snp) = some (came, up) ∧
      ((came.isError ∧ st = came ∧ m'.stack = up ∧ m'.stack.tcpDelivered = []) ∨
        ¬came.isError ∧ st = .success ∧ ∃ text,
          m'.console.text = console.text ++ text ++ responseText m'.stack.tcpDelivered ++ farewell) := by
  obtain ⟨m₁, prints, done⟩ := Option.bind_eq_some_iff.mp done
  obtain ⟨⟨st₂, m₂⟩, inits, done⟩ := Option.bind_eq_some_iff.mp done
  obtain ⟨⟨came, up⟩, call, same⟩ := Option.map_eq_some_iff.mp inits
  obtain ⟨rfl, rfl⟩ := Prod.mk.inj same
  have opened := (print_quiet (fits_of_plain rfl) prints).trans (stack_quiet (initNetwork_asks call).run)
  have started : m₁.stack = .initial rxPkt snp := by
    have fits := (print_eq (fits_of_plain rfl) (Machine.started rxPkt snp console)).symm.trans prints
    rw [← Option.some.inj fits]
    rfl
  rw [started] at call
  refine ⟨came, up, call, ?_⟩
  dsimp only at done
  split at done
  · rename_i failed
    obtain ⟨m₃, prints', result⟩ := Option.bind_eq_some_iff.mp done
    obtain ⟨rfl, rfl⟩ := Prod.mk.inj (Option.some.inj result)
    have closed := opened.trans (print_quiet (fits_of_plain rfl) prints')
    rw [print_eq (fits_of_plain rfl)] at prints'
    exact Or.inl ⟨failed, rfl, (congrArg Machine.stack (Option.some.inj prints')).symm, (closed.stack rfl).2⟩
  rename_i comesUp
  obtain ⟨m₃, prints', done⟩ := Option.bind_eq_some_iff.mp done
  obtain ⟨m₄, prints'', done⟩ := Option.bind_eq_some_iff.mp done
  obtain ⟨m₅, pings, done⟩ := Option.bind_eq_some_iff.mp done
  obtain ⟨m₆, resolves, done⟩ := Option.bind_eq_some_iff.mp done
  obtain ⟨m₇, fetches, done⟩ := Option.bind_eq_some_iff.mp done
  obtain ⟨m₈, prints₈, result⟩ := Option.bind_eq_some_iff.mp done
  obtain ⟨rfl, rfl⟩ := Prod.mk.inj (Option.some.inj result)
  have before := (((opened.trans (print_quiet (fits_of_plain rfl) prints')).trans
    (print_quiet (configuration_fits _) prints'')).trans (pingGateway_quiet pings)).trans (resolveExample_quiet resolves)
  obtain ⟨null, nothing⟩ := before.stack rfl
  obtain ⟨delivered, text, all, shown⟩ := fetchExample_shows null fetches
  obtain ⟨earlier, shown'⟩ := before.text
  have last : m₇.put farewell = m₈ := Option.some.inj ((print_eq (fits_of_plain rfl) m₇).symm.trans prints₈)
  have bytes : m₇.stack.tcpDelivered = delivered := all.trans (congrArg (· ++ delivered) nothing)
  have console₈ : m₈.console = console.put (earlier ++ (text ++ responseText delivered ++ farewell)) := by
    rw [← last, put, shown, shown', Console.put_put, Console.put_put]
    rfl
  have stack₈ : m₈.stack = m₇.stack := (congrArg Machine.stack last).symm
  refine Or.inr ⟨comesUp, rfl, earlier ++ text, ?_⟩
  rw [console₈, stack₈, bytes, Console.put_attached attached]
  simp only [List.append_assoc]

end Program

namespace Scenario

/-- A packet of the gateway. -/
def packetOf (protocol : UINT8) (payload : Bytes) (fits : payload.length ≤ 1000) : RxFrame where
  bytes :=
    EthHdr.bytes { dst := localMac, src := gatewayMac, type := htons ethertypeIpv4 } ++
      IpHdr.bytes
        { ihlVersion := ipVersionIhlDefault, totLen := htons (BitVec.ofNat 16 (sizeofIpHdr + payload.length)),
          ttl := ipDefaultTtl, protocol, saddr := gatewayIp, daddr := localIp } ++
      payload
  fits := by
    simp only [List.length_append, EthHdr.bytes_length, IpHdr.bytes_length, pktBufSize]
    omega

/-- The reply to the ping of the demonstration. -/
def pong : RxFrame :=
  packetOf ipProtoIcmp (IcmpHdr.bytes { type := icmpTypeEchoReply, id := htons 54812, seq := htons 57894 }) (by decide)

/-- The question of the demonstration and an answer with the address of the server. -/
def addressMessage (id : UINT16) : Bytes :=
  DnsHdr.bytes { id := htons id, flags := htons 0x8180, qdcount := htons 1, ancount := htons 1 } ++
    dnsQuestion Program.exampleCom ++ [0xC0, 0x0C, 0, 1, 0, 1, 0, 0, 0, 60, 0, 4, 10, 0, 0, 7]

theorem addressMessage_length (id : UINT16) : (addressMessage id).length = 45 := by
  have question : (dnsQuestion Program.exampleCom).length = 17 := by decide +kernel
  simp only [addressMessage, List.length_append, DnsHdr.bytes_length, question, List.length_cons, List.length_nil]

def addressPacket (id port : UINT16) : RxFrame :=
  packetOf ipProtoUdp
    (UdpHdr.bytes { source := htons udpPortDns, dest := htons port, len := htons 53 } ++ addressMessage id)
    (by rw [List.length_append, UdpHdr.bytes_length, addressMessage_length]; decide)

/-- A segment of the server for the connection of the demonstration. -/
def serverPacket (flags : UINT8) (seq : UINT32) (data : Bytes) (fits : data.length ≤ 500) : RxFrame :=
  packetOf ipProtoTcp
    (TcpHdr.bytes
      { source := htons 80, dest := htons 53247, seq := htonl seq, ackSeq := htonl 213823949,
        res1DoffFlags := htons ((tcpDataOffset5.setWidth 16 <<< 0x0C) ||| flags.setWidth 16) } ++ data)
    (by rw [List.length_append, TcpHdr.bytes_length]; omega)

/-- The network comes up, the gateway replies, the name is resolved twice, and the server sends two bytes. -/
def demoAnswers : List Receive :=
  bootAnswers ++
    [.frame pong, .frame (addressPacket 64178 62653), .frame (addressPacket 8121 64896),
      .frame (serverPacket tcpFlagSynAck 1000 [] (by decide)),
      .frame (serverPacket tcpFlagPshAck 1001 [0x48, 0x49] (by decide)),
      .frame (serverPacket tcpFlagFinAck 1003 [] (by decide))]

/-- The machine that gets these answers. -/
def demoMachine : Machine := .started .zeros { receive := demoAnswers } { attached := true }

theorem demo_delivers : ((Program.mainPlan boot fun _ => 0).run demoMachine.stack).map NetStack.tcpDelivered =
    some [0x48, 0x49] := by
  decide +kernel

/-- The demonstration returns with the stack that its plan leaves. -/
theorem demo_returns : ∃ st m', Program.main boot (fun _ => 0) demoMachine = some (st, m') ∧
    m'.stack.tcpDelivered = [0x48, 0x49] := by
  have stack := (Demo.executes .main boot (fun _ => 0) .zeros { receive := demoAnswers } { attached := true }).stack
  obtain ⟨left, run, delivered⟩ := Option.map_eq_some_iff.mp demo_delivers
  obtain ⟨_, returned, same⟩ := Option.map_eq_some_iff.mp (stack.trans run)
  obtain ⟨⟨st, m'⟩, done, rfl⟩ := Option.map_eq_some_iff.mp returned
  exact ⟨st, m', done, same ▸ delivered⟩

end Scenario

namespace Program
open Scenario

/-- The demonstration fetches the two bytes and shows them. -/
theorem main_shows_response : ∃ m', main boot (fun _ => 0) demoMachine = some (.success, m') ∧
    ∃ text, m'.console.text = text ++ responseText [0x48, 0x49] ++ farewell := by
  obtain ⟨st, m', done, delivered⟩ := demo_returns
  obtain ⟨came, up, -, failed | success⟩ := main_shows rfl done
  · rw [failed.2.2.2] at delivered
    cases delivered
  · obtain ⟨-, rfl, text, shown⟩ := success
    rw [delivered] at shown
    exact ⟨m', done, text, shown⟩

end Program
end UefiNetstack
