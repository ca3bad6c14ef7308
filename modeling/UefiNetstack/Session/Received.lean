import UefiNetstack.Api.Http
import UefiNetstack.Session.Flags
import UefiNetstack.Session.Stream

namespace UefiNetstack
open Constants NetStack

namespace NetStack

variable {s s' : NetStack} {input : TcpInput} {tcpAt : Nat}

/-- The next poll takes a segment for the local port that resets the connection. -/
def TakesReset (s : NetStack) : Prop := ∃ input, s.incoming = some input ∧ input.has tcpFlagRst

/-- A receive call still waits for its first byte. -/
structure AwaitsData (s : NetStack) : Prop where
  done : s.tcp.rxDone = false
  currentLen : s.tcp.rxCurrentLen = 0#64

/-- A receive call has data. -/
structure HasData (s : NetStack) : Prop where
  done : s.tcp.rxDone = true
  currentLen : 1 ≤ s.tcp.rxCurrentLen.toNat

/-- A receive call ends without data. -/
structure Aborted (s : NetStack) : Prop where
  done : s.tcp.rxDone = true
  currentLen : s.tcp.rxCurrentLen = 0#64

/-- Two states agree on what the receive call waits for. -/
def SameProgress (s s' : NetStack) : Prop :=
  s'.tcp.rxDone = s.tcp.rxDone ∧ s'.tcp.rxCurrentLen = s.tcp.rxCurrentLen

theorem SameProgress.awaits (same : SameProgress s s') (awaits : s.AwaitsData) : s'.AwaitsData :=
  ⟨same.1.trans awaits.done, same.2.trans awaits.currentLen⟩

theorem SameProgress.hasData (same : SameProgress s s') (data : s.HasData) : s'.HasData :=
  ⟨same.1.trans data.done, same.2 ▸ data.currentLen⟩

theorem sendTcpControl_progress {flags : UINT8} (done : s.sendTcpControl flags = some s') : SameProgress s s' := by
  have same := (sendTcpControl_sends done).1
  exact ⟨congrArg TcpSession.rxDone same, congrArg TcpSession.rxCurrentLen same⟩

/-- Only the copy sets the flag on the path of data. -/
theorem receiveData_progress (awaits : s.AwaitsData) (done : s.receiveData input tcpAt = some s') :
    s'.AwaitsData ∨ s'.HasData := by
  rcases receiveData_cases done with ⟨-, rfl⟩ | ⟨buffer, -, room, copied⟩
  · exact Or.inl awaits
  · obtain ⟨data, -, rfl⟩ := copyPayload_cases copied
    refine Or.inr ⟨rfl, ?_⟩
    change 1 ≤ (s.tcp.rxCurrentLen + s.copyLen input).toNat
    rw [awaits.currentLen, BitVec.zero_add]
    exact BitVec.lt_def.mp room

theorem acknowledgeData_progress (done : s.acknowledgeData input = some s') : SameProgress s s' := by
  rcases acknowledgeData_cases done with ⟨-, rfl⟩ | ⟨-, sent⟩
  · exact ⟨rfl, rfl⟩
  · have same := sendTcpControl_progress sent
    exact ⟨same.1, same.2⟩

theorem receiveFin_progress (done : s.receiveFin input = some s') : SameProgress s s' := by
  rcases receiveFin_cases done with ⟨-, rfl⟩ | ⟨-, out, sent, rfl⟩
  · exact ⟨rfl, rfl⟩
  · have same := sendTcpControl_progress sent
    exact ⟨same.1, same.2⟩

theorem onSegment_progress (awaits : s.AwaitsData) (done : s.onSegment input tcpAt = some s') :
    (input.has tcpFlagRst ∧ s'.Aborted) ∨ ¬input.has tcpFlagRst ∧ (s'.AwaitsData ∨ s'.HasData) := by
  cases onSegment_branch done with
  | abort rst aborted =>
    subst aborted
    exact Or.inl ⟨rst, rfl, awaits.currentLen⟩
  | accept noRst waiting synAck accepted =>
    obtain ⟨out, sent, rfl⟩ := acceptSynAck_cases accepted
    have same := sendTcpControl_progress sent
    exact Or.inr ⟨noRst, Or.inl ⟨same.1.trans awaits.done, same.2.trans awaits.currentLen⟩⟩
  | receive noRst listening copied acked copies acknowledges ends =>
    have same := acknowledgeData_progress acknowledges
    have same' := receiveFin_progress ends
    rcases receiveData_progress awaits copies with still | data
    · exact Or.inr ⟨noRst, Or.inl (same'.awaits (same.awaits still))⟩
    · exact Or.inr ⟨noRst, Or.inr (same'.hasData (same.hasData data))⟩
  | ignore noRst notSynAck deaf unchanged =>
    subst unchanged
    exact Or.inr ⟨noRst, Or.inl awaits⟩

/-- A poll of a waiting call aborts it by a reset, or it brings data, or the call waits on. -/
theorem poll_progress (awaits : s.AwaitsData) (done : s.poll = some s') :
    (s.TakesReset ∧ s'.Aborted) ∨ ¬s.TakesReset ∧ (s'.AwaitsData ∨ s'.HasData) := by
  rcases pollOn_cases done with ⟨nothing, quiet⟩ | ⟨frame, input, tcpAt, answer, arrives, segment⟩
  · have noInput : s.incoming = none := congrArg (Option.map Prod.fst) nothing
    have same : SameProgress s s' :=
      ⟨congrArg TcpSession.rxDone quiet.tcp, congrArg TcpSession.rxCurrentLen quiet.tcp⟩
    refine Or.inr ⟨?_, Or.inl (same.awaits awaits)⟩
    rintro ⟨input, given, -⟩
    rw [noInput] at given
    cases given
  · have given : s.incoming = some input := congrArg (Option.map Prod.fst) arrives
    have landed : (s.received.landed frame).AwaitsData := ⟨awaits.done, awaits.currentLen⟩
    rcases onSegment_progress landed segment with ⟨rst, aborted⟩ | ⟨noRst, goesOn⟩
    · exact Or.inl ⟨⟨input, given, rst⟩, aborted⟩
    · refine Or.inr ⟨?_, goesOn⟩
      rintro ⟨other, same, rst⟩
      obtain rfl := Option.some.inj (given.symm.trans same)
      exact noRst rst

/-- The stacks that poll during a `tcp_receive`. -/
def receivePolls (buffer : Memory) (maxLen : UINTN) (timeoutMs : UINT32) (s : NetStack) : List NetStack :=
  waitPolls tcpReceiveDone stall100us (maxLoops timeoutMs) (s.tcpReceiveStart buffer maxLen)

/-- A wait ends aborted by the reset that one of its polls took, or none of them did and it ends with data or
without. -/
theorem waitLoop_progress {loops : Nat} (awaits : s.AwaitsData)
    (ended : waitLoop tcpReceiveDone stall100us loops s = some s') :
    ((∃ polling ∈ waitPolls tcpReceiveDone stall100us loops s, polling.TakesReset) ∧ s'.Aborted) ∨
      (∀ polling ∈ waitPolls tcpReceiveDone stall100us loops s, ¬polling.TakesReset) ∧
        (s'.AwaitsData ∨ s'.HasData) := by
  induction loops generalizing s with
  | zero =>
      obtain rfl := Option.some.inj ended
      exact Or.inr ⟨by simp [waitPolls], Or.inl awaits⟩
  | succ loops ih =>
      cases halts : s.tcpReceiveDone with
      | true =>
          rw [waitLoop_done _ _ halts] at ended
          obtain rfl := Option.some.inj ended
          rw [waitPolls_done _ _ halts]
          exact Or.inr ⟨by simp, Or.inl awaits⟩
      | false =>
          obtain ⟨polled, first, rest, polls⟩ := waitLoop_step halts ended
          rw [polls]
          rcases poll_progress awaits first with ⟨takes, aborted⟩ | ⟨noReset, still | data⟩
          · have done : (polled.stall stall100us).tcpReceiveDone = true := by
              have flag : (polled.stall stall100us).tcp.rxDone = true := aborted.done
              simp [tcpReceiveDone, flag]
            rw [waitLoop_done _ _ done] at rest
            obtain rfl := Option.some.inj rest
            exact Or.inl ⟨⟨s, List.mem_cons_self, takes⟩, aborted.done, aborted.currentLen⟩
          · have stalled : (polled.stall stall100us).AwaitsData := ⟨still.done, still.currentLen⟩
            rcases ih stalled rest with ⟨⟨polling, member, takes⟩, aborted⟩ | ⟨noResets, goesOn⟩
            · exact Or.inl ⟨⟨polling, List.mem_cons_of_mem _ member, takes⟩, aborted⟩
            · exact Or.inr ⟨List.forall_mem_cons.mpr ⟨noReset, noResets⟩, goesOn⟩
          · have done : (polled.stall stall100us).tcpReceiveDone = true := by
              have flag : (polled.stall stall100us).tcp.rxDone = true := data.done
              simp [tcpReceiveDone, flag]
            rw [waitPolls_done _ _ done]
            rw [waitLoop_done _ _ done] at rest
            obtain rfl := Option.some.inj rest
            exact Or.inr ⟨by simpa using noReset, Or.inr ⟨data.done, data.currentLen⟩⟩

/-- A call that returns has success and no data behind a reset, and otherwise it has success with data only. -/
theorem tcpReceive_reports {buffer : Memory} {maxLen : UINTN} {timeoutMs : UINT32} {received : Received}
    (returned : Api.tcpReceive buffer maxLen timeoutMs s = some received) :
    ((∃ polling ∈ s.receivePolls buffer maxLen timeoutMs, polling.TakesReset) ∧ received.status = .success ∧
        received.actualLen = 0#64) ∨
      (∀ polling ∈ s.receivePolls buffer maxLen timeoutMs, ¬polling.TakesReset) ∧
        (received.status = .success ↔ 1 ≤ received.actualLen.toNat) := by
  obtain ⟨ended, waits, result⟩ := Option.bind_eq_some_iff.mp returned
  obtain rfl := Option.some.inj result
  have awaits : (s.tcpReceiveStart buffer maxLen).AwaitsData := ⟨rfl, rfl⟩
  rcases waitLoop_progress awaits waits with ⟨resets, aborted⟩ | ⟨noReset, still | data⟩
  · exact Or.inl ⟨resets, if_pos aborted.done, aborted.currentLen⟩
  · refine Or.inr ⟨noReset, iff_of_false ?_ ?_⟩
    · simp [still.done]
    · simp [still.currentLen]
  · exact Or.inr ⟨noReset, iff_of_true (if_pos data.done) data.currentLen⟩

/-- The steps of an `http_get` up to its receive step succeed. -/
def GetReceives (hostname path : CString) (s before : NetStack) : Prop :=
  ∃ targetIp resolved connected, Api.resolveHostname hostname 0#32 s = some (.success, targetIp, resolved) ∧
    Api.tcpConnect targetIp 0x50#16 resolved = some (.success, connected) ∧
    Api.tcpSend (httpRequest hostname path) connected = some (.success, before)

/-- An `http_get` returns the error of a step, or what its receive step returns. -/
theorem httpGet_cases {hostname path : CString} {buffer : Memory} {maxLen actualLen : UINTN} {received : Received}
    (returned : Api.httpGet hostname path buffer maxLen actualLen s = some received) :
    (received.status.isError = true ∧ ∀ before, ¬GetReceives hostname path s before) ∨
      ∃ before inner, (∀ other, GetReceives hostname path s other ↔ other = before) ∧
        Api.tcpReceive buffer maxLen 0x1388#32 before = some inner ∧ received.status = inner.status ∧
        received.actualLen = inner.actualLen := by
  unfold Api.httpGet at returned
  obtain ⟨⟨st, targetIp, resolved⟩, resolves, returned⟩ := Option.bind_eq_some_iff.mp returned
  dsimp only at returned
  split at returned
  · rename_i failed
    obtain rfl := Option.some.inj returned
    refine Or.inl ⟨failed, ?_⟩
    rintro before ⟨ip, other, -, same, -⟩
    rw [resolves] at same
    obtain ⟨rfl, -⟩ := Prod.mk.inj (Option.some.inj same)
    cases failed
  · rename_i noError
    obtain rfl := Api.resolveHostname_noWarning resolves noError
    obtain ⟨⟨st, connected⟩, connects, returned⟩ := Option.bind_eq_some_iff.mp returned
    dsimp only at returned
    split at returned
    · rename_i failed
      obtain rfl := Option.some.inj returned
      refine Or.inl ⟨failed, ?_⟩
      rintro before ⟨ip, other, _, same, same', -⟩
      obtain ⟨-, ends⟩ := Prod.mk.inj (Option.some.inj (resolves.symm.trans same))
      obtain ⟨rfl, rfl⟩ := Prod.mk.inj ends
      obtain ⟨rfl, -⟩ := Prod.mk.inj (Option.some.inj (connects.symm.trans same'))
      cases failed
    · rename_i noError
      obtain rfl := Api.tcpConnect_noWarning connects noError
      obtain ⟨⟨st, before⟩, sends, returned⟩ := Option.bind_eq_some_iff.mp returned
      have steps (other : NetStack) (receives : GetReceives hostname path s other) :
          Api.tcpSend (httpRequest hostname path) connected = some (.success, other) := by
        obtain ⟨ip, _, _, same, same', same''⟩ := receives
        obtain ⟨-, ends⟩ := Prod.mk.inj (Option.some.inj (resolves.symm.trans same))
        obtain ⟨rfl, rfl⟩ := Prod.mk.inj ends
        obtain ⟨-, rfl⟩ := Prod.mk.inj (Option.some.inj (connects.symm.trans same'))
        exact same''
      dsimp only at returned
      split at returned
      · rename_i failed
        obtain ⟨⟨_, closed⟩, -, result⟩ := Option.bind_eq_some_iff.mp returned
        obtain rfl := Option.some.inj result
        refine Or.inl ⟨failed, fun other receives => ?_⟩
        obtain ⟨rfl, -⟩ := Prod.mk.inj (Option.some.inj (sends.symm.trans (steps other receives)))
        cases failed
      · rename_i noError
        obtain rfl := Api.tcpSend_noWarning sends noError
        obtain ⟨inner, receives, returned⟩ := Option.bind_eq_some_iff.mp returned
        obtain ⟨⟨_, closed⟩, -, result⟩ := Option.bind_eq_some_iff.mp returned
        obtain rfl := Option.some.inj result
        refine Or.inr ⟨before, inner, fun other => ⟨fun reached => ?_, ?_⟩, receives, rfl, rfl⟩
        · exact (Prod.mk.inj (Option.some.inj (sends.symm.trans (steps other reached)))).2.symm
        · rintro rfl
          exact ⟨targetIp, resolved, connected, resolves, connects, sends⟩

/-- A receive call reports success exactly with data, if and only if no poll of it takes a reset; and the success
of an `http_get` means data, if and only if no poll of its receive step takes one. -/
theorem receive_truthful_iff (s : NetStack) (buffer : Memory) (maxLen : UINTN) :
    (∀ timeoutMs received, Api.tcpReceive buffer maxLen timeoutMs s = some received →
      ((received.status = .success ↔ 1 ≤ received.actualLen.toNat) ↔
        ∀ polling ∈ s.receivePolls buffer maxLen timeoutMs, ¬polling.TakesReset)) ∧
    ∀ hostname path actualLen received, Api.httpGet hostname path buffer maxLen actualLen s = some received →
      ((received.status = .success → 1 ≤ received.actualLen.toNat) ↔
        ∀ before, GetReceives hostname path s before →
          ∀ polling ∈ before.receivePolls buffer maxLen 0x1388#32, ¬polling.TakesReset) := by
  constructor
  · intro timeoutMs received returned
    rcases tcpReceive_reports returned with ⟨⟨polling, member, takes⟩, success, empty⟩ | ⟨noReset, truthful⟩
    · refine iff_of_false ?_ (fun noReset => noReset polling member takes)
      rw [success, empty]
      decide
    · exact iff_of_true truthful noReset
  · intro hostname path actualLen received returned
    rcases httpGet_cases returned with ⟨failed, unreached⟩ | ⟨before, inner, only, receives, status, len⟩
    · exact iff_of_true (fun success => absurd success (EfiStatus.isError_ne_success failed))
        (fun before reached => absurd reached (unreached before))
    · rcases tcpReceive_reports receives with ⟨⟨polling, member, takes⟩, success, empty⟩ | ⟨noReset, truthful⟩
      · refine iff_of_false ?_ (fun noReset => noReset before ((only before).mpr rfl) polling member takes)
        rw [status, len, success, empty]
        decide
      · refine iff_of_true ?_ ?_
        · rw [status, len]
          exact truthful.mp
        · rintro other reached
          obtain rfl := (only other).mp reached
          exact noReset

end NetStack

namespace Scenario

/-- The peer resets the connection. -/
def peerReset : RxFrame where
  bytes := (segmentFrom remoteIp 80 tcpFlagRst 1001 (iss + 1) [] noData_fits).bytes
  fits := by decide

/-- An established session that a reset waits for. -/
def resetting : NetStack := ((opened [.frame synAckFrame, .frame peerReset]).bind NetStack.poll).get (by decide +kernel)

end Scenario

namespace NetStack

open Scenario in
theorem reset_reports_success : ¬∀ (s : NetStack) (buffer : Memory) (maxLen : UINTN) (timeoutMs : UINT32)
    (received : Received), 0#64 < maxLen → Api.tcpReceive buffer maxLen timeoutMs s = some received →
    (received.status = .success ↔ 1 ≤ received.actualLen.toNat) := by
  intro truthful
  have returns : (Api.tcpReceive (fun _ => 0) 64 1 resetting).map (fun r => (r.status, r.actualLen)) =
      some (.success, 0#64) := by decide +kernel
  obtain ⟨received, done, result⟩ := Option.map_eq_some_iff.mp returns
  obtain ⟨success, empty⟩ := Prod.mk.inj result
  have data := (truthful resetting (fun _ => 0) 64 1 received (by decide) done).mp success
  rw [empty] at data
  exact absurd data (by decide)

end NetStack
end UefiNetstack
