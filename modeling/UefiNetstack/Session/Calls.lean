import UefiNetstack.Session.Moves

namespace UefiNetstack
open Constants NetStack

/-- A step of a run. Only `tcp_connect` opens a session. -/
inductive Action where
  | connect (ip : UINT32) (port : UINT16)
  | move (own : Move)

def Action.run : Action → NetStack → Option NetStack
  | .connect ip port, s => some (s.tcpOpen ip port)
  | .move own, s => own.run s

/-- The actions one after the other. -/
def Action.runAll (actions : List Action) (s : NetStack) : Option NetStack :=
  actions.foldlM (fun s action => action.run s) s

namespace Action

variable {s s' : NetStack}

@[simp] theorem runAll_nil (s : NetStack) : runAll [] s = some s := rfl

@[simp] theorem runAll_cons (action : Action) (actions : List Action) (s : NetStack) :
    runAll (action :: actions) s = (action.run s).bind (runAll actions) := rfl

theorem runAll_singleton (action : Action) (s : NetStack) : runAll [action] s = action.run s :=
  Option.bind_fun_some (action.run s)

theorem runAll_append (first second : List Action) (s : NetStack) :
    runAll (first ++ second) s = (runAll first s).bind (runAll second) := by
  induction first generalizing s with
  | nil => rfl
  | cons action first ih =>
      rw [List.cons_append, runAll_cons, runAll_cons, Option.bind_assoc]
      exact congrArg _ (funext ih)

theorem reachable (action : Action) (reachable : Reachable s) (done : action.run s = some s') : Reachable s' := by
  cases action with
  | connect ip port =>
      obtain rfl := Option.some.inj done
      exact reachable.tcpOpen ip port
  | move own => exact reachable.move done

theorem runAll_reachable {actions : List Action} (reachable : Reachable s) (done : runAll actions s = some s') :
    Reachable s' := by
  induction actions generalizing s with
  | nil =>
      obtain rfl := Option.some.inj done
      exact reachable
  | cons action actions ih =>
      obtain ⟨middle, first, rest⟩ := Option.bind_eq_some_iff.mp done
      exact ih (action.reachable reachable first) rest

/-- The property holds at every step of the run from a stack. -/
def Throughout (holds : NetStack → Action → Prop) : List Action → NetStack → Prop
  | [], _ => True
  | action :: actions, s => holds s action ∧ ∀ s', action.run s = some s' → Throughout holds actions s'

theorem Throughout.snoc {holds : NetStack → Action → Prop} {actions : List Action} {action : Action}
    (throughout : Throughout holds actions s) (run : runAll actions s = some s') (last : holds s' action) :
    Throughout holds (actions ++ [action]) s := by
  induction actions generalizing s with
  | nil =>
      obtain rfl := Option.some.inj run
      exact ⟨last, fun _ _ => trivial⟩
  | cons first actions ih =>
      obtain ⟨middle, ran, rest⟩ := Option.bind_eq_some_iff.mp run
      refine ⟨throughout.1, fun next done => ?_⟩
      obtain rfl := Option.some.inj (ran.symm.trans done)
      exact ih (throughout.2 middle ran) rest

/-- What holds throughout a run holds at each of its actions. -/
theorem Throughout.middle {holds : NetStack → Action → Prop} {before after : List Action} {action : Action}
    (throughout : Throughout holds (before ++ action :: after) s) (run : runAll before s = some s') : holds s' action := by
  induction before generalizing s with
  | nil =>
      obtain rfl := Option.some.inj run
      exact throughout.1
  | cons first before ih =>
      obtain ⟨middle, ran, rest⟩ := Option.bind_eq_some_iff.mp run
      exact ih (throughout.2 middle ran) rest

theorem run_receive {action : Action} (done : action.run s = some s') : s'.snp.receive <:+ s.snp.receive := by
  cases action with
  | connect ip port =>
      obtain rfl := Option.some.inj done
      exact List.suffix_rfl
  | move own =>
      cases own with
      | poll =>
          rw [poll_receive done]
          exact List.tail_suffix _
      | call call => rw [call_receive done]

/-- A run takes answers of Receive from the front. -/
theorem runAll_receive {actions : List Action} (done : runAll actions s = some s') :
    s'.snp.receive <:+ s.snp.receive := by
  induction actions generalizing s with
  | nil =>
      obtain rfl := Option.some.inj done
      exact List.suffix_rfl
  | cons action actions ih =>
      obtain ⟨middle, first, rest⟩ := Option.bind_eq_some_iff.mp done
      exact (ih rest).trans (run_receive first)

end Action

section Loops

variable (done : NetStack → Bool)

def waitActions (micros : Nat) : Nat → NetStack → List Action
  | 0, _ => []
  | loops + 1, s =>
    if done s then []
    else
      .move .poll :: .move (.call (.stall micros)) ::
        match s.poll with
        | none => []
        | some polled => waitActions micros loops (polled.stall micros)

def requestActions (request : Call) : Nat → Nat → NetStack → List Action
  | 0, _, _ => []
  | loops + 1, timeout, s =>
    if done s then []
    else
      (if timeout = 0 then [.move (.call request)] else []) ++
        .move .poll :: .move (.call (.stall stall1ms)) ::
          match (requestDue request.run timeout s).bind NetStack.poll with
          | none => []
          | some polled =>
            requestActions request loops ((if timeout = 0 then timeoutRetransmit else timeout) - 1)
              (polled.stall stall1ms)

variable {done}

/-- A poll and a stall run as one step. -/
theorem runAll_poll (micros : Nat) (s : NetStack) (rest : NetStack → List Action) :
    Action.runAll (.move .poll :: .move (.call (.stall micros)) ::
      match s.poll with
      | none => []
      | some polled => rest (polled.stall micros)) s =
      s.poll.bind fun polled => Action.runAll (rest (polled.stall micros)) (polled.stall micros) := by
  rw [Action.runAll_cons]
  change s.poll.bind _ = _
  cases s.poll with
  | none => rfl
  | some polled => rfl

theorem waitActions_run (micros loops : Nat) (s : NetStack) :
    Action.runAll (waitActions done micros loops s) s = waitLoop done micros loops s := by
  induction loops generalizing s with
  | zero => rfl
  | succ loops ih =>
      rw [waitActions, waitLoop]
      by_cases ended : done s
      · rw [if_pos ended, if_pos ended]
        rfl
      · rw [if_neg ended, if_neg ended, runAll_poll]
        exact congrArg _ (funext fun polled => ih _)

theorem requestActions_run (request : Call) (loops timeout : Nat) (s : NetStack) :
    Action.runAll (requestActions done request loops timeout s) s = requestLoop done request.run loops timeout s := by
  induction loops generalizing s timeout with
  | zero => rfl
  | succ loops ih =>
      rw [requestActions, requestLoop]
      by_cases ended : done s
      · rw [if_pos ended, if_pos ended]
        rfl
      · have due : Action.runAll (if timeout = 0 then [.move (.call request)] else []) s =
            requestDue request.run timeout s := by
          unfold requestDue
          split
          · exact Action.runAll_singleton _ s
          · rfl
        rw [if_neg ended, if_neg ended, Action.runAll_append, due]
        cases requestDue request.run timeout s with
        | none => rfl
        | some asked =>
            dsimp only [Option.bind_some]
            rw [runAll_poll stall1ms asked fun polled => requestActions done request loops _ polled]
            exact congrArg _ (funext fun polled => ih _ _)

end Loops

/-- The functions of the API that need a configured stack. -/
inductive ApiCall where
  | tcpConnect (ip : UINT32) (port : UINT16)
  | tcpSend (data : Bytes)
  | tcpReceive (buffer : Memory) (maxLen : UINTN) (timeoutMs : UINT32)
  | tcpClose
  | udpSend (destIp : UINT32) (destPort : UINT16) (data : Bytes)
  | udpReceive (buffer : Memory) (maxLen : UINTN) (timeoutMs : UINT32)
  | ping (targetIp timeoutMs : UINT32)
  | resolveHostname (hostname : CString) (outIp : UINT32)

namespace ApiCall

/-- The stack behind a call, whatever the call returns. -/
def run : ApiCall → NetStack → Option NetStack
  | .tcpConnect ip port, s => (Api.tcpConnect ip port s).map (·.2)
  | .tcpSend data, s => (Api.tcpSend data s).map (·.2)
  | .tcpReceive buffer maxLen timeoutMs, s => (Api.tcpReceive buffer maxLen timeoutMs s).map (·.stack)
  | .tcpClose, s => (Api.tcpClose s).map (·.2)
  | .udpSend destIp destPort data, s => (Api.udpSend destIp destPort data s).map (·.2)
  | .udpReceive buffer maxLen timeoutMs, s => (Api.udpReceive buffer maxLen timeoutMs s).map (·.stack)
  | .ping targetIp timeoutMs, s => (Api.ping targetIp timeoutMs s).map (·.2)
  | .resolveHostname hostname outIp, s => (Api.resolveHostname hostname outIp s).map (·.2.2)

/-- What a call does between its first action and its last. -/
def drainActions (s : NetStack) : List Action :=
  if s.tcp.state = .established then
    .move (.call .closeStart) ::
      match s.tcpCloseStart with
      | none => []
      | some started => waitActions (fun s => s.tcp.state = .closedDone) stall1ms timeoutCloseLoops started
  else []

/-- The actions of a call. -/
def actions : ApiCall → NetStack → List Action
  | .tcpConnect ip port, s =>
    .connect ip port ::
      requestActions (fun s => s.tcp.state = .established || s.tcp.state = .closed) .syn timeoutTcpLoops 0
        (s.tcpOpen ip port)
  | .tcpSend data, _ => [.move (.call (.send data))]
  | .tcpReceive buffer maxLen timeoutMs, s =>
    .move (.call (.receiveStart buffer maxLen)) ::
      (waitActions tcpReceiveDone stall100us (maxLoops timeoutMs) (s.tcpReceiveStart buffer maxLen) ++
        [.move (.call .receiveEnd)])
  | .tcpClose, s => drainActions s ++ [.move (.call .closeEnd)]
  | .udpSend destIp destPort data, _ => [.move (.call (.udpSend destIp destPort data))]
  | .udpReceive buffer maxLen timeoutMs, s =>
    .move (.call (.udpReceiveStart buffer maxLen)) ::
      (waitActions (fun s => s.udp.rxDone) stall100us (maxLoops timeoutMs) (s.udpReceiveStart buffer maxLen) ++
        [.move (.call .udpReceiveEnd)])
  | .ping targetIp timeoutMs, s =>
    .move (.call (.ping targetIp)) ::
      waitActions (fun s => s.ping.replyReceived) stall100us (maxLoops timeoutMs) (s.pingStart targetIp)
  | .resolveHostname hostname _, s =>
    .move (.call .resolve) ::
      requestActions (fun s => s.dns.resolved) (.query hostname) timeoutTcpLoops 0 s.resolveStart

theorem map_bind_some {α : Type} {first : Option NetStack} {result : NetStack → α} {out : α → NetStack}
    (same : ∀ s, out (result s) = s) : (first.bind fun s => some (result s)).map out = first := by
  cases first with
  | none => rfl
  | some s => exact congrArg some (same s)

/-- A last action that always runs. -/
theorem bind_last {α : Type} {first : Option NetStack} {action : Action} {result : NetStack → α} {out : α → NetStack}
    (last : ∀ s, action.run s = some (out (result s))) :
    first.bind (Action.runAll [action]) = (first.bind fun s => some (result s)).map out := by
  cases first with
  | none => rfl
  | some s => exact (Action.runAll_singleton action s).trans (last s)

theorem drainActions_run (s : NetStack) : Action.runAll (drainActions s) s = s.tcpDrain := by
  unfold drainActions tcpDrain
  split
  · rename_i established
    have starts : Action.run (.move (.call .closeStart)) s = s.tcpCloseStart := if_pos established
    rw [Action.runAll_cons, starts]
    cases s.tcpCloseStart with
    | none => rfl
    | some started => exact waitActions_run _ _ _
  · rfl

/-- The actions of a call run to the stack behind it. -/
theorem actions_run (call : ApiCall) (s : NetStack) : Action.runAll (call.actions s) s = call.run s := by
  cases call with
  | tcpConnect ip port =>
      refine (requestActions_run _ _ _ _).trans ?_
      exact (map_bind_some fun _ => rfl).symm
  | tcpSend data => exact Action.runAll_singleton _ s
  | tcpReceive buffer maxLen timeoutMs =>
      refine (Action.runAll_append _ _ (s.tcpReceiveStart buffer maxLen)).trans ?_
      rw [waitActions_run]
      exact bind_last fun _ => rfl
  | tcpClose =>
      refine (Action.runAll_append _ _ s).trans ?_
      rw [drainActions_run]
      exact bind_last fun _ => rfl
  | udpSend destIp destPort data => exact Action.runAll_singleton _ s
  | udpReceive buffer maxLen timeoutMs =>
      refine (Action.runAll_append _ _ (s.udpReceiveStart buffer maxLen)).trans ?_
      rw [waitActions_run]
      exact bind_last fun _ => rfl
  | ping targetIp timeoutMs =>
      refine (waitActions_run _ _ _).trans ?_
      exact (map_bind_some fun _ => rfl).symm
  | resolveHostname hostname outIp =>
      refine (requestActions_run _ _ _ _).trans ?_
      refine (map_bind_some fun s => ?_).symm
      split
      all_goals rfl

/-- Every API call keeps the stack reachable. -/
theorem run_reachable {call : ApiCall} {s s' : NetStack} (reachable : Reachable s) (done : call.run s = some s') :
    Reachable s' := by
  rw [← actions_run] at done
  exact Action.runAll_reachable reachable done

/-- The calls one after the other. -/
def runAll (calls : List ApiCall) (s : NetStack) : Option NetStack := calls.foldlM (fun s call => call.run s) s

theorem runAll_singleton (call : ApiCall) (s : NetStack) : runAll [call] s = call.run s :=
  Option.bind_fun_some (call.run s)

/-- The actions of a run of calls. -/
def history : List ApiCall → NetStack → List Action
  | [], _ => []
  | call :: calls, s =>
    call.actions s ++
      match call.run s with
      | none => []
      | some s' => history calls s'

/-- The history of a run of calls runs to the same stack. -/
theorem history_run (calls : List ApiCall) (s : NetStack) : Action.runAll (history calls s) s = runAll calls s := by
  induction calls generalizing s with
  | nil => rfl
  | cons call calls ih =>
      rw [history, Action.runAll_append, actions_run]
      change _ = (call.run s).bind (runAll calls)
      cases call.run s with
      | none => rfl
      | some s' => exact ih s'

end ApiCall
end UefiNetstack
