import UefiNetstack.Session.Initialization
import UefiNetstack.Session.Lifecycle

namespace UefiNetstack
open Constants NetStack Relation

/-- The stack that the firmware calls of an initialization leave, up to the open NIC or to the call that fails. -/
def OpensNic (boot : Boot) (s s' : NetStack) : Prop :=
  s.openNic boot = .ok s' ∨ ∃ st, s.openNic boot = .error (st, s')

/-- One small step, with the moves that a stack may make. The DHCP loop has its own variables beside the stack. -/
inductive StepWhere (may : NetStack → Move → Prop) : NetStack → NetStack → Prop
  | move {s s' : NetStack} (move : Move) (allowed : may s move) (done : move.run s = some s') : StepWhere may s s'
  | tcpOpen (s : NetStack) (ip : UINT32) (port : UINT16) : StepWhere may s (s.tcpOpen ip port)
  | flushArp (s : NetStack) : StepWhere may s { s with arpCache := s.arpCache.flush }
  | openNic {s s' : NetStack} (boot : Boot) (opens : OpensNic boot s s') : StepWhere may s s'
  | dhcpId (s : NetStack) : StepWhere may s s.getU32.2
  | dhcp (xid : UINT32) (loop : DhcpLoop) (pending : loop.state ≠ .bound) :
      StepWhere may loop.stack (loop.iteration xid).stack
  | configure (s : NetStack) (ip gateway mask dns : UINT32) : StepWhere may s { s with
      identity := { s.identity with myIp := ip, routerIp := gateway, subnetMask := mask, dnsServerIp := dns } }
  | gateway (s : NetStack) :
      StepWhere may s { s with arp := { s.arp with resolved := false, targetIp := s.identity.routerIp } }
  | arpRequest (s : NetStack) : StepWhere may s (s.arpRequest s.identity.routerIp)

/-- Any move at any time. -/
abbrev SmallStep : NetStack → NetStack → Prop := StepWhere fun _ _ => True

def SmallSteps : NetStack → NetStack → Prop := ReflTransGen SmallStep

/-- The API calls send a SYN only behind `tcp_connect`, which has drawn a port. -/
def Drawn (s : NetStack) (move : Move) : Prop := move = .call .syn → s.tcp.localPort ≠ 0#16

abbrev CallStep : NetStack → NetStack → Prop := StepWhere Drawn

def CallSteps : NetStack → NetStack → Prop := ReflTransGen CallStep

variable {s s' : NetStack}

theorem SmallStep.steps (step : SmallStep s s') : SmallSteps s s' := ReflTransGen.single step

theorem SmallStep.poll (polled : s.poll = some s') : SmallStep s s' := .move .poll trivial polled

theorem CallStep.small (step : CallStep s s') : SmallStep s s' := by
  cases step with
  | move own allowed done => exact .move own trivial done
  | tcpOpen s ip port => exact .tcpOpen s ip port
  | flushArp s => exact .flushArp s
  | openNic boot opens => exact .openNic boot opens
  | dhcpId s => exact .dhcpId s
  | dhcp xid loop pending => exact .dhcp xid loop pending
  | configure s ip gateway mask dns => exact .configure s ip gateway mask dns
  | gateway s => exact .gateway s
  | arpRequest s => exact .arpRequest s

theorem CallSteps.small (steps : CallSteps s s') : SmallSteps s s' :=
  ReflTransGen.mono (fun _ _ step => CallStep.small step) s s' steps

theorem CallStep.other {own : Move} (noSyn : own ≠ .call .syn) (done : own.run s = some s') : CallStep s s' :=
  .move own (fun syn => absurd syn noSyn) done

theorem CallStep.poll (polled : s.poll = some s') : CallStep s s' :=
  @CallStep.other s s' .poll Move.noConfusion polled

theorem CallStep.stall (s : NetStack) (micros : Nat) : CallStep s (s.stall micros) :=
  @CallStep.other s _ (.call (.stall micros)) (by simp) rfl

/-- The firmware calls leave the stack with another seed and page, and behind them the open NIC. -/
theorem OpensNic.cases {boot : Boot} (opens : OpensNic boot s s') :
    ∃ seed rxPkt, s' = s.repaged seed rxPkt ∨ s' = (s.repaged seed rxPkt).nicOpened boot := by
  obtain ⟨seed, rxPkt, result⟩ := s.openNic_cases boot
  refine ⟨seed, rxPkt, ?_⟩
  rcases opens with opened | ⟨st, failed⟩
  · rcases result with ⟨st, failed, -⟩ | success
    · rw [failed] at opened
      cases opened
    · exact Or.inr (Except.ok.inj (opened.symm.trans success))
  · rcases result with ⟨st', failed', -⟩ | success
    · exact Or.inl (Prod.mk.inj (Except.error.inj (failed.symm.trans failed'))).2
    · rw [success] at failed
      cases failed

theorem NetStack.Prepares.of_openNic {boot : Boot} (opens : OpensNic boot s s') : Prepares s s' := by
  obtain ⟨seed, rxPkt, rfl | rfl⟩ := opens.cases
  · exact Prepares.preparation.of_identity s _ _ _ _
  · exact Prepares.preparation.nicOpened boot seed rxPkt s

theorem dhcpRun_steps (xid : UINT32) (loops : Nat) (loop : DhcpLoop) :
    CallSteps loop.stack (DhcpLoop.run xid loops loop).stack := by
  induction loops generalizing loop with
  | zero => exact .refl
  | succ loops ih =>
      rw [DhcpLoop.run]
      split
      · exact .refl
      · rename_i pending
        exact ReflTransGen.head (.dhcp xid loop pending) (ih _)

theorem dhcp_steps (s : NetStack) : CallSteps s s.dhcp.stack :=
  ReflTransGen.head (.dhcpId s) (dhcpRun_steps s.getU32.1 timeoutDhcpLoops { stack := s.getU32.2 })

theorem resolveGateway_steps (resolved : s.resolveGateway = some s') : CallSteps s s' := by
  refine requestLoop_keeps (P := CallSteps s) ?_ ?_ ?_ (ReflTransGen.single (.gateway s)) resolved
  · intro before after steps open_ sent
    obtain rfl := Option.some.inj sent
    exact ⟨steps.tail (.arpRequest before), open_⟩
  · exact fun before after steps _ polled => steps.tail (.poll polled)
  · exact fun before steps => steps.tail (.stall before stall1ms)

/-- The stack that a preparation leaves, failed or not. -/
def PreparedBySteps (s : NetStack) : Except (EfiStatus × NetStack) NetStack → Prop
  | .error (_, s') => CallSteps s s'
  | .ok s' => CallSteps s s'

theorem dhcpPrepared_steps (boot : Boot) (s : NetStack) : PreparedBySteps s (s.dhcpPrepared boot) := by
  unfold dhcpPrepared
  cases opened : s.openNic boot with
  | error failed => exact ReflTransGen.single (.openNic boot (Or.inr ⟨_, opened⟩))
  | ok open_ =>
      have steps : CallSteps s open_.dhcp.stack :=
        ReflTransGen.head (.openNic boot (Or.inl opened)) (dhcp_steps open_)
      dsimp only
      split
      · exact steps
      · exact steps

theorem staticPrepared_steps (boot : Boot) (ip gateway mask dns : UINT32) (s : NetStack) :
    PreparedBySteps s (s.staticPrepared boot ip gateway mask dns) := by
  unfold staticPrepared
  cases opened : s.openNic boot with
  | error failed => exact ReflTransGen.single (.openNic boot (Or.inr ⟨_, opened⟩))
  | ok open_ =>
      exact ReflTransGen.head (.openNic boot (Or.inl opened)) (ReflTransGen.single (.configure open_ ip gateway mask dns))

theorem askGateway_steps {prepared : Except (EfiStatus × NetStack) NetStack} {st : EfiStatus}
    (steps : PreparedBySteps s prepared) (done : askGateway prepared = some (st, s')) : CallSteps s s' := by
  cases prepared with
  | error failed =>
      obtain rfl := Option.some.inj done
      exact steps
  | ok asking =>
      obtain ⟨asked, resolved, result⟩ := Option.bind_eq_some_iff.mp done
      obtain ⟨-, rfl⟩ := Prod.mk.inj (Option.some.inj result)
      exact ReflTransGen.trans steps (resolveGateway_steps resolved)

theorem Action.Connectionless.callStep {action : Action} (other : action.Connectionless) (done : action.run s = some s') :
    CallStep s s' := by
  obtain ⟨own, rfl, noSyn⟩ := other
  exact .other noSyn done

theorem runAll_callSteps {actions : List Action} (others : ∀ action ∈ actions, action.Connectionless)
    (done : Action.runAll actions s = some s') : CallSteps s s' := by
  induction actions generalizing s with
  | nil =>
      obtain rfl := Option.some.inj done
      exact .refl
  | cons action actions ih =>
      obtain ⟨middle, first, rest⟩ := Option.bind_eq_some_iff.mp done
      have step := (others action List.mem_cons_self).callStep first
      exact ReflTransGen.head step (ih (fun other member => others other (List.mem_cons_of_mem _ member)) rest)

/-- The loop of `tcp_connect` keeps the port that the call has drawn. -/
theorem tcpConnect_steps {ip : UINT32} {port : UINT16} {st : EfiStatus}
    (done : Api.tcpConnect ip port s = some (st, s')) : CallSteps s s' := by
  obtain ⟨ended, loop, result⟩ := Option.bind_eq_some_iff.mp done
  obtain ⟨-, rfl⟩ := Prod.mk.inj (Option.some.inj result)
  have drawn : (s.tcpOpen ip port).tcp.localPort ≠ 0#16 := by
    have random : ephemeralPortBase ≤ (s.tcpOpen ip port).tcp.localPort := s.getEphemeralPort_ge
    intro unset
    rw [unset] at random
    exact absurd random (by decide)
  refine (requestLoop_keeps (P := fun t => CallSteps s t ∧ t.tcp.localPort ≠ 0#16) ?_ ?_ ?_
    ⟨ReflTransGen.single (.tcpOpen s ip port), drawn⟩ loop).1
  · intro before after ⟨steps, bound⟩ open_ sent
    have syn : Move.run (.call .syn) before = some after := sent
    have tcp := (sendTcpControl_sends sent).1
    rw [tcp]
    exact ⟨⟨steps.tail (.move _ (fun _ => bound) syn), bound⟩, open_⟩
  · intro before after ⟨steps, bound⟩ _ polled
    refine ⟨steps.tail (.poll polled), ?_⟩
    rwa [(poll_keepsPort polled).port]
  · exact fun before ⟨steps, bound⟩ => ⟨steps.tail (.stall before stall1ms), bound⟩

/-- Every API call is made of small steps. -/
theorem ApiCall.run_callSteps {call : ApiCall} (done : call.run s = some s') : CallSteps s s' := by
  by_cases connects : ∃ ip port, call = .tcpConnect ip port
  · obtain ⟨ip, port, rfl⟩ := connects
    obtain ⟨⟨st, after⟩, ran, rfl⟩ := Option.map_eq_some_iff.mp done
    exact tcpConnect_steps ran
  · rw [← ApiCall.actions_run] at done
    exact runAll_callSteps (ApiCall.actions_connectionless (fun ip port same => connects ⟨ip, port, same⟩) s) done

theorem ApiCall.run_steps {call : ApiCall} (done : call.run s = some s') : SmallSteps s s' :=
  (ApiCall.run_callSteps done).small

theorem initNetwork_steps {boot : Boot} {st : EfiStatus} (done : Api.initNetwork boot s = some (st, s')) :
    CallSteps s s' := by
  rw [initNetwork_eq] at done
  exact askGateway_steps (dhcpPrepared_steps boot s) done

theorem initNetworkStatic_steps {boot : Boot} {ip gateway mask dns : UINT32} {st : EfiStatus}
    (done : Api.initNetworkStatic boot ip gateway mask dns s = some (st, s')) : CallSteps s s' := by
  rw [initNetworkStatic_eq] at done
  exact askGateway_steps (staticPrepared_steps boot ip gateway mask dns s) done

end UefiNetstack
