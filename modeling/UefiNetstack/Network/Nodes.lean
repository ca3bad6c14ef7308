import UefiNetstack.Lib.Network
import UefiNetstack.Network.Emission
import UefiNetstack.Http.Response

namespace UefiNetstack
open Constants NetStack Relation

namespace NetStack

/-- Receive will give one more answer. -/
def handed (answer : Receive) (s : NetStack) : NetStack :=
  { s with snp := { s.snp with receive := s.snp.receive ++ [answer] } }

end NetStack

/-- What the NIC answers on its own: that it has no frame or fails, and how a transmission ends. -/
inductive NicAnswers : NetStack → NetStack → Prop
  | notReady (s : NetStack) : NicAnswers s (s.handed .notReady)
  | error (s : NetStack) : NicAnswers s (s.handed .error)
  | status (s : NetStack) (transmit : List EfiStatus) (getStatus : List StatusAnswer) :
      NicAnswers s { s with snp := { s.snp with transmit, getStatus } }

def stackNode : Network.Node NetStack RxFrame where
  step s s' := SmallStep s s' ∨ NicAnswers s s'
  take frame s s' := s' = s.handed (.frame frame)
  sent s frame := frame.bytes ∈ s.sent

/-- An invariant of an instance, with what its frames are that wait and that it has sent. -/
structure Mailed (holds : NetStack → Prop) (good : RxFrame → Prop) (s : NetStack) : Prop where
  holds : holds s
  ports : s.PortsEphemeral
  inbox : ∀ frame, .frame frame ∈ s.snp.receive → good frame
  outbox : ∀ frame : RxFrame, frame.bytes ∈ s.sent → good frame

variable {s s' : NetStack} {holds : NetStack → Prop} {good : RxFrame → Prop}

theorem openNic_receive {boot : Boot} (opens : OpensNic boot s s') : s'.snp.receive = s.snp.receive := by
  obtain ⟨seed, rxPkt, rfl | rfl⟩ := opens.cases
  all_goals rfl

/-- A small step takes at most the next answer. -/
theorem SmallStep.receive (step : SmallStep s s') :
    s'.snp.receive = s.snp.receive ∨ s'.snp.receive = s.snp.receive.tail := by
  cases step with
  | move own _ done =>
      cases own with
      | poll => exact Or.inr (poll_receive done)
      | call call => exact Or.inl (call_receive done)
  | openNic boot opens => exact Or.inl (openNic_receive opens)
  | dhcp xid loop pending => exact Or.inr (DhcpLoop.iteration_receive xid loop)
  | arpRequest s => exact Or.inl (sendFrame_receive _ s)
  | tcpOpen | flushArp | dhcpId | configure | gateway => exact Or.inl rfl

theorem SmallStep.inbox (step : SmallStep s s') {frame : RxFrame} (waits : .frame frame ∈ s'.snp.receive) :
    .frame frame ∈ s.snp.receive := by
  rcases step.receive with same | tail
  · rwa [same] at waits
  · rw [tail] at waits
    exact List.mem_of_mem_tail waits

theorem mem_handed {answer : Receive} {frame : RxFrame} (waits : .frame frame ∈ (s.handed answer).snp.receive) :
    .frame frame ∈ s.snp.receive ∨ answer = .frame frame := by
  rcases List.mem_append.mp waits with before | new
  · exact Or.inl before
  · exact Or.inr (List.mem_singleton.mp new).symm

/-- What an instance does by small steps it does on the network. -/
theorem SmallSteps.onNetwork {Site : Type} [DecidableEq Site] {outside : RxFrame → Prop} {net : Site → NetStack}
    {site : Site} (steps : SmallSteps (net site) s') :
    Network.Run stackNode outside net (Function.update net site s') := by
  induction steps with
  | refl =>
      rw [Function.update_eq_self]
      exact ReflTransGen.refl
  | @tail middle last before step ih =>
      have here : (Function.update net site middle) site = middle := Function.update_self ..
      have moved : stackNode.step (Function.update net site middle site) last := Or.inl (here.symm ▸ step)
      have next : Network.Step stackNode outside (Function.update net site middle) _ := .step site moved
      rw [Function.update_idem] at next
      exact ih.tail next

/-- What an instance has to keep at its small steps, and what it may then emit. -/
structure KeepsMail (allowed holds : NetStack → Prop) (good : RxFrame → Prop) : Prop where
  nic : ∀ {s snp}, holds s → holds { s with snp }
  step : ∀ {s s'}, Mailed holds good s → SmallStep s s' → allowed s' → holds s'
  emits : ∀ {s s' : NetStack} {frame : RxFrame} {frames}, Mailed holds good s → SmallStep s s' →
    s'.sent = s.sent ++ frames → frame.bytes ∈ frames → Built s.identity frame.bytes → good frame

theorem KeepsMail.nicAnswers {allowed : NetStack → Prop} (keeps : KeepsMail allowed holds good)
    (mailed : Mailed holds good s) (answers : NicAnswers s s') : Mailed holds good s' := by
  cases answers with
  | notReady | error =>
      refine ⟨keeps.nic mailed.holds, ⟨mailed.ports.tcp, mailed.ports.udp, mailed.ports.dns⟩, ?_, mailed.outbox⟩
      intro frame waits
      rcases mem_handed waits with before | new
      · exact mailed.inbox frame before
      · cases new
  | status transmit getStatus =>
      have ports := mailed.ports
      exact ⟨keeps.nic mailed.holds, ⟨ports.tcp, ports.udp, ports.dns⟩, mailed.inbox, mailed.outbox⟩

theorem KeepsMail.smallStep {allowed : NetStack → Prop} (keeps : KeepsMail allowed holds good)
    (mailed : Mailed holds good s) (step : SmallStep s s') (allows : allowed s') : Mailed holds good s' := by
  obtain ⟨⟨frames, sent, built⟩, ports⟩ := smallStep_emits mailed.ports step
  refine ⟨keeps.step mailed step allows, ports, fun frame waits => mailed.inbox frame (step.inbox waits), ?_⟩
  intro frame member
  rw [sent] at member
  rcases List.mem_append.mp member with before | new
  · exact mailed.outbox frame before
  · exact keeps.emits mailed step sent new (built _ new)

/-- Instances that keep their mail keep it on any network with good frames from outside. -/
theorem KeepsMail.sound {allowed : NetStack → Prop} {outside : RxFrame → Prop} (keeps : KeepsMail allowed holds good)
    (foreign : ∀ frame, outside frame → good frame) :
    Network.Sound (stackNode.within allowed) outside (Mailed holds good) good where
  outside := foreign _
  sent := fun mailed sent => mailed.outbox _ sent
  step := by
    rintro s s' mailed ⟨small | nic, allows⟩
    · exact keeps.smallStep mailed small allows
    · exact keeps.nicAnswers mailed nic
  take := by
    rintro frame s s' mailed goodFrame ⟨rfl, -⟩
    refine ⟨keeps.nic mailed.holds, ⟨mailed.ports.tcp, mailed.ports.udp, mailed.ports.dns⟩, ?_, mailed.outbox⟩
    intro other waits
    rcases mem_handed waits with before | new
    · exact mailed.inbox other before
    · rwa [← Receive.frame.inj new]

end UefiNetstack
