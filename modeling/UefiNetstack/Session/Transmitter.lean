import UefiNetstack.Session.Initialization
import UefiNetstack.Session.Related

namespace UefiNetstack
open Constants NetStack Relational

/-- What is left of an event without the answers of the transmitter and without the time. -/
def Event.heard : Event → Option Event
  | .getStatus _ => none
  | .stall _ => none
  | .transmit frame _ => some (.transmit frame .success)
  | event => some event

theorem Snp.Quiet.unheard {event : Event} (quiet : Snp.Quiet event) : event.heard = none := by
  rcases quiet with ⟨_, rfl⟩ | ⟨_, rfl⟩ <;> rfl

namespace NetStack

/-- The stacks differ in the answers of the transmitter and in time only: those to come and those in the trace. -/
def HeardAlike (s t : NetStack) : Prop :=
  ∃ snp trace, t = { s with snp, trace } ∧ snp.receive = s.snp.receive ∧
    trace.filterMap Event.heard = s.trace.filterMap Event.heard

variable {s t : NetStack}

theorem HeardAlike.of_right {snp : Snp} {trace : List Event} (same : snp.receive = s.snp.receive ∧
    trace.filterMap Event.heard = s.trace.filterMap Event.heard) : HeardAlike s { s with snp, trace } :=
  ⟨snp, trace, rfl, same⟩

theorem HeardAlike.log (alike : HeardAlike s t) (event : Event) : HeardAlike (s.log event) (t.log event) := by
  obtain ⟨snp, trace, rfl, receive, heard⟩ := alike
  refine ⟨snp, trace ++ [event], rfl, receive, ?_⟩
  simp only [NetStack.log, List.filterMap_append, heard]

/-- Whatever the transmitter answers, the same frame is heard. -/
theorem HeardAlike.sendFrame (alike : HeardAlike s t) (frame : TxFrame) :
    HeardAlike (s.sendFrame frame) (t.sendFrame frame) := by
  obtain ⟨snp, trace, rfl, receive, heard⟩ := alike
  refine ⟨(NetStack.sendFrame frame { s with snp, trace }).snp, (NetStack.sendFrame frame { s with snp, trace }).trace,
    rfl, ?_, ?_⟩
  · have left := sendFrame_receive frame s
    have right := sendFrame_receive frame { s with snp, trace }
    exact right.trans (receive.trans left.symm)
  · have left := sendFrame_filterMap Event.heard (fun _ quiet => quiet.unheard) frame s
    have right := sendFrame_filterMap Event.heard (fun _ quiet => quiet.unheard) frame { s with snp, trace }
    rw [right, left]
    simp only [heard, List.filterMap_cons, Event.heard]

theorem HeardAlike.getU32 (alike : HeardAlike s t) :
    t.getU32.1 = s.getU32.1 ∧ HeardAlike s.getU32.2 t.getU32.2 := by
  obtain ⟨snp, trace, rfl, same⟩ := alike
  exact ⟨rfl, snp, trace, rfl, same⟩

theorem HeardAlike.sendTcpInternal (alike : HeardAlike s t) (flags : UINT8) (seq ack : UINT32) (data : Bytes) :
    Option.Rel HeardAlike (s.sendTcpInternal flags seq ack data) (t.sendTcpInternal flags seq ack data) := by
  obtain ⟨snp, trace, rfl, same⟩ := alike
  have drawn : HeardAlike s.getU32.2 (NetStack.getU32 { s with snp, trace }).2 := ⟨snp, trace, rfl, same⟩
  unfold NetStack.sendTcpInternal
  split
  · exact .some (drawn.sendFrame _)
  · exact .none

theorem HeardAlike.sendUdp (alike : HeardAlike s t) (destIp : UINT32) (destPort srcPort : UINT16) (data : Bytes) :
    Option.Rel HeardAlike (s.sendUdp destIp destPort srcPort data) (t.sendUdp destIp destPort srcPort data) := by
  obtain ⟨snp, trace, rfl, same⟩ := alike
  have drawn : HeardAlike s.getU32.2 (NetStack.getU32 { s with snp, trace }).2 := ⟨snp, trace, rfl, same⟩
  unfold NetStack.sendUdp
  split
  · exact .some (drawn.sendFrame _)
  · exact .none

theorem HeardAlike.dnsQuery (alike : HeardAlike s t) (hostname : CString) :
    Option.Rel HeardAlike (s.dnsQuery hostname) (t.dnsQuery hostname) := by
  obtain ⟨snp, trace, rfl, same⟩ := alike
  have drawn : HeardAlike s.dnsPrepared (NetStack.dnsPrepared { s with snp, trace }) := ⟨snp, trace, rfl, same⟩
  unfold NetStack.dnsQuery
  split
  · exact .some (drawn.sendFrame _)
  · exact .none

theorem heard_icmpRelated : IcmpRelated HeardAlike where
  rxPkt := by
    rintro s _ ⟨snp, trace, rfl, same⟩
    rfl
  ping := by
    rintro s _ ⟨snp, trace, rfl, same⟩
    rfl
  update := by
    rintro s _ ⟨snp, trace, rfl, same⟩ ping
    exact .of_right same
  reply := by
    rintro s _ ⟨snp, trace, rfl, same⟩ ip icmpAt len
    have drawn : HeardAlike s.getU32.2 (NetStack.getU32 { s with snp, trace }).2 := ⟨snp, trace, rfl, same⟩
    refine ite_related Iff.rfl (fun _ => .some ⟨snp, trace, rfl, same⟩) fun _ => ?_
    split
    · refine rel_bind (R := Eq) (rel_refl (fun _ => rfl) _) fun message _ equal => ?_
      subst equal
      exact .some (drawn.sendFrame _)
    · exact .none

theorem heard_udpRelated : UdpRelated HeardAlike where
  rxPkt := heard_icmpRelated.rxPkt
  udp := by
    rintro s _ ⟨snp, trace, rfl, same⟩
    rfl
  dns := by
    rintro s _ ⟨snp, trace, rfl, same⟩
    rfl
  receiver := by
    rintro s _ ⟨snp, trace, rfl, same⟩ udp
    exact .of_right same
  resolver := by
    rintro s _ ⟨snp, trace, rfl, same⟩ dns
    exact .of_right same
  copied := fun alike data => alike.log (.udpCopy data)

theorem heard_tcpRelated : TcpRelated HeardAlike where
  rxPkt := heard_icmpRelated.rxPkt
  tcp := by
    rintro s _ ⟨snp, trace, rfl, same⟩
    rfl
  session := by
    rintro s _ ⟨snp, trace, rfl, same⟩ tcp
    exact .of_right same
  control := by
    rintro s _ ⟨snp, trace, rfl, same⟩ flags
    exact (HeardAlike.of_right same).sendTcpInternal flags s.tcp.seq s.tcp.ack []
  copied := fun alike offset data => alike.log (.tcpCopy offset data)

theorem learnArp_heard (arp : ArpHdr) (alike : HeardAlike s t) : HeardAlike (s.learnArp arp) (t.learnArp arp) := by
  obtain ⟨snp, trace, rfl, same⟩ := alike
  rw [learnArp_eq, learnArp_eq]
  exact ⟨snp, trace, rfl, same⟩

theorem handleArp_heard (arp : ArpHdr) (alike : HeardAlike s t) : HeardAlike (s.handleArp arp) (t.handleArp arp) := by
  have learned := learnArp_heard arp alike
  obtain ⟨snp, trace, rfl, same⟩ := alike
  have alike := HeardAlike.of_right same
  refine ite_related Iff.rfl (fun _ => learned) fun _ => ?_
  refine ite_related Iff.rfl (fun _ => ?_) fun _ => alike
  exact ite_related Iff.rfl (fun _ => alike.sendFrame _) fun _ => alike

theorem HeardAlike.received (alike : HeardAlike s t) : HeardAlike s.received t.received := by
  obtain ⟨snp, trace, rfl, receive, heard⟩ := alike
  exact ⟨_, trace, rfl, congrArg List.tail receive, heard⟩

theorem HeardAlike.nextReceive (alike : HeardAlike s t) : t.nextReceive = s.nextReceive := by
  obtain ⟨snp, trace, rfl, receive, heard⟩ := alike
  exact congrArg (fun receive => List.headD receive Receive.notReady) receive

theorem heard_pollRelated : PollRelated HeardAlike where
  icmp := heard_icmpRelated
  udp := heard_udpRelated
  tcp := heard_tcpRelated
  arp := fun alike arp => handleArp_heard arp alike
  answer := HeardAlike.nextReceive
  received := HeardAlike.received
  page := by
    rintro s _ ⟨snp, trace, rfl, same⟩ rxPkt
    exact .of_right same
  logged := HeardAlike.log

theorem heard_indistinct : Indistinct HeardAlike where
  toPollRelated := heard_pollRelated
  draw := HeardAlike.getU32
  segment := HeardAlike.sendTcpInternal
  datagram := HeardAlike.sendUdp
  echo := by
    rintro s _ ⟨snp, trace, rfl, same⟩ targetIp id seq
    have drawn : HeardAlike s.getU32.2 (NetStack.getU32 { s with snp, trace }).2 := ⟨snp, trace, rfl, same⟩
    exact drawn.sendFrame _
  query := HeardAlike.dnsQuery

theorem openNic_heard (boot : Boot) (alike : HeardAlike s t) :
    PreparedRelated HeardAlike (s.openNic boot) (t.openNic boot) := by
  have seeded : HeardAlike (s.rngInit boot.time) (t.rngInit boot.time) := by
    obtain ⟨snp, trace, rfl, same⟩ := alike
    cases time : boot.time with
    | none => exact ⟨snp, trace, rfl, same⟩
    | some now => exact ⟨snp, trace, rfl, same⟩
  unfold openNic
  generalize s.rngInit boot.time = s at seeded
  generalize t.rngInit boot.time = t at seeded
  cases boot.rxPage with
  | none => exact .error ⟨rfl, seeded⟩
  | some rxPkt =>
      have paged : HeardAlike { s with rxPkt } { t with rxPkt } := by
        obtain ⟨snp, trace, rfl, same⟩ := seeded
        exact .of_right same
      refine ite_related Iff.rfl (fun _ => .error ⟨rfl, seeded⟩) fun _ => ?_
      refine ite_related Iff.rfl (fun _ => .error ⟨rfl, paged⟩) fun _ => ?_
      refine ite_related Iff.rfl (fun _ => .error ⟨rfl, paged⟩) fun _ => ?_
      refine ite_related Iff.rfl (fun _ => .error ⟨rfl, paged⟩) fun _ => .ok ?_
      have started := ((paged.log (.stall stall10ms)).log (.stall stall10ms)).log .receiveFilters
      obtain ⟨snp, trace, open_, receive, heard⟩ := started
      refine ⟨snp, trace, ?_, receive, heard⟩
      unfold NetStack.stall
      rw [open_]

/-- Two DHCP loops over such stacks. -/
def HeardLoops (loop loop' : DhcpLoop) : Prop := ∃ stack, HeardAlike loop.stack stack ∧ loop' = { loop with stack }

variable {loop loop' : DhcpLoop}

theorem sendRequest_heard (xid : UINT32) (alike : HeardLoops loop loop') :
    HeardLoops (loop.sendRequest xid) (loop'.sendRequest xid) := by
  obtain ⟨_, ⟨snp, trace, rfl, same⟩, rfl⟩ := alike
  obtain ⟨s, state, timeout⟩ := loop
  have alike := HeardAlike.of_right same
  refine ite_related Iff.rfl (fun _ => ?_) fun _ => ⟨_, alike, rfl⟩
  cases state with
  | discover => exact ⟨_, alike.sendFrame _, rfl⟩
  | offerRcvd => exact ⟨_, alike.sendFrame _, rfl⟩
  | bound => exact ⟨_, alike, rfl⟩

theorem transition_heard (message : DhcpMessage) (msgType : UINT8) (alike : HeardLoops loop loop') :
    HeardLoops (loop.transition message msgType) (loop'.transition message msgType) := by
  obtain ⟨_, ⟨snp, trace, rfl, same⟩, rfl⟩ := alike
  obtain ⟨s, state, timeout⟩ := loop
  have stays : ∀ state timeout identity, HeardLoops { stack := { s with identity }, state, timeout }
      { stack := { s with identity, snp, trace }, state, timeout } := fun state timeout identity =>
    ⟨_, ⟨snp, trace, rfl, same⟩, rfl⟩
  cases state with
  | discover => exact ite_related Iff.rfl (fun _ => stays _ _ _) fun _ => stays _ _ s.identity
  | offerRcvd => exact ite_related Iff.rfl (fun _ => stays _ _ _) fun _ => stays _ _ s.identity
  | bound => exact stays _ _ s.identity

theorem onPage_heard (alike : HeardLoops loop loop') : HeardLoops loop.onPage loop'.onPage := by
  obtain ⟨_, ⟨snp, trace, rfl, same⟩, rfl⟩ := alike
  unfold DhcpLoop.onPage
  dsimp only
  cases dhcpMessageOn loop.stack.rxPkt.byte with
  | none => exact ⟨_, ⟨snp, trace, rfl, same⟩, rfl⟩
  | some message => exact transition_heard message _ ⟨_, ⟨snp, trace, rfl, same⟩, rfl⟩

theorem onReceive_heard (answer : Receive) (alike : HeardLoops loop loop') :
    HeardLoops (loop.onReceive answer) (loop'.onReceive answer) := by
  obtain ⟨stack, alike, rfl⟩ := alike
  have logged := alike.received.log (.receive answer)
  cases answer with
  | frame frame =>
      obtain ⟨snp, trace, open_, receive, heard⟩ := logged
      refine onPage_heard ⟨_, ⟨snp, trace, ?_, receive, heard⟩, rfl⟩
      rw [open_]
  | notReady => exact ⟨_, logged.log (.stall stall1ms), rfl⟩
  | error => exact ⟨_, logged, rfl⟩

theorem dhcpRun_heard (xid : UINT32) (loops : ℕ) (alike : HeardLoops loop loop') :
    HeardLoops (DhcpLoop.run xid loops loop) (DhcpLoop.run xid loops loop') := by
  induction loops generalizing loop loop' with
  | zero => exact alike
  | succ loops ih =>
      have state : loop'.state = loop.state := by
        obtain ⟨stack, _, rfl⟩ := alike
        rfl
      refine ite_related (by rw [state]) (fun _ => alike) fun _ => ih ?_
      have asked := sendRequest_heard xid alike
      unfold DhcpLoop.iteration
      dsimp only
      have answer : (loop'.sendRequest xid).stack.nextReceive = (loop.sendRequest xid).stack.nextReceive := by
        obtain ⟨_, alike, same⟩ := asked
        rw [same]
        exact alike.nextReceive
      rw [answer]
      exact onReceive_heard _ asked

theorem heard_init : IndistinctInit HeardAlike where
  toIndistinct := heard_indistinct
  resolved := by
    rintro s _ ⟨snp, trace, rfl, same⟩
    rfl
  router := by
    rintro s _ ⟨snp, trace, rfl, same⟩
    rfl
  target := by
    rintro s _ ⟨snp, trace, rfl, same⟩ ip
    exact .of_right same
  ask := by
    rintro s _ ⟨snp, trace, rfl, same⟩ ip
    exact (HeardAlike.of_right same).sendFrame _
  openNic := fun alike boot => openNic_heard boot alike
  dhcp := by
    intro s t alike
    obtain ⟨drawn, again⟩ := alike.getU32
    have begins : HeardLoops { stack := s.getU32.2 } { stack := t.getU32.2 } := ⟨_, again, rfl⟩
    have ended := dhcpRun_heard s.getU32.1 timeoutDhcpLoops begins
    unfold NetStack.dhcp
    dsimp only
    rw [drawn]
    obtain ⟨stack, bound, same⟩ := ended
    rw [same]
    exact ⟨rfl, bound⟩
  configure := by
    rintro s _ ⟨snp, trace, rfl, same⟩ ip gateway mask dns
    exact .of_right same

/-- Everything there is to see of a stack but time and the transmitter: its variables, the answers that Receive
will give, and what it has done to the firmware and to the buffers of its callers. -/
def heard (s : NetStack) : NetStack :=
  { s with snp := { receive := s.snp.receive }, trace := s.trace.filterMap Event.heard }

theorem HeardAlike.heard_eq (alike : HeardAlike s t) : t.heard = s.heard := by
  obtain ⟨snp, trace, rfl, receive, heard⟩ := alike
  unfold NetStack.heard
  dsimp only
  rw [receive, heard]

end NetStack

/-- Whatever Transmit and GetStatus answer, and were it an error each time, a program that calls the stack as it
likes, and looks at all of it between the calls, gets the same replies and sees the same. -/
theorem transmitter_unnoticed (client : List (Reply × NetStack) → Option Operation) (operations : ℕ) (s : NetStack)
    (getStatus : List StatusAnswer) (transmit : List EfiStatus) :
    (talk heard client operations [] { s with snp := { s.snp with getStatus, transmit } }).map
        (fun (replies, s) => (replies, s.heard)) =
      (talk heard client operations [] s).map fun (replies, s) => (replies, s.heard) := by
  have alike : HeardAlike s { s with snp := { s.snp with getStatus, transmit } } := ⟨_, s.trace, rfl, rfl, rfl⟩
  have agree := heard_init.talk HeardAlike.heard_eq client operations [] alike
  have same : Option.Rel Eq ((talk heard client operations [] s).map fun (replies, s) => (replies, s.heard))
      ((talk heard client operations [] { s with snp := { s.snp with getStatus, transmit } }).map
        fun (replies, s) => (replies, s.heard)) :=
    rel_map agree fun x y agreed => Prod.ext agreed.1 agreed.2.heard_eq.symm
  exact (rel_eq same).symm

end UefiNetstack
