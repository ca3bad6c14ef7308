import UefiNetstack.Exchange.Arp
import UefiNetstack.Arp.Coherence
import UefiNetstack.Dhcp.Provenance
import UefiNetstack.Dhcp.ServerId
import UefiNetstack.Timing.DhcpCadence

namespace UefiNetstack
open Constants Memory DhcpLoop LastWrite

/-- The configuration of an identity is its address, its server and the variables that options name. -/
structure SameConfiguration (before after : Identity) : Prop where
  myIp : after.myIp = before.myIp
  dhcpServerIp : after.dhcpServerIp = before.dhcpServerIp
  get : ∀ var : ConfigVar, var.get after = var.get before

theorem SameConfiguration.refl (identity : Identity) : SameConfiguration identity identity :=
  ⟨rfl, rfl, fun _ => rfl⟩

theorem SameConfiguration.trans {first second third : Identity} (before : SameConfiguration first second)
    (after : SameConfiguration second third) : SameConfiguration first third where
  myIp := after.myIp.trans before.myIp
  dhcpServerIp := after.dhcpServerIp.trans before.dhcpServerIp
  get var := (after.get var).trans (before.get var)

namespace DhcpLoop

/-- The reply that a round accepts. -/
def accepts (loop : DhcpLoop) : Option Heard := loop.heard.filter fun heard => decide (heard.Accepted loop.state)

/-- The message that a round ignores. -/
def ignores (loop : DhcpLoop) : Option Heard := loop.heard.filter fun heard => decide ¬heard.Accepted loop.state

/-- The rounds ignore no message that names a variable. -/
def Silent (rounds : List DhcpLoop) (var : ConfigVar) : Prop :=
  ∀ round ∈ rounds, ∀ heard, round.ignores = some heard → heard.value var = none

/-- The replies that the rounds accept. -/
def replies (rounds : List DhcpLoop) : List Heard := rounds.filterMap accepts

variable {loop : DhcpLoop} {heard : Heard}

theorem accepts_of_heard (found : loop.heard = some heard) (accepted : heard.Accepted loop.state) :
    loop.accepts = some heard ∧ loop.ignores = none := by
  simp [accepts, ignores, found, accepted]

theorem ignores_of_heard (found : loop.heard = some heard) (refused : ¬heard.Accepted loop.state) :
    loop.accepts = none ∧ loop.ignores = some heard := by
  simp [accepts, ignores, found, refused]

theorem replies_accept {rounds : List DhcpLoop} (accepted : loop.accepts = some heard) :
    replies (rounds ++ [loop]) = replies rounds ++ [heard] := by
  simp [replies, accepted]

theorem replies_refuse {rounds : List DhcpLoop} (refused : loop.accepts = none) :
    replies (rounds ++ [loop]) = replies rounds := by
  simp [replies, refused]

theorem Silent.front {first second : List DhcpLoop} {var : ConfigVar} (silent : Silent (first ++ second) var) :
    Silent first var :=
  fun round member => silent round (List.mem_append_left _ member)

/-- The rounds take answers of Receive from the front. -/
theorem rounds_receive {xid : UINT32} {loops : Nat} {round : DhcpLoop} (member : round ∈ rounds xid loops loop) :
    round.stack.snp.receive <:+ loop.stack.snp.receive := by
  induction loops generalizing loop with
  | zero => cases member
  | succ loops ih =>
      rw [rounds] at member
      split at member
      · cases member
      · rcases List.mem_cons.mp member with rfl | later
        · exact List.suffix_rfl
        · have suffix := ih later
          rw [iteration_receive] at suffix
          exact suffix.trans (List.tail_suffix _)

end DhcpLoop

/-- What rounds leave of a configuration. The first reply that they accept supplies the address and the server. A
variable that no ignored message names holds what the replies have left in it. A bound run settles its router. -/
structure Leaves (rounds : List DhcpLoop) (bound : Prop) (before after : Identity) : Prop where
  myIp : after.myIp = ((replies rounds).head?.map Heard.address).getD before.myIp
  dhcpServerIp : after.dhcpServerIp = ((replies rounds).head?.map Heard.server).getD before.dhcpServerIp
  pending : ¬bound → ∀ var : ConfigVar, Silent rounds var →
    var.get after = written var (replies rounds) (var.get before)
  settled : bound → ∀ var : ConfigVar, Silent rounds var →
    var.get after = var.settle after.dhcpServerIp (written var (replies rounds) (var.get before))

variable {before after later : Identity}

namespace Leaves

variable {rounds : List DhcpLoop} {bound : Prop}

theorem of_same (same : SameConfiguration later before) (leaves : Leaves rounds bound before after) :
    Leaves rounds bound later after where
  myIp := by rw [leaves.myIp, same.myIp]
  dhcpServerIp := by rw [leaves.dhcpServerIp, same.dhcpServerIp]
  pending open_ var silent := by rw [leaves.pending open_ var silent, same.get]
  settled closed var silent := by rw [leaves.settled closed var silent, same.get]

theorem to_same (leaves : Leaves rounds bound before after) (same : SameConfiguration after later) :
    Leaves rounds bound before later where
  myIp := same.myIp.trans leaves.myIp
  dhcpServerIp := same.dhcpServerIp.trans leaves.dhcpServerIp
  pending open_ var silent := (same.get var).trans (leaves.pending open_ var silent)
  settled closed var silent := by rw [same.get, same.dhcpServerIp, leaves.settled closed var silent]

end Leaves

/-- The search goes on as long as no reply is accepted. -/
structure Negotiates (past : List DhcpLoop) (before : Identity) (loop : DhcpLoop) : Prop
    extends Leaves past (loop.state = .bound) before loop.stack.identity where
  searching : loop.state = .discover ↔ replies past = []

namespace Negotiates

variable {past : List DhcpLoop} {xid : UINT32} {loop loop' : DhcpLoop} {heard : Heard}

/-- A round that hears nothing keeps all. -/
theorem hearsNothing (negotiates : Negotiates past before loop) (silence : loop.heard = none)
    (state : loop'.state = loop.state) (identity : loop'.stack.identity = loop.stack.identity) :
    Negotiates (past ++ [loop]) before loop' := by
  have same : replies (past ++ [loop]) = replies past := replies_refuse (by simp [accepts, silence])
  refine ⟨⟨?_, ?_, ?_, ?_⟩, ?_⟩
  · rw [identity, same, negotiates.myIp]
  · rw [identity, same, negotiates.dhcpServerIp]
  · intro open_ var silent
    rw [state] at open_
    rw [identity, same, negotiates.pending open_ var silent.front]
  · intro closed var silent
    rw [state] at closed
    rw [identity, same, negotiates.settled closed var silent.front]
  · rw [state, same]
    exact negotiates.searching

/-- A message that the loop ignores changes the variables that it names, and nothing else. -/
theorem hearsOther (negotiates : Negotiates past before loop) (pending : loop.state ≠ .bound)
    (found : loop.heard = some heard) (refused : ¬heard.Accepted loop.state) (state : loop'.state = loop.state)
    (identity : loop'.stack.identity = (heard.scan loop.stack.identity).identity) :
    Negotiates (past ++ [loop]) before loop' := by
  obtain ⟨rejects, ignored⟩ := ignores_of_heard found refused
  have others := heard.scan_others loop.stack.identity
  have same : replies (past ++ [loop]) = replies past := replies_refuse rejects
  refine ⟨⟨?_, ?_, ?_, ?_⟩, ?_⟩
  · rw [identity, others.2.1, same, negotiates.myIp]
  · rw [identity, others.2.2, same, negotiates.dhcpServerIp]
  · intro _ var silent
    have unnamed : heard.value var = none := silent loop (by simp) heard ignored
    rw [identity, heard.scan_get, unnamed, Option.getD_none, same, negotiates.pending pending var silent.front]
  · intro closed
    exact absurd (state.symm.trans closed) pending
  · rw [state, same]
    exact negotiates.searching

/-- An accepted offer supplies the address and the server. -/
theorem hearsOffer (negotiates : Negotiates past before loop) (search : loop.state = .discover)
    (found : loop.heard = some heard) (accepted : heard.Accepted loop.state) (state : loop'.state = .offerRcvd)
    (identity : loop'.stack.identity = { (heard.scan loop.stack.identity).identity with
      myIp := heard.address, dhcpServerIp := heard.server }) :
    Negotiates (past ++ [loop]) before loop' := by
  have nothing : replies past = [] := negotiates.searching.mp search
  have first : replies (past ++ [loop]) = [heard] := by
    rw [replies_accept (accepts_of_heard found accepted).1, nothing, List.nil_append]
  refine ⟨⟨?_, ?_, ?_, ?_⟩, ?_⟩
  · rw [identity, first]
    rfl
  · rw [identity, first]
    rfl
  · intro _ var silent
    have held : var.get loop.stack.identity = var.get before := by
      rw [negotiates.pending (by rw [search]; decide) var silent.front, nothing]
      rfl
    rw [first, written_singleton, ← held, ← heard.scan_get, identity]
    cases var
    all_goals rfl
  · intro closed
    rw [state] at closed
    cases closed
  · rw [state, first]
    simp

/-- An acknowledgement leaves its values and settles the router. -/
theorem hearsAck (negotiates : Negotiates past before loop) (requests : loop.state = .offerRcvd)
    (found : loop.heard = some heard) (accepted : heard.Accepted loop.state) (state : loop'.state = .bound)
    (identity : loop'.stack.identity = { (heard.scan loop.stack.identity).identity with
      routerIp := settledRouter (heard.scan loop.stack.identity).identity }) :
    Negotiates (past ++ [loop]) before loop' := by
  have others := heard.scan_others loop.stack.identity
  have pending : loop.state ≠ .bound := by rw [requests]; decide
  have more : replies (past ++ [loop]) = replies past ++ [heard] := replies_accept (accepts_of_heard found accepted).1
  obtain ⟨offer, rest, earlier⟩ : ∃ offer rest, replies past = offer :: rest := by
    apply List.exists_cons_of_ne_nil
    intro nothing
    exact absurd (requests.symm.trans (negotiates.searching.mpr nothing)) (by decide)
  have head : (replies (past ++ [loop])).head? = (replies past).head? := by
    rw [more, earlier]
    rfl
  refine ⟨⟨?_, ?_, ?_, ?_⟩, ?_⟩
  · rw [identity, head, ← negotiates.myIp]
    exact others.2.1
  · rw [identity, head, ← negotiates.dhcpServerIp]
    exact others.2.2
  · intro open_
    exact absurd state open_
  · intro _ var silent
    rw [more, written_append, written_singleton, ← negotiates.pending pending var silent.front, ← heard.scan_get,
      identity, var.get_settledRouter]
  · rw [state, more, earlier]
    simp

/-- One round. -/
theorem iteration (negotiates : Negotiates past before loop) (pending : loop.state ≠ .bound) :
    Negotiates (past ++ [loop]) before (loop.iteration xid) := by
  obtain ⟨sends, hears, reception⟩ := loop.iteration_reception xid pending
  cases reception with
  | nothing keeps silent state identity =>
    exact negotiates.hearsNothing (hears.symm.trans silent) (state.trans sends.state) (by rw [identity, sends.identity])
  | ignored keeps message found refused state identity =>
    rw [sends.state] at refused
    exact negotiates.hearsOther pending (hears.symm.trans found) refused (state.trans sends.state)
      (by rw [identity, sends.identity])
  | offered keeps message found search accepted state due identity =>
    rw [sends.state] at search accepted
    exact negotiates.hearsOffer search (hears.symm.trans found) accepted state (by rw [identity, sends.identity])
  | bound keeps message found requests accepted state identity =>
    rw [sends.state] at requests accepted
    exact negotiates.hearsAck requests (hears.symm.trans found) accepted state (by rw [identity, sends.identity])

/-- A run adds its rounds. -/
theorem run (negotiates : Negotiates past before loop) (loops : Nat) :
    Negotiates (past ++ rounds xid loops loop) before (DhcpLoop.run xid loops loop) := by
  induction loops generalizing past loop with
  | zero =>
      rw [rounds, List.append_nil]
      exact negotiates
  | succ loops ih =>
      rw [rounds, DhcpLoop.run]
      by_cases closed : loop.state = .bound
      · rw [if_pos closed, if_pos closed, List.append_nil]
        exact negotiates
      · rw [if_neg closed, if_neg closed, List.append_cons]
        exact ih (negotiates.iteration closed)

end Negotiates

namespace NetStack

variable {s s' : NetStack}

/-- The loop leaves what its rounds have named. -/
theorem dhcp_leaves (s : NetStack) :
    Leaves s.dhcpRounds (s.dhcp.state = .bound) s.identity s.dhcp.stack.identity := by
  have start : Negotiates [] s.identity { stack := s.getU32.2 } := by
    refine ⟨⟨rfl, rfl, fun _ _ _ => rfl, ?_⟩, ?_⟩
    · intro closed
      cases closed
    · exact ⟨fun _ => rfl, fun _ => rfl⟩
  exact (@Negotiates.run _ _ s.getU32.1 _ start timeoutDhcpLoops).toLeaves

theorem openNic_same {boot : Boot} {opened : NetStack} (opens : s.openNic boot = .ok opened) :
    SameConfiguration s.identity opened.identity := by
  obtain ⟨seed, rxPkt, ⟨failure, failed, -⟩ | done⟩ := s.openNic_cases boot
  · rw [failed] at opens
    cases opens
  · obtain rfl := Except.ok.inj (done.symm.trans opens)
    exact ⟨rfl, rfl, fun var => by cases var <;> rfl⟩

theorem TakesNothing.configuration (nothing : TakesNothing s s') : SameConfiguration s.identity s'.identity := by
  rw [nothing.identity]
  exact SameConfiguration.refl _

theorem learnArp_configuration (s : NetStack) (arp : ArpHdr) :
    SameConfiguration s.identity (s.learnArp arp).identity := by
  rw [learnArp_eq]
  dsimp only
  split
  · exact ⟨rfl, rfl, fun var => by cases var <;> rfl⟩
  · exact SameConfiguration.refl _

/-- A poll learns the MAC of the gateway at most. -/
theorem poll_configuration (done : s.poll = some s') : SameConfiguration s.identity s'.identity := by
  rcases poll_step done with ⟨frame, -, step⟩ | keeps
  · cases step with
    | reply arp found learned =>
        rw [learned]
        exact learnArp_configuration (s.received.landed frame) arp
    | answer udpAt address noReply found keeps dns => exact keeps.configuration
    | other noReply keeps => exact keeps.toTakesNothing.configuration
  · exact keeps.toTakesNothing.configuration

/-- The wait for the gateway configures nothing. -/
theorem resolveGateway_configuration (done : s.resolveGateway = some s') :
    SameConfiguration s.identity s'.identity := by
  refine requestLoop_keeps (P := fun t => SameConfiguration s.identity t.identity) ?_ ?_ ?_ ?_ done
  · intro before after same waiting sent
    obtain rfl := Option.some.inj sent
    exact ⟨same, waiting⟩
  · intro before after same waiting polled
    exact same.trans (poll_configuration polled)
  · intro before same
    exact same
  · exact SameConfiguration.refl _

/-- Any act but an initialization keeps the configuration. -/
theorem act_configuration {act : Act} (plain : ¬act.Initializes) (done : act.run s = some s') :
    SameConfiguration s.identity s'.identity := by
  cases act with
  | move move =>
      cases move with
      | poll => exact poll_configuration done
      | call call => exact (call_takesNothing done).configuration
  | tcpOpen remote port =>
      obtain rfl := Option.some.inj done
      exact SameConfiguration.refl _
  | flushArp =>
      obtain rfl := Option.some.inj done
      exact SameConfiguration.refl _
  | initNetwork => exact absurd trivial plain
  | initNetworkStatic => exact absurd trivial plain

/-- A run without an initialization keeps the configuration. -/
theorem runAll_configuration {acts : List Act} (plain : ∀ act ∈ acts, ¬act.Initializes)
    (run : Act.runAll acts s = some s') : SameConfiguration s.identity s'.identity := by
  refine Act.runAll_keeps (P := fun t => SameConfiguration s.identity t.identity) (.refl _) ?_ run
  intro act member before after same done
  exact same.trans (act_configuration (plain act member) done)

/-- The ARP packet on a page. -/
def arpOn (m : Memory) : Option ArpHdr :=
  if (EthHdr.read m 0).type = htons ethertypeArp then some (ArpHdr.read m sizeofEthHdr) else none

/-- The next poll answers an ARP request that its frame holds when this asks for an address, unless that is zero. -/
def AnswersFor (s : NetStack) (address : UINT32) : Prop :=
  ∀ frame arp, s.nextReceive = .frame frame → frame.Holds arpOn (some arp) → ntohs arp.oper = arpOperRequest →
    ∃ s', s.poll = some s' ∧
      s'.sent = s.sent ++ if arp.tpa = address ∧ address ≠ 0#32 then [s.arpReplyFrame arp] else []

theorem answersFor (s : NetStack) : s.AnswersFor s.identity.myIp := by
  intro frame arp delivered holds request
  have packet := holds.on s.rxPkt
  unfold arpOn at packet
  split at packet
  · rename_i type
    have header := Option.some.inj packet
    refine ⟨(s.received.landed frame).handleArp arp, ?_, ?_⟩
    · rw [poll_frame delivered, dispatch, ← header]
      exact if_pos type
    · have notReply : ntohs arp.oper ≠ arpOperReply := by rw [request]; decide
      unfold handleArp
      dsimp only
      rw [if_neg notReply, if_pos request]
      change (if arp.tpa = s.identity.myIp ∧ s.identity.myIp ≠ 0#32 then _ else _ : NetStack).sent = _
      by_cases asked : arp.tpa = s.identity.myIp ∧ s.identity.myIp ≠ 0#32
      · rw [if_pos asked, if_pos asked, sendFrame_sent, received_landed_sent]
        rfl
      · rw [if_neg asked, if_neg asked, received_landed_sent, List.append_nil]
  · cases packet

/-- A run that takes only frames that hold the message that is read in them has received the replies that it accepts. -/
theorem received_of_whole (whole : ∀ frame, .frame frame ∈ s.snp.receive → ∃ reading, frame.Holds contentOn reading) :
    ∀ round ∈ s.dhcpRounds, ∀ reply, round.accepts = some reply → round.Receives reply.content := by
  intro round member reply accepted
  have found : round.heard = some reply := (Option.filter_eq_some_iff.mp accepted).1
  cases next : round.stack.nextReceive with
  | frame frame =>
      obtain ⟨reading, holds⟩ := whole frame ((rounds_receive member).subset (nextReceive_mem next))
      have same := holds.on round.stack.rxPkt
      rw [contentOn, ← heard_frame next, found, Option.map_some] at same
      exact ⟨frame, next, same ▸ holds⟩
  | notReady =>
      rw [DhcpLoop.heard, next] at found
      cases found
  | error =>
      rw [DhcpLoop.heard, next] at found
      cases found

/-- An initialization behind the open NIC, whether it succeeds or not, leaves what the replies that it has accepted say,
and these are received. Until the next initialization the stack answers for the address of the first one, and for the
address that it had where there is none. -/
theorem initialization_leaves {boot : Boot} {opened : NetStack} {st : EfiStatus}
    (opens : s.openNic boot = .ok opened) (done : Api.initNetwork boot s = some (st, s'))
    (received : ∀ round ∈ opened.dhcpRounds, ∀ reply, round.accepts = some reply → round.Receives reply.content) :
    (∀ reply ∈ replies opened.dhcpRounds, ∃ round ∈ opened.dhcpRounds, round.Receives reply.content) ∧
      Leaves opened.dhcpRounds (opened.dhcp.state = .bound) s.identity s'.identity ∧
      ∀ (acts : List Act) (t : NetStack), (∀ act ∈ acts, ¬act.Initializes) → Act.runAll acts s' = some t →
        t.AnswersFor (((replies opened.dhcpRounds).head?.map Heard.address).getD s.identity.myIp) := by
  have negotiated := opened.dhcp_leaves.of_same (openNic_same opens)
  have left : Leaves opened.dhcpRounds (opened.dhcp.state = .bound) s.identity s'.identity := by
    unfold Api.initNetwork at done
    rw [opens] at done
    dsimp only at done
    split at done
    · obtain ⟨-, rfl⟩ := Prod.mk.inj (Option.some.inj done)
      exact negotiated
    · obtain ⟨asked, resolves, result⟩ := Option.bind_eq_some_iff.mp done
      obtain ⟨-, rfl⟩ := Prod.mk.inj (Option.some.inj result)
      exact negotiated.to_same (resolveGateway_configuration resolves)
  refine ⟨?_, left, ?_⟩
  · intro reply member
    obtain ⟨round, inside, accepted⟩ := List.mem_filterMap.mp member
    exact ⟨round, inside, received round inside reply accepted⟩
  · intro acts t plain run
    rw [← left.myIp, ← (runAll_configuration plain run).myIp]
    exact t.answersFor

end NetStack

namespace Scenario
open NetStack

/-- The gateway makes an offer, stays silent until the loop gives up, and then asks for the offered address. -/
def unanswered : List Receive :=
  .frame offerFrame :: (List.replicate (timeoutDhcpLoops - 1) .notReady ++ [.frame gatewayRequest])

/-- The stack as the program starts it, and as the search begins behind the open NIC. -/
def started : NetStack := NetStack.initial .zeros { receive := unanswered }
def searching : NetStack := powered unanswered

theorem started_opens : started.openNic boot = .ok searching := rfl

/-- The search ends with the offer, and nothing ends the request. -/
theorem searching_dhcp : searching.dhcp.state = .offerRcvd ∧ searching.dhcp.stack.identity.myIp = localIp ∧
    searching.dhcp.stack.nextReceive = .frame gatewayRequest := by
  let start : DhcpLoop := { stack := searching.getU32.2 }
  let offered : DhcpLoop := start.iteration transaction
  have state : offered.state = .offerRcvd := by decide +kernel
  have address : offered.stack.identity.myIp = localIp := by decide +kernel
  have left : offered.stack.snp.receive =
      List.replicate (timeoutDhcpLoops - 1) .notReady ++ [.frame gatewayRequest] :=
    start.iteration_receive transaction
  obtain ⟨sameState, sameIdentity, remaining⟩ := offered.run_silent transaction (by rw [state]; decide) left
  have all : searching.dhcp = DhcpLoop.run transaction (timeoutDhcpLoops - 1) offered := by
    change DhcpLoop.run transaction (timeoutDhcpLoops - 1 + 1) start = _
    rw [DhcpLoop.run, if_neg (by decide)]
  rw [all]
  refine ⟨sameState.trans state, (congrArg Identity.myIp sameIdentity).trans address, ?_⟩
  rw [NetStack.nextReceive, remaining]
  rfl

theorem started_fails : Api.initNetwork boot started = some (.timeout, searching.dhcp.stack) := by
  have pending : searching.dhcp.state ≠ .bound := by rw [searching_dhcp.1]; decide
  unfold Api.initNetwork
  rw [started_opens]
  dsimp only
  rw [if_pos pending]

/-- The request lies in its frame. -/
theorem gatewayRequest_holds : gatewayRequest.Holds arpOn (some (gatewayStack.arpRequestPacket localIp)) := by
  intro m
  let eth : EthHdr := { dst := ethBroadcast, src := gatewayMac, type := htons ethertypeArp }
  have stored : BytesAt (m.write 0 gatewayRequest.bytes) 0 (eth.bytes ++ (gatewayStack.arpRequestPacket localIp).bytes) :=
    write_bytesAt m 0 gatewayRequest.bytes
  rw [bytesAt_append_iff, EthHdr.bytes_length] at stored
  rw [arpOn, EthHdr.read_stored stored.1, sizeofEthHdr, ArpHdr.read_stored stored.2]
  rfl

/-- An ARP packet is no DHCP message. -/
theorem holds_noContent {frame : RxFrame} {arp : ArpHdr} (packet : frame.Holds arpOn (some arp)) :
    frame.Holds contentOn none := by
  intro m
  have read := packet m
  unfold arpOn at read
  split at read
  · rename_i type
    have noPage : ¬IsDhcpPage (m.write 0 frame.bytes) := fun here =>
      absurd (type.symm.trans here.1) (by decide)
    rw [contentOn, heardOn_eq, if_neg noPage, Option.map_none]
  · cases read

theorem searching_received :
    ∀ round ∈ searching.dhcpRounds, ∀ reply, round.accepts = some reply → round.Receives reply.content := by
  refine received_of_whole fun frame member => ?_
  have waits : Receive.frame frame ∈ unanswered := member
  simp only [unanswered, List.mem_cons, List.mem_append, List.mem_replicate, reduceCtorEq, and_false, false_or,
    List.not_mem_nil, or_false, Receive.frame.injEq] at waits
  rcases waits with rfl | rfl
  · exact ⟨_, offerFrame_content⟩
  · exact ⟨_, holds_noContent gatewayRequest_holds⟩

end Scenario

namespace NetStack
open Scenario

/-- The failed initialization answers for the address that was only offered. -/
theorem initialization_leaves_offer : ∃ t, searching.dhcp.stack.poll = some t ∧
    t.sent = searching.dhcp.stack.sent ++
      [searching.dhcp.stack.arpReplyFrame (gatewayStack.arpRequestPacket localIp)] := by
  obtain ⟨-, left, answers⟩ := initialization_leaves started_opens started_fails searching_received
  have now := answers [] _ (by simp) rfl
  obtain ⟨-, address, asked⟩ := searching_dhcp
  rw [← left.myIp, address] at now
  obtain ⟨t, polled, sent⟩ := now gatewayRequest _ asked gatewayRequest_holds (by decide)
  exact ⟨t, polled, sent.trans (congrArg (searching.dhcp.stack.sent ++ ·) (if_pos ⟨rfl, by decide⟩))⟩

/-- A failed initialization does not take the offered address back. -/
theorem offered_address_stays : ¬∀ (boot : Boot) (s opened s' : NetStack) (st : EfiStatus),
    s.openNic boot = .ok opened → Api.initNetwork boot s = some (st, s') → st ≠ .success →
      SameConfiguration s.identity s'.identity := by
  intro atomic
  have same := atomic boot started searching _ .timeout started_opens started_fails (by decide)
  have kept : localIp = started.identity.myIp := searching_dhcp.2.1.symm.trans same.myIp
  exact absurd kept (by decide)

end NetStack
end UefiNetstack
