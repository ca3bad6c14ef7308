import UefiNetstack.Dhcp.Content

namespace UefiNetstack
open Constants

/-- A state accepts a reply of the type that it waits for, or of no type. -/
def Heard.Accepted (heard : Heard) (state : DhcpState) : Prop :=
  heard.message.dhcp.op = dhcpOpReply ∧
    match state with
    | .discover => heard.type = dhcpMsgOffer ∨ heard.type = 0x00#8
    | .offerRcvd => heard.type = dhcpMsgAck ∨ heard.type = 0x00#8
    | .bound => False

instance (heard : Heard) (state : DhcpState) : Decidable (heard.Accepted state) :=
  match state with
  | .discover => inferInstanceAs (Decidable (_ ∧ (_ ∨ _)))
  | .offerRcvd => inferInstanceAs (Decidable (_ ∧ (_ ∨ _)))
  | .bound => inferInstanceAs (Decidable (_ ∧ False))

/-- The router of a bound identity: the server stands in where none is known. -/
def settledRouter (identity : Identity) : UINT32 :=
  if identity.routerIp = 0#32 then identity.dhcpServerIp else identity.routerIp

namespace DhcpLoop

variable (xid : UINT32) (loop : DhcpLoop)

/-- The message that an answer of Receive brings. -/
def hears (answer : Receive) : Option Heard :=
  match answer with
  | .frame frame =>
    let m := (loop.stack.rxPkt.receive frame).byte
    (dhcpMessageOn m).map fun message => { m, message }
  | .notReady => none
  | .error => none

/-- The message that an iteration hears. Sending changes neither the page nor what Receive gives. -/
def heard : Option Heard := loop.hears loop.stack.nextReceive

variable {loop}

/-- What a frame holds is what the loop hears. -/
theorem heard_frame {frame : RxFrame} (received : loop.stack.nextReceive = .frame frame) :
    loop.heard = heardOn (loop.stack.rxPkt.receive frame).byte := by
  rw [heard, received]
  rfl

theorem ReceivesHead.heard {head : DhcpHead} (receives : loop.ReceivesHead head) :
    loop.heard.map Heard.head = some head := by
  obtain ⟨frame, received, holds⟩ := receives
  rw [heard_frame received]
  exact holds.on loop.stack.rxPkt

theorem ReceivesHead.head_eq {head : DhcpHead} (receives : loop.ReceivesHead head) {heard : Heard}
    (found : loop.heard = some heard) : heard.head = head := by
  have same := receives.heard
  rw [found] at same
  exact Option.some.inj same

theorem Receives.heard {content : DhcpContent} (receives : loop.Receives content) :
    loop.heard.map Heard.content = some content := by
  obtain ⟨frame, received, holds⟩ := receives
  rw [heard_frame received]
  exact holds.on loop.stack.rxPkt

theorem Receives.content_eq {content : DhcpContent} (receives : loop.Receives content) {heard : Heard}
    (found : loop.heard = some heard) : heard.content = content := by
  have same := receives.heard
  rw [found] at same
  exact Option.some.inj same

/-- A frame that holds a message holds its header. -/
theorem Receives.head {content : DhcpContent} (receives : loop.Receives content) :
    loop.ReceivesHead content.toDhcpHead := by
  obtain ⟨frame, received, holds⟩ := receives
  refine ⟨frame, received, fun m => ?_⟩
  have content := congrArg (Option.map DhcpContent.toDhcpHead) (holds m)
  rw [contentOn, Option.map_map] at content
  exact content

variable (loop)

/-- The frame of a state. -/
def request (state : DhcpState) : Bytes :=
  match state with
  | .discover => loop.stack.dhcpFrame dhcpMsgDiscover xid
  | _ => loop.stack.dhcpFrame dhcpMsgRequest xid

/-- What sending keeps, and what it has sent. -/
structure Sends (loop loop' : DhcpLoop) : Prop where
  state : loop'.state = loop.state
  identity : loop'.stack.identity = loop.stack.identity
  rxPkt : loop'.stack.rxPkt = loop.stack.rxPkt
  next : loop'.stack.nextReceive = loop.stack.nextReceive
  due : loop'.timeout ≠ 0
  sent : loop'.stack.sent = loop.stack.sent ++ if loop.timeout = 0 then [loop.request xid loop.state] else []

theorem sendDhcp_next (s : NetStack) (type : UINT8) : (s.sendDhcp type xid).nextReceive = s.nextReceive :=
  congrArg (fun receive => List.headD receive Receive.notReady) (NetStack.sendFrame_receive _ s)

theorem sendRequest_sends (pending : loop.state ≠ .bound) : Sends xid loop (loop.sendRequest xid) := by
  have retransmit : timeoutRetransmit ≠ 0 := by decide
  unfold sendRequest
  split
  · rename_i due
    cases state : loop.state with
    | discover =>
      exact
        { state := state.symm, identity := rfl, rxPkt := rfl
          next := sendDhcp_next xid loop.stack dhcpMsgDiscover
          due := retransmit
          sent := by rw [if_pos due, state]; exact loop.stack.sendDhcp_sent _ _ }
    | offerRcvd =>
      exact
        { state := state.symm, identity := rfl, rxPkt := rfl
          next := sendDhcp_next xid loop.stack dhcpMsgRequest
          due := retransmit
          sent := by rw [if_pos due, state]; exact loop.stack.sendDhcp_sent _ _ }
    | bound => exact absurd state pending
  · rename_i later
    exact
      { state := rfl, identity := rfl, rxPkt := rfl, next := rfl, due := later
        sent := by rw [if_neg later, List.append_nil] }

/-- What every reception keeps. -/
structure Keeps (loop loop' : DhcpLoop) : Prop where
  sent : loop'.stack.sent = loop.stack.sent
  myMac : loop'.stack.identity.myMac = loop.stack.identity.myMac

/-- The reception of an answer does one of four things. -/
inductive Reception (answer : Receive) (loop loop' : DhcpLoop) : Prop
  | nothing (keeps : Keeps loop loop') (silent : loop.hears answer = none) (state : loop'.state = loop.state)
      (identity : loop'.stack.identity = loop.stack.identity)
  | ignored (keeps : Keeps loop loop') (message : Heard) (hears : loop.hears answer = some message)
      (refused : ¬message.Accepted loop.state) (state : loop'.state = loop.state)
      (identity : loop'.stack.identity = (message.scan loop.stack.identity).identity)
  | offered (keeps : Keeps loop loop') (message : Heard) (hears : loop.hears answer = some message)
      (before : loop.state = .discover) (accepted : message.Accepted loop.state) (state : loop'.state = .offerRcvd)
      (due : loop'.timeout = 0)
      (identity : loop'.stack.identity = { (message.scan loop.stack.identity).identity with
        myIp := message.address, dhcpServerIp := message.server })
  | bound (keeps : Keeps loop loop') (message : Heard) (hears : loop.hears answer = some message)
      (before : loop.state = .offerRcvd) (accepted : message.Accepted loop.state) (state : loop'.state = .bound)
      (identity : loop'.stack.identity = { (message.scan loop.stack.identity).identity with
        routerIp := settledRouter (message.scan loop.stack.identity).identity })

/-- The stack that the loop body works on after a frame has landed. -/
def landed (frame : RxFrame) : DhcpLoop :=
  { loop with
    stack := { loop.stack.received.log (.receive (.frame frame)) with rxPkt := loop.stack.rxPkt.receive frame } }

theorem received_sent (answer : Receive) : (loop.stack.received.log (.receive answer)).sent = loop.stack.sent := by
  simp [NetStack.sent, NetStack.log, NetStack.received, Event.frame?]

/-- The scan of a message touches neither the MAC nor the trace. -/
theorem landed_keeps (frame : RxFrame) {loop' : DhcpLoop} (trace : loop'.stack.trace = (loop.landed frame).stack.trace)
    (myMac : loop'.stack.identity.myMac = loop.stack.identity.myMac) : Keeps loop loop' where
  sent := by
    rw [NetStack.sent, trace]
    exact loop.received_sent (.frame frame)
  myMac := myMac

theorem onPage_reception (frame : RxFrame) : Reception (.frame frame) loop (loop.landed frame).onPage := by
  unfold onPage
  dsimp only
  cases found : dhcpMessageOn (loop.landed frame).stack.rxPkt.byte with
  | none =>
    have silent : dhcpMessageOn (loop.stack.rxPkt.receive frame).byte = none := found
    exact .nothing (loop.landed_keeps frame rfl rfl) (by simp only [hears, silent, Option.map_none]) rfl rfl
  | some message =>
    have hears : loop.hears (.frame frame) =
        some { m := (loop.stack.rxPkt.receive frame).byte, message } := by
      change (dhcpMessageOn (loop.stack.rxPkt.receive frame).byte).map _ = _
      have same : dhcpMessageOn (loop.stack.rxPkt.receive frame).byte = some message := found
      rw [same, Option.map_some]
    set heard : Heard := { m := (loop.stack.rxPkt.receive frame).byte, message }
    have type : (heard.scan loop.stack.identity).msgType = heard.type := heard.scan_msgType _
    have kept := (heard.scan_others loop.stack.identity).1
    change Reception _ _ (transition message (heard.scan loop.stack.identity).msgType _)
    rw [type]
    unfold transition
    dsimp only
    have accepts (state : DhcpState) (same : loop.state = state) :
        heard.Accepted loop.state ↔ heard.Accepted state := by rw [same]
    cases state : loop.state with
    | discover =>
      have here : (loop.landed frame).state = .discover := state
      rw [here]
      dsimp only
      split
      · rename_i accepted
        exact .offered (loop.landed_keeps frame rfl kept) heard hears state ((accepts _ state).mpr accepted) rfl rfl rfl
      · rename_i refused
        exact .ignored (loop.landed_keeps frame rfl kept) heard hears
          (fun accepted => refused ((accepts _ state).mp accepted)) here.symm rfl
    | offerRcvd =>
      have here : (loop.landed frame).state = .offerRcvd := state
      rw [here]
      dsimp only
      split
      · rename_i accepted
        exact .bound (loop.landed_keeps frame rfl kept) heard hears state ((accepts _ state).mpr accepted) rfl rfl
      · rename_i refused
        exact .ignored (loop.landed_keeps frame rfl kept) heard hears
          (fun accepted => refused ((accepts _ state).mp accepted)) here.symm rfl
    | bound =>
      have here : (loop.landed frame).state = .bound := state
      rw [here]
      exact .ignored (loop.landed_keeps frame rfl kept) heard hears
        (fun accepted => ((accepts _ state).mp accepted).2) here.symm rfl

/-- Every reception is one of the four. -/
theorem onReceive_reception (answer : Receive) : Reception answer loop (loop.onReceive answer) := by
  cases answer with
  | frame frame => exact loop.onPage_reception frame
  | notReady =>
    refine .nothing ?_ rfl rfl rfl
    exact
      { sent := by simp [onReceive, NetStack.sent, NetStack.stall, NetStack.log, NetStack.received, Event.frame?]
        myMac := rfl }
  | error => exact .nothing { sent := loop.received_sent .error, myMac := rfl } rfl rfl rfl

/-- An iteration receives what was next before it sent. -/
theorem iteration_reception (pending : loop.state ≠ .bound) : Sends xid loop (loop.sendRequest xid) ∧
    (loop.sendRequest xid).hears loop.stack.nextReceive = loop.heard ∧
    Reception loop.stack.nextReceive (loop.sendRequest xid) (loop.iteration xid) := by
  have sends := loop.sendRequest_sends xid pending
  refine ⟨sends, ?_, ?_⟩
  · unfold heard hears
    rw [sends.rxPkt]
  · rw [← sends.next]
    exact (loop.sendRequest xid).onReceive_reception _

/-- An iteration moves and supplies the address exactly when it accepts what it hears. -/
theorem iteration_accepts (pending : loop.state ≠ .bound) :
    ((∀ heard, loop.heard = some heard → ¬heard.Accepted loop.state) ∧ (loop.iteration xid).state = loop.state ∧
      (loop.iteration xid).stack.identity.myIp = loop.stack.identity.myIp) ∨
    ∃ heard, loop.heard = some heard ∧ heard.Accepted loop.state ∧ (loop.iteration xid).state ≠ loop.state := by
  obtain ⟨sends, hears, reception⟩ := iteration_reception xid loop pending
  cases reception with
  | nothing keeps silent state identity =>
    refine Or.inl ⟨?_, state.trans sends.state, by rw [identity, sends.identity]⟩
    intro heard found
    rw [hears, found] at silent
    cases silent
  | ignored keeps message found refused state identity =>
    have others := message.scan_others (loop.sendRequest xid).stack.identity
    refine Or.inl ⟨?_, state.trans sends.state, by rw [identity, others.2.1, sends.identity]⟩
    intro heard same
    obtain rfl := Option.some.inj (same.symm.trans (hears.symm.trans found))
    rwa [← sends.state]
  | offered keeps message found before accepted state due identity =>
    refine Or.inr ⟨message, hears.symm.trans found, by rwa [← sends.state], ?_⟩
    rw [state, ← sends.state, before]
    decide
  | bound keeps message found before accepted state identity =>
    refine Or.inr ⟨message, hears.symm.trans found, by rwa [← sends.state], ?_⟩
    rw [state, ← sends.state, before]
    decide

/-- The state after one more iteration of the bounded loop. -/
theorem run_succ (count : Nat) : run xid (count + 1) loop =
    if (run xid count loop).state = .bound then run xid count loop else (run xid count loop).iteration xid := by
  induction count generalizing loop with
  | zero => rfl
  | succ count ih =>
      rw [run]
      split
      · rename_i bound
        have stays : run xid (count + 1) loop = loop := by rw [run, if_pos bound]
        rw [stays, if_pos bound]
      · rename_i open_
        have goes : run xid (count + 1) loop = run xid count (loop.iteration xid) := by rw [run, if_neg open_]
        rw [ih, goes]

/-- Each iteration takes one answer of Receive. -/
theorem iteration_receive :
    (loop.iteration xid).stack.snp.receive = loop.stack.snp.receive.tail := by
  have sent : (loop.sendRequest xid).stack.snp.receive = loop.stack.snp.receive := by
    unfold sendRequest
    split
    · cases loop.state with
      | discover => exact NetStack.sendFrame_receive _ _
      | offerRcvd => exact NetStack.sendFrame_receive _ _
      | bound => rfl
    · rfl
  have page (loop : DhcpLoop) : loop.onPage.stack.snp = loop.stack.snp := by
    unfold onPage transition
    dsimp only
    split
    · split
      · split
        · rfl
        · rfl
      · split
        · rfl
        · rfl
      · rfl
    · rfl
  unfold iteration
  dsimp only
  rw [← sent]
  unfold onReceive
  dsimp only
  split
  · rw [page]
    rfl
  · rfl
  · rfl

/-- The first iterations are followed by the others. -/
theorem run_add (first second : Nat) : run xid (first + second) loop = run xid second (run xid first loop) := by
  induction second with
  | zero => rfl
  | succ second ih => rw [← Nat.add_assoc, run_succ, run_succ, ih]

/-- A bound loop stays as it is. -/
theorem run_bound {count : Nat} (bound : (run xid count loop).state = .bound) (more : Nat) :
    run xid (count + more) loop = run xid count loop := by
  induction more with
  | zero => rfl
  | succ more ih => rw [← Nat.add_assoc, run_succ, ih, if_pos bound]

/-- An iteration that finds nothing keeps the state and the identity. -/
theorem iteration_silent (empty : loop.stack.nextReceive = .notReady) (pending : loop.state ≠ .bound) :
    (loop.iteration xid).state = loop.state ∧ (loop.iteration xid).stack.identity = loop.stack.identity := by
  obtain ⟨sends, hears, reception⟩ := loop.iteration_reception xid pending
  have silent : (loop.sendRequest xid).hears loop.stack.nextReceive = none := by
    rw [empty]
    rfl
  cases reception with
  | nothing keeps _ state identity => exact ⟨state.trans sends.state, identity.trans sends.identity⟩
  | ignored keeps message found => exact absurd (silent.symm.trans found) nofun
  | offered keeps message found => exact absurd (silent.symm.trans found) nofun
  | bound keeps message found => exact absurd (silent.symm.trans found) nofun

/-- A run that finds nothing keeps them, and leaves the answers behind. -/
theorem run_silent {count : Nat} {rest : List Receive} (pending : loop.state ≠ .bound)
    (answers : loop.stack.snp.receive = List.replicate count .notReady ++ rest) :
    (run xid count loop).state = loop.state ∧ (run xid count loop).stack.identity = loop.stack.identity ∧
      (run xid count loop).stack.snp.receive = rest := by
  induction count generalizing loop with
  | zero => exact ⟨rfl, rfl, answers⟩
  | succ count ih =>
      have empty : loop.stack.nextReceive = .notReady :=
        congrArg (fun receive => List.headD receive Receive.notReady) answers
      obtain ⟨state, identity⟩ := iteration_silent xid loop empty pending
      have left : (loop.iteration xid).stack.snp.receive = List.replicate count .notReady ++ rest := by
        rw [iteration_receive, answers]
        rfl
      obtain ⟨sameState, sameIdentity, remaining⟩ := ih (loop.iteration xid) (by rwa [state]) left
      rw [run, if_neg pending]
      exact ⟨sameState.trans state, sameIdentity.trans identity, remaining⟩

end DhcpLoop
end UefiNetstack
