import UefiNetstack.Session.Calls
import UefiNetstack.Session.Flags
import UefiNetstack.Session.Sender

namespace UefiNetstack
open Constants NetStack

namespace NetStack

variable {s s' t : NetStack} {ip : UINT32} {port : UINT16}

/-- A SYN with the source port and the sequence number of a session. -/
def SynOf (session : TcpSession) (frame : Bytes) : Prop :=
  FrameHas tcpFlagSyn frame → frameSource frame = session.localPort ∧ frameSeqNo frame = session.seq

/-- While `tcp_connect` waits, the session is as it was opened, and the SYNs sent so far are its own. -/
structure Connecting (s : NetStack) (session : TcpSession) (t : NetStack) : Prop where
  waiting : t.tcp.state = .synSent → t.tcp.localPort = session.localPort ∧ t.tcp.seq = session.seq
  state : t.tcp.state = .synSent ∨ t.tcp.state = .established ∨ t.tcp.state = .closed
  sends : Sends (SynOf session) s t

theorem Connecting.of_waiting {session : TcpSession} (connecting : Connecting s session t)
    (open_ : (t.tcp.state = .established || t.tcp.state = .closed : Bool) = false) : t.tcp.state = .synSent := by
  rcases connecting.state with waiting | established | closed
  · exact waiting
  · simp [established] at open_
  · simp [closed] at open_

theorem Connecting.request {session : TcpSession} (connecting : Connecting s session t)
    (waiting : t.tcp.state = .synSent) (sent : t.sendTcpControl tcpFlagSyn = some s') :
    Connecting s session s' ∧ s'.tcp.state = .synSent := by
  obtain ⟨tcp, sends⟩ := sendTcpControl_sends sent
  obtain ⟨localPort, seq⟩ := connecting.waiting waiting
  refine ⟨?_, by rw [tcp, waiting]⟩
  exact
    { waiting := fun _ => by rw [tcp]; exact ⟨localPort, seq⟩
      state := by rw [tcp]; exact connecting.state
      sends := connecting.sends.trans (sends.mono fun frame segment _ =>
        ⟨segment.2.1.trans localPort, segment.2.2.trans seq⟩) }

/-- A poll of a waiting session resets it, establishes it or leaves it alone. -/
theorem poll_waiting (waiting : s.tcp.state = .synSent) (polled : s.poll = some s') :
    s'.tcp = s.tcp ∨ s'.tcp.state = .closed ∨ s'.tcp.state = .established ∧
      ∃ input, s.incoming = some input ∧ input.isSynAck ∧ ¬input.has tcpFlagRst := by
  rcases poll_answers polled with ⟨-, quiet⟩ | ⟨input, tcpAt, t, takes, tcp, reaction, -⟩
  · exact Or.inl quiet.tcp
  · cases reaction with
    | reset rst aborted => exact Or.inr (Or.inl (by rw [aborted]; rfl))
    | establish noRst _ synAck established =>
      exact Or.inr (Or.inr ⟨established.state, input, takes, synAck, noRst⟩)
    | take noRst listening carries taken => simp [Listening, tcp, waiting] at listening
    | ignore noRst notSynAck nothing unchanged => exact Or.inl (by rw [unchanged, tcp])

theorem poll_sendsNoSyn (polled : s.poll = some s') : Sends (fun frame => ¬FrameHas tcpFlagSyn frame) s s' := by
  rcases poll_answers polled with ⟨-, quiet⟩ | ⟨input, tcpAt, t, -, -, -, sends⟩
  · exact quiet.sends
  · exact sends.mono fun frame => answers_noSyn

theorem Connecting.poll {session : TcpSession} (connecting : Connecting s session t)
    (waiting : t.tcp.state = .synSent) (polled : t.poll = some s') : Connecting s session s' := by
  have sends := connecting.sends.trans ((poll_sendsNoSyn polled).mono fun frame noSyn syn => absurd syn noSyn)
  rcases poll_waiting waiting polled with same | closed | ⟨established, -⟩
  · exact { waiting := by rw [same]; exact connecting.waiting, state := by rw [same]; exact connecting.state, sends }
  · exact
      { waiting := fun waiting => by rw [closed] at waiting; cases waiting
        state := Or.inr (Or.inr closed)
        sends }
  · exact
      { waiting := fun waiting => by rw [established] at waiting; cases waiting
        state := Or.inr (Or.inl established)
        sends }

theorem Connecting.opened (ip : UINT32) (port : UINT16) (s : NetStack) :
    Connecting s (s.tcpOpen ip port).tcp (s.tcpOpen ip port) where
  waiting _ := ⟨rfl, rfl⟩
  state := Or.inl rfl
  sends := Sends.of_same rfl

theorem Connecting.stall {session : TcpSession} {t : NetStack} (connecting : Connecting s session t) (micros : Nat) :
    Connecting s session (t.stall micros) where
  waiting := connecting.waiting
  state := connecting.state
  sends := connecting.sends.trans (t.log_tcpQuiet rfl rfl).sends

/-- The session behind a `tcp_connect` is as it was opened, established or closed. -/
theorem tcpConnect_connecting {st : EfiStatus} (done : Api.tcpConnect ip port s = some (st, s')) :
    Connecting s (s.tcpOpen ip port).tcp s' := by
  obtain ⟨ended, loop, result⟩ := Option.bind_eq_some_iff.mp done
  obtain ⟨-, rfl⟩ := Prod.mk.inj (Option.some.inj result)
  refine requestLoop_keeps (P := Connecting s (s.tcpOpen ip port).tcp) ?_ ?_ ?_ (Connecting.opened ip port s) loop
  · intro t t' connecting open_ sent
    obtain ⟨asked, waiting⟩ := connecting.request (connecting.of_waiting open_) sent
    refine ⟨asked, ?_⟩
    simp [waiting]
  · intro t t' connecting open_ polled
    exact connecting.poll (connecting.of_waiting open_) polled
  · intro t connecting
    exact connecting.stall stall1ms

/-- Every SYN of one `tcp_connect` carries the port and the sequence number that it has drawn. -/
theorem tcpConnect_syns {st : EfiStatus} (done : Api.tcpConnect ip port s = some (st, s')) :
    Sends (SynOf (s.tcpOpen ip port).tcp) s s' :=
  (tcpConnect_connecting done).sends

end NetStack

/-- A step opens and closes no session, brings no FIN and no reset, and sends no FIN. -/
structure Undisturbed (s : NetStack) (action : Action) : Prop where
  noConnect : ∀ ip port, action ≠ .connect ip port
  noClose : action ≠ .move (.call .closeStart) ∧ action ≠ .move (.call .closeEnd)
  noEnd : action = .move .poll → ∀ input, s.incoming = some input → ¬input.has tcpFlagFin ∧ ¬input.has tcpFlagRst
  noFin : ∀ s', action.run s = some s' → Sends (fun frame => ¬FrameHas tcpFlagFin frame) s s'

/-- The latest `tcp_connect` of a history, with what follows it. -/
structure Opening (s : NetStack) (actions : List Action) (s' : NetStack) where
  before : List Action
  ip : UINT32
  port : UINT16
  waiting : List Action
  opener : NetStack
  parts : actions = before ++ .connect ip port :: waiting
  latest : ∀ ip port, .connect ip port ∉ waiting
  reached : Action.runAll before s = some opener
  continued : Action.runAll waiting (opener.tcpOpen ip port) = some s'

/-- A history in which the waiting connection reads a SYN+ACK without a reset on the local port behind its latest
`tcp_connect`, with nothing behind that SYN+ACK that disturbs the connection. -/
structure Handshaken (s : NetStack) (actions : List Action) (s' : NetStack) where
  waiting : List Action
  waiter : NetStack
  opening : Opening s waiting waiter
  input : TcpInput
  waits : waiter.tcp.state = .synSent
  takes : waiter.incoming = some input
  synAck : input.isSynAck
  noRst : ¬input.has tcpFlagRst
  established : NetStack
  polled : waiter.poll = some established
  after : List Action
  parts : actions = waiting ++ .move .poll :: after
  reached : Action.runAll after established = some s'
  undisturbed : Action.Throughout Undisturbed after established

/-- When a poll of a waiting connection reads a SYN+ACK without a reset, the frame that it gets holds it. -/
def SynAckHeld (s : NetStack) (action : Action) : Prop :=
  action = .move .poll → s.tcp.state = .synSent → ∀ input, s.incoming = some input → input.isSynAck →
    ¬input.has tcpFlagRst → s.ReceivesSegment input

/-- Frames that hold whatever segment is read in them make it so. -/
theorem throughout_synAckHeld {actions : List Action} {s : NetStack}
    (whole : ∀ frame, .frame frame ∈ s.snp.receive → ∀ port, ∃ reading, frame.Holds (segmentOn port) reading) :
    Action.Throughout SynAckHeld actions s := by
  induction actions generalizing s with
  | nil => trivial
  | cons action actions ih =>
      refine ⟨fun _ _ input takes _ _ => ?_, fun s' done => ih fun frame waits => ?_⟩
      · cases next : s.nextReceive with
        | frame frame =>
            obtain ⟨reading, holds⟩ := whole frame (nextReceive_mem next) s.tcp.localPort
            rw [incoming_frame next, holds.on] at takes
            exact ⟨frame, next, takes ▸ holds⟩
        | notReady =>
            rw [incoming, next] at takes
            cases takes
        | error =>
            rw [incoming, next] at takes
            cases takes
      · exact whole frame ((Action.run_receive done).subset waits)

/-- The handshake is behind the actions that wait for it. -/
theorem Handshaken.reaches {s s' : NetStack} {actions : List Action} (shake : Handshaken s actions s') :
    Action.runAll shake.waiting s = some shake.waiter := by
  rw [shake.opening.parts, Action.runAll_append, shake.opening.reached]
  exact shake.opening.continued

/-- Where every SYN+ACK that is read is held a handshake has received its own. -/
theorem Handshaken.receives {s s' : NetStack} {actions : List Action} (shake : Handshaken s actions s')
    (held : Action.Throughout SynAckHeld actions s) : shake.waiter.ReceivesSegment shake.input := by
  have parts := shake.parts
  rw [parts] at held
  exact held.middle shake.reaches rfl shake.waits shake.input shake.takes shake.synAck shake.noRst

namespace NetStack

variable {s s' : NetStack} {action : Action}

/-- `tcp_close` starts on an established connection and makes it wait for the peer's FIN. -/
theorem closeStart_state (done : Call.run .closeStart s = some s') :
    s.tcp.state = .established ∧ s'.tcp.state = .finWait := by
  obtain ⟨established, out, -, rfl⟩ := Call.closeStart_cases done
  exact ⟨established, rfl⟩

/-- A call that leaves an established connection found it established. -/
theorem call_undisturbed {call : Call} (done : call.run s = some s') (established : s'.tcp.state = .established) :
    s.tcp.state = .established ∧ Undisturbed s (.move (.call call)) := by
  have keeps := call_keeps call done
  have before : s.tcp.state = .established := by
    rcases keeps.state with same | ⟨before, -⟩ | closed
    · rw [← same, established]
    · exact before
    · rw [closed] at established; cases established
  have noStart : call ≠ .closeStart := by
    rintro rfl
    rw [(closeStart_state done).2] at established
    cases established
  have noEnd : call ≠ .closeEnd := by
    rintro rfl
    obtain rfl := Option.some.inj done
    cases established
  refine ⟨before, ⟨by simp, ⟨?_, ?_⟩, by simp, fun t ran => (call_sends call ran).mono fun frame segment => ?_⟩⟩
  · simpa using noStart
  · simpa using noEnd
  · cases call with
    | syn => rw [frameHas_iff segment.1]; decide
    | send data => rw [frameHas_iff segment.2.1]; decide
    | closeStart => exact absurd rfl noStart
    | _ => exact absurd segment id

/-- A poll that leaves an established connection found it established and brought nothing against it, or took
the SYN+ACK. -/
theorem poll_established (polled : s.poll = some s') (established : s'.tcp.state = .established) :
    s.tcp.state = .established ∧ Undisturbed s (.move .poll) ∨
      s.tcp.state = .synSent ∧ ∃ input, s.incoming = some input ∧ input.isSynAck ∧ ¬input.has tcpFlagRst := by
  rcases poll_answers polled with ⟨nothing, quiet⟩ | ⟨input, tcpAt, t, takes, tcp, reaction, sends⟩
  · refine Or.inl ⟨by rw [← quiet.tcp, established], ⟨by simp, by simp, fun _ input takes => ?_, fun t ran => ?_⟩⟩
    · rw [nothing] at takes
      cases takes
    · obtain rfl := Option.some.inj (polled.symm.trans ran)
      exact quiet.sends
  · have undisturbed (noFin : ¬input.has tcpFlagFin) (noRst : ¬input.has tcpFlagRst) : Undisturbed s (.move .poll) := by
      refine ⟨by simp, by simp, fun _ other takes' => ?_, fun t ran => ?_⟩
      · obtain rfl := Option.some.inj (takes.symm.trans takes')
        exact ⟨noFin, noRst⟩
      · obtain rfl := Option.some.inj (polled.symm.trans ran)
        exact sends.mono fun frame => answers_noFin noFin
    cases reaction with
    | reset rst aborted =>
      rw [aborted] at established
      cases established
    | establish noRst waiting synAck _ => exact Or.inr ⟨tcp ▸ waiting, input, takes, synAck, noRst⟩
    | take noRst listening carries taken =>
      rw [taken.state] at established
      split at established
      · cases established
      · rename_i noFin
        exact Or.inl ⟨tcp ▸ established, undisturbed noFin noRst⟩
    | ignore noRst notSynAck nothing unchanged =>
      rw [unchanged] at established
      have noFin : ¬input.has tcpFlagFin := fun fin => nothing ⟨Or.inl established, Or.inr fin⟩
      exact Or.inl ⟨tcp ▸ established, undisturbed noFin noRst⟩

/-- A move that leaves a connection waiting found it waiting. -/
theorem move_waiting {own : Move} (done : own.run s = some s') (waiting : s'.tcp.state = .synSent) :
    s.tcp.state = .synSent := by
  cases own with
  | call call =>
    rcases (call_keeps call done).state with same | ⟨-, after⟩ | closed
    · rw [← same, waiting]
    · rw [after] at waiting; cases waiting
    · rw [closed] at waiting; cases waiting
  | poll =>
    rcases poll_answers done with ⟨-, quiet⟩ | ⟨input, tcpAt, t, -, tcp, reaction, -⟩
    · rw [← quiet.tcp, waiting]
    · cases reaction with
      | reset rst aborted => rw [aborted] at waiting; cases waiting
      | establish noRst before synAck established => exact tcp ▸ before
      | take noRst listening carries taken =>
        rw [taken.state] at waiting
        split at waiting
        · cases waiting
        · exact tcp ▸ waiting
      | ignore noRst notSynAck nothing unchanged => rw [← tcp, ← unchanged, waiting]

end NetStack

/-- What the state of the session says of the history. -/
structure Lifecycle (s : NetStack) (actions : List Action) (s' : NetStack) : Prop where
  waiting : s'.tcp.state = .synSent → Nonempty (Opening s actions s')
  established : s'.tcp.state = .established → Nonempty (Handshaken s actions s')

theorem Lifecycle.start {s : NetStack} (closed : s.tcp.state = .closed) : Lifecycle s [] s where
  waiting waiting := by rw [closed] at waiting; cases waiting
  established established := by rw [closed] at established; cases established

/-- One action keeps the law. -/
theorem Lifecycle.step {s t s' : NetStack} {actions : List Action} {action : Action} (law : Lifecycle s actions t)
    (run : Action.runAll actions s = some t) (done : action.run t = some s') : Lifecycle s (actions ++ [action]) s' := by
  cases action with
  | connect ip port =>
    obtain rfl := Option.some.inj done
    exact
      { waiting := fun _ => ⟨{
          before := actions, ip, port, waiting := [], opener := t, parts := rfl
          latest := by simp
          reached := run
          continued := rfl }⟩
        established := fun established => by cases established }
  | move own =>
    constructor
    · intro waiting
      obtain ⟨opening⟩ := law.waiting (move_waiting done waiting)
      have parts := opening.parts
      exact ⟨{ opening with
        waiting := opening.waiting ++ [.move own]
        parts := (congrArg (· ++ [.move own]) parts).trans (by rw [List.append_assoc, List.cons_append])
        latest := by
          intro ip port member
          rcases List.mem_append.mp member with member | member
          · exact opening.latest ip port member
          · simp at member
        continued := by
          rw [Action.runAll_append, opening.continued]
          exact (Action.runAll_singleton _ t).trans done }⟩
    · intro established
      have prolongs (before : t.tcp.state = .established) (undisturbed : Undisturbed t (.move own)) :
          Nonempty (Handshaken s (actions ++ [.move own]) s') := by
        obtain ⟨shake⟩ := law.established before
        have parts := shake.parts
        exact ⟨{ shake with
          after := shake.after ++ [.move own]
          parts := (congrArg (· ++ [.move own]) parts).trans (by rw [List.append_assoc, List.cons_append])
          reached := by
            rw [Action.runAll_append, shake.reached]
            exact (Action.runAll_singleton _ t).trans done
          undisturbed := shake.undisturbed.snoc shake.reached undisturbed }⟩
      cases own with
      | call call =>
        obtain ⟨before, undisturbed⟩ := call_undisturbed done established
        exact prolongs before undisturbed
      | poll =>
        rcases poll_established done established with ⟨before, undisturbed⟩ | ⟨waiting, input, takes, synAck, noRst⟩
        · exact prolongs before undisturbed
        · obtain ⟨opening⟩ := law.waiting waiting
          exact ⟨{
            waiting := actions, waiter := t, opening, input, waits := waiting, takes, synAck, noRst, established := s'
            polled := done
            after := [], parts := rfl, reached := rfl, undisturbed := trivial }⟩

/-- Every run of actions from a closed session keeps the law. -/
theorem Lifecycle.run {s s' : NetStack} (closed : s.tcp.state = .closed) (actions : List Action)
    (done : Action.runAll actions s = some s') : Lifecycle s actions s' := by
  induction actions using List.reverseRecOn generalizing s' with
  | nil =>
      obtain rfl := Option.some.inj done
      exact Lifecycle.start closed
  | append_singleton actions action ih =>
      rw [Action.runAll_append] at done
      obtain ⟨middle, first, last⟩ := Option.bind_eq_some_iff.mp done
      exact (ih first).step first ((Action.runAll_singleton action middle).symm.trans last)

namespace NetStack

variable {s s' s'' : NetStack}

/-- The session is closed and has no port. -/
def TcpClosed (s : NetStack) : Prop := s.tcp.state = .closed ∧ s.tcp.localPort = 0#16

/-- A step that leaves the session closed, copies no payload and sends no segment. -/
structure StaysClosed (s s' : NetStack) : Prop where
  closed : s'.TcpClosed
  tcpDelivered : s'.tcpDelivered = s.tcpDelivered
  sends : Sends (fun _ => False) s s'

theorem StaysClosed.trans (first : StaysClosed s s') (second : StaysClosed s' s'') : StaysClosed s s'' where
  closed := second.closed
  tcpDelivered := second.tcpDelivered.trans first.tcpDelivered
  sends := first.sends.trans second.sends

theorem StaysClosed.of_quiet (closed : s.TcpClosed) (quiet : TcpQuiet s s') : StaysClosed s s' where
  closed := by rw [TcpClosed, quiet.tcp]; exact closed
  tcpDelivered := quiet.tcpDelivered
  sends := quiet.sends

/-- Nothing arrives at a session without a port. -/
theorem incoming_none (closed : s.TcpClosed) : s.incoming = none := by
  have unbound : s.arrivalOn s.nextReceive = none := by
    cases s.nextReceive with
    | frame frame => exact if_neg fun here => here.2.2.2 closed.2
    | notReady => rfl
    | error => rfl
  rw [incoming, unbound]
  rfl

theorem poll_staysClosed (closed : s.TcpClosed) (polled : s.poll = some s') : StaysClosed s s' := by
  rcases poll_answers polled with ⟨-, quiet⟩ | ⟨input, tcpAt, t, takes, -⟩
  · exact StaysClosed.of_quiet closed quiet
  · rw [incoming_none closed] at takes
    cases takes

/-- A call keeps the local port or gives it up with the session. -/
theorem call_localPort {call : Call} (done : call.run s = some s') :
    s'.tcp.localPort = s.tcp.localPort ∨ s'.TcpClosed := by
  cases call with
  | syn => exact Or.inl (by rw [(sendTcpControl_sends done).1])
  | send data =>
    rcases Call.send_cases done with ⟨-, rfl⟩ | ⟨-, out, first, rfl⟩
    · exact Or.inl rfl
    · have port : out.tcp.localPort = s.tcp.localPort := by rw [(sendTcpInternal_sends first).1]
      exact Or.inl port
  | closeStart =>
    obtain ⟨-, out, first, rfl⟩ := Call.closeStart_cases done
    have port : out.tcp.localPort = s.tcp.localPort := by rw [(sendTcpControl_sends first).1]
    exact Or.inl port
  | closeEnd =>
    obtain rfl := Option.some.inj done
    exact Or.inr ⟨rfl, rfl⟩
  | udpSend destIp destPort data =>
    exact Or.inl (by rw [(sendUdp_keeps (Call.udpSend_cases done)).1, (udpBind_keeps s).1])
  | query hostname => exact Or.inl (by rw [(dnsQuery_keeps done).1])
  | stall micros | receiveStart buffer maxLen | receiveEnd | udpReceiveStart buffer maxLen | udpReceiveEnd
  | ping targetIp | resolve =>
    obtain rfl := Option.some.inj done
    exact Or.inl rfl

/-- Only `tcp_connect` asks for a SYN, and on a closed session the other calls send no segment. -/
theorem call_staysClosed {call : Call} (noSyn : call ≠ .syn) (closed : s.TcpClosed) (done : call.run s = some s') :
    StaysClosed s s' := by
  have keeps := call_keeps call done
  have sends : Sends (fun _ => False) s s' := by
    refine (call_sends call done).mono fun frame segment => ?_
    cases call with
    | syn => exact noSyn rfl
    | send data =>
      have established := segment.1
      rw [closed.1] at established
      cases established
    | closeStart =>
      have established := (closeStart_state done).1
      rw [closed.1] at established
      cases established
    | _ => exact segment
  refine ⟨⟨?_, ?_⟩, keeps.tcpDelivered, sends⟩
  · rcases keeps.state with same | ⟨before, -⟩ | after
    · rw [same, closed.1]
    · rw [closed.1] at before; cases before
    · exact after
  · rcases call_localPort done with same | gone
    · rw [same, closed.2]
    · exact gone.2

end NetStack

/-- An action that only moves and asks for no SYN. -/
def Action.Connectionless (action : Action) : Prop := ∃ own, action = .move own ∧ own ≠ .call .syn

theorem Action.Connectionless.staysClosed {s s' : NetStack} {action : Action} (other : action.Connectionless)
    (closed : s.TcpClosed) (done : action.run s = some s') : StaysClosed s s' := by
  obtain ⟨own, rfl, noSyn⟩ := other
  cases own with
  | poll => exact poll_staysClosed closed done
  | call call => exact call_staysClosed (fun equal => noSyn (congrArg Move.call equal)) closed done

/-- A run of such actions leaves the session closed and silent. -/
theorem runAll_staysClosed {s s' : NetStack} {actions : List Action} (others : ∀ action ∈ actions, action.Connectionless)
    (closed : s.TcpClosed) (done : Action.runAll actions s = some s') : StaysClosed s s' := by
  induction actions generalizing s with
  | nil =>
      obtain rfl := Option.some.inj done
      exact ⟨closed, rfl, Sends.of_same rfl⟩
  | cons action actions ih =>
      obtain ⟨middle, first, rest⟩ := Option.bind_eq_some_iff.mp done
      have step := (others action List.mem_cons_self).staysClosed closed first
      exact step.trans (ih (fun other member => others other (List.mem_cons_of_mem _ member)) step.closed rest)

theorem waitActions_connectionless {done : NetStack → Bool} {micros : Nat} (loops : Nat) (s : NetStack) :
    ∀ action ∈ waitActions done micros loops s, action.Connectionless := by
  induction loops generalizing s with
  | zero => intro action member; cases member
  | succ loops ih =>
      rw [waitActions]
      split
      · intro action member
        cases member
      · intro action member
        rcases List.mem_cons.mp member with rfl | member
        · exact ⟨_, rfl, by simp⟩
        · rcases List.mem_cons.mp member with rfl | member
          · exact ⟨_, rfl, by simp⟩
          · split at member
            · cases member
            · exact ih _ action member

theorem requestActions_connectionless {done : NetStack → Bool} {request : Call} (noSyn : request ≠ .syn)
    (loops timeout : Nat) (s : NetStack) :
    ∀ action ∈ requestActions done request loops timeout s, action.Connectionless := by
  induction loops generalizing s timeout with
  | zero => intro action member; cases member
  | succ loops ih =>
      rw [requestActions]
      split
      · intro action member
        cases member
      · intro action member
        rcases List.mem_append.mp member with member | member
        · split at member
          · obtain rfl := List.mem_singleton.mp member
            exact ⟨_, rfl, by simpa using noSyn⟩
          · cases member
        · rcases List.mem_cons.mp member with rfl | member
          · exact ⟨_, rfl, by simp⟩
          · rcases List.mem_cons.mp member with rfl | member
            · exact ⟨_, rfl, by simp⟩
            · split at member
              · cases member
              · exact ih _ _ action member

theorem drainActions_connectionless (s : NetStack) : ∀ action ∈ ApiCall.drainActions s, action.Connectionless := by
  unfold ApiCall.drainActions
  split
  · intro action member
    rcases List.mem_cons.mp member with rfl | member
    · exact ⟨_, rfl, by simp⟩
    · split at member
      · cases member
      · exact waitActions_connectionless _ _ action member
  · intro action member
    cases member

/-- Every call but `tcp_connect` leaves a closed session closed. -/
theorem ApiCall.actions_connectionless {call : ApiCall} (other : ∀ ip port, call ≠ .tcpConnect ip port) (s : NetStack) :
    ∀ action ∈ call.actions s, action.Connectionless := by
  have first {own : Move} {rest : List Action} (noSyn : own ≠ .call .syn)
      (others : ∀ action ∈ rest, action.Connectionless) : ∀ action ∈ Action.move own :: rest, action.Connectionless := by
    intro action member
    rcases List.mem_cons.mp member with rfl | member
    · exact ⟨own, rfl, noSyn⟩
    · exact others action member
  have last {own : Move} {front : List Action} (noSyn : own ≠ .call .syn)
      (others : ∀ action ∈ front, action.Connectionless) : ∀ action ∈ front ++ [Action.move own], action.Connectionless := by
    intro action member
    rcases List.mem_append.mp member with member | member
    · exact others action member
    · exact ⟨own, List.mem_singleton.mp member, noSyn⟩
  cases call with
  | tcpConnect ip port => exact absurd rfl (other ip port)
  | tcpSend data => exact first (by simp) (by simp)
  | tcpReceive buffer maxLen timeoutMs => exact first (by simp) (last (by simp) (waitActions_connectionless _ _))
  | tcpClose => exact last (by simp) (drainActions_connectionless s)
  | udpSend destIp destPort data => exact first (by simp) (by simp)
  | udpReceive buffer maxLen timeoutMs => exact first (by simp) (last (by simp) (waitActions_connectionless _ _))
  | ping targetIp timeoutMs => exact first (by simp) (waitActions_connectionless _ _)
  | resolveHostname hostname outIp => exact first (by simp) (requestActions_connectionless (by simp) _ _ _)

theorem ApiCall.history_connectionless {calls : List ApiCall}
    (others : ∀ call ∈ calls, ∀ ip port, call ≠ .tcpConnect ip port) (s : NetStack) :
    ∀ action ∈ ApiCall.history calls s, action.Connectionless := by
  induction calls generalizing s with
  | nil => intro action member; cases member
  | cons call calls ih =>
      intro action member
      rcases List.mem_append.mp member with member | member
      · exact actions_connectionless (others call List.mem_cons_self) s action member
      · split at member
        · cases member
        · exact ih (fun other member => others other (List.mem_cons_of_mem _ member)) _ action member

theorem tcpClose_closes {s s' : NetStack} {st : EfiStatus} (done : Api.tcpClose s = some (st, s')) : s'.TcpClosed := by
  obtain ⟨drained, -, result⟩ := Option.bind_eq_some_iff.mp done
  obtain ⟨-, rfl⟩ := Prod.mk.inj (Option.some.inj result)
  exact ⟨rfl, rfl⟩

/-- In every run of calls on a stack without a session: the SYNs of one `tcp_connect` carry one port and one
sequence number; and behind `tcp_close` the session stays closed, copies nothing and sends no segment at any point
before the next `tcp_connect`. Where the run has received every SYN+ACK that it has read, a segment that `tcp_send`
sends has a received SYN+ACK behind it, and nothing has disturbed the connection since. -/
theorem tcp_lifecycle {s s' : NetStack} {calls : List ApiCall} (closed : s.tcp.state = .closed)
    (run : ApiCall.runAll calls s = some s') :
    (∀ ip port st after, Api.tcpConnect ip port s' = some (st, after) →
      Sends (SynOf (s'.tcpOpen ip port).tcp) s' after) ∧
    (Action.Throughout SynAckHeld (ApiCall.history calls s) s → ∀ data st after,
      Api.tcpSend data s' = some (st, after) → after.sent ≠ s'.sent →
        ∃ shake : Handshaken s (ApiCall.history calls s) s', shake.waiter.ReceivesSegment shake.input) ∧
    (∀ st after, Api.tcpClose s' = some (st, after) →
      ∀ later : List ApiCall, (∀ call ∈ later, ∀ ip port, call ≠ .tcpConnect ip port) →
        ∀ actions, actions <+: ApiCall.history later after → ∀ t, Action.runAll actions after = some t →
          StaysClosed after t) := by
  refine ⟨fun ip port st after done => tcpConnect_syns done, ?_, ?_⟩
  · intro held data st after done sent
    have law := Lifecycle.run closed _ ((ApiCall.history_run calls s).trans run)
    have established : s'.tcp.state = .established := by
      by_contra waiting
      rw [Api.tcpSend, if_pos waiting] at done
      obtain ⟨-, rfl⟩ := Prod.mk.inj (Option.some.inj done)
      exact sent rfl
    obtain ⟨shake⟩ := law.established established
    exact ⟨shake, shake.receives held⟩
  · intro st after done later others actions part t ran
    refine runAll_staysClosed (fun action member => ?_) (tcpClose_closes done) ran
    exact ApiCall.history_connectionless others after action (part.subset member)

namespace Scenario

/-- A configured stack that will receive the SYN+ACK of the peer. -/
def beforeConnect : NetStack :=
  match Api.initNetworkStatic boot localIp gatewayIp 0x00FFFFFF#32 0#32
    (.initial .zeros { receive := [.frame gatewayReply, .frame synAckFrame] }) with
  | some (_, s) => s
  | none => .initial .zeros {}

theorem beforeConnect_closed : beforeConnect.tcp.state = .closed := by decide +kernel

/-- What `tcp_connect` returns, and the stack behind it. -/
def connection : EfiStatus × NetStack := (Api.tcpConnect remoteIp 80 beforeConnect).get (by decide +kernel)

theorem connection_eq : Api.tcpConnect remoteIp 80 beforeConnect = some connection := (Option.some_get _).symm

theorem connection_runs : ApiCall.runAll [.tcpConnect remoteIp 80] beforeConnect = some connection.2 := by
  rw [ApiCall.runAll_singleton, ApiCall.run, connection_eq]
  rfl

/-- What `tcp_send` returns for three bytes, and the stack behind it. -/
def transmission : EfiStatus × NetStack := (Api.tcpSend [1, 2, 3] connection.2).get (by decide +kernel)

theorem transmission_eq : Api.tcpSend [1, 2, 3] connection.2 = some transmission := (Option.some_get _).symm

theorem transmission_sent : transmission.2.sent ≠ connection.2.sent := by decide +kernel

/-- A datagram behind a `tcp_close`. -/
def lateDatagram : List ApiCall := [.udpSend remoteIp 53 [1]]

theorem lateDatagram_runs :
    (Action.runAll (ApiCall.history lateDatagram beforeConnect.tcpCloseEnd) beforeConnect.tcpCloseEnd).isSome := by
  decide +kernel

def afterLateDatagram : NetStack :=
  (Action.runAll (ApiCall.history lateDatagram beforeConnect.tcpCloseEnd) beforeConnect.tcpCloseEnd).get lateDatagram_runs

/-- The frame of the peer holds its SYN+ACK. -/
theorem synAckFrame_holds (port : UINT16) : synAckFrame.Holds (segmentOn port) (segmentOn port synAckFrame.alone.byte) :=
  segmentOn_holds port (by decide +kernel) (by decide)

theorem connection_held :
    Action.Throughout SynAckHeld (ApiCall.history [.tcpConnect remoteIp 80] beforeConnect) beforeConnect := by
  have waits : beforeConnect.snp.receive = [.frame synAckFrame] := by decide +kernel
  refine throughout_synAckHeld fun frame member port => ?_
  rw [waits, List.mem_singleton] at member
  obtain rfl := Receive.frame.inj member
  exact ⟨_, synAckFrame_holds port⟩

end Scenario

open Scenario in
/-- A handshake, three bytes behind it, and a datagram behind a `tcp_close`. -/
theorem tcp_lifecycle_scenario : Sends (SynOf (beforeConnect.tcpOpen remoteIp 80).tcp) beforeConnect connection.2 ∧
    (∃ shake : Handshaken beforeConnect (ApiCall.history [.tcpConnect remoteIp 80] beforeConnect) connection.2,
      shake.waiter.ReceivesSegment shake.input) ∧
    StaysClosed beforeConnect.tcpCloseEnd afterLateDatagram :=
  ⟨(tcp_lifecycle beforeConnect_closed (show ApiCall.runAll [] beforeConnect = some beforeConnect from rfl)).1 remoteIp 80
      connection.1 connection.2 connection_eq,
    (tcp_lifecycle beforeConnect_closed connection_runs).2.1 connection_held [1, 2, 3] transmission.1 transmission.2
      transmission_eq transmission_sent,
    (tcp_lifecycle beforeConnect_closed (show ApiCall.runAll [] beforeConnect = some beforeConnect from rfl)).2.2 .success
      beforeConnect.tcpCloseEnd (by rw [Api.tcpClose, tcpDrain, if_neg (by rw [beforeConnect_closed]; decide)]; rfl)
      lateDatagram (by simp [lateDatagram]) _ (List.prefix_refl _) afterLateDatagram
      (Option.some_get lateDatagram_runs).symm⟩

namespace Scenario

/-- The SYN+ACK under another Ethernet type, and the Ethernet and IP headers of a TCP frame. -/
def disguisedSynAck : RxFrame where
  bytes := EthHdr.bytes { dst := localMac, src := gatewayMac } ++ synAckFrame.bytes.drop 14
  fits := by decide
def headersOnly : RxFrame where
  bytes := synAckFrame.bytes.take 34
  fits := by decide

/-- A configured stack that will receive these two. -/
def beforeTrick : NetStack :=
  { beforeConnect with snp := { receive := [.frame disguisedSynAck, .frame headersOnly] } }

def tricked : EfiStatus × NetStack := (Api.tcpConnect remoteIp 80 beforeTrick).get (by decide +kernel)

theorem tricked_eq : Api.tcpConnect remoteIp 80 beforeTrick = some tricked := (Option.some_get _).symm

theorem tricked_runs : ApiCall.runAll [.tcpConnect remoteIp 80] beforeTrick = some tricked.2 := by
  rw [ApiCall.runAll_singleton, ApiCall.run, tricked_eq]
  rfl

def trickedSend : EfiStatus × NetStack := (Api.tcpSend [1, 2, 3] tricked.2).get (by decide +kernel)

theorem trickedSend_eq : Api.tcpSend [1, 2, 3] tricked.2 = some trickedSend := (Option.some_get _).symm

theorem trickedSend_sent : trickedSend.2.sent ≠ tricked.2.sent := by decide +kernel

/-- Neither frame holds a segment. -/
theorem beforeTrick_silent {frame : RxFrame} (waits : .frame frame ∈ beforeTrick.snp.receive) (port : UINT16) :
    segmentOn port (Memory.write (fun _ => 0#8) 0 frame.bytes) = none := by
  have either : Receive.frame frame ∈ [Receive.frame disguisedSynAck, .frame headersOnly] := waits
  simp only [List.mem_cons, List.not_mem_nil, or_false, Receive.frame.injEq] at either
  unfold segmentOn
  dsimp only
  rcases either with rfl | rfl
  · have type : (EthHdr.read (Memory.write (fun _ => 0#8) 0 disguisedSynAck.bytes) 0).type ≠ htons ethertypeIpv4 := by
      decide +kernel
    exact if_neg fun here => type here.1
  · have dest : ntohs (TcpHdr.read (Memory.write (fun _ => 0#8) 0 headersOnly.bytes) (sizeofEthHdr +
        (ipHlen (IpHdr.read (Memory.write (fun _ => 0#8) 0 headersOnly.bytes) sizeofEthHdr)).toNat)).dest = 0#16 := by
      decide +kernel
    exact if_neg fun here => here.2.2.2 (here.2.2.1.symm.trans dest)

end Scenario

open Scenario in
/-- A segment leaves behind a handshake whose SYN+ACK no frame has brought. -/
theorem stale_synAck_establishes : ¬∀ (s s' after : NetStack) (calls : List ApiCall) (data : Bytes) (st : EfiStatus),
    s.tcp.state = .closed → ApiCall.runAll calls s = some s' → Api.tcpSend data s' = some (st, after) →
      after.sent ≠ s'.sent →
        ∃ shake : Handshaken s (ApiCall.history calls s) s', shake.waiter.ReceivesSegment shake.input := by
  intro received
  obtain ⟨shake, frame, next, holds⟩ := received beforeTrick tricked.2 trickedSend.2 [.tcpConnect remoteIp 80] [1, 2, 3]
    trickedSend.1 beforeConnect_closed tricked_runs trickedSend_eq trickedSend_sent
  have waits := (Action.runAll_receive shake.reaches).subset (nextReceive_mem next)
  exact Option.some_ne_none _ ((holds fun _ => 0#8).symm.trans (beforeTrick_silent waits _))

end UefiNetstack
