import UefiNetstack.Exchange.Chunks
import UefiNetstack.Api.Tcp

namespace UefiNetstack
open Words Memory Constants

namespace NetStack

variable {s s' waiting : NetStack} {frame : RxFrame} {buffer : Memory} {maxLen : UINTN} {timeoutMs : UINT32}

/-- What else an instance does keeps the session. -/
structure SameSession (s s' : NetStack) : Prop where
  localPort : s'.tcp.localPort = s.tcp.localPort
  remotePort : s'.tcp.remotePort = s.tcp.remotePort
  state : s'.tcp.state = s.tcp.state
  seq : s'.tcp.seq = s.tcp.seq
  ack : s'.tcp.ack = s.tcp.ack

theorem SameSession.of_tcp (same : s'.tcp = s.tcp) : SameSession s s' := by
  constructor
  all_goals rw [same]

/-- A `tcp_receive` call has polled some answers that did not touch the session, and gets a frame next. -/
structure Awaits (s : NetStack) (buffer : Memory) (maxLen : UINTN) (timeoutMs : UINT32) (frame : RxFrame)
    (waiting : NetStack) : Prop where
  polled : ∃ rounds < maxLoops timeoutMs,
    waitLoop tcpReceiveDone stall100us rounds (s.tcpReceiveStart buffer maxLen) = some waiting
  tcp : waiting.tcp = (s.tcpReceiveStart buffer maxLen).tcp
  next : waiting.nextReceive = .frame frame

/-- A chunk leaves an established sender in one frame, and its number moves behind the chunk. -/
theorem tcpSend_emits (established : s.tcp.state = .established) {chunk : Bytes} (fits : chunk.length ≤ 1446) :
    ∃ (s' p : NetStack) (frame : RxFrame) (random : UINT32), Api.tcpSend chunk s = some (.success, s') ∧
      s'.sent = s.sent ++ [frame.bytes] ∧ p.tcp.remotePort = s.tcp.remotePort ∧
      frame.bytes = p.tcpFrame tcpFlagPshAck s.tcp.seq s.tcp.ack chunk random ∧
      s'.tcp = { s.tcp with seq := s.tcp.seq + BitVec.ofNat 32 chunk.length } := by
  obtain ⟨frame, sent, bytes⟩ := s.sendTcpInternal_eq tcpFlagPshAck s.tcp.seq s.tcp.ack chunk fits
  let after := s.getU32.2.sendFrame frame
  refine ⟨{ after with tcp := { after.tcp with seq := after.tcp.seq + BitVec.ofNat 32 chunk.length } }, s.getU32.2,
    frame.delivered, s.getU32.1, ?_, ?_, rfl, bytes, rfl⟩
  · rw [Api.tcpSend, if_neg (not_not_intro established), sent]
    rfl
  · exact sendFrame_sent frame s.getU32.2

/-- A waiting receive with room for a chunk returns it and answers with one acknowledgement. -/
theorem tcpReceive_takes {p : NetStack} {seq ack random : UINT32} {chunk : Bytes}
    (established : s.tcp.state = .established) (bound : s.tcp.localPort ≠ 0#16) (nonempty : 0 < chunk.length)
    (fits : chunk.length ≤ 1446) (room : chunk.length ≤ maxLen.toNat) (port : p.tcp.remotePort = s.tcp.localPort)
    (bytes : frame.bytes = p.tcpFrame tcpFlagPshAck seq ack chunk random)
    (awaits : Awaits s buffer maxLen timeoutMs frame waiting) :
    ∃ (received : Received) (answer : Bytes), Api.tcpReceive buffer maxLen timeoutMs s = some received ∧
      received.status = .success ∧ received.buffer.slice 0 received.actualLen.toNat = chunk ∧
      received.stack.sent = waiting.sent ++ [answer] ∧
      IsAckTo s.tcp.remotePort (seq + BitVec.ofNat 32 chunk.length) answer ∧
      received.stack.tcp = { s.tcp with
        seq := ack
        ack := seq + BitVec.ofNat 32 chunk.length
        rxBuffer := none
        rxMaxLen := maxLen
        rxCurrentLen := BitVec.ofNat 64 chunk.length
        rxDone := true } := by
  obtain ⟨f, content, data, dest, flags, rxSeq, rxAck⟩ := p.tcpFrame_segment tcpFlagPshAck seq ack chunk random fits
  have same : frame.bytes = f.bytes := bytes.trans content.symm
  have payloadLen : f.input.payloadLen.toNat = chunk.length := by rw [f.input_payloadLen, data]
  have payloadEnd : f.input.payloadEnd = seq + BitVec.ofNat 32 chunk.length := by
    rw [TcpInput.payloadEnd, rxSeq, ← payloadLen, BitVec.ofNat_toNat]
  -- the segment on the page
  let landed := waiting.received.landed frame
  obtain ⟨-, -, -, stored⟩ := SegmentFrame.stored_parts (SegmentFrame.landed_stored same (s := waiting.received))
  rw [data] at stored
  have page := landed.rxPkt.page
  have size : f.bytes.length ≤ pktBufSize := same ▸ frame.fits
  have inside : f.tcpAt + f.input.tcpHlen.toNat + chunk.length ≤ landed.rxPkt.limit := by
    rw [f.input_tcpHlen, ← data]
    simp only [SegmentFrame.bytes, List.length_append, EthHdr.bytes_length, IpHdr.bytes_length,
      TcpHdr.bytes_length] at size
    simp only [SegmentFrame.tcpAt, sizeofEthHdr, sizeofIpHdr, sizeofTcpHdr]
    omega
  -- the poll that gets it
  have tcp : landed.tcp = (s.tcpReceiveStart buffer maxLen).tcp := awaits.tcp
  have noRst : f.input.has tcpFlagRst = false := by
    rw [TcpInput.has, flags]
    decide
  have noFin : f.input.has tcpFlagFin = false := by
    rw [TcpInput.has, flags]
    decide
  obtain ⟨after, answer, taken, emitted, filled, isAck⟩ := @onSegment_takes landed f.input f.tcpAt chunk buffer
    (tcp ▸ established) noRst noFin (tcp ▸ rfl) (tcp ▸ rfl) payloadLen nonempty (tcp ▸ room) stored inside
  have polled : waiting.poll = some after := by
    have here : waiting.tcp.localPort = s.tcp.localPort := by
      rw [awaits.tcp]
      rfl
    rw [poll_segment same (dest.trans (port.trans here.symm)) (here ▸ bound) awaits.next]
    exact taken
  have open_ : waiting.tcpReceiveDone = false := by
    rw [tcpReceiveDone, awaits.tcp]
    change (false || decide (s.tcp.state = .closed) || decide (s.tcp.state = .closedDone)) = false
    rw [established]
    rfl
  have done : (after.stall stall100us).tcpReceiveDone = true := by
    rw [tcpReceiveDone, show (after.stall stall100us).tcp = after.tcp from rfl, filled]
    rfl
  obtain ⟨rounds, early, wait⟩ := awaits.polled
  have loop := waitLoop_completes early wait open_ polled done
  have len : (BitVec.ofNat 64 chunk.length).toNat = chunk.length := by
    rw [BitVec.toNat_ofNat]
    omega
  have session : after.tcp = tcpFilled (s.tcpReceiveStart buffer maxLen).tcp f.input buffer chunk := tcp ▸ filled
  rw [Api.tcpReceive, loop]
  refine ⟨_, answer.bytes, rfl, if_pos ?_, ?_, ?_, ?_, ?_⟩
  · exact congrArg TcpSession.rxDone session
  · change (after.tcp.rxBuffer.getD buffer).slice 0 after.tcp.rxCurrentLen.toNat = chunk
    rw [session]
    change (buffer.write 0 chunk).slice 0 (BitVec.ofNat 64 chunk.length).toNat = chunk
    rw [len]
    exact bytesAt_iff_slice.mp (write_bytesAt buffer 0 chunk)
  · change (after.stall stall100us).tcpReceiveEnd.sent = _
    rw [← received_landed_sent waiting frame, ← emitted]
    simp [sent, tcpReceiveEnd, stall, log, Event.frame?]
  · rw [tcp, payloadEnd] at isAck
    exact isAck
  · change { after.tcp with rxBuffer := none } = _
    rw [session, tcpFilled, payloadEnd, rxAck]
    rfl

end NetStack

open NetStack

/-- A chunk on its way: the frame that carries it and the sender's number behind it. -/
structure InFlight where
  chunk : Bytes
  frame : RxFrame
  stop : UINT32

/-- A sender, a receiver and the segments between them. The lists record the chunks with the sender's numbers
behind them, what the receives returned and which frames each delivery was answered with. -/
structure Link where
  sender : NetStack
  receiver : NetStack
  segments : List InFlight := []
  chunks : List Bytes := []
  stops : List UINT32 := []
  buffers : List Bytes := []
  answers : List (List Bytes) := []

namespace Link

/-- The sender sends a chunk, the receiver gets the oldest segment in a receive with room for it, or the sender
polls one of the answers. In between both may do anything that keeps their sessions. -/
inductive Step : Link → Link → Prop
  | sender {link : Link} {s : NetStack} (same : SameSession link.sender s) : Step link { link with sender := s }
  | receiver {link : Link} {s : NetStack} (same : SameSession link.receiver s) :
      Step link { link with receiver := s }
  | send {link : Link} {chunk : Bytes} {st : EfiStatus} {s : NetStack} {frame : RxFrame} (nonempty : 0 < chunk.length)
      (fits : chunk.length ≤ 1446) (sent : Api.tcpSend chunk link.sender = some (st, s))
      (emitted : s.sent = link.sender.sent ++ [frame.bytes]) :
      Step link { link with
        sender := s
        segments := link.segments ++ [{ chunk, frame, stop := s.tcp.seq }]
        chunks := link.chunks ++ [chunk]
        stops := link.stops ++ [s.tcp.seq] }
  | receive {link : Link} {segment : InFlight} {rest : List InFlight} {buffer : Memory} {maxLen : UINTN}
      {timeoutMs : UINT32} {waiting : NetStack} {received : Received} {answer : List Bytes}
      (oldest : link.segments = segment :: rest) (room : segment.chunk.length ≤ maxLen.toNat)
      (awaits : Awaits link.receiver buffer maxLen timeoutMs segment.frame waiting)
      (done : Api.tcpReceive buffer maxLen timeoutMs link.receiver = some received)
      (answered : received.stack.sent = waiting.sent ++ answer) :
      Step link { link with
        receiver := received.stack
        segments := rest
        buffers := link.buffers ++ [received.buffer.slice 0 received.actualLen.toNat]
        answers := link.answers ++ [answer] }
  | acknowledge {link : Link} {answer : List Bytes} {frame : RxFrame} {s : NetStack}
      (known : answer ∈ link.answers) (part : frame.bytes ∈ answer)
      (delivered : link.sender.nextReceive = .frame frame) (polled : link.sender.poll = some s) :
      Step link { link with sender := s }

/-- The segments in flight carry one chunk behind the other for a port. -/
def Chain (port : UINT16) : UINT32 → List InFlight → UINT32 → Prop
  | start, [], stop => start = stop
  | start, segment :: rest, stop =>
    (∃ (p : NetStack) (ack random : UINT32), p.tcp.remotePort = port ∧ 0 < segment.chunk.length ∧
      segment.chunk.length ≤ 1446 ∧
      segment.frame.bytes = p.tcpFrame tcpFlagPshAck start ack segment.chunk random ∧
      segment.stop = start + BitVec.ofNat 32 segment.chunk.length) ∧ Chain port segment.stop rest stop

theorem Chain.append {port : UINT16} {start middle stop : UINT32} {first second : List InFlight}
    (chain : Chain port start first middle) (next : Chain port middle second stop) :
    Chain port start (first ++ second) stop := by
  induction first generalizing start with
  | nil =>
      obtain rfl : start = middle := chain
      exact next
  | cons segment rest ih => exact ⟨chain.1, ih chain.2⟩

/-- A delivery is answered with one acknowledgement of the number behind its chunk. -/
def Answered (port : UINT16) (stop : UINT32) (answer : List Bytes) : Prop :=
  ∃ bytes, answer = [bytes] ∧ IsAckTo port stop bytes

/-- The sessions of both ends agree up to the segments in flight. -/
structure Synced (link : Link) : Prop where
  sender : link.sender.tcp.state = .established
  receiver : link.receiver.tcp.state = .established
  forth : link.sender.tcp.remotePort = link.receiver.tcp.localPort
  back : link.receiver.tcp.remotePort = link.sender.tcp.localPort
  senderBound : link.sender.tcp.localPort ≠ 0#16
  receiverBound : link.receiver.tcp.localPort ≠ 0#16
  chain : Chain link.receiver.tcp.localPort link.receiver.tcp.ack link.segments link.sender.tcp.seq
  chunks : link.chunks = link.buffers ++ link.segments.map (·.chunk)
  answers : ∃ taken, link.stops = taken ++ link.segments.map (·.stop) ∧
    List.Forall₂ (Answered link.sender.tcp.localPort) taken link.answers

variable {link link' : Link}

/-- The link of two instances between which nothing was sent. -/
def connect (a b : NetStack) : Link := { sender := a, receiver := b }

/-- Every answer in a list of answered deliveries acknowledges something. -/
theorem answered_mem {port : UINT16} {taken : List UINT32} {answers : List (List Bytes)} {answer : List Bytes}
    {bytes : Bytes} (answered : List.Forall₂ (Answered port) taken answers) (known : answer ∈ answers)
    (part : bytes ∈ answer) : ∃ number, IsAckTo port number bytes := by
  induction answered with
  | nil => cases known
  | cons first _ ih =>
      rcases List.mem_cons.mp known with rfl | later
      · obtain ⟨only, rfl, isAck⟩ := first
        obtain rfl := List.mem_singleton.mp part
        exact ⟨_, isAck⟩
      · exact ih later

/-- Polling an answer leaves the sender's session as it was. -/
theorem Synced.polls_answer (synced : link.Synced) {answer : List Bytes} {frame : RxFrame}
    (known : answer ∈ link.answers) (part : frame.bytes ∈ answer)
    (delivered : link.sender.nextReceive = .frame frame) :
    ∃ s, link.sender.poll = some s ∧ s.tcp = link.sender.tcp := by
  obtain ⟨taken, -, answered⟩ := synced.answers
  obtain ⟨number, isAck⟩ := answered_mem answered known part
  exact poll_ack synced.senderBound isAck delivered

/-- The oldest segment is returned by a receive with room for it and answered with its acknowledgement. -/
theorem Synced.receives (synced : link.Synced) {segment : InFlight} {rest : List InFlight} {buffer : Memory}
    {maxLen : UINTN} {timeoutMs : UINT32} {waiting : NetStack} (oldest : link.segments = segment :: rest)
    (room : segment.chunk.length ≤ maxLen.toNat)
    (awaits : Awaits link.receiver buffer maxLen timeoutMs segment.frame waiting) :
    ∃ (received : Received) (answer : Bytes),
      Api.tcpReceive buffer maxLen timeoutMs link.receiver = some received ∧ received.status = .success ∧
      received.buffer.slice 0 received.actualLen.toNat = segment.chunk ∧
      received.stack.sent = waiting.sent ++ [answer] ∧ IsAckTo link.sender.tcp.localPort segment.stop answer ∧
      received.stack.tcp.localPort = link.receiver.tcp.localPort ∧
      received.stack.tcp.remotePort = link.receiver.tcp.remotePort ∧
      received.stack.tcp.state = .established ∧ received.stack.tcp.ack = segment.stop := by
  have chain := synced.chain
  rw [oldest] at chain
  obtain ⟨⟨p, ack, random, port, nonempty, fits, bytes, stop⟩, -⟩ := chain
  obtain ⟨received, answer, done, status, contents, sent, isAck, session⟩ :=
    tcpReceive_takes synced.receiver synced.receiverBound nonempty fits room port bytes awaits
  rw [← stop] at isAck session
  refine ⟨received, answer, done, status, contents, sent, synced.back ▸ isAck, ?_⟩
  rw [session]
  exact ⟨rfl, rfl, synced.receiver, rfl⟩

/-- What the sender does besides keeps the agreement. -/
theorem Synced.sender_idle (synced : link.Synced) {s : NetStack} (same : SameSession link.sender s) :
    { link with sender := s }.Synced where
  sender := same.state.trans synced.sender
  receiver := synced.receiver
  forth := same.remotePort.trans synced.forth
  back := synced.back.trans same.localPort.symm
  senderBound := same.localPort ▸ synced.senderBound
  receiverBound := synced.receiverBound
  chain := same.seq ▸ synced.chain
  chunks := synced.chunks
  answers := same.localPort ▸ synced.answers

/-- One step of the link keeps both sessions in agreement. -/
theorem Synced.step (synced : link.Synced) (step : Step link link') : link'.Synced := by
  cases step with
  | sender same => exact synced.sender_idle same
  | receiver same =>
      exact { synced with
        receiver := same.state.trans synced.receiver
        forth := synced.forth.trans same.localPort.symm
        back := same.remotePort.trans synced.back
        receiverBound := same.localPort ▸ synced.receiverBound
        chain := same.localPort ▸ same.ack ▸ synced.chain }
  | @send chunk st s frame nonempty fits sent emitted =>
      obtain ⟨after, p, own, random, called, sends, port, bytes, session⟩ := tcpSend_emits synced.sender fits
      obtain ⟨rfl, rfl⟩ := Prod.mk.inj (Option.some.inj (sent.symm.trans called))
      have same : frame.bytes = own.bytes :=
        List.singleton_inj.mp (List.append_cancel_left (emitted.symm.trans sends))
      obtain ⟨taken, stops, answered⟩ := synced.answers
      have moved : s.tcp.seq = link.sender.tcp.seq + BitVec.ofNat 32 chunk.length := by rw [session]
      refine
        { sender := by rw [session]; exact synced.sender
          receiver := synced.receiver
          forth := by rw [session]; exact synced.forth
          back := by rw [session]; exact synced.back
          senderBound := by rw [session]; exact synced.senderBound
          receiverBound := synced.receiverBound
          chain := synced.chain.append ⟨⟨p, link.sender.tcp.ack, random, port.trans synced.forth, nonempty, fits,
            same.trans bytes, moved⟩, rfl⟩
          chunks := ?_
          answers := ⟨taken, ?_, ?_⟩ }
      · rw [synced.chunks, List.map_append, List.append_assoc]
        rfl
      · rw [stops, List.map_append, List.append_assoc]
        rfl
      · rw [session]
        exact answered
  | @receive segment rest buffer maxLen timeoutMs waiting received answer oldest room awaits done answered =>
      obtain ⟨result, own, called, -, contents, sends, isAck, localPort, remotePort, state, ack⟩ :=
        synced.receives oldest room awaits
      obtain rfl := Option.some.inj (done.symm.trans called)
      have only : answer = [own] := List.append_cancel_left (answered.symm.trans sends)
      obtain ⟨taken, stops, before⟩ := synced.answers
      have chain := synced.chain
      rw [oldest] at chain stops
      refine
        { sender := synced.sender
          receiver := state
          forth := synced.forth.trans localPort.symm
          back := remotePort.trans synced.back
          senderBound := synced.senderBound
          receiverBound := localPort ▸ synced.receiverBound
          chain := localPort ▸ ack ▸ chain.2
          chunks := ?_
          answers := ⟨taken ++ [segment.stop], ?_, ?_⟩ }
      · rw [synced.chunks, oldest, contents, List.map_cons, List.append_assoc]
        rfl
      · rw [stops, List.map_cons, List.append_assoc]
        rfl
      · exact List.rel_append before (List.Forall₂.cons ⟨own, only, isAck⟩ .nil)
  | acknowledge known part delivered polled =>
      obtain ⟨after, done, same⟩ := synced.polls_answer known part delivered
      obtain rfl := Option.some.inj (polled.symm.trans done)
      exact synced.sender_idle (.of_tcp same)

/-- Every step from an agreement keeps it. -/
theorem Synced.run (synced : link.Synced) (run : Relation.ReflTransGen Step link link') : link'.Synced := by
  induction run with
  | refl => exact synced
  | tail _ step ih => exact ih.step step

/-- Two established sessions with mirrored ports, of which one expects the other's next number, agree. -/
theorem connect_synced {a b : NetStack} (sender : a.tcp.state = .established) (receiver : b.tcp.state = .established)
    (forth : a.tcp.remotePort = b.tcp.localPort) (back : b.tcp.remotePort = a.tcp.localPort)
    (senderBound : a.tcp.localPort ≠ 0#16) (receiverBound : b.tcp.localPort ≠ 0#16)
    (agreed : b.tcp.ack = a.tcp.seq) : (connect a b).Synced :=
  { sender, receiver, forth, back, senderBound, receiverBound
    chain := agreed
    chunks := rfl
    answers := ⟨[], rfl, .nil⟩ }

/-- In every run of the link the buffers of the receiver are the chunks that arrived, in order, and those in
flight follow them. Each delivery was answered with one acknowledgement of the sender's number behind its
chunk, and to poll one changes nothing in the sender's session. A chunk can always be sent, and the oldest one
in flight is returned by any receive with room that waits for it. -/
theorem stream_exchange {a b : NetStack} (sender : a.tcp.state = .established)
    (receiver : b.tcp.state = .established) (forth : a.tcp.remotePort = b.tcp.localPort)
    (back : b.tcp.remotePort = a.tcp.localPort) (senderBound : a.tcp.localPort ≠ 0#16)
    (receiverBound : b.tcp.localPort ≠ 0#16) (agreed : b.tcp.ack = a.tcp.seq)
    (run : Relation.ReflTransGen Step (connect a b) link) :
    link.buffers.flatten ++ (link.segments.map (·.chunk)).flatten = link.chunks.flatten ∧
    (∃ taken, link.stops = taken ++ link.segments.map (·.stop) ∧
      List.Forall₂ (fun stop answer => ∃ bytes, answer = [bytes] ∧ IsAckTo link.sender.tcp.localPort stop bytes ∧
        frameAckNo bytes = stop) taken link.answers) ∧
    (link.segments = [] → link.receiver.tcp.ack = link.sender.tcp.seq) ∧
    (∀ answer ∈ link.answers, ∀ frame : RxFrame, frame.bytes ∈ answer →
      link.sender.nextReceive = .frame frame → ∃ s, link.sender.poll = some s ∧ s.tcp = link.sender.tcp) ∧
    (∀ chunk : Bytes, 0 < chunk.length → chunk.length ≤ 1446 → ∃ (s : NetStack) (frame : RxFrame),
      Api.tcpSend chunk link.sender = some (.success, s) ∧ s.sent = link.sender.sent ++ [frame.bytes]) ∧
    ∀ segment rest, link.segments = segment :: rest → ∀ buffer maxLen timeoutMs waiting,
      segment.chunk.length ≤ maxLen.toNat →
      Awaits link.receiver buffer maxLen timeoutMs segment.frame waiting →
      ∃ received, Api.tcpReceive buffer maxLen timeoutMs link.receiver = some received ∧
        received.status = .success ∧ received.buffer.slice 0 received.actualLen.toNat = segment.chunk ∧
        ∃ answer, received.stack.sent = waiting.sent ++ [answer] ∧ frameAckNo answer = segment.stop := by
  have synced := (connect_synced sender receiver forth back senderBound receiverBound agreed).run run
  refine ⟨?_, ?_, ?_, ?_, ?_, ?_⟩
  · rw [synced.chunks, List.flatten_append]
  · obtain ⟨taken, stops, answered⟩ := synced.answers
    refine ⟨taken, stops, answered.imp ?_⟩
    rintro stop answer ⟨bytes, only, isAck⟩
    exact ⟨bytes, only, isAck, isAck.numbers.2⟩
  · intro settled
    have chain := synced.chain
    rw [settled] at chain
    exact chain
  · intro answer known frame part delivered
    exact synced.polls_answer known part delivered
  · intro chunk _ fits
    obtain ⟨s, _, frame, _, sent, emitted, -⟩ := tcpSend_emits synced.sender fits
    exact ⟨s, frame, sent, emitted⟩
  · intro segment rest oldest buffer maxLen timeoutMs waiting room awaits
    obtain ⟨received, answer, done, status, contents, sent, isAck, -⟩ := synced.receives oldest room awaits
    exact ⟨received, done, status, contents, answer, sent, isAck.numbers.2⟩

end Link

namespace Scenario

/-- A sender whose next chunk wraps the sequence numbers around. -/
def streamSender : NetStack :=
  { NetStack.initial .zeros {} with
    tcp := { remotePort := 0xC002, localPort := 0xC001, seq := 0xFFFFFFFF, state := .established } }

/-- Its receiver, for which the firmware has some answers. -/
def streamReceiver (receive : List Receive) : NetStack :=
  { NetStack.initial .zeros { receive } with
    tcp := { remotePort := 0xC001, localPort := 0xC002, ack := 0xFFFFFFFF, state := .established } }

end Scenario

namespace Link

open Scenario

/-- Of two chunks that wrap the sequence numbers around, one has arrived and its acknowledgement was polled, and the
other one is in flight. -/
theorem stream_exchange_wrapped : ∃ link,
    Relation.ReflTransGen Step (connect streamSender (streamReceiver [])) link ∧
      link.chunks = [[1, 2, 3], [4, 5]] ∧ link.segments.map (·.chunk) = [[4, 5]] ∧ link.buffers.flatten = [1, 2, 3] ∧
      link.sender.tcp.seq = 4 ∧ link.receiver.tcp.ack = 2 := by
  have synced := @connect_synced streamSender (streamReceiver []) rfl rfl rfl rfl (by decide) (by decide) rfl
  -- both chunks leave
  obtain ⟨s, p, frame, random, sent, emitted, -, -, session⟩ := @tcpSend_emits streamSender rfl [1, 2, 3] (by decide)
  have open_ : s.tcp.state = .established := by
    rw [session]
    rfl
  obtain ⟨t, p', frame', random', sent', emitted', -, -, session'⟩ := @tcpSend_emits s open_ [4, 5] (by decide)
  let segment : InFlight := { chunk := [1, 2, 3], frame := frame, stop := s.tcp.seq }
  let segment' : InFlight := { chunk := [4, 5], frame := frame', stop := t.tcp.seq }
  have first : Step (connect streamSender (streamReceiver []))
      { connect s (streamReceiver []) with segments := [segment], chunks := [[1, 2, 3]], stops := [s.tcp.seq] } :=
    .send (by decide) (by decide) sent emitted
  have second : Step
      { connect s (streamReceiver []) with segments := [segment], chunks := [[1, 2, 3]], stops := [s.tcp.seq] }
      { connect t (streamReceiver []) with
        segments := [segment, segment'], chunks := [[1, 2, 3], [4, 5]], stops := [s.tcp.seq, t.tcp.seq] } :=
    .send (by decide) (by decide) sent' emitted'
  -- the first one arrives
  have third : Step
      { connect t (streamReceiver []) with
        segments := [segment, segment'], chunks := [[1, 2, 3], [4, 5]], stops := [s.tcp.seq, t.tcp.seq] }
      { connect t (streamReceiver [.frame frame]) with
        segments := [segment, segment'], chunks := [[1, 2, 3], [4, 5]], stops := [s.tcp.seq, t.tcp.seq] } :=
    .receiver ⟨rfl, rfl, rfl, rfl, rfl⟩
  have awaits : Awaits (streamReceiver [.frame frame]) (fun _ => 0) 4 1 frame
      ((streamReceiver [.frame frame]).tcpReceiveStart (fun _ => 0) 4) := ⟨⟨0, by decide, rfl⟩, rfl, rfl⟩
  have room : [(1 : BitVec 8), 2, 3].length ≤ (4 : UINTN).toNat := by decide
  have before := ((Relation.ReflTransGen.single first).tail second).tail third
  obtain ⟨received, answer, done, -, -, answered, isAck, -, -, -, number⟩ := (synced.run before).receives rfl room awaits
  have fourth := Step.receive rfl room awaits done answered
  -- the sender polls the acknowledgement
  have fits : answer.length ≤ pktBufSize := by
    obtain ⟨ack, seq, random, -, rfl⟩ := isAck
    rw [tcpFrame_length]
    decide
  let heard : NetStack := { t with snp := { t.snp with receive := [.frame { bytes := answer, fits }] } }
  let link : Link :=
    { sender := t
      receiver := received.stack
      segments := [segment']
      chunks := [[1, 2, 3], [4, 5]]
      stops := [s.tcp.seq, t.tcp.seq]
      buffers := [received.buffer.slice 0 received.actualLen.toNat]
      answers := [[answer]] }
  have fifth : Step link { link with sender := heard } := .sender ⟨rfl, rfl, rfl, rfl, rfl⟩
  have after := (before.tail fourth).tail fifth
  obtain ⟨-, -, -, polls, -⟩ := stream_exchange rfl rfl rfl rfl (by decide) (by decide) rfl after
  obtain ⟨u, polled, same⟩ :=
    polls [answer] (List.mem_singleton.mpr rfl) { bytes := answer, fits } (List.mem_singleton.mpr rfl) rfl
  have sixth : Step { link with sender := heard } { link with sender := u } :=
    .acknowledge (List.mem_singleton.mpr rfl) (List.mem_singleton.mpr rfl) rfl polled
  have run := after.tail sixth
  obtain ⟨stream, -⟩ := stream_exchange rfl rfl rfl rfl (by decide) (by decide) rfl run
  have seq : u.tcp.seq = 4 := by
    rw [same]
    change t.tcp.seq = 4
    rw [session', session]
    rfl
  have ack : received.stack.tcp.ack = 2 := by
    rw [number]
    change s.tcp.seq = 2
    rw [session]
    rfl
  exact ⟨_, run, rfl, rfl, List.append_cancel_right stream, seq, ack⟩

end Link
end UefiNetstack
