import UefiNetstack.Exchange.Chunks
import UefiNetstack.Http.Request

namespace UefiNetstack
open Words Memory Constants NetStack

/-- A segment of the peer of a session that carries the next number of its stream. -/
structure PeerSegment (session : TcpSession) (next : UINT32) (frame : RxFrame) (f : SegmentFrame) : Prop where
  bytes : frame.bytes = f.bytes
  saddr : f.ip.saddr = session.remoteIp
  source : ntohs f.tcp.source = session.remotePort
  dest : ntohs f.tcp.dest = session.localPort
  noRst : f.input.has tcpFlagRst = false
  seq : f.input.rxSeq = next

/-- An answer of Receive that is no segment for a port, and that every stack handles. -/
def Bystander (port : UINT16) (answer : Receive) : Prop :=
  ∀ s : NetStack, s.tcp.localPort = port → s.arrivalOn answer = none ∧ ∃ s', s.pollOn answer = some s'

/-- The answers of Receive up to the FIN of the peer, with the payloads of its segments: every byte of its stream
comes once and in order, and other traffic and bare acknowledgements come between. -/
inductive Serves (session : TcpSession) : UINT32 → List Receive → List Bytes → Prop
  | other {next : UINT32} {answer : Receive} {answers : List Receive} {segments : List Bytes}
      (bystander : Bystander session.localPort answer) (rest : Serves session next answers segments) :
      Serves session next (answer :: answers) segments
  | bare {next number : UINT32} {frame : RxFrame} {f : SegmentFrame} {answers : List Receive} {segments : List Bytes}
      (peer : PeerSegment session number frame f) (noFin : f.input.has tcpFlagFin = false) (noData : f.data = [])
      (rest : Serves session next answers segments) :
      Serves session next (.frame frame :: answers) segments
  | data {next : UINT32} {frame : RxFrame} {f : SegmentFrame} {answers : List Receive} {segments : List Bytes}
      (peer : PeerSegment session next frame f) (noFin : f.input.has tcpFlagFin = false) (nonempty : f.data ≠ [])
      (rest : Serves session (next + BitVec.ofNat 32 f.data.length) answers segments) :
      Serves session next (.frame frame :: answers) (f.data :: segments)
  | fin {next : UINT32} {frame : RxFrame} {f : SegmentFrame} (peer : PeerSegment session next frame f)
      (fin : f.input.has tcpFlagFin = true) : Serves session next [.frame frame] [f.data]

/-- An empty answer disturbs nobody. -/
theorem bystander_notReady (port : UINT16) : Bystander port .notReady := fun _ _ => ⟨rfl, _, rfl⟩

/-- What a receive call returns of a session. -/
def TcpSession.result (tcp : TcpSession) : Option Memory × UINTN × Bool := (tcp.rxBuffer, tcp.rxCurrentLen, tcp.rxDone)

/-- The numbers do not decide what a payload fills. -/
theorem TcpSession.filled_numbers (tcp : TcpSession) (seq ack : UINT32) (data : Bytes) :
    (({ tcp with seq, ack } : TcpSession).filled data).result = (tcp.filled data).result := by
  unfold filled
  dsimp only
  split
  · rfl
  · split
    · rfl
    · rfl

namespace NetStack

variable {session : TcpSession} {next : UINT32} {answers rest : List Receive} {segments : List Bytes}
  {frame : RxFrame} {f : SegmentFrame} {input : TcpInput} {tcpAt : Nat} {data : Bytes} {s s' : NetStack}

/-- The acknowledgement of a payload moves only the numbers. -/
theorem acknowledgeData_numbers (input : TcpInput) (s : NetStack) :
    ∃ s' seq ack, s.acknowledgeData input = some s' ∧ s'.tcp = { s.tcp with seq, ack } := by
  unfold acknowledgeData
  split
  · obtain ⟨s', -, sent, tcp, -⟩ := sendTcpControl_eq tcpFlagAck
      { s with tcp := { s.tcp with
        seq := input.rxAck
        ack := (input.rxSeq.setWidth 64 + input.payloadLen).setWidth 32 } }
    exact ⟨s', _, _, sent, tcp⟩
  · exact ⟨s, s.tcp.seq, s.tcp.ack, rfl, rfl⟩

/-- A FIN moves the numbers and ends the session. -/
theorem receiveFin_numbers (input : TcpInput) (s : NetStack) :
    ∃ s' seq ack, s.receiveFin input = some s' ∧ s'.tcp = { s.tcp with
      seq
      ack
      state := if input.has tcpFlagFin then .closedDone else s.tcp.state } := by
  unfold receiveFin
  split
  · rename_i fin
    obtain ⟨s', -, sent, tcp, -⟩ := sendTcpControl_eq tcpFlagFinAck
      { s with tcp := { s.tcp with
        seq := input.rxAck
        ack := (input.rxSeq.setWidth 64 + input.payloadLen + 0x01#64).setWidth 32 } }
    dsimp only
    rw [sent]
    exact ⟨_, _, _, rfl, by rw [tcp]⟩
  · rename_i noFin
    exact ⟨s, s.tcp.seq, s.tcp.ack, rfl, rfl⟩

/-- A session that receives takes a segment of its peer. -/
theorem poll_fills (peer : PeerSegment session next frame f) (port : s.tcp.localPort = session.localPort)
    (bound : session.localPort ≠ 0#16) (listening : s.Listening)
    (empty : s.tcp.rxBuffer = none ∨ s.tcp.rxCurrentLen = 0#64) (delivered : s.nextReceive = .frame frame) :
    ∃ s' seq ack, s.poll = some s' ∧ s'.tcp = { s.tcp.filled f.data with
      seq
      ack
      state := if f.input.has tcpFlagFin then .closedDone else s.tcp.state } := by
  let landed := s.received.landed frame
  obtain ⟨-, -, -, stored⟩ := SegmentFrame.stored_parts (SegmentFrame.landed_stored peer.bytes (s := s.received))
  have page := landed.rxPkt.page
  have size : f.bytes.length ≤ pktBufSize := peer.bytes ▸ frame.fits
  have inside : f.tcpAt + f.input.tcpHlen.toNat + f.data.length ≤ landed.rxPkt.limit := by
    rw [f.input_tcpHlen]
    simp only [SegmentFrame.bytes, List.length_append, EthHdr.bytes_length, IpHdr.bytes_length,
      TcpHdr.bytes_length] at size
    simp only [SegmentFrame.tcpAt, sizeofEthHdr, sizeofIpHdr, sizeofTcpHdr]
    omega
  obtain ⟨copied, copies, -, filled⟩ := receiveData_filled (s := landed) empty f.input_payloadLen stored inside
  obtain ⟨acked, seq, ack, acknowledges, numbers⟩ := acknowledgeData_numbers f.input copied
  obtain ⟨s', seq', ack', ends, tcp⟩ := receiveFin_numbers f.input acked
  have here : landed.tcp.state = .established ∨ landed.tcp.state = .finWait := listening
  refine ⟨s', seq', ack', ?_, ?_⟩
  · rw [poll_segment peer.bytes (peer.dest.trans port.symm) (port ▸ bound) delivered, onSegment,
      if_neg (by simp [peer.noRst]), if_neg (Listening.not_waiting (s := landed) here), if_pos here, copies]
    change (copied.acknowledgeData f.input).bind (receiveFin f.input) = _
    rw [acknowledges]
    exact ends
  · obtain ⟨rxBuffer, rxCurrentLen, rxDone, same⟩ := s.tcp.filled_eq f.data
    have filled : copied.tcp = s.tcp.filled f.data := filled
    rw [tcp, numbers, filled, same]

/-- Other traffic leaves the session alone. -/
theorem poll_bystander (port : s.tcp.localPort = session.localPort)
    (bystander : Bystander session.localPort s.nextReceive) :
    ∃ s', s.poll = some s' ∧ s'.tcp = s.tcp := by
  obtain ⟨nothing, s', polled⟩ := bystander s.received port
  refine ⟨s', polled, ?_⟩
  rcases pollOn_cases polled with ⟨-, quiet⟩ | ⟨frame, input, tcpAt, -, arrives, -⟩
  · exact quiet.tcp
  · rw [nothing] at arrives
    cases arrives

/-- The answers that come next lead to the FIN of the peer. -/
structure Ahead (session : TcpSession) (answers rest : List Receive) (s : NetStack) : Prop where
  receive : s.snp.receive = answers ++ rest
  port : s.tcp.localPort = session.localPort

theorem Ahead.delivers {answer : Receive} (ahead : Ahead session (answer :: answers) rest s) :
    s.nextReceive = answer := by
  rw [nextReceive, ahead.receive]
  rfl

theorem Ahead.poll {answer : Receive} (ahead : Ahead session (answer :: answers) rest s) (polled : s.poll = some s')
    (port : s'.tcp.localPort = s.tcp.localPort) (micros : Nat) : Ahead session answers rest (s'.stall micros) where
  receive := by
    change s'.snp.receive = _
    rw [poll_receive polled, ahead.receive]
    rfl
  port := port.trans ahead.port

/-- What a wait leaves for `tcp_close`: a session that the peer has closed, or one whose FIN is still to come. -/
def LeftFor (session : TcpSession) (rest : List Receive) (s : NetStack) : Prop :=
  s.tcp.state = .closedDone ∨ s.tcp.state = .established ∧ ∃ next answers segments,
    Serves session next answers segments ∧ Ahead session answers rest s

/-- An empty receive call that waits on an established session. -/
structure Receiving (buffer : Memory) (s : NetStack) : Prop where
  established : s.tcp.state = .established
  pending : s.tcp.rxBuffer = some buffer
  empty : s.tcp.rxCurrentLen = 0#64
  waiting : s.tcp.rxDone = false

theorem Receiving.open_ {buffer : Memory} (receiving : Receiving buffer s) : s.tcpReceiveDone = false := by
  simp [tcpReceiveDone, receiving.waiting, receiving.established]

/-- A step that only moves the numbers goes on receiving. -/
theorem Receiving.of_numbers {buffer : Memory} {seq ack : UINT32} (receiving : Receiving buffer s)
    (tcp : s'.tcp = { s.tcp with seq, ack }) : Receiving buffer s' where
  established := tcp ▸ receiving.established
  pending := tcp ▸ receiving.pending
  empty := tcp ▸ receiving.empty
  waiting := tcp ▸ receiving.waiting

/-- A wait for the response ends with the first payload, or with the FIN when there is no room. -/
theorem waitLoop_receives {buffer : Memory} {loops : Nat} (bound : session.localPort ≠ 0#16)
    (serves : Serves session next answers segments) (enough : answers.length ≤ loops)
    (ahead : Ahead session answers rest s) (receiving : Receiving buffer s) :
    ∃ ended, waitLoop tcpReceiveDone stall100us loops s = some ended ∧
      ended.tcp.result = (s.tcp.filled (segments.headD [])).result ∧ LeftFor session rest ended := by
  induction serves generalizing s loops with
  | other bystander more ih =>
      obtain ⟨loops, rfl⟩ := Nat.exists_eq_add_of_lt (Nat.lt_of_lt_of_le (Nat.zero_lt_succ _) enough)
      obtain ⟨s', polled, tcp⟩ := poll_bystander ahead.port (ahead.delivers ▸ bystander)
      have still : Receiving buffer (s'.stall stall100us) := receiving.of_numbers tcp
      obtain ⟨ended, loop, result, left⟩ := @ih _ (0 + loops) (by simpa using enough)
        (ahead.poll polled (by rw [tcp]) _) still
      refine ⟨ended, (waitLoop_poll _ receiving.open_ polled).trans loop, ?_, left⟩
      have same : (s'.stall stall100us).tcp = s.tcp := tcp
      rw [result, same]
  | @bare next number frame f answers segments peer noFin noData more ih =>
      obtain ⟨loops, rfl⟩ := Nat.exists_eq_add_of_lt (Nat.lt_of_lt_of_le (Nat.zero_lt_succ _) enough)
      obtain ⟨s', seq, ack, polled, tcp⟩ := poll_fills peer ahead.port bound (Or.inl receiving.established)
        (Or.inr receiving.empty) ahead.delivers
      rw [if_neg (Bool.eq_false_iff.mp noFin), noData, TcpSession.filled_nothing List.take_nil] at tcp
      have still : Receiving buffer (s'.stall stall100us) := receiving.of_numbers tcp
      obtain ⟨ended, loop, result, left⟩ := @ih _ (0 + loops) (by simpa using enough)
        (ahead.poll polled (by rw [tcp]) _) still
      refine ⟨ended, (waitLoop_poll _ receiving.open_ polled).trans loop, ?_, left⟩
      have same : (s'.stall stall100us).tcp = { s.tcp with seq, ack } := tcp
      rw [result, same]
      exact TcpSession.filled_numbers s.tcp seq ack _
  | @data next frame f answers segments peer noFin nonempty more ih =>
      obtain ⟨loops, rfl⟩ := Nat.exists_eq_add_of_lt (Nat.lt_of_lt_of_le (Nat.zero_lt_succ _) enough)
      obtain ⟨s', seq, ack, polled, tcp⟩ := poll_fills peer ahead.port bound (Or.inl receiving.established)
        (Or.inr receiving.empty) ahead.delivers
      rw [if_neg (Bool.eq_false_iff.mp noFin)] at tcp
      rw [List.headD_cons]
      by_cases room : f.data.take s.tcp.rxMaxLen.toNat = []
      · -- without room the wait goes on
        rw [TcpSession.filled_nothing room] at tcp
        have still : Receiving buffer (s'.stall stall100us) := receiving.of_numbers tcp
        obtain ⟨ended, loop, result, left⟩ := @ih _ (0 + loops) (by simpa using enough)
          (ahead.poll polled (by rw [tcp]) _) still
        refine ⟨ended, (waitLoop_poll _ receiving.open_ polled).trans loop, ?_, left⟩
        have same : (s'.stall stall100us).tcp = { s.tcp with seq, ack } := tcp
        have full (data : Bytes) : data.take s.tcp.rxMaxLen.toNat = [] := by
          rw [(List.take_eq_nil_iff.mp room).resolve_right nonempty, List.take_zero]
        have nothing : ({ s.tcp with seq, ack } : TcpSession).filled (segments.headD []) = { s.tcp with seq, ack } :=
          TcpSession.filled_nothing (full _)
        rw [result, same, nothing, TcpSession.filled_nothing room]
        rfl
      · rw [TcpSession.filled_some receiving.pending room] at tcp ⊢
        have halts : (s'.stall stall100us).tcpReceiveDone = true := by
          change s'.tcpReceiveDone = true
          simp [tcpReceiveDone, tcp]
        refine ⟨s'.stall stall100us, (waitLoop_poll _ receiving.open_ polled).trans (waitLoop_done _ _ halts), ?_, ?_⟩
        · change s'.tcp.result = _
          rw [tcp]
          rfl
        · refine Or.inr ⟨?_, _, _, _, more, ahead.poll polled (by rw [tcp]) _⟩
          change s'.tcp.state = _
          rw [tcp]
          exact receiving.established
  | @fin next frame f peer fin =>
      obtain ⟨loops, rfl⟩ := Nat.exists_eq_add_of_lt (Nat.lt_of_lt_of_le (Nat.zero_lt_succ _) enough)
      obtain ⟨s', seq, ack, polled, tcp⟩ := poll_fills peer ahead.port bound (Or.inl receiving.established)
        (Or.inr receiving.empty) ahead.delivers
      rw [if_pos fin] at tcp
      have halts : (s'.stall stall100us).tcpReceiveDone = true := by
        change s'.tcpReceiveDone = true
        simp [tcpReceiveDone, tcp]
      refine
        ⟨s'.stall stall100us, (waitLoop_poll _ receiving.open_ polled).trans (waitLoop_done _ _ halts), ?_, Or.inl ?_⟩
      · change s'.tcp.result = _
        rw [tcp]
        rfl
      · change s'.tcp.state = _
        rw [tcp]

/-- The drain of `tcp_close` returns. -/
theorem waitLoop_drains {loops : Nat} (bound : session.localPort ≠ 0#16) (serves : Serves session next answers segments)
    (ahead : Ahead session answers rest s) (finWait : s.tcp.state = .finWait) (dropped : s.tcp.rxBuffer = none) :
    ∃ ended, waitLoop (fun s => s.tcp.state = .closedDone) stall1ms loops s = some ended := by
  induction serves generalizing s loops with
  | other bystander more ih =>
      cases loops with
      | zero => exact ⟨s, rfl⟩
      | succ loops =>
        obtain ⟨s', polled, tcp⟩ := poll_bystander ahead.port (ahead.delivers ▸ bystander)
        obtain ⟨ended, loop⟩ := @ih _ loops (ahead.poll polled (by rw [tcp]) stall1ms) (tcp ▸ finWait) (tcp ▸ dropped)
        exact ⟨ended, (waitLoop_poll _ (by simp [finWait]) polled).trans loop⟩
  | @bare next number frame f answers segments peer noFin noData more ih =>
      cases loops with
      | zero => exact ⟨s, rfl⟩
      | succ loops =>
        obtain ⟨s', seq, ack, polled, tcp⟩ := poll_fills peer ahead.port bound (Or.inr finWait)
          (Or.inl dropped) ahead.delivers
        rw [if_neg (Bool.eq_false_iff.mp noFin), TcpSession.filled_dropped dropped] at tcp
        obtain ⟨ended, loop⟩ := @ih _ loops (ahead.poll polled (by rw [tcp]) stall1ms) (tcp ▸ finWait) (tcp ▸ dropped)
        exact ⟨ended, (waitLoop_poll _ (by simp [finWait]) polled).trans loop⟩
  | @data next frame f answers segments peer noFin nonempty more ih =>
      cases loops with
      | zero => exact ⟨s, rfl⟩
      | succ loops =>
        obtain ⟨s', seq, ack, polled, tcp⟩ := poll_fills peer ahead.port bound (Or.inr finWait)
          (Or.inl dropped) ahead.delivers
        rw [if_neg (Bool.eq_false_iff.mp noFin), TcpSession.filled_dropped dropped] at tcp
        obtain ⟨ended, loop⟩ := @ih _ loops (ahead.poll polled (by rw [tcp]) stall1ms) (tcp ▸ finWait) (tcp ▸ dropped)
        exact ⟨ended, (waitLoop_poll _ (by simp [finWait]) polled).trans loop⟩
  | @fin next frame f peer fin =>
      cases loops with
      | zero => exact ⟨s, rfl⟩
      | succ loops =>
        obtain ⟨s', seq, ack, polled, tcp⟩ := poll_fills peer ahead.port bound (Or.inr finWait)
          (Or.inl dropped) ahead.delivers
        rw [if_pos fin] at tcp
        have halts : ((s'.stall stall1ms).tcp.state = .closedDone : Bool) = true := by
          change decide (s'.tcp.state = .closedDone) = true
          simp [tcp]
        exact ⟨_, (waitLoop_poll _ (by simp [finWait]) polled).trans (waitLoop_done _ _ halts)⟩

/-- A connection has the random port of its `tcp_connect`. -/
theorem GetConnects.bound {hostname : CString} {connected : NetStack} (connects : GetConnects hostname s connected) :
    connected.tcp.localPort ≠ 0#16 := by
  obtain ⟨targetIp, resolved, -, connects⟩ := connects
  obtain ⟨ended, loop, result⟩ := Option.bind_eq_some_iff.mp connects
  obtain ⟨-, rfl⟩ := Prod.mk.inj (Option.some.inj result)
  have port : ended.tcp.localPort = resolved.getEphemeralPort.1 := by
    refine requestLoop_keeps (P := fun t => t.tcp.localPort = resolved.getEphemeralPort.1) ?_ ?_ ?_ rfl loop
    · intro t t' port open_ sent
      obtain ⟨tcp, -⟩ := sendTcpControl_sends sent
      rw [tcp]
      exact ⟨port, open_⟩
    · exact fun t t' port _ polled => (poll_keepsPort polled).port.trans port
    · exact fun t port => port
  intro zero
  have ephemeral := resolved.getEphemeralPort_ge
  rw [← port, zero] at ephemeral
  exact absurd ephemeral (by decide)

/-- What a receive call returns of the bytes that it has taken. -/
structure Gets (taken : Bytes) (received : Received) : Prop where
  status : received.status = .success ↔ taken ≠ []
  actualLen : received.actualLen.toNat = taken.length
  buffer : received.buffer.slice 0 taken.length = taken

/-- A receive call on a server's answers gets the start of the first segment. -/
theorem tcpReceive_serves {timeoutMs : UINT32} (buffer : Memory) (maxLen : UINTN) (bound : session.localPort ≠ 0#16)
    (serves : Serves session next answers segments) (enough : answers.length ≤ maxLoops timeoutMs)
    (ahead : Ahead session answers rest s) (established : s.tcp.state = .established) :
    ∃ received, Api.tcpReceive buffer maxLen timeoutMs s = some received ∧
      Gets ((segments.headD []).take maxLen.toNat) received ∧ LeftFor session rest received.stack ∧
      received.stack.tcp.rxBuffer = none := by
  have start : Ahead session answers rest (s.tcpReceiveStart buffer maxLen) := ⟨ahead.receive, ahead.port⟩
  have receiving : Receiving buffer (s.tcpReceiveStart buffer maxLen) := ⟨established, rfl, rfl, rfl⟩
  obtain ⟨ended, loop, result, left⟩ := waitLoop_receives bound serves enough start receiving
  have left : LeftFor session rest ended.tcpReceiveEnd := by
    rcases left with closed | ⟨open_, next, answers, segments, serves, ahead⟩
    · exact Or.inl closed
    · exact Or.inr ⟨open_, next, answers, segments, serves, ahead.receive, ahead.port⟩
  refine ⟨_, by rw [Api.tcpReceive, loop]; rfl, ?_, left, rfl⟩
  have room : (s.tcpReceiveStart buffer maxLen).tcp.rxMaxLen = maxLen := rfl
  by_cases nothing : (segments.headD []).take maxLen.toNat = []
  · rw [TcpSession.filled_nothing (room ▸ nothing)] at result
    obtain ⟨rxBuffer, rest⟩ := Prod.mk.inj result
    obtain ⟨rxCurrentLen, rxDone⟩ := Prod.mk.inj rest
    have flag : ended.tcp.rxDone = false := rxDone
    have len : ended.tcp.rxCurrentLen = 0#64 := rxCurrentLen
    rw [nothing]
    exact { status := by simp [flag], actualLen := by simp [len], buffer := rfl }
  · rw [TcpSession.filled_some rfl (room ▸ nothing), room] at result
    obtain ⟨rxBuffer, rest⟩ := Prod.mk.inj result
    obtain ⟨rxCurrentLen, rxDone⟩ := Prod.mk.inj rest
    have flag : ended.tcp.rxDone = true := rxDone
    have len : ended.tcp.rxCurrentLen = BitVec.ofNat 64 ((segments.headD []).take maxLen.toNat).length := rxCurrentLen
    have short : ((segments.headD []).take maxLen.toNat).length < 2 ^ 64 :=
      Nat.lt_of_le_of_lt (List.length_take_le _ _) maxLen.isLt
    refine { status := iff_of_true (if_pos flag) nothing, actualLen := ?_, buffer := ?_ }
    · rw [len, BitVec.toNat_ofNat, Nat.mod_eq_of_lt short]
    · dsimp only
      rw [rxBuffer]
      exact bytesAt_iff_slice.mp (write_bytesAt buffer 0 _)

/-- `tcp_close` returns behind such a receive call. -/
theorem tcpClose_serves (bound : session.localPort ≠ 0#16) (left : LeftFor session rest s)
    (dropped : s.tcp.rxBuffer = none) :
    ∃ closed, Api.tcpClose s = some closed := by
  have drains : ∃ drained, s.tcpDrain = some drained := by
    unfold tcpDrain
    rcases left with closed | ⟨open_, next, answers, segments, serves, ahead⟩
    · exact ⟨s, if_neg (by simp [closed])⟩
    · rw [if_pos open_]
      obtain ⟨frame, sent, -⟩ := s.sendTcpInternal_eq tcpFlagFinAck s.tcp.seq s.tcp.ack [] (Nat.zero_le _)
      let out := s.getU32.2.sendFrame frame
      let started : NetStack := { out with tcp := { out.tcp with state := .finWait } }
      have starts : s.tcpCloseStart = some started := by
        rw [tcpCloseStart, sendTcpControl, sent]
        rfl
      have ahead' : Ahead session answers rest started :=
        ⟨(sendFrame_receive frame s.getU32.2).trans ahead.receive, ahead.port⟩
      obtain ⟨drained, loop⟩ := @waitLoop_drains _ _ _ _ _ _ timeoutCloseLoops bound serves ahead' rfl dropped
      exact ⟨drained, Option.bind_eq_some_iff.mpr ⟨started, starts, loop⟩⟩
  obtain ⟨drained, drains⟩ := drains
  rw [Api.tcpClose, drains]
  exact ⟨_, rfl⟩

end NetStack

/-- A server that accepts the connection of an `http_get` and sends its response within the timeout of the receive
step. -/
structure Served (hostname path : CString) (s : NetStack) where
  before : NetStack
  reached : GetReceives hostname path s before
  answers : List Receive
  rest : List Receive
  receive : before.snp.receive = answers ++ rest
  segments : List Bytes
  serves : Serves before.tcp before.tcp.ack answers segments
  timely : answers.length ≤ maxLoops 0x1388#32

namespace Served

variable {hostname path : CString} {s : NetStack}

def response (server : Served hostname path s) : Bytes := server.segments.flatten

/-- The payload of the first segment. -/
def first (server : Served hostname path s) : Bytes := server.segments.headD []

theorem first_prefix (server : Served hostname path s) : server.first <+: server.response := by
  unfold first response
  cases server.segments with
  | nil => exact List.nil_prefix
  | cons segment segments => exact List.prefix_append _ _

/-- An `http_get` gets the start of the first segment. -/
theorem gets (server : Served hostname path s) (buffer : Memory) (maxLen actualLen : UINTN) :
    ∃ received, Api.httpGet hostname path buffer maxLen actualLen s = some received ∧
      Gets (server.first.take maxLen.toNat) received := by
  obtain ⟨targetIp, resolved, connected, resolves, connects, sends⟩ := server.reached
  have reaches : GetConnects hostname s connected := ⟨targetIp, resolved, resolves, connects⟩
  obtain ⟨before, -, sends', tcp, -, -, -, -, -, get⟩ := httpGet_connected reaches path
  obtain ⟨-, rfl⟩ := Prod.mk.inj (Option.some.inj (sends.symm.trans sends'))
  have established : server.before.tcp.state = .established := by
    rw [tcp]
    exact reaches.established
  have bound : server.before.tcp.localPort ≠ 0#16 := by
    rw [tcp]
    exact reaches.bound
  obtain ⟨received, receives, gets, left, dropped⟩ := tcpReceive_serves buffer maxLen bound server.serves server.timely
    ⟨server.receive, rfl⟩ established
  obtain ⟨closed, closes⟩ := tcpClose_serves bound left dropped
  rw [get, receives, Option.bind_some, closes]
  exact ⟨_, rfl, gets.status, gets.actualLen, gets.buffer⟩

/-- An `http_get` returns success with the length of the response and with its bytes, as far as the buffer has room. -/
def Whole (server : Served hostname path s) (buffer : Memory) (maxLen actualLen : UINTN) : Prop :=
  ∃ received, Api.httpGet hostname path buffer maxLen actualLen s = some received ∧ received.status = .success ∧
    received.actualLen.toNat = min server.response.length maxLen.toNat ∧
    received.buffer.slice 0 received.actualLen.toNat = server.response.take received.actualLen.toNat

/-- An `http_get` returns the response of a server exactly when the first segment holds all that there is room for,
and that is something. -/
theorem whole_iff (server : Served hostname path s) (buffer : Memory) (maxLen actualLen : UINTN) :
    server.Whole buffer maxLen actualLen ↔ 0 < min server.response.length maxLen.toNat ∧
      min server.response.length maxLen.toNat ≤ server.first.length := by
  obtain ⟨received, returned, gets⟩ := server.gets buffer maxLen actualLen
  have length := gets.actualLen
  rw [List.length_take] at length
  have within := server.first_prefix.length_le
  constructor
  · rintro ⟨other, returned', success, actualLen', -⟩
    obtain rfl := Option.some.inj (returned.symm.trans returned')
    have nonempty := List.length_pos_iff.mpr (gets.status.mp success)
    rw [List.length_take] at nonempty
    omega
  · rintro ⟨nonempty, fits⟩
    have enough : min maxLen.toNat server.first.length = min server.response.length maxLen.toNat := by omega
    refine ⟨received, returned, gets.status.mpr ?_, length.trans enough, ?_⟩
    · rw [← List.length_pos_iff, List.length_take, enough]
      exact nonempty
    · have part : server.response.take received.actualLen.toNat = server.first.take received.actualLen.toNat := by
        obtain ⟨others, joined⟩ := server.first_prefix
        rw [← joined, List.take_append_of_le_length (by omega)]
      rw [part, gets.actualLen, gets.buffer, List.length_take, List.take_eq_take_iff]
      omega

end Served

namespace Scenario

def rootPath : CString := { chars := [0x2F], noNul := by decide }

def firstHalf : SegmentFrame := httpSegment tcpFlagPshAck 1001 [0x48, 0x49] (by decide)
def secondHalf : SegmentFrame := httpSegment tcpFlagPshAck 1003 [0x4A, 0x4B] (by decide)
def lastSegment : SegmentFrame := httpSegment tcpFlagFinAck 1005 [] noData_fits

/-- The acknowledgement of the request. -/
def requestTaken : SegmentFrame := httpSegment tcpFlagAck 1001 [] noData_fits

def firstHalfFrame : RxFrame := { bytes := firstHalf.bytes, fits := by decide }
def secondHalfFrame : RxFrame := { bytes := secondHalf.bytes, fits := by decide }
def lastFrame : RxFrame := { bytes := lastSegment.bytes, fits := by decide }
def requestTakenFrame : RxFrame := { bytes := requestTaken.bytes, fits := by decide }

/-- The acknowledgement of the request, two halves of a response with a pause between them, and the FIN. -/
def halves : List Receive :=
  [.frame requestTakenFrame, .frame firstHalfFrame, .notReady, .frame secondHalfFrame, .frame lastFrame]

/-- The session of the scenario. -/
structure OfServer (session : TcpSession) : Prop where
  remoteIp : session.remoteIp = ofLe32 10 0 0 7
  remotePort : session.remotePort = 0x50#16
  localPort : session.localPort = httpPort

theorem OfServer.segment {session : TcpSession} (of : OfServer session) (frame : RxFrame) {flags : UINT8} {seq : UINT32}
    {data : Bytes} {fits : data.length ≤ 1460} (bytes : frame.bytes = (httpSegment flags seq data fits).bytes)
    (noRst : (httpSegment flags seq data fits).input.has tcpFlagRst = false) :
    PeerSegment session seq frame (httpSegment flags seq data fits) where
  bytes := bytes
  saddr := of.remoteIp.symm
  source := (swap16_swap16 _).trans of.remotePort.symm
  dest := (swap16_swap16 _).trans of.localPort.symm
  noRst := noRst
  seq := swap32_swap32 seq

theorem halves_serve {session : TcpSession} (of : OfServer session) :
    Serves session 1001 halves [[0x48, 0x49], [0x4A, 0x4B], []] :=
  .bare (of.segment requestTakenFrame rfl (by decide)) (by decide) rfl
    (.data (of.segment firstHalfFrame rfl (by decide)) (by decide) (by decide)
      (.other (bystander_notReady _)
        (.data (of.segment secondHalfFrame rfl (by decide)) (by decide) (by decide)
          (.fin (of.segment lastFrame rfl (by decide)) (by decide)))))

/-- A server that sends its response in two halves. -/
theorem halves_served : ∃ server : Served Scenario.hostname rootPath (browsing halves),
    server.segments = [[0x48, 0x49], [0x4A, 0x4B], []] := by
  have resolves : ((Api.resolveHostname Scenario.hostname 0#32 (browsing halves)).map fun ended => ended.1) =
      some .success := by decide +kernel
  have connects : (browsed halves).map (fun ended => (ended.1, ended.2.snp.receive, ended.2.tcp.ack)) =
      some (.success, halves, 1001) := by decide +kernel
  have session : (browsed halves).map
      (fun ended => (ended.2.tcp.remoteIp, ended.2.tcp.remotePort, ended.2.tcp.localPort)) =
      some (ofLe32 10 0 0 7, 0x50#16, httpPort) := by decide +kernel
  obtain ⟨⟨st, targetIp, resolved⟩, resolves, rfl⟩ := Option.map_eq_some_iff.mp resolves
  obtain ⟨⟨st, connected⟩, ended, values⟩ := Option.map_eq_some_iff.mp connects
  rw [ended] at session
  obtain ⟨rfl, rest⟩ := Prod.mk.inj values
  obtain ⟨receive, ack⟩ := Prod.mk.inj rest
  obtain ⟨remoteIp, rest⟩ := Prod.mk.inj (Option.some.inj session)
  obtain ⟨remotePort, localPort⟩ := Prod.mk.inj rest
  rw [browsed, resolves] at ended
  obtain ⟨before, -, sends, tcp, left, -⟩ := NetStack.httpGet_connected ⟨targetIp, resolved, resolves, ended⟩ rootPath
  have of : OfServer before.tcp := by
    rw [tcp]
    exact ⟨remoteIp, remotePort, localPort⟩
  have next : before.tcp.ack = 1001 := by
    rw [tcp]
    exact ack
  exact ⟨
    { before
      reached := ⟨targetIp, resolved, connected, resolves, ended, sends⟩
      answers := halves
      rest := []
      receive := by rw [left, receive, List.append_nil]
      segments := [[0x48, 0x49], [0x4A, 0x4B], []]
      serves := next ▸ halves_serve of
      timely := by decide }, rfl⟩

end Scenario

namespace Served
open Scenario

/-- Of a response in two halves only the first half is returned. -/
theorem second_half_lost : ¬∀ (hostname path : CString) (s : NetStack) (server : Served hostname path s)
    (buffer : Memory) (maxLen actualLen : UINTN), server.Whole buffer maxLen actualLen := by
  intro whole
  obtain ⟨server, segments⟩ := halves_served
  obtain ⟨-, fits⟩ := (server.whole_iff (fun _ => 0) 64 0).mp (whole _ _ _ server _ _ _)
  rw [response, first, segments] at fits
  exact absurd fits (by decide)

end Served
end UefiNetstack
