import UefiNetstack.Dns.Authentic
import UefiNetstack.Session.Received
import UefiNetstack.Session.Sender

namespace UefiNetstack
open Words Memory Constants NetStack

/-- The text of a request. -/
def httpText (hostname path : CString) : Bytes := (httpParts hostname path).flatten

theorem httpText_length (hostname path : CString) :
    (httpText hostname path).length = 44 + path.chars.length + hostname.chars.length := by
  have get : (asciiBytes "GET ").length = 4 := by decide
  have host : (asciiBytes " HTTP/1.1\r\nHost: ").length = 17 := by decide
  have close : (asciiBytes "\r\nConnection: close\r\n\r\n").length = 23 := by decide
  simp only [httpText, httpParts, List.flatten_cons, List.flatten_nil, List.length_append, List.length_nil, get, host,
    close]
  omega

theorem take_append_take {α : Type} (limit : Nat) (front rest : List α) :
    (front.take limit ++ rest).take limit = (front ++ rest).take limit := by
  rcases Nat.le_total front.length limit with fits | full
  · rw [List.take_of_length_le fits]
  · have length : (front.take limit).length = limit := List.length_take_of_le full
    rw [List.take_append_of_le_length (by rw [length]), List.take_take, Nat.min_self, List.take_append_of_le_length full]

/-- Parts that are appended as far as there is room are the start of all parts. -/
theorem foldl_append_take {α : Type} (limit : Nat) (parts : List (List α)) (front : List α)
    (room : front.length ≤ limit) :
    parts.foldl (fun text part => text ++ part.take (limit - text.length)) front =
      (front ++ parts.flatten).take limit := by
  induction parts generalizing front with
  | nil => rw [List.foldl_nil, List.flatten_nil, List.append_nil, List.take_of_length_le room]
  | cons part parts ih =>
      have step : front ++ part.take (limit - front.length) = (front ++ part).take limit := by
        rw [List.take_append, List.take_of_length_le room]
      rw [List.foldl_cons, step, ih _ (List.length_take_le _ _), take_append_take, List.flatten_cons, List.append_assoc]

/-- The request is the text as far as the buffer holds it. -/
theorem httpRequest_eq (hostname path : CString) :
    httpRequest hostname path = (httpText hostname path).take (httpReqSize - 1) := by
  rw [httpRequest, foldl_append_take _ _ _ (Nat.zero_le _), List.nil_append, httpText]

theorem httpRequest_length (hostname path : CString) : (httpRequest hostname path).length ≤ 511 := by
  rw [httpRequest_eq]
  exact List.length_take_le _ _

theorem httpRequest_whole_iff (hostname path : CString) :
    httpRequest hostname path = httpText hostname path ↔ path.chars.length + hostname.chars.length ≤ 467 := by
  have limit : httpReqSize - 1 = 511 := rfl
  rw [httpRequest_eq, List.take_eq_self_iff, httpText_length, limit]
  omega

namespace NetStack

variable {hostname path : CString} {allowed : Bytes → Prop} {done : NetStack → Bool} {s s' connected : NetStack}

/-- The resolver and the connect step of an `http_get` succeed. -/
def GetConnects (hostname : CString) (s connected : NetStack) : Prop :=
  ∃ targetIp resolved, Api.resolveHostname hostname 0#32 s = some (.success, targetIp, resolved) ∧
    Api.tcpConnect targetIp 0x50#16 resolved = some (.success, connected)

theorem GetConnects.established (connects : GetConnects hostname s connected) : connected.tcp.state = .established := by
  obtain ⟨targetIp, resolved, -, connects⟩ := connects
  obtain ⟨ended, -, result⟩ := Option.bind_eq_some_iff.mp connects
  obtain ⟨status, rfl⟩ := Prod.mk.inj (Option.some.inj result)
  by_contra waiting
  rw [if_neg waiting] at status
  cases status

/-- A send on an established connection hands one segment to Transmit. -/
theorem tcpSend_established {data : Bytes} (established : s.tcp.state = .established) (fits : data.length ≤ 1446) :
    ∃ (before : NetStack) (frame : Bytes), Api.tcpSend data s = some (.success, before) ∧
      before.tcp = { s.tcp with seq := s.tcp.seq + BitVec.ofNat 32 data.length } ∧
      before.snp.receive = s.snp.receive ∧ before.sent = s.sent ++ [frame] ∧ IsTcpFrame frame ∧
      FrameHas tcpFlagPsh frame ∧ Sending.framePayload frame = data := by
  obtain ⟨frame, sent, bytes⟩ := s.sendTcpInternal_eq tcpFlagPshAck s.tcp.seq s.tcp.ack data fits
  have numbers := s.getU32.2.tcpFrame_numbers tcpFlagPshAck s.tcp.seq s.tcp.ack data s.getU32.1
  have flags := s.getU32.2.tcpFrame_flags tcpFlagPshAck s.tcp.seq s.tcp.ack data s.getU32.1
  have payload := Sending.tcpFrame_payload s.getU32.2 tcpFlagPshAck s.tcp.seq s.tcp.ack data s.getU32.1
  rw [← bytes] at numbers flags payload
  let out := s.getU32.2.sendFrame frame
  let before : NetStack := { out with tcp := { out.tcp with seq := out.tcp.seq + BitVec.ofNat 32 data.length } }
  have psh : FrameHas tcpFlagPsh frame.bytes := by
    rw [frameHas_iff flags.1]
    decide
  refine ⟨before, frame.bytes, ?_, rfl, sendFrame_receive frame s.getU32.2, sendFrame_sent frame s.getU32.2, numbers.1,
    psh, payload⟩
  rw [Api.tcpSend, if_neg (not_not.mpr established), sent]
  rfl

/-- Behind a successful connect step a call sends its request, receives and closes. -/
theorem httpGet_connected (connects : GetConnects hostname s connected) (path : CString) :
    ∃ (before : NetStack) (frame : Bytes),
      Api.tcpSend (httpRequest hostname path) connected = some (.success, before) ∧
      before.tcp = { connected.tcp with
        seq := connected.tcp.seq + BitVec.ofNat 32 (httpRequest hostname path).length } ∧
      before.snp.receive = connected.snp.receive ∧ before.sent = connected.sent ++ [frame] ∧ IsTcpFrame frame ∧
      FrameHas tcpFlagPsh frame ∧ Sending.framePayload frame = httpRequest hostname path ∧
      ∀ (buffer : Memory) (maxLen actualLen : UINTN), Api.httpGet hostname path buffer maxLen actualLen s =
        (Api.tcpReceive buffer maxLen 0x1388#32 before).bind fun received =>
          (Api.tcpClose received.stack).bind fun closed => some { received with stack := closed.2 } := by
  have short : (httpRequest hostname path).length ≤ 1446 := (httpRequest_length hostname path).trans (by decide)
  obtain ⟨before, frame, sends, tcp, receive, sent, isTcp, psh, payload⟩ := tcpSend_established connects.established short
  refine ⟨before, frame, sends, tcp, receive, sent, isTcp, psh, payload, fun buffer maxLen actualLen => ?_⟩
  obtain ⟨targetIp, resolved, resolves, connects⟩ := connects
  have noError : EfiStatus.success.isError = false := rfl
  unfold Api.httpGet
  simp only [resolves, connects, sends, noError, Option.bind_eq_bind, Option.bind_some, Bool.false_eq_true, if_false]

/-- A call that does not connect returns the error of its resolver or of its connect step. -/
theorem httpGet_unconnected {buffer : Memory} {maxLen actualLen : UINTN} {received : Received}
    (unconnected : ∀ connected, ¬GetConnects hostname s connected)
    (returned : Api.httpGet hostname path buffer maxLen actualLen s = some received) :
    received.status.isError ∧ ∃ st targetIp resolved,
      Api.resolveHostname hostname 0#32 s = some (st, targetIp, resolved) ∧
      (received.stack = resolved ∨ ∃ st, Api.tcpConnect targetIp 0x50#16 resolved = some (st, received.stack)) := by
  unfold Api.httpGet at returned
  obtain ⟨⟨st, targetIp, resolved⟩, resolves, returned⟩ := Option.bind_eq_some_iff.mp returned
  dsimp only at returned
  split at returned
  · rename_i failed
    obtain rfl := Option.some.inj returned
    exact ⟨failed, st, targetIp, resolved, resolves, Or.inl rfl⟩
  · rename_i noError
    obtain rfl := Api.resolveHostname_noWarning resolves noError
    obtain ⟨⟨st, ended⟩, connects, returned⟩ := Option.bind_eq_some_iff.mp returned
    dsimp only at returned
    split at returned
    · rename_i failed
      obtain rfl := Option.some.inj returned
      exact ⟨failed, .success, targetIp, resolved, resolves, Or.inr ⟨st, connects⟩⟩
    · rename_i noError
      obtain rfl := Api.tcpConnect_noWarning connects noError
      exact absurd ⟨targetIp, resolved, resolves, connects⟩ (unconnected ended)

/-- A segment without PSH is no request. -/
def NoRequest (frame : Bytes) : Prop := ¬FrameHas tcpFlagPsh frame

/-- A request carries a text. -/
def RequestOf (text frame : Bytes) : Prop := FrameHas tcpFlagPsh frame → Sending.framePayload frame = text

theorem Sends.requestOf (sends : Sends NoRequest s s') (text : Bytes) : Sends (RequestOf text) s s' :=
  sends.mono fun _ absent present => absurd present absent

theorem sendTcpControl_noRequest {flags : UINT8}
    (control : (flags.setWidth 16 &&& 0x3F#16) &&& tcpFlagPsh.setWidth 16 = 0#16)
    (sent : s.sendTcpControl flags = some s') : Sends NoRequest s s' :=
  (sendTcpControl_sends sent).2.mono fun _ segment psh => (frameHas_iff segment.1).mp psh control

/-- A poll answers with an ACK or a FIN+ACK. -/
theorem poll_noRequest (polled : s.poll = some s') : Sends NoRequest s s' := by
  rcases poll_answers polled with ⟨-, quiet⟩ | ⟨input, tcpAt, t, -, -, -, sends⟩
  · exact quiet.sends
  · refine sends.mono fun frame answers => ?_
    rcases answers with flags | ⟨-, flags⟩
    all_goals
      rw [NoRequest, FrameHas, flags]
      decide

theorem stall_sends (s : NetStack) (micros : Nat) : Sends allowed s (s.stall micros) := (s.log_tcpQuiet rfl rfl).sends

theorem waitLoop_noRequest {micros loops : Nat} (ended : waitLoop done micros loops s = some s') : Sends NoRequest s s' :=
  waitLoop_keeps (P := Sends NoRequest s) (fun _ _ sends _ polled => sends.trans (poll_noRequest polled))
    (fun _ sends => sends.trans (stall_sends _ _)) (Sends.of_same rfl) ended

theorem requestLoop_noRequest {request : NetStack → Option NetStack} {loops timeout : Nat}
    (requests : ∀ s s', done s = false → request s = some s' → Sends NoRequest s s' ∧ done s' = false)
    (ended : requestLoop done request loops timeout s = some s') : Sends NoRequest s s' := by
  refine requestLoop_keeps (P := Sends NoRequest s) ?_ ?_ ?_ (Sends.of_same rfl) ended
  · intro asking asked sends open_ sent
    obtain ⟨more, still⟩ := requests asking asked open_ sent
    exact ⟨sends.trans more, still⟩
  · exact fun _ _ sends _ polled => sends.trans (poll_noRequest polled)
  · exact fun _ sends => sends.trans (stall_sends _ _)

theorem resolveHostname_noRequest {outIp address : UINT32} {st : EfiStatus}
    (resolves : Api.resolveHostname hostname outIp s = some (st, address, s')) : Sends NoRequest s s' := by
  obtain ⟨ended, loop, result⟩ := Option.bind_eq_some_iff.mp resolves
  have same : ended = s' := by
    split at result
    · exact (Prod.mk.inj (Prod.mk.inj (Option.some.inj result)).2).2
    · exact (Prod.mk.inj (Prod.mk.inj (Option.some.inj result)).2).2
  subst same
  have start : Sends NoRequest s s.resolveStart := Sends.of_same rfl
  refine start.trans (requestLoop_noRequest ?_ loop)
  intro asking asked open_ sent
  obtain ⟨frame, -, same⟩ := dnsQuery_cases sent
  refine ⟨dnsQuery_sends sent, ?_⟩
  rw [same]
  exact open_

theorem tcpConnect_noRequest {ip : UINT32} {port : UINT16} {st : EfiStatus}
    (connects : Api.tcpConnect ip port s = some (st, s')) : Sends NoRequest s s' := by
  obtain ⟨ended, loop, result⟩ := Option.bind_eq_some_iff.mp connects
  obtain ⟨-, rfl⟩ := Prod.mk.inj (Option.some.inj result)
  have start : Sends NoRequest s (s.tcpOpen ip port) := Sends.of_same rfl
  refine start.trans (requestLoop_noRequest ?_ loop)
  intro asking asked open_ sent
  refine ⟨sendTcpControl_noRequest (by decide) sent, ?_⟩
  rw [(sendTcpControl_sends sent).1]
  exact open_

theorem tcpReceive_noRequest {buffer : Memory} {maxLen : UINTN} {timeoutMs : UINT32} {received : Received}
    (receives : Api.tcpReceive buffer maxLen timeoutMs s = some received) : Sends NoRequest s received.stack := by
  obtain ⟨ended, loop, result⟩ := Option.bind_eq_some_iff.mp receives
  obtain rfl := Option.some.inj result
  have start : Sends NoRequest s (s.tcpReceiveStart buffer maxLen) := Sends.of_same rfl
  have finish : Sends NoRequest ended ended.tcpReceiveEnd := Sends.of_same rfl
  exact (start.trans (waitLoop_noRequest loop)).trans finish

theorem tcpClose_noRequest {st : EfiStatus} (closes : Api.tcpClose s = some (st, s')) : Sends NoRequest s s' := by
  obtain ⟨drained, drains, result⟩ := Option.bind_eq_some_iff.mp closes
  obtain ⟨-, rfl⟩ := Prod.mk.inj (Option.some.inj result)
  have finish : Sends NoRequest drained drained.tcpCloseEnd := Sends.of_same rfl
  refine Sends.trans ?_ finish
  unfold tcpDrain at drains
  split at drains
  · obtain ⟨started, starts, loop⟩ := Option.bind_eq_some_iff.mp drains
    obtain ⟨out, sent, same⟩ : ∃ out, s.sendTcpControl tcpFlagFinAck = some out ∧
        some { out with tcp := { out.tcp with state := .finWait } } = some started := Option.bind_eq_some_iff.mp starts
    obtain rfl := Option.some.inj same
    have waiting : Sends NoRequest out { out with tcp := { out.tcp with state := .finWait } } := Sends.of_same rfl
    exact ((sendTcpControl_noRequest (by decide) sent).trans waiting).trans (waitLoop_noRequest loop)
  · obtain rfl := Option.some.inj drains
    exact Sends.of_same rfl

theorem GetConnects.noRequest (connects : GetConnects hostname s connected) : Sends NoRequest s connected := by
  obtain ⟨targetIp, resolved, resolves, connects⟩ := connects
  exact (resolveHostname_noRequest resolves).trans (tcpConnect_noRequest connects)

/-- The requests of an `http_get` carry its whole text, and a text that does not fit the buffer is an error without a
request. -/
structure RequestWhole (hostname path : CString) (s : NetStack) : Prop where
  transmitted : ∀ before, GetReceives hostname path s before → Sends (RequestOf (httpText hostname path)) s before
  returned : ∀ buffer maxLen actualLen received, Api.httpGet hostname path buffer maxLen actualLen s = some received →
    Sends (RequestOf (httpText hostname path)) s received.stack
  refused : ¬(httpText hostname path).length ≤ httpReqSize - 1 → ∀ buffer maxLen actualLen received,
    Api.httpGet hostname path buffer maxLen actualLen s = some received →
      received.status.isError ∧ Sends NoRequest s received.stack

/-- A call that does not connect sends no request and returns an error. -/
theorem requestWhole_unconnected (unconnected : ∀ connected, ¬GetConnects hostname s connected) :
    RequestWhole hostname path s := by
  have silent {buffer : Memory} {maxLen actualLen : UINTN} {received : Received}
      (returned : Api.httpGet hostname path buffer maxLen actualLen s = some received) :
      received.status.isError ∧ Sends NoRequest s received.stack := by
    obtain ⟨error, st, targetIp, resolved, resolves, ends⟩ := httpGet_unconnected unconnected returned
    refine ⟨error, ?_⟩
    rcases ends with rfl | ⟨st, connects⟩
    · exact resolveHostname_noRequest resolves
    · exact (resolveHostname_noRequest resolves).trans (tcpConnect_noRequest connects)
  refine ⟨?_, fun _ _ _ _ returned => (silent returned).2.requestOf _, fun _ _ _ _ _ returned => silent returned⟩
  rintro before ⟨targetIp, resolved, connected, resolves, connects, -⟩
  exact absurd ⟨targetIp, resolved, resolves, connects⟩ (unconnected connected)

/-- A call whose text fits sends it whole. -/
theorem requestWhole_fits (fits : path.chars.length + hostname.chars.length ≤ 467) : RequestWhole hostname path s := by
  have whole := (httpRequest_whole_iff hostname path).mpr fits
  by_cases connects : ∃ connected, GetConnects hostname s connected
  · obtain ⟨connected, connects⟩ := connects
    obtain ⟨before, frame, sends, -, -, sent, -, -, payload, get⟩ := httpGet_connected connects path
    have request : Sends (RequestOf (httpText hostname path)) s before := by
      refine (connects.noRequest.requestOf _).trans ⟨[frame], sent, ?_⟩
      intro other member _ _
      rw [List.mem_singleton.mp member, payload, whole]
    refine ⟨?_, ?_, ?_⟩
    · rintro other ⟨targetIp, resolved, connected', resolves', connects', sends'⟩
      obtain ⟨ip, resolved', resolves, connects⟩ := connects
      obtain ⟨-, ends⟩ := Prod.mk.inj (Option.some.inj (resolves.symm.trans resolves'))
      obtain ⟨rfl, rfl⟩ := Prod.mk.inj ends
      obtain ⟨-, rfl⟩ := Prod.mk.inj (Option.some.inj (connects.symm.trans connects'))
      obtain ⟨-, rfl⟩ := Prod.mk.inj (Option.some.inj (sends.symm.trans sends'))
      exact request
    · intro buffer maxLen actualLen received returned
      rw [get] at returned
      obtain ⟨inner, receives, returned⟩ := Option.bind_eq_some_iff.mp returned
      obtain ⟨⟨st, closed⟩, closes, result⟩ := Option.bind_eq_some_iff.mp returned
      obtain rfl := Option.some.inj result
      exact (request.trans ((tcpReceive_noRequest receives).requestOf _)).trans ((tcpClose_noRequest closes).requestOf _)
    · intro long
      rw [httpText_length] at long
      exact absurd (show 44 + path.chars.length + hostname.chars.length ≤ 511 by omega) long
  · exact requestWhole_unconnected fun connected connects' => connects ⟨connected, connects'⟩

/-- The request of an `http_get` is whole exactly when its text fits the buffer or the call does not connect. -/
theorem request_whole_iff (hostname path : CString) (s : NetStack) : RequestWhole hostname path s ↔
    path.chars.length + hostname.chars.length ≤ 467 ∨ ∀ connected, ¬GetConnects hostname s connected := by
  constructor
  · intro whole
    by_contra fails
    obtain ⟨long, connects⟩ := not_or.mp fails
    obtain ⟨connected, connects⟩ := not_forall_not.mp connects
    obtain ⟨before, frame, sends, -, -, sent, isTcp, psh, payload, -⟩ := httpGet_connected connects path
    obtain ⟨early, sent', -⟩ := connects.noRequest
    obtain ⟨targetIp, resolved, resolves, connects⟩ := connects
    obtain ⟨frames, all, meets⟩ := whole.transmitted before ⟨targetIp, resolved, connected, resolves, connects, sends⟩
    have member : frame ∈ frames := by
      rw [sent, sent', List.append_assoc] at all
      rw [← List.append_cancel_left all]
      simp
    exact long ((httpRequest_whole_iff hostname path).mp (payload.symm.trans (meets frame member isTcp psh)))
  · rintro (fits | unconnected)
    · exact requestWhole_fits fits
    · exact requestWhole_unconnected unconnected

end NetStack

namespace Scenario

/-- The port that `tcp_connect` draws behind one lookup. -/
def httpPort : UINT16 := 52839

/-- A segment of the server of the scenario. -/
def httpSegment (flags : UINT8) (seq : UINT32) (data : Bytes) (fits : data.length ≤ 1460) : SegmentFrame :=
  let f := segmentFrom (ofLe32 10 0 0 7) 80 flags seq 0 data fits
  { f with tcp := { f.tcp with dest := htons httpPort }, doff := f.doff }

def httpSynAck : RxFrame := { bytes := (httpSegment tcpFlagSynAck 1000 [] noData_fits).bytes, fits := by decide }

/-- A stack that will receive the address of the server, its SYN+ACK and then other answers. -/
def browsing (receive : List Receive) : NetStack :=
  lookingUp (.frame (responseFrame gatewayIp) :: .frame httpSynAck :: receive)

/-- The stack behind the connect step. -/
def browsed (receive : List Receive) : Option (EfiStatus × NetStack) := do
  let (_, targetIp, s) ← Api.resolveHostname hostname 0#32 (browsing receive)
  Api.tcpConnect targetIp 0x50#16 s

/-- A path of 465 letters. -/
def longPath : CString where
  chars := List.replicate 465 0x61
  noNul := fun member => absurd (List.eq_of_mem_replicate member) (by decide)

end Scenario

namespace NetStack
open Scenario

theorem browsing_connects : ∃ connected, GetConnects Scenario.hostname (browsing []) connected := by
  have resolves : ((Api.resolveHostname Scenario.hostname 0#32 (browsing [])).map fun ended => ended.1) =
      some .success := by
    decide +kernel
  have connects : (browsed []).map (fun ended => ended.1) = some .success := by decide +kernel
  obtain ⟨⟨st, targetIp, resolved⟩, resolves, rfl⟩ := Option.map_eq_some_iff.mp resolves
  obtain ⟨⟨st, connected⟩, connects, rfl⟩ := Option.map_eq_some_iff.mp connects
  rw [browsed, resolves] at connects
  exact ⟨connected, targetIp, resolved, resolves, connects⟩

/-- A path of 465 letters on a host of three cuts the request. -/
theorem long_path_cut : ¬∀ (hostname path : CString) (s : NetStack), RequestWhole hostname path s := by
  intro whole
  rcases (request_whole_iff Scenario.hostname longPath (browsing [])).mp (whole _ _ _) with fits | unconnected
  · have length : longPath.chars.length = 465 := List.length_replicate
    rw [length] at fits
    exact absurd fits (by decide)
  · obtain ⟨connected, connects⟩ := browsing_connects
    exact unconnected connected connects

end NetStack
end UefiNetstack
