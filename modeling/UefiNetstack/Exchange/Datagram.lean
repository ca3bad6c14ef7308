import UefiNetstack.Exchange.Delivery
import UefiNetstack.Buffers.Copies
import UefiNetstack.Session.Initialization

namespace UefiNetstack
open Words Memory Constants

namespace NetStack

variable {s s' : NetStack} {frame : RxFrame}

/-- A datagram behind headers without options reaches the handler, and its payload lies behind its
header. -/
theorem poll_udp {eth : EthHdr} {ip : IpHdr} {udp : UdpHdr} {data : Bytes}
    (bytes : frame.bytes = eth.bytes ++ ip.bytes ++ (udp.bytes ++ data)) (type : eth.type = htons ethertypeIpv4)
    (ihl : ip.ihlVersion = ipVersionIhlDefault) (protocol : ip.protocol = ipProtoUdp)
    (delivered : s.nextReceive = .frame frame) :
    s.poll = (((s.received.landed frame).receiveUser udp 34).bind fun s => s.receiveDns udp 34) ∧
      BytesAt (s.received.landed frame).rxPkt.byte 42 data := by
  have stored := landed_bytesAt s.received frame
  simp only [bytes, bytesAt_append_iff, List.length_append, EthHdr.bytes_length, IpHdr.bytes_length,
    UdpHdr.bytes_length, Nat.zero_add] at stored
  obtain ⟨⟨ethAt, ipAt⟩, udpAt, payload⟩ := stored
  have hlen : sizeofEthHdr + (ipHlen ip).toNat = 34 := by
    unfold ipHlen
    rw [ihl]
    decide
  refine ⟨?_, payload⟩
  rw [poll_frame delivered, dispatch_toUdp ((EthHdr.read_stored ethAt).symm ▸ type) (IpHdr.read_stored ipAt) protocol, hlen,
    handleUdp, UdpHdr.read_stored udpAt]
  rfl

/-- A datagram from another port than 53 does not reach the resolver. -/
theorem receiveDns_other {udp : UdpHdr} {udpAt : Nat} (source : ntohs udp.source ≠ udpPortDns) :
    s.receiveDns udp udpAt = some s :=
  if_neg fun wanted => source wanted.2.2

/-- A datagram for another port does not reach the user. -/
theorem receiveUser_other {udp : UdpHdr} {udpAt : Nat} (dest : ntohs udp.dest ≠ s.udp.localPort) :
    s.receiveUser udp udpAt = some s :=
  if_neg fun wanted => dest wanted.1

/-- What a pending receive has after a datagram. -/
def udpFilled (udp : UdpReceiver) (buffer : Memory) (data : Bytes) : UdpReceiver :=
  { udp with
    rxBuffer := some (buffer.write 0 (data.take udp.rxMaxLen.toNat))
    rxCurrentLen := BitVec.ofNat 64 (min data.length udp.rxMaxLen.toNat)
    rxDone := true }

theorem udpFilled_len (udp : UdpReceiver) (buffer : Memory) (data : Bytes) :
    (udpFilled udp buffer data).rxCurrentLen.toNat = min data.length udp.rxMaxLen.toNat := by
  have bound := udp.rxMaxLen.isLt
  change (BitVec.ofNat 64 (min data.length udp.rxMaxLen.toNat)).toNat = _
  rw [BitVec.toNat_ofNat]
  omega

/-- The counted part of the buffer is the start of the payload. -/
theorem udpFilled_contents (udp : UdpReceiver) (buffer other : Memory) (data : Bytes) :
    ((udpFilled udp buffer data).rxBuffer.getD other).slice 0 (udpFilled udp buffer data).rxCurrentLen.toNat =
      data.take (udpFilled udp buffer data).rxCurrentLen.toNat := by
  have written := bytesAt_iff_slice.mp (write_bytesAt buffer 0 (data.take udp.rxMaxLen.toNat))
  rw [List.length_take, Nat.min_comm] at written
  rw [udpFilled_len, Nat.min_comm data.length, ← List.take_take, List.take_length, Nat.min_comm]
  exact written

/-- The length field counts the header. -/
theorem udpPayloadLen_toNat {udp : UdpHdr} {data : Bytes}
    (len : ntohs udp.len = BitVec.ofNat 16 (sizeofUdpHdr + data.length)) (fits : data.length ≤ 1458) :
    ((ntohs udp.len).setWidth 64 - BitVec.ofNat 64 sizeofUdpHdr).toNat = data.length := by
  rw [len, sizeofUdpHdr, BitVec.toNat_sub, BitVec.toNat_setWidth]
  simp only [BitVec.toNat_ofNat]
  omega

/-- A pending receive gets the payload of a datagram for the local port, cut to the size of the buffer. -/
theorem receiveUser_fills {udp : UdpHdr} {udpAt : Nat} {data : Bytes} {buffer : Memory}
    (dest : ntohs udp.dest = s.udp.localPort) (bound : s.udp.localPort ≠ 0#16)
    (len : ntohs udp.len = BitVec.ofNat 16 (sizeofUdpHdr + data.length)) (nonempty : 0 < data.length)
    (fits : data.length ≤ 1458) (pending : s.udp.rxBuffer = some buffer)
    (stored : BytesAt s.rxPkt.byte (udpAt + sizeofUdpHdr) data)
    (inside : udpAt + sizeofUdpHdr + data.length ≤ s.rxPkt.limit) :
    ∃ s', s.receiveUser udp udpAt = some s' ∧ s'.udp = udpFilled s.udp buffer data := by
  have payloadLen := udpPayloadLen_toNat len fits
  rw [receiveUser, if_pos ⟨dest, bound⟩, udpDeliver, pending]
  dsimp only
  generalize (ntohs udp.len).setWidth 64 - BitVec.ofNat 64 sizeofUdpHdr = sent at payloadLen
  have cut := cut_toNat sent s.udp.rxMaxLen
  have positive : sent > 0#64 := by
    rw [gt_iff_lt, BitVec.lt_def, payloadLen]
    exact nonempty
  rw [if_pos positive]
  generalize (if sent > s.udp.rxMaxLen then s.udp.rxMaxLen else sent) = copyLen at cut
  rw [payloadLen] at cut
  have head : BytesAt s.rxPkt.byte (udpAt + sizeofUdpHdr) (data.take s.udp.rxMaxLen.toNat) := by
    rw [← List.take_append_drop s.udp.rxMaxLen.toNat data] at stored
    exact bytesAt_append_left stored
  have length : copyLen.toNat = (data.take s.udp.rxMaxLen.toNat).length := by
    rw [cut, List.length_take, Nat.min_comm]
  obtain ⟨copied, copy⟩ := s.rxPkt.copy_mapped (show udpAt + sizeofUdpHdr + copyLen.toNat ≤ s.rxPkt.limit by omega)
  have content : copied.val = data.take s.udp.rxMaxLen.toNat := by
    rw [MappedMemory.copy_val copy, length]
    exact bytesAt_iff_slice.mp head
  rw [copy]
  refine ⟨_, rfl, ?_⟩
  rw [udpFilled, ← content, ← cut, BitVec.ofNat_toNat, BitVec.setWidth_eq]
  rfl

/-- A bound sender does not send from the DNS port, unless it was bound to it before. -/
theorem udpBind_not_dns (notDns : s.udp.localPort ≠ udpPortDns) : s.udpBind.udp.localPort ≠ udpPortDns := by
  unfold udpBind
  split
  · intro same
    have lower := s.getEphemeralPort_ge
    have port : s.getEphemeralPort.1 = udpPortDns := same
    rw [port] at lower
    exact absurd lower (by decide)
  · exact notDns

/-- The stack from which `udp_send` builds its frame. -/
def udpPrepared (s : NetStack) : NetStack := s.udpBind.getU32.2

theorem udpPrepared_sent (s : NetStack) : s.udpPrepared.sent = s.sent := by
  unfold udpPrepared udpBind
  split
  all_goals rfl

/-- A payload that fits is sent in one frame. -/
theorem udpSend_emits (s : NetStack) (destIp : UINT32) (destPort : UINT16) {data : Bytes} (fits : data.length ≤ 1458) :
    ∃ (s' : NetStack) (frame : RxFrame), Api.udpSend destIp destPort data s = some (.success, s') ∧
      s'.sent = s.sent ++ [frame.bytes] ∧
      frame.bytes = s.udpPrepared.udpFrame destIp destPort s.udpBind.udp.localPort data s.udpBind.getU32.1 := by
  obtain ⟨frame, sent, bytes⟩ := s.udpBind.sendUdp_eq destIp destPort s.udpBind.udp.localPort data fits
  refine ⟨s.udpPrepared.sendFrame frame, frame.delivered, ?_, ?_, bytes⟩
  · rw [Api.udpSend, sent]
    rfl
  · rw [sendFrame_sent, udpPrepared_sent]
    rfl

/-- A sent datagram that another stack polls reaches its user by the destination port, and the resolver not
at all. -/
theorem poll_sent (a : NetStack) {destIp : UINT32} {destPort : UINT16} {data : Bytes}
    (notDns : a.udp.localPort ≠ udpPortDns)
    (bytes : frame.bytes = a.udpPrepared.udpFrame destIp destPort a.udpBind.udp.localPort data a.udpBind.getU32.1)
    (delivered : s.nextReceive = .frame frame) :
    ∃ udp : UdpHdr, ntohs udp.dest = destPort ∧ ntohs udp.len = BitVec.ofNat 16 (sizeofUdpHdr + data.length) ∧
      s.poll = (s.received.landed frame).receiveUser udp 34 ∧ BytesAt (s.received.landed frame).rxPkt.byte 42 data := by
  obtain ⟨udp, content, source, dest, len⟩ := udpDatagram_header
    (a.udpPrepared.ipHeader ipProtoUdp (sizeofUdpHdr + data.length) a.udpBind.getU32.1 destIp) a.udpBind.udp.localPort
    destPort data
  have layout : frame.bytes = a.udpPrepared.unicastEth.bytes ++
      (a.udpPrepared.ipHeader ipProtoUdp (sizeofUdpHdr + data.length) a.udpBind.getU32.1 destIp).bytes ++
        (udp.bytes ++ data) := by
    rw [bytes, ← content]
    rfl
  obtain ⟨polled, payload⟩ := poll_udp layout rfl rfl rfl delivered
  refine ⟨udp, dest, len, ?_, payload⟩
  rw [polled]
  cases (s.received.landed frame).receiveUser udp 34 with
  | none => rfl
  | some user => exact receiveDns_other (source.symm ▸ udpBind_not_dns notDns)

theorem poll_udpPort (done : s.poll = some s') : s'.udp.localPort = s.udp.localPort := by
  cases poll_bufferStep done with
  | nothing nothing => rw [nothing.udp]
  | tcp _ _ _ _ _ udp _ => rw [udp]
  | udp _ _ _ _ stored _ _ => rw [stored]

/-- The port of the sends is unset or ephemeral. -/
def UdpPortChosen (s : NetStack) : Prop := s.udp.localPort = 0#16 ∨ ephemeralPortBase ≤ s.udp.localPort

theorem UdpPortChosen.congr (chosen : s.UdpPortChosen) (same : s'.udp.localPort = s.udp.localPort) :
    s'.UdpPortChosen := by
  rw [UdpPortChosen, same]
  exact chosen

theorem udpBind_chosen (chosen : s.UdpPortChosen) : s.udpBind.UdpPortChosen := by
  unfold udpBind
  split
  · exact Or.inr s.getEphemeralPort_ge
  · exact chosen

theorem GatewayAsked.udpPort {st : EfiStatus} (asked : GatewayAsked s s' st) :
    s'.udp.localPort = s.udp.localPort := by
  obtain ⟨prepared, prepares, ⟨-, rfl⟩ | ⟨resolved, -⟩⟩ := asked
  · rw [prepares.udp]
  · refine requestLoop_keeps (P := fun t => t.udp.localPort = s.udp.localPort) ?_ ?_ ?_ ?_ resolved
    · intro before after same waiting sent
      obtain rfl := Option.some.inj sent
      exact ⟨same, waiting⟩
    · intro before after same _ polled
      exact (poll_udpPort polled).trans same
    · intro before same
      exact same
    · exact congrArg UdpReceiver.localPort prepares.udp

/-- Every call but a send keeps the port of the sends. -/
theorem call_udpPort {call : Call} (done : call.run s = some s') (chosen : s.UdpPortChosen) : s'.UdpPortChosen := by
  cases call with
  | udpSend destIp destPort data =>
      obtain ⟨frame, -, rfl⟩ := sendUdp_cases (Call.udpSend_cases done)
      exact (udpBind_chosen chosen).congr rfl
  | syn =>
      have sent : s.sendTcpControl tcpFlagSyn = some s' := done
      exact chosen.congr (congrArg UdpReceiver.localPort (sendTcpInternal_copiesNothing sent).udp)
  | send data =>
      rcases Call.send_cases done with ⟨-, rfl⟩ | ⟨-, out, first, rfl⟩
      · exact chosen
      · exact chosen.congr (congrArg UdpReceiver.localPort (sendTcpInternal_copiesNothing first).udp)
  | closeStart =>
      obtain ⟨-, out, first, rfl⟩ := Call.closeStart_cases done
      exact chosen.congr (congrArg UdpReceiver.localPort (sendTcpInternal_copiesNothing first).udp)
  | query hostname =>
      obtain ⟨frame, -, rfl⟩ := dnsQuery_cases done
      exact chosen.congr rfl
  | stall | receiveStart | receiveEnd | closeEnd | udpReceiveStart | udpReceiveEnd | ping | resolve =>
      obtain rfl := Option.some.inj done
      exact chosen.congr rfl

/-- No reachable stack sends from the DNS port. -/
theorem reachable_udpPort (reachable : Reachable s) : s.udp.localPort ≠ udpPortDns := by
  have chosen : s.UdpPortChosen := by
    induction reachable with
    | initial rxPkt snp => exact Or.inl rfl
    | initNetwork _ called ih => exact ih.congr (initNetwork_asks called).udpPort
    | initNetworkStatic _ called ih => exact ih.congr (initNetworkStatic_asks called).udpPort
    | tcpOpen ip port _ ih => exact ih.congr rfl
    | @move move _ _ _ done ih =>
        cases move with
        | poll => exact ih.congr (poll_udpPort done)
        | call call => exact call_udpPort done ih
  intro dns
  rw [UdpPortChosen, dns] at chosen
  exact absurd chosen (by decide)

/-- What a waiting `udp_receive` keeps until it is done. -/
structure UdpWaits (port : UINT16) (maxLen : UINTN) (s : NetStack) : Prop where
  localPort : s.udp.localPort = port
  size : s.udp.rxMaxLen = maxLen
  held : s.udp.rxBuffer ≠ none

theorem udpWaits_poll {port : UINT16} {maxLen : UINTN} (waits : UdpWaits port maxLen s) (done : s.poll = some s') :
    UdpWaits port maxLen s' := by
  refine ⟨(poll_udpPort done).trans waits.localPort, ?_, ?_⟩
  all_goals cases poll_bufferStep done with
    | nothing nothing => rw [nothing.udp]; first | exact waits.size | exact waits.held
    | tcp _ _ _ _ _ udp _ => rw [udp]; first | exact waits.size | exact waits.held
    | udp _ _ _ _ stored _ _ => rw [stored]; first | exact waits.size | exact Option.some_ne_none _

/-- The frame of a send of 1 to 1458 bytes completes a `udp_receive` on the destination port that polls it: the
call returns the payload cut to the size of its buffer. A stack that is bound to another port, or to none,
keeps its receive state. -/
theorem udp_exchange (a : NetStack) (destIp : UINT32) (destPort : UINT16) (data : Bytes)
    (notDns : a.udp.localPort ≠ udpPortDns) (nonempty : 0 < data.length) (fits : data.length ≤ 1458)
    (bound : destPort ≠ 0#16) :
    ∃ (a' : NetStack) (frame : RxFrame), Api.udpSend destIp destPort data a = some (.success, a') ∧
      a'.sent = a.sent ++ [frame.bytes] ∧
      (∀ (b waiting : NetStack) (buffer : Memory) (maxLen : UINTN) (timeoutMs : UINT32) (rounds : Nat),
        b.udp.localPort = destPort → 0#64 < maxLen → rounds < maxLoops timeoutMs →
        waitLoop (fun s => s.udp.rxDone) stall100us rounds (b.udpReceiveStart buffer maxLen) = some waiting →
        waiting.udp.rxDone = false → waiting.nextReceive = .frame frame →
        ∃ received, Api.udpReceive buffer maxLen timeoutMs b = some received ∧ received.status = .success ∧
          received.actualLen.toNat = min data.length maxLen.toNat ∧
          received.buffer.slice 0 received.actualLen.toNat = data.take received.actualLen.toNat) ∧
      ∀ c : NetStack, c.nextReceive = .frame frame → c.udp.localPort ≠ destPort ∨ c.udp.localPort = 0#16 →
        ∃ c', c.poll = some c' ∧ c'.udp = c.udp := by
  obtain ⟨a', frame, sent, emitted, bytes⟩ := a.udpSend_emits destIp destPort fits
  refine ⟨a', frame, sent, emitted, ?_, ?_⟩
  · intro b waiting buffer maxLen timeoutMs rounds port room early wait open_ delivered
    obtain ⟨udp, dest, len, polled, payload⟩ := poll_sent a notDns bytes delivered
    have start : UdpWaits destPort maxLen (b.udpReceiveStart buffer maxLen) := ⟨port, rfl, Option.some_ne_none buffer⟩
    have waits : UdpWaits destPort maxLen waiting :=
      waitLoop_keeps (P := UdpWaits destPort maxLen) (fun _ _ waits _ poll => udpWaits_poll waits poll)
        (fun _ waits => ⟨waits.localPort, waits.size, waits.held⟩) start wait
    obtain ⟨held, pending⟩ := Option.ne_none_iff_exists'.mp waits.held
    have page := (waiting.received.landed frame).rxPkt.page
    obtain ⟨after, filled, state⟩ := receiveUser_fills (s := waiting.received.landed frame)
      (dest.trans waits.localPort.symm) (waits.localPort.symm ▸ bound) len nonempty fits pending payload
      (by simp only [pktBufSize] at page; simp only [sizeofUdpHdr]; omega)
    have rxDone : after.udp.rxDone = true := by rw [state]; rfl
    have loop : waitLoop (fun s => s.udp.rxDone) stall100us (maxLoops timeoutMs) (b.udpReceiveStart buffer maxLen) =
        some (after.stall stall100us) := waitLoop_completes early wait open_ (polled.trans filled) rxDone
    have actual := udpFilled_len waiting.udp held data
    rw [waits.size] at actual
    rw [Api.udpReceive, loop]
    refine ⟨_, rfl, if_pos ?_, ?_, ?_⟩
    · exact congrArg UdpReceiver.rxDone state
    · exact (congrArg (fun udp => udp.rxCurrentLen.toNat) state).trans actual
    · have contents := udpFilled_contents waiting.udp held buffer data
      rw [← show after.udp = udpFilled waiting.udp held data from state] at contents
      exact contents
  · intro c delivered other
    obtain ⟨udp, dest, -, polled, -⟩ := poll_sent a notDns bytes delivered
    have different : ntohs udp.dest ≠ c.udp.localPort := by
      rw [dest]
      rcases other with different | zero
      · exact different.symm
      · rw [zero]
        exact bound
    exact ⟨_, polled.trans (receiveUser_other different), rfl⟩

/-- Three bytes for a receive with room for two. -/
theorem udp_exchange_cut : ∃ (b : NetStack) (received : Received),
    Api.udpReceive (fun _ => 0) 2 1 b = some received ∧ received.status = .success ∧ received.actualLen.toNat = 2 := by
  obtain ⟨a', frame, -, -, receives, -⟩ := udp_exchange (.initial .zeros {}) Scenario.remoteIp 7 [1, 2, 3] (by decide)
    (by decide) (by decide) (by decide)
  let b : NetStack := { NetStack.initial .zeros { receive := [.frame frame] } with udp := { localPort := 7 } }
  obtain ⟨received, done, status, actualLen, -⟩ := receives b (b.udpReceiveStart (fun _ => 0) 2) (fun _ => 0) 2 1 0 rfl
    (by decide) (by decide) rfl rfl rfl
  exact ⟨b, received, done, status, actualLen⟩

end NetStack
end UefiNetstack
