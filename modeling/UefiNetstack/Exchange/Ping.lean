import UefiNetstack.Exchange.Delivery
import UefiNetstack.Frames.Emitted
import UefiNetstack.Api.Init

namespace UefiNetstack
open Words Memory Constants

/-- An echo differs from the message in its type and its checksum only. -/
structure EchoOf (message echo : Bytes) : Prop where
  length : echo.length = message.length
  type : echo[0]? = some icmpTypeEchoReply
  kept : ∀ index, index ≠ 0 → index ≠ 2 → index ≠ 3 → echo[index]? = message[index]?

namespace NetStack

variable {s s' : NetStack} {frame : RxFrame}

/-- The header of an echo. -/
def echoHeader (icmp : IcmpHdr) (data : Bytes) : IcmpHdr :=
  { icmp with
    type := icmpTypeEchoReply
    checksum := NetMath.checksum (IcmpHdr.bytes { icmp with type := icmpTypeEchoReply, checksum := 0 } ++ data) }

/-- The reply to a message with a whole header is a header with the same data. -/
theorem icmpReply_message (icmp : IcmpHdr) (data : Bytes) :
    icmpReply (icmp.bytes ++ data) = (echoHeader icmp data).bytes ++ data := by
  have parts (h : IcmpHdr) : h.bytes ++ data =
      h.type :: h.code :: h.checksum.setWidth 8 :: (h.checksum >>> 8).setWidth 8 :: (le16 h.id ++ le16 h.seq ++ data) := by
    simp [IcmpHdr.bytes, le16]
  rw [parts, icmpReply_cons, parts, echoHeader, parts]
  simp [le16]

theorem icmpReply_echoOf (icmp : IcmpHdr) (data : Bytes) :
    EchoOf (icmp.bytes ++ data) (icmpReply (icmp.bytes ++ data)) where
  length := icmpReply_length _
  type := by
    rw [icmpReply_message]
    rfl
  kept := by
    intro index notType low high
    rw [icmpReply_message]
    match index with
    | 0 => exact absurd rfl notType
    | 1 => rfl
    | 2 => exact absurd rfl low
    | 3 => exact absurd rfl high
    | index + 4 => rfl

/-- An ICMP message behind headers without options reaches the handler with its length. -/
theorem poll_icmp {eth : EthHdr} {ip : IpHdr} {icmp : IcmpHdr} {data : Bytes}
    (bytes : frame.bytes = eth.bytes ++ ip.bytes ++ (icmp.bytes ++ data)) (type : eth.type = htons ethertypeIpv4)
    (ihl : ip.ihlVersion = ipVersionIhlDefault) (protocol : ip.protocol = ipProtoIcmp)
    (delivered : s.nextReceive = .frame frame) :
    s.poll = (s.received.landed frame).handleIcmp ip 34 ((ntohs ip.totLen).setWidth 64 - 20#64) ∧
      IcmpHdr.read (s.received.landed frame).rxPkt.byte 34 = icmp ∧
      BytesAt (s.received.landed frame).rxPkt.byte 34 (icmp.bytes ++ data) := by
  have stored := landed_bytesAt s.received frame
  rw [bytes, bytesAt_append_iff, bytesAt_append_iff, List.length_append, EthHdr.bytes_length, IpHdr.bytes_length,
    Nat.zero_add, Nat.zero_add] at stored
  obtain ⟨⟨ethAt, ipAt⟩, message⟩ := stored
  have hlen : ipHlen ip = 20#64 := by
    unfold ipHlen
    rw [ihl]
    decide
  refine ⟨?_, IcmpHdr.read_stored (bytesAt_append_left message), message⟩
  rw [poll_frame delivered, dispatch_toIcmp ((EthHdr.read_stored ethAt).symm ▸ type) (IpHdr.read_stored ipAt) protocol, hlen]
  rfl

/-- An echo request of at most 1466 bytes is answered with its message. -/
theorem handleIcmp_echoes {ip : IpHdr} {icmp : IcmpHdr} {icmpAt : Nat} {len : UINTN} {message : Bytes}
    (read : IcmpHdr.read s.rxPkt.byte icmpAt = icmp) (type : icmp.type = icmpTypeEchoRequest)
    (code : icmp.code = icmpCodeZero) (stored : BytesAt s.rxPkt.byte icmpAt message) (whole : len.toNat = message.length)
    (fits : message.length ≤ 1466) (mapped : icmpAt + message.length ≤ s.rxPkt.limit) :
    ∃ frame : TxFrame, s.handleIcmp ip icmpAt len = some (s.getU32.2.sendFrame frame) ∧
      frame.bytes = s.getU32.2.icmpReplyFrame ip.saddr message s.getU32.1 := by
  obtain ⟨frame, replied, bytes⟩ := s.replyToPing_eq ip icmpAt len (whole ▸ fits) (whole ▸ mapped)
  refine ⟨frame, ?_, ?_⟩
  · rw [handleIcmp, read]
    exact (if_pos ⟨type, code⟩).trans replied
  · rw [bytes, whole, bytesAt_iff_slice.mp stored]

/-- An echo sets the flag exactly when it carries the id and the number of the pending request. -/
theorem handleIcmp_matches {ip : IpHdr} {icmp : IcmpHdr} {icmpAt : Nat} {len : UINTN}
    (read : IcmpHdr.read s.rxPkt.byte icmpAt = icmp) (type : icmp.type = icmpTypeEchoReply) :
    s.handleIcmp ip icmpAt len = some
      (if ntohs icmp.id = s.ping.id ∧ ntohs icmp.seq = s.ping.seq then
        { s with ping := { s.ping with replyReceived := true } }
      else s) := by
  have notRequest : ¬(icmp.type = icmpTypeEchoRequest ∧ icmp.code = icmpCodeZero) := by
    rintro ⟨request, -⟩
    rw [type] at request
    cases request
  rw [handleIcmp, read]
  dsimp only
  rw [if_neg notRequest, if_pos type]
  split
  all_goals rfl

/-- The frame that `send_icmp_echo` emits. -/
theorem sendIcmpEcho_frame (s : NetStack) (targetIp : UINT32) (id seq : UINT16) {bytes : Bytes}
    (emitted : (s.sendIcmpEcho targetIp id seq).sent = s.sent ++ [bytes]) :
    bytes = s.getU32.2.icmpEchoFrame targetIp id seq s.getU32.1 :=
  List.singleton_inj.mp (List.append_cancel_left (emitted.symm.trans (s.sendIcmpEcho_sent targetIp id seq)))

/-- The IP header of an echo request. -/
def echoRequestIp (s : NetStack) (targetIp random : UINT32) : IpHdr :=
  s.ipHeader ipProtoIcmp (sizeofIcmpHdr + icmpPattern.length) random targetIp

theorem icmpEchoFrame_parts (s : NetStack) (targetIp : UINT32) (id seq : UINT16) (random : UINT32) :
    s.icmpEchoFrame targetIp id seq random =
      s.unicastEth.bytes ++ (s.echoRequestIp targetIp random).bytes ++ ((icmpEchoHeader id seq).bytes ++ icmpPattern) :=
  List.append_assoc _ _ _

/-- The echo of a request as the answerer builds it. -/
theorem icmpReplyFrame_parts (s : NetStack) (saddr : UINT32) (icmp : IcmpHdr) (data : Bytes) (random : UINT32) :
    s.icmpReplyFrame saddr (icmp.bytes ++ data) random =
      s.unicastEth.bytes ++ (s.ipHeader ipProtoIcmp (icmp.bytes ++ data).length random saddr).bytes ++
        ((echoHeader icmp data).bytes ++ data) := by
  rw [icmpReplyFrame, icmpReply_message]

/-- The request of one stack makes the other answer with one well-formed frame to the asker's address
that echoes the message; and the answer completes a ping with the id and the number of the request, and no
other one. -/
theorem ping_exchange (a b : NetStack) {targetIp : UINT32} {id seq : UINT16} {request : RxFrame}
    (emitted : (a.sendIcmpEcho targetIp id seq).sent = a.sent ++ [request.bytes])
    (delivered : b.nextReceive = .frame request) :
    ∃ (b' : NetStack) (reply : RxFrame), b.poll = some b' ∧ b'.sent = b.sent ++ [reply.bytes] ∧
      (frameIp reply.bytes).daddr = a.identity.myIp ∧
      EchoOf (frameSegment request.bytes) (frameSegment reply.bytes) ∧ IcmpWellFormed reply.bytes ∧
      ∀ asker : NetStack, asker.nextReceive = .frame reply →
        ∃ asker' : NetStack, asker.poll = some asker' ∧
          (asker.ping.id = id ∧ asker.ping.seq = seq → asker'.ping.replyReceived = true) ∧
          (¬(asker.ping.id = id ∧ asker.ping.seq = seq) → asker'.ping = asker.ping) := by
  have bytes := (a.sendIcmpEcho_frame targetIp id seq emitted).trans (icmpEchoFrame_parts ..)
  have size : ((icmpEchoHeader id seq).bytes ++ icmpPattern).length = 40 := by simp
  obtain ⟨polled, read, stored⟩ := poll_icmp bytes rfl rfl rfl delivered
  have whole : ((ntohs (a.getU32.2.echoRequestIp targetIp a.getU32.1).totLen).setWidth 64 - 20#64).toNat =
      ((icmpEchoHeader id seq).bytes ++ icmpPattern).length := by
    rw [size]
    change ((ntohs (htons 60#16)).setWidth 64 - 20#64).toNat = 40
    decide
  have mapped : 34 + ((icmpEchoHeader id seq).bytes ++ icmpPattern).length ≤
      (b.received.landed request).rxPkt.limit := by
    have page := (b.received.landed request).rxPkt.page
    rw [pktBufSize] at page
    omega
  obtain ⟨echo, answered, echoBytes⟩ := handleIcmp_echoes read rfl rfl stored whole (by omega) mapped
  refine ⟨_, echo.delivered, polled.trans answered, ?_, ?_, ?_, ?_, ?_⟩
  · rw [sendFrame_sent, getU32_sent, received_landed_sent]
    rfl
  · change (frameIp echo.bytes).daddr = _
    rw [echoBytes, icmpReplyFrame_parts, frameIp_parts]
    rfl
  · change EchoOf _ (frameSegment echo.bytes)
    rw [bytes, frameSegment_parts, echoBytes, icmpReplyFrame, frameSegment_parts]
    exact icmpReply_echoOf _ _
  · change IcmpWellFormed echo.bytes
    rw [echoBytes]
    exact icmpReplyFrame_wellFormed _ _ _ _ (by omega) (by omega)
  · intro asker got
    have replyBytes : echo.delivered.bytes = _ := echoBytes.trans (icmpReplyFrame_parts ..)
    obtain ⟨polled, read, -⟩ := poll_icmp replyBytes rfl rfl rfl got
    have matched := polled.trans (handleIcmp_matches read rfl)
    have ident : ntohs (echoHeader (icmpEchoHeader id seq) icmpPattern).id = id := swap16_swap16 id
    have number : ntohs (echoHeader (icmpEchoHeader id seq) icmpPattern).seq = seq := swap16_swap16 seq
    rw [ident, number] at matched
    refine ⟨_, matched, ?_, ?_⟩
    · rintro ⟨rfl, rfl⟩
      rw [if_pos ⟨rfl, rfl⟩]
    · intro other
      rw [if_neg fun same => other ⟨same.1.symm, same.2.symm⟩]
      rfl

/-- A host pings the gateway. -/
def pingingStack : NetStack :=
  { NetStack.initial .zeros {} with identity := { myMac := Scenario.localMac, myIp := Scenario.localIp } }

def pingRequest : RxFrame where
  bytes := pingingStack.getU32.2.icmpEchoFrame Scenario.gatewayIp 7 9 pingingStack.getU32.1
  fits := (icmpEchoFrame_length ..).trans_le (by decide)

def pingedStack : NetStack :=
  { NetStack.initial .zeros { receive := [.frame pingRequest] } with
    identity := { myMac := Scenario.gatewayMac, myIp := Scenario.gatewayIp } }

theorem ping_exchange_gateway : ∃ (pinged' : NetStack) (reply : RxFrame), pingedStack.poll = some pinged' ∧
    pinged'.sent = pingedStack.sent ++ [reply.bytes] ∧ (frameIp reply.bytes).daddr = Scenario.localIp := by
  obtain ⟨pinged', reply, polled, sent, daddr, -⟩ := @ping_exchange pingingStack pingedStack Scenario.gatewayIp 7 9
    pingRequest (pingingStack.sendIcmpEcho_sent ..) rfl
  exact ⟨pinged', reply, polled, sent, daddr⟩

end NetStack
end UefiNetstack
