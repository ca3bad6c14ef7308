import UefiNetstack.Buffers.Echo
import UefiNetstack.Exchange.Ping

namespace UefiNetstack
open Constants NetMath Words Memory

/-- The longest IP packet that an Ethernet frame carries. -/
def ethernetMtu : Nat := 1500

/-- A well-formed echo request in an Ethernet frame: valid headers with any IP options, no fragment, a message
that verifies, and what pads the frame. -/
structure EchoRequest where
  eth : EthHdr
  ip : IpHdr
  ipOptions : Bytes
  icmp : IcmpHdr
  data : Bytes
  padding : Bytes
  etherType : eth.type = htons ethertypeIpv4
  version : ip.ihlVersion >>> 4 = 4#8
  ihl : (ip.ihlVersion &&& 0x0F#8).toNat * 4 = sizeofIpHdr + ipOptions.length
  whole : ntohs ip.fragOff &&& 0x3FFF#16 = 0#16
  protocol : ip.protocol = ipProtoIcmp
  totLen : (ntohs ip.totLen).toNat = sizeofIpHdr + ipOptions.length + (sizeofIcmpHdr + data.length)
  mtu : (ntohs ip.totLen).toNat ≤ ethernetMtu
  header : checksum (ip.bytes ++ ipOptions) = 0#16
  type : icmp.type = icmpTypeEchoRequest
  code : icmp.code = icmpCodeZero
  verifies : checksum (icmp.bytes ++ data) = 0#16
  fits : sizeofEthHdr + (ntohs ip.totLen).toNat + padding.length ≤ pktBufSize

namespace EchoRequest

variable (request : EchoRequest)

/-- The ICMP header and its data. -/
def message : Bytes := request.icmp.bytes ++ request.data

def bytes : Bytes :=
  request.eth.bytes ++ request.ip.bytes ++ request.ipOptions ++ request.message ++ request.padding

theorem message_length : request.message.length = sizeofIcmpHdr + request.data.length := by
  simp [message, sizeofIcmpHdr]

theorem bytes_length :
    request.bytes.length = sizeofEthHdr + (ntohs request.ip.totLen).toNat + request.padding.length := by
  rw [request.totLen]
  simp only [bytes, List.length_append, EthHdr.bytes_length, IpHdr.bytes_length, message_length, sizeofEthHdr,
    sizeofIpHdr]
  omega

def frame : RxFrame where
  bytes := request.bytes
  fits := request.bytes_length ▸ request.fits

/-- The parts of the request lie one behind the other. -/
theorem stored_parts {m : Memory} (stored : BytesAt m 0 request.bytes) :
    EthHdr.read m 0 = request.eth ∧ IpHdr.read m sizeofEthHdr = request.ip ∧
      BytesAt m (34 + request.ipOptions.length) request.message := by
  simp only [bytes, bytesAt_append_iff, List.length_append, EthHdr.bytes_length, IpHdr.bytes_length,
    Nat.zero_add] at stored
  obtain ⟨⟨⟨⟨eth, ip⟩, -⟩, message⟩, -⟩ := stored
  exact ⟨EthHdr.read_stored eth, IpHdr.read_stored ip, message⟩

end EchoRequest

/-- The reply to a request comes from an address, goes to the sender of the request and carries the request's
message with the type of a reply. Its checksums verify. -/
structure EchoReply (request : EchoRequest) (myIp : UINT32) (reply : Bytes) : Prop extends IcmpWellFormed reply where
  ihl : (frameIp reply).ihlVersion = ipVersionIhlDefault
  saddr : (frameIp reply).saddr = myIp
  daddr : (frameIp reply).daddr = request.ip.saddr
  echo : EchoOf request.message (frameSegment reply)

namespace NetStack

variable {s : NetStack} {request : EchoRequest}

/-- The poll of a request transmits exactly one frame, its reply. -/
def AnswersEcho (s : NetStack) (request : EchoRequest) : Prop :=
  ∃ s' reply, s.poll = some s' ∧ s'.sent = s.sent ++ [reply] ∧ EchoReply request s.identity.myIp reply

/-- The page after the request has arrived. -/
structure Asked (s : NetStack) (request : EchoRequest) : Prop where
  polled : s.poll = (s.received.landed request.frame).dispatch
  reaches : (s.received.landed request.frame).ReachesIcmp
  asks : (s.received.landed request.frame).AsksEcho
  ip : (s.received.landed request.frame).pageIp = request.ip
  transport : transportOf (s.received.landed request.frame).rxPkt.byte = 34 + request.ipOptions.length
  icmp : (s.received.landed request.frame).pageIcmp = request.icmp
  message : BytesAt (s.received.landed request.frame).rxPkt.byte (34 + request.ipOptions.length) request.message
  length : (s.received.landed request.frame).pageIcmpLen.toNat = request.message.length

theorem asked (delivered : s.nextReceive = .frame request.frame) : s.Asked request := by
  have stored : BytesAt (s.received.landed request.frame).rxPkt.byte 0 request.bytes :=
    landed_bytesAt s.received request.frame
  obtain ⟨eth, ip, message⟩ := request.stored_parts stored
  have hlen := ipHlen_of_options request.ihl
  have transport : transportOf (s.received.landed request.frame).rxPkt.byte = 34 + request.ipOptions.length := by
    rw [transportOf, ip, hlen, sizeofEthHdr, sizeofIpHdr]
    omega
  have icmp : (s.received.landed request.frame).pageIcmp = request.icmp := by
    rw [pageIcmp, transport]
    exact IcmpHdr.read_stored (bytesAt_append_left message)
  have onPage : (s.received.landed request.frame).pageIp = request.ip := ip
  refine
    { polled := poll_frame delivered
      reaches := ⟨(congrArg EthHdr.type eth).trans request.etherType, onPage ▸ request.protocol⟩
      asks := by
        rw [AsksEcho, icmp]
        exact ⟨request.type, request.code⟩
      ip := onPage
      transport
      icmp
      message
      length := ?_ }
  have total := request.totLen
  rw [pageIcmpLen_toNat, onPage, hlen, request.message_length, if_pos (by omega)]
  omega

/-- A message that fits the packet with its headers is answered. -/
theorem short_echo_answered (delivered : s.nextReceive = .frame request.frame)
    (short : request.message.length ≤ 1466) : s.AnswersEcho request := by
  have arrived := asked delivered
  have mapped : 34 + request.ipOptions.length + request.message.length ≤
      (s.received.landed request.frame).rxPkt.limit := by
    have place := transportOf_le (s.received.landed request.frame).rxPkt.byte
    have page := (s.received.landed request.frame).rxPkt.page
    rw [arrived.transport] at place
    rw [pktBufSize] at page
    omega
  have read : IcmpHdr.read (s.received.landed request.frame).rxPkt.byte (34 + request.ipOptions.length) =
      request.icmp := arrived.transport ▸ arrived.icmp
  obtain ⟨reply, answered, bytes⟩ :=
    handleIcmp_echoes read request.type request.code arrived.message arrived.length short mapped
  have polled := arrived.polled.trans (dispatch_icmp arrived.reaches)
  rw [arrived.ip, arrived.transport] at polled
  refine ⟨_, reply.bytes, polled.trans answered, ?_, ?_⟩
  · rw [sendFrame_sent, getU32_sent, received_landed_sent]
  · have lower : 8 ≤ request.message.length := by
      rw [request.message_length, sizeofIcmpHdr]
      omega
    rw [bytes]
    refine
      { toIcmpWellFormed := icmpReplyFrame_wellFormed _ _ _ _ lower short
        ihl := ?_
        saddr := ?_
        daddr := ?_
        echo := ?_ }
    · rw [icmpReplyFrame, frameIp_parts]
      rfl
    · rw [icmpReplyFrame, frameIp_parts]
      rfl
    · rw [icmpReplyFrame, frameIp_parts]
      rfl
    · rw [icmpReplyFrame, frameSegment_parts]
      exact icmpReply_echoOf _ _

/-- A longer one does not pass the guard. -/
theorem long_echo_dropped (delivered : s.nextReceive = .frame request.frame)
    (long : 1466 < request.message.length) : ∃ s', s.poll = some s' ∧ s'.sent = s.sent := by
  have arrived := asked delivered
  have covers : (ipHlen (s.received.landed request.frame).pageIp).toNat ≤
      (ntohs (s.received.landed request.frame).pageIp.totLen).toNat := by
    rw [arrived.ip, ipHlen_of_options request.ihl, request.totLen]
    exact Nat.le_add_right _ _
  obtain ⟨total, -⟩ := dispatch_echo arrived.reaches arrived.asks covers
  have exceeds : maxPktSize < (s.received.landed request.frame).echoTotal.toNat := by
    rw [total, arrived.length, sizeofEthHdr, sizeofIpHdr, maxPktSize]
    omega
  have dropped : (s.received.landed request.frame).dispatch = some (s.received.landed request.frame) := by
    rw [dispatch_icmp arrived.reaches, handleIcmp_request arrived.asks]
    exact if_pos exceeds
  exact ⟨_, arrived.polled.trans dropped, received_landed_sent _ _⟩

/-- A well-formed echo request, to whichever address, is answered by one frame, its reply, exactly when its
message fits the packet behind the two headers. -/
theorem echo_answered_iff (delivered : s.nextReceive = .frame request.frame) :
    s.AnswersEcho request ↔ request.message.length ≤ maxPktSize - (sizeofEthHdr + sizeofIpHdr) := by
  constructor
  · rintro ⟨s', reply, polled, sent, -⟩
    by_contra long
    obtain ⟨dropped, same, silent⟩ := long_echo_dropped delivered (Nat.lt_of_not_le long)
    rw [Option.some.inj (polled.symm.trans same), silent] at sent
    exact absurd sent (by simp)
  · exact short_echo_answered delivered

end NetStack

/-- The IP header of a request without options. -/
def plainRequestIp (saddr daddr : UINT32) (len : Nat) : IpHdr :=
  { ihlVersion := ipVersionIhlDefault
    totLen := htons (BitVec.ofNat 16 (sizeofIpHdr + (sizeofIcmpHdr + len)))
    ttl := ipDefaultTtl
    protocol := ipProtoIcmp
    saddr
    daddr }

theorem plainRequestIp_totLen (saddr daddr : UINT32) {len : Nat} (short : len ≤ 1472) :
    (ntohs (plainRequestIp saddr daddr len).totLen).toNat = sizeofIpHdr + (sizeofIcmpHdr + len) := by
  simp only [plainRequestIp, swap16_swap16, BitVec.toNat_ofNat, sizeofIpHdr, sizeofIcmpHdr]
  omega

theorem plainRequestIp_mtu (saddr daddr : UINT32) {len : Nat} (short : len ≤ 1472) :
    (ntohs (plainRequestIp saddr daddr len).totLen).toNat ≤ ethernetMtu := by
  rw [plainRequestIp_totLen saddr daddr short, sizeofIpHdr, sizeofIcmpHdr, ethernetMtu]
  omega

theorem plainRequestIp_fits (saddr daddr : UINT32) {len : Nat} (short : len ≤ 1472) :
    sizeofEthHdr + (ntohs (plainRequestIp saddr daddr len).totLen).toNat + ([] : Bytes).length ≤ pktBufSize := by
  rw [plainRequestIp_totLen saddr daddr short, sizeofEthHdr, sizeofIpHdr, sizeofIcmpHdr, pktBufSize, List.length_nil]
  omega

theorem plainRequestIp_version : ipVersionIhlDefault >>> 4 = 4#8 := by decide

theorem plainRequestIp_ihl : (ipVersionIhlDefault &&& 0x0F#8).toNat * 4 = sizeofIpHdr + 0 := by decide

theorem plainRequestIp_whole : ntohs 0#16 &&& 0x3FFF#16 = 0#16 := by decide

/-- The request that a host sends with some data. -/
def EchoRequest.plain (saddr daddr : UINT32) (id seq : UINT16) (data : Bytes) (short : data.length ≤ 1472) :
    EchoRequest :=
  let ip := plainRequestIp saddr daddr data.length
  let icmp : IcmpHdr := { type := icmpTypeEchoRequest, id, seq }
  { eth := { type := htons ethertypeIpv4 }
    ip := { ip with check := checksum ip.bytes }
    ipOptions := []
    icmp := { icmp with checksum := checksum (icmp.bytes ++ data) }
    data
    padding := []
    etherType := rfl
    version := plainRequestIp_version
    ihl := plainRequestIp_ihl
    whole := plainRequestIp_whole
    protocol := rfl
    totLen := plainRequestIp_totLen saddr daddr short
    mtu := plainRequestIp_mtu saddr daddr short
    header := by
      rw [List.append_nil]
      exact IpHdr.checksum_stored ip rfl
    type := rfl
    code := rfl
    verifies := icmp.checksum_stored data rfl (Nat.lt_of_le_of_lt short (by decide))
    fits := plainRequestIp_fits saddr daddr short }

theorem EchoRequest.plain_message_length {saddr daddr : UINT32} {id seq : UINT16} {data : Bytes}
    (short : data.length ≤ 1472) : (plain saddr daddr id seq data short).message.length = sizeofIcmpHdr + data.length :=
  message_length _

namespace Scenario

/-- An echo request of 1487 bytes with its IP header. -/
def longEcho : EchoRequest :=
  .plain gatewayIp localIp 7 9 (List.replicate 1459 0#8) (by rw [List.length_replicate]; decide)

/-- A small one. -/
def smallEcho : EchoRequest := .plain gatewayIp localIp 7 9 [0xAB] (by decide)

def requested (request : EchoRequest) : NetStack :=
  { NetStack.initial .zeros { receive := [.frame request.frame] } with
    identity := { myMac := localMac, myIp := localIp } }

end Scenario

open Scenario in
theorem NetStack.echo_answered_small : (requested smallEcho).AnswersEcho smallEcho :=
  (@NetStack.echo_answered_iff (requested smallEcho) smallEcho rfl).mpr
    (by rw [smallEcho, EchoRequest.plain_message_length]; decide)

open Scenario in
/-- A request below the MTU whose message does not fit stays without an answer. -/
theorem NetStack.long_echo_unanswered : ¬∀ (s : NetStack) (request : EchoRequest),
    s.nextReceive = .frame request.frame → request.ip.daddr = s.identity.myIp → s.AnswersEcho request := by
  intro always
  obtain ⟨s', reply, polled, sent, -⟩ := always (requested longEcho) longEcho rfl rfl
  have long : 1466 < longEcho.message.length := by
    rw [longEcho, EchoRequest.plain_message_length, List.length_replicate]
    decide
  obtain ⟨dropped, same, silent⟩ := @NetStack.long_echo_dropped (requested longEcho) longEcho rfl long
  rw [Option.some.inj (polled.symm.trans same), silent] at sent
  exact absurd sent (by simp)

end UefiNetstack
