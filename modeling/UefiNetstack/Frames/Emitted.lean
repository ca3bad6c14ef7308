import UefiNetstack.Frames.WellFormed
import UefiNetstack.Core.Handlers

namespace UefiNetstack
open Words NetMath OnesComplement Constants

theorem TcpHdr.wordSum_check (tcp : TcpHdr) (check : UINT16) (data : Bytes) :
    wordSum (TcpHdr.bytes { tcp with check } ++ data) =
      wordSum (TcpHdr.bytes { tcp with check := 0#16 } ++ data) + check.toNat := by
  simp only [TcpHdr.bytes, le32, List.append_assoc, List.cons_append, List.nil_append, wordSum_cons_cons,
    wordSum_le16_append, BitVec.toNat_ofNat, Nat.zero_mod]
  omega

/-- A message behind a pseudo header verifies once its checksum is stored. -/
theorem pseudoChecksum_stored (segment : UINT16 → Bytes) (pseudo : PseudoHdr)
    (sum : ∀ check, wordSum (segment check) = wordSum (segment 0#16) + check.toNat)
    (fits : (segment 0#16).length < 2 ^ 16) :
    checksum (pseudo.bytes ++ segment (checksum (pseudo.bytes ++ segment 0#16))) = 0#16 ∧
      (checksum (pseudo.bytes ++ segment 0#16) = 0#16 →
        checksum (pseudo.bytes ++ segment 0xFFFF#16) = 0#16) := by
  have pseudoBound := wordSum_le pseudo.bytes
  have segmentBound := wordSum_le (segment 0#16)
  rw [PseudoHdr.bytes_length] at pseudoBound
  have joined (check : UINT16) : wordSum (pseudo.bytes ++ segment check) =
      wordSum pseudo.bytes + wordSum (segment 0#16) + check.toNat := by
    rw [wordSum_append _ _ (by simp), sum check, Nat.add_assoc]
  exact ⟨checksum_stored (fun check => pseudo.bytes ++ segment check) _ joined (by omega),
    checksum_ones (fun check => pseudo.bytes ++ segment check) _ joined (by omega)⟩

namespace NetStack

variable (s : NetStack)

theorem tcpSegment_length (ip : IpHdr) (flags : UINT8) (seq ack : UINT32) (data : Bytes) :
    (s.tcpSegment ip flags seq ack data).length = sizeofTcpHdr + data.length := by
  simp [tcpSegment, sizeofTcpHdr]

theorem tcpSegment_verifies (ip : IpHdr) (flags : UINT8) (seq ack : UINT32) (data : Bytes)
    (fits : sizeofTcpHdr + data.length < 2 ^ 16) :
    checksum (PseudoHdr.bytes
      { saddr := ip.saddr, daddr := ip.daddr, protocol := ipProtoTcp,
        tcpLength := htons (BitVec.ofNat 16 (sizeofTcpHdr + data.length)) } ++
      s.tcpSegment ip flags seq ack data) = 0#16 := by
  let tcp : TcpHdr :=
    { source := htons s.tcp.localPort
      dest := htons s.tcp.remotePort
      seq := htonl seq
      ackSeq := htonl ack
      res1DoffFlags := htons ((tcpDataOffset5.setWidth 16 <<< 0x0C) ||| flags.setWidth 16)
      window := htons tcpDefaultWindow }
  dsimp only [tcpSegment]
  rw [pseudoChecksum_eq]
  · have stored := pseudoChecksum_stored (fun check => TcpHdr.bytes { tcp with check } ++ data)
      { saddr := ip.saddr, daddr := ip.daddr, protocol := ipProtoTcp,
        tcpLength := htons (BitVec.ofNat 16 (sizeofTcpHdr + data.length)) }
      (fun check => TcpHdr.wordSum_check tcp check data)
      (by simp only [List.length_append, TcpHdr.bytes_length]; exact fits)
    exact stored.1
  · simp only [List.length_append, TcpHdr.bytes_length, BitVec.toNat_ofNat]
    exact (Nat.mod_eq_of_lt fits).symm

theorem tcpFrame_wellFormed (flags : UINT8) (seq ack : UINT32) (data : Bytes) (random : UINT32)
    (fits : data.length ≤ 1446) : TcpWellFormed (s.tcpFrame flags seq ack data random) where
  toIpv4WellFormed := by
    refine ipv4WellFormed_parts (ipHeader_checksum ..) rfl ?_
    rw [ipHeader_totLen _ _ _ _ (by simp only [sizeofIpHdr, sizeofTcpHdr]; omega), tcpSegment_length]
  segment := by
    unfold tcpFrame
    rw [framePseudo, frameIp_parts, frameSegment_parts, tcpSegment_length]
    exact s.tcpSegment_verifies _ flags seq ack data (by simp only [sizeofTcpHdr]; omega)

/-- A segment within the packet is sent as one well-formed frame. -/
theorem sendTcpInternal_emits (flags : UINT8) (seq ack : UINT32) (data : Bytes) (fits : data.length ≤ 1446) :
    ∃ s' frame, s.sendTcpInternal flags seq ack data = some s' ∧ s'.sent = s.sent ++ [frame] ∧
      TcpWellFormed frame := by
  obtain ⟨frame, sent, bytes⟩ := s.sendTcpInternal_eq flags seq ack data fits
  refine ⟨_, frame.bytes, sent, by rw [sendFrame_sent, getU32_sent], ?_⟩
  rw [bytes]
  exact tcpFrame_wellFormed _ flags seq ack data _ fits

end NetStack

theorem UdpHdr.wordSum_check (udp : UdpHdr) (check : UINT16) (data : Bytes) :
    wordSum (UdpHdr.bytes { udp with check } ++ data) =
      wordSum (UdpHdr.bytes { udp with check := 0#16 } ++ data) + check.toNat := by
  simp only [UdpHdr.bytes, List.append_assoc, wordSum_le16_append, BitVec.toNat_ofNat, Nat.zero_mod]
  omega

namespace NetStack

variable (s : NetStack)

theorem nonzeroCheck_ne_zero (check : UINT16) : nonzeroCheck check ≠ 0#16 := by
  unfold nonzeroCheck
  split
  · decide
  · assumption

/-- The header of a datagram and its stored checksum. -/
theorem udpDatagram_parts (ip : IpHdr) (srcPort destPort : UINT16) (data : Bytes) :
    ∃ udp : UdpHdr, udpDatagram ip srcPort destPort data = udp.bytes ++ data ∧
      udp.len = htons (BitVec.ofNat 16 (sizeofUdpHdr + data.length)) ∧ udp.check ≠ 0#16 :=
  ⟨_, rfl, rfl, nonzeroCheck_ne_zero _⟩

theorem udpDatagram_verifies (ip : IpHdr) (srcPort destPort : UINT16) (data : Bytes)
    (fits : sizeofUdpHdr + data.length < 2 ^ 16) :
    checksum (PseudoHdr.bytes
      { saddr := ip.saddr, daddr := ip.daddr, protocol := ipProtoUdp,
        tcpLength := htons (BitVec.ofNat 16 (sizeofUdpHdr + data.length)) } ++
      udpDatagram ip srcPort destPort data) = 0#16 := by
  let udp : UdpHdr :=
    { source := htons srcPort
      dest := htons destPort
      len := htons (BitVec.ofNat 16 (sizeofUdpHdr + data.length)) }
  have len : ntohs udp.len = BitVec.ofNat 16 (sizeofUdpHdr + data.length) := swap16_swap16 _
  change checksum (_ ++ (UdpHdr.bytes
    { udp with check := nonzeroCheck (pseudoChecksum _ _ _ (udp.bytes ++ data) (ntohs udp.len)) } ++ data)) = _
  rw [len, pseudoChecksum_eq]
  · have stored := pseudoChecksum_stored (fun check => UdpHdr.bytes { udp with check } ++ data)
      { saddr := ip.saddr, daddr := ip.daddr, protocol := ipProtoUdp,
        tcpLength := htons (BitVec.ofNat 16 (sizeofUdpHdr + data.length)) }
      (fun check => UdpHdr.wordSum_check udp check data)
      (by simp only [List.length_append, UdpHdr.bytes_length]; exact fits)
    -- The stored checksum is the computed one or, where that is zero, all ones.
    unfold nonzeroCheck
    split
    · rename_i zero
      exact stored.2 zero
    · exact stored.1
  · simp only [List.length_append, UdpHdr.bytes_length, BitVec.toNat_ofNat]
    exact (Nat.mod_eq_of_lt fits).symm

theorem udpFrame_wellFormed (destIp : UINT32) (destPort srcPort : UINT16) (data : Bytes) (random : UINT32)
    (fits : data.length ≤ 1458) : UdpWellFormed (s.udpFrame destIp destPort srcPort data random) data.length := by
  obtain ⟨udp, parts, len, nonzero⟩ := udpDatagram_parts
    (s.ipHeader ipProtoUdp (sizeofUdpHdr + data.length) random destIp) srcPort destPort data
  have small : sizeofUdpHdr + data.length < 2 ^ 16 := by simp only [sizeofUdpHdr]; omega
  have size : (udpDatagram (s.ipHeader ipProtoUdp (sizeofUdpHdr + data.length) random destIp)
      srcPort destPort data).length = sizeofUdpHdr + data.length := by
    rw [parts, List.length_append, UdpHdr.bytes_length, sizeofUdpHdr]
  have verifies := udpDatagram_verifies
    (s.ipHeader ipProtoUdp (sizeofUdpHdr + data.length) random destIp) srcPort destPort data small
  dsimp only [udpFrame]
  refine
    { toIpv4WellFormed := ipv4WellFormed_parts (ipHeader_checksum ..) rfl ?_
      udpLen := ?_, payload := ?_, nonzero := ?_, segment := ?_ }
  · rw [ipHeader_totLen _ _ _ _ (by simp only [sizeofIpHdr, sizeofUdpHdr]; omega), size]
  · rw [parts, frameUdp_parts, len]
    simp only [swap16_swap16, BitVec.toNat_ofNat]
    exact Nat.mod_eq_of_lt small
  · rw [frameSegment_parts, size]
  · rw [parts, frameUdp_parts]
    exact nonzero
  · rw [framePseudo, frameIp_parts, frameSegment_parts, size]
    exact verifies

/-- A datagram within the packet is sent as one well-formed frame. -/
theorem sendUdp_emits (destIp : UINT32) (destPort srcPort : UINT16) (data : Bytes) (fits : data.length ≤ 1458) :
    ∃ s' frame, s.sendUdp destIp destPort srcPort data = some s' ∧ s'.sent = s.sent ++ [frame] ∧
      UdpWellFormed frame data.length := by
  obtain ⟨frame, sent, bytes⟩ := s.sendUdp_eq destIp destPort srcPort data fits
  refine ⟨_, frame.bytes, sent, by rw [sendFrame_sent, getU32_sent], ?_⟩
  rw [bytes]
  exact udpFrame_wellFormed _ destIp destPort srcPort data _ fits

/-- A query whose name fits the packet is sent as one well-formed frame. -/
theorem dnsQuery_emits (hostname : CString) (fits : hostname.chars.length ≤ 540) :
    ∃ s' frame, s.dnsQuery hostname = some s' ∧ s'.sent = s.sent ++ [frame] ∧
      UdpWellFormed frame (sizeofDnsHdr + (dnsQuestion hostname).length) := by
  have message (id : UINT16) : ((dnsHeader id).bytes ++ dnsQuestion hostname).length =
      sizeofDnsHdr + (dnsQuestion hostname).length := by simp [sizeofDnsHdr]
  obtain ⟨frame, sent, bytes⟩ := s.dnsQuery_eq hostname fits
  refine ⟨_, frame.bytes, sent, by rw [sendFrame_sent, dnsPrepared_sent], ?_⟩
  rw [bytes, ← message]
  refine udpFrame_wellFormed _ _ _ _ _ _ ?_
  rw [message, dnsQuestion_length]
  simp only [sizeofDnsHdr]
  omega

/-- Every DHCP message is sent as one well-formed frame without a UDP checksum. -/
theorem sendDhcp_emits (type : UINT8) (xid : UINT32) :
    ∃ frame, (s.sendDhcp type xid).sent = s.sent ++ [frame] ∧ DhcpWellFormed frame sizeofDhcpHdr := by
  refine ⟨_, s.sendDhcp_sent type xid, ?_⟩
  dsimp only [dhcpFrame]
  rw [List.append_assoc]
  refine
    { toIpv4WellFormed := ipv4WellFormed_parts (IpHdr.checksum_stored _ rfl) rfl ?_
      udpLen := ?_, payload := ?_, unchecked := ?_ }
  · simp [dhcpIpHeader, sizeofIpHdr, sizeofUdpHdr, sizeofDhcpHdr]
  · rw [frameUdp_parts]
    rfl
  · rw [frameSegment_parts]
    simp [sizeofUdpHdr, sizeofDhcpHdr]
  · rw [frameUdp_parts]
    rfl

end NetStack

theorem IcmpHdr.wordSum_check (icmp : IcmpHdr) (check : UINT16) (data : Bytes) :
    wordSum (IcmpHdr.bytes { icmp with checksum := check } ++ data) =
      wordSum (IcmpHdr.bytes { icmp with checksum := 0#16 } ++ data) + check.toNat := by
  simp only [IcmpHdr.bytes, List.append_assoc, List.cons_append, List.nil_append, wordSum_cons_cons,
    wordSum_le16_append, BitVec.toNat_ofNat, Nat.zero_mod]
  omega

/-- A message with its own checksum verifies. -/
theorem IcmpHdr.checksum_stored (icmp : IcmpHdr) (data : Bytes) (zero : icmp.checksum = 0#16)
    (fits : data.length < 2 ^ 16) :
    NetMath.checksum (IcmpHdr.bytes { icmp with checksum := NetMath.checksum (icmp.bytes ++ data) } ++ data) = 0#16 := by
  have bound := wordSum_le (IcmpHdr.bytes { icmp with checksum := 0#16 } ++ data)
  rw [List.length_append, IcmpHdr.bytes_length] at bound
  have stored := NetMath.checksum_stored (fun check => IcmpHdr.bytes { icmp with checksum := check } ++ data) _
    (fun check => IcmpHdr.wordSum_check icmp check data) (by omega)
  have same : ({ icmp with checksum := 0#16 } : IcmpHdr) = icmp := by cases icmp; cases zero; rfl
  simpa only [same] using stored

namespace NetStack

variable (s : NetStack)

/-- An echo request is sent as one well-formed frame. -/
theorem sendIcmpEcho_emits (targetIp : UINT32) (id seq : UINT16) :
    ∃ frame, (s.sendIcmpEcho targetIp id seq).sent = s.sent ++ [frame] ∧ IcmpWellFormed frame := by
  refine ⟨_, s.sendIcmpEcho_sent targetIp id seq, ?_⟩
  dsimp only [icmpEchoFrame]
  rw [List.append_assoc]
  refine { toIpv4WellFormed := ipv4WellFormed_parts (ipHeader_checksum ..) rfl ?_, message := ?_ }
  · rw [ipHeader_totLen _ _ _ _ (by decide)]
    simp [sizeofIcmpHdr]
  · rw [frameSegment_parts]
    exact IcmpHdr.checksum_stored
      { type := icmpTypeEchoRequest, code := icmpCodeZero, id := htons id, seq := htons seq } icmpPattern rfl
      (by decide)

/-- The reply to a message with a whole header changes its type and its checksum. -/
theorem icmpReply_cons (type code low high : UINT8) (rest : Bytes) :
    icmpReply (type :: code :: low :: high :: rest) =
      [icmpTypeEchoReply, code] ++
        le16 (checksum (icmpTypeEchoReply :: code :: 0#8 :: 0#8 :: rest)) ++ rest := by
  simp [icmpReply, put16, le16]

theorem icmpReply_verifies (message : Bytes) (lower : 4 ≤ message.length) (upper : message.length < 2 ^ 16) :
    checksum (icmpReply message) = 0#16 := by
  match message, lower with
  | type :: code :: low :: high :: rest, _ =>
    rw [icmpReply_cons]
    have bound := wordSum_le rest
    simp only [List.length_cons] at upper
    have small := code.isLt
    have typeSmall := icmpTypeEchoReply.isLt
    exact checksum_stored (fun check => [icmpTypeEchoReply, code] ++ le16 check ++ rest)
      (icmpTypeEchoReply.toNat + 256 * code.toNat + wordSum rest)
      (fun check => by
        simp only [List.cons_append, List.nil_append, wordSum_cons_cons, wordSum_le16_append]
        omega)
      (by omega)

/-- The reply to a message with a whole header is well formed. -/
theorem icmpReplyFrame_wellFormed (saddr : UINT32) (message : Bytes) (random : UINT32) (lower : 8 ≤ message.length)
    (upper : message.length ≤ 1466) : IcmpWellFormed (s.icmpReplyFrame saddr message random) := by
  dsimp only [icmpReplyFrame]
  refine { toIpv4WellFormed := ipv4WellFormed_parts (ipHeader_checksum ..) rfl ?_, message := ?_ }
  · rw [icmpReply_length]
    exact ipHeader_totLen _ _ _ _ (by simp only [sizeofIpHdr]; omega)
  · rw [frameSegment_parts]
    exact icmpReply_verifies _ (by omega) (by omega)

/-- A request whose message is mapped is answered by one well-formed reply. -/
theorem replyToPing_emits (ip : IpHdr) (icmpAt : Nat) (len : UINTN) (lower : 8 ≤ len.toNat)
    (upper : len.toNat ≤ 1466) (mapped : icmpAt + len.toNat ≤ s.rxPkt.limit) :
    ∃ s' frame, s.replyToPing ip icmpAt len = some s' ∧ s'.sent = s.sent ++ [frame] ∧ IcmpWellFormed frame := by
  obtain ⟨frame, replied, bytes⟩ := s.replyToPing_eq ip icmpAt len upper mapped
  refine ⟨_, frame.bytes, replied, sendFrame_sent frame s.getU32.2, ?_⟩
  rw [bytes]
  exact icmpReplyFrame_wellFormed _ ip.saddr _ _ (by rw [Memory.slice_length]; exact lower)
    (by rw [Memory.slice_length]; exact upper)

/-- The handler answers an echo request and is silent on every other message. -/
theorem handleIcmp_emits (ip : IpHdr) (icmpAt : Nat) (len : UINTN) (lower : 8 ≤ len.toNat)
    (upper : len.toNat ≤ 1466) (mapped : icmpAt + len.toNat ≤ s.rxPkt.limit) :
    ∃ s' frames, s.handleIcmp ip icmpAt len = some s' ∧ s'.sent = s.sent ++ frames ∧
      frames.length ≤ 1 ∧ ∀ frame ∈ frames, IcmpWellFormed frame := by
  unfold handleIcmp
  dsimp only
  split
  · obtain ⟨s', frame, replied, sent, formed⟩ := s.replyToPing_emits ip icmpAt len lower upper mapped
    exact ⟨s', [frame], replied, sent, Nat.le_refl _, by simpa using formed⟩
  · split
    · split
      all_goals exact ⟨_, [], rfl, (List.append_nil _).symm, Nat.zero_le _, by simp⟩
    · exact ⟨_, [], rfl, (List.append_nil _).symm, Nat.zero_le _, by simp⟩

end NetStack

/-- A call returns and has sent exactly one frame, which is well formed. -/
def EmitsOne (s : NetStack) (result : Option NetStack) (formed : Bytes → Prop) : Prop :=
  ∃ s' frame, result = some s' ∧ s'.sent = s.sent ++ [frame] ∧ formed frame

/-- Every IPv4 frame of the stack is well formed, whatever the state and the payload are. -/
theorem emitted_frames_wellFormed (s : NetStack) :
    (∀ flags seq ack data, data.length ≤ 1446 →
      EmitsOne s (s.sendTcpInternal flags seq ack data) TcpWellFormed) ∧
    (∀ destIp destPort srcPort data, data.length ≤ 1458 →
      EmitsOne s (s.sendUdp destIp destPort srcPort data) (UdpWellFormed · data.length)) ∧
    (∀ hostname : CString, hostname.chars.length ≤ 540 →
      EmitsOne s (s.dnsQuery hostname) (UdpWellFormed · (sizeofDnsHdr + (NetStack.dnsQuestion hostname).length))) ∧
    (∀ type xid, EmitsOne s (some (s.sendDhcp type xid)) (DhcpWellFormed · sizeofDhcpHdr)) ∧
    (∀ targetIp id seq, EmitsOne s (some (s.sendIcmpEcho targetIp id seq)) IcmpWellFormed) ∧
    (∀ ip icmpAt (len : UINTN), 8 ≤ len.toNat → len.toNat ≤ 1466 → icmpAt + len.toNat ≤ s.rxPkt.limit →
      ∃ s' frames, s.handleIcmp ip icmpAt len = some s' ∧ s'.sent = s.sent ++ frames ∧
        frames.length ≤ 1 ∧ ∀ frame ∈ frames, IcmpWellFormed frame) := by
  refine ⟨s.sendTcpInternal_emits, s.sendUdp_emits, s.dnsQuery_emits, ?_, ?_, s.handleIcmp_emits⟩
  · intro type xid
    obtain ⟨frame, sent, formed⟩ := s.sendDhcp_emits type xid
    exact ⟨_, frame, rfl, sent, formed⟩
  · intro targetIp id seq
    obtain ⟨frame, sent, formed⟩ := s.sendIcmpEcho_emits targetIp id seq
    exact ⟨_, frame, rfl, sent, formed⟩

/-- A stack with an echo request of twelve bytes behind the headers on its page. -/
def echoStack : NetStack :=
  .initial { RxPkt.zeros with
    byte := Memory.write (fun _ => 0) 34 [icmpTypeEchoRequest, 0, 0, 0, 0, 7, 0, 1, 1, 2, 3, 4] } {}

/-- It sends three bytes over TCP, one byte over UDP and a query for `a`, and answers the request. -/
theorem emitted_frames_wellFormed_echo :
    EmitsOne echoStack (echoStack.sendTcpInternal tcpFlagPshAck 1 2 [1, 2, 3]) TcpWellFormed ∧
    EmitsOne echoStack (echoStack.sendUdp 1 2 3 [4]) (UdpWellFormed · 1) ∧
    EmitsOne echoStack (echoStack.dnsQuery ⟨[0x61], by decide⟩) (UdpWellFormed · 19) ∧
    EmitsOne echoStack (echoStack.handleIcmp {} 34 12) IcmpWellFormed := by
  obtain ⟨tcp, udp, dns, -, -, icmp⟩ := emitted_frames_wellFormed echoStack
  refine ⟨tcp tcpFlagPshAck 1 2 [1, 2, 3] (by decide), udp 1 2 3 [4] (by decide),
    dns ⟨[0x61], by decide⟩ (by decide), ?_⟩
  obtain ⟨s', frames, done, sent, -, formed⟩ := icmp {} 34 12 (by decide) (by decide) (by decide)
  have answers : (echoStack.handleIcmp {} 34 12).map (·.sent.length) = some 1 := by decide +kernel
  rw [done, Option.map_some, sent] at answers
  obtain ⟨frame, rfl⟩ := List.length_eq_one_iff.mp (Option.some.inj answers)
  exact ⟨s', frame, done, sent, formed frame (List.mem_singleton.mpr rfl)⟩

end UefiNetstack
