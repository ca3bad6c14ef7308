import UefiNetstack.Protocols

namespace UefiNetstack
open Constants NetMath Words

namespace MappedMemory

/-- A read through a pointer faults past the mapped part. -/
def read (memory : MappedMemory) (p : Nat) : Option UINT8 := if p < memory.limit then some (memory.byte p) else none

/-- `(p[0] << 8) | p[1]`. -/
def readWord (memory : MappedMemory) (p : Nat) : Option UINT16 := do
  let high ← memory.read p
  let low ← memory.read (p + 1)
  some ((high.setWidth 16 <<< 8) ||| low.setWidth 16)

/-- `while (*p != 0x00) { p += *p + 0x01; }`. Each round moves the pointer, so it faults or ends
within as many rounds as there are mapped bytes. -/
def skipLabelsWithin (memory : MappedMemory) : Nat → Nat → Option Nat
  | 0, _ => none
  | rounds + 1, p => do
    let length ← memory.read p
    if length = 0#8 then some p else memory.skipLabelsWithin rounds (p + (length.toNat + 1))

def skipLabels (memory : MappedMemory) (p : Nat) : Option Nat := memory.skipLabelsWithin memory.limit p

/-- The question loop skips a name and then the root byte, the type and the class. -/
def skipQuestions (memory : MappedMemory) : Nat → Nat → Option Nat
  | 0, p => some p
  | count + 1, p => do
    let p ← memory.skipLabels p
    memory.skipQuestions count (p + 0x05)

/-- An answer's name is a compression pointer or a chain of labels up to a root byte. -/
def skipName (memory : MappedMemory) (p : Nat) : Option Nat := do
  let first ← memory.read p
  if first &&& dnsPtrMask = dnsPtrMask then some (p + 0x02)
  else
    let p ← memory.skipLabels p
    some (p + 1)

/-- The answer loop stops at the first record of type A with four bytes of data. -/
def findAddress (memory : MappedMemory) : Nat → Nat → Option (Option UINT32)
  | 0, _ => some none
  | count + 1, p => do
    let p ← memory.skipName p
    let rtype ← memory.readWord p
    let rdlen ← memory.readWord (p + 0x08)
    let p := p + 0x08 + 0x02
    if rtype = dnsTypeA ∧ rdlen = dnsRdlenIpv4 then
      let _ ← memory.copy p 4
      some (some (memory.byte.load32 p))
    else memory.findAddress count (p + rdlen.toNat)

end MappedMemory

namespace NetStack

def arpReplyFrame (s : NetStack) (arp : ArpHdr) : Bytes :=
  let eth : EthHdr := { dst := arp.sha, src := s.identity.myMac, type := htons ethertypeArp }
  let reply : ArpHdr :=
    { htype := htons arpHtypeEthernet
      ptype := htons arpPtypeIpv4
      hlen := arpHlenEthernet
      plen := arpPlenIpv4
      oper := htons arpOperReply
      sha := s.identity.myMac
      spa := s.identity.myIp
      tha := arp.sha
      tpa := arp.spa }
  eth.bytes ++ reply.bytes

/-- A reply updates the cache, a pending resolution and the gateway. -/
def learnArp (arp : ArpHdr) (s : NetStack) : NetStack :=
  let s := { s with arpCache := s.arpCache.update arp.spa arp.sha }
  let s :=
    if arp.spa = s.arp.targetIp then { s with arp := { s.arp with targetMac := arp.sha, resolved := true } }
    else s
  if arp.spa = s.identity.routerIp then { s with identity := { s.identity with routerMac := arp.sha } } else s

def handleArp (arp : ArpHdr) (s : NetStack) : NetStack :=
  let oper := ntohs arp.oper
  if oper = arpOperReply then s.learnArp arp
  else if oper = arpOperRequest then
    if arp.tpa = s.identity.myIp ∧ s.identity.myIp ≠ 0#32 then
      s.sendFrame ⟨s.arpReplyFrame arp, by simp [arpReplyFrame, pktBufSize]⟩
    else s
  else s

/-- A store of a word into a packet buffer. -/
def put16 (buffer : Bytes) (index : Nat) (x : UINT16) : Bytes :=
  (buffer.set index (x.setWidth 8)).set (index + 1) ((x >>> 8).setWidth 8)

/-- The reply copies the message, sets the type and recomputes the checksum. The eight spare bytes
are packet memory past a message shorter than its header; they are not sent. -/
def icmpReply (message : Bytes) : Bytes :=
  let buffer := message ++ List.replicate sizeofIcmpHdr 0#8
  let buffer := buffer.set 0 icmpTypeEchoReply
  let buffer := put16 buffer 2 0#16
  let buffer := put16 buffer 2 (checksum (buffer.take message.length))
  buffer.take message.length

@[simp] theorem icmpReply_length (message : Bytes) : (icmpReply message).length = message.length := by
  simp [icmpReply, put16]

def icmpReplyFrame (s : NetStack) (saddr : UINT32) (message : Bytes) (random : UINT32) : Bytes :=
  s.unicastEth.bytes ++ (s.ipHeader ipProtoIcmp message.length random saddr).bytes ++ icmpReply message

@[simp] theorem icmpReplyFrame_length (s : NetStack) (saddr : UINT32) (message : Bytes) (random : UINT32) :
    (s.icmpReplyFrame saddr message random).length = 34 + message.length := by
  simp [icmpReplyFrame, ← Nat.add_assoc]

theorem icmpReplyFrame_fits (s : NetStack) (saddr : UINT32) {len : Nat} (message : { data : Bytes // data.length = len })
    (random : UINT32) (fits : sizeofEthHdr + sizeofIpHdr + len ≤ maxPktSize) :
    (s.icmpReplyFrame saddr message.val random).length ≤ pktBufSize := by
  simp only [sizeofEthHdr, sizeofIpHdr, maxPktSize] at fits
  simp only [icmpReplyFrame_length, message.property, pktBufSize]
  omega

/-- The size guard adds 34 to a 64 bit length. Where the sum wraps, the guard passes and the copy
overruns the packet. -/
def replyToPing (ip : IpHdr) (icmpAt : Nat) (len : UINTN) (s : NetStack) : Option NetStack :=
  let total : UINTN := BitVec.ofNat 64 (sizeofEthHdr + sizeofIpHdr) + len
  if total.toNat > maxPktSize then some s
  else if fits : sizeofEthHdr + sizeofIpHdr + len.toNat ≤ maxPktSize then do
    let (random, s) := s.getU32
    let message ← s.rxPkt.copy icmpAt len.toNat
    some (s.sendFrame ⟨s.icmpReplyFrame ip.saddr message.val random,
      s.icmpReplyFrame_fits ip.saddr message random fits⟩)
  else none

/-- A message that fits the packet and is mapped is answered in one frame after one random draw. -/
theorem replyToPing_eq (s : NetStack) (ip : IpHdr) (icmpAt : Nat) (len : UINTN) (fits : len.toNat ≤ 1466)
    (mapped : icmpAt + len.toNat ≤ s.rxPkt.limit) :
    ∃ frame : TxFrame, s.replyToPing ip icmpAt len = some (s.getU32.2.sendFrame frame) ∧
      frame.bytes = s.getU32.2.icmpReplyFrame ip.saddr (s.rxPkt.byte.slice icmpAt len.toNat) s.getU32.1 := by
  have total : (BitVec.ofNat 64 (sizeofEthHdr + sizeofIpHdr) + len).toNat ≤ maxPktSize := by
    simp only [BitVec.toNat_add, BitVec.toNat_ofNat, sizeofEthHdr, sizeofIpHdr, maxPktSize]
    omega
  have inside : sizeofEthHdr + sizeofIpHdr + len.toNat ≤ maxPktSize := by
    simp only [sizeofEthHdr, sizeofIpHdr, maxPktSize]
    omega
  have copied : s.getU32.2.rxPkt.copy icmpAt len.toNat =
      some ⟨s.rxPkt.byte.slice icmpAt len.toNat, Memory.slice_length _ _ _⟩ := if_pos mapped
  unfold replyToPing
  dsimp only
  rw [if_neg (Nat.not_lt_of_le total), dif_pos inside, copied]
  exact ⟨_, rfl, rfl⟩

def handleIcmp (ip : IpHdr) (icmpAt : Nat) (len : UINTN) (s : NetStack) : Option NetStack :=
  let icmp := IcmpHdr.read s.rxPkt.byte icmpAt
  if icmp.type = icmpTypeEchoRequest ∧ icmp.code = icmpCodeZero then s.replyToPing ip icmpAt len
  else if icmp.type = icmpTypeEchoReply then
    if ntohs icmp.id = s.ping.id ∧ ntohs icmp.seq = s.ping.seq then
      some { s with ping := { s.ping with replyReceived := true } }
    else some s
  else some s

/-- The payload is copied from its start into the caller's buffer. -/
def udpDeliver (udp : UdpHdr) (udpAt : Nat) (s : NetStack) : Option NetStack :=
  let payloadLen : UINTN := (ntohs udp.len).setWidth 64 - BitVec.ofNat 64 sizeofUdpHdr
  match s.udp.rxBuffer with
  | some buffer =>
    if payloadLen > 0#64 then do
      let copyLen := if payloadLen > s.udp.rxMaxLen then s.udp.rxMaxLen else payloadLen
      let data ← s.rxPkt.copy (udpAt + sizeofUdpHdr) copyLen.toNat
      let s := s.log (.udpCopy data.val)
      some { s with
        udp := { s.udp with rxBuffer := some (buffer.write 0 data.val), rxCurrentLen := copyLen, rxDone := true } }
    else some s
  | none => some s

/-- A response with the current id stores its first A record. -/
def handleDns (dnsAt : Nat) (s : NetStack) : Option NetStack :=
  let dns := DnsHdr.read s.rxPkt.byte dnsAt
  if dns.id ≠ htons s.dns.currentId then some s
  else if ntohs dns.flags &&& dnsFlagResponse = 0#16 then some s
  else if ntohs dns.ancount = 0#16 then some s
  else do
    let p ← s.rxPkt.skipQuestions (ntohs dns.qdcount).toNat (dnsAt + sizeofDnsHdr)
    let answer ← s.rxPkt.findAddress (ntohs dns.ancount).toNat p
    match answer with
    | some address => some { s with dns := { s.dns with resolvedIp := address, resolved := true } }
    | none => some s

/-- The user's receive takes the datagrams to the port of `udp_send`. -/
def receiveUser (udp : UdpHdr) (udpAt : Nat) (s : NetStack) : Option NetStack :=
  if ntohs udp.dest = s.udp.localPort ∧ s.udp.localPort ≠ 0#16 then s.udpDeliver udp udpAt else some s

/-- The resolver takes the datagrams from port 53 to the port of its query. -/
def receiveDns (udp : UdpHdr) (udpAt : Nat) (s : NetStack) : Option NetStack :=
  if ntohs udp.dest = s.dns.localPort ∧ s.dns.localPort ≠ 0#16 ∧ ntohs udp.source = udpPortDns then
    s.handleDns (udpAt + sizeofUdpHdr)
  else some s

/-- The handler receives the IP header and a length as well and uses neither. -/
def handleUdp (udpAt : Nat) (s : NetStack) : Option NetStack := do
  let udp := UdpHdr.read s.rxPkt.byte udpAt
  let s ← s.receiveUser udp udpAt
  s.receiveDns udp udpAt

end NetStack
end UefiNetstack
