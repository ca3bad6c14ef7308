import UefiNetstack.Core.Senders

namespace UefiNetstack
open Constants NetMath Words

/-- The characters of a NUL-terminated string, up to the terminator. -/
structure CString where
  chars : Bytes
  noNul : 0#8 ∉ chars
deriving DecidableEq

namespace NetStack

/-- The options of a DHCP message, written from the start of the option area. -/
def dhcpOptions (type : UINT8) (myIp dhcpServerIp : UINT32) : Bytes :=
  [dhcpOptMsgType, 0x01#8, type] ++
    (if type = dhcpMsgDiscover then
      [dhcpOptParamList, 0x03#8, dhcpOptSubnetMask, dhcpOptRouter, dhcpOptDns]
    else if type = dhcpMsgRequest then
      [dhcpOptRequestedIp, 0x04#8] ++ le32 myIp ++ [dhcpOptServerId, 0x04#8] ++ le32 dhcpServerIp
    else []) ++ [dhcpOptEnd]

def dhcpMessage (s : NetStack) (type : UINT8) (xid : UINT32) : DhcpHdr where
  op := dhcpOpRequest
  htype := dhcpHtypeEthernet
  hlen := dhcpHlenEthernet
  xid := htonl xid
  flags := htons dhcpBroadcastFlag
  chaddr := ByteArr.padded 16 s.identity.myMac.toList
  magic := htonl dhcpMagicCookie
  options := ByteArr.padded 300 (dhcpOptions type s.identity.myIp s.identity.dhcpServerIp)

def dhcpIpHeader : IpHdr :=
  let ip : IpHdr :=
    { ihlVersion := ipVersionIhlDefault
      totLen := htons (BitVec.ofNat 16 (sizeofIpHdr + sizeofUdpHdr + sizeofDhcpHdr))
      id := htons 0x01#16
      ttl := ipDefaultTtl
      protocol := ipProtoUdp
      daddr := ipv4Broadcast }
  { ip with check := checksum ip.bytes }

def dhcpUdpHeader : UdpHdr where
  source := htons udpPortDhcpClient
  dest := htons udpPortDhcpServer
  len := htons (BitVec.ofNat 16 (sizeofUdpHdr + sizeofDhcpHdr))
  check := 0#16

/-- The frame is broadcast from the local MAC. -/
def dhcpFrame (s : NetStack) (type : UINT8) (xid : UINT32) : Bytes :=
  let eth : EthHdr := { dst := ethBroadcast, src := s.identity.myMac, type := htons ethertypeIpv4 }
  eth.bytes ++ dhcpIpHeader.bytes ++ dhcpUdpHeader.bytes ++ (s.dhcpMessage type xid).bytes

@[simp] theorem dhcpFrame_length (s : NetStack) (type : UINT8) (xid : UINT32) :
    (s.dhcpFrame type xid).length = 582 := by
  simp [dhcpFrame]

def sendDhcp (type : UINT8) (xid : UINT32) (s : NetStack) : NetStack :=
  s.sendFrame ⟨s.dhcpFrame type xid, by simp [pktBufSize]⟩

@[simp] theorem sendDhcp_sent (s : NetStack) (type : UINT8) (xid : UINT32) :
    (s.sendDhcp type xid).sent = s.sent ++ [s.dhcpFrame type xid] :=
  sendFrame_sent _ s

def arpRequestFrame (s : NetStack) (targetIp : UINT32) : Bytes :=
  let eth : EthHdr := { dst := ethBroadcast, src := s.identity.myMac, type := htons ethertypeArp }
  let arp : ArpHdr :=
    { htype := htons arpHtypeEthernet
      ptype := htons arpPtypeIpv4
      hlen := arpHlenEthernet
      plen := arpPlenIpv4
      oper := htons arpOperRequest
      sha := s.identity.myMac
      spa := s.identity.myIp
      tpa := targetIp }
  eth.bytes ++ arp.bytes

def arpRequest (targetIp : UINT32) (s : NetStack) : NetStack :=
  s.sendFrame ⟨s.arpRequestFrame targetIp, by simp [arpRequestFrame, pktBufSize]⟩

/-- The encoder keeps the bytes written so far, the place of the open length byte and its count. -/
structure QnameWriter where
  written : Bytes := [0#8]
  lenByte : Nat := 0
  labelLen : UINT8 := 0#8

/-- A dot closes the open label and opens the next one; another character extends the label. -/
def QnameWriter.put (w : QnameWriter) (char : UINT8) : QnameWriter :=
  if char = 0x2E#8 then
    { written := w.written.set w.lenByte w.labelLen ++ [0#8], lenByte := w.written.length, labelLen := 0#8 }
  else { w with written := w.written ++ [char], labelLen := w.labelLen + 1#8 }

/-- The last label is closed and the root label and the question fields follow. -/
def QnameWriter.finish (w : QnameWriter) : Bytes :=
  w.written.set w.lenByte w.labelLen ++
    [0#8, 0#8, dnsTypeA.setWidth 8, 0#8, dnsClassIn.setWidth 8]

def dnsQuestion (hostname : CString) : Bytes := (hostname.chars.foldl QnameWriter.put {}).finish

theorem QnameWriter.foldl_length (chars : Bytes) (w : QnameWriter) :
    (chars.foldl put w).written.length = w.written.length + chars.length := by
  induction chars generalizing w with
  | nil => rfl
  | cons char chars ih =>
      rw [List.foldl_cons, ih]
      unfold put
      split <;> simp <;> omega

@[simp] theorem dnsQuestion_length (hostname : CString) :
    (dnsQuestion hostname).length = hostname.chars.length + 6 := by
  simp only [dnsQuestion, QnameWriter.finish, List.length_append, List.length_set,
    QnameWriter.foldl_length, List.length_cons, List.length_nil]
  omega

def dnsHeader (id : UINT16) : DnsHdr where
  id := htons id
  flags := htons dnsFlagRecursion
  qdcount := htons 0x01#16

/-- The query goes to the configured server, or to the public fallback when none is configured. -/
def dnsServer (s : NetStack) : UINT32 :=
  if s.identity.dnsServerIp ≠ 0#32 then s.identity.dnsServerIp else htonl googleDnsNbo

/-- `dns_query` fills the same header fields as `send_udp`, the lengths and checksums last. -/
def dnsFrame (s : NetStack) (hostname : CString) (srcPort id : UINT16) (random : UINT32) : Bytes :=
  let message := (dnsHeader id).bytes ++ dnsQuestion hostname
  s.udpFrame s.dnsServer udpPortDns srcPort message random

@[simp] theorem dnsFrame_length (s : NetStack) (hostname : CString) (srcPort id : UINT16) (random : UINT32) :
    (s.dnsFrame hostname srcPort id random).length = 60 + hostname.chars.length := by
  simp only [dnsFrame, udpFrame_length, List.length_append, DnsHdr.bytes_length, dnsQuestion_length]
  omega

/-- The name is written into a packet of 600 bytes, and a longer name overruns it. -/
def dnsQuery (hostname : CString) (s : NetStack) : Option NetStack :=
  if fits : sizeofEthHdr + sizeofIpHdr + sizeofUdpHdr + sizeofDnsHdr + (dnsQuestion hostname).length ≤ dnsPktSize then
    let (random, s) := s.getU32
    let (port, s) := s.getEphemeralPort
    let (id, s) := s.getU32
    let s := { s with dns := { s.dns with localPort := port, currentId := (id &&& 0xFFFF#32).setWidth 16 } }
    some (s.sendFrame ⟨s.dnsFrame hostname s.dns.localPort s.dns.currentId random, by
      simp only [sizeofEthHdr, sizeofIpHdr, sizeofUdpHdr, sizeofDnsHdr, dnsQuestion_length, dnsPktSize] at fits
      simp only [dnsFrame_length, pktBufSize]
      omega⟩)
  else none

/-- The stack that `dns_query` builds its frame from: the port and the id are fresh. -/
def dnsPrepared (s : NetStack) : NetStack :=
  let (_, s) := s.getU32
  let (port, s) := s.getEphemeralPort
  let (id, s) := s.getU32
  { s with dns := { s.dns with localPort := port, currentId := (id &&& 0xFFFF#32).setWidth 16 } }

@[simp] theorem dnsPrepared_sent (s : NetStack) : s.dnsPrepared.sent = s.sent := rfl

/-- A name that fits the packet is sent in one frame. -/
theorem dnsQuery_eq (s : NetStack) (hostname : CString) (fits : hostname.chars.length ≤ 540) :
    ∃ frame : TxFrame, s.dnsQuery hostname = some (s.dnsPrepared.sendFrame frame) ∧
      frame.bytes = s.dnsPrepared.dnsFrame hostname s.dnsPrepared.dns.localPort s.dnsPrepared.dns.currentId
        s.getU32.1 := by
  have inside : sizeofEthHdr + sizeofIpHdr + sizeofUdpHdr + sizeofDnsHdr + (dnsQuestion hostname).length ≤
      dnsPktSize := by
    simp only [sizeofEthHdr, sizeofIpHdr, sizeofUdpHdr, sizeofDnsHdr, dnsQuestion_length, dnsPktSize]
    omega
  unfold dnsQuery
  rw [dif_pos inside]
  exact ⟨_, rfl, rfl⟩

end NetStack
end UefiNetstack
