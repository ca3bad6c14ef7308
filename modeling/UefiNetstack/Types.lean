import UefiNetstack.Lib.Memory

namespace UefiNetstack
open Words

abbrev UINT8 := BitVec 8
abbrev UINT16 := BitVec 16
abbrev UINT32 := BitVec 32
abbrev UINTN := BitVec 64
abbrev Bytes := List UINT8

/-- A fixed array of bytes inside a packed structure. -/
abbrev ByteArr (count : Nat) := Vector UINT8 count

/-- The array of zeros that `local_zero_mem` leaves. -/
def ByteArr.zero (count : Nat) : ByteArr count := Vector.replicate count 0

/-- The array that lies at an offset of a memory. -/
def ByteArr.read (count : Nat) (m : Memory) (start : Nat) : ByteArr count :=
  Vector.ofFn fun index => m (start + index.val)

/-- The array that starts with the given bytes and is zero after them. -/
def ByteArr.padded (count : Nat) (content : Bytes) : ByteArr count :=
  Vector.ofFn fun index => content.getD index.val 0

abbrev Mac := ByteArr 6

/-- Each header is the packed C structure of the same name. `bytes` is its memory image and `read` overlays it on a
memory, as the casts of the source do. Fields hold network byte order, and a field that a builder does not set is zero,
because every builder zeroes its packet first. -/
structure EthHdr where
  dst : Mac := ByteArr.zero 6
  src : Mac := ByteArr.zero 6
  type : UINT16 := 0
deriving DecidableEq

structure ArpHdr where
  htype : UINT16 := 0
  ptype : UINT16 := 0
  hlen : UINT8 := 0
  plen : UINT8 := 0
  oper : UINT16 := 0
  sha : Mac := ByteArr.zero 6
  spa : UINT32 := 0
  tha : Mac := ByteArr.zero 6
  tpa : UINT32 := 0
deriving DecidableEq

structure IpHdr where
  ihlVersion : UINT8 := 0
  tos : UINT8 := 0
  totLen : UINT16 := 0
  id : UINT16 := 0
  fragOff : UINT16 := 0
  ttl : UINT8 := 0
  protocol : UINT8 := 0
  check : UINT16 := 0
  saddr : UINT32 := 0
  daddr : UINT32 := 0
deriving DecidableEq

structure IcmpHdr where
  type : UINT8 := 0
  code : UINT8 := 0
  checksum : UINT16 := 0
  id : UINT16 := 0
  seq : UINT16 := 0
deriving DecidableEq

structure UdpHdr where
  source : UINT16 := 0
  dest : UINT16 := 0
  len : UINT16 := 0
  check : UINT16 := 0
deriving DecidableEq

structure TcpHdr where
  source : UINT16 := 0
  dest : UINT16 := 0
  seq : UINT32 := 0
  ackSeq : UINT32 := 0
  res1DoffFlags : UINT16 := 0
  window : UINT16 := 0
  check : UINT16 := 0
  urgPtr : UINT16 := 0
deriving DecidableEq

structure PseudoHdr where
  saddr : UINT32 := 0
  daddr : UINT32 := 0
  zero : UINT8 := 0
  protocol : UINT8 := 0
  tcpLength : UINT16 := 0
deriving DecidableEq

structure DnsHdr where
  id : UINT16 := 0
  flags : UINT16 := 0
  qdcount : UINT16 := 0
  ancount : UINT16 := 0
  nscount : UINT16 := 0
  arcount : UINT16 := 0
deriving DecidableEq

structure DhcpHdr where
  op : UINT8 := 0
  htype : UINT8 := 0
  hlen : UINT8 := 0
  hops : UINT8 := 0
  xid : UINT32 := 0
  secs : UINT16 := 0
  flags : UINT16 := 0
  ciaddr : UINT32 := 0
  yiaddr : UINT32 := 0
  siaddr : UINT32 := 0
  giaddr : UINT32 := 0
  chaddr : ByteArr 16 := ByteArr.zero 16
  sname : ByteArr 64 := ByteArr.zero 64
  file : ByteArr 128 := ByteArr.zero 128
  magic : UINT32 := 0
  options : ByteArr 300 := ByteArr.zero 300
deriving DecidableEq

/-- The sizes are those of the packed structures. -/
def sizeofEthHdr : Nat := 14
def sizeofArpHdr : Nat := 28
def sizeofIpHdr : Nat := 20
def sizeofIcmpHdr : Nat := 8
def sizeofUdpHdr : Nat := 8
def sizeofTcpHdr : Nat := 20
def sizeofDnsHdr : Nat := 12
def sizeofDhcpHdr : Nat := 540

/-- The options are the last array of a DHCP message. -/
def dhcpOptionsOffset : Nat := 240

def EthHdr.bytes (h : EthHdr) : Bytes := h.dst.toList ++ h.src.toList ++ le16 h.type

def ArpHdr.bytes (h : ArpHdr) : Bytes :=
  le16 h.htype ++ le16 h.ptype ++ [h.hlen, h.plen] ++ le16 h.oper ++ h.sha.toList ++ le32 h.spa ++
    h.tha.toList ++ le32 h.tpa

def IpHdr.bytes (h : IpHdr) : Bytes :=
  [h.ihlVersion, h.tos] ++ le16 h.totLen ++ le16 h.id ++ le16 h.fragOff ++ [h.ttl, h.protocol] ++
    le16 h.check ++ le32 h.saddr ++ le32 h.daddr

def IcmpHdr.bytes (h : IcmpHdr) : Bytes :=
  [h.type, h.code] ++ le16 h.checksum ++ le16 h.id ++ le16 h.seq

def UdpHdr.bytes (h : UdpHdr) : Bytes := le16 h.source ++ le16 h.dest ++ le16 h.len ++ le16 h.check

def TcpHdr.bytes (h : TcpHdr) : Bytes :=
  le16 h.source ++ le16 h.dest ++ le32 h.seq ++ le32 h.ackSeq ++ le16 h.res1DoffFlags ++ le16 h.window ++
    le16 h.check ++ le16 h.urgPtr

def PseudoHdr.bytes (h : PseudoHdr) : Bytes :=
  le32 h.saddr ++ le32 h.daddr ++ [h.zero, h.protocol] ++ le16 h.tcpLength

def DnsHdr.bytes (h : DnsHdr) : Bytes :=
  le16 h.id ++ le16 h.flags ++ le16 h.qdcount ++ le16 h.ancount ++ le16 h.nscount ++ le16 h.arcount

def DhcpHdr.bytes (h : DhcpHdr) : Bytes :=
  [h.op, h.htype, h.hlen, h.hops] ++ le32 h.xid ++ le16 h.secs ++ le16 h.flags ++ le32 h.ciaddr ++
    le32 h.yiaddr ++ le32 h.siaddr ++ le32 h.giaddr ++ h.chaddr.toList ++ h.sname.toList ++ h.file.toList ++
    le32 h.magic ++ h.options.toList

@[simp] theorem EthHdr.bytes_length (h : EthHdr) : h.bytes.length = 14 := by simp [bytes]

@[simp] theorem ArpHdr.bytes_length (h : ArpHdr) : h.bytes.length = 28 := by simp [bytes]

@[simp] theorem IpHdr.bytes_length (h : IpHdr) : h.bytes.length = 20 := by simp [bytes]

@[simp] theorem IcmpHdr.bytes_length (h : IcmpHdr) : h.bytes.length = 8 := by simp [bytes]

@[simp] theorem UdpHdr.bytes_length (h : UdpHdr) : h.bytes.length = 8 := by simp [bytes]

@[simp] theorem TcpHdr.bytes_length (h : TcpHdr) : h.bytes.length = 20 := by simp [bytes]

@[simp] theorem PseudoHdr.bytes_length (h : PseudoHdr) : h.bytes.length = 12 := by simp [bytes]

@[simp] theorem DnsHdr.bytes_length (h : DnsHdr) : h.bytes.length = 12 := by simp [bytes]

@[simp] theorem DhcpHdr.bytes_length (h : DhcpHdr) : h.bytes.length = 540 := by simp [bytes]

def EthHdr.read (m : Memory) (start : Nat) : EthHdr where
  dst := ByteArr.read 6 m start
  src := ByteArr.read 6 m (start + 6)
  type := m.load16 (start + 12)

def ArpHdr.read (m : Memory) (start : Nat) : ArpHdr where
  htype := m.load16 start
  ptype := m.load16 (start + 2)
  hlen := m (start + 4)
  plen := m (start + 5)
  oper := m.load16 (start + 6)
  sha := ByteArr.read 6 m (start + 8)
  spa := m.load32 (start + 14)
  tha := ByteArr.read 6 m (start + 18)
  tpa := m.load32 (start + 24)

def IpHdr.read (m : Memory) (start : Nat) : IpHdr where
  ihlVersion := m start
  tos := m (start + 1)
  totLen := m.load16 (start + 2)
  id := m.load16 (start + 4)
  fragOff := m.load16 (start + 6)
  ttl := m (start + 8)
  protocol := m (start + 9)
  check := m.load16 (start + 10)
  saddr := m.load32 (start + 12)
  daddr := m.load32 (start + 16)

def IcmpHdr.read (m : Memory) (start : Nat) : IcmpHdr where
  type := m start
  code := m (start + 1)
  checksum := m.load16 (start + 2)
  id := m.load16 (start + 4)
  seq := m.load16 (start + 6)

def UdpHdr.read (m : Memory) (start : Nat) : UdpHdr where
  source := m.load16 start
  dest := m.load16 (start + 2)
  len := m.load16 (start + 4)
  check := m.load16 (start + 6)

def TcpHdr.read (m : Memory) (start : Nat) : TcpHdr where
  source := m.load16 start
  dest := m.load16 (start + 2)
  seq := m.load32 (start + 4)
  ackSeq := m.load32 (start + 8)
  res1DoffFlags := m.load16 (start + 12)
  window := m.load16 (start + 14)
  check := m.load16 (start + 16)
  urgPtr := m.load16 (start + 18)

def DnsHdr.read (m : Memory) (start : Nat) : DnsHdr where
  id := m.load16 start
  flags := m.load16 (start + 2)
  qdcount := m.load16 (start + 4)
  ancount := m.load16 (start + 6)
  nscount := m.load16 (start + 8)
  arcount := m.load16 (start + 10)

def DhcpHdr.read (m : Memory) (start : Nat) : DhcpHdr where
  op := m start
  htype := m (start + 1)
  hlen := m (start + 2)
  hops := m (start + 3)
  xid := m.load32 (start + 4)
  secs := m.load16 (start + 8)
  flags := m.load16 (start + 10)
  ciaddr := m.load32 (start + 12)
  yiaddr := m.load32 (start + 16)
  siaddr := m.load32 (start + 20)
  giaddr := m.load32 (start + 24)
  chaddr := ByteArr.read 16 m (start + 28)
  sname := ByteArr.read 64 m (start + 44)
  file := ByteArr.read 128 m (start + 108)
  magic := m.load32 (start + 236)
  options := ByteArr.read 300 m (start + dhcpOptionsOffset)

end UefiNetstack
