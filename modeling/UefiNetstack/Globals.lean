import UefiNetstack.ArpCache
import UefiNetstack.NetMath

namespace UefiNetstack
open Constants

/-- The status codes that the modelled functions return or test by name. -/
inductive EfiStatus where
  | success
  | notReady
  | timeout
  | outOfResources
  | notFound
  | other (code : UINTN)
deriving DecidableEq

/-- The number of a status. -/
def EfiStatus.code : EfiStatus → UINTN
  | .success => 0
  | .notReady => 0x8000000000000006
  | .outOfResources => 0x8000000000000009
  | .notFound => 0x800000000000000E
  | .timeout => 0x8000000000000012
  | .other value => value

/-- `EFI_ERROR` tests the top bit, which a warning lacks. -/
def EfiStatus.isError (st : EfiStatus) : Bool := st.code.msb

theorem EfiStatus.isError_ne_success {st : EfiStatus} (error : st.isError = true) : st ≠ .success := by
  rintro rfl
  cases error

/-- A received frame fits the buffer size that the stack passes to Receive. -/
structure RxFrame where
  bytes : Bytes
  fits : bytes.length ≤ pktBufSize
deriving DecidableEq

/-- Receive delivers a frame, has none, or fails. -/
inductive Receive where
  | frame (frame : RxFrame)
  | notReady
  | error
deriving DecidableEq

/-- GetStatus answers with a status and with whether it returned a transmit buffer. -/
structure StatusAnswer where
  status : EfiStatus := .success
  txBuf : Bool := true
deriving DecidableEq

/-- The answers that SNP will give, in order. After the last one Receive has no frame, Transmit
succeeds and GetStatus reports completion. -/
structure Snp where
  receive : List Receive := []
  transmit : List EfiStatus := []
  getStatus : List StatusAnswer := []
deriving DecidableEq

/-- The calls to the firmware and the copies into caller buffers, in order. -/
inductive Event where
  | copyToTxPkt (data : Bytes)
  | transmit (frame : Bytes) (status : EfiStatus)
  | getStatus (answer : StatusAnswer)
  | receive (answer : Receive)
  | reset
  | receiveFilters
  | stall (micros : Nat)
  | tcpCopy (offset : UINTN) (data : Bytes)
  | udpCopy (data : Bytes)
deriving DecidableEq

/-- A memory from a pointer on, with the number of bytes that are mapped there. -/
structure MappedMemory where
  byte : Memory
  limit : Nat

/-- A copy of the given length out of a memory faults past the mapped part. -/
def MappedMemory.copy (memory : MappedMemory) (start len : Nat) : Option { data : Bytes // data.length = len } :=
  if start + len ≤ memory.limit then some ⟨memory.byte.slice start len, Memory.slice_length _ _ _⟩ else none

theorem MappedMemory.copy_mapped (memory : MappedMemory) {start len : Nat} (mapped : start + len ≤ memory.limit) :
    ∃ data, memory.copy start len = some data :=
  ⟨_, if_pos mapped⟩

theorem MappedMemory.copy_val {memory : MappedMemory} {start len : Nat} {data : { data : Bytes // data.length = len }}
    (copied : memory.copy start len = some data) : data.val = memory.byte.slice start len := by
  unfold copy at copied
  split at copied
  · rw [← Option.some.inj copied]
  · cases copied

theorem MappedMemory.copy_inside {memory : MappedMemory} {start len : Nat}
    {data : { data : Bytes // data.length = len }} (copied : memory.copy start len = some data) :
    start + len ≤ memory.limit := by
  by_contra outside
  rw [copy, if_neg outside] at copied
  cases copied

/-- The memory from `rx_pkt` on. The page is mapped, and so is what follows it up to the limit. -/
structure RxPkt extends MappedMemory where
  page : pktBufSize ≤ limit

/-- Receive writes the bytes of the frame at the start of the page and keeps the rest. -/
def RxPkt.receive (pkt : RxPkt) (frame : RxFrame) : RxPkt :=
  { pkt with byte := pkt.byte.write 0 frame.bytes }

/-- A page of zeros with nothing mapped behind it. -/
def RxPkt.zeros : RxPkt := { byte := fun _ => 0, limit := pktBufSize, page := Nat.le_refl _ }

/-- The identity is configured by DHCP or by the caller. -/
structure Identity where
  myMac : Mac := ByteArr.zero 6
  myIp : UINT32 := 0
  subnetMask : UINT32 := 0
  routerIp : UINT32 := 0
  dhcpServerIp : UINT32 := 0
  dnsServerIp : UINT32 := 0
  dhcpLeaseTime : UINT32 := 0
  routerMac : Mac := ByteArr.zero 6
deriving DecidableEq

structure ArpResolution where
  targetIp : UINT32 := 0
  targetMac : Mac := ByteArr.zero 6
  resolved : Bool := false
deriving DecidableEq

structure DnsResolution where
  currentId : UINT16 := 0
  localPort : UINT16 := 0
  resolvedIp : UINT32 := 0
  resolved : Bool := false
deriving DecidableEq

inductive TcpState where
  | closed
  | synSent
  | established
  | finWait
  | closedDone
deriving DecidableEq

/-- A null buffer pointer is `none`; else the buffer is the memory at the pointer. -/
structure TcpSession where
  localPort : UINT16 := 0
  remotePort : UINT16 := 0
  remoteIp : UINT32 := 0
  seq : UINT32 := 0
  ack : UINT32 := 0
  state : TcpState := .closed
  rxBuffer : Option Memory := none
  rxMaxLen : UINTN := 0
  rxCurrentLen : UINTN := 0
  rxDone : Bool := false

structure UdpReceiver where
  localPort : UINT16 := 0
  rxBuffer : Option Memory := none
  rxMaxLen : UINTN := 0
  rxCurrentLen : UINTN := 0
  rxDone : Bool := false

structure PingState where
  id : UINT16 := 0
  seq : UINT16 := 0
  replyReceived : Bool := false
deriving DecidableEq

/-- The mutable globals of the stack, with the answers that the firmware will give and the trace of what the stack did
with it. A function of the source is a function on them. It returns `none` where the C++ leaves defined behaviour, by a
write past a packet buffer or a read of memory that is not mapped. -/
structure NetStack where
  identity : Identity := {}
  rxPkt : RxPkt
  rngSeed : UINT32 := 0x075BCD15
  arp : ArpResolution := {}
  arpCache : ArpCache := {}
  dns : DnsResolution := {}
  tcp : TcpSession := {}
  udp : UdpReceiver := {}
  ping : PingState := {}
  snp : Snp := {}
  trace : List Event := []

/-- The globals before the first call, with the answers that the firmware will give. -/
def NetStack.initial (rxPkt : RxPkt) (snp : Snp) : NetStack := { rxPkt, snp }

/-- The frame that an event hands to Transmit. -/
def Event.frame? : Event → Option Bytes
  | .transmit frame _ => some frame
  | _ => none

/-- The bytes that an event copies through `tcp_rx_buffer`. -/
def Event.tcpBytes : Event → Bytes
  | .tcpCopy _ data => data
  | _ => []

namespace NetStack

/-- The stack records an event at the end of its trace. -/
def log (s : NetStack) (event : Event) : NetStack := { s with trace := s.trace ++ [event] }

def stall (s : NetStack) (micros : Nat) : NetStack := s.log (.stall micros)

/-- The frames that were handed to Transmit, in order. -/
def sent (s : NetStack) : List Bytes := s.trace.filterMap Event.frame?

/-- The bytes that were copied through `tcp_rx_buffer`, in order. -/
def tcpDelivered (s : NetStack) : Bytes := s.trace.flatMap Event.tcpBytes

/-- `rng::get_u32`. The constants stand first, so that an unknown seed stops a reduction. -/
def getU32 (s : NetStack) : UINT32 × NetStack :=
  let seed := (0x3039#32 + 0x41C64E6D#32 * s.rngSeed) % 0x7FFFFFFF#32
  (seed, { s with rngSeed := seed })

@[simp] theorem getU32_sent (s : NetStack) : s.getU32.2.sent = s.sent := rfl

/-- `rng::get_ephemeral_port`. -/
def getEphemeralPort (s : NetStack) : UINT16 × NetStack :=
  let (random, s) := s.getU32
  (ephemeralPortBase + (random % ephemeralPortRange).setWidth 16, s)

/-- A random port is in the ephemeral range. -/
theorem getEphemeralPort_ge (s : NetStack) : ephemeralPortBase ≤ s.getEphemeralPort.1 := by
  have small : (s.getU32.1 % ephemeralPortRange).toNat < 0x4000 := by
    rw [BitVec.toNat_umod]
    exact Nat.mod_lt _ (by decide)
  change ephemeralPortBase ≤ ephemeralPortBase + (s.getU32.1 % ephemeralPortRange).setWidth 16
  have base : ephemeralPortBase.toNat = 0xC000 := rfl
  rw [BitVec.le_def, BitVec.toNat_add, BitVec.toNat_setWidth, base]
  omega

end NetStack
end UefiNetstack
