import UefiNetstack.Core.Handlers

namespace UefiNetstack
open Constants

/-- What `handle_tcp` computes from the headers of a segment before it looks at the state. -/
structure TcpInput where
  flags : UINT16
  rxSeq : UINT32
  rxAck : UINT32
  tcpHlen : UINTN
  payloadLen : UINTN
deriving DecidableEq

def TcpInput.ofHeaders (ip : IpHdr) (tcp : TcpHdr) : TcpInput :=
  let tcpHlen : UINTN := ((ntohs tcp.res1DoffFlags >>> 0x0C) &&& 0x0F#16).setWidth 64 * 0x04#64
  { flags := ntohs tcp.res1DoffFlags &&& 0x3F#16
    rxSeq := ntohl tcp.seq
    rxAck := ntohl tcp.ackSeq
    tcpHlen
    payloadLen := (ntohs ip.totLen).setWidth 64 - (ip.ihlVersion &&& 0x0F#8).setWidth 64 * 0x04#64 - tcpHlen }

/-- A segment has a flag when its bit is set. -/
def TcpInput.has (input : TcpInput) (flag : UINT8) : Bool := input.flags &&& flag.setWidth 16 ≠ 0#16

/-- A segment has SYN and ACK when both bits are set. -/
def TcpInput.isSynAck (input : TcpInput) : Bool :=
  input.flags &&& tcpFlagSynAck.setWidth 16 = tcpFlagSynAck.setWidth 16

namespace NetStack

/-- The handler sends a segment without payload from the numbers of the session. -/
def sendTcpControl (flags : UINT8) (s : NetStack) : Option NetStack :=
  s.sendTcpInternal flags s.tcp.seq s.tcp.ack []

def abortTcp (s : NetStack) : NetStack := { s with tcp := { s.tcp with state := .closed, rxDone := true } }

/-- A SYN+ACK sets both numbers, is acknowledged and establishes the connection. -/
def acceptSynAck (input : TcpInput) (s : NetStack) : Option NetStack := do
  let s := { s with tcp := { s.tcp with seq := input.rxAck, ack := input.rxSeq + 0x01#32 } }
  let s ← s.sendTcpControl tcpFlagAck
  some { s with tcp := { s.tcp with state := .established } }

/-- The payload is cut to the space that is left in the caller's buffer. -/
def copyLen (s : NetStack) (input : TcpInput) : UINTN :=
  let spaceLeft := s.tcp.rxMaxLen - s.tcp.rxCurrentLen
  if input.payloadLen > spaceLeft then spaceLeft else input.payloadLen

/-- The bytes are copied behind those that are already in the caller's buffer. -/
def copyPayload (buffer : Memory) (payloadAt : Nat) (copyLen : UINTN) (s : NetStack) : Option NetStack := do
  let data ← s.rxPkt.copy payloadAt copyLen.toNat
  let s := s.log (.tcpCopy s.tcp.rxCurrentLen data.val)
  some { s with
    tcp := { s.tcp with
      rxBuffer := some (buffer.write s.tcp.rxCurrentLen.toNat data.val)
      rxCurrentLen := s.tcp.rxCurrentLen + copyLen
      rxDone := true } }

/-- A pending receive takes the payload as far as its buffer has room. -/
def receiveData (input : TcpInput) (tcpAt : Nat) (s : NetStack) : Option NetStack :=
  match s.tcp.rxBuffer with
  | some buffer =>
    if input.payloadLen > 0#64 then
      if s.copyLen input > 0#64 then
        s.copyPayload buffer (tcpAt + input.tcpHlen.toNat) (s.copyLen input)
      else some s
    else some s
  | none => some s

/-- A segment with payload is acknowledged in full, whatever was copied. -/
def acknowledgeData (input : TcpInput) (s : NetStack) : Option NetStack :=
  if input.payloadLen > 0#64 then
    let s := { s with
      tcp := { s.tcp with
        seq := input.rxAck
        ack := (input.rxSeq.setWidth 64 + input.payloadLen).setWidth 32 } }
    s.sendTcpControl tcpFlagAck
  else some s

/-- A FIN is acknowledged with a FIN of our own and ends the session. -/
def receiveFin (input : TcpInput) (s : NetStack) : Option NetStack :=
  if input.has tcpFlagFin then do
    let s := { s with
      tcp := { s.tcp with
        seq := input.rxAck
        ack := (input.rxSeq.setWidth 64 + input.payloadLen + 0x01#64).setWidth 32 } }
    let s ← s.sendTcpControl tcpFlagFinAck
    some { s with tcp := { s.tcp with state := .closedDone } }
  else some s

/-- The state machine on one segment for the local port. -/
def onSegment (input : TcpInput) (tcpAt : Nat) (s : NetStack) : Option NetStack :=
  if input.has tcpFlagRst then some s.abortTcp
  else if s.tcp.state = .synSent then
    if input.isSynAck then s.acceptSynAck input else some s
  else if s.tcp.state = .established ∨ s.tcp.state = .finWait then do
    let s ← s.receiveData input tcpAt
    let s ← s.acknowledgeData input
    s.receiveFin input
  else some s

/-- The handler receives a length as well and does not use it. -/
def handleTcp (ip : IpHdr) (tcpAt : Nat) (s : NetStack) : Option NetStack :=
  let tcp := TcpHdr.read s.rxPkt.byte tcpAt
  if ntohs tcp.dest ≠ s.tcp.localPort ∨ s.tcp.localPort = 0#16 then some s
  else s.onSegment (TcpInput.ofHeaders ip tcp) tcpAt

end NetStack
end UefiNetstack
