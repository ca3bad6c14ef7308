import UefiNetstack.Api.Loops

namespace UefiNetstack
open Constants NetStack

/-- The session is set up with a random port and initial sequence number. -/
def NetStack.tcpOpen (ip : UINT32) (port : UINT16) (s : NetStack) : NetStack :=
  let (localPort, s) := s.getEphemeralPort
  let (seq, s) := s.getU32
  { s with
    tcp := { s.tcp with
      remoteIp := ip, remotePort := port, localPort, seq, ack := 0, state := .synSent } }

def Api.tcpConnect (ip : UINT32) (port : UINT16) (s : NetStack) : Option (EfiStatus × NetStack) := do
  let s ← requestLoop (fun s => s.tcp.state = .established || s.tcp.state = .closed)
    (fun s => s.sendTcpControl tcpFlagSyn) timeoutTcpLoops 0 (s.tcpOpen ip port)
  some (if s.tcp.state = .established then .success else .timeout, s)

def Api.tcpSend (data : Bytes) (s : NetStack) : Option (EfiStatus × NetStack) :=
  if s.tcp.state ≠ .established then some (.notReady, s)
  else do
    let s ← s.sendTcpInternal tcpFlagPshAck s.tcp.seq s.tcp.ack data
    some (.success, { s with tcp := { s.tcp with seq := s.tcp.seq + BitVec.ofNat 32 data.length } })

/-- The caller's buffer becomes the pending one. -/
def NetStack.tcpReceiveStart (buffer : Memory) (maxLen : UINTN) (s : NetStack) : NetStack :=
  { s with tcp := { s.tcp with rxBuffer := some buffer, rxMaxLen := maxLen, rxCurrentLen := 0, rxDone := false } }

def NetStack.tcpReceiveEnd (s : NetStack) : NetStack := { s with tcp := { s.tcp with rxBuffer := none } }

/-- The wait ends with data or with the connection. -/
def NetStack.tcpReceiveDone (s : NetStack) : Bool :=
  s.tcp.rxDone || s.tcp.state = .closed || s.tcp.state = .closedDone

/-- A receive call returns its status, the length and the contents of the caller's buffer. -/
structure Received where
  status : EfiStatus
  actualLen : UINTN
  buffer : Memory
  stack : NetStack

def Api.tcpReceive (buffer : Memory) (maxLen : UINTN) (timeoutMs : UINT32) (s : NetStack) : Option Received := do
  let s ← waitLoop tcpReceiveDone stall100us (maxLoops timeoutMs) (s.tcpReceiveStart buffer maxLen)
  some
    { status := if s.tcp.rxDone then .success else .timeout
      actualLen := s.tcp.rxCurrentLen
      buffer := s.tcp.rxBuffer.getD buffer
      stack := s.tcpReceiveEnd }

/-- An established connection sends its FIN. -/
def NetStack.tcpCloseStart (s : NetStack) : Option NetStack := do
  let s ← s.sendTcpControl tcpFlagFinAck
  some { s with tcp := { s.tcp with state := .finWait } }

/-- The wait drains packets until the peer has closed. -/
def NetStack.tcpDrain (s : NetStack) : Option NetStack :=
  if s.tcp.state = .established then do
    let s ← s.tcpCloseStart
    waitLoop (fun s => s.tcp.state = .closedDone) stall1ms timeoutCloseLoops s
  else some s

def NetStack.tcpCloseEnd (s : NetStack) : NetStack := { s with tcp := { s.tcp with localPort := 0, state := .closed } }

def Api.tcpClose (s : NetStack) : Option (EfiStatus × NetStack) := do
  let s ← s.tcpDrain
  some (.success, s.tcpCloseEnd)

end UefiNetstack
