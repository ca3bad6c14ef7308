import UefiNetstack.Api.Tcp

namespace UefiNetstack
open Constants NetStack

def NetStack.resolveStart (s : NetStack) : NetStack := { s with dns := { s.dns with resolved := false, resolvedIp := 0 } }

/-- The result is the status and the contents of `out_ip`. -/
def Api.resolveHostname (hostname : CString) (outIp : UINT32) (s : NetStack) :
    Option (EfiStatus × UINT32 × NetStack) := do
  let s ← requestLoop (fun s => s.dns.resolved) (fun s => s.dnsQuery hostname) timeoutTcpLoops 0 s.resolveStart
  some (if s.dns.resolved then (.success, s.dns.resolvedIp, s) else (.timeout, outIp, s))

/-- The first send picks the local port. -/
def NetStack.udpBind (s : NetStack) : NetStack :=
  if s.udp.localPort = 0#16 then
    let (port, s) := s.getEphemeralPort
    { s with udp := { s.udp with localPort := port } }
  else s

def Api.udpSend (destIp : UINT32) (destPort : UINT16) (data : Bytes) (s : NetStack) : Option (EfiStatus × NetStack) := do
  let s := s.udpBind
  let s ← s.sendUdp destIp destPort s.udp.localPort data
  some (.success, s)

def NetStack.udpReceiveStart (buffer : Memory) (maxLen : UINTN) (s : NetStack) : NetStack :=
  { s with udp := { s.udp with rxBuffer := some buffer, rxMaxLen := maxLen, rxCurrentLen := 0, rxDone := false } }

def NetStack.udpReceiveEnd (s : NetStack) : NetStack := { s with udp := { s.udp with rxBuffer := none } }

def Api.udpReceive (buffer : Memory) (maxLen : UINTN) (timeoutMs : UINT32) (s : NetStack) : Option Received := do
  let s ← waitLoop (fun s => s.udp.rxDone) stall100us (maxLoops timeoutMs) (s.udpReceiveStart buffer maxLen)
  some
    { status := if s.udp.rxDone then .success else .timeout
      actualLen := s.udp.rxCurrentLen
      buffer := s.udp.rxBuffer.getD buffer
      stack := s.udpReceiveEnd }

/-- The call draws the id and the sequence number and sends the request. -/
def NetStack.pingStart (targetIp : UINT32) (s : NetStack) : NetStack :=
  let (id, s) := s.getU32
  let (seq, s) := s.getU32
  let s := { s with
    ping :=
      { id := (id &&& 0xFFFF#32).setWidth 16, seq := (seq &&& 0xFFFF#32).setWidth 16, replyReceived := false } }
  s.sendIcmpEcho targetIp s.ping.id s.ping.seq

def Api.ping (targetIp : UINT32) (timeoutMs : UINT32) (s : NetStack) : Option (EfiStatus × NetStack) := do
  let s ← waitLoop (fun s => s.ping.replyReceived) stall100us (maxLoops timeoutMs) (s.pingStart targetIp)
  some (if s.ping.replyReceived then .success else .timeout, s)

end UefiNetstack
