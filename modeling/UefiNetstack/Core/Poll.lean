import UefiNetstack.Core.Tcp

namespace UefiNetstack
open Constants

/-- The clamped header length that `poll` adds to reach the transport header. -/
def ipHlen (ip : IpHdr) : UINTN :=
  let hlen : UINTN := (ip.ihlVersion &&& 0x0F#8).setWidth 64 * 0x04#64
  if hlen < ipHdrMinLen then ipHdrMinLen else hlen

namespace NetStack

/-- The IPv4 branch of the dispatcher. -/
def dispatchIp (s : NetStack) : Option NetStack :=
  let ip := IpHdr.read s.rxPkt.byte sizeofEthHdr
  let hlen := ipHlen ip
  let payloadAt := sizeofEthHdr + hlen.toNat
  if ip.protocol = ipProtoIcmp then s.handleIcmp ip payloadAt ((ntohs ip.totLen).setWidth 64 - hlen)
  else if ip.protocol = ipProtoUdp then s.handleUdp payloadAt
  else if ip.protocol = ipProtoTcp then s.handleTcp ip payloadAt
  else some s

/-- The dispatcher looks at the page as Receive left it. -/
def dispatch (s : NetStack) : Option NetStack :=
  let eth := EthHdr.read s.rxPkt.byte 0
  if eth.type = htons ethertypeArp then some (s.handleArp (ArpHdr.read s.rxPkt.byte sizeofEthHdr))
  else if eth.type = htons ethertypeIpv4 then s.dispatchIp
  else some s

/-- A failed Receive resets the NIC and sets its filters again. -/
def resetNic (s : NetStack) : NetStack := ((s.log .reset).log .receiveFilters).stall stall10ms

/-- One poll on a given answer of Receive. -/
def pollOn (answer : Receive) (s : NetStack) : Option NetStack :=
  let s := s.log (.receive answer)
  match answer with
  | .frame frame => { s with rxPkt := s.rxPkt.receive frame }.dispatch
  | .error => some s.resetNic
  | .notReady => some s

/-- The next answer of Receive. -/
def nextReceive (s : NetStack) : Receive := s.snp.receive.headD .notReady

/-- The stack after Receive has given its next answer. -/
def received (s : NetStack) : NetStack := { s with snp := { s.snp with receive := s.snp.receive.tail } }

def poll (s : NetStack) : Option NetStack := s.received.pollOn s.nextReceive

end NetStack
end UefiNetstack
