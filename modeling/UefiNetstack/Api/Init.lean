import UefiNetstack.Api.Datagram

namespace UefiNetstack
open Constants NetStack

/-- The scan keeps the message type and stores the other values in the identity at once. -/
structure DhcpScan where
  msgType : UINT8
  identity : Identity
deriving DecidableEq

/-- The tests of the loop body on the item at `p`. Each of them assigns one variable. -/
def DhcpScan.store (m : Memory) (p : Nat) (scan : DhcpScan) : DhcpScan :=
  let code := m p
  let len := m (p + 1)
  let value := m.load32 (p + 2)
  { msgType := if code = dhcpOptMsgType ∧ len ≥ 0x01#8 then m (p + 2) else scan.msgType
    identity := { scan.identity with
      routerIp := if code = dhcpOptRouter ∧ len ≥ 0x04#8 then value else scan.identity.routerIp
      dnsServerIp := if code = dhcpOptDns ∧ len ≥ 0x04#8 then value else scan.identity.dnsServerIp
      subnetMask := if code = dhcpOptSubnetMask ∧ len ≥ 0x04#8 then value else scan.identity.subnetMask
      dhcpLeaseTime :=
        if code = dhcpOptLeaseTime ∧ len ≥ 0x04#8 then ntohl value else scan.identity.dhcpLeaseTime } }

/-- The loop over the options from `offset` on. Each round moves the offset, so the bound stops it
after as many rounds as it allows offsets. -/
def scanOptions (m : Memory) (options : Nat) : Nat → Nat → DhcpScan → DhcpScan
  | 0, _, scan => scan
  | rounds + 1, offset, scan =>
    let p := options + offset
    if m p = dhcpOptEnd then scan
    else if offset ≥ dhcpOptMaxScan then scan
    else
      let scan := scan.store m p
      if m p = dhcpOptPad then scanOptions m options rounds (offset + 1) scan
      else scanOptions m options rounds (offset + ((m (p + 1)).toNat + 0x02)) scan

def scanRounds : Nat := dhcpOptMaxScan + 1

inductive DhcpState where
  | discover
  | offerRcvd
  | bound
deriving DecidableEq

/-- The variables of the loop besides its counter. -/
structure DhcpLoop where
  stack : NetStack
  state : DhcpState := .discover
  timeout : Nat := 0

/-- A message on the page: its IP header, its DHCP header and where that starts. -/
structure DhcpMessage where
  ip : IpHdr
  dhcp : DhcpHdr
  dhcpAt : Nat

/-- The nested tests of the loop: IPv4, UDP, the client port and the magic cookie. -/
def dhcpMessageOn (m : Memory) : Option DhcpMessage :=
  if (EthHdr.read m 0).type = htons ethertypeIpv4 then
    let ip := IpHdr.read m sizeofEthHdr
    let udpAt := sizeofEthHdr + (ipHlen ip).toNat
    if ip.protocol = ipProtoUdp then
      if (UdpHdr.read m udpAt).dest = htons udpPortDhcpClient then
        let dhcpAt := udpAt + sizeofUdpHdr
        let dhcp := DhcpHdr.read m dhcpAt
        if dhcp.magic = htonl dhcpMagicCookie then some { ip, dhcp, dhcpAt } else none
      else none
    else none
  else none

/-- The options of a message are scanned into the current identity. -/
def DhcpMessage.scan (message : DhcpMessage) (m : Memory) (identity : Identity) : DhcpScan :=
  scanOptions m (message.dhcpAt + dhcpOptionsOffset) scanRounds 0 { msgType := 0x00#8, identity }

namespace DhcpLoop

/-- The loop sends the message of its state when the countdown is zero. -/
def sendRequest (xid : UINT32) (loop : DhcpLoop) : DhcpLoop :=
  if loop.timeout = 0 then
    { loop with
      stack :=
        match loop.state with
        | .discover => loop.stack.sendDhcp dhcpMsgDiscover xid
        | .offerRcvd => loop.stack.sendDhcp dhcpMsgRequest xid
        | .bound => loop.stack
      timeout := timeoutRetransmit }
  else loop

/-- An offer supplies the address and the server. -/
def acceptOffer (message : DhcpMessage) (loop : DhcpLoop) : DhcpLoop :=
  let server := if message.dhcp.siaddr = 0#32 then message.ip.saddr else message.dhcp.siaddr
  { stack := { loop.stack with
      identity := { loop.stack.identity with myIp := message.dhcp.yiaddr, dhcpServerIp := server } }
    state := .offerRcvd
    timeout := 0 }

/-- An acknowledgement binds, with the server as router where none is known. -/
def acceptAck (loop : DhcpLoop) : DhcpLoop :=
  let identity := loop.stack.identity
  let router := if identity.routerIp = 0#32 then identity.dhcpServerIp else identity.routerIp
  { loop with stack := { loop.stack with identity := { identity with routerIp := router } }, state := .bound }

/-- The transitions after the scan of a message. -/
def transition (message : DhcpMessage) (msgType : UINT8) (loop : DhcpLoop) : DhcpLoop :=
  match loop.state with
  | .discover =>
    if message.dhcp.op = dhcpOpReply ∧ (msgType = dhcpMsgOffer ∨ msgType = 0x00#8) then
      loop.acceptOffer message
    else loop
  | .offerRcvd =>
    if message.dhcp.op = dhcpOpReply ∧ (msgType = dhcpMsgAck ∨ msgType = 0x00#8) then loop.acceptAck
    else loop
  | .bound => loop

/-- The loop looks at the page as Receive left it. -/
def onPage (loop : DhcpLoop) : DhcpLoop :=
  let m := loop.stack.rxPkt.byte
  match dhcpMessageOn m with
  | some message =>
    let scan := message.scan m loop.stack.identity
    { loop with stack := { loop.stack with identity := scan.identity } }.transition message scan.msgType
  | none => loop

/-- The second half of an iteration, on a given answer of Receive. -/
def onReceive (answer : Receive) (loop : DhcpLoop) : DhcpLoop :=
  let stack := loop.stack.received.log (.receive answer)
  match answer with
  | .frame frame => { loop with stack := { stack with rxPkt := stack.rxPkt.receive frame } }.onPage
  | .notReady => { loop with stack := stack.stall stall1ms, timeout := loop.timeout - 1 }
  | .error => { loop with stack }

def iteration (xid : UINT32) (loop : DhcpLoop) : DhcpLoop :=
  let loop := loop.sendRequest xid
  loop.onReceive loop.stack.nextReceive

/-- At most the given number of iterations, ending when bound. -/
def run (xid : UINT32) : Nat → DhcpLoop → DhcpLoop
  | 0, loop => loop
  | loops + 1, loop => if loop.state = .bound then loop else run xid loops (loop.iteration xid)

end DhcpLoop

structure EfiTime where
  year : UINT16
  month : UINT8
  day : UINT8
  hour : UINT8
  minute : UINT8
  second : UINT8
deriving DecidableEq

/-- What the boot services answer before the NIC runs: the clock, the two pages, the SNP handles,
the two attempts to open SNP and the MAC of the NIC. -/
structure Boot where
  time : Option EfiTime
  rxPage : Option RxPkt
  txPage : Bool
  locate : EfiStatus
  handleCount : Nat
  openProtocol : EfiStatus
  reopenProtocol : EfiStatus
  currentAddress : Mac

/-- `rng::init`. -/
def NetStack.rngInit (time : Option EfiTime) (s : NetStack) : NetStack :=
  match time with
  | some t =>
    { s with
      rngSeed := t.second.setWidth 32 ||| (t.minute.setWidth 32 <<< 0x06) ||| (t.hour.setWidth 32 <<< 0x0C) |||
        (t.day.setWidth 32 <<< 0x11) ||| (t.year.setWidth 32 <<< 0x16) }
  | none => s

/-- The firmware calls of both init functions, up to the open NIC. A failed call returns its status
and the stack as it is by then. -/
def NetStack.openNic (boot : Boot) (s : NetStack) : Except (EfiStatus × NetStack) NetStack :=
  let s := s.rngInit boot.time
  match boot.rxPage with
  | none => .error (.outOfResources, s)
  | some rxPkt =>
    if ¬boot.txPage then .error (.outOfResources, s)
    else
      let s := { s with rxPkt }
      if boot.locate.isError then .error (boot.locate, s)
      else if boot.handleCount = 0 then .error (.notFound, s)
      else if boot.openProtocol.isError ∧ boot.reopenProtocol.isError then .error (boot.reopenProtocol, s)
      else
        let s := ((s.stall stall10ms).stall stall10ms).log .receiveFilters
        .ok { s with identity := { s.identity with myMac := boot.currentAddress } }

/-- The gateway is resolved by ARP requests until a reply names it. -/
def NetStack.resolveGateway (s : NetStack) : Option NetStack :=
  let s := { s with arp := { s.arp with resolved := false, targetIp := s.identity.routerIp } }
  requestLoop (fun s => s.arp.resolved) (fun s => some (s.arpRequest s.identity.routerIp)) timeoutArpLoops 0 s

/-- The DHCP loop starts from the open NIC with a random transaction id. -/
def NetStack.dhcp (s : NetStack) : DhcpLoop :=
  let (xid, s) := s.getU32
  DhcpLoop.run xid timeoutDhcpLoops { stack := s }

def Api.initNetwork (boot : Boot) (s : NetStack) : Option (EfiStatus × NetStack) :=
  match s.openNic boot with
  | .error failed => some failed
  | .ok s =>
    let loop := s.dhcp
    if loop.state ≠ .bound then some (.timeout, loop.stack)
    else do
      let s ← loop.stack.resolveGateway
      some (if s.arp.resolved then .success else .timeout, s)

def Api.initNetworkStatic (boot : Boot) (ip gateway mask dns : UINT32) (s : NetStack) :
    Option (EfiStatus × NetStack) :=
  match s.openNic boot with
  | .error failed => some failed
  | .ok s => do
    let s := { s with
      identity := { s.identity with myIp := ip, routerIp := gateway, subnetMask := mask, dnsServerIp := dns } }
    let s ← s.resolveGateway
    some (if s.arp.resolved then .success else .timeout, s)

namespace Scenario

def localMac : Mac := ⟨#[2, 0, 0, 0, 0, 1], rfl⟩
def gatewayMac : Mac := ⟨#[2, 0, 0, 0, 0, 2], rfl⟩

/-- The addresses 10.0.0.2, 10.0.0.1 and 10.0.0.3. -/
def localIp : UINT32 := 0x0200000A
def gatewayIp : UINT32 := 0x0100000A
def remoteIp : UINT32 := 0x0300000A

/-- A boot that opens the NIC at once. -/
def boot : Boot where
  time := none
  rxPage := some .zeros
  txPage := true
  locate := .success
  handleCount := 1
  openProtocol := .success
  reopenProtocol := .success
  currentAddress := localMac

/-- The stack with the open NIC and the answers that Receive will give. -/
def powered (receive : List Receive) : NetStack :=
  match (NetStack.initial .zeros { receive }).openNic boot with
  | .ok s => s
  | .error (_, s) => s

end Scenario
end UefiNetstack
