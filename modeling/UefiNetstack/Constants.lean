import UefiNetstack.Types

namespace UefiNetstack.Constants

def ethertypeIpv4 : UINT16 := 0x0800
def ethertypeArp : UINT16 := 0x0806
def ethBroadcast : Mac := Vector.replicate 6 0xFF

def ipVersionIhlDefault : UINT8 := 0x45
def ipProtoIcmp : UINT8 := 0x01
def ipProtoTcp : UINT8 := 0x06
def ipProtoUdp : UINT8 := 0x11
def ipDefaultTtl : UINT8 := 0x40
def ipHdrMinLen : UINTN := 0x14
def ipv4Broadcast : UINT32 := 0xFFFFFFFF

def arpHtypeEthernet : UINT16 := 0x0001
def arpPtypeIpv4 : UINT16 := 0x0800
def arpHlenEthernet : UINT8 := 0x06
def arpPlenIpv4 : UINT8 := 0x04
def arpOperRequest : UINT16 := 0x0001
def arpOperReply : UINT16 := 0x0002
def arpCacheSize : Nat := 0x08

def icmpTypeEchoReply : UINT8 := 0x00
def icmpTypeEchoRequest : UINT8 := 0x08
def icmpCodeZero : UINT8 := 0x00

def tcpFlagFin : UINT8 := 0x01
def tcpFlagSyn : UINT8 := 0x02
def tcpFlagRst : UINT8 := 0x04
def tcpFlagPsh : UINT8 := 0x08
def tcpFlagAck : UINT8 := 0x10
def tcpFlagSynAck : UINT8 := tcpFlagSyn ||| tcpFlagAck
def tcpFlagFinAck : UINT8 := tcpFlagFin ||| tcpFlagAck
def tcpFlagPshAck : UINT8 := tcpFlagPsh ||| tcpFlagAck
def tcpDataOffset5 : UINT8 := 0x05
def tcpDefaultWindow : UINT16 := 0x2000

def udpPortDns : UINT16 := 0x0035
def udpPortDhcpClient : UINT16 := 0x0044
def udpPortDhcpServer : UINT16 := 0x0043

def dhcpOpRequest : UINT8 := 0x01
def dhcpOpReply : UINT8 := 0x02
def dhcpHtypeEthernet : UINT8 := 0x01
def dhcpHlenEthernet : UINT8 := 0x06
def dhcpMagicCookie : UINT32 := 0x63825363
def dhcpBroadcastFlag : UINT16 := 0x8000
def dhcpMsgDiscover : UINT8 := 0x01
def dhcpMsgOffer : UINT8 := 0x02
def dhcpMsgRequest : UINT8 := 0x03
def dhcpMsgAck : UINT8 := 0x05
def dhcpOptPad : UINT8 := 0x00
def dhcpOptSubnetMask : UINT8 := 0x01
def dhcpOptRouter : UINT8 := 0x03
def dhcpOptDns : UINT8 := 0x06
def dhcpOptRequestedIp : UINT8 := 0x32
def dhcpOptLeaseTime : UINT8 := 0x33
def dhcpOptMsgType : UINT8 := 0x35
def dhcpOptServerId : UINT8 := 0x36
def dhcpOptParamList : UINT8 := 0x37
def dhcpOptEnd : UINT8 := 0xFF
def dhcpOptMaxScan : Nat := 0xFA

def dnsFlagResponse : UINT16 := 0x8000
def dnsFlagRecursion : UINT16 := 0x0100
def dnsTypeA : UINT16 := 0x0001
def dnsClassIn : UINT16 := 0x0001
def dnsPtrMask : UINT8 := 0xC0
def dnsRdlenIpv4 : UINT16 := 0x0004
def googleDnsNbo : UINT32 := 0x08080808

def stall1ms : Nat := 0x03E8
def stall500us : Nat := 0x01F4
def stall100us : Nat := 0x0064
def stall10ms : Nat := 0x2710
def timeoutRetransmit : Nat := 0x1388
def timeoutDhcpLoops : Nat := 0x7A120
def timeoutArpLoops : Nat := 0x30D40
def timeoutTcpLoops : Nat := 0x7A120
def timeoutTxRetries : Nat := 0x1388
def timeoutCloseLoops : Nat := 0x2710

def pktBufSize : Nat := 0x1000
def maxPktSize : Nat := 0x05DC
def dnsPktSize : Nat := 0x0258
def httpReqSize : Nat := 0x0200

def ephemeralPortBase : UINT16 := 0xC000
def ephemeralPortRange : UINT32 := 0x4000

end UefiNetstack.Constants
