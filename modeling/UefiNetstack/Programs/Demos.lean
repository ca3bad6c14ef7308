import UefiNetstack.Api.Init
import UefiNetstack.Console.Addresses
import UefiNetstack.Console.Ascii

namespace UefiNetstack
open Constants Utils LocalMemory

/-- One call of an output function of `io`. -/
inductive Output where
  | str (literal : String)
  | dec (val : UINTN)
  | hex (val : UINTN)
  | ip (address : UINT32)
  | mac (address : Mac)
  | ascii (text : MappedMemory) (len : UINTN)

def Output.print : Output → Console → Option Console
  | .str literal => Console.printStr (wide literal)
  | .dec val => Console.printDec val
  | .hex val => Console.printHex val
  | .ip address => Console.printIp address
  | .mac address => Console.printMac address
  | .ascii text len => Console.printAsciiN (some text) len

/-- The stack and the console that a program works on. -/
structure Machine where
  stack : NetStack
  console : Console

namespace Machine

/-- The outputs one after the other. -/
def print (outputs : List Output) (machine : Machine) : Option Machine :=
  (outputs.foldlM (fun console (output : Output) => output.print console) machine.console).map fun console =>
    { machine with console }

def initNetwork (boot : Boot) (machine : Machine) : Option (EfiStatus × Machine) :=
  (Api.initNetwork boot machine.stack).map fun (st, stack) => (st, { machine with stack })

def initNetworkStatic (boot : Boot) (ip gateway mask dns : UINT32) (machine : Machine) :
    Option (EfiStatus × Machine) :=
  (Api.initNetworkStatic boot ip gateway mask dns machine.stack).map fun (st, stack) => (st, { machine with stack })

def ping (targetIp timeoutMs : UINT32) (machine : Machine) : Option (EfiStatus × Machine) :=
  (Api.ping targetIp timeoutMs machine.stack).map fun (st, stack) => (st, { machine with stack })

def resolveHostname (hostname : CString) (outIp : UINT32) (machine : Machine) :
    Option (EfiStatus × UINT32 × Machine) :=
  (Api.resolveHostname hostname outIp machine.stack).map fun (st, ip, stack) => (st, ip, { machine with stack })

def tcpConnect (ip : UINT32) (port : UINT16) (machine : Machine) : Option (EfiStatus × Machine) :=
  (Api.tcpConnect ip port machine.stack).map fun (st, stack) => (st, { machine with stack })

def tcpSend (data : Bytes) (machine : Machine) : Option (EfiStatus × Machine) :=
  (Api.tcpSend data machine.stack).map fun (st, stack) => (st, { machine with stack })

def tcpClose (machine : Machine) : Option (EfiStatus × Machine) :=
  (Api.tcpClose machine.stack).map fun (st, stack) => (st, { machine with stack })

def udpSend (destIp : UINT32) (destPort : UINT16) (data : Bytes) (machine : Machine) : Option (EfiStatus × Machine) :=
  (Api.udpSend destIp destPort data machine.stack).map fun (st, stack) => (st, { machine with stack })

/-- What a call that fills a buffer returns, with the machine behind it. -/
def receive (call : NetStack → Option Received) (machine : Machine) : Option (Received × Machine) :=
  (call machine.stack).map fun received => (received, { machine with stack := received.stack })

end Machine

namespace Program
open Machine

/-- A literal of the sources has no zero in it. -/
def exampleCom : CString := { chars := asciiBytes "example.com", noNul := by decide }

def slash : CString := { chars := asciiBytes "/", noNul := by decide }

def banner : List Output :=
  [.str "\r\n", .str "========================================================\r\n",
    .str "  UEFI Bare-Metal Network Stack v1.0\r\n", .str "  IA made but it works i think...\r\n",
    .str "========================================================\r\n\r\n"]

/-- Step 2 shows the identity, and the lease time if there is one. -/
def configuration (identity : Identity) : List Output :=
  [.str "--- Network Configuration ---\r\n",
    .str "  MAC Address : ", .mac identity.myMac, .str "\r\n",
    .str "  IP Address  : ", .ip identity.myIp, .str "\r\n",
    .str "  Subnet Mask : ", .ip identity.subnetMask, .str "\r\n",
    .str "  Gateway     : ", .ip identity.routerIp, .str "\r\n",
    .str "  DNS Server  : ", .ip identity.dnsServerIp, .str "\r\n"] ++
  (if identity.dhcpLeaseTime > 0x00#32 then
    [.str "  Lease Time  : ", .dec (identity.dhcpLeaseTime.setWidth 64), .str " seconds\r\n"]
  else []) ++
  [.str "-----------------------------\r\n\r\n"]

/-- Step 3. -/
def pingGateway (machine : Machine) : Option Machine := do
  let machine ← machine.print
    [.str "[*] Pinging gateway (", .ip machine.stack.identity.routerIp, .str ")...\r\n"]
  let (st, machine) ← machine.ping machine.stack.identity.routerIp 0x0BB8#32
  machine.print
    (if ¬st.isError then [.str "[+] Ping reply received!\r\n\r\n"]
    else [.str "[-] Ping timeout (gateway may block ICMP)\r\n\r\n"])

/-- Step 4. -/
def resolveExample (machine : Machine) : Option Machine := do
  let machine ← machine.print [.str "[*] Resolving example.com...\r\n"]
  let (st, resolvedIp, machine) ← machine.resolveHostname exampleCom 0x00#32
  machine.print
    (if ¬st.isError then [.str "[+] example.com -> ", .ip resolvedIp, .str "\r\n\r\n"]
    else [.str "[-] DNS resolution failed.\r\n\r\n"])

/-- The receive buffer of a program, cleared. -/
def cleared (size : Nat) (uninitialized : Memory) : Memory := localZeroMem 0 size uninitialized

/-- A received text between two texts, or the other text. -/
def showResponse (size : Nat) (before after failed : List Output) (received : Received) : List Output :=
  if ¬received.status.isError ∧ received.actualLen > 0x00#64 then
    before ++ [.ascii { byte := received.buffer, limit := size } received.actualLen] ++ after
  else failed

/-- Step 5. -/
def fetchExample (uninitialized : Memory) (machine : Machine) : Option Machine := do
  let machine ← machine.print [.str "[*] Fetching http://example.com/ ...\r\n"]
  let (received, machine) ←
    machine.receive (Api.httpGet exampleCom slash (cleared 0x1000 uninitialized) 0x0FFF#64 0x00#64)
  machine.print
    (showResponse 0x1000
      [.str "\r\n--- HTTP Response (", .dec received.actualLen, .str " bytes) ---\r\n"]
      [.str "\r\n--- End of Response ---\r\n"] [.str "[-] HTTP request failed.\r\n"] received)

/-- `EfiMain` of `main.cpp`. -/
def main (boot : Boot) (uninitialized : Memory) (machine : Machine) : Option (EfiStatus × Machine) := do
  let machine ← machine.print (banner ++ [.str "[*] Initializing network (DHCP)...\r\n"])
  let (st, machine) ← machine.initNetwork boot
  if st.isError then
    let machine ← machine.print [.str "[!] Network initialization failed: ", .hex st.code, .str "\r\n"]
    some (st, machine)
  else
    let machine ← machine.print [.str "[+] Network initialized successfully!\r\n\r\n"]
    let machine ← machine.print (configuration machine.stack.identity)
    let machine ← pingGateway machine
    let machine ← resolveExample machine
    let machine ← fetchExample uninitialized machine
    let machine ← machine.print [.str "\r\n[*] Demo complete. Press reset to reboot.\r\n"]
    some (.success, machine)

/-- The examples but that of the static address start with DHCP and end with its error. -/
def withNetwork (title : String) (program : Machine → Option (EfiStatus × Machine)) (boot : Boot) (machine : Machine) :
    Option (EfiStatus × Machine) := do
  let machine ← machine.print [.str title]
  let (st, machine) ← machine.initNetwork boot
  if st.isError then
    let machine ← machine.print [.str "[!] Network init failed.\r\n"]
    some (st, machine)
  else program machine

/-- The hosts of `example_dns_lookup.cpp` with their labels. -/
def hosts : List (CString × String) :=
  [(exampleCom, "example.com"), ({ chars := asciiBytes "google.com", noNul := by decide }, "google.com"),
    ({ chars := asciiBytes "github.com", noNul := by decide }, "github.com"),
    ({ chars := asciiBytes "cloudflare.com", noNul := by decide }, "cloudflare.com")]

def lookupHost (host : CString × String) (machine : Machine) : Option Machine := do
  let machine ← machine.print [.str "  ", .str host.2, .str " -> "]
  let (st, ip, machine) ← machine.resolveHostname host.1 0x00#32
  let machine ← machine.print (if ¬st.isError then [.ip ip] else [.str "FAILED"])
  machine.print [.str "\r\n"]

def dnsLookup (boot : Boot) (machine : Machine) : Option (EfiStatus × Machine) :=
  withNetwork "\r\n=== Example: DNS Lookup ===\r\n\r\n" (fun machine => do
    let machine ← machine.print [.str "[+] DNS Server: ", .ip machine.stack.identity.dnsServerIp, .str "\r\n\r\n"]
    let machine ← hosts.foldlM (fun machine host => lookupHost host machine) machine
    let machine ← machine.print [.str "\r\n[*] Done.\r\n"]
    some (.success, machine)) boot machine

def httpGet (boot : Boot) (uninitialized : Memory) (machine : Machine) : Option (EfiStatus × Machine) :=
  withNetwork "\r\n=== Example: HTTP GET ===\r\n\r\n" (fun machine => do
    let machine ← machine.print [.str "[+] IP: ", .ip machine.stack.identity.myIp, .str "\r\n\r\n"]
    let machine ← machine.print [.str "[*] GET http://example.com/ ...\r\n"]
    let (received, machine) ←
      machine.receive (Api.httpGet exampleCom slash (cleared 0x1000 uninitialized) 0x0FFF#64 0x00#64)
    let machine ← machine.print
      (showResponse 0x1000 [.str "\r\n"]
        [.str "\r\n\r\n[+] Received ", .dec received.actualLen, .str " bytes.\r\n"]
        [.str "[-] Request failed.\r\n"] received)
    some (.success, machine)) boot machine

/-- A round of `example_ping.cpp`, with the second of waiting behind it. -/
def pingRound (i : Nat) (machine : Machine) : Option Machine := do
  let machine ← machine.print
    [.str "[*] Ping ", .ip machine.stack.identity.routerIp, .str " #", .dec (BitVec.ofNat 64 (i + 1)), .str " ... "]
  let (st, machine) ← machine.ping machine.stack.identity.routerIp 3000#32
  let machine ← machine.print (if ¬st.isError then [.str "Reply received!\r\n"] else [.str "Timeout.\r\n"])
  some { machine with stack := machine.stack.stall 1000000 }

def pingGatewayRounds (boot : Boot) (machine : Machine) : Option (EfiStatus × Machine) :=
  withNetwork "\r\n=== Example: ICMP Ping ===\r\n\r\n" (fun machine => do
    let machine ← machine.print [.str "[+] Network ready. IP: ", .ip machine.stack.identity.myIp, .str "\r\n\r\n"]
    let machine ← (List.range 5).foldlM (fun machine i => pingRound i machine) machine
    let machine ← machine.print [.str "\r\n[*] Done.\r\n"]
    some (.success, machine)) boot machine

def googleCom : CString := { chars := asciiBytes "google.com", noNul := by decide }

/-- `example_static_ip.cpp` after the initialization. -/
def useStatic (gateway : UINT32) (machine : Machine) : Option (EfiStatus × Machine) := do
  let machine ← machine.print [.str "[+] Network ready with static IP!\r\n"]
  let machine ← machine.print
    [.str "[+] Gateway MAC: ", .mac machine.stack.identity.routerMac, .str "\r\n\r\n",
      .str "[*] Pinging gateway...\r\n"]
  let (st, machine) ← machine.ping gateway 3000#32
  let machine ← machine.print
    (if ¬st.isError then [.str "[+] Gateway is reachable!\r\n"] else [.str "[-] Ping timeout.\r\n"])
  let machine ← machine.print [.str "\r\n[*] Resolving google.com...\r\n"]
  let (st, resolved, machine) ← machine.resolveHostname googleCom 0#32
  let machine ← machine.print
    (if ¬st.isError then [.str "[+] google.com -> ", .ip resolved, .str "\r\n"] else [.str "[-] DNS failed.\r\n"])
  let machine ← machine.print [.str "\r\n[*] Done.\r\n"]
  some (.success, machine)

def staticIp (boot : Boot) (machine : Machine) : Option (EfiStatus × Machine) := do
  let machine ← machine.print [.str "\r\n=== Example: Static IP Configuration ===\r\n\r\n"]
  let myIp := makeIpv4 192 168 1 200
  let gateway := makeIpv4 192 168 1 1
  let mask := makeIpv4 255 255 255 0
  let dns := makeIpv4 8 8 8 8
  let machine ← machine.print
    [.str "[*] Configuring static IP...\r\n", .str "  IP      : ", .ip myIp, .str "\r\n",
      .str "  Gateway : ", .ip gateway, .str "\r\n", .str "  Mask    : ", .ip mask, .str "\r\n",
      .str "  DNS     : ", .ip dns, .str "\r\n\r\n"]
  let (st, machine) ← machine.initNetworkStatic boot myIp gateway mask dns
  if st.isError then
    let machine ← machine.print
      [.str "[!] Static init failed (ARP timeout?): ", .hex st.code, .str "\r\n"]
    some (st, machine)
  else useStatic gateway machine

def clientRequest : CString where
  chars := asciiBytes "GET / HTTP/1.1\r\nHost: example.com\r\nConnection: close\r\n\r\n"
  noNul := by decide

/-- `example_tcp_client.cpp` behind its connection. -/
def useConnection (uninitialized : Memory) (machine : Machine) : Option (EfiStatus × Machine) := do
  let machine ← machine.print [.str "[+] Connected!\r\n"]
  let reqLen ← asciiStrLen (stored clientRequest)
  let machine ← machine.print
    [.str "[*] Sending request (", .dec (BitVec.ofNat 64 reqLen), .str " bytes)...\r\n"]
  let (st, machine) ← machine.tcpSend ((stored clientRequest).byte.slice 0 reqLen)
  if st.isError then
    let machine ← machine.print [.str "[!] Send failed.\r\n"]
    let (_, machine) ← machine.tcpClose
    some (st, machine)
  else
    let machine ← machine.print [.str "[*] Waiting for response...\r\n"]
    let (received, machine) ← machine.receive (Api.tcpReceive (cleared 0x1000 uninitialized) 0x0FFF#64 5000#32)
    let machine ← machine.print
      (showResponse 0x1000 [.str "\r\n--- Response (", .dec received.actualLen, .str " bytes) ---\r\n"]
        [.str "\r\n--- End ---\r\n"] [.str "[-] No response received.\r\n"] received)
    let (_, machine) ← machine.tcpClose
    let machine ← machine.print [.str "\r\n[*] Connection closed. Done.\r\n"]
    some (.success, machine)

def tcpClient (boot : Boot) (uninitialized : Memory) (machine : Machine) : Option (EfiStatus × Machine) :=
  withNetwork "\r\n=== Example: TCP Client ===\r\n\r\n" (fun machine => do
    let machine ← machine.print [.str "[*] Resolving example.com...\r\n"]
    let (st, serverIp, machine) ← machine.resolveHostname exampleCom 0#32
    if st.isError then
      let machine ← machine.print [.str "[!] DNS failed.\r\n"]
      some (st, machine)
    else
      let machine ← machine.print [.str "[+] Server IP: ", .ip serverIp, .str "\r\n",
        .str "[*] Connecting to port 80...\r\n"]
      let (st, machine) ← machine.tcpConnect serverIp 80#16
      if st.isError then
        let machine ← machine.print [.str "[!] TCP connect failed.\r\n"]
        some (st, machine)
      else useConnection uninitialized machine) boot machine

def echoMessage : CString := { chars := asciiBytes "Hello from UEFI!", noNul := by decide }

/-- The program binds the port itself. -/
def bindEphemeral (machine : Machine) : Machine :=
  let (port, stack) := machine.stack.getEphemeralPort
  { machine with stack := { stack with udp := { stack.udp with localPort := port } } }

/-- `example_udp_echo.cpp` behind its initialization. The status of the send is not looked at. -/
def exchangeDatagrams (uninitialized : Memory) (machine : Machine) : Option (EfiStatus × Machine) := do
  let machine ← machine.print [.str "[+] IP: ", .ip machine.stack.identity.myIp, .str "\r\n\r\n"]
  let targetIp := machine.stack.identity.routerIp
  let targetPort := 7777#16
  let msgLen ← asciiStrLen (stored echoMessage)
  let machine := bindEphemeral machine
  let machine ← machine.print
    [.str "[*] Sending UDP to ", .ip targetIp, .str ":", .dec (targetPort.setWidth 64), .str "\r\n"]
  let (_, machine) ← machine.udpSend targetIp targetPort ((stored echoMessage).byte.slice 0 msgLen)
  let machine ← machine.print [.str "[+] Sent ", .dec (BitVec.ofNat 64 msgLen), .str " bytes.\r\n"]
  let machine ← machine.print [.str "[*] Waiting for reply (5 sec timeout)...\r\n"]
  let (received, machine) ← machine.receive (Api.udpReceive (cleared 0x200 uninitialized) 0x01FF#64 5000#32)
  let machine ← machine.print
    (showResponse 0x200 [.str "[+] Received ", .dec received.actualLen, .str " bytes: "] [.str "\r\n"]
      [.str "[-] No reply (timeout or server not running).\r\n"] received)
  let machine ← machine.print [.str "\r\n[*] Done.\r\n"]
  some (.success, machine)

def udpEcho (boot : Boot) (uninitialized : Memory) (machine : Machine) : Option (EfiStatus × Machine) :=
  withNetwork "\r\n=== Example: UDP Echo ===\r\n\r\n" (exchangeDatagrams uninitialized) boot machine

end Program
end UefiNetstack
