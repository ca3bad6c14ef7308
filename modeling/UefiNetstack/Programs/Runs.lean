import UefiNetstack.Buffers.Receive
import UefiNetstack.Programs.Plans
import UefiNetstack.Session.Received

namespace UefiNetstack
open Constants NetStack Utils Relation

/-- An output without a memory. -/
def Output.plain : Output → Bool
  | .ascii _ _ => false
  | _ => true

theorem fits_of_plain {outputs : List Output} (plain : outputs.all Output.plain) :
    ∀ output ∈ outputs, output.Fits := by
  intro output member
  have bare := List.all_eq_true.mp plain output member
  cases output with
  | ascii => cases bare
  | _ => trivial

/-- A receive call counts at most the size of its buffer. -/
theorem receive_bounded (channel : Channel) {buffer : Memory} {maxLen : UINTN} {timeoutMs : UINT32}
    {received : Received} {s : NetStack} (done : Api.receive channel buffer maxLen timeoutMs s = some received) :
    received.actualLen ≤ maxLen := by
  obtain ⟨ended, loop, actualLen, -⟩ := receive_returns done
  rw [actualLen]
  exact (waitOn_waits (receiveStart_waits channel buffer maxLen s) loop).counted

theorem httpGet_bounded {hostname path : CString} {buffer : Memory} {maxLen actualLen : UINTN} {received : Received}
    {s : NetStack} (done : Api.httpGet hostname path buffer maxLen actualLen s = some received)
    (success : ¬received.status.isError) : received.actualLen ≤ maxLen := by
  rcases httpGet_cases done with ⟨failed, -⟩ | ⟨before, inner, -, receives, -, same⟩
  · exact absurd failed success
  · rw [same]
    exact receive_bounded .tcp receives

namespace Program
open Machine

theorem showResponse_fits {size : Nat} (maxLen : UINTN) {before after failed : List Output} {received : Received}
    (room : maxLen.toNat ≤ size) (bounded : ¬received.status.isError → received.actualLen ≤ maxLen)
    (plainBefore : before.all Output.plain) (plainAfter : after.all Output.plain)
    (plainFailed : failed.all Output.plain) :
    ∀ output ∈ showResponse size before after failed received, output.Fits := by
  unfold showResponse
  split
  · rename_i shown
    intro output member
    rcases List.mem_append.mp member with front | back
    · rcases List.mem_append.mp front with front | text
      · exact fits_of_plain plainBefore output front
      · rw [List.mem_singleton.mp text]
        exact (BitVec.le_def.mp (bounded shown.1)).trans room
    · exact fits_of_plain plainAfter output back
  · exact fits_of_plain plainFailed

variable {m : Machine} {Result : Type} {after : Result → Machine} {plan : Plan} {f : Machine → Option Result}

theorem configuration_fits (identity : Identity) : ∀ output ∈ configuration identity, output.Fits := by
  refine fits_of_plain ?_
  unfold configuration
  split
  · rfl
  · rfl

def pingPlan (timeoutMs : UINT32) (next : Plan) : Plan :=
  .call (fun s => .call (.ping s.identity.routerIp timeoutMs)) fun _ => next

def resolvePlan (hostname : CString) (next : Plan) : Plan :=
  .call (fun _ => .call (.resolveHostname hostname 0#32)) fun _ => next

/-- The buffer of the call has the size of a page. -/
def fetchPlan (uninitialized : Memory) (next : Plan) : Plan :=
  .call (fun _ => .httpGet exampleCom slash (cleared 0x1000 uninitialized) 0x0FFF#64 0#64) fun _ => next

/-- Every program but that of the static address stops when DHCP fails. -/
def networkPlan (boot : Boot) (next : Plan) : Plan :=
  .call (fun _ => .initNetwork boot) fun reply => if reply.status.isError then .stop else next

def mainPlan (boot : Boot) (uninitialized : Memory) : Plan :=
  networkPlan boot (pingPlan 3000#32 (resolvePlan exampleCom (fetchPlan uninitialized .stop)))

theorem pingGateway_follows (rest : ∀ m', Follows plan m' after (f m')) :
    Follows (pingPlan 3000#32 plan) m after ((pingGateway m).bind f) := by
  unfold pingGateway
  simp only [Option.bind_eq_bind, Option.bind_assoc]
  refine .print (fits_of_plain rfl) fun m _ => ?_
  refine .ping rfl fun st stack => .print ?_ fun m _ => rest m
  split
  · exact fits_of_plain rfl
  · exact fits_of_plain rfl

theorem resolveExample_follows (rest : ∀ m', Follows plan m' after (f m')) :
    Follows (resolvePlan exampleCom plan) m after ((resolveExample m).bind f) := by
  unfold resolveExample
  simp only [Option.bind_eq_bind, Option.bind_assoc]
  refine .print (fits_of_plain rfl) fun m _ => ?_
  refine .resolveHostname rfl fun st ip stack => .print ?_ fun m _ => rest m
  split
  · exact fits_of_plain rfl
  · exact fits_of_plain rfl

theorem fetchExample_follows (uninitialized : Memory) (rest : ∀ m', Follows plan m' after (f m')) :
    Follows (fetchPlan uninitialized plan) m after ((fetchExample uninitialized m).bind f) := by
  unfold fetchExample
  simp only [Option.bind_eq_bind, Option.bind_assoc]
  refine .print (fits_of_plain rfl) fun m _ => ?_
  refine .receive rfl fun received done => .print ?_ fun m _ => rest m
  exact showResponse_fits 0x0FFF#64 (by decide) (httpGet_bounded done) rfl rfl rfl

theorem main_follows (boot : Boot) (uninitialized : Memory) :
    Follows (mainPlan boot uninitialized) m (·.2) (main boot uninitialized m) := by
  refine .print (fits_of_plain rfl) fun m _ => ?_
  refine .initNetwork rfl fun st stack _ => ?_
  dsimp only
  split
  · exact .print (fits_of_plain rfl) fun m _ => .stop rfl
  refine .print (fits_of_plain rfl) fun m _ => ?_
  refine .print (configuration_fits _) fun m _ => ?_
  refine pingGateway_follows fun m => resolveExample_follows fun m => fetchExample_follows uninitialized fun m => ?_
  exact .print (fits_of_plain rfl) fun m _ => .stop rfl

theorem withNetwork_follows {title : String} {program : Machine → Option (EfiStatus × Machine)} (boot : Boot)
    (follows : ∀ m, Follows plan m (·.2) (program m)) :
    Follows (networkPlan boot plan) m (·.2) (withNetwork title program boot m) := by
  refine .print (fits_of_plain rfl) fun m _ => ?_
  refine .initNetwork rfl fun st stack _ => ?_
  dsimp only
  split
  · exact .print (fits_of_plain rfl) fun m _ => .stop rfl
  · exact follows _

/-- The rounds of a loop, each with its own plan. -/
theorem foldlM_follows {Item : Type} {round : Machine → Item → Option Machine} {roundPlan : Item → Plan → Plan}
    (follows : ∀ {plan f} m item, (∀ m', Follows plan m' after (f m')) →
      Follows (roundPlan item plan) m after ((round m item).bind f))
    (rest : ∀ m', Follows plan m' after (f m')) (items : List Item) :
    Follows (items.foldr roundPlan plan) m after ((items.foldlM round m).bind f) := by
  induction items generalizing m with
  | nil => exact rest m
  | cons item items ih =>
      rw [List.foldlM_cons, Option.bind_eq_bind, Option.bind_assoc]
      exact follows m item fun m' => ih

def lookupPlan (host : CString × String) (next : Plan) : Plan := resolvePlan host.1 next

theorem lookupHost_follows (host : CString × String) (rest : ∀ m', Follows plan m' after (f m')) :
    Follows (lookupPlan host plan) m after ((lookupHost host m).bind f) := by
  unfold lookupHost
  simp only [Option.bind_eq_bind, Option.bind_assoc]
  refine .print (fits_of_plain rfl) fun m _ => ?_
  refine .resolveHostname rfl fun st ip stack => ?_
  refine .print ?_ fun m _ => .print (fits_of_plain rfl) fun m _ => rest m
  split
  · exact fits_of_plain rfl
  · exact fits_of_plain rfl

def dnsLookupPlan (boot : Boot) : Plan := networkPlan boot (hosts.foldr lookupPlan .stop)

theorem dnsLookup_follows (boot : Boot) : Follows (dnsLookupPlan boot) m (·.2) (dnsLookup boot m) := by
  refine withNetwork_follows boot fun m => ?_
  refine .print (fits_of_plain rfl) fun m _ => ?_
  refine foldlM_follows (fun m host rest => lookupHost_follows host rest) (fun m => ?_) hosts
  exact .print (fits_of_plain rfl) fun m _ => .stop rfl

theorem httpGet_follows (boot : Boot) (uninitialized : Memory) :
    Follows (networkPlan boot (fetchPlan uninitialized .stop)) m (·.2) (httpGet boot uninitialized m) := by
  refine withNetwork_follows boot fun m => ?_
  refine .print (fits_of_plain rfl) fun m _ => ?_
  refine .print (fits_of_plain rfl) fun m _ => ?_
  refine .receive rfl fun received done => .print ?_ fun m _ => .stop rfl
  exact showResponse_fits 0x0FFF#64 (by decide) (httpGet_bounded done) rfl rfl rfl

/-- A ping and a second of waiting. -/
def roundPlan (_ : Nat) (next : Plan) : Plan := pingPlan 3000#32 (.wait 1000000 next)

theorem pingRound_follows (i : Nat) (rest : ∀ m', Follows plan m' after (f m')) :
    Follows (roundPlan i plan) m after ((pingRound i m).bind f) := by
  unfold pingRound
  simp only [Option.bind_eq_bind, Option.bind_assoc]
  refine .print (fits_of_plain rfl) fun m _ => ?_
  refine .ping rfl fun st stack => .print ?_ fun m _ => .waits (rest _)
  split
  · exact fits_of_plain rfl
  · exact fits_of_plain rfl

def pingRoundsPlan (boot : Boot) : Plan := networkPlan boot ((List.range 5).foldr roundPlan .stop)

theorem pingGatewayRounds_follows (boot : Boot) :
    Follows (pingRoundsPlan boot) m (·.2) (pingGatewayRounds boot m) := by
  refine withNetwork_follows boot fun m => ?_
  refine .print (fits_of_plain rfl) fun m _ => ?_
  refine foldlM_follows (fun m i rest => pingRound_follows i rest) (fun m => ?_) (List.range 5)
  exact .print (fits_of_plain rfl) fun m _ => .stop rfl

def staticPlan (boot : Boot) : Plan :=
  .call (fun _ => .initNetworkStatic boot (makeIpv4 192 168 1 200) (makeIpv4 192 168 1 1) (makeIpv4 255 255 255 0)
    (makeIpv4 8 8 8 8)) fun reply =>
      if reply.status.isError then .stop
      else .call (fun _ => .call (.ping (makeIpv4 192 168 1 1) 3000#32)) fun _ => resolvePlan googleCom .stop

theorem useStatic_follows (gateway : UINT32) :
    Follows (.call (fun _ => .call (.ping gateway 3000#32)) fun _ => resolvePlan googleCom .stop) m (·.2)
      (useStatic gateway m) := by
  refine .print (fits_of_plain rfl) fun m _ => ?_
  refine .print (fits_of_plain rfl) fun m _ => ?_
  refine .ping rfl fun st stack => ?_
  refine .print ?_ fun m _ => ?_
  · split
    · exact fits_of_plain rfl
    · exact fits_of_plain rfl
  refine .print (fits_of_plain rfl) fun m _ => ?_
  refine .resolveHostname rfl fun st ip stack => ?_
  refine .print ?_ fun m _ => .print (fits_of_plain rfl) fun m _ => .stop rfl
  split
  · exact fits_of_plain rfl
  · exact fits_of_plain rfl

theorem staticIp_follows (boot : Boot) : Follows (staticPlan boot) m (·.2) (staticIp boot m) := by
  refine .print (fits_of_plain rfl) fun m _ => ?_
  refine .print (fits_of_plain rfl) fun m _ => ?_
  refine .initNetworkStatic rfl fun st stack => ?_
  dsimp only
  split
  · exact .print (fits_of_plain rfl) fun m _ => .stop rfl
  · exact useStatic_follows _

/-- A send that fails closes the connection at once. -/
def connectionPlan (uninitialized : Memory) : Plan :=
  .call (fun _ => .call (.tcpSend clientRequest.chars)) fun reply =>
    if reply.status.isError then .call (fun _ => .call .tcpClose) fun _ => .stop
    else
      .call (fun _ => .call (.tcpReceive (cleared 0x1000 uninitialized) 0x0FFF#64 5000#32)) fun _ =>
        .call (fun _ => .call .tcpClose) fun _ => .stop

/-- The client connects to the address that the lookup has returned. -/
def clientPlan (boot : Boot) (uninitialized : Memory) : Plan :=
  networkPlan boot (.call (fun _ => .call (.resolveHostname exampleCom 0#32)) fun reply =>
    if reply.status.isError then .stop
    else
      .call (fun _ => .call (.tcpConnect reply.address 80#16)) fun reply =>
        if reply.status.isError then .stop else connectionPlan uninitialized)

theorem useConnection_follows (uninitialized : Memory) :
    Follows (connectionPlan uninitialized) m (·.2) (useConnection uninitialized m) := by
  refine .print (fits_of_plain rfl) fun m _ => ?_
  simp only [asciiStrLen_stored, Option.bind_eq_bind, Option.bind_some]
  refine .print (fits_of_plain rfl) fun m _ => ?_
  refine .tcpSend ?_ fun st stack => ?_
  · rfl
  dsimp only
  split
  · exact .print (fits_of_plain rfl) fun m _ => .tcpClose rfl fun _ _ => .stop rfl
  refine .print (fits_of_plain rfl) fun m _ => ?_
  refine .receive rfl fun received done => ?_
  refine .print ?_ fun m _ => ?_
  · exact showResponse_fits 0x0FFF#64 (by decide) (fun _ => receive_bounded .tcp done) rfl rfl rfl
  refine .tcpClose rfl fun _ _ => ?_
  exact .print (fits_of_plain rfl) fun m _ => .stop rfl

theorem tcpClient_follows (boot : Boot) (uninitialized : Memory) :
    Follows (clientPlan boot uninitialized) m (·.2) (tcpClient boot uninitialized m) := by
  refine withNetwork_follows boot fun m => ?_
  refine .print (fits_of_plain rfl) fun m _ => ?_
  refine .resolveHostname rfl fun st ip stack => ?_
  dsimp only
  split
  · exact .print (fits_of_plain rfl) fun m _ => .stop rfl
  refine .print (fits_of_plain rfl) fun m _ => ?_
  refine .tcpConnect rfl fun st stack => ?_
  dsimp only
  split
  · exact .print (fits_of_plain rfl) fun m _ => .stop rfl
  · exact useConnection_follows uninitialized

/-- The program binds a port where `udp_send` would bind the same one. -/
theorem udpSend_bound {destIp : UINT32} {destPort : UINT16} {data : Bytes}
    (unbound : m.stack.udp.localPort = 0#16) (text : List CHAR16) :
    ((bindEphemeral m).put text).udpSend destIp destPort data = (m.put text).udpSend destIp destPort data := by
  have bound : m.stack.getEphemeralPort.1 ≠ 0#16 := by
    intro zero
    have large := getEphemeralPort_ge m.stack
    rw [zero] at large
    exact absurd large (by decide)
  have once : (bindEphemeral m).stack.udpBind = (bindEphemeral m).stack := if_neg bound
  have same : m.stack.udpBind = (bindEphemeral m).stack := if_pos unbound
  have sends : Api.udpSend destIp destPort data (bindEphemeral m).stack = Api.udpSend destIp destPort data m.stack := by
    rw [Api.udpSend, once, ← same, Api.udpSend]
  exact congrArg (Option.map _) sends

theorem print_bound {outputs : List Output} {destIp : UINT32} {destPort : UINT16} {data : Bytes} {Result : Type}
    {rest : EfiStatus × Machine → Option Result} (plain : outputs.all Output.plain)
    (unbound : m.stack.udp.localPort = 0#16) :
    ((bindEphemeral m).print outputs).bind (fun m => (m.udpSend destIp destPort data).bind rest) =
      (m.print outputs).bind fun m => (m.udpSend destIp destPort data).bind rest := by
  rw [print_eq (fits_of_plain plain), print_eq (fits_of_plain plain), Option.bind_some, Option.bind_some,
    udpSend_bound unbound]

/-- No initialization binds the port. -/
theorem initNetwork_unbound {boot : Boot} {s s' : NetStack} {st : EfiStatus}
    (done : Api.initNetwork boot s = some (st, s')) (unbound : s.udp.localPort = 0#16) :
    s'.udp.localPort = 0#16 := by
  have polls {before after : NetStack} (polled : before.poll = some after)
      (unbound : before.udp.localPort = 0#16) : after.udp.localPort = 0#16 := by
    cases poll_bufferStep polled with
    | nothing nothing => rw [nothing.udp, unbound]
    | tcp _ _ _ _ _ udp _ => rw [udp, unbound]
    | udp _ _ _ _ stored _ _ => rw [stored]; exact unbound
  obtain ⟨prepared, prepares, ⟨-, rfl⟩ | ⟨resolved, -⟩⟩ := initNetwork_asks done
  · rw [prepares.udp, unbound]
  · refine requestLoop_keeps (P := fun s => s.udp.localPort = 0#16) ?_ ?_ ?_ ?_ resolved
    · intro before after unbound waiting asked
      obtain rfl := Option.some.inj asked
      exact ⟨unbound, waiting⟩
    · exact fun before after unbound _ polled => polls polled unbound
    · exact fun before unbound => unbound
    · exact (congrArg UdpReceiver.localPort prepares.udp).trans unbound

/-- The program sends from the port that `udp_send` would bind. -/
def echoPlan (uninitialized : Memory) : Plan :=
  .call (fun s => .call (.udpSend s.identity.routerIp 7777#16 echoMessage.chars)) fun _ =>
    .call (fun _ => .call (.udpReceive (cleared 0x200 uninitialized) 0x01FF#64 5000#32)) fun _ => .stop

theorem exchangeDatagrams_follows (uninitialized : Memory) (unbound : m.stack.udp.localPort = 0#16) :
    Follows (echoPlan uninitialized) m (·.2) (exchangeDatagrams uninitialized m) := by
  refine .print (fits_of_plain rfl) fun m' kept => ?_
  rw [← kept] at unbound
  simp only [asciiStrLen_stored, Option.bind_eq_bind, Option.bind_some]
  rw [print_bound rfl unbound]
  refine .print (fits_of_plain rfl) fun m same => ?_
  refine .udpSend ?_ fun _ stack => ?_
  · rw [same]
    rfl
  refine .print (fits_of_plain rfl) fun m _ => ?_
  refine .print (fits_of_plain rfl) fun m _ => ?_
  refine .receive rfl fun received done => ?_
  refine .print ?_ fun m _ => .print (fits_of_plain rfl) fun m _ => .stop rfl
  exact showResponse_fits 0x01FF#64 (by decide) (fun _ => receive_bounded .udp done) rfl rfl rfl

theorem udpEcho_follows (boot : Boot) (uninitialized : Memory) (unbound : m.stack.udp.localPort = 0#16) :
    Follows (networkPlan boot (echoPlan uninitialized)) m (·.2) (udpEcho boot uninitialized m) := by
  refine .print (fits_of_plain rfl) fun m' kept => ?_
  refine .initNetwork rfl fun st stack done => ?_
  dsimp only
  split
  · exact .print (fits_of_plain rfl) fun m _ => .stop rfl
  · exact exchangeDatagrams_follows uninitialized (initNetwork_unbound done (kept ▸ unbound))

end Program

/-- The programs of the repository, each with its `EfiMain`. -/
inductive Demo where
  | main
  | dnsLookup
  | httpGet
  | ping
  | staticIp
  | tcpClient
  | udpEcho

def Demo.run (boot : Boot) (uninitialized : Memory) (m : Machine) : Demo → Option (EfiStatus × Machine)
  | .main => Program.main boot uninitialized m
  | .dnsLookup => Program.dnsLookup boot m
  | .httpGet => Program.httpGet boot uninitialized m
  | .ping => Program.pingGatewayRounds boot m
  | .staticIp => Program.staticIp boot m
  | .tcpClient => Program.tcpClient boot uninitialized m
  | .udpEcho => Program.udpEcho boot uninitialized m

/-- The machine on which a program starts: the globals as they are initialized, and the console of the firmware. -/
def Machine.started (rxPkt : RxPkt) (snp : Snp) (console : Console) : Machine := ⟨.initial rxPkt snp, console⟩

/-- What each program asks of the stack, in its order. -/
def Demo.plan (boot : Boot) (uninitialized : Memory) : Demo → Plan
  | .main => Program.mainPlan boot uninitialized
  | .dnsLookup => Program.dnsLookupPlan boot
  | .httpGet => Program.networkPlan boot (Program.fetchPlan uninitialized .stop)
  | .ping => Program.pingRoundsPlan boot
  | .staticIp => Program.staticPlan boot
  | .tcpClient => Program.clientPlan boot uninitialized
  | .udpEcho => Program.networkPlan boot (Program.echoPlan uninitialized)

theorem Demo.executes (demo : Demo) (boot : Boot) (uninitialized : Memory) (rxPkt : RxPkt) (snp : Snp)
    (console : Console) : Executes (demo.plan boot uninitialized) (.started rxPkt snp console)
      ((demo.run boot uninitialized (.started rxPkt snp console)).map (·.2)) := by
  cases demo with
  | main => exact Program.main_follows boot uninitialized
  | dnsLookup => exact Program.dnsLookup_follows boot
  | httpGet => exact Program.httpGet_follows boot uninitialized
  | ping => exact Program.pingGatewayRounds_follows boot
  | staticIp => exact Program.staticIp_follows boot
  | tcpClient => exact Program.tcpClient_follows boot uninitialized
  | udpEcho => exact Program.udpEcho_follows boot uninitialized rfl

/-- Whatever the firmware and the network do, a program leaves the stack that the calls of its plan leave, each made
with the reply of the one before. So no text keeps it from its end, and it leaves defined behaviour exactly where one
of these calls does. Up to its end it runs the stack by the steps of the calls and only adds text to the console. -/
theorem programs_follow (demo : Demo) (boot : Boot) (uninitialized : Memory) (rxPkt : RxPkt) (snp : Snp)
    (console : Console) :
    (demo.run boot uninitialized (.started rxPkt snp console)).map (fun returned => returned.2.stack) =
        (demo.plan boot uninitialized).run (.initial rxPkt snp) ∧
      ∀ st m, demo.run boot uninitialized (.started rxPkt snp console) = some (st, m) →
        (Machine.started rxPkt snp console).Runs m := by
  have executes := demo.executes boot uninitialized rxPkt snp console
  constructor
  · have same := executes.stack
    rwa [Option.map_map] at same
  · intro st m returned
    refine executes.runs ?_
    rw [returned]
    rfl

end UefiNetstack
