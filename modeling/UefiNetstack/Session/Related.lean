import UefiNetstack.Api.Http
import UefiNetstack.Core.Related
import UefiNetstack.Session.Calls
import UefiNetstack.Session.Initialization

namespace UefiNetstack
open Constants NetStack Relational

/-- What a call returns. A call leaves the parts that it does not return as they are here. -/
structure Reply where
  status : EfiStatus
  address : UINT32 := 0
  actualLen : UINTN := 0
  contents : Memory := fun _ => 0

/-- The reply of a receive, and the stack behind it. -/
def Received.reply (received : Received) : Reply × NetStack :=
  ({ status := received.status, actualLen := received.actualLen, contents := received.buffer }, received.stack)

/-- A call with its reply. -/
def ApiCall.reply : ApiCall → NetStack → Option (Reply × NetStack)
  | .tcpConnect ip port, s => (Api.tcpConnect ip port s).map fun (status, s) => ({ status }, s)
  | .tcpSend data, s => (Api.tcpSend data s).map fun (status, s) => ({ status }, s)
  | .tcpReceive buffer maxLen timeoutMs, s => (Api.tcpReceive buffer maxLen timeoutMs s).map Received.reply
  | .tcpClose, s => (Api.tcpClose s).map fun (status, s) => ({ status }, s)
  | .udpSend destIp destPort data, s =>
    (Api.udpSend destIp destPort data s).map fun (status, s) => ({ status }, s)
  | .udpReceive buffer maxLen timeoutMs, s => (Api.udpReceive buffer maxLen timeoutMs s).map Received.reply
  | .ping targetIp timeoutMs, s => (Api.ping targetIp timeoutMs s).map fun (status, s) => ({ status }, s)
  | .resolveHostname hostname outIp, s =>
    (Api.resolveHostname hostname outIp s).map fun (status, address, s) => ({ status, address }, s)

/-- Two calls return the same and leave related stacks. -/
def Agreed {α : Type} (R : NetStack → NetStack → Prop) (x y : α × NetStack) : Prop := x.1 = y.1 ∧ R x.2 y.2

/-- What the calls ask of a relation beside what polls ask. -/
structure Indistinct (R : NetStack → NetStack → Prop) : Prop extends PollRelated R where
  draw : ∀ {s t}, R s t → t.getU32.1 = s.getU32.1 ∧ R s.getU32.2 t.getU32.2
  segment : ∀ {s t}, R s t → ∀ flags seq ack data,
    Option.Rel R (s.sendTcpInternal flags seq ack data) (t.sendTcpInternal flags seq ack data)
  datagram : ∀ {s t}, R s t → ∀ destIp destPort srcPort data,
    Option.Rel R (s.sendUdp destIp destPort srcPort data) (t.sendUdp destIp destPort srcPort data)
  echo : ∀ {s t}, R s t → ∀ targetIp id seq, R (s.sendIcmpEcho targetIp id seq) (t.sendIcmpEcho targetIp id seq)
  query : ∀ {s t}, R s t → ∀ hostname, Option.Rel R (s.dnsQuery hostname) (t.dnsQuery hostname)

namespace Indistinct

variable {R : NetStack → NetStack → Prop} {s t : NetStack} {done : NetStack → Bool}
  {request : NetStack → Option NetStack} (related : Indistinct R)

include related

theorem waitLoop (blind : ∀ {s t}, R s t → done t = done s) (micros loops : Nat) (same : R s t) :
    Option.Rel R (waitLoop done micros loops s) (waitLoop done micros loops t) := by
  induction loops generalizing s t with
  | zero => exact .some same
  | succ loops ih =>
      refine ite_related (by rw [blind same]) (fun _ => .some same) fun _ => ?_
      exact rel_bind (related.poll same) fun polled polled' between => ih (related.logged between (.stall micros))

theorem requestLoop (blind : ∀ {s t}, R s t → done t = done s)
    (asks : ∀ {s t}, R s t → Option.Rel R (request s) (request t)) (loops timeout : Nat) (same : R s t) :
    Option.Rel R (requestLoop done request loops timeout s) (requestLoop done request loops timeout t) := by
  induction loops generalizing s t timeout with
  | zero => exact .some same
  | succ loops ih =>
      refine ite_related (by rw [blind same]) (fun _ => .some same) fun _ => ?_
      refine rel_bind (R := R) ?_ fun asked asked' between => ?_
      · exact ite_related Iff.rfl (fun _ => asks same) fun _ => .some same
      · exact rel_bind (related.poll between) fun polled polled' after => ih _ (related.logged after (.stall stall1ms))

theorem tcpOpen (same : R s t) (ip : UINT32) (port : UINT16) : R (s.tcpOpen ip port) (t.tcpOpen ip port) := by
  obtain ⟨first, drawn⟩ := related.draw same
  obtain ⟨second, again⟩ := related.draw drawn
  have tcp := related.tcp.tcp again
  unfold NetStack.tcpOpen getEphemeralPort
  dsimp only
  rw [first, second, tcp]
  exact related.tcp.session again _

theorem tcpConnect (same : R s t) (ip : UINT32) (port : UINT16) :
    Option.Rel (Agreed R) (Api.tcpConnect ip port s) (Api.tcpConnect ip port t) := by
  unfold Api.tcpConnect
  refine rel_bind (R := R) ?_ fun ended ended' between => .some ⟨?_, between⟩
  · refine related.requestLoop ?_ ?_ _ _ (related.tcpOpen same ip port)
    · intro s t same
      rw [related.tcp.tcp same]
    · exact fun same => related.tcp.control same tcpFlagSyn
  · rw [related.tcp.tcp between]

theorem tcpSend (same : R s t) (data : Bytes) : Option.Rel (Agreed R) (Api.tcpSend data s) (Api.tcpSend data t) := by
  unfold Api.tcpSend
  rw [related.tcp.tcp same]
  refine ite_related Iff.rfl (fun _ => .some ⟨rfl, same⟩) fun _ => ?_
  refine rel_bind (related.segment same _ _ _ _) fun sent sent' between => .some ⟨rfl, ?_⟩
  rw [related.tcp.tcp between]
  exact related.tcp.session between _

/-- Two receives return the same and leave related stacks. -/
theorem tcpReceived (same : R s t) (buffer : Memory) (maxLen : UINTN) (timeoutMs : UINT32) :
    Option.Rel (fun x y => Agreed R x.reply y.reply) (Api.tcpReceive buffer maxLen timeoutMs s)
      (Api.tcpReceive buffer maxLen timeoutMs t) := by
  have blind {s t : NetStack} (same : R s t) : t.tcpReceiveDone = s.tcpReceiveDone := by
    unfold tcpReceiveDone
    rw [related.tcp.tcp same]
  have start : R (s.tcpReceiveStart buffer maxLen) (t.tcpReceiveStart buffer maxLen) := by
    unfold tcpReceiveStart
    rw [related.tcp.tcp same]
    exact related.tcp.session same _
  unfold Api.tcpReceive
  refine rel_bind (related.waitLoop blind _ _ start) fun ended ended' between => .some ⟨?_, ?_⟩
  · simp only [Received.reply]
    rw [related.tcp.tcp between]
  · unfold Received.reply tcpReceiveEnd
    rw [related.tcp.tcp between]
    exact related.tcp.session between _

theorem tcpCloseStart (same : R s t) : Option.Rel R s.tcpCloseStart t.tcpCloseStart := by
  unfold NetStack.tcpCloseStart
  refine rel_bind (related.tcp.control same _) fun sent sent' between => .some ?_
  rw [related.tcp.tcp between]
  exact related.tcp.session between _

theorem tcpClose (same : R s t) : Option.Rel (Agreed R) (Api.tcpClose s) (Api.tcpClose t) := by
  unfold Api.tcpClose
  refine rel_bind (R := R) ?_ fun ended ended' between => .some ⟨rfl, ?_⟩
  · unfold tcpDrain
    rw [related.tcp.tcp same]
    refine ite_related Iff.rfl (fun _ => ?_) fun _ => .some same
    refine rel_bind (related.tcpCloseStart same) fun started started' between => ?_
    refine related.waitLoop ?_ _ _ between
    intro s t same
    rw [related.tcp.tcp same]
  · unfold tcpCloseEnd
    rw [related.tcp.tcp between]
    exact related.tcp.session between _

theorem udpBind (same : R s t) : R s.udpBind t.udpBind := by
  obtain ⟨first, drawn⟩ := related.draw same
  have udp := related.udp.udp drawn
  unfold NetStack.udpBind getEphemeralPort
  dsimp only
  rw [related.udp.udp same, first, udp]
  exact ite_related Iff.rfl (fun _ => related.udp.receiver drawn _) fun _ => same

theorem udpSend (same : R s t) (destIp : UINT32) (destPort : UINT16) (data : Bytes) :
    Option.Rel (Agreed R) (Api.udpSend destIp destPort data s) (Api.udpSend destIp destPort data t) := by
  have bound := related.udpBind same
  unfold Api.udpSend
  dsimp only
  rw [related.udp.udp bound]
  exact rel_bind (related.datagram bound _ _ _ _) fun sent sent' between => .some ⟨rfl, between⟩

theorem udpReceived (same : R s t) (buffer : Memory) (maxLen : UINTN) (timeoutMs : UINT32) :
    Option.Rel (fun x y => Agreed R x.reply y.reply) (Api.udpReceive buffer maxLen timeoutMs s)
      (Api.udpReceive buffer maxLen timeoutMs t) := by
  have blind {s t : NetStack} (same : R s t) : t.udp.rxDone = s.udp.rxDone := by rw [related.udp.udp same]
  have start : R (s.udpReceiveStart buffer maxLen) (t.udpReceiveStart buffer maxLen) := by
    unfold udpReceiveStart
    rw [related.udp.udp same]
    exact related.udp.receiver same _
  unfold Api.udpReceive
  refine rel_bind (related.waitLoop blind _ _ start) fun ended ended' between => .some ⟨?_, ?_⟩
  · simp only [Received.reply]
    rw [related.udp.udp between]
  · unfold Received.reply udpReceiveEnd
    rw [related.udp.udp between]
    exact related.udp.receiver between _

theorem pinged (same : R s t) (targetIp timeoutMs : UINT32) :
    Option.Rel (Agreed R) (Api.ping targetIp timeoutMs s) (Api.ping targetIp timeoutMs t) := by
  have start : R (s.pingStart targetIp) (t.pingStart targetIp) := by
    obtain ⟨first, drawn⟩ := related.draw same
    obtain ⟨second, again⟩ := related.draw drawn
    unfold pingStart
    dsimp only
    rw [first, second]
    exact related.echo (related.icmp.update again _) _ _ _
  unfold Api.ping
  refine rel_bind (related.waitLoop ?_ _ _ start) fun ended ended' between => .some ⟨?_, between⟩
  · intro s t same
    rw [related.icmp.ping same]
  · rw [related.icmp.ping between]

theorem resolveHostname (same : R s t) (hostname : CString) (outIp : UINT32) :
    Option.Rel (fun x y => x.1 = y.1 ∧ Agreed R x.2 y.2) (Api.resolveHostname hostname outIp s)
      (Api.resolveHostname hostname outIp t) := by
  have start : R s.resolveStart t.resolveStart := by
    unfold resolveStart
    rw [related.udp.dns same]
    exact related.udp.resolver same _
  unfold Api.resolveHostname
  refine rel_bind (related.requestLoop ?_ (fun same => related.query same hostname) _ _ start) ?_
  · intro s t same
    rw [related.udp.dns same]
  · intro ended ended' between
    rw [related.udp.dns between]
    refine .some ?_
    split
    · exact ⟨rfl, rfl, between⟩
    · exact ⟨rfl, rfl, between⟩

/-- A call returns the same on related stacks. -/
theorem reply (call : ApiCall) (same : R s t) : Option.Rel (Agreed R) (call.reply s) (call.reply t) := by
  have status {x y : EfiStatus × NetStack} (agreed : Agreed R x y) :
      Agreed R (({ status := x.1 } : Reply), x.2) (({ status := y.1 } : Reply), y.2) :=
    ⟨by rw [agreed.1], agreed.2⟩
  cases call with
  | tcpConnect ip port => exact rel_map (related.tcpConnect same ip port) fun _ _ => status
  | tcpSend data => exact rel_map (related.tcpSend same data) fun _ _ => status
  | tcpReceive buffer maxLen timeoutMs =>
      exact rel_map (related.tcpReceived same buffer maxLen timeoutMs) fun _ _ agreed => agreed
  | tcpClose => exact rel_map (related.tcpClose same) fun _ _ => status
  | udpSend destIp destPort data => exact rel_map (related.udpSend same destIp destPort data) fun _ _ => status
  | udpReceive buffer maxLen timeoutMs =>
      exact rel_map (related.udpReceived same buffer maxLen timeoutMs) fun _ _ agreed => agreed
  | ping targetIp timeoutMs => exact rel_map (related.pinged same targetIp timeoutMs) fun _ _ => status
  | resolveHostname hostname outIp =>
      refine rel_map (related.resolveHostname same hostname outIp) ?_
      rintro ⟨_, _, x⟩ ⟨_, _, y⟩ ⟨rfl, rfl, between⟩
      exact ⟨rfl, between⟩

/-- A request over HTTP is made of calls. -/
theorem httpGet (same : R s t) (hostname path : CString) (buffer : Memory) (maxLen actualLen : UINTN) :
    Option.Rel (Agreed R) ((Api.httpGet hostname path buffer maxLen actualLen s).map Received.reply)
      ((Api.httpGet hostname path buffer maxLen actualLen t).map Received.reply) := by
  refine rel_map (R := fun x y => Agreed R x.reply y.reply) ?_ fun _ _ agreed => agreed
  unfold Api.httpGet
  refine rel_bind (related.resolveHostname same hostname 0#32) ?_
  rintro ⟨st, ip, resolved⟩ ⟨_, _, resolved'⟩ ⟨rfl, rfl, same⟩
  refine ite_related Iff.rfl (fun _ => .some ⟨rfl, same⟩) fun _ => ?_
  refine rel_bind (related.tcpConnect same ip 0x50#16) ?_
  rintro ⟨st, connected⟩ ⟨_, connected'⟩ ⟨rfl, same⟩
  refine ite_related Iff.rfl (fun _ => .some ⟨rfl, same⟩) fun _ => ?_
  refine rel_bind (related.tcpSend same (httpRequest hostname path)) ?_
  rintro ⟨st, asked⟩ ⟨_, asked'⟩ ⟨rfl, same⟩
  refine ite_related Iff.rfl (fun _ => ?_) fun _ => ?_
  · refine rel_bind (related.tcpClose same) ?_
    rintro ⟨_, closed⟩ ⟨_, closed'⟩ ⟨-, same⟩
    exact .some ⟨rfl, same⟩
  · refine rel_bind (related.tcpReceived same buffer maxLen 0x1388#32) fun received received' between => ?_
    refine rel_bind (related.tcpClose between.2) ?_
    rintro ⟨_, closed⟩ ⟨_, closed'⟩ ⟨-, same⟩
    exact .some ⟨between.1, same⟩

end Indistinct

/-- Two preparations fail alike or leave related stacks. -/
inductive PreparedRelated (R : NetStack → NetStack → Prop) :
    Except (EfiStatus × NetStack) NetStack → Except (EfiStatus × NetStack) NetStack → Prop
  | error {x y : EfiStatus × NetStack} (agreed : Agreed R x y) : PreparedRelated R (.error x) (.error y)
  | ok {s t : NetStack} (same : R s t) : PreparedRelated R (.ok s) (.ok t)

/-- What the initializations ask of a relation. -/
structure IndistinctInit (R : NetStack → NetStack → Prop) : Prop extends Indistinct R where
  resolved : ∀ {s t}, R s t → t.arp.resolved = s.arp.resolved
  router : ∀ {s t}, R s t → t.identity.routerIp = s.identity.routerIp
  target : ∀ {s t}, R s t → ∀ ip, R { s with arp := { s.arp with resolved := false, targetIp := ip } }
    { t with arp := { t.arp with resolved := false, targetIp := ip } }
  ask : ∀ {s t}, R s t → ∀ ip, R (s.arpRequest ip) (t.arpRequest ip)
  openNic : ∀ {s t}, R s t → ∀ boot, PreparedRelated R (s.openNic boot) (t.openNic boot)
  dhcp : ∀ {s t}, R s t → t.dhcp.state = s.dhcp.state ∧ R s.dhcp.stack t.dhcp.stack
  configure : ∀ {s t}, R s t → ∀ ip gateway mask dns,
    R { s with identity := { s.identity with myIp := ip, routerIp := gateway, subnetMask := mask, dnsServerIp := dns } }
      { t with identity := { t.identity with myIp := ip, routerIp := gateway, subnetMask := mask, dnsServerIp := dns } }

namespace IndistinctInit

variable {R : NetStack → NetStack → Prop} {s t : NetStack} (related : IndistinctInit R)

include related

theorem askGateway {x y : Except (EfiStatus × NetStack) NetStack} (same : PreparedRelated R x y) :
    Option.Rel (Agreed R) (askGateway x) (askGateway y) := by
  cases same with
  | error agreed => exact .some agreed
  | ok same =>
      unfold NetStack.askGateway resolveGateway
      dsimp only
      rw [related.router same]
      refine rel_bind (R := R) ?_ fun ended ended' between => .some ⟨?_, between⟩
      · refine related.requestLoop related.resolved ?_ _ _ (related.target same _)
        intro s t same
        rw [related.router same]
        exact .some (related.ask same _)
      · rw [related.resolved between]

theorem initNetwork (same : R s t) (boot : Boot) :
    Option.Rel (Agreed R) (Api.initNetwork boot s) (Api.initNetwork boot t) := by
  rw [initNetwork_eq, initNetwork_eq]
  refine related.askGateway ?_
  unfold dhcpPrepared
  generalize opened : s.openNic boot = left
  generalize opened' : t.openNic boot = right
  have open_ := related.openNic same boot
  rw [opened, opened'] at open_
  cases open_ with
  | error agreed => exact .error agreed
  | ok same =>
      obtain ⟨state, ended⟩ := related.dhcp same
      exact ite_related (by rw [state]) (fun _ => .error ⟨rfl, ended⟩) fun _ => .ok ended

theorem initNetworkStatic (same : R s t) (boot : Boot) (ip gateway mask dns : UINT32) :
    Option.Rel (Agreed R) (Api.initNetworkStatic boot ip gateway mask dns s)
      (Api.initNetworkStatic boot ip gateway mask dns t) := by
  rw [initNetworkStatic_eq, initNetworkStatic_eq]
  refine related.askGateway ?_
  unfold staticPrepared
  generalize opened : s.openNic boot = left
  generalize opened' : t.openNic boot = right
  have open_ := related.openNic same boot
  rw [opened, opened'] at open_
  cases open_ with
  | error agreed => exact .error agreed
  | ok same => exact .ok (related.configure same ip gateway mask dns)

end IndistinctInit

/-- What a program may ask of the stack. -/
inductive Operation where
  | initNetwork (boot : Boot)
  | initNetworkStatic (boot : Boot) (ip gateway mask dns : UINT32)
  | call (own : ApiCall)
  | httpGet (hostname path : CString) (buffer : Memory) (maxLen actualLen : UINTN)

def Operation.run : Operation → NetStack → Option (Reply × NetStack)
  | .initNetwork boot, s => (Api.initNetwork boot s).map fun (status, s) => ({ status }, s)
  | .initNetworkStatic boot ip gateway mask dns, s =>
    (Api.initNetworkStatic boot ip gateway mask dns s).map fun (status, s) => ({ status }, s)
  | .call own, s => own.reply s
  | .httpGet hostname path buffer maxLen actualLen, s =>
    (Api.httpGet hostname path buffer maxLen actualLen s).map Received.reply

/-- A client chooses its next operation by the replies that it has had and by what it has seen of the stack behind
each of them. -/
def talk {View : Type} (look : NetStack → View) (client : List (Reply × View) → Option Operation) :
    ℕ → List (Reply × View) → NetStack → Option (List (Reply × View) × NetStack)
  | 0, replies, s => some (replies, s)
  | operations + 1, replies, s =>
    match client replies with
    | none => some (replies, s)
    | some operation => do
      let (reply, s) ← operation.run s
      talk look client operations (replies ++ [(reply, look s)]) s

namespace IndistinctInit

variable {R : NetStack → NetStack → Prop} {s t : NetStack} (related : IndistinctInit R)

include related

theorem run (operation : Operation) (same : R s t) : Option.Rel (Agreed R) (operation.run s) (operation.run t) := by
  have status {x y : EfiStatus × NetStack} (agreed : Agreed R x y) :
      Agreed R (({ status := x.1 } : Reply), x.2) (({ status := y.1 } : Reply), y.2) :=
    ⟨by rw [agreed.1], agreed.2⟩
  cases operation with
  | initNetwork boot => exact rel_map (related.initNetwork same boot) fun _ _ => status
  | initNetworkStatic boot ip gateway mask dns =>
      exact rel_map (related.initNetworkStatic same boot ip gateway mask dns) fun _ _ => status
  | call own => exact related.reply own same
  | httpGet hostname path buffer maxLen actualLen =>
      exact related.httpGet same hostname path buffer maxLen actualLen

/-- No client that sees only what the relation keeps can tell two related stacks apart. -/
theorem talk {View : Type} {look : NetStack → View} (blind : ∀ {s t}, R s t → look t = look s)
    (client : List (Reply × View) → Option Operation) (operations : ℕ) (replies : List (Reply × View)) (same : R s t) :
    Option.Rel (Agreed R) (talk look client operations replies s) (talk look client operations replies t) := by
  induction operations generalizing replies s t with
  | zero => exact .some ⟨rfl, same⟩
  | succ operations ih =>
      unfold UefiNetstack.talk
      cases client replies with
      | none => exact .some ⟨rfl, same⟩
      | some operation =>
          refine rel_bind (related.run operation same) ?_
          rintro ⟨reply, s⟩ ⟨_, t⟩ ⟨rfl, same⟩
          dsimp only
          rw [blind same]
          exact ih _ same

end IndistinctInit
end UefiNetstack
