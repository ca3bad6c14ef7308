import UefiNetstack.Session.Related

namespace UefiNetstack
open Constants NetStack Relational

/-- The variables that no function of the stack reads. -/
structure Unread where
  arpCache : ArpCache
  targetMac : Mac
  subnetMask : UINT32
  dhcpLeaseTime : UINT32

namespace NetStack

def unread (s : NetStack) : Unread :=
  ⟨s.arpCache, s.arp.targetMac, s.identity.subnetMask, s.identity.dhcpLeaseTime⟩

def withUnread (other : Unread) (s : NetStack) : NetStack :=
  { s with
    arpCache := other.arpCache
    arp := { s.arp with targetMac := other.targetMac }
    identity := { s.identity with subnetMask := other.subnetMask, dhcpLeaseTime := other.dhcpLeaseTime } }

/-- The stacks differ in unread variables only. -/
def ReadAlike (s s' : NetStack) : Prop := ∃ other, s' = s.withUnread other

variable {s s' : NetStack}

theorem ReadAlike.of_right {other : Unread} : ReadAlike s (s.withUnread other) := ⟨other, rfl⟩

/-- A function on stacks gives alike results on alike stacks. -/
def Respects (f : NetStack → Option NetStack) : Prop := ∀ s s', ReadAlike s s' → Option.Rel ReadAlike (f s) (f s')

theorem respects_sendTcpInternal (flags : UINT8) (seq ack : UINT32) (data : Bytes) :
    Respects (sendTcpInternal flags seq ack data) := by
  rintro s _ ⟨other, rfl⟩
  unfold sendTcpInternal
  split
  · exact .some ⟨other, rfl⟩
  · exact .none

theorem learnArp_alike (arp : ArpHdr) (s : NetStack) (other : Unread) :
    ReadAlike (s.learnArp arp) ((s.withUnread other).learnArp arp) := by
  have resolution : ∃ mac, (if arp.spa = (s.withUnread other).arp.targetIp then
      { (s.withUnread other).arp with targetMac := arp.sha, resolved := true } else (s.withUnread other).arp) =
      { (if arp.spa = s.arp.targetIp then { s.arp with targetMac := arp.sha, resolved := true } else s.arp) with
        targetMac := mac } := by
    by_cases target : arp.spa = s.arp.targetIp
    · rw [if_pos target, if_pos (show arp.spa = (s.withUnread other).arp.targetIp from target)]
      exact ⟨arp.sha, rfl⟩
    · rw [if_neg target, if_neg (show ¬arp.spa = (s.withUnread other).arp.targetIp from target)]
      exact ⟨other.targetMac, rfl⟩
  have identity : (if arp.spa = (s.withUnread other).identity.routerIp then
      { (s.withUnread other).identity with routerMac := arp.sha } else (s.withUnread other).identity) =
      { (if arp.spa = s.identity.routerIp then { s.identity with routerMac := arp.sha } else s.identity) with
        subnetMask := other.subnetMask, dhcpLeaseTime := other.dhcpLeaseTime } := by
    by_cases gateway : arp.spa = s.identity.routerIp
    · rw [if_pos gateway, if_pos (show arp.spa = (s.withUnread other).identity.routerIp from gateway)]
      rfl
    · rw [if_neg gateway, if_neg (show ¬arp.spa = (s.withUnread other).identity.routerIp from gateway)]
      rfl
  obtain ⟨mac, resolution⟩ := resolution
  refine ⟨⟨other.arpCache.update arp.spa arp.sha, mac, other.subnetMask, other.dhcpLeaseTime⟩, ?_⟩
  rw [learnArp_eq, learnArp_eq, resolution, identity]
  rfl

theorem handleArp_alike (arp : ArpHdr) (s : NetStack) (other : Unread) :
    ReadAlike (s.handleArp arp) ((s.withUnread other).handleArp arp) := by
  refine ite_related Iff.rfl (fun _ => learnArp_alike arp s other) fun _ => ?_
  refine ite_related Iff.rfl (fun _ => ?_) fun _ => .of_right
  exact ite_related Iff.rfl (fun _ => .of_right) fun _ => .of_right

theorem alike_icmpRelated : IcmpRelated ReadAlike where
  rxPkt := by
    rintro s _ ⟨other, rfl⟩
    rfl
  ping := by
    rintro s _ ⟨other, rfl⟩
    rfl
  update := by
    rintro s _ ⟨other, rfl⟩ ping
    exact ⟨other, rfl⟩
  reply := by
    rintro s _ ⟨other, rfl⟩ ip icmpAt len
    refine ite_related Iff.rfl (fun _ => .some .of_right) fun _ => ?_
    split
    · refine rel_bind (R := Eq) (rel_refl (fun _ => rfl) _) fun message _ equal => ?_
      subst equal
      exact .some ⟨other, rfl⟩
    · exact .none

theorem alike_udpRelated : UdpRelated ReadAlike where
  rxPkt := alike_icmpRelated.rxPkt
  udp := by
    rintro s _ ⟨other, rfl⟩
    rfl
  dns := by
    rintro s _ ⟨other, rfl⟩
    rfl
  receiver := by
    rintro s _ ⟨other, rfl⟩ udp
    exact ⟨other, rfl⟩
  resolver := by
    rintro s _ ⟨other, rfl⟩ dns
    exact ⟨other, rfl⟩
  copied := by
    rintro s _ ⟨other, rfl⟩ data
    exact ⟨other, rfl⟩

theorem alike_tcpRelated : TcpRelated ReadAlike where
  rxPkt := alike_icmpRelated.rxPkt
  tcp := by
    rintro s _ ⟨other, rfl⟩
    rfl
  session := by
    rintro s _ ⟨other, rfl⟩ tcp
    exact ⟨other, rfl⟩
  control := by
    rintro s _ ⟨other, rfl⟩ flags
    exact respects_sendTcpInternal flags s.tcp.seq s.tcp.ack [] _ _ .of_right
  copied := by
    rintro s _ ⟨other, rfl⟩ offset data
    exact ⟨other, rfl⟩

theorem alike_pollRelated : PollRelated ReadAlike where
  icmp := alike_icmpRelated
  udp := alike_udpRelated
  tcp := alike_tcpRelated
  arp := by
    rintro s _ ⟨other, rfl⟩ arp
    exact handleArp_alike arp s other
  answer := by
    rintro s _ ⟨other, rfl⟩
    rfl
  received := by
    rintro s _ ⟨other, rfl⟩
    exact ⟨other, rfl⟩
  page := by
    rintro s _ ⟨other, rfl⟩ rxPkt
    exact ⟨other, rfl⟩
  logged := by
    rintro s _ ⟨other, rfl⟩ event
    exact ⟨other, rfl⟩

theorem alike_indistinct : Indistinct ReadAlike where
  toPollRelated := alike_pollRelated
  draw := by
    rintro s _ ⟨other, rfl⟩
    exact ⟨rfl, other, rfl⟩
  segment := fun {s t} alike flags seq ack data => respects_sendTcpInternal flags seq ack data s t alike
  datagram := by
    rintro s _ ⟨other, rfl⟩ destIp destPort srcPort data
    unfold sendUdp
    split
    · exact .some ⟨other, rfl⟩
    · exact .none
  echo := by
    rintro s _ ⟨other, rfl⟩ targetIp id seq
    exact ⟨other, rfl⟩
  query := by
    rintro s _ ⟨other, rfl⟩ hostname
    unfold dnsQuery
    split
    · exact .some ⟨other, rfl⟩
    · exact .none

theorem respects_call (call : Call) : Respects call.run := by
  intro s s' alike
  have tcp : s'.tcp = s.tcp := alike_tcpRelated.tcp alike
  cases call with
  | syn => exact alike_tcpRelated.control alike _
  | send data => exact rel_map (alike_indistinct.tcpSend alike data) fun _ _ agreed => agreed.2
  | closeStart => exact ite_related (by rw [tcp]) (fun _ => alike_indistinct.tcpCloseStart alike) fun _ => .none
  | udpSend destIp destPort data =>
      exact rel_map (alike_indistinct.udpSend alike destIp destPort data) fun _ _ agreed => agreed.2
  | query hostname => exact alike_indistinct.query alike hostname
  | _ =>
      obtain ⟨other, rfl⟩ := alike
      exact .some .of_right

theorem openNic_alike (boot : Boot) (s : NetStack) (other : Unread) :
    PreparedRelated ReadAlike (s.openNic boot) ((s.withUnread other).openNic boot) := by
  have seeded : (s.withUnread other).rngInit boot.time = (s.rngInit boot.time).withUnread other := by
    cases time : boot.time with
    | none => rfl
    | some now => rfl
  unfold openNic
  rw [seeded]
  cases boot.rxPage with
  | none => exact .error ⟨rfl, .of_right⟩
  | some rxPkt =>
      refine ite_related Iff.rfl (fun _ => .error ⟨rfl, .of_right⟩) fun _ => ?_
      refine ite_related Iff.rfl (fun _ => .error ⟨rfl, .of_right⟩) fun _ => ?_
      refine ite_related Iff.rfl (fun _ => .error ⟨rfl, .of_right⟩) fun _ => ?_
      exact ite_related Iff.rfl (fun _ => .error ⟨rfl, .of_right⟩) fun _ => .ok .of_right

/-- Two scans that differ in the mask and the lease time only. -/
def AlikeScans (scan scan' : DhcpScan) : Prop :=
  ∃ mask lease, scan' = { scan with identity := { scan.identity with subnetMask := mask, dhcpLeaseTime := lease } }

theorem scanOptions_alike (m : Memory) (options rounds offset : Nat) {scan scan' : DhcpScan}
    (alike : AlikeScans scan scan') :
    AlikeScans (scanOptions m options rounds offset scan) (scanOptions m options rounds offset scan') := by
  induction rounds generalizing offset scan scan' with
  | zero => exact alike
  | succ rounds ih =>
      have stored : AlikeScans (scan.store m (options + offset)) (scan'.store m (options + offset)) := by
        obtain ⟨mask, lease, rfl⟩ := alike
        exact ⟨_, _, rfl⟩
      refine ite_related Iff.rfl (fun _ => alike) fun _ => ?_
      refine ite_related Iff.rfl (fun _ => alike) fun _ => ?_
      exact ite_related Iff.rfl (fun _ => ih _ stored) fun _ => ih _ stored

/-- Two DHCP loops on alike stacks. -/
def AlikeLoops (loop loop' : DhcpLoop) : Prop :=
  ∃ other, loop' = { loop with stack := loop.stack.withUnread other }

theorem sendRequest_alike (xid : UINT32) (loop : DhcpLoop) (other : Unread) :
    AlikeLoops (loop.sendRequest xid)
      (DhcpLoop.sendRequest xid { loop with stack := loop.stack.withUnread other }) := by
  obtain ⟨stack, state, timeout⟩ := loop
  refine ite_related Iff.rfl (fun _ => ⟨other, ?_⟩) fun _ => ⟨other, rfl⟩
  cases state with
  | discover | offerRcvd | bound => rfl

theorem transition_alike (message : DhcpMessage) (msgType : UINT8) (loop : DhcpLoop) (other : Unread) :
    AlikeLoops (loop.transition message msgType)
      (DhcpLoop.transition message msgType { loop with stack := loop.stack.withUnread other }) := by
  obtain ⟨stack, state, timeout⟩ := loop
  cases state with
  | discover => exact ite_related Iff.rfl (fun _ => ⟨other, rfl⟩) fun _ => ⟨other, rfl⟩
  | offerRcvd => exact ite_related Iff.rfl (fun _ => ⟨other, rfl⟩) fun _ => ⟨other, rfl⟩
  | bound => exact ⟨other, rfl⟩

theorem onPage_alike (loop : DhcpLoop) (other : Unread) :
    AlikeLoops loop.onPage (DhcpLoop.onPage { loop with stack := loop.stack.withUnread other }) := by
  unfold DhcpLoop.onPage
  have same : (loop.stack.withUnread other).rxPkt = loop.stack.rxPkt := rfl
  dsimp only
  rw [same]
  cases dhcpMessageOn loop.stack.rxPkt.byte with
  | none => exact ⟨other, rfl⟩
  | some message =>
      have starts : AlikeScans { msgType := 0x00#8, identity := loop.stack.identity }
          { msgType := 0x00#8, identity := (loop.stack.withUnread other).identity } := ⟨_, _, rfl⟩
      obtain ⟨mask, lease, scanned⟩ := scanOptions_alike loop.stack.rxPkt.byte (message.dhcpAt + dhcpOptionsOffset)
        scanRounds 0 starts
      dsimp only [DhcpMessage.scan]
      rw [scanned]
      exact transition_alike message _ _ { other with subnetMask := mask, dhcpLeaseTime := lease }

theorem onReceive_alike (answer : Receive) (loop : DhcpLoop) (other : Unread) :
    AlikeLoops (loop.onReceive answer)
      (DhcpLoop.onReceive answer { loop with stack := loop.stack.withUnread other }) := by
  cases answer with
  | frame frame => exact onPage_alike _ other
  | notReady => exact ⟨other, rfl⟩
  | error => exact ⟨other, rfl⟩

theorem dhcpRun_alike (xid : UINT32) (loops : Nat) {loop loop' : DhcpLoop} (alike : AlikeLoops loop loop') :
    AlikeLoops (DhcpLoop.run xid loops loop) (DhcpLoop.run xid loops loop') := by
  induction loops generalizing loop loop' with
  | zero => exact alike
  | succ loops ih =>
      obtain ⟨other, rfl⟩ := alike
      refine ite_related Iff.rfl (fun _ => ⟨other, rfl⟩) fun _ => ih ?_
      unfold DhcpLoop.iteration
      obtain ⟨last, same⟩ := sendRequest_alike xid loop other
      dsimp only
      rw [same]
      exact onReceive_alike _ _ last

theorem alike_init : IndistinctInit ReadAlike where
  toIndistinct := alike_indistinct
  resolved := by
    rintro s _ ⟨other, rfl⟩
    rfl
  router := by
    rintro s _ ⟨other, rfl⟩
    rfl
  target := by
    rintro s _ ⟨other, rfl⟩ ip
    exact ⟨other, rfl⟩
  ask := by
    rintro s _ ⟨other, rfl⟩ ip
    exact ⟨other, rfl⟩
  openNic := by
    rintro s _ ⟨other, rfl⟩ boot
    exact openNic_alike boot s other
  dhcp := by
    rintro s _ ⟨other, rfl⟩
    have begins : AlikeLoops { stack := s.getU32.2 } { stack := (s.withUnread other).getU32.2 } := ⟨other, rfl⟩
    have ended : AlikeLoops s.dhcp (s.withUnread other).dhcp := dhcpRun_alike s.getU32.1 timeoutDhcpLoops begins
    obtain ⟨last, same⟩ := ended
    rw [same]
    exact ⟨rfl, last, rfl⟩
  configure := by
    rintro s _ ⟨other, rfl⟩ ip gateway mask dns
    exact ⟨{ other with subnetMask := mask }, rfl⟩

/-- Whatever the masks are. -/
theorem staticPrepared_alike (boot : Boot) (ip gateway dns mask mask' : UINT32) (s : NetStack) (other : Unread) :
    PreparedRelated ReadAlike (s.staticPrepared boot ip gateway mask dns)
      ((s.withUnread other).staticPrepared boot ip gateway mask' dns) := by
  unfold staticPrepared
  generalize opened : s.openNic boot = left
  generalize opened' : (s.withUnread other).openNic boot = right
  have alike := openNic_alike boot s other
  rw [opened, opened'] at alike
  cases alike with
  | error agreed => exact .error agreed
  | ok alike =>
      obtain ⟨last, rfl⟩ := alike
      exact .ok ⟨{ last with subnetMask := mask' }, rfl⟩

theorem initNetworkStatic_agrees (boot : Boot) (ip gateway dns mask mask' : UINT32) (s : NetStack) (other : Unread) :
    Option.Rel (Agreed ReadAlike) (Api.initNetworkStatic boot ip gateway mask dns s)
      (Api.initNetworkStatic boot ip gateway mask' dns (s.withUnread other)) := by
  rw [initNetworkStatic_eq, initNetworkStatic_eq]
  exact alike_init.askGateway (staticPrepared_alike boot ip gateway dns mask mask' s other)

end NetStack

/-- What a caller does to the stack: a whole operation, a flush, or one move in the middle of an operation. -/
inductive Task where
  | operation (own : Operation)
  | flushArp
  | tcpOpen (ip : UINT32) (port : UINT16)
  | move (own : Move)

/-- Only an operation has a reply. -/
def Task.run : Task → NetStack → Option (List Reply × NetStack)
  | .operation own, s => (own.run s).map fun (reply, s) => ([reply], s)
  | .flushArp, s => some ([], { s with arpCache := s.arpCache.flush })
  | .tcpOpen ip port, s => some ([], s.tcpOpen ip port)
  | .move own, s => (own.run s).map fun s => ([], s)

/-- The tasks one after the other, with their replies. -/
def Task.runAll : List Task → NetStack → Option (List Reply × NetStack)
  | [], s => some ([], s)
  | task :: tasks, s => do
    let (replies, s) ← task.run s
    (runAll tasks s).map fun (later, s) => (replies ++ later, s)

/-- Two lists of tasks that are the same up to the flushes of the ARP cache and the masks that they configure. -/
inductive SameTasks : List Task → List Task → Prop
  | nil : SameTasks [] []
  | same (task : Task) {tasks tasks' : List Task} (rest : SameTasks tasks tasks') :
      SameTasks (task :: tasks) (task :: tasks')
  | masks (boot : Boot) (ip gateway mask mask' dns : UINT32) {tasks tasks' : List Task} (rest : SameTasks tasks tasks') :
      SameTasks (.operation (.initNetworkStatic boot ip gateway mask dns) :: tasks)
        (.operation (.initNetworkStatic boot ip gateway mask' dns) :: tasks')
  | flush {tasks tasks' : List Task} (rest : SameTasks tasks tasks') : SameTasks (.flushArp :: tasks) tasks'
  | flush' {tasks tasks' : List Task} (rest : SameTasks tasks tasks') : SameTasks tasks (.flushArp :: tasks')

theorem Task.runAll_flush (tasks : List Task) (s : NetStack) :
    Task.runAll (.flushArp :: tasks) s = Task.runAll tasks { s with arpCache := s.arpCache.flush } := by
  show (Task.runAll tasks _).map _ = _
  cases Task.runAll tasks { s with arpCache := s.arpCache.flush } with
  | none => rfl
  | some ended => rfl

theorem task_alike (task : Task) {s s' : NetStack} (alike : ReadAlike s s') :
    Option.Rel (Agreed ReadAlike) (task.run s) (task.run s') := by
  cases task with
  | operation own =>
      exact rel_map (alike_init.run own alike) fun _ _ agreed => ⟨congrArg (fun reply => [reply]) agreed.1, agreed.2⟩
  | flushArp =>
      obtain ⟨other, rfl⟩ := alike
      exact .some ⟨rfl, { other with arpCache := other.arpCache.flush }, rfl⟩
  | tcpOpen ip port => exact .some ⟨rfl, alike_init.tcpOpen alike ip port⟩
  | move own =>
      cases own with
      | poll => exact rel_map (alike_pollRelated.poll alike) fun _ _ alike => ⟨rfl, alike⟩
      | call call => exact rel_map (respects_call call _ _ alike) fun _ _ alike => ⟨rfl, alike⟩

/-- Behind a task with the same reply on both sides the rest runs alike. -/
theorem runAll_cons_alike {task task' : Task} {tasks tasks' : List Task} {s s' : NetStack}
    (first : Option.Rel (Agreed ReadAlike) (task.run s) (task'.run s'))
    (rest : ∀ {t t'}, ReadAlike t t' → Option.Rel (Agreed ReadAlike) (Task.runAll tasks t) (Task.runAll tasks' t')) :
    Option.Rel (Agreed ReadAlike) (Task.runAll (task :: tasks) s) (Task.runAll (task' :: tasks') s') := by
  refine rel_bind first ?_
  rintro ⟨replies, t⟩ ⟨_, t'⟩ ⟨rfl, alike⟩
  refine rel_map (rest alike) ?_
  rintro ⟨later, u⟩ ⟨_, u'⟩ ⟨rfl, alike⟩
  exact ⟨rfl, alike⟩

theorem runAll_alike {tasks tasks' : List Task} {s s' : NetStack} (same : SameTasks tasks tasks')
    (alike : ReadAlike s s') : Option.Rel (Agreed ReadAlike) (Task.runAll tasks s) (Task.runAll tasks' s') := by
  induction same generalizing s s' with
  | nil => exact .some ⟨rfl, alike⟩
  | same task rest ih => exact runAll_cons_alike (task_alike task alike) ih
  | masks boot ip gateway mask mask' dns rest ih =>
      obtain ⟨other, rfl⟩ := alike
      have initialized : Option.Rel (Agreed ReadAlike)
          ((Operation.initNetworkStatic boot ip gateway mask dns).run s)
          ((Operation.initNetworkStatic boot ip gateway mask' dns).run (s.withUnread other)) :=
        rel_map (initNetworkStatic_agrees boot ip gateway dns mask mask' s other) fun _ _ agreed =>
          ⟨congrArg (fun status => ({ status } : Reply)) agreed.1, agreed.2⟩
      refine runAll_cons_alike (rel_map initialized ?_) ih
      exact fun _ _ agreed => ⟨congrArg (fun reply => [reply]) agreed.1, agreed.2⟩
  | flush rest ih =>
      obtain ⟨other, rfl⟩ := alike
      rw [Task.runAll_flush]
      exact ih ⟨other, rfl⟩
  | flush' rest ih =>
      obtain ⟨other, rfl⟩ := alike
      rw [Task.runAll_flush]
      exact ih ⟨{ other with arpCache := other.arpCache.flush }, rfl⟩

/-- What the stack replies and does to the firmware and to the buffers of its callers, and every variable that it
reads, do not depend on the ARP cache, the MAC of the last ARP target, the subnet mask and the lease time: runs that
differ only there and in the flushes and the masks of the callers fail together or leave the same replies and trace. -/
theorem unread_noninterference {tasks tasks' : List Task} {s s' t : NetStack} {replies : List Reply}
    (same : SameTasks tasks tasks') (alike : ReadAlike s s') (done : Task.runAll tasks s = some (replies, t)) :
    ∃ other, Task.runAll tasks' s' = some (replies, t.withUnread other) ∧ (t.withUnread other).trace = t.trace := by
  obtain ⟨⟨_, t'⟩, done', rfl, other, rfl⟩ := rel_some (runAll_alike same alike) done
  exact ⟨other, done', rfl⟩

namespace Scenario

/-- A stack to which the gateway will reply. -/
def answeredStack : NetStack := .initial .zeros { receive := [.frame gatewayReply] }

/-- A static initialization with a mask, and a ping to the gateway. -/
def initialization (mask : UINT32) : Task := .operation (.initNetworkStatic boot localIp gatewayIp mask 0#32)
def gatewayPing : Task := .operation (.call (.ping gatewayIp 1#32))

end Scenario

open Scenario in
/-- With another mask and without the MAC of the gateway in the cache the initialization has success and the ping has
none as before. -/
theorem unread_noninterference_ping : ∃ replies t other,
    Task.runAll [initialization 0x00FFFFFF#32, gatewayPing] answeredStack = some (replies, t) ∧
      replies.map (·.status) = [.success, .timeout] ∧ t.arpCache.lookup gatewayIp localMac = (true, gatewayMac) ∧
      Task.runAll [initialization 0x0000FFFF#32, .flushArp, gatewayPing] answeredStack =
        some (replies, t.withUnread other) ∧ (t.withUnread other).trace = t.trace := by
  have runs : (Task.runAll [initialization 0x00FFFFFF#32, gatewayPing] answeredStack).map (fun ended =>
      (ended.1.map (·.status), ended.2.arpCache.lookup gatewayIp localMac)) =
        some ([.success, .timeout], true, gatewayMac) := by decide +kernel
  obtain ⟨⟨replies, t⟩, done, shown⟩ := Option.map_eq_some_iff.mp runs
  obtain ⟨statuses, cached⟩ := Prod.mk.inj shown
  have same : SameTasks [initialization 0x00FFFFFF#32, gatewayPing]
      [initialization 0x0000FFFF#32, .flushArp, gatewayPing] :=
    .masks boot localIp gatewayIp _ _ 0#32 (.flush' (.same gatewayPing .nil))
  obtain ⟨other, done', trace⟩ := unread_noninterference same (⟨answeredStack.unread, rfl⟩ : ReadAlike _ _) done
  exact ⟨replies, t, other, done, statuses, cached, done', trace⟩

end UefiNetstack
