import UefiNetstack.Arp.Gateway
import UefiNetstack.Session.Initialization

namespace UefiNetstack
open Constants LastWrite

namespace NetStack

variable {s s' s'' : NetStack} {first second frames : List RxFrame}

def neighbours (s : NetStack) : Neighbours where
  routerIp := s.identity.routerIp
  routerMac := s.identity.routerMac
  resolution := s.arp
  cache := s.arpCache

/-- A step takes frames, and they land on the page one after the other. -/
structure Takes (s s' : NetStack) (frames : List RxFrame) : Prop where
  taken : s'.taken = s.taken ++ frames
  rxPkt : s'.rxPkt = frames.foldl RxPkt.receive s.rxPkt

/-- Such a step that learns from the replies among them. -/
structure Hears (s s' : NetStack) (frames : List RxFrame) : Prop extends Takes s s' frames where
  neighbours : s'.neighbours = (arpReplies s.rxPkt frames).foldl Neighbours.learn s.neighbours

theorem Takes.trans (before : Takes s s' first) (after : Takes s' s'' second) : Takes s s'' (first ++ second) where
  taken := by rw [after.taken, before.taken, List.append_assoc]
  rxPkt := by rw [after.rxPkt, before.rxPkt, List.foldl_append]

theorem TakesNothing.neighbours (nothing : TakesNothing s s') : s'.neighbours = s.neighbours := by
  unfold NetStack.neighbours
  rw [nothing.identity, nothing.arp, nothing.arpCache]

theorem TakesNothing.takes (nothing : TakesNothing s s') : Takes s s' [] where
  taken := nothing.taken.trans (List.append_nil _).symm
  rxPkt := nothing.rxPkt

theorem TakesNothing.hears (nothing : TakesNothing s s') : Hears s s' [] :=
  ⟨nothing.takes, nothing.neighbours⟩

theorem landed_takes (s : NetStack) (frame : RxFrame) : Takes s (s.received.landed frame) [frame] where
  taken := landed_taken s.received frame
  rxPkt := rfl

/-- The handler of a reply learns it. -/
theorem learnArp_neighbours (s : NetStack) (arp : ArpHdr) : (s.learnArp arp).neighbours = s.neighbours.learn arp := by
  rw [learnArp_eq]
  unfold neighbours Neighbours.learn
  by_cases gateway : arp.spa = s.identity.routerIp
  · simp only [if_pos gateway]
  · simp only [if_neg gateway]

/-- A poll learns from one reply, or takes no reply at all. -/
theorem poll_learns (done : s.poll = some s') :
    (∃ frame arp, Takes s s' [frame] ∧ arpReplies s.rxPkt [frame] = [arp] ∧ s'.neighbours = s.neighbours.learn arp) ∨
      ∃ frames, Takes s s' frames ∧ arpReplies s.rxPkt frames = [] ∧ s'.neighbours = s.neighbours ∧ s'.arp = s.arp := by
  rcases poll_step done with ⟨frame, -, step⟩ | keeps
  · have silent (noReply : (s.received.landed frame).rxPkt.arpReply = none)
        (nothing : TakesNothing (s.received.landed frame) s') :
        ∃ frames, Takes s s' frames ∧ arpReplies s.rxPkt frames = [] ∧ s'.neighbours = s.neighbours ∧
          s'.arp = s.arp := by
      have unheard : (s.rxPkt.receive frame).arpReply = none := noReply
      refine ⟨[frame], (s.landed_takes frame).trans nothing.takes, ?_, nothing.neighbours, nothing.arp⟩
      rw [arpReplies, arpReplies, unheard]
      rfl
    cases step with
    | reply arp found learned =>
        have replied : (s.rxPkt.receive frame).arpReply = some arp := found
        refine Or.inl ⟨frame, arp, ?_, ?_, ?_⟩
        · have landed := s.landed_takes frame
          rw [learned, learnArp_eq]
          exact ⟨landed.taken, landed.rxPkt⟩
        · rw [arpReplies, arpReplies, replied]
          rfl
        · rw [learned, learnArp_neighbours]
          rfl
    | answer udpAt address noReply found keeps dns => exact Or.inr (silent noReply keeps)
    | other noReply keeps => exact Or.inr (silent noReply keeps.toTakesNothing)
  · exact Or.inr ⟨[], keeps.toTakesNothing.takes, rfl, keeps.neighbours, keeps.arp⟩

theorem poll_hears (done : s.poll = some s') : ∃ frames, Hears s s' frames := by
  rcases poll_learns done with ⟨frame, arp, takes, replies, learned⟩ | ⟨frames, takes, replies, same, -⟩
  · refine ⟨[frame], takes, ?_⟩
    rw [replies, learned]
    rfl
  · refine ⟨frames, takes, ?_⟩
    rw [replies, same]
    rfl

theorem udpBind_takesNothing (s : NetStack) : TakesNothing s s.udpBind := by
  unfold udpBind
  split
  all_goals exact ⟨rfl, rfl, rfl, rfl, rfl⟩

/-- A call between two polls learns nothing. -/
theorem call_takesNothing {call : Call} (done : call.run s = some s') : TakesNothing s s' := by
  cases call with
  | stall micros =>
      obtain rfl := Option.some.inj done
      exact (@log_keepsResolver s (.stall micros) rfl).toTakesNothing
  | syn =>
      have sent : s.sendTcpControl tcpFlagSyn = some s' := done
      exact (sendTcpInternal_keepsResolver sent).toTakesNothing
  | send data =>
      rcases Call.send_cases done with ⟨-, rfl⟩ | ⟨-, out, first, rfl⟩
      · exact TakesNothing.refl s'
      · exact (KeepsResolver.of_tcp (sendTcpInternal_keepsResolver first)).toTakesNothing
  | closeStart =>
      obtain ⟨-, out, first, rfl⟩ := Call.closeStart_cases done
      exact (KeepsResolver.of_tcp (sendTcpInternal_keepsResolver first)).toTakesNothing
  | udpSend destIp destPort data =>
      obtain ⟨frame, -, rfl⟩ := sendUdp_cases (Call.udpSend_cases done)
      exact s.udpBind_takesNothing.trans ⟨rfl, rfl, rfl, rfl, sendFrame_taken frame s.udpBind.getU32.2⟩
  | ping targetIp =>
      obtain rfl := Option.some.inj done
      exact ⟨rfl, rfl, rfl, rfl, sendFrame_taken _ _⟩
  | query hostname =>
      obtain ⟨frame, -, rfl⟩ := dnsQuery_cases done
      exact ⟨rfl, rfl, rfl, rfl, sendFrame_taken frame s.dnsPrepared⟩
  | receiveStart | receiveEnd | closeEnd | udpReceiveStart | udpReceiveEnd | resolve =>
      obtain rfl := Option.some.inj done
      exact ⟨rfl, rfl, rfl, rfl, rfl⟩

theorem move_hears {move : Move} (done : move.run s = some s') : ∃ frames, Hears s s' frames := by
  cases move with
  | poll => exact poll_hears done
  | call call => exact ⟨[], (call_takesNothing done).hears⟩

end NetStack

open NetStack

/-- The acts that initialize the stack. -/
def Act.Initializes : Act → Prop
  | .initNetwork _ => True
  | .initNetworkStatic .. => True
  | _ => False

variable {s s' : NetStack} {ip : UINT32} {mac : Mac}

/-- Any act but an initialization keeps the coherence, with the latest MAC that it hears. -/
theorem act_coherent {act : Act} (coherent : s.neighbours.Coherent ip mac) (plain : ¬act.Initializes)
    (done : act.run s = some s') : ∃ frames, Takes s s' frames ∧
      s'.neighbours.Coherent ip ((latestMac ip (arpReplies s.rxPkt frames)).getD mac) := by
  cases act with
  | move move =>
      obtain ⟨frames, hears⟩ := move_hears done
      refine ⟨frames, hears.toTakes, ?_⟩
      rw [hears.neighbours]
      exact coherent.learnAll _
  | tcpOpen remote port =>
      obtain rfl := Option.some.inj done
      have nothing : TakesNothing s (s.tcpOpen remote port) := ⟨rfl, rfl, rfl, rfl, rfl⟩
      exact ⟨[], nothing.takes, nothing.neighbours ▸ coherent⟩
  | flushArp =>
      obtain rfl := Option.some.inj done
      exact ⟨[], ⟨(List.append_nil _).symm, rfl⟩, coherent.flush⟩
  | initNetwork => exact absurd trivial plain
  | initNetworkStatic => exact absurd trivial plain

/-- A run without an initialization keeps the coherence, with the latest MAC that it hears. -/
theorem runAll_coherent {acts : List Act} (coherent : s.neighbours.Coherent ip mac)
    (plain : ∀ act ∈ acts, ¬act.Initializes) (run : Act.runAll acts s = some s') : ∃ frames, Takes s s' frames ∧
      s'.neighbours.Coherent ip ((latestMac ip (arpReplies s.rxPkt frames)).getD mac) := by
  induction acts using List.reverseRecOn generalizing s' with
  | nil =>
      obtain rfl := Option.some.inj run
      exact ⟨[], ⟨(List.append_nil _).symm, rfl⟩, coherent⟩
  | append_singleton acts act ih =>
      obtain ⟨before, first, last⟩ := Act.runAll_append_singleton run
      obtain ⟨frames, takes, held⟩ := ih (fun other member => plain other (List.mem_append_left _ member)) first
      obtain ⟨more, takes', held'⟩ := act_coherent held (plain act (List.mem_append_right _ List.mem_cons_self)) last
      refine ⟨frames ++ more, takes.trans takes', ?_⟩
      rw [arpReplies_append, latestMac, lastWrite_append, getD_or]
      rw [takes.rxPkt] at held'
      exact held'

namespace NetStack

/-- The open NIC receives on the page that was allocated for it. -/
theorem openNic_opens {boot : Boot} {opened : NetStack} (done : s.openNic boot = .ok opened) :
    ∃ page, boot.rxPage = some page ∧ opened.rxPkt = page ∧ opened.taken = s.taken ∧ opened.arpCache = s.arpCache := by
  obtain ⟨seed, drawn⟩ := s.rngInit_eq boot.time
  unfold openNic at done
  rw [drawn] at done
  cases allocated : boot.rxPage with
  | none =>
      rw [allocated] at done
      cases done
  | some page =>
      rw [allocated] at done
      dsimp only at done
      repeat (split at done; · cases done)
      cases done
      refine ⟨page, rfl, rfl, ?_, rfl⟩
      simp [stall, log, taken, repaged, Event.taken?]

theorem dhcpSendRequest_takes (xid : UINT32) (loop : DhcpLoop) : Takes loop.stack (loop.sendRequest xid).stack [] := by
  have quiet (type : UINT8) : Takes loop.stack (loop.stack.sendDhcp type xid) [] :=
    (sendFrame_keepsResolver _ loop.stack).toTakesNothing.takes
  unfold DhcpLoop.sendRequest
  split
  · cases loop.state with
    | discover => exact quiet _
    | offerRcvd => exact quiet _
    | bound => exact (TakesNothing.refl _).takes
  · exact (TakesNothing.refl _).takes

theorem dhcpTransition_takes (message : DhcpMessage) (msgType : UINT8) (loop : DhcpLoop) :
    (loop.transition message msgType).stack.taken = loop.stack.taken ∧
      (loop.transition message msgType).stack.rxPkt = loop.stack.rxPkt := by
  unfold DhcpLoop.transition
  split
  · split
    all_goals exact ⟨rfl, rfl⟩
  · split
    all_goals exact ⟨rfl, rfl⟩
  · exact ⟨rfl, rfl⟩

theorem dhcpOnPage_takes (loop : DhcpLoop) :
    loop.onPage.stack.taken = loop.stack.taken ∧ loop.onPage.stack.rxPkt = loop.stack.rxPkt := by
  unfold DhcpLoop.onPage
  dsimp only
  split
  · exact dhcpTransition_takes _ _ _
  · exact ⟨rfl, rfl⟩

theorem dhcpOnReceive_takes (answer : Receive) (loop : DhcpLoop) :
    ∃ frames, Takes loop.stack (loop.onReceive answer).stack frames := by
  cases answer with
  | frame frame =>
      have landed := loop.stack.landed_takes frame
      obtain ⟨taken, rxPkt⟩ := dhcpOnPage_takes { loop with stack := loop.stack.received.landed frame }
      exact ⟨[frame], taken.trans landed.taken, rxPkt.trans landed.rxPkt⟩
  | notReady =>
      refine ⟨[], ?_, rfl⟩
      simp [DhcpLoop.onReceive, stall, log, taken, received, Event.taken?]
  | error =>
      refine ⟨[], ?_, rfl⟩
      simp [DhcpLoop.onReceive, log, taken, received, Event.taken?]

theorem dhcpRun_takes (xid : UINT32) (count : Nat) (loop : DhcpLoop) :
    ∃ frames, Takes loop.stack (DhcpLoop.run xid count loop).stack frames := by
  induction count generalizing loop with
  | zero => exact ⟨[], (TakesNothing.refl _).takes⟩
  | succ count ih =>
      rw [DhcpLoop.run]
      split
      · exact ⟨[], (TakesNothing.refl _).takes⟩
      · obtain ⟨frames, received⟩ := dhcpOnReceive_takes (loop.sendRequest xid).stack.nextReceive (loop.sendRequest xid)
        obtain ⟨more, later⟩ := ih (loop.iteration xid)
        exact ⟨_, ((dhcpSendRequest_takes xid loop).trans received).trans later⟩

theorem dhcp_takes (s : NetStack) : ∃ frames, Takes s s.dhcp.stack frames := by
  obtain ⟨frames, takes⟩ := dhcpRun_takes s.getU32.1 timeoutDhcpLoops { stack := s.getU32.2 }
  exact ⟨frames, takes.taken, takes.rxPkt⟩

/-- What the question for a gateway keeps: until a reply of the gateway comes the question is open, and with
it the MAC is known everywhere. -/
structure AsksFor (s t : NetStack) (ip : UINT32) (frames : List RxFrame) : Prop extends Takes s t frames where
  routerIp : t.identity.routerIp = ip
  targetIp : t.arp.targetIp = ip
  ordered : t.arpCache.Ordered
  heard : t.arp.resolved = true → latestMac ip (arpReplies s.rxPkt frames) = some t.identity.routerMac ∧
    t.neighbours.Coherent ip t.identity.routerMac ∧
    ∀ outMac, t.arpCache.lookup ip outMac = (true, t.identity.routerMac)

variable {t t' : NetStack}

theorem AsksFor.nothing (asks : AsksFor s t ip frames) (nothing : TakesNothing t t') : AsksFor s t' ip frames := by
  have takes := asks.toTakes.trans nothing.takes
  rw [List.append_nil] at takes
  refine ⟨takes, ?_, ?_, ?_, ?_⟩
  · rw [nothing.identity]
    exact asks.routerIp
  · rw [nothing.arp]
    exact asks.targetIp
  · rw [nothing.arpCache]
    exact asks.ordered
  · rw [nothing.arp, nothing.neighbours, nothing.identity, nothing.arpCache]
    exact asks.heard

/-- A poll leaves the question open or brings the gateway's MAC. -/
theorem AsksFor.poll (asks : AsksFor s t ip frames) (open_ : t.arp.resolved = false) (done : t.poll = some t') :
    ∃ more, AsksFor s t' ip (frames ++ more) := by
  rcases poll_learns done with ⟨frame, arp, takes, replies, learned⟩ | ⟨more, takes, -, same, arp⟩
  · have replied : arpReplies s.rxPkt (frames ++ [frame]) = arpReplies s.rxPkt frames ++ [arp] := by
      rw [arpReplies_append, ← asks.rxPkt, replies]
    have cache : t'.arpCache = t.arpCache.update arp.spa arp.sha := congrArg Neighbours.cache learned
    have routerIp : t'.identity.routerIp = ip := (congrArg Neighbours.routerIp learned).trans asks.routerIp
    by_cases gateway : arp.spa = ip
    · have coherent : t'.neighbours.Coherent ip arp.sha :=
        learned ▸ Neighbours.coherent_learn asks.routerIp asks.targetIp asks.ordered gateway
      have mac : t'.identity.routerMac = arp.sha := coherent.routerMac
      refine ⟨[frame], asks.toTakes.trans takes, routerIp, coherent.targetIp, coherent.ordered, fun _ => ⟨?_, ?_, ?_⟩⟩
      · rw [replied, latestMac, lastWrite_append, lastWrite_singleton, macFor, if_pos gateway, mac]
        rfl
      · rw [mac]
        exact coherent
      · intro outMac
        rw [cache, mac, gateway]
        exact ArpCache.lookup_update _ _ _ _
    · have resolution : t'.arp = t.arp :=
        (congrArg Neighbours.resolution learned).trans
          (Neighbours.learn_resolution_other (asks.targetIp.symm ▸ gateway))
      refine ⟨[frame], asks.toTakes.trans takes, routerIp, ?_, ?_, ?_⟩
      · rw [resolution]
        exact asks.targetIp
      · rw [cache]
        exact ArpCache.update_ordered asks.ordered _ _
      · rw [resolution, open_]
        intro resolved
        cases resolved
  · refine ⟨more, asks.toTakes.trans takes, (congrArg Neighbours.routerIp same).trans asks.routerIp, ?_, ?_, ?_⟩
    · rw [arp]
      exact asks.targetIp
    · have cache : t'.arpCache = t.arpCache := congrArg Neighbours.cache same
      rw [cache]
      exact asks.ordered
    · rw [arp, open_]
      intro resolved
      cases resolved

/-- The question for the gateway ends with its MAC in all places, or open. -/
theorem resolveGateway_asks (ordered : s.arpCache.Ordered) (done : s.resolveGateway = some s') :
    ∃ frames, AsksFor s s' s.identity.routerIp frames := by
  refine requestLoop_keeps (P := fun t => ∃ frames, AsksFor s t s.identity.routerIp frames) ?_ ?_ ?_ ?_ done
  · rintro before after ⟨frames, asks⟩ waiting sent
    obtain rfl := Option.some.inj sent
    exact ⟨⟨frames, asks.nothing (sendFrame_keepsResolver _ before).toTakesNothing⟩, waiting⟩
  · rintro before after ⟨frames, asks⟩ waiting polled
    obtain ⟨more, asks'⟩ := asks.poll waiting polled
    exact ⟨frames ++ more, asks'⟩
  · rintro before ⟨frames, asks⟩
    exact ⟨frames, asks.nothing (@log_keepsResolver before (.stall stall1ms) rfl).toTakesNothing⟩
  · exact ⟨[], ⟨⟨(List.append_nil _).symm, rfl⟩, rfl, rfl, ordered, fun resolved => by cases resolved⟩⟩

/-- A successful initialization asks for the gateway from a stack that has taken some frames onto the new page,
and ends with the question resolved. -/
structure AskedWith (boot : Boot) (s asked s' : NetStack) (page : RxPkt) (frames : List RxFrame) : Prop where
  rxPage : boot.rxPage = some page
  taken : asked.taken = s.taken ++ frames
  rxPkt : asked.rxPkt = frames.foldl RxPkt.receive page
  arpCache : asked.arpCache = s.arpCache
  resolves : asked.resolveGateway = some s'
  resolved : s'.arp.resolved = true

theorem initNetwork_asked {boot : Boot} (done : Api.initNetwork boot s = some (.success, s')) :
    ∃ asked page frames, AskedWith boot s asked s' page frames := by
  rw [initNetwork_eq] at done
  obtain ⟨asking, prepared, resolves, resolved⟩ := askGateway_success (Prepares.preparation.dhcpPrepared boot s) done
  unfold dhcpPrepared at prepared
  cases nic : s.openNic boot with
  | error failed =>
      rw [nic] at prepared
      cases prepared
  | ok opened =>
      rw [nic] at prepared
      dsimp only at prepared
      split at prepared
      · cases prepared
      · obtain rfl := Except.ok.inj prepared
        obtain ⟨page, rxPage, rxPkt, taken, arpCache⟩ := openNic_opens nic
        obtain ⟨frames, takes⟩ := opened.dhcp_takes
        exact ⟨_, page, frames,
          { rxPage
            taken := takes.taken.trans (congrArg (· ++ frames) taken)
            rxPkt := takes.rxPkt.trans (congrArg (List.foldl RxPkt.receive · frames) rxPkt)
            arpCache := (Prepares.preparation.dhcp opened).arpCache.trans arpCache
            resolves
            resolved }⟩

theorem initNetworkStatic_asked {boot : Boot} {ip gateway mask dns : UINT32}
    (done : Api.initNetworkStatic boot ip gateway mask dns s = some (.success, s')) :
    ∃ asked page frames, AskedWith boot s asked s' page frames := by
  rw [initNetworkStatic_eq] at done
  obtain ⟨asking, prepared, resolves, resolved⟩ :=
    askGateway_success (Prepares.preparation.staticPrepared boot ip gateway mask dns s) done
  unfold staticPrepared at prepared
  cases nic : s.openNic boot with
  | error failed =>
      rw [nic] at prepared
      cases prepared
  | ok opened =>
      rw [nic] at prepared
      obtain rfl := Except.ok.inj prepared
      obtain ⟨page, rxPage, rxPkt, taken, arpCache⟩ := openNic_opens nic
      refine ⟨_, page, [], { rxPage, taken := ?_, rxPkt := ?_, arpCache := ?_, resolves, resolved }⟩
      · exact taken.trans (List.append_nil _).symm
      · exact rxPkt
      · exact arpCache

theorem GatewayAsked.ordered {st : EfiStatus} (asked : GatewayAsked s s' st) (ordered : s.arpCache.Ordered) :
    s'.arpCache.Ordered := by
  obtain ⟨prepared, prepares, ⟨-, rfl⟩ | ⟨resolves, -⟩⟩ := asked
  · rw [prepares.arpCache]
    exact ordered
  · obtain ⟨frames, asks⟩ := resolveGateway_asks (prepares.arpCache.symm ▸ ordered) resolves
    exact asks.ordered

theorem act_ordered {act : Act} (ordered : s.arpCache.Ordered) (done : act.run s = some s') :
    s'.arpCache.Ordered := by
  cases act with
  | move move =>
      obtain ⟨frames, hears⟩ := move_hears done
      have cache := congrArg Neighbours.cache hears.neighbours
      rw [show s'.arpCache = _ from cache]
      exact Neighbours.learnAll_ordered ordered _
  | tcpOpen remote port =>
      obtain rfl := Option.some.inj done
      exact ordered
  | flushArp =>
      obtain rfl := Option.some.inj done
      exact (ArpCache.represents_flush s.arpCache).toOrdered
  | initNetwork boot =>
      obtain ⟨⟨st, ended⟩, called, rfl⟩ := Option.map_eq_some_iff.mp done
      exact (initNetwork_asks called).ordered ordered
  | initNetworkStatic boot ip gateway mask dns =>
      obtain ⟨⟨st, ended⟩, called, rfl⟩ := Option.map_eq_some_iff.mp done
      exact (initNetworkStatic_asks called).ordered ordered

/-- After any acts the table of the cache is ordered. -/
theorem runAll_ordered {acts : List Act} {rxPkt : RxPkt} {snp : Snp}
    (run : Act.runAll acts (.initial rxPkt snp) = some s) : s.arpCache.Ordered := by
  refine Act.runAll_keeps (P := fun t => t.arpCache.Ordered) ?_ ?_ run
  · exact ArpCache.represents_empty.toOrdered
  · exact fun act _ before after ordered done => act_ordered ordered done

/-- From any stack that some acts have reached, a successful initialization has one MAC for its gateway, which the
cache returns, and after any acts but another initialization the identity, the resolution and every hit of the cache
agree on one. As long as the frames that read as replies of the gateway are such replies, the last one of these names
it. -/
theorem gateway_coherence {history acts : List Act} {rxPkt : RxPkt} {snp : Snp} {boot : Boot} {s₁ s₂ : NetStack}
    (reached : Act.runAll history (.initial rxPkt snp) = some s)
    (initialized : Api.initNetwork boot s = some (.success, s₁) ∨
      ∃ ip gateway mask dns, Api.initNetworkStatic boot ip gateway mask dns s = some (.success, s₁))
    (plain : ∀ act ∈ acts, ¬act.Initializes) (run : Act.runAll acts s₁ = some s₂) :
    ∃ asked page frames polled later, AskedWith boot s asked s₁ page frames ∧ s₁.taken = asked.taken ++ polled ∧
      s₂.taken = s₁.taken ++ later ∧
      (∀ outMac, s₁.arpCache.lookup s₁.identity.routerIp outMac = (true, s₁.identity.routerMac)) ∧
      s₂.identity.routerIp = s₁.identity.routerIp ∧ s₂.identity.routerMac = s₂.arp.targetMac ∧
      (∀ outMac, (s₂.arpCache.lookup s₁.identity.routerIp outMac).1 = true →
        s₂.arpCache.lookup s₁.identity.routerIp outMac = (true, s₂.identity.routerMac)) ∧
      (RepliesWhole s₁.identity.routerIp asked.rxPkt polled →
        LatestReply s₁.identity.routerIp s₁.identity.routerMac polled) ∧
      (RepliesWhole s₁.identity.routerIp asked.rxPkt (polled ++ later) →
        LatestReply s₁.identity.routerIp s₂.identity.routerMac (polled ++ later)) := by
  obtain ⟨asked, page, frames, call⟩ : ∃ asked page frames, AskedWith boot s asked s₁ page frames := by
    rcases initialized with dhcp | ⟨ip, gateway, mask, dns, static⟩
    · exact initNetwork_asked dhcp
    · exact initNetworkStatic_asked static
  have ordered : asked.arpCache.Ordered := call.arpCache.symm ▸ runAll_ordered reached
  obtain ⟨heard, asks⟩ := resolveGateway_asks ordered call.resolves
  obtain ⟨latest, coherent, hit⟩ := asks.heard call.resolved
  rw [← asks.routerIp] at latest coherent hit
  obtain ⟨later, takes, held⟩ := runAll_coherent coherent plain run
  have overall : latestMac s₁.identity.routerIp (arpReplies asked.rxPkt (heard ++ later)) =
      some s₂.identity.routerMac := by
    rw [arpReplies_append, ← asks.rxPkt, latestMac, lastWrite_append, ← latestMac, ← latestMac, latest,
      ← show s₂.neighbours.routerMac = s₂.identity.routerMac from rfl, held.routerMac]
    cases latestMac s₁.identity.routerIp (arpReplies s₁.rxPkt later) with
    | none => rfl
    | some mac => rfl
  refine ⟨asked, page, frames, heard, later, call, asks.taken, takes.taken, hit, held.routerIp, ?_, ?_, ?_, ?_⟩
  · exact held.routerMac.trans held.targetMac.symm
  · intro outMac found
    have lookup := held.lookup outMac found
    rw [← held.routerMac] at lookup
    exact lookup
  · exact fun whole => latestReply whole latest
  · exact fun whole => latestReply whole overall

end NetStack

namespace Scenario

/-- The gateway answers from another NIC. -/
def movedReply : RxFrame where
  bytes :=
    EthHdr.bytes { dst := localMac, src := localMac, type := htons ethertypeArp } ++
      ArpHdr.bytes { oper := htons arpOperReply, sha := localMac, spa := gatewayIp, tha := localMac, tpa := localIp }
  fits := by decide

def unconfigured : NetStack := .initial .zeros { receive := [.frame gatewayReply, .frame movedReply] }

/-- A static initialization of it. -/
def configured : Option (EfiStatus × NetStack) :=
  Api.initNetworkStatic boot localIp gatewayIp 0x00FFFFFF#32 0#32 unconfigured

end Scenario

open Scenario in
/-- The gateway moves after the initialization and a flush of the cache. -/
theorem gateway_coherence_moved : ∃ s₁ s₂ : NetStack, configured = some (.success, s₁) ∧
    Act.runAll [.flushArp, .move .poll] s₁ = some s₂ ∧ s₂.identity.routerMac = localMac ∧
      s₂.arp.targetMac = localMac ∧ ∃ frame ∈ s₂.taken, frame.RepliesFor s₁.identity.routerIp localMac := by
  have success : configured.map (·.1) = some .success := by decide +kernel
  have moves : (configured.bind fun ended => Act.runAll [.flushArp, .move .poll] ended.2).map
      (fun ended => (ended.identity.routerMac, ended.taken.all fun frame => decide (32 ≤ frame.bytes.length))) =
        some (localMac, true) := by decide +kernel
  obtain ⟨⟨st, s₁⟩, initialized, rfl⟩ := Option.map_eq_some_iff.mp success
  rw [initialized] at moves
  obtain ⟨s₂, run, shown⟩ := Option.map_eq_some_iff.mp moves
  obtain ⟨mac, long⟩ := Prod.mk.inj shown
  obtain ⟨asked, page, frames, polled, later, call, first, second, -, -, same, -, -, latest⟩ :=
    @NetStack.gateway_coherence unconfigured [] [.flushArp, .move .poll] .zeros _ boot s₁ s₂ rfl
      (Or.inr ⟨_, _, _, _, initialized⟩) (by simp [Act.Initializes]) run
  have taken : s₂.taken = asked.taken ++ (polled ++ later) := by rw [second, first, List.append_assoc]
  have whole : ∀ frame ∈ polled ++ later, 32 ≤ frame.bytes.length := fun frame member =>
    of_decide_eq_true (List.all_eq_true.mp long frame (taken ▸ List.mem_append_right _ member))
  obtain ⟨before, frame, after, split, replies, -⟩ := latest (repliesWhole whole)
  refine ⟨s₁, s₂, initialized, run, mac, same.symm.trans mac, frame, ?_, mac ▸ replies⟩
  rw [taken, split]
  simp

namespace Scenario

/-- An ARP reply of the gateway under another Ethernet type, and the Ethernet header of an ARP packet. -/
def disguised : RxFrame where
  bytes :=
    EthHdr.bytes { dst := localMac, src := gatewayMac } ++
      ArpHdr.bytes { oper := htons arpOperReply, sha := gatewayMac, spa := gatewayIp, tha := localMac, tpa := localIp }
  fits := by decide
def headerOnly : RxFrame where
  bytes := EthHdr.bytes { dst := localMac, src := gatewayMac, type := htons ethertypeArp }
  fits := by decide

def misled : NetStack := .initial .zeros { receive := [.frame disguised, .frame headerOnly] }

end Scenario

open Scenario in
/-- An initialization succeeds without any ARP reply. It reads one behind the Ethernet header, where an ignored frame
has left it. -/
theorem stale_reply_learned : ¬∀ (boot : Boot) (ip gateway mask dns : UINT32) (s s₁ : NetStack),
    Api.initNetworkStatic boot ip gateway mask dns s = some (.success, s₁) →
      ∃ called, s₁.taken = s.taken ++ called ∧ LatestReply s₁.identity.routerIp s₁.identity.routerMac called := by
  intro learned
  have success : (Api.initNetworkStatic boot localIp gatewayIp 0x00FFFFFF#32 0#32 misled).map
      (fun ended => (ended.1, ended.2.taken)) = some (.success, [disguised, headerOnly]) := by decide +kernel
  obtain ⟨⟨st, s₁⟩, initialized, shown⟩ := Option.map_eq_some_iff.mp success
  obtain ⟨rfl, taken⟩ := Prod.mk.inj shown
  obtain ⟨called, split, before, frame, after, rfl, replies, -⟩ := learned _ _ _ _ _ _ _ initialized
  have member : frame ∈ [disguised, headerOnly] := by
    rw [← taken, split]
    simp
  have silent : senderOn (Memory.write (fun _ => 0#8) 0 disguised.bytes) = none ∧
      senderOn (Memory.write (fun _ => 0#8) 0 headerOnly.bytes) = none := by
    decide +kernel
  have reads := replies fun _ => 0#8
  simp only [List.mem_cons, List.not_mem_nil, or_false] at member
  rcases member with rfl | rfl
  · exact Option.some_ne_none _ (reads.symm.trans silent.1)
  · exact Option.some_ne_none _ (reads.symm.trans silent.2)

end UefiNetstack
