import UefiNetstack.Network.Clients
import UefiNetstack.Arp.Coherence

namespace UefiNetstack
open Constants NetStack

/-- On some page a receiver finds in the frame a reply that names the MAC of an address. -/
def RxFrame.Claims (frame : RxFrame) (ip : UINT32) (mac : Mac) : Prop :=
  ∃ page : RxPkt, senderOn (page.receive frame).byte = some (ip, mac)

/-- The frame alone decides whether a receiver finds a reply in it, and of whom. -/
def RxFrame.Decided (frame : RxFrame) : Prop := ∃ sender, frame.Holds senderOn sender

/-- A frame that reaches behind the sender decides. -/
theorem RxFrame.decided {frame : RxFrame} (long : 32 ≤ frame.bytes.length) : frame.Decided :=
  ⟨_, senderOn_holds long⟩

/-- A frame that decides is a reply of the address that it claims. -/
theorem RxFrame.Decided.repliesFor {frame : RxFrame} {ip : UINT32} {mac : Mac} (decided : frame.Decided)
    (claims : frame.Claims ip mac) : frame.RepliesFor ip mac := by
  obtain ⟨sender, holds⟩ := decided
  obtain ⟨page, reads⟩ := claims
  rw [holds.on page] at reads
  obtain rfl := reads
  exact holds

theorem RxFrame.claims {frame : RxFrame} {page : RxPkt} {arp : ArpHdr} (found : (page.receive frame).arpReply = some arp) :
    frame.Claims arp.spa arp.sha :=
  ⟨page, by rw [senderOn_eq, found]; rfl⟩

/-- The address and the MAC of an instance. -/
def NetStack.Has (s : NetStack) (ip : UINT32) (mac : Mac) : Prop := s.identity.myIp = ip ∧ s.identity.myMac = mac

/-- Everything that an instance knows of its neighbours is owned. -/
structure Informed (owns : UINT32 → Mac → Prop) (s : NetStack) : Prop where
  own : owns s.identity.myIp s.identity.myMac
  cached : ∀ slot,
    (s.arpCache.table.get slot).valid → owns (s.arpCache.table.get slot).ip (s.arpCache.table.get slot).mac
  resolved : s.arp.resolved → owns s.arp.targetIp s.arp.targetMac

/-- Every claim of the frame is owned. -/
def Honest (owns : UINT32 → Mac → Prop) (frame : RxFrame) : Prop := ∀ ip mac, frame.Claims ip mac → owns ip mac

variable {owns : UINT32 → Mac → Prop} {s s' : NetStack}

/-- A frame of another type than ARP claims nothing. -/
theorem honest_of_ipv4 {frame : RxFrame} {eth : EthHdr} {rest : Bytes} (bytes : frame.bytes = eth.bytes ++ rest)
    (type : eth.type = htons ethertypeIpv4) : Honest owns frame := by
  rintro ip mac ⟨page, found⟩
  have notArp : (EthHdr.read (page.receive frame).byte 0).type ≠ htons ethertypeArp := by
    have header := @page_eth { NetStack.initial page {} with rxPkt := page } frame eth rest bytes
    have same : EthHdr.read (page.receive frame).byte 0 = eth := header
    rw [same, type]
    decide
  rw [senderOn_eq, arpReply_ipv4 notArp] at found
  cases found

/-- An ARP packet claims the addresses of its sender, and a request claims nothing. -/
theorem honest_of_arp {frame : RxFrame} {eth : EthHdr} {sent : ArpHdr} (bytes : frame.bytes = eth.bytes ++ sent.bytes)
    (owned : ntohs sent.oper = arpOperReply → owns sent.spa sent.sha) : Honest owns frame := by
  rintro ip mac ⟨page, found⟩
  have header := @page_arp (NetStack.initial page {}) frame eth sent bytes
  have same : ArpHdr.read (page.receive frame).byte sizeofEthHdr = sent := header
  unfold senderOn at found
  dsimp only at found
  rw [same] at found
  split at found
  · rename_i reply
    obtain ⟨rfl, rfl⟩ := Prod.mk.inj (Option.some.inj found)
    exact owned reply.2
  · cases found

/-- An instance claims its own address only. -/
theorem Built.honest {identity : Identity} {frame : RxFrame} {bytes : Bytes} (built : Built identity bytes)
    (same : frame.bytes = bytes) (own : owns identity.myIp identity.myMac) : Honest owns frame := by
  cases built with
  | arpRequest t _ targetIp =>
      refine honest_of_arp same fun reply => ?_
      have request : ntohs (htons arpOperRequest) ≠ arpOperReply := by decide
      exact absurd reply request
  | arpReply t mine arp =>
      refine honest_of_arp same fun _ => ?_
      rw [← mine] at own
      exact own
  | dhcp t _ type xid =>
      exact honest_of_ipv4 (same.trans ((List.append_assoc _ _ _).trans (List.append_assoc _ _ _))) rfl
  | icmpEcho t _ targetIp id seq random =>
      exact honest_of_ipv4 (same.trans ((List.append_assoc _ _ _).trans (List.append_assoc _ _ _))) rfl
  | icmpReply t _ saddr fits random => exact honest_of_ipv4 (same.trans (List.append_assoc _ _ _)) rfl
  | tcp t _ port flags seq ack fits random => exact honest_of_ipv4 (same.trans (List.append_assoc _ _ _)) rfl
  | udp t _ destIp destPort port fits random => exact honest_of_ipv4 (same.trans (List.append_assoc _ _ _)) rfl

namespace NetStack

theorem update_owned {cache : ArpCache} {ip : UINT32} {mac : Mac}
    (cached : ∀ slot, (cache.table.get slot).valid → owns (cache.table.get slot).ip (cache.table.get slot).mac)
    (new : owns ip mac) (slot : Fin arpCacheSize) (valid : ((cache.update ip mac).table.get slot).valid) :
    owns ((cache.update ip mac).table.get slot).ip ((cache.update ip mac).table.get slot).mac := by
  cases found : cache.find ip with
  | some place =>
      rw [ArpCache.update_hit found] at valid ⊢
      rw [ArpCache.get_set] at valid ⊢
      by_cases here : slot = place
      · rw [if_pos here]
        rw [(ArpCache.find_eq_some found).2]
        exact new
      · rw [if_neg here] at valid ⊢
        exact cached slot valid
  | none =>
      rw [ArpCache.update_miss found] at valid ⊢
      rw [ArpCache.get_set] at valid ⊢
      by_cases here : slot = cache.nextSlot
      · rw [if_pos here]
        exact new
      · rw [if_neg here] at valid ⊢
        exact cached slot valid

end NetStack

/-- An instance that learns an owned claim stays informed. -/
theorem Informed.learnArp {arp : ArpHdr} (informed : Informed owns s) (claimed : owns arp.spa arp.sha) :
    Informed owns (s.learnArp arp) := by
  rw [learnArp_eq]
  refine ⟨?_, update_owned informed.cached claimed, fun resolved => ?_⟩
  · dsimp only
    split
    all_goals exact informed.own
  · dsimp only at resolved ⊢
    split at resolved
    · rename_i target
      rw [if_pos target, ← target]
      exact claimed
    · rename_i other
      rw [if_neg other]
      exact informed.resolved resolved

theorem Informed.of_same (informed : Informed owns s) (own : owns s'.identity.myIp s'.identity.myMac)
    (arp : s'.arp = s.arp) (arpCache : s'.arpCache = s.arpCache) : Informed owns s' where
  own := own
  cached := by
    rw [arpCache]
    exact informed.cached
  resolved := by
    rw [arp]
    exact informed.resolved

theorem Informed.takesNothing (informed : Informed owns s) (nothing : TakesNothing s s') : Informed owns s' :=
  informed.of_same (by rw [nothing.identity]; exact informed.own) nothing.arp nothing.arpCache

namespace NetStack

theorem poll_informed (informed : Informed owns s)
    (honest : ∀ frame, s.nextReceive = .frame frame → Honest owns frame) (polled : s.poll = some s') : Informed owns s' := by
  rcases poll_step polled with ⟨frame, next, step⟩ | keeps
  · have landed : Informed owns (s.received.landed frame) := informed.of_same informed.own rfl rfl
    cases step with
    | reply arp found learned =>
        rw [learned]
        exact landed.learnArp (honest frame next _ _ (RxFrame.claims found))
    | answer udpAt address noReply found keeps dns => exact landed.takesNothing keeps
    | other noReply keeps => exact landed.takesNothing keeps.toTakesNothing
  · exact informed.takesNothing keeps.toTakesNothing

theorem smallStep_informed (informed : Informed owns s)
    (honest : ∀ frame, s.nextReceive = .frame frame → Honest owns frame) (step : SmallStep s s')
    (own : owns s'.identity.myIp s'.identity.myMac) : Informed owns s' := by
  cases step with
  | move own _ done =>
      cases own with
      | poll => exact poll_informed informed honest done
      | call call => exact informed.takesNothing (call_takesNothing done)
  | openNic boot opens =>
      have prepares := Prepares.of_openNic opens
      exact informed.of_same own prepares.arp prepares.arpCache
  | dhcp xid loop pending =>
      have asks := Prepares.preparation.sendRequest xid loop
      have hears := Prepares.preparation.onReceive (loop.sendRequest xid).stack.nextReceive (loop.sendRequest xid)
      exact informed.of_same own (asks.trans hears).arp (asks.trans hears).arpCache
  | flushArp s =>
      refine ⟨own, fun slot valid => ?_, informed.resolved⟩
      have invalid : (s.arpCache.flush.table.get slot).valid = false := by
        simp [ArpCache.flush, Vector.get]
      rw [invalid] at valid
      cases valid
  | gateway s => exact ⟨own, informed.cached, fun resolved => absurd resolved Bool.false_ne_true⟩
  | tcpOpen | dhcpId | configure | arpRequest => exact informed.of_same own rfl rfl

end NetStack

/-- Informed instances that hear honest frames stay informed and claim their own addresses. -/
theorem informed_keepMail :
    KeepsMail (fun s => owns s.identity.myIp s.identity.myMac) (Informed owns) (Honest owns) where
  nic := fun informed => ⟨informed.own, informed.cached, informed.resolved⟩
  step := by
    intro s s' mailed step own
    exact smallStep_informed mailed.holds (fun frame next => mailed.inbox frame (nextReceive_mem next)) step own
  emits := fun mailed _ _ _ built => built.honest rfl mailed.holds.own

section Network

variable {Site : Type} [DecidableEq Site] {net net' : Site → NetStack} {outside : RxFrame → Prop}
  {moments : List (Site → NetStack)}

/-- Some instance had the address with the MAC at one of the moments, or a frame from outside is a reply of the
address that names the MAC. -/
def Told (outside : RxFrame → Prop) (moments : List (Site → NetStack)) (ip : UINT32) (mac : Mac) : Prop :=
  (∃ state, Network.Visited moments state ∧ state.Has ip mac) ∨ ∃ frame, outside frame ∧ frame.RepliesFor ip mac

theorem informed_run (start : ∀ site, PoweredOn (net site)) (decided : ∀ frame, outside frame → frame.Decided)
    (passes : Passes (Network.Step stackNode outside) net moments net') :
    ∀ site, Informed (Told outside moments) (net' site) := by
  have owned (state : NetStack) (visited : Network.Visited moments state) :
      Told outside moments state.identity.myIp state.identity.myMac := Or.inl ⟨state, visited, rfl, rfl⟩
  have begins (site : Site) : Mailed (Informed (Told outside moments)) (Honest (Told outside moments)) (net site) := by
    refine (start site).mailed ?_
    have here := owned (net site) ⟨net, passes.start_mem, site, rfl⟩
    obtain ⟨rxPkt, transmit, getStatus, same⟩ := start site
    rw [same] at here ⊢
    refine ⟨here, fun slot valid => ?_, fun resolved => ?_⟩
    · have invalid : (({} : ArpCache).table.get slot).valid = false := by simp [Vector.get]
      rw [NetStack.initial, invalid] at valid
      cases valid
    · cases resolved
  have within := Network.Run.visits passes owned
  have foreign (frame : RxFrame) (comes : outside frame) : Honest (Told outside moments) frame :=
    fun ip mac claims => Or.inr ⟨frame, comes, (decided frame comes).repliesFor claims⟩
  exact fun site => ((informed_keepMail.sound foreign).run begins within site).holds

/-- On a network that may lose, repeat and reorder frames, and brings from outside frames that are long enough to
decide what they claim, whatever an instance knows of a neighbour is an address that some instance had with that MAC
at a moment of this run, or a frame from outside is a reply that names it. -/
theorem arp_provenance (start : ∀ site, PoweredOn (net site)) (decided : ∀ frame, outside frame → frame.Decided)
    (passes : Passes (Network.Step stackNode outside) net moments net') (site : Site) :
    (∀ ip outMac mac, (net' site).arpCache.lookup ip outMac = (true, mac) → Told outside moments ip mac) ∧
      ((net' site).arp.resolved → Told outside moments (net' site).arp.targetIp (net' site).arp.targetMac) := by
  have informed := informed_run start decided passes site
  refine ⟨fun ip outMac mac cached => ?_, informed.resolved⟩
  unfold ArpCache.lookup at cached
  split at cached
  · rename_i slot found
    obtain ⟨valid, rfl⟩ := ArpCache.find_eq_some found
    obtain ⟨-, rfl⟩ := Prod.mk.inj cached
    exact informed.cached slot valid
  · cases (Prod.mk.inj cached).1

end Network

namespace Scenario

/-- An instance with the MAC and the two addresses. -/
def hostUp (mac : Mac) (ip gateway : UINT32) : NetStack :=
  let opened := ((poweredOn.stall stall10ms).stall stall10ms).log .receiveFilters
  { opened with identity := { opened.identity with myMac := mac, myIp := ip, routerIp := gateway } }

theorem hostUp_steps (mac : Mac) (ip gateway : UINT32) : SmallSteps poweredOn (hostUp mac ip gateway) := by
  have opened : poweredOn.openNic { boot with currentAddress := mac } =
      .ok (poweredOn.nicOpened { boot with currentAddress := mac }) :=
    openNic_ready rfl rfl rfl one_ne_zero rfl poweredOn
  exact (SmallStep.steps (.openNic _ (Or.inl opened))).tail (.configure _ ip gateway 0 0)

/-- The host has asked for its gateway. -/
def hostAsks : NetStack := (hostUp localMac localIp gatewayIp).arpRequest gatewayIp

def arpQuestion : RxFrame := { bytes := hostAsks.sent.headD [], fits := by decide +kernel }

def gatewayAsked : NetStack := (hostUp gatewayMac gatewayIp 0).handed (.frame arpQuestion)

/-- The gateway has replied. -/
def gatewayReplies : NetStack := gatewayAsked.poll.get (by decide +kernel)

def arpAnswer : RxFrame := { bytes := gatewayReplies.sent.headD [], fits := by decide +kernel }

def hostAnswered : NetStack := hostAsks.handed (.frame arpAnswer)

/-- The host has learned the MAC of the gateway. -/
def hostKnows : NetStack := hostAnswered.poll.get (by decide +kernel)

/-- The network of a host and a gateway. -/
def hosts (host gateway : NetStack) : Bool → NetStack := fun site => if site then host else gateway

theorem hosts_host (host gateway host' : NetStack) :
    Function.update (hosts host gateway) true host' = hosts host' gateway := by
  funext site
  cases site
  all_goals rfl

theorem hosts_gateway (host gateway gateway' : NetStack) :
    Function.update (hosts host gateway) false gateway' = hosts host gateway' := by
  funext site
  cases site
  all_goals rfl

theorem hosts_run (outside : RxFrame → Prop) :
    Network.Run stackNode outside (hosts poweredOn poweredOn) (hosts hostKnows gatewayReplies) := by
  have asks : SmallSteps poweredOn hostAsks := (hostUp_steps localMac localIp gatewayIp).tail (.arpRequest _)
  have first := @SmallSteps.onNetwork hostAsks Bool _ outside (hosts poweredOn poweredOn) true asks
  rw [hosts_host] at first
  have second := @SmallSteps.onNetwork (hostUp gatewayMac gatewayIp 0) Bool _ outside (hosts hostAsks poweredOn)
    false (hostUp_steps gatewayMac gatewayIp 0)
  rw [hosts_gateway] at second
  have asked : stackNode.sent hostAsks arpQuestion := by
    have member : arpQuestion.bytes ∈ hostAsks.sent := by decide +kernel
    exact member
  have third : Network.Step stackNode outside (hosts hostAsks (hostUp gatewayMac gatewayIp 0)) _ :=
    Network.Step.deliver false (Or.inr ⟨true, asked⟩)
      (rfl : stackNode.take arpQuestion (hostUp gatewayMac gatewayIp 0) gatewayAsked)
  rw [hosts_gateway] at third
  have replies : SmallSteps gatewayAsked gatewayReplies := (SmallStep.poll (Option.some_get _).symm).steps
  have fourth := @SmallSteps.onNetwork gatewayReplies Bool _ outside (hosts hostAsks gatewayAsked) false replies
  rw [hosts_gateway] at fourth
  have replied : stackNode.sent gatewayReplies arpAnswer := by
    have member : arpAnswer.bytes ∈ gatewayReplies.sent := by decide +kernel
    exact member
  have fifth : Network.Step stackNode outside (hosts hostAsks gatewayReplies) _ :=
    Network.Step.deliver true (Or.inr ⟨false, replied⟩) (rfl : stackNode.take arpAnswer hostAsks hostAnswered)
  rw [hosts_host] at fifth
  have learns : SmallSteps hostAnswered hostKnows := (SmallStep.poll (Option.some_get _).symm).steps
  have sixth := @SmallSteps.onNetwork hostKnows Bool _ outside (hosts hostAnswered gatewayReplies) true learns
  rw [hosts_host] at sixth
  exact ((((first.trans second).tail third).trans fourth).tail fifth).trans sixth

end Scenario

open Scenario in
/-- The host has the MAC of the gateway from the gateway, while another one may claim its address. -/
theorem arp_provenance_hosts : ∃ moments,
    Passes (Network.Step stackNode (· = movedReply)) (hosts poweredOn poweredOn) moments (hosts hostKnows gatewayReplies) ∧
      hostKnows.arpCache.lookup gatewayIp localMac = (true, gatewayMac) ∧
      Told (· = movedReply) moments gatewayIp gatewayMac := by
  obtain ⟨moments, passes⟩ := Passes.of_run (hosts_run (· = movedReply))
  have decided (frame : RxFrame) (same : frame = movedReply) : frame.Decided := same ▸ RxFrame.decided (by decide)
  have known : hostKnows.arpCache.lookup gatewayIp localMac = (true, gatewayMac) := by decide +kernel
  have powered (site : Bool) : PoweredOn (hosts poweredOn poweredOn site) := by
    cases site
    all_goals exact poweredOn_powered
  exact ⟨moments, passes, known, (arp_provenance powered decided passes true).1 _ _ _ known⟩

end UefiNetstack
