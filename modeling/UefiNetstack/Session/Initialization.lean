import UefiNetstack.Session.Acts
import UefiNetstack.Buffers.Copies

namespace UefiNetstack
open Constants

namespace NetStack

variable {s s' s'' : NetStack}

/-- A step that may configure the identity and keeps every other protocol variable. -/
structure Prepares (s s' : NetStack) : Prop where
  arp : s'.arp = s.arp
  arpCache : s'.arpCache = s.arpCache
  dns : s'.dns = s.dns
  tcp : s'.tcp = s.tcp
  udp : s'.udp = s.udp
  ping : s'.ping = s.ping
  copies : s'.copies = s.copies

theorem Prepares.refl (s : NetStack) : Prepares s s := ⟨rfl, rfl, rfl, rfl, rfl, rfl, rfl⟩

theorem Prepares.trans (first : Prepares s s') (second : Prepares s' s'') : Prepares s s'' where
  arp := second.arp.trans first.arp
  arpCache := second.arpCache.trans first.arpCache
  dns := second.dns.trans first.dns
  tcp := second.tcp.trans first.tcp
  udp := second.udp.trans first.udp
  ping := second.ping.trans first.ping
  copies := second.copies.trans first.copies

/-- What a relation has to allow for the steps of an initialization up to the question for the gateway. -/
structure Preparation (R : NetStack → NetStack → Prop) : Prop where
  refl : ∀ s, R s s
  trans : ∀ {s s' s''}, R s s' → R s' s'' → R s s''
  of_identity : ∀ (s : NetStack) (identity : Identity) (seed : UINT32) (rxPkt : RxPkt) (snp : Snp),
    R s { s with identity, rngSeed := seed, rxPkt, snp }
  log : ∀ (s : NetStack) {event : Event}, event.copy? = none → event.frame? = none → R s (s.log event)
  sendDhcp : ∀ (s : NetStack) (type : UINT8) (xid : UINT32), R s (s.sendDhcp type xid)

theorem Prepares.preparation : Preparation Prepares where
  refl := Prepares.refl
  trans := Prepares.trans
  of_identity _ _ _ _ _ := ⟨rfl, rfl, rfl, rfl, rfl, rfl, rfl⟩
  log s _ noCopy _ := ⟨rfl, rfl, rfl, rfl, rfl, rfl, s.log_copies noCopy⟩
  sendDhcp s _ _ := ⟨rfl, rfl, rfl, rfl, rfl, rfl, sendFrame_copies _ s⟩

theorem dhcpFrame_not_tcp (s : NetStack) (type : UINT8) (xid : UINT32) : ¬IsTcpFrame (s.dhcpFrame type xid) := by
  intro tcp
  have protocol : (frameIp (s.dhcpFrame type xid)).protocol = ipProtoTcp := tcp.2
  unfold dhcpFrame at protocol
  rw [List.append_assoc, frameIp_parts] at protocol
  exact absurd protocol (by decide)

theorem TcpQuiet.preparation : Preparation TcpQuiet where
  refl := TcpQuiet.refl
  trans := TcpQuiet.trans
  of_identity _ _ _ _ _ := TcpQuiet.of_trace rfl rfl
  log s event noCopy noFrame := by
    refine s.log_tcpQuiet noFrame ?_
    cases event with
    | tcpCopy offset data => cases noCopy
    | _ => rfl
  sendDhcp s type xid := s.sendFrame_tcpQuiet (s.dhcpFrame_not_tcp type xid)

/-- The stack with another seed and another receive page. -/
def repaged (seed : UINT32) (rxPkt : RxPkt) (s : NetStack) : NetStack := { s with rngSeed := seed, rxPkt }

/-- The stack behind the open NIC. -/
def nicOpened (boot : Boot) (s : NetStack) : NetStack :=
  let s := ((s.stall stall10ms).stall stall10ms).log .receiveFilters
  { s with identity := { s.identity with myMac := boot.currentAddress } }

/-- A firmware whose calls all succeed opens the NIC. -/
theorem openNic_ready {boot : Boot} {rxPkt : RxPkt} (page : boot.rxPage = some rxPkt) (txPage : boot.txPage)
    (locates : boot.locate = .success) (handles : boot.handleCount ≠ 0) (opens : boot.openProtocol = .success)
    (s : NetStack) : s.openNic boot = .ok ({ s.rngInit boot.time with rxPkt }.nicOpened boot) := by
  unfold openNic
  rw [page]
  dsimp only
  have noError : ¬EfiStatus.success.isError = true := Bool.false_ne_true
  rw [if_neg (not_not_intro txPage), locates, if_neg noError, if_neg handles, opens, if_neg fun failed => noError failed.1]
  rfl

theorem rngInit_eq (time : Option EfiTime) (s : NetStack) : ∃ seed, s.rngInit time = s.repaged seed s.rxPkt := by
  cases time with
  | none => exact ⟨s.rngSeed, rfl⟩
  | some time => exact ⟨_, rfl⟩

/-- Opening the NIC seeds the generator, allocates the page and stops at the first failed call. -/
theorem openNic_cases (boot : Boot) (s : NetStack) : ∃ seed rxPkt,
    (∃ st, s.openNic boot = .error (st, s.repaged seed rxPkt) ∧ st ≠ .success) ∨
      s.openNic boot = .ok ((s.repaged seed rxPkt).nicOpened boot) := by
  obtain ⟨seed, drawn⟩ := s.rngInit_eq boot.time
  unfold openNic
  rw [drawn]
  cases page : boot.rxPage with
  | none => exact ⟨seed, s.rxPkt, Or.inl ⟨_, rfl, by decide⟩⟩
  | some rxPkt =>
      by_cases txPage : boot.txPage
      · refine ⟨seed, rxPkt, ?_⟩
        dsimp only
        rw [if_neg (not_not_intro txPage)]
        split
        · rename_i failed
          exact Or.inl ⟨_, rfl, EfiStatus.isError_ne_success failed⟩
        · split
          · exact Or.inl ⟨_, rfl, by decide⟩
          · split
            · rename_i failed
              exact Or.inl ⟨_, rfl, EfiStatus.isError_ne_success failed.2⟩
            · exact Or.inr rfl
      · exact ⟨seed, s.rxPkt, Or.inl ⟨_, if_pos txPage, by decide⟩⟩

namespace Preparation

variable {R : NetStack → NetStack → Prop} (keeps : Preparation R)
include keeps

theorem sendRequest (xid : UINT32) (loop : DhcpLoop) : R loop.stack (loop.sendRequest xid).stack := by
  unfold DhcpLoop.sendRequest
  split
  · cases loop.state with
    | discover => exact keeps.sendDhcp _ _ _
    | offerRcvd => exact keeps.sendDhcp _ _ _
    | bound => exact keeps.refl _
  · exact keeps.refl _

theorem transition (message : DhcpMessage) (msgType : UINT8) (loop : DhcpLoop) :
    R loop.stack (loop.transition message msgType).stack := by
  unfold DhcpLoop.transition
  split
  · split
    · exact keeps.of_identity _ _ _ _ _
    · exact keeps.refl _
  · split
    · exact keeps.of_identity _ _ _ _ _
    · exact keeps.refl _
  · exact keeps.refl _

theorem onReceive (answer : Receive) (loop : DhcpLoop) : R loop.stack (loop.onReceive answer).stack := by
  have logged : R loop.stack (loop.stack.received.log (.receive answer)) :=
    keeps.trans (keeps.of_identity loop.stack _ _ _ _) (keeps.log loop.stack.received rfl rfl)
  cases answer with
  | frame frame =>
      refine keeps.trans logged ?_
      change R _ (DhcpLoop.onPage _).stack
      unfold DhcpLoop.onPage
      dsimp only
      split
      · refine keeps.trans ?_ (keeps.transition _ _ _)
        exact keeps.of_identity _ _ _ _ _
      · exact keeps.of_identity _ _ _ _ _
  | notReady => exact keeps.trans logged (keeps.log _ rfl rfl)
  | error => exact logged

theorem run (xid : UINT32) (count : Nat) (loop : DhcpLoop) : R loop.stack (DhcpLoop.run xid count loop).stack := by
  induction count generalizing loop with
  | zero => exact keeps.refl _
  | succ count ih =>
      rw [DhcpLoop.run]
      split
      · exact keeps.refl _
      · exact keeps.trans (keeps.trans (keeps.sendRequest xid loop) (keeps.onReceive _ _)) (ih _)

theorem dhcp (s : NetStack) : R s s.dhcp.stack :=
  keeps.trans (keeps.of_identity s _ _ _ _) (keeps.run s.getU32.1 timeoutDhcpLoops { stack := s.getU32.2 })

/-- The stack behind the open NIC. -/
theorem nicOpened (boot : Boot) (seed : UINT32) (rxPkt : RxPkt) (s : NetStack) :
    R s ((s.repaged seed rxPkt).nicOpened boot) := by
  have repaged : R s (s.repaged seed rxPkt) := keeps.of_identity s s.identity seed rxPkt s.snp
  have stalls (s : NetStack) : R s (s.stall stall10ms) := keeps.log s rfl rfl
  have filters (s : NetStack) : R s (s.log .receiveFilters) := keeps.log s rfl rfl
  have started := keeps.trans repaged (keeps.trans (stalls _) (stalls _))
  exact keeps.trans (keeps.trans started (filters _)) (keeps.of_identity _ _ _ _ _)

end Preparation

/-- What `init_network` does before it asks for the gateway: it fails, or leaves the stack that asks. -/
def dhcpPrepared (boot : Boot) (s : NetStack) : Except (EfiStatus × NetStack) NetStack :=
  match s.openNic boot with
  | .error failed => .error failed
  | .ok s => if s.dhcp.state ≠ .bound then .error (.timeout, s.dhcp.stack) else .ok s.dhcp.stack

/-- The same of `init_network_static`. -/
def staticPrepared (boot : Boot) (ip gateway mask dns : UINT32) (s : NetStack) :
    Except (EfiStatus × NetStack) NetStack :=
  match s.openNic boot with
  | .error failed => .error failed
  | .ok s => .ok { s with
      identity := { s.identity with myIp := ip, routerIp := gateway, subnetMask := mask, dnsServerIp := dns } }

/-- Both functions end alike. -/
def askGateway (prepared : Except (EfiStatus × NetStack) NetStack) : Option (EfiStatus × NetStack) :=
  match prepared with
  | .error failed => some failed
  | .ok s => do
    let s ← s.resolveGateway
    some (if s.arp.resolved then .success else .timeout, s)

theorem initNetwork_eq (boot : Boot) (s : NetStack) : Api.initNetwork boot s = askGateway (s.dhcpPrepared boot) := by
  unfold Api.initNetwork dhcpPrepared
  cases s.openNic boot with
  | error failed => rfl
  | ok opened =>
      dsimp only
      split
      · rfl
      · rfl

theorem initNetworkStatic_eq (boot : Boot) (ip gateway mask dns : UINT32) (s : NetStack) :
    Api.initNetworkStatic boot ip gateway mask dns s = askGateway (s.staticPrepared boot ip gateway mask dns) := by
  unfold Api.initNetworkStatic staticPrepared
  cases s.openNic boot with
  | error failed => rfl
  | ok opened => rfl

/-- The preparation fails with an error or succeeds, and leaves a related stack. -/
def Prepared (R : NetStack → NetStack → Prop) (s : NetStack) : Except (EfiStatus × NetStack) NetStack → Prop
  | .error (st, s') => st ≠ .success ∧ R s s'
  | .ok s' => R s s'

section Prepared

variable {R : NetStack → NetStack → Prop}

theorem Preparation.dhcpPrepared (keeps : Preparation R) (boot : Boot) (s : NetStack) :
    Prepared R s (s.dhcpPrepared boot) := by
  obtain ⟨seed, rxPkt, ⟨failure, failed, error⟩ | opened⟩ := s.openNic_cases boot
  · rw [NetStack.dhcpPrepared, failed]
    exact ⟨error, keeps.of_identity _ _ _ _ _⟩
  · have prepared := keeps.trans (keeps.nicOpened boot seed rxPkt s) (keeps.dhcp _)
    rw [NetStack.dhcpPrepared, opened]
    dsimp only
    split
    · exact ⟨by decide, prepared⟩
    · exact prepared

theorem Preparation.staticPrepared (keeps : Preparation R) (boot : Boot) (ip gateway mask dns : UINT32) (s : NetStack) :
    Prepared R s (s.staticPrepared boot ip gateway mask dns) := by
  obtain ⟨seed, rxPkt, ⟨failure, failed, error⟩ | opened⟩ := s.openNic_cases boot
  · rw [NetStack.staticPrepared, failed]
    exact ⟨error, keeps.of_identity _ _ _ _ _⟩
  · rw [NetStack.staticPrepared, opened]
    exact keeps.trans (keeps.nicOpened boot seed rxPkt s) (keeps.of_identity _ _ _ _ _)

end Prepared

/-- An initialization fails on a prepared stack or asks for the gateway from one. -/
def GatewayAsked (s s' : NetStack) (st : EfiStatus) : Prop :=
  ∃ prepared, Prepares s prepared ∧ (st ≠ .success ∧ s' = prepared ∨
    prepared.resolveGateway = some s' ∧ st = if s'.arp.resolved then .success else .timeout)

theorem askGateway_asks {result : Except (EfiStatus × NetStack) NetStack} {st : EfiStatus}
    (prepared : Prepared Prepares s result) (done : askGateway result = some (st, s')) : GatewayAsked s s' st := by
  cases result with
  | error failed =>
      obtain rfl := Option.some.inj done
      exact ⟨s', prepared.2, Or.inl ⟨prepared.1, rfl⟩⟩
  | ok asking =>
      obtain ⟨asked, resolved, result⟩ := Option.bind_eq_some_iff.mp done
      obtain ⟨rfl, rfl⟩ := Prod.mk.inj (Option.some.inj result)
      exact ⟨asking, prepared, Or.inr ⟨resolved, rfl⟩⟩

/-- A successful initialization has resolved the gateway from the prepared stack. -/
theorem askGateway_success {result : Except (EfiStatus × NetStack) NetStack} (prepared : Prepared Prepares s result)
    (done : askGateway result = some (.success, s')) :
    ∃ asking, result = .ok asking ∧ asking.resolveGateway = some s' ∧ s'.arp.resolved = true := by
  cases result with
  | error failed =>
      obtain rfl := Option.some.inj done
      exact absurd rfl prepared.1
  | ok asking =>
      obtain ⟨asked, resolves, result⟩ := Option.bind_eq_some_iff.mp done
      obtain ⟨status, rfl⟩ := Prod.mk.inj (Option.some.inj result)
      refine ⟨asking, rfl, resolves, ?_⟩
      by_contra unresolved
      rw [if_neg unresolved] at status
      cases status

theorem initNetwork_asks {boot : Boot} {st : EfiStatus} (done : Api.initNetwork boot s = some (st, s')) :
    GatewayAsked s s' st := by
  rw [initNetwork_eq] at done
  exact askGateway_asks (Prepares.preparation.dhcpPrepared boot s) done

theorem initNetworkStatic_asks {boot : Boot} {ip gateway mask dns : UINT32} {st : EfiStatus}
    (done : Api.initNetworkStatic boot ip gateway mask dns s = some (st, s')) : GatewayAsked s s' st := by
  rw [initNetworkStatic_eq] at done
  exact askGateway_asks (Prepares.preparation.staticPrepared boot ip gateway mask dns s) done

end NetStack
end UefiNetstack
