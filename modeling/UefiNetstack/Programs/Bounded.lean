import UefiNetstack.Programs.Shown
import UefiNetstack.Timing.Budgets

namespace UefiNetstack
open Constants NetStack Budget Utils

def pingPrice (timeoutMs : UINT32) : Spent := sendPrice + waitingPrice timeoutMs

def closePrice : Spent := ApiCall.tcpClose.price

/-- A session sends its request, waits for the response and closes. -/
def sessionPrice (timeoutMs : UINT32) : Spent := sendPrice + (waitingPrice timeoutMs + closePrice)

/-- A name is looked up and a session is opened with its host. -/
def fetchPrice (timeoutMs : UINT32) : Spent := askingPrice + (askingPrice + sessionPrice timeoutMs)

def Demo.price : Demo → Spent
  | .main => initNetworkPrice + (pingPrice 0x0BB8#32 + (askingPrice + fetchPrice 0x1388#32))
  | .dnsLookup => initNetworkPrice + 4 • askingPrice
  | .httpGet => initNetworkPrice + fetchPrice 0x1388#32
  | .ping => initNetworkPrice + 5 • (pingPrice 3000#32 + { micros := 1000000 })
  | .staticIp => initNetworkStaticPrice + (pingPrice 3000#32 + askingPrice)
  | .tcpClient => initNetworkPrice + fetchPrice 5000#32
  | .udpEcho => initNetworkPrice + (sendPrice + waitingPrice 5000#32)

/-- The buffer and the texts of a request change nothing about what it may cost. -/
theorem NetStack.httpGet_affords (hostname path : CString) (buffer : Memory) (maxLen actualLen : UINTN) (s : NetStack) :
    Affords NetStack.spent (fetchPrice 0x1388#32) s Received.stack
      (Api.httpGet hostname path buffer maxLen actualLen s) := by
  unfold Api.httpGet
  apply Affords.bind (s.resolveHostname_affords hostname 0#32)
  rintro ⟨st, targetIp, s⟩ -
  dsimp only
  split
  · intro result returned
    obtain rfl := Option.some.inj returned
    exact Spends.of_same rfl
  apply Affords.bind (s.tcpConnect_affords targetIp 0x50#16)
  rintro ⟨st, s⟩ -
  dsimp only
  split
  · intro result returned
    obtain rfl := Option.some.inj returned
    exact Spends.of_same rfl
  apply Affords.bind (s.tcpSend_affords (httpRequest hostname path))
  rintro ⟨st, s⟩ -
  dsimp only
  split
  · apply Affords.mono _ (le_add_self (a := closePrice))
    intro result returned
    obtain ⟨⟨_, closed⟩, closes, last⟩ := Option.bind_eq_some_iff.mp returned
    obtain rfl := Option.some.inj last
    exact s.tcpClose_affords _ closes
  apply Affords.bind (s.tcpReceive_affords buffer maxLen 0x1388#32)
  intro received _ result returned
  obtain ⟨⟨_, closed⟩, closes, last⟩ := Option.bind_eq_some_iff.mp returned
  obtain rfl := Option.some.inj last
  exact received.stack.tcpClose_affords _ closes

namespace Machine

variable {Result Next : Type} {m : Machine} {price price' : Spent}

/-- What the stack of a machine has spent. -/
def spent (m : Machine) : Spent := m.stack.spent

/-- A call of the stack. -/
theorem call_affords {left : Result → NetStack} {left' : Next → Machine} {g : Result → Next} {x : Option Result}
    (affords : Affords NetStack.spent price m.stack left x) (same : ∀ result, (left' (g result)).stack = left result) :
    Affords spent price m left' (x.map g) := by
  intro next returned
  obtain ⟨result, ran, rfl⟩ := Option.map_eq_some_iff.mp returned
  rw [Spends, spent, same]
  exact affords result ran

/-- Printing is free. -/
theorem print_affords {outputs : List Output} {left : Result → Machine} {f : Machine → Option Result}
    (rest : ∀ m', Affords spent price m' left (f m')) : Affords spent price m left ((m.print outputs).bind f) := by
  intro result returned
  obtain ⟨m', printed, continued⟩ := Option.bind_eq_some_iff.mp returned
  obtain ⟨console, -, rfl⟩ := Option.map_eq_some_iff.mp printed
  have ends := rest { m with console } result continued
  exact ends

theorem print_last {outputs : List Output} : Affords spent price m (fun m => m) (m.print outputs) := by
  intro m' printed
  obtain ⟨console, -, rfl⟩ := Option.map_eq_some_iff.mp printed
  exact Spends.of_same rfl

/-- A program that ends here. -/
theorem ends_affords {left : Result → Machine} {result : Result} (same : (left result).stack = m.stack) :
    Affords spent price m left (some result) := by
  intro other returned
  obtain rfl := Option.some.inj returned
  apply Spends.of_same
  rw [spent, same]
  rfl

theorem initNetwork_affords (boot : Boot) : Affords spent initNetworkPrice m Prod.snd (m.initNetwork boot) :=
  call_affords (m.stack.initNetwork_affords boot) fun _ => rfl

theorem ping_affords (targetIp timeoutMs : UINT32) :
    Affords spent (pingPrice timeoutMs) m Prod.snd (m.ping targetIp timeoutMs) :=
  call_affords (m.stack.ping_affords targetIp timeoutMs) fun _ => rfl

theorem resolveHostname_affords (hostname : CString) (outIp : UINT32) :
    Affords spent askingPrice m (·.2.2) (m.resolveHostname hostname outIp) :=
  call_affords (m.stack.resolveHostname_affords hostname outIp) fun _ => rfl

theorem initNetworkStatic_affords (boot : Boot) (ip gateway mask dns : UINT32) :
    Affords spent initNetworkStaticPrice m Prod.snd (m.initNetworkStatic boot ip gateway mask dns) :=
  call_affords (m.stack.initNetworkStatic_affords boot ip gateway mask dns) fun _ => rfl

theorem tcpConnect_affords (ip : UINT32) (port : UINT16) :
    Affords spent askingPrice m Prod.snd (m.tcpConnect ip port) :=
  call_affords (m.stack.tcpConnect_affords ip port) fun _ => rfl

theorem tcpSend_affords (data : Bytes) : Affords spent sendPrice m Prod.snd (m.tcpSend data) :=
  call_affords (m.stack.tcpSend_affords data) fun _ => rfl

theorem udpSend_affords (destIp : UINT32) (destPort : UINT16) (data : Bytes) :
    Affords spent sendPrice m Prod.snd (m.udpSend destIp destPort data) :=
  call_affords (m.stack.udpSend_affords destIp destPort data) fun _ => rfl

theorem receive_affords {call : NetStack → Option Received}
    (affords : Affords NetStack.spent price m.stack Received.stack (call m.stack)) :
    Affords spent price m Prod.snd (m.receive call) :=
  call_affords affords fun _ => rfl

theorem tcpClose_affords : Affords spent closePrice m Prod.snd m.tcpClose :=
  call_affords m.stack.tcpClose_affords fun _ => rfl

end Machine

namespace Program
open Machine

variable {m : Machine}

theorem pingGateway_affords : Affords Machine.spent (pingPrice 0x0BB8#32) m (fun m => m) (pingGateway m) := by
  apply print_affords
  intro m
  apply Affords.mono _ (le_of_eq (add_zero _))
  exact Affords.bind (ping_affords _ _) fun _ _ => print_last

theorem resolveExample_affords : Affords Machine.spent askingPrice m (fun m => m) (resolveExample m) := by
  apply print_affords
  intro m
  apply Affords.mono _ (le_of_eq (add_zero _))
  exact Affords.bind (resolveHostname_affords _ _) fun _ _ => print_last

theorem fetchExample_affords (uninitialized : Memory) :
    Affords Machine.spent (fetchPrice 0x1388#32) m (fun m => m) (fetchExample uninitialized m) := by
  apply print_affords
  intro m
  apply Affords.mono _ (le_of_eq (add_zero _))
  exact Affords.bind (receive_affords (m.stack.httpGet_affords _ _ _ _ _)) fun _ _ => print_last

theorem main_affords (boot : Boot) (uninitialized : Memory) :
    Affords Machine.spent Demo.main.price m Prod.snd (main boot uninitialized m) := by
  apply print_affords
  intro m
  apply Affords.bind (initNetwork_affords boot)
  rintro ⟨st, m⟩ -
  dsimp only
  split
  · exact print_affords fun m => ends_affords rfl
  apply print_affords
  intro m
  apply print_affords
  intro m
  apply Affords.bind pingGateway_affords
  intro m _
  apply Affords.bind resolveExample_affords
  intro m _
  apply Affords.mono _ (le_of_eq (add_zero _))
  apply Affords.bind (fetchExample_affords uninitialized)
  intro m _
  exact print_affords fun m => ends_affords rfl

theorem withNetwork_affords {title : String} {program : Machine → Option (EfiStatus × Machine)} {price : Spent}
    (boot : Boot) (affords : ∀ m, Affords Machine.spent price m Prod.snd (program m)) :
    Affords Machine.spent (initNetworkPrice + price) m Prod.snd (withNetwork title program boot m) := by
  apply print_affords
  intro m
  apply Affords.bind (initNetwork_affords boot)
  rintro ⟨st, m⟩ -
  dsimp only
  split
  · exact print_affords fun m => ends_affords rfl
  · exact affords m

/-- The rounds of a loop have one price. -/
theorem rounds_affords {Item : Type} {round : Machine → Item → Option Machine} {price : Spent}
    (affords : ∀ m item, Affords Machine.spent price m (fun m => m) (round m item)) (items : List Item) :
    Affords Machine.spent (items.length • price) m (fun m => m) (items.foldlM round m) := by
  have total : (items.map fun _ => price).sum = items.length • price := by
    rw [List.map_const', List.sum_replicate]
  rw [← total]
  exact Affords.foldlM affords items m

theorem lookupHost_affords (host : CString × String) :
    Affords Machine.spent askingPrice m (fun m => m) (lookupHost host m) := by
  apply print_affords
  intro m
  apply Affords.mono _ (le_of_eq (add_zero _))
  apply Affords.bind (resolveHostname_affords _ _)
  intro result _
  exact print_affords fun m => print_last

theorem dnsLookup_affords (boot : Boot) :
    Affords Machine.spent Demo.dnsLookup.price m Prod.snd (dnsLookup boot m) := by
  apply withNetwork_affords
  intro m
  apply print_affords
  intro m
  apply Affords.mono _ (le_of_eq (add_zero _))
  apply Affords.bind (rounds_affords (fun m host => lookupHost_affords host) hosts)
  intro m _
  exact print_affords fun m => ends_affords rfl

theorem httpGet_affords (boot : Boot) (uninitialized : Memory) :
    Affords Machine.spent Demo.httpGet.price m Prod.snd (httpGet boot uninitialized m) := by
  apply withNetwork_affords
  intro m
  apply print_affords
  intro m
  apply print_affords
  intro m
  apply Affords.mono _ (le_of_eq (add_zero _))
  apply Affords.bind (receive_affords (m.stack.httpGet_affords _ _ _ _ _))
  exact fun _ _ => print_affords fun m => ends_affords rfl

/-- A round waits for a second of its own. -/
theorem pingRound_affords (i : ℕ) :
    Affords Machine.spent (pingPrice 3000#32 + { micros := 1000000 }) m (fun m => m) (pingRound i m) := by
  apply print_affords
  intro m
  apply Affords.bind (ping_affords _ _)
  intro result _
  apply print_affords
  intro m m' returned
  obtain rfl := Option.some.inj returned
  exact m.stack.stall_spends 1000000

theorem pingGatewayRounds_affords (boot : Boot) :
    Affords Machine.spent Demo.ping.price m Prod.snd (pingGatewayRounds boot m) := by
  apply withNetwork_affords
  intro m
  apply print_affords
  intro m
  apply Affords.mono _ (le_of_eq (add_zero _))
  apply Affords.bind (rounds_affords (fun m i => pingRound_affords i) (List.range 5))
  intro m _
  exact print_affords fun m => ends_affords rfl

theorem useStatic_affords (gateway : UINT32) :
    Affords Machine.spent (pingPrice 3000#32 + askingPrice) m Prod.snd (useStatic gateway m) := by
  apply print_affords
  intro m
  apply print_affords
  intro m
  apply Affords.bind (ping_affords _ _)
  rintro ⟨st, m⟩ -
  apply print_affords
  intro m
  apply print_affords
  intro m
  apply Affords.mono _ (le_of_eq (add_zero _))
  apply Affords.bind (resolveHostname_affords _ _)
  rintro ⟨st, ip, m⟩ -
  exact print_affords fun m => print_affords fun m => ends_affords rfl

theorem staticIp_affords (boot : Boot) :
    Affords Machine.spent Demo.staticIp.price m Prod.snd (staticIp boot m) := by
  apply print_affords
  intro m
  apply print_affords
  intro m
  apply Affords.bind (initNetworkStatic_affords boot _ _ _ _)
  rintro ⟨st, m⟩ -
  dsimp only
  split
  · exact print_affords fun m => ends_affords rfl
  · exact useStatic_affords _

theorem useConnection_affords (uninitialized : Memory) :
    Affords Machine.spent (sessionPrice 5000#32) m Prod.snd (useConnection uninitialized m) := by
  apply print_affords
  intro m
  simp only [asciiStrLen_stored, Option.bind_eq_bind, Option.bind_some]
  apply print_affords
  intro m
  apply Affords.bind (tcpSend_affords _)
  rintro ⟨st, m⟩ -
  dsimp only
  split
  · apply print_affords
    intro m
    apply Affords.mono _ (le_add_self (a := closePrice))
    apply Affords.mono _ (le_of_eq (add_zero _))
    exact Affords.bind tcpClose_affords fun _ _ => ends_affords rfl
  apply print_affords
  intro m
  apply Affords.bind (receive_affords (m.stack.tcpReceive_affords _ _ _))
  rintro ⟨received, m⟩ -
  apply print_affords
  intro m
  apply Affords.mono _ (le_of_eq (add_zero _))
  apply Affords.bind tcpClose_affords
  rintro ⟨_, m⟩ -
  exact print_affords fun m => ends_affords rfl

theorem tcpClient_affords (boot : Boot) (uninitialized : Memory) :
    Affords Machine.spent Demo.tcpClient.price m Prod.snd (tcpClient boot uninitialized m) := by
  apply withNetwork_affords
  intro m
  apply print_affords
  intro m
  apply Affords.bind (resolveHostname_affords _ _)
  rintro ⟨st, ip, m⟩ -
  dsimp only
  split
  · exact print_affords fun m => ends_affords rfl
  apply print_affords
  intro m
  apply Affords.bind (tcpConnect_affords _ _)
  rintro ⟨st, m⟩ -
  dsimp only
  split
  · exact print_affords fun m => ends_affords rfl
  · exact useConnection_affords uninitialized

theorem exchangeDatagrams_affords (uninitialized : Memory) :
    Affords Machine.spent (sendPrice + waitingPrice 5000#32) m Prod.snd (exchangeDatagrams uninitialized m) := by
  apply print_affords
  intro m
  simp only [asciiStrLen_stored, Option.bind_eq_bind, Option.bind_some]
  have free : Spends Machine.spent 0 m (bindEphemeral m) := Spends.of_same rfl
  apply Affords.mono _ (le_of_eq (zero_add _))
  apply Affords.after free
  apply print_affords
  intro m
  apply Affords.bind (udpSend_affords _ _ _)
  rintro ⟨_, m⟩ -
  apply print_affords
  intro m
  apply print_affords
  intro m
  apply Affords.mono _ (le_of_eq (add_zero _))
  apply Affords.bind (receive_affords (m.stack.udpReceive_affords _ _ _))
  rintro ⟨received, m⟩ -
  exact print_affords fun m => print_affords fun m => ends_affords rfl

theorem udpEcho_affords (boot : Boot) (uninitialized : Memory) :
    Affords Machine.spent Demo.udpEcho.price m Prod.snd (udpEcho boot uninitialized m) := by
  apply withNetwork_affords
  intro m
  exact exchangeDatagrams_affords uninitialized

end Program

theorem Demo.run_affords (demo : Demo) (boot : Boot) (uninitialized : Memory) (m : Machine) :
    Affords Machine.spent demo.price m Prod.snd (demo.run boot uninitialized m) := by
  cases demo with
  | main => exact Program.main_affords boot uninitialized
  | dnsLookup => exact Program.dnsLookup_affords boot
  | httpGet => exact Program.httpGet_affords boot uninitialized
  | ping => exact Program.pingGatewayRounds_affords boot
  | staticIp => exact Program.staticIp_affords boot
  | tcpClient => exact Program.tcpClient_affords boot uninitialized
  | udpEcho => exact Program.udpEcho_affords boot uninitialized

/-- Every program of the repository that returns has sent, asked and stalled within its price, whatever the firmware
and the network do. No price is above four and a half million frames and three million polls. -/
theorem programs_bounded (demo : Demo) (boot : Boot) (uninitialized : Memory) (rxPkt : RxPkt) (snp : Snp)
    (console : Console) {st : EfiStatus} {m : Machine}
    (done : demo.run boot uninitialized (.started rxPkt snp console) = some (st, m)) :
    (m.stack.sent.length ≤ demo.price.frames ∧ m.stack.trace.countP Event.isReceive ≤ demo.price.polls ∧
      m.stack.waited ≤ demo.price.micros) ∧
    demo.price ≤ { frames := 4400541, polls := 2700000, micros := 11004052520000 } := by
  constructor
  · have spends := demo.run_affords boot uninitialized (.started rxPkt snp console) (st, m) done
    have start : Machine.spent (.started rxPkt snp console) = 0 := rfl
    rw [Spends, start, zero_add] at spends
    exact spends
  · cases demo
    all_goals decide +kernel

open Scenario in
/-- The demonstration whose network comes up stays within its price. -/
theorem programs_bounded_response : ∃ st m, Demo.main.run boot (fun _ => 0) demoMachine = some (st, m) ∧
    m.stack.tcpDelivered = [0x48, 0x49] ∧ m.stack.sent.length ≤ 3580444 := by
  obtain ⟨st, m, done, delivered⟩ := demo_returns
  obtain ⟨⟨frames, -, -⟩, -⟩ :=
    programs_bounded .main boot (fun _ => 0) .zeros { receive := demoAnswers } { attached := true } done
  exact ⟨st, m, done, delivered, frames.trans (by decide +kernel)⟩

end UefiNetstack
