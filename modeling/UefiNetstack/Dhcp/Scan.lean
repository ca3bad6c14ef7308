import UefiNetstack.Lib.LastWrite
import UefiNetstack.Api.Init

namespace UefiNetstack
open Constants LastWrite

/-- The variables that an option configures. -/
inductive ConfigVar where
  | subnetMask
  | routerIp
  | dnsServerIp
  | dhcpLeaseTime
deriving DecidableEq

namespace ConfigVar

def get : ConfigVar → Identity → UINT32
  | .subnetMask, identity => identity.subnetMask
  | .routerIp, identity => identity.routerIp
  | .dnsServerIp, identity => identity.dnsServerIp
  | .dhcpLeaseTime, identity => identity.dhcpLeaseTime

def option : ConfigVar → UINT8
  | .subnetMask => dhcpOptSubnetMask
  | .routerIp => dhcpOptRouter
  | .dnsServerIp => dhcpOptDns
  | .dhcpLeaseTime => dhcpOptLeaseTime

/-- Only the lease time is stored in host order. -/
def stored : ConfigVar → UINT32 → UINT32
  | .dhcpLeaseTime, value => ntohl value
  | _, value => value

/-- What the item at a pointer says of a variable. -/
def named (var : ConfigVar) (m : Memory) (p : Nat) : Option UINT32 :=
  if m p = var.option ∧ m (p + 1) ≥ 0x04#8 then some (var.stored (m.load32 (p + 2))) else none

end ConfigVar

/-- What the item at a pointer says of the message type. -/
def typeAt (m : Memory) (p : Nat) : Option UINT8 :=
  if m p = dhcpOptMsgType ∧ m (p + 1) ≥ 0x01#8 then some (m (p + 2)) else none

namespace DhcpScan

variable (scan : DhcpScan) (m : Memory) (p : Nat)

theorem store_msgType : (scan.store m p).msgType = (typeAt m p).getD scan.msgType := by
  simp only [store, typeAt]
  split <;> rfl

/-- An item overwrites the variable of its code. -/
theorem store_get (var : ConfigVar) :
    var.get (scan.store m p).identity = (var.named m p).getD (var.get scan.identity) := by
  by_cases test : m p = var.option ∧ m (p + 1) ≥ 0x04#8
  · rw [ConfigVar.named, if_pos test, Option.getD_some]
    cases var
    all_goals exact if_pos test
  · rw [ConfigVar.named, if_neg test, Option.getD_none]
    cases var
    all_goals exact if_neg test

/-- The scan stores nothing but the four variables. -/
theorem store_others : (scan.store m p).identity.myMac = scan.identity.myMac ∧
    (scan.store m p).identity.myIp = scan.identity.myIp ∧
    (scan.store m p).identity.dhcpServerIp = scan.identity.dhcpServerIp :=
  ⟨rfl, rfl, rfl⟩

end DhcpScan

/-- The pointers to the items that the scan visits. -/
def visited (m : Memory) (options : Nat) : Nat → Nat → List Nat
  | 0, _ => []
  | rounds + 1, offset =>
    let p := options + offset
    if m p = dhcpOptEnd then []
    else if offset ≥ dhcpOptMaxScan then []
    else if m p = dhcpOptPad then p :: visited m options rounds (offset + 1)
    else p :: visited m options rounds (offset + ((m (p + 1)).toNat + 0x02))

theorem scanOptions_eq (m : Memory) (options rounds offset : Nat) (scan : DhcpScan) :
    scanOptions m options rounds offset scan =
      (visited m options rounds offset).foldl (fun scan p => scan.store m p) scan := by
  induction rounds generalizing offset scan with
  | zero => rfl
  | succ rounds ih =>
      rw [scanOptions, visited]
      dsimp only
      split
      · rfl
      · split
        · rfl
        · split
          · rw [List.foldl_cons, ih]
          · rw [List.foldl_cons, ih]

/-- Rounds past the scan limit find nothing, so the loop of the source ends within its rounds. -/
theorem visited_stable (m : Memory) (options more : Nat) {rounds offset : Nat}
    (enough : scanRounds ≤ rounds + offset) :
    visited m options (rounds + more) offset = visited m options rounds offset := by
  induction rounds generalizing offset with
  | zero =>
      have limit : offset ≥ dhcpOptMaxScan := by simp only [scanRounds] at enough; omega
      cases more with
      | zero => rfl
      | succ more => simp only [visited, if_pos limit, ite_self]
  | succ rounds ih =>
      rw [Nat.succ_add]
      simp only [visited]
      rw [ih (by omega), ih (by omega)]

/-- A message with the page that it was found on. -/
structure Heard where
  m : Memory
  message : DhcpMessage

namespace Heard

variable (heard : Heard)

def items : List Nat := visited heard.m (heard.message.dhcpAt + dhcpOptionsOffset) scanRounds 0

/-- A message without a type option has type zero. -/
def type : UINT8 := (lastWrite (typeAt heard.m) heard.items).getD 0x00#8

/-- The value that the message gives to a variable. -/
def value (var : ConfigVar) : Option UINT32 := lastWrite (var.named heard.m) heard.items

/-- The address that the message offers. -/
def address : UINT32 := heard.message.dhcp.yiaddr

/-- The server is the one of the message, or else the sender. -/
def server : UINT32 :=
  if heard.message.dhcp.siaddr = 0#32 then heard.message.ip.saddr else heard.message.dhcp.siaddr

def scan (identity : Identity) : DhcpScan := heard.message.scan heard.m identity

theorem scan_eq (identity : Identity) : heard.scan identity =
    heard.items.foldl (fun scan p => scan.store heard.m p) { msgType := 0x00#8, identity } :=
  scanOptions_eq _ _ _ _ _

/-- A quantity of the scan that items overwrite ends with the last item that does. -/
theorem foldl_store {β : Type} (read : DhcpScan → β) (write : Memory → Nat → Option β)
    (one : ∀ scan m p, read (DhcpScan.store m p scan) = (write m p).getD (read scan)) (m : Memory) (items : List Nat)
    (scan : DhcpScan) :
    read (items.foldl (fun scan p => scan.store m p) scan) = (lastWrite (write m) items).getD (read scan) := by
  rw [← foldl_lastWrite]
  induction items generalizing scan with
  | nil => rfl
  | cons p items ih => rw [List.foldl_cons, List.foldl_cons, ih, one]

theorem scan_msgType (identity : Identity) : (heard.scan identity).msgType = heard.type := by
  rw [scan_eq]
  exact foldl_store DhcpScan.msgType typeAt (fun scan m p => scan.store_msgType m p) _ _ _

/-- The scan leaves a variable with the value of the message, or else as it was. -/
theorem scan_get (var : ConfigVar) (identity : Identity) :
    var.get (heard.scan identity).identity = (heard.value var).getD (var.get identity) := by
  rw [scan_eq]
  exact foldl_store (fun scan => var.get scan.identity) var.named (fun scan m p => scan.store_get m p var) _ _ _

theorem scan_others (identity : Identity) : (heard.scan identity).identity.myMac = identity.myMac ∧
    (heard.scan identity).identity.myIp = identity.myIp ∧
    (heard.scan identity).identity.dhcpServerIp = identity.dhcpServerIp := by
  rw [scan_eq]
  generalize heard.items = items
  induction items using List.reverseRecOn with
  | nil => exact ⟨rfl, rfl, rfl⟩
  | append_singleton items p ih =>
      rw [List.foldl_append, List.foldl_cons, List.foldl_nil]
      have others := DhcpScan.store_others
        (items.foldl (fun scan p => scan.store heard.m p) { msgType := 0x00#8, identity }) heard.m p
      exact ⟨others.1.trans ih.1, others.2.1.trans ih.2.1, others.2.2.trans ih.2.2⟩

end Heard
end UefiNetstack
