import UefiNetstack.Constants

namespace UefiNetstack
open Constants

structure ArpCache.Entry where
  ip : UINT32 := 0
  mac : Mac := ByteArr.zero 6
  valid : Bool := false
deriving DecidableEq

theorem arpCacheSize_pos : 0 < arpCacheSize := by decide

/-- The slot index is below the table size in every cache. -/
structure ArpCache where
  table : Vector ArpCache.Entry arpCacheSize := Vector.replicate arpCacheSize {}
  nextSlot : Fin arpCacheSize := ⟨0, arpCacheSize_pos⟩
deriving DecidableEq

namespace ArpCache

/-- The scans of the source stop at the first valid slot for the address. -/
def find (cache : ArpCache) (ip : UINT32) : Option (Fin arpCacheSize) :=
  (List.finRange arpCacheSize).find? fun slot => (cache.table.get slot).valid && (cache.table.get slot).ip == ip

/-- The lookup returns the flag and the contents of `out_mac`. -/
def lookup (cache : ArpCache) (ip : UINT32) (outMac : Mac) : Bool × Mac :=
  match cache.find ip with
  | some slot => (true, (cache.table.get slot).mac)
  | none => (false, outMac)

def update (cache : ArpCache) (ip : UINT32) (mac : Mac) : ArpCache :=
  match cache.find ip with
  | some slot => { cache with table := cache.table.set slot { cache.table.get slot with mac } }
  | none =>
    { table := cache.table.set cache.nextSlot { ip, mac, valid := true }
      nextSlot := ⟨(cache.nextSlot.val + 1) % arpCacheSize, Nat.mod_lt _ arpCacheSize_pos⟩ }

def flush (cache : ArpCache) : ArpCache where
  table := cache.table.map fun entry => { entry with valid := false }
  nextSlot := ⟨0, arpCacheSize_pos⟩

end ArpCache
end UefiNetstack
