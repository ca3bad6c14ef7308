import UefiNetstack.ArpCache
import UefiNetstack.Lib.Fifo
import Mathlib.Data.List.Rotate

namespace UefiNetstack
open Constants LastWrite

instance : NeZero arpCacheSize := ⟨arpCacheSize_pos.ne'⟩

namespace ArpCache

/-- The cache as an abstract map. -/
abbrev Fifo := FifoMap UINT32 Mac arpCacheSize

abbrev Op := FifoMap.Op UINT32 Mac

/-- A valid entry maps its address. -/
def Entry.pair? (entry : Entry) : Option (UINT32 × Mac) := if entry.valid then some (entry.ip, entry.mac) else none

theorem Entry.pair?_valid {entry : Entry} (valid : entry.valid) : entry.pair? = some (entry.ip, entry.mac) :=
  if_pos valid

theorem Entry.pair?_invalid {entry : Entry} (invalid : entry.valid = false) : entry.pair? = none :=
  if_neg (Bool.eq_false_iff.mp invalid)

/-- The slots from the one that was filled longest ago. -/
def slots (cache : ArpCache) : List (Fin arpCacheSize) := (List.finRange arpCacheSize).rotate cache.nextSlot.val

/-- The pairs that the table holds, in insertion order. -/
def contents (cache : ArpCache) : List (UINT32 × Mac) := cache.slots.filterMap fun slot => (cache.table.get slot).pair?

/-- Two valid slots hold different addresses, and the table is full or filled up to the next slot. -/
structure Ordered (cache : ArpCache) : Prop where
  distinct : ∀ first second, (cache.table.get first).valid → (cache.table.get second).valid →
    (cache.table.get first).ip = (cache.table.get second).ip → first = second
  filled : (∀ slot, (cache.table.get slot).valid) ∨
    ∀ slot, (cache.table.get slot).valid ↔ slot.val < cache.nextSlot.val

/-- The cache represents the abstract map. -/
structure Represents (cache : ArpCache) (fifo : Fifo) : Prop extends Ordered cache where
  entries : fifo.entries = cache.contents

theorem get_set (table : Vector Entry arpCacheSize) (slot other : Fin arpCacheSize) (entry : Entry) :
    (table.set slot entry slot.isLt).get other = if other = slot then entry else table.get other := by
  change (table.set slot entry slot.isLt)[other.val] = _
  rw [Vector.getElem_set]
  by_cases same : other = slot
  · rw [if_pos same, if_pos (congrArg Fin.val same.symm)]
  · rw [if_neg same, if_neg fun equal => same (Fin.ext equal.symm)]
    rfl

/-- The slots after the next one, in insertion order. -/
def laterSlots (cache : ArpCache) : List (Fin arpCacheSize) :=
  (List.finRange arpCacheSize).drop (cache.nextSlot.val + 1) ++ (List.finRange arpCacheSize).take cache.nextSlot.val

/-- The insertion order starts at the next slot. -/
theorem slots_eq (cache : ArpCache) : cache.slots = cache.nextSlot :: cache.laterSlots := by
  have inside : cache.nextSlot.val < (List.finRange arpCacheSize).length := by
    rw [List.length_finRange]
    exact cache.nextSlot.isLt
  rw [slots, List.rotate_eq_drop_append_take inside.le, List.drop_eq_getElem_cons inside, laterSlots]
  simp

/-- The slot after the last insertion becomes the youngest one. -/
theorem slots_advance (cache : ArpCache) (table : Vector Entry arpCacheSize)
    (bound : (cache.nextSlot.val + 1) % arpCacheSize < arpCacheSize) :
    slots ⟨table, ⟨(cache.nextSlot.val + 1) % arpCacheSize, bound⟩⟩ = cache.laterSlots ++ [cache.nextSlot] := by
  have modulo := List.rotate_mod (List.finRange arpCacheSize) (cache.nextSlot.val + 1)
  rw [List.length_finRange] at modulo
  calc (List.finRange arpCacheSize).rotate ((cache.nextSlot.val + 1) % arpCacheSize)
      = (List.finRange arpCacheSize).rotate (cache.nextSlot.val + 1) := modulo
    _ = cache.slots.rotate 1 := (List.rotate_rotate _ _ _).symm
    _ = cache.laterSlots ++ [cache.nextSlot] := by rw [slots_eq, List.rotate_cons_succ, List.rotate_zero]

theorem mem_slots (cache : ArpCache) (slot : Fin arpCacheSize) : slot ∈ cache.slots :=
  List.mem_rotate.mpr (List.mem_finRange slot)

theorem not_mem_laterSlots (cache : ArpCache) : cache.nextSlot ∉ cache.laterSlots := by
  have nodup : cache.slots.Nodup := List.nodup_rotate.mpr (List.nodup_finRange _)
  rw [slots_eq] at nodup
  exact (List.nodup_cons.mp nodup).1

theorem laterSlots_length (cache : ArpCache) : cache.laterSlots.length + 1 = arpCacheSize := by
  have length : cache.slots.length = arpCacheSize := by rw [slots, List.length_rotate, List.length_finRange]
  rw [slots_eq] at length
  exact length

theorem find_eq_some {cache : ArpCache} {ip : UINT32} {slot : Fin arpCacheSize} (found : cache.find ip = some slot) :
    (cache.table.get slot).valid ∧ (cache.table.get slot).ip = ip := by
  have matched := List.find?_some found
  simpa using matched

theorem find_eq_none {cache : ArpCache} {ip : UINT32} :
    cache.find ip = none ↔ ∀ slot, (cache.table.get slot).valid → (cache.table.get slot).ip ≠ ip := by
  rw [find, List.find?_eq_none]
  constructor
  · intro missed slot valid same
    exact missed slot (List.mem_finRange slot) (by simp [valid, same])
  · intro missed slot _
    simpa using missed slot

theorem mem_contents {cache : ArpCache} {ip : UINT32} {mac : Mac} :
    (ip, mac) ∈ cache.contents ↔ ∃ slot, (cache.table.get slot).valid ∧ (cache.table.get slot).ip = ip ∧
      (cache.table.get slot).mac = mac := by
  rw [contents, List.mem_filterMap]
  constructor
  · rintro ⟨slot, _, pair⟩
    unfold Entry.pair? at pair
    split at pair
    · rename_i valid
      obtain ⟨rfl, rfl⟩ := Prod.mk.inj (Option.some.inj pair)
      exact ⟨slot, valid, rfl, rfl⟩
    · cases pair
  · rintro ⟨slot, valid, rfl, rfl⟩
    exact ⟨slot, mem_slots cache slot, if_pos valid⟩

theorem mem_keys {cache : ArpCache} {ip : UINT32} :
    ip ∈ cache.contents.map Prod.fst ↔ ∃ slot, cache.find ip = some slot := by
  rw [← Option.isSome_iff_exists, ← Option.ne_none_iff_isSome, ne_eq, find_eq_none]
  push Not
  constructor
  · intro member
    obtain ⟨⟨_, mac⟩, inside, rfl⟩ := List.mem_map.mp member
    obtain ⟨slot, valid, same, _⟩ := mem_contents.mp inside
    exact ⟨slot, valid, same⟩
  · rintro ⟨slot, valid, same⟩
    exact List.mem_map.mpr ⟨(ip, (cache.table.get slot).mac), mem_contents.mpr ⟨slot, valid, same, rfl⟩, rfl⟩

/-- A table without a valid entry and with the first slot next represents the empty map. -/
theorem represents_invalid {cache : ArpCache} (invalid : ∀ slot, (cache.table.get slot).valid = false)
    (start : cache.nextSlot.val = 0) : Represents cache FifoMap.empty where
  distinct first second valid := by simp [invalid] at valid
  filled := Or.inr fun slot => by simp [invalid, start]
  entries := (List.filterMap_eq_nil_iff.mpr fun slot _ => Entry.pair?_invalid (invalid slot)).symm

theorem represents_empty : Represents {} FifoMap.empty :=
  represents_invalid (fun slot => by simp [Vector.get]) rfl

theorem represents_flush (cache : ArpCache) : Represents cache.flush FifoMap.empty :=
  represents_invalid (fun slot => by simp [Vector.get, flush]) rfl

/-- A hit replaces the MAC at the slot that holds the address. -/
theorem update_hit {cache : ArpCache} {ip : UINT32} {mac : Mac} {slot : Fin arpCacheSize}
    (found : cache.find ip = some slot) :
    cache.update ip mac =
      { cache with table := cache.table.set slot { cache.table.get slot with mac } slot.isLt } := by
  rw [update, found]

theorem nextSlot_isLt (cache : ArpCache) : cache.nextSlot.val < arpCacheSize := cache.nextSlot.isLt

theorem nextSlot_wraps (cache : ArpCache) : (cache.nextSlot.val + 1) % arpCacheSize < arpCacheSize :=
  Nat.mod_lt _ arpCacheSize_pos

/-- A miss fills the next slot. -/
theorem update_miss {cache : ArpCache} {ip : UINT32} {mac : Mac} (missed : cache.find ip = none) :
    cache.update ip mac = ⟨cache.table.set cache.nextSlot ⟨ip, mac, true⟩ cache.nextSlot_isLt,
      ⟨(cache.nextSlot.val + 1) % arpCacheSize, cache.nextSlot_wraps⟩⟩ := by
  rw [update, missed]

/-- A hit keeps the order of the slots and replaces one value. -/
theorem contents_hit {cache : ArpCache} (ordered : cache.Ordered) {ip : UINT32} {mac : Mac}
    {slot : Fin arpCacheSize} (found : cache.find ip = some slot) :
    (cache.update ip mac).contents = FifoMap.replace cache.contents ip mac := by
  obtain ⟨valid, same⟩ := find_eq_some found
  rw [update_hit found, FifoMap.replace, contents, contents, List.map_filterMap]
  apply List.filterMap_congr
  intro other _
  rw [get_set]
  by_cases here : other = slot
  · subst here
    simp [Entry.pair?, valid, same]
  · rw [if_neg here]
    by_cases otherValid : (cache.table.get other).valid
    · have different : (cache.table.get other).ip ≠ ip := fun equal =>
        here (ordered.distinct other slot otherValid valid (equal.trans same.symm))
      simp [Entry.pair?, otherValid, different]
    · simp [Entry.pair?, otherValid]

/-- The table is full exactly when the next slot is taken. -/
theorem contents_full {cache : ArpCache} (ordered : cache.Ordered) :
    cache.contents.length < arpCacheSize ↔ (cache.table.get cache.nextSlot).valid = false := by
  have length := laterSlots_length cache
  rw [contents, slots_eq]
  rcases ordered.filled with full | partly
  · have kept : ∀ slots : List (Fin arpCacheSize),
        (slots.filterMap fun slot => (cache.table.get slot).pair?).length = slots.length := by
      intro slots
      rw [List.filterMap_length_eq_length.mpr]
      intro slot _
      simp [Entry.pair?, full slot]
    rw [kept, List.length_cons, full cache.nextSlot]
    simp [length]
  · have free : (cache.table.get cache.nextSlot).valid = false := by
      rw [Bool.eq_false_iff, ne_eq, partly]
      exact Nat.lt_irrefl _
    have bound := List.length_filterMap_le (fun slot => (cache.table.get slot).pair?) cache.laterSlots
    simp only [List.filterMap_cons, Entry.pair?_invalid free, free, iff_true]
    omega

/-- The slots after the next one hold what is left when there is room for one more entry. -/
theorem contents_later {cache : ArpCache} (ordered : cache.Ordered) :
    (cache.laterSlots.filterMap fun slot => (cache.table.get slot).pair?) =
      FifoMap.makeRoom arpCacheSize cache.contents := by
  have full := contents_full ordered
  rw [FifoMap.makeRoom]
  cases valid : (cache.table.get cache.nextSlot).valid with
  | true =>
      rw [if_neg (by simp [full, valid]), contents, slots_eq]
      simp only [List.filterMap_cons, Entry.pair?_valid valid, List.tail_cons]
  | false =>
      rw [if_pos (by simp [full, valid]), contents, slots_eq]
      simp only [List.filterMap_cons, Entry.pair?_invalid valid]

/-- A miss appends the pair behind the entries that stay. -/
theorem contents_miss {cache : ArpCache} (ordered : cache.Ordered) {ip : UINT32} {mac : Mac}
    (missed : cache.find ip = none) :
    (cache.update ip mac).contents = FifoMap.makeRoom arpCacheSize cache.contents ++ [(ip, mac)] := by
  rw [update_miss missed, contents, slots_advance, List.filterMap_append, ← contents_later ordered]
  congr 1
  · apply List.filterMap_congr
    intro slot later
    have other : slot ≠ cache.nextSlot := by
      rintro rfl
      exact not_mem_laterSlots cache later
    rw [get_set, if_neg other]
  · simp [get_set, Entry.pair?]

theorem update_ordered {cache : ArpCache} (ordered : cache.Ordered) (ip : UINT32) (mac : Mac) :
    (cache.update ip mac).Ordered := by
  cases found : cache.find ip with
  | some slot =>
      rw [update_hit found]
      have kept (other : Fin arpCacheSize) :
          ((cache.table.set slot { cache.table.get slot with mac }).get other).valid = (cache.table.get other).valid ∧
            ((cache.table.set slot { cache.table.get slot with mac }).get other).ip = (cache.table.get other).ip := by
        rw [get_set]
        by_cases here : other = slot
        · subst here
          simp
        · simp [here]
      constructor
      · intro first second firstValid secondValid same
        rw [(kept first).1] at firstValid
        rw [(kept second).1] at secondValid
        rw [(kept first).2, (kept second).2] at same
        exact ordered.distinct first second firstValid secondValid same
      · simp only [kept]
        exact ordered.filled
  | none =>
      have absent := find_eq_none.mp found
      rw [update_miss found]
      constructor
      · intro first second firstValid secondValid same
        simp only [get_set] at firstValid secondValid same
        by_cases firstNew : first = cache.nextSlot <;> by_cases secondNew : second = cache.nextSlot
        · rw [firstNew, secondNew]
        · simp only [firstNew, secondNew, if_true, if_false] at secondValid same
          exact absurd same.symm (absent second secondValid)
        · simp only [firstNew, secondNew, if_true, if_false] at firstValid same
          exact absurd same (absent first firstValid)
        · simp only [firstNew, secondNew, if_false] at firstValid secondValid same
          exact ordered.distinct first second firstValid secondValid same
      · simp only [get_set]
        rcases ordered.filled with full | partly
        · exact Or.inl fun slot => by split <;> simp [full]
        · have bound := cache.nextSlot.isLt
          by_cases last : cache.nextSlot.val + 1 = arpCacheSize
          · refine Or.inl fun slot => ?_
            split
            · rfl
            · rename_i other
              have below := slot.isLt
              have apart : slot.val ≠ cache.nextSlot.val := fun same => other (Fin.ext same)
              exact (partly slot).mpr (by omega)
          · refine Or.inr fun slot => ?_
            rw [Nat.mod_eq_of_lt (by omega)]
            split
            · rename_i here
              simp [here]
            · rename_i other
              have apart : slot.val ≠ cache.nextSlot.val := fun same => other (Fin.ext same)
              rw [partly]
              omega

/-- An update is a put of the abstract map. -/
theorem Represents.update {cache : ArpCache} {fifo : Fifo} (represents : cache.Represents fifo) (ip : UINT32) (mac : Mac) :
    (cache.update ip mac).Represents (fifo.put ip mac) where
  toOrdered := update_ordered represents.toOrdered ip mac
  entries := by
    have present : fifo.Holds ip ↔ ∃ slot, cache.find ip = some slot := by
      rw [FifoMap.Holds, represents.entries, mem_keys]
    cases found : cache.find ip with
    | some slot =>
        rw [FifoMap.put_entries_of_holds mac (present.mpr ⟨slot, found⟩), contents_hit represents.toOrdered found,
          represents.entries]
    | none =>
        have absent : ¬ fifo.Holds ip := by simp [present, found]
        rw [FifoMap.put_entries_of_not_holds mac absent, contents_miss represents.toOrdered found, represents.entries]

theorem lookup_of_find {cache : ArpCache} {ip : UINT32} {slot : Fin arpCacheSize} (outMac : Mac)
    (found : cache.find ip = some slot) : cache.lookup ip outMac = (true, (cache.table.get slot).mac) := by
  rw [lookup, found]

/-- A scan for an address that one slot alone holds stops there. -/
theorem find_only {cache : ArpCache} {ip : UINT32} {slot : Fin arpCacheSize}
    (only : ∀ other, (cache.table.get other).valid ∧ (cache.table.get other).ip = ip ↔ other = slot) :
    cache.find ip = some slot := by
  cases found : cache.find ip with
  | some other => rw [(only other).mp (find_eq_some found)]
  | none =>
      obtain ⟨valid, same⟩ := (only slot).mpr rfl
      exact absurd same (find_eq_none.mp found slot valid)

/-- Replacing a MAC keeps where the scan stops. -/
theorem find_set_mac (cache : ArpCache) (ip : UINT32) (slot : Fin arpCacheSize) (mac : Mac) :
    find { cache with table := cache.table.set slot { cache.table.get slot with mac } slot.isLt } ip =
      cache.find ip := by
  unfold find
  congr 1
  funext other
  rw [get_set]
  by_cases here : other = slot
  · subst here
    simp
  · rw [if_neg here]

/-- An address that was updated is found with its new MAC, in any table. -/
theorem lookup_update (cache : ArpCache) (ip : UINT32) (mac outMac : Mac) :
    (cache.update ip mac).lookup ip outMac = (true, mac) := by
  cases found : cache.find ip with
  | some slot =>
      rw [update_hit found, lookup_of_find outMac ((find_set_mac cache ip slot mac).trans found), get_set, if_pos rfl]
  | none =>
      have absent := find_eq_none.mp found
      rw [update_miss found, @lookup_of_find _ ip cache.nextSlot outMac, get_set, if_pos rfl]
      apply find_only
      intro other
      rw [get_set]
      by_cases here : other = cache.nextSlot
      · simp [here]
      · simp only [here, iff_false]
        rintro ⟨valid, same⟩
        exact absent other valid same

def apply (cache : ArpCache) : Op → ArpCache
  | .put ip mac => cache.update ip mac
  | .clear => cache.flush

def run (cache : ArpCache) (ops : List Op) : ArpCache := ops.foldl apply cache

theorem Represents.apply {cache : ArpCache} {fifo : Fifo} (represents : cache.Represents fifo) (op : Op) :
    (cache.apply op).Represents (fifo.apply op) := by
  cases op with
  | put ip mac => exact represents.update ip mac
  | clear => exact represents_flush cache

/-- Each operation keeps the representation, so every run does. -/
theorem Represents.run {cache : ArpCache} {fifo : Fifo} (represents : cache.Represents fifo) (ops : List Op) :
    (cache.run ops).Represents (fifo.run ops) := by
  induction ops generalizing cache fifo with
  | nil => exact represents
  | cons op ops ih => exact ih (represents.apply op)

/-- A lookup hits exactly on the addresses that the abstract map holds, and copies out their value. -/
theorem Represents.lookup {cache : ArpCache} {fifo : Fifo} (represents : cache.Represents fifo) (ip : UINT32)
    (outMac : Mac) : (∃ mac, (ip, mac) ∈ fifo.entries ∧ cache.lookup ip outMac = (true, mac)) ∨
      ¬ fifo.Holds ip ∧ cache.lookup ip outMac = (false, outMac) := by
  rw [FifoMap.Holds, represents.entries, mem_keys, ArpCache.lookup]
  cases found : cache.find ip with
  | some slot =>
      obtain ⟨valid, same⟩ := find_eq_some found
      exact Or.inl ⟨_, mem_contents.mpr ⟨slot, valid, same, rfl⟩, rfl⟩
  | none => exact Or.inr ⟨by simp, rfl⟩

/-- After any updates and flushes the cache answers as the FIFO map does, each hit is the latest update of
the address, and the table is ordered. -/
theorem run_refines_fifo (ops : List Op) (ip : UINT32) (outMac : Mac) :
    (((run {} ops).lookup ip outMac).1 = true ↔ (FifoMap.empty.run ops : Fifo).Holds ip) ∧
      ((∃ mac, (ip, mac) ∈ (FifoMap.empty.run ops : Fifo).entries ∧ lastWrite (FifoMap.Op.putAt ip) ops = some mac ∧
          (run {} ops).lookup ip outMac = (true, mac)) ∨
        ¬ (FifoMap.empty.run ops : Fifo).Holds ip ∧ (run {} ops).lookup ip outMac = (false, outMac)) ∧
      (FifoMap.empty.run ops : Fifo).entries = (run {} ops).contents ∧
      (run {} ops).Ordered ∧ (run {} ops).nextSlot.val < arpCacheSize := by
  have represents := represents_empty.run ops
  refine ⟨?_, ?_, represents.entries, represents.toOrdered, (run {} ops).nextSlot.isLt⟩
  · rcases represents.lookup ip outMac with ⟨mac, member, hit⟩ | ⟨absent, miss⟩
    · rw [hit]
      exact iff_of_true rfl (List.mem_map_of_mem member)
    · rw [miss]
      exact iff_of_false Bool.false_ne_true absent
  · rcases represents.lookup ip outMac with ⟨mac, member, hit⟩ | ⟨absent, miss⟩
    · exact Or.inl ⟨mac, member, FifoMap.run_lastWrite member, hit⟩
    · exact Or.inr ⟨absent, miss⟩

end ArpCache
end UefiNetstack
