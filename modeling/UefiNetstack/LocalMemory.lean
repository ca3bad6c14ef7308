import UefiNetstack.Lib.Memory

namespace UefiNetstack

namespace LocalMemory

variable {m : Memory} {dest src size start len index : Nat}

def localZeroMem : Nat → Nat → Memory → Memory
  | _, 0, m => m
  | buf, size + 1, m => localZeroMem (buf + 1) size (Function.update m buf 0x00)

def localMemCpy : Nat → Nat → Nat → Memory → Memory
  | _, _, 0, m => m
  | dest, src, size + 1, m => localMemCpy (dest + 1) (src + 1) size (Function.update m dest (m src))

/-- The first difference decides. -/
def localMemCmp (m : Memory) : Nat → Nat → Nat → Int
  | _, _, 0 => 0
  | p1, p2, len + 1 =>
    if m p1 ≠ m p2 then ((m p1).toNat : Int) - (m p2).toNat else localMemCmp m (p1 + 1) (p2 + 1) len

/-- The loop writes a block of zeros. -/
theorem localZeroMem_eq (buf size : Nat) (m : Memory) :
    localZeroMem buf size m = m.write buf (List.replicate size 0x00) := by
  induction size generalizing buf m with
  | zero =>
      funext index
      exact (m.write_outside (by rw [List.length_replicate]; omega)).symm
  | succ size ih =>
      rw [localZeroMem, ih]
      funext index
      by_cases here : index = buf
      · rw [here, Memory.write_outside _ (Or.inl (by omega)), Function.update_self, List.replicate_succ,
          Memory.bytesAt_head (m.write_bytesAt buf _)]
      · by_cases inside : buf < index ∧ index < buf + 1 + size
        · have counted : index - (buf + 1) < size := by omega
          have counted' : index - buf < size + 1 := by omega
          rw [Memory.write, if_pos (by omega), Memory.write, if_pos (by omega), List.getElem?_replicate,
            List.getElem?_replicate, if_pos counted, if_pos counted']
          rfl
        · rw [Memory.write_outside _ (by rw [List.length_replicate]; omega),
            Memory.write_outside _ (by rw [List.length_replicate]; omega), Function.update_of_ne here]

/-- The source pointer of the rest of the loop, where the first byte has been copied already. -/
theorem update_cycle (m : Memory) (dest src k : Nat) :
    Function.update m dest (m src) (src + 1 + k % (dest - src)) = m (src + (k + 1) % (dest - src)) := by
  by_cases behind : src < dest
  · have small := Nat.mod_lt k (show 0 < dest - src by omega)
    by_cases wraps : k % (dest - src) + 1 = dest - src
    · -- The pointer has reached the destination, which holds the first byte of the source.
      have restarts : (k + 1) % (dest - src) = 0 := by rw [← Nat.mod_add_mod, wraps, Nat.mod_self]
      have met : src + 1 + k % (dest - src) = dest := by omega
      rw [restarts, met, Function.update_self]
      rfl
    · have next : (k + 1) % (dest - src) = k % (dest - src) + 1 := by
        rw [← Nat.mod_add_mod, Nat.mod_eq_of_lt (by omega)]
      rw [next, Function.update_of_ne (by omega)]
      congr 1
      omega
  · have same : dest - src = 0 := by omega
    rw [same, Nat.mod_zero, Nat.mod_zero, Function.update_of_ne (by omega)]
    congr 1
    omega

/-- Where the destination starts inside the source, the bytes in front of it repeat. The difference of the
pointers is zero where the destination starts in front of the source, and nothing repeats there. -/
theorem localMemCpy_apply (dest src size : Nat) (m : Memory) (index : Nat) :
    localMemCpy dest src size m index =
      if dest ≤ index ∧ index < dest + size then m (src + (index - dest) % (dest - src)) else m index := by
  induction size generalizing dest src m with
  | zero => exact (if_neg (by omega)).symm
  | succ size ih =>
      have step : dest + 1 - (src + 1) = dest - src := by omega
      rw [localMemCpy, ih, step]
      by_cases here : index = dest
      · rw [if_neg (by omega), if_pos (by omega), here, Function.update_self, Nat.sub_self, Nat.zero_mod]
        rfl
      by_cases inside : dest < index ∧ index < dest + 1 + size
      · rw [if_pos (by omega), if_pos (by omega)]
        obtain ⟨k, rfl⟩ := Nat.exists_eq_add_of_lt inside.1
        have before : dest + k + 1 - (dest + 1) = k := by omega
        have after : dest + k + 1 - dest = k + 1 := by omega
        rw [before, after]
        exact update_cycle m dest src k
      · rw [if_neg (by omega), if_neg (by omega), Function.update_of_ne here]

/-- The loop is a block copy exactly when the destination does not start inside the source. -/
theorem localMemCpy_block (dest src size : Nat) :
    (∀ m, localMemCpy dest src size m = m.write dest (m.slice src size)) ↔ ¬(src < dest ∧ dest < src + size) := by
  constructor
  · rintro block ⟨behind, inside⟩
    let m : Memory := fun index => if index = dest then 1 else 0
    have loop := congrFun (block m) (dest + (dest - src))
    rw [localMemCpy_apply, if_pos (by omega), Nat.add_sub_cancel_left, Nat.mod_self, Memory.write,
      if_pos (by omega), Memory.slice_getElem?, if_pos (by omega)] at loop
    have first : m src = 0 := if_neg (by omega)
    have again : m (src + (dest + (dest - src) - dest)) = 1 := if_pos (by omega)
    rw [Nat.add_zero, first, Option.getD_some, again] at loop
    exact absurd loop (by decide)
  · intro apart m
    funext index
    rw [localMemCpy_apply]
    by_cases inside : dest ≤ index ∧ index < dest + size
    · rw [if_pos inside, Memory.write, if_pos inside.1, Memory.slice_getElem?, if_pos (by omega), Option.getD_some]
      congr 2
      by_cases behind : src < dest
      · exact Nat.mod_eq_of_lt (by omega)
      · rw [show dest - src = 0 by omega, Nat.mod_zero]
    · rw [if_neg inside, Memory.write_outside _ (by rw [Memory.slice_length]; omega)]

/-- The loop is a block copy exactly when the destination does not start inside the source. In either case every byte
it leaves is a byte of the source from before, or the old one. -/
theorem copy_loop (dest src size : Nat) :
    ((∀ m, localMemCpy dest src size m = m.write dest (m.slice src size)) ↔
        ¬(src < dest ∧ dest < src + size)) ∧
      ∀ m index, localMemCpy dest src size m index =
        if dest ≤ index ∧ index < dest + size then m (src + (index - dest) % (dest - src)) else m index :=
  ⟨localMemCpy_block dest src size, localMemCpy_apply dest src size⟩

theorem slice_succ (m : Memory) (start len : Nat) : m.slice start (len + 1) = m start :: m.slice (start + 1) len := by
  rw [Nat.add_comm len 1, Memory.slice_add]
  rfl

/-- The sign is the lexicographic order of the two blocks. -/
theorem localMemCmp_neg (m : Memory) (p1 p2 len : Nat) :
    localMemCmp m p1 p2 len < 0 ↔ m.slice p1 len < m.slice p2 len := by
  induction len generalizing p1 p2 with
  | zero => simp [localMemCmp]
  | succ len ih =>
      rw [localMemCmp, slice_succ, slice_succ, List.cons_lt_cons_iff, BitVec.lt_def]
      by_cases same : m p1 = m p2
      · rw [if_neg (not_not_intro same), ih, same]
        simp
      · have different : (m p1).toNat ≠ (m p2).toNat := fun equal => same (BitVec.eq_of_toNat_eq equal)
        rw [if_pos same]
        constructor
        · intro negative
          exact Or.inl (by omega)
        · rintro (lower | ⟨equal, -⟩)
          · omega
          · exact absurd equal same

/-- Zero means that the blocks are equal. -/
theorem localMemCmp_zero (m : Memory) (p1 p2 len : Nat) :
    localMemCmp m p1 p2 len = 0 ↔ m.slice p1 len = m.slice p2 len := by
  induction len generalizing p1 p2 with
  | zero => simp [localMemCmp]
  | succ len ih =>
      rw [localMemCmp, slice_succ, slice_succ, List.cons.injEq]
      by_cases same : m p1 = m p2
      · rw [if_neg (not_not_intro same), ih]
        simp [same]
      · have different : (m p1).toNat ≠ (m p2).toNat := fun equal => same (BitVec.eq_of_toNat_eq equal)
        rw [if_pos same]
        constructor
        · intro zero
          omega
        · rintro ⟨equal, -⟩
          exact absurd equal same

theorem localMemCmp_swap (m : Memory) (p1 p2 len : Nat) : localMemCmp m p2 p1 len = -localMemCmp m p1 p2 len := by
  induction len generalizing p1 p2 with
  | zero => rfl
  | succ len ih =>
      rw [localMemCmp, localMemCmp]
      by_cases same : m p1 = m p2
      · rw [if_neg (not_not_intro same), if_neg (not_not_intro same.symm), ih]
      · rw [if_pos same, if_pos (Ne.symm same)]
        omega

end LocalMemory
end UefiNetstack
