import UefiNetstack.LocalMemory
import UefiNetstack.Protocols

namespace UefiNetstack
open Words LocalMemory

namespace Utils

def makeIpv4 (a b c d : UINT8) : UINT32 :=
  a.setWidth 32 ||| (b.setWidth 32 <<< 0x08) ||| (c.setWidth 32 <<< 0x10) ||| (d.setWidth 32 <<< 0x18)

@[simp] theorem le32_makeIpv4 (a b c d : UINT8) : le32 (makeIpv4 a b c d) = [a, b, c, d] := le32_load a b c d

def memCmp (m : Memory) : Nat → Nat → Nat → Bool
  | _, _, 0 => true
  | p1, p2, len + 1 => if m p1 ≠ m p2 then false else memCmp m (p1 + 1) (p2 + 1) len

theorem memCmp_iff (m : Memory) (p1 p2 len : Nat) : memCmp m p1 p2 len ↔ m.slice p1 len = m.slice p2 len := by
  induction len generalizing p1 p2 with
  | zero => simp [memCmp]
  | succ len ih =>
      rw [memCmp, slice_succ, slice_succ, List.cons.injEq]
      by_cases same : m p1 = m p2
      · rw [if_neg (not_not_intro same), ih]
        simp [same]
      · simp [same]

/-- The two comparisons of the sources agree, and the sign of `local_mem_cmp` is the lexicographic order. -/
theorem compare_blocks (m : Memory) (p1 p2 len : Nat) :
    (memCmp m p1 p2 len ↔ localMemCmp m p1 p2 len = 0) ∧
      (localMemCmp m p1 p2 len < 0 ↔ m.slice p1 len < m.slice p2 len) ∧
      (0 < localMemCmp m p1 p2 len ↔ m.slice p2 len < m.slice p1 len) := by
  refine ⟨(memCmp_iff m p1 p2 len).trans (localMemCmp_zero m p1 p2 len).symm, localMemCmp_neg m p1 p2 len, ?_⟩
  rw [← localMemCmp_neg m p2 p1 len, localMemCmp_swap m p1 p2 len]
  exact Int.neg_lt_zero_iff.symm

/-- The loop over the characters from a length on, where the given number of bytes is mapped. -/
def strLenLoop (s : MappedMemory) : Nat → Nat → Option Nat
  | 0, _ => none
  | mapped + 1, len => if s.byte len ≠ 0x00 then strLenLoop s mapped (len + 1) else some len

def asciiStrLen (s : MappedMemory) : Option Nat := strLenLoop s s.limit 0

/-- The characters of a string with its zero. -/
def stored (string : CString) : MappedMemory where
  byte := Memory.ofBytes (string.chars ++ [0x00])
  limit := string.chars.length + 1

theorem asciiStrLen_stored (string : CString) : asciiStrLen (stored string) = some string.chars.length := by
  obtain ⟨chars, noNul⟩ := string
  have rounds (done rest : Bytes) (whole : chars = done ++ rest) :
      strLenLoop (stored ⟨chars, noNul⟩) (rest.length + 1) done.length = some chars.length := by
    induction rest generalizing done with
    | nil =>
        have ended : (stored ⟨chars, noNul⟩).byte done.length = 0x00 := by
          simp [stored, Memory.ofBytes, whole]
        rw [strLenLoop, if_neg (not_not_intro ended), whole, List.append_nil]
    | cons char rest ih =>
        have here : (stored ⟨chars, noNul⟩).byte done.length = char := by
          simp [stored, Memory.ofBytes, whole]
        have nonzero : char ≠ 0x00 := fun zero => noNul (by rw [whole, zero]; simp)
        have onward := ih (done ++ [char]) (by rw [whole, List.append_assoc]; rfl)
        rw [List.length_cons, strLenLoop, here, if_pos nonzero, ← onward, List.length_append]
        rfl
  exact rounds [] chars rfl

end Utils
end UefiNetstack
