import UefiNetstack.Lib.Words

namespace OnesComplement
open Words

/-- The sum of the words of a message; a last odd byte counts as a word of its own. -/
def wordSum : List (BitVec 8) → Nat
  | low :: high :: rest => low.toNat + 256 * high.toNat + wordSum rest
  | [last] => last.toNat
  | [] => 0

/-- The end-around carries leave zero for zero and else a residue in 1..65535. -/
def folded (sum : Nat) : Nat := if sum = 0 then 0 else (sum - 1) % 65535 + 1

/-- A message verifies when its folded sum is all ones. -/
def Verifies (message : List (BitVec 8)) : Prop := folded (wordSum message) = 65535

@[simp] theorem wordSum_nil : wordSum [] = 0 := rfl

@[simp] theorem wordSum_cons_cons (low high : BitVec 8) (rest : List (BitVec 8)) :
    wordSum (low :: high :: rest) = low.toNat + 256 * high.toNat + wordSum rest := rfl

@[simp] theorem wordSum_singleton (last : BitVec 8) : wordSum [last] = last.toNat := rfl

/-- An even first part keeps the words of the second part aligned. -/
theorem wordSum_append : ∀ (first second : List (BitVec 8)), first.length % 2 = 0 →
    wordSum (first ++ second) = wordSum first + wordSum second
  | [], second, _ => by simp
  | [_], _, even => by simp at even
  | low :: high :: rest, second, even => by
      have tail := wordSum_append rest second (by simp only [List.length_cons] at even; omega)
      simp only [List.cons_append, wordSum_cons_cons, tail, Nat.add_assoc]

/-- Each pair of bytes adds at most one full word. -/
theorem wordSum_le : ∀ message : List (BitVec 8),
    wordSum message ≤ 65535 * ((message.length + 1) / 2)
  | [] => by simp
  | [last] => by
      have := last.isLt
      simp only [wordSum_singleton, List.length_singleton]
      omega
  | low :: high :: rest => by
      have := low.isLt
      have := high.isLt
      have := wordSum_le rest
      simp only [wordSum_cons_cons, List.length_cons]
      omega

@[simp] theorem wordSum_le16 (x : BitVec 16) : wordSum (le16 x) = x.toNat := by
  simp only [le16, wordSum_cons_cons, wordSum_nil, Nat.add_zero, le16_toNat]

/-- A stored word in front of a message adds its value. -/
@[simp] theorem wordSum_le16_append (x : BitVec 16) (rest : List (BitVec 8)) :
    wordSum (le16 x ++ rest) = x.toNat + wordSum rest := by
  rw [wordSum_append _ _ (by simp), wordSum_le16]

theorem folded_le (sum : Nat) : folded sum ≤ 65535 := by
  unfold folded
  split <;> omega

/-- The representative is determined by its range, its residue and its zero. -/
theorem folded_unique {sum value : Nat} (small : value ≤ 65535) (residue : value % 65535 = sum % 65535)
    (zero : value = 0 ↔ sum = 0) : folded sum = value := by
  unfold folded
  split <;> omega

@[simp] theorem folded_of_le {sum : Nat} (small : sum ≤ 65535) : folded sum = sum :=
  folded_unique small rfl Iff.rfl

/-- A sum folds to all ones when it is a positive multiple of 65535. -/
theorem folded_eq_ones_iff (sum : Nat) : folded sum = 65535 ↔ 0 < sum ∧ 65535 ∣ sum := by
  unfold folded
  split
  · simp [*]
  · omega

/-- One carry step preserves the representative. -/
theorem folded_carry (sum : Nat) : folded (sum % 65536 + sum / 65536) = folded sum := by
  apply folded_unique (folded_le sum)
  · unfold folded
    split <;> omega
  · unfold folded
    split <;> omega

/-- The complement of a folded sum completes the sum to all ones. -/
theorem folded_complement (sum : Nat) : folded (sum + (65535 - folded sum)) = 65535 := by
  rw [folded_eq_ones_iff]
  unfold folded
  split <;> omega

/-- All ones may replace a zero complement. -/
theorem folded_ones {sum : Nat} (ones : folded sum = 65535) : folded (sum + 65535) = 65535 := by
  rw [folded_eq_ones_iff] at ones ⊢
  omega

end OnesComplement
