import Mathlib.Order.Interval.Set.LinearOrder
import Mathlib.Order.Lattice.Nat

namespace InOrder

open Set

/-- The number of positions in order is the first position that is missing. -/
noncomputable def inOrder (received : Set ℕ) : ℕ := sInf receivedᶜ

/-- A receiver of the positions below a bound has all of them in order. -/
@[simp] theorem inOrder_Iio (bound : ℕ) : inOrder (Iio bound) = bound := by
  rw [inOrder, compl_Iio]
  exact csInf_Ici

@[simp] theorem inOrder_empty : inOrder ∅ = 0 := by
  have below : Iio 0 = (∅ : Set ℕ) := by ext position; simp
  rw [← below, inOrder_Iio]

/-- A block that starts in order and does not end before extends the positions in order to its end. -/
theorem Iio_union_block {bound start stop : ℕ} (starts : start ≤ bound) (ends : bound ≤ stop) :
    Iio bound ∪ Ico start stop = Iio stop := by
  rw [Iio_union_Ico (le_trans (min_le_left _ _) starts), max_eq_right ends]

variable {α : Type*} {stream taken block : List α}

/-- A part of what follows a prefix extends the prefix. -/
theorem prefix_append (first : taken <+: stream) (next : block <+: stream.drop taken.length) :
    taken ++ block <+: stream := by
  obtain ⟨rest, rfl⟩ := first
  rw [List.drop_left] at next
  exact (List.prefix_append_right_inj taken).mpr next

end InOrder
