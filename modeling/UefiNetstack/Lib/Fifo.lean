import UefiNetstack.Lib.LastWrite
import Mathlib.Data.List.Nodup
import Mathlib.Data.List.Induction
import Mathlib.Algebra.GroupWithZero.Nat
import Mathlib.Order.Basic

/-- The entries are in insertion order, their keys are distinct and they fit the capacity. -/
structure FifoMap (κ ν : Type) (capacity : Nat) where
  entries : List (κ × ν)
  distinct : (entries.map Prod.fst).Nodup
  bounded : entries.length ≤ capacity

namespace FifoMap
open LastWrite

variable {κ ν : Type} {capacity : Nat}

/-- The list with the value of a key replaced in place. -/
def replace [DecidableEq κ] (entries : List (κ × ν)) (key : κ) (value : ν) : List (κ × ν) :=
  entries.map fun entry => if entry.1 = key then (key, value) else entry

/-- The list with room for one more entry below the capacity. -/
def makeRoom (capacity : Nat) (entries : List (κ × ν)) : List (κ × ν) :=
  if entries.length < capacity then entries else entries.tail

theorem map_fst_replace [DecidableEq κ] (entries : List (κ × ν)) (key : κ) (value : ν) :
    (replace entries key value).map Prod.fst = entries.map Prod.fst := by
  rw [replace, List.map_map]
  apply List.map_congr_left
  intro entry member
  by_cases same : entry.1 = key
  · simp [same]
  · simp [same]

theorem replace_length [DecidableEq κ] (entries : List (κ × ν)) (key : κ) (value : ν) :
    (replace entries key value).length = entries.length := List.length_map _

theorem makeRoom_sublist (capacity : Nat) (entries : List (κ × ν)) :
    (makeRoom capacity entries).Sublist entries := by
  unfold makeRoom
  split
  · exact List.Sublist.refl _
  · exact List.tail_sublist _

theorem makeRoom_length {entries : List (κ × ν)} (positive : 0 < capacity) (bounded : entries.length ≤ capacity) :
    (makeRoom capacity entries).length < capacity := by
  unfold makeRoom
  split
  · assumption
  · rw [List.length_tail]
    omega

theorem distinct_append {entries : List (κ × ν)} {key : κ} (value : ν)
    (distinct : (entries.map Prod.fst).Nodup) (absent : key ∉ entries.map Prod.fst) :
    ((makeRoom capacity entries ++ [(key, value)]).map Prod.fst).Nodup := by
  have sublist := (makeRoom_sublist capacity entries).map Prod.fst
  rw [List.map_append, List.map_singleton]
  refine List.nodup_append.mpr ⟨distinct.sublist sublist, List.nodup_singleton _, ?_⟩
  intro first member second same equal
  rw [List.mem_singleton.mp same] at equal
  subst equal
  exact absent (sublist.subset member)

theorem bounded_append {entries : List (κ × ν)} (key : κ) (value : ν) (positive : 0 < capacity)
    (bounded : entries.length ≤ capacity) : (makeRoom capacity entries ++ [(key, value)]).length ≤ capacity := by
  rw [List.length_append, List.length_singleton]
  exact makeRoom_length positive bounded

theorem bounded_replace [DecidableEq κ] {entries : List (κ × ν)} (key : κ) (value : ν)
    (bounded : entries.length ≤ capacity) : (replace entries key value).length ≤ capacity :=
  (replace_length entries key value).trans_le bounded

theorem distinct_replace [DecidableEq κ] {entries : List (κ × ν)} (key : κ) (value : ν)
    (distinct : (entries.map Prod.fst).Nodup) : ((replace entries key value).map Prod.fst).Nodup :=
  (map_fst_replace entries key value).symm ▸ distinct

def empty : FifoMap κ ν capacity where
  entries := []
  distinct := List.nodup_nil
  bounded := Nat.zero_le _

/-- The map has an entry for the key. -/
def Holds (m : FifoMap κ ν capacity) (key : κ) : Prop := key ∈ m.entries.map Prod.fst

instance [DecidableEq κ] (m : FifoMap κ ν capacity) (key : κ) : Decidable (m.Holds key) :=
  inferInstanceAs (Decidable (key ∈ m.entries.map Prod.fst))

variable [DecidableEq κ] [NeZero capacity]

def put (m : FifoMap κ ν capacity) (key : κ) (value : ν) : FifoMap κ ν capacity :=
  if present : m.Holds key then
    { entries := replace m.entries key value
      distinct := distinct_replace key value m.distinct
      bounded := bounded_replace key value m.bounded }
  else
    { entries := makeRoom capacity m.entries ++ [(key, value)]
      distinct := distinct_append value m.distinct present
      bounded := bounded_append key value (Nat.pos_of_ne_zero (NeZero.ne capacity)) m.bounded }

inductive Op (κ ν : Type) where
  | put (key : κ) (value : ν)
  | clear

/-- The value that an operation puts at a key. -/
def Op.putAt (key : κ) : Op κ ν → Option ν
  | .put other value => if other = key then some value else none
  | .clear => none

def apply (m : FifoMap κ ν capacity) : Op κ ν → FifoMap κ ν capacity
  | .put key value => m.put key value
  | .clear => empty

def run (m : FifoMap κ ν capacity) (ops : List (Op κ ν)) : FifoMap κ ν capacity := ops.foldl apply m

@[simp] theorem run_append_singleton (m : FifoMap κ ν capacity) (ops : List (Op κ ν)) (op : Op κ ν) :
    m.run (ops ++ [op]) = (m.run ops).apply op := by
  rw [run, List.foldl_append]
  rfl

theorem put_entries_of_holds {m : FifoMap κ ν capacity} {key : κ} (value : ν) (present : m.Holds key) :
    (m.put key value).entries = replace m.entries key value := by
  rw [put, dif_pos present]

theorem put_entries_of_not_holds {m : FifoMap κ ν capacity} {key : κ} (value : ν) (absent : ¬ m.Holds key) :
    (m.put key value).entries = makeRoom capacity m.entries ++ [(key, value)] := by
  rw [put, dif_neg absent]

/-- After a put, an entry is the one that was put or an older one for another key. -/
theorem mem_put {m : FifoMap κ ν capacity} {key other : κ} {value held : ν}
    (member : (other, held) ∈ (m.put key value).entries) :
    other = key ∧ held = value ∨ other ≠ key ∧ (other, held) ∈ m.entries := by
  by_cases present : m.Holds key
  · rw [put_entries_of_holds value present] at member
    obtain ⟨entry, inside, equal⟩ := List.mem_map.mp member
    by_cases same : entry.1 = key
    · rw [if_pos same] at equal
      obtain ⟨rfl, rfl⟩ := Prod.mk.inj equal
      exact Or.inl ⟨rfl, rfl⟩
    · rw [if_neg same] at equal
      subst equal
      exact Or.inr ⟨same, inside⟩
  · rw [put_entries_of_not_holds value present] at member
    rcases List.mem_append.mp member with old | new
    · have inside := (makeRoom_sublist capacity m.entries).subset old
      exact Or.inr ⟨fun same => present (same ▸ List.mem_map_of_mem inside), inside⟩
    · obtain ⟨rfl, rfl⟩ := Prod.mk.inj (List.mem_singleton.mp new)
      exact Or.inl ⟨rfl, rfl⟩

/-- A run from the empty map holds, at each key, the value that was put there last. -/
theorem run_lastWrite {ops : List (Op κ ν)} {key : κ} {value : ν}
    (member : (key, value) ∈ ((empty : FifoMap κ ν capacity).run ops).entries) :
    lastWrite (Op.putAt key) ops = some value := by
  induction ops using List.reverseRecOn with
  | nil => cases member
  | append_singleton ops op ih =>
      rw [run_append_singleton] at member
      rw [lastWrite_append, lastWrite_singleton]
      cases op with
      | put other written =>
          rcases mem_put member with ⟨rfl, rfl⟩ | ⟨different, older⟩
          · simp [Op.putAt]
          · simp [Op.putAt, different.symm, ih older]
      | clear => cases member

end FifoMap
