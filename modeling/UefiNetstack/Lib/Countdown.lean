import Mathlib.Data.List.Chain
import Mathlib.Data.List.Induction

namespace Countdown

/-- What a loop does with its counter in a round. -/
structure Clock (Round : Type) where
  period : Nat
  positive : 0 < period
  count : Round → Nat
  ticks : Round → Bool
  rewinds : Round → Prop

/-- A list of rounds repeats with its first round and once in every block of the given length. -/
structure Cadence {Round : Type} (length : Nat) (repeats : Round → Prop) (rounds : List Round) : Prop where
  first : ∀ round ∈ rounds.head?, repeats round
  again : ∀ block, block <:+: rounds → block.length = length → ∃ round ∈ block, repeats round

theorem Cadence.imp {Round : Type} {length : Nat} {repeats repeats' : Round → Prop} {rounds : List Round}
    (cadence : Cadence length repeats rounds) (implies : ∀ round ∈ rounds, repeats round → repeats' round) :
    Cadence length repeats' rounds where
  first round head := implies round (List.mem_of_mem_head? head) (cadence.first round head)
  again block inside same := by
    obtain ⟨round, member, holds⟩ := cadence.again block inside same
    exact ⟨round, member, implies round (inside.mem member) holds⟩

namespace Clock

variable {Round : Type} (clock : Clock Round)

/-- The counter after a round has started it again where it had run out. -/
def loaded (round : Round) : Nat := if clock.count round = 0 then clock.period else clock.count round

/-- The counter of the next round. -/
structure Next (round next : Round) : Prop where
  rewound : clock.rewinds round → clock.count next = 0
  counted : ¬clock.rewinds round → clock.count next = clock.loaded round - (clock.ticks round).toNat

/-- A block that follows a repetition is timely when a round of it rewinds or all but one of its rounds tick. -/
def Timely (block : List Round) : Prop :=
  (∃ round ∈ block, clock.rewinds round) ∨ block.countP (fun round => !clock.ticks round) ≤ 1

variable {clock}

theorem loaded_pos (round : Round) : 0 < clock.loaded round := by
  unfold loaded
  split
  · exact clock.positive
  · rename_i running
    exact Nat.pos_of_ne_zero running

theorem loaded_of_running {round : Round} (running : clock.count round ≠ 0) : clock.loaded round = clock.count round :=
  if_neg running

theorem loaded_of_zero {round : Round} (zero : clock.count round = 0) : clock.loaded round = clock.period := if_pos zero

/-- The counter runs through the rounds behind a first one exactly when none of the rounds before the last rewinds
and their ticks do not use it up. -/
theorem running_iff {first : Round} {rest : List Round} (chain : (first :: rest).IsChain clock.Next) :
    (∀ round ∈ rest, clock.count round ≠ 0) ↔ (∀ round ∈ (first :: rest).dropLast, ¬clock.rewinds round) ∧
      (first :: rest).dropLast.countP clock.ticks < clock.loaded first := by
  induction rest generalizing first with
  | nil => simp [loaded_pos]
  | cons next rest ih =>
      obtain ⟨step, tail⟩ := List.isChain_cons_cons.mp chain
      have counts : (first :: (next :: rest).dropLast).countP clock.ticks =
          (next :: rest).dropLast.countP clock.ticks + (clock.ticks first).toNat := by
        rw [List.countP_cons]
        cases clock.ticks first <;> rfl
      rw [List.dropLast_cons_of_ne_nil (List.cons_ne_nil _ _), List.forall_mem_cons, List.forall_mem_cons, counts,
        ih tail]
      by_cases rewinds : clock.rewinds first
      · simp [rewinds, step.rewound rewinds]
      · have counted := step.counted rewinds
        constructor
        · rintro ⟨running, quiet, few⟩
          rw [loaded_of_running running] at few
          exact ⟨⟨rewinds, quiet⟩, by omega⟩
        · rintro ⟨⟨-, quiet⟩, few⟩
          have running : clock.count next ≠ 0 := by omega
          refine ⟨running, quiet, ?_⟩
          rw [loaded_of_running running]
          omega

/-- Every round of a block ticks or does not. -/
theorem countP_ticks (block : List Round) :
    block.countP clock.ticks + block.countP (fun round => !clock.ticks round) = block.length := by
  rw [List.length_eq_countP_add_countP clock.ticks]
  simp

/-- A block that starts with a repetition is timely exactly when the counter runs out behind its first round. -/
theorem timely_iff {first last : Round} {middle : List Round} (chain : (first :: middle ++ [last]).IsChain clock.Next)
    (zero : clock.count first = 0) (length : (first :: middle).length = clock.period + 1) :
    clock.Timely (first :: middle) ↔ ∃ round ∈ middle ++ [last], clock.count round = 0 := by
  have running := @running_iff _ clock first (middle ++ [last]) chain
  have block : (first :: (middle ++ [last])).dropLast = first :: middle := by
    rw [← List.cons_append, List.dropLast_concat]
  rw [block, loaded_of_zero zero] at running
  have total := clock.countP_ticks (first :: middle)
  rw [← not_iff_not]
  push Not
  rw [running, Timely]
  push Not
  refine and_congr_right fun _ => ?_
  omega

/-- A chain in which a block runs has a repetition before it, behind which the counter runs up to the block. -/
theorem exists_last_repetition {before block : List Round}
    (starts : ∀ round ∈ (before ++ block).head?, clock.count round = 0)
    (nonempty : block ≠ []) (running : ∀ round ∈ block, clock.count round ≠ 0) :
    ∃ earlier first middle, before = earlier ++ first :: middle ∧ clock.count first = 0 ∧
      ∀ round ∈ middle ++ block, clock.count round ≠ 0 := by
  induction before using List.reverseRecOn generalizing block with
  | nil =>
      obtain ⟨head, rest, rfl⟩ := List.exists_cons_of_ne_nil nonempty
      exact absurd (starts head rfl) (running head List.mem_cons_self)
  | append_singleton before round ih =>
      by_cases zero : clock.count round = 0
      · exact ⟨before, round, [], rfl, zero, running⟩
      · rw [List.append_assoc] at starts
        obtain ⟨earlier, first, middle, rfl, repeated, runs⟩ := ih starts (by simp)
          (List.forall_mem_cons.mpr ⟨zero, running⟩)
        refine ⟨earlier, first, middle ++ [round], ?_, repeated, ?_⟩
        · rw [List.append_assoc]
          rfl
        · rw [List.append_assoc]
          exact runs

/-- A list that is longer than a number of rounds has a round behind so many. -/
theorem exists_round_behind {rounds : List Round} {count : Nat} (longer : count < rounds.length) :
    ∃ front last back, rounds = front ++ last :: back ∧ front.length = count := by
  obtain ⟨last, back, cut⟩ : ∃ last back, rounds.drop count = last :: back := by
    refine List.exists_cons_of_ne_nil fun empty => ?_
    have short := List.drop_eq_nil_iff.mp empty
    omega
  refine ⟨rounds.take count, last, back, ?_, List.length_take_of_le (Nat.le_of_lt longer)⟩
  rw [← cut, List.take_append_drop]

/-- Rounds that start with a repetition repeat once in every block that is one longer than the period exactly when
each such block that starts with a repetition, and is not the last of the rounds, is timely. -/
theorem cadence_iff {rounds : List Round} (chain : rounds.IsChain clock.Next)
    (starts : ∀ round ∈ rounds.head?, clock.count round = 0) :
    Cadence (clock.period + 1) (fun round => clock.count round = 0) rounds ↔
      ∀ first middle last, first :: middle ++ [last] <:+: rounds → clock.count first = 0 →
        (first :: middle).length = clock.period + 1 → clock.Timely (first :: middle) := by
  constructor
  · intro cadence first middle last inside zero length
    have part := List.IsChain.infix chain inside
    refine (timely_iff part zero length).mpr (cadence.again (middle ++ [last]) ?_ ?_)
    · exact List.IsInfix.trans (List.infix_cons (List.infix_refl _)) inside
    · rw [List.length_append]
      exact length
  · intro timely
    refine ⟨starts, fun block inside length => ?_⟩
    by_contra silent
    push Not at silent
    obtain ⟨before, after, rfl⟩ := inside
    have nonempty : block ≠ [] := List.length_pos_iff.mp (by omega)
    have head : ∀ round ∈ (before ++ block).head?, clock.count round = 0 := by
      intro round first
      refine starts round ?_
      rw [List.head?_append_of_ne_nil _ (by simp [nonempty])]
      exact first
    obtain ⟨earlier, first, middle, rfl, zero, running⟩ := exists_last_repetition head nonempty silent
    -- The rounds behind the repetition reach at least one round past the block that it starts.
    obtain ⟨front, last, back, whole, count⟩ := @exists_round_behind _ (middle ++ block) clock.period (by
      rw [List.length_append]
      omega)
    have size : (first :: front).length = clock.period + 1 := congrArg (· + 1) count
    have place : first :: front ++ [last] <:+: earlier ++ first :: middle ++ block ++ after := by
      refine ⟨earlier, back ++ after, ?_⟩
      have rounds : earlier ++ first :: middle ++ block ++ after = earlier ++ first :: (middle ++ block) ++ after := by
        simp
      rw [rounds, whole]
      simp
    have part := List.IsChain.infix chain place
    obtain ⟨round, member, repeats⟩ := (timely_iff part zero size).mp (timely first front last place zero size)
    refine running round ?_ repeats
    rw [whole]
    rcases List.mem_append.mp member with earlier | final
    · exact List.mem_append_left _ earlier
    · exact List.mem_append_right _ (List.mem_cons.mpr (Or.inl (List.mem_singleton.mp final)))

/-- Rounds that all tick repeat once in every block that is one longer than the period. -/
theorem cadence_of_ticks {rounds : List Round} (chain : rounds.IsChain clock.Next)
    (starts : ∀ round ∈ rounds.head?, clock.count round = 0) (ticks : ∀ round ∈ rounds, clock.ticks round) :
    Cadence (clock.period + 1) (fun round => clock.count round = 0) rounds := by
  refine (cadence_iff chain starts).mpr fun first middle last inside zero length => Or.inr ?_
  have allTick : (first :: middle).countP (fun round => !clock.ticks round) = 0 := by
    rw [List.countP_eq_zero]
    intro round member
    simp [ticks round (inside.mem (List.mem_append_left _ member))]
  omega

end Clock
end Countdown
