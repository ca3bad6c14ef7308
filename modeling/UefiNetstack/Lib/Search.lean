import Mathlib.Logic.Function.Iterate

namespace Search

variable {State View : Type*}

/-- At most a number of rounds, up to the first state that is done. -/
inductive Ends (round : State → State → Prop) (done : State → Prop) : ℕ → State → State → Prop
  | out (s : State) : Ends round done 0 s s
  | stopped {rounds : ℕ} {s : State} (ended : done s) : Ends round done rounds s s
  | next {rounds : ℕ} {s s' s'' : State} (waits : ¬done s) (first : round s s')
      (rest : Ends round done rounds s' s'') : Ends round done (rounds + 1) s s''

/-- Under an invariant a round takes one input, and its hits are what the loop waits for. -/
structure Reads (round : State → State → Prop) (done : State → Prop) (view : State → View) (next : View → View)
    (hit : View → Prop) (holds : State → Prop) : Prop where
  moves : ∀ {s s'}, holds s → ¬done s → round s s' → view s' = next (view s)
  hits : ∀ {s s'}, holds s → ¬done s → round s s' → (done s' ↔ hit (view s))
  keeps : ∀ {s s'}, holds s → ¬done s → round s s' → ¬done s' → holds s'

/-- The inputs in front of a place are misses, and the one there is a hit. -/
structure FirstHit (next : View → View) (hit : View → Prop) (i : ℕ) (v : View) : Prop where
  misses : ∀ j < i, ¬hit (next^[j] v)
  hits : hit (next^[i] v)

section FirstHit

variable {next : View → View} {hit : View → Prop} {i : ℕ} {v : View}

theorem FirstHit.zero (hits : hit v) : FirstHit next hit 0 v where
  misses j before := absurd before (Nat.not_lt_zero j)
  hits := hits

/-- A miss in front of a first hit. -/
theorem FirstHit.succ (misses : ¬hit v) (first : FirstHit next hit i (next v)) : FirstHit next hit (i + 1) v where
  misses j before := by
    cases j with
    | zero => exact misses
    | succ j => exact first.misses j (Nat.lt_of_succ_lt_succ before)
  hits := first.hits

end FirstHit

variable {round : State → State → Prop} {done : State → Prop} {view : State → View} {next : View → View}
  {hit : View → Prop} {holds : State → Prop} {rounds i : ℕ} {s s' : State}

/-- The loop has found its first hit: what the last round started from, and what is left of the view. -/
structure Found (round : State → State → Prop) (done : State → Prop) (view : State → View) (next : View → View)
    (hit : View → Prop) (holds : State → Prop) (s s' : State) (i : ℕ) : Prop where
  first : FirstHit next hit i (view s)
  ended : done s'
  left : view s' = next^[i + 1] (view s)
  last : ∃ before, holds before ∧ ¬done before ∧ view before = next^[i] (view s) ∧ round before s'

/-- The loop has seen no hit in all of its rounds. -/
structure Missed (done : State → Prop) (view : State → View) (next : View → View) (hit : View → Prop)
    (holds : State → Prop) (s s' : State) (rounds : ℕ) : Prop where
  misses : ∀ i < rounds, ¬hit (next^[i] (view s))
  waits : ¬done s'
  left : view s' = next^[rounds] (view s)
  kept : holds s'

/-- A round that misses, and a loop behind it that finds. -/
theorem Found.succ {middle : State} (moved : view middle = next (view s)) (misses : ¬hit (view s))
    (found : Found round done view next hit holds middle s' i) :
    Found round done view next hit holds s s' (i + 1) := by
  obtain ⟨first, ended, left, before, held, waited, viewed, last⟩ := found
  rw [moved] at first left viewed
  exact ⟨first.succ misses, ended, left, before, held, waited, viewed, last⟩

/-- A round that misses, and a loop behind it that misses. -/
theorem Missed.succ {middle : State} (moved : view middle = next (view s)) (misses : ¬hit (view s))
    (missed : Missed done view next hit holds middle s' rounds) :
    Missed done view next hit holds s s' (rounds + 1) := by
  obtain ⟨later, waits, left, kept⟩ := missed
  rw [moved] at later left
  refine ⟨fun i inside => ?_, waits, left, kept⟩
  cases i with
  | zero => exact misses
  | succ i => exact later i (Nat.lt_of_succ_lt_succ inside)

/-- A loop that is done stays where it is. -/
theorem Ends.eq_of_done (ends : Ends round done rounds s s') (ended : done s) : s' = s := by
  cases ends with
  | out => rfl
  | stopped => rfl
  | next waits => exact absurd ended waits

/-- A loop passes the first state in which an earlier search is done, or that search misses in all of its rounds. -/
theorem Reads.ends_then {later : State → Prop} (reads : Reads round done view next hit holds)
    (earlier : ∀ s, later s → done s) (start : holds s) (waits : ¬done s) (ends : Ends round later rounds s s') :
    (∃ i < rounds, ∃ middle, Found round done view next hit holds s middle i ∧
      Ends round later (rounds - (i + 1)) middle s') ∨ Missed done view next hit holds s s' rounds := by
  induction ends with
  | out s => exact Or.inr ⟨fun i inside => absurd inside (Nat.not_lt_zero i), waits, rfl, start⟩
  | stopped ended => exact absurd (earlier _ ended) waits
  | @next rounds s middle s' _ first rest ih =>
      have moved := reads.moves start waits first
      have hits := reads.hits start waits first
      by_cases ended : done middle
      · have found : Found round done view next hit holds s middle 0 :=
          ⟨.zero (hits.mp ended), ended, moved, s, start, waits, rfl, first⟩
        exact Or.inl ⟨0, Nat.succ_pos rounds, middle, found, rest⟩
      · have misses : ¬hit (view s) := fun here => ended (hits.mpr here)
        rcases ih (reads.keeps start waits first ended) ended with ⟨i, inside, last, found, behind⟩ | missed
        · rw [← Nat.succ_sub_succ] at behind
          exact Or.inl ⟨i + 1, Nat.succ_lt_succ inside, last, found.succ moved misses, behind⟩
        · exact Or.inr (missed.succ moved misses)

/-- A loop that waits finds its first hit in time, or it makes all of its rounds and misses. -/
theorem Reads.ends_cases (reads : Reads round done view next hit holds) (start : holds s) (waits : ¬done s)
    (ends : Ends round done rounds s s') :
    (∃ i < rounds, Found round done view next hit holds s s' i) ∨ Missed done view next hit holds s s' rounds := by
  rcases reads.ends_then (fun _ ended => ended) start waits ends with ⟨i, inside, middle, found, rest⟩ | missed
  · obtain rfl := rest.eq_of_done found.ended
    exact Or.inl ⟨i, inside, found⟩
  · exact Or.inr missed

end Search
