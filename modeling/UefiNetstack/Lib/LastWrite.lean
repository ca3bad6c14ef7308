namespace LastWrite

variable {α β : Type}

/-- The value that the list writes last. -/
def lastWrite (write : α → Option β) (steps : List α) : Option β := (steps.filterMap write).getLast?

variable (write : α → Option β)

@[simp] theorem lastWrite_nil : lastWrite write [] = none := rfl

/-- A later list of steps overwrites an earlier one. -/
theorem lastWrite_append (first second : List α) :
    lastWrite write (first ++ second) = (lastWrite write second).or (lastWrite write first) := by
  rw [lastWrite, List.filterMap_append, List.getLast?_append, lastWrite, lastWrite]

theorem lastWrite_singleton (step : α) : lastWrite write [step] = write step := by
  cases written : write step <;> simp [lastWrite, written]

/-- What the steps of a list write decides. -/
theorem lastWrite_congr {write write' : α → Option β} {steps : List α}
    (same : ∀ step ∈ steps, write step = write' step) : lastWrite write steps = lastWrite write' steps := by
  induction steps with
  | nil => rfl
  | cons step steps ih =>
      have head := same step List.mem_cons_self
      have tail := ih fun other member => same other (List.mem_cons_of_mem _ member)
      have both : lastWrite write ([step] ++ steps) = lastWrite write' ([step] ++ steps) := by
        rw [lastWrite_append, lastWrite_append, tail, lastWrite_singleton, lastWrite_singleton, head]
      exact both

theorem getD_or (later earlier : Option β) (initial : β) :
    (later.or earlier).getD initial = later.getD (earlier.getD initial) := by
  cases later <;> rfl

/-- Running the steps leaves the last write, or the initial value where no step writes. -/
theorem foldl_lastWrite (steps : List α) (initial : β) :
    steps.foldl (fun held step => (write step).getD held) initial = (lastWrite write steps).getD initial := by
  induction steps generalizing initial with
  | nil => rfl
  | cons step steps ih =>
      have split : lastWrite write (step :: steps) = (lastWrite write steps).or (write step) := by
        rw [← lastWrite_singleton write step, ← lastWrite_append]
        rfl
      rw [List.foldl_cons, ih, split, getD_or]

end LastWrite
