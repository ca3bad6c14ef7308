namespace Custody

/-- What an event does to the resource. -/
inductive Effect where
  | use
  | handOver
  | giveBack
  | none
deriving DecidableEq

/-- A return with nothing out changes nothing. -/
def Effect.apply : Effect → Nat → Nat
  | .handOver, out => out + 1
  | .giveBack, out => out - 1
  | _, out => out

/-- What is out after some effects. -/
def after (effects : List Effect) (out : Nat) : Nat := effects.foldl (fun out effect => effect.apply out) out

/-- Nothing is out at any use. -/
def Exclusive : List Effect → Nat → Prop
  | [], _ => True
  | effect :: effects, out => (effect = .use → out = 0) ∧ Exclusive effects (effect.apply out)

@[simp] theorem after_nil (out : Nat) : after [] out = out := rfl

@[simp] theorem after_cons (effect : Effect) (effects : List Effect) (out : Nat) :
    after (effect :: effects) out = after effects (effect.apply out) := rfl

theorem after_append (first second : List Effect) (out : Nat) :
    after (first ++ second) out = after second (after first out) :=
  List.foldl_append

theorem exclusive_append (first second : List Effect) (out : Nat) :
    Exclusive (first ++ second) out ↔ Exclusive first out ∧ Exclusive second (after first out) := by
  induction first generalizing out with
  | nil => exact iff_of_eq (true_and _).symm
  | cons effect first ih =>
      change _ ∧ Exclusive (first ++ second) _ ↔ (_ ∧ Exclusive first _) ∧ _
      rw [ih, and_assoc]
      rfl

/-- Effects without a use are exclusive. -/
theorem Exclusive.of_noUse {effects : List Effect} (noUse : Effect.use ∉ effects) (out : Nat) : Exclusive effects out := by
  induction effects generalizing out with
  | nil => trivial
  | cons effect effects ih =>
      constructor
      · rintro rfl
        exact absurd List.mem_cons_self noUse
      · exact ih (fun member => noUse (List.mem_cons_of_mem _ member)) _

end Custody
