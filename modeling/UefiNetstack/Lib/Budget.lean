import Mathlib.Algebra.BigOperators.Group.List.Basic
import Mathlib.Algebra.Order.Monoid.Canonical.Defs

namespace Budget

variable {State Cost Result Next Item : Type*} [AddCommMonoid Cost] [PartialOrder Cost] {meter : State → Cost}
  {cost cost' : Cost} {s s' s'' : State}

/-- A step spends at most a cost. -/
def Spends (meter : State → Cost) (cost : Cost) (s s' : State) : Prop := meter s' ≤ meter s + cost

theorem Spends.of_same [CanonicallyOrderedAdd Cost] (same : meter s' = meter s) : Spends meter cost s s' := by
  rw [Spends, same]
  exact le_self_add

theorem Spends.trans [IsOrderedAddMonoid Cost] (first : Spends meter cost s s')
    (second : Spends meter cost' s' s'') : Spends meter (cost + cost') s s'' :=
  calc
    meter s'' ≤ meter s' + cost' := second
    _ ≤ meter s + cost + cost' := add_le_add first le_rfl
    _ = meter s + (cost + cost') := add_assoc _ _ _

theorem Spends.mono [IsOrderedAddMonoid Cost] (spends : Spends meter cost s s') (le : cost ≤ cost') :
    Spends meter cost' s s' :=
  le_trans spends (add_le_add le_rfl le)

/-- Whatever a partial operation returns, it leaves a state within the cost. -/
def Affords (meter : State → Cost) (cost : Cost) (s : State) (left : Result → State) (x : Option Result) : Prop :=
  ∀ result ∈ x, Spends meter cost s (left result)

namespace Affords

variable {left : Result → State} {left' : Next → State} {x : Option Result}

theorem mono [IsOrderedAddMonoid Cost] (affords : Affords meter cost s left x) (le : cost ≤ cost') :
    Affords meter cost' s left x :=
  fun result returned => (affords result returned).mono le

/-- A step before an operation. -/
theorem after [IsOrderedAddMonoid Cost] (first : Spends meter cost s s') (rest : Affords meter cost' s' left x) :
    Affords meter (cost + cost') s left x :=
  fun result returned => first.trans (rest result returned)

theorem bind [IsOrderedAddMonoid Cost] {f : Result → Option Next} (first : Affords meter cost s left x)
    (rest : ∀ result ∈ x, Affords meter cost' (left result) left' (f result)) :
    Affords meter (cost + cost') s left' (x.bind f) := by
  intro next returned
  obtain ⟨result, ran, continued⟩ := Option.bind_eq_some_iff.mp returned
  exact (first result ran).trans (rest result ran next continued)

theorem map {f : Result → Next} (affords : Affords meter cost s (fun result => left' (f result)) x) :
    Affords meter cost s left' (x.map f) := by
  intro next returned
  obtain ⟨result, ran, rfl⟩ := Option.map_eq_some_iff.mp returned
  exact affords result ran

/-- The state that an operation leaves, without what it returns. -/
theorem state (affords : Affords meter cost s left x) : Affords meter cost s (fun s => s) (x.map left) := map affords

/-- What is returned at the end costs nothing. -/
theorem last {f : State → Result} {x : Option State} (free : ∀ s, meter (left (f s)) = meter s)
    (affords : Affords meter cost s (fun s => s) x) : Affords meter cost s left (x.bind fun s => some (f s)) := by
  intro result returned
  obtain ⟨ended, ran, continued⟩ := Option.bind_eq_some_iff.mp returned
  obtain rfl := Option.some.inj continued
  rw [Spends, free]
  exact affords ended ran

/-- A run of operations spends the sum of their prices. -/
theorem foldlM [IsOrderedAddMonoid Cost] [CanonicallyOrderedAdd Cost] {run : State → Item → Option State}
    {price : Item → Cost} (each : ∀ s item, Affords meter (price item) s (fun s => s) (run s item))
    (items : List Item) (s : State) :
    Affords meter (items.map price).sum s (fun s => s) (items.foldlM run s) := by
  induction items generalizing s with
  | nil =>
      intro result returned
      obtain rfl := Option.some.inj returned
      exact Spends.of_same rfl
  | cons item items ih =>
      rw [List.foldlM_cons, List.map_cons, List.sum_cons]
      exact bind (each s item) fun result _ => ih result

end Affords
end Budget
