import Mathlib.Algebra.BigOperators.Pi
import Mathlib.Algebra.Order.BigOperators.Group.Finset

/-!
Contract: what a finite family weighs when one member changes.

Owns: the total weight of a family, its value after the update of one member, and the
lower bounds that one or two members give.

Does not own: what the members are or why they weigh what they do.
-/

namespace Oxo.Foundation

variable {ι τ : Type} [Fintype ι]

/-- What the members of a family weigh together. -/
def tally (weight : τ → Nat) (family : ι → τ) : Nat :=
  ∑ member, weight (family member)

variable (weight : τ → Nat) (family : ι → τ)

theorem weight_le_tally (member : ι) : weight (family member) ≤ tally weight family :=
  Finset.single_le_sum (f := fun other => weight (family other)) (fun _ _ => Nat.zero_le _)
    (Finset.mem_univ member)

theorem tally_congr {τ' : Type} {weight' : τ' → Nat} {family' : ι → τ'}
    (same : ∀ member, weight (family member) = weight' (family' member)) :
    tally weight family = tally weight' family' :=
  Finset.sum_congr rfl fun member _ => same member

variable [DecidableEq ι]

theorem tally_update (member : ι) (value : τ) :
    tally weight (Function.update family member value) + weight (family member) =
      tally weight family + weight value := by
  have moved : (fun other => weight (Function.update family member value other)) =
      Function.update (fun other => weight (family other)) member (weight value) := by
    funext other
    by_cases same : other = member
    · subst same
      simp
    · simp [same]
  have split := Finset.add_sum_erase Finset.univ (fun other => weight (family other))
    (Finset.mem_univ member)
  unfold tally
  rw [moved, Finset.sum_update_of_mem (Finset.mem_univ member),
    Finset.sdiff_singleton_eq_erase]
  omega

theorem weights_le_tally {first second : ι} (different : first ≠ second) :
    weight (family first) + weight (family second) ≤ tally weight family := by
  rw [← Finset.sum_pair (f := fun other => weight (family other)) different]
  exact Finset.sum_le_sum_of_subset (Finset.subset_univ _)

end Oxo.Foundation
