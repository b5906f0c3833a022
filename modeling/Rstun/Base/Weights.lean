import Mathlib.Algebra.BigOperators.Group.Finset.Piecewise
import Mathlib.Algebra.Order.BigOperators.Group.Finset

/-!
# The work that is left to many tasks

A measure of a system of tasks is the sum of their weights. A step of one task changes one summand.
-/

namespace Weights

variable {β : Type*} (weight : β → Nat) (tasks : Nat → β)

theorem sum_update {count tid : Nat} (below : tid < count) (task : β) :
    ∑ other ∈ Finset.range count, weight (Function.update tasks tid task other) + weight (tasks tid) =
      ∑ other ∈ Finset.range count, weight (tasks other) + weight task := by
  have member : tid ∈ Finset.range count := Finset.mem_range.mpr below
  have weights : (fun other => weight (Function.update tasks tid task other)) =
      Function.update (fun other => weight (tasks other)) tid (weight task) :=
    Function.comp_update weight tasks tid task
  rw [weights, Finset.sum_update_of_mem member, Finset.sdiff_singleton_eq_erase,
    ← Finset.add_sum_erase _ (fun other => weight (tasks other)) member]
  omega

theorem sum_le (count : Nat) {most : Nat} (bound : ∀ task, weight task ≤ most) :
    ∑ other ∈ Finset.range count, weight (tasks other) ≤ most * count := by
  have sum := Finset.sum_le_card_nsmul (Finset.range count) (fun other => weight (tasks other)) most
    fun other _ => bound (tasks other)
  rwa [Finset.card_range, Nat.nsmul_eq_mul, Nat.mul_comm] at sum

end Weights
