import LintRemedy.Operator.Automatic
import Mathlib.Algebra.BigOperators.Group.Finset.Basic
import Mathlib.Algebra.Order.BigOperators.Group.Finset
import Mathlib.Algebra.Order.Group.Int

/-!
This module contains the allowance of an unattended run: the number of skips that are left of the
budgets of some pairs. A skip uses up one, and a fix gives back what the pair had used.
-/

namespace LintRemedy
namespace SkipCounts

variable {budget : Int} {pairs : Finset FileRule} {pair : FileRule} {counts counts' : SkipCounts}

def remaining (budget : Int) (pairs : Finset FileRule) (counts : SkipCounts) : Int :=
  ∑ pair ∈ pairs, (budget - counts.get pair)

theorem remaining_nonneg (bounded : ∀ pair, counts.get pair ≤ budget) :
    0 ≤ remaining budget pairs counts := by
  unfold remaining
  apply Finset.sum_nonneg
  intro pair _
  exact Int.sub_nonneg.2 (bounded pair)

theorem remaining_le (nonneg : ∀ pair, 0 ≤ counts.get pair) :
    remaining budget pairs counts ≤ budget * pairs.card := by
  have hsum : remaining budget pairs counts ≤ ∑ _pair ∈ pairs, budget := by
    apply Finset.sum_le_sum
    intro pair _
    have hcount := nonneg pair
    omega
  rw [Finset.sum_const, Int.nsmul_eq_mul, Int.mul_comm] at hsum
  exact hsum

theorem remaining_insert (h : pair ∉ pairs) :
    remaining budget (insert pair pairs) counts =
      budget - counts.get pair + remaining budget pairs counts := by
  unfold remaining
  rw [Finset.sum_insert h]

theorem remaining_change (hpair : pair ∈ pairs)
    (same : ∀ other, other ≠ pair → counts'.get other = counts.get other) :
    remaining budget pairs counts' + counts'.get pair =
      remaining budget pairs counts + counts.get pair := by
  unfold remaining
  have hothers : ∑ other ∈ pairs.erase pair, (budget - counts'.get other) =
      ∑ other ∈ pairs.erase pair, (budget - counts.get other) := by
    apply Finset.sum_congr rfl
    intro other hother
    rw [same other (Finset.ne_of_mem_erase hother)]
  -- Both sums are taken apart at the pair, and agree in the rest.
  rw [← Finset.add_sum_erase pairs _ hpair, ← Finset.add_sum_erase pairs _ hpair, hothers]
  omega

theorem remaining_increase (hpair : pair ∈ pairs) :
    remaining budget pairs (counts.increase pair) = remaining budget pairs counts - 1 := by
  have hchange : remaining budget pairs (counts.increase pair) + (counts.increase pair).get pair =
      remaining budget pairs counts + counts.get pair :=
    remaining_change hpair fun _ hne => get_increase_of_ne hne counts
  rw [get_increase_self] at hchange
  omega

theorem remaining_clear (hpair : pair ∈ pairs) :
    remaining budget pairs (counts.clear pair) =
      remaining budget pairs counts + counts.get pair := by
  have hchange : remaining budget pairs (counts.clear pair) + (counts.clear pair).get pair =
      remaining budget pairs counts + counts.get pair :=
    remaining_change hpair fun _ hne => get_clear_of_ne hne counts
  rw [get_clear_self] at hchange
  omega

end SkipCounts
end LintRemedy
