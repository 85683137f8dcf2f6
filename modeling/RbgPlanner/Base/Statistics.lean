import Mathlib.Algebra.BigOperators.Group.List.Basic
import Mathlib.Algebra.Field.Basic
import Mathlib.Algebra.CharZero.Defs
import Mathlib.Tactic.Ring

/-!
# Means and covariation over a list

The unweighted mean of a quantity, and how far it is from the mean weighted by
another one: they differ by the covariation of the two.
-/

namespace RbgPlanner.Base.Statistics

variable {ι K : Type*} [Field K] (l : List ι) (f g : ι → K)

/-- The unweighted mean, zero over the empty list. -/
def mean : K := (l.map f).sum / l.length

/-- The sum of the products of deviations from the means. -/
def covariation : K := (l.map fun i => (f i - mean l f) * (g i - mean l g)).sum

theorem sum_map_sub_mul_sub (a b : K) :
    (l.map fun i => (f i - a) * (g i - b)).sum =
      (l.map fun i => f i * g i).sum - a * (l.map g).sum - b * (l.map f).sum +
        l.length * a * b := by
  induction l with
  | nil => simp
  | cons i l ih =>
      simp only [List.map_cons, List.sum_cons, List.length_cons, ih]
      push_cast
      ring

variable [CharZero K]

theorem length_mul_mean : (l.length : K) * mean l f = (l.map f).sum := by
  cases l with
  | nil => simp [mean]
  | cons i l =>
      have hlength : ((i :: l).length : K) ≠ 0 := by exact_mod_cast Nat.succ_ne_zero l.length
      exact mul_div_cancel₀ _ hlength

/-- A total times an unweighted mean misses the weighted total by the covariation. -/
theorem sum_mul_mean :
    (l.map f).sum * mean l g = (l.map fun i => f i * g i).sum - covariation l f g := by
  let weighted := (l.map fun i => f i * g i).sum
  calc
    (l.map f).sum * mean l g
        = weighted - (weighted - mean l f * (l.length * mean l g) - mean l g * (l.map f).sum +
            l.length * mean l f * mean l g) := by ring
    _ = weighted - (weighted - mean l f * (l.map g).sum - mean l g * (l.map f).sum +
            l.length * mean l f * mean l g) := by rw [length_mul_mean l g]
    _ = weighted - covariation l f g := by rw [covariation, sum_map_sub_mul_sub]

end RbgPlanner.Base.Statistics
