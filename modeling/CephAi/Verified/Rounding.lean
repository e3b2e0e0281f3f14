import Mathlib.Algebra.Order.Ring.Rat
import Mathlib.Algebra.Order.Group.Abs
import Mathlib.Tactic.Linarith

/-!
# Rounded arithmetic

The standard model of floating-point arithmetic: the result of an operation is
the exact one, off by a relative error of at most the unit roundoff `u`.
Comparisons are exact.

## Main results

* `Rounding.round_le`, `Rounding.le_round` — a rounded value is within a factor
  of the exact one.
-/

namespace CephAi.Verified

/-- A rounding of the rationals with unit roundoff `u`. -/
structure Rounding (u : ℚ) where
  round : ℚ → ℚ
  error : ∀ x, |round x - x| ≤ u * |x|

namespace Rounding

variable {u : ℚ} (r : Rounding u)

def exact (u : ℚ) (hu : 0 ≤ u) : Rounding u where
  round := id
  error := by
    intro x
    show |x - x| ≤ u * |x|
    rw [sub_self, abs_zero]
    exact mul_nonneg hu (abs_nonneg x)

variable {x : ℚ}

theorem round_le (hx : 0 ≤ x) : r.round x ≤ (1 + u) * x := by
  have herror := r.error x
  rw [abs_of_nonneg hx] at herror
  have hle := le_trans (le_abs_self _) herror
  linarith

theorem le_round (hx : 0 ≤ x) : (1 - u) * x ≤ r.round x := by
  have herror := r.error x
  rw [abs_of_nonneg hx] at herror
  have hle := le_trans (neg_le_abs _) herror
  linarith

theorem round_neg (hu : u < 1) (hx : x < 0) : r.round x < 0 := by
  have herror := r.error x
  rw [abs_of_neg hx] at herror
  have hle := le_trans (le_abs_self _) herror
  have hpos : 0 < (1 - u) * (-x) := mul_pos (by linarith) (by linarith)
  linarith

end Rounding

end CephAi.Verified
