import Mathlib.Order.Basic

/-!
# Unbounded runs

A total step function, and one input for each moment.

## Main results

* `Timeline.invariant` — what the steps preserve, and what each step does while it holds.
* `Timeline.exists_change` — what becomes true does so at a step.
-/

namespace CephAi.Verified

/-- A start, a step for each input, and the inputs. -/
structure Timeline (σ α : Type _) where
  start : σ
  step : σ → α → σ
  inputs : Nat → α

namespace Timeline

variable {σ α : Type _} (T : Timeline σ α)

/-- The state at a moment. -/
def state : Nat → σ
  | 0 => T.start
  | n + 1 => T.step (state n) (T.inputs n)

/-- **An invariant**: it holds at a moment when it holds at the start, and each earlier step
that meets `C` preserves it. -/
theorem invariant {I : σ → Prop} {C : σ → α → Prop} (hstart : I T.start)
    (hstep : ∀ s a, I s → C s a → I (T.step s a)) (n : Nat)
    (hmeets : ∀ k < n, C (T.state k) (T.inputs k)) : I (T.state n) := by
  induction n with
  | zero => exact hstart
  | succ n ih =>
    apply hstep
    · exact ih fun k hk => hmeets k (by omega)
    · exact hmeets n (by omega)

/-- **What becomes true does so at a step.** -/
theorem exists_change {P : σ → Prop} {n m : Nat} (hle : n ≤ m) (hn : ¬ P (T.state n))
    (hm : P (T.state m)) : ∃ k, n ≤ k ∧ k < m ∧ ¬ P (T.state k) ∧ P (T.state (k + 1)) := by
  induction hle with
  | refl => exact absurd hm hn
  | @step m hle ih =>
    by_cases hbefore : P (T.state m)
    · obtain ⟨k, hk, hlt, hnot, hthen⟩ := ih hbefore
      exact ⟨k, hk, Nat.lt_succ_of_lt hlt, hnot, hthen⟩
    · exact ⟨m, hle, Nat.lt_succ_self m, hbefore, hm⟩

end Timeline

end CephAi.Verified
