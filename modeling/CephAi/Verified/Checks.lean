import Mathlib.Data.List.Basic

/-!
# Chains of checks

A check that passes gives a value, one that does not gives an error and nothing after it
is done.  These lemmas take apart a chain that has passed.
-/

namespace CephAi.Verified.Checks

variable {ε α β : Type _}

theorem bind_eq_ok {x : Except ε α} {f : α → Except ε β} {b : β} :
    x >>= f = .ok b ↔ ∃ a, x = .ok a ∧ f a = .ok b := by
  cases x with
  | ok a =>
    show f a = .ok b ↔ _
    simp
  | error e =>
    constructor
    · intro h
      cases h
    · intro h
      obtain ⟨a, ha, _⟩ := h
      cases ha

/-- A loop of checks passes when each of them does. -/
theorem forM_eq_ok_iff (xs : List α) (f : α → Except ε PUnit) :
    xs.forM f = .ok () ↔ ∀ x ∈ xs, f x = .ok () := by
  induction xs with
  | nil => simp [pure, Except.pure]
  | cons x xs ih =>
    show (f x >>= fun _ => xs.forM f) = .ok () ↔ _
    rw [bind_eq_ok, List.forall_mem_cons]
    constructor
    · intro h
      obtain ⟨_, hx, hxs⟩ := h
      exact ⟨hx, ih.mp hxs⟩
    · intro h
      exact ⟨(), h.1, ih.mpr h.2⟩

end CephAi.Verified.Checks
