import Mathlib.Logic.Function.Basic
import Mathlib.Logic.Relation

/-!
# Lifecycles with an exclusive status

Each row is in a scope and has a status.  A row enters with one status, and changes it along a
relation; one of the statuses may be taken only where no other row of the scope has it.

## Main results

* `Moves.exclusive` — two rows of a scope never both have the exclusive status.
* `Moves.kept` — a set of statuses that the relation does not leave is not left.
-/

namespace CephAi.Verified.Lifecycle

variable {ι κ σ : Type _} [DecidableEq ι]

/-- The scope and the status of the rows. -/
abbrev Board (ι κ σ : Type _) := ι → Option (κ × σ)

/-- The rules of a lifecycle. -/
structure Rules (σ : Type _) where
  initial : σ
  exclusive : σ
  allowed : σ → σ → Prop
  ne : initial ≠ exclusive

/-- A row enters, or a row that is there gets another status. -/
inductive Move (R : Rules σ) (b : Board ι κ σ) : Board ι κ σ → Prop
  | enter {i : ι} {scope : κ} (habsent : b i = none) :
      Move R b (Function.update b i (some (scope, R.initial)))
  | change {i : ι} {scope : κ} {status status' : σ} (hrow : b i = some (scope, status))
      (hallowed : R.allowed status status')
      (halone : status' = R.exclusive → ∀ j, b j = some (scope, R.exclusive) → j = i) :
      Move R b (Function.update b i (some (scope, status')))

/-- Any number of moves. -/
abbrev Moves (R : Rules σ) : Board ι κ σ → Board ι κ σ → Prop := Relation.ReflTransGen (Move R)

/-- Two rows of a scope do not both have the status. -/
def Exclusive (status : σ) (b : Board ι κ σ) : Prop :=
  ∀ i j scope, b i = some (scope, status) → b j = some (scope, status) → i = j

variable {R : Rules σ} {b b' : Board ι κ σ}

variable {i : ι}

theorem update_eq_some {k : ι} {row row' : κ × σ}
    (h : Function.update b k (some row) i = some row') :
    i = k ∧ row = row' ∨ i ≠ k ∧ b i = some row' := by
  by_cases hik : i = k
  · rw [hik, Function.update_self] at h
    exact .inl ⟨hik, Option.some.inj h⟩
  · rw [Function.update_of_ne hik] at h
    exact .inr ⟨hik, h⟩

theorem Move.exclusive (hmove : Move R b b') (h : Exclusive R.exclusive b) :
    Exclusive R.exclusive b' := by
  intro i j scope hi hj
  cases hmove with
  | enter habsent =>
    rcases update_eq_some hi with ⟨_, hrow⟩ | ⟨_, hbi⟩
    · exact absurd (congrArg Prod.snd hrow) R.ne
    · rcases update_eq_some hj with ⟨_, hrow⟩ | ⟨_, hbj⟩
      · exact absurd (congrArg Prod.snd hrow) R.ne
      · exact h i j scope hbi hbj
  | change hrow hallowed halone =>
    rcases update_eq_some hi with ⟨hik, hnew⟩ | ⟨hik, hbi⟩
    · rcases update_eq_some hj with ⟨hjk, _⟩ | ⟨hjk, hbj⟩
      · exact hik.trans hjk.symm
      · cases hnew
        exact absurd (halone rfl j hbj) hjk
    · rcases update_eq_some hj with ⟨_, hnew⟩ | ⟨_, hbj⟩
      · cases hnew
        exact absurd (halone rfl i hbi) hik
      · exact h i j scope hbi hbj

theorem Moves.exclusive (hmoves : Moves R b b') (h : Exclusive R.exclusive b) :
    Exclusive R.exclusive b' := by
  induction hmoves with
  | refl => exact h
  | tail _ hmove ih => exact hmove.exclusive ih

/-- A row has one of these statuses. -/
def In (S : σ → Prop) (b : Board ι κ σ) (i : ι) : Prop :=
  ∃ scope status, b i = some (scope, status) ∧ S status

theorem Move.kept {S : σ → Prop} (hS : ∀ s s', S s → R.allowed s s' → S s') (hmove : Move R b b')
    (h : In S b i) : In S b' i := by
  obtain ⟨scope, status, hi, hstatus⟩ := h
  cases hmove with
  | @enter k scope' habsent =>
    have hik : i ≠ k := by
      intro hik
      rw [hik, habsent] at hi
      cases hi
    exact ⟨scope, status, (Function.update_of_ne hik _ _).trans hi, hstatus⟩
  | @change k scope' old new hrow hallowed _ =>
    by_cases hik : i = k
    · have hsame : some (scope, status) = some (scope', old) :=
        hi.symm.trans ((congrArg b hik).trans hrow)
      have hold : status = old := congrArg Prod.snd (Option.some.inj hsame)
      refine ⟨scope', new, ?_, hS old new (hold ▸ hstatus) hallowed⟩
      rw [hik, Function.update_self]
    · exact ⟨scope, status, (Function.update_of_ne hik _ _).trans hi, hstatus⟩

theorem Moves.kept {S : σ → Prop} (hS : ∀ s s', S s → R.allowed s s' → S s') (hmoves : Moves R b b')
    (h : In S b i) : In S b' i := by
  induction hmoves with
  | refl => exact h
  | tail _ hmove ih => exact hmove.kept hS ih

end CephAi.Verified.Lifecycle
