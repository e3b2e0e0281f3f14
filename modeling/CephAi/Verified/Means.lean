import Mathlib.Algebra.BigOperators.Group.List.Basic
import Mathlib.Algebra.CharZero.Defs
import Mathlib.Algebra.Field.Basic
import Mathlib.Data.Nat.Cast.Basic
import Mathlib.Logic.Function.Basic
import Mathlib.Tactic.Ring

/-!
# Means that grow with their scores

A mean is kept as a count and a value, and each new score is folded into both.  A table keeps
one mean for each key; the scores themselves stand in rows, which are visited in turn, and a
row that gets its score adds it to the mean of its key.

## Main results

* `Mean.Of.add` — a mean with a new score is that of the scores with the new one.
* `agrees_visitAll` — visits that add each new score to its key's mean keep every mean that of
  the scores in the rows.
-/

namespace CephAi.Verified.Means

variable {K ρ κ σ : Type _} [DecidableEq κ]

/-! ## Rows that hold scores -/

section Rows

variable (key : ρ → Option κ) (value : ρ → K)

def scoresOf (rows : List ρ) (k : κ) : List K :=
  (rows.filter fun r => key r = some k).map value

/-- The rows are visited in turn; a visit may change its row and the state. -/
def visitAll (visit : ρ → σ → ρ × σ) : List ρ → σ → List ρ × σ
  | [], s => ([], s)
  | r :: rs, s =>
    let v := visit r s
    let rest := visitAll visit rs v.2
    (v.1 :: rest.1, rest.2)

variable {key value}

theorem scoresOf_append (xs ys : List ρ) (k : κ) :
    scoresOf key value (xs ++ ys) k = scoresOf key value xs k ++ scoresOf key value ys k := by
  simp only [scoresOf, List.filter_append, List.map_append]

variable {r : ρ}

theorem scoresOf_cons_self {k : κ} (h : key r = some k) (rs : List ρ) :
    scoresOf key value (r :: rs) k = value r :: scoresOf key value rs k := by
  simp only [scoresOf, h, List.filter_cons, decide_true, if_true, List.map_cons]

theorem scoresOf_cons_of_ne {k : κ} (h : key r ≠ some k) (rs : List ρ) :
    scoresOf key value (r :: rs) k = scoresOf key value rs k := by
  simp only [scoresOf, List.filter_cons, h, decide_false, Bool.false_eq_true, if_false]

theorem scoresOf_cons_congr {r' : ρ} (hkey : key r' = key r) (hvalue : value r' = value r)
    (rs : List ρ) (k : κ) : scoresOf key value (r' :: rs) k = scoresOf key value (r :: rs) k := by
  by_cases h : key r = some k
  · rw [scoresOf_cons_self h, scoresOf_cons_self (hkey.trans h), hvalue]
  · rw [scoresOf_cons_of_ne h, scoresOf_cons_of_ne (by rwa [hkey])]

theorem visitAll_fst {visit : ρ → σ → ρ × σ} {f : ρ → ρ} (h : ∀ r s, (visit r s).1 = f r) :
    ∀ (rows : List ρ) (s : σ), (visitAll visit rows s).1 = rows.map f := by
  intro rows
  induction rows with
  | nil =>
    intro s
    rfl
  | cons r rs ih =>
    intro s
    show (visit r s).1 :: (visitAll visit rs (visit r s).2).1 = f r :: rs.map f
    rw [h, ih]

end Rows

/-! ## One mean -/

variable [Field K]

/-- The mean of a list; an empty one has none. -/
def meanOf (xs : List K) : Option K :=
  if xs.length = 0 then none else some (xs.sum / (xs.length : K))

/-- A count and a mean. -/
structure Mean (K : Type _) where
  count : Nat
  value : Option K
deriving DecidableEq, Repr

/-- Nothing was scored. -/
def Mean.empty : Mean K := ⟨0, none⟩

/-- Fold a score into the mean. -/
def Mean.add (m : Mean K) (x : K) : Mean K :=
  ⟨m.count + 1, some ((m.value.getD 0 * (m.count : K) + x) / ((m.count + 1 : Nat) : K))⟩

/-- `m` is the mean of the scores `xs`. -/
structure Mean.Of (m : Mean K) (xs : List K) : Prop where
  count : m.count = xs.length
  value : m.value = meanOf xs

theorem Mean.of_empty : (Mean.empty : Mean K).Of [] := ⟨rfl, rfl⟩

variable {m : Mean K} {xs : List K}

/-- The order of the scores does not matter. -/
theorem Mean.Of.perm {ys : List K} (h : m.Of xs) (hp : xs.Perm ys) : m.Of ys := by
  constructor
  · rw [h.count, hp.length_eq]
  · rw [h.value, meanOf, meanOf, hp.length_eq, hp.sum_eq]

theorem Mean.Of.sum [CharZero K] (h : m.Of xs) : m.value.getD 0 * (m.count : K) = xs.sum := by
  rw [h.count, h.value]
  unfold meanOf
  split
  · rename_i hlen
    rw [List.length_eq_zero_iff] at hlen
    subst hlen
    simp
  · rename_i hlen
    rw [Option.getD_some, div_mul_cancel₀]
    exact Nat.cast_ne_zero.mpr hlen

theorem Mean.Of.add [CharZero K] (h : m.Of xs) (x : K) : (m.add x).Of (x :: xs) := by
  constructor
  · show m.count + 1 = xs.length + 1
    rw [h.count]
  · have hlen : (x :: xs).length ≠ 0 := by simp
    rw [meanOf, if_neg hlen, Mean.add, h.sum, h.count, List.length_cons, List.sum_cons]
    rw [add_comm xs.sum x]

/-! ## A mean for each key -/

section Table

variable (key : ρ → Option κ) (value : ρ → K)

def Agrees (means : κ → Mean K) (rows : List ρ) : Prop :=
  ∀ k, (means k).Of (scoresOf key value rows k)

/-- A visit leaves the row's score and the means, or gives the row its score and adds it to
its key's mean. -/
def Adds (means : σ → κ → Mean K) (r : ρ) (s : σ) (v : ρ × σ) : Prop :=
  (key v.1 = key r ∧ value v.1 = value r ∧ means v.2 = means s) ∨
  (key r = none ∧ ∃ k, key v.1 = some k ∧
    means v.2 = Function.update (means s) k ((means s k).add (value v.1)))

variable {key value}

theorem Agrees.append {means : κ → Mean K} {rows new : List ρ} (h : Agrees key value means rows)
    (hnew : ∀ r ∈ new, key r = none) : Agrees key value means (rows ++ new) := by
  intro k
  have hnone : scoresOf key value new k = [] := by
    rw [scoresOf, List.map_eq_nil_iff, List.filter_eq_nil_iff]
    intro r hr
    simp [hnew r hr]
  rw [scoresOf_append, hnone, List.append_nil]
  exact h k

theorem Agrees.visit [CharZero K] {means : σ → κ → Mean K} {xs ys : List ρ} {r : ρ} {s : σ}
    {v : ρ × σ} (h : Agrees key value (means s) (xs ++ r :: ys))
    (hv : Adds key value means r s v) : Agrees key value (means v.2) (xs ++ v.1 :: ys) := by
  intro k
  have hk := h k
  rw [scoresOf_append] at hk ⊢
  rcases hv with ⟨hkey, hvalue, hmeans⟩ | ⟨hnone, k', hkey, hmeans⟩
  · rw [hmeans, scoresOf_cons_congr hkey hvalue]
    exact hk
  · have hno : key r ≠ some k := by
      rw [hnone]
      exact fun hno => nomatch hno
    rw [scoresOf_cons_of_ne hno] at hk
    rw [hmeans]
    by_cases heq : k = k'
    · subst heq
      rw [Function.update_self, scoresOf_cons_self hkey]
      exact (hk.add (value v.1)).perm List.perm_middle.symm
    · have hne : key v.1 ≠ some k := by
        rw [hkey]
        exact fun hsome => heq (Option.some.inj hsome).symm
      rw [Function.update_of_ne heq, scoresOf_cons_of_ne hne]
      exact hk

theorem agrees_visitAll [CharZero K] {means : σ → κ → Mean K} {visit : ρ → σ → ρ × σ} :
    ∀ (rows done : List ρ) (s : σ),
      (∀ r ∈ rows, ∀ s, Adds key value means r s (visit r s)) →
      Agrees key value (means s) (done ++ rows) →
      Agrees key value (means (visitAll visit rows s).2)
        (done ++ (visitAll visit rows s).1) := by
  intro rows
  induction rows with
  | nil =>
    intro done s _ h
    exact h
  | cons r rs ih =>
    intro done s hvisit h
    have hone := h.visit (hvisit r List.mem_cons_self s)
    rw [List.append_cons] at hone
    have hrest := ih (done ++ [(visit r s).1]) (visit r s).2
      (fun r' hr' => hvisit r' (List.mem_cons_of_mem _ hr')) hone
    rw [List.append_assoc] at hrest
    exact hrest

end Table

end CephAi.Verified.Means
