import Mathlib.Algebra.BigOperators.Field
import Mathlib.Algebra.BigOperators.Fin
import Mathlib.Algebra.BigOperators.Ring.List
import Mathlib.Algebra.Order.Chebyshev
import Mathlib.Tactic.Ring

/-!
# Independent draws from finite distributions

One draw for each of a list of contexts, each from a finite set of outcomes with known
probabilities.  `expect` sums a statistic over all sequences of outcomes, weighted by the products
of their probabilities; of a statistic that adds up over the draws it is the sum of the
expectations of the single draws.

## Main results

* `expect_sum` — the expectation of a sum over the draws.
* `sq_sum_le_length_mul` — the square of a sum of `n` numbers is at most `n` times the sum of
  their squares.
* `weighted_mean_bounds` — a weighted mean lies between two of the values that have weight.
-/

namespace CephAi.Verified.Sampling

/-- For each context the outcomes that can be drawn, with their probabilities. -/
structure Sampler (X A : Type _) where
  outcomes : X → Finset A
  prob : X → A → ℚ
  total : ∀ x, ∑ a ∈ outcomes x, prob x a = 1

variable {X A B : Type _} (S : Sampler X A)

/-- The expectation of `f` over one draw for each context, where `item x a` is what is kept of
the draw of `a` for `x`. -/
def expect (item : X → A → B) : List X → (List B → ℚ) → ℚ
  | [], f => f []
  | x :: xs, f =>
    ∑ a ∈ S.outcomes x, S.prob x a * expect item xs fun items => f (item x a :: items)

/-- What can be drawn for the contexts. -/
inductive Drawn (item : X → A → B) : List X → List B → Prop
  | nil : Drawn item [] []
  | cons {x : X} {a : A} {xs : List X} {items : List B} (ha : a ∈ S.outcomes x)
      (hitems : Drawn item xs items) : Drawn item (x :: xs) (item x a :: items)

theorem Drawn.length_eq {S : Sampler X A} {item : X → A → B} {xs : List X} {items : List B}
    (h : Drawn S item xs items) : items.length = xs.length := by
  induction h with
  | nil => rfl
  | cons _ _ ih => rw [List.length_cons, List.length_cons, ih]

section

variable (item : X → A → B)

/-- Statistics that agree on what can be drawn have one expectation. -/
theorem expect_congr {xs : List X} {f g : List B → ℚ}
    (h : ∀ items, Drawn S item xs items → f items = g items) :
    expect S item xs f = expect S item xs g := by
  induction xs generalizing f g with
  | nil => exact h [] .nil
  | cons x xs ih =>
    refine Finset.sum_congr rfl fun a ha => ?_
    rw [ih fun items hitems => h (item x a :: items) (.cons ha hitems)]

theorem expect_const_add (xs : List X) (c : ℚ) (f : List B → ℚ) :
    expect S item xs (fun items => c + f items) = c + expect S item xs f := by
  induction xs generalizing f with
  | nil => rfl
  | cons x xs ih =>
    have hsplit : ∀ a, S.prob x a * expect S item xs (fun items => c + f (item x a :: items)) =
        S.prob x a * c + S.prob x a * expect S item xs fun items => f (item x a :: items) := by
      intro a
      rw [ih fun items => f (item x a :: items)]
      ring
    show ∑ a ∈ S.outcomes x, S.prob x a * _ = _
    simp only [hsplit]
    rw [Finset.sum_add_distrib, ← Finset.sum_mul, S.total, one_mul]
    rfl

/-- **The expectation of a sum** over the draws is the sum of the expectations. -/
theorem expect_sum (g : B → ℚ) (xs : List X) :
    expect S item xs (fun items => (items.map g).sum) =
      (xs.map fun x => ∑ a ∈ S.outcomes x, S.prob x a * g (item x a)).sum := by
  induction xs with
  | nil => rfl
  | cons x xs ih =>
    show ∑ a ∈ S.outcomes x, S.prob x a * _ = _
    simp only [List.map_cons, List.sum_cons, expect_const_add, ih, mul_add]
    rw [Finset.sum_add_distrib, ← Finset.sum_mul, S.total, one_mul]

theorem expect_div (f : List B → ℚ) (c : ℚ) (xs : List X) :
    expect S item xs (fun items => f items / c) = expect S item xs f / c := by
  induction xs generalizing f with
  | nil => rfl
  | cons x xs ih =>
    show ∑ a ∈ S.outcomes x, S.prob x a * _ = (∑ a ∈ S.outcomes x, S.prob x a * _) / c
    rw [Finset.sum_div]
    refine Finset.sum_congr rfl fun a _ => ?_
    rw [ih fun items => f (item x a :: items), mul_div_assoc]

end

/-! ## Weighted lists -/

theorem sq_sum_le_length_mul (ws : List ℚ) :
    ws.sum ^ 2 ≤ ws.length * (ws.map fun w => w * w).sum := by
  have h := sq_sum_le_card_mul_sum_sq (s := Finset.univ) (f := fun i : Fin ws.length => ws[i])
  have hsum : ∑ i : Fin ws.length, ws[i] = ws.sum := by
    rw [← List.sum_ofFn]
    exact congrArg List.sum List.ofFn_getElem
  have hsquares : ∑ i : Fin ws.length, ws[i] ^ 2 = (ws.map fun w => w * w).sum := by
    have hofFn : (List.ofFn fun i : Fin ws.length => ws[i] ^ 2) = ws.map fun w => w * w := by
      apply List.ext_getElem
      · rw [List.length_ofFn, List.length_map]
      · intro i _ _
        rw [List.getElem_ofFn, List.getElem_map, sq]
        rfl
    rw [← List.sum_ofFn, hofFn]
  rw [hsum, hsquares, Finset.card_univ, Fintype.card_fin] at h
  exact h

/-- A sum of weighted values is at most the largest weighted value times the weights. -/
theorem weighted_sum_le {items : List B} {weight : B → ℚ} {v : B → ℚ} {m : ℚ}
    (hweight : ∀ b ∈ items, 0 ≤ weight b) (hm : ∀ b ∈ items, 0 < weight b → v b ≤ m) :
    (items.map fun b => weight b * v b).sum ≤ m * (items.map weight).sum := by
  induction items with
  | nil => simp
  | cons b items ih =>
    have hrest := ih (fun c hc => hweight c (List.mem_cons_of_mem b hc))
      (fun c hc => hm c (List.mem_cons_of_mem b hc))
    have hhead : weight b * v b ≤ m * weight b := by
      rcases (hweight b List.mem_cons_self).lt_or_eq with hpos | hzero
      · rw [mul_comm m]
        exact mul_le_mul_of_nonneg_left (hm b List.mem_cons_self hpos) hpos.le
      · rw [← hzero, zero_mul, mul_zero]
    rw [List.map_cons, List.sum_cons, List.map_cons, List.sum_cons, mul_add]
    exact add_le_add hhead hrest

/-- **A weighted mean lies between** two of the values that have weight. -/
theorem weighted_mean_bounds {items : List B} {weight value : B → ℚ}
    (hweight : ∀ b ∈ items, 0 ≤ weight b) (hne : (items.map weight).sum ≠ 0) :
    (∃ b ∈ items, 0 < weight b ∧
      value b ≤ (items.map fun b => weight b * value b).sum / (items.map weight).sum) ∧
    ∃ b ∈ items, 0 < weight b ∧
      (items.map fun b => weight b * value b).sum / (items.map weight).sum ≤ value b := by
  have hpos : 0 < (items.map weight).sum :=
    lt_of_le_of_ne (List.sum_nonneg (by simpa using hweight)) hne.symm
  have hheavy : items.filter (fun b => decide (0 < weight b)) ≠ [] := by
    intro hnone
    have hsum := weighted_sum_le (v := fun _ => 1) (m := 0) hweight fun b hb hlt =>
      absurd (hnone ▸ List.mem_filter.mpr ⟨hb, decide_eq_true hlt⟩) List.not_mem_nil
    simp only [mul_one, zero_mul] at hsum
    exact absurd hsum (not_le.mpr hpos)
  have hmem : ∀ b ∈ items, 0 < weight b →
      b ∈ (items.filter fun b => decide (0 < weight b) : Multiset B) := fun b hb hw =>
    List.mem_filter.mpr ⟨hb, decide_eq_true hw⟩
  constructor
  · obtain ⟨b, hb, hmin⟩ := Multiset.exists_min_image value
      (s := (items.filter fun b => decide (0 < weight b) : Multiset B)) (by simpa using hheavy)
    obtain ⟨hitem, hw⟩ := List.mem_filter.mp hb
    refine ⟨b, hitem, of_decide_eq_true hw, (le_div_iff₀ hpos).mpr ?_⟩
    have hsum := weighted_sum_le (v := fun b => -value b) (m := -value b) hweight
      fun c hc hwc => neg_le_neg (hmin c (hmem c hc hwc))
    have hneg : (items.map fun b => weight b * -value b).sum =
        -(items.map fun b => weight b * value b).sum := by
      rw [← neg_one_mul, ← List.sum_map_mul_left]
      simp only [mul_neg, neg_mul, one_mul]
    rw [hneg, neg_mul] at hsum
    exact neg_le_neg_iff.mp hsum
  · obtain ⟨b, hb, hmax⟩ := Multiset.exists_max_image value
      (s := (items.filter fun b => decide (0 < weight b) : Multiset B)) (by simpa using hheavy)
    obtain ⟨hitem, hw⟩ := List.mem_filter.mp hb
    exact ⟨b, hitem, of_decide_eq_true hw, (div_le_iff₀ hpos).mpr
      (weighted_sum_le hweight fun c hc hwc => hmax c (hmem c hc hwc))⟩

end CephAi.Verified.Sampling
