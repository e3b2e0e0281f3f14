import Mathlib.Data.List.Sort

/-!
# Ranked lists that are cut before they are filtered

A query ranks the rows, takes the first `n`, and only then a filter picks some of them.  What
is picked depends on the rows that the filter drops: they may push others out of the first
`n`.

## Main results

* `filter_insertionSort` — ranking and filtering commute.
* `picked_eq_iff` — when two lists from which the filter picks the same rows also agree after
  the cut.
-/

namespace CephAi.Verified.Ranking

variable {α : Type _}

/-! ## Ranking -/

section Ranked

variable (r : α → α → Prop) [DecidableRel r]

variable {a : α}

theorem filter_orderedInsert_of_neg {p : α → Bool} (ha : p a = false) (l : List α) :
    (l.orderedInsert r a).filter p = l.filter p := by
  induction l with
  | nil =>
    rw [List.orderedInsert_nil, List.filter_cons_of_neg (by simp [ha])]
  | cons b l ih =>
    rw [List.orderedInsert_cons]
    split_ifs
    · rw [List.filter_cons_of_neg (by simp [ha])]
    · rw [List.filter_cons, List.filter_cons, ih]

variable [IsTrans α r]

omit [IsTrans α r] in
/-- An entry goes before all that it is ranked before. -/
theorem orderedInsert_of_forall {l : List α} (h : ∀ b ∈ l, r a b) :
    l.orderedInsert r a = a :: l := by
  cases l with
  | nil => rfl
  | cons b l => rw [List.orderedInsert_cons, if_pos (h b List.mem_cons_self)]

theorem filter_orderedInsert_of_pos {p : α → Bool} (ha : p a = true) {l : List α}
    (hl : l.Pairwise r) : (l.orderedInsert r a).filter p = (l.filter p).orderedInsert r a := by
  induction l with
  | nil => rw [List.orderedInsert_nil, List.filter_cons_of_pos ha]; rfl
  | cons b l ih =>
    obtain ⟨hb, hl⟩ := List.pairwise_cons.mp hl
    rw [List.orderedInsert_cons]
    by_cases hab : r a b
    · have hall : ∀ c ∈ (b :: l).filter p, r a c := by
        intro c hc
        rcases List.mem_cons.mp (List.mem_of_mem_filter hc) with rfl | hc
        · exact hab
        · exact IsTrans.trans a b c hab (hb c hc)
      rw [if_pos hab, List.filter_cons_of_pos ha, orderedInsert_of_forall r hall]
    · rw [if_neg hab, List.filter_cons, List.filter_cons]
      cases p b with
      | true => rw [if_pos rfl, if_pos rfl, List.orderedInsert_cons, if_neg hab, ih hl]
      | false => rw [if_neg Bool.false_ne_true, if_neg Bool.false_ne_true, ih hl]

variable [Std.Total r]

/-- **Ranking and filtering commute.** -/
theorem filter_insertionSort (p : α → Bool) (l : List α) :
    (l.insertionSort r).filter p = (l.filter p).insertionSort r := by
  induction l with
  | nil => rfl
  | cons a l ih =>
    rw [List.insertionSort_cons, List.filter_cons]
    cases ha : p a with
    | true =>
      rw [if_pos rfl, List.insertionSort_cons, ← ih]
      exact filter_orderedInsert_of_pos r ha (List.pairwise_insertionSort r l)
    | false =>
      rw [if_neg Bool.false_ne_true, ← ih]
      exact filter_orderedInsert_of_neg r ha _

end Ranked

/-! ## The cut -/

/-- What is picked from the first `n`. -/
def picked (n : Nat) (p : α → Bool) (l : List α) : List α := (l.take n).filter p

theorem picked_start (n : Nat) (p : α → Bool) (l : List α) : picked n p l <+: l.filter p :=
  List.IsPrefix.filter p ⟨l.drop n, List.take_append_drop n l⟩

variable {l : List α} {n : Nat} {p : α → Bool}

theorem mem_picked {a : α} : a ∈ picked n p l ↔ a ∈ l.take n ∧ p a = true := List.mem_filter

/-- The cut leaves equally many. -/
theorem picked_eq_iff_length {p' : α → Bool} {l' : List α} (h : l.filter p = l'.filter p') :
    picked n p l = picked n p' l' ↔ (picked n p l).length = (picked n p' l').length := by
  constructor
  · exact congrArg List.length
  · intro hlen
    have hprefix := picked_start n p l
    rw [h] at hprefix
    rw [List.prefix_iff_eq_take.mp hprefix, List.prefix_iff_eq_take.mp (picked_start n p' l'),
      hlen]

/-- **The cut leaves the same** when it leaves each picked entry in both lists or in none. -/
theorem picked_eq_iff [DecidableEq α] {p' : α → Bool} {l' : List α} (h : l.filter p = l'.filter p')
    (hnodup : (l.filter p).Nodup) :
    picked n p l = picked n p' l' ↔
      ∀ a ∈ l.filter p, (l.idxOf a < n ↔ l'.idxOf a < n) := by
  have hleft : ∀ a ∈ l.filter p, (a ∈ picked n p l ↔ l.idxOf a < n) := by
    intro a ha
    obtain ⟨hmem, hp⟩ := List.mem_filter.mp ha
    rw [mem_picked, List.mem_take_iff_idxOf_lt hmem]
    exact and_iff_left hp
  have hright : ∀ a ∈ l.filter p, (a ∈ picked n p' l' ↔ l'.idxOf a < n) := by
    intro a ha
    rw [h] at ha
    obtain ⟨hmem, hp⟩ := List.mem_filter.mp ha
    rw [mem_picked, List.mem_take_iff_idxOf_lt hmem]
    exact and_iff_left hp
  constructor
  · intro heq a ha
    rw [← hleft a ha, ← hright a ha, heq]
  · intro hall
    have hsub := (picked_start n p l).subset
    have hsub' := (picked_start n p' l').subset
    rw [← h] at hsub'
    have hperm : (picked n p l).Perm (picked n p' l') := by
      apply (List.perm_ext_iff_of_nodup _ _).mpr
      · intro a
        constructor
        · intro ha
          exact (hright a (hsub ha)).mpr ((hall a (hsub ha)).mp ((hleft a (hsub ha)).mp ha))
        · intro ha
          exact (hleft a (hsub' ha)).mpr ((hall a (hsub' ha)).mpr ((hright a (hsub' ha)).mp ha))
      · exact hnodup.sublist (picked_start n p l).sublist
      · exact (h ▸ hnodup).sublist (picked_start n p' l').sublist
    exact (picked_eq_iff_length h).mpr hperm.length_eq

end CephAi.Verified.Ranking
