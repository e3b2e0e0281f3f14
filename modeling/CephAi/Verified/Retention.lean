import Mathlib.Data.List.Sort
import Mathlib.Data.List.Nodup
import Mathlib.Data.List.TakeWhile

/-!
# Keep-the-newest retention

A retention sweep sorts a listing newest first, keeps a number of entries and
deletes the rest in order until one deletion is refused.  The sort is stable:
entries of one age stay in listing order.

`sweep` is that procedure over an arbitrary type of entries and an arbitrary
linear order of creation times.  Its one law is `mem_sweep_iff`, which says
what the procedure deletes without mentioning the sort: an entry is judged by
its `standing`, the number of entries that outlive it.

## Main results

* `idxOf_sortNewest` — the place of an entry in the sorted listing is its
  `standing`.
* `filter_sortNewest` — spared entries do not change the order of the others.
* `mem_sweep_iff` — an entry is deleted exactly when it is not spared, its
  standing is past the keep count and no entry from there up to it refuses.
-/

namespace CephAi.Verified.Retention

variable {α κ : Type*} [LinearOrder κ]

/-- `a` may stand before `b` in a newest-first listing. -/
def AtLeastAsNew (created : α → κ) (a b : α) : Prop := created b ≤ created a

instance (created : α → κ) : DecidableRel (AtLeastAsNew created) :=
  fun a b => inferInstanceAs (Decidable (created b ≤ created a))

instance (created : α → κ) : Std.Total (AtLeastAsNew created) :=
  ⟨fun a b => le_total (created b) (created a)⟩

instance (created : α → κ) : IsTrans α (AtLeastAsNew created) :=
  ⟨fun _ _ _ hab hbc => le_trans hbc hab⟩

/-- The listing, newest first; entries of one age keep their order. -/
def sortNewest (created : α → κ) (l : List α) : List α :=
  l.insertionSort (AtLeastAsNew created)

/-- How many entries outlive `x`: those created later, and those of its own
age that are listed before it. -/
def standing [DecidableEq α] (created : α → κ) (l : List α) (x : α) : Nat :=
  l.countP (fun y => decide (created x < created y)) +
    (l.takeWhile (fun y => decide (y ≠ x))).countP
      (fun y => decide (created y = created x))

/-- Sort newest first, leave the spared entries alone, keep `keep` of the
others, then delete in order until one is refused. -/
def sweep (created : α → κ) (spared : α → Bool) (keep : Nat)
    (refuses : α → Bool) (l : List α) : List α :=
  (((sortNewest created l).filter (fun x => !spared x)).drop keep).takeWhile
    (fun x => !refuses x)

/-! ## The place of an entry in the sorted listing -/

section

variable (created : α → κ)

@[simp] theorem mem_sortNewest (l : List α) (x : α) :
    x ∈ sortNewest created l ↔ x ∈ l :=
  List.mem_insertionSort (AtLeastAsNew created)

theorem sortNewest_nodup {l : List α} (h : l.Nodup) :
    (sortNewest created l).Nodup :=
  (List.perm_insertionSort (AtLeastAsNew created) l).nodup_iff.mpr h

theorem sortNewest_pairwise (l : List α) :
    (sortNewest created l).Pairwise (AtLeastAsNew created) :=
  List.pairwise_insertionSort (AtLeastAsNew created) l

private theorem filter_orderedInsert (p : α → Bool) (a : α) :
    ∀ s : List α, s.Pairwise (AtLeastAsNew created) →
      (s.orderedInsert (AtLeastAsNew created) a).filter p =
        if p a then (s.filter p).orderedInsert (AtLeastAsNew created) a
        else s.filter p := by
  intro s
  induction s with
  | nil => intro _; by_cases ha : p a <;> simp [ha]
  | cons b s ih =>
    intro hs
    obtain ⟨hb, hs⟩ := List.pairwise_cons.mp hs
    by_cases h : AtLeastAsNew created a b
    · rw [List.orderedInsert_cons_of_le _ _ h]
      by_cases ha : p a
      · have hfront : ∀ y ∈ (b :: s).filter p, AtLeastAsNew created a y := by
          intro y hy
          rcases List.mem_cons.mp (List.mem_of_mem_filter hy) with rfl | hy
          · exact h
          · exact le_trans (hb y hy) h
        rw [List.filter_cons_of_pos ha, if_pos ha]
        cases hf : (b :: s).filter p with
        | nil => rfl
        | cons c t =>
          have hac := hfront c (by rw [hf]; exact List.mem_cons_self)
          rw [List.orderedInsert_cons_of_le _ _ hac]
      · rw [List.filter_cons_of_neg ha, if_neg ha]
    · rw [List.orderedInsert_of_not_le _ _ h]
      by_cases hpb : p b
      · rw [List.filter_cons_of_pos hpb, List.filter_cons_of_pos hpb, ih hs]
        by_cases ha : p a
        · rw [if_pos ha, if_pos ha, List.orderedInsert_of_not_le _ _ h]
        · rw [if_neg ha, if_neg ha]
      · rw [List.filter_cons_of_neg hpb, List.filter_cons_of_neg hpb, ih hs]

theorem filter_sortNewest (p : α → Bool) :
    ∀ l : List α,
      (sortNewest created l).filter p = sortNewest created (l.filter p) := by
  intro l
  induction l with
  | nil => rfl
  | cons a l ih =>
    have hsort : sortNewest created (a :: l) =
        (sortNewest created l).orderedInsert (AtLeastAsNew created) a := rfl
    rw [hsort, filter_orderedInsert created p a _
      (sortNewest_pairwise created l), ih]
    by_cases ha : p a
    · rw [if_pos ha, List.filter_cons_of_pos ha]; rfl
    · rw [if_neg ha, List.filter_cons_of_neg ha]

end

theorem mem_of_mem_sweep {created : α → κ} {spared : α → Bool} {keep : Nat} {refuses : α → Bool}
    {l : List α} {x : α} (hx : x ∈ sweep created spared keep refuses l) :
    x ∈ l ∧ spared x = false ∧ refuses x = false := by
  have hdrop := (List.takeWhile_sublist _).subset hx
  have hmem := List.mem_filter.mp (List.mem_of_mem_drop hdrop)
  have hrefuse := List.mem_takeWhile_imp hx
  exact ⟨(mem_sortNewest created l x).mp hmem.1, by simpa using hmem.2,
    by simpa using hrefuse⟩

variable [DecidableEq α]

section

variable (created : α → κ)

private theorem idxOf_orderedInsert_self (a : α) :
    ∀ s : List α, s.Pairwise (AtLeastAsNew created) → a ∉ s →
      (s.orderedInsert (AtLeastAsNew created) a).idxOf a =
        s.countP (fun y => decide (created a < created y)) := by
  intro s
  induction s with
  | nil => intro _ _; simp
  | cons b s ih =>
    intro hs ha
    obtain ⟨hb, hs⟩ := List.pairwise_cons.mp hs
    obtain ⟨hab, ha⟩ := not_or.mp (List.mem_cons.not.mp ha)
    by_cases h : AtLeastAsNew created a b
    · rw [List.orderedInsert_cons_of_le _ _ h, List.idxOf_cons_self]
      have hcount : ∀ y ∈ b :: s, ¬ created a < created y := by
        intro y hy
        rcases List.mem_cons.mp hy with rfl | hy
        · exact not_lt.mpr h
        · exact not_lt.mpr (le_trans (hb y hy) h)
      symm
      rw [List.countP_eq_zero]
      intro y hy
      simpa using hcount y hy
    · rw [List.orderedInsert_of_not_le _ _ h,
        List.idxOf_cons_ne _ (Ne.symm hab), ih hs ha, List.countP_cons]
      have hlt : created a < created b := not_le.mp h
      simp [hlt]

private theorem idxOf_orderedInsert_of_ne {a x : α} (hax : a ≠ x) :
    ∀ s : List α, s.Pairwise (AtLeastAsNew created) → x ∈ s →
      (s.orderedInsert (AtLeastAsNew created) a).idxOf x =
        s.idxOf x + if created x ≤ created a then 1 else 0 := by
  intro s
  induction s with
  | nil => intro _ hx; simp at hx
  | cons b s ih =>
    intro hs hx
    obtain ⟨hb, hs⟩ := List.pairwise_cons.mp hs
    by_cases h : AtLeastAsNew created a b
    · rw [List.orderedInsert_cons_of_le _ _ h, List.idxOf_cons_ne _ hax]
      have hle : created x ≤ created a := by
        rcases List.mem_cons.mp hx with rfl | hx
        · exact h
        · exact le_trans (hb x hx) h
      simp [hle]
    · rw [List.orderedInsert_of_not_le _ _ h]
      by_cases hbx : b = x
      · subst hbx
        have hnot : ¬ created b ≤ created a := h
        simp [hnot]
      · have hxs : x ∈ s := by
          rcases List.mem_cons.mp hx with rfl | hx
          · exact absurd rfl hbx
          · exact hx
        rw [List.idxOf_cons_ne _ hbx, List.idxOf_cons_ne _ hbx, ih hs hxs]
        omega

theorem idxOf_sortNewest :
    ∀ l : List α, l.Nodup → ∀ x ∈ l,
      (sortNewest created l).idxOf x = standing created l x := by
  intro l
  induction l with
  | nil => intro _ x hx; simp at hx
  | cons a l ih =>
    intro hnd x hx
    obtain ⟨hal, hnd⟩ := List.nodup_cons.mp hnd
    have hsort : sortNewest created (a :: l) =
        (sortNewest created l).orderedInsert (AtLeastAsNew created) a := rfl
    have hpw := sortNewest_pairwise created l
    rw [hsort]
    by_cases hax : a = x
    · subst hax
      rw [idxOf_orderedInsert_self created a _ hpw (by simpa using hal)]
      have hperm := List.perm_insertionSort (AtLeastAsNew created) l
      simp [standing, sortNewest, hperm.countP_eq]
    · have hxl : x ∈ l := by
        rcases List.mem_cons.mp hx with rfl | hx
        · exact absurd rfl hax
        · exact hx
      rw [idxOf_orderedInsert_of_ne created hax _ hpw (by simpa using hxl),
        ih hnd x hxl]
      simp only [standing, List.countP_cons, List.takeWhile_cons, hax,
        ne_eq, not_false_eq_true, decide_true, if_true]
      rcases lt_trichotomy (created x) (created a) with h | h | h
      · simp [h, h.le, h.ne']; omega
      · simp [h]; omega
      · simp [h.ne, not_lt.mpr h.le, not_le.mpr h]

theorem standing_le_of_newer (l : List α) {a b : α} (h : created a < created b) :
    standing created l b ≤ standing created l a := by
  have hties : (l.takeWhile (fun y => decide (y ≠ b))).countP
      (fun y => decide (created y = created b)) ≤
        l.countP (fun y => decide (created y = created b)) :=
    (List.takeWhile_sublist _).countP_le
  have hnewer : l.countP (fun y => decide (created b < created y)) +
      l.countP (fun y => decide (created y = created b)) ≤
        l.countP (fun y => decide (created a < created y)) := by
    clear hties
    induction l with
    | nil => simp
    | cons c l ih =>
      simp only [List.countP_cons]
      rcases lt_trichotomy (created b) (created c) with hc | hc | hc
      · simp [hc, hc.ne', h.trans hc]; omega
      · simp [← hc, h]; omega
      · simp [hc.ne, not_lt.mpr hc.le]; omega
  unfold standing
  omega

end

/-! ## What a sweep deletes -/

private theorem mem_takeWhile_iff (p : α → Bool) (x : α) :
    ∀ s : List α, x ∈ s.takeWhile p ↔
      x ∈ s ∧ ∀ y ∈ s, s.idxOf y ≤ s.idxOf x → p y = true := by
  intro s
  induction s with
  | nil => simp
  | cons b s ih =>
    by_cases hb : p b = true
    · rw [List.takeWhile_cons_of_pos hb, List.mem_cons, List.mem_cons, ih]
      by_cases hbx : b = x
      · subst hbx
        simp only [true_or, true_and, List.idxOf_cons_self]
        refine iff_of_true trivial ?_
        intro y _ hle
        by_cases hby : b = y
        · exact hby ▸ hb
        · rw [List.idxOf_cons_ne _ hby] at hle
          omega
      · have hxb : x ≠ b := Ne.symm hbx
        simp only [hxb, false_or]
        refine and_congr_right (fun _ => ?_)
        constructor
        · intro h y hy hle
          by_cases hby : b = y
          · exact hby ▸ hb
          · rw [List.idxOf_cons_ne _ hby, List.idxOf_cons_ne _ hbx] at hle
            rcases List.mem_cons.mp hy with rfl | hy
            · exact absurd rfl hby
            · exact h y hy (by omega)
        · intro h y hy hle
          by_cases hby : b = y
          · exact hby ▸ hb
          · refine h y (List.mem_cons_of_mem _ hy) ?_
            rw [List.idxOf_cons_ne _ hby, List.idxOf_cons_ne _ hbx]
            omega
    · rw [List.takeWhile_cons_of_neg hb]
      refine iff_of_false (by simp) ?_
      rintro ⟨_, h⟩
      exact hb (h b List.mem_cons_self (by simp))

private theorem mem_drop_takeWhile_iff (p : α → Bool) (x : α) :
    ∀ (n : Nat) (s : List α), s.Nodup →
      (x ∈ (s.drop n).takeWhile p ↔
        x ∈ s ∧ n ≤ s.idxOf x ∧
          ∀ y ∈ s, n ≤ s.idxOf y → s.idxOf y ≤ s.idxOf x → p y = true) := by
  intro n
  induction n with
  | zero => intro s _; simpa using mem_takeWhile_iff p x s
  | succ n ih =>
    intro s hs
    cases s with
    | nil => simp
    | cons b s =>
      obtain ⟨hbs, hs⟩ := List.nodup_cons.mp hs
      have hne : ∀ y ∈ s, b ≠ y := fun y hy h => hbs (h ▸ hy)
      have hidx : ∀ y ∈ s, (b :: s).idxOf y = s.idxOf y + 1 :=
        fun y hy => List.idxOf_cons_ne _ (hne y hy)
      rw [List.drop_succ_cons, ih s hs]
      constructor
      · rintro ⟨hx, hn, hall⟩
        refine ⟨List.mem_cons_of_mem _ hx, by rw [hidx x hx]; omega, ?_⟩
        intro y hy hny hyx
        rcases List.mem_cons.mp hy with rfl | hy
        · simp at hny
        · rw [hidx y hy] at hny hyx
          rw [hidx x hx] at hyx
          exact hall y hy (by omega) (by omega)
      · rintro ⟨hx, hn, hall⟩
        rcases List.mem_cons.mp hx with rfl | hx
        · simp at hn
        · rw [hidx x hx] at hn
          refine ⟨hx, by omega, ?_⟩
          intro y hy hny hyx
          refine hall y (List.mem_cons_of_mem _ hy) ?_ ?_
          · rw [hidx y hy]; omega
          · rw [hidx y hy, hidx x hx]; omega

/-- The entries a sweep may touch at all. -/
def unspared (spared : α → Bool) (l : List α) : List α :=
  l.filter (fun x => !spared x)

/-- **What a sweep deletes.**  Among the entries that are not spared, one goes
when its standing is past the keep count and nothing from the keep count up to
it refuses. -/
theorem mem_sweep_iff (created : α → κ) (spared : α → Bool) (keep : Nat)
    (refuses : α → Bool) (l : List α) (hl : l.Nodup) (x : α) :
    x ∈ sweep created spared keep refuses l ↔
      x ∈ unspared spared l ∧
        keep ≤ standing created (unspared spared l) x ∧
        ∀ y ∈ unspared spared l,
          keep ≤ standing created (unspared spared l) y →
          standing created (unspared spared l) y ≤
            standing created (unspared spared l) x →
          refuses y = false := by
  have hnd : (unspared spared l).Nodup := hl.filter _
  have hidx := idxOf_sortNewest created (unspared spared l) hnd
  rw [sweep, filter_sortNewest, ← unspared,
    mem_drop_takeWhile_iff _ _ _ _ (sortNewest_nodup created hnd),
    mem_sortNewest]
  refine and_congr_right (fun hx => ?_)
  rw [hidx x hx]
  refine and_congr_right (fun _ => ?_)
  constructor
  · intro h y hy hky hyx
    have hp := h y (by simpa using hy) (by rwa [hidx y hy])
      (by rwa [hidx y hy])
    simpa using hp
  · intro h y hy hky hyx
    rw [mem_sortNewest] at hy
    rw [hidx y hy] at hky hyx
    simpa using h y hy hky hyx

end CephAi.Verified.Retention
