import Mathlib.Order.SuccPred.Basic
import Mathlib.Order.Interval.Set.Defs

/-!
# Windows over time

A list of closed windows, the newest first, and how far they cover time without a
gap.  Windows that end in the order in which they are opened cover an interval that
begins at a given instant exactly up to `firstUncovered`, which one pass over the
list computes.

## Main results

* `not_covered_firstUncovered` — the first uncovered instant is uncovered.
* `covered_before_iff` — an interval is covered exactly when it ends by then.
-/

namespace CephAi.Verified.Windows

/-- A window of instants, both ends included. -/
structure Window (α : Type _) where
  start : α
  finish : α
deriving DecidableEq, Repr

section Order

variable {α : Type _} [LinearOrder α]

/-- Some window has the instant. -/
def Covered (windows : List (Window α)) (t : α) : Prop :=
  ∃ w ∈ windows, t ∈ Set.Icc w.start w.finish

/-- No window ends before an older one. -/
def Ordered (windows : List (Window α)) : Prop :=
  windows.Pairwise fun new old => old.finish ≤ new.finish

@[simp] theorem not_covered_nil (t : α) : ¬ Covered ([] : List (Window α)) t := by
  rintro ⟨w, hw, _⟩
  cases hw

theorem covered_cons (w : Window α) (windows : List (Window α)) (t : α) :
    Covered (w :: windows) t ↔ (w.start ≤ t ∧ t ≤ w.finish) ∨ Covered windows t := by
  simp only [Covered, List.mem_cons, exists_eq_or_imp, Set.mem_Icc]

theorem Covered.of_cons_of_lt {w : Window α} {windows : List (Window α)} {t : α}
    (h : Covered (w :: windows) t) (ht : t < w.start) : Covered windows t := by
  rcases (covered_cons w windows t).mp h with hnew | hold
  · exact absurd hnew.1 (not_le.mpr ht)
  · exact hold

end Order

section Succ

variable {α : Type _} [LinearOrder α] [SuccOrder α]

/-- The first instant from `start` on that no window covers. -/
def firstUncovered (start : α) : List (Window α) → α
  | [] => start
  | w :: older =>
    if w.start ≤ firstUncovered start older then
      max (firstUncovered start older) (Order.succ w.finish)
    else firstUncovered start older

theorem le_firstUncovered (start : α) (windows : List (Window α)) :
    start ≤ firstUncovered start windows := by
  induction windows with
  | nil => exact le_refl start
  | cons w older ih =>
    unfold firstUncovered
    split_ifs
    · exact le_trans ih (le_max_left _ _)
    · exact ih

variable [NoMaxOrder α]

theorem covered_of_lt_firstUncovered (start t : α) (hstart : start ≤ t) :
    ∀ windows : List (Window α), t < firstUncovered start windows → Covered windows t := by
  intro windows
  induction windows with
  | nil =>
    intro ht
    exact absurd hstart (not_le.mpr ht)
  | cons w older ih =>
    intro ht
    rw [covered_cons]
    by_cases hold : t < firstUncovered start older
    · exact Or.inr (ih hold)
    · unfold firstUncovered at ht
      split_ifs at ht with hreach
      · rcases lt_max_iff.mp ht with hbefore | hnew
        · exact absurd hbefore hold
        · exact Or.inl ⟨le_trans hreach (not_lt.mp hold), Order.lt_succ_iff.mp hnew⟩
      · exact absurd ht hold

/-- **The first uncovered instant is uncovered.** -/
theorem not_covered_firstUncovered (start : α) (windows : List (Window α))
    (h : Ordered windows) : ¬ Covered windows (firstUncovered start windows) := by
  induction windows with
  | nil => exact not_covered_nil start
  | cons w older ih =>
    obtain ⟨hends, hrest⟩ := List.pairwise_cons.mp h
    rw [covered_cons]
    unfold firstUncovered
    split_ifs with hreach
    · rintro (⟨_, hle⟩ | ⟨v, hv, _, hle⟩)
      · exact absurd (le_trans (le_max_right _ _) hle) (not_le.mpr (Order.lt_succ w.finish))
      · -- an older window ends before the successor of the newer one's end
        have hbefore := le_trans hle (hends v hv)
        exact absurd (le_trans (le_max_right _ _) hbefore) (not_le.mpr (Order.lt_succ w.finish))
    · rintro (⟨hle, _⟩ | hold)
      · exact hreach hle
      · exact ih hrest hold

/-- **An interval from `start` is covered exactly when it ends by the first uncovered
instant.** -/
theorem covered_before_iff (start finish : α) (windows : List (Window α)) (h : Ordered windows) :
    (∀ t, start ≤ t → t < finish → Covered windows t) ↔
      finish ≤ firstUncovered start windows := by
  constructor
  · intro hcovered
    by_contra hlt
    exact not_covered_firstUncovered start windows h
      (hcovered _ (le_firstUncovered start windows) (not_le.mp hlt))
  · intro hle t hstart ht
    exact covered_of_lt_firstUncovered start t hstart windows (lt_of_lt_of_le ht hle)

end Succ

end CephAi.Verified.Windows
