import Mathlib.Algebra.Order.Monoid.Defs
import Mathlib.Data.List.Basic

/-!
# Events in a moving window

The times of events, the newest first, and how many of them fall into a window of a given
span, wherever it begins.

## Main results

* `within_cons` — a new event keeps the bound when fewer events are recent.
-/

namespace CephAi.Verified.RateWindow

variable {α : Type _} [LinearOrder α] [Add α]

/-- The events from `start` to `start + span`. -/
def inWindow (span start : α) (times : List α) : List α :=
  times.filter fun t => start ≤ t ∧ t ≤ start + span

/-- The events that are no older than `span` at `now`. -/
def recent (span now : α) (times : List α) : List α :=
  times.filter fun t => now ≤ t + span

/-- No window has more than `bound` events. -/
def Within (bound : Nat) (span : α) (times : List α) : Prop :=
  ∀ start, (inWindow span start times).length ≤ bound

theorem within_nil (bound : Nat) (span : α) : Within bound span ([] : List α) :=
  fun _ => Nat.zero_le bound

theorem inWindow_sublist_recent [AddRightMono α] {span start now : α} {times : List α}
    (hend : now ≤ start + span) : (inWindow span start times).Sublist (recent span now times) := by
  unfold inWindow recent
  apply List.monotone_filter_right
  intro t ht
  rw [decide_eq_true_eq] at ht ⊢
  exact le_trans hend (add_le_add_left ht.1 span)

/-- **A new event keeps the bound when fewer events are recent.** -/
theorem within_cons [AddRightMono α] {bound : Nat} {span now : α} {times : List α}
    (h : Within bound span times) (hrecent : (recent span now times).length < bound) :
    Within bound span (now :: times) := by
  intro start
  have hold := h start
  unfold inWindow at hold ⊢
  rw [List.filter_cons]
  split_ifs with hnow
  · rw [decide_eq_true_eq] at hnow
    have hsub : (inWindow span start times).Sublist (recent span now times) :=
      inWindow_sublist_recent hnow.2
    have hle := hsub.length_le
    unfold inWindow at hle
    rw [List.length_cons]
    omega
  · exact hold

end CephAi.Verified.RateWindow
