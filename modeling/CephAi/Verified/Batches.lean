import Mathlib.Data.List.Induction

/-!
# One transaction for many items

Items are handled one after another; each one is accepted with a new state, or refused.  Handled
each in a transaction of its own, a refused item leaves the state as it was.  In one transaction
for all of them that is rolled back on a refusal, it takes what the items before it have done
along.

## Main results

* `handled_eq_each` — the two agree where nothing was pending at a refusal.
* `untouched_iff` — a refused item leaves the transaction as it was exactly there.
-/

namespace CephAi.Verified.Batches

variable {σ α ε : Type _} (handle : σ → α → Except ε σ)

/-- The item is refused in this state. -/
def Refused (s : σ) (a : α) : Prop := ∃ e, handle s a = .error e

/-- The item in a transaction of its own. -/
def alone (s : σ) (a : α) : σ :=
  match handle s a with
  | .ok s' => s'
  | .error _ => s

/-- The item in a transaction that began in `s₀`. -/
def pending (s₀ s : σ) (a : α) : σ :=
  match handle s a with
  | .ok s' => s'
  | .error _ => s₀

/-- The items, each in a transaction of its own. -/
def each (s : σ) (as : List α) : σ := as.foldl (alone handle) s

/-- The items in a transaction that began in `s₀`, as it stands after them. -/
def handled (s₀ : σ) (as : List α) : σ := as.foldl (pending handle s₀) s₀

/-- Nothing is pending where an item is refused. -/
def CleanAtRefusals (s₀ : σ) (as : List α) : Prop :=
  ∀ before a after, as = before ++ a :: after → Refused handle (each handle s₀ before) a →
    each handle s₀ before = s₀

/-- A refused item leaves the transaction as it was. -/
def Untouched (s₀ : σ) (as : List α) : Prop :=
  ∀ before a after, as = before ++ a :: after → Refused handle (handled handle s₀ before) a →
    handled handle s₀ (before ++ [a]) = handled handle s₀ before

variable {handle}

variable {a : α} {s : σ}

theorem alone_of_refused (h : Refused handle s a) : alone handle s a = s := by
  obtain ⟨e, he⟩ := h
  unfold alone
  rw [he]

variable {as : List α} {s₀ : σ}

theorem pending_of_refused (h : Refused handle s a) : pending handle s₀ s a = s₀ := by
  obtain ⟨e, he⟩ := h
  unfold pending
  rw [he]

/-- An item that is accepted is the same in both. -/
theorem pending_of_not_refused (h : ¬Refused handle s a) :
    pending handle s₀ s a = alone handle s a := by
  unfold pending alone
  cases hs : handle s a with
  | ok s' => rfl
  | error e => exact absurd ⟨e, hs⟩ h

theorem each_concat (s : σ) (as : List α) (a : α) :
    each handle s (as ++ [a]) = alone handle (each handle s as) a := by
  unfold each
  rw [List.foldl_append]
  rfl

theorem handled_concat (s₀ : σ) (as : List α) (a : α) :
    handled handle s₀ (as ++ [a]) = pending handle s₀ (handled handle s₀ as) a := by
  unfold handled
  rw [List.foldl_append]
  rfl

theorem CleanAtRefusals.of_append {bs : List α} (h : CleanAtRefusals handle s₀ (as ++ bs)) :
    CleanAtRefusals handle s₀ as := by
  intro before a after has
  apply h before a (after ++ bs)
  rw [has, List.append_assoc]
  rfl

theorem Untouched.of_append {bs : List α} (h : Untouched handle s₀ (as ++ bs)) :
    Untouched handle s₀ as := by
  intro before a after has
  apply h before a (after ++ bs)
  rw [has, List.append_assoc]
  rfl

theorem handled_eq_each (h : CleanAtRefusals handle s₀ as) :
    handled handle s₀ as = each handle s₀ as := by
  induction as using List.reverseRecOn with
  | nil => rfl
  | append_singleton as a ih =>
    rw [handled_concat, each_concat, ih h.of_append]
    by_cases hrefused : Refused handle (each handle s₀ as) a
    · have hclean := h as a [] rfl hrefused
      rw [pending_of_refused hrefused, alone_of_refused hrefused, hclean]
    · exact pending_of_not_refused hrefused

/-- The same where no refused item touches the transaction. -/
theorem handled_eq_each_of_untouched (h : Untouched handle s₀ as) :
    handled handle s₀ as = each handle s₀ as := by
  induction as using List.reverseRecOn with
  | nil => rfl
  | append_singleton as a ih =>
    have hbefore := ih h.of_append
    by_cases hrefused : Refused handle (handled handle s₀ as) a
    · rw [h as a [] rfl hrefused, each_concat, ← hbefore, alone_of_refused hrefused]
    · rw [handled_concat, each_concat, ← hbefore, pending_of_not_refused hrefused]

/-- A refused item leaves the transaction as it was exactly where nothing is pending when one is
refused. -/
theorem untouched_iff : Untouched handle s₀ as ↔ CleanAtRefusals handle s₀ as := by
  constructor
  · intro h before a after has hrefused
    have hbefore : Untouched handle s₀ before := by
      rw [has] at h
      exact h.of_append
    rw [← handled_eq_each_of_untouched hbefore] at hrefused ⊢
    have hsame := h before a after has hrefused
    rw [handled_concat, pending_of_refused hrefused] at hsame
    exact hsame.symm
  · intro h before a after has hrefused
    have hbefore : CleanAtRefusals handle s₀ before := by
      rw [has] at h
      exact h.of_append
    rw [handled_concat, pending_of_refused hrefused]
    rw [handled_eq_each hbefore] at hrefused ⊢
    exact (h before a after has hrefused).symm

end CephAi.Verified.Batches
