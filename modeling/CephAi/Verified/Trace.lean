import Mathlib.Data.List.Basic

/-!
# Commands issued one after another

A trace is what a program has issued, and how it ended: it goes on, or it failed
with an error.  What follows a failure is not issued.

## Main results

* `mem_issued_andThen` — what a sequence issues.
* `forEach_ok_iff`, `mem_issued_forEach` — when a loop goes through, and what it
  issues.
* `issued_of_mem_second` — what comes before a command of a later part.
-/

namespace CephAi.Verified

/-- What was issued, and the error that stopped it. -/
structure Trace (κ ε : Type _) where
  issued : List κ
  error : Option ε

namespace Trace

variable {κ ε α : Type _}

/-- Nothing is issued. -/
def done : Trace κ ε := ⟨[], none⟩

/-- Stop with an error. -/
def fail (e : ε) : Trace κ ε := ⟨[], some e⟩

/-- Issue one command, which may fail. -/
def issue (c : κ) (e : Option ε) : Trace κ ε := ⟨[c], e⟩

/-- One part after another. -/
def andThen (t u : Trace κ ε) : Trace κ ε :=
  match t.error with
  | some e => ⟨t.issued, some e⟩
  | none => ⟨t.issued ++ u.issued, u.error⟩

/-- A part for each of a list. -/
def forEach (xs : List α) (f : α → Trace κ ε) : Trace κ ε :=
  xs.foldr (fun x t => (f x).andThen t) done

@[simp] theorem forEach_nil (f : α → Trace κ ε) : forEach [] f = done := rfl

@[simp] theorem forEach_cons (x : α) (xs : List α) (f : α → Trace κ ε) :
    forEach (x :: xs) f = (f x).andThen (forEach xs f) := rfl

/-- A sequence goes through when both parts do. -/
theorem andThen_ok_iff (t u : Trace κ ε) :
    (t.andThen u).error = none ↔ t.error = none ∧ u.error = none := by
  unfold andThen
  cases t.error with
  | none => simp
  | some e => simp

variable {c : κ} {f : α → Trace κ ε} {xs : List α}

theorem mem_issued_andThen (t u : Trace κ ε) :
    c ∈ (t.andThen u).issued ↔
      c ∈ t.issued ∨ t.error = none ∧ c ∈ u.issued := by
  unfold andThen
  cases t.error with
  | none => simp
  | some e => simp

/-- A loop goes through when each of its parts does. -/
theorem forEach_ok_iff (xs : List α) (f : α → Trace κ ε) :
    (forEach xs f).error = none ↔ ∀ x ∈ xs, (f x).error = none := by
  induction xs with
  | nil => simp [done]
  | cons x xs ih => rw [forEach_cons, andThen_ok_iff, ih, List.forall_mem_cons]

theorem mem_issued_forEach (h : c ∈ (forEach xs f).issued) : ∃ x ∈ xs, c ∈ (f x).issued := by
  induction xs with
  | nil => cases h
  | cons x xs ih =>
    rw [forEach_cons, mem_issued_andThen] at h
    cases h with
    | inl hx => exact ⟨x, List.mem_cons_self, hx⟩
    | inr hxs =>
      obtain ⟨y, hy, hc⟩ := ih hxs.2
      exact ⟨y, List.mem_cons_of_mem x hy, hc⟩

theorem mem_issued_forEach_head {x : α} (h : c ∈ (f x).issued) :
    c ∈ (forEach (x :: xs) f).issued := by
  rw [forEach_cons, mem_issued_andThen]
  exact Or.inl h

theorem mem_issued_forEach_of_ok {x : α} (hok : (forEach xs f).error = none) (hx : x ∈ xs)
    (hc : c ∈ (f x).issued) : c ∈ (forEach xs f).issued := by
  induction xs with
  | nil => cases hx
  | cons y xs ih =>
    rw [forEach_cons, andThen_ok_iff] at hok
    rw [forEach_cons, mem_issued_andThen]
    cases hx with
    | head => exact Or.inl hc
    | tail _ hx => exact Or.inr ⟨hok.1, ih hok.2 hx⟩

theorem issued_of_mem_second {p : κ → Bool} {t u : Trace κ ε} {pre post : List κ}
    (hfirst : ∀ c ∈ t.issued, p c = false) (h : (t.andThen u).issued = pre ++ c :: post)
    (hc : p c = true) : t.error = none ∧ ∀ d ∈ t.issued, d ∈ pre := by
  unfold andThen at h
  cases herror : t.error with
  | some e =>
    simp only [herror] at h
    have hmem : c ∈ t.issued := by simp [h]
    rw [hfirst c hmem] at hc
    cases hc
  | none =>
    simp only [herror] at h
    refine ⟨rfl, ?_⟩
    intro d hd
    rcases List.append_eq_append_iff.mp h with ⟨mid, hpre, _⟩ | ⟨mid, hissued, hmid⟩
    · rw [hpre]
      exact List.mem_append_left mid hd
    · cases mid with
      | nil =>
        rw [hissued, List.append_nil] at hd
        exact hd
      | cons e mid =>
        have heq := (List.cons.inj hmid).1
        have hmem : c ∈ t.issued := by simp [hissued, heq]
        rw [hfirst c hmem] at hc
        cases hc

end Trace

end CephAi.Verified
