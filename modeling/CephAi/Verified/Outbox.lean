import Mathlib.Data.List.Nodup

/-!
# Messages that are queued once

A queue takes a message under its name, and takes each name once: a message whose name it
has had is dropped.  Names that were taken are never given back.

## Main results

* `enqueueAll_eq_append_iff` — a batch is queued whole exactly when its names differ from each
  other and from those that were taken.
-/

namespace CephAi.Verified.Outbox

variable {ε : Type _} [DecidableEq ε]

/-- Queue a message, when its name is new. -/
def enqueue (taken : List ε) (e : ε) : List ε :=
  if e ∈ taken then taken else taken ++ [e]

/-- Queue the messages in turn. -/
def enqueueAll (taken : List ε) (es : List ε) : List ε := es.foldl enqueue taken

@[simp] theorem mem_enqueue {taken : List ε} {e e' : ε} :
    e' ∈ enqueue taken e ↔ e' ∈ taken ∨ e' = e := by
  unfold enqueue
  by_cases h : e ∈ taken
  · rw [if_pos h]
    constructor
    · exact Or.inl
    · rintro (h' | rfl)
      · exact h'
      · exact h
  · rw [if_neg h, List.mem_append, List.mem_singleton]

theorem length_enqueue_le (taken : List ε) (e : ε) :
    (enqueue taken e).length ≤ taken.length + 1 := by
  unfold enqueue
  split
  · omega
  · simp

@[simp] theorem mem_enqueueAll {taken es : List ε} {e : ε} :
    e ∈ enqueueAll taken es ↔ e ∈ taken ∨ e ∈ es := by
  induction es generalizing taken with
  | nil => simp [enqueueAll]
  | cons e' es ih =>
    show e ∈ enqueueAll (enqueue taken e') es ↔ _
    rw [ih, mem_enqueue, List.mem_cons, or_assoc]

theorem length_enqueueAll_le (taken es : List ε) :
    (enqueueAll taken es).length ≤ taken.length + es.length := by
  induction es generalizing taken with
  | nil => exact Nat.le_refl _
  | cons e es ih =>
    show (enqueueAll (enqueue taken e) es).length ≤ _
    have hone := length_enqueue_le taken e
    have hrest := ih (enqueue taken e)
    rw [List.length_cons]
    omega

/-- **A batch is queued whole** exactly when its names are new and differ. -/
theorem enqueueAll_eq_append_iff (taken es : List ε) :
    enqueueAll taken es = taken ++ es ↔ es.Nodup ∧ ∀ e ∈ es, e ∉ taken := by
  induction es generalizing taken with
  | nil => simp [enqueueAll]
  | cons e es ih =>
    show enqueueAll (enqueue taken e) es = _ ↔ _
    by_cases he : e ∈ taken
    · -- the message is dropped, and the queue stays too short
      constructor
      · intro h
        have hlength := length_enqueueAll_le (enqueue taken e) es
        rw [h, enqueue, if_pos he, List.length_append, List.length_cons] at hlength
        omega
      · intro h
        exact absurd he (h.2 e List.mem_cons_self)
    · have hone : enqueue taken e = taken ++ [e] := if_neg he
      have hmem : ∀ e', e' ∉ taken ++ [e] ↔ e' ∉ taken ∧ e' ≠ e := by
        intro e'
        simp
      rw [hone, show taken ++ e :: es = taken ++ [e] ++ es by simp, ih, List.nodup_cons]
      constructor
      · intro h
        refine ⟨⟨fun he' => ((hmem e).mp (h.2 e he')).2 rfl, h.1⟩, ?_⟩
        intro e' he'
        cases List.mem_cons.mp he' with
        | inl heq => exact heq ▸ he
        | inr he' => exact ((hmem e').mp (h.2 e' he')).1
      · intro h
        refine ⟨h.1.2, fun e' he' => (hmem e').mpr ⟨h.2 e' (List.mem_cons_of_mem e he'), ?_⟩⟩
        rintro rfl
        exact h.1.1 he'

end CephAi.Verified.Outbox
