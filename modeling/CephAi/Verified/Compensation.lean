import Mathlib.Data.List.Basic

/-!
# Compensation

A set is changed by adding elements, and what was added is undone later from a
record of it.  `Owed live base owed` says that `live` is `base` with some
elements of `owed`, all new, added; nothing of `base` is ever owed, so undoing
what is owed never touches it.

## Main results

* `Owed.add`, `Owed.remove`, `Owed.removeAll`, `Owed.present` — how what is owed
  changes with the set.
* `Owed.restored` — when nothing is owed, the set is what it was.
-/

namespace CephAi.Verified.Compensation

variable {α : Type _} {live base owed : List α} {x : α}

/-- Every element that was there still is. -/
def Keeps (live base : List α) : Prop := ∀ x ∈ base, x ∈ live

/-- What was added to `base` and is to be undone. -/
structure Owed (live base owed : List α) : Prop where
  kept : Keeps live base
  only : ∀ x ∈ live, x ∈ base ∨ x ∈ owed
  new : ∀ x ∈ owed, x ∉ base

theorem Owed.refl (base : List α) : Owed base base [] where
  kept := fun _ h => h
  only := fun _ h => Or.inl h
  new := by simp

theorem Owed.restored (h : Owed live base []) (x : α) : x ∈ live ↔ x ∈ base := by
  constructor
  · intro hx
    cases h.only x hx with
    | inl hbase => exact hbase
    | inr howed => cases howed
  · exact h.kept x

variable {xs : List α} {y : α}

theorem Owed.present (h : Owed live base owed) (hall : ∀ x ∈ owed, x ∈ live → x ∈ xs)
    (hxs : ∀ x ∈ xs, x ∉ base) :
    Owed live base xs where
  kept := h.kept
  only := by
    intro y hy
    cases h.only y hy with
    | inl hbase => exact Or.inl hbase
    | inr howed => exact Or.inr (hall y howed hy)
  new := hxs

variable [DecidableEq α]

/-- Add an element. -/
def add (live : List α) (x : α) : List α := if x ∈ live then live else live ++ [x]

/-- Remove an element. -/
def remove (live : List α) (x : α) : List α := live.filter (· != x)

/-- Remove some elements. -/
def removeAll (live xs : List α) : List α := live.filter (fun x => !xs.contains x)

theorem mem_add : y ∈ add live x ↔ y ∈ live ∨ y = x := by
  unfold add
  split_ifs with h
  · constructor
    · exact Or.inl
    · intro hy
      cases hy with
      | inl hy => exact hy
      | inr hy => exact hy ▸ h
  · simp

theorem mem_remove : y ∈ remove live x ↔ y ∈ live ∧ y ≠ x := by
  simp [remove]

theorem mem_removeAll : y ∈ removeAll live xs ↔ y ∈ live ∧ y ∉ xs := by
  simp [removeAll]

theorem Keeps.add (h : Keeps live base) (x : α) : Keeps (add live x) base :=
  fun y hy => mem_add.mpr (Or.inl (h y hy))

theorem Keeps.remove (h : Keeps live base) (hx : x ∉ base) : Keeps (remove live x) base := by
  intro y hy
  apply mem_remove.mpr
  refine ⟨h y hy, ?_⟩
  intro heq
  exact hx (heq ▸ hy)

theorem Keeps.removeAll (h : Keeps live base) (hxs : ∀ x ∈ xs, x ∉ base) :
    Keeps (removeAll live xs) base := by
  intro y hy
  apply mem_removeAll.mpr
  exact ⟨h y hy, fun hmem => hxs y hmem hy⟩

theorem Owed.add (h : Owed live base owed) (hx : x ∉ live) :
    Owed (add live x) base (owed ++ [x]) where
  kept := h.kept.add x
  only := by
    intro y hy
    rw [List.mem_append, List.mem_singleton]
    cases mem_add.mp hy with
    | inl hy =>
      cases h.only y hy with
      | inl hbase => exact Or.inl hbase
      | inr howed => exact Or.inr (Or.inl howed)
    | inr hy => exact Or.inr (Or.inr hy)
  new := by
    intro y hy
    rw [List.mem_append, List.mem_singleton] at hy
    cases hy with
    | inl howed => exact h.new y howed
    | inr hy =>
      rw [hy]
      exact fun hbase => hx (h.kept x hbase)

theorem Owed.remove (h : Owed live base (x :: owed)) :
    Owed (remove live x) base owed where
  kept := h.kept.remove (h.new x List.mem_cons_self)
  only := by
    intro y hy
    obtain ⟨hlive, hne⟩ := mem_remove.mp hy
    cases h.only y hlive with
    | inl hbase => exact Or.inl hbase
    | inr howed => exact Or.inr ((List.mem_cons.mp howed).resolve_left hne)
  new := fun y hy => h.new y (List.mem_cons_of_mem x hy)

/-- All of it was undone. -/
theorem Owed.removeAll (h : Owed live base owed) (hall : ∀ x ∈ owed, x ∈ xs)
    (hxs : ∀ x ∈ xs, x ∉ base) :
    Owed (removeAll live xs) base [] where
  kept := h.kept.removeAll hxs
  only := by
    intro y hy
    obtain ⟨hlive, hout⟩ := mem_removeAll.mp hy
    cases h.only y hlive with
    | inl hbase => exact Or.inl hbase
    | inr howed => exact absurd (hall y howed) hout
  new := by simp

end CephAi.Verified.Compensation
