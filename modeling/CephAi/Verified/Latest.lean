import Mathlib.Data.List.Basic

/-!
# The latest entries of a list

A bounded history appends at the back and keeps its last `n` entries.  What is kept after any
number of appends is the last `n` entries of the unbounded history.

## Main results

* `latest_append_latest` — bounding before an append changes nothing.
* `latest_replace_last` — the last entry rewritten under a key that the others do not have.
-/

namespace CephAi.Verified

variable {α β : Type _}

/-- The last `n` entries. -/
def latest (n : Nat) (l : List α) : List α := l.drop (l.length - n)

theorem latest_subset (n : Nat) (l : List α) : latest n l ⊆ l := List.drop_subset _ _

theorem length_latest (n : Nat) (l : List α) : (latest n l).length = min n l.length := by
  unfold latest
  rw [List.length_drop]
  omega

theorem latest_of_length_le {n : Nat} {l : List α} (h : l.length ≤ n) : latest n l = l := by
  unfold latest
  rw [Nat.sub_eq_zero_of_le h]
  rfl

theorem map_latest (f : α → β) (n : Nat) (l : List α) :
    (latest n l).map f = latest n (l.map f) := by
  unfold latest
  rw [List.map_drop, List.length_map]

/-- **Bounding before an append changes nothing.** -/
theorem latest_append_latest (n : Nat) (l l' : List α) :
    latest n (latest n l ++ l') = latest n (l ++ l') := by
  have hsplit : l ++ l' = l.take (l.length - n) ++ (latest n l ++ l') := by
    unfold latest
    rw [← List.append_assoc, List.take_append_drop]
  have hlen : (l.take (l.length - n)).length = l.length - n := by
    rw [List.length_take]
    omega
  show _ = (l ++ l').drop _
  rw [hsplit, List.drop_append, List.drop_eq_nil_of_le, List.nil_append]
  · unfold latest
    simp only [List.length_append, List.length_drop, List.length_take]
    congr 1
    omega
  · unfold latest
    simp only [List.length_append, List.length_drop, List.length_take]
    omega

theorem latest_concat (n : Nat) (l : List α) (a : α) :
    latest (n + 1) (l ++ [a]) = latest n l ++ [a] := by
  unfold latest
  rw [List.length_append, List.length_singleton, List.drop_append_of_le_length (by omega)]
  congr 2
  omega

theorem latest_replace_last (n : Nat) (l : List α) (old new : α) (p : α → Bool)
    (hold : p old = false) (hothers : ∀ a ∈ l, p a = true) :
    latest (n + 1) ((latest (n + 1) (l ++ [old])).filter p ++ [new]) =
      latest (n + 1) (l ++ [new]) := by
  have hkept : (latest n l).filter p = latest n l := by
    apply List.filter_eq_self.mpr
    intro a ha
    exact hothers a (latest_subset n l ha)
  have hfiltered : (latest (n + 1) (l ++ [old])).filter p = latest n l := by
    rw [latest_concat, List.filter_append, hkept, List.filter_cons_of_neg (by simp [hold]),
      List.filter_nil, List.append_nil]
  rw [hfiltered, latest_concat, latest_concat]
  congr 1
  apply latest_of_length_le
  rw [length_latest]
  omega

end CephAi.Verified
