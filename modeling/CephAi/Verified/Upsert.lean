import Mathlib.Data.List.Nodup
import Mathlib.Order.Basic

/-!
# Tables that are filled by upserts

An upsert merges an entry into the row of its key, and makes that row when there is
none.  When rows and entries have a value and neither step lowers it, a table that was
filled by upserts has, under the key of each entry, a row with at least the entry's
value.

## Main results

* `nodup_upsertAll` — keys stay unique.
* `exists_of_mem_rows`, `exists_of_mem_entries` — what was there and what was entered
  is still represented.
-/

namespace CephAi.Verified.Upsert

/-- How entries are merged into rows.  A row that is made may depend on the table, for a
fresh id. -/
structure Merge (ρ ε κ α : Type _) [LE α] where
  key : ρ → κ
  entryKey : ε → κ
  value : ρ → α
  entryValue : ε → α
  make : List ρ → ε → ρ
  merge : ρ → ε → ρ
  key_make : ∀ rows e, key (make rows e) = entryKey e
  key_merge : ∀ r e, key (merge r e) = key r
  value_make : ∀ rows e, entryValue e ≤ value (make rows e)
  value_merge : ∀ r e, value r ≤ value (merge r e)
  entryValue_merge : ∀ r e, entryValue e ≤ value (merge r e)

section Definitions

variable {ρ ε κ α : Type _} [DecidableEq κ] [LE α] (M : Merge ρ ε κ α)

def upsert (rows : List ρ) (e : ε) : List ρ :=
  if rows.any (fun r => M.key r = M.entryKey e) then
    rows.map fun r => if M.key r = M.entryKey e then M.merge r e else r
  else rows ++ [M.make rows e]

/-- The entries one after the other. -/
def upsertAll (rows : List ρ) (entries : List ε) : List ρ := entries.foldl (upsert M) rows

/-- A row has this key and at least this value. -/
def Represented (rows : List ρ) (k : κ) (a : α) : Prop :=
  ∃ r ∈ rows, M.key r = k ∧ a ≤ M.value r

end Definitions

variable {ρ ε κ α : Type _} [DecidableEq κ] [Preorder α] (M : Merge ρ ε κ α)

theorem key_merged (e : ε) (r : ρ) :
    M.key (if M.key r = M.entryKey e then M.merge r e else r) = M.key r := by
  split_ifs
  · exact M.key_merge r e
  · rfl

theorem value_le_merged (e : ε) (r : ρ) :
    M.value r ≤ M.value (if M.key r = M.entryKey e then M.merge r e else r) := by
  split_ifs
  · exact M.value_merge r e
  · exact le_refl _

theorem Represented.upsert {rows : List ρ} {k : κ} {a : α} (h : Represented M rows k a)
    (e : ε) : Represented M (upsert M rows e) k a := by
  obtain ⟨r, hr, hkey, hle⟩ := h
  unfold Upsert.upsert
  split_ifs
  · refine ⟨_, List.mem_map_of_mem hr, ?_, le_trans hle (value_le_merged M e r)⟩
    rw [key_merged, hkey]
  · exact ⟨r, List.mem_append_left _ hr, hkey, hle⟩

theorem represented_upsert (rows : List ρ) (e : ε) :
    Represented M (upsert M rows e) (M.entryKey e) (M.entryValue e) := by
  unfold Upsert.upsert
  split_ifs with hany
  · obtain ⟨r, hr, hkey⟩ := List.any_eq_true.mp hany
    have hkey' : M.key r = M.entryKey e := of_decide_eq_true hkey
    refine ⟨_, List.mem_map_of_mem hr, ?_, ?_⟩
    · rw [key_merged, hkey']
    · rw [if_pos hkey']
      exact M.entryValue_merge r e
  · exact ⟨M.make rows e, List.mem_append_right _ List.mem_cons_self, M.key_make rows e,
      M.value_make rows e⟩

theorem exists_of_mem_rows {k : κ} {a : α} :
    ∀ (entries : List ε) (rows : List ρ), Represented M rows k a →
      Represented M (upsertAll M rows entries) k a := by
  intro entries
  induction entries with
  | nil => exact fun _ h => h
  | cons e entries ih => exact fun rows h => ih (upsert M rows e) (h.upsert M e)

/-- **Each entry is represented.** -/
theorem exists_of_mem_entries {e : ε} :
    ∀ (entries : List ε) (rows : List ρ), e ∈ entries →
      Represented M (upsertAll M rows entries) (M.entryKey e) (M.entryValue e) := by
  intro entries
  induction entries with
  | nil =>
    intro _ he
    cases he
  | cons e' entries ih =>
    intro rows he
    rcases List.mem_cons.mp he with rfl | hrest
    · exact exists_of_mem_rows M entries _ (represented_upsert M rows e)
    · exact ih (upsert M rows e') hrest

theorem nodup_upsert {rows : List ρ} (h : (rows.map M.key).Nodup) (e : ε) :
    ((upsert M rows e).map M.key).Nodup := by
  unfold Upsert.upsert
  split_ifs with hany
  · rw [List.map_map]
    have hkeys : rows.map (M.key ∘ fun r => if M.key r = M.entryKey e then M.merge r e else r) =
        rows.map M.key :=
      List.map_congr_left fun r _ => key_merged M e r
    rw [hkeys]
    exact h
  · rw [List.map_append, List.map_cons, List.map_nil, M.key_make]
    rw [List.nodup_append]
    refine ⟨h, List.nodup_singleton _, ?_⟩
    intro k hk k' hk' heq
    obtain ⟨r, hr, hrk⟩ := List.mem_map.mp hk
    rw [List.mem_singleton.mp hk'] at heq
    exact hany (List.any_eq_true.mpr ⟨r, hr, decide_eq_true (hrk.trans heq)⟩)

/-- **Keys stay unique.** -/
theorem nodup_upsertAll :
    ∀ (entries : List ε) (rows : List ρ), (rows.map M.key).Nodup →
      ((upsertAll M rows entries).map M.key).Nodup := by
  intro entries
  induction entries with
  | nil => exact fun _ h => h
  | cons e entries ih => exact fun rows h => ih (upsert M rows e) (nodup_upsert M h e)

end CephAi.Verified.Upsert
