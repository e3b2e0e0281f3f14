import Mathlib.Data.List.Induction
import Mathlib.Data.List.Nodup
import Mathlib.Data.List.Perm.Basic

/-!
# Aggregates that are kept in a table

Entries are grouped by a key, and a table has one row for each key.  A refresh builds
the row of each group anew from its entries and the row before, and clears the rows whose
group is empty; it counts the rows that it changes.

## Main results

* `row_refresh` — what is under a key after a refresh.
* `refresh_refresh` — a second refresh changes nothing.
* `refresh_perm` — the order of the entries does not matter.
-/

namespace CephAi.Verified.Aggregates

section Groups

variable {α κ : Type _} [DecidableEq κ]

/-- Add an entry to the group of its key; the first one of a key makes the group. -/
def addTo (k : κ) (x : α) : List (κ × List α) → List (κ × List α)
  | [] => [(k, [x])]
  | g :: gs => if g.1 = k then (g.1, g.2 ++ [x]) :: gs else g :: addTo k x gs

/-- Entries by their keys, those without a key left out. -/
def groups (key : α → Option κ) (xs : List α) : List (κ × List α) :=
  xs.foldl (fun gs x => match key x with
    | none => gs
    | some k => addTo k x gs) []

/-- The entries of a key, in their order. -/
def members (key : α → Option κ) (xs : List α) (k : κ) : List α :=
  xs.filter fun x => key x = some k

variable {gs : List (κ × List α)} {k : κ} {x : α}

theorem mem_keys_addTo {j : κ} : j ∈ (addTo k x gs).map Prod.fst ↔ j = k ∨ j ∈ gs.map Prod.fst := by
  induction gs with
  | nil => simp [addTo]
  | cons g gs ih =>
    unfold addTo
    split
    · rename_i hg
      simp only [List.map_cons, List.mem_cons, hg]
      constructor
      · intro h
        exact Or.inr h
      · rintro (h | h)
        · exact Or.inl h
        · exact h
    · simp only [List.map_cons, List.mem_cons, ih]
      constructor
      · rintro (h | h | h)
        · exact Or.inr (Or.inl h)
        · exact Or.inl h
        · exact Or.inr (Or.inr h)
      · rintro (h | h | h)
        · exact Or.inr (Or.inl h)
        · exact Or.inl h
        · exact Or.inr (Or.inr h)

theorem nodup_keys_addTo (h : (gs.map Prod.fst).Nodup) : ((addTo k x gs).map Prod.fst).Nodup := by
  induction gs with
  | nil => simp [addTo]
  | cons g gs ih =>
    rw [List.map_cons, List.nodup_cons] at h
    unfold addTo
    split
    · rw [List.map_cons, List.nodup_cons]
      exact h
    · rename_i hg
      rw [List.map_cons, List.nodup_cons]
      refine ⟨?_, ih h.2⟩
      rw [mem_keys_addTo]
      rintro (heq | hin)
      · exact hg heq
      · exact h.1 hin

/-- What the groups hold after one more entry. -/
theorem mem_addTo (hnodup : (gs.map Prod.fst).Nodup) {g : κ × List α} (hg : g ∈ addTo k x gs) :
    g ∈ gs ∧ g.1 ≠ k ∨ (∃ l, (k, l) ∈ gs ∧ g = (k, l ++ [x])) ∨
      k ∉ gs.map Prod.fst ∧ g = (k, [x]) := by
  induction gs with
  | nil =>
    right; right
    exact ⟨by simp, List.mem_singleton.mp hg⟩
  | cons o gs ih =>
    rw [List.map_cons, List.nodup_cons] at hnodup
    unfold addTo at hg
    split at hg
    · rename_i ho
      rcases List.mem_cons.mp hg with heq | hin
      · right; left
        refine ⟨o.2, ?_, by rw [heq, ho]⟩
        rw [← ho]
        exact List.mem_cons_self
      · left
        refine ⟨List.mem_cons_of_mem o hin, ?_⟩
        intro hk
        apply hnodup.1
        rw [ho, ← hk]
        exact List.mem_map_of_mem hin
    · rename_i ho
      rcases List.mem_cons.mp hg with heq | hin
      · left
        rw [heq]
        exact ⟨List.mem_cons_self, ho⟩
      · rcases ih hnodup.2 hin with ⟨h, hk⟩ | ⟨l, hl, h⟩ | ⟨hk, h⟩
        · exact Or.inl ⟨List.mem_cons_of_mem o h, hk⟩
        · exact Or.inr (Or.inl ⟨l, List.mem_cons_of_mem o hl, h⟩)
        · right; right
          refine ⟨?_, h⟩
          rw [List.map_cons, List.mem_cons, not_or]
          exact ⟨fun heq => ho heq.symm, hk⟩

/-- The groups have a key each, hold the entries of their keys, and miss none. -/
structure Grouped (key : α → Option κ) (xs : List α) (gs : List (κ × List α)) : Prop where
  nodup : (gs.map Prod.fst).Nodup
  holds : ∀ g ∈ gs, g.2 = members key xs g.1
  keys : ∀ k, k ∈ gs.map Prod.fst ↔ members key xs k ≠ []

theorem members_concat (key : α → Option κ) (xs : List α) (x : α) (k : κ) :
    members key (xs ++ [x]) k =
      members key xs k ++ if key x = some k then [x] else [] := by
  unfold members
  rw [List.filter_append]
  by_cases h : key x = some k
  · rw [if_pos h, List.filter_cons_of_pos (by simpa using h)]
    rfl
  · rw [if_neg h, List.filter_cons_of_neg (by simpa using h)]
    rfl

/-- One more entry. -/
theorem Grouped.concat {key : α → Option κ} {xs : List α} {gs : List (κ × List α)}
    (h : Grouped key xs gs) (x : α) :
    Grouped key (xs ++ [x]) (match key x with
      | none => gs
      | some k => addTo k x gs) := by
  cases hkey : key x with
  | none =>
    have hsame : ∀ k, members key (xs ++ [x]) k = members key xs k := by
      intro k
      rw [members_concat, hkey]
      simp
    refine ⟨h.nodup, ?_, ?_⟩
    · intro g hg
      rw [hsame]
      exact h.holds g hg
    · intro k
      rw [hsame]
      exact h.keys k
  | some k =>
    have hself : members key (xs ++ [x]) k = members key xs k ++ [x] := by
      rw [members_concat, hkey, if_pos rfl]
    have hother : ∀ j, j ≠ k → members key (xs ++ [x]) j = members key xs j := by
      intro j hj
      rw [members_concat, hkey, if_neg (fun heq => hj (Option.some.inj heq).symm),
        List.append_nil]
    refine ⟨nodup_keys_addTo h.nodup, ?_, ?_⟩
    · intro g hg
      rcases mem_addTo h.nodup hg with ⟨hin, hk⟩ | ⟨l, hl, heq⟩ | ⟨hk, heq⟩
      · rw [hother g.1 hk]
        exact h.holds g hin
      · rw [heq, hself, ← h.holds _ hl]
      · rw [heq, hself]
        have hnone : members key xs k = [] := by
          by_contra hne
          exact hk ((h.keys k).mpr hne)
        rw [hnone]
        rfl
    · intro j
      rw [mem_keys_addTo]
      by_cases hj : j = k
      · rw [hj, hself]
        simp
      · rw [hother j hj, ← h.keys j]
        constructor
        · rintro (heq | hin)
          · exact absurd heq hj
          · exact hin
        · intro hin
          exact Or.inr hin

theorem grouped_groups (key : α → Option κ) (xs : List α) : Grouped key xs (groups key xs) := by
  induction xs using List.reverseRecOn with
  | nil => exact ⟨List.nodup_nil, fun g hg => (nomatch hg), fun k => by simp [groups, members]⟩
  | append_singleton xs x ih =>
    unfold groups at ih ⊢
    rw [List.foldl_append]
    exact ih.concat x

end Groups

/-- How the rows are made: `build` from the key, the row before and the entries, `clear`
from a row that has no entries. -/
structure Plan (α κ ρ : Type _) where
  key : α → Option κ
  rowKey : ρ → κ
  build : κ → Option ρ → List α → ρ
  clear : ρ → ρ
  rowKey_build : ∀ k before entries, rowKey (build k before entries) = k
  rowKey_clear : ∀ r, rowKey (clear r) = rowKey r

variable {α κ ρ : Type _} (P : Plan α κ ρ)

/-- Every key has one row. -/
def Plan.Unique (rows : List ρ) : Prop := (rows.map P.rowKey).Nodup

/-! ## Rows and keys -/

variable {P} {rows : List ρ}

theorem unique_map {f : ρ → ρ} (hunique : P.Unique rows)
    (hf : ∀ r ∈ rows, P.rowKey (f r) = P.rowKey r) : P.Unique (rows.map f) := by
  unfold Plan.Unique at hunique ⊢
  rw [List.map_map]
  have hsame : rows.map (P.rowKey ∘ f) = rows.map P.rowKey := by
    apply List.map_congr_left
    intro r hr
    exact hf r hr
  rw [hsame]
  exact hunique

variable [DecidableEq κ]

def Plan.row (P : Plan α κ ρ) (rows : List ρ) (k : κ) : Option ρ :=
  rows.find? fun r => P.rowKey r = k

variable {k : κ} {r : ρ}

theorem rowKey_of_row (h : P.row rows k = some r) : P.rowKey r = k := by
  unfold Plan.row at h
  have hkey := List.find?_some h
  exact of_decide_eq_true hkey

theorem mem_of_row (h : P.row rows k = some r) : r ∈ rows :=
  List.mem_of_find?_eq_some h

theorem row_eq_none : P.row rows k = none ↔ ∀ r ∈ rows, P.rowKey r ≠ k := by
  unfold Plan.row
  rw [List.find?_eq_none]
  constructor
  · intro h r hr heq
    exact h r hr (decide_eq_true heq)
  · intro h r hr heq
    exact h r hr (of_decide_eq_true heq)

theorem row_of_mem (hunique : P.Unique rows) (hr : r ∈ rows) :
    P.row rows (P.rowKey r) = some r := by
  cases h : P.row rows (P.rowKey r) with
  | none => exact absurd rfl (row_eq_none.mp h r hr)
  | some o => rw [List.inj_on_of_nodup_map hunique (mem_of_row h) hr (rowKey_of_row h)]

theorem row_map {f : ρ → ρ} (hf : ∀ r ∈ rows, P.rowKey (f r) = P.rowKey r) (k : κ) :
    P.row (rows.map f) k = (P.row rows k).map f := by
  induction rows with
  | nil => rfl
  | cons r rows ih =>
    have hrest := ih fun o ho => hf o (List.mem_cons_of_mem r ho)
    have hkey := hf r List.mem_cons_self
    unfold Plan.row at hrest ⊢
    rw [List.map_cons, List.find?_cons, List.find?_cons, hkey, hrest]
    by_cases hr : P.rowKey r = k
    · rw [decide_eq_true hr]
      rfl
    · rw [decide_eq_false hr]

theorem rowKey_replaced {before : Option ρ} {l : List α} (r : ρ) :
    P.rowKey (if P.rowKey r = k then P.build k before l else r) = P.rowKey r := by
  split
  · rename_i h
    rw [P.rowKey_build, h]
  · rfl

theorem rowKey_swept (active : List κ) (r : ρ) :
    P.rowKey (if P.rowKey r ∈ active then r else P.clear r) = P.rowKey r := by
  split
  · rfl
  · exact P.rowKey_clear r

theorem perm_of_row {others : List ρ} (hrows : P.Unique rows) (hothers : P.Unique others)
    (h : ∀ k, P.row rows k = P.row others k) : rows.Perm others := by
  rw [List.perm_ext_iff_of_nodup (List.Nodup.of_map _ hrows) (List.Nodup.of_map _ hothers)]
  intro r
  constructor
  · intro hr
    apply mem_of_row (P := P) (k := P.rowKey r)
    rw [← h]
    exact row_of_mem hrows hr
  · intro hr
    apply mem_of_row (P := P) (k := P.rowKey r)
    rw [h]
    exact row_of_mem hothers hr

variable [DecidableEq ρ]

/-- The table, and how many rows were changed. -/
abbrev Table (ρ : Type _) := List ρ × Nat

/-- Write the row of a group. -/
def Plan.put (P : Plan α κ ρ) (table : Table ρ) (g : κ × List α) : Table ρ :=
  match P.row table.1 g.1 with
  | none => (table.1 ++ [P.build g.1 none g.2], table.2 + 1)
  | some r =>
    if P.build g.1 (some r) g.2 = r then table
    else (table.1.map fun o => if P.rowKey o = g.1 then P.build g.1 (some r) g.2 else o,
      table.2 + 1)

/-- Clear the rows of the other keys. -/
def Plan.sweep (P : Plan α κ ρ) (active : List κ) (table : Table ρ) : Table ρ :=
  (table.1.map fun r => if P.rowKey r ∈ active then r else P.clear r,
    table.2 + table.1.countP fun r => decide (P.rowKey r ∉ active ∧ P.clear r ≠ r))

/-- Write the row of every group, then clear the rows of the keys without one. -/
def Plan.refresh (P : Plan α κ ρ) (entries : List α) (rows : List ρ) : Table ρ :=
  let gs := groups P.key entries
  P.sweep (gs.map Prod.fst) (gs.foldl P.put (rows, 0))

/-! ## One group -/

theorem row_put (table : Table ρ) (g : κ × List α) (k : κ) :
    P.row (P.put table g).1 k =
      if k = g.1 then some (P.build g.1 (P.row table.1 g.1) g.2) else P.row table.1 k := by
  unfold Plan.put
  cases h : P.row table.1 g.1 with
  | none =>
    dsimp only
    by_cases hk : k = g.1
    · rw [if_pos hk, hk]
      unfold Plan.row at h ⊢
      rw [List.find?_append, h, Option.none_or, List.find?_singleton,
        if_pos (decide_eq_true (P.rowKey_build g.1 none g.2))]
    · rw [if_neg hk]
      unfold Plan.row
      have hnot : decide (P.rowKey (P.build g.1 none g.2) = k) = false := by
        rw [P.rowKey_build]
        exact decide_eq_false (Ne.symm hk)
      rw [List.find?_append, List.find?_singleton, hnot, if_neg Bool.false_ne_true,
        Option.or_none]
  | some r =>
    dsimp only
    have hkey := rowKey_of_row h
    split
    · rename_i hsame
      by_cases hk : k = g.1
      · rw [if_pos hk, hk, h, hsame]
      · rw [if_neg hk]
    · dsimp only
      rw [row_map fun o _ => rowKey_replaced o]
      by_cases hk : k = g.1
      · rw [if_pos hk, hk, h]
        show some (if P.rowKey r = g.1 then _ else r) = _
        rw [if_pos hkey]
      · rw [if_neg hk]
        cases ho : P.row table.1 k with
        | none => rfl
        | some o =>
          show some (if P.rowKey o = g.1 then _ else o) = some o
          rw [if_neg]
          rw [rowKey_of_row ho]
          exact hk

variable {gs : List (κ × List α)} {table : Table ρ}

theorem unique_put (hunique : P.Unique table.1) (g : κ × List α) : P.Unique (P.put table g).1 := by
  unfold Plan.put
  cases h : P.row table.1 g.1 with
  | none =>
    unfold Plan.Unique at hunique ⊢
    dsimp only
    rw [List.map_append, List.map_singleton, P.rowKey_build]
    apply List.Nodup.append hunique (List.nodup_singleton _)
    intro k hk hg
    obtain ⟨r, hr, heq⟩ := List.mem_map.mp hk
    rw [List.mem_singleton.mp hg] at heq
    exact row_eq_none.mp h r hr heq
  | some r =>
    dsimp only
    split
    · exact hunique
    · exact unique_map hunique fun o _ => rowKey_replaced o

theorem count_put (table : Table ρ) (g : κ × List α) :
    (P.put table g).2 = table.2 +
      if P.row table.1 g.1 = some (P.build g.1 (P.row table.1 g.1) g.2) then 0 else 1 := by
  unfold Plan.put
  cases h : P.row table.1 g.1 with
  | none => rfl
  | some r =>
    dsimp only
    by_cases hsame : P.build g.1 (some r) g.2 = r
    · rw [if_pos hsame, if_pos (congrArg some hsame.symm)]
      rfl
    · rw [if_neg hsame, if_neg]
      intro heq
      exact hsame (Option.some.inj heq).symm

theorem put_eq_self {g : κ × List α}
    (h : P.row table.1 g.1 = some (P.build g.1 (P.row table.1 g.1) g.2)) :
    P.put table g = table := by
  unfold Plan.put
  cases hrow : P.row table.1 g.1 with
  | none =>
    rw [hrow] at h
    cases h
  | some r =>
    rw [hrow] at h
    dsimp only
    rw [if_pos (Option.some.inj h).symm]

/-! ## All groups -/

theorem unique_foldl :
    ∀ {table : Table ρ}, P.Unique table.1 → P.Unique (gs.foldl P.put table).1 := by
  induction gs with
  | nil =>
    intro table h
    exact h
  | cons g gs ih =>
    intro table h
    exact ih (unique_put h g)

theorem foldl_put (hnodup : (gs.map Prod.fst).Nodup) :
    ∀ (table : Table ρ),
      (∀ k ∉ gs.map Prod.fst, P.row (gs.foldl P.put table).1 k = P.row table.1 k) ∧
      (∀ g ∈ gs, P.row (gs.foldl P.put table).1 g.1 =
        some (P.build g.1 (P.row table.1 g.1) g.2)) ∧
      (gs.foldl P.put table).2 = table.2 + gs.countP fun g =>
        decide (P.row table.1 g.1 ≠ some (P.build g.1 (P.row table.1 g.1) g.2)) := by
  induction gs with
  | nil =>
    intro table
    exact ⟨fun k _ => rfl, fun g hg => (nomatch hg), rfl⟩
  | cons g gs ih =>
    intro table
    rw [List.map_cons, List.nodup_cons] at hnodup
    obtain ⟨hother, hself, hcount⟩ := ih hnodup.2 (P.put table g)
    have hne : ∀ o ∈ gs, o.1 ≠ g.1 := by
      intro o ho heq
      exact hnodup.1 (heq ▸ List.mem_map_of_mem ho)
    refine ⟨?_, ?_, ?_⟩
    · intro k hk
      rw [List.map_cons, List.mem_cons, not_or] at hk
      rw [List.foldl_cons, hother k hk.2, row_put, if_neg hk.1]
    · intro o ho
      rw [List.foldl_cons]
      rcases List.mem_cons.mp ho with heq | hin
      · rw [heq, hother g.1 hnodup.1, row_put, if_pos rfl]
      · rw [hself o hin, row_put, if_neg (hne o hin)]
    · rw [List.foldl_cons, hcount, count_put, List.countP_cons]
      have hsame : (gs.countP fun o => decide (P.row (P.put table g).1 o.1 ≠
          some (P.build o.1 (P.row (P.put table g).1 o.1) o.2))) =
          gs.countP fun o => decide (P.row table.1 o.1 ≠
            some (P.build o.1 (P.row table.1 o.1) o.2)) := by
        apply List.countP_congr
        intro o ho
        rw [row_put, if_neg (hne o ho)]
      rw [hsame]
      by_cases h : P.row table.1 g.1 = some (P.build g.1 (P.row table.1 g.1) g.2)
      · simp only [if_pos h, decide_eq_true_eq]
        rw [if_neg (not_not_intro h)]
        omega
      · simp only [if_neg h, decide_eq_true_eq]
        rw [if_pos h]
        omega

theorem row_foldl_put {key : α → Option κ} {xs : List α} (h : Grouped key xs gs) (table : Table ρ)
    (k : κ) :
    P.row (gs.foldl P.put table).1 k =
      if k ∈ gs.map Prod.fst then some (P.build k (P.row table.1 k) (members key xs k))
      else P.row table.1 k := by
  obtain ⟨hother, hself, -⟩ := foldl_put h.nodup table
  by_cases hk : k ∈ gs.map Prod.fst
  · rw [if_pos hk]
    obtain ⟨g, hg, rfl⟩ := List.mem_map.mp hk
    rw [hself g hg, h.holds g hg]
  · rw [if_neg hk, hother k hk]

theorem foldl_put_eq_self
    (h : ∀ g ∈ gs, P.row table.1 g.1 = some (P.build g.1 (P.row table.1 g.1) g.2)) :
    gs.foldl P.put table = table := by
  induction gs with
  | nil => rfl
  | cons g gs ih =>
    rw [List.foldl_cons, put_eq_self (h g List.mem_cons_self)]
    exact ih fun o ho => h o (List.mem_cons_of_mem g ho)

/-! ## A refresh -/

theorem row_sweep (active : List κ) (table : Table ρ) (k : κ) :
    P.row (P.sweep active table).1 k =
      (P.row table.1 k).map fun r => if k ∈ active then r else P.clear r := by
  show P.row (table.1.map _) k = _
  rw [row_map fun r _ => rowKey_swept active r]
  cases h : P.row table.1 k with
  | none => rfl
  | some r =>
    show some (if P.rowKey r ∈ active then r else P.clear r) = _
    rw [rowKey_of_row h]
    rfl

theorem unique_sweep {active : List κ} (h : P.Unique table.1) : P.Unique (P.sweep active table).1 :=
  unique_map h fun r _ => rowKey_swept active r

theorem unique_refresh (hunique : P.Unique rows) (xs : List α) :
    P.Unique (P.refresh xs rows).1 :=
  unique_sweep (unique_foldl hunique)

theorem row_refresh (xs : List α) (rows : List ρ) (k : κ) :
    P.row (P.refresh xs rows).1 k =
      if members P.key xs k = [] then (P.row rows k).map P.clear
      else some (P.build k (P.row rows k) (members P.key xs k)) := by
  have hgrouped := grouped_groups P.key xs
  unfold Plan.refresh
  dsimp only
  rw [row_sweep, row_foldl_put hgrouped]
  by_cases hk : members P.key xs k = []
  · have hnot : k ∉ (groups P.key xs).map Prod.fst := fun h => (hgrouped.keys k).mp h hk
    rw [if_pos hk, if_neg hnot]
    simp only [if_neg hnot]
  · have hin := (hgrouped.keys k).mpr hk
    rw [if_neg hk, if_pos hin]
    simp only [if_pos hin, Option.map_some]

theorem refresh_refresh (hbuild : ∀ k o l, P.build k (some (P.build k o l)) l = P.build k o l)
    (hclear : ∀ r, P.clear (P.clear r) = P.clear r) (xs : List α) (rows : List ρ) :
    P.refresh xs (P.refresh xs rows).1 = ((P.refresh xs rows).1, 0) := by
  have hgrouped := grouped_groups P.key xs
  have hput : ∀ g ∈ groups P.key xs, P.row (P.refresh xs rows).1 g.1 =
      some (P.build g.1 (P.row (P.refresh xs rows).1 g.1) g.2) := by
    intro g hg
    have hne := (hgrouped.keys g.1).mp (List.mem_map_of_mem hg)
    rw [row_refresh, if_neg hne, hgrouped.holds g hg, hbuild]
  have hswept : ∀ r ∈ (P.refresh xs rows).1, P.rowKey r ∉ (groups P.key xs).map Prod.fst →
      P.clear r = r := by
    intro r hr hkey
    obtain ⟨o, -, rfl⟩ := List.mem_map.mp hr
    rw [rowKey_swept] at hkey
    rw [if_neg hkey, hclear]
  have hall : (groups P.key xs).foldl P.put ((P.refresh xs rows).1, 0) =
      ((P.refresh xs rows).1, 0) :=
    foldl_put_eq_self hput
  show P.sweep _ ((groups P.key xs).foldl P.put ((P.refresh xs rows).1, 0)) = _
  rw [hall]
  unfold Plan.sweep
  rw [Prod.mk.injEq]
  constructor
  · calc (P.refresh xs rows).1.map _ = (P.refresh xs rows).1.map id := by
          apply List.map_congr_left
          intro r hr
          split
          · rfl
          · rename_i hkey
            exact hswept r hr hkey
      _ = (P.refresh xs rows).1 := List.map_id _
  · rw [Nat.zero_add, List.countP_eq_zero]
    intro r hr hdec
    obtain ⟨hkey, hne⟩ := of_decide_eq_true hdec
    exact hne (hswept r hr hkey)

/-! ## The order of the entries -/

variable {xs ys : List α}

theorem members_perm (h : xs.Perm ys) (key : α → Option κ) (k : κ) :
    (members key xs k).Perm (members key ys k) :=
  h.filter _

theorem keys_perm (h : xs.Perm ys) (key : α → Option κ) :
    ((groups key xs).map Prod.fst).Perm ((groups key ys).map Prod.fst) := by
  have hxs := grouped_groups key xs
  have hys := grouped_groups key ys
  rw [List.perm_ext_iff_of_nodup hxs.nodup hys.nodup]
  intro k
  rw [hxs.keys, hys.keys, not_iff_not]
  constructor
  · intro hnil
    exact ((members_perm h key k).symm.trans (List.Perm.of_eq hnil)).eq_nil
  · intro hnil
    exact ((members_perm h key k).trans (List.Perm.of_eq hnil)).eq_nil

section

variable (hbuild : ∀ k o (l m : List α), l.Perm m → P.build k o l = P.build k o m)

include hbuild

/-- The tables before the sweep. -/
theorem foldl_put_perm (h : xs.Perm ys) (hunique : P.Unique rows) :
    ((groups P.key xs).foldl P.put (rows, 0)).1.Perm
      ((groups P.key ys).foldl P.put (rows, 0)).1 := by
  apply perm_of_row (P := P) (unique_foldl hunique) (unique_foldl hunique)
  intro k
  rw [row_foldl_put (grouped_groups P.key xs), row_foldl_put (grouped_groups P.key ys),
    hbuild k _ _ _ (members_perm h P.key k)]
  by_cases hk : k ∈ (groups P.key xs).map Prod.fst
  · rw [if_pos hk, if_pos ((keys_perm h P.key).mem_iff.mp hk)]
  · rw [if_neg hk, if_neg fun hin => hk ((keys_perm h P.key).mem_iff.mpr hin)]

theorem count_perm (h : xs.Perm ys) :
    ((groups P.key xs).foldl P.put (rows, 0)).2 =
      ((groups P.key ys).foldl P.put (rows, 0)).2 := by
  have hcount : ∀ zs : List α, zs.Perm xs →
      ((groups P.key zs).foldl P.put (rows, 0)).2 =
        ((groups P.key zs).map Prod.fst).countP fun k =>
          decide (P.row rows k ≠ some (P.build k (P.row rows k) (members P.key xs k))) := by
    intro zs hzs
    have hgrouped := grouped_groups P.key zs
    obtain ⟨-, -, hsum⟩ := foldl_put (P := P) hgrouped.nodup (rows, 0)
    rw [hsum, Nat.zero_add, List.countP_map]
    apply List.countP_congr
    intro g hg
    rw [Function.comp_apply, hgrouped.holds g hg,
      hbuild g.1 _ _ _ (members_perm hzs P.key g.1)]
  rw [hcount xs (List.Perm.refl xs), hcount ys h.symm]
  exact (keys_perm h P.key).countP_eq _

/-- The order of the entries does not matter. -/
theorem refresh_perm (h : xs.Perm ys) (hunique : P.Unique rows) :
    (P.refresh xs rows).1.Perm (P.refresh ys rows).1 ∧
      (P.refresh xs rows).2 = (P.refresh ys rows).2 := by
  have hkeys := keys_perm h P.key
  have htable := foldl_put_perm hbuild h hunique
  constructor
  · apply perm_of_row (P := P) (unique_refresh hunique xs) (unique_refresh hunique ys)
    intro k
    have hmembers := members_perm h P.key k
    rw [row_refresh, row_refresh, hbuild k _ _ _ hmembers]
    by_cases hnil : members P.key xs k = []
    · rw [if_pos hnil, if_pos (hmembers.symm.trans (List.Perm.of_eq hnil)).eq_nil]
    · rw [if_neg hnil, if_neg fun hy => hnil (hmembers.trans (List.Perm.of_eq hy)).eq_nil]
  · unfold Plan.refresh Plan.sweep
    dsimp only
    rw [count_perm hbuild h, htable.countP_eq]
    congr 1
    apply List.countP_congr
    intro r _
    simp only [hkeys.mem_iff]

end

end CephAi.Verified.Aggregates
