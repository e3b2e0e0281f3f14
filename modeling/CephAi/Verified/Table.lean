import Mathlib.Data.List.Basic

/-!
# Tables of keyed rows

A table is a list of rows; a row is found by its key, the first one of it.
`update` is an `UPDATE ... WHERE`: it rewrites the rows a condition picks, and
keeps keys.

## Main results

* `get_update` — what is under a key after an update.
* `get_insert`, `keys_insert`, `get_fresh` — what is under a key after a row
  with a new key was added, that keys stay unique, and that there is such a
  key.
-/

namespace CephAi.Verified.Table

/-- Rows with a key. -/
class Keyed (ρ : Type _) where
  key : ρ → Nat

variable {ρ : Type _} [Keyed ρ]

/-- The row of this key. -/
def get (rows : List ρ) (k : Nat) : Option ρ :=
  rows.find? (fun r => Keyed.key r == k)

/-- Rewrite the rows that meet `p`. -/
def update (rows : List ρ) (p : ρ → Bool) (f : ρ → ρ) : List ρ :=
  rows.map (fun r => if p r then f r else r)

/-- Rewrite the row of a key. -/
def modify (rows : List ρ) (k : Nat) (f : ρ → ρ) : List ρ :=
  update rows (fun r => Keyed.key r == k) f

/-- Add a row. -/
def insert (rows : List ρ) (r : ρ) : List ρ := rows ++ [r]

def fresh (rows : List ρ) : Nat :=
  rows.foldr (fun r k => max (Keyed.key r) k) 0 + 1

variable {r : ρ} {rows : List ρ}

variable {k : Nat}

theorem key_of_get (h : get rows k = some r) : Keyed.key r = k := by
  have hkey := List.find?_some h
  simpa using hkey

theorem mem_of_get (h : get rows k = some r) : r ∈ rows :=
  List.mem_of_find?_eq_some h

theorem find?_of_nodup {α κ : Type _} [BEq κ] [LawfulBEq κ] {key : α → κ} {l : List α} {a : α}
    (hkeys : (l.map key).Nodup) (ha : a ∈ l) : (l.find? fun b => key b == key a) = some a := by
  induction l with
  | nil => simp at ha
  | cons b l ih =>
    rw [List.map_cons, List.nodup_cons] at hkeys
    rw [List.find?_cons]
    cases ha with
    | head => simp
    | tail _ ha =>
      have hne : key b ≠ key a := by
        intro heq
        exact hkeys.1 (heq ▸ List.mem_map_of_mem ha)
      simp only [beq_eq_false_iff_ne.mpr hne]
      exact ih hkeys.2 ha

theorem get_of_mem (hkeys : (rows.map Keyed.key).Nodup) (hr : r ∈ rows) :
    get rows (Keyed.key r) = some r :=
  find?_of_nodup hkeys hr

section

variable (rows : List ρ)

theorem get_update (p : ρ → Bool) (f : ρ → ρ) (hf : ∀ r, Keyed.key (f r) = Keyed.key r) (k : Nat) :
    get (update rows p f) k =
      (get rows k).map (fun r => if p r then f r else r) := by
  induction rows with
  | nil => rfl
  | cons r rows ih =>
    have hkey : Keyed.key (if p r then f r else r) = Keyed.key r := by
      cases p r with
      | false => rfl
      | true => exact hf r
    simp only [get, update, List.map_cons, List.find?_cons, hkey] at ih ⊢
    cases Keyed.key r == k with
    | true => rfl
    | false => exact ih

theorem get_modify (k : Nat) (f : ρ → ρ) (hf : ∀ r, Keyed.key (f r) = Keyed.key r) (k' : Nat) :
    get (modify rows k f) k' =
      if k' = k then (get rows k').map f else get rows k' := by
  unfold modify
  rw [get_update rows _ f hf k']
  cases hrow : get rows k' with
  | none => simp
  | some r =>
    have hkey := key_of_get hrow
    by_cases hk : k' = k
    · simp [hkey, hk]
    · simp [hkey, hk]

theorem map_get_modify {β : Type _} (k : Nat) (f : ρ → ρ)
    (hf : ∀ r, Keyed.key (f r) = Keyed.key r) (column : ρ → β) (k' : Nat) :
    (get (modify rows k f) k').map column =
      if k' = k then (get rows k').map (fun r => column (f r))
      else (get rows k').map column := by
  rw [get_modify rows k f hf]
  by_cases h : k' = k
  · rw [if_pos h, if_pos h, Option.map_map]
    rfl
  · rw [if_neg h, if_neg h]

theorem map_get_update_of_eq {β : Type _} (p : ρ → Bool)
    (f : ρ → ρ) (hf : ∀ r, Keyed.key (f r) = Keyed.key r) (column : ρ → β)
    (hcolumn : ∀ r, column (f r) = column r) (k : Nat) :
    (get (update rows p f) k).map column = (get rows k).map column := by
  rw [get_update rows p f hf]
  cases get rows k with
  | none => rfl
  | some r =>
    cases hp : p r with
    | false => simp [hp]
    | true => simp [hp, hcolumn]

omit [Keyed ρ] in
theorem map_update_of_eq {β : Type _} (p : ρ → Bool) (f : ρ → ρ) (column : ρ → β)
    (hcolumn : ∀ r, column (f r) = column r) : (update rows p f).map column = rows.map column := by
  rw [update, List.map_map]
  apply List.map_congr_left
  intro r _
  cases hp : p r with
  | false => simp [hp]
  | true => simp [hp, hcolumn]

omit [Keyed ρ] in
theorem filter_update (p : ρ → Bool) (f : ρ → ρ)
    (hf : ∀ r, p (f r) = p r) : (update rows p f).filter p = (rows.filter p).map f := by
  induction rows with
  | nil => rfl
  | cons r rows ih =>
    unfold update at ih ⊢
    rw [List.map_cons, List.filter_cons, List.filter_cons, ih]
    cases hp : p r with
    | false => simp [hp]
    | true => simp [hp, hf]

omit [Keyed ρ] in
theorem update_update (p q : ρ → Bool) (f : ρ → ρ) (hdone : ∀ r, q (f r) = false) :
    update (update rows p f) q f = update rows (fun r => p r || q r) f := by
  unfold update
  rw [List.map_map]
  apply List.map_congr_left
  intro r _
  cases hp : p r with
  | false => simp [hp]
  | true => simp [hp, hdone]

end

omit [Keyed ρ] in
theorem foldl_update {κ : Type _} (p : κ → ρ → Bool) (f : ρ → ρ)
    (hdone : ∀ k r, p k (f r) = false) (ks : List κ) (rows : List ρ) :
    ks.foldl (fun rows k => update rows (p k) f) rows =
      update rows (fun r => ks.any fun k => p k r) f := by
  induction ks generalizing rows with
  | nil => simp [update]
  | cons k ks ih =>
    rw [List.foldl_cons, ih, update_update]
    · rfl
    · intro r
      simp [hdone]

omit [Keyed ρ] in
theorem update_congr {p q : ρ → Bool} (f : ρ → ρ) (h : ∀ r ∈ rows, p r = q r) :
    update rows p f = update rows q f := by
  apply List.map_congr_left
  intro r hr
  rw [h r hr]

omit [Keyed ρ] in
theorem map_filter_update_sublist {β : Type _} (rows : List ρ) (p q : ρ → Bool) (f : ρ → ρ)
    (column : ρ → β) (hcolumn : ∀ r, column (f r) = column r)
    (hq : ∀ r, p r = true → q (f r) = true → q r = true) :
    (((update rows p f).filter q).map column).Sublist ((rows.filter q).map column) := by
  induction rows with
  | nil => exact List.Sublist.refl _
  | cons r rows ih =>
    unfold update at ih ⊢
    rw [List.map_cons, List.filter_cons, List.filter_cons]
    have hcolumn' : column (if p r then f r else r) = column r := by
      split
      · exact hcolumn r
      · rfl
    have hq' : q (if p r then f r else r) = true → q r = true := by
      split
      · next hp => exact hq r hp
      · exact id
    by_cases hnew : q (if p r then f r else r) = true
    · rw [if_pos hnew, if_pos (hq' hnew), List.map_cons, List.map_cons, hcolumn']
      exact ih.cons_cons _
    · rw [if_neg hnew]
      split
      · exact ih.cons _
      · exact ih

theorem keys_modify (rows : List ρ) (k : Nat) (f : ρ → ρ)
    (hf : ∀ r, Keyed.key (f r) = Keyed.key r) :
    (modify rows k f).map Keyed.key = rows.map Keyed.key :=
  map_update_of_eq rows _ f Keyed.key hf

theorem key_lt_fresh (h : r ∈ rows) : Keyed.key r < fresh rows := by
  induction rows with
  | nil => simp at h
  | cons r' rows ih =>
    unfold fresh at ih ⊢
    rw [List.foldr_cons]
    cases h with
    | head => omega
    | tail _ h =>
      have hlt := ih h
      omega

theorem fresh_congr {rows' : List ρ} (h : rows.map Keyed.key = rows'.map Keyed.key) :
    fresh rows = fresh rows' := by
  have hfold : ∀ rows : List ρ,
      fresh rows = (rows.map Keyed.key).foldr (fun k m => max k m) 0 + 1 := by
    intro rows
    unfold fresh
    rw [List.foldr_map]
  rw [hfold, hfold, h]

theorem get_fresh (rows : List ρ) : get rows (fresh rows) = none := by
  apply List.find?_eq_none.mpr
  intro r hr
  have hlt := key_lt_fresh hr
  have hne : Keyed.key r ≠ fresh rows := by omega
  simpa using hne

theorem get_insert (rows : List ρ) (r : ρ) (hnew : get rows (Keyed.key r) = none) (k : Nat) :
    get (insert rows r) k = if k = Keyed.key r then some r else get rows k := by
  unfold get insert at *
  rw [List.find?_append]
  by_cases hk : k = Keyed.key r
  · subst hk
    simp [hnew]
  · have hne : (Keyed.key r == k) = false := by simpa using fun h => hk h.symm
    simp [hk, hne]

theorem keys_insert (hkeys : (rows.map Keyed.key).Nodup) (hnew : get rows (Keyed.key r) = none) :
    ((insert rows r).map Keyed.key).Nodup := by
  unfold insert
  rw [List.map_append, List.nodup_append]
  refine ⟨hkeys, by simp, ?_⟩
  intro k hk k' hk' heq
  obtain ⟨b, hb, hbk⟩ := List.mem_map.mp hk
  have hk'r : k' = Keyed.key r := by simpa using hk'
  have hrow := get_of_mem hkeys hb
  rw [hbk, heq, hk'r, hnew] at hrow
  cases hrow

theorem get_insert_self (rows : List ρ) (r : ρ) (hnew : get rows (Keyed.key r) = none) :
    get (insert rows r) (Keyed.key r) = some r := by
  rw [get_insert rows r hnew, if_pos rfl]

theorem get_insert_fresh (hkey : Keyed.key r = fresh rows) (k : Nat) :
    get (insert rows r) k = if k = fresh rows then some r else get rows k := by
  rw [← hkey]
  apply get_insert
  rw [hkey]
  exact get_fresh rows

theorem get_insert_of_get {r' : ρ} (hkey : Keyed.key r' = fresh rows) (h : get rows k = some r) :
    get (insert rows r') k = some r := by
  rw [get_insert_fresh hkey, if_neg]
  · exact h
  · intro heq
    rw [heq, get_fresh] at h
    cases h

theorem keys_insert_fresh (hkey : Keyed.key r = fresh rows) (hkeys : (rows.map Keyed.key).Nodup) :
    ((insert rows r).map Keyed.key).Nodup := by
  apply keys_insert hkeys
  rw [hkey]
  exact get_fresh rows

end CephAi.Verified.Table
