import Mathlib.Data.List.Nodup

/-!
# Opening what is reported, once

A table has live rows, at most one for each key.  A report is gone through entry by entry: an
entry that is known is left alone, any other is inserted, and an insert of a key that is live
fails and with it the whole transaction.  What is known is asked of a copy that was read
before, so an entry that is new is new for every entry with its key.

## Main results

* `openAll_isSome_iff` — when the report goes through.
* `exists_of_openAll` — what it adds.
* `length_filter_eq_one` — a live key has one row.
-/

namespace CephAi.Verified.Reconcile

/-- Rows with a key, some of them live. -/
structure Board (ρ κ : Type _) where
  key : ρ → κ
  live : ρ → Bool

variable {ρ κ ε : Type _} [DecidableEq κ]

namespace Board

variable (B : Board ρ κ)

/-- No two live rows have one key. -/
def Unique (rows : List ρ) : Prop :=
  (rows.filter B.live).Pairwise fun a b => B.key a ≠ B.key b

def holds (rows : List ρ) (k : κ) : Bool := rows.any fun r => B.live r && decide (B.key r = k)

def insert (rows : List ρ) (r : ρ) : Option (List ρ) :=
  if B.live r && B.holds rows (B.key r) then none else some (rows ++ [r])

/-- The report, entry by entry. -/
def openAll (make : List ρ → ε → ρ) (known : ε → Bool) : List ρ → List ε → Option (List ρ)
  | rows, [] => some rows
  | rows, e :: entries =>
    if known e then openAll make known rows entries
    else (B.insert rows (make rows e)).bind fun rows' => openAll make known rows' entries

theorem holds_iff (rows : List ρ) (k : κ) :
    B.holds rows k = true ↔ ∃ r ∈ rows, B.live r = true ∧ B.key r = k := by
  simp only [holds, List.any_eq_true, Bool.and_eq_true, decide_eq_true_eq]

theorem holds_append_singleton (rows : List ρ) (r : ρ) (k : κ) (hlive : B.live r = true) :
    B.holds (rows ++ [r]) k = true ↔ B.holds rows k = true ∨ B.key r = k := by
  simp only [holds_iff, List.mem_append, List.mem_singleton]
  constructor
  · rintro ⟨r', hr' | rfl, hlive', hkey⟩
    · exact Or.inl ⟨r', hr', hlive', hkey⟩
    · exact Or.inr hkey
  · rintro (⟨r', hr', hlive', hkey⟩ | hkey)
    · exact ⟨r', Or.inl hr', hlive', hkey⟩
    · exact ⟨r, Or.inr rfl, hlive, hkey⟩

variable {rows : List ρ}

theorem unique_append {new : List ρ} (h : B.Unique rows) (hnew : ∀ r ∈ new, B.live r = true)
    (hkeys : (new.map B.key).Nodup) (hfree : ∀ r ∈ new, B.holds rows (B.key r) = false) :
    B.Unique (rows ++ new) := by
  unfold Unique
  rw [List.filter_append, List.pairwise_append, List.filter_eq_self.mpr hnew]
  refine ⟨h, List.pairwise_map.mp hkeys, ?_⟩
  intro a ha b hb heq
  obtain ⟨ha, hlive⟩ := List.mem_filter.mp ha
  have hholds : B.holds rows (B.key b) = true := (B.holds_iff rows _).mpr ⟨a, ha, hlive, heq⟩
  rw [hfree b hb] at hholds
  cases hholds

omit [DecidableEq κ] in
theorem unique_close (h : B.Unique rows) (p : ρ → Bool) {close : ρ → ρ}
    (hclose : ∀ r, B.live (close r) = false) :
    B.Unique (rows.map fun r => if p r then close r else r) := by
  have hlive : (rows.map fun r => if p r then close r else r).filter B.live =
      (rows.filter B.live).filter fun r => !p r := by
    induction rows with
    | nil => rfl
    | cons r rows ih =>
      have hrest : B.Unique rows := h.sublist ((List.sublist_cons_self r rows).filter _)
      cases hp : p r <;> cases hl : B.live r <;> simp [hp, hl, hclose, ih hrest]
  unfold Unique
  rw [hlive]
  exact h.filter _

/-- **A live key has one row.** -/
theorem length_filter_eq_one (h : B.Unique rows) {k : κ} (hk : B.holds rows k = true) :
    (rows.filter fun r => B.live r && decide (B.key r = k)).length = 1 := by
  have hsplit : (rows.filter fun r => B.live r && decide (B.key r = k)) =
      (rows.filter B.live).filter fun r => decide (B.key r = k) := by
    rw [List.filter_filter]
    apply List.filter_congr
    intro r _
    rw [Bool.and_comm]
  obtain ⟨r, hr, hlive, hkey⟩ := (B.holds_iff rows k).mp hk
  have hmem : r ∈ (rows.filter B.live).filter fun r => decide (B.key r = k) := by
    simp [hr, hlive, hkey]
  rw [hsplit]
  cases hlist : (rows.filter B.live).filter fun r => decide (B.key r = k) with
  | nil =>
    rw [hlist] at hmem
    cases hmem
  | cons a rest =>
    cases rest with
    | nil => rfl
    | cons b rest =>
      have hpairs : ((rows.filter B.live).filter fun r => decide (B.key r = k)).Pairwise
          fun a b => B.key a ≠ B.key b := h.filter _
      have hall : ∀ c ∈ a :: b :: rest, B.key c = k := by
        intro c hc
        rw [← hlist] at hc
        simpa using (List.mem_filter.mp hc).2
      rw [hlist, List.pairwise_cons] at hpairs
      refine absurd ?_ (hpairs.1 b List.mem_cons_self)
      rw [hall a List.mem_cons_self, hall b (List.mem_cons_of_mem _ List.mem_cons_self)]

section Report

variable {make : List ρ → ε → ρ} {known : ε → Bool} {entryKey : ε → κ}
  (hkey : ∀ rows e, B.key (make rows e) = entryKey e)
  (hlive : ∀ rows e, B.live (make rows e) = true)

/-- The entries that are new. -/
def fresh (known : ε → Bool) (entries : List ε) : List ε := entries.filter fun e => !known e

include hkey hlive

/-- **When the report goes through**: no new entry has a key that is live, or that another
new entry has. -/
theorem openAll_isSome_iff :
    ∀ (entries : List ε) (rows : List ρ), (B.openAll make known rows entries).isSome = true ↔
      ((fresh known entries).map entryKey).Nodup ∧
        ∀ e ∈ fresh known entries, B.holds rows (entryKey e) = false := by
  intro entries
  induction entries with
  | nil =>
    intro rows
    simp [openAll, fresh]
  | cons e entries ih =>
    intro rows
    unfold openAll fresh
    by_cases hknown : known e = true
    · rw [if_pos hknown, List.filter_cons_of_neg (by simp [hknown])]
      exact ih rows
    · rw [if_neg hknown, List.filter_cons_of_pos (by simp [hknown])]
      rw [List.map_cons, List.nodup_cons, List.forall_mem_cons]
      unfold insert
      rw [hlive, hkey, Bool.true_and]
      cases hholds : B.holds rows (entryKey e) with
      | true => simp
      | false =>
        rw [if_neg Bool.false_ne_true, Option.bind_some, ih]
        have hafter : ∀ k, B.holds (rows ++ [make rows e]) k = false ↔
            B.holds rows k = false ∧ entryKey e ≠ k := by
          intro k
          rw [← Bool.not_eq_true, B.holds_append_singleton rows _ k (hlive rows e), hkey,
            not_or, Bool.not_eq_true]
        constructor
        · rintro ⟨hnodup, hfree⟩
          refine ⟨⟨?_, hnodup⟩, rfl, ?_⟩
          · intro hmem
            obtain ⟨e', he', heq⟩ := List.mem_map.mp hmem
            exact ((hafter _).mp (hfree e' he')).2 heq.symm
          · intro e' he'
            exact ((hafter _).mp (hfree e' he')).1
        · rintro ⟨⟨hnot, hnodup⟩, _, hfree⟩
          refine ⟨hnodup, ?_⟩
          intro e' he'
          refine (hafter _).mpr ⟨hfree e' he', ?_⟩
          intro heq
          exact hnot (List.mem_map.mpr ⟨e', he', heq.symm⟩)

/-- **What it adds**: live rows, one for each new entry. -/
theorem exists_of_openAll :
    ∀ (entries : List ε) (rows rows' : List ρ), B.openAll make known rows entries = some rows' →
      ∃ new, rows' = rows ++ new ∧ new.map B.key = (fresh known entries).map entryKey ∧
        ∀ r ∈ new, B.live r = true := by
  intro entries
  induction entries with
  | nil =>
    intro rows rows' h
    cases h
    exact ⟨[], (List.append_nil _).symm, rfl, fun r hr => (nomatch hr)⟩
  | cons e entries ih =>
    intro rows rows' h
    unfold openAll at h
    unfold fresh
    by_cases hknown : known e = true
    · rw [if_pos hknown] at h
      rw [List.filter_cons_of_neg (by simp [hknown])]
      exact ih rows rows' h
    · rw [if_neg hknown] at h
      rw [List.filter_cons_of_pos (by simp [hknown])]
      obtain ⟨rows₁, hinsert, hrest⟩ := Option.bind_eq_some_iff.mp h
      unfold insert at hinsert
      split_ifs at hinsert
      cases hinsert
      obtain ⟨new, hrows, hkeys, hnew⟩ := ih _ rows' hrest
      refine ⟨make rows e :: new, by rw [hrows]; simp, ?_, ?_⟩
      · rw [List.map_cons, List.map_cons, hkey, hkeys]
        rfl
      · intro r hr
        rcases List.mem_cons.mp hr with rfl | hr
        · exact hlive rows e
        · exact hnew r hr

end Report

end Board

end CephAi.Verified.Reconcile
