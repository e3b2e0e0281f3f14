import CephAi.Verified.Runs
import Mathlib.Logic.Function.Basic
import Mathlib.Tactic.ByContra

/-!
# The generations of a versioned cache value

`store_versioned`, `update_value`, `get_or_load`, `invalidate` and `prune_disk_cache` of
`shared/ceph_query_cache.py` on the record of one key.

Whatever writes the record or invalidates it does so under the key's lock, for all processes;
pruning unlinks it without the lock.  `store_versioned` and `update_value` read the record from
disk, so the processes' copies in memory, which `get_cached` fills, have no part in it.

## Main results

* `kept_step` — what one step keeps.
* `generations_increase` — generations go up and an update keeps them, where no record is
  forgotten.
* `generation_reused` — an invalidation is all it takes.
-/

namespace CephAi.Ports.CacheGenerations

open Verified.Runs

/-- What `int` does with a value. -/
inductive Int_
  | value (n : Int)
  /-- `TypeError`, `ValueError` -/
  | caught
  | uncaught
deriving DecidableEq, Repr

/-- The values in a dictionary. -/
structure Values (G : Type) where
  ofInt : Int → G
  int : G → Int_

/-- `int` of an integer is the integer. -/
def Values.Lawful {G : Type} (V : Values G) : Prop := ∀ n, V.int (V.ofInt n) = .value n

/-- A JSON value: a dictionary, or anything else. -/
inductive Value (G : Type)
  | dict (entries : String → Option G)
  | other

structure Record (G : Type) where
  createdAt : Int
  value : Value G

variable {G : Type}

/-- `int(previous_value.get("generation", 0))`, and 0 where that raises what is caught; `none`
where it raises something else. -/
def previousGeneration (V : Values G) : Value G → Option Int
  | .other => some 0
  | .dict entries =>
    match entries "generation" with
    | none => some 0
    | some g =>
      match V.int g with
      | .value n => some n
      | .caught => some 0
      | .uncaught => none

/-- `stored["generation"] = ...` -/
def setGeneration (V : Values G) (entries : String → Option G) (n : Int) : String → Option G :=
  Function.update entries "generation" (some (V.ofInt n))

/-- `stored.update(updates)` -/
def updated (entries updates : String → Option G) : String → Option G :=
  fun key => (updates key).or (entries key)

/-- What the holder of the key's lock is about. -/
inductive Section (G : Type)
  /-- `store_versioned`, before it has read the record and after -/
  | storeVersioned (value : String → Option G)
  | versioned (value : String → Option G) (previous : Int)
  /-- `update_value`, likewise -/
  | updateValue (updates : String → Option G)
  | updating (record : Record G) (entries updates : String → Option G)
  /-- `get_or_load`, with what the loader returned -/
  | load (value : Value G)
  | invalidate

/-- The record on disk, the section that has the key's lock, and the generations that
`store_versioned` has issued, the latest first. -/
structure World (G : Type) where
  file : Option (Record G)
  section_ : Option (Section G)
  issued : List Int

inductive Label (G : Type)
  /-- A call gets the key's lock; one of `get_or_load` that has to load has its value. -/
  | begin_ (s : Section G)
  /-- The record is read; where it is not `readable`, its checksum, its text or the file system
  fails. -/
  | read (readable : Bool)
  | write (now : Int) (written : Bool)
  | unlink (unlinked : Bool)
  /-- `prune_disk_cache` removes the record. -/
  | prune
  /-- The holder of the lock ends without more. -/
  | leave

def World.read (w : World G) (readable : Bool) : Option (Record G) :=
  if readable = true then w.file else none

def step (V : Values G) (w : World G) : Label G → Option (World G)
  | .begin_ s =>
    match w.section_, s with
    | none, .storeVersioned _ | none, .updateValue _ | none, .load _ | none, .invalidate =>
      some { w with section_ := some s }
    | _, _ => none
  | .read readable =>
    match w.section_ with
    | some (.storeVersioned value) =>
      match w.read readable with
      | none => some { w with section_ := some (.versioned value 0) }
      | some r =>
        match previousGeneration V r.value with
        | none => some { w with section_ := none }
        | some n => some { w with section_ := some (.versioned value n) }
    | some (.updateValue updates) =>
      match w.read readable with
      | none => some { w with section_ := none }
      | some r =>
        match r.value with
        | .other => some { w with section_ := none }
        | .dict entries => some { w with section_ := some (.updating r entries updates) }
    | _ => none
  | .write now written =>
    match w.section_ with
    | some (.versioned value previous) =>
      -- where it was not written, `CachePersistenceError` is raised
      if written = true then
        some ⟨some ⟨now, .dict (setGeneration V value (max 0 previous + 1))⟩, none,
          (max 0 previous + 1) :: w.issued⟩
      else some { w with section_ := none }
    | some (.updating r entries updates) =>
      if written = true then
        some { w with
          file := some ⟨r.createdAt, .dict (updated entries updates)⟩
          section_ := none }
      else some { w with section_ := none }
    | some (.load value) =>
      if written = true then some { w with file := some ⟨now, value⟩, section_ := none }
      else some { w with section_ := none }
    | _ => none
  | .unlink unlinked =>
    match w.section_ with
    | some .invalidate =>
      if unlinked = true then some { w with file := none, section_ := none }
      else some { w with section_ := none }
    | _ => none
  | .prune => some { w with file := none }
  | .leave => if w.section_.isSome = true then some { w with section_ := none } else none

section

-- the equations, made once for all the proofs that use them
attribute [local simp] step

end

def system (V : Values G) : System (World G) (Label G) := ⟨step V⟩

/-- Before the first call: whatever is on disk. -/
structure Start (w : World G) : Prop where
  section_ : w.section_ = none
  issued : w.issued = []

/-! ## The law -/

def generation : Value G → Option G
  | .other => none
  | .dict entries => entries "generation"

/-- The generations that were issued are increasing, and an update keeps the generation and the
time of the record that it has read. -/
def Ordered (w : World G) (l : Label G) (w' : World G) : Prop :=
  w'.issued.Pairwise (fun later earlier => earlier < later) ∧
    match w.section_, l with
    | some (.updating r _ _), .write _ true => ∀ r', w'.file = some r' →
      r'.createdAt = r.createdAt ∧ generation r'.value = generation r.value
    | _, _ => True

/-- The value goes on from the last generation that was issued. -/
def GoesOn (V : Values G) (w : World G) (value : Value G) : Prop :=
  ∀ n ∈ w.issued.head?, ∀ g, previousGeneration V value = some g → n ≤ g

/-- Once a generation was issued, no record is removed or taken for missing, none is written over
by a value that does not go on from it, and no update names another generation. -/
def Remembers (V : Values G) (w : World G) (l : Label G) : Prop :=
  match l, w.section_ with
  | .prune, _ | .unlink true, _ => w.issued = []
  | .read false, some (.storeVersioned _) => w.issued = []
  | .write _ true, some (.load value) => GoesOn V w value
  | .write _ true, some (.updating r _ updates) =>
    updates "generation" = none ∨ updates "generation" = generation r.value
  | _, _ => True

/-! ## What is kept -/

/-- What the section under the lock has read. -/
def Section.Kept (V : Values G) (w : World G) : Option (Section G) → Prop
  | some (.versioned _ previous) => ∀ n ∈ w.issued.head?, n ≤ previous
  | some (.updating r entries _) => r.value = .dict entries ∧ GoesOn V w r.value
  | _ => True

/-- **Invariant.** -/
structure Kept (V : Values G) (w : World G) : Prop where
  ordered : w.issued.Pairwise fun later earlier => earlier < later
  file : w.issued ≠ [] → ∃ r, w.file = some r ∧ GoesOn V w r.value
  section_ : Section.Kept V w w.section_

variable {V : Values G} {w : World G}

theorem goesOn_nil (h : w.issued = []) (value : Value G) : GoesOn V w value := by
  intro n hn
  rw [h] at hn
  cases hn

section

variable (h : Kept V w)
include h

theorem Kept.read {readable : Bool} {r : Record G}
    (hread : w.read readable = some r) : GoesOn V w r.value := by
  unfold World.read at hread
  split at hread
  · by_cases hissued : w.issued = []
    · exact goesOn_nil hissued r.value
    · obtain ⟨r', hr', hgoes⟩ := h.file hissued
      rw [hread, Option.some.injEq] at hr'
      exact hr' ▸ hgoes
  · cases hread

theorem Kept.missed {readable : Bool} (hread : w.read readable = none)
    (hreadable : readable = false → w.issued = []) : w.issued = [] := by
  cases readable with
  | false => exact hreadable rfl
  | true =>
    have hnone : w.file = none := hread
    by_contra hissued
    obtain ⟨r, hr, -⟩ := h.file hissued
    rw [hnone] at hr
    cases hr

theorem Kept.leave : Kept V { w with section_ := none } :=
  ⟨h.ordered, h.file, True.intro⟩

theorem Kept.enter {s : Section G} (hs : Section.Kept V w (some s)) :
    Kept V { w with section_ := some s } := by
  refine ⟨h.ordered, h.file, ?_⟩
  cases s <;> exact hs

theorem Kept.put {r : Record G} (hgoes : GoesOn V w r.value) :
    Kept V { w with file := some r, section_ := none } :=
  ⟨h.ordered, fun _ => ⟨r, rfl, hgoes⟩, True.intro⟩

theorem Kept.remove (hissued : w.issued = []) (s : Option (Section G))
    (hs : s = w.section_ ∨ s = none) : Kept V { w with file := none, section_ := s } := by
  refine ⟨h.ordered, fun hne => absurd hissued hne, ?_⟩
  rcases hs with rfl | rfl
  · have hsection := h.section_
    cases hat : w.section_ with
    | none => exact True.intro
    | some s =>
      rw [hat] at hsection
      cases s <;> exact hsection
  · exact True.intro

end

theorem previousGeneration_set (hV : V.Lawful) (entries : String → Option G) (n : Int) :
    previousGeneration V (.dict (setGeneration V entries n)) = some n := by
  unfold previousGeneration setGeneration
  simp only [Function.update_self, hV n]

theorem Kept.issue (hV : V.Lawful) (h : Kept V w) {previous : Int}
    (hprevious : ∀ n ∈ w.issued.head?, n ≤ previous) (now : Int) (value : String → Option G) :
    Kept V ⟨some ⟨now, .dict (setGeneration V value (max 0 previous + 1))⟩, none,
      (max 0 previous + 1) :: w.issued⟩ := by
  refine ⟨?_, ?_, True.intro⟩
  · rw [List.pairwise_cons]
    refine ⟨?_, h.ordered⟩
    intro n hn
    have hordered := h.ordered
    cases hissued : w.issued with
    | nil =>
      rw [hissued] at hn
      cases hn
    | cons last earlier =>
      have hlast : last ≤ previous := hprevious last (by rw [hissued]; rfl)
      rw [hissued] at hn hordered
      rcases List.mem_cons.mp hn with rfl | hn
      · omega
      · have hlt := (List.pairwise_cons.mp hordered).1 n hn
        omega
  · intro _
    refine ⟨_, rfl, ?_⟩
    intro n hn g hg
    cases hn
    rw [previousGeneration_set hV] at hg
    cases hg
    exact Int.le_refl _

theorem generation_updated {entries updates : String → Option G}
    (h : updates "generation" = none ∨ updates "generation" = entries "generation") :
    updated entries updates "generation" = entries "generation" := by
  unfold updated
  rcases h with h | h
  · rw [h]
    rfl
  · rw [h, Option.or_self]

theorem goesOn_updated {entries updates : String → Option G} (h : GoesOn V w (.dict entries))
    (hsame : updated entries updates "generation" = entries "generation") :
    GoesOn V w (.dict (updated entries updates)) := by
  intro n hn g hg
  apply h n hn g
  simpa only [previousGeneration, hsame] using hg

/-- **Step lemma.**  What one step keeps. -/
theorem kept_step (hV : V.Lawful) (w : World G) (l : Label G) (w' : World G) (h : Kept V w)
    (hl : Remembers V w l) (hstep : (system V).step w l = some w') : Kept V w' := by
  have hsection := h.section_
  change CacheGenerations.step V w l = some w' at hstep
  revert hstep
  fun_cases CacheGenerations.step V w l <;> rintro ⟨⟩
  · exact h.enter True.intro
  · exact h.enter True.intro
  · exact h.enter True.intro
  · exact h.enter True.intro
  next readable _ hat hmissed =>
    have hissued := h.missed hmissed fun hfalse => by
      subst hfalse
      simpa only [Remembers, hat] using hl
    apply h.enter
    intro n hn
    rw [hissued] at hn
    cases hn
  · exact h.leave
  next hread previous hprevious =>
    apply h.enter
    intro n hn
    exact h.read hread n hn previous hprevious
  · exact h.leave
  · exact h.leave
  next hread _ hvalue => exact h.enter ⟨hvalue, h.read hread⟩
  next now value previous hat =>
    rw [hat] at hsection
    exact h.issue hV hsection now value
  · exact h.leave
  next now r entries updates hat =>
    rw [hat] at hsection
    obtain ⟨hvalue, hgoes⟩ := hsection
    have hnamed : updates "generation" = none ∨
        updates "generation" = entries "generation" := by
      simpa only [Remembers, hat, hvalue, generation] using hl
    apply h.put
    exact goesOn_updated (hvalue ▸ hgoes) (generation_updated hnamed)
  · exact h.leave
  next now value hat =>
    apply h.put
    simpa only [Remembers, hat] using hl
  · exact h.leave
  · exact h.remove hl none (.inr rfl)
  · exact h.leave
  · exact h.remove hl w.section_ (.inl rfl)
  · exact h.leave

theorem ordered_step (w : World G) (l : Label G) (w' : World G) (h : Kept V w) (h' : Kept V w')
    (hl : Remembers V w l) (hstep : (system V).step w l = some w') : Ordered w l w' := by
  refine ⟨h'.ordered, ?_⟩
  split
  · rename_i _ r entries updates now hat
    intro r' hr'
    have hsection := h.section_
    rw [hat] at hsection
    simp only [system, step, hat, if_true] at hstep
    cases hstep
    cases hr'
    have hnamed : updates "generation" = none ∨ updates "generation" = entries "generation" := by
      simpa only [Remembers, hat, hsection.1, generation] using hl
    refine ⟨rfl, ?_⟩
    rw [hsection.1]
    exact generation_updated hnamed
  · exact True.intro

/-- **Generations go up, and an update keeps them**, in the runs in which no record is forgotten
once a generation was issued. -/
theorem generations_increase (V : Values G) (hV : V.Lawful) (w : World G) (run : List (Label G))
    (hw : Start w) (hrun : (system V).Meets (Remembers V) w run) :
    (system V).Always Ordered w run := by
  have hkept : Kept V w := by
    refine ⟨?_, ?_, ?_⟩
    · rw [hw.issued]
      exact List.Pairwise.nil
    · intro hne
      exact absurd hw.issued hne
    · rw [hw.section_]
      exact True.intro
  apply (system V).always_of_meets Ordered (Remembers V) (Kept V) _ run w hkept hrun
  intro w l w' h hl hstep
  have h' := kept_step hV w l w' h hl hstep
  exact ⟨ordered_step w l w' h h' hl hstep, h'⟩

def integers : Values Int where
  ofInt := id
  int := .value

theorem integers_lawful : integers.Lawful := fun _ => rfl

def absent : World Int := ⟨none, none, []⟩

def publishes : List (Label Int) :=
  [.begin_ (.storeVersioned fun _ => none), .read true, .write 0 true]

/-- The record is invalidated between two values: the generation is used once more. -/
theorem generation_reused :
    ¬∀ (w : World Int) (run : List (Label Int)), Start w →
      (system integers).Always Ordered w run := by
  intro h
  have hlast : Ordered _ (.write 0 true) _ :=
    System.Always.step_after rfl
      (publishes ++ [.begin_ .invalidate, .unlink true, .begin_ (.storeVersioned fun _ => none),
        .read true]) absent
      (h absent (publishes ++ [.begin_ .invalidate, .unlink true,
        .begin_ (.storeVersioned fun _ => none), .read true] ++ [.write 0 true]) ⟨rfl, rfl⟩) rfl
  have hpairs := hlast.1
  exact absurd hpairs (by decide)

/-- Two values one after the other, and a failed refresh noted in between. -/
theorem generations_increase_noted : (system integers).Always Ordered absent
    (publishes ++ [.begin_ (.updateValue fun key => if key = "error" then some 1 else none),
      .read true, .write 1 true] ++ publishes) := by
  apply generations_increase integers integers_lawful absent _ ⟨rfl, rfl⟩
  exact ⟨True.intro, True.intro, True.intro, True.intro, True.intro, .inl rfl, True.intro,
    True.intro, True.intro, True.intro⟩

end CephAi.Ports.CacheGenerations
