import CephAi.Verified.Runs
import Mathlib.Logic.Function.Basic

/-!
# The ledger of repair attempts

`_load_state`, `_save_state`, `run_repair` (as far as it reads and writes the ledger) and
`reconcile_stale_attempts_file` of `worker/code_repair.py`.

The ledger is one JSON file for all fingerprints.  A pipeline reads it at its start, saves it with
its `RUNNING` record, and saves what it has read once more, with its result, at its end.  A save
writes a temporary file of a fixed name and renames it.

## Main results

* `kept_step` — what one step keeps.
* `bounded_run` — the bounds on attempts hold in the runs in which every save finds the file as its
  call has last read or saved it.
* `attempt_rolled_back` — two pipelines that overlap.
-/

namespace CephAi.Ports.RepairLedger

open Verified.Runs

/-! ## The ledger -/

/-- The statuses of an attempt. -/
inductive Status
  | running
  | failed
  | failedStale
  | noChange
  | pushed
  | committed
  | patchReady
  | stagingVerified
  | promoted
deriving DecidableEq, Repr

def Status.terminal : Status → Bool
  | .pushed | .committed | .patchReady | .stagingVerified | .promoted => true
  | _ => false

/-- A record.  A time that cannot be parsed is none. -/
structure Attempt where
  status : Status
  branch : Option String
  startedAt : Option Int
  attemptCount : Option Int
deriving DecidableEq, Repr

variable {K : Type} [DecidableEq K]

/-- `state["attempts"]` -/
abbrev Ledger (K : Type) := List (K × Attempt)

/-- `state["attempts"][fp] = ...` -/
def set (ledger : Ledger K) (k : K) (a : Attempt) : Ledger K :=
  if (ledger.lookup k).isSome = true then
    ledger.map fun entry => if entry.1 = k then (entry.1, a) else entry
  else ledger ++ [(k, a)]

def previousAttempts : Option Attempt → Int
  | none => 0
  | some a =>
    match a.attemptCount with
    | none => 1
    | some n => if n = 0 then 1 else n

/-- `max_pipeline_attempts`, and the seconds after which a `RUNNING` record is stale. -/
structure Config where
  maxPipelineAttempts : Int
  staleSeconds : Int

/-- The record of a pipeline that started then is stale. -/
def Config.stale (cfg : Config) (now startedAt : Int) : Prop := cfg.staleSeconds < now - startedAt

instance (cfg : Config) (now startedAt : Int) : Decidable (cfg.stale now startedAt) :=
  inferInstanceAs (Decidable (_ < _))

def staleRunning (cfg : Config) (now : Int) (a : Attempt) : Bool :=
  match a.startedAt with
  | none => true
  | some startedAt => cfg.stale now startedAt

/-- A call without `force` is `SKIPPED_DUPLICATE`. -/
def skips (cfg : Config) (now : Int) : Option Attempt → Bool
  | none => false
  | some a =>
    a.status.terminal ||
      decide (cfg.maxPipelineAttempts ≤ previousAttempts (some a)) ||
        (decide (a.status = .running) && !staleRunning cfg now a)

/-- The age of a record for `reconcile_stale_attempts`. -/
def age (cfg : Config) (now : Int) (a : Attempt) : Int :=
  match a.startedAt with
  | none => cfg.staleSeconds + 1
  | some startedAt => now - startedAt

/-- The record is `RUNNING` and too old. -/
def interrupted (cfg : Config) (now : Int) (a : Attempt) : Bool :=
  a.status = .running ∧ max 0 cfg.staleSeconds < age cfg now a

/-- `reconcile_stale_attempts`, on one record -/
def reconciled (cfg : Config) (now : Int) (a : Attempt) : Attempt :=
  if interrupted cfg now a = true then { a with status := .failedStale } else a

def reconcileStaleAttempts (cfg : Config) (now : Int) (ledger : Ledger K) : Ledger K :=
  ledger.map fun entry => (entry.1, reconciled cfg now entry.2)

/-- The branches that it returns. -/
def staleBranches (cfg : Config) (now : Int) (ledger : Ledger K) : List String :=
  (ledger.filter fun entry => interrupted cfg now entry.2).filterMap fun entry =>
    entry.2.branch.filter (· ≠ "")

/-! ## Calls -/

inductive Job (K : Type)
  | repair (k : K) (force : Bool)
  | reconcile
deriving DecidableEq, Repr

/-- What a save is for.  `previous` is the count before this attempt. -/
inductive Purpose
  | start (previous startedAt : Int) (branch : String)
  | finish (previous startedAt : Int) (branch : String)
  | reconcile
deriving DecidableEq, Repr

/-- Where a call is. -/
inductive Pc
  | load
  | decide
  | ready (previous : Int)
  | run (previous startedAt : Int) (branch : String)
  | reconcile
  | save (purpose : Purpose) (inode : Nat) (written : Bool)
deriving DecidableEq, Repr

/-- A call: the ledger that it holds, and what it has last read or saved. -/
structure Call (K : Type) where
  job : Job K
  ledger : Ledger K
  read : Ledger K
  pc : Pc
deriving DecidableEq, Repr

/-- The files by their inodes (no content: what is there is no JSON), the clock, and how many
pipelines were started without `force`. -/
structure World (K : Type) where
  now : Int
  content : Nat → Option (Ledger K)
  file : Option Nat
  tmp : Option Nat
  next : Nat
  calls : Nat → Option (Call K)
  unforced : K → Nat

/-- `_load_state` -/
def World.ledger (w : World K) : Ledger K :=
  match w.file with
  | none => []
  | some inode => (w.content inode).getD []

def World.goOn (w : World K) (c : Nat) (call : Call K) : World K :=
  { w with calls := Function.update w.calls c (some call) }

def World.finish (w : World K) (c : Nat) : World K :=
  { w with calls := Function.update w.calls c none }

/-- The temporary file is opened, and emptied. -/
def World.openTmp (w : World K) (c : Nat) (call : Call K) (ledger : Ledger K)
    (purpose : Purpose) : World K :=
  match w.tmp with
  | some inode =>
    World.goOn { w with content := Function.update w.content inode none } c
      { call with ledger := ledger, pc := .save purpose inode false }
  | none =>
    World.goOn { w with
      content := Function.update w.content w.next none
      tmp := some w.next
      next := w.next + 1 } c
      { call with ledger := ledger, pc := .save purpose w.next false }

/-- After a save: the pipeline runs, or the call is over. -/
def World.saved (w : World K) (c : Nat) (call : Call K) : Purpose → World K
  | .start previous startedAt branch =>
    match call.job with
    | .repair k false =>
      World.goOn { w with unforced := Function.update w.unforced k (w.unforced k + 1) } c
        { call with read := call.ledger, pc := .run previous startedAt branch }
    | _ => w.goOn c { call with read := call.ledger, pc := .run previous startedAt branch }
  | .finish _ _ _ | .reconcile => w.finish c

/-- What a call does next. -/
inductive Action
  | load
  | decide
  /-- The `RUNNING` record of a pipeline, with the time it has read from the clock. -/
  | record (startedAt : Int) (branch : String)
  /-- The pipeline ends. -/
  | finish (status : Status)
  | persist
  | write
  | replace
  /-- The call raises, or its process dies. -/
  | die
deriving DecidableEq, Repr

/-- One step of a call; `none` where it is at another place. -/
def World.act (cfg : Config) (w : World K) (c : Nat) (call : Call K) (action : Action) :
    Option (World K) :=
  match action, call.pc, call.job with
  | .load, .load, _ => some (w.goOn c ⟨call.job, w.ledger, w.ledger, .decide⟩)
  | .decide, .decide, .repair k force =>
    if force = false ∧ skips cfg w.now (call.ledger.lookup k) = true then some (w.finish c)
    else some (w.goOn c { call with pc := .ready (previousAttempts (call.ledger.lookup k)) })
  | .decide, .decide, .reconcile =>
    if staleBranches cfg w.now call.ledger = [] then some (w.finish c)
    else some (w.goOn c { call with
      ledger := reconcileStaleAttempts cfg w.now call.ledger
      pc := .reconcile })
  | .record startedAt branch, .ready previous, .repair k _ =>
    if startedAt ≤ w.now then
      some (w.openTmp c call
        (set call.ledger k ⟨.running, some branch, some startedAt, some (previous + 1)⟩)
        (.start previous startedAt branch))
    else none
  | .finish status, .run previous startedAt branch, .repair k _ =>
    some (w.openTmp c call (set call.ledger k ⟨status, some branch, none, some (previous + 1)⟩)
      (.finish previous startedAt branch))
  | .persist, .reconcile, _ => some (w.openTmp c call call.ledger .reconcile)
  | .write, .save purpose inode false, _ =>
    some (World.goOn { w with content := Function.update w.content inode (some call.ledger) } c
      { call with pc := .save purpose inode true })
  | .replace, .save purpose _ true, _ =>
    match w.tmp with
    | none => some (w.finish c)
    | some inode => some (World.saved { w with file := some inode, tmp := none } c call purpose)
  | .die, _, _ => some (w.finish c)
  | _, _, _ => none

section

-- the equations, made once for all the proofs that use them
attribute [local simp] World.act

end

inductive Label (K : Type)
  | wait (now : Int)
  | start (c : Nat) (job : Job K)
  | next (c : Nat) (action : Action)
deriving DecidableEq, Repr

def step (cfg : Config) (w : World K) : Label K → Option (World K)
  | .wait now => if w.now ≤ now then some { w with now := now } else none
  | .start c job =>
    match w.calls c with
    | none => some (w.goOn c ⟨job, [], [], .load⟩)
    | some _ => none
  | .next c action =>
    match w.calls c with
    | none => none
    | some call => w.act cfg c call action

def system (cfg : Config) : System (World K) (Label K) := ⟨step cfg⟩

/-- Before the first call.  The file may hold any ledger, with counts that are not negative. -/
structure Start (w : World K) : Prop where
  counts : ∀ k a n, w.ledger.lookup k = some a → a.attemptCount = some n → 0 ≤ n
  inodes : ∀ i, w.file = some i ∨ w.tmp = some i → i < w.next
  apart : ∀ i, w.tmp = some i → w.file ≠ some i
  calls : w.calls = fun _ => none
  unforced : w.unforced = fun _ => 0

/-! ## The law -/

/-- A call is about to rename the file for this purpose. -/
def Call.renames (call : Call K) : Option Purpose :=
  match call.pc with
  | .save purpose _ true => some purpose
  | _ => none

/-- The pipeline that a call runs: its fingerprint, the count before it and when it was started. -/
def Call.pipeline (call : Call K) : Option (K × Int × Int) :=
  match call.job, call.pc with
  | .repair k _, .run previous startedAt _
  | .repair k _, .save (.finish previous startedAt _) _ _ =>
    some (k, previous, startedAt)
  | _, _ => none

/-- Every other pipeline of the fingerprint is stale. -/
def OthersStale (cfg : Config) (w : World K) (c : Nat) (k : K) : Prop :=
  ∀ c' call', c' ≠ c → w.calls c' = some call' → ∀ previous startedAt,
    call'.pipeline = some (k, previous, startedAt) → cfg.stale w.now startedAt

/-- The law of a save by the call `c`.  One that starts a pipeline: not too many without `force`,
none beside another one that is not stale.  One that ends it: nothing of another fingerprint
changes. -/
def SaveBounded (cfg : Config) (w w' : World K) (c : Nat) (call : Call K) : Prop :=
  match call.job, call.renames with
  | .repair k force, some (.start _ _ _) =>
    (force = false → (w'.unforced k : Int) ≤ cfg.maxPipelineAttempts) ∧ OthersStale cfg w c k
  | .repair k _, some (.finish _ _ _) => ∀ k', k' ≠ k → w'.ledger.lookup k' = w.ledger.lookup k'
  | _, _ => True

def Bounded (cfg : Config) (w : World K) (l : Label K) (w' : World K) : Prop :=
  match l with
  | .next c .replace => ∀ call, w.calls c = some call → SaveBounded cfg w w' c call
  | _ => True

def Call.saving (call : Call K) : Bool :=
  match call.pc with
  | .save _ _ _ => true
  | _ => false

/-- A save that starts finds the file as its call has last read or saved it, and no other one under
way. -/
def Undisturbed (w : World K) (c : Nat) (call : Call K) : Prop :=
  w.ledger = call.read ∧
    ∀ c' call', c' ≠ c → w.calls c' = some call' → call'.saving = false

/-- A pipeline is started without `force` with a bound that allows for one, with `force` beside
stale ones only. -/
def StartsAlone (cfg : Config) (w : World K) (c : Nat) (call : Call K) : Prop :=
  match call.job, call.renames with
  | .repair k true, some (.start _ _ _) => OthersStale cfg w c k
  | .repair _ false, some (.start _ _ _) => 1 ≤ cfg.maxPipelineAttempts
  | _, _ => True

def Alone (cfg : Config) (w : World K) (l : Label K) : Prop :=
  match l with
  | .next c (.record _ _) | .next c (.finish _) | .next c .persist =>
    ∀ call, w.calls c = some call → Undisturbed w c call
  | .next c .replace => ∀ call, w.calls c = some call → StartsAlone cfg w c call
  | _ => True

/-! ## Lookups -/

theorem lookup_map (ledger : Ledger K) (f : Attempt → Attempt) (k : K) :
    (ledger.map fun entry => (entry.1, f entry.2)).lookup k = (ledger.lookup k).map f := by
  induction ledger with
  | nil => rfl
  | cons entry ledger ih =>
    rw [List.map_cons, List.lookup_cons, List.lookup_cons]
    cases k == entry.1 with
    | true => rfl
    | false => exact ih

theorem lookup_set (ledger : Ledger K) (k : K) (a : Attempt) (k' : K) :
    (set ledger k a).lookup k' = if k' = k then some a else ledger.lookup k' := by
  have hreplace : ∀ ledger : Ledger K,
      (ledger.map fun entry => if entry.1 = k then (entry.1, a) else entry).lookup k' =
        if k' = k then (ledger.lookup k).map fun _ => a else ledger.lookup k' := by
    intro ledger
    induction ledger with
    | nil => split <;> rfl
    | cons entry ledger ih =>
      obtain ⟨k₀, a₀⟩ := entry
      rw [List.map_cons]
      by_cases hk : k₀ = k
      · subst hk
        by_cases hk' : k' = k₀
        · subst hk'
          simp
        · rw [if_neg hk'] at ih ⊢
          simp only [if_true, List.lookup_cons, beq_eq_false_iff_ne.mpr hk', ih]
      · simp only [if_neg hk, List.lookup_cons, ih]
        by_cases hk' : k' = k
        · subst hk'
          simp only [beq_eq_false_iff_ne.mpr (Ne.symm hk), if_true]
        · rw [if_neg hk', if_neg hk']
  have happend : ∀ ledger : Ledger K, ledger.lookup k = none →
      (ledger ++ [(k, a)]).lookup k' = if k' = k then some a else ledger.lookup k' := by
    intro ledger hnone
    rw [List.lookup_append, List.lookup_cons, List.lookup_nil]
    by_cases hk' : k' = k
    · subst hk'
      simp [hnone]
    · simp [beq_eq_false_iff_ne.mpr hk', hk']
  unfold set
  cases hlookup : ledger.lookup k with
  | none => exact happend ledger hlookup
  | some a₀ =>
    rw [Option.isSome_some, if_pos rfl, hreplace, hlookup]
    rfl

/-! ## What is kept -/

/-- The record of a pipeline that runs. -/
def runningRecord (previous startedAt : Int) (branch : String) : Attempt :=
  ⟨.running, some branch, some startedAt, some (previous + 1)⟩

/-- What a call has found that starts a pipeline. -/
def Found (cfg : Config) (now : Int) (read : Ledger K) (k : K) (force : Bool) (previous : Int) :
    Prop :=
  previous = previousAttempts (read.lookup k) ∧
    (force = false → ∃ t, t ≤ now ∧ skips cfg t (read.lookup k) = false)

/-- What a call has found that ends a pipeline: its own record. -/
def Own (read : Ledger K) (k : K) (previous startedAt : Int) (branch : String) : Prop :=
  0 ≤ previous ∧ read.lookup k = some (runningRecord previous startedAt branch)

/-- What a call holds, against what it has read. -/
def Call.Data (cfg : Config) (now : Int) (call : Call K) : Prop :=
  match call.pc, call.job with
  | .load, _ => True
  | .decide, _ => call.ledger = call.read
  | .ready previous, .repair k force =>
    call.ledger = call.read ∧ Found cfg now call.read k force previous
  | .run previous startedAt branch, .repair k _ =>
    call.ledger = call.read ∧ Own call.read k previous startedAt branch
  | .save (.start previous startedAt branch) _ _, .repair k force =>
    call.ledger = set call.read k (runningRecord previous startedAt branch) ∧
      Found cfg now call.read k force previous
  | .save (.finish previous startedAt branch) _ _, .repair k _ =>
    (∃ status, call.ledger = set call.read k ⟨status, some branch, none, some (previous + 1)⟩) ∧
      Own call.read k previous startedAt branch
  | .reconcile, .reconcile | .save .reconcile _ _, .reconcile =>
    ∃ t, t ≤ now ∧ call.ledger = reconcileStaleAttempts cfg t call.read
  | _, _ => False

/-- A save under way: nobody else saves, and the file is as it was read. -/
structure Saving (w : World K) (c : Nat) (call : Call K) (inode : Nat) (written : Bool) : Prop where
  tmp : w.tmp = some inode
  content : written = true → w.content inode = some call.ledger
  undisturbed : Undisturbed w c call

/-- The record of a pipeline is its own, or the pipeline is stale. -/
def Recorded (cfg : Config) (now : Int) (ledger : Ledger K) (k : K) (previous startedAt : Int) :
    Prop :=
  previous + 1 ≤ previousAttempts (ledger.lookup k) ∧
    ((∃ branch, ledger.lookup k = some (runningRecord previous startedAt branch)) ∨
      cfg.stale now startedAt)

/-- The pipelines that run, against the ledger: no two of a fingerprint with one count. -/
structure Pipelines (cfg : Config) (now : Int) (ledger : Ledger K)
    (calls : Nat → Option (Call K)) : Prop where
  recorded : ∀ c call k previous startedAt, calls c = some call →
    call.pipeline = some (k, previous, startedAt) → Recorded cfg now ledger k previous startedAt
  distinct : ∀ c c' call call' k previous startedAt startedAt', c ≠ c' → calls c = some call →
    calls c' = some call' → call.pipeline = some (k, previous, startedAt) →
    call'.pipeline ≠ some (k, previous, startedAt')

/-- The counts of a ledger: of at least one attempt where there is a record, and no fewer than the
pipelines that were started without `force`. -/
structure Counted (ledger : Ledger K) (unforced : K → Nat) : Prop where
  pos : ∀ k a, ledger.lookup k = some a → 1 ≤ previousAttempts (some a)
  unforced : ∀ k, (unforced k : Int) ≤ previousAttempts (ledger.lookup k)

/-- **Invariant.** -/
structure Kept (cfg : Config) (w : World K) : Prop where
  inodes : ∀ i, w.file = some i ∨ w.tmp = some i → i < w.next
  apart : ∀ i, w.tmp = some i → w.file ≠ some i
  data : ∀ c call, w.calls c = some call → call.Data cfg w.now
  saving : ∀ c call purpose inode written, w.calls c = some call →
    call.pc = .save purpose inode written → Saving w c call inode written
  counted : Counted w.ledger w.unforced
  pipelines : Pipelines cfg w.now w.ledger w.calls

variable {branch : String} {c inode : Nat} {call : Call K} {calls : Nat → Option (Call K)}
    {cfg : Config} {force : Bool} {k : K} {ledger read : Ledger K} {next : Option (Call K)}
    {now now' previous startedAt : Int} {purpose : Purpose} {unforced : K → Nat} {w w' : World K}

theorem Config.stale.later (h : cfg.stale now startedAt) (hle : now ≤ now') :
    cfg.stale now' startedAt := by
  unfold stale at h ⊢
  omega

theorem Found.later (h : Found cfg now read k force previous) (hle : now ≤ now') :
    Found cfg now' read k force previous := by
  refine ⟨h.1, ?_⟩
  intro hforce
  obtain ⟨t, ht, hskips⟩ := h.2 hforce
  exact ⟨t, Int.le_trans ht hle, hskips⟩

theorem Call.Data.later (h : call.Data cfg now) (hle : now ≤ now') : call.Data cfg now' := by
  unfold Call.Data at h ⊢
  split at h
  · exact True.intro
  · exact h
  · exact ⟨h.1, h.2.later hle⟩
  · exact h
  · exact ⟨h.1, h.2.later hle⟩
  · exact h
  · obtain ⟨t, ht, hledger⟩ := h
    exact ⟨t, Int.le_trans ht hle, hledger⟩
  · obtain ⟨t, ht, hledger⟩ := h
    exact ⟨t, Int.le_trans ht hle, hledger⟩
  · exact absurd h id

theorem Pipelines.later (h : Pipelines cfg now ledger calls) (hle : now ≤ now') :
    Pipelines cfg now' ledger calls := by
  refine ⟨?_, h.distinct⟩
  intro c call k previous startedAt hcall hpipeline
  obtain ⟨hcount, hrecord | hstale⟩ := h.recorded c call k previous startedAt hcall hpipeline
  · exact ⟨hcount, .inl hrecord⟩
  · exact ⟨hcount, .inr (hstale.later hle)⟩

theorem Pipelines.replace (h : Pipelines cfg now ledger calls)
    (hnext : ∀ call, next = some call → ∀ p, call.pipeline = some p →
      ∃ call₀, calls c = some call₀ ∧ call₀.pipeline = some p) :
    Pipelines cfg now ledger (Function.update calls c next) := by
  have hold : ∀ c' call, Function.update calls c next c' = some call → ∀ p,
      call.pipeline = some p → ∃ call₀, calls c' = some call₀ ∧ call₀.pipeline = some p := by
    intro c' call hcall p hp
    by_cases hc : c' = c
    · subst hc
      rw [Function.update_self] at hcall
      exact hnext call hcall p hp
    · rw [Function.update_of_ne hc] at hcall
      exact ⟨call, hcall, hp⟩
  constructor
  · intro c' call k previous startedAt hcall hpipeline
    obtain ⟨call₀, hcall₀, hpipeline₀⟩ := hold c' call hcall _ hpipeline
    exact h.recorded c' call₀ k previous startedAt hcall₀ hpipeline₀
  · intro c₁ c₂ call₁ call₂ k previous startedAt startedAt' hne hcall₁ hcall₂ hp₁ hp₂
    obtain ⟨call₁', hcall₁', hp₁'⟩ := hold c₁ call₁ hcall₁ _ hp₁
    obtain ⟨call₂', hcall₂', hp₂'⟩ := hold c₂ call₂ hcall₂ _ hp₂
    exact h.distinct c₁ c₂ call₁' call₂' k previous startedAt startedAt' hne hcall₁' hcall₂'
      hp₁' hp₂'

theorem Kept.quiet (h : Kept cfg w)
    (hnext : ∀ call, next = some call → call.Data cfg w.now ∧ call.saving = false ∧
      ∀ p, call.pipeline = some p → ∃ call₀, w.calls c = some call₀ ∧ call₀.pipeline = some p) :
    Kept cfg { w with calls := Function.update w.calls c next } := by
  have hold : ∀ c' call, Function.update w.calls c next c' = some call →
      c' = c ∧ next = some call ∨ c' ≠ c ∧ w.calls c' = some call := by
    intro c' call hcall
    by_cases hc : c' = c
    · subst hc
      rw [Function.update_self] at hcall
      exact .inl ⟨rfl, hcall⟩
    · rw [Function.update_of_ne hc] at hcall
      exact .inr ⟨hc, hcall⟩
  refine ⟨h.inodes, h.apart, ?_, ?_, h.counted, ?_⟩
  · intro c' call hcall
    rcases hold c' call hcall with ⟨-, hcall⟩ | ⟨-, hcall⟩
    · exact (hnext call hcall).1
    · exact h.data c' call hcall
  · intro c' call purpose inode written hcall hpc
    rcases hold c' call hcall with ⟨-, hcall⟩ | ⟨hc, hcall⟩
    · have hquiet := (hnext call hcall).2.1
      unfold Call.saving at hquiet
      rw [hpc] at hquiet
      cases hquiet
    · have hsaving := h.saving c' call purpose inode written hcall hpc
      refine ⟨hsaving.tmp, hsaving.content, hsaving.undisturbed.1, ?_⟩
      intro c'' call'' hne hcall''
      rcases hold c'' call'' hcall'' with ⟨-, hcall''⟩ | ⟨-, hcall''⟩
      · exact (hnext call'' hcall'').2.1
      · exact hsaving.undisturbed.2 c'' call'' hne hcall''
  · exact h.pipelines.replace fun call hcall => (hnext call hcall).2.2

theorem Kept.finish (h : Kept cfg w) (c : Nat) : Kept cfg (w.finish c) := by
  apply h.quiet
  intro call hcall
  cases hcall

/-! ## A save -/

omit [DecidableEq K] in
theorem ledger_write (h : w.file ≠ some inode) (text : Option (Ledger K)) :
    World.ledger { w with content := Function.update w.content inode text } = w.ledger := by
  unfold World.ledger
  cases hfile : w.file with
  | none => rfl
  | some i =>
    have hne : i ≠ inode := fun heq => h (heq ▸ hfile)
    show (Function.update w.content inode text i).getD [] = _
    rw [Function.update_of_ne hne]

section

variable (h : Kept cfg w)
include h

theorem Kept.save {call' : Call K} {written : Bool} (hcall : w.calls c = some call)
    (hcalls : w'.calls = Function.update w.calls c (some call'))
    (hsame : w'.now = w.now ∧ w'.file = w.file ∧ w'.unforced = w.unforced)
    (hledger : w'.ledger = w.ledger) (htmp : w'.tmp = some inode)
    (hinode : inode < w'.next ∧ w.next ≤ w'.next ∧ w.file ≠ some inode)
    (hpc : call'.pc = .save purpose inode written)
    (hcontent : written = true → w'.content inode = some call'.ledger)
    (hdata : call'.Data cfg w.now) (hread : w.ledger = call'.read)
    (hothers : ∀ c' other, c' ≠ c → w.calls c' = some other → other.saving = false)
    (hpipeline : ∀ p, call'.pipeline = some p → call.pipeline = some p) : Kept cfg w' := by
  have hold : ∀ c' other, w'.calls c' = some other →
      c' = c ∧ other = call' ∨ c' ≠ c ∧ w.calls c' = some other := by
    intro c' other hother
    rw [hcalls] at hother
    by_cases hc : c' = c
    · subst hc
      rw [Function.update_self, Option.some.injEq] at hother
      exact .inl ⟨rfl, hother.symm⟩
    · rw [Function.update_of_ne hc] at hother
      exact .inr ⟨hc, hother⟩
  refine ⟨?_, ?_, ?_, ?_, ?_, ?_⟩
  · intro i hi
    rw [hsame.2.1, htmp] at hi
    rcases hi with hi | hi
    · exact Nat.lt_of_lt_of_le (h.inodes i (.inl hi)) hinode.2.1
    · cases hi
      exact hinode.1
  · intro i hi
    rw [htmp] at hi
    cases hi
    rw [hsame.2.1]
    exact hinode.2.2
  · intro c' other hother
    rw [hsame.1]
    rcases hold c' other hother with ⟨-, rfl⟩ | ⟨-, hother⟩
    · exact hdata
    · exact h.data c' other hother
  · intro c' other purpose' inode' written' hother hpc'
    rcases hold c' other hother with ⟨rfl, rfl⟩ | ⟨hc, hother⟩
    · rw [hpc] at hpc'
      cases hpc'
      refine ⟨htmp, hcontent, hledger.trans hread, ?_⟩
      intro c'' other' hne hother'
      rcases hold c'' other' hother' with ⟨hc, -⟩ | ⟨-, hother'⟩
      · exact absurd hc hne
      · exact hothers c'' other' hne hother'
    · have hquiet := hothers c' other hc hother
      unfold Call.saving at hquiet
      rw [hpc'] at hquiet
      cases hquiet
  · rw [hledger, hsame.2.2]
    exact h.counted
  · rw [hsame.1, hledger, hcalls]
    apply h.pipelines.replace
    intro call₀ hcall₀ p hp
    cases hcall₀
    exact ⟨call, hcall, hpipeline p hp⟩

theorem Kept.openTmp (hcall : w.calls c = some call)
    (hundisturbed : Undisturbed w c call)
    (hdata : ∀ inode, Call.Data cfg w.now ⟨call.job, ledger, call.read, .save purpose inode false⟩)
    (hpipeline : ∀ inode p,
      Call.pipeline ⟨call.job, ledger, call.read, .save purpose inode false⟩ = some p →
        call.pipeline = some p) : Kept cfg (w.openTmp c call ledger purpose) := by
  unfold World.openTmp
  split
  · rename_i inode htmp
    have hfile := h.apart inode htmp
    exact h.save hcall rfl ⟨rfl, rfl, rfl⟩ (ledger_write hfile none) htmp
      ⟨h.inodes inode (.inr htmp), Nat.le_refl _, hfile⟩ rfl (fun hfalse => nomatch hfalse)
      (hdata inode) hundisturbed.1 hundisturbed.2 (hpipeline inode)
  · have hfile : w.file ≠ some w.next := by
      intro heq
      exact absurd (h.inodes w.next (.inl heq)) (Nat.lt_irrefl _)
    exact h.save hcall rfl ⟨rfl, rfl, rfl⟩ (ledger_write hfile none) rfl
      ⟨Nat.lt_succ_self _, Nat.le_succ _, hfile⟩ rfl (fun hfalse => nomatch hfalse)
      (hdata w.next) hundisturbed.1 hundisturbed.2 (hpipeline w.next)

theorem Kept.write (hcall : w.calls c = some call) (hpc : call.pc = .save purpose inode false) :
    Kept cfg (World.goOn { w with content := Function.update w.content inode (some call.ledger) } c
      { call with pc := .save purpose inode true }) := by
  have hsaving := h.saving c call purpose inode false hcall hpc
  have hfile := h.apart inode hsaving.tmp
  have hdata := h.data c call hcall
  refine h.save hcall rfl ⟨rfl, rfl, rfl⟩ (ledger_write hfile _) hsaving.tmp
    ⟨h.inodes inode (.inr hsaving.tmp), Nat.le_refl _, hfile⟩ rfl
    (fun _ => Function.update_self inode _ w.content) ?_ hsaving.undisturbed.1
    hsaving.undisturbed.2 ?_
  · obtain ⟨job, ledger, read, pc⟩ := call
    cases hpc
    cases job <;> cases purpose <;> exact hdata
  · intro p hp
    obtain ⟨job, ledger, read, pc⟩ := call
    cases hpc
    cases job <;> cases purpose <;> exact hp

/-! ## What a save publishes -/

theorem Kept.publish (hcall : w.calls c = some call) (hpc : call.pc = .save purpose inode true)
    (hnext : ∀ call', next = some call' → call'.Data cfg w.now ∧ call'.saving = false)
    (hcounted : Counted call.ledger unforced)
    (hpipelines : Pipelines cfg w.now call.ledger (Function.update w.calls c next)) :
    World.ledger { w with file := some inode, tmp := none } = call.ledger ∧
      Kept cfg { w with
        file := some inode
        tmp := none
        calls := Function.update w.calls c next
        unforced := unforced } := by
  have hsaving := h.saving c call purpose inode true hcall hpc
  have hledger : (w.content inode).getD [] = call.ledger := by
    rw [hsaving.content rfl]
    rfl
  have hold : ∀ c' other, Function.update w.calls c next c' = some other →
      next = some other ∨ c' ≠ c ∧ w.calls c' = some other := by
    intro c' other hother
    by_cases hc : c' = c
    · subst hc
      rw [Function.update_self] at hother
      exact .inl hother
    · rw [Function.update_of_ne hc] at hother
      exact .inr ⟨hc, hother⟩
  refine ⟨hledger, ?_, ?_, ?_, ?_, ?_, ?_⟩
  · intro i hi
    rcases hi with hi | hi
    · cases hi
      exact h.inodes inode (.inr hsaving.tmp)
    · cases hi
  · intro i hi
    cases hi
  · intro c' other hother
    rcases hold c' other hother with hother | ⟨-, hother⟩
    · exact (hnext other hother).1
    · exact h.data c' other hother
  · intro c' other purpose' inode' written' hother hpc'
    have hquiet : other.saving = false := by
      rcases hold c' other hother with hother | ⟨hc, hother⟩
      · exact (hnext other hother).2
      · exact hsaving.undisturbed.2 c' other hc hother
    unfold Call.saving at hquiet
    rw [hpc'] at hquiet
    cases hquiet
  · show Counted ((w.content inode).getD []) unforced
    rw [hledger]
    exact hcounted
  · show Pipelines cfg w.now ((w.content inode).getD []) _
    rw [hledger]
    exact hpipelines

end

theorem Counted.set {unforced' : K → Nat} (h : Counted ledger unforced) {a : Attempt}
    (hpos : 1 ≤ previousAttempts (some a)) (hk : (unforced' k : Int) ≤ previousAttempts (some a))
    (hothers : ∀ k', k' ≠ k → unforced' k' = unforced k') : Counted (set ledger k a) unforced' := by
  constructor
  · intro k' a' hlookup
    rw [lookup_set] at hlookup
    split at hlookup
    · cases hlookup
      exact hpos
    · exact h.pos k' a' hlookup
  · intro k'
    rw [lookup_set]
    split
    · rename_i heq
      rw [heq]
      exact hk
    · rename_i hne
      rw [hothers k' hne]
      exact h.unforced k'

theorem Recorded.set {k' : K} {a : Attempt} (h : Recorded cfg now ledger k' previous startedAt)
    (hne : k' ≠ k) : Recorded cfg now (set ledger k a) k' previous startedAt := by
  unfold Recorded
  rw [lookup_set, if_neg hne]
  exact h

theorem previousAttempts_succ (a : Attempt) (h : 0 ≤ previous)
    (ha : a.attemptCount = some (previous + 1)) : previousAttempts (some a) = previous + 1 := by
  unfold previousAttempts
  simp only [ha]
  rw [if_neg]
  omega

theorem Found.nonneg (h : Found cfg now read k force previous) (hcounted : Counted read unforced) :
    0 ≤ previous := by
  rw [h.1]
  cases hlookup : read.lookup k with
  | none => exact Int.le_refl 0
  | some a =>
    have hpos := hcounted.pos k a hlookup
    omega

theorem othersStale_of_found (h : Kept cfg w) (hfound : Found cfg w.now w.ledger k false previous) :
    OthersStale cfg w c k := by
  intro c' call' _ hcall' previous' startedAt hpipeline
  obtain ⟨-, ⟨branch, hrecord⟩ | hstale⟩ :=
    h.pipelines.recorded c' call' k previous' startedAt hcall' hpipeline
  · obtain ⟨t, ht, hskips⟩ := hfound.2 rfl
    rw [hrecord] at hskips
    simp [skips, runningRecord, Status.terminal, staleRunning] at hskips
    exact hskips.2.later ht
  · exact hstale

theorem count_le_of_found (hfound : Found cfg now read k false previous)
    (hmax : 1 ≤ cfg.maxPipelineAttempts) : previous + 1 ≤ cfg.maxPipelineAttempts := by
  obtain ⟨hprevious, hskips⟩ := hfound
  obtain ⟨t, -, hskips⟩ := hskips rfl
  cases hlookup : read.lookup k with
  | none =>
    rw [hlookup] at hprevious
    have hzero : previous = 0 := hprevious
    omega
  | some a =>
    rw [hlookup] at hprevious hskips
    have hfew : ¬cfg.maxPipelineAttempts ≤ previousAttempts (some a) := by
      intro hle
      simp [skips, hle] at hskips
    omega

theorem Pipelines.start (h : Kept cfg w) (call : Call K) (startedAt : Int) (branch : String)
    (hjob : call.job = .repair k force)
    (hprevious : previous = previousAttempts (w.ledger.lookup k)) (hnonneg : 0 ≤ previous)
    (hothers : OthersStale cfg w c k) :
    Pipelines cfg w.now (set w.ledger k (runningRecord previous startedAt branch))
      (Function.update w.calls c (some { call with
        read := call.ledger
        pc := .run previous startedAt branch })) := by
  have hcount : previousAttempts (some (runningRecord previous startedAt branch)) = previous + 1 :=
    previousAttempts_succ _ hnonneg rfl
  have hnew : Call.pipeline { call with
      read := call.ledger
      pc := .run previous startedAt branch } = some (k, previous, startedAt) := by
    unfold Call.pipeline
    simp only [hjob]
  have hfewer : ∀ c' other previous' startedAt', w.calls c' = some other →
      other.pipeline = some (k, previous', startedAt') → previous' < previous := by
    intro c' other previous' startedAt' hother hpipeline
    have hle := (h.pipelines.recorded c' other k previous' startedAt' hother hpipeline).1
    omega
  constructor
  · intro c' other k' previous' startedAt' hother hpipeline
    by_cases hc : c' = c
    · subst hc
      rw [Function.update_self] at hother
      cases hother
      rw [hnew] at hpipeline
      cases hpipeline
      unfold Recorded
      rw [lookup_set, if_pos rfl, hcount]
      exact ⟨Int.le_refl _, .inl ⟨branch, rfl⟩⟩
    · rw [Function.update_of_ne hc] at hother
      by_cases hk : k' = k
      · subst hk
        have hlt := hfewer c' other previous' startedAt' hother hpipeline
        unfold Recorded
        rw [lookup_set, if_pos rfl, hcount]
        exact ⟨by omega, .inr (hothers c' other hc hother previous' startedAt' hpipeline)⟩
      · exact (h.pipelines.recorded c' other k' previous' startedAt' hother hpipeline).set hk
  · intro c₁ c₂ call₁ call₂ k' previous' startedAt₁ startedAt₂ hne hcall₁ hcall₂ hp₁ hp₂
    by_cases hc₁ : c₁ = c
    · subst hc₁
      rw [Function.update_self] at hcall₁
      cases hcall₁
      rw [hnew] at hp₁
      cases hp₁
      rw [Function.update_of_ne (Ne.symm hne)] at hcall₂
      have hlt := hfewer c₂ call₂ previous startedAt₂ hcall₂ hp₂
      exact absurd hlt (Int.lt_irrefl _)
    · rw [Function.update_of_ne hc₁] at hcall₁
      by_cases hc₂ : c₂ = c
      · subst hc₂
        rw [Function.update_self] at hcall₂
        cases hcall₂
        rw [hnew] at hp₂
        cases hp₂
        have hlt := hfewer c₁ call₁ previous startedAt₁ hcall₁ hp₁
        exact absurd hlt (Int.lt_irrefl _)
      · rw [Function.update_of_ne hc₂] at hcall₂
        exact h.pipelines.distinct c₁ c₂ call₁ call₂ k' previous' startedAt₁ startedAt₂ hne hcall₁
          hcall₂ hp₁ hp₂

theorem Pipelines.finish (h : Kept cfg w) (hcall : w.calls c = some call)
    (hpipeline : call.pipeline = some (k, previous, startedAt))
    (hown : Own w.ledger k previous startedAt branch) (status : Status) :
    Pipelines cfg w.now (set w.ledger k ⟨status, some branch, none, some (previous + 1)⟩)
      (Function.update w.calls c none) := by
  have hgone : Pipelines cfg w.now w.ledger (Function.update w.calls c none) :=
    h.pipelines.replace fun _ hnone => (nomatch hnone)
  refine ⟨?_, hgone.distinct⟩
  intro c' other k' previous' startedAt' hother hother'
  by_cases hk : k' = k
  · subst hk
    have hc : c' ≠ c := by
      intro hc
      rw [hc, Function.update_self] at hother
      cases hother
    have hrecorded := hgone.recorded c' other k' previous' startedAt' hother hother'
    rw [Function.update_of_ne hc] at hother
    obtain ⟨hle, hrecord⟩ := hrecorded
    rw [hown.2] at hle hrecord
    rw [previousAttempts_succ _ hown.1 rfl] at hle
    unfold Recorded
    rw [lookup_set, if_pos rfl, previousAttempts_succ _ hown.1 rfl]
    refine ⟨hle, .inr ?_⟩
    rcases hrecord with ⟨branch', hsame⟩ | hstale
    · -- a record of the same count would be of the same pipeline
      have hprevious : previous = previous' := by
        simpa [runningRecord] using congrArg (Option.map Attempt.attemptCount) hsame
      subst hprevious
      exact absurd hother' (h.pipelines.distinct c c' call other k' previous startedAt startedAt'
        (Ne.symm hc) hcall hother hpipeline)
    · exact hstale
  · exact (hgone.recorded c' other k' previous' startedAt' hother hother').set hk

theorem previousAttempts_reconciled (cfg : Config) (now : Int) (a : Option Attempt) :
    previousAttempts (a.map (reconciled cfg now)) = previousAttempts a := by
  cases a with
  | none => rfl
  | some a =>
    show previousAttempts (some (reconciled cfg now a)) = _
    unfold reconciled
    split <;> rfl

theorem Pipelines.reconcile {t : Int} (h : Pipelines cfg now ledger calls) (ht : t ≤ now) :
    Pipelines cfg now (reconcileStaleAttempts cfg t ledger) calls := by
  refine ⟨?_, h.distinct⟩
  intro c call k previous startedAt hcall hpipeline
  obtain ⟨hle, hrecord⟩ := h.recorded c call k previous startedAt hcall hpipeline
  unfold Recorded reconcileStaleAttempts
  rw [lookup_map, previousAttempts_reconciled]
  refine ⟨hle, ?_⟩
  rcases hrecord with ⟨branch, hrecord⟩ | hstale
  · rw [hrecord, Option.map_some]
    unfold reconciled
    split
    · rename_i hinterrupted
      have hage : max 0 cfg.staleSeconds < t - startedAt := by
        simpa [interrupted, runningRecord, age] using hinterrupted
      right
      unfold Config.stale
      omega
    · exact .inl ⟨branch, rfl⟩
  · exact .inr hstale

theorem Counted.reconcile {t : Int} (h : Counted ledger unforced) :
    Counted (reconcileStaleAttempts cfg t ledger) unforced := by
  constructor
  · intro k a hlookup
    unfold reconcileStaleAttempts at hlookup
    rw [lookup_map] at hlookup
    cases hold : ledger.lookup k with
    | none =>
      rw [hold] at hlookup
      cases hlookup
    | some a₀ =>
      have hpos := h.pos k a₀ hold
      rw [hold] at hlookup
      rw [← hlookup, previousAttempts_reconciled]
      exact hpos
  · intro k
    unfold reconcileStaleAttempts
    rw [lookup_map, previousAttempts_reconciled]
    exact h.unforced k

/-! ## Steps -/

section

variable (h : Kept cfg w)
include h

theorem Kept.started
    (heq : call =
      ⟨.repair k force, ledger, read, .save (.start previous startedAt branch) inode true⟩)
    (hcall : w.calls c = some call) (hstarts : StartsAlone cfg w c call) :
    SaveBounded cfg w (World.saved { w with file := some inode, tmp := none } c call
        (.start previous startedAt branch)) c call ∧
      Kept cfg (World.saved { w with file := some inode, tmp := none } c call
        (.start previous startedAt branch)) := by
  subst heq
  have hread : w.ledger = read := (h.saving c _ _ inode true hcall rfl).undisturbed.1
  have hdata : ledger = set read k (runningRecord previous startedAt branch) ∧
      Found cfg w.now read k force previous := h.data c _ hcall
  obtain ⟨hledger, hfound⟩ := hdata
  rw [← hread] at hledger hfound
  have hnonneg := hfound.nonneg h.counted
  have hcount := previousAttempts_succ (runningRecord previous startedAt branch) hnonneg rfl
  have hunforced := h.counted.unforced k
  rw [← hfound.1] at hunforced
  have hothers : OthersStale cfg w c k := by
    cases force with
    | false => exact othersStale_of_found h hfound
    | true => exact hstarts
  have hpipelines := Pipelines.start h ⟨.repair k force, ledger, read, .load⟩ startedAt branch rfl
    hfound.1 hnonneg hothers
  rw [← hledger] at hpipelines
  have hrun : ∀ call', some (Call.mk (.repair k force) ledger ledger
      (.run previous startedAt branch)) = some call' →
      call'.Data cfg w.now ∧ call'.saving = false := by
    intro call' hcall'
    cases hcall'
    refine ⟨⟨rfl, hnonneg, ?_⟩, rfl⟩
    rw [hledger, lookup_set, if_pos rfl]
  cases force with
  | false =>
    have hbound := count_le_of_found hfound hstarts
    have hcounted : Counted ledger (Function.update w.unforced k (w.unforced k + 1)) := by
      rw [hledger]
      apply h.counted.set
      · omega
      · rw [Function.update_self]
        omega
      · intro k' hk'
        exact Function.update_of_ne hk' _ _
    refine ⟨⟨fun _ => ?_, hothers⟩, (h.publish hcall rfl hrun hcounted hpipelines).2⟩
    show ((Function.update w.unforced k (w.unforced k + 1) k : Nat) : Int) ≤ _
    rw [Function.update_self]
    omega
  | true =>
    have hcounted : Counted ledger w.unforced := by
      rw [hledger]
      apply h.counted.set
      · omega
      · omega
      · exact fun _ _ => rfl
    exact ⟨⟨fun hfalse => (nomatch hfalse), hothers⟩,
      (h.publish hcall rfl hrun hcounted hpipelines).2⟩

theorem Kept.ended
    (heq : call =
      ⟨.repair k force, ledger, read, .save (.finish previous startedAt branch) inode true⟩)
    (hcall : w.calls c = some call) :
    SaveBounded cfg w (World.finish { w with file := some inode, tmp := none } c) c call ∧
      Kept cfg (World.finish { w with file := some inode, tmp := none } c) := by
  subst heq
  have hread : w.ledger = read := (h.saving c _ _ inode true hcall rfl).undisturbed.1
  have hdata : (∃ status, ledger =
      set read k ⟨status, some branch, none, some (previous + 1)⟩) ∧
      Own read k previous startedAt branch := h.data c _ hcall
  obtain ⟨⟨status, hledger⟩, hown⟩ := hdata
  rw [← hread] at hledger hown
  have hunforced := h.counted.unforced k
  rw [hown.2, previousAttempts_succ _ hown.1 rfl] at hunforced
  have hcount := previousAttempts_succ ⟨status, some branch, none, some (previous + 1)⟩ hown.1 rfl
  have hnonneg := hown.1
  have hcounted : Counted ledger w.unforced := by
    rw [hledger]
    apply h.counted.set
    · omega
    · omega
    · exact fun _ _ => rfl
  have hpipelines := Pipelines.finish h hcall rfl hown status
  rw [← hledger] at hpipelines
  have hgone : ∀ call' : Call K, none = some call' →
      call'.Data cfg w.now ∧ call'.saving = false := by
    intro call' hcall'
    cases hcall'
  obtain ⟨hpublished, hkept⟩ := h.publish hcall rfl hgone hcounted hpipelines
  refine ⟨?_, hkept⟩
  intro k' hk'
  show (World.ledger { w with file := some inode, tmp := none }).lookup k' = _
  rw [hpublished, hledger, lookup_set, if_neg hk']

theorem Kept.marked (heq : call = ⟨.reconcile, ledger, read, .save .reconcile inode true⟩)
    (hcall : w.calls c = some call) :
    Kept cfg (World.finish { w with file := some inode, tmp := none } c) := by
  subst heq
  have hread : w.ledger = read := (h.saving c _ _ inode true hcall rfl).undisturbed.1
  have hdata : ∃ t, t ≤ w.now ∧ ledger = reconcileStaleAttempts cfg t read := h.data c _ hcall
  obtain ⟨t, ht, hledger⟩ := hdata
  rw [← hread] at hledger
  have hcounted : Counted ledger w.unforced := by
    rw [hledger]
    exact h.counted.reconcile
  have hgone : ∀ call' : Call K, none = some call' →
      call'.Data cfg w.now ∧ call'.saving = false := by
    intro call' hcall'
    cases hcall'
  have hpipelines : Pipelines cfg w.now ledger (Function.update w.calls c none) := by
    have hrest : Pipelines cfg w.now w.ledger (Function.update w.calls c none) := by
      apply h.pipelines.replace
      intro call' hcall'
      cases hcall'
    rw [hledger]
    exact hrest.reconcile ht
  exact (h.publish hcall rfl hgone hcounted hpipelines).2

theorem Kept.replace (hcall : w.calls c = some call) (hstarts : StartsAlone cfg w c call)
    (hact : w.act cfg c call .replace = some w') : SaveBounded cfg w w' c call ∧ Kept cfg w' := by
  obtain ⟨job, ledger, read, pc⟩ := call
  have hdata := h.data c _ hcall
  cases pc with
  | save purpose inode written =>
    have hsaving := h.saving c _ _ _ _ hcall rfl
    cases written with
    | false => cases hact
    | true =>
      simp only [World.act, hsaving.tmp] at hact
      cases hact
      cases purpose with
      | start previous startedAt branch =>
        cases job with
        | reconcile => exact absurd hdata id
        | repair k force => exact h.started rfl hcall hstarts
      | finish previous startedAt branch =>
        cases job with
        | reconcile => exact absurd hdata id
        | repair k force => exact h.ended rfl hcall
      | reconcile =>
        cases job with
        | repair k force => exact absurd hdata id
        | reconcile => exact ⟨True.intro, h.marked rfl hcall⟩
  | _ => cases hact

theorem Kept.goOn (hdata : call.Data cfg w.now) (hsaving : call.saving = false)
    (hpipeline : call.pipeline = none) : Kept cfg (w.goOn c call) := by
  apply h.quiet
  intro call' hcall'
  cases hcall'
  refine ⟨hdata, hsaving, ?_⟩
  intro p hp
  rw [hpipeline] at hp
  cases hp

theorem Kept.decide (hcall : w.calls c = some call) (hact : w.act cfg c call .decide = some w') :
    Kept cfg w' := by
  obtain ⟨job, ledger, read, pc⟩ := call
  have hdata := h.data c _ hcall
  cases pc with
  | decide =>
    have hread : ledger = read := hdata
    cases job with
    | repair k force =>
      simp only [World.act] at hact
      split at hact
      · cases hact
        exact h.finish c
      · rename_i hstarts
        cases hact
        apply h.goOn _ rfl rfl
        refine ⟨hread, by rw [← hread], ?_⟩
        intro hforce
        refine ⟨w.now, Int.le_refl _, ?_⟩
        rw [← hread]
        simpa [hforce] using hstarts
    | reconcile =>
      simp only [World.act] at hact
      split at hact
      · cases hact
        exact h.finish c
      · cases hact
        apply h.goOn _ rfl rfl
        refine ⟨w.now, Int.le_refl _, ?_⟩
        rw [← hread]
  | _ => cases hact

theorem Kept.opens {action : Action} (hcall : w.calls c = some call)
    (hundisturbed : Undisturbed w c call)
    (haction : (∃ startedAt branch, action = .record startedAt branch) ∨
      (∃ status, action = .finish status) ∨ action = .persist)
    (hact : w.act cfg c call action = some w') : Kept cfg w' := by
  obtain ⟨job, ledger, read, pc⟩ := call
  have hdata := h.data c _ hcall
  rcases haction with ⟨startedAt, branch, rfl⟩ | ⟨status, rfl⟩ | rfl
  · cases pc with
    | ready previous =>
      cases job with
      | reconcile => cases hact
      | repair k force =>
        have hdata' : ledger = read ∧ Found cfg w.now read k force previous := hdata
        simp only [World.act] at hact
        split at hact
        · cases hact
          apply h.openTmp hcall hundisturbed
          · intro inode
            exact ⟨congrArg (set · k _) hdata'.1, hdata'.2⟩
          · intro inode p hp
            cases hp
        · cases hact
    | _ => cases hact
  · cases pc with
    | run previous startedAt branch =>
      cases job with
      | reconcile => cases hact
      | repair k force =>
        have hdata' : ledger = read ∧ Own read k previous startedAt branch := hdata
        cases hact
        apply h.openTmp hcall hundisturbed
        · intro inode
          exact ⟨⟨status, congrArg (set · k _) hdata'.1⟩, hdata'.2⟩
        · intro inode p hp
          exact hp
    | _ => cases hact
  · cases pc with
    | reconcile =>
      cases job with
      | repair k force => exact absurd hdata id
      | reconcile =>
        cases hact
        apply h.openTmp hcall hundisturbed
        · intro inode
          exact hdata
        · intro inode p hp
          cases hp
    | _ => cases hact

end

/-- **Step lemma.**  What one step keeps. -/
theorem kept_step (cfg : Config) (w : World K) (l : Label K) (w' : World K) (h : Kept cfg w)
    (halone : Alone cfg w l) (hstep : (system cfg).step w l = some w') :
    Bounded cfg w l w' ∧ Kept cfg w' := by
  cases l with
  | wait now =>
    simp only [system, step] at hstep
    split at hstep
    · rename_i hle
      cases hstep
      exact ⟨True.intro, h.inodes, h.apart, fun c call hcall => (h.data c call hcall).later hle,
        fun c call purpose inode written hcall hpc =>
          ⟨(h.saving c call purpose inode written hcall hpc).tmp,
            (h.saving c call purpose inode written hcall hpc).content,
            (h.saving c call purpose inode written hcall hpc).undisturbed⟩,
        h.counted, h.pipelines.later hle⟩
    · cases hstep
  | start c job =>
    simp only [system, step] at hstep
    split at hstep
    · cases hstep
      exact ⟨True.intro, h.goOn True.intro rfl (by cases job <;> rfl)⟩
    · cases hstep
  | next c action =>
    simp only [system, step] at hstep
    split at hstep
    · cases hstep
    · rename_i call hcall
      cases action with
      | load =>
        obtain ⟨job, ledger, read, pc⟩ := call
        cases pc with
        | load =>
          cases hstep
          exact ⟨True.intro, h.goOn rfl rfl (by cases job <;> rfl)⟩
        | _ => cases hstep
      | decide => exact ⟨True.intro, h.decide hcall hstep⟩
      | record startedAt branch =>
        exact ⟨True.intro,
          h.opens hcall (halone call hcall) (.inl ⟨startedAt, branch, rfl⟩) hstep⟩
      | finish status =>
        exact ⟨True.intro, h.opens hcall (halone call hcall) (.inr (.inl ⟨status, rfl⟩)) hstep⟩
      | persist => exact ⟨True.intro, h.opens hcall (halone call hcall) (.inr (.inr rfl)) hstep⟩
      | write =>
        obtain ⟨job, ledger, read, pc⟩ := call
        cases pc with
        | save purpose inode written =>
          cases written with
          | true => cases hstep
          | false =>
            cases hstep
            exact ⟨True.intro, h.write hcall rfl⟩
        | _ => cases hstep
      | replace =>
        obtain ⟨hbounded, hkept⟩ := h.replace hcall (halone call hcall) hstep
        refine ⟨?_, hkept⟩
        intro call' hcall'
        rw [hcall, Option.some.injEq] at hcall'
        exact hcall' ▸ hbounded
      | die =>
        cases hstep
        exact ⟨True.intro, h.finish c⟩

theorem Start.kept (h : Start w) : Kept cfg w := by
  have hpos : ∀ k a, w.ledger.lookup k = some a → 1 ≤ previousAttempts (some a) := by
    intro k a hlookup
    unfold previousAttempts
    split
    · rename_i heq
      cases heq
    · rename_i heq
      cases heq
      split
      · exact Int.le_refl 1
      · rename_i n hn
        have hnonneg := h.counts k a n hlookup hn
        split <;> omega
  refine ⟨h.inodes, h.apart, ?_, ?_, ⟨hpos, ?_⟩, ?_, ?_⟩
  · intro c call hcall
    rw [h.calls] at hcall
    cases hcall
  · intro c call purpose inode written hcall
    rw [h.calls] at hcall
    cases hcall
  · intro k
    rw [h.unforced]
    cases hlookup : w.ledger.lookup k with
    | none => exact Int.le_refl 0
    | some a =>
      have hle := hpos k a hlookup
      show (0 : Int) ≤ _
      omega
  · intro c call k previous startedAt hcall
    rw [h.calls] at hcall
    cases hcall
  · intro c c' call call' k previous startedAt startedAt' _ hcall
    rw [h.calls] at hcall
    cases hcall

/-- **The bounds on attempts hold** in the runs in which every save finds the file as its call has
last read or saved it, and pipelines start alone. -/
theorem bounded_run (cfg : Config) (w : World K) (run : List (Label K)) (hw : Start w)
    (hrun : (system cfg).Meets (Alone cfg) w run) : (system cfg).Always (Bounded cfg) w run :=
  (system cfg).always_of_meets (Bounded cfg) (Alone cfg) (Kept cfg)
    (fun w l w' h halone hstep => kept_step cfg w l w' h halone hstep) run w hw.kept hrun

/-! ## Pipelines that overlap -/

def threeAnHour : Config := ⟨3, 3600⟩

def empty : World Nat := ⟨0, fun _ => none, none, none, 0, fun _ => none, fun _ => 0⟩

theorem empty_start : Start empty := by
  refine ⟨?_, ?_, ?_, rfl, rfl⟩
  · intro k a n h
    cases h
  · intro i h
    rcases h with h | h <;> cases h
  · intro i h
    cases h

/-- A pipeline up to its `RUNNING` record. -/
def starts (c k : Nat) : List (Label Nat) :=
  [.start c (.repair k false), .next c .load, .next c .decide, .next c (.record 0 "ai-repair"),
    .next c .write, .next c .replace]

/-- The second pipeline starts while the first one runs; the end of the first takes its record
away. -/
theorem attempt_rolled_back :
    ¬∀ (w : World Nat) (run : List (Label Nat)), Start w →
      (system threeAnHour).Always (Bounded threeAnHour) w run := by
  intro h
  have hlast : Bounded threeAnHour _ (.next 0 .replace) _ :=
    System.Always.step_after rfl
      (starts 0 1 ++ starts 1 2 ++ [.next 0 (.finish .failed), .next 0 .write]) empty
      (h empty (starts 0 1 ++ starts 1 2 ++ [.next 0 (.finish .failed), .next 0 .write] ++
        [.next 0 .replace]) empty_start) rfl
  have hkept := hlast _ rfl 2 (by decide)
  exact absurd hkept (by decide)

/-- One pipeline, from its start to its end. -/
theorem bounded_run_alone :
    (system threeAnHour).Always (Bounded threeAnHour) empty
      (starts 0 1 ++ [.next 0 (.finish .pushed), .next 0 .write, .next 0 .replace]) := by
  apply bounded_run threeAnHour empty _ empty_start
  refine ⟨True.intro, True.intro, True.intro, ?_, True.intro, ?_, ?_, True.intro, ?_, True.intro⟩
  · intro call hcall
    cases hcall
    refine ⟨rfl, ?_⟩
    intro c' call' hne hcall'
    cases c' with
    | zero => exact absurd rfl hne
    | succ n => cases hcall'
  · intro call hcall
    cases hcall
    show (1 : Int) ≤ 3
    decide
  · intro call hcall
    cases hcall
    refine ⟨rfl, ?_⟩
    intro c' call' hne hcall'
    cases c' with
    | zero => exact absurd rfl hne
    | succ n => cases hcall'
  · intro call hcall
    cases hcall
    exact True.intro

end CephAi.Ports.RepairLedger
