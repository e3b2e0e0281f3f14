import CephAi.Ports.BackupStorage

/-!
# Backup job rows

The `backup_jobs` table and the queries backups, retention and restores run on
it: the newest full row of a target slot, the keys retention must spare, and
the restore chain of a recovery point.

Columns that none of these queries reads (the run identifier, the measured
durations, the error text) are left out.

## Main results

* `backupChain_spec` — what the chain of a recovery point consists of.
* `mem_protectedKeys_iff` — a key is protected exactly when it belongs to the
  base of a successful incremental of the image.
-/

namespace CephAi.Ports.BackupJobs

open Verified
open BackupStorage

/-- `BackupJob.status`. -/
inductive JobStatus
  | running
  | success
  | failed
deriving DecidableEq, Repr

/-- A `backup_jobs` row. -/
structure BackupJob where
  id : Nat
  clusterId : Option Nat
  pool : Option String
  image : Option String
  jobType : JobType
  status : JobStatus
  baseJobId : Option Nat
  backupTargetSlot : Option String
  remoteKey : Option String
  sizeBytes : Option Nat
  sha256 : Option String
  createdAt : Nat
deriving DecidableEq, Repr

/-- The image a query is about: pool, image and cluster. -/
structure ImageScope where
  clusterId : Option Nat
  pool : RbdName
  image : RbdName

/-- The three equalities every query on an image filters by. -/
def ImageScope.owns (scope : ImageScope) (j : BackupJob) : Bool :=
  j.pool == some scope.pool.value && j.image == some scope.image.value &&
    j.clusterId == scope.clusterId

/-- A successful row of the image of one type. -/
def ImageScope.succeeded (scope : ImageScope) (jobType : JobType)
    (j : BackupJob) : Bool :=
  scope.owns j && j.jobType == jobType && j.status == .success

/-- `session.get(BackupJob, id)`. -/
def getJob (jobs : List BackupJob) (id : Nat) : Option BackupJob :=
  jobs.find? (fun j => j.id == id)

/-- `order_by(created_at.desc())`. -/
def newestFirst (jobs : List BackupJob) : List BackupJob :=
  Retention.sortNewest (·.createdAt) jobs

/-- `order_by(created_at.asc())`. -/
def oldestFirst (jobs : List BackupJob) : List BackupJob :=
  jobs.insertionSort (fun a b => a.createdAt ≤ b.createdAt)

def latestSuccessfulFullJob (jobs : List BackupJob) (scope : ImageScope)
    (slot : String) : Option BackupJob :=
  (newestFirst (jobs.filter fun j =>
    scope.succeeded .full j && j.backupTargetSlot == some slot)).head?

/-- `_protected_keys`: the artifacts of the bases of successful incrementals. -/
def protectedKeys (jobs : List BackupJob) (scope : ImageScope) : List String :=
  (jobs.filter (scope.succeeded .incremental)).filterMap fun inc =>
    (inc.baseJobId.bind (getJob jobs)).bind fun base =>
      base.remoteKey.filter (· != "")

/-- The incrementals `_backup_chain` replays on `full`, up to `upTo` when a
recovery point is given. -/
def chainDiffs (jobs : List BackupJob) (clusterId : Option Nat)
    (full : BackupJob) (upTo : Option Nat) : List BackupJob :=
  oldestFirst (jobs.filter fun j =>
    j.baseJobId == some full.id && j.clusterId == clusterId &&
      j.jobType == .incremental && j.status == .success &&
      j.backupTargetSlot == full.backupTargetSlot &&
      upTo.all (fun limit => decide (j.createdAt ≤ limit)))

/-- `_backup_chain`: the full export and the incrementals to replay on it. -/
def backupChain (jobs : List BackupJob) (scope : ImageScope)
    (recoveryPoint : Option Nat) : Option (BackupJob × List BackupJob) :=
  match recoveryPoint with
  | none =>
    match (newestFirst (jobs.filter (scope.succeeded .full))).head? with
    | none => none
    | some full => some (full, chainDiffs jobs scope.clusterId full none)
  | some id =>
    match getJob jobs id with
    | none => none
    | some target =>
      if scope.succeeded .full target || scope.succeeded .incremental target then
        let fullJob :=
          if target.jobType = .incremental then
            target.baseJobId.bind (getJob jobs)
          else some target
        match fullJob with
        | none => none
        | some full =>
          if scope.succeeded .full full &&
              target.backupTargetSlot == full.backupTargetSlot then
            some (full,
              chainDiffs jobs scope.clusterId full (some target.createdAt))
          else none
      else none

/-! ## What the queries return -/

theorem mem_oldestFirst (jobs : List BackupJob) (j : BackupJob) :
    j ∈ oldestFirst jobs ↔ j ∈ jobs :=
  List.mem_insertionSort _

variable {j : BackupJob} {jobs : List BackupJob}

theorem getJob_mem {id : Nat} (h : getJob jobs id = some j) : j ∈ jobs ∧ j.id = id :=
  ⟨List.mem_of_find?_eq_some h, by simpa using List.find?_some h⟩

theorem getJob_of_mem (hids : (jobs.map (·.id)).Nodup) (hj : j ∈ jobs) :
    getJob jobs j.id = some j := by
  cases hg : getJob jobs j.id with
  | none =>
    have := List.find?_eq_none.mp hg j hj
    simp at this
  | some j' =>
    obtain ⟨hmem, hid⟩ := getJob_mem hg
    rw [List.inj_on_of_nodup_map hids hmem hj hid]

theorem ImageScope.succeeded_iff (scope : ImageScope) (jobType : JobType)
    (j : BackupJob) : scope.succeeded jobType j = true ↔
      scope.owns j = true ∧ j.jobType = jobType ∧ j.status = .success := by
  simp [ImageScope.succeeded, and_assoc]

theorem mem_chainDiffs_iff (jobs : List BackupJob) (clusterId : Option Nat)
    (full j : BackupJob) (limit : Nat) :
    j ∈ chainDiffs jobs clusterId full (some limit) ↔
      j ∈ jobs ∧ j.baseJobId = some full.id ∧ j.clusterId = clusterId ∧
        j.jobType = .incremental ∧ j.status = .success ∧
        j.backupTargetSlot = full.backupTargetSlot ∧ j.createdAt ≤ limit := by
  simp [chainDiffs, mem_oldestFirst, and_assoc]

theorem latestSuccessfulFullJob_spec {scope : ImageScope} {slot : String} {full : BackupJob}
    (h : latestSuccessfulFullJob jobs scope slot = some full) :
    full ∈ jobs ∧ scope.succeeded .full full = true ∧
      full.backupTargetSlot = some slot ∧
      ∀ j ∈ jobs, scope.succeeded .full j = true →
        j.backupTargetSlot = some slot → j.createdAt ≤ full.createdAt := by
  unfold latestSuccessfulFullJob newestFirst at h
  obtain ⟨rest, hrest⟩ := List.head?_eq_some_iff.mp h
  have hpw := Retention.sortNewest_pairwise (·.createdAt)
    (jobs.filter fun j =>
      scope.succeeded .full j && j.backupTargetSlot == some slot)
  have hmem : ∀ j, j ∈ full :: rest ↔ j ∈ jobs ∧
      scope.succeeded .full j = true ∧ j.backupTargetSlot = some slot := by
    intro j
    rw [← hrest, Retention.mem_sortNewest, List.mem_filter]
    simp
  rw [hrest] at hpw
  obtain ⟨hfirst, _⟩ := List.pairwise_cons.mp hpw
  obtain ⟨hfull, hsucc, hslot⟩ := (hmem full).mp List.mem_cons_self
  refine ⟨hfull, hsucc, hslot, ?_⟩
  intro j hj hjs hjslot
  rcases List.mem_cons.mp ((hmem j).mpr ⟨hj, hjs, hjslot⟩) with rfl | hj
  · exact le_refl _
  · exact hfirst j hj

theorem latestSuccessfulFullJob_isSome {scope : ImageScope} {slot : String} (hj : j ∈ jobs)
    (hsucc : scope.succeeded .full j = true) (hslot : j.backupTargetSlot = some slot) :
    (latestSuccessfulFullJob jobs scope slot).isSome = true := by
  unfold latestSuccessfulFullJob newestFirst
  have hmem : j ∈ Retention.sortNewest (·.createdAt)
      (jobs.filter fun j =>
        scope.succeeded .full j && j.backupTargetSlot == some slot) := by
    rw [Retention.mem_sortNewest, List.mem_filter]
    simp [hj, hsucc, hslot]
  cases hs : Retention.sortNewest (·.createdAt)
      (jobs.filter fun j =>
        scope.succeeded .full j && j.backupTargetSlot == some slot) with
  | nil => rw [hs] at hmem; simp at hmem
  | cons a rest => rfl

theorem mem_protectedKeys_iff (jobs : List BackupJob) (scope : ImageScope) (key : String) :
    key ∈ protectedKeys jobs scope ↔
      ∃ inc ∈ jobs, scope.succeeded .incremental inc = true ∧
        ∃ id base, inc.baseJobId = some id ∧ getJob jobs id = some base ∧
          base.remoteKey = some key ∧ key ≠ "" := by
  simp only [protectedKeys, List.mem_filterMap, List.mem_filter,
    Option.bind_eq_some_iff, Option.filter_eq_some_iff]
  constructor
  · rintro ⟨inc, ⟨hinc, hs⟩, base, ⟨id, hid, hbase⟩, hkey, hne⟩
    exact ⟨inc, hinc, hs, id, base, hid, hbase, hkey, by simpa using hne⟩
  · rintro ⟨inc, hinc, hs, id, base, hid, hbase, hkey, hne⟩
    exact ⟨inc, ⟨hinc, hs⟩, base, ⟨id, hid, hbase⟩, hkey, by simpa using hne⟩

theorem backupChain_spec (jobs : List BackupJob) (scope : ImageScope) (target full : BackupJob)
    (diffs : List BackupJob) (hget : getJob jobs target.id = some target) :
    backupChain jobs scope (some target.id) = some (full, diffs) ↔
      (scope.succeeded .full target = true ∨
        scope.succeeded .incremental target = true) ∧
      (if target.jobType = .incremental then
        target.baseJobId.bind (getJob jobs) else some target) = some full ∧
      scope.succeeded .full full = true ∧
      target.backupTargetSlot = full.backupTargetSlot ∧
      diffs =
        chainDiffs jobs scope.clusterId full (some target.createdAt) := by
  simp only [backupChain, hget]
  by_cases htarget : (scope.succeeded .full target ||
      scope.succeeded .incremental target) = true
  · rw [if_pos htarget]
    cases hfull : (if target.jobType = .incremental then
        target.baseJobId.bind (getJob jobs) else some target) with
    | none => simp
    | some full' =>
      by_cases hok : (scope.succeeded .full full' &&
          target.backupTargetSlot == full'.backupTargetSlot) = true
      · simp only [hok, if_true]
        simp only [Bool.and_eq_true, beq_iff_eq] at hok
        simp only [Bool.or_eq_true] at htarget
        constructor
        · intro h
          simp only [Option.some.injEq, Prod.mk.injEq] at h
          obtain ⟨rfl, rfl⟩ := h
          exact ⟨htarget, rfl, hok.1, hok.2, rfl⟩
        · rintro ⟨_, hf, _, _, rfl⟩
          rw [Option.some.injEq] at hf
          subst hf
          rfl
      · dsimp only
        rw [if_neg hok]
        simp only [Bool.and_eq_true, beq_iff_eq] at hok
        constructor
        · intro h; simp at h
        · rintro ⟨_, hf, hs, hslot, _⟩
          rw [Option.some.injEq] at hf
          subst hf
          exact absurd ⟨hs, hslot⟩ hok
  · rw [if_neg htarget]
    simp only [Bool.or_eq_true] at htarget
    constructor
    · intro h; simp at h
    · rintro ⟨h, _⟩
      exact absurd h htarget

end CephAi.Ports.BackupJobs
