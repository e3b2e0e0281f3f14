import CephAi.Ports.BackupChain
import CephAi.Ports.Restore
import Mathlib

/-!
# Repairing a missing copy

`engine._repair_missing_copy` brings a recovery point to a slot that misses it:
it downloads the artifact from the slot of the source row, uploads it under the
same key at the destination and records a row of the same run there.  The new
row has the base of the source row and a creation time of its own.

A copy is looked for by `run_id`, the column that the rows of one run share; it
is kept beside the rows here.  Backups, sweeps and repairs of one image come in
any order.

## Main results

* `copies_kept_iff` — runs keep the recovery points exactly when each repair
  finds a restorable copy, or copies a full export that is what the default
  restore resolves to.
* `repair_turns_default_back` — a run in which the repair of an older full makes
  it the default.
-/

namespace CephAi.Ports.CopyRepair

open Verified BackupStorage BackupJobs
  BackupEngine

/-- The image with its rows and targets, and the `run_id` of every row. -/
structure Site where
  world : World
  runId : Nat → Nat

/-- The parameters of a repair, and the clocks it sees. -/
structure Repair where
  sourceJobId : Nat
  destinationSlot : String
  targets : TargetSlots
  uploadedAt : Nat
  committedAt : Nat

/-! ## `_repair_missing_copy` -/

def defaultSlots : List String := ["a", "b"]

/-- The source row, when it is one that can be copied. -/
def repairSource (jobs : List BackupJob) (c : Repair) : Option BackupJob :=
  if defaultSlots.contains c.destinationSlot then
    (getJob jobs c.sourceJobId).filter (fun j =>
      j.clusterId.isNone && (j.jobType == .full || j.jobType == .incremental) &&
        j.status == .success && j.backupTargetSlot.any defaultSlots.contains &&
        j.backupTargetSlot != some c.destinationSlot &&
        j.remoteKey.any (fun k => k != "") && j.sha256.any (fun h => h != "") &&
        j.sizeBytes.isSome)
  else none

/-- `existing`: a row of the same run, image and type at the slot. -/
def isCopy (s : Site) (source : BackupJob) (slot : String) (j : BackupJob) :
    Bool :=
  s.runId j.id == s.runId source.id && j.clusterId.isNone &&
    j.pool == source.pool && j.image == source.image &&
    j.jobType == source.jobType && j.backupTargetSlot == some slot &&
    j.status == .success

/-- `duplicate`: a row of the same run at the slot. -/
def isDuplicate (s : Site) (source : BackupJob) (slot : String)
    (j : BackupJob) : Bool :=
  s.runId j.id == s.runId source.id && j.clusterId.isNone &&
    j.backupTargetSlot == some slot && j.status == .success

def copyRow (w : World) (source : BackupJob) (c : Repair) : BackupJob where
  id := w.nextId
  clusterId := none
  pool := source.pool
  image := source.image
  jobType := source.jobType
  status := .success
  baseJobId := source.baseJobId
  backupTargetSlot := some c.destinationSlot
  remoteKey := source.remoteKey
  sizeBytes := source.sizeBytes
  sha256 := source.sha256
  createdAt := c.committedAt

/-- The artifact is uploaded. -/
def upload (s : Site) (c : Repair) (key : String) (payload : Payload) : Site :=
  { s with
    world :=
      { s.world with
        store := fun slot =>
          if slot = c.destinationSlot then
            (s.world.store slot).put ⟨key, c.uploadedAt, payload⟩
          else s.world.store slot
        clock := c.uploadedAt } }

def commitCopy (s : Site) (source : BackupJob) (c : Repair) : Site where
  world :=
    { s.world with
      jobs := s.world.jobs ++ [copyRow s.world source c]
      nextId := s.world.nextId + 1
      now := c.committedAt
      taken := fun id =>
        if id = s.world.nextId then s.world.taken source.id
        else s.world.taken id }
  runId := fun id =>
    if id = s.world.nextId then s.runId source.id else s.runId id

/-- `_repair_missing_copy`; `none` when it returns `False`.  Clocks do not run
backwards. -/
def repairMissingCopy (codec : Codec) (s : Site) (c : Repair) : Option Site :=
  match repairSource s.world.jobs c with
  | none => none
  | some source =>
    if s.world.jobs.any (isCopy s source c.destinationSlot) then some s
    else if ¬ (source.backupTargetSlot.any c.targets.slots.contains = true ∧
        c.destinationSlot ∈ c.targets.slots) then none
    else if ¬ (s.world.now < c.committedAt ∧ s.world.clock ≤ c.uploadedAt) then
      none
    else
      match source.remoteKey,
          downloadAndVerify codec (s.world.storageOf source) source with
      | some key, some payload =>
        if (s.world.store c.destinationSlot).acceptsUpload key then
          let uploaded := upload s c key payload
          if s.world.jobs.any (isDuplicate s source c.destinationSlot) then
            some uploaded
          else some (commitCopy uploaded source c)
        else none
      | _, _ => none

/-! ## The system -/

/-- What can happen to the image, its rows and its targets. -/
inductive Event
  | backup (e : BackupEvent)
  | repair (c : Repair)

/-- The state after a step of the backup system: the rows of a run share a new
`run_id`. -/
def Site.advance (s : Site) (w : World) : Site where
  world := w
  runId := fun id =>
    if s.world.nextId ≤ id then s.world.nextId else s.runId id

def copySystem (codec : Codec) (scope : ImageScope) : Runs.System Site Event where
  step s
    | .backup e => ((backupSystem codec scope).step s.world e).map s.advance
    | .repair c => repairMissingCopy codec s c

/-- What the default restore resolves to: the last artifact of its chain. -/
def recoveryPoint (chain : BackupJob × List BackupJob) : BackupJob :=
  chain.2.getLast?.getD chain.1

/-- The content the default restore resolves to. -/
def Site.defaultContent (scope : ImageScope) (s : Site) : Option Content :=
  (backupChain s.world.jobs scope none).map
    (fun chain => s.world.taken (recoveryPoint chain).id)

/-! ## What a run keeps -/

/-- A repair leaves a copy at the destination that can be restored from there,
and the default restore as it was; an incremental of a backup run selects a full
of its own slot as its base. -/
def CopiesKept (scope : ImageScope) (s : Site) : Event → Site → Prop
  | .repair c, s' => ∃ source, repairSource s.world.jobs c = some source ∧
      (∃ d ∈ s'.world.jobs, isCopy s' source c.destinationSlot d = true ∧
        s'.world.restorable scope d = true) ∧
      s'.defaultContent scope = s.defaultContent scope
  | .backup _, s' => ∀ j ∈ s'.world.jobs, j ∉ s.world.jobs →
      j.jobType = .incremental → ∃ base ∈ s.world.jobs,
        j.baseJobId = some base.id ∧ base.jobType = .full ∧
          base.backupTargetSlot = j.backupTargetSlot

/-- The destination has a restorable copy already, or has none and the source is
a full export of the content that the default restore resolves to. -/
def RepairSuits (scope : ImageScope) (s : Site) : Event → Prop
  | .repair c => ∀ source, repairSource s.world.jobs c = some source →
      (∃ e ∈ s.world.jobs, isCopy s source c.destinationSlot e = true ∧
        s.world.restorable scope e = true) ∨
      (∀ e ∈ s.world.jobs, isCopy s source c.destinationSlot e = false) ∧
        source.jobType = .full ∧
        s.defaultContent scope = some (s.world.taken source.id)
  | .backup _ => True

/-! ## The invariant -/

/-- A row of the image, recorded by a run or a repair. -/
structure Recorded (scope : ImageScope) (s : Site) (j : BackupJob) : Prop where
  owned : scope.owns j = true
  success : j.status = .success
  idBelow : j.id < s.world.nextId
  runBelow : s.runId j.id < s.world.nextId
  past : j.createdAt ≤ s.world.now
  base : j.jobType = .incremental → ∃ base ∈ s.world.jobs,
    j.baseJobId = some base.id ∧ base.jobType = .full ∧
      base.createdAt < j.createdAt ∧
      ∃ o ∈ s.world.jobs, s.runId o.id = s.runId j.id ∧
        o.backupTargetSlot = base.backupTargetSlot

/-- The rows of the image.  The base of an incremental is on the slot of some row
of the same run. -/
structure Sound (scope : ImageScope) (s : Site) : Prop where
  ids : (s.world.jobs.map (·.id)).Nodup
  recorded : ∀ j ∈ s.world.jobs, Recorded scope s j
  oneType : ∀ j ∈ s.world.jobs, ∀ j' ∈ s.world.jobs,
    s.runId j.id = s.runId j'.id → j.jobType = j'.jobType

theorem owns_iff (scope : ImageScope) (j : BackupJob) :
    scope.owns j = true ↔ j.pool = some scope.pool.value ∧
      j.image = some scope.image.value ∧ j.clusterId = scope.clusterId := by
  simp [ImageScope.owns, and_assoc]

theorem isCopy_iff (s : Site) (source : BackupJob) (slot : String)
    (j : BackupJob) : isCopy s source slot j = true ↔
      s.runId j.id = s.runId source.id ∧ j.clusterId = none ∧
        j.pool = source.pool ∧ j.image = source.image ∧
        j.jobType = source.jobType ∧ j.backupTargetSlot = some slot ∧
        j.status = .success := by
  simp [isCopy, and_assoc]

variable {c : Repair} {codec : Codec} {j source : BackupJob} {r : BackupRun} {s s' : Site}
    {scope : ImageScope} {slot : String} {w : World}

theorem repairSource_spec {jobs : List BackupJob} (h : repairSource jobs c = some source) :
    source ∈ jobs ∧ source.clusterId = none ∧
      (source.jobType = .full ∨ source.jobType = .incremental) ∧
      source.backupTargetSlot ≠ some c.destinationSlot := by
  unfold repairSource at h
  by_cases hslot : defaultSlots.contains c.destinationSlot = true
  · rw [if_pos hslot] at h
    obtain ⟨hget, hfacts⟩ := Option.filter_eq_some_iff.mp h
    simp only [Bool.and_eq_true, Bool.or_eq_true, beq_iff_eq, bne_iff_ne,
      Option.isNone_iff_eq_none] at hfacts
    obtain ⟨⟨⟨⟨⟨⟨⟨hcluster, htype⟩, _⟩, _⟩, hne⟩, _⟩, _⟩, _⟩ := hfacts
    exact ⟨(getJob_mem hget).1, hcluster, htype, hne⟩
  · rw [if_neg hslot] at h
    cases h

theorem Sound.isCopy_of_run (hs : Sound scope s) (hsource : source ∈ s.world.jobs)
    (hcluster : source.clusterId = none) (hj : j ∈ s.world.jobs)
    (hrun : s.runId j.id = s.runId source.id) (hslot : j.backupTargetSlot = some slot) :
    isCopy s source slot j = true := by
  have hr := hs.recorded j hj
  obtain ⟨hpool, himage, hcl⟩ := (owns_iff scope j).mp hr.owned
  obtain ⟨hpool', himage', hcl'⟩ :=
    (owns_iff scope source).mp (hs.recorded source hsource).owned
  rw [isCopy_iff]
  exact ⟨hrun, hcl.trans (hcl'.symm.trans hcluster), hpool.trans hpool'.symm,
    himage.trans himage'.symm, hs.oneType j hj source hsource hrun, hslot,
    hr.success⟩

theorem Sound.base_elsewhere (hs : Sound scope s) (hsource : source ∈ s.world.jobs)
    (hcluster : source.clusterId = none) (hinc : source.jobType = .incremental)
    (hnone : ∀ e ∈ s.world.jobs, isCopy s source slot e = false) :
    ∃ base ∈ s.world.jobs, source.baseJobId = some base.id ∧
      base.backupTargetSlot ≠ some slot := by
  obtain ⟨base, hbase, hid, _, _, o, ho, hrun, hslot⟩ :=
    (hs.recorded source hsource).base hinc
  refine ⟨base, hbase, hid, ?_⟩
  intro hhere
  have hcopy := hs.isCopy_of_run hsource hcluster ho hrun (hslot.trans hhere)
  rw [hnone o ho] at hcopy
  cases hcopy

/-! ## The row of a copy -/

section Copy

variable {scope : ImageScope} {s : Site} {source : BackupJob} {c : Repair}

theorem mem_commitCopy (j : BackupJob) :
    j ∈ (commitCopy s source c).world.jobs ↔
      j ∈ s.world.jobs ∨ j = copyRow s.world source c := by
  show j ∈ s.world.jobs ++ [copyRow s.world source c] ↔ _
  rw [List.mem_append, List.mem_singleton]

theorem runId_commitCopy_of_mem (hs : Sound scope s) {j : BackupJob} (hj : j ∈ s.world.jobs) :
    (commitCopy s source c).runId j.id = s.runId j.id := by
  have hlt := (hs.recorded j hj).idBelow
  exact if_neg (by omega)

theorem runId_commitCopy_copy :
    (commitCopy s source c).runId (copyRow s.world source c).id =
      s.runId source.id := if_pos rfl

theorem ids_commitCopy (hs : Sound scope s) :
    ((commitCopy s source c).world.jobs.map (·.id)).Nodup := by
  show ((s.world.jobs ++ [copyRow s.world source c]).map (·.id)).Nodup
  rw [List.map_append, List.nodup_append]
  refine ⟨hs.ids, by simp, ?_⟩
  intro k hk k' hk' heq
  obtain ⟨j, hj, hjk⟩ := List.mem_map.mp hk
  have hlt := (hs.recorded j hj).idBelow
  have hk'id : k' = s.world.nextId := by simpa [copyRow] using hk'
  omega

/-- A repair keeps the invariant. -/
theorem sound_commitCopy (hs : Sound scope s) (hsource : source ∈ s.world.jobs)
    (hcluster : source.clusterId = none) (hnow : s.world.now < c.committedAt) :
    Sound scope (commitCopy s source c) := by
  have hnext : (commitCopy s source c).world.nextId = s.world.nextId + 1 := rfl
  have hnow' : (commitCopy s source c).world.now = c.committedAt := rfl
  have hsourceRow := hs.recorded source hsource
  refine ⟨ids_commitCopy hs, ?_, ?_⟩
  · intro j hj
    cases (mem_commitCopy j).mp hj with
    | inl hj =>
      have hr := hs.recorded j hj
      have hid := hr.idBelow
      have hrun := hr.runBelow
      have hpast := hr.past
      refine ⟨hr.owned, hr.success, by omega, ?_, by omega, ?_⟩
      · rw [runId_commitCopy_of_mem hs hj]
        omega
      · intro hinc
        obtain ⟨base, hbase, hbid, hfull, hbefore, o, ho, hsame, hslot⟩ :=
          hr.base hinc
        refine ⟨base, (mem_commitCopy base).mpr (Or.inl hbase), hbid, hfull,
          hbefore, o, (mem_commitCopy o).mpr (Or.inl ho), ?_, hslot⟩
        rw [runId_commitCopy_of_mem hs ho, runId_commitCopy_of_mem hs hj]
        exact hsame
    | inr hj =>
      subst hj
      have hrun := hsourceRow.runBelow
      obtain ⟨hpool, himage, hcl⟩ := (owns_iff scope source).mp hsourceRow.owned
      refine ⟨?_, rfl, ?_, ?_, le_refl _, ?_⟩
      · exact (owns_iff scope _).mpr ⟨hpool, himage, hcluster.symm.trans hcl⟩
      · show s.world.nextId < s.world.nextId + 1
        omega
      · rw [runId_commitCopy_copy]
        omega
      · intro hinc
        obtain ⟨base, hbase, hbid, hfull, hbefore, o, ho, hsame, hslot⟩ :=
          hsourceRow.base hinc
        have hpast := hsourceRow.past
        refine ⟨base, (mem_commitCopy base).mpr (Or.inl hbase), hbid, hfull, ?_,
          o, (mem_commitCopy o).mpr (Or.inl ho), ?_, hslot⟩
        · show base.createdAt < c.committedAt
          omega
        · rw [runId_commitCopy_of_mem hs ho, runId_commitCopy_copy]
          exact hsame
  · have htype : ∀ j ∈ s.world.jobs,
        s.runId j.id = s.runId source.id → j.jobType = source.jobType :=
      fun j hj hrun => hs.oneType j hj source hsource hrun
    intro j hj j' hj' hrun
    cases (mem_commitCopy j).mp hj with
    | inl hj =>
      rw [runId_commitCopy_of_mem hs hj] at hrun
      cases (mem_commitCopy j').mp hj' with
      | inl hj' =>
        rw [runId_commitCopy_of_mem hs hj'] at hrun
        exact hs.oneType j hj j' hj' hrun
      | inr hj' =>
        subst hj'
        rw [runId_commitCopy_copy] at hrun
        exact htype j hj hrun
    | inr hj =>
      subst hj
      rw [runId_commitCopy_copy] at hrun
      cases (mem_commitCopy j').mp hj' with
      | inl hj' =>
        rw [runId_commitCopy_of_mem hs hj'] at hrun
        exact (htype j' hj' hrun.symm).symm
      | inr hj' =>
        subst hj'
        rfl

theorem sound_upload (hs : Sound scope s) (key : String) (payload : Payload) :
    Sound scope (upload s c key payload) where
  ids := hs.ids
  recorded := by
    intro j hj
    have hr := hs.recorded j hj
    exact ⟨hr.owned, hr.success, hr.idBelow, hr.runBelow, hr.past, hr.base⟩
  oneType := hs.oneType

theorem chainDiffs_eq_nil {jobs : List BackupJob} (clusterId : Option Nat) {full : BackupJob}
    (upTo : Option Nat) (h : ∀ j ∈ jobs, j.jobType = .incremental → j.baseJobId ≠ some full.id) :
    chainDiffs jobs clusterId full upTo = [] := by
  apply List.eq_nil_iff_forall_not_mem.mpr
  intro j hj
  unfold chainDiffs at hj
  rw [mem_oldestFirst, List.mem_filter] at hj
  obtain ⟨hmem, hfacts⟩ := hj
  simp only [Bool.and_eq_true, beq_iff_eq] at hfacts
  obtain ⟨⟨⟨⟨⟨hbase, _⟩, hinc⟩, _⟩, _⟩, _⟩ := hfacts
  exact h j hmem hinc hbase

theorem not_base_of_copy (hs : Sound scope s) (hfull : source.jobType = .full) :
    ∀ j ∈ (commitCopy s source c).world.jobs, j.jobType = .incremental →
      j.baseJobId ≠ some (copyRow s.world source c).id := by
  intro j hj hinc hbase
  cases (mem_commitCopy j).mp hj with
  | inl hj =>
    obtain ⟨base, hmem, hid, _⟩ := (hs.recorded j hj).base hinc
    have hlt := (hs.recorded base hmem).idBelow
    have heq : s.world.nextId = base.id := Option.some.inj (hbase.symm.trans hid)
    omega
  | inr hj =>
    subst hj
    have hfull' : source.jobType = .incremental := hinc
    rw [hfull] at hfull'
    cases hfull'

theorem succeeded_copy (hs : Sound scope (commitCopy s source c)) (hfull : source.jobType = .full) :
    scope.succeeded .full (copyRow s.world source c) = true := by
  have hr := hs.recorded _ ((mem_commitCopy _).mpr (Or.inr rfl))
  exact (scope.succeeded_iff _ _).mpr ⟨hr.owned, hfull, rfl⟩

section

variable (hs : Sound scope s)
include hs

section

variable (hs' : Sound scope (commitCopy s source c))
include hs'

/-- **A copied full is restorable** once its artifact is at the destination. -/
theorem restorable_copy (hfull : source.jobType = .full)
    {key : String} (hkey : source.remoteKey = some key)
    (hstored : ((s.world.store c.destinationSlot).find? key).isSome = true) :
    (commitCopy s source c).world.restorable scope (copyRow s.world source c) =
      true := by
  have hmem : copyRow s.world source c ∈ (commitCopy s source c).world.jobs :=
    (mem_commitCopy _).mpr (Or.inr rfl)
  have hsucc := succeeded_copy hs' hfull
  have hchain : backupChain (commitCopy s source c).world.jobs scope
      (some (copyRow s.world source c).id) =
        some (copyRow s.world source c, []) := by
    rw [backupChain_spec _ _ _ _ _ (getJob_of_mem hs'.ids hmem)]
    refine ⟨Or.inl hsucc, ?_, hsucc, rfl, ?_⟩
    · have hne : (copyRow s.world source c).jobType ≠ .incremental := by
        show source.jobType ≠ .incremental
        rw [hfull]
        decide
      exact if_neg hne
    · exact (chainDiffs_eq_nil _ _ (not_base_of_copy hs hfull)).symm
  unfold World.restorable
  rw [hchain]
  simp only [List.all_cons, List.all_nil, Bool.and_true]
  show (World.objectAt _ (some c.destinationSlot) _).isSome = true
  unfold World.objectAt
  rw [show (copyRow s.world source c).remoteKey = some key from hkey]
  exact hstored

/-- **A copied incremental is not**: the base of its chain is on another slot. -/
theorem not_restorable_copy (hsource : source ∈ s.world.jobs) (hcluster : source.clusterId = none)
    (hinc : source.jobType = .incremental)
    (hnone : ∀ e ∈ s.world.jobs, isCopy s source c.destinationSlot e = false) :
    (commitCopy s source c).world.restorable scope (copyRow s.world source c) =
      false := by
  have hmem : copyRow s.world source c ∈ (commitCopy s source c).world.jobs :=
    (mem_commitCopy _).mpr (Or.inr rfl)
  obtain ⟨base, hbase, hid, helsewhere⟩ :=
    hs.base_elsewhere hsource hcluster hinc hnone
  unfold World.restorable
  cases hchain : backupChain (commitCopy s source c).world.jobs scope
      (some (copyRow s.world source c).id) with
  | none => rfl
  | some chain =>
    obtain ⟨full, diffs⟩ := chain
    obtain ⟨_, hfull, _, hslot, _⟩ :=
      (backupChain_spec _ _ _ _ _ (getJob_of_mem hs'.ids hmem)).mp hchain
    have hbase' : base ∈ (commitCopy s source c).world.jobs :=
      (mem_commitCopy base).mpr (Or.inl hbase)
    have hinc' : (copyRow s.world source c).jobType = .incremental := hinc
    have hid' : (copyRow s.world source c).baseJobId = some base.id := hid
    rw [if_pos hinc', hid', Option.bind_some, getJob_of_mem hs'.ids hbase',
      Option.some.injEq] at hfull
    rw [← hfull] at hslot
    exact absurd hslot.symm helsewhere

theorem default_copy (hfull : source.jobType = .full) (hnow : s.world.now < c.committedAt) :
    (commitCopy s source c).defaultContent scope =
      some (s.world.taken source.id) := by
  have hsucc := succeeded_copy hs' hfull
  have hmem : copyRow s.world source c ∈ newestFirst
      ((commitCopy s source c).world.jobs.filter (scope.succeeded .full)) := by
    unfold newestFirst
    rw [Retention.mem_sortNewest, List.mem_filter]
    exact ⟨(mem_commitCopy _).mpr (Or.inr rfl), hsucc⟩
  have hnewest : (newestFirst ((commitCopy s source c).world.jobs.filter
      (scope.succeeded .full))).head? = some (copyRow s.world source c) := by
    have hsorted := Retention.sortNewest_pairwise (·.createdAt)
      ((commitCopy s source c).world.jobs.filter (scope.succeeded .full))
    unfold newestFirst at hmem ⊢
    cases hlist : Retention.sortNewest (·.createdAt)
        ((commitCopy s source c).world.jobs.filter (scope.succeeded .full)) with
    | nil =>
      rw [hlist] at hmem
      cases hmem
    | cons first rest =>
      rw [hlist] at hmem hsorted
      have hfirst : first ∈ (commitCopy s source c).world.jobs := by
        have hin : first ∈ Retention.sortNewest (·.createdAt)
            ((commitCopy s source c).world.jobs.filter
              (scope.succeeded .full)) := by
          rw [hlist]
          exact List.mem_cons_self
        rw [Retention.mem_sortNewest, List.mem_filter] at hin
        exact hin.1
      cases (mem_commitCopy first).mp hfirst with
      | inr hcopy => rw [List.head?_cons, hcopy]
      | inl hold =>
        -- the rows before the copy are older than it
        have hpast := (hs.recorded first hold).past
        cases List.mem_cons.mp hmem with
        | inl heq => rw [List.head?_cons, heq]
        | inr hrest =>
          have hle : c.committedAt ≤ first.createdAt :=
            (List.pairwise_cons.mp hsorted).1 _ hrest
          omega
  have hchain : backupChain (commitCopy s source c).world.jobs scope none =
      some (copyRow s.world source c, []) := by
    unfold backupChain
    simp only [hnewest]
    rw [chainDiffs_eq_nil _ _ (not_base_of_copy hs hfull)]
  unfold Site.defaultContent
  rw [hchain]
  show some ((commitCopy s source c).world.taken s.world.nextId) = _
  exact congrArg some (if_pos rfl)

theorem full_of_restorable_copy
    (hsource : source ∈ s.world.jobs) (hcluster : source.clusterId = none)
    (htype : source.jobType = .full ∨ source.jobType = .incremental)
    (hnone : ∀ e ∈ s.world.jobs, isCopy s source c.destinationSlot e = false) {d : BackupJob}
    (hd : d ∈ (commitCopy s source c).world.jobs)
    (hcopy : isCopy (commitCopy s source c) source c.destinationSlot d = true)
    (hrestorable : (commitCopy s source c).world.restorable scope d = true) :
    source.jobType = .full := by
  cases htype with
  | inl hfull => exact hfull
  | inr hinc =>
    cases (mem_commitCopy d).mp hd with
    | inl hold =>
      have hrun := ((isCopy_iff _ _ _ _).mp hcopy).1
      rw [runId_commitCopy_of_mem hs hold,
        runId_commitCopy_of_mem hs hsource] at hrun
      have hslot := ((isCopy_iff _ _ _ _).mp hcopy).2.2.2.2.2.1
      have hcopy' := hs.isCopy_of_run hsource hcluster hold hrun hslot
      rw [hnone d hold] at hcopy'
      cases hcopy'
    | inr hnewRow =>
      rw [hnewRow, not_restorable_copy hs hs' hsource hcluster hinc
        hnone] at hrestorable
      cases hrestorable

end

end

end Copy

/-! ## Steps -/

theorem runId_advance_old (w : World) (hs : Sound scope s) (hj : j ∈ s.world.jobs) :
    (s.advance w).runId j.id = s.runId j.id := by
  have hlt := (hs.recorded j hj).idBelow
  exact if_neg (by omega)

theorem recorded_advance_old (hs : Sound scope s) (hjobs : ∀ j ∈ s.world.jobs, j ∈ w.jobs)
    (hnext : s.world.nextId ≤ w.nextId) (hnow : s.world.now ≤ w.now) (hj : j ∈ s.world.jobs) :
    Recorded scope (s.advance w) j := by
  have hr := hs.recorded j hj
  have hid := hr.idBelow
  have hrun := hr.runBelow
  have hpast := hr.past
  refine ⟨hr.owned, hr.success, by show j.id < w.nextId; omega, ?_,
    by show j.createdAt ≤ w.now; omega, ?_⟩
  · rw [runId_advance_old w hs hj]
    show s.runId j.id < w.nextId
    omega
  · intro hinc
    obtain ⟨base, hbase, hbid, hfull, hbefore, o, ho, hsame, hslot⟩ := hr.base hinc
    refine ⟨base, hjobs base hbase, hbid, hfull, hbefore, o, hjobs o ho, ?_, hslot⟩
    rw [runId_advance_old w hs ho, runId_advance_old w hs hj]
    exact hsame

/-- A step that adds no row keeps the invariant. -/
theorem sound_advance_same (hs : Sound scope s) (hjobs : w.jobs = s.world.jobs)
    (hnext : w.nextId = s.world.nextId) (hnow : w.now = s.world.now) :
    Sound scope (s.advance w) where
  ids := by
    show (w.jobs.map (·.id)).Nodup
    rw [hjobs]
    exact hs.ids
  recorded := by
    intro j hj
    have hj : j ∈ s.world.jobs := hjobs ▸ hj
    exact recorded_advance_old hs (fun _ h => hjobs.symm ▸ h) hnext.ge hnow.ge hj
  oneType := by
    intro j hj j' hj' hrun
    have hj : j ∈ s.world.jobs := hjobs ▸ hj
    have hj' : j' ∈ s.world.jobs := hjobs ▸ hj'
    rw [runId_advance_old w hs hj, runId_advance_old w hs hj'] at hrun
    exact hs.oneType j hj j' hj' hrun

theorem base_jobRow {payload : Payload} {i : Nat} (hi : r.targets.slots[i]? = some slot)
    (hinc : (jobRow codec scope w r payload slot i).jobType = .incremental) :
    ∃ base ∈ w.jobs,
      (jobRow codec scope w r payload slot i).baseJobId = some base.id ∧
        base.jobType = .full ∧ base.backupTargetSlot = some slot := by
  obtain ⟨hlt, hget⟩ := List.getElem?_eq_some_iff.mp hi
  have hslot : slot ∈ r.targets.slots := hget ▸ List.getElem_mem hlt
  have hfull : isFull w.jobs scope r = false := by
    cases hf : isFull w.jobs scope r with
    | false => rfl
    | true => simp [jobRow, hf] at hinc
  obtain ⟨base, hbase⟩ := latestFull_of_not_isFull hfull hslot
  obtain ⟨hmem, hsucc, hbaseSlot, _⟩ := latestSuccessfulFullJob_spec hbase
  refine ⟨base, hmem, ?_, ((scope.succeeded_iff _ _).mp hsucc).2.1, hbaseSlot⟩
  simp [jobRow, hfull, hbase]

theorem runId_advance_new (s : Site) (w : World) (r : BackupRun) (payload : Payload) (slot : String)
    (i : Nat) :
    (s.advance w).runId (jobRow codec scope s.world r payload slot i).id = s.world.nextId :=
  if_pos (Nat.le_add_right s.world.nextId i)

section

variable (hs : Sound scope s)
include hs

theorem recorded_advance_new {payload : Payload}
    (hclaim : s.world.now < r.claimedAt) (hcommit : r.claimedAt ≤ r.committedAt)
    (hjobs : w.jobs = s.world.jobs ++ jobRows codec scope s.world r payload)
    (hnext : w.nextId = s.world.nextId + r.targets.slots.length) (hnow : w.now = r.committedAt)
    {i : Nat} (hi : r.targets.slots[i]? = some slot) :
    Recorded scope (s.advance w) (jobRow codec scope s.world r payload slot i) := by
  obtain ⟨hlt, hget⟩ := List.getElem?_eq_some_iff.mp hi
  have hcreated : (jobRow codec scope s.world r payload slot i).createdAt =
      if i = 0 then r.claimedAt else r.committedAt := rfl
  have hafter : s.world.now < (jobRow codec scope s.world r payload slot i).createdAt ∧
      (jobRow codec scope s.world r payload slot i).createdAt ≤ w.now := by
    rw [hcreated]
    split_ifs <;> omega
  have hmem : jobRow codec scope s.world r payload slot i ∈ w.jobs := by
    rw [hjobs]
    exact List.mem_append_right _ ((mem_jobRows_iff _ _ _ _ _ _).mpr ⟨slot, i, hi, rfl⟩)
  refine ⟨by simp [jobRow, ImageScope.owns], rfl, ?_, ?_, hafter.2, ?_⟩
  · show s.world.nextId + i < w.nextId
    omega
  · rw [runId_advance_new]
    show s.world.nextId < w.nextId
    omega
  · intro hinc
    obtain ⟨base, hbase, hid, hfull, hslot⟩ := base_jobRow hi hinc
    have hpast := (hs.recorded base hbase).past
    have hold : base ∈ w.jobs := by
      rw [hjobs]
      exact List.mem_append_left _ hbase
    exact ⟨base, hold, hid, hfull, lt_of_le_of_lt hpast hafter.1, _, hmem, rfl, hslot.symm⟩

theorem sound_advance_backup (hrun : runRbdBackup codec scope s.world r = some w) :
    Sound scope (s.advance w) := by
  obtain ⟨payload, hclaim, hcommit, _, hjobs, hnext, _, hnow, _⟩ :=
    runRbdBackup_cases hrun
  have hold : ∀ j ∈ s.world.jobs, j ∈ w.jobs := by
    intro j hj
    rw [hjobs]
    exact List.mem_append_left _ hj
  have hcases : ∀ j, j ∈ w.jobs → j ∈ s.world.jobs ∨
      ∃ slot i, r.targets.slots[i]? = some slot ∧
        j = jobRow codec scope s.world r payload slot i := by
    intro j hj
    rw [hjobs] at hj
    exact (List.mem_append.mp hj).imp_right (mem_jobRows_iff _ _ _ _ _ _).mp
  constructor
  · show (w.jobs.map (·.id)).Nodup
    rw [hjobs, List.map_append, jobRows_ids]
    apply List.Nodup.append hs.ids
    · exact List.nodup_range.map (fun a b h => by simpa using h)
    · intro id hid hid'
      obtain ⟨j, hj, hjid⟩ := List.mem_map.mp hid
      obtain ⟨i, _, hi⟩ := List.mem_map.mp hid'
      have hlt := (hs.recorded j hj).idBelow
      omega
  · intro j hj
    cases hcases j hj with
    | inl hj => exact recorded_advance_old hs hold (by omega) (by omega) hj
    | inr hnew =>
      obtain ⟨slot, i, hi, rfl⟩ := hnew
      exact recorded_advance_new hs hclaim hcommit hjobs hnext hnow hi
  · intro j hj j' hj' hsame
    cases hcases j hj with
    | inl hj =>
      have hbelow := (hs.recorded j hj).runBelow
      rw [runId_advance_old w hs hj] at hsame
      cases hcases j' hj' with
      | inl hj' =>
        rw [runId_advance_old w hs hj'] at hsame
        exact hs.oneType j hj j' hj' hsame
      | inr hnew =>
        obtain ⟨slot, i, hi, rfl⟩ := hnew
        rw [runId_advance_new] at hsame
        omega
    | inr hnew =>
      obtain ⟨slot, i, hi, rfl⟩ := hnew
      rw [runId_advance_new] at hsame
      cases hcases j' hj' with
      | inl hj' =>
        have hbelow := (hs.recorded j' hj').runBelow
        rw [runId_advance_old w hs hj'] at hsame
        omega
      | inr hnew' =>
        obtain ⟨slot', i', hi', rfl⟩ := hnew'
        rfl

/-- **A step of the backup system** keeps the invariant, and its incrementals
have bases of their own slot. -/
theorem backup_step {e : BackupEvent} (h : (copySystem codec scope).step s (.backup e) = some s') :
    CopiesKept scope s (.backup e) s' ∧ Sound scope s' := by
  obtain ⟨w, hw, hadvance⟩ := Option.map_eq_some_iff.mp h
  subst hadvance
  have hquiet : w.jobs = s.world.jobs → w.nextId = s.world.nextId →
      w.now = s.world.now →
      CopiesKept scope s (.backup e) (s.advance w) ∧
        Sound scope (s.advance w) := by
    intro hjobs hnext hnow
    refine ⟨?_, sound_advance_same hs hjobs hnext hnow⟩
    intro j hj hnew
    have hj : j ∈ s.world.jobs := hjobs ▸ hj
    exact absurd hj hnew
  cases e with
  | write | sweep =>
    cases hw
    exact hquiet rfl rfl rfl
  | failedBackup snapName =>
    obtain ⟨im, _, him⟩ := Option.map_eq_some_iff.mp hw
    subst him
    exact hquiet rfl rfl rfl
  | backup r =>
    refine ⟨?_, sound_advance_backup hs hw⟩
    obtain ⟨payload, _, _, _, hjobs, _⟩ := runRbdBackup_cases hw
    intro j hj hnew hinc
    have hj : j ∈ w.jobs := hj
    rw [hjobs] at hj
    cases List.mem_append.mp hj with
    | inl hj => exact absurd hj hnew
    | inr hj =>
      obtain ⟨slot, i, hi, rfl⟩ := (mem_jobRows_iff _ _ _ _ _ _).mp hj
      exact base_jobRow hi hinc

theorem repairMissingCopy_cases (h : repairMissingCopy codec s c = some s') :
    ∃ source, repairSource s.world.jobs c = some source ∧
      ((∃ e ∈ s.world.jobs, isCopy s source c.destinationSlot e = true) ∧ s' = s ∨
        (∀ e ∈ s.world.jobs, isCopy s source c.destinationSlot e = false) ∧
          s.world.now < c.committedAt ∧
          ∃ key payload, source.remoteKey = some key ∧
            s' = commitCopy (upload s c key payload) source c) := by
  unfold repairMissingCopy at h
  cases hsource : repairSource s.world.jobs c with
  | none => simp [hsource] at h
  | some source =>
    obtain ⟨hmem, hcluster, _, _⟩ := repairSource_spec hsource
    refine ⟨source, rfl, ?_⟩
    simp only [hsource] at h
    cases hany : s.world.jobs.any (isCopy s source c.destinationSlot) with
    | true =>
      rw [hany, if_pos rfl, Option.some.injEq] at h
      left
      exact ⟨List.any_eq_true.mp hany, h.symm⟩
    | false =>
      right
      have hnone : ∀ e ∈ s.world.jobs,
          isCopy s source c.destinationSlot e = false := by
        intro e he
        have hne := List.any_eq_false.mp hany e he
        simpa using hne
      -- a row of the run at the slot would be a copy
      have hdup : s.world.jobs.any (isDuplicate s source c.destinationSlot) =
          false := by
        apply List.any_eq_false.mpr
        intro e he hdup
        simp only [isDuplicate, Bool.and_eq_true, beq_iff_eq] at hdup
        have hcopy := hs.isCopy_of_run hmem hcluster he hdup.1.1.1 hdup.1.2
        rw [hnone e he] at hcopy
        cases hcopy
      rw [hany] at h
      simp only [Bool.false_eq_true, if_false] at h
      by_cases htargets : source.backupTargetSlot.any
          c.targets.slots.contains = true ∧ c.destinationSlot ∈ c.targets.slots
      · rw [if_neg (not_not.mpr htargets)] at h
        by_cases hclock : s.world.now < c.committedAt ∧
            s.world.clock ≤ c.uploadedAt
        · rw [if_neg (not_not.mpr hclock)] at h
          cases hkey : source.remoteKey with
          | none => simp [hkey] at h
          | some key =>
            cases hdown : downloadAndVerify codec
                (s.world.storageOf source) source with
            | none => simp [hkey, hdown] at h
            | some payload =>
              simp only [hkey, hdown, hdup, Bool.false_eq_true,
                if_false] at h
              by_cases haccepts : (s.world.store
                  c.destinationSlot).acceptsUpload key = true
              · rw [if_pos haccepts, Option.some.injEq] at h
                exact ⟨hnone, hclock.1, key, payload, rfl, h.symm⟩
              · rw [if_neg haccepts] at h
                cases h
        · rw [if_pos hclock] at h
          cases h
      · rw [if_pos htargets] at h
        cases h

/-- **A repair** keeps the recovery points exactly when it suits them. -/
theorem repair_step (h : repairMissingCopy codec s c = some s') :
    (CopiesKept scope s (.repair c) s' ↔ RepairSuits scope s (.repair c)) ∧
      Sound scope s' := by
  obtain ⟨source, hsource, hcases⟩ := repairMissingCopy_cases hs h
  obtain ⟨hmem, hcluster, htype, hne⟩ := repairSource_spec hsource
  have hunique : ∀ source', repairSource s.world.jobs c = some source' →
      source' = source := by
    intro source' hsource'
    rw [hsource, Option.some.injEq] at hsource'
    exact hsource'.symm
  cases hcases with
  | inl hexists =>
    obtain ⟨⟨e, he, hcopy⟩, hsame⟩ := hexists
    subst hsame
    refine ⟨⟨?_, ?_⟩, hs⟩
    · intro hkept source' hsource'
      obtain ⟨source'', hsource'', hd, _⟩ := hkept
      rw [hunique source' hsource']
      rw [hunique source'' hsource''] at hd
      exact Or.inl hd
    · intro hsuits
      cases hsuits source hsource with
      | inl hd => exact ⟨source, hsource, hd, rfl⟩
      | inr hnone =>
        rw [hnone.1 e he] at hcopy
        cases hcopy
  | inr hnew =>
    obtain ⟨hnone, hnow, key, payload, hkey, hs'⟩ := hnew
    subst hs'
    have hu := sound_upload (c := c) hs key payload
    have hu' : Sound scope (commitCopy (upload s c key payload) source c) :=
      sound_commitCopy hu hmem hcluster hnow
    refine ⟨⟨?_, ?_⟩, hu'⟩
    · intro hkept source' hsource'
      rw [hunique source' hsource']
      obtain ⟨source'', hsource'', ⟨d, hd, hcopy, hrestorable⟩, hdefault⟩ := hkept
      rw [hunique source'' hsource''] at hcopy
      right
      have hfull := full_of_restorable_copy hu hu' hmem hcluster htype hnone hd hcopy
        hrestorable
      refine ⟨hnone, hfull, ?_⟩
      rw [← hdefault]
      exact default_copy hu hu' hfull hnow
    · intro hsuits
      cases hsuits source hsource with
      | inl hexists =>
        obtain ⟨e, he, hcopy, _⟩ := hexists
        rw [hnone e he] at hcopy
        cases hcopy
      | inr hfits =>
        obtain ⟨_, hfull, hdefault⟩ := hfits
        refine ⟨source, hsource, ⟨copyRow s.world source c,
          (mem_commitCopy _).mpr (Or.inr rfl), ?_, ?_⟩, ?_⟩
        · rw [isCopy_iff]
          refine ⟨?_, rfl, rfl, rfl, rfl, rfl, rfl⟩
          rw [runId_commitCopy_of_mem hu hmem]
          exact runId_commitCopy_copy
        · apply restorable_copy hu hu' hfull hkey
          show ((if c.destinationSlot = c.destinationSlot then _
            else _ : Backend Payload).find? key).isSome = true
          rw [if_pos rfl, Backend.find?_put, if_pos rfl]
          rfl
        · rw [hdefault]
          exact default_copy hu hu' hfull hnow

end

/-- **Copies are kept** in a run, from an image without rows, exactly when every
repair finds a restorable copy at the destination, or finds none and copies a
full export of the content that the default restore resolves to. -/
theorem copies_kept_iff (codec : Codec) (scope : ImageScope) (s s' : Site) (hfresh : s.world.Fresh)
    (run : List Event) (hrun : (copySystem codec scope).run s run = some s') :
    (copySystem codec scope).Always (CopiesKept scope) s run ↔
      (copySystem codec scope).Meets (RepairSuits scope) s run := by
  have hs : Sound scope s := by
    have hnil : s.world.jobs = [] := hfresh
    exact ⟨by simp [hnil], by simp [hnil], by simp [hnil]⟩
  apply (copySystem codec scope).always_iff_meets_of (CopiesKept scope)
    (RepairSuits scope) (Sound scope) _ run s s' hs hrun
  intro s e s' hs h
  cases e with
  | backup e =>
    obtain ⟨hkept, hsound⟩ := backup_step hs h
    exact ⟨⟨fun _ => True.intro, fun _ => hkept⟩, fun _ => hsound⟩
  | repair c =>
    obtain ⟨hiff, hsound⟩ := repair_step hs h
    exact ⟨hiff, fun _ => hsound⟩

/-! ## Two runs -/

/-- No row yet. -/
def emptySite : Site := ⟨emptyWorld, fun _ => 0⟩

/-- The first row is copied to slot `b` at that second. -/
def repairFirstAt (second : Nat) : Repair :=
  ⟨1, "b", ⟨["a", "b"], by decide⟩, second, second * 1000000⟩

/-- A full export at slot `a`. -/
def firstRun : Event := .backup (runAt 1 ⟨"backup-20261001T000000Z", noSlash_first⟩)

def firstRow : BackupJob where
  id := 1
  clusterId := none
  pool := some "rbd"
  image := some "vm1"
  jobType := .full
  status := .success
  baseJobId := none
  backupTargetSlot := some "a"
  remoteKey := some "full/rbd/vm1/backup-20261001T000000Z.bin"
  sizeBytes := some 1
  sha256 := some "00"
  createdAt := 1000000

/-- The only full export is copied. -/
def copyRun : List Event := [firstRun, .repair (repairFirstAt 2)]

/-- The full export is copied when an incremental follows it. -/
def lateCopyRun : List Event :=
  [firstRun, .backup (.write 0 7),
    .backup (runAt 2 ⟨"backup-20261002T000000Z", noSlash_second⟩),
    .repair (repairFirstAt 3)]

/-- The copy of the only full export keeps the recovery points. -/
theorem copies_kept_copyRun :
    (copySystem plainCodec vm1).Always (CopiesKept vm1) emptySite copyRun := by
  have hruns : ((copySystem plainCodec vm1).run emptySite copyRun).isSome =
      true := by
    decide +kernel
  obtain ⟨s', hrun⟩ := Option.isSome_iff_exists.mp hruns
  have hfresh : emptySite.world.Fresh := rfl
  apply (copies_kept_iff plainCodec vm1 emptySite s' hfresh copyRun hrun).mpr
  have hview : ((copySystem plainCodec vm1).step emptySite firstRun).map
      (fun s => (repairSource s.world.jobs (repairFirstAt 2),
        backupChain s.world.jobs vm1 none,
        s.world.jobs.any (isCopy s firstRow "b"))) =
      some (some firstRow, some (firstRow, []), false) := by
    decide +kernel
  obtain ⟨s, hs, hfacts⟩ := Option.map_eq_some_iff.mp hview
  simp only [Prod.mk.injEq] at hfacts
  obtain ⟨hsource, hchain, hnone⟩ := hfacts
  refine ⟨True.intro, ?_⟩
  rw [hs]
  refine ⟨?_, ?_⟩
  · intro source hsource'
    rw [hsource, Option.some.injEq] at hsource'
    subst hsource'
    right
    refine ⟨?_, rfl, ?_⟩
    · intro e he
      have hne := List.any_eq_false.mp hnone e he
      show isCopy s firstRow "b" e = false
      simpa using hne
    · unfold Site.defaultContent
      rw [hchain]
      rfl
  · cases (copySystem plainCodec vm1).step s (.repair (repairFirstAt 2)) with
    | none | some => exact True.intro

/-- The copy of the full export becomes the newest full, and no incremental
names it: the default restore goes back to the content before the write. -/
theorem repair_turns_default_back :
    ¬ (copySystem plainCodec vm1).Always (CopiesKept vm1) emptySite
      lateCopyRun := by
  intro halways
  have hview : ((copySystem plainCodec vm1).run emptySite
      (lateCopyRun.take 3)).map (fun s =>
        ((s.defaultContent vm1).map (fun content => content 0),
          ((copySystem plainCodec vm1).step s (.repair (repairFirstAt 3))).map
            (fun s' => (s'.defaultContent vm1).map (fun content => content 0)))) =
      some (some 7, some (some 0)) := by
    decide +kernel
  obtain ⟨s, hs, hfacts⟩ := Option.map_eq_some_iff.mp hview
  simp only [Prod.mk.injEq] at hfacts
  obtain ⟨hbefore, hlast⟩ := hfacts
  obtain ⟨s', hstep, hafter⟩ := Option.map_eq_some_iff.mp hlast
  have hkept := halways.step_after hstep _ _ hs
  obtain ⟨_, _, _, hdefault⟩ := hkept
  rw [hdefault, hbefore] at hafter
  cases hafter

end CephAi.Ports.CopyRepair
