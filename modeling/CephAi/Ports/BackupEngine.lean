import CephAi.Ports.BackupRetention
import CephAi.Verified.Runs
import CephAi.Verified.SnapshotImage
import Mathlib

/-!
# Backup runs of one image

`engine._run_rbd_backup` decides between a full export and an incremental one,
snapshots the image, uploads the export to every configured target and records
one `backup_jobs` row for each.  A retention sweep follows a successful run and
can also be asked for on its own.

The system below has one step for each of these.  A run is one step: its reads
of the image all go through its own snapshot, and the `RUNNING` row keeps other
runs of the image out.  A run that fails leaves no row the queries return; what
it can leave is its snapshot.

## Main results

* `snapNameOf_remoteKeyOf` — the snapshot name is recovered from the key.
* `wellFormed_run` — in every run of the system the job rows are well formed:
  an incremental follows its base and shares its slot.
-/

namespace CephAi.Ports.BackupEngine

open Verified Verified.SnapshotImage
open BackupStorage BackupJobs
open BackupRetention

/-- The content of an image: a value for every block. -/
abbrev Content := Nat → Nat

/-- The bytes of an artifact. -/
abbrev Payload := Export Nat Nat

/-- The source image. -/
abbrev RbdImage := Image Nat Nat

/-- Length and SHA-256 text of an artifact. -/
structure Codec where
  size : Payload → Nat
  sha256 : Payload → String
  sha256Ne : ∀ p, sha256 p ≠ ""

/-- `f"backup-{utc_now().strftime('%Y%m%dT%H%M%SZ')}"`. -/
structure SnapName where
  value : String
  noSlash : value.toList.contains '/' = false

/-- The configured target slots; a policy names each once. -/
structure TargetSlots where
  slots : List String
  nodup : slots.Nodup

/-- What a run of `_run_rbd_backup` reads from its surroundings. -/
structure BackupRun where
  targets : TargetSlots
  fullRefreshDays : Option Nat
  snapName : SnapName
  claimedAt : Nat
  uploadedAt : Nat
  committedAt : Nat
  removed : String → Bool

/-- The image, its rows and its targets.  `now` is the clock of the database in
microseconds, `clock` that of the targets in seconds; `taken` remembers the
content at the snapshot of each job. -/
structure World where
  jobs : List BackupJob
  nextId : Nat
  store : String → Backend Payload
  image : RbdImage
  now : Nat
  clock : Nat
  taken : Nat → Content

/-! ## Keys and snapshot names -/

/-- `f"{job_type}/{pool}/{image}/{snap_name}.bin"`. -/
def remoteKeyOf (jobType : JobType) (scope : ImageScope)
    (snapName : SnapName) : String :=
  retentionPrefix jobType scope.pool scope.image ++ "/" ++
    (snapName.value ++ ".bin")

/-- `_snap_name_of`: `remote_key.rsplit("/", 1)[-1].removesuffix(".bin")`. -/
def snapNameOf (remoteKey : String) : String :=
  let file := (remoteKey.toList.reverse.takeWhile (fun c => c != '/')).reverse
  if ".bin".toList.isSuffixOf file then
    String.ofList (file.take (file.length - ".bin".toList.length))
  else String.ofList file

def jobSnapName (j : BackupJob) : String := snapNameOf (j.remoteKey.getD "")

/-! ## One run -/

/-- `timedelta(days=1)` in microseconds. -/
def dayMicros : Nat := 24 * 60 * 60 * 1000000

/-- `_latest_successful_full_jobs_by_slot(...).values()`. -/
def previousFullJobs (jobs : List BackupJob) (scope : ImageScope)
    (slots : List String) : List BackupJob :=
  slots.filterMap (latestSuccessfulFullJob jobs scope)

/-- Some previous full is `full_refresh_every_n_days` old. -/
def refreshDue (fullRefreshDays : Option Nat) (now : Nat)
    (previous : List BackupJob) : Bool :=
  match fullRefreshDays with
  | none => false
  | some days => days != 0 &&
      previous.any (fun j => decide (days ≤ (now - j.createdAt) / dayMicros))

/-- `is_full`: a slot has no full yet, the refresh is due, or the bases of the
slots do not share one snapshot. -/
def isFull (jobs : List BackupJob) (scope : ImageScope) (r : BackupRun) :
    Bool :=
  let previous := previousFullJobs jobs scope r.targets.slots
  r.targets.slots.any
      (fun slot => (latestSuccessfulFullJob jobs scope slot).isNone) ||
    refreshDue r.fullRefreshDays r.claimedAt previous ||
    decide ((previous.map jobSnapName).dedup.length ≠ 1)

/-- `rbd export`, or `rbd export-diff --from-snap` the first slot's base. -/
def exportCmd (im : RbdImage) (full : Bool) (baseJob : Option BackupJob)
    (snapName : String) : Option Payload :=
  if full then im.exportSnap snapName
  else baseJob.bind (fun base => im.exportDiff (jobSnapName base) snapName)

/-- The row of slot number `i`.  The first one is the claimed `RUNNING` row. -/
def jobRow (codec : Codec) (scope : ImageScope) (w : World) (r : BackupRun)
    (payload : Payload) (slot : String) (i : Nat) : BackupJob :=
  let full := isFull w.jobs scope r
  let jobType := if full then JobType.full else JobType.incremental
  { id := w.nextId + i
    clusterId := scope.clusterId
    pool := some scope.pool.value
    image := some scope.image.value
    jobType := jobType
    status := .success
    baseJobId :=
      if full then none
      else (latestSuccessfulFullJob w.jobs scope slot).map (·.id)
    backupTargetSlot := some slot
    remoteKey := some (remoteKeyOf jobType scope r.snapName)
    sizeBytes := some (codec.size payload)
    sha256 := some (codec.sha256 payload)
    createdAt := if i = 0 then r.claimedAt else r.committedAt }

def jobRows (codec : Codec) (scope : ImageScope) (w : World) (r : BackupRun)
    (payload : Payload) : List BackupJob :=
  r.targets.slots.zipIdx.map fun p => jobRow codec scope w r payload p.1 p.2

def artifact (scope : ImageScope) (w : World) (r : BackupRun)
    (payload : Payload) : StoredObject Payload where
  key := remoteKeyOf
    (if isFull w.jobs scope r then .full else .incremental) scope r.snapName
  createdAt := r.uploadedAt
  payload := payload

/-- The snapshots a successful run removes, as far as the removals go through:
the previous fulls' after a full, its own after an incremental. -/
def removeSnapshots (im : RbdImage) (names : List String)
    (removed : String → Bool) : RbdImage :=
  names.foldl (fun im name => if removed name then im.snapRm name else im) im

/-- `_run_rbd_backup` up to its retention sweep; `none` when it does not get
through.  Clocks do not run backwards, and a claim is younger than the rows
that were committed before it. -/
def runRbdBackup (codec : Codec) (scope : ImageScope) (w : World)
    (r : BackupRun) : Option World :=
  let slots := r.targets.slots
  let full := isFull w.jobs scope r
  let previous := previousFullJobs w.jobs scope slots
  if slots = [] ∨ ¬ (w.now < r.claimedAt ∧ r.claimedAt ≤ r.committedAt ∧
      w.clock ≤ r.uploadedAt) then none
  else
    match w.image.snapCreate r.snapName.value with
    | none => none
    | some im =>
      match exportCmd im full previous.head? r.snapName.value with
      | none => none
      | some payload =>
        let o := artifact scope w r payload
        if slots.all (fun slot => (w.store slot).acceptsUpload o.key) then
          some
            { jobs := w.jobs ++ jobRows codec scope w r payload
              nextId := w.nextId + slots.length
              store := fun slot =>
                if slot ∈ slots then (w.store slot).put o else w.store slot
              image := removeSnapshots im
                (if full then previous.map jobSnapName
                  else [r.snapName.value]) r.removed
              now := r.committedAt
              clock := r.uploadedAt
              taken := fun id =>
                if w.nextId ≤ id then w.image.content else w.taken id }
        else none

/-- The targets of the named slots. -/
def World.targets (w : World) (slots : TargetSlots) : List (Target Payload) :=
  slots.slots.map fun slot => { slot := slot, backend := w.store slot }

/-- A retention sweep over the configured slots. -/
def sweepWorld (scope : ImageScope) (w : World) (slots : TargetSlots)
    (counts : RetentionCounts) (refuses : String → String → Bool) : World :=
  let swept := (sweepRetentionAfterSuccess refuses w.jobs scope counts
    (w.targets slots)).1
  { w with
    store := fun slot =>
      match swept.find? (fun t => t.slot == slot) with
      | some t => t.backend
      | none => w.store slot }

/-! ## The system -/

/-- What can happen to the image, its rows and its targets. -/
inductive BackupEvent
  | write (block data : Nat)
  | backup (r : BackupRun)
  | failedBackup (snapName : SnapName)
  | sweep (slots : TargetSlots) (counts : RetentionCounts)
      (refuses : String → String → Bool)

def backupSystem (codec : Codec) (scope : ImageScope) :
    Runs.System World BackupEvent where
  step w
    | .write block data => some { w with image := w.image.write block data }
    | .backup r => runRbdBackup codec scope w r
    | .failedBackup snapName =>
      (w.image.snapCreate snapName.value).map fun im => { w with image := im }
    | .sweep slots counts refuses =>
      some (sweepWorld scope w slots counts refuses)

/-- No job has been recorded yet; the targets may hold anything. -/
def World.Fresh (w : World) : Prop := w.jobs = []

/-! ## What one run does -/

variable {codec : Codec} {j : BackupJob} {r : BackupRun} {scope : ImageScope} {slot : String}
    {w w' : World}

theorem runRbdBackup_cases (h : runRbdBackup codec scope w r = some w') :
    ∃ payload,
      w.now < r.claimedAt ∧ r.claimedAt ≤ r.committedAt ∧
      w.clock ≤ r.uploadedAt ∧
      w'.jobs = w.jobs ++ jobRows codec scope w r payload ∧
      w'.nextId = w.nextId + r.targets.slots.length ∧
      (∀ slot, w'.store slot =
        if slot ∈ r.targets.slots then
          (w.store slot).put (artifact scope w r payload)
        else w.store slot) ∧
      w'.now = r.committedAt ∧ w'.clock = r.uploadedAt ∧
      (∀ id, w'.taken id =
        if w.nextId ≤ id then w.image.content else w.taken id) ∧
      (isFull w.jobs scope r = true → payload = .full w.image.content) := by
  unfold runRbdBackup at h
  dsimp only at h
  by_cases hguard : r.targets.slots = [] ∨ ¬ (w.now < r.claimedAt ∧
      r.claimedAt ≤ r.committedAt ∧ w.clock ≤ r.uploadedAt)
  · rw [if_pos hguard] at h
    exact absurd h (by simp)
  rw [if_neg hguard] at h
  obtain ⟨_, htime⟩ := not_or.mp hguard
  obtain ⟨hclaim, hcommit, hclock⟩ := not_not.mp htime
  cases hsnap : w.image.snapCreate r.snapName.value with
  | none => simp [hsnap] at h
  | some im =>
    simp only [hsnap] at h
    cases hexp : exportCmd im (isFull w.jobs scope r)
        (previousFullJobs w.jobs scope r.targets.slots).head?
        r.snapName.value with
    | none => simp [hexp] at h
    | some payload =>
      simp only [hexp] at h
      by_cases haccept : (r.targets.slots.all fun slot =>
          (w.store slot).acceptsUpload (artifact scope w r payload).key) =
            true
      swap
      · rw [if_neg haccept] at h
        exact absurd h (by simp)
      rw [if_pos haccept, Option.some.injEq] at h
      subst h
      refine ⟨payload, hclaim, hcommit, hclock, rfl, rfl, fun _ => rfl,
        rfl, rfl, fun _ => rfl, ?_⟩
      intro hfull
      simp only [exportCmd, hfull, if_true, Image.exportSnap,
        snapshot?_snapCreate hsnap, Option.map_some,
        Option.some.injEq] at hexp
      exact hexp.symm

theorem mem_jobRows_iff (codec : Codec) (scope : ImageScope) (w : World)
    (r : BackupRun) (payload : Payload) (j : BackupJob) :
    j ∈ jobRows codec scope w r payload ↔
      ∃ slot i, r.targets.slots[i]? = some slot ∧
        j = jobRow codec scope w r payload slot i := by
  simp only [jobRows, List.mem_map, Prod.exists, List.mem_zipIdx_iff_getElem?]
  constructor
  · rintro ⟨slot, i, hi, rfl⟩
    exact ⟨slot, i, hi, rfl⟩
  · rintro ⟨slot, i, hi, rfl⟩
    exact ⟨slot, i, hi, rfl⟩

theorem BackupRun.slotIndex_unique (r : BackupRun) {i i' : Nat}
    (hi : r.targets.slots[i]? = some slot) (hi' : r.targets.slots[i']? = some slot) : i = i' := by
  obtain ⟨hlt, hget⟩ := List.getElem?_eq_some_iff.mp hi
  obtain ⟨hlt', hget'⟩ := List.getElem?_eq_some_iff.mp hi'
  exact (List.Nodup.getElem_inj_iff r.targets.nodup).mp
    (hget.trans hget'.symm)

theorem jobRows_ids (codec : Codec) (scope : ImageScope) (w : World)
    (r : BackupRun) (payload : Payload) :
    (jobRows codec scope w r payload).map (·.id) =
      (List.range r.targets.slots.length).map (w.nextId + ·) := by
  rw [jobRows, List.map_map]
  have hsnd : r.targets.slots.zipIdx.map Prod.snd =
      List.range r.targets.slots.length := by
    rw [List.zipIdx_map_snd, List.range_eq_range']
  rw [← hsnd, List.map_map]
  rfl

theorem latestFull_of_not_isFull {jobs : List BackupJob} (h : isFull jobs scope r = false)
    (hslot : slot ∈ r.targets.slots) :
    ∃ base, latestSuccessfulFullJob jobs scope slot = some base := by
  unfold isFull at h
  simp only [Bool.or_eq_false_iff] at h
  have hany := List.any_eq_false.mp h.1.1 slot hslot
  cases hbase : latestSuccessfulFullJob jobs scope slot with
  | none => simp [hbase] at hany
  | some base => exact ⟨base, rfl⟩

/-! ## Well formed job rows -/

/-- A row as a run writes it, at its slot, with its artifact's checksum. -/
structure RowRecorded (codec : Codec) (scope : ImageScope) (w : World)
    (j : BackupJob) : Prop where
  owned : scope.owns j = true
  success : j.status = .success
  idBelow : j.id < w.nextId
  past : j.createdAt ≤ w.now
  slot : ∃ slot, j.backupTargetSlot = some slot
  key : (j.jobType = .full ∨ j.jobType = .incremental) ∧
    ∃ snapName, j.remoteKey = some (remoteKeyOf j.jobType scope snapName)
  fullSum : j.jobType = .full →
    j.sizeBytes = some (codec.size (.full (w.taken j.id))) ∧
      j.sha256 = some (codec.sha256 (.full (w.taken j.id)))
  base : j.jobType = .incremental →
    ∃ base ∈ w.jobs, j.baseJobId = some base.id ∧ base.jobType = .full ∧
      base.backupTargetSlot = j.backupTargetSlot ∧
      base.createdAt < j.createdAt
  fullNoBase : j.jobType = .full → j.baseJobId = none

/-- The rows of the image: recorded by runs, told apart by their identifiers,
and within a slot by their creation times. -/
structure WellFormed (codec : Codec) (scope : ImageScope) (w : World) :
    Prop where
  idsNodup : (w.jobs.map (·.id)).Nodup
  recorded : ∀ j ∈ w.jobs, RowRecorded codec scope w j
  timesDiffer : ∀ j ∈ w.jobs, ∀ j' ∈ w.jobs,
    j.backupTargetSlot = j'.backupTargetSlot → j.createdAt = j'.createdAt →
      j = j'

/-- What the invariant reads of a state. -/
theorem WellFormed.congr (h : WellFormed codec scope w) (hjobs : w'.jobs = w.jobs)
    (hnext : w'.nextId = w.nextId) (hnow : w'.now = w.now) (htaken : w'.taken = w.taken) :
    WellFormed codec scope w' where
  idsNodup := hjobs ▸ h.idsNodup
  recorded := by
    intro j hj
    rw [hjobs] at hj
    have hr := h.recorded j hj
    exact
      { owned := hr.owned
        success := hr.success
        idBelow := hnext ▸ hr.idBelow
        past := hnow ▸ hr.past
        slot := hr.slot
        key := hr.key
        fullSum := by rw [htaken]; exact hr.fullSum
        base := by rw [hjobs]; exact hr.base
        fullNoBase := hr.fullNoBase }
  timesDiffer := hjobs ▸ h.timesDiffer

private theorem rowRecorded_of_old (hrun : runRbdBackup codec scope w r = some w')
    (h : RowRecorded codec scope w j) : RowRecorded codec scope w' j := by
  obtain ⟨payload, hclaim, hcommit, _, hjobs, hnext, _, hnow, _, htaken, _⟩ :=
    runRbdBackup_cases hrun
  have hid := h.idBelow
  have hpast := h.past
  have hsame : w'.taken j.id = w.taken j.id := by
    rw [htaken, if_neg (not_le.mpr hid)]
  exact
    { owned := h.owned
      success := h.success
      idBelow := by omega
      past := by omega
      slot := h.slot
      key := h.key
      fullSum := by rw [hsame]; exact h.fullSum
      base := by
        intro hinc
        obtain ⟨base, hbase, hrest⟩ := h.base hinc
        exact ⟨base, hjobs ▸ List.mem_append_left _ hbase, hrest⟩
      fullNoBase := h.fullNoBase }

private theorem rowRecorded_of_new (hw : WellFormed codec scope w)
    (hrun : runRbdBackup codec scope w r = some w') {payload : Payload}
    (hfullPayload : isFull w.jobs scope r = true → payload = .full w.image.content)
    (hjobs : w'.jobs = w.jobs ++ jobRows codec scope w r payload) {i : Nat}
    (hi : r.targets.slots[i]? = some slot) :
    RowRecorded codec scope w' (jobRow codec scope w r payload slot i) := by
  obtain ⟨_, hclaim, hcommit, _, _, hnext, _, hnow, _, htaken, _⟩ :=
    runRbdBackup_cases hrun
  obtain ⟨hlt, hget⟩ := List.getElem?_eq_some_iff.mp hi
  have hslot : slot ∈ r.targets.slots := hget ▸ List.getElem_mem hlt
  have hnew : w'.taken (w.nextId + i) = w.image.content := by
    rw [htaken, if_pos (by omega)]
  cases hfull : isFull w.jobs scope r with
  | true =>
    refine
      { owned := by simp [jobRow, ImageScope.owns]
        success := rfl
        idBelow := by simp only [jobRow]; omega
        past := by simp only [jobRow]; split <;> omega
        slot := ⟨slot, rfl⟩
        key := by simp [jobRow, hfull]
        fullSum := ?_
        base := by simp [jobRow, hfull]
        fullNoBase := by simp [jobRow, hfull] }
    intro _
    simp only [jobRow, hnew]
    rw [hfullPayload hfull]
    exact ⟨rfl, rfl⟩
  | false =>
    refine
      { owned := by simp [jobRow, ImageScope.owns]
        success := rfl
        idBelow := by simp only [jobRow]; omega
        past := by simp only [jobRow]; split <;> omega
        slot := ⟨slot, rfl⟩
        key := by simp [jobRow, hfull]
        fullSum := by simp [jobRow, hfull]
        base := ?_
        fullNoBase := by simp [jobRow, hfull] }
    intro _
    obtain ⟨base, hbase⟩ := latestFull_of_not_isFull hfull hslot
    obtain ⟨hmem, hsucc, hbaseSlot, _⟩ := latestSuccessfulFullJob_spec hbase
    have hbaseFull := ((scope.succeeded_iff _ _).mp hsucc).2.1
    have hpast := (hw.recorded base hmem).past
    refine ⟨base, hjobs ▸ List.mem_append_left _ hmem, ?_, hbaseFull,
      hbaseSlot, ?_⟩
    · simp [jobRow, hfull, hbase]
    · simp only [jobRow]
      split <;> omega

theorem wellFormed_runRbdBackup (hw : WellFormed codec scope w)
    (hrun : runRbdBackup codec scope w r = some w') : WellFormed codec scope w' := by
  obtain ⟨payload, hclaim, hcommit, _, hjobs, hnext, _, hnow, _, htaken,
    hpayload⟩ := runRbdBackup_cases hrun
  refine ⟨?_, ?_, ?_⟩
  · rw [hjobs, List.map_append, jobRows_ids]
    refine List.Nodup.append hw.idsNodup ?_ ?_
    · exact List.nodup_range.map (fun a b h => by simpa using h)
    · intro id hold hnew
      obtain ⟨j, hj, rfl⟩ := List.mem_map.mp hold
      obtain ⟨i, _, hi⟩ := List.mem_map.mp hnew
      have := (hw.recorded j hj).idBelow
      omega
  · intro j hj
    rw [hjobs] at hj
    rcases List.mem_append.mp hj with hj | hj
    · exact rowRecorded_of_old hrun (hw.recorded j hj)
    · obtain ⟨slot, i, hi, rfl⟩ := (mem_jobRows_iff _ _ _ _ _ _).mp hj
      exact rowRecorded_of_new hw hrun hpayload hjobs hi
  · have hlate : ∀ j ∈ w.jobs, ∀ slot i,
        j.createdAt ≠ (jobRow codec scope w r payload slot i).createdAt := by
      intro j hj slot i heq
      have hpast := (hw.recorded j hj).past
      simp only [jobRow] at heq
      split at heq <;> omega
    intro j hj j' hj' hslots htimes
    rw [hjobs] at hj hj'
    rcases List.mem_append.mp hj with hj | hj <;>
      rcases List.mem_append.mp hj' with hj' | hj'
    · exact hw.timesDiffer j hj j' hj' hslots htimes
    · obtain ⟨slot, i, _, rfl⟩ := (mem_jobRows_iff _ _ _ _ _ _).mp hj'
      exact absurd htimes (hlate j hj slot i)
    · obtain ⟨slot, i, _, rfl⟩ := (mem_jobRows_iff _ _ _ _ _ _).mp hj
      exact absurd htimes.symm (hlate j' hj' slot i)
    · obtain ⟨slot, i, hi, rfl⟩ := (mem_jobRows_iff _ _ _ _ _ _).mp hj
      obtain ⟨slot', i', hi', rfl⟩ := (mem_jobRows_iff _ _ _ _ _ _).mp hj'
      simp only [jobRow, Option.some.injEq] at hslots
      subst hslots
      rw [r.slotIndex_unique hi hi']

/-- **The job rows are well formed in every run.** -/
theorem wellFormed_run (hfresh : w.Fresh) (events : List BackupEvent)
    (hrun : (backupSystem codec scope).run w events = some w') : WellFormed codec scope w' := by
  refine (backupSystem codec scope).run_invariant (WellFormed codec scope) ?_
    events w w' ?_ hrun
  · intro s a s' hs hstep
    cases a with
    | write | sweep =>
      simp only [backupSystem, Option.some.injEq] at hstep
      subst hstep
      exact hs.congr rfl rfl rfl rfl
    | backup r => exact wellFormed_runRbdBackup hs hstep
    | failedBackup snapName =>
      simp only [backupSystem, Option.map_eq_some_iff] at hstep
      obtain ⟨im, _, rfl⟩ := hstep
      exact hs.congr rfl rfl rfl rfl
  · have hnil : w.jobs = [] := hfresh
    exact
      { idsNodup := by simp [hnil]
        recorded := by simp [hnil]
        timesDiffer := by simp [hnil] }

/-! ## The chain of a well formed row -/

section

variable (hw : WellFormed codec scope w)
include hw

section

variable (hj : j ∈ w.jobs)
include hj

theorem WellFormed.succeeded : scope.succeeded j.jobType j = true := by
  have hr := hw.recorded j hj
  exact (scope.succeeded_iff _ _).mpr ⟨hr.owned, rfl, hr.success⟩

theorem WellFormed.backupChain_full (hfull : j.jobType = .full) :
    backupChain w.jobs scope (some j.id) = some (j, []) := by
  have hsucc := hw.succeeded hj
  rw [hfull] at hsucc
  rw [backupChain_spec _ _ _ _ _ (getJob_of_mem hw.idsNodup hj)]
  refine ⟨Or.inl hsucc, by simp [hfull], hsucc, rfl, ?_⟩
  symm
  rw [List.eq_nil_iff_forall_not_mem]
  intro d hd
  obtain ⟨hd, hbase, _, hinc, _, _, hlimit⟩ := (mem_chainDiffs_iff _ _ _ _ _).mp hd
  obtain ⟨base, hbaseMem, hid, _, _, hbefore⟩ := (hw.recorded d hd).base hinc
  have hsame : base = j := by
    rw [hbase, Option.some.injEq] at hid
    exact List.inj_on_of_nodup_map hw.idsNodup hbaseMem hj hid.symm
  rw [hsame] at hbefore
  omega

theorem WellFormed.backupChain_incremental (hinc : j.jobType = .incremental) :
    ∃ base ∈ w.jobs, j.baseJobId = some base.id ∧ base.jobType = .full ∧
      base.backupTargetSlot = j.backupTargetSlot ∧
      backupChain w.jobs scope (some j.id) = some (base,
        chainDiffs w.jobs scope.clusterId base (some j.createdAt)) := by
  have hsucc := hw.succeeded hj
  rw [hinc] at hsucc
  obtain ⟨base, hbase, hid, hfull, hslot, _⟩ := (hw.recorded j hj).base hinc
  have hbaseSucc := hw.succeeded hbase
  rw [hfull] at hbaseSucc
  refine ⟨base, hbase, hid, hfull, hslot, ?_⟩
  rw [backupChain_spec _ _ _ _ _ (getJob_of_mem hw.idsNodup hj)]
  refine ⟨Or.inr hsucc, ?_, hbaseSucc, hslot.symm, rfl⟩
  rw [if_pos hinc, hid, Option.bind_some, getJob_of_mem hw.idsNodup hbase]

theorem WellFormed.mem_chainDiffs_self {base : BackupJob} (hinc : j.jobType = .incremental)
    (hid : j.baseJobId = some base.id) (hslot : base.backupTargetSlot = j.backupTargetSlot) :
    j ∈ chainDiffs w.jobs scope.clusterId base (some j.createdAt) := by
  have hr := hw.recorded j hj
  have howned := hr.owned
  simp only [ImageScope.owns, Bool.and_eq_true, beq_iff_eq] at howned
  rw [mem_chainDiffs_iff]
  exact ⟨hj, hid, howned.2, hinc, hr.success, hslot.symm, le_refl _⟩

end

end

end CephAi.Ports.BackupEngine
