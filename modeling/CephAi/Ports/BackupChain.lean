import CephAi.Ports.BackupEngine

/-!
# Restore chains under retention

`_backup_chain` selects the artifacts of a recovery point from the job rows;
retention deletes stored objects by age and never touches the rows.  The full
export of a chain is protected, its incrementals are not: once the oldest of
them is past the keep count the later ones select an artifact that is gone.

## Main results

* `chainsIntact_run` — the chains stay intact in every run whose sweeps cut
  whole chains of incrementals and leave each slot's latest full alone.
* `retention_breaks_chain` — a run in which a stored incremental loses the one
  below it.
-/

namespace CephAi.Ports.BackupEngine

open Verified
open BackupStorage BackupJobs
open BackupRetention

/-! ## Stored artifacts and restorable jobs -/

/-- The object stored at `slot` under the key of `j`. -/
def World.objectAt (w : World) (slot : Option String) (j : BackupJob) :
    Option (StoredObject Payload) :=
  match slot, j.remoteKey with
  | some slot, some key => (w.store slot).find? key
  | _, _ => none

def World.artifactStored (w : World) (j : BackupJob) : Bool :=
  (w.objectAt j.backupTargetSlot j).isSome

/-- Everything `_backup_chain` selects for `j` is stored on the target of
`j`. -/
def World.restorable (w : World) (scope : ImageScope) (j : BackupJob) : Bool :=
  match backupChain w.jobs scope (some j.id) with
  | none => false
  | some (full, diffs) =>
    (full :: diffs).all (fun m => (w.objectAt j.backupTargetSlot m).isSome)

/-- Every successful job whose artifact is stored is restorable. -/
def ChainsIntact (scope : ImageScope) (w : World) : Prop :=
  ∀ j ∈ w.jobs,
    scope.succeeded .full j = true ∨ scope.succeeded .incremental j = true →
      w.artifactStored j = true → w.restorable scope j = true

/-! ## The condition -/

/-- The keep count of the pass over one kind of artifact. -/
def keepCountOf (counts : RetentionCounts) (jobType : JobType) : Nat :=
  if jobType = .full then counts.keepFullCount else counts.keepIncrementalCount

/-- The artifact of `j` is past the keep count of the pass over its kind. -/
def World.PastKeep (w : World) (scope : ImageScope) (counts : RetentionCounts)
    (slot : String) (j : BackupJob) : Prop :=
  ∃ o ∈ candidates scope (protectedKeys w.jobs scope) j.jobType
      (w.store slot),
    some o.key = j.remoteKey ∧
      keepCountOf counts j.jobType ≤
        outlivedBy (candidates scope (protectedKeys w.jobs scope) j.jobType
          (w.store slot)) o

/-- The stored later incrementals of the full of `m` are past the keep count
as well. -/
def World.LaterPastKeep (w : World) (scope : ImageScope)
    (counts : RetentionCounts) (slot : String) (m : BackupJob) : Prop :=
  ∀ j ∈ w.jobs, j.jobType = .incremental → j.backupTargetSlot = some slot →
    j.baseJobId = m.baseJobId → m.createdAt ≤ j.createdAt →
      w.artifactStored j = true → w.PastKeep scope counts slot j

/-- A sweep leaves each slot's latest full within the keep count, takes no
incremental of that full, and takes an incremental of an older full only
together with the stored later ones of the same full. -/
def SweepsWholeChains (scope : ImageScope) (w : World) (slots : TargetSlots)
    (counts : RetentionCounts) : Prop :=
  ∀ slot ∈ slots.slots,
    ∀ full ∈ latestSuccessfulFullJob w.jobs scope slot,
      ¬ w.PastKeep scope counts slot full ∧
      ∀ m ∈ w.jobs, m.jobType = .incremental →
        m.backupTargetSlot = some slot → w.PastKeep scope counts slot m →
          m.baseJobId ≠ some full.id ∧ w.LaterPastKeep scope counts slot m

/-- A run does not share the second of its timestamps with an earlier
successful one. -/
def OwnSecond (w : World) (scope : ImageScope) (r : BackupRun) : Prop :=
  w.clock < r.uploadedAt ∧
    ∀ j ∈ w.jobs, ∀ jobType ∈ [JobType.full, JobType.incremental],
      j.remoteKey ≠ some (remoteKeyOf jobType scope r.snapName)

/-- The condition on the steps of a run. -/
def KeepsChains (scope : ImageScope) (w : World) : BackupEvent → Prop
  | .write _ _ => True
  | .backup r => OwnSecond w scope r
  | .failedBackup _ => True
  | .sweep slots counts _ => SweepsWholeChains scope w slots counts

instance (w : World) (scope : ImageScope) (counts : RetentionCounts)
    (slot : String) : DecidablePred (w.PastKeep scope counts slot) :=
  fun _ => inferInstanceAs (Decidable (∃ o ∈ _, _ ∧ _))

instance (w : World) (scope : ImageScope) (counts : RetentionCounts)
    (slot : String) : DecidablePred (w.LaterPastKeep scope counts slot) :=
  fun m => inferInstanceAs (Decidable (∀ j ∈ w.jobs,
    j.jobType = .incremental → j.backupTargetSlot = some slot →
      j.baseJobId = m.baseJobId → m.createdAt ≤ j.createdAt →
        w.artifactStored j = true → w.PastKeep scope counts slot j))

instance (scope : ImageScope) (w : World) (slots : TargetSlots)
    (counts : RetentionCounts) :
    Decidable (SweepsWholeChains scope w slots counts) :=
  inferInstanceAs (Decidable (∀ slot ∈ slots.slots,
    ∀ full ∈ latestSuccessfulFullJob w.jobs scope slot,
      ¬ w.PastKeep scope counts slot full ∧
      ∀ m ∈ w.jobs, m.jobType = .incremental →
        m.backupTargetSlot = some slot → w.PastKeep scope counts slot m →
          m.baseJobId ≠ some full.id ∧ w.LaterPastKeep scope counts slot m))

instance (w : World) (scope : ImageScope) (r : BackupRun) :
    Decidable (OwnSecond w scope r) :=
  inferInstanceAs (Decidable (_ ∧ _))

instance (scope : ImageScope) (w : World) (e : BackupEvent) :
    Decidable (KeepsChains scope w e) :=
  match e with
  | .write _ _ => inferInstanceAs (Decidable True)
  | .backup r => inferInstanceAs (Decidable (OwnSecond w scope r))
  | .failedBackup _ => inferInstanceAs (Decidable True)
  | .sweep slots counts _ =>
    inferInstanceAs (Decidable (SweepsWholeChains scope w slots counts))

/-! ## What a sweep does to one slot -/

def sweepDeletes (scope : ImageScope) (w : World) (counts : RetentionCounts)
    (refuses : String → String → Bool) (slot : String) : List String :=
  let kept := protectedKeys w.jobs scope
  let full := sweepPass refuses scope kept .full counts.keepFullCount
    { slot := slot, backend := w.store slot }
  full.2 ++ (sweepPass refuses scope kept .incremental
    counts.keepIncrementalCount full.1).2

private theorem find?_map_slot (f : String → Target Payload)
    (hf : ∀ slot, (f slot).slot = slot) (slot : String) :
    ∀ slots : List String,
      (slots.map f).find? (fun t => t.slot == slot) =
        if slot ∈ slots then some (f slot) else none := by
  intro slots
  induction slots with
  | nil => simp
  | cons a slots ih =>
    by_cases h : a = slot
    · subst h
      simp [hf]
    · have h' : slot ≠ a := fun h' => h h'.symm
      simp [hf, h, h', ih]

theorem find?_sweepWorld (scope : ImageScope) (w : World) (slots : TargetSlots)
    (counts : RetentionCounts) (refuses : String → String → Bool) (slot key : String) :
    ((sweepWorld scope w slots counts refuses).store slot).find? key =
      if slot ∈ slots.slots ∧
          key ∈ sweepDeletes scope w counts refuses slot then none
      else (w.store slot).find? key := by
  unfold sweepWorld sweepRetentionAfterSuccess World.targets
  dsimp only
  simp only [List.map_map]
  rw [find?_map_slot _ (fun slot => rfl)]
  by_cases hslot : slot ∈ slots.slots
  · simp only [hslot, if_true, true_and, Function.comp]
    have hfind := find?_applyRetention
      (w.store slot) (refuses slot)
      (retentionPrefix .full scope.pool scope.image)
      (retentionPolicy .full counts.keepFullCount
        (protectedKeys w.jobs scope)) key
    rw [sweepPass, find?_applyRetention, sweepPass, hfind]
    unfold sweepDeletes sweepPass
    simp only [List.mem_append]
    split_ifs <;> simp_all
  · simp [hslot]

theorem startsWith_remoteKeyOf (jobType : JobType) (scope : ImageScope) (snapName : SnapName) :
    startsWith (remoteKeyOf jobType scope snapName)
      (retentionPrefix jobType scope.pool scope.image) = true := by
  rw [startsWith_iff, remoteKeyOf, String.toList_append, String.toList_append,
    List.append_assoc]
  exact List.prefix_append _ _

theorem mem_sweepDeletes_iff (scope : ImageScope) (w : World) (counts : RetentionCounts)
    (refuses : String → String → Bool) (slot : String) (jobType : JobType)
    (hjobType : jobType = .full ∨ jobType = .incremental) (snapName : SnapName) :
    remoteKeyOf jobType scope snapName ∈
        sweepDeletes scope w counts refuses slot ↔
      ∃ o ∈ candidates scope (protectedKeys w.jobs scope) jobType
          (w.store slot), o.key = remoteKeyOf jobType scope snapName ∧
        ¬ Spared ((w.store slot).declines (refuses slot))
          (keepCountOf counts jobType)
          (candidates scope (protectedKeys w.jobs scope) jobType
            (w.store slot)) o := by
  have hown := startsWith_remoteKeyOf jobType scope snapName
  unfold sweepDeletes
  simp only [List.mem_append]
  rcases hjobType with rfl | rfl
  · rw [mem_sweepPass_iff _ _ _ _ (Or.inl rfl)]
    refine or_iff_left ?_
    intro hmem
    obtain ⟨_, hincr, _⟩ := sweepPass_listed hmem
    rw [startsWith_full_incremental _ _ _ hown] at hincr
    exact absurd hincr (by decide)
  · rw [mem_incrementalPass_iff]
    refine or_iff_right ?_
    intro hmem
    obtain ⟨_, hfull, _⟩ := sweepPass_listed hmem
    rw [startsWith_full_incremental _ _ _ hfull] at hown
    exact absurd hown (by decide)

variable {codec : Codec} {counts : RetentionCounts} {j : BackupJob} {payload : Payload}
    {r : BackupRun} {refuses : String → String → Bool} {scope : ImageScope} {slot : String}
    {slots : TargetSlots} {snapName : SnapName} {w w' : World}

theorem not_mem_sweepDeletes_of_protected {key : String} (hkey : key ∈ protectedKeys w.jobs scope) :
    key ∉ sweepDeletes scope w counts refuses slot := by
  intro hmem
  unfold sweepDeletes at hmem
  rcases List.mem_append.mp hmem with hmem | hmem
  · exact (sweepPass_listed hmem).2.2 hkey
  · exact (sweepPass_listed hmem).2.2 hkey

theorem find?_of_mem_candidates {kept : List String} {jobType : JobType} {b : Backend Payload}
    {o : BackupObjectInfo} (ho : o ∈ candidates scope kept jobType b) :
    ∃ x, b.find? o.key = some x ∧ x.createdAt = o.createdAt := by
  unfold candidates at ho
  have hmem := List.mem_of_mem_filter ho
  cases hlist : b.list (retentionPrefix jobType scope.pool scope.image) with
  | none => rw [hlist] at hmem; simp at hmem
  | some listed =>
    rw [hlist] at hmem
    obtain ⟨x, hx, hinfo⟩ := Backend.stored_of_mem_list hlist hmem
    subst hinfo
    exact ⟨x, (b.find?_eq_some_iff x).mpr hx, rfl⟩

theorem mem_sweepDeletes_of_newer {jobType : JobType}
    (hjobType : jobType = .full ∨ jobType = .incremental) {older newer : SnapName}
    (hdeleted : remoteKeyOf jobType scope older ∈ sweepDeletes scope w counts refuses slot)
    {x y : StoredObject Payload}
    (hx : (w.store slot).find? (remoteKeyOf jobType scope older) = some x)
    (hy : (w.store slot).find? (remoteKeyOf jobType scope newer) = some y)
    (hage : x.createdAt < y.createdAt) {o : BackupObjectInfo}
    (ho : o ∈ candidates scope (protectedKeys w.jobs scope) jobType (w.store slot))
    (hkey : o.key = remoteKeyOf jobType scope newer)
    (hpast : keepCountOf counts jobType ≤
      outlivedBy (candidates scope (protectedKeys w.jobs scope) jobType
        (w.store slot)) o) :
    remoteKeyOf jobType scope newer ∈
      sweepDeletes scope w counts refuses slot := by
  obtain ⟨a, ha, hakey, hnot⟩ :=
    (mem_sweepDeletes_iff _ _ _ _ _ _ hjobType _).mp hdeleted
  obtain ⟨a', ha', hatime⟩ := find?_of_mem_candidates ha
  obtain ⟨o', ho', hotime⟩ := find?_of_mem_candidates ho
  rw [hakey, hx, Option.some.injEq] at ha'
  rw [hkey, hy, Option.some.injEq] at ho'
  have hnewer : a.createdAt < o.createdAt := by
    rw [← hatime, ← hotime, ← ha', ← ho']
    exact hage
  have hstand := Retention.standing_le_of_newer (·.createdAt)
    (candidates scope (protectedKeys w.jobs scope) jobType (w.store slot))
    hnewer
  refine (mem_sweepDeletes_iff _ _ _ _ _ _ hjobType _).mpr ⟨o, ho, hkey, ?_⟩
  rintro (hlt | ⟨b, hb, hkeep, hle, hdec⟩)
  · omega
  · exact hnot (Or.inr ⟨b, hb, hkeep, le_trans hle hstand, hdec⟩)

/-! ## The invariant -/

/-- What retention and the restore chain agree on: the rows of a slot have
their own keys, their objects age in row order, and everything an incremental
taken next would select is stored. -/
structure Chained (scope : ImageScope) (w : World) : Prop where
  keysDiffer : ∀ j ∈ w.jobs, ∀ j' ∈ w.jobs,
    j.backupTargetSlot = j'.backupTargetSlot → j.remoteKey = j'.remoteKey →
      j = j'
  aged : ∀ j ∈ w.jobs, ∀ o, w.objectAt j.backupTargetSlot j = some o →
    o.createdAt ≤ w.clock
  ordered : ∀ m ∈ w.jobs, ∀ j ∈ w.jobs,
    m.backupTargetSlot = j.backupTargetSlot → m.createdAt < j.createdAt →
      ∀ x y, w.objectAt m.backupTargetSlot m = some x →
        w.objectAt j.backupTargetSlot j = some y → x.createdAt < y.createdAt
  latest : ∀ slot full,
    latestSuccessfulFullJob w.jobs scope slot = some full →
      w.artifactStored full = true ∧
      ∀ m ∈ w.jobs, m.jobType = .incremental →
        m.backupTargetSlot = some slot → m.baseJobId = some full.id →
          w.artifactStored m = true
  intact : ChainsIntact scope w

/-- What the invariant reads of a state. -/
theorem Chained.congr (h : Chained scope w) (hjobs : w'.jobs = w.jobs) (hstore : w'.store = w.store)
    (hclock : w'.clock = w.clock) : Chained scope w' := by
  have hobject : w'.objectAt = w.objectAt := by
    funext slot j
    simp only [World.objectAt, hstore]
  have hstored : w'.artifactStored = w.artifactStored := by
    funext j
    simp only [World.artifactStored, hobject]
  have hrestorable : w'.restorable scope = w.restorable scope := by
    funext j
    simp only [World.restorable, hobject, hjobs]
  refine ⟨?_, ?_, ?_, ?_, ?_⟩
  · rw [hjobs]; exact h.keysDiffer
  · rw [hjobs, hobject, hclock]; exact h.aged
  · rw [hjobs, hobject]; exact h.ordered
  · rw [hjobs, hstored]; exact h.latest
  · unfold ChainsIntact
    rw [hjobs, hstored, hrestorable]
    exact h.intact

theorem restorable_full (hw : WellFormed codec scope w) (hj : j ∈ w.jobs)
    (hfull : j.jobType = .full) : w.restorable scope j = w.artifactStored j := by
  simp [World.restorable, World.artifactStored, hw.backupChain_full hj hfull]

theorem restorable_incremental_iff (hw : WellFormed codec scope w) {base : BackupJob}
    (hj : j ∈ w.jobs) (hinc : j.jobType = .incremental) (hbase : base ∈ w.jobs)
    (hid : j.baseJobId = some base.id) :
    w.restorable scope j = true ↔
      w.artifactStored base = true ∧
      ∀ m ∈ w.jobs, m.jobType = .incremental →
        m.backupTargetSlot = j.backupTargetSlot →
        m.baseJobId = some base.id → m.createdAt ≤ j.createdAt →
          w.artifactStored m = true := by
  obtain ⟨base', hbase', hid', _, hslot, hchain⟩ :=
    hw.backupChain_incremental hj hinc
  have hsame : base' = base := by
    rw [hid, Option.some.injEq] at hid'
    exact List.inj_on_of_nodup_map hw.idsNodup hbase' hbase hid'.symm
  subst hsame
  have howned : ∀ m ∈ w.jobs, m.clusterId = scope.clusterId := by
    intro m hm
    have := (hw.recorded m hm).owned
    simp only [ImageScope.owns, Bool.and_eq_true, beq_iff_eq] at this
    exact this.2
  simp only [World.restorable, hchain, List.all_cons, Bool.and_eq_true,
    List.all_eq_true, World.artifactStored]
  rw [hslot]
  refine and_congr_right (fun _ => ?_)
  constructor
  · intro h m hm hminc hmslot hmbase hle
    rw [hmslot]
    refine h m ((mem_chainDiffs_iff _ _ _ _ _).mpr ?_)
    exact ⟨hm, hmbase, howned m hm, hminc, (hw.recorded m hm).success,
      hmslot.trans hslot.symm, hle⟩
  · intro h m hm
    obtain ⟨hm, hmbase, _, hminc, _, hmslot, hle⟩ :=
      (mem_chainDiffs_iff _ _ _ _ _).mp hm
    have := h m hm hminc (hmslot.trans hslot) hmbase hle
    rwa [hmslot.trans hslot] at this

/-! ## Sweep step -/

theorem objectAt_sweepWorld (scope : ImageScope) (w : World) (slots : TargetSlots)
    (counts : RetentionCounts) (refuses : String → String → Bool) (slot key : String)
    (j : BackupJob) (hkey : j.remoteKey = some key) :
    (sweepWorld scope w slots counts refuses).objectAt (some slot) j =
      if slot ∈ slots.slots ∧
          key ∈ sweepDeletes scope w counts refuses slot then none
      else w.objectAt (some slot) j := by
  simp only [World.objectAt, hkey]
  exact find?_sweepWorld scope w slots counts refuses slot key

theorem RowRecorded.slot_key (h : RowRecorded codec scope w j) :
    ∃ slot snapName, j.backupTargetSlot = some slot ∧
      j.remoteKey = some (remoteKeyOf j.jobType scope snapName) := by
  obtain ⟨slot, hslot⟩ := h.slot
  obtain ⟨snapName, hkey⟩ := h.key.2
  exact ⟨slot, snapName, hslot, hkey⟩

theorem objectAt_of_sweepWorld (hr : RowRecorded codec scope w j) {o : StoredObject Payload}
    (h : (sweepWorld scope w slots counts refuses).objectAt j.backupTargetSlot j = some o) :
    w.objectAt j.backupTargetSlot j = some o := by
  obtain ⟨slot, snapName, hslot, hkey⟩ := hr.slot_key
  rw [hslot, objectAt_sweepWorld _ _ _ _ _ _ _ _ hkey] at h
  rw [hslot]
  by_cases hdel : slot ∈ slots.slots ∧
      remoteKeyOf j.jobType scope snapName ∈
        sweepDeletes scope w counts refuses slot
  · rw [if_pos hdel] at h; simp at h
  · rwa [if_neg hdel] at h

theorem artifactStored_sweepWorld (slots : TargetSlots) (counts : RetentionCounts)
    (refuses : String → String → Bool) (hslot : j.backupTargetSlot = some slot)
    (hkey : j.remoteKey = some (remoteKeyOf j.jobType scope snapName))
    (hstored : w.artifactStored j = true) :
    (sweepWorld scope w slots counts refuses).artifactStored j = true ∨
      slot ∈ slots.slots ∧
        remoteKeyOf j.jobType scope snapName ∈
          sweepDeletes scope w counts refuses slot := by
  by_cases hdel : slot ∈ slots.slots ∧
      remoteKeyOf j.jobType scope snapName ∈
        sweepDeletes scope w counts refuses slot
  · exact Or.inr hdel
  · left
    unfold World.artifactStored at hstored ⊢
    rw [hslot] at hstored ⊢
    rw [objectAt_sweepWorld _ _ _ _ _ _ _ _ hkey, if_neg hdel]
    exact hstored

theorem pastKeep_of_mem_sweepDeletes (hr : RowRecorded codec scope w j)
    (hkey : j.remoteKey = some (remoteKeyOf j.jobType scope snapName))
    (hdel : remoteKeyOf j.jobType scope snapName ∈ sweepDeletes scope w counts refuses slot) :
    w.PastKeep scope counts slot j := by
  obtain ⟨o, ho, hokey, hnot⟩ :=
    (mem_sweepDeletes_iff _ _ _ _ _ _ hr.key.1 _).mp hdel
  refine ⟨o, ho, by rw [hokey, hkey], ?_⟩
  exact not_lt.mp (fun hlt => hnot (Or.inl hlt))

theorem base_not_mem_sweepDeletes (hw : WellFormed codec scope w) {base : BackupJob}
    (hj : j ∈ w.jobs) (hinc : j.jobType = .incremental) (hbase : base ∈ w.jobs)
    (hid : j.baseJobId = some base.id)
    (hkey : base.remoteKey = some (remoteKeyOf base.jobType scope snapName)) :
    remoteKeyOf base.jobType scope snapName ∉
      sweepDeletes scope w counts refuses slot := by
  have hsucc := hw.succeeded hj
  rw [hinc] at hsucc
  refine not_mem_sweepDeletes_of_protected ?_
  rw [mem_protectedKeys_iff]
  refine ⟨j, hj, hsucc, base.id, base, hid, getJob_of_mem hw.idsNodup hbase,
    hkey, ?_⟩
  intro hempty
  have hlist := congrArg String.toList hempty
  simp [remoteKeyOf, String.toList_append] at hlist

theorem not_artifactStored_of_deleted {key : String} (hslot : j.backupTargetSlot = some slot)
    (hkey : j.remoteKey = some key) (hmem : slot ∈ slots.slots)
    (hdel : key ∈ sweepDeletes scope w counts refuses slot) :
    (sweepWorld scope w slots counts refuses).artifactStored j = false := by
  unfold World.artifactStored
  rw [hslot, objectAt_sweepWorld _ _ _ _ _ _ _ _ hkey, if_pos ⟨hmem, hdel⟩]
  rfl

section

variable (hw : WellFormed codec scope w)
include hw

theorem artifactStored_of_sweepWorld (hj : j ∈ w.jobs)
    (hstored : (sweepWorld scope w slots counts refuses).artifactStored j = true) :
    w.artifactStored j = true := by
  unfold World.artifactStored at hstored ⊢
  obtain ⟨o, ho⟩ := Option.isSome_iff_exists.mp hstored
  rw [objectAt_of_sweepWorld (hw.recorded j hj) ho]
  rfl

section

variable (hc : Chained scope w)
include hc

theorem latest_sweepWorld (slots : TargetSlots) (counts : RetentionCounts)
    (refuses : String → String → Bool) (hcut : SweepsWholeChains scope w slots counts)
    {full : BackupJob} (hfull : latestSuccessfulFullJob w.jobs scope slot = some full) :
    (sweepWorld scope w slots counts refuses).artifactStored full = true ∧
      ∀ m ∈ w.jobs, m.jobType = .incremental → m.backupTargetSlot = some slot →
        m.baseJobId = some full.id →
          (sweepWorld scope w slots counts refuses).artifactStored m = true := by
  obtain ⟨hstored, hincs⟩ := hc.latest slot full hfull
  obtain ⟨hmem, _, hslot, _⟩ := latestSuccessfulFullJob_spec hfull
  have hr := hw.recorded full hmem
  constructor
  · obtain ⟨_, snapName, _, hkey⟩ := hr.slot_key
    rcases artifactStored_sweepWorld slots counts refuses hslot hkey hstored
      with hafter | ⟨hin, hdel⟩
    · exact hafter
    · exact absurd (pastKeep_of_mem_sweepDeletes hr hkey hdel)
        (hcut slot hin full hfull).1
  · intro m hm hinc hmslot hid
    have hmr := hw.recorded m hm
    obtain ⟨_, snapName, _, hkey⟩ := hmr.slot_key
    rcases artifactStored_sweepWorld slots counts refuses hmslot hkey
      (hincs m hm hinc hmslot hid) with hafter | ⟨hin, hdel⟩
    · exact hafter
    · have hpast := pastKeep_of_mem_sweepDeletes hmr hkey hdel
      exact absurd hid
        ((hcut slot hin full hfull).2 m hm hinc hmslot hpast).1

theorem mem_sweepDeletes_of_chain (hcut : SweepsWholeChains scope w slots counts)
    (hin : slot ∈ slots.slots) {m : BackupJob} {msnap jsnap : SnapName} (hm : m ∈ w.jobs)
    (hminc : m.jobType = .incremental) (hmslot : m.backupTargetSlot = some slot)
    (hmkey : m.remoteKey = some (remoteKeyOf m.jobType scope msnap))
    (hmstored : w.artifactStored m = true) (hj : j ∈ w.jobs) (hinc : j.jobType = .incremental)
    (hslot : j.backupTargetSlot = some slot)
    (hjkey : j.remoteKey = some (remoteKeyOf j.jobType scope jsnap))
    (hjstored : w.artifactStored j = true) (hsame : j.baseJobId = m.baseJobId)
    (hle : m.createdAt ≤ j.createdAt)
    (hdel : remoteKeyOf m.jobType scope msnap ∈ sweepDeletes scope w counts refuses slot) :
    remoteKeyOf j.jobType scope jsnap ∈ sweepDeletes scope w counts refuses slot := by
  rcases Nat.lt_or_ge m.createdAt j.createdAt with hlt | hge
  · obtain ⟨base, hbase, hid, hbaseFull, hbaseSlot, _⟩ := (hw.recorded j hj).base hinc
    have hbaseSucc := hw.succeeded hbase
    rw [hbaseFull] at hbaseSucc
    obtain ⟨full, hfull⟩ := Option.isSome_iff_exists.mp
      (latestSuccessfulFullJob_isSome hbase hbaseSucc (hbaseSlot.trans hslot))
    have hmpast := pastKeep_of_mem_sweepDeletes (hw.recorded m hm) hmkey hdel
    obtain ⟨o, ho, hokey, hkeep⟩ :=
      ((hcut slot hin full hfull).2 m hm hminc hmslot hmpast).2 j hj hinc hslot
        hsame hle hjstored
    obtain ⟨x, hx⟩ := Option.isSome_iff_exists.mp hmstored
    obtain ⟨y, hy⟩ := Option.isSome_iff_exists.mp hjstored
    have hage := hc.ordered m hm j hj (hmslot.trans hslot.symm) hlt x y hx hy
    rw [hmslot] at hx
    rw [hslot] at hy
    simp only [World.objectAt, hmkey] at hx
    simp only [World.objectAt, hjkey] at hy
    rw [hjkey, Option.some.injEq] at hokey
    rw [hminc] at hdel hx
    rw [hinc] at hy ho hokey hkeep ⊢
    exact mem_sweepDeletes_of_newer (Or.inr rfl) hdel hx hy hage ho hokey hkeep
  · have heq := hw.timesDiffer m hm j hj (hmslot.trans hslot.symm) (by omega)
    subst heq
    rw [hmkey, Option.some.injEq] at hjkey
    rwa [← hjkey]

theorem intact_sweepWorld (slots : TargetSlots) (counts : RetentionCounts)
    (refuses : String → String → Bool) (hcut : SweepsWholeChains scope w slots counts) :
    ChainsIntact scope (sweepWorld scope w slots counts refuses) := by
  have hw' : WellFormed codec scope (sweepWorld scope w slots counts refuses) :=
    hw.congr rfl rfl rfl rfl
  intro j hj hsucc hstored
  have hr := hw.recorded j hj
  have hjstored := artifactStored_of_sweepWorld hw hj hstored
  rcases hr.key.1 with hfull | hinc
  · rw [restorable_full hw' hj hfull]
    exact hstored
  · obtain ⟨base, hbase, hid, _, hbaseSlot, _⟩ := hr.base hinc
    obtain ⟨slot, jsnap, hslot, hjkey⟩ := hr.slot_key
    obtain ⟨hbaseStored, hdiffs⟩ :=
      (restorable_incremental_iff hw hj hinc hbase hid).mp
        (hc.intact j hj hsucc hjstored)
    rw [restorable_incremental_iff hw' hj hinc hbase hid]
    constructor
    · obtain ⟨_, snapName, _, hkey⟩ := (hw.recorded base hbase).slot_key
      rcases artifactStored_sweepWorld slots counts refuses
        (hbaseSlot.trans hslot) hkey hbaseStored with hafter | ⟨_, hdel⟩
      · exact hafter
      · exact absurd hdel
          (base_not_mem_sweepDeletes hw hj hinc hbase hid hkey)
    · intro m hm hminc hmslot hmid hle
      obtain ⟨_, msnap, _, hmkey⟩ := (hw.recorded m hm).slot_key
      have hmstored := hdiffs m hm hminc hmslot hmid hle
      rcases artifactStored_sweepWorld slots counts refuses
        (hmslot.trans hslot) hmkey hmstored with hafter | ⟨hin, hdel⟩
      · exact hafter
      · have hjtaken := mem_sweepDeletes_of_chain hw hc hcut hin hm hminc
          (hmslot.trans hslot) hmkey hmstored hj hinc hslot hjkey hjstored
          (hid.trans hmid.symm) hle hdel
        rw [not_artifactStored_of_deleted hslot hjkey hin hjtaken] at hstored
        exact absurd hstored (by decide)

theorem chained_sweepWorld (slots : TargetSlots) (counts : RetentionCounts)
    (refuses : String → String → Bool) (hcut : SweepsWholeChains scope w slots counts) :
    Chained scope (sweepWorld scope w slots counts refuses) where
  keysDiffer := hc.keysDiffer
  aged := by
    intro j hj o ho
    exact hc.aged j hj o (objectAt_of_sweepWorld (hw.recorded j hj) ho)
  ordered := by
    intro m hm j hj hslots hlt x y hx hy
    exact hc.ordered m hm j hj hslots hlt x y
      (objectAt_of_sweepWorld (hw.recorded m hm) hx)
      (objectAt_of_sweepWorld (hw.recorded j hj) hy)
  latest := fun _ _ hfull => latest_sweepWorld hw hc slots counts refuses hcut hfull
  intact := intact_sweepWorld hw hc slots counts refuses hcut

end

end

/-! ## Backup step -/

theorem OwnSecond.key_ne (hown : OwnSecond w scope r) (payload : Payload) (hj : j ∈ w.jobs) :
    j.remoteKey ≠ some (artifact scope w r payload).key := by
  refine hown.2 j hj _ ?_
  split <;> simp

theorem objectAt_new
    (hstore : ∀ slot, w'.store slot =
      if slot ∈ r.targets.slots then
        (w.store slot).put (artifact scope w r payload)
      else w.store slot)
    (hslot : slot ∈ r.targets.slots) (i : Nat) :
    w'.objectAt (jobRow codec scope w r payload slot i).backupTargetSlot
        (jobRow codec scope w r payload slot i) =
      some (artifact scope w r payload) := by
  simp only [World.objectAt, jobRow, hstore, hslot, if_true]
  rw [Backend.find?_put]
  exact if_pos rfl

/-- The earlier rows find what they found before: the new key is not theirs. -/
theorem objectAt_old (hown : OwnSecond w scope r)
    (hstore : ∀ slot, w'.store slot =
      if slot ∈ r.targets.slots then
        (w.store slot).put (artifact scope w r payload)
      else w.store slot)
    (hj : j ∈ w.jobs) (slot : Option String) :
    w'.objectAt slot j = w.objectAt slot j := by
  unfold World.objectAt
  cases slot with
  | none => rfl
  | some slot =>
    cases hkey : j.remoteKey with
    | none => rfl
    | some key =>
      dsimp only
      rw [hstore]
      by_cases hslot : slot ∈ r.targets.slots
      · have hne : key ≠ (artifact scope w r payload).key := by
          rintro rfl
          exact hown.key_ne payload hj hkey
        rw [if_pos hslot, Backend.find?_put, if_neg hne]
      · rw [if_neg hslot]

theorem createdAt_lt_jobRow (hw : WellFormed codec scope w)
    (hrun : runRbdBackup codec scope w r = some w') (hj : j ∈ w.jobs) (payload : Payload)
    (slot : String) (i : Nat) :
    j.createdAt < (jobRow codec scope w r payload slot i).createdAt := by
  obtain ⟨_, hclaim, hcommit, _⟩ := runRbdBackup_cases hrun
  have hpast := (hw.recorded j hj).past
  simp only [jobRow]
  split <;> omega

theorem latestFull_after_run (hw : WellFormed codec scope w)
    (hrun : runRbdBackup codec scope w r = some w')
    (hjobs : w'.jobs = w.jobs ++ jobRows codec scope w r payload) {full : BackupJob}
    (hfull : latestSuccessfulFullJob w'.jobs scope slot = some full) :
    (isFull w.jobs scope r = true ∧
      ∃ i, r.targets.slots[i]? = some slot ∧
        full = jobRow codec scope w r payload slot i) ∨
    (¬ (isFull w.jobs scope r = true ∧ slot ∈ r.targets.slots) ∧
      latestSuccessfulFullJob w.jobs scope slot = some full) := by
  have hw' := wellFormed_runRbdBackup hw hrun
  obtain ⟨hmem, hsucc, hslot, hlatest⟩ := latestSuccessfulFullJob_spec hfull
  have htype := ((scope.succeeded_iff _ _).mp hsucc).2.1
  rw [hjobs] at hmem
  rcases List.mem_append.mp hmem with hmem | hmem
  · right
    constructor
    · rintro ⟨hisFull, hin⟩
      obtain ⟨i, hi⟩ := List.mem_iff_getElem?.mp hin
      have hnew : jobRow codec scope w r payload slot i ∈ w'.jobs := by
        rw [hjobs]
        exact List.mem_append_right _
          ((mem_jobRows_iff _ _ _ _ _ _).mpr ⟨slot, i, hi, rfl⟩)
      have hnewType : (jobRow codec scope w r payload slot i).jobType =
          .full := by simp [jobRow, hisFull]
      have hnewSucc := hw'.succeeded hnew
      rw [hnewType] at hnewSucc
      have hle := hlatest _ hnew hnewSucc rfl
      have hlt := createdAt_lt_jobRow hw hrun hmem payload slot i
      omega
    · obtain ⟨full', hfull'⟩ := Option.isSome_iff_exists.mp
        (latestSuccessfulFullJob_isSome hmem hsucc hslot)
      obtain ⟨hmem', hsucc', hslot', hlatest'⟩ :=
        latestSuccessfulFullJob_spec hfull'
      have hle := hlatest' full hmem hsucc hslot
      have hle' := hlatest full' (hjobs ▸ List.mem_append_left _ hmem')
        hsucc' hslot'
      rw [hfull', hw.timesDiffer full' hmem' full hmem
        (hslot'.trans hslot.symm) (le_antisymm hle' hle)]
  · left
    obtain ⟨slot', i, hi, rfl⟩ := (mem_jobRows_iff _ _ _ _ _ _).mp hmem
    have hsame : slot' = slot := by
      simpa [jobRow] using hslot
    subst hsame
    refine ⟨?_, i, hi, rfl⟩
    by_contra hnot
    simp [jobRow, hnot] at htype

/-- What a run adds: its rows, each of which finds the artifact, while the earlier ones
find what they found. -/
structure Adds (codec : Codec) (scope : ImageScope) (w w' : World) (r : BackupRun)
    (payload : Payload) : Prop where
  jobs : w'.jobs = w.jobs ++ jobRows codec scope w r payload
  old : ∀ j ∈ w.jobs, w'.objectAt j.backupTargetSlot j = w.objectAt j.backupTargetSlot j
  new : ∀ slot i, r.targets.slots[i]? = some slot →
    w'.objectAt (jobRow codec scope w r payload slot i).backupTargetSlot
      (jobRow codec scope w r payload slot i) = some (artifact scope w r payload)

section Adds

variable {codec : Codec} {scope : ImageScope} {w w' : World} {r : BackupRun}
  {payload : Payload}

theorem adds_of_ownSecond (hown : OwnSecond w scope r)
    (hjobs : w'.jobs = w.jobs ++ jobRows codec scope w r payload)
    (hstore : ∀ slot, w'.store slot =
      if slot ∈ r.targets.slots then
        (w.store slot).put (artifact scope w r payload)
      else w.store slot) : Adds codec scope w w' r payload where
  jobs := hjobs
  old := fun _ hj => objectAt_old hown hstore hj _
  new := by
    intro slot i hi
    obtain ⟨hlt, hget⟩ := List.getElem?_eq_some_iff.mp hi
    exact objectAt_new hstore (hget ▸ List.getElem_mem hlt) i

variable {j : BackupJob} {slot : String}

section

variable (h : Adds codec scope w w' r payload)
include h

theorem Adds.mem (hj : j ∈ w'.jobs) :
    j ∈ w.jobs ∨ ∃ slot i, r.targets.slots[i]? = some slot ∧
      j = jobRow codec scope w r payload slot i := by
  rw [h.jobs] at hj
  rcases List.mem_append.mp hj with hj | hj
  · exact Or.inl hj
  · exact Or.inr ((mem_jobRows_iff _ _ _ _ _ _).mp hj)

theorem Adds.mem_old (hj : j ∈ w.jobs) : j ∈ w'.jobs :=
  h.jobs ▸ List.mem_append_left _ hj

theorem Adds.stored_old (hj : j ∈ w.jobs) : w'.artifactStored j = w.artifactStored j := by
  unfold World.artifactStored
  rw [h.old j hj]

theorem Adds.stored_new {i : Nat} (hi : r.targets.slots[i]? = some slot) :
    w'.artifactStored (jobRow codec scope w r payload slot i) = true := by
  unfold World.artifactStored
  rw [h.new slot i hi]
  rfl

theorem Adds.keysDiffer (hc : Chained scope w) (hown : OwnSecond w scope r) {j' : BackupJob}
    (hj : j ∈ w'.jobs) (hj' : j' ∈ w'.jobs) (hslots : j.backupTargetSlot = j'.backupTargetSlot)
    (hkeys : j.remoteKey = j'.remoteKey) : j = j' := by
  rcases h.mem hj with hj | ⟨slot, i, hi, rfl⟩ <;>
    rcases h.mem hj' with hj' | ⟨slot', i', hi', rfl⟩
  · exact hc.keysDiffer j hj j' hj' hslots hkeys
  · exact absurd hkeys (hown.key_ne payload hj)
  · exact absurd hkeys.symm (hown.key_ne payload hj')
  · simp only [jobRow, Option.some.injEq] at hslots
    subst hslots
    rw [r.slotIndex_unique hi hi']

section

variable (hw : WellFormed codec scope w)
include hw

theorem Adds.ordered (hc : Chained scope w)
    (hown : OwnSecond w scope r) (hrun : runRbdBackup codec scope w r = some w') {m : BackupJob}
    (hm : m ∈ w'.jobs) (hj : j ∈ w'.jobs) (hslots : m.backupTargetSlot = j.backupTargetSlot)
    (hlt : m.createdAt < j.createdAt) {x y : StoredObject Payload}
    (hx : w'.objectAt m.backupTargetSlot m = some x)
    (hy : w'.objectAt j.backupTargetSlot j = some y) : x.createdAt < y.createdAt := by
  rcases h.mem hm with hm | ⟨slot, i, hi, rfl⟩ <;>
    rcases h.mem hj with hj | ⟨slot', i', hi', rfl⟩
  · rw [h.old m hm] at hx
    rw [h.old j hj] at hy
    exact hc.ordered m hm j hj hslots hlt x y hx hy
  · rw [h.old m hm] at hx
    rw [h.new slot' i' hi', Option.some.injEq] at hy
    have haged := hc.aged m hm x hx
    have hfresh := hown.1
    rw [← hy]
    exact lt_of_le_of_lt haged hfresh
  · have := createdAt_lt_jobRow hw hrun hj payload slot i
    omega
  · simp only [jobRow, Option.some.injEq] at hslots
    subst hslots
    rw [r.slotIndex_unique hi hi'] at hlt
    omega

theorem Adds.latest (hc : Chained scope w) (hrun : runRbdBackup codec scope w r = some w')
    {full : BackupJob} (hfull : latestSuccessfulFullJob w'.jobs scope slot = some full) :
    w'.artifactStored full = true ∧
      ∀ m ∈ w'.jobs, m.jobType = .incremental → m.backupTargetSlot = some slot →
        m.baseJobId = some full.id → w'.artifactStored m = true := by
  rcases latestFull_after_run hw hrun h.jobs hfull with
    ⟨hisFull, i, hi, rfl⟩ | ⟨hnotFull, hbefore⟩
  · refine ⟨h.stored_new hi, ?_⟩
    intro m hm hinc _ hid
    rcases h.mem hm with hm | ⟨slot', i', _, rfl⟩
    · obtain ⟨base, hbase, hid', _⟩ := (hw.recorded m hm).base hinc
      have hbelow := (hw.recorded base hbase).idBelow
      rw [hid, Option.some.injEq] at hid'
      simp only [jobRow] at hid'
      omega
    · simp [jobRow, hisFull] at hinc
  · obtain ⟨hstored, hincs⟩ := hc.latest slot full hbefore
    obtain ⟨hmem, _⟩ := latestSuccessfulFullJob_spec hbefore
    constructor
    · rw [h.stored_old hmem]
      exact hstored
    · intro m hm hinc hslot hid
      rcases h.mem hm with hm | ⟨slot', i', hi', rfl⟩
      · rw [h.stored_old hm]
        exact hincs m hm hinc hslot hid
      · exact h.stored_new hi'

theorem Adds.intact_old (hw' : WellFormed codec scope w') (hc : Chained scope w)
    (hrun : runRbdBackup codec scope w r = some w') {base : BackupJob} (hj : j ∈ w.jobs)
    (hinc : j.jobType = .incremental) (hbase : base ∈ w'.jobs) (hid : j.baseJobId = some base.id)
    (hstored : w'.artifactStored j = true) : w'.restorable scope j = true := by
  obtain ⟨base', hbase', hid', _⟩ := (hw.recorded j hj).base hinc
  have hsame : base' = base := by
    rw [hid, Option.some.injEq] at hid'
    exact List.inj_on_of_nodup_map hw'.idsNodup (h.mem_old hbase') hbase hid'.symm
  subst hsame
  rw [h.stored_old hj] at hstored
  obtain ⟨hb, hdiffs⟩ :=
    (restorable_incremental_iff hw hj hinc hbase' hid).mp
      (hc.intact j hj (Or.inr (hinc ▸ hw.succeeded hj)) hstored)
  rw [restorable_incremental_iff hw' (h.mem_old hj) hinc hbase hid]
  constructor
  · rw [h.stored_old hbase']
    exact hb
  · intro m hm hminc hmslot hmid hle
    rcases h.mem hm with hm | ⟨slot', i', _, rfl⟩
    · rw [h.stored_old hm]
      exact hdiffs m hm hminc hmslot hmid hle
    · have := createdAt_lt_jobRow hw hrun hj payload slot' i'
      omega

end

theorem Adds.intact_new (hw' : WellFormed codec scope w')
    (hc : Chained scope w) {i : Nat} (hi : r.targets.slots[i]? = some slot) {base : BackupJob}
    (hj : jobRow codec scope w r payload slot i ∈ w'.jobs)
    (hinc : (jobRow codec scope w r payload slot i).jobType = .incremental) (hbase : base ∈ w'.jobs)
    (hid : (jobRow codec scope w r payload slot i).baseJobId = some base.id) :
    w'.restorable scope (jobRow codec scope w r payload slot i) = true := by
  have hnotFull : isFull w.jobs scope r = false := by
    rw [Bool.eq_false_iff]
    intro hisFull
    simp [jobRow, hisFull] at hinc
  obtain ⟨hlt, hget⟩ := List.getElem?_eq_some_iff.mp hi
  have hin : slot ∈ r.targets.slots := hget ▸ List.getElem_mem hlt
  obtain ⟨full, hfull⟩ := latestFull_of_not_isFull hnotFull hin
  have hbaseId : base.id = full.id := by
    have hrow : (jobRow codec scope w r payload slot i).baseJobId = some full.id := by
      simp [jobRow, hnotFull, hfull]
    rw [hid, Option.some.injEq] at hrow
    exact hrow
  obtain ⟨hfullMem, _⟩ := latestSuccessfulFullJob_spec hfull
  have hsame : base = full :=
    List.inj_on_of_nodup_map hw'.idsNodup hbase (h.mem_old hfullMem) hbaseId
  subst hsame
  obtain ⟨hb, hdiffs⟩ := hc.latest slot base hfull
  rw [restorable_incremental_iff hw' hj hinc hbase hid]
  constructor
  · rw [h.stored_old hfullMem]
    exact hb
  · intro m hm hminc hmslot hmid _
    rcases h.mem hm with hm | ⟨slot', i', hi', rfl⟩
    · rw [h.stored_old hm]
      exact hdiffs m hm hminc hmslot hmid
    · exact h.stored_new hi'

theorem Adds.intact (hw : WellFormed codec scope w) (hc : Chained scope w)
    (hrun : runRbdBackup codec scope w r = some w') : ChainsIntact scope w' := by
  have hw' := wellFormed_runRbdBackup hw hrun
  intro j hj _ hstored
  have hr := hw'.recorded j hj
  rcases hr.key.1 with hfull | hinc
  · rw [restorable_full hw' hj hfull]
    exact hstored
  · obtain ⟨base, hbase, hid, _⟩ := hr.base hinc
    rcases h.mem hj with hjold | ⟨slot, i, hi, rfl⟩
    · exact h.intact_old hw hw' hc hrun hjold hinc hbase hid hstored
    · exact h.intact_new hw' hc hi hj hinc hbase hid

end

end Adds

theorem chained_runRbdBackup (hw : WellFormed codec scope w) (hc : Chained scope w)
    (hown : OwnSecond w scope r) (hrun : runRbdBackup codec scope w r = some w') :
    Chained scope w' := by
  obtain ⟨payload, _, _, hclock, hjobs, _, hstore, _, hclock', _, _⟩ :=
    runRbdBackup_cases hrun
  have hadds := adds_of_ownSecond hown hjobs hstore
  constructor
  case keysDiffer => exact fun j hj j' hj' => hadds.keysDiffer hc hown hj hj'
  case aged =>
    intro j hj o ho
    rw [hclock']
    rcases hadds.mem hj with hj | ⟨slot, i, hi, rfl⟩
    · rw [hadds.old j hj] at ho
      exact le_trans (hc.aged j hj o ho) hclock
    · rw [hadds.new slot i hi, Option.some.injEq] at ho
      exact ho ▸ le_refl _
  case ordered =>
    exact fun m hm j hj hslots hlt x y => hadds.ordered hw hc hown hrun hm hj hslots hlt
  case latest => exact fun slot full => hadds.latest hw hc hrun
  case intact => exact hadds.intact hw hc hrun

/-! ## Runs -/

/-- **Chains stay intact** in every run whose sweeps cut whole chains and whose
backups do not share a second. -/
theorem chainsIntact_run {codec : Codec} {scope : ImageScope} {w w' : World} (hfresh : w.Fresh)
    (events : List BackupEvent)
    (hmeets : (backupSystem codec scope).Meets (KeepsChains scope) w events)
    (hrun : (backupSystem codec scope).run w events = some w') : ChainsIntact scope w' := by
  have hinv : WellFormed codec scope w' ∧ Chained scope w' := by
    refine (backupSystem codec scope).run_invariant_of_meets
      (KeepsChains scope) (fun w => WellFormed codec scope w ∧ Chained scope w)
      ?_ events w w' ?_ hmeets hrun
    · rintro s a s' ⟨hw, hc⟩ hcond hstep
      cases a with
      | write block data =>
        simp only [backupSystem, Option.some.injEq] at hstep
        subst hstep
        exact ⟨hw.congr rfl rfl rfl rfl, hc.congr rfl rfl rfl⟩
      | backup r =>
        exact ⟨wellFormed_runRbdBackup hw hstep,
          chained_runRbdBackup hw hc hcond hstep⟩
      | failedBackup snapName =>
        simp only [backupSystem, Option.map_eq_some_iff] at hstep
        obtain ⟨im, _, rfl⟩ := hstep
        exact ⟨hw.congr rfl rfl rfl rfl, hc.congr rfl rfl rfl⟩
      | sweep slots counts refuses =>
        simp only [backupSystem, Option.some.injEq] at hstep
        subst hstep
        exact ⟨hw.congr rfl rfl rfl rfl,
          chained_sweepWorld hw hc slots counts refuses hcond⟩
    · have hnil : w.jobs = [] := hfresh
      refine ⟨⟨by simp [hnil], by simp [hnil], by simp [hnil]⟩, ?_⟩
      refine ⟨by simp [hnil], by simp [hnil], by simp [hnil], ?_, ?_⟩
      · intro slot full hfull
        obtain ⟨hmem, _⟩ := latestSuccessfulFullJob_spec hfull
        simp [hnil] at hmem
      · simp [ChainsIntact, hnil]
  exact hinv.2.intact

/-! ## A concrete history -/

/-- The image `rbd/vm1` of the default cluster. -/
def vm1 : ImageScope := ⟨none, ⟨"rbd", rbd_valid⟩, ⟨"vm1", by decide⟩⟩

/-- Lengths and checksums of no interest. -/
def plainCodec : Codec := ⟨fun _ => 1, fun _ => "00", fun _ => by decide⟩

/-- Before the first run: an empty SFTP target, an empty image. -/
def emptyWorld : World where
  jobs := []
  nextId := 1
  store := fun _ => ⟨.ssh, [], by decide⟩
  image := ⟨fun _ => 0, [], []⟩
  now := 0
  clock := 0
  taken := fun _ _ => 0

def slotA : TargetSlots := ⟨["a"], by decide⟩

/-- A run that takes place at that second, with that snapshot name. -/
def runAt (second : Nat) (name : SnapName) : BackupEvent :=
  .backup ⟨slotA, none, name, second * 1000000, second,
    second * 1000000 + 1, fun _ => true⟩

theorem noSlash_first : "backup-20261001T000000Z".toList.contains '/' = false := by decide

theorem noSlash_second : "backup-20261002T000000Z".toList.contains '/' = false := by decide

/-- A full export, two incrementals, and a sweep that keeps one of them. -/
def trimmedHistory : List BackupEvent :=
  [ runAt 1 ⟨"backup-20261001T000000Z", noSlash_first⟩,
    runAt 2 ⟨"backup-20261002T000000Z", noSlash_second⟩,
    runAt 3 ⟨"backup-20261003T000000Z", by decide⟩,
    .sweep slotA ⟨3, 1, by decide, by decide⟩ (fun _ _ => false) ]

/-- The state has a stored successful job that is not restorable. -/
def World.chainBroken (w : World) (scope : ImageScope) : Bool :=
  w.jobs.any fun j =>
    (scope.succeeded .full j || scope.succeeded .incremental j) &&
      w.artifactStored j && !w.restorable scope j

theorem not_chainsIntact_of_chainBroken (h : w.chainBroken scope = true) :
    ¬ ChainsIntact scope w := by
  intro hintact
  obtain ⟨j, hj, hbad⟩ := List.any_eq_true.mp h
  simp only [Bool.and_eq_true, Bool.or_eq_true, Bool.not_eq_true'] at hbad
  obtain ⟨⟨hsucc, hstored⟩, hbroken⟩ := hbad
  rw [hintact j hj hsucc hstored] at hbroken
  exact absurd hbroken (by decide)

/-- The sweep takes the first incremental from under the second. -/
theorem retention_breaks_chain :
    ¬ ∀ (codec : Codec) (scope : ImageScope) (w w' : World)
      (events : List BackupEvent), w.Fresh →
      (backupSystem codec scope).run w events = some w' →
        ChainsIntact scope w' := by
  intro h
  have hbroken : ((backupSystem plainCodec vm1).run emptyWorld
      trimmedHistory).any (fun w => w.chainBroken vm1) = true := by
    decide +kernel
  cases hrun : (backupSystem plainCodec vm1).run emptyWorld trimmedHistory with
  | none => rw [hrun] at hbroken; exact absurd hbroken (by decide)
  | some w' =>
    rw [hrun] at hbroken
    exact not_chainsIntact_of_chainBroken hbroken
      (h plainCodec vm1 emptyWorld w' trimmedHistory rfl hrun)

/-- A full export, two incrementals, and a sweep that keeps both. -/
def keptHistory : List BackupEvent :=
  [ runAt 1 ⟨"backup-20261001T000000Z", noSlash_first⟩,
    runAt 2 ⟨"backup-20261002T000000Z", noSlash_second⟩,
    runAt 3 ⟨"backup-20261003T000000Z", by decide⟩,
    .sweep slotA ⟨1, 2, by decide, by decide⟩ (fun _ _ => false) ]

/-- That history runs to its end with its chains intact. -/
theorem chainsIntact_keptHistory :
    ∃ w', (backupSystem plainCodec vm1).run emptyWorld keptHistory = some w' ∧
      ChainsIntact vm1 w' := by
  have hruns : ((backupSystem plainCodec vm1).run emptyWorld
      keptHistory).isSome = true := by
    decide +kernel
  obtain ⟨w', hrun⟩ := Option.isSome_iff_exists.mp hruns
  have hfresh : emptyWorld.Fresh := rfl
  exact ⟨w', hrun,
    chainsIntact_run hfresh keptHistory (by decide +kernel) hrun⟩

end CephAi.Ports.BackupEngine
