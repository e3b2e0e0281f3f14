import CephAi.Ports.BackupJobs

/-!
# The retention sweep of one image

`engine._sweep_retention_after_success` calls `apply_retention` on
`full/pool/image` and `incremental/pool/image` for every target.  The docs of
the call promise that retention never crosses images.

Over SFTP the prefix is a directory and the promise holds for every name.  In a
bucket the prefix is a bare string, so `full/rbd/vm1` also lists the objects of
`rbd/vm10`, which the protected keys of `rbd/vm1` say nothing about.

## Main results

* `sweepPass_ssh_ownKey` — over SFTP only the image's own files are deleted.
* `sweep_ownKeys_iff_contained` — the exact condition under which a sweep stays
  with its image.
-/

namespace CephAi.Ports.BackupRetention

open Verified
open BackupStorage BackupJobs

/-- The `retention` section of a validated backup policy. -/
structure RetentionCounts where
  keepFullCount : Nat
  keepIncrementalCount : Nat
  fullBounds : 1 ≤ keepFullCount ∧ keepFullCount ≤ 1000
  incrementalBounds : 1 ≤ keepIncrementalCount ∧ keepIncrementalCount ≤ 1000

/-- One entry of `resolve_targets`. -/
structure Target (π : Type) where
  slot : String
  backend : Backend π

variable {π : Type}

/-- The policy one pass hands to `apply_retention`. -/
def retentionPolicy (jobType : JobType) (keepCount : Nat)
    (protectedKeys : List String) : RetentionPolicyLike where
  keepFullCount := if jobType = .full then keepCount else 0
  keepIncrementalCount := if jobType = .incremental then keepCount else 0
  protectedKeys := protectedKeys

/-- One pass over one target; `refuses` is the destination's own say. -/
def sweepPass (refuses : String → String → Bool) (scope : ImageScope)
    (protectedKeys : List String) (jobType : JobType) (keepCount : Nat)
    (t : Target π) : Target π × List String :=
  let keyStart := retentionPrefix jobType scope.pool scope.image
  let result := t.backend.applyRetention (refuses t.slot) keyStart
    (retentionPolicy jobType keepCount protectedKeys)
  ({ t with backend := result.1 }, result.2)

/-- `_sweep_retention_after_success`: the full pass over all targets, then the
incremental pass.  Returns the targets and the deleted `(slot, key)` pairs. -/
def sweepRetentionAfterSuccess (refuses : String → String → Bool)
    (jobs : List BackupJob) (scope : ImageScope) (counts : RetentionCounts)
    (targets : List (Target π)) : List (Target π) × List (String × String) :=
  let kept := protectedKeys jobs scope
  let full := targets.map
    (sweepPass refuses scope kept .full counts.keepFullCount)
  let incremental := (full.map (·.1)).map
    (sweepPass refuses scope kept .incremental counts.keepIncrementalCount)
  (incremental.map (·.1),
    (full ++ incremental).flatMap fun r => r.2.map (fun key => (r.1.slot, key)))

/-- `key` is `full/pool/image/<file>` or `incremental/pool/image/<file>`. -/
def ownKey (scope : ImageScope) (key : String) : Bool :=
  isFileIn (retentionPrefix .full scope.pool scope.image) key ||
    isFileIn (retentionPrefix .incremental scope.pool scope.image) key

/-! ## One pass -/

section

variable (refuses : String → String → Bool)

section

variable (scope : ImageScope)

@[simp] theorem sweepPass_slot (kept : List String) (jobType : JobType)
    (keepCount : Nat) (t : Target π) :
    (sweepPass refuses scope kept jobType keepCount t).1.slot = t.slot := rfl

@[simp] theorem sweepPass_transport (kept : List String) (jobType : JobType)
    (keepCount : Nat) (t : Target π) :
    (sweepPass refuses scope kept jobType keepCount t).1.backend.transport =
      t.backend.transport :=
  applyRetention_transport _ _ _ _

theorem sweepPass_objects (kept : List String) (jobType : JobType)
    (keepCount : Nat) (t : Target π) :
    (sweepPass refuses scope kept jobType keepCount t).1.backend.objects =
      t.backend.objects.filter (fun o =>
        !(sweepPass refuses scope kept jobType keepCount t).2.contains o.key) :=
  applyRetention_objects _ _ _ _

end

end

theorem retentionPrefix_ne_empty (jobType : JobType) (pool image : RbdName) :
    retentionPrefix jobType pool image ≠ "" := by
  intro h
  have hlist := congrArg String.toList h
  simp [retentionPrefix, String.toList_append] at hlist

theorem sweepPass_listed {refuses : String → String → Bool} {scope : ImageScope}
    {kept : List String} {jobType : JobType} {keepCount : Nat} {t : Target π} {key : String}
    (hkey : key ∈ (sweepPass refuses scope kept jobType keepCount t).2) :
    (∃ o ∈ t.backend.objects, o.key = key) ∧
      startsWith key (retentionPrefix jobType scope.pool scope.image) = true ∧
      key ∉ kept := by
  obtain ⟨listed, hlist, i, hi, rfl, hspared⟩ := applyRetention_listed hkey
  obtain ⟨o, ho, rfl⟩ := Backend.stored_of_mem_list hlist hi
  refine ⟨⟨o, ho, rfl⟩, ?_, ?_⟩
  · unfold Backend.list at hlist
    cases ht : t.backend.transport with
    | s3 =>
      simp only [ht, s3List, Option.some.injEq] at hlist
      subst hlist
      obtain ⟨o', ho', hinfo⟩ := List.mem_map.mp hi
      have hstart := (List.mem_filter.mp ho').2
      rw [← hinfo]
      exact hstart
    | ssh =>
      simp only [ht] at hlist
      have hfile := isFileIn_of_mem_sshList
        (retentionPrefix_ne_empty jobType scope.pool scope.image) hlist hi
      simp only [isFileIn, Bool.and_eq_true] at hfile
      rw [startsWith_iff] at hfile ⊢
      refine List.IsPrefix.trans ?_ hfile.1
      rw [String.toList_append]
      exact List.prefix_append _ _
  · intro hmem
    simp only [RetentionPolicyLike.protects, retentionPolicy] at hspared
    rw [List.contains_iff_mem.mpr hmem] at hspared
    exact absurd hspared (by decide)

theorem sweepPass_ssh_ownKey {refuses : String → String → Bool} {scope : ImageScope}
    {kept : List String} {jobType : JobType} {keepCount : Nat} {t : Target π}
    (ht : t.backend.transport = .ssh) {key : String}
    (hkey : key ∈ (sweepPass refuses scope kept jobType keepCount t).2) :
    isFileIn (retentionPrefix jobType scope.pool scope.image) key = true := by
  obtain ⟨listed, hlist, i, hi, rfl, _⟩ := applyRetention_listed hkey
  simp only [Backend.list, ht] at hlist
  exact isFileIn_of_mem_sshList
    (retentionPrefix_ne_empty jobType scope.pool scope.image) hlist hi

/-- What the listing leaves to a pass: the unprotected listed objects.  In a
bucket these are all keys that merely start with the bare prefix. -/
def candidates (scope : ImageScope) (kept : List String)
    (jobType : JobType) (b : Backend π) : List BackupObjectInfo :=
  Retention.unspared (retentionPolicy jobType 0 kept).protects
    ((b.list (retentionPrefix jobType scope.pool scope.image)).getD [])

/-- How many candidates outlive `o`. -/
def outlivedBy (listed : List BackupObjectInfo) (o : BackupObjectInfo) : Nat :=
  Retention.standing (·.createdAt) listed o

/-- `o` is among the `keepCount` newest candidates, or the destination declines
one of the deletions that come up to it. -/
def Spared (declines : String → Bool) (keepCount : Nat)
    (listed : List BackupObjectInfo) (o : BackupObjectInfo) : Prop :=
  outlivedBy listed o < keepCount ∨
    ∃ o' ∈ listed, keepCount ≤ outlivedBy listed o' ∧
      outlivedBy listed o' ≤ outlivedBy listed o ∧ declines o'.key = true

section

variable (refuses : String → String → Bool)

theorem mem_sweepPass_iff (scope : ImageScope) (kept : List String) (jobType : JobType)
    (hjobType : jobType = .full ∨ jobType = .incremental) (keepCount : Nat) (t : Target π)
    (key : String) :
    key ∈ (sweepPass refuses scope kept jobType keepCount t).2 ↔
      ∃ o ∈ candidates scope kept jobType t.backend, o.key = key ∧
        ¬ Spared (t.backend.declines (refuses t.slot)) keepCount
          (candidates scope kept jobType t.backend) o := by
  have hkeep : (retentionPolicy jobType keepCount kept).keepCount =
      keepCount := by
    rcases hjobType with rfl | rfl <;>
      simp [retentionPolicy, RetentionPolicyLike.keepCount]
  unfold sweepPass candidates
  dsimp only
  cases hlist : t.backend.list
      (retentionPrefix jobType scope.pool scope.image) with
  | none =>
    rw [applyRetention_of_list_none _ _ _ _ hlist]
    simp [Retention.unspared]
  | some listed =>
    have hnd := Backend.list_nodup hlist
    rw [applyRetention_deleted _ _ _ _ _ hlist, hkeep, List.mem_map]
    refine exists_congr (fun o => ?_)
    rw [Retention.mem_sweep_iff _ _ _ _ _ hnd]
    constructor
    · rintro ⟨⟨hmem, hstand, hall⟩, hkey⟩
      refine ⟨hmem, hkey, ?_⟩
      rintro (hlt | ⟨o', ho', hk, hle, hdec⟩)
      · exact absurd hstand (not_le.mpr hlt)
      · have hno := hall o' ho' hk hle
        rw [hno] at hdec
        exact absurd hdec (by decide)
    · rintro ⟨hmem, hkey, hnot⟩
      unfold Spared at hnot
      obtain ⟨hge, hall⟩ := not_or.mp hnot
      refine ⟨⟨hmem, not_lt.mp hge, ?_⟩, hkey⟩
      intro o' ho' hk hle
      cases hdec : t.backend.declines (refuses t.slot) o'.key with
      | false => rfl
      | true => exact absurd ⟨o', ho', hk, hle, hdec⟩ hall

/-! ## Both passes -/

theorem candidates_incremental_after_full (scope : ImageScope) (kept : List String)
    (keepCount : Nat) (t : Target π) :
    candidates scope kept .incremental
        (sweepPass refuses scope kept .full keepCount t).1.backend =
      candidates scope kept .incremental t.backend := by
  have hdeleted : ∀ key ∈ (sweepPass refuses scope kept .full keepCount t).2,
      startsWith key
        (retentionPrefix .incremental scope.pool scope.image) = false := by
    intro key hkey
    obtain ⟨_, hfull, _⟩ := sweepPass_listed hkey
    exact startsWith_full_incremental _ _ _ hfull
  unfold candidates
  congr 2
  exact Backend.list_of_filtered _ (sweepPass_transport _ _ _ _ _ _)
    (sweepPass_objects _ _ _ _ _ _) hdeleted

theorem mem_sweep_deleted_iff (jobs : List BackupJob) (scope : ImageScope)
    (counts : RetentionCounts) (targets : List (Target π)) (slot key : String) :
    (slot, key) ∈
        (sweepRetentionAfterSuccess refuses jobs scope counts targets).2 ↔
      ∃ t ∈ targets, t.slot = slot ∧
        (key ∈ (sweepPass refuses scope (protectedKeys jobs scope) .full
            counts.keepFullCount t).2 ∨
          key ∈ (sweepPass refuses scope (protectedKeys jobs scope)
            .incremental counts.keepIncrementalCount
            (sweepPass refuses scope (protectedKeys jobs scope) .full
              counts.keepFullCount t).1).2) := by
  simp only [sweepRetentionAfterSuccess, List.mem_flatMap, List.mem_append,
    List.mem_map, Prod.mk.injEq]
  constructor
  · rintro ⟨r, (⟨t, ht, rfl⟩ | ⟨_, ⟨_, ⟨t, ht, rfl⟩, rfl⟩, rfl⟩),
      k, hk, hslot, rfl⟩
    · exact ⟨t, ht, hslot, Or.inl hk⟩
    · exact ⟨t, ht, hslot, Or.inr hk⟩
  · rintro ⟨t, ht, hslot, (hk | hk)⟩
    · exact ⟨_, Or.inl ⟨t, ht, rfl⟩, key, hk, hslot, rfl⟩
    · exact ⟨_, Or.inr ⟨_, ⟨_, ⟨t, ht, rfl⟩, rfl⟩, rfl⟩, key, hk, hslot, rfl⟩

end

/-- The target keeps the sweep inside the image: it is an SFTP directory tree,
or every candidate that is not the image's own is spared in its pass. -/
def Target.Contained (refuses : String → String → Bool)
    (jobs : List BackupJob) (scope : ImageScope) (counts : RetentionCounts)
    (t : Target π) : Prop :=
  t.backend.transport = .s3 →
    ∀ pass ∈ [(JobType.full, counts.keepFullCount),
        (JobType.incremental, counts.keepIncrementalCount)],
      ∀ o ∈ candidates scope (protectedKeys jobs scope) pass.1 t.backend,
        ownKey scope o.key = false →
          Spared (t.backend.declines (refuses t.slot)) pass.2
            (candidates scope (protectedKeys jobs scope) pass.1 t.backend) o

theorem mem_incrementalPass_iff (refuses : String → String → Bool) (scope : ImageScope)
    (kept : List String) (keepFull keepIncremental : Nat) (t : Target π) (key : String) :
    key ∈ (sweepPass refuses scope kept .incremental keepIncremental
        (sweepPass refuses scope kept .full keepFull t).1).2 ↔
      ∃ o ∈ candidates scope kept .incremental t.backend, o.key = key ∧
        ¬ Spared (t.backend.declines (refuses t.slot)) keepIncremental
          (candidates scope kept .incremental t.backend) o := by
  have hdeclines :
      (sweepPass refuses scope kept .full keepFull t).1.backend.declines =
        t.backend.declines := by
    unfold Backend.declines
    rw [sweepPass_transport]
  rw [mem_sweepPass_iff _ _ _ _ (Or.inr rfl),
    candidates_incremental_after_full, sweepPass_slot, hdeclines]

/-- **A sweep stays with its image** exactly when every target keeps it
inside. -/
theorem sweep_ownKeys_iff_contained (refuses : String → String → Bool) (jobs : List BackupJob)
    (scope : ImageScope) (counts : RetentionCounts) (targets : List (Target π)) :
    (∀ d ∈ (sweepRetentionAfterSuccess refuses jobs scope counts targets).2,
        ownKey scope d.2 = true) ↔
      ∀ t ∈ targets, t.Contained refuses jobs scope counts := by
  constructor
  · intro hown t ht hs3 pass hpass o ho hforeign
    by_contra hspared
    have hdeleted : (t.slot, o.key) ∈
        (sweepRetentionAfterSuccess refuses jobs scope counts targets).2 := by
      rw [mem_sweep_deleted_iff]
      rcases List.mem_cons.mp hpass with rfl | hpass
      · exact ⟨t, ht, rfl, Or.inl ((mem_sweepPass_iff _ _ _ _ (Or.inl rfl)
          _ _ _).mpr ⟨o, ho, rfl, hspared⟩)⟩
      · obtain rfl := List.mem_singleton.mp hpass
        exact ⟨t, ht, rfl, Or.inr ((mem_incrementalPass_iff _ _ _ _ _ _ _).mpr
          ⟨o, ho, rfl, hspared⟩)⟩
    have := hown _ hdeleted
    rw [hforeign] at this
    exact absurd this (by decide)
  · rintro hcontained ⟨slot, key⟩ hd
    obtain ⟨t, ht, _, hdel⟩ := (mem_sweep_deleted_iff _ _ _ _ _ _ _).mp hd
    cases htr : t.backend.transport with
    | ssh =>
      rcases hdel with hdel | hdel
      · simp [ownKey, sweepPass_ssh_ownKey htr hdel]
      · have htr' : (sweepPass refuses scope (protectedKeys jobs scope) .full
            counts.keepFullCount t).1.backend.transport = .ssh := by
          simpa using htr
        simp [ownKey, sweepPass_ssh_ownKey htr' hdel]
    | s3 =>
      by_contra hforeign
      rw [Bool.not_eq_true] at hforeign
      rcases hdel with hdel | hdel
      · obtain ⟨o, ho, rfl, hnot⟩ := (mem_sweepPass_iff _ _ _ _
          (Or.inl rfl) _ _ _).mp hdel
        exact hnot (hcontained t ht htr _ List.mem_cons_self o ho hforeign)
      · obtain ⟨o, ho, rfl, hnot⟩ :=
          (mem_incrementalPass_iff _ _ _ _ _ _ _).mp hdel
        exact hnot (hcontained t ht htr _
          (List.mem_cons_of_mem _ List.mem_cons_self) o ho hforeign)

/-- A bucket with one full export of `rbd/vm1` and two older ones of
`rbd/vm10`. -/
def neighbourTarget : Target Unit where
  slot := "a"
  backend :=
    { transport := .s3
      objects :=
        [ ⟨"full/rbd/vm1/backup-20261003T000000Z.bin", 3, ()⟩,
          ⟨"full/rbd/vm10/backup-20261001T000000Z.bin", 1, ()⟩,
          ⟨"full/rbd/vm10/backup-20261002T000000Z.bin", 2, ()⟩ ]
      keysNodup := by decide }

/-- Sweeping `rbd/vm1` deletes both exports of `rbd/vm10`. -/
theorem sweep_crosses_images :
    ¬ ∀ (refuses : String → String → Bool) (jobs : List BackupJob)
      (scope : ImageScope) (counts : RetentionCounts)
      (targets : List (Target Unit)),
      ∀ d ∈ (sweepRetentionAfterSuccess refuses jobs scope counts targets).2,
        ownKey scope d.2 = true := by
  intro h
  have hvm1 := h (fun _ _ => false) []
    ⟨none, ⟨"rbd", by decide⟩, ⟨"vm1", by decide⟩⟩
    ⟨1, 1, by decide, by decide⟩ [neighbourTarget]
    ("a", "full/rbd/vm10/backup-20261002T000000Z.bin") (by decide)
  exact absurd hvm1 (by decide)

end CephAi.Ports.BackupRetention
