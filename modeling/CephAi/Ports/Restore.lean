import CephAi.Ports.BackupChain

/-!
# Restoring a recovery point

`restore.restore_image` downloads the artifacts of a chain one by one, checks
each against the length and checksum of its row, imports the full export and
replays the incrementals on the imported image.

An incremental is a diff from the snapshot of its base.  An import creates no
snapshot, so the first replay is refused: only full exports can be restored.

## Main results

* `restoreImage_incremental` — no incremental recovery point is ever restored.
* `restoreImage_correct_iff` — a restore brings the content of a recovery
  point back exactly when it is a full export whose artifact is still stored.
-/

namespace CephAi.Ports.BackupEngine

open Verified Verified.SnapshotImage
open BackupStorage BackupJobs

/-- `_download_and_verify`: the artifact of a row, when it is there and agrees
with the row. -/
def downloadAndVerify (codec : Codec) (storage : Backend Payload)
    (job : BackupJob) : Option Payload :=
  match job.remoteKey.bind storage.find? with
  | none => none
  | some o =>
    match job.sizeBytes, job.sha256 with
    | some expectedSize, some expectedSha256 =>
      if expectedSha256 = "" then none
      else if codec.size o.payload = expectedSize ∧
          codec.sha256 o.payload = expectedSha256 then some o.payload
      else none
    | _, _ => none

/-- One replayed incremental: download it, then `rbd import-diff`. -/
def replayDiff (codec : Codec) (storage : Backend Payload) (im : RbdImage)
    (job : BackupJob) : Option RbdImage :=
  (downloadAndVerify codec storage job).bind im.importDiff

/-- `restore_image` into a fresh destination whose commands all get through:
the restored image, or `none` for an unsuccessful result. -/
def restoreImage (codec : Codec) (jobs : List BackupJob) (scope : ImageScope)
    (storage : Backend Payload) (recoveryPoint : Option Nat) :
    Option RbdImage :=
  match backupChain jobs scope recoveryPoint with
  | none => none
  | some (full, diffs) =>
    match (downloadAndVerify codec storage full).bind Image.ofImport with
    | none => none
    | some im => diffs.foldlM (replayDiff codec storage) im

/-- `get_backend` for the slot of the recovery point. -/
def World.storageOf (w : World) (j : BackupJob) : Backend Payload :=
  w.store (j.backupTargetSlot.getD "")

/-- The artifact of `j` is a full export of the content at its snapshot. -/
def World.FullStored (w : World) (j : BackupJob) : Prop :=
  j.jobType = .full ∧
    ∃ o, w.objectAt j.backupTargetSlot j = some o ∧
      o.payload = .full (w.taken j.id)

variable {codec : Codec} {j : BackupJob} {scope : ImageScope} {w : World}

theorem replay_of_import {storage : Backend Payload} {e : Payload} {im im' : RbdImage}
    (him : Image.ofImport e = some im) {diffs : List BackupJob}
    (h : diffs.foldlM (replayDiff codec storage) im = some im') : diffs = [] ∧ im' = im := by
  cases diffs with
  | nil =>
    simp only [List.foldlM_nil, Option.pure_def, Option.some.injEq] at h
    exact ⟨rfl, h.symm⟩
  | cons d diffs =>
    have hfirst : replayDiff codec storage im d = none := by
      unfold replayDiff
      cases downloadAndVerify codec storage d with
      | none => rfl
      | some p => exact importDiff_of_import him p
    rw [List.foldlM_cons, hfirst] at h
    exact absurd h (by simp)

theorem restoreImage_eq_some {jobs : List BackupJob} {storage : Backend Payload} {rp : Option Nat}
    {im : RbdImage} (h : restoreImage codec jobs scope storage rp = some im) :
    ∃ full, backupChain jobs scope rp = some (full, []) ∧
      downloadAndVerify codec storage full = some (.full im.content) := by
  unfold restoreImage at h
  cases hchain : backupChain jobs scope rp with
  | none => simp [hchain] at h
  | some chain =>
    obtain ⟨full, diffs⟩ := chain
    simp only [hchain] at h
    cases hfull : (downloadAndVerify codec storage full).bind
        Image.ofImport with
    | none => simp [hfull] at h
    | some im' =>
      simp only [hfull] at h
      obtain ⟨e, he, him⟩ := Option.bind_eq_some_iff.mp hfull
      obtain ⟨rfl, rfl⟩ := replay_of_import him h
      refine ⟨full, rfl, ?_⟩
      cases e with
      | diff fromSnap toSnap extents content =>
        simp [Image.ofImport] at him
      | full content =>
        simp only [Image.ofImport, Option.some.injEq] at him
        rw [he, ← him]

/-- **No incremental recovery point is restored**, whatever is stored. -/
theorem restoreImage_incremental (hw : WellFormed codec scope w) (hj : j ∈ w.jobs)
    (hinc : j.jobType = .incremental) (storage : Backend Payload) :
    restoreImage codec w.jobs scope storage (some j.id) = none := by
  cases hrestore : restoreImage codec w.jobs scope storage (some j.id) with
  | none => rfl
  | some im =>
    obtain ⟨full, hchain, _⟩ := restoreImage_eq_some hrestore
    obtain ⟨base, _, hid, _, hslot, hchain'⟩ :=
      hw.backupChain_incremental hj hinc
    rw [hchain, Option.some.injEq, Prod.mk.injEq] at hchain'
    have hself := hw.mem_chainDiffs_self hj hinc hid hslot
    rw [← hchain'.2] at hself
    simp at hself

theorem downloadAndVerify_full (hw : WellFormed codec scope w) (hj : j ∈ w.jobs)
    (hfull : j.jobType = .full) {o : StoredObject Payload}
    (ho : w.objectAt j.backupTargetSlot j = some o) (hpayload : o.payload = .full (w.taken j.id)) :
    downloadAndVerify codec (w.storageOf j) j = some o.payload := by
  obtain ⟨hsize, hsum⟩ := (hw.recorded j hj).fullSum hfull
  obtain ⟨slot, snapName, hslot, hkey⟩ := (hw.recorded j hj).slot_key
  simp only [World.objectAt, hslot, hkey] at ho
  simp only [downloadAndVerify, World.storageOf, hslot, hkey,
    Option.getD_some, Option.bind_some, ho, hsize, hsum, hpayload]
  rw [if_neg (codec.sha256Ne _), if_pos ⟨trivial, trivial⟩]

theorem objectAt_of_downloadAndVerify (hr : RowRecorded codec scope w j) {payload : Payload}
    (h : downloadAndVerify codec (w.storageOf j) j = some payload) :
    ∃ o, w.objectAt j.backupTargetSlot j = some o ∧ o.payload = payload := by
  obtain ⟨slot, snapName, hslot, hkey⟩ := hr.slot_key
  simp only [downloadAndVerify, World.storageOf, hslot, hkey,
    Option.getD_some, Option.bind_some] at h
  simp only [World.objectAt, hslot, hkey]
  cases ho : (w.store slot).find? (remoteKeyOf j.jobType scope snapName) with
  | none => simp [ho] at h
  | some o =>
    refine ⟨o, rfl, ?_⟩
    simp only [ho] at h
    cases hsize : j.sizeBytes with
    | none => simp [hsize] at h
    | some size =>
      cases hsum : j.sha256 with
      | none => simp [hsize, hsum] at h
      | some sum =>
        simp only [hsize, hsum] at h
        split_ifs at h
        exact Option.some.inj h

/-- **What restores are good for.**  In every run, restoring a recovery point
into a fresh destination succeeds with the content at its snapshot exactly when
it is a full export whose artifact is still stored. -/
theorem restoreImage_correct_iff {codec : Codec} {scope : ImageScope} {w w' : World}
    (hfresh : w.Fresh) (events : List BackupEvent)
    (hrun : (backupSystem codec scope).run w events = some w') (j : BackupJob) (hj : j ∈ w'.jobs) :
    (∃ im, restoreImage codec w'.jobs scope (w'.storageOf j) (some j.id) =
        some im ∧ im.content = w'.taken j.id) ↔ w'.FullStored j := by
  have hw := wellFormed_run hfresh events hrun
  have hr := hw.recorded j hj
  constructor
  · rintro ⟨im, hrestore, hcontent⟩
    rcases hr.key.1 with hfull | hinc
    · obtain ⟨full, hchain, hdownload⟩ := restoreImage_eq_some hrestore
      rw [hw.backupChain_full hj hfull, Option.some.injEq,
        Prod.mk.injEq] at hchain
      rw [← hchain.1, hcontent] at hdownload
      exact ⟨hfull, objectAt_of_downloadAndVerify hr hdownload⟩
    · rw [restoreImage_incremental hw hj hinc] at hrestore
      exact absurd hrestore (by simp)
  · rintro ⟨hfull, o, ho, hpayload⟩
    refine ⟨⟨w'.taken j.id, [], []⟩, ?_, rfl⟩
    simp only [restoreImage, hw.backupChain_full hj hfull,
      downloadAndVerify_full hw hj hfull ho hpayload, hpayload,
      Option.bind_some, Image.ofImport, List.foldlM_nil, Option.pure_def]

/-- A full export, a write, and an incremental. -/
def incrementalHistory : List BackupEvent :=
  [ runAt 1 ⟨"backup-20261001T000000Z", noSlash_first⟩,
    .write 0 7,
    runAt 2 ⟨"backup-20261002T000000Z", noSlash_second⟩ ]

/-- The incremental of that history cannot be restored. -/
theorem incremental_not_restored :
    ¬ ∀ (codec : Codec) (scope : ImageScope) (w w' : World)
      (events : List BackupEvent), w.Fresh →
      (backupSystem codec scope).run w events = some w' →
      ∀ j ∈ w'.jobs, ∃ im,
        restoreImage codec w'.jobs scope (w'.storageOf j) (some j.id) =
          some im ∧ im.content = w'.taken j.id := by
  intro h
  have hrefused : ((backupSystem plainCodec vm1).run emptyWorld
      incrementalHistory).any (fun w => w.jobs.any fun j =>
        (restoreImage plainCodec w.jobs vm1 (w.storageOf j)
          (some j.id)).isNone) = true := by
    decide +kernel
  cases hrun : (backupSystem plainCodec vm1).run emptyWorld
      incrementalHistory with
  | none => rw [hrun] at hrefused; exact absurd hrefused (by decide)
  | some w' =>
    rw [hrun] at hrefused
    obtain ⟨j, hj, hnone⟩ := List.any_eq_true.mp hrefused
    obtain ⟨im, him, _⟩ :=
      h plainCodec vm1 emptyWorld w' incrementalHistory rfl hrun j hj
    simp [him] at hnone

/-- Both recovery points of that history: the full export is restored as far
as it is stored, the incremental is not. -/
theorem restoreImage_incrementalHistory :
    ∃ w', (backupSystem plainCodec vm1).run emptyWorld incrementalHistory =
        some w' ∧ w'.jobs.length = 2 ∧
      ∀ j ∈ w'.jobs,
        (∃ im, restoreImage plainCodec w'.jobs vm1 (w'.storageOf j)
            (some j.id) = some im ∧ im.content = w'.taken j.id) ↔
          w'.FullStored j := by
  have hruns : ((backupSystem plainCodec vm1).run emptyWorld
      incrementalHistory).any (fun w => w.jobs.length == 2) = true := by
    decide +kernel
  cases hrun : (backupSystem plainCodec vm1).run emptyWorld
      incrementalHistory with
  | none => rw [hrun] at hruns; exact absurd hruns (by decide)
  | some w' =>
    rw [hrun] at hruns
    have hfresh : emptyWorld.Fresh := rfl
    refine ⟨w', rfl, by simpa using hruns, ?_⟩
    intro j hj
    exact restoreImage_correct_iff hfresh incrementalHistory hrun j hj

end CephAi.Ports.BackupEngine
