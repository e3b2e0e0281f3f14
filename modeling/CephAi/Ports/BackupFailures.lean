import CephAi.Verified.Handlers
import CephAi.Ports.BackupJobs

/-!
# Backups that fail

`_run_rbd_backup` of `worker/backup/engine.py` with the hooks of
`application_consistency.py`, at the level of what it calls: each call may raise, and the
claim, the freeze, the snapshot and the uploads are undone by handlers of their own.  A call
of the function is what its callees do; what is left is the row it claimed and the log of
what was started.

## Main results

* `release_eq` — what the `finally` leaves.
* `exported_iff` — when the big `try` leaves nothing behind.
* `contained_iff` — the callees for which a backup leaves nothing behind.
* `frozen_after_decoding` — a pre-freeze hook whose output cannot be decoded.
-/

namespace CephAi.Ports.BackupFailures

open Verified Verified.Process
open BackupJobs (JobStatus)

/-! ## What a call meets -/

/-- The type of an exception: `ApplicationConsistencyError`, another `Exception`, or only a
`BaseException`. -/
inductive Exc
  | consistency
  | ordinary
  | base
deriving DecidableEq, Repr

/-- `except Exception` catches it. -/
def Exc.isException : Exc → Bool
  | .base => false
  | _ => true

/-- How the function ends. -/
inductive Exit
  | returned (value : Bool)
  | raised (e : Exc)
deriving DecidableEq, Repr

/-- The places where `write_progress` is called. -/
inductive ProgressSite
  | started
  | refused
  | hookFailed
  | snapshotFailed
  | snapshotTaken
  | exporting
  | failed
  | thawWarning
deriving DecidableEq, Repr

/-- `_claim_running_backup`; after the commit the id is read again, which may raise. -/
inductive ClaimResult
  | refused
  | raised (e : Exc) (stored : Bool)
  | claimed
deriving DecidableEq, Repr

/-- `rbd snap create`; a command that raises may have created the snapshot. -/
inductive SnapResult
  | created
  | raised (e : Exc) (created : Bool)
deriving DecidableEq, Repr

/-- What a target meets in the upload loop: whether the operator has cancelled, whether the
result of `upload` is that of the source, and the answer of `verify`. -/
structure TargetCall where
  slot : String
  cancelled : Except Exc Bool := .ok false
  openFile : Option Exc := none
  upload : Except Exc Bool := .ok true
  verify : Except Exc Bool := .ok true
  delete : Option Exc := none

/-- What the callees of one call of `_run_rbd_backup` do; `none` is a callee that returns.
The rows are marked failed in one place at most, and the post-thaw hook is started once at
most. -/
structure Call where
  preflight : Option Exit := none
  claim : ClaimResult := .claimed
  cancelled : Except Exc Bool := .ok false
  progress : ProgressSite → Option Exc := fun _ => none
  markFailed : Option Exc := none
  imageSize : Option Exc := none
  capacity : Option Exc := none
  sourceCapacity : Option Exc := none
  applicationConsistent : Bool
  preHook : Option Exc := none
  postHook : Option Exc := none
  snapCreate : SnapResult := .created
  sshCreds : Option Exc := none
  connect : Option Exc := none
  execCommand : Option Exc := none
  tempFile : Option Exc := none
  stream : Option Exc := none
  exitStatus : Option Exc := none
  close : Option Exc := none
  targets : List TargetCall
  commit : Option Exc := none
  analysis : Option Exc := none
  failureAnalysis : Option Exc := none
  removeTmp : Option Exc := none
  incremental : Bool
  snapRm : Option Exc := none
  retention : Option Exc := none

/-- What is started and done outside of the process. -/
inductive Event
  | preFreeze
  | postThaw
  | snapCreated
  | snapRm
  | uploaded (slot : String)
  | deleted (slot : String)
  | committed
deriving DecidableEq, Repr

/-- The claimed row, the log, and the variables that the handlers read: `thawed` of the
consistency session, `tmp_path`, `uploaded_targets` and `backup_succeeded`. -/
structure World where
  row : Option JobStatus
  log : List Event
  thawed : Bool
  staged : Bool
  uploadedTargets : List TargetCall
  succeeded : Bool

/-- Before the call. -/
def start : World := ⟨none, [], false, false, [], false⟩

/-- A part of the function. -/
abbrev Part := Process World Exit

/-! ## The parts -/

/-- A callee that may raise. -/
def call : Option Exc → Part
  | none => done
  | some e => fail (.raised e)

/-- Something is started. -/
def emit (event : Event) : Part := act fun w => { w with log := w.log ++ [event] }

/-- `except Exception` -/
def anyException : Exit → Bool
  | .raised e => e.isException
  | .returned _ => false

/-- `except ApplicationConsistencyError` -/
def consistencyError : Exit → Bool
  | .raised e => e == .consistency
  | .returned _ => false

def markRunningFailed (c : Call) : Part := fun w =>
  match c.markFailed with
  | some e => (w, some (.raised e))
  | none => (if w.row = some .running then { w with row := some .failed } else w, none)

def runHook (phase : Event) (hook : Option Exc) : Part := (emit phase).andThen (call hook)

/-- `session.thawed = True` -/
def setThawed : Part := act fun w => { w with thawed := true }

def beginSession (c : Call) : Part :=
  if c.applicationConsistent then
    (runHook .preFreeze c.preHook).handle consistencyError
      (((runHook .postThaw c.postHook).handle consistencyError done).andThen
        (setThawed.andThen (fail (.raised .consistency))))
  else done

/-- `application_consistency.thaw` -/
def thaw (c : Call) : Part := fun w =>
  if w.thawed then (w, none)
  else
    (setThawed.andThen
      (if c.applicationConsistent then runHook .postThaw c.postHook else done)) w

/-- `_claim_running_backup`, and the return when another worker has the image. -/
def claimRunningBackup (c : Call) : Part := fun w =>
  match c.claim with
  | .refused => (w, some (.returned true))
  | .raised e stored =>
    (if stored then { w with row := some .running } else w, some (.raised e))
  | .claimed => ({ w with row := some .running }, none)

/-- `_action_cancel_requested` before the snapshot. -/
def checkCancelled (c : Call) : Part :=
  match c.cancelled with
  | .error e => fail (.raised e)
  | .ok true => (markRunningFailed c).andThen (fail (.returned false))
  | .ok false => done

/-- The size of the image and the two capacity probes. -/
def admission (c : Call) : Part :=
  ((call c.imageSize).andThen ((call c.capacity).andThen (call c.sourceCapacity))).handle
    anyException
    ((call (c.progress .refused)).andThen
      ((markRunningFailed c).andThen (fail (.returned false))))

/-- The start of the consistency session. -/
def freeze (c : Call) : Part :=
  (beginSession c).handle consistencyError
    ((call (c.progress .hookFailed)).andThen
      ((markRunningFailed c).andThen (fail (.returned false))))

/-- The command that creates the snapshot. -/
def snapCreate (c : Call) : Part :=
  match c.snapCreate with
  | .created => emit .snapCreated
  | .raised e created => (if created then emit .snapCreated else done).andThen (fail (.raised e))

def snapshotHandler (c : Call) : Part :=
  ((thaw c).handle consistencyError done).andThen
    ((markRunningFailed c).andThen
      ((call (c.progress .snapshotFailed)).andThen (fail (.returned false))))

def createSnapshot (c : Call) : Part := (snapCreate c).handle anyException (snapshotHandler c)

/-- The export over SSH into a temporary file. -/
def exportImage (c : Call) : Part :=
  (call c.connect).andThen
    (((call c.execCommand).andThen
      ((call (c.progress .exporting)).andThen
        ((call c.tempFile).andThen
          ((act fun w => { w with staged := true }).andThen
            ((call c.stream).andThen (call c.exitStatus)))))).ensure (call c.close))

/-- `_action_cancel_requested` before an upload. -/
def checkTarget (t : TargetCall) : Part :=
  match t.cancelled with
  | .error e => fail (.raised e)
  | .ok cancelled => if cancelled then fail (.raised .ordinary) else done

/-- The upload is recorded at once; then its result is compared. -/
def uploadTarget (t : TargetCall) : Part :=
  match t.upload with
  | .error e => fail (.raised e)
  | .ok same =>
    (act fun w =>
      { w with
        log := w.log ++ [.uploaded t.slot]
        uploadedTargets := w.uploadedTargets ++ [t] }).andThen
      (if same then done else fail (.raised .ordinary))

def verifyTarget (t : TargetCall) : Part :=
  match t.verify with
  | .error e => fail (.raised e)
  | .ok verified => if verified then done else fail (.raised .ordinary)

/-- One turn of the upload loop. -/
def uploadOne (t : TargetCall) : Part :=
  (checkTarget t).andThen
    ((call t.openFile).andThen ((uploadTarget t).andThen (verifyTarget t)))

/-- The transaction of the `SUCCESS` rows. -/
def commitRows (c : Call) : Part := fun w =>
  match c.commit with
  | some e => (w, some (.raised e))
  | none =>
    if w.row = some .running then
      ({ w with row := some .success, log := w.log ++ [.committed], succeeded := true }, none)
    else (w, some (.raised .ordinary))

/-- Progress, anomaly check and analysis after the commit. -/
def afterCommit (c : Call) : Part := (call c.analysis).handle anyException done

/-- `backend.delete` of one upload. -/
def deleteOne (t : TargetCall) : Part :=
  ((emit (.deleted t.slot)).andThen (call t.delete)).handle anyException done

/-- The handler of the big `try`. -/
def undoUploads (c : Call) : Part := fun w =>
  ((forEach w.uploadedTargets deleteOne).andThen
    ((call (c.progress .failed)).andThen
      ((markRunningFailed c).andThen
        ((call c.failureAnalysis).andThen (fail (.returned false)))))) w

/-- `os.remove(tmp_path)` -/
def removeTmp (c : Call) : Part := fun w => if w.staged then call c.removeTmp w else (w, none)

/-- `_remove_snapshot_best_effort` of the run's own snapshot. -/
def removeSnapshot (c : Call) : Part := fun w =>
  if c.incremental || !w.succeeded then
    ((emit .snapRm).andThen (call c.snapRm)).handle anyException done w
  else (w, none)

/-- The `finally` of the big `try`. -/
def release (c : Call) : Part :=
  ((thaw c).handle consistencyError (call (c.progress .thawWarning))).andThen
    ((removeTmp c).andThen (removeSnapshot c))

/-- The body of the big `try`. -/
def body (c : Call) : Part :=
  (exportImage c).andThen
    ((forEach c.targets uploadOne).andThen ((commitRows c).andThen (afterCommit c)))

/-- The big `try`. -/
def exportAndCommit (c : Call) : Part :=
  ((body c).handle anyException (undoUploads c)).ensure (release c)

/-! ## The function -/

/-- From the big `try` on. -/
def fromExport (c : Call) : Part :=
  (exportAndCommit c).andThen ((call c.retention).andThen (fail (.returned true)))

def fromSnapshot (c : Call) : Part :=
  (createSnapshot c).andThen
    ((call (c.progress .snapshotTaken)).andThen ((call c.sshCreds).andThen (fromExport c)))

def fromClaim (c : Call) : Part :=
  (checkCancelled c).andThen
    ((call (c.progress .started)).andThen
      ((admission c).andThen ((freeze c).andThen (fromSnapshot c))))

/-- `_run_rbd_backup`; `preflight` is how it ends before it claims the image, as it does
when no target is configured. -/
def runRbdBackup (c : Call) : Part :=
  match c.preflight with
  | some end_ => fail end_
  | none =>
    if c.targets.isEmpty then fail (.returned false)
    else (claimRunningBackup c).andThen (fromClaim c)

/-- What a call leaves. -/
def Call.left (c : Call) : World := (runRbdBackup c start).1

/-! ## What should be left -/

/-- No row is running; a freeze is followed by one thaw; and without a commit every upload is
deleted and the snapshot removed. -/
structure Contained (w : World) : Prop where
  settled : w.row ≠ some .running
  thawed : ∀ before after, w.log = before ++ .preFreeze :: after → after.count .postThaw = 1
  undone : .committed ∉ w.log →
    (∀ slot, .uploaded slot ∈ w.log → .deleted slot ∈ w.log) ∧
      (.snapCreated ∈ w.log → .snapRm ∈ w.log)

/-! ## Which callees fail -/

/-- What ends the export; an error of `client.close` takes the place of the others. -/
def Call.exportFailure (c : Call) : Option Exc :=
  c.connect.or (c.close.or (c.execCommand.or ((c.progress .exporting).or
    (c.tempFile.or (c.stream.or c.exitStatus)))))

/-- There is a temporary file. -/
def Call.staged (c : Call) : Bool :=
  (c.connect.or (c.execCommand.or ((c.progress .exporting).or c.tempFile))).isNone

def TargetCall.uploadFailure (t : TargetCall) : Option Exc :=
  (match t.cancelled with
    | .error e => some e
    | .ok true => some .ordinary
    | .ok false => none).or (t.openFile.or
  (match t.upload with
    | .error e => some e
    | .ok _ => none))

/-- What ends the loop at a target. -/
def TargetCall.failure (t : TargetCall) : Option Exc :=
  t.uploadFailure.or
    ((if t.upload.toOption = some false then some .ordinary else none).or
      (match t.verify with
        | .error e => some e
        | .ok true => none
        | .ok false => some .ordinary))

/-- What ends the loop. -/
def targetsFailure (targets : List TargetCall) : Option Exc :=
  targets.findSome? TargetCall.failure

/-- The targets whose upload returns. -/
def uploadedOf : List TargetCall → List TargetCall
  | [] => []
  | t :: targets =>
    if t.uploadFailure.isSome then []
    else if t.failure.isSome then [t]
    else t :: uploadedOf targets

/-- What ends the big `try` before the commit. -/
def Call.failure (c : Call) : Option Exc :=
  c.exportFailure.or ((targetsFailure c.targets).or c.commit)

def Call.uploaded (c : Call) : List TargetCall :=
  if c.exportFailure.isSome then [] else uploadedOf c.targets

/-- How the post-thaw hook ends. -/
def Call.thawFailure (c : Call) : Option Exc :=
  if c.applicationConsistent then c.postHook else none

/-- The thaw ends, or with an error that its handler logs. -/
def Call.Thaws (c : Call) : Prop := c.thawFailure = none ∨ c.thawFailure = some .consistency

/-- In the `finally` a write of the progress follows the log entry. -/
def Call.ThawLogged (c : Call) : Prop :=
  c.thawFailure = none ∨ c.thawFailure = some .consistency ∧ c.progress .thawWarning = none

/-- The handler of the big `try` goes through. -/
def Call.Undoes (c : Call) : Prop :=
  (∀ t ∈ c.uploaded, t.delete ≠ some .base) ∧ c.progress .failed = none ∧ c.markFailed = none

/-- The `finally` goes through. -/
def Call.Releases (c : Call) (staged : Bool) : Prop :=
  c.ThawLogged ∧ (staged = true → c.removeTmp = none)

/-- The big `try` commits; or it fails with an `Exception`, and its handler and its `finally`
go through. -/
def Call.Exported (c : Call) : Prop :=
  match c.failure with
  | none => True
  | some e => e.isException = true ∧ c.Undoes ∧ c.Releases c.staged

/-- After the freeze: nothing raises between the snapshot and the big `try`; and a snapshot
that is refused was not created. -/
def Call.Snapped (c : Call) : Prop :=
  match c.snapCreate with
  | .created => c.progress .snapshotTaken = none ∧ c.sshCreds = none ∧ c.Exported
  | .raised e created => e.isException = true ∧ created = false ∧ c.Thaws ∧ c.markFailed = none

/-- After the admission: the pre-freeze hook fails with the error of its module only. -/
def Call.Frozen (c : Call) : Prop :=
  match (if c.applicationConsistent then c.preHook else none) with
  | none => c.Snapped
  | some e => e = .consistency ∧ c.Thaws ∧ c.progress .hookFailed = none ∧ c.markFailed = none

/-- Why the backup is not admitted. -/
def Call.admissionFailure (c : Call) : Option Exc :=
  c.imageSize.or (c.capacity.or c.sourceCapacity)

def Call.Admitted (c : Call) : Prop :=
  match c.admissionFailure with
  | none => c.Frozen
  | some e => e.isException = true ∧ c.progress .refused = none ∧ c.markFailed = none

/-- After the claim: the cancellation is read, and the first progress written. -/
def Call.Claimed (c : Call) : Prop :=
  match c.cancelled with
  | .error _ => False
  | .ok true => c.markFailed = none
  | .ok false => c.progress .started = none ∧ c.Admitted

/-- The callees for which a call leaves nothing behind. -/
def Call.Harmless (c : Call) : Prop :=
  c.preflight.isSome = true ∨ c.targets.isEmpty = true ∨
    match c.claim with
    | .refused => True
    | .raised _ stored => stored = false
    | .claimed => c.Claimed

/-! ## What the parts leave -/

theorem call_eq (o : Option Exc) (w : World) : call o w = (w, o.map .raised) := by
  cases o <;> rfl

theorem call_none : call none = done := rfl

/-- What follows a callee. -/
theorem call_andThen (o : Option Exc) (q : Part) (w : World) :
    (call o).andThen q w = match o with
      | none => q w
      | some e => (w, some (.raised e)) := by
  cases o <;> rfl

theorem keeps_call (I : World → Prop) (o : Option Exc) : Keeps I (call o) := by
  intro w hw
  rw [call_eq]
  exact hw

theorem exportImage_eq (c : Call) (w : World) :
    exportImage c w = ({ w with staged := w.staged || c.staged },
      c.exportFailure.map .raised) := by
  unfold exportImage Call.exportFailure Call.staged
  cases hconnect : c.connect with
  | some e => simp [call_andThen]
  | none =>
    simp only [call_andThen, Option.none_or]
    unfold ensure
    cases hexec : c.execCommand with
    | some e => cases hclose : c.close <;> simp [call_eq, call_andThen]
    | none =>
      cases hprogress : c.progress .exporting with
      | some e => cases hclose : c.close <;> simp [call_eq, call_andThen]
      | none =>
        cases htmp : c.tempFile with
        | some e => cases hclose : c.close <;> simp [call_eq, call_andThen]
        | none =>
          cases hstream : c.stream <;> cases hstatus : c.exitStatus <;>
            cases hclose : c.close <;>
              simp [call_eq, act, andThen]

def World.uploads (w : World) (targets : List TargetCall) : World :=
  { w with
    log := w.log ++ targets.map fun t => .uploaded t.slot
    uploadedTargets := w.uploadedTargets ++ targets }

theorem uploadOne_eq (t : TargetCall) (w : World) :
    uploadOne t w = (if t.uploadFailure.isSome then w else w.uploads [t],
      t.failure.map .raised) := by
  obtain ⟨slot, cancelled, openFile, upload, verify, delete⟩ := t
  cases cancelled with
  | error e => rfl
  | ok cancelled =>
    cases cancelled with
    | true => rfl
    | false =>
      cases openFile with
      | some e => rfl
      | none =>
        cases upload with
        | error e => rfl
        | ok same =>
          cases same with
          | false => rfl
          | true =>
            cases verify with
            | error e => rfl
            | ok verified => cases verified <;> rfl

theorem uploads_eq (targets : List TargetCall) : ∀ w : World,
    forEach targets uploadOne w =
      (w.uploads (uploadedOf targets), (targetsFailure targets).map .raised) := by
  induction targets with
  | nil =>
    intro w
    simp [World.uploads, uploadedOf, targetsFailure, done]
  | cons t targets ih =>
    intro w
    have hone := uploadOne_eq t w
    unfold targetsFailure uploadedOf
    rw [forEach_cons, List.findSome?_cons]
    cases hfailure : t.failure with
    | some e =>
      rw [hfailure] at hone
      rw [andThen_of_stop hone]
      by_cases hupload : t.uploadFailure.isSome = true
      · simp [hupload, World.uploads]
      · simp [hupload, World.uploads]
    | none =>
      have hupload : t.uploadFailure.isSome = false := by
        unfold TargetCall.failure at hfailure
        rw [(Option.or_eq_none_iff.mp hfailure).1]
        rfl
      rw [hfailure, hupload] at hone
      rw [andThen_of_ok hone, ih]
      simp [hupload, World.uploads, targetsFailure]

/-- The world when the big `try` fails. -/
def World.failed (w : World) (c : Call) : World :=
  { w.uploads c.uploaded with staged := w.staged || c.staged }

def World.committed (w : World) (c : Call) : World :=
  { w.failed c with
    row := some .success
    log := (w.failed c).log ++ [.committed]
    succeeded := true }

variable {c : Call} {w : World}

theorem body_failed {e : Exc} (h : c.failure = some e) (w : World) :
    body c w = (w.failed c, some (.raised e)) := by
  have hexport := exportImage_eq c w
  unfold Call.failure at h
  unfold body World.failed Call.uploaded
  cases hexp : c.exportFailure with
  | some e' =>
    rw [hexp, Option.some_or, Option.some.injEq] at h
    rw [hexp, h] at hexport
    rw [andThen_of_stop hexport]
    simp [World.uploads]
  | none =>
    rw [hexp, Option.none_or] at h
    rw [hexp] at hexport
    rw [andThen_of_ok hexport]
    have huploads := uploads_eq c.targets { w with staged := w.staged || c.staged }
    cases htargets : targetsFailure c.targets with
    | some e' =>
      rw [htargets, Option.some_or, Option.some.injEq] at h
      rw [htargets, h] at huploads
      rw [andThen_of_stop huploads]
      rfl
    | none =>
      rw [htargets, Option.none_or] at h
      rw [htargets] at huploads
      rw [andThen_of_ok huploads]
      unfold commitRows
      rw [andThen_of_stop (e := .raised e) (by rw [h])]
      rfl

theorem body_done (h : c.failure = none) (hrow : w.row = some .running) :
    body c w = (w.committed c, none) ∨ body c w = (w.committed c, some (.raised .base)) := by
  have hexport := exportImage_eq c w
  unfold Call.failure at h
  obtain ⟨hexp, hrest⟩ := Option.or_eq_none_iff.mp h
  obtain ⟨htargets, hcommit⟩ := Option.or_eq_none_iff.mp hrest
  have huploads := uploads_eq c.targets { w with staged := w.staged || c.staged }
  rw [hexp] at hexport
  rw [htargets] at huploads
  have hcommitted : (commitRows c).Ok
      (World.uploads { w with staged := w.staged || c.staged } (uploadedOf c.targets))
      (w.committed c) := by
    unfold Ok commitRows World.committed World.failed Call.uploaded
    rw [hcommit, hexp]
    exact if_pos hrow
  unfold body
  rw [andThen_of_ok hexport, andThen_of_ok huploads, andThen_of_ok hcommitted]
  unfold afterCommit
  cases hanalysis : c.analysis with
  | none => exact .inl rfl
  | some e =>
    cases e with
    | base => exact .inr rfl
    | consistency | ordinary => exact .inl rfl

/-! ## What the handlers leave -/

theorem deleteOne_eq (t : TargetCall) (w : World) :
    deleteOne t w = ({ w with log := w.log ++ [.deleted t.slot] },
      if t.delete = some .base then some (.raised .base) else none) := by
  obtain ⟨slot, cancelled, openFile, upload, verify, delete⟩ := t
  cases delete with
  | none => rfl
  | some e => cases e <;> rfl

theorem deletes_eq (targets : List TargetCall) (h : ∀ t ∈ targets, t.delete ≠ some .base) :
    ∀ w : World, (forEach targets deleteOne).Ok w
      { w with log := w.log ++ targets.map fun t => .deleted t.slot } := by
  induction targets with
  | nil =>
    intro w
    simp
  | cons t targets ih =>
    intro w
    have hone := deleteOne_eq t w
    rw [if_neg (h t List.mem_cons_self)] at hone
    rw [ok_forEach_cons_iff]
    refine ⟨_, hone, ?_⟩
    have hrest := ih (fun t' ht' => h t' (List.mem_cons_of_mem t ht'))
      { w with log := w.log ++ [.deleted t.slot] }
    rw [List.append_assoc] at hrest
    exact hrest

theorem deletes_base {targets : List TargetCall} (h : ∃ t ∈ targets, t.delete = some .base) :
    ∀ w : World, (forEach targets deleteOne w).2 = some (.raised .base) := by
  induction targets with
  | nil =>
    obtain ⟨t, ht, _⟩ := h
    cases ht
  | cons t targets ih =>
    intro w
    have hone := deleteOne_eq t w
    rw [forEach_cons]
    by_cases hbase : t.delete = some .base
    · rw [if_pos hbase] at hone
      rw [andThen_of_stop hone]
    · rw [if_neg hbase] at hone
      rw [andThen_of_ok hone]
      apply ih
      obtain ⟨t', ht', hbase'⟩ := h
      rcases List.mem_cons.mp ht' with rfl | ht'
      · exact absurd hbase' hbase
      · exact ⟨t', ht', hbase'⟩

theorem keeps_deletes (row : Option JobStatus) (targets : List TargetCall) :
    Keeps (fun w => w.row = row) (forEach targets deleteOne) := by
  apply keeps_forEach
  intro t _ w hw
  rw [deleteOne_eq]
  exact hw

theorem undo_done (hrow : w.row = some .running)
    (hdelete : ∀ t ∈ w.uploadedTargets, t.delete ≠ some .base)
    (hprogress : c.progress .failed = none) (hmark : c.markFailed = none) :
    (undoUploads c w).1 =
      { w with
        row := some .failed
        log := w.log ++ w.uploadedTargets.map fun t => .deleted t.slot } := by
  unfold undoUploads
  rw [andThen_of_ok (deletes_eq w.uploadedTargets hdelete w), hprogress]
  show ((markRunningFailed c).andThen _ _).1 = _
  have hmarked : (markRunningFailed c).Ok
      { w with log := w.log ++ w.uploadedTargets.map fun t => .deleted t.slot }
      { w with
        row := some .failed
        log := w.log ++ w.uploadedTargets.map fun t => .deleted t.slot } := by
    unfold Ok markRunningFailed
    rw [hmark, hrow]
    rfl
  rw [andThen_of_ok hmarked, call_andThen]
  cases c.failureAnalysis <;> rfl

theorem undo_stuck (hrow : w.row = some .running)
    (h : ¬ ((∀ t ∈ w.uploadedTargets, t.delete ≠ some .base) ∧ c.progress .failed = none ∧
      c.markFailed = none)) :
    (undoUploads c w).1.row = some .running := by
  have hkept := keeps_deletes (some .running) w.uploadedTargets w hrow
  unfold undoUploads
  by_cases hdelete : ∀ t ∈ w.uploadedTargets, t.delete ≠ some .base
  · have hok := deletes_eq w.uploadedTargets hdelete w
    rw [andThen_of_ok hok, call_andThen]
    cases hprogress : c.progress .failed with
    | some e => exact hrow
    | none =>
      cases hmark : c.markFailed with
      | none => exact absurd ⟨hdelete, hprogress, hmark⟩ h
      | some e =>
        rw [andThen_of_error (e := .raised e) (by unfold markRunningFailed; rw [hmark])]
        unfold markRunningFailed
        rw [hmark]
        exact hrow
  · have hbase : ∃ t ∈ w.uploadedTargets, t.delete = some .base := by
      by_contra hno
      apply hdelete
      intro t ht heq
      exact hno ⟨t, ht, heq⟩
    rw [andThen_of_error (deletes_base hbase w)]
    exact hkept

/-- The hook that a thaw starts. -/
def Call.thawEvents (c : Call) : List Event :=
  if c.applicationConsistent then [.postThaw] else []

section

variable (c : Call)

theorem thaw_eq (h : w.thawed = false) :
    thaw c w = ({ w with thawed := true, log := w.log ++ c.thawEvents },
      c.thawFailure.map .raised) := by
  unfold thaw Call.thawEvents Call.thawFailure
  rw [h]
  cases c.applicationConsistent with
  | false => simp [andThen, setThawed, act, done]
  | true => cases c.postHook <;> rfl

theorem removeSnapshot_eq (w : World) :
    (removeSnapshot c w).1 =
      if c.incremental || !w.succeeded then { w with log := w.log ++ [.snapRm] } else w := by
  unfold removeSnapshot
  split_ifs
  · cases c.snapRm with
    | none => rfl
    | some e => cases e <;> rfl
  · rfl

theorem thaw_handled (o : Option Exc) (hthawed : w.thawed = false) :
    ∃ end_, (thaw c).handle consistencyError (call o) w =
        ({ w with thawed := true, log := w.log ++ c.thawEvents }, end_) ∧
      (end_ = none ↔ c.thawFailure = none ∨ c.thawFailure = some .consistency ∧ o = none) := by
  have hthaw := thaw_eq c hthawed
  cases hfailure : c.thawFailure with
  | none =>
    rw [hfailure] at hthaw
    exact ⟨none, handle_of_ok hthaw, by simp⟩
  | some e =>
    rw [hfailure] at hthaw
    cases hcatch : consistencyError (.raised e) with
    | false =>
      have he : e ≠ .consistency := by
        intro he
        rw [he] at hcatch
        cases hcatch
      exact ⟨_, handle_of_uncaught hthaw hcatch, by simp [he]⟩
    | true =>
      have he : e = .consistency := eq_of_beq hcatch
      refine ⟨_, (handle_of_caught hthaw hcatch).trans (call_eq _ _), ?_⟩
      simp [he]

theorem removeTmp_eq (w : World) :
    removeTmp c w = (w, if w.staged then c.removeTmp.map .raised else none) := by
  unfold removeTmp
  split_ifs
  · exact call_eq _ _
  · rfl

/-- **The `finally`** thaws; when the thaw and the temporary file let it, it removes the
snapshot of a run that did not commit. -/
theorem release_eq (hthawed : w.thawed = false) :
    ∃ tail, (release c w).1 =
        { w with thawed := true, log := w.log ++ c.thawEvents ++ tail } ∧
      (∀ event ∈ tail, event = .snapRm) ∧
      (w.succeeded = false → (.snapRm ∈ tail ↔ c.Releases w.staged)) := by
  obtain ⟨end_, hthaw, hlogged⟩ := thaw_handled c (c.progress .thawWarning) hthawed
  unfold release Call.Releases Call.ThawLogged
  cases end_ with
  | some e =>
    rw [andThen_of_stop hthaw, ← hlogged]
    exact ⟨[], by simp, by simp, by simp⟩
  | none =>
    rw [andThen_of_ok hthaw, ← hlogged]
    have htmp := removeTmp_eq c { w with thawed := true, log := w.log ++ c.thawEvents }
    cases hend : (if w.staged then c.removeTmp.map Exit.raised else none) with
    | some e =>
      rw [hend] at htmp
      rw [andThen_of_stop htmp]
      refine ⟨[], by simp, by simp, fun _ => ?_⟩
      cases hstaged : w.staged with
      | false => simp [hstaged] at hend
      | true => simpa [hstaged] using fun hnone => by simp [hstaged, hnone] at hend
    | none =>
      rw [hend] at htmp
      rw [andThen_of_ok htmp, removeSnapshot_eq]
      have hfree : w.staged = true → c.removeTmp = none := by
        intro hstaged
        rw [if_pos hstaged] at hend
        exact Option.map_eq_none_iff.mp hend
      by_cases hremoves : (c.incremental || !w.succeeded) = true
      · refine ⟨[.snapRm], if_pos hremoves, by simp, fun _ => ?_⟩
        simpa using hfree
      · refine ⟨[], by rw [if_neg hremoves, List.append_nil], by simp, ?_⟩
        intro hsucceeded
        simp [hsucceeded] at hremoves

end

/-! ## What a log shows -/

/-- The hook that a freeze starts. -/
def Call.freezeEvents (c : Call) : List Event :=
  if c.applicationConsistent then [.preFreeze] else []

/-- Neither hook. -/
def Event.isHook : Event → Bool
  | .preFreeze => true
  | .postThaw => true
  | _ => false

theorem hook_notMem {events : List Event} {event : Event} (hhook : event.isHook = true)
    (h : ∀ event ∈ events, event.isHook = false) : event ∉ events := by
  intro hmem
  rw [h event hmem] at hhook
  cases hhook

theorem thawed_once (c : Call) (between tail : List Event)
    (hbetween : ∀ event ∈ between, event.isHook = false)
    (htail : ∀ event ∈ tail, event.isHook = false) (before after : List Event)
    (hlog : c.freezeEvents ++ (between ++ (c.thawEvents ++ tail)) = before ++ .preFreeze :: after) :
    after.count .postThaw = 1 := by
  have hpre : Event.isHook .preFreeze = true := rfl
  have hpost : Event.isHook .postThaw = true := rfl
  have hfree : .preFreeze ∉ between ++ (c.thawEvents ++ tail) := by
    have hthaw : .preFreeze ∉ c.thawEvents := by
      unfold Call.thawEvents
      split_ifs <;> simp
    simp [hook_notMem hpre hbetween, hthaw, hook_notMem hpre htail]
  unfold Call.freezeEvents at hlog
  cases happ : c.applicationConsistent with
  | false =>
    rw [happ, if_neg (by simp), List.nil_append] at hlog
    rw [hlog] at hfree
    exact absurd (by simp) hfree
  | true =>
    rw [happ, if_pos rfl, List.singleton_append] at hlog
    cases before with
    | cons event before =>
      rw [List.cons_append, List.cons.injEq] at hlog
      rw [hlog.2] at hfree
      exact absurd (by simp) hfree
    | nil =>
      rw [List.nil_append, List.cons.injEq] at hlog
      unfold Call.thawEvents at hlog
      rw [happ, if_pos rfl] at hlog
      rw [← hlog.2]
      simp [List.count_eq_zero.mpr (hook_notMem hpost hbetween),
        List.count_eq_zero.mpr (hook_notMem hpost htail)]

theorem not_contained (h : w.row = some .running) : ¬ Contained w :=
  fun hcontained => hcontained.settled h

/-! ## The big `try` -/

/-- After the snapshot. -/
def snapped (c : Call) : World :=
  { start with row := some .running, log := c.freezeEvents ++ [.snapCreated] }

theorem fromExport_fst (c : Call) (w : World) :
    (fromExport c w).1 = (release c
      ((body c).handle anyException (undoUploads c) w).1).1 := by
  have hbig : (exportAndCommit c w).1 = (release c
      ((body c).handle anyException (undoUploads c) w).1).1 := ensure_fst _ _ w
  rw [← hbig]
  unfold fromExport
  cases hrun : exportAndCommit c w with
  | mk w' end_ =>
    cases end_ with
    | some e => rw [andThen_of_stop hrun]
    | none =>
      rw [andThen_of_ok hrun, call_andThen]
      cases c.retention <;> rfl

theorem keeps_release (c : Call) (row : Option JobStatus) :
    Keeps (fun w => w.row = row) (release c) := by
  have hthaw : Keeps (fun w => w.row = row) (thaw c) := by
    intro w hw
    cases hthawed : w.thawed with
    | true =>
      unfold thaw
      rw [if_pos hthawed]
      exact hw
    | false =>
      rw [thaw_eq c hthawed]
      exact hw
  have htmp : Keeps (fun w => w.row = row) (removeTmp c) := by
    intro w hw
    rw [removeTmp_eq]
    exact hw
  have hsnapshot : Keeps (fun w => w.row = row) (removeSnapshot c) := by
    intro w hw
    rw [removeSnapshot_eq]
    split_ifs
    · exact hw
    · exact hw
  exact keeps_andThen (keeps_handle hthaw (keeps_call _ _)) (keeps_andThen htmp hsnapshot)

/-- The world when the handler has gone through. -/
def World.undone (w : World) (c : Call) : World :=
  { w.failed c with
    row := some .failed
    log := (w.failed c).log ++ c.uploaded.map fun t => .deleted t.slot }

section

variable (c : Call)

theorem committed_log : ((snapped c).committed c).log =
    c.freezeEvents ++ (.snapCreated ::
      ((c.uploaded.map fun t => .uploaded t.slot) ++ [.committed])) := by
  simp [World.committed, World.failed, World.uploads, snapped]

theorem undone_log : ((snapped c).undone c).log =
    c.freezeEvents ++ (.snapCreated ::
      ((c.uploaded.map fun t => .uploaded t.slot) ++
        c.uploaded.map fun t => .deleted t.slot)) := by
  simp [World.undone, World.failed, World.uploads, snapped]

theorem contained_committed : Contained (release c ((snapped c).committed c)).1 := by
  obtain ⟨tail, hrelease, htail, _⟩ := release_eq c (w := (snapped c).committed c) rfl
  rw [hrelease, committed_log]
  constructor
  · intro hrow
    cases hrow
  · intro before after hlog
    dsimp only at hlog
    rw [List.append_assoc, List.append_assoc] at hlog
    refine thawed_once c _ tail ?_ ?_ before after hlog
    · intro event hevent
      simp only [List.mem_cons, List.mem_append, List.mem_map, List.not_mem_nil, or_false]
        at hevent
      rcases hevent with rfl | ⟨t, _, rfl⟩ | rfl <;> rfl
    · intro event hevent
      rw [htail event hevent]
      rfl
  · intro hcommitted
    exact absurd (by simp) hcommitted

theorem contained_undone_iff :
    Contained (release c ((snapped c).undone c)).1 ↔ c.Releases c.staged := by
  obtain ⟨tail, hrelease, htail, hremoved⟩ := release_eq c (w := (snapped c).undone c) rfl
  have hremoves : .snapRm ∈ tail ↔ c.Releases c.staged := hremoved rfl
  have hthaw : .snapRm ∉ c.thawEvents ∧ .committed ∉ c.thawEvents ∧
      .snapRm ∉ c.freezeEvents ∧ .committed ∉ c.freezeEvents := by
    unfold Call.thawEvents Call.freezeEvents
    split_ifs <;> simp
  have hcommitted : .committed ∉ tail := by
    intro hmem
    cases htail _ hmem
  rw [hrelease, undone_log, ← hremoves]
  constructor
  · intro hcontained
    have hall := (hcontained.undone (by simp [hthaw, hcommitted])).2 (by simp)
    simpa [hthaw] using hall
  · intro hmem
    constructor
    · intro hrow
      cases hrow
    · intro before after hlog
      dsimp only at hlog
      rw [List.append_assoc, List.append_assoc] at hlog
      refine thawed_once c _ tail ?_ ?_ before after hlog
      · intro event hevent
        simp only [List.mem_cons, List.mem_append, List.mem_map] at hevent
        rcases hevent with rfl | ⟨t, _, rfl⟩ | ⟨t, _, rfl⟩ <;> rfl
      · intro event hevent
        rw [htail event hevent]
        rfl
    · intro _
      constructor
      · intro slot hslot
        have hfree : .uploaded slot ∉ c.thawEvents ∧ .uploaded slot ∉ c.freezeEvents := by
          unfold Call.thawEvents Call.freezeEvents
          split_ifs <;> simp
        have htailFree : .uploaded slot ∉ tail := by
          intro huploaded
          cases htail _ huploaded
        have hupload : ∃ t ∈ c.uploaded, t.slot = slot := by
          simpa [hfree, htailFree] using hslot
        obtain ⟨t, ht, rfl⟩ := hupload
        simp only [List.mem_append, List.mem_cons, List.mem_map]
        exact .inl (.inl (.inr (.inr (.inr ⟨t, ht, rfl⟩))))
      · intro _
        simp [hmem]

/-- **The big `try` leaves nothing behind** when it commits, and otherwise when its handler
and its `finally` go through. -/
theorem exported_iff : Contained (fromExport c (snapped c)).1 ↔ c.Exported := by
  rw [fromExport_fst]
  unfold Call.Exported
  cases hfailure : c.failure with
  | none =>
    have hhandled : ((body c).handle anyException (undoUploads c) (snapped c)).1 =
        (snapped c).committed c := by
      rcases body_done hfailure (w := snapped c) rfl with hok | hbase
      · rw [handle_of_ok hok]
      · rw [handle_of_uncaught hbase rfl]
    rw [hhandled]
    exact iff_of_true (contained_committed c) trivial
  | some e =>
    have hbody := body_failed hfailure (snapped c)
    cases hcatch : e.isException with
    | false =>
      rw [handle_of_uncaught hbody hcatch]
      refine iff_of_false (not_contained (keeps_release c _ _ rfl)) ?_
      intro h
      exact Bool.false_ne_true (hcatch.symm.trans h.1)
    | true =>
      rw [handle_of_caught hbody hcatch]
      by_cases hundo : c.Undoes
      · have hundone : (undoUploads c ((snapped c).failed c)).1 = (snapped c).undone c :=
          undo_done rfl hundo.1 hundo.2.1 hundo.2.2
        rw [hundone, contained_undone_iff]
        exact ⟨fun h => ⟨hcatch, hundo, h⟩, fun h => h.2.2⟩
      · exact iff_of_false (not_contained (keeps_release c _ _ (undo_stuck rfl hundo)))
          (fun h => hundo h.2.1)

end

/-! ## The snapshot -/

/-- After the freeze. -/
def frozen (c : Call) : World := { start with row := some .running, log := c.freezeEvents }

section

variable (c : Call)

theorem mark_eq (hrow : w.row = some .running) :
    markRunningFailed c w = (if c.markFailed.isSome then w else { w with row := some .failed },
      c.markFailed.map .raised) := by
  unfold markRunningFailed
  cases c.markFailed with
  | some e => rfl
  | none => simp [hrow]

theorem snapshotHandler_stops : Stops (snapshotHandler c) :=
  (((stops_fail _).after _).after _).after _

theorem snapshotHandler_fst (hthawed : w.thawed = false) (hrow : w.row = some .running) :
    ∃ row, (snapshotHandler c w).1 =
        { w with row := row, thawed := true, log := w.log ++ c.thawEvents } ∧
      (row = some .failed ↔ c.Thaws ∧ c.markFailed = none) ∧
      (row = some .running ∨ row = some .failed) := by
  obtain ⟨end_, hthaw, hquiet⟩ := thaw_handled c none hthawed
  have hthaws : end_ = none ↔ c.Thaws := by
    rw [hquiet]
    unfold Call.Thaws
    simp
  rw [call_none] at hthaw
  unfold snapshotHandler
  rw [← hthaws]
  cases end_ with
  | some e =>
    rw [andThen_of_stop hthaw]
    exact ⟨_, rfl, by simp [hrow], .inl hrow⟩
  | none =>
    rw [andThen_of_ok hthaw]
    have hmark := mark_eq c (w := { w with thawed := true, log := w.log ++ c.thawEvents }) hrow
    cases hfailed : c.markFailed with
    | some e =>
      rw [hfailed] at hmark
      rw [andThen_of_stop hmark]
      exact ⟨_, rfl, by simp [hrow], .inl hrow⟩
    | none =>
      rw [hfailed] at hmark
      rw [andThen_of_ok hmark, call_andThen]
      refine ⟨some .failed, ?_, by simp, .inr rfl⟩
      cases c.progress .snapshotFailed <;> rfl

theorem contained_failed (hrow : w.row = some .failed)
    (hlog : w.log = c.freezeEvents ++ c.thawEvents) : Contained w := by
  have hnone : ∀ event ∈ c.freezeEvents ++ c.thawEvents, event.isHook = true := by
    unfold Call.freezeEvents Call.thawEvents
    split_ifs <;> simp [Event.isHook]
  constructor
  · rw [hrow]
    intro hrunning
    cases hrunning
  · intro before after hafter
    rw [hlog] at hafter
    apply thawed_once c [] [] (by simp) (by simp) before after
    rw [← hafter, List.nil_append, List.append_nil]
  · intro _
    rw [hlog]
    constructor
    · intro slot hslot
      cases hnone _ hslot
    · intro hcreated
      cases hnone _ hcreated

theorem not_contained_created
    (hlog : w.log = c.freezeEvents ++ [.snapCreated] ++ c.thawEvents) : ¬ Contained w := by
  intro hcontained
  have hundone := hcontained.undone
  rw [hlog] at hundone
  unfold Call.freezeEvents Call.thawEvents at hundone
  split_ifs at hundone <;> simp at hundone

/-- **From the snapshot on.** -/
theorem snapped_iff : Contained (fromSnapshot c (frozen c)).1 ↔ c.Snapped := by
  unfold fromSnapshot Call.Snapped
  cases hcreate : c.snapCreate with
  | created =>
    have hok : (createSnapshot c).Ok (frozen c) (snapped c) := by
      apply handle_of_ok
      unfold Ok snapCreate
      rw [hcreate]
      rfl
    rw [andThen_of_ok hok, call_andThen]
    cases hprogress : c.progress .snapshotTaken with
    | some e => exact iff_of_false (not_contained rfl) (by simp)
    | none =>
      dsimp only
      rw [call_andThen]
      cases hcreds : c.sshCreds with
      | some e => exact iff_of_false (not_contained rfl) (by simp)
      | none =>
        dsimp only
        rw [exported_iff]
        simp
  | raised e created =>
    dsimp only
    have hraised : snapCreate c (frozen c) =
        (if created then snapped c else frozen c, some (.raised e)) := by
      unfold snapCreate
      rw [hcreate]
      cases created <;> rfl
    have hrow : (if created then snapped c else frozen c).row = some .running := by
      cases created <;> rfl
    cases hcatch : e.isException with
    | false =>
      have hout : createSnapshot c (frozen c) =
          (if created then snapped c else frozen c, some (.raised e)) :=
        handle_of_uncaught hraised hcatch
      rw [andThen_of_stop hout]
      refine iff_of_false (not_contained hrow) ?_
      intro h
      exact Bool.false_ne_true h.1
    | true =>
      have hhandled : createSnapshot c (frozen c) =
          snapshotHandler c (if created then snapped c else frozen c) :=
        handle_of_caught hraised hcatch
      have hstops : (createSnapshot c (frozen c)).2 ≠ none := by
        rw [hhandled]
        exact snapshotHandler_stops c _
      have hthawed : (if created then snapped c else frozen c).thawed = false := by
        cases created <;> rfl
      obtain ⟨row, hleft, hfailed, hrows⟩ := snapshotHandler_fst c hthawed hrow
      rw [andThen_of_ne_none hstops, hhandled, hleft]
      cases created with
      | true =>
        exact iff_of_false (not_contained_created c rfl)
          (fun h => Bool.false_ne_true h.2.1.symm)
      | false =>
        rcases hrows with hrunning | hrow'
        · refine iff_of_false (not_contained hrunning) ?_
          intro h
          rw [hfailed.mpr h.2.2] at hrunning
          cases hrunning
        · refine iff_of_true (contained_failed c hrow' rfl) ?_
          exact ⟨rfl, rfl, hfailed.mp hrow'⟩

end

/-! ## Before the snapshot -/

/-- After the claim. -/
def claimed : World := { start with row := some .running }

theorem refuse_contained_iff (c : Call) (o : Option Exc) (hrow : w.row = some .running)
    (hfailed : Contained { w with row := some .failed }) :
    Contained (((call o).andThen
      ((markRunningFailed c).andThen (fail (.returned false) : Part))) w).1 ↔
      o = none ∧ c.markFailed = none := by
  rw [call_andThen]
  cases o with
  | some e => exact iff_of_false (not_contained hrow) (by simp)
  | none =>
    have hmark := mark_eq c hrow
    cases hfails : c.markFailed with
    | some e =>
      rw [hfails] at hmark
      dsimp only
      rw [andThen_of_stop hmark]
      exact iff_of_false (not_contained hrow) (by simp)
    | none =>
      rw [hfails] at hmark
      dsimp only
      rw [andThen_of_ok hmark]
      exact iff_of_true hfailed ⟨rfl, rfl⟩

theorem freeze_plain (happ : c.applicationConsistent = false) :
    (freeze c).Ok claimed (frozen c) := by
  apply handle_of_ok
  unfold beginSession frozen Call.freezeEvents
  rw [happ]
  rfl

theorem freeze_hooked (happ : c.applicationConsistent = true) (hpre : c.preHook = none) :
    (freeze c).Ok claimed (frozen c) := by
  apply handle_of_ok
  unfold beginSession frozen Call.freezeEvents
  rw [happ, hpre]
  rfl

/-- The world when the pre-freeze hook has failed and the post-thaw hook been started. -/
def refrozen (c : Call) : World :=
  { claimed with log := c.freezeEvents ++ c.thawEvents, thawed := true }

section

variable (happ : c.applicationConsistent = true)
include happ

theorem Call.thaws_iff : c.Thaws ↔ c.postHook = none ∨ c.postHook = some .consistency := by
  unfold Call.Thaws Call.thawFailure
  rw [if_pos happ]

theorem beginSession_failed (hpre : c.preHook = some .consistency) (hthaws : c.Thaws) :
    beginSession c claimed = (refrozen c, some (.raised .consistency)) := by
  rw [Call.thaws_iff happ] at hthaws
  unfold beginSession refrozen Call.freezeEvents Call.thawEvents
  rw [happ, hpre]
  rcases hthaws with hpost | hpost
  · rw [hpost]
    rfl
  · rw [hpost]
    rfl

theorem beginSession_stuck {e : Exc}
    (hpre : c.preHook = some e) (h : ¬ (e = .consistency ∧ c.Thaws)) :
    ∃ w e', beginSession c claimed = (w, some (.raised e')) ∧
      consistencyError (.raised e') = false ∧ w.row = some .running := by
  rw [Call.thaws_iff happ] at h
  unfold beginSession
  rw [happ, hpre]
  cases e with
  | base => exact ⟨_, .base, rfl, rfl, rfl⟩
  | ordinary => exact ⟨_, .ordinary, rfl, rfl, rfl⟩
  | consistency =>
    cases hpost : c.postHook with
    | none => exact absurd ⟨rfl, .inl hpost⟩ h
    | some e' =>
      cases e' with
      | consistency => exact absurd ⟨rfl, .inr hpost⟩ h
      | base => exact ⟨_, .base, rfl, rfl, rfl⟩
      | ordinary => exact ⟨_, .ordinary, rfl, rfl, rfl⟩

end

/-- **From the freeze on.** -/
theorem frozen_iff (c : Call) :
    Contained ((freeze c).andThen (fromSnapshot c) claimed).1 ↔ c.Frozen := by
  unfold Call.Frozen
  cases happ : c.applicationConsistent with
  | false =>
    rw [andThen_of_ok (freeze_plain happ), snapped_iff]
    rfl
  | true =>
    rw [if_pos rfl]
    cases hpre : c.preHook with
    | none => rw [andThen_of_ok (freeze_hooked happ hpre), snapped_iff]
    | some e =>
      by_cases hfailed : e = .consistency ∧ c.Thaws
      · have hbegin := beginSession_failed happ (hpre.trans (congrArg some hfailed.1))
          hfailed.2
        have hhandled : freeze c claimed = _ := handle_of_caught hbegin rfl
        have hstops : (freeze c claimed).2 ≠ none := by
          rw [hhandled]
          exact ((stops_fail _).after _).after _ _
        rw [andThen_of_ne_none hstops, hhandled,
          refuse_contained_iff c _ rfl (contained_failed c rfl rfl)]
        exact ⟨fun h => ⟨hfailed.1, hfailed.2, h⟩, fun h => h.2.2⟩
      · obtain ⟨w, e', hbegin, hcatch, hrow⟩ := beginSession_stuck happ hpre hfailed
        have hout : freeze c claimed = (w, some (.raised e')) :=
          handle_of_uncaught hbegin hcatch
        rw [andThen_of_stop hout]
        exact iff_of_false (not_contained hrow) (fun h => hfailed ⟨h.1, h.2.1⟩)

theorem admission_body (c : Call) (w : World) :
    ((call c.imageSize).andThen ((call c.capacity).andThen (call c.sourceCapacity))) w =
      (w, c.admissionFailure.map .raised) := by
  unfold Call.admissionFailure
  rw [call_andThen]
  cases c.imageSize with
  | some e => rfl
  | none =>
    dsimp only
    rw [call_andThen]
    cases c.capacity with
    | some e => rfl
    | none => exact call_eq _ _

theorem contained_claimed : Contained { claimed with row := some .failed } := by
  constructor
  · intro hrow
    cases hrow
  · intro before after hlog
    cases before <;> cases hlog
  · intro _
    constructor
    · intro slot hslot
      cases hslot
    · intro hcreated
      cases hcreated

/-- **From the admission on.** -/
theorem admitted_iff (c : Call) :
    Contained ((admission c).andThen ((freeze c).andThen (fromSnapshot c)) claimed).1 ↔
      c.Admitted := by
  have hbody := admission_body c claimed
  unfold Call.Admitted
  cases hfailure : c.admissionFailure with
  | none =>
    rw [hfailure] at hbody
    have hadmitted : (admission c).Ok claimed claimed := handle_of_ok hbody
    rw [andThen_of_ok hadmitted, frozen_iff]
  | some e =>
    rw [hfailure] at hbody
    cases hcatch : e.isException with
    | false =>
      have hout : admission c claimed = (claimed, some (.raised e)) :=
        handle_of_uncaught hbody hcatch
      rw [andThen_of_stop hout]
      refine iff_of_false (not_contained rfl) ?_
      intro h
      exact Bool.false_ne_true (hcatch.symm.trans h.1)
    | true =>
      have hhandled : admission c claimed = _ := handle_of_caught hbody hcatch
      have hstops : (admission c claimed).2 ≠ none := by
        rw [hhandled]
        exact ((stops_fail _).after _).after _ _
      rw [andThen_of_ne_none hstops, hhandled,
        refuse_contained_iff c _ rfl contained_claimed]
      exact ⟨fun h => ⟨hcatch, h⟩, fun h => h.2⟩

/-- **From the claim on.** -/
theorem claimed_iff (c : Call) : Contained (fromClaim c claimed).1 ↔ c.Claimed := by
  unfold fromClaim Call.Claimed
  cases hcancelled : c.cancelled with
  | error e =>
    have hout : checkCancelled c claimed = (claimed, some (.raised e)) := by
      unfold checkCancelled
      rw [hcancelled]
      rfl
    rw [andThen_of_stop hout]
    exact iff_of_false (not_contained rfl) id
  | ok cancelled =>
    cases cancelled with
    | true =>
      have hcheck : checkCancelled c =
          (call none).andThen ((markRunningFailed c).andThen (fail (.returned false))) := by
        unfold checkCancelled
        rw [hcancelled]
        rfl
      have hstops : (checkCancelled c claimed).2 ≠ none := by
        rw [hcheck]
        exact ((stops_fail _).after _).after _ _
      rw [andThen_of_ne_none hstops, hcheck,
        refuse_contained_iff c none rfl contained_claimed]
      simp
    | false =>
      have hok : (checkCancelled c).Ok claimed claimed := by
        unfold Ok checkCancelled
        rw [hcancelled]
        rfl
      rw [andThen_of_ok hok, call_andThen]
      cases hprogress : c.progress .started with
      | some e => exact iff_of_false (not_contained rfl) (by simp)
      | none =>
        dsimp only
        rw [admitted_iff]
        simp

theorem contained_start : Contained start := by
  constructor
  · intro hrow
    cases hrow
  · intro before after hlog
    cases before <;> cases hlog
  · intro _
    constructor
    · intro slot hslot
      cases hslot
    · intro hcreated
      cases hcreated

/-- **What a backup leaves behind.**  A call leaves no running row, no frozen application, no
upload and no snapshot exactly when its callees are harmless. -/
theorem contained_iff (c : Call) : Contained c.left ↔ c.Harmless := by
  unfold Call.left runRbdBackup Call.Harmless
  cases hpreflight : c.preflight with
  | some end_ => exact iff_of_true contained_start (.inl rfl)
  | none =>
    dsimp only
    split_ifs with htargets
    · exact iff_of_true contained_start (.inr (.inl htargets))
    · have hrest : ∀ p : Prop, (none : Option Exit).isSome = true ∨
          c.targets.isEmpty = true ∨ p ↔ p := by
        intro p
        simp [htargets]
      rw [hrest]
      cases hclaim : c.claim with
      | refused =>
        have hout : claimRunningBackup c start = (start, some (.returned true)) := by
          unfold claimRunningBackup
          rw [hclaim]
        rw [andThen_of_stop hout]
        exact iff_of_true contained_start trivial
      | raised e stored =>
        have hout : claimRunningBackup c start =
            (if stored then claimed else start, some (.raised e)) := by
          unfold claimRunningBackup
          rw [hclaim]
          rfl
        rw [andThen_of_stop hout]
        cases stored with
        | true => exact iff_of_false (not_contained rfl) (by simp)
        | false => exact iff_of_true contained_start rfl
      | claimed =>
        have hok : (claimRunningBackup c).Ok start claimed := by
          unfold Ok claimRunningBackup
          rw [hclaim]
          rfl
        rw [andThen_of_ok hok, claimed_iff]

/-- The pre-freeze hook of an application-consistent backup prints what is no text: the
error is not one of the module. -/
def undecodable : Call where
  applicationConsistent := true
  preHook := some .ordinary
  targets := [{ slot := "primary" }]
  incremental := false

/-- **The application stays frozen** after such a hook: no post-thaw hook is started, and the
row is running. -/
theorem frozen_after_decoding : ¬ ∀ c : Call, Contained c.left := by
  intro hall
  have hlog : undecodable.left.log = [.preFreeze] := by decide +kernel
  have hthawed := (hall undecodable).thawed [] [] hlog
  cases hthawed

end CephAi.Ports.BackupFailures
