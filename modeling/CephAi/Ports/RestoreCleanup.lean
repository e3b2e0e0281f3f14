import CephAi.Ports.BackupStorage
import Mathlib.Data.List.Infix

/-!
# Cleanup of restore destinations

Three paths import an image and remove it again: `_run_restore_to_production`
with another destination, the restore drill of the default cluster and that of
a secondary cluster.  Each decides by a flag set before the import, or by the
text of a failed `rbd info`, whether the destination is its own to remove.

Every remote command may end in any way; what a preflight was told need not
agree with the pool.  The pool is taken as it is when the import stage of the
path begins, so another client may have created the destination since the
preflight.  From there only the path itself acts on the destination.

An image carries a mark that says whether the path's own import created it.
The mark is not in the pool; no code reads it.

## Main results

* `onlyOwnRemoved_iff` — a path removes nothing of others exactly when its
  destination is free as the import stage begins, or none of its removals is
  sent.
* `removes_existing_image` — a restore that removes an image it found.
-/

namespace CephAi.Ports.RestoreCleanup

open BackupStorage

/-! ## The destination pool and the remote commands -/

/-- An image; `own` marks the one the path's import created. -/
structure PoolImage where
  pool : String
  image : String
  own : Bool
deriving DecidableEq, Repr

/-- An `rbd rm` that was sent, and the image it met. -/
structure Removal where
  pool : String
  image : String
  victim : Option PoolImage
deriving DecidableEq, Repr

/-- The images, and the removals sent so far. -/
structure Session where
  images : List PoolImage
  removals : List Removal
deriving DecidableEq, Repr

/-- How one remote command ended.  `effect` says whether a command that did
not succeed took effect all the same. -/
inductive Outcome
  /-- Cancelled, or no SSH connection. -/
  | unsent (message : String)
  /-- Sent; then the connection was lost, or the operator cancelled. -/
  | broken (effect : Bool) (message : String)
  | exited (status : Nat) (effect : Bool) (stderr : String)
deriving DecidableEq, Repr

/-- The command reached the host. -/
def Outcome.sent : Outcome → Bool
  | .unsent _ => false
  | .broken .. | .exited .. => true

/-- The command took effect. -/
def Outcome.effective : Outcome → Bool
  | .unsent _ => false
  | .broken effect _ => effect
  | .exited status effect _ => status == 0 || effect

/-- The `RestoreError` of a failed command, or the error of its connection. -/
def Outcome.error (command : String) : Outcome → Option String
  | .unsent message | .broken _ message => some message
  | .exited 0 _ _ => none
  | .exited status _ stderr =>
    some (command ++ " exited " ++ toString status ++ ": " ++ stderr)

/-- The text of the `ExecutorError` that `execute_command` raises. -/
def Outcome.executorError (host : String) : Outcome → Option String
  | .unsent message | .broken _ message =>
    some (host ++ ": failed to execute command: " ++ message)
  | .exited 0 _ _ => none
  | .exited status _ stderr =>
    some (host ++ ": command exited " ++ toString status ++ ": " ++ stderr)

/-- An import onto an existing image fails with `EEXIST` if it gets to run. -/
def Outcome.onExisting : Outcome → Outcome
  | .exited 0 _ stderr => .exited 17 false stderr
  | o => o

/-- The image of this name. -/
def Session.find? (s : Session) (pool image : String) : Option PoolImage :=
  s.images.find? (fun im => im.pool == pool && im.image == image)

/-- `rbd import - pool/image`, and how it ended. -/
def Session.rbdImport (s : Session) (pool image : String) (o : Outcome) :
    Session × Outcome :=
  match s.find? pool image with
  | some _ => (s, o.onExisting)
  | none =>
    if o.effective then
      ({ s with images := ⟨pool, image, true⟩ :: s.images }, o)
    else (s, o)

/-- `rbd rm pool/image`. -/
def Session.rbdRm (s : Session) (pool image : String) (o : Outcome) :
    Session :=
  if o.sent then
    { images :=
        if o.effective then
          s.images.filter (fun im => !(im.pool == pool && im.image == image))
        else s.images
      removals := s.removals ++ [⟨pool, image, s.find? pool image⟩] }
  else s

/-! ## `restore_image` -/

/-- One incremental of the chain: its download, which may be cancelled, and its
`rbd import-diff`. -/
structure DiffReplies where
  download : Option String
  importDiff : Outcome

/-- What `restore_image` gets to see, each check as the error it raises. -/
structure RestoreReplies where
  fullJob : Bool
  cancelled : Option String
  fullDownload : Option String
  importFull : Outcome
  diffs : List DiffReplies
  cancelledLast : Option String
  info : Outcome
  exportCheck : Outcome
  cleanup : Outcome

def firstError (errors : List (Option String)) : Option String :=
  errors.findSome? id

/-- The errors before the import: `destination_created` is still false. -/
def RestoreReplies.beforeImport (r : RestoreReplies) : Option String :=
  firstError [r.cancelled, r.fullDownload]

def RestoreReplies.fromImport (r : RestoreReplies) (spec : String)
    (imported : Outcome) : Option String :=
  firstError (imported.error ("rbd import - " ++ spec) ::
    r.diffs.flatMap (fun d =>
      [d.download, d.importDiff.error ("rbd import-diff - " ++ spec)]) ++
    [r.cancelledLast, r.info.error ("rbd info " ++ spec ++ " --format json"),
      r.exportCheck.error ("rbd export " ++ spec ++ " /dev/null")])

/-- `restore_image`; the result is the error message of an unsuccessful
one. -/
def restoreImage (destPool destImage : String)
    (cleanupNewDestinationOnFailure : Bool) (r : RestoreReplies)
    (s : Session) : Session × Option String :=
  if !r.fullJob then
    (s, some "No successful full backup found — nothing to restore")
  else
    match r.beforeImport with
    | some message => (s, some message)
    | none =>
      -- `destination_created` takes the value of the cleanup flag here, and
      -- `True` behind the import: the handler's test is the flag's
      let imported := s.rbdImport destPool destImage r.importFull
      match r.fromImport (destPool ++ "/" ++ destImage) imported.2 with
      | none => (imported.1, none)
      | some message =>
        if cleanupNewDestinationOnFailure then
          (imported.1.rbdRm destPool destImage r.cleanup, some message)
        else (imported.1, some message)

/-- `restore_image` gets as far as its import. -/
def RestoreReplies.entersImport (r : RestoreReplies) : Bool :=
  r.fullJob && r.beforeImport.isNone

/-! ## `_run_restore_to_production` -/

/-- `action_params`; `none` for a value that is not a string.  `preflight`
carries the `required_bytes` of a stored preflight. -/
structure RestoreParams where
  pool : Option String
  image : Option String
  destPool : Option String
  destImage : Option String
  recoveryPointJobId : Option String
  preflight : Option Int

def valueOr (value default : Option String) : Option String :=
  match value with
  | some "" | none => default
  | some v => some v

/-- The names after the checks at the top. -/
structure RestoreTarget where
  pool : String
  image : String
  destPool : String
  destImage : String

/-- The checks at the top. -/
def RestoreParams.target (p : RestoreParams) : Option RestoreTarget :=
  match p.pool.filter isValidRbdName, p.image.filter isValidRbdName,
    (valueOr p.destPool p.pool).filter isValidRbdName,
    (valueOr p.destImage p.image).filter isValidRbdName with
  | some pool, some image, some destPool, some destImage =>
    if (p.recoveryPointJobId.filter (fun id => id != "")).isSome then
      some ⟨pool, image, destPool, destImage⟩
    else none
  | _, _, _, _ => none

def RestoreTarget.restoreAsNew (t : RestoreTarget) : Bool :=
  t.destPool != t.pool || t.destImage != t.image

/-- `query_rbd_image_detail`: what of it is read. -/
structure SourceDetail where
  watchers : Bool
  children : Bool
  available : Option Bool

/-- The replies to the queries of the preflight re-check. -/
structure Recheck where
  inventory : List String
  nearFull : Bool
  rbdEnabled : Option Bool
  maxAvailable : Int
  sourceDetail : Option SourceDetail

/-- The blockers, in order. -/
def Recheck.blockers (c : Recheck) (t : RestoreTarget) (requiredBytes : Int) :
    List String :=
  let asNew := t.restoreAsNew
  let block (b : Bool) (name : String) := if b then [name] else []
  block (!asNew && !c.inventory.contains t.destImage) "source_missing" ++
    block (asNew && c.inventory.contains t.destImage) "destination_exists" ++
    block c.nearFull "destination_pool_near_full" ++
    block (c.rbdEnabled == some false) "destination_pool_rbd_disabled" ++
    block (asNew && c.maxAvailable != 0 &&
      decide (c.maxAvailable < requiredBytes)) "insufficient_capacity" ++
    match c.sourceDetail with
    | none => []
    | some d =>
      if asNew then []
      else
        block d.watchers "source_attached" ++
          block d.children "source_has_children" ++
          block (d.available == some false) "source_unavailable"

/-- What `_run_restore_to_production` gets to see. -/
structure ProductionReplies where
  recheck : Except String Recheck
  targetSlot : Bool
  restore : RestoreReplies

/-- The preflight re-check, skipped when none is stored. -/
def preflightPasses (p : RestoreParams) (t : RestoreTarget)
    (recheck : Except String Recheck) : Bool :=
  match p.preflight with
  | none => true
  | some requiredBytes =>
    match recheck with
    | .error _ => false
    | .ok c => (c.blockers t requiredBytes).isEmpty

def runRestoreToProduction (p : RestoreParams) (r : ProductionReplies)
    (s : Session) : Session × Bool :=
  match p.target with
  | none => (s, false)
  | some t =>
    if preflightPasses p t r.recheck && r.targetSlot then
      let result :=
        restoreImage t.destPool t.destImage t.restoreAsNew r.restore s
      (result.1, result.2.isNone)
    else (s, false)

/-! ## The restore drills -/

/-- The texts that count as a proof of absence, in a lowered message. -/
def provesAbsent (message : String) : Bool :=
  ["exited 2", "no such", "not found"].any
    (fun marker => decide (marker.toList <:+: message.toLower.toList))

def assertScratchAbsent (host : String) (info : Outcome) : Option String :=
  match info.executorError host with
  | none =>
    some "Scratch image đã tồn tại; từ chối ghi đè hoặc tự xóa image có sẵn"
  | some message =>
    if provesAbsent message then none
    else some ("Không xác minh được scratch image trước DR drill: " ++ message)

/-- The configuration of the drill, as stored. -/
structure DrillConfig where
  pool : Option String
  image : Option String
  scratchPool : Option String
  scratchImage : Option String

/-- The names after the checks at the top of `run`: all valid, and the scratch
image is not the source. -/
def DrillConfig.scratch (c : DrillConfig) : Option (String × String) :=
  match c.pool.filter isValidRbdName, c.image.filter isValidRbdName,
    c.scratchPool.filter isValidRbdName,
    c.scratchImage.filter isValidRbdName with
  | some pool, some image, some scratchPool, some scratchImage =>
    if pool = scratchPool ∧ image = scratchImage then none
    else some (scratchPool, scratchImage)
  | _, _, _, _ => none

/-- What the drill of the default cluster gets to see.  `diffJobs` says that
the chain has incrementals; `checks` are those on the downloaded full. -/
structure DrillReplies where
  targetSlot : Option String
  recoveryPoint : Bool
  chainFull : Bool
  cancelled : Option String
  host : String
  info : Outcome
  diffJobs : Bool
  restore : RestoreReplies
  checks : List (Option String)
  importFull : Outcome
  exportScratch : Outcome
  digestsEqual : Bool
  cleanup : Outcome

/-- The drill reaches the `try` and passes the preflight. -/
def DrillReplies.passesPreflight (r : DrillReplies) : Bool :=
  [none, some "", some "a", some "b"].contains r.targetSlot &&
    r.recoveryPoint && r.chainFull &&
    (firstError [r.cancelled, assertScratchAbsent r.host r.info]).isNone

/-- `restore_drill.run` without a cluster. -/
def runDrill (c : DrillConfig) (r : DrillReplies) (s : Session) :
    Session × Bool :=
  match c.scratch with
  | none => (s, false)
  | some (scratchPool, scratchImage) =>
    if !r.passesPreflight then (s, false)
    else if r.diffJobs then
      -- `scratch_created` is set before the restore
      let result := restoreImage scratchPool scratchImage true r.restore s
      (result.1.rbdRm scratchPool scratchImage r.cleanup, result.2.isNone)
    else
      match firstError r.checks with
      | some _ => (s, false)
      | none =>
        -- `scratch_created` is set before the import
        let imported := s.rbdImport scratchPool scratchImage r.importFull
        let error := firstError [imported.2.error "rbd import",
          r.exportScratch.error "rbd export (verify)",
          if r.digestsEqual then none
          else some "checksum mismatch after restore"]
        (imported.1.rbdRm scratchPool scratchImage r.cleanup, error.isNone)

/-- What the drill of a secondary cluster gets to see. -/
structure SecondaryReplies where
  clusterReady : Bool
  fullOnCluster : Bool
  info : Outcome
  backend : Bool
  restore : RestoreReplies
  cleanup : Outcome

/-- The preflight of `_run_secondary_drill`.  Only a status is looked into; any
other failure leaves the function. -/
def SecondaryReplies.provesAbsent (r : SecondaryReplies) (spec : String) :
    Bool :=
  match r.info with
  | .unsent _ | .broken .. => false
  | .exited .. =>
    match r.info.error ("rbd info " ++ spec ++ " --format json") with
    | none => false
    | some message => RestoreCleanup.provesAbsent message

/-- The drill reaches its `restore_image`. -/
def SecondaryReplies.passesPreflight (r : SecondaryReplies) (spec : String) :
    Bool :=
  r.clusterReady && r.fullOnCluster && r.provesAbsent spec && r.backend

def runSecondaryDrill (c : DrillConfig) (r : SecondaryReplies) (s : Session) :
    Session × Bool :=
  match c.scratch with
  | none => (s, false)
  | some (scratchPool, scratchImage) =>
    if r.passesPreflight (scratchPool ++ "/" ++ scratchImage) then
      let result := restoreImage scratchPool scratchImage true r.restore s
      match result.2 with
      | some _ => (result.1, false)
      | none =>
        (result.1.rbdRm scratchPool scratchImage r.cleanup,
          (r.cleanup.error "rbd rm").isNone)
    else (s, false)

/-! ## The paths -/

/-- The restore paths that may remove their destination. -/
inductive RestorePath
  | production (params : RestoreParams) (replies : ProductionReplies)
  | drill (config : DrillConfig) (replies : DrillReplies)
  | secondaryDrill (config : DrillConfig) (replies : SecondaryReplies)

def RestorePath.run : RestorePath → Session → Session
  | .production p r, s => (runRestoreToProduction p r s).1
  | .drill c r, s => (runDrill c r s).1
  | .secondaryDrill c r, s => (runSecondaryDrill c r s).1

/-- The pool as the import stage begins: images of others, and nothing
removed. -/
def Session.start (images : List (String × String)) : Session where
  images := images.map (fun im => ⟨im.1, im.2, false⟩)
  removals := []

/-- No removal met an image that the path did not create. -/
def OnlyOwnRemoved (s : Session) : Prop :=
  ∀ r ∈ s.removals, ∀ victim, r.victim = some victim → victim.own = true

/-- The destination, once the checks before the import stage let the path
through. -/
def RestorePath.importStage : RestorePath → Option (String × String)
  | .production p r =>
    match p.target with
    | none => none
    | some t =>
      if preflightPasses p t r.recheck && r.targetSlot then
        some (t.destPool, t.destImage)
      else none
  | .drill c r =>
    if r.passesPreflight && (r.diffJobs || (firstError r.checks).isNone) then
      c.scratch
    else none
  | .secondaryDrill c r =>
    match c.scratch with
    | none => none
    | some d =>
      if r.passesPreflight (d.1 ++ "/" ++ d.2) then some d else none

/-- A removal is sent if the import fails: its connection comes about, and the
path is not a restore of the image over itself. -/
def RestorePath.sendsRemoval : RestorePath → Bool
  | .production p r =>
    (p.target.map RestoreTarget.restoreAsNew).getD false &&
      r.restore.entersImport && r.restore.cleanup.sent
  | .drill _ r =>
    (r.diffJobs && r.restore.entersImport && r.restore.cleanup.sent) ||
      r.cleanup.sent
  | .secondaryDrill _ r => r.restore.entersImport && r.restore.cleanup.sent

/-- The condition under which a path removes nothing of others. -/
def RestorePath.SafeOn (path : RestorePath) (images : List (String × String)) :
    Prop :=
  ∀ dest, path.importStage = some dest → dest ∈ images →
    path.sendsRemoval = false

/-! ## A destination of the path's own -/

/-- What is under the destination's name, if anything, is the path's own. -/
def Session.Own (s : Session) (pool image : String) : Prop :=
  ∀ im, s.find? pool image = some im → im.own = true

theorem rbdImport_removals (s : Session) (pool image : String) (o : Outcome) :
    (s.rbdImport pool image o).1.removals = s.removals := by
  unfold Session.rbdImport
  cases s.find? pool image with
  | some im => rfl
  | none =>
    cases o.effective with
    | false => rfl
    | true => rfl

variable {image pool : String} {s : Session}

theorem rbdImport_own (h : s.Own pool image) (o : Outcome) :
    (s.rbdImport pool image o).1.Own pool image := by
  unfold Session.rbdImport
  cases hfind : s.find? pool image with
  | some im => exact h
  | none =>
    cases o.effective with
    | false => exact h
    | true =>
      intro im him
      simp only [if_true, Session.find?, List.find?_cons, beq_self_eq_true,
        Bool.and_self, Option.some.injEq] at him
      rw [← him]

theorem rbdRm_unsent {o : Outcome} (h : o.sent = false) (s : Session)
    (pool image : String) : s.rbdRm pool image o = s := by
  unfold Session.rbdRm
  rw [h]
  rfl

/-- A removal leaves nothing under the name, or what was there. -/
theorem find?_rbdRm (s : Session) (pool image : String) (o : Outcome) :
    (s.rbdRm pool image o).find? pool image = none ∨
      (s.rbdRm pool image o).find? pool image = s.find? pool image := by
  unfold Session.rbdRm
  cases o.sent with
  | false => exact Or.inr rfl
  | true =>
    cases o.effective with
    | false => exact Or.inr rfl
    | true =>
      refine Or.inl (List.find?_eq_none.mpr ?_)
      intro im him
      have hkept := (List.mem_filter.mp him).2
      rw [Bool.not_eq_true'] at hkept
      rw [hkept]
      decide

theorem rbdRm_own (h : s.Own pool image) (o : Outcome) : (s.rbdRm pool image o).Own pool image := by
  intro im him
  rcases find?_rbdRm s pool image o with hnone | hsame
  · rw [hnone] at him
    exact absurd him (by simp)
  · rw [hsame] at him
    exact h im him

theorem rbdRm_onlyOwn (hown : s.Own pool image) (h : OnlyOwnRemoved s) (o : Outcome) :
    OnlyOwnRemoved (s.rbdRm pool image o) := by
  unfold Session.rbdRm
  cases o.sent with
  | false => exact h
  | true =>
    intro r hr victim hvictim
    rcases List.mem_append.mp hr with hr | hr
    · exact h r hr victim hvictim
    · rw [List.mem_singleton.mp hr] at hvictim
      exact hown victim hvictim

theorem rbdImport_onlyOwn (h : OnlyOwnRemoved s) (pool image : String) (o : Outcome) :
    OnlyOwnRemoved (s.rbdImport pool image o).1 := by
  unfold OnlyOwnRemoved
  rw [rbdImport_removals]
  exact h

theorem restoreImage_own (hown : s.Own pool image) (h : OnlyOwnRemoved s) (cleanup : Bool)
    (r : RestoreReplies) :
    (restoreImage pool image cleanup r s).1.Own pool image ∧
      OnlyOwnRemoved (restoreImage pool image cleanup r s).1 := by
  have himport := rbdImport_own hown r.importFull
  have hsafe := rbdImport_onlyOwn h pool image r.importFull
  unfold restoreImage
  cases r.fullJob with
  | false => exact ⟨hown, h⟩
  | true =>
    cases r.beforeImport with
    | some message => exact ⟨hown, h⟩
    | none =>
      dsimp only
      cases r.fromImport (pool ++ "/" ++ image)
          (s.rbdImport pool image r.importFull).2 with
      | none => exact ⟨himport, hsafe⟩
      | some message =>
        cases cleanup with
        | false => exact ⟨himport, hsafe⟩
        | true =>
          exact ⟨rbdRm_own himport r.cleanup,
            rbdRm_onlyOwn himport hsafe r.cleanup⟩

/-! ## A destination of others -/

/-- An image of another client is under the destination's name. -/
def Session.Foreign (s : Session) (pool image : String) : Prop :=
  ∃ im, s.find? pool image = some im ∧ im.own = false

theorem rbdImport_foreign (h : s.Foreign pool image) (o : Outcome) :
    s.rbdImport pool image o = (s, o.onExisting) := by
  obtain ⟨im, him, _⟩ := h
  simp only [Session.rbdImport, him]

theorem onExisting_error (o : Outcome) (command : String) :
    ∃ message, o.onExisting.error command = some message := by
  cases o with
  | unsent message => exact ⟨message, rfl⟩
  | broken effect message => exact ⟨message, rfl⟩
  | exited status effect stderr =>
    cases status with
    | zero | succ => exact ⟨_, rfl⟩

theorem rbdRm_foreign_iff (h : s.Foreign pool image) (hsafe : OnlyOwnRemoved s) (o : Outcome) :
    OnlyOwnRemoved (s.rbdRm pool image o) ↔ o.sent = false := by
  obtain ⟨im, him, hother⟩ := h
  unfold Session.rbdRm
  cases o.sent with
  | false => exact ⟨fun _ => rfl, fun _ => hsafe⟩
  | true =>
    refine ⟨fun hrm => ?_, fun hsent => absurd hsent (by decide)⟩
    have hown := hrm ⟨pool, image, s.find? pool image⟩ (by simp) im him
    rw [hother] at hown
    exact absurd hown (by decide)

/-- Removals are never taken back. -/
theorem onlyOwnRemoved_of_rbdRm {o : Outcome} (h : OnlyOwnRemoved (s.rbdRm pool image o)) :
    OnlyOwnRemoved s := by
  unfold Session.rbdRm at h
  cases hsent : o.sent with
  | false => rwa [hsent] at h
  | true =>
    rw [hsent] at h
    intro r hr
    exact h r (List.mem_append_left _ hr)

theorem restoreImage_foreign (h : s.Foreign pool image) (cleanup : Bool) (r : RestoreReplies) :
    ∃ message, restoreImage pool image cleanup r s =
      (if cleanup && r.entersImport then s.rbdRm pool image r.cleanup else s,
        some message) := by
  unfold restoreImage RestoreReplies.entersImport
  cases r.fullJob with
  | false =>
    rw [Bool.false_and, Bool.and_false]
    exact ⟨_, rfl⟩
  | true =>
    cases r.beforeImport with
    | some message => exact ⟨message, by simp⟩
    | none =>
      obtain ⟨message, herror⟩ := onExisting_error r.importFull
        ("rbd import - " ++ (pool ++ "/" ++ image))
      have hfrom : r.fromImport (pool ++ "/" ++ image)
          r.importFull.onExisting = some message := by
        simp [RestoreReplies.fromImport, firstError, herror]
      simp only [rbdImport_foreign h, hfrom]
      cases cleanup with
      | false | true => exact ⟨message, by simp⟩

/-! ## The paths are safe exactly on free destinations -/

theorem start_onlyOwn (images : List (String × String)) :
    OnlyOwnRemoved (Session.start images) := by
  intro r hr
  exact absurd hr (by simp [Session.start])

/-- A free name is nobody's. -/
theorem start_own {images : List (String × String)} (h : (pool, image) ∉ images) :
    (Session.start images).Own pool image := by
  intro im him
  have hmem := List.mem_of_find?_eq_some him
  have hname := List.find?_some him
  obtain ⟨⟨p, i⟩, hin, rfl⟩ := List.mem_map.mp hmem
  simp only [Bool.and_eq_true, beq_iff_eq] at hname
  obtain ⟨rfl, rfl⟩ := hname
  exact absurd hin h

/-- A taken name is another's. -/
theorem start_foreign {images : List (String × String)} (h : (pool, image) ∈ images) :
    (Session.start images).Foreign pool image := by
  have hsome : ((Session.start images).find? pool image).isSome := by
    refine List.find?_isSome.mpr ⟨⟨pool, image, false⟩, ?_, by simp⟩
    exact List.mem_map.mpr ⟨(pool, image), h, rfl⟩
  obtain ⟨im, him⟩ := Option.isSome_iff_exists.mp hsome
  refine ⟨im, him, ?_⟩
  obtain ⟨d, _, rfl⟩ := List.mem_map.mp (List.mem_of_find?_eq_some him)
  rfl

/-- What a path does with the pool from its import stage on. -/
def RestorePath.fromImportStage (path : RestorePath) (d : String × String)
    (s : Session) : Session :=
  match path with
  | .production p r =>
    (restoreImage d.1 d.2
      ((p.target.map RestoreTarget.restoreAsNew).getD false) r.restore s).1
  | .drill _ r =>
    if r.diffJobs then
      (restoreImage d.1 d.2 true r.restore s).1.rbdRm d.1 d.2 r.cleanup
    else (s.rbdImport d.1 d.2 r.importFull).1.rbdRm d.1 d.2 r.cleanup
  | .secondaryDrill _ r =>
    let result := restoreImage d.1 d.2 true r.restore s
    match result.2 with
    | some _ => result.1
    | none => result.1.rbdRm d.1 d.2 r.cleanup

theorem run_eq (path : RestorePath) (s : Session) :
    path.run s =
      match path.importStage with
      | none => s
      | some d => path.fromImportStage d s := by
  cases path with
  | production p r =>
    simp only [RestorePath.run, RestorePath.importStage,
      runRestoreToProduction]
    cases ht : p.target with
    | none => rfl
    | some t =>
      cases hpass : preflightPasses p t r.recheck && r.targetSlot with
      | false => simp [hpass]
      | true => simp [hpass, RestorePath.fromImportStage, ht]
  | drill c r =>
    simp only [RestorePath.run, RestorePath.importStage, runDrill]
    cases c.scratch with
    | none => simp
    | some d =>
      cases r.passesPreflight with
      | false => rfl
      | true =>
        cases hdiff : r.diffJobs with
        | true => simp [RestorePath.fromImportStage, hdiff]
        | false =>
          cases firstError r.checks with
          | none => simp [RestorePath.fromImportStage, hdiff]
          | some message => rfl
  | secondaryDrill c r =>
    simp only [RestorePath.run, RestorePath.importStage, runSecondaryDrill]
    cases c.scratch with
    | none => rfl
    | some d =>
      cases hpass : r.passesPreflight (d.1 ++ "/" ++ d.2) with
      | false => simp [hpass]
      | true =>
        simp only [hpass, if_true, RestorePath.fromImportStage]
        cases (restoreImage d.1 d.2 true r.restore s).2 with
        | none | some => rfl

theorem fromImportStage_own (path : RestorePath) {d : String × String} (hown : s.Own d.1 d.2)
    (h : OnlyOwnRemoved s) : OnlyOwnRemoved (path.fromImportStage d s) := by
  cases path with
  | production p r => exact (restoreImage_own hown h _ r.restore).2
  | drill c r =>
    obtain ⟨hown', h'⟩ := restoreImage_own hown h true r.restore
    simp only [RestorePath.fromImportStage]
    cases r.diffJobs with
    | true => exact rbdRm_onlyOwn hown' h' r.cleanup
    | false =>
      exact rbdRm_onlyOwn (rbdImport_own hown r.importFull)
        (rbdImport_onlyOwn h d.1 d.2 r.importFull) r.cleanup
  | secondaryDrill c r =>
    obtain ⟨hown', h'⟩ := restoreImage_own hown h true r.restore
    simp only [RestorePath.fromImportStage]
    cases (restoreImage d.1 d.2 true r.restore s).2 with
    | some message => exact h'
    | none => exact rbdRm_onlyOwn hown' h' r.cleanup

theorem restoreImage_foreign_iff (hother : s.Foreign pool image) (h : OnlyOwnRemoved s)
    (cleanup : Bool) (r : RestoreReplies) :
    OnlyOwnRemoved (restoreImage pool image cleanup r s).1 ↔
      (cleanup && r.entersImport && r.cleanup.sent) = false := by
  obtain ⟨message, hrun⟩ := restoreImage_foreign hother cleanup r
  rw [hrun]
  cases cleanup && r.entersImport with
  | false => exact ⟨fun _ => rfl, fun _ => h⟩
  | true =>
    rw [Bool.true_and]
    exact rbdRm_foreign_iff hother h r.cleanup

theorem fromImportStage_foreign_iff (path : RestorePath) {d : String × String}
    (hother : s.Foreign d.1 d.2) (h : OnlyOwnRemoved s) :
    OnlyOwnRemoved (path.fromImportStage d s) ↔ path.sendsRemoval = false := by
  cases path with
  | production p r => exact restoreImage_foreign_iff hother h _ r.restore
  | drill c r =>
    obtain ⟨message, hrun⟩ := restoreImage_foreign hother true r.restore
    simp only [RestorePath.fromImportStage, RestorePath.sendsRemoval, hrun,
      rbdImport_foreign hother, Bool.true_and]
    cases r.diffJobs with
    | false => simpa using rbdRm_foreign_iff hother h r.cleanup
    | true =>
      cases hin : r.restore.entersImport with
      | false => simpa [hin] using rbdRm_foreign_iff hother h r.cleanup
      | true =>
        have hfirst := rbdRm_foreign_iff hother h r.restore.cleanup
        simp only [if_true, Bool.true_and, Bool.or_eq_false_iff]
        constructor
        · intro hsafe
          have hunsent := hfirst.mp (onlyOwnRemoved_of_rbdRm hsafe)
          rw [rbdRm_unsent hunsent] at hsafe
          exact ⟨hunsent,
            (rbdRm_foreign_iff hother h r.cleanup).mp hsafe⟩
        · rintro ⟨hunsent, hlast⟩
          rw [rbdRm_unsent hlast]
          exact hfirst.mpr hunsent
  | secondaryDrill c r =>
    obtain ⟨message, hrun⟩ := restoreImage_foreign hother true r.restore
    have hiff := restoreImage_foreign_iff hother h true r.restore
    rw [hrun, Bool.true_and] at hiff
    simp only [RestorePath.fromImportStage, hrun]
    exact hiff

/-- **Cleanup of restore destinations.**  A path removes nothing of others
exactly when its destination is free as its import stage begins, or it sends no
removal. -/
theorem onlyOwnRemoved_iff (path : RestorePath) (images : List (String × String)) :
    OnlyOwnRemoved (path.run (Session.start images)) ↔ path.SafeOn images := by
  have h := start_onlyOwn images
  rw [run_eq]
  unfold RestorePath.SafeOn
  cases hstage : path.importStage with
  | none =>
    exact ⟨fun _ d hd => absurd hd (by simp), fun _ => h⟩
  | some d =>
    by_cases hin : d ∈ images
    · rw [fromImportStage_foreign_iff path (start_foreign hin) h]
      constructor
      · intro hsends d' _ _
        exact hsends
      · intro hsafe
        exact hsafe d rfl hin
    · constructor
      · intro _ d' hd' hin'
        rw [Option.some.inj hd'] at hin
        exact absurd hin' hin
      · intro _
        exact fromImportStage_own path (start_own hin) h

/-! ## Each path removes an image it found -/

/-- Every command runs; the image was there before. -/
def existingReplies : RestoreReplies where
  fullJob := true
  cancelled := none
  fullDownload := none
  importFull := .exited 17 false "rbd: image creation failed: (17) File exists"
  diffs := []
  cancelledLast := none
  info := .exited 0 false ""
  exportCheck := .exited 0 false ""
  cleanup := .exited 0 false ""

/-- A drill of `rbd/vm1` with the scratch image `rbd/scratch`. -/
def sampleDrill : DrillConfig where
  pool := some "rbd"
  image := some "vm1"
  scratchPool := some "rbd"
  scratchImage := some "scratch"

/-- The preflight's `rbd info` cannot open the image. -/
def cannotOpen : Outcome :=
  .exited 22 false "rbd: error opening image: (22) Invalid argument"

/-- A restore as a new image without a stored preflight onto an existing one,
and the two drills after an `rbd info` with status 22. -/
theorem removes_existing_image :
    (¬ ∀ p r images,
      OnlyOwnRemoved ((RestorePath.production p r).run (.start images))) ∧
    (¬ ∀ c r images,
      OnlyOwnRemoved ((RestorePath.drill c r).run (.start images))) ∧
    (¬ ∀ c r images,
      OnlyOwnRemoved
        ((RestorePath.secondaryDrill c r).run (.start images))) := by
  refine ⟨fun h => ?_, fun h => ?_, fun h => ?_⟩
  · have hown := h ⟨some "rbd", some "vm1", none, some "vm2", some "job", none⟩
      ⟨.error "", true, existingReplies⟩ [("rbd", "vm2")]
      ⟨"rbd", "vm2", some ⟨"rbd", "vm2", false⟩⟩ (by decide +kernel) _ rfl
    exact absurd hown (by decide)
  · have hown := h sampleDrill
      ⟨none, true, true, none, "mon1", cannotOpen, true, existingReplies, [],
        existingReplies.importFull, .unsent "", false, .exited 0 false ""⟩
      [("rbd", "scratch")]
      ⟨"rbd", "scratch", some ⟨"rbd", "scratch", false⟩⟩ (by decide +kernel)
      _ rfl
    exact absurd hown (by decide)
  · have hown := h sampleDrill
      ⟨true, true, cannotOpen, true, existingReplies, .exited 0 false ""⟩
      [("rbd", "scratch")]
      ⟨"rbd", "scratch", some ⟨"rbd", "scratch", false⟩⟩ (by decide +kernel)
      _ rfl
    exact absurd hown (by decide)

end CephAi.Ports.RestoreCleanup
