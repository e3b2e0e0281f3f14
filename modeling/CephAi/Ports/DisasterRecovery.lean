import CephAi.Verified.Process
import CephAi.Ports.BackupJobs
import CephAi.Ports.ClusterConversion

/-!
# Restoring a lost cluster from its backups

The phases that `restore_cluster_from_backup` adds to a deployment:
`_phase_restore_metadata`, `_phase_restore_rbd_images` and
`_phase_verify_integrity` of `cluster_deploy.py`, with `restore.restore_image`.

They run on a cluster that was just deployed, so the admin keyring of its nodes
is the key the cluster has stored for `client.admin`.  A `ceph` or `rbd` command
is accepted when the two are equal; `ceph auth import` replaces the stored key
of every entity it lists; an import and an import-diff leave the image with the
size that was recorded in what they read.

## Main results

* `restorePhase_ok_iff`, `restorePhase_ok` — when the images are restored, and with
  which sizes.
* `verifyPhase_verdicts` — what the last phase says of a restored image.
* `recovery_sound_iff` — every command is accepted and every verdict is right
  exactly when the backup does not replace the admin key and, if every image can
  be restored, none was resized after its full backup.
* `recovery_not_sound` — a run that locks itself out, and one that rejects an image
  of the right size.
-/

namespace CephAi.Ports.DisasterRecovery

open Verified
open BackupStorage BackupJobs
open ClusterConversion (PlanNode nodeIpsWithRole)

/-! ## Backups -/

/-- A tracked image: its pool and its name. -/
abbrev Tracked := String × String

/-- The backups.  `sizeAt` is the size an image had when a row's backup was taken:
an export has as many bytes, and a diff records it.  `stored` tells the rows whose
artifact downloads with the length and checksum of the row, `monConfigured` whether
the settings name a monitor to restore on. -/
structure Backups where
  jobs : List BackupJob
  sizeAt : BackupJob → Nat
  stored : BackupJob → Bool
  hasBackend : String → Bool
  monConfigured : Bool
  manifest : BackupJob → List String
  artifact : BackupJob → String → Bool
  authExport : BackupJob → List (String × String)
  full_size : ∀ j ∈ jobs, j.jobType = .full → j.status = .success →
    ∀ n, j.sizeBytes = some n → n = sizeAt j

def latestSuccessfulMetadataJob (jobs : List BackupJob) : Option BackupJob :=
  (newestFirst (jobs.filter fun j =>
    j.jobType == .metadata && j.status == .success && j.clusterId == none)).head?

def restoreArtifacts : List String := ["auth_export.txt", "crushmap.bin", "monmap.bin"]

/-- The artifacts are in the manifest, and download as it says. -/
def Backups.readable (b : Backups) (job : BackupJob) : Bool :=
  restoreArtifacts.all fun name =>
    (b.manifest job).contains name && b.hasBackend (job.backupTargetSlot.getD "") &&
      b.artifact job name

/-- `_backup_chain` of the default cluster without a recovery point: the newest full
export and every incremental on it. -/
def latestChain (jobs : List BackupJob) (t : Tracked) : Option (BackupJob × List BackupJob) :=
  (newestFirst (jobs.filter fun j =>
    j.pool == some t.1 && j.image == some t.2 && j.clusterId == none &&
      j.jobType == .full && j.status == .success)).head?.map
    fun full => (full, chainDiffs jobs none full none)

/-- `_download_and_verify` -/
def Backups.downloads (b : Backups) (j : BackupJob) : Bool :=
  j.sizeBytes.isSome && (j.sha256.getD "" != "") && b.stored j

/-! ## The cluster -/

/-- The commands that need the admin key. -/
inductive CephCommand
  | authImport
  | setCrushMap
  | poolLs
  | poolCreate (pool : String)
  | importImage (t : Tracked)
  | importDiff (t : Tracked) (job : Nat)
  | info (t : Tracked)
  | exportImage (t : Tracked)
deriving DecidableEq

/-- The new cluster.  `keyring` is what its nodes have as admin keyring; `log` has the
commands and whether they were accepted, `checked` the verdicts of the last phase. -/
structure State where
  auth : String → Option String
  keyring : String
  pools : List String
  images : Tracked → Option Nat
  log : List (CephCommand × Bool)
  checked : List (Tracked × Bool)

/-- A command of its nodes is accepted. -/
def State.authorized (s : State) : Bool := s.auth "client.admin" == some s.keyring

/-- A command and whether it was accepted. -/
def State.logged (s : State) (c : CephCommand) (ok : Bool) : State :=
  { s with log := s.log ++ [(c, ok)] }

/-- `ceph auth import`: the listed entities get the listed keys, the last one counts. -/
def importAuth (entries : List (String × String)) (s : State) : State :=
  { s with auth := fun entity => (entries.reverse.lookup entity).or (s.auth entity) }

def State.addPool (s : State) (pool : String) : State := { s with pools := pool :: s.pools }

/-- The image gets this size. -/
def State.setImage (s : State) (t : Tracked) (size : Nat) : State :=
  { s with images := Function.update s.images t (some size) }

/-- A verdict of the last phase. -/
def State.verdict (s : State) (t : Tracked) (ok : Bool) : State :=
  { s with checked := s.checked ++ [(t, ok)] }

/-- Why the phases stop. -/
inductive RecoveryError
  | noMon
  | noMetadata
  | metadataUnreadable
  | restoreMetadataFailed
  | poolsUnlisted
  | poolNotCreated (pool : String)
  | noBackup (t : Tracked)
  | restoreFailed (t : Tracked)
  | noRecordedSize (t : Tracked)
  | sizeUnread (t : Tracked)
  | sizeDiffers (t : Tracked) (restored full : Nat)
deriving DecidableEq

abbrev Phase := Process State RecoveryError

/-- A command that needs the admin key. -/
def ceph (c : CephCommand) (e : RecoveryError) (effect : State → State) : Phase := fun s =>
  if s.authorized then (effect (s.logged c true), none) else (s.logged c false, some e)

/-- Go on if the condition holds. -/
def require (c : Bool) (e : RecoveryError) : Phase := if c then Process.done else Process.fail e

/-! ## The phases -/

/-- `_phase_restore_metadata`; what it does to the monitors' maps is best effort and
needs no key. -/
def phaseRestoreMetadata (b : Backups) (nodes : List PlanNode) : Phase :=
  if nodeIpsWithRole nodes "mon" = [] then Process.fail .noMon
  else
    match latestSuccessfulMetadataJob b.jobs with
    | none => Process.fail .noMetadata
    | some job =>
      (require (b.readable job) .metadataUnreadable).andThen
        ((ceph .authImport .restoreMetadataFailed (importAuth (b.authExport job))).andThen
          (ceph .setCrushMap .restoreMetadataFailed id))

/-- `rbd import`, which refuses an image that exists. -/
def importImage (t : Tracked) (size : Nat) : Phase := fun s =>
  if (s.images t).isSome then
    (s.logged (.importImage t) s.authorized, some (.restoreFailed t))
  else ceph (.importImage t) (.restoreFailed t) (fun s => s.setImage t size) s

/-- One replayed incremental. -/
def replayDiff (b : Backups) (t : Tracked) (j : BackupJob) : Phase :=
  (require (b.downloads j) (.restoreFailed t)).andThen
    (ceph (.importDiff t j.id) (.restoreFailed t) (fun s => s.setImage t (b.sizeAt j)))

/-- `restore_image` under the image's own name. -/
def restoreImage (b : Backups) (t : Tracked) (full : BackupJob) (diffs : List BackupJob) :
    Phase :=
  (require (b.downloads full) (.restoreFailed t)).andThen
    ((importImage t (b.sizeAt full)).andThen
      ((Process.forEach diffs (replayDiff b t)).andThen
        ((ceph (.info t) (.restoreFailed t) id).andThen
          (ceph (.exportImage t) (.restoreFailed t) id))))

/-- The pool of an image is there, or created. -/
def ensurePool (pool : String) : Phase := fun s =>
  if pool ∈ s.pools then (s, none)
  else ceph (.poolCreate pool) (.poolNotCreated pool) (fun s => s.addPool pool) s

/-- One image of `_phase_restore_rbd_images`. -/
def restoreTracked (b : Backups) (t : Tracked) : Phase :=
  (ensurePool t.1).andThen
    (match latestChain b.jobs t with
    | none => Process.fail (.noBackup t)
    | some (full, diffs) =>
      match full.backupTargetSlot with
      | none => Process.fail (.noBackup t)
      | some slot =>
        (require (b.hasBackend slot && b.monConfigured) (.restoreFailed t)).andThen
          (restoreImage b t full diffs))

/-- The entries of `tracked_images` that are used. -/
def usable (tracked : List Tracked) : List Tracked :=
  tracked.filter fun t => t.1 != "" && t.2 != ""

def phaseRestoreRbdImages (b : Backups) (nodes : List PlanNode) (tracked : List Tracked) :
    Phase :=
  if nodeIpsWithRole nodes "mon" = [] then Process.fail .noMon
  else if usable tracked = [] then Process.done
  else (ceph .poolLs .poolsUnlisted id).andThen
    (Process.forEach (usable tracked) (restoreTracked b))

/-- The size that `rbd info` gives against the one of the full export. -/
def compareSize (t : Tracked) (fullSize : Nat) : Phase := fun s =>
  match s.images t with
  | none => (s, some (.sizeUnread t))
  | some size =>
    if size = fullSize then (s.verdict t true, none)
    else (s.verdict t false, some (.sizeDiffers t size fullSize))

/-- One image of `_phase_verify_integrity`. -/
def verifyTracked (b : Backups) (t : Tracked) : Phase :=
  match (latestChain b.jobs t).bind (fun chain => chain.1.sizeBytes) with
  | none => Process.fail (.noRecordedSize t)
  | some fullSize => (ceph (.info t) (.sizeUnread t) id).andThen (compareSize t fullSize)

def phaseVerifyIntegrity (b : Backups) (nodes : List PlanNode) (tracked : List Tracked) :
    Phase :=
  if nodeIpsWithRole nodes "mon" = [] then Process.fail .noMon
  else Process.forEach (usable tracked) (verifyTracked b)

/-- The three phases. -/
def recover (b : Backups) (nodes : List PlanNode) (tracked : List Tracked) : Phase :=
  (phaseRestoreMetadata b nodes).andThen
    ((phaseRestoreRbdImages b nodes tracked).andThen (phaseVerifyIntegrity b nodes tracked))

/-! ## What the phases should do -/

/-- A cluster that was just deployed: the nodes have the key of `client.admin`, and
there are no images. -/
structure FreshCluster where
  keyring : String
  auth : String → Option String
  pools : List String
  admin : auth "client.admin" = some keyring

/-- The state the phases begin in. -/
def FreshCluster.start (c : FreshCluster) : State where
  auth := c.auth
  keyring := c.keyring
  pools := c.pools
  images := fun _ => none
  log := []
  checked := []

/-- The size an image had at the recovery point that is restored. -/
def Backups.recoverySize (b : Backups) (t : Tracked) : Option Nat :=
  (latestChain b.jobs t).map fun chain => b.sizeAt (chain.2.getLastD chain.1)

/-- Every command was accepted. -/
def State.Accepting (s : State) : Prop := ∀ x ∈ s.log, x.2 = true

/-- An image was accepted if and only if its size is the one of its recovery point. -/
def State.JudgedRight (b : Backups) (s : State) : Prop :=
  ∀ v ∈ s.checked,
    v.2 = true ↔ ∃ size, b.recoverySize v.1 = some size ∧ s.images v.1 = some size

/-- The backup of the keys does not replace the one of `client.admin`. -/
def Backups.KeepsAdminKey (b : Backups) (job : BackupJob) (keyring : String) : Prop :=
  ∀ key, (b.authExport job).reverse.lookup "client.admin" = some key → key = keyring

/-- The newest chain of an image can be downloaded and restored. -/
def Backups.Restorable (b : Backups) (t : Tracked) : Prop :=
  ∃ full diffs slot, latestChain b.jobs t = some (full, diffs) ∧
    full.backupTargetSlot = some slot ∧ b.hasBackend slot = true ∧ b.monConfigured = true ∧
    b.downloads full = true ∧ ∀ d ∈ diffs, b.downloads d = true

/-- The image had another size at its recovery point than at its full backup. -/
def Backups.Resized (b : Backups) (t : Tracked) : Prop :=
  ∃ full diffs, latestChain b.jobs t = some (full, diffs) ∧
    b.sizeAt (diffs.getLastD full) ≠ b.sizeAt full

variable {b : Backups} {c : FreshCluster} {diffs : List BackupJob} {k : String}
    {nodes : List PlanNode} {s s' : State} {t : Tracked} {ts : List Tracked}

theorem recoverySize_of_chain {full : BackupJob} (h : latestChain b.jobs t = some (full, diffs)) :
    b.recoverySize t = some (b.sizeAt (diffs.getLastD full)) := by
  unfold Backups.recoverySize
  rw [h]
  rfl

/-! ## Commands -/

@[simp] theorem logged_images (s : State) (c : CephCommand) (ok : Bool) :
    (s.logged c ok).images = s.images := rfl

/-- The nodes have the admin key `k`, and every command was accepted. -/
structure Admitted (k : String) (s : State) : Prop where
  admin : s.auth "client.admin" = some k
  keyring : s.keyring = k
  accepting : s.Accepting

/-- Nothing was judged yet, either. -/
def Unjudged (k : String) (s : State) : Prop := Admitted k s ∧ s.checked = []

theorem Admitted.authorized (h : Admitted k s) : s.authorized = true := by
  unfold State.authorized
  rw [h.admin, h.keyring]
  exact beq_self_eq_true _

theorem Admitted.logged (h : Admitted k s) (c : CephCommand) :
    Admitted k (s.logged c true) where
  admin := h.admin
  keyring := h.keyring
  accepting := by
    intro x hx
    cases List.mem_append.mp hx with
    | inl hx => exact h.accepting x hx
    | inr hx =>
      rw [List.mem_singleton.mp hx]

theorem ceph_ok_iff (c : CephCommand) (e : RecoveryError) (effect : State → State) (s s' : State) :
    (ceph c e effect).Ok s s' ↔ s.authorized = true ∧ s' = effect (s.logged c true) := by
  unfold Process.Ok ceph
  by_cases h : s.authorized = true
  · rw [if_pos h]
    simp [h, eq_comm]
  · rw [if_neg h]
    simp [h]

/-- With the admin key it does. -/
theorem ceph_of_admitted (h : Admitted k s) (c : CephCommand) (e : RecoveryError)
    (effect : State → State) :
    (ceph c e effect).Ok s (effect (s.logged c true)) :=
  (ceph_ok_iff c e effect s _).mpr ⟨h.authorized, rfl⟩

theorem require_ok_iff (c : Bool) (e : RecoveryError) (s s' : State) :
    (require c e).Ok s s' ↔ c = true ∧ s' = s := by
  unfold require
  cases c <;> simp

theorem keeps_require (I : State → Prop) (c : Bool) (e : RecoveryError) :
    Process.Keeps I (require c e) := by
  unfold require
  cases c
  · exact Process.keeps_fail I e
  · exact Process.keeps_done I

theorem keeps_ceph {I : State → Prop} (c : CephCommand) (e : RecoveryError) {effect : State → State}
    (hadmitted : ∀ s, I s → Admitted k s) (heffect : ∀ s, I s → I (effect (s.logged c true))) :
    Process.Keeps I (ceph c e effect) := by
  intro s hs
  rw [ceph_of_admitted (hadmitted s hs) c e effect]
  exact heffect s hs

theorem keeps_unjudged_ceph (c : CephCommand) (e : RecoveryError) (effect : State → State)
    (hauth : ∀ s, (effect s).auth = s.auth) (hkeyring : ∀ s, (effect s).keyring = s.keyring)
    (hlog : ∀ s, (effect s).log = s.log) (hchecked : ∀ s, (effect s).checked = s.checked) :
    Process.Keeps (Unjudged k) (ceph c e effect) := by
  refine keeps_ceph c e (fun s hs => hs.1) ?_
  intro s hs
  have hlogged := hs.1.logged c
  constructor
  · constructor
    · rw [hauth]
      exact hlogged.admin
    · rw [hkeyring]
      exact hlogged.keyring
    · unfold State.Accepting
      rw [hlog]
      exact hlogged.accepting
  · rw [hchecked]
    exact hs.2

/-! ## Restoring the images -/

theorem keeps_ensurePool (k pool : String) : Process.Keeps (Unjudged k) (ensurePool pool) := by
  intro s hs
  unfold ensurePool
  by_cases hpool : pool ∈ s.pools
  · rw [if_pos hpool]
    exact hs
  · rw [if_neg hpool]
    exact keeps_unjudged_ceph (.poolCreate pool) (.poolNotCreated pool)
      (fun s => s.addPool pool) (fun _ => rfl) (fun _ => rfl) (fun _ => rfl) (fun _ => rfl) s hs

section

variable (k : String)

theorem keeps_importImage (t : Tracked) (size : Nat) :
    Process.Keeps (Unjudged k) (importImage t size) := by
  intro s hs
  unfold importImage
  by_cases hexists : (s.images t).isSome = true
  · rw [if_pos hexists, hs.1.authorized]
    exact ⟨hs.1.logged _, hs.2⟩
  · rw [if_neg hexists]
    exact keeps_unjudged_ceph (.importImage t) (.restoreFailed t)
      (fun s => s.setImage t size) (fun _ => rfl) (fun _ => rfl) (fun _ => rfl) (fun _ => rfl) s hs

theorem keeps_replayDiff (b : Backups) (t : Tracked) (j : BackupJob) :
    Process.Keeps (Unjudged k) (replayDiff b t j) :=
  Process.keeps_andThen (keeps_require _ _ _)
    (keeps_unjudged_ceph _ _ _ (fun _ => rfl) (fun _ => rfl) (fun _ => rfl) (fun _ => rfl))

theorem keeps_restoreImage (b : Backups) (t : Tracked) (full : BackupJob)
    (diffs : List BackupJob) : Process.Keeps (Unjudged k) (restoreImage b t full diffs) := by
  unfold restoreImage
  refine Process.keeps_andThen (keeps_require _ _ _) ?_
  refine Process.keeps_andThen (keeps_importImage k t _) ?_
  refine Process.keeps_andThen (Process.keeps_forEach (fun j _ => keeps_replayDiff k b t j)) ?_
  refine Process.keeps_andThen ?_ ?_
  · exact keeps_unjudged_ceph _ _ _ (fun _ => rfl) (fun _ => rfl) (fun _ => rfl) (fun _ => rfl)
  · exact keeps_unjudged_ceph _ _ _ (fun _ => rfl) (fun _ => rfl) (fun _ => rfl) (fun _ => rfl)

theorem keeps_restoreTracked (b : Backups) (t : Tracked) :
    Process.Keeps (Unjudged k) (restoreTracked b t) := by
  unfold restoreTracked
  refine Process.keeps_andThen (keeps_ensurePool k t.1) ?_
  split
  · exact Process.keeps_fail _ _
  · split
    · exact Process.keeps_fail _ _
    · exact Process.keeps_andThen (keeps_require _ _ _) (keeps_restoreImage k b t _ _)

end

theorem ensurePool_images {pool : String} (h : (ensurePool pool).Ok s s') :
    s'.images = s.images := by
  unfold Process.Ok ensurePool at h
  by_cases hpool : pool ∈ s.pools
  · rw [if_pos hpool] at h
    cases h
    rfl
  · rw [if_neg hpool] at h
    rw [((ceph_ok_iff _ _ _ s s').mp h).2]
    rfl

theorem importImage_ok {size : Nat} (h : (importImage t size).Ok s s') :
    s.images t = none ∧ s'.images = Function.update s.images t (some size) := by
  unfold Process.Ok importImage at h
  by_cases hexists : (s.images t).isSome = true
  · rw [if_pos hexists] at h
    cases h
  · rw [if_neg hexists] at h
    rw [((ceph_ok_iff _ _ _ s s').mp h).2]
    exact ⟨Option.not_isSome_iff_eq_none.mp hexists, rfl⟩

theorem replays_ok :
    ∀ {j : BackupJob} {s s' : State}, s.images t = some (b.sizeAt j) →
      (Process.forEach diffs (replayDiff b t)).Ok s s' →
      (∀ d ∈ diffs, b.downloads d = true) ∧
        s'.images = Function.update s.images t (some (b.sizeAt (diffs.getLastD j))) := by
  induction diffs with
  | nil =>
    intro j s s' hj h
    rw [Process.forEach_nil, Process.ok_done_iff] at h
    subst h
    constructor
    · intro d hd
      cases hd
    · show s'.images = Function.update s'.images t (some (b.sizeAt j))
      rw [← hj, Function.update_eq_self]
  | cons d diffs ih =>
    intro j s s'' hj h
    obtain ⟨s', hfirst, hrest⟩ := (Process.ok_forEach_cons_iff _ _ _ s s'').mp h
    unfold replayDiff at hfirst
    obtain ⟨u, hu, hceph⟩ := (Process.ok_andThen_iff _ _ s s').mp hfirst
    obtain ⟨hdownload, rfl⟩ := (require_ok_iff _ _ s u).mp hu
    have hs' := ((ceph_ok_iff _ _ _ u s').mp hceph).2
    have himages : s'.images = Function.update u.images t (some (b.sizeAt d)) := by
      rw [hs']
      rfl
    have hd : s'.images t = some (b.sizeAt d) := by
      rw [himages, Function.update_self]
    obtain ⟨hall, hlast⟩ := ih hd hrest
    constructor
    · exact List.forall_mem_cons.mpr ⟨hdownload, hall⟩
    · rw [hlast, himages, Function.update_idem, List.getLastD_cons]

theorem restoreTracked_ok (h : (restoreTracked b t).Ok s s') :
    b.Restorable t ∧ s.images t = none ∧
      s'.images = Function.update s.images t (b.recoverySize t) := by
  unfold restoreTracked at h
  obtain ⟨u, hpool, h⟩ := (Process.ok_andThen_iff _ _ s s').mp h
  cases hchain : latestChain b.jobs t with
  | none =>
    rw [hchain] at h
    exact absurd h (Process.not_ok_fail _ u s')
  | some chain =>
    obtain ⟨full, diffs⟩ := chain
    rw [hchain] at h
    cases hslot : full.backupTargetSlot with
    | none =>
      simp only [hslot] at h
      exact absurd h (Process.not_ok_fail _ u s')
    | some slot =>
      simp only [hslot] at h
      obtain ⟨v, hsettings, himage⟩ := (Process.ok_andThen_iff _ _ u s').mp h
      obtain ⟨hbackend, rfl⟩ := (require_ok_iff _ _ u v).mp hsettings
      rw [Bool.and_eq_true] at hbackend
      unfold restoreImage at himage
      obtain ⟨w, hartifact, hrest⟩ := (Process.ok_andThen_iff _ _ v s').mp himage
      obtain ⟨hfull, rfl⟩ := (require_ok_iff _ _ v w).mp hartifact
      obtain ⟨x, himport, hafter⟩ := (Process.ok_andThen_iff _ _ w s').mp hrest
      obtain ⟨y, hreplay, hreads⟩ := (Process.ok_andThen_iff _ _ x s').mp hafter
      obtain ⟨z, hinfo, hexport⟩ := (Process.ok_andThen_iff _ _ y s').mp hreads
      obtain ⟨hnone, hx⟩ := importImage_ok himport
      have hxt : x.images t = some (b.sizeAt full) := by
        rw [hx, Function.update_self]
      obtain ⟨hdiffs, hy⟩ := replays_ok hxt hreplay
      have hlast : s'.images = y.images := by
        rw [((ceph_ok_iff _ _ _ z s').mp hexport).2, ((ceph_ok_iff _ _ _ y z).mp hinfo).2]
        rfl
      have hsame := ensurePool_images hpool
      refine ⟨⟨full, diffs, slot, hchain, hslot, hbackend.1, hbackend.2, hfull, hdiffs⟩,
        ?_, ?_⟩
      · rw [← hsame]
        exact hnone
      · rw [hlast, hy, hx, Function.update_idem, hsame, recoverySize_of_chain hchain]

theorem restoreLoop_ok :
    ∀ {s s' : State}, (Process.forEach ts (restoreTracked b)).Ok s s' →
      (∀ t ∈ ts, b.Restorable t) ∧ ts.Nodup ∧
        (∀ t ∈ ts, s.images t = none ∧ s'.images t = b.recoverySize t) ∧
        ∀ t, t ∉ ts → s'.images t = s.images t := by
  induction ts with
  | nil =>
    intro s s' h
    rw [Process.forEach_nil, Process.ok_done_iff] at h
    subst h
    simp
  | cons t ts ih =>
    intro s s'' h
    obtain ⟨s', hfirst, hrest⟩ := (Process.ok_forEach_cons_iff _ _ _ s s'').mp h
    obtain ⟨hrestorable, hnone, hs'⟩ := restoreTracked_ok hfirst
    obtain ⟨hall, hnodup, hsizes, hothers⟩ := ih hrest
    have hsome : s'.images t ≠ none := by
      rw [hs', Function.update_self]
      obtain ⟨full, diffs, _, hchain, _⟩ := hrestorable
      rw [recoverySize_of_chain hchain]
      simp
    -- a second import of the image would have been refused
    have hnot : t ∉ ts := fun ht => hsome (hsizes t ht).1
    have hkept : ∀ u, u ≠ t → s'.images u = s.images u := by
      intro u hu
      rw [hs', Function.update_of_ne hu]
    refine ⟨List.forall_mem_cons.mpr ⟨hrestorable, hall⟩,
      List.nodup_cons.mpr ⟨hnot, hnodup⟩, ?_, ?_⟩
    · intro u hu
      cases hu with
      | head =>
        refine ⟨hnone, ?_⟩
        rw [hothers t hnot, hs', Function.update_self]
      | tail _ hu =>
        have hne : u ≠ t := fun h => hnot (h ▸ hu)
        rw [← hkept u hne]
        exact hsizes u hu
    · intro u hu
      rw [List.mem_cons, not_or] at hu
      rw [hothers u hu.2, hkept u hu.1]

theorem replays_succeed (hdiffs : ∀ d ∈ diffs, b.downloads d = true) :
    ∀ {s : State}, Unjudged k s → ∃ s', (Process.forEach diffs (replayDiff b t)).Ok s s' := by
  induction diffs with
  | nil =>
    intro s _
    exact ⟨s, rfl⟩
  | cons d diffs ih =>
    intro s hs
    have hfirst : (replayDiff b t d).Ok s
        ((s.logged (.importDiff t d.id) true).setImage t (b.sizeAt d)) := by
      unfold replayDiff
      rw [Process.ok_andThen_iff]
      exact ⟨s, (require_ok_iff _ _ s s).mpr ⟨hdiffs d List.mem_cons_self, rfl⟩,
        ceph_of_admitted hs.1 _ _ _⟩
    obtain ⟨s', hs'⟩ := ih (fun e he => hdiffs e (List.mem_cons_of_mem d he))
      ((keeps_replayDiff k b t d).of_ok hs hfirst)
    exact ⟨s', (Process.ok_forEach_cons_iff _ _ _ s s').mpr ⟨_, hfirst, hs'⟩⟩

theorem restoreTracked_succeeds (hs : Unjudged k s) (hnone : s.images t = none)
    (h : b.Restorable t) : ∃ s', (restoreTracked b t).Ok s s' := by
  obtain ⟨full, diffs, slot, hchain, hslot, hbackend, hmon, hfull, hdiffs⟩ := h
  have hpool : ∃ u, (ensurePool t.1).Ok s u := by
    unfold Process.Ok ensurePool
    by_cases hmem : t.1 ∈ s.pools
    · exact ⟨s, by rw [if_pos hmem]⟩
    · rw [if_neg hmem]
      exact ⟨_, ceph_of_admitted hs.1 _ _ _⟩
  obtain ⟨u, hu⟩ := hpool
  have hus := (keeps_ensurePool k t.1).of_ok hs hu
  have himport : (importImage t (b.sizeAt full)).Ok u
      ((u.logged (.importImage t) true).setImage t (b.sizeAt full)) := by
    unfold Process.Ok importImage
    rw [ensurePool_images hu, hnone, if_neg (by simp)]
    exact ceph_of_admitted hus.1 _ _ _
  have hvs := (keeps_importImage k t (b.sizeAt full)).of_ok hus himport
  obtain ⟨w, hw⟩ := replays_succeed (t := t) hdiffs hvs
  have hws := (Process.keeps_forEach (fun j _ => keeps_replayDiff k b t j)).of_ok hvs hw
  have hreads := (Process.ok_andThen_iff _ _ w _).mpr
    ⟨_, ceph_of_admitted hws.1 (.info t) (.restoreFailed t) id,
      ceph_of_admitted (hws.1.logged (.info t)) (.exportImage t) (.restoreFailed t) id⟩
  have hafter := (Process.ok_andThen_iff _ _ _ _).mpr ⟨w, hw, hreads⟩
  have hrest := (Process.ok_andThen_iff _ _ u _).mpr ⟨_, himport, hafter⟩
  have himage : (restoreImage b t full diffs).Ok u _ := (Process.ok_andThen_iff _ _ u _).mpr
    ⟨u, (require_ok_iff _ (.restoreFailed t) u u).mpr ⟨hfull, rfl⟩, hrest⟩
  have hsettings : (b.hasBackend slot && b.monConfigured) = true := by
    rw [hbackend, hmon]
    rfl
  have hlast : ∃ s', ((require (b.hasBackend slot && b.monConfigured) (.restoreFailed t)).andThen
      (restoreImage b t full diffs)).Ok u s' :=
    ⟨_, (Process.ok_andThen_iff _ _ u _).mpr
      ⟨u, (require_ok_iff _ _ u u).mpr ⟨hsettings, rfl⟩, himage⟩⟩
  obtain ⟨s', htracked⟩ := hlast
  refine ⟨s', (Process.ok_andThen_iff _ _ s s').mpr ⟨u, hu, ?_⟩⟩
  simp only [hchain, hslot]
  exact htracked

theorem restoreLoop_succeeds :
    ∀ {s : State}, Unjudged k s → (∀ t ∈ ts, b.Restorable t) → ts.Nodup →
      (∀ t ∈ ts, s.images t = none) →
      ∃ s', (Process.forEach ts (restoreTracked b)).Ok s s' := by
  induction ts with
  | nil =>
    intro s _ _ _ _
    exact ⟨s, rfl⟩
  | cons t ts ih =>
    intro s hs hall hnodup hnone
    obtain ⟨hnot, hnodup⟩ := List.nodup_cons.mp hnodup
    obtain ⟨s', hs'⟩ := restoreTracked_succeeds hs (hnone t List.mem_cons_self)
      (hall t List.mem_cons_self)
    have himages := (restoreTracked_ok hs').2.2
    have hnone' : ∀ u ∈ ts, s'.images u = none := by
      intro u hu
      have hne : u ≠ t := fun h => hnot (h ▸ hu)
      rw [himages, Function.update_of_ne hne]
      exact hnone u (List.mem_cons_of_mem t hu)
    obtain ⟨s'', hs''⟩ := ih ((keeps_restoreTracked k b t).of_ok hs hs')
      (fun u hu => hall u (List.mem_cons_of_mem t hu)) hnodup hnone'
    exact ⟨s'', (Process.ok_forEach_cons_iff _ _ _ s s'').mpr ⟨s', hs', hs''⟩⟩

theorem restorePhase_ok {tracked : List Tracked}
    (h : (phaseRestoreRbdImages b nodes tracked).Ok s s') :
    (∀ t ∈ usable tracked, b.Restorable t) ∧ (usable tracked).Nodup ∧
      ∀ t ∈ usable tracked, s'.images t = b.recoverySize t := by
  unfold phaseRestoreRbdImages at h
  split_ifs at h with hmon hempty
  · exact absurd h (Process.not_ok_fail _ s s')
  · rw [hempty]
    simp
  · obtain ⟨u, _, hloop⟩ := (Process.ok_andThen_iff _ _ s s').mp h
    obtain ⟨hall, hnodup, hsizes, _⟩ := restoreLoop_ok hloop
    exact ⟨hall, hnodup, fun t ht => (hsizes t ht).2⟩

/-- **When the images are restored.** -/
theorem restorePhase_ok_iff {tracked : List Tracked} (hs : Unjudged k s)
    (hmon : nodeIpsWithRole nodes "mon" ≠ []) (hnone : ∀ t, s.images t = none) :
    (∃ s', (phaseRestoreRbdImages b nodes tracked).Ok s s') ↔
      (∀ t ∈ usable tracked, b.Restorable t) ∧ (usable tracked).Nodup := by
  constructor
  · intro h
    obtain ⟨s', hok⟩ := h
    obtain ⟨hall, hnodup, _⟩ := restorePhase_ok hok
    exact ⟨hall, hnodup⟩
  · intro h
    unfold phaseRestoreRbdImages
    rw [if_neg hmon]
    by_cases hempty : usable tracked = []
    · rw [if_pos hempty]
      exact ⟨s, (Process.ok_done_iff s s).mpr rfl⟩
    · rw [if_neg hempty]
      have hpools := ceph_of_admitted hs.1 .poolLs .poolsUnlisted id
      have hlisted : Unjudged k (s.logged .poolLs true) := ⟨hs.1.logged .poolLs, hs.2⟩
      obtain ⟨s', hloop⟩ := restoreLoop_succeeds hlisted h.1 h.2 (fun t _ => hnone t)
      exact ⟨s', (Process.ok_andThen_iff _ _ s s').mpr ⟨_, hpools, hloop⟩⟩

/-- Whether it goes through or not, no command is refused and nothing is judged. -/
theorem keeps_restorePhase (k : String) (b : Backups) (nodes : List PlanNode)
    (tracked : List Tracked) :
    Process.Keeps (Unjudged k) (phaseRestoreRbdImages b nodes tracked) := by
  unfold phaseRestoreRbdImages
  split_ifs
  · exact Process.keeps_fail _ _
  · exact Process.keeps_done _
  · exact Process.keeps_andThen
      (keeps_unjudged_ceph _ _ _ (fun _ => rfl) (fun _ => rfl) (fun _ => rfl) (fun _ => rfl))
      (Process.keeps_forEach (fun t _ => keeps_restoreTracked k b t))

/-! ## Judging the images -/

theorem latestChain_full {jobs : List BackupJob} {full : BackupJob}
    (h : latestChain jobs t = some (full, diffs)) :
    full ∈ jobs ∧ full.jobType = .full ∧ full.status = .success := by
  unfold latestChain at h
  obtain ⟨full', hhead, hpair⟩ := Option.map_eq_some_iff.mp h
  rw [Prod.mk.injEq] at hpair
  rw [hpair.1] at hhead
  have hmem := List.mem_of_mem_head? hhead
  unfold newestFirst at hmem
  rw [Retention.mem_sortNewest, List.mem_filter] at hmem
  simp only [Bool.and_eq_true, beq_iff_eq] at hmem
  exact ⟨hmem.1, hmem.2.1.2, hmem.2.2⟩

theorem Backups.Restorable.fullSize (h : b.Restorable t) :
    ∃ full diffs, latestChain b.jobs t = some (full, diffs) ∧
      full.sizeBytes = some (b.sizeAt full) := by
  obtain ⟨full, diffs, _, hchain, _, _, _, hfull, _⟩ := h
  obtain ⟨hmem, htype, hstatus⟩ := latestChain_full hchain
  unfold Backups.downloads at hfull
  simp only [Bool.and_eq_true] at hfull
  obtain ⟨n, hn⟩ := Option.isSome_iff_exists.mp hfull.1.1
  refine ⟨full, diffs, hchain, ?_⟩
  rw [hn, b.full_size full hmem htype hstatus n hn]

theorem verifyTracked_restored (hs : Admitted k s) (h : b.Restorable t)
    (himage : s.images t = b.recoverySize t) :
    ∃ ok, (verifyTracked b t s).1 = (s.logged (.info t) true).verdict t ok ∧
      (ok = true ↔ ¬ b.Resized t) ∧ ((verifyTracked b t s).2 = none ↔ ok = true) := by
  obtain ⟨full, diffs, hchain, hsize⟩ := h.fullSize
  have hresized : b.Resized t ↔ b.sizeAt (diffs.getLastD full) ≠ b.sizeAt full := by
    constructor
    · intro hr
      obtain ⟨full', diffs', hchain', hne⟩ := hr
      rw [hchain, Option.some.injEq, Prod.mk.injEq] at hchain'
      rw [hchain'.1, hchain'.2]
      exact hne
    · exact fun hne => ⟨full, diffs, hchain, hne⟩
  have hrecovery : s.images t = some (b.sizeAt (diffs.getLastD full)) := by
    rw [himage, recoverySize_of_chain hchain]
  have hrun : verifyTracked b t s =
      compareSize t (b.sizeAt full) (s.logged (.info t) true) := by
    unfold verifyTracked
    rw [hchain, Option.bind_some, hsize]
    exact Process.andThen_of_ok (ceph_of_admitted hs (.info t) (.sizeUnread t) id) _
  rw [hrun]
  unfold compareSize
  rw [logged_images, hrecovery]
  generalize b.sizeAt (diffs.getLastD full) = size at hresized
  by_cases heq : size = b.sizeAt full
  · refine ⟨true, ?_, ?_, ?_⟩
    · simp only [heq, if_true]
    · simp [hresized, heq]
    · simp only [heq, if_true]
  · refine ⟨false, ?_, ?_, ?_⟩
    · simp only [heq, if_false]
    · simp only [hresized, Ne, heq, not_false_eq_true, not_true_eq_false, Bool.false_eq_true]
    · simp [if_neg heq]

/-- The verdicts say which images were not resized. -/
structure Judging (k : String) (b : Backups) (ts : List Tracked)
    (images : Tracked → Option Nat) (s : State) : Prop where
  admitted : Admitted k s
  images : s.images = images
  verdicts : ∀ v ∈ s.checked, v.1 ∈ ts ∧ (v.2 = true ↔ ¬ b.Resized v.1)

/-- Before the first verdict. -/
theorem Unjudged.judging (h : Unjudged k s) (b : Backups) (ts : List Tracked) :
    Judging k b ts s.images s := by
  refine ⟨h.1, rfl, ?_⟩
  rw [h.2]
  intro v hv
  cases hv

theorem keeps_verifyTracked {images : Tracked → Option Nat} (ht : t ∈ ts) (h : b.Restorable t)
    (himage : images t = b.recoverySize t) :
    Process.Keeps (Judging k b ts images) (verifyTracked b t) := by
  intro s hs
  have hst : s.images t = b.recoverySize t := by
    rw [hs.images]
    exact himage
  obtain ⟨ok, hstate, hok, _⟩ := verifyTracked_restored hs.admitted h hst
  rw [hstate]
  have hlogged := hs.admitted.logged (.info t)
  constructor
  · exact ⟨hlogged.admin, hlogged.keyring, hlogged.accepting⟩
  · exact hs.images
  · intro v hv
    cases List.mem_append.mp hv with
    | inl hv => exact hs.verdicts v hv
    | inr hv =>
      rw [List.mem_singleton.mp hv]
      exact ⟨ht, hok⟩

/-- **What the last phase says of restored images**: its verdicts are those of `Judging`,
and a resized image, if there is one, is rejected. -/
theorem verifyPhase_verdicts {us : List Tracked} {images : Tracked → Option Nat}
    (hsub : ∀ t ∈ us, t ∈ ts) (h : ∀ t ∈ ts, b.Restorable t)
    (himage : ∀ t ∈ ts, images t = b.recoverySize t) :
    ∀ {s : State}, Judging k b ts images s →
      Judging k b ts images (Process.forEach us (verifyTracked b) s).1 ∧
        ((∃ t ∈ us, b.Resized t) →
          ∃ t ∈ us, (t, false) ∈ (Process.forEach us (verifyTracked b) s).1.checked) := by
  induction us with
  | nil =>
    intro s hs
    refine ⟨hs, ?_⟩
    intro hresized
    obtain ⟨t, ht, _⟩ := hresized
    cases ht
  | cons t us ih =>
    intro s hs
    have ht := hsub t List.mem_cons_self
    refine ⟨(Process.keeps_forEach (fun u hu =>
      keeps_verifyTracked (hsub u hu) (h u (hsub u hu)) (himage u (hsub u hu)))) s hs, ?_⟩
    intro hresized
    have hst : s.images t = b.recoverySize t := by
      rw [hs.images]
      exact himage t ht
    obtain ⟨ok, hstate, hok, hpass⟩ := verifyTracked_restored hs.admitted (h t ht) hst
    rw [Process.forEach_cons]
    by_cases hhead : b.Resized t
    · have hfalse : ok = false := by
        rw [Bool.eq_false_iff]
        exact fun htrue => hok.mp htrue hhead
      subst hfalse
      obtain ⟨e, he⟩ := Option.ne_none_iff_exists'.mp (fun hnone => by
        cases hpass.mp hnone)
      refine ⟨t, List.mem_cons_self, ?_⟩
      rw [Process.andThen_of_error he, hstate]
      exact List.mem_append_right _ List.mem_cons_self
    · have hgoes : (verifyTracked b t).Ok s (verifyTracked b t s).1 := by
        unfold Process.Ok
        rw [Prod.ext_iff]
        exact ⟨rfl, hpass.mpr (hok.mpr hhead)⟩
      rw [Process.andThen_of_ok hgoes]
      have hs' := keeps_verifyTracked ht (h t ht) (himage t ht) s hs
      have hrest : ∃ u ∈ us, b.Resized u := by
        obtain ⟨u, hu, hr⟩ := hresized
        cases hu with
        | head => exact absurd hr hhead
        | tail _ hu => exact ⟨u, hu, hr⟩
      obtain ⟨u, hu, hmem⟩ :=
        (ih (fun u hu => hsub u (List.mem_cons_of_mem t hu)) hs').2 hrest
      exact ⟨u, List.mem_cons_of_mem t hu, hmem⟩

/-! ## The whole recovery -/

theorem restoreMetadata_ok {job : BackupJob} (hmon : nodeIpsWithRole nodes "mon" ≠ [])
    (hjob : latestSuccessfulMetadataJob b.jobs = some job) (hread : b.readable job = true)
    (hkeep : b.KeepsAdminKey job c.keyring) :
    ∃ s, (phaseRestoreMetadata b nodes).Ok c.start s ∧ Unjudged c.keyring s ∧
      ∀ t, s.images t = none := by
  have hstart : Admitted c.keyring c.start :=
    ⟨c.admin, rfl, fun x hx => by cases hx⟩
  have himport := ceph_of_admitted hstart .authImport .restoreMetadataFailed
    (importAuth (b.authExport job))
  have hkey : (importAuth (b.authExport job) (c.start.logged .authImport true)).auth
      "client.admin" = some c.keyring := by
    show ((b.authExport job).reverse.lookup "client.admin").or (c.auth "client.admin") = _
    cases hlookup : (b.authExport job).reverse.lookup "client.admin" with
    | none => exact c.admin
    | some key =>
      rw [hkeep key hlookup]
      rfl
  have hafter : Admitted c.keyring
      (importAuth (b.authExport job) (c.start.logged .authImport true)) :=
    ⟨hkey, rfl, (hstart.logged .authImport).accepting⟩
  have hcrush := ceph_of_admitted hafter .setCrushMap .restoreMetadataFailed id
  refine ⟨_, ?_, ⟨hafter.logged .setCrushMap, rfl⟩, fun t => rfl⟩
  unfold phaseRestoreMetadata
  rw [if_neg hmon]
  simp only [hjob]
  rw [Process.ok_andThen_iff]
  refine ⟨c.start, (require_ok_iff _ _ _ _).mpr ⟨hread, rfl⟩, ?_⟩
  rw [Process.ok_andThen_iff]
  exact ⟨_, himport, hcrush⟩

theorem restoreMetadata_refused {job : BackupJob} (hmon : nodeIpsWithRole nodes "mon" ≠ [])
    (hjob : latestSuccessfulMetadataJob b.jobs = some job) (hread : b.readable job = true)
    (hlost : ¬ b.KeepsAdminKey job c.keyring) :
    (.setCrushMap, false) ∈ (phaseRestoreMetadata b nodes c.start).1.log ∧
      (phaseRestoreMetadata b nodes c.start).2 = some .restoreMetadataFailed := by
  unfold Backups.KeepsAdminKey at hlost
  push Not at hlost
  obtain ⟨key, hlookup, hne⟩ := hlost
  have hstart : Admitted c.keyring c.start :=
    ⟨c.admin, rfl, fun x hx => by cases hx⟩
  have himport := ceph_of_admitted hstart .authImport .restoreMetadataFailed
    (importAuth (b.authExport job))
  have hauth : (importAuth (b.authExport job) (c.start.logged .authImport true)).authorized =
      false := by
    show (((b.authExport job).reverse.lookup "client.admin").or (c.auth "client.admin") ==
      some c.keyring) = false
    rw [hlookup]
    simp [hne]
  have hrequire := (require_ok_iff (b.readable job) .metadataUnreadable c.start c.start).mpr
    ⟨hread, rfl⟩
  have hrun : phaseRestoreMetadata b nodes c.start =
      ((importAuth (b.authExport job) (c.start.logged .authImport true)).logged .setCrushMap
        false, some .restoreMetadataFailed) := by
    unfold phaseRestoreMetadata
    rw [if_neg hmon]
    simp only [hjob]
    rw [Process.andThen_of_ok hrequire, Process.andThen_of_ok himport]
    unfold ceph
    rw [hauth]
    rfl
  rw [hrun]
  exact ⟨by simp [State.logged], rfl⟩

theorem restoreMetadata_stops
    (h : ¬ (nodeIpsWithRole nodes "mon" ≠ [] ∧
      ∃ job, latestSuccessfulMetadataJob b.jobs = some job ∧ b.readable job = true)) :
    ∃ e, phaseRestoreMetadata b nodes c.start = (c.start, some e) := by
  unfold phaseRestoreMetadata
  by_cases hmon : nodeIpsWithRole nodes "mon" = []
  · rw [if_pos hmon]
    exact ⟨_, rfl⟩
  · rw [if_neg hmon]
    cases hjob : latestSuccessfulMetadataJob b.jobs with
    | none => exact ⟨_, rfl⟩
    | some job =>
      have hread : b.readable job = false := by
        rw [Bool.eq_false_iff]
        exact fun hread => h ⟨hmon, job, hjob, hread⟩
      simp only [hread, require, Bool.false_eq_true, if_false]
      exact ⟨_, rfl⟩

/-- **Every command is accepted and every image judged right exactly when**, if the
metadata can be read, it does not replace the admin key and, if every image can be
restored, none was resized after its full backup. -/
theorem recovery_sound_iff (b : Backups) (nodes : List PlanNode) (tracked : List Tracked)
    (c : FreshCluster) :
    ((recover b nodes tracked c.start).1.Accepting ∧
        (recover b nodes tracked c.start).1.JudgedRight b) ↔
      ∀ job, nodeIpsWithRole nodes "mon" ≠ [] →
        latestSuccessfulMetadataJob b.jobs = some job → b.readable job = true →
        b.KeepsAdminKey job c.keyring ∧
          ((∀ t ∈ usable tracked, b.Restorable t) → (usable tracked).Nodup →
            ∀ t ∈ usable tracked, ¬ b.Resized t) := by
  have hverify : ∀ hmon : nodeIpsWithRole nodes "mon" ≠ [],
      phaseVerifyIntegrity b nodes tracked =
        Process.forEach (usable tracked) (verifyTracked b) := by
    intro hmon
    unfold phaseVerifyIntegrity
    rw [if_neg hmon]
  constructor
  · intro h job hmon hjob hread
    have hkeep : b.KeepsAdminKey job c.keyring := by
      by_contra hlost
      obtain ⟨hmem, herror⟩ := restoreMetadata_refused hmon hjob hread hlost
      have haccepting := h.1
      unfold recover at haccepting
      rw [Process.andThen_of_error herror] at haccepting
      exact absurd (haccepting _ hmem) (by simp)
    refine ⟨hkeep, ?_⟩
    intro hall hnodup t ht hresized
    obtain ⟨s, hs, hunjudged, hnone⟩ := restoreMetadata_ok hmon hjob hread hkeep
    obtain ⟨s', hs'⟩ := (restorePhase_ok_iff hunjudged hmon hnone).mpr ⟨hall, hnodup⟩
    have hunjudged' := (keeps_restorePhase c.keyring b nodes tracked).of_ok hunjudged hs'
    obtain ⟨_, _, himages⟩ := restorePhase_ok hs'
    have hrun : recover b nodes tracked c.start =
        Process.forEach (usable tracked) (verifyTracked b) s' := by
      unfold recover
      rw [Process.andThen_of_ok hs, Process.andThen_of_ok hs', hverify hmon]
    have hjudging := hunjudged'.judging b (usable tracked)
    obtain ⟨hfinal, hrejected⟩ :=
      verifyPhase_verdicts (fun t ht => ht) hall himages hjudging
    obtain ⟨u, hu, hmem⟩ := hrejected ⟨t, ht, hresized⟩
    have hright := h.2
    rw [hrun] at hright
    obtain ⟨full, diffs, hchain, _⟩ := (hall u hu).fullSize
    have hsize := recoverySize_of_chain hchain
    have haccepted := (hright (u, false) hmem).mpr
      ⟨_, hsize, by rw [hfinal.images, himages u hu, hsize]⟩
    cases haccepted
  · intro h
    by_cases hbegin : nodeIpsWithRole nodes "mon" ≠ [] ∧
        ∃ job, latestSuccessfulMetadataJob b.jobs = some job ∧ b.readable job = true
    · obtain ⟨hmon, job, hjob, hread⟩ := hbegin
      obtain ⟨hkeep, hnot⟩ := h job hmon hjob hread
      obtain ⟨s, hs, hunjudged, hnone⟩ := restoreMetadata_ok hmon hjob hread hkeep
      unfold recover
      rw [Process.andThen_of_ok hs]
      cases hrestore : phaseRestoreRbdImages b nodes tracked s with
      | mk s' e =>
        have hkept := keeps_restorePhase c.keyring b nodes tracked s hunjudged
        rw [hrestore] at hkept
        cases e with
        | some e =>
          rw [Process.andThen_of_error (e := e) (by rw [hrestore]), hrestore]
          refine ⟨hkept.1.accepting, ?_⟩
          intro v hv
          rw [hkept.2] at hv
          cases hv
        | none =>
          rw [Process.andThen_of_ok hrestore, hverify hmon]
          obtain ⟨hall, hnodup, himages⟩ := restorePhase_ok hrestore
          obtain ⟨hfinal, _⟩ := verifyPhase_verdicts (fun t ht => ht) hall himages
            (hkept.judging b (usable tracked))
          refine ⟨hfinal.admitted.accepting, ?_⟩
          intro v hv
          obtain ⟨ht, hverdict⟩ := hfinal.verdicts v hv
          obtain ⟨full, diffs, hchain, _⟩ := (hall v.1 ht).fullSize
          have hsize := recoverySize_of_chain hchain
          constructor
          · intro _
            exact ⟨_, hsize, by rw [hfinal.images, himages v.1 ht, hsize]⟩
          · intro _
            exact hverdict.mpr (hnot hall hnodup v.1 ht)
    · obtain ⟨e, he⟩ := restoreMetadata_stops (c := c) hbegin
      unfold recover
      rw [Process.andThen_of_error (e := e) (by rw [he]), he]
      constructor
      · intro x hx
        cases hx
      · intro v hv
        cases hv

/-- A metadata backup, a full export of 10 bytes, and a diff after a resize to 20. -/
def resizedJobs : List BackupJob :=
  [⟨1, none, none, none, .metadata, .success, none, some "a", some "m", none, none, 1⟩,
    ⟨2, none, some "vms", some "web", .full, .success, none, some "a", some "f", some 10,
      some "s", 2⟩,
    ⟨3, none, some "vms", some "web", .incremental, .success, some 2, some "a", some "i",
      some 5, some "s", 3⟩]

/-- Backups of these rows, with this key of `client.admin`. -/
def resizedBackups (adminKey : String) : Backups where
  jobs := resizedJobs
  sizeAt := fun j => if j.id = 2 then 10 else 20
  stored := fun _ => true
  hasBackend := fun _ => true
  monConfigured := true
  manifest := fun _ => restoreArtifacts
  artifact := fun _ _ => true
  authExport := fun _ => [("client.admin", adminKey)]
  full_size := by
    intro j hj htype _ n hn
    simp only [resizedJobs, List.mem_cons, List.not_mem_nil, or_false] at hj
    rcases hj with rfl | rfl | rfl
    · cases htype
    · cases hn
      rfl
    · cases htype

/-- A cluster that was deployed with a new admin key. -/
def newCluster : FreshCluster where
  keyring := "new"
  auth := fun entity => if entity = "client.admin" then some "new" else none
  pools := []
  admin := rfl

def oneMon : List PlanNode := [⟨"10.0.0.1", ["mon"]⟩]

/-- With the old key of `client.admin` in the backup, the command after the import is
refused; with the new one, an image that was resized after its full backup is restored
and rejected. -/
theorem recovery_not_sound :
    (¬ ∀ (b : Backups) (nodes : List PlanNode) (tracked : List Tracked) (c : FreshCluster),
      (recover b nodes tracked c.start).1.Accepting) ∧
    ¬ ∀ (b : Backups) (nodes : List PlanNode) (tracked : List Tracked) (c : FreshCluster),
      (recover b nodes tracked c.start).1.JudgedRight b := by
  constructor
  · intro h
    have hlog : (CephCommand.setCrushMap, false) ∈
        (recover (resizedBackups "old") oneMon [("vms", "web")] newCluster.start).1.log := by
      decide
    exact absurd (h _ _ _ _ _ hlog) (by decide)
  · intro h
    have hchecked : (("vms", "web"), false) ∈
        (recover (resizedBackups "new") oneMon [("vms", "web")] newCluster.start).1.checked := by
      decide
    have hrecovery : (resizedBackups "new").recoverySize ("vms", "web") = some 20 := by decide
    have himage : (recover (resizedBackups "new") oneMon [("vms", "web")]
        newCluster.start).1.images ("vms", "web") = some 20 := by
      decide
    have haccepted := (h _ _ _ _ _ hchecked).mpr ⟨20, hrecovery, himage⟩
    cases haccepted

end CephAi.Ports.DisasterRecovery
