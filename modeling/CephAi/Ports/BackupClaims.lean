import CephAi.Ports.BackupJobs
import CephAi.Verified.Runs
import CephAi.Verified.Table
import Mathlib

/-!
# The claim of a backup run

`engine._run_rbd_backup` looks at the newest job row of its image: a `RUNNING`
one that is still fresh makes it skip the trigger, a stale one it marks
`FAILED`.  It then claims the image by inserting a `RUNNING` row of its own,
which the partial unique index `uq_backup_jobs_active_rbd_run` refuses while
another one stands; a refused claim skips the trigger as well.

Any number of Workers run these transactions, each a step of its own, with
restore drills, repairs and metadata runs that record rows of the same image; a
Worker may stop anywhere, and its row stays `RUNNING`.

## Main results

* `claims_kept_iff` — runs keep the claims exactly when no stale claim hides
  behind a newer row and none expires between a check and its claim.
* `drill_hides_stale_claim` — a run in which a restore drill does hide one.
-/

namespace CephAi.Ports.BackupClaims

open Verified BackupStorage BackupJobs

instance : Table.Keyed BackupJob := ⟨BackupJob.id⟩

/-- `STALE_RUNNING_TIMEOUT_SECONDS`, in microseconds. -/
def staleRunningTimeout : Nat := 3600 * 1000000

/-- The row is one of the index: a `RUNNING` row of the image. -/
def isRunning (scope : ImageScope) (j : BackupJob) : Bool :=
  scope.owns j && j.status == .running

/-- `created_at.timestamp() > stale_cutoff`. -/
def isFresh (now : Nat) (j : BackupJob) : Bool :=
  decide (now < j.createdAt + staleRunningTimeout)

def latestBackupJob (jobs : List BackupJob) (scope : ImageScope) :
    Option BackupJob :=
  (newestFirst (jobs.filter scope.owns)).head?

/-! ## Transactions -/

/-- A row that is added to the table. -/
def newRow (jobs : List BackupJob) (scope : ImageScope) (jobType : JobType)
    (status : JobStatus) (base : Option Nat) (slot : Option String)
    (createdAt : Nat) : BackupJob where
  id := Table.fresh jobs
  clusterId := scope.clusterId
  pool := some scope.pool.value
  image := some scope.image.value
  jobType := jobType
  status := status
  baseJobId := base
  backupTargetSlot := slot
  remoteKey := none
  sizeBytes := none
  sha256 := none
  createdAt := createdAt

def claimRunningBackup (jobs : List BackupJob) (scope : ImageScope)
    (jobType : JobType) (base : Option Nat) (now : Nat) :
    Option (List BackupJob × Nat) :=
  if jobs.any (isRunning scope) then none
  else
    let row := newRow jobs scope jobType .running base none now
    some (Table.insert jobs row, row.id)

/-- The stale claim is marked `FAILED`, whatever it has become. -/
def supersede (jobs : List BackupJob) (id : Nat) : List BackupJob :=
  Table.modify jobs id (fun j => { j with status := .failed })

def markRunningFailed (jobs : List BackupJob) (id : Nat) : List BackupJob :=
  Table.modify jobs id
    (fun j => if j.status = .running then { j with status := .failed } else j)

/-- An upload that a run has verified. -/
structure Upload where
  slot : String
  remoteKey : String
  base : Option Nat
deriving DecidableEq, Repr

/-- The row of a further target. -/
def successRow (jobs : List BackupJob) (scope : ImageScope) (jobType : JobType)
    (size : Nat) (sha256 : String) (now : Nat) (u : Upload) : BackupJob :=
  { newRow jobs scope jobType .success u.base (some u.slot) now with
    remoteKey := some u.remoteKey
    sizeBytes := some size
    sha256 := some sha256 }

/-- The rows of the further targets. -/
def addSuccessRows (scope : ImageScope) (jobType : JobType) (size : Nat)
    (sha256 : String) (now : Nat) :
    List Upload → List BackupJob → List BackupJob
  | [], jobs => jobs
  | u :: us, jobs =>
    addSuccessRows scope jobType size sha256 now us
      (Table.insert jobs (successRow jobs scope jobType size sha256 now u))

/-- The last transaction of a run: its own row and one for each further target;
`none` when the claim has disappeared. -/
def commitSuccess (jobs : List BackupJob) (scope : ImageScope) (id : Nat)
    (first : Upload) (others : List Upload) (size : Nat) (sha256 : String)
    (now : Nat) : Option (List BackupJob) :=
  match Table.get jobs id with
  | none => none
  | some j =>
    if j.status = .running then
      some (addSuccessRows scope j.jobType size sha256 now others
        (Table.modify jobs id (fun j =>
          { j with
            status := .success
            backupTargetSlot := some first.slot
            remoteKey := some first.remoteKey
            sizeBytes := some size
            sha256 := some sha256 })))
    else none

/-! ## The system -/

/-- Where a call of `_run_rbd_backup` is. -/
inductive Phase
  | idle
  /-- Its check has found this stale claim. -/
  | superseding (id checkedAt : Nat)
  | claiming (checkedAt : Nat)
  /-- It holds the claim. -/
  | live (id : Nat)
deriving DecidableEq, Repr

/-- The rows, the Workers and the clock. -/
structure World where
  jobs : List BackupJob
  phase : Nat → Phase
  now : Nat

/-- One step. -/
inductive Label
  | wait (micros : Nat)
  | check (worker : Nat)
  | supersede (worker : Nat)
  | claim (worker : Nat) (jobType : JobType) (base : Option Nat)
  | succeed (worker : Nat) (first : Upload) (others : List Upload) (size : Nat)
      (sha256 : String)
  | fail (worker : Nat)
  /-- The Worker stops. -/
  | vanish (worker : Nat)
  /-- A restore drill or a repair records its outcome. -/
  | record (jobType : JobType) (succeeded : Bool) (base : Option Nat)
      (slot : Option String) (createdAt : Nat)
deriving DecidableEq, Repr

/-- The Worker that takes the step. -/
def Label.worker : Label → Option Nat
  | .wait _ | .record .. => none
  | .check t | .supersede t | .claim t _ _ | .succeed t _ _ _ _ | .fail t
  | .vanish t => some t

/-- The state after a transaction of a Worker. -/
def World.goes (w : World) (t : Nat) (p : Phase) (jobs : List BackupJob) :
    World :=
  { w with jobs := jobs, phase := fun t' => if t' = t then p else w.phase t' }

/-- What the check leads to. -/
def checked (jobs : List BackupJob) (scope : ImageScope) (now : Nat) : Phase :=
  match latestBackupJob jobs scope with
  | some j =>
    if j.status = .running then
      if isFresh now j then .idle else .superseding j.id now
    else .claiming now
  | none => .claiming now

/-- One step; `none` when it is not the Worker's turn. -/
def step (scope : ImageScope) (w : World) : Label → Option World
  | .wait micros => some { w with now := w.now + micros }
  | .check t =>
    match w.phase t with
    | .idle => some (w.goes t (checked w.jobs scope w.now) w.jobs)
    | _ => none
  | .supersede t =>
    match w.phase t with
    | .superseding id checkedAt =>
      some (w.goes t (.claiming checkedAt) (BackupClaims.supersede w.jobs id))
    | _ => none
  | .claim t jobType base =>
    match w.phase t with
    | .claiming _ =>
      match claimRunningBackup w.jobs scope jobType base w.now with
      | none => some (w.goes t .idle w.jobs)
      | some (jobs, id) => some (w.goes t (.live id) jobs)
    | _ => none
  | .succeed t first others size sha256 =>
    match w.phase t with
    | .live id =>
      (commitSuccess w.jobs scope id first others size sha256 w.now).map
        (w.goes t .idle)
    | _ => none
  | .fail t =>
    match w.phase t with
    | .live id => some (w.goes t .idle (markRunningFailed w.jobs id))
    | _ => none
  | .vanish t => some (w.goes t .idle w.jobs)
  | .record jobType succeeded base slot createdAt =>
    some { w with
      jobs := Table.insert w.jobs (newRow w.jobs scope jobType
        (if succeeded then .success else .failed) base slot createdAt) }

def claimSystem (scope : ImageScope) : Runs.System World Label := ⟨step scope⟩

/-- No Worker is at work; rows of stopped ones may be `RUNNING`. -/
def World.initial (jobs : List BackupJob) (now : Nat) : World where
  jobs := jobs
  phase := fun _ => .idle
  now := now

/-! ## What happens to the rows -/

/-- `backup_jobs.id` is the primary key. -/
def UniqueIds (jobs : List BackupJob) : Prop := (jobs.map BackupJob.id).Nodup

/-- `uq_backup_jobs_active_rbd_run`. -/
def OneRunning (scope : ImageScope) (jobs : List BackupJob) : Prop :=
  ∀ a ∈ jobs, ∀ b ∈ jobs, isRunning scope a = true → isRunning scope b = true →
    a.id = b.id

/-- No row but that of `id` changes, and no row becomes `RUNNING`. -/
structure Rewritten (scope : ImageScope) (id : Option Nat)
    (jobs jobs' : List BackupJob) : Prop where
  ids : UniqueIds jobs → UniqueIds jobs'
  running : ∀ b ∈ jobs', isRunning scope b = true → b ∈ jobs
  row : ∀ k j, Table.get jobs k = some j →
    ∃ j', Table.get jobs' k = some j' ∧ scope.owns j' = scope.owns j ∧
      j'.createdAt = j.createdAt ∧ (id ≠ some k → j' = j)

theorem Rewritten.refl (scope : ImageScope) (id : Option Nat)
    (jobs : List BackupJob) : Rewritten scope id jobs jobs where
  ids := fun h => h
  running := fun _ hb _ => hb
  row := fun _ j hj => ⟨j, hj, rfl, rfl, fun _ => rfl⟩

variable {id : Option Nat} {j row : BackupJob} {jobs jobs' : List BackupJob} {l : Label}
    {now t : Nat} {scope : ImageScope} {w w' : World}

theorem Rewritten.trans {jobs'' : List BackupJob} (h : Rewritten scope id jobs jobs')
    (h' : Rewritten scope none jobs' jobs'') :
    Rewritten scope id jobs jobs'' where
  ids := fun hids => h'.ids (h.ids hids)
  running := by
    intro b hb hrunning
    exact h.running b (h'.running b hb hrunning) hrunning
  row := by
    intro k j hj
    obtain ⟨j', hj', howns', hcreated', hsame'⟩ := h.row k j hj
    obtain ⟨j'', hj'', howns'', hcreated'', hsame''⟩ := h'.row k j' hj'
    refine ⟨j'', hj'', howns''.trans howns', hcreated''.trans hcreated', ?_⟩
    intro hk
    rw [hsame'' (by simp), hsame' hk]

/-- A write to one row that takes it out of the index, or leaves it. -/
theorem rewritten_modify (scope : ImageScope) (jobs : List BackupJob) (id : Nat)
    (f : BackupJob → BackupJob) (hid : ∀ j, (f j).id = j.id)
    (howns : ∀ j, scope.owns (f j) = scope.owns j) (hcreated : ∀ j, (f j).createdAt = j.createdAt)
    (hrunning : ∀ j, isRunning scope (f j) = true → f j = j) :
    Rewritten scope (some id) jobs (Table.modify jobs id f) where
  ids := by
    intro h
    have hsame : (Table.modify jobs id f).map BackupJob.id =
        jobs.map BackupJob.id :=
      Table.map_update_of_eq jobs _ f BackupJob.id hid
    unfold UniqueIds
    rw [hsame]
    exact h
  running := by
    intro b hb hr
    obtain ⟨j, hj, hb⟩ := List.mem_map.mp hb
    by_cases hkey : (Table.Keyed.key j == id) = true
    · have heq : f j = b := (if_pos hkey).symm.trans hb
      subst heq
      exact (hrunning j hr).symm ▸ hj
    · have heq : j = b := (if_neg hkey).symm.trans hb
      exact heq ▸ hj
  row := by
    intro k j hj
    have hget := Table.get_modify jobs id f hid k
    by_cases hk : k = id
    · rw [if_pos hk, hj, Option.map_some] at hget
      exact ⟨f j, hget, howns j, hcreated j, fun hne => absurd (congrArg some hk).symm hne⟩
    · rw [if_neg hk, hj] at hget
      exact ⟨j, hget, rfl, rfl, fun _ => rfl⟩

theorem get_newId (hid : row.id = Table.fresh jobs) :
    Table.get jobs (Table.Keyed.key row) = none := by
  show Table.get jobs row.id = none
  rw [hid]
  exact Table.get_fresh jobs

theorem get_insert_old {k : Nat} (hid : row.id = Table.fresh jobs)
    (hj : Table.get jobs k = some j) : Table.get (Table.insert jobs row) k = some j := by
  have hne : k ≠ Table.Keyed.key row := by
    intro heq
    rw [heq, get_newId hid] at hj
    cases hj
  rw [Table.get_insert jobs row (get_newId hid), if_neg hne, hj]

section

variable (scope : ImageScope)

theorem rewritten_insert (jobs : List BackupJob)
    (hid : row.id = Table.fresh jobs) (hstatus : row.status ≠ .running) :
    Rewritten scope none jobs (Table.insert jobs row) where
  ids := fun h => Table.keys_insert h (get_newId hid)
  running := by
    intro b hb hr
    cases List.mem_append.mp hb with
    | inl hb => exact hb
    | inr hb =>
      have heq : b = row := by simpa using hb
      subst heq
      simp [isRunning, hstatus] at hr
  row := by
    intro k j hj
    refine ⟨j, ?_, rfl, rfl, fun _ => rfl⟩
    exact get_insert_old hid hj

theorem rewritten_addSuccessRows (jobType : JobType)
    (size : Nat) (sha256 : String) (now : Nat) (us : List Upload) :
    ∀ jobs, Rewritten scope none jobs
      (addSuccessRows scope jobType size sha256 now us jobs) := by
  induction us with
  | nil =>
    intro jobs
    exact Rewritten.refl scope none jobs
  | cons u us ih =>
    intro jobs
    have hrow : Rewritten scope none jobs
        (Table.insert jobs (successRow jobs scope jobType size sha256 now u)) :=
      rewritten_insert scope jobs rfl (by simp [successRow, newRow])
    exact hrow.trans (ih _)

theorem rewritten_supersede (jobs : List BackupJob)
    (id : Nat) : Rewritten scope (some id) jobs (supersede jobs id) := by
  apply rewritten_modify
  · intro j
    rfl
  · intro j
    rfl
  · intro j
    rfl
  · intro j hr
    simp [isRunning] at hr

theorem rewritten_markRunningFailed (jobs : List BackupJob)
    (id : Nat) : Rewritten scope (some id) jobs (markRunningFailed jobs id) := by
  apply rewritten_modify
  · intro j
    by_cases h : j.status = .running
    · simp [h]
    · simp [h]
  · intro j
    by_cases h : j.status = .running
    · simp [h, ImageScope.owns]
    · simp [h]
  · intro j
    by_cases h : j.status = .running
    · simp [h]
    · simp [h]
  · intro j hr
    by_cases h : j.status = .running
    · rw [if_pos h] at hr
      simp [isRunning] at hr
    · rw [if_neg h]

end

theorem rewritten_commitSuccess {id : Nat} {first : Upload} {others : List Upload} {size : Nat}
    {sha256 : String} (h : commitSuccess jobs scope id first others size sha256 now = some jobs') :
    Rewritten scope (some id) jobs jobs' := by
  unfold commitSuccess at h
  cases hj : Table.get jobs id with
  | none => simp [hj] at h
  | some j =>
    simp only [hj] at h
    by_cases hstatus : j.status = .running
    · rw [if_pos hstatus, Option.some.injEq] at h
      subst h
      refine Rewritten.trans (rewritten_modify scope jobs id _ ?_ ?_ ?_ ?_)
        (rewritten_addSuccessRows scope j.jobType size sha256 now others _)
      · intro j
        rfl
      · intro j
        rfl
      · intro j
        rfl
      · intro j hr
        simp [isRunning] at hr
    · rw [if_neg hstatus] at h
      cases h

/-! ## The claims in a run -/

/-- Two backup runs with unexpired claims are one. -/
def Exclusive (w : World) : Prop :=
  ∀ t t' id id' j j', w.phase t = .live id → w.phase t' = .live id' →
    Table.get w.jobs id = some j → Table.get w.jobs id' = some j' →
    isFresh w.now j = true → isFresh w.now j' = true → t = t'

/-- A check that finds a stale claim in the table goes on to supersede it, and
then to claim; a claim is refused only while an unexpired one stands; an
unexpired one ends only by a step of its own run; and no two runs hold an
unexpired claim. -/
structure ClaimsKept (scope : ImageScope) (w : World) (l : Label) (w' : World) :
    Prop where
  superseded : ∀ t, l = .check t → ∀ j ∈ w.jobs, isRunning scope j = true →
    isFresh w.now j = false → w'.phase t = .superseding j.id w.now
  failed : ∀ t id checkedAt, l = .supersede t →
    w.phase t = .superseding id checkedAt → w'.phase t = .claiming checkedAt ∧
      ∀ j, Table.get w'.jobs id = some j → j.status = .failed
  runs : ∀ t jobType base, l = .claim t jobType base →
    (∃ id, w'.phase t = .live id) ∨
      ∃ j ∈ w.jobs, isRunning scope j = true ∧ isFresh w.now j = true
  young : ∀ j ∈ w.jobs, isRunning scope j = true → isFresh w.now j = true →
    j ∈ w'.jobs ∨ ∃ t, l.worker = some t ∧ w.phase t = .live j.id
  exclusive : Exclusive w'

/-- A check finds a stale claim only as the newest row, and no other claim
expires between a check and its claim. -/
def Timely (scope : ImageScope) (w : World) : Label → Prop
  | .check _ => ∀ j ∈ w.jobs, isRunning scope j = true →
    isFresh w.now j = false →
      (latestBackupJob w.jobs scope).any (fun j => j.status == .running) = true
  | .claim t _ _ => ∀ checkedAt, w.phase t = .claiming checkedAt →
    ∀ j ∈ w.jobs, isRunning scope j = true → isFresh checkedAt j = true →
      isFresh w.now j = true
  | _ => True

/-- What a call knows in its phase. -/
def PhaseSound (scope : ImageScope) (jobs : List BackupJob) (now : Nat) :
    Phase → Prop
  | .idle => True
  | .superseding id checkedAt =>
    checkedAt ≤ now ∧
      (∃ j, Table.get jobs id = some j ∧ isFresh checkedAt j = false) ∧
      ∀ b ∈ jobs, isRunning scope b = true → b.id ≠ id →
        isFresh checkedAt b = true
  | .claiming checkedAt =>
    checkedAt ≤ now ∧
      ∀ b ∈ jobs, isRunning scope b = true → isFresh checkedAt b = true
  | .live id =>
    ∃ j, Table.get jobs id = some j ∧ scope.owns j = true ∧
      (j.status = .running ∨ isFresh now j = false)

/-- The invariant: the two keys of the table, and every call knows its claim. -/
structure Sound (scope : ImageScope) (w : World) : Prop where
  ids : UniqueIds w.jobs
  oneRunning : OneRunning scope w.jobs
  phases : ∀ t, PhaseSound scope w.jobs w.now (w.phase t)
  own : ∀ t t' id, w.phase t = .live id → w.phase t' = .live id → t = t'

theorem isFresh_mono {now' : Nat} (h : now ≤ now') (hj : isFresh now j = false) :
    isFresh now' j = false := by
  unfold isFresh at hj ⊢
  simp only [decide_eq_false_iff_not] at hj ⊢
  omega

theorem isRunning_iff (scope : ImageScope) (j : BackupJob) :
    isRunning scope j = true ↔ scope.owns j = true ∧ j.status = .running := by
  simp [isRunning]

theorem get_of_mem (hids : UniqueIds jobs) (hj : j ∈ jobs) : Table.get jobs j.id = some j :=
  Table.get_of_mem hids hj

theorem latestBackupJob_mem (h : latestBackupJob jobs scope = some j) :
    j ∈ jobs ∧ scope.owns j = true := by
  have hmem := List.mem_of_head? h
  unfold newestFirst at hmem
  rw [Retention.mem_sortNewest, List.mem_filter] at hmem
  exact hmem

/-- Only one of two runs with unexpired claims stands in the index. -/
theorem Sound.exclusive (hw : Sound scope w) : Exclusive w := by
  intro t t' id id' j j' ht ht' hj hj' hfresh hfresh'
  have hrunning : ∀ t id j, w.phase t = .live id → Table.get w.jobs id = some j →
      isFresh w.now j = true → isRunning scope j = true := by
    intro t id j ht hj hfresh
    have hphase := hw.phases t
    rw [ht] at hphase
    obtain ⟨j₀, hj₀, howns, hstatus⟩ := hphase
    rw [hj₀, Option.some.injEq] at hj
    subst hj
    cases hstatus with
    | inl hrunning => exact (isRunning_iff scope j₀).mpr ⟨howns, hrunning⟩
    | inr hstale =>
      rw [hstale] at hfresh
      cases hfresh
  have hsame := hw.oneRunning j (Table.mem_of_get hj) j' (Table.mem_of_get hj')
    (hrunning t id j ht hj hfresh) (hrunning t' id' j' ht' hj' hfresh')
  have hid : j.id = id := Table.key_of_get hj
  have hid' : j'.id = id' := Table.key_of_get hj'
  have heq : id = id' := by omega
  exact hw.own t t' id ht (heq ▸ ht')

/-! ## What a step keeps -/

/-- A call keeps what it knows when another row than its claim is written, or
its claim has expired. -/
theorem PhaseSound.rewritten {p : Phase} (hp : PhaseSound scope jobs now p)
    (h : Rewritten scope id jobs jobs')
    (hlive : ∀ k, p = .live k → id = some k →
      ∀ j, Table.get jobs k = some j → isFresh now j = false) :
    PhaseSound scope jobs' now p := by
  have hfresh : ∀ (s : Nat) (j j' : BackupJob), j'.createdAt = j.createdAt →
      isFresh s j' = isFresh s j := by
    intro s j j' hcreated
    unfold isFresh
    rw [hcreated]
  cases p with
  | idle => exact True.intro
  | superseding k checkedAt =>
    obtain ⟨hle, ⟨j, hj, hstale⟩, hothers⟩ := hp
    obtain ⟨j', hj', _, hcreated, _⟩ := h.row k j hj
    refine ⟨hle, ⟨j', hj', (hfresh _ _ _ hcreated).trans hstale⟩, ?_⟩
    intro b hb hr
    exact hothers b (h.running b hb hr) hr
  | claiming checkedAt =>
    refine ⟨hp.1, ?_⟩
    intro b hb hr
    exact hp.2 b (h.running b hb hr) hr
  | live k =>
    obtain ⟨j, hj, howns, hstatus⟩ := hp
    obtain ⟨j', hj', howns', hcreated, hsame⟩ := h.row k j hj
    refine ⟨j', hj', howns'.trans howns, ?_⟩
    by_cases hk : id = some k
    · right
      exact (hfresh _ _ _ hcreated).trans (hlive k rfl hk j hj)
    · rw [hsame hk]
      exact hstatus

/-- A step that writes one row, or none, and makes no new claim. -/
theorem Sound.goes {p : Phase} (hw : Sound scope w) (h : Rewritten scope id w.jobs jobs)
    (hp : PhaseSound scope jobs w.now p) (hnew : ∀ k, p ≠ .live k)
    (hlive : ∀ t' k, t' ≠ t → w.phase t' = .live k → id = some k →
      ∀ j, Table.get w.jobs k = some j → isFresh w.now j = false) :
    Sound scope (w.goes t p jobs) where
  ids := h.ids hw.ids
  oneRunning := by
    intro a ha b hb hra hrb
    exact hw.oneRunning a (h.running a ha hra) b (h.running b hb hrb) hra hrb
  phases := by
    intro t'
    show PhaseSound scope jobs w.now (if t' = t then p else w.phase t')
    by_cases ht : t' = t
    · rw [if_pos ht]
      exact hp
    · rw [if_neg ht]
      exact (hw.phases t').rewritten h (fun k hk => hlive t' k ht hk)
  own := by
    intro t₁ t₂ k h₁ h₂
    have hold : ∀ t', (w.goes t p jobs).phase t' = .live k →
        w.phase t' = .live k := by
      intro t' ht'
      have ht' : (if t' = t then p else w.phase t') = .live k := ht'
      by_cases heq : t' = t
      · rw [if_pos heq] at ht'
        exact absurd ht' (hnew k)
      · rw [if_neg heq] at ht'
        exact ht'
    exact hw.own t₁ t₂ k (hold t₁ h₁) (hold t₂ h₂)

theorem young_of_rewritten (hw : Sound scope w) (h : Rewritten scope id w.jobs jobs)
    (hid : ∀ k, id = some k → (∃ t, l.worker = some t ∧ w.phase t = .live k) ∨
      ∀ j, Table.get w.jobs k = some j → isFresh w.now j = false)
    (j : BackupJob) (hj : j ∈ w.jobs) (hfresh : isFresh w.now j = true) :
    j ∈ jobs ∨ ∃ t, l.worker = some t ∧ w.phase t = .live j.id := by
  have hget := get_of_mem hw.ids hj
  by_cases hk : id = some j.id
  · cases hid j.id hk with
    | inl hown => exact Or.inr hown
    | inr hstale =>
      rw [hstale j hget] at hfresh
      cases hfresh
  · obtain ⟨j', hj', _, _, hsame⟩ := h.row j.id j hget
    left
    rw [hsame hk] at hj'
    exact Table.mem_of_get hj'

/-- A step that does not check, supersede or claim is timely. -/
theorem kept_of_quiet (hw' : Sound scope w') (hother : ∀ t jobType base,
      l ≠ .check t ∧ l ≠ .supersede t ∧ l ≠ .claim t jobType base)
    (hyoung : ∀ j ∈ w.jobs, isRunning scope j = true → isFresh w.now j = true →
      j ∈ w'.jobs ∨ ∃ t, l.worker = some t ∧ w.phase t = .live j.id) :
    (ClaimsKept scope w l w' ↔ Timely scope w l) ∧ (Timely scope w l → Sound scope w') := by
  refine ⟨iff_of_true ⟨?_, ?_, ?_, hyoung, hw'.exclusive⟩ ?_, fun _ => hw'⟩
  · intro t hl
    exact absurd hl (hother t .full none).1
  · intro t _ _ hl
    exact absurd hl (hother t .full none).2.1
  · intro t jobType base hl
    exact absurd hl (hother t jobType base).2.2
  · cases l with
    | check t => exact absurd rfl (hother t .full none).1
    | claim t jobType base => exact absurd rfl (hother t jobType base).2.2
    | _ => exact True.intro

theorem checked_of_latest (h : latestBackupJob jobs scope = some j)
    (hstatus : j.status = .running) :
    checked jobs scope now =
      if isFresh now j then .idle else .superseding j.id now := by
  unfold checked
  rw [h]
  exact if_pos hstatus

theorem checked_of_not_running
    (h : (latestBackupJob jobs scope).any (fun j => j.status == .running) = false) :
    checked jobs scope now = .claiming now := by
  unfold checked
  cases hlatest : latestBackupJob jobs scope with
  | none => rfl
  | some j =>
    rw [hlatest] at h
    have hstatus : j.status ≠ .running := by simpa using h
    exact if_neg hstatus

/-- **A check** supersedes a stale claim exactly when it finds it as the newest
row. -/
theorem check_step (hw : Sound scope w) :
    (ClaimsKept scope w (.check t) (w.goes t (checked w.jobs scope w.now) w.jobs) ↔
      Timely scope w (.check t)) ∧
    (Timely scope w (.check t) →
      Sound scope (w.goes t (checked w.jobs scope w.now) w.jobs)) := by
  have hphase : (w.goes t (checked w.jobs scope w.now) w.jobs).phase t =
      checked w.jobs scope w.now := if_pos rfl
  -- the stale claim is the newest row, as there is one `RUNNING` row at most
  have hfinds : ∀ j ∈ w.jobs, isRunning scope j = true →
      isFresh w.now j = false →
      ((latestBackupJob w.jobs scope).any (fun j => j.status == .running) = true ↔
        checked w.jobs scope w.now = .superseding j.id w.now) := by
    intro j hj hrunning hstale
    constructor
    · intro hlatest
      cases hl : latestBackupJob w.jobs scope with
      | none => simp [hl] at hlatest
      | some b =>
        have hb : b.status = .running := by simpa [hl] using hlatest
        obtain ⟨hmem, howns⟩ := latestBackupJob_mem hl
        have hrunning' := (isRunning_iff scope b).mpr ⟨howns, hb⟩
        have hid := hw.oneRunning b hmem j hj hrunning' hrunning
        have hgetb := get_of_mem hw.ids hmem
        have hgetj := get_of_mem hw.ids hj
        rw [hid, hgetj, Option.some.injEq] at hgetb
        subst hgetb
        rw [checked_of_latest hl hb, hstale]
        rfl
    · intro hchecked
      by_contra hlatest
      rw [checked_of_not_running (by simpa using hlatest)] at hchecked
      cases hchecked
  have hsound : Timely scope w (.check t) →
      Sound scope (w.goes t (checked w.jobs scope w.now) w.jobs) := by
    intro htimely
    refine hw.goes (Rewritten.refl scope none w.jobs) ?_ ?_ (by simp)
    · cases hl : (latestBackupJob w.jobs scope).any
          (fun j => j.status == .running) with
      | false =>
        rw [checked_of_not_running hl]
        refine ⟨le_refl _, ?_⟩
        intro b hb hrunning
        cases hfresh : isFresh w.now b with
        | true => rfl
        | false =>
          have hfound := htimely b hb hrunning hfresh
          rw [hl] at hfound
          cases hfound
      | true =>
        obtain ⟨j, hj⟩ : ∃ j, latestBackupJob w.jobs scope = some j := by
          cases hlatest : latestBackupJob w.jobs scope with
          | none => simp [hlatest] at hl
          | some j => exact ⟨j, rfl⟩
        have hstatus : j.status = .running := by simpa [hj] using hl
        obtain ⟨hmem, howns⟩ := latestBackupJob_mem hj
        rw [checked_of_latest hj hstatus]
        cases hfresh : isFresh w.now j with
        | true => exact True.intro
        | false =>
          refine ⟨le_refl _, ⟨j, get_of_mem hw.ids hmem, hfresh⟩, ?_⟩
          intro b hb hrunning hne
          have hsame := hw.oneRunning b hb j hmem hrunning
            ((isRunning_iff scope j).mpr ⟨howns, hstatus⟩)
          exact absurd hsame hne
    · intro k
      unfold checked
      cases latestBackupJob w.jobs scope with
      | none => simp
      | some j =>
        by_cases hstatus : j.status = .running
        · cases hfresh : isFresh w.now j with
          | true | false => simp [hstatus, hfresh]
        · simp [hstatus]
  refine ⟨⟨?_, ?_⟩, hsound⟩
  · intro hkept j hj hrunning hstale
    have hgoes := hkept.superseded t rfl j hj hrunning hstale
    rw [hphase] at hgoes
    exact (hfinds j hj hrunning hstale).mpr hgoes
  · intro htimely
    refine ⟨?_, ?_, ?_, ?_, (hsound htimely).exclusive⟩
    · intro t' hl j hj hrunning hstale
      cases hl
      rw [hphase]
      exact (hfinds j hj hrunning hstale).mp (htimely j hj hrunning hstale)
    · intro t' _ _ hl
      cases hl
    · intro t' _ _ hl
      cases hl
    · intro j hj _ _
      exact Or.inl hj

/-- **Superseding** fails the stale claim and nothing else. -/
theorem supersede_step {id checkedAt : Nat} (hw : Sound scope w)
    (hphase : w.phase t = .superseding id checkedAt) :
    ClaimsKept scope w (.supersede t)
        (w.goes t (.claiming checkedAt) (supersede w.jobs id)) ∧
      Sound scope (w.goes t (.claiming checkedAt) (supersede w.jobs id)) := by
  have hknown := hw.phases t
  rw [hphase] at hknown
  obtain ⟨hle, ⟨j, hj, hstale⟩, hothers⟩ := hknown
  have hrewritten := rewritten_supersede scope w.jobs id
  have hstaleNow : ∀ b, Table.get w.jobs id = some b → isFresh w.now b = false := by
    intro b hb
    rw [hj, Option.some.injEq] at hb
    exact hb ▸ isFresh_mono hle hstale
  have hfailed : ∀ b, Table.get (supersede w.jobs id) id = some b →
      b.status = .failed := by
    intro b hb
    unfold supersede at hb
    rw [Table.get_modify w.jobs id (fun j => { j with status := .failed })
      (fun _ => rfl), if_pos rfl] at hb
    obtain ⟨b₀, _, hb⟩ := Option.map_eq_some_iff.mp hb
    exact hb ▸ rfl
  have hsound : Sound scope
      (w.goes t (.claiming checkedAt) (supersede w.jobs id)) := by
    refine hw.goes hrewritten ⟨hle, ?_⟩ (by simp) ?_
    · intro b hb hrunning
      have hne : b.id ≠ id := by
        intro heq
        have hget := get_of_mem (hrewritten.ids hw.ids) hb
        rw [heq] at hget
        have hstatus := ((isRunning_iff scope b).mp hrunning).2
        rw [hfailed b hget] at hstatus
        cases hstatus
      exact hothers b (hrewritten.running b hb hrunning) hrunning hne
    · intro t' k _ _ hk b hb
      cases hk
      exact hstaleNow b hb
  refine ⟨⟨?_, ?_, ?_, ?_, hsound.exclusive⟩, hsound⟩
  · intro t' hl
    cases hl
  · intro t' id' checkedAt' hl hphase'
    cases hl
    rw [hphase] at hphase'
    cases hphase'
    exact ⟨if_pos rfl, hfailed⟩
  · intro t' _ _ hl
    cases hl
  · intro b hb _ hfresh
    apply young_of_rewritten hw hrewritten _ b hb hfresh
    intro k hk
    cases hk
    exact Or.inr hstaleNow

theorem Sound.claimed (t : Nat) (hw : Sound scope w)
    (hnone : ∀ b ∈ w.jobs, isRunning scope b = false) (hid : row.id = Table.fresh w.jobs)
    (hrow : isRunning scope row = true) (hcreated : row.createdAt = w.now) :
    Sound scope (w.goes t (.live row.id) (Table.insert w.jobs row)) := by
  have hnew := get_newId hid
  have honly : ∀ b ∈ Table.insert w.jobs row, isRunning scope b = true → b = row := by
    intro b hb hrunning
    cases List.mem_append.mp hb with
    | inl hb =>
      rw [hnone b hb] at hrunning
      cases hrunning
    | inr hb => simpa using hb
  have hfreshAt : ∀ s, s ≤ w.now → isFresh s row = true := by
    intro s hs
    unfold isFresh staleRunningTimeout
    rw [hcreated, decide_eq_true_iff]
    omega
  constructor
  · exact Table.keys_insert hw.ids hnew
  · intro a ha b hb hra hrb
    rw [honly a ha hra, honly b hb hrb]
  · intro t'
    show PhaseSound scope (Table.insert w.jobs row) w.now
      (if t' = t then .live row.id else w.phase t')
    by_cases ht : t' = t
    · rw [if_pos ht]
      obtain ⟨howns, hstatus⟩ := (isRunning_iff scope row).mp hrow
      exact ⟨row, Table.get_insert_self w.jobs row hnew, howns, Or.inl hstatus⟩
    · rw [if_neg ht]
      have hold := hw.phases t'
      cases hphase : w.phase t' with
      | idle => exact True.intro
      | superseding k checkedAt =>
        rw [hphase] at hold
        obtain ⟨hle, ⟨j, hj, hstale⟩, _⟩ := hold
        refine ⟨hle, ⟨j, get_insert_old hid hj, hstale⟩, ?_⟩
        intro b hb hrunning _
        rw [honly b hb hrunning]
        exact hfreshAt checkedAt hle
      | claiming checkedAt =>
        rw [hphase] at hold
        refine ⟨hold.1, ?_⟩
        intro b hb hrunning
        rw [honly b hb hrunning]
        exact hfreshAt checkedAt hold.1
      | live k =>
        rw [hphase] at hold
        obtain ⟨j, hj, hknown⟩ := hold
        exact ⟨j, get_insert_old hid hj, hknown⟩
  · -- a call that knew the row before would have it in the table
    have hunknown : ∀ t', w.phase t' ≠ .live row.id := by
      intro t' hphase
      have hold := hw.phases t'
      rw [hphase] at hold
      obtain ⟨j, hj, _⟩ := hold
      rw [show Table.get w.jobs row.id = none from hnew] at hj
      cases hj
    intro t₁ t₂ k h₁ h₂
    have h₁ : (if t₁ = t then .live row.id else w.phase t₁) = .live k := h₁
    have h₂ : (if t₂ = t then .live row.id else w.phase t₂) = .live k := h₂
    by_cases ht₁ : t₁ = t
    · by_cases ht₂ : t₂ = t
      · exact ht₁.trans ht₂.symm
      · rw [if_pos ht₁] at h₁
        rw [if_neg ht₂, ← h₁] at h₂
        exact absurd h₂ (hunknown t₂)
    · rw [if_neg ht₁] at h₁
      by_cases ht₂ : t₂ = t
      · rw [if_pos ht₂] at h₂
        rw [← h₂] at h₁
        exact absurd h₁ (hunknown t₁)
      · rw [if_neg ht₂] at h₂
        exact hw.own t₁ t₂ k h₁ h₂

section

variable (hw : Sound scope w)
include hw

/-- **A claim** is refused by an unexpired one only, exactly when none has
expired since the check. -/
theorem claim_step {checkedAt : Nat} {jobType : JobType} {base : Option Nat}
    (hphase : w.phase t = .claiming checkedAt)
    (h : step scope w (.claim t jobType base) = some w') :
    (ClaimsKept scope w (.claim t jobType base) w' ↔
      Timely scope w (.claim t jobType base)) ∧ Sound scope w' := by
  have hknown := hw.phases t
  rw [hphase] at hknown
  obtain ⟨hle, hfreshAt⟩ := hknown
  simp only [step, hphase, claimRunningBackup] at h
  cases hany : w.jobs.any (isRunning scope) with
  | true =>
    simp only [hany, if_true, Option.some.injEq] at h
    subst h
    have hsound : Sound scope (w.goes t .idle w.jobs) :=
      hw.goes (Rewritten.refl scope none w.jobs) True.intro (by simp) (by simp)
    obtain ⟨j, hj, hrunning⟩ := List.any_eq_true.mp hany
    refine ⟨⟨?_, ?_⟩, hsound⟩
    · intro hkept checkedAt' hphase' b hb hb' _
      cases hkept.runs t jobType base rfl with
      | inl hlive =>
        obtain ⟨id, hlive⟩ := hlive
        have hidle : (w.goes t .idle w.jobs).phase t = .idle := if_pos rfl
        rw [hidle] at hlive
        cases hlive
      | inr hother =>
        obtain ⟨a, ha, ha', hfresh⟩ := hother
        have hid := hw.oneRunning b hb a ha hb' ha'
        have hget := get_of_mem hw.ids hb
        rw [hid, get_of_mem hw.ids ha, Option.some.injEq] at hget
        exact hget ▸ hfresh
    · intro htimely
      refine ⟨?_, ?_, ?_, fun b hb _ _ => Or.inl hb, hsound.exclusive⟩
      · intro t' hl
        cases hl
      · intro t' _ _ hl
        cases hl
      · intro t' _ _ _
        right
        exact ⟨j, hj, hrunning, htimely checkedAt hphase j hj hrunning
          (hfreshAt j hj hrunning)⟩
  | false =>
    simp only [hany, Bool.false_eq_true, if_false, Option.some.injEq] at h
    subst h
    have hnone : ∀ b ∈ w.jobs, isRunning scope b = false := by
      intro b hb
      have hb' := List.any_eq_false.mp hany b hb
      simpa using hb'
    have hrow : isRunning scope
        (newRow w.jobs scope jobType .running base none w.now) = true := by
      simp [isRunning, newRow, ImageScope.owns]
    have hsound := hw.claimed t hnone rfl hrow rfl
    refine ⟨⟨?_, ?_⟩, hsound⟩
    · intro _ checkedAt' _ b hb hrunning
      rw [hnone b hb] at hrunning
      cases hrunning
    · intro _
      refine ⟨?_, ?_, ?_, ?_, hsound.exclusive⟩
      · intro t' hl
        cases hl
      · intro t' _ _ hl
        cases hl
      · intro t' jobType' base' hl
        cases hl
        left
        exact ⟨_, if_pos rfl⟩
      · intro b hb hrunning
        rw [hnone b hb] at hrunning
        cases hrunning

/-- Time alone unsettles no claim. -/
theorem Sound.wait (micros : Nat) : Sound scope { w with now := w.now + micros } := by
  refine ⟨hw.ids, hw.oneRunning, ?_, hw.own⟩
  intro t
  have hold := hw.phases t
  show PhaseSound scope w.jobs (w.now + micros) (w.phase t)
  cases hphase : w.phase t with
  | idle => exact True.intro
  | superseding | claiming =>
    rw [hphase] at hold
    exact ⟨Nat.le_add_right_of_le hold.1, hold.2⟩
  | live id =>
    rw [hphase] at hold
    obtain ⟨j, hj, howns, hstatus⟩ := hold
    refine ⟨j, hj, howns, ?_⟩
    exact hstatus.imp_right (isFresh_mono (Nat.le_add_right _ _))

theorem Sound.rewritten (hrewritten : Rewritten scope none w.jobs jobs) :
    Sound scope { w with jobs := jobs } := by
  refine ⟨hrewritten.ids hw.ids, ?_, ?_, hw.own⟩
  · intro a ha b hb hra hrb
    exact hw.oneRunning a (hrewritten.running a ha hra) b
      (hrewritten.running b hb hrb) hra hrb
  · intro t
    exact (hw.phases t).rewritten hrewritten (by simp)

/-- A backup that ends keeps the claims. -/
theorem ended_step {k : Nat} (hphase : w.phase t = .live k)
    (h : Rewritten scope (some k) w.jobs jobs) (hworker : l.worker = some t)
    (hother : ∀ t jobType base, l ≠ .check t ∧ l ≠ .supersede t ∧ l ≠ .claim t jobType base) :
    (ClaimsKept scope w l (w.goes t .idle jobs) ↔ Timely scope w l) ∧
      (Timely scope w l → Sound scope (w.goes t .idle jobs)) := by
  have hsound : Sound scope (w.goes t .idle jobs) := by
    refine hw.goes h True.intro (by simp) ?_
    intro t' k' hne hphase' hk
    cases hk
    exact absurd (hw.own t' t k hphase' hphase) hne
  refine kept_of_quiet hsound hother ?_
  intro j hj _ hfresh
  apply young_of_rewritten hw h _ j hj hfresh
  intro k' hk
  cases hk
  exact Or.inl ⟨t, hworker, hphase⟩

/-- **Step lemma.**  A step keeps the claims exactly when it is timely, and then
the invariant. -/
theorem kept_step (h : step scope w l = some w') :
    (ClaimsKept scope w l w' ↔ Timely scope w l) ∧
      (Timely scope w l → Sound scope w') := by
  have hstep := h
  revert h
  fun_cases step scope w l <;> try rintro ⟨⟩
  · exact kept_of_quiet (hw.wait _) (by simp) (fun j hj _ _ => Or.inl hj)
  · exact check_step hw
  next hphase =>
    obtain ⟨hkept, hsound⟩ := supersede_step hw hphase
    exact ⟨⟨fun _ => True.intro, fun _ => hkept⟩, fun _ => hsound⟩
  next hphase _ =>
    obtain ⟨hiff, hsound⟩ := claim_step hw hphase hstep
    exact ⟨hiff, fun _ => hsound⟩
  next hphase _ _ _ =>
    obtain ⟨hiff, hsound⟩ := claim_step hw hphase hstep
    exact ⟨hiff, fun _ => hsound⟩
  next hphase =>
    intro h
    obtain ⟨jobs, hcommit, rfl⟩ := Option.map_eq_some_iff.mp h
    exact ended_step hw hphase (rewritten_commitSuccess hcommit) rfl (by simp)
  next id hphase =>
    exact ended_step hw hphase (rewritten_markRunningFailed scope w.jobs id) rfl (by simp)
  · refine kept_of_quiet ?_ (by simp) (fun j hj _ _ => Or.inl hj)
    exact hw.goes (Rewritten.refl scope none w.jobs) True.intro (by simp) (by simp)
  next jobType succeeded base slot createdAt =>
    have hstatus : (newRow w.jobs scope jobType
        (if succeeded then .success else .failed) base slot
          createdAt).status ≠ .running := by
      cases succeeded with
      | false | true => simp [newRow]
    have hrewritten := rewritten_insert scope w.jobs rfl hstatus
    refine kept_of_quiet (hw.rewritten hrewritten) (by simp) ?_
    intro j hj _ hfresh
    exact young_of_rewritten hw hrewritten (by simp) j hj hfresh

end

theorem sound_initial (now : Nat) (hids : UniqueIds jobs) (hone : OneRunning scope jobs) :
    Sound scope (World.initial jobs now) where
  ids := hids
  oneRunning := hone
  phases := fun _ => True.intro
  own := by
    intro t t' id h
    cases h

/-- **Claims are kept** in a run exactly when every check that finds a stale
claim in the table finds it as the newest row, and no other claim expires
between a check and its claim. -/
theorem claims_kept_iff (scope : ImageScope) (jobs : List BackupJob) (now : Nat)
    (hids : UniqueIds jobs) (hone : OneRunning scope jobs) (run : List Label) (w : World)
    (hrun : (claimSystem scope).run (World.initial jobs now) run = some w) :
    (claimSystem scope).Always (ClaimsKept scope) (World.initial jobs now) run ↔
      (claimSystem scope).Meets (Timely scope) (World.initial jobs now) run := by
  apply (claimSystem scope).always_iff_meets_of (ClaimsKept scope) (Timely scope)
    (Sound scope) _ run _ w (sound_initial now hids hone) hrun
  intro w l w' hw h
  exact kept_step hw h

/-! ## Two runs -/

/-- `rbd/web01` of the default cluster. -/
def web01 : ImageScope := ⟨none, ⟨"rbd", rbd_valid⟩, ⟨"web01", by decide⟩⟩

/-- Worker 0 claims the image and stops. -/
def stoppedRun : List Label := [.check 0, .claim 0 .full none, .vanish 0]

/-- An hour later Worker 1 supersedes the claim and makes its own. -/
def supersedingRun : List Label :=
  stoppedRun ++ [.wait 3600000000, .check 1, .supersede 1, .claim 1 .full none]

/-- A restore drill ends before that hour has passed. -/
def drilledRun : List Label :=
  stoppedRun ++
    [.wait 60000000, .record .restoreDrill true none (some "a") 60000000,
      .wait 3600000000, .check 1, .claim 1 .full none]

instance (jobs : List BackupJob) : Decidable (UniqueIds jobs) :=
  inferInstanceAs (Decidable (jobs.map BackupJob.id).Nodup)

instance (scope : ImageScope) (jobs : List BackupJob) :
    Decidable (OneRunning scope jobs) :=
  inferInstanceAs (Decidable (∀ a ∈ jobs, ∀ b ∈ jobs, _ → _ → a.id = b.id))

instance (scope : ImageScope) (w : World) : ∀ l, Decidable (Timely scope w l)
  | .check _ => inferInstanceAs (Decidable (∀ j ∈ w.jobs, _ → _ → _))
  | .claim t _ _ =>
    match h : w.phase t with
    | .claiming checkedAt =>
      decidable_of_iff (∀ j ∈ w.jobs, isRunning scope j = true →
          isFresh checkedAt j = true → isFresh w.now j = true) (by
        constructor
        · intro hall checkedAt' hphase
          rw [h] at hphase
          cases hphase
          exact hall
        · intro htimely
          exact htimely checkedAt h)
    | .idle => isTrue (by intro _ hphase; rw [h] at hphase; cases hphase)
    | .superseding _ _ => isTrue (by intro _ hphase; rw [h] at hphase; cases hphase)
    | .live _ => isTrue (by intro _ hphase; rw [h] at hphase; cases hphase)
  | .wait _ => isTrue True.intro
  | .supersede _ => isTrue True.intro
  | .succeed _ _ _ _ _ => isTrue True.intro
  | .fail _ => isTrue True.intro
  | .vanish _ => isTrue True.intro
  | .record _ _ _ _ _ => isTrue True.intro

/-- The claim of the stopped Worker is superseded, and the claims are kept. -/
theorem claims_kept_supersedingRun :
    ((claimSystem web01).run (World.initial [] 0) supersedingRun).map
        (fun w => (w.phase 1, w.jobs.map (fun j => (j.id, j.status)))) =
      some (.live 2, [(1, .failed), (2, .running)]) ∧
    (claimSystem web01).Always (ClaimsKept web01) (World.initial [] 0)
      supersedingRun := by
  have hview : ((claimSystem web01).run (World.initial [] 0) supersedingRun).map
      (fun w => (w.phase 1, w.jobs.map (fun j => (j.id, j.status)))) =
      some (.live 2, [(1, .failed), (2, .running)]) := by
    decide +kernel
  refine ⟨hview, ?_⟩
  obtain ⟨w, hrun, _⟩ := Option.map_eq_some_iff.mp hview
  apply (claims_kept_iff web01 [] 0 (by decide) (by decide) supersedingRun w
    hrun).mpr
  decide +kernel

/-- The row of a restore drill is newer than the stale claim: Worker 1 does not
supersede it, and is refused. -/
theorem drill_hides_stale_claim :
    ((claimSystem web01).run (World.initial [] 0) drilledRun).map
        (fun w => (w.phase 1, w.jobs.map (fun j => (j.id, j.status)))) =
      some (.idle, [(1, .running), (2, .success)]) ∧
    ¬ (claimSystem web01).Always (ClaimsKept web01) (World.initial [] 0)
      drilledRun := by
  refine ⟨by decide +kernel, ?_⟩
  intro halways
  -- nothing unexpired stands in the way of the last claim
  have hview : ((claimSystem web01).run (World.initial [] 0)
      (stoppedRun ++ [.wait 60000000,
        .record .restoreDrill true none (some "a") 60000000,
        .wait 3600000000, .check 1])).map
        (fun w => (w.jobs.any (fun j => isRunning web01 j && isFresh w.now j),
          (step web01 w (.claim 1 .full none)).map (fun w' => w'.phase 1))) =
      some (false, some .idle) := by
    decide +kernel
  obtain ⟨w, hw, hfacts⟩ := Option.map_eq_some_iff.mp hview
  simp only [Prod.mk.injEq] at hfacts
  obtain ⟨hnone, hlast⟩ := hfacts
  obtain ⟨w', hstep, hidle⟩ := Option.map_eq_some_iff.mp hlast
  have hkept := halways.step_after hstep _ _ hw
  cases hkept.runs 1 .full none rfl with
  | inl hlive =>
    obtain ⟨id, hlive⟩ := hlive
    rw [hidle] at hlive
    cases hlive
  | inr hother =>
    obtain ⟨j, hj, hrunning, hfresh⟩ := hother
    have hj' := List.any_eq_false.mp hnone j hj
    simp [hrunning, hfresh] at hj'

end CephAi.Ports.BackupClaims
