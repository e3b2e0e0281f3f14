import CephAi.Ports.BackupJobs
import CephAi.Verified.Runs

/-!
# Alerts of backup targets

`check_overdue_and_failed_backups` looks at the newest job row of each target and
opens, repeats or resolves the target's alert.  A repeated alert sends a message when
its reminder is due, counted from `last_sent_at`; an alert for a failed job is sent by
somebody else first, so the check advances the clock and sends nothing.

A history is any order of checks and of what happens to the job rows between them.
What was really sent is kept beside the alert's row: the messages, when the last one was
sent or the alert opened (`anchor`), and when a later check advanced the clock without
sending (`silent`).

## Main results

* `alerts_iff` — an alert is resolved on a successful backup only and reminded of in
  time exactly when no check takes a running job for one and no check has advanced
  the clock silently within the reminder's time.
-/

namespace CephAi.Ports.BackupAlerts

open Verified.Runs
open BackupStorage
open BackupJobs

/-- What a check is about: an image, or all jobs of a type. -/
structure Target where
  clusterId : Option Nat
  pool : Option String
  image : Option String
  jobType : Option JobType

/-- The filters of `_check_target`. -/
def Target.selects (t : Target) (j : BackupJob) : Bool :=
  j.clusterId == t.clusterId &&
    match t.jobType with
    | some jobType => j.jobType == jobType
    | none =>
      match t.pool with
      | some pool => j.pool == some pool && j.image == t.image &&
          (j.jobType == .full || j.jobType == .incremental)
      | none => true

/-- `order_by(created_at.desc()).first()`: one of the newest. -/
def Target.Newest (t : Target) (jobs : List BackupJob) : Option BackupJob → Prop
  | none => ∀ j ∈ jobs, t.selects j = false
  | some latest => latest ∈ jobs ∧ t.selects latest = true ∧
      ∀ j ∈ jobs, t.selects j = true → j.createdAt ≤ latest.createdAt

instance (t : Target) (jobs : List BackupJob) : ∀ latest, Decidable (t.Newest jobs latest)
  | none => inferInstanceAs (Decidable (∀ j ∈ jobs, t.selects j = false))
  | some latest => inferInstanceAs (Decidable (latest ∈ jobs ∧ t.selects latest = true ∧
      ∀ j ∈ jobs, t.selects j = true → j.createdAt ≤ latest.createdAt))

inductive Severity
  | info
  | warning
  | critical
deriving DecidableEq, Repr

def Severity.rank : Severity → Nat
  | .info => 0
  | .warning => 1
  | .critical => 2

inductive Kind
  | missing
  | failed
  | overdue
deriving DecidableEq, Repr

inductive AlertStatus
  | opened
  | acknowledged
  | resolved
deriving DecidableEq, Repr

/-- A row of `BackupAlertState`. -/
structure Alert where
  kind : Kind
  severity : Severity
  status : AlertStatus
  backupJobId : Option Nat
  firstSeenAt : Nat
  lastSeenAt : Nat
  lastSentAt : Option Nat
  resolvedAt : Option Nat
deriving DecidableEq, Repr

/-- What `_check_target` passes to `_emit_lifecycle_alert`. -/
structure Emission where
  kind : Kind
  severity : Severity
  backupJobId : Option Nat
  suppressInitial : Bool
deriving DecidableEq, Repr

def Alert.shouldSend (reminder now : Nat) (severity : Severity) (state : Alert) : Bool :=
  if state.status = .resolved then true
  else if state.severity.rank < severity.rank then true
  else
    match state.lastSentAt with
    | none => true
    | some lastSentAt => decide (reminder ≤ now - lastSentAt)

/-- `_emit_lifecycle_alert`: the row after it, and whether a message is to be sent. -/
def emitLifecycleAlert (reminder now : Nat) (e : Emission) : Option Alert → Alert × Bool
  | none =>
    ({ kind := e.kind
       severity := e.severity
       status := .opened
       backupJobId := e.backupJobId
       firstSeenAt := now
       lastSeenAt := now
       -- `should_send` is `not suppress_initial` here
       lastSentAt := some now
       resolvedAt := none }, !e.suppressInitial)
  | some state =>
    let shouldSend := state.shouldSend reminder now e.severity
    ({ state with
       status := if state.status = .resolved then .opened else state.status
       resolvedAt := if state.status = .resolved then none else state.resolvedAt
       severity := e.severity
       kind := e.kind
       backupJobId := e.backupJobId
       lastSeenAt := now
       lastSentAt := if shouldSend || e.suppressInitial then some now else state.lastSentAt },
      shouldSend)

/-- `_check_target`: what to emit, or `none` to resolve the alert. -/
def checkTarget (cutoff : Nat) : Option BackupJob → Option Emission
  | none => some ⟨.missing, .warning, none, false⟩
  | some latest =>
    if latest.status = .failed then some ⟨.failed, .warning, some latest.id, true⟩
    else if latest.createdAt < cutoff then some ⟨.overdue, .warning, some latest.id, false⟩
    else none

/-- A message that `send_alert` was called for; one of a recovery has no kind. -/
structure Message where
  sentAt : Nat
  severity : Severity
  kind : Option Kind
deriving DecidableEq, Repr

/-- `rpo_hours` and `reminder_hours` of the policy, on the clock of the rows. -/
structure Policy where
  rpo : Nat
  reminder : Nat
deriving DecidableEq, Repr

/-- The job rows and the alert of a target, and what was sent for it. -/
structure World where
  now : Nat
  jobs : List BackupJob
  alert : Option Alert := none
  messages : List Message := []
  anchor : Nat := 0
  silent : Option Nat := none

def World.status (w : World) : Option AlertStatus := w.alert.map Alert.status

/-- There is no alert, or it is resolved: an emission opens it. -/
def World.Closed (w : World) : Prop := w.status = none ∨ w.status = some .resolved

instance (w : World) : Decidable w.Closed := inferInstanceAs (Decidable (_ ∨ _))

/-- The check emits; `delivered` says whether the process gets from its commit to
`send_alert`. -/
def World.emit (w : World) (reminder : Nat) (delivered : Bool) (e : Emission) : World :=
  let (alert, shouldSend) := emitLifecycleAlert reminder w.now e w.alert
  let sent := shouldSend && delivered
  { w with
    alert := some alert
    messages := if sent then w.messages ++ [⟨w.now, e.severity, some e.kind⟩] else w.messages
    anchor := if sent = true ∨ w.Closed then w.now else w.anchor
    silent := if sent = true ∨ w.Closed then none
      else if shouldSend || e.suppressInitial then some w.now else w.silent }

/-- `_resolve_lifecycle_alert` -/
def World.resolve (w : World) (delivered : Bool) : World :=
  match w.alert with
  | none => w
  | some state =>
    if state.status = .resolved then w
    else { w with
      alert := some { state with status := .resolved, resolvedAt := some w.now }
      messages := if delivered then w.messages ++ [⟨w.now, .info, none⟩] else w.messages }

/-- What happens: a job row is made, its status changes, it is deleted, time passes, an operator
acknowledges the alert, and a check that finds `latest` and takes some time. -/
inductive Label
  | start (job : BackupJob)
  | setStatus (id : Nat) (status : JobStatus)
  | delete (id : Nat)
  | wait (time : Nat)
  | acknowledge
  | check (policy : Policy) (latest : Option BackupJob) (time : Nat) (delivered : Bool)

def World.check (w : World) (policy : Policy) (latest : Option BackupJob) (time : Nat)
    (delivered : Bool) : World :=
  let cutoff := w.now - policy.rpo
  let later := { w with now := w.now + time }
  match checkTarget cutoff latest with
  | some e => later.emit policy.reminder delivered e
  | none => later.resolve delivered

def step (target : Target) (w : World) : Label → Option World
  | .start job => some { w with jobs := w.jobs ++ [job] }
  | .setStatus id status => some { w with
      jobs := w.jobs.map fun j => if j.id = id then { j with status := status } else j }
  | .delete id => some { w with jobs := w.jobs.filter fun j => j.id ≠ id }
  | .wait time => some { w with now := w.now + time }
  | .acknowledge =>
    match w.alert with
    | none => none
    | some state =>
      if state.status = .resolved then none
      else some { w with alert := some { state with status := .acknowledged } }
  | .check policy latest time delivered =>
    if target.Newest w.jobs latest then some (w.check policy latest time delivered) else none

/-- The histories of a target. -/
def system (target : Target) : System World Label := ⟨step target⟩

/-! ## What is asked of a check -/

/-- A successful backup of the target since then. -/
def Target.Protected (t : Target) (jobs : List BackupJob) (cutoff : Nat) : Prop :=
  ∃ j ∈ jobs, t.selects j = true ∧ j.status = .success ∧ cutoff ≤ j.createdAt

/-- The alert is moved to RESOLVED by a check only, and only when there is a successful backup
within the RPO; while it stays OPEN with its severity, a check that is made a reminder's time or
more after the last message, or after the alert opened, sends a message. -/
def Lawful (t : Target) (w : World) (label : Label) (w' : World) : Prop :=
  match label with
  | .check policy _ _ _ =>
    (¬w.Closed → w'.status = some .resolved → t.Protected w.jobs (w.now - policy.rpo)) ∧
    (w.status = some .opened → w'.status = some .opened →
      w'.alert.map Alert.severity = w.alert.map Alert.severity →
      policy.reminder ≤ w'.now - w.anchor →
      ∃ m, w'.messages = w.messages ++ [m] ∧ m.sentAt = w'.now ∧
        w'.alert.map Alert.severity = some m.severity)
  | _ => ¬w.Closed → w'.status ≠ some .resolved

/-- A check that finds a running job within the RPO, with an alert that is not resolved, finds a
successful backup as well; one that finds none, a failed job or an old one when a reminder is due
comes a reminder's time after the last silent check, and gets to send. -/
def Sound (t : Target) (w : World) : Label → Prop
  | .check policy latest time delivered =>
    (¬w.Closed → ∀ j ∈ latest, j.status = .running → w.now - policy.rpo ≤ j.createdAt →
      t.Protected w.jobs (w.now - policy.rpo)) ∧
    (w.status = some .opened → (checkTarget (w.now - policy.rpo) latest).isSome = true →
      policy.reminder ≤ w.now + time - w.anchor →
      (∀ s ∈ w.silent, policy.reminder ≤ w.now + time - s) ∧ delivered = true)
  | _ => True

instance (t : Target) (jobs : List BackupJob) (cutoff : Nat) :
    Decidable (t.Protected jobs cutoff) :=
  inferInstanceAs (Decidable (∃ j ∈ jobs, _ ∧ _ ∧ _))

instance (t : Target) (w : World) : ∀ label, Decidable (Sound t w label)
  | .check _ _ _ _ => inferInstanceAs (Decidable (_ ∧ _))
  | .start _ | .setStatus _ _ | .delete _ | .wait _ | .acknowledge =>
    inferInstanceAs (Decidable True)

/-! ## Every reachable world -/

/-- The alert is a warning, and its clock stands at the last silent check or, without one, at the
last message. -/
def Kept (w : World) : Prop :=
  ∀ state ∈ w.alert, state.severity = .warning ∧
    (state.status ≠ .resolved → state.lastSentAt = some (w.silent.getD w.anchor))

variable {latest : Option BackupJob} {t : Target} {w : World}

theorem checkTarget_severity {cutoff : Nat} {e : Emission}
    (h : checkTarget cutoff latest = some e) : e.severity = .warning := by
  unfold checkTarget at h
  split at h
  · cases h
    rfl
  · split at h
    · cases h
      rfl
    · split at h
      · cases h
        rfl
      · cases h

theorem checkTarget_eq_none {cutoff : Nat} (h : checkTarget cutoff latest = none) :
    ∃ j, latest = some j ∧ j.status ≠ .failed ∧ cutoff ≤ j.createdAt := by
  unfold checkTarget at h
  split at h
  · cases h
  · rename_i j
    split at h
    · cases h
    · rename_i hstatus
      split at h
      · cases h
      · rename_i hage
        exact ⟨j, rfl, hstatus, Nat.le_of_not_lt hage⟩

theorem not_closed (h : ¬w.Closed) : ∃ state, w.alert = some state ∧ state.status ≠ .resolved := by
  unfold World.Closed World.status at h
  cases halert : w.alert with
  | none =>
    rw [halert] at h
    exact absurd (Or.inl rfl) h
  | some state =>
    refine ⟨state, rfl, ?_⟩
    intro hresolved
    rw [halert] at h
    exact h (Or.inr (congrArg some hresolved))

theorem closed_some {state : Alert} (halert : w.alert = some state) :
    w.Closed ↔ state.status = .resolved := by
  unfold World.Closed World.status
  rw [halert]
  simp

theorem shouldSend_iff (h : Kept w) {state : Alert} (halert : w.alert = some state)
    (hopen : state.status ≠ .resolved) (reminder : Nat) :
    state.shouldSend reminder w.now .warning = true ↔
      reminder ≤ w.now - w.silent.getD w.anchor := by
  obtain ⟨hseverity, hlast⟩ := h state halert
  unfold Alert.shouldSend
  rw [if_neg hopen, hseverity, if_neg (Nat.lt_irrefl _), hlast hopen]
  exact decide_eq_true_iff

theorem status_emit (w : World) (reminder : Nat) (delivered : Bool) (e : Emission) :
    (w.emit reminder delivered e).status = if w.Closed then some .opened else w.status := by
  cases halert : w.alert with
  | none =>
    have hclosed : w.Closed := by
      left
      unfold World.status
      rw [halert]
      rfl
    rw [if_pos hclosed]
    unfold World.emit World.status
    rw [halert]
    rfl
  | some state =>
    unfold World.emit
    rw [halert]
    show some (if state.status = .resolved then AlertStatus.opened else state.status) = _
    by_cases hresolved : state.status = .resolved
    · rw [if_pos hresolved, if_pos ((closed_some halert).mpr hresolved)]
    · rw [if_neg hresolved, if_neg (fun hc => hresolved ((closed_some halert).mp hc))]
      unfold World.status
      rw [halert]
      rfl

theorem kept_emit (h : Kept w) (reminder : Nat) (delivered : Bool) {e : Emission}
    (he : e.severity = .warning) : Kept (w.emit reminder delivered e) := by
  cases halert : w.alert with
  | none =>
    intro state hstate
    have hclosed : w.Closed := by
      left
      unfold World.status
      rw [halert]
      rfl
    unfold World.emit at hstate ⊢
    rw [halert] at hstate ⊢
    obtain rfl := Option.some.inj hstate
    refine ⟨he, fun _ => ?_⟩
    show some w.now = some (Option.getD (if _ then none else _) (if _ then w.now else w.anchor))
    rw [if_pos (Or.inr hclosed), if_pos (Or.inr hclosed)]
    rfl
  | some old =>
    intro state hstate
    unfold World.emit at hstate ⊢
    rw [halert] at hstate ⊢
    obtain rfl := Option.some.inj hstate
    refine ⟨he, fun _ => ?_⟩
    show (if old.shouldSend reminder w.now e.severity || e.suppressInitial then some w.now
        else old.lastSentAt) =
      some (Option.getD
        (if (old.shouldSend reminder w.now e.severity && delivered) = true ∨ w.Closed then none
          else if old.shouldSend reminder w.now e.severity || e.suppressInitial then some w.now
          else w.silent)
        (if (old.shouldSend reminder w.now e.severity && delivered) = true ∨ w.Closed then w.now
          else w.anchor))
    by_cases hsent : (old.shouldSend reminder w.now e.severity && delivered) = true ∨ w.Closed
    · have hsend : old.shouldSend reminder w.now e.severity = true := by
        rcases hsent with hboth | hclosed
        · exact (Bool.and_eq_true_iff.mp hboth).1
        · exact if_pos ((closed_some halert).mp hclosed)
      rw [if_pos hsent, if_pos hsent, hsend]
      rfl
    · rw [if_neg hsent, if_neg hsent]
      by_cases hadvance : (old.shouldSend reminder w.now e.severity || e.suppressInitial) = true
      · rw [if_pos hadvance, if_pos hadvance]
        rfl
      · rw [if_neg hadvance, if_neg hadvance]
        have hopen : old.status ≠ .resolved := by
          intro hresolved
          exact hsent (Or.inr ((closed_some halert).mpr hresolved))
        exact (h old halert).2 hopen

theorem kept_resolve (h : Kept w) (delivered : Bool) : Kept (w.resolve delivered) := by
  unfold World.resolve
  split
  · exact h
  · rename_i state halert
    split
    · exact h
    · intro s hs
      obtain rfl := Option.some.inj hs
      refine ⟨(h state halert).1, ?_⟩
      intro hne
      exact absurd rfl hne

theorem kept_check (h : Kept w) (policy : Policy) (latest : Option BackupJob) (time : Nat)
    (delivered : Bool) : Kept (w.check policy latest time delivered) := by
  have hlater : Kept { w with now := w.now + time } := h
  unfold World.check
  dsimp only
  split
  · rename_i e he
    exact kept_emit hlater policy.reminder delivered (checkTarget_severity he)
  · exact kept_resolve hlater delivered

theorem Kept.step {w' : World} {label : Label} (h : Kept w) (hs : step t w label = some w') :
    Kept w' := by
  cases label with
  | start | setStatus | delete | wait =>
    cases hs
    exact h
  | acknowledge =>
    simp only [BackupAlerts.step] at hs
    split at hs
    · cases hs
    · rename_i state halert
      split at hs
      · cases hs
      · rename_i hopen
        cases hs
        intro s hstate
        obtain rfl := Option.some.inj hstate
        exact ⟨(h state halert).1, fun _ => (h state halert).2 hopen⟩
  | check policy latest time delivered =>
    simp only [BackupAlerts.step] at hs
    split at hs
    · cases hs
      exact kept_check h policy latest time delivered
    · cases hs

/-! ## What a check does -/

theorem status_check_eq_resolved (hclosed : ¬w.Closed) (policy : Policy) (latest : Option BackupJob)
    (time : Nat) (delivered : Bool) :
    (w.check policy latest time delivered).status = some .resolved ↔
      checkTarget (w.now - policy.rpo) latest = none := by
  obtain ⟨state, halert, hopen⟩ := not_closed hclosed
  unfold World.check
  dsimp only
  cases hverdict : checkTarget (w.now - policy.rpo) latest with
  | some e =>
    have hlater : ¬World.Closed { w with now := w.now + time } := hclosed
    dsimp only
    rw [status_emit, if_neg hlater]
    unfold World.status
    dsimp only
    rw [halert]
    simp [hopen]
  | none =>
    dsimp only
    unfold World.resolve World.status
    dsimp only
    rw [halert]
    dsimp only
    rw [if_neg hopen]
    simp

theorem reminded_iff (h : Kept w) (hopen : w.status = some .opened) {policy : Policy} {time : Nat}
    {delivered : Bool} (hverdict : (checkTarget (w.now - policy.rpo) latest).isSome = true) :
    (∃ m, (w.check policy latest time delivered).messages = w.messages ++ [m] ∧
        m.sentAt = (w.check policy latest time delivered).now ∧
        (w.check policy latest time delivered).alert.map Alert.severity = some m.severity) ↔
      policy.reminder ≤ w.now + time - w.silent.getD w.anchor ∧ delivered = true := by
  obtain ⟨e, he⟩ := Option.isSome_iff_exists.mp hverdict
  have hwarning := checkTarget_severity he
  have hclosed : ¬w.Closed := by
    unfold World.Closed
    rw [hopen]
    simp
  obtain ⟨state, halert, hstatus⟩ := not_closed hclosed
  have hcheck : w.check policy latest time delivered =
      World.emit { w with now := w.now + time } policy.reminder delivered e := by
    unfold World.check
    dsimp only
    rw [he]
  have hdue := shouldSend_iff (w := { w with now := w.now + time }) h halert hstatus
    policy.reminder
  have hmessages : (w.check policy latest time delivered).messages =
      if (state.shouldSend policy.reminder (w.now + time) .warning && delivered) = true then
        w.messages ++ [⟨w.now + time, e.severity, some e.kind⟩] else w.messages := by
    rw [hcheck]
    unfold World.emit
    dsimp only
    rw [halert, ← hwarning]
    rfl
  have hseverity : (w.check policy latest time delivered).alert.map Alert.severity =
      some e.severity := by
    rw [hcheck]
    unfold World.emit
    dsimp only
    rw [halert]
    rfl
  have hnow : (w.check policy latest time delivered).now = w.now + time := by
    rw [hcheck]
    rfl
  rw [hmessages, hseverity, hnow, ← hdue, ← Bool.and_eq_true_iff]
  by_cases hsend : (state.shouldSend policy.reminder (w.now + time) .warning && delivered) = true
  · rw [if_pos hsend]
    exact ⟨fun _ => hsend, fun _ => ⟨_, rfl, rfl, rfl⟩⟩
  · rw [if_neg hsend]
    constructor
    · rintro ⟨m, hm, -⟩
      have hlength := congrArg List.length hm
      simp at hlength
    · intro hyes
      exact absurd hyes hsend

theorem severity_check (h : Kept w) (hclosed : ¬w.Closed) (policy : Policy)
    (latest : Option BackupJob) (time : Nat) (delivered : Bool) :
    (w.check policy latest time delivered).alert.map Alert.severity =
      w.alert.map Alert.severity := by
  obtain ⟨state, halert, hopen⟩ := not_closed hclosed
  have hwarning := (h state halert).1
  cases halert' : (w.check policy latest time delivered).alert with
  | none =>
    unfold World.check at halert'
    dsimp only at halert'
    split at halert'
    · cases halert'
    · unfold World.resolve at halert'
      dsimp only at halert'
      rw [halert] at halert'
      dsimp only at halert'
      rw [if_neg hopen] at halert'
      cases halert'
  | some state' =>
    have hkept := kept_check h policy latest time delivered
    rw [halert]
    show some state'.severity = some state.severity
    rw [(hkept state' halert').1, hwarning]

theorem recovered_iff (hclosed : ¬w.Closed) {policy : Policy} (hnewest : t.Newest w.jobs latest)
    (time : Nat) (delivered : Bool) :
    ((w.check policy latest time delivered).status = some .resolved →
        t.Protected w.jobs (w.now - policy.rpo)) ↔
      ∀ j ∈ latest, j.status = .running → w.now - policy.rpo ≤ j.createdAt →
        t.Protected w.jobs (w.now - policy.rpo) := by
  rw [status_check_eq_resolved hclosed]
  constructor
  · intro h j hj hrunning hage
    apply h
    obtain rfl := Option.mem_def.mp hj
    unfold checkTarget
    dsimp only
    rw [if_neg, if_neg (Nat.not_lt.mpr hage)]
    rw [hrunning]
    decide
  · intro h hnone
    obtain ⟨j, rfl, hnotfailed, hage⟩ := checkTarget_eq_none hnone
    cases hstatus : j.status with
    | running => exact h j rfl hstatus hage
    | success => exact ⟨j, hnewest.1, hnewest.2.1, hstatus, hage⟩
    | failed => exact absurd hstatus hnotfailed

theorem due_iff (h : Kept w) (hopen : w.status = some .opened) (policy : Policy)
    (latest : Option BackupJob) (time : Nat) (delivered : Bool) :
    ((w.check policy latest time delivered).status = some .opened →
        (w.check policy latest time delivered).alert.map Alert.severity =
          w.alert.map Alert.severity →
        policy.reminder ≤ (w.check policy latest time delivered).now - w.anchor →
        ∃ m, (w.check policy latest time delivered).messages = w.messages ++ [m] ∧
          m.sentAt = (w.check policy latest time delivered).now ∧
          (w.check policy latest time delivered).alert.map Alert.severity = some m.severity) ↔
      ((checkTarget (w.now - policy.rpo) latest).isSome = true →
        policy.reminder ≤ w.now + time - w.anchor →
        (∀ s ∈ w.silent, policy.reminder ≤ w.now + time - s) ∧ delivered = true) := by
  have hclosed : ¬w.Closed := by
    unfold World.Closed
    rw [hopen]
    simp
  have hnow : (w.check policy latest time delivered).now = w.now + time := by
    obtain ⟨state, halert, hstatus⟩ := not_closed hclosed
    unfold World.check
    dsimp only
    split
    · rfl
    · unfold World.resolve
      dsimp only
      rw [halert]
      dsimp only
      rw [if_neg hstatus]
  have hstays : (w.check policy latest time delivered).status = some .opened ↔
      (checkTarget (w.now - policy.rpo) latest).isSome = true := by
    cases hverdict : checkTarget (w.now - policy.rpo) latest with
    | none =>
      rw [(status_check_eq_resolved hclosed policy latest time delivered).mpr hverdict]
      simp
    | some e =>
      have hlater : ¬World.Closed { w with now := w.now + time } := hclosed
      unfold World.check
      dsimp only
      rw [hverdict]
      dsimp only
      rw [status_emit, if_neg hlater]
      simpa [World.status] using hopen
  rw [hstays]
  constructor
  · intro hlaw hverdict hdue
    have hsent := hlaw hverdict (severity_check h hclosed policy latest time delivered)
      (by rw [hnow]; exact hdue)
    obtain ⟨htime, hdelivered⟩ := (reminded_iff h hopen hverdict).mp hsent
    refine ⟨?_, hdelivered⟩
    intro s hs
    rw [Option.mem_def.mp hs] at htime
    exact htime
  · intro hsound hverdict _ hdue
    rw [hnow] at hdue
    obtain ⟨hsilent, hdelivered⟩ := hsound hverdict hdue
    apply (reminded_iff h hopen hverdict).mpr
    refine ⟨?_, hdelivered⟩
    cases hs : w.silent with
    | none => exact hdue
    | some s => exact hsilent s hs

/-- **Step lemma.** -/
theorem check_lawful_iff {w' : World} {label : Label} (h : Kept w) (hs : step t w label = some w') :
    Lawful t w label w' ↔ Sound t w label := by
  cases label with
  | start | setStatus | delete | wait =>
    cases hs
    exact ⟨fun _ => True.intro, fun _ hclosed hresolved => hclosed (Or.inr hresolved)⟩
  | acknowledge =>
    simp only [step] at hs
    split at hs
    · cases hs
    · split at hs
      · cases hs
      · cases hs
        refine ⟨fun _ => True.intro, fun _ _ hresolved => ?_⟩
        cases Option.some.inj hresolved
  | check policy latest time delivered =>
    simp only [step] at hs
    split at hs
    · rename_i hnewest
      cases hs
      unfold Lawful Sound
      constructor
      · rintro ⟨hrecovered, hreminded⟩
        constructor
        · intro hclosed
          exact (recovered_iff hclosed hnewest time delivered).mp (hrecovered hclosed)
        · intro hopen
          exact (due_iff h hopen policy latest time delivered).mp (hreminded hopen)
      · rintro ⟨hrunning, hsilent⟩
        constructor
        · intro hclosed
          exact (recovered_iff hclosed hnewest time delivered).mpr (hrunning hclosed)
        · intro hopen
          exact (due_iff h hopen policy latest time delivered).mpr (hsilent hopen)
    · cases hs

/-! ## Main results -/

/-- **Main theorem.**  In every history of a target its alert is resolved on a successful backup
only, and reminded of in time, exactly when every check of the history meets the condition. -/
theorem alerts_iff (t : Target) (now : Nat) (jobs : List BackupJob) (labels : List Label)
    (w : World) (hrun : (system t).run { now := now, jobs := jobs } labels = some w) :
    (system t).Always (Lawful t) { now := now, jobs := jobs } labels ↔
      (system t).Meets (Sound t) { now := now, jobs := jobs } labels := by
  apply (system t).always_iff_meets_of (Lawful t) (Sound t) Kept _ labels _ w _ hrun
  · intro w label w' h hs
    exact ⟨check_lawful_iff h hs, fun _ => h.step hs⟩
  · intro state hstate
    cases hstate

/-- An image of the default cluster. -/
def webImage : Target := ⟨none, some "rbd", some "web", none⟩

def fullBackup (id : Nat) (status : JobStatus) (createdAt : Nat) : BackupJob where
  id := id
  clusterId := none
  pool := some "rbd"
  image := some "web"
  jobType := .full
  status := status
  baseJobId := none
  backupTargetSlot := none
  remoteKey := none
  sizeBytes := none
  sha256 := none
  createdAt := createdAt

/-- 24 hours and one hour, in minutes. -/
def usualPolicy : Policy := ⟨1440, 60⟩

/-- No backup at all, an hour later none again, then one that succeeds. -/
def recovery : List Label :=
  [.check usualPolicy none 0 true, .wait 60, .check usualPolicy none 0 true, .wait 30,
    .start (fullBackup 0 .running 90), .wait 10, .setStatus 0 .success,
    .check usualPolicy (some (fullBackup 0 .success 90)) 0 true]

theorem alerts_iff_recovery :
    (system webImage).Always (Lawful webImage) { now := 0, jobs := [] } recovery :=
  (alerts_iff webImage 0 [] recovery _ rfl).mpr (by decide)

/-- A backup fails and is tried again. -/
def retried : List Label :=
  [.start (fullBackup 0 .failed 2000), .check usualPolicy (some (fullBackup 0 .failed 2000)) 0 true,
    .start (fullBackup 1 .running 2000),
    .check usualPolicy (some (fullBackup 1 .running 2000)) 0 true]

/-- A failed backup, looked at every half an hour. -/
def halfHours : List Label :=
  [.start (fullBackup 0 .failed 2000), .check usualPolicy (some (fullBackup 0 .failed 2000)) 0 true,
    .wait 30, .check usualPolicy (some (fullBackup 0 .failed 2000)) 0 true,
    .wait 30, .check usualPolicy (some (fullBackup 0 .failed 2000)) 0 true,
    .wait 30, .check usualPolicy (some (fullBackup 0 .failed 2000)) 0 true]

/-- The alert is resolved while the retry runs; the failure is never reminded of. -/
theorem resolved_while_running :
    (∃ w, (system webImage).run { now := 2000, jobs := [] } retried = some w ∧
      w.status = some .resolved ∧ ∀ j ∈ w.jobs, j.status ≠ .success) ∧
    ∃ w, (system webImage).run { now := 2000, jobs := [] } halfHours = some w ∧
      w.status = some .opened ∧ usualPolicy.reminder < w.now - w.anchor ∧ w.messages = [] :=
  ⟨⟨_, rfl, by decide, by decide⟩, ⟨_, rfl, by decide, by decide, by decide⟩⟩

end CephAi.Ports.BackupAlerts
