import CephAi.Ports.ApprovedExecution
import Mathlib.Data.List.Sort

/-!
# What the Watcher closes

The two transactions of a successful health poll: `verify_pending_incidents` of
`watcher/verify.py`, which asks whether a command that ran has removed the
fault, and `_resolve_recovered_incidents` of `watcher/main.py`, which closes
what Ceph no longer reports.  Each is one transaction over the rows it locks;
no row's verdict depends on what the transaction writes to another one.

## Main results

* `verify_incident?`, `recover_incident?` — an Incident after a transaction.
* `status_verify`, `status_recover` — when they close it.
-/

namespace CephAi.Ports.Verification

open Verified Models ApprovedExecution

/-! ## Case memory -/

/-- `RemediationCase.outcome`, as far as these paths write it. -/
inductive CaseOutcome
  | proposed
  | executedPendingVerify
  | executionFailed
  | verifiedSuccess
  | verifiedFailed
  | inconclusive
deriving DecidableEq, Repr

/-- `registry` of a contract snapshot. -/
structure Registry where
  actionId : String
  version : String
  postcheck : String
deriving DecidableEq, Repr

/-- A contract snapshot: the registry when it is a mapping, and the post-check
contract with its defaults.  The time limit is missing when it is malformed. -/
structure Snapshot where
  registry : Option Registry
  healthFloor : String := "NO_NEW_CRITICAL"
  timeoutSeconds : Option Int := some 300
deriving DecidableEq, Repr

/-- A row of `remediation_cases`.  `preflight` is `preflight_snapshot_json`:
the column may be empty, and its text may not be a mapping. -/
structure Case where
  action : Nat
  incident : Nat
  outcome : CaseOutcome
  playbookVersion : String
  preflight : Option (Option Snapshot)
deriving DecidableEq, Repr

/-- The database with its case memory. -/
structure Store where
  db : Db
  cases : List Case
deriving DecidableEq, Repr

def recordExecution (cases : List Case) (pk : Nat) (succeeded : Bool) :
    List Case :=
  cases.map (fun c =>
    if c.action = pk then
      { c with
        outcome := if succeeded then .executedPendingVerify else .executionFailed }
    else c)

def recordVerified (cases : List Case) (incidentId : Nat) (succeeded : Bool) :
    List Case :=
  cases.map (fun c =>
    if c.incident = incidentId ∧
        (c.outcome = .executedPendingVerify ∨ c.outcome = .proposed) then
      { c with outcome := if succeeded then .verifiedSuccess else .verifiedFailed }
    else c)

def recordInconclusive (cases : List Case) (pk : Nat) : List Case :=
  cases.map (fun c => if c.action = pk then { c with outcome := .inconclusive } else c)

/-! ## The post-check -/

/-- `PostcheckResult.outcome`. -/
inductive Postcheck
  | passed
  | failed
  | inconclusive
deriving DecidableEq, Repr

def postcheckHooks : List String :=
  ["fresh_health_telemetry", "node_and_cluster_health_telemetry",
    "osd_and_fault_health_telemetry", "osd_release_health_telemetry",
    "pool_application_health_telemetry", "pool_pg_health_telemetry"]

def healthFloors : List String := ["NO_NEW_CRITICAL"]

/-- A successful poll: the codes it saw, the overall status of its health
report, the cluster it is for, and the rows that other sessions had locked. -/
structure Poll where
  currentCodes : List String
  health : Option String
  clusterId : Option String
  now : Nat
  locked : List Nat
deriving DecidableEq, Repr

/-- The code of the Incident is still reported. -/
def Poll.sees (p : Poll) (i : Incident) : Bool := p.currentCodes.contains i.cephCode

/-- `_fault_absence_postcheck`, the strategy of every hook. -/
def faultAbsence (faultPresent : Bool) : Postcheck :=
  if faultPresent then .failed else .passed

def runPostcheck (hook : String) (faultPresent : Bool) (health : Option String)
    (healthFloor : String) : Postcheck :=
  if !postcheckHooks.contains hook then .inconclusive
  else if !healthFloors.contains healthFloor then .inconclusive
  else
    match health with
    | some overall =>
      if ["HEALTH_ERR", "HEALTH_CRITICAL", "CRITICAL", "ERROR"].contains
          overall.toUpper then .inconclusive
      else faultAbsence faultPresent
    | none => faultAbsence faultPresent

def resolveCasePostcheck (actionId playbookVersion : String)
    (snapshot : Option Snapshot) : Option (Snapshot × String) :=
  match snapshot with
  | none => none
  | some s =>
    match s.registry with
    | none => none
    | some r =>
      if r.actionId = actionId ∧ r.version = playbookVersion ∧
          postcheckHooks.contains r.postcheck then some (s, r.postcheck)
      else none

/-- The order `executed_at DESC`, in which rows without a time come first. -/
def executedLater (a b : Action) : Bool :=
  match a.executedAt, b.executedAt with
  | none, _ => true
  | some _, none => false
  | some x, some y => decide (y ≤ x)

def latestExecuted (db : Db) (incidentId : Nat) : Option Action :=
  ((db.actions.filter (fun a => a.incidentId == incidentId &&
    [ActionStatus.executed, .autoExecuted].contains a.status)).insertionSort
      (fun a b => executedLater a b = true)).head?

/-- The time limit of a post-check has passed, or is none. -/
def timedOut (executedAt : Option Nat) (timeout : Int) (now : Nat) : Bool :=
  timeout ≤ 0 || 24 * 60 * 60 < timeout ||
    (match executedAt with
    | some t => decide ((t : Int) + timeout ≤ (now : Int))
    | none => false)

def evaluateLatestPostcheck (st : Store) (p : Poll) (i : Incident) :
    Postcheck × Option Action :=
  match latestExecuted st.db i.id with
  | none => (.inconclusive, none)
  | some a =>
    match st.cases.find? (fun c => c.action == a.id) with
    | none => (faultAbsence (p.sees i), some a)
    | some c =>
      match c.preflight with
      | none => (faultAbsence (p.sees i), some a)
      | some snapshot =>
        match resolveCasePostcheck a.actionId c.playbookVersion snapshot with
        | none => (.inconclusive, some a)
        | some (s, hook) =>
          match s.timeoutSeconds with
          | none => (.inconclusive, some a)
          | some timeout =>
            if timedOut a.executedAt timeout p.now then (.inconclusive, some a)
            else (runPostcheck hook (p.sees i) p.health s.healthFloor, some a)

/-! ## `verify_pending_incidents` -/

/-- The Incident is due for verification, and not left to a monitor. -/
def verifyDue (p : Poll) (i : Incident) : Bool :=
  i.status == .verifying && i.verifyAfter.any (fun t => decide (t ≤ p.now)) &&
    i.clusterId == p.clusterId && !p.locked.contains i.id &&
    !isMonitorOwned i.cephCode

/-- What the verdict makes of a due Incident. -/
def verifyWrite (settings : VerifySettings) (st : Store) (p : Poll)
    (i : Incident) : IncidentWrite :=
  match (evaluateLatestPostcheck st p i).1 with
  | .inconclusive => { status := some .failed, verifyAfter := some none }
  | .passed => { status := some .resolved, verifyAfter := some none }
  | .failed =>
    let attempts := i.verifyAttempts + 1
    if max 1 settings.verifyMaxAttempts ≤ attempts then
      { status := some .failed, verifyAfter := some none,
        verifyAttempts := some attempts }
    else
      -- the message that asks for another diagnosis is in the same transaction
      { status := some .diagnosing, verifyAfter := some none,
        verifyAttempts := some attempts }

/-- What the verdict on a due Incident records in the case memory. -/
def verifyCases (settings : VerifySettings) (st : Store) (p : Poll)
    (i : Incident) (cases : List Case) : List Case :=
  match evaluateLatestPostcheck st p i with
  | (.inconclusive, some a) => recordInconclusive cases a.id
  | (.inconclusive, none) => cases
  | (.passed, _) => recordVerified cases i.id true
  | (.failed, _) =>
    if max 1 settings.verifyMaxAttempts ≤ i.verifyAttempts + 1 then
      recordVerified cases i.id false
    else cases

def verifyPendingIncidents (settings : VerifySettings) (st : Store) (p : Poll) :
    Store where
  db :=
    { st.db with
      incidents := Table.update st.db.incidents (verifyDue p)
        (fun i => (verifyWrite settings st p i).apply i) }
  cases :=
    (st.db.incidents.filter (verifyDue p)).foldl
      (fun cases i => verifyCases settings st p i cases) st.cases

/-! ## `_resolve_recovered_incidents` -/

def operatorVolumeCephCodes : List String :=
  ["RBD_TRASH_REMOVE", "RBD_TRASH_PURGE_ALL", "RBD_VOLUME_CREATE",
    "RBD_VOLUME_RESIZE", "RBD_VOLUME_RENAME", "RBD_VOLUME_TRASH_MOVE",
    "RBD_VOLUME_TRASH_RESTORE", "CINDER_VOLUME_ATTACH", "CINDER_VOLUME_DETACH",
    "CINDER_SNAPSHOT_CREATE", "VOLUME_PERF_SWEEP", "VM_PERF_BENCHMARK"]

def operatorRequestCodes : List String :=
  ["BACKUP_MANUAL", "BACKUP_SCHEDULED", "CHAT_REQUEST",
    "CINDER_SNAPSHOT_CREATE", "CINDER_SNAPSHOT_DELETE",
    "CINDER_SNAPSHOT_SCHEDULED", "CINDER_VOLUME_ATTACH",
    "CINDER_VOLUME_DETACH", "CLUSTER_DELETE", "CLUSTER_DEPLOY",
    "CLUSTER_NODE_ADD", "CLUSTER_NODE_REMOVE", "CLUSTER_UPGRADE",
    "CONVERT_CLUSTER_TO_CEPHADM", "NODE_MAINTENANCE", "NODE_OS_GATE",
    "OSD_REPLACE", "POOL_ACTION_REQUEST", "POOL_CREATE_REQUEST",
    "RBD_TRASH_PURGE_ALL", "RBD_TRASH_REMOVE", "RBD_VOLUME_CLONE",
    "RBD_VOLUME_COPY", "RBD_VOLUME_CREATE", "RBD_VOLUME_FLATTEN",
    "RBD_VOLUME_MOVE", "RBD_VOLUME_MOVE_CLEANUP", "RBD_VOLUME_QOS",
    "RBD_VOLUME_RENAME", "RBD_VOLUME_RESIZE", "RBD_VOLUME_TEMPLATE",
    "RBD_VOLUME_TRASH_MOVE", "RBD_VOLUME_TRASH_RESTORE",
    "RESTORE_CLUSTER_FROM_BACKUP", "RESTORE_RBD_IMAGE_AS_NEW",
    "RESTORE_RBD_IMAGE_TO_PRODUCTION", "VM_PERF_BENCHMARK",
    "VOLUME_PERF_SWEEP"]

/-- The families `_resolve_recovered_incidents` leaves to other modules. -/
def familyPrefixes : List String :=
  ["FILE_SERVICE_CHANGE:", "PERFORMANCE_RCA:", "VOLUME_SATURATED:",
    "DEVICE_HEALTH_EVACUATE:", "NODE_RESOURCE_HIGH:", "NODE_UNREACHABLE:",
    "BLUESTORE_NO_PER_POOL_OMAP:", "OSD_LATENCY_HIGH:", "LOG_ANOMALY:",
    "CRUSH_SKEW_USE:", "CRUSH_SKEW_PG:"]

/-- The codes it leaves alone besides those of the operators' requests. -/
def familyCodes : List String :=
  ["CHAT_REQUEST", "CLUSTER_UPGRADE", "CRUSH_SKEW_USE", "CRUSH_SKEW_PG",
    "DATABASE_SIZE_HIGH"]

/-- The code is never one of a health check. -/
def ownedElsewhere (cephCode : String) : Bool :=
  operatorVolumeCephCodes.contains cephCode ||
    operatorRequestCodes.contains cephCode || familyCodes.contains cephCode ||
    familyPrefixes.any (fun p => p.toList.isPrefixOf cephCode.toList)

def recoverableStatuses : List IncidentStatus :=
  [.new, .diagnosing, .pendingApproval, .approved, .executing, .verifying,
    .failed]

/-- A recovery pass.  `quiet` lists the checks whose quiet period is over on
the clock that this process keeps in memory. -/
structure Recovery where
  currentCodes : List String
  clusterId : Option String
  includeLegacyNull : Bool
  quiet : List (Option String × String)
  locked : List Nat
deriving DecidableEq, Repr

/-- The verdicts of `resolve_grace.decide`; `recurred` counts as `present`. -/
inductive GraceDecision
  | present
  | hold
  | resolve
deriving DecidableEq, Repr

def Recovery.decide (p : Recovery) (i : Incident) : GraceDecision :=
  if p.currentCodes.contains i.cephCode then .present
  else if p.quiet.contains (i.clusterId, i.cephCode) then .resolve
  else .hold

/-- The Incident is resolved by this pass. -/
def recovers (p : Recovery) (i : Incident) : Bool :=
  recoverableStatuses.contains i.status && i.status != .verifying &&
    (i.clusterId == p.clusterId || (p.includeLegacyNull && i.clusterId.isNone)) &&
    !p.locked.contains i.id && !i.synthetic && !ownedElsewhere i.cephCode &&
    p.decide i == .resolve

/-- `_CANCELLABLE_STATUSES`. -/
def cancellable (a : Action) : Bool :=
  [ActionStatus.pending, .pendingApproval].contains a.status

/-- `_resolve_recovered_incidents`, with `cancel_pending_actions`. -/
def resolveRecoveredIncidents (st : Store) (p : Recovery) : Store :=
  { st with
    db :=
      { st.db with
        actions := Table.update st.db.actions
          (fun a => cancellable a &&
            (st.db.incident? a.incidentId).any (recovers p))
          (ActionWrite.apply { status := some .rejected })
        incidents := Table.update st.db.incidents (recovers p)
          (IncidentWrite.apply { status := some .resolved }) } }

/-! ## An Incident after a transaction -/

theorem verify_incident? (settings : VerifySettings) (st : Store) (p : Poll) (i : Nat) :
    (verifyPendingIncidents settings st p).db.incident? i =
      (st.db.incident? i).map (fun row =>
        if verifyDue p row then (verifyWrite settings st p row).apply row
        else row) :=
  Table.get_update st.db.incidents (verifyDue p)
    (fun row => (verifyWrite settings st p row).apply row) (fun _ => rfl) i

theorem recover_incident? (st : Store) (p : Recovery) (i : Nat) :
    (resolveRecoveredIncidents st p).db.incident? i =
      (st.db.incident? i).map (fun row =>
        if recovers p row then
          IncidentWrite.apply { status := some .resolved } row
        else row) :=
  Table.get_update st.db.incidents (recovers p)
    (IncidentWrite.apply { status := some .resolved }) (fun _ => rfl) i

def closedStatuses : List IncidentStatus := [.resolved, .autoFixed, .rejected]

variable {row : Incident}

theorem status_verify {settings : VerifySettings} {st : Store} {p : Poll}
    (hopen : row.status ∉ closedStatuses)
    (hclosed : (if verifyDue p row then
      (verifyWrite settings st p row).apply row else row).status ∈
        closedStatuses) :
    verifyDue p row = true ∧ (evaluateLatestPostcheck st p row).1 = .passed := by
  cases hdue : verifyDue p row with
  | false =>
    rw [hdue, if_neg Bool.false_ne_true] at hclosed
    exact absurd hclosed hopen
  | true =>
    rw [hdue, if_pos rfl] at hclosed
    refine ⟨rfl, ?_⟩
    cases hverdict : (evaluateLatestPostcheck st p row).1 with
    | passed => rfl
    | inconclusive =>
      simp [verifyWrite, hverdict, IncidentWrite.apply, closedStatuses]
        at hclosed
    | failed =>
      simp only [verifyWrite, hverdict] at hclosed
      by_cases hmax : max 1 settings.verifyMaxAttempts ≤ row.verifyAttempts + 1
      · rw [if_pos hmax] at hclosed
        simp [IncidentWrite.apply, closedStatuses] at hclosed
      · rw [if_neg hmax] at hclosed
        simp [IncidentWrite.apply, closedStatuses] at hclosed

theorem status_recover {p : Recovery} (hopen : row.status ∉ closedStatuses)
    (hclosed : (if recovers p row then
      IncidentWrite.apply { status := some .resolved } row else row).status ∈
        closedStatuses) : recovers p row = true := by
  cases hrec : recovers p row with
  | true => rfl
  | false =>
    rw [hrec, if_neg Bool.false_ne_true] at hclosed
    exact absurd hclosed hopen

theorem recovers_absent {p : Recovery} (h : recovers p row = true) :
    row.cephCode ∉ p.currentCodes := by
  unfold recovers at h
  have hdecide : p.decide row = .resolve := by
    simp only [Bool.and_eq_true, beq_iff_eq] at h
    exact h.2
  intro hseen
  unfold Recovery.decide at hdecide
  rw [if_pos (List.contains_iff_mem.mpr hseen)] at hdecide
  cases hdecide

end CephAi.Ports.Verification
