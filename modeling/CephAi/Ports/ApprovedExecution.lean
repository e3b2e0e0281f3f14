import CephAi.Ports.Models

/-!
# Transactions of the execution paths

The transactions of `worker/llm/router_client.py` around a command: those of
`_execute_approved_action` for an Action that an operator approved, those of
the grace poller and `_maybe_execute_safe_action` for an autonomous one, and
`reconcile_interrupted_approved_executions` at the start of a Worker.

An approved Action is read in one transaction and claimed, through its
Incident, in the next; the command runs and its result is recorded after that.

## Main results

* `recheck_some`, `recheck_none` — what the first transaction finds and leaves.
* `recheck_eq_some_iff` — when it lets an Action pass.
* `claim_eq_some` — when a claim succeeds.
-/

namespace CephAi.Ports.ApprovedExecution

open Verified Models

/-! ## Policy -/

/-- The lists of `action_policy.yaml`. -/
structure ActionPolicy where
  destructive : List String
  risky : List String
  safe : List String
  readOnly : List String

/-- `gate.classify_action` with a session: an override other than `READ_ONLY`
comes first, then the most conservative list, then `RISKY`. -/
def ActionPolicy.classifyAction (p : ActionPolicy)
    (overrides : List (String × ActionClassification)) (actionId : String) :
    ActionClassification :=
  match (overrides.lookup actionId).filter (fun c => c != .readOnly) with
  | some c => c
  | none =>
    if p.destructive.contains actionId then .destructive
    else if p.risky.contains actionId then .risky
    else if p.safe.contains actionId then .safe
    else if p.readOnly.contains actionId then .readOnly
    else .risky

def legacyHash : String := String.ofList (List.replicate 64 '0')

/-- The Action has no change-risk fingerprint yet. -/
def legacyAssessment (a : Action) : Bool :=
  match a.assessment with
  | none => true
  | some r => r.assessmentHash == legacyHash

/-- `change_risk.assess_and_record`, then the acknowledgement of a legacy row. -/
def reassess (a : Action) (fingerprint : String) : Assessment where
  assessmentHash := fingerprint
  acknowledgedHash :=
    if legacyAssessment a then some fingerprint
    else a.assessment.bind Assessment.acknowledgedHash

/-! ## An approved Action -/

/-- The first transaction of `_execute_approved_action`: the Incident to claim,
when nothing stops the Action here. -/
def recheck (policy : ActionPolicy) (db : Db) (pk : Nat)
    (fingerprint : String) : Db × Option Nat :=
  match db.action? pk with
  | none => (db, none)
  | some a =>
    if a.status ≠ .approved then (db, none)
    else if db.syntheticOf a.incidentId = some true then
      (db.write pk { status := some .rejected }
        a.incidentId { status := some .rejected }, none)
    else
      let effective := policy.classifyAction db.overrides a.actionId
      if a.classification ≠ effective then
        (db.write pk
          { status := some .pendingApproval, classification := some effective }
          a.incidentId { status := some .pendingApproval }, none)
      else
        let assessment := reassess a fingerprint
        if assessment.acknowledgedHash ≠ some fingerprint then
          (db.write pk
            { status := some .pendingApproval, assessment := some assessment }
            a.incidentId { status := some .pendingApproval }, none)
        else
          (db.writeAction pk { assessment := some assessment },
            some a.incidentId)

/-- The claim: `UPDATE incidents SET status = 'EXECUTING' WHERE id = ... AND
status != 'EXECUTING'`; `none` when no row was updated. -/
def claim (db : Db) (incidentId : Nat) : Option Db :=
  match db.incidentStatus incidentId with
  | none => none
  | some status =>
    if status = .executing then none
    else some (db.writeIncident incidentId { status := some .executing })

/-- The codes `is_monitor_owned` compares for equality. -/
def exactCodes : List String :=
  ["CHAT_REQUEST", "CLUSTER_UPGRADE", "DATABASE_SIZE_HIGH", "CRUSH_SKEW_USE",
    "CRUSH_SKEW_PG"]

/-- The prefixes `is_monitor_owned` looks for. -/
def monitorPrefixes : List String :=
  ["VOLUME_SATURATED:", "DEVICE_HEALTH_EVACUATE:", "NODE_RESOURCE_HIGH:",
    "BLUESTORE_NO_PER_POOL_OMAP:", "OSD_LATENCY_HIGH:", "CRUSH_SKEW_USE:",
    "CRUSH_SKEW_PG:"]

def isMonitorOwned (cephCode : String) : Bool :=
  cephCode != "" && (exactCodes.contains cephCode ||
    monitorPrefixes.any (fun p => p.toList.isPrefixOf cephCode.toList))

/-- `settings.incident_verify_delay_seconds`. -/
structure VerifySettings where
  verifyDelaySeconds : Nat
  verifyMaxAttempts : Nat

/-- What `_record_approved_execution_result` writes to the Incident. -/
def approvedOutcome (settings : VerifySettings) (cephCode : String)
    (succeeded : Bool) (now : Nat) : IncidentWrite :=
  if !succeeded then { status := some .failed }
  else if isMonitorOwned cephCode then { status := some .resolved }
  else
    { status := some .verifying
      verifyAfter := some (some (now + settings.verifyDelaySeconds)) }

def recordApprovedExecutionResult (settings : VerifySettings) (db : Db)
    (pk : Nat) (succeeded : Bool) (now : Nat) : Db :=
  match db.action? pk with
  | none => db
  | some a =>
    let action : ActionWrite :=
      if succeeded then { status := some .executed, executedAt := some now }
      else { status := some .failed }
    match db.incident? a.incidentId with
    | none => db.writeAction pk action
    | some i =>
      db.write pk action a.incidentId
        (approvedOutcome settings i.cephCode succeeded now)

/-- An Action that a stopped Worker left behind. -/
def interrupted (db : Db) (a : Action) : Bool :=
  a.status == .approved && db.incidentStatus a.incidentId == some .executing

/-- `reconcile_interrupted_approved_executions`. -/
def reconcileInterrupted (db : Db) : Db :=
  { db with
    actions := Table.update db.actions (interrupted db)
      (ActionWrite.apply { status := some .inconclusive })
    incidents := Table.update db.incidents
      (fun i => db.actions.any (fun a => interrupted db a && a.incidentId == i.id))
      (IncidentWrite.apply { status := some .failed }) }

/-! ## An autonomous Action -/

/-- The check of `_process_due_grace_actions_once` on one due Action: its
Incident, when the Action is still waiting. -/
def graceDue (db : Db) (pk : Nat) : Option Nat :=
  match db.action? pk with
  | none => none
  | some a =>
    if a.status = .gracePending ∧ a.hasCase ∧
        (db.incident? a.incidentId).isSome then some a.incidentId
    else none

/-- The write of `_process_due_grace_actions_once`; the Action goes on when its
columns can be parsed. -/
def resumeGrace (db : Db) (pk incidentId : Nat) : Db × Bool :=
  match db.action? pk with
  | none => (db, false)
  | some a =>
    if a.readable then
      (db.write pk { status := some .pending } incidentId
        { status := some .diagnosing }, true)
    else
      (db.write pk { status := some .pendingApproval } incidentId
        { status := some .pendingApproval }, false)

/-- `_route_safe_to_approval`, and the gates that write the same. -/
def routeSafeToApproval (db : Db) (pk incidentId : Nat) : Db :=
  db.write pk { status := some .pendingApproval } incidentId
    { status := some .pendingApproval }

/-- The grace period of `_maybe_execute_safe_action`; `none` when the Action has
had one. -/
def startGrace (db : Db) (pk incidentId until_ : Nat) : Option Db :=
  match db.action? pk with
  | none => none
  | some a =>
    if a.graceUntil.isSome then none
    else
      some (db.write pk
        { status := some .gracePending, graceUntil := some until_ }
        incidentId { status := some .gracePending })

/-- The last transaction of `_maybe_execute_safe_action` before the command. -/
def beginSafe (db : Db) (pk incidentId : Nat) : Db :=
  db.write pk { status := some .executing } incidentId
    { status := some .executing }

def recordExecutionResult (settings : VerifySettings) (db : Db)
    (pk incidentId : Nat) (succeeded : Bool) (now : Nat) : Db :=
  let action : ActionWrite :=
    if succeeded then { status := some .autoExecuted, executedAt := some now }
    else { status := some .failed }
  let delay : Nat :=
    match db.incident? incidentId with
    | some i =>
      if i.cephCode = "OSD_DOWN" then 30 else settings.verifyDelaySeconds
    | none => 0
  db.write pk action incidentId
    (if succeeded then
      { status := some .verifying, verifyAfter := some (some (now + delay)) }
    else { status := some .failed })

/-! ## What the transactions do to the rows -/

/-- The Actions and Incidents an Action transaction leaves alone: all but its
own.  Links and the kind of evidence never change. -/
structure Touches (pk incidentId : Nat) (db db' : Db) : Prop where
  links : db'.links = db.links
  incidentOf : ∀ pk', db'.incidentOf pk' = db.incidentOf pk'
  synthetic : ∀ i, db'.syntheticOf i = db.syntheticOf i
  status : ∀ pk', pk' ≠ pk → db'.statusOf pk' = db.statusOf pk'
  incident : ∀ i, i ≠ incidentId → db'.incidentStatus i = db.incidentStatus i

theorem Touches.refl (pk incidentId : Nat) (db : Db) :
    Touches pk incidentId db db :=
  ⟨rfl, fun _ => rfl, fun _ => rfl, fun _ _ => rfl, fun _ _ => rfl⟩

theorem touches_writeAction (db : Db) (pk incidentId : Nat) (w : ActionWrite) :
    Touches pk incidentId db (db.writeAction pk w) where
  links := by simp
  incidentOf := by simp
  synthetic := by simp
  status := by
    intro pk' h
    simp [h]
  incident := by simp

theorem touches_write (db : Db) (pk incidentId : Nat) (a : ActionWrite)
    (i : IncidentWrite) : Touches pk incidentId db (db.write pk a incidentId i)
    where
  links := by simp [Db.write]
  incidentOf := by simp [Db.write]
  synthetic := by simp [Db.write]
  status := by
    intro pk' h
    simp [Db.write, h]
  incident := by
    intro i' h
    simp [Db.write, h]

/-- A transaction that gives an Action a new status. -/
structure Rewrites (pk incidentId : Nat) (s : ActionStatus) (db db' : Db) : Prop
    extends Touches pk incidentId db db' where
  own : db'.statusOf pk = (db.statusOf pk).map (fun _ => s)

theorem rewrites_writeAction (db : Db) (pk incidentId : Nat) {a : ActionWrite}
    {s : ActionStatus} (h : a.status = some s) :
    Rewrites pk incidentId s db (db.writeAction pk a) where
  toTouches := touches_writeAction db pk incidentId a
  own := by
    simp only [statusOf_writeAction, if_true, h, Option.getD_some]

theorem rewrites_write (db : Db) (pk incidentId : Nat) {a : ActionWrite}
    {s : ActionStatus} (i : IncidentWrite) (h : a.status = some s) :
    Rewrites pk incidentId s db (db.write pk a incidentId i) where
  toTouches := touches_write db pk incidentId a i
  own := (rewrites_writeAction db pk incidentId h).own

variable {db : Db} {pk : Nat}

theorem recheck_some {policy : ActionPolicy} {incidentId : Nat} {fingerprint : String}
    (h : (recheck policy db pk fingerprint).2 = some incidentId) :
    db.statusOf pk = some .approved ∧ db.incidentOf pk = some incidentId ∧
      db.syntheticOf incidentId ≠ some true ∧
      ∃ assessment, (recheck policy db pk fingerprint).1 =
        db.writeAction pk { assessment := some assessment } := by
  unfold recheck at h ⊢
  unfold Db.statusOf Db.incidentOf
  cases ha : db.action? pk with
  | none => simp [ha] at h
  | some a =>
    simp only [ha] at h ⊢
    by_cases hstatus : a.status ≠ .approved
    · simp [hstatus] at h
    · rw [if_neg hstatus] at h ⊢
      by_cases hsyn : db.syntheticOf a.incidentId = some true
      · simp [hsyn] at h
      · rw [if_neg hsyn] at h ⊢
        by_cases hclass : a.classification ≠
            policy.classifyAction db.overrides a.actionId
        · simp [hclass] at h
        · rw [if_neg hclass] at h ⊢
          by_cases hrisk : (reassess a fingerprint).acknowledgedHash ≠
              some fingerprint
          · simp [hrisk] at h
          · rw [if_neg hrisk] at h ⊢
            simp only [Option.some.injEq] at h
            subst h
            exact ⟨by simpa using hstatus, rfl, hsyn, _, rfl⟩

/-- The re-check of an approved Action finds its policy and risk evidence as
they were. -/
def EvidenceUnchanged (policy : ActionPolicy) (db : Db) (pk : Nat)
    (fingerprint : String) : Prop :=
  ∀ a ∈ db.action? pk, a.status = .approved →
    a.classification = policy.classifyAction db.overrides a.actionId ∧
    (reassess a fingerprint).acknowledgedHash = some fingerprint

theorem recheck_eq_some_iff (policy : ActionPolicy) (db : Db)
    (pk incidentId : Nat) (fingerprint : String) :
    (recheck policy db pk fingerprint).2 = some incidentId ↔
      db.statusOf pk = some .approved ∧ db.incidentOf pk = some incidentId ∧
        db.syntheticOf incidentId ≠ some true ∧
        EvidenceUnchanged policy db pk fingerprint := by
  unfold recheck Db.statusOf Db.incidentOf EvidenceUnchanged
  cases ha : db.action? pk with
  | none => simp
  | some a =>
    simp only [Option.map_some, Option.some.injEq, Option.mem_def,
      forall_eq']
    by_cases hstatus : a.status ≠ .approved
    · simp [hstatus]
    · rw [if_neg hstatus]
      have happroved : a.status = .approved := by simpa using hstatus
      by_cases hsyn : db.syntheticOf a.incidentId = some true
      · rw [if_pos hsyn]
        constructor
        · intro h
          cases h
        · intro h
          exact absurd (h.2.1 ▸ hsyn) h.2.2.1
      · rw [if_neg hsyn]
        by_cases hclass : a.classification ≠
            policy.classifyAction db.overrides a.actionId
        · simp [hclass, happroved]
        · rw [if_neg hclass]
          by_cases hrisk : (reassess a fingerprint).acknowledgedHash ≠
              some fingerprint
          · simp [hrisk, happroved]
          · rw [if_neg hrisk]
            have hsame : a.classification =
                policy.classifyAction db.overrides a.actionId := by
              simpa using hclass
            have hack : (reassess a fingerprint).acknowledgedHash =
                some fingerprint := by simpa using hrisk
            constructor
            · intro h
              have hinc : a.incidentId = incidentId := Option.some.inj h
              exact ⟨happroved, hinc, hinc ▸ hsyn, fun _ => ⟨hsame, hack⟩⟩
            · intro h
              exact congrArg some h.2.1

theorem recheck_none {policy : ActionPolicy} {fingerprint : String}
    (h : (recheck policy db pk fingerprint).2 = none) :
    (recheck policy db pk fingerprint).1 = db ∨
      ∃ incidentId s, db.statusOf pk = some .approved ∧
        db.incidentOf pk = some incidentId ∧
        Rewrites pk incidentId s db (recheck policy db pk fingerprint).1 ∧
        (s = .rejected ∧ db.syntheticOf incidentId = some true ∨
          s = .pendingApproval ∧
            ¬ EvidenceUnchanged policy db pk fingerprint) := by
  unfold recheck at h ⊢
  unfold Db.statusOf Db.incidentOf EvidenceUnchanged
  cases ha : db.action? pk with
  | none => exact Or.inl rfl
  | some a =>
    simp only [ha] at h ⊢
    by_cases hstatus : a.status ≠ .approved
    · rw [if_pos hstatus]
      exact Or.inl rfl
    · rw [if_neg hstatus] at h ⊢
      have happroved : a.status = .approved := by simpa using hstatus
      by_cases hsyn : db.syntheticOf a.incidentId = some true
      · rw [if_pos hsyn]
        exact Or.inr ⟨a.incidentId, .rejected, by simp [happroved], rfl,
          rewrites_write db pk a.incidentId _ rfl, Or.inl ⟨rfl, hsyn⟩⟩
      · rw [if_neg hsyn] at h ⊢
        by_cases hclass : a.classification ≠
            policy.classifyAction db.overrides a.actionId
        · rw [if_pos hclass]
          refine Or.inr ⟨a.incidentId, .pendingApproval, by simp [happroved],
            rfl, rewrites_write db pk a.incidentId _ rfl, Or.inr ⟨rfl, ?_⟩⟩
          intro hsame
          exact hclass (hsame a rfl happroved).1
        · rw [if_neg hclass] at h ⊢
          by_cases hrisk : (reassess a fingerprint).acknowledgedHash ≠
              some fingerprint
          · rw [if_pos hrisk]
            refine Or.inr ⟨a.incidentId, .pendingApproval,
              by simp [happroved], rfl,
              rewrites_write db pk a.incidentId _ rfl, Or.inr ⟨rfl, ?_⟩⟩
            intro hsame
            exact hrisk (hsame a rfl happroved).2
          · simp [hrisk] at h

theorem claim_eq_some {db' : Db} {incidentId : Nat} (h : claim db incidentId = some db') :
    db' = db.writeIncident incidentId { status := some .executing } ∧
      (∃ s, db.incidentStatus incidentId = some s ∧ s ≠ .executing) ∧
      db'.incidentStatus incidentId = some .executing := by
  unfold claim at h
  cases hs : db.incidentStatus incidentId with
  | none => simp [hs] at h
  | some status =>
    simp only [hs] at h
    by_cases he : status = .executing
    · simp [he] at h
    · rw [if_neg he, Option.some.injEq] at h
      subst h
      exact ⟨rfl, ⟨status, rfl, he⟩, by simp [hs]⟩

theorem recordApproved_rewrites (settings : VerifySettings) (db : Db) (pk incidentId : Nat)
    (succeeded : Bool) (now : Nat) (h : ∀ i, db.incidentOf pk = some i → i = incidentId) :
    Rewrites pk incidentId (if succeeded then .executed else .failed) db
      (recordApprovedExecutionResult settings db pk succeeded now) := by
  unfold recordApprovedExecutionResult
  cases ha : db.action? pk with
  | none =>
    refine ⟨Touches.refl pk incidentId db, ?_⟩
    simp [Db.statusOf, ha]
  | some a =>
    have hinc : a.incidentId = incidentId := h a.incidentId (by
      simp [Db.incidentOf, ha])
    have hstatus : (if succeeded then
        ({ status := some .executed, executedAt := some now } : ActionWrite)
        else { status := some .failed }).status =
          some (if succeeded then .executed else .failed) := by
      cases succeeded with
      | false => rfl
      | true => rfl
    subst hinc
    dsimp only
    cases db.incident? a.incidentId with
    | none => exact rewrites_writeAction db pk _ hstatus
    | some i => exact rewrites_write db pk _ _ hstatus

theorem recordApproved_of_none (settings : VerifySettings) (succeeded : Bool) (now : Nat)
    (h : db.incidentOf pk = none) :
    recordApprovedExecutionResult settings db pk succeeded now = db := by
  unfold recordApprovedExecutionResult
  cases ha : db.action? pk with
  | none => rfl
  | some a => simp [Db.incidentOf, ha] at h

theorem resumeGrace_rewrites (db : Db) (pk incidentId : Nat) :
    Rewrites pk incidentId
      (if (resumeGrace db pk incidentId).2 then .pending else .pendingApproval)
      db (resumeGrace db pk incidentId).1 := by
  unfold resumeGrace
  cases ha : db.action? pk with
  | none =>
    refine ⟨Touches.refl pk incidentId db, ?_⟩
    simp [Db.statusOf, ha]
  | some a =>
    dsimp only
    by_cases hr : a.readable = true
    · simp only [hr, if_true]
      exact rewrites_write db pk incidentId _ rfl
    · simp only [hr]
      exact rewrites_write db pk incidentId _ rfl

theorem recordExecutionResult_rewrites (settings : VerifySettings) (db : Db)
    (pk incidentId : Nat) (succeeded : Bool) (now : Nat) :
    Rewrites pk incidentId (if succeeded then .autoExecuted else .failed) db
      (recordExecutionResult settings db pk incidentId succeeded now) := by
  unfold recordExecutionResult
  cases succeeded with
  | false | true => exact rewrites_write db pk incidentId _ rfl

theorem statusOf_reconcileInterrupted (db : Db) (pk : Nat) :
    (reconcileInterrupted db).statusOf pk =
      if (db.action? pk).any (interrupted db) then some .inconclusive
      else db.statusOf pk := by
  unfold Db.statusOf Db.action? reconcileInterrupted
  rw [Table.get_update db.actions (interrupted db)
    (ActionWrite.apply { status := some .inconclusive }) (fun _ => rfl)]
  cases Table.get db.actions pk with
  | none => rfl
  | some a =>
    cases hi : interrupted db a with
    | false => simp [hi]
    | true => simp [hi, ActionWrite.apply]

theorem reconcileInterrupted_links (db : Db) :
    (reconcileInterrupted db).links = db.links :=
  Table.map_update_of_eq db.actions _ _ _ (fun _ => rfl)

theorem reconcileInterrupted_incidentOf (db : Db) (pk : Nat) :
    (reconcileInterrupted db).incidentOf pk = db.incidentOf pk :=
  Table.map_get_update_of_eq db.actions _
    (ActionWrite.apply { status := some .inconclusive }) (fun _ => rfl) _
    (fun _ => rfl) pk

theorem reconcileInterrupted_synthetic (db : Db) (i : Nat) :
    (reconcileInterrupted db).syntheticOf i = db.syntheticOf i :=
  Table.map_get_update_of_eq db.incidents _
    (IncidentWrite.apply { status := some .failed }) (fun _ => rfl) _
    (fun _ => rfl) i

end CephAi.Ports.ApprovedExecution
