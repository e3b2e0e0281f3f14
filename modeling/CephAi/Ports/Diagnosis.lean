import CephAi.Ports.Verification

/-!
# A Worker on an Incident message

The transactions of one message: the check and the `DIAGNOSING` write of
`_handle_message_without_context` in `worker/main.py`, the transaction of
`diagnose_incident` in `worker/llm/router_client.py`, and
`_set_incident_status` on the failure path.  A message can be delivered any
number of times.

## Main results

* `diagnose_status` — what a diagnosis makes of its Incident, by the branch it
  takes.
-/

namespace CephAi.Ports.Diagnosis

open Verified Models ApprovedExecution
  Verification

/-! ## The message -/

def nonProcessableStatuses : List IncidentStatus :=
  [.autoFixed, .verifying, .resolved, .rejected, .failed]

/-- The status that the stale-message guard reads, when it lets the message
pass. -/
def checkMessage (db : Db) (incidentId : Nat) : Option IncidentStatus :=
  (db.incidentStatus incidentId).filter
    (fun s => !nonProcessableStatuses.contains s)

/-- The `DIAGNOSING` write, by primary key.  The session still holds the status
it loaded, and flushes nothing when that is `DIAGNOSING` already; a failed
grouping has rolled it back, and then every value is written. -/
def markDiagnosing (db : Db) (incidentId : Nat) (loaded : IncidentStatus)
    (groupingFailed : Bool) : Db :=
  if loaded = .diagnosing ∧ groupingFailed = false then db
  else db.writeIncident incidentId { status := some .diagnosing }

def setIncidentStatus (db : Db) (incidentId : Nat) (status : IncidentStatus) :
    Db :=
  db.writeIncident incidentId { status := some status }

/-! ## `diagnose_incident` -/

def incidentStatusForResolvedAction : ActionStatus → IncidentStatus
  | .autoExecuted => .autoFixed
  | .failed => .failed
  | .pendingApproval => .pendingApproval
  | .approved => .approved
  | .executed => .resolved
  | .rejected => .rejected
  | _ => .failed

/-- What the diagnosis comes to when there is no Action yet. -/
inductive Proposal
  /-- The confidence gate stores the diagnosis without an Action. -/
  | lowConfidence
  /-- `restart_osd_daemon` for daemons whose host is not verified. -/
  | unverifiedTarget
  /-- A new Action and its case; an equivalent one in flight rolls it back. -/
  | action (actionId : String) (classification : ActionClassification)
      (params : Params) (fingerprint playbookVersion : String)
      (registry : Option Registry) (collides : Bool)
deriving DecidableEq, Repr

/-- How the transaction ends. -/
inductive DiagnosisEnd
  | returned
  /-- The call goes on with the Action. -/
  | proceeds (pk : Nat)
  | raised
deriving DecidableEq, Repr

/-- `existing_action`, by how many Actions the Incident has. -/
inductive Existing
  | nothing
  | one (a : Action)
  /-- `one_or_none` raises. -/
  | several

def existingAction (db : Db) (incidentId : Nat) : Existing :=
  match db.actions.filter (fun a => a.incidentId == incidentId) with
  | [] => .nothing
  | [a] => .one a
  | _ => .several

def pendingCase (cases : List Case) (pk : Nat) : Bool :=
  cases.any (fun c => c.action == pk && c.outcome == .executedPendingVerify)

/-- The fresh Action of a proposal. -/
def proposedAction (db : Db) (incidentId : Nat) (actionId : String)
    (classification : ActionClassification) (params : Params)
    (fingerprint : String) : Action where
  id := Table.fresh db.actions
  incidentId := incidentId
  actionId := actionId
  classification := classification
  status := .pending
  assessment := some ⟨fingerprint, none⟩
  readable := true
  hasCase := true
  graceUntil := none
  executedAt := none
  params := params

/-- The branch of `diagnose_incident` without an Action. -/
def proposeAction (st : Store) (incidentId : Nat) :
    Proposal → Store × DiagnosisEnd
  | .lowConfidence | .unverifiedTarget =>
    ({ st with
        db := st.db.writeIncident incidentId { status := some .failed } },
      .returned)
  | .action actionId classification params fingerprint playbookVersion registry
      collides =>
    if collides then (st, .returned)
    else
      let a := proposedAction st.db incidentId actionId classification params
        fingerprint
      ({ db := { st.db with actions := Table.insert st.db.actions a }
         cases := st.cases ++
          [{ action := a.id, incident := incidentId, outcome := .proposed,
             playbookVersion := playbookVersion,
             preflight := some (some { registry := registry }) }] },
        .proceeds a.id)

/-- The branch of `diagnose_incident` that finds an Action. -/
def resumeAction (settings : VerifySettings) (st : Store) (incidentId now : Nat)
    (a : Action) : Store × DiagnosisEnd :=
  if a.status = .pending then (st, .proceeds a.id)
  else if a.status = .autoExecuted ∧ pendingCase st.cases a.id = true then
    if a.actionId = "enable_mon_msgr2" then
      -- idempotent, and run again
      ({ st with
          db := st.db.write a.id { status := some .pending } incidentId
            { verifyAfter := some none } }, .proceeds a.id)
    else
      ({ st with
          db := st.db.writeIncident incidentId
            { status := some .verifying
              verifyAfter := some (some (now + settings.verifyDelaySeconds)) } },
        .returned)
  else
    ({ st with
        db := st.db.writeIncident incidentId
          { status := some (incidentStatusForResolvedAction a.status) } },
      .returned)

def diagnoseIncident (settings : VerifySettings) (st : Store)
    (incidentId now : Nat) (proposal : Proposal) : Store × DiagnosisEnd :=
  match st.db.incident? incidentId with
  | none => (st, .returned)
  | some _ =>
    match existingAction st.db incidentId with
    | .nothing => proposeAction st incidentId proposal
    | .one a => resumeAction settings st incidentId now a
    | .several => (st, .raised)

/-! ## What a diagnosis writes -/

def diagnosisWrites (st : Store) (incidentId : Nat) (proposal : Proposal) :
    Option IncidentStatus :=
  match existingAction st.db incidentId with
  | .nothing =>
    match proposal with
    | .lowConfidence | .unverifiedTarget => some .failed
    | .action .. => none
  | .one a =>
    if a.status = .pending then none
    else if a.status = .autoExecuted ∧ pendingCase st.cases a.id = true then
      if a.actionId = "enable_mon_msgr2" then none else some .verifying
    else some (incidentStatusForResolvedAction a.status)
  | .several => none

theorem diagnose_status (settings : VerifySettings) (st : Store)
    (incidentId now : Nat) (proposal : Proposal) (i : Nat) :
    (diagnoseIncident settings st incidentId now proposal).1.db.incidentStatus i =
      if i = incidentId then
        (st.db.incidentStatus i).map
          (fun s => (diagnosisWrites st incidentId proposal).getD s)
      else st.db.incidentStatus i := by
  have hsame : ∀ s : Option IncidentStatus,
      s = if i = incidentId then s.map (fun s => (none : Option IncidentStatus).getD s)
        else s := by
    intro s
    simp
  unfold diagnoseIncident
  cases hrow : st.db.incident? incidentId with
  | none =>
    by_cases hi : i = incidentId
    · subst hi
      simp [Db.incidentStatus, hrow]
    · rw [if_neg hi]
  | some row =>
    dsimp only
    unfold diagnosisWrites
    cases existingAction st.db incidentId with
    | nothing =>
      cases proposal with
      | lowConfidence | unverifiedTarget =>
        exact incidentStatus_writeIncident st.db incidentId _ i
      | action actionId classification params fingerprint version registry
          collides =>
          cases collides with
          | true | false => exact hsame _
    | several => exact hsame _
    | one a =>
      dsimp only
      unfold resumeAction
      by_cases hpending : a.status = .pending
      · rw [if_pos hpending, if_pos hpending]
        exact hsame _
      · rw [if_neg hpending, if_neg hpending]
        by_cases hcase : a.status = .autoExecuted ∧
            pendingCase st.cases a.id = true
        · rw [if_pos hcase, if_pos hcase]
          by_cases hmsgr : a.actionId = "enable_mon_msgr2"
          · rw [if_pos hmsgr, if_pos hmsgr]
            exact incidentStatus_writeIncident _ incidentId _ i
          · rw [if_neg hmsgr, if_neg hmsgr]
            exact incidentStatus_writeIncident st.db incidentId _ i
        · rw [if_neg hcase, if_neg hcase]
          exact incidentStatus_writeIncident st.db incidentId _ i

end CephAi.Ports.Diagnosis
