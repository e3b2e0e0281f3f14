import CephAi.Verified.Table

/-!
# Actions and Incidents

The two tables of `shared/models.py` that the Worker, the Watcher and the
operators share, with the columns that their transactions read.  A transaction
is a function on the whole database.

A write is by primary key and does not look at the row it replaces: it sets the
columns it names.  No write changes a key or the Incident of an Action.

## Main results

* `statusOf_writeAction`, `incidentStatus_writeIncident` — the statuses after a
  write; every other view is unchanged.
-/

namespace CephAi.Ports.Models

open Verified

inductive ActionStatus
  | pending
  | autoExecuted
  | pendingApproval
  | approved
  | executing
  | gracePending
  | inconclusive
  | rejected
  | executed
  | failed
deriving DecidableEq, Repr

inductive IncidentStatus
  | new
  | diagnosing
  | autoFixed
  | pendingApproval
  | approved
  | executing
  | gracePending
  | verifying
  | resolved
  | rejected
  | failed
deriving DecidableEq, Repr

inductive ActionClassification
  | readOnly
  | safe
  | risky
  | destructive
deriving DecidableEq, Repr

/-- The statuses under `uq_incidents_inflight_cluster_code`. -/
def inFlightStatuses : List IncidentStatus :=
  [.new, .diagnosing, .pendingApproval, .approved, .executing, .gracePending,
    .verifying]

/-- A row of `change_risk_assessments`. -/
structure Assessment where
  assessmentHash : String
  acknowledgedHash : Option String
deriving DecidableEq, Repr

/-- A value in `action_params`. -/
inductive ParamValue
  | text (value : String)
  | flag (value : Bool)
deriving DecidableEq, Repr

/-- `action_params`. -/
abbrev Params := List (String × ParamValue)

/-- A row of `actions`.  `readable` says that its JSON columns, and those of its
case, can be parsed; `hasCase` that it has a `RemediationCase`. -/
structure Action where
  id : Nat
  incidentId : Nat
  actionId : String
  classification : ActionClassification
  status : ActionStatus
  assessment : Option Assessment
  readable : Bool
  hasCase : Bool
  graceUntil : Option Nat
  executedAt : Option Nat
  params : Params
deriving DecidableEq, Repr

/-- A row of `incidents`.  `synthetic` is `is_synthetic_evidence` of its
evidence. -/
structure Incident where
  id : Nat
  clusterId : Option String
  cephCode : String
  dedupeKey : Option String
  status : IncidentStatus
  synthetic : Bool
  verifyAfter : Option Nat
  verifyAttempts : Nat
deriving DecidableEq, Repr

instance : Table.Keyed Action := ⟨Action.id⟩
instance : Table.Keyed Incident := ⟨Incident.id⟩

/-- The database. -/
structure Db where
  actions : List Action
  incidents : List Incident
  overrides : List (String × ActionClassification)
deriving DecidableEq, Repr

/-- `session.get(Action, pk)`. -/
def Db.action? (db : Db) (pk : Nat) : Option Action := Table.get db.actions pk

/-- `session.get(Incident, incident_id)`. -/
def Db.incident? (db : Db) (incidentId : Nat) : Option Incident :=
  Table.get db.incidents incidentId

/-! ## Writes -/

/-- The columns of an Action that an `UPDATE` by primary key sets. -/
structure ActionWrite where
  status : Option ActionStatus := none
  classification : Option ActionClassification := none
  assessment : Option Assessment := none
  graceUntil : Option Nat := none
  executedAt : Option Nat := none

/-- The columns of an Incident that an `UPDATE` by primary key sets. -/
structure IncidentWrite where
  status : Option IncidentStatus := none
  verifyAfter : Option (Option Nat) := none
  verifyAttempts : Option Nat := none

/-- The row after the write. -/
def ActionWrite.apply (w : ActionWrite) (a : Action) : Action :=
  { a with
    status := w.status.getD a.status
    classification := w.classification.getD a.classification
    assessment := w.assessment.orElse (fun _ => a.assessment)
    graceUntil := w.graceUntil.orElse (fun _ => a.graceUntil)
    executedAt := w.executedAt.orElse (fun _ => a.executedAt) }

/-- The row after the write. -/
def IncidentWrite.apply (w : IncidentWrite) (i : Incident) : Incident :=
  { i with
    status := w.status.getD i.status
    verifyAfter := w.verifyAfter.getD i.verifyAfter
    verifyAttempts := w.verifyAttempts.getD i.verifyAttempts }

def Db.writeAction (db : Db) (pk : Nat) (w : ActionWrite) : Db :=
  { db with actions := Table.modify db.actions pk w.apply }

def Db.writeIncident (db : Db) (incidentId : Nat) (w : IncidentWrite) : Db :=
  { db with incidents := Table.modify db.incidents incidentId w.apply }

/-- Write an Action and an Incident in one transaction. -/
def Db.write (db : Db) (pk : Nat) (a : ActionWrite) (incidentId : Nat)
    (i : IncidentWrite) : Db :=
  (db.writeAction pk a).writeIncident incidentId i

/-! ## What the transactions look at -/

def Db.statusOf (db : Db) (pk : Nat) : Option ActionStatus :=
  (db.action? pk).map Action.status

def Db.incidentOf (db : Db) (pk : Nat) : Option Nat :=
  (db.action? pk).map Action.incidentId

/-- Which Action belongs to which Incident. -/
def Db.links (db : Db) : List (Nat × Nat) :=
  db.actions.map (fun a => (a.id, a.incidentId))

def Db.incidentStatus (db : Db) (incidentId : Nat) : Option IncidentStatus :=
  (db.incident? incidentId).map Incident.status

/-- The evidence of an Incident is synthetic. -/
def Db.syntheticOf (db : Db) (incidentId : Nat) : Option Bool :=
  (db.incident? incidentId).map Incident.synthetic

section

variable (db : Db)

section

variable (pk : Nat)

@[simp] theorem statusOf_writeAction (w : ActionWrite) (pk' : Nat) :
    (db.writeAction pk w).statusOf pk' =
      if pk' = pk then (db.statusOf pk').map (fun s => w.status.getD s)
      else db.statusOf pk' := by
  unfold Db.statusOf
  rw [Option.map_map]
  exact Table.map_get_modify db.actions pk w.apply (fun _ => rfl) _ pk'

@[simp] theorem incidentOf_writeAction (w : ActionWrite)
    (pk' : Nat) : (db.writeAction pk w).incidentOf pk' = db.incidentOf pk' :=
  Table.map_get_update_of_eq db.actions _ w.apply (fun _ => rfl) _
    (fun _ => rfl) pk'

@[simp] theorem links_writeAction (w : ActionWrite) :
    (db.writeAction pk w).links = db.links :=
  Table.map_update_of_eq db.actions _ w.apply _ (fun _ => rfl)

@[simp] theorem incidentStatus_writeAction (w : ActionWrite) (i : Nat) :
    (db.writeAction pk w).incidentStatus i = db.incidentStatus i := rfl

@[simp] theorem syntheticOf_writeAction (w : ActionWrite)
    (i : Nat) : (db.writeAction pk w).syntheticOf i = db.syntheticOf i := rfl

end

section

variable (i : Nat)

@[simp] theorem statusOf_writeIncident (w : IncidentWrite)
    (pk : Nat) : (db.writeIncident i w).statusOf pk = db.statusOf pk := rfl

@[simp] theorem incidentOf_writeIncident (w : IncidentWrite) (pk : Nat) :
    (db.writeIncident i w).incidentOf pk = db.incidentOf pk := rfl

@[simp] theorem links_writeIncident (w : IncidentWrite) :
    (db.writeIncident i w).links = db.links := rfl

@[simp] theorem incidentStatus_writeIncident (w : IncidentWrite) (i' : Nat) :
    (db.writeIncident i w).incidentStatus i' =
      if i' = i then (db.incidentStatus i').map (fun s => w.status.getD s)
      else db.incidentStatus i' := by
  unfold Db.incidentStatus
  rw [Option.map_map]
  exact Table.map_get_modify db.incidents i w.apply (fun _ => rfl) _ i'

@[simp] theorem syntheticOf_writeIncident (w : IncidentWrite) (i' : Nat) :
    (db.writeIncident i w).syntheticOf i' = db.syntheticOf i' :=
  Table.map_get_update_of_eq db.incidents _ w.apply (fun _ => rfl) _
    (fun _ => rfl) i'

end

theorem incidentStatus_write (pk : Nat) (a : ActionWrite) (i : Nat) (w : IncidentWrite) (i' : Nat) :
    (db.write pk a i w).incidentStatus i' =
      if i' = i then (db.incidentStatus i').map (fun s => w.status.getD s)
      else db.incidentStatus i' :=
  incidentStatus_writeIncident (db.writeAction pk a) i w i'

end

theorem mem_links_of_incidentOf {db : Db} {pk i : Nat}
    (h : db.incidentOf pk = some i) : (pk, i) ∈ db.links := by
  unfold Db.incidentOf at h
  obtain ⟨a, ha, hi⟩ := Option.map_eq_some_iff.mp h
  refine List.mem_map.mpr ⟨a, Table.mem_of_get ha, ?_⟩
  have hkey : a.id = pk := Table.key_of_get ha
  rw [hkey, hi]

end CephAi.Ports.Models
