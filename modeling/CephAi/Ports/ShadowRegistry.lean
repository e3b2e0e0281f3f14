import CephAi.Ports.CommandParams
import CephAi.Verified.Batches
import CephAi.Verified.Checks
import CephAi.Verified.Table

/-!
# Shadow comparisons in the model registry

`ensure_shadow_model_pair` and `record_shadow_evaluation` of `shared/model_registry.py`, with what
they call, and the loop over the comparisons in `_process_approved_actions_once`.  A call that
raises may have written before it does.

## Main results

* `ensureShadowModelPair_eq_ok` — the two registry rows that an accepted comparison leaves.
* `handle_eq_ok` — it takes no row away, and leaves its own.
* `asAlone_iff` — every comparison is handled as if it were alone exactly where none is refused
  while a comparison before it has something pending.
* `lost_comparison` — an accepted comparison and a refused one after it.
-/

namespace CephAi.Ports.ShadowRegistry

open CommandParams (isSpace isDecimal decimal trim)
open Verified.Batches Verified.Checks Verified.Table

/-! ## The tables -/

/-- `MODEL_STATUSES` -/
inductive ModelStatus
  | candidate
  | shadow
  | active
  | retired
  | blocked
deriving DecidableEq, Repr

/-- The dimensions of a registry row; each column is nullable. -/
structure Dimensions where
  scopeSchema : Option String
  clusterId : Option String
  entityType : Option String
  entityId : Option String
  host : Option String
  metric : Option String
  horizonHours : Option Int
deriving DecidableEq, Repr

/-- The columns by which `register_candidate` looks a row up. -/
structure Identity where
  scopeType : String
  scopeKey : String
  name : String
  version : String
  algorithm : String
  featureSchema : String
deriving DecidableEq, Repr

/-- A row of `ForecastModelRegistry`. -/
structure ModelRow where
  id : Nat
  identity : Identity
  dimensions : Dimensions
  trainingWindowHours : Int
  status : ModelStatus
  promotionReason : Option String
  blockedReason : Option String
  activeSince : Option Int
  retiredAt : Option Int
  createdAt : Int
  updatedAt : Int
deriving DecidableEq, Repr

instance : Keyed ModelRow := ⟨ModelRow.id⟩

/-- A row of `ForecastModelEvaluation`; `measures` are the columns that are copied. -/
structure Evaluation (M : Type) where
  candidateModelId : Nat
  activeModelId : Nat
  targetAt : Int
  evaluatedAt : Int
  measures : M
deriving DecidableEq, Repr

/-- A row of `ForecastModelPromotionAudit` as the bootstrap writes it. -/
structure Audit where
  candidateModelId : Nat
  eventType : String
  actor : String
  reason : String
  algorithm : String
  windowHours : Option Int
  createdAt : Int
deriving DecidableEq, Repr

/-- The tables of the registry; ids are unique. -/
structure Registry (M : Type) where
  models : List ModelRow
  unique : (models.map Keyed.key).Nodup
  evaluations : List (Evaluation M)
  audits : List Audit
deriving DecidableEq

/-- A `ShadowComparison`; no scope type or key is the empty text. -/
structure Comparison (M : Type) where
  scopeType : String
  scopeKey : String
  activeAlgorithm : String
  candidateAlgorithm : String
  activeWindowHours : Option Int
  candidateWindowHours : Option Int
  horizonHours : Option Int
  latestTargetAt : Option Int
  measures : M

variable {M : Type}

/-! ## Scopes -/

def strip (s : String) : String := trim isSpace s

def scopeSchema : String := "forecast-scope-v2"

structure ForecastScope where
  clusterId : String
  entityType : String
  entityId : String
  metric : String
  horizonHours : Int
  host : Option String
deriving DecidableEq, Repr

/-- A name that `__post_init__` takes. -/
def plainName (s : String) : Bool := strip s ≠ "" ∧ ¬(s.toList.contains '|' = true)

/-- `ForecastScope(...)` with the checks of `__post_init__`. -/
def ForecastScope.make (s : ForecastScope) : Except String ForecastScope :=
  let names := [("cluster_id", s.clusterId), ("entity_type", s.entityType),
    ("entity_id", s.entityId), ("metric", s.metric)]
  match names.find? fun field => !plainName field.2 with
  | some field => .error (field.1 ++ " must be non-empty and cannot contain '|'")
  | none =>
    if s.horizonHours ≤ 0 then .error "horizon_hours must be positive"
    else if s.host.all plainName then .ok s
    else .error "host must be non-empty and cannot contain '|' when supplied"

/-- `int` of decimal digits. -/
def digitsValue (cs : List Char) : Nat :=
  cs.foldl (fun n c => 10 * n + (decimal c).getD 0) 0

/-- `_HORIZON_SUFFIX.fullmatch` of a part, and the number. -/
def horizonSuffix (part : String) : Option Nat :=
  match part.toList with
  | 'h' :: digits =>
    if digits ≠ [] ∧ digits.all isDecimal = true then some (digitsValue digits) else none
  | _ => none

/-- The parts of a key before a suffix for the horizon, and the horizon; `none` where the suffix
is none. -/
def keyParts (width : Nat) (parts : List String) (horizonHours : Int) :
    Option (List String × Int) :=
  if parts.length = width + 1 then
    match horizonSuffix (parts.getLastD "") with
    | some n => if n = 0 then none else some (parts.dropLast, n)
    | none => none
  else some (parts, horizonHours)

def parseLegacyScope (scopeType scopeKey : String) (horizonHours : Int) :
    Except String (Option ForecastScope) :=
  let parts := (scopeKey.toList.splitOn '|').map fun part => strip (String.ofList part)
  match scopeType with
  | "NODE_RESOURCE" =>
    match keyParts 3 parts horizonHours with
    | some ([cluster, host, metric], horizon) =>
      if cluster ≠ "" ∧ host ≠ "" ∧ metric ≠ "" ∧ horizon ≠ 0 then
        (ForecastScope.make ⟨cluster, "node", host, metric, horizon, some host⟩).map some
      else .ok none
    | _ => .ok none
  | "VOLUME" =>
    match keyParts 4 parts horizonHours with
    | some ([cluster, pool, image, metric], horizon) =>
      if cluster ≠ "" ∧ pool ≠ "" ∧ image ≠ "" ∧ metric ≠ "" ∧ horizon ≠ 0 then
        (ForecastScope.make
          ⟨cluster, "volume", pool ++ "/" ++ image, metric, horizon, none⟩).map some
      else .ok none
    | _ => .ok none
  | _ => .ok none

/-- The columns that `register_candidate` sets from a scope. -/
def ForecastScope.dimensions (s : ForecastScope) : Dimensions where
  scopeSchema := some scopeSchema
  clusterId := some s.clusterId
  entityType := some s.entityType
  entityId := some s.entityId
  host := s.host
  metric := some s.metric
  horizonHours := some s.horizonHours

/-- A text that is neither null nor empty. -/
def given (s : Option String) : Bool := s.any fun t => t ≠ ""

def scopeReady (d : Dimensions) : Bool :=
  d.scopeSchema = some scopeSchema && given d.clusterId && given d.entityType &&
    given d.entityId && given d.metric && d.horizonHours.any (· ≠ 0) &&
    (d.entityType ≠ some "node" || given d.host)

/-! ## The registry -/

def oneOrNone {α : Type} : List α → Except String (Option α)
  | [] => .ok none
  | [a] => .ok (some a)
  | _ => .error "Multiple rows were found when one or none was required"

/-- Rewrite the row of an id. -/
def Registry.setModel (db : Registry M) (id : Nat) (f : ModelRow → ModelRow)
    (hf : ∀ r, (f r).id = r.id) : Registry M :=
  { db with
    models := modify db.models id f
    unique := by
      rw [keys_modify db.models id f hf]
      exact db.unique }

/-- Add a row, under a new id. -/
def Registry.addModel (db : Registry M) (row : Nat → ModelRow) (hrow : ∀ id, (row id).id = id) :
    Registry M :=
  { db with
    models := insert db.models (row (fresh db.models))
    unique := keys_insert_fresh (hrow _) db.unique }

/-- The row that `register_candidate` adds. -/
def newModel (identity : Identity) (dimensions : Option Dimensions) (window now : Int)
    (id : Nat) : ModelRow where
  id := id
  identity := identity
  dimensions := dimensions.getD ⟨none, none, none, none, none, none, none⟩
  trainingWindowHours := window
  status := .candidate
  promotionReason := none
  blockedReason := none
  activeSince := none
  retiredAt := none
  createdAt := now
  updatedAt := now

/-- The dimensions of a row that had none are set. -/
def ModelRow.withDimensions (dimensions : Dimensions) (now : Int) (r : ModelRow) : ModelRow :=
  { r with dimensions := dimensions, updatedAt := now }

theorem newModel_id (identity : Identity) (dimensions : Option Dimensions) (window now : Int)
    (id : Nat) : (newModel identity dimensions window now id).id = id := rfl

theorem ModelRow.withDimensions_id (dimensions : Dimensions) (now : Int) (r : ModelRow) :
    (r.withDimensions dimensions now).id = r.id := rfl

/-- The identity as `register_candidate` keeps it; the scope type and the constants have no
blanks. -/
def Identity.stripped (i : Identity) : Identity :=
  { i with
    scopeKey := strip i.scopeKey
    version := strip i.version
    algorithm := strip i.algorithm }

/-- `explicit_scope` of `register_candidate`. -/
def explicitScope (values : Identity) (window : Int) :
    Option ForecastScope → Except String (Option ForecastScope)
  | some scope => .ok (some scope)
  | none => parseLegacyScope values.scopeType values.scopeKey window

/-- `register_candidate` of a row that is there. -/
def registerExisting (db : Registry M) (existing : ModelRow) (dimensions : Option Dimensions)
    (window now : Int) : Except String (Registry M × ModelRow) :=
  if existing.trainingWindowHours ≠ window then
    .error "model registry identity already exists with a different training window"
  else
    match dimensions with
    | some d =>
      if scopeReady existing.dimensions then .ok (db, existing)
      else .ok (db.setModel existing.id (.withDimensions d now)
          (ModelRow.withDimensions_id d now),
        existing.withDimensions d now)
    | none => .ok (db, existing)

/-- The unique constraint on the scope, the name and the version. -/
def identityTaken (rows : List ModelRow) (values : Identity) : Bool :=
  rows.any fun r => r.identity.scopeType = values.scopeType ∧
    r.identity.scopeKey = values.scopeKey ∧ r.identity.name = values.name ∧
    r.identity.version = values.version

/-- `register_candidate` of a row that is not there. -/
def registerNew (db : Registry M) (values : Identity) (dimensions : Option Dimensions)
    (window now : Int) : Except String (Registry M × ModelRow) :=
  if identityTaken db.models values then .error "uq_forecast_model_registry_identity"
  else .ok (db.addModel (newModel values dimensions window now)
      (newModel_id values dimensions window now),
    newModel values dimensions window now (fresh db.models))

def registerCandidate (db : Registry M) (identity : Identity) (window : Int)
    (scope : Option ForecastScope) (now : Int) : Except String (Registry M × ModelRow) :=
  let values := identity.stripped
  if ¬(values.scopeType = "NODE_RESOURCE" ∨ values.scopeType = "VOLUME") then
    .error "unsupported model registry scope type"
  else if values.scopeKey = "" ∨ values.version = "" ∨ values.algorithm = "" then
    .error "model registry identity fields are required"
  else if window ≤ 0 then .error "training_window_hours must be positive"
  else do
    let scope ← explicitScope values window scope
    let dimensions := scope.map ForecastScope.dimensions
    match ← oneOrNone (db.models.filter fun r => r.identity = values) with
    | some existing => registerExisting db existing dimensions window now
    | none => registerNew db values dimensions window now

/-- The columns that `set_status` sets. -/
def ModelRow.withStatus (status : ModelStatus) (reason : String) (now : Int) (r : ModelRow) :
    ModelRow :=
  let r := { r with status := status, updatedAt := now }
  match status with
  | .active =>
    { r with
      activeSince := r.activeSince.or (some now)
      retiredAt := none
      promotionReason := if strip reason ≠ "" then some (strip reason) else r.promotionReason
      blockedReason := none }
  | .retired => { r with retiredAt := r.retiredAt.or (some now) }
  | .blocked => { r with blockedReason := some (strip reason) }
  | .candidate | .shadow =>
    if reason ≠ "" then { r with promotionReason := some (strip reason) } else r

theorem ModelRow.withStatus_id (status : ModelStatus) (reason : String) (now : Int)
    (r : ModelRow) : (r.withStatus status reason now).id = r.id := by
  unfold withStatus
  cases status <;> dsimp only
  · split <;> rfl
  · split <;> rfl

def setStatus (db : Registry M) (row : ModelRow) (status : ModelStatus) (reason : String)
    (now : Int) : Except String (Registry M) :=
  if status = .blocked ∧ strip reason = "" then .error "blocked model requires a reason"
  else if status = .active ∧ db.models.any (fun r =>
      r.identity.scopeType = row.identity.scopeType ∧
      r.identity.scopeKey = row.identity.scopeKey ∧ r.status = .active ∧ r.id ≠ row.id) then
    .error "model registry scope already has an active model"
  else .ok (db.setModel row.id (.withStatus status reason now)
    (ModelRow.withStatus_id status reason now))

def isLearnedAlgorithm (algorithm : String) : Bool :=
  let name := strip (String.ofList (algorithm.toList.takeWhile (· ≠ ':')))
  "river".toList.isPrefixOf (name.toList.map Char.toLower)

/-- `_version`, for a window that is a number. -/
def version (algorithm : String) (window : Int) : String :=
  String.ofList ((algorithm ++ ":" ++ toString window ++ "h").toList.take 32)

/-- `int` of a window that may be missing. -/
def asInt (window : Option Int) : Except String Int :=
  match window with
  | some n => .ok n
  | none => .error "int() argument must be a string, a bytes-like object or a real number"

/-- `_scope_model_identity`: the name and the schema. -/
def scopeModelIdentity (c : Comparison M) : Except String (String × String) :=
  if ¬(c.scopeType = "NODE_RESOURCE" ∨ c.scopeType = "VOLUME") ∨ c.scopeKey = "" then
    .error "shadow comparison thiếu scope registry"
  else if c.scopeType = "NODE_RESOURCE" then .ok ("node-resource-forecast", "node-resource-v1")
  else .ok ("volume-forecast", "volume-v1")

def comparisonScope (c : Comparison M) : Except String (Option ForecastScope) :=
  let horizon := match c.horizonHours with
    | none | some 0 => 1
    | some n => n
  parseLegacyScope c.scopeType c.scopeKey horizon

/-- One of the two registrations of `ensure_shadow_model_pair`. -/
def registerSide (db : Registry M) (c : Comparison M) (algorithm : String) (window : Option Int)
    (now : Int) : Except String (Registry M × ModelRow) := do
  let (name, schema) ← scopeModelIdentity c
  let hours ← asInt window
  let scope ← comparisonScope c
  registerCandidate db
    ⟨c.scopeType, c.scopeKey, name, version algorithm hours, algorithm, schema⟩ hours scope now

/-- The `ACTIVE` row of a comparison's scope; the key is compared as it is. -/
def activeOf (db : Registry M) (c : Comparison M) : Except String (Option ModelRow) :=
  oneOrNone (db.models.filter fun r =>
    r.identity.scopeType = c.scopeType ∧ r.identity.scopeKey = c.scopeKey ∧ r.status = .active)

def Registry.auditBaseline (db : Registry M) (c : Comparison M) (id : Nat) (now : Int) :
    Registry M :=
  { db with
    audits := db.audits ++ [{
      candidateModelId := id
      eventType := "BASELINE_REGISTERED"
      actor := "system:registry-bootstrap"
      reason := "deterministic champion registered as the initial ACTIVE baseline"
      algorithm := c.activeAlgorithm
      windowHours := c.activeWindowHours
      createdAt := now }] }

/-- The baseline of a scope: the active row if there is one, or the one just registered. -/
def ensureBaseline (db : Registry M) (c : Comparison M) (active : ModelRow) (now : Int) :
    Except String (Registry M) := do
  match ← activeOf db c with
  | none =>
    if isLearnedAlgorithm c.activeAlgorithm then
      .error ("runtime active model is online-learned and has no approved registry ACTIVE " ++
        "row; only a deterministic champion may be registered as the baseline")
    else do
      let db ← setStatus db active .active "initial guarded-promotion baseline" now
      pure (db.auditBaseline c active.id now)
  | some current =>
    if current.id ≠ active.id then
      .error "runtime active model differs from registry ACTIVE model"
    else pure db

/-- `ensure_shadow_model_pair`: the tables, and the ids of the two rows. -/
def ensureShadowModelPair (db : Registry M) (c : Comparison M) (now : Int) :
    Except String (Registry M × Nat × Nat) := do
  let (db, active) ← registerSide db c c.activeAlgorithm c.activeWindowHours now
  let db ← ensureBaseline db c active now
  let (db, candidate) ← registerSide db c c.candidateAlgorithm c.candidateWindowHours now
  if candidate.status = .candidate then do
    let db ← setStatus db candidate .shadow "persisted shadow evaluation" now
    pure (db, active.id, candidate.id)
  else pure (db, active.id, candidate.id)

def recordShadowEvaluation (db : Registry M) (activeId candidateId : Nat) (c : Comparison M)
    (now : Int) : Except String (Registry M) :=
  match c.latestTargetAt with
  | none => .ok db
  | some targetAt => do
    match ← oneOrNone (db.evaluations.filter fun e =>
        e.candidateModelId = candidateId ∧ e.activeModelId = activeId ∧
          e.targetAt = targetAt) with
    | some _ => pure db
    | none =>
      pure { db with
        evaluations := db.evaluations ++ [⟨candidateId, activeId, targetAt, now, c.measures⟩] }

/-! ## The poll -/

/-- A comparison as the loop meets it: the clock at the two calls, and an error that the database
may raise in one of their statements. -/
structure Shadow (M : Type) where
  comparison : Comparison M
  ensuredAt : Int
  recordedAt : Int
  fault : Option String

/-- One turn of the loop. -/
def handle (db : Registry M) (s : Shadow M) : Except String (Registry M) :=
  if s.comparison.scopeType = "" ∨ s.comparison.scopeKey = "" then .ok db
  else do
    let (db, activeId, candidateId) ← ensureShadowModelPair db s.comparison s.ensuredAt
    let db ← recordShadowEvaluation db activeId candidateId s.comparison s.recordedAt
    match s.fault with
    | none => pure db
    | some e => .error e

/-- The part of `_process_approved_actions_once` on comparisons: one session for all of them, a
rollback where one raises, a commit after the last. -/
def processComparisons (db : Registry M) (shadows : List (Shadow M)) : Registry M :=
  handled handle db shadows

/-! ## What a comparison leaves of the rows that were there -/

/-- A row is the same registration; what is active stays so, and what was taken up is no candidate
again. -/
structure Kept (r r' : ModelRow) : Prop where
  identity : r'.identity = r.identity
  active : r.status = .active → r'.status = .active
  takenUp : r.status ≠ .candidate → r'.status ≠ .candidate

theorem Kept.refl (r : ModelRow) : Kept r r := ⟨rfl, id, id⟩

theorem Kept.trans {r r' r'' : ModelRow} (h : Kept r r') (h' : Kept r' r'') : Kept r r'' :=
  ⟨h'.identity.trans h.identity, fun hr => h'.active (h.active hr),
    fun hr => h'.takenUp (h.takenUp hr)⟩

/-- No row goes. -/
structure Grows (db db' : Registry M) : Prop where
  models : ∀ id r, get db.models id = some r → ∃ r', get db'.models id = some r' ∧ Kept r r'
  evaluations : ∀ e ∈ db.evaluations, e ∈ db'.evaluations
  audits : ∀ a ∈ db.audits, a ∈ db'.audits

variable {db db' db'' : Registry M}

theorem Grows.refl (db : Registry M) : Grows db db :=
  ⟨fun _ r hr => ⟨r, hr, .refl r⟩, fun _ he => he, fun _ ha => ha⟩

theorem Grows.trans (h : Grows db db') (h' : Grows db' db'') : Grows db db'' where
  models := by
    intro id r hr
    obtain ⟨r', hr', hkept⟩ := h.models id r hr
    obtain ⟨r'', hr'', hkept'⟩ := h'.models id r' hr'
    exact ⟨r'', hr'', hkept.trans hkept'⟩
  evaluations := fun e he => h'.evaluations e (h.evaluations e he)
  audits := fun a ha => h'.audits a (h.audits a ha)

theorem get_setModel (db : Registry M) (id : Nat) (f : ModelRow → ModelRow)
    (hf : ∀ r, (f r).id = r.id) (id' : Nat) :
    get (db.setModel id f hf).models id' =
      if id' = id then (get db.models id').map f else get db.models id' :=
  get_modify db.models id f hf id'

theorem grows_setModel {id : Nat} {f : ModelRow → ModelRow} {hf : ∀ r, (f r).id = r.id}
    (hkept : ∀ r, get db.models id = some r → Kept r (f r)) : Grows db (db.setModel id f hf) where
  models := by
    intro id' r hr
    rw [get_setModel]
    by_cases hid : id' = id
    · rw [hid] at hr ⊢
      exact ⟨f r, by rw [if_pos rfl, hr]; rfl, hkept r hr⟩
    · exact ⟨r, by rw [if_neg hid]; exact hr, .refl r⟩
  evaluations := fun _ he => he
  audits := fun _ ha => ha

theorem grows_addModel {row : Nat → ModelRow} {hrow : ∀ id, (row id).id = id} :
    Grows db (db.addModel row hrow) where
  models := fun _ r hr => ⟨r, get_insert_of_get (hrow _) hr, .refl r⟩
  evaluations := fun _ he => he
  audits := fun _ ha => ha

theorem oneOrNone_mem {α : Type} {as : List α} {a : α} (h : oneOrNone as = .ok (some a)) :
    a ∈ as := by
  unfold oneOrNone at h
  split at h
  · cases h
  · cases h
    exact List.mem_singleton_self a
  · cases h

theorem Registry.get_of_mem (db : Registry M) {r : ModelRow} (hr : r ∈ db.models) :
    get db.models r.id = some r :=
  Verified.Table.get_of_mem db.unique hr

variable {activeId candidateId : Nat} {c : Comparison M} {now window : Int} {row : ModelRow}

theorem registerExisting_eq_ok {existing : ModelRow} {dimensions : Option Dimensions}
    (hrow : get db.models existing.id = some existing)
    (h : registerExisting db existing dimensions window now = .ok (db', row)) :
    Grows db db' ∧ get db'.models row.id = some row ∧ row.identity = existing.identity := by
  unfold registerExisting at h
  split at h
  · cases h
  cases dimensions with
  | none =>
    cases h
    exact ⟨.refl db, hrow, rfl⟩
  | some d =>
    dsimp only at h
    split at h
    · cases h
      exact ⟨.refl db, hrow, rfl⟩
    · cases h
      refine ⟨grows_setModel fun r _ => ⟨rfl, id, id⟩, ?_, rfl⟩
      show Verified.Table.get (db.setModel existing.id (.withDimensions d now) _).models
        existing.id = _
      rw [get_setModel, if_pos rfl, hrow]
      rfl

theorem registerNew_eq_ok {values : Identity} {dimensions : Option Dimensions}
    (h : registerNew db values dimensions window now = .ok (db', row)) :
    Grows db db' ∧ get db'.models row.id = some row ∧ row.identity = values := by
  unfold registerNew at h
  split at h
  · cases h
  · cases h
    refine ⟨grows_addModel, ?_, rfl⟩
    show get (insert db.models (newModel values dimensions window now (fresh db.models)))
      (fresh db.models) = _
    rw [get_insert_fresh rfl, if_pos rfl]

theorem registerCandidate_cases {identity : Identity} {scope : Option ForecastScope}
    (h : registerCandidate db identity window scope now = .ok (db', row)) :
    ∃ dimensions,
      (∃ existing, get db.models existing.id = some existing ∧
        existing.identity = identity.stripped ∧
        registerExisting db existing dimensions window now = .ok (db', row)) ∨
      registerNew db identity.stripped dimensions window now = .ok (db', row) := by
  unfold registerCandidate at h
  dsimp only at h
  split at h
  · cases h
  split at h
  · cases h
  split at h
  · cases h
  obtain ⟨explicit, _, h⟩ := bind_eq_ok.mp h
  obtain ⟨found, hfound, h⟩ := bind_eq_ok.mp h
  refine ⟨explicit.map ForecastScope.dimensions, ?_⟩
  cases found with
  | some existing =>
    obtain ⟨hmem, hidentity⟩ := List.mem_filter.mp (oneOrNone_mem hfound)
    exact Or.inl ⟨existing, db.get_of_mem hmem, of_decide_eq_true hidentity, h⟩
  | none => exact Or.inr h

theorem registerCandidate_eq_ok {identity : Identity} {scope : Option ForecastScope}
    (h : registerCandidate db identity window scope now = .ok (db', row)) :
    Grows db db' ∧ get db'.models row.id = some row ∧ row.identity = identity.stripped := by
  obtain ⟨dimensions, ⟨existing, hget, hsame, hexisting⟩ | hnew⟩ := registerCandidate_cases h
  · obtain ⟨hgrows, hrow, hkept⟩ := registerExisting_eq_ok hget hexisting
    exact ⟨hgrows, hrow, hkept.trans hsame⟩
  · exact registerNew_eq_ok hnew

theorem ModelRow.withStatus_status (status : ModelStatus) (reason : String) (now : Int)
    (r : ModelRow) : (r.withStatus status reason now).status = status := by
  unfold withStatus
  cases status <;> dsimp only
  · split <;> rfl
  · split <;> rfl

theorem ModelRow.withStatus_identity (status : ModelStatus) (reason : String) (now : Int)
    (r : ModelRow) : (r.withStatus status reason now).identity = r.identity := by
  unfold withStatus
  cases status <;> dsimp only
  · split <;> rfl
  · split <;> rfl

theorem setStatus_eq_ok {status : ModelStatus} {reason : String}
    (h : setStatus db row status reason now = .ok db') (hrow : get db.models row.id = some row)
    (hstatus : status = .active ∨ (row.status = .candidate ∧ status ≠ .candidate)) :
    Grows db db' ∧ ∃ r, get db'.models row.id = some r ∧ r.identity = row.identity ∧
      r.status = status := by
  unfold setStatus at h
  split at h
  · cases h
  split at h
  · cases h
  cases h
  constructor
  · apply grows_setModel
    intro r hr
    rw [hrow] at hr
    cases hr
    refine ⟨row.withStatus_identity status reason now, ?_, ?_⟩
    · intro hactive
      rw [row.withStatus_status]
      rcases hstatus with hnew | ⟨hcandidate, _⟩
      · exact hnew
      · rw [hactive] at hcandidate
        cases hcandidate
    · intro _
      rw [row.withStatus_status]
      rcases hstatus with hnew | ⟨_, hne⟩
      · rw [hnew]
        exact ModelStatus.noConfusion
      · exact hne
  · refine ⟨row.withStatus status reason now, ?_, row.withStatus_identity status reason now,
      row.withStatus_status status reason now⟩
    rw [get_setModel, if_pos rfl, hrow]
    rfl

/-! ## The rows of a comparison -/

/-- `name` of `_scope_model_identity`, and the schema. -/
def scopeNames (scopeType : String) : String × String :=
  if scopeType = "NODE_RESOURCE" then ("node-resource-forecast", "node-resource-v1")
  else ("volume-forecast", "volume-v1")

def sideIdentity (c : Comparison M) (algorithm : String) (hours : Int) : Identity :=
  Identity.stripped ⟨c.scopeType, c.scopeKey, (scopeNames c.scopeType).1,
    version algorithm hours, algorithm, (scopeNames c.scopeType).2⟩

theorem scopeModelIdentity_eq_ok {names : String × String} (h : scopeModelIdentity c = .ok names) :
    names = scopeNames c.scopeType := by
  unfold scopeModelIdentity at h
  unfold scopeNames
  split at h
  · cases h
  · split at h <;> cases h
    · next htype => rw [if_pos htype]
    · next htype => rw [if_neg htype]

theorem asInt_eq_ok {window : Option Int} {hours : Int} (h : asInt window = .ok hours) :
    window = some hours := by
  cases window with
  | none => cases h
  | some n =>
    cases h
    rfl

theorem registerSide_eq_ok {algorithm : String} {window : Option Int}
    (h : registerSide db c algorithm window now = .ok (db', row)) :
    Grows db db' ∧ get db'.models row.id = some row ∧
      ∃ hours, window = some hours ∧ row.identity = sideIdentity c algorithm hours := by
  unfold registerSide at h
  obtain ⟨names, hnames, h⟩ := bind_eq_ok.mp h
  obtain ⟨hours, hhours, h⟩ := bind_eq_ok.mp h
  obtain ⟨scope, _, h⟩ := bind_eq_ok.mp h
  obtain ⟨hgrows, hrow, hidentity⟩ := registerCandidate_eq_ok h
  refine ⟨hgrows, hrow, hours, asInt_eq_ok hhours, ?_⟩
  rw [hidentity, scopeModelIdentity_eq_ok hnames]
  rfl

theorem ensureBaseline_eq_ok (h : ensureBaseline db c row now = .ok db')
    (hrow : get db.models row.id = some row) :
    Grows db db' ∧ ∃ r, get db'.models row.id = some r ∧ r.identity = row.identity ∧
      r.status = .active := by
  unfold ensureBaseline at h
  obtain ⟨found, hfound, h⟩ := bind_eq_ok.mp h
  cases found with
  | none =>
    dsimp only at h
    split at h
    · cases h
    · obtain ⟨db₁, hset, h⟩ := bind_eq_ok.mp h
      cases h
      obtain ⟨hgrows, hr⟩ := setStatus_eq_ok hset hrow (.inl rfl)
      refine ⟨⟨hgrows.models, hgrows.evaluations, ?_⟩, hr⟩
      intro a ha
      exact List.mem_append_left _ (hgrows.audits a ha)
  | some current =>
    dsimp only at h
    split at h
    · cases h
    · next hsame =>
      cases h
      obtain ⟨hmem, hactive⟩ := List.mem_filter.mp (oneOrNone_mem hfound)
      have hcurrent := db.get_of_mem hmem
      rw [not_ne_iff.mp hsame, hrow] at hcurrent
      cases hcurrent
      exact ⟨.refl db, row, hrow, rfl, (of_decide_eq_true hactive).2.2⟩

/-- The two registry rows of a comparison are there: the active one, and one that was taken up. -/
structure PairShown (db : Registry M) (c : Comparison M) (activeId candidateId : Nat) : Prop where
  active : ∃ hours r, c.activeWindowHours = some hours ∧ get db.models activeId = some r ∧
    r.identity = sideIdentity c c.activeAlgorithm hours ∧ r.status = .active
  candidate : ∃ hours r, c.candidateWindowHours = some hours ∧
    get db.models candidateId = some r ∧
    r.identity = sideIdentity c c.candidateAlgorithm hours ∧ r.status ≠ .candidate

theorem PairShown.grows (h : PairShown db c activeId candidateId) (hgrows : Grows db db') :
    PairShown db' c activeId candidateId where
  active := by
    obtain ⟨hours, r, hwindow, hr, hidentity, hactive⟩ := h.active
    obtain ⟨r', hr', hkept⟩ := hgrows.models activeId r hr
    exact ⟨hours, r', hwindow, hr', hkept.identity.trans hidentity, hkept.active hactive⟩
  candidate := by
    obtain ⟨hours, r, hwindow, hr, hidentity, htaken⟩ := h.candidate
    obtain ⟨r', hr', hkept⟩ := hgrows.models candidateId r hr
    exact ⟨hours, r', hwindow, hr', hkept.identity.trans hidentity, hkept.takenUp htaken⟩

theorem ensureShadowModelPair_eq_ok
    (h : ensureShadowModelPair db c now = .ok (db', activeId, candidateId)) :
    Grows db db' ∧ PairShown db' c activeId candidateId := by
  unfold ensureShadowModelPair at h
  obtain ⟨⟨db₁, active⟩, hactive, h⟩ := bind_eq_ok.mp h
  obtain ⟨db₂, hbaseline, h⟩ := bind_eq_ok.mp h
  obtain ⟨⟨db₃, candidate⟩, hcandidate, h⟩ := bind_eq_ok.mp h
  obtain ⟨hgrows₁, hrow, hours, hwindow, hidentity⟩ := registerSide_eq_ok hactive
  obtain ⟨hgrows₂, r, hr, hsame, hr_active⟩ := ensureBaseline_eq_ok hbaseline hrow
  obtain ⟨hgrows₃, hcand, hours', hwindow', hidentity'⟩ := registerSide_eq_ok hcandidate
  have hgrows := (hgrows₁.trans hgrows₂).trans hgrows₃
  -- what the registration of the candidate leaves of the active row
  have hshown : ∀ db₄ : Registry M, Grows db₃ db₄ →
      ∃ hours r, c.activeWindowHours = some hours ∧ get db₄.models active.id = some r ∧
        r.identity = sideIdentity c c.activeAlgorithm hours ∧ r.status = .active := by
    intro db₄ hgrows₄
    obtain ⟨r', hr', hkept⟩ := (hgrows₃.trans hgrows₄).models active.id r hr
    exact ⟨hours, r', hwindow, hr', hkept.identity.trans (hsame.trans hidentity),
      hkept.active hr_active⟩
  dsimp only at h
  split at h
  · next hstatus =>
    obtain ⟨db₄, hset, h⟩ := bind_eq_ok.mp h
    cases h
    obtain ⟨hgrows₄, r', hr', hid', hshadow⟩ :=
      setStatus_eq_ok hset hcand (.inr ⟨hstatus, ModelStatus.noConfusion⟩)
    refine ⟨hgrows.trans hgrows₄, hshown _ hgrows₄, hours', r', hwindow', hr',
      hid'.trans hidentity', ?_⟩
    rw [hshadow]
    exact ModelStatus.noConfusion
  · next hstatus =>
    cases h
    exact ⟨hgrows, hshown _ (.refl _), hours', candidate, hwindow', hcand, hidentity', hstatus⟩

theorem recordShadowEvaluation_eq_ok
    (h : recordShadowEvaluation db activeId candidateId c now = .ok db') :
    Grows db db' ∧ ∀ targetAt, c.latestTargetAt = some targetAt → ∃ e ∈ db'.evaluations,
      e.candidateModelId = candidateId ∧ e.activeModelId = activeId ∧ e.targetAt = targetAt := by
  unfold recordShadowEvaluation at h
  cases htarget : c.latestTargetAt with
  | none =>
    rw [htarget] at h
    cases h
    exact ⟨.refl db, fun _ hno => nomatch hno⟩
  | some targetAt =>
    rw [htarget] at h
    obtain ⟨found, hfound, h⟩ := bind_eq_ok.mp h
    cases found with
    | some e =>
      cases h
      obtain ⟨hmem, he⟩ := List.mem_filter.mp (oneOrNone_mem hfound)
      refine ⟨.refl db, ?_⟩
      intro t ht
      cases ht
      exact ⟨e, hmem, of_decide_eq_true he⟩
    | none =>
      cases h
      refine ⟨⟨(Grows.refl db).models, ?_, fun _ ha => ha⟩, ?_⟩
      · intro e he
        exact List.mem_append_left _ he
      · intro t ht
        cases ht
        exact ⟨_, List.mem_append_right _ (List.mem_singleton_self _), rfl, rfl, rfl⟩

/-- The registry rows of a comparison are there, and its evaluation if it has a target. -/
def Shown (db : Registry M) (c : Comparison M) : Prop :=
  ∃ activeId candidateId, PairShown db c activeId candidateId ∧
    ∀ targetAt, c.latestTargetAt = some targetAt → ∃ e ∈ db.evaluations,
      e.candidateModelId = candidateId ∧ e.activeModelId = activeId ∧ e.targetAt = targetAt

/-- What is there stays. -/
theorem Shown.grows (h : Shown db c) (hgrows : Grows db db') : Shown db' c := by
  obtain ⟨activeId, candidateId, hpair, hevaluation⟩ := h
  refine ⟨activeId, candidateId, hpair.grows hgrows, ?_⟩
  intro targetAt htarget
  obtain ⟨e, he, hcolumns⟩ := hevaluation targetAt htarget
  exact ⟨e, hgrows.evaluations e he, hcolumns⟩

/-- The comparison has a scope; without one the loop passes over it. -/
def Comparison.scoped (c : Comparison M) : Prop := c.scopeType ≠ "" ∧ c.scopeKey ≠ ""

theorem handle_eq_ok {s : Shadow M} (h : handle db s = .ok db') :
    Grows db db' ∧ (s.comparison.scoped → Shown db' s.comparison) := by
  unfold handle at h
  split at h
  · next hskip =>
    cases h
    refine ⟨.refl db, ?_⟩
    intro hscoped
    rcases hskip with htype | hkey
    · exact absurd htype hscoped.1
    · exact absurd hkey hscoped.2
  · obtain ⟨⟨db₁, activeId, candidateId⟩, hpair, h⟩ := bind_eq_ok.mp h
    obtain ⟨db₂, hrecord, h⟩ := bind_eq_ok.mp h
    obtain ⟨hgrows₁, hshown⟩ := ensureShadowModelPair_eq_ok hpair
    obtain ⟨hgrows₂, hevaluation⟩ := recordShadowEvaluation_eq_ok hrecord
    cases hfault : s.fault with
    | some e =>
      rw [hfault] at h
      cases h
    | none =>
      rw [hfault] at h
      cases h
      exact ⟨hgrows₁.trans hgrows₂,
        fun _ => ⟨activeId, candidateId, hshown.grows hgrows₂, hevaluation⟩⟩

/-- Comparisons, each in a transaction of its own, take no row away. -/
theorem grows_each (db : Registry M) (shadows : List (Shadow M)) :
    Grows db (each handle db shadows) := by
  induction shadows generalizing db with
  | nil => exact .refl db
  | cons s shadows ih =>
    have hone : Grows db (alone handle db s) := by
      unfold alone
      cases hs : handle db s with
      | ok db' => exact (handle_eq_ok hs).1
      | error e => exact .refl db
    exact hone.trans (ih (alone handle db s))

/-! ## Comparisons together -/

/-- Every comparison is handled as if it were alone. -/
structure AsAlone (db : Registry M) (shadows : List (Shadow M)) : Prop where
  /-- The tables are those of a transaction for each. -/
  persisted : processComparisons db shadows = each handle db shadows
  /-- What is not refused has its rows when the poll ends. -/
  shown : ∀ before s after, shadows = before ++ s :: after → s.comparison.scoped →
    ¬Refused handle (handled handle db before) s →
    Shown (processComparisons db shadows) s.comparison
  /-- What is refused changes nothing. -/
  untouched : Untouched handle db shadows

/-- Every comparison is handled as if it were alone exactly where none is refused while one before
it has something pending. -/
theorem asAlone_iff (db : Registry M) (shadows : List (Shadow M)) :
    AsAlone db shadows ↔ CleanAtRefusals handle db shadows := by
  constructor
  · intro h
    exact untouched_iff.mp h.untouched
  · intro hclean
    have hpersisted : processComparisons db shadows = each handle db shadows :=
      handled_eq_each hclean
    refine ⟨hpersisted, ?_, untouched_iff.mpr hclean⟩
    intro before s after hshadows hscoped hnot
    rw [hpersisted]
    rw [hshadows] at hclean ⊢
    rw [handled_eq_each hclean.of_append] at hnot
    have hsplit : each handle db (before ++ s :: after) =
        each handle (alone handle (each handle db before) s) after := by
      unfold each
      rw [List.foldl_append]
      rfl
    rw [hsplit]
    cases hs : handle (each handle db before) s with
    | error e => exact absurd ⟨e, hs⟩ hnot
    | ok db' =>
      have hdone : alone handle (each handle db before) s = db' := by
        unfold alone
        rw [hs]
      rw [hdone]
      exact ((handle_eq_ok hs).2 hscoped).grows (grows_each db' after)

/-- No model is registered. -/
def noModels : Registry Unit := ⟨[], List.nodup_nil, [], []⟩

/-- A comparison of a scope that the registry takes. -/
def taken : Shadow Unit :=
  ⟨⟨"NODE_RESOURCE", "CS-LAB|h1|ram|h6", "linear:72h", "linear:24h", some 72, some 24, some 6,
    some 100, ()⟩, 0, 0, none⟩

/-- A comparison whose baseline is an online-learned model. -/
def learned : Shadow Unit :=
  ⟨⟨"NODE_RESOURCE", "CS-LAB|h2|ram|h6", "river:72h", "linear:24h", some 72, some 24, some 6,
    some 100, ()⟩, 0, 0, none⟩

/-- The refusal of the second comparison takes the evaluation of the first one along. -/
theorem lost_comparison : ¬AsAlone noModels [taken, learned] := by
  intro h
  have hcount : (processComparisons noModels [taken, learned]).evaluations.length =
      (each handle noModels [taken, learned]).evaluations.length := by
    rw [h.persisted]
  exact absurd hcount (by decide +kernel)

end CephAi.Ports.ShadowRegistry
