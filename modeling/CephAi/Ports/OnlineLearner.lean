import CephAi.Verified.Runs

/-!
# The online learner

`_consume_one`, `consume_samples`, `retire_attempted_labels` and `apply_ready_labels` of
`shared/online_learning_consumer.py`, with the learner of `shared/online_learning.py`, in the
scans of `watcher/main.py` that call them.

Any number of processes may be started.  One of them runs scans, the one that has the
process lock, and a scan does not start while one runs.  A scan is a thread of sessions, and each
statement of a session is a step: between two of them other processes may enqueue labels,
and the process may end.  What a session has not committed is lost then.

The gates (`get_control`, `label_policy_paused`, `evaluate`, `resolve_update_target`,
`evaluate_sample`) may say anything at any time.  So may a forecast that is evaluated, as to which
sample it labels, within what `enqueue_verified_outcomes` asks of the sample.

## Main results

* `load_stateOf` — what is saved is loaded again.
* `step` — the steps of all processes.
-/

namespace CephAi.Ports.OnlineLearner

open Verified.Runs

/-! ## The tables -/

/-- A metric, as `normalize_metric` leaves it; `get_control` raises on the others. -/
inductive Metric
  | cpu
  | ram
deriving DecidableEq, Repr

structure Stream where
  clusterKey : String
  host : String
  metric : Metric
deriving DecidableEq, Repr

/-- `uq_online_learner_audit_sample` -/
structure Identity where
  stream : Stream
  sampleId : String
deriving DecidableEq, Repr

/-- `OnlineLearningGateStatus` -/
inductive QualityStatus
  | dataQuality
  | noLabel
  | drift
  | readyToLearn
deriving DecidableEq, Repr

/-- A row of `online_learner_audit`; times are in microseconds. -/
structure Audit (F : Type) where
  observedAt : Int
  value : F
  label : Option F
  qualityStatus : QualityStatus
  runtimeMode : String
  updateApplied : Bool

inductive LabelStatus
  | ready
  | consumed
  | skipped
  | revoked
deriving DecidableEq, Repr

/-- A row of `online_learner_labels`. -/
structure Label (F : Type) where
  value : F
  status : LabelStatus

/-- `state_json` of a row of `online_learner_states`. -/
structure Snapshot (F : Type) where
  sampleCount : Nat
  mean : Option F

/-- The three tables, by what is unique in them. -/
structure Db (F : Type) where
  audits : Identity → Option (Audit F)
  labels : Identity → Option (Label F)
  states : Stream → Option (Snapshot F)

/-! ## The learner -/

/-- `river.stats.Mean` -/
structure Mean (F : Type) where
  n : Nat
  mean : F
deriving DecidableEq

/-- Floats, and the mean of the River package after a value, from the new count, the mean
before and the value. -/
structure Floats (F : Type) where
  isFinite : F → Bool
  isPercent : F → Bool
  zero : F
  meanAfter : Nat → F → F → F

variable {F : Type}

def Floats.new (R : Floats F) : Mean F := ⟨0, R.zero⟩

def Floats.update (R : Floats F) (m : Mean F) (x : F) : Mean F :=
  ⟨m.n + 1, R.meanAfter (m.n + 1) m.mean x⟩

/-- The mean that has learned these values, in their order. -/
def Floats.learned (R : Floats F) (xs : List F) : Mean F := xs.foldl R.update R.new

/-- What the code relies on: percentages are finite, and so is a mean of them. -/
structure River (F : Type) extends Floats F where
  finite_percent : ∀ x, isPercent x = true → isFinite x = true
  finite_mean : ∀ xs, (∀ x ∈ xs, isPercent x = true) →
    isFinite (toFloats.learned xs).mean = true

variable (R : River F)

/-- `RiverMeanLearner.snapshot` -/
def snapshot (m : Mean F) : Snapshot F where
  sampleCount := m.n
  mean := if m.n = 0 then none else some m.mean

/-- `RiverMeanLearner.from_snapshot`; `none` is a `ValueError`. -/
def fromSnapshot (s : Snapshot F) : Option (Mean F) :=
  if (s.mean.any fun x => !R.isFinite x) || (decide (s.sampleCount = 0) != s.mean.isNone) then none
  else some ⟨s.sampleCount, s.mean.getD R.zero⟩

/-- `load_or_reset_state`, with whether the row is reset. -/
def load : Option (Snapshot F) → Mean F × Bool
  | none => (R.new, false)
  | some s =>
    match fromSnapshot R s with
    | some m => (m, false)
    | none => (R.new, true)

/-- The row of a stream that has learned these values. -/
def stateOf (xs : List F) : Option (Snapshot F) :=
  if xs = [] then none else some (snapshot (R.learned xs))

theorem learned_concat (xs : List F) (x : F) :
    R.learned (xs ++ [x]) = R.update (R.learned xs) x := by
  unfold Floats.learned
  rw [List.foldl_append]
  rfl

theorem stateOf_concat (xs : List F) (x : F) :
    stateOf R (xs ++ [x]) = some (snapshot (R.update (R.learned xs) x)) := by
  unfold stateOf
  rw [if_neg (by simp), learned_concat]

theorem learned_n (xs : List F) : (R.learned xs).n = xs.length := by
  have hfold : ∀ (xs : List F) (m : Mean F), (xs.foldl R.update m).n = m.n + xs.length := by
    intro xs
    induction xs with
    | nil =>
      intro m
      rfl
    | cons x xs ih =>
      intro m
      rw [List.foldl_cons, ih, List.length_cons]
      show m.n + 1 + xs.length = m.n + (xs.length + 1)
      omega
  have hnew := hfold xs R.new
  show (xs.foldl R.update R.new).n = xs.length
  rw [hnew]
  show 0 + xs.length = xs.length
  omega

theorem load_stateOf {xs : List F} (h : ∀ x ∈ xs, R.isPercent x = true) :
    load R (stateOf R xs) = (R.learned xs, false) := by
  unfold stateOf
  by_cases hnil : xs = []
  · rw [if_pos hnil, hnil]
    rfl
  · have hcount : (R.learned xs).n ≠ 0 := by
      rw [learned_n]
      intro hzero
      exact hnil (List.length_eq_zero_iff.mp hzero)
    have hfinite := R.finite_mean xs h
    rw [if_neg hnil]
    show (match fromSnapshot R (snapshot (R.learned xs)) with
      | some m => (m, false)
      | none => (R.new, true)) = _
    have hloaded : fromSnapshot R (snapshot (R.learned xs)) = some (R.learned xs) := by
      unfold fromSnapshot snapshot
      dsimp only
      rw [if_neg hcount, Option.any_some, hfinite, decide_eq_false hcount]
      rfl
    rw [hloaded]

/-! ## The gates -/

/-- `OnlineLearningGateDecision` -/
structure Quality where
  status : QualityStatus
  allowed : Bool
deriving DecidableEq, Repr

/-- `LearningRuntimeDecision` -/
structure Runtime where
  mode : String
  canUpdateShadow : Bool
  canUpdateActive : Bool
deriving DecidableEq, Repr

inductive Target
  | shadow
  | active
deriving DecidableEq, Repr

/-- `LearningTargetDecision` -/
structure TargetDecision where
  target : Target
  allowed : Bool
deriving DecidableEq, Repr

/-- What the gates say to a session. -/
structure Gates where
  quality : Quality
  runtime : Runtime
  target : TargetDecision
deriving DecidableEq, Repr

/-- `replace(runtime, can_update_shadow=False, can_update_active=False)`, where it applies. -/
def Runtime.blockedIf (block : Bool) (r : Runtime) : Runtime :=
  if block then { r with canUpdateShadow := false, canUpdateActive := false } else r

def Runtime.allows (r : Runtime) : Target → Bool
  | .shadow => r.canUpdateShadow
  | .active => r.canUpdateActive

inductive Update (F : Type)
  | raised
  | refused
  | applied (learner : Mean F)

def guardedUpdate (learner : Mean F) (value : F) (runtime : Runtime) (target : Target)
    (quality : Quality) : Update F :=
  if !quality.allowed || quality.status ≠ .readyToLearn then .refused
  else if !runtime.allows target then .refused
  else if !R.isFinite value then .raised
  else .applied (R.update learner value)

/-! ## Sessions -/

/-- An argument of `_consume_one`. -/
structure Sample (F : Type) where
  clusterId : Option String
  host : String
  metric : Metric
  value : F
  observedAt : Int
  sampleId : String
  label : Option F

/-- `_cluster_key(cluster_id or get_default_cluster_id(session))` -/
def clusterKey (clusterId default : Option String) : String :=
  match clusterId.filter (· ≠ ""), default.filter (· ≠ "") with
  | some key, _ => key
  | none, some key => key
  | none, none => "__default__"

def Sample.identity (default : Option String) (s : Sample F) : Identity where
  stream := ⟨clusterKey s.clusterId default, s.host, s.metric⟩
  sampleId := s.sampleId

/-- Labels that a session has added and not committed. -/
abbrev Pending (F : Type) := List (Identity × F)

/-- Where a scan is: between sessions, in the session of `retire_attempted_labels` after its query,
or in one of `_consume_one`: in `enqueue_verified_outcomes`, after the query of the audit row, and
with a label or a first observation, before and after `load_or_reset_state`. -/
inductive Point (F : Type)
  | between
  | retiring (rows : List Identity)
  | reconciling (id : Identity) (s : Sample F) (pending : Pending F)
  | looked (id : Identity) (s : Sample F) (pending : Pending F) (policyPaused : Bool)
      (existing : Option (Audit F))
  | labelled (id : Identity) (pending : Pending F) (label : F)
  | retrying (id : Identity) (pending : Pending F) (label : F) (learner : Mean F) (reset : Bool)
  | observing (id : Identity) (s : Sample F) (pending : Pending F) (policyPaused : Bool)
      (learner : Mean F) (reset : Bool)

/-- A scan with the samples of its batch that are left. -/
structure Scan (F : Type) where
  queue : List (Sample F)
  point : Point F

/-- What a commit of a scan did: the sample that `save_state` was called for and the value it
learned, the sample whose label was tried and refused, and the labels of `mark_consumed`
and `mark_skipped`. -/
structure Commit (F : Type) where
  saved : Option (Identity × F) := none
  refused : Option Identity := none
  consumed : Option Identity := none
  skipped : List Identity := []

/-- The process lock, the scan of each process, what others have enqueued and not committed, the
tables, and the commits of the scans. -/
structure World (F : Type) where
  lock : Option Nat
  scans : Nat → Option (Scan F)
  outside : Nat → Pending F
  db : Db F
  log : List (Commit F)

def World.setScan (w : World F) (p : Nat) (scan : Option (Scan F)) : World F :=
  { w with scans := fun q => if q = p then scan else w.scans q }

def World.setOutside (w : World F) (e : Nat) (pending : Pending F) : World F :=
  { w with outside := fun d => if d = e then pending else w.outside d }

/-! ## Statements -/

/-- The tables with labels that are new and `READY`. -/
def Db.withLabels (pending : Pending F) (db : Db F) : Db F :=
  { db with labels := fun id =>
      match pending.find? fun e => e.1 = id with
      | some e => some ⟨e.2, .ready⟩
      | none => db.labels id }

/-- A new label breaks `uq_online_learner_label_sample`. -/
def Db.conflicts (pending : Pending F) (db : Db F) : Bool :=
  pending.any fun e => (db.labels e.1).isSome

/-- A label row is set to a status. -/
def Db.mark (status : LabelStatus) (rows : List Identity) (db : Db F) : Db F :=
  { db with labels := fun id =>
      if id ∈ rows then (db.labels id).map fun l => { l with status := status }
      else db.labels id }

/-- The columns that a label attempt sets. -/
def Db.attempt (id : Identity) (label : F) (gates : Gates) (applied : Bool) (db : Db F) : Db F :=
  { db with audits := fun j =>
      if j = id then (db.audits id).map fun a => { a with
        label := some label
        qualityStatus := gates.quality.status
        runtimeMode := gates.runtime.mode
        updateApplied := applied || a.updateApplied }
      else db.audits j }

def Db.save (stream : Stream) (m : Mean F) (db : Db F) : Db F :=
  { db with states := fun s => if s = stream then some (snapshot m) else db.states s }

/-- The reset of `load_or_reset_state`. -/
def Db.resetIf (reset : Bool) (stream : Stream) (db : Db F) : Db F :=
  if reset then db.save stream R.new else db

/-- The audit row of a first observation; `none` when there is one. -/
def Db.insertAudit (id : Identity) (a : Audit F) (db : Db F) : Option (Db F) :=
  match db.audits id with
  | some _ => none
  | none => some { db with audits := fun j => if j = id then some a else db.audits j }

def Db.readyLabel (id : Identity) (db : Db F) : Option F :=
  match db.labels id with
  | some l => if l.status = .ready then some l.value else none
  | none => none

/-- What `enqueue_verified_outcomes` asks before it adds a label. -/
def enqueueable (db : Db F) (pending : Pending F) (e : Identity × F) : Bool :=
  R.isPercent e.2 && ((db.withLabels pending).labels e.1).isNone &&
    ((db.audits e.1).any fun a =>
      R.isPercent a.value && a.label.isNone && !a.updateApplied)

/-- The rows of `retire_attempted_labels`. -/
def Db.retirable (id : Identity) (db : Db F) : Bool :=
  (db.readyLabel id).isSome &&
    ((db.audits id).any fun a => !a.updateApplied && a.label.isSome)

/-- The rows of `apply_ready_labels`, as samples. -/
def Db.sweepable (id : Identity) (db : Db F) : Option (Sample F) :=
  match db.readyLabel id, db.audits id with
  | some _, some a =>
    if a.updateApplied || a.label.isSome then none
    else some {
      clusterId := if id.stream.clusterKey = "__default__" then none
        else some id.stream.clusterKey
      host := id.stream.host
      metric := id.stream.metric
      value := a.value
      observedAt := a.observedAt
      sampleId := id.sampleId
      label := none }
  | _, _ => none

/-- The end of a session: what it added and changed is committed, or nothing of it when a
row is not unique. -/
def World.commit (w : World F) (p : Nat) (queue : List (Sample F)) (pending : Pending F)
    (change : Db F → Option (Db F)) (entry : Commit F) : World F :=
  let rest := w.setScan p (some ⟨queue, .between⟩)
  if w.db.conflicts pending then rest
  else
    match change (w.db.withLabels pending) with
    | none => rest
    | some db => { rest with db := db, log := w.log ++ [entry] }

/-- The end of a session with a label. -/
def World.writeRetry (w : World F) (p : Nat) (queue : List (Sample F)) (id : Identity)
    (pending : Pending F) (label : F) (learner : Mean F) (reset : Bool) (gates : Gates) :
    World F :=
  let runtime := gates.runtime.blockedIf !gates.target.allowed
  match guardedUpdate R learner label runtime gates.target.target gates.quality with
  | .raised => w.setScan p (some ⟨queue, .between⟩)
  | .refused =>
    w.commit p queue pending
      (fun db => some
        (((db.resetIf R reset id.stream).attempt id label gates false).mark .skipped [id]))
      { refused := some id, skipped := [id] }
  | .applied m =>
    w.commit p queue pending
      (fun db => some (((db.save id.stream m).attempt id label gates true).mark .consumed [id]))
      { saved := some (id, label), consumed := some id }

/-- The end of a session with a first observation. -/
def World.writeObserved (w : World F) (p : Nat) (queue : List (Sample F)) (id : Identity)
    (s : Sample F) (pending : Pending F) (policyPaused : Bool) (learner : Mean F) (reset : Bool)
    (gates : Gates) : World F :=
  let runtime := (gates.runtime.blockedIf policyPaused).blockedIf !gates.target.allowed
  let row (applied : Bool) : Audit F :=
    ⟨s.observedAt, s.value, s.label, gates.quality.status, runtime.mode, applied⟩
  match guardedUpdate R learner s.value runtime gates.target.target gates.quality with
  | .raised => w.setScan p (some ⟨queue, .between⟩)
  | .refused =>
    w.commit p queue pending
      (fun db => (db.resetIf R reset id.stream).insertAudit id (row false)) {}
  | .applied m =>
    w.commit p queue pending
      (fun db => (db.save id.stream m).insertAudit id (row true)) { saved := some (id, s.value) }

/-! ## Steps -/

/-- A step of a process, by its number, or of another one that enqueues labels. -/
inductive Act (F : Type)
  /-- `_acquire_watcher_process_lock` -/
  | start (p : Nat)
  /-- The process ends, wherever it is. -/
  | exit (p : Nat)
  /-- `_run_auxiliary_scan` of the node scan. -/
  | tick (p : Nat)
  /-- The scan is over. -/
  | finish (p : Nat)
  /-- `consume_samples` of what the scan has measured. -/
  | observe (p : Nat) (samples : List (Sample F))
  /-- The query of `retire_attempted_labels`, and its commit. -/
  | retire (p : Nat) (rows : List Identity)
  | retired (p : Nat)
  /-- The query of `apply_ready_labels`. -/
  | sweep (p : Nat) (rows : List Identity)
  /-- The budget of a batch is used up, or its circuit breaker opens. -/
  | skip (p : Nat)
  /-- `_consume_one` of the next sample; it ends here when the feature is off or the stream
  is paused. -/
  | take (p : Nat) (default : Option String) (goesOn : Bool)
  /-- A label of `enqueue_verified_outcomes`. -/
  | enqueue (p : Nat) (label : Identity × F)
  /-- `label_policy_paused`, and the query of the audit row. -/
  | look (p : Nat) (policyPaused : Bool)
  | readLabel (p : Nat)
  | load (p : Nat)
  | write (p : Nat) (gates : Gates)
  /-- A statement raises. -/
  | fail (p : Nat)
  /-- `enqueue_verified_outcomes` of another session: a label, its commit, its rollback. -/
  | propose (e : Nat) (label : Identity × F)
  | commitOutside (e : Nat)
  | abandon (e : Nat)

def step (w : World F) : Act F → Option (World F)
  | .start p => some (if w.lock = none then { w with lock := some p } else w)
  | .exit p =>
    some { w.setScan p none with lock := if w.lock = some p then none else w.lock }
  | .tick p =>
    if w.lock = some p ∧ (w.scans p).isNone then some (w.setScan p (some ⟨[], .between⟩))
    else none
  | .finish p =>
    match w.scans p with
    | some ⟨_, .between⟩ => some (w.setScan p none)
    | _ => none
  | .observe p samples =>
    match w.scans p with
    | some ⟨[], .between⟩ =>
      -- `node_metrics` and the Loki reader return percentages
      if samples.all fun s => R.isPercent s.value then
        some (w.setScan p (some ⟨samples, .between⟩))
      else none
    | _ => none
  | .retire p rows =>
    match w.scans p with
    | some ⟨[], .between⟩ =>
      some (w.setScan p (some ⟨[], .retiring (rows.filter fun id => w.db.retirable id)⟩))
    | _ => none
  | .retired p =>
    match w.scans p with
    | some ⟨queue, .retiring rows⟩ =>
      some (w.commit p queue [] (fun db => some (db.mark .skipped rows)) { skipped := rows })
    | _ => none
  | .sweep p rows =>
    match w.scans p with
    | some ⟨[], .between⟩ =>
      some (w.setScan p (some ⟨rows.filterMap fun id => w.db.sweepable id, .between⟩))
    | _ => none
  | .skip p =>
    match w.scans p with
    | some ⟨_, .between⟩ => some (w.setScan p (some ⟨[], .between⟩))
    | _ => none
  | .take p default goesOn =>
    match w.scans p with
    | some ⟨s :: queue, .between⟩ =>
      if goesOn then
        some (w.setScan p (some ⟨queue, .reconciling (s.identity default) s []⟩))
      else some (w.setScan p (some ⟨queue, .between⟩))
    | _ => none
  | .enqueue p label =>
    match w.scans p with
    | some ⟨queue, .reconciling id s pending⟩ =>
      if enqueueable R w.db pending label then
        some (w.setScan p (some ⟨queue, .reconciling id s (pending ++ [label])⟩))
      else none
    | _ => none
  | .look p policyPaused =>
    match w.scans p with
    | some ⟨queue, .reconciling id s pending⟩ =>
      some (w.setScan p (some ⟨queue, .looked id s pending policyPaused (w.db.audits id)⟩))
    | _ => none
  | .readLabel p =>
    match w.scans p with
    | some ⟨queue, .looked id _ pending policyPaused (some existing)⟩ =>
      match (w.db.withLabels pending).readyLabel id with
      | some label =>
        if existing.updateApplied || policyPaused then
          some (w.commit p queue pending some {})
        else some (w.setScan p (some ⟨queue, .labelled id pending label⟩))
      | none => some (w.commit p queue pending some {})
    | _ => none
  | .load p =>
    match w.scans p with
    | some ⟨queue, .labelled id pending label⟩ =>
      let loaded := load R (w.db.states id.stream)
      some (w.setScan p (some ⟨queue, .retrying id pending label loaded.1 loaded.2⟩))
    | some ⟨queue, .looked id s pending policyPaused none⟩ =>
      let loaded := load R (w.db.states id.stream)
      some (w.setScan p
        (some ⟨queue, .observing id s pending policyPaused loaded.1 loaded.2⟩))
    | _ => none
  | .write p gates =>
    match w.scans p with
    | some ⟨queue, .retrying id pending label learner reset⟩ =>
      some (w.writeRetry R p queue id pending label learner reset gates)
    | some ⟨queue, .observing id s pending policyPaused learner reset⟩ =>
      some (w.writeObserved R p queue id s pending policyPaused learner reset gates)
    | _ => none
  | .fail p =>
    match w.scans p with
    | some ⟨queue, _⟩ => some (w.setScan p (some ⟨queue, .between⟩))
    | none => none
  | .propose e label =>
    if enqueueable R w.db (w.outside e) label then
      some (w.setOutside e (w.outside e ++ [label]))
    else none
  | .commitOutside e =>
    if w.db.conflicts (w.outside e) then some (w.setOutside e [])
    else some { w.setOutside e [] with db := w.db.withLabels (w.outside e) }
  | .abandon e => some (w.setOutside e [])

section

-- the equations, made once for all the proofs that use them
attribute [local simp] step

end

def system : System (World F) (Act F) where
  step := step R

end CephAi.Ports.OnlineLearner
