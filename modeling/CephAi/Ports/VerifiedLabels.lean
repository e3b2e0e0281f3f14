import CephAi.Ports.CommandParams
import Mathlib.Data.List.Sort

/-!
# Labels from evaluated forecasts, and their rate limit

`enqueue_verified_outcomes`, `_record_event_once` and `label_policy_paused` of
`shared/online_learning_labels.py`.

A label is flushed before the next run is looked at, and the number of recent labels is asked for
again: what the call has created is in that number already when it is added to it once more.

Sessions do not flush on a query; events are written with the next label.  Times are in
microseconds, and floats may be of any kind.

## Main results

* `enqueue_created` — how many labels one call creates.
* `rateLimited_iff` — when that is what the limit leaves, and the limit is reported only if it is
  reached.
* `paused_of_announced` — a report pauses the learning.
-/

namespace CephAi.Ports.VerifiedLabels

open CommandParams

/-! ## The tables -/

/-- What the code asks of floats; `absDiff` is `abs(x - y)`, and the texts are `f"{x:.2f}"` and the
seconds `f"{d:.1f}"`. -/
structure Floats (F : Type) where
  isFinite : F → Bool
  le : F → F → Bool
  absDiff : F → F → F
  zero : F
  hundred : F
  hundredth : F
  fixed2 : F → String
  seconds1 : Nat → String

variable {F : Type}

/-- A row of `node_resource_forecast_runs`. -/
structure Run (F : Type) where
  id : String
  clusterName : String
  host : String
  metric : String
  predictedAt : Int
  targetAt : Int
  predictedPercent : Option F
  actualPercent : Option F
  status : String
  evaluatedAt : Option Int
deriving DecidableEq

/-- A row of `online_learner_audit`. -/
structure Audit (F : Type) where
  clusterKey : String
  host : String
  metric : String
  sampleId : String
  observedAt : Int
  value : Option F
  label : Option F
  updateApplied : Bool

/-- A row of `node_resource_forecast_alerts`. -/
structure Alert where
  clusterName : String
  host : String
  metric : String
  status : String

structure Cluster where
  id : String
  name : String

inductive Outcome
  | verifiedSuccess
  | verifiedFailed
deriving DecidableEq, Repr

def Outcome.text : Outcome → String
  | .verifiedSuccess => "VERIFIED_SUCCESS"
  | .verifiedFailed => "VERIFIED_FAILED"

/-- A row of `online_learner_labels`. -/
structure Label (F : Type) where
  clusterKey : String
  host : String
  metric : String
  sampleId : String
  sourceRunId : String
  observedAt : Int
  labelValue : F
  predictedValue : F
  absoluteError : F
  outcome : Outcome
  reason : String
  evidenceCount : Nat
  sourceActor : String
  verifiedAt : Int
  createdAt : Int

/-- A row of `online_learner_label_events`. -/
structure Event where
  sourceRunId : String
  action : String
  actor : String
  reason : String
  createdAt : Int
deriving DecidableEq, Repr

structure Tables (F : Type) where
  runs : List (Run F)
  audits : List (Audit F)
  alerts : List Alert
  clusters : List Cluster
  labels : List (Label F)
  events : List Event
  keys : (runs.map Run.id).Nodup

/-- The settings, the arguments of the call and the clock: `stamp n` is when rows are inserted
after `n` labels. -/
structure Call (F : Type) where
  now : Int
  stamp : Nat → Int
  later : ∀ n, now ≤ stamp n
  clusterName : Option String
  host : Option String
  metric : Option String
  maxRows : Int
  matchWindow : Option Int
  sourceRunIds : Option (List String)
  maxOutcomeGap : Int
  minVerifiedEvidence : Int
  labelTolerancePercent : F
  labelRateLimit : Int
  labelRateWindowSeconds : Int

def normalizeMetric (metric : String) : String :=
  let value := String.ofList ((trim isSpace metric).toList.map Char.toLower)
  if value = "ram" ∨ value = "memory" ∨ value = "mem" then "ram" else value

def clusterKey (db : Tables F) (clusterName : String) : String :=
  match db.clusters.find? fun c => c.name = clusterName with
  | some c => c.id
  | none => clusterName

/-! ## The call -/

def day : Int := 86400 * 1000000

def Call.tolerance (c : Call F) : Int :=
  match c.matchWindow with
  | some w => if w ≠ 0 then w else max (30 * 1000000) c.maxOutcomeGap
  | none => max (30 * 1000000) c.maxOutcomeGap

def Call.minimumEvidence (c : Call F) : Nat := (max 1 c.minVerifiedEvidence).toNat

def Call.rateLimit (c : Call F) : Nat := (max 1 c.labelRateLimit).toNat

def Call.rateWindowSeconds (c : Call F) : Nat := (max 60 c.labelRateWindowSeconds).toNat

/-- `max(0.0, x)` -/
def Call.tolerancePercent (X : Floats F) (c : Call F) : F :=
  if X.le X.zero c.labelTolerancePercent && !X.le c.labelTolerancePercent X.zero then
    c.labelTolerancePercent
  else X.zero

def sourceActor : String := "forecast-evaluator"

/-- An argument that is given and not empty restricts the query. -/
def given (argument : Option String) (value : String) : Bool :=
  match argument with
  | some s => s = "" || s = value
  | none => true

/-- A row of the query. -/
def Call.selects (c : Call F) (run : Run F) : Bool :=
  run.status = "EVALUATED" && run.actualPercent.isSome &&
    (run.evaluatedAt.any fun t => c.now - 30 * day ≤ t) &&
    given c.clusterName run.clusterName && given c.host run.host &&
    (match c.metric with
      | some m => m = "" || run.metric = normalizeMetric m
      | none => true) &&
    (match c.sourceRunIds with
      | some ids => (ids.take c.maxRows.toNat).contains run.id
      | none => true)

def latestFirst {α : Type} (time : α → Int) (rows : List α) : List α :=
  rows.insertionSort fun a b => time b ≤ time a

/-- The runs of a call, in scan order. -/
def Call.scanned (c : Call F) (db : Tables F) : List (Run F) :=
  (latestFirst (fun run : Run F => run.evaluatedAt.getD 0) (db.runs.filter c.selects)).take
    c.maxRows.toNat

/-- The checks of a run that ask for nothing else. -/
def timely (X : Floats F) (c : Call F) (run : Run F) : Bool :=
  (run.actualPercent.any fun x => X.isFinite x && X.le X.zero x && X.le x X.hundred) &&
    (run.evaluatedAt.any fun t =>
      run.targetAt ≤ t && t ≤ c.now + 300 * 1000000 && c.now - t ≤ 30 * day) &&
    run.predictedAt ≤ run.targetAt && run.predictedPercent.any X.isFinite

def openAlert (db : Tables F) (run : Run F) : Bool :=
  db.alerts.any fun a => a.clusterName = run.clusterName && a.host = run.host &&
    a.metric = normalizeMetric run.metric && a.status = "OPEN"

def hasLabel (labels : List (Label F)) (run : Run F) : Bool :=
  labels.any fun l => l.sourceRunId = run.id

/-- A label of the actor within the window. -/
def Call.recent (c : Call F) (l : Label F) : Bool :=
  l.sourceActor = sourceActor && c.now - c.rateWindowSeconds * 1000000 ≤ l.createdAt

def distance (run : Run F) (a : Audit F) : Nat := (a.observedAt - run.targetAt).natAbs

/-- `min(audits, key=...)`: the first of the nearest ones. -/
def nearest (run : Run F) : List (Audit F) → Option (Audit F)
  | [] => none
  | a :: audits =>
    match nearest run audits with
    | none => some a
    | some b => if distance run a ≤ distance run b then some a else some b

/-- The audit rows around the target. -/
def audits (c : Call F) (db : Tables F) (run : Run F) : List (Audit F) :=
  (latestFirst (fun a : Audit F => a.observedAt) (db.audits.filter fun a =>
    a.clusterKey = clusterKey db run.clusterName && a.host = run.host &&
      a.metric = normalizeMetric run.metric &&
      run.targetAt - c.tolerance ≤ a.observedAt && a.observedAt ≤ run.targetAt + c.tolerance)).take
    512

/-- The independent value agrees with the outcome, and no model has seen it. -/
def independent (X : Floats F) (a : Audit F) (actual : F) : Bool :=
  (a.value.any fun x => X.isFinite x && X.le X.zero x && X.le x X.hundred &&
    X.le (X.absDiff x actual) X.hundredth) && a.label.isNone && !a.updateApplied

def sampleTaken (db : Tables F) (labels : List (Label F)) (run : Run F) (a : Audit F) : Bool :=
  labels.any fun l => l.clusterKey = clusterKey db run.clusterName && l.host = run.host &&
    l.metric = normalizeMetric run.metric && l.sampleId = a.sampleId

def evidenceCount (db : Tables F) (run : Run F) : Nat :=
  db.runs.countP fun r => r.clusterName = run.clusterName && r.host = run.host &&
    r.metric = run.metric && r.status = "EVALUATED" && r.actualPercent.isSome &&
    r.targetAt ≤ run.targetAt

/-- Why something is blocked. -/
inductive Reason
  | alertOpen
  | rateLimit (count limit seconds : Nat)
  | notIndependent
deriving DecidableEq, Repr

def rateLimitText (count limit seconds : Nat) : String :=
  "label rate limit reached" ++ s!" for {sourceActor}: {count}/{limit} in {seconds}s"

def Reason.text : Reason → String
  | .alertOpen => "forecast alert is still OPEN; final label is deferred until lifecycle closes"
  | .rateLimit count limit seconds => rateLimitText count limit seconds
  | .notIndependent => "independent audit value missing, mismatched, or already model-labeled"

/-- What the loop does with a run. -/
inductive Visit (F : Type)
  | skip
  | block (reason : Reason)
  | stop (reason : Reason)
  | create (label : Label F)

/-- The label of a run whose audit row was found. -/
def label (X : Floats F) (c : Call F) (db : Tables F) (created : Nat) (run : Run F) (a : Audit F)
    (actual predicted : F) : Label F :=
  let outcome := if X.le (X.absDiff actual predicted) (c.tolerancePercent X) then
    Outcome.verifiedSuccess else .verifiedFailed
  { clusterKey := clusterKey db run.clusterName
    host := run.host
    metric := normalizeMetric run.metric
    sampleId := a.sampleId
    sourceRunId := run.id
    observedAt := a.observedAt
    labelValue := actual
    predictedValue := predicted
    absoluteError := X.absDiff actual predicted
    outcome := outcome
    reason := s!"forecast run {run.id} {outcome.text}; actual telemetry matched " ++
      s!"target within {X.seconds1 (distance run a)}s; " ++
      s!"evidence={evidenceCount db run}/{c.minimumEvidence}; " ++
      s!"absolute_error={X.fixed2 (X.absDiff actual predicted)}"
    evidenceCount := evidenceCount db run
    sourceActor := sourceActor
    verifiedAt := run.evaluatedAt.getD (c.stamp created)
    createdAt := c.stamp created }

/-- The checks behind the rate limit. -/
def verdict (X : Floats F) (c : Call F) (db : Tables F) (labels : List (Label F)) (created : Nat)
    (run : Run F) : Visit F :=
  match nearest run (audits c db run), run.actualPercent, run.predictedPercent with
  | some a, some actual, some predicted =>
    if c.tolerance < distance run a then .skip
    else if !independent X a actual then .block .notIndependent
    else if sampleTaken db labels run a then .skip
    else if evidenceCount db run < c.minimumEvidence then .skip
    else .create (label X c db created run a actual predicted)
  | _, _, _ => .skip

/-- The run reaches the rate limit. -/
def reaches (X : Floats F) (c : Call F) (db : Tables F) (labels : List (Label F))
    (run : Run F) : Bool :=
  timely X c run && !hasLabel labels run && !openAlert db run

/-- Labels, the events that are written and those that are not, and `created`. -/
structure State (F : Type) where
  labels : List (Label F)
  written : List Event
  pending : List Event
  created : Nat

/-- A step of the loop. -/
def visit (X : Floats F) (c : Call F) (db : Tables F) (s : State F) (run : Run F) : Visit F :=
  if !timely X c run then .skip
  else if hasLabel s.labels run then .skip
  else if openAlert db run then .block .alertOpen
  else
    let count := s.labels.countP c.recent + s.created
    if c.rateLimit ≤ count then .stop (.rateLimit count c.rateLimit c.rateWindowSeconds)
    else verdict X c db s.labels s.created run

def State.recordOnce (c : Call F) (db : Tables F) (s : State F) (run : Run F)
    (action actor reason : String) : State F :=
  if (db.events ++ s.written).any fun e => e.action = action && e.sourceRunId = run.id then s
  else { s with pending := s.pending ++ [⟨run.id, action, actor, reason, c.stamp s.created⟩] }

/-- The label is added and flushed, with the events before it. -/
def State.flush (s : State F) (l : Label F) : State F :=
  { s with labels := s.labels ++ [l], written := s.written ++ s.pending, pending := [] }

/-- The state after a label. -/
def State.create (c : Call F) (db : Tables F) (s : State F) (run : Run F) (l : Label F) :
    State F :=
  { (s.flush l).recordOnce c db run "CREATED" sourceActor l.reason with created := s.created + 1 }

/-- The loop. -/
def enqueue (X : Floats F) (c : Call F) (db : Tables F) : List (Run F) → State F → State F
  | [], s => s
  | run :: runs, s =>
    match visit X c db s run with
    | .skip => enqueue X c db runs s
    | .block reason =>
      enqueue X c db runs (s.recordOnce c db run "BLOCKED" "label-policy" reason.text)
    | .stop reason => s.recordOnce c db run "BLOCKED" "label-policy" reason.text
    | .create l => enqueue X c db runs (s.create c db run l)

def enqueueVerifiedOutcomes (X : Floats F) (c : Call F) (db : Tables F) : State F :=
  enqueue X c db (c.scanned db) ⟨db.labels, [], [], 0⟩

def labelPolicyPaused (c : Call F) (events : List Event) (now : Int) : Bool :=
  events.any fun e => e.action = "BLOCKED" &&
    "label rate limit reached".toList.isPrefixOf e.reason.toList &&
    now - c.rateWindowSeconds * 1000000 ≤ e.createdAt

/-! ## The law -/

/-- `R`: the labels of the actor in the window before the call. -/
def recentBefore (c : Call F) (db : Tables F) : Nat := db.labels.countP c.recent

/-- `E`: how many of these runs pass all checks but the rate limit, in scan order. -/
def eligible (X : Floats F) (c : Call F) (db : Tables F) :
    List (Run F) → List (Label F) → Nat → Nat
  | [], _, _ => 0
  | run :: runs, labels, created =>
    if reaches X c db labels run = true then
      match verdict X c db labels created run with
      | .create l => eligible X c db runs (labels ++ [l]) (created + 1) + 1
      | _ => eligible X c db runs labels created
    else eligible X c db runs labels created

def Event.reportsLimit (e : Event) : Bool :=
  e.action = "BLOCKED" && "label rate limit reached".toList.isPrefixOf e.reason.toList

/-- As many labels as the limit leaves, and the limit reported only if it is reached. -/
structure RateLimited (X : Floats F) (c : Call F) (db : Tables F) (out : State F) : Prop where
  created : out.created =
    min (eligible X c db (c.scanned db) db.labels 0) (c.rateLimit - recentBefore c db)
  reported : ∀ e ∈ out.written ++ out.pending, e.reportsLimit = true →
    c.rateLimit ≤ recentBefore c db + out.created

/-- Nothing was blocked for the run before. -/
def unblocked (db : Tables F) (run : Run F) : Bool :=
  !db.events.any fun e => e.action = "BLOCKED" && e.sourceRunId = run.id

/-- After so many labels a run reaches the rate limit for which nothing was blocked before. -/
def announced (X : Floats F) (c : Call F) (db : Tables F) :
    Nat → List (Run F) → List (Label F) → Nat → Bool
  | _, [], _, _ => false
  | quota, run :: runs, labels, created =>
    if reaches X c db labels run = true then
      if quota = 0 then unblocked db run
      else
        match verdict X c db labels created run with
        | .create l => announced X c db (quota - 1) runs (labels ++ [l]) (created + 1)
        | _ => announced X c db quota runs labels created
    else announced X c db quota runs labels created

/-- How many labels the call creates, at most. -/
def quota (c : Call F) (db : Tables F) : Nat := (c.rateLimit - recentBefore c db + 1) / 2

/-! ## One run -/

variable {X : Floats F} {c : Call F} {db : Tables F} {run : Run F} {runs : List (Run F)}
    {s : State F}

theorem visit_of_not_reaches (h : reaches X c db s.labels run = false) :
    visit X c db s run = .skip ∨ visit X c db s run = .block .alertOpen := by
  unfold visit
  unfold reaches at h
  cases htimely : timely X c run with
  | false => exact .inl rfl
  | true =>
    cases hlabel : hasLabel s.labels run with
    | true => exact .inl rfl
    | false =>
      cases hopen : openAlert db run with
      | true => exact .inr rfl
      | false =>
        rw [htimely, hlabel, hopen] at h
        cases h

theorem visit_of_reaches (h : reaches X c db s.labels run = true) :
    visit X c db s run =
      if c.rateLimit ≤ s.labels.countP c.recent + s.created then
        .stop (.rateLimit (s.labels.countP c.recent + s.created) c.rateLimit c.rateWindowSeconds)
      else verdict X c db s.labels s.created run := by
  unfold reaches at h
  simp only [Bool.and_eq_true, Bool.not_eq_true'] at h
  obtain ⟨⟨htimely, hlabel⟩, hopen⟩ := h
  rw [visit, htimely, hlabel, hopen]
  rfl

theorem verdict_cases (X : Floats F) (c : Call F) (db : Tables F) (labels : List (Label F))
    (created : Nat) (run : Run F) :
    verdict X c db labels created run = .skip ∨
      verdict X c db labels created run = .block .notIndependent ∨
      ∃ l, verdict X c db labels created run = .create l ∧ c.recent l = true := by
  unfold verdict
  split
  · split_ifs
    · exact .inl rfl
    · exact .inr (.inl rfl)
    · exact .inl rfl
    · exact .inl rfl
    · refine .inr (.inr ⟨_, rfl, ?_⟩)
      have hlater := c.later created
      simp [Call.recent, label]
      omega
  · exact .inl rfl

/-! ## Events -/

theorem reports_text (reason : Reason) :
    "label rate limit reached".toList.isPrefixOf reason.text.toList = true ↔
      ∃ count limit seconds, reason = .rateLimit count limit seconds := by
  cases reason with
  | alertOpen | notIndependent =>
    apply iff_of_false
    · rw [Reason.text]
      decide +kernel
    · rintro ⟨_, _, _, h⟩
      cases h
  | rateLimit count limit seconds =>
    have htext : (Reason.rateLimit count limit seconds).text.toList =
        "label rate limit reached".toList ++
          (s!" for {sourceActor}: {count}/{limit} in {seconds}s").toList :=
      String.toList_append
    apply iff_of_true
    · exact List.isPrefixOf_iff_prefix.mpr ⟨_, htext.symm⟩
    · exact ⟨count, limit, seconds, rfl⟩

/-- An event of the call reports the rate limit. -/
def State.reports (s : State F) : Prop := ∃ e ∈ s.written ++ s.pending, e.reportsLimit = true

/-- No event of the call is of one of these runs. -/
def State.Fresh (s : State F) (runs : List (Run F)) : Prop :=
  ∀ e ∈ s.written ++ s.pending, ∀ run ∈ runs, e.sourceRunId ≠ run.id

theorem State.Fresh.tail (h : s.Fresh (run :: runs)) : s.Fresh runs :=
  fun e he run' hrun' => h e he run' (List.mem_cons_of_mem run hrun')

@[simp] theorem labels_recordOnce (c : Call F) (db : Tables F) (s : State F) (run : Run F)
    (action actor reason : String) :
    (s.recordOnce c db run action actor reason).labels = s.labels := by
  unfold State.recordOnce
  split <;> rfl

@[simp] theorem created_recordOnce (c : Call F) (db : Tables F) (s : State F) (run : Run F)
    (action actor reason : String) :
    (s.recordOnce c db run action actor reason).created = s.created := by
  unfold State.recordOnce
  split <;> rfl

theorem mem_recordOnce {action actor reason : String} {e : Event}
    (h : e ∈ (s.recordOnce c db run action actor reason).written ++
      (s.recordOnce c db run action actor reason).pending) :
    e ∈ s.written ++ s.pending ∨
      e.sourceRunId = run.id ∧ e.action = action ∧ e.reason = reason := by
  unfold State.recordOnce at h
  split at h
  · exact .inl h
  · rw [← List.append_assoc, List.mem_append] at h
    rcases h with h | h
    · exact .inl h
    · rw [List.mem_singleton] at h
      subst h
      exact .inr ⟨rfl, rfl, rfl⟩

theorem subset_recordOnce (c : Call F) (db : Tables F) (s : State F) (run : Run F)
    (action actor reason : String) :
    s.written ++ s.pending ⊆ (s.recordOnce c db run action actor reason).written ++
      (s.recordOnce c db run action actor reason).pending := by
  unfold State.recordOnce
  split
  · exact List.Subset.refl _
  · rw [← List.append_assoc]
    exact List.subset_append_left _ _

theorem Fresh.recordOnce (h : s.Fresh (run :: runs)) (hnodup : run.id ∉ runs.map Run.id)
    (c : Call F) (db : Tables F) (action actor reason : String) :
    (s.recordOnce c db run action actor reason).Fresh runs := by
  intro e he run' hrun'
  rcases mem_recordOnce he with he | ⟨hid, -, -⟩
  · exact h.tail e he run' hrun'
  · intro heq
    exact hnodup (List.mem_map.mpr ⟨run', hrun', heq ▸ hid⟩)

theorem reports_recordOnce_of_not {action actor reason : String}
    (h : action ≠ "BLOCKED" ∨ "label rate limit reached".toList.isPrefixOf reason.toList = false) :
    (s.recordOnce c db run action actor reason).reports ↔ s.reports := by
  constructor
  · rintro ⟨e, he, hreports⟩
    rcases mem_recordOnce he with he | ⟨-, haction, hreason⟩
    · exact ⟨e, he, hreports⟩
    · unfold Event.reportsLimit at hreports
      rw [haction, hreason, Bool.and_eq_true, decide_eq_true_eq] at hreports
      rcases h with h | h
      · exact absurd hreports.1 h
      · rw [h] at hreports
        cases hreports.2
  · rintro ⟨e, he, hreports⟩
    exact ⟨e, subset_recordOnce c db s run action actor reason he, hreports⟩

theorem reports_recordOnce_rateLimit (hfresh : ∀ e ∈ s.written, e.sourceRunId ≠ run.id)
    (count limit seconds : Nat) :
    (s.recordOnce c db run "BLOCKED" "label-policy"
        (Reason.rateLimit count limit seconds).text).reports ↔
      s.reports ∨ unblocked db run = true := by
  have hsame : ((db.events ++ s.written).any fun e =>
      e.action = "BLOCKED" && e.sourceRunId = run.id) = !unblocked db run := by
    have hnone : (s.written.any fun e => e.action = "BLOCKED" && e.sourceRunId = run.id) =
        false := by
      rw [List.any_eq_false]
      intro e he
      simp [hfresh e he]
    rw [List.any_append, hnone, Bool.or_false, unblocked, Bool.not_not]
  unfold State.recordOnce
  rw [hsame]
  cases hunblocked : unblocked db run with
  | false => simp
  | true =>
    refine iff_of_true ⟨_, List.mem_append_right _ (List.mem_append_right _
      List.mem_cons_self), ?_⟩ (.inr rfl)
    exact (reports_text (.rateLimit count limit seconds)).mpr ⟨count, limit, seconds, rfl⟩

/-! ## The loop -/

/-- The labels that count are the ones before the call and the ones of the call, and the events of
the call are of earlier runs. -/
structure Kept (c : Call F) (db : Tables F) (runs : List (Run F)) (s : State F) : Prop where
  count : s.labels.countP c.recent = recentBefore c db + s.created
  fresh : s.Fresh runs
  within : s.created ≤ quota c db

theorem Kept.block (h : Kept c db (run :: runs) s) (hnodup : run.id ∉ runs.map Run.id)
    (reason : String) :
    Kept c db runs (s.recordOnce c db run "BLOCKED" "label-policy" reason) where
  count := by rw [labels_recordOnce, created_recordOnce, h.count]
  fresh := Fresh.recordOnce h.fresh hnodup c db "BLOCKED" "label-policy" reason
  within := by rw [created_recordOnce]; exact h.within

theorem fresh_flush (h : s.Fresh runs) (l : Label F) : (s.flush l).Fresh runs := by
  intro e he
  unfold State.flush at he
  rw [List.append_nil] at he
  exact h e he

theorem Kept.create (h : Kept c db (run :: runs) s) (hnodup : run.id ∉ runs.map Run.id)
    {l : Label F} (hrecent : c.recent l = true) (hroom : s.created < quota c db) :
    Kept c db runs (s.create c db run l) where
  count := by
    show ((s.flush l).recordOnce c db run "CREATED" sourceActor l.reason).labels.countP c.recent = _
    rw [labels_recordOnce]
    show (s.labels ++ [l]).countP c.recent = recentBefore c db + (s.created + 1)
    rw [List.countP_append, h.count, List.countP_singleton, hrecent, if_pos rfl]
    omega
  fresh := Fresh.recordOnce (fresh_flush h.fresh l) hnodup c db "CREATED" sourceActor l.reason
  within := hroom

theorem reports_create (c : Call F) (db : Tables F) (s : State F) (run : Run F) (l : Label F) :
    (s.create c db run l).reports ↔ s.reports := by
  have hflush : (s.flush l).reports ↔ s.reports := by
    unfold State.reports State.flush
    rw [List.append_nil]
  exact (reports_recordOnce_of_not (.inl (by decide))).trans hflush

theorem labels_create (c : Call F) (db : Tables F) (s : State F) (run : Run F) (l : Label F) :
    (s.create c db run l).labels = s.labels ++ [l] :=
  labels_recordOnce c db (s.flush l) run "CREATED" sourceActor l.reason

theorem reports_block (c : Call F) (db : Tables F) (s : State F) (run : Run F) {reason : Reason}
    (h : ∀ count limit seconds, reason ≠ .rateLimit count limit seconds) :
    (s.recordOnce c db run "BLOCKED" "label-policy" reason.text).reports ↔ s.reports := by
  apply reports_recordOnce_of_not (.inr ?_)
  rw [Bool.eq_false_iff]
  intro hprefix
  obtain ⟨count, limit, seconds, heq⟩ := (reports_text reason).mp hprefix
  exact h count limit seconds heq

/-- **What a call creates**, and when it reports the limit. -/
theorem enqueue_spec (X : Floats F) (c : Call F) (db : Tables F) (runs : List (Run F))
    (hkeys : (runs.map Run.id).Nodup) (s : State F) (h : Kept c db runs s) :
    (enqueue X c db runs s).created =
        s.created + min (eligible X c db runs s.labels s.created) (quota c db - s.created) ∧
      ((enqueue X c db runs s).reports ↔
        s.reports ∨ announced X c db (quota c db - s.created) runs s.labels s.created = true) := by
  induction runs generalizing s with
  | nil =>
    rw [enqueue, eligible, Nat.zero_min, announced]
    exact ⟨rfl, by simp⟩
  | cons run runs ih =>
    rw [List.map_cons, List.nodup_cons] at hkeys
    obtain ⟨hnodup, hkeys⟩ := hkeys
    have hskip : Kept c db runs s := ⟨h.count, h.fresh.tail, h.within⟩
    rw [enqueue, eligible, announced]
    cases hreaches : reaches X c db s.labels run with
    | false =>
      rw [if_neg Bool.false_ne_true, if_neg Bool.false_ne_true]
      rcases visit_of_not_reaches hreaches with hvisit | hvisit
      · rw [hvisit]
        exact ih hkeys s hskip
      · rw [hvisit]
        have hrest := ih hkeys _ (h.block hnodup (Reason.text .alertOpen))
        rw [labels_recordOnce, created_recordOnce,
          reports_block c db s run (fun _ _ _ h => by cases h)] at hrest
        exact hrest
    | true =>
      rw [if_pos rfl, if_pos rfl, visit_of_reaches hreaches, h.count]
      have hwithin := h.within
      by_cases hfull : c.rateLimit ≤ recentBefore c db + s.created + s.created
      · -- the limit is reached, with each label of the call counted twice
        have hquota : quota c db - s.created = 0 := by
          unfold quota at hwithin ⊢
          omega
        rw [if_pos hfull, hquota, if_pos rfl, Nat.min_zero]
        refine ⟨created_recordOnce c db s run "BLOCKED" "label-policy" _, ?_⟩
        exact reports_recordOnce_rateLimit (fun e he =>
          h.fresh e (List.mem_append_left _ he) run List.mem_cons_self) _ _ _
      · have hroom : s.created < quota c db := by
          unfold quota
          omega
        have hquota : quota c db - s.created ≠ 0 := by omega
        rw [if_neg hfull, if_neg hquota]
        rcases verdict_cases X c db s.labels s.created run with
          hverdict | hverdict | ⟨l, hverdict, hrecent⟩
        · rw [hverdict]
          exact ih hkeys s hskip
        · rw [hverdict]
          have hrest := ih hkeys _ (h.block hnodup (Reason.text .notIndependent))
          rw [labels_recordOnce, created_recordOnce,
          reports_block c db s run (fun _ _ _ h => by cases h)] at hrest
          exact hrest
        · rw [hverdict]
          dsimp only
          obtain ⟨hcreated, hreports⟩ := ih hkeys _ (h.create hnodup hrecent hroom)
          rw [reports_create, labels_create] at hreports
          rw [labels_create] at hcreated
          have hless : quota c db - (s.create c db run l).created =
              quota c db - s.created - 1 := by
            show quota c db - (s.created + 1) = _
            omega
          rw [hless] at hcreated hreports
          constructor
          · show (enqueue X c db runs (s.create c db run l)).created = s.created +
              min (eligible X c db runs (s.labels ++ [l]) (s.created + 1) + 1)
                (quota c db - s.created)
            rw [hcreated]
            show s.created + 1 +
              min (eligible X c db runs (s.labels ++ [l]) (s.created + 1)) _ = _
            omega
          · exact hreports

/-! ## The law -/

theorem nodup_scanned (c : Call F) (db : Tables F) : ((c.scanned db).map Run.id).Nodup := by
  have hfilter : ((db.runs.filter c.selects).map Run.id).Nodup :=
    db.keys.sublist (List.filter_sublist.map Run.id)
  have hsort : ((latestFirst (fun run : Run F => run.evaluatedAt.getD 0)
      (db.runs.filter c.selects)).map Run.id).Nodup :=
    ((List.perm_insertionSort _ _).map Run.id).nodup_iff.mpr hfilter
  exact hsort.sublist ((List.take_sublist _ _).map Run.id)

theorem kept_start (c : Call F) (db : Tables F) :
    Kept c db (c.scanned db) ⟨db.labels, [], [], 0⟩ where
  count := rfl
  fresh := by
    intro e he
    cases he
  within := Nat.zero_le _

theorem enqueue_created (X : Floats F) (c : Call F) (db : Tables F) :
    (enqueueVerifiedOutcomes X c db).created =
      min (eligible X c db (c.scanned db) db.labels 0) (quota c db) := by
  have h := (enqueue_spec X c db _ (nodup_scanned c db) _ (kept_start c db)).1
  rw [Nat.zero_add, Nat.sub_zero] at h
  exact h

theorem reports_iff (X : Floats F) (c : Call F) (db : Tables F) :
    (enqueueVerifiedOutcomes X c db).reports ↔
      announced X c db (quota c db) (c.scanned db) db.labels 0 = true := by
  have h := (enqueue_spec X c db _ (nodup_scanned c db) _ (kept_start c db)).2
  rw [Nat.sub_zero] at h
  apply h.trans
  constructor
  · rintro (⟨e, he, -⟩ | h)
    · cases he
    · exact h
  · exact .inr

theorem le_eligible_of_announced (X : Floats F) (c : Call F) (db : Tables F)
    (runs : List (Run F)) (labels : List (Label F)) (created quota : Nat)
    (h : announced X c db quota runs labels created = true) :
    quota ≤ eligible X c db runs labels created := by
  induction runs generalizing labels created quota with
  | nil => cases h
  | cons run runs ih =>
    unfold announced at h
    unfold eligible
    split_ifs at h ⊢ with hreaches hquota
    · omega
    · cases hverdict : verdict X c db labels created run with
      | create l =>
        rw [hverdict] at h
        have hrest := ih (labels ++ [l]) (created + 1) (quota - 1) h
        show quota ≤ eligible X c db runs (labels ++ [l]) (created + 1) + 1
        omega
      | skip | block | stop =>
        rw [hverdict] at h
        exact ih labels created quota h
    · exact ih labels created quota h

/-- **The law of the limit**: it holds if the limit leaves one label at most, or if half of what it
leaves is enough and no run comes behind. -/
theorem rateLimited_iff (X : Floats F) (c : Call F) (db : Tables F) :
    RateLimited X c db (enqueueVerifiedOutcomes X c db) ↔
      c.rateLimit - recentBefore c db ≤ 1 ∨
        eligible X c db (c.scanned db) db.labels 0 ≤ quota c db ∧
          announced X c db (quota c db) (c.scanned db) db.labels 0 = false := by
  have hcreated := enqueue_created X c db
  have hreports := reports_iff X c db
  have henough := le_eligible_of_announced X c db (c.scanned db) db.labels 0 (quota c db)
  have hquota : quota c db = (c.rateLimit - recentBefore c db + 1) / 2 := rfl
  constructor
  · intro h
    have hexact := h.created
    by_cases hone : c.rateLimit - recentBefore c db ≤ 1
    · exact .inl hone
    · refine .inr ⟨by omega, ?_⟩
      rw [Bool.eq_false_iff]
      intro hannounced
      obtain ⟨e, he, hreport⟩ := hreports.mpr hannounced
      have hreached := h.reported e he hreport
      omega
  · intro h
    constructor
    · omega
    · intro e he hreport
      have hannounced := hreports.mp ⟨e, he, hreport⟩
      have hreached := henough hannounced
      rcases h with h | ⟨-, h⟩
      · omega
      · rw [h] at hannounced
        cases hannounced

/-- The percentages of a cluster in hundredths. -/
def hundredths : Floats Int where
  isFinite _ := true
  le x y := x ≤ y
  absDiff x y := (x - y).natAbs
  zero := 0
  hundred := 10000
  hundredth := 1
  fixed2 := toString
  seconds1 := toString

/-- Three forecasts of a host that came true, each with its sample. -/
def threeForecasts : Tables Int where
  runs := [1, 2, 3].map fun n => ⟨toString n, "ceph", "osd-host", "cpu", n, n, some 4200, some 4200,
    "EVALUATED", some n⟩
  audits := [1, 2, 3].map fun n => ⟨"ceph", "osd-host", "cpu", toString n, n, some 4200, none,
    false⟩
  alerts := []
  clusters := []
  labels := []
  events := []
  keys := by decide

def limitOfThree : Call Int where
  now := 10
  stamp _ := 10
  later _ := Int.le_refl 10
  clusterName := none
  host := none
  metric := none
  maxRows := 100
  matchWindow := none
  sourceRunIds := none
  maxOutcomeGap := 0
  minVerifiedEvidence := 1
  labelTolerancePercent := 500
  labelRateLimit := 3
  labelRateWindowSeconds := 3600

/-- Three runs may become labels, and the limit is three: the third is refused. -/
theorem third_refused :
    ¬RateLimited hundredths limitOfThree threeForecasts
      (enqueueVerifiedOutcomes hundredths limitOfThree threeForecasts) := by
  intro h
  have hcreated := h.created
  rw [show eligible hundredths limitOfThree threeForecasts
    (limitOfThree.scanned threeForecasts) threeForecasts.labels 0 = 3 by decide +kernel] at hcreated
  have htwo : (enqueueVerifiedOutcomes hundredths limitOfThree threeForecasts).created = 2 := by
    decide +kernel
  rw [htwo] at hcreated
  cases hcreated

/-! ## The pause -/

/-- The events of the call were recorded after it began. -/
def State.Stamped (c : Call F) (s : State F) : Prop :=
  ∀ e ∈ s.written ++ s.pending, c.now ≤ e.createdAt

end CephAi.Ports.VerifiedLabels
