import CephAi.Verified.Means
import CephAi.Verified.Runs
import Mathlib.Algebra.Order.Field.Rat
import Mathlib.Algebra.Order.Ring.Cast
import Mathlib.Data.List.Nodup
import Mathlib.Tactic.SplitIfs

/-!
# The scores of forecasts

`_evaluate_due` of `watcher/node_resource_forecast.py` and of `watcher/volume_learning.py`, and
what adds the rows they work on: a forecast is a run that waits for its target time, its
outcome is compared with the prediction, and the error goes into the mean of its model.

The node's pass takes the observation closest to the target and leaves a run without a score
when there is none in the tolerance.  The volume's pass scores every run that is due with the
sample at hand, however long after its target that was taken.

## Main results

* `evaluateDue_scored` — a pass keeps every model's count and mean those of its scored runs.
* `lawful_iff` — the runs in which every score is of the target time.
* `scored_late` — a volume whose sample after three days scores a forecast for the first hour.
-/

namespace CephAi.Ports.OutcomeScores

open Verified.Means Verified.Runs

/-! ## The tables -/

inductive NodeMetric
  | cpu
  | ram
deriving DecidableEq, Repr

inductive VolumeMetric
  | iops
  | readLatencyMs
  | writeLatencyMs
deriving DecidableEq, Repr

structure NodeSeries where
  clusterName : String
  host : String
  metric : NodeMetric
deriving DecidableEq, Repr

structure VolumeScope where
  clusterId : String
  pool : String
  image : String
deriving DecidableEq, Repr

structure VolumeSeries where
  scope : VolumeScope
  metric : VolumeMetric
deriving DecidableEq, Repr

/-- The columns of the unique constraint of a model's state. -/
structure ModelKey (ι : Type) where
  series : ι
  algorithm : String
  windowHours : Nat
  horizonHours : Nat
deriving DecidableEq, Repr

inductive Status
  | pending
  | evaluated
  | unmeasurable
  | shadow
deriving DecidableEq, Repr

/-- A row of `NodeResourceForecastRun`, or of `VolumeForecastRun`; times are in microseconds. -/
structure ForecastRun (ι : Type) where
  model : ModelKey ι
  predictedAt : Int
  targetAt : Int
  predicted : Rat
  actual : Option Rat
  absoluteError : Option Rat
  percentageError : Option Rat
  status : Status
  evaluatedAt : Option Int
  idempotencyKey : String
deriving DecidableEq, Repr

/-- A row of `NodeResourceModelState`, or of `VolumeModelState`. -/
structure ModelState where
  evaluatedCount : Nat
  meanAbsoluteError : Option Rat
  meanPercentageError : Option Rat
  lastAbsoluteError : Option Rat
deriving DecidableEq, Repr

/-- The row that `_state_for` adds. -/
def ModelState.new : ModelState := ⟨0, none, none, none⟩

abbrev States (ι : Type) : Type := ModelKey ι → Option ModelState

/-- The two tables of nodes, or of volumes. -/
structure Ledger (ι : Type) where
  runs : List (ForecastRun ι)
  states : States ι

def Ledger.empty {ι : Type} : Ledger ι := ⟨[], fun _ => none⟩

variable {ι : Type} [DecidableEq ι]

def stateFor (states : States ι) (k : ModelKey ι) : ModelState :=
  (states k).getD .new

/-- The columns of the state that an outcome changes. -/
def ModelState.score (s : ModelState) (error : Rat) (percentage : Option Rat) : ModelState where
  evaluatedCount := s.evaluatedCount + 1
  meanAbsoluteError :=
    some ((s.meanAbsoluteError.getD 0 * s.evaluatedCount + error) /
      ((s.evaluatedCount + 1 : Nat) : Rat))
  meanPercentageError :=
    match percentage with
    | none => s.meanPercentageError
    | some p =>
      some ((s.meanPercentageError.getD 0 * s.evaluatedCount + p) /
        ((s.evaluatedCount + 1 : Nat) : Rat))
  lastAbsoluteError := some error

/-- The columns of a run that an outcome changes. -/
def ForecastRun.evaluate (r : ForecastRun ι) (actual : Rat) (percentage : Option Rat)
    (now : Int) : ForecastRun ι :=
  { r with
    actual := some actual
    absoluteError := some |r.predicted - actual|
    percentageError := percentage
    status := .evaluated
    evaluatedAt := some now }

/-! ## The two passes -/

/-- What a pass decides of a run that is due. -/
inductive Outcome
  | waiting
  | unmeasurable
  | scored (actual : Rat)
deriving DecidableEq, Repr

/-- `(a - b).total_seconds()` -/
def seconds (a b : Int) : Rat := ((a - b : Int) : Rat) / 1000000

/-- `max_gap`, from `node_resource_learning_max_outcome_gap_hours`. -/
def maxGap (gapHours : Rat) : Rat := max (1 / 4) gapHours

/-- `min(points, key=lambda point: abs(point[0] - target))` -/
def nearest (p : Int × Rat) (points : List (Int × Rat)) (target : Int) : Int × Rat :=
  points.foldl (fun best q => if |q.1 - target| < |best.1 - target| then q else best) p

/-- The observation that the node's pass compares a run with. -/
def actualFor (gapHours : Rat) (actualPercent : Option Rat) (now : Int)
    (points : List (Int × Rat)) (target : Int) : Option Rat :=
  match points with
  | p :: ps =>
    if |seconds (nearest p ps target).1 target| ≤ maxGap gapHours * 3600 then
      some (nearest p ps target).2
    else none
  | [] =>
    match actualPercent with
    | none => none
    | some a => if seconds now target / 3600 > maxGap gapHours then none else some a

/-- The body of the node's loop. -/
def outcome (gapHours : Rat) (actualPercent : Option Rat) (now : Int)
    (points : List (Int × Rat)) (target : Int) : Outcome :=
  match actualFor gapHours actualPercent now points target with
  | some a => .scored a
  | none =>
    if seconds now target > maxGap gapHours * 3600 then .unmeasurable else .waiting

/-- The filter of the node's pass. -/
def NodeDue (series : NodeSeries) (now : Int) (r : ForecastRun NodeSeries) : Prop :=
  r.status = .pending ∧ r.model.series = series ∧ r.targetAt ≤ now

instance (series : NodeSeries) (now : Int) (r : ForecastRun NodeSeries) :
    Decidable (NodeDue series now r) := inferInstanceAs (Decidable (_ ∧ _))

/-- What the node's pass does with a run. -/
def visitNode (gapHours : Rat) (series : NodeSeries) (actualPercent : Option Rat) (now : Int)
    (points : List (Int × Rat)) (r : ForecastRun NodeSeries) (states : States NodeSeries) :
    ForecastRun NodeSeries × States NodeSeries :=
  if NodeDue series now r then
    match outcome gapHours actualPercent now points r.targetAt with
    | .waiting => (r, states)
    | .unmeasurable => ({ r with status := .unmeasurable, evaluatedAt := some now }, states)
    | .scored actual =>
      let k : ModelKey NodeSeries :=
        ⟨series, r.model.algorithm, r.model.windowHours, r.model.horizonHours⟩
      (r.evaluate actual none now,
        Function.update states k
          (some ((stateFor states k).score |r.predicted - actual| none)))
  else (r, states)

def volumeAlgorithm : String := "seasonal_median"

/-- The filter of the volume's pass. -/
def VolumeDue (scope : VolumeScope) (observedAt : Int) (r : ForecastRun VolumeSeries) : Prop :=
  r.status = .pending ∧ r.model.series.scope = scope ∧ r.targetAt ≤ observedAt

instance (scope : VolumeScope) (observedAt : Int) (r : ForecastRun VolumeSeries) :
    Decidable (VolumeDue scope observedAt r) := inferInstanceAs (Decidable (_ ∧ _))

def percentageError (predicted actual : Rat) : Rat :=
  min 100 (|predicted - actual| / max (max |predicted| |actual|) (1 / 1000000) * 100)

/-- What the volume's pass does with a run. -/
def visitVolume (scope : VolumeScope) (actual : VolumeMetric → Rat) (observedAt : Int)
    (r : ForecastRun VolumeSeries) (states : States VolumeSeries) :
    ForecastRun VolumeSeries × States VolumeSeries :=
  if VolumeDue scope observedAt r then
    let actualValue := actual r.model.series.metric
    let percentage := percentageError r.predicted actualValue
    let k : ModelKey VolumeSeries :=
      ⟨⟨scope, r.model.series.metric⟩, volumeAlgorithm, r.model.windowHours,
        r.model.horizonHours⟩
    (r.evaluate actualValue (some percentage) observedAt,
      Function.update states k
        (some ((stateFor states k).score |r.predicted - actualValue| (some percentage))))
  else (r, states)

/-- A pass over the table. -/
def Ledger.evaluateDue (visit : ForecastRun ι → States ι → ForecastRun ι × States ι)
    (l : Ledger ι) : Ledger ι :=
  ⟨(visitAll visit l.runs l.states).1, (visitAll visit l.runs l.states).2⟩

/-! ## The rows that are added -/

def NodeMetric.text : NodeMetric → String
  | .cpu => "cpu"
  | .ram => "ram"

def VolumeMetric.text : VolumeMetric → String
  | .iops => "iops"
  | .readLatencyMs => "read_latency_ms"
  | .writeLatencyMs => "write_latency_ms"

/-- A forecast of one model. -/
structure Candidate where
  algorithm : String
  windowHours : Nat
  predicted : Rat
deriving DecidableEq, Repr

/-- A candidate of a volume. -/
structure Baseline where
  metric : VolumeMetric
  horizonHours : Nat
  windowHours : Nat
  prediction : Rat
deriving DecidableEq, Repr

def hour : Int := 3600 * 1000000

/-- `replace(minute=0, second=0, microsecond=0)` -/
def bucketOf (now : Int) : Int := now - now % hour

def ForecastRun.waiting (k : ModelKey ι) (now : Int) (predicted : Rat) (key : String) :
    ForecastRun ι where
  model := k
  predictedAt := now
  targetAt := now + k.horizonHours * hour
  predicted := predicted
  actual := none
  absoluteError := none
  percentageError := none
  status := .pending
  evaluatedAt := none
  idempotencyKey := key

/-- A row with a new `idempotency_key`. -/
def Ledger.add (l : Ledger ι) (r : ForecastRun ι) : Ledger ι :=
  if l.runs.any fun r' => r'.idempotencyKey = r.idempotencyKey then l
  else { l with runs := l.runs ++ [r] }

/-- The text of a time. -/
abbrev Isoformat : Type := Int → String

/-- A row of `_record_candidates`. -/
def candidateRun (isoformat : Isoformat) (series : NodeSeries) (now : Int) (horizonHours : Nat)
    (c : Candidate) : ForecastRun NodeSeries :=
  .waiting ⟨series, c.algorithm, c.windowHours, horizonHours⟩ now c.predicted
    ("|".intercalate [series.clusterName, series.host, series.metric.text, c.algorithm,
      toString c.windowHours, toString horizonHours, isoformat (bucketOf now)])

def recordCandidates (isoformat : Isoformat) (series : NodeSeries) (now : Int)
    (horizonHours : Nat) (candidates : List Candidate) (l : Ledger NodeSeries) :
    Ledger NodeSeries :=
  candidates.foldl (fun l c => l.add (candidateRun isoformat series now horizonHours c)) l

/-- `ALGORITHM` of the shadow model of nodes. -/
def shadowAlgorithm : String := "river_snarimax"

/-- `_save_evidence` of `watcher/snarimax_shadow.py`. -/
def saveEvidence (series : NodeSeries) (observedAt : Int) (prediction : Rat)
    (l : Ledger NodeSeries) : Ledger NodeSeries :=
  l.add
    { ForecastRun.waiting ⟨series, shadowAlgorithm, 24, 1⟩ observedAt prediction
        ("|".intercalate [series.clusterName, series.host, series.metric.text, shadowAlgorithm,
          toString (observedAt / 1000000)]) with
      status := .shadow }

def selectedWindow (series : NodeSeries) (available : List Nat) (horizonHours : Nat)
    (l : Ledger NodeSeries) : Ledger NodeSeries :=
  { l with
    states := available.foldl
      (fun states window =>
        let k : ModelKey NodeSeries := ⟨series, "linear", window, horizonHours⟩
        Function.update states k (some (stateFor states k))) l.states }

/-- A row of the second half of `observe_sample`. -/
def baselineRun (isoformat : Isoformat) (scope : VolumeScope) (observedAt : Int)
    (b : Baseline) : ForecastRun VolumeSeries :=
  .waiting ⟨⟨scope, b.metric⟩, volumeAlgorithm, b.windowHours, b.horizonHours⟩ observedAt
    b.prediction
    ("|".intercalate [scope.clusterId, scope.pool, scope.image, b.metric.text, volumeAlgorithm,
      toString b.windowHours, toString b.horizonHours, isoformat (bucketOf observedAt)])

/-- `observe_sample`, past the switches and the rate limit: the baselines are those of the
models with enough history. -/
def observeSample (isoformat : Isoformat) (scope : VolumeScope) (actual : VolumeMetric → Rat)
    (observedAt : Int) (baselines : List Baseline) (l : Ledger VolumeSeries) :
    Ledger VolumeSeries :=
  baselines.foldl (fun l b => l.add (baselineRun isoformat scope observedAt b))
    (l.evaluateDue (visitVolume scope actual observedAt))

/-! ## Runs of observations and passes -/

structure World where
  nodes : Ledger NodeSeries
  volumes : Ledger VolumeSeries

def World.empty : World := ⟨.empty, .empty⟩

inductive Label
  /-- `_evaluate_due` of nodes, from `adaptive_forecast` with points and from
  `evaluate_due_outcomes` without. -/
  | evaluateNode (series : NodeSeries) (actualPercent : Option Rat) (now : Int)
      (points : List (Int × Rat))
  | recordCandidates (series : NodeSeries) (now : Int) (horizonHours : Nat)
      (candidates : List Candidate)
  | saveEvidence (series : NodeSeries) (observedAt : Int) (prediction : Rat)
  | selectedWindow (series : NodeSeries) (available : List Nat) (horizonHours : Nat)
  | observeSample (scope : VolumeScope) (actual : VolumeMetric → Rat) (observedAt : Int)
      (baselines : List Baseline)

/-- The tables after a step. -/
def World.after (isoformat : Isoformat) (gapHours : Rat) (w : World) : Label → World
  | .evaluateNode series actualPercent now points =>
    { w with nodes := w.nodes.evaluateDue (visitNode gapHours series actualPercent now points) }
  | .recordCandidates series now horizonHours candidates =>
    { w with
      nodes := OutcomeScores.recordCandidates isoformat series now horizonHours candidates
        w.nodes }
  | .saveEvidence series observedAt prediction =>
    { w with nodes := OutcomeScores.saveEvidence series observedAt prediction w.nodes }
  | .selectedWindow series available horizonHours =>
    { w with nodes := OutcomeScores.selectedWindow series available horizonHours w.nodes }
  | .observeSample scope actual observedAt baselines =>
    { w with
      volumes := OutcomeScores.observeSample isoformat scope actual observedAt baselines
        w.volumes }

def learning (isoformat : Isoformat) (gapHours : Rat) : System World Label where
  step w a := some (w.after isoformat gapHours a)

/-! ## The law -/

def ForecastRun.error (r : ForecastRun ι) : Rat := |r.predicted - r.actual.getD 0|

def Ledger.evaluated (l : Ledger ι) (k : ModelKey ι) : List (ForecastRun ι) :=
  l.runs.filter fun r => r.status = .evaluated ∧ r.model = k

/-- The state of a model is that of its evaluated runs; a model without a state has none. -/
def Ledger.Scored (l : Ledger ι) : Prop :=
  ∀ k,
    match l.states k with
    | none => l.evaluated k = []
    | some s =>
      s.evaluatedCount = (l.evaluated k).length ∧
      s.meanAbsoluteError = meanOf ((l.evaluated k).map ForecastRun.error)

def Ledger.get (l : Ledger ι) (key : String) : Option (ForecastRun ι) :=
  l.runs.find? fun r => r.idempotencyKey = key

/-- The run with the key is pending before and not after. -/
def leavesPending (key : String) (l l' : Ledger ι) : Bool :=
  ((l.get key).any fun r => r.status = .pending) &&
    ((l'.get key).any fun r => r.status ≠ .pending)

/-- The observations that a node's pass is given. -/
def passPoints (actualPercent : Option Rat) (now : Int) (points : List (Int × Rat)) :
    List (Int × Rat) :=
  match points with
  | [] => actualPercent.toList.map fun a => (now, a)
  | p :: ps => p :: ps

/-- The observations of a node's series that a step is given. -/
def Label.ofNode (series : NodeSeries) : Label → List (Int × Rat)
  | .evaluateNode series' actualPercent now points =>
    if series' = series then passPoints actualPercent now points else []
  | _ => []

/-- The observations of a volume's series that a step is given. -/
def Label.ofVolume (series : VolumeSeries) : Label → List (Int × Rat)
  | .observeSample scope actual observedAt _ =>
    if scope = series.scope then [(observedAt, actual series.metric)] else []
  | _ => []

/-- Every run that is evaluated between two tables is compared with an observation within the
tolerance of its target. -/
def OnTime (gapHours : Rat) (observed : ι → List (Int × Rat)) (l l' : Ledger ι) : Prop :=
  ∀ r ∈ l'.runs, r.status = .evaluated → r ∉ l.runs →
    ∃ o ∈ observed r.model.series, r.actual = some o.2 ∧
      |seconds o.1 r.targetAt| ≤ maxGap gapHours * 3600

/-- The law of the scores, for a run from the tables `w`. -/
structure Lawful (isoformat : Isoformat) (gapHours : Rat) (w : World) (as : List Label) :
    Prop where
  node_once : ∀ key,
    (learning isoformat gapHours).count (fun w w' => leavesPending key w.nodes w'.nodes) w as ≤ 1
  volume_once : ∀ key,
    (learning isoformat gapHours).count (fun w w' => leavesPending key w.volumes w'.volumes) w as
      ≤ 1
  onTime : (learning isoformat gapHours).Always
    (fun w a w' =>
      OnTime gapHours (fun series => a.ofNode series) w.nodes w'.nodes ∧
      OnTime gapHours (fun series => a.ofVolume series) w.volumes w'.volumes) w as
  scored : (learning isoformat gapHours).Always
    (fun _ _ w' => w'.nodes.Scored ∧ w'.volumes.Scored) w as

/-- A sample of a volume comes within the tolerance of each run that is due. -/
def InTime (gapHours : Rat) (w : World) : Label → Prop
  | .observeSample scope _ observedAt _ =>
    ∀ r ∈ w.volumes.runs, VolumeDue scope observedAt r →
      seconds observedAt r.targetAt ≤ maxGap gapHours * 3600
  | _ => True

instance (gapHours : Rat) (w : World) : ∀ a, Decidable (InTime gapHours w a)
  | .observeSample scope _ observedAt _ =>
    inferInstanceAs (Decidable (∀ r ∈ w.volumes.runs, VolumeDue scope observedAt r →
      seconds observedAt r.targetAt ≤ maxGap gapHours * 3600))
  | .evaluateNode .. => inferInstanceAs (Decidable True)
  | .recordCandidates .. => inferInstanceAs (Decidable True)
  | .saveEvidence .. => inferInstanceAs (Decidable True)
  | .selectedWindow .. => inferInstanceAs (Decidable True)

/-! ## The means of the states -/

/-- The model that a run counts for. -/
def ForecastRun.scoredFor (r : ForecastRun ι) : Option (ModelKey ι) :=
  if r.status = .evaluated then some r.model else none

def meanAt (states : States ι) (k : ModelKey ι) : Mean Rat :=
  match states k with
  | none => .empty
  | some s => ⟨s.evaluatedCount, s.meanAbsoluteError⟩

section

variable (states : States ι)

section

variable (k : ModelKey ι)

omit [DecidableEq ι] in
theorem meanAt_stateFor :
    meanAt states k =
      ⟨(stateFor states k).evaluatedCount, (stateFor states k).meanAbsoluteError⟩ := by
  unfold meanAt stateFor
  cases states k with
  | none => rfl
  | some s => rfl

theorem meanAt_update (s : ModelState) :
    meanAt (Function.update states k (some s)) =
      Function.update (meanAt states) k ⟨s.evaluatedCount, s.meanAbsoluteError⟩ := by
  funext k'
  by_cases h : k' = k
  · subst h
    rw [Function.update_self, meanAt, Function.update_self]
  · rw [Function.update_of_ne h, meanAt, Function.update_of_ne h]
    rfl

theorem meanAt_score (error : Rat) (percentage : Option Rat) :
    meanAt (Function.update states k (some ((stateFor states k).score error percentage))) =
      Function.update (meanAt states) k ((meanAt states k).add error) := by
  rw [meanAt_update, meanAt_stateFor]
  rfl

theorem meanAt_ensure :
    meanAt (Function.update states k (some (stateFor states k))) = meanAt states := by
  rw [meanAt_update, ← meanAt_stateFor, Function.update_eq_self]

end

end

theorem evaluated_eq (l : Ledger ι) (k : ModelKey ι) :
    l.evaluated k = l.runs.filter fun r => r.scoredFor = some k := by
  unfold Ledger.evaluated
  congr 1
  funext r
  unfold ForecastRun.scoredFor
  by_cases h : r.status = .evaluated
  · simp [h]
  · simp [h]

theorem scored_iff_agrees (l : Ledger ι) :
    l.Scored ↔ Agrees ForecastRun.scoredFor ForecastRun.error (meanAt l.states) l.runs := by
  apply forall_congr'
  intro k
  rw [scoresOf, ← evaluated_eq, meanAt]
  cases l.states k with
  | none =>
    constructor
    · intro h
      show Mean.empty.Of ((l.evaluated k).map ForecastRun.error)
      rw [show l.evaluated k = [] from h]
      exact Mean.of_empty
    · intro h
      have hlen := h.count
      rw [List.length_map] at hlen
      exact List.length_eq_zero_iff.mp hlen.symm
  | some s =>
    constructor
    · intro h
      exact ⟨by rw [List.length_map]; exact h.1, h.2⟩
    · intro h
      have hlen := h.count
      rw [List.length_map] at hlen
      exact ⟨hlen, h.value⟩

/-! ## What a pass does with a run -/

/-- What both passes leave of a run. -/
structure Visits (visit : ForecastRun ι → States ι → ForecastRun ι × States ι) : Prop where
  fst : ∀ r s s', (visit r s).1 = (visit r s').1
  key : ∀ r s, (visit r s).1.idempotencyKey = r.idempotencyKey
  model : ∀ r s, (visit r s).1.model = r.model
  closed : ∀ r s, r.status ≠ .pending → (visit r s).1 = r

theorem visits_node (gapHours : Rat) (series : NodeSeries) (actualPercent : Option Rat) (now : Int)
    (points : List (Int × Rat)) : Visits (visitNode gapHours series actualPercent now points) := by
  constructor
  · intro r s s'
    unfold visitNode
    split_ifs
    · cases outcome gapHours actualPercent now points r.targetAt <;> rfl
    · rfl
  · intro r s
    unfold visitNode
    split_ifs
    · cases outcome gapHours actualPercent now points r.targetAt <;> rfl
    · rfl
  · intro r s
    unfold visitNode
    split_ifs
    · cases outcome gapHours actualPercent now points r.targetAt <;> rfl
    · rfl
  · intro r s h
    unfold visitNode
    rw [if_neg fun hdue : NodeDue series now r => h hdue.1]

theorem visits_volume (scope : VolumeScope) (actual : VolumeMetric → Rat) (observedAt : Int) :
    Visits (visitVolume scope actual observedAt) := by
  constructor
  · intro r s s'
    unfold visitVolume
    split_ifs <;> rfl
  · intro r s
    unfold visitVolume
    split_ifs <;> rfl
  · intro r s
    unfold visitVolume
    split_ifs <;> rfl
  · intro r s h
    unfold visitVolume
    rw [if_neg fun hdue : VolumeDue scope observedAt r => h hdue.1]

omit [DecidableEq ι] in
theorem scoredFor_evaluate (r : ForecastRun ι) (actual : Rat) (percentage : Option Rat)
    (now : Int) : (r.evaluate actual percentage now).scoredFor = some r.model := rfl

omit [DecidableEq ι] in
theorem scoredFor_of_pending {r : ForecastRun ι} (h : r.status = .pending) :
    r.scoredFor = none := by
  rw [ForecastRun.scoredFor, h]
  rfl

theorem adds_node (gapHours : Rat) (series : NodeSeries) (actualPercent : Option Rat) (now : Int)
    (points : List (Int × Rat)) (r : ForecastRun NodeSeries) (states : States NodeSeries) :
    Adds ForecastRun.scoredFor ForecastRun.error meanAt r states
      (visitNode gapHours series actualPercent now points r states) := by
  unfold visitNode
  split_ifs with hdue
  · have hnone := scoredFor_of_pending hdue.1
    cases outcome gapHours actualPercent now points r.targetAt with
    | waiting => exact .inl ⟨rfl, rfl, rfl⟩
    | unmeasurable =>
      refine .inl ⟨?_, rfl, rfl⟩
      rw [hnone]
      rfl
    | scored actual =>
      refine .inr ⟨hnone, r.model, scoredFor_evaluate r actual none now, ?_⟩
      have hk : (⟨series, r.model.algorithm, r.model.windowHours, r.model.horizonHours⟩ :
          ModelKey NodeSeries) = r.model := by
        rw [← hdue.2.1]
      show meanAt (Function.update states ⟨series, _, _, _⟩ _) = _
      rw [hk, meanAt_score]
      rfl
  · exact .inl ⟨rfl, rfl, rfl⟩

theorem adds_volume (scope : VolumeScope) (actual : VolumeMetric → Rat) (observedAt : Int)
    {r : ForecastRun VolumeSeries} (halg : r.model.algorithm = volumeAlgorithm)
    (states : States VolumeSeries) :
    Adds ForecastRun.scoredFor ForecastRun.error meanAt r states
      (visitVolume scope actual observedAt r states) := by
  unfold visitVolume
  split_ifs with hdue
  · refine .inr ⟨scoredFor_of_pending hdue.1, r.model, scoredFor_evaluate r _ _ _, ?_⟩
    have hk : (⟨⟨scope, r.model.series.metric⟩, volumeAlgorithm, r.model.windowHours,
        r.model.horizonHours⟩ : ModelKey VolumeSeries) = r.model := by
      rw [← hdue.2.1, ← halg]
    show meanAt (Function.update states ⟨⟨scope, _⟩, _, _, _⟩ _) = _
    rw [hk, meanAt_score]
    rfl
  · exact .inl ⟨rfl, rfl, rfl⟩

variable {key : String} {l l' : Ledger ι}
    {visit : ForecastRun ι → States ι → ForecastRun ι × States ι}

theorem evaluateDue_scored (h : l.Scored)
    (hadds : ∀ r ∈ l.runs, ∀ states,
      Adds ForecastRun.scoredFor ForecastRun.error meanAt r states (visit r states)) :
    (l.evaluateDue visit).Scored := by
  rw [scored_iff_agrees] at h ⊢
  exact agrees_visitAll l.runs [] l.states hadds h

/-! ## What a step does with a table -/

/-- `l'` has the runs of `l`, the pending ones possibly closed, and new ones without a score. -/
def Grows (l l' : Ledger ι) : Prop :=
  ∃ (f : ForecastRun ι → ForecastRun ι) (new : List (ForecastRun ι)),
    l'.runs = l.runs.map f ++ new ∧
    (∀ r, (f r).idempotencyKey = r.idempotencyKey ∧ (f r).model = r.model) ∧
    (∀ r, r.status ≠ .pending → f r = r) ∧
    ∀ r ∈ new, r.status ≠ .evaluated

/-- `idempotency_key` is unique. -/
def Ledger.Keyed (l : Ledger ι) : Prop := (l.runs.map ForecastRun.idempotencyKey).Nodup

omit [DecidableEq ι] in
theorem Grows.of_runs (h : l'.runs = l.runs) : Grows l l' := by
  refine ⟨id, [], ?_, fun _ => ⟨rfl, rfl⟩, fun _ _ => rfl, fun r hr => nomatch hr⟩
  rw [h, List.map_id, List.append_nil]

omit [DecidableEq ι] in
theorem Grows.get_of_closed (h : Grows l l') {r : ForecastRun ι} (hr : l.get key = some r)
    (hclosed : r.status ≠ .pending) : l'.get key = some r := by
  obtain ⟨f, new, hruns, hkept, hsame, _⟩ := h
  have hf : ((fun r : ForecastRun ι => decide (r.idempotencyKey = key)) ∘ f) =
      fun r => decide (r.idempotencyKey = key) := by
    funext r'
    show decide ((f r').idempotencyKey = key) = decide (r'.idempotencyKey = key)
    rw [(hkept r').1]
  unfold Ledger.get at hr ⊢
  rw [hruns, List.find?_append, List.find?_map, hf, hr, Option.map_some, Option.some_or,
    hsame r hclosed]

/-- The run with the key is there and not pending. -/
def Closed (key : String) (l : Ledger ι) : Prop :=
  ∃ r, l.get key = some r ∧ r.status ≠ .pending

omit [DecidableEq ι] in
theorem closed_of_leaves (h : leavesPending key l l' = true) : Closed key l' := by
  unfold leavesPending at h
  rw [Bool.and_eq_true] at h
  obtain ⟨r, hr, hstatus⟩ := (Option.any_eq_true _ _).mp h.2
  exact ⟨r, hr, of_decide_eq_true hstatus⟩

omit [DecidableEq ι] in
theorem Closed.grows (h : Closed key l) (hg : Grows l l') :
    leavesPending key l l' = false ∧ Closed key l' := by
  obtain ⟨r, hr, hclosed⟩ := h
  constructor
  · unfold leavesPending
    rw [hr, Option.any_some, decide_eq_false hclosed, Bool.false_and]
  · exact ⟨r, hg.get_of_closed hr hclosed, hclosed⟩

omit [DecidableEq ι] in
theorem evaluateDue_grows (l : Ledger ι) (hv : Visits visit) :
    (l.evaluateDue visit).runs = l.runs.map (fun r => (visit r l.states).1) ∧
      Grows l (l.evaluateDue visit) := by
  have hruns : (l.evaluateDue visit).runs = l.runs.map (fun r => (visit r l.states).1) :=
    visitAll_fst (fun r s => hv.fst r s l.states) l.runs l.states
  refine ⟨hruns, fun r => (visit r l.states).1, [], ?_, ?_, ?_, ?_⟩
  · rw [hruns, List.append_nil]
  · intro r
    exact ⟨hv.key r l.states, hv.model r l.states⟩
  · intro r hclosed
    exact hv.closed r l.states hclosed
  · intro r hr
    exact nomatch hr

omit [DecidableEq ι] in
theorem evaluateDue_keyed (h : l.Keyed) (hv : Visits visit) : (l.evaluateDue visit).Keyed := by
  unfold Ledger.Keyed
  rw [(evaluateDue_grows l hv).1, List.map_map]
  have hkey : (ForecastRun.idempotencyKey ∘ fun r => (visit r l.states).1) =
      ForecastRun.idempotencyKey := by
    funext r
    exact hv.key r l.states
  rw [hkey]
  exact h

omit [DecidableEq ι] in
theorem add_eq (l : Ledger ι) (r : ForecastRun ι) :
    l.add r = l ∨
    (l.add r = ⟨l.runs ++ [r], l.states⟩ ∧
      ∀ r' ∈ l.runs, r'.idempotencyKey ≠ r.idempotencyKey) := by
  unfold Ledger.add
  split_ifs with h
  · exact .inl rfl
  · refine .inr ⟨rfl, ?_⟩
    intro r' hr' heq
    exact h (List.any_eq_true.mpr ⟨r', hr', decide_eq_true heq⟩)

omit [DecidableEq ι] in
theorem Ledger.Keyed.add (h : l.Keyed) (r : ForecastRun ι) : (l.add r).Keyed := by
  rcases add_eq l r with heq | ⟨heq, hnew⟩
  · rwa [heq]
  · rw [heq]
    show ((l.runs ++ [r]).map ForecastRun.idempotencyKey).Nodup
    rw [List.map_append, List.nodup_append]
    refine ⟨h, List.nodup_singleton _, ?_⟩
    intro k hk k' hk' heq'
    obtain ⟨r', hr', rfl⟩ := List.mem_map.mp hk
    have hone : k' = r.idempotencyKey := List.mem_singleton.mp hk'
    exact hnew r' hr' (heq'.trans hone)

omit [DecidableEq ι] in
theorem addAll_eq {α : Type _} (row : α → ForecastRun ι) :
    ∀ (cs : List α) (l : Ledger ι), ∃ new,
      cs.foldl (fun l c => l.add (row c)) l = ⟨l.runs ++ new, l.states⟩ ∧
      (∀ r ∈ new, ∃ c, r = row c) ∧
      (l.Keyed → (cs.foldl (fun l c => l.add (row c)) l).Keyed) := by
  intro cs
  induction cs with
  | nil =>
    intro l
    exact ⟨[], by rw [List.append_nil]; rfl, fun r hr => (nomatch hr), id⟩
  | cons c cs ih =>
    intro l
    obtain ⟨new, heq, hrow, hkeyed⟩ := ih (l.add (row c))
    rw [List.foldl_cons]
    have hadd : (l.Keyed → (cs.foldl (fun l c => l.add (row c)) (l.add (row c))).Keyed) :=
      fun h => hkeyed (h.add (row c))
    rcases add_eq l (row c) with hsame | ⟨hnew, _⟩
    · rw [hsame] at heq hadd ⊢
      exact ⟨new, heq, hrow, hadd⟩
    · rw [hnew] at heq hadd ⊢
      refine ⟨row c :: new, ?_, ?_, hadd⟩
      · rw [heq]
        show Ledger.mk ((l.runs ++ [row c]) ++ new) l.states = _
        rw [List.append_assoc]
        rfl
      · intro r hr
        rcases List.mem_cons.mp hr with rfl | hr
        · exact ⟨c, rfl⟩
        · exact hrow r hr

theorem Ledger.Scored.append (h : l.Scored) {new : List (ForecastRun ι)}
    (hnew : ∀ r ∈ new, r.status ≠ .evaluated) : (Ledger.mk (l.runs ++ new) l.states).Scored := by
  rw [scored_iff_agrees] at h ⊢
  apply Agrees.append h
  intro r hr
  rw [ForecastRun.scoredFor, if_neg (hnew r hr)]

/-! ## What a step does -/

section Steps

variable (isoformat : Isoformat) (gapHours : Rat)

section

variable (series : NodeSeries)

theorem selectedWindow_means (available : List Nat) (horizonHours : Nat) (l : Ledger NodeSeries) :
    meanAt (selectedWindow series available horizonHours l).states = meanAt l.states := by
  show meanAt (available.foldl _ l.states) = _
  generalize l.states = states
  induction available generalizing states with
  | nil => rfl
  | cons window rest ih =>
    rw [List.foldl_cons, ih]
    exact meanAt_ensure states _

theorem saveEvidence_eq (observedAt : Int) (prediction : Rat) (l : Ledger NodeSeries) :
    ∃ new, saveEvidence series observedAt prediction l = ⟨l.runs ++ new, l.states⟩ ∧
      ∀ r ∈ new, r.status ≠ .evaluated := by
  rcases add_eq l
      { ForecastRun.waiting ⟨series, shadowAlgorithm, 24, 1⟩ observedAt prediction
          ("|".intercalate [series.clusterName, series.host, series.metric.text,
            shadowAlgorithm, toString (observedAt / 1000000)]) with
        status := .shadow } with hsame | ⟨hnew, _⟩
  · exact ⟨[], by rw [List.append_nil]; exact hsame, fun r hr => (nomatch hr)⟩
  · refine ⟨_, hnew, ?_⟩
    intro r hr
    rw [List.mem_singleton.mp hr]
    exact fun h => nomatch h

theorem recordCandidates_eq (now : Int) (horizonHours : Nat)
    (candidates : List Candidate) (l : Ledger NodeSeries) :
    ∃ new, recordCandidates isoformat series now horizonHours candidates l =
        ⟨l.runs ++ new, l.states⟩ ∧
      ∀ r ∈ new, r.status ≠ .evaluated := by
  obtain ⟨new, heq, hrow, _⟩ :=
    addAll_eq (candidateRun isoformat series now horizonHours) candidates l
  refine ⟨new, heq, ?_⟩
  intro r hr
  obtain ⟨c, rfl⟩ := hrow r hr
  exact fun h => nomatch h

end

theorem observeSample_eq (scope : VolumeScope) (actual : VolumeMetric → Rat)
    (observedAt : Int) (baselines : List Baseline) (l : Ledger VolumeSeries) :
    ∃ new, observeSample isoformat scope actual observedAt baselines l =
        ⟨(l.evaluateDue (visitVolume scope actual observedAt)).runs ++ new,
          (l.evaluateDue (visitVolume scope actual observedAt)).states⟩ ∧
      (∀ r ∈ new, r.status ≠ .evaluated ∧ r.model.algorithm = volumeAlgorithm) ∧
      (l.Keyed → (observeSample isoformat scope actual observedAt baselines l).Keyed) := by
  obtain ⟨new, heq, hrow, hkeyed⟩ := addAll_eq (baselineRun isoformat scope observedAt) baselines
    (l.evaluateDue (visitVolume scope actual observedAt))
  refine ⟨new, heq, ?_, ?_⟩
  · intro r hr
    obtain ⟨b, rfl⟩ := hrow r hr
    exact ⟨fun h => (nomatch h), rfl⟩
  · intro h
    exact hkeyed (evaluateDue_keyed h (visits_volume scope actual observedAt))

omit [DecidableEq ι] in
theorem grows_append {l : Ledger ι} {new : List (ForecastRun ι)}
    (hnew : ∀ r ∈ new, r.status ≠ .evaluated) :
    Grows l ⟨l.runs ++ new, l.states⟩ :=
  ⟨id, new, by rw [List.map_id], fun _ => ⟨rfl, rfl⟩, fun _ _ => rfl, hnew⟩

theorem nodes_grow (w : World) (a : Label) :
    Grows w.nodes (w.after isoformat gapHours a).nodes := by
  cases a with
  | evaluateNode series actualPercent now points =>
    exact (evaluateDue_grows w.nodes
      (visits_node gapHours series actualPercent now points)).2
  | recordCandidates series now horizonHours candidates =>
    obtain ⟨new, heq, hnew⟩ :=
      recordCandidates_eq isoformat series now horizonHours candidates w.nodes
    show Grows w.nodes (recordCandidates isoformat series now horizonHours candidates w.nodes)
    rw [heq]
    exact grows_append hnew
  | saveEvidence series observedAt prediction =>
    obtain ⟨new, heq, hnew⟩ := saveEvidence_eq series observedAt prediction w.nodes
    show Grows w.nodes (saveEvidence series observedAt prediction w.nodes)
    rw [heq]
    exact grows_append hnew
  | selectedWindow | observeSample => exact .of_runs rfl

theorem volumes_grow (w : World) (a : Label) :
    Grows w.volumes (w.after isoformat gapHours a).volumes := by
  cases a with
  | observeSample scope actual observedAt baselines =>
    obtain ⟨new, heq, hnew, _⟩ :=
      observeSample_eq isoformat scope actual observedAt baselines w.volumes
    obtain ⟨hruns, _⟩ := evaluateDue_grows w.volumes (visits_volume scope actual observedAt)
    have hv := visits_volume scope actual observedAt
    show Grows w.volumes (observeSample isoformat scope actual observedAt baselines w.volumes)
    rw [heq, hruns]
    refine ⟨_, new, rfl, ?_, ?_, fun r hr => (hnew r hr).1⟩
    · intro r
      exact ⟨hv.key r _, hv.model r _⟩
    · intro r hclosed
      exact hv.closed r _ hclosed
  | evaluateNode | recordCandidates | saveEvidence | selectedWindow => exact .of_runs rfl

/-- The states are those of the runs, and the keys and the model of volumes' runs are as they
are added. -/
structure Kept (w : World) : Prop where
  nodes : w.nodes.Scored
  volumes : w.volumes.Scored
  keyed : w.volumes.Keyed
  algorithm : ∀ r ∈ w.volumes.runs, r.model.algorithm = volumeAlgorithm

theorem kept_empty : Kept .empty where
  nodes _ := rfl
  volumes _ := rfl
  keyed := List.nodup_nil
  algorithm _ hr := nomatch hr

theorem nodes_scored {w : World} (h : w.nodes.Scored) (a : Label) :
    (w.after isoformat gapHours a).nodes.Scored := by
  cases a with
  | evaluateNode series actualPercent now points =>
    exact evaluateDue_scored h fun r _ states =>
      adds_node gapHours series actualPercent now points r states
  | recordCandidates series now horizonHours candidates =>
    obtain ⟨new, heq, hnew⟩ :=
      recordCandidates_eq isoformat series now horizonHours candidates w.nodes
    show (recordCandidates isoformat series now horizonHours candidates w.nodes).Scored
    rw [heq]
    exact h.append hnew
  | saveEvidence series observedAt prediction =>
    obtain ⟨new, heq, hnew⟩ := saveEvidence_eq series observedAt prediction w.nodes
    show (saveEvidence series observedAt prediction w.nodes).Scored
    rw [heq]
    exact h.append hnew
  | selectedWindow series available horizonHours =>
    show (selectedWindow series available horizonHours w.nodes).Scored
    rw [scored_iff_agrees] at h ⊢
    rw [selectedWindow_means]
    exact h
  | observeSample scope actual observedAt baselines => exact h

/-- What every step keeps. -/
theorem Kept.after {w : World} (h : Kept w) (a : Label) : Kept (w.after isoformat gapHours a) := by
  cases a with
  | observeSample scope actual observedAt baselines =>
    obtain ⟨new, heq, hnew, hkeyed⟩ :=
      observeSample_eq isoformat scope actual observedAt baselines w.volumes
    have hv := visits_volume scope actual observedAt
    obtain ⟨hruns, _⟩ := evaluateDue_grows w.volumes hv
    have hpass : (w.volumes.evaluateDue (visitVolume scope actual observedAt)).Scored :=
      evaluateDue_scored h.volumes fun r hr states =>
        adds_volume scope actual observedAt (h.algorithm r hr) states
    refine ⟨h.nodes, ?_, hkeyed h.keyed, ?_⟩
    · show (observeSample isoformat scope actual observedAt baselines w.volumes).Scored
      rw [heq]
      exact hpass.append fun r hr => (hnew r hr).1
    · intro r hr
      change r ∈ (observeSample isoformat scope actual observedAt baselines w.volumes).runs at hr
      rw [heq, hruns] at hr
      rcases List.mem_append.mp hr with hr | hr
      · obtain ⟨r', hr', rfl⟩ := List.mem_map.mp hr
        rw [hv.model]
        exact h.algorithm r' hr'
      · exact (hnew r hr).2
  | evaluateNode | recordCandidates | saveEvidence | selectedWindow =>
    exact ⟨nodes_scored isoformat gapHours h.nodes _, h.volumes, h.keyed, h.algorithm⟩

end Steps

/-! ## Scores of the target time -/

theorem seconds_nonneg {a b : Int} (h : b ≤ a) : 0 ≤ seconds a b := by
  unfold seconds
  apply div_nonneg _ (by norm_num)
  exact Int.cast_nonneg (by omega)

theorem nearest_mem (target : Int) (ps : List (Int × Rat)) (p : Int × Rat) :
    nearest p ps target ∈ p :: ps := by
  unfold nearest
  induction ps generalizing p with
  | nil => exact List.mem_cons_self
  | cons q ps ih =>
    rw [List.foldl_cons]
    have hmem := ih (if |q.1 - target| < |p.1 - target| then q else p)
    rcases List.mem_cons.mp hmem with heq | hrest
    · rw [heq]
      split
      · exact List.mem_cons_of_mem p List.mem_cons_self
      · exact List.mem_cons_self
    · exact List.mem_cons_of_mem p (List.mem_cons_of_mem q hrest)

theorem actualFor_onTime {gapHours : Rat} {actualPercent : Option Rat} {now : Int}
    {points : List (Int × Rat)} {target : Int} {actual : Rat} (hdue : target ≤ now)
    (h : actualFor gapHours actualPercent now points target = some actual) :
    ∃ o ∈ passPoints actualPercent now points, actual = o.2 ∧
      |seconds o.1 target| ≤ maxGap gapHours * 3600 := by
  cases points with
  | cons p ps =>
    rw [actualFor] at h
    split at h
    · rename_i hgap
      exact ⟨nearest p ps target, nearest_mem target ps p, (Option.some.inj h).symm, hgap⟩
    · exact nomatch h
  | nil =>
    cases actualPercent with
    | none => exact nomatch h
    | some a =>
      rw [actualFor] at h
      split at h
      · exact nomatch h
      · rename_i hage
        refine ⟨(now, a), List.mem_singleton_self _, (Option.some.inj h).symm, ?_⟩
        rw [abs_of_nonneg (seconds_nonneg hdue)]
        rwa [gt_iff_lt, not_lt, div_le_iff₀ (by norm_num)] at hage

theorem visitNode_run (gapHours : Rat) (series : NodeSeries) (actualPercent : Option Rat)
    (now : Int) (points : List (Int × Rat)) (r : ForecastRun NodeSeries)
    (states : States NodeSeries) :
    (visitNode gapHours series actualPercent now points r states).1 = r ∨
    (visitNode gapHours series actualPercent now points r states).1.status = .unmeasurable ∨
    ∃ actual, NodeDue series now r ∧
      actualFor gapHours actualPercent now points r.targetAt = some actual ∧
      (visitNode gapHours series actualPercent now points r states).1 =
        r.evaluate actual none now := by
  by_cases hdue : NodeDue series now r
  · rw [visitNode, if_pos hdue, outcome]
    cases hactual : actualFor gapHours actualPercent now points r.targetAt with
    | none =>
      by_cases hgap : seconds now r.targetAt > maxGap gapHours * 3600
      · refine .inr (.inl ?_)
        rw [if_pos hgap]
      · refine .inl ?_
        rw [if_neg hgap]
    | some actual => exact .inr (.inr ⟨actual, hdue, rfl, rfl⟩)
  · refine .inl ?_
    rw [visitNode, if_neg hdue]

theorem nodes_onTime (isoformat : Isoformat) (gapHours : Rat) (w : World) (a : Label) :
    OnTime gapHours (fun series => a.ofNode series) w.nodes
      (w.after isoformat gapHours a).nodes := by
  cases a with
  | evaluateNode series actualPercent now points =>
    intro r' hr' hstatus hnew
    have hv := visits_node gapHours series actualPercent now points
    change r' ∈ (w.nodes.evaluateDue _).runs at hr'
    rw [(evaluateDue_grows w.nodes hv).1] at hr'
    obtain ⟨r, hr, rfl⟩ := List.mem_map.mp hr'
    dsimp only at hstatus hnew ⊢
    rcases visitNode_run gapHours series actualPercent now points r w.nodes.states with
      hsame | hclosed | ⟨actual, hdue, hactual, hrun⟩
    · rw [hsame] at hnew
      exact (hnew hr).elim
    · rw [hclosed] at hstatus
      exact nomatch hstatus
    · rw [hrun]
      obtain ⟨o, ho, hvalue, hgap⟩ := actualFor_onTime hdue.2.2 hactual
      refine ⟨o, ?_, congrArg some hvalue, hgap⟩
      show o ∈ if series = r.model.series then passPoints actualPercent now points else []
      rw [if_pos hdue.2.1.symm]
      exact ho
  | recordCandidates series now horizonHours candidates =>
    intro r hr hstatus hold
    obtain ⟨new, heq, hnew⟩ :=
      recordCandidates_eq isoformat series now horizonHours candidates w.nodes
    change r ∈ (recordCandidates isoformat series now horizonHours candidates w.nodes).runs at hr
    rw [heq] at hr
    rcases List.mem_append.mp hr with hr | hr
    · exact (hold hr).elim
    · exact (hnew r hr hstatus).elim
  | saveEvidence series observedAt prediction =>
    intro r hr hstatus hold
    obtain ⟨new, heq, hnew⟩ := saveEvidence_eq series observedAt prediction w.nodes
    change r ∈ (saveEvidence series observedAt prediction w.nodes).runs at hr
    rw [heq] at hr
    rcases List.mem_append.mp hr with hr | hr
    · exact (hold hr).elim
    · exact (hnew r hr hstatus).elim
  | selectedWindow | observeSample => exact fun r hr _ hold => (hold hr).elim

theorem volumes_onTime_iff (isoformat : Isoformat) (gapHours : Rat) {w : World} (h : Kept w)
    (a : Label) :
    OnTime gapHours (fun series => a.ofVolume series) w.volumes
      (w.after isoformat gapHours a).volumes ↔ InTime gapHours w a := by
  cases a with
  | observeSample scope actual observedAt baselines =>
    have hv := visits_volume scope actual observedAt
    obtain ⟨new, heq, hadded, _⟩ :=
      observeSample_eq isoformat scope actual observedAt baselines w.volumes
    have hruns : (w.after isoformat gapHours
        (.observeSample scope actual observedAt baselines)).volumes.runs =
        w.volumes.runs.map
          (fun r => (visitVolume scope actual observedAt r w.volumes.states).1) ++ new := by
      show (observeSample isoformat scope actual observedAt baselines w.volumes).runs = _
      rw [heq, (evaluateDue_grows w.volumes hv).1]
    constructor
    · intro hon r hr hdue
      have hvisit : (visitVolume scope actual observedAt r w.volumes.states).1 =
          r.evaluate (actual r.model.series.metric)
            (some (percentageError r.predicted (actual r.model.series.metric)))
            observedAt := by
        rw [visitVolume, if_pos hdue]
      have hmem := List.mem_map_of_mem
        (f := fun r => (visitVolume scope actual observedAt r w.volumes.states).1) hr
      have hnot : (visitVolume scope actual observedAt r w.volumes.states).1 ∉
          w.volumes.runs := by
        intro hin
        have hsame := List.inj_on_of_nodup_map h.keyed hin hr (hv.key r _)
        rw [hvisit] at hsame
        have hstatus := congrArg ForecastRun.status hsame
        rw [hdue.1] at hstatus
        exact nomatch hstatus
      obtain ⟨o, ho, _, hgap⟩ := hon _ (hruns ▸ List.mem_append_left new hmem)
        (by rw [hvisit]; rfl) hnot
      dsimp only at ho hgap
      rw [hvisit] at ho hgap
      change o ∈ Label.ofVolume r.model.series _ at ho
      rw [Label.ofVolume, if_pos hdue.2.1.symm, List.mem_singleton] at ho
      rw [ho, show (r.evaluate _ _ _ : ForecastRun VolumeSeries).targetAt = r.targetAt from rfl,
        abs_of_nonneg (seconds_nonneg hdue.2.2)] at hgap
      exact hgap
    · intro hin r' hr' hstatus hold
      rw [hruns] at hr'
      rcases List.mem_append.mp hr' with hr' | hr'
      · obtain ⟨r, hr, rfl⟩ := List.mem_map.mp hr'
        by_cases hdue : VolumeDue scope observedAt r
        · have hgap := hin r hr hdue
          refine ⟨(observedAt, actual r.model.series.metric), ?_, ?_, ?_⟩
          · rw [hv.model]
            show _ ∈ if scope = r.model.series.scope then
              [(observedAt, actual r.model.series.metric)] else []
            rw [if_pos hdue.2.1.symm]
            exact List.mem_singleton_self _
          · rw [visitVolume, if_pos hdue]
            rfl
          · rw [visitVolume, if_pos hdue]
            show |seconds observedAt r.targetAt| ≤ _
            rwa [abs_of_nonneg (seconds_nonneg hdue.2.2)]
        · rw [visitVolume, if_neg hdue] at hold
          exact (hold hr).elim
      · exact ((hadded r' hr').1 hstatus).elim
  | evaluateNode | recordCandidates | saveEvidence | selectedWindow =>
    exact ⟨fun _ => True.intro, fun _ r hr _ hold => (hold hr).elim⟩

/-! ## Whole runs -/

/-- **Run lemma.**  Each run leaves `PENDING` at most once, and every state is that of its
evaluated runs. -/
theorem once_and_scored (isoformat : Isoformat) (gapHours : Rat) (as : List Label) :
    (∀ key, (learning isoformat gapHours).count
      (fun w w' => leavesPending key w.nodes w'.nodes) .empty as ≤ 1) ∧
    (∀ key, (learning isoformat gapHours).count
      (fun w w' => leavesPending key w.volumes w'.volumes) .empty as ≤ 1) ∧
    (learning isoformat gapHours).Always
      (fun _ _ w' => w'.nodes.Scored ∧ w'.volumes.Scored) .empty as := by
  refine ⟨?_, ?_, ?_⟩
  · intro key
    apply System.count_le_one _ (D := fun w => Closed key w.nodes)
    · intro w a w' _ hleaves
      exact closed_of_leaves hleaves
    · intro w a w' hclosed hstep
      rw [← Option.some.inj hstep]
      exact hclosed.grows (nodes_grow isoformat gapHours w a)
  · intro key
    apply System.count_le_one _ (D := fun w => Closed key w.volumes)
    · intro w a w' _ hleaves
      exact closed_of_leaves hleaves
    · intro w a w' hclosed hstep
      rw [← Option.some.inj hstep]
      exact hclosed.grows (volumes_grow isoformat gapHours w a)
  · apply System.always_of_invariant _ _ Kept _ as .empty kept_empty
    intro w a w' hkept hstep
    rw [← Option.some.inj hstep]
    have hafter := hkept.after isoformat gapHours a
    exact ⟨⟨hafter.nodes, hafter.volumes⟩, hafter⟩

/-- A forecast leaves `PENDING` at most once, its score is of the target time and the states
are those of the scored forecasts, exactly in the runs where each sample of a volume comes
within the tolerance of the forecasts that are due. -/
theorem lawful_iff (isoformat : Isoformat) (gapHours : Rat) (as : List Label) :
    Lawful isoformat gapHours .empty as ↔
      (learning isoformat gapHours).Meets (InTime gapHours) .empty as := by
  obtain ⟨w', hrun⟩ :=
    (learning isoformat gapHours).run_total (fun w a => ⟨_, rfl⟩) as .empty
  have hiff := (learning isoformat gapHours).always_iff_meets_of
    (fun w a w' =>
      OnTime gapHours (fun series => a.ofNode series) w.nodes w'.nodes ∧
      OnTime gapHours (fun series => a.ofVolume series) w.volumes w'.volumes)
    (InTime gapHours) Kept
    (by
      intro w a w' hkept hstep
      rw [← Option.some.inj hstep]
      have hnodes := nodes_onTime isoformat gapHours w a
      have hvolumes := volumes_onTime_iff isoformat gapHours hkept a
      constructor
      · constructor
        · intro h
          exact hvolumes.mp h.2
        · intro h
          exact ⟨hnodes, hvolumes.mpr h⟩
      · intro _
        exact hkept.after isoformat gapHours a)
    as .empty w' kept_empty hrun
  constructor
  · intro h
    exact hiff.mp h.onTime
  · intro h
    obtain ⟨hnode, hvolume, hscored⟩ := once_and_scored isoformat gapHours as
    exact ⟨hnode, hvolume, hiff.mpr h, hscored⟩

/-- A forecast for the first hour, and no other sample for three days. -/
def threeDays : List Label :=
  [.observeSample ⟨"c", "rbd", "vm"⟩ (fun _ => 100) 0 [⟨.iops, 1, 24, 100⟩],
   .observeSample ⟨"c", "rbd", "vm"⟩ (fun _ => 500) (72 * hour) []]

/-- The sample of the fourth day scores the forecast for the first hour. -/
theorem scored_late : ¬∀ as, Lawful toString 3 .empty as := by
  intro h
  have hon := (h threeDays).onTime.2.1.2
  have hin := (volumes_onTime_iff toString 3 (kept_empty.after toString 3 _) _).mp hon
  exact absurd hin (by decide +kernel)

end CephAi.Ports.OutcomeScores
