import Mathlib.Algebra.Order.Ring.Rat
import CephAi.Ports.Models

/-!
# Forecast alerts

`sync_forecast_alerts` of `watcher/node_resource_forecast.py` with the state machine of
`shared/predictive_alert_lifecycle.py`: a scan brings a forecast for the CPU and one for the
RAM of a host, or none, and each of the two has at most one alert row.  Percentages, ratios and
hours are rationals here, and a forecast is kept under its own `metric`.

## Main results

* `poorQuality_spec`, `lowConsensus_spec`, `inBand_spec`, `healthy_spec`, `risky_spec` — what a
  scan of each kind does to the state of the row and to its two counts.
-/

namespace CephAi.Ports.ForecastAlerts

/-! ## Forecasts -/

inductive Metric
  | cpu
  | ram
deriving DecidableEq, Repr

/-- `hours_to_90`; a float need not be finite. -/
inductive Hours
  | finite (hours : ℚ)
  | notFinite
deriving DecidableEq, Repr

inductive ConsensusStatus
  | legacy
  | consensus
  | lowConfidence
  | insufficientCandidates
  | shadowCandidate
deriving DecidableEq, Repr

inductive DriftStatus
  | stable
  | drift
  | insufficientData
deriving DecidableEq, Repr

/-- What the alerts read of a `ResourceForecast`. -/
structure ResourceForecast where
  currentPercent : ℚ
  predictedPercent : ℚ
  hoursTo90 : Option Hours
  confidence : ℚ
  samples : Nat
  windowHours : ℚ
  trainingWindowHours : Option Int := none
  coverageRatio : ℚ := 1
  maxGapHours : ℚ := 0
  consensusRatio : ℚ := 1
  consensusCandidateCount : Nat := 1
  consensusStatus : ConsensusStatus := .legacy
  predictedLow : Option ℚ := none
  predictedHigh : Option ℚ := none
  anomalyScore : ℚ := 0
  driftStatus : DriftStatus := .insufficientData
  driftScore : ℚ := 0
deriving DecidableEq, Repr

/-- The settings, without their `node_resource_forecast_`. -/
structure Settings where
  horizonHours : ℚ := 168
  minConfidence : ℚ := 1 / 2
  triggerThresholdPercent : ℚ := 90
  recoveryThresholdPercent : ℚ := 85
  breachConsecutiveScans : Int := 2
  recoveryConsecutiveScans : Int := 2
  minConsensusRatio : ℚ := 67 / 100
  minCoverage : ℚ := 6 / 10
  maxGapHours : ℚ := 6
  warningCooldownSeconds : Int := 86400
  criticalCooldownSeconds : Int := 3600
deriving Repr

variable (settings : Settings)

def crossesThreshold (value : ResourceForecast) : Bool :=
  (match value.hoursTo90 with
    | some (.finite hours) => decide (hours ≤ settings.horizonHours)
    | _ => false) ||
  value.predictedHigh.any fun high => decide (settings.triggerThresholdPercent ≤ high)

def riskyForecast (value : ResourceForecast) : Bool :=
  crossesThreshold settings value &&
  decide (settings.minConfidence ≤ value.confidence) &&
  decide (settings.minCoverage ≤ value.coverageRatio) &&
  decide (value.maxGapHours ≤ settings.maxGapHours) &&
  (value.consensusStatus != .lowConfidence &&
    value.consensusStatus != .insufficientCandidates) &&
  value.driftStatus != .drift &&
  (value.consensusStatus == .legacy ||
    decide (settings.minConsensusRatio ≤ value.consensusRatio)) &&
  value.hoursTo90 != some .notFinite

def aboveRecoveryThreshold (value : ResourceForecast) : Bool :=
  decide (settings.recoveryThresholdPercent ≤
    value.predictedHigh.getD value.predictedPercent)

/-- One of `anomaly_candidates`; `and` binds tighter than `or`. -/
def anomalyCandidate (value : ResourceForecast) : Bool :=
  value.driftStatus == .drift ||
  (value.consensusStatus == .lowConfidence ||
      value.consensusStatus == .insufficientCandidates) &&
    (value.hoursTo90.isSome ||
      (value.predictedHigh.any fun high =>
        decide (settings.triggerThresholdPercent ≤ high)) ||
      decide (3 ≤ value.anomalyScore))

/-- `quality_blocked` of a forecast that is there. -/
def poorQuality (value : ResourceForecast) : Bool :=
  decide (value.coverageRatio < settings.minCoverage) ||
  decide (settings.maxGapHours < value.maxGapHours) ||
  value.driftStatus == .drift

def isCritical (value : ResourceForecast) : Bool :=
  decide (95 ≤ value.predictedPercent) ||
  value.predictedHigh.any fun high => decide (95 ≤ high)

/-! ## The state machine -/

inductive AlertLifecycleState
  | normal
  | candidate
  | warning
  | critical
  | recovering
  | recovered
  | dataQuality
  | suppressed
deriving DecidableEq, Repr

inductive NotificationState
  | idle
  | sent
  | cooldown
  | failed
  | suppressed
deriving DecidableEq, Repr

/-- The keyword arguments of `next_lifecycle_state`. -/
structure Evidence where
  qualityOk : Bool
  candidate : Bool := false
  warning : Bool := false
  critical : Bool := false
  suppressed : Bool := false

def nextLifecycleState (previous : AlertLifecycleState) (e : Evidence) :
    AlertLifecycleState :=
  if e.suppressed then .suppressed
  else if !e.qualityOk then .dataQuality
  else if e.critical then .critical
  else if e.warning then .warning
  else if e.candidate then .candidate
  else match previous with
    | .warning => .recovering
    | .critical => .recovering
    | .recovering => .recovered
    | .recovered => .normal
    | _ => .normal

/-- The open states and the recovery from them. -/
def AlertLifecycleState.alarmed : AlertLifecycleState → Bool
  | .warning => true
  | .critical => true
  | .recovering => true
  | _ => false

/-! ## Alert rows -/

/-- The legacy `status` of an alert. -/
inductive Status
  | openAlert
  | dataQuality
  | candidate
  | recovering
  | resolved
deriving DecidableEq, Repr

/-- The columns that are copied from the forecast. -/
structure Copied where
  currentPercent : ℚ
  predictedPercent : ℚ
  hoursTo90 : Hours
  confidence : ℚ
  samples : Nat
  windowHours : Int
  consensusStatus : ConsensusStatus
  consensusRatio : ℚ
  consensusCandidateCount : Nat
  predictedLow : Option ℚ
  predictedHigh : Option ℚ
  anomalyScore : ℚ
deriving DecidableEq, Repr

/-- `int(training_window_hours or window_hours)`; `int` cuts towards zero. -/
def ResourceForecast.window (value : ResourceForecast) : Int :=
  match value.trainingWindowHours with
  | some hours => if hours = 0 then cut value.windowHours else hours
  | none => cut value.windowHours
where
  cut (q : ℚ) : Int := q.num.tdiv q.den

/-- The copied columns; a forecast that does not reach 90% has `hours` there. -/
def ResourceForecast.copied (value : ResourceForecast) (hours : ℚ) : Copied where
  currentPercent := value.currentPercent
  predictedPercent := value.predictedPercent
  hoursTo90 := value.hoursTo90.getD (.finite hours)
  confidence := value.confidence
  samples := value.samples
  windowHours := value.window
  consensusStatus := value.consensusStatus
  consensusRatio := value.consensusRatio
  consensusCandidateCount := value.consensusCandidateCount
  predictedLow := value.predictedLow
  predictedHigh := value.predictedHigh
  anomalyScore := value.anomalyScore

/-- Naive UTC, in seconds. -/
abbrev Time := Int

/-- A row of `node_resource_forecast_alerts`; a row that was not flushed has no
`lifecycle_state`. -/
structure NodeResourceForecastAlert where
  status : Status
  firstDetectedAt : Time
  lastDetectedAt : Time
  copied : Copied
  lifecycleState : Option AlertLifecycleState := none
  notificationState : NotificationState := .idle
  stateChangedAt : Option Time := none
  evidenceVersion : Option String := none
  evidenceFingerprint : Option String := none
  lastNotifiedAt : Option Time := none
  lastNotifiedEvidenceFingerprint : Option String := none
  resolvedAt : Option Time := none
  suppressedUntil : Option Time := none
  consecutiveBreachCount : Nat := 0
  consecutiveHealthyCount : Nat := 0
deriving DecidableEq, Repr

def legacyLifecycleState (alert : NodeResourceForecastAlert) : AlertLifecycleState :=
  let byStatus (otherwise : AlertLifecycleState) : AlertLifecycleState :=
    match alert.status with
    | .openAlert => .warning
    | .dataQuality => .dataQuality
    | .candidate => .candidate
    | _ => otherwise
  match alert.lifecycleState with
  | none => byStatus .normal
  | some state =>
    if state = .normal ∧ alert.status = .openAlert then byStatus state else state

/-- The status that `_set_lifecycle` keeps beside a state. -/
def legacyStatus : AlertLifecycleState → Status
  | .dataQuality => .dataQuality
  | .warning => .openAlert
  | .critical => .openAlert
  | .candidate => .candidate
  | .recovering => .recovering
  | _ => .resolved

def setLifecycle (alert : NodeResourceForecastAlert) (state : AlertLifecycleState)
    (now : Time) (evidenceVersion : String) : NodeResourceForecastAlert :=
  { alert with
    stateChangedAt :=
      if legacyLifecycleState alert ≠ state ∨ alert.stateChangedAt = none then some now
      else alert.stateChangedAt
    lifecycleState := some state
    evidenceVersion := some evidenceVersion
    status := legacyStatus state }

def transitionLifecycle (alert : NodeResourceForecastAlert) (now : Time) (e : Evidence)
    (evidenceVersion : String) : NodeResourceForecastAlert :=
  setLifecycle alert (nextLifecycleState (legacyLifecycleState alert) e) now evidenceVersion

/-! ## One metric of a scan -/

/-- The inspected hash of the evidence: `_evidence_fingerprint` for this cluster and host. -/
abbrev Fingerprint := Metric → ResourceForecast → String

variable (fingerprint : Fingerprint)

/-- A row with no history. -/
def newAlert (status : Status) (now : Time) (copied : Copied) : NodeResourceForecastAlert :=
  { status := status, firstDetectedAt := now, lastDetectedAt := now, copied := copied }

/-- In the maintenance window. -/
def syncSuppressed (now until_ : Time) (alert : NodeResourceForecastAlert) :
    NodeResourceForecastAlert :=
  { transitionLifecycle { alert with suppressedUntil := some until_ } now
      { qualityOk := true } "maintenance:v1" with
    lifecycleState := some .suppressed
    status := .resolved
    notificationState := .suppressed }

/-- The row that a scan of poor quality finds; only a drift makes one. -/
def qualityRow (now : Time) (candidate : Option ResourceForecast)
    (alert : Option NodeResourceForecastAlert) : Option NodeResourceForecastAlert :=
  match alert, candidate with
  | none, some value =>
    if value.driftStatus = .drift then some (newAlert .dataQuality now (value.copied 0))
    else none
  | alert, _ => alert

/-- The metric source does not pass the data-quality gate. -/
def syncPoorQuality (now : Time) (candidate : Option ResourceForecast)
    (alert : Option NodeResourceForecastAlert) : Option NodeResourceForecastAlert :=
  (qualityRow now candidate alert).map fun row =>
    { transitionLifecycle row now { qualityOk := false } "quality-gate:v1" with
      notificationState := .suppressed
      resolvedAt := none }

/-- Too little consensus for a warning. -/
def syncCandidate (now : Time) (metric : Metric) (anomaly : ResourceForecast)
    (alert : Option NodeResourceForecastAlert) : NodeResourceForecastAlert :=
  let row := match alert with
    | none => newAlert .candidate now (anomaly.copied 0)
    | some alert =>
      { alert with
        status := .candidate
        lastDetectedAt := now
        copied := anomaly.copied 0 }
  { transitionLifecycle { row with evidenceFingerprint := some (fingerprint metric anomaly) }
      now { qualityOk := true, candidate := true } "consensus:v1" with
    notificationState := .suppressed
    resolvedAt := none }

/-- Below the trigger, not yet below the recovery threshold: an open alert stays as it is. -/
def syncHeld (now : Time) (alert : NodeResourceForecastAlert) : NodeResourceForecastAlert :=
  { setLifecycle
      { alert with lastDetectedAt := now, consecutiveHealthyCount := 0, resolvedAt := none }
      (legacyLifecycleState alert) now "value-hysteresis:v1" with
    notificationState := .cooldown }

/-- `max(1, node_resource_forecast_recovery_consecutive_scans)` -/
def Settings.recoveryScans : Nat := (max 1 settings.recoveryConsecutiveScans).toNat

/-- `max(1, node_resource_forecast_breach_consecutive_scans)` -/
def Settings.breachScans : Nat := (max 1 settings.breachConsecutiveScans).toNat

/-- No evidence for an alert in this scan. -/
def syncHealthy (now : Time) (alert : NodeResourceForecastAlert) :
    NodeResourceForecastAlert :=
  let previousState := legacyLifecycleState alert
  let state := nextLifecycleState previousState { qualityOk := true }
  let healthyCount := alert.consecutiveHealthyCount + 1
  let row :=
    { transitionLifecycle
        { alert with consecutiveHealthyCount := healthyCount, consecutiveBreachCount := 0 }
        now { qualityOk := true } "reconcile:v1" with
      notificationState := .idle }
  if previousState.alarmed && decide (healthyCount < settings.recoveryScans) then
    { setLifecycle row .recovering now "recovery-hysteresis:v1" with resolvedAt := none }
  else if previousState.alarmed then
    { setLifecycle row .recovered now "recovery-hysteresis:v1" with resolvedAt := some now }
  else if state == .recovered || state == .normal then
    { row with resolvedAt := some now }
  else row

def alertCooldownSeconds (critical : Bool) : Int :=
  max 0 (if critical then settings.criticalCooldownSeconds else settings.warningCooldownSeconds)

/-- The row of a risky forecast, before its state is set. -/
def breached (now : Time) (metric : Metric) (prediction : ResourceForecast)
    (alert : Option NodeResourceForecastAlert) : NodeResourceForecastAlert :=
  let copied := prediction.copied settings.horizonHours
  let row := match alert with
    | none => newAlert .openAlert now copied
    | some alert =>
      if alert.status ≠ Status.openAlert then
        { alert with status := .openAlert, firstDetectedAt := now, resolvedAt := none }
      else alert
  { row with
    lastDetectedAt := now
    copied := copied
    evidenceFingerprint := some (fingerprint metric prediction)
    consecutiveBreachCount := row.consecutiveBreachCount + 1
    consecutiveHealthyCount := 0 }

/-- The state after a risky forecast: open once there were enough of them. -/
def openOrHold (now : Time) (prediction : ResourceForecast)
    (row : NodeResourceForecastAlert) : NodeResourceForecastAlert :=
  if settings.breachScans ≤ row.consecutiveBreachCount then
    transitionLifecycle row now
      { qualityOk := true, warning := true, critical := isCritical prediction }
      "forecast-consensus:v1"
  else
    transitionLifecycle row now { qualityOk := true, candidate := true } "breach-hysteresis:v1"

/-- The notification of an open alert.  With `sent`, the outbox delivers it after the
commit. -/
def notify (now : Time) (sent : Bool) (prediction : ResourceForecast)
    (row : NodeResourceForecastAlert) : NodeResourceForecastAlert :=
  let breachReady := decide (settings.breachScans ≤ row.consecutiveBreachCount)
  let duplicateEvidence :=
    decide (row.lastNotifiedEvidenceFingerprint = row.evidenceFingerprint)
  let due := match row.lastNotifiedAt with
    | none => true
    | some last => decide (alertCooldownSeconds settings (isCritical prediction) ≤ now - last)
  if due && breachReady && !duplicateEvidence then
    if sent then
      { row with
        notificationState := .sent
        lastNotifiedAt := some now
        lastNotifiedEvidenceFingerprint := row.evidenceFingerprint }
    else { row with notificationState := .failed }
  else if breachReady then
    { row with notificationState := if duplicateEvidence then .suppressed else .cooldown }
  else { row with notificationState := .suppressed }

def syncRisky (now : Time) (metric : Metric) (sent : Bool) (prediction : ResourceForecast)
    (alert : Option NodeResourceForecastAlert) : NodeResourceForecastAlert :=
  let row := openOrHold settings now prediction
    (breached settings fingerprint now metric prediction alert)
  notify settings now sent prediction { row with resolvedAt := none }

/-- What a scan finds of one metric: `prediction`, or the reason why there is none. -/
inductive Kind
  | poorQuality
  | lowConsensus
  | inBand
  | healthy
  | risky
deriving DecidableEq, Repr

def ResourceForecast.kind (value : ResourceForecast) : Kind :=
  if poorQuality settings value then .poorQuality
  else if riskyForecast settings value then .risky
  else if anomalyCandidate settings value then .lowConsensus
  else if aboveRecoveryThreshold settings value then .inBand
  else .healthy

/-- The kind of what `values.get(metric)` gives. -/
def kindOf : Option ResourceForecast → Kind
  | none => .poorQuality
  | some value => value.kind settings

/-- The body of the loop over the metrics. -/
def syncMetric (now : Time) (suppressedUntil : Option Time) (metric : Metric) (sent : Bool)
    (candidate : Option ResourceForecast) (alert : Option NodeResourceForecastAlert) :
    Option NodeResourceForecastAlert :=
  match suppressedUntil.filter fun until_ => decide (now < until_) with
  | some until_ => alert.map (syncSuppressed now until_)
  | none =>
    match candidate with
    | none => syncPoorQuality now none alert
    | some value =>
      if poorQuality settings value then syncPoorQuality now (some value) alert
      else if riskyForecast settings value then
        some (syncRisky settings fingerprint now metric sent value alert)
      else if anomalyCandidate settings value then
        some (syncCandidate fingerprint now metric value alert)
      else alert.map fun row =>
        if (legacyLifecycleState row).alarmed && aboveRecoveryThreshold settings value then
          syncHeld now row
        else syncHealthy settings now row

/-- A scan: the time, the forecasts, and which due notification is delivered. -/
structure Scan where
  now : Time
  values : Metric → Option ResourceForecast
  sent : Metric → Bool

/-- The rows of one host. -/
abbrev Alerts := Metric → Option NodeResourceForecastAlert

/-- `sync_forecast_alerts`: each turn of the loop reads and writes the row of its metric. -/
def syncForecastAlerts (suppressedUntil : Option Time) (scan : Scan) (alerts : Alerts) :
    Alerts :=
  fun metric => syncMetric settings fingerprint scan.now suppressedUntil metric
    (scan.sent metric) (scan.values metric) (alerts metric)

/-! ## What a scan does -/

/-- The state of a metric; one without a row is normal. -/
def stateOf (alert : Option NodeResourceForecastAlert) : AlertLifecycleState :=
  (alert.map legacyLifecycleState).getD .normal

def breachOf (alert : Option NodeResourceForecastAlert) : Nat :=
  (alert.map NodeResourceForecastAlert.consecutiveBreachCount).getD 0

def healthyOf (alert : Option NodeResourceForecastAlert) : Nat :=
  (alert.map NodeResourceForecastAlert.consecutiveHealthyCount).getD 0

@[simp] theorem legacy_setLifecycle (alert : NodeResourceForecastAlert)
    (state : AlertLifecycleState) (now : Time) (version : String) :
    legacyLifecycleState (setLifecycle alert state now version) = state := by
  cases state <;> rfl

@[simp] theorem legacy_transitionLifecycle (alert : NodeResourceForecastAlert) (now : Time)
    (e : Evidence) (version : String) :
    legacyLifecycleState (transitionLifecycle alert now e version) =
      nextLifecycleState (legacyLifecycleState alert) e :=
  legacy_setLifecycle _ _ _ _

theorem next_quiet {previous : AlertLifecycleState} (h : previous.alarmed = false) :
    nextLifecycleState previous { qualityOk := true } = .normal := by
  cases previous <;> first | rfl | cases h

section Scan

variable {settings} {fingerprint} {now : Time} {metric : Metric} {sent : Bool}
  {candidate : Option ResourceForecast} {alert : Option NodeResourceForecastAlert}

theorem syncMetric_some (value : ResourceForecast) :
    syncMetric settings fingerprint now none metric sent (some value) alert =
      match value.kind settings with
      | .poorQuality => syncPoorQuality now (some value) alert
      | .risky => some (syncRisky settings fingerprint now metric sent value alert)
      | .lowConsensus => some (syncCandidate fingerprint now metric value alert)
      | .inBand => alert.map fun row =>
        if (legacyLifecycleState row).alarmed then syncHeld now row
        else syncHealthy settings now row
      | .healthy => alert.map (syncHealthy settings now) := by
  unfold syncMetric ResourceForecast.kind
  simp only [Option.filter_none]
  by_cases hpoor : poorQuality settings value = true
  · simp only [if_pos hpoor]
  by_cases hrisky : riskyForecast settings value = true
  · simp only [if_neg hpoor, if_pos hrisky]
  by_cases hlow : anomalyCandidate settings value = true
  · simp only [if_neg hpoor, if_neg hrisky, if_pos hlow]
  cases habove : aboveRecoveryThreshold settings value with
  | true => simp only [if_neg hpoor, if_neg hrisky, if_neg hlow, if_true, Bool.and_true]
  | false =>
    simp only [if_neg hpoor, if_neg hrisky, if_neg hlow, Bool.and_false, Bool.false_eq_true,
      if_false]

theorem qualityRow_spec :
    let row := qualityRow now candidate alert
    breachOf row = breachOf alert ∧ healthyOf row = healthyOf alert ∧
      (row = none → alert = none) := by
  cases alert with
  | some row => exact ⟨rfl, rfl, id⟩
  | none =>
    unfold qualityRow
    cases candidate with
    | none => exact ⟨rfl, rfl, id⟩
    | some value =>
      dsimp only
      split_ifs
      · exact ⟨rfl, rfl, fun _ => rfl⟩
      · exact ⟨rfl, rfl, id⟩

theorem syncPoorQuality_spec :
    let after := syncPoorQuality now candidate alert
    breachOf after = breachOf alert ∧ healthyOf after = healthyOf alert ∧
      (stateOf after = .dataQuality ∨ after = none ∧ alert = none) := by
  obtain ⟨hbreach, hhealthy, hnone⟩ :=
    @qualityRow_spec now candidate alert
  unfold syncPoorQuality
  cases hrow : qualityRow now candidate alert with
  | none =>
    rw [hrow] at hbreach hhealthy hnone
    exact ⟨hbreach, hhealthy, .inr ⟨rfl, hnone rfl⟩⟩
  | some row =>
    rw [hrow] at hbreach hhealthy
    exact ⟨hbreach, hhealthy, .inl rfl⟩

/-- **Poor quality** leaves the counts and holds the row back. -/
theorem poorQuality_spec (h : kindOf settings candidate = .poorQuality) :
    let after := syncMetric settings fingerprint now none metric sent candidate alert
    breachOf after = breachOf alert ∧ healthyOf after = healthyOf alert ∧
      (stateOf after = .dataQuality ∨ after = none ∧ alert = none) := by
  cases candidate with
  | none => exact syncPoorQuality_spec
  | some value =>
    rw [syncMetric_some, show value.kind settings = .poorQuality from h]
    exact syncPoorQuality_spec

/-- **A candidate** leaves the counts, too. -/
theorem lowConsensus_spec (h : kindOf settings candidate = .lowConsensus) :
    let after := syncMetric settings fingerprint now none metric sent candidate alert
    breachOf after = breachOf alert ∧ healthyOf after = healthyOf alert ∧
      stateOf after = .candidate := by
  cases candidate with
  | none => cases h
  | some value =>
    rw [syncMetric_some, show value.kind settings = .lowConsensus from h]
    cases alert <;> exact ⟨rfl, rfl, rfl⟩

theorem syncHealthy_calm (settings : Settings) (now : Time) {row : NodeResourceForecastAlert}
    (h : (legacyLifecycleState row).alarmed = false) :
    let after := syncHealthy settings now row
    legacyLifecycleState after = .normal ∧ after.consecutiveBreachCount = 0 ∧
      after.consecutiveHealthyCount = row.consecutiveHealthyCount + 1 := by
  intro after
  have hafter : after = syncHealthy settings now row := rfl
  unfold syncHealthy at hafter
  simp only [h, Bool.false_and, Bool.false_eq_true, if_false, next_quiet h, beq_self_eq_true,
    Bool.or_true, if_true] at hafter
  rw [hafter]
  refine ⟨?_, rfl, rfl⟩
  show legacyLifecycleState (transitionLifecycle
    { row with
      consecutiveHealthyCount := row.consecutiveHealthyCount + 1
      consecutiveBreachCount := 0 } now { qualityOk := true } "reconcile:v1") = _
  rw [legacy_transitionLifecycle]
  exact next_quiet h

theorem syncHealthy_alarmed (settings : Settings) (now : Time) {row : NodeResourceForecastAlert}
    (h : (legacyLifecycleState row).alarmed = true) :
    let after := syncHealthy settings now row
    legacyLifecycleState after =
        (if row.consecutiveHealthyCount + 1 < settings.recoveryScans then .recovering
          else .recovered) ∧
      after.consecutiveBreachCount = 0 ∧
      after.consecutiveHealthyCount = row.consecutiveHealthyCount + 1 := by
  intro after
  have hafter : after = syncHealthy settings now row := rfl
  unfold syncHealthy at hafter
  simp only [h, Bool.true_and, if_true, decide_eq_true_eq] at hafter
  split_ifs at hafter with hfew
  · rw [hafter, if_pos hfew]
    exact ⟨rfl, rfl, rfl⟩
  · rw [hafter, if_neg hfew]
    exact ⟨rfl, rfl, rfl⟩

/-- **Between the thresholds** an open alert stays and its healthy count starts again;
another row is taken for healthy. -/
theorem inBand_spec (h : kindOf settings candidate = .inBand) :
    let after := syncMetric settings fingerprint now none metric sent candidate alert
    (after = none ∧ alert = none) ∨
      (stateOf alert).alarmed = true ∧ stateOf after = stateOf alert ∧
        breachOf after = breachOf alert ∧ healthyOf after = 0 ∨
      (stateOf alert).alarmed = false ∧ stateOf after = .normal ∧ breachOf after = 0 := by
  cases candidate with
  | none => cases h
  | some value =>
    rw [syncMetric_some, show value.kind settings = .inBand from h]
    cases alert with
    | none => exact .inl ⟨rfl, rfl⟩
    | some row =>
      right
      cases halarmed : (legacyLifecycleState row).alarmed with
      | true =>
        left
        refine ⟨halarmed, ?_⟩
        simp only [Option.map_some, halarmed, if_true]
        exact ⟨legacy_setLifecycle row _ now "", rfl, rfl⟩
      | false =>
        right
        obtain ⟨hstate, hbreach, -⟩ :=
          syncHealthy_calm settings now halarmed
        refine ⟨halarmed, ?_⟩
        simp only [Option.map_some, halarmed, Bool.false_eq_true, if_false]
        exact ⟨hstate, hbreach⟩

/-- **A healthy scan** counts, and it recovers an open alert once there were enough; another
row is normal at once. -/
theorem healthy_spec (h : kindOf settings candidate = .healthy) :
    let after := syncMetric settings fingerprint now none metric sent candidate alert
    (after = none ∧ alert = none) ∨
      breachOf after = 0 ∧ healthyOf after = healthyOf alert + 1 ∧
        stateOf after =
          if (stateOf alert).alarmed then
            if healthyOf alert + 1 < settings.recoveryScans then .recovering else .recovered
          else .normal := by
  cases candidate with
  | none => cases h
  | some value =>
    rw [syncMetric_some, show value.kind settings = .healthy from h]
    cases alert with
    | none => exact .inl ⟨rfl, rfl⟩
    | some row =>
      right
      cases halarmed : (legacyLifecycleState row).alarmed with
      | true =>
        obtain ⟨hstate, hbreach, hhealthy⟩ :=
          syncHealthy_alarmed settings now halarmed
        refine ⟨hbreach, hhealthy, ?_⟩
        rw [show stateOf (some row) = legacyLifecycleState row from rfl, halarmed,
          if_pos rfl]
        exact hstate
      | false =>
        obtain ⟨hstate, hbreach, hhealthy⟩ :=
          syncHealthy_calm settings now halarmed
        refine ⟨hbreach, hhealthy, ?_⟩
        rw [show stateOf (some row) = legacyLifecycleState row from rfl, halarmed]
        exact hstate

/-- The open state that a forecast calls for. -/
def ResourceForecast.severity (value : ResourceForecast) : AlertLifecycleState :=
  if isCritical value then .critical else .warning

section

variable (settings : Settings)

theorem breached_counts (fingerprint : Fingerprint) (now : Time)
    (metric : Metric) (value : ResourceForecast) (alert : Option NodeResourceForecastAlert) :
    let row := breached settings fingerprint now metric value alert
    row.consecutiveBreachCount = breachOf alert + 1 ∧ row.consecutiveHealthyCount = 0 := by
  cases alert with
  | none => exact ⟨rfl, rfl⟩
  | some row =>
    refine ⟨?_, rfl⟩
    unfold breached
    dsimp only
    split_ifs <;> rfl

theorem openOrHold_spec (now : Time) (value : ResourceForecast) (row : NodeResourceForecastAlert) :
    let after := openOrHold settings now value row
    after.consecutiveBreachCount = row.consecutiveBreachCount ∧
      after.consecutiveHealthyCount = row.consecutiveHealthyCount ∧
      legacyLifecycleState after =
        if settings.breachScans ≤ row.consecutiveBreachCount then value.severity
        else .candidate := by
  unfold openOrHold ResourceForecast.severity
  by_cases hready : settings.breachScans ≤ row.consecutiveBreachCount
  · simp only [if_pos hready]
    refine ⟨rfl, rfl, ?_⟩
    rw [legacy_transitionLifecycle]
    cases isCritical value <;> rfl
  · simp only [if_neg hready]
    exact ⟨rfl, rfl, legacy_transitionLifecycle _ _ _ _⟩

theorem notify_spec (now : Time) (sent : Bool)
    (value : ResourceForecast) (row : NodeResourceForecastAlert) :
    let after := notify settings now sent value row
    after.consecutiveBreachCount = row.consecutiveBreachCount ∧
      after.consecutiveHealthyCount = row.consecutiveHealthyCount ∧
      legacyLifecycleState after = legacyLifecycleState row := by
  unfold notify
  dsimp only
  split_ifs <;> exact ⟨rfl, rfl, rfl⟩

end

/-- **A risky scan** counts, and opens the alert once there were enough. -/
theorem risky_spec {value : ResourceForecast} (h : kindOf settings (some value) = .risky) :
    let after := syncMetric settings fingerprint now none metric sent (some value) alert
    breachOf after = breachOf alert + 1 ∧ healthyOf after = 0 ∧
      stateOf after =
        if settings.breachScans ≤ breachOf alert + 1 then value.severity else .candidate := by
  obtain ⟨hbreach, hhealthy⟩ :=
    breached_counts settings fingerprint now metric value alert
  obtain ⟨hb, hh, hstate⟩ := openOrHold_spec settings now value
    (breached settings fingerprint now metric value alert)
  obtain ⟨hnb, hnh, hnstate⟩ := notify_spec settings now sent value
    { openOrHold settings now value
        (breached settings fingerprint now metric value alert) with resolvedAt := none }
  rw [syncMetric_some, show value.kind settings = .risky from h]
  refine ⟨hnb.trans (hb.trans hbreach), hnh.trans (hh.trans hhealthy), ?_⟩
  rw [← hbreach]
  exact hnstate.trans hstate

end Scan

end CephAi.Ports.ForecastAlerts
