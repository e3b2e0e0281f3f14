import CephAi.Verified.Ranking
import CephAi.Ports.Models

/-!
# The change-risk gate

`assess` of `shared/change_risk.py`: the risk of an Action, from the remediation cases of its
`action_id`.  The query takes the newest hundred of the whole system; only then the cases of
the Action's scope are picked.

## Main results

* `level_high_iff`, `fingerprint_eq_iff` — the result, by the cases that are seen.
* `scoped_iff` — when two populations with the same cases in scope are assessed alike, and a
  regression among them is noticed.
* `recheck_passes_iff` — when an approved Action passes the Worker's gate.
* `regression_unseen` — a hundred cases of another cluster.
-/

namespace CephAi.Ports.ChangeRisk

open Verified Verified.Ranking
open Models

/-! ## Cases -/

/-- `RemediationCase.outcome` -/
inductive Outcome
  | proposed
  | executing
  | executedPendingVerify
  | executedUnverified
  | legacyResolvedUnverified
  | rejected
  | verifiedSuccess
  | verifiedFailed
  | executionFailed
  | inconclusive
deriving DecidableEq, Repr

def failureOutcomes : List Outcome := [.verifiedFailed, .executionFailed, .inconclusive]

def successOutcomes : List Outcome := [.verifiedSuccess]

/-- `sorted(SUCCESS_OUTCOMES | FAILURE_OUTCOMES)` -/
def terminalOutcomes : List Outcome :=
  [.executionFailed, .inconclusive, .verifiedFailed, .verifiedSuccess]

/-- A row of `remediation_cases`; `action` is its `action_id`. -/
structure RemediationCase where
  id : Nat
  action : Nat
  clusterId : Option String
  faultFamily : String
  cephVersion : Option String
  deploymentMode : Option String
  outcome : Outcome
  regressed1h : Option Bool
  regressed24h : Option Bool
  regressed7d : Option Bool
  verifiedAt : Option Int
  createdAt : Int
deriving DecidableEq, Repr

/-- A case that regressed in one of the three windows. -/
def RemediationCase.regressed (c : RemediationCase) : Bool :=
  [c.regressed1h, c.regressed24h, c.regressed7d].any fun value => value == some true

def RemediationCase.failed (c : RemediationCase) : Bool := failureOutcomes.contains c.outcome

def RemediationCase.succeeded (c : RemediationCase) : Bool := successOutcomes.contains c.outcome

/-- The tables that `assess` reads; an Action has one case. -/
structure CaseMemory where
  incidents : List Incident
  actions : List Action
  cases : List RemediationCase
  ids : (cases.map RemediationCase.id).Nodup
  unique : (cases.map RemediationCase.action).Nodup

/-! ## The query -/

/-- `ORDER BY verified_at DESC, created_at DESC`: rows without a time come first. -/
def newer (c d : RemediationCase) : Prop :=
  match c.verifiedAt, d.verifiedAt with
  | none, none => d.createdAt ≤ c.createdAt
  | none, some _ => True
  | some _, none => False
  | some s, some t => t < s ∨ (t = s ∧ d.createdAt ≤ c.createdAt)

instance : DecidableRel newer := fun c d => by
  unfold newer
  cases c.verifiedAt <;> cases d.verifiedAt <;> infer_instance

instance : IsTrans RemediationCase newer where
  trans := by
    intro c d e hcd hde
    unfold newer at *
    cases hc : c.verifiedAt <;> cases hd : d.verifiedAt <;> cases he : e.verifiedAt <;>
      simp_all <;> omega

instance : Std.Total newer where
  total := by
    intro c d
    unfold newer
    cases c.verifiedAt <;> cases d.verifiedAt <;> simp <;> omega

/-- A terminal case of another Action with this `action_id`. -/
def candidate (m : CaseMemory) (a : Action) (c : RemediationCase) : Bool :=
  terminalOutcomes.contains c.outcome && c.action != a.id &&
    (Table.get m.actions c.action).any fun other => other.actionId == a.actionId

/-- `query`, without its limit; rows that tie come in the order of the table. -/
def ordered (m : CaseMemory) (a : Action) : List RemediationCase :=
  (m.cases.filter (candidate m a)).insertionSort newer

def allCases (m : CaseMemory) (a : Action) : List RemediationCase := (ordered m a).take 100

/-! ## The scope -/

/-- What a case is compared with. -/
structure Scope where
  clusterId : Option String
  faultFamily : Option String
  cephVersion : Option String
  deploymentMode : Option String
deriving DecidableEq, Repr

/-- The scope of an Action: from its own case, or from its Incident. -/
def scopeOf (m : CaseMemory) (a : Action) (incident : Option Incident) : Scope :=
  let incident := incident.or (Table.get m.incidents a.incidentId)
  let current := m.cases.find? fun c => c.action == a.id
  { clusterId := incident.bind Incident.clusterId
    faultFamily :=
      match current with
      | some c => some c.faultFamily
      | none => incident.map Incident.cephCode
    cephVersion := current.bind RemediationCase.cephVersion
    deploymentMode := current.bind RemediationCase.deploymentMode }

/-- The case is of this scope. -/
def Scope.covers (s : Scope) (c : RemediationCase) : Bool :=
  c.clusterId == s.clusterId &&
    (s.faultFamily.isNone || some c.faultFamily == s.faultFamily) &&
    (s.cephVersion.isNone || c.cephVersion.isNone || c.cephVersion == s.cephVersion) &&
    (s.deploymentMode.isNone || c.deploymentMode.isNone || c.deploymentMode == s.deploymentMode)

/-! ## The assessment -/

/-- `RiskResult.level` -/
inductive Level
  | high
  | medium
  | low
  | insufficientEvidence
deriving DecidableEq, Repr

def Level.text : Level → String
  | .high => "HIGH"
  | .medium => "MEDIUM"
  | .low => "LOW"
  | .insufficientEvidence => "INSUFFICIENT_EVIDENCE"

structure Evidence where
  actionId : String
  scope : Scope
  globalCaseCount : Nat
  globalRegressionCount : Nat
  caseIds : List Nat
  outcomes : List (Outcome × Nat)
  regressionCaseIds : List Nat
deriving DecidableEq, Repr

/-- What `fingerprint` is the hash of. -/
structure Fingerprint where
  level : Level
  actionId : String
  scope : Scope
  caseIds : List Nat
  outcomes : List (Outcome × Nat)
  regressionCaseIds : List Nat
deriving DecidableEq, Repr

structure RiskResult where
  level : Level
  summary : String
  sampleCount : Nat
  successCount : Nat
  failureCount : Nat
  regressionCount : Nat
  evidence : Evidence
  fingerprint : Fingerprint
deriving DecidableEq, Repr

def RiskResult.blocksAutopilot (r : RiskResult) : Bool := r.level == .high

/-- The level and the reason, for these numbers of cases. -/
def verdict (cases failures successes regressions : Nat) : Level × String :=
  if regressions ≠ 0 then (.high, s!"đã có {regressions} case verified bị regression")
  else if 2 ≤ failures ∧ successes ≤ failures then
    (.high, s!"{failures}/{cases} case kết thúc thất bại hoặc inconclusive")
  else if failures ≠ 0 then
    (.medium, s!"đã có {failures} case thất bại, chưa đủ bằng chứng để tự động chặn")
  else if 3 ≤ successes then
    (.low, s!"{successes} case verified thành công và chưa thấy regression")
  else (.insufficientEvidence, s!"chỉ có {cases} case terminal cùng action/cluster")

/-- What is made of `cases`, with what is known of the whole system. -/
def assessCases (actionId : String) (scope : Scope) (globalCases globalRegressions : Nat)
    (cases : List RemediationCase) : RiskResult :=
  let failures := (cases.filter RemediationCase.failed).length
  let successes := (cases.filter RemediationCase.succeeded).length
  let regressions := cases.filter RemediationCase.regressed
  let found := verdict cases.length failures successes regressions.length
  let outcomes := terminalOutcomes.map fun o => (o, (cases.filter fun c => c.outcome = o).length)
  let caseIds := cases.map RemediationCase.id
  let regressionIds := regressions.map RemediationCase.id
  { level := found.1
    summary := "Rủi ro thay đổi " ++ found.1.text ++ ": " ++ found.2 ++ ". Evidence: " ++
      toString cases.length ++ " RemediationCase cùng action " ++
      "đúng cluster/fault/version/deployment; toàn hệ thống có " ++ toString globalCases ++
      " case cùng action."
    sampleCount := cases.length
    successCount := successes
    failureCount := failures
    regressionCount := regressions.length
    evidence :=
      { actionId := actionId
        scope := scope
        globalCaseCount := globalCases
        globalRegressionCount := globalRegressions
        caseIds := caseIds
        outcomes := outcomes
        regressionCaseIds := regressionIds }
    fingerprint :=
      { level := found.1
        actionId := actionId
        scope := scope
        caseIds := caseIds
        outcomes := outcomes
        regressionCaseIds := regressionIds } }

def assess (m : CaseMemory) (a : Action) (incident : Option Incident) : RiskResult :=
  let all := allCases m a
  let scope := scopeOf m a incident
  assessCases a.actionId scope all.length (all.filter RemediationCase.regressed).length
    (all.filter scope.covers)

/-! ## The record -/

/-- A row of `change_risk_assessments`, without its id and time. -/
structure AssessmentRow where
  clusterId : Option String
  riskLevel : Level
  sampleCount : Nat
  successCount : Nat
  failureCount : Nat
  regressionCount : Nat
  summary : String
  evidence : Evidence
  assessmentHash : Fingerprint
  acknowledgedHash : Option Fingerprint
deriving DecidableEq, Repr

def assessAndRecord (m : CaseMemory) (a : Action) (incident : Option Incident)
    (row : Option AssessmentRow) : RiskResult × AssessmentRow :=
  let result := assess m a incident
  (result,
    { clusterId := result.evidence.scope.clusterId
      riskLevel := result.level
      sampleCount := result.sampleCount
      successCount := result.successCount
      failureCount := result.failureCount
      regressionCount := result.regressionCount
      summary := result.summary
      evidence := result.evidence
      assessmentHash := result.fingerprint
      acknowledgedHash := row.bind AssessmentRow.acknowledgedHash })

def acknowledge (m : CaseMemory) (a : Action) (incident : Option Incident)
    (row : Option AssessmentRow) : AssessmentRow :=
  let recorded := assessAndRecord m a incident row
  { recorded.2 with acknowledgedHash := some recorded.1.fingerprint }

/-- The Worker's gate before an approved Action runs: whether it passes, and the row it leaves. -/
def recheck (m : CaseMemory) (a : Action) (row : Option AssessmentRow) : Bool × AssessmentRow :=
  let recorded := (assessAndRecord m a none row).2
  let acknowledged := if row.isNone then some recorded.assessmentHash else recorded.acknowledgedHash
  (acknowledged == some recorded.assessmentHash, { recorded with acknowledgedHash := acknowledged })

/-- What is done with an Action's row, each time with the cases there are then. -/
inductive Use
  | assessed (m : CaseMemory) (incident : Option Incident)
  | acknowledged (m : CaseMemory) (incident : Option Incident)
  | rechecked (m : CaseMemory)

def Use.apply (a : Action) (row : Option AssessmentRow) : Use → Option AssessmentRow
  | .assessed m incident => some (assessAndRecord m a incident row).2
  | .acknowledged m incident => some (acknowledge m a incident row)
  | .rechecked m => some (recheck m a row).2

/-! ## What is seen -/

/-- The cases of an Action's scope, in the order of the table. -/
def inScope (m : CaseMemory) (a : Action) (incident : Option Incident) : List RemediationCase :=
  m.cases.filter fun c => candidate m a c && (scopeOf m a incident).covers c

/-- Fewer than a hundred cases of the whole system come before this one. -/
def Reached (m : CaseMemory) (a : Action) (c : RemediationCase) : Prop :=
  (ordered m a).idxOf c < 100

instance (m : CaseMemory) (a : Action) : DecidablePred (Reached m a) :=
  fun c => inferInstanceAs (Decidable ((ordered m a).idxOf c < 100))

def seen (m : CaseMemory) (a : Action) (incident : Option Incident) : List RemediationCase :=
  picked 100 (scopeOf m a incident).covers (ordered m a)

theorem filter_ordered (m : CaseMemory) (a : Action) (incident : Option Incident) :
    (ordered m a).filter (scopeOf m a incident).covers =
      (inScope m a incident).insertionSort newer := by
  unfold ordered inScope
  rw [filter_insertionSort, List.filter_filter]
  congr 2
  funext c
  exact Bool.and_comm _ _

variable {a : Action} {incident : Option Incident} {m m' : CaseMemory}

theorem mem_filter_ordered {c : RemediationCase} :
    c ∈ (ordered m a).filter (scopeOf m a incident).covers ↔ c ∈ inScope m a incident := by
  rw [filter_ordered, (List.perm_insertionSort newer _).mem_iff]

theorem nodup_inScope (m : CaseMemory) (a : Action) (incident : Option Incident) :
    (inScope m a incident).Nodup := m.ids.of_map.filter _

theorem nodup_filter_ordered (m : CaseMemory) (a : Action) (incident : Option Incident) :
    ((ordered m a).filter (scopeOf m a incident).covers).Nodup := by
  rw [filter_ordered, (List.perm_insertionSort newer _).nodup_iff]
  exact nodup_inScope m a incident

theorem mem_seen {c : RemediationCase} :
    c ∈ seen m a incident ↔ c ∈ inScope m a incident ∧ Reached m a c := by
  rw [← mem_filter_ordered, List.mem_filter]
  unfold seen
  rw [mem_picked]
  constructor
  · rintro ⟨htake, hcovers⟩
    have hmem := List.mem_of_mem_take htake
    exact ⟨⟨hmem, hcovers⟩, (List.mem_take_iff_idxOf_lt hmem).mp htake⟩
  · rintro ⟨⟨hmem, hcovers⟩, hreached⟩
    exact ⟨(List.mem_take_iff_idxOf_lt hmem).mpr hreached, hcovers⟩

theorem seen_perm (m : CaseMemory) (a : Action) (incident : Option Incident) :
    (seen m a incident).Perm ((inScope m a incident).filter fun c => Reached m a c) := by
  apply (List.perm_ext_iff_of_nodup _ _).mpr
  · intro c
    rw [mem_seen, List.mem_filter, decide_eq_true_eq]
  · exact (nodup_filter_ordered m a incident).sublist (picked_start _ _ _).sublist
  · exact (nodup_inScope m a incident).filter _

/-! ## The result -/

theorem assess_level (m : CaseMemory) (a : Action) (incident : Option Incident) :
    (assess m a incident).level =
      (verdict (seen m a incident).length
        ((seen m a incident).filter RemediationCase.failed).length
        ((seen m a incident).filter RemediationCase.succeeded).length
        ((seen m a incident).filter RemediationCase.regressed).length).1 := rfl

theorem verdict_high_iff (cases failures successes regressions : Nat) :
    (verdict cases failures successes regressions).1 = .high ↔
      regressions ≠ 0 ∨ (2 ≤ failures ∧ successes ≤ failures) := by
  unfold verdict
  split_ifs with hregressed hfailed <;> simp_all

/-- Two or more failures, and no fewer than the successes. -/
def ManyFailures (cases : List RemediationCase) : Prop :=
  2 ≤ (cases.filter RemediationCase.failed).length ∧
    (cases.filter RemediationCase.succeeded).length ≤
      (cases.filter RemediationCase.failed).length

instance (cases : List RemediationCase) : Decidable (ManyFailures cases) :=
  inferInstanceAs (Decidable (_ ∧ _))

/-- **When the level is high**: a case that is reached regressed, or many of them failed. -/
theorem level_high_iff (m : CaseMemory) (a : Action) (incident : Option Incident) :
    (assess m a incident).level = .high ↔
      (∃ c ∈ inScope m a incident, Reached m a c ∧ c.regressed = true) ∨
        ManyFailures ((inScope m a incident).filter fun c => Reached m a c) := by
  have hperm := seen_perm m a incident
  rw [assess_level, verdict_high_iff, (hperm.filter _).length_eq, (hperm.filter _).length_eq,
    (hperm.filter _).length_eq]
  apply or_congr _ Iff.rfl
  rw [Ne, List.length_eq_zero_iff, List.filter_eq_nil_iff]
  simp only [List.mem_filter, decide_eq_true_eq, not_forall, not_not, exists_prop, and_assoc]

/-- The populations give an Action the same scope, and have the same cases in it. -/
structure SameScope (m m' : CaseMemory) (a : Action) (incident : Option Incident) : Prop where
  scope : scopeOf m a incident = scopeOf m' a incident
  cases : inScope m a incident = inScope m' a incident

theorem SameScope.filter_ordered (h : SameScope m m' a incident) :
    (ordered m a).filter (scopeOf m a incident).covers =
      (ordered m' a).filter (scopeOf m' a incident).covers := by
  rw [ChangeRisk.filter_ordered, ChangeRisk.filter_ordered, h.cases]

/-- **When two populations are assessed alike.** -/
theorem assess_eq_iff (h : SameScope m m' a incident) :
    (assess m a incident).level = (assess m' a incident).level ∧
        (assess m a incident).fingerprint = (assess m' a incident).fingerprint ↔
      ∀ c ∈ inScope m a incident, (Reached m a c ↔ Reached m' a c) := by
  have hseen : seen m a incident = seen m' a incident ↔
      ∀ c ∈ inScope m a incident, (Reached m a c ↔ Reached m' a c) := by
    unfold seen
    rw [picked_eq_iff h.filter_ordered (nodup_filter_ordered m a incident)]
    simp only [mem_filter_ordered]
    rfl
  rw [← hseen]
  constructor
  · rintro ⟨_, hfingerprint⟩
    have hids : (seen m a incident).map RemediationCase.id =
        (seen m' a incident).map RemediationCase.id := congrArg Fingerprint.caseIds hfingerprint
    apply (picked_eq_iff_length h.filter_ordered).mpr
    have hlen := congrArg List.length hids
    rwa [List.length_map, List.length_map] at hlen
  · intro heq
    have hlevel : (assess m a incident).level = (assess m' a incident).level := by
      rw [assess_level, assess_level, heq]
    refine ⟨hlevel, ?_⟩
    have hfingerprint : ∀ m : CaseMemory, (assess m a incident).fingerprint =
        ⟨(assess m a incident).level, a.actionId, scopeOf m a incident,
          (seen m a incident).map RemediationCase.id,
          terminalOutcomes.map fun o =>
            (o, ((seen m a incident).filter fun c => c.outcome = o).length),
          ((seen m a incident).filter RemediationCase.regressed).map RemediationCase.id⟩ :=
      fun _ => rfl
    rw [hfingerprint m, hfingerprint m', hlevel, h.scope, heq]

/-- What the assessment of an Action should be: one of the cases in its scope, which other
cases do not change, and high when one of them regressed. -/
structure AssessedByScope (m m' : CaseMemory) (a : Action) (incident : Option Incident) :
    Prop where
  level : (assess m a incident).level = (assess m' a incident).level
  fingerprint : (assess m a incident).fingerprint = (assess m' a incident).fingerprint
  regression : (∃ c ∈ inScope m a incident, c.regressed = true) →
    (assess m a incident).level = .high ∧ (assess m a incident).blocksAutopilot = true

/-- Where a case in scope regressed, one that is reached did, or many of these failed. -/
def RegressionReached (m : CaseMemory) (a : Action) (incident : Option Incident) : Prop :=
  (∃ c ∈ inScope m a incident, c.regressed = true) →
    (∃ c ∈ inScope m a incident, Reached m a c ∧ c.regressed = true) ∨
      ManyFailures ((inScope m a incident).filter fun c => Reached m a c)

instance (m : CaseMemory) (a : Action) (incident : Option Incident) :
    Decidable (RegressionReached m a incident) := inferInstanceAs (Decidable (_ → _))

/-- **When an assessment is one of the scope.**  Two populations with the same cases in scope
are assessed alike, and a regression among these is noticed, exactly when the same of them
have fewer than a hundred cases of the whole system before them, and where one regressed, one
of these did or many of these failed. -/
theorem scoped_iff (m m' : CaseMemory) (a : Action) (incident : Option Incident)
    (h : SameScope m m' a incident) :
    AssessedByScope m m' a incident ↔
      (∀ c ∈ inScope m a incident, (Reached m a c ↔ Reached m' a c)) ∧
        RegressionReached m a incident := by
  rw [← assess_eq_iff h]
  constructor
  · intro hassessed
    refine ⟨⟨hassessed.level, hassessed.fingerprint⟩, ?_⟩
    intro hregressed
    exact (level_high_iff m a incident).mp (hassessed.regression hregressed).1
  · rintro ⟨⟨hlevel, hfingerprint⟩, hreached⟩
    refine ⟨hlevel, hfingerprint, ?_⟩
    intro hregressed
    have hhigh := (level_high_iff m a incident).mpr (hreached hregressed)
    refine ⟨hhigh, ?_⟩
    unfold RiskResult.blocksAutopilot
    rw [hhigh]
    rfl

/-! ## What an approval is for -/

def osdDown (id : Nat) (cluster : String) : Incident where
  id := id
  clusterId := some cluster
  cephCode := "OSD_DOWN"
  dedupeKey := none
  status := .resolved
  synthetic := false
  verifyAfter := none
  verifyAttempts := 0

def restart (id incidentId : Nat) : Action where
  id := id
  incidentId := incidentId
  actionId := "restart_osd_daemon"
  classification := .safe
  status := .autoExecuted
  assessment := none
  readable := true
  hasCase := true
  graceUntil := none
  executedAt := none
  params := []

def success (id : Nat) (cluster : String) (regressed : Bool) (verifiedAt : Int) :
    RemediationCase where
  id := id
  action := id
  clusterId := some cluster
  faultFamily := "OSD_DOWN"
  cephVersion := none
  deploymentMode := none
  outcome := .verifiedSuccess
  regressed1h := none
  regressed24h := some regressed
  regressed7d := none
  verifiedAt := some verifiedAt
  createdAt := verifiedAt

/-- A case of cluster `c1` that regressed, and `n` newer ones of `c2`. -/
def withOthers (n : Nat) : List RemediationCase :=
  success 1 "c1" true 0 :: (List.range n).map fun k => success (k + 2) "c2" false 1

theorem nodup_withOthers {f : RemediationCase → Nat}
    (hf : ∀ id cluster regressed verifiedAt, f (success id cluster regressed verifiedAt) = id)
    (n : Nat) : ((withOthers n).map f).Nodup := by
  have hkeys : (withOthers n).map f = 1 :: (List.range n).map fun k => k + 2 := by
    unfold withOthers
    rw [List.map_cons, List.map_map, hf]
    congr 2
    funext k
    exact hf _ _ _ _
  rw [hkeys, List.nodup_cons]
  constructor
  · rw [List.mem_map]
    rintro ⟨k, _, hk⟩
    omega
  · exact List.nodup_range.map fun j k h => by omega

/-- The memory before the Action of `c1` with the number 0. -/
def memory (n : Nat) : CaseMemory where
  incidents := [osdDown 1 "c1", osdDown 2 "c2"]
  actions := restart 0 1 :: restart 1 1 :: (List.range n).map fun k => restart (k + 2) 2
  cases := withOthers n
  ids := nodup_withOthers (fun _ _ _ _ => rfl) n
  unique := nodup_withOthers (fun _ _ _ _ => rfl) n

/-- With one newer case of another cluster, the regression is seen. -/
theorem assessed_with_one_other : AssessedByScope (memory 0) (memory 1) (restart 0 1) none :=
  (scoped_iff (memory 0) (memory 1) (restart 0 1) none (by constructor <;> decide)).mpr
    (by decide)

/-- **A regression unseen**: with a hundred, the Action is no longer blocked. -/
theorem regression_unseen :
    ¬ ∀ m m', SameScope m m' (restart 0 1) none → AssessedByScope m m' (restart 0 1) none := by
  intro h
  have hscope : SameScope (memory 0) (memory 100) (restart 0 1) none := by
    constructor <;> decide
  have hlevel := (h (memory 0) (memory 100) hscope).level
  have hhigh : (assess (memory 0) (restart 0 1) none).level = .high := by decide
  have hnone : (assess (memory 100) (restart 0 1) none).level = .insufficientEvidence := by
    decide
  rw [hhigh, hnone] at hlevel
  cases hlevel

end CephAi.Ports.ChangeRisk
