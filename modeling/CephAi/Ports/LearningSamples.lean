import CephAi.Verified.Runs
import Mathlib.Tactic.Tauto

/-!
# The projection of a log learning sample

`evaluate_sample`, `_remediation_case_for_sample` and what `record_finding_sample` starts from, of
`shared/log_learning.py`.

A sample is projected from its finding, its ingest run, the Remediation Cases of its Incident and
the operator's verdict on it.  Each branch of `evaluate_sample` writes some of the projected columns
and leaves the others as an earlier evaluation wrote them.

## Main results

* `eligible_iff` — a sample is eligible exactly when its label is a verified one.
* `projected_iff` — an evaluation is what one of a sample just recorded gives, and the next one
  changes nothing, exactly when the columns that its branch leaves are as just recorded and it does
  not read the clock.
* `case_left` — a case that stays with a sample whose correlation is gone.
-/

namespace CephAi.Ports.LearningSamples

open Verified.Runs

/-! ## The source rows -/

/-- `VALID_OPERATOR_VERDICTS`; `notSafe` is `UNSAFE`. -/
inductive Verdict
  | correct
  | falsePositive
  | wrongRootCause
  | ineffective
  | notSafe
deriving DecidableEq, Repr

def Verdict.bad : Verdict → Bool
  | .falsePositive | .notSafe | .ineffective => true
  | _ => false

/-- A Remediation Case with its Action; `playbookId` is the Action's `action_id`. -/
structure Case where
  id : Nat
  actionId : Nat
  playbookId : String
  playbookVersion : String
  outcome : String
  verifiedAt : Option Int
  regressed1h : Option Bool
  regressed24h : Option Bool
  regressed7d : Option Bool
  operatorVerdict : Option Verdict
deriving DecidableEq, Repr

structure Finding where
  correlatedIncidentId : Option Nat
  recommendedActionId : Option String
deriving DecidableEq, Repr

/-- What a sample is projected from: the status of its ingest run, its finding, the cases of an
Incident, the latest first, and the operator's verdict. -/
structure Sources where
  run : Option String
  finding : Option Finding
  cases : Nat → List Case
  operatorVerdict : Option Verdict
  operatorVerdictAt : Option Int

/-! ## The sample -/

inductive State
  | candidate
  | correlated
  | insufficientEvidence
  | diagnosed
  | inconclusive
  | executionFailed
  | regressed
  | falsePositive
  | verifiedSuccess
  | verifiedFailed
deriving DecidableEq, Repr

inductive Label
  | unverified
  | verifiedSuccess
  | verifiedFailed
deriving DecidableEq, Repr

inductive OutcomeSource
  | operatorVerdict
  | recurrenceEvaluator
  | telemetryPostCheck
  | executionResult
deriving DecidableEq, Repr

/-- The projected columns. -/
structure Sample where
  incidentId : Option Nat
  remediationCaseId : Option Nat
  actionId : Option Nat
  state : State
  label : Label
  eligibleForLearning : Bool
  exclusionReason : Option String
  outcomeSource : Option OutcomeSource
  verifiedAt : Option Int
  regressed : Bool
  recommendedPlaybookId : Option String
  playbookVersion : Option String
deriving DecidableEq, Repr

/-- `record_finding_sample`, of the projected columns.  Without its finding a sample has neither
Incident nor playbook. -/
def recordFindingSample (src : Sources) : Sample where
  incidentId := src.finding.bind Finding.correlatedIncidentId
  remediationCaseId := none
  actionId := none
  state :=
    if src.run ≠ some "OK" then .insufficientEvidence
    else if (src.finding.bind Finding.correlatedIncidentId).isSome then .correlated else .candidate
  label := .unverified
  eligibleForLearning := false
  exclusionReason :=
    if src.run ≠ some "OK" then some ("ingest coverage is " ++ src.run.getD "")
    else if (src.finding.bind Finding.correlatedIncidentId).isSome then
      some "awaiting verified remediation outcome"
    else some "no correlated incident"
  outcomeSource := none
  verifiedAt := none
  regressed := false
  recommendedPlaybookId := src.finding.bind Finding.recommendedActionId
  playbookVersion := none

/-- `sample.incident_id`, once the finding was read. -/
def incidentOf (src : Sources) (p : Sample) : Option Nat :=
  match src.finding with
  | none => p.incidentId
  | some finding => finding.correlatedIncidentId

/-- The playbook that is preferred. -/
def recommended (src : Sources) (p : Sample) : Option String :=
  match src.finding with
  | none => p.recommendedPlaybookId
  | some finding => finding.recommendedActionId

def onlyCase : List Case → Except String Case
  | [c] => .ok c
  | _ => .error "multiple Remediation Cases; action mapping unavailable"

def remediationCaseForSample (src : Sources) (incidentId : Option Nat) (preferred : Option String) :
    Except String Case :=
  match incidentId with
  | none => .error "no correlated incident"
  | some incident =>
    let pairs := src.cases incident
    if pairs = [] then .error "awaiting Remediation Case"
    else
      match preferred with
      | none => onlyCase pairs
      | some playbook =>
        if playbook = "" then onlyCase pairs
        else
          match pairs.filter fun c => c.playbookId = playbook with
          | [] => onlyCase pairs
          | [c] => .ok c
          | _ => .error "multiple Remediation Cases match the recommended action"

def Sample.exclude (p : Sample) (state : State) (reason : String) : Sample :=
  { p with
    state := state
    label := .unverified
    eligibleForLearning := false
    exclusionReason := some reason }

def Sample.settle (p : Sample) (state : State) (label : Label) (source : OutcomeSource)
    (verifiedAt : Option Int) : Sample :=
  { p with
    state := state
    label := label
    eligibleForLearning := true
    exclusionReason := none
    outcomeSource := some source
    verifiedAt := verifiedAt }

/-- `any(value is True for value in ...)` -/
def Case.regressed (c : Case) : Bool :=
  c.regressed1h = some true || c.regressed24h = some true || c.regressed7d = some true

def Case.badVerdict (c : Case) : Bool := c.operatorVerdict.any Verdict.bad

def Sample.link (p : Sample) (c : Case) : Sample :=
  { p with
    remediationCaseId := some c.id
    actionId := some c.actionId
    recommendedPlaybookId := some c.playbookId
    playbookVersion := some c.playbookVersion
    regressed := c.regressed }

def Sample.outcome (p : Sample) (c : Case) (now : Int) : Sample :=
  if c.badVerdict = true ∨ c.regressed = true then
    p.settle (if c.regressed = true then .regressed else .falsePositive) .verifiedFailed
      (if c.badVerdict = true then .operatorVerdict else .recurrenceEvaluator)
      (some (c.verifiedAt.getD now))
  else if c.outcome = "VERIFIED_SUCCESS" then
    p.settle .verifiedSuccess .verifiedSuccess .telemetryPostCheck c.verifiedAt
  else if c.outcome = "VERIFIED_FAILED" then
    p.settle .verifiedFailed .verifiedFailed .telemetryPostCheck c.verifiedAt
  else if c.outcome = "INCONCLUSIVE" then
    { p.exclude .inconclusive "remediation outcome is INCONCLUSIVE; side effect is unknown" with
      outcomeSource := some .telemetryPostCheck
      verifiedAt := none }
  else if c.outcome = "EXECUTION_FAILED" then
    p.settle .executionFailed .verifiedFailed .executionResult (some (c.verifiedAt.getD now))
  else p.exclude .diagnosed ("remediation outcome is " ++ c.outcome)

/-- The operator found the sample itself wrong. -/
def Sources.rejected (src : Sources) : Bool :=
  src.operatorVerdict.any fun verdict => verdict.bad || verdict = .wrongRootCause

def evaluateSample (src : Sources) (now : Int) (p : Sample) : Sample :=
  match src.run with
  | none => p.exclude .insufficientEvidence "missing ingest provenance"
  | some status =>
    if status ≠ "OK" then p.exclude .insufficientEvidence ("ingest coverage is " ++ status)
    else if src.rejected = true then
      p.settle .falsePositive .verifiedFailed .operatorVerdict
        (some (src.operatorVerdictAt.getD now))
    else
      let sample := { p with incidentId := incidentOf src p }
      match remediationCaseForSample src (incidentOf src p) (recommended src p) with
      | .ok c => (sample.link c).outcome c now
      | .error reason =>
        if (incidentOf src p).isSome = true then sample.exclude .correlated reason
        else sample.exclude .candidate "no correlated incident"

/-- What `evaluate_sample` returns. -/
def changed (src : Sources) (now : Int) (p : Sample) : Bool := p ≠ evaluateSample src now p

/-- `correlate_unverified_samples`, of one sample; `correlate_finding` answers the Incident. -/
def correlate (src : Sources) (incident : Nat) (p : Sample) : Sources × Sample :=
  match src.finding with
  | none => (src, p)
  | some finding =>
    if p.eligibleForLearning = true ∨ p.incidentId.isSome = true ∨ src.run ≠ some "OK" then (src, p)
    else
      ({ src with finding := some { finding with correlatedIncidentId := some incident } },
        { p with
          incidentId := some incident
          state := .correlated
          exclusionReason := some "awaiting Remediation Case" })

/-! ## Histories -/

/-- The source rows, and the sample once it was recorded. -/
structure World where
  src : Sources
  sample : Option Sample

inductive Event
  /-- The source rows change. -/
  | change (src : Sources)
  | record
  /-- `correlate_unverified_samples` found the Incident of the finding. -/
  | correlate (incident : Nat)
  | evaluate (now : Int)

def step (w : World) : Event → Option World
  | .change src => some { w with src := src }
  | .record =>
    match w.sample with
    | none => some { w with sample := some (recordFindingSample w.src) }
    | some _ => some w
  | .correlate incident =>
    match w.sample with
    | none => some w
    | some p =>
      some { src := (correlate w.src incident p).1, sample := some (correlate w.src incident p).2 }
  | .evaluate now =>
    match w.sample with
    | none => none
    | some p => some { w with sample := some (evaluateSample w.src now p) }

def system : System World Event := ⟨step⟩

/-! ## The law -/

/-- The columns that the source rows are to determine. -/
def Sample.columns (p : Sample) : Sample := { p with incidentId := none, exclusionReason := none }

/-- The evaluation depends on the source rows only, and evaluating once more changes nothing; the
sample is eligible with a verified label and with no other. -/
structure Projected (src : Sources) (now : Int) (p : Sample) : Prop where
  independent : (evaluateSample src now p).columns =
    (evaluateSample src now (recordFindingSample src)).columns
  settled : ∀ later, changed src later (evaluateSample src now p) = false
  eligible : (evaluateSample src now p).eligibleForLearning = true ↔
    (evaluateSample src now p).label ≠ .unverified

def Lawful (w : World) (e : Event) (_ : World) : Prop :=
  match e with
  | .evaluate now => ∀ p, w.sample = some p → Projected w.src now p
  | _ => True

/-- The columns that link a sample to its case. -/
def SameLinks (p q : Sample) : Prop :=
  p.remediationCaseId = q.remediationCaseId ∧ p.actionId = q.actionId ∧
    p.recommendedPlaybookId = q.recommendedPlaybookId ∧ p.playbookVersion = q.playbookVersion ∧
      p.regressed = q.regressed

/-- The columns that say where the outcome is from. -/
def SameOutcome (p q : Sample) : Prop :=
  p.outcomeSource = q.outcomeSource ∧ p.verifiedAt = q.verifiedAt

/-- The outcome of the case is none of those that are projected. -/
def Case.undecided (c : Case) : Prop :=
  ¬(c.badVerdict = true ∨ c.regressed = true) ∧ c.outcome ≠ "VERIFIED_SUCCESS" ∧
    c.outcome ≠ "VERIFIED_FAILED" ∧ c.outcome ≠ "INCONCLUSIVE" ∧ c.outcome ≠ "EXECUTION_FAILED"

/-- The outcome of the case is dated with the clock where the case has no date. -/
def Case.failing (c : Case) : Prop :=
  c.badVerdict = true ∨ c.regressed = true ∨ c.outcome = "EXECUTION_FAILED"

/-- The columns that the branch taken leaves are as in a sample just recorded, and it does not read
the clock. -/
def Fresh (src : Sources) (p : Sample) : Prop :=
  let q := recordFindingSample src
  if src.run ≠ some "OK" then SameLinks p q ∧ SameOutcome p q
  else if src.rejected = true then SameLinks p q ∧ src.operatorVerdictAt.isSome = true
  else
    (src.finding = none → p.incidentId = none) ∧
      match remediationCaseForSample src (incidentOf src p) (recommended src p) with
      | .ok c => (c.undecided → SameOutcome p q) ∧ (c.failing → c.verifiedAt.isSome = true)
      | .error _ => SameLinks p q ∧ SameOutcome p q

/-- Every evaluation finds the sample as its branch needs it. -/
def EvaluatedFresh (w : World) : Event → Prop
  | .evaluate _ => ∀ p, w.sample = some p → Fresh w.src p
  | _ => True

/-! ## Eligibility -/

@[simp] theorem Sample.eligible_exclude (p : Sample) (state : State) (reason : String) :
    (p.exclude state reason).eligibleForLearning = true ↔
      (p.exclude state reason).label ≠ .unverified := by
  simp [Sample.exclude]

variable {label : Label} {p : Sample} {reason : String} {src : Sources} {state : State}

theorem Sample.eligible_settle (p : Sample) (state : State) (hlabel : label ≠ .unverified)
    (source : OutcomeSource) (verifiedAt : Option Int) :
    (p.settle state label source verifiedAt).eligibleForLearning = true ↔
      (p.settle state label source verifiedAt).label ≠ .unverified := by
  simp [Sample.settle, hlabel]

theorem Sample.eligible_outcome (p : Sample) (c : Case) (now : Int) :
    (p.outcome c now).eligibleForLearning = true ↔ (p.outcome c now).label ≠ .unverified := by
  unfold Sample.outcome
  split
  · exact p.eligible_settle _ (by decide) _ _
  · split
    · exact p.eligible_settle _ (by decide) _ _
    · split
      · exact p.eligible_settle _ (by decide) _ _
      · split
        · exact p.eligible_exclude .inconclusive
            "remediation outcome is INCONCLUSIVE; side effect is unknown"
        · split
          · exact p.eligible_settle _ (by decide) _ _
          · exact p.eligible_exclude _ _

theorem eligible_iff (src : Sources) (now : Int) (p : Sample) :
    (evaluateSample src now p).eligibleForLearning = true ↔
      (evaluateSample src now p).label ≠ .unverified := by
  unfold evaluateSample
  split
  · exact p.eligible_exclude _ _
  · split
    · exact p.eligible_exclude _ _
    · split
      · exact p.eligible_settle _ (by decide) _ _
      · dsimp only
        split
        · exact Sample.eligible_outcome _ _ _
        · split
          · exact Sample.eligible_exclude _ _ _
          · exact Sample.eligible_exclude _ _ _

/-! ## The branches -/

theorem evaluateSample_excluded (h : src.run ≠ some "OK") :
    ∃ reason, ∀ now p, evaluateSample src now p = p.exclude .insufficientEvidence reason := by
  unfold evaluateSample
  cases hrun : src.run with
  | none => exact ⟨_, fun _ _ => rfl⟩
  | some status =>
    have hstatus : status ≠ "OK" := fun heq => h (heq ▸ hrun)
    refine ⟨"ingest coverage is " ++ status, fun now p => ?_⟩
    simp only [if_pos hstatus]

section

variable (h : src.run = some "OK")
include h

theorem evaluateSample_rejected (hrejected : src.rejected = true) (now : Int) (p : Sample) :
    evaluateSample src now p = p.settle .falsePositive .verifiedFailed .operatorVerdict
      (some (src.operatorVerdictAt.getD now)) := by
  unfold evaluateSample
  rw [h]
  simp [hrejected]

theorem evaluateSample_linked (hrejected : ¬src.rejected = true) {c : Case}
    (hc : remediationCaseForSample src (incidentOf src p) (recommended src p) = .ok c) (now : Int) :
    evaluateSample src now p =
      (Sample.link { p with incidentId := incidentOf src p } c).outcome c now := by
  unfold evaluateSample
  rw [h]
  simp [hrejected, hc]

theorem evaluateSample_unlinked (hrejected : ¬src.rejected = true)
    (hc : remediationCaseForSample src (incidentOf src p) (recommended src p) = .error reason)
    (now : Int) :
    evaluateSample src now p =
      if (incidentOf src p).isSome = true then
        Sample.exclude { p with incidentId := incidentOf src p } .correlated reason
      else Sample.exclude { p with incidentId := incidentOf src p } .candidate
        "no correlated incident" := by
  unfold evaluateSample
  rw [h]
  simp [hrejected, hc]

end

/-! ## Two samples in one branch -/

theorem exclude_columns_iff {q : Sample} {reason' : String} :
    (p.exclude state reason).columns = (q.exclude state reason').columns ↔
      SameLinks p q ∧ SameOutcome p q := by
  cases p
  cases q
  simp only [Sample.exclude, Sample.columns, SameLinks, SameOutcome, Sample.mk.injEq]
  tauto

theorem settle_columns_iff {q : Sample} {source : OutcomeSource} {verifiedAt : Option Int} :
    (p.settle state label source verifiedAt).columns =
      (q.settle state label source verifiedAt).columns ↔ SameLinks p q := by
  cases p
  cases q
  simp only [Sample.settle, Sample.columns, SameLinks, Sample.mk.injEq]
  tauto

theorem sameLinks_link (p q : Sample) (c : Case) : SameLinks (p.link c) (q.link c) :=
  ⟨rfl, rfl, rfl, rfl, rfl⟩

theorem outcome_columns_iff (p q : Sample) (c : Case) (now : Int) :
    ((p.link c).outcome c now).columns = ((q.link c).outcome c now).columns ↔
      (c.undecided → SameOutcome p q) := by
  have hlinks := sameLinks_link p q c
  unfold Sample.outcome Case.undecided
  split
  · rename_i hfailing
    exact iff_of_true (settle_columns_iff.mpr hlinks) fun h => absurd hfailing h.1
  · rename_i hfailing
    split
    · rename_i hsuccess
      exact iff_of_true (settle_columns_iff.mpr hlinks) fun h => absurd hsuccess h.2.1
    · rename_i hsuccess
      split
      · rename_i hfailed
        exact iff_of_true (settle_columns_iff.mpr hlinks) fun h => absurd hfailed h.2.2.1
      · rename_i hfailed
        split
        · rename_i hinconclusive
          exact iff_of_true rfl fun h => absurd hinconclusive h.2.2.2.1
        · rename_i hinconclusive
          split
          · rename_i hexecution
            exact iff_of_true (settle_columns_iff.mpr hlinks) fun h => absurd hexecution h.2.2.2.2
          · rename_i hexecution
            rw [exclude_columns_iff]
            constructor
            · intro heq _
              exact heq.2
            · intro hsame
              exact ⟨hlinks, hsame ⟨hfailing, hsuccess, hfailed, hinconclusive, hexecution⟩⟩

theorem outcome_state_ne (p : Sample) (c : Case) (now : Int) :
    (p.outcome c now).state ≠ .candidate := by
  unfold Sample.outcome
  split
  · change (if c.regressed = true then State.regressed else .falsePositive) ≠ .candidate
    split
    · exact State.noConfusion
    · exact State.noConfusion
  · split
    · exact State.noConfusion
    · split
      · exact State.noConfusion
      · split
        · exact State.noConfusion
        · split
          · exact State.noConfusion
          · exact State.noConfusion

/-! ## A second evaluation -/

@[simp] theorem exclude_exclude (p : Sample) (state : State) (reason : String) :
    (p.exclude state reason).exclude state reason = p.exclude state reason := rfl

theorem settle_settle_iff {source : OutcomeSource} {verifiedAt verifiedAt' : Option Int} :
    (p.settle state label source verifiedAt).settle state label source verifiedAt' =
      p.settle state label source verifiedAt ↔ verifiedAt' = verifiedAt := by
  simp [Sample.settle]

theorem changed_eq_false_iff {now : Int} :
    changed src now p = false ↔ evaluateSample src now p = p := by
  unfold changed
  rw [decide_eq_false_iff_not, not_not]
  exact eq_comm

theorem forall_getD_iff {date : Option Int} (now : Int) :
    (∀ later, some (date.getD later) = some (date.getD now)) ↔ date.isSome = true := by
  cases date with
  | none =>
    constructor
    · intro h
      have hlater : now + 1 = now := Option.some.inj (h (now + 1))
      omega
    · intro h
      cases h
  | some day => exact iff_of_true (fun _ => rfl) rfl

theorem link_outcome (p : Sample) (c : Case) (now : Int) :
    Sample.link { (p.link c).outcome c now with incidentId := p.incidentId } c =
      (p.link c).outcome c now := by
  unfold Sample.outcome
  repeat' split
  all_goals rfl

theorem outcome_outcome_iff (p : Sample) (c : Case) (now : Int) :
    (∀ later, (p.outcome c now).outcome c later = p.outcome c now) ↔
      (c.failing → c.verifiedAt.isSome = true) := by
  unfold Case.failing
  by_cases hfailing : c.badVerdict = true ∨ c.regressed = true
  · simp only [Sample.outcome, if_pos hfailing, settle_settle_iff, forall_getD_iff]
    constructor
    · intro hdated _
      exact hdated
    · intro hdated
      exact hdated (hfailing.imp_right .inl)
  · have hexecution : (c.badVerdict = true ∨ c.regressed = true ∨ c.outcome = "EXECUTION_FAILED") ↔
        c.outcome = "EXECUTION_FAILED" := by
      tauto
    simp only [Sample.outcome, if_neg hfailing, hexecution]
    by_cases hsuccess : c.outcome = "VERIFIED_SUCCESS"
    · simp [hsuccess, Sample.settle]
    · by_cases hfailed : c.outcome = "VERIFIED_FAILED"
      · simp [hfailed, Sample.settle]
      · by_cases hinconclusive : c.outcome = "INCONCLUSIVE"
        · simp [hinconclusive, Sample.exclude]
        · by_cases hexec : c.outcome = "EXECUTION_FAILED"
          · simp only [if_neg hsuccess, if_neg hfailed, if_neg hinconclusive, if_pos hexec,
              settle_settle_iff, forall_getD_iff]
            constructor
            · intro hdated _
              exact hdated
            · intro hdated
              exact hdated hexec
          · simp [hsuccess, hfailed, hinconclusive, hexec]

/-! ## The exact condition -/

theorem reads_finding (h : src.finding ≠ none) (p q : Sample) :
    incidentOf src p = incidentOf src q ∧ recommended src p = recommended src q := by
  unfold incidentOf recommended
  cases hfinding : src.finding with
  | none => exact absurd hfinding h
  | some finding => exact ⟨rfl, rfl⟩

theorem incidentOf_of_none (h : src.finding = none) (p : Sample) :
    incidentOf src p = p.incidentId := by
  unfold incidentOf
  rw [h]

theorem recordFindingSample_incidentId_of_none (h : src.finding = none) :
    (recordFindingSample src).incidentId = none := by
  simp [recordFindingSample, h]

theorem same_case (h : src.finding = none → p.incidentId = none) :
    incidentOf src p = incidentOf src (recordFindingSample src) ∧
      remediationCaseForSample src (incidentOf src p) (recommended src p) =
        remediationCaseForSample src (incidentOf src (recordFindingSample src))
          (recommended src (recordFindingSample src)) := by
  by_cases hfinding : src.finding = none
  · have hp : incidentOf src p = none := (incidentOf_of_none hfinding p).trans (h hfinding)
    have hq : incidentOf src (recordFindingSample src) = none :=
      (incidentOf_of_none hfinding _).trans (recordFindingSample_incidentId_of_none hfinding)
    rw [hp, hq]
    exact ⟨rfl, rfl⟩
  · have hreads := reads_finding hfinding p (recordFindingSample src)
    rw [hreads.1, hreads.2]
    exact ⟨rfl, rfl⟩

theorem projected_of {now : Int} :
    Projected src now p ↔
      (evaluateSample src now p).columns =
          (evaluateSample src now (recordFindingSample src)).columns ∧
        ∀ later, evaluateSample src later (evaluateSample src now p) =
          evaluateSample src now p := by
  constructor
  · intro h
    exact ⟨h.independent, fun later => changed_eq_false_iff.mp (h.settled later)⟩
  · intro h
    exact ⟨h.1, fun later => changed_eq_false_iff.mpr (h.2 later), eligible_iff src now p⟩

section

variable (h : src.run = some "OK")
include h

section

variable (hrejected : ¬src.rejected = true)
include hrejected

theorem evaluateSample_again
    (hc : remediationCaseForSample src (incidentOf src p) (recommended src p) = .error reason)
    (now later : Int) :
    evaluateSample src later (evaluateSample src now p) = evaluateSample src now p := by
  have hout := evaluateSample_unlinked h hrejected hc now
  have hreads : incidentOf src (evaluateSample src now p) = incidentOf src p ∧
      recommended src (evaluateSample src now p) = recommended src p := by
    rw [hout]
    cases hfinding : src.finding with
    | none =>
      simp only [incidentOf, recommended, hfinding]
      split
      · exact ⟨rfl, rfl⟩
      · exact ⟨rfl, rfl⟩
    | some finding => simp only [incidentOf, recommended, hfinding, and_self]
  rw [← hreads.1, ← hreads.2] at hc
  rw [evaluateSample_unlinked h hrejected hc later, hreads.1, hout]
  split
  · rfl
  · rfl

theorem projected_linked {c : Case} (hincident : src.finding = none → p.incidentId = none)
    (hc : remediationCaseForSample src (incidentOf src p) (recommended src p) = .ok c) (now : Int) :
    Projected src now p ↔ (c.undecided → SameOutcome p (recordFindingSample src)) ∧
      (c.failing → c.verifiedAt.isSome = true) := by
  have hfinding : src.finding ≠ none := by
    intro hnone
    rw [incidentOf_of_none hnone, hincident hnone] at hc
    cases hc
  have hout := evaluateSample_linked h hrejected hc now
  have hsame := same_case hincident
  rw [hsame.2] at hc
  have hrecord := evaluateSample_linked h hrejected hc now
  rw [projected_of]
  refine and_congr ?_ ?_
  · rw [hout, hrecord, outcome_columns_iff]
    rfl
  · rw [← outcome_outcome_iff (Sample.link { p with incidentId := incidentOf src p } c) c now, hout]
    refine forall_congr' fun later => ?_
    -- the evaluated sample is linked to the same case, and has its links already
    have hreads := reads_finding hfinding
      ((Sample.link { p with incidentId := incidentOf src p } c).outcome c now) p
    have hagain := hc
    rw [← hsame.2, ← hreads.1, ← hreads.2] at hagain
    rw [evaluateSample_linked h hrejected hagain later, hreads.1]
    exact iff_of_eq (congrArg (fun q => Sample.outcome q c later = _)
      (link_outcome { p with incidentId := incidentOf src p } c now))

theorem projected_unlinked (hincident : src.finding = none → p.incidentId = none)
    (hc : remediationCaseForSample src (incidentOf src p) (recommended src p) = .error reason)
    (now : Int) :
    Projected src now p ↔
      SameLinks p (recordFindingSample src) ∧ SameOutcome p (recordFindingSample src) := by
  have hsame := same_case hincident
  have hrecord := evaluateSample_unlinked h hrejected (hsame.2 ▸ hc) now
  rw [projected_of, and_iff_left (evaluateSample_again h hrejected hc now),
    evaluateSample_unlinked h hrejected hc now, hrecord, hsame.1]
  split
  · exact exclude_columns_iff
  · exact exclude_columns_iff

theorem not_projected (hfinding : src.finding = none)
    (hincident : p.incidentId ≠ none) (now : Int) : ¬Projected src now p := by
  intro hprojected
  have hq : incidentOf src (recordFindingSample src) = none :=
    (incidentOf_of_none hfinding _).trans (recordFindingSample_incidentId_of_none hfinding)
  have hnone : remediationCaseForSample src (incidentOf src (recordFindingSample src))
      (recommended src (recordFindingSample src)) = .error "no correlated incident" := by
    rw [hq]
    rfl
  have hrecord := evaluateSample_unlinked h hrejected hnone now
  have hstate : (evaluateSample src now p).state = .candidate := by
    calc (evaluateSample src now p).state
        = (evaluateSample src now p).columns.state := rfl
      _ = (evaluateSample src now (recordFindingSample src)).columns.state := by
          rw [hprojected.independent]
      _ = .candidate := by
          rw [hrecord, hq]
          rfl
  cases hc : remediationCaseForSample src (incidentOf src p) (recommended src p) with
  | ok c =>
    rw [evaluateSample_linked h hrejected hc] at hstate
    exact outcome_state_ne _ c now hstate
  | error reason =>
    have hsome : (incidentOf src p).isSome = true := by
      rw [incidentOf_of_none hfinding]
      exact Option.isSome_iff_ne_none.mpr hincident
    rw [evaluateSample_unlinked h hrejected hc, if_pos hsome] at hstate
    cases hstate

end

end

theorem projected_iff_fresh (src : Sources) (now : Int) (p : Sample) :
    Projected src now p ↔ Fresh src p := by
  unfold Fresh
  by_cases hrun : src.run ≠ some "OK"
  · rw [if_pos hrun, projected_of]
    obtain ⟨reason, hexcluded⟩ := evaluateSample_excluded hrun
    simp only [hexcluded, exclude_exclude, implies_true, and_true]
    exact exclude_columns_iff
  · rw [if_neg hrun]
    have hok : src.run = some "OK" := not_not.mp hrun
    by_cases hrejected : src.rejected = true
    · rw [if_pos hrejected, projected_of]
      simp only [evaluateSample_rejected hok hrejected, settle_settle_iff, forall_getD_iff]
      rw [settle_columns_iff]
    · rw [if_neg hrejected]
      by_cases hincident : src.finding = none → p.incidentId = none
      · rw [and_iff_right hincident]
        cases hc : remediationCaseForSample src (incidentOf src p) (recommended src p) with
        | ok c => exact projected_linked hok hrejected hincident hc now
        | error reason => exact projected_unlinked hok hrejected hincident hc now
      · apply iff_of_false
        · have hkept := Classical.not_imp.mp hincident
          exact not_projected hok hrejected hkept.1 hkept.2 now
        · intro hfresh
          exact hincident hfresh.1

/-- **A sample is a projection of its source rows** in the runs in which every evaluation finds the
columns that its branch leaves as in a sample just recorded, and does not fall back to the clock. -/
theorem projected_iff {w w' : World} {events : List Event} (hrun : system.run w events = some w') :
    system.Always Lawful w events ↔ system.Meets EvaluatedFresh w events := by
  apply system.always_iff_meets Lawful EvaluatedFresh _ events w w' hrun
  intro w event w'' hstep
  cases event with
  | evaluate now =>
    exact forall_congr' fun p => imp_congr_right fun _ => projected_iff_fresh w.src now p
  | change | record | correlate => exact Iff.rfl

/-- An Incident with one case, whose outcome is verified. -/
def verifiedCase : Case where
  id := 1
  actionId := 1
  playbookId := "restart_osd"
  playbookVersion := "1"
  outcome := "VERIFIED_SUCCESS"
  verifiedAt := some 100
  regressed1h := none
  regressed24h := none
  regressed7d := none
  operatorVerdict := none

def correlated (incident : Option Nat) : Sources where
  run := some "OK"
  finding := some ⟨incident, none⟩
  cases := fun _ => [verifiedCase]
  operatorVerdict := none
  operatorVerdictAt := none

/-- The correlation is cleared, and the case stays with the sample. -/
theorem case_left :
    ¬∀ (src : Sources) (w : World) (events : List Event), system.run ⟨src, none⟩ events = some w →
      system.Always Lawful ⟨src, none⟩ events := by
  intro h
  have hlast : Lawful _ (.evaluate 120) _ :=
    System.Always.step_after rfl [.record, .evaluate 110, .change (correlated none)]
      ⟨correlated (some 7), none⟩
      (h (correlated (some 7)) _
        ([.record, .evaluate 110, .change (correlated none)] ++ [.evaluate 120]) rfl) rfl
  have hprojected := hlast _ rfl
  have hcase := congrArg Sample.remediationCaseId hprojected.independent
  exact absurd hcase (by decide)

/-- A correlated sample is evaluated before its case and once it is verified. -/
theorem projected_iff_verified : system.Always Lawful
    ⟨{ correlated (some 7) with cases := fun _ => [] }, none⟩
    [.record, .evaluate 90, .change (correlated (some 7)), .evaluate 110, .evaluate 120] := by
  refine (projected_iff rfl).mpr ⟨True.intro, ?_, True.intro, ?_, ?_, True.intro⟩
  · intro p hp
    cases hp
    exact ⟨fun hnone => (nomatch hnone), ⟨rfl, rfl, rfl, rfl, rfl⟩, rfl, rfl⟩
  · intro p hp
    cases hp
    exact ⟨fun hnone => (nomatch hnone), fun hundecided => absurd rfl hundecided.2.1,
      fun _ => rfl⟩
  · intro p hp
    cases hp
    exact ⟨fun hnone => (nomatch hnone), fun hundecided => absurd rfl hundecided.2.1,
      fun _ => rfl⟩

end CephAi.Ports.LearningSamples
