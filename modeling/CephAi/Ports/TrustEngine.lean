import CephAi.Ports.ClusterConversion
import CephAi.Verified.Aggregates
import Mathlib

/-!
# Playbook trust

`recompute_playbook_stats` and `evaluate_promotion_candidates` of `shared/trust_engine.py`.  The
first groups the trust-eligible cases by playbook, version and scope, writes the aggregate of
each group into its row of `playbook_stats`, and clears the rows without cases.  The second
proposes rows for a review.  Cases and Actions may change in any way between the calls.

The floats are any type with the operations of the source; its equality is the `==` of floats.
`now` of the first function is not read by it.

## Main results

* `recompute_idempotent`, `recompute_perm` — a second call changes nothing, and the order in
  which the cases are read does not matter.
* `row_recompute` — the row of every key after a call.
* `level_step` — a step makes no row L3.
-/

namespace CephAi.Ports.TrustEngine

open ClusterConversion (Json field)
open Verified.Aggregates

/-! ## The tables -/

/-- `RemediationCase.outcome`, as far as it is compared. -/
inductive Outcome
  | executedPendingVerify
  | verifiedSuccess
  | verifiedFailed
  | executionFailed
  | inconclusive
  | other (text : String)
deriving DecidableEq, Repr

/-- `CASE_VERDICTS` -/
inductive Verdict
  | correct
  | falsePositive
  | notSafe
  | ineffective
  | inconclusive
deriving DecidableEq, Repr

inductive Maturity
  | l0
  | l1
  | l2
  | l3
deriving DecidableEq, Repr

/-- A JSON column: no text, a text that does not parse, or what it says. -/
inductive JsonText
  | blank
  | malformed
  | json (value : Json)

/-- `json.loads(text or default)` -/
def JsonText.loads (blank : Json) : JsonText → Option Json
  | .blank => some blank
  | .malformed => none
  | .json value => some value

/-- A row of `remediation_cases`; times are in microseconds. -/
structure Case (F : Type) where
  id : String
  actionId : String
  clusterId : Option String
  cephVersion : Option String
  deploymentMode : Option String
  diagnosisConfidence : Option F
  promptVersion : String
  playbookVersion : String
  preflightSnapshotJson : JsonText
  preStateJson : JsonText
  rollbackStateJson : Option String
  outcome : Outcome
  verifiedAt : Option Int
  regressed1h : Option Bool
  regressed24h : Option Bool
  regressed7d : Option Bool
  operatorVerdict : Option Verdict

/-- A row of `actions`. -/
structure Action where
  id : String
  actionId : String
deriving DecidableEq, Repr

/-- The columns that `uq_playbook_stats_scope` is about. -/
structure StatKey where
  playbookId : String
  playbookVersion : String
  scopeKey : String
deriving DecidableEq, Repr

/-- A row of `playbook_stats`. -/
structure PlaybookStat (F : Type) where
  key : StatKey
  proposedCount : Nat
  executedCount : Nat
  verifiedCount : Nat
  successCount : Nat
  failureCount : Nat
  inconclusiveCount : Nat
  trustScore : F
  maturityLevel : Maturity
  lastFailureAt : Option Int
  autoDisabledReason : Option String
  promotionCandidateAt : Option Int
  promotionBlockedReason : Option String
deriving DecidableEq

/-- What the functions take from Python's strings: the text of a value that is no string, which
texts of numbers are zero, and the class `\d`. -/
structure Python where
  repr : Json → String
  isZero : String → Bool
  isDecimal : Char → Bool

/-- What they take from its floats; the integers of the source go in by `NatCast`. -/
class PyFloat (F : Type) extends NatCast F, OfScientific F, Add F, Sub F, Mul F, Div F,
    Max F, Min F, LT F where
  decEq : DecidableEq F
  decLt : DecidableLT F
  sqrt : F → F
  abs : F → F
  sum : List F → F

instance decidableEqFloat (F : Type) [PyFloat F] : DecidableEq F := PyFloat.decEq

instance decidableLTFloat (F : Type) [PyFloat F] : DecidableLT F := PyFloat.decLt

variable {F : Type}

/-- `str` of what `dict.get` returns. -/
def Python.str (py : Python) : Option Json → String
  | none | some .null => "None"
  | some (.bool true) => "True"
  | some (.bool false) => "False"
  | some (.str text) => text
  | some value => py.repr value

/-- `bool` of what `dict.get` returns. -/
def Python.truthy (py : Python) : Option Json → Bool
  | none | some .null => false
  | some (.bool b) => b
  | some (.num text) => !py.isZero text
  | some (.str text) => text ≠ ""
  | some (.arr items) => !items.isEmpty
  | some (.obj fields) => !fields.isEmpty

/-! ## One case -/

def cephMajor (py : Python) (version : Option String) : String :=
  let digits := ((version.getD "").toList.dropWhile fun c => !py.isDecimal c).takeWhile py.isDecimal
  if digits = [] then "unknown" else String.ofList digits

/-- `value or default` of a text column. -/
def orDefault (value : Option String) (default : String) : String :=
  match value with
  | none => default
  | some text => if text = "" then default else text

def scopeKey (py : Python) (c : Case F) : String :=
  "cluster=" ++ orDefault c.clusterId "legacy" ++
    "|ceph_major=" ++ cephMajor py c.cephVersion ++
    "|deployment=" ++ orDefault c.deploymentMode "unknown"

def isSyntheticCase (c : Case F) : Bool :=
  match c.preStateJson.loads (.obj []) with
  | some (.obj snapshot) =>
    match field snapshot "synthetic_injection" with
    | some (.bool b) => b
    | _ => false
  | _ => false

/-- `snapshot.get("registry")`, when both are objects. -/
def registry (snapshot : Option Json) : Option (List (String × Json)) :=
  match snapshot with
  | some (.obj fields) =>
    match field fields "registry" with
    | some (.obj registry) => some registry
    | _ => none
  | _ => none

def trustEligible (py : Python) (c : Case F) : Bool :=
  if isSyntheticCase c then false
  else if c.promptVersion = "legacy-backfill-v1" then false
  else
    match c.preflightSnapshotJson with
    | .blank | .malformed => false
    | .json snapshot =>
      match registry (some snapshot) with
      | some fields =>
        py.truthy (field fields "action_id") &&
          decide (py.str (field fields "version") = c.playbookVersion)
      | none => false

/-- `_verified_result` -/
inductive Result
  | success
  | failure
deriving DecidableEq, Repr

def badOperatorVerdict : Option Verdict → Bool
  | some .falsePositive | some .notSafe | some .ineffective => true
  | _ => false

def verifiedResult (c : Case F) : Option Result :=
  match c.outcome with
  | .verifiedFailed => some .failure
  | .verifiedSuccess =>
    if badOperatorVerdict c.operatorVerdict then some .failure
    else if [c.regressed1h, c.regressed24h, c.regressed7d].any (· = some true) then some .failure
    else some .success
  | _ => none

def Outcome.executed : Outcome → Bool
  | .other _ => false
  | _ => true

/-- `actions.get(id)` -/
def actionOf (actions : List Action) (id : String) : Option Action :=
  actions.find? fun a => a.id = id

/-- The group of a case, or `none` for one that is passed over. -/
def groupOf (py : Python) (actions : List Action) (c : Case F) : Option StatKey :=
  match actionOf actions c.actionId with
  | none => none
  | some a =>
    if !trustEligible py c then none
    else if a.actionId = "" then none
    else some ⟨a.actionId, c.playbookVersion, scopeKey py c⟩

/-! ## One row -/

variable [PyFloat F]

/-- `wilson_lower_bound` at the default `z`, of counts that are never negative. -/
def wilsonLowerBound (successes total : Nat) : F :=
  if total = 0 ∨ total < successes then 0.0
  else
    let z : F := 1.96
    let p : F := (successes : F) / (total : F)
    let z2 := z * z
    let denominator := ((1 : Nat) : F) + z2 / (total : F)
    let centre := p + z2 / ((2 * total : Nat) : F)
    let margin := z * PyFloat.sqrt
      ((p * (((1 : Nat) : F) - p) + z2 / ((4 * total : Nat) : F)) / (total : F))
    max 0.0 (min 1.0 ((centre - margin) / denominator))

/-- How many cases have a result. -/
def countResult (r : Result) (cases : List (Case F)) : Nat :=
  cases.countP fun c => verifiedResult c = some r

def disabledReason (cases : List (Case F)) : Option String :=
  let successes := countResult .success cases
  let verified := successes + countResult .failure cases
  if cases.any fun c => c.operatorVerdict = some .notSafe then
    some "operator marked a case unsafe"
  else if verified ≥ 4 ∧ (successes : F) / (verified : F) < 0.80 then
    some "verified success rate below 80%"
  else none

def maturity (before : Option (PlaybookStat F)) (cases : List (Case F)) : Maturity :=
  if cases = [] then .l0
  else if countResult .success cases + countResult .failure cases = 0 then .l1
  else if (disabledReason cases).isSome then .l1
  else if before.map PlaybookStat.maturityLevel = some .l3 then .l3
  else .l2

def failureTimes (cases : List (Case F)) : List Int :=
  cases.filterMap fun c => if verifiedResult c = some .failure then c.verifiedAt else none

/-- A row with the `values` of its cases; the row before, when there is one, keeps what is not
among them. -/
def aggregate (k : StatKey) (before : Option (PlaybookStat F))
    (cases : List (Case F)) : PlaybookStat F where
  key := k
  proposedCount := cases.length
  executedCount := cases.countP fun c => c.outcome.executed
  verifiedCount := countResult .success cases + countResult .failure cases
  successCount := countResult .success cases
  failureCount := countResult .failure cases
  inconclusiveCount := cases.countP fun c => c.outcome = .inconclusive
  trustScore := wilsonLowerBound (countResult .success cases)
    (countResult .success cases + countResult .failure cases)
  maturityLevel := maturity before cases
  lastFailureAt := (failureTimes cases).max?
  autoDisabledReason := disabledReason cases
  promotionCandidateAt := before.bind PlaybookStat.promotionCandidateAt
  promotionBlockedReason := before.bind PlaybookStat.promotionBlockedReason

/-- The reason of a row without cases. -/
def noEligible : String := "no eligible verified Case Memory in this scope"

/-- A row with the `empty_values`. -/
def PlaybookStat.cleared (s : PlaybookStat F) : PlaybookStat F where
  key := s.key
  proposedCount := 0
  executedCount := 0
  verifiedCount := 0
  successCount := 0
  failureCount := 0
  inconclusiveCount := 0
  trustScore := 0.0
  maturityLevel := .l0
  lastFailureAt := none
  autoDisabledReason := some noEligible
  promotionCandidateAt := none
  promotionBlockedReason := some noEligible

def statPlan (py : Python) (actions : List Action) :
    Plan (Case F) StatKey (PlaybookStat F) where
  key := groupOf py actions
  rowKey := PlaybookStat.key
  build := aggregate
  clear := PlaybookStat.cleared
  rowKey_build := fun _ _ _ => rfl
  rowKey_clear := fun _ => rfl

/-! ## The store -/

/-- The tables; `unique` is `uq_playbook_stats_scope`. -/
@[ext]
structure Store (F : Type) where
  cases : List (Case F)
  actions : List Action
  stats : List (PlaybookStat F)
  unique : (stats.map PlaybookStat.key).Nodup

/-- The row of a key. -/
def Store.stat (st : Store F) (k : StatKey) : Option (PlaybookStat F) :=
  st.stats.find? fun s => s.key = k

/-- The maturity of a key, when it has a row. -/
def Store.level (st : Store F) (k : StatKey) : Option Maturity :=
  (st.stat k).map PlaybookStat.maturityLevel

/-- `recompute_playbook_stats`: the cases by group, a row for each group, and the other rows
cleared; and how many rows were changed. -/
def recompute (py : Python) (st : Store F) : Store F × Nat :=
  let after := (statPlan py st.actions).refresh st.cases st.stats
  ({ st with stats := after.1, unique := unique_refresh (P := statPlan py st.actions) st.unique _ },
    after.2)

def Store.eligible (py : Python) (st : Store F) (k : StatKey) : List (Case F) :=
  st.cases.filter fun c => groupOf py st.actions c = some k

/-! ## Aggregates -/

theorem maturity_l3 {before : Option (PlaybookStat F)} {cases : List (Case F)}
    (h : maturity before cases = .l3) : before.map PlaybookStat.maturityLevel = some .l3 := by
  unfold maturity at h
  split at h
  · cases h
  · split at h
    · cases h
    · split at h
      · cases h
      · split at h
        · assumption
        · cases h

theorem maturity_again (k : StatKey) (before : Option (PlaybookStat F)) (cases : List (Case F)) :
    maturity (some (aggregate k before cases)) cases = maturity before cases := by
  show maturity (some { aggregate k before cases with
    maturityLevel := maturity before cases }) cases = _
  unfold maturity
  dsimp only [Option.map_some]
  split
  · rfl
  · split
    · rfl
    · split
      · rfl
      · split
        · rfl
        · rfl

theorem aggregate_again (k : StatKey) (before : Option (PlaybookStat F)) (cases : List (Case F)) :
    aggregate k (some (aggregate k before cases)) cases = aggregate k before cases := by
  have hmaturity := maturity_again k before cases
  unfold aggregate at hmaturity ⊢
  rw [hmaturity]
  rfl

section

variable {cases others : List (Case F)} (h : cases.Perm others)

include h

omit [PyFloat F] in
theorem countResult_perm (r : Result) : countResult r cases = countResult r others :=
  h.countP_eq _

omit [PyFloat F] in
theorem failureTimes_perm : (failureTimes cases).max? = (failureTimes others).max? := by
  have hperm : (failureTimes cases).Perm (failureTimes others) := h.filterMap _
  apply Option.ext
  intro at'
  rw [List.max?_eq_some_iff, List.max?_eq_some_iff, hperm.mem_iff]
  simp only [hperm.mem_iff]

theorem disabledReason_perm : disabledReason cases = disabledReason others := by
  have hmarked : (cases.any fun c => c.operatorVerdict = some .notSafe) =
      others.any fun c => c.operatorVerdict = some .notSafe := h.any_eq
  unfold disabledReason
  rw [hmarked, countResult_perm h .success, countResult_perm h .failure]

theorem maturity_perm (before : Option (PlaybookStat F)) :
    maturity before cases = maturity before others := by
  unfold maturity
  rw [countResult_perm h .success, countResult_perm h .failure, disabledReason_perm h]
  by_cases hnil : cases = []
  · have hother : others = [] := (h.symm.trans (List.Perm.of_eq hnil)).eq_nil
    rw [if_pos hnil, if_pos hother]
  · have hother : others ≠ [] := fun hnil' => hnil (h.trans (List.Perm.of_eq hnil')).eq_nil
    rw [if_neg hnil, if_neg hother]

theorem aggregate_perm (k : StatKey) (before : Option (PlaybookStat F)) :
    aggregate k before cases = aggregate k before others := by
  unfold aggregate
  rw [countResult_perm h .success, countResult_perm h .failure, disabledReason_perm h,
    maturity_perm h, failureTimes_perm h, h.length_eq, h.countP_eq, h.countP_eq]

end

/-! ## A recompute -/

theorem row_recompute (py : Python) (st : Store F) (k : StatKey) :
    (recompute py st).1.stat k =
      if st.eligible py k = [] then (st.stat k).map PlaybookStat.cleared
      else some (aggregate k (st.stat k) (st.eligible py k)) :=
  row_refresh (P := statPlan py st.actions) st.cases st.stats k

/-- An immediate second call changes nothing. -/
theorem recompute_idempotent (py : Python) (st : Store F) :
    recompute py (recompute py st).1 = ((recompute py st).1, 0) := by
  have hagain := refresh_refresh (P := statPlan py st.actions) (aggregate_again (F := F))
    (fun _ => rfl) st.cases st.stats
  unfold recompute
  dsimp only
  rw [Prod.mk.injEq]
  constructor
  · apply Store.ext
    · rfl
    · rfl
    · show ((statPlan py st.actions).refresh st.cases _).1 = _
      rw [hagain]
  · exact congrArg Prod.snd hagain

theorem recompute_perm (py : Python) (st : Store F) {cases : List (Case F)}
    (h : st.cases.Perm cases) :
    (recompute py st).1.stats.Perm (recompute py { st with cases := cases }).1.stats ∧
      (recompute py st).2 = (recompute py { st with cases := cases }).2 :=
  refresh_perm (P := statPlan py st.actions) (fun k o _ _ hperm => aggregate_perm hperm k o) h
    st.unique

variable {k : StatKey}

theorem level_recompute (py : Python) (st : Store F) (h : (recompute py st).1.level k = some .l3) :
    st.level k = some .l3 := by
  unfold Store.level at h ⊢
  rw [row_recompute] at h
  split at h
  · rw [Option.map_map] at h
    cases hstat : st.stat k with
    | none | some =>
      rw [hstat] at h
      cases h
  · exact maturity_l3 (Option.some.inj h)

/-! ## Promotion -/

/-- `30` days. -/
def reviewWindow : Int := 30 * 24 * 60 * 60 * 1000000

/-- `json.loads(...)` of the contract, and `{}` when there is none. -/
def loadContract (c : Case F) : List (String × Json) :=
  (registry (c.preflightSnapshotJson.loads .null)).getD []

/-- `value in texts`, which no list and no object can be asked. -/
def isIn (texts : List String) : Option Json → Option Bool
  | some (.arr _) | some (.obj _) => none
  | some (.str text) => some (texts.contains text)
  | _ => some false

/-- `contract.get("target_schema") in {None, "manual"}` -/
def targetIsManual (contract : List (String × Json)) : Option Bool :=
  match field contract "target_schema" with
  | none | some .null => some true
  | value => isIn ["manual"] value

/-- The cases of a row in the window, by time and id. -/
def recentCases (py : Python) (now : Int) (st : Store F) (k : StatKey) : List (Case F) :=
  let found := st.cases.filter fun c =>
    c.playbookVersion = k.playbookVersion &&
    (c.verifiedAt.any fun at' => decide (now - reviewWindow ≤ at')) &&
    ((actionOf st.actions c.actionId).any fun a => a.actionId = k.playbookId) &&
    decide (scopeKey py c = k.scopeKey) && trustEligible py c && (verifiedResult c).isSome
  found.mergeSort fun a b =>
    if a.verifiedAt.getD 0 = b.verifiedAt.getD 0 then decide (a.id ≤ b.id)
    else decide (a.verifiedAt.getD 0 < b.verifiedAt.getD 0)

def consecutive (cases : List (Case F)) : Nat :=
  (cases.reverse.takeWhile fun c => verifiedResult c = some .success).length

def confidenceErrors (cases : List (Case F)) : List F :=
  cases.filterMap fun c => c.diagnosisConfidence.map fun confidence =>
    PyFloat.abs (confidence - if verifiedResult c = some .success then 1.0 else 0.0)

/-- The condition of each reason, in their order; `none` where one raises. -/
def promotionReasons (py : Python) (cases : List (Case F)) : Option (List String) := do
  let count (holds : Case F → Bool) : F := ((cases.countP holds : Nat) : F)
  let total : F := (cases.length : F)
  let errors := confidenceErrors cases
  let contract := (cases.getLast?.map loadContract).getD []
  let manual ← targetIsManual contract
  let autonomous ← isIn ["L3", "L4", "L5"] (field contract "max_autonomy")
  let checks : List (Bool × String) := [
    (cases.length < 10, s!"verified cases {cases.length}/10"),
    (cases.isEmpty || decide (count (fun c => verifiedResult c = some .success) / total < 0.98),
      "30d success rate below 98%"),
    (!cases.isEmpty &&
        decide (0.01 < count (fun c => c.operatorVerdict = some .falsePositive) / total),
      "false-positive rate above 1%"),
    (!cases.isEmpty &&
        decide (0.02 < count (fun c => c.rollbackStateJson.any (· ≠ "")) / total),
      "rollback rate above 2%"),
    (consecutive cases < 5, s!"consecutive successes {consecutive cases}/5"),
    (errors.isEmpty, "confidence calibration unavailable"),
    (!errors.isEmpty && decide (0.10 < PyFloat.sum errors / (errors.length : F)),
      "confidence calibration error above 0.10"),
    (manual || !py.truthy (field contract "max_targets"), "target is not deterministic"),
    (!py.truthy (field contract "preflight"), "preflight unavailable"),
    (!py.truthy (field contract "postcheck"), "post-check unavailable"),
    (!autonomous, "playbook autonomy ceiling below L3"),
    (cases.any fun c => c.operatorVerdict = some .notSafe,
      "recent severe/unsafe verdict exists")]
  return (checks.filter Prod.fst).map Prod.snd

/-- A row with what was proposed. -/
def PlaybookStat.propose (candidateAt : Option Int) (blocked : Option String)
    (s : PlaybookStat F) : PlaybookStat F :=
  { s with promotionCandidateAt := candidateAt, promotionBlockedReason := blocked }

/-- What `evaluate_promotion_candidates` makes of a row. -/
def evaluateStat (py : Python) (now : Int) (st : Store F) (s : PlaybookStat F) :
    Option (PlaybookStat F) :=
  if s.proposedCount = 0 ∧ s.autoDisabledReason = some noEligible then
    some (s.propose none s.autoDisabledReason)
  else if s.maturityLevel = .l3 then some (s.propose none (some "already promoted to L3"))
  else
    (promotionReasons py (recentCases py now st s.key)).map fun reasons =>
      if reasons = [] then s.propose (some (s.promotionCandidateAt.getD now)) none
      else s.propose none (some ("; ".intercalate reasons))

theorem evaluateStat_same {py : Python} {now : Int} {st : Store F} {s s' : PlaybookStat F}
    (h : evaluateStat py now st s = some s') :
    ∃ candidateAt blocked, s' = s.propose candidateAt blocked := by
  unfold evaluateStat at h
  split at h
  · exact ⟨_, _, (Option.some.inj h).symm⟩
  · split at h
    · exact ⟨_, _, (Option.some.inj h).symm⟩
    · obtain ⟨reasons, -, heq⟩ := Option.map_eq_some_iff.mp h
      split at heq
      · exact ⟨_, _, heq.symm⟩
      · exact ⟨_, _, heq.symm⟩

/-- The row after an evaluation, or the row itself where one raises. -/
def evaluatedStat (py : Python) (now : Int) (st : Store F) (s : PlaybookStat F) :
    PlaybookStat F :=
  (evaluateStat py now st s).getD s

theorem evaluatedStat_same (py : Python) (now : Int) (st : Store F) (s : PlaybookStat F) :
    ∃ candidateAt blocked, evaluatedStat py now st s = s.propose candidateAt blocked := by
  unfold evaluatedStat
  cases h : evaluateStat py now st s with
  | none => exact ⟨s.promotionCandidateAt, s.promotionBlockedReason, rfl⟩
  | some s' => exact evaluateStat_same h

theorem evaluatedStat_key (py : Python) (now : Int) (st : Store F) (s : PlaybookStat F) :
    (evaluatedStat py now st s).key = s.key := by
  obtain ⟨candidateAt, blocked, heq⟩ := evaluatedStat_same py now st s
  rw [heq]
  rfl

theorem evaluatedStat_maturityLevel (py : Python) (now : Int) (st : Store F)
    (s : PlaybookStat F) : (evaluatedStat py now st s).maturityLevel = s.maturityLevel := by
  obtain ⟨candidateAt, blocked, heq⟩ := evaluatedStat_same py now st s
  rw [heq]
  rfl

/-- `evaluate_promotion_candidates`, with how many rows were changed; `none` when it raises,
and nothing is committed then. -/
def evaluate (py : Python) (now : Int) (st : Store F) : Option (Store F × Nat) :=
  if st.stats.all fun s => (evaluateStat py now st s).isSome then
    some ({ st with
        stats := st.stats.map (evaluatedStat py now st)
        unique := unique_map (P := statPlan py st.actions) st.unique
          fun s _ => evaluatedStat_key py now st s },
      st.stats.countP fun s => evaluatedStat py now st s ≠ s)
  else none

theorem level_evaluate {py : Python} {now : Int} {st : Store F} {out : Store F × Nat}
    (h : evaluate py now st = some out) (k : StatKey) : out.1.level k = st.level k := by
  unfold evaluate at h
  split at h
  · rw [← Option.some.inj h]
    have hrow := @row_map _ _ _ (statPlan py st.actions) st.stats _ _
      (fun s _ => evaluatedStat_key py now st s) k
    show Option.map PlaybookStat.maturityLevel (Plan.row (statPlan py st.actions) _ k) = _
    rw [hrow, Option.map_map]
    apply Option.map_congr
    intro s _
    exact evaluatedStat_maturityLevel py now st s
  · cases h

/-! ## Runs -/

/-- A call, or cases and Actions that others changed. -/
inductive Event (F : Type)
  | recompute
  | evaluate (now : Int)
  | update (cases : List (Case F)) (actions : List Action)

def step (py : Python) (st : Store F) : Event F → Store F
  | .recompute => (recompute py st).1
  | .evaluate now =>
    match evaluate py now st with
    | some out => out.1
    | none => st
  | .update cases actions => { st with cases := cases, actions := actions }

def run (py : Python) (st : Store F) (events : List (Event F)) : Store F :=
  events.foldl (step py) st

theorem level_step (py : Python) (st : Store F) (e : Event F)
    (h : (step py st e).level k = some .l3) : st.level k = some .l3 := by
  cases e with
  | recompute => exact level_recompute py st h
  | evaluate now =>
    dsimp only [step] at h
    split at h
    · rename_i out hout
      rw [← level_evaluate hout k]
      exact h
    · exact h
  | update cases actions => exact h

theorem level_run (py : Python) (events : List (Event F)) :
    ∀ st : Store F, (run py st events).level k = some .l3 → st.level k = some .l3 := by
  induction events with
  | nil =>
    intro st h
    exact h
  | cons e events ih =>
    intro st h
    exact level_step py st e (ih (step py st e) h)

/-- A recompute is idempotent, does not depend on the order of the cases, and leaves under
every key the aggregate of its eligible cases or a cleared row; and in every run, a row that is
L3 at one time was L3 at every time before. -/
theorem trust_aggregates (py : Python) (st : Store F) :
    recompute py (recompute py st).1 = ((recompute py st).1, 0) ∧
    (∀ cases, st.cases.Perm cases →
      (recompute py st).1.stats.Perm (recompute py { st with cases := cases }).1.stats ∧
        (recompute py st).2 = (recompute py { st with cases := cases }).2) ∧
    (∀ k, (recompute py st).1.stat k =
      if st.eligible py k = [] then (st.stat k).map PlaybookStat.cleared
      else some (aggregate k (st.stat k) (st.eligible py k))) ∧
    ∀ (earlier later : List (Event F)) (k : StatKey),
      (run py st (earlier ++ later)).level k = some .l3 →
        (run py st earlier).level k = some .l3 := by
  refine ⟨recompute_idempotent py st, ?_, row_recompute py st, ?_⟩
  · intro cases h
    exact recompute_perm py st h
  · intro earlier later k h
    unfold run at h
    rw [List.foldl_append] at h
    exact level_run py later _ h

end CephAi.Ports.TrustEngine
