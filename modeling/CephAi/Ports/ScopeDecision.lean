import CephAi.Ports.ModelPromotion
import Mathlib.Algebra.Order.Ring.Rat
import Mathlib.Data.List.Sort
import Mathlib.Data.Prod.Lex
import Mathlib.Order.WithBot
import Mathlib.Tactic.Push

/-!
# The best candidate of a scope

`evaluate_guarded_promotion` and `scope_decision` of `shared/model_registry.py`, the guard of
`CephAi.Ports.ModelPromotion`: of the candidates of a scope that pass, the best one may be
requested.  The guards that read the evidence JSON are a parameter.

## Main results

* `allowed_iff` — which rows get an allowed decision.
* `best_iff` — when these are the best candidates only.
-/

namespace CephAi.Ports.ScopeDecision

open ShadowRegistry ModelPromotion Verified.Table

/-- The columns of an evaluation that are compared; `evidence` is the JSON. -/
structure Measures (E : Type) where
  activeEvaluated : Int
  candidateEvaluated : Int
  activeMae : Option ℚ
  candidateMae : Option ℚ
  activeSmape : Option ℚ
  candidateSmape : Option ℚ
  activeFalsePositiveRate : Option ℚ
  candidateFalsePositiveRate : Option ℚ
  evidence : E
deriving DecidableEq, Repr

/-- A `PromotionPolicy`; `default_promotion_policy` asks for one evaluation at least.  The bounds
on the evidence are with its guards. -/
structure Policy where
  minimumOutcomes : Int
  requiredConsecutiveEvaluations : Nat
  maxFalsePositiveRateIncrease : ℚ
  minimumMaeImprovement : ℚ
  minimumSmapeImprovement : ℚ
  maxEvaluationAge : Int
  required_pos : 0 < requiredConsecutiveEvaluations

abbrev Rows (E : Type) := List (Evaluation (Measures E))

variable {E : Type}

/-- The guards of the evidence, by their names. -/
abbrev EvidenceGuards (E : Type) := List (String × (E → Bool))

/-- The candidate is better than the active model by a margin. -/
def improved (margin : ℚ) : Option ℚ → Option ℚ → Bool
  | some active, some candidate => decide (candidate ≤ active - margin)
  | _, _ => false

def falsePositivesKept (margin : ℚ) : Option ℚ → Option ℚ → Bool
  | none, none => true
  | some active, some candidate => decide (candidate ≤ active + margin)
  | _, _ => false

/-- The last evaluations, as many as the policy asks for. -/
def recent (p : Policy) (rows : Rows E) : Rows E :=
  let ordered := rows.insertionSort fun a b => a.targetAt ≤ b.targetAt
  ordered.drop (ordered.length - p.requiredConsecutiveEvaluations)

def checks (guards : EvidenceGuards E) (p : Policy) (rows : Rows E) (now : Int) :
    List (String × Bool) :=
  [("minimum_outcomes", rows.all fun r =>
      p.minimumOutcomes ≤ min r.measures.activeEvaluated r.measures.candidateEvaluated),
    ("fresh_evaluations", rows.getLast?.any fun r => now - p.maxEvaluationAge ≤ r.targetAt),
    ("mae_improved", rows.all fun r =>
      improved p.minimumMaeImprovement r.measures.activeMae r.measures.candidateMae),
    ("smape_improved", rows.all fun r =>
      improved p.minimumSmapeImprovement r.measures.activeSmape r.measures.candidateSmape),
    ("false_positive_rate_guard", rows.all fun r =>
      falsePositivesKept p.maxFalsePositiveRateIncrease r.measures.activeFalsePositiveRate
        r.measures.candidateFalsePositiveRate)] ++
    guards.map fun g => (g.1, rows.all fun r => g.2 r.measures.evidence)

def evaluateGuardedPromotion (guards : EvidenceGuards E) (p : Policy) (rows : Rows E)
    (now : Int) : PromotionDecision :=
  let rows := recent p rows
  if rows.length < p.requiredConsecutiveEvaluations then
    ⟨false, "cần " ++ toString p.requiredConsecutiveEvaluations ++
      " evaluation liên tiếp, hiện có " ++ toString rows.length⟩
  else
    let failed := ((checks guards p rows now).filter fun c => !c.2).map Prod.fst
    if failed = [] then
      ⟨true, "candidate đạt đủ dữ liệu, MAE/SMAPE tốt hơn liên tục " ++
        "và không tăng false-positive rate"⟩
    else ⟨false, "guard bị chặn: " ++ ", ".intercalate failed⟩

/-- `_recent_candidate_mae`; without a value it is infinite. -/
def recentCandidateMae (p : Policy) (rows : Rows E) : WithTop ℚ :=
  let values := (recent p rows).filterMap fun r => r.measures.candidateMae
  if values = [] then ⊤ else ((values.sum / values.length : ℚ) : WithTop ℚ)

def latestEvaluations (db : Registry (Measures E)) (candidate active : ModelRow) : Rows E :=
  (db.evaluations.filter fun e =>
    e.candidateModelId = candidate.id ∧ e.activeModelId = active.id).insertionSort
      fun a b => a.targetAt ≤ b.targetAt

abbrev Rank := WithTop ℚ ×ₗ ℤ ×ₗ ℕ

/-- The order of the candidates; ids are numbers in the order of their texts. -/
def rank (p : Policy) (db : Registry (Measures E)) (active model : ModelRow) : Rank :=
  toLex (recentCandidateMae p (latestEvaluations db model active),
    toLex (model.trainingWindowHours, model.id))

def isCandidate (r : ModelRow) : Prop := r.status = .candidate ∨ r.status = .shadow

instance (r : ModelRow) : Decidable (isCandidate r) := inferInstanceAs (Decidable (_ ∨ _))

/-- The other candidates of a row's scope. -/
def siblings (db : Registry (Measures E)) (candidate : ModelRow) : List ModelRow :=
  db.models.filter fun r => scopeOf r = scopeOf candidate ∧ isCandidate r ∧ r.id ≠ candidate.id

def scopeDecision (guards : EvidenceGuards E) (p : Policy) : Guard (Measures E) :=
  fun db candidate active now =>
    let decide := fun model =>
      evaluateGuardedPromotion guards p (latestEvaluations db model active) now
    if (decide candidate).allowed = false then .ok (decide candidate)
    else
      match (siblings db candidate).find? fun sibling =>
        rank p db active sibling < rank p db active candidate && (decide sibling).allowed with
      | some sibling => .ok ⟨false, "guard bị chặn: best_in_scope (candidate " ++
          sibling.identity.version ++ " của cùng scope tốt hơn)"⟩
      | none => .ok (decide candidate)

/-- The row passes the guard against an active row. -/
def Passes (guards : EvidenceGuards E) (p : Policy) (db : Registry (Measures E)) (now : Int)
    (active r : ModelRow) : Prop :=
  (evaluateGuardedPromotion guards p (latestEvaluations db r active) now).allowed = true

/-- `request_promotion` gives an allowed decision. -/
def Allowed (guards : EvidenceGuards E) (p : Policy) (w : World (Measures E)) (actor : String)
    (now : Int) (r : ModelRow) : Prop :=
  ∃ d, (requestPromotion (scopeDecision guards p) w r.id actor now).2 = .ok d ∧ d.allowed = true

/-- The best of the candidates of a scope that pass. -/
structure Best (guards : EvidenceGuards E) (p : Policy) (db : Registry (Measures E)) (now : Int)
    (active r : ModelRow) : Prop where
  candidate : isCandidate r
  passes : Passes guards p db now active r
  least : ∀ s ∈ db.models, scopeOf s = scopeOf r → isCandidate s → Passes guards p db now active s →
    rank p db active r ≤ rank p db active s

/-- Of a scope with an active row, the best candidate that passes is allowed, if it has its
dimensions, and nothing else. -/
structure BestAllowed (guards : EvidenceGuards E) (p : Policy) (w : World (Measures E))
    (actor : String) (now : Int) (active : ModelRow) : Prop where
  best : ∀ r ∈ w.registry.models, scopeOf r = scopeOf active →
    Allowed guards p w actor now r → Best guards p w.registry now active r
  one : ∀ r ∈ w.registry.models, ∀ s ∈ w.registry.models, scopeOf r = scopeOf active →
    scopeOf s = scopeOf active → Allowed guards p w actor now r → Allowed guards p w actor now s →
      r = s
  allowed : ∀ r ∈ w.registry.models, scopeOf r = scopeOf active → scopeReady r.dimensions = true →
    Best guards p w.registry now active r → Allowed guards p w actor now r

variable {guards : EvidenceGuards E} {p : Policy} {db : Registry (Measures E)}
    {w : World (Measures E)} {actor : String} {now : Int} {active r s : ModelRow}

theorem eq_of_id_eq (hr : r ∈ db.models) (hs : s ∈ db.models) (hid : r.id = s.id) : r = s := by
  have hrow : get db.models r.id = some r := db.get_of_mem hr
  rw [hid] at hrow
  exact Option.some.inj (hrow.symm.trans (db.get_of_mem hs))

theorem activeBeside_scope (h : scopeOf r = scopeOf s) : activeBeside db r = activeBeside db s := by
  have htype : r.identity.scopeType = s.identity.scopeType := congrArg Prod.fst h
  have hkey : r.identity.scopeKey = s.identity.scopeKey := congrArg Prod.snd h
  unfold activeBeside
  rw [htype, hkey]

/-- **A row is allowed** with its dimensions, when it passes and no other candidate of its scope
that passes is before it. -/
theorem allowed_iff (hactive : activeBeside w.registry active = .ok (some active))
    (hr : r ∈ w.registry.models) (hscope : scopeOf r = scopeOf active) :
    Allowed guards p w actor now r ↔ scopeReady r.dimensions = true ∧
      Passes guards p w.registry now active r ∧
        ∀ s ∈ w.registry.models, scopeOf s = scopeOf r → isCandidate s →
          Passes guards p w.registry now active s →
            rank p w.registry active r ≤ rank p w.registry active s := by
  unfold Allowed requestPromotion
  rw [w.registry.get_of_mem hr]
  dsimp only
  rw [activeBeside_scope hscope, hactive]
  dsimp only
  split_ifs with hready
  · simp [hready]
  · rw [Bool.not_eq_false] at hready
    simp only [hready, true_and]
    unfold scopeDecision
    dsimp only
    split_ifs with hpasses
    · simp [Passes, hpasses]
    · rw [Bool.not_eq_false] at hpasses
      split
      · rename_i decision hdecision
        split at hdecision
        · cases hdecision
        · cases hdecision
      · rename_i d hd
        split at hd
        · rename_i sibling hfound
          cases hd
          obtain ⟨hmem, hsibling⟩ := List.mem_filter.mp (List.mem_of_find?_eq_some hfound)
          obtain ⟨hsame, hcandidate, -⟩ := of_decide_eq_true hsibling
          have hbetter := List.find?_some hfound
          simp only [Bool.and_eq_true, decide_eq_true_eq] at hbetter
          refine iff_of_false (by simp) fun h => ?_
          exact hbetter.1.not_ge (h.2 sibling hmem hsame hcandidate hbetter.2)
        · rename_i hnone
          cases hd
          refine iff_of_true ⟨_, rfl, hpasses⟩ ⟨hpasses, fun s hs hsame hcandidate hbetter => ?_⟩
          by_cases hid : s.id = r.id
          · rw [eq_of_id_eq hs hr hid]
          · have hmem : s ∈ siblings w.registry r :=
              List.mem_filter.mpr ⟨hs, decide_eq_true ⟨hsame, hcandidate, hid⟩⟩
            have hnot := List.find?_eq_none.mp hnone s hmem
            by_contra hless
            exact hnot (Bool.and_eq_true_iff.mpr ⟨decide_eq_true (not_le.mp hless), hbetter⟩)

/-- **The best candidate alone** is allowed exactly when every other row of the scope with its
dimensions, one that is active, retired or blocked, fails the guard or comes after a candidate that
passes: the status of the row that is asked for is never read. -/
theorem best_iff (hactive : activeBeside w.registry active = .ok (some active)) :
    BestAllowed guards p w actor now active ↔
      ∀ r ∈ w.registry.models, scopeOf r = scopeOf active → ¬isCandidate r →
        scopeReady r.dimensions = true → Passes guards p w.registry now active r →
          ∃ s ∈ w.registry.models, scopeOf s = scopeOf active ∧ isCandidate s ∧
            Passes guards p w.registry now active s ∧
              rank p w.registry active s < rank p w.registry active r := by
  constructor
  · intro h r hr hscope hstatus hready hpasses
    by_contra hnone
    push Not at hnone
    apply hstatus
    refine (h.best r hr hscope
      ((allowed_iff hactive hr hscope).mpr ⟨hready, hpasses, ?_⟩)).candidate
    intro s hs hsame hcandidate hbetter
    exact hnone s hs (hsame.trans hscope) hcandidate hbetter
  · intro h
    have hbest : ∀ r ∈ w.registry.models, scopeOf r = scopeOf active →
        Allowed guards p w actor now r → Best guards p w.registry now active r := by
      intro r hr hscope hallowed
      obtain ⟨hready, hpasses, hleast⟩ := (allowed_iff hactive hr hscope).mp hallowed
      refine ⟨?_, hpasses, hleast⟩
      by_contra hstatus
      obtain ⟨s, hs, hsame, hcandidate, hbetter, hless⟩ := h r hr hscope hstatus hready hpasses
      exact hless.not_ge (hleast s hs (hsame.trans hscope.symm) hcandidate hbetter)
    refine ⟨hbest, ?_, ?_⟩
    · intro r hr s hs hscope hscope' hallowed hallowed'
      have hfirst := hbest r hr hscope hallowed
      have hsecond := hbest s hs hscope' hallowed'
      have hsame := hscope.trans hscope'.symm
      have hrank := le_antisymm (hfirst.least s hs hsame.symm hsecond.candidate hsecond.passes)
        (hsecond.least r hr hsame hfirst.candidate hfirst.passes)
      exact eq_of_id_eq hr hs (congrArg (fun k : Rank => (ofLex (ofLex k).2).2) hrank)
    · intro r hr hscope hready hr'
      exact (allowed_iff hactive hr hscope).mpr ⟨hready, hr'.passes, hr'.least⟩

/-! ## A retired row -/

def row (id : Nat) (status : ModelStatus) : ModelRow where
  id := id
  identity := ⟨"VOLUME", "a|b|c|d", "volume-forecast", toString id, "river", "volume-v1"⟩
  dimensions := ⟨some scopeSchema, some "a", some "volume", some "b", none, some "d", some 24⟩
  trainingWindowHours := 24
  status := status
  promotionReason := none
  blockedReason := none
  activeSince := none
  retiredAt := none
  createdAt := 0
  updatedAt := 0

/-- A row with one evaluation, a better one, beside the active row. -/
def oneEvaluated (status : ModelStatus) : World (Measures Unit) where
  registry :=
    { models := [row 0 .active, row 1 status]
      unique := List.nodup_cons.mpr ⟨by simp [row, Keyed.key], List.nodup_singleton _⟩
      evaluations := [⟨1, 0, 0, 0, ⟨20, 20, some 2, some 1, some 2, some 1, none, none, ()⟩⟩]
      audits := [] }
  audits := []
  runtime := fun _ => ⟨[], List.nodup_nil⟩

def oneEvaluation : Policy := ⟨20, 1, 0, 0, 0, 48 * 3600, by decide⟩

theorem best_of_shadow :
    BestAllowed [] oneEvaluation (oneEvaluated .shadow) "operator" 0 (row 0 .active) := by
  refine (best_iff (by decide)).mpr fun r hr _ hstatus _ hpasses => ?_
  rcases List.mem_pair.mp hr with rfl | rfl
  · exact absurd hpasses (by unfold Passes; decide +kernel)
  · exact absurd (.inr rfl) hstatus

/-- A retired row gets an allowed decision. -/
theorem retired_allowed :
    ¬BestAllowed [] oneEvaluation (oneEvaluated .retired) "operator" 0 (row 0 .active) := by
  intro h
  have hpasses : Passes [] oneEvaluation (oneEvaluated .retired).registry 0 (row 0 .active)
      (row 1 .retired) := by
    unfold Passes
    decide +kernel
  have hallowed : Allowed [] oneEvaluation (oneEvaluated .retired) "operator" 0
      (row 1 .retired) := by
    refine (allowed_iff (by decide) (by decide) (by decide)).mpr
      ⟨by decide, hpasses, fun s hs _ hstatus _ => ?_⟩
    rcases List.mem_pair.mp hs with rfl | rfl
    · exact absurd hstatus (by decide)
    · exact le_rfl
  have hbest := h.best (row 1 .retired) (by decide) (by decide) hallowed
  exact absurd hbest.candidate (by decide)

end CephAi.Ports.ScopeDecision
