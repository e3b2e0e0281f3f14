import CephAi.Verified.Sampling
import Mathlib.Tactic.FieldSimp

/-!
# Off-policy evaluation of remediation policies

`ips`, `snips`, `doubly_robust` and `effective_sample_size` of
`shared/off_policy_evaluation.py`, over rational numbers.  A policy answers a dict of
probabilities, which is a list of pairs without a key twice.

The log is drawn: for each context the logging policy takes one of its actions, with a known
positive probability, and the reward is a function of the two.

## Main results

* `sum_weighted` — what a draw of the logging policy adds is, in expectation, what the target
  policy expects.
* `estimates_sound` — both corrected estimates are unbiased, `snips` is a mean of rewards that
  have weight, and the effective sample size is at most the number of decisions.
-/

namespace CephAi.Ports.OffPolicy

open Verified.Sampling

variable {X A : Type} [DecidableEq A]

/-- A decision of the log. -/
structure Logged (X A : Type) where
  context : X
  action : A
  propensity : ℚ
  reward : ℚ
deriving DecidableEq

/-- `target(context)`: the probability of each action. -/
abbrev Policy (X A : Type) := X → List (A × ℚ)

abbrev RewardModel (X A : Type) := X → A → ℚ

/-- `.get(action, 0.0)` -/
def get (probabilities : List (A × ℚ)) (action : A) : ℚ :=
  (probabilities.lookup action).getD 0

/-- The `ValueError` about a propensity outside (0, 1], with what was got. -/
structure PropensityError where
  got : ℚ
deriving DecidableEq

/-- The weight of a decision whose propensity is in (0, 1]. -/
def weight (target : Policy X A) (item : Logged X A) : ℚ :=
  get (target item.context) item.action / item.propensity

def weights (logged : List (Logged X A)) (target : Policy X A) :
    Except PropensityError (List ℚ) :=
  logged.mapM fun item =>
    if 0 < item.propensity ∧ item.propensity ≤ 1 then .ok (weight target item)
    else .error ⟨item.propensity⟩

/-- The sum of `w * item.reward` over the log. -/
def weightedRewards (weights : List ℚ) (logged : List (Logged X A)) : ℚ :=
  ((weights.zip logged).map fun (w, item) => w * item.reward).sum

def ips (logged : List (Logged X A)) (target : Policy X A) :
    Except PropensityError (Option ℚ) :=
  if logged.isEmpty then .ok none
  else do
    let weights ← weights logged target
    return some (weightedRewards weights logged / logged.length)

def snips (logged : List (Logged X A)) (target : Policy X A) :
    Except PropensityError (Option ℚ) := do
  let weights ← weights logged target
  let total := weights.sum
  if logged.isEmpty ∨ total = 0 then return none
  return some (weightedRewards weights logged / total)

/-- What the reward model expects of the target policy in a context. -/
def direct (target : Policy X A) (rewardModel : RewardModel X A) (context : X) : ℚ :=
  ((target context).map fun (action, p) => p * rewardModel context action).sum

def doublyRobust (logged : List (Logged X A)) (target : Policy X A)
    (rewardModel : RewardModel X A) : Except PropensityError (Option ℚ) :=
  if logged.isEmpty then .ok none
  else do
    let weights ← weights logged target
    let total := ((logged.zip weights).map fun (item, weight) =>
      direct target rewardModel item.context +
        weight * (item.reward - rewardModel item.context item.action)).sum
    return some (total / logged.length)

def effectiveSampleSize (logged : List (Logged X A)) (target : Policy X A) :
    Except PropensityError ℚ := do
  let weights ← weights logged target
  let squares := (weights.map fun w => w * w).sum
  return if squares ≠ 0 then weights.sum ^ 2 / squares else 0

/-! ## The two policies -/

/-- A logging policy: it takes an action of a finite set, each with a positive probability. -/
structure Logging (X A : Type) extends Sampler X A where
  positive : ∀ x, ∀ a ∈ outcomes x, 0 < prob x a

/-- A target policy that only takes what the logging policy may take. -/
structure Target (L : Logging X A) where
  policy : Policy X A
  keys : ∀ x, ((policy x).map Prod.fst).Nodup
  nonneg : ∀ x, ∀ q ∈ policy x, 0 ≤ q.2
  total : ∀ x, ((policy x).map Prod.snd).sum = 1
  supported : ∀ x, ∀ q ∈ policy x, 0 < q.2 → q.1 ∈ L.outcomes x

/-- What is logged of a decision. -/
def Logging.log (L : Logging X A) (reward : RewardModel X A) (x : X) (a : A) : Logged X A :=
  ⟨x, a, L.prob x a, reward x a⟩

/-- The mean over the contexts of what the target policy expects. -/
def meanReward (target : Policy X A) (reward : RewardModel X A) (xs : List X) : ℚ :=
  (xs.map (direct target reward)).sum / xs.length

/-- The number that an estimate answers. -/
def valueOf (estimate : Except PropensityError (Option ℚ)) : ℚ :=
  match estimate with
  | .ok (some value) => value
  | _ => 0

/-! ## The weights -/

theorem weights_eq_ok {logged : List (Logged X A)} {target : Policy X A} {ws : List ℚ}
    (h : weights logged target = .ok ws) :
    ws = logged.map (weight target) ∧ ∀ item ∈ logged, 0 < item.propensity := by
  induction logged generalizing ws with
  | nil =>
    cases h
    exact ⟨rfl, fun _ hitem => nomatch hitem⟩
  | cons item logged ih =>
    unfold weights at h
    rw [List.mapM_cons] at h
    split_ifs at h with hitem
    · cases hrest : weights logged target with
      | error e =>
        unfold weights at hrest
        rw [hrest] at h
        cases h
      | ok ws' =>
        obtain ⟨heq, hpos⟩ := ih hrest
        unfold weights at hrest
        rw [hrest] at h
        cases h
        refine ⟨by rw [heq]; rfl, fun i hi => ?_⟩
        rcases List.mem_cons.mp hi with rfl | hi
        · exact hitem.1
        · exact hpos i hi
    · cases h

theorem weights_of_propensities {logged : List (Logged X A)} (target : Policy X A)
    (h : ∀ item ∈ logged, 0 < item.propensity ∧ item.propensity ≤ 1) :
    weights logged target = .ok (logged.map (weight target)) := by
  induction logged with
  | nil => rfl
  | cons item logged ih =>
    have hrest := ih fun i hi => h i (List.mem_cons_of_mem item hi)
    unfold weights at hrest ⊢
    rw [List.mapM_cons, if_pos (h item List.mem_cons_self), hrest]
    rfl

theorem weightedRewards_map (target : Policy X A) (logged : List (Logged X A)) :
    weightedRewards (logged.map (weight target)) logged =
      (logged.map fun item => weight target item * item.reward).sum := by
  unfold weightedRewards
  rw [List.zip_map_left, List.map_map]
  induction logged with
  | nil => rfl
  | cons item logged ih =>
    rw [List.zip_cons_cons, List.map_cons, List.sum_cons, ih]
    rfl

theorem weight_nonneg {L : Logging X A} (T : Target L) {item : Logged X A}
    (h : 0 < item.propensity) : 0 ≤ weight T.policy item := by
  refine div_nonneg ?_ h.le
  unfold get
  cases hfound : (T.policy item.context).lookup item.action with
  | none => exact le_rfl
  | some p =>
    obtain ⟨before, after, hsplit, -⟩ := List.lookup_eq_some_iff.mp hfound
    refine T.nonneg item.context (item.action, p) ?_
    rw [hsplit]
    exact List.mem_append_right before List.mem_cons_self

/-! ## What a log can hold -/

section Drawing

variable {L : Logging X A} {reward : RewardModel X A}

omit [DecidableEq A] in
theorem prob_le_one {x : X} {a : A} (h : a ∈ L.outcomes x) : L.prob x a ≤ 1 := by
  rw [← L.total x]
  exact Finset.single_le_sum (fun b hb => (L.positive x b hb).le) h

omit [DecidableEq A] in
theorem Drawn.propensities {xs : List X} {logged : List (Logged X A)}
    (h : Drawn L.toSampler (L.log reward) xs logged) :
    ∀ item ∈ logged, 0 < item.propensity ∧ item.propensity ≤ 1 := by
  induction h with
  | nil => exact fun _ hitem => nomatch hitem
  | cons ha _ ih =>
    intro item hitem
    rcases List.mem_cons.mp hitem with rfl | hitem
    · exact ⟨L.positive _ _ ha, prob_le_one ha⟩
    · exact ih item hitem

/-- **What a draw adds**: the weighted values of the actions are, in expectation, what the target
policy expects of them. -/
theorem sum_weighted (T : Target L) (x : X) (value : A → ℚ) :
    ∑ a ∈ L.outcomes x, L.prob x a * (weight T.policy (L.log reward x a) * value a) =
      ((T.policy x).map fun (action, p) => p * value action).sum := by
  have hcancel : ∀ a ∈ L.outcomes x,
      L.prob x a * (weight T.policy (L.log reward x a) * value a) =
        get (T.policy x) a * value a := by
    intro a ha
    have hne := (L.positive x a ha).ne'
    unfold weight Logging.log
    field_simp
  rw [Finset.sum_congr rfl hcancel]
  -- the dict is read key by key; a key that is not among the actions has probability zero
  have hdict : ∀ ps : List (A × ℚ), (ps.map Prod.fst).Nodup →
      (∀ q ∈ ps, q.1 ∉ L.outcomes x → q.2 = 0) →
      ∑ a ∈ L.outcomes x, get ps a * value a =
        (ps.map fun (action, p) => p * value action).sum := by
    intro ps hkeys hsupport
    induction ps with
    | nil =>
      unfold get
      simp
    | cons q ps ih =>
      rw [List.map_cons, List.nodup_cons] at hkeys
      have hget : ∀ a, get (q :: ps) a * value a =
          (if a = q.1 then q.2 * value a else 0) + get ps a * value a := by
        intro a
        unfold get
        rw [List.lookup_cons]
        by_cases ha : a = q.1
        · have hnone : ps.lookup a = none := by
            rw [List.lookup_eq_none_iff]
            intro q' hq'
            have hne : a ≠ q'.1 := fun heq =>
              hkeys.1 (List.mem_map.mpr ⟨q', hq', heq.symm.trans ha⟩)
            simpa using hne
          rw [if_pos ha, hnone]
          simp [ha]
        · rw [if_neg ha, beq_false_of_ne ha, zero_add]
      simp only [hget]
      rw [Finset.sum_add_distrib, Finset.sum_ite_eq',
        ih hkeys.2 fun q' hq' => hsupport q' (List.mem_cons_of_mem q hq'), List.map_cons,
        List.sum_cons]
      split_ifs with hmem
      · rfl
      · rw [hsupport q List.mem_cons_self hmem, zero_mul]
  refine hdict _ (T.keys x) fun q hq hout => ?_
  exact (T.nonneg x q hq).antisymm' (not_lt.mp fun hpos => hout (T.supported x q hq hpos))

end Drawing

/-! ## The estimates -/

section Estimates

variable {L : Logging X A} (T : Target L) {reward : RewardModel X A} {xs : List X}
  {logged : List (Logged X A)}

theorem ips_of_propensities (hne : logged ≠ [])
    (h : ∀ item ∈ logged, 0 < item.propensity ∧ item.propensity ≤ 1) :
    ips logged T.policy = .ok (some
      ((logged.map fun item => weight T.policy item * item.reward).sum / logged.length)) := by
  unfold ips
  rw [if_neg (by simpa using hne), weights_of_propensities T.policy h]
  show Except.ok (some (weightedRewards _ logged / _)) = _
  rw [weightedRewards_map]

theorem doublyRobust_of_propensities (rewardModel : RewardModel X A) (hne : logged ≠ [])
    (h : ∀ item ∈ logged, 0 < item.propensity ∧ item.propensity ≤ 1) :
    doublyRobust logged T.policy rewardModel = .ok (some
      ((logged.map fun item => direct T.policy rewardModel item.context +
        weight T.policy item * (item.reward - rewardModel item.context item.action)).sum /
          logged.length)) := by
  have hzip : ∀ l : List (Logged X A), (l.zip (l.map (weight T.policy))).map
      (fun (item, weight) => direct T.policy rewardModel item.context +
        weight * (item.reward - rewardModel item.context item.action)) =
      l.map fun item => direct T.policy rewardModel item.context +
        weight T.policy item * (item.reward - rewardModel item.context item.action) := by
    intro l
    induction l with
    | nil => rfl
    | cons item l ih =>
      rw [List.map_cons, List.zip_cons_cons, List.map_cons, ih]
      rfl
  unfold doublyRobust
  rw [if_neg (by simpa using hne), weights_of_propensities T.policy h]
  show Except.ok (some (List.sum _ / _)) = _
  rw [hzip]

omit [DecidableEq A] in
/-- An estimate that is the mean of a statistic of the decisions has as its expectation the mean
of what the target policy expects, when each draw has. -/
theorem expect_mean (estimate : List (Logged X A) → Except PropensityError (Option ℚ))
    (g : Logged X A → ℚ) (hnil : valueOf (estimate []) = 0)
    (hestimate : ∀ logged, logged ≠ [] →
      (∀ item ∈ logged, 0 < item.propensity ∧ item.propensity ≤ 1) →
      estimate logged = .ok (some ((logged.map g).sum / logged.length)))
    (hdraw : ∀ x, ∑ a ∈ L.outcomes x, L.prob x a * g (L.log reward x a) =
      direct T.policy reward x) :
    expect L.toSampler (L.log reward) xs (fun logged => valueOf (estimate logged)) =
      meanReward T.policy reward xs := by
  have hmean : ∀ logged, Drawn L.toSampler (L.log reward) xs logged →
      valueOf (estimate logged) = (logged.map g).sum / (xs.length : ℚ) := by
    intro logged hdrawn
    rw [← hdrawn.length_eq]
    by_cases hne : logged = []
    · subst hne
      rw [hnil]
      simp
    · rw [hestimate logged hne (Drawn.propensities hdrawn)]
      rfl
  rw [expect_congr L.toSampler (L.log reward) hmean, expect_div, expect_sum]
  unfold meanReward
  simp only [hdraw]

theorem expect_ips : expect L.toSampler (L.log reward) xs (fun logged =>
    valueOf (ips logged T.policy)) = meanReward T.policy reward xs :=
  expect_mean T (fun logged => ips logged T.policy) _ rfl
    (fun _ hne h => ips_of_propensities T hne h) fun x => sum_weighted T x (reward x)

theorem expect_doublyRobust (rewardModel : RewardModel X A) :
    expect L.toSampler (L.log reward) xs (fun logged =>
      valueOf (doublyRobust logged T.policy rewardModel)) = meanReward T.policy reward xs := by
  refine expect_mean T (fun logged => doublyRobust logged T.policy rewardModel) _ rfl
    (fun _ hne h => doublyRobust_of_propensities T rewardModel hne h) fun x => ?_
  have hresidual := @sum_weighted X A _ L reward T x fun a => reward x a - rewardModel x a
  -- the direct term cancels with what the residual takes away
  show ∑ a ∈ L.outcomes x, L.prob x a * (direct T.policy rewardModel x +
    weight T.policy (L.log reward x a) * (reward x a - rewardModel x a)) = _
  simp only [mul_add]
  rw [Finset.sum_add_distrib, ← Finset.sum_mul, L.total, one_mul, hresidual]
  unfold direct
  induction T.policy x with
  | nil => exact add_zero 0
  | cons q ps ih =>
    simp only [List.map_cons, List.sum_cons] at ih ⊢
    rw [← ih]
    ring

/-- **The self-normalised estimate** is a mean of the rewards that have weight. -/
theorem snips_bounds {v : ℚ} (h : snips logged T.policy = .ok (some v)) :
    (∃ item ∈ logged, 0 < weight T.policy item ∧ item.reward ≤ v) ∧
      ∃ item ∈ logged, 0 < weight T.policy item ∧ v ≤ item.reward := by
  unfold snips at h
  cases hws : weights logged T.policy with
  | error e =>
    rw [hws] at h
    cases h
  | ok ws =>
    obtain ⟨rfl, hpos⟩ := weights_eq_ok hws
    rw [hws] at h
    change (if logged.isEmpty ∨ (logged.map (weight T.policy)).sum = 0 then _ else _) = _ at h
    split_ifs at h with hnone
    · cases h
    · push Not at hnone
      have hv : weightedRewards (logged.map (weight T.policy)) logged /
          (logged.map (weight T.policy)).sum = v := by
        injection h with h
        injection h
      rw [← hv, weightedRewards_map]
      exact weighted_mean_bounds (fun item hitem => weight_nonneg T (hpos item hitem)) hnone.2

theorem effectiveSampleSize_le {target : Policy X A} {n : ℚ}
    (h : effectiveSampleSize logged target = .ok n) : n ≤ logged.length := by
  unfold effectiveSampleSize at h
  cases hws : weights logged target with
  | error e =>
    rw [hws] at h
    cases h
  | ok ws =>
    rw [hws] at h
    injection h with h
    rw [← h]
    have hlength : ws.length = logged.length := by
      rw [(weights_eq_ok hws).1, List.length_map]
    show (if (ws.map fun w => w * w).sum ≠ 0 then _ else (0 : ℚ)) ≤ _
    split_ifs with hsquares
    · have hnonneg : 0 ≤ (ws.map fun w => w * w).sum := by
        apply List.sum_nonneg
        intro x hx
        obtain ⟨w, -, rfl⟩ := List.mem_map.mp hx
        exact mul_self_nonneg w
      rw [div_le_iff₀ (lt_of_le_of_ne hnonneg (Ne.symm hsquares)), ← hlength]
      exact sq_sum_le_length_mul ws
    · exact Nat.cast_nonneg _

end Estimates

/-- **Both corrected estimates are unbiased**: over the logs that can be drawn for the contexts
they are defined as soon as there is a decision, and their expectation is the mean reward of the
target policy, for every reward model.  `snips` lies between two logged rewards that have weight,
and the effective sample size is at most the number of decisions. -/
theorem estimates_sound (L : Logging X A) (T : Target L) (reward : RewardModel X A) (xs : List X) :
    (∀ logged, Drawn L.toSampler (L.log reward) xs logged → xs ≠ [] →
      (∃ v, ips logged T.policy = .ok (some v)) ∧
        ∀ rewardModel, ∃ v, doublyRobust logged T.policy rewardModel = .ok (some v)) ∧
    expect L.toSampler (L.log reward) xs (fun logged => valueOf (ips logged T.policy)) =
      meanReward T.policy reward xs ∧
    (∀ rewardModel, expect L.toSampler (L.log reward) xs
      (fun logged => valueOf (doublyRobust logged T.policy rewardModel)) =
        meanReward T.policy reward xs) ∧
    (∀ logged v, snips logged T.policy = .ok (some v) →
      (∃ item ∈ logged, 0 < weight T.policy item ∧ item.reward ≤ v) ∧
        ∃ item ∈ logged, 0 < weight T.policy item ∧ v ≤ item.reward) ∧
    ∀ logged n, effectiveSampleSize logged T.policy = .ok n → n ≤ logged.length := by
  refine ⟨fun logged hdrawn hxs => ?_, expect_ips T, expect_doublyRobust T,
    fun _ _ h => snips_bounds T h, fun _ _ h => effectiveSampleSize_le h⟩
  have hne : logged ≠ [] := by
    intro hnil
    have hlength := hdrawn.length_eq
    rw [hnil] at hlength
    exact hxs (List.length_eq_zero_iff.mp hlength.symm)
  have hpropensities := Drawn.propensities hdrawn
  exact ⟨⟨_, ips_of_propensities T hne hpropensities⟩, fun rewardModel =>
    ⟨_, doublyRobust_of_propensities T rewardModel hne hpropensities⟩⟩

end CephAi.Ports.OffPolicy
