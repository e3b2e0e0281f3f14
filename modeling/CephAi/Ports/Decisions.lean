import CephAi.Ports.ActionRuns

/-!
# The operators' decisions

`approve_action_core`, `reject_action_core` and `cancel_grace_action_core` check
the Action's status and write the new one later, by primary key.  The Worker
does the same when it resumes an Action after its grace period, and a Worker
that has read an Action as approved does not look at it again.

A write that finds another status than the one it was checked against undoes
what was decided in between.  Where no write does, an Action only moves forward
through its statuses, and what is still under way is known from the status.

## Main results

* `decisions_final` — where every decision and every resume finds the status it
  was checked against and no approved Action is sent back, nothing starts after
  a reported rejection and one decision at most is reported for an Action.
* `rejected_then_started` — a rejection that is overwritten and run.
-/

namespace CephAi.Ports.Decisions

open Verified Models ApprovedExecution
open ActionRuns

/-! ## Property and condition -/

/-- The call reports `APPROVED` or `REJECTED`. -/
def Decides (r : Report) : Prop := r.outcome = .approved ∨ r.outcome = .rejected

/-- No command of an Action starts after it was reported rejected. -/
def NothingAfterRejection (w : World) : Prop :=
  ∀ r ∈ w.reports, r.outcome = .rejected →
    ∀ s ∈ w.starts, s.action = r.action → s.startedAt < r.time

/-- At most one decision is reported for an Action. -/
def OneDecision (w : World) : Prop :=
  w.reports.Pairwise (fun r r' => Decides r → Decides r' → r.action ≠ r'.action)

/-- A resume finds the Action waiting. -/
def ResumeCurrent (w : World) : Phase → Prop
  | .graceLoaded pk _ => w.db.statusOf pk = some .gracePending
  | _ => True

/-- The condition on a step: what is written was checked against the status it
finds, and an approved Action is not sent back. -/
def Unraced (S : Settings) (w : World) : Label → Prop
  | .write d _ => ∀ c ∈ w.decision d, w.db.statusOf c.2 = some c.1.expects
  | .resume t => ResumeCurrent w (w.phase t)
  | .recheck _ pk fingerprint =>
    EvidenceUnchanged S.policy w.db pk fingerprint
  | _ => True

instance (w : World) (p : Phase) : Decidable (ResumeCurrent w p) :=
  match p with
  | .graceLoaded pk _ =>
    inferInstanceAs (Decidable (w.db.statusOf pk = some .gracePending))
  | .idle | .claiming .. | .claimed .. | .running _ | .safe ..
  | .safeReady .. | .safeRunning .. => inferInstanceAs (Decidable True)

instance (policy : ActionPolicy) (db : Db) (pk : Nat) (fingerprint : String) :
    Decidable (EvidenceUnchanged policy db pk fingerprint) :=
  inferInstanceAs (Decidable (∀ a ∈ db.action? pk, a.status = .approved →
    a.classification = policy.classifyAction db.overrides a.actionId ∧
    (reassess a fingerprint).acknowledgedHash = some fingerprint))

instance (S : Settings) (w : World) (l : Label) : Decidable (Unraced S w l) :=
  match l with
  | .write d _ => inferInstanceAs (Decidable (∀ c ∈ w.decision d,
      w.db.statusOf c.2 = some c.1.expects))
  | .resume t => inferInstanceAs (Decidable (ResumeCurrent w (w.phase t)))
  | .recheck _ pk fingerprint => inferInstanceAs (Decidable
      (EvidenceUnchanged S.policy w.db pk fingerprint))
  | .override .. | .claim .. | .start .. | .finish .. | .vanish .. | .reconcile
  | .graceDue .. | .gate .. | .startSafe .. | .finishSafe .. | .read ..
  | .refuse .. => inferInstanceAs (Decidable True)

/-! ## Statuses and what is under way -/

/-- Behind an approval. -/
def settled : ActionStatus → Bool
  | .approved | .executed | .failed | .inconclusive => true
  | _ => false

/-- On the autonomous path. -/
def busy : ActionStatus → Bool
  | .pending | .executing => true
  | _ => false

/-- Behind a decision. -/
def closed (s : ActionStatus) : Bool := settled s || s == .rejected

/-- The Action that a Worker runs, or is about to run, as approved. -/
def approvedAction : Phase → Option Nat
  | .claiming pk .. | .claimed pk .. | .running pk => some pk
  | _ => none

/-- The Action that a Worker runs, or is about to run, on its own. -/
def safeAction : Phase → Option Nat
  | .safe pk _ | .safeReady pk _ | .safeRunning pk _ => some pk
  | _ => none

/-- The evidence of the Action's Incident is real. -/
def Genuine (db : Db) (pk : Nat) : Prop :=
  ∀ i, db.incidentOf pk = some i → db.syntheticOf i ≠ some true

/-- What every step keeps. -/
structure Orderly (w : World) : Prop where
  approved : ∀ t pk, approvedAction (w.phase t) = some pk →
    (∃ s, w.db.statusOf pk = some s ∧ settled s = true) ∧ Genuine w.db pk
  safe : ∀ t pk, safeAction (w.phase t) = some pk →
    ∃ s, w.db.statusOf pk = some s ∧ busy s = true
  safeOnce : ∀ t t' pk, safeAction (w.phase t) = some pk →
    safeAction (w.phase t') = some pk → t = t'
  decided : ∀ r ∈ w.reports, Decides r →
    ∃ s, w.db.statusOf r.action = some s ∧ closed s = true
  rejected : ∀ r ∈ w.reports, r.outcome = .rejected →
    w.db.statusOf r.action = some .rejected
  past : ∀ s ∈ w.starts, s.startedAt < w.clock
  final : NothingAfterRejection w
  once : OneDecision w

theorem orderly_initial (db : Db) : Orderly (World.initial db) where
  approved := by
    intro t pk h
    exact absurd h (by simp [World.initial, approvedAction])
  safe := by
    intro t pk h
    exact absurd h (by simp [World.initial, safeAction])
  safeOnce := by
    intro t t' pk h
    exact absurd h (by simp [World.initial, safeAction])
  decided := by
    intro r hr
    exact absurd hr (by simp [World.initial])
  rejected := by
    intro r hr
    exact absurd hr (by simp [World.initial])
  past := by
    intro s hs
    exact absurd hs (by simp [World.initial])
  final := by
    intro r hr
    exact absurd hr (by simp [World.initial])
  once := List.Pairwise.nil

/-! ## What the parts of a step keep -/

variable {S : Settings} {i pk t : Nat} {s : ActionStatus} {w : World}

section

variable (h : Orderly w)
include h

theorem Orderly.tick : Orderly w.tick where
  approved := h.approved
  safe := h.safe
  safeOnce := h.safeOnce
  decided := h.decided
  rejected := h.rejected
  past := fun s hs => Nat.lt_succ_of_lt (h.past s hs)
  final := h.final
  once := h.once

theorem Orderly.call (d : Nat) (c : Option (DecisionKind × Nat)) :
    Orderly (w.call d c) :=
  ⟨h.approved, h.safe, h.safeOnce, h.decided, h.rejected, h.past, h.final,
    h.once⟩

theorem Orderly.note (pk n : Nat) : Orderly (w.noteClaim pk n) :=
  ⟨h.approved, h.safe, h.safeOnce, h.decided, h.rejected, h.past, h.final,
    h.once⟩

theorem Orderly.noteApproval (pk : Nat) : Orderly (w.noteApproval pk) :=
  ⟨h.approved, h.safe, h.safeOnce, h.decided, h.rejected, h.past, h.final,
    h.once⟩

theorem Orderly.enter (t : Nat) (p : Phase)
    (happroved : ∀ pk, approvedAction p = some pk →
      (∃ s, w.db.statusOf pk = some s ∧ settled s = true) ∧ Genuine w.db pk)
    (hsafe : ∀ pk, safeAction p = some pk →
      (∃ s, w.db.statusOf pk = some s ∧ busy s = true) ∧
      ∀ t', t' ≠ t → safeAction (w.phase t') ≠ some pk) :
    Orderly (w.enter t p) where
  approved := by
    intro t' pk hp
    by_cases ht : t' = t
    · subst ht
      rw [enter_self] at hp
      exact happroved pk hp
    · rw [enter_of_ne w p ht] at hp
      exact h.approved t' pk hp
  safe := by
    intro t' pk hp
    by_cases ht : t' = t
    · subst ht
      rw [enter_self] at hp
      exact (hsafe pk hp).1
    · rw [enter_of_ne w p ht] at hp
      exact h.safe t' pk hp
  safeOnce := by
    intro t₁ t₂ pk h₁ h₂
    by_cases ht₁ : t₁ = t
    · by_cases ht₂ : t₂ = t
      · rw [ht₁, ht₂]
      · subst ht₁
        rw [enter_self] at h₁
        rw [enter_of_ne w p ht₂] at h₂
        exact absurd h₂ ((hsafe pk h₁).2 t₂ ht₂)
    · rw [enter_of_ne w p ht₁] at h₁
      by_cases ht₂ : t₂ = t
      · subst ht₂
        rw [enter_self] at h₂
        exact absurd h₁ ((hsafe pk h₂).2 t₁ ht₁)
      · rw [enter_of_ne w p ht₂] at h₂
        exact h.safeOnce t₁ t₂ pk h₁ h₂
  decided := h.decided
  rejected := h.rejected
  past := h.past
  final := h.final
  once := h.once

theorem Orderly.enter_idle (t : Nat) : Orderly (w.enter t .idle) :=
  h.enter t .idle (by simp [approvedAction]) (by simp [safeAction])

end

/-- What is under way on the Action, and what was decided, bears the status. -/
structure Allows (w : World) (pk : Nat) (s : ActionStatus) : Prop where
  approved : ∀ t, approvedAction (w.phase t) = some pk → settled s = true
  safe : ∀ t, safeAction (w.phase t) = some pk → busy s = true
  decided : ∀ r ∈ w.reports, Decides r → r.action = pk → closed s = true
  rejected : ∀ r ∈ w.reports, r.outcome = .rejected → r.action = pk →
    s = .rejected

section

variable (h : Orderly w)
include h

section

variable (hstatus : w.db.statusOf pk = some s)
include hstatus

theorem Orderly.allows_settled {s' : ActionStatus}
    (hs : settled s = true) (hs' : settled s' = true) :
    Allows w pk s' where
  approved := fun _ _ => hs'
  safe := by
    intro t hp
    obtain ⟨b, hb, hbusy⟩ := h.safe t pk hp
    rw [hstatus, Option.some.injEq] at hb
    subst hb
    cases s <;> simp [settled, busy] at hs hbusy
  decided := by
    intro r _ _ _
    simp [closed, hs']
  rejected := by
    intro r hr hrejected haction
    have hold := h.rejected r hr hrejected
    rw [haction, hstatus, Option.some.injEq] at hold
    rw [hold] at hs
    exact absurd hs (by decide)

theorem Orderly.allows_open
    (hs : closed s = false) (hsafe : ∀ t, safeAction (w.phase t) ≠ some pk) (s' : ActionStatus) :
    Allows w pk s' where
  approved := by
    intro t hp
    obtain ⟨⟨b, hb, hsettled⟩, _⟩ := h.approved t pk hp
    rw [hstatus, Option.some.injEq] at hb
    subst hb
    simp [closed, hsettled] at hs
  safe := fun t hp => absurd hp (hsafe t)
  decided := by
    intro r hr hdecides haction
    obtain ⟨b, hb, hclosed⟩ := h.decided r hr hdecides
    rw [haction, hstatus, Option.some.injEq] at hb
    subst hb
    rw [hs] at hclosed
    exact absurd hclosed (by decide)
  rejected := by
    intro r hr hrejected haction
    have hold := h.rejected r hr hrejected
    rw [haction, hstatus, Option.some.injEq] at hold
    rw [hold] at hs
    exact absurd hs (by decide)

theorem Orderly.not_safe (hs : busy s = false) (t : Nat) : safeAction (w.phase t) ≠ some pk := by
  intro hp
  obtain ⟨b, hb, hbusy⟩ := h.safe t pk hp
  rw [hstatus, Option.some.injEq] at hb
  subst hb
  rw [hs] at hbusy
  exact absurd hbusy (by decide)

theorem Orderly.not_decided (hs : closed s = false) :
    ∀ r ∈ w.reports, Decides r → r.action ≠ pk := by
  intro r hr hdecides haction
  obtain ⟨b, hb, hclosed⟩ := h.decided r hr hdecides
  rw [haction, hstatus, Option.some.injEq] at hb
  subst hb
  rw [hs] at hclosed
  exact absurd hclosed (by decide)

end

/-- A transaction gives Actions statuses that are borne. -/
theorem Orderly.store {db : Db}
    (hincident : ∀ pk, db.incidentOf pk = w.db.incidentOf pk)
    (hsynthetic : ∀ i, db.syntheticOf i = w.db.syntheticOf i)
    (hstatus : ∀ pk, db.statusOf pk = w.db.statusOf pk ∨
      ∃ s, db.statusOf pk = some s ∧ Allows w pk s) :
    Orderly (w.store db) where
  approved := by
    intro t pk hp
    obtain ⟨hs, hgenuine⟩ := h.approved t pk hp
    refine ⟨?_, ?_⟩
    · rcases hstatus pk with hsame | ⟨s, hs', hallows⟩
      · obtain ⟨b, hb, hsettled⟩ := hs
        exact ⟨b, hsame.trans hb, hsettled⟩
      · exact ⟨s, hs', hallows.approved t hp⟩
    · intro i hi hsyn
      exact hgenuine i ((hincident pk).symm.trans hi)
        ((hsynthetic i).symm.trans hsyn)
  safe := by
    intro t pk hp
    rcases hstatus pk with hsame | ⟨s, hs', hallows⟩
    · obtain ⟨b, hb, hbusy⟩ := h.safe t pk hp
      exact ⟨b, hsame.trans hb, hbusy⟩
    · exact ⟨s, hs', hallows.safe t hp⟩
  safeOnce := h.safeOnce
  decided := by
    intro r hr hdecides
    rcases hstatus r.action with hsame | ⟨s, hs', hallows⟩
    · obtain ⟨b, hb, hclosed⟩ := h.decided r hr hdecides
      exact ⟨b, hsame.trans hb, hclosed⟩
    · exact ⟨s, hs', hallows.decided r hr hdecides rfl⟩
  rejected := by
    intro r hr hrejected
    rcases hstatus r.action with hsame | ⟨s, hs', hallows⟩
    · exact hsame.trans (h.rejected r hr hrejected)
    · rw [← hallows.rejected r hr hrejected rfl]
      exact hs'
  past := h.past
  final := h.final
  once := h.once

/-- A transaction on one Action. -/
theorem Orderly.rewrite {db : Db} {incidentId : Nat} (hrw : Rewrites pk incidentId s w.db db)
    (hallows : ∀ old, w.db.statusOf pk = some old → Allows w pk s) : Orderly (w.store db) := by
  refine h.store hrw.incidentOf hrw.synthetic ?_
  intro pk'
  by_cases hpk : pk' = pk
  · subst hpk
    cases hold : w.db.statusOf pk' with
    | none =>
      refine Or.inl ?_
      rw [hrw.own, hold]
      rfl
    | some old =>
      refine Or.inr ⟨s, ?_, hallows old hold⟩
      rw [hrw.own, hold]
      rfl
  · exact Or.inl (hrw.status pk' hpk)

theorem Orderly.log_tick (approval : Option Nat) (readAt : Nat)
    (hopen : w.db.statusOf pk ≠ some .rejected) :
    Orderly (w.log pk approval readAt).tick where
  approved := h.approved
  safe := h.safe
  safeOnce := h.safeOnce
  decided := h.decided
  rejected := h.rejected
  past := by
    intro s hs
    rcases List.mem_append.mp hs with hs | hs
    · exact Nat.lt_succ_of_lt (h.past s hs)
    · rw [List.mem_singleton.mp hs]
      exact Nat.lt_succ_self w.clock
  final := by
    intro r hr hrejected s hs haction
    rcases List.mem_append.mp hs with hs | hs
    · exact h.final r hr hrejected s hs haction
    · rw [List.mem_singleton.mp hs] at haction
      have hpk : pk = r.action := haction
      rw [hpk] at hopen
      exact absurd (h.rejected r hr hrejected) hopen
  once := h.once

/-- An operator is told: of a decision only when it is the first one. -/
theorem Orderly.tell (pk : Nat) (outcome : ApprovalOutcome)
    (hnew : outcome = .approved ∨ outcome = .rejected →
      w.db.statusOf pk = some outcome.status ∧
      ∀ r ∈ w.reports, Decides r → r.action ≠ pk) :
    Orderly (w.tell pk outcome) where
  approved := h.approved
  safe := h.safe
  safeOnce := h.safeOnce
  decided := by
    intro r hr hdecides
    rcases List.mem_append.mp hr with hr | hr
    · exact h.decided r hr hdecides
    · rw [List.mem_singleton.mp hr] at hdecides ⊢
      refine ⟨outcome.status, (hnew hdecides).1, ?_⟩
      rcases hdecides with ho | ho
      · have : outcome = .approved := ho
        rw [this]
        rfl
      · have : outcome = .rejected := ho
        rw [this]
        rfl
  rejected := by
    intro r hr hrejected
    rcases List.mem_append.mp hr with hr | hr
    · exact h.rejected r hr hrejected
    · rw [List.mem_singleton.mp hr] at hrejected ⊢
      have ho : outcome = .rejected := hrejected
      have hstatus := (hnew (Or.inr ho)).1
      rw [ho] at hstatus
      exact hstatus
  past := h.past
  final := by
    intro r hr hrejected s hs haction
    rcases List.mem_append.mp hr with hr | hr
    · exact h.final r hr hrejected s hs haction
    · rw [List.mem_singleton.mp hr]
      exact h.past s hs
  once := by
    show List.Pairwise _ (w.reports ++ [⟨pk, outcome, w.clock⟩])
    refine List.pairwise_append.mpr ⟨h.once, List.pairwise_singleton _ _, ?_⟩
    intro r hr r' hr' hdecides hdecides'
    rw [List.mem_singleton.mp hr'] at hdecides' ⊢
    exact (hnew hdecides').2 r hr hdecides

/-! ## Steps and runs -/

theorem Orderly.allows_synthetic (hstatus : w.db.statusOf pk = some .approved)
    (hlink : w.db.incidentOf pk = some i) (hsyn : w.db.syntheticOf i = some true) :
    Allows w pk .rejected where
  approved := fun t hp => absurd hsyn ((h.approved t pk hp).2 i hlink)
  safe := fun t hp => absurd hp (h.not_safe hstatus rfl t)
  decided := fun _ _ _ _ => rfl
  rejected := fun _ _ _ _ => rfl

/-- The start of a Worker. -/
theorem Orderly.reconcile : Orderly (w.store (reconcileInterrupted w.db)) := by
  refine h.store (reconcileInterrupted_incidentOf w.db)
    (reconcileInterrupted_synthetic w.db) ?_
  intro pk
  rw [statusOf_reconcileInterrupted]
  cases ha : w.db.action? pk with
  | none => exact Or.inl rfl
  | some a =>
    cases hint : interrupted w.db a with
    | false => exact Or.inl (by simp [hint])
    | true =>
      have happroved : w.db.statusOf pk = some .approved := by
        simp only [interrupted, Bool.and_eq_true, beq_iff_eq] at hint
        simp [Db.statusOf, ha, hint.1]
      exact Or.inr ⟨.inconclusive, by simp [hint],
        h.allows_settled happroved rfl rfl⟩

theorem Orderly.record (S : Settings) (pk : Nat) (succeeded : Bool) (now : Nat)
    {old : ActionStatus} (hstatus : w.db.statusOf pk = some old) (hold : settled old = true) :
    Orderly (w.store
      (recordApprovedExecutionResult S.verify w.db pk succeeded now)) := by
  cases hlink : w.db.incidentOf pk with
  | none =>
    rw [recordApproved_of_none S.verify succeeded now hlink]
    exact h
  | some i =>
    refine h.rewrite (recordApproved_rewrites S.verify w.db pk i succeeded
      now ?_) ?_
    · intro i' hi'
      exact Option.some.inj (hi'.symm.trans hlink)
    · intro _ _
      refine h.allows_settled hstatus hold ?_
      cases succeeded <;> rfl

theorem Orderly.release (hp : safeAction (w.phase t) = some pk) (s : ActionStatus) :
    ∀ old, (w.enter t .idle).db.statusOf pk = some old →
      Allows (w.enter t .idle) pk s := by
  intro old hold
  obtain ⟨b, hb, hbusy⟩ := h.safe t pk hp
  have hsame : b = old := Option.some.inj (hb.symm.trans hold)
  rw [hsame] at hbusy
  have hopen : closed old = false := by
    cases old <;> simp [busy] at hbusy <;> rfl
  refine (h.enter_idle t).allows_open hold hopen ?_ s
  intro t' hp'
  by_cases ht : t' = t
  · rw [ht, enter_self] at hp'
    exact absurd hp' (by simp [safeAction])
  · rw [enter_of_ne w _ ht] at hp'
    exact ht (h.safeOnce t' t pk hp' hp)

theorem Orderly.gate {outcome : Gate} {r : Db × Phase}
    (hphase : w.phase t = .safe pk i) (hgate : passGate S.verify w.db pk i outcome = some r) :
    Orderly ((w.store r.1).enter t r.2) := by
  have hp : safeAction (w.phase t) = some pk := by rw [hphase]; rfl
  obtain ⟨s, hrw, _, hr⟩ := passGate_spec hgate
  have hstored : Orderly ((w.enter t .idle).store r.1) :=
    (h.enter_idle t).rewrite hrw (h.release hp s)
  rw [← enter_store_enter w t .idle r.2 r.1]
  rcases hr with hr | ⟨hr, hs⟩
  · rw [hr]
    exact hstored.enter_idle t
  · rw [hr]
    refine hstored.enter t _ (by simp [approvedAction]) ?_
    intro pk' hpk'
    simp only [safeAction, Option.some.injEq] at hpk'
    subst hpk'
    obtain ⟨b, hb, _⟩ := h.safe t pk hp
    refine ⟨⟨.executing, ?_, rfl⟩, ?_⟩
    · show r.1.statusOf pk = some .executing
      rw [hrw.own, hb, hs]
      rfl
    · intro t' ht hp'
      have hp'' : safeAction (w.phase t') = some pk := by
        rw [← enter_of_ne w .idle ht]
        exact hp'
      exact ht (h.safeOnce t' t pk hp'' hp)

theorem Orderly.resume (hstatus : w.db.statusOf pk = some .gracePending)
    (hok : (resumeGrace w.db pk i).2 = true) :
    Orderly ((w.store (resumeGrace w.db pk i).1).enter t (.safe pk i)) := by
  have hrw := resumeGrace_rewrites w.db pk i
  rw [hok, if_pos rfl] at hrw
  have hsafe := h.not_safe hstatus rfl
  have hstored := h.rewrite hrw
    (fun old _ => h.allows_open hstatus rfl hsafe .pending)
  refine hstored.enter t _ (by simp [approvedAction]) ?_
  intro pk' hpk'
  simp only [safeAction, Option.some.injEq] at hpk'
  subst hpk'
  refine ⟨⟨.pending, ?_, rfl⟩, fun t' _ => hsafe t'⟩
  show (resumeGrace w.db pk i).1.statusOf pk = some .pending
  rw [hrw.own, hstatus]
  rfl

theorem Orderly.write {d : Nat} {kind : DecisionKind} {a : Action}
    (haction : w.db.action? pk = some a) (fingerprint : String)
    (hstatus : w.db.statusOf pk = some kind.expects) :
    Orderly (((w.call d none).store
      (decideAction S.hasCommand w.db kind a fingerprint).1).tell pk
        (decideAction S.hasCommand w.db kind a fingerprint).2) := by
  obtain ⟨_, hrw⟩ := decideAction_spec S.hasCommand haction kind fingerprint
  have hopen : closed kind.expects = false := by cases kind <;> rfl
  have hidle : busy kind.expects = false := by cases kind <;> rfl
  have hnone := h.not_decided hstatus hopen
  have hstored := (h.call d none).rewrite hrw
    (fun old _ => (h.call d none).allows_open hstatus hopen
      (h.not_safe hstatus hidle) _)
  refine hstored.tell pk _ (fun _ => ⟨?_, hnone⟩)
  show (decideAction S.hasCommand w.db kind a fingerprint).1.statusOf pk = _
  rw [hrw.own, hstatus]
  rfl

theorem Orderly.recheckStop {fingerprint : String}
    (hstop : (recheck S.policy w.db pk fingerprint).2 = none)
    (hsame : EvidenceUnchanged S.policy w.db pk fingerprint) :
    Orderly (w.store (recheck S.policy w.db pk fingerprint).1) := by
  rcases recheck_none hstop with hdb | ⟨i, s, hstatus, hlink, hrw, hs⟩
  · rw [hdb]
    exact h
  · rcases hs with ⟨rfl, hsyn⟩ | ⟨_, hchanged⟩
    · exact h.rewrite hrw (fun _ _ => h.allows_synthetic hstatus hlink hsyn)
    · exact absurd hsame hchanged

theorem Orderly.recheckPass {fingerprint : String}
    (hpass : (recheck S.policy w.db pk fingerprint).2 = some i) :
    Orderly ((w.store (recheck S.policy w.db pk fingerprint).1).enter t
      (.claiming pk i (w.approvals pk) w.clock)) := by
  obtain ⟨hstatus, hlink, hgenuine, assessment, hdb⟩ := recheck_some hpass
  rw [hdb]
  have hstored : Orderly (w.store
      (w.db.writeAction pk { assessment := some assessment })) :=
    h.store (by simp) (by simp) (fun pk' => Or.inl (by simp))
  refine hstored.enter t _ ?_ (by simp [safeAction])
  intro pk' hpk'
  simp only [approvedAction, Option.some.injEq] at hpk'
  subst hpk'
  refine ⟨⟨.approved, ?_, rfl⟩, ?_⟩
  · show (w.db.writeAction pk { assessment := some assessment }).statusOf pk =
      some .approved
    simp [hstatus]
  · intro i' hi' hsyn
    have hsame : i' = i := by
      rw [← Option.some.injEq, ← hlink, ← hi']
      exact incidentOf_writeAction _ _ _ _
    rw [hsame] at hsyn
    exact hgenuine hsyn

theorem Orderly.proceed (hp : approvedAction (w.phase t) = some pk) {p : Phase}
    (hnext : approvedAction p = some pk) (hsafe : safeAction p = none) : Orderly (w.enter t p) := by
  refine h.enter t p ?_ (by simp [hsafe])
  intro pk' hpk'
  rw [hnext, Option.some.injEq] at hpk'
  subst hpk'
  exact h.approved t pk hp

theorem orderly_step {w' : World} {l : Label} (hunraced : Unraced S w l)
    (hstep : step S w l = some w') : Orderly w' := by
  cases stepped_of_step hstep with
  | override actionId c overrides =>
    have hstored : Orderly (w.store { w.db with overrides := overrides }) :=
      h.store (fun _ => rfl) (fun _ => rfl) (fun _ => Or.inl rfl)
    exact hstored.tick
  | recheckStop t pk fingerprint hphase hstop =>
    exact (h.recheckStop hstop hunraced).tick
  | recheckPass t pk fingerprint i hphase hpass =>
    exact (h.recheckPass hpass).tick
  | claimLost t pk i n r hphase => exact (h.enter_idle t).tick
  | claimWon t pk i n r db hphase hclaim =>
    obtain ⟨rfl, _, _⟩ := claim_eq_some hclaim
    have hstored : Orderly (w.store
        (w.db.writeIncident i { status := some .executing })) :=
      h.store (fun _ => rfl) (by simp) (fun _ => Or.inl rfl)
    have hp : approvedAction (w.phase t) = some pk := by rw [hphase]; rfl
    exact ((hstored.note pk n).proceed hp rfl rfl).tick
  | start t pk i n r hphase =>
    have hp : approvedAction (w.phase t) = some pk := by rw [hphase]; rfl
    obtain ⟨⟨s, hs, hsettled⟩, _⟩ := h.approved t pk hp
    have hrunning : Orderly (w.enter t (.running pk)) :=
      h.proceed hp rfl rfl
    refine hrunning.log_tick (some n) r ?_
    show w.db.statusOf pk ≠ some .rejected
    rw [hs]
    intro heq
    rw [Option.some.inj heq] at hsettled
    exact absurd hsettled (by decide)
  | finish t pk succeeded now hphase =>
    have hp : approvedAction (w.phase t) = some pk := by
      rcases hphase with ⟨i, n, r, hphase⟩ | hphase <;> rw [hphase] <;> rfl
    obtain ⟨⟨s, hs, hsettled⟩, _⟩ := h.approved t pk hp
    exact ((h.enter_idle t).record S pk succeeded now hs hsettled).tick
  | vanish t => exact (h.enter_idle t).tick
  | reconcile => exact h.reconcile.tick
  | graceNotDue t pk => exact h.tick
  | graceDue t pk i hphase hdue =>
    exact (h.enter t _ (by simp [approvedAction]) (by simp [safeAction])).tick
  | resume t pk i hphase hok =>
    simp only [Unraced, hphase, ResumeCurrent] at hunraced
    exact (h.resume hunraced hok).tick
  | resumeFails t pk i hphase =>
    simp only [Unraced, hphase, ResumeCurrent] at hunraced
    have hidle := h.enter_idle t
    refine (hidle.rewrite (resumeGrace_rewrites w.db pk i) ?_).tick
    intro old hold
    exact hidle.allows_open hunraced rfl (hidle.not_safe hunraced rfl) _
  | gate t pk i outcome r hphase hgate => exact (h.gate hphase hgate).tick
  | startSafe t pk i hphase =>
    have hp : safeAction (w.phase t) = some pk := by rw [hphase]; rfl
    obtain ⟨s, hs, hbusy⟩ := h.safe t pk hp
    have hrunning : Orderly (w.enter t (.safeRunning pk i)) := by
      refine h.enter t _ (by simp [approvedAction]) ?_
      intro pk' hpk'
      simp only [safeAction, Option.some.injEq] at hpk'
      subst hpk'
      refine ⟨⟨s, hs, hbusy⟩, fun t' ht hp' => ?_⟩
      exact ht (h.safeOnce t' t pk hp' hp)
    refine hrunning.log_tick none w.clock ?_
    show w.db.statusOf pk ≠ some .rejected
    rw [hs]
    intro heq
    rw [Option.some.inj heq] at hbusy
    exact absurd hbusy (by decide)
  | finishSafe t pk i succeeded now hphase =>
    have hp : safeAction (w.phase t) = some pk := by
      rcases hphase with hphase | hphase <;> rw [hphase] <;> rfl
    exact ((h.enter_idle t).rewrite (recordExecutionResult_rewrites S.verify
      w.db pk i succeeded now) (h.release hp _)).tick
  | readHandled d kind pk => exact (h.tell pk .alreadyHandled (by simp)).tick
  | readPending d kind pk => exact (h.call d _).tick
  | refuseExpired d pk =>
    exact ((h.call d none).tell pk .expired (by simp)).tick
  | refuse d => exact (h.call d none).tick
  | write d kind pk a fingerprint hcall haction houtcome =>
    exact (h.write haction fingerprint (hunraced (kind, pk) hcall)).tick
  | approve d kind pk a fingerprint hcall haction houtcome =>
    have hwritten : Orderly (((w.call d none).store
        (decideAction S.hasCommand w.db kind a fingerprint).1).tell pk
          (decideAction S.hasCommand w.db kind a fingerprint).2) :=
      h.write haction fingerprint (hunraced (kind, pk) hcall)
    rw [houtcome] at hwritten
    exact (hwritten.noteApproval pk).tick

end

/-- **Decisions are final.**  In every run, from any database, in which every
decision and every resume finds the status it was checked against and no
approved Action is sent back, no command of an Action starts after it was
reported rejected, and at most one decision is reported for an Action. -/
theorem decisions_final (S : Settings) (db : Db) (labels : List Label) (w : World)
    (hunraced : (actionSystem S).Meets (Unraced S) (World.initial db) labels)
    (hrun : (actionSystem S).run (World.initial db) labels = some w) :
    NothingAfterRejection w ∧ OneDecision w := by
  have horderly : Orderly w :=
    (actionSystem S).run_invariant_of_meets (Unraced S) Orderly
      (fun _ _ _ h hc hs => orderly_step h hc hs) labels (World.initial db) w
      (orderly_initial db) hunraced hrun
  exact ⟨horderly.final, horderly.once⟩

/-- An Action is parked by the grace poller, approved and run; a rejection that
comes after the approval is not accepted. -/
def orderlyRun : List Label :=
  [.graceDue 1 1, .resume 1, .gate 1 .toApproval, .read 0 .approve 1,
    .write 0 "evidence", .recheck 1 1 "evidence", .read 2 .reject 1, .claim 1,
    .start 1, .finish 1 true 50]

theorem decisions_final_orderlyRun :
    ∃ w, (actionSystem sampleSettings).run
        (World.initial (sampleDb .gracePending .gracePending)) orderlyRun =
          some w ∧
      w.starts.length = 1 ∧ NothingAfterRejection w ∧ OneDecision w := by
  have hmeets : (actionSystem sampleSettings).Meets (Unraced sampleSettings)
      (World.initial (sampleDb .gracePending .gracePending)) orderlyRun := by
    decide +kernel
  have hstarts : ((actionSystem sampleSettings).run
      (World.initial (sampleDb .gracePending .gracePending))
      orderlyRun).map (fun w => w.starts.length) = some 1 := by
    decide +kernel
  obtain ⟨w, hrun, hlength⟩ := Option.map_eq_some_iff.mp hstarts
  exact ⟨w, hrun, hlength,
    decisions_final sampleSettings _ orderlyRun w hmeets hrun⟩

/-- A rejection and an approval are both checked before either is written. -/
def racedRun : List Label :=
  [.read 0 .reject 1, .read 1 .approve 1, .write 0 "evidence",
    .write 1 "evidence", .recheck 1 1 "evidence", .claim 1, .start 1]

/-- Both decisions of `racedRun` are reported, and the rejected command is
started. -/
theorem rejected_then_started :
    (¬ ∀ (S : Settings) (db : Db) (labels : List Label) (w : World),
      (actionSystem S).run (World.initial db) labels = some w →
        NothingAfterRejection w) ∧
    (¬ ∀ (S : Settings) (db : Db) (labels : List Label) (w : World),
      (actionSystem S).run (World.initial db) labels = some w →
        OneDecision w) := by
  have hlogs : ((actionSystem sampleSettings).run
      (World.initial (sampleDb .pendingApproval .pendingApproval))
      racedRun).map (fun w => (w.reports, w.starts)) =
        some ([⟨1, .rejected, 2⟩, ⟨1, .approved, 3⟩],
          [⟨1, some 1, 4, 6⟩]) := by
    decide +kernel
  obtain ⟨w, hrun, hlog⟩ := Option.map_eq_some_iff.mp hlogs
  obtain ⟨hreports, hstarts⟩ := Prod.mk.inj hlog
  constructor
  · intro h
    have hnothing := h sampleSettings _ racedRun w hrun
    unfold NothingAfterRejection at hnothing
    rw [hreports, hstarts] at hnothing
    have hlate := hnothing _ List.mem_cons_self rfl _ List.mem_cons_self rfl
    exact absurd hlate (by decide)
  · intro h
    have hone := h sampleSettings _ racedRun w hrun
    unfold OneDecision at hone
    rw [hreports] at hone
    have hpair := (List.pairwise_cons.mp hone).1 _ (List.mem_singleton_self _)
    exact hpair (Or.inr rfl) (Or.inl rfl) rfl

end CephAi.Ports.Decisions
