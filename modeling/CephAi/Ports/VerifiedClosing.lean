import CephAi.Ports.IncidentRuns

/-!
# When an Incident under verification is closed as fixed

After a command has run, its Incident is `VERIFYING` until a health poll shows
that the fault is gone.  An Incident that has been there may be diagnosed again
any number of times, with its Action still in place.

## Main results

* `fixed_on_evidence_iff` — in exactly which runs such an Incident is closed as
  fixed only on the evidence of a poll.
-/

namespace CephAi.Ports.VerifiedClosing

open Verified Models ApprovedExecution
  Verification Diagnosis IncidentRuns
open ActionRuns (Settings sampleSettings)

/-- The Incident has been `VERIFYING`, belongs to no monitor and is open. -/
def UnderVerification (w : World) (row : Incident) : Prop :=
  row.id ∈ w.entered ∧ isMonitorOwned row.cephCode = false ∧
    row.status ∉ closedStatuses

instance (w : World) (row : Incident) : Decidable (UnderVerification w row) :=
  inferInstanceAs (Decidable (_ ∧ _ ∧ _))

def fixedStatuses : List IncidentStatus := [.resolved, .autoFixed]

/-- The step has seen that the fault is gone: a post-check that passed, or a
poll without the code. -/
def SeesFaultGone (w : World) (row : Incident) : Label → Prop
  | .verify p => (evaluateLatestPostcheck w.store p row).1 = .passed
  | .recover p => row.cephCode ∉ p.currentCodes
  | _ => False

/-- The step closes Incidents under verification as fixed only when it has seen
that the fault is gone. -/
def FixedOnEvidence (w : World) (l : Label) (w' : World) : Prop :=
  ∀ i row s, w.store.db.incident? i = some row → UnderVerification w row →
    w'.store.db.incidentStatus i = some s → s ∈ fixedStatuses →
    SeesFaultGone w row l

/-- A diagnosis takes this Action for the proof of a fix: it was executed on an
approval, or on its own and its case no longer waits for verification. -/
def TakenForFix (st : Store) (a : Action) : Prop :=
  a.status = .executed ∨
    a.status = .autoExecuted ∧ pendingCase st.cases a.id = false

instance (st : Store) (a : Action) : Decidable (TakenForFix st a) :=
  inferInstanceAs (Decidable (_ ∨ _ ∧ _))

/-- The Incident that a handler diagnoses next, and its Action. -/
def diagnosed (w : World) (t : Nat) : Option (Incident × Action) :=
  match w.handler t with
  | .diagnosing i =>
    match w.store.db.incident? i, existingAction w.store.db i with
    | some row, .one a => some (row, a)
    | _, _ => none
  | _ => none

/-- No diagnosis of an Incident under verification finds such an Action. -/
def FindsNoFix (w : World) : Label → Prop
  | .diagnose t _ _ =>
    ∀ r ∈ diagnosed w t, UnderVerification w r.1 → ¬ TakenForFix w.store r.2
  | _ => True

instance (w : World) : ∀ l : Label, Decidable (FindsNoFix w l)
  | .diagnose t _ _ => inferInstanceAs (Decidable (∀ r ∈ diagnosed w t, _))
  | .verify _ => inferInstanceAs (Decidable True)
  | .recover _ => inferInstanceAs (Decidable True)
  | .execute _ => inferInstanceAs (Decidable True)
  | .check _ _ => inferInstanceAs (Decidable True)
  | .mark _ _ => inferInstanceAs (Decidable True)
  | .act _ _ => inferInstanceAs (Decidable True)
  | .giveUp _ => inferInstanceAs (Decidable True)
  | .drop _ => inferInstanceAs (Decidable True)

theorem diagnosisWrites_fixed_iff (st : Store) (i : Nat) (proposal : Proposal) :
    (∃ s ∈ fixedStatuses, diagnosisWrites st i proposal = some s) ↔
      ∃ a, existingAction st.db i = .one a ∧ TakenForFix st a := by
  unfold diagnosisWrites
  cases existingAction st.db i with
  | nothing => cases proposal <;> simp [fixedStatuses]
  | several => simp
  | one a =>
    simp only [Existing.one.injEq, exists_eq_left']
    unfold TakenForFix
    cases hstatus : a.status with
    | autoExecuted =>
      cases hcase : pendingCase st.cases a.id with
      | false => simp [fixedStatuses, incidentStatusForResolvedAction]
      | true =>
        by_cases hmsgr : a.actionId = "enable_mon_msgr2"
        · simp [hmsgr]
        · simp [hmsgr, fixedStatuses]
    | pending => simp
    | pendingApproval | approved | executing | gracePending | inconclusive | rejected
    | executed | failed => simp [fixedStatuses, incidentStatusForResolvedAction]

theorem mem_closed_of_fixed {s : IncidentStatus} (h : s ∈ fixedStatuses) : s ∈ closedStatuses := by
  unfold fixedStatuses at h
  unfold closedStatuses
  simp only [List.mem_cons, List.not_mem_nil, or_false] at h ⊢
  exact Or.elim h Or.inl (fun h => Or.inr (Or.inl h))

theorem rejected_not_fixed : IncidentStatus.rejected ∉ fixedStatuses := by
  decide

variable {w : World}

theorem mem_diagnosed {t i : Nat} {row : Incident} {a : Action}
    (hphase : w.handler t = .diagnosing i) (hrow : w.store.db.incident? i = some row)
    (ha : existingAction w.store.db i = .one a) : (row, a) ∈ diagnosed w t := by
  unfold diagnosed
  rw [hphase]
  dsimp only
  rw [hrow, ha]
  rfl

theorem diagnosed_eq_some {t : Nat} {r : Incident × Action} (h : r ∈ diagnosed w t) :
    ∃ i, w.handler t = .diagnosing i ∧ w.store.db.incident? i = some r.1 ∧
      existingAction w.store.db i = .one r.2 := by
  unfold diagnosed at h
  cases hphase : w.handler t with
  | diagnosing i =>
    rw [hphase] at h
    dsimp only at h
    cases hrow : w.store.db.incident? i with
    | none => simp [hrow] at h
    | some row =>
      cases ha : existingAction w.store.db i with
      | one a =>
        rw [hrow, ha] at h
        cases h
        exact ⟨i, rfl, hrow, ha⟩
      | nothing | several => simp [hrow, ha] at h
  | idle | checked | acting => simp [hphase] at h

theorem fixedOnEvidence_of_findsNoFix {S : Settings} {w' : World} {l : Label}
    (h : step S w l = some w') (hfinds : FindsNoFix w l) : FixedOnEvidence w l w' := by
  intro i row s hrow hunder hs hfixed
  have howned := hunder.2.1
  have hopen := hunder.2.2
  have hbefore : w.store.db.incidentStatus i = some row.status := by
    unfold Db.incidentStatus
    rw [hrow, Option.map_some]
  have hopenRow : Open w.store.db i := by
    intro s' hs'
    rw [hbefore, Option.some.injEq] at hs'
    exact hs' ▸ hopen
  have hcloses := closes_of_step h i hopenRow s hs (mem_closed_of_fixed hfixed)
  cases l with
  | verify p =>
    show (evaluateLatestPostcheck w.store p row).1 = .passed
    unfold closes at hcloses
    rw [hrow] at hcloses
    dsimp only at hcloses
    by_cases hpass : verifyDue p row = true ∧
        (evaluateLatestPostcheck w.store p row).1 = .passed
    · exact hpass.2
    · rw [if_neg hpass] at hcloses
      cases hcloses
  | recover p =>
    show row.cephCode ∉ p.currentCodes
    unfold closes at hcloses
    rw [hrow] at hcloses
    dsimp only [Option.any_some] at hcloses
    cases hrec : recovers p row with
    | true => exact recovers_absent hrec
    | false => simp [hrec] at hcloses
  | diagnose t now proposal =>
    show False
    unfold closes at hcloses
    dsimp only at hcloses
    by_cases hphase : w.handler t = .diagnosing i
    · rw [if_pos hphase] at hcloses
      have hwrites := (Option.filter_eq_some_iff.mp hcloses).1
      obtain ⟨a, ha, hfix⟩ := (diagnosisWrites_fixed_iff w.store i proposal).mp
        ⟨s, hfixed, hwrites⟩
      exact hfinds (row, a) (mem_diagnosed hphase hrow ha) hunder hfix
    · rw [if_neg hphase] at hcloses
      cases hcloses
  | execute x =>
    cases x with
    | recheck pk fingerprint =>
      simp only [closes] at hcloses
      by_cases hsyn : w.store.db.incidentOf pk = some i ∧
          w.store.db.syntheticOf i = some true
      · rw [if_pos hsyn, Option.some.injEq] at hcloses
        exact absurd (hcloses ▸ hfixed) rejected_not_fixed
      · rw [if_neg hsyn] at hcloses
        cases hcloses
    | approvedResult pk succeeded now =>
      cases succeeded with
      | false => cases hcloses
      | true =>
        simp only [closes] at hcloses
        have hmonitor : monitorOwned w.store.db i = false := by
          unfold monitorOwned
          rw [hrow, Option.any_some, howned]
        rw [hmonitor, if_neg (fun h => Bool.false_ne_true h.2)] at hcloses
        cases hcloses
    | safe pk i' a =>
      cases a with
      | autoReject =>
        obtain ⟨-, hcloses⟩ := Option.ite_none_right_eq_some.mp hcloses
        exact absurd (Option.some.inj hcloses ▸ hfixed) rejected_not_fixed
      | route | grace | begin | result => cases hcloses
    | decide kind pk fingerprint =>
      obtain ⟨-, hcloses⟩ := Option.ite_none_right_eq_some.mp hcloses
      exact absurd (Option.some.inj hcloses ▸ hfixed) rejected_not_fixed
    | claim | reconcile | resumeGrace => cases hcloses
  | act t a =>
    cases a with
    | autoReject =>
      obtain ⟨-, hcloses⟩ := Option.ite_none_right_eq_some.mp hcloses
      exact absurd (Option.some.inj hcloses ▸ hfixed) rejected_not_fixed
    | route | grace | begin | result => cases hcloses
  | check | mark | giveUp | drop => cases hcloses

theorem findsNoFix_of_fixedOnEvidence {S : Settings} {w' : World} {l : Label}
    (h : step S w l = some w') (hfixed : FixedOnEvidence w l w') : FindsNoFix w l := by
  cases l with
  | diagnose t now proposal =>
    intro r hr hunder hfix
    obtain ⟨i, hphase, hrow, ha⟩ := diagnosed_eq_some hr
    obtain ⟨store, goes, ht, hw'⟩ := step_eq_some h
    subst hw'
    obtain ⟨j, hphase', hstore, _⟩ := transact_diagnose ht
    rw [hphase, Handler.diagnosing.injEq] at hphase'
    subst hphase'
    obtain ⟨s, hs, hwrites⟩ :=
      (diagnosisWrites_fixed_iff w.store i proposal).mpr ⟨r.2, ha, hfix⟩
    have hafter : store.db.incidentStatus i = some s := by
      rw [hstore, diagnose_status, if_pos rfl, hwrites]
      unfold Db.incidentStatus
      rw [hrow]
      rfl
    exact hfixed i r.1 s hrow hunder hafter hs
  | verify | recover | execute | check | mark | act | giveUp | drop => exact True.intro

/-- **In which runs a fix is never claimed without evidence.**  From any state,
an Incident under verification is closed as fixed only by a post-check that
passed or a poll without its code exactly when no diagnosis in the run finds,
under such an Incident, an Action that was executed on an approval, or on its
own with a case that no longer waits. -/
theorem fixed_on_evidence_iff (S : Settings) (w : World) (ls : List Label)
    (hrun : ((incidentSystem S).run w ls).isSome = true) :
    (incidentSystem S).Always FixedOnEvidence w ls ↔
      (incidentSystem S).Meets FindsNoFix w ls := by
  obtain ⟨w', hw'⟩ := Option.isSome_iff_exists.mp hrun
  apply Runs.System.always_iff_meets (incidentSystem S) FixedOnEvidence
    FindsNoFix _ ls w w' hw'
  intro w l w' h
  exact ⟨findsNoFix_of_fixedOnEvidence h, fixedOnEvidence_of_findsNoFix h⟩

/-- An Incident that waits for its verification, with an executed Action. -/
def sampleStore (action : ActionStatus) : Store where
  db :=
    { actions :=
        [⟨1, 7, "restart_osd_daemon", .risky, action,
          some ⟨"evidence", some "evidence"⟩, true, true, none, some 50, []⟩]
      incidents := [⟨7, none, "OSD_DOWN", none, .verifying, false, some 100, 0⟩]
      overrides := [] }
  cases :=
    [⟨1, 7, .executedPendingVerify, "v1",
      some (some { registry := some ⟨"restart_osd_daemon", "v1",
        "osd_and_fault_health_telemetry"⟩ })⟩]

/-- A poll that still sees the fault, or none. -/
def samplePoll (codes : List String) (now : Nat) : Poll :=
  ⟨codes, some "HEALTH_WARN", none, now, []⟩

/-- A fix that did not work, another diagnosis that finds the autonomous
Action waiting, and a verification that passes. -/
def verifiedRun : List Label :=
  [.verify (samplePoll ["OSD_DOWN"] 120), .check 0 7, .mark 0 false,
    .diagnose 0 130 .lowConfidence, .verify (samplePoll [] 260)]

theorem fixed_on_evidence_verifiedRun :
    (incidentSystem sampleSettings).Always FixedOnEvidence
        (World.initial (sampleStore .autoExecuted)) verifiedRun ∧
      ((incidentSystem sampleSettings).run
        (World.initial (sampleStore .autoExecuted)) verifiedRun).map
          (fun w => w.store.db.incidentStatus 7) = some (some .resolved) :=
  ⟨(fixed_on_evidence_iff sampleSettings _ verifiedRun
    (by decide +kernel)).mpr (by decide +kernel), by decide +kernel⟩

/-- The same with an Action that was executed on an approval: the poll sees the
fault, and the diagnosis it asks for closes the Incident. -/
def unverifiedRun : List Label :=
  [.verify (samplePoll ["OSD_DOWN"] 120), .check 0 7, .mark 0 false]

theorem closed_with_fault_present :
    ¬ (incidentSystem sampleSettings).Always FixedOnEvidence
        (World.initial (sampleStore .executed))
        (unverifiedRun ++ [.diagnose 0 130 .lowConfidence]) ∧
      ((incidentSystem sampleSettings).run
        (World.initial (sampleStore .executed))
        (unverifiedRun ++ [.diagnose 0 130 .lowConfidence])).map
          (fun w => w.store.db.incidentStatus 7) = some (some .resolved) := by
  refine ⟨?_, by decide +kernel⟩
  intro hall
  have hview : ((incidentSystem sampleSettings).run
      (World.initial (sampleStore .executed)) unverifiedRun).map
        (fun w => (w.store.db.incident? 7, w.entered,
          (step sampleSettings w (.diagnose 0 130 .lowConfidence)).map
            (fun w' => w'.store.db.incidentStatus 7))) =
      some (some ⟨7, none, "OSD_DOWN", none, .diagnosing, false, none, 1⟩, [7],
        some (some .resolved)) := by
    decide +kernel
  obtain ⟨w, hw, hfacts⟩ := Option.map_eq_some_iff.mp hview
  simp only [Prod.mk.injEq] at hfacts
  obtain ⟨hrow, hentered, hlast⟩ := hfacts
  obtain ⟨w', hstep, hresolved⟩ := Option.map_eq_some_iff.mp hlast
  have hevidence := hall.step_after hstep unverifiedRun _ hw
  refine hevidence 7 _ .resolved hrow ?_ hresolved (by decide)
  unfold UnderVerification
  rw [hentered]
  decide +kernel

end CephAi.Ports.VerifiedClosing
