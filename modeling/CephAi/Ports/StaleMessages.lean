import CephAi.Ports.IncidentRuns

/-!
# Messages about Incidents that are closed

The guard of `_handle_message_without_context` reads the status of an Incident;
the `DIAGNOSING` write, the diagnosis and the `FAILED` write come later and go
by primary key.  In between a Watcher or an operator may close the Incident.

## Main results

* `closed_stays_closed` — in the runs where no handler writes `DIAGNOSING` or
  `FAILED` after it was overtaken, none of them moves a closed Incident there.
-/

namespace CephAi.Ports.StaleMessages

open Verified Models ApprovedExecution
  Verification Diagnosis IncidentRuns
open ActionRuns (Settings sampleSettings)

/-- The step of a handler moves no closed Incident to `DIAGNOSING` or
`FAILED`. -/
def KeepsClosed (w : World) (l : Label) (w' : World) : Prop :=
  l.handler?.isSome = true →
    ∀ i s s', w.store.db.incidentStatus i = some s → s ∈ closedStatuses →
      w'.store.db.incidentStatus i = some s' →
        s' ≠ .diagnosing ∧ s' ≠ .failed

/-- A diagnosis fails its Incident: a gate refuses the proposal, or the Action
is in a status that stands for a failure. -/
def diagnosisFails (st : Store) (incidentId : Nat) (proposal : Proposal) : Bool :=
  match existingAction st.db incidentId with
  | .nothing =>
    match proposal with
    | .lowConfidence | .unverifiedTarget => true
    | .action .. => false
  | .one a =>
    [ActionStatus.failed, .executing, .gracePending, .inconclusive].contains
      a.status
  | .several => false

/-- A handler that another transaction has overtaken writes neither
`DIAGNOSING` nor `FAILED`. -/
def NotOvertaken (w : World) : Label → Prop
  | .mark t groupingFailed =>
    match w.handler t with
    | .checked _ loaded =>
      (loaded ≠ .diagnosing ∨ groupingFailed = true) → w.overtaken t = false
    | _ => True
  | .diagnose t _ proposal =>
    match w.handler t with
    | .diagnosing i =>
      diagnosisFails w.store i proposal = true → w.overtaken t = false
    | _ => True
  | .act t (.result false _) => w.overtaken t = false
  | .giveUp t => w.overtaken t = false
  | _ => True

instance (w : World) : ∀ l : Label, Decidable (NotOvertaken w l)
  | .mark t groupingFailed =>
    match h : w.handler t with
    | .checked _ loaded =>
      decidable_of_iff ((loaded ≠ .diagnosing ∨ groupingFailed = true) →
        w.overtaken t = false) (by simp only [NotOvertaken, h])
    | .idle => isTrue (by simp only [NotOvertaken, h])
    | .diagnosing _ => isTrue (by simp only [NotOvertaken, h])
    | .acting _ _ => isTrue (by simp only [NotOvertaken, h])
  | .diagnose t _ proposal =>
    match h : w.handler t with
    | .diagnosing i =>
      decidable_of_iff (diagnosisFails w.store i proposal = true →
        w.overtaken t = false) (by simp only [NotOvertaken, h])
    | .idle => isTrue (by simp only [NotOvertaken, h])
    | .checked _ _ => isTrue (by simp only [NotOvertaken, h])
    | .acting _ _ => isTrue (by simp only [NotOvertaken, h])
  | .act t (.result false _) => inferInstanceAs (Decidable (w.overtaken t = false))
  | .act _ (.result true _) => inferInstanceAs (Decidable True)
  | .act _ .route => inferInstanceAs (Decidable True)
  | .act _ .autoReject => inferInstanceAs (Decidable True)
  | .act _ (.grace _) => inferInstanceAs (Decidable True)
  | .act _ .begin => inferInstanceAs (Decidable True)
  | .giveUp t => inferInstanceAs (Decidable (w.overtaken t = false))
  | .verify _ => inferInstanceAs (Decidable True)
  | .recover _ => inferInstanceAs (Decidable True)
  | .execute _ => inferInstanceAs (Decidable True)
  | .check _ _ => inferInstanceAs (Decidable True)
  | .drop _ => inferInstanceAs (Decidable True)

/-- **Invariant.**  The Incident of a handler that has not been overtaken is
open. -/
def HandlesOpen (w : World) : Prop :=
  ∀ t i, (w.handler t).incident = some i → w.overtaken t = false →
    Open w.store.db i

theorem handlesOpen_initial (store : Store) : HandlesOpen (World.initial store) := by
  intro t i h
  cases h

/-! ## What a handler writes -/

variable {S : Settings} {i : Nat} {l : Label} {s : IncidentStatus} {st store : Store} {w w' : World}

theorem diagnosisWrites_failed {proposal : Proposal}
    (h : diagnosisWrites st i proposal = some .failed) : diagnosisFails st i proposal = true := by
  unfold diagnosisWrites at h
  unfold diagnosisFails
  cases ha : existingAction st.db i with
  | nothing =>
    rw [ha] at h
    cases proposal with
    | lowConfidence => rfl
    | unverifiedTarget => rfl
    | action => cases h
  | several =>
    rw [ha] at h
    cases h
  | one a =>
    rw [ha] at h
    dsimp only at h ⊢
    by_cases hpending : a.status = .pending
    · rw [if_pos hpending] at h
      cases h
    · rw [if_neg hpending] at h
      by_cases hcase : a.status = .autoExecuted ∧
          pendingCase st.cases a.id = true
      · rw [if_pos hcase] at h
        by_cases hmsgr : a.actionId = "enable_mon_msgr2"
        · simp [hmsgr] at h
        · simp [hmsgr] at h
      · rw [if_neg hcase, Option.some.injEq] at h
        cases hstatus : a.status with
        | failed | executing | gracePending | inconclusive => decide
        | pending => exact absurd hstatus hpending
        | autoExecuted | pendingApproval | approved | rejected | executed =>
          simp [hstatus, incidentStatusForResolvedAction] at h

theorem diagnosisWrites_ne_diagnosing (st : Store) (i : Nat)
    (proposal : Proposal) : diagnosisWrites st i proposal ≠ some .diagnosing := by
  unfold diagnosisWrites
  cases existingAction st.db i with
  | nothing => cases proposal <;> simp
  | several => simp
  | one a =>
    dsimp only
    by_cases hpending : a.status = .pending
    · simp [hpending]
    · rw [if_neg hpending]
      by_cases hcase : a.status = .autoExecuted ∧
          pendingCase st.cases a.id = true
      · rw [if_pos hcase]
        by_cases hmsgr : a.actionId = "enable_mon_msgr2"
        · simp [hmsgr]
        · simp [hmsgr]
      · rw [if_neg hcase]
        cases a.status with
        | pending | autoExecuted | pendingApproval | approved | executing | gracePending
        | inconclusive | rejected | executed | failed => simp [incidentStatusForResolvedAction]

theorem diagnosisWrites_of_goes_on {settings : VerifySettings} {now : Nat} {proposal : Proposal}
    (h : (diagnoseIncident settings st i now proposal).2 ≠ .returned) :
    diagnosisWrites st i proposal = none := by
  unfold diagnoseIncident at h
  cases hrow : st.db.incident? i with
  | none => simp [hrow] at h
  | some row =>
    rw [hrow] at h
    dsimp only at h
    unfold diagnosisWrites
    cases ha : existingAction st.db i with
    | nothing =>
      rw [ha] at h
      cases proposal with
      | lowConfidence | unverifiedTarget => exact absurd rfl h
      | action => rfl
    | several => rfl
    | one a =>
      rw [ha] at h
      dsimp only at h ⊢
      unfold resumeAction at h
      by_cases hpending : a.status = .pending
      · rw [if_pos hpending]
      · rw [if_neg hpending] at h ⊢
        by_cases hcase : a.status = .autoExecuted ∧
            pendingCase st.cases a.id = true
        · rw [if_pos hcase] at h ⊢
          by_cases hmsgr : a.actionId = "enable_mon_msgr2"
          · rw [if_pos hmsgr]
          · rw [if_neg hmsgr] at h
            exact absurd rfl h
        · rw [if_neg hcase] at h
          exact absurd rfl h

/-! ## Steps -/

theorem open_of_checkMessage {db : Db} (h : checkMessage db i = some s) : Open db i := by
  obtain ⟨hs, hpass⟩ := Option.filter_eq_some_iff.mp h
  intro s' hs'
  rw [hs, Option.some.injEq] at hs'
  subst hs'
  cases s with
  | resolved | autoFixed | rejected => simp [nonProcessableStatuses] at hpass
  | new | diagnosing | pendingApproval | approved | executing | gracePending | verifying
  | failed => decide

theorem open_of_step (h : step S w l = some w') (hopen : Open w.store.db i)
    (hcloses : closes w i l = none) : Open w'.store.db i := by
  intro s hs hclosed
  have hto := closes_of_step h i hopen s hs hclosed
  rw [hcloses] at hto
  cases hto

theorem closes_of_goes_on {t : Nat} {next : Handler} (hcheck : ∀ j, l ≠ .check t j)
    (ht : transact S w l = some (store, some (t, next))) (hnext : next.incident = some i) :
    (w.handler t).incident = some i ∧ closes w i l = none := by
  cases l with
  | verify | recover => cases ht
  | execute x =>
    obtain ⟨st, _, heq⟩ := Option.map_eq_some_iff.mp ht
    cases heq
  | check t' j =>
    obtain ⟨_, _, hgoes⟩ := transact_check ht
    cases hgoes with
    | inl hnone => cases hnone
    | inr hsome =>
      obtain ⟨s, _, hgoes⟩ := hsome
      cases hgoes
      exact absurd rfl (hcheck j)
  | mark t' groupingFailed =>
    obtain ⟨j, s, hphase, hr⟩ := transact_mark ht
    cases hr
    cases hnext
    rw [hphase]
    exact ⟨rfl, rfl⟩
  | diagnose t' now proposal =>
    obtain ⟨j, hphase, _, next', hgoes, hend⟩ := transact_diagnose ht
    cases hgoes
    cases hend with
    | inl hidle =>
      subst hidle
      cases hnext
    | inr hgo =>
      rw [hnext, Option.some.injEq] at hgo
      obtain ⟨hij, hret⟩ := hgo
      subst hij
      refine ⟨by rw [hphase]; rfl, ?_⟩
      show (if w.handler t = .diagnosing i then
        (diagnosisWrites w.store i proposal).filter
          (fun s => closedStatuses.contains s) else none) = none
      rw [if_pos hphase, diagnosisWrites_of_goes_on hret]
      rfl
  | act t' a =>
    obtain ⟨j, pk, hphase, _, hgoes⟩ := transact_act ht
    cases hgoes
    cases a with
    | begin =>
      cases hnext
      rw [hphase]
      exact ⟨rfl, rfl⟩
    | route | autoReject | grace | result => cases hnext
  | giveUp t' =>
    obtain ⟨j, _, hr⟩ := transact_giveUp ht
    cases hr
    cases hnext
  | drop t' =>
    cases ht
    cases hnext

theorem goes_cases {goes : Option (Nat × Handler)} (hcheck : ∀ t j, l ≠ .check t j)
    (ht : transact S w l = some (store, goes)) :
    goes = none ∧ l.handler? = none ∨
      ∃ t next, goes = some (t, next) ∧ l.handler? = some t := by
  cases l with
  | verify | recover =>
    cases ht
    exact Or.inl ⟨rfl, rfl⟩
  | execute x =>
    obtain ⟨st, _, heq⟩ := Option.map_eq_some_iff.mp ht
    cases heq
    exact Or.inl ⟨rfl, rfl⟩
  | check t j => exact absurd rfl (hcheck t j)
  | mark t groupingFailed =>
    obtain ⟨j, s, _, hr⟩ := transact_mark ht
    cases hr
    exact Or.inr ⟨t, _, rfl, rfl⟩
  | diagnose t now proposal =>
    obtain ⟨j, _, _, next, hgoes, _⟩ := transact_diagnose ht
    exact Or.inr ⟨t, next, hgoes, rfl⟩
  | act t a =>
    obtain ⟨j, pk, _, _, hgoes⟩ := transact_act ht
    exact Or.inr ⟨t, _, hgoes, rfl⟩
  | giveUp t =>
    obtain ⟨j, _, hr⟩ := transact_giveUp ht
    cases hr
    exact Or.inr ⟨t, _, rfl, rfl⟩
  | drop t =>
    cases ht
    exact Or.inr ⟨t, _, rfl, rfl⟩

theorem handlesOpen_check {t j : Nat} {goes : Option (Nat × Handler)} (hw : HandlesOpen w)
    (ht : transact S w (.check t j) = some (store, goes)) :
    HandlesOpen (w.advance (.check t j) store goes) := by
  obtain ⟨hidle, hstore, hgoes⟩ := transact_check ht
  subst hstore
  intro t' i hinc hover
  by_cases ht' : t' = t
  · subst ht'
    cases hgoes with
    | inl hnone =>
      subst hnone
      have hinc' : (w.handler t').incident = some i := hinc
      rw [hidle] at hinc'
      cases hinc'
    | inr hsome =>
      obtain ⟨s, hpass, hgoes⟩ := hsome
      subst hgoes
      simp only [World.advance, if_true] at hinc
      cases hinc
      exact open_of_checkMessage hpass
  · have hover' : w.overtaken t' = false := by
      simpa only [World.advance, if_neg ht'] using hover
    have hinc' : (w.handler t').incident = some i := by
      cases hgoes with
      | inl hnone =>
        subst hnone
        exact hinc
      | inr hsome =>
        obtain ⟨s, _, hgoes⟩ := hsome
        subst hgoes
        simpa only [World.advance, if_neg ht'] using hinc
    exact hw t' i hinc' hover'

theorem advance_overtaken {w : World} {l : Label} (store : Store)
    (goes : Option (Nat × Handler)) (hcheck : ∀ t j, l ≠ .check t j) (t : Nat) :
    (w.advance l store goes).overtaken t =
      (w.overtaken t || (l.handler? != some t &&
        (w.handler t).incident.any (fun i => (closes w i l).isSome))) := by
  cases l with
  | check t' j => exact absurd rfl (hcheck t' j)
  | verify | recover | execute | mark | diagnose | act | giveUp | drop => rfl

/-- **Step lemma.**  Whoever closes the Incident of a handler overtakes it. -/
theorem handlesOpen_step (hw : HandlesOpen w) (h : step S w l = some w') : HandlesOpen w' := by
  obtain ⟨store, goes, ht, hw'⟩ := step_eq_some h
  subst hw'
  by_cases hcheck : ∃ t j, l = .check t j
  · obtain ⟨t, j, hl⟩ := hcheck
    subst hl
    exact handlesOpen_check hw ht
  · have hcheck' : ∀ t j, l ≠ .check t j := fun t j hl => hcheck ⟨t, j, hl⟩
    intro t i hinc hover
    rw [advance_overtaken store goes hcheck'] at hover
    obtain ⟨hbefore, hothers⟩ := Bool.or_eq_false_iff.mp hover
    have hkeeps : (w.handler t).incident = some i ∧ closes w i l = none := by
      cases goes_cases hcheck' ht with
      | inl hnone =>
        obtain ⟨hgoes, hhandler⟩ := hnone
        subst hgoes
        have hinc' : (w.handler t).incident = some i := hinc
        refine ⟨hinc', ?_⟩
        simpa [hhandler, hinc'] using hothers
      | inr hsome =>
        obtain ⟨t', next, hgoes, hhandler⟩ := hsome
        subst hgoes
        by_cases heq : t = t'
        · subst heq
          simp only [World.advance, if_true] at hinc
          exact closes_of_goes_on (hcheck' t) ht hinc
        · have hinc' : (w.handler t).incident = some i := by
            simpa only [World.advance, if_neg heq] using hinc
          have hne : (t' == t) = false := by
            simpa using fun h => heq h.symm
          refine ⟨hinc', ?_⟩
          simpa [hhandler, hinc', hne, bne] using hothers
    exact open_of_step h (hw t i hkeeps.1 hbefore) hkeeps.2

/-! ## A handler and a closed Incident -/

theorem kept_of_write {db db' : Db} {i' : Nat} {new : Option IncidentStatus} {s' : IncidentStatus}
    (hwrite : db'.incidentStatus i =
      if i = i' then (db.incidentStatus i).map (fun s => new.getD s)
      else db.incidentStatus i)
    (hkeep : i = i' → new ≠ some .diagnosing ∧ (new = some .failed → Open db i))
    (hs : db.incidentStatus i = some s) (hclosed : s ∈ closedStatuses)
    (hs' : db'.incidentStatus i = some s') : s' ≠ .diagnosing ∧ s' ≠ .failed := by
  have hself : s ≠ .diagnosing ∧ s ≠ .failed := by
    constructor
    · intro h
      subst h
      exact absurd hclosed (by decide)
    · intro h
      subst h
      exact absurd hclosed (by decide)
  rw [hwrite] at hs'
  by_cases hi : i = i'
  · rw [if_pos hi, hs, Option.map_some, Option.some.injEq] at hs'
    obtain ⟨hdiagnosing, hfailed⟩ := hkeep hi
    cases new with
    | none =>
      have heq : s = s' := hs'
      exact heq ▸ hself
    | some status =>
      have heq : status = s' := hs'
      subst heq
      constructor
      · intro h
        exact hdiagnosing (congrArg some h)
      · intro h
        exact absurd hclosed (hfailed (congrArg some h) s hs)
  · rw [if_neg hi, hs, Option.some.injEq] at hs'
    exact hs' ▸ hself

theorem kept_of_act {settings : VerifySettings} {st' : Store} {i' pk : Nat} {a : Act}
    {s' : IncidentStatus} (h : a.apply settings st i' pk = some st')
    (hfresh : ∀ now, a = .result false now → i = i' → Open st.db i)
    (hs : st.db.incidentStatus i = some s) (hclosed : s ∈ closedStatuses)
    (hs' : st'.db.incidentStatus i = some s') : s' ≠ .diagnosing ∧ s' ≠ .failed := by
  cases a with
  | route | autoReject | begin =>
    cases h
    exact kept_of_write (incidentStatus_write st.db pk _ i' _ i)
      (fun _ => by simp) hs hclosed hs'
  | grace graceUntil =>
    obtain ⟨db, hdb, hst⟩ := Option.map_eq_some_iff.mp h
    subst hst
    unfold startGrace at hdb
    cases ha : st.db.action? pk with
    | none => simp [ha] at hdb
    | some row =>
      simp only [ha] at hdb
      cases hgrace : row.graceUntil.isSome with
      | true => simp [hgrace] at hdb
      | false =>
        simp only [hgrace, Bool.false_eq_true, if_false,
          Option.some.injEq] at hdb
        subst hdb
        exact kept_of_write (incidentStatus_write st.db pk _ i' _ i)
          (fun _ => by simp) hs hclosed hs'
  | result succeeded now =>
    cases h
    cases succeeded with
    | true =>
      exact kept_of_write (incidentStatus_write st.db pk _ i' _ i)
        (fun _ => by simp) hs hclosed hs'
    | false =>
      exact kept_of_write (incidentStatus_write st.db pk _ i' _ i)
        (fun hi => ⟨by simp, fun _ => hfresh now rfl hi⟩) hs hclosed hs'

theorem keepsClosed_step (hw : HandlesOpen w) (hfresh : NotOvertaken w l)
    (h : step S w l = some w') : KeepsClosed w l w' := by
  obtain ⟨store, goes, ht, hw'⟩ := step_eq_some h
  subst hw'
  intro hhandler i s s' hs hclosed hs'
  change store.db.incidentStatus i = some s' at hs'
  have hsame : ∀ db : Db, db.incidentStatus i = w.store.db.incidentStatus i →
      db.incidentStatus i = some s' → s' ≠ .diagnosing ∧ s' ≠ .failed := by
    intro db hdb hdb'
    have hwrite : db.incidentStatus i = (if i = i then
        (w.store.db.incidentStatus i).map ((none : Option _).getD ·)
        else w.store.db.incidentStatus i) := by
      rw [hdb, if_pos rfl, hs]
      rfl
    exact kept_of_write hwrite (fun _ => by simp) hs hclosed hdb'
  cases l with
  | verify | recover | execute => cases hhandler
  | check t j =>
    obtain ⟨_, hstore, _⟩ := transact_check ht
    subst hstore
    exact hsame _ rfl hs'
  | mark t groupingFailed =>
    obtain ⟨j, loaded, hphase, hr⟩ := transact_mark ht
    cases hr
    change (markDiagnosing w.store.db j loaded groupingFailed).incidentStatus i
      = some s' at hs'
    unfold markDiagnosing at hs'
    by_cases hnoop : loaded = .diagnosing ∧ groupingFailed = false
    · rw [if_pos hnoop] at hs'
      exact hsame _ rfl hs'
    · rw [if_neg hnoop] at hs'
      by_cases hij : i = j
      · subst hij
        have hwrites : loaded ≠ .diagnosing ∨ groupingFailed = true := by
          by_cases hl : loaded = .diagnosing
          · right
            cases hg : groupingFailed with
            | true => rfl
            | false => exact absurd ⟨hl, hg⟩ hnoop
          · exact Or.inl hl
        unfold NotOvertaken at hfresh
        simp only [hphase] at hfresh
        have hopen := hw t i (by rw [hphase]; rfl) (hfresh hwrites)
        exact absurd hclosed (hopen s hs)
      · rw [incidentStatus_writeIncident, if_neg hij] at hs'
        exact hsame _ rfl hs'
  | diagnose t now proposal =>
    obtain ⟨j, hphase, hstore, _⟩ := transact_diagnose ht
    subst hstore
    apply kept_of_write
      (diagnose_status S.verify w.store j now proposal i) _ hs hclosed hs'
    intro hij
    subst hij
    refine ⟨diagnosisWrites_ne_diagnosing w.store i proposal, ?_⟩
    intro hfailed
    unfold NotOvertaken at hfresh
    simp only [hphase] at hfresh
    exact hw t i (by rw [hphase]; rfl)
      (hfresh (diagnosisWrites_failed hfailed))
  | act t a =>
    obtain ⟨j, pk, hphase, hst, _⟩ := transact_act ht
    apply kept_of_act hst _ hs hclosed hs'
    intro now ha hij
    subst ha hij
    exact hw t i (by rw [hphase]; rfl) hfresh
  | giveUp t =>
    obtain ⟨j, hphase, hr⟩ := transact_giveUp ht
    cases hr
    change (setIncidentStatus w.store.db j .failed).incidentStatus i = some s'
      at hs'
    apply kept_of_write
      (incidentStatus_writeIncident w.store.db j { status := some .failed } i)
      _ hs hclosed hs'
    intro hij
    subst hij
    refine ⟨by simp, fun _ => ?_⟩
    apply hw t i _ hfresh
    cases hphase with
    | inl hdiagnosing =>
      rw [hdiagnosing]
      rfl
    | inr hacting =>
      obtain ⟨pk, hacting⟩ := hacting
      rw [hacting]
      rfl
  | drop t =>
    cases ht
    exact hsame _ rfl hs'

/-- **Closed Incidents stay closed.**  In a run where no handler writes
`DIAGNOSING` or `FAILED` after another transaction has closed its Incident, no
handler ever moves a closed Incident to one of them. -/
theorem closed_stays_closed (S : Settings) (store : Store) (ls : List Label)
    (hmeets : (incidentSystem S).Meets NotOvertaken (World.initial store) ls) :
    (incidentSystem S).Always KeepsClosed (World.initial store) ls := by
  apply Runs.System.always_of_meets (incidentSystem S) KeepsClosed NotOvertaken
    HandlesOpen _ ls (World.initial store) (handlesOpen_initial store) hmeets
  intro w l w' hw hfresh h
  exact ⟨keepsClosed_step hw hfresh h, handlesOpen_step hw h⟩

/-- A new Incident without an Action. -/
def sampleStore : Store where
  db :=
    { actions := []
      incidents := [⟨7, none, "OSD_DOWN", none, .new, false, none, 0⟩]
      overrides := [] }
  cases := []

/-- A pass over a cluster where nothing is reported any more. -/
def sampleRecovery : Recovery := ⟨[], none, true, [(none, "OSD_DOWN")], []⟩

/-- A message is handled before the Watcher closes the Incident, and another one
comes after that. -/
def promptRun : List Label :=
  [.check 0 7, .mark 0 false, .diagnose 0 100 .lowConfidence,
    .recover sampleRecovery, .check 1 7, .drop 1]

theorem closed_stays_closed_promptRun :
    (incidentSystem sampleSettings).Always KeepsClosed
        (World.initial sampleStore) promptRun ∧
      ((incidentSystem sampleSettings).run (World.initial sampleStore)
        promptRun).map (fun w => w.store.db.incidentStatus 7) =
          some (some .resolved) :=
  ⟨closed_stays_closed sampleSettings sampleStore promptRun (by decide +kernel),
    by decide +kernel⟩

/-- The Watcher resolves the Incident between the guard and the write of the
handler. -/
theorem resolved_then_diagnosing :
    ¬ (incidentSystem sampleSettings).Always KeepsClosed
        (World.initial sampleStore)
        ([.check 0 7, .recover sampleRecovery] ++ [.mark 0 false]) := by
  intro hall
  have hview : ((incidentSystem sampleSettings).run (World.initial sampleStore)
      [.check 0 7, .recover sampleRecovery]).map
        (fun w => (w.store.db.incidentStatus 7,
          (step sampleSettings w (.mark 0 false)).map
            (fun w' => w'.store.db.incidentStatus 7))) =
      some (some .resolved, some (some .diagnosing)) := by
    decide +kernel
  obtain ⟨w, hw, hfacts⟩ := Option.map_eq_some_iff.mp hview
  simp only [Prod.mk.injEq] at hfacts
  obtain ⟨hresolved, hlast⟩ := hfacts
  obtain ⟨w', hstep, hdiagnosing⟩ := Option.map_eq_some_iff.mp hlast
  have hkeeps := hall.step_after hstep _ _ hw
  have hne := (hkeeps rfl 7 .resolved .diagnosing hresolved (by decide)
    hdiagnosing).1
  exact hne rfl

end CephAi.Ports.StaleMessages
