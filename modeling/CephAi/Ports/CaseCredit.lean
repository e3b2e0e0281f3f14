import CephAi.Ports.IncidentRuns

/-!
# Which case a verified fix is credited to

Every writer of `RemediationCase.outcome`: `create_for_action`, `record_execution`,
`record_verified`, `record_inconclusive`, `backfill_missing_cases` and
`reconcile_closed_proposals` of `shared/remediation_cases.py`, in the transactions that call them.
Other transactions may change Actions and Incidents in any way.

`verify_pending_incidents` judges one Action of an Incident, the one that was executed last, and
records the verdict by the Incident: every case of it that is proposed or waits for a
verification gets it.

## Main results

* `verifyRow_spec` — what a pass leaves of a case.
* `credited_step` — what becomes a verified success in a step.
* `credited_of_ownCase` — in the runs where the open cases of an Incident are of the Action that is
  judged, a verified success is always of that Action.
* `credited_unexecuted` — an Action that nobody approved gets the credit of another one.
-/

namespace CephAi.Ports.CaseCredit

open Verified Models ApprovedExecution
  Verification
open IncidentRuns (monitorOwned)

/-! ## The case memory -/

/-- `RemediationCase.outcome` -/
inductive Outcome
  | proposed
  | executing
  | executedPendingVerify
  | executedUnverified
  | executionFailed
  | rejected
  | inconclusive
  | verifiedSuccess
  | verifiedFailed
  | legacyResolvedUnverified
deriving DecidableEq, Repr

/-- A row of `remediation_cases`, as `Case` with every outcome. -/
structure CaseRow where
  action : Nat
  incident : Nat
  outcome : Outcome
  playbookVersion : String
  preflight : Option (Option Snapshot)
deriving DecidableEq, Repr

/-- What a post-check reads of a row; it does not look at the outcome. -/
def CaseRow.toCase (c : CaseRow) : Case where
  action := c.action
  incident := c.incident
  outcome := .proposed
  playbookVersion := c.playbookVersion
  preflight := c.preflight

def CaseRow.set (outcome : Outcome) (c : CaseRow) : CaseRow := { c with outcome := outcome }

/-- The outcomes that `record_verified` replaces. -/
def Outcome.awaiting : Outcome → Bool
  | .executedPendingVerify | .proposed => true
  | _ => false

def recordExecution (pk : Nat) (succeeded : Bool) (c : CaseRow) : CaseRow :=
  if c.action = pk then
    c.set (if succeeded then .executedPendingVerify else .executionFailed)
  else c

def recordVerified (incidentId : Nat) (succeeded : Bool) (c : CaseRow) : CaseRow :=
  if c.incident = incidentId ∧ c.outcome.awaiting = true then
    c.set (if succeeded then .verifiedSuccess else .verifiedFailed)
  else c

def recordInconclusive (pk : Nat) (c : CaseRow) : CaseRow :=
  if c.action = pk then c.set .inconclusive else c

/-- `create_for_action`; the version and the snapshot are those of the contract. -/
def createForAction (db : Db) (cases : List CaseRow) (pk : Nat) (outcome : Outcome)
    (playbookVersion : String) (preflight : Option (Option Snapshot)) : List CaseRow :=
  match db.action? pk with
  | some a =>
    if cases.any fun c => c.action = pk then cases
    else cases ++ [⟨pk, a.incidentId, outcome, playbookVersion, preflight⟩]
  | none => cases

def legacyOutcome (a : Action) (i : Incident) : Outcome :=
  match a.status with
  | .inconclusive => .inconclusive
  | .failed => .executionFailed
  | .rejected => .rejected
  | .executing => .executing
  | .autoExecuted | .executed =>
    if i.status = .verifying then .executedPendingVerify
    else if i.status = .resolved then .legacyResolvedUnverified
    else .executedUnverified
  | _ => .proposed

/-- A case that `backfill_missing_cases` adds. -/
structure Backfill where
  pk : Nat
  playbookVersion : String
  preflight : Option (Option Snapshot)
deriving DecidableEq, Repr

/-- One turn of `backfill_missing_cases`. -/
def backfillCase (db : Db) (cases : List CaseRow) (b : Backfill) : List CaseRow :=
  match db.action? b.pk with
  | some a =>
    match db.incident? a.incidentId with
    | some i => createForAction db cases b.pk (legacyOutcome a i) b.playbookVersion b.preflight
    | none => cases
  | none => cases

def closedOutcome (db : Db) (a : Action) (createdAt : Option Nat) (incident now : Nat) :
    Option Outcome :=
  match a.status with
  | .rejected => some .rejected
  | .failed => some .executionFailed
  | .inconclusive => some .inconclusive
  | .autoExecuted | .executed =>
    match a.executedAt.or createdAt with
    | none => none
    | some ranAt =>
      if now < ranAt + 24 * 60 * 60 then none
      else if db.incidentStatus incident = some .verifying then some .executedPendingVerify
      else some .executedUnverified
  | _ => none

/-- `reconcile_closed_proposals`, of one row that is among the first of them. -/
def reconcileProposal (db : Db) (createdAt : List (Nat × Nat)) (now : Nat) (picked : List Nat)
    (c : CaseRow) : CaseRow :=
  if c.outcome = .proposed ∧ c.action ∈ picked then
    match db.action? c.action with
    | some a =>
      match closedOutcome db a (createdAt.lookup a.id) c.incident now with
      | some outcome => c.set outcome
      | none => c
    | none => c
  else c

/-! ## Runs -/

/-- Actions, Incidents and cases.  `ineffective` are the Actions that were executed when a pass
still saw the fault of their Incident, and have not run since. -/
structure World where
  db : Db
  cases : List CaseRow
  ineffective : List Nat
deriving DecidableEq, Repr

/-- What the post-checks read. -/
def World.store (w : World) : Store := ⟨w.db, w.cases.map CaseRow.toCase⟩

/-- The transactions. -/
inductive Label
  /-- A diagnosis has proposed the Action. -/
  | propose (pk : Nat) (playbookVersion : String) (preflight : Option (Option Snapshot))
  | safeResult (pk incidentId : Nat) (succeeded : Bool) (now : Nat)
  | approvedResult (pk : Nat) (succeeded : Bool) (now : Nat)
  /-- A Worker finds an execution that nobody finishes. -/
  | inconclusive (pk : Nat)
  | verify (p : Poll)
  | backfill (rows : List Backfill)
  | reconcile (createdAt : List (Nat × Nat)) (now : Nat) (picked : List Nat)
  /-- A transaction that writes no case. -/
  | other (db : Db)
deriving DecidableEq, Repr

/-- What the verdict on a due Incident records in a row. -/
def verifyCase (settings : VerifySettings) (st : Store) (p : Poll) (i : Incident)
    (c : CaseRow) : CaseRow :=
  match evaluateLatestPostcheck st p i with
  | (.inconclusive, some a) => recordInconclusive a.id c
  | (.inconclusive, none) => c
  | (.passed, _) => recordVerified i.id true c
  | (.failed, _) =>
    if max 1 settings.verifyMaxAttempts ≤ i.verifyAttempts + 1 then recordVerified i.id false c
    else c

/-- The Incidents that a pass verifies. -/
def World.due (w : World) (p : Poll) : List Incident := w.db.incidents.filter (verifyDue p)

def hasRun (a : Action) : Bool := [ActionStatus.executed, .autoExecuted].contains a.status

/-- The Actions whose runs a pass finds without effect. -/
def World.foundIneffective (w : World) (p : Poll) : List Nat :=
  ((w.db.actions.filter fun a => hasRun a && (w.due p).any fun i =>
    i.id = a.incidentId ∧ (evaluateLatestPostcheck w.store p i).1 = .failed)).map Action.id

/-- The Action has run, or failed. -/
def World.executed (w : World) (pk : Nat) (succeeded : Bool) (db : Db) : World where
  db := db
  cases := w.cases.map (recordExecution pk succeeded)
  ineffective := if succeeded then w.ineffective.filter (· ≠ pk) else w.ineffective

def step (settings : VerifySettings) (w : World) : Label → Option World
  | .propose pk playbookVersion preflight =>
    some { w with
      cases := createForAction w.db w.cases pk .proposed playbookVersion preflight }
  | .safeResult pk incidentId succeeded now =>
    match w.db.action? pk with
    | none => some w
    | some _ =>
      some (w.executed pk succeeded
        (recordExecutionResult settings w.db pk incidentId succeeded now))
  | .approvedResult pk succeeded now =>
    match w.db.action? pk with
    | none => some w
    | some a =>
      let w' := w.executed pk succeeded
        (recordApprovedExecutionResult settings w.db pk succeeded now)
      if succeeded && monitorOwned w.db a.incidentId then
        some { w' with cases := w'.cases.map (recordVerified a.incidentId true) }
      else some w'
  | .inconclusive pk =>
    match w.db.action? pk with
    | none => some w
    | some a =>
      some { w with
        db := w.db.write pk { status := some .inconclusive } a.incidentId
          { status := some .failed }
        cases := w.cases.map (recordInconclusive pk) }
  | .verify p =>
    some {
      db := (verifyPendingIncidents settings w.store p).db
      cases := (w.due p).foldl
        (fun cases i => cases.map (verifyCase settings w.store p i)) w.cases
      ineffective := w.ineffective ++ w.foundIneffective p }
  | .backfill rows => some { w with cases := rows.foldl (backfillCase w.db) w.cases }
  | .reconcile createdAt now picked =>
    some { w with cases := w.cases.map (reconcileProposal w.db createdAt now picked) }
  | .other db => some { w with db := db }

def caseMemory (settings : VerifySettings) : Runs.System World Label := ⟨step settings⟩

/-! ## Property and condition -/

/-- The step judges this Action for its Incident: the post-check of the pass is about it, it has
run and no earlier pass found it without effect; or its run is just recorded, and the fault is a
monitor's to watch. -/
def Judges (w : World) (incidentId : Nat) (a : Action) : Label → Prop
  | .verify p => hasRun a = true ∧ a.id ∉ w.ineffective ∧
      ∃ row ∈ w.due p, row.id = incidentId ∧
        evaluateLatestPostcheck w.store p row = (.passed, some a)
  | .approvedResult pk succeeded _ =>
    succeeded = true ∧ w.db.action? pk = some a ∧ a.incidentId = incidentId ∧
      monitorOwned w.db incidentId = true
  | _ => False

/-- A case that becomes a verified success is the one of the Action that the step judges. -/
def Credited (w : World) (l : Label) (w' : World) : Prop :=
  ∀ c' ∈ w'.cases, c'.outcome = .verifiedSuccess →
    (∀ c ∈ w.cases, c.action = c'.action → c.outcome ≠ .verifiedSuccess) →
    ∃ a, Judges w c'.incident a l ∧ a.id = c'.action

/-- The condition on a step: where it records a success for an Incident, the open cases of the
Incident are those of the Action that is judged, and no pass has found that Action without effect
since it ran. -/
def OwnCase (w : World) : Label → Prop
  | .verify p => ∀ row ∈ w.due p, (evaluateLatestPostcheck w.store p row).1 = .passed →
      ∀ c ∈ w.cases, c.incident = row.id → c.outcome.awaiting = true →
        (evaluateLatestPostcheck w.store p row).2.any (fun a =>
          a.id = c.action ∧ a.id ∉ w.ineffective) = true
  | .approvedResult pk succeeded _ => succeeded = true → ∀ a ∈ w.db.action? pk,
      monitorOwned w.db a.incidentId = true →
      ∀ c ∈ w.cases, c.incident = a.incidentId → c.outcome.awaiting = true → c.action = pk
  | _ => True

instance (w : World) (l : Label) : Decidable (OwnCase w l) :=
  match l with
  | .verify p => inferInstanceAs (Decidable (∀ row ∈ w.due p,
      (evaluateLatestPostcheck w.store p row).1 = .passed →
      ∀ c ∈ w.cases, c.incident = row.id → c.outcome.awaiting = true →
        (evaluateLatestPostcheck w.store p row).2.any (fun a =>
          a.id = c.action ∧ a.id ∉ w.ineffective) = true))
  | .approvedResult pk succeeded _ => inferInstanceAs (Decidable (succeeded = true →
      ∀ a ∈ w.db.action? pk, monitorOwned w.db a.incidentId = true →
      ∀ c ∈ w.cases, c.incident = a.incidentId → c.outcome.awaiting = true → c.action = pk))
  | .propose .. | .safeResult .. | .inconclusive _ | .backfill _ | .reconcile .. | .other _ =>
    isTrue trivial

/-! ## What the writers leave of a row -/

variable {w w' : World} {settings : VerifySettings} {st : Store} {p : Poll}

theorem recordVerified_cases (i : Nat) (succeeded : Bool) (c : CaseRow) :
    recordVerified i succeeded c = c ∨
      (c.incident = i ∧ c.outcome.awaiting = true ∧
        recordVerified i succeeded c =
          c.set (if succeeded then .verifiedSuccess else .verifiedFailed)) := by
  unfold recordVerified
  split
  · next hopen => exact .inr ⟨hopen.1, hopen.2, rfl⟩
  · exact .inl rfl

theorem verifyCase_cases (settings : VerifySettings) (st : Store) (p : Poll) (i : Incident)
    (c : CaseRow) :
    verifyCase settings st p i c = c ∨
      (∃ o, verifyCase settings st p i c = c.set o ∧ o.awaiting = false ∧
        (o = .verifiedSuccess → (evaluateLatestPostcheck st p i).1 = .passed ∧
          c.incident = i.id ∧ c.outcome.awaiting = true)) := by
  unfold verifyCase
  split
  · unfold recordInconclusive
    split
    · exact .inr ⟨.inconclusive, rfl, rfl, fun hno => nomatch hno⟩
    · exact .inl rfl
  · exact .inl rfl
  · next heval =>
    rcases recordVerified_cases i.id true c with hsame | ⟨hincident, hopen, hset⟩
    · exact .inl hsame
    · exact .inr ⟨.verifiedSuccess, hset, rfl, fun _ => ⟨by rw [heval], hincident, hopen⟩⟩
  · split
    · rcases recordVerified_cases i.id false c with hsame | ⟨_, _, hset⟩
      · exact .inl hsame
      · exact .inr ⟨.verifiedFailed, hset, rfl, fun hno => nomatch hno⟩
    · exact .inl rfl

/-- The verdicts on one row after another. -/
def verifyRow (settings : VerifySettings) (st : Store) (p : Poll) (rows : List Incident)
    (c : CaseRow) : CaseRow :=
  rows.foldl (fun c i => verifyCase settings st p i c) c

theorem foldl_verifyCase (rows : List Incident) (cases : List CaseRow) :
    rows.foldl (fun cases i => cases.map (verifyCase settings st p i)) cases =
      cases.map (verifyRow settings st p rows) := by
  induction rows generalizing cases with
  | nil => exact (List.map_id cases).symm
  | cons i rows ih =>
    rw [List.foldl_cons, ih, List.map_map]
    rfl

theorem verifyRow_spec (settings : VerifySettings) (st : Store) (p : Poll)
    (rows : List Incident) (c : CaseRow) :
    (verifyRow settings st p rows c).action = c.action ∧
      (verifyRow settings st p rows c).incident = c.incident ∧
      ((verifyRow settings st p rows c).outcome = .verifiedSuccess →
        c.outcome = .verifiedSuccess ∨ ∃ i ∈ rows,
          (evaluateLatestPostcheck st p i).1 = .passed ∧ c.incident = i.id ∧
            c.outcome.awaiting = true) := by
  induction rows generalizing c with
  | nil => exact ⟨rfl, rfl, .inl⟩
  | cons i rows ih =>
    obtain ⟨haction, hincident, hsuccess⟩ := ih (verifyCase settings st p i c)
    have hcons : verifyRow settings st p (i :: rows) c =
        verifyRow settings st p rows (verifyCase settings st p i c) := rfl
    rw [hcons]
    rcases verifyCase_cases settings st p i c with
      hsame | ⟨o, hset, hclosed, hwhen⟩
    · rw [hsame] at haction hincident hsuccess ⊢
      refine ⟨haction, hincident, ?_⟩
      intro h
      rcases hsuccess h with hbefore | ⟨i', hi', hrest⟩
      · exact .inl hbefore
      · exact .inr ⟨i', List.mem_cons_of_mem i hi', hrest⟩
    · rw [hset] at haction hincident hsuccess ⊢
      refine ⟨haction, hincident, ?_⟩
      intro h
      rcases hsuccess h with hnow | ⟨_, _, _, _, hopen⟩
      · exact .inr ⟨i, List.mem_cons_self, hwhen hnow⟩
      · have hclosed' : o.awaiting = true := hopen
        rw [hclosed] at hclosed'
        cases hclosed'

/-! ## The Action that a pass judges -/

variable {a : Action} {db : Db}

theorem hasRun_of_latestExecuted {incidentId : Nat} (h : latestExecuted db incidentId = some a) :
    hasRun a = true := by
  unfold latestExecuted at h
  have hmem := List.mem_of_mem_head? h
  rw [List.mem_insertionSort] at hmem
  have hboth := (List.mem_filter.mp hmem).2
  rw [Bool.and_eq_true] at hboth
  exact hboth.2

theorem evaluated_of_passed {i : Incident} (h : (evaluateLatestPostcheck st p i).1 = .passed) :
    ∃ a, evaluateLatestPostcheck st p i = (.passed, some a) ∧ hasRun a = true := by
  have hpair : ∀ o, (evaluateLatestPostcheck st p i).2 = o →
      evaluateLatestPostcheck st p i = (.passed, o) := fun o ho => Prod.ext h ho
  cases hlatest : latestExecuted st.db i.id with
  | none =>
    unfold evaluateLatestPostcheck at h
    rw [hlatest] at h
    cases h
  | some a =>
    refine ⟨a, hpair (some a) ?_, hasRun_of_latestExecuted hlatest⟩
    unfold evaluateLatestPostcheck
    rw [hlatest]
    dsimp only
    split
    · rfl
    · split
      · rfl
      · split
        · rfl
        · split
          · rfl
          · split <;> rfl
/-! ## What a step credits -/

theorem credited_of_kept {l : Label} (h : ∀ c' ∈ w'.cases, c'.outcome = .verifiedSuccess →
    ∃ c ∈ w.cases, c.action = c'.action ∧ c.outcome = .verifiedSuccess) : Credited w l w' := by
  intro c' hc' hsuccess hnew
  obtain ⟨c, hc, haction, hbefore⟩ := h c' hc' hsuccess
  exact absurd hbefore (hnew c hc haction)

theorem kept_of_map {f : CaseRow → CaseRow} {cases : List CaseRow}
    (hf : ∀ c, (f c).action = c.action ∧
      ((f c).outcome = .verifiedSuccess → c.outcome = .verifiedSuccess)) :
    ∀ c' ∈ cases.map f, c'.outcome = .verifiedSuccess →
      ∃ c ∈ cases, c.action = c'.action ∧ c.outcome = .verifiedSuccess := by
  intro c' hc' hsuccess
  obtain ⟨c, hc, hfc⟩ := List.mem_map.mp hc'
  subst hfc
  exact ⟨c, hc, (hf c).1.symm, (hf c).2 hsuccess⟩

theorem recordExecution_spec (pk : Nat) (succeeded : Bool) (c : CaseRow) :
    (recordExecution pk succeeded c).action = c.action ∧
      (recordExecution pk succeeded c).incident = c.incident ∧
      ((recordExecution pk succeeded c).outcome = c.outcome ∨
        c.action = pk ∧ (recordExecution pk succeeded c).outcome ≠ .verifiedSuccess) := by
  unfold recordExecution
  split
  · next hpk =>
    refine ⟨rfl, rfl, .inr ⟨hpk, ?_⟩⟩
    cases succeeded <;> exact Outcome.noConfusion
  · exact ⟨rfl, rfl, .inl rfl⟩

theorem mem_createForAction {cases : List CaseRow} {pk : Nat} {outcome : Outcome}
    {playbookVersion : String} {preflight : Option (Option Snapshot)} {c : CaseRow}
    (hc : c ∈ createForAction db cases pk outcome playbookVersion preflight) :
    c ∈ cases ∨ c.outcome = outcome := by
  unfold createForAction at hc
  split at hc
  · split at hc
    · exact .inl hc
    · rcases List.mem_append.mp hc with hold | hnew
      · exact .inl hold
      · right
        rw [List.mem_singleton.mp hnew]
  · exact .inl hc

theorem legacyOutcome_ne (a : Action) (i : Incident) : legacyOutcome a i ≠ .verifiedSuccess := by
  unfold legacyOutcome
  cases a.status with
  | autoExecuted | executed => split_ifs <;> exact Outcome.noConfusion
  | _ => exact Outcome.noConfusion

theorem closedOutcome_ne {createdAt : Option Nat} {incident now : Nat} :
    closedOutcome db a createdAt incident now ≠ some .verifiedSuccess := by
  unfold closedOutcome
  have hran : (match a.executedAt.or createdAt with
      | none => none
      | some ranAt =>
        if now < ranAt + 24 * 60 * 60 then none
        else if db.incidentStatus incident = some .verifying then some .executedPendingVerify
        else some .executedUnverified) ≠ some Outcome.verifiedSuccess := by
    cases a.executedAt.or createdAt with
    | none => simp
    | some ranAt =>
      dsimp only
      split_ifs <;> simp
  cases a.status with
  | autoExecuted | executed => exact hran
  | _ => simp

theorem mem_backfill {c : CaseRow} (rows : List Backfill) (cases : List CaseRow)
    (hc : c ∈ rows.foldl (backfillCase db) cases) (hsuccess : c.outcome = .verifiedSuccess) :
    c ∈ cases := by
  induction rows generalizing cases with
  | nil => exact hc
  | cons b rows ih =>
    have hmem := ih (backfillCase db cases b) hc
    unfold backfillCase at hmem
    split at hmem
    · split at hmem
      · rcases mem_createForAction hmem with hold | hnew
        · exact hold
        · exact absurd (hnew.symm.trans hsuccess) (legacyOutcome_ne _ _)
      · exact hmem
    · exact hmem

theorem reconcileProposal_spec (createdAt : List (Nat × Nat)) (now : Nat) (picked : List Nat)
    (c : CaseRow) :
    (reconcileProposal db createdAt now picked c).action = c.action ∧
      ((reconcileProposal db createdAt now picked c).outcome = .verifiedSuccess →
        c.outcome = .verifiedSuccess) := by
  unfold reconcileProposal
  split
  · split
    · split
      · next outcome houtcome =>
        refine ⟨rfl, ?_⟩
        intro hsuccess
        have hset : outcome = .verifiedSuccess := hsuccess
        rw [hset] at houtcome
        exact absurd houtcome closedOutcome_ne
      · exact ⟨rfl, id⟩
    · exact ⟨rfl, id⟩
  · exact ⟨rfl, id⟩

theorem recordInconclusive_spec (pk : Nat) (c : CaseRow) :
    (recordInconclusive pk c).action = c.action ∧
      ((recordInconclusive pk c).outcome = .verifiedSuccess → c.outcome = .verifiedSuccess) := by
  unfold recordInconclusive
  split
  · exact ⟨rfl, fun hno => nomatch hno⟩
  · exact ⟨rfl, id⟩

theorem kept_of_executed (w : World) (pk : Nat) (succeeded : Bool) (db : Db) :
    ∀ c' ∈ (w.executed pk succeeded db).cases, c'.outcome = .verifiedSuccess →
      ∃ c ∈ w.cases, c.action = c'.action ∧ c.outcome = .verifiedSuccess := by
  apply kept_of_map
  intro c
  obtain ⟨haction, _, hkept | ⟨_, hne⟩⟩ := recordExecution_spec pk succeeded c
  · exact ⟨haction, fun h => hkept.symm.trans h⟩
  · exact ⟨haction, fun h => absurd h hne⟩

theorem credited_verify (hown : OwnCase w (.verify p)) (db : Db) (ineffective : List Nat) :
    Credited w (.verify p) ⟨db, w.cases.map (verifyRow settings w.store p (w.due p)),
      ineffective⟩ := by
  intro c' hc' hsuccess hnew
  obtain ⟨c, hc, hrow⟩ := List.mem_map.mp hc'
  subst hrow
  obtain ⟨haction, hincident, hwhen⟩ :=
    verifyRow_spec settings w.store p (w.due p) c
  rcases hwhen hsuccess with hbefore | ⟨row, hdue, hpassed, hrow, hopen⟩
  · exact absurd hbefore (hnew c hc haction.symm)
  · obtain ⟨a, heval, hrun⟩ := evaluated_of_passed hpassed
    have hjudged := hown row hdue hpassed c hc hrow hopen
    rw [heval] at hjudged
    obtain ⟨hsame, heffective⟩ := of_decide_eq_true hjudged
    refine ⟨a, ⟨hrun, heffective, row, hdue, ?_, heval⟩, hsame.trans haction.symm⟩
    rw [hincident]
    exact hrow.symm

theorem credited_approvedResult {pk now : Nat} (hown : OwnCase w (.approvedResult pk true now))
    (ha : w.db.action? pk = some a) (howned : monitorOwned w.db a.incidentId = true) (db : Db) :
    Credited w (.approvedResult pk true now)
      { w.executed pk true db with
        cases := (w.executed pk true db).cases.map (recordVerified a.incidentId true) } := by
  intro c' hc' hsuccess hnew
  obtain ⟨c₁, hc₁, hrow⟩ := List.mem_map.mp hc'
  obtain ⟨c, hc, hexecuted⟩ := List.mem_map.mp hc₁
  subst hexecuted
  subst hrow
  obtain ⟨haction, hincident, hkept⟩ := recordExecution_spec pk true c
  have hkey : a.id = pk := Table.key_of_get ha
  rcases recordVerified_cases a.incidentId true (recordExecution pk true c) with
    hsame | ⟨hof, hopen, hset⟩
  · rw [hsame] at hsuccess hnew
    rcases hkept with hkept | ⟨_, hne⟩
    · exact absurd (hkept.symm.trans hsuccess) (hnew c hc haction.symm)
    · exact absurd hsuccess hne
  · rw [hset]
    refine ⟨a, ⟨rfl, ha, hof.symm, ?_⟩, ?_⟩
    · show monitorOwned w.db (recordExecution pk true c).incident = true
      rw [hof]
      exact howned
    · show a.id = (recordExecution pk true c).action
      rw [haction, hkey]
      rcases hkept with hkept | ⟨hpk, _⟩
      · rw [hkept] at hopen
        exact (hown rfl a ha howned c hc (hincident.symm.trans hof) hopen).symm
      · exact hpk.symm

/-- **Step lemma.**  A step that meets the condition credits the Action that it judges. -/
theorem credited_step {l : Label} (hown : OwnCase w l) (hstep : step settings w l = some w') :
    Credited w l w' := by
  unfold step at hstep
  cases l with
  | propose pk playbookVersion preflight =>
    cases hstep
    apply credited_of_kept
    intro c' hc' hsuccess
    rcases mem_createForAction hc' with hold | hnew
    · exact ⟨c', hold, rfl, hsuccess⟩
    · rw [hsuccess] at hnew
      cases hnew
  | safeResult pk incidentId succeeded now =>
    dsimp only at hstep
    split at hstep <;> cases hstep
    · exact credited_of_kept fun c' hc' h => ⟨c', hc', rfl, h⟩
    · exact credited_of_kept (kept_of_executed w pk succeeded _)
  | approvedResult pk succeeded now =>
    dsimp only at hstep
    split at hstep
    · cases hstep
      exact credited_of_kept fun c' hc' h => ⟨c', hc', rfl, h⟩
    · next a ha =>
      split at hstep
      · next hboth =>
        rw [Bool.and_eq_true] at hboth
        obtain ⟨hsucceeded, howned⟩ := hboth
        subst hsucceeded
        cases hstep
        exact credited_approvedResult hown ha howned _
      · cases hstep
        exact credited_of_kept (kept_of_executed w pk succeeded _)
  | inconclusive pk =>
    dsimp only at hstep
    split at hstep <;> cases hstep
    · exact credited_of_kept fun c' hc' h => ⟨c', hc', rfl, h⟩
    · exact credited_of_kept (kept_of_map (recordInconclusive_spec pk))
  | verify p =>
    cases hstep
    rw [foldl_verifyCase]
    exact credited_verify hown _ _
  | backfill rows =>
    cases hstep
    apply credited_of_kept
    intro c' hc' hsuccess
    exact ⟨c', mem_backfill rows w.cases hc' hsuccess, rfl, hsuccess⟩
  | reconcile createdAt now picked =>
    cases hstep
    exact credited_of_kept (kept_of_map (reconcileProposal_spec createdAt now picked))
  | other db =>
    cases hstep
    exact credited_of_kept fun c' hc' h => ⟨c', hc', rfl, h⟩

/-- **Run theorem.**  In a run in which, wherever a success is recorded, the open cases of the
Incident are those of the Action that is judged, and that Action has run since the last pass that
saw the fault, every case that becomes a verified success is the one of the Action that is
judged. -/
theorem credited_of_ownCase (settings : VerifySettings) (w : World) (ls : List Label)
    (hown : (caseMemory settings).Meets OwnCase w ls) :
    (caseMemory settings).Always Credited w ls := by
  apply Runs.System.always_of_meets (caseMemory settings) Credited OwnCase (fun _ => True) _ ls w
    trivial hown
  intro w l w' _ hown hstep
  exact ⟨credited_step hown hstep, trivial⟩

/-- Two Actions of an Incident that waits for its verification: one has run, the other waits for
an approval. -/
def twoActions (second : List CaseRow) : World where
  db :=
    { actions :=
        [⟨1, 7, "restart_osd_daemon", .risky, .executed, none, true, true, none, some 50, []⟩,
          ⟨2, 7, "reweight_osd", .risky, .pendingApproval, none, true, true, none, none, []⟩]
      incidents := [⟨7, none, "OSD_DOWN", none, .verifying, false, some 100, 0⟩]
      overrides := [] }
  cases := ⟨1, 7, .executedPendingVerify, "v1", none⟩ :: second
  ineffective := []

/-- A poll that does not see the fault. -/
def recoveredPoll : Poll := ⟨[], some "HEALTH_OK", none, 200, []⟩

def sampleSettings : VerifySettings := ⟨60, 3⟩

theorem credited_of_ownCase_one :
    (caseMemory sampleSettings).Always Credited (twoActions []) [.verify recoveredPoll] :=
  credited_of_ownCase sampleSettings (twoActions []) [.verify recoveredPoll] (by decide)

/-- The Action that nobody approved is credited with the fix as well. -/
theorem credited_unexecuted :
    ∃ w', (caseMemory sampleSettings).run (twoActions [⟨2, 7, .proposed, "v1", none⟩])
        [.verify recoveredPoll] = some w' ∧
      (w'.db.action? 2).map Action.status = some .pendingApproval ∧
      w'.cases.map (fun c => (c.action, c.outcome)) =
        [(1, .verifiedSuccess), (2, .verifiedSuccess)] :=
  ⟨_, rfl, by decide, by decide⟩

end CephAi.Ports.CaseCredit
