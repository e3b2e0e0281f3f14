import CephAi.Ports.ActionRuns
import CephAi.Ports.Diagnosis

/-!
# Workers and Watchers on the same Incidents

Any number of Workers handle messages about Incidents while Watchers verify and
resolve them, other threads execute Actions and operators decide about them.
Every transaction is one step, and steps come in any order; a message may be
delivered again at any time, and a handler may stop anywhere.

The state keeps where each handler is.  `entered` and `overtaken` are ghost
state: which Incidents have been `VERIFYING`, and whether another transaction
has closed the Incident of a handler since the handler checked it.

## Main results

* `closes_of_step` — the only steps that close an Incident.
-/

namespace CephAi.Ports.IncidentRuns

open Verified Models ApprovedExecution
  ActionRuns Verification Diagnosis

/-! ## State -/

/-- Where the handler of a message is. -/
inductive Handler
  | idle
  /-- Behind the guard, with the status it loaded. -/
  | checked (incidentId : Nat) (loaded : IncidentStatus)
  /-- The model is asked. -/
  | diagnosing (incidentId : Nat)
  /-- Behind the transaction of `diagnose_incident`, with an Action. -/
  | acting (incidentId pk : Nat)
deriving DecidableEq, Repr

def Handler.incident : Handler → Option Nat
  | .idle => none
  | .checked i _ | .diagnosing i | .acting i _ => some i

/-- The state. -/
structure World where
  store : Store
  handler : Nat → Handler
  entered : List Nat
  overtaken : Nat → Bool

/-- What `diagnose_incident` and the grace poller do with a SAFE or RISKY
Action after its diagnosis. -/
inductive Act
  | route
  | autoReject
  | grace (graceUntil : Nat)
  | begin
  | result (succeeded : Bool) (now : Nat)
deriving DecidableEq, Repr

/-- The transactions of the other threads and of the operators. -/
inductive Execution
  | recheck (pk : Nat) (fingerprint : String)
  | claim (incidentId : Nat)
  | approvedResult (pk : Nat) (succeeded : Bool) (now : Nat)
  | reconcile
  | resumeGrace (pk incidentId : Nat)
  | safe (pk incidentId : Nat) (act : Act)
  | decide (kind : DecisionKind) (pk : Nat) (fingerprint : String)
deriving DecidableEq, Repr

/-- One step. -/
inductive Label
  | verify (poll : Poll)
  | recover (pass : Recovery)
  | execute (x : Execution)
  | check (handler incidentId : Nat)
  | mark (handler : Nat) (groupingFailed : Bool)
  | diagnose (handler now : Nat) (proposal : Proposal)
  | act (handler : Nat) (a : Act)
  | giveUp (handler : Nat)
  | drop (handler : Nat)
deriving DecidableEq, Repr

/-- The handler that takes the step. -/
def Label.handler? : Label → Option Nat
  | .verify _ | .recover _ | .execute _ => none
  | .check t _ | .mark t _ | .diagnose t _ _ | .act t _ | .giveUp t | .drop t =>
    some t

/-! ## Transactions -/

/-- A database with the same case memory. -/
def Store.setDb (st : Store) (db : Db) : Store := { st with db := db }

/-- The code of the Incident belongs to a monitor. -/
def monitorOwned (db : Db) (incidentId : Nat) : Bool :=
  (db.incident? incidentId).any (fun i => isMonitorOwned i.cephCode)

/-- An Action after its diagnosis; `none` when there is no second grace
period. -/
def Act.apply (settings : VerifySettings) (st : Store) (incidentId pk : Nat) :
    Act → Option Store
  | .route => some (Store.setDb st (routeSafeToApproval st.db pk incidentId))
  | .autoReject =>
    some (Store.setDb st
      (st.db.write pk { status := some .rejected } incidentId
        { status := some .rejected }))
  | .grace graceUntil =>
    (startGrace st.db pk incidentId graceUntil).map (Store.setDb st)
  | .begin => some (Store.setDb st (beginSafe st.db pk incidentId))
  | .result succeeded now =>
    some
      { db := recordExecutionResult settings st.db pk incidentId succeeded now
        cases := recordExecution st.cases pk succeeded }

/-- The call goes on only to run the command. -/
def Act.next (a : Act) (incidentId pk : Nat) : Handler :=
  match a with
  | .begin => .acting incidentId pk
  | _ => .idle

/-- A transaction of another thread or an operator.  Operators approve only
Actions that have a command: one without is acknowledged and never runs, so
that its Incident is never verified. -/
def Execution.apply (S : Settings) (st : Store) : Execution → Option Store
  | .recheck pk fingerprint =>
    some (Store.setDb st (ApprovedExecution.recheck S.policy st.db pk fingerprint).1)
  | .claim incidentId => (ApprovedExecution.claim st.db incidentId).map (Store.setDb st)
  | .approvedResult pk succeeded now =>
    let executed := recordExecution st.cases pk succeeded
    some
      { db := recordApprovedExecutionResult S.verify st.db pk succeeded now
        cases :=
          match st.db.incidentOf pk with
          | some i =>
            if succeeded && monitorOwned st.db i then recordVerified executed i true
            else executed
          | none => executed }
  | .reconcile => some (Store.setDb st (reconcileInterrupted st.db))
  | .resumeGrace pk incidentId =>
    some (Store.setDb st (ApprovedExecution.resumeGrace st.db pk incidentId).1)
  | .safe pk incidentId a => a.apply S.verify st incidentId pk
  | .decide kind pk fingerprint =>
    match st.db.action? pk with
    | none => none
    | some a =>
      if kind = .approve ∧ S.hasCommand a.actionId = false then none
      else
        some (Store.setDb st
          (decideAction S.hasCommand st.db kind a fingerprint).1)

/-- The transaction of a step and the phase its handler goes on to; `none` when
it is not the handler's turn. -/
def transact (S : Settings) (w : World) :
    Label → Option (Store × Option (Nat × Handler))
  | .verify p => some (verifyPendingIncidents S.verify w.store p, none)
  | .recover p => some (resolveRecoveredIncidents w.store p, none)
  | .execute x => (x.apply S w.store).map (fun st => (st, none))
  | .check t i =>
    match w.handler t with
    | .idle =>
      match checkMessage w.store.db i with
      -- acknowledged without a write
      | none => some (w.store, none)
      | some s => some (w.store, some (t, .checked i s))
    | _ => none
  | .mark t groupingFailed =>
    match w.handler t with
    | .checked i s =>
      some (Store.setDb w.store (markDiagnosing w.store.db i s groupingFailed),
        some (t, .diagnosing i))
    | _ => none
  | .diagnose t now proposal =>
    match w.handler t with
    | .diagnosing i =>
      let r := diagnoseIncident S.verify w.store i now proposal
      some (r.1, some (t,
        match r.2 with
        | .returned => .idle
        | .proceeds pk => .acting i pk
        | .raised => .diagnosing i))
    | _ => none
  | .act t a =>
    match w.handler t with
    | .acting i pk =>
      (a.apply S.verify w.store i pk).map
        (fun st => (st, some (t, a.next i pk)))
    | _ => none
  | .giveUp t =>
    match w.handler t with
    | .diagnosing i | .acting i _ =>
      some (Store.setDb w.store (setIncidentStatus w.store.db i .failed),
        some (t, .idle))
    | _ => none
  -- acknowledged, published again, or stopped
  | .drop t => some (w.store, some (t, .idle))

/-! ## Which steps close an Incident -/

/-- The status with which a step closes an Incident. -/
def closes (w : World) (i : Nat) : Label → Option IncidentStatus
  | .verify p =>
    match w.store.db.incident? i with
    | some row =>
      if verifyDue p row = true ∧
          (evaluateLatestPostcheck w.store p row).1 = .passed then
        some .resolved
      else none
    | none => none
  | .recover p =>
    if (w.store.db.incident? i).any (recovers p) then some .resolved else none
  | .diagnose t _ proposal =>
    if w.handler t = .diagnosing i then
      (diagnosisWrites w.store i proposal).filter
        (fun s => closedStatuses.contains s)
    else none
  | .act t .autoReject =>
    if (w.handler t).incident = some i then some .rejected else none
  | .execute (.safe _ i' .autoReject) =>
    if i' = i then some .rejected else none
  | .execute (.recheck pk _) =>
    if w.store.db.incidentOf pk = some i ∧
        w.store.db.syntheticOf i = some true then some .rejected
    else none
  | .execute (.approvedResult pk true _) =>
    if w.store.db.incidentOf pk = some i ∧ monitorOwned w.store.db i = true then
      some .resolved
    else none
  | .execute (.decide kind pk _) =>
    if w.store.db.incidentOf pk = some i ∧ kind ≠ .approve then some .rejected
    else none
  | _ => none

/-! ## Steps -/

def verifying (db : Db) : List Nat :=
  (db.incidents.filter (fun i => i.status == .verifying)).map Incident.id

/-- The state after a transaction.  A handler that checks an Incident has not
been overtaken; the others are by a step that closes theirs. -/
def World.advance (w : World) (l : Label) (store : Store)
    (goes : Option (Nat × Handler)) : World where
  store := store
  handler := fun t =>
    match goes with
    | some (t', h) => if t = t' then h else w.handler t
    | none => w.handler t
  entered := w.entered ++ verifying store.db
  overtaken := fun t =>
    match l with
    | .check t' _ => if t = t' then false else w.overtaken t
    | l =>
      w.overtaken t ||
        (l.handler? != some t &&
          (w.handler t).incident.any (fun i => (closes w i l).isSome))

def step (S : Settings) (w : World) (l : Label) : Option World :=
  (transact S w l).map (fun r => w.advance l r.1 r.2)

def incidentSystem (S : Settings) : Runs.System World Label := ⟨step S⟩

/-- No message is handled; what is `VERIFYING` has entered. -/
def World.initial (store : Store) : World where
  store := store
  handler := fun _ => .idle
  entered := verifying store.db
  overtaken := fun _ => false

variable {S : Settings} {closing : Option IncidentStatus} {db : Db} {goes : Option (Nat × Handler)}
    {i i' pk t : Nat} {store : Store} {w : World}

theorem step_eq_some {w' : World} {l : Label} (h : step S w l = some w') :
    ∃ store goes, transact S w l = some (store, goes) ∧
      w' = w.advance l store goes := by
  obtain ⟨r, hr, hw'⟩ := Option.map_eq_some_iff.mp h
  exact ⟨r.1, r.2, hr, hw'.symm⟩

/-! ### The turn of a handler -/

theorem transact_check (h : transact S w (.check t i) = some (store, goes)) :
    w.handler t = .idle ∧ store = w.store ∧
      (goes = none ∨ ∃ s, checkMessage w.store.db i = some s ∧
        goes = some (t, .checked i s)) := by
  cases hphase : w.handler t with
  | idle =>
    simp only [transact, hphase] at h
    cases hcheck : checkMessage w.store.db i with
    | none =>
      rw [hcheck] at h
      cases h
      exact ⟨rfl, rfl, Or.inl rfl⟩
    | some s =>
      rw [hcheck] at h
      cases h
      exact ⟨rfl, rfl, Or.inr ⟨s, rfl, rfl⟩⟩
  | checked | diagnosing | acting => simp [transact, hphase] at h

theorem transact_mark {groupingFailed : Bool} {r : Store × Option (Nat × Handler)}
    (h : transact S w (.mark t groupingFailed) = some r) :
    ∃ i s, w.handler t = .checked i s ∧
      r = (Store.setDb w.store (markDiagnosing w.store.db i s groupingFailed),
        some (t, .diagnosing i)) := by
  cases hphase : w.handler t with
  | checked i s =>
    simp only [transact, hphase] at h
    exact ⟨i, s, rfl, (Option.some.inj h).symm⟩
  | idle | diagnosing | acting => simp [transact, hphase] at h

theorem transact_diagnose {now : Nat} {proposal : Proposal}
    (h : transact S w (.diagnose t now proposal) = some (store, goes)) :
    ∃ i, w.handler t = .diagnosing i ∧
      store = (diagnoseIncident S.verify w.store i now proposal).1 ∧
      ∃ next, goes = some (t, next) ∧
        (next = .idle ∨ next.incident = some i ∧
          (diagnoseIncident S.verify w.store i now proposal).2 ≠ .returned) := by
  cases hphase : w.handler t with
  | diagnosing i =>
    simp only [transact, hphase] at h
    cases h
    refine ⟨i, rfl, rfl, _, rfl, ?_⟩
    cases (diagnoseIncident S.verify w.store i now proposal).2 with
    | returned => exact Or.inl rfl
    | proceeds | raised => exact Or.inr ⟨rfl, by simp⟩
  | idle | checked | acting => simp [transact, hphase] at h

theorem transact_act {a : Act} (h : transact S w (.act t a) = some (store, goes)) :
    ∃ i pk, w.handler t = .acting i pk ∧
      a.apply S.verify w.store i pk = some store ∧
      goes = some (t, a.next i pk) := by
  cases hphase : w.handler t with
  | acting i pk =>
    simp only [transact, hphase] at h
    obtain ⟨st, hst, heq⟩ := Option.map_eq_some_iff.mp h
    cases heq
    exact ⟨i, pk, rfl, hst, rfl⟩
  | idle | checked | diagnosing => simp [transact, hphase] at h

theorem transact_giveUp {r : Store × Option (Nat × Handler)}
    (h : transact S w (.giveUp t) = some r) :
    ∃ i, (w.handler t = .diagnosing i ∨ ∃ pk, w.handler t = .acting i pk) ∧
      r = (Store.setDb w.store (setIncidentStatus w.store.db i .failed),
        some (t, .idle)) := by
  cases hphase : w.handler t with
  | diagnosing i =>
    simp only [transact, hphase] at h
    exact ⟨i, Or.inl rfl, (Option.some.inj h).symm⟩
  | acting i pk =>
    simp only [transact, hphase] at h
    exact ⟨i, Or.inr ⟨pk, rfl⟩, (Option.some.inj h).symm⟩
  | idle | checked => simp [transact, hphase] at h

/-! ## A transaction closes no other Incident -/

def Open (db : Db) (i : Nat) : Prop :=
  ∀ s, db.incidentStatus i = some s → s ∉ closedStatuses

/-- Every closing of the Incident gives it the status `closing`. -/
def ClosesOnly (closing : Option IncidentStatus) (i : Nat) (db db' : Db) : Prop :=
  Open db i → ∀ s, db'.incidentStatus i = some s → s ∈ closedStatuses →
    closing = some s

theorem closesOnly_of_same {db' : Db} (closing : Option IncidentStatus)
    (h : db'.incidentStatus i = db.incidentStatus i) : ClosesOnly closing i db db' := by
  intro hopen s hs hclosed
  rw [h] at hs
  exact absurd hclosed (hopen s hs)

theorem closesOnly_of_write {db' : Db} {new : Option IncidentStatus}
    (h : db'.incidentStatus i =
      if i = i' then (db.incidentStatus i).map (fun s => new.getD s)
      else db.incidentStatus i)
    (hto : i = i' → ∀ s, new = some s → s ∈ closedStatuses → closing = some s) :
    ClosesOnly closing i db db' := by
  by_cases hi : i = i'
  · rw [if_pos hi] at h
    cases new with
    | none =>
      apply closesOnly_of_same
      rw [h]
      cases db.incidentStatus i with
      | none => rfl
      | some s => rfl
    | some status =>
      intro _ s hs hclosed
      rw [h] at hs
      obtain ⟨_, _, heq⟩ := Option.map_eq_some_iff.mp hs
      have heq' : status = s := heq
      subst heq'
      exact hto hi status rfl hclosed
  · rw [if_neg hi] at h
    exact closesOnly_of_same closing h

theorem closesOnly_write_open (a : ActionWrite) (w : IncidentWrite) {status : IncidentStatus}
    (hw : w.status = some status) (hopen : status ∉ closedStatuses) :
    ClosesOnly closing i db (db.write pk a i' w) := by
  apply closesOnly_of_write (incidentStatus_write db pk a i' w i)
  intro _ s hs hclosed
  rw [hw, Option.some.injEq] at hs
  exact absurd (hs ▸ hclosed) hopen

theorem closesOnly_write_rejected (a : ActionWrite) (hto : i' = i → closing = some .rejected) :
    ClosesOnly closing i db (db.write pk a i' { status := some .rejected }) := by
  apply closesOnly_of_write (incidentStatus_write db pk a i' _ i)
  intro hi s hs _
  rw [← hs]
  exact hto hi.symm

theorem closesOnly_recheck (policy : ActionPolicy) (db : Db) (pk : Nat)
    (fingerprint : String) (i : Nat) :
    ClosesOnly
      (if db.incidentOf pk = some i ∧ db.syntheticOf i = some true then
        some .rejected else none) i db
      (ApprovedExecution.recheck policy db pk fingerprint).1 := by
  unfold ApprovedExecution.recheck Db.incidentOf
  cases ha : db.action? pk with
  | none => exact closesOnly_of_same _ rfl
  | some a =>
    dsimp only
    by_cases hstatus : a.status ≠ .approved
    · rw [if_pos hstatus]
      exact closesOnly_of_same _ rfl
    · rw [if_neg hstatus]
      by_cases hsyn : db.syntheticOf a.incidentId = some true
      · rw [if_pos hsyn]
        apply closesOnly_write_rejected
        intro hi
        rw [← hi, if_pos ⟨rfl, hsyn⟩]
      · rw [if_neg hsyn]
        by_cases hclass : a.classification ≠
            policy.classifyAction db.overrides a.actionId
        · rw [if_pos hclass]
          exact closesOnly_write_open _ _ rfl (by decide)
        · rw [if_neg hclass]
          by_cases hrisk : (reassess a fingerprint).acknowledgedHash ≠
              some fingerprint
          · rw [if_pos hrisk]
            exact closesOnly_write_open _ _ rfl (by decide)
          · rw [if_neg hrisk]
            exact closesOnly_of_same _ rfl

theorem closesOnly_recordApproved (settings : VerifySettings) (db : Db)
    (pk : Nat) (succeeded : Bool) (now i : Nat) :
    ClosesOnly
      (if succeeded = true ∧ db.incidentOf pk = some i ∧
        monitorOwned db i = true then some .resolved else none) i db
      (recordApprovedExecutionResult settings db pk succeeded now) := by
  unfold recordApprovedExecutionResult Db.incidentOf monitorOwned
  cases ha : db.action? pk with
  | none => exact closesOnly_of_same _ rfl
  | some a =>
    dsimp only
    cases hi : db.incident? a.incidentId with
    | none => exact closesOnly_of_same _ rfl
    | some row =>
      dsimp only
      unfold approvedOutcome
      cases succeeded with
      | false => exact closesOnly_write_open _ _ rfl (by decide)
      | true =>
        cases howned : isMonitorOwned row.cephCode with
        | false => exact closesOnly_write_open _ _ rfl (by decide)
        | true =>
          apply closesOnly_of_write (incidentStatus_write db pk _ _ _ i)
          intro hown s hs _
          subst hown
          rw [if_pos ⟨rfl, rfl, by simp [hi, howned]⟩]
          exact hs

theorem closesOnly_reconcile (db : Db) (closing : Option IncidentStatus)
    (i : Nat) : ClosesOnly closing i db (reconcileInterrupted db) := by
  intro hopen s hs hclosed
  unfold Db.incidentStatus Db.incident? reconcileInterrupted at hs
  rw [Table.get_update db.incidents _
    (IncidentWrite.apply { status := some .failed }) (fun _ => rfl),
    Option.map_map] at hs
  obtain ⟨row, hrow, hstatus⟩ := Option.map_eq_some_iff.mp hs
  have hrowOpen : row.status ∉ closedStatuses := by
    apply hopen
    have hrow' : db.incident? i = some row := hrow
    rw [Db.incidentStatus, hrow', Option.map_some]
  simp only [Function.comp_apply] at hstatus
  cases hmark : db.actions.any
      (fun a => interrupted db a && a.incidentId == row.id) with
  | false =>
    rw [hmark, if_neg Bool.false_ne_true] at hstatus
    exact absurd (hstatus ▸ hclosed) hrowOpen
  | true =>
    rw [hmark, if_pos rfl] at hstatus
    subst hstatus
    exact absurd hclosed (by simp [IncidentWrite.apply, closedStatuses])

theorem closesOnly_resumeGrace (db : Db) (pk incidentId : Nat) (closing : Option IncidentStatus)
    (i : Nat) : ClosesOnly closing i db (ApprovedExecution.resumeGrace db pk incidentId).1 := by
  unfold ApprovedExecution.resumeGrace
  cases db.action? pk with
  | none => exact closesOnly_of_same _ rfl
  | some a =>
    dsimp only
    cases a.readable with
    | true | false => exact closesOnly_write_open _ _ rfl (by decide)

/-- The status with which an Action's own transaction closes its Incident. -/
def Act.closes : Act → Option IncidentStatus
  | .autoReject => some .rejected
  | _ => none

theorem closesOnly_act {settings : VerifySettings} {st st' : Store} {incidentId : Nat} {a : Act}
    (h : a.apply settings st incidentId pk = some st') (i : Nat) :
    ClosesOnly (if incidentId = i then a.closes else none) i st.db st'.db := by
  cases a with
  | route | begin =>
    cases h
    exact closesOnly_write_open _ _ rfl (by decide)
  | autoReject =>
    cases h
    apply closesOnly_write_rejected
    intro hi
    rw [if_pos hi]
    rfl
  | grace graceUntil =>
    obtain ⟨db, hdb, hst⟩ := Option.map_eq_some_iff.mp h
    subst hst
    unfold startGrace at hdb
    cases ha : st.db.action? pk with
    | none => simp [ha] at hdb
    | some row =>
      simp only [ha] at hdb
      cases hgrace : row.graceUntil.isSome with
      | true => simp [hgrace] at hdb
      | false =>
        simp only [hgrace, Bool.false_eq_true, if_false,
          Option.some.injEq] at hdb
        subst hdb
        exact closesOnly_write_open _ _ rfl (by decide)
  | result succeeded now =>
    cases h
    unfold recordExecutionResult
    cases succeeded with
    | true | false => exact closesOnly_write_open _ _ rfl (by decide)

theorem closesOnly_decide {hasCommand : String → Bool} {kind : DecisionKind} {a : Action}
    (fingerprint : String) (ha : db.action? pk = some a)
    (hcommand : ¬ (kind = .approve ∧ hasCommand a.actionId = false)) (i : Nat) :
    ClosesOnly
      (if db.incidentOf pk = some i ∧ kind ≠ .approve then some .rejected
      else none) i db (decideAction hasCommand db kind a fingerprint).1 := by
  have hrejects : kind ≠ .approve → a.incidentId = i →
      (if db.incidentOf pk = some i ∧ kind ≠ .approve then
        some IncidentStatus.rejected else none) = some .rejected := by
    intro hkind hi
    rw [if_pos ⟨by simp [Db.incidentOf, ha, hi], hkind⟩]
  cases kind with
  | approve =>
    unfold decideAction
    cases hc : hasCommand a.actionId with
    | false => exact absurd ⟨rfl, hc⟩ hcommand
    | true => exact closesOnly_write_open _ _ rfl (by decide)
  | reject | cancelGrace => exact closesOnly_write_rejected _ (hrejects (by decide))

theorem closesOnly_execute {x : Execution} {st : Store} (h : x.apply S w.store = some st)
    (i : Nat) : ClosesOnly (closes w i (.execute x)) i w.store.db st.db := by
  cases x with
  | recheck pk fingerprint =>
    cases h
    exact closesOnly_recheck S.policy w.store.db pk fingerprint i
  | claim incidentId =>
    obtain ⟨db, hdb, hst⟩ := Option.map_eq_some_iff.mp h
    subst hst
    obtain ⟨hdb', _, _⟩ := claim_eq_some hdb
    show ClosesOnly _ i w.store.db db
    rw [hdb']
    apply closesOnly_of_write
      (incidentStatus_writeIncident w.store.db incidentId _ i)
    intro _ s hs hclosed
    cases hs
    exact absurd hclosed (by decide)
  | approvedResult pk succeeded now =>
    cases h
    have hresult := closesOnly_recordApproved S.verify w.store.db pk succeeded
      now i
    cases succeeded with
    | false | true => simpa [closes] using hresult
  | reconcile =>
    cases h
    exact closesOnly_reconcile w.store.db _ i
  | resumeGrace pk incidentId =>
    cases h
    exact closesOnly_resumeGrace w.store.db pk incidentId _ i
  | safe pk incidentId a =>
    have hact := closesOnly_act h i
    cases a with
    | autoReject => exact hact
    | route | grace | begin | result => simpa [closes, Act.closes] using hact
  | decide kind pk fingerprint =>
    unfold Execution.apply at h
    cases ha : w.store.db.action? pk with
    | none => simp [ha] at h
    | some a =>
      simp only [ha] at h
      by_cases hcommand : kind = .approve ∧ S.hasCommand a.actionId = false
      · rw [if_pos hcommand] at h
        cases h
      · rw [if_neg hcommand, Option.some.injEq] at h
        subst h
        exact closesOnly_decide fingerprint ha hcommand i

theorem closesOnly_mark (db : Db) (incidentId : Nat) (loaded : IncidentStatus)
    (groupingFailed : Bool) (closing : Option IncidentStatus) (i : Nat) :
    ClosesOnly closing i db
      (markDiagnosing db incidentId loaded groupingFailed) := by
  unfold markDiagnosing
  by_cases hsame : loaded = .diagnosing ∧ groupingFailed = false
  · rw [if_pos hsame]
    exact closesOnly_of_same closing rfl
  · rw [if_neg hsame]
    apply closesOnly_of_write (incidentStatus_writeIncident db incidentId _ i)
    intro _ s hs hclosed
    cases hs
    exact absurd hclosed (by decide)

theorem closesOnly_setFailed (db : Db) (incidentId : Nat) (closing : Option IncidentStatus)
    (i : Nat) : ClosesOnly closing i db (setIncidentStatus db incidentId .failed) := by
  apply closesOnly_of_write (incidentStatus_writeIncident db incidentId _ i)
  intro _ s hs hclosed
  cases hs
  exact absurd hclosed (by decide)

theorem closesOnly_verify (settings : VerifySettings) (w : World) (p : Poll) (i : Nat) :
    ClosesOnly (closes w i (.verify p)) i w.store.db
      (verifyPendingIncidents settings w.store p).db := by
  intro hopen s hs hclosed
  unfold Db.incidentStatus at hs
  rw [verify_incident?, Option.map_map] at hs
  obtain ⟨row, hrow, hstatus⟩ := Option.map_eq_some_iff.mp hs
  subst hstatus
  have hdue := status_verify
    (hopen row.status (by rw [Db.incidentStatus, hrow, Option.map_some])) hclosed
  show (match w.store.db.incident? i with
    | some row => _
    | none => _) = _
  rw [hrow]
  dsimp only
  rw [if_pos hdue, Function.comp_apply, if_pos hdue.1]
  simp [verifyWrite, hdue.2, IncidentWrite.apply]

theorem closesOnly_recover (w : World) (p : Recovery) (i : Nat) :
    ClosesOnly (closes w i (.recover p)) i w.store.db
      (resolveRecoveredIncidents w.store p).db := by
  intro hopen s hs hclosed
  unfold Db.incidentStatus at hs
  rw [recover_incident?, Option.map_map] at hs
  obtain ⟨row, hrow, hstatus⟩ := Option.map_eq_some_iff.mp hs
  subst hstatus
  have hrec := status_recover
    (hopen row.status (by rw [Db.incidentStatus, hrow, Option.map_some])) hclosed
  show (if (w.store.db.incident? i).any (recovers p) then
    some IncidentStatus.resolved else none) = _
  rw [hrow, Option.any_some, if_pos hrec, Function.comp_apply, if_pos hrec]
  rfl

theorem closesOnly_diagnose (settings : VerifySettings) (w : World) {incidentId : Nat} (now : Nat)
    (proposal : Proposal) (hphase : w.handler t = .diagnosing incidentId) (i : Nat) :
    ClosesOnly (closes w i (.diagnose t now proposal)) i w.store.db
      (diagnoseIncident settings w.store incidentId now proposal).1.db := by
  apply closesOnly_of_write
    (diagnose_status settings w.store incidentId now proposal i)
  intro hi s hs hclosed
  subst hi
  show (if w.handler t = .diagnosing i then
    (diagnosisWrites w.store i proposal).filter
      (fun s => closedStatuses.contains s) else none) = _
  rw [if_pos hphase, hs, Option.filter_some,
    if_pos (List.contains_iff_mem.mpr hclosed)]

/-- **What closes an Incident.**  A step that takes an Incident out of the open
states is one that `closes` names, with the status it ends in. -/
theorem closes_of_step {w' : World} {l : Label} (h : step S w l = some w') (i : Nat) :
    ClosesOnly (closes w i l) i w.store.db w'.store.db := by
  obtain ⟨store, goes, ht, hw'⟩ := step_eq_some h
  subst hw'
  show ClosesOnly _ i w.store.db store.db
  cases l with
  | verify p =>
    cases ht
    exact closesOnly_verify S.verify w p i
  | recover p =>
    cases ht
    exact closesOnly_recover w p i
  | execute x =>
    obtain ⟨st, hst, heq⟩ := Option.map_eq_some_iff.mp ht
    cases heq
    exact closesOnly_execute hst i
  | check t incidentId =>
    obtain ⟨_, hstore, _⟩ := transact_check ht
    rw [hstore]
    exact closesOnly_of_same _ rfl
  | mark t groupingFailed =>
    obtain ⟨j, s, _, hr⟩ := transact_mark ht
    cases hr
    exact closesOnly_mark w.store.db j s groupingFailed _ i
  | diagnose t now proposal =>
    obtain ⟨j, hphase, hr⟩ := transact_diagnose ht
    rw [hr.1]
    exact closesOnly_diagnose S.verify w now proposal hphase i
  | act t a =>
    obtain ⟨j, pk, hphase, hst, _⟩ := transact_act ht
    have hact := closesOnly_act hst i
    cases a with
    | autoReject =>
      simpa [closes, hphase, Handler.incident, Act.closes] using hact
    | route | grace | begin | result => simpa [closes, Act.closes] using hact
  | giveUp t =>
    obtain ⟨j, _, hr⟩ := transact_giveUp ht
    cases hr
    exact closesOnly_setFailed w.store.db j _ i
  | drop t =>
    cases ht
    exact closesOnly_of_same _ rfl

end CephAi.Ports.IncidentRuns
