import CephAi.Ports.IncidentRuns

/-!
# Autonomous executions and their lease

`worker/autonomy_runtime.py` gives an autonomous execution a lease of the whole
cluster, and `reconcile_expired_executions` closes the executions whose lease
has expired or is gone: their Actions become `INCONCLUSIVE`, and nothing runs
them again.  The executor is `_maybe_execute_safe_action` of
`worker/llm/router_client.py`: it passes its gates, takes the lease, commits
`EXECUTING`, starts the command on each host, records the result and releases
the lease, each in a transaction of its own.

Any number of Worker threads diagnose Incidents, resume due Actions and execute,
while any of them reconciles; a Worker may stop anywhere.

## Main results

* `inconclusive_stays` — in runs that reconcile only what no thread is still
  working on, an Action stays `INCONCLUSIVE` and its command is not started.
* `late_result_overwrites` — a run in which the result of a slow command
  overwrites `INCONCLUSIVE`.
-/

namespace CephAi.Ports.AutonomousExecution

open Verified Models ApprovedExecution
  Verification Diagnosis
open IncidentRuns (Store.setDb Act Act.apply)

/-! ## Leases -/

/-- A row of `autopilot_leases`: the cluster is its key, the Action is
unique. -/
structure Lease where
  clusterId : String
  actionId : Nat
  expiresAt : Nat
deriving DecidableEq, Repr

/-- `acquire_lease`; `none` when another row is in the way, and then the expired
rows stay as well. -/
def acquireLease (leases : List Lease) (clusterId : String) (pk now ttl : Nat) :
    Option (List Lease) :=
  let current := leases.filter (fun l => decide (now < l.expiresAt))
  if current.any (fun l => l.clusterId == clusterId || l.actionId == pk) then none
  else some (current ++ [⟨clusterId, pk, now + ttl⟩])

def releaseLease (leases : List Lease) (pk : Nat) : List Lease :=
  leases.filter (fun l => l.actionId != pk)

def activeLease (leases : List Lease) (pk now : Nat) : Bool :=
  (leases.find? (fun l => l.actionId == pk)).any (fun l => decide (now < l.expiresAt))

/-! ## `reconcile_expired_executions` -/

/-- A SAFE Action that is `EXECUTING` without an active lease. -/
def expired (leases : List Lease) (now : Nat) (a : Action) : Bool :=
  a.status == .executing && a.classification == .safe &&
    !activeLease leases a.id now

def expiredActions (db : Db) (leases : List Lease) (now : Nat) : List Action :=
  db.actions.filter (expired leases now)

/-- The database after `reconcile_expired_executions`. -/
def reconcileDb (db : Db) (leases : List Lease) (now : Nat) : Db :=
  { db with
    actions := Table.update db.actions (expired leases now)
      (ActionWrite.apply { status := some .inconclusive })
    incidents := Table.update db.incidents
      (fun i => (expiredActions db leases now).any (fun a => a.incidentId == i.id))
      (IncidentWrite.apply { status := some .failed }) }

def reconcileExpired (st : Store) (leases : List Lease) (now : Nat) :
    Store × List Lease :=
  let pks := (expiredActions st.db leases now).map Action.id
  ({ db := reconcileDb st.db leases now
     cases := pks.foldl recordInconclusive st.cases },
    leases.filter (fun l => !pks.contains l.actionId))

/-! ## State -/

/-- Where a Worker thread is. -/
inductive Phase
  | idle
  /-- The grace poller has seen the Action waiting. -/
  | graceLoaded (incidentId pk : Nat)
  /-- Before the gates; only a SAFE Action goes on behind them. -/
  | gates (incidentId pk : Nat) (safe : Bool)
  /-- The lease is taken. -/
  | leased (incidentId pk : Nat)
  /-- `EXECUTING` is committed; the command runs on one host after another. -/
  | executing (incidentId pk : Nat)
  /-- The result is recorded, the lease not released. -/
  | recorded (incidentId pk : Nat)
deriving DecidableEq, Repr

/-- The Action that a thread may still write or run, with its Incident. -/
def Phase.working : Phase → Option (Nat × Nat)
  | .idle | .recorded _ _ => none
  | .graceLoaded i pk | .gates i pk _ | .leased i pk | .executing i pk =>
    some (i, pk)

/-- The state. -/
structure World where
  store : Store
  leases : List Lease
  phase : Nat → Phase

/-- One step. -/
inductive Label
  | diagnose (thread incidentId now : Nat) (proposal : Proposal)
  | graceDue (thread pk : Nat)
  | resume (thread : Nat)
  /-- A gate stops the Action. -/
  | stop (thread : Nat) (a : Act)
  /-- The limits, and the lease when they allow it. -/
  | acquire (thread : Nat) (allowed : Bool) (clusterId : String) (now : Nat)
  | begin (thread : Nat)
  /-- The command is started on the next host. -/
  | start (thread : Nat)
  | finish (thread : Nat) (succeeded : Bool) (now : Nat)
  | release (thread : Nat)
  | reconcile (now : Nat)
  /-- The Worker stops. -/
  | vanish (thread : Nat)
deriving DecidableEq, Repr

/-- What the modelled code takes from elsewhere. -/
structure Settings where
  verify : VerifySettings
  leaseTtlSeconds : Nat

/-! ## Steps -/

/-- The acts of a gate: the call ends without a command. -/
def stops : Act → Bool
  | .route | .autoReject | .grace _ | .result false _ => true
  | .begin | .result true _ => false

/-- The classification that a diagnosis goes on with. -/
def isSafe (db : Db) (pk : Nat) : Bool :=
  (db.action? pk).any (fun a => a.classification == .safe)

/-- The transaction of a step and the phase its thread goes on to; `none` when
it is not the thread's turn. -/
def transact (S : Settings) (w : World) :
    Label → Option (Store × List Lease × Option (Nat × Phase))
  | .diagnose t i now proposal =>
    match w.phase t with
    | .idle =>
      let r := diagnoseIncident S.verify w.store i now proposal
      some (r.1, w.leases, some (t,
        match r.2 with
        | .proceeds pk => .gates i pk (isSafe r.1.db pk)
        | _ => .idle))
    | _ => none
  | .graceDue t pk =>
    match w.phase t with
    | .idle =>
      some (w.store, w.leases, (graceDue w.store.db pk).map
        (fun i => (t, .graceLoaded i pk)))
    | _ => none
  | .resume t =>
    match w.phase t with
    | .graceLoaded i pk =>
      let r := resumeGrace w.store.db pk i
      some (Store.setDb w.store r.1, w.leases, some (t,
        if r.2 then .gates i pk true else .idle))
    | _ => none
  | .stop t a =>
    match w.phase t with
    | .gates i pk _ =>
      if stops a then
        (a.apply S.verify w.store i pk).map
          (fun st => (st, w.leases, some (t, .idle)))
      else none
    | _ => none
  | .acquire t allowed clusterId now =>
    match w.phase t with
    | .gates i pk true =>
      match if allowed then
          acquireLease w.leases clusterId pk now S.leaseTtlSeconds
        else none with
      | none =>
        some (Store.setDb w.store (routeSafeToApproval w.store.db pk i), w.leases,
          some (t, .idle))
      | some leases => some (w.store, leases, some (t, .leased i pk))
    | _ => none
  | .begin t =>
    match w.phase t with
    | .leased i pk =>
      some (Store.setDb w.store (beginSafe w.store.db pk i), w.leases,
        some (t, .executing i pk))
    | _ => none
  | .start t =>
    match w.phase t with
    | .executing _ _ => some (w.store, w.leases, none)
    | _ => none
  | .finish t succeeded now =>
    match w.phase t with
    | .executing i pk =>
      ((Act.result succeeded now).apply S.verify w.store i pk).map
        (fun st => (st, w.leases, some (t, .recorded i pk)))
    | _ => none
  | .release t =>
    match w.phase t with
    | .recorded _ pk =>
      some (w.store, releaseLease w.leases pk, some (t, .idle))
    | _ => none
  | .reconcile now =>
    let r := reconcileExpired w.store w.leases now
    some (r.1, r.2, none)
  | .vanish t => some (w.store, w.leases, some (t, .idle))

/-- The state after a transaction. -/
def World.advance (w : World) (store : Store) (leases : List Lease)
    (goes : Option (Nat × Phase)) : World where
  store := store
  leases := leases
  phase := fun t =>
    match goes with
    | some (t', p) => if t = t' then p else w.phase t
    | none => w.phase t

def step (S : Settings) (w : World) (l : Label) : Option World :=
  (transact S w l).map (fun r => w.advance r.1 r.2.1 r.2.2)

def executionSystem (S : Settings) : Runs.System World Label := ⟨step S⟩

/-- No thread is at work. -/
def World.initial (store : Store) (leases : List Lease) : World where
  store := store
  leases := leases
  phase := fun _ => .idle

/-! ## What the steps leave of `INCONCLUSIVE` -/

/-- `actions.id` is the primary key. -/
def UniqueKeys (db : Db) : Prop := (db.actions.map Action.id).Nodup

instance (db : Db) : Decidable (UniqueKeys db) :=
  inferInstanceAs (Decidable (db.actions.map Action.id).Nodup)

/-- No Action becomes `INCONCLUSIVE`, and none that is changes. -/
structure Quiet (db db' : Db) : Prop where
  status : ∀ pk, db'.statusOf pk = some .inconclusive ↔
    db.statusOf pk = some .inconclusive
  keys : UniqueKeys db → UniqueKeys db'

theorem Quiet.refl (db : Db) : Quiet db db := ⟨fun _ => Iff.rfl, id⟩

theorem quiet_writeIncident (db : Db) (i : Nat) (w : IncidentWrite) :
    Quiet db (db.writeIncident i w) := ⟨fun _ => Iff.rfl, id⟩

theorem keys_eq_links (db : Db) : db.actions.map Action.id = db.links.map Prod.fst := by
  unfold Db.links
  rw [List.map_map]
  rfl

theorem quiet_of_rewrites {pk i : Nat} {s : ActionStatus} {db db' : Db} (h : Rewrites pk i s db db')
    (hs : s ≠ .inconclusive) (hold : db.statusOf pk ≠ some .inconclusive) : Quiet db db' where
  status := by
    intro pk'
    by_cases hpk : pk' = pk
    · subst hpk
      rw [h.own]
      cases hrow : db.statusOf pk' with
      | none => simp
      | some s' =>
        rw [hrow] at hold
        rw [Option.map_some]
        constructor
        · intro heq
          exact absurd (Option.some.inj heq) hs
        · intro heq
          exact absurd heq hold
    · rw [h.status pk' hpk]
  keys := by
    intro hkeys
    unfold UniqueKeys at hkeys ⊢
    rw [keys_eq_links, h.links, ← keys_eq_links]
    exact hkeys

theorem statusOf_of_mem {db : Db} {a : Action} (hkeys : UniqueKeys db)
    (ha : a ∈ db.actions) : db.statusOf a.id = some a.status := by
  have hrow : db.action? a.id = some a := Table.get_of_mem hkeys ha
  unfold Db.statusOf
  rw [hrow, Option.map_some]

theorem existingAction_mem {db : Db} {i : Nat} {a : Action}
    (h : existingAction db i = .one a) : a ∈ db.actions := by
  unfold existingAction at h
  cases hrows : db.actions.filter (fun a => a.incidentId == i) with
  | nil => simp [hrows] at h
  | cons b rows =>
    cases rows with
    | nil =>
      simp only [hrows, Existing.one.injEq] at h
      subst h
      have hmem : b ∈ db.actions.filter (fun a => a.incidentId == i) := by
        rw [hrows]
        exact List.mem_singleton_self b
      exact List.mem_of_mem_filter hmem
    | cons c rows => simp [hrows] at h

theorem quiet_insert {db : Db} {a : Action} (hid : a.id = Table.fresh db.actions)
    (hs : a.status = .pending) :
    Quiet db { db with actions := Table.insert db.actions a } ∧
      Db.statusOf { db with actions := Table.insert db.actions a } a.id =
        some .pending := by
  have hnew : Table.get db.actions a.id = none := by
    rw [hid]
    exact Table.get_fresh db.actions
  have hstatus : ∀ pk,
      Db.statusOf { db with actions := Table.insert db.actions a } pk =
        if pk = a.id then some .pending else db.statusOf pk := by
    intro pk
    show (Table.get (Table.insert db.actions a) pk).map Action.status = _
    have hget : Table.get (Table.insert db.actions a) pk =
        if pk = a.id then some a else Table.get db.actions pk :=
      Table.get_insert db.actions a hnew pk
    rw [hget]
    by_cases hpk : pk = a.id
    · rw [if_pos hpk, if_pos hpk, Option.map_some, hs]
    · rw [if_neg hpk, if_neg hpk]
      rfl
  refine ⟨⟨?_, ?_⟩, ?_⟩
  · intro pk
    rw [hstatus pk]
    by_cases hpk : pk = a.id
    · subst hpk
      have hnone : db.statusOf a.id = none := by
        show (Table.get db.actions a.id).map Action.status = none
        rw [hnew]
        rfl
      simp [hnone]
    · rw [if_neg hpk]
  · intro hkeys
    exact Table.keys_insert hkeys hnew
  · rw [hstatus, if_pos rfl]

theorem diagnose_quiet (settings : VerifySettings) {st : Store}
    (hkeys : UniqueKeys st.db) (i now : Nat) (proposal : Proposal) :
    Quiet st.db (diagnoseIncident settings st i now proposal).1.db ∧
      ∀ pk, (diagnoseIncident settings st i now proposal).2 = .proceeds pk →
        (diagnoseIncident settings st i now proposal).1.db.statusOf pk =
          some .pending := by
  unfold diagnoseIncident
  cases hrow : st.db.incident? i with
  | none => exact ⟨Quiet.refl _, by simp⟩
  | some row =>
    dsimp only
    cases hex : existingAction st.db i with
    | several => exact ⟨Quiet.refl _, by simp⟩
    | nothing =>
      cases proposal with
      | lowConfidence => exact ⟨quiet_writeIncident _ _ _, by simp [proposeAction]⟩
      | unverifiedTarget =>
        exact ⟨quiet_writeIncident _ _ _, by simp [proposeAction]⟩
      | action actionId classification params fingerprint version registry
          collides =>
          cases collides with
          | true => exact ⟨Quiet.refl _, by simp [proposeAction]⟩
          | false =>
            obtain ⟨hquiet, hpending⟩ :=
              @quiet_insert st.db (proposedAction st.db i actionId
                classification params fingerprint) rfl rfl
            refine ⟨hquiet, ?_⟩
            intro pk hpk
            have hid := DiagnosisEnd.proceeds.inj hpk
            rw [← hid]
            exact hpending
    | one a =>
      have ha := statusOf_of_mem hkeys (existingAction_mem hex)
      dsimp only
      unfold resumeAction
      by_cases hpending : a.status = .pending
      · rw [if_pos hpending]
        refine ⟨Quiet.refl _, ?_⟩
        intro pk hpk
        have hid := DiagnosisEnd.proceeds.inj hpk
        rw [← hid, ha, hpending]
      · rw [if_neg hpending]
        by_cases hcase : a.status = .autoExecuted ∧
            pendingCase st.cases a.id = true
        · rw [if_pos hcase]
          by_cases hmsgr : a.actionId = "enable_mon_msgr2"
          · rw [if_pos hmsgr]
            have hrewrites := @rewrites_write st.db a.id i
              { status := some .pending } _ { verifyAfter := some none } rfl
            refine ⟨quiet_of_rewrites hrewrites (by simp) ?_, ?_⟩
            · rw [ha, hcase.1]
              simp
            · intro pk hpk
              have hid := DiagnosisEnd.proceeds.inj hpk
              rw [← hid]
              have hown := hrewrites.own
              rw [ha, Option.map_some] at hown
              exact hown
          · rw [if_neg hmsgr]
            exact ⟨quiet_writeIncident _ _ _, by simp⟩
        · rw [if_neg hcase]
          exact ⟨quiet_writeIncident _ _ _, by simp⟩

theorem act_rewrites {settings : VerifySettings} {st st' : Store} {i pk : Nat}
    {a : Act} (h : a.apply settings st i pk = some st') :
    ∃ s, Rewrites pk i s st.db st'.db ∧ s ≠ .inconclusive := by
  cases a with
  | route =>
    cases h
    exact ⟨.pendingApproval, rewrites_write st.db pk i _ rfl, by decide⟩
  | autoReject =>
    cases h
    exact ⟨.rejected, rewrites_write st.db pk i _ rfl, by decide⟩
  | begin =>
    cases h
    exact ⟨.executing, rewrites_write st.db pk i _ rfl, by decide⟩
  | result succeeded now =>
    cases h
    refine ⟨_, recordExecutionResult_rewrites settings st.db pk i succeeded now, ?_⟩
    cases succeeded with
    | false => decide
    | true => decide
  | grace graceUntil =>
    obtain ⟨db, hdb, hst⟩ := Option.map_eq_some_iff.mp h
    subst hst
    unfold startGrace at hdb
    cases hrow : st.db.action? pk with
    | none => simp [hrow] at hdb
    | some a =>
      cases hgrace : a.graceUntil.isSome with
      | true => simp [hrow, hgrace] at hdb
      | false =>
        simp only [hrow, hgrace, Bool.false_eq_true, if_false,
          Option.some.injEq] at hdb
        subst hdb
        exact ⟨.gracePending, rewrites_write st.db pk i _ rfl, by decide⟩

/-! ## What a run keeps -/

/-- The Action whose command the step starts. -/
def starts (w : World) : Label → Option Nat
  | .start t => (w.phase t).working.map Prod.snd
  | _ => none

/-- The Action whose result the step records, with its Incident. -/
def records (w : World) : Label → Option (Nat × Nat)
  | .finish t _ _ => (w.phase t).working
  | _ => none

/-- An Action that is `INCONCLUSIVE` stays so, its command is not started, and a
result of it does not move its Incident to `VERIFYING`. -/
def KeepsInconclusive (w : World) (l : Label) (w' : World) : Prop :=
  ∀ pk, w.store.db.statusOf pk = some .inconclusive →
    w'.store.db.statusOf pk = some .inconclusive ∧ starts w l ≠ some pk ∧
      ∀ i, records w l = some (i, pk) →
        w'.store.db.incidentStatus i = some .verifying →
          w.store.db.incidentStatus i = some .verifying

/-- The step reconciles only Actions that no thread is still working on. -/
def OnlyAbandoned (w : World) : Label → Prop
  | .reconcile now =>
    ∀ t i pk, (w.phase t).working = some (i, pk) →
      (w.store.db.action? pk).any (expired w.leases now) = false
  | _ => True

/-- No thread is working on an `INCONCLUSIVE` Action. -/
structure Sound (w : World) : Prop where
  keys : UniqueKeys w.store.db
  conclusive : ∀ t i pk, (w.phase t).working = some (i, pk) →
    w.store.db.statusOf pk ≠ some .inconclusive

theorem sound_initial {store : Store} (leases : List Lease)
    (h : UniqueKeys store.db) : Sound (World.initial store leases) where
  keys := h
  conclusive := by
    intro t i pk hworking
    cases hworking

/-- A thread other than the one that takes the step is where it was. -/
theorem advance_phase (w : World) (store : Store) (leases : List Lease)
    (goes : Option (Nat × Phase)) (t : Nat) :
    ((w.advance store leases goes).phase t = w.phase t) ∨
      goes = some (t, (w.advance store leases goes).phase t) := by
  cases goes with
  | none => exact Or.inl rfl
  | some g =>
    obtain ⟨t', p⟩ := g
    by_cases ht : t = t'
    · right
      subst ht
      simp [World.advance]
    · left
      exact if_neg ht

theorem conclusive_of_idle {db : Db} {t : Nat} {p : Phase} (hp : p.working = none) :
    ∀ t' p' i pk, some (t, p) = some (t', p') → p'.working = some (i, pk) →
      db.statusOf pk ≠ some .inconclusive := by
  intro t' p' i pk hgoes hworking
  cases hgoes
  rw [hp] at hworking
  cases hworking

theorem conclusive_of_working {db : Db} {t i pk : Nat} {p : Phase}
    (hp : p.working = some (i, pk)) (hnew : db.statusOf pk ≠ some .inconclusive) :
    ∀ t' p' i' pk', some (t, p) = some (t', p') → p'.working = some (i', pk') →
      db.statusOf pk' ≠ some .inconclusive := by
  intro t' p' i' pk' hgoes hworking
  cases hgoes
  rw [hp] at hworking
  cases hworking
  exact hnew

theorem Sound.rewrites_quiet {w : World} (hw : Sound w) {t i pk : Nat} {s : ActionStatus} {db : Db}
    (hworking : (w.phase t).working = some (i, pk)) (hrewrites : Rewrites pk i s w.store.db db)
    (hs : s ≠ .inconclusive) : Quiet w.store.db db ∧ db.statusOf pk ≠ some .inconclusive := by
  have hold := hw.conclusive t i pk hworking
  have hquiet := quiet_of_rewrites hrewrites hs hold
  exact ⟨hquiet, fun hnew => hold ((hquiet.status pk).mp hnew)⟩

theorem Sound.act_quiet {settings : VerifySettings} {w : World} (hw : Sound w) {t i pk : Nat}
    {a : Act} {st : Store} (hworking : (w.phase t).working = some (i, pk))
    (hst : a.apply settings w.store i pk = some st) : Quiet w.store.db st.db := by
  obtain ⟨s, hrewrites, hs⟩ := act_rewrites hst
  exact (hw.rewrites_quiet hworking hrewrites hs).1

theorem working_of_phase {w : World} {t i pk : Nat} {p : Phase} (hphase : w.phase t = p)
    (hp : p.working = some (i, pk)) : (w.phase t).working = some (i, pk) := by
  rw [hphase, hp]

theorem transact_quiet {S : Settings} {w : World} {l : Label} {store : Store} {leases : List Lease}
    {goes : Option (Nat × Phase)} (hw : Sound w) (hl : ∀ now, l ≠ .reconcile now)
    (h : transact S w l = some (store, leases, goes)) :
    Quiet w.store.db store.db ∧
      ∀ t p i pk, goes = some (t, p) → p.working = some (i, pk) →
        store.db.statusOf pk ≠ some .inconclusive := by
  cases l with
  | reconcile now => exact absurd rfl (hl now)
  | vanish t =>
    simp only [transact, Option.some.injEq, Prod.mk.injEq] at h
    obtain ⟨rfl, _, rfl⟩ := h
    exact ⟨Quiet.refl _, conclusive_of_idle rfl⟩
  | diagnose t i now proposal =>
    cases hphase : w.phase t <;> simp only [transact, hphase] at h
    case idle =>
      simp only [Option.some.injEq, Prod.mk.injEq] at h
      obtain ⟨rfl, _, rfl⟩ := h
      obtain ⟨hquiet, hpending⟩ :=
        diagnose_quiet S.verify hw.keys i now proposal
      refine ⟨hquiet, ?_⟩
      cases hend : (diagnoseIncident S.verify w.store i now proposal).2 with
      | returned | raised => exact conclusive_of_idle rfl
      | proceeds pk =>
        apply conclusive_of_working rfl
        rw [hpending pk hend]
        simp
    all_goals cases h
  | graceDue t pk =>
    cases hphase : w.phase t <;> simp only [transact, hphase] at h
    case idle =>
      simp only [Option.some.injEq, Prod.mk.injEq] at h
      obtain ⟨rfl, _, rfl⟩ := h
      refine ⟨Quiet.refl _, ?_⟩
      intro t' p i pk' hgoes hworking
      obtain ⟨i', hdue, hg⟩ := Option.map_eq_some_iff.mp hgoes
      cases hg
      cases hworking
      rw [(ActionRuns.graceDue_eq_some hdue).1]
      simp
    all_goals cases h
  | resume t =>
    cases hphase : w.phase t <;> simp only [transact, hphase] at h
    case graceLoaded i pk =>
      simp only [Option.some.injEq, Prod.mk.injEq] at h
      obtain ⟨rfl, _, rfl⟩ := h
      have hs : (if (resumeGrace w.store.db pk i).2 then ActionStatus.pending
          else .pendingApproval) ≠ .inconclusive := by
        cases (resumeGrace w.store.db pk i).2 with
        | false | true => decide
      obtain ⟨hquiet, hnew⟩ :=
        hw.rewrites_quiet (working_of_phase hphase rfl)
          (resumeGrace_rewrites w.store.db pk i) hs
      refine ⟨hquiet, ?_⟩
      cases (resumeGrace w.store.db pk i).2 with
      | false => exact conclusive_of_idle rfl
      | true => exact conclusive_of_working rfl hnew
    all_goals cases h
  | stop t a =>
    cases hphase : w.phase t <;> simp only [transact, hphase] at h
    case gates i pk safe =>
      by_cases hstops : stops a = true
      · rw [if_pos hstops] at h
        obtain ⟨st, hst, hr⟩ := Option.map_eq_some_iff.mp h
        cases hr
        exact ⟨hw.act_quiet (working_of_phase hphase rfl) hst, conclusive_of_idle rfl⟩
      · rw [if_neg hstops] at h
        cases h
    all_goals cases h
  | acquire t allowed clusterId now =>
    cases hphase : w.phase t <;> simp only [transact, hphase] at h
    case gates i pk safe =>
      cases safe with
      | false => cases h
      | true =>
        have hworking := working_of_phase hphase rfl
        cases hlease : (if allowed then
            acquireLease w.leases clusterId pk now S.leaseTtlSeconds
            else none) with
        | none =>
          simp only [hlease, Option.some.injEq, Prod.mk.injEq] at h
          obtain ⟨rfl, _, rfl⟩ := h
          have hrewrites : Rewrites pk i .pendingApproval w.store.db
              (routeSafeToApproval w.store.db pk i) :=
            rewrites_write w.store.db pk i _ rfl
          exact ⟨(hw.rewrites_quiet hworking hrewrites (by decide)).1,
            conclusive_of_idle rfl⟩
        | some ls =>
          simp only [hlease, Option.some.injEq, Prod.mk.injEq] at h
          obtain ⟨rfl, _, rfl⟩ := h
          exact ⟨Quiet.refl _,
            conclusive_of_working rfl (hw.conclusive t i pk hworking)⟩
    all_goals cases h
  | begin t =>
    cases hphase : w.phase t <;> simp only [transact, hphase] at h
    case leased i pk =>
      simp only [Option.some.injEq, Prod.mk.injEq] at h
      obtain ⟨rfl, _, rfl⟩ := h
      have hrewrites : Rewrites pk i .executing w.store.db
          (beginSafe w.store.db pk i) := rewrites_write w.store.db pk i _ rfl
      obtain ⟨hquiet, hnew⟩ :=
        hw.rewrites_quiet (working_of_phase hphase rfl) hrewrites (by decide)
      exact ⟨hquiet, conclusive_of_working rfl hnew⟩
    all_goals cases h
  | start t =>
    cases hphase : w.phase t <;> simp only [transact, hphase] at h
    case executing i pk =>
      simp only [Option.some.injEq, Prod.mk.injEq] at h
      obtain ⟨rfl, _, rfl⟩ := h
      refine ⟨Quiet.refl _, ?_⟩
      intro t' p i' pk' hgoes _
      cases hgoes
    all_goals cases h
  | finish t succeeded now =>
    cases hphase : w.phase t <;> simp only [transact, hphase] at h
    case executing i pk =>
      obtain ⟨st, hst, hr⟩ := Option.map_eq_some_iff.mp h
      cases hr
      exact ⟨hw.act_quiet (working_of_phase hphase rfl) hst, conclusive_of_idle rfl⟩
    all_goals cases h
  | release t =>
    cases hphase : w.phase t <;> simp only [transact, hphase] at h
    case recorded i pk =>
      simp only [Option.some.injEq, Prod.mk.injEq] at h
      obtain ⟨rfl, _, rfl⟩ := h
      exact ⟨Quiet.refl _, conclusive_of_idle rfl⟩
    all_goals cases h

theorem statusOf_reconcileDb (db : Db) (leases : List Lease) (now pk : Nat) :
    (reconcileDb db leases now).statusOf pk =
      if (db.action? pk).any (expired leases now) then some .inconclusive
      else db.statusOf pk := by
  unfold Db.statusOf Db.action? reconcileDb
  rw [Table.get_update db.actions (expired leases now)
    (ActionWrite.apply { status := some .inconclusive }) (fun _ => rfl)]
  cases Table.get db.actions pk with
  | none => rfl
  | some a =>
    cases he : expired leases now a with
    | false => simp [he]
    | true => simp [he, ActionWrite.apply]

theorem keys_reconcileDb {db : Db} {leases : List Lease} {now : Nat}
    (h : UniqueKeys db) : UniqueKeys (reconcileDb db leases now) := by
  unfold UniqueKeys
  have hsame : (reconcileDb db leases now).actions.map Action.id =
      db.actions.map Action.id :=
    Table.map_update_of_eq db.actions _ _ _ (fun _ => rfl)
  rw [hsame]
  exact h

/-- **Step lemma.** -/
theorem sound_step {S : Settings} {w w' : World} {l : Label} (hw : Sound w) (hl : OnlyAbandoned w l)
    (h : step S w l = some w') : KeepsInconclusive w l w' ∧ Sound w' := by
  obtain ⟨r, hr, hw'⟩ := Option.map_eq_some_iff.mp h
  obtain ⟨store, leases, goes⟩ := r
  subst hw'
  by_cases hreconcile : ∃ now, l = .reconcile now
  · obtain ⟨now, rfl⟩ := hreconcile
    cases hr
    constructor
    · intro pk hpk
      refine ⟨?_, by simp [starts], by simp [records]⟩
      show (reconcileDb w.store.db w.leases now).statusOf pk = _
      rw [statusOf_reconcileDb]
      by_cases hexpired : (w.store.db.action? pk).any (expired w.leases now) = true
      · rw [if_pos hexpired]
      · rw [if_neg hexpired]
        exact hpk
    · constructor
      · exact keys_reconcileDb hw.keys
      · intro t i pk hworking
        have habandoned := hl t i pk hworking
        show (reconcileDb w.store.db w.leases now).statusOf pk ≠ _
        rw [statusOf_reconcileDb, habandoned]
        exact hw.conclusive t i pk hworking
  · have hne : ∀ now, l ≠ .reconcile now := fun now heq => hreconcile ⟨now, heq⟩
    obtain ⟨hquiet, hgoes⟩ := transact_quiet hw hne hr
    constructor
    · intro pk hpk
      refine ⟨(hquiet.status pk).mpr hpk, ?_, ?_⟩
      · intro hstart
        cases l with
        | start t =>
          obtain ⟨r, hworking, hr⟩ := Option.map_eq_some_iff.mp hstart
          obtain ⟨i, pk'⟩ := r
          have hsame : pk' = pk := hr
          exact hw.conclusive t i pk' hworking (hsame ▸ hpk)
        | _ => cases hstart
      · intro i hrecord
        cases l with
        | finish t succeeded now => exact absurd hpk (hw.conclusive t i pk hrecord)
        | _ => cases hrecord
    · constructor
      · exact hquiet.keys hw.keys
      · intro t i pk hworking
        show store.db.statusOf pk ≠ some .inconclusive
        cases advance_phase w store leases goes t with
        | inl hsame =>
          rw [hsame] at hworking
          intro hnew
          exact hw.conclusive t i pk hworking ((hquiet.status pk).mp hnew)
        | inr hmoved => exact hgoes t _ i pk hmoved hworking

/-- **No retry.**  In every run whose reconciliations close only Actions that
no thread is still working on, an Action that is `INCONCLUSIVE` stays so for
ever, its command is not started again, and no late result moves its Incident
to `VERIFYING`. -/
theorem inconclusive_stays (S : Settings) (store : Store) (leases : List Lease)
    (hkeys : UniqueKeys store.db) (run : List Label)
    (hrun : (executionSystem S).Meets OnlyAbandoned (World.initial store leases) run) :
    (executionSystem S).Always KeepsInconclusive (World.initial store leases)
      run := by
  apply (executionSystem S).always_of_meets KeepsInconclusive OnlyAbandoned Sound
  · intro w l w' hw hl h
    exact sound_step hw hl h
  · exact sound_initial leases hkeys
  · exact hrun

/-! ## Two runs -/

/-- Defaults of `config/settings.py`. -/
def sampleSettings : Settings := ⟨⟨120, 3⟩, 900⟩

/-- One Incident without an Action. -/
def sampleStore : Store where
  db :=
    { actions := []
      incidents := [⟨7, none, "MON_CLOCK_SKEW", none, .diagnosing, false, none, 0⟩]
      overrides := [] }
  cases := []

def resyncNtp : Proposal :=
  .action "resync_ntp" .safe [] "evidence" "1" none false

/-- The command is started at 0 under a lease until 900. -/
def startedRun : List Label :=
  [.diagnose 0 7 0 resyncNtp, .acquire 0 true "default" 0, .begin 0, .start 0]

/-- The Worker stops; the Action is reconciled, and the message delivered
again. -/
def abandonedRun : List Label :=
  startedRun ++ [.vanish 0, .reconcile 900, .diagnose 0 7 910 resyncNtp]

/-- The command is still running when its lease expires, and then succeeds. -/
def slowRun : List Label :=
  startedRun ++ [.reconcile 900, .finish 0 true 950]

/-- The run of the abandoned execution closes and keeps its Action. -/
theorem inconclusive_stays_abandonedRun :
    ((executionSystem sampleSettings).run (World.initial sampleStore [])
      abandonedRun).map (fun w =>
        (w.store.db.statusOf 1, w.store.db.incidentStatus 7, w.leases)) =
      some (some .inconclusive, some .failed, []) ∧
    (executionSystem sampleSettings).Always KeepsInconclusive
      (World.initial sampleStore []) abandonedRun := by
  refine ⟨by decide +kernel, ?_⟩
  apply inconclusive_stays
  · decide
  · refine ⟨trivial, trivial, trivial, trivial, trivial, ?_, trivial, trivial⟩
    intro t i pk hworking
    have hidle : (Phase.working (if t = 0 then .idle else .idle)) = some (i, pk) := by
      by_cases ht : t = 0
      · subst ht
        exact hworking
      · rw [if_neg ht]
        simpa [World.advance, World.initial, ht] using hworking
    by_cases ht : t = 0
    · rw [if_pos ht] at hidle
      cases hidle
    · rw [if_neg ht] at hidle
      cases hidle

/-- The late result of a slow command makes its `INCONCLUSIVE` Action
`AUTO_EXECUTED` and its Incident `VERIFYING`. -/
theorem late_result_overwrites :
    ((executionSystem sampleSettings).run (World.initial sampleStore [])
      slowRun).map (fun w =>
        (w.store.db.statusOf 1, w.store.db.incidentStatus 7)) =
      some (some .autoExecuted, some .verifying) ∧
    ¬ (executionSystem sampleSettings).Always KeepsInconclusive
      (World.initial sampleStore []) slowRun := by
  refine ⟨by decide +kernel, ?_⟩
  intro halways
  have hview : ((executionSystem sampleSettings).run
      (World.initial sampleStore []) (startedRun ++ [.reconcile 900])).map
        (fun w => (w.store.db.statusOf 1,
          (step sampleSettings w (.finish 0 true 950)).map
            (fun w' => w'.store.db.statusOf 1))) =
      some (some .inconclusive, some (some .autoExecuted)) := by
    decide +kernel
  obtain ⟨w, hw, hfacts⟩ := Option.map_eq_some_iff.mp hview
  simp only [Prod.mk.injEq] at hfacts
  obtain ⟨hreconciled, hlast⟩ := hfacts
  obtain ⟨w', hstep, hexecuted⟩ := Option.map_eq_some_iff.mp hlast
  have hkeeps := halways.step_after hstep _ _ hw
  have hstays := (hkeeps 1 hreconciled).1
  rw [hexecuted] at hstays
  cases hstays

end CephAi.Ports.AutonomousExecution
