import CephAi.Ports.ApprovedExecution
import CephAi.Verified.Runs

/-!
# Workers and operators on the same Actions

Any number of Worker threads poll approved and due grace Actions while any
number of operators approve, reject and cancel them.  Every transaction is one
step; between two transactions of a call anything else may happen, and a Worker
may stop anywhere.

The state keeps the phase of each thread and call, a log of the commands that
were started and one of what the operators were told.  The clock, the number of
approvals of an Action and the list of claims are ghost state: they say when an
Action was read and under which of its approvals, and no step looks at them.

## Main results

* `stepped_of_step` — what each step does, one case for each outcome.
-/

namespace CephAi.Ports.ActionRuns

open Verified Models ApprovedExecution

/-! ## State -/

/-- Where a Worker thread is. -/
inductive Phase
  | idle
  /-- `_execute_approved_action` behind its first transaction. -/
  | claiming (pk incidentId approval readAt : Nat)
  /-- The claim was won; the command has not been started. -/
  | claimed (pk incidentId approval readAt : Nat)
  | running (pk : Nat)
  /-- `_process_due_grace_actions_once` has seen the Action waiting. -/
  | graceLoaded (pk incidentId : Nat)
  /-- `_maybe_execute_safe_action` before its gates. -/
  | safe (pk incidentId : Nat)
  | safeReady (pk incidentId : Nat)
  | safeRunning (pk incidentId : Nat)
deriving DecidableEq, Repr

/-- The operators' calls. -/
inductive DecisionKind
  | approve
  | reject
  | cancelGrace
deriving DecidableEq, Repr

/-- The status a call asks for. -/
def DecisionKind.expects : DecisionKind → ActionStatus
  | .approve | .reject => .pendingApproval
  | .cancelGrace => .gracePending

inductive ApprovalOutcome
  | alreadyHandled
  | acknowledged
  | approved
  | rejected
  | expired
deriving DecidableEq, Repr

/-- A command that was started, and under which approval. -/
structure Start where
  action : Nat
  approval : Option Nat
  readAt : Nat
  startedAt : Nat
deriving DecidableEq, Repr

/-- What an operator was told. -/
structure Report where
  action : Nat
  outcome : ApprovalOutcome
  time : Nat
deriving DecidableEq, Repr

/-- The state. -/
structure World where
  db : Db
  phase : Nat → Phase
  decision : Nat → Option (DecisionKind × Nat)
  starts : List Start
  reports : List Report
  clock : Nat
  approvals : Nat → Nat
  claims : List (Nat × Nat)

/-- What the modelled code takes from elsewhere. -/
structure Settings where
  policy : ActionPolicy
  verify : VerifySettings
  /-- `executor_commands.has_command`. -/
  hasCommand : String → Bool

/-- The gates of `_maybe_execute_safe_action`, by what they lead to. -/
inductive Gate
  | toApproval
  | grace (graceUntil : Nat)
  | fail (now : Nat)
  | execute
deriving DecidableEq, Repr

/-- One step. -/
inductive Label
  | override (actionId : String) (classification : Option ActionClassification)
  | recheck (thread pk : Nat) (fingerprint : String)
  | claim (thread : Nat)
  | start (thread : Nat)
  | finish (thread : Nat) (succeeded : Bool) (now : Nat)
  | vanish (thread : Nat)
  | reconcile
  | graceDue (thread pk : Nat)
  | resume (thread : Nat)
  | gate (thread : Nat) (outcome : Gate)
  | startSafe (thread : Nat)
  | finishSafe (thread : Nat) (succeeded : Bool) (now : Nat)
  | read (call : Nat) (kind : DecisionKind) (pk : Nat)
  | refuse (call : Nat) (expired : Bool)
  | write (call : Nat) (fingerprint : String)
deriving DecidableEq, Repr

/-! ## Steps -/

/-- A thread goes on to another phase. -/
def World.enter (w : World) (t : Nat) (p : Phase) : World :=
  { w with phase := fun t' => if t' = t then p else w.phase t' }

/-- A transaction is committed. -/
def World.store (w : World) (db : Db) : World := { w with db := db }

/-- A command is started. -/
def World.log (w : World) (pk : Nat) (approval : Option Nat) (readAt : Nat) :
    World :=
  { w with starts := w.starts ++ [⟨pk, approval, readAt, w.clock⟩] }

/-- An operator is told the outcome. -/
def World.tell (w : World) (pk : Nat) (outcome : ApprovalOutcome) : World :=
  { w with reports := w.reports ++ [⟨pk, outcome, w.clock⟩] }

/-- A claim is won. -/
def World.noteClaim (w : World) (pk approval : Nat) : World :=
  { w with claims := (pk, approval) :: w.claims }

/-- One more approval of the Action. -/
def World.noteApproval (w : World) (pk : Nat) : World :=
  { w with
    approvals := fun pk' => if pk' = pk then w.approvals pk' + 1 else w.approvals pk' }

/-- A call goes on, or ends. -/
def World.call (w : World) (d : Nat) (c : Option (DecisionKind × Nat)) :
    World :=
  { w with decision := fun d' => if d' = d then c else w.decision d' }

def World.tick (w : World) : World := { w with clock := w.clock + 1 }

/-- The write of `approve_action_core`, `reject_action_core` and
`cancel_grace_action_core`, and the outcome they return. -/
def decideAction (hasCommand : String → Bool) (db : Db) (kind : DecisionKind)
    (a : Action) (fingerprint : String) : Db × ApprovalOutcome :=
  match kind with
  | .approve =>
    let assessment : Assessment := ⟨fingerprint, some fingerprint⟩
    if hasCommand a.actionId then
      (db.write a.id
        { status := some .approved, assessment := some assessment }
        a.incidentId { status := some .approved }, .approved)
    else
      (db.write a.id
        { status := some .executed, assessment := some assessment }
        a.incidentId { status := some .resolved }, .acknowledged)
  | .reject | .cancelGrace =>
    (db.write a.id { status := some .rejected } a.incidentId
      { status := some .rejected }, .rejected)

/-- What the gates of `_maybe_execute_safe_action` do to the Action, and where
they leave the thread; `none` when there is no second grace period. -/
def passGate (settings : VerifySettings) (db : Db) (pk incidentId : Nat) :
    Gate → Option (Db × Phase)
  | .toApproval => some (routeSafeToApproval db pk incidentId, .idle)
  | .grace graceUntil =>
    (startGrace db pk incidentId graceUntil).map (fun db' => (db', .idle))
  | .fail now =>
    some (recordExecutionResult settings db pk incidentId false now, .idle)
  | .execute => some (beginSafe db pk incidentId, .safeReady pk incidentId)

/-- One step; `none` when it is not the thread's or the call's turn. -/
def step (S : Settings) (w : World) : Label → Option World
  | .override actionId c =>
    let others := w.db.overrides.filter (fun o => o.1 != actionId)
    let overrides :=
      match c with
      | none => others
      | some c => (actionId, c) :: others
    some (w.store { w.db with overrides := overrides }).tick
  | .recheck t pk fingerprint =>
    match w.phase t with
    | .idle =>
      match recheck S.policy w.db pk fingerprint with
      | (db, none) => some (w.store db).tick
      | (db, some incidentId) =>
        some ((w.store db).enter t
          (.claiming pk incidentId (w.approvals pk) w.clock)).tick
    | _ => none
  | .claim t =>
    match w.phase t with
    | .claiming pk incidentId approval readAt =>
      match claim w.db incidentId with
      | none => some (w.enter t .idle).tick
      | some db =>
        some (((w.store db).noteClaim pk approval).enter t
          (.claimed pk incidentId approval readAt)).tick
    | _ => none
  | .start t =>
    match w.phase t with
    | .claimed pk _ approval readAt =>
      some ((w.log pk (some approval) readAt).enter t (.running pk)).tick
    | _ => none
  | .finish t succeeded now =>
    match w.phase t with
    | .claimed pk _ _ _ =>
      -- a check before the command refused it, or something raised
      if succeeded then none
      else
        some ((w.enter t .idle).store
          (recordApprovedExecutionResult S.verify w.db pk false now)).tick
    | .running pk =>
      some ((w.enter t .idle).store
        (recordApprovedExecutionResult S.verify w.db pk succeeded now)).tick
    | _ => none
  | .vanish t => some (w.enter t .idle).tick
  | .reconcile => some (w.store (reconcileInterrupted w.db)).tick
  | .graceDue t pk =>
    match w.phase t with
    | .idle =>
      match graceDue w.db pk with
      | none => some w.tick
      | some incidentId => some (w.enter t (.graceLoaded pk incidentId)).tick
    | _ => none
  | .resume t =>
    match w.phase t with
    | .graceLoaded pk incidentId =>
      match resumeGrace w.db pk incidentId with
      | (db, true) => some ((w.store db).enter t (.safe pk incidentId)).tick
      | (db, false) => some ((w.enter t .idle).store db).tick
    | _ => none
  | .gate t outcome =>
    match w.phase t with
    | .safe pk incidentId =>
      (passGate S.verify w.db pk incidentId outcome).map
        (fun r => ((w.store r.1).enter t r.2).tick)
    | _ => none
  | .startSafe t =>
    match w.phase t with
    | .safeReady pk incidentId =>
      some ((w.log pk none w.clock).enter t (.safeRunning pk incidentId)).tick
    | _ => none
  | .finishSafe t succeeded now =>
    match w.phase t with
    | .safeReady pk incidentId =>
      -- malformed nodes
      if succeeded then none
      else
        some ((w.enter t .idle).store
          (recordExecutionResult S.verify w.db pk incidentId false now)).tick
    | .safeRunning pk incidentId =>
      some ((w.enter t .idle).store
        (recordExecutionResult S.verify w.db pk incidentId succeeded now)).tick
    | _ => none
  | .read d kind pk =>
    match w.decision d, w.db.statusOf pk with
    | none, some status =>
      if status = kind.expects then some (w.call d (some (kind, pk))).tick
      else some (w.tell pk .alreadyHandled).tick
    | _, _ => none
  | .refuse d expired =>
    match w.decision d with
    | some (.approve, pk) =>
      -- expired evidence is reported, a conflict is raised
      if expired then some ((w.call d none).tell pk .expired).tick
      else some (w.call d none).tick
    | _ => none
  | .write d fingerprint =>
    match w.decision d with
    | none => none
    | some (kind, pk) =>
      match w.db.action? pk with
      | none => none
      | some a =>
        match decideAction S.hasCommand w.db kind a fingerprint with
        | (db, .approved) =>
          some ((((w.call d none).store db).noteApproval pk).tell pk
            .approved).tick
        | (db, outcome) =>
          some (((w.call d none).store db).tell pk outcome).tick

/-- The outcomes of a step, one by one. -/
inductive Stepped (S : Settings) (w : World) : Label → World → Prop
  | override (actionId c overrides) :
      Stepped S w (.override actionId c)
        (w.store { w.db with overrides := overrides }).tick
  | recheckStop (t pk fingerprint) (hphase : w.phase t = .idle)
      (hstop : (recheck S.policy w.db pk fingerprint).2 = none) :
      Stepped S w (.recheck t pk fingerprint)
        (w.store (recheck S.policy w.db pk fingerprint).1).tick
  | recheckPass (t pk fingerprint incidentId) (hphase : w.phase t = .idle)
      (hpass : (recheck S.policy w.db pk fingerprint).2 = some incidentId) :
      Stepped S w (.recheck t pk fingerprint)
        ((w.store (recheck S.policy w.db pk fingerprint).1).enter t
          (.claiming pk incidentId (w.approvals pk) w.clock)).tick
  | claimLost (t pk incidentId approval readAt)
      (hphase : w.phase t = .claiming pk incidentId approval readAt) :
      Stepped S w (.claim t) (w.enter t .idle).tick
  | claimWon (t pk incidentId approval readAt db)
      (hphase : w.phase t = .claiming pk incidentId approval readAt)
      (hclaim : claim w.db incidentId = some db) :
      Stepped S w (.claim t)
        (((w.store db).noteClaim pk approval).enter t
          (.claimed pk incidentId approval readAt)).tick
  | start (t pk incidentId approval readAt)
      (hphase : w.phase t = .claimed pk incidentId approval readAt) :
      Stepped S w (.start t)
        ((w.log pk (some approval) readAt).enter t (.running pk)).tick
  | finish (t pk succeeded now)
      (hphase : (∃ i n r, w.phase t = .claimed pk i n r) ∨
        w.phase t = .running pk) :
      Stepped S w (.finish t succeeded now)
        ((w.enter t .idle).store
          (recordApprovedExecutionResult S.verify w.db pk succeeded now)).tick
  | vanish (t) : Stepped S w (.vanish t) (w.enter t .idle).tick
  | reconcile : Stepped S w .reconcile (w.store (reconcileInterrupted w.db)).tick
  | graceNotDue (t pk) : Stepped S w (.graceDue t pk) w.tick
  | graceDue (t pk incidentId) (hphase : w.phase t = .idle)
      (hdue : graceDue w.db pk = some incidentId) :
      Stepped S w (.graceDue t pk)
        (w.enter t (.graceLoaded pk incidentId)).tick
  | resume (t pk incidentId)
      (hphase : w.phase t = .graceLoaded pk incidentId)
      (hok : (resumeGrace w.db pk incidentId).2 = true) :
      Stepped S w (.resume t)
        ((w.store (resumeGrace w.db pk incidentId).1).enter t
          (.safe pk incidentId)).tick
  | resumeFails (t pk incidentId)
      (hphase : w.phase t = .graceLoaded pk incidentId) :
      Stepped S w (.resume t)
        ((w.enter t .idle).store (resumeGrace w.db pk incidentId).1).tick
  | gate (t pk incidentId outcome r) (hphase : w.phase t = .safe pk incidentId)
      (hgate : passGate S.verify w.db pk incidentId outcome = some r) :
      Stepped S w (.gate t outcome) ((w.store r.1).enter t r.2).tick
  | startSafe (t pk incidentId)
      (hphase : w.phase t = .safeReady pk incidentId) :
      Stepped S w (.startSafe t)
        ((w.log pk none w.clock).enter t (.safeRunning pk incidentId)).tick
  | finishSafe (t pk incidentId succeeded now)
      (hphase : w.phase t = .safeReady pk incidentId ∨
        w.phase t = .safeRunning pk incidentId) :
      Stepped S w (.finishSafe t succeeded now)
        ((w.enter t .idle).store
          (recordExecutionResult S.verify w.db pk incidentId succeeded now)).tick
  | readHandled (d kind pk) :
      Stepped S w (.read d kind pk) (w.tell pk .alreadyHandled).tick
  | readPending (d kind pk) :
      Stepped S w (.read d kind pk) (w.call d (some (kind, pk))).tick
  | refuseExpired (d pk) :
      Stepped S w (.refuse d true) ((w.call d none).tell pk .expired).tick
  | refuse (d) : Stepped S w (.refuse d false) (w.call d none).tick
  | write (d kind pk a fingerprint) (hcall : w.decision d = some (kind, pk))
      (haction : w.db.action? pk = some a)
      (houtcome : (decideAction S.hasCommand w.db kind a fingerprint).2 ≠
        .approved) :
      Stepped S w (.write d fingerprint)
        (((w.call d none).store
          (decideAction S.hasCommand w.db kind a fingerprint).1).tell pk
            (decideAction S.hasCommand w.db kind a fingerprint).2).tick
  | approve (d kind pk a fingerprint) (hcall : w.decision d = some (kind, pk))
      (haction : w.db.action? pk = some a)
      (houtcome : (decideAction S.hasCommand w.db kind a fingerprint).2 =
        .approved) :
      Stepped S w (.write d fingerprint)
        ((((w.call d none).store
          (decideAction S.hasCommand w.db kind a fingerprint).1).noteApproval
            pk).tell pk .approved).tick

variable {S : Settings} {db : Db} {pk t : Nat} {w w' : World}

/-- **Inversion of a step.** -/
theorem stepped_of_step {l : Label} (h : step S w l = some w') : Stepped S w l w' := by
  revert h
  fun_cases step S w l <;> try rintro ⟨⟩
  · exact .override _ _ _
  next hp _ hr =>
    have hstop := Stepped.recheckStop _ _ _ hp (congrArg Prod.snd hr)
    rwa [hr] at hstop
  next hp _ _ hr =>
    have hpass := Stepped.recheckPass _ _ _ _ hp (congrArg Prod.snd hr)
    rwa [hr] at hpass
  next hp _ => exact .claimLost _ _ _ _ _ hp
  next hp _ hc => exact .claimWon _ _ _ _ _ _ hp hc
  next hp => exact .start _ _ _ _ _ hp
  next hp hfailed =>
    cases eq_false_of_ne_true hfailed
    exact .finish _ _ false _ (Or.inl ⟨_, _, _, hp⟩)
  next hp => exact .finish _ _ _ _ (Or.inr hp)
  · exact .vanish _
  · exact .reconcile
  · exact .graceNotDue _ _
  next hp _ hd => exact .graceDue _ _ _ hp hd
  next hp _ hr =>
    have hresumed := Stepped.resume (S := S) _ _ _ hp (congrArg Prod.snd hr)
    rwa [hr] at hresumed
  next hp _ hr =>
    have hfails := Stepped.resumeFails (S := S) _ _ _ hp
    rwa [hr] at hfails
  next hp =>
    intro h
    obtain ⟨r, hr, rfl⟩ := Option.map_eq_some_iff.mp h
    exact .gate _ _ _ _ r hp hr
  next hp => exact .startSafe _ _ _ hp
  next hp hfailed =>
    cases eq_false_of_ne_true hfailed
    exact .finishSafe _ _ _ false _ (Or.inl hp)
  next hp => exact .finishSafe _ _ _ _ _ (Or.inr hp)
  · exact .readPending _ _ _
  · exact .readHandled _ _ _
  · exact .refuseExpired _ _
  next hlive =>
    cases eq_false_of_ne_true hlive
    exact .refuse _
  next hd _ ha _ hr =>
    have happroved := Stepped.approve _ _ _ _ _ hd ha (congrArg Prod.snd hr)
    rwa [hr] at happroved
  next hd _ ha _ _ hother hr =>
    have hwritten := Stepped.write _ _ _ _ _ hd ha fun hno =>
      hother ((congrArg Prod.snd hr).symm.trans hno)
    rwa [hr] at hwritten

def actionSystem (S : Settings) : Runs.System World Label where
  step := step S

/-- Nobody has started anything yet. -/
def World.initial (db : Db) : World where
  db := db
  phase := fun _ => .idle
  decision := fun _ => none
  starts := []
  reports := []
  clock := 0
  approvals := fun _ => 0
  claims := []

@[simp] theorem enter_self (w : World) (t : Nat) (p : Phase) :
    (w.enter t p).phase t = p := if_pos rfl

theorem enter_of_ne (w : World) {t' : Nat} (p : Phase) (h : t' ≠ t) :
    (w.enter t p).phase t' = w.phase t' := if_neg h

theorem enter_store_enter (w : World) (t : Nat) (p q : Phase) (db : Db) :
    ((w.enter t p).store db).enter t q = (w.store db).enter t q := by
  unfold World.enter World.store
  congr 1
  funext t'
  by_cases ht : t' = t
  · simp [ht]
  · simp [ht]

/-! ## What the steps write -/

theorem passGate_spec {settings : VerifySettings} {incidentId : Nat} {outcome : Gate}
    {r : Db × Phase} (h : passGate settings db pk incidentId outcome = some r) :
    ∃ s, Rewrites pk incidentId s db r.1 ∧ s ≠ .approved ∧
      (r.2 = .idle ∨ r.2 = .safeReady pk incidentId ∧ s = .executing) := by
  cases outcome with
  | toApproval =>
    simp only [passGate, Option.some.injEq] at h
    subst h
    exact ⟨.pendingApproval, rewrites_write db pk incidentId _ rfl,
      by decide, Or.inl rfl⟩
  | grace graceUntil =>
    simp only [passGate, Option.map_eq_some_iff] at h
    obtain ⟨db', hgrace, rfl⟩ := h
    unfold startGrace at hgrace
    cases ha : db.action? pk with
    | none => simp [ha] at hgrace
    | some a =>
      cases hg : a.graceUntil.isSome with
      | true => simp [ha, hg] at hgrace
      | false =>
        simp only [ha, hg, Bool.false_eq_true, if_false,
          Option.some.injEq] at hgrace
        subst hgrace
        exact ⟨.gracePending, rewrites_write db pk incidentId _ rfl,
          by decide, Or.inl rfl⟩
  | fail now =>
    simp only [passGate, Option.some.injEq] at h
    subst h
    exact ⟨.failed,
      recordExecutionResult_rewrites settings db pk incidentId false now,
      by decide, Or.inl rfl⟩
  | execute =>
    simp only [passGate, Option.some.injEq] at h
    subst h
    exact ⟨.executing, rewrites_write db pk incidentId _ rfl, by decide,
      Or.inr ⟨rfl, rfl⟩⟩

/-- The status a decision leaves, by the outcome it reports. -/
def ApprovalOutcome.status : ApprovalOutcome → ActionStatus
  | .approved => .approved
  | .acknowledged => .executed
  | _ => .rejected

theorem decideAction_spec (hasCommand : String → Bool) {a : Action} (ha : db.action? pk = some a)
    (kind : DecisionKind) (fingerprint : String) :
    db.incidentOf pk = some a.incidentId ∧
      Rewrites pk a.incidentId
        (decideAction hasCommand db kind a fingerprint).2.status db
        (decideAction hasCommand db kind a fingerprint).1 := by
  have hid : a.id = pk := Table.key_of_get ha
  refine ⟨by simp [Db.incidentOf, ha], ?_⟩
  subst hid
  cases kind with
  | approve =>
    unfold decideAction
    by_cases hc : hasCommand a.actionId = true
    · simp only [hc, if_true]
      exact rewrites_write db a.id a.incidentId _ rfl
    · simp only [hc]
      exact rewrites_write db a.id a.incidentId _ rfl
  | reject | cancelGrace => exact rewrites_write db a.id a.incidentId _ rfl

theorem graceDue_eq_some {incidentId : Nat}
    (h : ApprovedExecution.graceDue db pk = some incidentId) :
    db.statusOf pk = some .gracePending ∧
      db.incidentOf pk = some incidentId := by
  unfold ApprovedExecution.graceDue at h
  cases ha : db.action? pk with
  | none => simp [ha] at h
  | some a =>
    simp only [ha] at h
    by_cases hdue : a.status = .gracePending ∧ a.hasCase ∧
        (db.incident? a.incidentId).isSome
    · rw [if_pos hdue, Option.some.injEq] at h
      simp [Db.statusOf, Db.incidentOf, ha, hdue.1, h]
    · simp [hdue] at h

/-! ## A small cluster -/

/-- A policy with one risky command. -/
def sampleSettings : Settings where
  policy := ⟨[], ["restart_osd_daemon"], [], []⟩
  verify := ⟨120, 3⟩
  hasCommand := fun actionId => actionId == "restart_osd_daemon"

/-- An Action on an Incident, both in the given statuses. -/
def sampleDb (action : ActionStatus) (incident : IncidentStatus) : Db where
  actions :=
    [⟨1, 7, "restart_osd_daemon", .risky, action,
      some ⟨"evidence", some "evidence"⟩, true, true, none, none, []⟩]
  incidents := [⟨7, none, "OSD_DOWN", none, incident, false, none, 0⟩]
  overrides := []

end CephAi.Ports.ActionRuns
