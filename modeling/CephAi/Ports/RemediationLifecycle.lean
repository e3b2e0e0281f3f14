import CephAi.Verified.Runs
import Mathlib.Tactic.SplitIfs
import Mathlib.Tactic.ByContra

/-!
# The lifecycle of a remediation

`remediation_state_machine.py` decides which changes of a remediation's state
are accepted.  `transition` tests four things in a fixed order: the states that
end a remediation, the expiry time, the table of edges, the lock.  The expiry
time comes before the table, so once it has passed EXPIRED is accepted from
every state that is not an end, a dispatched command's included; and an edge
that leaves an end is never reached.

A run is a list of calls whose decisions are accepted, each with its own clock,
expiry time and lock owners.  Texts are read as the standard library reads them:
what `strip` and `upper` make of a text, and what the enumeration says of one
that it does not know, are arguments.

## Main results

* `entersOwned_always` — EXECUTING and VERIFYING are entered with the lock.
* `endsWell_iff` — how a remediation that was executing ends.
* `table_accepted_iff` — which edges of the table are accepted.
-/

namespace CephAi.Ports.RemediationLifecycle

open Verified.Runs

inductive RemediationState
  | proposed
  | approved
  | executing
  | verifying
  | succeeded
  | failed
  | rolledBack
  | inconclusive
  | expired
  | cancelled
deriving DecidableEq, Repr

def RemediationState.value : RemediationState → String
  | .proposed => "PROPOSED"
  | .approved => "APPROVED"
  | .executing => "EXECUTING"
  | .verifying => "VERIFYING"
  | .succeeded => "SUCCEEDED"
  | .failed => "FAILED"
  | .rolledBack => "ROLLED_BACK"
  | .inconclusive => "INCONCLUSIVE"
  | .expired => "EXPIRED"
  | .cancelled => "CANCELLED"

def RemediationState.all : List RemediationState :=
  [.proposed, .approved, .executing, .verifying, .succeeded, .failed, .rolledBack,
    .inconclusive, .expired, .cancelled]

def terminal : List RemediationState :=
  [.succeeded, .rolledBack, .inconclusive, .expired, .cancelled]

def locked : List RemediationState := [.executing, .verifying]

/-- `_ALLOWED`, with the empty set of `get` for a state that is not a key. -/
def allowed : RemediationState → List RemediationState
  | .proposed => [.approved, .expired, .cancelled]
  | .approved => [.executing, .expired, .cancelled]
  | .executing => [.verifying, .failed, .inconclusive]
  | .verifying => [.succeeded, .failed, .rolledBack, .inconclusive]
  | .failed => [.rolledBack]
  | .inconclusive => [.rolledBack]
  | _ => []

structure TransitionDecision where
  allowed : Bool
  current : RemediationState
  requested : RemediationState
  reason : String
  requiresLock : Bool := false
  terminal : Bool := false
deriving DecidableEq, Repr

/-- How the standard library reads a text: `normal` is `str(value).strip().upper()`, `unknown`
the text of the `ValueError` for a text that names no state. -/
structure Texts where
  normal : String → String
  unknown : String → String

/-- `RemediationState | str` -/
inductive Value
  | member (s : RemediationState)
  | text (s : String)
deriving DecidableEq, Repr

def state (T : Texts) : Value → Except String RemediationState
  | .member s => .ok s
  | .text t =>
    match RemediationState.all.find? fun s => s.value == T.normal t with
    | some s => .ok s
    | none => .error (T.unknown (T.normal t))

/-- The arguments of a call that say when and by whom; `utcnow` is the clock that is read when
the caller gives no time. -/
structure Circumstances where
  utcnow : Int
  now : Option Int := none
  expiresAt : Option Int := none
  lockOwner : Option String := none
  activeLockOwner : Option String := none
deriving DecidableEq, Repr

def Circumstances.effectiveNow (c : Circumstances) : Int := c.now.getD c.utcnow

def Circumstances.past (c : Circumstances) : Bool :=
  match c.expiresAt with
  | none => false
  | some t => decide (t ≤ c.effectiveNow)

def noOwner : Option String → Bool
  | none => true
  | some o => o == ""

/-- The end of `transition`, from the test of the lock. -/
def checkLock (c : Circumstances) (current requested : RemediationState) :
    TransitionDecision :=
  if requested ∈ locked ∧ (noOwner c.lockOwner || noOwner c.activeLockOwner) then
    { allowed := false, current, requested, requiresLock := true
      reason := "distributed execution lock is required" }
  else if requested ∈ locked ∧ c.lockOwner ≠ c.activeLockOwner then
    { allowed := false, current, requested, requiresLock := true
      reason := "distributed execution lock belongs to another worker" }
  else
    { allowed := true, current, requested, reason := "transition accepted"
      requiresLock := decide (requested ∈ locked)
      terminal := decide (requested ∈ terminal) }

/-- `transition` on two states. -/
def decideTransition (c : Circumstances) (current requested : RemediationState) :
    TransitionDecision :=
  if current ∈ terminal then
    { allowed := false, current, requested, terminal := true
      reason := "terminal remediation state cannot transition" }
  else if c.past then
    if requested = .expired then
      { allowed := true, current, requested, terminal := true
        reason := "approval/execution expiry accepted" }
    else
      { allowed := false, current, requested
        reason := "remediation has expired; transition to EXPIRED first" }
  else if requested ∉ allowed current then
    { allowed := false, current, requested
      reason := "transition " ++ current.value ++ " -> " ++ requested.value ++
        " is not allowed" }
  else checkLock c current requested

def transition (T : Texts) (c : Circumstances) (current requested : Value) :
    TransitionDecision :=
  match state T current with
  | .error exc => ⟨false, .inconclusive, .inconclusive,
      "unknown remediation state: " ++ exc, false, false⟩
  | .ok currentState =>
    match state T requested with
    | .error exc => ⟨false, .inconclusive, .inconclusive,
        "unknown remediation state: " ++ exc, false, false⟩
    | .ok requestedState => decideTransition c currentState requestedState

def recoverAfterWorkerRestart (T : Texts) (current : Value) (lockPresent : Bool) :
    Except String TransitionDecision :=
  match state T current with
  | .error exc => .error exc
  | .ok s =>
    if s ∉ locked then
      .ok ⟨false, s, s, "worker restart recovery is only needed for an in-flight state",
        false, decide (s ∈ terminal)⟩
    else if lockPresent then
      .ok ⟨false, s, s,
        "active lock remains; a single owner must finish or fail the action", true, false⟩
    else
      .ok ⟨true, s, .inconclusive,
        "worker lock disappeared; mark inconclusive and require operator review", true, true⟩

/-! ## Runs -/

/-- A remediation, and whether it has been EXECUTING. -/
structure Remediation where
  state : RemediationState
  executed : Bool
deriving DecidableEq, Repr

def Remediation.init : Remediation := ⟨.proposed, false⟩

/-- The remediation after an accepted decision. -/
def Remediation.enter (r : Remediation) (s : RemediationState) : Remediation :=
  ⟨s, r.executed || decide (s = .executing)⟩

@[simp] theorem Remediation.enter_state (r : Remediation) (s : RemediationState) :
    (r.enter s).state = s := rfl

@[simp] theorem Remediation.enter_executed (r : Remediation) (s : RemediationState) :
    (r.enter s).executed = (r.executed || decide (s = .executing)) := rfl

/-- A call about the remediation; `current` is its state as the caller writes it. -/
inductive Call
  | transition (current requested : Value) (c : Circumstances)
  | recover (current : Value) (lockPresent : Bool)
deriving DecidableEq, Repr

def Call.current : Call → Value
  | .transition current _ _ => current
  | .recover current _ => current

def Call.decision (T : Texts) : Call → Except String TransitionDecision
  | .transition current requested c =>
    .ok (RemediationLifecycle.transition T c current requested)
  | .recover current lockPresent => recoverAfterWorkerRestart T current lockPresent

/-- A call is a step when it names the remediation's state and its decision is accepted. -/
def step (T : Texts) (r : Remediation) (a : Call) : Option Remediation :=
  match RemediationLifecycle.state T a.current, a.decision T with
  | .ok s, .ok d => if s = r.state ∧ d.allowed = true then some (r.enter d.requested) else none
  | _, _ => none

def remediations (T : Texts) : System Remediation Call := ⟨step T⟩

/-- What an accepted call does: the expiry clause, an edge of the table with its lock, or the
recovery of a step in flight. -/
inductive Accepted (T : Texts) (s : RemediationState) : Call → RemediationState → Prop
  | expiry {current requested c} (hrequested : state T requested = .ok .expired)
      (hpast : c.past = true) (hs : s ∉ terminal) :
      Accepted T s (.transition current requested c) .expired
  | edge {current requested c s'} (hrequested : state T requested = .ok s')
      (hpast : c.past = false) (hs : s ∉ terminal) (hedge : s' ∈ allowed s)
      (hlock : s' ∈ locked → noOwner c.lockOwner = false ∧ c.lockOwner = c.activeLockOwner) :
      Accepted T s (.transition current requested c) s'
  | recovered {current} (hs : s ∈ locked) :
      Accepted T s (.recover current false) .inconclusive

variable {T : Texts} {a : Call} {r r' : Remediation} {s s' : RemediationState}

theorem decideTransition_allowed {c : Circumstances} {requested : RemediationState}
    (h : (decideTransition c s requested).allowed = true) :
    s ∉ terminal ∧
      (c.past = true ∧ requested = .expired ∨
        c.past = false ∧ requested ∈ allowed s ∧
          (requested ∈ locked → noOwner c.lockOwner = false ∧
            c.lockOwner = c.activeLockOwner)) := by
  unfold decideTransition at h
  split at h
  · cases h
  · rename_i hs
    refine ⟨hs, ?_⟩
    split at h
    · rename_i hpast
      split at h
      · rename_i hrequested
        exact .inl ⟨hpast, hrequested⟩
      · cases h
    · rename_i hpast
      split at h
      · cases h
      · rename_i hedge
        rw [Decidable.not_not] at hedge
        refine .inr ⟨Bool.eq_false_iff.mpr hpast, hedge, fun hlocked => ?_⟩
        unfold checkLock at h
        split at h
        · cases h
        · rename_i hnone
          split at h
          · cases h
          · rename_i hother
            have howner : noOwner c.lockOwner = false := by
              cases ho : noOwner c.lockOwner with
              | false => rfl
              | true => exact absurd ⟨hlocked, by rw [ho, Bool.true_or]⟩ hnone
            refine ⟨howner, ?_⟩
            by_contra hne
            exact hother ⟨hlocked, hne⟩

theorem decideTransition_requested (c : Circumstances) (s requested : RemediationState) :
    (decideTransition c s requested).requested = requested := by
  unfold decideTransition checkLock
  split_ifs <;> rfl

theorem recoverAfterWorkerRestart_allowed {current : Value} {lockPresent : Bool}
    {d : TransitionDecision} (h : recoverAfterWorkerRestart T current lockPresent = .ok d)
    (hallowed : d.allowed = true) :
    ∃ s, state T current = .ok s ∧ s ∈ locked ∧ lockPresent = false ∧
      d.requested = .inconclusive := by
  unfold recoverAfterWorkerRestart at h
  split at h
  · cases h
  · rename_i s hs
    split at h
    · cases h
      cases hallowed
    · rename_i hlocked
      rw [Decidable.not_not] at hlocked
      split at h
      · cases h
        cases hallowed
      · rename_i hpresent
        cases h
        exact ⟨s, hs, hlocked, Bool.eq_false_iff.mpr hpresent, rfl⟩

theorem step_eq_some :
    step T r a = some r' ↔ ∃ d, state T a.current = .ok r.state ∧ a.decision T = .ok d ∧
      d.allowed = true ∧ r.enter d.requested = r' := by
  unfold step
  cases hs : state T a.current with
  | error exc => simp
  | ok s =>
    cases hd : a.decision T with
    | error exc => simp
    | ok d => simp [and_assoc]

/-- **The steps.**  Everything a step of a run can be. -/
theorem step_cases (h : step T r a = some r') :
    ∃ s', Accepted T r.state a s' ∧ r' = r.enter s' := by
  obtain ⟨d, hs, hd, hallowed, rfl⟩ := step_eq_some.mp h
  refine ⟨d.requested, ?_, rfl⟩
  cases a with
  | transition current requested c =>
    simp only [Call.current, Call.decision, transition, Except.ok.injEq] at hs hd
    rw [hs] at hd
    cases hrequested : state T requested with
    | error exc =>
      simp only [hrequested] at hd
      rw [← hd] at hallowed
      cases hallowed
    | ok s' =>
      simp only [hrequested] at hd
      subst hd
      obtain ⟨hopen, hhow⟩ := decideTransition_allowed hallowed
      rw [decideTransition_requested]
      cases hhow with
      | inl hexpiry =>
        obtain ⟨hpast, rfl⟩ := hexpiry
        exact .expiry hrequested hpast hopen
      | inr hedge => exact .edge hrequested hedge.1 hopen hedge.2.1 hedge.2.2
  | recover current lockPresent =>
    obtain ⟨s, hcurrent, hlocked, rfl, hrequested⟩ :=
      recoverAfterWorkerRestart_allowed hd hallowed
    rw [hrequested]
    have hsame : s = r.state := Except.ok.inj (hcurrent.symm.trans hs)
    exact .recovered (hsame ▸ hlocked)

/-! ## Entering with the lock -/

def Owned : Call → Prop
  | .transition _ _ c =>
    ∃ o, o ≠ "" ∧ c.lockOwner = some o ∧ c.activeLockOwner = some o
  | .recover _ _ => False

/-- A step that leads to EXECUTING or VERIFYING is taken by the owner of the active lock. -/
def EntersOwned (_ : Remediation) (a : Call) (r' : Remediation) : Prop :=
  r'.state ∈ locked → Owned a

theorem owned_of_owners {current requested : Value} {c : Circumstances}
    (howner : noOwner c.lockOwner = false) (hactive : c.lockOwner = c.activeLockOwner) :
    Owned (.transition current requested c) := by
  cases ho : c.lockOwner with
  | none =>
    rw [ho] at howner
    cases howner
  | some o =>
    rw [ho] at howner
    exact ⟨o, by simpa [noOwner] using howner, ho, by rw [← hactive, ho]⟩

theorem entersOwned_of_step (h : step T r a = some r') : EntersOwned r a r' := by
  obtain ⟨s', haccepted, rfl⟩ := step_cases h
  intro hlocked
  rw [Remediation.enter_state] at hlocked
  cases haccepted with
  | expiry | recovered => exact absurd hlocked (by decide)
  | edge hrequested hpast hs hedge hlock =>
    obtain ⟨howner, hactive⟩ := hlock hlocked
    exact owned_of_owners howner hactive

theorem entersOwned_always (T : Texts) (as : List Call) (r : Remediation) :
    (remediations T).Always EntersOwned r as :=
  (remediations T).always_of_invariant EntersOwned (fun _ => True)
    (fun _ _ _ _ h => ⟨entersOwned_of_step h, True.intro⟩) as r True.intro

/-! ## How a remediation ends -/

/-- The ends of a remediation whose command was dispatched. -/
def ends : List RemediationState := [.succeeded, .failed, .rolledBack, .inconclusive]

/-- A remediation that was EXECUTING is in flight or at one of its ends: it is not recorded as
EXPIRED or CANCELLED. -/
def EndsWell (r : Remediation) : Prop :=
  r.executed = true → r.state ∈ locked ∨ r.state ∈ ends

/-- The states from which the expiry clause takes a dispatched command to EXPIRED. -/
def dispatched : List RemediationState := [.executing, .verifying, .failed]

def asksExpired (T : Texts) (requested : Value) : Bool :=
  match state T requested with
  | .ok s => s == .expired
  | .error _ => false

def InTime (T : Texts) (r : Remediation) : Call → Prop
  | .transition _ requested c =>
    r.state ∈ dispatched → c.past = true → asksExpired T requested = false
  | .recover _ _ => True

instance (T : Texts) (r : Remediation) : ∀ a, Decidable (InTime T r a)
  | .transition _ requested c => inferInstanceAs
    (Decidable (r.state ∈ dispatched → c.past = true → asksExpired T requested = false))
  | .recover _ _ => inferInstanceAs (Decidable True)

/-- What the state says of the past: PROPOSED and APPROVED lie before EXECUTING, the states
of `dispatched` after it. -/
structure Inv (r : Remediation) : Prop where
  before : r.state = .proposed ∨ r.state = .approved → r.executed = false
  after : r.state ∈ dispatched → r.executed = true

theorem Inv.init : Inv Remediation.init := ⟨fun _ => rfl, fun h => absurd h (by decide)⟩

theorem before_or_dispatched (h : s ∉ terminal) :
    (s = .proposed ∨ s = .approved) ∨ s ∈ dispatched := by
  revert h
  cases s <;> decide

theorem inFlight_or_end (h : s ∈ dispatched) : s ∈ locked ∨ s ∈ ends := by
  revert h
  cases s <;> decide

theorem edge_before (hedge : s' ∈ allowed s) (h : s' ∉ locked) (hends : s' ∉ ends) :
    s = .proposed ∨ s = .approved := by
  revert hedge h hends
  cases s <;> cases s' <;> decide

theorem edge_dispatched (hedge : s' ∈ allowed s) (h : s' ∈ dispatched) :
    s' = .executing ∨ s ∈ dispatched := by
  revert hedge h
  cases s <;> cases s' <;> decide

section

variable (h : Inv r)
include h

theorem Inv.endsWell (hopen : r.state ∉ terminal) : EndsWell r := by
  intro hexecuted
  cases before_or_dispatched hopen with
  | inl hbefore =>
    rw [h.before hbefore] at hexecuted
    cases hexecuted
  | inr hdispatched => exact inFlight_or_end hdispatched

theorem Inv.enter (haccepted : Accepted T r.state a s') : Inv (r.enter s') := by
  cases haccepted with
  | expiry | recovered =>
    exact ⟨fun hb => absurd hb (by simp), fun ha => absurd ha (by simp [dispatched])⟩
  | edge hrequested hpast hs hedge hlock =>
    constructor
    · intro hb
      rw [Remediation.enter_state] at hb
      have hstart : r.state = .proposed ∨ r.state = .approved := by
        apply edge_before hedge
        · rcases hb with rfl | rfl <;> decide
        · rcases hb with rfl | rfl <;> decide
      rw [Remediation.enter_executed, h.before hstart]
      rcases hb with rfl | rfl <;> rfl
    · intro ha
      rw [Remediation.enter_executed, Bool.or_eq_true, decide_eq_true_iff]
      cases edge_dispatched hedge ha with
      | inl hexecuting => exact .inr hexecuting
      | inr hdispatched => exact .inl (h.after hdispatched)

theorem endsWell_expired (hopen : r.state ∉ terminal) :
    EndsWell (r.enter .expired) ↔ r.state ∉ dispatched := by
  constructor
  · intro hends hdispatched
    have hexecuted := h.after hdispatched
    have hlost := hends (by rw [Remediation.enter_executed, hexecuted, Bool.true_or])
    exact absurd hlost (by simp [locked, ends])
  · intro hnot hexecuted
    have hbefore := (before_or_dispatched hopen).resolve_right hnot
    rw [Remediation.enter_executed, h.before hbefore] at hexecuted
    cases hexecuted

theorem endsWell_edge (hedge : s' ∈ allowed r.state) : EndsWell (r.enter s') := by
  intro hexecuted
  by_contra hlost
  rw [Remediation.enter_state, not_or] at hlost
  have hbefore := edge_before hedge hlost.1 hlost.2
  rw [Remediation.enter_executed, h.before hbefore, Bool.false_or,
    decide_eq_true_iff] at hexecuted
  rw [hexecuted] at hlost
  exact hlost.1 (by decide)

theorem endsWell_step (hstep : step T r a = some r') :
    Inv r' ∧ (EndsWell r' ↔ EndsWell r ∧ InTime T r a) := by
  obtain ⟨s', haccepted, rfl⟩ := step_cases hstep
  refine ⟨h.enter haccepted, ?_⟩
  cases haccepted with
  | expiry hrequested hpast hs =>
    rw [endsWell_expired h hs, and_iff_right (h.endsWell hs)]
    constructor
    · intro hnot hdispatched
      exact absurd hdispatched hnot
    · intro hin hdispatched
      have hnot := hin hdispatched hpast
      rw [asksExpired, hrequested] at hnot
      cases hnot
  | edge hrequested hpast hs hedge hlock =>
    refine iff_of_true (endsWell_edge h hedge) ⟨h.endsWell hs, fun _ hnow => ?_⟩
    rw [hpast] at hnow
    cases hnow
  | recovered hs =>
    exact iff_of_true (fun _ => .inr (by simp [ends])) ⟨fun _ => .inl hs, True.intro⟩

end

/-- **How a remediation ends.**  One that was EXECUTING is in flight or at one of its ends
exactly when no call took it to EXPIRED by the clock. -/
theorem endsWell_iff (T : Texts) (as : List Call) (r : Remediation)
    (hrun : (remediations T).run .init as = some r) :
    EndsWell r ↔ (remediations T).Meets (InTime T) .init as := by
  have hiff := (remediations T).iff_meets Inv EndsWell (InTime T)
    (fun _ _ _ h hstep => endsWell_step h hstep) as .init r Inv.init hrun
  rw [hiff, and_iff_right]
  intro hexecuted
  cases hexecuted

/-! ## The edges of the table -/

/-- The edge is accepted in some run from PROPOSED. -/
def AcceptedInSomeRun (T : Texts) (s s' : RemediationState) : Prop :=
  ∃ as r current requested c, (remediations T).run .init as = some r ∧ r.state = s ∧
    state T requested = .ok s' ∧
    step T r (.transition current requested c) = some (r.enter s')

/-- A call by the owner of the lock, with no expiry time. -/
def byOwner (s s' : RemediationState) : Call :=
  .transition (.member s) (.member s')
    { utcnow := 0, lockOwner := some "worker", activeLockOwner := some "worker" }

theorem step_byOwner (T : Texts) (hopen : r.state ∉ terminal) (hedge : s' ∈ allowed r.state) :
    step T r (byOwner r.state s') = some (r.enter s') := by
  apply step_eq_some.mpr
  refine ⟨_, rfl, rfl, ?_, ?_⟩
  · simp [transition, state, decideTransition, hopen, Circumstances.past, hedge, checkLock,
      noOwner]
  · show r.enter (decideTransition _ r.state s').requested = r.enter s'
    rw [decideTransition_requested]

/-- A run that leads to a state that is not an end. -/
def runTo : RemediationState → List Call
  | .approved => [byOwner .proposed .approved]
  | .executing => [byOwner .proposed .approved, byOwner .approved .executing]
  | .verifying =>
    [byOwner .proposed .approved, byOwner .approved .executing, byOwner .executing .verifying]
  | .failed =>
    [byOwner .proposed .approved, byOwner .approved .executing, byOwner .executing .failed]
  | _ => []

theorem run_runTo (T : Texts) (hopen : s ∉ terminal) :
    ∃ r, (remediations T).run .init (runTo s) = some r ∧ r.state = s := by
  cases s with
  | proposed | approved | executing | verifying | failed => exact ⟨_, rfl, rfl⟩
  | succeeded | rolledBack | inconclusive | expired | cancelled => exact absurd hopen (by decide)

theorem open_iff_of_edge (hedge : s' ∈ allowed s) : s ∉ terminal ↔ s ≠ .inconclusive := by
  revert hedge
  cases s <;> cases s' <;> decide

/-- **The edges of the table.**  An edge is accepted in some run exactly when it does not leave
INCONCLUSIVE, which is an end. -/
theorem table_accepted_iff (T : Texts) (hedge : s' ∈ allowed s) :
    AcceptedInSomeRun T s s' ↔ s ≠ .inconclusive := by
  rw [← open_iff_of_edge hedge]
  constructor
  · rintro ⟨as, r, current, requested, c, hrun, rfl, hrequested, hstep⟩
    obtain ⟨s₁, haccepted, -⟩ := step_cases hstep
    cases haccepted with
    | expiry hrequested hpast hs => exact hs
    | edge hrequested hpast hs hedge hlock => exact hs
  · intro hopen
    obtain ⟨r, hrun, rfl⟩ := run_runTo T hopen
    exact ⟨_, r, _, _, _, hrun, rfl, rfl, step_byOwner T hopen hedge⟩

/-- **The lifecycle.**  In every run from PROPOSED the states in flight are entered by the owner
of the active lock, and a remediation that was EXECUTING ends well exactly when no call takes a
dispatched one to EXPIRED; the edges of the table are accepted in some run but for the one that
leaves INCONCLUSIVE. -/
theorem lifecycle_iff (T : Texts) :
    (∀ as r, (remediations T).run .init as = some r →
      (remediations T).Always EntersOwned .init as ∧
        (EndsWell r ↔ (remediations T).Meets (InTime T) .init as)) ∧
    ∀ s s', s' ∈ allowed s → (AcceptedInSomeRun T s s' ↔ s ≠ .inconclusive) :=
  ⟨fun as r hrun => ⟨entersOwned_always T as .init, endsWell_iff T as r hrun⟩,
    fun _ _ hedge => table_accepted_iff T hedge⟩

/-- Texts taken as they stand. -/
def plain : Texts := ⟨id, id⟩

/-- A run to SUCCEEDED, the expiry time still ahead at each call. -/
def toSucceeded : List Call :=
  runTo .verifying ++ [.transition (.text "VERIFYING") (.text "SUCCEEDED")
    { utcnow := 5, expiresAt := some 9 }]

theorem lifecycle_iff_succeeded :
    EndsWell ⟨.succeeded, true⟩ ∧ AcceptedInSomeRun plain .failed .rolledBack :=
  ⟨(((lifecycle_iff plain).1 toSucceeded ⟨.succeeded, true⟩ (by decide)).2).mpr
      (by decide),
    ((lifecycle_iff plain).2 .failed .rolledBack (by decide)).mpr (by decide)⟩

/-- A dispatched command that is recorded as expired. -/
def toExpired : List Call :=
  runTo .executing ++ [.transition (.text "EXECUTING") (.text "EXPIRED")
    { utcnow := 9, expiresAt := some 9 }]

/-- The command was dispatched and the remediation is recorded as EXPIRED; and the edge from
INCONCLUSIVE to ROLLED_BACK is in the table and accepted in no run. -/
theorem dispatched_expires :
    ((remediations plain).run .init toExpired = some ⟨.expired, true⟩ ∧
      ¬EndsWell ⟨.expired, true⟩) ∧
    .rolledBack ∈ allowed .inconclusive ∧
      ¬AcceptedInSomeRun plain .inconclusive .rolledBack := by
  refine ⟨⟨by decide, fun h => absurd (h rfl) (by decide)⟩, by decide, ?_⟩
  rintro ⟨as, r, current, requested, c, hrun, hs, hrequested, hstep⟩
  obtain ⟨s', haccepted, -⟩ := step_cases hstep
  rw [hs] at haccepted
  cases haccepted with
  | expiry hrequested hpast hopen => exact hopen (by decide)
  | edge hrequested hpast hopen hedge hlock => exact hopen (by decide)

end CephAi.Ports.RemediationLifecycle
