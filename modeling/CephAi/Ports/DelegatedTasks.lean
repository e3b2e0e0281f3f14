import CephAi.Verified.Runs
import Mathlib.Tactic.SplitIfs

/-!
# Delegated tasks and their executions

A request that the operator delegates is a task row with subtask rows.  A worker
that receives its message claims the task and runs an execution: it makes the
subtasks, runs a sub-agent for each, tries the failed ones once more, and lets a
last provider call put the reports together.  Rows are changed by conditional
UPDATEs only, and `Option Db` is what such an UPDATE returns: the database after
it, or `none` when no row matched.

An execution is where its coroutine stands (`Phase`) and where those of its
sub-agents stand.  Several executions of one task can be there at once: a claim
whose lease is over can be claimed again while the first coroutine still runs.
A run of the system is any order of their steps, of claims, crashes, watchdog
passes and operator requests; a statement is one step.

Executions are numbered in the order of their claims, so the latest claim is the
last of the list.
-/

namespace CephAi.Ports.DelegatedTasks

open Verified.Runs

/-- `WORKER_INSTANCE_ID`: one for each worker process. -/
abbrev Worker := String

inductive TaskStatus
  | queued
  | planning
  | running
  | aggregating
  | completed
  | failed
  | cancelled
deriving DecidableEq, Repr

inductive SubtaskStatus
  | queued
  | running
  | completed
  | failed
  | cancelled
deriving DecidableEq, Repr

/-- The row of `DelegatedAITask`, as far as a statement reads it. -/
structure Task where
  status : TaskStatus := .queued
  providerCallCount : Nat := 0
  executionOwner : Option Worker := none
  leaseUntil : Option Nat := none
  dispatchClaimedAt : Option Nat := none
deriving DecidableEq, Repr

/-- A row of `DelegatedAISubtask`. -/
structure Subtask where
  status : SubtaskStatus := .queued
  executionOwner : Option Worker := none
  leaseUntil : Option Nat := none
  attempt : Nat := 0
deriving DecidableEq, Repr

/-- The task and its subtasks in the order they were made. -/
structure Db where
  task : Task
  subtasks : List Subtask
deriving DecidableEq, Repr

/-- The settings, and how many subtasks `build_plan` makes of the prompt. -/
structure Config where
  maxProviderCalls : Nat
  taskTimeout : Nat
  planned : Nat
  limit_pos : 1 ≤ maxProviderCalls
  planned_pos : 1 ≤ planned

theorem calls_pos : 1 ≤ 25 := by decide

theorem subtasks_pos : 1 ≤ 2 := by decide

def maxSubtaskAttempts : Nat := 2
def subtaskLeaseSeconds : Nat := 1800
def dispatchRetrySeconds : Nat := 60

def Config.taskLeaseSeconds (cfg : Config) : Nat := max 30 (min 300 (cfg.taskTimeout / 3))

/-- `("PLANNING", "RUNNING", "AGGREGATING")` -/
def TaskStatus.active : TaskStatus → Bool
  | .planning | .running | .aggregating => true
  | _ => false

/-- `lease_until IS NULL OR lease_until < now` -/
def lapsed (lease : Option Nat) (now : Nat) : Bool :=
  match lease with
  | none => true
  | some t => decide (t < now)

/-- `lease_until > now` -/
def ahead (lease : Option Nat) (now : Nat) : Bool :=
  match lease with
  | none => false
  | some t => decide (now < t)

/-! ## Statements -/

def claimTask (cfg : Config) (now : Nat) (worker : Worker) (db : Db) : Option Db :=
  if db.task.status = .queued ∨ db.task.status.active ∧ lapsed db.task.leaseUntil now then
    some { db with task := { db.task with
      status := .planning
      executionOwner := some worker
      leaseUntil := some (now + cfg.taskLeaseSeconds)
      dispatchClaimedAt := none } }
  else none

/-- `_set_task_owned`; `expected` is the set of statuses of `expected_status`, all of them when
it is not given. -/
def setTaskOwned (owner : Worker) (expected : TaskStatus → Bool) (values : Task → Task)
    (db : Db) : Option Db :=
  if db.task.executionOwner = some owner ∧ expected db.task.status then
    some { db with task := values db.task }
  else none

/-- The statement of `_ProviderCallBudget._reserve`. -/
def reserveCall (cfg : Config) (owner : Worker) (keepSlots : Nat) (db : Db) : Option Db :=
  if db.task.executionOwner = some owner ∧ db.task.status.active ∧
      db.task.providerCallCount < max 1 cfg.maxProviderCalls - keepSlots then
    some { db with task := { db.task with
      providerCallCount := db.task.providerCallCount + 1 } }
  else none

def makeSubtasks (cfg : Config) (db : Db) : Option Db :=
  if db.task.status ≠ .cancelled ∧ db.subtasks = [] then
    some { db with subtasks := List.replicate cfg.planned {} }
  else none

/-- The row can be claimed: its attempts are not used up, and nobody runs it. -/
def Subtask.claimable (now : Nat) (s : Subtask) : Bool :=
  decide (s.attempt < maxSubtaskAttempts) &&
    match s.status with
    | .queued | .failed => true
    | .running => lapsed s.leaseUntil now
    | _ => false

def claimSubtask (now : Nat) (owner : Worker) (i : Nat) (db : Db) : Option Db :=
  match db.subtasks[i]? with
  | none => none
  | some s =>
    if db.task.executionOwner = some owner ∧ db.task.status.active ∧
        ahead db.task.leaseUntil now ∧ s.claimable now then
      some { db with subtasks := db.subtasks.set i { s with
        status := .running
        executionOwner := some owner
        leaseUntil := some (now + subtaskLeaseSeconds)
        attempt := s.attempt + 1 } }
    else none

/-- `_set_subtask_owned`, which asks that the parent is active and not who owns it. -/
def setSubtaskOwned (owner : Worker) (i : Nat) (status : SubtaskStatus) (db : Db) :
    Option Db :=
  match db.subtasks[i]? with
  | none => none
  | some s =>
    if s.executionOwner = some owner ∧ db.task.status.active then
      some { db with subtasks := db.subtasks.set i { s with status, leaseUntil := none } }
    else none

/-- What a dispatch of a task with a lost lease makes of a subtask. -/
def Subtask.recovered (s : Subtask) : Subtask :=
  if s.status = .completed ∨ s.status = .cancelled then s
  else if maxSubtaskAttempts ≤ s.attempt then
    { s with status := .failed, executionOwner := none, leaseUntil := none }
  else { s with status := .queued, executionOwner := none, leaseUntil := none }

def claimForDispatch (now : Nat) (db : Db) : Option Db :=
  let window : Bool := match db.task.dispatchClaimedAt with
    | none => true
    | some t => decide (t + dispatchRetrySeconds < now)
  if window ∧ db.task.status = .queued then
    some { db with task := { db.task with dispatchClaimedAt := some now } }
  else if window ∧ db.task.status.active ∧ lapsed db.task.leaseUntil now then
    some ⟨{ db.task with
        status := .queued, executionOwner := none, leaseUntil := none
        dispatchClaimedAt := some now },
      db.subtasks.map Subtask.recovered⟩
  else none

/-- What the cancellation of a task makes of a subtask. -/
def Subtask.cancelled (s : Subtask) : Subtask :=
  if s.status = .completed ∨ s.status = .failed ∨ s.status = .cancelled then s
  else { s with status := .cancelled, leaseUntil := none }

/-- `cancel_delegated_task`, and the first transaction of the deletion of a chat. -/
def cancelTask (db : Db) : Option Db :=
  if db.task.status = .queued ∨ db.task.status.active then
    some ⟨{ db.task with status := .cancelled, leaseUntil := none },
      db.subtasks.map Subtask.cancelled⟩
  else none

/-- The submission that could not publish the task's message records it as FAILED, whatever
became of the task. -/
def submissionFailed (db : Db) : Option Db :=
  some { db with task := { db.task with status := .failed } }

def taskIsCancelled (owner : Worker) (db : Db) : Bool :=
  db.task.executionOwner = some owner ∧ db.task.status = .cancelled

/-! ## Executions -/

/-- Where the coroutine of a sub-agent stands. -/
inductive AgentPhase
  /-- before `_claim_subtask` -/
  | ready
  /-- in `run_chat_turn`, with no call granted -/
  | turn
  /-- a provider call is granted and not made -/
  | granted
  /-- the budget refused a call; the exception is on its way -/
  | refused
  | done
deriving DecidableEq, Repr

/-- A sub-agent works on the subtask of this position. -/
structure Agent where
  subtask : Nat
  phase : AgentPhase
deriving DecidableEq, Repr

/-- Where `execute_task` stands. -/
inductive Phase
  /-- claimed, before `_make_subtasks` -/
  | planning
  /-- the subtasks are made, before the row says RUNNING -/
  | planned (ids : List Nat)
  /-- in the `gather` of this round -/
  | round (k : Nat)
  /-- after the rounds, before the rows are read -/
  | gathered
  /-- a subtask is completed, before the row says AGGREGATING -/
  | collected
  /-- in `_aggregate`, with no call granted -/
  | aggregating
  /-- the call of `_aggregate` is granted and not made -/
  | granted
  /-- the exception of the work is caught -/
  | raised
  /-- the task was found not cancelled -/
  | checked
  | ended
deriving DecidableEq, Repr

/-- An execution of the task, claimed by the process `owner`. -/
structure Execution where
  owner : Worker
  phase : Phase := .planning
  agents : List Agent := []
deriving DecidableEq, Repr

/-- What an execution can do next. -/
inductive Act
  /-- a renewal of the lease -/
  | renew
  | makeSubtasks
  | start
  /-- the `gather` of the round returns -/
  | gathered
  /-- the rows are read; the cluster may be gone -/
  | collect (clusterGone : Bool)
  | aggregate
  | reserveAggregate
  | callAggregate
  | complete
  /-- an exception of the work, a timeout included -/
  | raise
  /-- the failure path asks whether the task was cancelled -/
  | check
  /-- the failure path records FAILED -/
  | fail
  /-- the work is given up: by the watch for a cancellation, or with the worker -/
  | stop
  | claimSubtask (k : Nat) (clusterGone : Bool)
  | reserve (k : Nat)
  | call (k : Nat)
  | finish (k : Nat)
  | failSubtask (k : Nat)
  /-- a sub-agent ends and writes nothing -/
  | drop (k : Nat)
deriving DecidableEq, Repr

/-- The subtask that the agent `k` works on. -/
def Execution.subtaskOf (x : Execution) (k : Nat) : Nat :=
  match x.agents[k]? with
  | none => 0
  | some a => a.subtask

/-- The statement of an act; `none` also for an act without one. -/
def Execution.statement (cfg : Config) (now : Nat) (x : Execution) (db : Db) :
    Act → Option Db
  | .renew => setTaskOwned x.owner TaskStatus.active
      (fun t => { t with leaseUntil := some (now + cfg.taskLeaseSeconds) }) db
  | .makeSubtasks => DelegatedTasks.makeSubtasks cfg db
  | .start => setTaskOwned x.owner (· == .planning) (fun t => { t with status := .running }) db
  | .aggregate =>
    setTaskOwned x.owner (· == .running) (fun t => { t with status := .aggregating }) db
  | .reserveAggregate => reserveCall cfg x.owner 0 db
  | .complete => setTaskOwned x.owner (· == .aggregating)
      (fun t => { t with status := .completed, leaseUntil := none }) db
  | .fail => setTaskOwned x.owner (fun _ => true)
      (fun t => { t with status := .failed, leaseUntil := none }) db
  | .claimSubtask k clusterGone =>
    if clusterGone then none else DelegatedTasks.claimSubtask now x.owner (x.subtaskOf k) db
  | .reserve _ => reserveCall cfg x.owner 1 db
  | .finish k => setSubtaskOwned x.owner (x.subtaskOf k) .completed db
  | .failSubtask k => setSubtaskOwned x.owner (x.subtaskOf k) .failed db
  | _ => none

/-- The positions of the subtasks that have an attempt left. -/
def pending (db : Db) : List Nat :=
  (List.range db.subtasks.length).filter fun i =>
    match db.subtasks[i]? with
    | none => false
    | some s => (s.status == .queued || s.status == .failed) &&
        decide (s.attempt < maxSubtaskAttempts)

/-- The ids that `_make_subtasks` returns. -/
def madeIds (db : Db) : List Nat :=
  if db.task.status = .cancelled then [] else List.range db.subtasks.length

def newAgents (ids : List Nat) : List Agent := ids.map fun i => ⟨i, .ready⟩

def Execution.to (x : Execution) (phase : Phase) : Execution := { x with phase }

/-- A round starts; agents of an earlier one are done. -/
def Execution.startRound (x : Execution) (k : Nat) (ids : List Nat) : Execution :=
  { x with phase := .round k, agents := newAgents ids }

/-- The step of a sub-agent from one of these phases. -/
def Execution.moveAgent (x : Execution) (k : Nat) (from_ : List AgentPhase)
    (to_ : AgentPhase) : Option Execution :=
  match x.agents[k]? with
  | none => none
  | some a =>
    if a.phase ∈ from_ then some { x with agents := x.agents.set k { a with phase := to_ } }
    else none

/-- The supervisor is at work: the exceptions of these phases are those of `work_task`. -/
def Phase.working : Phase → Bool
  | .raised | .checked | .ended => false
  | _ => true

/-- Where the execution stands after an act; `db` is the database after its statement and
`matched` whether that changed a row.  `none`: the coroutine does not come to this act here. -/
def Execution.after (x : Execution) (db : Db) (matched : Bool) : Act → Option Execution
  | .renew => if x.phase = .ended then none else some x
  | .makeSubtasks => if x.phase = .planning then some (x.to (.planned (madeIds db))) else none
  | .start =>
    match x.phase with
    | .planned ids =>
      if !matched then some (x.to .ended)
      else if ids = [] then some (x.to .gathered)
      else some (x.startRound 0 ids)
    | _ => none
  | .gathered =>
    match x.phase with
    | .round k =>
      if x.agents.all (·.phase == .done) then
        if pending db ≠ [] ∧ k + 1 < maxSubtaskAttempts then
          some (x.startRound (k + 1) (pending db))
        else some (x.to .gathered)
      else none
    | _ => none
  | .collect clusterGone =>
    if x.phase = .gathered then
      if clusterGone then some (x.to .ended)
      else if db.subtasks.any (·.status == .completed) then some (x.to .collected)
      else some (x.to .raised)
    else none
  | .aggregate =>
    if x.phase = .collected then some (x.to (if matched then .aggregating else .ended))
    else none
  | .reserveAggregate =>
    if x.phase = .aggregating then some (x.to (if matched then .granted else .raised))
    else none
  | .callAggregate => if x.phase = .granted then some (x.to .aggregating) else none
  | .complete => if x.phase = .aggregating then some (x.to .ended) else none
  | .raise => if x.phase.working then some (x.to .raised) else none
  | .check =>
    if x.phase = .raised then
      some (x.to (if taskIsCancelled x.owner db then .ended else .checked))
    else none
  | .fail => if x.phase = .checked then some (x.to .ended) else none
  | .stop => some (x.to .ended)
  | .claimSubtask k _ => x.moveAgent k [.ready] (if matched then .turn else .done)
  | .reserve k => x.moveAgent k [.turn] (if matched then .granted else .refused)
  | .call k => x.moveAgent k [.granted] .turn
  | .finish k => x.moveAgent k [.turn] .done
  | .failSubtask k => x.moveAgent k [.turn, .granted, .refused] .done
  | .drop k => x.moveAgent k [.ready, .turn, .granted, .refused] .done

/-! ## The system -/

/-- The database, the executions in the order of their claims, and what was done so far: the
provider calls, the subtasks that were started, the grants an aggregation asked for. -/
structure World where
  now : Nat := 0
  db : Db
  executions : List Execution := []
  calls : Nat := 0
  started : List Nat := []
  aggregations : Nat := 0
deriving DecidableEq, Repr

/-- A task that was just submitted. -/
def World.init : World := { db := ⟨{}, []⟩ }

inductive Label
  /-- the clock goes on -/
  | tick (seconds : Nat)
  /-- a message of the task reaches a worker, which claims it -/
  | claim (worker : Worker)
  | act (e : Nat) (a : Act)
  /-- a pass of the watchdog -/
  | dispatch
  /-- the operator cancels the task -/
  | cancel
  | submissionFailed
  /-- the process is gone with its coroutines -/
  | crash (worker : Worker)
deriving DecidableEq, Repr

def Execution.killed (worker : Worker) (x : Execution) : Execution :=
  if x.owner = worker then { x with phase := .ended, agents := [] } else x

/-- The provider calls that an act makes. -/
def Act.calls : Act → Nat
  | .call _ | .callAggregate => 1
  | _ => 0

def Act.starts (x : Execution) (matched : Bool) : Act → List Nat
  | .claimSubtask k _ => if matched then [x.subtaskOf k] else []
  | _ => []

/-- The grants that an act asks for an aggregation. -/
def Act.aggregations : Act → Nat
  | .reserveAggregate => 1
  | _ => 0

def World.perform (cfg : Config) (w : World) (e : Nat) (x : Execution) (a : Act) :
    Option World :=
  let result := x.statement cfg w.now w.db a
  match x.after (result.getD w.db) result.isSome a with
  | none => none
  | some x' => some { w with
      db := result.getD w.db
      executions := w.executions.set e x'
      calls := w.calls + a.calls
      started := w.started ++ a.starts x result.isSome
      aggregations := w.aggregations + a.aggregations }

def step (cfg : Config) (w : World) : Label → Option World
  | .tick seconds => some { w with now := w.now + seconds }
  | .claim worker =>
    match claimTask cfg w.now worker w.db with
    | none => some w
    | some db => some { w with db, executions := w.executions ++ [{ owner := worker }] }
  | .act e a =>
    match w.executions[e]? with
    | none => none
    | some x => w.perform cfg e x a
  | .dispatch => some { w with db := (claimForDispatch w.now w.db).getD w.db }
  | .cancel => some { w with db := (cancelTask w.db).getD w.db }
  | .submissionFailed =>
    some { w with db := (DelegatedTasks.submissionFailed w.db).getD w.db }
  | .crash worker => some { w with executions := w.executions.map (·.killed worker) }

def delegations (cfg : Config) : System World Label := ⟨step cfg⟩

/-! ## What an act does to an execution -/

/-- An act leads the supervisor from a phase to another one. -/
inductive Leads (matched : Bool) : Act → Phase → Phase → Prop
  | makeSubtasks (ids : List Nat) : Leads matched .makeSubtasks .planning (.planned ids)
  | start (ids : List Nat) {phase : Phase} (h : phase = .ended ∨ phase = .gathered) :
      Leads matched .start (.planned ids) phase
  | gathered (k : Nat) : Leads matched .gathered (.round k) .gathered
  | collect (clusterGone : Bool) {phase : Phase}
      (h : phase = .ended ∨ phase = .collected ∨ phase = .raised) :
      Leads matched (.collect clusterGone) .gathered phase
  | aggregate : Leads matched .aggregate .collected (if matched then .aggregating else .ended)
  | reserveAggregate :
      Leads matched .reserveAggregate .aggregating (if matched then .granted else .raised)
  | callAggregate : Leads matched .callAggregate .granted .aggregating
  | complete : Leads matched .complete .aggregating .ended
  | raise {phase : Phase} (h : phase.working = true) : Leads matched .raise phase .raised
  | check {phase : Phase} (h : phase = .ended ∨ phase = .checked) :
      Leads matched .check .raised phase
  | fail : Leads matched .fail .checked .ended
  | stop (phase : Phase) : Leads matched .stop phase .ended

/-- An act moves a sub-agent from one of these phases. -/
inductive Moves (matched : Bool) : Act → Nat → List AgentPhase → AgentPhase → Prop
  | claimSubtask (k : Nat) (clusterGone : Bool) :
      Moves matched (.claimSubtask k clusterGone) k [.ready] (if matched then .turn else .done)
  | reserve (k : Nat) :
      Moves matched (.reserve k) k [.turn] (if matched then .granted else .refused)
  | call (k : Nat) : Moves matched (.call k) k [.granted] .turn
  | finish (k : Nat) : Moves matched (.finish k) k [.turn] .done
  | failSubtask (k : Nat) :
      Moves matched (.failSubtask k) k [.turn, .granted, .refused] .done
  | drop (k : Nat) : Moves matched (.drop k) k [.ready, .turn, .granted, .refused] .done

/-- Everything an act can do. -/
inductive After (x : Execution) (matched : Bool) : Act → Execution → Prop
  | stays (h : x.phase ≠ .ended) : After x matched .renew x
  | leads {a : Act} {phase : Phase} (h : Leads matched a x.phase phase) :
      After x matched a (x.to phase)
  | round {a : Act} (k : Nat) (ids : List Nat) (ha : a = .start ∨ a = .gathered)
      (h : x.phase ≠ .ended) : After x matched a (x.startRound k ids)
  | moves {a : Act} {x' : Execution} {k : Nat} {from_ : List AgentPhase} {to_ : AgentPhase}
      (h : Moves matched a k from_ to_) (hx' : x.moveAgent k from_ to_ = some x') :
      After x matched a x'

theorem after_cases {x x' : Execution} {db : Db} {matched : Bool} {a : Act}
    (h : x.after db matched a = some x') : After x matched a x' := by
  cases a with
  | renew =>
    simp only [Execution.after] at h
    split_ifs at h with hphase
    cases h
    exact .stays hphase
  | makeSubtasks =>
    simp only [Execution.after] at h
    split_ifs at h with hphase
    cases h
    exact .leads (hphase ▸ .makeSubtasks _)
  | start =>
    simp only [Execution.after] at h
    split at h
    · rename_i ids hphase
      split_ifs at h
      · cases h
        exact .leads (hphase ▸ .start ids (.inl rfl))
      · cases h
        exact .leads (hphase ▸ .start ids (.inr rfl))
      · cases h
        exact .round 0 ids (.inl rfl) (by simp [hphase])
    · cases h
  | gathered =>
    simp only [Execution.after] at h
    split at h
    · rename_i k hphase
      split_ifs at h
      · cases h
        exact .round _ _ (.inr rfl) (by simp [hphase])
      · cases h
        exact .leads (hphase ▸ .gathered k)
    · cases h
  | collect clusterGone =>
    simp only [Execution.after] at h
    split_ifs at h with hphase
    · cases h
      exact .leads (hphase ▸ .collect _ (.inl rfl))
    · cases h
      exact .leads (hphase ▸ .collect _ (.inr (.inl rfl)))
    · cases h
      exact .leads (hphase ▸ .collect _ (.inr (.inr rfl)))
  | aggregate =>
    simp only [Execution.after] at h
    split at h
    · rename_i hphase
      cases h
      exact .leads (hphase ▸ .aggregate)
    · cases h
  | reserveAggregate =>
    simp only [Execution.after] at h
    split at h
    · rename_i hphase
      cases h
      exact .leads (hphase ▸ .reserveAggregate)
    · cases h
  | callAggregate =>
    simp only [Execution.after] at h
    split_ifs at h with hphase
    cases h
    exact .leads (hphase ▸ .callAggregate)
  | complete =>
    simp only [Execution.after] at h
    split_ifs at h with hphase
    cases h
    exact .leads (hphase ▸ .complete)
  | raise =>
    simp only [Execution.after] at h
    split_ifs at h with hphase
    cases h
    exact .leads (.raise hphase)
  | check =>
    simp only [Execution.after] at h
    split_ifs at h with hphase
    · cases h
      exact .leads (hphase ▸ .check (.inl rfl))
    · cases h
      exact .leads (hphase ▸ .check (.inr rfl))
  | fail =>
    simp only [Execution.after] at h
    split_ifs at h with hphase
    cases h
    exact .leads (hphase ▸ .fail)
  | stop =>
    cases h
    exact .leads (.stop _)
  | claimSubtask k clusterGone => exact .moves (.claimSubtask k clusterGone) h
  | reserve k => exact .moves (.reserve k) h
  | call k => exact .moves (.call k) h
  | finish k => exact .moves (.finish k) h
  | failSubtask k => exact .moves (.failSubtask k) h
  | drop k => exact .moves (.drop k) h

end CephAi.Ports.DelegatedTasks
