import CephAi.Ports.DelegatedTasks
import CephAi.Verified.Grants
import Mathlib.Tactic.SplitIfs

/-!
# The budget of a delegated task

The provider calls of a task are counted in its row.  A call is granted by a
conditional increment of the count, which asks sub-agents to leave one slot; a
subtask is started by an increment of its attempts.  Neither number is ever set
back, by a claim, a dispatch or a cancellation, so they bound the calls and the
starts of all executions of the task together.

## Main results

* `inv_run` — the invariant of a run: grants, attempts and the slot that is left.
* `budget_kept` — calls, starts, and the slot for the first aggregation.
-/

namespace CephAi.Ports.DelegatedBudget

open Verified.Runs
open Verified.Grants
open DelegatedTasks

/-! ## What an act takes, uses and leaves held -/

def AgentPhase.held : AgentPhase → Nat
  | .granted => 1
  | _ => 0

def Phase.held : Phase → Nat
  | .granted => 1
  | _ => 0

/-- The grants that the sub-agents of an execution hold. -/
def agentsHeld (agents : List Agent) : Nat := total (fun a => AgentPhase.held a.phase) agents

/-- The grants that an execution holds. -/
def Execution.held (x : Execution) : Nat := Phase.held x.phase + agentsHeld x.agents

def Act.takes (matched : Bool) : Act → Nat
  | .reserve _ | .reserveAggregate => matched.toNat
  | _ => 0

theorem agentsHeld_new (ids : List Nat) : agentsHeld (newAgents ids) = 0 := by
  apply total_eq_zero
  intro a ha
  obtain ⟨i, -, rfl⟩ := List.mem_map.mp ha
  rfl

theorem held_to (x : Execution) (phase : Phase) :
    Execution.held (x.to phase) = Phase.held phase + agentsHeld x.agents := rfl

theorem held_startRound (x : Execution) (k : Nat) (ids : List Nat) :
    Execution.held (x.startRound k ids) = 0 := by
  show 0 + agentsHeld (newAgents ids) = 0
  rw [agentsHeld_new]

variable {a : Act} {cfg : Config} {db db' : Db} {matched : Bool} {w w' : World} {x : Execution}

theorem moveAgent_held {x' : Execution} {k : Nat} {from_ : List AgentPhase} {to_ : AgentPhase}
    (h : x.moveAgent k from_ to_ = some x') :
    ∃ p ∈ from_, Execution.held x' + AgentPhase.held p =
      Execution.held x + AgentPhase.held to_ := by
  unfold Execution.moveAgent at h
  split at h
  · cases h
  · rename_i a ha
    split at h
    · rename_i hfrom
      cases h
      refine ⟨a.phase, hfrom, ?_⟩
      have hset := total_set (fun a => AgentPhase.held a.phase) { a with phase := to_ } ha
      dsimp only at hset
      simp only [Execution.held, agentsHeld]
      omega
    · cases h

theorem leads_held {phase phase' : Phase} (h : Leads matched a phase phase') :
    a.calls + Phase.held phase' ≤ Phase.held phase + Act.takes matched a := by
  cases h with
  | start ids hto => rcases hto with rfl | rfl <;> exact Nat.zero_le _
  | collect clusterGone hto => rcases hto with rfl | rfl | rfl <;> exact Nat.zero_le _
  | check hto => rcases hto with rfl | rfl <;> exact Nat.zero_le _
  | aggregate | reserveAggregate => cases matched <;> decide
  | callAggregate => exact Nat.le_refl 1
  | makeSubtasks | gathered | complete | raise | fail | stop => exact Nat.zero_le _

theorem moves_held {k : Nat} {from_ : List AgentPhase} {to_ : AgentPhase}
    (h : Moves matched a k from_ to_) :
    ∀ p ∈ from_, a.calls + AgentPhase.held to_ ≤ AgentPhase.held p + Act.takes matched a := by
  intro p hp
  cases h with
  | claimSubtask k clusterGone => cases matched <;> exact Nat.zero_le _
  | reserve k =>
    rw [List.mem_singleton.mp hp]
    cases matched with
    | true => exact Nat.le_refl 1
    | false => exact Nat.le_refl 0
  | call k =>
    rw [List.mem_singleton.mp hp]
    exact Nat.le_refl 1
  | finish | failSubtask | drop => exact Nat.zero_le _

theorem after_held {x' : Execution} (h : x.after db matched a = some x') :
    a.calls + Execution.held x' ≤ Execution.held x + Act.takes matched a := by
  cases after_cases h with
  | stays => exact Nat.le_of_eq (Nat.zero_add _)
  | leads hleads =>
    have hheld := leads_held hleads
    rw [held_to]
    simp only [Execution.held]
    omega
  | round k ids ha =>
    have hcalls : a.calls = 0 := by
      rcases ha with rfl | rfl <;> rfl
    rw [held_startRound, hcalls]
    omega
  | moves hmoves hmove =>
    obtain ⟨p, hp, hmoved⟩ := moveAgent_held hmove
    have hheld := moves_held hmoves p hp
    omega

theorem killed_held (worker : Worker) (x : Execution) :
    Execution.held (x.killed worker) ≤ Execution.held x := by
  unfold Execution.killed
  split
  · exact Nat.zero_le _
  · exact Nat.le_refl _

/-! ## What a statement leaves of the counts -/

/-- The attempts of the subtask at this position; none where there is no subtask. -/
def attempts (db : Db) (i : Nat) : Nat :=
  match db.subtasks[i]? with
  | none => 0
  | some s => s.attempt

/-- The statement leaves the count of the calls and the attempts as they are. -/
def Counts (db db' : Db) : Prop :=
  db'.task.providerCallCount = db.task.providerCallCount ∧
    ∀ i, attempts db' i = attempts db i

theorem Counts.rfl (db : Db) : Counts db db := ⟨Eq.refl _, fun _ => Eq.refl _⟩

theorem Counts.getD {o : Option Db} (h : ∀ db', o = some db' → Counts db db') :
    Counts db (o.getD db) := by
  cases o with
  | none => exact Counts.rfl db
  | some db' => exact h db' (Eq.refl _)

theorem attempts_map {f : Subtask → Subtask} (h : ∀ s, (f s).attempt = s.attempt) (task : Task)
    (db : Db) (i : Nat) : attempts ⟨task, db.subtasks.map f⟩ i = attempts db i := by
  unfold attempts
  rw [List.getElem?_map]
  cases db.subtasks[i]? with
  | none => rfl
  | some s => exact h s

theorem attempts_set {j : Nat} {s s' : Subtask} (hs : db.subtasks[j]? = some s) (task : Task)
    (i : Nat) : attempts ⟨task, db.subtasks.set j s'⟩ i =
      if j = i then s'.attempt else attempts db i := by
  unfold attempts
  dsimp only
  rw [List.getElem?_set]
  by_cases hj : j = i
  · subst hj
    rw [if_pos rfl, if_pos rfl, if_pos (List.getElem?_eq_some_iff.mp hs).1]
  · rw [if_neg hj, if_neg hj]

theorem counts_claimTask (cfg : Config) (now : Nat) (worker : Worker) (db : Db) :
    Counts db ((claimTask cfg now worker db).getD db) := by
  unfold claimTask
  split
  · exact ⟨rfl, fun _ => rfl⟩
  · exact Counts.rfl db

theorem counts_setTaskOwned (owner : Worker) (expected : TaskStatus → Bool)
    {values : Task → Task} (hvalues : ∀ t, (values t).providerCallCount = t.providerCallCount)
    (db : Db) : Counts db ((setTaskOwned owner expected values db).getD db) := by
  unfold setTaskOwned
  split
  · exact ⟨hvalues db.task, fun _ => rfl⟩
  · exact Counts.rfl db

theorem counts_makeSubtasks (cfg : Config) (db : Db) :
    Counts db ((makeSubtasks cfg db).getD db) := by
  unfold makeSubtasks
  split
  · rename_i h
    refine ⟨rfl, fun i => ?_⟩
    simp only [attempts, Option.getD_some, h.2, List.getElem?_nil, List.getElem?_replicate]
    split
    · rename_i heq
      rfl
    · rename_i s heq
      split_ifs at heq
      cases heq
      rfl
  · exact Counts.rfl db

theorem counts_setSubtaskOwned (owner : Worker) (j : Nat) (status : SubtaskStatus) (db : Db) :
    Counts db ((setSubtaskOwned owner j status db).getD db) := by
  unfold setSubtaskOwned
  split
  · exact Counts.rfl db
  · rename_i s hs
    split
    · refine ⟨rfl, fun i => ?_⟩
      rw [Option.getD_some, attempts_set hs]
      split
      · rename_i hj
        subst hj
        simp only [attempts, hs]
      · rfl
    · exact Counts.rfl db

theorem recovered_attempt (s : Subtask) : s.recovered.attempt = s.attempt := by
  unfold Subtask.recovered
  split_ifs <;> rfl

theorem cancelled_attempt (s : Subtask) : s.cancelled.attempt = s.attempt := by
  unfold Subtask.cancelled
  split_ifs <;> rfl

theorem counts_claimForDispatch (now : Nat) (db : Db) :
    Counts db ((claimForDispatch now db).getD db) := by
  apply Counts.getD
  intro db' hdb'
  simp only [claimForDispatch] at hdb'
  split_ifs at hdb'
  · cases hdb'
    exact Counts.rfl db
  · cases hdb'
    exact ⟨rfl, attempts_map recovered_attempt _ db⟩

theorem counts_cancelTask (db : Db) : Counts db ((cancelTask db).getD db) := by
  unfold cancelTask
  split
  · exact ⟨rfl, attempts_map cancelled_attempt _ db⟩
  · exact Counts.rfl db

theorem reserveCall_eq_some {owner : Worker} {keepSlots : Nat}
    (h : reserveCall cfg owner keepSlots db = some db') :
    db.task.providerCallCount + 1 + keepSlots ≤ cfg.maxProviderCalls ∧
      db'.task.providerCallCount = db.task.providerCallCount + 1 ∧
      db'.subtasks = db.subtasks := by
  unfold reserveCall at h
  split at h
  · rename_i hguard
    cases h
    have hlimit := hguard.2.2
    rw [Nat.max_eq_right cfg.limit_pos] at hlimit
    exact ⟨by omega, rfl, rfl⟩
  · cases h

theorem claimSubtask_eq_some {now : Nat} {owner : Worker} {j : Nat}
    (h : claimSubtask now owner j db = some db') :
    db'.task = db.task ∧ attempts db j < maxSubtaskAttempts ∧
      ∀ i, attempts db' i = if j = i then attempts db j + 1 else attempts db i := by
  unfold claimSubtask at h
  split at h
  · cases h
  · rename_i s hs
    have hattempts : attempts db j = s.attempt := by
      unfold attempts
      rw [hs]
    split at h
    · rename_i hguard
      cases h
      refine ⟨rfl, ?_, fun i => ?_⟩
      · have hclaimable := hguard.2.2.2
        unfold Subtask.claimable at hclaimable
        rw [Bool.and_eq_true, decide_eq_true_iff] at hclaimable
        rw [hattempts]
        exact hclaimable.1
      · rw [attempts_set hs, hattempts]
    · cases h

/-- What the statement of an act does to the count of the calls and to the attempts: a grant
counts, a start uses an attempt, and nothing else changes them. -/
structure Counted (cfg : Config) (x : Execution) (db db' : Db) (matched : Bool) (a : Act) :
    Prop where
  count : db'.task.providerCallCount = db.task.providerCallCount + Act.takes matched a
  bounded : 0 < Act.takes matched a → db'.task.providerCallCount ≤ cfg.maxProviderCalls
  slot : 0 < Act.takes matched a → a.aggregations = 0 →
    db'.task.providerCallCount + 1 ≤ cfg.maxProviderCalls
  attempts : ∀ i, attempts db' i = attempts db i + (a.starts x matched).count i
  attempts_le : ∀ i, 0 < (a.starts x matched).count i →
    DelegatedBudget.attempts db' i ≤ maxSubtaskAttempts

theorem Counted.of_counts (h : Counts db db') (htakes : Act.takes matched a = 0)
    (hstarts : a.starts x matched = []) : Counted cfg x db db' matched a where
  count := by
    rw [h.1, htakes]
    rfl
  bounded := by
    rw [htakes]
    exact fun h => absurd h (Nat.lt_irrefl 0)
  slot := by
    rw [htakes]
    exact fun h => absurd h (Nat.lt_irrefl 0)
  attempts := by
    intro i
    rw [h.2 i, hstarts]
    rfl
  attempts_le := by
    intro i hi
    rw [hstarts] at hi
    exact absurd hi (Nat.lt_irrefl 0)

theorem counted_reserve (cfg : Config) (x : Execution) (db : Db) {keepSlots : Nat}
    (htakes : ∀ matched, Act.takes matched a = matched.toNat)
    (hstarts : ∀ matched, a.starts x matched = []) (hkeep : a.aggregations = 0 → 1 ≤ keepSlots) :
    Counted cfg x db ((reserveCall cfg x.owner keepSlots db).getD db)
      (reserveCall cfg x.owner keepSlots db).isSome a := by
  cases h : reserveCall cfg x.owner keepSlots db with
  | none => exact Counted.of_counts (Counts.rfl db) (htakes false) (hstarts false)
  | some db' =>
    obtain ⟨hlimit, hcount, hsubtasks⟩ := reserveCall_eq_some h
    refine ⟨?_, fun _ => ?_, fun _ ha => ?_, fun i => ?_, fun i hi => ?_⟩
    · rw [htakes]
      exact hcount
    · show db'.task.providerCallCount ≤ _
      omega
    · have hslots := hkeep ha
      show db'.task.providerCallCount + 1 ≤ _
      omega
    · rw [hstarts]
      simp only [attempts, Option.getD_some, hsubtasks, List.count_nil, Nat.add_zero]
    · rw [hstarts] at hi
      exact absurd hi (Nat.lt_irrefl 0)

theorem counted_claimSubtask (cfg : Config) (now : Nat) (x : Execution) (db : Db) (k : Nat) :
    Counted cfg x db ((claimSubtask now x.owner (x.subtaskOf k) db).getD db)
      (claimSubtask now x.owner (x.subtaskOf k) db).isSome (.claimSubtask k false) := by
  cases h : claimSubtask now x.owner (x.subtaskOf k) db with
  | none => exact Counted.of_counts (Counts.rfl db) rfl rfl
  | some db' =>
    obtain ⟨htask, hlt, hattempts⟩ := claimSubtask_eq_some h
    refine ⟨?_, fun ht => absurd ht (Nat.lt_irrefl 0), fun ht => absurd ht (Nat.lt_irrefl 0),
      fun i => ?_, fun i hi => ?_⟩
    · exact congrArg Task.providerCallCount htask
    · show attempts db' i = attempts db i + [x.subtaskOf k].count i
      rw [hattempts i, List.count_singleton]
      by_cases hi : x.subtaskOf k = i
      · subst hi
        simp
      · simp [hi]
    · show attempts db' i ≤ _
      rw [hattempts i]
      by_cases hk : x.subtaskOf k = i
      · rw [if_pos hk]
        omega
      · have hzero : [x.subtaskOf k].count i = 0 := by
          rw [List.count_singleton]
          simp [hk]
        have hpos : 0 < [x.subtaskOf k].count i := hi
        omega

theorem counted_statement (cfg : Config) (now : Nat) (x : Execution) (db : Db) (a : Act) :
    Counted cfg x db ((x.statement cfg now db a).getD db)
      (x.statement cfg now db a).isSome a := by
  cases a with
  | renew | start | aggregate | complete | fail =>
    refine .of_counts ?_ rfl rfl
    dsimp only [Execution.statement]
    apply counts_setTaskOwned
    intro t
    rfl
  | makeSubtasks => exact .of_counts (counts_makeSubtasks cfg db) rfl rfl
  | reserveAggregate =>
    exact counted_reserve cfg x db (fun _ => rfl) (fun _ => rfl) fun h => by cases h
  | reserve k =>
    exact counted_reserve cfg x db (fun _ => rfl) (fun _ => rfl) fun _ => Nat.le_refl 1
  | claimSubtask k clusterGone =>
    cases clusterGone with
    | true => exact .of_counts (Counts.rfl db) rfl rfl
    | false => exact counted_claimSubtask cfg now x db k
  | finish | failSubtask => exact .of_counts (counts_setSubtaskOwned _ _ _ db) rfl rfl
  | gathered | collect | callAggregate | raise | check | stop | call | drop =>
    exact .of_counts (Counts.rfl db) rfl rfl

/-! ## Runs -/

/-- What holds of the counts in every state. -/
structure Inv (cfg : Config) (w : World) : Prop where
  within : Within cfg.maxProviderCalls w.calls (total Execution.held w.executions)
    w.db.task.providerCallCount
  slot : w.aggregations = 0 → w.db.task.providerCallCount + 1 ≤ cfg.maxProviderCalls
  started : ∀ i, w.started.count i ≤ attempts w.db i
  attempts_le : ∀ i, attempts w.db i ≤ maxSubtaskAttempts

theorem Inv.init (cfg : Config) : Inv cfg .init where
  within := ⟨Nat.le_refl 0, Nat.zero_le _⟩
  slot := fun _ => cfg.limit_pos
  started := fun _ => Nat.le_refl 0
  attempts_le := fun _ => Nat.zero_le _

theorem Inv.counts (h : Inv cfg w) (hdb : Counts w.db w'.db)
    (hheld : total Execution.held w'.executions ≤ total Execution.held w.executions)
    (hcalls : w'.calls = w.calls) (hstarted : w'.started = w.started)
    (haggregations : w'.aggregations = w.aggregations) : Inv cfg w' where
  within := by
    apply h.within.take
    · exact Nat.le_of_eq hdb.1.symm
    · omega
    · rw [hdb.1]
      exact h.within.bounded
  slot := by
    rw [haggregations, hdb.1]
    exact h.slot
  started := by
    intro i
    rw [hstarted, hdb.2 i]
    exact h.started i
  attempts_le := by
    intro i
    rw [hdb.2 i]
    exact h.attempts_le i

theorem Inv.perform (h : Inv cfg w) {e : Nat} (hx : w.executions[e]? = some x)
    (hw' : w.perform cfg e x a = some w') : Inv cfg w' := by
  have hcounted := counted_statement cfg w.now x w.db a
  unfold World.perform at hw'
  dsimp only at hw'
  generalize x.statement cfg w.now w.db a = result at hw' hcounted
  split at hw'
  · cases hw'
  · rename_i x' hafter
    cases hw'
    have hheld := after_held hafter
    have hset := total_set Execution.held x' hx
    have hcount := hcounted.count
    refine ⟨?_, fun ha => ?_, fun i => ?_, fun i => ?_⟩
    · show Within cfg.maxProviderCalls (w.calls + a.calls)
        (total Execution.held (w.executions.set e x'))
        (result.getD w.db).task.providerCallCount
      apply h.within.take
      · omega
      · omega
      · cases htakes : Act.takes result.isSome a with
        | zero =>
          rw [hcount, htakes]
          exact h.within.bounded
        | succ n => exact hcounted.bounded (by omega)
    · have haggregations : w.aggregations + a.aggregations = 0 := ha
      show (result.getD w.db).task.providerCallCount + 1 ≤ _
      cases htakes : Act.takes result.isSome a with
      | zero =>
        rw [hcount, htakes]
        exact h.slot (by omega)
      | succ n => exact hcounted.slot (by omega) (by omega)
    · have hstarted := h.started i
      show (w.started ++ a.starts x result.isSome).count i ≤ attempts (result.getD w.db) i
      rw [List.count_append, hcounted.attempts i]
      omega
    · show attempts (result.getD w.db) i ≤ _
      cases hstarts : (a.starts x result.isSome).count i with
      | zero =>
        rw [hcounted.attempts i, hstarts]
        exact h.attempts_le i
      | succ n => exact hcounted.attempts_le i (by omega)

theorem Inv.step {a : Label} (h : Inv cfg w) (hw' : step cfg w a = some w') : Inv cfg w' := by
  cases a with
  | tick seconds =>
    cases hw'
    exact h.counts (Counts.rfl w.db) (Nat.le_refl _) rfl rfl rfl
  | claim worker =>
    simp only [DelegatedTasks.step] at hw'
    split at hw'
    · cases hw'
      exact h
    · rename_i db hdb
      cases hw'
      have hcounts := counts_claimTask cfg w.now worker w.db
      rw [hdb] at hcounts
      refine h.counts hcounts ?_ rfl rfl rfl
      show total Execution.held (w.executions ++ [{ owner := worker }]) ≤ _
      rw [total_append]
      exact Nat.le_refl _
  | act e a =>
    simp only [DelegatedTasks.step] at hw'
    split at hw'
    · cases hw'
    · rename_i x hx
      exact h.perform hx hw'
  | dispatch =>
    cases hw'
    exact h.counts (counts_claimForDispatch w.now w.db) (Nat.le_refl _) rfl rfl rfl
  | cancel =>
    cases hw'
    exact h.counts (counts_cancelTask w.db) (Nat.le_refl _) rfl rfl rfl
  | submissionFailed =>
    cases hw'
    exact h.counts ⟨rfl, fun _ => rfl⟩ (Nat.le_refl _) rfl rfl rfl
  | crash worker =>
    cases hw'
    exact h.counts (Counts.rfl w.db) (total_map_le (killed_held worker) _) rfl rfl rfl

theorem inv_run (cfg : Config) (as : List Label) (w : World)
    (hrun : (delegations cfg).run .init as = some w) : Inv cfg w :=
  (delegations cfg).run_invariant (Inv cfg) (fun _ _ _ h hw' => h.step hw') as .init w
    (Inv.init cfg) hrun

/-- The step in which an aggregation first asks for a call: a slot is left, and the execution
that owns the active task is granted the call. -/
def FindsSlot (cfg : Config) (w : World) (a : Label) (_ : World) : Prop :=
  ∀ e, a = .act e .reserveAggregate → w.aggregations = 0 →
    w.db.task.providerCallCount < cfg.maxProviderCalls ∧
      ∀ x, w.executions[e]? = some x → w.db.task.executionOwner = some x.owner →
        w.db.task.status.active = true →
          (x.statement cfg w.now w.db .reserveAggregate).isSome = true

theorem findsSlot_of_inv (h : Inv cfg w) (a : Label) (w' : World) : FindsSlot cfg w a w' := by
  intro e _ hfirst
  have hslot := h.slot hfirst
  refine ⟨hslot, fun x _ howner hactive => ?_⟩
  show (reserveCall cfg x.owner 0 w.db).isSome = true
  unfold reserveCall
  have hleft : w.db.task.providerCallCount < max 1 cfg.maxProviderCalls - 0 := by
    omega
  rw [if_pos ⟨howner, hactive, hleft⟩]
  rfl

/-- **The budget.**  In every run of a delegated task the provider calls made for it are within
the configured limit, no subtask is started more often than it has attempts, and the first
aggregation that asks for a call finds a slot left. -/
theorem budget_kept (cfg : Config) (as : List Label) (w : World)
    (hrun : (delegations cfg).run .init as = some w) :
    w.calls ≤ cfg.maxProviderCalls ∧ (∀ i, w.started.count i ≤ maxSubtaskAttempts) ∧
      (delegations cfg).Always (FindsSlot cfg) .init as := by
  have hinv := inv_run cfg as w hrun
  refine ⟨hinv.within.used_le, fun i => ?_, ?_⟩
  · exact Nat.le_trans (hinv.started i) (hinv.attempts_le i)
  · exact (delegations cfg).always_of_invariant (FindsSlot cfg) (Inv cfg)
      (fun _ _ _ h hw' => ⟨findsSlot_of_inv h _ _, h.step hw'⟩) as .init (Inv.init cfg)

def twoCalls : Config := ⟨2, 900, 1, subtasks_pos, by decide⟩

/-- The sub-agent uses its call and fails for want of a second one, its second attempt fails
likewise without a call, the worker's process is gone, another worker claims the task. -/
def usedUp : List Label :=
  [.claim "w", .act 0 .makeSubtasks, .act 0 .start, .act 0 (.claimSubtask 0 false),
    .act 0 (.reserve 0), .act 0 (.call 0), .act 0 (.reserve 0), .act 0 (.failSubtask 0),
    .act 0 .gathered, .act 0 (.claimSubtask 0 false), .act 0 (.reserve 0), .crash "w",
    .tick 301, .dispatch, .claim "v"]

theorem budget_kept_usedUp :
    ∃ w, (delegations twoCalls).run .init usedUp = some w ∧
      w.calls ≤ twoCalls.maxProviderCalls ∧ w.started.count 0 ≤ maxSubtaskAttempts := by
  have h := budget_kept twoCalls usedUp _ rfl
  exact ⟨_, rfl, h.1, h.2.1 0⟩

end CephAi.Ports.DelegatedBudget
