import CephAi.Ports.DelegatedTasks
import Mathlib

/-!
# Who owns a delegated task

A claim records the worker process, and every execution of the process passes for
the owner.  Of the statements, `_set_subtask_owned` asks for the owner of the
subtask row only, and `_make_subtasks` for none.  So an execution whose claim was
taken over can still change rows in three ways: its own process claimed the task
again; a subtask row still names its process; or it made no subtasks yet and
there are none.

## Main results

* `staleQuiet_of_claims` — where each claim finds the earlier executions over, they
  change nothing any more.
* `claim_breaks` — a claim that finds one of the three ways open lets a row be
  changed.
-/

namespace CephAi.Ports.DelegatedOwnership

open Verified.Runs
open DelegatedTasks

/-- The statement of an execution that is not the latest matches no row. -/
def StaleQuiet (cfg : Config) (w : World) (a : Label) (_ : World) : Prop :=
  ∀ e b x, a = .act e b → e + 1 < w.executions.length → w.executions[e]? = some x →
    x.statement cfg w.now w.db b = none

def rowOwner (db : Db) (i : Nat) : Option Worker :=
  match db.subtasks[i]? with
  | none => none
  | some s => s.executionOwner

/-- The sub-agent has claimed its subtask and is to write its end. -/
def atWork : AgentPhase → Bool
  | .turn | .granted | .refused => true
  | _ => false

/-- The execution has ended, and so have its sub-agents. -/
def Execution.Finished (x : Execution) : Prop :=
  x.phase = .ended ∧ ∀ a ∈ x.agents, a.phase = .done

/-- Nothing of the execution writes once `owner` has the task: it is not of this process unless it
has finished, it is past planning or there are subtasks, and no row names its process for a
sub-agent at work. -/
structure Execution.Over (owner : Option Worker) (db : Db) (x : Execution) : Prop where
  finished : owner = some x.owner → Execution.Finished x
  planned : x.phase = .planning → db.subtasks ≠ []
  rows : ∀ a ∈ x.agents, atWork a.phase = true → rowOwner db a.subtask ≠ some x.owner

/-- A claim that succeeds finds the executions before it over. -/
def FindsOver (cfg : Config) (w : World) : Label → Prop
  | .claim worker => (claimTask cfg w.now worker w.db).isSome = true →
    ∀ x ∈ w.executions, Execution.Over (some worker) w.db x
  | _ => True

/-- Every execution but the latest is over. -/
def Inv (w : World) : Prop :=
  ∀ e x, e + 1 < w.executions.length → w.executions[e]? = some x →
    Execution.Over w.db.task.executionOwner w.db x

/-! ## An execution that is over -/

variable {b : Act} {cfg : Config} {db db' : Db} {e k now : Nat} {from_ : List AgentPhase}
    {matched : Bool} {owner worker : Worker} {to_ : AgentPhase} {w w' : World} {x x' : Execution}

theorem moveAgent_eq_some (h : x.moveAgent k from_ to_ = some x') :
    ∃ a, x.agents[k]? = some a ∧ a.phase ∈ from_ ∧
      x' = { x with agents := x.agents.set k { a with phase := to_ } } := by
  unfold Execution.moveAgent at h
  split at h
  · cases h
  · rename_i a ha
    split at h
    · rename_i hfrom
      cases h
      exact ⟨a, ha, hfrom, rfl⟩
    · cases h

theorem moves_not_done (h : Moves matched b k from_ to_) : .done ∉ from_ := by
  cases h <;> decide

theorem Execution.Finished.after (h : Execution.Finished x) (hx' : x.after db matched b = some x') :
    b = .stop := by
  cases after_cases hx' with
  | stays hphase => exact absurd h.1 hphase
  | leads hleads =>
    rw [h.1] at hleads
    cases hleads with
    | raise hworking => cases hworking
    | stop => rfl
  | round k ids _ hphase => exact absurd h.1 hphase
  | moves hmoves hmove =>
    obtain ⟨a, ha, hfrom, -⟩ := moveAgent_eq_some hmove
    rw [h.2 a (List.mem_of_getElem? ha)] at hfrom
    exact absurd hfrom (moves_not_done hmoves)

theorem claimSubtask_other {i : Nat} (h : db.task.executionOwner ≠ some owner) :
    claimSubtask now owner i db = none := by
  unfold claimSubtask
  split
  · rfl
  · exact if_neg fun hguard => h hguard.1

theorem setSubtaskOwned_other {i : Nat} {status : SubtaskStatus} (h : rowOwner db i ≠ some owner) :
    setSubtaskOwned owner i status db = none := by
  unfold rowOwner at h
  unfold setSubtaskOwned
  split
  · rfl
  · rename_i s hs
    rw [hs] at h
    exact if_neg fun hguard => h hguard.1

theorem Execution.Over.row {owner : Option Worker} (h : Execution.Over owner db x)
    (hx' : x.moveAgent k from_ to_ = some x') (hfrom : ∀ p ∈ from_, atWork p = true) :
    rowOwner db (x.subtaskOf k) ≠ some x.owner := by
  obtain ⟨a, ha, hphase, -⟩ := moveAgent_eq_some hx'
  unfold Execution.subtaskOf
  rw [ha]
  exact h.rows a (List.mem_of_getElem? ha) (hfrom _ hphase)

theorem Execution.Over.statement (h : Execution.Over db.task.executionOwner db x)
    (hx' : x.after db' matched b = some x') : x.statement cfg now db b = none := by
  by_cases howner : db.task.executionOwner = some x.owner
  · -- its process has the task again, so it has finished
    cases Execution.Finished.after (h.finished howner) hx'
    rfl
  · cases b with
    | renew | start | aggregate | complete | fail | reserveAggregate | reserve =>
      exact if_neg fun hguard => howner hguard.1
    | makeSubtasks =>
      simp only [Execution.after] at hx'
      split_ifs at hx' with hphase
      exact if_neg fun hguard => h.planned hphase hguard.2
    | claimSubtask k clusterGone =>
      cases clusterGone with
      | true => rfl
      | false => exact claimSubtask_other howner
    | finish | failSubtask => exact setSubtaskOwned_other (h.row hx' (by decide))
    | gathered | collect | callAggregate | raise | check | stop | call | drop => rfl

/-- What becomes of an execution whose statement matched no row. -/
inductive Moved (x : Execution) : Execution → Prop
  | stays : Moved x x
  | leads {phase : Phase} (h : phase ≠ .planning) : Moved x (x.to phase)
  | round (k : Nat) (ids : List Nat) : Moved x (x.startRound k ids)
  | agent {k : Nat} {a : Agent} {p : AgentPhase} (ha : x.agents[k]? = some a)
      (hp : atWork p = true → atWork a.phase = true) :
      Moved x { x with agents := x.agents.set k { a with phase := p } }

theorem Moved.of_moveAgent (h : x.moveAgent k from_ to_ = some x')
    (hto : ∀ p ∈ from_, atWork to_ = true → atWork p = true) : Moved x x' := by
  obtain ⟨a, ha, hphase, rfl⟩ := moveAgent_eq_some h
  exact .agent ha (hto _ hphase)

theorem leads_ne_planning {phase phase' : Phase} (h : Leads matched b phase phase') :
    phase' ≠ .planning := by
  cases h with
  | start ids hto => rcases hto with rfl | rfl <;> decide
  | collect clusterGone hto => rcases hto with rfl | rfl | rfl <;> decide
  | check hto => rcases hto with rfl | rfl <;> decide
  | aggregate | reserveAggregate => cases matched <;> decide
  | makeSubtasks ids => simp
  | gathered | callAggregate | complete | raise | fail | stop => decide

theorem moves_atWork (h : Moves false b k from_ to_) :
    ∀ p ∈ from_, atWork to_ = true → atWork p = true := by
  cases h <;> decide

theorem after_moved (h : x.after db false b = some x') : Moved x x' := by
  cases after_cases h with
  | stays => exact .stays
  | leads hleads => exact .leads (leads_ne_planning hleads)
  | round k ids => exact .round k ids
  | moves hmoves hmove => exact .of_moveAgent hmove (moves_atWork hmoves)

theorem Execution.Over.after {owner : Option Worker} (h : Execution.Over owner db x)
    (hx' : x.after db' false b = some x') : Execution.Over owner db x' := by
  have hmoved := after_moved hx'
  have hfinished : owner = some x.owner → Execution.Finished x' := by
    intro howner
    have hdone := h.finished howner
    cases hdone.after hx'
    cases hx'
    exact ⟨rfl, hdone.2⟩
  cases hmoved with
  | stays => exact h
  | leads hphase => exact ⟨hfinished, fun hplanning => absurd hplanning hphase, h.rows⟩
  | round k ids =>
    refine ⟨hfinished, fun hplanning => absurd hplanning (by simp [Execution.startRound]), ?_⟩
    intro a ha hwork
    obtain ⟨i, -, rfl⟩ := List.mem_map.mp ha
    cases hwork
  | @agent k a p ha hp =>
    refine ⟨hfinished, h.planned, ?_⟩
    intro a' ha' hwork
    rcases List.mem_or_eq_of_mem_set ha' with hmem | rfl
    · exact h.rows a' hmem hwork
    · have hrow := h.rows a (List.mem_of_getElem? ha) (hp hwork)
      exact hrow

/-! ## What the statements do to the owners -/

/-- A change of the database that gives rows to the owner of the task only. -/
structure Owners (db db' : Db) : Prop where
  owner : ∀ worker, db'.task.executionOwner = some worker →
    db.task.executionOwner = some worker
  planned : db.subtasks ≠ [] → db'.subtasks ≠ []
  rows : ∀ i worker, rowOwner db' i = some worker →
    rowOwner db i = some worker ∨ db.task.executionOwner = some worker

theorem Owners.rfl (db : Db) : Owners db db := ⟨fun _ h => h, fun h => h, fun _ _ h => .inl h⟩

theorem Owners.getD {o : Option Db} (h : ∀ db', o = some db' → Owners db db') :
    Owners db (o.getD db) := by
  cases o with
  | none => exact Owners.rfl db
  | some db' => exact h db' (Eq.refl _)

theorem Execution.Over.owners (h : Execution.Over db.task.executionOwner db x)
    (hdb : Owners db db') :
    Execution.Over db'.task.executionOwner db' x where
  finished := fun howner => h.finished (hdb.owner _ howner)
  planned := fun hplanning => hdb.planned (h.planned hplanning)
  rows := by
    intro a ha hwork hrow
    cases hdb.rows _ _ hrow with
    | inl hbefore => exact h.rows a ha hwork hbefore
    | inr howner =>
      have hdone := (h.finished howner).2 a ha
      rw [hdone] at hwork
      cases hwork

theorem owners_setTaskOwned {expected : TaskStatus → Bool} {values : Task → Task}
    (hvalues : ∀ t, (values t).executionOwner = t.executionOwner)
    (h : setTaskOwned owner expected values db = some db') : Owners db db' := by
  unfold setTaskOwned at h
  split at h
  · cases h
    refine ⟨fun worker hworker => ?_, fun h => h, fun _ _ h => .inl h⟩
    rw [← hworker]
    exact (hvalues db.task).symm
  · cases h

theorem owners_reserveCall {keepSlots : Nat} (h : reserveCall cfg owner keepSlots db = some db') :
    Owners db db' := by
  unfold reserveCall at h
  split at h
  · cases h
    exact ⟨fun _ h => h, fun h => h, fun _ _ h => .inl h⟩
  · cases h

theorem owners_makeSubtasks (h : makeSubtasks cfg db = some db') : Owners db db' := by
  unfold makeSubtasks at h
  split at h
  · rename_i hguard
    cases h
    refine ⟨fun _ h => h, fun hne => absurd hguard.2 hne, fun i worker hrow => ?_⟩
    unfold rowOwner at hrow
    split at hrow
    · cases hrow
    · rename_i s hs
      have hfresh : s = {} := List.eq_of_mem_replicate (List.mem_of_getElem? hs)
      subst hfresh
      cases hrow
  · cases h

variable {j : Nat}

/-- One row replaced. -/
theorem owners_set {s s' : Subtask} (hs : db.subtasks[j]? = some s)
    (howner : s'.executionOwner = s.executionOwner ∨ s'.executionOwner = db.task.executionOwner) :
    Owners db { db with subtasks := db.subtasks.set j s' } := by
  refine ⟨fun _ h => h, fun hne hempty => ?_, fun i worker hrow => ?_⟩
  · rw [List.set_eq_nil_iff] at hempty
    exact hne hempty
  · simp only [rowOwner, List.getElem?_set] at hrow ⊢
    by_cases hj : j = i
    · subst hj
      rw [if_pos rfl, if_pos (List.getElem?_eq_some_iff.mp hs).1] at hrow
      have hnew : s'.executionOwner = some worker := hrow
      rw [hs]
      cases howner with
      | inl hsame => exact .inl (hsame.symm.trans hnew)
      | inr htask => exact .inr (htask.symm.trans hnew)
    · rw [if_neg hj] at hrow
      exact .inl hrow

theorem owners_claimSubtask (h : claimSubtask now owner j db = some db') : Owners db db' := by
  unfold claimSubtask at h
  split at h
  · cases h
  · rename_i s hs
    split at h
    · rename_i hguard
      cases h
      exact owners_set hs (.inr hguard.1.symm)
    · cases h

theorem owners_setSubtaskOwned {status : SubtaskStatus}
    (h : setSubtaskOwned owner j status db = some db') : Owners db db' := by
  unfold setSubtaskOwned at h
  split at h
  · cases h
  · rename_i s hs
    split at h
    · cases h
      exact owners_set hs (.inl rfl)
    · cases h

theorem owners_map {task : Task} {f : Subtask → Subtask}
    (htask : ∀ worker, task.executionOwner = some worker → db.task.executionOwner = some worker)
    (hf : ∀ s worker, (f s).executionOwner = some worker → s.executionOwner = some worker) :
    Owners db ⟨task, db.subtasks.map f⟩ := by
  refine ⟨htask, fun hne hempty => hne (List.map_eq_nil_iff.mp hempty), ?_⟩
  intro i worker hrow
  simp only [rowOwner, List.getElem?_map] at hrow ⊢
  cases hs : db.subtasks[i]? with
  | none =>
    rw [hs] at hrow
    cases hrow
  | some s =>
    rw [hs] at hrow
    exact .inl (hf s worker hrow)

theorem owners_claimForDispatch (h : claimForDispatch now db = some db') : Owners db db' := by
  simp only [claimForDispatch] at h
  split_ifs at h
  · cases h
    exact ⟨fun _ h => h, fun h => h, fun _ _ h => .inl h⟩
  · cases h
    apply owners_map
    · intro worker hworker
      cases hworker
    · intro s worker hrow
      unfold Subtask.recovered at hrow
      split_ifs at hrow
      exact hrow

theorem owners_cancelTask (h : cancelTask db = some db') : Owners db db' := by
  unfold cancelTask at h
  split at h
  · cases h
    apply owners_map
    · exact fun _ h => h
    · intro s worker hrow
      unfold Subtask.cancelled at hrow
      split_ifs at hrow
      · exact hrow
      · exact hrow
  · cases h

theorem owners_statement (h : x.statement cfg now db b = some db') : Owners db db' := by
  cases b with
  | renew | start | aggregate | complete | fail =>
    dsimp only [Execution.statement] at h
    refine owners_setTaskOwned ?_ h
    intro t
    rfl
  | makeSubtasks => exact owners_makeSubtasks h
  | reserveAggregate | reserve => exact owners_reserveCall h
  | claimSubtask k clusterGone =>
    cases clusterGone with
    | true => cases h
    | false => exact owners_claimSubtask h
  | finish | failSubtask => exact owners_setSubtaskOwned h
  | gathered | collect | callAggregate | raise | check | stop | call | drop => cases h

/-! ## Runs -/

theorem killed_over (owner : Option Worker) (db : Db) (worker : Worker)
    (h : Execution.Over owner db x) : Execution.Over owner db (x.killed worker) := by
  unfold Execution.killed
  split
  · exact ⟨fun _ => ⟨rfl, by simp⟩, fun hplanning => absurd hplanning (by simp), by simp⟩
  · exact h

/-- A step that only changes the database keeps what is over. -/
theorem Inv.owners (h : Inv w) (hdb : Owners w.db w'.db)
    (hexecutions : w'.executions = w.executions) : Inv w' := by
  intro e x hstale hx
  rw [hexecutions] at hstale hx
  exact (h e x hstale hx).owners hdb

theorem Inv.claim (hclaim : claimTask cfg w.now worker w.db = some db)
    (hover : ∀ x ∈ w.executions, Execution.Over (some worker) w.db x) :
    Inv { w with db, executions := w.executions ++ [{ owner := worker }] } := by
  intro e x hstale hx
  simp only [List.length_append, List.length_singleton] at hstale
  rw [List.getElem?_append_left (by omega)] at hx
  have hx' := hover x (List.mem_of_getElem? hx)
  unfold claimTask at hclaim
  split at hclaim
  · cases hclaim
    exact ⟨hx'.finished, hx'.planned, hx'.rows⟩
  · cases hclaim

theorem Inv.perform (h : Inv w) (hx : w.executions[e]? = some x)
    (hw' : w.perform cfg e x b = some w') :
    (e + 1 < w.executions.length → x.statement cfg w.now w.db b = none) ∧ Inv w' := by
  unfold World.perform at hw'
  dsimp only at hw'
  split at hw'
  · cases hw'
  · rename_i x' hafter
    cases hw'
    have hquiet : e + 1 < w.executions.length → x.statement cfg w.now w.db b = none :=
      fun hstale => (h e x hstale hx).statement hafter
    refine ⟨hquiet, ?_⟩
    have hdb : Owners w.db ((x.statement cfg w.now w.db b).getD w.db) :=
      Owners.getD fun db' hdb' => owners_statement hdb'
    intro i y hstale hy
    simp only [List.length_set] at hstale
    simp only [List.getElem?_set] at hy
    by_cases hi : e = i
    · subst hi
      rw [if_pos rfl, if_pos (by omega), Option.some.injEq] at hy
      subst hy
      rw [hquiet hstale] at hafter ⊢
      exact (h e x hstale hx).after hafter
    · rw [if_neg hi] at hy
      exact (h i y hstale hy).owners hdb

/-- **The step.**  An execution that is not the latest matches no row, and stays over. -/
theorem step_quiet {a : Label} (h : Inv w) (hfinds : FindsOver cfg w a)
    (hw' : step cfg w a = some w') : StaleQuiet cfg w a w' ∧ Inv w' := by
  have hother : ∀ w'', (∀ e b, a ≠ .act e b) → Inv w'' → StaleQuiet cfg w a w'' ∧ Inv w'' :=
    fun _ hne hinv => ⟨fun e b _ ha => absurd ha (hne e b), hinv⟩
  cases a with
  | tick seconds =>
    cases hw'
    exact hother _ (by simp) (h.owners (Owners.rfl w.db) rfl)
  | claim worker =>
    apply hother w' (by simp)
    simp only [step] at hw'
    split at hw'
    · cases hw'
      exact h
    · rename_i db hdb
      cases hw'
      exact Inv.claim hdb (hfinds (by rw [hdb]; rfl))
  | act e b =>
    simp only [step] at hw'
    split at hw'
    · cases hw'
    · rename_i x hx
      obtain ⟨hquiet, hinv⟩ := h.perform hx hw'
      refine ⟨?_, hinv⟩
      intro e' b' y ha hstale hy
      cases ha
      rw [hx, Option.some.injEq] at hy
      subst hy
      exact hquiet hstale
  | dispatch =>
    cases hw'
    exact hother _ (by simp) (h.owners (Owners.getD fun _ => owners_claimForDispatch) rfl)
  | cancel =>
    cases hw'
    exact hother _ (by simp) (h.owners (Owners.getD fun _ => owners_cancelTask) rfl)
  | submissionFailed =>
    cases hw'
    exact hother _ (by simp) (h.owners ⟨fun _ h => h, fun h => h, fun _ _ h => .inl h⟩ rfl)
  | crash worker =>
    cases hw'
    apply hother _ (by simp)
    intro i y hstale hy
    simp only [List.length_map] at hstale
    simp only [List.getElem?_map, Option.map_eq_some_iff] at hy
    obtain ⟨x, hx, rfl⟩ := hy
    exact killed_over _ _ worker (h i x hstale hx)

theorem inv_init : Inv .init := by
  intro e x hstale _
  cases hstale

theorem staleQuiet_of_claims (cfg : Config) (as : List Label)
    (hmeets : (delegations cfg).Meets (FindsOver cfg) .init as) :
    (delegations cfg).Always (StaleQuiet cfg) .init as :=
  (delegations cfg).always_of_meets (StaleQuiet cfg) (FindsOver cfg) Inv
    (fun _ _ _ h hfinds hw' => step_quiet h hfinds hw') as .init inv_init hmeets

/-! ## A claim that lets rows be changed -/

/-- What an execution can still write once `worker` has claimed the task: FAILED, of the same
process; the subtasks, when there are none; the end of a subtask whose row is its process's. -/
inductive StillWrites (worker : Worker) (db : Db) (x : Execution) : Prop
  | failure (hprocess : x.owner = worker) (hphase : x.phase ≠ .ended)
  | subtasks (hphase : x.phase = .planning) (hnone : db.subtasks = [])
  | row {k : Nat} {a : Agent} (ha : x.agents[k]? = some a) (hwork : atWork a.phase = true)
      (hrow : rowOwner db a.subtask = some x.owner)

/-- The execution `e`, not the latest, stands at a phase `P`, the task being in PLANNING and its
process's. -/
structure Stands (w : World) (e : Nat) (x : Execution) (P : Phase → Prop) : Prop where
  mem : w.executions[e]? = some x
  stale : e + 1 < w.executions.length
  phase : P x.phase
  status : w.db.task.status = .planning
  owner : w.db.task.executionOwner = some x.owner

theorem not_quiet (hx : w.executions[e]? = some x) (hstale : e + 1 < w.executions.length)
    (hdb : (x.statement cfg w.now w.db b).isSome = true)
    (hafter : ∀ db, (x.after db true b).isSome = true) :
    ¬(delegations cfg).Always (StaleQuiet cfg) w [.act e b] := by
  obtain ⟨db, hdb⟩ := Option.isSome_iff_exists.mp hdb
  obtain ⟨x', hx'⟩ := Option.isSome_iff_exists.mp (hafter db)
  have hstep : ∃ w', (delegations cfg).step w (.act e b) = some w' := by
    simp [delegations, step, hx, World.perform, hdb, hx']
  obtain ⟨w', hw'⟩ := hstep
  intro h
  simp only [System.Always, hw'] at h
  have hquiet := h.1 e b x rfl hstale hx
  rw [hdb] at hquiet
  cases hquiet

/-- An act without a statement, after which the run goes on. -/
theorem not_quiet_cons {a : Label} {as : List Label} (hw' : (delegations cfg).step w a = some w')
    (h : ¬(delegations cfg).Always (StaleQuiet cfg) w' as) :
    ¬(delegations cfg).Always (StaleQuiet cfg) w (a :: as) := by
  intro hall
  simp only [System.Always, hw'] at hall
  exact h hall.2

theorem Stands.move (cfg : Config) {P : Phase → Prop} (b : Act) (phase : Phase) (h : Stands w e x P)
    (hdb : x.statement cfg w.now w.db b = none) (hx' : x.after w.db false b = some (x.to phase)) :
    ∃ w', (delegations cfg).step w (.act e b) = some w' ∧
      Stands w' e (x.to phase) (· = phase) := by
  have hlt : e < w.executions.length := by
    have hstale := h.stale
    omega
  refine ⟨_, by simp only [delegations, step, h.mem, World.perform, hdb, Option.getD_none,
    Option.isSome_none, hx']; rfl, ?_⟩
  exact ⟨by simp [hlt], by simpa using h.stale, rfl, h.status, h.owner⟩

theorem fail_breaks (h : Stands w e x (· = .checked)) :
    ¬(delegations cfg).Always (StaleQuiet cfg) w [.act e .fail] := by
  have hphase : x.phase = .checked := h.phase
  apply not_quiet h.mem h.stale
  · simp [Execution.statement, setTaskOwned, h.owner]
  · simp [Execution.after, hphase]

theorem check_breaks (h : Stands w e x (· = .raised)) :
    ¬(delegations cfg).Always (StaleQuiet cfg) w [.act e .check, .act e .fail] := by
  have hphase : x.phase = .raised := h.phase
  obtain ⟨w', hw', hstands⟩ := h.move cfg .check .checked rfl (by
    simp [Execution.after, hphase, taskIsCancelled, h.status])
  exact not_quiet_cons hw' (fail_breaks hstands)

theorem raise_breaks (h : Stands w e x (fun p => p.working = true)) :
    ¬(delegations cfg).Always (StaleQuiet cfg) w
      [.act e .raise, .act e .check, .act e .fail] := by
  have hphase : x.phase.working = true := h.phase
  obtain ⟨w', hw', hstands⟩ := h.move cfg .raise .raised rfl (by
    simp [Execution.after, hphase])
  exact not_quiet_cons hw' (check_breaks hstands)

theorem failure_breaks (cfg : Config) (h : Stands w e x (· ≠ .ended)) :
    ∃ bs, ¬(delegations cfg).Always (StaleQuiet cfg) w bs := by
  have hphase : x.phase ≠ .ended := h.phase
  have hat : ∀ P : Phase → Prop, P x.phase → Stands w e x P :=
    fun P hP => ⟨h.mem, h.stale, hP, h.status, h.owner⟩
  cases hp : x.phase with
  | ended => exact absurd hp hphase
  | raised => exact ⟨_, check_breaks (hat _ hp)⟩
  | checked => exact ⟨_, fail_breaks (hat _ hp)⟩
  | planning | planned | round | gathered | collected | aggregating | granted =>
    exact ⟨_, raise_breaks (hat _ (by rw [hp]; rfl))⟩

theorem claimTask_eq_some (h : claimTask cfg now worker db = some db') :
    db'.task.status = .planning ∧ db'.task.executionOwner = some worker ∧
      db'.subtasks = db.subtasks := by
  unfold claimTask at h
  split at h
  · cases h
    exact ⟨rfl, rfl, rfl⟩
  · cases h

/-- **What a claim lets change.**  After a claim that finds an execution that can still write, that
execution changes a row in some run. -/
theorem claim_breaks (hclaim : claimTask cfg w.now worker w.db = some db)
    (hx : w.executions[e]? = some x) (hwrites : StillWrites worker w.db x) :
    ∃ w' bs, (delegations cfg).step w (.claim worker) = some w' ∧
      ¬(delegations cfg).Always (StaleQuiet cfg) w' bs := by
  obtain ⟨hstatus, howner, hsubtasks⟩ := claimTask_eq_some hclaim
  have hlt : e < w.executions.length := (List.getElem?_eq_some_iff.mp hx).1
  have hx' : (w.executions ++ [{ owner := worker }])[e]? = some x := by
    rw [List.getElem?_append_left hlt]
    exact hx
  have hstale : e + 1 < (w.executions ++ [{ owner := worker : Execution }]).length := by
    rw [List.length_append]
    exact Nat.add_lt_add_right hlt 1
  refine ⟨{ w with db, executions := w.executions ++ [{ owner := worker }] }, ?_⟩
  have hstep : (delegations cfg).step w (.claim worker) =
      some { w with db, executions := w.executions ++ [{ owner := worker }] } := by
    simp only [delegations, step, hclaim]
  cases hwrites with
  | failure hprocess hphase =>
    have hstands : Stands { w with db, executions := w.executions ++ [{ owner := worker }] }
        e x (· ≠ .ended) := ⟨hx', hstale, hphase, hstatus, by rw [hprocess]; exact howner⟩
    obtain ⟨bs, hbs⟩ := failure_breaks cfg hstands
    exact ⟨bs, hstep, hbs⟩
  | subtasks hphase hnone =>
    refine ⟨[.act e .makeSubtasks], hstep, not_quiet hx' hstale ?_ fun db' => ?_⟩
    · simp [Execution.statement, makeSubtasks, hstatus, hsubtasks, hnone]
    · simp [Execution.after, hphase]
  | @row k a ha hwork hrow =>
    refine ⟨[.act e (.failSubtask k)], hstep, not_quiet hx' hstale ?_ fun db' => ?_⟩
    · have hsubtask : x.subtaskOf k = a.subtask := by
        unfold Execution.subtaskOf
        rw [ha]
      unfold rowOwner at hrow
      split at hrow
      · cases hrow
      · rename_i s hs
        simp [Execution.statement, setSubtaskOwned, hsubtask, hsubtasks, hs, hrow, hstatus,
          TaskStatus.active]
    · have hphase : a.phase ∈ [AgentPhase.turn, .granted, .refused] := by
        revert hwork
        cases a.phase <;> decide
      simp only [Execution.after, Execution.moveAgent, ha, if_pos hphase, Option.isSome_some]

/-! ## The law -/

instance (x : Execution) : Decidable (Execution.Finished x) :=
  inferInstanceAs (Decidable (_ ∧ _))

instance (owner : Option Worker) (db : Db) (x : Execution) :
    Decidable (Execution.Over owner db x) :=
  decidable_of_iff ((owner = some x.owner → Execution.Finished x) ∧
      (x.phase = .planning → db.subtasks ≠ []) ∧
      ∀ a ∈ x.agents, atWork a.phase = true → rowOwner db a.subtask ≠ some x.owner)
    ⟨fun h => ⟨h.1, h.2.1, h.2.2⟩, fun h => ⟨h.finished, h.planned, h.rows⟩⟩

instance (cfg : Config) (w : World) : ∀ a, Decidable (FindsOver cfg w a)
  | .claim worker => inferInstanceAs (Decidable ((claimTask cfg w.now worker w.db).isSome = true →
      ∀ x ∈ w.executions, Execution.Over (some worker) w.db x))
  | .tick _ | .act _ _ | .dispatch | .cancel | .submissionFailed | .crash _ =>
    inferInstanceAs (Decidable True)

/-- **Who owns a task.**  In every run whose claims find the executions before them over, an
execution whose claim was taken over matches no row; and a claim that finds one that can still
write is followed, in some run, by a change of a row by it. -/
theorem owner_identifies_iff (cfg : Config) :
    (∀ as, (delegations cfg).Meets (FindsOver cfg) .init as →
      (delegations cfg).Always (StaleQuiet cfg) .init as) ∧
    ∀ (w : World) worker db (e : Nat) x, claimTask cfg w.now worker w.db = some db →
      w.executions[e]? = some x → StillWrites worker w.db x →
        ∃ w' bs, (delegations cfg).step w (.claim worker) = some w' ∧
          ¬(delegations cfg).Always (StaleQuiet cfg) w' bs :=
  ⟨staleQuiet_of_claims cfg, fun _ _ _ _ _ => claim_breaks⟩

/-- Two subtasks, the limits as the settings have them. -/
def twoSubtasks : Config := ⟨25, 900, 2, calls_pos, subtasks_pos⟩

/-- The first sub-agent of the worker's execution is in its turn. -/
def underWay (worker : Worker) : List Label :=
  [.claim worker, .act 0 .makeSubtasks, .act 0 .start, .act 0 (.claimSubtask 0 false)]

/-- The worker's process is gone; when the lease is over the watchdog dispatches the task, and
another worker claims it. -/
def recovered : List Label :=
  underWay "w" ++ [.crash "w", .tick 301, .dispatch, .claim "v", .act 1 .makeSubtasks]

theorem owner_identifies_recovered :
    (delegations twoSubtasks).Always (StaleQuiet twoSubtasks) .init recovered :=
  (owner_identifies_iff twoSubtasks).1 recovered (by decide)

/-- The lease is over while the first execution still runs.  The message was delivered twice to
the process: its second execution claims the task, and then the first one fails. -/
def claimedTwice : List Label :=
  underWay "w" ++ [.tick 301, .claim "w", .act 0 .raise, .act 0 .check, .act 0 .fail]

/-- The same with another worker, and the first execution's sub-agent completes. -/
def takenOver : List Label :=
  underWay "w" ++ [.tick 301, .claim "v", .act 0 (.finish 0)]

/-- The execution that was claimed before writes the task row, and a subtask row. -/
theorem earlier_execution_writes :
    ((delegations twoSubtasks).run .init (claimedTwice.take 6)).map
        (fun w => (w.executions.length, w.db.task.status)) = some (2, .planning) ∧
      ((delegations twoSubtasks).run .init claimedTwice).map (·.db.task.status) =
        some .failed ∧
      ((delegations twoSubtasks).run .init (takenOver.take 6)).map
        (fun w => (w.executions.length, w.db.subtasks.map (·.status))) =
          some (2, [.running, .queued]) ∧
      ((delegations twoSubtasks).run .init takenOver).map
        (fun w => w.db.subtasks.map (·.status)) = some [.completed, .queued] := by
  decide

end CephAi.Ports.DelegatedOwnership
