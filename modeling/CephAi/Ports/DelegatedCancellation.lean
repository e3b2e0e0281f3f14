import CephAi.Ports.DelegatedTasks
import Mathlib

/-!
# A delegated task that is settled

A task that is CANCELLED or COMPLETED is to stay so, and no subtask of it is to
complete any more.  All statements but two ask for a status that such a task does
not have.  The failure path of `execute_task` asks in one transaction whether the
task was cancelled and writes FAILED in another, on the owner alone; and the
submission that could not publish the message writes FAILED on no condition.

## Main result

* `settled_iff` — a run keeps settled tasks as they are exactly when these two
  writes do not come upon one.
-/

namespace CephAi.Ports.DelegatedCancellation

open Verified.Runs
open DelegatedTasks

def settled (s : TaskStatus) : Bool := s == .completed || s == .cancelled

/-- The subtask at this position is COMPLETED. -/
def Completed (db : Db) (i : Nat) : Prop :=
  ∃ s, db.subtasks[i]? = some s ∧ s.status = .completed

/-- A settled task keeps its status, and no subtask of it becomes COMPLETED. -/
def Kept (db db' : Db) : Prop :=
  settled db.task.status = true →
    db'.task.status = db.task.status ∧ ∀ i, Completed db' i → Completed db i

def StepKept (w : World) (_ : Label) (w' : World) : Prop := Kept w.db w'.db

/-- The label writes FAILED, whatever the status: the failure path of an execution whose process
owns the task, and the submission. -/
def Label.writesFailed (w : World) : Label → Bool
  | .act e .fail =>
    match w.executions[e]? with
    | none => false
    | some x => w.db.task.executionOwner == some x.owner
  | .submissionFailed => true
  | _ => false

/-- FAILED is not written upon a settled task. -/
def Spared (w : World) (a : Label) : Prop :=
  Label.writesFailed w a = true → settled w.db.task.status = false

instance (w : World) (a : Label) : Decidable (Spared w a) :=
  inferInstanceAs (Decidable (_ → _))

/-! ## Statements upon a settled task -/

variable {db : Db} {s : TaskStatus}

theorem not_active (h : settled s = true) : s.active = false := by
  cases s with
  | completed | cancelled => rfl
  | queued | planning | running | aggregating | failed => cases h

theorem not_queued (h : settled s = true) : s ≠ .queued := by
  rintro rfl
  cases h

theorem Kept.rfl (db : Db) : Kept db db := fun _ => ⟨Eq.refl _, fun _ h => h⟩

theorem kept_getD {o : Option Db} (h : settled db.task.status = true → o = none) :
    Kept db (o.getD db) := by
  intro hsettled
  rw [h hsettled]
  exact ⟨Eq.refl _, fun _ hi => hi⟩

theorem claimTask_settled (cfg : Config) (now : Nat) (worker : Worker)
    (h : settled db.task.status = true) : claimTask cfg now worker db = none := by
  unfold claimTask
  simp [not_queued h, not_active h]

theorem setTaskOwned_settled (owner : Worker) {expected : TaskStatus → Bool} (values : Task → Task)
    (h : expected db.task.status = false) : setTaskOwned owner expected values db = none := by
  unfold setTaskOwned
  simp [h]

theorem reserveCall_settled (cfg : Config) (owner : Worker) (keepSlots : Nat)
    (h : settled db.task.status = true) : reserveCall cfg owner keepSlots db = none := by
  unfold reserveCall
  simp [not_active h]

theorem claimSubtask_settled (now : Nat) (owner : Worker) (i : Nat)
    (h : settled db.task.status = true) : claimSubtask now owner i db = none := by
  unfold claimSubtask
  split
  · rfl
  · simp [not_active h]

theorem setSubtaskOwned_settled (owner : Worker) (i : Nat) (status : SubtaskStatus)
    (h : settled db.task.status = true) : setSubtaskOwned owner i status db = none := by
  unfold setSubtaskOwned
  split
  · rfl
  · simp [not_active h]

theorem claimForDispatch_settled (now : Nat) (h : settled db.task.status = true) :
    claimForDispatch now db = none := by
  unfold claimForDispatch
  simp [not_queued h, not_active h]

theorem cancelTask_settled (h : settled db.task.status = true) : cancelTask db = none := by
  unfold cancelTask
  simp [not_queued h, not_active h]

theorem kept_makeSubtasks (cfg : Config) (db : Db) : Kept db ((makeSubtasks cfg db).getD db) := by
  unfold makeSubtasks
  split
  · intro _
    refine ⟨rfl, ?_⟩
    rintro i ⟨s, hs, hcompleted⟩
    have hfresh : s = {} := List.eq_of_mem_replicate (List.mem_of_getElem? hs)
    subst hfresh
    cases hcompleted
  · exact Kept.rfl db

theorem kept_setTaskOwned (owner : Worker) {expected : TaskStatus → Bool} (values : Task → Task)
    (db : Db) (h : settled db.task.status = true → expected db.task.status = false) :
    Kept db ((setTaskOwned owner expected values db).getD db) :=
  kept_getD fun hsettled => setTaskOwned_settled owner values (h hsettled)

theorem not_expected (expected : TaskStatus) (h : settled s = true)
    (hexpected : settled expected = false) : (s == expected) = false := by
  rw [beq_eq_false_iff_ne]
  rintro rfl
  rw [h] at hexpected
  cases hexpected

theorem kept_statement (cfg : Config) (now : Nat) (x : Execution) (db : Db) {a : Act}
    (ha : a ≠ .fail) : Kept db ((x.statement cfg now db a).getD db) := by
  cases a with
  | renew =>
    dsimp only [Execution.statement]
    exact kept_setTaskOwned _ _ db fun h => not_active h
  | makeSubtasks => exact kept_makeSubtasks cfg db
  | start =>
    dsimp only [Execution.statement]
    exact kept_setTaskOwned _ _ db fun h => not_expected .planning h rfl
  | aggregate =>
    dsimp only [Execution.statement]
    exact kept_setTaskOwned _ _ db fun h => not_expected .running h rfl
  | complete =>
    dsimp only [Execution.statement]
    exact kept_setTaskOwned _ _ db fun h => not_expected .aggregating h rfl
  | reserveAggregate | reserve => exact kept_getD (reserveCall_settled cfg _ _)
  | claimSubtask k clusterGone =>
    cases clusterGone with
    | true => exact Kept.rfl db
    | false => exact kept_getD (claimSubtask_settled now _ _)
  | finish | failSubtask => exact kept_getD (setSubtaskOwned_settled _ _ _)
  | fail => exact absurd rfl ha
  | gathered | collect | callAggregate | raise | check | stop | call | drop => exact Kept.rfl db

theorem kept_failed_iff {db' : Db} (h : db'.task.status = .failed) :
    Kept db db' ↔ settled db.task.status = false := by
  constructor
  · intro hkept
    rw [Bool.eq_false_iff]
    intro hsettled
    have hsame := (hkept hsettled).1
    rw [h] at hsame
    rw [← hsame] at hsettled
    cases hsettled
  · intro hopen hsettled
    rw [hopen] at hsettled
    cases hsettled

/-- The failure path's write. -/
theorem kept_fail_iff (cfg : Config) (now : Nat) (x : Execution) (db : Db) :
    Kept db ((x.statement cfg now db .fail).getD db) ↔
      (db.task.executionOwner = some x.owner → settled db.task.status = false) := by
  simp only [Execution.statement, setTaskOwned]
  by_cases howner : db.task.executionOwner = some x.owner
  · rw [if_pos ⟨howner, True.intro⟩, Option.getD_some, kept_failed_iff rfl]
    exact ⟨fun h _ => h, fun h => h howner⟩
  · rw [if_neg fun h => howner h.1]
    exact iff_of_true (Kept.rfl db) fun h => absurd h howner

/-! ## Runs -/

theorem perform_db {cfg : Config} {w w' : World} {e : Nat} {x : Execution} {a : Act}
    (h : w.perform cfg e x a = some w') : w'.db = (x.statement cfg w.now w.db a).getD w.db := by
  unfold World.perform at h
  dsimp only at h
  split at h
  · cases h
  · cases h
    rfl

theorem kept_iff_spared {cfg : Config} {w w' : World} {a : Label}
    (h : step cfg w a = some w') : Kept w.db w'.db ↔ Spared w a := by
  unfold Spared
  cases a with
  | tick | crash =>
    cases h
    exact iff_of_true (Kept.rfl w.db) fun hw => by cases hw
  | claim worker =>
    refine iff_of_true ?_ fun hw => by cases hw
    simp only [step] at h
    split at h
    · cases h
      exact Kept.rfl w.db
    · rename_i db hdb
      cases h
      intro hsettled
      rw [claimTask_settled cfg w.now worker hsettled] at hdb
      cases hdb
  | act e a =>
    simp only [step] at h
    split at h
    · cases h
    · rename_i x hx
      rw [perform_db h]
      by_cases ha : a = .fail
      · subst ha
        simp only [kept_fail_iff, Label.writesFailed, hx, beq_iff_eq]
      · refine iff_of_true (kept_statement cfg w.now x w.db ha) fun hw => ?_
        unfold Label.writesFailed at hw
        split at hw
        · rename_i heq
          cases heq
          exact absurd rfl ha
        · rename_i heq
          cases heq
        · cases hw
  | dispatch =>
    cases h
    exact iff_of_true (kept_getD (claimForDispatch_settled w.now)) fun hw => by cases hw
  | cancel =>
    cases h
    exact iff_of_true (kept_getD cancelTask_settled) fun hw => by cases hw
  | submissionFailed =>
    cases h
    exact (kept_failed_iff rfl).trans ⟨fun h _ => h, fun h => h rfl⟩

/-- **What is settled.**  In every run a CANCELLED or COMPLETED task keeps its status and none of
its subtasks completes any more exactly when FAILED is not written upon it. -/
theorem settled_iff (cfg : Config) (as : List Label) (w : World)
    (hrun : (delegations cfg).run .init as = some w) :
    (delegations cfg).Always StepKept .init as ↔ (delegations cfg).Meets Spared .init as :=
  (delegations cfg).always_iff_meets StepKept Spared
    (fun _ _ _ h => kept_iff_spared h) as .init w hrun

/-- Two subtasks, the limits as the settings have them. -/
def twoSubtasks : Config := ⟨25, 900, 2, calls_pos, subtasks_pos⟩

/-- The first sub-agent of the execution is in its turn. -/
def underWay : List Label :=
  [.claim "w", .act 0 .makeSubtasks, .act 0 .start, .act 0 (.claimSubtask 0 false)]

/-- The operator cancels; the sub-agent ends after that, and the failure path finds the task
cancelled. -/
def cancelled : List Label :=
  underWay ++ [.cancel, .act 0 (.finish 0), .act 0 .raise, .act 0 .check]

theorem settled_iff_cancelled : (delegations twoSubtasks).Always StepKept .init cancelled :=
  (settled_iff twoSubtasks cancelled _ rfl).mpr (by decide)

/-- The work times out, the failure path finds the task not cancelled, the operator cancels it,
the failure path writes FAILED. -/
def cancelledBetween : List Label :=
  underWay ++ [.act 0 .raise, .act 0 .check, .cancel, .act 0 .fail]

theorem cancelled_becomes_failed :
    ((delegations twoSubtasks).run .init (cancelledBetween.take 7)).map (·.db.task.status) =
        some .cancelled ∧
      ((delegations twoSubtasks).run .init cancelledBetween).map (·.db.task.status) =
        some .failed := by
  decide

end CephAi.Ports.DelegatedCancellation
