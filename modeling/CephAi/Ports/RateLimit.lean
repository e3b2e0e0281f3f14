import Mathlib.Algebra.Order.Group.Nat
import Mathlib.Data.List.Dedup
import CephAi.Verified.RateWindow
import CephAi.Ports.AutonomousExecution

/-!
# The hourly limit of autonomous executions

`check_limits` of `worker/autonomy_runtime.py` counts the Actions of a cluster that
finished as `AUTO_EXECUTED`; the executor of `worker/llm/router_client.py` asks it, takes
the lease of the cluster, commits `EXECUTING`, starts the commands, records the result
and releases the lease, each in a transaction of its own.  What runs, failed or became
`INCONCLUSIVE` is not counted.

Any number of threads execute, while any of them reconciles, leases expire as time goes
on, and others write the Actions.  `World.begins` is for the statements: it keeps every
execution that has started its first SSH command.

## Main results

* `within_start` — a command that starts under the limit keeps the limit in every hour.
* `limited_of_counted` — in runs in which what a check does not count leaves room, no
  hour has more executions than the limit.
* `failed_executions_exceed` — three failed executions in a minute, under a limit of two.
-/

namespace CephAi.Ports.RateLimit

open Verified Verified.Runs Verified.RateWindow
open Models
open AutonomousExecution (Lease acquireLease releaseLease activeLease)

/-! ## `check_limits` -/

/-- A row of `actions`, with the cluster of its Incident. -/
structure ActionRow where
  id : Nat
  clusterId : Option String
  actionId : String
  targetNodes : Option String
  classification : ActionClassification
  status : ActionStatus
  executedAt : Option Nat
deriving DecidableEq, Repr

instance : Table.Keyed ActionRow := ⟨ActionRow.id⟩

/-- The settings; zero turns a limit off. -/
structure Limits where
  maxHour : Nat
  maxDay : Nat
  cooldownSeconds : Nat
  leaseTtlSeconds : Nat
deriving DecidableEq, Repr

/-- `base`, with `executed_at` in the last `seconds`. -/
def executedSince (rows : List ActionRow) (clusterId : String) (now seconds : Nat) :
    List ActionRow :=
  rows.filter fun a => a.clusterId == some clusterId && a.status == .autoExecuted &&
    a.executedAt.any fun t => now ≤ t + seconds

/-- `unlimited_verified_osd_restart` -/
def unlimited (actionId : String) : Bool := actionId == "restart_osd_daemon"

def cooldownExempt (actionId : String) : Bool :=
  ["restart_osd_daemon", "enable_mon_msgr2"].contains actionId

inductive RuntimeResult
  | allowed
  | hourlyLimit
  | dailyLimit
  | cooldown
deriving DecidableEq, Repr

def checkLimits (L : Limits) (rows : List ActionRow) (clusterId actionId : String)
    (targetNodes : Option String) (now : Nat) : RuntimeResult :=
  if !unlimited actionId && 0 < L.maxHour &&
      L.maxHour ≤ (executedSince rows clusterId now 3600).length then .hourlyLimit
  else if !unlimited actionId && 0 < L.maxDay &&
      L.maxDay ≤ (executedSince rows clusterId now 86400).length then .dailyLimit
  else if !cooldownExempt actionId && 0 < L.cooldownSeconds &&
      (executedSince rows clusterId now L.cooldownSeconds).any (fun a =>
        a.actionId == actionId && a.targetNodes == targetNodes) then .cooldown
  else .allowed

/-! ## Executions -/

/-- An execution whose limits were checked, when, and which Actions the hourly limit
counted then. -/
structure Execution where
  pk : Nat
  clusterId : String
  actionId : String
  now : Nat
  counted : List Nat
deriving DecidableEq, Repr

/-- Where a thread is. -/
inductive Phase
  | idle
  | checked (e : Execution)
  | leased (e : Execution)
  /-- `EXECUTING` is committed. -/
  | executing (e : Execution)
  /-- The command has started on a host. -/
  | running (e : Execution)
  /-- The result is recorded, the lease not released. -/
  | recorded (e : Execution)
deriving DecidableEq, Repr

/-- An execution that has started its first command. -/
structure Begin where
  time : Nat
  pk : Nat
  clusterId : String
  actionId : String
deriving DecidableEq, Repr

/-- The state. -/
structure World where
  now : Nat
  rows : List ActionRow
  leases : List Lease
  phase : Nat → Phase
  begins : List Begin

/-- A step. -/
inductive Label
  | check (thread pk : Nat) (clusterId actionId : String)
  | acquire (thread : Nat)
  | begin (thread : Nat)
  /-- The command is started on the first host. -/
  | start (thread : Nat)
  | finish (thread : Nat) (succeeded : Bool)
  | release (thread : Nat)
  | reconcile
  | tick (seconds : Nat)
  /-- The Worker stops, or the thread ends without releasing its lease. -/
  | vanish (thread : Nat)
  /-- Others write the Actions. -/
  | write (rows : List ActionRow)
deriving DecidableEq, Repr

/-- The thread goes on. -/
def World.goTo (w : World) (thread : Nat) (p : Phase) : World :=
  { w with phase := Function.update w.phase thread p }

/-- The Action gets this status, and `executed_at` when it was executed. -/
def World.setStatus (w : World) (pk : Nat) (status : ActionStatus) (executedAt : Option Nat) :
    World :=
  { w with rows := Table.modify w.rows pk fun a =>
      { a with status := status, executedAt := executedAt.or a.executedAt } }

/-- The ids that `check_limits` counts for the hour. -/
def World.counted (w : World) (clusterId : String) : List Nat :=
  (executedSince w.rows clusterId w.now 3600).map ActionRow.id

/-- `expired` of `reconcile_expired_executions`. -/
def World.expired (w : World) (a : ActionRow) : Bool :=
  a.status == .executing && a.classification == .safe && !activeLease w.leases a.id w.now

/-- `reconcile_expired_executions` -/
def World.reconcile (w : World) : World :=
  { w with
    rows := Table.update w.rows w.expired fun a => { a with status := .inconclusive }
    leases := w.leases.filter fun l =>
      !(w.rows.filter w.expired).any fun a => a.id == l.actionId }

/-- One step; `none` when it is not the thread's turn. -/
def step (L : Limits) (w : World) : Label → Option World
  | .check t pk clusterId actionId =>
    match w.phase t with
    | .idle =>
      match checkLimits L w.rows clusterId actionId
          ((Table.get w.rows pk).bind ActionRow.targetNodes) w.now with
      | .allowed =>
        some (w.goTo t (.checked ⟨pk, clusterId, actionId, w.now, w.counted clusterId⟩))
      | _ => some (w.setStatus pk .pendingApproval none)
    | _ => none
  | .acquire t =>
    match w.phase t with
    | .checked e =>
      match acquireLease w.leases e.clusterId e.pk e.now L.leaseTtlSeconds with
      | some leases => some ({ w with leases := leases }.goTo t (.leased e))
      | none => some ((w.setStatus e.pk .pendingApproval none).goTo t .idle)
    | _ => none
  | .begin t =>
    match w.phase t with
    | .leased e => some ((w.setStatus e.pk .executing none).goTo t (.executing e))
    | _ => none
  | .start t =>
    match w.phase t with
    | .executing e =>
      some ({ w with begins := ⟨w.now, e.pk, e.clusterId, e.actionId⟩ :: w.begins }.goTo t
        (.running e))
    | _ => none
  | .finish t succeeded =>
    match w.phase t with
    | .executing e => some ((w.setStatus e.pk .failed none).goTo t (.recorded e))
    | .running e =>
      if succeeded then
        some ((w.setStatus e.pk .autoExecuted (some w.now)).goTo t (.recorded e))
      else some ((w.setStatus e.pk .failed none).goTo t (.recorded e))
    | _ => none
  | .release t =>
    match w.phase t with
    | .recorded e => some ({ w with leases := releaseLease w.leases e.pk }.goTo t .idle)
    | _ => none
  | .reconcile => some w.reconcile
  | .tick seconds => some { w with now := w.now + seconds }
  | .vanish t => some (w.goTo t .idle)
  | .write rows => some { w with rows := rows }

/-- The Worker threads. -/
def worker (L : Limits) : System World Label := ⟨step L⟩

/-- Nothing has been executed. -/
def World.initial (now : Nat) (rows : List ActionRow) : World where
  now := now
  rows := rows
  leases := []
  phase := fun _ => .idle
  begins := []

/-! ## The limit -/

/-- When the executions of a cluster that are not exempt have begun. -/
def World.times (w : World) (clusterId : String) : List Nat :=
  (w.begins.filter fun b => b.clusterId == clusterId && !unlimited b.actionId).map Begin.time

/-- No hour has more executions than the limit, on any cluster. -/
def Limited (L : Limits) (w : World) : Prop :=
  0 < L.maxHour → ∀ clusterId, Within L.maxHour 3600 (w.times clusterId)

/-- The Actions of the executions that began on the cluster in the last hour. -/
def World.lastHour (w : World) (clusterId : String) : List Nat :=
  (w.begins.filter fun b => b.clusterId == clusterId && !unlimited b.actionId &&
    w.now ≤ b.time + 3600).map Begin.pk

/-- How many executions of the last hour the check did not count: those whose Action it did
not count, and all but one of those with the same Action. -/
def World.uncounted (w : World) (e : Execution) : Nat :=
  (w.lastHour e.clusterId).length -
    ((w.lastHour e.clusterId).dedup.filter e.counted.contains).length

/-- A limited command starts only when the executions of the last hour that its check did
not count fit into the room that the check left beside the one it allowed. -/
def Counted (L : Limits) (w : World) : Label → Prop
  | .start t =>
    match w.phase t with
    | .executing e => 0 < L.maxHour → unlimited e.actionId = false →
        w.uncounted e ≤ L.maxHour - (e.counted.length + 1)
    | _ => True
  | _ => True

instance (L : Limits) (w : World) (l : Label) : Decidable (Counted L w l) := by
  unfold Counted
  split
  · split <;> infer_instance
  · infer_instance

variable {L : Limits} {l : Label} {w w' : World}

theorem executedSince_lt_of_allowed {rows : List ActionRow} {clusterId actionId : String}
    {targetNodes : Option String} {now : Nat}
    (h : checkLimits L rows clusterId actionId targetNodes now = .allowed) (hlimit : 0 < L.maxHour)
    (hkind : unlimited actionId = false) :
    (executedSince rows clusterId now 3600).length < L.maxHour := by
  by_contra hge
  unfold checkLimits at h
  rw [if_pos] at h
  · cases h
  · simp only [hkind, Bool.not_false, Bool.true_and, Bool.and_eq_true, decide_eq_true_eq]
    exact ⟨hlimit, by omega⟩

/-! ### What the threads hold -/

/-- The execution of a thread. -/
def Phase.execution : Phase → Option Execution
  | .idle => none
  | .checked e | .leased e | .executing e | .running e | .recorded e => some e

/-- The check left room for the execution. -/
def Execution.Room (L : Limits) (e : Execution) : Prop :=
  0 < L.maxHour → unlimited e.actionId = false → e.counted.length < L.maxHour

/-- Every thread works on an execution that its check left room for. -/
def Checked (L : Limits) (w : World) : Prop :=
  ∀ t e, (w.phase t).execution = some e → e.Room L

section

variable (h : Checked L w)
include h

theorem checked_goTo (t : Nat) {p : Phase}
    (hp : ∀ e, p.execution = some e → e.Room L) : Checked L (w.goTo t p) := by
  intro t' e he
  show e.Room L
  by_cases ht : t' = t
  · apply hp
    simpa [World.goTo, ht] using he
  · apply h t'
    simpa [World.goTo, ht] using he

theorem checked_goOn {t : Nat} {e : Execution} {p q : Phase} (hq : w.phase t = q)
    (hqe : q.execution = some e) (hpe : p.execution = some e) : Checked L (w.goTo t p) := by
  apply checked_goTo h
  intro e' he'
  rw [hpe, Option.some.injEq] at he'
  rw [← hq] at hqe
  exact he' ▸ h t e hqe

theorem checked_idle (t : Nat) : Checked L (w.goTo t .idle) :=
  checked_goTo h t fun _ he => nomatch he

theorem checked_step (hstep : step L w l = some w') : Checked L w' := by
  unfold step at hstep
  cases l with
  | check t pk clusterId actionId =>
    simp only at hstep
    split at hstep
    · split at hstep
      · next hallowed =>
        cases hstep
        apply checked_goTo h
        intro e he
        cases he
        intro hlimit hkind
        have hlt := executedSince_lt_of_allowed hallowed hlimit hkind
        simpa [World.counted] using hlt
      · cases hstep
        exact h
    · cases hstep
  | acquire t =>
    simp only at hstep
    split at hstep
    · next e he =>
      split at hstep
      · cases hstep
        exact checked_goOn (w := { w with leases := _ }) h he rfl rfl
      · cases hstep
        exact checked_idle (w := w.setStatus e.pk .pendingApproval none) h t
    · cases hstep
  | begin t =>
    simp only at hstep
    split at hstep
    · next e he =>
      cases hstep
      exact checked_goOn (w := w.setStatus e.pk .executing none) h he rfl rfl
    · cases hstep
  | start t =>
    simp only at hstep
    split at hstep
    · next e he =>
      cases hstep
      exact checked_goOn (w := { w with begins := _ }) h he rfl rfl
    · cases hstep
  | finish t succeeded =>
    simp only at hstep
    split at hstep
    · next e he =>
      cases hstep
      exact checked_goOn (w := w.setStatus e.pk .failed none) h he rfl rfl
    · next e he =>
      split_ifs at hstep
      · cases hstep
        exact checked_goOn (w := w.setStatus e.pk .autoExecuted (some w.now)) h he rfl rfl
      · cases hstep
        exact checked_goOn (w := w.setStatus e.pk .failed none) h he rfl rfl
    · cases hstep
  | release t =>
    simp only at hstep
    split at hstep
    · cases hstep
      exact checked_idle (w := { w with leases := _ }) h t
    · cases hstep
  | reconcile | tick | write => cases hstep; exact h
  | vanish t => cases hstep; exact checked_idle h t

end

/-! ### The limit over a step -/

theorem begins_step (hl : ∀ t, l ≠ .start t) (hstep : step L w l = some w') :
    w'.begins = w.begins := by
  unfold step at hstep
  cases l with
  | start t => exact absurd rfl (hl t)
  | reconcile | tick | vanish | write => cases hstep; rfl
  | check | acquire =>
    simp only at hstep
    split at hstep
    · split at hstep <;> cases hstep <;> rfl
    · cases hstep
  | begin | release =>
    simp only at hstep
    split at hstep <;> cases hstep
    rfl
  | finish t succeeded =>
    simp only at hstep
    split at hstep
    · cases hstep; rfl
    · split_ifs at hstep <;> cases hstep <;> rfl
    · cases hstep

theorem lastHour_length_le (w : World) (e : Execution) :
    (w.lastHour e.clusterId).length ≤ e.counted.length + w.uncounted e := by
  have hsub : (w.lastHour e.clusterId).dedup.filter e.counted.contains ⊆ e.counted := by
    intro pk hpk
    rw [List.mem_filter] at hpk
    exact List.contains_iff_mem.mp hpk.2
  have hnodup : ((w.lastHour e.clusterId).dedup.filter e.counted.contains).Nodup :=
    (List.nodup_dedup _).filter _
  have hle := (List.subperm_of_subset hnodup hsub).length_le
  unfold World.uncounted
  omega

theorem length_recent_times (w : World) (clusterId : String) :
    (recent 3600 w.now (w.times clusterId)).length = (w.lastHour clusterId).length := by
  unfold recent World.times World.lastHour
  rw [List.filter_map, List.length_map, List.length_map, List.filter_filter]
  congr 1
  apply List.filter_congr
  intro b _
  simp only [Function.comp_apply, Bool.and_comm, Bool.and_left_comm]

theorem times_cons (w : World) (b : Begin) (clusterId : String) :
    World.times { w with begins := b :: w.begins } clusterId =
      if b.clusterId = clusterId ∧ unlimited b.actionId = false then
        b.time :: w.times clusterId
      else w.times clusterId := by
  unfold World.times
  rw [List.filter_cons]
  split_ifs with hb hcond hcond
  · rfl
  · simp at hb
    exact absurd hb hcond
  · simp at hb
    exact absurd hcond.2 (by simp [hb hcond.1])
  · rfl

/-- **A command that starts under the limit keeps the limit in every hour.** -/
theorem within_start {e : Execution} (hlimit : 0 < L.maxHour) (h : Limited L w) (hroom : e.Room L)
    (hcounted : unlimited e.actionId = false → w.uncounted e ≤ L.maxHour - (e.counted.length + 1)) :
    Limited L { w with begins := ⟨w.now, e.pk, e.clusterId, e.actionId⟩ :: w.begins } := by
  intro _ clusterId
  rw [times_cons]
  split_ifs with hcond
  · obtain ⟨rfl, hkind⟩ := hcond
    apply within_cons (h hlimit e.clusterId)
    rw [length_recent_times]
    have hle := lastHour_length_le w e
    have hlt := hroom hlimit hkind
    have hfit := hcounted hkind
    omega
  · exact h hlimit clusterId

theorem limited_step (hlimit : 0 < L.maxHour) (hchecked : Checked L w) (h : Limited L w)
    (hC : Counted L w l) (hstep : step L w l = some w') : Limited L w' := by
  by_cases hl : ∀ t, l ≠ .start t
  · intro _ clusterId
    unfold World.times
    rw [begins_step hl hstep]
    exact h hlimit clusterId
  · rw [not_forall] at hl
    obtain ⟨t, hstart⟩ := hl
    obtain rfl := not_not.mp hstart
    simp only [step] at hstep
    split at hstep
    · next e he =>
      cases hstep
      simp only [Counted, he] at hC
      have hroom : e.Room L := hchecked t e (by rw [he]; rfl)
      exact within_start hlimit h hroom (hC hlimit)
    · cases hstep

/-! ## Runs -/

/-- **The limit over runs.**  In every run in which a limited command starts only when the
executions that its check did not count fit into the room that the check left, no hour has
more executions than the limit, on any cluster. -/
theorem limited_of_counted (L : Limits) (now : Nat) (rows : List ActionRow) (labels : List Label)
    (h : (worker L).Meets (Counted L) (World.initial now rows) labels) :
    (worker L).Always (fun _ _ w' => Limited L w') (World.initial now rows) labels := by
  apply (worker L).always_of_meets _ (Counted L) (fun w => Checked L w ∧ Limited L w) _ labels
    _ _ h
  · intro w l w' hw hC hstep
    have hchecked : Checked L w' := checked_step hw.1 hstep
    have hlimited : Limited L w' := by
      intro hlimit
      exact limited_step hlimit hw.1 hw.2 hC hstep hlimit
    exact ⟨hlimited, hchecked, hlimited⟩
  · constructor
    · intro t e he
      cases he
    · intro _ clusterId
      exact within_nil L.maxHour 3600

/-- Two executions an hour, as `config/settings.py` has it. -/
def twoPerHour : Limits where
  maxHour := 2
  maxDay := 5
  cooldownSeconds := 1800
  leaseTtlSeconds := 900

/-- A SAFE Action on an Incident of "c1". -/
def resyncNtp (id : Nat) : ActionRow where
  id := id
  clusterId := some "c1"
  actionId := "resync_ntp"
  targetNodes := some "[\"ceph1\"]"
  classification := .safe
  status := .executing
  executedAt := none

/-- An Action is executed, up to its first command. -/
def executing (pk : Nat) : List Label :=
  [.check 0 pk "c1" "resync_ntp", .acquire 0, .begin 0, .start 0]

/-- It fails twenty seconds later. -/
def failing (pk : Nat) : List Label :=
  executing pk ++ [.tick 20, .finish 0 false, .release 0]

/-- A failed execution leaves room for one more in the hour. -/
theorem limited_after_failure :
    ((worker twoPerHour).run (World.initial 0 [resyncNtp 1, resyncNtp 2])
        (failing 1 ++ executing 2)).map (fun w => w.times "c1") = some [20, 0] ∧
      (worker twoPerHour).Always (fun _ _ w' => Limited twoPerHour w')
        (World.initial 0 [resyncNtp 1, resyncNtp 2]) (failing 1 ++ executing 2) :=
  ⟨by decide, limited_of_counted twoPerHour 0 [resyncNtp 1, resyncNtp 2]
    (failing 1 ++ executing 2) (by decide)⟩

/-- Two failed executions, and the third on its way. -/
def failingRun : List Label :=
  failing 1 ++ failing 2 ++ [.check 0 3 "c1" "resync_ntp", .acquire 0, .begin 0]

/-- **Failed executions do not count**: a third one starts in the same minute. -/
theorem failed_executions_exceed :
    ¬ (worker twoPerHour).Always (fun _ _ w' => Limited twoPerHour w')
      (World.initial 0 [resyncNtp 1, resyncNtp 2, resyncNtp 3]) (failingRun ++ [.start 0]) := by
  intro h
  have hrun : (worker twoPerHour).run
      (World.initial 0 [resyncNtp 1, resyncNtp 2, resyncNtp 3]) failingRun =
        some (((worker twoPerHour).run
          (World.initial 0 [resyncNtp 1, resyncNtp 2, resyncNtp 3]) failingRun).getD
            (World.initial 0 [])) := by
    rfl
  have hlimited := h.step_after rfl failingRun _ hrun
  have hhour := hlimited (by decide) "c1" 0
  revert hhour
  decide

end CephAi.Ports.RateLimit
