import CephAi.Ports.Models
import CephAi.Verified.Compensation
import CephAi.Verified.Runs

/-!
# The node OS gate

A node whose OS is reinstalled by hand is taken out of the cluster and brought
back by a gate: `prepare` sets the maintenance flags and removes the node's
monitor, then either `abort` or `recover` brings the monitor back and clears the
flags.  The Dashboard creates the gate and an Action for each step
(`dashboard/routes/upgrade.py`), operators decide on the Actions
(`dashboard/routes/actions.py`), and the Worker runs them
(`cluster_deploy.run`), one remote command or transaction at a time.

One cluster is modelled: its lock row, its gates and their Actions, and what is
live, the quorum and the OSD flags.  Each gate Action has an Incident of its
own, which is `EXECUTING` or not.  A command can take effect although it reports
an error; what happens to it is the `Outcome`.

## Main results

* `runStep_frame` — what a command or transaction of a run leaves alone.
-/

namespace CephAi.Ports.NodeOsGate

open Verified Models

/-! ## Rows -/

/-- `NodeUpgradeGateState` -/
inductive GateState
  | preparing
  | prepared
  | recovering
  | aborting
  | done
  | failed
deriving DecidableEq, Repr

def GateState.terminal : GateState → Bool
  | .done | .failed => true
  | .preparing | .prepared | .recovering | .aborting => false

/-- `node_os_gate_prepare`, `node_os_gate_abort`, `node_os_gate_recover`. -/
inductive GateKind
  | prepare
  | abort
  | recover
deriving DecidableEq, Repr

/-- The state of a gate while this step of it is under way. -/
def GateKind.state : GateKind → GateState
  | .prepare => .preparing
  | .abort => .aborting
  | .recover => .recovering

@[simp] theorem GateKind.terminal_state (k : GateKind) : k.state.terminal = false := by
  cases k <;> rfl

theorem GateKind.state_ne_prepared (k : GateKind) : k.state ≠ .prepared := by
  cases k <;> simp [GateKind.state]

variable {k : GateKind}

theorem GateKind.eq_of_state {k' : GateKind} (h : k.state = k'.state) : k = k' := by
  cases k <;> cases k' <;> simp_all [GateKind.state]

/-- The columns of a gate that the Worker writes. -/
structure Journal where
  state : GateState
  maintenanceFlagsAdded : List String
  monRemoved : Bool
deriving DecidableEq, Repr

/-- A row of `node_upgrade_gates`.  The roles are those of `roles_snapshot`. -/
structure Gate where
  id : Nat
  host : String
  roles : List String
  prepareActionId : Nat
  confirmActionId : Option Nat
  abortActionId : Option Nat
  journal : Journal
deriving DecidableEq, Repr

/-- A gate Action; `executing` says that its Incident is `EXECUTING`. -/
structure GateAction where
  id : Nat
  gateId : Nat
  kind : GateKind
  status : ActionStatus
  executing : Bool
deriving DecidableEq, Repr

def GateAction.origin (x : GateAction) : Nat × GateKind := (x.gateId, x.kind)

instance : Table.Keyed Gate := ⟨Gate.id⟩
instance : Table.Keyed GateAction := ⟨GateAction.id⟩

def Gate.hasMon (g : Gate) : Bool := g.roles.contains "MON"

def Gate.hasOsd (g : Gate) : Bool := g.roles.contains "OSD"

/-- The Action of a step. -/
def Gate.actionOf (g : Gate) : GateKind → Option Nat
  | .prepare => some g.prepareActionId
  | .abort => g.abortActionId
  | .recover => g.confirmActionId

def Gate.write (j : Journal) (g : Gate) : Gate := { g with journal := j }

/-- `is_node_upgrade_gate_pending` -/
def isGatePending (gates : List Gate) (excludeActionId : Nat) : Bool :=
  gates.any (fun g => !g.journal.state.terminal &&
    g.prepareActionId != excludeActionId &&
    g.confirmActionId != some excludeActionId &&
    g.abortActionId != some excludeActionId)

/-! ## The live cluster -/

/-- What is live.  `removed` has the hosts whose monitor a gate took out and that
are not back. -/
structure Live where
  quorum : List String
  flags : List String
  removed : List String
deriving DecidableEq, Repr

def maintenanceFlags : List String :=
  ["noout", "noscrub", "nodeep-scrub", "nosnaptrim"]

/-- `ceph osd set` -/
def Live.setFlag (l : Live) (flag : String) : Live :=
  { l with flags := Compensation.add l.flags flag }

/-- `ceph osd unset` -/
def Live.unsetFlag (l : Live) (flag : String) : Live :=
  { l with flags := Compensation.remove l.flags flag }

/-- Several `ceph osd unset`. -/
def Live.unsetFlags (l : Live) (flags : List String) : Live :=
  { l with flags := Compensation.removeAll l.flags flags }

/-- `ceph mon rm` -/
def Live.monRm (l : Live) (host : String) : Live :=
  { l with
    quorum := Compensation.remove l.quorum host
    removed := host :: l.removed }

/-- `_rejoin_mon_after_reinstall` -/
def Live.rejoinMon (l : Live) (host : String) : Live :=
  { l with
    quorum := Compensation.add l.quorum host
    removed := Compensation.remove l.removed host }

/-! ## A run of `cluster_deploy.run` -/

/-- Where a run is: the next thing it does. -/
inductive Pc
  | resolve
  | backup
  | readFlags
  | setFlags (todo : List String)
  | removeMon
  | checkQuorum
  | markPrepared
  | rollbackState
  | rejoinBack (flags : List String)
  | readBack (flags : List String) (clean : Bool)
  | unsetBack (todo : List String) (clean : Bool)
  | reinstall
  | rejoin
  | readClear
  | unsetClear (todo : List String)
  | markDone
  | failing (release : Bool)
deriving DecidableEq, Repr

/-- A run, with the markers it keeps in its parameters. -/
structure Run where
  action : Nat
  gateId : Nat
  kind : GateKind
  pc : Pc
  flagsAdded : Option (List String)
  monRemoved : Option Bool
deriving DecidableEq, Repr

/-- What a run sees and changes. -/
structure Site where
  live : Live
  journal : Journal
  lock : Option Nat
deriving DecidableEq, Repr

/-- What happens to the next command: whether it takes effect, whether it
reports success, whether what it records is stored, and which flags a joined
command clears. -/
structure Outcome where
  applied : Bool
  ok : Bool
  stored : Bool
  cleared : List String
deriving DecidableEq, Repr

/-- A command that reports success has taken effect. -/
def Outcome.took (o : Outcome) : Bool := o.applied || o.ok

theorem Outcome.took_of_ok {o : Outcome} (h : o.ok = true) : o.took = true := by
  simp [Outcome.took, h]

/-- Where effects are reported, an error means that nothing happened. -/
theorem Outcome.not_took {o : Outcome} (h : o.applied = true → o.ok = true)
    (hok : ¬ o.ok = true) : ¬ o.took = true := by
  intro htook
  simp only [Outcome.took, Bool.or_eq_true] at htook
  exact hok (htook.elim h id)

/-- A command that takes effect, reports success and is recorded. -/
def Outcome.success : Outcome := ⟨true, true, true, []⟩

/-- A command that does nothing and reports an error. -/
def Outcome.error : Outcome := ⟨false, false, true, []⟩

/-- How a run goes on. -/
inductive Next
  | goOn (r : Run)
  | ended (succeeded : Bool)
  | raised
deriving DecidableEq, Repr

/-- Go on at another place. -/
def Run.goTo (r : Run) (pc : Pc) : Next := .goOn { r with pc := pc }

/-- `release_node_upgrade_gate_lock` -/
def releaseLock (lock : Option Nat) (gateId : Nat) : Option Nat :=
  if lock = some gateId then none else lock

/-- What `prepare` does after the flags are set. -/
def afterFlags (g : Gate) : Pc := if g.hasMon then .removeMon else .markPrepared

/-- What `abort` and `recover` do after the monitor is back. -/
def afterRejoin (g : Gate) : Pc := if g.hasOsd then .readClear else .markDone

/-- The first phase that undoes something. -/
def firstUndo (g : Gate) : Pc := if g.hasMon then .rejoin else afterRejoin g

def firstPhase (g : Gate) : GateKind → Pc
  | .prepare => .backup
  | .abort => firstUndo g
  | .recover => .reinstall

/-- What a rollback does after the monitor. -/
def afterRejoinBack (flags : List String) (clean : Bool) : Pc :=
  if flags = [] then .failing clean else .readBack flags clean

/-- `_phase_gate_backup_osd_and_metadata` to `_phase_gate_mark_prepared`. -/
def prepareStep (g : Gate) (s : Site) (r : Run) (o : Outcome) : Site × Next :=
  match r.pc with
  | .backup =>
    (s, r.goTo (if o.ok then (if g.hasOsd then .readFlags else afterFlags g)
      else .rollbackState))
  | .readFlags =>
    (s, r.goTo (if o.ok then
      .setFlags (maintenanceFlags.filter (fun f => !s.live.flags.contains f))
      else .rollbackState))
  | .setFlags [] => (s, r.goTo (afterFlags g))
  | .setFlags (flag :: todo) =>
    let live := if o.took then s.live.setFlag flag else s.live
    if o.ok then
      let added := r.flagsAdded.getD [] ++ [flag]
      let r := { r with flagsAdded := some added }
      if o.stored then
        (⟨live, { s.journal with maintenanceFlagsAdded := added }, s.lock⟩,
          r.goTo (.setFlags todo))
      else (⟨live, s.journal, s.lock⟩, r.goTo .rollbackState)
    else (⟨live, s.journal, s.lock⟩, r.goTo .rollbackState)
  | .removeMon =>
    let live := if o.took then s.live.monRm g.host else s.live
    if o.ok then
      let r := { r with monRemoved := some true }
      if o.stored then
        (⟨live, { s.journal with monRemoved := true }, s.lock⟩,
          r.goTo .checkQuorum)
      else (⟨live, s.journal, s.lock⟩, r.goTo .rollbackState)
    else (⟨live, s.journal, s.lock⟩, r.goTo .rollbackState)
  | .checkQuorum =>
    (s, r.goTo (if o.ok then .markPrepared else .rollbackState))
  | .markPrepared =>
    if o.ok then ({ s with journal := { s.journal with state := .prepared } },
      .ended true)
    else (s, r.goTo .rollbackState)
  | _ => (s, .raised)

/-- `_rollback_failed_prepare`; `clean` says that nothing failed so far.  The
markers are read from memory, or else from the row. -/
def rollbackStep (g : Gate) (s : Site) (r : Run) (o : Outcome) : Site × Next :=
  match r.pc with
  | .rollbackState =>
    if (r.flagsAdded.isSome && r.monRemoved.isSome) || o.ok then
      let flags := r.flagsAdded.getD s.journal.maintenanceFlagsAdded
      if r.monRemoved.getD s.journal.monRemoved then
        (s, r.goTo (.rejoinBack flags))
      else (s, r.goTo (afterRejoinBack flags true))
    else (s, .raised)
  | .rejoinBack flags =>
    let live := if o.took then s.live.rejoinMon g.host else s.live
    if o.ok then
      let r := { r with monRemoved := some false }
      if o.stored then
        (⟨live, { s.journal with monRemoved := false }, s.lock⟩,
          r.goTo (afterRejoinBack flags true))
      else (⟨live, s.journal, s.lock⟩, r.goTo (afterRejoinBack flags false))
    else (⟨live, s.journal, s.lock⟩, r.goTo (afterRejoinBack flags false))
  | .readBack flags clean =>
    (s, r.goTo (if o.ok then
      .unsetBack (flags.filter (fun f => s.live.flags.contains f)) clean
      else .failing false))
  | .unsetBack (flag :: todo) clean =>
    (⟨if o.took then s.live.unsetFlag flag else s.live, s.journal, s.lock⟩,
      r.goTo (if o.ok then .unsetBack todo clean else .failing false))
  | .unsetBack [] clean =>
    let r := { r with flagsAdded := some [] }
    if o.stored then
      ({ s with journal := { s.journal with maintenanceFlagsAdded := [] } },
        r.goTo (.failing clean))
    else (s, r.goTo (.failing false))
  | _ => (s, .raised)

/-- The phases of `node_os_gate_abort` and `node_os_gate_recover`; the phases of
a recovery before the monitor rejoins are one step. -/
def undoStep (pending : Bool) (g : Gate) (s : Site) (r : Run) (o : Outcome) :
    Site × Next :=
  match r.pc with
  | .reinstall => (s, r.goTo (if o.ok then firstUndo g else .failing true))
  | .rejoin =>
    (⟨if o.took then s.live.rejoinMon g.host else s.live, s.journal, s.lock⟩,
      r.goTo (if o.ok then afterRejoin g else .failing true))
  | .readClear =>
    let recorded := r.flagsAdded.getD s.journal.maintenanceFlagsAdded
    let flags := if r.kind = .abort then recorded else maintenanceFlags
    if ¬ o.stored then (s, r.goTo (.failing true))
    else if flags = [] ∨ pending then (s, r.goTo .markDone)
    else if o.ok then
      (s, r.goTo (.unsetClear (flags.filter (fun f => s.live.flags.contains f))))
    else (s, r.goTo (.failing true))
  | .unsetClear [] =>
    if r.kind = .abort then
      if o.stored then
        ({ s with journal := { s.journal with maintenanceFlagsAdded := [] } },
          { r with flagsAdded := some [] }.goTo .markDone)
      else (s, r.goTo (.failing true))
    else (s, r.goTo .markDone)
  | .unsetClear (flag :: todo) =>
    if r.kind = .abort then
      (⟨if o.took then s.live.unsetFlag flag else s.live, s.journal, s.lock⟩,
        r.goTo (if o.ok then .unsetClear todo else .failing true))
    else
      (⟨s.live.unsetFlags (o.cleared.filter (fun f => (flag :: todo).contains f)),
        s.journal, s.lock⟩,
        r.goTo (if o.ok then .markDone else .failing true))
  | .markDone =>
    if o.ok then
      (⟨s.live, { s.journal with state := .done }, releaseLock s.lock g.id⟩,
        .ended true)
    else (s, r.goTo (.failing true))
  | _ => (s, .raised)

/-- `_fail_node_upgrade_gate`; it swallows its own errors. -/
def failStep (g : Gate) (s : Site) (o : Outcome) (release : Bool) : Site × Next :=
  if o.stored = true ∧ s.journal.state.terminal = false then
    (⟨s.live, { s.journal with state := .failed },
      if release then releaseLock s.lock g.id else s.lock⟩, .ended false)
  else (s, .ended false)

/-- The next command or transaction of a run. -/
def runStep (pending : Bool) (g : Gate) (s : Site) (r : Run) (o : Outcome) :
    Site × Next :=
  match r.pc with
  | .resolve =>
    (s, r.goTo (if o.ok then firstPhase g r.kind else .failing true))
  | .backup | .readFlags | .setFlags _ | .removeMon | .checkQuorum
  | .markPrepared => prepareStep g s r o
  | .rollbackState | .rejoinBack _ | .readBack .. | .unsetBack .. =>
    rollbackStep g s r o
  | .reinstall | .rejoin | .readClear | .unsetClear _ | .markDone =>
    undoStep pending g s r o
  | .failing release => failStep g s o release

/-! ## What a command leaves alone -/

/-- The places of each kind of run on a gate. -/
def Pc.fits (g : Gate) : Pc → GateKind → Prop
  | .resolve, _ | .failing _, _ => True
  | .readFlags, k | .setFlags _, k => k = .prepare ∧ g.hasOsd = true
  | .removeMon, k | .checkQuorum, k => k = .prepare ∧ g.hasMon = true
  | .backup, k | .markPrepared, k | .rollbackState, k | .rejoinBack _, k
  | .readBack .., k | .unsetBack .., k => k = .prepare
  | .reinstall, k | .markDone, k => k ≠ .prepare
  | .rejoin, k => k ≠ .prepare ∧ g.hasMon = true
  | .readClear, k | .unsetClear _, k => k ≠ .prepare ∧ g.hasOsd = true

variable {g : Gate}

variable {pc : Pc}

theorem Pc.fits_of_roles {g' : Gate} (h : g'.roles = g.roles) (hfits : pc.fits g k) :
    pc.fits g' k := by
  have hmon : g'.hasMon = g.hasMon := by rw [Gate.hasMon, Gate.hasMon, h]
  have hosd : g'.hasOsd = g.hasOsd := by rw [Gate.hasOsd, Gate.hasOsd, h]
  cases pc <;> simp only [Pc.fits, hmon, hosd] at hfits ⊢ <;> exact hfits

/-- The places that only a preparation comes to, up to its end. -/
def Pc.prepares : Pc → Bool
  | .readFlags | .setFlags _ | .removeMon | .checkQuorum | .backup | .markPrepared => true
  | _ => false

theorem Pc.fits_prepare (hfits : pc.fits g k) (hpc : pc.prepares = true) : pc.fits g .prepare := by
  cases pc with
  | readFlags | setFlags _ | removeMon | checkQuorum => exact ⟨rfl, hfits.2⟩
  | backup | markPrepared => rfl
  | _ => cases hpc

/-- A run goes on with its own Action and leaves the gate's state; the lock is
released only with a gate that ends. -/
structure Framed (g : Gate) (s : Site) (r : Run) (s' : Site) (next : Next) :
    Prop where
  goesOn : ∀ r', next = .goOn r' →
    r'.action = r.action ∧ r'.gateId = r.gateId ∧ r'.kind = r.kind ∧
      r'.pc.fits g r'.kind ∧ s'.journal.state = s.journal.state
  state : s'.journal.state = s.journal.state ∨
    (s'.journal.state = .prepared ∧ r.kind = .prepare) ∨
    s'.journal.state.terminal = true
  lock : s'.lock = s.lock ∨
    (s'.lock = releaseLock s.lock g.id ∧ s'.journal.state.terminal = true)

theorem framed_goTo {s s' : Site} {r r' : Run} (haction : r'.action = r.action)
    (hgate : r'.gateId = r.gateId) (hkind : r'.kind = r.kind) (hfits : pc.fits g r.kind)
    (hstate : s'.journal.state = s.journal.state) (hlock : s'.lock = s.lock) :
    Framed g s r s' (r'.goTo pc) where
  goesOn := by
    intro r'' h
    simp only [Run.goTo, Next.goOn.injEq] at h
    subst h
    exact ⟨haction, hgate, hkind, hkind ▸ hfits, hstate⟩
  state := Or.inl hstate
  lock := Or.inl hlock

theorem framed_stop {s s' : Site} {r : Run} {next : Next} (hstop : ∀ r', next ≠ .goOn r')
    (hstate : s'.journal.state = s.journal.state ∨
      (s'.journal.state = .prepared ∧ r.kind = .prepare) ∨
      s'.journal.state.terminal = true)
    (hlock : s'.lock = s.lock ∨
      (s'.lock = releaseLock s.lock g.id ∧ s'.journal.state.terminal = true)) :
    Framed g s r s' next where
  goesOn := fun r' h => absurd h (hstop r')
  state := hstate
  lock := hlock

section

variable (g : Gate)

private theorem framed_raised (s : Site) (r : Run) :
    Framed g s r s .raised :=
  framed_stop (by simp) (Or.inl rfl) (Or.inl rfl)

theorem fits_afterFlags : (afterFlags g).fits g .prepare := by
  unfold afterFlags
  split_ifs with hmon
  · exact ⟨rfl, hmon⟩
  · rfl

theorem fits_afterRejoin (h : k ≠ .prepare) : (afterRejoin g).fits g k := by
  unfold afterRejoin
  split_ifs with hosd
  · exact ⟨h, hosd⟩
  · exact h

theorem fits_firstUndo (h : k ≠ .prepare) : (firstUndo g).fits g k := by
  unfold firstUndo
  split_ifs with hmon
  · exact ⟨h, hmon⟩
  · exact fits_afterRejoin g h

theorem fits_firstPhase (k : GateKind) : (firstPhase g k).fits g k := by
  cases k with
  | prepare => rfl
  | abort => exact fits_firstUndo g (by simp)
  | recover => simp [firstPhase, Pc.fits]

theorem fits_afterRejoinBack (flags : List String) (clean : Bool) :
    (afterRejoinBack flags clean).fits g .prepare := by
  unfold afterRejoinBack
  split_ifs
  · trivial
  · rfl

theorem prepareStep_frame (s : Site) (r : Run) (o : Outcome)
    (hkind : r.kind = .prepare) (hfits : r.pc.fits g .prepare) :
    Framed g s r (prepareStep g s r o).1 (prepareStep g s r o).2 := by
  have hflags := fits_afterFlags g
  have hrollback : Pc.rollbackState.fits g .prepare := rfl
  rw [← hkind] at hflags hrollback
  unfold prepareStep
  cases hpc : r.pc with
  | backup =>
    refine framed_goTo rfl rfl rfl ?_ rfl rfl
    split_ifs with _ hosd
    · exact ⟨hkind, hosd⟩
    · exact hflags
    · exact hrollback
  | readFlags =>
    rw [hpc] at hfits
    refine framed_goTo rfl rfl rfl ?_ rfl rfl
    split_ifs
    · exact ⟨hkind, hfits.2⟩
    · exact hrollback
  | setFlags todo =>
    rw [hpc] at hfits
    cases todo with
    | nil => exact framed_goTo rfl rfl rfl hflags rfl rfl
    | cons flag todo =>
      dsimp only
      split_ifs
      all_goals first
        | exact framed_goTo rfl rfl rfl hrollback rfl rfl
        | exact framed_goTo rfl rfl rfl ⟨hkind, hfits.2⟩ rfl rfl
  | removeMon =>
    rw [hpc] at hfits
    dsimp only
    split_ifs
    all_goals first
      | exact framed_goTo rfl rfl rfl hrollback rfl rfl
      | exact framed_goTo rfl rfl rfl ⟨hkind, hfits.2⟩ rfl rfl
  | checkQuorum =>
    refine framed_goTo rfl rfl rfl ?_ rfl rfl
    split_ifs
    · exact hkind
    · exact hrollback
  | markPrepared =>
    dsimp only
    split_ifs
    · exact framed_stop (by simp) (Or.inr (Or.inl ⟨rfl, hkind⟩)) (Or.inl rfl)
    · exact framed_goTo rfl rfl rfl hrollback rfl rfl
  | _ => exact framed_raised g s r

theorem rollbackStep_frame (s : Site) (r : Run) (o : Outcome) (hkind : r.kind = .prepare) :
    Framed g s r (rollbackStep g s r o).1 (rollbackStep g s r o).2 := by
  have hback : ∀ flags clean, (afterRejoinBack flags clean).fits g r.kind := by
    intro flags clean
    rw [hkind]
    exact fits_afterRejoinBack g flags clean
  unfold rollbackStep
  cases hpc : r.pc with
  | rollbackState =>
    dsimp only
    split_ifs
    · exact framed_goTo rfl rfl rfl hkind rfl rfl
    · exact framed_goTo rfl rfl rfl (hback _ _) rfl rfl
    · exact framed_raised g s r
  | rejoinBack flags =>
    dsimp only
    split_ifs
    all_goals exact framed_goTo rfl rfl rfl (hback _ _) rfl rfl
  | readBack flags clean =>
    refine framed_goTo rfl rfl rfl ?_ rfl rfl
    split_ifs
    · exact hkind
    · trivial
  | unsetBack todo clean =>
    cases todo with
    | nil =>
      dsimp only
      split_ifs
      all_goals exact framed_goTo rfl rfl rfl trivial rfl rfl
    | cons flag todo =>
      dsimp only
      refine framed_goTo rfl rfl rfl ?_ rfl rfl
      split_ifs
      · exact hkind
      · trivial
  | _ => exact framed_raised g s r

end

theorem undoStep_frame (pending : Bool) (g : Gate) (s : Site) (r : Run)
    (o : Outcome) (hkind : r.kind ≠ .prepare) (hfits : r.pc.fits g r.kind) :
    Framed g s r (undoStep pending g s r o).1 (undoStep pending g s r o).2 := by
  unfold undoStep
  cases hpc : r.pc with
  | reinstall =>
    refine framed_goTo rfl rfl rfl ?_ rfl rfl
    split_ifs
    · exact fits_firstUndo g hkind
    · trivial
  | rejoin =>
    refine framed_goTo rfl rfl rfl ?_ rfl rfl
    split_ifs
    · exact fits_afterRejoin g hkind
    · trivial
  | readClear =>
    rw [hpc] at hfits
    dsimp only
    by_cases hstored : o.stored = true
    · rw [if_neg (by simp [hstored])]
      split_ifs
      · exact framed_goTo rfl rfl rfl hkind rfl rfl
      · exact framed_goTo rfl rfl rfl hfits rfl rfl
      · exact framed_goTo rfl rfl rfl trivial rfl rfl
      · exact framed_goTo rfl rfl rfl hkind rfl rfl
      · exact framed_goTo rfl rfl rfl hfits rfl rfl
      · exact framed_goTo rfl rfl rfl trivial rfl rfl
    · rw [if_pos hstored]
      exact framed_goTo rfl rfl rfl trivial rfl rfl
  | unsetClear todo =>
    rw [hpc] at hfits
    cases todo with
    | nil =>
      dsimp only
      split_ifs
      · exact framed_goTo rfl rfl rfl hkind rfl rfl
      · exact framed_goTo rfl rfl rfl trivial rfl rfl
      · exact framed_goTo rfl rfl rfl hkind rfl rfl
    | cons flag todo =>
      dsimp only
      by_cases habort : r.kind = .abort
      · rw [if_pos habort]
        refine framed_goTo rfl rfl rfl ?_ rfl rfl
        split_ifs
        · exact hfits
        · trivial
      · rw [if_neg habort]
        refine framed_goTo rfl rfl rfl ?_ rfl rfl
        split_ifs
        · exact hkind
        · trivial
  | markDone =>
    dsimp only
    split_ifs
    · exact framed_stop (by simp) (Or.inr (Or.inr rfl)) (Or.inr ⟨rfl, rfl⟩)
    · exact framed_goTo rfl rfl rfl trivial rfl rfl
  | _ => exact framed_raised g s r

theorem failStep_frame (g : Gate) (s : Site) (r : Run) (o : Outcome) (release : Bool) :
    Framed g s r (failStep g s o release).1 (failStep g s o release).2 := by
  unfold failStep
  split_ifs
  · exact framed_stop (by simp) (Or.inr (Or.inr rfl)) (Or.inr ⟨rfl, rfl⟩)
  · exact framed_stop (by simp) (Or.inr (Or.inr rfl)) (Or.inl rfl)
  · exact framed_stop (by simp) (Or.inl rfl) (Or.inl rfl)

/-- **Frame lemma.**  What every command or transaction of a run leaves
alone. -/
theorem runStep_frame (pending : Bool) (g : Gate) (s : Site) (r : Run)
    (o : Outcome) (hfits : r.pc.fits g r.kind) :
    Framed g s r (runStep pending g s r o).1 (runStep pending g s r o).2 := by
  unfold runStep
  cases hpc : r.pc with
  | resolve =>
    refine framed_goTo rfl rfl rfl ?_ rfl rfl
    split_ifs
    · exact fits_firstPhase g r.kind
    · trivial
  | backup | markPrepared =>
    have hkind : r.kind = .prepare := by
      rw [hpc] at hfits
      exact hfits
    exact prepareStep_frame g s r o hkind (hkind ▸ hfits)
  | readFlags | setFlags _ | removeMon | checkQuorum =>
    have hkind : r.kind = .prepare := by
      rw [hpc] at hfits
      exact hfits.1
    exact prepareStep_frame g s r o hkind (hkind ▸ hfits)
  | rollbackState | rejoinBack _ | readBack _ _ | unsetBack _ _ =>
    rw [hpc] at hfits
    exact rollbackStep_frame g s r o hfits
  | reinstall | markDone =>
    have hkind : r.kind ≠ .prepare := by
      rw [hpc] at hfits
      exact hfits
    exact undoStep_frame pending g s r o hkind hfits
  | rejoin | readClear | unsetClear _ =>
    have hkind : r.kind ≠ .prepare := by
      rw [hpc] at hfits
      exact hfits.1
    exact undoStep_frame pending g s r o hkind hfits
  | failing release => exact failStep_frame g s r o release

end CephAi.Ports.NodeOsGate
