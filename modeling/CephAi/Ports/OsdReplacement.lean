import CephAi.Ports.NodeRemoval
import Mathlib.Algebra.BigOperators.Group.List.Lemmas

/-!
# Replacing a failed OSD

`osd_replacement`: `replace_failed_osd` looks at the cluster in one phase and
removes the OSD in the next.  An OSD that was up is drained through cephadm; one
that was down is destroyed directly, when every placement group is active.

A placement group none of whose OSDs is up is reported with the last state it
was in, preceded by `stale`; one that cannot serve is reported without `active`.
The cluster can change between the phases, and commands can fail in either.

## Main results

* `inactivePgs_eq` — the count is that of the groups reported without `active`.
* `destroyed_safely_iff` — a run destroys only an OSD that is down while every
  group is served exactly when an OSD it destroys has not come back, and no
  group has lost all its OSDs while it was active.
* `destroys_without_copies` — a run that destroys an OSD that is back up, and one
  that destroys while a group has no OSD up.
-/

namespace CephAi.Ports.OsdReplacement

open Verified NodeRemoval

/-! ## The cluster -/

/-- An OSD of `ceph osd tree`. -/
structure OsdNode where
  id : Int
  status : String
deriving DecidableEq

/-- `ceph osd metadata` -/
structure OsdMetadata where
  hostname : Option String
  devices : Option String

/-- A placement group: its OSDs, the state it was last in, and whether it serves
I/O. -/
structure Pg where
  osds : List Int
  lastState : String
  serves : Bool
deriving DecidableEq

/-- `"active" in name.split("+")` -/
def isActive (name : String) : Bool :=
  (name.toList.splitOn '+').contains "active".toList

def osdNode (osds : List OsdNode) (id : Int) : Option OsdNode :=
  osds.find? (fun n => n.id == id)

def isUp (osds : List OsdNode) (id : Int) : Bool :=
  (osdNode osds id).any (fun n => n.status == "up")

/-- An OSD of the group is up. -/
def Pg.anyUp (osds : List OsdNode) (pg : Pg) : Bool :=
  pg.osds.any (isUp osds)

/-- The state that is reported of a group. -/
def Pg.state (osds : List OsdNode) (pg : Pg) : String :=
  if pg.anyUp osds then pg.lastState else "stale+" ++ pg.lastState

/-- The cluster.  A group with an OSD up that does not serve is not active. -/
structure Ceph where
  health : Option String
  osds : List OsdNode
  hostChildren : List (List Int)
  metadata : Int → OsdMetadata
  poolSizes : List (Option Nat)
  df : List DfNode
  nearfullRatio : Option Ratio
  pgs : List Pg
  daemons : List String
  active_serves : ∀ pg ∈ pgs, pg.anyUp osds = true → isActive pg.lastState = true →
    pg.serves = true

/-- Every group has an OSD up that serves it. -/
def AllServed (c : Ceph) : Prop :=
  ∀ pg ∈ c.pgs, pg.anyUp c.osds = true ∧ pg.serves = true

/-- The commands of a removal that change the cluster. -/
inductive Command
  | osdRmReplace (osd : Int)
  | osdRmStop (osd : Int)
  | daemonRm (osd : Int)
  | osdDestroy (osd : Int)
deriving DecidableEq

/-- The command as it is issued. -/
def Command.text : Command → String
  | .osdRmReplace osd => "ceph orch osd rm " ++ toString osd ++ " --replace"
  | .osdRmStop osd => "ceph orch osd rm stop " ++ toString osd
  | .daemonRm osd => "ceph orch daemon rm osd." ++ toString osd ++ " --force"
  | .osdDestroy osd =>
    "ceph osd destroy " ++ toString osd ++ " --yes-i-really-mean-it"

/-- The OSD that a removal of its daemon, or of itself, is about. -/
def Command.destroys : Command → Option Int
  | .daemonRm osd => some osd
  | .osdDestroy osd => some osd
  | _ => none

/-- A command and the cluster it is issued on. -/
structure Issued where
  cluster : Ceph
  command : Command

/-- What the removal of an OSD's daemon does; one that does not run leaves the
cluster as it is. -/
structure DaemonRemoval where
  apply : Ceph → Int → Ceph
  apply_of_down : ∀ c osd, isUp c.osds osd = false → apply c osd = c

/-- Why a phase fails. -/
inductive OsdError
  | command (e : Error)
  | noOsdId
  | negativeOsdId
  | healthErr
  | notInTree (osd : Int)
  | alreadyDestroyed (osd : Int)
  | noDevice (osd : Int) (devices : List String)
  | hostsLeft (osd : Int) (otherHosts needed : Nat)
  | capacity (moving free : Nat) (usedAfter nearfull : ℚ)
  | inactive (count osd : Int)
deriving DecidableEq

/-! ## `phase_preflight` -/

/-- A command on a monitor of the cluster. -/
def onMon {α : Type} (config : Cluster) (command : String) (output : α) :
    Except OsdError α :=
  match ceph config [] command output with
  | .error e => .error (.command e)
  | .ok x => .ok x

/-- `if c: raise e` -/
def failIf (c : Prop) [Decidable c] (e : OsdError) : Except OsdError Unit :=
  if c then .error e else .ok ()

/-- `_osd_id`; no id is one that is missing or no number. -/
def osdId (raw : Option Int) : Except OsdError Int := do
  match raw with
  | none => throw .noOsdId
  | some id =>
    failIf (id < 0) .negativeOsdId
    return id

def otherHosts (c : Ceph) (osd : Int) : Nat :=
  (c.hostChildren.filter (fun children => children.any (· != osd))).length

def checkRedundancy (fl : Double) (config : Cluster) (c : Ceph) (osd : Int)
    (up : Bool) : Except OsdError Unit := do
  let hosts ← onMon config "ceph osd tree" (otherHosts c osd)
  let pools ← onMon config "ceph osd pool ls detail" c.poolSizes
  failIf (up = true ∧ hosts < largestPool pools)
    (.hostsLeft osd hosts (largestPool pools))
  if up = false then
    return
  else
    let df ← onMon config "ceph osd df" c.df
    let moving := usedKb (movingNodes df [osd])
    let free := availKb (restNodes df [osd])
    let dump ← onMon config "ceph osd dump" c.nearfullRatio
    failIf
      ((free : ℚ) < fl.round (fl.round moving * fl.round capacityMargin) ∨
        fl.round (nearfull fl dump - fl.round nearfullHeadroom) <
          usedAfter fl df [osd])
      (.capacity moving free (usedAfter fl df [osd]) (nearfull fl dump))

/-- `params["_hostname"]`, `params["_device"]` and `params["_was_up"]`. -/
structure Preflight where
  hostname : String
  device : String
  wasUp : Bool
deriving DecidableEq

/-- The disks of the OSD. -/
def deviceNames (m : OsdMetadata) : List String :=
  (((m.devices.getD "").toList.splitOn ',').filter (· ≠ [])).map String.ofList

/-- `phase_preflight` -/
def osdPreflight (fl : Double) (config : Cluster) (c : Ceph) (raw : Option Int) :
    Except OsdError Preflight := do
  let osd ← osdId raw
  let health ← onMon config "ceph health" c.health
  failIf (health = some "HEALTH_ERR") .healthErr
  let osds ← onMon config "ceph osd tree" c.osds
  match osdNode osds osd with
  | none => throw (.notInTree osd)
  | some node =>
    failIf (node.status = "destroyed") (.alreadyDestroyed osd)
    let m ← onMon config ("ceph osd metadata " ++ toString osd) (c.metadata osd)
    match m.hostname.getD "", deviceNames m with
    | hostname, [device] =>
      failIf (hostname = "") (.noDevice osd [device])
      checkRedundancy fl config c osd (node.status == "up")
      return ⟨hostname, "/dev/" ++ device, node.status == "up"⟩
    | _, devices => throw (.noDevice osd devices)

/-! ## `phase_remove` -/

/-- `num_pg_by_state`: every state that is reported, with its groups. -/
def numPgByState (c : Ceph) : List (String × Nat) :=
  let states := c.pgs.map (Pg.state c.osds)
  states.dedup.map (fun name => (name, states.count name))

def inactivePgs (config : Cluster) (c : Ceph) : Except OsdError Int := do
  let summary ← onMon config "ceph pg stat" (c.pgs.length, numPgByState c)
  let active :=
    ((summary.2.filter (fun item => isActive item.1)).map Prod.snd).sum
  return (summary.1 : Int) - active

/-- `_destroy_failed_osd`: the commands it issues, and how it ends. -/
def destroyFailedOsd (config : Cluster) (removal : DaemonRemoval) (c : Ceph)
    (osd : Int) : List Issued × Except OsdError Unit :=
  match inactivePgs config c with
  | .error e => ([], .error e)
  | .ok inactive =>
    if inactive ≠ 0 then ([], .error (.inactive inactive osd))
    else
      match onMon config "ceph orch ps --daemon_type osd" c.daemons with
      | .error e => ([⟨c, .osdRmStop osd⟩], .error e)
      | .ok daemons =>
        if daemons.contains ("osd." ++ toString osd) then
          match onMon config (Command.daemonRm osd).text () with
          | .error e => ([⟨c, .osdRmStop osd⟩, ⟨c, .daemonRm osd⟩], .error e)
          | .ok _ =>
            ([⟨c, .osdRmStop osd⟩, ⟨c, .daemonRm osd⟩,
              ⟨removal.apply c osd, .osdDestroy osd⟩],
              onMon config (Command.osdDestroy osd).text ())
        else
          ([⟨c, .osdRmStop osd⟩, ⟨c, .osdDestroy osd⟩],
            onMon config (Command.osdDestroy osd).text ())

/-- `phase_remove` -/
def osdRemove (config : Cluster) (removal : DaemonRemoval) (c : Ceph) (osd : Int)
    (wasUp : Bool) : List Issued × Except OsdError Unit :=
  if wasUp = false then destroyFailedOsd config removal c osd
  else ([⟨c, .osdRmReplace osd⟩], onMon config (Command.osdRmReplace osd).text ())

def replaceFailedOsd (fl : Double) (config₁ config₂ : Cluster)
    (removal : DaemonRemoval) (c₁ c₂ : Ceph) (raw : Option Int) :
    List Issued × Except OsdError Unit :=
  match osdPreflight fl config₁ c₁ raw, osdId raw with
  | .ok p, .ok osd => osdRemove config₂ removal c₂ osd p.wasUp
  | .error e, _ => ([], .error e)
  | _, .error e => ([], .error e)

/-! ## What the count says -/

theorem isActive_stale (name : String) : isActive ("stale+" ++ name) = isActive name := by
  have happend : ("stale+" ++ name).toList =
      "stale".toList ++ '+' :: name.toList := by
    rw [String.toList_append]
    rfl
  have hplus : '+' ∉ "stale".toList := by decide
  unfold isActive
  rw [happend, List.splitOn_append_cons_self_of_not_mem hplus,
    List.contains_cons]
  rfl

theorem isActive_state (osds : List OsdNode) (pg : Pg) :
    isActive (pg.state osds) = isActive pg.lastState := by
  unfold Pg.state
  cases pg.anyUp osds with
  | true => rfl
  | false => exact isActive_stale pg.lastState

theorem sum_active (c : Ceph) :
    (((numPgByState c).filter (fun item => isActive item.1)).map Prod.snd).sum =
      c.pgs.countP (fun pg => isActive pg.lastState) := by
  have hcount := List.sum_map_count_dedup_filter_eq_countP isActive
    (c.pgs.map (Pg.state c.osds))
  rw [List.countP_map] at hcount
  simp only [Function.comp_def, isActive_state] at hcount
  rw [← hcount, numPgByState, List.filter_map, List.map_map]
  rfl

variable {c : Ceph} {config : Cluster}

theorem onMon_ok {α : Type} {command : String} {output x : α}
    (h : onMon config command output = .ok x) : x = output := by
  unfold onMon at h
  cases hceph : ceph config [] command output with
  | error e =>
    rw [hceph] at h
    cases h
  | ok y =>
    rw [hceph] at h
    rw [← Except.ok.inj h]
    exact ceph_ok hceph

theorem inactivePgs_eq {count : Int} (h : inactivePgs config c = .ok count) :
    count = c.pgs.countP (fun pg => !isActive pg.lastState) := by
  unfold inactivePgs at h
  cases hstat : onMon config "ceph pg stat" (c.pgs.length, numPgByState c) with
  | error e =>
    rw [hstat] at h
    cases h
  | ok summary =>
    have heq := onMon_ok hstat
    rw [hstat, heq] at h
    have hcount := Except.ok.inj h
    have hsum := sum_active c
    have hsplit := List.length_eq_countP_add_countP
      (l := c.pgs) (fun pg => isActive pg.lastState)
    simp only [Bool.not_eq_true, Bool.decide_eq_false] at hsplit
    simp only at hcount
    omega

theorem inactivePgs_eq_zero_iff {count : Int} (h : inactivePgs config c = .ok count) :
    count = 0 ↔ ∀ pg ∈ c.pgs, isActive pg.lastState = true := by
  have hcount := inactivePgs_eq h
  have hzero : count = 0 ↔
      c.pgs.countP (fun pg => !isActive pg.lastState) = 0 := by omega
  rw [hzero, List.countP_eq_zero]
  constructor
  · intro hall pg hpg
    simpa using hall pg hpg
  · intro hall pg hpg
    simpa using hall pg hpg

theorem allServed_iff (hactive : ∀ pg ∈ c.pgs, isActive pg.lastState = true) :
    AllServed c ↔ ∀ pg ∈ c.pgs, pg.anyUp c.osds = true := by
  constructor
  · intro h pg hpg
    exact (h pg hpg).1
  · intro h pg hpg
    exact ⟨h pg hpg, c.active_serves pg hpg (h pg hpg) (hactive pg hpg)⟩

/-! ## When a run destroys safely -/

section Safety

variable {fl : Double} {config config₁ config₂ : Cluster}
  {removal : DaemonRemoval} {c c₁ c₂ : Ceph} {raw : Option Int} {osd : Int}

/-- Every command that removes a daemon or an OSD is issued while the OSD is
down and every group is served. -/
def DestroysSafely (log : List Issued) : Prop :=
  ∀ e ∈ log, ∀ osd, e.command.destroys = some osd →
    isUp e.cluster.osds osd = false ∧ AllServed e.cluster

/-- The commands that look at the cluster succeed and every group is reported
active. -/
structure ChecksPass (config : Cluster) (c : Ceph) : Prop where
  counts : ∃ count, inactivePgs config c = .ok count
  active : ∀ pg ∈ c.pgs, isActive (pg.state c.osds) = true
  lists : onMon config "ceph orch ps --daemon_type osd" c.daemons = .ok c.daemons

/-- The preflight passes and finds the OSD down, and the removal goes ahead. -/
def DestroyReached (fl : Double) (config₁ config₂ : Cluster) (c₁ c₂ : Ceph)
    (raw : Option Int) (osd : Int) : Prop :=
  osdId raw = .ok osd ∧
    (∃ p, osdPreflight fl config₁ c₁ raw = .ok p ∧ p.wasUp = false) ∧
    ChecksPass config₂ c₂

/-- The OSD has not come back, and no group lost all its OSDs while it was
active. -/
def StillDown (c : Ceph) (osd : Int) : Prop :=
  isUp c.osds osd = false ∧
    ∀ pg ∈ c.pgs, isActive pg.lastState = true → pg.anyUp c.osds = true

theorem active_iff : (∀ pg ∈ c.pgs, isActive (pg.state c.osds) = true) ↔
    ∀ pg ∈ c.pgs, isActive pg.lastState = true := by
  simp only [isActive_state]

theorem destroyFailedOsd_of_not (h : ¬ ChecksPass config c) :
    ∀ e ∈ (destroyFailedOsd config removal c osd).1,
      e.command.destroys = none := by
  intro e he
  unfold destroyFailedOsd at he
  cases hcount : inactivePgs config c with
  | error error =>
    rw [hcount] at he
    cases he
  | ok count =>
    simp only [hcount] at he
    by_cases hzero : count = 0
    · rw [if_neg (not_not.mpr hzero)] at he
      cases hps : onMon config "ceph orch ps --daemon_type osd" c.daemons with
      | error error =>
        simp only [hps, List.mem_singleton] at he
        subst he
        rfl
      | ok daemons =>
        exfalso
        have heq := onMon_ok hps
        subst heq
        have hactive := (inactivePgs_eq_zero_iff hcount).mp hzero
        exact h ⟨⟨count, hcount⟩, active_iff.mpr hactive, hps⟩
    · rw [if_pos hzero] at he
      cases he

theorem destroyFailedOsd_of (h : ChecksPass config c) :
    (∃ e ∈ (destroyFailedOsd config removal c osd).1,
      e.cluster = c ∧ e.command.destroys = some osd) ∧
    ∀ e ∈ (destroyFailedOsd config removal c osd).1,
      (e.cluster = c ∨ e.cluster = removal.apply c osd) ∧
        ∀ id, e.command.destroys = some id → id = osd := by
  obtain ⟨count, hcount⟩ := h.counts
  have hzero := (inactivePgs_eq_zero_iff hcount).mpr (active_iff.mp h.active)
  have hps := h.lists
  unfold destroyFailedOsd
  simp only [hcount, hps, if_neg (not_not.mpr hzero)]
  by_cases hdaemon : c.daemons.contains ("osd." ++ toString osd) = true
  · rw [if_pos hdaemon]
    cases onMon config (Command.daemonRm osd).text () with
    | error | ok => simp [Command.destroys]
  · rw [if_neg hdaemon]
    simp [Command.destroys]

theorem down_and_served_of_reached (h : DestroyReached fl config₁ config₂ c₁ c₂ raw osd)
    (hsafe : DestroysSafely (replaceFailedOsd fl config₁ config₂ removal c₁ c₂ raw).1) :
    isUp c₂.osds osd = false ∧ AllServed c₂ := by
  obtain ⟨hosd, ⟨p, hpre, hdown⟩, hchecks⟩ := h
  have hdestroys := @destroyFailedOsd_of config₂ removal c₂ osd hchecks
  obtain ⟨e, he, hcluster, hid⟩ := hdestroys.1
  have hlog : e ∈
      (replaceFailedOsd fl config₁ config₂ removal c₁ c₂ raw).1 := by
    simp only [replaceFailedOsd, hpre, hosd, osdRemove, if_pos hdown]
    exact he
  have hsafe' := hsafe e hlog osd hid
  rw [hcluster] at hsafe'
  exact hsafe'

theorem destroysSafely_osdRemove {p : Preflight}
    (hdown : DestroyReached fl config₁ config₂ c₁ c₂ raw osd → StillDown c₂ osd)
    (hosd : osdId raw = .ok osd) (hpre : osdPreflight fl config₁ c₁ raw = .ok p) :
    DestroysSafely (osdRemove config₂ removal c₂ osd p.wasUp).1 := by
  intro e he id hdestroys
  unfold osdRemove at he
  by_cases hup : p.wasUp = false
  · rw [if_pos hup] at he
    by_cases hchecks : ChecksPass config₂ c₂
    · obtain ⟨hoff, halive⟩ := hdown ⟨hosd, ⟨p, hpre, hup⟩, hchecks⟩
      obtain ⟨hcluster, hid⟩ := (destroyFailedOsd_of hchecks).2 e he
      rw [removal.apply_of_down c₂ osd hoff, or_self] at hcluster
      have hactive := active_iff.mp hchecks.active
      have hserved := (allServed_iff hactive).mpr
        (fun pg hpg => halive pg hpg (hactive pg hpg))
      rw [hcluster, hid id hdestroys]
      exact ⟨hoff, hserved⟩
    · rw [destroyFailedOsd_of_not hchecks e he] at hdestroys
      cases hdestroys
  · rw [if_neg hup, List.mem_singleton] at he
    subst he
    cases hdestroys

/-- **When a run destroys safely.**  The removals of a daemon and of an OSD come
only while the OSD is down and every group is served, exactly when an OSD that
the preflight found down, and whose removal goes ahead, is still down then, and
no group lost all its OSDs while it was active. -/
theorem destroyed_safely_iff (fl : Double) (config₁ config₂ : Cluster)
    (removal : DaemonRemoval) (c₁ c₂ : Ceph) (raw : Option Int) :
    DestroysSafely (replaceFailedOsd fl config₁ config₂ removal c₁ c₂ raw).1 ↔
      ∀ osd, DestroyReached fl config₁ config₂ c₁ c₂ raw osd →
        StillDown c₂ osd := by
  constructor
  · intro hsafe osd hreached
    obtain ⟨hoff, hserved⟩ := down_and_served_of_reached hreached hsafe
    exact ⟨hoff, fun pg hpg _ => (hserved pg hpg).1⟩
  · intro hdown e he id hdestroys
    unfold replaceFailedOsd at he
    cases hpre : osdPreflight fl config₁ c₁ raw with
    | error error =>
      simp only [hpre] at he
      cases he
    | ok p =>
      cases hosd : osdId raw with
      | error error =>
        simp only [hpre, hosd] at he
        cases he
      | ok osd =>
        simp only [hpre, hosd] at he
        exact destroysSafely_osdRemove (hdown osd) hosd hpre e he id
          hdestroys

end Safety

/-! ## Runs that destroy too much -/

/-- Every OSD with this id is down. -/
def markDown (osds : List OsdNode) (osd : Int) : List OsdNode :=
  osds.map (fun n => if n.id = osd then { n with status := "down" } else n)

theorem isUp_of_markDown {osds : List OsdNode} {osd id : Int}
    (h : isUp (markDown osds osd) id = true) : isUp osds id = true := by
  induction osds with
  | nil => exact h
  | cons n osds ih =>
    simp only [isUp, osdNode, markDown, List.map_cons, List.find?_cons]
      at ih h ⊢
    by_cases hid : n.id = osd
    · rw [if_pos hid] at h
      cases hn : n.id == id with
      | true => simp [hn] at h
      | false =>
        simp only [hn] at h ⊢
        exact ih h
    · rw [if_neg hid] at h
      cases hn : n.id == id with
      | true =>
        simp only [hn] at h ⊢
        exact h
      | false =>
        simp only [hn] at h ⊢
        exact ih h

def stopDaemon (c : Ceph) (osd : Int) : Ceph where
  health := c.health
  osds := markDown c.osds osd
  hostChildren := c.hostChildren
  metadata := c.metadata
  poolSizes := c.poolSizes
  df := c.df
  nearfullRatio := c.nearfullRatio
  pgs := c.pgs
  daemons := c.daemons.filter (· != "osd." ++ toString osd)
  active_serves := by
    intro pg hpg hup hactive
    apply c.active_serves pg hpg _ hactive
    unfold Pg.anyUp at hup ⊢
    obtain ⟨id, hid, hon⟩ := List.any_eq_true.mp hup
    exact List.any_eq_true.mpr ⟨id, hid, isUp_of_markDown hon⟩

/-- The removal of a daemon that runs stops it. -/
def stopRunning : DaemonRemoval where
  apply c osd := if isUp c.osds osd then stopDaemon c osd else c
  apply_of_down := by
    intro c osd h
    rw [h]
    rfl

/-- A monitor that answers. -/
def answering : Cluster where
  nodes := [⟨"10.0.0.2", ["MON"]⟩]
  execMode := "cephadm"
  fingerprint := "f"
  fails := fun _ => false

/-- Two OSDs with a group on both of them. -/
def twoOsds (status other : String) : Ceph where
  health := some "HEALTH_WARN"
  osds := [⟨0, status⟩, ⟨1, other⟩]
  hostChildren := [[0], [1]]
  metadata := fun _ => ⟨some "ceph1", some "vdb"⟩
  poolSizes := [some 2]
  df := []
  nearfullRatio := none
  pgs := [⟨[0, 1], "active+clean", true⟩]
  daemons := ["osd.0", "osd.1"]
  active_serves := by simp

/-- `osd.0` is down at the preflight; at the removal it is back up, or the other
OSD has gone down too. -/
theorem destroys_without_copies :
    ¬ DestroysSafely
        (replaceFailedOsd (Rounding.exact _ (by norm_num)) answering answering
          stopRunning (twoOsds "down" "up") (twoOsds "up" "up") (some 0)).1 ∧
      ¬ DestroysSafely
        (replaceFailedOsd (Rounding.exact _ (by norm_num)) answering answering
          stopRunning (twoOsds "down" "up") (twoOsds "down" "down")
          (some 0)).1 := by
  have hpreflight : osdPreflight (Rounding.exact _ (by norm_num)) answering
      (twoOsds "down" "up") (some 0) = .ok ⟨"ceph1", "/dev/vdb", false⟩ := by
    decide
  have hchecks : ∀ status ∈ ["up", "down"],
      ChecksPass answering (twoOsds status status) := by
    intro status hstatus
    simp only [List.mem_cons, List.not_mem_nil, or_false] at hstatus
    have hcount : inactivePgs answering (twoOsds status status) = .ok 0 := by
      cases hstatus with
      | inl h => subst h; decide
      | inr h => subst h; decide
    refine ⟨⟨0, hcount⟩, active_iff.mpr ?_, rfl⟩
    exact (inactivePgs_eq_zero_iff hcount).mp rfl
  constructor
  · intro hsafe
    have hreached := down_and_served_of_reached
      ⟨rfl, ⟨_, hpreflight, rfl⟩, hchecks "up" (by simp)⟩ hsafe
    exact absurd hreached.1 (by decide)
  · intro hsafe
    have hreached := down_and_served_of_reached
      ⟨rfl, ⟨_, hpreflight, rfl⟩, hchecks "down" (by simp)⟩ hsafe
    have hserved := hreached.2 ⟨[0, 1], "active+clean", true⟩ (by simp [twoOsds])
    exact absurd hserved.1 (by decide)

end CephAi.Ports.OsdReplacement
