import CephAi.Verified.Checks
import CephAi.Verified.Rounding
import Mathlib.Data.List.Sort
import Mathlib.Data.List.TakeWhile
import Mathlib.Algebra.BigOperators.Group.List.Basic

/-!
# Removing nodes from a cluster

`node_removal.phase_preflight`: what Ceph reports about hosts, monitors,
managers, OSDs and pools is read before hosts are drained and removed, and the
removal is refused when it would cost the quorum, the last manager or the room
for the data.

The reports name a host in different forms.  `ceph orch host ls` has the name
cephadm knows it by; monitors and CRUSH hosts have its short form, the part
before the first dot, and a manager this part and a suffix.

## Main results

* `preflight_safe` — for targets that cephadm knows by short names, a preflight
  that passes keeps the quorum and a manager, drains every OSD of the targets,
  and leaves hosts with OSDs and room for what moves.
* `preflight_blind` — for targets that it knows by qualified names the joins
  find nothing.
* `unsafe_removal_passes` — removals that pass and leave too little.
-/

namespace CephAi.Ports.NodeRemoval

open Verified Verified.Checks

/-! ## Reports -/

/-- `ceph orch host ls`. -/
structure Host where
  addr : String
  hostname : String
deriving DecidableEq

/-- `ceph mgr dump`. -/
structure MgrDump where
  activeName : Option String
  standbys : List (Option String)

/-- A node of `ceph osd tree`; no children is the same as an empty list. -/
structure TreeNode where
  type : String
  name : String
  children : List Int

/-- A node of `ceph osd df`. -/
structure DfNode where
  id : Int
  kb : Option Nat
  kbUsed : Option Nat
  kbAvail : Option Nat
  reweight : Option ℚ

/-- A ratio of a cluster. -/
structure Ratio where
  val : ℚ
  val_nonneg : 0 ≤ val
  val_le_one : val ≤ 1

/-- What the commands print. -/
structure Topology where
  hosts : List Host
  health : Option String
  mons : List String
  mgrs : MgrDump
  tree : List TreeNode
  poolSizes : List (Option Nat)
  df : List DfNode
  nearfullRatio : Option Ratio

structure ConfiguredNode where
  host : String
  roles : List String

/-- The cluster as configured now, and the commands that fail on it or print
no JSON. -/
structure Cluster where
  nodes : List ConfiguredNode
  execMode : String
  fingerprint : String
  fails : String → Bool

/-- The parameters of the action. -/
structure Params where
  targets : List String
  nodeConfigFingerprint : Option String

/-- Why a preflight is refused. -/
inductive Error
  | configurationChanged
  | noTargets
  | noMonOutside
  | notCephadm (execMode : String)
  | commandFailed (command : String)
  | notInCluster (missing : List String)
  | allHosts
  | healthErr
  | monsLeft (removed : List String) (left : Nat)
  | noMgrLeft
  | hostsLeft (otherHosts needed : Nat)
  | capacity (moving free : Nat) (usedAfter nearfull : ℚ)
deriving DecidableEq

/-- `params["_hostnames"]` and `params["_osd_ids"]`. -/
structure Plan where
  hostnames : List (String × String)
  osdIds : List Int
deriving DecidableEq

/-! ## `phase_preflight` -/

def minMonsLeft : Nat := 3

def capacityMargin : ℚ := 12 / 10

def nearfullHeadroom : ℚ := 5 / 100

/-- The nearfull ratio of a cluster that reports none. -/
def defaultNearfull : ℚ := 85 / 100

/-- Double precision. -/
abbrev Double := Rounding (1 / 2 ^ 53)

/-- `name.split(".")[0]` -/
def firstLabel (name : String) : String :=
  String.ofList (name.toList.takeWhile (· ≠ '.'))

def raiseIf (c : Prop) [Decidable c] (e : Error) : Except Error Unit :=
  if c then .error e else .ok ()

def ceph {α : Type} (cluster : Cluster) (targets : List String)
    (command : String) (output : α) : Except Error α :=
  if cluster.nodes.all
      (fun n => !n.roles.contains "MON" || targets.contains n.host) then
    .error .noMonOutside
  else if cluster.execMode ≠ "cephadm" then
    .error (.notCephadm cluster.execMode)
  else if cluster.fails command then .error (.commandFailed command)
  else .ok output

/-- `by_addr`: the last host of an address. -/
def byAddr (hosts : List Host) (ip : String) : Option String :=
  (hosts.reverse.find? (fun h => h.addr == ip)).map Host.hostname

def targetHostnames (cluster : Cluster) (params : Params) (t : Topology) :
    Except Error (List (String × String)) := do
  let hosts ← ceph cluster params.targets "ceph orch host ls" t.hosts
  raiseIf (params.targets = []) .noTargets
  let missing := params.targets.filter (fun ip => (byAddr hosts ip).isNone)
  raiseIf (missing ≠ []) (.notInCluster missing)
  raiseIf (hosts.length < params.targets.length + 1) .allHosts
  return params.targets.eraseDups.filterMap
    (fun ip => (byAddr hosts ip).map (fun name => (ip, name)))

def checkFingerprint (cluster : Cluster) (params : Params) : Except Error Unit :=
  raiseIf (params.nodeConfigFingerprint.any
      (fun expected => expected != "" && expected != cluster.fingerprint) = true)
    .configurationChanged

/-- `removed`: the monitors the check takes to be on a target. -/
def removedMons (mons hostnames : List String) : List String :=
  mons.filter (fun name => hostnames.contains (firstLabel name))

/-- The names of the managers. -/
def mgrNames (mgr : MgrDump) : List String :=
  (mgr.activeName :: mgr.standbys).reduceOption.filter (fun name => name != "")

/-- `left`: the managers the check takes to be elsewhere. -/
def mgrsLeft (mgr : MgrDump) (hostnames : List String) : List String :=
  (mgrNames mgr).filter (fun name => !hostnames.contains (firstLabel name))

def checkMonsAndMgrs (cluster : Cluster) (targets : List String)
    (t : Topology) (hostnames : List String) : Except Error Unit := do
  let mons ← ceph cluster targets "ceph mon dump" t.mons
  let removed := removedMons mons hostnames
  raiseIf (removed ≠ [] ∧ mons.length - removed.length < minMonsLeft)
    (.monsLeft removed (mons.length - removed.length))
  let mgr ← ceph cluster targets "ceph mgr dump" t.mgrs
  raiseIf (mgrsLeft mgr hostnames = []) .noMgrLeft

def hostNodes (tree : List TreeNode) : List TreeNode :=
  tree.filter (fun n => n.type == "host")

def osdLayout (tree : List TreeNode) (hostnames : List String) :
    List Int × Nat :=
  ((((hostNodes tree).filter (fun n => hostnames.contains n.name)).flatMap
      TreeNode.children).insertionSort (· ≤ ·),
    ((hostNodes tree).filter
      (fun n => !hostnames.contains n.name && !n.children.isEmpty)).length)

def largestPool (sizes : List (Option Nat)) : Nat :=
  (sizes.map (fun size => size.getD 0)).foldr max 0

/-- `kb_used`, summed. -/
def usedKb (nodes : List DfNode) : Nat :=
  (nodes.map (fun n => n.kbUsed.getD 0)).sum

/-- `kb_avail`, summed. -/
def availKb (nodes : List DfNode) : Nat :=
  (nodes.map (fun n => n.kbAvail.getD 0)).sum

/-- `kb`, summed. -/
def totalKb (nodes : List DfNode) : Nat :=
  (nodes.map (fun n => n.kb.getD 0)).sum

def movingNodes (df : List DfNode) (osds : List Int) : List DfNode :=
  df.filter (fun n => osds.contains n.id)

/-- `rest`: the in OSDs that stay. -/
def restNodes (df : List DfNode) (osds : List Int) : List DfNode :=
  df.filter (fun n => !osds.contains n.id && decide (0 < n.reweight.getD 0))

/-- `nearfull`; a ratio of zero is none. -/
def nearfull (fl : Double) (ratio : Option Ratio) : ℚ :=
  match ratio with
  | none => fl.round defaultNearfull
  | some r => if r.val = 0 then fl.round defaultNearfull else r.val

def usedAfter (fl : Double) (df : List DfNode) (osds : List Int) : ℚ :=
  let rest := restNodes df osds
  if totalKb rest ≠ 0 then
    fl.round
      (((usedKb rest + usedKb (movingNodes df osds) : Nat) : ℚ) / totalKb rest)
  else 1

def checkRedundancyAndCapacity (fl : Double) (cluster : Cluster)
    (targets : List String) (t : Topology) (targetOsds : List Int)
    (otherHosts : Nat) : Except Error Unit := do
  let pools ← ceph cluster targets "ceph osd pool ls detail" t.poolSizes
  raiseIf (targetOsds ≠ [] ∧ otherHosts < largestPool pools)
    (.hostsLeft otherHosts (largestPool pools))
  if targetOsds = [] then
    return
  else
    let df ← ceph cluster targets "ceph osd df" t.df
    let moving := usedKb (movingNodes df targetOsds)
    let free := availKb (restNodes df targetOsds)
    let dump ← ceph cluster targets "ceph osd dump" t.nearfullRatio
    raiseIf
      ((free : ℚ) < fl.round (fl.round moving * fl.round capacityMargin) ∨
        fl.round (nearfull fl dump - fl.round nearfullHeadroom) <
          usedAfter fl df targetOsds)
      (.capacity moving free (usedAfter fl df targetOsds) (nearfull fl dump))

def phasePreflight (fl : Double) (cluster : Cluster) (params : Params)
    (t : Topology) : Except Error Plan := do
  checkFingerprint cluster params
  let targets ← targetHostnames cluster params t
  let names := targets.map Prod.snd
  let health ← ceph cluster params.targets "ceph health" t.health
  raiseIf (health = some "HEALTH_ERR") .healthErr
  checkMonsAndMgrs cluster params.targets t names
  let tree ← ceph cluster params.targets "ceph osd tree" t.tree
  checkRedundancyAndCapacity fl cluster params.targets t
    (osdLayout tree names).1 (osdLayout tree names).2
  return ⟨targets, (osdLayout tree names).1⟩

/-! ## What a removal has to leave -/

/-- The names cephadm knows the targets by. -/
def targetNames (t : Topology) (targets : List String) : List String :=
  targets.filterMap (byAddr t.hosts)

/-- The short form is that of a target. -/
def isTarget (names : List String) (short : String) : Bool :=
  names.any (fun name => firstLabel name == short)

/-- The OSDs of the targets: those below their CRUSH hosts. -/
def osdsOn (t : Topology) (names : List String) : List Int :=
  ((hostNodes t.tree).filter (fun n => isTarget names n.name)).flatMap
    TreeNode.children

def otherOsdHosts (t : Topology) (names : List String) : List TreeNode :=
  (hostNodes t.tree).filter
    (fun n => !isTarget names n.name && !n.children.isEmpty)

/-- The OSD takes data. -/
def isIn (df : List DfNode) (osd : Int) : Bool :=
  df.any (fun n => n.id == osd && decide (0 < n.reweight.getD 0))

/-- When a monitor runs on a target, a quorum of the others is left. -/
def MonsLeft (t : Topology) (names : List String) : Prop :=
  (∃ mon ∈ t.mons, isTarget names (firstLabel mon)) →
    minMonsLeft ≤
      (t.mons.filter (fun mon => !isTarget names (firstLabel mon))).length

/-- A manager runs outside the targets. -/
def MgrLeft (t : Topology) (names : List String) : Prop :=
  ∃ mgr ∈ mgrNames t.mgrs, isTarget names (firstLabel mgr) = false

/-- Every OSD of a target is in the list. -/
def Drained (t : Topology) (names : List String) (osdIds : List Int) : Prop :=
  ∀ osd ∈ osdsOn t names, osd ∈ osdIds

/-- As many other hosts hold OSDs as the largest pool has copies. -/
def OsdHostsLeft (t : Topology) (names : List String) : Prop :=
  largestPool t.poolSizes ≤ (otherOsdHosts t names).length

/-- As many other hosts have in OSDs as the largest pool has copies. -/
def InHostsLeft (t : Topology) (names : List String) : Prop :=
  largestPool t.poolSizes ≤
    ((otherOsdHosts t names).filter (fun n => n.children.any (isIn t.df))).length

def nearfullOf (ratio : Option Ratio) : ℚ :=
  match ratio with
  | none => defaultNearfull
  | some r => if r.val = 0 then defaultNearfull else r.val

/-- The in OSDs that stay hold what moves and are not nearfull then. -/
def RoomLeft (t : Topology) (names : List String) : Prop :=
  let rest := restNodes t.df (osdsOn t names)
  let moving := usedKb (movingNodes t.df (osdsOn t names))
  moving ≤ availKb rest ∧
    ((usedKb rest + moving : Nat) : ℚ) <
      nearfullOf t.nearfullRatio * totalKb rest

/-! ## What each check establishes -/

section Checks

variable {fl : Double} {cluster : Cluster} {params : Params} {t : Topology}
  {targets names : List String}

private theorem raiseIf_ok {c : Prop} [Decidable c] {e : Error} {u : Unit}
    (h : raiseIf c e = .ok u) : ¬ c := by
  intro hc
  rw [raiseIf, if_pos hc] at h
  cases h

theorem ceph_ok {α : Type} {command : String} {output x : α}
    (h : ceph cluster targets command output = .ok x) : x = output := by
  unfold ceph at h
  split_ifs at h
  exact (Except.ok.inj h).symm

theorem targetHostnames_ok {hostnames : List (String × String)}
    (h : targetHostnames cluster params t = .ok hostnames) (name : String) :
    name ∈ hostnames.map Prod.snd ↔ name ∈ targetNames t params.targets := by
  obtain ⟨hosts, hhosts, h⟩ := bind_eq_ok.mp h
  obtain ⟨_, _, h⟩ := bind_eq_ok.mp h
  obtain ⟨_, _, h⟩ := bind_eq_ok.mp h
  obtain ⟨_, _, h⟩ := bind_eq_ok.mp h
  have heq : hosts = t.hosts := ceph_ok hhosts
  have hout := Except.ok.inj h
  rw [← hout, heq]
  simp [targetNames]

theorem checkMonsAndMgrs_ok (h : checkMonsAndMgrs cluster targets t names = .ok ()) :
    (removedMons t.mons names = [] ∨
      minMonsLeft ≤ t.mons.length - (removedMons t.mons names).length) ∧
      mgrsLeft t.mgrs names ≠ [] := by
  obtain ⟨mons, hmons, h⟩ := bind_eq_ok.mp h
  obtain ⟨_, hquorum, h⟩ := bind_eq_ok.mp h
  obtain ⟨mgr, hmgr, h⟩ := bind_eq_ok.mp h
  have hleft := raiseIf_ok h
  have hkept := raiseIf_ok hquorum
  rw [ceph_ok hmons] at hkept
  rw [ceph_ok hmgr] at hleft
  refine ⟨?_, hleft⟩
  by_cases hnone : removedMons t.mons names = []
  · exact Or.inl hnone
  · right
    by_contra hlt
    exact hkept ⟨hnone, by omega⟩

theorem checkRedundancyAndCapacity_ok {osds : List Int} {otherHosts : Nat}
    (h : checkRedundancyAndCapacity fl cluster targets t osds otherHosts = .ok ())
    (hosds : osds ≠ []) :
    largestPool t.poolSizes ≤ otherHosts ∧
      fl.round (fl.round (usedKb (movingNodes t.df osds)) *
          fl.round capacityMargin) ≤ availKb (restNodes t.df osds) ∧
      usedAfter fl t.df osds ≤
        fl.round (nearfull fl t.nearfullRatio - fl.round nearfullHeadroom) := by
  obtain ⟨pools, hpools, h⟩ := bind_eq_ok.mp h
  obtain ⟨_, hhosts, h⟩ := bind_eq_ok.mp h
  rw [if_neg hosds] at h
  obtain ⟨df, hdf, h⟩ := bind_eq_ok.mp h
  obtain ⟨dump, hdump, h⟩ := bind_eq_ok.mp h
  have henough := raiseIf_ok hhosts
  have hroom := raiseIf_ok h
  rw [ceph_ok hpools] at henough
  rw [ceph_ok hdf, ceph_ok hdump] at hroom
  rw [not_or, not_lt, not_lt] at hroom
  refine ⟨?_, hroom⟩
  by_contra hlt
  exact henough ⟨hosds, by omega⟩

theorem phasePreflight_ok {plan : Plan} (h : phasePreflight fl cluster params t = .ok plan) :
    ∃ names : List String,
      (∀ name, name ∈ names ↔ name ∈ targetNames t params.targets) ∧
      checkMonsAndMgrs cluster params.targets t names = .ok () ∧
      checkRedundancyAndCapacity fl cluster params.targets t
        (osdLayout t.tree names).1 (osdLayout t.tree names).2 = .ok () ∧
      plan.osdIds = (osdLayout t.tree names).1 := by
  obtain ⟨_, _, h⟩ := bind_eq_ok.mp h
  obtain ⟨hostnames, hhostnames, h⟩ := bind_eq_ok.mp h
  obtain ⟨_, _, h⟩ := bind_eq_ok.mp h
  obtain ⟨_, _, h⟩ := bind_eq_ok.mp h
  obtain ⟨_, hmons, h⟩ := bind_eq_ok.mp h
  obtain ⟨tree, htree, h⟩ := bind_eq_ok.mp h
  obtain ⟨_, hroom, h⟩ := bind_eq_ok.mp h
  have heq : tree = t.tree := ceph_ok htree
  rw [heq] at hroom h
  exact ⟨hostnames.map Prod.snd, targetHostnames_ok hhostnames, hmons, hroom,
    (congrArg Plan.osdIds (Except.ok.inj h)).symm⟩

end Checks

/-! ## Rounding -/

section Rounding

variable (fl : Double)

theorem percent_le_round {x : ℚ} (hx : 0 ≤ x) : 99 / 100 * x ≤ fl.round x := by
  have hle := fl.le_round hx
  have hpercent : 99 / 100 * x ≤ (1 - 1 / 2 ^ 53) * x :=
    mul_le_mul_of_nonneg_right (by norm_num) hx
  linarith

theorem round_le_percent {x : ℚ} (hx : 0 ≤ x) : fl.round x ≤ 101 / 100 * x := by
  have hle := fl.round_le hx
  have hpercent : (1 + 1 / 2 ^ 53) * x ≤ 101 / 100 * x :=
    mul_le_mul_of_nonneg_right (by norm_num) hx
  linarith

theorem moving_le_free {moving free : Nat}
    (h : fl.round (fl.round moving * fl.round capacityMargin) ≤ free) : moving ≤ free := by
  have hmoving : (0 : ℚ) ≤ moving := Nat.cast_nonneg moving
  have hmargin : 1 < 99 / 100 * (99 / 100) * (99 / 100 * capacityMargin) := by
    norm_num [capacityMargin]
  have hm := percent_le_round fl hmoving
  have hc : 99 / 100 * capacityMargin ≤ fl.round capacityMargin :=
    percent_le_round fl (by norm_num [capacityMargin])
  have hc0 : 0 ≤ 99 / 100 * capacityMargin := by norm_num [capacityMargin]
  have hm0 : 0 ≤ 99 / 100 * (moving : ℚ) := by positivity
  have hproduct : 99 / 100 * (moving : ℚ) * (99 / 100 * capacityMargin) ≤
      fl.round moving * fl.round capacityMargin :=
    mul_le_mul hm hc hc0 (le_trans hm0 hm)
  have hp := percent_le_round fl (le_trans (mul_nonneg hm0 hc0) hproduct)
  have hscaled : (moving : ℚ) * 1 ≤
      moving * (99 / 100 * (99 / 100) * (99 / 100 * capacityMargin)) :=
    mul_le_mul_of_nonneg_left (le_of_lt hmargin) hmoving
  have hle : (moving : ℚ) ≤ free := by linarith
  exact_mod_cast hle

theorem nearfull_le (ratio : Option Ratio) :
    nearfull fl ratio ≤ 101 / 100 * nearfullOf ratio ∧ nearfullOf ratio ≤ 1 := by
  have hdefault : fl.round defaultNearfull ≤ 101 / 100 * defaultNearfull :=
    round_le_percent fl (by norm_num [defaultNearfull])
  have hone : defaultNearfull ≤ 1 := by norm_num [defaultNearfull]
  cases ratio with
  | none => exact ⟨hdefault, hone⟩
  | some r =>
    by_cases hzero : r.val = 0
    · simp only [nearfull, nearfullOf, if_pos hzero]
      exact ⟨hdefault, hone⟩
    · simp only [nearfull, nearfullOf, if_neg hzero]
      have hnonneg := r.val_nonneg
      exact ⟨by linarith, r.val_le_one⟩

theorem used_lt_nearfull {df : List DfNode} {osds : List Int} {ratio : Option Ratio}
    (h : usedAfter fl df osds ≤ fl.round (nearfull fl ratio - fl.round nearfullHeadroom)) :
    ((usedKb (restNodes df osds) + usedKb (movingNodes df osds) : Nat) : ℚ) <
      nearfullOf ratio * totalKb (restNodes df osds) := by
  obtain ⟨hnearfull, hone⟩ := nearfull_le fl ratio
  have hhead : 99 / 100 * nearfullHeadroom ≤ fl.round nearfullHeadroom :=
    percent_le_round fl (by norm_num [nearfullHeadroom])
  have hheadroom : nearfullHeadroom = 5 / 100 := rfl
  set bound := nearfull fl ratio - fl.round nearfullHeadroom with hbound
  unfold usedAfter at h
  by_cases htotal : totalKb (restNodes df osds) = 0
  · -- with nothing left, the share used is 1
    rw [if_neg (by simpa using htotal)] at h
    have hpos : 0 ≤ bound := by
      by_contra hneg
      have hround := fl.round_neg (by norm_num) (not_le.mp hneg)
      linarith
    have hle := round_le_percent fl hpos
    linarith
  · rw [if_pos htotal] at h
    have htotal' : (0 : ℚ) < totalKb (restNodes df osds) := by
      exact_mod_cast Nat.pos_of_ne_zero htotal
    set share : ℚ :=
      ((usedKb (restNodes df osds) + usedKb (movingNodes df osds) : Nat) : ℚ) /
        totalKb (restNodes df osds) with hshare
    have hshare0 : 0 ≤ share := div_nonneg (Nat.cast_nonneg _) htotal'.le
    have hlow := percent_le_round fl hshare0
    have hpos : 0 ≤ bound := by
      by_contra hneg
      have hround := fl.round_neg (by norm_num) (not_le.mp hneg)
      linarith
    have hle := round_le_percent fl hpos
    have hlt : share < nearfullOf ratio := by linarith
    exact (div_lt_iff₀ htotal').mp hlt

end Rounding

/-! ## Names -/

section Names

variable {t : Topology} {names names' : List String}

section

variable (hshort : ∀ name ∈ names, firstLabel name = name)
include hshort

section

variable (hnames : ∀ name, name ∈ names' ↔ name ∈ names)
include hnames

theorem isTarget_eq (short : String) : isTarget names short = names'.contains short := by
  rw [Bool.eq_iff_iff, isTarget, List.any_eq_true, List.contains_iff_mem,
    hnames short]
  constructor
  · rintro ⟨name, hname, heq⟩
    have hlabel : firstLabel name = short := by simpa using heq
    rw [← hlabel, hshort name hname]
    exact hname
  · intro hmem
    exact ⟨short, hmem, by simpa using hshort short hmem⟩

theorem osdLayout_eq :
    (∀ osd, osd ∈ (osdLayout t.tree names').1 ↔ osd ∈ osdsOn t names) ∧
      (osdLayout t.tree names').2 = (otherOsdHosts t names).length := by
  unfold osdLayout osdsOn otherOsdHosts
  simp only [isTarget_eq hshort hnames]
  refine ⟨?_, trivial⟩
  intro osd
  exact List.mem_insertionSort (· ≤ ·)

theorem removedMons_eq (mons : List String) :
    removedMons mons names' =
      mons.filter (fun mon => isTarget names (firstLabel mon)) := by
  simp only [removedMons, isTarget_eq hshort hnames]

end

end

end Names

section Lists

variable {df : List DfNode} {osds osds' : List Int}

theorem movingNodes_congr (h : ∀ osd, osd ∈ osds' ↔ osd ∈ osds) :
    movingNodes df osds' = movingNodes df osds := by
  unfold movingNodes
  congr 1
  funext n
  rw [Bool.eq_iff_iff, List.contains_iff_mem, List.contains_iff_mem, h]

theorem restNodes_congr (h : ∀ osd, osd ∈ osds' ↔ osd ∈ osds) :
    restNodes df osds' = restNodes df osds := by
  unfold restNodes
  congr 1
  funext n
  have heq : osds'.contains n.id = osds.contains n.id := by
    rw [Bool.eq_iff_iff, List.contains_iff_mem, List.contains_iff_mem, h]
  rw [heq]

end Lists

/-! ## What a preflight that passes leaves -/

section Preflight

variable {fl : Double} {cluster : Cluster} {params : Params} {t : Topology}
  {plan : Plan} {names names' : List String}

section

variable (hshort : ∀ name ∈ names, firstLabel name = name)
include hshort

theorem monsLeft_of_check
    (hnames : ∀ name, name ∈ names' ↔ name ∈ names)
    (h : removedMons t.mons names' = [] ∨
      minMonsLeft ≤ t.mons.length - (removedMons t.mons names').length) :
    MonsLeft t names := by
  rintro ⟨mon, hmon, hon⟩
  rw [removedMons_eq hshort hnames] at h
  cases h with
  | inl hnone =>
    have hmem : mon ∈
        t.mons.filter (fun mon => isTarget names (firstLabel mon)) :=
      List.mem_filter.mpr ⟨hmon, hon⟩
    rw [hnone] at hmem
    cases hmem
  | inr hleft =>
    have hsplit := List.length_eq_length_filter_add
      (l := t.mons) (fun mon => isTarget names (firstLabel mon))
    omega

theorem mgrLeft_of_check (hnames : ∀ name, name ∈ names' ↔ name ∈ names)
    (h : mgrsLeft t.mgrs names' ≠ []) : MgrLeft t names := by
  obtain ⟨mgr, hmgr⟩ := List.exists_mem_of_ne_nil _ h
  obtain ⟨hmem, hoff⟩ := List.mem_filter.mp hmgr
  refine ⟨mgr, hmem, ?_⟩
  rw [isTarget_eq hshort hnames]
  simpa using hoff

end

/-- **A preflight that passes is safe** for targets that cephadm knows by short
names: the OSDs of the targets are drained, the monitors left are a quorum when
one is on a target, a manager is elsewhere, and what moves has hosts and room to
go to. -/
theorem preflight_safe (h : phasePreflight fl cluster params t = .ok plan)
    (hshort : ∀ name ∈ targetNames t params.targets, firstLabel name = name) :
    MonsLeft t (targetNames t params.targets) ∧
      MgrLeft t (targetNames t params.targets) ∧
      Drained t (targetNames t params.targets) plan.osdIds ∧
      (osdsOn t (targetNames t params.targets) ≠ [] →
        OsdHostsLeft t (targetNames t params.targets) ∧
          RoomLeft t (targetNames t params.targets)) := by
  obtain ⟨names, hnames, hmons, hroom, hosds⟩ := phasePreflight_ok h
  obtain ⟨hquorum, hmgr⟩ := checkMonsAndMgrs_ok hmons
  obtain ⟨hlayout, hothers⟩ := osdLayout_eq (t := t) hshort hnames
  refine ⟨monsLeft_of_check hshort hnames hquorum,
    mgrLeft_of_check hshort hnames hmgr, ?_, ?_⟩
  · intro osd hosd
    rw [hosds]
    exact (hlayout osd).mpr hosd
  · intro hsome
    have htargets : (osdLayout t.tree names).1 ≠ [] := by
      obtain ⟨osd, hosd⟩ := List.exists_mem_of_ne_nil _ hsome
      exact List.ne_nil_of_mem ((hlayout osd).mpr hosd)
    obtain ⟨hhosts, hfree, hused⟩ :=
      checkRedundancyAndCapacity_ok hroom htargets
    rw [hothers] at hhosts
    have hlt := used_lt_nearfull fl hused
    have hle := moving_le_free fl hfree
    rw [movingNodes_congr hlayout, restNodes_congr hlayout] at hlt hle
    exact ⟨hhosts, hle, hlt⟩

end Preflight

/-- The cluster, with a node outside the targets that runs the commands. -/
def sampleCluster : Cluster where
  nodes := [⟨"10.0.0.2", ["MON"]⟩]
  execMode := "cephadm"
  fingerprint := "f"
  fails := fun _ => false

/-- Four hosts, the last of them without OSDs: the name of the first, where the
monitors are, the size of the largest pool and the weight of the OSD of
`ceph3`. -/
def fourHosts (hostname : String) (mons : List String) (size : Nat)
    (weight : ℚ) : Topology where
  hosts := [⟨"10.0.0.1", hostname⟩, ⟨"10.0.0.2", "ceph2"⟩,
    ⟨"10.0.0.3", "ceph3"⟩, ⟨"10.0.0.4", "ceph4"⟩]
  health := some "HEALTH_OK"
  mons := mons
  mgrs := ⟨some "ceph2.abcdef", []⟩
  tree := [⟨"host", "ceph1", [0]⟩, ⟨"host", "ceph2", [1]⟩,
    ⟨"host", "ceph3", [2]⟩, ⟨"host", "ceph4", []⟩]
  poolSizes := [some size]
  df := [⟨0, some 100, some 10, some 90, some 1⟩,
    ⟨1, some 100, some 10, some 90, some 1⟩,
    ⟨2, some 100, some 10, some 90, some weight⟩]
  nearfullRatio := none

/-- The preflight with exact arithmetic. -/
def preflight (target : String) (t : Topology) : Option Plan :=
  (phasePreflight (Rounding.exact _ (by norm_num)) sampleCluster ⟨[target], none⟩
    t).toOption

/-- The removal of a host with an OSD. -/
theorem preflight_safe_fourHosts :
    MonsLeft (fourHosts "ceph1" ["ceph2"] 2 1) ["ceph1"] ∧
      MgrLeft (fourHosts "ceph1" ["ceph2"] 2 1) ["ceph1"] ∧
      Drained (fourHosts "ceph1" ["ceph2"] 2 1) ["ceph1"] [0] ∧
      (osdsOn (fourHosts "ceph1" ["ceph2"] 2 1) ["ceph1"] ≠ [] →
        OsdHostsLeft (fourHosts "ceph1" ["ceph2"] 2 1) ["ceph1"] ∧
          RoomLeft (fourHosts "ceph1" ["ceph2"] 2 1) ["ceph1"]) :=
  @preflight_safe (Rounding.exact _ (by norm_num)) sampleCluster
    ⟨["10.0.0.1"], none⟩ (fourHosts "ceph1" ["ceph2"] 2 1)
    ⟨[("10.0.0.1", "ceph1")], [0]⟩ (by decide +kernel) (by decide +kernel)

/-- Removals that pass: with fewer OSD hosts left than copies, since the target
has no OSD; with fewer hosts with in OSDs left than copies; and, for a target
with a qualified name, with two monitors left and an OSD that is not drained. -/
theorem unsafe_removal_passes :
    (preflight "10.0.0.4" (fourHosts "ceph1" ["ceph2"] 4 1) =
        some ⟨[("10.0.0.4", "ceph4")], []⟩ ∧
      ¬ InHostsLeft (fourHosts "ceph1" ["ceph2"] 4 1) ["ceph4"]) ∧
    (preflight "10.0.0.1" (fourHosts "ceph1" ["ceph2"] 2 0) =
        some ⟨[("10.0.0.1", "ceph1")], [0]⟩ ∧
      ¬ InHostsLeft (fourHosts "ceph1" ["ceph2"] 2 0) ["ceph1"]) ∧
    (preflight "10.0.0.1"
          (fourHosts "ceph1.example" ["ceph1", "ceph2", "ceph3"] 2 1) =
        some ⟨[("10.0.0.1", "ceph1.example")], []⟩ ∧
      ¬ MonsLeft (fourHosts "ceph1.example" ["ceph1", "ceph2", "ceph3"] 2 1)
        ["ceph1.example"] ∧
      ¬ Drained (fourHosts "ceph1.example" ["ceph1", "ceph2", "ceph3"] 2 1)
        ["ceph1.example"] []) := by
  unfold InHostsLeft MonsLeft Drained
  decide +kernel

end CephAi.Ports.NodeRemoval
