import CephAi.Verified.Trace

/-!
# Deleting a cluster that is not monitored

`cluster_deploy.run` of a deletion that `propose_delete_unregistered` accepted:
the nodes come from the operator, with the fsid of the cluster they belong to.
Before anything is stopped or removed every node has to show this fsid and no
other, and it must not be that of a monitored cluster.

A monitor that answers `ceph fsid` gives the fsid of its own cluster.

## Main results

* `sshCheck_ok_iff` — what the first phase establishes when it passes.
* `teardown_safe_iff` — a run touches only nodes of a cluster that is not
  monitored exactly when, once the checks pass, no monitored cluster that stays
  silent has the fsid.
* `silent_cluster_is_wiped` — a run that wipes a monitored cluster.
-/

namespace CephAi.Ports.ClusterDeletion

open Verified

/-! ## Text -/

/-- White space for `str.strip`. -/
def isSpace (c : Char) : Bool :=
  ('\t' ≤ c && c ≤ '\r') || ('\x1c' ≤ c && c ≤ ' ') ||
    ['\u0085', '\u00a0', '\u1680', '\u2028', '\u2029', '\u202f', '\u205f',
      '\u3000'].contains c || ('\u2000' ≤ c && c ≤ '\u200a')

def strip (s : String) : String :=
  String.ofList
    (((s.toList.dropWhile isSpace).reverse.dropWhile isSpace).reverse)

/-- `str.lower`; only ASCII letters have lower case letters of an fsid. -/
def lower (s : String) : String := String.ofList (s.toList.map Char.toLower)

/-- `str.endswith` -/
def endsWith (s suffix : String) : Bool :=
  suffix.toList.isSuffixOf s.toList

def isHexDigit (c : Char) : Bool :=
  ('0' ≤ c && c ≤ '9') || ('a' ≤ c && c ≤ 'f')

/-- `_FSID_RE`, and the pattern that names of directories are matched with. -/
def isFsid (s : String) : Bool :=
  s.toList.length == 36 &&
    s.toList.zipIdx.all (fun p =>
      if [8, 13, 18, 23].contains p.2 then p.1 == '-' else isHexDigit p.1)

/-! ## Nodes -/

structure PlanNode where
  ip : String
  roles : List String
  osdDisks : List String
deriving DecidableEq

/-- What is on a node: the names below `/var/lib/ceph` and the lines of
`/etc/ceph/ceph.conf`. -/
structure NodeContent where
  entries : List String
  conf : List String

/-- `[[:space:]]` -/
def isBlank (c : Char) : Bool := c == ' ' || ('\t' ≤ c && c ≤ '\r')

/-- `s/^[[:space:]]*fsid[[:space:]]*=[[:space:]]*//p` -/
def fsidSetting (line : String) : Option String :=
  let body := line.toList.dropWhile isBlank
  if "fsid".toList.isPrefixOf body then
    match (body.drop 4).dropWhile isBlank with
    | '=' :: value => some (String.ofList (value.dropWhile isBlank))
    | _ => none
  else none

/-- The lines `_NODE_FSIDS_COMMAND` prints, in some order. -/
def NodeContent.fsidLines (content : NodeContent) : List String :=
  content.entries.filter isFsid ++ content.conf.filterMap fsidSetting

def NodeContent.fsids (content : NodeContent) : List String :=
  (content.fsidLines.map (fun line => lower (strip line))).filter (· ≠ "")

/-- The commands that are sent to a node. -/
inductive NodeCommand
  | ping
  | readFsids
  | stopDaemons
  | wipeDisk (disk : String) (attempt : Nat)
  | removeState
  | removePackages
deriving DecidableEq

/-- The command stops, removes or wipes something. -/
def NodeCommand.destructive : NodeCommand → Bool
  | .ping | .readFsids => false
  | _ => true

/-- A command and the node it is sent to. -/
structure Sent where
  ip : String
  command : NodeCommand
deriving DecidableEq

/-- How a command fails: there is no connection, or it exits with an error. -/
inductive Failure
  | connection
  | exited
deriving DecidableEq

/-- The nodes: what is on them, and which commands fail. -/
structure Remote where
  content : String → NodeContent
  fails : String → NodeCommand → Option Failure

/-! ## Monitored clusters -/

/-- An active cluster.  `answer` is the fsid a monitor gives, or nothing. -/
structure MonitoredCluster where
  name : String
  isDefault : Bool
  fsid : String
  mons : List String
  nodeIps : List String
  answer : String → String
  answer_own : ∀ mon ∈ mons, answer mon ≠ "" → answer mon = fsid

def MonitoredCluster.firstAnswer (cl : MonitoredCluster) : String :=
  ((cl.mons.map cl.answer).find? (· ≠ "")).getD ""

def MonitoredCluster.silent (cl : MonitoredCluster) : Bool :=
  cl.firstAnswer == ""

/-- The name of the cluster in the list of those that cannot be read. -/
def MonitoredCluster.label (cl : MonitoredCluster) : String :=
  cl.name ++ (if cl.isDefault then " (mặc định)" else "")

def monitoredFsids (clusters : List MonitoredCluster) :
    List String × List String :=
  (((clusters.filter (fun cl => !cl.silent)).map
      (fun cl => lower cl.firstAnswer)),
    (clusters.filter (fun cl => cl.silent)).map MonitoredCluster.label)

/-! ## The phases -/

/-- Why a phase fails. -/
inductive DeployError
  | sshFailed (host : String)
  | monitored (fsid : String)
  | defaultUnreadable
  | fsidUnreadable (host : String)
  | otherCluster (host : String) (seen : List String)
  | stopFailed (host : String)
  | removeStateFailed (host : String)
  | removePackagesFailed (host : String)
  | noDisks (host : String)
  | wipeFailed (host disk : String)
deriving DecidableEq

/-- A command to every node, in turn. -/
def eachNode (remote : Remote) (nodes : List PlanNode) (command : NodeCommand)
    (error : String → DeployError) : Trace Sent DeployError :=
  Trace.forEach nodes (fun node =>
    Trace.issue ⟨node.ip, command⟩
      (if (remote.fails node.ip command).isSome then some (error node.ip)
        else none))

/-- One node of `_verify_unregistered_target`. -/
def verifyNode (remote : Remote) (expected : String) (node : PlanNode) :
    Trace Sent DeployError :=
  Trace.issue ⟨node.ip, .readFsids⟩
    (if (remote.fails node.ip .readFsids).isSome then
      some (.fsidUnreadable node.ip)
    else
      let fsids := (remote.content node.ip).fsids
      if fsids ≠ [] ∧ ∀ fsid ∈ fsids, fsid = expected then none
      else some (.otherCluster node.ip fsids))

def verifyUnregisteredTarget (remote : Remote) (clusters : List MonitoredCluster)
    (nodes : List PlanNode) (expectedFsid : String) : Trace Sent DeployError :=
  let expected := lower expectedFsid
  let found := monitoredFsids clusters
  if found.1.contains expected then Trace.fail (.monitored expected)
  else if found.2.any (fun name => endsWith name "(mặc định)") then
    Trace.fail .defaultUnreadable
  else Trace.forEach nodes (verifyNode remote expected)

/-- `_phase_delete_ssh_check` -/
def sshCheck (remote : Remote) (clusters : List MonitoredCluster)
    (nodes : List PlanNode) (expectedFsid : String) : Trace Sent DeployError :=
  (eachNode remote nodes .ping .sshFailed).andThen
    (if expectedFsid ≠ "" then
      verifyUnregisteredTarget remote clusters nodes expectedFsid
    else Trace.done)

/-- `_execute_zap_with_connect_retry`, from an attempt on; a command that exits
with an error is not tried again. -/
def zapFrom (remote : Remote) (ip disk : String) (attempt : Nat) :
    Nat → Trace Sent DeployError
  | 0 => Trace.fail (.wipeFailed ip disk)
  | left + 1 =>
    match remote.fails ip (.wipeDisk disk attempt) with
    | none => Trace.issue ⟨ip, .wipeDisk disk attempt⟩ none
    | some .exited =>
      Trace.issue ⟨ip, .wipeDisk disk attempt⟩ (some (.wipeFailed ip disk))
    | some .connection =>
      (Trace.issue ⟨ip, .wipeDisk disk attempt⟩ none).andThen
        (zapFrom remote ip disk (attempt + 1) left)

/-- `_ZAP_CONNECT_RETRY_ATTEMPTS` -/
def zapAttempts : Nat := 3

/-- `_phase_delete_manual_wipe_osd_disk` -/
def wipeOsdDisk (remote : Remote) (nodes : List PlanNode) (wipe : Bool) :
    Trace Sent DeployError :=
  if wipe then
    Trace.forEach (nodes.filter (fun node => node.roles.contains "osd"))
      (fun node =>
        if node.osdDisks = [] then Trace.fail (.noDisks node.ip)
        else Trace.forEach node.osdDisks
          (fun disk => zapFrom remote node.ip disk 1 zapAttempts))
  else Trace.done

/-- `_phase_delete_manual_stop_daemons` -/
def stopDaemons (remote : Remote) (nodes : List PlanNode) :
    Trace Sent DeployError :=
  eachNode remote nodes .stopDaemons .stopFailed

/-- `_phase_delete_manual_remove_state` -/
def removeState (remote : Remote) (nodes : List PlanNode) :
    Trace Sent DeployError :=
  eachNode remote nodes .removeState .removeStateFailed

/-- `_phase_delete_manual_remove_packages` -/
def removePackages (remote : Remote) (nodes : List PlanNode) :
    Trace Sent DeployError :=
  eachNode remote nodes .removePackages .removePackagesFailed

/-! ## `propose_delete_unregistered` -/

def maxUnregisteredNodes : Nat := 20

/-- A node as the operator typed it. -/
structure RawNode where
  ip : String
  osdDisks : List String

structure Request where
  nodes : List RawNode
  wipeOsdDisks : Bool
  fsid : String
  confirmation : String
  execMode : String

/-- Why a request is refused. -/
inductive ProposeError
  | nodeCount
  | invalidIp (ip : String)
  | invalidDisks (ip : String)
  | duplicateIp
  | noDisks
  | invalidFsid
  | notConfirmed
  | monitoredNodes (ips : List String)
deriving DecidableEq

def isOsdDisk (disk : String) : Bool :=
  match disk.toList with
  | '/' :: rest =>
    rest ≠ [] && rest.all (fun c => c.isAlphanum || ['_', '.', '/', '-'].contains c)
  | _ => false

/-- One node of `_unregistered_nodes`; `parseIp` is `ipaddress.ip_address`. -/
def unregisteredNode (parseIp : String → Option String) (wipe : Bool)
    (raw : RawNode) : Except ProposeError PlanNode :=
  match parseIp (strip raw.ip) with
  | none => .error (.invalidIp (strip raw.ip))
  | some ip =>
    let disks := (raw.osdDisks.map strip).filter (· ≠ "")
    if disks.all isOsdDisk ∧ disks.Nodup then
      .ok ⟨ip, if disks = [] then ["mon"] else ["mon", "osd"],
        if wipe then disks else []⟩
    else .error (.invalidDisks ip)

def unregisteredNodes (parseIp : String → Option String) (raw : List RawNode)
    (wipe : Bool) : Except ProposeError (List PlanNode) :=
  if 1 ≤ raw.length ∧ raw.length ≤ maxUnregisteredNodes then
    match raw.mapM (unregisteredNode parseIp wipe) with
    | .error e => .error e
    | .ok nodes =>
      if ¬ (nodes.map PlanNode.ip).Nodup then .error .duplicateIp
      else if wipe ∧ nodes.all (fun node => node.osdDisks = []) then
        .error .noDisks
      else .ok nodes
  else .error .nodeCount

/-- The parameters of an accepted proposal: it has nodes and an fsid. -/
structure Plan where
  nodes : List PlanNode
  wipeOsdDisks : Bool
  expectedFsid : String
  cephadm : Bool
  nodes_ne : nodes ≠ []
  isFsid_expected : isFsid expectedFsid = true
deriving DecidableEq

theorem ne_nil_of_unregisteredNodes {parseIp : String → Option String}
    {raw : List RawNode} {wipe : Bool} {nodes : List PlanNode}
    (h : unregisteredNodes parseIp raw wipe = .ok nodes) : nodes ≠ [] := by
  unfold unregisteredNodes at h
  split_ifs at h with hcount
  cases hmap : raw.mapM (unregisteredNode parseIp wipe) with
  | error e =>
    rw [hmap] at h
    cases h
  | ok parsed =>
    simp only [hmap] at h
    split_ifs at h
    have heq := Except.ok.inj h
    subst heq
    intro hnil
    subst hnil
    cases raw with
    | nil => simp at hcount
    | cons r raw =>
      rw [List.mapM_cons] at hmap
      cases hnode : unregisteredNode parseIp wipe r with
      | error e =>
        rw [hnode] at hmap
        cases hmap
      | ok node =>
        rw [hnode] at hmap
        cases hrest : raw.mapM (unregisteredNode parseIp wipe) with
        | error | ok =>
          rw [hrest] at hmap
          cases hmap

def proposeDeleteUnregistered (parseIp : String → Option String)
    (clusters : List MonitoredCluster) (body : Request) :
    Except ProposeError Plan :=
  match hnodes : unregisteredNodes parseIp body.nodes body.wipeOsdDisks with
  | .error e => .error e
  | .ok nodes =>
    let fsid := lower (strip body.fsid)
    let monitored := (nodes.map PlanNode.ip).filter
      (fun ip => clusters.any (fun cl => cl.nodeIps.contains ip))
    if hfsid : isFsid fsid = true then
      if lower (strip body.confirmation) ≠ fsid then .error .notConfirmed
      else if monitored ≠ [] then .error (.monitoredNodes monitored)
      else .ok ⟨nodes, body.wipeOsdDisks, fsid, body.execMode == "cephadm",
        ne_nil_of_unregisteredNodes hnodes, hfsid⟩
    else .error .invalidFsid

/-- `delete_cluster_cephadm` and `delete_cluster_manual`: with cephadm the disks
are wiped while its state is there. -/
def runDelete (remote : Remote) (clusters : List MonitoredCluster) (plan : Plan) :
    Trace Sent DeployError :=
  let wipe := wipeOsdDisk remote plan.nodes plan.wipeOsdDisks
  let state := removeState remote plan.nodes
  (sshCheck remote clusters plan.nodes plan.expectedFsid).andThen
    ((stopDaemons remote plan.nodes).andThen
      (((if plan.cephadm then wipe else state).andThen
        (if plan.cephadm then state else wipe)).andThen
        (removePackages remote plan.nodes)))

/-! ## What the checks establish -/

section Checks

variable {remote : Remote} {clusters : List MonitoredCluster}
  {nodes : List PlanNode} {plan : Plan}

/-- The node shows this fsid and no other. -/
def ShowsExactly (content : NodeContent) (fsid : String) : Prop :=
  content.fsids ≠ [] ∧ ∀ shown ∈ content.fsids, shown = fsid

/-- The checks of the first phase: every node is reached, the monitored clusters
that answer have other fsids and the default one is among them, and every node
is read and shows the fsid. -/
structure ChecksPass (remote : Remote) (clusters : List MonitoredCluster)
    (nodes : List PlanNode) (expected : String) : Prop where
  reached : ∀ node ∈ nodes, remote.fails node.ip .ping = none
  answered : ∀ cl ∈ clusters, cl.silent = false → lower cl.fsid ≠ expected
  default : ∀ cl ∈ clusters, cl.silent = true →
    endsWith cl.label "(mặc định)" = false
  read : ∀ node ∈ nodes, remote.fails node.ip .readFsids = none
  shown : ∀ node ∈ nodes, ShowsExactly (remote.content node.ip) expected

theorem eachNode_ok_iff {command : NodeCommand} {error : String → DeployError} :
    (eachNode remote nodes command error).error = none ↔
      ∀ node ∈ nodes, remote.fails node.ip command = none := by
  unfold eachNode
  rw [Trace.forEach_ok_iff]
  apply forall₂_congr
  intro node _
  show (if (remote.fails node.ip command).isSome = true then some (error node.ip)
    else none) = none ↔ _
  cases remote.fails node.ip command with
  | none | some => simp

theorem verifyNode_ok_iff {expected : String} {node : PlanNode} :
    (verifyNode remote expected node).error = none ↔
      remote.fails node.ip .readFsids = none ∧
        ShowsExactly (remote.content node.ip) expected := by
  unfold verifyNode ShowsExactly
  show (if (remote.fails node.ip .readFsids).isSome = true then
    some (DeployError.fsidUnreadable node.ip) else _) = none ↔ _
  cases remote.fails node.ip .readFsids with
  | some failure => simp
  | none =>
    simp only [Option.isSome_none, Bool.false_eq_true, if_false, true_and]
    split_ifs with hshown
    · exact ⟨fun _ => hshown, fun _ => rfl⟩
    · simpa using hshown

theorem firstAnswer_eq {cl : MonitoredCluster} (h : cl.silent = false) :
    cl.firstAnswer = cl.fsid := by
  unfold MonitoredCluster.silent at h
  have hne : cl.firstAnswer ≠ "" := by simpa using h
  unfold MonitoredCluster.firstAnswer at hne ⊢
  cases hfind : (cl.mons.map cl.answer).find? (· ≠ "") with
  | none =>
    rw [hfind] at hne
    exact absurd rfl hne
  | some answer =>
    obtain ⟨mon, hmon, rfl⟩ := List.mem_map.mp (List.mem_of_find?_eq_some hfind)
    have hanswer := List.find?_some hfind
    exact cl.answer_own mon hmon (by simpa using hanswer)

theorem monitored_iff {expected : String} :
    (monitoredFsids clusters).1.contains expected = false ↔
      ∀ cl ∈ clusters, cl.silent = false → lower cl.fsid ≠ expected := by
  rw [← Bool.not_eq_true, List.contains_iff_mem]
  simp only [monitoredFsids, List.mem_map, List.mem_filter, not_exists, not_and,
    and_imp, Bool.not_eq_true']
  apply forall_congr'
  intro cl
  apply forall₂_congr
  intro _ hanswers
  rw [firstAnswer_eq hanswers]

theorem unreadable_iff :
    (monitoredFsids clusters).2.any (fun name => endsWith name "(mặc định)") =
        false ↔
      ∀ cl ∈ clusters, cl.silent = true →
        endsWith cl.label "(mặc định)" = false := by
  simp [monitoredFsids]

theorem toLower_of_isHexDigit {c : Char} (h : isHexDigit c = true) : c.toLower = c := by
  have hcases : ('0'.val ≤ c.val ∧ c.val ≤ '9'.val) ∨
      ('a'.val ≤ c.val ∧ c.val ≤ 'f'.val) := by
    simpa [isHexDigit, Char.le_def] using h
  have hnot : ¬ (c.val ≥ 'A'.val ∧ c.val ≤ 'Z'.val) := by
    simp only [ge_iff_le, UInt32.le_iff_toNat_le] at hcases ⊢
    have h0 : '0'.val.toNat = 48 := rfl
    have h9 : '9'.val.toNat = 57 := rfl
    have hA : 'A'.val.toNat = 65 := rfl
    have hZ : 'Z'.val.toNat = 90 := rfl
    have ha : 'a'.val.toNat = 97 := rfl
    omega
  unfold Char.toLower
  rw [dif_neg hnot]

variable {fsid : String}

theorem ne_empty_of_isFsid (h : isFsid fsid = true) : fsid ≠ "" := by
  intro hempty
  rw [hempty] at h
  exact absurd h (by decide)

theorem lower_of_isFsid {s : String} (h : isFsid s = true) : lower s = s := by
  unfold isFsid at h
  rw [Bool.and_eq_true, List.all_eq_true] at h
  have hchars : ∀ c ∈ s.toList, Char.toLower c = id c := by
    intro c hc
    obtain ⟨i, hi⟩ := List.mem_iff_getElem?.mp hc
    have hchar := h.2 (c, i) (List.mk_mem_zipIdx_iff_getElem?.mpr hi)
    simp only at hchar
    split_ifs at hchar
    · have hdash : c = '-' := by simpa using hchar
      subst hdash
      rfl
    · exact toLower_of_isHexDigit hchar
  rw [lower, List.map_congr_left hchars, List.map_id, String.ofList_toList]

theorem verifyUnregisteredTarget_ok_iff (hlower : lower fsid = fsid) :
    (verifyUnregisteredTarget remote clusters nodes fsid).error = none ↔
      (∀ cl ∈ clusters, cl.silent = false → lower cl.fsid ≠ fsid) ∧
        (∀ cl ∈ clusters, cl.silent = true →
          endsWith cl.label "(mặc định)" = false) ∧
        ∀ node ∈ nodes, remote.fails node.ip .readFsids = none ∧
          ShowsExactly (remote.content node.ip) fsid := by
  rw [← monitored_iff, ← unreadable_iff]
  unfold verifyUnregisteredTarget
  simp only [hlower]
  cases (monitoredFsids clusters).1.contains fsid with
  | true => simp [Trace.fail]
  | false =>
    cases (monitoredFsids clusters).2.any
        (fun name => endsWith name "(mặc định)") with
    | true => simp [Trace.fail]
    | false =>
      simp only [Bool.false_eq_true, if_false, true_and,
        Trace.forEach_ok_iff, verifyNode_ok_iff]

/-- What the first phase establishes when it passes. -/
theorem sshCheck_ok_iff :
    (sshCheck remote clusters plan.nodes plan.expectedFsid).error = none ↔
      ChecksPass remote clusters plan.nodes plan.expectedFsid := by
  have hlower := lower_of_isFsid plan.isFsid_expected
  have hne := ne_empty_of_isFsid plan.isFsid_expected
  unfold sshCheck
  rw [Trace.andThen_ok_iff, eachNode_ok_iff, if_pos hne,
    verifyUnregisteredTarget_ok_iff hlower]
  constructor
  · rintro ⟨hreached, hanswered, hdefault, hnodes⟩
    exact ⟨hreached, hanswered, hdefault, fun node hnode => (hnodes node hnode).1,
      fun node hnode => (hnodes node hnode).2⟩
  · intro h
    exact ⟨h.reached, h.answered, h.default,
      fun node hnode => ⟨h.read node hnode, h.shown node hnode⟩⟩

/-- The first phase sends nothing that stops or removes anything. -/
theorem not_destructive_of_sshCheck {c : Sent}
    (h : c ∈ (sshCheck remote clusters nodes fsid).issued) : c.command.destructive = false := by
  unfold sshCheck at h
  rw [Trace.mem_issued_andThen] at h
  cases h with
  | inl hping =>
    obtain ⟨node, _, hc⟩ := Trace.mem_issued_forEach hping
    rw [List.mem_singleton.mp hc]
    rfl
  | inr hverify =>
    obtain ⟨_, hc⟩ := hverify
    split_ifs at hc with hne
    · unfold verifyUnregisteredTarget at hc
      simp only at hc
      split_ifs at hc
      · cases hc
      · cases hc
      · obtain ⟨node, _, hread⟩ := Trace.mem_issued_forEach hc
        rw [List.mem_singleton.mp hread]
        rfl
    · cases hc

theorem mem_sshCheck_of_ok {node : PlanNode}
    (h : (sshCheck remote clusters plan.nodes plan.expectedFsid).error = none)
    (hnode : node ∈ plan.nodes) :
    (⟨node.ip, .readFsids⟩ : Sent) ∈
      (sshCheck remote clusters plan.nodes plan.expectedFsid).issued := by
  have hchecks := sshCheck_ok_iff.mp h
  have hlower := lower_of_isFsid plan.isFsid_expected
  have hne := ne_empty_of_isFsid plan.isFsid_expected
  unfold sshCheck at h ⊢
  rw [if_pos hne] at h ⊢
  rw [Trace.andThen_ok_iff] at h
  rw [Trace.mem_issued_andThen]
  refine Or.inr ⟨h.1, ?_⟩
  have hfound := monitored_iff.mpr hchecks.answered
  have hreadable := unreadable_iff.mpr hchecks.default
  have hverify := h.2
  unfold verifyUnregisteredTarget at hverify ⊢
  simp only [hlower, hfound, hreadable, Bool.false_eq_true, if_false]
    at hverify ⊢
  exact Trace.mem_issued_forEach_of_ok hverify hnode List.mem_cons_self

/-! ## When a run is safe -/

/-- Before a command that stops or removes anything every node was read and
shows exactly the fsid, and no monitored cluster has it. -/
def SafeTeardown (remote : Remote) (clusters : List MonitoredCluster) (plan : Plan)
    (log : List Sent) : Prop :=
  ∀ pre c post, log = pre ++ c :: post → c.command.destructive = true →
    (∀ node ∈ plan.nodes, (⟨node.ip, .readFsids⟩ : Sent) ∈ pre ∧
      remote.fails node.ip .readFsids = none ∧
      ShowsExactly (remote.content node.ip) plan.expectedFsid) ∧
    ∀ cl ∈ clusters, lower cl.fsid ≠ plan.expectedFsid

/-- **When a run is safe.**  A run stops and removes only what belongs to the
cluster of the plan, which is not monitored, exactly when no monitored cluster
whose monitors all stay silent has the fsid once the checks pass. -/
theorem teardown_safe_iff (remote : Remote) (clusters : List MonitoredCluster) (plan : Plan) :
    SafeTeardown remote clusters plan (runDelete remote clusters plan).issued ↔
      (ChecksPass remote clusters plan.nodes plan.expectedFsid →
        ∀ cl ∈ clusters, cl.silent = true → lower cl.fsid ≠ plan.expectedFsid) := by
  constructor
  · intro hsafe hchecks cl hcl _
    have hok := sshCheck_ok_iff.mpr hchecks
    obtain ⟨node, nodes, hnodes⟩ := List.exists_cons_of_ne_nil plan.nodes_ne
    have hstop : (⟨node.ip, .stopDaemons⟩ : Sent) ∈
        (runDelete remote clusters plan).issued := by
      unfold runDelete stopDaemons eachNode
      rw [Trace.mem_issued_andThen]
      refine Or.inr ⟨hok, ?_⟩
      rw [Trace.mem_issued_andThen, hnodes]
      exact Or.inl (Trace.mem_issued_forEach_head List.mem_cons_self)
    obtain ⟨pre, post, hlog⟩ := List.append_of_mem hstop
    exact (hsafe pre _ post hlog rfl).2 cl hcl
  · intro hsilent pre c post hlog hdestructive
    have hfirst : ∀ d ∈
        (sshCheck remote clusters plan.nodes plan.expectedFsid).issued,
        d.command.destructive = false :=
      fun d hd => not_destructive_of_sshCheck hd
    obtain ⟨hok, hpre⟩ := Trace.issued_of_mem_second hfirst hlog hdestructive
    have hchecks := sshCheck_ok_iff.mp hok
    refine ⟨?_, ?_⟩
    · intro node hnode
      exact ⟨hpre _ (mem_sshCheck_of_ok hok hnode), hchecks.read node hnode,
        hchecks.shown node hnode⟩
    · intro cl hcl
      cases hsilence : cl.silent with
      | true => exact hsilent hchecks cl hcl hsilence
      | false => exact hchecks.answered cl hcl hsilence

end Checks

/-! ## A monitored cluster that is wiped -/

/-- The fsid of the example. -/
def labFsid : String := "0b4f1c2e-1111-4222-8333-944455556666"

/-- A monitored cluster none of whose monitors answers. -/
def unreachable (name : String) : MonitoredCluster where
  name := name
  isDefault := false
  fsid := labFsid
  mons := ["10.0.1.1"]
  nodeIps := ["10.0.1.1"]
  answer := fun _ => ""
  answer_own := by
    intro mon _ h
    exact absurd rfl h

def defaultCluster : MonitoredCluster where
  name := "CS-LAB"
  isDefault := true
  fsid := "ffffffff-1111-4222-8333-944455556666"
  mons := ["10.0.0.1"]
  nodeIps := ["10.0.0.1"]
  answer := fun _ => "ffffffff-1111-4222-8333-944455556666"
  answer_own := by
    intro mon _ _
    rfl

/-- Nodes that all show the fsid, and on which every command succeeds. -/
def labNodes : Remote where
  content := fun _ => ⟨[labFsid], ["fsid = " ++ labFsid]⟩
  fails := fun _ _ => none

/-- The deletion of an OSD node with its disk. -/
def labPlan : Plan where
  nodes := [⟨"10.0.1.9", ["mon", "osd"], ["/dev/vdb"]⟩]
  wipeOsdDisks := true
  expectedFsid := labFsid
  cephadm := true
  nodes_ne := by simp
  isFsid_expected := by decide +kernel

def labRequest : Request where
  nodes := [⟨" 10.0.1.9", ["/dev/vdb"]⟩]
  wipeOsdDisks := true
  fsid := labFsid
  confirmation := labFsid
  execMode := "cephadm"

/-- An accepted request wipes a node of a monitored cluster whose monitors do
not answer. -/
theorem silent_cluster_is_wiped :
    proposeDeleteUnregistered some [defaultCluster, unreachable "CS-STAGING"]
        labRequest = .ok labPlan ∧
    (runDelete labNodes [defaultCluster, unreachable "CS-STAGING"]
        labPlan).issued =
      [⟨"10.0.1.9", .ping⟩, ⟨"10.0.1.9", .readFsids⟩, ⟨"10.0.1.9", .stopDaemons⟩,
        ⟨"10.0.1.9", .wipeDisk "/dev/vdb" 1⟩, ⟨"10.0.1.9", .removeState⟩,
        ⟨"10.0.1.9", .removePackages⟩] ∧
    ¬ SafeTeardown labNodes [defaultCluster, unreachable "CS-STAGING"] labPlan
      (runDelete labNodes [defaultCluster, unreachable "CS-STAGING"]
        labPlan).issued := by
  have hlog : (runDelete labNodes [defaultCluster, unreachable "CS-STAGING"]
        labPlan).issued =
      [⟨"10.0.1.9", .ping⟩, ⟨"10.0.1.9", .readFsids⟩, ⟨"10.0.1.9", .stopDaemons⟩,
        ⟨"10.0.1.9", .wipeDisk "/dev/vdb" 1⟩, ⟨"10.0.1.9", .removeState⟩,
        ⟨"10.0.1.9", .removePackages⟩] := by
    decide +kernel
  refine ⟨by decide +kernel, hlog, ?_⟩
  intro hsafe
  rw [hlog] at hsafe
  have hother := (hsafe [⟨"10.0.1.9", .ping⟩, ⟨"10.0.1.9", .readFsids⟩]
    ⟨"10.0.1.9", .stopDaemons⟩ _ rfl rfl).2 (unreachable "CS-STAGING") (by simp)
  exact hother (by decide +kernel)

end CephAi.Ports.ClusterDeletion
