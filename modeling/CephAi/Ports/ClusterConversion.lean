import CephAi.Verified.Checks
import CephAi.Ports.GetCommand
import Mathlib

/-!
# Converting a cluster to cephadm in place

`cluster_deploy.run` of `convert_cluster_to_cephadm`: the daemons of every node
are adopted by cephadm, a last phase verifies the cluster, and then the
configuration says that the cluster runs on cephadm.

What exists on a host and what cephadm manages there come from two listings,
`ceph-volume lvm list` and `cephadm ls`.  Either may fail or print anything;
`cephadm ls` shows a daemon as converted only if it is.

## Main results

* `beforeVerify_keeps_converted` — no phase takes a daemon back.
* `verifyPhase_ok_iff` — what the last phase checks.
* `switch_sound_iff` — the configuration is switched for converted clusters
  only, exactly when a daemon that is left is one the last phase looks at.
* `switch_with_legacy_osd` — a run that switches it with an OSD left.
-/

namespace CephAi.Ports.ClusterConversion

open Verified.Checks
open CommandParams
open GetCommand

/-! ## What commands print -/

/-- A JSON value; a number is its text. -/
inductive Json
  | null
  | bool (value : Bool)
  | num (text : String)
  | str (text : String)
  | arr (items : List Json)
  | obj (fields : List (String × Json))

/-- The value of a field: the last one counts. -/
def field (fields : List (String × Json)) (name : String) : Option Json :=
  fields.reverse.lookup name

/-- The keys of an object, each once. -/
def keys (fields : List (String × Json)) : List String :=
  (fields.map Prod.fst).eraseDups

/-- What a command printed, as `json.loads` reads it. -/
inductive Output
  | blank
  | malformed
  | json (value : Json)

/-- `json.loads(output) if output.strip() else empty`. -/
def Output.orIfBlank (empty : Json) : Output → Option Json
  | .blank => some empty
  | .malformed => none
  | .json value => some value

def Output.loads : Output → Option Json
  | .json value => some value
  | _ => none

/-! ## Hosts -/

/-- The daemons that are converted. -/
inductive DaemonType
  | mon
  | mgr
  | osd
deriving DecidableEq

/-- The type as it stands in names and roles. -/
def DaemonType.text : DaemonType → String
  | .mon => "mon"
  | .mgr => "mgr"
  | .osd => "osd"

/-- The prefix of its systemd units. -/
def DaemonType.servicePrefix (t : DaemonType) : String := "ceph-" ++ t.text

inductive Style
  | legacy
  | cephadm
deriving DecidableEq

/-- A daemon on a host. -/
structure Daemon where
  fsid : String
  type : DaemonType
  id : String
  style : Style
deriving DecidableEq

/-- The daemons of each host. -/
abbrev Hosts := String → List Daemon

/-- cephadm manages a daemon of this type and id. -/
def Manages (ds : List Daemon) (t : DaemonType) (id : String) : Prop :=
  ∃ d ∈ ds, d.type = t ∧ d.id = id ∧ d.style = .cephadm

/-- The id that an entry of `cephadm ls` gives. -/
def managedId (namePrefix : String) : Json → Option String
  | .obj fields =>
    match field fields "name", field fields "style" with
    | some (.str name), some (.str "cephadm:v1") =>
      if namePrefix.toList.isPrefixOf name.toList then
        some (String.ofList (name.toList.drop namePrefix.toList.length))
      else none
    | _, _ => none
  | _ => none

/-- `_cephadm_managed_daemon_ids`, from what `cephadm ls` gives: nothing when it
fails. -/
def cephadmManagedDaemonIds (reply : Option Output) (t : DaemonType) : List String :=
  match reply.bind (Output.orIfBlank (.arr [])) with
  | some (.arr entries) => entries.filterMap (managedId (t.text ++ "."))
  | _ => []

/-- What `cephadm ls` gives on a host with these daemons: it may fail, print
anything, and leave daemons out. -/
structure LsReply (ds : List Daemon) where
  reply : Option Output
  sound : ∀ t, ∀ id ∈ cephadmManagedDaemonIds reply t, Manages ds t id

def LsReply.ids {ds : List Daemon} (r : LsReply ds) (t : DaemonType) : List String :=
  cephadmManagedDaemonIds r.reply t

/-! ## The plan -/

structure PlanNode where
  ip : String
  roles : List String
deriving DecidableEq

/-- The parameters of the action; `stale` when the configuration has changed
since it was proposed. -/
structure Plan where
  nodes : List PlanNode
  version : String
  stale : Bool

def nodeIpsWithRole (nodes : List PlanNode) (role : String) : List String :=
  (nodes.filter (fun n => n.roles.contains role)).map PlanNode.ip

/-- Why a run stops. -/
inductive DeployError
  | stale
  | noNode (t : DaemonType)
  | unreachable (host : String)
  | noHostname (host : String)
  | noStatus
  | unhealthy
  | unknownRelease (version : String)
  | installFailed (host : String)
  | unitsUnlisted (host : String) (t : DaemonType)
  | noUnit (host : String) (t : DaemonType)
  | adoptFailed (host : String) (t : DaemonType) (id : String)
  | orchestratorFailed (host : String)
  | noPublicKey (host : String)
  | keyNotAuthorized (host : String)
  | hostNotAdded (host : String)
  | osdsUnlisted (host : String)
  | unsortable (ids : List String)
  | notManaged (host : String) (t : DaemonType)
  | osdsNotManaged (host : String) (missing : List String)
deriving DecidableEq

def firstMonIp (nodes : List PlanNode) : Except DeployError String :=
  match nodeIpsWithRole nodes "mon" with
  | ip :: _ => .ok ip
  | [] => .error (.noNode .mon)

/-! ## The phases before the last one -/

/-- The hosts, and how many commands were sent. -/
structure State where
  daemons : Hosts
  sent : Nat

/-- What the commands give, by their number.  `adopts` tells which of the
daemons it names an adoption that succeeds converts. -/
structure Remote where
  runs : Nat → Bool
  text : Nat → Option String
  json : Nat → Option Output
  ls : Nat → (ds : List Daemon) → LsReply ds
  adopts : Nat → Daemon → Bool

/-- One command more was sent. -/
def State.next (s : State) : State := { s with sent := s.sent + 1 }

/-- A command whose output is not read. -/
def send (remote : Remote) (e : DeployError) (s : State) : Except DeployError State :=
  if remote.runs s.sent then .ok s.next else .error e

/-- A part for every element of a list. -/
def each {α : Type} (xs : List α) (f : α → State → Except DeployError State)
    (s : State) : Except DeployError State :=
  xs.foldlM (fun s x => f x s) s

/-- One node of `_phase_convert_ssh_check`. -/
def sshCheckNode (remote : Remote) (node : PlanNode) (s : State) :
    Except DeployError State := do
  let s ← send remote (.unreachable node.ip) s
  match remote.text s.sent with
  | some _ => .ok s.next
  | none => .error (.noHostname node.ip)

def healthy (out : Output) : Bool :=
  match out.loads with
  | some (.obj fields) =>
    match field fields "health" with
    | some (.obj health) =>
      match field health "status" with
      | some (.str "HEALTH_OK") => true
      | some (.str "HEALTH_WARN") => true
      | _ => false
    | _ => false
  | _ => false

/-- `_phase_verify`, from what `ceph -s` gives on the first monitor. -/
def phaseVerify (nodes : List PlanNode) (reply : Option Output) :
    Except DeployError Unit := do
  let _ ← firstMonIp nodes
  match reply with
  | none => .error .noStatus
  | some out => if healthy out then .ok () else .error .unhealthy

def healthPrecheck (remote : Remote) (nodes : List PlanNode) (s : State) :
    Except DeployError State := do
  let _ ← phaseVerify nodes (remote.json s.sent)
  .ok s.next

/-- `_phase_convert_install_cephadm` -/
def installCephadm (remote : Remote) (plan : Plan) (s : State) :
    Except DeployError State :=
  match codenameForVersion plan.version with
  | none => .error (.unknownRelease plan.version)
  | some _ => each plan.nodes (fun node => send remote (.installFailed node.ip)) s

/-- The characters that end a line for `str.splitlines`. -/
def isLineEnd (c : Char) : Bool :=
  ('\n' ≤ c && c ≤ '\r') || ('\x1c' ≤ c && c ≤ '\x1e') ||
    ['\u0085', '\u2028', '\u2029'].contains c

/-- `[u.strip() for u in output.splitlines() if u.strip()]` -/
def strippedLines (output : String) : List String :=
  ((output.toList.splitOnP isLineEnd).map (fun l => trim isSpace (String.ofList l))).filter
    (· ≠ "")

/-- `daemon_id[: -len(".service")] if daemon_id.endswith(".service") else …` -/
def dropService (id : List Char) : List Char :=
  if ".service".toList.isSuffixOf id then id.take (id.length - ".service".toList.length)
  else id

def discoverSystemdDaemonId (output : String) : Option String :=
  match strippedLines output with
  | [] => none
  | unit :: _ =>
    if '@' ∈ unit.toList then
      some (String.ofList (dropService ((unit.toList.dropWhile (· ≠ '@')).drop 1)))
    else none

/-- What an adoption makes of a daemon. -/
def adoptDaemon (chosen : Daemon → Bool) (t : DaemonType) (id : String) (d : Daemon) : Daemon :=
  if d.type = t ∧ d.id = id ∧ chosen d then { d with style := .cephadm } else d

/-- `cephadm adopt --style legacy --name t.id` on a host. -/
def adopt (remote : Remote) (ip : String) (t : DaemonType) (id : String) (s : State) :
    Except DeployError State :=
  if remote.runs s.sent then
    .ok { daemons := Function.update s.daemons ip
            ((s.daemons ip).map (adoptDaemon (remote.adopts s.sent) t id)),
          sent := s.sent + 1 }
  else .error (.adoptFailed ip t id)

def adoptDaemonOnHost (remote : Remote) (t : DaemonType) (node : PlanNode) (s : State) :
    Except DeployError State :=
  if (remote.ls s.sent (s.daemons node.ip)).ids t ≠ [] then .ok s.next
  else
    match remote.text s.next.sent with
    | none => .error (.unitsUnlisted node.ip t)
    | some units =>
      match discoverSystemdDaemonId units with
      | none => .error (.noUnit node.ip t)
      | some id =>
        if id = "" then .error (.noUnit node.ip t)
        else adopt remote node.ip t id s.next.next

/-- `_phase_convert_adopt_mons` and `_phase_convert_adopt_mgrs`. -/
def adoptOfType (remote : Remote) (t : DaemonType) (nodes : List PlanNode) (s : State) :
    Except DeployError State :=
  match nodes.filter (fun n => n.roles.contains t.text) with
  | [] => .error (.noNode t)
  | targets => each targets (adoptDaemonOnHost remote t) s

/-- `_phase_convert_enable_orchestrator` -/
def enableOrchestrator (remote : Remote) (nodes : List PlanNode) (s : State) :
    Except DeployError State := do
  let mon ← firstMonIp nodes
  send remote (.orchestratorFailed mon) s

/-- `_phase_convert_distribute_ssh_key` -/
def distributeSshKey (remote : Remote) (nodes : List PlanNode) (s : State) :
    Except DeployError State := do
  let mon ← firstMonIp nodes
  match remote.text s.sent with
  | none => .error (.noPublicKey mon)
  | some key =>
    if trim isSpace key = "" then .error (.noPublicKey mon)
    else each nodes (fun node => send remote (.keyNotAuthorized node.ip)) s.next

/-- `_phase_convert_register_hosts` -/
def registerHosts (remote : Remote) (nodes : List PlanNode) (s : State) :
    Except DeployError State := do
  let _ ← firstMonIp nodes
  each nodes (fun node => send remote (.hostNotAdded node.ip)) s

/-- `str.isdigit`; other digits than those of ASCII are not numbers here. -/
def isNumber (s : String) : Bool :=
  !s.toList.isEmpty && s.toList.all (fun c => '0' ≤ c && c ≤ '9')

/-- `int(x)` of a number. -/
def number (s : String) : Nat :=
  s.toList.foldl (fun n c => 10 * n + (c.toNat - '0'.toNat)) 0

/-- `sorted(osd_map.keys(), key=lambda x: int(x) if x.isdigit() else x)`: a number
and another text cannot be compared. -/
def sortedOsdIds (ids : List String) : Option (List String) :=
  if ids.all isNumber then
    some (ids.insertionSort (fun a b => number a ≤ number b))
  else if ids.any isNumber then none
  else some (ids.insertionSort (· ≤ ·))

/-- The OSD ids of a listing: none when it is no object. -/
def osdKeys (out : Output) : List String :=
  match out.orIfBlank (.obj []) with
  | some (.obj fields) => keys fields
  | _ => []

/-- One node of `_phase_convert_adopt_osds`. -/
def adoptOsdsOfNode (remote : Remote) (node : PlanNode) (s : State) :
    Except DeployError State :=
  match remote.json s.sent with
  | none => .error (.osdsUnlisted node.ip)
  | some out =>
    match sortedOsdIds (osdKeys out) with
    | none => .error (.unsortable (osdKeys out))
    | some [] => .ok s.next
    | some ids =>
      let managed := (remote.ls s.next.sent (s.daemons node.ip)).ids .osd
      each (ids.filter (fun id => !managed.contains id)) (adopt remote node.ip .osd) s.next.next

/-- `_phase_convert_adopt_osds` -/
def adoptOsds (remote : Remote) (nodes : List PlanNode) (s : State) :
    Except DeployError State :=
  each (nodes.filter (fun n => n.roles.contains "osd")) (adoptOsdsOfNode remote) s

/-- `run`, up to the last phase. -/
def beforeVerify (plan : Plan) (remote : Remote) (s : State) : Except DeployError State := do
  if plan.stale then .error .stale
  let s ← each plan.nodes (sshCheckNode remote) s
  let s ← healthPrecheck remote plan.nodes s
  let s ← installCephadm remote plan s
  let s ← adoptOfType remote .mon plan.nodes s
  let s ← adoptOfType remote .mgr plan.nodes s
  let s ← enableOrchestrator remote plan.nodes s
  let s ← distributeSshKey remote plan.nodes s
  let s ← registerHosts remote plan.nodes s
  adoptOsds remote plan.nodes s

/-! ## The last phase, and the configuration -/

/-- What `ceph -s` and `cephadm ls` give in the last phase; a node is named by its
place in the plan. -/
structure Answers where
  health : Option Output
  ls : Nat → DaemonType → (ds : List Daemon) → LsReply ds

/-- The OSDs of a node that `_phase_convert_verify` misses. -/
def missingOsds (managed : List String) (listing : Option Output) : List String :=
  match listing with
  | none => []
  | some out => (osdKeys out).filter (fun id => !managed.contains id)

/-- One node of `_phase_convert_verify`. -/
def verifyNode (answers : Answers) (listings : Nat → Option Output) (hosts : Hosts)
    (p : PlanNode × Nat) : Except DeployError Unit :=
  let ids := fun t => (answers.ls p.2 t (hosts p.1.ip)).ids t
  if "mon" ∈ p.1.roles ∧ ids .mon = [] then .error (.notManaged p.1.ip .mon)
  else if "mgr" ∈ p.1.roles ∧ ids .mgr = [] then .error (.notManaged p.1.ip .mgr)
  else if "osd" ∈ p.1.roles ∧ missingOsds (ids .osd) (listings p.2) ≠ [] then
    .error (.osdsNotManaged p.1.ip (missingOsds (ids .osd) (listings p.2)))
  else .ok ()

/-- `_phase_convert_verify`; `listings` is what `ceph-volume lvm list` gives on each
node. -/
def verifyPhase (answers : Answers) (listings : Nat → Option Output) (hosts : Hosts)
    (nodes : List PlanNode) : Except DeployError Unit := do
  phaseVerify nodes answers.health
  nodes.zipIdx.forM (verifyNode answers listings hosts)

/-- What `_write_cluster_config` writes. -/
structure Config where
  monNodes : List String
  mgrNodes : List String
  osdNodes : List String
  rgwNodes : List String
  execMode : String
  keyringPath : String
deriving DecidableEq

def writeClusterConfig (nodes : List PlanNode) : Config where
  monNodes := nodeIpsWithRole nodes "mon"
  mgrNodes := nodeIpsWithRole nodes "mgr"
  osdNodes := nodeIpsWithRole nodes "osd"
  rgwNodes := nodeIpsWithRole nodes "rgw"
  execMode := "cephadm"
  keyringPath := "/etc/ceph/ceph.client.admin.keyring"

/-- How a run ends that does not stop: the hosts, and the configuration if it
could be written. -/
structure Result where
  hosts : Hosts
  written : Option Config

/-- `run` of `convert_cluster_to_cephadm`. -/
def run (plan : Plan) (remote : Remote) (listings : Nat → Option Output) (answers : Answers)
    (writes : Bool) (hosts : Hosts) : Except DeployError Result := do
  let s ← beforeVerify plan remote ⟨hosts, 0⟩
  verifyPhase answers listings s.daemons plan.nodes
  .ok ⟨s.daemons, if writes then some (writeClusterConfig plan.nodes) else none⟩

/-! ## Daemons stay converted -/

/-- What cephadm manages, it still manages. -/
def Forward (s s' : State) : Prop :=
  ∀ ip t id, Manages (s.daemons ip) t id → Manages (s'.daemons ip) t id

def KeepsManaged (f : State → Except DeployError State) : Prop :=
  ∀ s s', f s = .ok s' → Forward s s'

/-! ## A listing that leaves nothing out -/

def daemonEntry (d : Daemon) : Json :=
  .obj [("name", .str (d.type.text ++ "." ++ d.id)),
    ("style", .str (match d.style with
      | .legacy => "legacy"
      | .cephadm => "cephadm:v1"))]

private theorem prefix_iff (t t' : DaemonType) (id : List Char) :
    (t.text ++ ".").toList.isPrefixOf ((t'.text ++ ".").toList ++ id) = true ↔ t' = t := by
  cases t <;> cases t' <;> simp [DaemonType.text]

private theorem field_name (name style : Json) :
    field [("name", name), ("style", style)] "name" = some name := by
  simp [field, List.lookup]

private theorem field_style (name style : Json) :
    field [("name", name), ("style", style)] "style" = some style := by
  simp [field]

theorem managedId_daemonEntry (t : DaemonType) (d : Daemon) :
    managedId (t.text ++ ".") (daemonEntry d) =
      if d.type = t ∧ d.style = .cephadm then some d.id else none := by
  have hname : (d.type.text ++ "." ++ d.id).toList =
      (d.type.text ++ ".").toList ++ d.id.toList := String.toList_append
  cases hstyle : d.style with
  | legacy =>
    rw [if_neg (by simp)]
    simp [managedId, daemonEntry, field_name, field_style, hstyle]
  | cephadm =>
    have hfields : managedId (t.text ++ ".") (daemonEntry d) =
        if (t.text ++ ".").toList.isPrefixOf (d.type.text ++ "." ++ d.id).toList then
          some (String.ofList ((d.type.text ++ "." ++ d.id).toList.drop
            (t.text ++ ".").toList.length))
        else none := by
      simp only [managedId, daemonEntry, field_name, field_style, hstyle]
    rw [hfields, hname]
    by_cases htype : d.type = t
    · rw [if_pos ((prefix_iff t d.type d.id.toList).mpr htype), if_pos ⟨htype, rfl⟩, htype,
        List.drop_left, String.ofList_toList]
    · rw [if_neg (fun h => htype ((prefix_iff t d.type d.id.toList).mp h)),
        if_neg (fun h => htype h.1)]

/-- The listing of every daemon. -/
def fullListing (ds : List Daemon) : Output := .json (.arr (ds.map daemonEntry))

theorem mem_fullListing_iff (ds : List Daemon) (t : DaemonType) (id : String) :
    id ∈ cephadmManagedDaemonIds (some (fullListing ds)) t ↔ Manages ds t id := by
  show id ∈ (ds.map daemonEntry).filterMap (managedId (t.text ++ ".")) ↔ _
  rw [List.mem_filterMap]
  constructor
  · intro h
    obtain ⟨entry, hentry, hid⟩ := h
    obtain ⟨d, hd, rfl⟩ := List.mem_map.mp hentry
    rw [managedId_daemonEntry] at hid
    split_ifs at hid with hkind
    exact ⟨d, hd, hkind.1, Option.some.inj hid, hkind.2⟩
  · intro h
    obtain ⟨d, hd, htype, hid, hstyle⟩ := h
    refine ⟨daemonEntry d, List.mem_map_of_mem hd, ?_⟩
    rw [managedId_daemonEntry, if_pos ⟨htype, hstyle⟩, hid]

/-- What `cephadm ls` gives when it leaves nothing out. -/
def fullReply (ds : List Daemon) : LsReply ds where
  reply := some (fullListing ds)
  sound := fun t id h => (mem_fullListing_iff ds t id).mp h

/-! ## What the last phase establishes -/

/-- Every daemon of the nodes is converted. -/
def Converted (hosts : Hosts) (nodes : List PlanNode) : Prop :=
  ∀ node ∈ nodes, ∀ d ∈ hosts node.ip, d.style = .cephadm

/-- A node shows that it is not converted: it has no converted monitor or manager
though its role asks for one, or its OSDs are listed and one of them is not
converted. -/
def ShowsLegacy (ds : List Daemon) (roles : List String) (listing : Option Output) : Prop :=
  ("mon" ∈ roles ∧ ∀ id, ¬ Manages ds .mon id) ∨
    ("mgr" ∈ roles ∧ ∀ id, ¬ Manages ds .mgr id) ∨
    ("osd" ∈ roles ∧ ∃ out id, listing = some out ∧ id ∈ osdKeys out ∧ ¬ Manages ds .osd id)

theorem missingOsds_eq_nil_iff (managed : List String) (listing : Option Output) :
    missingOsds managed listing = [] ↔
      ∀ out, listing = some out → ∀ id ∈ osdKeys out, id ∈ managed := by
  cases listing with
  | none => simp [missingOsds]
  | some out => simp [missingOsds, List.filter_eq_nil_iff]

section

variable (answers : Answers)

theorem verifyNode_ok_iff (listings : Nat → Option Output) (hosts : Hosts) (p : PlanNode × Nat) :
    verifyNode answers listings hosts p = .ok () ↔
      ("mon" ∈ p.1.roles → (answers.ls p.2 .mon (hosts p.1.ip)).ids .mon ≠ []) ∧
      ("mgr" ∈ p.1.roles → (answers.ls p.2 .mgr (hosts p.1.ip)).ids .mgr ≠ []) ∧
      ("osd" ∈ p.1.roles → ∀ out, listings p.2 = some out → ∀ id ∈ osdKeys out,
        id ∈ (answers.ls p.2 .osd (hosts p.1.ip)).ids .osd) := by
  unfold verifyNode
  simp only []
  rw [← missingOsds_eq_nil_iff]
  split_ifs with hmon hmgr hosd
  · simp only [false_iff]
    intro h
    exact h.1 hmon.1 hmon.2
  · simp only [false_iff]
    intro h
    exact h.2.1 hmgr.1 hmgr.2
  · simp only [false_iff]
    intro h
    exact hosd.2 (h.2.2 hosd.1)
  · simp only [true_iff]
    exact ⟨fun hrole h => hmon ⟨hrole, h⟩, fun hrole h => hmgr ⟨hrole, h⟩,
      fun hrole => Classical.not_not.mp (fun h => hosd ⟨hrole, h⟩)⟩

theorem verifyPhase_ok_iff (listings : Nat → Option Output)
    (hosts : Hosts) (nodes : List PlanNode) :
    verifyPhase answers listings hosts nodes = .ok () ↔
      phaseVerify nodes answers.health = .ok () ∧
      ∀ p ∈ nodes.zipIdx, verifyNode answers listings hosts p = .ok () := by
  unfold verifyPhase
  rw [bind_eq_ok, ← forM_eq_ok_iff]
  constructor
  · intro h
    obtain ⟨_, hhealth, hnodes⟩ := h
    exact ⟨hhealth, hnodes⟩
  · intro h
    exact ⟨(), h.1, h.2⟩

theorem verifyNode_fails (listings : Nat → Option Output) (hosts : Hosts)
    (p : PlanNode × Nat) (h : ShowsLegacy (hosts p.1.ip) p.1.roles (listings p.2)) :
    verifyNode answers listings hosts p ≠ .ok () := by
  rw [Ne, verifyNode_ok_iff]
  intro hok
  rcases h with ⟨hrole, hnone⟩ | ⟨hrole, hnone⟩ | ⟨hrole, out, id, hout, hid, hnot⟩
  · obtain ⟨id, hid⟩ := List.exists_mem_of_ne_nil _ (hok.1 hrole)
    exact hnone id ((answers.ls p.2 .mon (hosts p.1.ip)).sound .mon id hid)
  · obtain ⟨id, hid⟩ := List.exists_mem_of_ne_nil _ (hok.2.1 hrole)
    exact hnone id ((answers.ls p.2 .mgr (hosts p.1.ip)).sound .mgr id hid)
  · exact hnot ((answers.ls p.2 .osd (hosts p.1.ip)).sound .osd id
      (hok.2.2 hrole out hout id hid))

end

/-- The answers of a healthy cluster, where `cephadm ls` leaves nothing out. -/
def fullAnswers : Answers where
  health := some (.json (.obj [("health", .obj [("status", .str "HEALTH_OK")])]))
  ls := fun _ _ ds => fullReply ds

theorem verifyNode_fullAnswers (listings : Nat → Option Output) (hosts : Hosts)
    (p : PlanNode × Nat) (h : ¬ ShowsLegacy (hosts p.1.ip) p.1.roles (listings p.2)) :
    verifyNode fullAnswers listings hosts p = .ok () := by
  have hids : ∀ t id, id ∈ (fullReply (hosts p.1.ip)).ids t ↔ Manages (hosts p.1.ip) t id :=
    fun t id => mem_fullListing_iff (hosts p.1.ip) t id
  rw [verifyNode_ok_iff]
  refine ⟨?_, ?_, ?_⟩
  · intro hrole hnil
    apply h
    refine Or.inl ⟨hrole, fun id hid => ?_⟩
    have hmem := (hids .mon id).mpr hid
    have hempty : (fullReply (hosts p.1.ip)).ids .mon = [] := hnil
    rw [hempty] at hmem
    cases hmem
  · intro hrole hnil
    apply h
    refine Or.inr (Or.inl ⟨hrole, fun id hid => ?_⟩)
    have hmem := (hids .mgr id).mpr hid
    have hempty : (fullReply (hosts p.1.ip)).ids .mgr = [] := hnil
    rw [hempty] at hmem
    cases hmem
  · intro hrole out hout id hid
    by_contra hnot
    apply h
    exact Or.inr (Or.inr ⟨hrole, out, id, hout, hid, fun hm => hnot ((hids .osd id).mpr hm)⟩)

theorem firstMon_of_beforeVerify {plan : Plan} {remote : Remote} {s s' : State}
    (h : beforeVerify plan remote s = .ok s') : ∃ mon, firstMonIp plan.nodes = .ok mon := by
  unfold beforeVerify at h
  split_ifs at h
  · cases h
  simp only [bind_eq_ok] at h
  obtain ⟨_, _, _, hhealth, _⟩ := h
  unfold healthPrecheck phaseVerify at hhealth
  simp only [bind_eq_ok] at hhealth
  obtain ⟨_, ⟨mon, hmon, _⟩, _⟩ := hhealth
  exact ⟨mon, hmon⟩

/-- **The configuration is switched to cephadm for converted clusters only exactly
when**, once a run is to be verified, every daemon of the nodes is converted, or a
node shows that it is not. -/
theorem switch_sound_iff (plan : Plan) (remote : Remote) (listings : Nat → Option Output)
    (hosts : Hosts) :
    (∀ (answers : Answers) (writes : Bool) (result : Result) (config : Config),
        run plan remote listings answers writes hosts = .ok result →
        result.written = some config → config.execMode = "cephadm" →
        Converted result.hosts plan.nodes) ↔
      ∀ s, beforeVerify plan remote ⟨hosts, 0⟩ = .ok s →
        Converted s.daemons plan.nodes ∨
        ∃ p ∈ plan.nodes.zipIdx,
          ShowsLegacy (s.daemons p.1.ip) p.1.roles (listings p.2) := by
  constructor
  · intro h s hs
    by_contra hcon
    rw [not_or] at hcon
    obtain ⟨mon, hmon⟩ := firstMon_of_beforeVerify hs
    have hhealth : phaseVerify plan.nodes fullAnswers.health = .ok () := by
      unfold phaseVerify
      rw [hmon]
      rfl
    have hverify : verifyPhase fullAnswers listings s.daemons plan.nodes = .ok () := by
      rw [verifyPhase_ok_iff]
      refine ⟨hhealth, fun p hp => ?_⟩
      apply verifyNode_fullAnswers
      intro hshows
      exact hcon.2 ⟨p, hp, hshows⟩
    have hrun : run plan remote listings fullAnswers true hosts =
        .ok ⟨s.daemons, some (writeClusterConfig plan.nodes)⟩ := by
      unfold run
      rw [hs]
      show (verifyPhase fullAnswers listings s.daemons plan.nodes >>= _) = _
      rw [hverify]
      rfl
    exact hcon.1 (h fullAnswers true _ (writeClusterConfig plan.nodes) hrun rfl rfl)
  · intro h answers writes result config hrun _ _
    unfold run at hrun
    rw [bind_eq_ok] at hrun
    obtain ⟨s, hs, hrun⟩ := hrun
    rw [bind_eq_ok] at hrun
    obtain ⟨_, hverify, hresult⟩ := hrun
    cases hresult
    cases h s hs with
    | inl hconverted => exact hconverted
    | inr hshown =>
      obtain ⟨p, hp, hshows⟩ := hshown
      have hnode := ((verifyPhase_ok_iff answers listings s.daemons plan.nodes).mp hverify).2
        p hp
      exact absurd hnode (verifyNode_fails answers listings s.daemons p hshows)

/-- A converted monitor and manager, and an OSD that is left. -/
def leftOsd : Hosts := fun _ =>
  [⟨"f", .mon, "a", .cephadm⟩, ⟨"f", .mgr, "a", .cephadm⟩, ⟨"f", .osd, "0", .legacy⟩]

/-- One node with every role. -/
def oneNode : Plan := ⟨[⟨"10.0.0.1", ["mon", "mgr", "osd"]⟩], "17.2.5", false⟩

/-- Every command succeeds; `ceph-volume lvm list`, the eleventh one, prints a
warning before its JSON. -/
def warningRemote : Remote where
  runs := fun _ => true
  text := fun _ => some "key"
  json := fun n => if n = 2 then fullAnswers.health else some .malformed
  ls := fun _ ds => fullReply ds
  adopts := fun _ _ => true

/-- An OSD whose host could not be listed is left, and the configuration says
cephadm. -/
theorem switch_with_legacy_osd :
    ¬ ∀ (plan : Plan) (remote : Remote) (listings : Nat → Option Output)
        (answers : Answers) (writes : Bool) (hosts : Hosts) (result : Result)
        (config : Config),
      run plan remote listings answers writes hosts = .ok result →
      result.written = some config → config.execMode = "cephadm" →
      Converted result.hosts plan.nodes := by
  intro h
  have hrun : run oneNode warningRemote (fun _ => some .malformed) fullAnswers true leftOsd =
      .ok ⟨leftOsd, some (writeClusterConfig oneNode.nodes)⟩ := by
    rfl
  have hconverted := h oneNode warningRemote (fun _ => some .malformed) fullAnswers true leftOsd
    _ _ hrun rfl rfl
  have hosd := hconverted _ List.mem_cons_self ⟨"f", .osd, "0", .legacy⟩
    (by simp [leftOsd])
  cases hosd

end CephAi.Ports.ClusterConversion
