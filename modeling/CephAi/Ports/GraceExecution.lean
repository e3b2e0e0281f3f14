import CephAi.Ports.SafeCommands

/-!
# Executing an Action after its grace pause

`_maybe_execute_safe_action` of `worker/llm/router_client.py` reads the hosts, the SSH
credentials and the runtime from the envelope that it is given.  The diagnosis gives it
the envelope of the Incident, which `build_envelope` of `watcher/publisher.py` fills from
the cluster.  `_process_due_grace_actions_once` gives it one that it builds from the rows
of the Action and of its RemediationCase, where the exec mode is kept and nothing else of
the cluster.  What an envelope lacks is taken from the settings, which are those of the
default cluster.

Both ways pass the same gates; the ones that read the envelope are modelled.

## Main results

* `resumed_alike_iff` — when the resumed Action opens the sessions of the direct one, and
  on its own cluster's credentials and runtime only.
* `agree_of_default` — on the default cluster it does.
* `resumed_on_other_credentials` — an Action of another cluster that it does not.
-/

namespace CephAi.Ports.GraceExecution

open Verified.ShellText
open CommandParams
open GetCommand
open SafeCommands

/-! ## Rows and envelopes -/

/-- How a cluster is reached: a row of `clusters`, or the settings. -/
structure Cluster where
  sshUser : String
  sshKeyPath : String
  cephExecMode : String
  cephContainerName : String
deriving DecidableEq, Repr

/-- The Worker: its settings, `redact_text`, and what `_discover_ceph_units` finds on a
host with this user and key path. -/
structure Worker where
  settings : Cluster
  redactText : String → String
  discover : String → String → String → Option Units

/-- What an execution reads of an envelope. -/
structure Envelope where
  nodes : Value
  sshUser : Option String
  sshKeyPath : Option String
  cephExecMode : Option String
  cephContainerName : Option String

def buildEnvelope (cluster : Cluster) (nodes : Value) : Envelope where
  nodes := nodes
  sshUser := some cluster.sshUser
  sshKeyPath := some cluster.sshKeyPath
  cephExecMode := some cluster.cephExecMode
  cephContainerName := some cluster.cephContainerName

/-- What the diagnosis proposes: for OSD restarts with the hosts it has resolved. -/
structure Proposal where
  actionId : String
  resolvedHosts : Option (List String)
  actionParams : Option Params

/-- A row of `actions`, its JSON columns decoded. -/
structure Action where
  actionId : String
  targetNodes : Option (List Value)
  actionParams : Option Params

/-- A row of `remediation_cases`. -/
structure RemediationCase where
  deploymentMode : Option String

/-- A command of the whole cluster needs one node. -/
def oneNode (actionId : String) : Bool :=
  (getContract actionId).any fun contract => ["cluster", "pool"].contains contract.targetSchema

def proposedNodes (p : Proposal) (nodes : Value) : Value :=
  match p.resolvedHosts, nodes with
  | some hosts, _ => .list (hosts.map .str)
  | none, .list values => .list (if oneNode p.actionId then values.take 1 else values)
  | none, other => other

/-- The Action of `diagnose_incident`. -/
def createAction (envelope : Envelope) (p : Proposal) : Action where
  actionId := p.actionId
  targetNodes := (proposedNodes p envelope.nodes).asList
  actionParams := p.actionParams.filter fun params => !params.isEmpty

def createForAction (w : Worker) (envelope : Envelope) : RemediationCase where
  deploymentMode := envelope.cephExecMode.map w.redactText

/-! ## Execution -/

def orNone (value : Option String) : Option String := value.filter fun s => s != ""

/-- The runtime of a command. -/
structure Runtime where
  execMode : String
  containerName : String
deriving DecidableEq, Repr

def runtime (w : Worker) (envelope : Envelope) : Runtime where
  execMode := (orNone envelope.cephExecMode).getD w.settings.cephExecMode
  containerName := (orNone envelope.cephContainerName).getD w.settings.cephContainerName

/-- An SSH session: the command, with what it was built for, or a discovery. -/
structure Session where
  host : String
  command : String
  user : String
  keyPath : String
  runtime : Option Runtime
deriving DecidableEq, Repr

def executeCommand (w : Worker) (host command : String) (user keyPath : Option String)
    (runtime : Option Runtime) : Session where
  host := host
  command := command
  user := user.getD w.settings.sshUser
  keyPath := keyPath.getD w.settings.sshKeyPath
  runtime := runtime

/-- The discovered units, for which no user and no key path is given. -/
def discovered (w : Worker) (host : String) : Option Units :=
  w.discover host w.settings.sshUser w.settings.sshKeyPath

def commandOn (w : Worker) (actionId : String) (params : Params) (r : Runtime)
    (host : String) : Option Command :=
  getSafeCommand (discovered w) actionId host params r.execMode r.containerName

/-- The hosts of an envelope; none when they are missing or malformed. -/
def envelopeHosts : Value → List String
  | .list values =>
    if values.all fun value => value.asStr.any fun host => host != "" then
      values.filterMap Value.asStr
    else []
  | _ => []

/-- The hosts up to the first one that stops the loop. -/
def reached (build : String → Built) : List String → List String
  | [] => []
  | host :: hosts =>
    host :: match build host with
      | .stop => []
      | _ => reached build hosts

/-- The hosts that an execution comes to. -/
def executedHosts (w : Worker) (actionId : String) (nodes : Value) (params : Params) :
    List String :=
  if evaluateAutoExecution actionId nodes params then
    reached (fun host => buildCommand (discovered w) actionId host params) (envelopeHosts nodes)
  else []

/-- The session that asks a host for its units. -/
def asking (w : Worker) (actionId : String) (params : Params) (host : String) : List Session :=
  if discovers actionId params then
    [executeCommand w host "systemctl --all | grep ceph || true" none none none] else []

/-- The session that runs the command. -/
def running (w : Worker) (actionId : String) (params : Params) (user keyPath : Option String)
    (r : Runtime) (host : String) : List Session :=
  (commandOn w actionId params r host).toList.map fun command =>
    executeCommand w host command.text user keyPath (some r)

def sessionsOn (w : Worker) (actionId : String) (envelope : Envelope) (params : Params)
    (host : String) : List Session :=
  asking w actionId params host ++
    running w actionId params (orNone envelope.sshUser) (orNone envelope.sshKeyPath)
      (runtime w envelope) host

/-- The sessions that `_maybe_execute_safe_action` opens on the hosts. -/
def sessions (w : Worker) (actionId : String) (envelope : Envelope) (params : Params) :
    List Session :=
  (executedHosts w actionId envelope.nodes params).flatMap (sessionsOn w actionId envelope params)

/-- `execution_envelope` of `diagnose_incident` -/
def executionEnvelope (envelope : Envelope) (action : Action) : Envelope :=
  match action.targetNodes with
  | some nodes => { envelope with nodes := .list nodes }
  | none => envelope

/-- The Action is executed from the envelope of the diagnosis. -/
def directSessions (w : Worker) (envelope : Envelope) (p : Proposal) : List Session :=
  sessions w p.actionId (executionEnvelope envelope (createAction envelope p))
    (p.actionParams.getD [])

/-- The envelope of `_process_due_grace_actions_once`. -/
def graceEnvelope (action : Action) (row : RemediationCase) : Envelope where
  nodes := .list (action.targetNodes.getD [])
  sshUser := none
  sshKeyPath := none
  cephExecMode := row.deploymentMode
  cephContainerName := none

/-- The Action is executed after its pause. -/
def graceSessions (w : Worker) (action : Action) (row : RemediationCase) : List Session :=
  sessions w action.actionId (graceEnvelope action row) (action.actionParams.getD [])

/-! ## The claim -/

def proposalHosts (w : Worker) (envelope : Envelope) (p : Proposal) : List String :=
  executedHosts w p.actionId (executionEnvelope envelope (createAction envelope p)).nodes
    (p.actionParams.getD [])

/-- `docker` and `podman` run a command in a container with this name. -/
def needsContainer (execMode : String) : Prop := execMode = "docker" ∨ execMode = "podman"

/-- A session uses the cluster's own credentials and runtime. -/
structure Session.Own (cluster : Cluster) (s : Session) : Prop where
  user : s.user = cluster.sshUser
  keyPath : s.keyPath = cluster.sshKeyPath
  execMode : ∀ r, s.runtime = some r → r.execMode = cluster.cephExecMode
  containerName : ∀ r, s.runtime = some r → needsContainer cluster.cephExecMode →
    r.containerName = cluster.cephContainerName

/-- The resumed Action opens the sessions of the direct one, with the cluster's own
credentials and runtime. -/
def ResumedAlike (w : Worker) (cluster : Cluster) (nodes : Value) (p : Proposal) : Prop :=
  let envelope := buildEnvelope cluster nodes
  let resumed := graceSessions w (createAction envelope p) (createForAction w envelope)
  resumed = directSessions w envelope p ∧ ∀ s ∈ resumed, s.Own cluster

/-- The runtime after the pause: what `redact_text` leaves of the exec mode, and the
container name of the settings. -/
def resumedRuntime (w : Worker) (cluster : Cluster) : Runtime where
  execMode := (orNone (some (w.redactText cluster.cephExecMode))).getD w.settings.cephExecMode
  containerName := w.settings.cephContainerName

def directRuntime (w : Worker) (cluster : Cluster) : Runtime where
  execMode := (orNone (some cluster.cephExecMode)).getD w.settings.cephExecMode
  containerName := (orNone (some cluster.cephContainerName)).getD w.settings.cephContainerName

/-- A command is built for some host, in one of the runtimes. -/
def Builds (w : Worker) (cluster : Cluster) (nodes : Value) (p : Proposal) : Prop :=
  ∃ host ∈ proposalHosts w (buildEnvelope cluster nodes) p,
    ∃ r ∈ [resumedRuntime w cluster, directRuntime w cluster],
      (commandOn w p.actionId (p.actionParams.getD []) r host).isSome = true

/-- Some host is asked for its units. -/
def Asks (w : Worker) (cluster : Cluster) (nodes : Value) (p : Proposal) : Prop :=
  discovers p.actionId (p.actionParams.getD []) = true ∧
    proposalHosts w (buildEnvelope cluster nodes) p ≠ []

/-- The settings have the cluster's credentials when a session is opened, and its runtime
when a command is built. -/
structure Agree (w : Worker) (cluster : Cluster) (nodes : Value) (p : Proposal) : Prop where
  credentials : Asks w cluster nodes p ∨ Builds w cluster nodes p →
    w.settings.sshUser = cluster.sshUser ∧ w.settings.sshKeyPath = cluster.sshKeyPath
  execMode : Builds w cluster nodes p →
    (resumedRuntime w cluster).execMode = cluster.cephExecMode
  containerName : Builds w cluster nodes p →
    w.settings.cephContainerName = cluster.cephContainerName ∨
      cluster.cephContainerName = "" ∧ ¬ needsContainer cluster.cephExecMode

/-! ### Rows -/

theorem actionParams_createAction (envelope : Envelope) (p : Proposal) :
    (createAction envelope p).actionParams.getD [] = p.actionParams.getD [] := by
  show (p.actionParams.filter fun params => !params.isEmpty).getD [] = p.actionParams.getD []
  cases p.actionParams with
  | none => rfl
  | some params =>
    cases params with
    | nil | cons => rfl

theorem executedHosts_of_asList {w : Worker} {actionId : String} {nodes : Value}
    {params : Params} (h : ∀ values, nodes = .list values → values = []) :
    executedHosts w actionId nodes params = [] := by
  unfold executedHosts
  rw [if_neg]
  intro heval
  obtain ⟨values, hvalues, hne, _⟩ := hosts_of_evaluate heval
  exact hne (h values hvalues)

theorem executedHosts_graceEnvelope (w : Worker) (envelope : Envelope) (p : Proposal)
    (row : RemediationCase) :
    executedHosts w p.actionId (graceEnvelope (createAction envelope p) row).nodes
      (p.actionParams.getD []) = proposalHosts w envelope p := by
  unfold proposalHosts executionEnvelope graceEnvelope
  cases hnodes : (createAction envelope p).targetNodes with
  | some values => rfl
  | none =>
    have hlist : ∀ values, envelope.nodes ≠ .list values := by
      intro values hvalues
      unfold createAction proposedNodes at hnodes
      rw [hvalues] at hnodes
      cases hresolved : p.resolvedHosts <;> simp [hresolved, Value.asList] at hnodes
    rw [executedHosts_of_asList, executedHosts_of_asList]
    · intro values hvalues
      exact absurd hvalues (hlist values)
    · intro values hvalues
      injection hvalues with hempty
      exact hempty.symm

/-! ### Sessions -/

@[simp] theorem getD_orNone_some (a b : String) :
    (orNone (some a)).getD b = if a = "" then b else a := by
  unfold orNone Option.filter
  by_cases ha : a = "" <;> simp [ha]

theorem mem_asking {w : Worker} {s : Session} {actionId : String} {params : Params} {host : String} :
    s ∈ asking w actionId params host ↔ discovers actionId params = true ∧
      s = executeCommand w host "systemctl --all | grep ceph || true" none none none := by
  unfold asking
  by_cases hdiscovers : discovers actionId params = true <;> simp [hdiscovers]

variable {s : Session}

theorem mem_running {w : Worker} {actionId : String} {params : Params}
    {user keyPath : Option String} {r : Runtime} {host : String} :
    s ∈ running w actionId params user keyPath r host ↔
      ∃ command, commandOn w actionId params r host = some command ∧
        s = executeCommand w host command.text user keyPath (some r) := by
  unfold running
  simp [eq_comm]

variable (w : Worker) (cluster : Cluster) (nodes : Value) (p : Proposal)

theorem graceSessions_eq :
    graceSessions w (createAction (buildEnvelope cluster nodes) p)
        (createForAction w (buildEnvelope cluster nodes)) =
      (proposalHosts w (buildEnvelope cluster nodes) p).flatMap fun host =>
        asking w p.actionId (p.actionParams.getD []) host ++
          running w p.actionId (p.actionParams.getD []) none none (resumedRuntime w cluster)
            host := by
  unfold graceSessions sessions
  rw [actionParams_createAction]
  show (executedHosts w p.actionId (graceEnvelope _ _).nodes _).flatMap _ = _
  rw [executedHosts_graceEnvelope]
  rfl

theorem directSessions_eq :
    directSessions w (buildEnvelope cluster nodes) p =
      (proposalHosts w (buildEnvelope cluster nodes) p).flatMap fun host =>
        asking w p.actionId (p.actionParams.getD []) host ++
          running w p.actionId (p.actionParams.getD []) (orNone (some cluster.sshUser))
            (orNone (some cluster.sshKeyPath)) (directRuntime w cluster) host := by
  unfold directSessions sessions
  show (proposalHosts w (buildEnvelope cluster nodes) p).flatMap _ = _
  apply List.flatMap_congr
  intro host _
  unfold sessionsOn executionEnvelope
  cases (createAction (buildEnvelope cluster nodes) p).targetNodes <;> rfl

/-! ### Credentials and runtimes -/

theorem of_mem_graceSessions
    (hs : s ∈ graceSessions w (createAction (buildEnvelope cluster nodes) p)
      (createForAction w (buildEnvelope cluster nodes))) :
    s.user = w.settings.sshUser ∧ s.keyPath = w.settings.sshKeyPath ∧
      ∀ r, s.runtime = some r → r = resumedRuntime w cluster := by
  rw [graceSessions_eq, List.mem_flatMap] at hs
  obtain ⟨host, _, hs⟩ := hs
  rw [List.mem_append, mem_asking, mem_running] at hs
  rcases hs with ⟨_, rfl⟩ | ⟨command, _, rfl⟩
  · exact ⟨rfl, rfl, fun r hr => nomatch hr⟩
  · refine ⟨rfl, rfl, ?_⟩
    intro r hr
    exact (Option.some.inj hr).symm

theorem runtime_of_mem_directSessions (hs : s ∈ directSessions w (buildEnvelope cluster nodes) p) :
    ∀ r, s.runtime = some r → r = directRuntime w cluster := by
  rw [directSessions_eq, List.mem_flatMap] at hs
  obtain ⟨host, _, hs⟩ := hs
  rw [List.mem_append, mem_asking, mem_running] at hs
  intro r hr
  rcases hs with ⟨_, rfl⟩ | ⟨command, _, rfl⟩
  · exact nomatch hr
  · exact (Option.some.inj hr).symm

theorem exists_running_of_builds
    (heq : graceSessions w (createAction (buildEnvelope cluster nodes) p)
        (createForAction w (buildEnvelope cluster nodes)) =
      directSessions w (buildEnvelope cluster nodes) p)
    (hbuilds : Builds w cluster nodes p) :
    resumedRuntime w cluster = directRuntime w cluster ∧
      ∃ s ∈ graceSessions w (createAction (buildEnvelope cluster nodes) p)
        (createForAction w (buildEnvelope cluster nodes)),
        s.runtime = some (resumedRuntime w cluster) := by
  obtain ⟨host, hhost, r, hr, hcommand⟩ := hbuilds
  obtain ⟨command, hcommand⟩ := Option.isSome_iff_exists.mp hcommand
  rw [List.mem_cons, List.mem_singleton] at hr
  rcases hr with rfl | rfl
  · have hs : executeCommand w host command.text none none (some (resumedRuntime w cluster)) ∈
        graceSessions w (createAction (buildEnvelope cluster nodes) p)
          (createForAction w (buildEnvelope cluster nodes)) := by
      rw [graceSessions_eq, List.mem_flatMap]
      refine ⟨host, hhost, List.mem_append_right _ ?_⟩
      exact mem_running.mpr ⟨command, hcommand, rfl⟩
    have hdirect := heq ▸ hs
    exact ⟨runtime_of_mem_directSessions w cluster nodes p hdirect _ rfl, _, hs, rfl⟩
  · have hs : executeCommand w host command.text (orNone (some cluster.sshUser))
          (orNone (some cluster.sshKeyPath)) (some (directRuntime w cluster)) ∈
        directSessions w (buildEnvelope cluster nodes) p := by
      rw [directSessions_eq, List.mem_flatMap]
      refine ⟨host, hhost, List.mem_append_right _ ?_⟩
      exact mem_running.mpr ⟨command, hcommand, rfl⟩
    rw [← heq] at hs
    have hruntime := (of_mem_graceSessions w cluster nodes p hs).2.2 _ rfl
    exact ⟨hruntime.symm, _, hs, by rw [← hruntime]; rfl⟩

theorem runtime_eq_of_agree (hagree : Agree w cluster nodes p)
    (hbuilds : Builds w cluster nodes p) : resumedRuntime w cluster = directRuntime w cluster := by
  have hmode := hagree.execMode hbuilds
  have hname := hagree.containerName hbuilds
  unfold resumedRuntime directRuntime at *
  simp only [getD_orNone_some] at *
  congr 1
  · by_cases hempty : cluster.cephExecMode = ""
    · rw [if_pos hempty]
      split_ifs at hmode ⊢ with hredacted
      · rfl
      · exact absurd (hmode.trans hempty) hredacted
    · rw [if_neg hempty]
      exact hmode
  · split_ifs with hempty
    · rfl
    · rcases hname with hname | ⟨hname, _⟩
      · exact hname
      · exact absurd hname hempty

theorem agree_of_resumedAlike (h : ResumedAlike w cluster nodes p) : Agree w cluster nodes p := by
  obtain ⟨heq, hown⟩ := h
  have hresumed : ∀ s ∈ graceSessions w (createAction (buildEnvelope cluster nodes) p)
      (createForAction w (buildEnvelope cluster nodes)),
      w.settings.sshUser = cluster.sshUser ∧ w.settings.sshKeyPath = cluster.sshKeyPath := by
    intro s hs
    obtain ⟨huser, hkeyPath, _⟩ := of_mem_graceSessions w cluster nodes p hs
    exact ⟨huser ▸ (hown s hs).user, hkeyPath ▸ (hown s hs).keyPath⟩
  constructor
  · rintro (⟨hdiscovers, hhosts⟩ | hbuilds)
    · obtain ⟨host, hhost⟩ := List.exists_mem_of_ne_nil _ hhosts
      apply hresumed (executeCommand w host "systemctl --all | grep ceph || true" none none none)
      rw [graceSessions_eq, List.mem_flatMap]
      exact ⟨host, hhost, List.mem_append_left _ (mem_asking.mpr ⟨hdiscovers, rfl⟩)⟩
    · obtain ⟨_, s, hs, _⟩ := exists_running_of_builds w cluster nodes p heq hbuilds
      exact hresumed s hs
  · intro hbuilds
    obtain ⟨_, s, hs, hruntime⟩ := exists_running_of_builds w cluster nodes p heq hbuilds
    exact (hown s hs).execMode _ hruntime
  · intro hbuilds
    obtain ⟨hsame, s, hs, hruntime⟩ := exists_running_of_builds w cluster nodes p heq hbuilds
    have hname : w.settings.cephContainerName =
        if cluster.cephContainerName = "" then w.settings.cephContainerName
        else cluster.cephContainerName := by
      rw [← getD_orNone_some]
      exact congrArg Runtime.containerName hsame
    by_cases hempty : cluster.cephContainerName = ""
    · by_cases hneeds : needsContainer cluster.cephExecMode
      · exact Or.inl ((hown s hs).containerName _ hruntime hneeds)
      · exact Or.inr ⟨hempty, hneeds⟩
    · rw [if_neg hempty] at hname
      exact Or.inl hname

theorem graceSessions_eq_directSessions (hagree : Agree w cluster nodes p) :
    graceSessions w (createAction (buildEnvelope cluster nodes) p)
        (createForAction w (buildEnvelope cluster nodes)) =
      directSessions w (buildEnvelope cluster nodes) p := by
  rw [graceSessions_eq, directSessions_eq]
  apply List.flatMap_congr
  intro host hhost
  congr 1
  by_cases hbuilds : Builds w cluster nodes p
  · have hruntime := runtime_eq_of_agree w cluster nodes p hagree hbuilds
    obtain ⟨huser, hkeyPath⟩ := hagree.credentials (Or.inr hbuilds)
    unfold running executeCommand
    rw [hruntime, getD_orNone_some, getD_orNone_some, huser, hkeyPath]
    simp
  · have hnone : ∀ r ∈ [resumedRuntime w cluster, directRuntime w cluster],
        commandOn w p.actionId (p.actionParams.getD []) r host = none := by
      intro r hr
      rw [← Option.not_isSome_iff_eq_none]
      intro hsome
      exact hbuilds ⟨host, hhost, r, hr, hsome⟩
    unfold running
    rw [hnone _ (by simp), hnone _ (by simp)]
    rfl

theorem own_of_agree (hagree : Agree w cluster nodes p)
    (hs : s ∈ graceSessions w (createAction (buildEnvelope cluster nodes) p)
      (createForAction w (buildEnvelope cluster nodes))) : s.Own cluster := by
  rw [graceSessions_eq, List.mem_flatMap] at hs
  obtain ⟨host, hhost, hs⟩ := hs
  rw [List.mem_append, mem_asking, mem_running] at hs
  rcases hs with ⟨hdiscovers, rfl⟩ | ⟨command, hcommand, rfl⟩
  · have hasks : Asks w cluster nodes p := ⟨hdiscovers, List.ne_nil_of_mem hhost⟩
    obtain ⟨huser, hkeyPath⟩ := hagree.credentials (Or.inl hasks)
    exact ⟨huser, hkeyPath, fun r hr => (nomatch hr), fun r hr => (nomatch hr)⟩
  · have hbuilds : Builds w cluster nodes p :=
      ⟨host, hhost, _, List.mem_cons_self, Option.isSome_iff_exists.mpr ⟨command, hcommand⟩⟩
    obtain ⟨huser, hkeyPath⟩ := hagree.credentials (Or.inr hbuilds)
    refine ⟨huser, hkeyPath, ?_, ?_⟩
    · intro r hr
      obtain rfl := Option.some.inj hr
      exact hagree.execMode hbuilds
    · intro r hr hneeds
      obtain rfl := Option.some.inj hr
      rcases hagree.containerName hbuilds with hname | ⟨_, hneedless⟩
      · exact hname
      · exact absurd hneeds hneedless

/-- **When the resumed Action runs as the direct one.**  It opens the same sessions, all of
them with the cluster's own credentials and runtime, exactly when the settings of the
default cluster agree with the cluster on what is opened. -/
theorem resumed_alike_iff : ResumedAlike w cluster nodes p ↔ Agree w cluster nodes p := by
  constructor
  · exact agree_of_resumedAlike w cluster nodes p
  · intro hagree
    exact ⟨graceSessions_eq_directSessions w cluster nodes p hagree,
      fun s hs => own_of_agree w cluster nodes p hagree hs⟩

/-- A Worker whose default cluster runs in Docker. -/
def dockerWorker : Worker where
  settings := ⟨"root", "/keys/default", "docker", "ceph-mon"⟩
  redactText := id
  discover := fun _ _ _ => none

/-- Another cluster, under cephadm. -/
def otherCluster : Cluster where
  sshUser := "cephadm"
  sshKeyPath := "/keys/other"
  cephExecMode := "cephadm"
  cephContainerName := ""

/-- The crash reports of the cluster are archived, on a MON. -/
def archiveCrashes : Proposal where
  actionId := "crash_archive_all"
  resolvedHosts := none
  actionParams := none

/-- **The resumed Action of another cluster** logs in with the default cluster's user and
key, where the direct one has the cluster's own. -/
theorem resumed_on_other_credentials :
    (graceSessions dockerWorker
        (createAction (buildEnvelope otherCluster (.list [.str "mon-b"])) archiveCrashes)
        (createForAction dockerWorker
          (buildEnvelope otherCluster (.list [.str "mon-b"])))).map
        (fun s => (s.host, s.user, s.keyPath)) = [("mon-b", "root", "/keys/default")] ∧
      (directSessions dockerWorker (buildEnvelope otherCluster (.list [.str "mon-b"]))
        archiveCrashes).map (fun s => (s.host, s.user, s.keyPath)) =
          [("mon-b", "cephadm", "/keys/other")] ∧
      ¬ ResumedAlike dockerWorker otherCluster (.list [.str "mon-b"]) archiveCrashes := by
  have hresumed : (graceSessions dockerWorker
      (createAction (buildEnvelope otherCluster (.list [.str "mon-b"])) archiveCrashes)
      (createForAction dockerWorker (buildEnvelope otherCluster (.list [.str "mon-b"])))).map
      (fun s => (s.host, s.user, s.keyPath)) = [("mon-b", "root", "/keys/default")] := by
    decide
  have hdirect : (directSessions dockerWorker
      (buildEnvelope otherCluster (.list [.str "mon-b"])) archiveCrashes).map
      (fun s => (s.host, s.user, s.keyPath)) = [("mon-b", "cephadm", "/keys/other")] := by
    decide
  refine ⟨hresumed, hdirect, ?_⟩
  intro ⟨heq, _⟩
  rw [heq, hdirect] at hresumed
  revert hresumed
  decide

end CephAi.Ports.GraceExecution
