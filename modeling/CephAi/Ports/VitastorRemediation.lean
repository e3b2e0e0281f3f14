import CephAi.Ports.CommandParams
import CephAi.Verified.Runs
import CephAi.Verified.Table
import Mathlib

/-!
# Remediation of Vitastor clusters

`vitastor/remediation.py`, the approvals of `dashboard/routes/vitastor_actions.py` and the switch of
`dashboard/routes/vitastor_chat.py`.  One monitor polls the clusters; any number of operators
approve and reject what it proposes, each approval has a task of its own, and any of them may stop
between two transactions.  `reject_action` writes the row by its id, after it has read the status.

## Main results

* `sound_step` — what each step keeps of the rows, the audit trail, the tasks and the commands.
* `commanded_once` — a command runs once, after an administrator's approval.
* `spare_step`, `proposed_once` — an OSD that stays down is proposed once.
-/

namespace CephAi.Ports.VitastorRemediation

open CommandParams Verified.Runs Verified.Table

/-! ## Policy and commands -/

inductive Classification
  | safe
  | risky
deriving DecidableEq, Repr

def safeActionIds : List String := ["resync_time"]

def riskyActionIds : List String :=
  ["start_osd_service", "restart_osd_service", "restart_mon_service", "restart_etcd_service",
    "investigate_manually"]

def classifyAction (actionId : String) : Classification :=
  if safeActionIds.contains actionId && !riskyActionIds.contains actionId then .safe else .risky

/-- `VitastorRemediationError` -/
inductive Refusal
  | osdId (osdId : String)
  | unsupported (actionId : String)
  | noHost
  | unknownHost (host : String)
deriving DecidableEq, Repr

/-- `_OSD_ID_RE` -/
def isOsdId (s : String) : Bool :=
  s.toList.all Char.isDigit && decide (1 ≤ s.length ∧ s.length ≤ 10)

/-- `_require_osd_id`, of the parameter's text. -/
def requireOsdId (param : String) : Except Refusal String :=
  if isOsdId (trim isSpace param) then .ok (trim isSpace param)
  else .error (.osdId (trim isSpace param))

def resyncTime : String :=
  "chronyc makestep 2>/dev/null || systemctl restart chrony 2>/dev/null " ++
    "|| systemctl restart chronyd 2>/dev/null || systemctl restart systemd-timesyncd"

/-- `build_command`; some actions have no command. -/
def buildCommand (actionId osdId : String) : Except Refusal (Option String) :=
  match actionId with
  | "start_osd_service" =>
    (requireOsdId osdId).map fun osd => some ("systemctl start vitastor-osd@" ++ osd)
  | "restart_osd_service" =>
    (requireOsdId osdId).map fun osd => some ("systemctl restart vitastor-osd@" ++ osd)
  | "restart_mon_service" => .ok (some "systemctl restart vitastor-mon")
  | "restart_etcd_service" => .ok (some "systemctl restart vitastor-etcd")
  | "resync_time" => .ok (some resyncTime)
  | "investigate_manually" => .ok none
  | _ => .error (.unsupported actionId)

/-- `run_remediation`: the command that goes to the host, if any. -/
def runRemediation (actionId osdId targetHost : String) (allowed : List String) :
    Except Refusal (Option String) :=
  match buildCommand actionId osdId with
  | .error refusal => .error refusal
  | .ok none => .ok none
  | .ok (some command) =>
    let host := trim isSpace targetHost
    if host = "" then .error .noHost
    else if allowed.contains host then .ok (some command)
    else .error (.unknownHost host)

/-! ## Proposals -/

/-- A row of the telemetry; its values are known as texts. -/
structure OsdRow where
  type : String
  up : Bool
  name : Option String
  id : String
  parent : String
deriving DecidableEq, Repr

structure Cluster where
  isActive : Bool
  managementHost : String
  /-- The hosts of the cached deployment, and the cached telemetry. -/
  nodes : List String
  osds : List OsdRow
deriving DecidableEq, Repr

/-- `known_hosts`, with the telemetry it is given. -/
def knownHosts (c : Cluster) (osds : List OsdRow) : List String :=
  ((c.managementHost :: c.nodes ++
    (osds.filter (·.type = "osd")).map OsdRow.parent).map (trim isSpace)).filter (· ≠ "")

structure Proposal where
  actionId : String
  targetHost : String
  osdId : String
deriving DecidableEq, Repr

/-- The text of a `dedup_key`. -/
def dedupKey (actionId targetHost osdId : String) : String :=
  actionId ++ ":" ++ targetHost ++ ":" ++ osdId

/-- One row of `propose_from_status`. -/
def OsdRow.propose (row : OsdRow) : Option Proposal :=
  if row.type ≠ "osd" ∨ row.up = true then none
  else
    let osdId := trim isSpace (row.name.getD row.id)
    let host := trim isSpace row.parent
    if isOsdId osdId = true ∧ host ≠ "" then some ⟨"restart_osd_service", host, osdId⟩ else none

def proposeFromStatus (osds : List OsdRow) : List Proposal := osds.filterMap OsdRow.propose

def Proposal.key (p : Proposal) : String := dedupKey p.actionId p.targetHost p.osdId

/-! ## Rows, audit trail and tasks -/

/-- `VitastorActionStatus` -/
inductive Status
  | pendingApproval
  | autoExecuted
  | approved
  | rejected
  | executing
  | executed
  | failed
deriving DecidableEq, Repr

/-- `_OPEN_STATUSES` -/
def Status.isOpen : Status → Bool
  | .pendingApproval | .approved | .executing => true
  | _ => false

/-- A row of `VitastorRemediationAction`. -/
structure Action where
  id : Nat
  clusterId : String
  actionId : String
  classification : Classification
  status : Status
  targetHost : String
  osdId : String
  dedupKey : String
deriving DecidableEq, Repr

instance : Keyed Action := ⟨Action.id⟩

inductive Event
  | proposed
  | autoExecute
  | autoExecuted
  | approved
  | rejected
  | executing
  | executed
  | failed
deriving DecidableEq, Repr

structure Entry where
  event : Event
  actionPk : Nat
  actor : String
deriving DecidableEq, Repr

/-- What a task has read of its row when it has claimed it. -/
structure Job where
  actionPk : Nat
  actionId : String
  osdId : String
  targetHost : String
  allowed : List String
deriving DecidableEq, Repr

/-- Where a request or a task is. -/
inductive Phase
  | idle
  /-- `reject_action` has read a pending row. -/
  | rejecting (actionPk : Nat) (user : String)
  /-- `_execute_approved` is queued. -/
  | queued (actionPk : Nat) (user : String)
  | claimed (job : Job) (user : String)
  | ended (actionPk : Nat) (ok : Bool) (user : String)
deriving DecidableEq, Repr

structure World where
  clusters : String → Option Cluster
  actions : List Action
  /-- The newest entry is the first. -/
  audit : List Entry
  tasks : Nat → Phase
  /-- The commands that went to a host, with the action they are for. -/
  commands : List (Nat × String)

inductive Label
  /-- `reconcile_monitor_proposals`; what it runs itself succeeds or not. -/
  | poll (clusterId : String) (osds : List OsdRow) (ran : Nat → Bool)
  | persist (clusterId : String) (osds : List OsdRow)
  | approve (p actionPk : Nat) (user : String)
  | readReject (p actionPk : Nat) (user : String)
  | writeReject (p : Nat)
  | claim (p : Nat)
  | run (p : Nat) (ran : Bool)
  | finish (p : Nat)
  | toggle (clusterId : String) (operations : Bool)
  | stop (p : Nat)

def World.goTo (w : World) (p : Nat) (ph : Phase) : World :=
  { w with tasks := Function.update w.tasks p ph }

/-- `record_audit` -/
def World.record (w : World) (event : Event) (actionPk : Nat) (actor : String) : World :=
  { w with audit := ⟨event, actionPk, actor⟩ :: w.audit }

def World.setStatus (w : World) (actionPk : Nat) (status : Status) : World :=
  { w with actions := modify w.actions actionPk fun r => { r with status := status } }

def World.setCluster (w : World) (clusterId : String) (c : Cluster) : World :=
  { w with clusters := Function.update w.clusters clusterId (some c) }

/-- Keys of faults that are over are given back. -/
def World.release (w : World) (clusterId : String) (current : List String) : World :=
  { w with
    actions := update w.actions
      (fun r => r.clusterId = clusterId ∧ r.dedupKey ≠ "" ∧ r.dedupKey ∉ current ∧
        r.status.isOpen = false)
      fun r => { r with dedupKey := "" } }

def World.owns (w : World) (clusterId key : String) : Bool :=
  w.actions.any fun r => r.clusterId = clusterId ∧ r.dedupKey = key ∧ r.dedupKey ≠ ""

/-- The row that is added for a proposal. -/
def Proposal.row (p : Proposal) (id : Nat) (clusterId : String) : Action where
  id := id
  clusterId := clusterId
  actionId := p.actionId
  classification := classifyAction p.actionId
  status := .pendingApproval
  targetHost := p.targetHost
  osdId := p.osdId
  dedupKey := p.key

/-- `_auto_execute` -/
def World.autoExecute (w : World) (r : Action) (allowed : List String) (ran : Bool) : World :=
  let w := w.record .autoExecute r.id "vitastor-monitor"
  match runRemediation r.actionId r.osdId r.targetHost allowed with
  | .error _ => (w.setStatus r.id .failed).record .failed r.id "vitastor-monitor"
  | .ok command =>
    let w := { w with commands := (command.map (Prod.mk r.id)).toList ++ w.commands }
    if ran then (w.setStatus r.id .autoExecuted).record .autoExecuted r.id "vitastor-monitor"
    else (w.setStatus r.id .failed).record .failed r.id "vitastor-monitor"

def World.propose (clusterId : String) (allowed : List String) (ran : Nat → Bool) (w : World)
    (p : Proposal) : World :=
  if w.owns clusterId p.key then w
  else
    match buildCommand p.actionId p.osdId with
    | .error _ => w
    | .ok _ =>
      let r := p.row (fresh w.actions) clusterId
      let w := { w with actions := insert w.actions r }
      match r.classification with
      | .safe => w.autoExecute r allowed (ran r.id)
      | .risky => w.record .proposed r.id "vitastor-monitor"

/-- `reconcile_monitor_proposals` -/
def World.reconcile (w : World) (clusterId : String) (c : Cluster) (osds : List OsdRow)
    (ran : Nat → Bool) : World :=
  let proposals := proposeFromStatus osds
  proposals.foldl (World.propose clusterId (knownHosts c osds) ran)
    (w.release clusterId (proposals.map Proposal.key))

/-- The cluster is there and is not switched off. -/
def World.activeCluster (w : World) (clusterId : String) : Option Cluster :=
  (w.clusters clusterId).filter (·.isActive)

section

variable (admin : String → Bool)

/-- One step; `none` when it is not the task's turn, or the request is refused. -/
def step (w : World) : Label → Option World
  | .poll clusterId osds ran =>
    (w.clusters clusterId).map fun c => w.reconcile clusterId c osds ran
  | .persist clusterId osds =>
    (w.clusters clusterId).map fun c => w.setCluster clusterId { c with osds := osds }
  | .approve p actionPk user =>
    match w.tasks p, get w.actions actionPk with
    | .idle, some r =>
      if admin user = true ∧ (w.activeCluster r.clusterId).isSome = true ∧
          r.status = .pendingApproval then
        some (((w.setStatus actionPk .approved).record .approved actionPk user).goTo p
          (.queued actionPk user))
      else none
    | _, _ => none
  | .readReject p actionPk user =>
    match w.tasks p, get w.actions actionPk with
    | .idle, some r =>
      if admin user = true ∧ r.status = .pendingApproval then
        some (w.goTo p (.rejecting actionPk user))
      else none
    | _, _ => none
  | .writeReject p =>
    match w.tasks p with
    | .rejecting actionPk user =>
      some (((w.setStatus actionPk .rejected).record .rejected actionPk user).goTo p .idle)
    | _ => none
  | .claim p =>
    match w.tasks p with
    | .queued actionPk user =>
      match get w.actions actionPk with
      | none => some (w.goTo p .idle)
      | some r =>
        if r.status = .approved then
          match w.activeCluster r.clusterId with
          | none => some (((w.setStatus actionPk .failed).record .failed actionPk user).goTo p .idle)
          | some c =>
            some (((w.setStatus actionPk .executing).record .executing actionPk user).goTo p
              (.claimed ⟨actionPk, r.actionId, r.osdId, r.targetHost, knownHosts c c.osds⟩ user))
        else some (w.goTo p .idle)
    | _ => none
  | .run p ran =>
    match w.tasks p with
    | .claimed job user =>
      match runRemediation job.actionId job.osdId job.targetHost job.allowed with
      | .error _ => some (w.goTo p (.ended job.actionPk false user))
      | .ok none => some (w.goTo p (.ended job.actionPk true user))
      | .ok (some command) =>
        some ({ w with commands := (job.actionPk, command) :: w.commands }.goTo p
          (.ended job.actionPk ran user))
    | _ => none
  | .finish p =>
    match w.tasks p with
    | .ended actionPk ok user =>
      some (((w.setStatus actionPk (if ok then .executed else .failed)).record
        (if ok then .executed else .failed) actionPk user).goTo p .idle)
    | _ => none
  | .toggle clusterId operations =>
    match w.clusters clusterId with
    | none => none
    | some c =>
      if c.isActive = true ∧ (operations = true ∨
          w.actions.any fun r => r.clusterId = clusterId ∧ r.status.isOpen = true) then none
      else some (w.setCluster clusterId { c with isActive := !c.isActive })
  | .stop p => some (w.goTo p .idle)

/-- The monitor, the operators and the tasks. -/
def remediation : System World Label := ⟨step admin⟩

end

/-- Nothing was proposed yet. -/
def World.start (clusters : String → Option Cluster) : World where
  clusters := clusters
  actions := []
  audit := []
  tasks := fun _ => .idle
  commands := []

/-! ## What the audit trail says -/

/-- The actions that have an entry of this event. -/
def ids (audit : List Entry) (event : Event) : List Nat :=
  (audit.filter (·.event = event)).map Entry.actionPk

/-- Each command that went to a host is the only one of its action, is the restart of one OSD, and
has an administrator's approval; nothing runs by itself. -/
structure Lawful (admin : String → Bool) (w : World) : Prop where
  once : (w.commands.map Prod.fst).Nodup
  restart : ∀ c ∈ w.commands, ∃ osd, isOsdId osd = true ∧
    c.2 = "systemctl restart vitastor-osd@" ++ osd
  approved : ∀ c ∈ w.commands, ∃ user, admin user = true ∧ ⟨.approved, c.1, user⟩ ∈ w.audit
  executing : (ids w.audit .executing).Nodup ∧ ∀ c ∈ w.commands, c.1 ∈ ids w.audit .executing
  unattended : ids w.audit .autoExecute = []

/-- What holds of the rows, the tasks and the commands, with the actions that were approved and
those that were claimed. -/
structure Kept (actions : List Action) (tasks : Nat → Phase) (commands : List (Nat × String))
    (approved executing : List Nat) : Prop where
  restart : ∀ id r, get actions id = some r → r.actionId = "restart_osd_service"
  unclaimed : ∀ id r, get actions id = some r →
    r.status = .pendingApproval ∨ r.status = .approved → id ∉ executing
  allowed : ∀ id r, get actions id = some r → r.status = .approved → id ∈ approved
  known : ∀ id ∈ executing, get actions id ≠ none
  approved : ∀ id ∈ executing, id ∈ approved
  claims : executing.Nodup
  jobs : ∀ p job user, tasks p = .claimed job user → job.actionId = "restart_osd_service" ∧
    job.actionPk ∈ executing ∧ job.actionPk ∉ commands.map Prod.fst
  alone : ∀ p q job job' user user', tasks p = .claimed job user →
    tasks q = .claimed job' user' → job.actionPk = job'.actionPk → p = q
  once : (commands.map Prod.fst).Nodup
  commands : ∀ c ∈ commands, c.1 ∈ executing ∧
    ∃ osd, isOsdId osd = true ∧ c.2 = "systemctl restart vitastor-osd@" ++ osd

structure Audited (admin : String → Bool) (audit : List Entry) : Prop where
  admins : ∀ e ∈ audit, e.event = .approved → admin e.actor = true
  unattended : ids audit .autoExecute = []

structure Sound (admin : String → Bool) (w : World) : Prop where
  kept : Kept w.actions w.tasks w.commands (ids w.audit .approved) (ids w.audit .executing)
  audited : Audited admin w.audit

variable {actions : List Action} {admin : String → Bool} {approved executing : List Nat}
  {audit : List Entry} {clusterId : String} {commands : List (Nat × String)} {event : Event}
  {l : Label} {p : Nat} {r : Action} {tasks : Nat → Phase} {w w' : World}

theorem Sound.lawful (h : Sound admin w) : Lawful admin w where
  once := h.kept.once
  restart := fun c hc => (h.kept.commands c hc).2
  approved := by
    intro c hc
    have hmem := h.kept.approved c.1 (h.kept.commands c hc).1
    obtain ⟨e, he, heq⟩ := List.mem_map.mp hmem
    obtain ⟨he, hevent⟩ := List.mem_filter.mp he
    have hevent := of_decide_eq_true hevent
    refine ⟨e.actor, h.audited.admins e he hevent, ?_⟩
    rwa [← hevent, ← heq]
  executing := ⟨h.kept.claims, fun c hc => (h.kept.commands c hc).1⟩
  unattended := h.audited.unattended

theorem ids_cons_of_ne {event' : Event} (actionPk : Nat) (actor : String) (hne : event ≠ event') :
    ids (⟨event, actionPk, actor⟩ :: audit) event' = ids audit event' := by
  unfold ids
  rw [List.filter_cons_of_neg (by simpa using hne)]

theorem Audited.record (h : Audited admin audit) (actionPk : Nat) {actor : String}
    (hadmin : event = .approved → admin actor = true) (hauto : event ≠ .autoExecute) :
    Audited admin (⟨event, actionPk, actor⟩ :: audit) where
  admins := by
    intro e he hevent
    rcases List.mem_cons.mp he with rfl | he
    · exact hadmin hevent
    · exact h.admins e he hevent
  unattended := (ids_cons_of_ne actionPk actor hauto).trans h.unattended

section

variable (h : Kept actions tasks commands approved executing)
include h

/-- The rows that are rewritten keep their status, are closed, or are approved. -/
theorem Kept.rewrite {approved' : List Nat} (pick : Action → Bool) (f : Action → Action)
    (hkey : ∀ r, (f r).id = r.id) (haction : ∀ r, (f r).actionId = r.actionId)
    (hgrows : ∀ id ∈ approved, id ∈ approved')
    (hstatus : ∀ r, pick r = true → get actions r.id = some r → (f r).status = r.status ∨
      ((f r).status ≠ .pendingApproval ∧ (f r).status ≠ .approved) ∨
      r.status = .pendingApproval ∧ (f r).status = .approved ∧ r.id ∈ approved') :
    Kept (update actions pick f) tasks commands approved' executing := by
  have hrow : ∀ id r', get (update actions pick f) id = some r' → ∃ r, get actions id = some r ∧
      r'.actionId = r.actionId ∧ (r'.status = r.status ∨
        (r'.status ≠ .pendingApproval ∧ r'.status ≠ .approved) ∨
        r.status = .pendingApproval ∧ r'.status = .approved ∧ id ∈ approved') := by
    intro id r' hr'
    rw [get_update actions pick f hkey] at hr'
    obtain ⟨r, hr, rfl⟩ := Option.map_eq_some_iff.mp hr'
    have hid : r.id = id := key_of_get hr
    refine ⟨r, hr, ?_⟩
    split
    · next hpick =>
      subst hid
      exact ⟨haction r, hstatus r hpick hr⟩
    · exact ⟨rfl, .inl rfl⟩
  refine ⟨?_, ?_, ?_, ?_, fun id hid => hgrows id (h.approved id hid), h.claims, h.jobs, h.alone,
    h.once, h.commands⟩
  · intro id r' hr'
    obtain ⟨r, hr, hsame, -⟩ := hrow id r' hr'
    exact hsame.trans (h.restart id r hr)
  · intro id r' hr' hopen
    obtain ⟨r, hr, -, hsame | hclosed | happroved⟩ := hrow id r' hr'
    · exact h.unclaimed id r hr (hsame ▸ hopen)
    · exact absurd hopen (not_or.mpr hclosed)
    · exact h.unclaimed id r hr (.inl happroved.1)
  · intro id r' hr' hopen
    obtain ⟨r, hr, -, hsame | hclosed | happroved⟩ := hrow id r' hr'
    · exact hgrows id (h.allowed id r hr (hsame ▸ hopen))
    · exact absurd hopen hclosed.2
    · exact happroved.2.2
  · intro id hid
    rw [get_update actions pick f hkey]
    simpa using h.known id hid

theorem Kept.close (actionPk : Nat) (status : Status) (hpending : status ≠ .pendingApproval)
    (happroved : status ≠ .approved) :
    Kept (modify actions actionPk fun r => { r with status := status }) tasks commands approved
      executing :=
  h.rewrite _ _ (fun _ => rfl) (fun _ => rfl) (fun _ hid => hid) fun _ _ _ =>
    .inr (.inl ⟨hpending, happroved⟩)

theorem Kept.approve (hr : get actions r.id = some r) (hpending : r.status = .pendingApproval) :
    Kept (modify actions r.id fun r => { r with status := .approved }) tasks commands
      (r.id :: approved) executing := by
  refine h.rewrite _ _ (fun _ => rfl) (fun _ => rfl) (fun _ hid => List.mem_cons_of_mem _ hid) ?_
  intro r' hpick hr'
  have hid : r'.id = r.id := beq_iff_eq.mp hpick
  rw [hid, hr] at hr'
  cases hr'
  exact .inr (.inr ⟨hpending, rfl, List.mem_cons_self⟩)

theorem Kept.propose (hkey : r.id = fresh actions) (haction : r.actionId = "restart_osd_service")
    (hpending : r.status = .pendingApproval) :
    Kept (insert actions r) tasks commands approved executing := by
  have hnew : fresh actions ∉ executing := fun hmem => h.known _ hmem (get_fresh actions)
  have hrow : ∀ id r', get (insert actions r) id = some r' →
      id = fresh actions ∧ r = r' ∨ get actions id = some r' := by
    intro id r' hr'
    rw [get_insert_fresh hkey] at hr'
    split at hr'
    · next heq => exact .inl ⟨heq, Option.some.inj hr'⟩
    · exact .inr hr'
  refine ⟨?_, ?_, ?_, ?_, h.approved, h.claims, h.jobs, h.alone, h.once, h.commands⟩
  · intro id r' hr'
    rcases hrow id r' hr' with ⟨-, rfl⟩ | hr
    · exact haction
    · exact h.restart id r' hr
  · intro id r' hr' hopen
    rcases hrow id r' hr' with ⟨rfl, -⟩ | hr
    · exact hnew
    · exact h.unclaimed id r' hr hopen
  · intro id r' hr' hopen
    rcases hrow id r' hr' with ⟨-, rfl⟩ | hr
    · rw [hpending] at hopen
      cases hopen
    · exact h.allowed id r' hr hopen
  · intro id hid
    rw [get_insert_fresh hkey, if_neg (fun heq : id = fresh actions => hnew (heq ▸ hid))]
    exact h.known id hid

theorem Kept.goTo (p : Nat) (ph : Phase) (hph : ∀ job user, ph ≠ .claimed job user) :
    Kept actions (Function.update tasks p ph) commands approved executing := by
  have htask : ∀ q job user, Function.update tasks p ph q = .claimed job user →
      tasks q = .claimed job user := by
    intro q job user hq
    rw [Function.update_apply] at hq
    split at hq
    · exact absurd hq (hph job user)
    · exact hq
  refine ⟨h.restart, h.unclaimed, h.allowed, h.known, h.approved, h.claims, ?_, ?_, h.once,
    h.commands⟩
  · intro q job user hq
    exact h.jobs q job user (htask q job user hq)
  · intro q q' job job' user user' hq hq'
    exact h.alone q q' job job' user user' (htask q job user hq) (htask q' job' user' hq')

theorem Kept.claim {job : Job} (user : String) (hr : get actions r.id = some r)
    (happroved : r.status = .approved) (hpk : job.actionPk = r.id)
    (haction : job.actionId = r.actionId) :
    Kept (modify actions r.id fun r => { r with status := .executing })
      (Function.update tasks p (.claimed job user)) commands approved (r.id :: executing) := by
  -- Whatever has a command or is another task's job was claimed before.
  have hnew : r.id ∉ executing := h.unclaimed r.id r hr (.inr happroved)
  have hclosed := h.close r.id .executing (by decide) (by decide)
  have hget := get_modify actions r.id (fun r => { r with status := .executing }) fun _ => rfl
  have htask : ∀ q job' user', Function.update tasks p (.claimed job user) q =
      .claimed job' user' → q = p ∧ job = job' ∨ tasks q = .claimed job' user' := by
    intro q job' user' hq
    rw [Function.update_apply] at hq
    split at hq
    · next heq =>
      cases hq
      exact .inl ⟨heq, rfl⟩
    · exact .inr hq
  refine ⟨hclosed.restart, ?_, hclosed.allowed, ?_, ?_, List.nodup_cons.mpr ⟨hnew, h.claims⟩, ?_,
    ?_, h.once, ?_⟩
  · intro id r' hr' hopen hmem
    rcases List.mem_cons.mp hmem with heq | hmem
    · rw [hget, if_pos heq, heq, hr] at hr'
      cases hr'
      simp at hopen
    · exact hclosed.unclaimed id r' hr' hopen hmem
  · intro id hid
    rcases List.mem_cons.mp hid with rfl | hid
    · rw [hget, if_pos rfl, hr]
      simp
    · exact hclosed.known id hid
  · intro id hid
    rcases List.mem_cons.mp hid with rfl | hid
    · exact h.allowed r.id r hr happroved
    · exact h.approved id hid
  · intro q job' user' hq
    rcases htask q job' user' hq with ⟨-, rfl⟩ | hq
    · refine ⟨haction.trans (h.restart r.id r hr), hpk ▸ List.mem_cons_self, fun hmem => ?_⟩
      obtain ⟨c, hc, heq⟩ := List.mem_map.mp hmem
      exact hnew (hpk ▸ heq ▸ (h.commands c hc).1)
    · obtain ⟨hrestart, hmem, hfresh⟩ := h.jobs q job' user' hq
      exact ⟨hrestart, List.mem_cons_of_mem _ hmem, hfresh⟩
  · intro q q' job₁ job₂ user₁ user₂ hq hq' heq
    rcases htask q job₁ user₁ hq with ⟨rfl, rfl⟩ | hold
    · rcases htask q' job₂ user₂ hq' with ⟨rfl, -⟩ | hold'
      · rfl
      · exact absurd (heq ▸ (h.jobs q' job₂ user₂ hold').2.1) (hpk ▸ hnew)
    · rcases htask q' job₂ user₂ hq' with ⟨rfl, rfl⟩ | hold'
      · exact absurd (heq ▸ (h.jobs q job₁ user₁ hold).2.1) (hpk ▸ hnew)
      · exact h.alone q q' job₁ job₂ user₁ user₂ hold hold' heq
  · intro c hc
    exact ⟨List.mem_cons_of_mem _ (h.commands c hc).1, (h.commands c hc).2⟩

end

theorem command_of_restart {actionId command osdId targetHost : String} {allowed : List String}
    (haction : actionId = "restart_osd_service")
    (h : runRemediation actionId osdId targetHost allowed = .ok (some command)) :
    ∃ osd, isOsdId osd = true ∧ command = "systemctl restart vitastor-osd@" ++ osd := by
  subst haction
  unfold runRemediation buildCommand requireOsdId at h
  split at h
  · cases h
  · cases h
  · next built hbuilt =>
    simp only at h hbuilt
    split_ifs at h
    cases h
    split_ifs at hbuilt with hvalid
    · cases hbuilt
      exact ⟨_, hvalid, rfl⟩
    · cases hbuilt

theorem Kept.run {command : String} {job : Job} {user : String}
    (h : Kept actions tasks commands approved executing) (hp : tasks p = .claimed job user)
    (hcommand : runRemediation job.actionId job.osdId job.targetHost job.allowed =
      .ok (some command)) (ok : Bool) :
    Kept actions (Function.update tasks p (.ended job.actionPk ok user))
      ((job.actionPk, command) :: commands) approved executing := by
  obtain ⟨hrestart, hmem, hfresh⟩ := h.jobs p job user hp
  have hended := h.goTo p (.ended job.actionPk ok user) fun _ _ hno => nomatch hno
  refine ⟨h.restart, h.unclaimed, h.allowed, h.known, h.approved, h.claims, ?_, hended.alone,
    List.nodup_cons.mpr ⟨hfresh, h.once⟩, ?_⟩
  · intro q job' user' hq
    obtain ⟨hrestart', hmem', hfresh'⟩ := hended.jobs q job' user' hq
    refine ⟨hrestart', hmem', fun hno => ?_⟩
    rw [Function.update_apply] at hq
    split at hq
    · cases hq
    · next hne =>
      rcases List.mem_cons.mp hno with heq | hno
      · exact hne (h.alone q p job' job user' user hq hp heq)
      · exact hfresh' hno
  · intro c hc
    rcases List.mem_cons.mp hc with rfl | hc
    · exact ⟨hmem, command_of_restart hrestart hcommand⟩
    · exact h.commands c hc

/-! ## What each step keeps -/

theorem proposal_of_mem {osds : List OsdRow} {prop : Proposal} (h : prop ∈ proposeFromStatus osds) :
    prop.actionId = "restart_osd_service" := by
  obtain ⟨row, -, hrow⟩ := List.mem_filterMap.mp h
  simp only [OsdRow.propose] at hrow
  split_ifs at hrow
  cases hrow
  rfl

/-- The monitor's proposals wait for an approval. -/
theorem propose_eq {allowed : List String} {ran : Nat → Bool} {prop : Proposal}
    (hprop : prop.actionId = "restart_osd_service") :
    w.propose clusterId allowed ran prop = w ∨
      w.owns clusterId prop.key = false ∧
        w.propose clusterId allowed ran prop =
          { w with actions := insert w.actions (prop.row (fresh w.actions) clusterId) }.record
            .proposed (fresh w.actions) "vitastor-monitor" := by
  unfold World.propose
  split
  · exact .inl rfl
  · next howns =>
    split
    · exact .inl rfl
    · have hrisky : (prop.row (fresh w.actions) clusterId).classification = .risky := by
        show classifyAction prop.actionId = .risky
        rw [hprop]
        decide
      refine .inr ⟨by simpa using howns, ?_⟩
      simp only [hrisky]
      rfl

theorem Sound.goTo (h : Sound admin w) (p : Nat) {ph : Phase}
    (hph : ∀ job user, ph ≠ .claimed job user) : Sound admin (w.goTo p ph) :=
  ⟨h.kept.goTo p ph hph, h.audited⟩

/-- What closes a row has an entry of its own. -/
theorem Sound.close (h : Sound admin w) (actionPk : Nat) (user : String) {status : Status}
    (hstatus : status ≠ .pendingApproval ∧ status ≠ .approved)
    (hevent : event ≠ .approved ∧ event ≠ .executing ∧ event ≠ .autoExecute) :
    Sound admin ((w.setStatus actionPk status).record event actionPk user) := by
  refine ⟨?_, h.audited.record actionPk (fun hno => absurd hno hevent.1) hevent.2.2⟩
  unfold World.record
  rw [ids_cons_of_ne _ _ hevent.1, ids_cons_of_ne _ _ hevent.2.1]
  exact h.kept.close actionPk status hstatus.1 hstatus.2

theorem Sound.reconcile (h : Sound admin w) (clusterId : String) (c : Cluster)
    (osds : List OsdRow) (ran : Nat → Bool) : Sound admin (w.reconcile clusterId c osds ran) := by
  have hreleased : ∀ current, Sound admin (w.release clusterId current) := fun current =>
    ⟨h.kept.rewrite _ _ (fun _ => rfl) (fun _ => rfl) (fun _ hid => hid) fun _ _ _ => .inl rfl,
      h.audited⟩
  unfold World.reconcile
  apply List.foldlRecOn _ _ (hreleased _)
  intro w h prop hprop
  have hrestart := proposal_of_mem hprop
  rcases propose_eq (w := w) hrestart with heq | ⟨-, heq⟩
  · rw [heq]
    exact h
  · rw [heq]
    exact ⟨h.kept.propose rfl hrestart rfl,
      h.audited.record _ (fun hno => nomatch hno) fun hno => nomatch hno⟩

theorem sound_step (h : Sound admin w) (hstep : step admin w l = some w') : Sound admin w' := by
  revert hstep
  fun_cases step admin w l <;> try rintro ⟨⟩
  · intro hstep
    obtain ⟨c, -, rfl⟩ := Option.map_eq_some_iff.mp hstep
    exact h.reconcile _ c _ _
  · intro hstep
    obtain ⟨c, -, rfl⟩ := Option.map_eq_some_iff.mp hstep
    exact ⟨h.kept, h.audited⟩
  · next r hr _ hopen =>
    have hid : r.id = _ := key_of_get hr
    subst hid
    exact ⟨(h.kept.approve hr hopen.2.2).goTo _ _ (fun _ _ hno => nomatch hno),
      h.audited.record _ (fun _ => hopen.1) (by decide)⟩
  · exact h.goTo _ fun _ _ hno => nomatch hno
  · exact (h.close _ _ (by decide) (by decide)).goTo _ fun _ _ hno => nomatch hno
  · exact h.goTo _ fun _ _ hno => nomatch hno
  · exact (h.close _ _ (by decide) (by decide)).goTo _ fun _ _ hno => nomatch hno
  · next r hr happroved c _ =>
    have hid : r.id = _ := key_of_get hr
    subst hid
    exact ⟨h.kept.claim _ hr happroved rfl rfl,
      h.audited.record _ (fun hno => nomatch hno) (by decide)⟩
  · exact h.goTo _ fun _ _ hno => nomatch hno
  · exact h.goTo _ fun _ _ hno => nomatch hno
  · exact h.goTo _ fun _ _ hno => nomatch hno
  · next hp command hcommand => exact ⟨h.kept.run hp hcommand _, h.audited⟩
  · next ok _ _ =>
    cases ok <;>
      exact (h.close _ _ (by decide) (by decide)).goTo _ fun _ _ hno => nomatch hno
  · exact ⟨h.kept, h.audited⟩
  · exact h.goTo _ fun _ _ hno => nomatch hno

theorem sound_start (clusters : String → Option Cluster) : Sound admin (.start clusters) where
  kept := by
    constructor <;> simp [World.start, Verified.Table.get, ids]
  audited := ⟨by simp [World.start], rfl⟩

/-- **A command runs once.**  Whatever the monitor, the operators and the tasks do and wherever they
stop, each command that went to a host restarts one OSD, an administrator approved its action, and
no other command is for the same action. -/
theorem commanded_once (admin : String → Bool) (clusters : String → Option Cluster)
    (ls : List Label) :
    (remediation admin).Always (fun _ _ w' => Lawful admin w') (.start clusters) ls := by
  apply System.always_of_invariant (remediation admin) _ (Sound admin) _ ls _ (sound_start clusters)
  intro w l w' h hstep
  have hsound := sound_step h hstep
  exact ⟨hsound.lawful, hsound⟩

/-! ## How often a fault is proposed -/

/-- The row was proposed for this fault. -/
def Action.isFor (clusterId key : String) (r : Action) : Bool :=
  r.clusterId = clusterId ∧ VitastorRemediation.dedupKey r.actionId r.targetHost r.osdId = key

/-- A poll of the cluster that does not find the fault. -/
def Label.recovers (clusterId key : String) : Label → Bool
  | .poll cluster osds _ =>
    cluster = clusterId ∧ key ∉ (proposeFromStatus osds).map Proposal.key
  | _ => false

/-- The rows of a fault, with the one that may be added while nothing owns its key. -/
def World.spare (clusterId key : String) (w : World) : Nat :=
  w.actions.countP (Action.isFor clusterId key) + (!w.owns clusterId key).toNat

section

variable {key : String}

theorem countP_update (pick : Action → Bool) (f : Action → Action)
    (hfor : ∀ r, (f r).isFor clusterId key = r.isFor clusterId key) :
    (update actions pick f).countP (Action.isFor clusterId key) =
      actions.countP (Action.isFor clusterId key) := by
  unfold update
  rw [List.countP_map]
  congr 1
  funext r
  rw [Function.comp_apply]
  split
  · exact hfor r
  · rfl

theorem owns_update (pick : Action → Bool) (f : Action → Action)
    (howned : ∀ r, pick r = true →
      ((f r).clusterId = clusterId ∧ (f r).dedupKey = key ∧ (f r).dedupKey ≠ "" ↔
        r.clusterId = clusterId ∧ r.dedupKey = key ∧ r.dedupKey ≠ "")) :
    World.owns { w with actions := update w.actions pick f } clusterId key =
      w.owns clusterId key := by
  unfold World.owns update
  rw [List.any_map]
  congr 1
  funext r
  rw [Function.comp_apply]
  split
  · next hpick => exact decide_eq_decide.mpr (howned r hpick)
  · rfl

theorem spare_setStatus (w : World) (actionPk : Nat) (status : Status) :
    (w.setStatus actionPk status).spare clusterId key = w.spare clusterId key := by
  have hcount : (w.setStatus actionPk status).actions.countP (Action.isFor clusterId key) =
      w.actions.countP (Action.isFor clusterId key) := countP_update _ _ fun _ => rfl
  have howns : (w.setStatus actionPk status).owns clusterId key = w.owns clusterId key :=
    owns_update _ _ fun _ _ => Iff.rfl
  unfold World.spare
  rw [hcount, howns]

theorem spare_release (clusterId key : String) (w : World) (cluster : String)
    (current : List String) :
    (w.release cluster current).spare clusterId key ≤
      w.spare clusterId key + (decide (cluster = clusterId ∧ key ∉ current)).toNat := by
  have hcount : (w.release cluster current).actions.countP (Action.isFor clusterId key) =
      w.actions.countP (Action.isFor clusterId key) := countP_update _ _ fun _ => rfl
  unfold World.spare
  rw [hcount, Nat.add_assoc]
  apply Nat.add_le_add_left
  by_cases hrecovered : cluster = clusterId ∧ key ∉ current
  · rw [decide_eq_true hrecovered]
    exact (Bool.toNat_le _).trans (Nat.le_add_left _ _)
  · have howns : (w.release cluster current).owns clusterId key = w.owns clusterId key := by
      apply owns_update
      intro r hpick
      -- A key that is given back is another cluster's, or another one.
      have hpick := of_decide_eq_true hpick
      apply iff_of_false
      · exact fun h => h.2.2 rfl
      · rintro ⟨rfl, rfl, -⟩
        exact hrecovered ⟨hpick.1.symm, hpick.2.2.1⟩
    rw [howns]
    exact Nat.le_add_right _ _

theorem spare_insert (hkey : r.dedupKey = dedupKey r.actionId r.targetHost r.osdId)
    (hnonempty : r.dedupKey ≠ "") (hfree : w.owns r.clusterId r.dedupKey = false) :
    World.spare clusterId key { w with actions := w.actions ++ [r] } ≤ w.spare clusterId key := by
  have hcount : (w.actions ++ [r]).countP (Action.isFor clusterId key) =
      w.actions.countP (Action.isFor clusterId key) + (r.isFor clusterId key).toNat := by
    rw [List.countP_append, List.countP_singleton]
    cases r.isFor clusterId key with
    | false => rfl
    | true => rfl
  have howns : World.owns { w with actions := w.actions ++ [r] } clusterId key =
      (w.owns clusterId key || r.isFor clusterId key) := by
    unfold World.owns
    rw [List.any_append]
    simp [Action.isFor, ← hkey, hnonempty]
  unfold World.spare
  rw [hcount, howns]
  cases hfor : r.isFor clusterId key with
  | false =>
    rw [Bool.or_false]
    exact Nat.le_refl _
  | true =>
    unfold Action.isFor at hfor
    rw [decide_eq_true_iff, ← hkey] at hfor
    rw [← hfor.1, ← hfor.2, hfree]
    exact Nat.le_refl _

theorem spare_propose {allowed : List String} {cluster : String} {ran : Nat → Bool}
    {prop : Proposal} (hprop : prop.actionId = "restart_osd_service") :
    (w.propose cluster allowed ran prop).spare clusterId key ≤ w.spare clusterId key := by
  rcases propose_eq (w := w) hprop with heq | ⟨hfree, heq⟩
  · rw [heq]
  · rw [heq]
    refine spare_insert rfl ?_ hfree
    show dedupKey prop.actionId prop.targetHost prop.osdId ≠ ""
    intro hno
    have hlength := congrArg String.length hno
    simp [dedupKey, hprop, String.length_append] at hlength

theorem spare_reconcile (w : World) (cluster : String) (c : Cluster) (osds : List OsdRow)
    (ran : Nat → Bool) :
    (w.reconcile cluster c osds ran).spare clusterId key ≤ w.spare clusterId key +
      ((Label.poll cluster osds ran).recovers clusterId key).toNat := by
  have hreleased := spare_release clusterId key w cluster
    ((proposeFromStatus osds).map Proposal.key)
  apply Nat.le_trans _ hreleased
  refine List.foldlRecOn (motive := fun w' : World => w'.spare clusterId key ≤ World.spare _ _
    (w.release cluster ((proposeFromStatus osds).map Proposal.key))) _ _ (Nat.le_refl _) ?_
  intro w' h prop hprop
  exact (spare_propose (proposal_of_mem hprop)).trans h

theorem spare_step (hstep : step admin w l = some w') :
    w'.spare clusterId key ≤ w.spare clusterId key + (l.recovers clusterId key).toNat := by
  revert hstep
  fun_cases step admin w l <;> try rintro ⟨⟩
  · intro hstep
    obtain ⟨c, -, rfl⟩ := Option.map_eq_some_iff.mp hstep
    exact spare_reconcile w _ c _ _
  · intro hstep
    obtain ⟨c, -, rfl⟩ := Option.map_eq_some_iff.mp hstep
    exact Nat.le_refl _
  all_goals first
    | exact Nat.le_refl _
    | exact Nat.le_of_eq (spare_setStatus w _ _)

/-- **An OSD that stays down is proposed once.**  A fault of a cluster has one row more than there
were polls of the cluster without it, at most, whatever became of the earlier rows. -/
theorem proposed_once (admin : String → Bool) (clusters : String → Option Cluster)
    (ls : List Label) (w : World) (hrun : (remediation admin).run (.start clusters) ls = some w)
    (clusterId key : String) :
    w.actions.countP (Action.isFor clusterId key) ≤
      1 + ls.countP (Label.recovers clusterId key) := by
  have hspare := (remediation admin).run_measure_le (World.spare clusterId key) _
    (fun _ _ _ hstep => spare_step hstep) ls _ w hrun
  exact (Nat.le_add_right _ _).trans hspare

end

def downRow : OsdRow := ⟨"osd", false, some "3", "3", "10.0.0.5"⟩

/-- The OSD stays down after its restart, is up in the next poll, and fails again. -/
def flapping : List Label :=
  [.poll "c1" [downRow] fun _ => true, .approve 0 1 "admin", .claim 0, .run 0 true, .finish 0,
    .poll "c1" [downRow] fun _ => true, .poll "c1" [] fun _ => true,
    .poll "c1" [downRow] fun _ => true]

theorem proposed_once_flapping :
    ∃ w, (remediation fun user => user == "admin").run
        (.start fun _ => some ⟨true, "10.0.0.5", [], []⟩) flapping = some w ∧
      w.actions.countP (Action.isFor "c1" "restart_osd_service:10.0.0.5:3") ≤
        1 + flapping.countP (Label.recovers "c1" "restart_osd_service:10.0.0.5:3") :=
  ⟨_, rfl, proposed_once (fun user => user == "admin")
    (fun _ => some ⟨true, "10.0.0.5", [], []⟩) flapping _ rfl _ _⟩

end CephAi.Ports.VitastorRemediation
