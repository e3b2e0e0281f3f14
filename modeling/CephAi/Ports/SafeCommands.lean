import CephAi.Ports.GetCommand

/-!
# The playbooks that run on their own, and their commands

`evaluate_auto_execution` of `worker/policy/playbook_registry.py` lets an Action run
without an approval only under a registered contract of level L3 and on valid targets.
Ported are the contracts, this decision, and what `get_command` of
`worker/executor/commands.py` builds for the five playbooks that it can let through.

A SAFE Action of any other kind goes to an operator.

## Main results

* `autonomous_of_evaluate` — only these five playbooks are let through.
-/

namespace CephAi.Ports.SafeCommands

open Verified.ShellText
open CommandParams
open ManagementCommands
open GetCommand

/-! ## Contracts -/

/-- `PlaybookContract`; `complete` says that a command builder, a preflight and a
post-check are registered. -/
structure PlaybookContract where
  actionId : String
  targetSchema : String
  maxAutonomy : Nat
  maxTargets : Nat
  complete : Bool
deriving DecidableEq, Repr

def playbooks : List PlaybookContract :=
  [⟨"resync_ntp", "host", 3, 2, true⟩, ⟨"enable_mon_msgr2", "cluster", 3, 1, true⟩,
    ⟨"crash_archive_all", "cluster", 3, 1, true⟩, ⟨"restart_osd_daemon", "osd", 3, 0, true⟩,
    ⟨"finalize_osd_release", "cluster", 2, 1, true⟩, ⟨"set_pool_pg_num", "pool", 2, 1, true⟩,
    ⟨"enable_pool_pg_autoscaler", "pool", 2, 1, true⟩,
    ⟨"reshard_rgw_bucket", "cluster", 3, 1, true⟩,
    ⟨"deep_scrub_omap_pg", "cluster", 2, 1, true⟩,
    ⟨"enable_pool_application", "pool", 2, 1, true⟩, ⟨"hard_reboot_node", "host", 2, 1, true⟩,
    ⟨"pg_repair_force", "pg", 2, 1, false⟩, ⟨"investigate_manually", "manual", 1, 0, false⟩,
    ⟨"remove_invalid_rgw_default_key", "host", 2, 1, true⟩]

def getContract (actionId : String) : Option PlaybookContract :=
  playbooks.find? fun contract => contract.actionId == actionId

/-- `node.strip()`, of a string -/
def isHost : Value → Bool
  | .str s => trim isSpace s != ""
  | _ => false

/-- `str(osd_id).isdigit()` -/
def isOsdId : Value → Bool
  | .int n => 0 ≤ n
  | .str s => s != "" && s.toList.all isDecimal
  | _ => false

/-- The OSD ids that the contract checks; `none` when there are neither. -/
def contractOsdIds (params : Params) : Option (List Value) :=
  match get params "cephadm_osd_ids", get params "osd_ids_by_host" with
  | .list ids, _ => some ids
  | _, .dict byHost => some (byHost.flatMap fun entry => entry.2.asList.getD [])
  | _, _ => none

/-- `_validate_runtime_target` finds no error. -/
def validRuntimeTarget (contract : PlaybookContract) (targetNodes : Value) (params : Params) :
    Bool :=
  match targetNodes with
  | .list nodes =>
    !nodes.isEmpty && nodes.all isHost &&
      (contract.maxTargets == 0 || nodes.length ≤ contract.maxTargets) &&
      (contract.targetSchema != "osd" ||
        (contractOsdIds params).any fun ids => !ids.isEmpty && ids.all isOsdId &&
          (contract.maxTargets == 0 || ids.length ≤ contract.maxTargets))
  | _ => false

def evaluateAutoExecution (actionId : String) (targetNodes : Value) (params : Params) : Bool :=
  (getContract actionId).any fun contract =>
    contract.complete && 3 ≤ contract.maxAutonomy &&
      validRuntimeTarget contract targetNodes params

/-- The playbooks of level L3. -/
def autonomous : List String :=
  ["resync_ntp", "enable_mon_msgr2", "crash_archive_all", "restart_osd_daemon",
    "reshard_rgw_bucket"]

theorem hosts_of_evaluate {actionId : String} {targetNodes : Value} {params : Params}
    (h : evaluateAutoExecution actionId targetNodes params = true) :
    ∃ nodes, targetNodes = .list nodes ∧ nodes ≠ [] ∧ nodes.all isHost = true := by
  unfold evaluateAutoExecution at h
  rw [Option.any_eq_true] at h
  obtain ⟨contract, _, hcontract⟩ := h
  have hvalid := (Bool.and_eq_true_iff.mp hcontract).2
  unfold validRuntimeTarget at hvalid
  split at hvalid
  · next nodes =>
    simp only [Bool.and_eq_true] at hvalid
    exact ⟨nodes, rfl, by simpa using hvalid.1.1.1, hvalid.1.1.2⟩
  · cases hvalid

/-! ## `restart_osd_daemon` -/

/-- What building a command comes to: `skip` is an `ExecutorError`, after which the next
host follows, and `stop` any other exception. -/
inductive Built
  | command (c : Command)
  | skip
  | stop

/-- `int(value)`; of a float, which is no OSD id, it is not modelled. -/
def pyIntOf : Value → Option Int
  | .bool b => some (if b then 1 else 0)
  | .int n => some n
  | .str s => pyInt s
  | _ => none

def pyInts (value : Value) : Option (List Int) :=
  match value with
  | .list values => values.mapM pyIntOf
  | .str s => (s.toList.map fun c => Value.str (String.singleton c)).mapM pyIntOf
  | .dict entries => (entries.map fun entry => Value.str entry.1).mapM pyIntOf
  | _ => none

/-- A number in `_OSD_UNIT_ID_RE`, after its digits so far, up to the end of a word. -/
def unitNumber (value : Nat) : List Char → Option Nat
  | [] => some value
  | c :: cs =>
    match decimal c with
    | some d => unitNumber (value * 10 + d) cs
    | none => if c.isAlphanum || c == '_' then none else some value

/-- `_OSD_UNIT_ID_RE`, at the beginning. -/
def unitIdAt : List Char → Option Nat
  | o :: s :: d :: p :: c :: cs =>
    if [o, s, d].map Char.toLower == ['o', 's', 'd'] && (p == '.' || p == '@') then
      (decimal c).bind fun digit => unitNumber digit cs
    else none
  | _ => none

/-- `_OSD_UNIT_ID_RE.findall(unit)` -/
def unitIds (unit : String) : List Int :=
  unit.toList.tails.filterMap fun cs => (unitIdAt cs).map Int.ofNat

/-- `sorted({int(value) for value in cephadm_ids})` -/
def sortedIds (ids : List Int) : List Int := ids.dedup.mergeSort

/-- The units of the requested ids; `none` unless these are just the ids found. -/
def requestedUnits (units : List String) (ids : List Int) : Option (List String) :=
  let chosen := units.filter fun unit => (unitIds unit).any ids.contains
  let found := chosen.flatMap unitIds
  if found.all ids.contains && ids.all found.contains then some chosen else none

def restartOsdUnits (units : List String) : Built :=
  if units = [] then .skip
  else .command (.line (joined " && " (units.map fun name =>
    [.text "systemctl restart ", .quoted name])))

def restartOsdDaemonCommand (discovered : String → Option Units) (host : String)
    (params : Params) : Built :=
  if (get params "cephadm_osd_ids").truthy then
    match pyInts (get params "cephadm_osd_ids") with
    | none => .stop
    | some ids =>
      .command (.line (joined " && " ((sortedIds ids).map fun id =>
        [.text "ceph orch daemon restart osd.", .number id])))
  else
    match discovered host with
    | none => .skip
    | some units =>
      match get params "osd_ids_by_host" with
      | .dict byHost =>
        match (byHost.lookup host).getD .null with
        | .null => restartOsdUnits units.osd
        | requested =>
          match pyInts requested with
          | none => .stop
          | some ids =>
            match requestedUnits units.osd ids with
            | none => .skip
            | some chosen => restartOsdUnits chosen
      | _ => restartOsdUnits units.osd

/-- Whether building the command asks the host for its units. -/
def discovers (actionId : String) (params : Params) : Bool :=
  actionId == "restart_osd_daemon" && !(get params "cephadm_osd_ids").truthy

/-! ## `get_command` -/

def resyncNtpText : String :=
  "if command -v chronyc >/dev/null 2>&1; then " ++
  "(systemctl start chronyd 2>/dev/null || systemctl start chrony 2>/dev/null || true) && " ++
  "chronyc -a makestep; " ++
  "elif command -v ntpdate >/dev/null 2>&1; then ntpdate -u pool.ntp.org; " ++
  "elif systemctl list-unit-files 2>/dev/null | grep -q systemd-timesyncd; then " ++
  "timedatectl set-ntp true && systemctl restart systemd-timesyncd; " ++
  "else echo 'no supported NTP tool found' >&2; exit 1; fi"

/-- What the builder of a playbook makes. -/
def buildCommand (discovered : String → Option Units) (actionId host : String)
    (params : Params) : Built :=
  if actionId = "restart_osd_daemon" then restartOsdDaemonCommand discovered host params
  else if actionId = "reshard_rgw_bucket" then
    match reshardRgwBucketCommand params with
    | some c => .command c
    | none => .skip
  else if actionId = "resync_ntp" then .command (.line [.text resyncNtpText])
  else if actionId = "enable_mon_msgr2" then .command (.line [.text "ceph mon enable-msgr2"])
  else if actionId = "crash_archive_all" then .command (.line [.text "ceph crash archive-all"])
  else .skip

/-- `action_id in _CEPH_RUNTIME_ACTION_IDS`, among the playbooks that run on their own. -/
def cephRuntime (actionId : String) : Bool := actionId == "crash_archive_all"

/-- What `get_command` gives for a host; `none` when it raises. -/
def getSafeCommand (discovered : String → Option Units) (actionId host : String)
    (params : Params) (execMode containerName : String) : Option Command :=
  match buildCommand discovered actionId host params with
  | .command c =>
    if cephRuntime actionId then wrapCephRuntimeCommand c execMode containerName else some c
  | _ => none

end CephAi.Ports.SafeCommands
