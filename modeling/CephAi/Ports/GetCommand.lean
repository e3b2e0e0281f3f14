import CephAi.Ports.ManagementCommands

/-!
# The commands of the cluster upgrades, and `get_command`

Ports the builders of `_CLUSTER_UPGRADE_COMMAND_BUILDERS`,
`wrap_ceph_runtime_command` and `get_command` of `worker/executor/commands.py`,
and the release table of `shared/ceph_releases.py` that one of them reads.

The package upgrades restart the systemd units they discover on the host.  What
is discovered is a parameter: it is read over SSH, before the command is built.
-/

namespace CephAi.Ports.GetCommand

open Verified.ShellText
open CommandParams
open ManagementCommands

/-! ## Releases -/

/-- A release: its major version, its codename, and whether its packages are
published under the codename only. -/
structure Release where
  major : Int
  codename : String
  repoPathUsesCodename : Bool

def releases : List Release :=
  [⟨13, "mimic", true⟩, ⟨14, "nautilus", true⟩, ⟨15, "octopus", false⟩,
    ⟨16, "pacific", false⟩, ⟨17, "quincy", false⟩, ⟨18, "reef", false⟩, ⟨19, "squid", false⟩,
    ⟨20, "tentacle", false⟩]

/-- The digits of a number, with single underscores between them. -/
def digits (value : Nat) : List Char → Option Nat
  | [] => some value
  | '_' :: c :: cs => (decimal c).bind fun d => digits (value * 10 + d) cs
  | c :: cs => (decimal c).bind fun d => digits (value * 10 + d) cs

/-- The digits of a number that may not begin with an underscore. -/
def unsigned : List Char → Option Nat
  | [] => none
  | c :: cs => (decimal c).bind fun d => digits d cs

def pyInt (s : String) : Option Int :=
  match (trim isSpace s).toList with
  | '-' :: cs => (unsigned cs).map fun n => -(n : Int)
  | '+' :: cs => (unsigned cs).map (↑·)
  | cs => (unsigned cs).map (↑·)

def majorVersion (version : String) : Option Int :=
  pyInt (String.ofList (version.toList.takeWhile (· ≠ '.')))

def releaseOf (version : String) : Option Release :=
  (majorVersion version).bind fun major => releases.find? (·.major == major)

def codenameForVersion (version : String) : Option String :=
  (releaseOf version).map (·.codename)

def repoPathVersion (version : String) : String :=
  match releaseOf version with
  | some release => if release.repoPathUsesCodename then release.codename else version
  | none => version

/-! ## Units and phases -/

/-- The Ceph units of a host, by daemon type. -/
structure Units where
  osd : List String
  mon : List String
  mgr : List String
  mds : List String
  rgw : List String

/-- All units of a host. -/
def Units.all (units : Units) : List String :=
  units.osd ++ units.mon ++ units.mgr ++ units.mds ++ units.rgw

def Units.ofType (units : Units) (daemonType : String) : List String :=
  if daemonType = "osd" then units.osd
  else if daemonType = "mon" then units.mon
  else if daemonType = "mgr" then units.mgr
  else if daemonType = "mds" then units.mds
  else if daemonType = "rgw" then units.rgw
  else []

/-- The setting and the hosts that a command is built for: `discover` is
`_discover_ceph_units`, by host, SSH user and key path. -/
structure Site where
  cephExecMode : String
  discover : String → Value → Value → Option Units

/-- The restart of one unit. -/
def restartPieces (name : String) : List Piece :=
  [.text "(systemctl reset-failed ", .quoted name, .text " 2>/dev/null; systemctl restart ",
    .quoted name, .text ")"]

def restartUnits (names : List String) : Option (List Piece) :=
  if names = [] then none else some (joined " && " (names.map restartPieces))

/-- `params.get("_phase_daemon_types") or []`, as the loop over it goes. -/
def daemonTypes (value : Value) : Option (List Value) :=
  if !value.truthy then some []
  else
    match value with
    | .list values => some values
    | .str s => some (s.toList.map fun c => .str (String.singleton c))
    | .dict entries => some (entries.map fun entry => .str entry.1)
    | _ => none

/-- `discovered.get(daemon_type, [])`. -/
def unitsOf (units : Units) : Value → Option (List String)
  | .str daemonType => some (units.ofType daemonType)
  | .list _ | .dict _ => none
  | _ => some []

def restartUnitsByType (site : Site) (host : String) (params : Params) :
    Option (List Piece) := do
  let types ← daemonTypes (get params "_phase_daemon_types")
  let discovered ← site.discover host (get params "_ssh_user") (get params "_ssh_key_path")
  let names ← types.mapM (unitsOf discovered)
  restartUnits names.flatten

/-- `params.get("_cluster_exec_mode", settings.ceph_exec_mode)`. -/
def clusterExecMode (site : Site) (params : Params) : Value :=
  (params.lookup "_cluster_exec_mode").getD (.str site.cephExecMode)

/-- `params.get("_phase")` is this phase. -/
def isPhase (params : Params) (phase : String) : Bool :=
  (get params "_phase").asStr == some phase

/-! ## Upgrades -/

def upgradeCephClusterCommand (site : Site) (params : Params) : Option Command := do
  let targetVersion ← requireTargetVersion params
  guard ((clusterExecMode site params).asStr = some "cephadm")
  return .shell [.text "cephadm shell -- bash -c "] (.line
    [.text "ceph osd set noout && ceph osd set noscrub && ",
      .text "ceph osd set nodeep-scrub && ceph osd set nosnaptrim && ",
      .text "ceph orch upgrade start --ceph-version ", .quoted targetVersion])

def packageManagerBranch (apt rpm : List Piece) : List Piece :=
  [.text "if command -v apt-get >/dev/null 2>&1; then "] ++ apt ++
    [.text "; ", .text "elif command -v dnf >/dev/null 2>&1 ",
      .text "|| command -v yum >/dev/null 2>&1; then "] ++ rpm ++
    [.text "; ", .text "else echo 'no supported package manager (apt-get/dnf/yum) found' ",
      .text ">&2; exit 1; fi"]

/-- The phases of the two package upgrades, around their own install command. -/
def packageCommand (site : Site) (host : Option String) (params : Params)
    (install : Option (List Piece)) : Option Command := do
  guard ((clusterExecMode site params).asStr = some "none")
  let host ← host
  if isPhase params "restart_only" then
    let restart ← restartUnitsByType site host params
    return .line restart
  let install ← install
  if isPhase params "install_only" then return .line install
  let discovered ← site.discover host (get params "_ssh_user") (get params "_ssh_key_path")
  match restartUnits discovered.all with
  | none => return .line install
  | some restart => return .line (install ++ [.text " && "] ++ restart)

/-- The install command from the repository at a path. -/
def downloadText (repoPath rpmPackage : String) : List Piece :=
  packageManagerBranch
    [.text "wget -q -O- https://download.ceph.com/keys/release.asc ",
      .text "| gpg --dearmor -o /usr/share/keyrings/ceph-archive-keyring.gpg ",
      .text "&& echo \"deb [signed-by=/usr/share/keyrings/ceph-archive-keyring.gpg] ",
      .text "https://download.ceph.com/debian-", .raw repoPath,
      .text "/ $(lsb_release -sc) main\" ",
      .text "> /etc/apt/sources.list.d/ceph.list ",
      .text "&& apt-get update -y && apt-get install -y ceph"]
    [.text "rm -f /etc/yum.repos.d/download.ceph.com_rpm-*.repo ",
      .text "&& rpm --import https://download.ceph.com/keys/release.asc ",
      .text "&& (dnf config-manager --add-repo ",
      .text "https://download.ceph.com/rpm-", .raw repoPath,
      .text "/el$(rpm -E %rhel)/$(uname -m)/ 2>/dev/null ",
      .text "|| yum-config-manager --add-repo ",
      .text "https://download.ceph.com/rpm-", .raw repoPath,
      .text "/el$(rpm -E %rhel)/$(uname -m)/) ",
      .text "&& (dnf config-manager --add-repo ",
      .text "https://download.ceph.com/rpm-", .raw repoPath,
      .text "/el$(rpm -E %rhel)/noarch/ 2>/dev/null ",
      .text "|| yum-config-manager --add-repo ",
      .text "https://download.ceph.com/rpm-", .raw repoPath,
      .text "/el$(rpm -E %rhel)/noarch/) ",
      .text "&& (dnf install -y ", .raw rpmPackage, .text " || yum install -y ",
      .raw rpmPackage, .text ")"]

/-- The install command of `_upgrade_ceph_cluster_package_download_command`. -/
def downloadPieces (params : Params) : Option (List Piece) := do
  let targetVersion ← requireTargetVersion params
  guard ((codenameForVersion targetVersion).isSome = true)
  let repoPath := repoPathVersion targetVersion
  let rpmPackage := if repoPath ≠ targetVersion then "ceph-" ++ targetVersion else "ceph"
  return downloadText repoPath rpmPackage

def upgradeCephClusterPackageDownloadCommand (site : Site) (host : Option String)
    (params : Params) : Option Command :=
  packageCommand site host params (downloadPieces params)

/-- The install command of `_upgrade_ceph_cluster_package_local_command`.  The
quoted directory is pasted once more between the quotes of a message. -/
def localPieces (params : Params) : Option (List Piece) := do
  let packageDir ← requirePackageDir params
  let quotedDir := String.ofList (quote packageDir.toList)
  return [.text "[ -d ", .quoted packageDir, .text " ] || \x7b echo '", .raw quotedDir,
      .text ": directory not found' >&2; exit 1; \x7d", .text " && "] ++
    packageManagerBranch
      [.text "apt-get install -y ", .quoted packageDir, .text "/*.deb"]
      [.text "(dnf install -y ", .quoted packageDir,
        .text "/*.rpm || yum localinstall -y ", .quoted packageDir, .text "/*.rpm)"]

def upgradeCephClusterPackageLocalCommand (site : Site) (host : Option String)
    (params : Params) : Option Command :=
  packageCommand site host params (localPieces params)

/-! ## `get_command` -/

/-- `_CEPH_RUNTIME_ACTION_IDS`, among the actions here. -/
def cephRuntimeAction : CommandAction → Bool
  | .executeNodeCommand | .enablePoolPgAutoscaler | .reshardRgwBucket | .deepScrubOmapPg
  | .cinderAttachVolume | .cinderDetachVolume | .cinderCreateSnapshot | .cinderDeleteSnapshot
  | .upgradeCephCluster | .upgradeCephClusterPackageDownload
  | .upgradeCephClusterPackageLocal => false
  | _ => true

def wrapCephRuntimeCommand (command : Command) (execMode containerName : String) :
    Option Command :=
  if execMode = "none" then some command
  else if execMode = "cephadm" then
    some (.shell [.text "cephadm shell -- bash -lc "] command)
  else if execMode = "docker" ∨ execMode = "podman" then
    if containerName = "" then none
    else
      some (.shell [.text (if execMode = "docker" then "docker" else "podman"),
        .text " exec ", .quoted containerName, .text " sh -lc "] command)
  else none

def builder (site : Site) (host : Option String) (params : Params) :
    CommandAction → Option Command
  | .editPool => editPoolCommand params
  | .tuneBluestoreSlowOpsWarn => tuneBluestoreSlowOpsWarnCommand params
  | .scrubPool => scrubPoolCommand params
  | .setPoolProtection => setPoolProtectionCommand params
  | .executeNodeCommand => executeNodeCommand params
  | .createPool => createPoolCommand params
  | .cephfsCreateVolume => cephfsCreateVolumeCommand params
  | .cephfsCreateSubvolume => cephfsCreateSubvolumeCommand params
  | .nfsCreateCluster => nfsCreateClusterCommand params
  | .nfsCreateExport => nfsCreateExportCommand params
  | .nfsDeleteExport => nfsDeleteExportCommand params
  | .rgwApplyService => rgwApplyServiceCommand params
  | .deletePool => deletePoolCommand params
  | .setPoolSize => setPoolSizeCommand params
  | .setPoolPgNum => setPoolPgNumCommand params
  | .enablePoolPgAutoscaler => enablePoolPgAutoscalerCommand params
  | .reshardRgwBucket => reshardRgwBucketCommand params
  | .deepScrubOmapPg => deepScrubOmapPgCommand params
  | .markOsdOut => markOsdCommand "out" params
  | .markOsdIn => markOsdCommand "in" params
  | .markOsdDown => markOsdCommand "down" params
  | .enablePoolApplication => enablePoolApplicationCommand params
  | .finalizePacificOsdRelease => finalizePacificOsdReleaseCommand params
  | .rbdTrashRemove => rbdTrashRemoveCommand params
  | .rbdCreateVolume => rbdCreateVolumeCommand params
  | .rbdResizeVolume => rbdResizeVolumeCommand params
  | .rbdRenameVolume => rbdRenameVolumeCommand params
  | .rbdCloneVolume => rbdCloneVolumeCommand params
  | .rbdCopyVolume => rbdCopyVolumeCommand params
  | .rbdMoveVolume => rbdMoveVolumeCommand params
  | .rbdMoveCleanupPartial => rbdMoveCleanupPartialCommand params
  | .rbdFlattenVolume => rbdFlattenVolumeCommand params
  | .rbdTemplateMark => rbdTemplateMarkCommand params
  | .rbdQosSet => rbdQosSetCommand params
  | .rbdTrashMoveVolume => rbdTrashMoveVolumeCommand params
  | .rbdTrashRestoreVolume => rbdTrashRestoreVolumeCommand params
  | .rbdTrashPurgeAll => rbdTrashPurgeAllCommand params
  | .cinderAttachVolume => cinderAttachmentCommand params "attach"
  | .cinderDetachVolume => cinderAttachmentCommand params "detach"
  | .cinderCreateSnapshot => cinderCreateSnapshotCommand params
  | .cinderDeleteSnapshot => cinderDeleteSnapshotCommand params
  | .upgradeCephCluster => upgradeCephClusterCommand site params
  | .upgradeCephClusterPackageDownload =>
    upgradeCephClusterPackageDownloadCommand site host params
  | .upgradeCephClusterPackageLocal => upgradeCephClusterPackageLocalCommand site host params

def getCommand (site : Site) (action : CommandAction) (host : Option String)
    (params : Params) (execMode : Option String) (containerName : String) :
    Option Command := do
  validateTypedActionParams action params
  let command ← builder site host params action
  match execMode with
  | some execMode =>
    if cephRuntimeAction action then wrapCephRuntimeCommand command execMode containerName
    else return command
  | none => return command

end CephAi.Ports.GetCommand
