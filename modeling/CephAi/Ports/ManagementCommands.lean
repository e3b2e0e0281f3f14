import CephAi.Ports.CommandParams
import Mathlib

/-!
# The commands of the management actions

Ports the builders of `_MANAGEMENT_COMMAND_BUILDERS` in
`worker/executor/commands.py`.  A format string becomes a list of pieces: the
source's own text, and each value where the source puts it, through
`shlex.quote` or as it is.  `none` where the source raises.
-/

namespace CephAi.Ports.ManagementCommands

open Verified.ShellText
open CommandParams

/-! ## Pools -/

def pgNumRange : Int × Int := (1, 65536)

def poolSizeRange : Int × Int := (1, 10)

def osdIdRange : Int × Int := (0, 9999)

def createPoolCommand (params : Params) : Option Command := do
  let poolName ← requirePoolName params
  let pgNum ← requireInt params "pg_num" pgNumRange
  let command := [.text "ceph osd pool create ", .quoted poolName, .text " ", .number pgNum]
  if (get params "app_name").isNull then return .line command
  let appName ← (get params "app_name").asStr
  guard (appName ∈ ["rbd", "cephfs", "rgw"])
  return .line (command ++
    [.text " && ceph osd pool application enable ", .quoted poolName, .text " ",
      .quoted appName])

def deletePoolCommand (params : Params) : Option Command := do
  let poolName ← requirePoolName params
  return .line
    [.text "ceph config set mon mon_allow_pool_delete true && ",
      .text "(ceph osd pool delete ", .quoted poolName, .text " ", .quoted poolName,
      .text " --yes-i-really-really-mean-it; rc=$?; ",
      .text "ceph config set mon mon_allow_pool_delete false || ",
      .text "echo 'WARNING: failed to reset mon_allow_pool_delete to false' >&2; ",
      .text "exit $rc)"]

def setPoolSizeCommand (params : Params) : Option Command := do
  let poolName ← requirePoolName params
  let size ← requireInt params "size" poolSizeRange
  return .line [.text "ceph osd pool set ", .quoted poolName, .text " size ", .number size]

def poolPgNumPieces (params : Params) : Option (List Piece) := do
  let poolName ← requirePoolName params
  let pgNum ← requireInt params "pg_num" pgNumRange
  return [.text "ceph osd pool set ", .quoted poolName, .text " pg_num ", .number pgNum]

/-- One entry of `adjustments`. -/
def adjustmentPieces : Value → Option (List Piece)
  | .dict adjustment => poolPgNumPieces adjustment
  | _ => none

def setPoolPgNumCommand (params : Params) : Option Command := do
  if (get params "adjustments").isNull then
    let pieces ← poolPgNumPieces params
    return .line pieces
  let adjustments ← (get params "adjustments").asList
  guard (adjustments ≠ [])
  let commands ← adjustments.mapM adjustmentPieces
  return .line (joined " && " commands)

/-- One entry of `pools`. -/
def autoscalerPieces (value : Value) : Option (List Piece) := do
  let name ← requirePoolName [("pool_name", value)]
  return [.text "ceph osd pool set ", .quoted name, .text " pg_autoscale_mode on"]

def enablePoolPgAutoscalerCommand (params : Params) : Option Command := do
  let pools ← (get params "pools").asList
  guard (pools ≠ [])
  let commands ← pools.mapM autoscalerPieces
  return .line (joined " && " commands)

def editPoolCommand (params : Params) : Option Command := do
  let poolName ← requirePoolName params
  let size ← requireInt params "size" poolSizeRange
  let pgNum ← requireInt params "pg_num" pgNumRange
  return .line
    [.text "ceph osd pool set ", .quoted poolName, .text " size ", .number size,
      .text " && ceph osd pool set ", .quoted poolName, .text " pg_num ", .number pgNum]

def scrubPoolCommand (params : Params) : Option Command := do
  let poolName ← requirePoolName params
  return .line [.text "ceph osd pool scrub ", .quoted poolName]

/-- The value, if it is a boolean. -/
def asBool : Value → Option Bool
  | .bool b => some b
  | _ => none

def setPoolProtectionCommand (params : Params) : Option Command := do
  let poolName ← requirePoolName params
  let isProtected ← asBool (get params "protected")
  return .line
    [.text "ceph osd pool set ", .quoted poolName, .text " nodelete ",
      .raw (if isProtected then "true" else "false")]

def enablePoolApplicationCommand (params : Params) : Option Command := do
  let poolName ← requirePoolName params
  let appName ← requireAppName params
  return .line
    [.text "ceph osd pool application enable ", .quoted poolName, .text " ", .quoted appName,
      .text " --yes-i-really-mean-it"]

/-! ## File systems and gateways -/

def maxSubvolumeGib : Int := 1000000

def cephfsCreateVolumeCommand (params : Params) : Option Command := do
  let fsName ← requireName params "fs_name"
  return .line [.text "ceph fs volume create ", .quoted fsName]

def cephfsCreateSubvolumeCommand (params : Params) : Option Command := do
  let fsName ← requireName params "fs_name"
  let subvolume ← requireName params "subvolume"
  let command := [.text "ceph fs subvolume create ", .quoted fsName, .text " ",
    .quoted subvolume]
  if (get params "size_gib").isNull then return .line command
  let sizeGib ← requireInt params "size_gib" (1, maxSubvolumeGib)
  return .line (command ++ [.text " --size ", .number (sizeGib * 1024 ^ 3)])

/-- `_placement`, before it is quoted. -/
def placement (hosts : List String) : String :=
  toString hosts.length ++ " " ++ " ".intercalate hosts

def nfsCreateClusterCommand (params : Params) : Option Command := do
  let nfsId ← requireName params "nfs_id"
  let hosts ← requireHosts params
  return .line
    [.text "ceph nfs cluster create ", .quoted nfsId, .text " ", .quoted (placement hosts)]

def nfsCreateExportCommand (params : Params) : Option Command := do
  let fsName ← requireName params "fs_name"
  let nfsId ← requireName params "nfs_id"
  let pseudoPath ← requireExportPath params "pseudo_path"
  let command := [.text "ceph nfs export create cephfs", .text " --cluster-id ", .quoted nfsId,
    .text " --pseudo-path ", .quoted pseudoPath, .text " --fsname ", .quoted fsName]
  let readonly := if (get params "readonly").isTrue then [.text " --readonly"] else []
  if (get params "subvolume").truthy then
    let subvolume ← requireName params "subvolume"
    return .line (
      [.text "subvolume_path=\"$(ceph fs subvolume getpath ", .quoted fsName, .text " ",
        .quoted subvolume, .text ")\" && "] ++ command ++
      [.text " --path \"$subvolume_path\""] ++ readonly)
  let path ← requireExportPath params "path"
  return .line (command ++ [.text " --path ", .quoted path] ++ readonly)

def nfsDeleteExportCommand (params : Params) : Option Command := do
  let nfsId ← requireName params "nfs_id"
  let pseudoPath ← requireExportPath params "pseudo_path"
  return .line [.text "ceph nfs export rm ", .quoted nfsId, .text " ", .quoted pseudoPath]

def rgwApplyServiceCommand (params : Params) : Option Command := do
  let port ← requireInt params "port" (1, 65535)
  let serviceId ← requireName params "service_id"
  let hosts ← requireHosts params
  return .line
    [.text "ceph orch apply rgw ", .quoted serviceId, .text " --placement=",
      .quoted (placement hosts), .text " --port=", .number port]

/-! ## Placement groups, buckets and OSDs -/

/-- A placement group's id. -/
def requirePgId (value : Value) : Option String := do
  let pgId ← value.asStr
  guard (fullmatchRe pgIdRe pgId = true)
  return pgId

def reshardRgwBucketCommand (params : Params) : Option Command := do
  let bucket ← (get params "bucket_name").asStr
  guard (bucket ≠ "" ∧ bucket.length ≤ 255 ∧ ¬ bucket.startsWith "-" = true)
  let shards ← requireInt params "num_shards" (2, 19999)
  let command := [.text "radosgw-admin bucket reshard ", .text "--bucket=", .quoted bucket,
    .text " --num-shards=", .number shards]
  if (get params "pg_id").isNull then return .line command
  let pgId ← requirePgId (get params "pg_id")
  return .line (command ++ [.text " && ceph pg ", .quoted pgId, .text " deep_scrub"])

/-- The scrub of one placement group. -/
def deepScrubPieces (value : Value) : Option (List Piece) := do
  let pgId ← requirePgId value
  return [.text "ceph pg ", .quoted pgId, .text " deep_scrub"]

def deepScrubOmapPgCommand (params : Params) : Option Command := do
  if (get params "pg_ids").isNull then
    let pieces ← deepScrubPieces (get params "pg_id")
    return .line pieces
  let pgIds ← (get params "pg_ids").asList
  guard (1 ≤ pgIds.length ∧ pgIds.length ≤ 4)
  let commands ← pgIds.mapM deepScrubPieces
  return .line (joined " && " commands)

def markOsdCommand (verb : String) (params : Params) : Option Command := do
  let osdId ← requireInt params "osd_id" osdIdRange
  return .line [.text "ceph osd ", .text verb, .text " ", .number osdId]

def finalizePacificOsdReleaseCommand (_params : Params) : Option Command :=
  return .line [.text "ceph osd require-osd-release pacific --yes-i-really-mean-it"]

def bluestoreDeviceClasses : List String := ["hdd", "ssd", "nvme"]

def bluestoreSlowOpsMask (params : Params) : Option String := do
  let deviceClass ← (get params "device_class").asStr
  guard (deviceClass ∈ bluestoreDeviceClasses)
  return "osd/class:" ++ deviceClass

/-- What follows the first colon of a mask. -/
def afterColon (mask : String) : String :=
  String.ofList ((mask.toList.dropWhile (· ≠ ':')).drop 1)

def tuneBluestoreSlowOpsWarnCommand (params : Params) : Option Command := do
  let mask ← bluestoreSlowOpsMask params
  let threshold ← requireInt params "threshold" (1, 1000)
  let lifetime ← requireInt params "lifetime_seconds" (60, 86400)
  let deviceClass := afterColon mask
  return .line
    [.text "ceph config dump | grep -E 'bluestore_slow_ops_warn_(threshold|lifetime)' ",
      .text "|| true; ",
      .text "if ceph config dump | grep -E 'class:", .raw deviceClass,
      .text "[[:space:]].*bluestore_slow_ops_warn_' >/dev/null; ",
      .text "then echo 'osd/class:", .raw deviceClass,
      .text " already overrides bluestore_slow_ops_warn_*; ",
      .text "refusing so rollback stays exact' >&2; exit 3; fi; ",
      .text "ceph config set ", .raw mask, .text " bluestore_slow_ops_warn_threshold ",
      .number threshold, .text " && ",
      .text "ceph config set ", .raw mask, .text " bluestore_slow_ops_warn_lifetime ",
      .number lifetime]

/-! ## Block images -/

def rbdSizeMibRange : Int × Int := (1, 64 * 1024 * 1024)

/-- A destination pool. -/
def requireDestPool (params : Params) : Option String :=
  requireStr params "dest_pool" (fullmatchRe poolNameRe)

/-- A destination image. -/
def requireDestImage (params : Params) : Option String :=
  requireStr params "dest_image" (fullmatchRe rbdImageRe)

def requireSnapshot (params : Params) : Option String :=
  requireStr params "snapshot" (fullmatchRe rbdSnapshotRe)

def rbdTrashRemoveCommand (params : Params) : Option Command := do
  let poolName ← requirePoolName params
  let trashId ← requireTrashId params
  return .line [.text "rbd trash rm ", .quoted poolName, .text "/", .quoted trashId]

def rbdCreateVolumeCommand (params : Params) : Option Command := do
  let pool ← requirePoolName params
  let image ← requireRbdImage params
  let sizeMib ← requireInt params "size_mib" rbdSizeMibRange
  let spec := pool ++ "/" ++ image
  return .line
    [.text "rbd create --size ", .number sizeMib, .text " ", .quoted spec,
      .text " && rbd info ", .quoted spec, .text " --format json"]

def rbdResizeVolumeCommand (params : Params) : Option Command := do
  let pool ← requirePoolName params
  let image ← requireRbdImage params
  let sizeMib ← requireInt params "size_mib" rbdSizeMibRange
  let spec := pool ++ "/" ++ image
  return .line
    [.text "rbd resize --size ", .number sizeMib, .text " ", .quoted spec,
      .text " && rbd info ", .quoted spec, .text " --format json"]

def rbdRenameVolumeCommand (params : Params) : Option Command := do
  let pool ← requirePoolName params
  let image ← requireRbdImage params
  let newImage ← requireStr params "new_image" (fullmatchRe rbdImageRe)
  guard (newImage ≠ image)
  let source := pool ++ "/" ++ image
  let destination := pool ++ "/" ++ newImage
  return .line
    [.text "rbd mv ", .quoted source, .text " ", .quoted destination, .text " && rbd info ",
      .quoted destination, .text " --format json"]

def rbdCloneVolumeCommand (params : Params) : Option Command := do
  let pool ← requirePoolName params
  let image ← requireRbdImage params
  let snapshot ← requireSnapshot params
  let destPool ← requireDestPool params
  let destImage ← requireDestImage params
  let source := pool ++ "/" ++ image ++ "@" ++ snapshot
  let destination := destPool ++ "/" ++ destImage
  return .line
    [.text "(rbd snap protect ", .quoted source, .text " 2>/dev/null || true) && ",
      .text "rbd clone ", .quoted source, .text " ", .quoted destination,
      .text " && rbd info ", .quoted destination, .text " --format json"]

def rbdCopyVolumeCommand (params : Params) : Option Command := do
  let pool ← requirePoolName params
  let image ← requireRbdImage params
  let snapshot ← requireSnapshot params
  let destPool ← requireDestPool params
  let destImage ← requireDestImage params
  guard (pool ≠ destPool)
  let source := pool ++ "/" ++ image ++ "@" ++ snapshot
  let destination := destPool ++ "/" ++ destImage
  return .line
    [.text "rbd cp --no-progress ", .quoted source, .text " ", .quoted destination,
      .text " && rbd info ", .quoted destination, .text " --format json"]

/-- A size that was approved. -/
def requireSizeBytes (params : Params) : Option Int :=
  match get params "size_bytes" with
  | .int n => if 0 < n then some n else none
  | _ => none

def rbdMoveVolumeCommand (params : Params) : Option Command := do
  let pool ← requirePoolName params
  let image ← requireRbdImage params
  let destPool ← requireDestPool params
  let destImage ← requireDestImage params
  guard (pool ≠ destPool)
  guard (¬ image.startsWith "volume-" = true ∧ ¬ destImage.startsWith "volume-" = true)
  let sizeBytes ← requireSizeBytes params
  guard ((get params "delete_source").isTrue = true)
  let checksum ← (get params "checksum").asStr
  guard (checksum = "rbd-export-diff-sha256")
  let moveToken ← requireStr params "move_token" (fullmatchRe rbdMoveTokenRe)
  let source := pool ++ "/" ++ image
  let destination := destPool ++ "/" ++ destImage
  let metadataKey := "ceph.ai.move_token"
  return .shell [.text "sh -c "] (.line
    [.text "set -eu; source_info=$(rbd info ", .quoted source, .text " --format json); ",
      .text "actual_source_size=$(printf '%s' \"$source_info\" | python3 -c ",
      .text "'import json,sys; print(int(json.load(sys.stdin)[\"size\"]))'); ",
      .text "if [ \"$actual_source_size\" != \"", .number sizeBytes, .text "\" ]; then ",
      .text "echo 'RBD move source size changed; source was preserved' >&2; exit 1; fi; ",
      .text "watcher_count=$(rbd status ", .quoted source, .text " --format json | python3 -c ",
      .text "'import json,sys; p=json.load(sys.stdin); print(len(p.get(\"watchers\", [])) ",
      .text "if isinstance(p,dict) else 0)'); ",
      .text "if [ \"$watcher_count\" != 0 ]; then ",
      .text "echo 'RBD move source has active watchers; source was preserved' >&2; exit 1; fi; ",
      .text "snapshot_count=$(rbd snap ls ", .quoted source,
      .text " --format json | python3 -c ",
      .text "'import json,sys; p=json.load(sys.stdin); print(len(p if isinstance(p,list) ",
      .text "else p.get(\"snapshots\", [])))'); ",
      .text "if [ \"$snapshot_count\" != 0 ]; then ",
      .text "echo 'RBD move source has snapshots; source was preserved' >&2; exit 1; fi; ",
      .text "destination_exists=$(rbd ls ", .quoted destPool,
      .text " --format json | python3 -c ",
      .text "'import json,sys; p=json.load(sys.stdin); names=[x if isinstance(x,str) ",
      .text "else x.get(\"name\") for x in (p if isinstance(p,list) ",
      .text "else p.get(\"images\", []))]; print(\"1\" if \"", .raw destImage,
      .text "\" in names else \"0\")'); ",
      .text "if [ \"$destination_exists\" = 1 ]; then ",
      .text "marker=$(rbd image-meta get ", .quoted destination, .text " ",
      .quoted metadataKey, .text " 2>/dev/null || true); ",
      .text "if [ \"$marker\" != ", .quoted moveToken, .text " ]; then ",
      .text "echo 'RBD move destination exists without matching resume token; ",
      .text "source was preserved' >&2; exit 23; fi; ",
      .text "else rbd cp --no-progress ", .quoted source, .text " ", .quoted destination,
      .text " && rbd image-meta set ", .quoted destination, .text " ", .quoted metadataKey,
      .text " ", .quoted moveToken, .text "; fi; ",
      .text "source_sha256=$(rbd export-diff ", .quoted source,
      .text " - | sha256sum | cut -d ' ' -f 1); ",
      .text "dest_sha256=$(rbd export-diff ", .quoted destination,
      .text " - | sha256sum | cut -d ' ' -f 1); ",
      .text "if [ \"$source_sha256\" != \"$dest_sha256\" ]; then ",
      .text "echo 'RBD move checksum mismatch; source was preserved' >&2; exit 1; fi; ",
      .text "dest_info=$(rbd info ", .quoted destination, .text " --format json); ",
      .text "actual_size=$(printf '%s' \"$dest_info\" | python3 -c ",
      .text "'import json,sys; print(int(json.load(sys.stdin)[\"size\"]))'); ",
      .text "if [ \"$actual_size\" != \"", .number sizeBytes, .text "\" ]; then ",
      .text "echo 'RBD move destination size mismatch; source was preserved' >&2; exit 1; fi; ",
      .text "rbd rm ", .quoted source, .text "; ",
      .text "printf '\x7b\"name\":\"", .raw destImage,
      .text "\",\"size\":%s,\"source_deleted\":true,",
      .text "\"checksum_verified\":true,\"source_sha256\":\"%s\",\"dest_sha256\":\"%s\"\x7d' ",
      .text "\"$actual_size\" \"$source_sha256\" \"$dest_sha256\""])

def rbdMoveCleanupPartialCommand (params : Params) : Option Command := do
  let pool ← requirePoolName params
  let image ← requireRbdImage params
  let destPool ← requireDestPool params
  let destImage ← requireDestImage params
  guard (pool ≠ destPool)
  let sizeBytes ← requireSizeBytes params
  guard ((get params "delete_destination").isTrue = true)
  let checksum ← (get params "checksum").asStr
  guard (checksum = "rbd-export-diff-sha256")
  let moveToken ← requireStr params "move_token" (fullmatchRe rbdMoveTokenRe)
  let source := pool ++ "/" ++ image
  let destination := destPool ++ "/" ++ destImage
  let metadataKey := "ceph.ai.move_token"
  return .shell [.text "sh -c "] (.line
    [.text "set -eu; source_info=$(rbd info ", .quoted source, .text " --format json); ",
      .text "actual_source_size=$(printf '%s' \"$source_info\" | python3 -c ",
      .text "'import json,sys; print(int(json.load(sys.stdin)[\"size\"]))'); ",
      .text "if [ \"$actual_source_size\" != \"", .number sizeBytes, .text "\" ]; then ",
      .text "echo 'RBD partial cleanup source size changed; destination was preserved' >&2; ",
      .text "exit 1; fi; ",
      .text "destination_info=$(rbd info ", .quoted destination, .text " --format json); ",
      .text "watcher_count=$(rbd status ", .quoted destination,
      .text " --format json | python3 -c ",
      .text "'import json,sys; p=json.load(sys.stdin); print(len(p.get(\"watchers\", [])) ",
      .text "if isinstance(p,dict) else 0)'); ",
      .text "if [ \"$watcher_count\" != 0 ]; then ",
      .text "echo 'RBD partial cleanup destination has active watchers; ",
      .text "destination was preserved' >&2; exit 1; fi; ",
      .text "snapshot_count=$(rbd snap ls ", .quoted destination,
      .text " --format json | python3 -c ",
      .text "'import json,sys; p=json.load(sys.stdin); print(len(p if isinstance(p,list) ",
      .text "else p.get(\"snapshots\", [])))'); ",
      .text "if [ \"$snapshot_count\" != 0 ]; then ",
      .text "echo 'RBD partial cleanup destination has snapshots; ",
      .text "destination was preserved' >&2; exit 1; fi; ",
      .text "marker=$(rbd image-meta get ", .quoted destination, .text " ",
      .quoted metadataKey, .text " 2>/dev/null || true); ",
      .text "if [ \"$marker\" != ", .quoted moveToken, .text " ]; then ",
      .text "echo 'RBD partial cleanup destination token mismatch; ",
      .text "destination was preserved' >&2; exit 23; fi; ",
      .text "actual_destination_size=$(printf '%s' \"$destination_info\" | python3 -c ",
      .text "'import json,sys; print(int(json.load(sys.stdin)[\"size\"]))'); ",
      .text "rbd rm ", .quoted destination, .text "; ",
      .text "printf '\x7b\"name\":\"", .raw destImage,
      .text "\",\"size\":%s,\"source_present\":true,'",
      .text "'\"destination_deleted\":true,\"marker_verified\":true\x7d' ",
      .text "\"$actual_destination_size\""])

def rbdFlattenVolumeCommand (params : Params) : Option Command := do
  let pool ← requirePoolName params
  let image ← requireRbdImage params
  let spec := pool ++ "/" ++ image
  return .line
    [.text "rbd flatten ", .quoted spec, .text " && rbd info ", .quoted spec,
      .text " --format json"]

def rbdTemplateMarkCommand (params : Params) : Option Command := do
  let pool ← requirePoolName params
  let image ← requireRbdImage params
  let snapshot ← requireSnapshot params
  let templateName ← requireStr params "template_name" (fullmatchRe templateNameRe)
  let description ← ((params.lookup "description").getD (.str "")).asStr
  guard (description.length ≤ 500 ∧ Char.ofNat 0 ∉ description.toList)
  let spec := pool ++ "/" ++ image
  let snapSpec := pool ++ "/" ++ image ++ "@" ++ snapshot
  let metadataKey := "ceph.ai.template." ++ snapshot
  let metadataValue := templateName ++ "|" ++ description
  return .line
    [.text "(rbd snap protect ", .quoted snapSpec, .text " 2>/dev/null || true) && ",
      .text "rbd image-meta set ", .quoted spec, .text " ", .quoted metadataKey, .text " ",
      .quoted metadataValue, .text " && ",
      .text "rbd snap ls ", .quoted spec, .text " --format json"]

def rbdQosOptions : List (String × Int × Int) :=
  [("rbd_qos_iops_limit", 0, 1000000000), ("rbd_qos_bps_limit", 0, 10000000000000),
    ("rbd_qos_iops_burst", 0, 1000000000), ("rbd_qos_bps_burst", 0, 10000000000000),
    ("rbd_qos_read_iops_limit", 0, 1000000000), ("rbd_qos_read_bps_limit", 0, 10000000000000),
    ("rbd_qos_write_iops_limit", 0, 1000000000),
    ("rbd_qos_write_bps_limit", 0, 10000000000000)]

/-- One QoS option of an image; a missing one is zero. -/
def rbdQosPieces (spec : String) (params : Params) (option : String × Int × Int) :
    Option (List Piece) :=
  match (params.lookup option.1).getD (.int 0) with
  | .int value =>
    if option.2.1 ≤ value ∧ value ≤ option.2.2 then
      some [.text "rbd config image set ", .quoted spec, .text " ", .text option.1,
        .text " ", .number value]
    else none
  | _ => none

def rbdQosSetCommand (params : Params) : Option Command := do
  let pool ← requirePoolName params
  let image ← requireRbdImage params
  let spec := pool ++ "/" ++ image
  let commands ← rbdQosOptions.mapM (rbdQosPieces spec params)
  return .line (joined " && " (commands ++
    [[.text "rbd config image list ", .quoted spec, .text " --format json"]]))

def rbdTrashMoveVolumeCommand (params : Params) : Option Command := do
  let pool ← requirePoolName params
  let image ← requireRbdImage params
  let spec := pool ++ "/" ++ image
  return .line
    [.text "rbd trash mv ", .quoted spec, .text " && rbd trash ls ", .quoted pool,
      .text " --format json"]

def rbdTrashRestoreVolumeCommand (params : Params) : Option Command := do
  let pool ← requirePoolName params
  let trashId ← requireTrashId params
  let image ← requireRbdImage params
  let trashSpec := pool ++ "/" ++ trashId
  let restoredSpec := pool ++ "/" ++ image
  return .line
    [.text "rbd trash restore ", .quoted trashSpec, .text " --image ", .quoted image,
      .text " && rbd info ", .quoted restoredSpec, .text " --format json"]

def rbdTrashPurgeAllCommand (params : Params) : Option Command := do
  let pool ← requirePoolName params
  let trashIds ← (get params "trash_ids").asList
  guard (trashIds ≠ [] ∧ trashIds.length ≤ 500)
  let validated ← trashIds.mapM fun trashId => requireTrashId [("trash_id", trashId)]
  guard validated.Nodup
  return .line (joined "\n" (validated.map fun trashId =>
    [.text "rbd trash rm ", .quoted pool, .text "/", .quoted trashId]))

/-! ## Cinder -/

/-- A Cinder or Nova id. -/
def requireUuid (params : Params) (key : String) : Option String :=
  requireStr params key (fullmatchRe openstackUuidRe)

/-- The path of the OpenStack credentials. -/
def requireOpenrcPath (params : Params) : Option String :=
  requireStr params "openrc_path" fun path =>
    path.startsWith "/" && !path.toList.contains (Char.ofNat 0)

def cinderAttachmentCommand (params : Params) (operation : String) : Option Command := do
  let volumeId ← requireUuid params "volume_id"
  let serverId ← requireUuid params "server_id"
  let openrcPath ← requireOpenrcPath params
  let verb := if operation = "attach" then "add" else "remove"
  return .shell [.text "sh -c "] (.line
    [.text ". ", .quoted openrcPath, .text " >/dev/null 2>&1 && ",
      .text "openstack server ", .text verb, .text " volume ", .quoted serverId, .text " ",
      .quoted volumeId, .text " && ",
      .text "openstack volume show ", .quoted volumeId, .text " -f json"])

def cinderCreateSnapshotCommand (params : Params) : Option Command := do
  let volumeId ← requireUuid params "volume_id"
  let snapshotName ← requireStr params "snapshot_name" (fullmatchRe cinderSnapshotNameRe)
  let openrcPath ← requireOpenrcPath params
  let force := if (get params "force").isTrue then [.text " --force"] else []
  return .shell [.text "sh -c "] (.line (
    [.text ". ", .quoted openrcPath, .text " >/dev/null 2>&1 && ",
      .text "openstack volume snapshot create --volume ", .quoted volumeId] ++ force ++
    [.text " ", .quoted snapshotName, .text " -f json >/dev/null && ",
      .text "openstack volume snapshot list --volume ", .quoted volumeId, .text " -f json"]))

def cinderDeleteSnapshotCommand (params : Params) : Option Command := do
  let _ ← requireUuid params "volume_id"
  let snapshotId ← requireUuid params "snapshot_id"
  let openrcPath ← requireOpenrcPath params
  return .shell [.text "sh -c "] (.line
    [.text ". ", .quoted openrcPath, .text " >/dev/null 2>&1 && ",
      .text "openstack volume snapshot delete ", .quoted snapshotId, .text " && ",
      .text "for attempt in 1 2 3 4 5; do ",
      .text "if ! openstack volume snapshot show ", .quoted snapshotId,
      .text " -f json >/dev/null 2>&1; then ",
      .text "printf '\x7b\"snapshot_id\":\"", .raw snapshotId,
      .text "\",\"deleted\":true\x7d'; exit 0; fi; sleep 2; done; ",
      .text "openstack volume snapshot show ", .quoted snapshotId, .text " -f json"])

def executeNodeCommand (params : Params) : Option Command := do
  let command ← (get params "command").asStr
  guard (trim isSpace command ≠ "" ∧ command.length ≤ 2000)
  guard (Char.ofNat 0 ∉ command.toList ∧ '\n' ∉ command.toList ∧ '\r' ∉ command.toList)
  return .line [.raw (trim isSpace command)]

end CephAi.Ports.ManagementCommands
