import CephAi.Verified.ShellText

/-!
# The parameters of a command and their checks

Ports the `_require_*` helpers and the patterns of
`worker/executor/commands.py`, and the parameter schemas of
`worker/executor/action_contract.py`.

Parameters are a JSON object.  A check gives the value it read, or `none` where
the source raises; the texts of the errors are left out.  A pattern is a test
on the characters of a string.  `re.fullmatch` applies it to the whole string,
and `re.match`, whose patterns all end in `$`, also to the string without a last
line break.
-/

namespace CephAi.Ports.CommandParams

open Verified.ShellText

/-! ## Values -/

/-- A JSON value.  Of a float only its being zero is ever read. -/
inductive Value
  | null
  | bool (b : Bool)
  | int (n : Int)
  | float (zero : Bool)
  | str (s : String)
  | list (values : List Value)
  | dict (entries : List (String × Value))

/-- The parameters of an action. -/
abbrev Params := List (String × Value)

/-- `params.get(key)`. -/
def get (params : Params) (key : String) : Value := (params.lookup key).getD .null

/-- Whether Python takes the value for true. -/
def Value.truthy : Value → Bool
  | .null => false
  | .bool b => b
  | .int n => n != 0
  | .float zero => !zero
  | .str s => s != ""
  | .list values => !values.isEmpty
  | .dict entries => !entries.isEmpty

def Value.isTrue : Value → Bool
  | .bool b => b
  | _ => false

/-- `value is None`. -/
def Value.isNull : Value → Bool
  | .null => true
  | _ => false

def Value.asStr : Value → Option String
  | .str s => some s
  | _ => none

def Value.asList : Value → Option (List Value)
  | .list values => some values
  | _ => none

/-- How many entries a list has. -/
def Value.entries : Value → Nat
  | .list values => values.length
  | _ => 0

/-! ## Characters -/

/-- `str.isspace` of one character. -/
def isSpace (c : Char) : Bool :=
  let n := c.toNat
  (9 ≤ n && n ≤ 13) || (28 ≤ n && n ≤ 32) || n == 0x85 || n == 0xa0 || n == 0x1680 ||
    (0x2000 ≤ n && n ≤ 0x200a) || n == 0x2028 || n == 0x2029 || n == 0x202f || n == 0x205f ||
    n == 0x3000

/-- The same without the four separators that only Python counts. -/
def isWhiteSpace (c : Char) : Bool := isSpace c && !(28 ≤ c.toNat && c.toNat ≤ 31)

/-- A string without the blanks at both ends. -/
def trim (blank : Char → Bool) (s : String) : String :=
  String.ofList (((s.toList.dropWhile blank).reverse.dropWhile blank).reverse)

/-- The code points of the decimal digits zero. -/
def zeros : List Nat :=
  [0x30, 0x660, 0x6f0, 0x7c0, 0x966, 0x9e6, 0xa66, 0xae6, 0xb66, 0xbe6, 0xc66, 0xce6, 0xd66,
    0xde6, 0xe50, 0xed0, 0xf20, 0x1040, 0x1090, 0x17e0, 0x1810, 0x1946, 0x19d0, 0x1a80, 0x1a90,
    0x1b50, 0x1bb0, 0x1c40, 0x1c50, 0xa620, 0xa8d0, 0xa900, 0xa9d0, 0xa9f0, 0xaa50, 0xabf0,
    0xff10, 0x104a0, 0x10d30, 0x11066, 0x110f0, 0x11136, 0x111d0, 0x112f0, 0x11450, 0x114d0,
    0x11650, 0x116c0, 0x11730, 0x118e0, 0x11950, 0x11c50, 0x11d50, 0x11da0, 0x16a60, 0x16ac0,
    0x16b50, 0x1d7ce, 0x1d7d8, 0x1d7e2, 0x1d7ec, 0x1d7f6, 0x1e140, 0x1e2f0, 0x1e950, 0x1fbf0]

/-- The value of a decimal digit, of any script. -/
def decimal (c : Char) : Option Nat :=
  (zeros.find? fun z => z ≤ c.toNat && c.toNat < z + 10).map (c.toNat - ·)

/-- `\d` in a pattern. -/
def isDecimal (c : Char) : Bool := (decimal c).isSome

theorem decimal_of_isDigit {c : Char} (h : c.isDigit = true) : decimal c = some (c.toNat - 48) := by
  have hrange : 48 ≤ c.toNat ∧ c.toNat ≤ 57 := by
    simp only [Char.isDigit, Bool.and_eq_true, decide_eq_true_eq, ge_iff_le,
      UInt32.le_iff_toNat_le] at h
    exact h
  have hzero : (48 ≤ c.toNat && c.toNat < 48 + 10) = true := by
    simp only [Bool.and_eq_true, decide_eq_true_eq]
    omega
  unfold decimal zeros
  rw [List.find?_cons, hzero]
  rfl

/-- `[A-Za-z0-9]` and these characters. -/
def alnumOr (extra : List Char) (c : Char) : Bool := c.isAlphanum || c ∈ extra

def isHex (c : Char) : Bool :=
  c.isDigit || ('a' ≤ c && c ≤ 'f') || ('A' ≤ c && c ≤ 'F')

/-! ## Patterns -/

/-- A pattern of one character and between `low` and `high` others. -/
def oneThen (first rest : Char → Bool) (low high : Nat) : List Char → Bool
  | [] => false
  | c :: cs => first c && cs.all rest && decide (low ≤ cs.length) && decide (cs.length ≤ high)

def fullmatchRe (pattern : List Char → Bool) (s : String) : Bool := pattern s.toList

def endsLine (s : String) : Bool := s.toList.getLast? == some '\n'

/-- `pattern.match(s)`, for a pattern that ends in `$`. -/
def matchRe (pattern : List Char → Bool) (s : String) : Bool :=
  pattern s.toList || (endsLine s && pattern s.toList.dropLast)

def poolNameRe : List Char → Bool :=
  oneThen Char.isAlphanum (alnumOr ['_', '.', '-']) 0 127

def trashIdRe : List Char → Bool := oneThen Char.isAlphanum (alnumOr ['_', '-']) 0 63

def rbdImageRe : List Char → Bool := oneThen (alnumOr ['_']) (alnumOr ['_', '.', '-']) 0 127

def rbdSnapshotRe : List Char → Bool :=
  oneThen (alnumOr ['_']) (alnumOr ['_', '.', '-']) 0 127

def rbdMoveTokenRe : List Char → Bool := oneThen Char.isAlphanum (alnumOr ['_', '-']) 15 63

def serviceNameRe : List Char → Bool := oneThen Char.isAlpha (alnumOr ['_', '-']) 0 63

def hostnameRe : List Char → Bool := oneThen Char.isAlphanum (alnumOr ['.', '-']) 0 252

def exportPathRe : List Char → Bool := oneThen (· == '/') (alnumOr ['/', '_', '.', '-']) 0 254

def appNameRe : List Char → Bool := oneThen Char.isAlphanum (alnumOr ['_', '.', '-']) 0 63

def cinderSnapshotNameRe : List Char → Bool :=
  oneThen Char.isAlphanum (alnumOr ['_', '.', '-']) 0 127

def templateNameRe : List Char → Bool :=
  oneThen Char.isAlphanum (alnumOr ['_', '.', '-']) 0 63

/-- The pattern of a placement group's id: digits, a dot, hexadecimal digits. -/
def pgIdRe (cs : List Char) : Bool :=
  match cs.dropWhile Char.isDigit with
  | '.' :: hex => !(cs.takeWhile Char.isDigit).isEmpty && !hex.isEmpty && hex.all isHex
  | _ => false

/-- One test for each character. -/
def each : List (Char → Bool) → List Char → Bool
  | [], [] => true
  | test :: tests, c :: cs => test c && each tests cs
  | _, _ => false

def openstackUuidRe : List Char → Bool :=
  each (List.replicate 8 isHex ++ [(· == '-')] ++ List.replicate 4 isHex ++ [(· == '-')] ++
    [(['1', '2', '3', '4', '5'].contains ·)] ++ List.replicate 3 isHex ++ [(· == '-')] ++
    [(['8', '9', 'a', 'b', 'A', 'B'].contains ·)] ++ List.replicate 3 isHex ++ [(· == '-')] ++
    List.replicate 12 isHex)

def packageDirRe : List Char → Bool
  | '/' :: cs => !cs.isEmpty && cs.all (alnumOr ['_', '.', '/', '-'])
  | _ => false

/-- `_TARGET_VERSION_RE`: three numbers with dots between them. -/
def targetVersionRe (cs : List Char) : Bool :=
  let major := cs.takeWhile isDecimal
  match cs.dropWhile isDecimal with
  | '.' :: cs' =>
    match cs'.dropWhile isDecimal with
    | '.' :: patch =>
      !major.isEmpty && !(cs'.takeWhile isDecimal).isEmpty && !patch.isEmpty &&
        patch.all isDecimal
    | _ => false
  | _ => false

/-! ## Checked parameters -/

/-- The string at a key, if it passes a test. -/
def requireStr (params : Params) (key : String) (test : String → Bool) : Option String := do
  let value ← (get params key).asStr
  guard (test value = true)
  return value

def requireTrashId (params : Params) : Option String :=
  requireStr params "trash_id" (matchRe trashIdRe)

def requirePoolName (params : Params) : Option String :=
  requireStr params "pool_name" (matchRe poolNameRe)

def requireRbdImage (params : Params) : Option String :=
  requireStr params "image" (fullmatchRe rbdImageRe)

def requireInt (params : Params) (key : String) (bounds : Int × Int) : Option Int :=
  match get params key with
  | .int value => if bounds.1 ≤ value ∧ value ≤ bounds.2 then some value else none
  | _ => none

def requireName (params : Params) (key : String) : Option String :=
  requireStr params key (matchRe serviceNameRe)

def requireHosts (params : Params) : Option (List String) := do
  let values ← (get params "hosts").asList
  guard (values ≠ [] ∧ values.length ≤ 16)
  let hosts ← values.mapM Value.asStr
  guard hosts.Nodup
  guard (hosts.all (matchRe hostnameRe) = true)
  return hosts

/-- Whether one text occurs in another. -/
def occurs (needle : List Char) (hay : List Char) : Bool := hay.tails.any needle.isPrefixOf

def requireExportPath (params : Params) (key : String) : Option String :=
  requireStr params key fun value =>
    matchRe exportPathRe value && !occurs ['/', '.', '.', '/'] (value.toList ++ ['/'])

def requireAppName (params : Params) : Option String :=
  requireStr params "app_name" (matchRe appNameRe)

def requireTargetVersion (params : Params) : Option String :=
  requireStr params "target_version" (matchRe targetVersionRe)

def requirePackageDir (params : Params) : Option String :=
  requireStr params "package_dir" (matchRe packageDirRe)

/-! ## The typed contract -/

/-- The actions whose commands are modelled: the management actions and the
cluster upgrades. -/
inductive CommandAction
  | editPool
  | tuneBluestoreSlowOpsWarn
  | scrubPool
  | setPoolProtection
  | executeNodeCommand
  | createPool
  | cephfsCreateVolume
  | cephfsCreateSubvolume
  | nfsCreateCluster
  | nfsCreateExport
  | nfsDeleteExport
  | rgwApplyService
  | deletePool
  | setPoolSize
  | setPoolPgNum
  | enablePoolPgAutoscaler
  | reshardRgwBucket
  | deepScrubOmapPg
  | markOsdOut
  | markOsdIn
  | markOsdDown
  | enablePoolApplication
  | finalizePacificOsdRelease
  | rbdTrashRemove
  | rbdCreateVolume
  | rbdResizeVolume
  | rbdRenameVolume
  | rbdCloneVolume
  | rbdCopyVolume
  | rbdMoveVolume
  | rbdMoveCleanupPartial
  | rbdFlattenVolume
  | rbdTemplateMark
  | rbdQosSet
  | rbdTrashMoveVolume
  | rbdTrashRestoreVolume
  | rbdTrashPurgeAll
  | cinderAttachVolume
  | cinderDetachVolume
  | cinderCreateSnapshot
  | cinderDeleteSnapshot
  | upgradeCephCluster
  | upgradeCephClusterPackageDownload
  | upgradeCephClusterPackageLocal
deriving DecidableEq, Repr

/-- A string field of a schema: stripped, then bounded in length. -/
def strField (params : Params) (key : String) (low high : Nat) : Option String := do
  let value ← (get params key).asStr
  let value := trim isWhiteSpace value
  guard (low ≤ value.length ∧ value.length ≤ high)
  return value

/-- A string field that may be missing. -/
def optionalField (params : Params) (key : String) (low high : Nat) : Option Unit :=
  if (get params key).isNull then some ()
  else (strField params key low high).map fun _ => ()

/-- The fields that the three schemas share, with the stripped source and
destination. -/
def sharedFields (params : Params) (keys : List String) :
    Option (String × String × String × String) := do
  guard (∀ entry ∈ params, entry.1 ∈ keys ++
    ["pool_name", "image", "dest_pool", "dest_image", "size_bytes", "idempotency_key",
      "requested_by"])
  let pool ← strField params "pool_name" 1 128
  let image ← strField params "image" 1 128
  let destPool ← strField params "dest_pool" 1 128
  let destImage ← strField params "dest_image" 1 128
  match get params "size_bytes" with
  | .int n => guard (0 < n)
  | _ => none
  optionalField params "idempotency_key" 8 128
  optionalField params "requested_by" 1 128
  guard (fullmatchRe poolNameRe pool = true ∧ fullmatchRe poolNameRe destPool = true)
  guard (fullmatchRe rbdImageRe image = true ∧ fullmatchRe rbdImageRe destImage = true)
  guard (pool ≠ destPool)
  return (pool, image, destPool, destImage)

/-- The move token and the checksum of the two move schemas. -/
def moveFields (params : Params) : Option Unit := do
  let token ← strField params "move_token" 16 64
  guard (fullmatchRe rbdMoveTokenRe token = true)
  let checksum ← (get params "checksum").asStr
  guard (checksum = "rbd-export-diff-sha256")

def rbdCopyVolumeParams (params : Params) : Option Unit := do
  let (_, image, _, destImage) ← sharedFields params ["snapshot"]
  let snapshot ← strField params "snapshot" 1 128
  guard (fullmatchRe rbdImageRe snapshot = true)
  guard (¬ image.startsWith "volume-" = true ∧ ¬ destImage.startsWith "volume-" = true)

def rbdMoveVolumeParams (params : Params) : Option Unit := do
  let (_, image, _, destImage) ←
    sharedFields params ["delete_source", "move_token", "checksum"]
  moveFields params
  guard (image ≠ destImage)
  guard (¬ image.startsWith "volume-" = true ∧ ¬ destImage.startsWith "volume-" = true)
  guard ((get params "delete_source").isTrue = true)

def rbdMoveCleanupPartialParams (params : Params) : Option Unit := do
  let (_, image, _, destImage) ←
    sharedFields params ["delete_destination", "move_token", "checksum", "cleanup_of_action_id"]
  moveFields params
  let _ ← strField params "cleanup_of_action_id" 1 64
  guard (image ≠ destImage)
  guard ((get params "delete_destination").isTrue = true)

/-- `validate_typed_action_params`, which `get_command` asks for three actions. -/
def validateTypedActionParams (action : CommandAction) (params : Params) : Option Unit :=
  match action with
  | .rbdMoveVolume => rbdMoveVolumeParams params
  | .rbdMoveCleanupPartial => rbdMoveCleanupPartialParams params
  | .rbdCopyVolume => rbdCopyVolumeParams params
  | _ => some ()

end CephAi.Ports.CommandParams
