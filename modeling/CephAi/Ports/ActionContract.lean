import CephAi.Ports.CommandParams
import CephAi.Verified.Checks
import CephAi.Verified.Json
import Mathlib.Data.Finset.Card
import Mathlib.Data.Fintype.Option

/-!
# The typed action contract

`TypedActionRequest`, `_walk_params`, `execution_fingerprint`, `validate_typed_action_params` and
`TypedActionGateway.authorize` of `worker/executor/action_contract.py`.

What pydantic makes of a payload before the validators, how it writes a time, the text of a float
and SHA-256 are parameters.

## Main results

* `walkParams_eq_ok` — what the walk over the parameters accepts can be read back.
* `authorized_same` — an approval is one of a single action: two accepted contracts with one
  approved fingerprint are the same.
-/

namespace CephAi.Ports.ActionContract

open CommandParams (isSpace alnumOr isHex oneThen fullmatchRe trim)
open Verified.Checks
open Verified.Json

/-! ## Values -/

variable {F : Type}

/-- The values that are neither a string nor a list nor a dict; `other` is one that is no JSON
value, as a tuple or a dict with a key that is no string. -/
inductive Scalar (F : Type)
  | none
  | bool (b : Bool)
  | int (n : Int)
  | float (f : F)
  | other
deriving DecidableEq, Repr

/-- `math.isfinite` and `float.__repr__`. -/
structure Floats (F : Type) where
  isFinite : F → Bool
  repr : F → List Char

/-- The text of a finite float reads back as it, and is none of an integer. -/
structure Floats.Lawful (X : Floats F) : Prop where
  inj : ∀ f g, X.isFinite f = true → X.isFinite g = true → X.repr f = X.repr g → f = g
  point : ∀ f, X.isFinite f = true → '.' ∈ X.repr f ∨ 'e' ∈ X.repr f
  chars : ∀ f, X.isFinite f = true → ∀ c ∈ X.repr f, c.isDigit = true ∨ c ∈ ['+', '-', '.', 'e']

/-- `int.__repr__` -/
def intText : Int → List Char
  | .ofNat n => Nat.toDigits 10 n
  | .negSucc n => '-' :: Nat.toDigits 10 (n + 1)

/-- What `json.dumps` writes; for `other` it raises, and it is not asked for one. -/
def scalarText (X : Floats F) : Scalar F → List Char
  | .none => ['n', 'u', 'l', 'l']
  | .bool true => ['t', 'r', 'u', 'e']
  | .bool false => ['f', 'a', 'l', 's', 'e']
  | .int n => intText n
  | .float f => X.repr f
  | .other => []

/-- A JSON scalar. -/
def Plain (X : Floats F) : Scalar F → Prop
  | .float f => X.isFinite f = true
  | .other => False
  | _ => True

/-! ## Parameters -/

def maxParamDepth : Nat := 5

def maxParamsJsonChars : Nat := 16000

def forbiddenParamKeys : List String :=
  ["cmd", "command", "command_line", "freeform_command", "raw_command", "script", "shell"]

/-- `str.lower`, as far as the forbidden keys can tell. -/
def lower (s : String) : String := String.ofList (s.toList.map Char.toLower)

def checkDepth (depth : Nat) : Except String Unit :=
  if depth > maxParamDepth then .error "action params lồng quá sâu" else .ok ()

def checkKey (key : String) : Except String Unit :=
  if trim isSpace key = "" then .error "action params chỉ nhận key chuỗi không rỗng"
  else if lower (trim isSpace key) ∈ forbiddenParamKeys then
    .error "action params không được chứa free-form command"
  else .ok ()

def checkScalar (X : Floats F) : Scalar F → Except String Unit
  | .float f =>
    if X.isFinite f = true then .ok ()
    else .error "action params không được chứa NaN hoặc Infinity"
  | .other => .error "action params phải là JSON primitive/object/array"
  | _ => .ok ()

mutual

def walkParams (X : Floats F) (depth : Nat) : Value (Scalar F) → Except String Unit
  | .atom a => do
    checkDepth depth
    checkScalar X a
  | .str _ => checkDepth depth
  | .arr items => do
    checkDepth depth
    walkItems X (depth + 1) items
  | .obj members => do
    checkDepth depth
    walkMembers X (depth + 1) members

def walkItems (X : Floats F) (depth : Nat) : List (Value (Scalar F)) → Except String Unit
  | [] => .ok ()
  | v :: items => do
    walkParams X depth v
    walkItems X depth items

def walkMembers (X : Floats F) (depth : Nat) :
    List (String × Value (Scalar F)) → Except String Unit
  | [] => .ok ()
  | (key, v) :: members => do
    checkKey key
    walkParams X depth v
    walkMembers X depth members

end

/-! ## Requests -/

/-- A datetime: the time it shows, in microseconds, and its `utcoffset`. -/
structure DateTime where
  shown : Int
  utcoffset : Option Int
deriving DecidableEq, Repr

def utc (t : DateTime) : Except String Int :=
  match t.utcoffset with
  | none => .error "datetime phải có timezone"
  | some offset => .ok (t.shown - offset)

/-- A dict has no key twice, and the dicts in it have none. -/
abbrev Params (F : Type) :=
  { members : List (String × Value (Scalar F)) // Distinct (.obj members) }

/-- The fields as pydantic gives them to the validators: of their types and stripped. -/
structure Fields (F : Type) where
  actionId : String
  clusterId : String
  capability : String
  targetType : String
  targetId : String
  params : Params F
  evidenceFingerprint : String
  expiresAt : DateTime
  actor : String
  approvalFingerprint : Option String

/-- A validated `TypedActionRequest`; it expires at a time in UTC, and its parameters are JSON
values. -/
structure TypedActionRequest (X : Floats F) where
  actionId : String
  clusterId : String
  capability : String
  targetType : String
  targetId : String
  params : Params F
  plain : Lawful (Plain X) (.obj params.val)
  evidenceFingerprint : String
  expiresAt : Int
  actor : String
  approvalFingerprint : Option String

/-- `Field(min_length=..., max_length=...)` -/
def checkLength (value : String) (low high : Nat) : Except String Unit :=
  if value.length < low then
    .error ("String should have at least " ++ toString low ++ " characters")
  else if value.length > high then
    .error ("String should have at most " ++ toString high ++ " characters")
  else .ok ()

def identifierRe : List Char → Bool := oneThen Char.isAlpha (alnumOr ['_', '.', ':', '-']) 0 63

def hex64Re (cs : List Char) : Bool := cs.length = 64 ∧ cs.all isHex = true

def targetTypes : List String :=
  ["cluster", "host", "node", "osd", "pool", "pg", "volume", "bucket", "object"]

def validateIdentifier (value : String) : Except String Unit :=
  if fullmatchRe identifierRe value = true then .ok () else .error "identifier không hợp lệ"

def validateTargetType (value : String) : Except String Unit :=
  if value ∈ targetTypes then .ok () else .error "target_type không được hỗ trợ"

def validateFingerprint (value : String) : Except String String :=
  if fullmatchRe hex64Re value = true then .ok (lower value)
  else .error "fingerprint phải là SHA-256 hex 64 ký tự"

def validateOptionalFingerprint : Option String → Except String (Option String)
  | none => .ok none
  | some value => do
    checkLength value 64 64
    let value ← validateFingerprint value
    pure (some value)

def checkParamsSize (X : Floats F) (params : Params F) : Except String Unit :=
  if (dumps (scalarText X) (.obj params.val)).length > maxParamsJsonChars then
    .error "action params vượt giới hạn kích thước"
  else .ok ()

variable {X : Floats F} {a : Scalar F} {c : Char}

theorem checkScalar_eq_ok (h : checkScalar X a = .ok ()) : Plain X a := by
  cases a with
  | float f =>
    show X.isFinite f = true
    by_contra hfinite
    rw [checkScalar, if_neg hfinite] at h
    cases h
  | other => cases h
  | none | bool | int => exact True.intro

mutual

theorem walkParams_eq_ok {X : Floats F} : ∀ (depth : Nat) (v : Value (Scalar F)),
    walkParams X depth v = .ok () → Lawful (Plain X) v
  | depth, .atom a, h => by
    obtain ⟨_, _, h⟩ := bind_eq_ok.mp h
    exact checkScalar_eq_ok h
  | depth, .str s, _ => True.intro
  | depth, .arr items, h => by
    obtain ⟨_, _, h⟩ := bind_eq_ok.mp h
    exact walkItems_eq_ok (depth + 1) items h
  | depth, .obj members, h => by
    obtain ⟨_, _, h⟩ := bind_eq_ok.mp h
    exact walkMembers_eq_ok (depth + 1) members h

theorem walkItems_eq_ok {X : Floats F} : ∀ (depth : Nat) (items : List (Value (Scalar F))),
    walkItems X depth items = .ok () → LawfulItems (Plain X) items
  | _, [], _ => True.intro
  | depth, v :: items, h => by
    obtain ⟨_, hv, h⟩ := bind_eq_ok.mp h
    exact ⟨walkParams_eq_ok depth v hv, walkItems_eq_ok depth items h⟩

theorem walkMembers_eq_ok {X : Floats F} :
    ∀ (depth : Nat) (members : List (String × Value (Scalar F))),
    walkMembers X depth members = .ok () → LawfulMembers (Plain X) members
  | _, [], _ => True.intro
  | depth, (key, v) :: members, h => by
    obtain ⟨_, _, h⟩ := bind_eq_ok.mp h
    obtain ⟨_, hv, h⟩ := bind_eq_ok.mp h
    exact ⟨walkParams_eq_ok depth v hv, walkMembers_eq_ok depth members h⟩

end

def validateParams (X : Floats F) (params : Params F) :
    Except String { p : Params F // Lawful (Plain X) (.obj p.val) } :=
  match h : walkParams X 0 (.obj params.val) with
  | .error e => .error e
  | .ok () => do
    checkParamsSize X params
    pure ⟨params, walkParams_eq_ok 0 (.obj params.val) h⟩

/-- `TypedActionRequest.model_validate`, after pydantic's own part. -/
def validate (X : Floats F) (f : Fields F) : Except String (TypedActionRequest X) := do
  checkLength f.actionId 1 64
  validateIdentifier f.actionId
  checkLength f.clusterId 1 128
  checkLength f.capability 1 64
  validateIdentifier f.capability
  checkLength f.targetType 1 16
  validateTargetType f.targetType
  checkLength f.targetId 1 255
  let params ← validateParams X f.params
  checkLength f.evidenceFingerprint 64 64
  let evidenceFingerprint ← validateFingerprint f.evidenceFingerprint
  let expiresAt ← utc f.expiresAt
  checkLength f.actor 1 128
  let approvalFingerprint ← validateOptionalFingerprint f.approvalFingerprint
  pure {
    actionId := f.actionId
    clusterId := f.clusterId
    capability := f.capability
    targetType := f.targetType
    targetId := f.targetId
    params := params.val
    plain := params.property
    evidenceFingerprint := evidenceFingerprint
    expiresAt := expiresAt
    actor := f.actor
    approvalFingerprint := approvalFingerprint }

/-! ## Fingerprints -/

/-- What is outside: pydantic's reading of a payload and writing of a UTC time, and
`hashlib.sha256(...).hexdigest()`. -/
structure Outside (P F : Type) where
  read : P → Except String (Fields F)
  iso : Int → String
  sha256 : ByteArray → String

/-- `model_dump(mode="json", exclude={"approval_fingerprint"})` -/
def payload {X : Floats F} (iso : Int → String) (c : TypedActionRequest X) : Value (Scalar F) :=
  .obj [
    ("action_id", .str c.actionId),
    ("cluster_id", .str c.clusterId),
    ("capability", .str c.capability),
    ("target_type", .str c.targetType),
    ("target_id", .str c.targetId),
    ("params", .obj c.params.val),
    ("evidence_fingerprint", .str c.evidenceFingerprint),
    ("expires_at", .str (iso c.expiresAt)),
    ("actor", .str c.actor)]

/-- `json.dumps(payload, ...).encode()` -/
def canonicalJson {X : Floats F} (iso : Int → String) (c : TypedActionRequest X) : ByteArray :=
  (String.ofList (dumps (scalarText X) (payload iso c))).toUTF8

def executionFingerprint {X : Floats F} {P : Type} (O : Outside P F) (c : TypedActionRequest X) :
    String :=
  O.sha256 (canonicalJson O.iso c)

/-! ## The gateway -/

structure TargetScope where
  clusterId : String
  nodes : Finset String
  osds : Finset String
  pools : Finset String
  pgs : Finset String
  volumes : Finset String
  buckets : Finset String
  objects : Finset String

def targetValues (scope : TargetScope) : String → Finset String
  | "cluster" => {scope.clusterId}
  | "host" => scope.nodes
  | "node" => scope.nodes
  | "osd" => scope.osds
  | "pool" => scope.pools
  | "pg" => scope.pgs
  | "volume" => scope.volumes
  | "bucket" => scope.buckets
  | "object" => scope.objects
  | _ => ∅

/-- A `TypedActionGateway`; a capability check may raise. -/
structure TypedActionGateway (X : Floats F) where
  allowedActionIds : Finset String
  allowedCapabilities : Finset String
  targetScope : TargetScope
  approvalRequired : Finset String
  capabilityCheck : Option (TypedActionRequest X → Except String Bool)
  capabilitiesByAction : Option (String → Option (Finset String))

mutual

/-- The value as the schemas of the single actions see it; they read no float. -/
def commandValue : Value (Scalar F) → CommandParams.Value
  | .atom .none => .null
  | .atom (.bool b) => .bool b
  | .atom (.int n) => .int n
  | .atom (.float _) => .float false
  | .atom .other => .list []
  | .str s => .str s
  | .arr items => .list (commandItems items)
  | .obj members => .dict (commandMembers members)

def commandItems : List (Value (Scalar F)) → List CommandParams.Value
  | [] => []
  | v :: items => commandValue v :: commandItems items

def commandMembers : List (String × Value (Scalar F)) → List (String × CommandParams.Value)
  | [] => []
  | (key, v) :: members => (key, commandValue v) :: commandMembers members

end

def validateTypedActionParams (actionId : String) (params : Params F) : Except String Unit :=
  let schema := fun (check : CommandParams.Params → Option Unit) =>
    match check (commandMembers params.val) with
    | some () => Except.ok ()
    | none => .error ("params của " ++ actionId ++ " không hợp lệ")
  if actionId = "rbd_move_volume" then schema CommandParams.rbdMoveVolumeParams
  else if actionId = "rbd_move_cleanup_partial" then
    schema CommandParams.rbdMoveCleanupPartialParams
  else if actionId = "rbd_copy_volume" then schema CommandParams.rbdCopyVolumeParams
  else .ok ()

/-- The allowlists and the scope. -/
def checkAllowed {X : Floats F} (g : TypedActionGateway X) (c : TypedActionRequest X) :
    Except String Unit :=
  if c.actionId ∉ g.allowedActionIds then .error "action_id không nằm trong allowlist"
  else if c.capability ∉ g.allowedCapabilities then .error "capability không được cấp"
  else if g.capabilitiesByAction.isNone = true ∧
      (g.allowedActionIds.card ≠ 1 ∨ g.allowedCapabilities.card ≠ 1) then
    .error "gateway đa action cần mapping action-capability"
  else if g.capabilitiesByAction.any (fun byAction =>
      c.capability ∉ (byAction c.actionId).getD ∅) = true then
    .error "capability không khớp action_id"
  else if c.clusterId ≠ g.targetScope.clusterId then .error "cluster_id không khớp target scope"
  else if c.targetId ∉ targetValues g.targetScope c.targetType then
    .error "target nằm ngoài scope hiện tại"
  else .ok ()

def checkCurrent {X : Floats F} (g : TypedActionGateway X) (c : TypedActionRequest X)
    (now : DateTime) : Except String Unit := do
  let current ← utc now
  if c.expiresAt ≤ current then .error "evidence/action contract đã hết hạn"
  else
    match g.capabilityCheck with
    | none => pure ()
    | some check =>
      match check c with
      | .error _ => .error "capability matrix không khả dụng"
      | .ok false => .error "capability matrix từ chối action"
      | .ok true => pure ()

def checkApproval {P : Type} {X : Floats F} (O : Outside P F) (g : TypedActionGateway X)
    (c : TypedActionRequest X) (approved : Option String) : Except String Unit :=
  if c.actionId ∈ g.approvalRequired then
    if c.approvalFingerprint ≠ some (executionFingerprint O c) then
      .error "approval fingerprint không khớp action contract"
    else if approved ≠ some (executionFingerprint O c) then
      .error "chưa có approval server-side cho action contract"
    else .ok ()
  else .ok ()

def modelValidate {P : Type} (X : Floats F) (O : Outside P F) (request : P) :
    Except String (TypedActionRequest X) :=
  match O.read request >>= validate X with
  | .error e => .error ("typed action không hợp lệ: " ++ e)
  | .ok contract => .ok contract

def authorize {P : Type} {X : Floats F} (O : Outside P F) (g : TypedActionGateway X) (request : P)
    (approved : Option String) (now : DateTime) : Except String (TypedActionRequest X) := do
  let contract ← modelValidate X O request
  validateTypedActionParams contract.actionId contract.params
  checkAllowed g contract
  checkCurrent g contract now
  checkApproval O g contract approved
  pure contract

/-! ## Scalars are read back -/

theorem toDigits_inj {m n : Nat} (h : Nat.toDigits 10 m = Nat.toDigits 10 n) : m = n := by
  calc m = Nat.ofDigitChars 10 (Nat.toDigits 10 m) 0 := Nat.ofDigitChars_ten_toDigits.symm
    _ = Nat.ofDigitChars 10 (Nat.toDigits 10 n) 0 := by rw [h]
    _ = n := Nat.ofDigitChars_ten_toDigits

theorem isDigit_of_mem_toDigits {n : Nat} (h : c ∈ Nat.toDigits 10 n) : c.isDigit = true :=
  Nat.isDigit_of_mem_toDigits (by decide) (by decide) h

theorem intText_chars (n : Int) : ∀ c ∈ intText n, c.isDigit = true ∨ c = '-' := by
  intro c hc
  cases n with
  | ofNat n => exact .inl (isDigit_of_mem_toDigits hc)
  | negSucc n =>
    cases hc with
    | head => exact .inr rfl
    | tail _ hc => exact .inl (isDigit_of_mem_toDigits hc)

theorem intText_inj {m n : Int} (h : intText m = intText n) : m = n := by
  have hminus : ∀ {k : Nat}, '-' ∉ Nat.toDigits 10 k := by
    intro k hmem
    exact absurd (isDigit_of_mem_toDigits hmem) (by decide)
  cases m with
  | ofNat m =>
    cases n with
    | ofNat n => exact congrArg Int.ofNat (toDigits_inj h)
    | negSucc n =>
      have hmem : '-' ∈ Nat.toDigits 10 m := by
        rw [show Nat.toDigits 10 m = intText (.negSucc n) from h]
        exact List.mem_cons_self
      exact absurd hmem hminus
  | negSucc m =>
    cases n with
    | ofNat n =>
      have hmem : '-' ∈ Nat.toDigits 10 n := by
        rw [show Nat.toDigits 10 n = intText (.negSucc m) from h.symm]
        exact List.mem_cons_self
      exact absurd hmem hminus
    | negSucc n =>
      injection h with _ h
      have hsame := toDigits_inj h
      exact congrArg Int.negSucc (by omega)

/-- The characters of numbers. -/
def numeric (c : Char) : Bool := c.isDigit || c ∈ ['+', '-', '.', 'e']

theorem numeric_of_isDigit (h : c.isDigit = true) : numeric c = true := by
  unfold numeric
  rw [h]
  rfl

theorem numeric_int (n : Int) : ∀ c ∈ intText n, numeric c = true := by
  intro c hc
  rcases intText_chars n c hc with hdigit | rfl
  · exact numeric_of_isDigit hdigit
  · rfl

variable {f : F}

theorem numeric_float (hX : X.Lawful) (hf : X.isFinite f = true) :
    ∀ c ∈ X.repr f, numeric c = true := by
  intro c hc
  rcases hX.chars f hf c hc with hdigit | hmem
  · exact numeric_of_isDigit hdigit
  · unfold numeric
    rw [decide_eq_true hmem, Bool.or_true]

theorem numeric_not_reserved (h : numeric c = true) : c ∉ reserved := by
  intro hmem
  have hall : reserved.all (fun d => !numeric d) = true := by decide
  have hnot : (!numeric c) = true := List.all_eq_true.mp hall c hmem
  rw [h] at hnot
  cases hnot

/-- A name is no number. -/
theorem ne_of_numeric {p q : List Char} (hp : ∀ d ∈ p, numeric d = true) (hc : numeric c = false)
    (hq : c ∈ q) : p ≠ q := by
  intro heq
  rw [hp c (heq ▸ hq)] at hc
  cases hc

/-- An integer is no float. -/
theorem intText_ne_repr (hX : X.Lawful) (n : Int) (hf : X.isFinite f = true) :
    intText n ≠ X.repr f := by
  intro heq
  have hnot : ∀ c ∈ intText n, c ≠ '.' ∧ c ≠ 'e' := by
    intro c hc
    rcases intText_chars n c hc with hdigit | rfl
    · constructor
      · rintro rfl
        exact absurd hdigit (by decide)
      · rintro rfl
        exact absurd hdigit (by decide)
    · decide
  rw [heq] at hnot
  rcases hX.point f hf with hpoint | hpoint
  · exact (hnot '.' hpoint).1 rfl
  · exact (hnot 'e' hpoint).2 rfl

/-- `None`, `True` or `False`. -/
def name : Option Bool → Scalar F
  | none => .none
  | some b => .bool b

def nameText : Option Bool → List Char
  | none => ['n', 'u', 'l', 'l']
  | some true => ['t', 'r', 'u', 'e']
  | some false => ['f', 'a', 'l', 's', 'e']

theorem scalarText_name (X : Floats F) (w : Option Bool) : scalarText X (name w) = nameText w := by
  match w with
  | none => rfl
  | some true => rfl
  | some false => rfl

theorem nameText_inj : ∀ w w' : Option Bool, nameText w = nameText w' → w = w' := by decide

theorem nameText_plain (w : Option Bool) : nameText w ≠ [] ∧
    (∃ c ∈ nameText w, numeric c = false) ∧ ∀ c ∈ nameText w, c ∉ reserved := by
  have htests : ∀ w : Option Bool, nameText w ≠ [] ∧
      (nameText w).any (fun c => numeric c = false) = true ∧
      (nameText w).all (fun c => c ∉ reserved) = true := by decide
  simpa only [List.any_eq_true, List.all_eq_true, decide_eq_true_eq] using htests w

theorem plain_cases (ha : Plain X a) :
    (∃ w, a = name w) ∨ (∃ n, a = .int n) ∨ ∃ f, a = .float f ∧ X.isFinite f = true := by
  cases a with
  | none => exact .inl ⟨none, rfl⟩
  | bool b => exact .inl ⟨some b, rfl⟩
  | int n => exact .inr (.inl ⟨n, rfl⟩)
  | float f => exact .inr (.inr ⟨f, rfl, ha⟩)
  | other => exact ha.elim

theorem nameText_ne {w : Option Bool} {p : List Char} (hp : ∀ d ∈ p, numeric d = true) :
    p ≠ nameText w := by
  obtain ⟨c, hc, hname⟩ := (nameText_plain w).2.1
  exact ne_of_numeric hp hname hc

theorem scalarText_inj (hX : X.Lawful) {b : Scalar F} (ha : Plain X a) (hb : Plain X b)
    (h : scalarText X a = scalarText X b) : a = b := by
  rcases plain_cases ha with ⟨w, rfl⟩ | ⟨m, rfl⟩ | ⟨f, rfl, hf⟩
  · rw [scalarText_name] at h
    rcases plain_cases hb with ⟨w', rfl⟩ | ⟨n, rfl⟩ | ⟨g, rfl, hg⟩
    · rw [scalarText_name] at h
      rw [nameText_inj w w' h]
    · exact absurd h.symm (nameText_ne (numeric_int n))
    · exact absurd h.symm (nameText_ne (numeric_float hX hg))
  · rcases plain_cases hb with ⟨w', rfl⟩ | ⟨n, rfl⟩ | ⟨g, rfl, hg⟩
    · rw [scalarText_name] at h
      exact absurd h (nameText_ne (numeric_int m))
    · exact congrArg Scalar.int (intText_inj h)
    · exact absurd h (intText_ne_repr hX m hg)
  · rcases plain_cases hb with ⟨w', rfl⟩ | ⟨n, rfl⟩ | ⟨g, rfl, hg⟩
    · rw [scalarText_name] at h
      exact absurd h (nameText_ne (numeric_float hX hf))
    · exact absurd h.symm (intText_ne_repr hX n hf)
    · exact congrArg Scalar.float (hX.inj f g hf hg h)

theorem intText_ne_nil (n : Int) : intText n ≠ [] := by
  cases n with
  | ofNat n => exact Nat.toDigits_ne_nil
  | negSucc n => exact List.cons_ne_nil _ _

theorem repr_ne_nil (hX : X.Lawful) (hf : X.isFinite f = true) : X.repr f ≠ [] := by
  intro hnil
  have hpoint := hX.point f hf
  rw [hnil] at hpoint
  rcases hpoint with hmem | hmem
  · cases hmem
  · cases hmem

theorem readable_scalarText (hX : X.Lawful) :
    Readable (scalarText X) (Plain X) where
  inj := fun _ _ ha hb h => scalarText_inj hX ha hb h
  ne_nil := by
    intro a ha
    rcases plain_cases ha with ⟨w, rfl⟩ | ⟨n, rfl⟩ | ⟨f, rfl, hf⟩
    · rw [scalarText_name]
      exact (nameText_plain w).1
    · exact intText_ne_nil n
    · exact repr_ne_nil hX hf
  plain := by
    intro a ha c hc
    rcases plain_cases ha with ⟨w, rfl⟩ | ⟨n, rfl⟩ | ⟨f, rfl, hf⟩
    · rw [scalarText_name] at hc
      exact (nameText_plain w).2.2 c hc
    · exact numeric_not_reserved (numeric_int n c hc)
    · exact numeric_not_reserved (numeric_float hX hf c hc)

/-! ## Contracts -/

/-- The contracts are equal, but for their approval fingerprints; the members of a dict have no
order. -/
structure SameContract {X : Floats F} (c c' : TypedActionRequest X) : Prop where
  actionId : c.actionId = c'.actionId
  clusterId : c.clusterId = c'.clusterId
  capability : c.capability = c'.capability
  targetType : c.targetType = c'.targetType
  targetId : c.targetId = c'.targetId
  params : Same (.obj c.params.val) (.obj c'.params.val)
  evidenceFingerprint : c.evidenceFingerprint = c'.evidenceFingerprint
  expiresAt : c.expiresAt = c'.expiresAt
  actor : c.actor = c'.actor

theorem lawful_payload (iso : Int → String) (c : TypedActionRequest X) :
    Lawful (Plain X) (payload iso c) :=
  ⟨True.intro, True.intro, True.intro, True.intro, True.intro, c.plain, True.intro, True.intro,
    True.intro, True.intro⟩

theorem distinct_payload (iso : Int → String) (c : TypedActionRequest X) :
    Distinct (payload iso c) := by
  refine ⟨?_, True.intro, True.intro, True.intro, True.intro, True.intro, c.params.property,
    True.intro, True.intro, True.intro, True.intro⟩
  show ["action_id", "cluster_id", "capability", "target_type", "target_id", "params",
    "evidence_fingerprint", "expires_at", "actor"].Nodup
  decide

theorem same_of_payload {iso : Int → String} (hiso : Function.Injective iso)
    {c c' : TypedActionRequest X} (h : Same (payload iso c) (payload iso c')) :
    SameContract c c' := by
  obtain ⟨_, ⟨_, h1, hactionId⟩, ⟨_, h2, hclusterId⟩, ⟨_, h3, hcapability⟩, ⟨_, h4, htargetType⟩,
    ⟨_, h5, htargetId⟩, ⟨_, h6, hparams⟩, ⟨_, h7, hevidence⟩, ⟨_, h8, hexpiresAt⟩,
    ⟨_, h9, hactor⟩, _⟩ := h
  cases h1
  cases h2
  cases h3
  cases h4
  cases h5
  cases h6
  cases h7
  cases h8
  cases h9
  exact ⟨hactionId, hclusterId, hcapability, htargetType, htargetId, hparams, hevidence,
    hiso hexpiresAt, hactor⟩

/-! ## Approvals -/

variable {P : Type} {X : Floats F}

theorem approval_of_ok {O : Outside P F} {g : TypedActionGateway X} {request : P}
    {approved : Option String} {now : DateTime} {c : TypedActionRequest X}
    (h : authorize O g request approved now = .ok c) (hrequired : c.actionId ∈ g.approvalRequired) :
    c.approvalFingerprint = some (executionFingerprint O c) ∧
      approved = some (executionFingerprint O c) := by
  unfold authorize at h
  obtain ⟨contract, _, h⟩ := bind_eq_ok.mp h
  obtain ⟨_, _, h⟩ := bind_eq_ok.mp h
  obtain ⟨_, _, h⟩ := bind_eq_ok.mp h
  obtain ⟨_, _, h⟩ := bind_eq_ok.mp h
  obtain ⟨_, happroval, h⟩ := bind_eq_ok.mp h
  cases h
  unfold checkApproval at happroval
  rw [if_pos hrequired] at happroval
  split at happroval
  · cases happroval
  · rename_i hfingerprint
    split at happroval
    · cases happroval
    · rename_i happroved
      exact ⟨not_not.mp hfingerprint, not_not.mp happroved⟩

/-- The two texts have different digests, or are one. -/
def CollisionFree (sha256 : ByteArray → String) (a b : ByteArray) : Prop :=
  sha256 a = sha256 b → a = b

/-- **An approval is one of a single action.** Two contracts that were accepted with one approved
fingerprint, for actions that need an approval, are the same. -/
theorem authorized_same (hX : X.Lawful) (O : Outside P F) (hiso : Function.Injective O.iso)
    (g g' : TypedActionGateway X) (request request' : P) (approved : Option String)
    (now now' : DateTime) (c c' : TypedActionRequest X)
    (h : authorize O g request approved now = .ok c)
    (h' : authorize O g' request' approved now' = .ok c')
    (hrequired : c.actionId ∈ g.approvalRequired) (hrequired' : c'.actionId ∈ g'.approvalRequired)
    (hfree : CollisionFree O.sha256 (canonicalJson O.iso c) (canonicalJson O.iso c')) :
    SameContract c c' := by
  have happroved := (approval_of_ok h hrequired).2
  have happroved' := (approval_of_ok h' hrequired').2
  have hdigest : O.sha256 (canonicalJson O.iso c) = O.sha256 (canonicalJson O.iso c') :=
    Option.some.inj (happroved.symm.trans happroved')
  have hbytes := hfree hdigest
  have htext : dumps (scalarText X) (payload O.iso c) =
      dumps (scalarText X) (payload O.iso c') := by
    unfold canonicalJson at hbytes
    rw [String.toUTF8_eq_toByteArray, String.toUTF8_eq_toByteArray,
      String.toByteArray_inj] at hbytes
    exact String.ofList_injective hbytes
  exact same_of_payload hiso (same_of_dumps (readable_scalarText hX) (lawful_payload O.iso c)
    (lawful_payload O.iso c') (distinct_payload O.iso c') htext)

/-! ## An instance -/

def half : Floats Unit where
  isFinite := fun _ => true
  repr := fun _ => ['0', '.', '5']

theorem half_lawful : half.Lawful where
  inj := fun _ _ _ _ _ => rfl
  point := by decide
  chars := fun _ _ => by
    have hall : ['0', '.', '5'].all (fun c => c.isDigit || c ∈ ['+', '-', '.', 'e']) = true := by
      decide
    show ∀ c ∈ ['0', '.', '5'], _
    simpa only [List.all_eq_true, Bool.or_eq_true, decide_eq_true_eq] using hall

/-- The text of midnight on 12 October 2026; other times are written as numbers. -/
def isoMidnight (t : Int) : String :=
  if t = 1791763200000000 then "2026-10-12T00:00:00Z" else String.ofList (intText t)

theorem isoMidnight_injective : Function.Injective isoMidnight := by
  have hnumber : ∀ t, String.ofList (intText t) ≠ "2026-10-12T00:00:00Z" := by
    intro t heq
    have hmem : 'T' ∈ intText t := by
      have hlist := congrArg String.toList heq
      rw [String.toList_ofList] at hlist
      rw [hlist]
      decide
    exact absurd (numeric_int t 'T' hmem) (by decide)
  intro s t h
  unfold isoMidnight at h
  split at h
  · rename_i hs
    split at h
    · rename_i ht
      exact hs.trans ht.symm
    · exact absurd h.symm (hnumber t)
  · split at h
    · exact absurd h (hnumber s)
    · exact intText_inj (String.ofList_injective h)

def restartJson : List Char :=
  ["\x7b\"action_id\":\"restart_osd\",\"actor\":\"admin\",",
    "\"capability\":\"ceph.restart_osd\",\"cluster_id\":\"c1\",\"evidence_fingerprint\":",
    "\"abababababababababababababababababababababababababababababababab\",",
    "\"expires_at\":\"2026-10-12T00:00:00Z\",",
    "\"params\":\x7b\"flags\":[null,true,-1],\"ratio\":0.5\x7d,",
    "\"target_id\":\"3\",\"target_type\":\"osd\"\x7d"].flatMap String.toList

/-- The SHA-256 digest of `restartJson`. -/
def restartDigest : String := "369642343ae451080ca67a6384dcaedf3f041768b9ace9553a36499db5388fc5"

/-- The digest is that of the one text that is hashed here. -/
def outside : Outside (Fields Unit) Unit where
  read := .ok
  iso := isoMidnight
  sha256 := fun _ => restartDigest

/-- A gateway with one action, which needs an approval. -/
def gateway : TypedActionGateway half where
  allowedActionIds := {"restart_osd"}
  allowedCapabilities := {"ceph.restart_osd"}
  targetScope := ⟨"c1", ∅, {"3"}, ∅, ∅, ∅, ∅, ∅⟩
  approvalRequired := {"restart_osd"}
  capabilityCheck := none
  capabilitiesByAction := none

def flags : Value (Scalar Unit) := .arr [.atom .none, .atom (.bool true), .atom (.int (-1))]

/-- A request whose evidence is in capitals and whose expiry is seven hours ahead of UTC. -/
def requested : Fields Unit where
  actionId := "restart_osd"
  clusterId := "c1"
  capability := "ceph.restart_osd"
  targetType := "osd"
  targetId := "3"
  params := ⟨[("ratio", .atom (.float ())), ("flags", flags)],
    ⟨by decide, True.intro, ⟨True.intro, True.intro, True.intro, True.intro⟩, True.intro⟩⟩
  evidenceFingerprint := "ABABABABABABABABABABABABABABABABABABABABABABABABABABABABABABABAB"
  expiresAt := ⟨1791788400000000, some 25200000000⟩
  actor := "admin"
  approvalFingerprint := some restartDigest

/-- The same in UTC, with the parameters in another order. -/
def reordered : Fields Unit :=
  { requested with
    params := ⟨[("flags", flags), ("ratio", .atom (.float ()))],
      ⟨by decide, ⟨True.intro, True.intro, True.intro, True.intro⟩, True.intro, True.intro⟩⟩
    evidenceFingerprint := "abababababababababababababababababababababababababababababababab"
    expiresAt := ⟨1791763200000000, some 0⟩ }

theorem accepted_of_map {P : Type} (O : Outside P F) (g : TypedActionGateway X) (request : P)
    (approved : Option String) (now : DateTime) (actionId : String) (json : List Char)
    (h : (authorize O g request approved now).toOption.map
      (fun c => (c.actionId, dumps (scalarText X) (payload O.iso c))) = some (actionId, json)) :
    ∃ c, authorize O g request approved now = .ok c ∧ c.actionId = actionId ∧
      dumps (scalarText X) (payload O.iso c) = json := by
  cases hc : authorize O g request approved now with
  | error e =>
    rw [hc] at h
    cases h
  | ok c =>
    rw [hc] at h
    obtain ⟨haction, hjson⟩ := Prod.mk.inj (Option.some.inj h)
    exact ⟨c, rfl, haction, hjson⟩

/-- Both are accepted with one approval. -/
theorem authorized_same_reordered :
    ∃ c c', authorize outside gateway requested (some restartDigest) ⟨0, some 0⟩ = .ok c ∧
      authorize outside gateway reordered (some restartDigest) ⟨0, some 0⟩ = .ok c' ∧
        SameContract c c' := by
  obtain ⟨c, hc, haction, hjson⟩ := accepted_of_map outside gateway requested
    (some restartDigest) ⟨0, some 0⟩ "restart_osd" restartJson (by decide +kernel)
  obtain ⟨c', hc', haction', hjson'⟩ := accepted_of_map outside gateway reordered
    (some restartDigest) ⟨0, some 0⟩ "restart_osd" restartJson (by decide +kernel)
  refine ⟨c, c', hc, hc', authorized_same half_lawful outside isoMidnight_injective gateway gateway
    requested reordered (some restartDigest) ⟨0, some 0⟩ ⟨0, some 0⟩ c c' hc hc' ?_ ?_ ?_⟩
  · rw [haction]
    exact Finset.mem_singleton_self _
  · rw [haction']
    exact Finset.mem_singleton_self _
  · intro _
    unfold canonicalJson
    rw [hjson, hjson']

end CephAi.Ports.ActionContract
