import CephAi.Ports.CommandParams
import CephAi.Verified.Json
import CephAi.Verified.Linewise
import CephAi.Verified.Regex

/-!
# Access logs of the gateway

`parse_beast_access_log` and `parse_rgw_ops_log` of `watcher/rgw_access_log.py`.

A line is skipped when it is no request, but its numbers are converted without a net: one that is
none ends the whole text.  So does the comparison of a time stamp that has a zone with one that has
none, and a record without a time is given one that has none.

What Python itself reads, numbers, times, URLs and JSON, is read by any functions.

## Main results

* `newestFirst_iff` — when records can be sorted, and undated ones are last.
* `additive_iff` — when two texts together give the records of both.
-/

namespace CephAi.Ports.AccessLogs

open CommandParams (isSpace isDecimal occurs trim)
open Verified
open Verified.Regex
open Verified.Linewise

/-! ## Values -/

/-- A `datetime` in microseconds, with a zone or from year 1 on without. -/
inductive Stamp
  | aware (t : Int)
  | naive (t : Nat)
deriving DecidableEq, Repr

inductive Atom (F : Type)
  | null
  | bool (b : Bool)
  | int (n : Int)
  | float (x : F)

abbrev Value (F : Type) := Json.Value (Atom F)

/-- What Python reads and writes; `none` is an exception.  Of `loads` a `ValueError` is
`some none`. -/
structure Python (F : Type) where
  strptime : String → Option Int
  fromisoformat : String → Option Stamp
  urlsplitPath : String → Option String
  loads : String → Option (Option (Value F))
  intOfText : String → Option Int
  intOfFloat : F → Option Int
  floatOfText : String → Option F
  floatOfInt : Int → Option F
  zero : F
  thousandfold : F → F
  isZero : F → Bool
  repr : Value F → String
  isDigit : Char → Bool
  word : Char → Bool
  upper : String → String
  lower : String → String

variable {F : Type}

def truthy (P : Python F) : Value F → Bool
  | .atom .null => false
  | .atom (.bool b) => b
  | .atom (.int n) => n != 0
  | .atom (.float x) => !P.isZero x
  | .str s => s != ""
  | .arr items => !items.isEmpty
  | .obj members => !members.isEmpty

def Python.str (P : Python F) : Value F → String
  | .str s => s
  | value => P.repr value

def intOrZero (P : Python F) (value : Value F) : Option Int :=
  if truthy P value then
    match value with
    | .atom (.bool b) => some b.toNat
    | .atom (.int n) => some n
    | .atom (.float x) => P.intOfFloat x
    | .str s => P.intOfText s
    | _ => none
  else some 0

def floatOrZero (P : Python F) (value : Value F) : Option F :=
  if truthy P value then
    match value with
    | .atom (.bool b) => P.floatOfInt b.toNat
    | .atom (.int n) => P.floatOfInt n
    | .atom (.float x) => some x
    | .str s => P.floatOfText s
    | _ => none
  else some P.zero

/-! ## Requests -/

def request (method : String) (hasObject : Bool) : Option String :=
  match method, hasObject with
  | "GET", true => some "Tải xuống"
  | "GET", false => some "Liệt kê"
  | "PUT", true => some "Tải lên"
  | "PUT", false => some "Tạo Bucket"
  | "POST", true => some "Tải lên (multipart)"
  | "POST", false => some "Khác (POST)"
  | "DELETE", true => some "Xoá tệp"
  | "DELETE", false => some "Xoá Bucket"
  | "HEAD", true => some "Kiểm tra tệp"
  | "HEAD", false => some "Kiểm tra Bucket"
  | _, _ => none

def actionLabel (method : String) (hasObject : Bool) : String :=
  (request method hasObject).getD method

def opsActionVi : List (String × String) :=
  [("create_bucket", "Tạo Bucket"), ("delete_bucket", "Xoá Bucket"), ("put_obj", "Tải lên"),
    ("get_obj", "Tải xuống"), ("head_obj", "Kiểm tra tệp"), ("delete_obj", "Xoá tệp"),
    ("list_buckets", "Liệt kê Bucket"), ("list_bucket", "Liệt kê tệp"),
    ("init_multipart", "Khởi tạo multipart"), ("complete_multipart", "Hoàn tất multipart"),
    ("abort_multipart", "Huỷ multipart")]

def requestPath (P : Python F) (path : String) : Option String :=
  if occurs "://".toList path.toList then
    (P.urlsplitPath path).map fun s => if s = "" then "/" else s
  else some path

/-- `path.split("?", 1)[0].lstrip("/")` -/
def stripped (path : String) : List Char :=
  (path.toList.takeWhile (· != '?')).dropWhile (· == '/')

def orNone (text : List Char) : Option String :=
  if text = [] then none else some (String.ofList text)

def parseBucketAndObject (P : Python F) (path : String) :
    Option (Option String × Option String) := do
  let path ← requestPath P path
  let text := stripped path
  return (orNone (text.takeWhile (· != '/')), orNone ((text.dropWhile (· != '/')).drop 1))

/-! ## The Beast log -/

def space : Pattern := plus isSpace

def nonspace : Pattern := plus fun c => !isSpace c

/-- `_BEAST_LOG_RE`; the groups are numbered in order. -/
def beastLogRe : Pattern :=
  inTurn [lit "beast:", space, nonspace, lit ":", space,
    .group 1 nonspace, space, lit "-", space, .group 2 nonspace, space,
    lit "[", .group 3 (plus (· != ']')), lit "]", space,
    lit "\"", .group 4 (plus Char.isUpper), space, .group 5 nonspace, space, lit "HTTP/",
    plus (fun c => isDecimal c || c == '.'), lit "\"", space,
    .group 6 (plus isDecimal), space, .group 7 nonspace, .group 8 (.many (· != '\n')), .finish]

/-- `\blatency=([0-9.]+)s\b` -/
def latencyRe (P : Python F) : Pattern :=
  inTurn [.edge P.word, lit "latency=", .group 1 (plus fun c => c.isDigit || c == '.'), lit "s",
    .edge P.word]

def quotedRe : Pattern := inTurn [lit "\"", .group 1 (.many (· != '"')), lit "\""]

def groupText (m : Place) (i : Nat) : String := String.ofList ((m.group i).getD [])

structure BeastRecord (F : Type) where
  remoteAddr : String
  requester : String
  userAgent : Option String
  timestamp : Option Stamp
  timestampRaw : String
  method : String
  path : String
  bucket : Option String
  object : Option String
  action : String
  status : Int
  bytesSent : Option Int
  latencyMs : Option F

def userAgent (tail : List Char) : Option String :=
  let agent := match (findall quotedRe tail).map (groupText · 1) with
    | [] => none
    | [one] => some one
    | _ :: second :: _ => some second
  agent.filter fun agent => agent != "" && agent != "-"

def beastLine (P : Python F) (line : List Char) : Option (Option (BeastRecord F)) :=
  match search beastLogRe [] line with
  | none => some none
  | some m => do
    let method := groupText m 4
    let path ← requestPath P (groupText m 5)
    let (bucket, object) ← parseBucketAndObject P path
    let tail := (m.group 8).getD []
    let bytesSent := groupText m 7
    let status ← P.intOfText (groupText m 6)
    let bytes ← if bytesSent.toList.all P.isDigit then (P.intOfText bytesSent).map some
      else some none
    let latency ← match search (latencyRe P) [] tail with
      | some found => (P.floatOfText (groupText found 1)).map fun x => some (P.thousandfold x)
      | none => some none
    return some
      { remoteAddr := groupText m 1
        requester := groupText m 2
        userAgent := userAgent tail
        timestamp := (P.strptime (groupText m 3)).map .aware
        timestampRaw := groupText m 3
        method := method
        path := path
        bucket := bucket
        object := object
        action := actionLabel method object.isSome
        status := status
        bytesSent := bytes
        latencyMs := latency }

/-! ## The ops log -/

/-- `(?P<method>[A-Z]+)\s+(?P<path>\S+)(?:\s+HTTP/[\d.]+)?` -/
def uriRe : Pattern :=
  inTurn [.group 1 (plus Char.isUpper), space, .group 2 nonspace,
    opt (inTurn [space, lit "HTTP/", plus (fun c => isDecimal c || c == '.')])]

structure OpsRecord (F : Type) where
  remoteAddr : Value F
  requester : Value F
  userAgent : Value F
  timestamp : Option Stamp
  timestampRaw : String
  method : String
  path : String
  bucket : Option String
  object : Option String
  action : String
  status : Int
  bytesSent : Int
  latencyMs : F
  encryption : String
  transactionId : Value F

abbrev Payload (F : Type) := List (String × Value F)

/-- `payload.get(key)` -/
def get (payload : Payload F) (key : String) : Value F := (payload.lookup key).getD (.atom .null)

/-- `str(payload.get(key) or "")` -/
def textOrEmpty (P : Python F) (payload : Payload F) (key : String) : String :=
  if truthy P (get payload key) then P.str (get payload key) else ""

/-- The headers, in the order in which they are written; what cannot be iterated fails. -/
def headers (P : Python F) (value : Value F) : Option (List (String × String)) :=
  if truthy P value then
    match value with
    | .atom _ => none
    | .str _ => some []
    | .obj _ => some []
    | .arr items => some (items.flatMap fun item =>
      match item with
      | .obj members => members.map fun m => (P.upper m.1, P.str m.2)
      | _ => [])
  else some []

/-- A header, if it is not empty. -/
def header (written : List (String × String)) (key : String) : Option String :=
  (written.reverse.lookup key).filter (· != "")

def encryption (P : Python F) (written : List (String × String)) : String :=
  match header written "HTTP_X_AMZ_SERVER_SIDE_ENCRYPTION_CUSTOMER_ALGORITHM" with
  | some algorithm => s!"SSE-C ({algorithm})"
  | none =>
    match header written "HTTP_X_AMZ_SERVER_SIDE_ENCRYPTION" with
    | some algorithm =>
      if P.lower algorithm = "aws:kms" then "SSE-KMS" else s!"SSE-S3 ({algorithm})"
    | none => "Plaintext"

/-- The object of a request, where the path may begin with the bucket. -/
def objectOf (bucket pathObject : Option String) (path : String) : Option String :=
  match pathObject, bucket with
  | some object, _ => some object
  | none, none => none
  | none, some bucket =>
    let start := bucket.toList ++ ['/']
    if start.isPrefixOf (stripped path) then orNone ((stripped path).drop start.length) else none

/-- A line of `parse_rgw_ops_log` whose text is this object. -/
def opsPayload (P : Python F) (payload : Payload F) : Option (Option (OpsRecord F)) :=
  if !truthy P (get payload "operation") then some none
  else
    match first uriRe [] (textOrEmpty P payload "uri").toList with
    | none => some none
    | some m => do
      let method := groupText m 1
      let path ← requestPath P (groupText m 2)
      let bucket := orNone (trim isSpace (textOrEmpty P payload "bucket")).toList
      let (_, pathObject) ← parseBucketAndObject P path
      let object := objectOf bucket pathObject path
      let operation := P.str (get payload "operation")
      let action := if method = "HEAD" then
          if object.isSome then "Kiểm tra tệp" else "Kiểm tra Bucket"
        else (opsActionVi.lookup operation).getD operation
      let timestampRaw := if truthy P (get payload "time") then P.str (get payload "time")
        else textOrEmpty P payload "time_local"
      let written ← headers P (get payload "http_x_headers")
      let status ← intOrZero P (get payload "http_status")
      let bytes ← intOrZero P
        (get payload (if method = "PUT" ∨ method = "POST" then "bytes_received" else "bytes_sent"))
      let latency ← floatOrZero P (get payload "total_time")
      return some
        { remoteAddr := get payload "remote_addr"
          requester := get payload "user"
          userAgent := get payload "user_agent"
          timestamp := P.fromisoformat (timestampRaw.replace "Z" "+00:00")
          timestampRaw := timestampRaw
          method := method
          path := path
          bucket := bucket
          object := object
          action := action
          status := status
          bytesSent := bytes
          latencyMs := latency
          encryption := encryption P written
          transactionId := get payload "trans_id" }

/-- A line of `parse_rgw_ops_log`. -/
def opsLine (P : Python F) (line : List Char) : Option (Option (OpsRecord F)) :=
  match line.dropWhile (· != '{') with
  | [] => some none
  | text =>
    match P.loads (String.ofList text) with
    | none => none
    | some (some (.obj payload)) => opsPayload P payload
    | some _ => some none

/-! ## Sorting -/

/-- `datetime.min`, which has no zone, where there is no time stamp -/
def sortKey (stamp : Option Stamp) : Stamp := stamp.getD (.naive 0)

def Stamp.isAware : Stamp → Bool
  | .aware _ => true
  | .naive _ => false

def Stamp.micros : Stamp → Int
  | .aware t => t
  | .naive t => t

section Sorting

variable {ρ : Type} (stamp : ρ → Option Stamp)

/-- The key of the left record is not the smaller one. -/
def Ranked (x y : ρ) : Prop := (sortKey (stamp y)).micros ≤ (sortKey (stamp x)).micros

instance : DecidableRel (Ranked stamp) := fun _ _ => inferInstanceAs (Decidable (_ ≤ _))

instance : IsTrans ρ (Ranked stamp) := ⟨fun _ _ _ hxy hyz => Int.le_trans hyz hxy⟩

instance : Std.Total (Ranked stamp) := ⟨fun _ _ => Int.le_total _ _⟩

/-- A key with a zone and one without. -/
def mixed (rs : List ρ) : Bool :=
  (rs.any fun r => (sortKey (stamp r)).isAware) && rs.any fun r => !(sortKey (stamp r)).isAware

/-- `records.sort(key=..., reverse=True)`, which is stable; of different keys some two are
compared, which fails. -/
def newestFirst (rs : List ρ) : Option (List ρ) :=
  if mixed stamp rs then none else some (rs.insertionSort (Ranked stamp))

/-- Both parsers, with what they do with a line. -/
def parse (line : List Char → Option (Option ρ)) (text : List Char) : Option (List ρ) :=
  (collect line (lines text)).bind (newestFirst stamp)

/-! ## The law -/

/-- The left record is the newer one, or undated ones follow. -/
def NotOlder : Option Stamp → Option Stamp → Prop
  | _, none => True
  | none, some _ => False
  | some s, some t => s.isAware = t.isAware ∧ t.micros ≤ s.micros

/-- The records of two texts are those of both, in order. -/
def Additive (parser : List Char → Option (List ρ)) (s t : List Char) : Prop :=
  ∃ rs rs₁ rs₂, parser (s ++ '\n' :: t) = some rs ∧ parser s = some rs₁ ∧
    parser t = some rs₂ ∧ rs.Perm (rs₁ ++ rs₂) ∧
    rs.Pairwise fun x y => NotOlder (stamp x) (stamp y)

/-- Lines that can be read together. -/
structure Readable (line : List Char → Option (Option ρ)) (ls : List (List Char)) : Prop where
  converts : ∀ l ∈ ls, (line l).isSome = true
  oneKind : mixed stamp (found line ls) = false
  firstYear : (found line ls).Pairwise fun x y => stamp x = none → stamp y ≠ some (.naive 0)

variable {rs : List ρ}

theorem mixed_eq_false :
    mixed stamp rs = false ↔
      ∀ x ∈ rs, ∀ y ∈ rs, (sortKey (stamp x)).isAware = (sortKey (stamp y)).isAware := by
  unfold mixed
  rw [Bool.eq_false_iff, ne_eq, Bool.and_eq_true, List.any_eq_true, List.any_eq_true]
  constructor
  · intro h x hx y hy
    by_contra hne
    cases hxa : (sortKey (stamp x)).isAware with
    | true =>
      cases hya : (sortKey (stamp y)).isAware with
      | true => exact hne (hxa.trans hya.symm)
      | false => exact h ⟨⟨x, hx, hxa⟩, y, hy, by rw [hya]; rfl⟩
    | false =>
      cases hya : (sortKey (stamp y)).isAware with
      | true => exact h ⟨⟨y, hy, hya⟩, x, hx, by rw [hxa]; rfl⟩
      | false => exact hne (hxa.trans hya.symm)
  · rintro h ⟨⟨x, hx, hxa⟩, y, hy, hya⟩
    rw [h y hy x hx, hxa] at hya
    cases hya

theorem notOlder_iff {x y : ρ} (hkind : (sortKey (stamp x)).isAware = (sortKey (stamp y)).isAware)
    (hranked : Ranked stamp x y) :
    NotOlder (stamp x) (stamp y) ↔ (stamp x = none → stamp y ≠ some (.naive 0)) := by
  unfold Ranked at hranked
  cases hx : stamp x with
  | none =>
    cases hy : stamp y with
    | none => exact iff_of_true True.intro fun _ h => by cases h
    | some t =>
      refine iff_of_false id ?_
      intro hno
      rw [hx, hy] at hkind hranked
      cases t with
      | aware t => cases hkind
      | naive t =>
        have hzero : t = 0 := by
          have hle : (t : Int) ≤ 0 := hranked
          omega
        rw [hzero] at hno
        exact hno rfl rfl
  | some s =>
    cases hy : stamp y with
    | none => exact iff_of_true True.intro fun h => by cases h
    | some t =>
      rw [hx, hy] at hkind hranked
      exact iff_of_true ⟨hkind, hranked⟩ fun h => by cases h

/-- **Sorted records** are the newest first and the undated last exactly when no record of the
first moment stands behind an undated one. -/
theorem newestFirst_iff (h : mixed stamp rs = false) :
    (rs.insertionSort (Ranked stamp)).Pairwise (fun x y => NotOlder (stamp x) (stamp y)) ↔
      rs.Pairwise fun x y => stamp x = none → stamp y ≠ some (.naive 0) := by
  have hsorted := List.pairwise_insertionSort (Ranked stamp) rs
  have hkinds : ∀ x ∈ rs.insertionSort (Ranked stamp), ∀ y ∈ rs.insertionSort (Ranked stamp),
      (sortKey (stamp x)).isAware = (sortKey (stamp y)).isAware := by
    intro x hx y hy
    rw [List.mem_insertionSort] at hx hy
    exact (mixed_eq_false stamp).mp h x hx y hy
  have hundated : (rs.insertionSort (Ranked stamp)).Pairwise
      (fun x y => NotOlder (stamp x) (stamp y)) ↔
      (rs.insertionSort (Ranked stamp)).Pairwise
        fun x y => stamp x = none → stamp y ≠ some (.naive 0) := by
    constructor
    · intro hall
      refine (hall.and hsorted).imp_of_mem ?_
      intro x y hx hy hxy
      exact (notOlder_iff stamp (hkinds x hx y hy) hxy.2).mp hxy.1
    · intro hall
      refine (hall.and hsorted).imp_of_mem ?_
      intro x y hx hy hxy
      exact (notOlder_iff stamp (hkinds x hx y hy) hxy.2).mpr hxy.1
  rw [hundated]
  -- only records with the least key are concerned, and they stay in order
  apply pairwise_insertionSort_iff (Ranked stamp)
    (p := fun x => decide ((sortKey (stamp x)).micros = 0 ∧ (sortKey (stamp x)).isAware = false))
  · intro x y hnot
    have hboth : stamp x = none ∧ stamp y = some (.naive 0) := by
      by_contra hne
      exact hnot fun hx hy => hne ⟨hx, hy⟩
    rw [hboth.1, hboth.2]
    exact ⟨rfl, rfl⟩
  · intro x y hx hy
    rw [decide_eq_true_eq] at hx hy
    show (sortKey (stamp y)).micros ≤ (sortKey (stamp x)).micros
    rw [hx.1, hy.1]

theorem parse_eq_some (line : List Char → Option (Option ρ)) (text : List Char) (rs : List ρ) :
    parse stamp line text = some rs ↔
      ∃ rs', collect line (lines text) = some rs' ∧ mixed stamp rs' = false ∧
        rs = rs'.insertionSort (Ranked stamp) := by
  unfold parse newestFirst
  rw [Option.bind_eq_some_iff]
  refine exists_congr fun rs' => and_congr_right fun _ => ?_
  cases mixed stamp rs' with
  | true => simp
  | false => simp [eq_comm]

theorem mixed_of_subset {rs' : List ρ} (hsub : rs ⊆ rs') (h : mixed stamp rs' = false) :
    mixed stamp rs = false := by
  rw [mixed_eq_false] at h ⊢
  exact fun x hx y hy => h x (hsub hx) y (hsub hy)

theorem additive_of_line {line : List Char → Option (Option ρ)} (hblank : line [] = some none)
    (s t : List Char) :
    Additive stamp (parse stamp line) s t ↔ Readable stamp line (lines s ++ lines t) := by
  have hfound : found line (lines s ++ lines t) = found line (lines s) ++ found line (lines t) :=
    List.filterMap_append
  constructor
  · rintro ⟨rs, rs₁, rs₂, hboth, -, -, -, hnewest⟩
    obtain ⟨rs', hcollect, hmixed, rfl⟩ := (parse_eq_some stamp line _ rs).mp hboth
    obtain ⟨rs₁', rs₂', hleft, hright, rfl⟩ := (collect_join line hblank s t rs').mp hcollect
    obtain ⟨hallLeft, rfl⟩ := (collect_eq_some line _ rs₁').mp hleft
    obtain ⟨hallRight, rfl⟩ := (collect_eq_some line _ rs₂').mp hright
    rw [← hfound] at hmixed hnewest
    refine ⟨?_, hmixed, (newestFirst_iff stamp hmixed).mp hnewest⟩
    intro l hl
    rcases List.mem_append.mp hl with hl | hl
    · exact hallLeft l hl
    · exact hallRight l hl
  · rintro ⟨hconverts, hmixed, hfirst⟩
    have hleft : collect line (lines s) = some (found line (lines s)) :=
      (collect_eq_some line _ _).mpr ⟨fun l hl => hconverts l (List.mem_append_left _ hl), rfl⟩
    have hright : collect line (lines t) = some (found line (lines t)) :=
      (collect_eq_some line _ _).mpr ⟨fun l hl => hconverts l (List.mem_append_right _ hl), rfl⟩
    have hnewest := (newestFirst_iff stamp hmixed).mpr hfirst
    rw [hfound] at hmixed hnewest
    refine ⟨_, _, _, (parse_eq_some stamp line _ _).mpr ⟨_,
        (collect_join line hblank s t _).mpr ⟨_, _, hleft, hright, rfl⟩, hmixed, rfl⟩,
      (parse_eq_some stamp line _ _).mpr ⟨_, hleft,
        mixed_of_subset stamp (List.subset_append_left _ _) hmixed, rfl⟩,
      (parse_eq_some stamp line _ _).mpr ⟨_, hright,
        mixed_of_subset stamp (List.subset_append_right _ _) hmixed, rfl⟩, ?_, hnewest⟩
    exact (List.perm_insertionSort _ _).trans
      ((List.perm_insertionSort _ _).append (List.perm_insertionSort _ _)).symm

end Sorting

/-! ## The parsers -/

def parseBeastAccessLog (P : Python F) : List Char → Option (List (BeastRecord F)) :=
  parse BeastRecord.timestamp (beastLine P)

def parseRgwOpsLog (P : Python F) : List Char → Option (List (OpsRecord F)) :=
  parse OpsRecord.timestamp (opsLine P)

theorem beastLine_nil (P : Python F) : beastLine P [] = some none := rfl

theorem opsLine_nil (P : Python F) : opsLine P [] = some none := rfl

/-- **Two logs are read as one** exactly when every line converts, no time stamp with a zone meets
one without or a record without a time, and nothing of the first moment stands behind an undated
record. -/
theorem additive_iff (P : Python F) (s t : List Char) :
    (Additive BeastRecord.timestamp (parseBeastAccessLog P) s t ↔
        Readable BeastRecord.timestamp (beastLine P) (lines s ++ lines t)) ∧
      (Additive OpsRecord.timestamp (parseRgwOpsLog P) s t ↔
        Readable OpsRecord.timestamp (opsLine P) (lines s ++ lines t)) :=
  ⟨additive_of_line _ (beastLine_nil P) s t, additive_of_line _ (opsLine_nil P) s t⟩

/-! ## A line without a time -/

/-- Numbers of digits, and the time of the example. -/
def digitsOnly : Python Nat where
  strptime s := if s = "12/Jun/2024:13:10:07.404 +0000" then some 63853794607404000 else none
  fromisoformat _ := none
  urlsplitPath _ := none
  loads _ := some none
  intOfText s := if s.toList.all Char.isDigit then some (Nat.ofDigitChars 10 s.toList 0) else none
  intOfFloat n := some n
  floatOfText s := if s = "0.000000000" then some 0 else none
  floatOfInt _ := none
  zero := 0
  thousandfold n := n * 1000
  isZero n := n = 0
  repr _ := ""
  isDigit := Char.isDigit
  word c := c.isAlphanum || c == '_'
  upper := id
  lower := id

def beastText (time : String) : List Char :=
  ("beast: 0x7fc49be9a710: 10.0.12.5 - anonymous [" ++ time ++
    "] \"HEAD / HTTP/1.0\" 200 5 - - - latency=0.000000000s").toList

/-- Two requests of which one has no readable time end the whole log. -/
theorem undated_aborts :
    ¬Additive BeastRecord.timestamp (parseBeastAccessLog digitsOnly)
      (beastText "12/Jun/2024:13:10:07.404 +0000") (beastText "12/Jun/2024") := by
  rintro ⟨rs, -, -, hboth, -⟩
  have hnone : (parseBeastAccessLog digitsOnly (beastText "12/Jun/2024:13:10:07.404 +0000" ++
      '\n' :: beastText "12/Jun/2024")).isNone = true := by
    decide +kernel
  rw [hboth] at hnone
  cases hnone

end CephAi.Ports.AccessLogs
