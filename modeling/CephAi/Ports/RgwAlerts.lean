import CephAi.Verified.Reconcile
import CephAi.Ports.ClusterDeletion
import CephAi.Ports.Scheduler
import Mathlib

/-!
# RGW alerts

`sync_rgw_alerts` of `watcher/rgw_alerting.py`: the rules over one snapshot of a cluster, and
what becomes of the open RGW Incidents.  A snapshot may have several findings with one code;
they carry no resource, so they share a key.

A ratio is a quotient of floats: `fl` stands for the rounding of the division and of the
thresholds.  Nothing is assumed of it.

## Main results

* `observed_of_canResolve` — what is closed was observed again.
* `synced_iff` — when a snapshot is committed, and that the Incidents then agree with it.
* `two_sources_clash` — two source addresses with refused requests in one window.
-/

namespace CephAi.Ports.RgwAlerts

open Verified Verified.Reconcile
open Models
open ClusterDeletion (strip)
open Scheduler (inFlight uniqueKey newIncident)

/-! ## Snapshots -/

/-- A row of `bucket_stats`; its numbers as `_number` reads them. -/
structure BucketRow where
  bucket : Option String
  name : Option String
  sizeBytes : Option ℚ
  quotaMaxSizeBytes : Option ℚ
  numObjects : Option ℚ
  quotaMaxObjects : Option ℚ
  quotaEnabled : Bool
deriving DecidableEq

/-- A finding of `build_rgw_audit_intelligence`. -/
structure Finding where
  code : String
  resource : Option String
  bucket : Option String
deriving DecidableEq

inductive Captured
  | missing
  | malformed
  | time (t : Int)
deriving DecidableEq

/-- A snapshot.  `statusCounts` has the entries that are integers, `topBuckets` the counts as
`_number` reads them, `auditFindings` is `none` when it is no list. -/
structure Snapshot where
  capturedAt : Captured
  statusCounts : List (Int × Int)
  requestCount : Option ℚ
  topBuckets : List (String × Option ℚ)
  bucketStats : List BucketRow
  auditFindings : Option (List Finding)
  auditComplete : Bool
deriving DecidableEq

/-- `d[k] = v` of a dictionary, which keeps the place of a key. -/
def setKey {κ ν : Type} [DecidableEq κ] (d : List (κ × ν)) (k : κ) (v : ν) : List (κ × ν) :=
  if d.any fun e => e.1 = k then d.map fun e => if e.1 = k then (k, v) else e
  else d ++ [(k, v)]

/-- The first `n` characters. -/
def cut (n : Nat) (s : String) : String := String.ofList (s.toList.take n)

def statusCounts (s : Snapshot) : List (Int × Int) :=
  s.statusCounts.foldl
    (fun d e => if 100 ≤ e.1 ∧ e.1 ≤ 599 ∧ 0 ≤ e.2 then setKey d e.1 e.2 else d) []

/-- The sum of the counts whose status meets `p`. -/
def countWhere (counts : List (Int × Int)) (p : Int → Bool) : Int :=
  ((counts.filter fun e => p e.1).map Prod.snd).sum

def requestCount (s : Snapshot) : Int :=
  match s.requestCount with
  | some n => if 0 ≤ n then n.floor else countWhere (statusCounts s) fun _ => true
  | none => countWhere (statusCounts s) fun _ => true

def bucketCounts (s : Snapshot) : List (String × Int) :=
  s.topBuckets.foldl
    (fun d e =>
      match e.2 with
      | none => d
      | some n => if strip e.1 ≠ "" ∧ 0 ≤ n then setKey d (cut 255 (strip e.1)) n.floor else d)
    []

/-! ## Rules -/

/-- An alert, as far as it decides about Incidents. -/
structure Alert where
  code : String
  severity : String
  dedupeKey : String
deriving DecidableEq

def ratioAlert (code severity dedupeKey : String) : Alert where
  code := code
  severity := severity
  dedupeKey := cut 256 dedupeKey

def firstText (texts : List (Option String)) (fallback : String) : String :=
  ((texts.filterMap id).find? fun t => t != "").getD fallback

def BucketRow.label (row : BucketRow) : String := strip (firstText [row.bucket, row.name] "")

/-- A dimension that was measured: what is used and the limit. -/
def measured (used limit : Option ℚ) : Option (ℚ × ℚ) :=
  match used, limit with
  | some u, some l => if 0 < l ∧ 0 ≤ u then some (u, l) else none
  | _, _ => none

def BucketRow.dimensions (row : BucketRow) : List (ℚ × ℚ) :=
  (measured row.sizeBytes row.quotaMaxSizeBytes).toList ++
    (measured row.numObjects row.quotaMaxObjects).toList

section Rules

variable (fl : ℚ → ℚ)

def quotaSeverity (ratio : ℚ) : Option String :=
  if ratio < fl (80 / 100) then none
  else if fl (95 / 100) ≤ ratio then some "HEALTH_ERR"
  else some "HEALTH_WARN"

def quotaAlert (row : BucketRow) : Option Alert :=
  if row.label = "" ∨ row.quotaEnabled = false then none
  else
    match (row.dimensions.map fun d => fl (d.1 / d.2)).max? with
    | none => none
    | some ratio =>
      (quotaSeverity fl ratio).map fun severity =>
        ratioAlert "RGW_ALERT_BUCKET_QUOTA" severity ("bucket:" ++ row.label)

def quotaAlerts (s : Snapshot) : List Alert :=
  (s.bucketStats.take 100).filterMap (quotaAlert fl)

/-- `n` out of a hundred, of all requests. -/
def rate (n requests : Int) : ℚ := if requests = 0 then 0 else fl (n * 100 / requests)

def serverErrorAlerts (s : Snapshot) : List Alert :=
  let errors := countWhere (statusCounts s) fun status => 500 ≤ status && status ≤ 599
  let errorRate := rate fl errors (requestCount s)
  if 10 ≤ errors ∧ 5 ≤ errorRate then
    [ratioAlert "RGW_ALERT_5XX_SPIKE"
      (if 20 ≤ errors ∧ 10 ≤ errorRate then "HEALTH_ERR" else "HEALTH_WARN") "window:5xx"]
  else []

/-- The rule on refused requests. -/
def deniedAlerts (s : Snapshot) : List Alert :=
  let denied := countWhere (statusCounts s) fun status => status == 401 || status == 403
  if 5 ≤ denied ∧ 10 ≤ rate fl denied (requestCount s) then
    [ratioAlert "RGW_ALERT_ACCESS_DENIED_SPIKE" "HEALTH_WARN" "window:access-denied"]
  else []

/-- `max(d.items(), key=...)`, the first one of the greatest. -/
def busiest : List (String × Int) → Option (String × Int)
  | [] => none
  | e :: rest => some (rest.foldl (fun best e => if best.2 < e.2 then e else best) e)

/-- The rule on a bucket with most of the requests. -/
def hotBucketAlerts (s : Snapshot) : List Alert :=
  match busiest (bucketCounts s) with
  | none => []
  | some (bucket, count) =>
    if 50 ≤ requestCount s ∧ fl (1 / 2) ≤ fl (count / requestCount s) then
      [ratioAlert "RGW_ALERT_HOT_BUCKET" "HEALTH_WARN" ("bucket:" ++ bucket)]
    else []

def allowedFindings : List (String × String) :=
  [("ANONYMOUS_SUCCESSFUL_WRITE", "HEALTH_ERR"), ("AUTHORIZATION_FAILURE_BURST", "HEALTH_WARN"),
    ("REQUEST_BURST_OUTLIER", "HEALTH_WARN")]

/-- What a finding is about. -/
def Finding.subject (f : Finding) : String :=
  cut 180 (strip (firstText [f.resource, f.bucket] "window"))

def findingAlert (f : Finding) : Option Alert :=
  (allowedFindings.lookup f.code).map fun severity =>
    ratioAlert ("RGW_ALERT_" ++ f.code) severity (f.code ++ ":" ++ f.subject)

def evaluateRgwAlerts (s : Snapshot) : List Alert :=
  quotaAlerts fl s ++ serverErrorAlerts fl s ++ deniedAlerts fl s ++ hotBucketAlerts fl s ++
    ((s.auditFindings.getD []).take 20).filterMap findingAlert

end Rules

/-! ## Recovery -/

/-- `captured_at` is recent enough, in microseconds. -/
def recent (s : Snapshot) (now : Int) : Bool :=
  match s.capturedAt with
  | .missing => true
  | .malformed => false
  | .time t => 0 ≤ now - t && now - t ≤ 600 * 1000000

/-- `s.removeprefix("bucket:")` -/
def removeBucket (s : String) : String :=
  if "bucket:".toList.isPrefixOf s.toList then String.ofList (s.toList.drop 7) else s

/-- The part of `_can_resolve_alert` on quotas: the first row of the bucket decides. -/
def quotaObserved (bucket : String) (rows : List BucketRow) : Bool :=
  match rows.find? fun row => row.label == bucket with
  | none => false
  | some row => !row.quotaEnabled || !row.dimensions.isEmpty

/-- The part of `_can_resolve_alert` on the window. -/
def windowObserved (code : String) (s : Snapshot) : Bool :=
  let counts := statusCounts s
  let requests := requestCount s
  if !s.auditComplete then false
  else if counts.isEmpty || requests ≤ 0 || requests < countWhere counts fun _ => true then false
  else if code = "RGW_ALERT_HOT_BUCKET" then !(bucketCounts s).isEmpty
  else if ["RGW_ALERT_ANONYMOUS_SUCCESSFUL_WRITE", "RGW_ALERT_AUTHORIZATION_FAILURE_BURST",
      "RGW_ALERT_REQUEST_BURST_OUTLIER"].contains code then s.auditFindings.isSome
  else ["RGW_ALERT_5XX_SPIKE", "RGW_ALERT_ACCESS_DENIED_SPIKE"].contains code

/-- `_can_resolve_alert`; `none` is the `AttributeError` of a quota Incident without a
key. -/
def canResolveAlert (code : String) (dedupeKey : Option String) (s : Snapshot) (now : Int) :
    Option Bool :=
  if !recent s now then some false
  else if code = "RGW_ALERT_BUCKET_QUOTA" then
    dedupeKey.map fun key => quotaObserved (removeBucket key) s.bucketStats
  else some (windowObserved code s)

/-! ## `sync_rgw_alerts` -/

/-- A row of `clusters`. -/
structure Cluster where
  id : String
  named : id ≠ ""

def likeRgwAlert (cephCode : String) : Bool :=
  match cephCode.toList with
  | 'R' :: 'G' :: 'W' :: _ :: 'A' :: 'L' :: 'E' :: 'R' :: 'T' :: _ :: _ => true
  | _ => false

/-- The open RGW Incidents of a cluster; `_OPEN_STATUSES` are those under the index. -/
def openRgw (cluster : Cluster) (i : Incident) : Bool :=
  i.clusterId == some cluster.id && likeRgwAlert i.cephCode && inFlight i

def Alert.about (a : Alert) (i : Incident) : Bool :=
  i.cephCode == a.code && i.dedupeKey == some a.dedupeKey

/-- The Incident's key is one of `current_keys`. -/
def reported (alerts : List Alert) (i : Incident) : Bool := alerts.any fun a => a.about i

/-- What the first loop resolves. -/
def resolves (alerts : List Alert) (cluster : Cluster) (s : Snapshot) (now : Int)
    (i : Incident) : Bool :=
  openRgw cluster i && !reported alerts i &&
    canResolveAlert i.cephCode i.dedupeKey s now == some true

/-- `_can_resolve_alert` raises for this Incident. -/
def raises (alerts : List Alert) (cluster : Cluster) (s : Snapshot) (now : Int)
    (i : Incident) : Bool :=
  openRgw cluster i && !reported alerts i &&
    canResolveAlert i.cephCode i.dedupeKey s now == none

/-- `alert` has an Incident among those that were read. -/
def known (incidents : List Incident) (cluster : Cluster) (a : Alert) : Bool :=
  incidents.any fun i => openRgw cluster i && a.about i

def alertIncident (cluster : Cluster) (incidents : List Incident) (a : Alert) : Incident :=
  newIncident ⟨[], incidents, []⟩ (some cluster.id) a.code (some a.dedupeKey) .new

/-- The rows under `uq_incidents_inflight_cluster_code`. -/
def index : Board Incident (String × String × String) := ⟨uniqueKey, inFlight⟩

/-- `sync_rgw_alerts` up to its commit; `none` is an exception, after which nothing is
committed. -/
def syncRgwAlerts (fl : ℚ → ℚ) (cluster : Cluster) (s : Snapshot) (now : Int)
    (incidents : List Incident) : Option (List Incident) :=
  let alerts := evaluateRgwAlerts fl s
  if incidents.any (raises alerts cluster s now) then none
  else
    index.openAll (alertIncident cluster) (known incidents cluster)
      (Table.update incidents (resolves alerts cluster s now)
        fun i => { i with status := .resolved }) alerts

/-! ## What is observed -/

/-- The snapshot has evidence on the source of the alert. -/
def SourceObserved (s : Snapshot) (now : Int) (code : String) (dedupeKey : Option String) :
    Prop :=
  (s.capturedAt ≠ .malformed ∧
    ∀ t, s.capturedAt = .time t → 0 ≤ now - t ∧ now - t ≤ 600 * 1000000) ∧
  if code = "RGW_ALERT_BUCKET_QUOTA" then
    ∃ key ∈ dedupeKey, ∃ row ∈ s.bucketStats, row.label = removeBucket key ∧
      (row.quotaEnabled = false ∨ row.dimensions ≠ [])
  else
    s.auditComplete = true ∧ statusCounts s ≠ [] ∧ 0 < requestCount s ∧
      (code = "RGW_ALERT_HOT_BUCKET" → bucketCounts s ≠ [])

theorem quotaObserved_spec {bucket : String} {rows : List BucketRow}
    (h : quotaObserved bucket rows = true) :
    ∃ row ∈ rows, row.label = bucket ∧ (row.quotaEnabled = false ∨ row.dimensions ≠ []) := by
  unfold quotaObserved at h
  split at h
  · cases h
  · next row hfind =>
    refine ⟨row, List.mem_of_find?_eq_some hfind, by simpa using List.find?_some hfind, ?_⟩
    simpa using h

variable {a : Alert} {cluster : Cluster} {code : String} {fl : ℚ → ℚ} {incidents : List Incident}
    {now : Int} {s : Snapshot}

theorem windowObserved_spec (h : windowObserved code s = true) :
    s.auditComplete = true ∧ statusCounts s ≠ [] ∧ 0 < requestCount s ∧
      (code = "RGW_ALERT_HOT_BUCKET" → bucketCounts s ≠ []) := by
  unfold windowObserved at h
  dsimp only at h
  split_ifs at h with hincomplete hgap hhot haudit
  · simp only [Bool.or_eq_true, not_or, decide_eq_true_eq, List.isEmpty_iff] at hgap
    exact ⟨by simpa using hincomplete, hgap.1.1, by omega, fun _ => by simpa using h⟩
  all_goals
    simp only [Bool.or_eq_true, not_or, decide_eq_true_eq, List.isEmpty_iff] at hgap
    exact ⟨by simpa using hincomplete, hgap.1.1, by omega, fun hcode => absurd hcode hhot⟩

theorem recent_spec (h : recent s now = true) :
    s.capturedAt ≠ .malformed ∧
      ∀ t, s.capturedAt = .time t → 0 ≤ now - t ∧ now - t ≤ 600 * 1000000 := by
  unfold recent at h
  constructor
  · intro hmalformed
    rw [hmalformed] at h
    cases h
  · intro t ht
    rw [ht] at h
    simpa only [Bool.and_eq_true, decide_eq_true_eq] using h

/-- **What is closed was observed again.** -/
theorem observed_of_canResolve {dedupeKey : Option String}
    (h : canResolveAlert code dedupeKey s now = some true) :
    SourceObserved s now code dedupeKey := by
  unfold canResolveAlert at h
  split_ifs at h with hstale hquota
  · cases h
  · refine ⟨recent_spec (by simpa using hstale), ?_⟩
    rw [if_pos hquota]
    obtain ⟨key, hkey, hobserved⟩ := Option.map_eq_some_iff.mp h
    exact ⟨key, hkey, quotaObserved_spec hobserved⟩
  · refine ⟨recent_spec (by simpa using hstale), ?_⟩
    rw [if_neg hquota]
    exact windowObserved_spec (Option.some.inj h)

/-! ## Alerts and the index -/

def Alert.Indexed (a : Alert) : Prop := likeRgwAlert a.code = true ∧ a.dedupeKey ≠ ""

theorem cut_ne_empty {n : Nat} {s : String} (hn : 0 < n) (hs : s.toList ≠ []) : cut n s ≠ "" := by
  intro h
  have hlist := congrArg String.toList h
  unfold cut at hlist
  rw [String.toList_ofList] at hlist
  have hnil : s.toList.take n = [] := hlist
  rw [List.take_eq_nil_iff] at hnil
  rcases hnil with hzero | hnil
  · omega
  · exact hs hnil

theorem append_toList_ne {s t : String} (hs : s.toList ≠ []) : (s ++ t).toList ≠ [] := by
  rw [String.toList_append]
  intro h
  exact hs (List.append_eq_nil_iff.mp h).1

theorem likeRgwAlert_append (t : String) : likeRgwAlert ("RGW_ALERT_" ++ t) = true := by
  unfold likeRgwAlert
  rw [String.toList_append]
  rfl

theorem indexed_ratioAlert {severity key : String} (hcode : likeRgwAlert code = true)
    (hkey : key.toList ≠ []) : (ratioAlert code severity key).Indexed :=
  ⟨hcode, cut_ne_empty (by decide) hkey⟩

theorem indexed_quotaAlerts (fl : ℚ → ℚ) (s : Snapshot) : ∀ a ∈ quotaAlerts fl s, a.Indexed := by
  intro a ha
  obtain ⟨row, _, hrow⟩ := List.mem_filterMap.mp ha
  unfold quotaAlert at hrow
  split_ifs at hrow
  split at hrow
  · cases hrow
  · obtain ⟨severity, _, rfl⟩ := Option.map_eq_some_iff.mp hrow
    exact indexed_ratioAlert (by decide) (append_toList_ne (by decide))

theorem indexed_hotBucketAlerts (fl : ℚ → ℚ) (s : Snapshot) :
    ∀ a ∈ hotBucketAlerts fl s, a.Indexed := by
  intro a ha
  unfold hotBucketAlerts at ha
  split at ha
  · cases ha
  · split_ifs at ha
    · rw [List.mem_singleton] at ha
      subst ha
      exact indexed_ratioAlert (by decide) (append_toList_ne (by decide))
    · cases ha

theorem indexed_findingAlert {f : Finding} (h : findingAlert f = some a) : a.Indexed := by
  obtain ⟨severity, _, rfl⟩ := Option.map_eq_some_iff.mp h
  apply indexed_ratioAlert (likeRgwAlert_append f.code)
  rw [String.toList_append, String.toList_append]
  intro hnil
  have hcolon := (List.append_eq_nil_iff.mp (List.append_eq_nil_iff.mp hnil).1).2
  revert hcolon
  decide

theorem indexed_evaluate (fl : ℚ → ℚ) (s : Snapshot) : ∀ a ∈ evaluateRgwAlerts fl s, a.Indexed := by
  intro a ha
  unfold evaluateRgwAlerts at ha
  simp only [List.mem_append] at ha
  rcases ha with (((ha | ha) | ha) | ha) | ha
  · exact indexed_quotaAlerts fl s a ha
  · unfold serverErrorAlerts at ha
    dsimp only at ha
    by_cases hspike : 10 ≤ countWhere (statusCounts s) (fun status => 500 ≤ status && status ≤ 599)
        ∧ 5 ≤ rate fl (countWhere (statusCounts s) fun status => 500 ≤ status && status ≤ 599)
          (requestCount s)
    · rw [if_pos hspike, List.mem_singleton] at ha
      subst ha
      exact indexed_ratioAlert (by decide) (by decide)
    · rw [if_neg hspike] at ha
      cases ha
  · unfold deniedAlerts at ha
    dsimp only at ha
    split_ifs at ha
    · rw [List.mem_singleton] at ha
      subst ha
      exact indexed_ratioAlert (by decide) (by decide)
    · cases ha
  · exact indexed_hotBucketAlerts fl s a ha
  · obtain ⟨f, _, hf⟩ := List.mem_filterMap.mp ha
    exact indexed_findingAlert hf

def indexKey (cluster : Cluster) (a : Alert) : String × String × String :=
  (cluster.id, a.code, a.dedupeKey)

theorem openRgw_about_iff (h : a.Indexed) (i : Incident) :
    (openRgw cluster i && a.about i) =
      (inFlight i && decide (uniqueKey i = indexKey cluster a)) := by
  rw [Bool.eq_iff_iff]
  simp only [openRgw, Alert.about, uniqueKey, indexKey, Bool.and_eq_true, beq_iff_eq,
    decide_eq_true_eq, Prod.mk.injEq]
  constructor
  · rintro ⟨⟨⟨hcluster, _⟩, hlive⟩, hcode, hkey⟩
    rw [hcluster, hkey]
    exact ⟨hlive, rfl, hcode, rfl⟩
  · rintro ⟨hlive, hcluster, hcode, hkey⟩
    have hsome : i.clusterId = some cluster.id := by
      cases hid : i.clusterId with
      | none =>
        rw [hid] at hcluster
        exact absurd hcluster.symm cluster.named
      | some c =>
        rw [hid] at hcluster
        exact congrArg some hcluster
    have hdedupe : i.dedupeKey = some a.dedupeKey := by
      cases hd : i.dedupeKey with
      | none =>
        rw [hd] at hkey
        exact absurd hkey.symm h.2
      | some k =>
        rw [hd] at hkey
        exact congrArg some hkey
    refine ⟨⟨⟨hsome, ?_⟩, hlive⟩, hcode, hdedupe⟩
    rw [hcode]
    exact h.1

theorem known_iff_holds (h : a.Indexed) (incidents : List Incident) :
    known incidents cluster a = index.holds incidents (indexKey cluster a) := by
  unfold known Board.holds
  congr 1
  funext i
  exact openRgw_about_iff h i

/-! ## A snapshot is committed -/

/-- What the first loop leaves. -/
def closed (fl : ℚ → ℚ) (cluster : Cluster) (s : Snapshot) (now : Int)
    (incidents : List Incident) : List Incident :=
  Table.update incidents (resolves (evaluateRgwAlerts fl s) cluster s now)
    fun i => { i with status := .resolved }

theorem mem_closed {i : Incident} (hi : i ∈ incidents)
    (hopen : resolves (evaluateRgwAlerts fl s) cluster s now i = false) :
    i ∈ closed fl cluster s now incidents := by
  apply List.mem_map.mpr
  exact ⟨i, hi, by rw [hopen, if_neg Bool.false_ne_true]⟩

/-- What is live after the first loop was live before. -/
theorem mem_of_mem_closed {i : Incident} (hi : i ∈ closed fl cluster s now incidents)
    (hlive : inFlight i = true) : i ∈ incidents := by
  obtain ⟨i₀, hi₀, rfl⟩ := List.mem_map.mp hi
  split_ifs at hlive ⊢
  · cases hlive
  · exact hi₀

theorem holds_closed (ha : a ∈ evaluateRgwAlerts fl s) :
    index.holds (closed fl cluster s now incidents) (indexKey cluster a) =
      known incidents cluster a := by
  have hindexed := indexed_evaluate fl s a ha
  rw [← known_iff_holds hindexed, Bool.eq_iff_iff]
  unfold known
  rw [List.any_eq_true, List.any_eq_true]
  constructor
  · rintro ⟨i, hi, habout⟩
    have hlive : inFlight i = true := by
      rw [openRgw_about_iff hindexed, Bool.and_eq_true] at habout
      exact habout.1
    exact ⟨i, mem_of_mem_closed hi hlive, habout⟩
  · rintro ⟨i, hi, habout⟩
    refine ⟨i, mem_closed hi ?_, habout⟩
    have hreported : reported (evaluateRgwAlerts fl s) i = true := by
      apply List.any_eq_true.mpr
      exact ⟨a, ha, (Bool.and_eq_true _ _ ▸ habout).2⟩
    unfold resolves
    rw [hreported, Bool.not_true, Bool.and_false, Bool.false_and]

/-- What a committed snapshot should leave: the index holds, each alert has one open
Incident, and an open Incident that is not reported is open unless its source was observed
again. -/
structure Synced (fl : ℚ → ℚ) (cluster : Cluster) (s : Snapshot) (now : Int)
    (incidents after : List Incident) : Prop where
  unique : index.Unique after
  one : ∀ a ∈ evaluateRgwAlerts fl s,
    (after.filter fun i => openRgw cluster i && a.about i).length = 1
  kept : ∀ i ∈ incidents, openRgw cluster i = true →
    reported (evaluateRgwAlerts fl s) i = false →
      i ∈ after ∨ SourceObserved s now i.cephCode i.dedupeKey

/-- No two alerts without an open Incident have one key, and no quota Incident is without a
key when `_can_resolve_alert` asks for it. -/
def NewKeysDistinct (fl : ℚ → ℚ) (cluster : Cluster) (s : Snapshot) (now : Int)
    (incidents : List Incident) : Prop :=
  (((evaluateRgwAlerts fl s).filter fun a => !known incidents cluster a).map fun a =>
    (a.code, a.dedupeKey)).Nodup ∧
  ∀ i ∈ incidents, raises (evaluateRgwAlerts fl s) cluster s now i = false

theorem syncRgwAlerts_eq (fl : ℚ → ℚ) (cluster : Cluster) (s : Snapshot) (now : Int)
    (incidents : List Incident) :
    syncRgwAlerts fl cluster s now incidents =
      if incidents.any (raises (evaluateRgwAlerts fl s) cluster s now) then none
      else
        index.openAll (alertIncident cluster) (known incidents cluster)
          (closed fl cluster s now incidents) (evaluateRgwAlerts fl s) := rfl

section

variable (cluster : Cluster)

theorem nodup_indexKeys (alerts : List Alert) :
    (alerts.map (indexKey cluster)).Nodup ↔
      (alerts.map fun a => (a.code, a.dedupeKey)).Nodup := by
  have hmap : alerts.map (indexKey cluster) =
      (alerts.map fun a => (a.code, a.dedupeKey)).map fun k => (cluster.id, k) := by
    rw [List.map_map]
    rfl
  rw [hmap]
  exact List.nodup_map_iff fun k k' h => (Prod.mk.injEq _ _ _ _ ▸ h).2

theorem key_alertIncident (rows : List Incident) (a : Alert) :
    index.key (alertIncident cluster rows a) = indexKey cluster a := rfl

theorem live_alertIncident (rows : List Incident) (a : Alert) :
    index.live (alertIncident cluster rows a) = true := rfl

end

/-- **When a snapshot is committed.** -/
theorem isSome_syncRgwAlerts_iff (fl : ℚ → ℚ) (cluster : Cluster) (s : Snapshot) (now : Int)
    (incidents : List Incident) :
    (syncRgwAlerts fl cluster s now incidents).isSome = true ↔
      NewKeysDistinct fl cluster s now incidents := by
  rw [syncRgwAlerts_eq]
  unfold NewKeysDistinct
  by_cases hraises : incidents.any (raises (evaluateRgwAlerts fl s) cluster s now) = true
  · rw [if_pos hraises]
    obtain ⟨i, hi, hraise⟩ := List.any_eq_true.mp hraises
    constructor
    · intro h
      cases h
    · intro h
      rw [h.2 i hi] at hraise
      cases hraise
  · rw [if_neg hraises, index.openAll_isSome_iff (key_alertIncident cluster)
      (live_alertIncident cluster)]
    unfold Board.fresh
    rw [nodup_indexKeys]
    simp only [List.any_eq_true, not_exists, not_and, Bool.not_eq_true] at hraises
    constructor
    · intro h
      exact ⟨h.1, hraises⟩
    · intro h
      refine ⟨h.1, ?_⟩
      intro a ha
      obtain ⟨ha, hnew⟩ := List.mem_filter.mp ha
      rw [holds_closed ha]
      simpa using hnew

theorem unique_closed (h : index.Unique incidents) :
    index.Unique (closed fl cluster s now incidents) := by
  apply index.unique_close h
  intro i
  rfl

/-- What is committed agrees with the snapshot. -/
theorem synced_of_syncRgwAlerts {after : List Incident} (h : index.Unique incidents)
    (hdistinct : NewKeysDistinct fl cluster s now incidents)
    (hsync : syncRgwAlerts fl cluster s now incidents = some after) :
    Synced fl cluster s now incidents after := by
  rw [syncRgwAlerts_eq] at hsync
  split_ifs at hsync
  obtain ⟨new, rfl, hkeys, hlive⟩ := index.exists_of_openAll (key_alertIncident cluster)
    (live_alertIncident cluster) _ _ _ hsync
  have hunique : index.Unique (closed fl cluster s now incidents ++ new) := by
    apply index.unique_append (unique_closed h) hlive
    · rw [hkeys]
      exact (nodup_indexKeys cluster _).mpr hdistinct.1
    · intro i hi
      have hmem : index.key i ∈ (Board.fresh (known incidents cluster)
          (evaluateRgwAlerts fl s)).map (indexKey cluster) := hkeys ▸ List.mem_map_of_mem hi
      obtain ⟨a, ha, hkey⟩ := List.mem_map.mp hmem
      obtain ⟨ha, hnew⟩ := List.mem_filter.mp ha
      rw [← hkey, holds_closed ha]
      simpa using hnew
  constructor
  · exact hunique
  · intro a ha
    have hindexed := indexed_evaluate fl s a ha
    have hholds : index.holds (closed fl cluster s now incidents ++ new)
        (indexKey cluster a) = true := by
      rw [index.holds_iff]
      cases hknown : known incidents cluster a with
      | true =>
        rw [← holds_closed ha, index.holds_iff] at hknown
        obtain ⟨i, hi, hi_live, hkey⟩ := hknown
        exact ⟨i, List.mem_append_left _ hi, hi_live, hkey⟩
      | false =>
        have hmem : indexKey cluster a ∈ new.map index.key := by
          rw [hkeys]
          apply List.mem_map_of_mem
          exact List.mem_filter.mpr ⟨ha, by simp [hknown]⟩
        obtain ⟨i, hi, hkey⟩ := List.mem_map.mp hmem
        exact ⟨i, List.mem_append_right _ hi, hlive i hi, hkey⟩
    have hfilter : ((closed fl cluster s now incidents ++ new).filter fun i =>
        openRgw cluster i && a.about i) =
          (closed fl cluster s now incidents ++ new).filter fun i =>
            index.live i && decide (index.key i = indexKey cluster a) := by
      apply List.filter_congr
      intro i _
      exact openRgw_about_iff hindexed i
    rw [hfilter]
    exact index.length_filter_eq_one hunique hholds
  · intro i hi hopen hunreported
    cases hresolves : resolves (evaluateRgwAlerts fl s) cluster s now i with
    | false => exact Or.inl (List.mem_append_left _ (mem_closed hi hresolves))
    | true =>
      right
      unfold resolves at hresolves
      rw [Bool.and_eq_true, beq_iff_eq] at hresolves
      exact observed_of_canResolve hresolves.2

/-- **When a snapshot and the Incidents agree.**  From Incidents that respect the index,
`sync_rgw_alerts` commits, keeps the index, leaves one open RGW Incident for each alert and
every other one open whose source was not observed again, exactly when no two alerts without
an open Incident have one code and key, and it asks of no quota Incident without a key. -/
theorem synced_iff (fl : ℚ → ℚ) (cluster : Cluster) (s : Snapshot) (now : Int)
    (incidents : List Incident) (h : index.Unique incidents) :
    (∃ after, syncRgwAlerts fl cluster s now incidents = some after ∧
      Synced fl cluster s now incidents after) ↔
        NewKeysDistinct fl cluster s now incidents := by
  constructor
  · rintro ⟨after, hsync, _⟩
    rw [← isSome_syncRgwAlerts_iff, hsync]
    rfl
  · intro hdistinct
    have hsome := (isSome_syncRgwAlerts_iff fl cluster s now incidents).mpr hdistinct
    obtain ⟨after, hsync⟩ := Option.isSome_iff_exists.mp hsome
    exact ⟨after, hsync, synced_of_syncRgwAlerts h hdistinct hsync⟩

def cluster1 : Cluster := ⟨"c1", by decide⟩

/-- Refused requests, with these findings. -/
def refused (findings : List Finding) : Snapshot where
  capturedAt := .missing
  statusCounts := [(200, 90), (403, 10)]
  requestCount := some 100
  topBuckets := []
  bucketStats := []
  auditFindings := some findings
  auditComplete := true

/-- What `build_rgw_audit_intelligence` says of a source address. -/
def authorizationFailures : Finding := ⟨"AUTHORIZATION_FAILURE_BURST", none, none⟩

/-- An open Incident of one source. -/
def openBurst : Incident where
  id := 1
  clusterId := some "c1"
  cephCode := "RGW_ALERT_AUTHORIZATION_FAILURE_BURST"
  dedupeKey := some "AUTHORIZATION_FAILURE_BURST:window"
  status := .new
  synthetic := false
  verifyAfter := none
  verifyAttempts := 0

/-- While that Incident is open, two sources are one alert. -/
theorem synced_two_sources :
    ∃ after, syncRgwAlerts id cluster1 (refused [authorizationFailures, authorizationFailures]) 0
        [openBurst] = some after ∧
      Synced id cluster1 (refused [authorizationFailures, authorizationFailures]) 0 [openBurst]
        after :=
  (synced_iff id cluster1 (refused [authorizationFailures, authorizationFailures]) 0 [openBurst]
    (by unfold Board.Unique; decide)).mpr (by
      constructor
      · decide +kernel
      · decide +kernel)

/-- **Two source addresses in one window**: the second Incident clashes with the first, and
nothing is committed. -/
theorem two_sources_clash :
    ¬ ∃ after, syncRgwAlerts id cluster1
        (refused [authorizationFailures, authorizationFailures]) 0 [] = some after ∧
      Synced id cluster1 (refused [authorizationFailures, authorizationFailures]) 0 [] after := by
  rintro ⟨after, hsync, _⟩
  have hnone : syncRgwAlerts id cluster1
      (refused [authorizationFailures, authorizationFailures]) 0 [] = none := by
    decide +kernel
  rw [hnone] at hsync
  cases hsync

end CephAi.Ports.RgwAlerts
