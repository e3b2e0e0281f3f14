import Mathlib.Algebra.Order.Ring.Rat
import Mathlib.Data.List.Sort
import Mathlib.Data.List.Dedup
import CephAi.Ports.MonitorFamilies

/-!
# OSDs that are slower than their peers

`check_osd_latency_outliers` of `watcher/osd_latency_monitor.py`: the commit latency of each
OSD that is up is compared with the median of a scan, and two counts for each OSD say for how
many scans it was high or normal.

## Main results

* `resolved_spec` — an Incident that a scan resolves was not reported: its OSD was not
  measured, or it was normal often enough.
-/

namespace CephAi.Ports.OsdLatency

open Verified
open Models MonitorFamilies

/-! ## A scan -/

/-- An entry of `osd_perf_infos`; a latency that is not a number is missing. -/
structure PerfInfo where
  osdId : Nat
  commitLatencyMs : Option ℚ
  applyLatencyMs : Option ℚ
deriving DecidableEq, Repr

/-- A row of `list_osds`. -/
structure OsdRow where
  osdId : Nat
  crushHost : String
  status : String
deriving DecidableEq, Repr

/-- `ceph osd perf`. -/
inductive PerfReply
  | failed
  | unreadable
  | infos (l : List PerfInfo)
deriving Repr

/-- What a scan is told; `osds` is missing when `list_osds` raises. -/
structure LatencyScan where
  perf : PerfReply
  osds : Option (List OsdRow)
  stored : Bool

/-- The settings `osd_latency_open_scans` and `osd_latency_recovery_scans`. -/
structure Settings where
  openScans : Nat := 4
  recoveryScans : Nat := 3

def Settings.opening (S : Settings) : Nat := max 1 S.openScans

def Settings.recovery (S : Settings) : Nat := max 1 S.recoveryScans

/-- `_consecutive_high_scans` and `_consecutive_ok_scans`. -/
structure Counts where
  high : Nat → Nat
  ok : Nat → Nat

/-- The counts of a process that has just started. -/
def Counts.empty : Counts := ⟨fun _ => 0, fun _ => 0⟩

def upOsdIds (osds : List OsdRow) : List Nat :=
  (osds.filter fun o => o.status == "up").map OsdRow.osdId

/-- The entries that the loop over `perf_infos` takes. -/
def taken (osds : List OsdRow) (infos : List PerfInfo) : List PerfInfo :=
  infos.filter fun info => (upOsdIds osds).contains info.osdId && info.commitLatencyMs.isSome

/-- The keys of `commit_latency_by_id`. -/
def measuredIds (osds : List OsdRow) (infos : List PerfInfo) : List Nat :=
  ((taken osds infos).map PerfInfo.osdId).dedup

/-- The entry whose latencies are kept: the last one of the OSD. -/
def entryOf (osds : List OsdRow) (infos : List PerfInfo) (osd : Nat) : Option PerfInfo :=
  (taken osds infos).reverse.find? fun info => info.osdId == osd

/-- `commit_latency_by_id[osd_id]` -/
def commitOf (osds : List OsdRow) (infos : List PerfInfo) (osd : Nat) : ℚ :=
  ((entryOf osds infos osd).bind PerfInfo.commitLatencyMs).getD 0

/-- `statistics.median` -/
def median (values : List ℚ) : ℚ :=
  let sorted := values.insertionSort (· ≤ ·)
  let n := sorted.length
  if n % 2 = 1 then sorted.getD (n / 2) 0
  else (sorted.getD (n / 2 - 1) 0 + sorted.getD (n / 2) 0) / 2

def minUpOsds : Nat := 4

/-- The OSD is in `currently_high`. -/
def outlier (osds : List OsdRow) (infos : List PerfInfo) (osd : Nat) : Bool :=
  let medianMs := median ((measuredIds osds infos).map (commitOf osds infos))
  decide (max medianMs (1 / 10) * 3 ≤ commitOf osds infos osd) &&
    decide (5 ≤ commitOf osds infos osd)

/-- The Incidents of this monitor. -/
def latencyFamily : Family := ⟨"OSD_LATENCY_HIGH:", none, fun _ => true⟩

/-- The entry of an OSD in `flagged`. -/
def finding (osds : List OsdRow) (osd : Nat) : Finding where
  cephCode := latencyFamily.osdCode osd
  actionId := "investigate_manually"
  params :=
    [("osd_id", .text (toString osd)),
      ("host", .text (((osds.find? fun o => o.osdId == osd).map OsdRow.crushHost).getD ""))]

/-- The counts after the last loop; each turn reads and writes those of one OSD. -/
def Counts.after (counts : Counts) (osds : List OsdRow) (infos : List PerfInfo) : Counts where
  high := fun osd =>
    if osd ∈ measuredIds osds infos then
      if outlier osds infos osd then counts.high osd + 1 else 0
    else counts.high osd
  ok := fun osd =>
    if osd ∈ measuredIds osds infos then
      if outlier osds infos osd then 0 else counts.ok osd + 1
    else counts.ok osd

def stillOver (S : Settings) (counts : Counts) (osds : List OsdRow) (infos : List PerfInfo)
    (osd : Nat) : Bool :=
  outlier osds infos osd || decide ((counts.after osds infos).ok osd < S.recovery)

/-- `check_osd_latency_outliers`: what is reported, and the counts.  `none` is the exception
of `list_osds`. -/
def checkOsdLatencyOutliers (S : Settings) (counts : Counts) (scan : LatencyScan) :
    Option (Report × Counts) :=
  match scan.perf with
  | .infos infos =>
    scan.osds.map fun osds =>
      let ids := measuredIds osds infos
      if ids.length < minUpOsds then (⟨[], []⟩, counts)
      else
        let after := counts.after osds infos
        (⟨(ids.filter fun osd => decide (S.opening ≤ after.high osd)).map (finding osds),
          (ids.filter (stillOver S counts osds infos)).map latencyFamily.osdCode⟩, after)
  | _ => some (⟨[], []⟩, counts)

/-- `scan_osd_latency`: the Incidents and the counts afterwards. -/
def LatencyScan.run (scan : LatencyScan) (S : Settings)
    (classify : String → ActionClassification) (db : Db) (counts : Counts) : Db × Counts :=
  match checkOsdLatencyOutliers S counts scan with
  | none => (db, counts)
  | some (report, after) =>
    ((if scan.stored then latencyFamily.createOrResolve classify db report else none).getD db,
      after)

/-! ## What a scan says of an OSD -/

/-- The scan compared the OSD with its peers. -/
def LatencyScan.measures (scan : LatencyScan) (osd : Nat) : Bool :=
  match scan.perf, scan.osds with
  | .infos infos, some osds =>
    decide (minUpOsds ≤ (measuredIds osds infos).length) && (measuredIds osds infos).contains osd
  | _, _ => false

/-- In this comparison the OSD is an outlier. -/
def LatencyScan.high (scan : LatencyScan) (osd : Nat) : Bool :=
  match scan.perf, scan.osds with
  | .infos infos, some osds => outlier osds infos osd
  | _, _ => false

/-- The scan has a list of the OSDs in which this one is there and not up. -/
def LatencyScan.notUp (scan : LatencyScan) (osd : Nat) : Bool :=
  match scan.perf, scan.osds with
  | .infos _, some osds =>
    (osds.any fun o => o.osdId == osd) && !(upOsdIds osds).contains osd
  | _, _ => false

theorem has_of_measures {S : Settings} {counts after : Counts} {scan : LatencyScan}
    {report : Report} (h : checkOsdLatencyOutliers S counts scan = some (report, after))
    {osd : Nat} (hm : scan.measures osd = true)
    (hkept : scan.high osd = true ∨ counts.ok osd + 1 < S.recovery) :
    latencyFamily.osdCode osd ∈ report.stillOver := by
  cases hperf : scan.perf with
  | failed | unreadable =>
    unfold LatencyScan.measures at hm
    rw [hperf] at hm
    cases hm
  | infos infos =>
    cases hosds : scan.osds with
    | none =>
      unfold LatencyScan.measures at hm
      rw [hperf, hosds] at hm
      cases hm
    | some osds =>
      simp only [LatencyScan.measures, hperf, hosds, Bool.and_eq_true, decide_eq_true_eq,
        List.contains_iff_mem] at hm
      simp only [LatencyScan.high, hperf, hosds] at hkept
      simp only [checkOsdLatencyOutliers, hperf, hosds, Option.map_some,
        if_neg (Nat.not_lt.mpr hm.1), Option.some.injEq, Prod.mk.injEq] at h
      rw [← h.1]
      apply List.mem_map_of_mem
      rw [List.mem_filter]
      refine ⟨hm.2, ?_⟩
      unfold stillOver Counts.after
      rw [Bool.or_eq_true, decide_eq_true_eq]
      cases hout : outlier osds infos osd with
      | true => exact .inl rfl
      | false =>
        right
        rcases hkept with hhigh | hfew
        · rw [hout] at hhigh
          cases hhigh
        · simp only [if_pos hm.2, hout, Bool.false_eq_true, if_false]
          exact hfew

section Run

variable {S : Settings} {classify : String → ActionClassification} {db : Db} {counts : Counts}
  {scan : LatencyScan}

theorem committed_of_check {report : Report} (db' : Db)
    (h : (if scan.stored then latencyFamily.createOrResolve classify db report else none) =
      some db') :
    latencyFamily.createOrResolve classify db report = some db' := by
  split_ifs at h
  exact h

/-- **What a scan resolves** is an open Incident of this monitor; if the scan measured its
OSD, it was normal and often enough so. -/
theorem resolved_spec {id : Nat} {row : Incident} (hrow : db.incident? id = some row)
    (hopen : row.status ≠ .resolved)
    (h : (scan.run S classify db counts).1.incidentStatus id = some .resolved) :
    latencyFamily.isOpen row = true ∧ ∀ osd, row.cephCode = latencyFamily.osdCode osd →
      scan.measures osd = true → scan.high osd = false ∧ S.recovery ≤ counts.ok osd + 1 := by
  unfold LatencyScan.run at h
  cases hcheck : checkOsdLatencyOutliers S counts scan with
  | none =>
    simp only [hcheck, Db.incidentStatus, hrow, Option.map_some, Option.some.injEq] at h
    exact absurd h hopen
  | some found =>
    obtain ⟨report, after⟩ := found
    rw [hcheck] at h
    have hresolves := resolves_of_getD committed_of_check hrow hopen h
    refine ⟨(resolves_iff.mp hresolves).1, ?_⟩
    intro osd hcode hm
    by_cases hkept : scan.high osd = true ∨ counts.ok osd + 1 < S.recovery
    · have hmem := has_of_measures hcheck hm hkept
      rw [← hcode] at hmem
      rw [kept_of_mem hmem] at hresolves
      cases hresolves
    · rw [not_or, Bool.not_eq_true, Nat.not_lt] at hkept
      exact hkept

theorem open_of_cancelled {pk : Nat} {a a' : Action} (ha : db.action? pk = some a)
    (ha' : (scan.run S classify db counts).1.action? pk = some a') (hne : a'.status ≠ a.status) :
    ∃ row, db.incident? a.incidentId = some row ∧ latencyFamily.isOpen row = true := by
  unfold LatencyScan.run at ha'
  cases hcheck : checkOsdLatencyOutliers S counts scan with
  | none =>
    simp only [hcheck, ha, Option.some.injEq] at ha'
    exact absurd (congrArg Action.status ha'.symm) hne
  | some found =>
    obtain ⟨report, after⟩ := found
    rw [hcheck] at ha'
    obtain ⟨row, hrow, hresolves⟩ :=
      resolves_of_cancelled_getD committed_of_check ha ha' hne
    exact ⟨row, hrow, (resolves_iff.mp hresolves).1⟩

end Run

end CephAi.Ports.OsdLatency
