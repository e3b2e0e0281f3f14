import CephAi.Verified.Ranking
import Mathlib.Algebra.Order.Ring.Rat

/-!
# Correlation of volume latencies

`build_report` and `_volume_analysis` of `watcher/performance_rca.py`.  The latency of a volume is
compared with its past, and the median of its pool with that of the rows that the report reads.
The evidence about the hosts and the OSDs of a volume does not depend on these rows.

## Main results

* `filter_latestByKey` — the latest rows of a part of the volumes.
* `narrows_iff` — when a report of one pool or of one image says what the whole report does.
-/

namespace CephAi.Ports.PerformanceCorrelation

open Verified.Ranking

/-- A row of `VolumeMetric`; a pool and an image have a name. -/
structure Metric where
  clusterId : String
  pool : String
  image : String
  polledAt : Int
  readLatencyMs : Option ℚ
  writeLatencyMs : Option ℚ
  pool_ne : pool ≠ ""
  image_ne : image ≠ ""

def Metric.key (r : Metric) : String × String := (r.pool, r.image)

def latency (r : Metric) : ℚ := max (r.readLatencyMs.getD 0) (r.writeLatencyMs.getD 0)

/-- `_median`; `round` keeps three places. -/
def median (round : ℚ → ℚ) (values : List ℚ) : Option ℚ :=
  let sorted := values.insertionSort (· ≤ ·)
  let middle := sorted.length / 2
  if sorted.length % 2 = 1 then sorted[middle]?.map round
  else
    match sorted[middle - 1]?, sorted[middle]? with
    | some a, some b => some (round ((a + b) / 2))
    | _, _ => none

def clamp (round : ℚ → ℚ) (value : ℚ) : ℚ := round (min 1 (max 0 value))

/-- The row takes the place of an older one of its volume. -/
def upsert (r : Metric) : List Metric → List Metric
  | [] => [r]
  | s :: rows =>
    if s.key = r.key then (if s.polledAt < r.polledAt then r else s) :: rows else s :: upsert r rows

def latestByKey (rows : List Metric) : List Metric := rows.foldl (fun l r => upsert r l) []

/-! ## A volume -/

/-- What the mappings, the distribution, the host samples and the live signals say about the OSDs
of a volume: a host is a bottleneck, a mapped OSD is an outlier, some OSD is. -/
structure Evidence where
  hostBottleneck : Bool
  mappedOutlier : Bool
  outlier : Bool

inductive Hypothesis
  | hostResource
  | sampledDataOsdLatency
  | poolContention
  | volumeConsumerBottleneck
  | osdDiskLatencyUnscoped
  | noStrongCandidate
deriving DecidableEq, Repr

/-- The signal of the pool. -/
structure PoolSignal where
  elevated : Bool
  score : ℚ
  peerVolumes : Nat
  poolMedian : Option ℚ
  clusterMedian : Option ℚ
deriving DecidableEq, Repr

/-- The volume is slower than it was. -/
def volumeElevated (round : ℚ → ℚ) (history : List Metric) : Bool :=
  let values := history.map latency
  let past := if 1 < values.length then values.dropLast else values
  match median round past, values.getLast? with
  | some baseline, some last => 0 < baseline && decide (baseline * (5 / 4) ≤ round last)
  | _, _ => false

def poolSignal (round : ℚ → ℚ) (poolLatest clusterLatest : List Metric) : PoolSignal :=
  let poolMedian := median round (poolLatest.map latency)
  let clusterMedian := median round (clusterLatest.map latency)
  let ratio :=
    match poolMedian, clusterMedian with
    | some p, some c => if p = 0 ∨ c = 0 ∨ round (p / c) = 0 then 1 else round (p / c)
    | _, _ => 1
  { elevated := 2 ≤ poolLatest.length &&
      match poolMedian, clusterMedian with
      | some p, some c => decide (c * (6 / 5) ≤ p)
      | _, _ => false
    score := clamp round (ratio - 1)
    peerVolumes := poolLatest.length
    poolMedian := poolMedian
    clusterMedian := clusterMedian }

/-- `_volume_analysis`: the hypothesis and the signal of the pool. -/
def volumeAnalysis (round : ℚ → ℚ) (history poolLatest clusterLatest : List Metric)
    (evidence : Evidence) : Hypothesis × PoolSignal :=
  let signal := poolSignal round poolLatest clusterLatest
  let elevated := volumeElevated round history
  let hypothesis :=
    if elevated && evidence.hostBottleneck then .hostResource
    else if elevated && evidence.mappedOutlier then .sampledDataOsdLatency
    else if elevated && signal.elevated then .poolContention
    else if elevated then .volumeConsumerBottleneck
    else if evidence.outlier then .osdDiskLatencyUnscoped
    else .noStrongCandidate
  (hypothesis, signal)

/-! ## The report -/

/-- What a report is asked for. -/
structure Question where
  clusterId : String
  now : Int
  windowStart : Int
  pool : Option String
  image : Option String

/-- A name that is given restricts the rows. -/
def restricts (name : Option String) (value : String) : Bool :=
  name.all fun n => n == "" || value == n

/-- The rows that a report reads, in the order of the polls. -/
def rowsOf (table : List Metric) (q : Question) : List Metric :=
  (table.filter fun r =>
    (r.clusterId == q.clusterId && decide (q.windowStart ≤ r.polledAt ∧ r.polledAt ≤ q.now)) &&
      (restricts q.pool r.pool && restricts q.image r.image)).insertionSort
    fun r s => r.polledAt ≤ s.polledAt

def history (rows : List Metric) (key : String × String) : List Metric :=
  rows.filter fun r => r.key = key

/-- What `build_report` says about a volume, if it has three samples; the report is a list of
these, of which it keeps twenty. -/
def buildReport (round : ℚ → ℚ) (table : List Metric)
    (evidence : String × String → Evidence) (q : Question) (key : String × String) :
    Option (Hypothesis × PoolSignal) :=
  let rows := rowsOf table q
  let latest := latestByKey rows
  if 3 ≤ (history rows key).length then
    some (volumeAnalysis round (history rows key) (latest.filter fun r => r.pool = key.1) latest
      (evidence key))
  else none

/-- A report on the volume's pool, and one on the volume, say what the whole report says. -/
def Narrows (round : ℚ → ℚ) (table : List Metric) (evidence : String × String → Evidence)
    (clusterId : String) (now windowStart : Int) : Prop :=
  ∀ pool image : String,
    let report := fun pool' image' =>
      buildReport round table evidence ⟨clusterId, now, windowStart, pool', image'⟩ (pool, image)
    (report none none).isSome → report (some pool) none = report none none ∧
      report (some pool) (some image) = report none none

variable {rows : List Metric} {r : Metric}

theorem filter_upsert (p : String × String → Bool) (r : Metric) (rows : List Metric) :
    (upsert r rows).filter (fun s => p s.key) =
      if p r.key then upsert r (rows.filter fun s => p s.key)
      else rows.filter fun s => p s.key := by
  induction rows with
  | nil => cases h : p r.key <;> simp [upsert, h]
  | cons s rows ih =>
    by_cases hkey : s.key = r.key
    · have hnew : (if s.polledAt < r.polledAt then r else s).key = r.key := by
        split
        · rfl
        · exact hkey
      cases h : p r.key with
      | true | false => simp [upsert, hkey, hnew, h]
    · cases hs : p s.key with
      | true =>
        simp only [upsert, if_neg hkey, List.filter_cons, hs, if_true, ih]
        split <;> rfl
      | false =>
        simp only [upsert, if_neg hkey, List.filter_cons, hs, Bool.false_eq_true, if_false, ih]

/-- **The latest rows of some volumes** are those of their rows. -/
theorem filter_latestByKey (p : String × String → Bool) (rows : List Metric) :
    (latestByKey rows).filter (fun s => p s.key) = latestByKey (rows.filter fun s => p s.key) := by
  unfold latestByKey
  rw [List.foldl_filter]
  suffices h : ∀ l : List Metric,
      (rows.foldl (fun l r => upsert r l) l).filter (fun s => p s.key) =
        rows.foldl (fun l r => if p r.key then upsert r l else l)
          (l.filter fun s => p s.key) from h []
  induction rows with
  | nil => exact fun _ => rfl
  | cons r rows ih =>
    intro l
    rw [List.foldl_cons, List.foldl_cons, ih, filter_upsert]

theorem latestByKey_ne_nil (h : rows ≠ []) : latestByKey rows ≠ [] := by
  obtain rfl | ⟨init, r, rfl⟩ := List.eq_nil_or_concat rows
  · exact absurd rfl h
  · unfold latestByKey
    rw [List.concat_eq_append, List.foldl_append]
    show upsert r _ ≠ []
    cases init.foldl (fun l r => upsert r l) [] with
    | nil => exact List.cons_ne_nil _ _
    | cons s l =>
      rw [upsert]
      split <;> exact List.cons_ne_nil _ _

/-- A volume with a row has a latest one. -/
theorem exists_latest (hr : r ∈ rows) : ∃ s ∈ latestByKey rows, s.key = r.key := by
  have hne : (latestByKey rows).filter (fun s => s.key = r.key) ≠ [] := by
    rw [filter_latestByKey (fun k => decide (k = r.key))]
    exact latestByKey_ne_nil (List.ne_nil_of_mem (List.mem_filter.mpr ⟨hr, by simp⟩))
  obtain ⟨s, hs⟩ := List.exists_mem_of_ne_nil _ hne
  obtain ⟨hs, hkey⟩ := List.mem_filter.mp hs
  exact ⟨s, hs, of_decide_eq_true hkey⟩

/-- The rows of a narrower question are among those of the whole one. -/
theorem rowsOf_narrow (table : List Metric) (clusterId : String) (now windowStart : Int)
    (pool image : Option String) :
    rowsOf table ⟨clusterId, now, windowStart, pool, image⟩ =
      (rowsOf table ⟨clusterId, now, windowStart, none, none⟩).filter fun r =>
        restricts pool r.pool && restricts image r.image := by
  have : IsTrans Metric fun r s => r.polledAt ≤ s.polledAt := ⟨fun _ _ _ h h' => h.trans h'⟩
  have : Std.Total fun r s : Metric => r.polledAt ≤ s.polledAt := ⟨fun r s => le_total _ _⟩
  unfold rowsOf
  rw [filter_insertionSort, List.filter_filter]
  congr 1
  apply List.filter_congr
  intro r _
  simp [restricts, Bool.and_comm]

theorem restricts_some {name : String} (h : name ≠ "") (value : String) :
    restricts (some name) value = decide (value = name) := by
  simp [restricts, h, Bool.beq_eq_decide_eq]

/-- What a report of some rows says about a volume among them. -/
theorem buildReport_narrow (round : ℚ → ℚ) (table : List Metric)
    (evidence : String × String → Evidence) (clusterId : String) (now windowStart : Int)
    (pool image : Option String) (key : String × String) (p : String × String → Bool)
    (hp : p key = true) (hpool : ∀ k, p k = true → k.1 = key.1)
    (h : ∀ r : Metric, (restricts pool r.pool && restricts image r.image) = p r.key) :
    buildReport round table evidence ⟨clusterId, now, windowStart, pool, image⟩ key =
      let rows := rowsOf table ⟨clusterId, now, windowStart, none, none⟩
      let latest := latestByKey (rows.filter fun r => p r.key)
      if 3 ≤ (history rows key).length then
        some (volumeAnalysis round (history rows key) latest latest (evidence key))
      else none := by
  have hrows : (rowsOf table ⟨clusterId, now, windowStart, pool, image⟩) =
      (rowsOf table ⟨clusterId, now, windowStart, none, none⟩).filter fun r => p r.key := by
    rw [rowsOf_narrow]
    exact List.filter_congr fun r _ => h r
  have hhistory : ∀ rows, history (rows.filter fun r => p r.key) key = history rows key := by
    intro rows
    unfold history
    rw [List.filter_filter]
    apply List.filter_congr
    intro r _
    by_cases hkey : r.key = key
    · simp [hkey, hp]
    · simp [hkey]
  unfold buildReport
  dsimp only
  rw [hrows, hhistory]
  have hlatest : ∀ rows : List Metric, (latestByKey (rows.filter fun r => p r.key)).filter
      (fun r => r.pool = key.1) = latestByKey (rows.filter fun r => p r.key) := by
    intro rows
    rw [← filter_latestByKey, List.filter_filter]
    apply List.filter_congr
    intro r _
    cases hr : p r.key with
    | true => simp [show r.pool = key.1 from hpool r.key hr]
    | false => simp
  rw [hlatest]

/-- A pool that has as many volumes as one volume is, has no other one. -/
theorem alone_of_length {pool image : String}
    (h : (latestByKey (rows.filter fun r => decide (r.key = (pool, image)))).length =
      (latestByKey (rows.filter fun r => decide (r.key.1 = pool))).length) :
    ∀ r ∈ rows, r.pool = pool → r.image = image := by
  intro r hr hpool
  have hkeys : latestByKey (rows.filter fun t => decide (t.key = (pool, image))) =
      (latestByKey (rows.filter fun t => decide (t.key.1 = pool))).filter
        fun t => decide (t.key = (pool, image)) := by
    rw [filter_latestByKey (fun k => decide (k = (pool, image))), List.filter_filter]
    congr 1
    apply List.filter_congr
    intro t _
    by_cases ht : t.key = (pool, image)
    · simp [ht]
    · simp [ht]
  have hall := List.length_filter_eq_length_iff.mp ((congrArg List.length hkeys).symm.trans h)
  have hmem : r ∈ rows.filter fun t => decide (t.key.1 = pool) :=
    List.mem_filter.mpr ⟨hr, decide_eq_true hpool⟩
  obtain ⟨t, ht, htkey⟩ := exists_latest hmem
  exact congrArg Prod.snd (htkey.symm.trans (of_decide_eq_true (hall t ht)))

theorem filter_alone {pool image : String} (h : ∀ r ∈ rows, r.pool = pool → r.image = image) :
    rows.filter (fun r => decide (r.key = (pool, image))) =
      rows.filter fun r => decide (r.key.1 = pool) := by
  apply List.filter_congr
  intro r hr
  rw [decide_eq_decide, Prod.ext_iff]
  exact ⟨And.left, fun hpool => ⟨hpool, h r hr hpool⟩⟩

theorem poolSignal_congr {round : ℚ → ℚ} {cluster cluster' : List Metric} (pool : List Metric)
    (h : median round (cluster.map latency) = median round (cluster'.map latency)) :
    poolSignal round pool cluster = poolSignal round pool cluster' := by
  unfold poolSignal
  rw [h]

/-- **A narrower report says what the whole one says** exactly when every volume with enough
samples is the only one of its pool, and its latency is the median of the cluster. -/
theorem narrows_iff (round : ℚ → ℚ) (table : List Metric) (evidence : String × String → Evidence)
    (clusterId : String) (now windowStart : Int) :
    Narrows round table evidence clusterId now windowStart ↔
      let rows := rowsOf table ⟨clusterId, now, windowStart, none, none⟩
      ∀ pool image : String, 3 ≤ (history rows (pool, image)).length →
        (∀ r ∈ rows, r.pool = pool → r.image = image) ∧
          median round (((latestByKey rows).filter fun r => r.pool = pool).map latency) =
            median round ((latestByKey rows).map latency) := by
  unfold Narrows
  dsimp only
  refine forall₂_congr fun pool image => ?_
  generalize hrows : rowsOf table ⟨clusterId, now, windowStart, none, none⟩ = rows
  by_cases hcount : 3 ≤ (history rows (pool, image)).length
  · obtain ⟨r, hr⟩ := List.exists_mem_of_length_pos (Nat.lt_of_lt_of_le (by decide) hcount)
    have hkey : (r.pool, r.image) = (pool, image) := of_decide_eq_true (List.mem_filter.mp hr).2
    obtain ⟨rfl, rfl⟩ := Prod.mk.inj hkey
    have hpool := buildReport_narrow round table evidence clusterId now windowStart (some r.pool)
      none (r.pool, r.image) (fun k => decide (k.1 = r.pool)) (by simp)
      (fun k hk => of_decide_eq_true hk) fun s => by
        rw [restricts_some r.pool_ne]
        exact Bool.and_true _
    have himage := buildReport_narrow round table evidence clusterId now windowStart (some r.pool)
      (some r.image) (r.pool, r.image) (fun k => decide (k = (r.pool, r.image))) (by simp)
      (fun k hk => congrArg Prod.fst (of_decide_eq_true hk)) fun s => by
        rw [restricts_some r.pool_ne, restricts_some r.image_ne]
        simp [Metric.key]
    have hfilter : (latestByKey rows).filter (fun s => decide (s.pool = r.pool)) =
        latestByKey (rows.filter fun s => decide (s.key.1 = r.pool)) :=
      filter_latestByKey (fun k => decide (k.1 = r.pool)) rows
    have hwhole : buildReport round table evidence ⟨clusterId, now, windowStart, none, none⟩
        (r.pool, r.image) = some (volumeAnalysis round (history rows (r.pool, r.image))
          (latestByKey (rows.filter fun s => decide (s.key.1 = r.pool))) (latestByKey rows)
          (evidence (r.pool, r.image))) := by
      unfold buildReport
      dsimp only
      rw [hrows, if_pos hcount, hfilter]
    rw [hpool, himage, hwhole, hrows, hfilter]
    dsimp only
    rw [if_pos hcount, if_pos hcount]
    simp only [Option.isSome_some, forall_const, hcount, Option.some.injEq]
    constructor
    · rintro ⟨hmedian, hpeers⟩
      exact ⟨alone_of_length (congrArg (fun a => a.2.peerVolumes) hpeers),
        congrArg (fun a => a.2.clusterMedian) hmedian⟩
    · rintro ⟨halone, hmedian⟩
      rw [filter_alone halone]
      unfold volumeAnalysis
      rw [poolSignal_congr _ hmedian]
      exact ⟨rfl, rfl⟩
  · refine iff_of_true (fun h => ?_) fun h => absurd h hcount
    unfold buildReport at h
    dsimp only at h
    rw [hrows, if_neg hcount] at h
    cases h

/-- A row of one of two pools. -/
def sample (first : Bool) (image : Char) (polledAt : Int) (ms : ℚ) : Metric where
  clusterId := "c"
  pool := if first then "a" else "b"
  image := String.ofList [image]
  polledAt := polledAt
  readLatencyMs := some ms
  writeLatencyMs := none
  pool_ne := by cases first <;> decide
  image_ne := by simp [← String.toList_inj]

/-- The pool of two slow volumes is slower than the cluster, and not slower than itself. -/
def slowPool : List Metric :=
  [sample true 'x' 1 1, sample true 'x' 2 1, sample true 'x' 3 2, sample true 'y' 3 2,
    sample false 'z' 3 1, sample false 'w' 3 1]

theorem slowPool_narrowed : ¬Narrows id slowPool (fun _ => ⟨false, false, false⟩) "c" 3 0 := by
  intro h
  have hpool := (h "a" "x" (by decide +kernel)).1
  have hhypothesis := congrArg (Option.map Prod.fst) hpool
  revert hhypothesis
  decide +kernel

end CephAi.Ports.PerformanceCorrelation
