import Mathlib.Algebra.Order.Ring.Rat
import Mathlib.Data.List.Dedup
import Mathlib.Data.List.Sort

/-!
# CPU and memory samples from the log store

`fetch_samples` and `fetch_latest_metrics` of `watcher/node_resource_forecast.py`, and the series
that `adaptive_forecast` takes from them.  A query over the history answers with the earliest
entries of the range, of which there are as many as its limit; times are exact, in nanoseconds.

## Main results

* `last_fetchSamples` — the last sample of an answer.
* `recent_iff` — when that is the newest sample of the host.
* `reached_of_few` — as long as the history holds no more entries than the limit.
-/

namespace CephAi.Ports.ResourceSamples

/-- An entry of the log; it belongs to a stream. -/
structure Entry where
  stream : Nat
  stamp : Int
  line : String
deriving DecidableEq, Repr

structure Sample where
  stamp : Int
  cpu : ℚ
  mem : ℚ
deriving DecidableEq, Repr

/-- What a line holds, where it can be read: finite numbers for the CPU and the memory. -/
abbrev Parse := String → Option (ℚ × ℚ)

def readSample (parse : Parse) (e : Entry) : Option Sample :=
  (parse e.line).bind fun v =>
    if (0 ≤ v.1 ∧ v.1 ≤ 100) ∧ 0 ≤ v.2 ∧ v.2 ≤ 100 then some ⟨e.stamp, v.1, v.2⟩ else none

/-- The last sample of a stamp: `rows[ts_int]`. -/
def rowAt (samples : List Sample) (stamp : Int) : Option Sample :=
  (samples.filter fun s => s.stamp = stamp).getLast?

/-- `[rows[key] for key in sorted(rows)]` -/
def rowsOf (samples : List Sample) : List Sample :=
  ((samples.map Sample.stamp).dedup.insertionSort (· ≤ ·)).filterMap (rowAt samples)

/-- The limit of a query. -/
def limit : Nat := 5000

/-- The entries of a range that an answer holds; the log is in the order of its stamps. -/
def earliest (log : List Entry) (start stop : Int) : List Entry :=
  (log.filter fun e => start ≤ e.stamp ∧ e.stamp ≤ stop).take limit

/-- `query_range`, forward: the entries by their streams. -/
def queryRange (log : List Entry) (start stop : Int) : List Entry :=
  let entries := earliest log start stop
  (entries.map Entry.stream).dedup.flatMap fun stream => entries.filter fun e => e.stream = stream

def historyStart (historyDays now : Int) : Int := now - max 1 historyDays * (24 * 3600 * 10 ^ 9)

def fetchSamples (parse : Parse) (log : List Entry) (historyDays now : Int) : List Sample :=
  rowsOf ((queryRange log (historyStart historyDays now) now).filterMap (readSample parse))

inductive LokiError
  | noSamples
  | future
  | stale
deriving DecidableEq, Repr

def fetchLatestMetrics (parse : Parse) (log : List Entry) (historyDays allowedAge now : Int) :
    Except LokiError Sample :=
  match (fetchSamples parse log historyDays now).getLast? with
  | none => .error .noSamples
  | some s =>
    if now - s.stamp < -300 * 10 ^ 9 then .error .future
    else if allowedAge < now - s.stamp then .error .stale
    else .ok s

/-- The series of `adaptive_forecast` for a metric. -/
def points (parse : Parse) (log : List Entry) (historyDays now : Int) (metric : Sample → ℚ) :
    List (Int × ℚ) :=
  (fetchSamples parse log historyDays now).map fun s => (s.stamp, metric s)

/-- A sample of the log between two times, and no later one there. -/
structure Newest (parse : Parse) (log : List Entry) (range : Int → Prop) (s : Sample) : Prop where
  mem : ∃ e ∈ log, readSample parse e = some s
  inRange : range s.stamp
  newest : ∀ e ∈ log, ∀ t, readSample parse e = some t → range t.stamp → t.stamp ≤ s.stamp

/-- The samples reach to the newest of the history, and to the newest of all where it is young
enough. -/
structure Recent (parse : Parse) (log : List Entry) (historyDays allowedAge now : Int) : Prop where
  history : ∀ s, Newest parse log (fun t => historyStart historyDays now ≤ t ∧ t ≤ now) s →
    ∃ t, (fetchSamples parse log historyDays now).getLast? = some t ∧ t.stamp = s.stamp
  fresh : ∀ s, Newest parse log (· ≤ now) s → now - s.stamp ≤ allowedAge →
    ∃ t, Newest parse log (· ≤ now) t ∧
      fetchLatestMetrics parse log historyDays allowedAge now = .ok t ∧
        ∀ metric, (points parse log historyDays now metric).getLast? = some (t.stamp, metric t)

variable {parse : Parse} {log : List Entry} {historyDays allowedAge now start stop : Int}
    {s t : Sample} {rows : List Sample}

/-! ## The last sample -/

theorem rowAt_eq_some {samples : List Sample} {stamp : Int} (h : rowAt samples stamp = some s) :
    s ∈ samples ∧ s.stamp = stamp := by
  obtain ⟨hs, hstamp⟩ := List.mem_filter.mp (List.mem_of_getLast? h)
  exact ⟨hs, of_decide_eq_true hstamp⟩

theorem exists_row {samples : List Sample} (hs : s ∈ samples) :
    ∃ r ∈ rowsOf samples, r.stamp = s.stamp := by
  have hne : samples.filter (fun t => t.stamp = s.stamp) ≠ [] :=
    List.ne_nil_of_mem (List.mem_filter.mpr ⟨hs, decide_eq_true rfl⟩)
  have hrow : rowAt samples s.stamp = some _ := List.getLast?_eq_some_getLast hne
  refine ⟨_, List.mem_filterMap.mpr ⟨s.stamp, ?_, hrow⟩, (rowAt_eq_some hrow).2⟩
  rw [List.mem_insertionSort, List.mem_dedup]
  exact List.mem_map_of_mem hs

theorem rowsOf_ordered (samples : List Sample) :
    (rowsOf samples).Pairwise fun r r' => r.stamp ≤ r'.stamp := by
  unfold rowsOf
  rw [List.pairwise_filterMap]
  refine (List.pairwise_insertionSort (· ≤ ·) _).imp fun hle r hr r' hr' => ?_
  rw [(rowAt_eq_some hr).2, (rowAt_eq_some hr').2]
  exact hle

variable {e : Entry}

theorem mem_queryRange : e ∈ queryRange log start stop ↔ e ∈ earliest log start stop := by
  simp only [queryRange, List.mem_flatMap, List.mem_dedup, List.mem_map, List.mem_filter,
    decide_eq_true_eq]
  exact ⟨fun ⟨_, _, he, _⟩ => he, fun he => ⟨e.stream, ⟨e, he, rfl⟩, he, rfl⟩⟩

/-- **The last sample of an answer** is the newest that the answer holds. -/
theorem last_fetchSamples (parse : Parse) (log : List Entry) (historyDays now : Int) :
    (fetchSamples parse log historyDays now).getLast? = none ∧
        (∀ e ∈ earliest log (historyStart historyDays now) now, readSample parse e = none) ∨
      ∃ s, (fetchSamples parse log historyDays now).getLast? = some s ∧
        Newest parse (earliest log (historyStart historyDays now) now) (fun _ => True) s := by
  have hmem : ∀ s, s ∈ (queryRange log (historyStart historyDays now) now).filterMap
      (readSample parse) ↔
        ∃ e ∈ earliest log (historyStart historyDays now) now, readSample parse e = some s := by
    intro s
    simp only [List.mem_filterMap, mem_queryRange]
  unfold fetchSamples
  generalize (queryRange log (historyStart historyDays now) now).filterMap (readSample parse) =
    samples at hmem
  obtain hnil | ⟨init, s, hrows⟩ := List.eq_nil_or_concat (rowsOf samples)
  · refine .inl ⟨by rw [hnil]; rfl, fun e he => ?_⟩
    rw [Option.eq_none_iff_forall_ne_some]
    intro s hs
    obtain ⟨r, hr, -⟩ := exists_row ((hmem s).mpr ⟨e, he, hs⟩)
    rw [hnil] at hr
    cases hr
  · right
    rw [List.concat_eq_append] at hrows
    have hordered := rowsOf_ordered samples
    have hlast : s ∈ rowsOf samples := by simp [hrows]
    obtain ⟨stamp, -, hrow⟩ := List.mem_filterMap.mp hlast
    refine ⟨s, by rw [hrows, List.getLast?_concat], (hmem s).mp (rowAt_eq_some hrow).1,
      True.intro, ?_⟩
    intro e he t ht _
    obtain ⟨r, hr, hstamp⟩ := exists_row ((hmem t).mpr ⟨e, he, ht⟩)
    rw [hrows] at hr hordered
    rw [← hstamp]
    rcases List.mem_append.mp hr with hr | hr
    · exact (List.pairwise_append.mp hordered).2.2 r hr s List.mem_cons_self
    · rw [List.mem_singleton.mp hr]

/-! ## The newest sample -/

/-- The answer reaches the newest sample of the history, which holds the newest of all where that
is young enough. -/
structure Reached (parse : Parse) (log : List Entry) (historyDays allowedAge now : Int) :
    Prop where
  history : ∀ s, Newest parse log (fun t => historyStart historyDays now ≤ t ∧ t ≤ now) s →
    ∃ e ∈ earliest log (historyStart historyDays now) now, ∃ t, readSample parse e = some t ∧
      t.stamp = s.stamp
  fresh : ∀ s, Newest parse log (· ≤ now) s → now - s.stamp ≤ allowedAge →
    historyStart historyDays now ≤ s.stamp

theorem mem_earliest (h : e ∈ earliest log start stop) :
    e ∈ log ∧ start ≤ e.stamp ∧ e.stamp ≤ stop := by
  obtain ⟨he, hrange⟩ := List.mem_filter.mp (List.mem_of_mem_take h)
  exact ⟨he, of_decide_eq_true hrange⟩

theorem readSample_stamp (h : readSample parse e = some s) : s.stamp = e.stamp := by
  obtain ⟨v, -, hv⟩ := Option.bind_eq_some_iff.mp h
  split at hv
  · cases hv
    rfl
  · cases hv

theorem last_mem (h : (fetchSamples parse log historyDays now).getLast? = some s) :
    ∃ e ∈ earliest log (historyStart historyDays now) now, readSample parse e = some s := by
  rcases last_fetchSamples parse log historyDays now with ⟨hnone, -⟩ | ⟨t, ht, hnewest⟩
  · rw [hnone] at h
    cases h
  · rw [ht] at h
    cases h
    exact hnewest.mem

/-- **The samples reach to the newest one** exactly when the limit of the query does, and the
history goes as far back as a sample may be old. -/
theorem recent_iff (parse : Parse) (log : List Entry) (historyDays allowedAge now : Int) :
    Recent parse log historyDays allowedAge now ↔ Reached parse log historyDays allowedAge now := by
  constructor
  · intro h
    refine ⟨fun s hs => ?_, fun s hs hyoung => ?_⟩
    · obtain ⟨t, ht, hstamp⟩ := h.history s hs
      obtain ⟨e, he, hread⟩ := last_mem ht
      exact ⟨e, he, t, hread, hstamp⟩
    · obtain ⟨t, htnewest, ht, -⟩ := h.fresh s hs hyoung
      unfold fetchLatestMetrics at ht
      split at ht
      · cases ht
      · rename_i hl
        split_ifs at ht
        cases ht
        obtain ⟨e, he, hread⟩ := last_mem hl
        obtain ⟨hlog, hstart, -⟩ := mem_earliest he
        rw [← readSample_stamp hread] at hstart
        exact hstart.trans (hs.newest e hlog t hread htnewest.inRange)
  · intro h
    have hlast : ∀ s, Newest parse log (fun t => historyStart historyDays now ≤ t ∧ t ≤ now) s →
        ∃ t, (fetchSamples parse log historyDays now).getLast? = some t ∧ t.stamp = s.stamp := by
      intro s hs
      obtain ⟨e, he, t, hread, hstamp⟩ := h.history s hs
      rcases last_fetchSamples parse log historyDays now with ⟨-, hnone⟩ | ⟨l, hl, hnewest⟩
      · rw [hnone e he] at hread
        cases hread
      · obtain ⟨e', he', hread'⟩ := hnewest.mem
        obtain ⟨hlog, hrange⟩ := mem_earliest he'
        rw [← readSample_stamp hread'] at hrange
        have hle := hs.newest e' hlog l hread' hrange
        have hge := hnewest.newest e he t hread True.intro
        exact ⟨l, hl, by omega⟩
    refine ⟨hlast, fun s hs hyoung => ?_⟩
    have hstart := h.fresh s hs hyoung
    obtain ⟨l, hl, hstamp⟩ := hlast s ⟨hs.mem, ⟨hstart, hs.inRange⟩,
      fun e he t ht hrange => hs.newest e he t ht hrange.2⟩
    obtain ⟨e, he, hread⟩ := last_mem hl
    have hnow := hs.inRange
    refine ⟨l, ⟨⟨e, (mem_earliest he).1, hread⟩, by omega, ?_⟩, ?_, fun metric => ?_⟩
    · intro e he t ht hrange
      exact (hs.newest e he t ht hrange).trans_eq hstamp.symm
    · unfold fetchLatestMetrics
      rw [hl]
      dsimp only
      rw [if_neg (by omega), if_neg (by omega)]
    · rw [points, List.getLast?_map, hl]
      rfl

/-- **A history within the limit** is read to its end. -/
theorem reached_of_few
    (hfew : (log.filter fun e => historyStart historyDays now ≤ e.stamp ∧ e.stamp ≤ now).length ≤
      limit) (hs : Newest parse log (fun t => historyStart historyDays now ≤ t ∧ t ≤ now) s) :
    ∃ e ∈ earliest log (historyStart historyDays now) now, ∃ t, readSample parse e = some t ∧
      t.stamp = s.stamp := by
  obtain ⟨e, he, hread⟩ := hs.mem
  have hrange := hs.inRange
  rw [readSample_stamp hread] at hrange
  refine ⟨e, ?_, s, hread, rfl⟩
  unfold earliest
  rw [List.take_of_length_le hfew]
  exact List.mem_filter.mpr ⟨he, decide_eq_true hrange⟩

def everySecond : List Entry := (List.range (limit + 1)).map fun i => ⟨0, Int.ofNat i, "{}"⟩

/-- The newest one is missing. -/
theorem newest_missing : ¬Recent (fun _ => some (0, 0)) everySecond 7 120 limit := by
  intro h
  have hnewest : Newest (fun _ => some (0, 0)) everySecond
      (fun t => historyStart 7 limit ≤ t ∧ t ≤ limit) ⟨limit, 0, 0⟩ := by
    refine ⟨⟨⟨0, limit, "{}"⟩, ?_, rfl⟩, ⟨by simp [historyStart, limit], le_rfl⟩,
      fun _ _ _ _ hrange => hrange.2⟩
    exact List.mem_map.mpr ⟨limit, List.mem_range.mpr (Nat.lt_succ_self limit), rfl⟩
  obtain ⟨t, ht, hstamp⟩ := h.history _ hnewest
  obtain ⟨e, he, hread⟩ := last_mem ht
  have hall : ∀ e ∈ everySecond, historyStart 7 limit ≤ e.stamp ∧ e.stamp ≤ limit := by
    intro e he
    obtain ⟨i, hi, rfl⟩ := List.mem_map.mp he
    have hi := List.mem_range.mp hi
    have hstart : historyStart 7 limit ≤ 0 := by simp [historyStart, limit]
    exact ⟨hstart.trans (Int.natCast_nonneg i), Int.ofNat_le.mpr (Nat.le_of_lt_succ hi)⟩
  unfold earliest at he
  rw [List.filter_eq_self.mpr fun e he => decide_eq_true (hall e he), everySecond, ← List.map_take,
    List.take_range] at he
  obtain ⟨i, hi, rfl⟩ := List.mem_map.mp he
  have hi := List.mem_range.mp hi
  have hi' : t.stamp = i := readSample_stamp hread
  dsimp only at hstamp
  omega

end CephAi.Ports.ResourceSamples
