import CephAi.Verified.Runs
import CephAi.Verified.Windows
import Mathlib.Data.List.Sort
import Mathlib.Algebra.Order.SuccPred
import Mathlib.Data.Int.SuccPred

/-!
# The windows of Log Intelligence

`scan_and_store` of `watcher/log_intel.py`: which window a scan reads, which hosts it
asks, when it is OK, and the run that it stores.  The watermark is the newest end of an
OK run of the cluster and source, whatever that run asked, and the fallback window
bounds how far back any scan looks.

A scan is one step: scans of a cluster hold its lock.  What a log source returns is an
input of the scan.  `World.made` is for the statements: it keeps every scan, the
newest first.

## Main results

* `Scan.status_eq_ok_iff` — a scan of every host is OK when it read every log.
* `no_gap_iff` — runs leave no gap exactly when each complete scan reaches back to what
  is unread.
* `gap_after_targeted_scan` — a scan of one host that moves the watermark for the others.
-/

namespace CephAi.Ports.LogScans

open Verified.Runs Verified.Windows

/-! ## Hosts and logs -/

/-- `timedelta(minutes=n)`; instants are microseconds. -/
def minutes (n : Int) : Int := n * 60000000

inductive DaemonType
  | mon
  | mgr
  | osd
  | rgw
deriving DecidableEq, Repr

/-- The daemon types in the order of their names. -/
def DaemonType.sorted : List DaemonType := [.mgr, .mon, .osd, .rgw]

/-- A line of a log.  `template` is its normalized message. -/
structure LogRecord where
  ts : Option Int
  host : String
  daemonType : DaemonType
  template : String
deriving DecidableEq, Repr

structure LogSourceResult where
  records : List LogRecord
  error : Option String
deriving DecidableEq, Repr

/-- `result.error`, when it is not empty. -/
def LogSourceResult.failure (r : LogSourceResult) : Option String :=
  r.error.filter (· != "")

/-- The node lists of a cluster. -/
structure Nodes where
  mon : List String
  mgr : List String
  osd : List String
  rgw : List String
deriving DecidableEq, Repr

/-- The hosts of one role. -/
def Nodes.of (n : Nodes) : DaemonType → List String
  | .mon => n.mon
  | .mgr => n.mgr
  | .osd => n.osd
  | .rgw => n.rgw

/-- The host is configured to run such a daemon. -/
def Nodes.runs (n : Nodes) (host : String) (d : DaemonType) : Bool :=
  (n.of d).contains host

def hostsByDaemonType (n : Nodes) : List (String × List DaemonType) :=
  (n.mon ++ n.mgr ++ n.osd ++ n.rgw).eraseDups.map
    fun host => (host, DaemonType.sorted.filter (n.runs host))

/-! ## One scan -/

/-- What a scan is given: the settings, the cluster, the target, whether the watermark
can be read, and what the source returns for its window. -/
structure Scan where
  clusterId : String
  source : String
  windowMinutes : Int
  nodes : Nodes
  targetHost : Option String
  targetDaemonType : Option DaemonType
  watermarkReadable : Bool
  fetched : String → DaemonType → LogSourceResult

inductive LogIngestStatus
  | ok
  | partiallyOk
  | failed
deriving DecidableEq, Repr

/-- `get_log_source` knows the name. -/
def Scan.knownSource (s : Scan) : Bool := ["ssh", "loki", "elasticsearch"].contains s.source

/-- The source is a log store, which answers for hosts that send it nothing. -/
def Scan.fromStore (s : Scan) : Bool := ["loki", "elasticsearch"].contains s.source

/-- The label of a log store in the messages. -/
def Scan.sourceLabel (s : Scan) : String :=
  if s.source = "loki" then "Loki" else "Elasticsearch"

def Scan.targetedHosts (s : Scan) : List (String × List DaemonType) :=
  match s.targetHost with
  | none => hostsByDaemonType s.nodes
  | some host =>
    match ((hostsByDaemonType s.nodes).lookup host).getD [] with
    | [] => []
    | daemonTypes => [(host, daemonTypes)]

def Scan.hosts (s : Scan) : List (String × List DaemonType) :=
  match s.targetDaemonType with
  | none => s.targetedHosts
  | some d => (s.targetedHosts.filter fun p => p.2.contains d).map fun p => (p.1, [d])

/-- What one host's logs gave. -/
def Scan.results (s : Scan) (p : String × List DaemonType) : List LogSourceResult :=
  p.2.map (s.fetched p.1)

def Scan.hostErrors (s : Scan) (p : String × List DaemonType) : List String :=
  (s.results p).filterMap LogSourceResult.failure

/-- The lines of one host. -/
def Scan.hostRecords (s : Scan) (p : String × List DaemonType) : List LogRecord :=
  (s.results p).flatMap LogSourceResult.records

/-- A log store returned nothing for any daemon of the host. -/
def Scan.missing (s : Scan) (p : String × List DaemonType) : Bool :=
  s.fromStore && (s.hostRecords p).length == 0 && (s.hostErrors p).isEmpty

def Scan.hostHadError (s : Scan) (p : String × List DaemonType) : Bool :=
  !(s.hostErrors p).isEmpty || s.missing p

/-- The variables of the loop. -/
structure Tally where
  records : List LogRecord
  errors : List String
  hostsScanned : Nat
  hostsFailed : Nat
deriving DecidableEq, Repr

/-- The loop's body. -/
def Scan.scanHost (s : Scan) (t : Tally) (p : String × List DaemonType) : Tally where
  records := t.records ++ s.hostRecords p
  errors := t.errors ++ s.hostErrors p ++
    if s.missing p then
      [p.1 ++ ": " ++ s.sourceLabel ++
        " trả 0 dòng cho mọi daemon; kiểm tra shipper và label host"]
    else []
  hostsScanned := t.hostsScanned + 1
  hostsFailed := if s.hostHadError p then t.hostsFailed + 1 else t.hostsFailed

/-- `sorted(hosts.items())` -/
def Scan.sortedHosts (s : Scan) : List (String × List DaemonType) :=
  s.hosts.insertionSort fun p q => p.1 ≤ q.1

/-- The loop over the hosts. -/
def Scan.tally (s : Scan) : Tally :=
  s.sortedHosts.foldl s.scanHost ⟨[], [], 0, 0⟩

/-- `status` after the loop. -/
def Tally.status (t : Tally) : LogIngestStatus :=
  if t.hostsFailed = t.hostsScanned then .failed
  else if t.errors ≠ [] then .partiallyOk
  else .ok

/-- The status that is stored. -/
def Scan.status (s : Scan) : LogIngestStatus :=
  if s.knownSource = false then .failed
  else if s.hosts = [] then .failed
  else s.tally.status

/-- `errors` at the end. -/
def Scan.errors (s : Scan) : List String :=
  s.tally.errors ++
    if s.fromStore && s.tally.records.isEmpty then
      [s.sourceLabel ++ " trả 0 dòng log; kiểm tra label cluster/host/daemon_type và " ++
        "trạng thái log shipper"]
    else []

def Scan.errorMessage (s : Scan) : Option String :=
  if s.knownSource = false then
    some ("Nguồn log không hợp lệ: '" ++ s.source ++
      "' (chỉ hỗ trợ 'ssh', 'loki' hoặc 'elasticsearch')")
  else if s.hosts = [] then some "Chưa cấu hình node nào cho cụm này"
  else if s.errors = [] then none
  else some ("\n".intercalate (s.errors.take 20))

/-- No target: a scheduled scan. -/
def Scan.full (s : Scan) : Bool := s.targetHost.isNone && s.targetDaemonType.isNone

/-- The scan read this log: it asked for it, the source returned it without an error, and
the host is not one that sends a log store nothing. -/
def Scan.reads (s : Scan) (host : String) (d : DaemonType) : Bool :=
  s.knownSource && s.hosts.any fun p =>
    p.1 == host && p.2.contains d && (s.fetched host d).failure.isNone && !s.missing p

/-! ## The stored runs -/

/-- `log_ingest_runs` -/
structure Run where
  clusterId : String
  source : String
  windowStart : Int
  windowEnd : Int
  status : LogIngestStatus
  hostsScanned : Nat
  hostsFailed : Nat
  linesScanned : Nat
  errorMessage : Option String
deriving DecidableEq, Repr

/-- A scan that was made, and its window. -/
structure Made where
  scan : Scan
  windowStart : Int
  windowEnd : Int

/-- The clock, the stored runs, and the scans that were made. -/
structure World where
  now : Int
  runs : List Run
  made : List Made

def latestOk (runs : List Run) (clusterId source : String) : Option Int :=
  ((runs.filter fun r => r.clusterId == clusterId && r.source == source &&
    r.status == .ok).map Run.windowEnd).max?

/-- `latest_ok` as the scan sees it: an error leaves the fallback window. -/
def World.watermark (w : World) (s : Scan) : Option Int :=
  if s.watermarkReadable then latestOk w.runs s.clusterId s.source else none

def World.fallbackStart (w : World) (s : Scan) : Int :=
  w.now - minutes (max 1 s.windowMinutes)

def World.windowStart (w : World) (s : Scan) : Int :=
  match w.watermark s with
  | none => w.fallbackStart s
  | some latest => max (w.fallbackStart s) (latest - minutes 2)

/-- The row of `_store_run`; the early returns count nothing. -/
def World.runOf (w : World) (s : Scan) : Run where
  clusterId := s.clusterId
  source := s.source
  windowStart := w.windowStart s
  windowEnd := w.now
  status := s.status
  hostsScanned := if s.knownSource then s.tally.hostsScanned else 0
  hostsFailed := if s.knownSource then s.tally.hostsFailed else 0
  linesScanned := if s.knownSource then s.tally.records.length else 0
  errorMessage := s.errorMessage

/-- `scan_and_store`, with `log_intel_enabled` on. -/
def World.scanAndStore (w : World) (s : Scan) : World where
  now := w.now
  runs := w.runOf s :: w.runs
  made := ⟨s, w.windowStart s, w.now⟩ :: w.made

/-- A step: a scan, `prune_old_rows`, which leaves some of the runs, or time. -/
inductive Label
  | scan (s : Scan)
  | prune (kept : Run → Bool)
  | tick (microseconds : Nat)

def step (w : World) : Label → Option World
  | .scan s => some (w.scanAndStore s)
  | .prune kept => some { w with runs := w.runs.filter kept }
  | .tick microseconds => some { w with now := w.now + microseconds }

/-- Log Intelligence. -/
def logIntel : System World Label := ⟨step⟩

/-- No run is stored. -/
def emptyWorld : World := ⟨0, [], []⟩

/-! ## What the windows should cover -/

/-- The scans of the cluster, back to the first from which on the host has had the
daemon. -/
def World.since (w : World) (clusterId host : String) (d : DaemonType) : List Made :=
  (w.made.filter fun m => m.scan.clusterId == clusterId).takeWhile
    fun m => m.scan.nodes.runs host d

/-- The windows in which this log was read. -/
def World.windows (w : World) (clusterId host : String) (d : DaemonType) :
    List (Window Int) :=
  (w.made.filter fun m => m.scan.clusterId == clusterId && m.scan.reads host d).map
    fun m => ⟨m.windowStart, m.windowEnd⟩

/-- After an OK scan without a target, each log of the cluster has been read at every
instant between any scan since which its daemon is configured and this one. -/
def NoGap (_ : World) (l : Label) (w' : World) : Prop :=
  match l with
  | .scan s => s.full = true → s.status = .ok → ∀ host d, s.nodes.runs host d = true →
      ∀ first ∈ w'.since s.clusterId host d, ∀ t, first.windowEnd ≤ t → t ≤ w'.now →
        Covered (w'.windows s.clusterId host d) t
  | _ => True

/-- The first instant at which this log is unread, from the first scan since which the
daemon is configured. -/
def World.unreadFrom (w : World) (clusterId host : String) (d : DaemonType) : Int :=
  firstUncovered (((w.since clusterId host d).getLast?.map Made.windowEnd).getD w.now)
    (w.windows clusterId host d)

/-- A scan without a target that reads every log looks back to what is unread: each log is
unread for no longer than the fallback window, and no OK run ended more than two minutes
after the instant from which on it is unread. -/
def LooksBack (w : World) : Label → Prop
  | .scan s => s.full = true → s.knownSource = true → s.hosts ≠ [] →
      (∀ host d, s.nodes.runs host d = true → s.reads host d = true) →
      ∀ host d, s.nodes.runs host d = true →
        w.now - minutes (max 1 s.windowMinutes) ≤ w.unreadFrom s.clusterId host d ∧
        ∀ latest, w.watermark s = some latest →
          latest - minutes 2 ≤ w.unreadFrom s.clusterId host d
  | _ => True

/-! ## When a scan is OK -/

theorem Nodes.mem_of_runs {n : Nodes} {host : String} {d : DaemonType}
    (h : n.runs host d = true) : host ∈ n.mon ++ n.mgr ++ n.osd ++ n.rgw := by
  have hmem : host ∈ n.of d := by
    unfold Nodes.runs at h
    exact List.contains_iff_mem.mp h
  simp only [List.mem_append]
  cases d with
  | mon => exact Or.inl (Or.inl (Or.inl hmem))
  | mgr => exact Or.inl (Or.inl (Or.inr hmem))
  | osd => exact Or.inl (Or.inr hmem)
  | rgw => exact Or.inr hmem

theorem Nodes.exists_runs {n : Nodes} {host : String}
    (h : host ∈ n.mon ++ n.mgr ++ n.osd ++ n.rgw) : ∃ d, n.runs host d = true := by
  simp only [List.mem_append] at h
  rcases h with ((hmon | hmgr) | hosd) | hrgw
  · exact ⟨.mon, List.contains_iff_mem.mpr hmon⟩
  · exact ⟨.mgr, List.contains_iff_mem.mpr hmgr⟩
  · exact ⟨.osd, List.contains_iff_mem.mpr hosd⟩
  · exact ⟨.rgw, List.contains_iff_mem.mpr hrgw⟩

@[simp] theorem DaemonType.mem_sorted (d : DaemonType) : d ∈ DaemonType.sorted := by
  cases d <;> decide

theorem mem_hostsByDaemonType (n : Nodes) (p : String × List DaemonType) :
    p ∈ hostsByDaemonType n ↔
      (∃ d, n.runs p.1 d = true) ∧ p.2 = DaemonType.sorted.filter (n.runs p.1) := by
  unfold hostsByDaemonType
  rw [List.mem_map]
  constructor
  · rintro ⟨host, hhost, rfl⟩
    exact ⟨Nodes.exists_runs (List.mem_eraseDups.mp hhost), rfl⟩
  · rintro ⟨⟨d, hd⟩, hdaemons⟩
    exact ⟨p.1, List.mem_eraseDups.mpr (Nodes.mem_of_runs hd), Prod.ext rfl hdaemons.symm⟩

variable {s : Scan} {w : World}

theorem Scan.hosts_of_full (h : s.full = true) : s.hosts = hostsByDaemonType s.nodes := by
  unfold Scan.full at h
  rw [Bool.and_eq_true, Option.isNone_iff_eq_none, Option.isNone_iff_eq_none] at h
  unfold Scan.hosts Scan.targetedHosts
  rw [h.1, h.2]

section

variable (s : Scan)

theorem scanHosts_spec :
    ∀ (ps : List (String × List DaemonType)) (t : Tally),
      ((ps.foldl s.scanHost t).errors = [] ↔
        t.errors = [] ∧ ∀ p ∈ ps, s.hostHadError p = false) ∧
      (ps.foldl s.scanHost t).hostsScanned = t.hostsScanned + ps.length ∧
      (ps.foldl s.scanHost t).hostsFailed = t.hostsFailed + ps.countP s.hostHadError := by
  intro ps
  induction ps with
  | nil =>
    intro t
    simp
  | cons p ps ih =>
    intro t
    obtain ⟨herrors, hscanned, hfailed⟩ := ih (s.scanHost t p)
    have hone : (s.scanHost t p).errors = [] ↔ t.errors = [] ∧ s.hostHadError p = false := by
      unfold Scan.scanHost Scan.hostHadError
      cases s.missing p <;> simp
    rw [List.foldl_cons]
    refine ⟨?_, ?_, ?_⟩
    · rw [herrors, hone, List.forall_mem_cons, and_assoc]
    · rw [hscanned, List.length_cons]
      show t.hostsScanned + 1 + ps.length = t.hostsScanned + (ps.length + 1)
      omega
    · rw [hfailed, List.countP_cons]
      show (if s.hostHadError p then t.hostsFailed + 1 else t.hostsFailed) +
        ps.countP s.hostHadError = _
      split_ifs
      · omega
      · omega

theorem Scan.mem_sortedHosts (p : String × List DaemonType) :
    p ∈ s.sortedHosts ↔ p ∈ s.hosts :=
  (List.perm_insertionSort _ s.hosts).mem_iff

theorem Scan.status_ok_iff_hosts :
    s.status = .ok ↔ s.knownSource = true ∧ s.hosts ≠ [] ∧
      ∀ p ∈ s.hosts, s.hostHadError p = false := by
  obtain ⟨herrors, hscanned, hfailed⟩ := scanHosts_spec s s.sortedHosts ⟨[], [], 0, 0⟩
  have hsorted : (∀ p ∈ s.sortedHosts, s.hostHadError p = false) ↔
      ∀ p ∈ s.hosts, s.hostHadError p = false :=
    forall_congr' fun p => by rw [s.mem_sortedHosts]
  rw [hsorted] at herrors
  have hlength : s.sortedHosts.length = s.hosts.length :=
    (List.perm_insertionSort _ s.hosts).length_eq
  unfold Scan.status
  cases hknown : s.knownSource with
  | false => simp
  | true =>
    by_cases hhosts : s.hosts = []
    · simp [hhosts]
    · rw [if_neg (by simp), if_neg hhosts]
      have hpos : 0 < s.hosts.length := List.length_pos_iff.mpr hhosts
      unfold Tally.status Scan.tally
      constructor
      · intro hok
        split_ifs at hok with _ hnone
        exact ⟨rfl, hhosts, (herrors.mp (not_not.mp hnone)).2⟩
      · rintro ⟨_, _, hall⟩
        have hzero : s.sortedHosts.countP s.hostHadError = 0 := by
          rw [List.countP_eq_zero]
          intro p hp
          rw [hsorted.mpr hall p hp]
          exact Bool.false_ne_true
        rw [if_neg (by rw [hfailed, hscanned, hzero]; show ¬ 0 + 0 = 0 + _; omega),
          if_neg (not_not.mpr (herrors.mpr ⟨rfl, hall⟩))]

theorem Scan.hostErrors_eq_nil_iff (p : String × List DaemonType) :
    s.hostErrors p = [] ↔ ∀ d ∈ p.2, (s.fetched p.1 d).failure = none := by
  unfold Scan.hostErrors Scan.results
  rw [List.filterMap_eq_nil_iff, List.forall_mem_map]

theorem Scan.hostHadError_eq_false_iff (p : String × List DaemonType) :
    s.hostHadError p = false ↔
      (∀ d ∈ p.2, (s.fetched p.1 d).failure = none) ∧ s.missing p = false := by
  unfold Scan.hostHadError
  rw [Bool.or_eq_false_iff, Bool.not_eq_false', List.isEmpty_iff, s.hostErrors_eq_nil_iff]

theorem Scan.reads_iff (host : String) (d : DaemonType) :
    s.reads host d = true ↔ s.knownSource = true ∧
      ∃ p ∈ s.hosts, p.1 = host ∧ d ∈ p.2 ∧ (s.fetched host d).failure = none ∧
        s.missing p = false := by
  unfold Scan.reads
  simp only [Bool.and_eq_true, List.any_eq_true, beq_iff_eq, List.contains_iff_mem,
    Option.isNone_iff_eq_none, Bool.not_eq_true', and_assoc]

end

/-- **A scan without a target is OK exactly when it read the log of every daemon that is
configured.** -/
theorem Scan.status_eq_ok_iff (hfull : s.full = true) :
    s.status = .ok ↔ s.knownSource = true ∧ s.hosts ≠ [] ∧
      ∀ host d, s.nodes.runs host d = true → s.reads host d = true := by
  rw [s.status_ok_iff_hosts]
  have hhosts := Scan.hosts_of_full hfull
  refine and_congr_right fun hknown => and_congr_right fun _ => ?_
  constructor
  · intro hall host d hruns
    have hmem : (host, DaemonType.sorted.filter (s.nodes.runs host)) ∈ s.hosts := by
      rw [hhosts, mem_hostsByDaemonType]
      exact ⟨⟨d, hruns⟩, rfl⟩
    have hd : d ∈ DaemonType.sorted.filter (s.nodes.runs host) :=
      List.mem_filter.mpr ⟨d.mem_sorted, hruns⟩
    obtain ⟨herrors, hmissing⟩ := (s.hostHadError_eq_false_iff _).mp (hall _ hmem)
    exact (s.reads_iff host d).mpr ⟨hknown, _, hmem, rfl, hd, herrors d hd, hmissing⟩
  · intro hreads p hp
    have hp' := hp
    rw [hhosts, mem_hostsByDaemonType] at hp'
    obtain ⟨⟨d, hruns⟩, hdaemons⟩ := hp'
    rw [s.hostHadError_eq_false_iff]
    constructor
    · intro e he
      rw [hdaemons] at he
      obtain ⟨_, _, _, _, _, hnone, _⟩ :=
        (s.reads_iff p.1 e).mp (hreads p.1 e (List.mem_filter.mp he).2)
      exact hnone
    · obtain ⟨_, q, hq, hhost, _, _, hmissing⟩ := (s.reads_iff p.1 d).mp (hreads p.1 d hruns)
      rw [hhosts, mem_hostsByDaemonType] at hq
      have heq : q = p := Prod.ext hhost (by rw [hq.2, hdaemons, hhost])
      exact heq ▸ hmissing

theorem Scan.daemons_ne_nil {p : String × List DaemonType} (h : p ∈ s.hosts) : p.2 ≠ [] := by
  have htargeted : ∀ q ∈ s.targetedHosts, q.2 ≠ [] := by
    intro q hq
    unfold Scan.targetedHosts at hq
    cases hhost : s.targetHost with
    | none =>
      rw [hhost] at hq
      obtain ⟨⟨d, hruns⟩, hdaemons⟩ := (mem_hostsByDaemonType s.nodes q).mp hq
      rw [hdaemons]
      exact List.ne_nil_of_mem (List.mem_filter.mpr ⟨d.mem_sorted, hruns⟩)
    | some host =>
      rw [hhost] at hq
      dsimp only at hq
      split at hq
      · cases hq
      · rename_i daemonTypes hne
        rw [List.mem_singleton.mp hq]
        exact hne
  unfold Scan.hosts at h
  cases hdaemon : s.targetDaemonType with
  | none =>
    rw [hdaemon] at h
    exact htargeted p h
  | some d =>
    rw [hdaemon] at h
    obtain ⟨q, _, rfl⟩ := List.mem_map.mp h
    exact List.cons_ne_nil d []

/-- **A scan that is not FAILED read a log.** -/
theorem Scan.exists_reads (h : s.status ≠ .failed) : ∃ host d, s.reads host d = true := by
  obtain ⟨_, hscanned, hfailed⟩ := scanHosts_spec s s.sortedHosts ⟨[], [], 0, 0⟩
  unfold Scan.status at h
  split_ifs at h with hunknown hnobody
  · exact absurd rfl h
  · exact absurd rfl h
  · rw [Bool.not_eq_false] at hunknown
    -- otherwise every host failed
    by_contra hnone
    apply h
    unfold Tally.status Scan.tally
    rw [if_pos]
    rw [hfailed, hscanned]
    congr 1
    rw [List.countP_eq_length]
    intro p hp
    rw [s.mem_sortedHosts] at hp
    by_contra hread
    rw [Bool.not_eq_true, s.hostHadError_eq_false_iff] at hread
    obtain ⟨d, hd⟩ := List.exists_mem_of_ne_nil p.2 (Scan.daemons_ne_nil hp)
    exact hnone ⟨p.1, d,
      (s.reads_iff p.1 d).mpr ⟨hunknown, p, hp, rfl, hd, hread.1 d hd, hread.2⟩⟩

/-! ## The window of a scan -/

/-- No run and no scan ends in the future, and the scans are in order. -/
structure Sound (w : World) : Prop where
  runs : ∀ r ∈ w.runs, r.windowEnd ≤ w.now
  made : ∀ m ∈ w.made, m.windowEnd ≤ w.now
  ordered : w.made.Pairwise fun new old => old.windowEnd ≤ new.windowEnd

theorem World.fallbackStart_le_now (w : World) (s : Scan) : w.fallbackStart s ≤ w.now := by
  unfold World.fallbackStart minutes
  have hone : 1 ≤ max 1 s.windowMinutes := le_max_left 1 s.windowMinutes
  omega

theorem World.windowStart_le_iff (w : World) (s : Scan) (t : Int) :
    w.windowStart s ≤ t ↔
      w.fallbackStart s ≤ t ∧ ∀ latest, w.watermark s = some latest → latest - minutes 2 ≤ t := by
  unfold World.windowStart
  cases w.watermark s with
  | none | some => simp

section

variable (h : Sound w)
include h

theorem Sound.watermark_le {latest : Int} (hlatest : w.watermark s = some latest) :
    latest ≤ w.now := by
  unfold World.watermark at hlatest
  split_ifs at hlatest
  obtain ⟨r, hr, rfl⟩ := List.mem_map.mp (List.max?_mem hlatest)
  exact h.runs r (List.mem_filter.mp hr).1

theorem Sound.windowStart_le_now (s : Scan) : w.windowStart s ≤ w.now := by
  rw [w.windowStart_le_iff]
  refine ⟨w.fallbackStart_le_now s, ?_⟩
  intro latest hlatest
  have hle := h.watermark_le hlatest
  unfold minutes
  omega

section

variable (clusterId host : String)

theorem Sound.ordered_windows (d : DaemonType) : Ordered (w.windows clusterId host d) := by
  unfold Ordered World.windows
  rw [List.pairwise_map]
  exact h.ordered.filter _

theorem Sound.ordered_since (d : DaemonType) :
    (w.since clusterId host d).Pairwise fun new old => old.windowEnd ≤ new.windowEnd :=
  (h.ordered.filter _).sublist (List.takeWhile_sublist _)

theorem Sound.since_le (d : DaemonType) : ∀ m ∈ w.since clusterId host d, m.windowEnd ≤ w.now := by
  intro m hm
  exact h.made m (List.mem_filter.mp ((List.takeWhile_sublist _).subset hm)).1

end

theorem sound_step {w' : World} (l : Label) (hstep : step w l = some w') : Sound w' := by
  cases l with
  | scan s =>
    rw [step, Option.some.injEq] at hstep
    subst hstep
    constructor
    · intro r hr
      rcases List.mem_cons.mp hr with rfl | hold
      · exact le_refl w.now
      · exact h.runs r hold
    · intro m hm
      rcases List.mem_cons.mp hm with rfl | hold
      · exact le_refl w.now
      · exact h.made m hold
    · exact List.pairwise_cons.mpr ⟨h.made, h.ordered⟩
  | prune kept =>
    rw [step, Option.some.injEq] at hstep
    subst hstep
    exact ⟨fun r hr => h.runs r (List.mem_filter.mp hr).1, h.made, h.ordered⟩
  | tick microseconds =>
    rw [step, Option.some.injEq] at hstep
    subst hstep
    have hlater : w.now ≤ w.now + microseconds := by omega
    exact ⟨fun r hr => le_trans (h.runs r hr) hlater,
      fun m hm => le_trans (h.made m hm) hlater, h.ordered⟩

end

/-! ## One complete scan -/

theorem forall_first_iff {made : List Made} {now : Int} {covered : Int → Prop}
    (hordered : made.Pairwise fun new old => old.windowEnd ≤ new.windowEnd)
    (hnow : ∀ m ∈ made, m.windowEnd ≤ now) (hcovered : covered now) :
    (∀ first ∈ made, ∀ t, first.windowEnd ≤ t → t ≤ now → covered t) ↔
      ∀ t, ((made.getLast?.map Made.windowEnd).getD now) ≤ t → t ≤ now → covered t := by
  cases hlast : made.getLast? with
  | none =>
    rw [List.getLast?_eq_none_iff] at hlast
    subst hlast
    constructor
    · intro _ t hstart hend
      have heq : t = now := le_antisymm hend hstart
      exact heq ▸ hcovered
    · intro _ first hfirst
      cases hfirst
  | some oldest =>
    obtain ⟨newer, rfl⟩ := List.getLast?_eq_some_iff.mp hlast
    constructor
    · intro h t hstart hend
      exact h oldest (List.mem_append_right _ List.mem_cons_self) t hstart hend
    · intro h first hfirst t hstart hend
      refine h t (le_trans ?_ hstart) hend
      rcases List.mem_append.mp hfirst with hnewer | hsame
      · exact (List.pairwise_append.mp hordered).2.2 first hnewer oldest List.mem_cons_self
      · rw [List.mem_singleton.mp hsame]
        exact le_refl _

/-- **A scan that reads every log leaves no gap exactly when it looks back to what is
unread.** -/
theorem noGap_scan_iff (h : Sound w) (s : Scan) :
    NoGap w (.scan s) (w.scanAndStore s) ↔ LooksBack w (.scan s) := by
  have hsound : Sound (w.scanAndStore s) := sound_step h (.scan s) rfl
  unfold NoGap LooksBack
  dsimp only
  refine forall_congr' fun hfull => ?_
  rw [Scan.status_eq_ok_iff hfull]
  simp only [and_imp]
  refine forall_congr' fun hknown => forall_congr' fun hhosts => forall_congr' fun hreads =>
    forall_congr' fun host => forall_congr' fun d => forall_congr' fun hruns => ?_
  -- this scan adds its own window and itself
  have hwindows : (w.scanAndStore s).windows s.clusterId host d =
      ⟨w.windowStart s, w.now⟩ :: w.windows s.clusterId host d := by
    unfold World.windows World.scanAndStore
    rw [List.filter_cons_of_pos (by simp [hreads host d hruns]), List.map_cons]
  have hsince : (w.scanAndStore s).since s.clusterId host d =
      ⟨s, w.windowStart s, w.now⟩ :: w.since s.clusterId host d := by
    unfold World.since World.scanAndStore
    rw [List.filter_cons_of_pos (by simp), List.takeWhile_cons_of_pos (by simp [hruns])]
  have hle : w.windowStart s ≤ w.now := h.windowStart_le_now s
  have hcovered : Covered (⟨w.windowStart s, w.now⟩ :: w.windows s.clusterId host d) w.now := by
    rw [covered_cons]
    exact Or.inl ⟨hle, le_refl w.now⟩
  have hlast : ((w.scanAndStore s).since s.clusterId host d).getLast?.map Made.windowEnd =
      some (((w.since s.clusterId host d).getLast?.map Made.windowEnd).getD w.now) := by
    rw [hsince, List.getLast?_cons]
    cases (w.since s.clusterId host d).getLast? <;> rfl
  rw [forall_first_iff (hsound.ordered_since _ _ _) (hsound.since_le _ _ _) (hwindows ▸ hcovered),
    hlast, hwindows, Option.getD_some]
  have hlooks : (w.now - minutes (max 1 s.windowMinutes) ≤ w.unreadFrom s.clusterId host d ∧
      ∀ latest, w.watermark s = some latest →
        latest - minutes 2 ≤ w.unreadFrom s.clusterId host d) ↔
      w.windowStart s ≤ w.unreadFrom s.clusterId host d :=
    (w.windowStart_le_iff s _).symm
  rw [hlooks, World.unreadFrom, ← covered_before_iff _ _ _ (h.ordered_windows _ _ _)]
  constructor
  · intro hall t hstart ht
    exact (hall t hstart (le_trans (le_of_lt ht) hle)).of_cons_of_lt ht
  · intro hbefore t hstart hend
    rw [covered_cons]
    rcases lt_or_ge t (w.windowStart s) with hold | hnew
    · exact Or.inr (hbefore t hstart hold)
    · exact Or.inl ⟨hnew, hend⟩

/-! ## Every run -/

/-- Every step is enabled. -/
theorem run_isSome (labels : List Label) : ∀ w : World, ∃ w', logIntel.run w labels = some w' := by
  induction labels with
  | nil => exact fun w => ⟨w, rfl⟩
  | cons l labels ih =>
    intro w
    cases l with
    | scan s => exact ih (w.scanAndStore s)
    | prune kept => exact ih { w with runs := w.runs.filter kept }
    | tick microseconds => exact ih { w with now := w.now + microseconds }

theorem sound_emptyWorld : Sound emptyWorld where
  runs := by
    intro r hr
    cases hr
  made := by
    intro m hm
    cases hm
  ordered := List.Pairwise.nil

/-- **A run leaves no gap exactly when each of its complete scans looks back to what is
unread.** -/
theorem no_gap_iff (labels : List Label) :
    logIntel.Always NoGap emptyWorld labels ↔ logIntel.Meets LooksBack emptyWorld labels := by
  obtain ⟨w', hrun⟩ := run_isSome labels emptyWorld
  apply logIntel.always_iff_meets_of NoGap LooksBack Sound _ labels emptyWorld w'
    sound_emptyWorld hrun
  intro w l w' hw hstep
  refine ⟨?_, fun _ => sound_step hw l hstep⟩
  cases l with
  | scan s =>
    have hw' : w.scanAndStore s = w' := Option.some.inj hstep
    rw [← hw']
    exact noGap_scan_iff hw s
  | prune | tick => exact Iff.rfl

/-- A scan of two hosts over SSH, every log of which can be read. -/
def scanOf (targetHost : Option String) (targetDaemonType : Option DaemonType) : Scan where
  clusterId := "c1"
  source := "ssh"
  windowMinutes := 60
  nodes := ⟨[], [], ["ceph1", "ceph2"], ["ceph1"]⟩
  targetHost := targetHost
  targetDaemonType := targetDaemonType
  watermarkReadable := true
  fetched := fun _ _ => ⟨[], none⟩

/-- The RGW log of one host is scanned five minutes after a scheduled scan. -/
def targetedRun : List Label :=
  [.scan (scanOf none none), .tick 300000000, .scan (scanOf (some "ceph1") (some .rgw)),
    .tick 600000000]

/-- The next scheduled scan is OK and begins two minutes before the targeted one: the OSD
log of the other host is not read for the three minutes after the first scan. -/
theorem gap_after_targeted_scan :
    ¬ logIntel.Always NoGap emptyWorld (targetedRun ++ [.scan (scanOf none none)]) := by
  intro h
  obtain ⟨w, hrun⟩ := run_isSome targetedRun emptyWorld
  have hscan := h.step_after rfl targetedRun emptyWorld hrun
  have hw : w = ((logIntel.run emptyWorld targetedRun).getD emptyWorld) := by
    rw [hrun]
    rfl
  have hsince : (⟨scanOf none none, -3600000000, 0⟩ : Made) ∈
      (w.scanAndStore (scanOf none none)).since "c1" "ceph2" .osd := by
    rw [hw]
    exact List.mem_cons_of_mem _ (List.mem_cons_of_mem _ List.mem_cons_self)
  have hwindows : (w.scanAndStore (scanOf none none)).windows "c1" "ceph2" .osd =
      [⟨180000000, 900000000⟩, ⟨-3600000000, 0⟩] := by
    rw [hw]
    rfl
  have hnow : (w.scanAndStore (scanOf none none)).now = 900000000 := by
    rw [hw]
    rfl
  have hcovered := hscan rfl (by decide) "ceph2" .osd (by decide) _ hsince 60000000
    (by decide) (by rw [hnow]; decide)
  rw [show (scanOf none none).clusterId = "c1" from rfl, hwindows] at hcovered
  rcases (covered_cons _ _ _).mp hcovered with ⟨hstart, _⟩ | hfirst
  · exact absurd hstart (by decide)
  · rcases (covered_cons _ _ _).mp hfirst with ⟨_, hend⟩ | hnone
    · exact absurd hend (by decide)
    · exact not_covered_nil _ hnone

end CephAi.Ports.LogScans
