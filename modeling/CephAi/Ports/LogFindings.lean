import CephAi.Verified.Upsert
import CephAi.Ports.LogScans

/-!
# Closing log findings

`_persist_patterns` of `watcher/log_intel.py`, which keeps when each pattern was last
seen, and `resolve_stale_findings` of `watcher/log_analysis.py`, which closes the
findings whose patterns were last seen before the window of the scan.  It runs after
every scan that is not FAILED, whatever the scan asked.  A finding on RGW patterns about
Vault or the default key is closed by a live verification instead, also while its
patterns are still in the window.

What the analysis does to the findings, and what a live verification finds, are inputs.
`World.sightings` is for the statements: it keeps every line that any scan has seen.

## Main results

* `lastSeen_of_sighting` — no pattern was seen after its `last_seen_at`.
* `closed_soundly` — what every closing rests on.
* `closed_without_evidence` — a finding closed by a scan that did not ask its host, and
  one closed while its pattern is seen.
-/

namespace CephAi.Ports.LogFindings

open Verified Verified.Runs Verified.Upsert
open LogScans

/-! ## Patterns -/

/-- `fingerprint_of`: the digest of a template and a daemon type. -/
structure Fingerprint where
  template : String
  daemonType : DaemonType
deriving DecidableEq, Repr

/-- An entry of `aggregated`. -/
structure Entry where
  fingerprint : Fingerprint
  host : String
  firstTs : Int
  lastTs : Int
deriving DecidableEq, Repr

structure LogPattern where
  id : Nat
  clusterId : String
  fingerprint : Fingerprint
  daemonType : DaemonType
  firstSeenAt : Int
  lastSeenAt : Int
deriving DecidableEq, Repr

/-- The fingerprint of a line. -/
def fingerprintOf (r : LogRecord) : Fingerprint := ⟨r.template, r.daemonType⟩

def timeOf (fallback : Int) (r : LogRecord) : Int := r.ts.getD fallback

/-- How a line goes into `aggregated`. -/
def entryMerge (fallback : Int) : Merge Entry LogRecord (Fingerprint × String) Int where
  key e := (e.fingerprint, e.host)
  entryKey r := (fingerprintOf r, r.host)
  value := Entry.lastTs
  entryValue := timeOf fallback
  make _ r := ⟨fingerprintOf r, r.host, timeOf fallback r, timeOf fallback r⟩
  merge e r := { e with
    firstTs := min e.firstTs (timeOf fallback r)
    lastTs := max e.lastTs (timeOf fallback r) }
  key_make _ _ := rfl
  key_merge _ _ := rfl
  value_make _ _ := le_refl _
  value_merge _ _ := le_max_left _ _
  entryValue_merge _ _ := le_max_right _ _

/-- How an entry goes into `log_patterns`. -/
def patternMerge (clusterId : String) :
    Merge LogPattern Entry (String × Fingerprint) Int where
  key p := (p.clusterId, p.fingerprint)
  entryKey e := (clusterId, e.fingerprint)
  value := LogPattern.lastSeenAt
  entryValue := Entry.lastTs
  make rows e := ⟨rows.length, clusterId, e.fingerprint, e.fingerprint.daemonType,
    e.firstTs, e.lastTs⟩
  merge p e := { p with
    lastSeenAt := max p.lastSeenAt e.lastTs
    firstSeenAt := min p.firstSeenAt e.firstTs }
  key_make _ _ := rfl
  key_merge _ _ := rfl
  value_make _ _ := le_refl _
  value_merge _ _ := le_max_left _ _
  entryValue_merge _ _ := le_max_right _ _

/-- The lines that have a template. -/
def kept (records : List LogRecord) : List LogRecord :=
  records.filter fun r => r.template != ""

def persistPatterns (records : List LogRecord) (clusterId : String) (fallback : Int)
    (patterns : List LogPattern) : List LogPattern :=
  upsertAll (patternMerge clusterId) patterns
    (upsertAll (entryMerge fallback) [] (kept records))

/-! ## Findings -/

inductive LogFindingStatus
  | opened
  | acknowledged
  | resolved
deriving DecidableEq, Repr

/-- `log_findings`.  `evidence` is what `evidence_pattern_ids_json` decodes into. -/
structure LogFinding where
  id : Nat
  clusterId : String
  status : LogFindingStatus
  evidence : List Nat
deriving DecidableEq, Repr

/-- A scan, what the analysis makes of the findings after it, and what
`resolve_stale_findings` meets. -/
structure Pass where
  scan : Scan
  analyzed : List LogFinding → List LogFinding
  needsGate : LogFinding → Bool
  clusterFound : Bool
  recovered : LogFinding → Bool
  fails : Bool

/-- `patterns`: the rows that the finding cites. -/
def cited (patterns : List LogPattern) (f : LogFinding) : List LogPattern :=
  patterns.filter fun p => f.evidence.contains p.id

def stillActive (patterns : List LogPattern) (windowStart : Int) (f : LogFinding) : Bool :=
  (cited patterns f).any fun p => windowStart ≤ p.lastSeenAt

/-- The live verification decides about this finding. -/
def Pass.gates (p : Pass) (patterns : List LogPattern) (f : LogFinding) : Bool :=
  (cited patterns f).any (fun q => q.daemonType == .rgw) && p.needsGate f

/-- The loop's body: the finding is closed. -/
def Pass.closes (p : Pass) (patterns : List LogPattern) (windowStart : Int)
    (f : LogFinding) : Bool :=
  f.clusterId == p.scan.clusterId && f.status != .resolved && !f.evidence.isEmpty &&
    if p.gates patterns f then p.clusterFound && p.recovered f
    else !stillActive patterns windowStart f

/-- `resolve_stale_findings`; an error undoes its transaction. -/
def Pass.resolveStaleFindings (p : Pass) (patterns : List LogPattern) (windowStart : Int)
    (findings : List LogFinding) : List LogFinding :=
  if p.fails then findings
  else findings.map fun f =>
    if p.closes patterns windowStart f then { f with status := .resolved } else f

/-! ## Scans with findings -/

/-- A line that a scan saw, and when it was written. -/
structure Sighting where
  clusterId : String
  fingerprint : Fingerprint
  host : String
  ts : Int
deriving DecidableEq, Repr

/-- The scans, the patterns, the findings, and the lines that were seen. -/
structure World where
  scans : LogScans.World
  patterns : List LogPattern
  findings : List LogFinding
  sightings : List Sighting

/-- The loop over the hosts was reached. -/
def Pass.ran (p : Pass) : Bool := p.scan.knownSource && !p.scan.hosts.isEmpty

def World.patternsAfter (w : World) (p : Pass) : List LogPattern :=
  if p.ran then
    persistPatterns p.scan.tally.records p.scan.clusterId w.scans.now w.patterns
  else w.patterns

/-- The findings after the analysis. -/
def World.analyzed (w : World) (p : Pass) : List LogFinding :=
  if p.ran then p.analyzed w.findings else w.findings

/-- The lines that this scan sees. -/
def World.sighted (w : World) (p : Pass) : List Sighting :=
  if p.ran then
    (kept p.scan.tally.records).map fun r =>
      ⟨p.scan.clusterId, fingerprintOf r, r.host, timeOf w.scans.now r⟩
  else []

def World.scanAndStore (w : World) (p : Pass) : World where
  scans := w.scans.scanAndStore p.scan
  patterns := w.patternsAfter p
  findings :=
    if p.scan.status = .failed then w.analyzed p
    else p.resolveStaleFindings (w.patternsAfter p) (w.scans.windowStart p.scan) (w.analyzed p)
  sightings := w.sighted p ++ w.sightings

/-- A step: a scan, what others do to the findings and the runs, or time. -/
inductive Label
  | scan (p : Pass)
  | write (findings : List LogFinding)
  | prune (kept : Run → Bool)
  | tick (microseconds : Nat)

def step (w : World) : Label → Option World
  | .scan p => some (w.scanAndStore p)
  | .write findings => some { w with findings := findings }
  | .prune kept => some { w with scans := { w.scans with runs := w.scans.runs.filter kept } }
  | .tick microseconds => some { w with scans := { w.scans with now := w.scans.now + microseconds } }

/-- Log Intelligence with its findings. -/
def logIntel : System World Label := ⟨step⟩

/-- Nothing is stored. -/
def emptyWorld : World := ⟨LogScans.emptyWorld, [], [], []⟩

/-- The findings that `resolve_stale_findings` closes after this scan. -/
def World.closings (w : World) (p : Pass) : List LogFinding :=
  if p.scan.status = .failed || p.fails then []
  else (w.analyzed p).filter (p.closes (w.patternsAfter p) (w.scans.windowStart p.scan))

/-! ## What a closing should rest on -/

/-- The line is one of this pattern. -/
def Sighting.isOf (v : Sighting) (row : LogPattern) : Prop :=
  v.clusterId = row.clusterId ∧ v.fingerprint = row.fingerprint

instance (v : Sighting) (row : LogPattern) : Decidable (v.isOf row) :=
  inferInstanceAs (Decidable (_ ∧ _))

/-- The scan read every log in which the patterns of a finding that it closes had been
seen, and saw none of them in its window. -/
def ClosedOnEvidence (w : World) (l : Label) (w' : World) : Prop :=
  match l with
  | .scan p => ∀ f ∈ w.closings p, ∀ row ∈ w'.patterns, row.id ∈ f.evidence →
      (∀ v ∈ w.sightings, v.isOf row →
        p.scan.reads v.host v.fingerprint.daemonType = true) ∧
      ∀ v ∈ w.sighted p, v.isOf row → ¬ w.scans.windowStart p.scan ≤ v.ts
  | _ => True

/-- A finding is closed after a scan of its cluster that read some log.  Either the live
verification confirmed the recovery of an RGW finding that needs it, or the finding cites
patterns of which no line that was seen so far is in the window; an OK scan without a
target then read each log in which they had been seen and which is still configured. -/
def ClosedSoundly (w : World) (l : Label) (w' : World) : Prop :=
  match l with
  | .scan p => ∀ f ∈ w.closings p,
      f.clusterId = p.scan.clusterId ∧ f.evidence ≠ [] ∧
      (∃ host d, p.scan.reads host d = true) ∧
      ((p.gates w'.patterns f = true ∧ p.recovered f = true) ∨
        ∀ row ∈ w'.patterns, row.id ∈ f.evidence → ∀ v ∈ w'.sightings, v.isOf row →
          v.ts < w.scans.windowStart p.scan ∧
          (p.scan.full = true → p.scan.status = .ok →
            p.scan.nodes.runs v.host v.fingerprint.daemonType = true →
            p.scan.reads v.host v.fingerprint.daemonType = true))
  | _ => True

/-! ## Patterns and sightings -/

/-- Each line that was seen has its pattern, which was last seen then or later; a pattern
has one row. -/
structure Sound (w : World) : Prop where
  keys : (w.patterns.map fun row => (row.clusterId, row.fingerprint)).Nodup
  seen : ∀ v ∈ w.sightings, ∃ row ∈ w.patterns,
    (row.clusterId, row.fingerprint) = (v.clusterId, v.fingerprint) ∧ v.ts ≤ row.lastSeenAt

theorem represented_persist {clusterId : String} {fallback : Int} {records : List LogRecord}
    {r : LogRecord} (patterns : List LogPattern) (hr : r ∈ kept records) :
    Represented (patternMerge clusterId)
      (persistPatterns records clusterId fallback patterns) (clusterId, fingerprintOf r)
      (timeOf fallback r) := by
  obtain ⟨e, he, hkey, hle⟩ :=
    exists_of_mem_entries (entryMerge fallback) (kept records) [] hr
  have hfingerprint : e.fingerprint = fingerprintOf r := (Prod.mk.inj hkey).1
  obtain ⟨row, hrow, hrowKey, hrowLe⟩ :=
    exists_of_mem_entries (patternMerge clusterId) _ patterns he
  refine ⟨row, hrow, ?_, le_trans hle hrowLe⟩
  rw [hrowKey, ← hfingerprint]
  rfl

variable {w : World}

/-- **A scan keeps the patterns up to date with what was seen.** -/
theorem sound_scan (h : Sound w) (p : Pass) : Sound (w.scanAndStore p) where
  keys := by
    show ((w.patternsAfter p).map fun row => (row.clusterId, row.fingerprint)).Nodup
    unfold World.patternsAfter
    split_ifs
    · exact nodup_upsertAll (patternMerge p.scan.clusterId) _ _ h.keys
    · exact h.keys
  seen := by
    intro v hv
    show ∃ row ∈ w.patternsAfter p, _
    have hv' : v ∈ w.sighted p ∨ v ∈ w.sightings := List.mem_append.mp hv
    unfold World.sighted at hv'
    unfold World.patternsAfter
    split_ifs at hv' ⊢ with hran
    · rcases hv' with hnew | hold
      · obtain ⟨r, hr, rfl⟩ := List.mem_map.mp hnew
        exact represented_persist w.patterns hr
      · obtain ⟨row, hrow, hkey, hle⟩ := h.seen v hold
        exact exists_of_mem_rows (patternMerge p.scan.clusterId) _ _ ⟨row, hrow, hkey, hle⟩
    · rcases hv' with hnew | hold
      · cases hnew
      · exact h.seen v hold

/-- **No line of a pattern that was seen is later than `last_seen_at`.** -/
theorem lastSeen_of_sighting (h : Sound w) {row : LogPattern} (hrow : row ∈ w.patterns)
    {v : Sighting} (hv : v ∈ w.sightings) (hof : v.isOf row) : v.ts ≤ row.lastSeenAt := by
  obtain ⟨row', hrow', hkey, hle⟩ := h.seen v hv
  have hsame : (row'.clusterId, row'.fingerprint) = (row.clusterId, row.fingerprint) := by
    rw [hkey, hof.1, hof.2]
  have heq : row' = row := List.inj_on_of_nodup_map h.keys hrow' hrow hsame
  exact heq ▸ hle

theorem sound_step {w' : World} (h : Sound w) (l : Label) (hstep : step w l = some w') :
    Sound w' := by
  cases l with
  | scan p =>
    rw [step, Option.some.injEq] at hstep
    subst hstep
    exact sound_scan h p
  | write | prune | tick =>
    rw [step, Option.some.injEq] at hstep
    subst hstep
    exact ⟨h.keys, h.seen⟩

theorem sound_emptyWorld : Sound emptyWorld where
  keys := List.nodup_nil
  seen := by
    intro v hv
    cases hv

/-! ## Closings -/

theorem mem_closings_iff (w : World) (p : Pass) (f : LogFinding) :
    f ∈ w.closings p ↔ p.scan.status ≠ .failed ∧ p.fails = false ∧ f ∈ w.analyzed p ∧
      p.closes (w.patternsAfter p) (w.scans.windowStart p.scan) f = true := by
  unfold World.closings
  split_ifs with h
  · rw [Bool.or_eq_true, decide_eq_true_eq] at h
    constructor
    · intro hf
      cases hf
    · rintro ⟨hstatus, hfails, _⟩
      rcases h with hfailed | hfails'
      · exact absurd hfailed hstatus
      · rw [hfails] at hfails'
        cases hfails'
  · rw [Bool.or_eq_true, decide_eq_true_eq, not_or, Bool.not_eq_true] at h
    rw [List.mem_filter]
    exact ⟨fun hf => ⟨h.1, h.2, hf⟩, fun hf => hf.2.2⟩

theorem lastSeen_lt_of_not_stillActive {patterns : List LogPattern} {windowStart : Int}
    {f : LogFinding} (h : stillActive patterns windowStart f = false) {row : LogPattern}
    (hrow : row ∈ patterns) (hcited : row.id ∈ f.evidence) : row.lastSeenAt < windowStart := by
  unfold stillActive cited at h
  rw [List.any_eq_false] at h
  have hnot := h row (List.mem_filter.mpr ⟨hrow, List.contains_iff_mem.mpr hcited⟩)
  rw [decide_eq_true_eq] at hnot
  omega

/-- **What a closing rests on.** -/
theorem closedSoundly_scan (h : Sound w) (p : Pass) :
    ClosedSoundly w (.scan p) (w.scanAndStore p) := by
  intro f hf
  obtain ⟨hstatus, _, _, hcloses⟩ := (mem_closings_iff w p f).mp hf
  unfold Pass.closes at hcloses
  simp only [Bool.and_eq_true, beq_iff_eq, bne_iff_ne, Bool.not_eq_true',
    List.isEmpty_eq_false_iff] at hcloses
  obtain ⟨⟨⟨hcluster, _⟩, hevidence⟩, hdecides⟩ := hcloses
  refine ⟨hcluster, hevidence, Scan.exists_reads hstatus, ?_⟩
  split_ifs at hdecides with hgates
  · exact Or.inl ⟨hgates, (Bool.and_eq_true _ _ ▸ hdecides).2⟩
  · right
    intro row hrow hcited v hv hof
    constructor
    · have hlast := lastSeen_lt_of_not_stillActive ((Bool.not_eq_true' _).mp hdecides) hrow hcited
      exact lt_of_le_of_lt (lastSeen_of_sighting (sound_scan h p) hrow hv hof) hlast
    · intro hfull hok hruns
      exact ((Scan.status_eq_ok_iff hfull).mp hok).2.2 v.host _ hruns

/-- **In every run, a finding is closed by a live verification or when none of its
patterns was seen in the window.** -/
theorem closed_soundly (labels : List Label) : logIntel.Always ClosedSoundly emptyWorld labels := by
  apply logIntel.always_of_invariant ClosedSoundly Sound _ labels emptyWorld sound_emptyWorld
  intro w l w' hw hstep
  refine ⟨?_, sound_step hw l hstep⟩
  cases l with
  | scan p =>
    have hw' : w.scanAndStore p = w' := Option.some.inj hstep
    rw [← hw']
    exact closedSoundly_scan hw p
  | _ => exact True.intro

/-- A scan over SSH of an OSD on one host and an RGW on another, which returns these
lines. -/
def scanOf (targetHost : Option String) (targetDaemonType : Option DaemonType)
    (records : List LogRecord) : Scan where
  clusterId := "c1"
  source := "ssh"
  windowMinutes := 60
  nodes := ⟨[], [], ["ceph1"], ["ceph2"]⟩
  targetHost := targetHost
  targetDaemonType := targetDaemonType
  watermarkReadable := true
  fetched := fun host d =>
    ⟨records.filter fun r => r.host == host && r.daemonType == d, none⟩

/-- A scheduled scan after which the analysis opens a finding on the first pattern. -/
def openingPass (records : List LogRecord) : Pass where
  scan := scanOf none none records
  analyzed := fun findings => ⟨1, "c1", .opened, [0]⟩ :: findings
  needsGate := fun _ => false
  clusterFound := true
  recovered := fun _ => false
  fails := false

/-- A scan of the RGW log only. -/
def rgwPass : Pass where
  scan := scanOf (some "ceph2") (some .rgw) []
  analyzed := id
  needsGate := fun _ => false
  clusterFound := true
  recovered := fun _ => false
  fails := false

/-- A scheduled scan that sees these lines and after which the live verification finds the
Vault recovered. -/
def recoveredPass (records : List LogRecord) : Pass where
  scan := scanOf none none records
  analyzed := id
  needsGate := fun _ => true
  clusterFound := true
  recovered := fun _ => true
  fails := false

/-- A line of an OSD, five minutes before the first scan. -/
def slowRequest : LogRecord := ⟨some (-300000000), "ceph1", .osd, "slow request"⟩

/-- A line of an RGW at this time. -/
def vaultError (ts : Int) : LogRecord := ⟨some ts, "ceph2", .rgw, "failed to retrieve key"⟩

/-- A finding on an OSD, five minutes before the RGW log of the other host is scanned. -/
def osdRun : List Label := [.scan (openingPass [slowRequest]), .tick 300000000]

/-- A finding on the Vault, fifteen minutes before the next scan. -/
def vaultRun : List Label := [.scan (openingPass [vaultError (-1)]), .tick 900000000]

/-- The scan of the RGW log closes the finding on the OSD, whose log it does not read; and
a recovered Vault closes its finding while the scan sees the error. -/
theorem closed_without_evidence :
    ¬ logIntel.Always ClosedOnEvidence emptyWorld (osdRun ++ [.scan rgwPass]) ∧
      ¬ logIntel.Always ClosedOnEvidence emptyWorld
        (vaultRun ++ [.scan (recoveredPass [vaultError 899999999])]) := by
  constructor
  · intro h
    have hrun : logIntel.run emptyWorld osdRun =
        some ((logIntel.run emptyWorld osdRun).getD emptyWorld) := by
      rfl
    have hscan := h.step_after rfl osdRun emptyWorld hrun
    have hreads := (hscan ⟨1, "c1", .opened, [0]⟩ (by decide)
      ⟨0, "c1", ⟨"slow request", .osd⟩, .osd, -300000000, -300000000⟩ (by decide)
      (by decide)).1 ⟨"c1", ⟨"slow request", .osd⟩, "ceph1", -300000000⟩ (by decide) (by decide)
    exact absurd hreads (by decide)
  · intro h
    have hrun : logIntel.run emptyWorld vaultRun =
        some ((logIntel.run emptyWorld vaultRun).getD emptyWorld) := by
      rfl
    have hscan := h.step_after rfl vaultRun emptyWorld hrun
    have hnone := (hscan ⟨1, "c1", .opened, [0]⟩ (by decide)
      ⟨0, "c1", ⟨"failed to retrieve key", .rgw⟩, .rgw, -1, 899999999⟩ (by decide)
      (by decide)).2 ⟨"c1", ⟨"failed to retrieve key", .rgw⟩, "ceph2", 899999999⟩ (by decide)
      (by decide)
    exact hnone (by decide)

end CephAi.Ports.LogFindings
