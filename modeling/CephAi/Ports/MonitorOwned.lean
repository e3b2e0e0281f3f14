import CephAi.Ports.ResolveGrace
import CephAi.Ports.RgwAlerts
import Mathlib

/-!
# Codes that only a monitor can close

Thirteen families of codes are raised by monitors of the Watcher and never occur in
`ceph health detail`.  Two passes close what is absent there: `_resolve_recovered_incidents`
of `watcher/main.py`, with a list of its own of what it leaves alone, and
`verify_pending_incidents` of `watcher/verify.py`, which asks `is_monitor_owned`.

## Main results

* `agree_iff` — on which codes the two lists agree.
* `left_to_monitors_iff` — in exactly which runs neither pass closes an Incident of a
  monitor, and an RGW Incident is closed by its own scan only, on evidence.
* `rgw_alert_closed` — an open RGW Incident that the health pass closes.
-/

namespace CephAi.Ports.MonitorOwned

open Verified Verified.Runs
open Models ApprovedExecution
open Verification hiding Snapshot
open ResolveGrace (World Pass emptyWorld quietKeys keyOf decideGrace)
open RgwAlerts

/-! ## The families -/

/-- `code.startswith(start)` -/
def startsWith (cephCode start : String) : Bool := start.toList.isPrefixOf cephCode.toList

/-- The codes of the monitors that name no entity. -/
def monitorCodes : List String :=
  ["CRUSH_SKEW_USE", "CRUSH_SKEW_PG", "DATABASE_SIZE_HIGH", "CEPH_HEALTH_UNAVAILABLE"]

def monitorFamilies : List String :=
  ["VOLUME_SATURATED:", "DEVICE_HEALTH_EVACUATE:", "NODE_RESOURCE_HIGH:", "NODE_UNREACHABLE:",
    "BLUESTORE_NO_PER_POOL_OMAP:", "OSD_LATENCY_HIGH:", "CRUSH_SKEW_USE:", "CRUSH_SKEW_PG:",
    "LOG_ANOMALY:", "PERFORMANCE_RCA:", "RGW_ALERT_"]

def raisedByMonitor (cephCode : String) : Bool :=
  monitorCodes.contains cephCode || monitorFamilies.any (startsWith cephCode)

/-- The monitors' codes that the health pass does not leave alone. -/
def seenByHealthPass (cephCode : String) : Bool :=
  cephCode == "CEPH_HEALTH_UNAVAILABLE" || startsWith cephCode "RGW_ALERT_"

/-- The families that only the health pass leaves alone. -/
def onlyHealthPass : List String := ["LOG_ANOMALY:", "PERFORMANCE_RCA:", "NODE_UNREACHABLE:"]

/-- The monitors' codes that the verification does not leave alone. -/
def seenByVerification (cephCode : String) : Bool :=
  seenByHealthPass cephCode || onlyHealthPass.any (startsWith cephCode)

variable {cephCode family start : String} {i : Incident}

theorem not_listed {codes families : List String} (h : startsWith cephCode start = true)
    (hcodes : codes.all (fun c => !startsWith c start) = true)
    (hfamilies : families.all (fun f => !startsWith f start && !startsWith start f) = true) :
    codes.contains cephCode = false ∧ families.any (startsWith cephCode) = false := by
  have hprefix : start.toList <+: cephCode.toList := List.isPrefixOf_iff_prefix.mp h
  constructor
  · rw [← Bool.not_eq_true]
    intro hmem
    have hnot := List.all_eq_true.mp hcodes cephCode (List.contains_iff_mem.mp hmem)
    rw [h] at hnot
    cases hnot
  · rw [← Bool.not_eq_true]
    intro hany
    obtain ⟨f, hf, hstarts⟩ := List.any_eq_true.mp hany
    have hnot := List.all_eq_true.mp hfamilies f hf
    rw [Bool.and_eq_true, Bool.not_eq_true', Bool.not_eq_true'] at hnot
    have hprefix' : f.toList <+: cephCode.toList := List.isPrefixOf_iff_prefix.mp hstarts
    rcases List.prefix_or_prefix_of_prefix hprefix hprefix' with hle | hle
    · exact Bool.false_ne_true (hnot.1.symm.trans (List.isPrefixOf_iff_prefix.mpr hle))
    · exact Bool.false_ne_true (hnot.2.symm.trans (List.isPrefixOf_iff_prefix.mpr hle))

theorem ownedElsewhere_of_family (hfamily : family ∈ familyPrefixes)
    (h : startsWith cephCode family = true) : ownedElsewhere cephCode = true := by
  have hany : familyPrefixes.any (fun p => p.toList.isPrefixOf cephCode.toList) = true :=
    List.any_eq_true.mpr ⟨family, hfamily, h⟩
  unfold ownedElsewhere
  rw [hany, Bool.or_true]

theorem isMonitorOwned_of_family (hfamily : family ∈ monitorPrefixes) (hne : family ≠ "")
    (h : startsWith cephCode family = true) : isMonitorOwned cephCode = true := by
  have hany : monitorPrefixes.any (fun p => p.toList.isPrefixOf cephCode.toList) = true :=
    List.any_eq_true.mpr ⟨family, hfamily, h⟩
  have hcode : cephCode ≠ "" := by
    rintro rfl
    apply hne
    apply String.toList_inj.mp
    exact List.prefix_nil.mp (List.isPrefixOf_iff_prefix.mp h)
  unfold isMonitorOwned
  rw [hany, Bool.or_true, Bool.and_true, bne_iff_ne]
  exact hcode

/-- What a monitor raises is one of its codes, or begins as one of its families. -/
theorem monitorCode_or_family (h : raisedByMonitor cephCode = true) :
    cephCode ∈ monitorCodes ∨ ∃ family ∈ monitorFamilies, startsWith cephCode family = true := by
  unfold raisedByMonitor at h
  rw [Bool.or_eq_true] at h
  exact h.imp List.contains_iff_mem.mp List.any_eq_true.mp

theorem ownedElsewhere_or_seen (h : raisedByMonitor cephCode = true) :
    ownedElsewhere cephCode = true ∨ seenByHealthPass cephCode = true := by
  rcases monitorCode_or_family h with hcode | ⟨family, hfamily, hstarts⟩
  · have hall : monitorCodes.all (fun c => ownedElsewhere c || seenByHealthPass c) = true := by
      decide
    have hcode := List.all_eq_true.mp hall cephCode hcode
    rwa [Bool.or_eq_true] at hcode
  · have hall : ∀ f ∈ monitorFamilies, f ∈ familyPrefixes ∨ f = "RGW_ALERT_" := by decide
    rcases hall family hfamily with hlisted | rfl
    · exact Or.inl (ownedElsewhere_of_family hlisted hstarts)
    · right
      unfold seenByHealthPass
      rw [hstarts, Bool.or_true]

theorem isMonitorOwned_or_seen (h : raisedByMonitor cephCode = true) :
    isMonitorOwned cephCode = true ∨ seenByVerification cephCode = true := by
  rcases monitorCode_or_family h with hcode | ⟨family, hfamily, hstarts⟩
  · have hall : monitorCodes.all (fun c => isMonitorOwned c || seenByVerification c) = true := by
      decide
    have hcode := List.all_eq_true.mp hall cephCode hcode
    rwa [Bool.or_eq_true] at hcode
  · have hall : ∀ f ∈ monitorFamilies, (f ∈ monitorPrefixes ∧ f ≠ "") ∨ f = "RGW_ALERT_" ∨
        f ∈ onlyHealthPass := by
      decide
    unfold seenByVerification seenByHealthPass
    rcases hall family hfamily with ⟨hlisted, hne⟩ | rfl | hlisted
    · exact Or.inl (isMonitorOwned_of_family hlisted hne hstarts)
    · right
      rw [hstarts, Bool.or_true, Bool.true_or]
    · right
      rw [List.any_eq_true.mpr ⟨family, hlisted, hstarts⟩, Bool.or_true]

theorem ownedElsewhere_false_of_start (h : startsWith cephCode start = true)
    (hcodes : (operatorVolumeCephCodes ++ operatorRequestCodes ++ familyCodes).all
      (fun c => !startsWith c start) = true)
    (hfamilies : familyPrefixes.all (fun f => !startsWith f start && !startsWith start f) = true) :
    ownedElsewhere cephCode = false := by
  have hnot := not_listed h hcodes hfamilies
  simp only [List.contains_eq_mem, List.mem_append, decide_eq_false_iff_not, not_or] at hnot
  have hany : familyPrefixes.any (fun p => p.toList.isPrefixOf cephCode.toList) = false := hnot.2
  unfold ownedElsewhere
  rw [hany]
  simp only [List.contains_eq_mem, Bool.or_false, Bool.or_eq_false_iff, decide_eq_false_iff_not]
  exact hnot.1

theorem isMonitorOwned_false_of_start (h : startsWith cephCode start = true)
    (hcodes : exactCodes.all (fun c => !startsWith c start) = true)
    (hfamilies : monitorPrefixes.all (fun f => !startsWith f start && !startsWith start f) = true) :
    isMonitorOwned cephCode = false := by
  have hnot := not_listed h hcodes hfamilies
  have hany : monitorPrefixes.any (fun p => p.toList.isPrefixOf cephCode.toList) = false := hnot.2
  unfold isMonitorOwned
  rw [hnot.1, hany, Bool.or_false, Bool.and_false]

/-- The verification sees the three families. -/
theorem isMonitorOwned_onlyHealthPass (hfamily : family ∈ onlyHealthPass)
    (h : startsWith cephCode family = true) : isMonitorOwned cephCode = false := by
  have hall : ∀ f ∈ onlyHealthPass, exactCodes.all (fun c => !startsWith c f) = true ∧
      monitorPrefixes.all (fun p => !startsWith p f && !startsWith f p) = true := by
    decide
  exact isMonitorOwned_false_of_start h (hall family hfamily).1 (hall family hfamily).2

theorem not_owned_of_seen (h : seenByHealthPass cephCode = true) :
    ownedElsewhere cephCode = false ∧ isMonitorOwned cephCode = false := by
  unfold seenByHealthPass at h
  rw [Bool.or_eq_true, beq_iff_eq] at h
  rcases h with rfl | h
  · decide
  · constructor
    · apply ownedElsewhere_false_of_start h
      · decide
      · decide
    · apply isMonitorOwned_false_of_start h
      · decide
      · decide

theorem raisedByMonitor_of_seen (h : seenByHealthPass cephCode = true) :
    raisedByMonitor cephCode = true := by
  unfold seenByHealthPass at h
  rw [Bool.or_eq_true, beq_iff_eq] at h
  unfold raisedByMonitor
  rcases h with rfl | h
  · decide
  · rw [Bool.or_eq_true]
    exact Or.inr (List.any_eq_true.mpr ⟨"RGW_ALERT_", by decide, h⟩)

/-- **Where the two lists agree.** -/
theorem agree_iff (h : raisedByMonitor cephCode = true) :
    ownedElsewhere cephCode = isMonitorOwned cephCode ↔
      onlyHealthPass.any (startsWith cephCode) = false := by
  cases honly : onlyHealthPass.any (startsWith cephCode) with
  | true =>
    obtain ⟨family, hfamily, hstarts⟩ := List.any_eq_true.mp honly
    have hlisted : ∀ f ∈ onlyHealthPass, f ∈ familyPrefixes := by decide
    rw [isMonitorOwned_onlyHealthPass hfamily hstarts,
      ownedElsewhere_of_family (hlisted family hfamily) hstarts]
  | false =>
    apply iff_of_true _ rfl
    cases hseen : seenByHealthPass cephCode with
    | true =>
      obtain ⟨howned, hmonitor⟩ := not_owned_of_seen hseen
      rw [howned, hmonitor]
    | false =>
      have howned : ownedElsewhere cephCode = true :=
        (ownedElsewhere_or_seen h).resolve_right (by rw [hseen]; exact Bool.false_ne_true)
      have hmonitor : isMonitorOwned cephCode = true := by
        apply (isMonitorOwned_or_seen h).resolve_right
        unfold seenByVerification
        rw [hseen, honly]
        exact Bool.false_ne_true
      rw [howned, hmonitor]

/-! ## Polls and scans -/

/-- A step: one of the health pass or of others, a verification, or a scan of an RGW
cluster. -/
inductive Label
  | other (l : ResolveGrace.Label)
  | verify (p : Poll)
  | sync (cluster : Cluster) (s : Snapshot)

/-- The settings of the Watcher, and the rounding of the ratios. -/
structure Setup where
  grace : Nat
  verification : VerifySettings
  fl : ℚ → ℚ

/-- One step.  `sync_rgw_alerts` commits nothing when it raises; its times are in
microseconds. -/
def step (S : Setup) (w : World) : Label → Option World
  | .other l => ResolveGrace.step S.grace w l
  | .verify p =>
    some { w with store := verifyPendingIncidents S.verification w.store { p with now := w.now } }
  | .sync cluster s =>
    some (w.setIncidents ((syncRgwAlerts S.fl cluster s (w.now * 1000000)
      w.store.db.incidents).getD w.store.db.incidents))

/-- The Watcher, its monitors and the others. -/
def watcher (S : Setup) : System World Label := ⟨step S⟩

/-- No Incident of a monitor is resolved by the step from `w` to `w'`. -/
def LeavesMonitors (w w' : World) : Prop :=
  ∀ id row, w.store.db.incident? id = some row → raisedByMonitor row.cephCode = true →
    row.status ≠ .resolved → w'.store.db.incidentStatus id ≠ some .resolved

/-- The scan resolves what it no longer reports, on evidence. -/
def ResolvesOnEvidence (S : Setup) (cluster : Cluster) (s : Snapshot) (w w' : World) : Prop :=
  ∀ id row, w.store.db.incident? id = some row → row.status ≠ .resolved →
    w'.store.db.incidentStatus id = some .resolved →
      openRgw cluster row = true ∧ reported (evaluateRgwAlerts S.fl s) row = false ∧
        canResolveAlert row.cephCode row.dedupeKey s (w.now * 1000000) = some true

/-- Absence from the health report resolves no Incident of a monitor. -/
def LeftToMonitors (S : Setup) (w : World) (l : Label) (w' : World) : Prop :=
  match l with
  | .other (.poll _) => LeavesMonitors w w'
  | .verify _ => LeavesMonitors w w'
  | .sync cluster s => ResolvesOnEvidence S cluster s w w'
  | _ => True

/-- The pass scans this row, its code is absent, and the quiet period is over. -/
def quietOver (grace : Nat) (w : World) (p : Pass) (i : Incident) : Bool :=
  p.scans i && !p.currentCodes.contains i.cephCode &&
    (grace == 0 || (w.clock (keyOf i)).any fun start => start + grace ≤ w.now)

/-- No Incident that the pass sees has its quiet period over, and none that the
verification sees has a passed post-check. -/
def NoneSeen (S : Setup) (w : World) : Label → Prop
  | .other (.poll p) => p.endsAfter = none → ∀ i ∈ w.store.db.incidents,
      w.store.db.incident? i.id = some i → seenByHealthPass i.cephCode = true →
        quietOver S.grace w p i = false
  | .verify p => ∀ i ∈ w.store.db.incidents, w.store.db.incident? i.id = some i →
      seenByVerification i.cephCode = true → raisedByMonitor i.cephCode = true →
        verifyDue { p with now := w.now } i = true →
          (evaluateLatestPostcheck w.store { p with now := w.now } i).1 ≠ .passed
  | _ => True

instance decidableNoneSeen (S : Setup) (w : World) : ∀ l, Decidable (NoneSeen S w l)
  | .other (.poll _) => inferInstanceAs (Decidable (_ → _))
  | .other (.opened _) | .other (.write _ _) | .other (.delete _) | .other (.setOthers _ _)
  | .other .restart | .other (.tick _) => inferInstanceAs (Decidable True)
  | .verify _ => inferInstanceAs (Decidable (∀ i ∈ w.store.db.incidents, _))
  | .sync _ _ => inferInstanceAs (Decidable True)

/-! ## What a step resolves -/

theorem decideGrace_resolve_iff (grace : Nat) (entry : Option Nat) (present : Bool) (now : Nat) :
    (decideGrace grace entry present now).2 = .resolve ↔
      present = false ∧ (grace == 0 || entry.any fun start => start + grace ≤ now) = true := by
  constructor
  · intro h
    obtain ⟨hpresent, hperiod⟩ := ResolveGrace.decideGrace_resolve h
    refine ⟨hpresent, ?_⟩
    rcases hperiod with rfl | ⟨start, rfl, hlong⟩
    · rfl
    · rw [Option.any_some, decide_eq_true hlong, Bool.or_true]
  · rintro ⟨rfl, hperiod⟩
    unfold decideGrace
    by_cases hgrace : grace = 0
    · simp [hgrace]
    · rw [beq_false_of_ne hgrace, Bool.false_or] at hperiod
      cases entry with
      | none => cases hperiod
      | some start =>
        rw [Option.any_some, decide_eq_true_eq] at hperiod
        have hlate : ¬ now - start < grace := by omega
        simp [hgrace, hlate]

theorem mem_quietKeys {decisions : List (ResolveGrace.Key × ResolveGrace.Verdict)}
    {key : ResolveGrace.Key} :
    key ∈ quietKeys decisions ↔ decisions.lookup key = some .resolve := by
  unfold quietKeys
  rw [List.mem_filter, beq_iff_eq]
  constructor
  · exact fun h => h.2
  · intro h
    obtain ⟨before, after, hsplit, _⟩ := List.lookup_eq_some_iff.mp h
    refine ⟨?_, h⟩
    rw [hsplit]
    simp

theorem recoveryDecide_iff (p : Recovery) (i : Incident) :
    p.decide i = .resolve ↔
      p.currentCodes.contains i.cephCode = false ∧ (i.clusterId, i.cephCode) ∈ p.quiet := by
  unfold Recovery.decide
  rw [← List.contains_iff_mem]
  cases p.currentCodes.contains i.cephCode with
  | true => exact iff_of_false (fun h => by cases h) (fun h => by cases h.1)
  | false => cases p.quiet.contains (i.clusterId, i.cephCode) <;> simp

theorem recovers_eq_quietOver {grace : Nat} {w : World} {p : Pass} (hends : p.endsAfter = none)
    (hi : i ∈ w.store.db.incidents) :
    recovers (p.recovery (quietKeys (w.scan grace p).2)) i = quietOver grace w p i := by
  have hscans : recovers (p.recovery (quietKeys (w.scan grace p).2)) i =
      (p.scans i && (p.recovery (quietKeys (w.scan grace p).2)).decide i == .resolve) := rfl
  rw [hscans]
  unfold quietOver
  cases hscan : p.scans i with
  | false => rw [Bool.false_and, Bool.false_and, Bool.false_and]
  | true =>
    have hreached : i ∈ p.reached w.store.db.incidents := by
      unfold Pass.reached
      rw [hends]
      exact List.mem_filter.mpr ⟨hi, hscan⟩
    have hverdict := (ResolveGrace.scan_key grace w p (keyOf i)).resolve_right
      (fun h => h.1 ⟨i, hreached, rfl⟩)
    rw [Bool.true_and, Bool.true_and, Bool.eq_iff_iff, beq_iff_eq, Bool.and_eq_true,
      Bool.not_eq_true', ← decideGrace_resolve_iff]
    have hquiet : (keyOf i) ∈ quietKeys (w.scan grace p).2 ↔
        (decideGrace grace (w.clock (keyOf i)) (p.currentCodes.contains i.cephCode) w.now).2 =
          .resolve := by
      rw [mem_quietKeys, hverdict.2.2, Option.some.injEq]
      rfl
    rw [recoveryDecide_iff, ← hquiet]
    constructor
    · exact fun h => h.2
    · exact fun h => ⟨((decideGrace_resolve_iff _ _ _ _).mp (hquiet.mp h)).1, h⟩

theorem status_of_recovers {p : Recovery} (h : recovers p i = true) : i.status ≠ .resolved := by
  unfold recovers at h
  simp only [Bool.and_eq_true] at h
  intro hstatus
  rw [hstatus] at h
  exact absurd h.1.1.1.1.1.1 (by decide)

theorem leavesMonitors_poll_iff (grace : Nat) (w : World) (p : Pass) :
    LeavesMonitors w (w.poll grace p) ↔
      (p.endsAfter = none → ∀ i ∈ w.store.db.incidents, w.store.db.incident? i.id = some i →
        seenByHealthPass i.cephCode = true → quietOver grace w p i = false) := by
  by_cases hends : p.endsAfter = none
  · have hafter : ∀ id, (w.poll grace p).store.db.incidentStatus id =
        (w.store.db.incident? id).map fun row =>
          if quietOver grace w p row then .resolved else row.status := by
      intro id
      unfold Db.incidentStatus World.poll
      dsimp only
      rw [if_pos hends, recover_incident?, Option.map_map]
      apply Option.map_congr
      intro row hrow
      have hmem : row ∈ w.store.db.incidents := Table.mem_of_get hrow
      dsimp only [Function.comp]
      rw [recovers_eq_quietOver hends hmem]
      split_ifs
      · rfl
      · rfl
    constructor
    · intro h _ i hi hget hseen
      rw [← Bool.not_eq_true]
      intro hquiet
      have hopen : i.status ≠ .resolved := by
        apply status_of_recovers
        rw [recovers_eq_quietOver hends hi]
        exact hquiet
      apply h i.id i hget (raisedByMonitor_of_seen hseen) hopen
      rw [hafter, hget, Option.map_some, if_pos hquiet]
    · intro h id row hrow hraised hopen hresolved
      rw [hafter, hrow, Option.map_some, Option.some.injEq] at hresolved
      have hmem : row ∈ w.store.db.incidents := Table.mem_of_get hrow
      have hid : row.id = id := Table.key_of_get hrow
      split_ifs at hresolved with hquiet
      · rcases ownedElsewhere_or_seen hraised with howned | hseen
        · unfold quietOver Pass.scans at hquiet
          rw [howned] at hquiet
          simp at hquiet
        · rw [h hends row hmem (hid ▸ hrow) hseen] at hquiet
          cases hquiet
      · exact hopen hresolved
  · apply iff_of_true
    · intro id row hrow _ hopen hresolved
      unfold Db.incidentStatus World.poll at hresolved
      dsimp only at hresolved
      rw [if_neg hends, hrow] at hresolved
      exact hopen (Option.some.inj hresolved)
    · intro hnone
      exact absurd hnone hends

theorem status_of_verifyDue {p : Poll} (h : verifyDue p i = true) : i.status = .verifying := by
  unfold verifyDue at h
  simp only [Bool.and_eq_true, beq_iff_eq] at h
  exact h.1.1.1.1

theorem resolved_verifyWrite_iff (settings : VerifySettings) (st : Store) (p : Poll)
    (i : Incident) :
    ((verifyWrite settings st p i).apply i).status = .resolved ↔
      (evaluateLatestPostcheck st p i).1 = .passed := by
  unfold verifyWrite
  cases hverdict : (evaluateLatestPostcheck st p i).1 with
  | passed => exact iff_of_true rfl rfl
  | inconclusive => exact iff_of_false (fun h => by cases h) (fun h => by cases h)
  | failed =>
    dsimp only
    split_ifs
    · exact iff_of_false (fun h => by cases h) (fun h => by cases h)
    · exact iff_of_false (fun h => by cases h) (fun h => by cases h)

theorem leavesMonitors_verify_iff (settings : VerifySettings) (w : World) (p : Poll) :
    LeavesMonitors w { w with store := verifyPendingIncidents settings w.store p } ↔
      ∀ i ∈ w.store.db.incidents, w.store.db.incident? i.id = some i →
        seenByVerification i.cephCode = true → raisedByMonitor i.cephCode = true →
          verifyDue p i = true → (evaluateLatestPostcheck w.store p i).1 ≠ .passed := by
  have hafter : ∀ id row, w.store.db.incident? id = some row →
      (verifyPendingIncidents settings w.store p).db.incidentStatus id =
        some (if verifyDue p row then (verifyWrite settings w.store p row).apply row
          else row).status := by
    intro id row hrow
    unfold Db.incidentStatus
    rw [verify_incident?, hrow]
    rfl
  constructor
  · intro h i hi hget _ hraised hdue hpassed
    have hopen : i.status ≠ .resolved := by
      rw [status_of_verifyDue hdue]
      exact fun heq => by cases heq
    apply h i.id i hget hraised hopen
    show (verifyPendingIncidents settings w.store p).db.incidentStatus i.id = some .resolved
    rw [hafter i.id i hget, if_pos hdue,
      (resolved_verifyWrite_iff settings w.store p i).mpr hpassed]
  · intro h id row hrow hraised hopen hresolved
    replace hresolved : (verifyPendingIncidents settings w.store p).db.incidentStatus id =
      some .resolved := hresolved
    rw [hafter id row hrow, Option.some.injEq] at hresolved
    have hmem : row ∈ w.store.db.incidents := Table.mem_of_get hrow
    have hid : row.id = id := Table.key_of_get hrow
    cases hdue : verifyDue p row with
    | false =>
      rw [hdue, if_neg Bool.false_ne_true] at hresolved
      exact hopen hresolved
    | true =>
      rw [hdue, if_pos rfl, resolved_verifyWrite_iff settings w.store p row] at hresolved
      rcases isMonitorOwned_or_seen hraised with howned | hseen
      · unfold verifyDue at hdue
        rw [howned, Bool.not_true, Bool.and_false] at hdue
        cases hdue
      · exact h row hmem (hid ▸ hrow) hseen hraised hdue hresolved

theorem get_closed (fl : ℚ → ℚ) (cluster : Cluster) (s : Snapshot) (now : Int)
    {incidents : List Incident} {id : Nat} {row : Incident}
    (hrow : Table.get incidents id = some row) :
    Table.get (closed fl cluster s now incidents) id =
      some (if resolves (evaluateRgwAlerts fl s) cluster s now row then
        { row with status := .resolved } else row) := by
  have hget := Table.get_update incidents (resolves (evaluateRgwAlerts fl s) cluster s now)
    (fun i => { i with status := .resolved }) (fun _ => rfl) id
  rw [hrow] at hget
  exact hget

/-- **A scan resolves on evidence.** -/
theorem resolvesOnEvidence_sync (S : Setup) (w : World) (cluster : Cluster) (s : Snapshot) :
    ResolvesOnEvidence S cluster s w
      (w.setIncidents ((syncRgwAlerts S.fl cluster s (w.now * 1000000)
        w.store.db.incidents).getD w.store.db.incidents)) := by
  intro id row hrow hopen hresolved
  replace hresolved : (Table.get ((syncRgwAlerts S.fl cluster s (w.now * 1000000)
      w.store.db.incidents).getD w.store.db.incidents) id).map Incident.status =
        some .resolved := hresolved
  replace hrow : Table.get w.store.db.incidents id = some row := hrow
  cases hsync : syncRgwAlerts S.fl cluster s (w.now * 1000000) w.store.db.incidents with
  | none =>
    rw [hsync, Option.getD_none, hrow] at hresolved
    exact absurd (Option.some.inj hresolved) hopen
  | some after =>
    rw [hsync, Option.getD_some] at hresolved
    rw [syncRgwAlerts_eq] at hsync
    split_ifs at hsync
    obtain ⟨new, rfl, _, _⟩ := index.exists_of_openAll (key_alertIncident cluster)
      (live_alertIncident cluster) _ _ _ hsync
    have hclosed := get_closed S.fl cluster s (w.now * 1000000) hrow
    have hget : Table.get (closed S.fl cluster s (w.now * 1000000) w.store.db.incidents ++ new)
        id = some (if resolves (evaluateRgwAlerts S.fl s) cluster s (w.now * 1000000) row then
          { row with status := .resolved } else row) := by
      unfold Table.get at hclosed ⊢
      rw [List.find?_append, hclosed, Option.some_or]
    rw [hget, Option.map_some, Option.some.injEq] at hresolved
    split_ifs at hresolved with hresolves
    · unfold resolves at hresolves
      simp only [Bool.and_eq_true, Bool.not_eq_true', beq_iff_eq] at hresolves
      exact ⟨hresolves.1.1, hresolves.1.2, hresolves.2⟩
    · exact absurd hresolved hopen

/-! ## Every run -/

theorem leftToMonitors_iff_noneSeen (S : Setup) (w w' : World) (l : Label)
    (hstep : step S w l = some w') : LeftToMonitors S w l w' ↔ NoneSeen S w l := by
  cases l with
  | other l =>
    cases l with
    | poll p =>
      rw [step, ResolveGrace.step, Option.some.injEq] at hstep
      subst hstep
      exact leavesMonitors_poll_iff S.grace w p
    | _ => exact Iff.rfl
  | verify p =>
    rw [step, Option.some.injEq] at hstep
    subst hstep
    exact leavesMonitors_verify_iff S.verification w { p with now := w.now }
  | sync cluster s =>
    rw [step, Option.some.injEq] at hstep
    subst hstep
    exact iff_of_true (resolvesOnEvidence_sync S w cluster s) True.intro

/-- **Codes that only a monitor can close.**  On the codes of the monitors the two lists agree
but for the families that only the health pass leaves alone; and in a run absence from the
health report resolves no Incident of a monitor, and an RGW Incident is resolved by its own
scan only, on evidence, exactly when each pass and each verification finds none that it
sees. -/
theorem left_to_monitors_iff (S : Setup) (w w' : World) (ls : List Label)
    (hrun : (watcher S).run w ls = some w') :
    ((watcher S).Always (LeftToMonitors S) w ls ↔ (watcher S).Meets (NoneSeen S) w ls) ∧
      ∀ cephCode, raisedByMonitor cephCode = true →
        (ownedElsewhere cephCode = isMonitorOwned cephCode ↔
          onlyHealthPass.any (startsWith cephCode) = false) := by
  constructor
  · exact (watcher S).always_iff_meets _ _ (fun w l w' => leftToMonitors_iff_noneSeen S w w' l)
      ls w w' hrun
  · intro cephCode hraised
    exact agree_iff hraised

/-- The defaults. -/
def setup : Setup := ⟨1800, ⟨60, 3⟩, id⟩

/-- Server errors, ten of a hundred requests. -/
def serverErrors : Snapshot where
  capturedAt := .missing
  statusCounts := [(200, 90), (500, 10)]
  requestCount := some 100
  topBuckets := []
  bucketStats := []
  auditFindings := some []
  auditComplete := true

/-- A poll of a cluster without health checks. -/
def healthy : Pass where
  currentCodes := []
  clusterId := some "c1"
  includeLegacyNull := false
  locked := []
  endsAfter := none

/-- The scan finds the errors, and the health report has no check. -/
def alertRun : List Label := [.sync cluster1 serverErrors, .other (.poll healthy)]

/-- Until the quiet period is over, the alert stays open. -/
theorem left_to_monitors_alertRun :
    (watcher setup).Always (LeftToMonitors setup) emptyWorld alertRun :=
  (left_to_monitors_iff setup emptyWorld (((watcher setup).run emptyWorld alertRun).getD emptyWorld)
    alertRun rfl).1.mpr (by decide +kernel)

/-- **The health pass closes an RGW alert** that its scan has never seen end. -/
theorem rgw_alert_closed :
    ¬ (watcher setup).Always (LeftToMonitors setup) emptyWorld
        (alertRun ++ [.other (.tick 1800)] ++ [.other (.poll healthy)]) := by
  intro h
  have hrun : (watcher setup).run emptyWorld (alertRun ++ [.other (.tick 1800)]) =
      some (((watcher setup).run emptyWorld (alertRun ++ [.other (.tick 1800)])).getD
        emptyWorld) := by
    rfl
  have hpoll := h.step_after rfl _ emptyWorld hrun
  apply hpoll 1 (alertIncident cluster1 [] ⟨"RGW_ALERT_5XX_SPIKE", "HEALTH_WARN", "window:5xx"⟩)
  · decide +kernel
  · decide
  · decide
  · decide +kernel

end CephAi.Ports.MonitorOwned
