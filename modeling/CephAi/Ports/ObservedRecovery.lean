import CephAi.Verified.Runs
import CephAi.Verified.Streaks
import CephAi.Ports.OsdLatency
import CephAi.Ports.DeviceHealth
import CephAi.Ports.VolumeSaturation

/-!
# Recovery that was observed

The polls of OSD latencies, of device predictions and of volumes, in any order, with restarts
that empty what the Watcher remembers and with what others do to the database.  Each of the
three monitors takes what a poll does not report for recovered, also when a query failed or
left it out.

## Main results

* `sound_latency`, `sound_devices`, `sound_volumes` — one poll that observes what is open.
* `recovered_as_observed` — every run of such polls resolves what was seen to recover only.
* `resolved_by_failed_query` — a failed `ceph osd perf` resolves the Incident of a slow OSD.
-/

namespace CephAi.Ports.ObservedRecovery

open Verified Verified.Runs Verified.Streaks
open Models
open MonitorFamilies
open Scheduler (newIncident)
open OsdLatency (LatencyScan Counts latencyFamily)
open DeviceHealth (DevicePoll deviceFamily)
open VolumeSaturation
  (VolumePoll VolumeIoSample States volumeCode visits Elevated sees_iff)

/-! ## The system -/

/-- The settings, and `gate.classify_action`. -/
structure Setup where
  latency : OsdLatency.Settings
  thresholdDays : Int
  classify : String → ActionClassification

/-- The database, what the Watcher remembers, and the scans of latencies so far.  `opening` is
the sample that opened an Incident; `sustained` says that no later one was below it. -/
structure World where
  db : Db
  counts : Counts
  states : States
  scans : List LatencyScan
  opening : Nat → Option VolumeIoSample
  sustained : Nat → Bool

/-- A step. -/
inductive Label
  | scanLatency (s : LatencyScan)
  | pollDevices (p : DevicePoll)
  | pollVolumes (p : VolumePoll)
  | restart
  | others (db : Db)

/-- The sample in `saturated` under this code: the last one. -/
def openingSample (p : VolumePoll) (states : States) (cephCode : String) :
    Option VolumeIoSample :=
  ((p.saturated states).reverse.find? fun v => v.2.code == cephCode).map Prod.snd

/-- No sample of the volume was below the one that opened its Incident, and this poll has no
such sample. -/
def World.sustains (w : World) (p : VolumePoll) (i : Incident) (o : VolumeIoSample) : Bool :=
  w.sustained i.id && p.samples.all fun s =>
    s.code != i.cephCode || decide (o.iops ≤ s.iops) && decide (o.latencyMs ≤ s.latencyMs)

/-- The opening samples after a poll. -/
def World.openings (w : World) (p : VolumePoll) (db : Db) (id : Nat) : Option VolumeIoSample :=
  match w.db.incident? id with
  | some _ => w.opening id
  | none => (db.incident? id).bind fun row => openingSample p w.states row.cephCode

/-- What is sustained after a poll; it says nothing of the volumes of another scope. -/
def World.sustainedAfter (w : World) (p : VolumePoll) (id : Nat) : Bool :=
  match w.db.incident? id with
  | none => true
  | some row =>
    if p.family.scope row then
      (w.opening id).all fun o => w.sustains p row o
    else w.sustained id

/-- One step.  Of a row that others made or gave another code nothing is remembered. -/
def step (S : Setup) (w : World) : Label → Option World
  | .scanLatency s =>
    let after := s.run S.latency S.classify w.db w.counts
    some { w with db := after.1, counts := after.2, scans := w.scans ++ [s] }
  | .pollDevices p => some { w with db := p.run S.thresholdDays S.classify w.db }
  | .pollVolumes p =>
    let after := p.run S.classify w.db w.states
    some
      { w with
        db := after.1
        states := after.2
        opening := w.openings p after.1
        sustained := w.sustainedAfter p }
  | .restart => some { w with counts := Counts.empty, states := fun _ => {} }
  | .others db =>
    some
      { w with
        db := db
        opening := fun id =>
          if (db.incident? id).map Incident.cephCode = (w.db.incident? id).map Incident.cephCode
          then w.opening id else none }

/-- The monitors and the others. -/
def watcher (S : Setup) : System World Label := ⟨step S⟩

/-! ## What a poll should do -/

/-- A scan counts for an OSD that it measured as not an outlier or found no longer up. -/
def normalOrGone (osd : Nat) (s : LatencyScan) : Effect :=
  if s.measures osd && !s.high osd || s.notUp osd then .counts else .breaks

/-- The device query succeeded, and it no longer predicts the failure, or the OSD is out. -/
def DeviceCleared (S : Setup) (p : DevicePoll) (osd : Nat) : Prop :=
  p.listed = true ∧ (osd ∉ p.predicted S.thresholdDays ∨ p.showsOut osd = true)

/-- The step is not one of others. -/
def Label.ofWatcher : Label → Bool
  | .others _ => false
  | _ => true

/-- What a step of the Watcher resolves was seen to recover. -/
structure Sound (S : Setup) (w : World) (l : Label) (w' : World) : Prop where
  latency : ∀ id row osd, w.db.incident? id = some row → row.status ≠ .resolved →
    row.cephCode = latencyFamily.osdCode osd → w'.db.incidentStatus id = some .resolved →
      EndsRun (normalOrGone osd) S.latency.recovery w'.scans ∧ ∃ s, l = .scanLatency s
  device : ∀ id row osd, w.db.incident? id = some row → row.status ≠ .resolved →
    row.cephCode = deviceFamily.osdCode osd → w'.db.incidentStatus id = some .resolved →
      ∃ p, l = .pollDevices p ∧ DeviceCleared S p osd
  evacuation : ∀ pk a a' row osd, w.db.action? pk = some a → w'.db.action? pk = some a' →
    w.db.incident? a.incidentId = some row → row.cephCode = deviceFamily.osdCode osd →
      a'.status ≠ a.status → ∃ p, l = .pollDevices p ∧ DeviceCleared S p osd
  volume : ∀ id row pool image, w.db.incident? id = some row → row.status ≠ .resolved →
    row.cephCode = volumeCode pool image → w'.db.incidentStatus id = some .resolved →
      ∃ p, l = .pollVolumes p ∧ (∃ s ∈ p.samples, s.code = row.cephCode) ∧
        ∀ o, w.opening id = some o → w'.sustained id = false

/-- How many scans in a row measured the OSD as normal or found it gone. -/
def World.normalScans (w : World) (osd : Nat) : Nat := streak (normalOrGone osd) w.scans

/-- The scan measures the OSD, as an outlier or before the stored count suffices, unless as
many scans were normal; or it finds the OSD down after as many such scans. -/
def ObservesOsd (S : Setup) (w : World) (s : LatencyScan) (osd : Nat) : Prop :=
  s.measures osd = true ∧
      (s.high osd = true ∨ w.counts.ok osd + 1 < S.latency.recovery ∨
        S.latency.recovery ≤ w.normalScans osd + 1) ∨
    s.notUp osd = true ∧ S.latency.recovery ≤ w.normalScans osd + 1

def Observes (S : Setup) (w : World) : Label → Prop
  | .scanLatency s => ∀ i ∈ w.db.incidents, latencyFamily.isOpen i = true →
      ∃ o ∈ s.osds.getD [], i.cephCode = latencyFamily.osdCode o.osdId ∧
        ObservesOsd S w s o.osdId
  | .pollDevices p => ∀ i ∈ w.db.incidents, deviceFamily.isOpen i = true →
      p.listed = true ∧ ∀ osd ∈ p.predicted S.thresholdDays,
        deviceFamily.osdCode osd = i.cephCode → p.dumps osd = true
  | .pollVolumes p => ∀ i ∈ w.db.incidents, p.family.isOpen i = true →
      (∃ s ∈ p.samples, s.code = i.cephCode) ∧
        (((w.opening i.id).any fun o => w.sustains p i o) = true →
          ∃ v ∈ visits p.clusterId w.states p.samples,
            v.2.code = i.cephCode ∧ Elevated v.1 v.2)
  | _ => True

instance decidableObservesOsd (S : Setup) (w : World) (s : LatencyScan) (osd : Nat) :
    Decidable (ObservesOsd S w s osd) :=
  inferInstanceAs (Decidable (_ ∧ _ ∨ _ ∧ _))

instance decidableObserves (S : Setup) (w : World) : ∀ l, Decidable (Observes S w l)
  | .scanLatency _ => inferInstanceAs (Decidable (∀ i ∈ w.db.incidents, _))
  | .pollDevices _ => inferInstanceAs (Decidable (∀ i ∈ w.db.incidents, _))
  | .pollVolumes _ => inferInstanceAs (Decidable (∀ i ∈ w.db.incidents, _))
  | .restart => inferInstanceAs (Decidable True)
  | .others _ => inferInstanceAs (Decidable True)

/-! ## The families are apart -/

variable {row : Incident}

theorem latency_only {osd : Nat} (h : row.cephCode = latencyFamily.osdCode osd) :
    deviceFamily.isOpen row = false ∧ ∀ p : VolumePoll, p.family.isOpen row = false := by
  have hlist : row.cephCode.toList = "OSD_LATENCY_HIGH:".toList ++ (toString osd).toList := by
    rw [h]
    exact String.toList_append
  unfold Family.isOpen
  rw [hlist]
  refine ⟨rfl, fun p => ?_⟩
  rw [p.family_start]
  rfl

theorem device_only {osd : Nat} (h : row.cephCode = deviceFamily.osdCode osd) :
    latencyFamily.isOpen row = false ∧ ∀ p : VolumePoll, p.family.isOpen row = false := by
  have hlist : row.cephCode.toList =
      "DEVICE_HEALTH_EVACUATE:".toList ++ (toString osd).toList := by
    rw [h]
    exact String.toList_append
  unfold Family.isOpen
  rw [hlist]
  refine ⟨rfl, fun p => ?_⟩
  rw [p.family_start]
  rfl

theorem volume_only {pool image : String} (h : row.cephCode = volumeCode pool image) :
    latencyFamily.isOpen row = false ∧ deviceFamily.isOpen row = false := by
  have hlist : row.cephCode.toList =
      "VOLUME_SATURATED:".toList ++ (pool ++ "/" ++ image).toList := by
    rw [h]
    exact String.toList_append
  unfold Family.isOpen
  rw [hlist]
  exact ⟨rfl, rfl⟩

/-! ## One poll -/

section Polls

variable {S : Setup} {w w' : World}

theorem sound_latency {s : LatencyScan} (h : Observes S w (.scanLatency s))
    (hstep : step S w (.scanLatency s) = some w') : Sound S w (.scanLatency s) w' := by
  simp only [step, Option.some.injEq] at hstep
  subst hstep
  refine ⟨?_, ?_, ?_, ?_⟩
  · intro id row osd hrow hopen hcode hresolved
    refine ⟨?_, s, rfl⟩
    obtain ⟨hisOpen, hmeasured⟩ := OsdLatency.resolved_spec hrow hopen hresolved
    obtain ⟨o, _, hcode', hobserves⟩ := h row (Table.mem_of_get hrow) hisOpen
    have hosd : o.osdId = osd := latencyFamily.osdCode_injective (hcode'.symm.trans hcode)
    rw [hosd] at hobserves
    rw [endsRun_concat]
    unfold normalOrGone
    rcases hobserves with ⟨hm, hrun⟩ | ⟨hgone, hrun⟩
    · obtain ⟨hhigh, henough⟩ := hmeasured osd hcode hm
      refine ⟨?_, ?_⟩
      · rw [hm, hhigh]
        rfl
      · rcases hrun with hrun | hrun | hrun
        · rw [hhigh] at hrun
          cases hrun
        · omega
        · exact hrun
    · refine ⟨?_, hrun⟩
      rw [hgone, Bool.or_true, if_pos rfl]
  · intro id row osd hrow hopen hcode hresolved
    have hisOpen := (OsdLatency.resolved_spec hrow hopen hresolved).1
    rw [(device_only hcode).1] at hisOpen
    cases hisOpen
  · intro pk a a' row osd ha ha' hrow hcode hne
    obtain ⟨row', hrow', hisOpen⟩ := OsdLatency.open_of_cancelled ha ha' hne
    rw [hrow, Option.some.injEq] at hrow'
    rw [← hrow', (device_only hcode).1] at hisOpen
    cases hisOpen
  · intro id row pool image hrow hopen hcode hresolved
    have hisOpen := (OsdLatency.resolved_spec hrow hopen hresolved).1
    rw [(volume_only hcode).1] at hisOpen
    cases hisOpen

theorem deviceCleared_of_clears {p : DevicePoll} (h : Observes S w (.pollDevices p))
    {id : Nat} {row : Incident} (hrow : w.db.incident? id = some row) {osd : Nat}
    (hcode : row.cephCode = deviceFamily.osdCode osd) (hclears : p.Clears S.thresholdDays row) :
    DeviceCleared S p osd := by
  obtain ⟨hisOpen, hnot⟩ := hclears
  obtain ⟨hlisted, hdumps⟩ := h row (Table.mem_of_get hrow) hisOpen
  refine ⟨hlisted, ?_⟩
  by_cases hpredicted : osd ∈ p.predicted S.thresholdDays
  · right
    have hnotIn := hnot osd hcode hpredicted
    rw [← List.contains_iff_mem, Bool.not_eq_true] at hnotIn
    unfold DevicePoll.showsOut
    rw [hdumps osd hpredicted hcode.symm, hnotIn]
    rfl
  · exact .inl hpredicted

theorem sound_devices {p : DevicePoll} (h : Observes S w (.pollDevices p))
    (hstep : step S w (.pollDevices p) = some w') : Sound S w (.pollDevices p) w' := by
  simp only [step, Option.some.injEq] at hstep
  subst hstep
  refine ⟨?_, ?_, ?_, ?_⟩
  · intro id row osd hrow hopen hcode hresolved
    have hclears := DeviceHealth.clears_of_resolved hrow hopen hresolved
    have hisOpen := hclears.1
    rw [(latency_only hcode).1] at hisOpen
    cases hisOpen
  · intro id row osd hrow hopen hcode hresolved
    have hclears := DeviceHealth.clears_of_resolved hrow hopen hresolved
    exact ⟨p, rfl, deviceCleared_of_clears h hrow hcode hclears⟩
  · intro pk a a' row osd ha ha' hrow hcode hne
    obtain ⟨row', hrow', hclears⟩ := DeviceHealth.clears_of_cancelled ha ha' hne
    rw [hrow, Option.some.injEq] at hrow'
    exact ⟨p, rfl, deviceCleared_of_clears h hrow hcode (hrow' ▸ hclears)⟩
  · intro id row pool image hrow hopen hcode hresolved
    have hclears := DeviceHealth.clears_of_resolved hrow hopen hresolved
    have hisOpen := hclears.1
    rw [(volume_only hcode).2] at hisOpen
    cases hisOpen

theorem sustainedAfter_of_open {p : VolumePoll} {id : Nat} {row : Incident}
    (hrow : w.db.incident? id = some row) (hisOpen : p.family.isOpen row = true)
    {o : VolumeIoSample} (ho : w.opening id = some o) :
    w.sustainedAfter p id = w.sustains p row o := by
  unfold Family.isOpen at hisOpen
  rw [Bool.and_eq_true] at hisOpen
  unfold World.sustainedAfter
  rw [hrow]
  simp only [if_pos hisOpen.2, ho, Option.all_some]

theorem sound_volumes {p : VolumePoll} (h : Observes S w (.pollVolumes p))
    (hstep : step S w (.pollVolumes p) = some w') : Sound S w (.pollVolumes p) w' := by
  simp only [step, Option.some.injEq] at hstep
  subst hstep
  refine ⟨?_, ?_, ?_, ?_⟩
  · intro id row osd hrow hopen hcode hresolved
    have hisOpen := (VolumeSaturation.resolved_spec hrow hopen hresolved).1
    rw [(latency_only hcode).2 p] at hisOpen
    cases hisOpen
  · intro id row osd hrow hopen hcode hresolved
    have hisOpen := (VolumeSaturation.resolved_spec hrow hopen hresolved).1
    rw [(device_only hcode).2 p] at hisOpen
    cases hisOpen
  · intro pk a a' row osd ha ha' hrow hcode hne
    obtain ⟨row', hrow', hisOpen⟩ := VolumeSaturation.open_of_cancelled ha ha' hne
    rw [hrow, Option.some.injEq] at hrow'
    rw [← hrow', (device_only hcode).2 p] at hisOpen
    cases hisOpen
  · intro id row pool image hrow hopen hcode hresolved
    obtain ⟨hisOpen, hunseen⟩ := VolumeSaturation.resolved_spec hrow hopen hresolved
    obtain ⟨hsample, hsustained⟩ := h row (Table.mem_of_get hrow) hisOpen
    refine ⟨p, rfl, hsample, ?_⟩
    intro o ho
    have hid : row.id = id := Table.key_of_get hrow
    rw [hid, ho, Option.any_some, ← sees_iff, hunseen] at hsustained
    show w.sustainedAfter p id = false
    rw [sustainedAfter_of_open hrow hisOpen ho]
    cases hsustains : w.sustains p row o with
    | false => rfl
    | true => exact absurd (hsustained hsustains) Bool.false_ne_true

end Polls

/-! ## Every run -/

theorem sound_restart (S : Setup) (w w' : World) (hdb : w'.db = w.db) : Sound S w .restart w' := by
  have hkept : ∀ {id : Nat} {row : Incident}, w.db.incident? id = some row →
      row.status ≠ .resolved → w'.db.incidentStatus id ≠ some .resolved := by
    intro id row hrow hopen hresolved
    rw [hdb] at hresolved
    unfold Db.incidentStatus at hresolved
    rw [hrow] at hresolved
    exact hopen (Option.some.inj hresolved)
  refine ⟨?_, ?_, ?_, ?_⟩
  · exact fun id row osd hrow hopen _ h => absurd h (hkept hrow hopen)
  · exact fun id row osd hrow hopen _ h => absurd h (hkept hrow hopen)
  · intro pk a a' row osd ha ha' _ _ hne
    rw [hdb, ha, Option.some.injEq] at ha'
    exact absurd (congrArg Action.status ha'.symm) hne
  · exact fun id row pool image hrow hopen _ h => absurd h (hkept hrow hopen)

/-- **Recovery as it was observed.**  In every run whose polls observe what is open, what a
step of the Watcher resolves was seen to recover. -/
theorem recovered_as_observed (S : Setup) (w : World) (ls : List Label)
    (h : (watcher S).Meets (Observes S) w ls) :
    (watcher S).Always (fun w l w' => l.ofWatcher = true → Sound S w l w') w ls := by
  apply (watcher S).always_of_meets _ _ (fun _ => True) _ ls w True.intro h
  intro w l w' _ hobserves hstep
  refine ⟨?_, True.intro⟩
  intro hwatcher
  cases l with
  | scanLatency s => exact sound_latency hobserves hstep
  | pollDevices p => exact sound_devices hobserves hstep
  | pollVolumes p => exact sound_volumes hobserves hstep
  | restart =>
    apply sound_restart
    rw [show (watcher S).step w .restart = some _ from rfl, Option.some.injEq] at hstep
    subst hstep
    rfl
  | others db => cases hwatcher

/-! ## A slow OSD, a device and a volume -/

/-- Two scans open and two close; a week ahead; every Action is risky. -/
def setup : Setup := ⟨⟨2, 2⟩, 7, fun _ => .risky⟩

/-- Nothing has been polled yet. -/
def empty : World where
  db := ⟨[], [], []⟩
  counts := Counts.empty
  states := fun _ => {}
  scans := []
  opening := fun _ => none
  sustained := fun _ => true

/-- A scan of four OSDs, the last of which has this latency. -/
def latencyScan (ms : ℚ) : LatencyScan where
  perf := .infos [⟨0, some 1, none⟩, ⟨1, some 1, none⟩, ⟨2, some 1, none⟩, ⟨3, some ms, none⟩]
  osds := some [⟨0, "ceph1", "up"⟩, ⟨1, "ceph1", "up"⟩, ⟨2, "ceph2", "up"⟩, ⟨3, "ceph2", "up"⟩]
  stored := true

/-- A scan whose `ceph osd perf` fails. -/
def failedScan : LatencyScan := { latencyScan 1 with perf := .failed }

/-- A poll of one device, which is expected to fail at this time. -/
def devicePoll (lifeMin : Option Int) : DevicePoll where
  now := 0
  deviceLs := .rows [⟨"disk0", lifeMin, [.osd 0]⟩]
  osdDump := .rows [⟨0, true⟩]
  tree := true
  stored := true

def volumePoll (iops latencyMs : ℚ) : VolumePoll where
  clusterId := none
  includeLegacyNull := true
  pools := some [some [⟨"vms", "disk", iops, latencyMs, latencyMs⟩]]
  persisted := true
  stored := true

/-- The last OSD is slow, and the device of the first one is about to fail. -/
def openRun : List Label :=
  [.scanLatency (latencyScan 20), .scanLatency (latencyScan 20), .pollDevices (devicePoll (some 0))]

/-- The volume fills its window and is saturated then. -/
def saturatedRun : List Label :=
  List.replicate 12 (.pollVolumes (volumePoll 100 1)) ++
    List.replicate 4 (.pollVolumes (volumePoll 100 10))

/-- All three recover. -/
theorem recovered_after_openRun :
    (watcher setup).Always (fun w l w' => l.ofWatcher = true → Sound setup w l w') empty
      (openRun ++ saturatedRun ++
        [.scanLatency (latencyScan 1), .scanLatency (latencyScan 1),
          .pollDevices (devicePoll none), .pollVolumes (volumePoll 20 1)]) :=
  recovered_as_observed setup empty _ (by decide +kernel)

/-- **A failed query** resolves the Incident of the slow OSD. -/
theorem resolved_by_failed_query :
    ¬ ∀ (S : Setup) (w : World) (ls : List Label),
      (watcher S).Always (fun w l w' => l.ofWatcher = true → Sound S w l w') w ls := by
  intro h
  have hall := h setup empty (openRun ++ [.scanLatency failedScan])
  have hrun : (watcher setup).run empty openRun =
      some (((watcher setup).run empty openRun).getD empty) := by
    rfl
  have hstep := hall.step_after rfl openRun empty hrun rfl
  have hresolved := (hstep.latency 1
    (newIncident ⟨[], [], []⟩ none (latencyFamily.osdCode 3) none .pendingApproval) 3
    (by decide +kernel) (by decide) rfl (by decide +kernel)).1
  rw [endsRun_concat] at hresolved
  cases hresolved.1

end CephAi.Ports.ObservedRecovery
