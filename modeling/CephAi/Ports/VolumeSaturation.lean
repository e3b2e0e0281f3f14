import Mathlib.Algebra.Order.Ring.Rat
import Mathlib.Data.List.Sort
import CephAi.Ports.MonitorFamilies

/-!
# Saturated volumes

`check_volumes` of `watcher/volume_monitor.py`: a sample of a volume is compared with the
volume's last samples, its window, and a volume that looked saturated in three samples in a
row is reported.

## Main results

* `sees_iff` — what a poll sees as saturated, by the windows.
* `resolved_spec` — a volume whose Incident a poll resolves was not seen saturated in it.
-/

namespace CephAi.Ports.VolumeSaturation

open Verified
open Models MonitorFamilies

/-! ## Samples and windows -/

/-- A sample of `rbd perf image iostat`. -/
structure VolumeIoSample where
  pool : String
  image : String
  iops : ℚ
  readLatencyMs : ℚ
  writeLatencyMs : ℚ
deriving DecidableEq, Repr

def VolumeIoSample.latencyMs (s : VolumeIoSample) : ℚ := max s.readLatencyMs s.writeLatencyMs

def rollingWindowSize : Nat := 12

/-- A `deque` with this `maxlen`. -/
structure Window where
  values : List ℚ
  bounded : values.length ≤ rollingWindowSize

def Window.empty : Window := ⟨[], Nat.zero_le _⟩

def Window.push (w : Window) (value : ℚ) : Window where
  values := (w.values ++ [value]).drop (w.values.length + 1 - rollingWindowSize)
  bounded := by
    rw [List.length_drop, List.length_append, List.length_singleton]
    omega

def Window.full (w : Window) : Bool := decide (rollingWindowSize ≤ w.values.length)

/-- `max` of a window that is not empty. -/
def Window.peak (w : Window) : ℚ := w.values.foldl max (w.values.headD 0)

/-- `sorted(window)[len(window) // 2]` -/
def Window.median (w : Window) : ℚ :=
  (w.values.insertionSort (· ≤ ·)).getD (w.values.length / 2) 0

structure VolumeState where
  iopsWindow : Window := Window.empty
  latencyWindow : Window := Window.empty
  consecutiveSaturatedPolls : Nat := 0

def looksSaturated (state : VolumeState) (iops latencyMs : ℚ) : Bool :=
  if !state.iopsWindow.full then false
  else
    let peakIops := state.iopsWindow.peak
    let baselineLatencyMs := state.latencyWindow.median
    let nearPeak := decide (0 < peakIops) && decide (9 / 10 * peakIops ≤ iops)
    let latencyElevated :=
      decide (0 < baselineLatencyMs) && decide (2 * baselineLatencyMs ≤ latencyMs)
    nearPeak && latencyElevated

/-- What a sample does to the state of its volume. -/
def visit (state : VolumeState) (s : VolumeIoSample) : VolumeState where
  iopsWindow := state.iopsWindow.push s.iops
  latencyWindow := state.latencyWindow.push s.latencyMs
  consecutiveSaturatedPolls :=
    if looksSaturated state s.iops s.latencyMs then state.consecutiveSaturatedPolls + 1 else 0

def saturatedNow (state : VolumeState) (s : VolumeIoSample) : Bool :=
  decide (3 ≤ (visit state s).consecutiveSaturatedPolls)

/-! ## A poll -/

/-- The keys of `_state`. -/
abbrev Key := Option String × String × String

def VolumeIoSample.key (clusterId : Option String) (s : VolumeIoSample) : Key :=
  (clusterId, s.pool, s.image)

/-- `_state` -/
abbrev States := Key → VolumeState

/-- The open Incidents that a poll of this cluster looks at. -/
def volumeFamily (clusterId : Option String) (includeLegacyNull : Bool) : Family where
  start := "VOLUME_SATURATED:"
  clusterId := clusterId
  scope := fun i =>
    match clusterId with
    | some _ => i.clusterId == clusterId || includeLegacyNull && i.clusterId == none
    | none => i.clusterId == none

/-- `ceph_code_for` -/
def volumeCode (pool image : String) : String := "VOLUME_SATURATED:" ++ (pool ++ "/" ++ image)

def VolumeIoSample.code (s : VolumeIoSample) : String := volumeCode s.pool s.image

/-- What a poll is told: the samples of each pool whose query succeeds, or nothing when the
pools are not found; `persisted` says that `persist_last_poll_metrics` does not raise. -/
structure VolumePoll where
  clusterId : Option String
  includeLegacyNull : Bool
  pools : Option (List (Option (List VolumeIoSample)))
  persisted : Bool
  stored : Bool

def VolumePoll.family (p : VolumePoll) : Family := volumeFamily p.clusterId p.includeLegacyNull

theorem VolumePoll.family_start (p : VolumePoll) : p.family.start = "VOLUME_SATURATED:" := rfl

def VolumePoll.samples (p : VolumePoll) : List VolumeIoSample :=
  (p.pools.getD []).flatMap fun samples => samples.getD []

/-- The samples with the state that each of them finds. -/
def visits (clusterId : Option String) : States → List VolumeIoSample →
    List (VolumeState × VolumeIoSample)
  | _, [] => []
  | states, s :: samples =>
    (states (s.key clusterId), s) ::
      visits clusterId
        (Function.update states (s.key clusterId) (visit (states (s.key clusterId)) s)) samples

/-- `_state` after the samples. -/
def visitAll (clusterId : Option String) (states : States) (samples : List VolumeIoSample) :
    States :=
  samples.foldl (fun states s =>
    Function.update states (s.key clusterId) (visit (states (s.key clusterId)) s)) states

/-- The entry of a volume in `saturated`. -/
def finding (s : VolumeIoSample) : Finding where
  cephCode := s.code
  actionId := "investigate_manually"
  params := [("pool", .text s.pool), ("image", .text s.image)]

/-- The samples that are saturated now, with the state that they find. -/
def VolumePoll.saturated (p : VolumePoll) (states : States) :
    List (VolumeState × VolumeIoSample) :=
  (visits p.clusterId states p.samples).filter fun v => saturatedNow v.1 v.2

/-- `check_volumes` -/
def VolumePoll.report (p : VolumePoll) (states : States) : Report :=
  ⟨byCode ((p.saturated states).map fun v => finding v.2), []⟩

/-- `scan_volumes`: the Incidents and the states afterwards. -/
def VolumePoll.run (p : VolumePoll) (classify : String → ActionClassification) (db : Db)
    (states : States) : Db × States :=
  ((if p.persisted && p.stored then p.family.createOrResolve classify db (p.report states)
    else none).getD db,
    visitAll p.clusterId states p.samples)

/-! ## What a poll says of a volume -/

/-- A sample of the volume with this code is saturated now. -/
def VolumePoll.sees (p : VolumePoll) (states : States) (cephCode : String) : Bool :=
  (p.saturated states).any fun v => v.2.code == cephCode

theorem has_report (p : VolumePoll) (states : States) (cephCode : String) :
    (p.report states).has cephCode = p.sees states cephCode := by
  unfold Report.has VolumePoll.report VolumePoll.sees
  rw [any_byCode, List.any_map, show ([] : List String).contains cephCode = false from rfl,
    Bool.or_false]
  rfl

section Run

variable {p : VolumePoll} {classify : String → ActionClassification} {db : Db}
  {states : States}

theorem committed_of_run (db' : Db)
    (h : (if p.persisted && p.stored then
      p.family.createOrResolve classify db (p.report states) else none) = some db') :
    p.family.createOrResolve classify db (p.report states) = some db' := by
  split_ifs at h
  exact h

/-- **What a poll resolves** is open in its scope, and its volume was not seen saturated. -/
theorem resolved_spec {id : Nat} {row : Incident} (hrow : db.incident? id = some row)
    (hopen : row.status ≠ .resolved)
    (h : (p.run classify db states).1.incidentStatus id = some .resolved) :
    p.family.isOpen row = true ∧ p.sees states row.cephCode = false := by
  have hresolves := resolves_of_getD committed_of_run hrow hopen h
  rw [resolves_iff, has_report] at hresolves
  exact hresolves

theorem open_of_cancelled {pk : Nat} {a a' : Action} (ha : db.action? pk = some a)
    (ha' : (p.run classify db states).1.action? pk = some a') (hne : a'.status ≠ a.status) :
    ∃ row, db.incident? a.incidentId = some row ∧ p.family.isOpen row = true := by
  obtain ⟨row, hrow, hresolves⟩ := resolves_of_cancelled_getD committed_of_run ha ha' hne
  exact ⟨row, hrow, (resolves_iff.mp hresolves).1⟩

end Run

/-- The window is full, the sample is near its peak and its latency is at least twice the
median; and the last two samples looked saturated, too. -/
def Elevated (state : VolumeState) (s : VolumeIoSample) : Prop :=
  (state.iopsWindow.full = true ∧ 0 < state.iopsWindow.peak ∧
    9 / 10 * state.iopsWindow.peak ≤ s.iops ∧ 0 < state.latencyWindow.median ∧
    2 * state.latencyWindow.median ≤ s.latencyMs) ∧
  2 ≤ state.consecutiveSaturatedPolls

instance (state : VolumeState) (s : VolumeIoSample) : Decidable (Elevated state s) :=
  inferInstanceAs (Decidable ((_ ∧ _ ∧ _ ∧ _ ∧ _) ∧ _))

theorem looksSaturated_spec {state : VolumeState} {iops latencyMs : ℚ} :
    looksSaturated state iops latencyMs = true ↔
      state.iopsWindow.full = true ∧ 0 < state.iopsWindow.peak ∧
        9 / 10 * state.iopsWindow.peak ≤ iops ∧ 0 < state.latencyWindow.median ∧
        2 * state.latencyWindow.median ≤ latencyMs := by
  unfold looksSaturated
  cases state.iopsWindow.full with
  | false => simp
  | true =>
    simp only [Bool.not_true, Bool.false_eq_true, if_false, Bool.and_eq_true,
      decide_eq_true_eq, true_and, and_assoc]

/-- **When a sample is saturated now.** -/
theorem saturatedNow_iff {state : VolumeState} {s : VolumeIoSample} :
    saturatedNow state s = true ↔ Elevated state s := by
  unfold Elevated
  rw [← looksSaturated_spec]
  unfold saturatedNow visit
  rw [decide_eq_true_eq]
  cases looksSaturated state s.iops s.latencyMs with
  | true =>
    simp only [if_true, true_and]
    omega
  | false => simp

/-- **What a poll sees** is a sample that is elevated against the window it finds. -/
theorem sees_iff {p : VolumePoll} {states : States} {cephCode : String} :
    p.sees states cephCode = true ↔
      ∃ v ∈ visits p.clusterId states p.samples, v.2.code = cephCode ∧ Elevated v.1 v.2 := by
  unfold VolumePoll.sees VolumePoll.saturated
  rw [List.any_eq_true]
  constructor
  · rintro ⟨v, hv, hcode⟩
    rw [List.mem_filter, saturatedNow_iff] at hv
    exact ⟨v, hv.1, eq_of_beq hcode, hv.2⟩
  · rintro ⟨v, hv, hcode, helevated⟩
    refine ⟨v, ?_, beq_iff_eq.mpr hcode⟩
    rw [List.mem_filter, saturatedNow_iff]
    exact ⟨hv, helevated⟩

end CephAi.Ports.VolumeSaturation
