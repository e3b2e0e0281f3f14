import Mathlib.Data.List.Dedup
import CephAi.Ports.MonitorFamilies

/-!
# Devices that are predicted to fail

`check_predicted_failing_osds` of `watcher/device_health_monitor.py`: an OSD that is in the
cluster on a device whose life expectancy ends within the horizon gets a proposal to evacuate
it.

## Main results

* `clears_of_resolved` — an Incident that a poll resolves has an OSD that the two queries do
  not show as predicted to fail and `in`.
* `clears_of_cancelled` — what a poll cancels belongs to such an Incident.
-/

namespace CephAi.Ports.DeviceHealth

open Verified
open Models MonitorFamilies

/-! ## A poll -/

/-- UTC, in seconds. -/
abbrev Time := Int

/-- An entry of a device's `daemons`, by `_OSD_DAEMON_RE`. -/
inductive Daemon
  | osd (id : Nat)
  | other (name : String)
deriving DecidableEq, Repr

/-- A device of `ceph device ls`, with its `life_expectancy_min` where that parses. -/
structure Device where
  devid : String
  lifeExpectancyMin : Option Time
  daemons : List Daemon
deriving DecidableEq, Repr

/-- An entry of `ceph osd dump`; `isIn` says `in == 1`. -/
structure DumpRow where
  osd : Nat
  isIn : Bool
deriving DecidableEq, Repr

/-- The answer of a query: it failed, it has another shape, or it lists these. -/
inductive Reply (α : Type)
  | failed
  | unreadable
  | rows (l : List α)
deriving Repr

/-- What a poll is told; `tree` says that `list_osds` does not raise. -/
structure DevicePoll where
  now : Time
  deviceLs : Reply Device
  osdDump : Reply DumpRow
  tree : Bool
  stored : Bool

/-- The rows that were read. -/
def Reply.read {α : Type} : Reply α → List α
  | .rows l => l
  | _ => []

def Daemon.osd? : Daemon → Option Nat
  | .osd id => some id
  | .other _ => none

/-- The device is expected to fail before the horizon. -/
def Device.failsBy (horizon : Time) (d : Device) : Bool :=
  d.lifeExpectancyMin.any fun lifeMin => decide (lifeMin ≤ horizon)

/-- `settings.device_health_evacuate_threshold_days` from now. -/
def DevicePoll.horizon (p : DevicePoll) (thresholdDays : Int) : Time :=
  p.now + thresholdDays * 86400

/-- The OSDs on a device that is expected to fail. -/
def DevicePoll.predicted (p : DevicePoll) (thresholdDays : Int) : List Nat :=
  (p.deviceLs.read.filter (Device.failsBy (p.horizon thresholdDays))).flatMap
    fun d => d.daemons.filterMap Daemon.osd?

def DevicePoll.osdIdsIn (p : DevicePoll) : List Nat :=
  (p.osdDump.read.filter DumpRow.isIn).map DumpRow.osd

/-- The Incidents of this monitor. -/
def deviceFamily : Family := ⟨"DEVICE_HEALTH_EVACUATE:", none, fun _ => true⟩

/-- The proposal for an OSD. -/
def finding (osd : Nat) : Finding where
  cephCode := deviceFamily.osdCode osd
  actionId := "evacuate_predicted_failing_osd"
  params := [("osd_id", .text (toString osd))]

def DevicePoll.candidates (p : DevicePoll) (thresholdDays : Int) : List Nat :=
  ((p.predicted thresholdDays).filter fun osd => p.osdIdsIn.contains osd).dedup

def checkPredictedFailingOsds (thresholdDays : Int) (p : DevicePoll) : Option Report :=
  match p.deviceLs, p.osdDump with
  | .failed, _ => some ⟨[], []⟩
  | _, .failed => some ⟨[], []⟩
  | _, _ =>
    if p.tree then some ⟨(p.candidates thresholdDays).map finding, []⟩ else none

/-- The transaction of a poll; `none` when nothing is committed. -/
def DevicePoll.commit (p : DevicePoll) (thresholdDays : Int)
    (classify : String → ActionClassification) (db : Db) : Option Db :=
  (checkPredictedFailingOsds thresholdDays p).bind fun report =>
    if p.stored then deviceFamily.createOrResolve classify db report else none

/-- `scan_device_health`: the Incidents afterwards. -/
def DevicePoll.run (p : DevicePoll) (thresholdDays : Int)
    (classify : String → ActionClassification) (db : Db) : Db :=
  (p.commit thresholdDays classify db).getD db

/-! ## What a poll says of an OSD -/

/-- `ceph device ls` answered with a list. -/
def DevicePoll.listed (p : DevicePoll) : Bool :=
  match p.deviceLs with
  | .rows _ => true
  | _ => false

/-- `ceph osd dump` answered, and shows the OSD. -/
def DevicePoll.dumps (p : DevicePoll) (osd : Nat) : Bool :=
  p.osdDump.read.any fun row => row.osd == osd

def DevicePoll.showsOut (p : DevicePoll) (osd : Nat) : Bool :=
  p.dumps osd && !p.osdIdsIn.contains osd

variable {p : DevicePoll} {report : Report} {thresholdDays : Int}

theorem mem_candidates {osd : Nat} (hpredicted : osd ∈ p.predicted thresholdDays)
    (hin : osd ∈ p.osdIdsIn) : osd ∈ p.candidates thresholdDays := by
  unfold DevicePoll.candidates
  rw [List.mem_dedup, List.mem_filter]
  exact ⟨hpredicted, List.contains_iff_mem.mpr hin⟩

theorem check_of_candidate (h : checkPredictedFailingOsds thresholdDays p = some report) {osd : Nat}
    (hpredicted : osd ∈ p.predicted thresholdDays) (hin : osd ∈ p.osdIdsIn) :
    report.has (deviceFamily.osdCode osd) = true := by
  have hmem := mem_candidates hpredicted hin
  unfold DevicePoll.predicted at hpredicted
  unfold DevicePoll.osdIdsIn at hin
  unfold checkPredictedFailingOsds at h
  have hreport : (if p.tree then some ⟨(p.candidates thresholdDays).map finding, []⟩ else none) =
      some report := by
    cases hdevice : p.deviceLs with
    | failed | unreadable =>
      rw [hdevice] at hpredicted
      cases hpredicted
    | rows devices =>
      cases hdump : p.osdDump with
      | failed | unreadable =>
        rw [hdump] at hin
        cases hin
      | rows rows =>
        rw [hdevice, hdump] at h
        exact h
  split_ifs at hreport
  rw [Option.some.injEq] at hreport
  rw [← hreport]
  unfold Report.has
  rw [Bool.or_eq_true, List.any_eq_true]
  left
  exact ⟨finding osd, List.mem_map_of_mem hmem, beq_self_eq_true _⟩

/-- An Incident of this monitor whose OSD the poll does not show as a candidate. -/
def DevicePoll.Clears (p : DevicePoll) (thresholdDays : Int) (row : Incident) : Prop :=
  deviceFamily.isOpen row = true ∧ ∀ osd, row.cephCode = deviceFamily.osdCode osd →
    osd ∈ p.predicted thresholdDays → osd ∉ p.osdIdsIn

section

variable (h : checkPredictedFailingOsds thresholdDays p = some report)
include h

theorem clears_of_resolves {row : Incident} (hresolves : deviceFamily.resolves report row = true) :
    p.Clears thresholdDays row := by
  obtain ⟨hopen, hhas⟩ := resolves_iff.mp hresolves
  refine ⟨hopen, ?_⟩
  intro osd hcode hpredicted hin
  rw [hcode, check_of_candidate h hpredicted hin] at hhas
  cases hhas

theorem committed_of_check {classify : String → ActionClassification} {db : Db} (db' : Db)
    (hcommit : p.commit thresholdDays classify db = some db') :
    deviceFamily.createOrResolve classify db report = some db' := by
  unfold DevicePoll.commit at hcommit
  rw [h, Option.bind_some] at hcommit
  split_ifs at hcommit
  exact hcommit

end

section Run

variable {p : DevicePoll} {thresholdDays : Int} {classify : String → ActionClassification}
  {db : Db}

/-- **What a poll resolves** it clears. -/
theorem clears_of_resolved {id : Nat} {row : Incident} (hrow : db.incident? id = some row)
    (hopen : row.status ≠ .resolved)
    (h : (p.run thresholdDays classify db).incidentStatus id = some .resolved) :
    p.Clears thresholdDays row := by
  cases hcheck : checkPredictedFailingOsds thresholdDays p with
  | none =>
    simp only [DevicePoll.run, DevicePoll.commit, hcheck, Option.bind_none, Option.getD_none,
      Db.incidentStatus, hrow, Option.map_some, Option.some.injEq] at h
    exact absurd h hopen
  | some report =>
    exact clears_of_resolves hcheck
      (resolves_of_getD (committed_of_check hcheck) hrow hopen h)

/-- **What a poll cancels** belongs to an Incident that it clears. -/
theorem clears_of_cancelled {pk : Nat} {a a' : Action} (ha : db.action? pk = some a)
    (ha' : (p.run thresholdDays classify db).action? pk = some a') (hne : a'.status ≠ a.status) :
    ∃ row, db.incident? a.incidentId = some row ∧ p.Clears thresholdDays row := by
  cases hcheck : checkPredictedFailingOsds thresholdDays p with
  | none =>
    simp only [DevicePoll.run, DevicePoll.commit, hcheck, Option.bind_none, Option.getD_none,
      ha, Option.some.injEq] at ha'
    exact absurd (congrArg Action.status ha'.symm) hne
  | some report =>
    obtain ⟨row, hrow, hresolves⟩ :=
      resolves_of_cancelled_getD (committed_of_check hcheck) ha ha' hne
    exact ⟨row, hrow, clears_of_resolves hcheck hresolves⟩

end Run

end CephAi.Ports.DeviceHealth
