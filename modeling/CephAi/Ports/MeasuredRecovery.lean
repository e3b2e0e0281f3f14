import CephAi.Verified.Runs
import CephAi.Ports.CrushSkew
import CephAi.Ports.NodeHealth

/-!
# Recovery that was measured

The scans of nodes and of the CRUSH tree, in any order, with restarts that empty the counts
and with what others do to the database.  Both monitors take an entity that a scan does not
report for recovered, also when it was not measured at all.

## Main results

* `recoveredSoundly_nodes`, `recoveredSoundly_crush` — one scan that measures what is open.
* `recovered_soundly` — every run of such scans resolves what has recovered only, and no scan
  changes the count of what it does not measure.
* `resolved_unmeasured` — a scan in which the metrics of an overloaded node are missing.
-/

namespace CephAi.Ports.MeasuredRecovery

open Verified Verified.Runs
open Models
open MonitorFamilies
open Scheduler (newIncident)
open NodeHealth (NodeScan Sample Reading nodeFamily)
open CrushSkew (CrushScan Signal Entity Evidence openFamily isOver)

/-! ## The system -/

/-- The texts' `casefold`, the rounding of a skew, and `gate.classify_action`. -/
structure Setup where
  casefold : String → String
  fl : ℚ → ℚ
  classify : String → ActionClassification

/-- The database with the evidence of the family Incidents, and one process of the Watcher. -/
structure World where
  db : Db
  evidence : Evidence
  nodeStreaks : NodeHealth.Streaks
  skewStreaks : CrushSkew.Streaks

/-- A step. -/
inductive Label
  | scanNodes (s : NodeScan)
  | scanCrush (s : CrushScan)
  | restart
  | others (db : Db) (evidence : Evidence)

def step (S : Setup) (w : World) : Label → Option World
  | .scanNodes s =>
    let after := s.run S.casefold S.classify w.db w.nodeStreaks
    some { w with db := after.1, nodeStreaks := after.2 }
  | .scanCrush s =>
    let after := s.run S.fl S.classify w.db w.evidence w.skewStreaks
    some { w with db := after.1.1, evidence := after.1.2, skewStreaks := after.2 }
  | .restart => some { w with nodeStreaks := fun _ => 0, skewStreaks := fun _ => 0 }
  | .others db evidence => some { w with db := db, evidence := evidence }

/-- The monitors and the others. -/
def watcher (S : Setup) : System World Label := ⟨step S⟩

/-! ## What a scan should do -/

/-- The scan measured the host below both thresholds, or it is no longer configured. -/
def NodeRecovered (S : Setup) (s : NodeScan) (host : String) : Prop :=
  (∃ m, s.measured S.casefold host m ∧ m.cpu < 90 ∧ m.mem < 90) ∨
    ∀ node ∈ s.configured, node.host ≠ host

/-- The scan measured the entity below the threshold, or it is gone from the tree. -/
def EntityRecovered (S : Setup) (s : CrushScan) (signal : Signal) (e : Entity) : Prop :=
  (∃ v ∈ s.visits, v.signal = signal ∧ v.entity = e ∧
      ∃ skew, v.skew S.fl s.distribution = some skew ∧ |skew| < 1 / 2) ∨
    ∀ v ∈ s.visits, v.entity ≠ e

/-- What is resolved has recovered, and the counts of what was not measured are kept. -/
def RecoveredSoundly (S : Setup) (w : World) (l : Label) (w' : World) : Prop :=
  match l with
  | .scanNodes s =>
    (∀ id row, w.db.incident? id = some row → row.status ≠ .resolved →
      w'.db.incidentStatus id = some .resolved →
        (∀ host, row.cephCode = nodeFamily.codeFor host → NodeRecovered S s host) ∧
          ∀ signal : Signal, row.cephCode ≠ signal.family) ∧
    (∀ host, (∀ m, ¬ s.measured S.casefold host m) → w'.nodeStreaks host = w.nodeStreaks host) ∧
    w'.skewStreaks = w.skewStreaks
  | .scanCrush s =>
    (∀ id row, w.db.incident? id = some row → row.status ≠ .resolved →
      w'.db.incidentStatus id = some .resolved →
        (∀ host, row.cephCode ≠ nodeFamily.codeFor host) ∧
          ∀ signal : Signal, row.cephCode = signal.family → s.roots.isSome = true ∧
            ∀ e ∈ w.evidence id, EntityRecovered S s signal e) ∧
    (∀ key, (∀ v ∈ s.visits, (v.signal, v.entity) = key → v.skew S.fl s.distribution = none) →
      w'.skewStreaks key = w.skewStreaks key) ∧
    w'.nodeStreaks = w.nodeStreaks
  | .restart => w'.db = w.db
  | .others _ _ => True

/-- The scan has metrics of this host. -/
def reads (S : Setup) (s : NodeScan) (host : String) : Bool :=
  (NodeHealth.resourceNodes S.casefold s).contains host &&
    match (s.sources host).reading with
    | .sample _ => true
    | _ => false

/-- Where a family is open, an entity of it is over, or there is a tree and each entity of its
evidence that is in it has a skew. -/
def FamilyMeasured (S : Setup) (s : CrushScan) (evidence : Evidence) (signal : Signal)
    (i : Incident) : Prop :=
  (∃ v ∈ s.visits, v.signal = signal ∧ (v.skew S.fl s.distribution).any isOver = true) ∨
    s.roots.isSome = true ∧ ∀ e ∈ evidence i.id, (∃ v ∈ s.visits, v.entity = e) →
      ∃ v ∈ s.visits, v.signal = signal ∧ v.entity = e ∧
        (v.skew S.fl s.distribution).isSome = true

def MeasuresOpen (S : Setup) (w : World) : Label → Prop
  | .scanNodes s => ∀ node ∈ s.configured, ∀ i ∈ w.db.incidents, nodeFamily.isOpen i = true →
      i.cephCode = nodeFamily.codeFor node.host → reads S s node.host = true
  | .scanCrush s => ∀ signal ∈ [Signal.use, .pg], ∀ i ∈ openFamily w.db signal,
      FamilyMeasured S s w.evidence signal i
  | _ => True

instance decidableFamilyMeasured (S : Setup) (s : CrushScan) (evidence : Evidence)
    (signal : Signal) (i : Incident) : Decidable (FamilyMeasured S s evidence signal i) :=
  inferInstanceAs (Decidable (_ ∨ _ ∧ _))

instance decidableMeasuresOpen (S : Setup) (w : World) : ∀ l, Decidable (MeasuresOpen S w l)
  | .scanNodes s => inferInstanceAs (Decidable (∀ node ∈ s.configured, _))
  | .scanCrush _ => inferInstanceAs (Decidable (∀ signal ∈ [Signal.use, .pg], _))
  | .restart => inferInstanceAs (Decidable True)
  | .others _ _ => inferInstanceAs (Decidable True)

/-! ## One scan -/

variable {S : Setup}

theorem measured_of_reads {s : NodeScan} {host : String} (h : reads S s host = true) :
    ∃ m, s.measured S.casefold host m := by
  unfold reads at h
  rw [Bool.and_eq_true, List.contains_iff_mem] at h
  cases hreading : (s.sources host).reading with
  | sample m => exact ⟨m, h.1, hreading⟩
  | missing | raised =>
    rw [hreading] at h
    cases h.2

theorem family_not_open (i : Incident) (signal : Signal) (h : i.cephCode = signal.family) :
    nodeFamily.isOpen i = false := by
  unfold Family.isOpen
  rw [h]
  cases signal <;> rfl

/-- **A scan of the nodes that measures what is open.** -/
theorem recoveredSoundly_nodes {w w' : World} {s : NodeScan} (h : MeasuresOpen S w (.scanNodes s))
    (hstep : step S w (.scanNodes s) = some w') : RecoveredSoundly S w (.scanNodes s) w' := by
  simp only [step, Option.some.injEq] at hstep
  subst hstep
  refine ⟨?_, ?_, rfl⟩
  · intro id row hrow hopen hresolved
    obtain ⟨hisOpen, hnotOver⟩ := NodeHealth.resolved_not_over hrow hopen hresolved
    constructor
    · intro host hcode
      by_cases hconfigured : ∃ node ∈ s.configured, node.host = host
      · left
        obtain ⟨node, hnode, rfl⟩ := hconfigured
        have hreads := h node hnode row (Table.mem_of_get hrow) hisOpen hcode
        obtain ⟨m, hm⟩ := measured_of_reads hreads
        have hbelow := hnotOver node.host m hcode hm
        refine ⟨m, hm, ?_⟩
        simpa [Sample.over] using hbelow
      · right
        intro node hnode hhost
        exact hconfigured ⟨node, hnode, hhost⟩
    · intro signal hcode
      rw [family_not_open row signal hcode] at hisOpen
      cases hisOpen
  · intro host hmeasured
    exact NodeHealth.found_streak hmeasured

theorem crushOpen_nodeCode {i : Incident} {host : String}
    (h : i.cephCode = nodeFamily.codeFor host) : CrushSkew.crushOpen i = false := by
  have hlist : i.cephCode.toList = "NODE_RESOURCE_HIGH:".toList ++ host.toList := by
    rw [h]
    exact String.toList_append
  have hfamilies : CrushSkew.families.contains i.cephCode = false := by
    rw [← Bool.not_eq_true, List.contains_iff_mem]
    intro hmem
    simp only [CrushSkew.families, List.mem_cons, List.not_mem_nil, or_false] at hmem
    rcases hmem with hcode | hcode
    · rw [hcode] at hlist
      injection hlist with hhead _
      exact absurd hhead (by decide)
    · rw [hcode] at hlist
      injection hlist with hhead _
      exact absurd hhead (by decide)
  unfold CrushSkew.crushOpen
  rw [hfamilies, hlist]
  rfl

theorem isOver_false_iff (skew : ℚ) : isOver skew = false ↔ |skew| < 1 / 2 := by
  unfold isOver
  rw [decide_eq_false_iff_not, not_le]

/-- **A scan of the CRUSH tree that measures what is open.** -/
theorem recoveredSoundly_crush {w w' : World} {s : CrushScan} (h : MeasuresOpen S w (.scanCrush s))
    (hstep : step S w (.scanCrush s) = some w') : RecoveredSoundly S w (.scanCrush s) w' := by
  simp only [step, Option.some.injEq] at hstep
  subst hstep
  refine ⟨?_, ?_, rfl⟩
  · intro id row hrow hopen hresolved
    have hresolves := CrushSkew.resolves_of_resolved hrow hopen hresolved
    have hid : row.id = id := Table.key_of_get hrow
    constructor
    · intro host hcode
      unfold CrushSkew.Found.resolves at hresolves
      rw [crushOpen_nodeCode hcode, Bool.false_and] at hresolves
      cases hresolves
    · intro signal hcode
      obtain ⟨⟨i, hi, hiid⟩, hbelow⟩ := CrushSkew.resolved_unreported hcode hresolves
      have hmem : signal ∈ [Signal.use, .pg] := by cases signal <;> decide
      rcases h signal hmem i hi with ⟨v, hv, hsignal, hover⟩ | ⟨hroots, hmeasured⟩
      · obtain ⟨skew, hskew, hover⟩ := (Option.any_eq_true _ _).mp hover
        rw [hbelow v hv hsignal skew hskew] at hover
        cases hover
      · refine ⟨hroots, ?_⟩
        intro e he
        by_cases htree : ∃ v ∈ s.visits, v.entity = e
        · left
          rw [← hid, ← hiid] at he
          obtain ⟨v, hv, hsignal, hentity, hsome⟩ := hmeasured e he htree
          obtain ⟨skew, hskew⟩ := Option.isSome_iff_exists.mp hsome
          exact ⟨v, hv, hsignal, hentity, skew, hskew,
            (isOver_false_iff skew).mp (hbelow v hv hsignal skew hskew)⟩
        · right
          intro v hv hentity
          exact htree ⟨v, hv, hentity⟩
  · intro key hmeasured
    exact CrushSkew.scan_streak hmeasured

/-! ## Every run -/

/-- **Recovery that was measured.**  In every run in which each scan of the nodes has metrics of
each configured host with an open Incident, and each scan of the CRUSH tree finds an open
family over or has a skew for each entity of its evidence that is in the tree, what a scan
resolves has recovered; and no scan changes the count of what it does not measure. -/
theorem recovered_soundly (S : Setup) (w : World) (ls : List Label)
    (h : (watcher S).Meets (MeasuresOpen S) w ls) :
    (watcher S).Always (RecoveredSoundly S) w ls := by
  apply (watcher S).always_of_meets _ _ (fun _ => True) _ ls w True.intro h
  intro w l w' _ hmeasures hstep
  refine ⟨?_, True.intro⟩
  cases l with
  | scanNodes s => exact recoveredSoundly_nodes hmeasures hstep
  | scanCrush s => exact recoveredSoundly_crush hmeasures hstep
  | restart =>
    rw [show (watcher S).step w .restart = some _ from rfl, Option.some.injEq] at hstep
    subst hstep
    rfl
  | others db evidence => exact True.intro

/-! ## A node and a tree -/

/-- Exact arithmetic, and every Action is risky. -/
def setup : Setup := ⟨id, id, fun _ => .risky⟩

/-- Nothing has been scanned yet. -/
def empty : World := ⟨⟨[], [], []⟩, fun _ => [], fun _ => 0, fun _ => 0⟩

def nodeScan (sample : Option Sample) : NodeScan where
  configured := [⟨"10.0.0.1", ["OSD"]⟩]
  identities := none
  sources := fun _ => ⟨none, .unavailable, sample⟩
  stored := true

/-- A scan of a host with two OSDs of the same weight, which have these bytes. -/
def crushScan (first second : Option Int) : CrushScan where
  roots := some [.mk (-1) (some "default") "root" (some 2)
    [.mk (-2) (some "ceph1") "host" (some 2)
      [.mk 0 (some "osd.0") "osd" (some 1) [], .mk 1 (some "osd.1") "osd" (some 1) []]]]
  distribution := fun osd =>
    if osd = 0 then some ⟨first, none⟩ else if osd = 1 then some ⟨second, none⟩ else none
  stored := true

/-- The node is overloaded, and one of the OSDs has most of the bytes. -/
def overRun : List Label :=
  [.scanNodes (nodeScan (some ⟨95, 50⟩)), .scanCrush (crushScan (some 90) (some 10)),
    .scanNodes (nodeScan (some ⟨95, 50⟩)), .scanCrush (crushScan (some 90) (some 10)),
    .scanCrush (crushScan (some 90) (some 10))]

/-- Both recover. -/
theorem recovered_after_overRun :
    (watcher setup).Always (RecoveredSoundly setup) empty
      (overRun ++ [.restart, .scanNodes (nodeScan (some ⟨20, 50⟩)),
        .scanCrush (crushScan (some 50) (some 50))]) :=
  recovered_soundly setup empty _ (by decide +kernel)

/-- **A scan without metrics** resolves the Incident of the overloaded node. -/
theorem resolved_unmeasured :
    ¬ (watcher setup).Always (RecoveredSoundly setup) empty
        (overRun ++ [.scanNodes (nodeScan none)]) := by
  intro h
  have hrun : (watcher setup).run empty overRun =
      some (((watcher setup).run empty overRun).getD empty) := by
    rfl
  have hscan := (h.step_after rfl overRun empty hrun).1
  have hresolved := hscan 1
    (newIncident ⟨[], [], []⟩ none (nodeFamily.codeFor "10.0.0.1") none .pendingApproval)
    (by decide +kernel) (by decide) (by decide +kernel)
  rcases hresolved.1 "10.0.0.1" rfl with ⟨m, hm, _⟩ | hgone
  · cases hm.2
  · exact hgone ⟨"10.0.0.1", ["OSD"]⟩ (by decide) rfl

end CephAi.Ports.MeasuredRecovery
