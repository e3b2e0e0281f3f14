import CephAi.Ports.MonitorFamilies
import Mathlib.Algebra.Order.Group.Abs
import Mathlib.Algebra.Order.Ring.Rat
import Mathlib.Data.List.Dedup

/-!
# Skewed entities of the CRUSH tree

`check_crush_skew` of `watcher/crush_skew_monitor.py` and
`create_or_resolve_crush_skew_incidents`: each OSD and host is compared with its siblings, by
bytes and by placement groups; there is one Incident for each of the two signals, and the
entities that are flagged are its evidence.  An entity without a skew is passed over.

A skew is computed in floats: `fl` stands for the rounding of a division and of a difference.
Nothing is assumed of it.

## Main results

* `scan_streak` — an entity that is not measured keeps its count.
* `mem_stillOver` — an entity that was measured over is reported as such.
* `resolved_unreported` — what a scan says of a family Incident that it resolves.
-/

namespace CephAi.Ports.CrushSkew

open Verified
open Models Verification MonitorFamilies

/-! ## The tree -/

/-- The two signals. -/
inductive Signal
  | use
  | pg
deriving DecidableEq, Repr

/-- The kinds of entities that are compared. -/
inductive Kind
  | osd
  | host
deriving DecidableEq, Repr

/-- `entity_type` -/
def Kind.text : Kind → String
  | .osd => "osd"
  | .host => "host"

/-- The key of a count. -/
structure Entity where
  kind : Kind
  label : String
deriving DecidableEq, Repr

/-- A node of `tree_json`. -/
inductive Node
  | mk (id : Int) (name : Option String) (type : String) (weight : Option Int)
      (children : List Node)

namespace Node

def id : Node → Int
  | .mk id _ _ _ _ => id

def name : Node → Option String
  | .mk _ name _ _ _ => name

def type : Node → String
  | .mk _ _ type _ _ => type

def weight : Node → Option Int
  | .mk _ _ _ weight _ => weight

end Node

mutual

/-- The groups of siblings under a node, `walk`. -/
def Node.groups : Node → List (List Node)
  | .mk _ _ _ _ children =>
    (if children.isEmpty then [] else [children]) ++ groupsBelow children

/-- The groups under these nodes. -/
def groupsBelow : List Node → List (List Node)
  | [] => []
  | n :: rest => n.groups ++ groupsBelow rest

end

mutual

def Node.descendantOsds : Node → List Int
  | .mk id _ type _ children => if type = "osd" then [id] else osdsBelow children

/-- The OSDs under these nodes. -/
def osdsBelow : List Node → List Int
  | [] => []
  | n :: rest => n.descendantOsds ++ osdsBelow rest

end

/-- A row of `crush_osd_distribution`. -/
structure DistributionRow where
  bytesUsed : Option Int
  pgs : Option Int
deriving DecidableEq

abbrev Distribution := Int → Option DistributionRow

/-- The column of a signal. -/
def Signal.field : Signal → DistributionRow → Option Int
  | .use, row => row.bytesUsed
  | .pg, row => row.pgs

def osdActual (d : Distribution) (s : Signal) (osd : Int) : Option Int := (d osd).bind s.field

/-- `_host_actual_and_weight`, its first component: `none` when no OSD of the host has data. -/
def hostActual (d : Distribution) (s : Signal) (node : Node) : Option Int :=
  match node.descendantOsds.filterMap (osdActual d s) with
  | [] => none
  | values => some values.sum

/-! ## One visit -/

/-- An entity that the loop comes to, among its siblings. -/
structure Visit where
  siblings : List Node
  kind : Kind
  signal : Signal
  node : Node

/-- `entity_label` -/
def labelOf (kind : Kind) (node : Node) : String :=
  match kind with
  | .osd => toString node.id
  | .host => node.name.getD "None"

def Visit.entity (v : Visit) : Entity := ⟨v.kind, labelOf v.kind v.node⟩

/-- The visits of a tree, in the order of the loop. -/
def visits (roots : List Node) : List Visit :=
  (groupsBelow roots).flatMap fun group =>
    [Kind.osd, .host].flatMap fun kind =>
      let siblings := group.filter fun n => n.type = kind.text
      [Signal.use, .pg].flatMap fun signal =>
        siblings.map fun node => ⟨siblings, kind, signal, node⟩

def Visit.actual (d : Distribution) (v : Visit) (node : Node) : Option Int :=
  match v.kind with
  | .osd => osdActual d v.signal node.id
  | .host => hostActual d v.signal node

/-- The node that an id stands for in the dictionaries, the last one. -/
def Visit.entry (v : Visit) (id : Int) : Option Node :=
  v.siblings.reverse.find? fun n => n.id = id

/-- The nodes of `present_ids`. -/
def Visit.present (d : Distribution) (v : Visit) : List Node :=
  ((v.siblings.map Node.id).dedup.filterMap v.entry).filter fun n => (v.actual d n).isSome

def skewRatio (fl : ℚ → ℚ) (ownActual : Option Int) (actualSum : Int) (ownWeight : Option Int)
    (weightSum : Int) : Option ℚ :=
  match ownActual, ownWeight with
  | some actual, some weight =>
    if weight ≤ 0 ∨ weightSum ≤ 0 then some (if 0 < actual then 1 else 0)
    else
      let expected := fl (weight / weightSum)
      let share := if actualSum = 0 then 0 else fl (actual / actualSum)
      some (fl (fl (share - expected) / expected))
  | _, _ => none

def Visit.skew (fl : ℚ → ℚ) (d : Distribution) (v : Visit) : Option ℚ :=
  let present := v.present d
  skewRatio fl ((v.entry v.node.id).bind (v.actual d))
    (present.map fun n => (v.actual d n).getD 0).sum
    ((v.entry v.node.id).bind Node.weight)
    (present.map fun n => n.weight.getD 0).sum

def isOver (skew : ℚ) : Bool := 1 / 2 ≤ |skew|

/-! ## The loop -/

/-- The code of a signal. -/
def Signal.family : Signal → String
  | .use => "CRUSH_SKEW_USE"
  | .pg => "CRUSH_SKEW_PG"

/-- `detail["signal"]` -/
def Signal.text : Signal → String
  | .use => "USE"
  | .pg => "PG"

/-- `ceph_code_for` -/
def codeFor (s : Signal) (label : String) : String := s.family ++ ":" ++ label

/-- An entry of `flagged`, as far as it goes into the evidence. -/
structure Detail where
  cephCode : String
  entity : Entity
  signal : Signal
  skew : ℚ
  consecutiveScans : Nat
deriving DecidableEq

/-- The counts of the two signals. -/
abbrev Streaks := Signal × Entity → Nat

/-- The counts, `flagged` and `still_over_threshold` so far. -/
structure Found where
  streaks : Streaks
  flagged : List Detail
  stillOver : List String

/-- `flagged[ceph_code] = …` -/
def setDetail (f : Detail) (flagged : List Detail) : List Detail :=
  if flagged.any fun g => g.cephCode == f.cephCode then
    flagged.map fun g => if g.cephCode = f.cephCode then f else g
  else flagged ++ [f]

/-- A visit with this skew. -/
def Found.measure (f : Found) (v : Visit) (skew : ℚ) : Found :=
  let streak := if isOver skew then f.streaks (v.signal, v.entity) + 1 else 0
  let code := codeFor v.signal v.entity.label
  { streaks := Function.update f.streaks (v.signal, v.entity) streak
    flagged :=
      if 3 ≤ streak then setDetail ⟨code, v.entity, v.signal, skew, streak⟩ f.flagged
      else f.flagged
    stillOver := if isOver skew then code :: f.stillOver else f.stillOver }

/-- The loop. -/
def scanVisits (skewOf : Visit → Option ℚ) : List Visit → Found → Found
  | [], f => f
  | v :: rest, f =>
    match skewOf v with
    | none => scanVisits skewOf rest f
    | some skew => scanVisits skewOf rest (f.measure v skew)

/-- A scan: the roots of the newest snapshot unless there is none, the distribution, and
whether the database takes the result. -/
structure CrushScan where
  roots : Option (List Node)
  distribution : Distribution
  stored : Bool

/-- What the scan comes to. -/
def CrushScan.visits (s : CrushScan) : List Visit := (s.roots.map CrushSkew.visits).getD []

/-- `check_crush_skew` -/
def CrushScan.found (s : CrushScan) (fl : ℚ → ℚ) (streaks : Streaks) : Found :=
  scanVisits (Visit.skew fl s.distribution) s.visits ⟨streaks, [], []⟩

/-! ## The transaction -/

/-- `_FAMILY_PREFIXES` -/
def families : List String := [Signal.use.family, Signal.pg.family]

def crushOpen (i : Incident) : Bool :=
  (likeStart "CRUSH_SKEW_USE:".toList i.cephCode.toList ||
    likeStart "CRUSH_SKEW_PG:".toList i.cephCode.toList || families.contains i.cephCode) &&
    recoverableStatuses.contains i.status

def openFamily (db : Db) (s : Signal) : Option Incident :=
  (db.incidents.filter fun i => crushOpen i && i.cephCode == s.family).getLast?

/-- `grouped[family]`, the greatest skews first. -/
def Found.grouped (f : Found) (s : Signal) : List Detail :=
  (f.flagged.filter fun d => d.signal = s).insertionSort fun d e => |e.skew| ≤ |d.skew|

def Found.stillOverFamily (f : Found) (s : Signal) : Bool :=
  f.stillOver.any fun code => (s.family ++ ":").toList.isPrefixOf code.toList

/-- The keys of `grouped`. -/
def Found.signals (f : Found) : List Signal :=
  f.flagged.foldl (fun found d => if found.contains d.signal then found else found ++ [d.signal])
    []

def Found.resolvesFamily (f : Found) (db : Db) (i : Incident) (s : Signal) : Bool :=
  i.cephCode == s.family && ((openFamily db s).any fun j => j.id == i.id) &&
    (f.grouped s).isEmpty && !f.stillOverFamily s

/-- What the transaction resolves: Incidents of one entity, and families that are not
reported. -/
def Found.resolves (f : Found) (db : Db) (i : Incident) : Bool :=
  crushOpen i && (!families.contains i.cephCode || f.resolvesFamily db i .use ||
    f.resolvesFamily db i .pg)

/-- The entities in `signal_evidence_json`, by the Incident. -/
abbrev Evidence := Nat → List Entity

/-- The entities that are flagged for a signal. -/
def Found.entities (f : Found) (s : Signal) : List Entity := (f.grouped s).map Detail.entity

/-- The first loops, with `cancel_pending_actions`. -/
def Found.resolveAll (f : Found) (db : Db) : Db :=
  { db with
    actions := Table.update db.actions
      (fun a => cancellable a && (db.incident? a.incidentId).any (f.resolves db))
      (ActionWrite.apply { status := some .rejected })
    incidents := Table.update db.incidents (f.resolves db)
      (IncidentWrite.apply { status := some .resolved }) }

/-- `_refresh_family_evidence` of the open Incidents. -/
def Found.refresh (f : Found) (db : Db) (evidence : Evidence) (s : Signal) : Evidence :=
  match openFamily db s with
  | some i =>
    if (f.grouped s).isEmpty then evidence else Function.update evidence i.id (f.entities s)
  | none => evidence

/-- The Incidents of the two signals have no cluster. -/
def crushFamily : Family := ⟨"CRUSH_SKEW", none, fun _ => true⟩

def Found.openAll (f : Found) (classify : String → ActionClassification) (before : Db) :
    List Signal → Db × Evidence → Option (Db × Evidence)
  | [], st => some st
  | s :: rest, st =>
    if (openFamily before s).isSome then f.openAll classify before rest st
    else
      (crushFamily.openOne classify st.1 ⟨s.family, "investigate_manually",
        [("signal", .text s.text)]⟩).bind fun db' =>
          f.openAll classify before rest
            (db', Function.update st.2 (Table.fresh st.1.incidents) (f.entities s))

/-- `create_or_resolve_crush_skew_incidents`; `none` is an `IntegrityError`. -/
def Found.createOrResolve (f : Found) (classify : String → ActionClassification) (db : Db)
    (evidence : Evidence) : Option (Db × Evidence) :=
  f.openAll classify db f.signals
    (f.resolveAll db, f.refresh db (f.refresh db evidence .use) .pg)

/-- The scan and its transaction. -/
def CrushScan.run (s : CrushScan) (fl : ℚ → ℚ) (classify : String → ActionClassification)
    (db : Db) (evidence : Evidence) (streaks : Streaks) : (Db × Evidence) × Streaks :=
  let found := s.found fl streaks
  let stored := if s.stored then found.createOrResolve classify db evidence else none
  (stored.getD (db, evidence), found.streaks)

/-! ## What is measured -/

/-- **An entity without a skew keeps its count.** -/
theorem scanVisits_streak {skewOf : Visit → Option ℚ} {key : Signal × Entity}
    {vs : List Visit} (h : ∀ v ∈ vs, (v.signal, v.entity) = key → skewOf v = none) :
    ∀ f : Found, (scanVisits skewOf vs f).streaks key = f.streaks key := by
  induction vs with
  | nil =>
    intro f
    rfl
  | cons v vs ih =>
    intro f
    have hrest : ∀ v' ∈ vs, (v'.signal, v'.entity) = key → skewOf v' = none :=
      fun v' hv' => h v' (List.mem_cons_of_mem v hv')
    unfold scanVisits
    cases hskew : skewOf v with
    | none => exact ih hrest f
    | some skew =>
      have hne : key ≠ (v.signal, v.entity) := by
        rintro rfl
        rw [h v List.mem_cons_self rfl] at hskew
        cases hskew
      rw [ih hrest]
      exact Function.update_of_ne hne _ _

theorem stillOver_subset (skewOf : Visit → Option ℚ) (vs : List Visit) :
    ∀ f : Found, f.stillOver ⊆ (scanVisits skewOf vs f).stillOver := by
  induction vs with
  | nil =>
    intro f
    exact List.Subset.refl _
  | cons v vs ih =>
    intro f
    unfold scanVisits
    cases skewOf v with
    | none => exact ih f
    | some skew =>
      apply List.Subset.trans _ (ih _)
      unfold Found.measure
      dsimp only
      split_ifs
      · exact List.subset_cons_self _ _
      · exact List.Subset.refl _

/-- **An entity that was measured over is reported as such.** -/
theorem mem_stillOver {skewOf : Visit → Option ℚ} {v : Visit} {skew : ℚ}
    (hskew : skewOf v = some skew) (hover : isOver skew = true) {vs : List Visit} (hmem : v ∈ vs) :
    ∀ f : Found, codeFor v.signal v.entity.label ∈ (scanVisits skewOf vs f).stillOver := by
  induction vs with
  | nil => cases hmem
  | cons other vs ih =>
    intro f
    unfold scanVisits
    rcases List.mem_cons.mp hmem with rfl | hmem
    · rw [hskew]
      apply stillOver_subset
      unfold Found.measure
      dsimp only
      rw [if_pos hover]
      exact List.mem_cons_self
    · cases skewOf other with
      | none => exact ih hmem f
      | some _ => exact ih hmem _

variable {classify : String → ActionClassification} {db : Db} {f : Found} {fl : ℚ → ℚ}
    {row : Incident} {s : CrushScan} {streaks : Streaks}

theorem stillOverFamily_of_mem {s : Signal} {label : String} (h : codeFor s label ∈ f.stillOver) :
    f.stillOverFamily s = true := by
  apply List.any_eq_true.mpr
  refine ⟨codeFor s label, h, ?_⟩
  apply List.isPrefixOf_iff_prefix.mpr
  exact ⟨label.toList, String.toList_append.symm⟩

/-! ## An Incident after the transaction -/

theorem incident?_openAll {before : Db} {signals : List Signal} :
    ∀ {st st' : Db × Evidence}, f.openAll classify before signals st = some st' →
      ∀ {id : Nat} {row : Incident}, st.1.incident? id = some row →
        st'.1.incident? id = some row := by
  induction signals with
  | nil =>
    intro st st' h id row hrow
    rw [Found.openAll, Option.some.injEq] at h
    exact h ▸ hrow
  | cons s signals ih =>
    intro st st' h id row hrow
    rw [Found.openAll] at h
    split_ifs at h
    · exact ih h hrow
    · obtain ⟨db', hdb', hrest⟩ := Option.bind_eq_some_iff.mp h
      exact ih hrest (incident?_openOne hdb' hrow)

/-- **An Incident after the transaction.** -/
theorem status_createOrResolve {evidence : Evidence} {st' : Db × Evidence}
    (h : f.createOrResolve classify db evidence = some st') {id : Nat}
    (hrow : db.incident? id = some row) :
    st'.1.incidentStatus id = some (if f.resolves db row then .resolved else row.status) :=
  status_of_resolving hrow rfl (fun _ => incident?_openAll h)

theorem resolvesFamily_of_resolves {s : Signal} (hcode : row.cephCode = s.family)
    (h : f.resolves db row = true) : f.resolvesFamily db row s = true := by
  have hlisted : families.contains row.cephCode = true := by
    rw [hcode]
    cases s <;> decide
  unfold Found.resolves at h
  rw [hlisted, Bool.not_true, Bool.false_or, Bool.and_eq_true, Bool.or_eq_true] at h
  rcases h.2 with huse | hpg
  · cases s with
    | use => exact huse
    | pg =>
      unfold Found.resolvesFamily at huse
      rw [hcode] at huse
      exact absurd huse (by simp [Signal.family])
  · cases s with
    | pg => exact hpg
    | use =>
      unfold Found.resolvesFamily at hpg
      rw [hcode] at hpg
      exact absurd hpg (by simp [Signal.family])

theorem resolves_of_resolved {evidence : Evidence} {id : Nat} (hrow : db.incident? id = some row)
    (hopen : row.status ≠ .resolved)
    (hresolved : (s.run fl classify db evidence streaks).1.1.incidentStatus id = some .resolved) :
    (s.found fl streaks).resolves db row = true := by
  unfold CrushScan.run at hresolved
  dsimp only at hresolved
  cases hstored : (if s.stored then (s.found fl streaks).createOrResolve classify db evidence
      else none) with
  | none =>
    rw [hstored, Option.getD_none] at hresolved
    exact absurd hresolved (not_resolved_of_open hrow hopen)
  | some st' =>
    rw [hstored, Option.getD_some] at hresolved
    split_ifs at hstored
    rw [status_createOrResolve hstored hrow, Option.some.injEq] at hresolved
    by_contra hnot
    rw [if_neg hnot] at hresolved
    exact hopen hresolved

/-- **What a scan resolves is not reported**: of the family Incident of a signal, no entity
was measured over. -/
theorem resolved_unreported {signal : Signal} (hcode : row.cephCode = signal.family)
    (hresolves : (s.found fl streaks).resolves db row = true) :
    (∃ i, openFamily db signal = some i ∧ i.id = row.id) ∧
      ∀ v ∈ s.visits, v.signal = signal → ∀ skew, v.skew fl s.distribution = some skew →
        isOver skew = false := by
  have hfamily := resolvesFamily_of_resolves hcode hresolves
  unfold Found.resolvesFamily at hfamily
  simp only [Bool.and_eq_true, Bool.not_eq_true'] at hfamily
  constructor
  · obtain ⟨i, hi, hid⟩ := (Option.any_eq_true _ _).mp hfamily.1.1.2
    exact ⟨i, hi, beq_iff_eq.mp hid⟩
  · intro v hv hsignal skew hskew
    rw [← Bool.not_eq_true]
    intro hover
    have hstill : codeFor v.signal v.entity.label ∈ (s.found fl streaks).stillOver :=
      mem_stillOver hskew hover hv _
    rw [hsignal] at hstill
    have hreported := stillOverFamily_of_mem hstill
    rw [hfamily.2] at hreported
    cases hreported

/-- **A scan leaves the counts of what it does not measure.** -/
theorem scan_streak {key : Signal × Entity}
    (h : ∀ v ∈ s.visits, (v.signal, v.entity) = key → v.skew fl s.distribution = none) :
    (s.found fl streaks).streaks key = streaks key :=
  scanVisits_streak h _

end CephAi.Ports.CrushSkew
