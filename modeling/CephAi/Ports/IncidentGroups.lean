import CephAi.Ports.CommandParams
import CephAi.Ports.Models
import CephAi.Verified.Regex
import CephAi.Verified.Runs
import CephAi.Verified.Table
import Mathlib.Data.List.Sort

/-!
# Groups of related incidents

`watcher/incident_grouping.py`: incidents of a cluster that are related point to a root, which is
one of them and points to itself.

An incident is grouped when it is handled.  The roots that meet there are merged into the earliest
one, but only what lies in the window of the incident is rewritten: a root may move and leave a
member behind.  And only the first 200 incidents of the window are looked at.

Times are in microseconds; texts as detectors write them are read with any tables of Unicode.

## Main results

* `flat_merge_iff` — when a merge keeps the groups flat.
* `reached_of_few` — the bound on candidates matters in crowded windows only.
* `grouped_iff` — when every step of a run does, with all that is related under one root.
-/

namespace CephAi.Ports.IncidentGroups

open CommandParams (Value isSpace isDecimal alnumOr trim)
open Models (IncidentStatus)
open Verified.Regex
open Verified.Runs
open Verified.Table

/-! ## Incidents -/

/-- A row of `incidents`; the evidence is the object that its text holds, if it holds one. -/
structure Incident where
  id : Nat
  clusterId : Option String
  cephCode : String
  status : IncidentStatus
  detectedAt : Int
  createdAt : Int
  logExcerpt : Option String
  evidence : List (String × Value)
  root : Option Nat

instance : Keyed Incident := ⟨Incident.id⟩

/-- What is known of characters outside ASCII. -/
structure Unicode where
  word : Char → Bool
  digit : Char → Bool
  lower : String → String

def familyPrefixes : List (String × List String) :=
  [("disk_io", ["DEVICE_HEALTH_", "BLUESTORE_DISK_", "OSD_UNREACHABLE"]),
    ("bluestore_slow_ops",
      ["BLUESTORE_SLOW_OP_ALERT", "SLOW_OPS", "OSD_SLOW_PING_TIME", "OSD_LATENCY_HIGH:"]),
    ("network_heartbeat", ["OSD_DOWN", "MON_DOWN", "MGR_DOWN", "OSD_HOST_DOWN"]),
    ("pg_peering", ["PG_", "OBJECT_"]),
    ("capacity_pressure", ["OSD_NEARFULL", "OSD_BACKFILLFULL", "OSD_FULL", "POOL_NEARFULL",
      "POOL_NEAR_FULL", "POOL_FULL", "BACKFILL_FULL"]),
    ("volume_saturation", ["VOLUME_SATURATED:"]),
    ("node_resource", ["NODE_RESOURCE_HIGH:"]),
    ("daemon_crash", ["RECENT_CRASH", "DAEMON_CRASH"]),
    ("clock_skew", ["MON_CLOCK_SKEW", "CLOCK_SKEW"]),
    ("authentication", ["AUTH_"]),
    ("rgw_request", ["RGW_"]),
    ("mon_operational", ["MON_"]),
    ("mgr_operational", ["MGR_"]),
    ("osd_operational", ["OSD_"]),
    ("mds_operational", ["MDS_"])]

def family (code : String) : Option String :=
  (familyPrefixes.find? fun f => f.2.any fun start => start.toList.isPrefixOf code.toList).map
    Prod.fst

def osdRe (U : Unicode) : Pattern :=
  .seq (.edge U.word) (.seq (litIgnoreCase "osd")
    (.seq (opt (.char fun c => isSpace c || ['.', '_', '-'].contains c))
      (.seq (.group 1 (plus isDecimal)) (.edge U.word))))

/-- The letters of ASCII and what folds to them, digits and some more. -/
def nameChar (extra : List Char) (c : Char) : Bool :=
  alnumOr extra c || [0x130, 0x131, 0x17f, 0x212a].contains c.toNat

def separator (c : Char) : Bool := ['=', ':', ' '].contains c

def volumeRe (U : Unicode) : Pattern :=
  .seq (.edge U.word) (.seq (litIgnoreCase "volume") (.seq (plus separator)
    (.group 1 (.seq (plus (nameChar ['_', '.', '-'])) (.seq (lit "/")
      (plus (nameChar ['_', '.', '-'])))))))

def hostRe (U : Unicode) : Pattern :=
  .seq (.edge U.word) (.seq (litIgnoreCase "host") (.seq (plus separator)
    (.group 1 (plus (nameChar ['_', '.', ':', '-'])))))

def volumeCodeRe : Pattern :=
  .seq (litIgnoreCase "VOLUME_SATURATED:") (.seq (.group 1 (plus (· != '/')))
    (.seq (lit "/") (.seq (.group 2 (plus (· != '\n'))) .finish)))

/-- The first group of every match. -/
def found (pattern : Pattern) (text : String) : List String :=
  (findall pattern text.toList).map fun m => String.ofList ((m.group 1).getD [])

/-- `str(value)`, if `str.isdigit` holds of it. -/
def digits (U : Unicode) : Value → Option String
  | .int n => if 0 ≤ n then some (toString n) else none
  | .str s => if s ≠ "" ∧ s.toList.all U.digit then some s else none
  | _ => none

def evidenceOsds (U : Unicode) (evidence : List (String × Value)) (key : String) : List String :=
  let values := match evidence.lookup key with
    | some (.list values) => values
    | some value => [value]
    | none => []
  (values.filterMap (digits U)).map ("osd:" ++ ·)

def evidenceHosts (U : Unicode) (evidence : List (String × Value)) (key : String) : List String :=
  match evidence.lookup key with
  | some (.str s) => if trim isSpace s ≠ "" then ["host:" ++ U.lower (trim isSpace s)] else []
  | _ => []

def entities (U : Unicode) (x : Incident) : List String :=
  let text := x.cephCode ++ "\n" ++ x.logExcerpt.getD ""
  (found (osdRe U) text).map ("osd:" ++ ·) ++
    (["osd_id", "osd_ids"].flatMap (evidenceOsds U x.evidence)) ++
    ((first volumeCodeRe [] x.cephCode.toList).elim [] fun m =>
      [U.lower (s!"volume:{String.ofList ((m.group 1).getD [])}/" ++
        String.ofList ((m.group 2).getD []))]) ++
    (found (volumeRe U) text).map (fun s => "volume:" ++ U.lower s) ++
    (["host", "hostname", "node"].flatMap (evidenceHosts U x.evidence)) ++
    (found (hostRe U) text).map (fun s => "host:" ++ U.lower s)

def incidentsAreRelated (U : Unicode) (x y : Incident) : Bool :=
  x.cephCode == y.cephCode ||
    ((family x.cephCode).isSome && family x.cephCode == family y.cephCode &&
      (entities U x).any (entities U y).contains)

/-! ## One call -/

def minute : Int := 60 * 1000000

def inWindow (x y : Incident) : Bool :=
  x.detectedAt - 360 * minute ≤ y.detectedAt && y.detectedAt ≤ x.detectedAt + 15 * minute

/-- `(detected_at, created_at, id)` in order -/
def Earlier (x y : Incident) : Prop :=
  x.detectedAt < y.detectedAt ∨ x.detectedAt = y.detectedAt ∧
    (x.createdAt < y.createdAt ∨ x.createdAt = y.createdAt ∧ x.id ≤ y.id)

instance (x y : Incident) : Decidable (Earlier x y) :=
  inferInstanceAs (Decidable (_ ∨ _ ∧ (_ ∨ _ ∧ _)))

def maxGroupCandidates : Nat := 200

/-- A row of the query. -/
def eligible (x y : Incident) : Bool :=
  y.id != x.id && y.clusterId == x.clusterId && y.status != .rejected && inWindow x y

def candidates (rows : List Incident) (x : Incident) : List Incident :=
  ((rows.filter (eligible x)).insertionSort Earlier).take maxGroupCandidates

def related (U : Unicode) (rows : List Incident) (x : Incident) : List Incident :=
  (candidates rows x).filter (incidentsAreRelated U x)

def Incident.rootId (x : Incident) : Nat := x.root.getD x.id

/-- The roots that meet. -/
def rootIds (U : Unicode) (rows : List Incident) (x : Incident) : List Nat :=
  x.rootId :: (related U rows x).map Incident.rootId

/-- `min(roots, key=...)` -/
def earliest : List Incident → Option Incident
  | [] => none
  | x :: xs =>
    match earliest xs with
    | none => some x
    | some y => if Earlier x y then some x else some y

def canonical (U : Unicode) (rows : List Incident) (x : Incident) : Option Incident :=
  earliest (rows.filter fun r => (rootIds U rows x).contains r.id)

/-- A row that a merge rewrites. -/
def moves (x : Incident) (ids : List Nat) (y : Incident) : Bool :=
  y.id == x.id || (inWindow x y && (ids.contains y.id || y.root.any ids.contains))

def Incident.setRoot (r : Nat) (x : Incident) : Incident := { x with root := some r }

/-- `assign_incident_group`; `none` is an exception. -/
def assignIncidentGroup (U : Unicode) (rows : List Incident) (x : Incident) :
    Option (List Incident) :=
  if related U rows x = [] then some (modify rows x.id (Incident.setRoot x.id))
  else (canonical U rows x).map fun c =>
    update rows (moves x (rootIds U rows x)) (Incident.setRoot c.id)

/-- The worker handles an incident; an exception is rolled back. -/
def handle (U : Unicode) (rows : List Incident) (id : Nat) : List Incident :=
  match get rows id with
  | none => rows
  | some x => (assignIncidentGroup U rows x).getD rows

/-! ## Runs -/

inductive Event
  /-- A row is added; it has no root. -/
  | detect (incident : Incident)
  /-- Something else writes into a row. -/
  | change (id : Nat) (status : IncidentStatus) (logExcerpt : Option String)
      (evidence : List (String × Value))
  | handle (id : Nat)

def step (U : Unicode) (rows : List Incident) : Event → List Incident
  | .detect incident =>
    match get rows incident.id with
    | none => insert rows { incident with root := none }
    | some _ => rows
  | .change id status logExcerpt evidence => modify rows id fun x =>
    { x with status := status, logExcerpt := logExcerpt, evidence := evidence }
  | .handle id => handle U rows id

def system (U : Unicode) : System (List Incident) Event where
  step rows event := some (step U rows event)

/-! ## The law -/

/-- A related row of the window, however many there are. -/
def alike (U : Unicode) (x y : Incident) : Bool := eligible x y && incidentsAreRelated U x y

/-- Roots are rows of the same cluster that point to themselves. -/
def Flat (rows : List Incident) : Prop :=
  ∀ y ∈ rows, ∀ r, y.root = some r →
    ∃ z ∈ rows, z.id = r ∧ z.clusterId = y.clusterId ∧ z.root = some r

/-- What is related to the incident has its root. -/
def Together (U : Unicode) (rows : List Incident) (id : Nat) : Prop :=
  ∀ x ∈ rows, x.id = id → ∀ y ∈ rows, alike U x y = true → ∃ r, x.root = some r ∧ y.root = some r

/-- What a step is to leave. -/
def Grouped (U : Unicode) (_ : List Incident) (event : Event) (rows : List Incident) : Prop :=
  Flat rows ∧ match event with
    | .handle id => Together U rows id
    | _ => True

/-- What is related is among the first of the window, or in one of the groups anyway. -/
def Reached (U : Unicode) (rows : List Incident) (x : Incident) : Prop :=
  ∀ y ∈ rows, alike U x y = true → y ∈ candidates rows x ∨
    if related U rows x = [] then y.root = some x.id
    else moves x (rootIds U rows x) y = true

/-- A root that lies in the window and is not the earliest of those that meet has no member outside
the window. -/
def NoneLeft (U : Unicode) (rows : List Incident) (x : Incident) : Prop :=
  ∀ y ∈ rows, inWindow x y = false → ∀ z ∈ rows, y.root = some z.id → inWindow x z = true →
    z.id ∈ rootIds U rows x → ∃ c, canonical U rows x = some c ∧ c.id = z.id

/-- A call that groups what it should. -/
def Whole (U : Unicode) (rows : List Incident) (event : Event) : Prop :=
  match event with
  | .handle id => ∀ x ∈ rows, x.id = id →
    Reached U rows x ∧ (related U rows x ≠ [] → NoneLeft U rows x)
  | _ => True

/-- Ids are unique, and groups are flat. -/
structure Kept (rows : List Incident) : Prop where
  keys : (rows.map Keyed.key).Nodup
  flat : Flat rows

/-! ## Rows -/

variable {U : Unicode} {c x y z : Incident} {ids : List Nat} {r : Nat} {rows : List Incident}

theorem eq_of_id (hkeys : (rows.map Keyed.key).Nodup) (hy : y ∈ rows) (hz : z ∈ rows)
    (h : y.id = z.id) : y = z :=
  List.inj_on_of_nodup_map hkeys hy hz h

theorem inWindow_self (x : Incident) : inWindow x x = true := by
  unfold inWindow minute
  rw [Bool.and_eq_true]
  exact ⟨decide_eq_true (by omega), decide_eq_true (by omega)⟩

theorem mem_candidates (h : y ∈ candidates rows x) : y ∈ rows ∧ eligible x y = true := by
  have hsorted := List.mem_of_mem_take h
  rw [List.mem_insertionSort, List.mem_filter] at hsorted
  exact hsorted

theorem mem_related (h : y ∈ related U rows x) : y ∈ rows ∧ alike U x y = true := by
  unfold related at h
  rw [List.mem_filter] at h
  have hrow := mem_candidates h.1
  exact ⟨hrow.1, by rw [alike, hrow.2, h.2]; rfl⟩

theorem earliest_mem {xs : List Incident} (h : earliest xs = some x) : x ∈ xs := by
  induction xs with
  | nil => cases h
  | cons y ys ih =>
    unfold earliest at h
    cases hrest : earliest ys with
    | none =>
      rw [hrest] at h
      cases h
      exact List.mem_cons_self
    | some z =>
      rw [hrest] at h
      simp only at h
      split at h
      · cases h
        exact List.mem_cons_self
      · cases h
        exact List.mem_cons_of_mem y (ih hrest)

theorem earliest_isSome {xs : List Incident} (h : xs ≠ []) : ∃ x, earliest xs = some x := by
  cases xs with
  | nil => exact absurd rfl h
  | cons y ys =>
    unfold earliest
    split
    · exact ⟨_, rfl⟩
    · split
      · exact ⟨_, rfl⟩
      · exact ⟨_, rfl⟩

theorem mem_canonical (h : canonical U rows x = some c) : c ∈ rows ∧ c.id ∈ rootIds U rows x := by
  have hmem := earliest_mem h
  rw [List.mem_filter, List.contains_iff_mem] at hmem
  exact hmem

theorem of_mem_rootIds (hx : x ∈ rows) (h : r ∈ rootIds U rows x) :
    ∃ y ∈ rows, y.clusterId = x.clusterId ∧ inWindow x y = true ∧ y.rootId = r := by
  unfold rootIds at h
  rw [List.mem_cons, List.mem_map] at h
  rcases h with h | ⟨y, hy, h⟩
  · exact ⟨x, hx, rfl, inWindow_self x, h.symm⟩
  · obtain ⟨hrow, halike⟩ := mem_related hy
    simp only [alike, eligible, Bool.and_eq_true, beq_iff_eq] at halike
    exact ⟨y, hrow, halike.1.1.1.2, halike.1.2, h⟩

theorem row_of_rootIds (h : Kept rows) (hx : x ∈ rows) (hz : z ∈ rows)
    (hid : z.id ∈ rootIds U rows x) :
    z.clusterId = x.clusterId ∧ (z.root = some z.id ∨ inWindow x z = true) := by
  obtain ⟨y, hy, hcluster, hwindow, hroot⟩ := of_mem_rootIds hx hid
  unfold Incident.rootId at hroot
  cases hpoint : y.root with
  | none =>
    rw [hpoint] at hroot
    have heq := eq_of_id h.keys hy hz hroot
    subst heq
    exact ⟨hcluster, .inr hwindow⟩
  | some r =>
    rw [hpoint] at hroot
    obtain ⟨w, hw, hwid, hwcluster, hwroot⟩ := h.flat y hy r hpoint
    have heq := eq_of_id h.keys hw hz (hwid.trans hroot)
    subst heq
    rw [hwid]
    exact ⟨hwcluster.trans hcluster, .inl hwroot⟩

/-! ## One step -/

@[simp] theorem clusterId_setRoot (r : Nat) (x : Incident) :
    (x.setRoot r).clusterId = x.clusterId := rfl

@[simp] theorem root_setRoot (r : Nat) (x : Incident) : (x.setRoot r).root = some r := rfl

theorem mem_setRoot {p : Incident → Bool} {y' : Incident} :
    y' ∈ update rows p (Incident.setRoot r) ↔
      ∃ y ∈ rows, y' = if p y then y.setRoot r else y := by
  unfold update
  rw [List.mem_map]
  constructor
  · rintro ⟨y, hy, h⟩
    exact ⟨y, hy, h.symm⟩
  · rintro ⟨y, hy, h⟩
    exact ⟨y, hy, h.symm⟩

theorem id_ite (p : Bool) (r : Nat) (y : Incident) : (if p then y.setRoot r else y).id = y.id := by
  cases p with
  | false => rfl
  | true => rfl

theorem clusterId_ite (p : Bool) (r : Nat) (y : Incident) :
    (if p then y.setRoot r else y).clusterId = y.clusterId := by
  cases p with
  | false => rfl
  | true => rfl

theorem keys_setRoot (rows : List Incident) (p : Incident → Bool) (r : Nat) :
    (update rows p (Incident.setRoot r)).map Keyed.key = rows.map Keyed.key :=
  map_update_of_eq rows p _ Keyed.key fun _ => rfl

theorem alike_ite (U : Unicode) (x y : Incident) (p q : Bool) (r : Nat) :
    alike U (if p then x.setRoot r else x) (if q then y.setRoot r else y) = alike U x y := by
  cases p with
  | false | true =>
    cases q with
    | false => rfl
    | true => rfl

theorem clusterId_of_moves (h : Kept rows) (hx : x ∈ rows) (hy : y ∈ rows)
    (hmoves : moves x (rootIds U rows x) y = true) : y.clusterId = x.clusterId := by
  simp only [moves, Bool.or_eq_true, Bool.and_eq_true, beq_iff_eq, List.contains_iff_mem,
    Option.any_eq_true_iff_get] at hmoves
  rcases hmoves with hid | ⟨-, hid | ⟨hsome, hid⟩⟩
  · rw [eq_of_id h.keys hy hx hid]
  · exact (row_of_rootIds h hx hy hid).1
  · obtain ⟨z, hz, hzid, hzcluster, -⟩ := h.flat y hy _ (Option.some_get hsome).symm
    rw [← hzid] at hid
    exact hzcluster.symm.trans (row_of_rootIds h hx hz hid).1

theorem moves_of_root (hwindow : inWindow x y = true) (hroot : y.root = some r) (hr : r ∈ ids) :
    moves x ids y = true := by
  rw [moves, hwindow, hroot]
  simp [hr]

theorem moves_of_id (hwindow : inWindow x y = true) (hr : y.id ∈ ids) : moves x ids y = true := by
  rw [moves, hwindow]
  simp [hr]

theorem outside_of_not_moves (h : moves x ids y = false) (hroot : y.root = some r) (hr : r ∈ ids) :
    inWindow x y = false := by
  rw [Bool.eq_false_iff]
  intro hwindow
  rw [moves_of_root hwindow hroot hr] at h
  cases h

section

variable (h : Kept rows)
include h

theorem root_of_moves (hx : x ∈ rows) (hz : z ∈ rows) (hroot : z.root = some z.id)
    (hmoves : moves x (rootIds U rows x) z = true) :
    inWindow x z = true ∧ z.id ∈ rootIds U rows x := by
  simp only [moves, hroot, Option.any_some, Bool.or_self, Bool.or_eq_true, Bool.and_eq_true,
    beq_iff_eq, List.contains_iff_mem] at hmoves
  rcases hmoves with hid | hmoves
  · rw [eq_of_id h.keys hz hx hid] at hroot ⊢
    refine ⟨inWindow_self x, ?_⟩
    rw [rootIds, Incident.rootId, hroot]
    exact List.mem_cons_self
  · exact hmoves

/-- **A merge keeps the groups flat** exactly when it leaves no member behind. -/
theorem flat_merge_iff (hx : x ∈ rows) (hc : canonical U rows x = some c) :
    Flat (update rows (moves x (rootIds U rows x)) (Incident.setRoot c.id)) ↔
      NoneLeft U rows x := by
  obtain ⟨hcmem, hcid⟩ := mem_canonical hc
  obtain ⟨hccluster, hcroot⟩ := row_of_rootIds h hx hcmem hcid
  constructor
  · intro hflat y hy hout z hz hroot hwindow hid
    refine ⟨c, hc, ?_⟩
    -- the member stays and points to a row that moved
    have hstays : moves x (rootIds U rows x) y = false := by
      have hne : (y.id == x.id) = false := by
        rw [beq_eq_false_iff_ne]
        intro heq
        rw [eq_of_id h.keys hy hx heq, inWindow_self] at hout
        cases hout
      rw [moves, hout, hne]
      rfl
    have hy' : y ∈ update rows (moves x (rootIds U rows x)) (Incident.setRoot c.id) :=
      mem_setRoot.mpr ⟨y, hy, by rw [hstays]; rfl⟩
    obtain ⟨w', hw', hw'id, -, hw'root⟩ := hflat y hy' z.id hroot
    obtain ⟨w, hw, rfl⟩ := mem_setRoot.mp hw'
    rw [id_ite] at hw'id
    rw [eq_of_id h.keys hw hz hw'id, if_pos (moves_of_id hwindow hid), root_setRoot,
      Option.some.injEq] at hw'root
    exact hw'root
  · intro hnone y' hy' r hroot'
    obtain ⟨y, hy, rfl⟩ := mem_setRoot.mp hy'
    cases hmoves : moves x (rootIds U rows x) y with
    | true =>
      rw [hmoves, if_pos rfl, root_setRoot, Option.some.injEq] at hroot'
      rw [if_pos rfl, clusterId_setRoot, clusterId_of_moves h hx hy hmoves]
      refine ⟨_, mem_setRoot.mpr ⟨c, hcmem, rfl⟩, ?_, ?_, ?_⟩
      · rw [id_ite, hroot']
      · rw [clusterId_ite, hccluster]
      · cases hcmoves : moves x (rootIds U rows x) c with
        | true => rw [if_pos rfl, root_setRoot, hroot']
        | false =>
          rw [if_neg Bool.false_ne_true, ← hroot']
          rcases hcroot with hcroot | hcwindow
          · exact hcroot
          · rw [moves_of_id hcwindow hcid] at hcmoves
            cases hcmoves
    | false =>
      rw [hmoves, if_neg Bool.false_ne_true] at hroot'
      rw [if_neg Bool.false_ne_true]
      obtain ⟨z, hz, hzid, hzcluster, hzroot⟩ := h.flat y hy r hroot'
      refine ⟨_, mem_setRoot.mpr ⟨z, hz, rfl⟩, ?_, ?_, ?_⟩
      · rw [id_ite, hzid]
      · rw [clusterId_ite, hzcluster]
      · cases hzmoves : moves x (rootIds U rows x) z with
        | false => rw [if_neg Bool.false_ne_true, hzroot]
        | true =>
          -- the root moved: its member is outside the window
          rw [← hzid] at hzroot hroot' ⊢
          obtain ⟨hwindow, hid⟩ := root_of_moves h hx hz hzroot hzmoves
          obtain ⟨c', hc', hc'id⟩ := hnone y hy (outside_of_not_moves hmoves hroot' hid) z hz
            hroot' hwindow hid
          rw [hc, Option.some.injEq] at hc'
          rw [if_pos rfl, root_setRoot, hc', hc'id]

theorem flat_own (hx : x ∈ rows) : Flat (modify rows x.id (Incident.setRoot x.id)) := by
  intro y' hy' r hroot'
  obtain ⟨y, hy, rfl⟩ := mem_setRoot.mp hy'
  -- the rewritten row points to itself, and the others to rows that keep their roots
  have hself : ∃ z ∈ modify rows x.id (Incident.setRoot x.id),
      z.id = x.id ∧ z.clusterId = x.clusterId ∧ z.root = some x.id := by
    refine ⟨_, mem_setRoot.mpr ⟨x, hx, rfl⟩, id_ite _ _ x, clusterId_ite _ _ x, ?_⟩
    rw [show (Keyed.key x == x.id) = true from beq_self_eq_true x.id, if_pos rfl, root_setRoot]
  by_cases hyx : (Keyed.key y == x.id) = true
  · rw [if_pos hyx, root_setRoot, Option.some.injEq] at hroot'
    rw [clusterId_ite, ← hroot', eq_of_id h.keys hy hx (beq_iff_eq.mp hyx)]
    exact hself
  · rw [if_neg hyx] at hroot'
    rw [clusterId_ite]
    obtain ⟨z, hz, hzid, hzcluster, hzroot⟩ := h.flat y hy r hroot'
    by_cases hzx : (Keyed.key z == x.id) = true
    · have heq := eq_of_id h.keys hz hx (beq_iff_eq.mp hzx)
      rw [← hzid, ← hzcluster, heq]
      exact hself
    · refine ⟨_, mem_setRoot.mpr ⟨z, hz, rfl⟩, ?_, ?_, ?_⟩
      · rw [id_ite, hzid]
      · rw [clusterId_ite, hzcluster]
      · rw [if_neg hzx, hzroot]

theorem together_update (hx : x ∈ rows) {p : Incident → Bool} (hp : p x = true) (r : Nat) :
    Together U (update rows p (Incident.setRoot r)) x.id ↔
      ∀ y ∈ rows, alike U x y = true → (if p y then y.setRoot r else y).root = some r := by
  constructor
  · intro htogether y hy halike
    obtain ⟨r', hx', hy'⟩ := htogether _ (mem_setRoot.mpr ⟨x, hx, rfl⟩) (id_ite (p x) r x) _
      (mem_setRoot.mpr ⟨y, hy, rfl⟩) (by rw [alike_ite]; exact halike)
    rw [hp, if_pos rfl, root_setRoot] at hx'
    rw [hy', hx']
  · intro hall x' hx' hid y' hy' halike
    obtain ⟨w, hw, rfl⟩ := mem_setRoot.mp hx'
    obtain ⟨y, hy, rfl⟩ := mem_setRoot.mp hy'
    rw [id_ite] at hid
    rw [alike_ite, eq_of_id h.keys hw hx hid] at halike
    refine ⟨r, ?_, hall y hy halike⟩
    rw [eq_of_id h.keys hw hx hid, hp, if_pos rfl, root_setRoot]

end

theorem alike_ne (h : alike U x y = true) : y.id ≠ x.id := by
  simp only [alike, eligible, Bool.and_eq_true, bne_iff_ne] at h
  exact h.1.1.1.1

theorem alike_window (h : alike U x y = true) : inWindow x y = true := by
  simp only [alike, eligible, Bool.and_eq_true] at h
  exact h.1.2

theorem related_of_candidates (hy : y ∈ candidates rows x) (h : alike U x y = true) :
    y ∈ related U rows x := by
  simp only [alike, Bool.and_eq_true] at h
  exact List.mem_filter.mpr ⟨hy, h.2⟩

theorem moves_of_related (h : y ∈ related U rows x) : moves x (rootIds U rows x) y = true := by
  have hwindow := alike_window (mem_related h).2
  have hid : y.rootId ∈ rootIds U rows x := List.mem_cons_of_mem _ (List.mem_map_of_mem h)
  unfold Incident.rootId at hid
  cases hroot : y.root with
  | none =>
    rw [hroot] at hid
    exact moves_of_id hwindow hid
  | some r =>
    rw [hroot] at hid
    exact moves_of_root hwindow hroot hid

theorem together_merge_iff (h : Kept rows) (hx : x ∈ rows) (hc : canonical U rows x = some c)
    (hsome : related U rows x ≠ []) :
    Together U (update rows (moves x (rootIds U rows x)) (Incident.setRoot c.id)) x.id ↔
      Reached U rows x := by
  have hself : moves x (rootIds U rows x) x = true := by simp [moves]
  rw [together_update h hx hself, Reached]
  refine forall₃_congr fun y hy halike => ?_
  rw [if_neg hsome]
  constructor
  · intro hroot
    right
    cases hmoves : moves x (rootIds U rows x) y with
    | true => rfl
    | false =>
      rw [hmoves, if_neg Bool.false_ne_true] at hroot
      exact hmoves.symm.trans (moves_of_root (alike_window halike) hroot (mem_canonical hc).2)
  · rintro (hcandidate | hmoves)
    · rw [moves_of_related (related_of_candidates hcandidate halike), if_pos rfl, root_setRoot]
    · rw [hmoves, if_pos rfl, root_setRoot]

theorem together_own_iff (h : Kept rows) (hx : x ∈ rows) (hnone : related U rows x = []) :
    Together U (modify rows x.id (Incident.setRoot x.id)) x.id ↔ Reached U rows x := by
  have hself : (Keyed.key x == x.id) = true := beq_self_eq_true x.id
  rw [Verified.Table.modify, together_update h hx hself, Reached]
  refine forall₃_congr fun y hy halike => ?_
  have hne : ¬(Keyed.key y == x.id) = true := by
    rw [beq_iff_eq]
    exact alike_ne halike
  rw [if_neg hne, if_pos hnone]
  constructor
  · exact .inr
  · rintro (hcandidate | hroot)
    · have hrelated := related_of_candidates hcandidate halike
      rw [hnone] at hrelated
      cases hrelated
    · exact hroot

theorem reached_of_few (h : (rows.filter (eligible x)).length ≤ maxGroupCandidates) :
    Reached U rows x := by
  intro y hy halike
  left
  unfold candidates
  rw [List.take_of_length_le (by rw [List.length_insertionSort]; exact h), List.mem_insertionSort,
    List.mem_filter]
  rw [alike, Bool.and_eq_true] at halike
  exact ⟨hy, halike.1⟩

section

variable (h : Kept rows)
include h

theorem canonical_isSome (hx : x ∈ rows) : ∃ c, canonical U rows x = some c := by
  apply earliest_isSome
  intro hnone
  have hid : x.rootId ∈ rootIds U rows x := List.mem_cons_self
  have hrow : ∃ z ∈ rows, z.id = x.rootId := by
    unfold Incident.rootId
    cases hroot : x.root with
    | none => exact ⟨x, hx, rfl⟩
    | some r =>
      obtain ⟨z, hz, hzid, -⟩ := h.flat x hx r hroot
      exact ⟨z, hz, hzid⟩
  obtain ⟨z, hz, hzid⟩ := hrow
  have hmem : z ∈ rows.filter fun r => (rootIds U rows x).contains r.id := by
    rw [List.mem_filter, List.contains_iff_mem, hzid]
    exact ⟨hz, hid⟩
  rw [hnone] at hmem
  cases hmem

theorem assign_iff (hx : x ∈ rows) :
    ∃ rows', assignIncidentGroup U rows x = some rows' ∧
      rows'.map Keyed.key = rows.map Keyed.key ∧
      (Flat rows' ∧ Together U rows' x.id ↔
        Reached U rows x ∧ (related U rows x ≠ [] → NoneLeft U rows x)) := by
  unfold assignIncidentGroup
  by_cases hnone : related U rows x = []
  · rw [if_pos hnone]
    refine ⟨_, rfl, keys_setRoot rows _ x.id, ?_⟩
    rw [together_own_iff h hx hnone]
    constructor
    · rintro ⟨-, hreached⟩
      exact ⟨hreached, fun hsome => absurd hnone hsome⟩
    · rintro ⟨hreached, -⟩
      exact ⟨flat_own h hx, hreached⟩
  · obtain ⟨c, hc⟩ := canonical_isSome (U := U) h hx
    rw [if_neg hnone, hc]
    refine ⟨_, rfl, keys_setRoot rows _ c.id, ?_⟩
    rw [together_merge_iff h hx hc hnone, flat_merge_iff h hx hc]
    constructor
    · rintro ⟨hleft, hreached⟩
      exact ⟨hreached, fun _ => hleft⟩
    · rintro ⟨hreached, hleft⟩
      exact ⟨hleft hnone, hreached⟩

/-! ## Runs -/

theorem kept_detect (x : Incident) (hnew : get rows x.id = none) :
    Kept (insert rows { x with root := none }) where
  keys := keys_insert h.keys hnew
  flat := by
    intro y hy r hroot
    unfold Verified.Table.insert at hy ⊢
    rw [List.mem_append, List.mem_singleton] at hy
    rcases hy with hy | rfl
    · obtain ⟨z, hz, hrest⟩ := h.flat y hy r hroot
      exact ⟨z, List.mem_append_left _ hz, hrest⟩
    · cases hroot

theorem kept_change (id : Nat) (status : IncidentStatus)
    (logExcerpt : Option String) (evidence : List (String × Value)) :
    Kept (modify rows id fun x =>
      { x with status := status, logExcerpt := logExcerpt, evidence := evidence }) where
  keys := by
    rw [keys_modify rows id]
    · exact h.keys
    · intro x
      rfl
  flat := by
    -- neither ids nor clusters nor roots are written
    have hmem : ∀ y' ∈ modify rows id (fun x : Incident =>
        { x with status := status, logExcerpt := logExcerpt, evidence := evidence }),
        ∃ y ∈ rows, y'.id = y.id ∧ y'.clusterId = y.clusterId ∧ y'.root = y.root := by
      intro y' hy'
      obtain ⟨y, hy, rfl⟩ := List.mem_map.mp hy'
      refine ⟨y, hy, ?_⟩
      split
      · exact ⟨rfl, rfl, rfl⟩
      · exact ⟨rfl, rfl, rfl⟩
    have hback : ∀ z ∈ rows, ∃ z' ∈ modify rows id (fun x : Incident =>
        { x with status := status, logExcerpt := logExcerpt, evidence := evidence }),
        z'.id = z.id ∧ z'.clusterId = z.clusterId ∧ z'.root = z.root := by
      intro z hz
      refine ⟨_, List.mem_map_of_mem hz, ?_⟩
      split
      · exact ⟨rfl, rfl, rfl⟩
      · exact ⟨rfl, rfl, rfl⟩
    intro y' hy' r hroot
    obtain ⟨y, hy, -, hcluster, hsame⟩ := hmem y' hy'
    obtain ⟨z, hz, hzid, hzcluster, hzroot⟩ := h.flat y hy r (hsame ▸ hroot)
    obtain ⟨z', hz', hid, hcluster', hroot'⟩ := hback z hz
    exact ⟨z', hz', hid.trans hzid, hcluster'.trans (hzcluster.trans hcluster.symm),
      hroot'.trans hzroot⟩

end

theorem handle_step (U : Unicode) (h : Kept rows) (id : Nat) :
    (Flat (handle U rows id) ∧ Together U (handle U rows id) id ↔
        ∀ x ∈ rows, x.id = id →
          Reached U rows x ∧ (related U rows x ≠ [] → NoneLeft U rows x)) ∧
      ((∀ x ∈ rows, x.id = id →
          Reached U rows x ∧ (related U rows x ≠ [] → NoneLeft U rows x)) →
        Kept (handle U rows id)) := by
  unfold handle
  cases hrow : get rows id with
  | none =>
    have hno : ∀ x ∈ rows, x.id ≠ id := by
      intro x hx hid
      have hget := get_of_mem h.keys hx
      rw [show Keyed.key x = id from hid, hrow] at hget
      cases hget
    refine ⟨iff_of_true ⟨h.flat, ?_⟩ ?_, fun _ => h⟩
    · intro x hx hid
      exact absurd hid (hno x hx)
    · intro x hx hid
      exact absurd hid (hno x hx)
  | some x =>
    have hx := mem_of_get hrow
    have hid : x.id = id := key_of_get hrow
    obtain ⟨rows', hassign, hkeys, hiff⟩ := assign_iff (U := U) h hx
    have hone : (∀ y ∈ rows, y.id = id →
        Reached U rows y ∧ (related U rows y ≠ [] → NoneLeft U rows y)) ↔
        Reached U rows x ∧ (related U rows x ≠ [] → NoneLeft U rows x) := by
      constructor
      · intro hall
        exact hall x hx hid
      · intro hwhole y hy hyid
        rw [eq_of_id h.keys hy hx (hyid.trans hid.symm)]
        exact hwhole
    dsimp only
    rw [hone, ← hiff, hassign, hid]
    refine ⟨Iff.rfl, fun hgood => ⟨?_, hgood.1⟩⟩
    rw [Option.getD_some, hkeys]
    exact h.keys

theorem grouped_step (U : Unicode) (h : Kept rows) (event : Event) :
    (Grouped U rows event (step U rows event) ↔ Whole U rows event) ∧
      (Whole U rows event → Kept (step U rows event)) := by
  cases event with
  | detect x =>
    have hkept : Kept (step U rows (.detect x)) := by
      rw [step]
      cases hrow : get rows x.id with
      | none => exact kept_detect h x hrow
      | some y => exact h
    exact ⟨iff_of_true ⟨hkept.flat, True.intro⟩ True.intro, fun _ => hkept⟩
  | change id status logExcerpt evidence =>
    have hkept := kept_change h id status logExcerpt evidence
    exact ⟨iff_of_true ⟨hkept.flat, True.intro⟩ True.intro, fun _ => hkept⟩
  | handle id => exact handle_step U h id

/-- **The groups of every run**: flat, with all that is related together, exactly when every call
reaches what is related and leaves no member behind. -/
theorem grouped_iff (U : Unicode) (events : List Event) :
    (system U).Always (Grouped U) [] events ↔ (system U).Meets (Whole U) [] events := by
  obtain ⟨rows, hrun⟩ := (system U).run_total (fun s event => ⟨step U s event, rfl⟩) events []
  apply (system U).always_iff_meets_of (Grouped U) (Whole U) Kept
  · intro s event s' hs hstep
    cases hstep
    exact grouped_step U hs event
  · exact ⟨List.nodup_nil, fun y hy => by cases hy⟩
  · exact hrun

/-- Texts in ASCII. -/
def ascii : Unicode where
  word c := c.isAlphanum || c == '_'
  digit := Char.isDigit
  lower s := String.ofList (s.toList.map Char.toLower)

def osdDown (id : Nat) (minutes : Int) : Incident :=
  ⟨id, none, "OSD_DOWN", .new, minutes * minute, id, none, [], none⟩

/-- Two incidents within an hour, and one from before that arrives late. -/
def lateArrival : List Event :=
  [.detect (osdDown 1 0), .handle 1, .detect (osdDown 2 60), .handle 2, .detect (osdDown 3 (-5))]

/-- The first incident moves to the root of the late one, and the second still points to the
first. -/
theorem member_left : ¬(system ascii).Always (Grouped ascii) [] (lateArrival ++ [.handle 3]) := by
  intro h
  have hstep : (system ascii).step (lateArrival.foldl (step ascii) []) (.handle 3) =
      some ((lateArrival ++ [Event.handle 3]).foldl (step ascii) []) := rfl
  obtain ⟨hflat, -⟩ := System.Always.step_after hstep lateArrival [] h rfl
  have hroots : ((lateArrival ++ [Event.handle 3]).foldl (step ascii) []).map
      (fun y : Incident => (y.id, y.root)) = [(1, some 3), (2, some 1), (3, some 3)] := by
    decide +kernel
  have hpoints : ∀ p ∈ [(1, some 3), (2, some 1), (3, some 3)], ∀ r, p.2 = some r →
      (r, some r) ∈ [(1, some 3), (2, some 1), (3, some 3)] := by
    rw [← hroots]
    intro p hp r hr
    obtain ⟨y, hy, rfl⟩ := List.mem_map.mp hp
    obtain ⟨z, hz, hzid, -, hzroot⟩ := hflat y hy r hr
    exact List.mem_map.mpr ⟨z, hz, by rw [hzid, hzroot]⟩
  exact absurd (hpoints (2, some 1) (by decide) 1 rfl) (by decide)

end CephAi.Ports.IncidentGroups
