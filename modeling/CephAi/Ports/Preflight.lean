import CephAi.Verified.Table
import Mathlib

/-!
# The preflight of an action

`run_preflight` of `worker/preflight.py`, with `latest_snapshot` and the snapshots that
`scan_and_store` of `watcher/capability_inventory.py` makes, and `check_capability` of
`shared/capability_matrix.py`.

## Main results

* `backed_iff` — what stands behind an allowed action.
* `failClosed_iff` — when an action is also judged alike on the default cluster and on no cluster.
-/

namespace CephAi.Ports.Preflight

open Verified.Table

inductive CapabilityStatus
  | supported
  | unsupportedVersion
  | unknown
  | unavailable
deriving DecidableEq, Repr

structure Cluster where
  id : String
  isActive : Bool
  isDefault : Bool
  id_ne : id ≠ ""
deriving DecidableEq

/-- A row of `ClusterCapabilityInventory`. -/
structure Snapshot where
  clusterId : String
  collectedAt : Int
  status : CapabilityStatus
  currentMajor : Option Int
  major_of_supported : status = .supported → currentMajor.isSome = true
deriving DecidableEq

/-- What `ceph versions` comes to: nothing, several versions, or one, with its major if it has
one. -/
inductive Versions
  | failed
  | mixed
  | single (major : Option Int)

/-- `collect_capability_snapshot`, of the known releases. -/
def Snapshot.collect (releases : List Int) (clusterId : String) (now : Int) :
    Versions → Snapshot
  | .failed => ⟨clusterId, now, .unavailable, none, nofun⟩
  | .mixed => ⟨clusterId, now, .unsupportedVersion, none, nofun⟩
  | .single none => ⟨clusterId, now, .unsupportedVersion, none, nofun⟩
  | .single (some major) =>
    { clusterId := clusterId
      collectedAt := now
      status := if major ∈ releases then .supported else .unsupportedVersion
      currentMajor := some major
      major_of_supported := fun _ => rfl }

/-- A row of `CapabilityMatrixEntry`. -/
structure MatrixEntry where
  commandId : String
  active : Bool
  minMajor : Int
  maxMajor : Option Int
deriving DecidableEq, Repr

def MatrixEntry.covers (e : MatrixEntry) (major : Int) : Bool :=
  decide (e.minMajor ≤ major) && e.maxMajor.all fun m => major ≤ m

/-- A row of `ActionPolicyOverride`; `safe` is its classification. -/
structure Override where
  actionId : String
  safe : Bool
deriving DecidableEq, Repr

structure Db where
  clusters : List Cluster
  snapshots : List Snapshot
  entries : List MatrixEntry
  overrides : List Override
  unique : (clusters.map Cluster.id).Nodup
  owned : ∀ s ∈ snapshots, ∃ c ∈ clusters, c.id = s.clusterId

structure PreflightResult where
  allowed : Bool
  capabilityStatus : Option CapabilityStatus
deriving DecidableEq, Repr

def latestSnapshot (db : Db) (clusterId : Option String) : Option Snapshot :=
  ((db.snapshots.filter fun s => some s.clusterId = clusterId).insertionSort
    fun s t => t.collectedAt ≤ s.collectedAt).head?

def Db.activeEntries (db : Db) (commandId : String) : List MatrixEntry :=
  db.entries.filter fun e => e.commandId == commandId && e.active

def checkCapability (db : Db) (commandId : String) : Option Int → CapabilityStatus
  | none => .unknown
  | some major =>
    if db.activeEntries commandId = [] then .unknown
    else if (db.activeEntries commandId).any fun e => e.covers major then .supported
    else .unsupportedVersion

/-- The actions without a command. -/
def manualActions : List String := ["investigate_manually", "pg_repair_force"]

def runPreflight (db : Db) (now maxAge : Int) (clusterId : Option String) (actionId : String) :
    PreflightResult :=
  let cluster := (clusterId.filter (· != "")).bind fun id =>
    db.clusters.find? fun c => c.id == id
  if cluster.any fun c => !c.isActive then ⟨false, none⟩
  else if actionId ∈ manualActions then ⟨true, none⟩
  else
    match latestSnapshot db clusterId with
    | none => ⟨false, some .unknown⟩
    | some snapshot =>
      if snapshot.status ≠ .supported then ⟨false, some snapshot.status⟩
      else if maxAge < now - snapshot.collectedAt then ⟨false, some .unknown⟩
      else
        let status := checkCapability db actionId snapshot.currentMajor
        if status = .supported then ⟨true, some .supported⟩
        else
          let override := db.overrides.find? fun o => o.actionId = actionId
          if status = .unknown ∧ override.any Override.safe = true then ⟨true, some .unknown⟩
          else ⟨false, some status⟩

/-- The matrix or an override allows the action on a major version. -/
def Covered (db : Db) (actionId : String) (major : Option Int) : Prop :=
  (∃ m ∈ major, ∃ e ∈ db.activeEntries actionId, e.covers m = true) ∨
    db.activeEntries actionId = [] ∧
      (db.overrides.find? fun o => o.actionId = actionId).any Override.safe = true

/-- The newest snapshot of a cluster is supported and recent, and its version is covered. -/
def Evidence (db : Db) (now maxAge : Int) (clusterId actionId : String) : Prop :=
  ∃ s ∈ latestSnapshot db (some clusterId), s.status = .supported ∧ now - s.collectedAt ≤ maxAge ∧
    Covered db actionId s.currentMajor

def Backed (db : Db) (now maxAge : Int) (clusterId actionId : String) : Prop :=
  (∃ c ∈ db.clusters, c.id = clusterId ∧ c.isActive = true) ∧
    Evidence db now maxAge clusterId actionId

/-- An action is allowed on what backs it only, and no cluster stands for the default one. -/
structure FailClosed (db : Db) (now maxAge : Int) (actionId : String) : Prop where
  backed : ∀ id, (runPreflight db now maxAge (some id) actionId).allowed = true →
    Backed db now maxAge id actionId
  default : ∀ c ∈ db.clusters, c.isDefault = true →
    (runPreflight db now maxAge none actionId).allowed =
      (runPreflight db now maxAge (some c.id) actionId).allowed

variable {db : Db} {now maxAge : Int} {id actionId : String}

theorem latestSnapshot_newest {s : Snapshot} (h : latestSnapshot db (some id) = some s) :
    s ∈ db.snapshots ∧ s.clusterId = id ∧
      ∀ t ∈ db.snapshots, t.clusterId = id → t.collectedAt ≤ s.collectedAt := by
  have : IsTrans Snapshot fun s t => t.collectedAt ≤ s.collectedAt := ⟨fun _ _ _ h h' => h'.trans h⟩
  have : Std.Total fun s t : Snapshot => t.collectedAt ≤ s.collectedAt :=
    ⟨fun s t => le_total t.collectedAt s.collectedAt⟩
  obtain ⟨older, hsorted⟩ := List.head?_eq_some_iff.mp h
  have hperm := List.perm_insertionSort (fun s t : Snapshot => t.collectedAt ≤ s.collectedAt)
    (db.snapshots.filter fun s => some s.clusterId = some id)
  rw [hsorted] at hperm
  obtain ⟨hs, hid⟩ := List.mem_filter.mp (hperm.subset List.mem_cons_self)
  refine ⟨hs, Option.some.inj (of_decide_eq_true hid), fun t ht htid => ?_⟩
  have hmem := hperm.symm.subset (List.mem_filter.mpr ⟨ht, by simp [htid]⟩)
  rcases List.mem_cons.mp hmem with rfl | hold
  · exact le_rfl
  · have hordered := List.pairwise_insertionSort
      (fun s t : Snapshot => t.collectedAt ≤ s.collectedAt)
      (db.snapshots.filter fun s => some s.clusterId = some id)
    rw [hsorted] at hordered
    exact List.rel_of_pairwise_cons hordered hold

theorem covered_iff (major : Int) :
    Covered db actionId (some major) ↔ checkCapability db actionId (some major) = .supported ∨
      checkCapability db actionId (some major) = .unknown ∧
        (db.overrides.find? fun o => o.actionId = actionId).any Override.safe = true := by
  unfold Covered checkCapability
  by_cases hnone : db.activeEntries actionId = []
  · simp [hnone]
  · dsimp only
    rw [if_neg hnone]
    split_ifs with hcovered
    · rw [List.any_eq_true] at hcovered
      exact iff_of_true (.inl ⟨major, rfl, hcovered⟩) (.inl rfl)
    · rw [List.any_eq_true] at hcovered
      refine iff_of_false ?_ (by simp)
      rintro (⟨m, hm, he⟩ | ⟨hnil, -⟩)
      · cases hm
        exact hcovered he
      · exact hnone hnil

/-- **What an allowed action has behind it** is exactly its cluster and the evidence. -/
theorem backed_iff (hmanual : actionId ∉ manualActions) :
    (runPreflight db now maxAge (some id) actionId).allowed = true ↔
      Backed db now maxAge id actionId := by
  have hcluster : ∀ c ∈ db.clusters, c.id = id →
      (((some id).filter (· != "")).bind fun id => db.clusters.find? fun c => c.id == id) =
        some c := by
    rintro c hc rfl
    rw [Option.filter_some, if_pos (bne_iff_ne.mpr c.id_ne)]
    exact find?_of_nodup db.unique hc
  unfold runPreflight
  dsimp only
  generalize (((some id).filter (· != "")).bind fun id =>
    db.clusters.find? fun c => c.id == id) = cluster at hcluster
  split_ifs with hinactive
  · refine iff_of_false not_false ?_
    rintro ⟨⟨c, hc, hid, hactive⟩, -⟩
    rw [hcluster c hc hid, Option.any_some, hactive] at hinactive
    cases hinactive
  · cases hs : latestSnapshot db (some id) with
    | none =>
      refine iff_of_false Bool.false_ne_true ?_
      rintro ⟨-, s, hmem, -⟩
      rw [hs] at hmem
      cases hmem
    | some s =>
      obtain ⟨hmem, hid, -⟩ := latestSnapshot_newest hs
      obtain ⟨c, hc, hown⟩ := db.owned s hmem
      have hactive : c.isActive = true := by
        rw [hcluster c hc (hown.trans hid), Option.any_some] at hinactive
        simpa using hinactive
      have hbacked : Backed db now maxAge id actionId ↔ s.status = .supported ∧
          now - s.collectedAt ≤ maxAge ∧ Covered db actionId s.currentMajor := by
        simp only [Backed, Evidence, hs, Option.mem_some_iff, exists_eq_left']
        exact and_iff_right ⟨c, hc, hown.trans hid, hactive⟩
      rw [hbacked]
      dsimp only
      by_cases hstatus : s.status = .supported
      · obtain ⟨major, hmajor⟩ := Option.isSome_iff_exists.mp (s.major_of_supported hstatus)
        rw [if_neg (not_not.mpr hstatus), hmajor, covered_iff]
        split_ifs with hstale hsupported hoverride
        · exact iff_of_false not_false fun h => hstale.not_ge h.2.1
        · exact iff_of_true rfl ⟨hstatus, not_lt.mp hstale, .inl hsupported⟩
        · exact iff_of_true rfl ⟨hstatus, not_lt.mp hstale, .inr hoverride⟩
        · exact iff_of_false not_false fun h => h.2.2.elim hsupported hoverride
      · rw [if_pos hstatus]
        exact iff_of_false Bool.false_ne_true fun h => hstatus h.1

theorem refused_without_cluster (hmanual : actionId ∉ manualActions) :
    (runPreflight db now maxAge none actionId).allowed = false := by
  have hnone : latestSnapshot db none = none := by
    unfold latestSnapshot
    rw [List.filter_eq_nil_iff.mpr (by simp)]
    rfl
  unfold runPreflight
  rw [hnone]
  simp [hmanual]

/-- **The preflight is fail-closed** on every cluster, and alike on the default cluster and on no
cluster exactly when nothing is allowed on the default one. -/
theorem failClosed_iff (db : Db) (now maxAge : Int) :
    (∀ actionId, actionId ∉ manualActions → FailClosed db now maxAge actionId) ↔
      ∀ actionId, actionId ∉ manualActions → ∀ c ∈ db.clusters, c.isDefault = true →
        ¬Backed db now maxAge c.id actionId := by
  refine forall₂_congr fun actionId hmanual => ?_
  constructor
  · intro h c hc hdefault hbacked
    have hsame := h.default c hc hdefault
    rw [refused_without_cluster hmanual, (backed_iff hmanual).mpr hbacked] at hsame
    cases hsame
  · intro h
    refine ⟨fun id hallowed => (backed_iff hmanual).mp hallowed, fun c hc hdefault => ?_⟩
    rw [refused_without_cluster hmanual, eq_comm, Bool.eq_false_iff]
    exact fun hallowed => h c hc hdefault ((backed_iff hmanual).mp hallowed)

/-- A default cluster with all the evidence for an action. -/
def ready : Db where
  clusters := [⟨"c", true, true, by decide⟩]
  snapshots := [⟨"c", 0, .supported, some 18, fun _ => rfl⟩]
  entries := [⟨"resync_ntp", true, 16, none⟩]
  overrides := []
  unique := by simp
  owned := by simp

/-- The action is allowed on the cluster and refused on no cluster. -/
theorem default_refused :
    ¬∀ actionId, actionId ∉ manualActions → FailClosed ready 0 3600 actionId := by
  intro h
  have hsame := (h "resync_ntp" (by decide)).default ⟨"c", true, true, by decide⟩ (by decide) rfl
  revert hsame
  decide +kernel

end CephAi.Ports.Preflight
