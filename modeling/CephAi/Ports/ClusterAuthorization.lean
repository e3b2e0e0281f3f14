import CephAi.Verified.Table
import Mathlib.Data.List.Dedup
import Mathlib.Tactic.Tauto

/-!
# Who may see a cluster

`has_cluster_capability` and `authorized_cluster_ids` of `dashboard/cluster_authorization.py`: a
route asks the first about one cluster and filters a list with the second.

## Main results

* `views_agree_iff` — when the two give a user the same clusters.
-/

namespace CephAi.Ports.ClusterAuthorization

open Verified.Table

structure User where
  id : String
  username : String
  isAdmin : Bool
  isActive : Bool
deriving DecidableEq, Repr

structure Cluster where
  id : String
  isDefault : Bool
deriving DecidableEq, Repr

/-- A row of `ClusterCapabilityGrant`. -/
structure Grant where
  userId : String
  clusterId : String
  capability : String
  isActive : Bool
deriving DecidableEq, Repr

structure Db where
  users : List User
  clusters : List Cluster
  grants : List Grant
  usernames : (users.map User.username).Nodup
  clusterIds : (clusters.map Cluster.id).Nodup

def capabilityRead : String := "cluster.read"
def capabilityManage : String := "cluster.manage"
def capabilityApprove : String := "action.approve"
def capabilityExecute : String := "action.execute"

def startsWith (s start : String) : Bool := start.toList.isPrefixOf s.toList

def capabilityMatches (granted requested : String) : Bool :=
  if granted = requested then true
  else if requested = capabilityRead then
    startsWith granted "cluster." || startsWith granted "action."
  else if requested = capabilityApprove ∨ requested = capabilityExecute then
    granted == capabilityManage
  else false

/-- The active row of a name. -/
def Db.activeUser (db : Db) (username : String) : Option User :=
  db.users.find? fun u => u.username == username && u.isActive

/-- `is_admin_user`; `dashboardUsername` is the account of the settings. -/
def isAdminUser (dashboardUsername : String) (db : Db) (username : String) : Bool :=
  if username = dashboardUsername then true else (db.activeUser username).any User.isAdmin

def Db.grantsOf (db : Db) (u : User) : List Grant :=
  db.grants.filter fun g => g.userId == u.id && g.isActive

def hasClusterCapability (dashboardUsername : String) (db : Db)
    (username clusterId capability : String) : Bool :=
  if username = "" ∨ clusterId = "" ∨ capability = "" then false
  else if isAdminUser dashboardUsername db username then true
  else
    match db.activeUser username with
    | none => false
    | some user =>
      if capability = capabilityRead ∧
          (db.clusters.find? fun c => c.id == clusterId).any Cluster.isDefault then true
      else ((db.grantsOf user).filter fun g => g.clusterId == clusterId).any fun g =>
        capabilityMatches g.capability capability

def authorizedClusterIds (dashboardUsername : String) (db : Db) (username : String) :
    Option (List String) :=
  if isAdminUser dashboardUsername db username then none
  else
    match db.activeUser username with
    | none => some []
    | some user => some ((db.grantsOf user).map Grant.clusterId).dedup

/-- The set of a user allows a cluster. -/
def Allows (ids : Option (List String)) (c : Cluster) : Prop := ∀ l, ids = some l → c.id ∈ l

/-- The two views of a user's clusters agree. -/
def Agree (dashboardUsername : String) (db : Db) (username : String) : Prop :=
  ∀ c ∈ db.clusters, Allows (authorizedClusterIds dashboardUsername db username) c ↔
    hasClusterCapability dashboardUsername db username c.id capabilityRead = true

/-- An active grant of the user on the cluster. -/
def Db.Granted (db : Db) (u : User) (c : Cluster) : Prop :=
  ∃ g ∈ db.grantsOf u, g.clusterId = c.id

/-- One that is about clusters or about actions. -/
def Db.GrantedRead (db : Db) (u : User) (c : Cluster) : Prop :=
  ∃ g ∈ db.grantsOf u, g.clusterId = c.id ∧
    (startsWith g.capability "cluster." = true ∨ startsWith g.capability "action." = true)

variable {admin username : String} {db : Db} {u : User} {c : Cluster}

theorem matches_read (granted : String) : capabilityMatches granted capabilityRead = true ↔
    startsWith granted "cluster." = true ∨ startsWith granted "action." = true := by
  unfold capabilityMatches
  split
  · rename_i h
    rw [h]
    decide
  · rw [if_pos rfl, Bool.or_eq_true]

theorem has_admin (hadmin : isAdminUser admin db username = true) :
    hasClusterCapability admin db username c.id capabilityRead = true ↔
      username ≠ "" ∧ c.id ≠ "" := by
  unfold hasClusterCapability
  rw [if_pos hadmin]
  simp [capabilityRead]

theorem has_user (hadmin : isAdminUser admin db username = false)
    (hu : db.activeUser username = some u) (hc : c ∈ db.clusters) :
    hasClusterCapability admin db username c.id capabilityRead = true ↔
      username ≠ "" ∧ c.id ≠ "" ∧ (c.isDefault = true ∨ db.GrantedRead u c) := by
  have hgranted : (((db.grantsOf u).filter fun g => g.clusterId == c.id).any fun g =>
      capabilityMatches g.capability capabilityRead) = true ↔ db.GrantedRead u c := by
    simp only [List.any_filter, List.any_eq_true, Bool.and_eq_true, beq_iff_eq, matches_read]
    rfl
  unfold hasClusterCapability
  by_cases hempty : username = "" ∨ c.id = "" ∨ capabilityRead = ""
  · rw [if_pos hempty]
    have hread : capabilityRead ≠ "" := by decide
    tauto
  · rw [if_neg hempty, hadmin, if_neg Bool.false_ne_true, hu, find?_of_nodup db.clusterIds hc]
    dsimp only [Option.any]
    simp only [true_and]
    split_ifs with hdefault
    · tauto
    · rw [hgranted]
      tauto

theorem allows_user (hadmin : isAdminUser admin db username = false)
    (hu : db.activeUser username = some u) :
    Allows (authorizedClusterIds admin db username) c ↔ db.Granted u c := by
  unfold Allows authorizedClusterIds
  rw [if_neg (Bool.eq_false_iff.mp hadmin), hu]
  simp only [Option.some.injEq, forall_eq', List.mem_dedup, List.mem_map]
  rfl

/-- **The views agree** on an administrator where neither the name nor an id is empty, and on
another user exactly when the grants cover the default cluster, and no other cluster has a grant
that is about neither clusters nor actions. -/
theorem views_agree_iff (admin : String) (db : Db) (username : String) :
    Agree admin db username ↔ ∀ c ∈ db.clusters,
      if isAdminUser admin db username = true then username ≠ "" ∧ c.id ≠ ""
      else ∀ u, db.activeUser username = some u →
        if username = "" ∨ c.id = "" then ¬db.Granted u c
        else if c.isDefault = true then db.Granted u c
        else db.Granted u c → db.GrantedRead u c := by
  refine forall₂_congr fun c hc => ?_
  cases hadmin : isAdminUser admin db username with
  | true =>
    have hall : Allows (authorizedClusterIds admin db username) c := by
      intro l hl
      rw [authorizedClusterIds, if_pos hadmin] at hl
      cases hl
    rw [if_pos rfl, has_admin hadmin]
    exact iff_true_left hall
  | false =>
    rw [if_neg Bool.false_ne_true]
    cases hu : db.activeUser username with
    | none =>
      have hnone : ¬Allows (authorizedClusterIds admin db username) c := by
        intro hall
        have hnil := hall [] (by rw [authorizedClusterIds, hadmin, hu]; rfl)
        cases hnil
      have hhas : hasClusterCapability admin db username c.id capabilityRead = false := by
        unfold hasClusterCapability
        rw [hadmin, hu]
        simp
      rw [hhas]
      simp [hnone]
    | some u =>
      have hread : db.GrantedRead u c → db.Granted u c := fun ⟨g, hg, hid, _⟩ => ⟨g, hg, hid⟩
      rw [has_user hadmin hu hc, allows_user hadmin hu]
      simp only [Option.some.injEq, forall_eq']
      split_ifs with hempty hdefault
      · tauto
      · tauto
      · tauto

def withoutGrants : Db where
  users := [⟨"u1", "operator", false, true⟩]
  clusters := [⟨"c1", true⟩]
  grants := []
  usernames := by decide
  clusterIds := by decide

/-- The operator may read the default cluster, which is not in the operator's set. -/
theorem default_cluster_missing : ¬Agree "admin" withoutGrants "operator" := by
  intro h
  have hallows := (h ⟨"c1", true⟩ (by decide)).mpr (by decide) [] (by decide)
  cases hallows

end CephAi.Ports.ClusterAuthorization
