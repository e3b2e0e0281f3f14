import CephAi.Ports.ClusterDeletion
import CephAi.Ports.MonitorFamilies

/-!
# Overloaded nodes

`check_node_resources` of `watcher/node_health_monitor.py`: the CPU and memory of each
configured machine, and since how many scans they are too high.  A machine is scanned under
one of its addresses.  A host whose metrics cannot be read is passed over.

## Main results

* `scanHosts_streak` — a host that is not measured keeps its count.
* `mem_stillOver` — a host that was measured over is reported as such.
* `resolved_not_over` — what a scan resolves was not measured over.
-/

namespace CephAi.Ports.NodeHealth

open Verified
open Models Verification MonitorFamilies
open ClusterDeletion (strip)

/-! ## The machines -/

/-- An entry of `configured_nodes()`. -/
structure ConfiguredNode where
  host : String
  roles : List String
deriving DecidableEq, Repr

/-- A group of `collapse_nodes`: the identity, the address, and whether it has a MON. -/
structure Machine where
  identity : String
  host : String
  mon : Bool
deriving DecidableEq, Repr

/-- `str(identities.get(host) or host).strip() or host` -/
def identityOf (identities : String → Option String) (host : String) : String :=
  let found :=
    match identities host with
    | some name => if name = "" then host else name
    | none => host
  if strip found = "" then host else strip found

/-- A node joins the group of its identity, and gives it its address when it brings the
first MON. -/
def joinGroup (identity : String) (node : ConfiguredNode) (groups : List Machine) :
    List Machine :=
  if groups.any fun g => g.identity == identity then
    groups.map fun g =>
      if g.identity = identity then
        { identity := identity
          host := if node.roles.contains "MON" && !g.mon then node.host else g.host
          mon := g.mon || node.roles.contains "MON" }
      else g
  else groups ++ [⟨identity, node.host, node.roles.contains "MON"⟩]

def collapseNodes (casefold : String → String) (nodes : List ConfiguredNode)
    (identities : String → Option String) : List Machine :=
  nodes.foldl
    (fun groups node => joinGroup (casefold (identityOf identities node.host)) node groups) []

/-! ## One scan -/

/-- What was read of a node. -/
structure Sample where
  cpu : ℚ
  mem : ℚ
deriving DecidableEq

/-- The answer of `fetch_latest_metrics`. -/
inductive Loki
  | sample (s : Sample)
  | unavailable
  | raised
deriving DecidableEq

/-- Where the metrics of a host come from: the live sample, when it was collected and pushed,
Loki, and the fallback over SSH. -/
structure Sources where
  live : Option Sample
  loki : Loki
  fallback : Option Sample
deriving DecidableEq

/-- What the scan has of a host in the end. -/
inductive Reading
  | sample (s : Sample)
  | missing
  | raised
deriving DecidableEq

/-- `metrics` -/
def Sources.reading (s : Sources) : Reading :=
  match s.live, s.loki, s.fallback with
  | some m, _, _ => .sample m
  | none, .sample m, _ => .sample m
  | none, .raised, _ => .raised
  | none, .unavailable, some m => .sample m
  | none, .unavailable, none => .missing

/-- A scan: what is configured, the identities unless their lookup failed, what is read, and
whether the database takes the result. -/
structure NodeScan where
  configured : List ConfiguredNode
  identities : Option (String → Option String)
  sources : String → Sources
  stored : Bool

def resourceNodes (casefold : String → String) (s : NodeScan) : List String :=
  if s.configured.length < 2 then s.configured.map ConfiguredNode.host
  else
    match s.identities with
    | none => s.configured.map ConfiguredNode.host
    | some identities => (collapseNodes casefold s.configured identities).map Machine.host

/-- `over_threshold` -/
def Sample.over (m : Sample) : Bool := 90 ≤ m.cpu || 90 ≤ m.mem

/-- The Incidents of this monitor. -/
def nodeFamily : Family := ⟨"NODE_RESOURCE_HIGH:", none, fun _ => true⟩

/-- `_consecutive_high_scans` -/
abbrev Streaks := String → Nat

/-- The counts and what is reported so far. -/
structure Found where
  streaks : Streaks
  report : Report

/-- `current[ceph_code] = …` -/
def setFinding (f : Finding) (current : List Finding) : List Finding :=
  if current.any fun g => g.cephCode == f.cephCode then
    current.map fun g => if g.cephCode = f.cephCode then f else g
  else current ++ [f]

/-- The proposal for a host. -/
def finding (host : String) (m : Sample) : Finding where
  cephCode := nodeFamily.codeFor host
  actionId := if 90 ≤ m.mem then "hard_reboot_node" else "investigate_manually"
  params := [("host", .text host)]

def Found.measure (f : Found) (host : String) (m : Sample) : Found :=
  let streak := if m.over then f.streaks host + 1 else 0
  { streaks := Function.update f.streaks host streak
    report :=
      { current := if 2 ≤ streak then setFinding (finding host m) f.report.current
          else f.report.current
        stillOver := if m.over then nodeFamily.codeFor host :: f.report.stillOver
          else f.report.stillOver } }

/-- The loop; the second component says that an exception ended it. -/
def scanHosts (reading : String → Reading) : List String → Found → Found × Bool
  | [], f => (f, false)
  | host :: hosts, f =>
    match reading host with
    | .raised => (f, true)
    | .missing => scanHosts reading hosts f
    | .sample m => scanHosts reading hosts (f.measure host m)

/-- What a scan of these hosts finds. -/
def NodeScan.found (s : NodeScan) (casefold : String → String) (streaks : Streaks) :
    Found × Bool :=
  scanHosts (fun host => (s.sources host).reading) (resourceNodes casefold s) ⟨streaks, ⟨[], []⟩⟩

/-- `check_node_resources` and `create_or_resolve_node_health_incidents`: the Incidents and
the counts afterwards. -/
def NodeScan.run (s : NodeScan) (casefold : String → String)
    (classify : String → ActionClassification) (db : Db) (streaks : Streaks) : Db × Streaks :=
  let found := s.found casefold streaks
  let stored :=
    if found.2 || !s.stored then none
    else nodeFamily.createOrResolve classify db found.1.report
  (stored.getD db, found.1.streaks)

/-! ## What is measured -/

/-- The scan has metrics of this host. -/
def NodeScan.measured (s : NodeScan) (casefold : String → String) (host : String)
    (m : Sample) : Prop :=
  host ∈ resourceNodes casefold s ∧ (s.sources host).reading = .sample m

variable {host : String} {reading : String → Reading}

/-- **A host without metrics keeps its count.** -/
theorem scanHosts_streak (h : ∀ m, reading host ≠ .sample m) (hosts : List String) :
    ∀ f : Found, (scanHosts reading hosts f).1.streaks host = f.streaks host := by
  induction hosts with
  | nil =>
    intro f
    rfl
  | cons other hosts ih =>
    intro f
    unfold scanHosts
    cases hreading : reading other with
    | raised => rfl
    | missing => exact ih f
    | sample m =>
      have hne : host ≠ other := by
        rintro rfl
        exact h m hreading
      rw [ih]
      exact Function.update_of_ne hne _ _

theorem scanHosts_streak_of_not_mem {hosts : List String} (h : host ∉ hosts) :
    ∀ f : Found, (scanHosts reading hosts f).1.streaks host = f.streaks host := by
  induction hosts with
  | nil =>
    intro f
    rfl
  | cons other hosts ih =>
    intro f
    rw [List.mem_cons, not_or] at h
    obtain ⟨hne, hnot⟩ := h
    unfold scanHosts
    cases reading other with
    | raised => rfl
    | missing => exact ih hnot f
    | sample m =>
      rw [ih hnot]
      exact Function.update_of_ne hne _ _

theorem found_streak {s : NodeScan} {casefold : String → String} {streaks : Streaks}
    (h : ∀ m, ¬ s.measured casefold host m) :
    (s.found casefold streaks).1.streaks host = streaks host := by
  unfold NodeScan.found
  by_cases hmem : host ∈ resourceNodes casefold s
  · exact scanHosts_streak (fun m hm => h m ⟨hmem, hm⟩) _ _
  · exact scanHosts_streak_of_not_mem hmem _

theorem stillOver_subset (reading : String → Reading) (hosts : List String) :
    ∀ f : Found, f.report.stillOver ⊆ (scanHosts reading hosts f).1.report.stillOver := by
  induction hosts with
  | nil =>
    intro f
    exact List.Subset.refl _
  | cons other hosts ih =>
    intro f
    unfold scanHosts
    cases reading other with
    | raised => exact List.Subset.refl _
    | missing => exact ih f
    | sample m =>
      apply List.Subset.trans _ (ih _)
      unfold Found.measure
      dsimp only
      split_ifs
      · exact List.subset_cons_self _ _
      · exact List.Subset.refl _

/-- **A host that was measured over is reported as such.** -/
theorem mem_stillOver {m : Sample} (hreading : reading host = .sample m) (hover : m.over = true)
    {hosts : List String} (hmem : host ∈ hosts) :
    ∀ f : Found, (scanHosts reading hosts f).2 = false →
      nodeFamily.codeFor host ∈ (scanHosts reading hosts f).1.report.stillOver := by
  induction hosts with
  | nil => cases hmem
  | cons other hosts ih =>
    intro f hends
    unfold scanHosts at hends ⊢
    rcases List.mem_cons.mp hmem with rfl | hmem
    · rw [hreading]
      apply stillOver_subset
      unfold Found.measure
      dsimp only
      rw [if_pos hover]
      exact List.mem_cons_self
    · cases hother : reading other with
      | raised =>
        rw [hother] at hends
        cases hends
      | missing =>
        rw [hother] at hends
        exact ih hmem f hends
      | sample m' =>
        rw [hother] at hends
        exact ih hmem _ hends

/-- **What a scan resolves was not measured over.** -/
theorem resolved_not_over {s : NodeScan} {casefold : String → String}
    {classify : String → ActionClassification} {db : Db} {streaks : Streaks} {id : Nat}
    {row : Incident} (hrow : db.incident? id = some row) (hopen : row.status ≠ .resolved)
    (hresolved : (s.run casefold classify db streaks).1.incidentStatus id = some .resolved) :
    nodeFamily.isOpen row = true ∧ ∀ host m, row.cephCode = nodeFamily.codeFor host →
      s.measured casefold host m → m.over = false := by
  unfold NodeScan.run at hresolved
  dsimp only at hresolved
  split_ifs at hresolved with hends
  · rw [Option.getD_none] at hresolved
    exact absurd hresolved (not_resolved_of_open hrow hopen)
  · have hresolves := resolves_of_getD (fun _ h => h) hrow hopen hresolved
    refine ⟨(resolves_iff.mp hresolves).1, ?_⟩
    intro host m hcode hmeasured
    rw [← Bool.not_eq_true]
    intro hover
    have hends' : (s.found casefold streaks).2 = false := by
      rw [Bool.or_eq_true, not_or, Bool.not_eq_true] at hends
      exact hends.1
    have hstill := mem_stillOver hmeasured.2 hover hmeasured.1 ⟨streaks, ⟨[], []⟩⟩ hends'
    rw [kept_of_mem (hcode ▸ hstill)] at hresolves
    cases hresolves

end CephAi.Ports.NodeHealth
