import Mathlib.Algebra.BigOperators.Group.List.Basic
import Mathlib.Algebra.BigOperators.Ring.List
import Mathlib.Data.Finset.Sort
import Mathlib.Data.List.Sort
import Mathlib.Order.Bounds.Basic
import Mathlib.Tactic.FieldSimp
import Mathlib.Tactic.Linarith
import Mathlib.Tactic.NormNum
import Mathlib.Tactic.Positivity
import Mathlib.Tactic.Ring

/-!
# The capacity simulation of a lost failure domain

`_failure_domains` and `_scenario` of `watcher/capacity_failure_simulation.py`, over rational
numbers and without the rounding for display.  The nodes of a CRUSH tree are a forest: a first
tree with the forest of its children, and the forest of the others.

The used bytes of the lost OSDs are spread over the survivors in proportion to their free space,
or evenly when none of them has any.

## Main results

* `sum_recovery` — what is spread is what was lost.
* `cluster_le_maxOsd` — the fullest OSD is at least as full as the cluster.
* `percent_mono` — an OSD is not less full after a larger loss.
* `simulation_sound_iff` — the bytes to add are the least that suffice exactly when none are
  missing, or the used bytes are a multiple of four.
-/

namespace CephAi.Ports.CapacityFailure

/-! ## The failure domains -/

inductive Forest
  | nil
  | node (type name : String) (id : Option Int) (children rest : Forest)

/-- `_descendant_osds` of the nodes; an id that is no number is skipped. -/
def descendantOsds : Forest → Finset Int
  | .nil => ∅
  | .node type _ id children rest =>
    (if type = "osd" then id.toFinset else descendantOsds children) ∪ descendantOsds rest

/-- A failure domain: its kind, its name and its OSDs. -/
structure Domain where
  kind : String
  name : String
  osds : Finset Int

/-- `_failure_domains`: a node whose name holds a tilde is skipped with its subtree. -/
def failureDomains : Forest → List Domain
  | .nil => []
  | .node type name id children rest =>
    let osds := if type = "osd" then id.toFinset else descendantOsds children
    let unnamed := if type = "osd" then "osd." ++ toString (id.getD 0) else "unknown"
    let domain : Domain := ⟨type, if name = "" then unnamed else name, osds⟩
    (if name.contains '~' then []
      else (if type ∈ ["osd", "host", "rack"] ∧ osds ≠ ∅ then [domain] else []) ++
        failureDomains children) ++ failureDomains rest

/-! ## A scenario -/

/-- A row of `crush_osd_distribution`; the pair of the cluster and the `osd_id` is its key. -/
structure OsdRow where
  osdId : Int
  bytesTotal : Option Nat
  bytesUsed : Option Nat
deriving DecidableEq

def OsdRow.total (row : OsdRow) : Nat := row.bytesTotal.getD 0

def OsdRow.used (row : OsdRow) : Nat := row.bytesUsed.getD 0

/-- `max(0, row.bytes_total - row.bytes_used)` -/
def OsdRow.free (row : OsdRow) : Nat := row.total - row.used

/-- The latest capacity sample of a pool. -/
structure PoolSample where
  entityName : String
  usedPercent : ℚ

structure Scenario where
  domainType : String
  domainName : String
  lostOsdIds : List Int
  lostCapacityBytes : Nat
  remainingCapacityBytes : Nat
  clusterProjectedPercent : ℚ
  maxOsdProjectedPercent : ℚ
  highestThreshold : Option Nat
  additionalBytesFor80Percent : Nat
  osdsAtRisk : List (Int × ℚ)
  poolsAtRisk : List (String × ℚ × ℚ)
  catastrophic : Bool

section Scenarios

variable (rows : List OsdRow) (lostIds : Finset Int)

def lost : List OsdRow := rows.filter fun row => row.osdId ∈ lostIds

def survivors : List OsdRow := rows.filter fun row => row.osdId ∉ lostIds

def totalUsed : Nat := (rows.map OsdRow.used).sum

def lostUsed : Nat := ((lost rows lostIds).map OsdRow.used).sum

def remainingBytes : Nat := ((survivors rows lostIds).map OsdRow.total).sum

def totalFree : Nat := ((survivors rows lostIds).map OsdRow.free).sum

/-- What a survivor takes over. -/
def recovery (row : OsdRow) : ℚ :=
  if totalFree rows lostIds ≠ 0 then
    (lostUsed rows lostIds : ℚ) * row.free / totalFree rows lostIds
  else (lostUsed rows lostIds : ℚ) / (survivors rows lostIds).length

def percent (row : OsdRow) : ℚ :=
  if row.total ≠ 0 then (row.used + recovery rows lostIds row) / row.total * 100 else 100

def postPercent : ℚ :=
  if remainingBytes rows lostIds ≠ 0 then
    (totalUsed rows : ℚ) / remainingBytes rows lostIds * 100
  else 100

def maxOsd : ℚ := (((survivors rows lostIds).map (percent rows lostIds)).max?).getD 0

/-- `int(total_used / .8 - remaining_bytes)`, not below 0: `int` cuts the fraction off. -/
def additionalBytes : Nat :=
  (Int.tdiv (5 * totalUsed rows - 4 * remainingBytes rows lostIds) 4).toNat

def thresholds : List Nat := [80, 90, 95]

/-- The greatest first, as `sorted` with `reverse`. -/
def byPercent {α : Type} (percent : α → ℚ) (items : List α) : List α :=
  items.insertionSort fun a b => percent b ≤ percent a

def scenario (domain : Domain) (pools : List PoolSample) : Option Scenario :=
  let lostIds := domain.osds
  let lost := lost rows lostIds
  let survivors := survivors rows lostIds
  if lost = [] ∨ rows.any fun row => row.bytesTotal.isNone || row.bytesUsed.isNone then none
  else if survivors = [] then
    some {
      domainType := domain.kind, domainName := domain.name
      lostOsdIds := lostIds.sort (· ≤ ·)
      lostCapacityBytes := (lost.map OsdRow.total).sum
      remainingCapacityBytes := 0, clusterProjectedPercent := 100
      maxOsdProjectedPercent := 100, highestThreshold := some 95
      additionalBytesFor80Percent := 5 * totalUsed rows / 4
      osdsAtRisk := []
      poolsAtRisk := pools.map fun pool => (pool.entityName, pool.usedPercent, 100)
      catastrophic := true }
  else
    let totalBytes := (rows.map OsdRow.total).sum
    let currentPercent : ℚ :=
      if totalBytes ≠ 0 then (totalUsed rows : ℚ) / totalBytes * 100 else 0
    let multiplier := if currentPercent ≠ 0 then postPercent rows lostIds / currentPercent else 1
    let projected := survivors.map fun row => (row.osdId, percent rows lostIds row)
    let projectedPools := (pools.filter fun pool =>
      decide (80 ≤ pool.usedPercent * multiplier)).map fun pool =>
        (pool.entityName, pool.usedPercent, min 100 (pool.usedPercent * multiplier))
    some {
      domainType := domain.kind, domainName := domain.name
      lostOsdIds := lostIds.sort (· ≤ ·)
      lostCapacityBytes := (lost.map OsdRow.total).sum
      remainingCapacityBytes := remainingBytes rows lostIds
      clusterProjectedPercent := postPercent rows lostIds
      maxOsdProjectedPercent := maxOsd rows lostIds
      highestThreshold := (thresholds.filter fun (value : Nat) =>
        decide ((value : ℚ) ≤ max (postPercent rows lostIds) (maxOsd rows lostIds))).max?
      additionalBytesFor80Percent := additionalBytes rows lostIds
      osdsAtRisk := byPercent Prod.snd (projected.filter fun item => decide (80 ≤ item.2))
      poolsAtRisk := byPercent (fun item => item.2.2) projectedPools
      catastrophic := false }

end Scenarios

/-! ## What is spread -/

/-- Rows of measured OSDs, each with some capacity and no more used than there is. -/
structure Distribution where
  rows : List OsdRow
  distinct : (rows.map OsdRow.osdId).Nodup
  measured : ∀ row ∈ rows, ∃ total used, row.bytesTotal = some total ∧
    row.bytesUsed = some used ∧ used ≤ total ∧ 0 < total

theorem Distribution.total_pos (D : Distribution) {row : OsdRow} (h : row ∈ D.rows) :
    0 < row.total := by
  obtain ⟨total, used, htotal, -, -, hpos⟩ := D.measured row h
  rw [OsdRow.total, htotal]
  exact hpos

section Spreading

variable {D : Distribution} {rows : List OsdRow} {lostIds lostIds' : Finset Int}

theorem sum_cast (rows : List OsdRow) (f : OsdRow → Nat) :
    (rows.map fun row => (f row : ℚ)).sum = ((rows.map f).sum : Nat) := by
  induction rows with
  | nil => rfl
  | cons row rows ih => rw [List.map_cons, List.sum_cons, ih, List.map_cons, List.sum_cons,
      Nat.cast_add]

/-- **Conservation**: the survivors take over what the lost OSDs used. -/
theorem sum_recovery (h : survivors rows lostIds ≠ []) :
    ((survivors rows lostIds).map (recovery rows lostIds)).sum = lostUsed rows lostIds := by
  unfold recovery
  split_ifs with hfree
  · have hne : (totalFree rows lostIds : ℚ) ≠ 0 := Nat.cast_ne_zero.mpr hfree
    have hfactor : ∀ row : OsdRow, (lostUsed rows lostIds : ℚ) * row.free / totalFree rows lostIds =
        lostUsed rows lostIds / totalFree rows lostIds * row.free := fun row => by ring
    simp only [hfactor]
    rw [List.sum_map_mul_left, sum_cast]
    exact div_mul_cancel₀ _ hne
  · have hlength : ((survivors rows lostIds).length : ℚ) ≠ 0 := by simpa using h
    rw [List.map_const', List.sum_replicate, nsmul_eq_mul]
    exact mul_div_cancel₀ _ hlength

theorem lostUsed_add (rows : List OsdRow) (lostIds : Finset Int) :
    lostUsed rows lostIds + ((survivors rows lostIds).map OsdRow.used).sum = totalUsed rows := by
  unfold lostUsed lost survivors totalUsed
  induction rows with
  | nil => rfl
  | cons row rows ih =>
    by_cases hlost : row.osdId ∈ lostIds
    · simp [hlost, ← ih, Nat.add_assoc]
    · simp [hlost, ← ih, Nat.add_left_comm]

theorem remainingBytes_pos (h : survivors D.rows lostIds ≠ []) :
    0 < remainingBytes D.rows lostIds := by
  obtain ⟨row, hrow⟩ := List.exists_mem_of_ne_nil _ h
  exact lt_of_lt_of_le (D.total_pos (List.mem_of_mem_filter hrow))
    (List.single_le_sum (fun _ _ => Nat.zero_le _) _ (List.mem_map_of_mem hrow))

theorem percent_le_maxOsd {row : OsdRow} (h : row ∈ survivors rows lostIds) :
    percent rows lostIds row ≤ maxOsd rows lostIds := by
  have hmem := List.mem_map_of_mem (f := percent rows lostIds) h
  unfold maxOsd
  cases hmax : ((survivors rows lostIds).map (percent rows lostIds)).max? with
  | none => rw [List.max?_eq_none_iff.mp hmax] at hmem; cases hmem
  | some m => exact (List.max?_eq_some_iff.mp hmax).2 _ hmem

/-- **The fullest OSD** is at least as full as the cluster: else the bytes that are spread would
not fill what is left. -/
theorem cluster_le_maxOsd (h : survivors D.rows lostIds ≠ []) :
    postPercent D.rows lostIds ≤ maxOsd D.rows lostIds := by
  have hremaining := remainingBytes_pos h
  have hbound : ∀ row ∈ survivors D.rows lostIds,
      (row.used + recovery D.rows lostIds row) ≤ maxOsd D.rows lostIds / 100 * row.total := by
    intro row hrow
    have htotal := D.total_pos (List.mem_of_mem_filter hrow)
    have hpercent := percent_le_maxOsd hrow
    unfold percent at hpercent
    rw [if_pos htotal.ne', div_mul_eq_mul_div, div_le_iff₀ (Nat.cast_pos.mpr htotal)] at hpercent
    linarith
  have hsum := List.sum_le_sum hbound
  rw [List.sum_map_add, sum_cast, sum_recovery h, List.sum_map_mul_left, sum_cast] at hsum
  have hused : (totalUsed D.rows : ℚ) =
      ((survivors D.rows lostIds).map OsdRow.used).sum + lostUsed D.rows lostIds := by
    rw [← lostUsed_add D.rows lostIds]
    push_cast
    exact add_comm _ _
  unfold postPercent
  rw [if_pos hremaining.ne', div_mul_eq_mul_div, div_le_iff₀ (Nat.cast_pos.mpr hremaining), hused]
  unfold remainingBytes
  linarith

/-! ## A larger loss -/

theorem survivors_mono (h : lostIds ⊆ lostIds') (rows : List OsdRow) :
    (survivors rows lostIds').Sublist (survivors rows lostIds) := by
  apply List.monotone_filter_right
  intro row hrow
  have hout := of_decide_eq_true hrow
  exact decide_eq_true fun hin => hout (h hin)

theorem sum_mono {xs ys : List OsdRow} (h : xs.Sublist ys) (f : OsdRow → Nat) :
    (xs.map f).sum ≤ (ys.map f).sum :=
  (h.map f).sum_le_sum fun _ _ => Nat.zero_le _

section

variable (h : lostIds ⊆ lostIds')
include h

theorem lostUsed_mono (rows : List OsdRow) : lostUsed rows lostIds ≤ lostUsed rows lostIds' := by
  apply sum_mono
  apply List.monotone_filter_right
  intro row hrow
  exact decide_eq_true (h (of_decide_eq_true hrow))

/-- **A larger loss** never leaves a survivor less: more is spread, over no more free space. -/
theorem recovery_mono {row : OsdRow} (hrow : row ∈ survivors rows lostIds') :
    recovery rows lostIds row ≤ recovery rows lostIds' row := by
  have hsurvivors := survivors_mono h rows
  have hlost : (lostUsed rows lostIds : ℚ) ≤ lostUsed rows lostIds' :=
    Nat.cast_le.mpr (lostUsed_mono h rows)
  have hfree : totalFree rows lostIds' ≤ totalFree rows lostIds := sum_mono hsurvivors _
  unfold recovery
  by_cases hleft : totalFree rows lostIds' = 0
  · rw [if_neg (not_not.mpr hleft)]
    -- the row has no free space, as no survivor of the larger loss has any
    have hnone : row.free = 0 := by
      have := List.single_le_sum (fun _ _ => Nat.zero_le _) _
        (List.mem_map_of_mem (f := OsdRow.free) hrow)
      exact Nat.le_zero.mp (this.trans hleft.le)
    split_ifs
    · rw [hnone, Nat.cast_zero, mul_zero, zero_div]
      positivity
    · have hlength : ((survivors rows lostIds').length : ℚ) ≤ (survivors rows lostIds).length :=
        Nat.cast_le.mpr hsurvivors.length_le
      have hpos : (0 : ℚ) < (survivors rows lostIds').length :=
        Nat.cast_pos.mpr (List.length_pos_of_mem hrow)
      gcongr
  · have hpos : 0 < totalFree rows lostIds' := Nat.pos_of_ne_zero hleft
    rw [if_pos hleft, if_pos (hpos.trans_le hfree).ne']
    have hle : (totalFree rows lostIds' : ℚ) ≤ totalFree rows lostIds := Nat.cast_le.mpr hfree
    have hpos' : (0 : ℚ) < totalFree rows lostIds' := Nat.cast_pos.mpr hpos
    gcongr

theorem percent_mono {row : OsdRow} (hrow : row ∈ survivors rows lostIds') :
    percent rows lostIds row ≤ percent rows lostIds' row := by
  have hrecovery := recovery_mono h hrow
  unfold percent
  split_ifs with htotal
  · have hpos : (0 : ℚ) < row.total := Nat.cast_pos.mpr (Nat.pos_of_ne_zero htotal)
    gcongr
  · exact le_rfl

end

end Spreading

/-! ## The bytes to add -/

/-- With these bytes the used ones are at most 80 percent of the capacity. -/
def Suffices (used remaining bytes : Nat) : Prop := (used : ℚ) / (remaining + bytes) ≤ 80 / 100

theorem suffices_iff {used remaining : Nat} (h : 0 < remaining) (bytes : Nat) :
    Suffices used remaining bytes ↔ 5 * used ≤ 4 * (remaining + bytes) := by
  have hpos : (0 : ℚ) < remaining + bytes := by positivity
  unfold Suffices
  rw [div_le_iff₀ hpos]
  constructor
  · intro hle
    have : (5 * used : ℚ) ≤ 4 * (remaining + bytes) := by linarith
    exact_mod_cast this
  · intro hle
    have : (5 * used : ℚ) ≤ 4 * (remaining + bytes) := by exact_mod_cast hle
    linarith

theorem toNat_tdiv_four (z : Int) : (z.tdiv 4).toNat = (z / 4).toNat := by
  rcases le_total 0 z with h | h
  · rw [Int.tdiv_eq_ediv_of_nonneg h]
  · obtain ⟨w, rfl⟩ : ∃ w, z = -w := ⟨-z, by omega⟩
    rw [Int.neg_tdiv, Int.tdiv_eq_ediv_of_nonneg (by omega)]
    omega

/-- **When the cut fraction does not matter**: nothing is missing, or a whole number of bytes
is. -/
theorem additionalBytes_least_iff {rows : List OsdRow} {lostIds : Finset Int}
    (h : 0 < remainingBytes rows lostIds) :
    IsLeast {bytes | Suffices (totalUsed rows) (remainingBytes rows lostIds) bytes}
        (additionalBytes rows lostIds) ↔
      5 * totalUsed rows ≤ 4 * remainingBytes rows lostIds ∨ 4 ∣ totalUsed rows := by
  unfold additionalBytes
  generalize totalUsed rows = used, remainingBytes rows lostIds = remaining at h ⊢
  have hset : {bytes | Suffices used remaining bytes} =
      {bytes | 5 * used ≤ 4 * (remaining + bytes)} :=
    Set.ext fun bytes => suffices_iff h bytes
  rw [hset]
  rw [toNat_tdiv_four]
  constructor
  · rintro ⟨hmem, -⟩
    have hmem : 5 * used ≤ 4 * (remaining + _) := hmem
    by_contra hnot
    push Not at hnot
    obtain ⟨hmissing, hfraction⟩ := hnot
    omega
  · intro hcases
    constructor
    · show 5 * used ≤ 4 * (remaining + _)
      omega
    · intro bytes hbytes
      have hbytes : 5 * used ≤ 4 * (remaining + bytes) := hbytes
      omega

/-! ## What the scenarios promise -/

/-- What a scenario with survivors should say. -/
structure Sound (D : Distribution) (domains : List Domain) (domain : Domain) (s : Scenario) :
    Prop where
  conserved : ((survivors D.rows domain.osds).map (recovery D.rows domain.osds)).sum =
    lostUsed D.rows domain.osds
  fullest : s.clusterProjectedPercent ≤ s.maxOsdProjectedPercent
  nested : ∀ larger ∈ domains, domain.osds ⊆ larger.osds →
    ∀ row ∈ survivors D.rows larger.osds,
      percent D.rows domain.osds row ≤ percent D.rows larger.osds row
  least : IsLeast {bytes | Suffices (totalUsed D.rows) s.remainingCapacityBytes bytes}
    s.additionalBytesFor80Percent

/-- **The simulation is sound exactly** for the losses after which nothing is missing to 80 percent,
or the used bytes are a multiple of four. -/
theorem simulation_sound_iff (D : Distribution) (roots : Forest) (pools : List PoolSample) :
    ∀ domain ∈ failureDomains roots, ∀ s, scenario D.rows domain pools = some s →
      survivors D.rows domain.osds ≠ [] →
      (Sound D (failureDomains roots) domain s ↔
        5 * totalUsed D.rows ≤ 4 * remainingBytes D.rows domain.osds ∨ 4 ∣ totalUsed D.rows) := by
  intro domain _ s hs hsurvivors
  unfold scenario at hs
  dsimp only at hs
  split at hs
  · cases hs
  cases hs
  rw [← additionalBytes_least_iff (remainingBytes_pos hsurvivors)]
  constructor
  · exact fun h => h.least
  · exact fun h => ⟨sum_recovery hsurvivors, cluster_le_maxOsd hsurvivors,
      fun _ _ hsub _ hrow => percent_mono hsub hrow, h⟩

/-- Two OSDs of four bytes with three used. -/
def twoOsds : Distribution where
  rows := [⟨0, some 4, some 3⟩, ⟨1, some 4, some 3⟩]
  distinct := by decide
  measured := by
    intro row hrow
    simp only [List.mem_cons, List.not_mem_nil, or_false] at hrow
    rcases hrow with rfl | rfl <;> exact ⟨4, 3, rfl, rfl, by decide, by decide⟩

def twoTree : Forest :=
  .node "root" "default" (some (-1))
    (.node "osd" "osd.0" (some 0) .nil (.node "osd" "osd.1" (some 1) .nil .nil)) .nil

theorem mem_failureDomains_twoTree : (⟨"osd", "osd.0", {0}⟩ : Domain) ∈ failureDomains twoTree := by
  simp [failureDomains, twoTree, descendantOsds]

theorem simulation_sound_twoOsds :
    Sound twoOsds (failureDomains twoTree) ⟨"osd", "osd.0", {0}⟩
        ((scenario twoOsds.rows ⟨"osd", "osd.0", {0}⟩ []).get rfl) ↔ 5 * 6 ≤ 4 * 4 ∨ 4 ∣ 6 :=
  simulation_sound_iff twoOsds twoTree [] _ mem_failureDomains_twoTree _
    (Option.some_get _).symm (by decide)

/-- After the loss of one of the two, three bytes are said to suffice, and do not. -/
theorem three_bytes_short :
    ∃ domain ∈ failureDomains twoTree, survivors twoOsds.rows domain.osds ≠ [] ∧
      ∃ s, scenario twoOsds.rows domain [] = some s ∧ s.additionalBytesFor80Percent = 3 ∧
        ¬ Sound twoOsds (failureDomains twoTree) domain s := by
  refine ⟨_, mem_failureDomains_twoTree, by decide, _, rfl, by decide, fun h => ?_⟩
  have hleast := h.least.1
  change Suffices 6 4 3 at hleast
  rw [suffices_iff (by decide)] at hleast
  exact absurd hleast (by decide)

end CephAi.Ports.CapacityFailure
