import CephAi.Verified.Outbox
import CephAi.Ports.Models
import CephAi.Ports.LogFindings
import Mathlib.Data.List.Sort

/-!
# Log findings, their Incidents and their notifications

`analyze_window` of `watcher/log_analysis.py` from the answer of the model on, with
`_maybe_alert` and `_maybe_propose_action`; `reconcile_overlapping_findings`;
`resolve_stale_findings`, with `_resolve_incident_for`; what the dashboard's acknowledgement
and `prune_old_data` do to findings; and what `_enqueue` of `shared/telegram_outbox.py` does
with the notifications.

A finding, its Incident and its notifications have only the dedupe key in common, of which an
Incident's code keeps twelve digits and the notification of a closing everything; findings of
one problem that came back have the same key.  A session does not see the rows that it has
changed before it flushes them.

The answers, the patterns and the live verification are inputs, and so is which of its rows an
unordered `.first()` gives.  Others may rewrite the Incidents at any time.  A database that
fails is left out.

## Main results

* `incidents_resolveStale`, `incidents_reconcile` — which Incidents a pass closes.
* `covered_maybeProposeAction` — when a proposal leaves an open Incident.
* `opened_maybeAlert` — what is notified of a new finding.
-/

namespace CephAi.Ports.FindingLifecycle

open Verified Verified.Runs Verified.Table Verified.Outbox
open Models LogScans
open LogFindings (LogFindingStatus)

/-! ## Findings -/

inductive LogFindingVerdict
  | finding
  | noFinding
  | insufficientEvidence
deriving DecidableEq, Repr

def LogFindingVerdict.value : LogFindingVerdict → String
  | .finding => "FINDING"
  | .noFinding => "NO_FINDING"
  | .insufficientEvidence => "INSUFFICIENT_EVIDENCE"

inductive LogFindingSeverity
  | info
  | warning
  | critical
deriving DecidableEq, Repr

/-- `log_findings`, with its JSON columns decoded. -/
structure LogFinding where
  id : Nat
  clusterId : String
  verdict : LogFindingVerdict
  severity : LogFindingSeverity
  evidencePatternIds : List String
  faultFamily : Option String
  semanticEntities : List String
  dedupeKey : String
  status : LogFindingStatus
  createdAt : Int
deriving DecidableEq, Repr

instance : Keyed LogFinding := ⟨LogFinding.id⟩

structure LogPattern where
  id : String
  daemonType : DaemonType
  lastSeenAt : Int
deriving DecidableEq, Repr

def LogFinding.unresolved (f : LogFinding) : Bool := f.status != .resolved

def LogFinding.alertable (f : LogFinding) : Bool :=
  [LogFindingSeverity.warning, .critical].contains f.severity

def LogFinding.resolve (f : LogFinding) : LogFinding := { f with status := .resolved }

def LogFinding.acknowledge (f : LogFinding) : LogFinding := { f with status := .acknowledged }

/-- What a problem is known by. -/
def LogFinding.problem (f : LogFinding) : String × String := (f.clusterId, f.dedupeKey)

def sameSemanticProblem (left right : LogFinding) : Bool :=
  match left.faultFamily with
  | none => false
  | some family =>
    family != "" && right.faultFamily == some family && !left.semanticEntities.isEmpty &&
      !right.semanticEntities.isEmpty &&
      left.semanticEntities.any fun e => right.semanticEntities.contains e

def evidenceSetsOverlap (left right : List String) : Bool :=
  let common := (left.dedup.filter fun e => right.contains e).length
  !left.isEmpty && !right.isEmpty && 3 ≤ common &&
    60 * min left.dedup.length right.dedup.length ≤ 100 * common

def sameLogProblem (left right : LogFinding) : Bool :=
  left.verdict == right.verdict &&
    (sameSemanticProblem left right ||
      evidenceSetsOverlap left.evidencePatternIds right.evidencePatternIds)

def dedupeMaterial (clusterId : String) (evidence : List String) (verdict : LogFindingVerdict) :
    String :=
  clusterId ++ "\x00" ++ verdict.value ++ "\x00" ++
    "|".intercalate (evidence.insertionSort (· ≤ ·))

def cephCodeFor (dedupeKey : String) : String :=
  "LOG_ANOMALY:" ++ String.ofList (dedupeKey.toList.take 12)

/-- The rows of these patterns. -/
def cited (patterns : List LogPattern) (evidence : List String) : List LogPattern :=
  patterns.filter fun p => evidence.contains p.id

/-! ## Incidents -/

/-- A row of `actions`. -/
structure Action where
  actionId : String
  status : ActionStatus
  dedupeKey : String
deriving DecidableEq, Repr

/-- A row of `incidents`, with its Actions. -/
structure Incident where
  id : Nat
  clusterId : String
  cephCode : String
  status : IncidentStatus
  actions : List Action
deriving DecidableEq, Repr

instance : Keyed Incident := ⟨Incident.id⟩

def resolvableIncidentStatuses : List IncidentStatus :=
  [.pendingApproval, .approved, .executing, .verifying, .failed]

/-- `_TERMINAL_INCIDENT_STATUSES` of `shared/incident_actions.py` -/
def terminalIncidentStatuses : List IncidentStatus := [.autoFixed, .resolved, .rejected]

def Incident.isOpen (i : Incident) : Bool := !terminalIncidentStatuses.contains i.status

def Incident.resolvable (i : Incident) : Bool := resolvableIncidentStatuses.contains i.status

/-- `rgw_action`: a proposal of the Incident that no scan may withdraw. -/
def Incident.held (i : Incident) : Bool :=
  i.actions.any fun a =>
    a.actionId == "remove_invalid_rgw_default_key" && a.status == .pendingApproval

def Action.cancel (a : Action) : Action :=
  if [ActionStatus.pending, .pendingApproval].contains a.status then
    { a with status := .rejected }
  else a

def Incident.resolve (i : Incident) : Incident :=
  { i with status := .resolved, actions := i.actions.map Action.cancel }

/-- An Incident that `_resolve_incident_for` finds under the key and does not leave to its
proposal. -/
def Incident.exposed (i : Incident) (dedupeKey : String) : Bool :=
  i.cephCode == cephCodeFor dedupeKey && i.resolvable && !i.held

def stillOpen (rows : List LogFinding) (dedupeKey : String) : Bool :=
  rows.any fun f => f.dedupeKey == dedupeKey && f.status == .opened

/-- `_resolve_incident_for`; the rows are those that the session sees. -/
def resolveIncidentFor (rows : List LogFinding) (dedupeKey : String)
    (incidents : List Incident) : List Incident :=
  if stillOpen rows dedupeKey then incidents
  else update incidents (fun i => i.exposed dedupeKey) Incident.resolve

/-! ## Notifications -/

/-- The `event_id` of a notification. -/
inductive EventId
  /-- `log-finding:cluster:key:finding` -/
  | opened (cluster dedupeKey : String) (finding : Nat)
  /-- `log-finding-resolved:cluster:key` -/
  | resolved (cluster dedupeKey : String)
deriving DecidableEq, Repr

def LogFinding.resolvedEvent (f : LogFinding) : EventId := .resolved f.clusterId f.dedupeKey

/-! ## The log intelligence -/

/-- The findings, the Incidents, the names in the outbox, and the ids that findings were given. -/
structure World where
  findings : List LogFinding
  incidents : List Incident
  outbox : List EventId
  issued : List Nat
deriving DecidableEq, Repr

/-- An answer of the model to a window, with what the server knows about it: the patterns that
were shown and how the table has them, the semantic identity of the evidence, the new row's id
and time, whether the default key of RGW is to be removed, and the place of the row that
`known_finding` finds. -/
structure Report where
  clusterId : String
  clusterGiven : Bool
  windowEnd : Int
  shown : List String
  patterns : List LogPattern
  verdict : Option LogFindingVerdict
  severity : Option LogFindingSeverity
  evidencePatternIds : List String
  recommendedActionId : Option String
  faultFamily : Option String
  semanticEntities : List String
  removesDefaultKey : Bool
  findingId : Nat
  createdAt : Int
  first : Nat
deriving DecidableEq, Repr

def Report.validatedEvidenceIds (r : Report) : List String :=
  r.evidencePatternIds.filter fun e => r.shown.contains e

/-- The verdict that `_validate` makes of the answer. -/
def Report.validatedVerdict (r : Report) : LogFindingVerdict :=
  let verdict := r.verdict.getD .insufficientEvidence
  if verdict = .finding && r.validatedEvidenceIds.isEmpty then .insufficientEvidence
  else verdict

/-- `ACTIVE_EVIDENCE_MAX_AGE`, on a clock that counts microseconds. -/
def activeEvidenceMaxAge : Int := 15 * 60 * 1000000

/-- The latest evidence was seen too long before the end of the window. -/
def Report.isStale (r : Report) : Bool :=
  match ((cited r.patterns r.validatedEvidenceIds).map LogPattern.lastSeenAt).max? with
  | none => false
  | some latest => latest < r.windowEnd - activeEvidenceMaxAge

/-- The row that `analyze_window` makes. -/
def Report.finding (sha1 : String → String) (r : Report) : LogFinding where
  id := r.findingId
  clusterId := r.clusterId
  verdict := r.validatedVerdict
  severity := r.severity.getD .info
  evidencePatternIds := r.validatedEvidenceIds
  faultFamily := r.faultFamily
  semanticEntities := r.semanticEntities
  dedupeKey := sha1 (dedupeMaterial r.clusterId r.validatedEvidenceIds r.validatedVerdict)
  status := .opened
  createdAt := r.createdAt

/-- `existing`: an unresolved row of the cluster is about the same. -/
def World.known (w : World) (f : LogFinding) : Bool :=
  w.findings.any fun row => row.clusterId == f.clusterId && row.unresolved &&
    (row.dedupeKey == f.dedupeKey || sameLogProblem row f)

/-- The window leads to a new row. -/
def World.stores (w : World) (sha1 : String → String) (r : Report) : Bool :=
  !(r.validatedVerdict = .finding && r.isStale) && r.validatedVerdict != .noFinding &&
    !w.known (r.finding sha1)

def World.store (w : World) (f : LogFinding) : World :=
  { w with findings := insert w.findings f, issued := f.id :: w.issued }

def World.maybeAlert (w : World) (r : Report) (f : LogFinding) : World :=
  if f.verdict = .finding && !f.evidencePatternIds.isEmpty && f.alertable then
    { w with
      outbox := enqueue w.outbox
        (.opened (if r.clusterGiven then f.clusterId else "default") f.dedupeKey f.id) }
  else w

def World.knownFinding (w : World) (r : Report) (f : LogFinding) : Option LogFinding :=
  (w.findings.filter fun row => row.problem == f.problem)[r.first]?

/-- The action of the proposal. -/
def Report.actionId (r : Report) : String :=
  let actionId := r.recommendedActionId.getD "investigate_manually"
  if r.removesDefaultKey then "remove_invalid_rgw_default_key"
  -- nothing in the log says which node it is for
  else if actionId != "investigate_manually" then "investigate_manually"
  else actionId

/-- `uq_incidents_inflight_cluster_code` refuses another Incident. -/
def World.inFlight (w : World) (f : LogFinding) : Bool :=
  w.incidents.any fun i => i.clusterId == f.clusterId &&
    i.cephCode == cephCodeFor f.dedupeKey && inFlightStatuses.contains i.status

def World.maybeProposeAction (w : World) (r : Report) (f : LogFinding) : World :=
  if !f.alertable then w
  else if (w.knownFinding r f).any (fun row => row.status == .resolved) then w
  else if w.incidents.any (fun i =>
      i.cephCode == cephCodeFor f.dedupeKey && i.resolvable) then w
  else if w.inFlight f then w
  else { w with
    incidents := insert w.incidents
      ⟨fresh w.incidents, f.clusterId, cephCodeFor f.dedupeKey, .pendingApproval,
        [⟨r.actionId, .pendingApproval, f.dedupeKey⟩]⟩ }

def World.analyzeWindow (w : World) (sha1 : String → String) (r : Report) : World :=
  if w.stores sha1 r then
    let f := r.finding sha1
    ((w.store f).maybeAlert r f).maybeProposeAction r f
  else w

/-- What `resolve_stale_findings` is called with, how the patterns' table is, and what the live
verification finds. -/
structure Check where
  clusterId : String
  windowStart : Int
  patterns : List LogPattern
  needsGate : LogFinding → Bool
  clusterFound : Bool
  recovered : LogFinding → Bool

def Check.stillActive (c : Check) (f : LogFinding) : Bool :=
  (cited c.patterns f.evidencePatternIds).any fun p => c.windowStart ≤ p.lastSeenAt

/-- The live verification decides about this finding. -/
def Check.gates (c : Check) (f : LogFinding) : Bool :=
  (cited c.patterns f.evidencePatternIds).any (fun p => p.daemonType == .rgw) && c.needsGate f

/-- The loop's body: the finding is closed. -/
def Check.closes (c : Check) (f : LogFinding) : Bool :=
  f.clusterId == c.clusterId && f.unresolved && !f.evidencePatternIds.isEmpty &&
    if c.gates f then c.clusterFound && c.recovered f else !c.stillActive f

def World.resolveStaleFindings (w : World) (c : Check) : World :=
  let closed := w.findings.filter c.closes
  let findings := update w.findings c.closes LogFinding.resolve
  -- the loop does not see yet what it has closed
  let incidents := closed.foldl (fun is f => resolveIncidentFor w.findings f.dedupeKey is)
    w.incidents
  let settled := findings.filter fun f => f.clusterId == c.clusterId && !f.unresolved
  { w with
    findings := findings
    incidents := settled.foldl (fun is f => resolveIncidentFor findings f.dedupeKey is) incidents
    outbox := enqueueAll w.outbox (closed.map LogFinding.resolvedEvent) }

/-- The order of `created_at` and `id`. -/
def older (f g : LogFinding) : Prop :=
  f.createdAt < g.createdAt ∨ f.createdAt = g.createdAt ∧ f.id ≤ g.id

instance : DecidableRel older := fun _ _ => inferInstanceAs (Decidable (_ ∨ _))

/-- The loop of `reconcile_overlapping_findings`: the rows that are about the same as a
canonical one. -/
def overlapping : List LogFinding → List LogFinding → List LogFinding
  | _, [] => []
  | canonical, f :: rest =>
    if canonical.any (sameLogProblem f) then f :: overlapping canonical rest
    else overlapping (canonical ++ [f]) rest

/-- The rows that `reconcile_overlapping_findings` closes. -/
def World.duplicates (w : World) (clusterId : String) : List LogFinding :=
  overlapping []
    ((w.findings.filter fun f => f.clusterId == clusterId && f.unresolved).insertionSort older)

/-- `reconcile_overlapping_findings`; nothing is flushed before the commit. -/
def World.reconcileOverlappingFindings (w : World) (clusterId : String) : World :=
  let duplicates := w.duplicates clusterId
  { w with
    findings := update w.findings (fun f => duplicates.contains f) LogFinding.resolve
    incidents := duplicates.foldl (fun is f => resolveIncidentFor w.findings f.dedupeKey is)
      w.incidents }

def World.acknowledgeFinding (w : World) (id : Nat) : World :=
  { w with
    findings := update w.findings (fun f => f.id == id && f.status == .opened)
      LogFinding.acknowledge }

/-- What `prune_old_data` deletes of the findings. -/
def World.prune (w : World) (cutoff : Int) : World :=
  { w with findings := w.findings.filter fun f => !(f.createdAt < cutoff && !f.unresolved) }

/-- A step of the log intelligence, of an operator or of the retention, or what others make of
the Incidents. -/
inductive Label
  | analyze (r : Report)
  | reconcile (clusterId : String)
  | resolveStale (c : Check)
  | acknowledge (finding : Nat)
  | prune (cutoff : Int)
  | others (incidents : List Incident)

/-- One step; a finding gets an id that none had. -/
def step (sha1 : String → String) (w : World) : Label → Option World
  | .analyze r => if r.findingId ∈ w.issued then none else some (w.analyzeWindow sha1 r)
  | .reconcile clusterId => some (w.reconcileOverlappingFindings clusterId)
  | .resolveStale c => some (w.resolveStaleFindings c)
  | .acknowledge finding => some (w.acknowledgeFinding finding)
  | .prune cutoff => some (w.prune cutoff)
  | .others incidents =>
    if (incidents.map Incident.id).Nodup then some { w with incidents := incidents } else none

/-- The log intelligence, with what hashes the dedupe keys. -/
def logIntel (sha1 : String → String) : System World Label := ⟨step sha1⟩

/-- Nothing is stored. -/
def emptyWorld : World := ⟨[], [], [], []⟩

/-! ## Closing Incidents -/

/-- The rows that the check does not close. -/
def World.leaves (w : World) (c : Check) : List LogFinding :=
  w.findings.filter fun f => !c.closes f

/-- The rows of the cluster that the check closes or finds RESOLVED. -/
def World.settled (w : World) (c : Check) : List LogFinding :=
  w.findings.filter fun f => f.clusterId == c.clusterId && (c.closes f || !f.unresolved)

theorem isOpen_of_resolvable {i : Incident} (h : i.resolvable = true) : i.isOpen = true := by
  unfold Incident.resolvable at h
  unfold Incident.isOpen
  revert h
  cases i.status <;> decide

/-- `_resolve_incident_for` closes this Incident. -/
def takes (rows : List LogFinding) (dedupeKey : String) (i : Incident) : Bool :=
  !stillOpen rows dedupeKey && i.exposed dedupeKey

theorem takes_resolve (rows : List LogFinding) (dedupeKey : String) (i : Incident) :
    takes rows dedupeKey i.resolve = false := by
  have hclosed : i.resolve.resolvable = false := rfl
  simp [takes, Incident.exposed, hclosed]

theorem resolveIncidentFor_eq (rows : List LogFinding) (dedupeKey : String)
    (incidents : List Incident) :
    resolveIncidentFor rows dedupeKey incidents =
      update incidents (takes rows dedupeKey) Incident.resolve := by
  unfold resolveIncidentFor takes
  cases stillOpen rows dedupeKey with
  | true => simp [update]
  | false => simp

theorem foldl_resolveIncidentFor (rows named : List LogFinding) (incidents : List Incident) :
    named.foldl (fun is f => resolveIncidentFor rows f.dedupeKey is) incidents =
      update incidents (fun i => named.any fun g => takes rows g.dedupeKey i)
        Incident.resolve := by
  simp only [resolveIncidentFor_eq]
  exact foldl_update (fun (g : LogFinding) i => takes rows g.dedupeKey i) Incident.resolve
    (fun g i => takes_resolve rows g.dedupeKey i) named incidents

theorem stillOpen_update (rows : List LogFinding) (p : LogFinding → Bool) (dedupeKey : String) :
    stillOpen (update rows p LogFinding.resolve) dedupeKey =
      stillOpen (rows.filter fun f => !p f) dedupeKey := by
  unfold stillOpen update
  rw [List.any_map, List.any_filter]
  congr 1
  funext f
  cases hp : p f with
  | true => simp [hp, LogFinding.resolve]
  | false => simp [hp]

theorem stillOpen_of_filter {rows : List LogFinding} {p : LogFinding → Bool} {dedupeKey : String}
    (h : stillOpen rows dedupeKey = false) : stillOpen (rows.filter p) dedupeKey = false := by
  unfold stillOpen at h ⊢
  rw [List.any_eq_false] at h ⊢
  intro f hf
  exact h f (List.mem_of_mem_filter hf)

theorem any_settled (w : World) (c : Check) (P : String → Bool) :
    ((update w.findings c.closes LogFinding.resolve).filter
        fun f => f.clusterId == c.clusterId && !f.unresolved).any (fun f => P f.dedupeKey) =
      (w.settled c).any fun f => P f.dedupeKey := by
  unfold update World.settled
  rw [List.any_filter, List.any_filter, List.any_map]
  congr 1
  funext f
  cases hp : c.closes f with
  | true => simp [hp, LogFinding.resolve, LogFinding.unresolved]
  | false => simp [hp]

theorem closes_iff (c : Check) (f : LogFinding) :
    c.closes f = true → f.clusterId = c.clusterId ∧ f.unresolved = true := by
  intro h
  simp only [Check.closes, Bool.and_eq_true, beq_iff_eq] at h
  exact h.1.1

/-- **The Incidents that a check closes**: those under the key of a row that it closes or finds
RESOLVED, where no row of the key stays OPEN. -/
theorem incidents_resolveStale (w : World) (c : Check) :
    (w.resolveStaleFindings c).incidents =
      update w.incidents
        (fun i => (w.settled c).any fun g => takes (w.leaves c) g.dedupeKey i)
        Incident.resolve := by
  have hseen : ∀ k i, takes (update w.findings c.closes LogFinding.resolve) k i =
      takes (w.leaves c) k i := by
    intro k i
    unfold takes World.leaves
    rw [stillOpen_update]
  show List.foldl _ _ _ = _
  rw [foldl_resolveIncidentFor, foldl_resolveIncidentFor, update_update]
  · apply update_congr
    intro i _
    simp only [hseen]
    rw [any_settled w c fun k => takes (w.leaves c) k i]
    -- what the loop closes already, the pass over the RESOLVED rows closes too
    rw [Bool.or_eq_right_iff_imp]
    intro hloop
    obtain ⟨g, hg, htakes⟩ := List.any_eq_true.mp hloop
    obtain ⟨hmem, hcloses⟩ := List.mem_filter.mp hg
    apply List.any_eq_true.mpr
    refine ⟨g, ?_, ?_⟩
    · apply List.mem_filter.mpr
      simp [hmem, hcloses, (closes_iff c g hcloses).1]
    · unfold takes at htakes ⊢
      rw [Bool.and_eq_true, Bool.not_eq_true'] at htakes ⊢
      exact ⟨stillOpen_of_filter htakes.1, htakes.2⟩
  · intro i
    simp [takes_resolve]

/-- **The Incidents that a reconciliation closes**: those under the key of a duplicate, where no
row of the key was OPEN. -/
theorem incidents_reconcile (w : World) (clusterId : String) :
    (w.reconcileOverlappingFindings clusterId).incidents =
      update w.incidents
        (fun i => (w.duplicates clusterId).any fun g => takes w.findings g.dedupeKey i)
        Incident.resolve :=
  foldl_resolveIncidentFor w.findings (w.duplicates clusterId) w.incidents

/-! ## The analysis -/

def Covered (w : World) (f : LogFinding) : Prop :=
  ∃ i ∈ w.incidents, i.cephCode = cephCodeFor f.dedupeKey ∧ i.isOpen = true

/-- The finding's own opening notification is in the outbox. -/
def Opened (w : World) (f : LogFinding) : Prop :=
  ∃ cluster, EventId.opened cluster f.dedupeKey f.id ∈ w.outbox

section Analysis

variable (w : World) (sha1 : String → String) (r : Report) (f : LogFinding)

@[simp] theorem findings_maybeAlert : (w.maybeAlert r f).findings = w.findings := by
  unfold World.maybeAlert
  split <;> rfl

@[simp] theorem incidents_maybeAlert : (w.maybeAlert r f).incidents = w.incidents := by
  unfold World.maybeAlert
  split <;> rfl

@[simp] theorem issued_maybeAlert : (w.maybeAlert r f).issued = w.issued := by
  unfold World.maybeAlert
  split <;> rfl

theorem maybeProposeAction_cases :
    w.maybeProposeAction r f = w ∨
      ∃ i : Incident, i.id = fresh w.incidents ∧ i.cephCode = cephCodeFor f.dedupeKey ∧
        i.isOpen = true ∧ (w.knownFinding r f).all LogFinding.unresolved = true ∧
        w.maybeProposeAction r f = { w with incidents := insert w.incidents i } := by
  unfold World.maybeProposeAction
  split
  · exact Or.inl rfl
  · split
    · exact Or.inl rfl
    · next hknown =>
        split
        · exact Or.inl rfl
        · split
          · exact Or.inl rfl
          · refine Or.inr ⟨_, rfl, rfl, rfl, ?_, rfl⟩
            revert hknown
            cases w.knownFinding r f with
            | none => simp
            | some row => simp [LogFinding.unresolved]

@[simp] theorem findings_maybeProposeAction : (w.maybeProposeAction r f).findings = w.findings := by
  obtain h | ⟨i, -, -, -, -, h⟩ := maybeProposeAction_cases w r f <;> rw [h]

@[simp] theorem outbox_maybeProposeAction : (w.maybeProposeAction r f).outbox = w.outbox := by
  obtain h | ⟨i, -, -, -, -, h⟩ := maybeProposeAction_cases w r f <;> rw [h]

@[simp] theorem issued_maybeProposeAction : (w.maybeProposeAction r f).issued = w.issued := by
  obtain h | ⟨i, -, -, -, -, h⟩ := maybeProposeAction_cases w r f <;> rw [h]

theorem incidents_subset_maybeProposeAction {i : Incident} (h : i ∈ w.incidents) :
    i ∈ (w.maybeProposeAction r f).incidents := by
  obtain h' | ⟨i', -, -, -, -, h'⟩ := maybeProposeAction_cases w r f
  · rwa [h']
  · rw [h']
    exact List.mem_append_left _ h

theorem isOpen_of_inFlight {i : Incident} (h : inFlightStatuses.contains i.status = true) :
    i.isOpen = true := by
  unfold Incident.isOpen
  revert h
  cases i.status <;> decide

/-- **When a proposal leaves an open Incident**: there was one, or `known_finding` is not
RESOLVED. -/
theorem covered_maybeProposeAction (halertable : f.alertable = true) :
    Covered (w.maybeProposeAction r f) f ↔
      Covered w f ∨ (w.knownFinding r f).all LogFinding.unresolved = true := by
  constructor
  · intro h
    obtain hsame | ⟨i, -, -, -, hall, -⟩ := maybeProposeAction_cases w r f
    · rw [hsame] at h
      exact Or.inl h
    · exact Or.inr hall
  · rintro (⟨i, hi, hcode, hopen⟩ | hall)
    · exact ⟨i, incidents_subset_maybeProposeAction w r f hi, hcode, hopen⟩
    · have hresolved : (w.knownFinding r f).any (fun row => row.status == .resolved) = false := by
        cases hrow : w.knownFinding r f with
        | none => rfl
        | some row => simpa [hrow, LogFinding.unresolved] using hall
      unfold World.maybeProposeAction
      rw [if_neg (by simp [halertable]), if_neg (by simp [hresolved])]
      split
      · next hexisting =>
          obtain ⟨i, hi, htest⟩ := List.any_eq_true.mp hexisting
          rw [Bool.and_eq_true, beq_iff_eq] at htest
          exact ⟨i, hi, htest.1, isOpen_of_resolvable htest.2⟩
      · split
        · next hinFlight =>
            obtain ⟨i, hi, htest⟩ := List.any_eq_true.mp hinFlight
            simp only [Bool.and_eq_true, beq_iff_eq] at htest
            exact ⟨i, hi, htest.1.2, isOpen_of_inFlight htest.2⟩
        · exact ⟨_, List.mem_append_right _ (List.mem_singleton_self _), rfl, rfl⟩

theorem evidence_of_finding (h : r.validatedVerdict = .finding) :
    r.validatedEvidenceIds.isEmpty = false := by
  unfold Report.validatedVerdict at h
  simp only [Bool.and_eq_true, decide_eq_true_eq] at h
  split at h
  · cases h
  · next hnot =>
      rw [not_and, Bool.not_eq_true] at hnot
      exact hnot h

theorem opened_maybeAlert (hverdict : f.verdict = .finding)
    (hevidence : f.evidencePatternIds.isEmpty = false) (halertable : f.alertable = true) :
    Opened (w.maybeAlert r f) f := by
  unfold World.maybeAlert Opened
  rw [if_pos (by simp [hverdict, hevidence, halertable])]
  exact ⟨_, mem_enqueue.mpr (Or.inr rfl)⟩

theorem mem_outbox_maybeAlert {e : EventId} (h : e ∈ (w.maybeAlert r f).outbox) :
    e ∈ w.outbox ∨ ∃ cluster, e = .opened cluster f.dedupeKey f.id := by
  unfold World.maybeAlert at h
  split at h
  · cases mem_enqueue.mp h with
    | inl hold => exact Or.inl hold
    | inr hself => exact Or.inr ⟨_, hself⟩
  · exact Or.inl h

theorem outbox_subset_maybeAlert {e : EventId} (h : e ∈ w.outbox) :
    e ∈ (w.maybeAlert r f).outbox := by
  unfold World.maybeAlert
  split
  · exact mem_enqueue.mpr (Or.inl h)
  · exact h

end Analysis

variable {r : Report} {sha1 : String → String} {w : World}

theorem analyzeWindow_of_stores (h : w.stores sha1 r = true) :
    w.analyzeWindow sha1 r =
      ((w.store (r.finding sha1)).maybeAlert r (r.finding sha1)).maybeProposeAction r
        (r.finding sha1) := if_pos h

theorem analyzeWindow_of_not (h : w.stores sha1 r = false) : w.analyzeWindow sha1 r = w :=
  if_neg (by simp [h])

theorem known_of_stores (h : w.stores sha1 r = true) : w.known (r.finding sha1) = false := by
  simp only [World.stores, Bool.and_eq_true, Bool.not_eq_true'] at h
  exact h.2

end CephAi.Ports.FindingLifecycle
