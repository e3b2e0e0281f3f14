import CephAi.Verified.Runs
import Mathlib

/-!
# Events for resolved incidents

The session's hooks tell the dashboards what a transaction did to its Incidents.
After a flush, `_collect_cluster_state_events` notes each Incident that became
RESOLVED, or FAILED from VERIFYING, under its cluster; after a commit,
`_publish_cluster_state_events` requests the refreshes and publishes the events that
are noted; after a rollback they are dropped.

The ORM calls the hook of a commit at the release of a savepoint as well, and that of a
rollback at a rollback to one.  A session is run label by label: one Incident of a
flush at a time, savepoints made, released and rolled back, and the transaction's end.

## Main results

* `resolved_published_iff` — what is committed is published and what is published is not rolled
  back, however the session goes on, exactly when no other change of the cluster, no
  savepoint and no failed store comes between.
-/

namespace CephAi.Ports.ResolvedEvents

open Verified.Runs

abbrev Text := List Char

inductive IncidentStatus
  | new
  | diagnosing
  | autoFixed
  | pendingApproval
  | approved
  | executing
  | gracePending
  | verifying
  | resolved
  | rejected
  | failed
deriving DecidableEq, Repr

inductive ActionStatus
  | pending
  | autoExecuted
  | pendingApproval
  | approved
  | executing
  | gracePending
  | inconclusive
  | rejected
  | executed
  | failed
deriving DecidableEq, Repr

inductive ActionState
  | queued
  | running
  | verifying
  | succeeded
  | failed
  | rejected
deriving DecidableEq, Repr

def actionStateForStatus : ActionStatus → ActionState
  | .pending | .pendingApproval | .approved => .queued
  | .executing | .gracePending => .running
  | .inconclusive | .autoExecuted | .executed => .verifying
  | .failed => .failed
  | .rejected => .rejected

/-- A finished command is not a success before the post-check. -/
theorem actionStateForStatus_ne_succeeded (status : ActionStatus) :
    actionStateForStatus status ≠ .succeeded := by
  cases status <;> decide

inductive Section
  | health
  | status
  | pools
  | pgs
  | crush
  | nodes
deriving DecidableEq, Repr

def sectionsForResolvedIncident (cephCode : Text) : List Section :=
  let code := cephCode.map Char.toUpper
  let has : Text → Bool := fun token => decide (token <:+: code)
  let sections : Section → Bool
    | .health | .status => true
    | .pools => has ['P', 'O', 'O', 'L']
    | .pgs => has ['P', 'G']
    | .crush => has ['C', 'R', 'U', 'S', 'H']
    | .nodes => has ['O', 'S', 'D'] || has ['N', 'O', 'D', 'E'] || has ['H', 'O', 'S', 'T'] ||
        has ['D', 'E', 'P', 'L', 'O', 'Y'] || has ['U', 'P', 'G', 'R', 'A', 'D', 'E'] ||
        has ['S', 'E', 'R', 'V', 'I', 'C', 'E']
  [.health, .status, .pools, .pgs, .crush, .nodes].filter sections

/-- `str.strip` -/
def strip (text : Text) : Text :=
  ((text.dropWhile Char.isWhitespace).reverse.dropWhile Char.isWhitespace).reverse

/-- An Incident whose status a flush changes.  `changed` and `deleted` are the attribute's history
(`deleted` is empty when the old value was not loaded), `action` what
`_resolved_action_metadata` reads.  `before`, `hasAction` and `defaultCluster` are what the hook
does not look at: the status in the row, whether the Incident has an Action at the end of the
transaction, and the cluster that rows without a `cluster_id` belong to. -/
structure Dirty where
  clusterId : Option Text
  cephCode : Text
  status : IncidentStatus
  changed : Bool
  deleted : List IncidentStatus
  action : Option (Text × ActionStatus)
  before : IncidentStatus
  hasAction : Bool
  defaultCluster : Text
deriving DecidableEq, Repr

/-- `str(getattr(incident, "cluster_id", "") or "").strip()` -/
def Dirty.key (d : Dirty) : Text := strip (d.clusterId.getD [])

/-- The cluster of the Incident. -/
def Dirty.cluster (d : Dirty) : Text := if d.key = [] then d.defaultCluster else d.key

def Dirty.sections (d : Dirty) : List Section := sectionsForResolvedIncident d.cephCode

inductive EventName
  | snapshotChanged
  | snapshotRefreshFailed
deriving DecidableEq, Repr

/-- The value of a cluster's slot in `session.info`, with the number of the change that it was
noted for. -/
structure Pending where
  name : EventName
  sections : List Section
  action : Option (Text × ActionStatus)
  actionState : Option ActionState
  origin : Nat
deriving DecidableEq, Repr

/-- `event_name == "snapshot_changed" and action_state == "succeeded"` -/
def Pending.success (p : Pending) : Bool :=
  decide (p.name = .snapshotChanged ∧ p.actionState = some .succeeded)

/-- `event_name` and `action_state` in `_collect_cluster_state_events`; `none` is `continue`. -/
def Dirty.named (d : Dirty) : Option (EventName × Option ActionState) :=
  let previousStatus := d.deleted.getLast?
  if d.status = .resolved then
    some (.snapshotChanged, if previousStatus = some .verifying then some .succeeded else none)
  else if d.status = .failed ∧ previousStatus = some .verifying then
    some (.snapshotRefreshFailed, some .failed)
  else none

/-- What the hook notes for the change with this number. -/
def Dirty.note (number : Nat) (d : Dirty) : Option (Text × Pending) :=
  if d.changed then
    match d.named with
    | none => none
    | some (name, actionState) =>
      if d.key = [] then none
      else some (d.key, {
        name := name
        sections := d.sections
        action := d.action
        actionState := if d.action.isSome then actionState else none
        origin := number })
  else none

/-- `pending[cluster_id] = value` -/
def put (pending : List (Text × Pending)) (entry : Text × Pending) : List (Text × Pending) :=
  if pending.any (fun e => e.1 = entry.1) then
    pending.map fun e => if e.1 = entry.1 then entry else e
  else pending ++ [entry]

def collect (pending : List (Text × Pending)) : Option (Text × Pending) → List (Text × Pending)
  | none => pending
  | some entry => put pending entry

/-! ## What is sent -/

/-- The marker of `request_priority_refresh` and the envelope of `publish_event`. -/
inductive Sending
  | refresh (sections : List Section)
  | event (name : EventName) (sections : List Section) (action : Option (Text × ActionStatus))
      (actionState : Option ActionState)
deriving DecidableEq, Repr

/-- What was sent for a cluster, for which change, and how many changes had been flushed. -/
structure Sent where
  cluster : Text
  what : Sending
  origin : Nat
  seen : Nat
deriving DecidableEq, Repr

inductive Channel
  | refresh
  | event
deriving DecidableEq, Repr

/-- Whether the stores of `request_priority_refresh` and `publish_event` go well, for each
cluster; what they raise is logged. -/
structure Delivery where
  refresh : Text → Bool
  event : Text → Bool

def Delivery.ok (d : Delivery) : Channel → Text → Bool
  | .refresh => d.refresh
  | .event => d.event

/-- `normalized_sections` in `request_priority_refresh`, and `_sections` of an event: every
section is an allowed one. -/
def normalizedSections (sections : List Section) : List Section :=
  sections.foldl (fun result s => if s ∈ result then result else result ++ [s]) []

/-- `action_state or action_state_for_status(action_status)` -/
def Pending.publishedState (p : Pending) : Option ActionState :=
  match p.actionState with
  | some actionState => some actionState
  | none => p.action.map fun action => actionStateForStatus action.2

/-- One cluster of `_publish_cluster_state_events`. -/
def send (delivery : Delivery) (seen : Nat) (entry : Text × Pending) : List Sent :=
  (if entry.2.success ∧ delivery.refresh entry.1 then
    [⟨entry.1, .refresh (normalizedSections entry.2.sections), entry.2.origin, seen⟩] else []) ++
  (if delivery.event entry.1 then
    [⟨entry.1, .event entry.2.name (normalizedSections entry.2.sections) entry.2.action
      entry.2.publishedState, entry.2.origin, seen⟩] else [])

/-- `_publish_cluster_state_events` -/
def publish (delivery : Delivery) (seen : Nat) (pending : List (Text × Pending)) : List Sent :=
  pending.flatMap (send delivery seen)

/-! ## A session -/

/-- A change of an Incident's status, numbered in the order of the flushes. -/
structure Change where
  number : Nat
  incident : Dirty
deriving DecidableEq, Repr

/-- A session: how many changes were flushed, where the transaction and its savepoints began (the
innermost first), the changes of the transaction that are not rolled back, what is noted, and
what became of the changes. -/
structure Session where
  count : Nat := 0
  marks : List Nat := []
  changes : List Change := []
  pending : List (Text × Pending) := []
  sent : List Sent := []
  committed : List Change := []
  rolledBack : List Nat := []

inductive Label
  | begin
  | savepoint
  | flush (incident : Dirty)
  | release (delivery : Delivery)
  | rollbackTo
  | commit (delivery : Delivery)
  | rollback

/-- `after_commit` -/
def Session.publish (s : Session) (delivery : Delivery) : Session :=
  { s with
    pending := []
    sent := s.sent ++ ResolvedEvents.publish delivery s.count s.pending }

def step (s : Session) : Label → Option Session
  | .begin =>
    match s.marks with
    | [] => some { s with marks := [s.count] }
    | _ :: _ => none
  | .savepoint =>
    match s.marks with
    | [] => none
    | marks => some { s with marks := s.count :: marks }
  | .flush incident =>
    match s.marks with
    | [] => none
    | _ :: _ => some { s with
        count := s.count + 1
        changes := s.changes ++ [⟨s.count, incident⟩]
        pending := collect s.pending (incident.note s.count) }
  | .release delivery =>
    match s.marks with
    | _ :: outer :: marks => some (Session.publish { s with marks := outer :: marks } delivery)
    | _ => none
  | .rollbackTo =>
    match s.marks with
    | mark :: outer :: marks => some { s with
        marks := outer :: marks
        changes := s.changes.filter fun c => c.number < mark
        pending := []
        rolledBack := s.rolledBack ++
          (s.changes.filter fun c => mark ≤ c.number).map Change.number }
    | _ => none
  | .commit delivery =>
    match s.marks with
    | [_] => some (Session.publish { s with
        marks := []
        changes := []
        committed := s.committed ++ s.changes } delivery)
    | _ => none
  | .rollback =>
    match s.marks with
    | [_] => some { s with
        marks := []
        changes := []
        pending := []
        rolledBack := s.rolledBack ++ s.changes.map Change.number }
    | _ => none

/-- The session's transactions. -/
def system : System Session Label := ⟨step⟩

/-! ## What a step does -/

/-- A step with what it was taken on. -/
inductive Stepped (s : Session) : Label → Session → Prop
  | begin (hmarks : s.marks = []) : Stepped s .begin { s with marks := [s.count] }
  | savepoint (hmarks : s.marks ≠ []) :
    Stepped s .savepoint { s with marks := s.count :: s.marks }
  | flush (d : Dirty) (mark : Nat) (marks : List Nat) (hmarks : s.marks = mark :: marks) :
    Stepped s (.flush d) { s with
      count := s.count + 1
      changes := s.changes ++ [⟨s.count, d⟩]
      pending := collect s.pending (d.note s.count) }
  | release (delivery : Delivery) (mark outer : Nat) (marks : List Nat)
      (hmarks : s.marks = mark :: outer :: marks) :
    Stepped s (.release delivery) (Session.publish { s with marks := outer :: marks } delivery)
  | rollbackTo (mark outer : Nat) (marks : List Nat) (hmarks : s.marks = mark :: outer :: marks) :
    Stepped s .rollbackTo { s with
      marks := outer :: marks
      changes := s.changes.filter fun c => c.number < mark
      pending := []
      rolledBack := s.rolledBack ++
        (s.changes.filter fun c => mark ≤ c.number).map Change.number }
  | commit (delivery : Delivery) (mark : Nat) (hmarks : s.marks = [mark]) :
    Stepped s (.commit delivery) (Session.publish { s with
      marks := []
      changes := []
      committed := s.committed ++ s.changes } delivery)
  | rollback (mark : Nat) (hmarks : s.marks = [mark]) :
    Stepped s .rollback { s with
      marks := []
      changes := []
      pending := []
      rolledBack := s.rolledBack ++ s.changes.map Change.number }

variable {c : Change} {channel : Channel} {d : Dirty} {delivery : Delivery} {label : Label}
    {pending : List (Text × Pending)} {s s' : Session}

theorem stepped_of_step (hs : step s label = some s') : Stepped s label s' := by
  revert hs
  fun_cases step s label <;> rintro ⟨⟩
  next hmarks => exact .begin hmarks
  next hmarks => exact .savepoint hmarks
  next hmarks => exact .flush _ _ _ hmarks
  next hmarks => exact .release _ _ _ _ hmarks
  next hmarks => exact .rollbackTo _ _ _ hmarks
  next hmarks => exact .commit _ _ hmarks
  next hmarks => exact .rollback _ hmarks

/-! ## What is asked of it -/

/-- The Incident went from VERIFYING to RESOLVED and has an Action. -/
def Dirty.Verified (d : Dirty) : Prop :=
  d.before = .verifying ∧ d.status = .resolved ∧ d.hasAction = true

def Sending.Covers : Sending → Channel → List Section → Prop
  | .refresh sections, .refresh, needed => needed ⊆ sections
  | .event name sections _ actionState, .event, needed =>
    name = .snapshotChanged ∧ actionState = some .succeeded ∧ needed ⊆ sections
  | _, _, _ => False

/-- Since the change was flushed, something was sent that covers its sections. -/
def Covered (sent : List Sent) (channel : Channel) (c : Change) : Prop :=
  ∃ e ∈ sent, c.number < e.seen ∧ e.cluster = c.incident.cluster ∧
    e.what.Covers channel c.incident.sections

/-- Every change that was committed is covered, and nothing was sent for a change that was rolled
back. -/
structure Lawful (s : Session) : Prop where
  covered : ∀ c ∈ s.committed, c.incident.Verified → ∀ channel, Covered s.sent channel c
  kept : ∀ e ∈ s.sent, e.origin ∉ s.rolledBack

/-- The hook writes the slot of the Incident's cluster. -/
def Dirty.Hooks (d : Dirty) : Prop := d.changed = true ∧ d.key ≠ [] ∧ d.named ≠ none

/-- The hook writes it as a success. -/
def Dirty.Succeeds (d : Dirty) : Prop :=
  d.Hooks ∧ d.status = .resolved ∧ d.deleted.getLast? = some .verifying ∧ d.action.isSome = true

/-- The slot of the Incident's cluster has a success that covers its sections. -/
def Owed (pending : List (Text × Pending)) (d : Dirty) : Prop :=
  ∃ entry ∈ pending, entry.1 = d.cluster ∧ entry.2.success = true ∧ d.sections ⊆ entry.2.sections

/-- A change from VERIFYING to RESOLVED is noted as a success (or the slot covers it already), and
the slot is not written over with less while such a change waits; at a savepoint's rollback none
waits from before, and what is rolled back was not sent; what waits is stored. -/
def Sound (s : Session) : Label → Prop
  | .begin => True
  | .savepoint => True
  | .flush d =>
    (d.Verified → d.Succeeds ∨ ¬d.Hooks ∧ Owed s.pending d) ∧
    (d.Hooks → ∀ c ∈ s.changes, c.incident.Verified → c.incident.cluster = d.key →
      d.Succeeds ∧ c.incident.sections ⊆ d.sections ∨ ∀ channel, Covered s.sent channel c)
  | .release delivery => ∀ c ∈ s.changes, c.incident.Verified → ∀ channel,
      Covered s.sent channel c ∨ delivery.ok channel c.incident.cluster = true
  | .rollbackTo =>
    (∀ c ∈ s.changes, c.number < s.marks.headD 0 → c.incident.Verified →
      ∀ channel, Covered s.sent channel c) ∧
    (∀ c ∈ s.changes, s.marks.headD 0 ≤ c.number → ∀ e ∈ s.sent, e.origin ≠ c.number)
  | .commit delivery => ∀ c ∈ s.changes, c.incident.Verified → ∀ channel,
      Covered s.sent channel c ∨ delivery.ok channel c.incident.cluster = true
  | .rollback => ∀ c ∈ s.changes, ∀ e ∈ s.sent, e.origin ≠ c.number

/-- However the session goes on with steps that meet the condition, it is lawful. -/
def LawfulOn (s : Session) : Prop :=
  ∀ more u, system.run s more = some u → system.Meets Sound s more → Lawful u

instance (d : Dirty) : Decidable d.Verified := inferInstanceAs (Decidable (_ ∧ _ ∧ _))

instance (d : Dirty) : Decidable d.Hooks := inferInstanceAs (Decidable (_ ∧ _ ∧ _))

instance (d : Dirty) : Decidable d.Succeeds := inferInstanceAs (Decidable (_ ∧ _ ∧ _ ∧ _))

instance (pending : List (Text × Pending)) (d : Dirty) : Decidable (Owed pending d) :=
  inferInstanceAs (Decidable (∃ entry ∈ pending, _ ∧ _ ∧ _))

instance : ∀ (what : Sending) (channel : Channel) (needed : List Section),
    Decidable (what.Covers channel needed)
  | .refresh sections, .refresh, needed => inferInstanceAs (Decidable (needed ⊆ sections))
  | .event name sections _ actionState, .event, needed =>
    inferInstanceAs (Decidable (name = .snapshotChanged ∧ actionState = some .succeeded ∧
      needed ⊆ sections))
  | .refresh _, .event, _ => inferInstanceAs (Decidable False)
  | .event _ _ _ _, .refresh, _ => inferInstanceAs (Decidable False)

instance (sent : List Sent) (channel : Channel) (c : Change) :
    Decidable (Covered sent channel c) :=
  inferInstanceAs (Decidable (∃ e ∈ sent, _ ∧ _ ∧ _))

instance decidableChannels (p : Channel → Prop) [∀ channel, Decidable (p channel)] :
    Decidable (∀ channel, p channel) :=
  decidable_of_iff (p .refresh ∧ p .event)
    ⟨fun h channel => match channel with
      | .refresh => h.1
      | .event => h.2, fun h => ⟨h .refresh, h .event⟩⟩

instance (s : Session) : ∀ label, Decidable (Sound s label)
  | .begin | .savepoint => inferInstanceAs (Decidable True)
  | .flush d => inferInstanceAs (Decidable (
    (d.Verified → d.Succeeds ∨ ¬d.Hooks ∧ Owed s.pending d) ∧
    (d.Hooks → ∀ c ∈ s.changes, c.incident.Verified → c.incident.cluster = d.key →
      d.Succeeds ∧ c.incident.sections ⊆ d.sections ∨ ∀ channel, Covered s.sent channel c)))
  | .release delivery | .commit delivery => inferInstanceAs (Decidable (
    ∀ c ∈ s.changes, c.incident.Verified → ∀ channel,
      Covered s.sent channel c ∨ delivery.ok channel c.incident.cluster = true))
  | .rollbackTo => inferInstanceAs (Decidable (
    (∀ c ∈ s.changes, c.number < s.marks.headD 0 → c.incident.Verified →
      ∀ channel, Covered s.sent channel c) ∧
    (∀ c ∈ s.changes, s.marks.headD 0 ≤ c.number → ∀ e ∈ s.sent, e.origin ≠ c.number)))
  | .rollback => inferInstanceAs (Decidable (
    ∀ c ∈ s.changes, ∀ e ∈ s.sent, e.origin ≠ c.number))

/-! ## The hooks -/

theorem mem_put {entry e : Text × Pending} :
    e ∈ put pending entry ↔ e = entry ∨ e ∈ pending ∧ e.1 ≠ entry.1 := by
  unfold put
  split
  · rename_i hany
    rw [List.any_eq_true] at hany
    obtain ⟨old, hold, hkey⟩ := hany
    rw [List.mem_map]
    constructor
    · rintro ⟨o, ho, heq⟩
      split at heq
      · exact Or.inl heq.symm
      · rename_i hne
        rw [← heq]
        exact Or.inr ⟨ho, hne⟩
    · rintro (heq | ⟨he, hne⟩)
      · exact ⟨old, hold, by rw [if_pos (of_decide_eq_true hkey), heq]⟩
      · exact ⟨e, he, if_neg hne⟩
  · rename_i hany
    rw [List.mem_append, List.mem_singleton]
    constructor
    · rintro (he | heq)
      · right
        refine ⟨he, ?_⟩
        intro hkey
        exact hany (List.any_eq_true.mpr ⟨e, he, decide_eq_true hkey⟩)
      · exact Or.inl heq
    · rintro (heq | ⟨he, -⟩)
      · exact Or.inr heq
      · exact Or.inl he

theorem note_of_not_hooks (h : ¬d.Hooks) (number : Nat) : d.note number = none := by
  unfold Dirty.note
  split
  · rename_i hchanged
    split
    · rfl
    · rename_i name actionState hnamed
      split
      · rfl
      · rename_i hkey
        refine absurd ⟨hchanged, hkey, ?_⟩ h
        rw [hnamed]
        exact Option.some_ne_none _
  · rfl

theorem named_succeeded :
    d.named = some (.snapshotChanged, some .succeeded) ↔
      d.status = .resolved ∧ d.deleted.getLast? = some .verifying := by
  unfold Dirty.named
  dsimp only
  constructor
  · intro h
    split at h
    · rename_i hresolved
      split at h
      · rename_i hlast
        exact ⟨hresolved, hlast⟩
      · cases h
    · split at h
      · cases h
      · cases h
  · rintro ⟨hresolved, hlast⟩
    rw [if_pos hresolved, if_pos hlast]

theorem note_of_hooks (h : d.Hooks) (number : Nat) :
    ∃ p, d.note number = some (d.key, p) ∧ p.sections = d.sections ∧ p.origin = number ∧
      (p.success = true ↔ d.Succeeds) := by
  obtain ⟨hchanged, hkey, hnamed⟩ := h
  obtain ⟨⟨name, actionState⟩, hsome⟩ := Option.ne_none_iff_exists'.mp hnamed
  refine ⟨{ name := name, sections := d.sections, action := d.action
            actionState := if d.action.isSome then actionState else none
            origin := number }, ?_, rfl, rfl, ?_⟩
  · unfold Dirty.note
    rw [if_pos hchanged, hsome]
    exact if_neg hkey
  · unfold Pending.success Dirty.Succeeds
    rw [decide_eq_true_iff]
    constructor
    · rintro ⟨hname, hstate⟩
      dsimp only at hname hstate
      split at hstate
      · rename_i haction
        rw [hname, hstate] at hsome
        obtain ⟨hresolved, hlast⟩ := named_succeeded.mp hsome
        exact ⟨⟨hchanged, hkey, hnamed⟩, hresolved, hlast, haction⟩
      · cases hstate
    · rintro ⟨-, hresolved, hlast, haction⟩
      rw [named_succeeded.mpr ⟨hresolved, hlast⟩] at hsome
      cases hsome
      exact ⟨rfl, if_pos haction⟩

theorem mem_normalizedSections {sections : List Section} {s : Section} :
    s ∈ normalizedSections sections ↔ s ∈ sections := by
  have hfold : ∀ (l result : List Section),
      s ∈ l.foldl (fun result s => if s ∈ result then result else result ++ [s]) result ↔
        s ∈ result ∨ s ∈ l := by
    intro l
    induction l with
    | nil =>
      intro result
      simp
    | cons a l ih =>
      intro result
      rw [List.foldl_cons, ih]
      split
      · rename_i hin
        constructor
        · rintro (h | h)
          · exact Or.inl h
          · exact Or.inr (List.mem_cons_of_mem a h)
        · rintro (h | h)
          · exact Or.inl h
          · rcases List.mem_cons.mp h with heq | h
            · exact Or.inl (heq ▸ hin)
            · exact Or.inr h
      · simp [or_assoc]
  rw [normalizedSections, hfold]
  simp

theorem Pending.publishedState_succeeded {p : Pending} :
    p.publishedState = some .succeeded ↔ p.actionState = some .succeeded := by
  unfold Pending.publishedState
  cases p.actionState with
  | some actionState => exact Iff.rfl
  | none =>
    constructor
    · intro h
      cases haction : p.action with
      | none =>
        rw [haction] at h
        cases h
      | some action =>
        rw [haction] at h
        exact absurd (Option.some.inj h) (actionStateForStatus_ne_succeeded action.2)
    · intro h
      cases h

theorem mem_publish {seen : Nat} {e : Sent} (h : e ∈ publish delivery seen pending) :
    ∃ entry ∈ pending, e.cluster = entry.1 ∧ e.origin = entry.2.origin ∧ e.seen = seen := by
  obtain ⟨entry, hentry, he⟩ := List.mem_flatMap.mp h
  refine ⟨entry, hentry, ?_⟩
  rcases List.mem_append.mp he with he | he
  · split at he
    · rw [List.mem_singleton.mp he]
      exact ⟨rfl, rfl, rfl⟩
    · cases he
  · split at he
    · rw [List.mem_singleton.mp he]
      exact ⟨rfl, rfl, rfl⟩
    · cases he

theorem exists_publish {entry : Text × Pending} (hentry : entry ∈ pending)
    (hsuccess : entry.2.success = true) (hok : delivery.ok channel entry.1 = true)
    {needed : List Section} (hneeded : needed ⊆ entry.2.sections) (seen : Nat) :
    ∃ e ∈ publish delivery seen pending, e.cluster = entry.1 ∧ e.seen = seen ∧
      e.what.Covers channel needed := by
  have hsections : needed ⊆ normalizedSections entry.2.sections :=
    fun s hs => mem_normalizedSections.mpr (hneeded hs)
  cases channel with
  | refresh =>
    refine ⟨⟨entry.1, .refresh (normalizedSections entry.2.sections), entry.2.origin, seen⟩,
      ?_, rfl, rfl, hsections⟩
    apply List.mem_flatMap.mpr
    refine ⟨entry, hentry, List.mem_append_left _ ?_⟩
    rw [if_pos ⟨hsuccess, hok⟩]
    exact List.mem_singleton_self _
  | event =>
    have hstate := of_decide_eq_true hsuccess
    refine ⟨⟨entry.1, .event entry.2.name (normalizedSections entry.2.sections) entry.2.action
      entry.2.publishedState, entry.2.origin, seen⟩, ?_, rfl, rfl, hstate.1,
      Pending.publishedState_succeeded.mpr hstate.2, hsections⟩
    apply List.mem_flatMap.mpr
    refine ⟨entry, hentry, List.mem_append_right _ ?_⟩
    have hevent : delivery.event entry.1 = true := hok
    rw [if_pos hevent]
    exact List.mem_singleton_self _

theorem of_publish_covers {seen : Nat} {e : Sent} (h : e ∈ publish delivery seen pending)
    {needed : List Section} (hcovers : e.what.Covers channel needed) :
    delivery.ok channel e.cluster = true ∧ ∃ entry ∈ pending, entry.1 = e.cluster ∧
      entry.2.success = true ∧ needed ⊆ entry.2.sections := by
  obtain ⟨entry, hentry, he⟩ := List.mem_flatMap.mp h
  rcases List.mem_append.mp he with he | he
  · split at he
    · rename_i hsend
      rw [List.mem_singleton.mp he] at hcovers ⊢
      cases channel with
      | refresh =>
        refine ⟨hsend.2, entry, hentry, rfl, hsend.1, ?_⟩
        intro s hs
        exact mem_normalizedSections.mp (hcovers hs)
      | event => exact hcovers.elim
    · cases he
  · split at he
    · rename_i hsend
      rw [List.mem_singleton.mp he] at hcovers ⊢
      cases channel with
      | refresh => exact hcovers.elim
      | event =>
        refine ⟨hsend, entry, hentry, rfl, ?_, ?_⟩
        · exact decide_eq_true ⟨hcovers.1, Pending.publishedState_succeeded.mp hcovers.2.1⟩
        · intro s hs
          exact mem_normalizedSections.mp (hcovers.2.2 hs)
    · cases he

/-! ## Every reachable session -/

/-- The numbers say in which order things happened, and what is noted is of a change that is
neither committed nor rolled back. -/
structure Formed (s : Session) : Prop where
  number_lt : ∀ c ∈ s.changes, c.number < s.count
  seen_le : ∀ e ∈ s.sent, e.seen ≤ s.count
  rolledBack_lt : ∀ n ∈ s.rolledBack, n < s.count
  apart : ∀ c ∈ s.changes, c.number ∉ s.rolledBack
  origin : ∀ entry ∈ s.pending, ∃ c ∈ s.changes, c.number = entry.2.origin

theorem Formed.empty : Formed {} where
  number_lt := fun _ h => (nomatch h)
  seen_le := fun _ h => (nomatch h)
  rolledBack_lt := fun _ h => (nomatch h)
  apart := fun _ h => (nomatch h)
  origin := fun _ h => (nomatch h)

theorem seen_publish (h : Formed s) (delivery : Delivery) :
    ∀ e ∈ (s.publish delivery).sent, e.seen ≤ s.count := by
  intro e he
  rcases List.mem_append.mp he with hold | hnew
  · exact h.seen_le e hold
  · obtain ⟨entry, -, -, -, hseen⟩ := mem_publish hnew
    exact Nat.le_of_eq hseen

theorem Formed.flush (h : Formed s) (d : Dirty) :
    Formed { s with
      count := s.count + 1
      changes := s.changes ++ [⟨s.count, d⟩]
      pending := collect s.pending (d.note s.count) } := by
  have hold : ∀ entry ∈ s.pending, ∃ c ∈ s.changes ++ [⟨s.count, d⟩],
      c.number = entry.2.origin := by
    intro entry hentry
    obtain ⟨c, hc, heq⟩ := h.origin entry hentry
    exact ⟨c, List.mem_append_left _ hc, heq⟩
  constructor
  · intro c hc
    show c.number < s.count + 1
    rcases List.mem_append.mp hc with hc | hc
    · have hlt := h.number_lt c hc
      omega
    · rw [List.mem_singleton.mp hc]
      exact Nat.lt_succ_self s.count
  · intro e he
    exact Nat.le_succ_of_le (h.seen_le e he)
  · intro n hn
    exact Nat.lt_succ_of_lt (h.rolledBack_lt n hn)
  · intro c hc hrolled
    rcases List.mem_append.mp hc with hc | hc
    · exact h.apart c hc hrolled
    · rw [List.mem_singleton.mp hc] at hrolled
      have hlt := h.rolledBack_lt _ hrolled
      exact Nat.lt_irrefl s.count hlt
  · intro entry hentry
    by_cases hhooks : d.Hooks
    · obtain ⟨p, hnote, -, horigin, -⟩ := note_of_hooks hhooks s.count
      dsimp only at hentry
      rw [hnote] at hentry
      rcases mem_put.mp hentry with heq | hrest
      · rw [heq]
        exact ⟨⟨s.count, d⟩, by simp, horigin.symm⟩
      · exact hold entry hrest.1
    · dsimp only at hentry
      rw [note_of_not_hooks hhooks] at hentry
      exact hold entry hentry

theorem Formed.step (h : Formed s) (hs : step s label = some s') : Formed s' := by
  cases stepped_of_step hs with
  | begin | savepoint =>
    exact ⟨h.number_lt, h.seen_le, h.rolledBack_lt, h.apart, h.origin⟩
  | flush d mark marks hmarks =>
    exact h.flush d
  | release delivery mark outer marks hmarks =>
    exact ⟨h.number_lt, seen_publish h delivery, h.rolledBack_lt, h.apart,
      fun _ hentry => (nomatch hentry)⟩
  | rollbackTo mark outer marks hmarks =>
    constructor
    · intro c hc
      exact h.number_lt c (List.mem_filter.mp hc).1
    · exact h.seen_le
    · intro n hn
      rcases List.mem_append.mp hn with hn | hn
      · exact h.rolledBack_lt n hn
      · obtain ⟨c, hc, heq⟩ := List.mem_map.mp hn
        rw [← heq]
        exact h.number_lt c (List.mem_filter.mp hc).1
    · intro c hc hrolled
      obtain ⟨hin, hbefore⟩ := List.mem_filter.mp hc
      rcases List.mem_append.mp hrolled with hrolled | hrolled
      · exact h.apart c hin hrolled
      · obtain ⟨o, ho, heq⟩ := List.mem_map.mp hrolled
        have hafter := of_decide_eq_true (List.mem_filter.mp ho).2
        have hlt := of_decide_eq_true hbefore
        omega
    · intro entry hentry
      cases hentry
  | commit delivery mark hmarks =>
    exact ⟨fun _ hc => (nomatch hc), seen_publish h delivery, h.rolledBack_lt,
      fun _ hc => (nomatch hc), fun _ hentry => (nomatch hentry)⟩
  | rollback mark hmarks =>
    constructor
    · intro c hc
      cases hc
    · exact h.seen_le
    · intro n hn
      rcases List.mem_append.mp hn with hn | hn
      · exact h.rolledBack_lt n hn
      · obtain ⟨c, hc, heq⟩ := List.mem_map.mp hn
        rw [← heq]
        exact h.number_lt c hc
    · intro c hc
      cases hc
    · intro entry hentry
      cases hentry

/-! ## Sessions that meet the condition -/

theorem Covered.mono {sent sent' : List Sent} (h : Covered sent channel c) (hsub : sent ⊆ sent') :
    Covered sent' channel c := by
  obtain ⟨e, he, hrest⟩ := h
  exact ⟨e, hsub he, hrest⟩

theorem covered_publish (h : Formed s) (hc : c ∈ s.changes) (howed : Owed s.pending c.incident)
    (hok : delivery.ok channel c.incident.cluster = true) :
    Covered (s.publish delivery).sent channel c := by
  obtain ⟨entry, hentry, hcluster, hsuccess, hneeded⟩ := howed
  rw [← hcluster] at hok
  obtain ⟨e, he, hecluster, hseen, hcovers⟩ :=
    exists_publish hentry hsuccess hok hneeded s.count
  refine ⟨e, List.mem_append_right _ he, ?_, hecluster.trans hcluster, hcovers⟩
  rw [hseen]
  exact h.number_lt c hc

/-- Nothing else does. -/
theorem not_covered_publish (delivery : Delivery) (hnot : ¬Covered s.sent channel c)
    (h : ¬Owed s.pending c.incident ∨ delivery.ok channel c.incident.cluster = false) :
    ¬Covered (s.publish delivery).sent channel c := by
  rintro ⟨e, he, hlt, hcluster, hcovers⟩
  rcases List.mem_append.mp he with hold | hnew
  · exact hnot ⟨e, hold, hlt, hcluster, hcovers⟩
  · obtain ⟨hok, entry, hentry, hkey, hsuccess, hneeded⟩ := of_publish_covers hnew hcovers
    rcases h with hnotowed | hfail
    · exact hnotowed ⟨entry, hentry, hkey.trans hcluster, hsuccess, hneeded⟩
    · rw [hcluster, hfail] at hok
      cases hok

/-- The slot after a change: its own entry where the hook writes one, and the others. -/
theorem owed_collect {o : Dirty} {number : Nat} :
    Owed (collect pending (d.note number)) o ↔
      d.Succeeds ∧ o.cluster = d.key ∧ o.sections ⊆ d.sections ∨
        ¬(d.Hooks ∧ o.cluster = d.key) ∧ Owed pending o := by
  by_cases hhooks : d.Hooks
  · obtain ⟨p, hnote, hsections, -, hsuccess⟩ := note_of_hooks hhooks number
    rw [hnote]
    constructor
    · rintro ⟨entry, hentry, hcluster, hok, hneeded⟩
      rcases mem_put.mp hentry with heq | ⟨hold, hne⟩
      · left
        rw [heq] at hcluster hok hneeded
        exact ⟨hsuccess.mp hok, hcluster.symm, hsections ▸ hneeded⟩
      · right
        refine ⟨?_, entry, hold, hcluster, hok, hneeded⟩
        rintro ⟨-, hkey⟩
        exact hne (hcluster.trans hkey)
    · rintro (⟨hsucc, hkey, hneeded⟩ | ⟨hother, entry, hentry, hcluster, hok, hneeded⟩)
      · exact ⟨(d.key, p), mem_put.mpr (Or.inl rfl), hkey.symm, hsuccess.mpr hsucc,
          hsections ▸ hneeded⟩
      · refine ⟨entry, mem_put.mpr (Or.inr ⟨hentry, ?_⟩), hcluster, hok, hneeded⟩
        intro hkey
        exact hother ⟨hhooks, hcluster.symm.trans hkey⟩
  · rw [note_of_not_hooks hhooks]
    constructor
    · intro h
      exact Or.inr ⟨fun hboth => hhooks hboth.1, h⟩
    · rintro (⟨hsucc, -⟩ | ⟨-, h⟩)
      · exact absurd hsucc.1 hhooks
      · exact h

theorem Dirty.cluster_of_hooks (h : d.Hooks) : d.cluster = d.key := if_neg h.2.1

/-- Every change that waits is covered, or its slot covers it. -/
structure Kept (s : Session) : Prop where
  lawful : Lawful s
  waiting : ∀ c ∈ s.changes, c.incident.Verified → ∀ channel,
    Covered s.sent channel c ∨ Owed s.pending c.incident

theorem Kept.empty : Kept {} where
  lawful := ⟨fun _ h => (nomatch h), fun _ h => (nomatch h)⟩
  waiting := fun _ h => (nomatch h)

theorem Kept.flush (h : Kept s) (hsound : Sound s (.flush d)) :
    Kept { s with
      count := s.count + 1
      changes := s.changes ++ [⟨s.count, d⟩]
      pending := collect s.pending (d.note s.count) } := by
  refine ⟨⟨h.lawful.covered, h.lawful.kept⟩, ?_⟩
  intro c hc hverified channel
  dsimp only
  rw [owed_collect]
  rcases List.mem_append.mp hc with hold | hnew
  · by_cases hslot : d.Hooks ∧ c.incident.cluster = d.key
    · rcases hsound.2 hslot.1 c hold hverified hslot.2 with ⟨hsucc, hneeded⟩ | hcovered
      · exact Or.inr (Or.inl ⟨hsucc, hslot.2, hneeded⟩)
      · exact Or.inl (hcovered channel)
    · rcases h.waiting c hold hverified channel with hcovered | howed
      · exact Or.inl hcovered
      · exact Or.inr (Or.inr ⟨hslot, howed⟩)
  · right
    rw [List.mem_singleton.mp hnew] at hverified ⊢
    rcases hsound.1 hverified with hsucc | ⟨hnot, howed⟩
    · exact Or.inl ⟨hsucc, Dirty.cluster_of_hooks hsucc.1, fun _ hs => hs⟩
    · exact Or.inr ⟨fun hboth => hnot hboth.1, howed⟩

theorem kept_publish (h : Kept s) (hf : Formed s) (delivery : Delivery) :
    ∀ e ∈ (s.publish delivery).sent, e.origin ∉ s.rolledBack := by
  intro e he
  rcases List.mem_append.mp he with hold | hnew
  · exact h.lawful.kept e hold
  · obtain ⟨entry, hentry, -, horigin, -⟩ := mem_publish hnew
    obtain ⟨c, hc, heq⟩ := hf.origin entry hentry
    rw [horigin, ← heq]
    exact hf.apart c hc

theorem Kept.published (h : Kept s) (hf : Formed s)
    (hsound : ∀ c ∈ s.changes, c.incident.Verified → ∀ channel,
      Covered s.sent channel c ∨ delivery.ok channel c.incident.cluster = true)
    (hc : c ∈ s.changes) (hverified : c.incident.Verified) (channel : Channel) :
    Covered (s.publish delivery).sent channel c := by
  rcases h.waiting c hc hverified channel with hcovered | howed
  · exact hcovered.mono (List.subset_append_left _ _)
  · rcases hsound c hc hverified channel with hcovered | hok
    · exact hcovered.mono (List.subset_append_left _ _)
    · exact covered_publish hf hc howed hok

/-- **Step lemma.** -/
theorem Kept.step (h : Kept s) (hf : Formed s) (hsound : Sound s label)
    (hs : step s label = some s') : Kept s' := by
  cases stepped_of_step hs with
  | begin | savepoint =>
    exact ⟨⟨h.lawful.covered, h.lawful.kept⟩, h.waiting⟩
  | flush d mark marks hmarks =>
    exact h.flush hsound
  | release delivery mark outer marks hmarks =>
    refine ⟨⟨?_, kept_publish h hf delivery⟩, ?_⟩
    · intro c hc hverified channel
      exact (h.lawful.covered c hc hverified channel).mono (List.subset_append_left _ _)
    · intro c hc hverified channel
      exact Or.inl (h.published hf hsound hc hverified channel)
  | rollbackTo mark outer marks hmarks =>
    unfold Sound at hsound
    rw [hmarks] at hsound
    refine ⟨⟨h.lawful.covered, ?_⟩, ?_⟩
    · intro e he hrolled
      rcases List.mem_append.mp hrolled with hrolled | hrolled
      · exact h.lawful.kept e he hrolled
      · obtain ⟨c, hc, heq⟩ := List.mem_map.mp hrolled
        obtain ⟨hin, hafter⟩ := List.mem_filter.mp hc
        exact hsound.2 c hin (of_decide_eq_true hafter) e he heq.symm
    · intro c hc hverified channel
      obtain ⟨hin, hbefore⟩ := List.mem_filter.mp hc
      exact Or.inl (hsound.1 c hin (of_decide_eq_true hbefore) hverified channel)
  | commit delivery mark hmarks =>
    refine ⟨⟨?_, kept_publish h hf delivery⟩, fun _ hc => (nomatch hc)⟩
    intro c hc hverified channel
    rcases List.mem_append.mp hc with hold | hnew
    · exact (h.lawful.covered c hold hverified channel).mono (List.subset_append_left _ _)
    · exact h.published hf hsound hnew hverified channel
  | rollback mark hmarks =>
    refine ⟨⟨h.lawful.covered, ?_⟩, fun _ hc => (nomatch hc)⟩
    intro e he hrolled
    rcases List.mem_append.mp hrolled with hrolled | hrolled
    · exact h.lawful.kept e he hrolled
    · obtain ⟨c, hc, heq⟩ := List.mem_map.mp hrolled
      exact hsound c hc e he heq.symm

/-! ## Sessions that do not -/

theorem LawfulOn.lawful (h : LawfulOn s) : Lawful s := System.Onward.here h

theorem LawfulOn.after (h : LawfulOn s) (label : Label) (hsound : Sound s label)
    (hs : step s label = some s') : LawfulOn s' :=
  System.Onward.after h label hsound hs

theorem not_lawfulOn_sent (h : ∃ e ∈ s.sent, e.origin ∈ s.rolledBack) : ¬LawfulOn s := by
  obtain ⟨e, he, hrolled⟩ := h
  intro hlawful
  exact hlawful.lawful.kept e he hrolled

/-- Every store goes well. -/
def allWell : Delivery := ⟨fun _ => true, fun _ => true⟩

theorem allWell_ok (channel : Channel) (cluster : Text) : allWell.ok channel cluster = true := by
  cases channel <;> rfl

theorem not_lawfulOn (hverified : c.incident.Verified) :
    ∀ (marks : List Nat) (s : Session), s.marks = marks → marks ≠ [] → c ∈ s.changes →
      ¬Covered s.sent channel c → ¬Owed s.pending c.incident → ¬LawfulOn s := by
  intro marks
  induction marks with
  | nil =>
    intro s _ hne
    exact absurd rfl hne
  | cons mark marks ih =>
    intro s hmarks _ hc hnot howed hlawful
    have hsound : ∀ o ∈ s.changes, o.incident.Verified → ∀ channel,
        Covered s.sent channel o ∨ allWell.ok channel o.incident.cluster = true :=
      fun o _ _ channel => Or.inr (allWell_ok channel o.incident.cluster)
    have hstill := not_covered_publish allWell hnot (Or.inl howed)
    cases marks with
    | nil =>
      have hs : step s (.commit allWell) = some (Session.publish { s with
          marks := []
          changes := []
          committed := s.committed ++ s.changes } allWell) := by
        simp only [step, hmarks]
      have hend := (hlawful.after (.commit allWell) hsound hs).lawful
      exact hstill (hend.covered c (List.mem_append_right _ hc) hverified channel)
    | cons outer marks =>
      have hs : step s (.release allWell) =
          some (Session.publish { s with marks := outer :: marks } allWell) := by
        simp only [step, hmarks]
      apply ih (Session.publish { s with marks := outer :: marks } allWell) rfl
        (List.cons_ne_nil _ _) hc hstill _
        (hlawful.after (.release allWell) hsound hs)
      rintro ⟨entry, hentry, -⟩
      cases hentry

theorem lost_of_flush (hf : Formed s) (hsound : ¬Sound s (.flush d)) :
    ∃ c ∈ s.changes ++ [⟨s.count, d⟩], c.incident.Verified ∧
      (∃ channel, ¬Covered s.sent channel c) ∧
      ¬Owed (collect s.pending (d.note s.count)) c.incident := by
  by_cases hnew : d.Verified → d.Succeeds ∨ ¬d.Hooks ∧ Owed s.pending d
  · have hold : ¬(d.Hooks → ∀ c ∈ s.changes, c.incident.Verified →
        c.incident.cluster = d.key → d.Succeeds ∧ c.incident.sections ⊆ d.sections ∨
          ∀ channel, Covered s.sent channel c) := fun h => hsound ⟨hnew, h⟩
    simp only [Classical.not_imp, not_forall, not_or] at hold
    obtain ⟨hhooks, c, hc, hverified, hkey, hless, hnot⟩ := hold
    refine ⟨c, List.mem_append_left _ hc, hverified, hnot, ?_⟩
    rw [owed_collect]
    rintro (⟨hsucc, -, hneeded⟩ | ⟨hother, -⟩)
    · exact hless ⟨hsucc, hneeded⟩
    · exact hother ⟨hhooks, hkey⟩
  · simp only [Classical.not_imp, not_or] at hnew
    obtain ⟨hverified, hfails, hnot⟩ := hnew
    refine ⟨⟨s.count, d⟩, by simp, hverified, ⟨.refresh, ?_⟩, ?_⟩
    · rintro ⟨e, he, hlt, -⟩
      exact absurd (hf.seen_le e he) (Nat.not_le_of_lt hlt)
    · rw [owed_collect]
      rintro (⟨hsucc, -⟩ | ⟨hother, howed⟩)
      · exact hfails hsucc
      · by_cases hhooks : d.Hooks
        · exact hother ⟨hhooks, Dirty.cluster_of_hooks hhooks⟩
        · exact hnot ⟨hhooks, howed⟩

/-- After the rollback of a savepoint that does not meet the condition either a change from before
waits without its slot, or what is rolled back was sent. -/
theorem breaks_rollbackTo {mark outer : Nat} {marks : List Nat}
    (hmarks : s.marks = mark :: outer :: marks) (hsound : ¬Sound s .rollbackTo) :
    ¬LawfulOn { s with
      marks := outer :: marks
      pending := []
      changes := s.changes.filter (·.number < mark)
      rolledBack := s.rolledBack ++ (s.changes.filter (mark ≤ ·.number)).map (·.number) } := by
  unfold Sound at hsound
  rw [hmarks] at hsound
  by_cases hwaits : ∀ c ∈ s.changes, c.number < mark → c.incident.Verified →
      ∀ channel, Covered s.sent channel c
  · have hsent : ¬∀ c ∈ s.changes, mark ≤ c.number → ∀ e ∈ s.sent, e.origin ≠ c.number :=
      fun h => hsound ⟨hwaits, h⟩
    simp only [Classical.not_imp, not_forall, not_not] at hsent
    obtain ⟨c, hc, hafter, e, he, heq⟩ := hsent
    refine not_lawfulOn_sent ⟨e, he, ?_⟩
    apply List.mem_append_right
    rw [heq]
    exact List.mem_map_of_mem (List.mem_filter.mpr ⟨hc, decide_eq_true hafter⟩)
  · simp only [Classical.not_imp, not_forall] at hwaits
    obtain ⟨c, hc, hbefore, hverified, channel, hnot⟩ := hwaits
    refine not_lawfulOn hverified (outer :: marks) _ rfl (List.cons_ne_nil _ _)
      (List.mem_filter.mpr ⟨hc, decide_eq_true hbefore⟩) hnot ?_
    rintro ⟨entry, hentry, -⟩
    cases hentry

/-- **Breaking lemma.**  After a step that does not meet the condition the session can go on so
that it is not lawful. -/
theorem breaks (hf : Formed s) (hsound : ¬Sound s label) (hs : step s label = some s') :
    ¬LawfulOn s' := by
  cases stepped_of_step hs with
  | begin | savepoint => exact absurd True.intro hsound
  | flush d mark marks hmarks =>
    obtain ⟨c, hc, hverified, ⟨channel, hnot⟩, howed⟩ := lost_of_flush hf hsound
    exact not_lawfulOn hverified (mark :: marks) _ hmarks (List.cons_ne_nil _ _) hc hnot howed
  | release delivery mark outer marks hmarks =>
    simp only [Sound, Classical.not_imp, not_forall, not_or, Bool.not_eq_true] at hsound
    obtain ⟨c, hc, hverified, channel, hnot, hfail⟩ := hsound
    have hstill := not_covered_publish delivery hnot (Or.inr hfail)
    apply not_lawfulOn hverified (outer :: marks)
      (Session.publish { s with marks := outer :: marks } delivery) rfl
      (List.cons_ne_nil _ _) hc hstill
    rintro ⟨entry, hentry, -⟩
    cases hentry
  | rollbackTo mark outer marks hmarks =>
    exact breaks_rollbackTo hmarks hsound
  | commit delivery mark hmarks =>
    simp only [Sound, Classical.not_imp, not_forall, not_or, Bool.not_eq_true] at hsound
    obtain ⟨c, hc, hverified, channel, hnot, hfail⟩ := hsound
    intro hlawful
    exact not_covered_publish delivery hnot (Or.inr hfail)
      (hlawful.lawful.covered c (List.mem_append_right _ hc) hverified channel)
  | rollback mark hmarks =>
    simp only [Sound, not_forall, not_not] at hsound
    obtain ⟨c, hc, e, he, heq⟩ := hsound
    refine not_lawfulOn_sent ⟨e, he, ?_⟩
    apply List.mem_append_right
    rw [heq]
    exact List.mem_map_of_mem hc

/-! ## Main results -/

/-- **Main theorem.**  However a session goes on, every change from VERIFYING to RESOLVED that it
commits is covered by a refresh and an event, and nothing is sent for a change that it rolls
back, exactly when its steps meet the condition. -/
theorem resolved_published_iff (labels : List Label) (s : Session) (hrun : system.run {} labels = some s) :
    system.Always (fun _ _ s' => LawfulOn s') {} labels ↔ system.Meets Sound {} labels := by
  apply system.always_onward_iff (I := fun s => Formed s ∧ Kept s) _ _ _ labels _ s _ hrun
  · intro s h
    exact h.2.lawful
  · intro s label s' h hsound hs
    exact ⟨h.1.step hs, h.2.step h.1 hsound hs⟩
  · intro s label s' h hsound hs
    exact breaks h.1 hsound hs
  · exact ⟨Formed.empty, Kept.empty⟩

/-- An Incident of cluster `c` whose post-check went well. -/
def resolved (cephCode : Text) : Dirty where
  clusterId := some ['c']
  cephCode := cephCode
  status := .resolved
  changed := true
  deleted := [.verifying]
  action := some (['a'], .executed)
  before := .verifying
  hasAction := true
  defaultCluster := ['c']

/-- One Incident is resolved and committed, another one in the next transaction. -/
def oneByOne : List Label :=
  [.begin, .flush (resolved ['P', 'O', 'O', 'L', '_', 'F', 'U', 'L', 'L']), .commit allWell,
    .begin, .flush (resolved ['O', 'S', 'D', '_', 'D', 'O', 'W', 'N']), .commit allWell]

/-- Both are resolved in one transaction: the slot of the cluster is written over. -/
def bothAtOnce : List Label :=
  [.begin, .flush (resolved ['P', 'O', 'O', 'L', '_', 'F', 'U', 'L', 'L']),
    .flush (resolved ['O', 'S', 'D', '_', 'D', 'O', 'W', 'N']), .commit allWell]

theorem resolved_published_iff_oneByOne :
    system.Always (fun _ _ s' => LawfulOn s') {} oneByOne :=
  (resolved_published_iff oneByOne _ rfl).mpr (by decide)

theorem slot_overwritten : ∃ s, system.run {} bothAtOnce = some s ∧ ¬Lawful s := by
  refine ⟨_, rfl, ?_⟩
  intro h
  exact absurd (h.covered _ (List.mem_cons_self) (by decide) .refresh) (by decide)

end CephAi.Ports.ResolvedEvents
