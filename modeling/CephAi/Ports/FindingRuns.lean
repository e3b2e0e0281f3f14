import CephAi.Ports.FindingLifecycle

/-!
# Runs of log findings

What findings should be followed by: a new WARNING or CRITICAL finding by an open Incident and,
if it is a FINDING, by its notification; its closing by a notification; and its Incident stays
open while it is unresolved.  A problem that has come back is found under the key of the
resolved row, which an unordered `.first()` can take for the new one, and under the name of the
notification of the first closing; `_resolve_incident_for` does not count acknowledged rows.

## Main results

* `Inv.step` — at most one unresolved finding of a problem.
* `lawful_step_iff` — the steps that report, announce and keep as they should.
* `lawful_runs` — the runs that do, and that a new finding keeps its Incident and its
  notification in them.
* `muted` — a problem that came back and is not heard of, and an Incident closed under an
  acknowledged finding.
-/

namespace CephAi.Ports.FindingLifecycle

open Verified Verified.Runs Verified.Table Verified.Outbox
open Models

/-! ## What the rows should be followed by -/

/-- Every new WARNING or CRITICAL finding has an open Incident and, for a FINDING, a new
notification of its own. -/
def Reported (w w' : World) : Prop :=
  ∀ f ∈ w'.findings, f.id ∉ w.issued → f.alertable = true →
    Covered w' f ∧ (f.verdict = .finding → Opened w' f ∧ ¬Opened w f)

/-- The findings that were unresolved and are RESOLVED now. -/
def World.moved (w w' : World) : List LogFinding :=
  w.findings.filter fun f => f.unresolved && (get w'.findings f.id).any fun f' => !f'.unresolved

/-- Every move to RESOLVED has a new notification of its own. -/
def Announced (w w' : World) : Prop :=
  w'.outbox = w.outbox ++ (w.moved w').map LogFinding.resolvedEvent

/-- While an unresolved finding of its key is left, an open Incident stays open. -/
def Kept (w w' : World) : Prop :=
  ∀ i ∈ w.incidents, i.isOpen = true →
    ∀ f ∈ w'.findings, f.unresolved = true → cephCodeFor f.dedupeKey = i.cephCode →
      ∃ i' ∈ w'.incidents, i'.id = i.id ∧ i'.cephCode = i.cephCode ∧ i'.isOpen = true

/-- What a step should do. -/
def Lawful (w : World) (l : Label) (w' : World) : Prop :=
  Reported w w' ∧
    match l with
    | .resolveStale _ => Announced w w' ∧ Kept w w'
    | .others _ => True
    | _ => Kept w w'

/-! ## When it is so -/

/-- Where an Incident of a row that stays unresolved would be found under the key of a row that
is passed, the session sees a row of that key that is OPEN. -/
def World.Spares (w : World) (stay passed seen : List LogFinding) : Prop :=
  ∀ f ∈ stay, f.unresolved = true → ∀ i ∈ w.incidents, i.exposed f.dedupeKey = true →
    ∀ g ∈ passed, cephCodeFor g.dedupeKey = cephCodeFor f.dedupeKey →
      stillOpen seen g.dedupeKey = true

/-- A new WARNING or CRITICAL row has an open Incident already, or the row that `known_finding`
finds is not RESOLVED.  A row that is closed is of a problem of which no closing was announced
before.  The keys that are passed to `_resolve_incident_for` spare the rows that stay. -/
def Calm (sha1 : String → String) (w : World) : Label → Prop
  | .analyze r =>
    w.stores sha1 r = true → (r.finding sha1).alertable = true →
      Covered w (r.finding sha1) ∨
        ((w.store (r.finding sha1)).knownFinding r (r.finding sha1)).all LogFinding.unresolved
          = true
  | .resolveStale c =>
    (∀ f ∈ w.findings, c.closes f = true → f.resolvedEvent ∉ w.outbox) ∧
      w.Spares (w.leaves c) (w.settled c) (w.leaves c)
  | .reconcile clusterId =>
    w.Spares (w.findings.filter fun f => !(w.duplicates clusterId).contains f)
      (w.duplicates clusterId) w.findings
  | _ => True

/-! ## Keeping Incidents -/

theorem isOpen_of_exposed {i : Incident} {dedupeKey : String} (h : i.exposed dedupeKey = true) :
    i.isOpen = true := by
  simp only [Incident.exposed, Bool.and_eq_true] at h
  exact isOpen_of_resolvable h.1.2

theorem code_of_exposed {i : Incident} {dedupeKey : String} (h : i.exposed dedupeKey = true) :
    i.cephCode = cephCodeFor dedupeKey := by
  simp only [Incident.exposed, Bool.and_eq_true, beq_iff_eq] at h
  exact h.1.1

theorem exposed_congr {k k' : String} (h : cephCodeFor k = cephCodeFor k') (i : Incident) :
    i.exposed k = i.exposed k' := by
  unfold Incident.exposed
  rw [h]

theorem mem_update_unresolved (rows : List LogFinding) (p : LogFinding → Bool) (f : LogFinding) :
    f ∈ update rows p LogFinding.resolve ∧ f.unresolved = true ↔
      f ∈ (rows.filter fun f => !p f) ∧ f.unresolved = true := by
  apply and_congr_left
  intro hunresolved
  rw [List.mem_filter]
  constructor
  · intro h
    obtain ⟨row, hrow, heq⟩ := List.mem_map.mp h
    cases hp : p row with
    | true =>
      rw [if_pos hp] at heq
      subst heq
      cases hunresolved
    | false =>
      rw [if_neg (by simp [hp])] at heq
      subst heq
      exact ⟨hrow, by simp [hp]⟩
  · rintro ⟨hrow, hp⟩
    apply List.mem_map.mpr
    rw [Bool.not_eq_true'] at hp
    exact ⟨f, hrow, by simp [hp]⟩

variable {f : LogFinding} {findings : List LogFinding} {issued : List Nat} {l : Label} {r : Report}
    {sha1 : String → String} {w w' : World}

theorem kept_iff {stay passed seen : List LogFinding} (hids : (w.incidents.map Incident.id).Nodup)
    (hincidents : w'.incidents =
      update w.incidents (fun i => passed.any fun g => takes seen g.dedupeKey i)
        Incident.resolve)
    (hrows : ∀ f, f ∈ w'.findings ∧ f.unresolved = true ↔ f ∈ stay ∧ f.unresolved = true) :
    Kept w w' ↔ w.Spares stay passed seen := by
  constructor
  · intro hkept f hf hunresolved i hi hexposed g hg hcode
    have hcodes := code_of_exposed hexposed
    obtain ⟨hf', _⟩ := (hrows f).mpr ⟨hf, hunresolved⟩
    obtain ⟨i', hi', hid, _, hopen⟩ :=
      hkept i hi (isOpen_of_exposed hexposed) f hf' hunresolved hcodes.symm
    rw [hincidents] at hi'
    obtain ⟨row, hrow, heq⟩ := List.mem_map.mp hi'
    have hrowId : row.id = i.id := by
      rw [← hid, ← heq]
      split <;> rfl
    have hsame := List.inj_on_of_nodup_map hids hrow hi hrowId
    subst hsame
    -- the Incident is still open, so that the key was not passed on
    apply Classical.byContradiction
    intro hnone
    have htaken : (passed.any fun g => takes seen g.dedupeKey row) = true := by
      apply List.any_eq_true.mpr
      refine ⟨g, hg, ?_⟩
      rw [takes, exposed_congr hcode, Bool.and_eq_true, Bool.not_eq_true', ← Bool.not_eq_true]
      exact ⟨hnone, hexposed⟩
    rw [if_pos htaken] at heq
    subst heq
    cases hopen
  · intro hspares i hi hopen f hf hunresolved hcode
    obtain ⟨hstay, _⟩ := (hrows f).mp ⟨hf, hunresolved⟩
    have hnone : ¬(passed.any fun g => takes seen g.dedupeKey i) = true := by
      intro htaken
      obtain ⟨g, hg, htakes⟩ := List.any_eq_true.mp htaken
      rw [takes, Bool.and_eq_true, Bool.not_eq_true'] at htakes
      obtain ⟨hstill, hexposed⟩ := htakes
      have hcodes : cephCodeFor g.dedupeKey = cephCodeFor f.dedupeKey := by
        rw [hcode, code_of_exposed hexposed]
      rw [exposed_congr hcodes] at hexposed
      have hopenRow := hspares f hstay hunresolved i hi hexposed g hg hcodes
      rw [hstill] at hopenRow
      cases hopenRow
    refine ⟨i, ?_, rfl, rfl, hopen⟩
    rw [hincidents]
    exact List.mem_map.mpr ⟨i, hi, if_neg hnone⟩

/-! ## What every step keeps -/

/-- The rows have ids that were given to them, and a problem has at most one that is
unresolved. -/
structure RowsOk (findings : List LogFinding) (issued : List Nat) : Prop where
  ids : (findings.map LogFinding.id).Nodup
  given : ∀ f ∈ findings, f.id ∈ issued
  single : ((findings.filter LogFinding.unresolved).map LogFinding.problem).Nodup

structure Inv (w : World) : Prop where
  rows : RowsOk w.findings w.issued
  sent : ∀ cluster dedupeKey finding,
    EventId.opened cluster dedupeKey finding ∈ w.outbox → finding ∈ w.issued
  incidents : (w.incidents.map Incident.id).Nodup

theorem RowsOk.filter (h : RowsOk findings issued) (p : LogFinding → Bool) :
    RowsOk (findings.filter p) issued where
  ids := h.ids.sublist (List.filter_sublist.map _)
  given f hf := h.given f (List.mem_of_mem_filter hf)
  single := h.single.sublist ((List.filter_sublist.filter _).map _)

theorem given_update (h : ∀ f ∈ findings, f.id ∈ issued) (p : LogFinding → Bool)
    (g : LogFinding → LogFinding) (hid : ∀ f, (g f).id = f.id) :
    ∀ f ∈ update findings p g, f.id ∈ issued := by
  intro f hf
  obtain ⟨row, hrow, rfl⟩ := List.mem_map.mp hf
  split
  · rw [hid]
    exact h row hrow
  · exact h row hrow

/-- A change of statuses that reopens nothing. -/
theorem RowsOk.update (h : RowsOk findings issued) (p : LogFinding → Bool)
    (g : LogFinding → LogFinding) (hid : ∀ f, (g f).id = f.id)
    (hproblem : ∀ f, (g f).problem = f.problem)
    (hcloses : ∀ f, p f = true → (g f).unresolved = true → f.unresolved = true) :
    RowsOk (update findings p g) issued where
  ids := by
    rw [map_update_of_eq findings p g LogFinding.id hid]
    exact h.ids
  given := given_update h.given p g hid
  single := h.single.sublist
    (map_filter_update_sublist findings p LogFinding.unresolved g LogFinding.problem hproblem
      hcloses)

theorem RowsOk.store (h : RowsOk w.findings w.issued) (hnew : f.id ∉ w.issued)
    (hknown : w.known f = false) :
    RowsOk (w.store f).findings (w.store f).issued where
  ids := by
    show ((w.findings ++ [f]).map LogFinding.id).Nodup
    rw [List.map_append, List.nodup_append]
    refine ⟨h.ids, List.nodup_singleton _, ?_⟩
    intro n hn m hm heq
    obtain ⟨row, hrow, hid⟩ := List.mem_map.mp hn
    have hm' : m = f.id := by simpa using hm
    exact hnew (by rw [← hm', ← heq, ← hid]; exact h.given row hrow)
  given row hrow := by
    cases List.mem_append.mp hrow with
    | inl hold => exact List.mem_cons_of_mem _ (h.given row hold)
    | inr hself =>
      rw [List.mem_singleton.mp hself]
      exact List.mem_cons_self
  single := by
    show (((w.findings ++ [f]).filter LogFinding.unresolved).map LogFinding.problem).Nodup
    rw [List.filter_append, List.map_append, List.nodup_append]
    refine ⟨h.single, (List.nodup_singleton _).sublist (List.filter_sublist.map _), ?_⟩
    intro q hq q' hq' heq
    obtain ⟨row, hrow, hproblem⟩ := List.mem_map.mp hq
    obtain ⟨hmem, hunresolved⟩ := List.mem_filter.mp hrow
    obtain ⟨self, hself, hproblem'⟩ := List.mem_map.mp hq'
    rw [List.mem_singleton.mp (List.mem_of_mem_filter hself)] at hproblem'
    -- the unresolved row of the problem would have been found
    have hsame : row.problem = f.problem := by rw [hproblem, heq, hproblem']
    unfold LogFinding.problem at hsame
    rw [Prod.mk.injEq] at hsame
    unfold World.known at hknown
    rw [List.any_eq_false] at hknown
    apply hknown row hmem
    simp [hsame.1, hsame.2, hunresolved]

/-! ## One step -/

theorem step_analyze (hstep : (logIntel sha1).step w (.analyze r) = some w') :
    r.findingId ∉ w.issued ∧ w' = w.analyzeWindow sha1 r := by
  simp only [logIntel, FindingLifecycle.step] at hstep
  split at hstep
  · cases hstep
  · next hnew =>
      cases hstep
      exact ⟨hnew, rfl⟩

theorem step_others {incidents : List Incident}
    (hstep : (logIntel sha1).step w (.others incidents) = some w') :
    (incidents.map Incident.id).Nodup ∧ w' = { w with incidents := incidents } := by
  simp only [logIntel, FindingLifecycle.step] at hstep
  split at hstep
  · next hids =>
      cases hstep
      exact ⟨hids, rfl⟩
  · cases hstep

theorem Inv.analyze (h : Inv w) (sha1 : String → String) (hnew : r.findingId ∉ w.issued) :
    Inv (w.analyzeWindow sha1 r) := by
  cases hstores : w.stores sha1 r with
  | false =>
    rw [analyzeWindow_of_not hstores]
    exact h
  | true =>
    have hrows := h.rows.store (f := r.finding sha1) hnew (known_of_stores hstores)
    rw [analyzeWindow_of_stores hstores]
    refine ⟨?_, ?_, ?_⟩
    · simpa using hrows
    · intro cluster dedupeKey finding he
      rw [outbox_maybeProposeAction] at he
      rw [issued_maybeProposeAction, issued_maybeAlert]
      cases mem_outbox_maybeAlert _ r _ he with
      | inl hold => exact List.mem_cons_of_mem _ (h.sent cluster dedupeKey finding hold)
      | inr hself =>
        obtain ⟨_, heq⟩ := hself
        cases heq
        exact List.mem_cons_self
    · obtain hsame | ⟨i, hid, -, -, -, hsame⟩ := maybeProposeAction_cases
        ((w.store (r.finding sha1)).maybeAlert r (r.finding sha1)) r (r.finding sha1)
      · rw [hsame, incidents_maybeAlert]
        exact h.incidents
      · rw [hsame]
        exact keys_insert_fresh hid (by rw [incidents_maybeAlert]; exact h.incidents)

theorem keys_resolve (incidents : List Incident) (p : Incident → Bool) :
    (update incidents p Incident.resolve).map Incident.id = incidents.map Incident.id :=
  map_update_of_eq incidents p Incident.resolve Incident.id fun _ => rfl

theorem RowsOk.resolve (h : RowsOk findings issued) (p : LogFinding → Bool) :
    RowsOk (Table.update findings p LogFinding.resolve) issued :=
  h.update p LogFinding.resolve (fun _ => rfl) (fun _ => rfl) fun _ _ hopen => nomatch hopen

/-- **Step lemma.** -/
theorem Inv.step (h : Inv w) (hstep : (logIntel sha1).step w l = some w') : Inv w' := by
  cases l with
  | analyze r =>
    obtain ⟨hnew, rfl⟩ := step_analyze hstep
    exact h.analyze sha1 hnew
  | reconcile clusterId =>
    cases hstep
    refine ⟨h.rows.resolve _, h.sent, ?_⟩
    rw [incidents_reconcile, keys_resolve]
    exact h.incidents
  | resolveStale c =>
    cases hstep
    refine ⟨h.rows.resolve _, ?_, ?_⟩
    · intro cluster dedupeKey finding he
      cases mem_enqueueAll.mp he with
      | inl hold => exact h.sent cluster dedupeKey finding hold
      | inr hnew =>
        obtain ⟨f, _, heq⟩ := List.mem_map.mp hnew
        cases heq
    · rw [incidents_resolveStale, keys_resolve]
      exact h.incidents
  | acknowledge finding =>
    cases hstep
    refine ⟨?_, h.sent, h.incidents⟩
    apply h.rows.update _ LogFinding.acknowledge (fun _ => rfl) (fun _ => rfl)
    intro f hp _
    simp only [Bool.and_eq_true, beq_iff_eq] at hp
    simp [LogFinding.unresolved, hp.2]
  | prune cutoff =>
    cases hstep
    exact ⟨h.rows.filter _, h.sent, h.incidents⟩
  | others incidents =>
    obtain ⟨hids, rfl⟩ := step_others hstep
    exact ⟨h.rows, h.sent, hids⟩

/-! ## Which steps are lawful -/

theorem reported_of_given (h : ∀ f ∈ w'.findings, f.id ∈ w.issued) : Reported w w' := by
  intro f hf hnew
  exact absurd (h f hf) hnew

theorem kept_of_subset (h : ∀ i ∈ w.incidents, i ∈ w'.incidents) : Kept w w' := by
  intro i hi hopen f _ _ _
  exact ⟨i, h i hi, rfl, rfl, hopen⟩

theorem incidents_subset_analyzeWindow (w : World) (sha1 : String → String) (r : Report) :
    ∀ i ∈ w.incidents, i ∈ (w.analyzeWindow sha1 r).incidents := by
  intro i hi
  cases hstores : w.stores sha1 r with
  | false => rwa [analyzeWindow_of_not hstores]
  | true =>
    rw [analyzeWindow_of_stores hstores]
    apply incidents_subset_maybeProposeAction
    rwa [incidents_maybeAlert]

theorem mem_findings_analyzeWindow (h : f ∈ (w.analyzeWindow sha1 r).findings) :
    f ∈ w.findings ∨ f = r.finding sha1 := by
  cases hstores : w.stores sha1 r with
  | false =>
    rw [analyzeWindow_of_not hstores] at h
    exact Or.inl h
  | true =>
    rw [analyzeWindow_of_stores hstores, findings_maybeProposeAction,
      findings_maybeAlert] at h
    simpa [World.store, Table.insert] using h

/-- An analysis reports its row exactly when an Incident is open or the proposal does not take a
RESOLVED row for the new one. -/
theorem reported_analyze (hinv : Inv w) (hnew : r.findingId ∉ w.issued) :
    Reported w (w.analyzeWindow sha1 r) ↔ Calm sha1 w (.analyze r) := by
  cases hstores : w.stores sha1 r with
  | false =>
    rw [analyzeWindow_of_not hstores]
    constructor
    · intro _ h
      rw [hstores] at h
      cases h
    · intro _
      exact reported_of_given hinv.rows.given
  | true =>
    have hcovered := covered_maybeProposeAction
      ((w.store (r.finding sha1)).maybeAlert r (r.finding sha1)) r (r.finding sha1)
    have hknown : ((w.store (r.finding sha1)).maybeAlert r (r.finding sha1)).knownFinding r
        (r.finding sha1) = (w.store (r.finding sha1)).knownFinding r (r.finding sha1) := by
      unfold World.knownFinding
      rw [findings_maybeAlert]
    have hold : Covered ((w.store (r.finding sha1)).maybeAlert r (r.finding sha1))
        (r.finding sha1) ↔ Covered w (r.finding sha1) := by
      unfold Covered
      rw [incidents_maybeAlert]
      rfl
    rw [hknown, hold] at hcovered
    rw [analyzeWindow_of_stores hstores]
    constructor
    · intro hreported _ halertable
      apply (hcovered halertable).mp
      apply (hreported (r.finding sha1) _ hnew halertable).1
      simp [World.store, Table.insert]
    · intro hcalm f hf hf' halertable
      rw [← analyzeWindow_of_stores hstores] at hf
      cases mem_findings_analyzeWindow hf with
      | inl hrow => exact absurd (hinv.rows.given f hrow) hf'
      | inr hself =>
        subst hself
        refine ⟨(hcovered halertable).mpr (hcalm hstores halertable), ?_⟩
        intro hverdict
        constructor
        · obtain ⟨cluster, hmem⟩ := opened_maybeAlert (w.store (r.finding sha1)) r
            (r.finding sha1) hverdict (evidence_of_finding r hverdict) halertable
          exact ⟨cluster, by rwa [outbox_maybeProposeAction]⟩
        · rintro ⟨cluster, hmem⟩
          exact hnew (hinv.sent cluster _ _ hmem)

theorem moved_resolveStale (hids : (w.findings.map LogFinding.id).Nodup) (c : Check) :
    w.moved (w.resolveStaleFindings c) = w.findings.filter c.closes := by
  apply List.filter_congr
  intro f hf
  have hrow : get (update w.findings c.closes LogFinding.resolve) f.id =
      some (if c.closes f then f.resolve else f) := by
    rw [get_update w.findings c.closes LogFinding.resolve (fun _ => rfl)]
    have hget : get w.findings f.id = some f := get_of_mem hids hf
    rw [hget]
    rfl
  show (f.unresolved && (get (update w.findings c.closes LogFinding.resolve) f.id).any
    fun f' => !f'.unresolved) = c.closes f
  rw [hrow, Option.any_some]
  cases hcloses : c.closes f with
  | true =>
    rw [(closes_iff c f hcloses).2]
    rfl
  | false => simp

theorem announced_resolveStale (hrows : RowsOk w.findings w.issued) (c : Check) :
    Announced w (w.resolveStaleFindings c) ↔
      ∀ f ∈ w.findings, c.closes f = true → f.resolvedEvent ∉ w.outbox := by
  have hsingle : ((w.findings.filter c.closes).map LogFinding.resolvedEvent).Nodup := by
    have hproblems : ((w.findings.filter c.closes).map LogFinding.problem).Nodup := by
      refine hrows.single.sublist (List.Sublist.map _ ?_)
      apply List.monotone_filter_right
      intro f hcloses
      exact (closes_iff c f hcloses).2
    have hevent : LogFinding.resolvedEvent = (fun q => EventId.resolved q.1 q.2) ∘
        LogFinding.problem := rfl
    rw [hevent, ← List.map_map]
    apply hproblems.map
    intro q q' heq
    rw [EventId.resolved.injEq] at heq
    exact Prod.ext heq.1 heq.2
  unfold Announced
  rw [moved_resolveStale hrows.ids]
  show enqueueAll w.outbox _ = _ ↔ _
  rw [enqueueAll_eq_append_iff, and_iff_right hsingle]
  simp only [List.mem_map, List.mem_filter, forall_exists_index, and_imp]
  constructor
  · intro h f hf hcloses
    exact h _ f hf hcloses rfl
  · rintro h e f hf hcloses rfl
    exact h f hf hcloses

/-- **The steps that report, announce and keep as they should.** -/
theorem lawful_step_iff (h : Inv w) (hstep : (logIntel sha1).step w l = some w') :
    Lawful w l w' ↔ Calm sha1 w l := by
  cases l with
  | analyze r =>
    obtain ⟨hnew, rfl⟩ := step_analyze hstep
    have hkept := kept_of_subset (incidents_subset_analyzeWindow w sha1 r)
    exact (and_iff_left hkept).trans (reported_analyze h hnew)
  | reconcile clusterId =>
    cases hstep
    have hreported : Reported w (w.reconcileOverlappingFindings clusterId) :=
      reported_of_given (given_update h.rows.given _ _ fun _ => rfl)
    exact (and_iff_right hreported).trans
      (kept_iff h.incidents (incidents_reconcile w clusterId) (mem_update_unresolved _ _))
  | resolveStale c =>
    cases hstep
    have hreported : Reported w (w.resolveStaleFindings c) :=
      reported_of_given (given_update h.rows.given _ _ fun _ => rfl)
    exact (and_iff_right hreported).trans
      (and_congr (announced_resolveStale h.rows c)
        (kept_iff h.incidents (incidents_resolveStale w c) (mem_update_unresolved _ _)))
  | acknowledge finding =>
    cases hstep
    have hreported : Reported w (w.acknowledgeFinding finding) :=
      reported_of_given (given_update h.rows.given _ _ fun _ => rfl)
    exact iff_of_true ⟨hreported, kept_of_subset fun _ hi => hi⟩ True.intro
  | prune cutoff =>
    cases hstep
    have hreported : Reported w (w.prune cutoff) :=
      reported_of_given (h.rows.filter _).given
    exact iff_of_true ⟨hreported, kept_of_subset fun _ hi => hi⟩ True.intro
  | others incidents =>
    obtain ⟨_, rfl⟩ := step_others hstep
    exact iff_of_true ⟨reported_of_given h.rows.given, True.intro⟩ True.intro

/-! ## Runs -/

/-- A step of the log intelligence, of an operator who acknowledges, or of the retention. -/
def Label.isOwn : Label → Bool
  | .others _ => false
  | _ => true

/-- The WARNING and CRITICAL findings that were stored since `start` and are not resolved have
an open Incident and, for a FINDING, an opening notification. -/
def Followed (start w : World) : Prop :=
  ∀ f ∈ w.findings, f.id ∉ start.issued → f.alertable = true → f.unresolved = true →
    Covered w f ∧ (f.verdict = .finding → Opened w f)

/-- The row is this one with another status, and was not reopened. -/
def LogFinding.Becomes (row f : LogFinding) : Prop :=
  { row with status := f.status } = f ∧ (f.unresolved = true → row.unresolved = true)

theorem LogFinding.Becomes.refl (f : LogFinding) : f.Becomes f :=
  ⟨rfl, fun h => h⟩

theorem becomes_of_mem_update {rows : List LogFinding} {p : LogFinding → Bool}
    {g : LogFinding → LogFinding} (hg : ∀ row, p row = true → row.Becomes (g row))
    (hf : f ∈ update rows p g) : ∃ row ∈ rows, row.Becomes f := by
  obtain ⟨row, hrow, rfl⟩ := List.mem_map.mp hf
  refine ⟨row, hrow, ?_⟩
  split
  · next hp => exact hg row hp
  · exact LogFinding.Becomes.refl row

theorem origin (hstep : (logIntel sha1).step w l = some w') (hf : f ∈ w'.findings) :
    f.id ∉ w.issued ∨ ∃ row ∈ w.findings, row.Becomes f := by
  have hresolve : ∀ row : LogFinding, row.Becomes row.resolve := fun _ =>
    ⟨rfl, fun hopen => nomatch hopen⟩
  cases l with
  | analyze r =>
    obtain ⟨hnew, rfl⟩ := step_analyze hstep
    cases mem_findings_analyzeWindow hf with
    | inl hold => exact Or.inr ⟨f, hold, LogFinding.Becomes.refl f⟩
    | inr hself =>
      subst hself
      exact Or.inl hnew
  | reconcile | resolveStale =>
    cases hstep
    exact Or.inr (becomes_of_mem_update (fun row _ => hresolve row) hf)
  | acknowledge finding =>
    cases hstep
    refine Or.inr (becomes_of_mem_update (fun row hp => ⟨rfl, fun _ => ?_⟩) hf)
    simp only [Bool.and_eq_true, beq_iff_eq] at hp
    simp [LogFinding.unresolved, hp.2]
  | prune cutoff =>
    cases hstep
    exact Or.inr ⟨f, List.mem_of_mem_filter hf, LogFinding.Becomes.refl f⟩
  | others incidents =>
    obtain ⟨_, rfl⟩ := step_others hstep
    exact Or.inr ⟨f, hf, LogFinding.Becomes.refl f⟩

theorem outbox_subset (hstep : (logIntel sha1).step w l = some w') {e : EventId}
    (he : e ∈ w.outbox) : e ∈ w'.outbox := by
  cases l with
  | analyze r =>
    obtain ⟨_, rfl⟩ := step_analyze hstep
    cases hstores : w.stores sha1 r with
    | false => rwa [analyzeWindow_of_not hstores]
    | true =>
      rw [analyzeWindow_of_stores hstores, outbox_maybeProposeAction]
      exact outbox_subset_maybeAlert (w.store (r.finding sha1)) r (r.finding sha1) he
  | resolveStale c =>
    cases hstep
    exact mem_enqueueAll.mpr (Or.inl he)
  | reconcile | acknowledge | prune =>
    cases hstep
    exact he
  | others incidents =>
    obtain ⟨_, rfl⟩ := step_others hstep
    exact he

theorem kept_of_lawful (h : Lawful w l w') (hown : l.isOwn = true) : Kept w w' := by
  cases l with
  | others incidents => cases hown
  | resolveStale c => exact h.2.2
  | analyze | reconcile | acknowledge | prune => exact h.2

theorem Followed.step {start : World} (h : Followed start w)
    (hstep : (logIntel sha1).step w l = some w') (hlawful : Lawful w l w') (hown : l.isOwn = true) :
    Followed start w' := by
  intro f hf hstart halertable hunresolved
  by_cases hnew : f.id ∈ w.issued
  · obtain hnot | ⟨row, hrow, heq, hreopens⟩ := origin hstep hf
    · exact absurd hnew hnot
    · have hid : row.id = f.id := by rw [← heq]
      have hkey : row.dedupeKey = f.dedupeKey := by rw [← heq]
      have hverdict : row.verdict = f.verdict := by rw [← heq]
      have halertable' : row.alertable = true := by rwa [← heq] at halertable
      obtain ⟨⟨i, hi, hcode, hopen⟩, hopened⟩ :=
        h row hrow (hid ▸ hstart) halertable' (hreopens hunresolved)
      obtain ⟨i', hi', _, hcode', hopen'⟩ := kept_of_lawful hlawful hown i hi hopen f hf
        hunresolved (by rw [← hkey, hcode])
      refine ⟨⟨i', hi', by rw [hcode', hcode, hkey], hopen'⟩, ?_⟩
      intro hfinding
      obtain ⟨cluster, hmem⟩ := hopened (hverdict.trans hfinding)
      rw [hid, hkey] at hmem
      exact ⟨cluster, outbox_subset hstep hmem⟩
  · obtain ⟨hcovered, hopened⟩ := hlawful.1 f hf hnew halertable
    exact ⟨hcovered, fun hfinding => (hopened hfinding).1⟩

theorem Inv.empty : Inv emptyWorld where
  rows := ⟨List.nodup_nil, fun _ hf => (nomatch hf), List.nodup_nil⟩
  sent _ _ _ he := nomatch he
  incidents := List.nodup_nil

theorem Inv.run (sha1 : String → String) (ls : List Label) (w : World)
    (hrun : (logIntel sha1).run emptyWorld ls = some w) : Inv w :=
  (logIntel sha1).run_invariant Inv (fun _ _ _ h hstep => h.step hstep) ls emptyWorld w
    Inv.empty hrun

theorem followed_run {start : World} (hstart : Inv start) (scan : List Label) (w : World)
    (hrun : (logIntel sha1).run start scan = some w)
    (hmeets : (logIntel sha1).Meets (fun w l => Calm sha1 w l ∧ l.isOwn = true) start scan) :
    Followed start w := by
  have h := (logIntel sha1).run_invariant_of_meets (fun w l => Calm sha1 w l ∧ l.isOwn = true)
    (fun w => Inv w ∧ Followed start w)
    (by
      rintro w l w' ⟨hinv, hfollowed⟩ ⟨hcalm, hown⟩ hstep
      exact ⟨hinv.step hstep,
        hfollowed.step hstep ((lawful_step_iff hinv hstep).mpr hcalm) hown⟩)
    scan start w
    ⟨hstart, fun f hf hnew => absurd (hstart.rows.given f hf) hnew⟩ hmeets hrun
  exact h.2

theorem always_lawful_iff {ls : List Label} (hrun : (logIntel sha1).run emptyWorld ls = some w) :
    (logIntel sha1).Always Lawful emptyWorld ls ↔
      (logIntel sha1).Meets (Calm sha1) emptyWorld ls :=
  (logIntel sha1).always_iff_meets_of Lawful (Calm sha1) Inv
    (fun _ _ _ h hstep => ⟨lawful_step_iff h hstep, fun _ => h.step hstep⟩)
    ls emptyWorld w Inv.empty hrun

/-! ## Problems that come back -/

/-- The digests of the two samples. -/
def sampleSha1 (material : String) : String :=
  if material = "c1\x00FINDING\x00p1" then "adf606d530fbf267e0791d16136c3ce4a7a49cec"
  else "985acc2976c1af7711bc2fdf3876a54273c02a53"

/-- The model finds that the pattern `p` is critical. -/
def sampleReport (p : String) (finding first : Nat) : Report where
  clusterId := "c1"
  clusterGiven := true
  windowEnd := 0
  shown := [p]
  patterns := []
  verdict := some .finding
  severity := some .critical
  evidencePatternIds := [p]
  recommendedActionId := none
  faultFamily := none
  semanticEntities := []
  removesDefaultKey := false
  findingId := finding
  createdAt := finding
  first := first

/-- A check after which `p` only is still seen. -/
def sampleCheck (p : String) : Check where
  clusterId := "c1"
  windowStart := 0
  patterns := [⟨p, .osd, 1⟩]
  needsGate _ := false
  clusterFound := true
  recovered _ := false

instance (w : World) (f : LogFinding) : Decidable (Covered w f) :=
  inferInstanceAs (Decidable (∃ i ∈ w.incidents, _ ∧ _))

instance (w : World) (stay passed seen : List LogFinding) :
    Decidable (w.Spares stay passed seen) :=
  inferInstanceAs (Decidable (∀ f ∈ stay, _ → ∀ i ∈ w.incidents, _ → ∀ g ∈ passed, _ → _))

instance (sha1 : String → String) (w : World) (l : Label) : Decidable (Calm sha1 w l) :=
  match l with
  | .analyze _ => inferInstanceAs (Decidable (_ → _ → _ ∨ _))
  | .resolveStale _ => inferInstanceAs (Decidable ((∀ f ∈ w.findings, _ → _) ∧ _))
  | .reconcile _ => inferInstanceAs (Decidable (World.Spares _ _ _ _))
  | .acknowledge _ | .prune _ | .others _ => inferInstanceAs (Decidable True)

/-- Two problems, of which the first ends. -/
def sampleRun : List Label :=
  [.reconcile "c1", .analyze (sampleReport "p1" 1 0), .analyze (sampleReport "p2" 2 0),
    .resolveStale (sampleCheck "p2")]

/-- It comes back. -/
def sampleScan : List Label :=
  [.reconcile "c1", .analyze (sampleReport "p1" 3 1), .acknowledge 2]

def sampleWorld : World := ((logIntel sampleSha1).run emptyWorld sampleRun).getD emptyWorld

def sampleEnd : World := ((logIntel sampleSha1).run sampleWorld sampleScan).getD emptyWorld

/-- **Runs of the log intelligence.**  A run reports, announces and keeps as it should exactly
when its steps are calm; and after calm steps of the log intelligence each unresolved WARNING or
CRITICAL finding that they have stored has an open Incident and its notification. -/
theorem lawful_runs (sha1 : String → String) (ls : List Label) (w : World)
    (hrun : (logIntel sha1).run emptyWorld ls = some w) :
    ((logIntel sha1).Always Lawful emptyWorld ls ↔
        (logIntel sha1).Meets (Calm sha1) emptyWorld ls) ∧
      ∀ (scan : List Label) (w' : World), (logIntel sha1).run w scan = some w' →
        (logIntel sha1).Meets (fun w l => Calm sha1 w l ∧ l.isOwn = true) w scan →
          Followed w w' := by
  constructor
  · exact always_lawful_iff hrun
  · intro scan w' hscan hmeets
    exact followed_run (Inv.run sha1 ls w hrun) scan w' hscan hmeets

/-- One of two problems ends and comes back, and the other is acknowledged. -/
theorem lawful_runs_sample :
    (logIntel sampleSha1).Always Lawful emptyWorld sampleRun ∧ Followed sampleWorld sampleEnd ∧
      (sampleEnd.findings.any fun f => f.id == 3 && f.unresolved && f.alertable) = true := by
  have h := lawful_runs sampleSha1 sampleRun sampleWorld (by decide)
  exact ⟨h.1.mpr (by decide),
    h.2 sampleScan sampleEnd (by decide) (by decide +kernel), by decide +kernel⟩

theorem not_always_lawful {ls : List Label}
    (hrun : ((logIntel sha1).run emptyWorld ls).isSome = true)
    (h : ¬(logIntel sha1).Meets (Calm sha1) emptyWorld ls) :
    ¬(logIntel sha1).Always Lawful emptyWorld ls := by
  obtain ⟨w, hw⟩ := Option.isSome_iff_exists.mp hrun
  rwa [always_lawful_iff hw]

/-- **A problem that is not heard of again.**  A CRITICAL finding of a problem that was resolved
before gets no Incident; the second time a problem ends, nobody is told; and the Incident of an
acknowledged finding is closed while its pattern is still seen. -/
theorem muted :
    ¬(logIntel sampleSha1).Always Lawful emptyWorld
        [.analyze (sampleReport "p1" 1 0), .resolveStale (sampleCheck "p2"),
          .analyze (sampleReport "p1" 2 0)] ∧
      ¬(logIntel sampleSha1).Always Lawful emptyWorld
        [.analyze (sampleReport "p1" 1 0), .resolveStale (sampleCheck "p2"),
          .analyze (sampleReport "p1" 2 1), .resolveStale (sampleCheck "p2")] ∧
      ¬(logIntel sampleSha1).Always Lawful emptyWorld
        [.analyze (sampleReport "p1" 1 0), .resolveStale (sampleCheck "p2"),
          .analyze (sampleReport "p1" 2 1), .acknowledge 2, .resolveStale (sampleCheck "p1")] :=
  ⟨not_always_lawful (by decide) (by decide +kernel),
    not_always_lawful (by decide) (by decide +kernel),
    not_always_lawful (by decide) (by decide +kernel)⟩

end CephAi.Ports.FindingLifecycle
