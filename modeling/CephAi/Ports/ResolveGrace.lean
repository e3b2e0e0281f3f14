import CephAi.Verified.Runs
import CephAi.Ports.Verification

/-!
# The quiet period before an Incident is resolved

`decide` of `watcher/resolve_grace.py` and the pass of
`_resolve_recovered_incidents` that asks it.  The process keeps since when a code
is absent, for each cluster and code.  A pass asks only about the Incidents that
it scans, and nothing else ends an absence: a code that comes back while none of
its Incidents is scanned keeps its old clock.

## Main results

* `scanLoop_key` — a pass decides once for each key that it reaches.
* `resolved_soundly` — in every run that keeps to `Tracked`, what the pass
  resolves was absent from every poll of a whole quiet period.
* `resolved_after_flapping` — an Incident that is resolved at the first poll
  without its code.
-/

namespace CephAi.Ports.ResolveGrace

open Verified Verified.Runs
open Models Verification

/-! ## The clock -/

/-- A cluster and a code. -/
abbrev Key := Option String × String

def keyOf (i : Incident) : Key := (i.clusterId, i.cephCode)

/-- `_absent_since` -/
abbrev Clock := Key → Option Nat

/-- The verdicts of `decide`. -/
inductive Verdict
  | present
  | hold
  | recurred
  | resolve
deriving DecidableEq, Repr

/-- `decide`, for the entry of one key: the entry afterwards and the verdict. -/
def decideGrace (grace : Nat) (entry : Option Nat) (present : Bool) (now : Nat) :
    Option Nat × Verdict :=
  if present then
    if entry.isSome then (none, .recurred) else (none, .present)
  else if grace = 0 then (entry, .resolve)
  else
    let since := entry.getD now
    if now - since < grace then (some since, .hold) else (none, .resolve)

/-! ## The pass -/

/-- A pass over one cluster's Incidents.  `endsAfter` says after how many of them an
error ends it. -/
structure Pass where
  currentCodes : List String
  clusterId : Option String
  includeLegacyNull : Bool
  locked : List Nat
  endsAfter : Option Nat
deriving DecidableEq, Repr

/-- The health that the pass looks at is the one of this key's cluster. -/
def Pass.observes (p : Pass) (key : Key) : Bool :=
  key.1 == p.clusterId || (p.includeLegacyNull && key.1.isNone)

/-- The pass asks about this row. -/
def Pass.scans (p : Pass) (i : Incident) : Bool :=
  recoverableStatuses.contains i.status && i.status != .verifying &&
    p.observes (keyOf i) && !p.locked.contains i.id && !i.synthetic &&
    !ownedElsewhere i.cephCode

/-- The rows that it comes to. -/
def Pass.reached (p : Pass) (incidents : List Incident) : List Incident :=
  match p.endsAfter with
  | none => incidents.filter p.scans
  | some n => (incidents.filter p.scans).take n

/-- The loop, with `_absent_since` and `grace_decisions`. -/
def scanLoop (grace : Nat) (p : Pass) (now : Nat) :
    List Incident → Clock → List (Key × Verdict) → Clock × List (Key × Verdict)
  | [], clock, decisions => (clock, decisions)
  | i :: rest, clock, decisions =>
    match decisions.lookup (keyOf i) with
    | some _ => scanLoop grace p now rest clock decisions
    | none =>
      let one := decideGrace grace (clock (keyOf i)) (p.currentCodes.contains i.cephCode) now
      scanLoop grace p now rest (Function.update clock (keyOf i) one.1)
        ((keyOf i, one.2) :: decisions)

/-- The keys whose quiet period is over. -/
def quietKeys (decisions : List (Key × Verdict)) : List Key :=
  (decisions.map Prod.fst).filter fun key => decisions.lookup key == some .resolve

/-- The transaction of a pass that found these keys quiet. -/
def Pass.recovery (p : Pass) (quiet : List Key) : Recovery where
  currentCodes := p.currentCodes
  clusterId := p.clusterId
  includeLegacyNull := p.includeLegacyNull
  quiet := quiet
  locked := p.locked

/-- What happened, for the statements below. -/
inductive Event
  | polled (time : Nat) (p : Pass)
  | opened (id : Nat)
deriving DecidableEq, Repr

/-- The database, one process of the Watcher, and what happened, the newest first. -/
structure World where
  store : Store
  clock : Clock
  now : Nat
  log : List Event

/-- The verdicts of a pass, and the clock after it. -/
def World.scan (grace : Nat) (w : World) (p : Pass) : Clock × List (Key × Verdict) :=
  scanLoop grace p w.now (p.reached w.store.db.incidents) w.clock []

/-- `_resolve_recovered_incidents`; a pass that ends with an error commits nothing. -/
def World.poll (grace : Nat) (w : World) (p : Pass) : World where
  store :=
    if p.endsAfter = none then
      resolveRecoveredIncidents w.store (p.recovery (quietKeys (w.scan grace p).2))
    else w.store
  clock := (w.scan grace p).1
  now := w.now
  log := .polled w.now p :: w.log

/-- A step: a pass, or what others do to the database between the passes. -/
inductive Label
  | poll (p : Pass)
  | opened (i : Incident)
  | write (incidentId : Nat) (w : IncidentWrite)
  | delete (incidentId : Nat)
  | setOthers (actions : List Action) (cases : List Case)
  | restart
  | tick (seconds : Nat)

/-- These rows in place of the Incidents. -/
def World.setIncidents (w : World) (incidents : List Incident) : World :=
  { w with store := { w.store with db := { w.store.db with incidents := incidents } } }

/-- One step; ids are used once. -/
def step (grace : Nat) (w : World) : Label → Option World
  | .poll p => some (w.poll grace p)
  | .opened i =>
    if .opened i.id ∈ w.log then none
    else
      some { w.setIncidents (Table.insert w.store.db.incidents i) with
        log := .opened i.id :: w.log }
  | .write incidentId write =>
    some (w.setIncidents (Table.modify w.store.db.incidents incidentId write.apply))
  | .delete incidentId =>
    some (w.setIncidents (w.store.db.incidents.filter (fun i => i.id != incidentId)))
  | .setOthers actions cases =>
    some { w with store := ⟨{ w.store.db with actions := actions }, cases⟩ }
  | .restart => some { w with clock := fun _ => none }
  | .tick seconds => some { w with now := w.now + seconds }

/-- One process of the Watcher and the others. -/
def watcher (grace : Nat) : System World Label := ⟨step grace⟩

/-- No Incidents, and a process that has just started. -/
def emptyWorld : World := ⟨⟨⟨[], [], []⟩, []⟩, fun _ => none, 0, []⟩

/-! ## What a pass should do -/

/-- The code was absent from the poll at `start` and from every later one of its cluster;
`older` is what happened before that poll. -/
def AbsentSince (log : List Event) (key : Key) (start : Nat) (older : List Event) : Prop :=
  ∃ recent p, log = recent ++ .polled start p :: older ∧ p.observes key = true ∧
    key.2 ∉ p.currentCodes ∧
    ∀ t q, .polled t q ∈ recent → q.observes key = true → key.2 ∉ q.currentCodes

/-- What the pass resolves has been absent for the quiet period, which began after the
Incident was opened. -/
def ResolvedSoundly (grace : Nat) (w : World) (l : Label) (w' : World) : Prop :=
  match l with
  | .poll _ => ∀ id row, w.store.db.incident? id = some row → row.status ≠ .resolved →
      w'.store.db.incidentStatus id = some .resolved →
      ∃ start older, AbsentSince w'.log (keyOf row) start older ∧
        start + grace ≤ w'.now ∧ .opened id ∈ older
  | _ => True

/-- A pass comes to an Incident of each code that is back while its clock runs, and no
Incident is opened under a clock that runs. -/
def Tracked (w : World) : Label → Prop
  | .poll p => ∀ key, w.clock key ≠ none → p.observes key = true →
      key.2 ∈ p.currentCodes → ∃ i ∈ p.reached w.store.db.incidents, keyOf i = key
  | .opened i => w.clock (keyOf i) = none
  | _ => True

/-! ## One pass -/

variable {grace now : Nat} {p : Pass} {w : World}

theorem decideGrace_resolve {entry : Option Nat} {present : Bool}
    (h : (decideGrace grace entry present now).2 = .resolve) :
    present = false ∧ (grace = 0 ∨ ∃ start, entry = some start ∧ start + grace ≤ now) := by
  unfold decideGrace at h
  split_ifs at h with hpresent hsome hgrace
  · exact ⟨by simpa using hpresent, Or.inl hgrace⟩
  · refine ⟨by simpa using hpresent, Or.inr ?_⟩
    dsimp only at h
    split_ifs at h with hearly
    cases entry with
    | none =>
      rw [Option.getD_none] at hearly
      omega
    | some start =>
      rw [Option.getD_some] at hearly
      exact ⟨start, rfl, by omega⟩

theorem decideGrace_entry {entry : Option Nat} {present : Bool} {start : Nat}
    (h : (decideGrace grace entry present now).1 = some start) :
    present = false ∧ (entry = some start ∨ start = now) := by
  unfold decideGrace at h
  split_ifs at h with hpresent hsome hgrace
  · exact ⟨by simpa using hpresent, Or.inl h⟩
  · refine ⟨by simpa using hpresent, ?_⟩
    dsimp only at h
    split_ifs at h with hearly
    cases entry with
    | none => exact Or.inr (Option.some.inj h).symm
    | some since => exact Or.inl h

/-- **What the loop does for a key**: it decides once, on the clock it started with, if it
comes to a row of the key. -/
theorem scanLoop_key (grace : Nat) (p : Pass) (now : Nat) (key : Key) (rows : List Incident) :
    ∀ (clock : Clock) (decisions : List (Key × Verdict)),
      let one := decideGrace grace (clock key) (p.currentCodes.contains key.2) now
      let after := scanLoop grace p now rows clock decisions
      (decisions.lookup key = none ∧ key ∈ rows.map keyOf →
        after.1 key = one.1 ∧ after.2.lookup key = some one.2) ∧
      (¬ (decisions.lookup key = none ∧ key ∈ rows.map keyOf) →
        after.1 key = clock key ∧ after.2.lookup key = decisions.lookup key) := by
  induction rows with
  | nil =>
    intro clock decisions
    simp [scanLoop]
  | cons i rows ih =>
    intro clock decisions
    dsimp only
    unfold scanLoop
    have hdecided := ih
      (Function.update clock (keyOf i)
        (decideGrace grace (clock (keyOf i)) (p.currentCodes.contains i.cephCode) now).1)
      ((keyOf i, (decideGrace grace (clock (keyOf i)) (p.currentCodes.contains i.cephCode) now).2)
        :: decisions)
    by_cases hkey : key = keyOf i
    · subst hkey
      cases hseen : decisions.lookup (keyOf i) with
      | some verdict =>
        have hrest := ih clock decisions
        simpa [hseen] using hrest
      | none =>
        simpa [keyOf] using hdecided
    · have hbeq : (key == keyOf i) = false := beq_eq_false_iff_ne.mpr hkey
      have hmem : key ∈ (i :: rows).map keyOf ↔ key ∈ rows.map keyOf := by
        rw [List.map_cons, List.mem_cons]
        exact or_iff_right hkey
      rw [hmem]
      cases hseen : decisions.lookup (keyOf i) with
      | some verdict => exact ih clock decisions
      | none =>
        dsimp only at hdecided
        rw [Function.update_of_ne hkey, List.lookup_cons, hbeq] at hdecided
        exact hdecided

theorem scan_key (grace : Nat) (w : World) (p : Pass) (key : Key) :
    let one := decideGrace grace (w.clock key) (p.currentCodes.contains key.2) w.now
    ((∃ i ∈ p.reached w.store.db.incidents, keyOf i = key) ∧
      (w.scan grace p).1 key = one.1 ∧ (w.scan grace p).2.lookup key = some one.2) ∨
    ((¬ ∃ i ∈ p.reached w.store.db.incidents, keyOf i = key) ∧
      (w.scan grace p).1 key = w.clock key ∧ (w.scan grace p).2.lookup key = none) := by
  have hkey := scanLoop_key grace p w.now key (p.reached w.store.db.incidents) w.clock []
  dsimp only at hkey ⊢
  rw [List.mem_map, List.lookup_nil] at hkey
  by_cases hreached : ∃ i ∈ p.reached w.store.db.incidents, keyOf i = key
  · exact Or.inl ⟨hreached, hkey.1 ⟨rfl, hreached⟩⟩
  · exact Or.inr ⟨hreached, hkey.2 (fun h => hreached h.2)⟩

/-- What a pass comes to, it scans. -/
theorem observes_of_reached {incidents : List Incident} {i : Incident}
    (h : i ∈ p.reached incidents) : p.observes (keyOf i) = true := by
  have hscans : p.scans i = true := by
    unfold Pass.reached at h
    cases hends : p.endsAfter with
    | none =>
      rw [hends] at h
      exact (List.mem_filter.mp h).2
    | some n =>
      rw [hends] at h
      exact (List.mem_filter.mp (List.mem_of_mem_take h)).2
  unfold Pass.scans at hscans
  simp only [Bool.and_eq_true] at hscans
  exact hscans.1.1.1.2

/-! ## Absences -/

theorem AbsentSince.begin {log : List Event} {key : Key} (hobserves : p.observes key = true)
    (habsent : key.2 ∉ p.currentCodes) : AbsentSince (.polled now p :: log) key now log := by
  refine ⟨[], p, rfl, hobserves, habsent, ?_⟩
  intro t q hq
  cases hq

/-- An absence goes on. -/
theorem AbsentSince.cons {log older : List Event} {key : Key} {start : Nat}
    (h : AbsentSince log key start older) (e : Event)
    (he : ∀ t q, e = .polled t q → q.observes key = true → key.2 ∉ q.currentCodes) :
    AbsentSince (e :: log) key start older := by
  obtain ⟨recent, p, hlog, hobserves, habsent, hrecent⟩ := h
  refine ⟨e :: recent, p, by rw [hlog, List.cons_append], hobserves, habsent, ?_⟩
  intro t q hq
  rcases List.mem_cons.mp hq with heq | hold
  · exact he t q heq.symm
  · exact hrecent t q hold

/-- Each row was opened; each clock that runs shows an absence, and every Incident of its
code was opened before it. -/
structure Sound (w : World) : Prop where
  opened : ∀ row ∈ w.store.db.incidents, .opened row.id ∈ w.log
  clock : ∀ key start, w.clock key = some start → ∃ older,
    AbsentSince w.log key start older ∧
      ∀ row ∈ w.store.db.incidents, keyOf row = key → .opened row.id ∈ older

def SameKeys (old new : List Incident) : Prop :=
  ∀ row' ∈ new, ∃ row ∈ old, row'.id = row.id ∧ keyOf row' = keyOf row

theorem SameKeys.refl (rows : List Incident) : SameKeys rows rows :=
  fun row h => ⟨row, h, rfl, rfl⟩

theorem sameKeys_update (rows : List Incident) (picks : Incident → Bool) (write : IncidentWrite) :
    SameKeys rows (Table.update rows picks write.apply) := by
  intro row' h
  obtain ⟨row, hrow, rfl⟩ := List.mem_map.mp h
  refine ⟨row, hrow, ?_⟩
  split_ifs
  · exact ⟨rfl, rfl⟩
  · exact ⟨rfl, rfl⟩

theorem Sound.of_sameKeys {w' : World} (h : Sound w)
    (hrows : SameKeys w.store.db.incidents w'.store.db.incidents) (hlog : w'.log = w.log)
    (hclock : ∀ key start, w'.clock key = some start → w.clock key = some start) :
    Sound w' where
  opened := by
    intro row' hrow'
    obtain ⟨row, hrow, hid, _⟩ := hrows row' hrow'
    rw [hid, hlog]
    exact h.opened row hrow
  clock := by
    intro key start hstart
    obtain ⟨older, habsent, hopened⟩ := h.clock key start (hclock key start hstart)
    refine ⟨older, by rw [hlog]; exact habsent, ?_⟩
    intro row' hrow' hkey
    obtain ⟨row, hrow, hid, hkey'⟩ := hrows row' hrow'
    rw [hid]
    exact hopened row hrow (hkey' ▸ hkey)

theorem sameKeys_poll (grace : Nat) (w : World) (p : Pass) :
    SameKeys w.store.db.incidents (w.poll grace p).store.db.incidents := by
  unfold World.poll
  dsimp only
  split_ifs
  · exact sameKeys_update _ _ _
  · exact SameKeys.refl _

/-- **A pass that is tracked keeps the clocks sound.** -/
theorem sound_poll (h : Sound w) (htracked : Tracked w (.poll p)) : Sound (w.poll grace p) where
  opened := by
    intro row' hrow'
    obtain ⟨row, hrow, hid, _⟩ := sameKeys_poll grace w p row' hrow'
    rw [hid]
    exact List.mem_cons_of_mem _ (h.opened row hrow)
  clock := by
    intro key start hstart
    have hstart' : (w.scan grace p).1 key = some start := hstart
    -- a clock that ran before goes on
    have hgoes : w.clock key = some start → (p.observes key = true → key.2 ∉ p.currentCodes) →
        ∃ older, AbsentSince (.polled w.now p :: w.log) key start older ∧
          ∀ row ∈ (w.poll grace p).store.db.incidents, keyOf row = key → .opened row.id ∈ older := by
      intro hbefore habsent
      obtain ⟨older, hsince, hopened⟩ := h.clock key start hbefore
      refine ⟨older, hsince.cons _ ?_, ?_⟩
      · intro t q heq hobserves
        cases heq
        exact habsent hobserves
      · intro row' hrow' hkey
        obtain ⟨row, hrow, hid, hkey'⟩ := sameKeys_poll grace w p row' hrow'
        rw [hid]
        exact hopened row hrow (hkey' ▸ hkey)
    rcases scan_key grace w p key with ⟨⟨i, hi, hkey⟩, hclock, _⟩ | ⟨hnot, hclock, _⟩
    · rw [hclock] at hstart'
      obtain ⟨hpresent, hentry⟩ := decideGrace_entry hstart'
      have habsent : key.2 ∉ p.currentCodes := by simpa using hpresent
      rcases hentry with hbefore | hnow
      · exact hgoes hbefore (fun _ => habsent)
      · refine ⟨w.log, ?_, ?_⟩
        · rw [hnow]
          exact AbsentSince.begin (hkey ▸ observes_of_reached hi) habsent
        · intro row' hrow' _
          obtain ⟨row, hrow, hid, _⟩ := sameKeys_poll grace w p row' hrow'
          rw [hid]
          exact h.opened row hrow
    · rw [hclock] at hstart'
      apply hgoes hstart'
      intro hobserves hpresent
      have hruns : w.clock key ≠ none := by
        rw [hstart']
        exact Option.some_ne_none start
      exact hnot (htracked key hruns hobserves hpresent)

/-- **What a pass resolves has been absent for the quiet period.** -/
theorem resolvedSoundly_poll (h : Sound w) :
    ResolvedSoundly grace w (.poll p) (w.poll grace p) := by
  intro id row hrow hopen hresolved
  have hends : p.endsAfter = none := by
    by_contra hends
    unfold World.poll Db.incidentStatus at hresolved
    dsimp only at hresolved
    rw [if_neg hends, hrow] at hresolved
    exact hopen (Option.some.inj hresolved)
  have hrecovers : recovers (p.recovery (quietKeys (w.scan grace p).2)) row = true := by
    unfold World.poll Db.incidentStatus at hresolved
    dsimp only at hresolved
    rw [if_pos hends, recover_incident?, hrow] at hresolved
    by_contra hnot
    simp only [Option.map_some, if_neg hnot, Option.some.injEq] at hresolved
    exact hopen hresolved
  have hid : row.id = id := Table.key_of_get hrow
  have hmem : row ∈ w.store.db.incidents := Table.mem_of_get hrow
  -- the verdict on its key
  have hquiet : (w.scan grace p).2.lookup (keyOf row) = some .resolve := by
    unfold recovers Recovery.decide at hrecovers
    simp only [Bool.and_eq_true, beq_iff_eq] at hrecovers
    have hdecide := hrecovers.2
    split_ifs at hdecide with _ hcontains
    have hkeys := List.contains_iff_mem.mp hcontains
    exact beq_iff_eq.mp (List.mem_filter.mp hkeys).2
  rcases scan_key grace w p (keyOf row) with ⟨⟨i, hi, hkey⟩, _, hverdict⟩ | ⟨_, _, hnone⟩
  · rw [hquiet, Option.some.injEq] at hverdict
    obtain ⟨hpresent, hperiod⟩ := decideGrace_resolve hverdict.symm
    have habsent : (keyOf row).2 ∉ p.currentCodes := by simpa using hpresent
    rcases hperiod with hzero | ⟨start, hstart, hlong⟩
    · refine ⟨w.now, w.log, AbsentSince.begin (hkey ▸ observes_of_reached hi) habsent, ?_, ?_⟩
      · show w.now + grace ≤ w.now
        omega
      · exact hid ▸ h.opened row hmem
    · obtain ⟨older, hsince, hopened⟩ := h.clock (keyOf row) start hstart
      refine ⟨start, older, hsince.cons _ ?_, hlong, hid ▸ hopened row hmem rfl⟩
      intro t q heq _
      cases heq
      exact habsent
  · rw [hquiet] at hnone
    cases hnone

/-! ## Every run -/

theorem sound_step {w' : World} (h : Sound w) (l : Label) (htracked : Tracked w l)
    (hstep : step grace w l = some w') : Sound w' := by
  cases l with
  | poll p =>
    rw [step, Option.some.injEq] at hstep
    subst hstep
    exact sound_poll h htracked
  | opened i =>
    simp only [step] at hstep
    split_ifs at hstep with hused
    rw [Option.some.injEq] at hstep
    subst hstep
    have hclock : w.clock (keyOf i) = none := htracked
    constructor
    · intro row hrow
      rcases List.mem_append.mp hrow with hold | hnew
      · exact List.mem_cons_of_mem _ (h.opened row hold)
      · rw [List.mem_singleton.mp hnew]
        exact List.mem_cons_self
    · intro key start hstart
      obtain ⟨older, hsince, hopened⟩ := h.clock key start hstart
      refine ⟨older, hsince.cons _ ?_, ?_⟩
      · intro t q heq
        cases heq
      · intro row hrow hkey
        rcases List.mem_append.mp hrow with hold | hnew
        · exact hopened row hold hkey
        · -- the new Incident has another key
          rw [List.mem_singleton.mp hnew] at hkey
          have hstart' : w.clock key = some start := hstart
          rw [← hkey, hclock] at hstart'
          cases hstart'
  | write incidentId write =>
    rw [step, Option.some.injEq] at hstep
    subst hstep
    exact h.of_sameKeys (sameKeys_update _ _ _) rfl (fun _ _ hstart => hstart)
  | delete incidentId =>
    rw [step, Option.some.injEq] at hstep
    subst hstep
    refine h.of_sameKeys ?_ rfl (fun _ _ hstart => hstart)
    intro row hrow
    exact ⟨row, (List.mem_filter.mp hrow).1, rfl, rfl⟩
  | setOthers | tick =>
    rw [step, Option.some.injEq] at hstep
    subst hstep
    exact h.of_sameKeys (SameKeys.refl _) rfl (fun _ _ hstart => hstart)
  | restart =>
    rw [step, Option.some.injEq] at hstep
    subst hstep
    refine h.of_sameKeys (SameKeys.refl _) rfl ?_
    intro key start hstart
    cases hstart

theorem sound_emptyWorld : Sound emptyWorld where
  opened := by
    intro row hrow
    cases hrow
  clock := by
    intro key start hstart
    cases hstart

/-- **In every run that keeps to `Tracked`, an Incident is resolved only after a quiet
period that began after it was opened.** -/
theorem resolved_soundly (grace : Nat) (labels : List Label)
    (h : (watcher grace).Meets Tracked emptyWorld labels) :
    (watcher grace).Always (ResolvedSoundly grace) emptyWorld labels := by
  apply (watcher grace).always_of_meets (ResolvedSoundly grace) Tracked Sound _ labels
    emptyWorld sound_emptyWorld h
  intro w l w' hw htracked hstep
  refine ⟨?_, sound_step hw l htracked hstep⟩
  cases l with
  | poll p =>
    have hw' : w.poll grace p = w' := Option.some.inj hstep
    rw [← hw']
    exact resolvedSoundly_poll hw
  | _ => exact True.intro

def monDown (id : Nat) : Incident where
  id := id
  clusterId := some "c1"
  cephCode := "MON_DOWN"
  dedupeKey := none
  status := .new
  synthetic := false
  verifyAfter := none
  verifyAttempts := 0

def passOver (codes : List String) : Label := .poll ⟨codes, some "c1", true, [], none⟩

/-- An Incident that recovers for good. -/
def recoveringRun : List Label :=
  [passOver ["MON_DOWN"], .opened (monDown 1), .tick 60, passOver [], .tick 1800, passOver []]

/-- It is resolved after its quiet period. -/
theorem resolved_after_quiet :
    (((watcher 1800).run emptyWorld recoveringRun).bind
        fun w => w.store.db.incidentStatus 1) = some .resolved ∧
      (watcher 1800).Always (ResolvedSoundly 1800) emptyWorld recoveringRun := by
  refine ⟨by decide, resolved_soundly 1800 recoveringRun ?_⟩
  refine ⟨?_, rfl, True.intro, ?_, True.intro, ?_, True.intro⟩
  · intro key hruns
    exact absurd rfl hruns
  · intro key _ _ hpresent
    cases hpresent
  · intro key _ _ hpresent
    cases hpresent

/-- `MON_DOWN` is absent while it is repaired, verified and closed, and comes back an hour
later. -/
def flappingRun : List Label :=
  [passOver ["MON_DOWN"], .opened (monDown 1), .write 1 { status := some .executing },
    .tick 60, passOver [], .write 1 { status := some .verifying },
    .write 1 { status := some .resolved }, .tick 3600, passOver ["MON_DOWN"],
    .opened (monDown 2), .tick 60]

/-- The new Incident is resolved at the first poll without its code, a minute after it was
opened. -/
theorem resolved_after_flapping :
    ¬ (watcher 1800).Always (ResolvedSoundly 1800) emptyWorld (flappingRun ++ [passOver []]) := by
  intro h
  have hrun : (watcher 1800).run emptyWorld flappingRun =
      some (((watcher 1800).run emptyWorld flappingRun).getD emptyWorld) := by
    rfl
  generalize hflapped : ((watcher 1800).run emptyWorld flappingRun).getD emptyWorld = w at hrun
  have hpass := h.step_after rfl flappingRun emptyWorld hrun
  have hrow : w.store.db.incident? 2 = some (monDown 2) := by
    rw [← hflapped]
    decide
  have hresolved : (w.poll 1800 ⟨[], some "c1", true, [], none⟩).store.db.incidentStatus 2 =
      some .resolved := by
    rw [← hflapped]
    decide
  obtain ⟨start, older, ⟨recent, p, hlog, _⟩, hlong, hopened⟩ :=
    hpass 2 (monDown 2) hrow (by decide) hresolved
  have hnow : w.now = 3720 := by
    rw [← hflapped]
    rfl
  obtain ⟨before, hbefore, hnever⟩ :
      ∃ before, w.log = .opened 2 :: before ∧ Event.opened 2 ∉ before := by
    rw [← hflapped]
    exact ⟨_, rfl, by decide⟩
  have hlog' : .polled w.now ⟨[], some "c1", true, [], none⟩ :: .opened 2 :: before =
      recent ++ .polled start p :: older := by
    rw [← hbefore]
    exact hlog
  -- the absence begins with the last poll, or before the Incident was opened
  cases recent with
  | nil =>
    injection hlog' with hfirst _
    injection hfirst with hstart _
    have hlast : start + 1800 ≤ w.now := hlong
    omega
  | cons e recent =>
    injection hlog' with _ hrest
    cases recent with
    | nil =>
      injection hrest with hsecond _
      cases hsecond
    | cons e recent =>
      injection hrest with _ hbefore'
      rw [hbefore'] at hnever
      exact hnever (List.mem_append_right _ (List.mem_cons_of_mem _ hopened))

end CephAi.Ports.ResolveGrace
