import CephAi.Ports.FailureLab

/-!
# The Incidents that a fault run holds

`holding_run` finds the run whose window covers an Incident: the window ends at `deadline`
while the run is under way, and at `ended_at`, which is recorded when the fault is undone and
`_recover` has not begun, from then on; `HOLD_GRACE` is added to both.

## Main results

* `filed_step` — the file has the last `KEEP_RUNS` records.
* `held_of_inGrace` — in the runs in which the clock passes no window, with its grace, before
  `_recover` has ended, every Incident of the lab cluster from the injection on is held.
* `recovery_outlasts_grace` — a recovery of thirty minutes.
-/

namespace CephAi.Ports.FailureLab

open Verified Verified.Runs

/-! ## Incidents -/

/-- `holding_run` returns a run for every Incident of its cluster detected from the injection
of one of the last `KEEP_RUNS` runs until `_recover` has ended, and never one that had not
started or that is on another cluster. -/
def Held (w : World) : Prop :=
  (∀ e ∈ latest keepRuns w.hist.entries, ∀ appliedAt ∈ e.appliedAt, ∀ detectedAt,
    appliedAt ≤ detectedAt → detectedAt ≤ e.overAt.getD w.now →
    ∀ clusterId, onCluster e.run clusterId = true →
      (holdingRun w.runs clusterId (some detectedAt)).isSome = true) ∧
  ∀ clusterId detectedAt run, holdingRun w.runs clusterId (some detectedAt) = some run →
    run.startedAt ≤ detectedAt ∧ onCluster run clusterId = true

/-- The run of a call, from its record to the end of its fault. -/
def Phase.recorded : Phase → Option Run
  | .saved j | .applying j | .observing j | .undoing j _ _ | .undone j _ _ => some j.run
  | _ => none

/-- No fault is applied after the window of its run with the grace, and the clock does not
pass it before `_recover` has ended. -/
def InGrace (w : World) : Label → Prop
  | .apply p => ∀ ph ∈ w.calls[p]?, ∀ run ∈ ph.recorded, w.now ≤ run.until + holdGrace
  | .tick n => ∀ e ∈ w.hist.entries, e.appliedAt.isSome = true → e.overAt = none →
    w.now + n ≤ e.run.until + holdGrace
  | _ => True

instance (w : World) (l : Label) : Decidable (InGrace w l) := by
  unfold InGrace
  split <;> infer_instance

variable {j : Job} {p : Nat} {ph : Phase} {run : Run} {w w' : World}

theorem holdingRun_isSome {runs : List Run} {clusterId : Option String} {detectedAt : Nat}
    (hrun : run ∈ runs) (hcovers : covers run clusterId detectedAt = true) :
    (holdingRun runs clusterId (some detectedAt)).isSome = true := by
  unfold holdingRun
  rw [List.find?_isSome]
  exact ⟨run, List.mem_reverse.mpr hrun, hcovers⟩

theorem covers_of_holdingRun {runs : List Run} {clusterId : Option String} {detectedAt : Nat}
    (h : holdingRun runs clusterId (some detectedAt) = some run) :
    run ∈ runs ∧ covers run clusterId detectedAt = true := by
  unfold holdingRun at h
  exact ⟨List.mem_reverse.mp (List.mem_of_find?_eq_some h), by simpa using List.find?_some h⟩

/-! ## The file -/

def World.records (w : World) : List Run := w.hist.entries.map Entry.run

/-- When a call that has no target yet has started. -/
def Phase.since : Phase → Option Nat
  | .checking _ now _ | .preparing _ now _ _ => some now
  | _ => none

/-- The run that is about to be recorded. -/
def Phase.pending : Phase → Option Run
  | .saving j => some j.run
  | _ => none

/-- A run without a record. -/
def World.Unrecorded (w : World) (run : Run) : Prop :=
  run.startedAt ≤ w.now ∧ run.runId < w.nextRun ∧ run.runId ∉ w.records.map Run.runId

/-- What the file has, and what the calls will write into it. -/
structure Filed (w : World) : Prop where
  file : w.runs = latest keepRuns w.records
  fresh : ∀ r ∈ w.records, r.runId < w.nextRun
  distinct : (w.records.map Run.runId).Nodup
  started : ∀ r ∈ w.records, r.startedAt ≤ w.now
  since : ∀ ph ∈ w.calls, ∀ t ∈ ph.since, t ≤ w.now
  pending : ∀ ph ∈ w.calls, ∀ run ∈ ph.pending, w.Unrecorded run
  recorded : ∀ ph ∈ w.calls, ∀ run ∈ ph.recorded, w.records.getLast? = some run

theorem inside_of_pending (h : run ∈ ph.pending) : ph.inside = true := by
  cases ph <;> first | rfl | cases h

theorem inside_of_recorded (h : run ∈ ph.recorded) : ph.inside = true := by
  cases ph <;> first | rfl | cases h

theorem mem_set_cases {l : List Phase} {ph' : Phase} (h : ph ∈ l.set p ph') :
    ph = ph' ∨ ∃ q, p ≠ q ∧ l[q]? = some ph := by
  obtain ⟨q, hq⟩ := List.mem_iff_getElem?.mp h
  rw [List.getElem?_set] at hq
  split_ifs at hq with hpq
  · cases hq
    exact Or.inl rfl
  · exact Or.inr ⟨q, hpq, hq⟩

theorem Locked.others (h : Locked w) (ph' : Phase) (hp : w.calls[p]? = some ph)
    (hinside : ph.inside = true) :
    ∀ phq ∈ w.calls.set p ph', phq = ph' ∨ phq ∈ w.calls ∧ phq.inside = false := by
  intro phq hphq
  rcases mem_set_cases hphq with rfl | ⟨q, hpq, hq⟩
  · exact Or.inl rfl
  · refine Or.inr ⟨List.mem_of_getElem? hq, ?_⟩
    by_contra hin
    rw [Bool.not_eq_false] at hin
    exact hpq (h.eq_of_inside hp hq hinside hin)

section

variable (h : Filed w)
include h

theorem Filed.congr (hruns : w'.runs = w.runs) (hrecords : w'.records = w.records)
    (hcalls : w'.calls = w.calls) (hnow : w'.now = w.now) (hnext : w'.nextRun = w.nextRun) :
    Filed w' := by
  constructor
  · rw [hruns, hrecords]
    exact h.file
  · rw [hrecords, hnext]
    exact h.fresh
  · rw [hrecords]
    exact h.distinct
  · rw [hrecords, hnow]
    exact h.started
  · rw [hcalls, hnow]
    exact h.since
  · unfold World.Unrecorded
    rw [hcalls, hnow, hnext, hrecords]
    exact h.pending
  · rw [hcalls, hrecords]
    exact h.recorded

/-- A call that goes on: what it is about to write is in order. -/
theorem Filed.goTo (p : Nat) (ph' : Phase) (hsince : ∀ t ∈ ph'.since, t ≤ w.now)
    (hpending : ∀ run ∈ ph'.pending, w.Unrecorded run)
    (hrecorded : ∀ run ∈ ph'.recorded, w.records.getLast? = some run) : Filed (w.goTo p ph') := by
  constructor
  · exact h.file
  · exact h.fresh
  · exact h.distinct
  · exact h.started
  · intro ph hph t ht
    rcases List.mem_or_eq_of_mem_set hph with hph | rfl
    · exact h.since ph hph t ht
    · exact hsince t ht
  · intro ph hph run hrun
    rcases List.mem_or_eq_of_mem_set hph with hph | rfl
    · exact h.pending ph hph run hrun
    · exact hpending run hrun
  · intro ph hph run hrun
    rcases List.mem_or_eq_of_mem_set hph with hph | rfl
    · exact h.recorded ph hph run hrun
    · exact hrecorded run hrun

/-- A call that goes on with nothing to write. -/
theorem Filed.move (p : Nat) (ph' : Phase) (hsince : ph'.since = none)
    (hpending : ph'.pending = none) (hrecorded : ph'.recorded = none) : Filed (w.goTo p ph') := by
  apply h.goTo p ph'
  · intro t ht
    rw [hsince] at ht
    cases ht
  · intro run hrun
    rw [hpending] at hrun
    cases hrun
  · intro run hrun
    rw [hrecorded] at hrun
    cases hrun

theorem Filed.carry (ph' : Phase) (hp : w.calls[p]? = some ph)
    (hsince : ph'.since = none) (hpending : ph'.pending = none)
    (hrecorded : ∀ run ∈ ph'.recorded, run ∈ ph.recorded) : Filed (w.goTo p ph') := by
  apply h.goTo p ph'
  · intro t ht
    rw [hsince] at ht
    cases ht
  · intro run hrun
    rw [hpending] at hrun
    cases hrun
  · intro run hrun
    exact h.recorded ph (List.mem_of_getElem? hp) run (hrecorded run hrun)

theorem Filed.leave (p : Nat) : Filed (w.leave p) :=
  (h.move p .finished rfl rfl rfl).congr rfl rfl rfl rfl rfl

theorem Filed.setProposal (c : Call) (status : ProposalStatus) :
    Filed (w.setProposal c status) := by
  unfold World.setProposal
  split
  · exact h
  · exact h.congr rfl rfl rfl rfl rfl

theorem Filed.refuse (p : Nat) (c : Call) : Filed (w.refuse p c) :=
  (h.leave p).setProposal c .approved

end

theorem records_editEntry (w : World) (runId : Nat) (f : Entry → Entry)
    (hf : ∀ e, (f e).run = e.run) : (w.editEntry runId f).records = w.records := by
  unfold World.records World.editEntry
  rw [List.map_map]
  apply List.map_congr_left
  intro e _
  simp only [Function.comp_apply]
  split_ifs
  · exact hf e
  · rfl

section

variable (h : Filed w)
include h

theorem Filed.editEntry (runId : Nat) (f : Entry → Entry)
    (hf : ∀ e, (f e).run = e.run) : Filed (w.editEntry runId f) :=
  h.congr rfl (records_editEntry w runId f hf) rfl rfl rfl

theorem Filed.cut (ph : Phase) : Filed (w.cut ph) := by
  unfold World.cut
  split
  · exact h
  · exact h.editEntry _ _ fun _ => rfl

theorem Filed.enter (c : Call) : Filed { w with calls := w.calls ++ [.entering c] } := by
  constructor
  · exact h.file
  · exact h.fresh
  · exact h.distinct
  · exact h.started
  · intro ph hph t ht
    rcases List.mem_append.mp hph with hph | hph
    · exact h.since ph hph t ht
    · rw [List.mem_singleton] at hph
      subst hph
      cases ht
  · intro ph hph run hrun
    rcases List.mem_append.mp hph with hph | hph
    · exact h.pending ph hph run hrun
    · rw [List.mem_singleton] at hph
      subst hph
      cases hrun
  · intro ph hph run hrun
    rcases List.mem_append.mp hph with hph | hph
    · exact h.recorded ph hph run hrun
    · rw [List.mem_singleton] at hph
      subst hph
      cases hrun

/-- The clock goes on. -/
theorem Filed.tick (n : Nat) : Filed { w with now := w.now + n } := by
  constructor
  · exact h.file
  · exact h.fresh
  · exact h.distinct
  · intro r hr
    exact Nat.le_add_right_of_le (h.started r hr)
  · intro ph hph t ht
    exact Nat.le_add_right_of_le (h.since ph hph t ht)
  · intro ph hph run hrun
    obtain ⟨hstarted, hrest⟩ := h.pending ph hph run hrun
    exact ⟨Nat.le_add_right_of_le hstarted, hrest⟩
  · exact h.recorded

theorem Filed.prepare {c : Call} {now : Nat} {isDefault : Bool} {baseline : List String}
    (target : String) (hp : w.calls[p]? = some (.preparing c now isDefault baseline)) :
    Filed ({ w with nextRun := w.nextRun + 1 }.goTo p
      (.saving ⟨c, newRun w.nextRun c now isDefault target, baseline⟩)) := by
  have hnext : Filed { w with nextRun := w.nextRun + 1 } := by
    constructor
    · exact h.file
    · intro r hr
      exact Nat.lt_succ_of_lt (h.fresh r hr)
    · exact h.distinct
    · exact h.started
    · exact h.since
    · intro ph hph run hrun
      obtain ⟨hstarted, hid, hnew⟩ := h.pending ph hph run hrun
      exact ⟨hstarted, Nat.lt_succ_of_lt hid, hnew⟩
    · exact h.recorded
  apply hnext.goTo p
  · intro t ht
    cases ht
  · intro run hrun
    cases hrun
    refine ⟨h.since _ (List.mem_of_getElem? hp) now rfl, Nat.lt_succ_self _, ?_⟩
    intro hmem
    obtain ⟨r, hr, hid⟩ := List.mem_map.mp hmem
    have hlt := h.fresh r hr
    rw [hid] at hlt
    exact Nat.lt_irrefl _ hlt
  · intro run hrun
    cases hrun

end

/-- **The first record.**  The file gets it at its end. -/
theorem Filed.record (hlocked : Locked w) (h : Filed w) (hp : w.calls[p]? = some (.saving j)) :
    Filed ((w.record j.run).goTo p (.saved j)) := by
  obtain ⟨hstarted, hid, hnew⟩ := h.pending _ (List.mem_of_getElem? hp) j.run rfl
  have hrecords : ((w.record j.run).goTo p (.saved j)).records = w.records ++ [j.run] := by
    show (w.hist.entries ++ [_]).map Entry.run = _
    rw [List.map_append]
    rfl
  have hother := hlocked.others (.saved j) hp rfl
  constructor
  · rw [hrecords]
    show saveRun w.runs j.run = _
    unfold saveRun
    rw [h.file, List.filter_eq_self.mpr, latest_append_latest]
    intro r hr
    simp only [bne_iff_ne, ne_eq]
    intro heq
    exact hnew (heq ▸ List.mem_map_of_mem (latest_subset _ _ hr))
  · rw [hrecords]
    intro r hr
    rcases List.mem_append.mp hr with hr | hr
    · exact h.fresh r hr
    · rw [List.mem_singleton] at hr
      exact hr ▸ hid
  · rw [hrecords, List.map_append, List.nodup_append]
    refine ⟨h.distinct, by simp, ?_⟩
    intro a ha b hb heq
    rw [List.map_singleton, List.mem_singleton] at hb
    exact hnew (hb ▸ heq ▸ ha)
  · rw [hrecords]
    intro r hr
    rcases List.mem_append.mp hr with hr | hr
    · exact h.started r hr
    · rw [List.mem_singleton] at hr
      exact hr ▸ hstarted
  · intro ph hph t ht
    rcases hother ph hph with rfl | ⟨hph, _⟩
    · cases ht
    · exact h.since ph hph t ht
  · intro ph hph run hrun
    rcases hother ph hph with rfl | ⟨_, hout⟩
    · cases hrun
    · rw [inside_of_pending hrun] at hout
      cases hout
  · intro ph hph run hrun
    rw [hrecords, List.getLast?_concat]
    rcases hother ph hph with rfl | ⟨_, hout⟩
    · exact hrun
    · rw [inside_of_recorded hrun] at hout
      cases hout

theorem Filed.split (h : Filed w) (hph : ph ∈ w.calls) (hrun : run ∈ ph.recorded) :
    ∃ older, w.records = older ++ [run] ∧ ∀ r ∈ older, r.runId ≠ run.runId := by
  obtain ⟨older, hrecords⟩ := List.getLast?_eq_some_iff.mp (h.recorded ph hph run hrun)
  refine ⟨older, hrecords, ?_⟩
  intro r hr heq
  have hdistinct := h.distinct
  rw [hrecords, List.map_append, List.nodup_append] at hdistinct
  exact hdistinct.2.2 r.runId (List.mem_map_of_mem hr) run.runId (by simp) heq

/-- **The second record.**  It takes the place of the first one, the last in the file. -/
theorem Filed.saveEnded (hlocked : Locked w) (h : Filed w) {completed ok : Bool}
    (hp : w.calls[p]? = some (.undone j completed ok)) (ph' : Phase) (hsince : ph'.since = none)
    (hpending : ph'.pending = none) (hrecorded : ph'.recorded = none)
    (hid : run.runId = j.run.runId) (hstarted : run.startedAt = j.run.startedAt) :
    Filed (((w.save run).editEntry run.runId fun e => { e with run := run }).goTo p ph') := by
  obtain ⟨older, hsplit, hne⟩ := h.split (List.mem_of_getElem? hp) (Option.mem_some_self j.run)
  have hrecords : (((w.save run).editEntry run.runId fun e =>
      { e with run := run }).goTo p ph').records = older ++ [run] := by
    have hmap : (((w.save run).editEntry run.runId fun e =>
        { e with run := run }).goTo p ph').records =
          w.records.map fun r => if r.runId = run.runId then run else r := by
      show (w.hist.entries.map _).map Entry.run = (w.hist.entries.map Entry.run).map _
      rw [List.map_map, List.map_map]
      apply List.map_congr_left
      intro e _
      simp only [Function.comp_apply]
      split_ifs <;> rfl
    have holder : (older.map fun r => if r.runId = run.runId then run else r) = older := by
      conv_rhs => rw [← List.map_id older]
      apply List.map_congr_left
      intro r hr
      rw [hid]
      exact if_neg (hne r hr)
    rw [hmap, hsplit, List.map_append, holder, List.map_singleton, if_pos hid.symm]
  have hother := hlocked.others ph' hp rfl
  have hlast : ∀ r ∈ older ++ [run], ∃ r₀ ∈ w.records, r.runId = r₀.runId ∧
      r.startedAt = r₀.startedAt := by
    intro r hr
    rw [hsplit]
    rcases List.mem_append.mp hr with hr | hr
    · exact ⟨r, List.mem_append_left _ hr, rfl, rfl⟩
    · rw [List.mem_singleton] at hr
      subst hr
      exact ⟨j.run, by simp, hid, hstarted⟩
  constructor
  · rw [hrecords]
    show saveRun w.runs run = _
    unfold saveRun
    rw [h.file, hsplit]
    apply latest_replace_last 49 older j.run run
    · simp [hid]
    · intro r hr
      simp only [bne_iff_ne, ne_eq, hid]
      exact hne r hr
  · rw [hrecords]
    intro r hr
    obtain ⟨r₀, hr₀, hsame, _⟩ := hlast r hr
    rw [hsame]
    exact h.fresh r₀ hr₀
  · have hdistinct := h.distinct
    rw [hsplit, List.map_append, List.map_singleton] at hdistinct
    rw [hrecords, List.map_append, List.map_singleton, hid]
    exact hdistinct
  · rw [hrecords]
    intro r hr
    obtain ⟨r₀, hr₀, _, hsame⟩ := hlast r hr
    rw [hsame]
    exact h.started r₀ hr₀
  · intro ph hph t ht
    rcases hother ph hph with rfl | ⟨hph, _⟩
    · rw [hsince] at ht
      cases ht
    · exact h.since ph hph t ht
  · intro ph hph run' hrun
    rcases hother ph hph with rfl | ⟨_, hout⟩
    · rw [hpending] at hrun
      cases hrun
    · rw [inside_of_pending hrun] at hout
      cases hout
  · intro ph hph run' hrun
    rcases hother ph hph with rfl | ⟨_, hout⟩
    · rw [hrecorded] at hrun
      cases hrun
    · rw [inside_of_recorded hrun] at hout
      cases hout

theorem Filed.raise (h : Filed w) {refused : Bool} (hp : w.calls[p]? = some ph)
    (hraise : w.raise p ph refused = some w') : Filed w' := by
  unfold World.raise at hraise
  split at hraise
  · cases hraise
  · cases hraise
    exact h.carry _ hp rfl rfl fun _ hrun => hrun
  · cases hraise
    exact h.carry _ hp rfl rfl fun _ hrun => hrun
  · split at hraise
    · cases hraise
      exact (h.cut ph).leave p
    · cases hraise
      exact ((h.cut ph).leave p).setProposal _ _

theorem afterUndo_views (j : Job) (completed : Bool) (attempt : Nat) (succeeded : Bool) :
    (afterUndo j completed attempt succeeded).since = none ∧
      (afterUndo j completed attempt succeeded).pending = none ∧
      (afterUndo j completed attempt succeeded).recorded = some j.run := by
  unfold afterUndo
  split_ifs <;> exact ⟨rfl, rfl, rfl⟩

/-- **The file.**  Every step keeps the last `KEEP_RUNS` records in it. -/
theorem filed_step {faults : List FaultScenario} {l : Label} (hlocked : Locked w) (h : Filed w)
    (hstep : step faults w l = some w') : Filed w' := by
  cases stepped_of_step hstep with
  | runFault clusterId scenarioId scheduled s => exact h.enter _
  | runProposal clusterId key scheduled config s => exact (h.enter _).setProposal _ _
  | @lock p c hp hfree =>
    exact (h.move p (.gating c) rfl rfl rfl).congr rfl rfl rfl rfl rfl
  | refused _ hp _ => exact h.refuse _ _
  | @gate p _ _ _ _ hp _ =>
    apply h.goTo p
    · intro t ht
      cases ht
      exact Nat.le_refl _
    · intro run hrun
      cases hrun
    · intro run hrun
      cases hrun
  | @check p _ _ _ _ baseline hp =>
    apply h.goTo p
    · intro t ht
      exact h.since _ (List.mem_of_getElem? hp) t ht
    · intro run hrun
      cases hrun
    · intro run hrun
      cases hrun
  | prepare target hp => exact h.prepare _ hp
  | save hp => exact h.record hlocked hp
  | @apply p j hp =>
    have hedit : Filed
        (w.editEntry j.run.runId fun e => { e with appliedAt := some w.now }) :=
      h.editEntry _ _ fun _ => rfl
    exact (hedit.carry (.applying j) hp rfl rfl fun _ hrun => hrun).congr
      rfl rfl rfl rfl rfl
  | applied hp => exact h.carry _ hp rfl rfl fun _ hrun => hrun
  | observed hp => exact h.carry _ hp rfl rfl fun _ hrun => hrun
  | @undo p j completed attempt succeeded hp =>
    obtain ⟨hsince, hpending, hrecorded⟩ := afterUndo_views j completed attempt succeeded
    apply h.carry _ hp hsince hpending
    intro run hrun
    rw [hrecorded] at hrun
    exact hrun
  | @saveEnded p j completed ok hp =>
    cases completed with
    | true | false => exact h.saveEnded hlocked hp _ rfl rfl rfl rfl rfl
  | @haltInterrupted p j ok hp =>
    exact (h.move p (.halted j) rfl rfl rfl).congr rfl rfl rfl rfl rfl
  | @recovered p j ok deadline _ recovered hp =>
    have hclosed : Filed (w.close j.run) := h.editEntry _ _ fun _ => rfl
    exact (hclosed.move p (.scored j ok recovered) rfl rfl rfl).congr rfl rfl rfl rfl rfl
  | polled | back => exact h.move _ _ rfl rfl rfl
  | @release p j ok recovered hp =>
    exact (h.move p (.released j ok recovered) rfl rfl rfl).congr rfl rfl rfl rfl rfl
  | @halt p j _ _ hp _ =>
    exact (h.move p (.reporting j) rfl rfl rfl).congr rfl rfl rfl rfl rfl
  | @report p j hp => exact (h.move p .finished rfl rfl rfl).setProposal _ _
  | raise hp hraise => exact h.raise hp hraise
  | kill hp => exact (h.cut _).leave _
  | removeHalt | writeProposals => exact h.congr rfl rfl rfl rfl rfl
  | tick n => exact h.tick n

/-! ## The windows -/

/-- A run's window covers it from its injection up to now, or until it was over. -/
def Entry.Fine (now : Nat) (e : Entry) : Prop :=
  (∀ t ∈ e.overAt, t ≤ now) ∧
    ∀ appliedAt ∈ e.appliedAt, e.run.startedAt ≤ appliedAt ∧
      e.overAt.getD now ≤ e.run.until + holdGrace

/-- The window of every run covers it. -/
def Covered (w : World) : Prop := ∀ e ∈ w.hist.entries, e.Fine w.now

theorem Entry.Fine.getD_le {now : Nat} {e : Entry} (h : e.Fine now) : e.overAt.getD now ≤ now := by
  cases hover : e.overAt with
  | none => exact Nat.le_refl _
  | some t => exact h.1 t hover

theorem Filed.run_eq (h : Filed w) (hph : ph ∈ w.calls) (hrun : run ∈ ph.recorded) {e : Entry}
    (he : e ∈ w.hist.entries) (hid : e.run.runId = run.runId) : e.run = run := by
  obtain ⟨older, hsplit, hne⟩ := h.split hph hrun
  have hmem : e.run ∈ w.records := List.mem_map_of_mem he
  rw [hsplit] at hmem
  rcases List.mem_append.mp hmem with hmem | hmem
  · exact absurd hid (hne _ hmem)
  · exact List.mem_singleton.mp hmem

section

variable (h : Covered w)
include h

theorem Covered.congr (hentries : w'.hist.entries = w.hist.entries)
    (hnow : w'.now = w.now) : Covered w' := by
  unfold Covered
  rw [hentries, hnow]
  exact h

theorem Covered.editEntry {runId : Nat} {f : Entry → Entry}
    (hf : ∀ e ∈ w.hist.entries, e.run.runId = runId → (f e).Fine w.now) :
    Covered (w.editEntry runId f) := by
  intro e he
  obtain ⟨e₀, he₀, rfl⟩ := List.mem_map.mp he
  show Entry.Fine w.now _
  split_ifs with hid
  · exact hf e₀ he₀ hid
  · exact h e₀ he₀

theorem Covered.close (run : Run) : Covered (w.close run) := by
  apply h.editEntry
  intro e he _
  obtain ⟨hover, hcovered⟩ := h e he
  cases hoverAt : e.overAt with
  | none =>
    rw [hoverAt] at hcovered
    constructor
    · intro t ht
      cases ht
      exact Nat.le_refl _
    · exact hcovered
  | some t =>
    rw [hoverAt] at hcovered hover
    exact ⟨hover, hcovered⟩

theorem Covered.cut (ph : Phase) : Covered (w.cut ph) := by
  unfold World.cut
  split
  · exact h
  · exact h.close _

theorem Covered.setProposal (c : Call) (status : ProposalStatus) :
    Covered (w.setProposal c status) := by
  unfold World.setProposal
  split
  · exact h
  · exact h.congr rfl rfl

end

theorem Covered.apply (hfiled : Filed w) (h : Covered w) (hp : w.calls[p]? = some (.saved j))
    (hgrace : w.now ≤ j.run.until + holdGrace) :
    Covered (w.editEntry j.run.runId fun e => { e with appliedAt := some w.now }) := by
  apply h.editEntry
  intro e he hid
  have hrun : e.run = j.run :=
    hfiled.run_eq (List.mem_of_getElem? hp) (Option.mem_some_self j.run) he hid
  refine ⟨(h e he).1, ?_⟩
  intro appliedAt happlied
  cases happlied
  have hstarted : e.run.startedAt ≤ w.now := hfiled.started _ (List.mem_map_of_mem he)
  refine ⟨hstarted, ?_⟩
  have hle : e.overAt.getD w.now ≤ w.now := (h e he).getD_le
  show e.overAt.getD w.now ≤ e.run.until + holdGrace
  rw [hrun]
  omega

theorem Covered.saveEnded (hfiled : Filed w) (h : Covered w) {completed ok : Bool}
    (hp : w.calls[p]? = some (.undone j completed ok)) :
    Covered (w.editEntry j.run.runId fun e =>
      { e with run := { j.run with endedAt := some w.now } }) := by
  apply h.editEntry
  intro e he hid
  have hrun : e.run = j.run :=
    hfiled.run_eq (List.mem_of_getElem? hp) (Option.mem_some_self j.run) he hid
  refine ⟨(h e he).1, ?_⟩
  intro appliedAt happlied
  have hstarted := ((h e he).2 appliedAt happlied).1
  rw [hrun] at hstarted
  refine ⟨hstarted, ?_⟩
  have hle : e.overAt.getD w.now ≤ w.now := (h e he).getD_le
  show e.overAt.getD w.now ≤ w.now + holdGrace
  omega

theorem Covered.record (h : Covered w) (run : Run) : Covered (w.record run) := by
  intro e he
  rcases List.mem_append.mp he with he | he
  · exact h e he
  · rw [List.mem_singleton] at he
    subst he
    constructor
    · intro t ht
      cases ht
    · intro t ht
      cases ht

/-- The clock passes no window before its run is over. -/
theorem Covered.tick (h : Covered w) {n : Nat} (hC : InGrace w (.tick n)) :
    Covered { w with now := w.now + n } := by
  intro e he
  obtain ⟨hover, hcovered⟩ := h e he
  constructor
  · intro t ht
    exact Nat.le_add_right_of_le (hover t ht)
  · intro appliedAt happlied
    obtain ⟨hstarted, huntil⟩ := hcovered appliedAt happlied
    refine ⟨hstarted, ?_⟩
    cases hoverAt : e.overAt with
    | none =>
      apply hC e he _ hoverAt
      rw [Option.mem_def.mp happlied]
      rfl
    | some t =>
      rw [hoverAt] at huntil
      exact huntil

theorem Covered.raise (h : Covered w) {refused : Bool} (hraise : w.raise p ph refused = some w') :
    Covered w' := by
  unfold World.raise at hraise
  split at hraise
  · cases hraise
  · cases hraise
    exact h.congr rfl rfl
  · cases hraise
    exact h.congr rfl rfl
  · have hleft : Covered ((w.cut ph).leave p) := (h.cut ph).congr rfl rfl
    split at hraise
    · cases hraise
      exact hleft
    · cases hraise
      exact hleft.setProposal _ _

/-- **The windows.**  A step that respects them keeps every run covered. -/
theorem covered_step {faults : List FaultScenario} {l : Label} (hfiled : Filed w) (h : Covered w)
    (hC : InGrace w l) (hstep : step faults w l = some w') : Covered w' := by
  cases stepped_of_step hstep with
  | refused _ hp _ =>
    apply Covered.setProposal
    exact h.congr rfl rfl
  | runProposal clusterId key scheduled config s =>
    apply Covered.setProposal
    exact h.congr rfl rfl
  | @save _ j hp => exact (h.record j.run).congr rfl rfl
  | @apply _ j hp =>
    have hgrace : w.now ≤ j.run.until + holdGrace := hC (.saved j) hp j.run rfl
    exact (h.apply hfiled hp hgrace).congr rfl rfl
  | saveEnded hp => exact (h.saveEnded hfiled hp).congr rfl rfl
  | @recovered _ j _ _ _ _ hp => exact (h.close j.run).congr rfl rfl
  | report hp =>
    apply Covered.setProposal
    exact h.congr rfl rfl
  | raise hp hraise => exact h.raise hraise
  | kill hp => exact (h.cut _).congr rfl rfl
  | tick n => exact h.tick hC
  | runFault | lock | gate | check | prepare | applied | observed | undo | haltInterrupted
  | polled | release | back | halt | removeHalt | writeProposals =>
    exact h.congr rfl rfl

/-! ## Runs -/

/-- Runs in the file whose windows cover them hold their Incidents. -/
theorem held_of_covered (hfiled : Filed w) (h : Covered w) : Held w := by
  constructor
  · intro e he appliedAt happlied detectedAt hdetected hover clusterId hcluster
    obtain ⟨hstarted, huntil⟩ := (h e (latest_subset _ _ he)).2 appliedAt happlied
    have hmem : e.run ∈ w.runs := by
      rw [hfiled.file, World.records, ← map_latest]
      exact List.mem_map_of_mem he
    apply holdingRun_isSome hmem
    simp only [covers, hcluster, Bool.true_and, Bool.and_eq_true, decide_eq_true_eq]
    exact ⟨by omega, by omega⟩
  · intro clusterId detectedAt run hrun
    have hcovers := (covers_of_holdingRun hrun).2
    simp only [covers, Bool.and_eq_true, decide_eq_true_eq] at hcovers
    exact ⟨hcovers.1.2, hcovers.1.1⟩

theorem filed_initial (now : Nat) (proposals : List Proposal) :
    Filed (World.initial now proposals) := by
  constructor
  · rfl
  · intro r hr
    cases hr
  · exact List.nodup_nil
  · intro r hr
    cases hr
  · intro ph hph
    cases hph
  · intro ph hph
    cases hph
  · intro ph hph
    cases hph

/-- **Incidents of the lab are held.**  In every run of calls in which no fault is applied
after the window of its run with `HOLD_GRACE`, and the clock does not pass it before
`_recover` has ended, `holding_run` returns a run for every Incident of the lab cluster
detected between the injection and the end of `_recover` of one of the last `KEEP_RUNS`
runs, and never one that had not started or that is on another cluster. -/
theorem held_of_inGrace (faults : List FaultScenario) (now : Nat) (proposals : List Proposal)
    (labels : List Label) (h : (lab faults).Meets InGrace (World.initial now proposals) labels) :
    (lab faults).Always (fun _ _ w' => Held w') (World.initial now proposals) labels := by
  apply (lab faults).always_of_meets _ InGrace
    (fun w => Locked w ∧ Filed w ∧ Covered w) _ labels _ _ h
  · intro w l w' ⟨hlocked, hfiled, hcovered⟩ hC hstep
    have hfiled' : Filed w' := filed_step hlocked hfiled hstep
    have hcovered' : Covered w' := covered_step hfiled hcovered hC hstep
    exact ⟨held_of_covered hfiled' hcovered', locked_step hlocked hstep, hfiled', hcovered'⟩
  · refine ⟨locked_initial now proposals, filed_initial now proposals, ?_⟩
    intro e he
    cases he

/-- Ten minutes of recovery, and an hour more. -/
def recoveredRun : List Label :=
  upToSave osdNearfull.id 0 ++ faultAndUndo 0 ++
    [.tick (seconds 600), .poll 0 (some (true, [])), .tick (seconds 3600)]

/-- An Incident detected at the end of the recovery is held. -/
theorem held_after_recovery :
    ((lab [osdNearfull]).run (World.initial 0 []) recoveredRun).map
        (fun w => (w.now, w.hist.entries.map Entry.overAt)) =
        some (seconds 4200, [some (seconds 600)]) ∧
      (lab [osdNearfull]).Always (fun _ _ w' => Held w') (World.initial 0 []) recoveredRun :=
  ⟨by decide, held_of_inGrace [osdNearfull] 0 [] recoveredRun (by decide)⟩

/-- An entry with the longest recovery that `_scenario` admits. -/
def slowRecovery : RawFault where
  id := "osd_slow_fault"
  kind := some "stop_osd"
  expectFrom := "osd_down"
  expectedHealthCodes := ["OSD_DOWN"]
  maxSeconds := some 300
  recoverySeconds := some 1800
  detectionTimeoutSeconds := none

/-- It is admitted. -/
def slowFault : FaultScenario where
  id := "osd_slow_fault"
  kind := .stopOsd
  expectFrom := "osd_down"
  expectedHealthCodes := ["OSD_DOWN"]
  maxSeconds := 300
  recoverySeconds := 1800
  detectionTimeoutSeconds := 180
  inRange := by decide

/-- The fault is undone at once, and `_recover` polls. -/
def recoveringRun : List Label := upToSave slowFault.id 0 ++ faultAndUndo 0

/-- **A recovery that outlasts the grace**: an Incident detected in its seventeenth minute is
not held. -/
theorem recovery_outlasts_grace :
    scenario slowRecovery = .ok slowFault ∧
      ¬ (lab [slowFault]).Always (fun _ _ w' => Held w') (World.initial 0 [])
        (recoveringRun ++ [.tick (seconds 1000)]) := by
  refine ⟨rfl, ?_⟩
  intro h
  have hrun : (lab [slowFault]).run (World.initial 0 []) recoveringRun =
      some (((lab [slowFault]).run (World.initial 0 []) recoveringRun).getD
        (World.initial 0 [])) := by
    rfl
  have hheld := (h.step_after rfl recoveringRun _ hrun).1
  have hsome := hheld _ List.mem_cons_self 0 rfl (seconds 1000) (by decide) (by decide)
    (some "lab") (by decide)
  revert hsome
  decide

end CephAi.Ports.FailureLab
