import CephAi.Ports.OnlineLearnerRows

/-!
# Runs of the online learner

A sample updates the learner once at most, and the saved state is what the applied values
make of it in the order of their commits.

A scan holds the process lock, so there is one at most.  What its session has read stays
true until it commits: other processes only add labels, and a label that one adds for
the sample of an attempt makes one of the two commits fail.

## Main results

* `Inv.commit` — what a commit keeps when the tables keep `Rows`.
* `inv_step` — what a step of any process keeps.
* `applied_once` — what holds in every run.
-/

namespace CephAi.Ports.OnlineLearner

open Verified.Runs

variable {F : Type} {R : River F} (start : Start R) {log : List (Commit F)} {db db' : Db F}
  {pending : Pending F} {status : LabelStatus} {rows : List Identity} {id : Identity} {label : F}
  {gates : Gates} {b : Bool} {a : Audit F}

/-! ## What others have read -/

/-- The audit rows without a label stay as they are, and the labels stay. -/
def Keeps (db db' : Db F) : Prop :=
  ∀ id a, db.audits id = some a → ∃ a', db'.audits id = some a' ∧
    (db'.labels id = none → db.labels id = none ∧ a' = a)

theorem Keeps.refl (db : Db F) : Keeps db db := by
  intro id a ha
  exact ⟨a, ha, fun hnone => ⟨hnone, rfl⟩⟩

theorem Keeps.trans {db'' : Db F} (h : Keeps db db') (h' : Keeps db' db'') : Keeps db db'' := by
  intro id a ha
  obtain ⟨a', ha', hsame⟩ := h id a ha
  obtain ⟨a'', ha'', hsame'⟩ := h' id a' ha'
  refine ⟨a'', ha'', ?_⟩
  intro hnone
  obtain ⟨hnone', rfl⟩ := hsame' hnone
  exact hsame hnone'

theorem Awaits.keeps (h : Awaits R db pending) (hkeeps : Keeps db db') : Awaits R db' pending := by
  intro e he
  obtain ⟨hpercent, a, ha, hnew⟩ := h e he
  obtain ⟨a', ha', hsame⟩ := hkeeps e.1 a ha
  refine ⟨hpercent, a', ha', ?_⟩
  intro hnone
  obtain ⟨hnone', rfl⟩ := hsame hnone
  exact hnew hnone'

theorem Awaits.nil (db : Db F) : Awaits R db [] := by
  intro e he
  cases he

/-- One more label, as `enqueue_verified_outcomes` adds it. -/
theorem Awaits.concat (h : Awaits R db pending) {e : Identity × F}
    (he : enqueueable R db pending e = true) : Awaits R db (pending ++ [e]) := by
  intro d hd
  rcases List.mem_append.mp hd with hin | hlast
  · exact h d hin
  · rw [List.mem_singleton.mp hlast]
    unfold enqueueable at he
    rw [Bool.and_eq_true, Bool.and_eq_true] at he
    obtain ⟨⟨hpercent, -⟩, haudit⟩ := he
    obtain ⟨a, ha, hchecks⟩ := (Option.any_eq_true _ _).mp haudit
    rw [Bool.and_eq_true, Bool.and_eq_true] at hchecks
    refine ⟨hpercent, a, ha, ?_⟩
    intro _
    exact ⟨Option.isNone_iff_eq_none.mp hchecks.1.2, by simpa using hchecks.2⟩

theorem keeps_withLabels (hconflicts : db.conflicts pending = false) :
    Keeps db (db.withLabels pending) := by
  intro id a ha
  refine ⟨a, ha, ?_⟩
  intro hnone
  refine ⟨?_, rfl⟩
  cases hl : db.labels id with
  | none => rfl
  | some l =>
    rw [withLabels_of_labels hconflicts hl] at hnone
    cases hnone

theorem keeps_mark : Keeps db (db.mark status rows) := by
  intro id a ha
  refine ⟨a, ha, ?_⟩
  intro hnone
  refine ⟨?_, rfl⟩
  by_cases hid : id ∈ rows
  · rw [labels_mark_of_mem hid] at hnone
    exact Option.map_eq_none_iff.mp hnone
  · rw [labels_mark_of_not_mem hid] at hnone
    exact hnone

theorem keeps_attempt (hlabel : db.labels id ≠ none) : Keeps db (db.attempt id label gates b) := by
  intro j a ha
  by_cases hj : j = id
  · subst hj
    exact ⟨_, audits_attempt_self ha, fun hnone => absurd hnone hlabel⟩
  · refine ⟨a, ?_, fun hnone => ⟨hnone, rfl⟩⟩
    rw [audits_attempt_other hj]
    exact ha

theorem keeps_save {s : Stream} {m : Mean F} : Keeps db (db.save s m) := by
  intro j a ha
  exact ⟨a, ha, fun hnone => ⟨hnone, rfl⟩⟩

theorem Inserted.keeps (hin : Inserted id a db db') : Keeps db db' := by
  intro j o ho
  refine ⟨o, ?_, ?_⟩
  · have hj : j ≠ id := by
      intro heq
      rw [heq, hin.fresh] at ho
      cases ho
    rw [hin.audits_other j hj]
    exact ho
  · rw [hin.labels]
    exact fun hnone => ⟨hnone, rfl⟩

/-! ## What a session has read -/

/-- A label that is tried: it is `READY`, or the session has added it. -/
def Attempt (R : River F) (db : Db F) (pending : Pending F) (id : Identity) (label : F) : Prop :=
  R.isPercent label = true ∧ (db.HasStatus .ready id ∨ ∃ e ∈ pending, e.1 = id)

/-- What a scan relies on at a point. -/
def PointOk (R : River F) (db : Db F) : Point F → Prop
  | .between => True
  | .retiring rows => ∀ id ∈ rows, db.retirable id = true
  | .reconciling _ s pending | .looked _ s pending _ _ =>
    Awaits R db pending ∧ R.isPercent s.value = true
  | .labelled id pending label => Awaits R db pending ∧ Attempt R db pending id label
  | .retrying id pending label learner reset =>
    Awaits R db pending ∧ Attempt R db pending id label ∧
      (learner, reset) = load R (db.states id.stream)
  | .observing id s pending _ learner reset =>
    Awaits R db pending ∧ R.isPercent s.value = true ∧
      (learner, reset) = load R (db.states id.stream)

theorem hasStatus_ready_withLabels (hconflicts : db.conflicts pending = false)
    (h : Attempt R db pending id label) : (db.withLabels pending).HasStatus .ready id := by
  rcases h.2 with ⟨l, hl, hready⟩ | ⟨e, he, heq⟩
  · exact ⟨l, withLabels_of_labels hconflicts hl, hready⟩
  · unfold Db.HasStatus Db.withLabels
    dsimp only
    cases hfind : pending.find? fun e => e.1 = id with
    | none => exact absurd (decide_eq_true heq) (List.find?_eq_none.mp hfind e he)
    | some d => exact ⟨_, rfl, rfl⟩

theorem attempt_of_readyLabel {start : Start R} (h : Rows start db log)
    (hawaits : Awaits R db pending) (hlabel : (db.withLabels pending).readyLabel id = some label) :
    Attempt R db pending id label := by
  obtain ⟨l, hl, hready, rfl⟩ := readyLabel_eq_some hlabel
  rcases labels_withLabels hl with ⟨e, he, rfl, rfl⟩ | hbefore
  · exact ⟨(hawaits e he).1, Or.inr ⟨e, he, rfl⟩⟩
  · exact ⟨(h.ready id l hbefore hready).1, Or.inl ⟨l, hbefore, hready⟩⟩

theorem PointOk.withLabels {others : Pending F} (hconflicts : db.conflicts others = false)
    {pt : Point F} (h : PointOk R db pt) : PointOk R (db.withLabels others) pt := by
  have hkeeps := keeps_withLabels hconflicts
  have hattempt : ∀ {pending : Pending F} {id : Identity} {label : F},
      Attempt R db pending id label → Attempt R (db.withLabels others) pending id label := by
    intro pending id label hbefore
    refine ⟨hbefore.1, ?_⟩
    rcases hbefore.2 with ⟨l, hl, hready⟩ | hpending
    · exact Or.inl ⟨l, withLabels_of_labels hconflicts hl, hready⟩
    · exact Or.inr hpending
  cases pt with
  | between => exact trivial
  | retiring rows =>
    intro id hid
    have hbefore := h id hid
    unfold Db.retirable at hbefore ⊢
    rw [Bool.and_eq_true] at hbefore ⊢
    refine ⟨?_, hbefore.2⟩
    obtain ⟨v, hv⟩ := Option.isSome_iff_exists.mp hbefore.1
    obtain ⟨l, hl, hready, -⟩ := readyLabel_eq_some hv
    unfold Db.readyLabel
    rw [withLabels_of_labels hconflicts hl]
    dsimp only
    rw [if_pos hready]
    rfl
  | reconciling | looked | observing => exact ⟨h.1.keeps hkeeps, h.2⟩
  | labelled id pending label => exact ⟨h.1.keeps hkeeps, hattempt h.2⟩
  | retrying id pending label learner reset =>
    exact ⟨h.1.keeps hkeeps, hattempt h.2.1, h.2.2⟩

/-! ## The invariant -/

/-- A scan is of the process with the lock, and what it has read is true; so is what others have
added. -/
structure Inv (start : Start R) (w : World F) : Prop where
  held : ∀ p scan, w.scans p = some scan → w.lock = some p
  queues : ∀ p scan, w.scans p = some scan → ∀ s ∈ scan.queue, R.isPercent s.value = true
  points : ∀ p scan, w.scans p = some scan → PointOk R w.db scan.point
  outside : ∀ e, Awaits R w.db (w.outside e)
  rows : Rows start w.db w.log

variable {start} {w : World F} {p : Nat} {queue : List (Sample F)} {point : Point F}

variable {learner : Mean F} {scan' : Scan F} {w' : World F}

variable {q : Nat}

theorem scans_setScan {scan : Option (Scan F)} (h : (w.setScan p scan).scans q = some scan') :
    q = p ∧ scan = some scan' ∨ w.scans q = some scan' := by
  by_cases hq : q = p
  · exact Or.inl ⟨hq, (if_pos hq).symm.trans h⟩
  · exact Or.inr ((if_neg hq).symm.trans h)

theorem Inv.setScan (h : Inv start w) (hlock : w.lock = some p)
    (hqueue : ∀ s ∈ queue, R.isPercent s.value = true) (hpoint : PointOk R w.db point) :
    Inv start (w.setScan p (some ⟨queue, point⟩)) where
  held := by
    intro q scan' hscan
    rcases scans_setScan hscan with ⟨rfl, -⟩ | hother
    · exact hlock
    · exact h.held q scan' hother
  queues := by
    intro q scan' hscan
    rcases scans_setScan hscan with ⟨-, heq⟩ | hother
    · rw [← Option.some.inj heq]
      exact hqueue
    · exact h.queues q scan' hother
  points := by
    intro q scan' hscan
    rcases scans_setScan hscan with ⟨-, heq⟩ | hother
    · rw [← Option.some.inj heq]
      exact hpoint
    · exact h.points q scan' hother
  outside := h.outside
  rows := h.rows

theorem scans_endScan (h : (w.setScan p none).scans q = some scan') : w.scans q = some scan' := by
  rcases scans_setScan h with ⟨-, heq⟩ | hother
  · cases heq
  · exact hother

section

variable (h : Inv start w)
include h

theorem Inv.endScan (p : Nat) : Inv start (w.setScan p none) where
  held := fun q scan' hscan => h.held q scan' (scans_endScan hscan)
  queues := fun q scan' hscan => h.queues q scan' (scans_endScan hscan)
  points := fun q scan' hscan => h.points q scan' (scans_endScan hscan)
  outside := h.outside
  rows := h.rows

section

variable (hlock : w.lock = some p)
include hlock

theorem Inv.only (hq : q ≠ p) : w.scans q ≠ some scan' := by
  intro hscan
  have hheld := h.held q scan' hscan
  rw [hlock] at hheld
  exact hq (Option.some.inj hheld).symm

theorem Inv.commit
    (hqueue : ∀ s ∈ queue, R.isPercent s.value = true) (hawaits : Awaits R w.db pending)
    {change : Db F → Option (Db F)} {entry : Commit F}
    (hchange : ∀ db, w.db.conflicts pending = false →
      Rows start (w.db.withLabels pending) w.log → change (w.db.withLabels pending) = some db →
      Rows start db (w.log ++ [entry]) ∧ Keeps (w.db.withLabels pending) db) :
    Inv start (w.commit p queue pending change entry) := by
  have hrest : Inv start (w.setScan p (some ⟨queue, .between⟩)) :=
    h.setScan hlock hqueue trivial
  unfold World.commit
  dsimp only
  split
  · exact hrest
  · rename_i hconflicts
    rw [Bool.not_eq_true] at hconflicts
    split
    · exact hrest
    · rename_i db hdb
      obtain ⟨hrows, hkeeps⟩ := hchange db hconflicts (h.rows.withLabels hawaits hconflicts) hdb
      refine ⟨hrest.held, hrest.queues, ?_, ?_, hrows⟩
      · intro q scan' hscan
        by_cases hq : q = p
        · rw [← Option.some.inj ((if_pos hq).symm.trans hscan)]
          exact trivial
        · exact absurd ((if_neg hq).symm.trans hscan) (h.only hlock hq)
      · intro e
        exact (h.outside e).keeps ((keeps_withLabels hconflicts).trans hkeeps)

/-! ## The ends of sessions -/

theorem Inv.commitLabels (hqueue : ∀ s ∈ queue, R.isPercent s.value = true)
    (hawaits : Awaits R w.db pending) : Inv start (w.commit p queue pending some {}) := by
  apply h.commit hlock hqueue hawaits
  intro db _ hrows hdb
  rw [← Option.some.inj hdb]
  exact ⟨hrows.nothing, Keeps.refl _⟩

end

theorem Inv.loaded (s : Stream) :
    load R (w.db.states s) = (R.learned (learnedValues start w.log s), false) := by
  rw [h.rows.states s]
  apply load_stateOf
  intro x hx
  rcases List.mem_append.mp hx with hstart | hlog
  · exact start.percent s x hstart
  · exact h.rows.percent s x hlog

end

theorem guardedUpdate_applied {m : Mean F} {value : F} {runtime : Runtime} {target : Target}
    {quality : Quality} (h : guardedUpdate R learner value runtime target quality = .applied m) :
    m = R.update learner value := by
  unfold guardedUpdate at h
  split at h
  · cases h
  · split at h
    · cases h
    · split at h
      · cases h
      · cases h
        rfl

theorem Inv.writeRetry (h : Inv start w) (hlock : w.lock = some p)
    (hqueue : ∀ s ∈ queue, R.isPercent s.value = true) {reset : Bool}
    (hpoint : PointOk R w.db (.retrying id pending label learner reset)) (gates : Gates) :
    Inv start (w.writeRetry R p queue id pending label learner reset gates) := by
  obtain ⟨hawaits, hattempt, hload⟩ := hpoint
  rw [h.loaded] at hload
  obtain ⟨rfl, rfl⟩ := Prod.mk.inj hload
  unfold World.writeRetry
  dsimp only
  split
  · exact h.setScan hlock hqueue trivial
  · apply h.commit hlock hqueue hawaits
    intro db hconflicts hrows hdb
    have hready := hasStatus_ready_withLabels hconflicts hattempt
    have hlabel := labels_ne_none hready
    rw [← Option.some.inj hdb]
    exact ⟨hrows.attempted hready, (keeps_attempt hlabel).trans keeps_mark⟩
  · rename_i m hupdate
    apply h.commit hlock hqueue hawaits
    intro db hconflicts hrows hdb
    have hready := hasStatus_ready_withLabels hconflicts hattempt
    have hlabel := labels_ne_none hready
    rw [← Option.some.inj hdb, guardedUpdate_applied hupdate]
    refine ⟨hrows.labelled hready hattempt.1, Keeps.trans (keeps_save (s := id.stream)
      (m := R.update (R.learned (learnedValues start w.log id.stream)) label)) ?_⟩
    exact Keeps.trans (keeps_attempt hlabel) keeps_mark

theorem Inv.writeObserved (h : Inv start w) (hlock : w.lock = some p)
    (hqueue : ∀ s ∈ queue, R.isPercent s.value = true) {s : Sample F} {policyPaused : Bool}
    {reset : Bool} (hpoint : PointOk R w.db (.observing id s pending policyPaused learner reset))
    (gates : Gates) :
    Inv start (w.writeObserved R p queue id s pending policyPaused learner reset gates) := by
  obtain ⟨hawaits, hvalue, hload⟩ := hpoint
  rw [h.loaded] at hload
  obtain ⟨rfl, rfl⟩ := Prod.mk.inj hload
  unfold World.writeObserved
  dsimp only
  split
  · exact h.setScan hlock hqueue trivial
  · apply h.commit hlock hqueue hawaits
    intro db _ hrows hdb
    exact ⟨hrows.observedOnly hdb hvalue rfl, (inserted_insertAudit hdb).keeps⟩
  · rename_i m hupdate
    apply h.commit hlock hqueue hawaits
    intro db _ hrows hdb
    rw [guardedUpdate_applied hupdate] at hdb
    exact ⟨hrows.observed hdb hvalue rfl, (inserted_save hdb).keeps⟩

/-! ## Steps -/

theorem sweepable_percent (h : Rows start db log) {s : Sample F}
    (hs : db.sweepable id = some s) : R.isPercent s.value = true := by
  unfold Db.sweepable at hs
  split at hs
  · rename_i a _ ha
    split at hs
    · cases hs
    · rw [← Option.some.inj hs]
      exact h.values id a ha
  · cases hs

section

variable (h : Inv start w)
include h

/-- Another session is changed and the tables stay. -/
theorem Inv.setOutside {e : Nat} (hpending : Awaits R w.db pending) :
    Inv start (w.setOutside e pending) where
  held := h.held
  queues := h.queues
  points := h.points
  outside := by
    intro d
    unfold World.setOutside
    dsimp only
    split
    · exact hpending
    · exact h.outside d
  rows := h.rows

theorem Inv.commitOutside {e : Nat} (hconflicts : w.db.conflicts (w.outside e) = false) :
    Inv start { w.setOutside e [] with db := w.db.withLabels (w.outside e) } where
  held := h.held
  queues := h.queues
  points := fun q scan' hscan => (h.points q scan' hscan).withLabels hconflicts
  outside := by
    intro d
    show Awaits R (w.db.withLabels (w.outside e)) (if d = e then [] else w.outside d)
    split
    · exact Awaits.nil _
    · exact (h.outside d).keeps (keeps_withLabels hconflicts)
  rows := h.rows.withLabels (h.outside e) hconflicts

/-- A process ends; its session is rolled back. -/
theorem Inv.exit (p : Nat) :
    Inv start { w.setScan p none with lock := if w.lock = some p then none else w.lock } where
  held := by
    intro q scan' hscan
    have hq : q ≠ p := by
      intro heq
      rw [heq] at hscan
      cases (if_pos rfl).symm.trans hscan
    have hlock := h.held q scan' (scans_endScan hscan)
    show (if w.lock = some p then none else w.lock) = some q
    rw [hlock, if_neg (fun heq => hq (Option.some.inj heq))]
  queues := (h.endScan p).queues
  points := (h.endScan p).points
  outside := h.outside
  rows := h.rows

theorem Inv.lockTaken (p : Nat) :
    Inv start (if w.lock = none then { w with lock := some p } else w) := by
  split
  · rename_i hnone
    refine ⟨?_, h.queues, h.points, h.outside, h.rows⟩
    intro q scan' hscan
    have hlock := h.held q scan' hscan
    rw [hnone] at hlock
    cases hlock
  · exact h

/-- A sample of the batch is taken. -/
theorem Inv.takeStep {default : Option String} {goesOn : Bool}
    (hstep : step R w (.take p default goesOn) = some w') : Inv start w' := by
  simp only [step] at hstep
  split at hstep
  · rename_i s queue hscan
    have hlock := h.held p _ hscan
    have hqueue := h.queues p _ hscan
    have hrest : ∀ o ∈ queue, R.isPercent o.value = true :=
      fun o ho => hqueue o (List.mem_cons_of_mem s ho)
    split at hstep
    · rw [← Option.some.inj hstep]
      exact h.setScan hlock hrest ⟨Awaits.nil _, hqueue s List.mem_cons_self⟩
    · rw [← Option.some.inj hstep]
      exact h.setScan hlock hrest trivial
  · cases hstep

theorem Inv.readLabelStep (hstep : step R w (.readLabel p) = some w') : Inv start w' := by
  simp only [step] at hstep
  split at hstep
  · rename_i queue id s pending policyPaused existing hscan
    have hlock := h.held p _ hscan
    have hqueue := h.queues p _ hscan
    obtain ⟨hawaits, -⟩ := h.points p _ hscan
    split at hstep
    · rename_i label hlabel
      split at hstep
      · rw [← Option.some.inj hstep]
        exact h.commitLabels hlock hqueue hawaits
      · rw [← Option.some.inj hstep]
        exact h.setScan hlock hqueue ⟨hawaits, attempt_of_readyLabel h.rows hawaits hlabel⟩
    · rw [← Option.some.inj hstep]
      exact h.commitLabels hlock hqueue hawaits
  · cases hstep

/-- The scan has measured. -/
theorem Inv.observeStep {samples : List (Sample F)}
    (hstep : step R w (.observe p samples) = some w') : Inv start w' := by
  simp only [step] at hstep
  split at hstep
  · rename_i hscan
    have hlock := h.held p _ hscan
    split at hstep
    · rename_i hpercent
      rw [← Option.some.inj hstep]
      exact h.setScan hlock (List.all_eq_true.mp hpercent) trivial
    · cases hstep
  · cases hstep

theorem Inv.retireStep {rows : List Identity}
    (hstep : step R w (.retire p rows) = some w') : Inv start w' := by
  simp only [step] at hstep
  split at hstep
  · rename_i hscan
    have hlock := h.held p _ hscan
    rw [← Option.some.inj hstep]
    apply h.setScan hlock
    · intro s hs
      cases hs
    · intro id hid
      exact (List.mem_filter.mp hid).2
  · cases hstep

/-- It commits. -/
theorem Inv.retiredStep (hstep : step R w (.retired p) = some w') : Inv start w' := by
  simp only [step] at hstep
  split at hstep
  · rename_i queue rows hscan
    have hlock := h.held p _ hscan
    have hqueue := h.queues p _ hscan
    have hpoint := h.points p _ hscan
    rw [← Option.some.inj hstep]
    apply h.commit hlock hqueue (Awaits.nil _)
    intro db _ hrows hdb
    rw [← Option.some.inj hdb]
    exact ⟨hrows.retired hpoint, keeps_mark⟩
  · cases hstep

theorem Inv.sweepStep {rows : List Identity}
    (hstep : step R w (.sweep p rows) = some w') : Inv start w' := by
  simp only [step] at hstep
  split at hstep
  · rename_i hscan
    have hlock := h.held p _ hscan
    rw [← Option.some.inj hstep]
    apply h.setScan hlock
    · intro s hs
      obtain ⟨id, -, hid⟩ := List.mem_filterMap.mp hs
      exact sweepable_percent h.rows hid
    · exact trivial
  · cases hstep

theorem Inv.enqueueStep {label : Identity × F}
    (hstep : step R w (.enqueue p label) = some w') : Inv start w' := by
  simp only [step] at hstep
  split at hstep
  · rename_i queue id s pending hscan
    have hlock := h.held p _ hscan
    have hqueue := h.queues p _ hscan
    have hpoint := h.points p _ hscan
    split at hstep
    · rename_i hlabel
      obtain ⟨hawaits, hvalue⟩ := hpoint
      rw [← Option.some.inj hstep]
      exact h.setScan hlock hqueue ⟨hawaits.concat hlabel, hvalue⟩
    · cases hstep
  · cases hstep

theorem Inv.loadStep (hstep : step R w (.load p) = some w') : Inv start w' := by
  simp only [step] at hstep
  split at hstep
  · rename_i queue id pending label hscan
    have hlock := h.held p _ hscan
    have hqueue := h.queues p _ hscan
    have hpoint := h.points p _ hscan
    obtain ⟨hawaits, hattempt⟩ := hpoint
    rw [← Option.some.inj hstep]
    exact h.setScan hlock hqueue ⟨hawaits, hattempt, rfl⟩
  · rename_i queue id s pending policyPaused hscan
    have hlock := h.held p _ hscan
    have hqueue := h.queues p _ hscan
    have hpoint := h.points p _ hscan
    obtain ⟨hawaits, hvalue⟩ := hpoint
    rw [← Option.some.inj hstep]
    exact h.setScan hlock hqueue ⟨hawaits, hvalue, rfl⟩
  · cases hstep

/-- The session ends. -/
theorem Inv.writeStep {gates : Gates}
    (hstep : step R w (.write p gates) = some w') : Inv start w' := by
  simp only [step] at hstep
  split at hstep
  · rename_i queue id pending label learner reset hscan
    have hlock := h.held p _ hscan
    have hqueue := h.queues p _ hscan
    have hpoint := h.points p _ hscan
    rw [← Option.some.inj hstep]
    exact h.writeRetry hlock hqueue hpoint gates
  · rename_i queue id s pending policyPaused learner reset hscan
    have hlock := h.held p _ hscan
    have hqueue := h.queues p _ hscan
    have hpoint := h.points p _ hscan
    rw [← Option.some.inj hstep]
    exact h.writeObserved hlock hqueue hpoint gates
  · cases hstep

theorem inv_step {act : Act F} (hstep : step R w act = some w') : Inv start w' := by
  cases act with
  | start p =>
    simp only [step] at hstep
    rw [← Option.some.inj hstep]
    exact h.lockTaken p
  | exit p =>
    simp only [step] at hstep
    rw [← Option.some.inj hstep]
    exact h.exit p
  | tick p =>
    simp only [step] at hstep
    split at hstep
    · rename_i hfree
      rw [← Option.some.inj hstep]
      exact h.setScan hfree.1 (fun s hs => (nomatch hs)) trivial
    · cases hstep
  | finish p =>
    simp only [step] at hstep
    split at hstep
    · rw [← Option.some.inj hstep]
      exact h.endScan p
    · cases hstep
  | observe p samples => exact h.observeStep hstep
  | retire p rows => exact h.retireStep hstep
  | retired p => exact h.retiredStep hstep
  | sweep p rows => exact h.sweepStep hstep
  | skip p =>
    simp only [step] at hstep
    split at hstep
    · rename_i hscan
      have hlock := h.held p _ hscan
      rw [← Option.some.inj hstep]
      exact h.setScan hlock (fun s hs => (nomatch hs)) trivial
    · cases hstep
  | take p default goesOn => exact h.takeStep hstep
  | enqueue p label => exact h.enqueueStep hstep
  | look p policyPaused =>
    simp only [step] at hstep
    split at hstep
    · rename_i queue id s pending hscan
      have hlock := h.held p _ hscan
      have hqueue := h.queues p _ hscan
      have hpoint := h.points p _ hscan
      rw [← Option.some.inj hstep]
      exact h.setScan hlock hqueue hpoint
    · cases hstep
  | readLabel p => exact h.readLabelStep hstep
  | load p => exact h.loadStep hstep
  | write p gates => exact h.writeStep hstep
  | fail p =>
    simp only [step] at hstep
    split at hstep
    · rename_i queue point hscan
      have hlock := h.held p _ hscan
      have hqueue := h.queues p _ hscan
      rw [← Option.some.inj hstep]
      exact h.setScan hlock hqueue trivial
    · cases hstep
  | propose e label =>
    simp only [step] at hstep
    split at hstep
    · rename_i hlabel
      rw [← Option.some.inj hstep]
      exact h.setOutside ((h.outside e).concat hlabel)
    · cases hstep
  | commitOutside e =>
    simp only [step] at hstep
    split at hstep
    · rw [← Option.some.inj hstep]
      exact h.setOutside (Awaits.nil _)
    · rename_i hconflicts
      rw [← Option.some.inj hstep]
      exact h.commitOutside (Bool.not_eq_true _ ▸ hconflicts)
  | abandon e =>
    simp only [step] at hstep
    rw [← Option.some.inj hstep]
    exact h.setOutside (Awaits.nil _)

end

/-! ## Runs -/

theorem inv_start (start : Start R) : Inv start start.world where
  held := by
    intro p scan hscan
    cases hscan
  queues := by
    intro p scan hscan
    cases hscan
  points := by
    intro p scan hscan
    cases hscan
  outside := fun _ => Awaits.nil _
  rows := {
    values := start.values
    ready := by
      intro id l hl hready
      obtain ⟨hpercent, a, ha, hnot⟩ := start.ready id l hl hready
      exact ⟨hpercent, a, ha, hnot, fun hlabel => ⟨a, ha, hlabel, hnot⟩⟩
    applied := fun id => Nat.zero_add _
    consumedSaved := by
      intro c hc
      cases hc
    consumed := fun id hid => Or.inl hid
    skippedRefused := by
      intro c hc
      cases hc
    skipped := fun id hid => Or.inl hid
    percent := by
      intro s x hx
      cases hx
    states := by
      intro s
      show start.db.states s = stateOf R (start.history s ++ [])
      rw [List.append_nil]
      exact start.states s }

theorem appliedCount_le (id : Identity) (db : Db F) : db.appliedCount id ≤ 1 := by
  unfold Db.appliedCount
  split
  · exact Nat.le_refl 1
  · exact Nat.zero_le 1

theorem Rows.consumedCount_le (h : Rows start db log) (id : Identity) :
    consumedCount id log ≤ savedCount id log := by
  apply List.countP_mono_left
  intro c hc hconsumed
  obtain ⟨v, hv⟩ := h.consumedSaved c hc id (of_decide_eq_true hconsumed)
  rw [hv]
  exact decide_eq_true rfl

/-- What is asked of the learner: a sample is saved once at most, and not when it was in the
learner before; a label is consumed once at most, in the commit that saves its sample, and
skipped when its sample was tried and refused; the states are what the values saved
make of them in the order of the commits. -/
structure AppliedOnce (start : Start R) (w : World F) : Prop where
  saved : ∀ id, savedCount id w.log + start.db.appliedCount id ≤ 1
  applied : ∀ id, savedCount id w.log + start.db.appliedCount id = w.db.appliedCount id
  consumedOnce : ∀ id, consumedCount id w.log ≤ 1
  consumedSaved : ∀ c ∈ w.log, ∀ id, c.consumed = some id → ∃ v, c.saved = some (id, v)
  consumed : ∀ id, w.db.HasStatus .consumed id →
    start.db.HasStatus .consumed id ∨ ∃ c ∈ w.log, c.consumed = some id
  skippedRefused : ∀ c ∈ w.log, ∀ id ∈ c.skipped, c.refused = some id ∨ start.db.Refused id
  skipped : ∀ id, w.db.HasStatus .skipped id →
    start.db.HasStatus .skipped id ∨ ∃ c ∈ w.log, id ∈ c.skipped
  states : ∀ s, w.db.states s = stateOf R (start.history s ++ savedValues s w.log)

theorem AppliedOnce.of_inv (h : Inv start w) : AppliedOnce start w where
  saved := by
    intro id
    have happlied := h.rows.applied id
    have hle := appliedCount_le id w.db
    omega
  applied := h.rows.applied
  consumedOnce := by
    intro id
    have hconsumed := h.rows.consumedCount_le id
    have happlied := h.rows.applied id
    have hle := appliedCount_le id w.db
    omega
  consumedSaved := h.rows.consumedSaved
  consumed := h.rows.consumed
  skippedRefused := h.rows.skippedRefused
  skipped := h.rows.skipped
  states := h.rows.states

/-- **At most once.**  This holds after every run, of any number of processes, whatever the gates
say and wherever a process ends. -/
theorem applied_once (start : Start R) (acts : List (Act F)) (w : World F)
    (hrun : (system R).run start.world acts = some w) : AppliedOnce start w :=
  AppliedOnce.of_inv ((system R).run_invariant (Inv start)
    (fun _ _ _ h hstep => inv_step h hstep) acts start.world w (inv_start start) hrun)

/-! ## A run -/

def rationalMean : River Rat where
  isFinite := fun _ => true
  isPercent := fun x => decide (0 ≤ x ∧ x ≤ 100)
  zero := 0
  meanAfter := fun n mean x => mean + (x - mean) / n
  finite_percent := fun _ _ => rfl
  finite_mean := fun _ _ => rfl

/-- No row in any table. -/
def Start.empty (R : River F) : Start R where
  db := ⟨fun _ => none, fun _ => none, fun _ => none⟩
  history := fun _ => []
  percent := by
    intro s x hx
    cases hx
  states := fun _ => rfl
  values := by
    intro id a ha
    cases ha
  ready := by
    intro id l hl
    cases hl

def cpuSample : Sample Rat where
  clusterId := none
  host := "node-1"
  metric := .cpu
  value := 43
  observedAt := 0
  sampleId := "node-1:cpu:0"
  label := none

def cpuIdentity : Identity := cpuSample.identity (some "cluster-a")

def shadowGates (quality : Quality) : Gates where
  quality := quality
  runtime := ⟨"SHADOW_ONLY", true, false⟩
  target := ⟨.shadow, true⟩

/-- A sample is observed without a label, gets one while a second process finds the lock taken,
and is swept; the process ends in the first sweep and another one takes over. -/
def sweptRun : List (Act Rat) :=
  [.start 1, .tick 1, .observe 1 [cpuSample], .take 1 (some "cluster-a") true, .look 1 false,
    .load 1, .write 1 (shadowGates ⟨.noLabel, false⟩),
    .propose 9 (cpuIdentity, 43), .start 2, .commitOutside 9,
    .retire 1 [cpuIdentity], .retired 1, .sweep 1 [cpuIdentity],
    .take 1 (some "cluster-a") true, .look 1 false, .readLabel 1, .load 1, .exit 1,
    .start 2, .tick 2, .sweep 2 [cpuIdentity],
    .take 2 (some "cluster-a") true, .look 2 false, .readLabel 2, .load 2,
    .write 2 (shadowGates ⟨.readyToLearn, true⟩), .finish 2]

theorem applied_once_swept :
    ∃ w, (system rationalMean).run (Start.empty rationalMean).world sweptRun = some w ∧
      AppliedOnce (Start.empty rationalMean) w ∧ savedCount cpuIdentity w.log = 1 :=
  ⟨_, rfl, applied_once (Start.empty rationalMean) sweptRun _ rfl, by decide⟩

end CephAi.Ports.OnlineLearner
