import CephAi.Ports.OnlineLearner

/-!
# The rows of the online learner

What holds of the audit rows, the labels and the states, and of the commits that made them.
Each commit of a session keeps it.

## Main results

* `Rows.commit` — what a commit has to show.
* `Rows.retired`, `Rows.attempted`, `Rows.labelled`, `Rows.observed` — the commits.
-/

namespace CephAi.Ports.OnlineLearner

variable {F : Type} {R : River F}

/-! ## The commits -/

/-- How often a sample was saved. -/
def savedCount (id : Identity) (log : List (Commit F)) : Nat :=
  log.countP fun c => c.saved.map Prod.fst = some id

/-- How often a label was consumed. -/
def consumedCount (id : Identity) (log : List (Commit F)) : Nat :=
  log.countP fun c => c.consumed = some id

def Commit.savedValue (s : Stream) (c : Commit F) : Option F :=
  match c.saved with
  | some (id, v) => if id.stream = s then some v else none
  | none => none

/-- The values that were saved for a stream, in the order of the commits. -/
def savedValues (s : Stream) (log : List (Commit F)) : List F :=
  log.filterMap (Commit.savedValue s)

/-- Whether a sample is in the learner, as a number. -/
def Db.appliedCount (id : Identity) (db : Db F) : Nat :=
  if (db.audits id).any fun a => a.updateApplied then 1 else 0

/-- A label of the sample was tried, and did not update the learner. -/
def Db.Refused (id : Identity) (db : Db F) : Prop :=
  ∃ a, db.audits id = some a ∧ a.label.isSome ∧ a.updateApplied = false

def Db.HasStatus (status : LabelStatus) (id : Identity) (db : Db F) : Prop :=
  ∃ l, db.labels id = some l ∧ l.status = status

/-- Tables to start from: empty ones, or those of an earlier version, whose labels may have
been tried and left `READY`.  `history` are the values that are in the states. -/
structure Start (R : River F) where
  db : Db F
  history : Stream → List F
  percent : ∀ s, ∀ x ∈ history s, R.isPercent x = true
  states : ∀ s, db.states s = stateOf R (history s)
  values : ∀ id a, db.audits id = some a → R.isPercent a.value = true
  ready : ∀ id l, db.labels id = some l → l.status = .ready →
    R.isPercent l.value = true ∧ ∃ a, db.audits id = some a ∧ a.updateApplied = false

/-- No process runs. -/
def Start.world (start : Start R) : World F where
  lock := none
  scans := fun _ => none
  outside := fun _ => []
  db := start.db
  log := []

variable (start : Start R)

/-- What holds of the tables, and of the commits that made them. -/
structure Rows (db : Db F) (log : List (Commit F)) : Prop where
  values : ∀ id a, db.audits id = some a → R.isPercent a.value = true
  ready : ∀ id l, db.labels id = some l → l.status = .ready → R.isPercent l.value = true ∧
    ∃ a, db.audits id = some a ∧ a.updateApplied = false ∧
      (a.label.isSome → start.db.Refused id)
  applied : ∀ id, savedCount id log + start.db.appliedCount id = db.appliedCount id
  consumedSaved : ∀ c ∈ log, ∀ id, c.consumed = some id → ∃ v, c.saved = some (id, v)
  consumed : ∀ id, db.HasStatus .consumed id →
    start.db.HasStatus .consumed id ∨ ∃ c ∈ log, c.consumed = some id
  skippedRefused : ∀ c ∈ log, ∀ id ∈ c.skipped, c.refused = some id ∨ start.db.Refused id
  skipped : ∀ id, db.HasStatus .skipped id →
    start.db.HasStatus .skipped id ∨ ∃ c ∈ log, id ∈ c.skipped
  percent : ∀ s, ∀ x ∈ savedValues s log, R.isPercent x = true
  states : ∀ s, db.states s = stateOf R (start.history s ++ savedValues s log)

/-! ## The log grows -/

variable {log : List (Commit F)}

theorem savedCount_concat (id : Identity) (log : List (Commit F)) (c : Commit F) :
    savedCount id (log ++ [c]) =
      savedCount id log + if c.saved.map Prod.fst = some id then 1 else 0 := by
  unfold savedCount
  rw [List.countP_append, List.countP_singleton]
  simp only [decide_eq_true_eq]

theorem savedValues_concat (s : Stream) (log : List (Commit F)) (c : Commit F) :
    savedValues s (log ++ [c]) = savedValues s log ++ (c.savedValue s).toList := by
  unfold savedValues
  rw [List.filterMap_append]
  cases h : c.savedValue s with
  | none => rw [List.filterMap_cons_none h]; rfl
  | some v => rw [List.filterMap_cons_some h]; rfl

variable {a : Audit F} {id j : Identity} {l : Label F} {start : Start R}

theorem Rows.commit {db db' : Db F} {c : Commit F} (h : Rows start db log)
    (hvalues : ∀ id a, db'.audits id = some a → R.isPercent a.value = true)
    (hready : ∀ id l, db'.labels id = some l → l.status = .ready → R.isPercent l.value = true ∧
      ∃ a, db'.audits id = some a ∧ a.updateApplied = false ∧
        (a.label.isSome → start.db.Refused id))
    (happlied : ∀ id, (if c.saved.map Prod.fst = some id then 1 else 0) + db.appliedCount id =
      db'.appliedCount id)
    (hconsumedSaved : ∀ id, c.consumed = some id → ∃ v, c.saved = some (id, v))
    (hconsumed : ∀ id, db'.HasStatus .consumed id →
      db.HasStatus .consumed id ∨ c.consumed = some id)
    (hskippedRefused : ∀ id ∈ c.skipped, c.refused = some id ∨ start.db.Refused id)
    (hskipped : ∀ id, db'.HasStatus .skipped id → db.HasStatus .skipped id ∨ id ∈ c.skipped)
    (hpercent : ∀ s x, c.savedValue s = some x → R.isPercent x = true)
    (hstates : ∀ s, db'.states s = match c.savedValue s with
      | none => db.states s
      | some v => stateOf R (start.history s ++ savedValues s log ++ [v])) :
    Rows start db' (log ++ [c]) where
  values := hvalues
  ready := hready
  applied := by
    intro id
    have hid := h.applied id
    have hc := happlied id
    rw [savedCount_concat]
    omega
  consumedSaved := by
    intro d hd id hid
    rcases List.mem_append.mp hd with hlog | hlast
    · exact h.consumedSaved d hlog id hid
    · rw [List.mem_singleton.mp hlast] at hid ⊢
      exact hconsumedSaved id hid
  consumed := by
    intro id hid
    rcases hconsumed id hid with hbefore | hnow
    · rcases h.consumed id hbefore with hstart | ⟨d, hd, hdid⟩
      · exact Or.inl hstart
      · exact Or.inr ⟨d, List.mem_append_left _ hd, hdid⟩
    · exact Or.inr ⟨c, List.mem_append_right _ (List.mem_singleton_self c), hnow⟩
  skippedRefused := by
    intro d hd id hid
    rcases List.mem_append.mp hd with hlog | hlast
    · exact h.skippedRefused d hlog id hid
    · rw [List.mem_singleton.mp hlast] at hid ⊢
      exact hskippedRefused id hid
  skipped := by
    intro id hid
    rcases hskipped id hid with hbefore | hnow
    · rcases h.skipped id hbefore with hstart | ⟨d, hd, hdid⟩
      · exact Or.inl hstart
      · exact Or.inr ⟨d, List.mem_append_left _ hd, hdid⟩
    · exact Or.inr ⟨c, List.mem_append_right _ (List.mem_singleton_self c), hnow⟩
  percent := by
    intro s x hx
    rw [savedValues_concat] at hx
    rcases List.mem_append.mp hx with hlog | hlast
    · exact h.percent s x hlog
    · exact hpercent s x (Option.mem_toList.mp hlast)
  states := by
    intro s
    rw [hstates s, savedValues_concat]
    cases hv : c.savedValue s with
    | none =>
      dsimp only
      rw [h.states s, Option.toList_none, List.append_nil]
    | some v =>
      dsimp only
      rw [Option.toList_some, List.append_assoc]

theorem Rows.nothing {db : Db F} (h : Rows start db log) :
    Rows start db (log ++ [({} : Commit F)]) := by
  apply h.commit
  · exact h.values
  · exact h.ready
  · intro id
    rw [if_neg (by simp)]
    omega
  · intro id hid
    cases hid
  · intro id hid
    exact Or.inl hid
  · intro id hid
    cases hid
  · intro id hid
    exact Or.inl hid
  · intro s x hx
    cases hx
  · intro s
    rfl

/-! ## New labels -/

/-- The labels a session has added: their samples are not in the learner, unless another
session has labelled them. -/
def Awaits (R : River F) (db : Db F) (pending : Pending F) : Prop :=
  ∀ e ∈ pending, R.isPercent e.2 = true ∧ ∃ a, db.audits e.1 = some a ∧
    (db.labels e.1 = none → a.label = none ∧ a.updateApplied = false)

variable {db db' : Db F} {pending : Pending F}

theorem labels_of_not_conflicts (h : db.conflicts pending = false) {e : Identity × F}
    (he : e ∈ pending) : db.labels e.1 = none := by
  have hall := List.any_eq_false.mp h e he
  exact Option.not_isSome_iff_eq_none.mp hall

theorem labels_withLabels (h : (db.withLabels pending).labels id = some l) :
    (∃ e ∈ pending, e.1 = id ∧ l = ⟨e.2, .ready⟩) ∨ db.labels id = some l := by
  unfold Db.withLabels at h
  dsimp only at h
  split at h
  · rename_i e he
    left
    have hid := List.find?_some he
    exact ⟨e, List.mem_of_find?_eq_some he, of_decide_eq_true hid, (Option.some.inj h).symm⟩
  · right
    exact h

theorem withLabels_of_labels (hconflicts : db.conflicts pending = false)
    (h : db.labels id = some l) : (db.withLabels pending).labels id = some l := by
  unfold Db.withLabels
  dsimp only
  split
  · rename_i e he
    have hnone := labels_of_not_conflicts hconflicts (List.mem_of_find?_eq_some he)
    have hid := List.find?_some he
    rw [of_decide_eq_true hid, h] at hnone
    cases hnone
  · exact h

theorem labels_ne_none {status : LabelStatus} (h : db.HasStatus status id) :
    db.labels id ≠ none := by
  obtain ⟨l, hl, -⟩ := h
  rw [hl]
  exact Option.some_ne_none l

theorem hasStatus_withLabels {status : LabelStatus} (hstatus : status ≠ .ready)
    (h : (db.withLabels pending).HasStatus status id) : db.HasStatus status id := by
  obtain ⟨l, hl, hl'⟩ := h
  rcases labels_withLabels hl with ⟨e, -, -, rfl⟩ | hbefore
  · exact absurd hl'.symm hstatus
  · exact ⟨l, hbefore, hl'⟩

theorem Rows.withLabels (h : Rows start db log) (hawaits : Awaits R db pending)
    (hconflicts : db.conflicts pending = false) :
    Rows start (db.withLabels pending) log where
  values := h.values
  ready := by
    intro id l hl hready
    rcases labels_withLabels hl with ⟨e, he, rfl, rfl⟩ | hbefore
    · obtain ⟨hpercent, a, ha, hnew⟩ := hawaits e he
      obtain ⟨hlabel, hnot⟩ := hnew (labels_of_not_conflicts hconflicts he)
      refine ⟨hpercent, a, ha, hnot, ?_⟩
      intro hsome
      rw [hlabel] at hsome
      cases hsome
    · exact h.ready id l hbefore hready
  applied := h.applied
  consumedSaved := h.consumedSaved
  consumed := fun id hid => h.consumed id (hasStatus_withLabels (by decide) hid)
  skippedRefused := h.skippedRefused
  skipped := fun id hid => h.skipped id (hasStatus_withLabels (by decide) hid)
  percent := h.percent
  states := h.states

/-! ## Labels that leave the queue -/

variable {status : LabelStatus} {rows : List Identity}

theorem labels_mark_of_mem (hid : id ∈ rows) :
    (db.mark status rows).labels id =
      (db.labels id).map fun l => { l with status := status } := by
  unfold Db.mark
  dsimp only
  rw [if_pos hid]

theorem labels_mark_of_not_mem (hid : id ∉ rows) :
    (db.mark status rows).labels id = db.labels id := by
  unfold Db.mark
  dsimp only
  rw [if_neg hid]

theorem status_mark (h : (db.mark status rows).labels id = some l) :
    id ∈ rows ∧ l.status = status ∨ id ∉ rows ∧ db.labels id = some l := by
  by_cases hid : id ∈ rows
  · rw [labels_mark_of_mem hid] at h
    obtain ⟨o, -, rfl⟩ := Option.map_eq_some_iff.mp h
    exact Or.inl ⟨hid, rfl⟩
  · rw [labels_mark_of_not_mem hid] at h
    exact Or.inr ⟨hid, h⟩

theorem hasStatus_mark {other : LabelStatus} (h : (db.mark status rows).HasStatus other id) :
    db.HasStatus other id ∨ other = status ∧ id ∈ rows := by
  obtain ⟨l, hl, hl'⟩ := h
  rcases status_mark hl with ⟨hid, hstatus⟩ | ⟨-, hbefore⟩
  · exact Or.inr ⟨hl'.symm.trans hstatus, hid⟩
  · exact Or.inl ⟨l, hbefore, hl'⟩

theorem readyLabel_eq_some {v : F} (h : db.readyLabel id = some v) :
    ∃ l, db.labels id = some l ∧ l.status = .ready ∧ l.value = v := by
  unfold Db.readyLabel at h
  cases hl : db.labels id with
  | none =>
    rw [hl] at h
    cases h
  | some l =>
    rw [hl] at h
    dsimp only at h
    split at h
    · rename_i hstatus
      exact ⟨l, rfl, hstatus, Option.some.inj h⟩
    · cases h

theorem Rows.retired (h : Rows start db log) (hrows : ∀ id ∈ rows, db.retirable id = true) :
    Rows start (db.mark .skipped rows) (log ++ [{ skipped := rows }]) := by
  apply h.commit
  · exact h.values
  · intro id l hl hready
    rcases status_mark hl with ⟨-, hstatus⟩ | ⟨-, hbefore⟩
    · rw [hstatus] at hready
      cases hready
    · exact h.ready id l hbefore hready
  · intro id
    rw [if_neg (by simp)]
    exact Nat.zero_add _
  · intro id hid
    cases hid
  · intro id hid
    rcases hasStatus_mark hid with hbefore | ⟨hne, -⟩
    · exact Or.inl hbefore
    · cases hne
  · intro id hid
    right
    have hretirable := hrows id hid
    unfold Db.retirable at hretirable
    rw [Bool.and_eq_true] at hretirable
    obtain ⟨v, hv⟩ := Option.isSome_iff_exists.mp hretirable.1
    obtain ⟨l, hl, hready, -⟩ := readyLabel_eq_some hv
    obtain ⟨-, a, ha, -, hrefused⟩ := h.ready id l hl hready
    have hlabel := hretirable.2
    rw [ha, Option.any_some, Bool.and_eq_true] at hlabel
    exact hrefused hlabel.2
  · intro id hid
    rcases hasStatus_mark hid with hbefore | ⟨-, hin⟩
    · exact Or.inl hbefore
    · exact Or.inr hin
  · intro s x hx
    cases hx
  · intro s
    rfl

/-! ## Attempts -/

variable {id : Identity} {label : F} {gates : Gates} {b : Bool}

theorem audits_attempt_other (hj : j ≠ id) :
    (db.attempt id label gates b).audits j = db.audits j := by
  unfold Db.attempt
  dsimp only
  rw [if_neg hj]

theorem audits_attempt_self (ha : db.audits id = some a) :
    (db.attempt id label gates b).audits id = some { a with
      label := some label
      qualityStatus := gates.quality.status
      runtimeMode := gates.runtime.mode
      updateApplied := b || a.updateApplied } := by
  unfold Db.attempt
  dsimp only
  rw [if_pos rfl, ha]
  rfl

theorem appliedCount_eq_zero (ha : db.audits id = some a) (hnot : a.updateApplied = false) :
    db.appliedCount id = 0 := by
  unfold Db.appliedCount
  rw [ha, Option.any_some, hnot]
  rfl

theorem appliedCount_of_audits {other : Db F} (h : other.audits j = db.audits j) :
    other.appliedCount j = db.appliedCount j := by
  unfold Db.appliedCount
  rw [h]

theorem appliedCount_attempt (ha : db.audits id = some a) (hnot : a.updateApplied = false)
    (j : Identity) :
    (db.attempt id label gates b).appliedCount j =
      (if id = j ∧ b = true then 1 else 0) + db.appliedCount j := by
  by_cases hj : j = id
  · subst hj
    rw [appliedCount_eq_zero ha hnot]
    unfold Db.appliedCount
    rw [audits_attempt_self ha, Option.any_some, hnot, Bool.or_false]
    simp
  · have hne : ¬(id = j ∧ b = true) := fun heq => hj heq.1.symm
    rw [appliedCount_of_audits (audits_attempt_other hj), if_neg hne, Nat.zero_add]

theorem values_attempt (ha : db.audits id = some a)
    (hvalues : ∀ j o, db.audits j = some o → R.isPercent o.value = true) (j : Identity)
    (o : Audit F) (ho : (db.attempt id label gates b).audits j = some o) :
    R.isPercent o.value = true := by
  by_cases hj : j = id
  · subst hj
    rw [audits_attempt_self ha] at ho
    rw [← Option.some.inj ho]
    exact hvalues j a ha
  · rw [audits_attempt_other hj] at ho
    exact hvalues j o ho

theorem ready_attempt (h : Rows start db log) (hstatus : status ≠ .ready) (j : Identity)
    (l : Label F) (hl : ((db.attempt id label gates b).mark status [id]).labels j = some l)
    (hready : l.status = .ready) : R.isPercent l.value = true ∧
      ∃ a, ((db.attempt id label gates b).mark status [id]).audits j = some a ∧
        a.updateApplied = false ∧ (a.label.isSome → start.db.Refused j) := by
  rcases status_mark hl with ⟨-, heq⟩ | ⟨hnot, hbefore⟩
  · exact absurd (heq.symm.trans hready) hstatus
  · have hj : j ≠ id := fun heq => hnot (List.mem_singleton.mpr heq)
    obtain ⟨hpercent, a, ha, hrest⟩ := h.ready j l hbefore hready
    refine ⟨hpercent, a, ?_, hrest⟩
    show (db.attempt id label gates b).audits j = some a
    rw [audits_attempt_other hj]
    exact ha

theorem Rows.attempted (h : Rows start db log) (hlabel : db.HasStatus .ready id) :
    Rows start ((db.attempt id label gates false).mark .skipped [id])
      (log ++ [{ refused := some id, skipped := [id] }]) := by
  obtain ⟨l, hl, hready⟩ := hlabel
  obtain ⟨-, a, ha, hnot, -⟩ := h.ready id l hl hready
  apply h.commit
  · exact values_attempt ha h.values
  · exact ready_attempt h (by decide)
  · intro j
    show _ = (db.attempt id label gates false).appliedCount j
    rw [appliedCount_attempt ha hnot]
    simp
  · intro j hj
    cases hj
  · intro j hj
    rcases hasStatus_mark hj with hbefore | ⟨hne, -⟩
    · exact Or.inl hbefore
    · cases hne
  · intro j hj
    left
    rw [List.mem_singleton.mp hj]
  · intro j hj
    rcases hasStatus_mark hj with hbefore | ⟨-, hin⟩
    · exact Or.inl hbefore
    · exact Or.inr hin
  · intro s x hx
    cases hx
  · intro s
    rfl

theorem states_save_self (m : Mean F) (s : Stream) :
    (db.save s m).states s = some (snapshot m) := by
  unfold Db.save
  dsimp only
  rw [if_pos rfl]

theorem states_save_other (m : Mean F) {s t : Stream} (h : t ≠ s) :
    (db.save s m).states t = db.states t := by
  unfold Db.save
  dsimp only
  rw [if_neg h]

def learnedValues (start : Start R) (log : List (Commit F)) (s : Stream) : List F :=
  start.history s ++ savedValues s log

theorem states_saved {start : Start R} {c : Commit F} {v : F} (hc : c.saved = some (id, v))
    (s : Stream) :
    (db.save id.stream (R.update (R.learned (learnedValues start log id.stream)) v)).states s =
      match c.savedValue s with
      | none => db.states s
      | some v => stateOf R (start.history s ++ savedValues s log ++ [v]) := by
  have hvalue : c.savedValue s = if id.stream = s then some v else none := by
    unfold Commit.savedValue
    rw [hc]
  rw [hvalue]
  by_cases hs : id.stream = s
  · subst hs
    rw [states_save_self, if_pos rfl]
    dsimp only
    rw [stateOf_concat]
    rfl
  · rw [states_save_other _ (Ne.symm hs), if_neg hs]

theorem savedValue_percent {c : Commit F} {v : F} (hc : c.saved = some (id, v))
    (hv : R.isPercent v = true) (s : Stream) (x : F) (hx : c.savedValue s = some x) :
    R.isPercent x = true := by
  unfold Commit.savedValue at hx
  rw [hc] at hx
  dsimp only at hx
  split at hx
  · rw [← Option.some.inj hx]
    exact hv
  · cases hx

theorem Rows.labelled (h : Rows start db log) (hlabel : db.HasStatus .ready id)
    (hpercent : R.isPercent label = true) :
    Rows start
      (((db.save id.stream (R.update (R.learned (learnedValues start log id.stream)) label)).attempt
        id label gates true).mark .consumed [id])
      (log ++ [{ saved := some (id, label), consumed := some id }]) := by
  obtain ⟨l, hl, hready⟩ := hlabel
  obtain ⟨-, a, ha, hnot, -⟩ := h.ready id l hl hready
  apply h.commit
  · intro j o ho
    exact values_attempt ha h.values j o ho
  · intro j o ho
    exact ready_attempt h (by decide) j o ho
  · intro j
    show _ = (db.attempt id label gates true).appliedCount j
    rw [appliedCount_attempt ha hnot]
    simp
  · intro j hj
    refine ⟨label, ?_⟩
    rw [← Option.some.inj hj]
  · intro j hj
    rcases hasStatus_mark hj with hbefore | ⟨-, hin⟩
    · exact Or.inl hbefore
    · right
      rw [List.mem_singleton.mp hin]
  · intro j hj
    cases hj
  · intro j hj
    rcases hasStatus_mark hj with hbefore | ⟨hne, -⟩
    · exact Or.inl hbefore
    · cases hne
  · exact savedValue_percent rfl hpercent
  · exact states_saved rfl

/-! ## First observations -/

variable {a : Audit F}

/-- An audit row is new; the states may be others. -/
structure Inserted (id : Identity) (a : Audit F) (db db' : Db F) : Prop where
  fresh : db.audits id = none
  audits_self : db'.audits id = some a
  audits_other : ∀ j, j ≠ id → db'.audits j = db.audits j
  labels : db'.labels = db.labels

theorem states_insertAudit (h : db.insertAudit id a = some db') : db'.states = db.states := by
  unfold Db.insertAudit at h
  split at h
  · cases h
  · rw [← Option.some.inj h]

theorem inserted_insertAudit (h : db.insertAudit id a = some db') : Inserted id a db db' := by
  unfold Db.insertAudit at h
  split at h
  · cases h
  · rename_i hnone
    rw [← Option.some.inj h]
    refine ⟨hnone, if_pos rfl, ?_, rfl⟩
    intro j hj
    exact if_neg hj

theorem inserted_save {s : Stream} {m : Mean F}
    (h : (db.save s m).insertAudit id a = some db') : Inserted id a db db' := by
  have hsaved := inserted_insertAudit h
  exact ⟨hsaved.fresh, hsaved.audits_self, hsaved.audits_other, hsaved.labels⟩

theorem Inserted.ready (h : Rows start db log) (hin : Inserted id a db db') (j : Identity)
    (l : Label F) (hl : db'.labels j = some l) (hready : l.status = .ready) :
    R.isPercent l.value = true ∧ ∃ o, db'.audits j = some o ∧ o.updateApplied = false ∧
      (o.label.isSome → start.db.Refused j) := by
  rw [hin.labels] at hl
  obtain ⟨hpercent, o, ho, hrest⟩ := h.ready j l hl hready
  refine ⟨hpercent, o, ?_, hrest⟩
  have hj : j ≠ id := by
    intro heq
    rw [heq, hin.fresh] at ho
    cases ho
  rw [hin.audits_other j hj]
  exact ho

theorem Inserted.values (hvalues : ∀ j o, db.audits j = some o → R.isPercent o.value = true)
    (hin : Inserted id a db db') (ha : R.isPercent a.value = true) (j : Identity) (o : Audit F)
    (ho : db'.audits j = some o) : R.isPercent o.value = true := by
  by_cases hj : j = id
  · rw [hj, hin.audits_self] at ho
    rw [← Option.some.inj ho]
    exact ha
  · rw [hin.audits_other j hj] at ho
    exact hvalues j o ho

theorem Inserted.appliedCount (hin : Inserted id a db db') (j : Identity) :
    (if id = j ∧ a.updateApplied = true then 1 else 0) + db.appliedCount j =
      db'.appliedCount j := by
  by_cases hj : j = id
  · subst hj
    unfold Db.appliedCount
    rw [hin.fresh, hin.audits_self]
    simp
  · have hne : ¬(id = j ∧ a.updateApplied = true) := fun heq => hj heq.1.symm
    rw [if_neg hne, Nat.zero_add]
    exact (appliedCount_of_audits (hin.audits_other j hj)).symm

theorem Inserted.hasStatus (hin : Inserted id a db db') (h : db'.HasStatus status j) :
    db.HasStatus status j := by
  unfold Db.HasStatus at h ⊢
  rw [hin.labels] at h
  exact h

theorem Rows.observedOnly (h : Rows start db log) (hinsert : db.insertAudit id a = some db')
    (hvalue : R.isPercent a.value = true) (hnot : a.updateApplied = false) :
    Rows start db' (log ++ [({} : Commit F)]) := by
  have hin := inserted_insertAudit hinsert
  apply h.commit
  · exact hin.values h.values hvalue
  · exact hin.ready h
  · intro j
    rw [← hin.appliedCount j, hnot]
    simp
  · intro j hj
    cases hj
  · intro j hj
    exact Or.inl (hin.hasStatus hj)
  · intro j hj
    cases hj
  · intro j hj
    exact Or.inl (hin.hasStatus hj)
  · intro s x hx
    cases hx
  · intro s
    rw [states_insertAudit hinsert]
    rfl

theorem Rows.observed (h : Rows start db log)
    (hinsert : (db.save id.stream
      (R.update (R.learned (learnedValues start log id.stream)) a.value)).insertAudit id a =
        some db')
    (hvalue : R.isPercent a.value = true) (happlied : a.updateApplied = true) :
    Rows start db' (log ++ [{ saved := some (id, a.value) }]) := by
  have hin := inserted_save hinsert
  apply h.commit
  · exact hin.values h.values hvalue
  · exact hin.ready h
  · intro j
    rw [← hin.appliedCount j, happlied]
    simp
  · intro j hj
    cases hj
  · intro j hj
    exact Or.inl (hin.hasStatus hj)
  · intro j hj
    cases hj
  · intro j hj
    exact Or.inl (hin.hasStatus hj)
  · exact savedValue_percent rfl hvalue
  · rw [states_insertAudit hinsert]
    exact states_saved rfl

end CephAi.Ports.OnlineLearner
