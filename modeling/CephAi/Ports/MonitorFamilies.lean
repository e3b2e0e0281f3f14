import CephAi.Ports.Scheduler
import CephAi.Ports.Verification

/-!
# Incidents that a monitor opens and resolves

The transaction that the hardware and volume monitors of the Watcher share,
`create_or_resolve_*_incidents`: an open Incident of the family that is neither in `current`
nor in `still_over_threshold` is resolved, and a code of `current` without an open Incident
gets one.

## Main results

* `status_createOrResolve` — every Incident that was there, after the transaction.
* `resolved_iff` — what the transaction resolves.
* `kept_of_mem` — a code that is reported keeps its Incident open.
-/

namespace CephAi.Ports.MonitorFamilies

open Verified
open Models Verification
open Scheduler (newIncident newAction clashes)

/-! ## Families -/

/-- `LIKE 'start%'`, where `_` stands for any character. -/
def likeStart : List Char → List Char → Bool
  | [], _ => true
  | _ :: _, [] => false
  | p :: start, c :: code => (p == '_' || p == c) && likeStart start code

/-- A family of codes, with the cluster whose Incidents a transaction looks at. -/
structure Family where
  start : String
  clusterId : Option String
  scope : Incident → Bool

def Family.codeFor (F : Family) (entity : String) : String := F.start ++ entity

theorem Family.codeFor_injective (F : Family) {e e' : String} (h : F.codeFor e = F.codeFor e') :
    e = e' := by
  unfold Family.codeFor at h
  apply String.toList_inj.mp
  have hlist := congrArg String.toList h
  rw [String.toList_append, String.toList_append] at hlist
  exact List.append_cancel_left hlist

def Family.osdCode (F : Family) (osd : Nat) : String := F.codeFor (toString osd)

theorem Family.osdCode_injective (F : Family) {m n : Nat} (h : F.osdCode m = F.osdCode n) :
    m = n := by
  have hlist := congrArg String.toList (F.codeFor_injective h)
  rw [Nat.toString_eq_repr, Nat.toString_eq_repr, Nat.toList_repr, Nat.toList_repr] at hlist
  have hdigits := congrArg (fun l => Nat.ofDigitChars 10 l 0) hlist
  simpa only [Nat.ofDigitChars_ten_toDigits] using hdigits

def Family.isOpen (F : Family) (i : Incident) : Bool :=
  likeStart F.start.toList i.cephCode.toList && recoverableStatuses.contains i.status && F.scope i

/-- An entry of `current`: the code and the Action that is proposed. -/
structure Finding where
  cephCode : String
  actionId : String
  params : Params
deriving DecidableEq, Repr

/-- The dict that a scan fills with these, one after the other: the last one of each code. -/
def byCode : List Finding → List Finding
  | [] => []
  | f :: rest =>
    if rest.any fun g => g.cephCode == f.cephCode then byCode rest else f :: byCode rest

theorem any_byCode (cephCode : String) (l : List Finding) :
    (byCode l).any (fun f => f.cephCode == cephCode) =
      l.any (fun f => f.cephCode == cephCode) := by
  induction l with
  | nil => rfl
  | cons f rest ih =>
    rw [byCode]
    split_ifs with hlater
    · rw [ih, List.any_cons]
      by_cases hcode : f.cephCode = cephCode
      · rw [hcode] at hlater
        rw [hlater, Bool.or_true]
      · rw [beq_false_of_ne hcode, Bool.false_or]
    · rw [List.any_cons, List.any_cons, ih]

/-- What a scan reports: `current`, and `still_over_threshold`. -/
structure Report where
  current : List Finding
  stillOver : List String
deriving DecidableEq, Repr

/-- The code is in `current` or in `still_over_threshold`. -/
def Report.has (r : Report) (cephCode : String) : Bool :=
  (r.current.any fun f => f.cephCode == cephCode) || r.stillOver.contains cephCode

/-! ## The transaction -/

section Transaction

variable (classify : String → ActionClassification) (F : Family)

/-- An open Incident that the scan does not report. -/
def Family.resolves (r : Report) (i : Incident) : Bool := F.isOpen i && !r.has i.cephCode

/-- The first loop, with `cancel_pending_actions`. -/
def Family.resolveAll (db : Db) (r : Report) : Db :=
  { db with
    actions := Table.update db.actions
      (fun a => cancellable a && (db.incident? a.incidentId).any (F.resolves r))
      (ActionWrite.apply { status := some .rejected })
    incidents := Table.update db.incidents (F.resolves r)
      (IncidentWrite.apply { status := some .resolved }) }

/-- The rows of a finding; `none` when the index has its code. -/
def Family.openOne (db : Db) (f : Finding) : Option Db :=
  let incident := newIncident db F.clusterId f.cephCode none .pendingApproval
  if clashes db incident then none
  else
    some
      { db with
        actions := Table.insert db.actions
          (newAction db incident.id f.actionId (classify f.actionId) .pendingApproval f.params)
        incidents := Table.insert db.incidents incident }

/-- The second loop, with the codes that were open. -/
def Family.openAll (openCodes : List String) : Db → List Finding → Option Db
  | db, [] => some db
  | db, f :: current =>
    if openCodes.contains f.cephCode then Family.openAll openCodes db current
    else (F.openOne classify db f).bind fun db' => Family.openAll openCodes db' current

/-- `create_or_resolve_*_incidents`; `none` is an `IntegrityError`, after which nothing is
committed. -/
def Family.createOrResolve (db : Db) (r : Report) : Option Db :=
  F.openAll classify ((db.incidents.filter F.isOpen).map Incident.cephCode) (F.resolveAll db r)
    r.current

end Transaction

/-! ## An Incident after the transaction -/

variable {classify : String → ActionClassification} {F : Family}

variable {a : Action} {db db' : Db} {id pk : Nat} {r : Report} {row : Incident}

theorem incident?_openOne {f : Finding} (h : F.openOne classify db f = some db')
    (hrow : db.incident? id = some row) : db'.incident? id = some row := by
  unfold Family.openOne at h
  dsimp only at h
  split_ifs at h
  rw [Option.some.injEq] at h
  subst h
  exact Table.get_insert_of_get rfl hrow

theorem incident?_openAll {openCodes : List String} {current : List Finding} :
    ∀ {db db' : Db}, F.openAll classify openCodes db current = some db' →
      ∀ {id : Nat} {row : Incident}, db.incident? id = some row →
        db'.incident? id = some row := by
  induction current with
  | nil =>
    intro db db' h id row hrow
    rw [Family.openAll, Option.some.injEq] at h
    exact h ▸ hrow
  | cons f current ih =>
    intro db db' h id row hrow
    rw [Family.openAll] at h
    split_ifs at h
    · exact ih h hrow
    · obtain ⟨mid, hmid, hrest⟩ := Option.bind_eq_some_iff.mp h
      exact ih hrest (incident?_openOne hmid hrow)

theorem not_resolved_of_open (hrow : db.incident? id = some row) (hopen : row.status ≠ .resolved) :
    db.incidentStatus id ≠ some .resolved := by
  unfold Db.incidentStatus
  rw [hrow]
  exact fun h => hopen (Option.some.inj h)

theorem status_of_resolving {resolving : Db} {P : Incident → Bool}
    (hrow : db.incident? id = some row)
    (hupdate : resolving.incidents =
      Table.update db.incidents P (IncidentWrite.apply { status := some .resolved }))
    (hkept : ∀ row', resolving.incident? id = some row' → db'.incident? id = some row') :
    db'.incidentStatus id = some (if P row then .resolved else row.status) := by
  have hresolved : resolving.incident? id =
      some (if P row then IncidentWrite.apply { status := some .resolved } row else row) := by
    have hget := Table.get_update db.incidents P
      (IncidentWrite.apply { status := some .resolved }) (fun _ => rfl) id
    unfold Db.incident? at hrow
    rw [hrow] at hget
    unfold Db.incident?
    rw [hupdate]
    exact hget
  unfold Db.incidentStatus
  rw [hkept _ hresolved, Option.map_some]
  split_ifs
  · rfl
  · rfl

/-- **An Incident after the transaction.** -/
theorem status_createOrResolve (h : F.createOrResolve classify db r = some db')
    (hrow : db.incident? id = some row) :
    db'.incidentStatus id = some (if F.resolves r row then .resolved else row.status) :=
  status_of_resolving hrow rfl (fun _ => incident?_openAll h)

theorem action?_openOne {f : Finding} (h : F.openOne classify db f = some db')
    (ha : db.action? pk = some a) : db'.action? pk = some a := by
  unfold Family.openOne at h
  dsimp only at h
  split_ifs at h
  rw [Option.some.injEq] at h
  subst h
  exact Table.get_insert_of_get rfl ha

theorem action?_openAll {openCodes : List String} {current : List Finding} :
    ∀ {db db' : Db}, F.openAll classify openCodes db current = some db' →
      ∀ {pk : Nat} {a : Action}, db.action? pk = some a → db'.action? pk = some a := by
  induction current with
  | nil =>
    intro db db' h pk a ha
    rw [Family.openAll, Option.some.injEq] at h
    exact h ▸ ha
  | cons f current ih =>
    intro db db' h pk a ha
    rw [Family.openAll] at h
    split_ifs at h
    · exact ih h ha
    · obtain ⟨mid, hmid, hrest⟩ := Option.bind_eq_some_iff.mp h
      exact ih hrest (action?_openOne hmid ha)

section

variable (h : F.createOrResolve classify db r = some db')
include h

/-- **What the transaction cancels** belongs to an Incident that it resolves. -/
theorem resolves_of_cancelled {a' : Action}
    (ha : db.action? pk = some a) (ha' : db'.action? pk = some a') (hne : a'.status ≠ a.status) :
    ∃ row, db.incident? a.incidentId = some row ∧ F.resolves r row = true := by
  have hwritten := Table.get_update db.actions
    (fun a => cancellable a && (db.incident? a.incidentId).any (F.resolves r))
    (ActionWrite.apply { status := some .rejected }) (fun _ => rfl) pk
  unfold Db.action? at ha
  rw [ha] at hwritten
  have hafter := action?_openAll h hwritten
  rw [ha', Option.some.injEq] at hafter
  dsimp only at hafter
  split_ifs at hafter with hcancel
  · exact (Option.any_eq_true _ _).mp (Bool.and_eq_true_iff.mp hcancel).2
  · exact absurd (congrArg Action.status hafter) hne

/-- **What the transaction resolves.** -/
theorem resolved_iff (hrow : db.incident? id = some row) (hopen : row.status ≠ .resolved) :
    db'.incidentStatus id = some .resolved ↔ F.resolves r row = true := by
  rw [status_createOrResolve h hrow, Option.some.injEq]
  cases F.resolves r row with
  | true => exact iff_of_true (if_pos rfl) rfl
  | false =>
    rw [if_neg Bool.false_ne_true]
    exact iff_of_false hopen Bool.false_ne_true

end

/-- The same, when the transaction may not be committed. -/
theorem resolves_of_getD {o : Option Db}
    (ho : ∀ db', o = some db' → F.createOrResolve classify db r = some db')
    (hrow : db.incident? id = some row) (hopen : row.status ≠ .resolved)
    (hresolved : (o.getD db).incidentStatus id = some .resolved) : F.resolves r row = true := by
  cases hdb : o with
  | none =>
    rw [hdb, Option.getD_none] at hresolved
    exact absurd hresolved (not_resolved_of_open hrow hopen)
  | some db' =>
    rw [hdb] at hresolved
    exact (resolved_iff (ho db' hdb) hrow hopen).mp hresolved

theorem resolves_of_cancelled_getD {o : Option Db}
    (ho : ∀ db', o = some db' → F.createOrResolve classify db r = some db') {a' : Action}
    (ha : db.action? pk = some a) (ha' : (o.getD db).action? pk = some a')
    (hne : a'.status ≠ a.status) :
    ∃ row, db.incident? a.incidentId = some row ∧ F.resolves r row = true := by
  cases hdb : o with
  | none =>
    rw [hdb, Option.getD_none, ha, Option.some.injEq] at ha'
    exact absurd (congrArg Action.status ha'.symm) hne
  | some db' =>
    rw [hdb] at ha'
    exact resolves_of_cancelled (ho db' hdb) ha ha' hne

theorem resolves_iff {i : Incident} :
    F.resolves r i = true ↔ F.isOpen i = true ∧ r.has i.cephCode = false := by
  unfold Family.resolves
  rw [Bool.and_eq_true, Bool.not_eq_true']

/-- **A code that is reported keeps its Incident.** -/
theorem kept_of_mem {i : Incident} (h : i.cephCode ∈ r.stillOver) : F.resolves r i = false := by
  unfold Family.resolves Report.has
  rw [List.contains_iff_mem.mpr h, Bool.or_true, Bool.not_true, Bool.and_false]

end CephAi.Ports.MonitorFamilies
