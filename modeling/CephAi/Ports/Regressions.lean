import CephAi.Verified.Json
import CephAi.Verified.Runs
import CephAi.Verified.Table

/-!
# The regression labels of verified cases

`evaluate_regressions` of `shared/remediation_cases.py`: for every row with a verified success it
asks whether an Incident of the same fault came back within an hour, a day and a week.  Between
the evaluations Incidents are inserted, with any `detected_at`, and cases, without labels.

Times are numbers of microseconds, ids are numbers in the order of their texts, and `json.loads`
is a parameter.

## Main results

* `evaluated_relabel` — what one evaluation of a row may do to its labels.
* `labels_final` — in every run a label once set stays, the labels are nested, and none is false
  before the end of its window.
-/

namespace CephAi.Ports.Regressions

open Verified.Json Verified.Runs
open Verified.Table hiding get
open Verified.Table (get)

variable {J : Type}

/-! ## The rows -/

/-- The fields of `_REGRESSION_WINDOWS`. -/
inductive Window
  | regressed1h
  | regressed24h
  | regressed7d
deriving DecidableEq

def regressionWindows : List Window := [.regressed1h, .regressed24h, .regressed7d]

/-- The `timedelta` of a window. -/
def Window.length : Window → Int
  | .regressed1h => 3600000000
  | .regressed24h => 86400000000
  | .regressed7d => 604800000000

/-- A row of `remediation_cases`. -/
structure Case where
  id : Nat
  incident : Nat
  clusterId : Option String
  faultFamily : String
  entityKeysJson : Option String
  outcome : String
  verifiedAt : Option Int
  regressed : Window → Option Bool

/-- A row of `incidents`. -/
structure Incident where
  id : Nat
  detectedAt : Int

instance : Keyed Case := ⟨Case.id⟩

structure Db where
  cases : List Case
  incidents : List Incident

section Evaluating

variable (loads : String → Option (Value J))

/-- `_is_lab_fault_injection`: a document that does not load is read as an empty object. -/
def isLabFaultInjection (row : Case) : Bool :=
  match loads (row.entityKeysJson.getD "null") with
  | some (.obj entities) =>
    match entities.lookup "action_params" with
    | some (.obj params) =>
      match params.lookup "bucket_name" with
      | some (.str bucket) =>
        row.faultFamily == "LARGE_OMAP_OBJECTS" && bucket.startsWith "test-"
      | _ => false
    | _ => false
  | _ => false

/-- Every label of a lab row is false. -/
def Case.asLab (row : Case) : Case := { row with regressed := fun _ => some false }

/-- The `detected_at` of the first Incident of the same fault after the verification. -/
def recurrenceAt (db : Db) (row : Case) (verifiedAt : Int) : Option Int :=
  let same := db.cases.filter fun other =>
    other.id ≠ row.id && other.faultFamily == row.faultFamily &&
      other.entityKeysJson == row.entityKeysJson && other.clusterId == row.clusterId
  let detected := same.flatMap fun other =>
    (db.incidents.filter fun incident => incident.id = other.incident).map Incident.detectedAt
  (detected.filter fun at' => decide (verifiedAt < at')).min?

/-- The label of a window after an evaluation. -/
def evaluated (now verifiedAt : Int) (recurrence : Option Int) (window : Window)
    (label : Option Bool) : Option Bool :=
  match label with
  | some value => some value
  | none =>
    if recurrence.any fun at' => decide (at' ≤ verifiedAt + window.length) then some true
    else if verifiedAt + window.length ≤ now then some false
    else none

/-- Every window is labelled. -/
def Case.relabel (row : Case) (now verifiedAt : Int) (recurrence : Option Int) : Case :=
  { row with regressed := fun w => evaluated now verifiedAt recurrence w (row.regressed w) }

/-- The body of the loop over the candidates. -/
def evaluateCase (db : Db) (now : Int) (row : Case) : Case :=
  if isLabFaultInjection loads row then row.asLab
  else
    match row.verifiedAt with
    | none => row
    | some verifiedAt => row.relabel now verifiedAt (recurrenceAt db row verifiedAt)

/-- What the query of the candidates asks of a row. -/
def isCandidate (row : Case) : Bool :=
  row.outcome == "VERIFIED_SUCCESS" && row.verifiedAt.isSome &&
    regressionWindows.any fun window => (row.regressed window).isNone

/-- The order by `verified_at`, then by id. -/
def sooner (a b : Case) : Prop :=
  a.verifiedAt.getD 0 < b.verifiedAt.getD 0 ∨
    a.verifiedAt.getD 0 = b.verifiedAt.getD 0 ∧ a.id ≤ b.id

instance : DecidableRel sooner := fun _ _ => inferInstanceAs (Decidable (_ ∨ _))

/-- The lab cases are repaired first. -/
def repairLabCases (cases : List Case) : List Case :=
  update cases (fun row => row.outcome == "VERIFIED_SUCCESS" && isLabFaultInjection loads row)
    Case.asLab

def evaluateRegressions (now : Int) (limit : Nat) (db : Db) : Db :=
  let repaired := { db with cases := repairLabCases loads db.cases }
  let candidates := ((repaired.cases.filter isCandidate).insertionSort sooner).take (max 1 limit)
  candidates.foldl (fun db row =>
    { db with cases := modify db.cases row.id (evaluateCase loads db now) }) repaired

/-! ## Runs -/

/-- A row as `create_for_action` adds it. -/
def Case.unlabelled (row : Case) : Bool :=
  regressionWindows.all fun window => (row.regressed window).isNone

inductive Label
  | insertIncident (incident : Incident)
  | insertCase (row : Case)
  | evaluate (now : Int) (limit : Nat)

def step (db : Db) : Label → Option Db
  | .insertIncident incident => some { db with incidents := db.incidents ++ [incident] }
  | .insertCase row =>
    if get db.cases row.id = none ∧ row.unlabelled then
      some { db with cases := insert db.cases row }
    else none
  | .evaluate now limit => some (evaluateRegressions loads now limit db)

def evaluations : System Db Label := ⟨step loads⟩

end Evaluating

/-! ## The labels of one row -/

/-- What relates the labels of a row: a longer window is false only when each shorter one is, and
true when one of them is. -/
def Nested (row : Case) : Prop :=
  ∀ v w : Window, v.length ≤ w.length →
    (row.regressed w = some false → row.regressed v = some false) ∧
      (row.regressed v = some true → row.regressed w = some true)

theorem nested_of_unlabelled {row : Case} (h : row.unlabelled = true) : Nested row := by
  have hnone : ∀ w, row.regressed w = none := by
    intro w
    have hw := List.all_eq_true.mp h w (by cases w <;> decide)
    exact Option.isNone_iff_eq_none.mp hw
  intro v w _
  rw [hnone v, hnone w]
  constructor
  · exact fun h => nomatch h
  · exact fun h => nomatch h

theorem evaluated_some (now verifiedAt : Int) (recurrence : Option Int) (w : Window)
    (value : Bool) : evaluated now verifiedAt recurrence w (some value) = some value := rfl

theorem evaluated_eq_true {now verifiedAt : Int} {recurrence : Option Int} {w : Window} :
    evaluated now verifiedAt recurrence w none = some true ↔
      ∃ at', recurrence = some at' ∧ at' ≤ verifiedAt + w.length := by
  unfold evaluated
  cases recurrence with
  | none => simp
  | some at' =>
    by_cases hle : at' ≤ verifiedAt + w.length
    · simp [hle]
    · simp [hle]

theorem evaluated_eq_false {now verifiedAt : Int} {recurrence : Option Int} {w : Window} :
    evaluated now verifiedAt recurrence w none = some false ↔
      (∀ at', recurrence = some at' → verifiedAt + w.length < at') ∧
        verifiedAt + w.length ≤ now := by
  unfold evaluated
  cases recurrence with
  | none => simp
  | some at' =>
    by_cases hle : at' ≤ verifiedAt + w.length
    · simp [hle]
    · simp [hle, not_le.mp hle]

/-- **An evaluation keeps the labels nested**: when a longer window is decided first, each shorter
one has passed as well. -/
theorem nested_evaluated {row : Case} (h : Nested row) (now verifiedAt : Int)
    (recurrence : Option Int) : Nested (row.relabel now verifiedAt recurrence) := by
  intro v w hvw
  obtain ⟨hfalse, htrue⟩ := h v w hvw
  unfold Case.relabel
  dsimp only
  constructor
  · intro hw
    cases hlabel : row.regressed w with
    | some value =>
      rw [hlabel, evaluated_some] at hw
      rw [hfalse (hlabel.trans hw), evaluated_some]
    | none =>
      rw [hlabel] at hw
      obtain ⟨hafter, hpast⟩ := evaluated_eq_false.mp hw
      cases hv : row.regressed v with
      | some value =>
        cases value with
        | false => exact evaluated_some now verifiedAt recurrence v false
        | true =>
          rw [htrue hv] at hlabel
          cases hlabel
      | none =>
        refine evaluated_eq_false.mpr ⟨fun at' hat => ?_, by omega⟩
        have := hafter at' hat
        omega
  · intro hv
    cases hlabel : row.regressed w with
    | some value =>
      cases value with
      | true => exact evaluated_some now verifiedAt recurrence w true
      | false =>
        rw [hfalse hlabel, evaluated_some] at hv
        cases hv
    | none =>
      cases hshort : row.regressed v with
      | some value =>
        rw [hshort, evaluated_some] at hv
        rw [htrue (hshort.trans hv)] at hlabel
        cases hlabel
      | none =>
        rw [hshort] at hv
        obtain ⟨at', hat, hle⟩ := evaluated_eq_true.mp hv
        exact evaluated_eq_true.mpr ⟨at', hat, by omega⟩

/-- What an evaluation at `now` may do to a row: it keeps what the row is, and of a row that is
no lab row each label that is set, and it sets a label to false only after its window. -/
structure Relabel (loads : String → Option (Value J)) (now : Int) (c c' : Case) : Prop where
  lab : isLabFaultInjection loads c' = isLabFaultInjection loads c
  outcome : c'.outcome = c.outcome
  verifiedAt : c'.verifiedAt = c.verifiedAt
  kept : isLabFaultInjection loads c = false →
    ∀ w value, c.regressed w = some value → c'.regressed w = some value
  passed : isLabFaultInjection loads c = false → ∀ w, c'.regressed w = some false →
    c.regressed w = some false ∨ ∃ at', c.verifiedAt = some at' ∧ at' + w.length ≤ now
  nested : isLabFaultInjection loads c = false → Nested c → Nested c'

section Relabelling

variable {loads : String → Option (Value J)} {now : Int} {c c' c'' : Case}

theorem Relabel.refl : Relabel loads now c c :=
  ⟨rfl, rfl, rfl, fun _ _ _ h => h, fun _ _ h => Or.inl h, fun _ h => h⟩

theorem Relabel.trans (h : Relabel loads now c c') (h' : Relabel loads now c' c'') :
    Relabel loads now c c'' where
  lab := h'.lab.trans h.lab
  outcome := h'.outcome.trans h.outcome
  verifiedAt := h'.verifiedAt.trans h.verifiedAt
  kept hlab w value hw := h'.kept (h.lab.trans hlab) w value (h.kept hlab w value hw)
  passed hlab w hw := by
    rcases h'.passed (h.lab.trans hlab) w hw with hw | ⟨at', hat, hle⟩
    · exact h.passed hlab w hw
    · exact Or.inr ⟨at', h.verifiedAt ▸ hat, hle⟩
  nested hlab hc := h'.nested (h.lab.trans hlab) (h.nested hlab hc)

theorem relabel_asLab (h : isLabFaultInjection loads c = true) :
    Relabel loads now c c.asLab where
  lab := rfl
  outcome := rfl
  verifiedAt := rfl
  kept hlab := absurd (h.symm.trans hlab) (by decide)
  passed hlab := absurd (h.symm.trans hlab) (by decide)
  nested hlab := absurd (h.symm.trans hlab) (by decide)

/-- **Spec of the loop's body.** -/
theorem evaluated_relabel (db : Db) (c : Case) :
    Relabel loads now c (evaluateCase loads db now c) := by
  unfold evaluateCase
  split_ifs with hlab
  · exact relabel_asLab hlab
  · cases hat : c.verifiedAt with
    | none => exact Relabel.refl
    | some verifiedAt =>
      refine ⟨rfl, rfl, rfl, fun _ w value hw => ?_, fun _ w hw => ?_, fun _ hc => ?_⟩
      · show evaluated now verifiedAt _ w (c.regressed w) = some value
        rw [hw, evaluated_some]
      · change evaluated now verifiedAt _ w (c.regressed w) = some false at hw
        cases hlabel : c.regressed w with
        | some value =>
          rw [hlabel, evaluated_some] at hw
          exact Or.inl hw
        | none =>
          rw [hlabel] at hw
          exact Or.inr ⟨verifiedAt, hat, (evaluated_eq_false.mp hw).2⟩
      · exact nested_evaluated hc now verifiedAt (recurrenceAt db c verifiedAt)

/-- The rows are the same ones, relabelled. -/
def Rows (loads : String → Option (Value J)) (now : Int) (rows rows' : List Case) : Prop :=
  ∀ id, Option.Rel (Relabel loads now) (get rows id) (get rows' id)

theorem rel_of_some {x y : Option Case} (h : Option.Rel (Relabel loads now) x y)
    (hx : x = some c) : ∃ c', y = some c' ∧ Relabel loads now c c' := by
  cases h with
  | some hrelabel =>
    cases hx
    exact ⟨_, rfl, hrelabel⟩
  | none => cases hx

theorem rel_of_some_right {x y : Option Case} (h : Option.Rel (Relabel loads now) x y)
    (hy : y = some c') : ∃ c, x = some c ∧ Relabel loads now c c' := by
  cases h with
  | some hrelabel =>
    cases hy
    exact ⟨_, rfl, hrelabel⟩
  | none => cases hy

theorem Rows.trans {rows rows' rows'' : List Case} (h : Rows loads now rows rows')
    (h' : Rows loads now rows' rows'') : Rows loads now rows rows'' := by
  intro id
  have hbefore := h id
  have hafter := h' id
  revert hbefore hafter
  generalize get rows id = x, get rows' id = y, get rows'' id = z
  rintro (⟨hrelabel⟩ | _) hafter
  · cases hafter with
    | some hrelabel' => exact .some (hrelabel.trans hrelabel')
  · cases hafter with
    | none => exact .none

/-- An update keeps the rows when what it does to each one is a relabelling. -/
theorem rows_update (rows : List Case) (p : Case → Bool) (f : Case → Case)
    (hid : ∀ c, (f c).id = c.id) (hf : ∀ c, p c = true → Relabel loads now c (f c)) :
    Rows loads now rows (update rows p f) := by
  intro id
  rw [get_update rows p f hid]
  cases get rows id with
  | none => exact .none
  | some c =>
    refine .some ?_
    show Relabel loads now c (if p c = true then f c else c)
    cases hp : p c with
    | true => exact hf c hp
    | false => exact Relabel.refl

theorem evaluateCase_id (db : Db) (c : Case) : (evaluateCase loads db now c).id = c.id := by
  unfold evaluateCase
  split_ifs
  · rfl
  · cases c.verifiedAt <;> rfl

/-- **Spec of `evaluate_regressions`.** -/
theorem rows_evaluateRegressions (loads : String → Option (Value J)) (now : Int) (limit : Nat) (db : Db) :
    Rows loads now db.cases (evaluateRegressions loads now limit db).cases := by
  unfold evaluateRegressions
  have hrepaired : Rows loads now db.cases (repairLabCases loads db.cases) := by
    refine rows_update _ _ _ (fun _ => rfl) fun c hc => ?_
    exact relabel_asLab (Bool.and_eq_true_iff.mp hc).2
  have hloop : ∀ (candidates : List Case) (db : Db), Rows loads now db.cases
      (candidates.foldl (fun db row =>
        { db with cases := modify db.cases row.id (evaluateCase loads db now) }) db).cases := by
    intro candidates
    induction candidates with
    | nil =>
      intro db id
      show Option.Rel _ (get db.cases id) (get db.cases id)
      cases get db.cases id with
      | none => exact .none
      | some c => exact .some Relabel.refl
    | cons candidate candidates ih =>
      intro db
      have hstep : Rows loads now db.cases
          (modify db.cases candidate.id (evaluateCase loads db now)) :=
        rows_update _ _ _ (evaluateCase_id db) fun c _ => evaluated_relabel db c
      exact hstep.trans (ih { db with
        cases := modify db.cases candidate.id (evaluateCase loads db now) })
  exact hrepaired.trans (hloop _ { db with cases := repairLabCases loads db.cases })

end Relabelling

/-! ## Every run -/

/-- What a step does to a verified row that is no lab row. -/
def Final (loads : String → Option (Value J)) (db : Db) (l : Label) (db' : Db) : Prop :=
  ∀ id c, get db.cases id = some c → isLabFaultInjection loads c = false →
    c.outcome = "VERIFIED_SUCCESS" → ∃ c', get db'.cases id = some c' ∧ Nested c' ∧
      (∀ w value, c.regressed w = some value → c'.regressed w = some value) ∧
      ∀ w, c'.regressed w = some false → c.regressed w = some false ∨
        ∃ now limit at', l = .evaluate now limit ∧ c.verifiedAt = some at' ∧
          at' + w.length ≤ now

/-- The labels of the cases that are no lab cases are nested. -/
def Sound (loads : String → Option (Value J)) (db : Db) : Prop :=
  ∀ id c, get db.cases id = some c → isLabFaultInjection loads c = false → Nested c

/-- **Step lemma.** -/
theorem final_step {loads : String → Option (Value J)} {db db' : Db} {l : Label}
    (h : Sound loads db) (hstep : (evaluations loads).step db l = some db') :
    Final loads db l db' ∧ Sound loads db' := by
  cases l with
  | insertIncident incident =>
    cases hstep
    exact ⟨fun id c hc hlab _ => ⟨c, hc, h id c hc hlab, fun _ _ hw => hw, fun _ hw => Or.inl hw⟩,
      h⟩
  | insertCase row =>
    change (if _ ∧ _ then _ else none) = _ at hstep
    split_ifs at hstep with hnew
    cases hstep
    obtain ⟨hfresh, hunlabelled⟩ := hnew
    constructor
    · intro id c hc hlab _
      have hne : id ≠ row.id := by
        rintro rfl
        rw [hfresh] at hc
        cases hc
      refine ⟨c, ?_, h id c hc hlab, fun _ _ hw => hw, fun _ hw => Or.inl hw⟩
      show get (insert db.cases row) id = some c
      exact (get_insert db.cases row hfresh id).trans ((if_neg hne).trans hc)
    · intro id c hc hlab
      change get (insert db.cases row) id = some c at hc
      rw [get_insert db.cases row hfresh] at hc
      split_ifs at hc
      · cases hc
        exact nested_of_unlabelled hunlabelled
      · exact h id c hc hlab
  | evaluate now limit =>
    cases hstep
    have hrows := rows_evaluateRegressions loads now limit db
    constructor
    · intro id c hc hlab _
      obtain ⟨c', hc', hrelabel⟩ := rel_of_some (hrows id) hc
      refine ⟨c', hc', hrelabel.nested hlab (h id c hc hlab), hrelabel.kept hlab, fun w hw => ?_⟩
      rcases hrelabel.passed hlab w hw with hw | ⟨at', hat, hle⟩
      · exact Or.inl hw
      · exact Or.inr ⟨now, limit, at', rfl, hat, hle⟩
    · intro id c' hc' hlab
      obtain ⟨c, hc, hrelabel⟩ := rel_of_some_right (hrows id) hc'
      have hlab' := hrelabel.lab.symm.trans hlab
      exact hrelabel.nested hlab' (h id c hc hlab')

/-- **The labels are final.**  From cases without labels, in every run of evaluations and of
Incidents and cases that are inserted, for each verified row that is no lab row: a label that
is set stays, the labels are nested, and a label becomes false only in an evaluation after its
window. -/
theorem labels_final (loads : String → Option (Value J)) (db : Db)
    (hnew : ∀ c ∈ db.cases, c.unlabelled = true) (ls : List Label) :
    (evaluations loads).Always (Final loads) db ls := by
  apply System.always_of_invariant (evaluations loads) (Final loads) (Sound loads)
    (fun _ _ _ => final_step) ls db
  intro id c hc _
  exact nested_of_unlabelled (hnew c (mem_of_get hc))

/-- A run in which the fault of a case that was verified at 0 comes back after two hours. -/
theorem labels_final_recurs :
    (evaluations fun _ => (none : Option (Value Unit))).Always
      (Final fun _ => (none : Option (Value Unit)))
      ⟨[⟨1, 1, none, "OSD_DOWN", none, "VERIFIED_SUCCESS", some 0, fun _ => none⟩], []⟩
      [.insertIncident ⟨2, 7200000000⟩,
        .insertCase ⟨2, 2, none, "OSD_DOWN", none, "PROPOSED", none, fun _ => none⟩,
        .evaluate 10800000000 200] :=
  labels_final _ _ (by decide) _

end CephAi.Ports.Regressions
