import CephAi.Ports.TelegramApproval
import CephAi.Verified.Runs

/-!
# Choices, approvals and the Worker

The calls that choose an application for a pool, decide on an Action, or execute it, any number
of them at once.  A transaction reads its row in one step and writes it in another; the choice
of a callback and the decision after it are two transactions.

The choice of a callback does not look at the status, and it is stored before the core looks.
Where no choice is stored for an Action that has left `PENDING_APPROVAL`, what was approved is
what is executed.

## Main results

* `stepped_of_step` — what each step does.
* `content_step`, `kept_step` — what a step leaves of the Actions that were decided.
* `content_kept` — the command of an Action over runs whose choices are in time and are followed
  by an approval.
* `executed_late_choice` — a press after the approval that is executed.
-/

namespace CephAi.Ports.PoolChoices

open Verified.Runs CommandParams TelegramApproval
open Models (ActionStatus)

/-! ## Calls -/

/-- `action_id` and `action_params` -/
abbrev Content := String × Column

/-- The core that a call ends with. -/
inductive Decision
  | approve
  | reject
  | cancelGrace
deriving DecidableEq, Repr

/-- The choice of a callback, or of the form of the Dashboard. -/
inductive Chooser
  | callback
  | form
deriving DecidableEq, Repr

/-- Where a call is. -/
inductive Phase
  | idle
  /-- Before a choice reads its row. -/
  | choosing (by_ : Chooser) (id app : String)
  /-- The choice sets these columns. -/
  | chosen (by_ : Chooser) (id : String) (actionId : Option String) (params : Column)
  /-- Before the core reads its row. -/
  | deciding (id : String) (d : Decision)
  /-- The core has checked this row. -/
  | decided (id : String) (d : Decision) (a : Action)
  /-- A Worker has read the row as approved. -/
  | polled (id : String) (content : Content)

/-- What an answered call leaves: the columns that a callback's choice found and wrote. -/
structure Report where
  answer : Answer
  write : Option (Content × Content)

structure World where
  db : Db
  calls : Nat → Phase
  /-- What the choice of the running call found and wrote. -/
  writes : Nat → Option (Content × Content)
  /-- The Actions that have left `PENDING_APPROVAL`. -/
  left : List String
  /-- What was in the row when an approval took effect. -/
  approvals : List (String × Content)
  /-- What the Worker builds its commands from. -/
  executed : List (String × Content)
  reports : List Report

/-- What the first transaction of `_execute_approved_action` finds of an approved Action. -/
inductive Poll
  | pass
  /-- The policy or the evidence has changed. -/
  | reapprove
  | synthetic
deriving DecidableEq, Repr

/-- A step; the first argument is the call. -/
inductive Label
  | callback (p : Nat) (u : Callback)
  | form (p : Nat) (r : Approval)
  | rejectForm (p : Nat) (id : String)
  | read (p : Nat) (live : Live)
  | write (p : Nat)
  | poll (p : Nat) (id : String) (found : Poll)
  | execute (p : Nat)
  /-- Another status that the Worker writes. -/
  | record (id : String) (status : ActionStatus)
  /-- The call ends, or is lost. -/
  | stop (p : Nat)

/-! ## Steps -/

def World.content (w : World) (id : String) : Option Content :=
  (w.db.action? id).map Action.content

def World.goTo (w : World) (p : Nat) (ph : Phase) : World :=
  { w with calls := Function.update w.calls p ph }

def World.begin_ (w : World) (p : Nat) (ph : Phase) : World :=
  { w with calls := Function.update w.calls p ph, writes := Function.update w.writes p none }

/-- A call is answered. -/
def World.report (w : World) (p : Nat) (answer : Answer) : World :=
  { w.goTo p .idle with reports := ⟨answer, w.writes p⟩ :: w.reports }

/-- The status of an Action is written. -/
def World.setStatus (w : World) (id : String) (status : ActionStatus) : World :=
  { w with
    db := w.db.setAction id fun a => { a with status := status }
    left := if w.db.statusOf id = some .pendingApproval ∧ status ≠ .pendingApproval then
        id :: w.left
      else w.left }

/-- The columns that a choice sets. -/
def chosenContent (actionId : Option String) (params : Column) (a : Action) : Content :=
  (actionId.getD a.actionId, params)

/-- A choice is stored. -/
def World.store (w : World) (p : Nat) (by_ : Chooser) (id : String) (actionId : Option String)
    (params : Column) : World :=
  { w with
    db := w.db.setAction id fun a =>
      { a with actionId := (chosenContent actionId params a).1, actionParams := params }
    writes := Function.update w.writes p (match by_ with
      | .callback => (w.db.action? id).map fun a => (a.content, chosenContent actionId params a)
      | .form => none) }

def coreCheck (S : Site) (d : Decision) (a : Action) (live : Live) : Option Answer :=
  match d with
  | .approve => approveCheck S a live.now live.gates
  | .reject => if a.status ≠ .pendingApproval then some (.outcome .alreadyHandled) else none
  | .cancelGrace => if a.status ≠ .gracePending then some (.outcome .alreadyHandled) else none

/-- The status that the core writes. -/
def decidedStatus (S : Site) (d : Decision) (a : Action) : ActionStatus :=
  match d with
  | .approve => approvedStatus S a
  | .reject | .cancelGrace => .rejected

/-- What the core answers. -/
def decidedOutcome (S : Site) (d : Decision) (a : Action) : Outcome :=
  match d with
  | .approve => if S.hasCommand a.actionId then .approved else .acknowledged
  | .reject | .cancelGrace => .rejected

/-- An approval that takes effect is noted with the row it is for. -/
def World.note (w : World) (id : String) (status : ActionStatus) : World :=
  { w with
    approvals := if status = .approved then
        ((w.content id).map (Prod.mk id)).toList ++ w.approvals
      else w.approvals }

/-- What a choice reads: the columns it sets. -/
def chooserRead (S : Site) (db : Db) (by_ : Chooser) (a : Action) (app evidence : String) :
    Except Answer (Option String × Column) :=
  match by_ with
  | .form => (preparePoolChoice S a (db.incidentOf a) app evidence).map fun chosen =>
    (some chosen.actionId, chosen.actionParams)
  | .callback => (chooseOrPrepare S db a app evidence).map fun chosen =>
    (if chosen.actionId = a.actionId then none else some chosen.actionId, chosen.actionParams)

/-- Where a callback goes: what it is trusted with, or its answer. -/
def callbackPhase (S : Site) (db : Db) (u : Callback) : Except Answer Phase :=
  match press u.data with
  | none => .error (.refused "unrecognized callback_data")
  | some b =>
    let id := unqualify b.ref
    if !authorised S db ((db.action? id).bind db.incidentOf) u.chat u.sender then
      .error (.refused "Không có quyền")
    else
      match b with
      | .verdict _ => .error (.refused "verdict")
      | .approve _ =>
        if ((db.action? id).bind (typedConfirmation S)).isSome then
          .error (.refused "Cần gõ xác nhận")
        else .ok (.deciding id .approve)
      | .poolApp app _ => .ok (.choosing .callback id app)
      | .reject _ => .ok (.deciding id .reject)
      | .cancelGrace _ => .ok (.deciding id .cancelGrace)

/-- Where a form of the Dashboard goes. -/
def formPhase (S : Site) (db : Db) (r : Approval) : Except Answer Phase :=
  match db.action? r.id with
  | none => .error .notFound
  | some a =>
    if !authorizeActionRoute S db a r.user then .error (.refused "403")
    else
      match requireAdmin S db a r with
      | some answer => .error answer
      | none =>
        if r.poolApp = "" then .ok (.deciding r.id .approve)
        else .ok (.choosing .form r.id r.poolApp)

/-- One step; `none` when it is not the call's turn. -/
def step (S : Site) (w : World) : Label → Option World
  | .callback p u =>
    match w.calls p with
    | .idle =>
      match callbackPhase S w.db u with
      | .error answer => some ((w.begin_ p .idle).report p answer)
      | .ok ph => some (w.begin_ p ph)
    | _ => none
  | .form p r =>
    match w.calls p with
    | .idle =>
      match formPhase S w.db r with
      | .error answer => some ((w.begin_ p .idle).report p answer)
      | .ok ph => some (w.begin_ p ph)
    | _ => none
  | .rejectForm p id =>
    match w.calls p with
    | .idle => some (w.begin_ p (.deciding id .reject))
    | _ => none
  | .read p live =>
    match w.calls p with
    | .choosing by_ id app =>
      match w.db.action? id with
      | none => some (w.report p .notFound)
      | some a =>
        match chooserRead S w.db by_ a app live.evidence with
        | .error answer => some (w.report p answer)
        | .ok (actionId, params) => some (w.goTo p (.chosen by_ id actionId params))
    | .deciding id d =>
      match w.db.action? id with
      | none => some (w.report p .notFound)
      | some a =>
        match coreCheck S d a live with
        | some answer => some (w.report p answer)
        | none => some (w.goTo p (.decided id d a))
    | _ => none
  | .write p =>
    match w.calls p with
    | .chosen by_ id actionId params =>
      some ((w.store p by_ id actionId params).goTo p (.deciding id .approve))
    | .decided id d a =>
      some (((w.note id (decidedStatus S d a)).setStatus id (decidedStatus S d a)).report p
        (.outcome (decidedOutcome S d a)))
    | _ => none
  | .poll p id found =>
    match w.calls p with
    | .idle =>
      match w.db.action? id with
      | none => none
      | some a =>
        if a.status ≠ .approved then none
        else
          match found with
          | .pass => some (w.begin_ p (.polled id a.content))
          | .reapprove => some (w.setStatus id .pendingApproval)
          | .synthetic => some (w.setStatus id .rejected)
    | _ => none
  | .execute p =>
    match w.calls p with
    | .polled id content => some ({ w with executed := (id, content) :: w.executed }.goTo p .idle)
    | _ => none
  | .record id status => if status = .approved then none else some (w.setStatus id status)
  | .stop p => some (w.goTo p .idle)

/-- The calls of the installation. -/
def approvals (S : Site) : System World Label := ⟨step S⟩

/-- The approved Actions of the tables. -/
def approvedRows (db : Db) : List (String × Content) :=
  (db.actions.filter (·.status == .approved)).map fun a => (a.id, a.content)

/-- The tables, no call, and the Actions that have left `PENDING_APPROVAL` before: these, and the
approved ones. -/
def World.start (db : Db) (left : List String) : World where
  db := db
  calls := fun _ => .idle
  writes := fun _ => none
  left := (approvedRows db).map Prod.fst ++ left
  approvals := approvedRows db
  executed := []
  reports := []

/-! ## What a step does -/

/-- A place where a call begins. -/
def Phase.starts : Phase → Bool
  | .choosing .. | .deciding .. => true
  | _ => false

/-- The steps, one by one. -/
inductive Stepped (S : Site) (w : World) : Label → World → Prop
  | away {l : Label} (p : Nat) (answer : Answer) :
      Stepped S w l ((w.begin_ p .idle).report p answer)
  | began {l : Label} {p : Nat} {ph : Phase} (hstart : ph.starts = true) :
      Stepped S w l (w.begin_ p ph)
  | failed {l : Label} {p : Nat} {by_ : Chooser} {id app : String} {answer : Answer}
      (hp : w.calls p = .choosing by_ id app) : Stepped S w l (w.report p answer)
  | chose {l : Label} {p : Nat} {by_ : Chooser} {id app : String} (actionId : Option String)
      (params : Column) (hp : w.calls p = .choosing by_ id app) :
      Stepped S w l (w.goTo p (.chosen by_ id actionId params))
  | missing {l : Label} {p : Nat} {id : String} {d : Decision}
      (hp : w.calls p = .deciding id d) : Stepped S w l (w.report p .notFound)
  | answered {p : Nat} {live : Live} {id : String} {d : Decision} {a : Action} {answer : Answer}
      (hp : w.calls p = .deciding id d) (ha : w.db.action? id = some a)
      (hcheck : coreCheck S d a live = some answer) :
      Stepped S w (.read p live) (w.report p answer)
  | checked {l : Label} {p : Nat} {live : Live} {id : String} {d : Decision} {a : Action}
      (hp : w.calls p = .deciding id d) (ha : w.db.action? id = some a)
      (hcheck : coreCheck S d a live = none) : Stepped S w l (w.goTo p (.decided id d a))
  | stored {p : Nat} {by_ : Chooser} {id : String} {actionId : Option String} {params : Column}
      (hp : w.calls p = .chosen by_ id actionId params) :
      Stepped S w (.write p) ((w.store p by_ id actionId params).goTo p (.deciding id .approve))
  | decided {l : Label} {p : Nat} {id : String} {d : Decision} {a : Action}
      (hp : w.calls p = .decided id d a) :
      Stepped S w l (((w.note id (decidedStatus S d a)).setStatus id (decidedStatus S d a)).report
        p (.outcome (decidedOutcome S d a)))
  | polled {l : Label} {p : Nat} {id : String} {a : Action} (ha : w.db.action? id = some a)
      (hstatus : a.status = .approved) : Stepped S w l (w.begin_ p (.polled id a.content))
  | executed {l : Label} {p : Nat} {id : String} {content : Content}
      (hp : w.calls p = .polled id content) :
      Stepped S w l ({ w with executed := (id, content) :: w.executed }.goTo p .idle)
  | recorded {l : Label} {id : String} {status : ActionStatus} (hst : status ≠ .approved) :
      Stepped S w l (w.setStatus id status)
  | stopped {l : Label} (p : Nat) : Stepped S w l (w.goTo p .idle)

variable {S : Site} {id id' : String} {l : Label} {ph : Phase} {status : ActionStatus} {w : World}

theorem callbackPhase_starts {db : Db} {u : Callback} (h : callbackPhase S db u = .ok ph) :
    ph.starts = true := by
  revert h
  fun_cases callbackPhase S db u <;> rintro ⟨⟩ <;> rfl

theorem formPhase_starts {db : Db} {r : Approval} (h : formPhase S db r = .ok ph) :
    ph.starts = true := by
  revert h
  fun_cases formPhase S db r <;> rintro ⟨⟩ <;> rfl

theorem stepped_of_step {w' : World} (hstep : step S w l = some w') : Stepped S w l w' := by
  revert hstep
  fun_cases step S w l <;> rintro ⟨⟩
  · exact .away _ _
  next hph => exact .began (callbackPhase_starts hph)
  · exact .away _ _
  next hph => exact .began (formPhase_starts hph)
  · exact .began rfl
  next hp _ => exact .failed hp
  next hp _ _ _ _ => exact .failed hp
  next hp _ _ _ _ _ => exact .chose _ _ hp
  next hp _ => exact .missing hp
  next hp _ ha _ hcheck => exact .answered hp ha hcheck
  next hp _ ha hcheck => exact .checked hp ha hcheck
  next hp => exact .stored hp
  next hp => exact .decided hp
  next ha hstatus => exact .polled ha (not_not.mp hstatus)
  · exact .recorded (by decide)
  · exact .recorded (by decide)
  next hp => exact .executed hp
  next hst => exact .recorded hst
  · exact .stopped _

/-! ## Choices in time -/

/-- The condition on a step.  A choice is stored for an Action that has not left
`PENDING_APPROVAL`, or changes nothing; and the core finds nothing against the Action of a call
whose choice has changed it. -/
def InTime (S : Site) (w : World) : Label → Prop
  | .write p => ∀ by_ id actionId params, w.calls p = .chosen by_ id actionId params →
      id ∈ w.left → ∀ a, w.db.action? id = some a → chosenContent actionId params a = a.content
  | .read p live => ∀ id d, w.calls p = .deciding id d → ∀ found wrote,
      w.writes p = some (found, wrote) → found ≠ wrote →
      ∀ a, w.db.action? id = some a → coreCheck S d a live = none
  | _ => True

/-- An answer that reports no effect. -/
def Ineffective (answer : Answer) : Prop :=
  answer = .outcome .alreadyHandled ∨ answer = .outcome .expired ∨
    ∃ detail, answer = .conflict detail

/-- What holds of the Actions, the calls and what has happened. -/
structure Kept (w : World) : Prop where
  approved : ∀ id, w.db.statusOf id = some .approved → ∃ c, (id, c) ∈ w.approvals
  frozen : ∀ id c, (id, c) ∈ w.approvals → id ∈ w.left ∧ w.content id = some c
  polled : ∀ p id c, w.calls p = .polled id c → (id, c) ∈ w.approvals
  executed : ∀ id c, (id, c) ∈ w.executed → (id, c) ∈ w.approvals
  decided : ∀ p id a, w.calls p = .decided id .approve a →
    w.db.statusOf id = some .pendingApproval ∨ id ∈ w.left
  choosing : ∀ p by_ id app, w.calls p = .choosing by_ id app → w.writes p = none
  reports : ∀ r ∈ w.reports, Ineffective r.answer → ∀ found wrote,
    r.write = some (found, wrote) → found = wrote

variable {S : Site} {w w' : World}

theorem World.content_setStatus (w : World) (id : String) (status : ActionStatus) (id' : String) :
    (w.setStatus id status).content id' = w.content id' := by
  unfold World.content World.setStatus
  rw [Db.action?_setAction, Option.map_map]
  congr 1
  funext a
  show Action.content (if id' = id then _ else a) = a.content
  split <;> rfl

theorem World.content_store (w : World) (p : Nat) (by_ : Chooser) (id : String)
    (actionId : Option String) (params : Column) (id' : String) :
    (w.store p by_ id actionId params).content id' = (w.db.action? id').map fun a =>
      if id' = id then chosenContent actionId params a else a.content := by
  unfold World.content World.store
  rw [Db.action?_setAction, Option.map_map]
  congr 1
  funext a
  show Action.content (if id' = id then _ else a) = _
  split <;> rfl

theorem World.mem_left_setStatus (h : id' ∈ w.left) : id' ∈ (w.setStatus id status).left := by
  show id' ∈ if w.db.statusOf id = some .pendingApproval ∧ status ≠ .pendingApproval then
    id :: w.left else w.left
  split
  · exact List.mem_cons_of_mem _ h
  · exact h

theorem World.statusOf_setStatus (w : World) (id : String) (status : ActionStatus) (id' : String) :
    (w.setStatus id status).db.statusOf id' =
      (w.db.action? id').map fun a => if id' = id then status else a.status :=
  Db.statusOf_setAction _ _ _ _

theorem World.left_of_pending (hpending : w.db.statusOf id = some .pendingApproval)
    (hst : status ≠ .pendingApproval) : id ∈ (w.setStatus id status).left := by
  unfold World.setStatus
  dsimp only
  rw [if_pos ⟨hpending, hst⟩]
  exact List.mem_cons_self

theorem World.open_setStatus (h : w.db.statusOf id' = some .pendingApproval ∨ id' ∈ w.left) :
    (w.setStatus id status).db.statusOf id' = some .pendingApproval ∨
      id' ∈ (w.setStatus id status).left := by
  rcases h with hpending | hleft
  · obtain ⟨b, hb, hstatus⟩ := Option.map_eq_some_iff.mp hpending
    rw [World.statusOf_setStatus, hb, Option.map_some]
    by_cases hsame : id' = id
    · rw [if_pos hsame]
      by_cases hopen : status = .pendingApproval
      · rw [hopen]
        exact .inl rfl
      · right
        rw [hsame] at hpending ⊢
        exact World.left_of_pending hpending hopen
    · rw [if_neg hsame, hstatus]
      exact .inl rfl
  · exact .inr (World.mem_left_setStatus hleft)

variable {p : Nat}

theorem content_store_of_left {by_ : Chooser} {actionId : Option String} {params : Column}
    (hp : w.calls p = .chosen by_ id actionId params) (htime : InTime S w (.write p))
    (hleft : id' ∈ w.left) : (w.store p by_ id actionId params).content id' = w.content id' := by
  rw [World.content_store]
  unfold World.content
  cases ha : w.db.action? id' with
  | none => rfl
  | some a =>
    rw [Option.map_some, Option.map_some]
    split_ifs with hsame
    · rw [hsame] at ha hleft
      rw [htime by_ id actionId params hp hleft a ha]
    · rfl

/-- **Step lemma.**  A step in time leaves what is in the rows that were decided. -/
theorem content_step (htime : InTime S w l) (hstep : Stepped S w l w') (hleft : id ∈ w.left) :
    id ∈ w'.left ∧ w'.content id = w.content id := by
  cases hstep with
  | stored hp => exact ⟨hleft, content_store_of_left hp htime hleft⟩
  | decided hp =>
    exact ⟨World.mem_left_setStatus hleft, World.content_setStatus _ _ _ _⟩
  | recorded hst => exact ⟨World.mem_left_setStatus hleft, World.content_setStatus _ _ _ _⟩
  | away | began | failed | chose | missing | answered | checked | polled | executed | stopped =>
    exact ⟨hleft, rfl⟩

/-! ## What holds in every state -/

section

variable (h : Kept w)
include h

theorem Kept.move {calls : Nat → Phase} {writes : Nat → Option (Content × Content)}
    (hpolled : ∀ p id c, calls p = .polled id c → (id, c) ∈ w.approvals)
    (hdecided : ∀ p id a, calls p = .decided id .approve a →
      w.db.statusOf id = some .pendingApproval ∨ id ∈ w.left)
    (hchoosing : ∀ p by_ id app, calls p = .choosing by_ id app → writes p = none) :
    Kept { w with calls := calls, writes := writes } :=
  ⟨h.approved, h.frozen, hpolled, h.executed, hdecided, hchoosing, h.reports⟩

/-- A call goes on. -/
theorem Kept.goTo (p : Nat)
    (hpolled : ∀ id c, ph = .polled id c → (id, c) ∈ w.approvals)
    (hdecided : ∀ id a, ph = .decided id .approve a →
      w.db.statusOf id = some .pendingApproval ∨ id ∈ w.left)
    (hchoosing : ∀ by_ id app, ph ≠ .choosing by_ id app) : Kept (w.goTo p ph) := by
  apply h.move
  · intro q id c hq
    rw [Function.update_apply] at hq
    split_ifs at hq
    · exact hpolled id c hq
    · exact h.polled q id c hq
  · intro q id a hq
    rw [Function.update_apply] at hq
    split_ifs at hq
    · exact hdecided id a hq
    · exact h.decided q id a hq
  · intro q by_ id app hq
    rw [Function.update_apply] at hq
    split_ifs at hq
    · exact absurd hq (hchoosing by_ id app)
    · exact h.choosing q by_ id app hq

theorem Kept.begin_ (p : Nat) (hpolled : ∀ id c, ph = .polled id c → (id, c) ∈ w.approvals)
    (hdecided : ∀ id a, ph ≠ .decided id .approve a) : Kept (w.begin_ p ph) := by
  apply h.move
  · intro q id c hq
    rw [Function.update_apply] at hq
    split_ifs at hq
    · exact hpolled id c hq
    · exact h.polled q id c hq
  · intro q id a hq
    rw [Function.update_apply] at hq
    split_ifs at hq
    · exact absurd hq (hdecided id a)
    · exact h.decided q id a hq
  · intro q by_ id app hq
    rw [Function.update_apply] at hq ⊢
    split_ifs at hq ⊢
    · rfl
    · exact h.choosing q by_ id app hq

/-- A call is answered. -/
theorem Kept.report (p : Nat) {answer : Answer}
    (hanswer : Ineffective answer → ∀ found wrote, w.writes p = some (found, wrote) →
      found = wrote) : Kept (w.report p answer) := by
  have hidle : Kept (w.goTo p .idle) := by
    apply h.goTo
    · intro id c hno
      cases hno
    · intro id a hno
      cases hno
    · intro by_ id app hno
      cases hno
  refine ⟨hidle.approved, hidle.frozen, hidle.polled, hidle.executed, hidle.decided,
    hidle.choosing, ?_⟩
  intro r hr hbad found wrote hwrite
  rcases List.mem_cons.mp hr with hnew | hold
  · rw [hnew] at hbad hwrite
    exact hanswer hbad found wrote hwrite
  · exact h.reports r hold hbad found wrote hwrite

theorem Kept.setStatus (id : String) (hst : status ≠ .approved) : Kept (w.setStatus id status) := by
  refine ⟨?_, ?_, h.polled, h.executed, ?_, h.choosing, h.reports⟩
  · intro id' happroved
    rw [World.statusOf_setStatus] at happroved
    obtain ⟨a, ha, hstatus⟩ := Option.map_eq_some_iff.mp happroved
    split_ifs at hstatus
    · exact absurd hstatus hst
    · apply h.approved id'
      rw [statusOf_of_action? ha, hstatus]
  · intro id' c hc
    obtain ⟨hleft, hcontent⟩ := h.frozen id' c hc
    refine ⟨World.mem_left_setStatus hleft, ?_⟩
    rw [World.content_setStatus]
    exact hcontent
  · intro p id' a hp
    exact World.open_setStatus (h.decided p id' a hp)
theorem Kept.approve (hopen : w.db.statusOf id = some .pendingApproval ∨ id ∈ w.left) :
    Kept ((w.note id .approved).setStatus id .approved) := by
  have hold : ∀ e ∈ w.approvals, e ∈ (w.note id .approved).approvals := by
    intro e he
    exact List.mem_append_right _ he
  have hleft : ∀ id', id' ∈ w.left → id' ∈ ((w.note id .approved).setStatus id .approved).left :=
    fun id' h' => World.mem_left_setStatus (w := w.note id .approved) h'
  refine ⟨?_, ?_, fun p id' c hp => hold _ (h.polled p id' c hp),
    fun id' c hc => hold _ (h.executed id' c hc), ?_, h.choosing, h.reports⟩
  · intro id' happroved
    rw [World.statusOf_setStatus] at happroved
    obtain ⟨a, ha, hstatus⟩ := Option.map_eq_some_iff.mp happroved
    have hrow : w.db.action? id' = some a := ha
    split_ifs at hstatus with hsame
    · refine ⟨a.content, List.mem_append_left _ ?_⟩
      unfold World.content
      rw [← hsame, hrow]
      exact List.mem_singleton_self _
    · obtain ⟨c, hc⟩ := h.approved id' (by rw [statusOf_of_action? hrow, hstatus])
      exact ⟨c, hold _ hc⟩
  · intro id' c hc
    rw [World.content_setStatus]
    rcases List.mem_append.mp hc with hnew | hkept
    · obtain ⟨c', hc', heq⟩ := Option.map_eq_some_iff.mp (Option.mem_toList.mp hnew)
      cases heq
      refine ⟨?_, hc'⟩
      rcases hopen with hpending | hgone
      · exact World.left_of_pending (w := w.note id .approved) hpending (by decide)
      · exact hleft id hgone
    · obtain ⟨hgone, hcontent⟩ := h.frozen id' c hkept
      exact ⟨hleft id' hgone, hcontent⟩
  · intro p id' a hp
    exact World.open_setStatus (w := w.note id .approved) (h.decided p id' a hp)

theorem Kept.decide {d : Decision} {a : Action} (hp : w.calls p = .decided id d a) :
    Kept ((w.note id (decidedStatus S d a)).setStatus id (decidedStatus S d a)) := by
  by_cases happroved : decidedStatus S d a = .approved
  · rw [happroved]
    apply h.approve
    cases d with
    | approve => exact h.decided p id a hp
    | reject | cancelGrace => cases happroved
  · have hnote : w.note id (decidedStatus S d a) = w := by
      unfold World.note
      rw [if_neg happroved]
    rw [hnote]
    exact h.setStatus id happroved

theorem Kept.store {by_ : Chooser} {actionId : Option String} {params : Column}
    (hp : w.calls p = .chosen by_ id actionId params) (htime : InTime S w (.write p)) :
    Kept ((w.store p by_ id actionId params).goTo p (.deciding id .approve)) := by
  have hstatus : ∀ id', (w.store p by_ id actionId params).db.statusOf id' = w.db.statusOf id' := by
    intro id'
    unfold World.store
    rw [Db.statusOf_setAction]
    unfold Db.statusOf
    congr 1
    funext a
    split <;> rfl
  refine ⟨?_, ?_, ?_, h.executed, ?_, ?_, h.reports⟩
  · intro id' happroved
    exact h.approved id' ((hstatus id').symm.trans happroved)
  · intro id' c hc
    obtain ⟨hleft, hcontent⟩ := h.frozen id' c hc
    refine ⟨hleft, ?_⟩
    show (w.store p by_ id actionId params).content id' = some c
    rw [content_store_of_left hp htime hleft]
    exact hcontent
  · intro q id' c hq
    have hcall : Function.update w.calls p (.deciding id .approve) q = .polled id' c := hq
    rw [Function.update_apply] at hcall
    split_ifs at hcall
    exact h.polled q id' c hcall
  · intro q id' a hq
    have hcall : Function.update w.calls p (.deciding id .approve) q = .decided id' .approve a := hq
    rw [Function.update_apply] at hcall
    split_ifs at hcall
    rcases h.decided q id' a hcall with hpending | hleft
    · exact .inl ((hstatus id').trans hpending)
    · exact .inr hleft
  · intro q by' id' app hq
    have hcall : Function.update w.calls p (.deciding id .approve) q = .choosing by' id' app := hq
    rw [Function.update_apply] at hcall
    split_ifs at hcall with hqp
    show Function.update w.writes p _ q = none
    rw [Function.update_of_ne hqp]
    exact h.choosing q by' id' app hcall

end

theorem effective_of_decided (S : Site) (d : Decision) (a : Action) :
    ¬Ineffective (.outcome (decidedOutcome S d a)) := by
  unfold decidedOutcome
  rintro (hno | hno | ⟨detail, hno⟩)
  · cases d <;> simp at hno
    split at hno <;> cases hno
  · cases d <;> simp at hno
    split at hno <;> cases hno
  · cases hno

/-- **Step lemma.**  A step in time keeps what holds of the Actions and the calls. -/
theorem kept_step (h : Kept w) (htime : InTime S w l) (hstep : Stepped S w l w') : Kept w' := by
  have hidle : ∀ {v : World}, Kept v → ∀ p, Kept (v.goTo p .idle) := by
    intro v hv p
    exact hv.goTo p (fun _ _ hno => nomatch hno) (fun _ _ hno => nomatch hno)
      (fun _ _ _ hno => nomatch hno)
  cases hstep with
  | away p answer =>
    have hbegun : Kept (w.begin_ p .idle) :=
      h.begin_ p (fun _ _ hno => nomatch hno) (fun _ _ hno => nomatch hno)
    apply hbegun.report
    intro _ found wrote hwrite
    have hnone : Function.update w.writes p none p = some (found, wrote) := hwrite
    rw [Function.update_self] at hnone
    cases hnone
  | @began _ p ph hstart =>
    apply h.begin_ p
    · intro id c hph
      rw [hph] at hstart
      cases hstart
    · intro id a hph
      rw [hph] at hstart
      cases hstart
  | @failed _ p by_ id app answer hp =>
    apply h.report
    intro _ found wrote hwrite
    rw [h.choosing p by_ id app hp] at hwrite
    cases hwrite
  | chose actionId params hp =>
    exact h.goTo _ (fun _ _ hno => nomatch hno) (fun _ _ hno => nomatch hno)
      (fun _ _ _ hno => nomatch hno)
  | missing hp =>
    apply h.report
    rintro (hno | hno | ⟨detail, hno⟩) <;> cases hno
  | @answered p live id d a answer hp ha hcheck =>
    apply h.report
    intro _ found wrote hwrite
    by_contra hchanged
    have hpass := htime id d hp found wrote hwrite hchanged a ha
    rw [hcheck] at hpass
    cases hpass
  | @checked _ p live id d a hp ha hcheck =>
    apply h.goTo p
    · intro id' c hno
      cases hno
    · intro id' a' hph
      cases hph
      left
      rw [statusOf_of_action? ha]
      by_contra hclosed
      have hno : a.status ≠ .pendingApproval := fun hsame => hclosed (by rw [hsame])
      unfold coreCheck approveCheck at hcheck
      dsimp only at hcheck
      rw [if_pos hno] at hcheck
      cases hcheck
    · intro by_ id' app hno
      cases hno
  | stored hp => exact h.store hp htime
  | decided hp =>
    apply Kept.report (h.decide hp)
    intro hbad
    exact absurd hbad (effective_of_decided _ _ _)
  | @polled _ p id a ha hstatus =>
    apply h.begin_ p
    · intro id' c hph
      cases hph
      obtain ⟨c, hc⟩ := h.approved id (by rw [statusOf_of_action? ha, hstatus])
      have hcontent := (h.frozen id c hc).2
      unfold World.content at hcontent
      rw [ha] at hcontent
      cases hcontent
      exact hc
    · intro id' a' hno
      cases hno
  | @executed _ p id content hp =>
    apply hidle
    refine ⟨h.approved, h.frozen, h.polled, ?_, h.decided, h.choosing, h.reports⟩
    intro id' c hc
    rcases List.mem_cons.mp hc with hnew | hold
    · cases hnew
      exact h.polled p id content hp
    · exact h.executed id' c hold
  | recorded hst => exact h.setStatus _ hst
  | stopped p => exact hidle h p

/-! ## Runs -/

theorem kept_start (db : Db) (left : List String) : Kept (World.start db left) := by
  have hrows : ∀ id c, (id, c) ∈ approvedRows db →
      ∃ a, db.action? id = some a ∧ a.status = .approved ∧ a.content = c := by
    intro id c hc
    obtain ⟨a, ha, heq⟩ := List.mem_map.mp hc
    cases heq
    obtain ⟨hmem, hstatus⟩ := List.mem_filter.mp ha
    exact ⟨a, Db.action?_of_mem hmem, by simpa using hstatus, rfl⟩
  refine ⟨?_, ?_, ?_, ?_, ?_, ?_, ?_⟩
  · intro id happroved
    obtain ⟨a, ha, hstatus⟩ := Option.map_eq_some_iff.mp happroved
    refine ⟨a.content, List.mem_map.mpr ⟨a, List.mem_filter.mpr ⟨?_, by simp [hstatus]⟩, ?_⟩⟩
    · exact List.mem_of_find?_eq_some ha
    · rw [Db.id_of_action? ha]
  · intro id c hc
    obtain ⟨a, ha, _, hcontent⟩ := hrows id c hc
    refine ⟨List.mem_append_left _ (List.mem_map.mpr ⟨(id, c), hc, rfl⟩), ?_⟩
    show (db.action? id).map Action.content = some c
    rw [ha, Option.map_some, hcontent]
  · intro p id c hno
    cases hno
  · intro id c hno
    cases hno
  · intro p id a hno
    cases hno
  · intro p by_ id app hno
    cases hno
  · intro r hno
    cases hno

/-- **What was approved is what is executed.**  In a run whose choices are in time and are
followed by an approval, from any tables: what is in the row of an Action that has left
`PENDING_APPROVAL` stays, what the Worker executes is what was in the row at each approval, and
there was one; and a callback that reports no effect has changed nothing. -/
theorem content_kept {db : Db} {left : List String} {ls₁ ls₂ : List Label} {w₁ w₂ : World}
    (hrun₁ : (approvals S).run (World.start db left) ls₁ = some w₁)
    (hrun₂ : (approvals S).run w₁ ls₂ = some w₂)
    (htime₁ : (approvals S).Meets (InTime S) (World.start db left) ls₁)
    (htime₂ : (approvals S).Meets (InTime S) w₁ ls₂) :
    (∀ id ∈ w₁.left, w₂.content id = w₁.content id) ∧
    (∀ id c, (id, c) ∈ w₂.executed →
      (∃ c', (id, c') ∈ w₂.approvals) ∧ ∀ c', (id, c') ∈ w₂.approvals → c = c') ∧
    ∀ r ∈ w₂.reports, Ineffective r.answer →
      ∀ found wrote, r.write = some (found, wrote) → found = wrote := by
  have hkept₁ : Kept w₁ := by
    apply (approvals S).run_invariant_of_meets (InTime S) Kept _ ls₁ _ w₁ (kept_start db left)
      htime₁ hrun₁
    intro w l w' h htime hstep
    exact kept_step h htime (stepped_of_step hstep)
  have hkept₂ : Kept w₂ ∧ ∀ id ∈ w₁.left, id ∈ w₂.left ∧ w₂.content id = w₁.content id := by
    apply (approvals S).run_invariant_of_meets (InTime S)
      (fun w => Kept w ∧ ∀ id ∈ w₁.left, id ∈ w.left ∧ w.content id = w₁.content id) _ ls₂ w₁ w₂
      ⟨hkept₁, fun id hleft => ⟨hleft, rfl⟩⟩ htime₂ hrun₂
    rintro w l w' ⟨h, hsame⟩ htime hstep
    have hstepped := stepped_of_step hstep
    refine ⟨kept_step h htime hstepped, ?_⟩
    intro id hid
    obtain ⟨hleft, hcontent⟩ := hsame id hid
    obtain ⟨hleft', hcontent'⟩ := content_step htime hstepped hleft
    exact ⟨hleft', hcontent'.trans hcontent⟩
  obtain ⟨h, hsame⟩ := hkept₂
  refine ⟨fun id hid => (hsame id hid).2, ?_, h.reports⟩
  intro id c hc
  have happroved := h.executed id c hc
  refine ⟨⟨c, happroved⟩, ?_⟩
  intro c' hc'
  have hcontent := (h.frozen id c happroved).2
  rw [(h.frozen id c' hc').2] at hcontent
  exact (Option.some.inj hcontent).symm

/-! ## A late press -/

/-- An installation with one chat, whose members may decide. -/
def oneChat : Site where
  channels := ["-100"]
  approvalUserIds := ""
  membersAreOperators := false
  policy := ⟨[], [], [], []⟩
  upgradeIds := []
  deployIds := []
  hasCommand := fun _ => true
  mayApprove := fun _ _ => false
  isAdmin := fun _ => false
  chatAllowed := fun _ _ => false
  startsWith := fun _ _ => false
  render := fun _ => "?"

def enableRbd : Action where
  id := "a1"
  actionId := "enable_pool_application"
  status := .pendingApproval
  actionParams := .value (.dict [("pool_name", .str "vms"), ("app_name", .str "rbd")])
  incidentId := "i1"
  expiresAt := none

def poolDb : Db where
  actions := [enableRbd]
  unique := by decide
  incidents := []
  clusters := []
  messages := []
  overrides := []

def calm : Live := ⟨0, ⟨false, false, false, false, false⟩, ""⟩

def tap (data : String) : Callback := ⟨data, "-100", ⟨"7", false⟩⟩

/-- The Action is approved and executed. -/
def approvedOnce : List Label :=
  [.callback 0 (tap "approve:a1"), .read 0 calm, .write 0, .poll 1 "a1" .pass, .execute 1]

/-- The application is chosen again between the approval and the Worker's poll. -/
def chosenLate : List Label :=
  [.callback 0 (tap "approve:a1"), .read 0 calm, .write 0, .callback 2 (tap "poolapp:cephfs:a1"),
    .read 2 calm, .write 2, .poll 1 "a1" .pass, .execute 1]

theorem content_kept_approved : ∃ w, (approvals oneChat).run (World.start poolDb []) approvedOnce =
    some w ∧ ∀ id c, (id, c) ∈ w.executed →
      (∃ c', (id, c') ∈ w.approvals) ∧ ∀ c', (id, c') ∈ w.approvals → c = c' := by
  have htime : (approvals oneChat).Meets (InTime oneChat) (World.start poolDb []) approvedOnce := by
    refine ⟨trivial, ?_, ?_, trivial, trivial, trivial⟩
    · intro id d _ found wrote hwrote
      cases hwrote
    · intro by_ id actionId params hp
      cases hp
  exact ⟨_, rfl, (@content_kept oneChat poolDb [] [] approvedOnce _ _ rfl rfl trivial htime).2.1⟩

/-- What is executed is another application than was approved. -/
theorem executed_late_choice :
    ¬∀ w, (approvals oneChat).run (World.start poolDb []) chosenLate = some w →
      ∀ id c c', (id, c) ∈ w.executed → (id, c') ∈ w.approvals → c = c' := by
  intro h
  have happ := h _ rfl "a1"
    ("enable_pool_application",
      .value (.dict [("pool_name", .str "vms"), ("app_name", .str "cephfs")]))
    ("enable_pool_application",
      .value (.dict [("pool_name", .str "vms"), ("app_name", .str "rbd")]))
    List.mem_cons_self List.mem_cons_self
  simp at happ

end CephAi.Ports.PoolChoices
