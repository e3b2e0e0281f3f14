import Mathlib.Data.List.Nodup
import CephAi.Ports.FailureLab

/-!
# Decisions on reproduction proposals

`decide`, `claim` and `update` of `shared/reproduction_approval.py`, and `run_proposal` of
`shared/failure_lab_fault.py` around `_execute`, any number of processes on one directory of
proposals.  `decide` and `claim` read and write under the decision lock; the progress of a
runner is read and written without it.  A process may end, or an exception leave its call,
between any two steps.

Of `_execute` it matters here whether the fault was applied and how the call ended.  A
refusal ends it only while nothing was applied: every refusal is raised before
`injected.apply()`, or by one that changed nothing.

## Main results

* `stepped_of_step` — what each step does, one case for each outcome.
* `control_step` — a record under a runner is written by that runner only.
* `proposals_run_once` — what any run leaves of a proposal: one decision at most, none after
  its expiry, nothing run without an approval, and the fault applied once at most.
* `recorded_kept` — what runs is what was recorded.
-/

namespace CephAi.Ports.ReproductionApproval

open Verified Verified.Runs
open FailureLab (FaultKind FaultScenario LabConfig Proposal proposalScenario)

/-! ## Records -/

inductive Status
  | proposed
  | approved
  | skipped
  | running
  | done
  | failed
  /-- Another text, such as `REJECTED` of a proposal that is not valid. -/
  | other (text : String)
deriving DecidableEq, Repr

def Status.text : Status → String
  | .proposed => "PROPOSED"
  | .approved => "APPROVED"
  | .skipped => "SKIPPED"
  | .running => "RUNNING"
  | .done => "DONE"
  | .failed => "FAILED"
  | .other text => text

/-- `expires_at`, in microseconds; `naive` is a time without an offset. -/
inductive Expiry
  | invalid
  | naive
  | at (t : Int)
deriving DecidableEq, Repr

/-- The fields that no call changes. -/
structure Request where
  id : String
  /-- `source == "telegram_failure_lab"` -/
  telegram : Bool
  expiresAt : Expiry
  family : String
  faultKind : Option FaultKind
  maxSeconds : Option Int
  expectedHealthCodes : List String
  clusterId : String
  fsid : String
  channelId : String
deriving DecidableEq, Repr

/-- A file of the directory. -/
structure Record where
  key : Nat
  status : Status
  request : Request
  decidedBy : Option String
  decidedAt : Option Int
deriving DecidableEq, Repr

instance : Table.Keyed Record := ⟨Record.key⟩

/-- The arguments of `decide`. -/
structure Decision where
  key : Nat
  approve : Bool
  actor : String
  now : Option Int
deriving DecidableEq, Repr

def checkExpiry (r : Record) (now : Int) : Except String Unit :=
  if r.request.telegram then
    match r.request.expiresAt with
    | .invalid => .error "Thẻ duyệt Failure Lab thiếu hạn dùng hợp lệ."
    | .naive => .error "Thẻ duyệt Failure Lab đã hết hạn; hãy gửi yêu cầu mới."
    | .at t =>
      if t ≤ now then .error "Thẻ duyệt Failure Lab đã hết hạn; hãy gửi yêu cầu mới."
      else .ok ()
  else .ok ()

/-- A record in another status. -/
def wrongStatus (r : Record) : String :=
  "Đề xuất " ++ r.request.id ++ " đã ở trạng thái " ++ r.status.text ++ "."

/-- `decide` of the loaded record; without `now` the clock is read for the expiry and read
again for `decided_at`. -/
def decideRecord (d : Decision) (checkedAt decidedAt : Int) (r : Record) :
    Except String Record :=
  if r.status ≠ .proposed then .error (wrongStatus r)
  else match checkExpiry r (d.now.getD checkedAt) with
    | .error e => .error e
    | .ok _ =>
      if d.approve && r.request.faultKind.isNone then
        .error "Kiểu lỗi của đề xuất không còn trong bộ chạy; không duyệt được."
      else .ok { r with
        status := if d.approve then .approved else .skipped
        decidedBy := some d.actor
        decidedAt := some (d.now.getD decidedAt) }

def claimRecord (r : Record) : Except String Record :=
  if r.status ≠ .approved then .error (wrongStatus r)
  else .ok { r with status := .running }

/-- What `scenario_from_proposal` and the checks before it read of an approved record. -/
def Record.proposal (r : Record) : Proposal where
  key := r.key
  id := r.request.id
  status := .approved
  telegram := r.request.telegram
  family := r.request.family
  faultKind := r.request.faultKind
  maxSeconds := r.request.maxSeconds
  expectedHealthCodes := r.request.expectedHealthCodes
  clusterId := r.request.clusterId
  fsid := r.request.fsid
  channelId := r.request.channelId

/-- `run_proposal` before its claim. -/
def runnable (faults : List FaultScenario) (clusterId : String) (config : LabConfig)
    (r : Record) : Except String FaultScenario :=
  if r.status ≠ .approved then
    .error ("proposal " ++ r.request.id ++ " is " ++ r.status.text ++ ", not APPROVED")
  else proposalScenario faults clusterId r.proposal config

/-! ## Processes -/

/-- A call that works under the decision lock; `run` is a claim of `run_proposal`. -/
inductive Op
  | decide (d : Decision)
  | claim (key : Nat) (run : Bool)
deriving DecidableEq, Repr

def Op.key : Op → Nat
  | .decide d => d.key
  | .claim key _ => key

/-- What it makes of the record. -/
def Op.conclude (op : Op) (checkedAt decidedAt : Int) (r : Record) : Except String Record :=
  match op with
  | .decide d => decideRecord d checkedAt decidedAt r
  | .claim _ _ => claimRecord r

/-- The proposal that is run after it. -/
def Op.next : Op → Option Nat
  | .decide _ => none
  | .claim key run => if run then some key else none

/-- Why a runner updates its record; `reported` stores the learning summary. -/
inductive Outcome
  | refused
  | failed
  | done
  | reported
deriving DecidableEq, Repr

/-- The status of the record before the update. -/
def Outcome.before : Outcome → Status
  | .reported => .done
  | _ => .running

/-- The `status` among the fields of the update. -/
def Outcome.status : Outcome → Option Status
  | .refused => some .approved
  | .failed => some .failed
  | .done => some .done
  | .reported => none

/-- Where a process is. -/
inductive Phase
  | idle
  /-- Before the decision lock. -/
  | waiting (op : Op)
  | inside (op : Op)
  | loaded (op : Op) (r : Record)
  /-- The lock is still held; then the proposal is run. -/
  | releasing (next : Option Nat)
  /-- In `_execute`. -/
  | executing (key : Nat) (applied : Bool)
  | updating (key : Nat) (outcome : Outcome)
  /-- The update has merged its fields into what it read. -/
  | merging (key : Nat) (outcome : Outcome) (r : Record)
  /-- `DONE` is written. -/
  | reporting (key : Nat)
deriving DecidableEq, Repr

/-- Where a call goes on without the lock. -/
def Phase.unlocked : Option Nat → Phase
  | none => .idle
  | some key => .executing key false

/-- What has happened. -/
structure History where
  /-- The decisions that were written: what was decided, and when its expiry was checked. -/
  decisions : List (Decision × Int)
  /-- The claims that were written. -/
  claims : List Nat
  /-- The proposals whose fault was applied. -/
  applied : List Nat
deriving DecidableEq, Repr

structure World where
  records : List Record
  lock : Option Nat
  calls : Nat → Phase
  hist : History

/-- A step; the first argument is the process. -/
inductive Label
  | decide (p : Nat) (d : Decision)
  | claim (p key : Nat)
  | runProposal (p key : Nat) (clusterId : String) (config : LabConfig)
  | acquire (p : Nat)
  /-- The file is read. -/
  | load (p : Nat)
  /-- The loaded record is checked, and replaced when nothing is raised. -/
  | conclude (p : Nat) (checkedAt decidedAt : Int)
  | release (p : Nat)
  /-- `injected.apply()` changes the cluster. -/
  | apply (p : Nat)
  /-- `FaultRefused` -/
  | refuse (p : Nat)
  /-- Another exception in `_execute`. -/
  | fail (p : Nat)
  | finish (p : Nat)
  /-- The merged record replaces the file. -/
  | write (p : Nat)
  /-- The learning summary is stored. -/
  | summarize (p : Nat)
  /-- The process ends, or an exception leaves the call. -/
  | stop (p : Nat)

/-! ## Steps -/

/-- The process goes on. -/
def World.goTo (w : World) (p : Nat) (ph : Phase) : World :=
  { w with calls := Function.update w.calls p ph }

/-- `_write` -/
def World.put (w : World) (r : Record) : World :=
  { w with records := Table.modify w.records r.key fun s => { r with key := s.key } }

/-- The end of a process frees its locks. -/
def World.unlock (w : World) (p : Nat) : World :=
  { w with lock := if w.lock = some p then none else w.lock }

/-- What is noted of a record that was written under the lock. -/
def History.note (h : History) (op : Op) (checkedAt : Int) : History :=
  match op with
  | .decide d => { h with decisions := (d, d.now.getD checkedAt) :: h.decisions }
  | .claim key _ => { h with claims := key :: h.claims }

/-- One step; `none` when it is not the process's turn. -/
def step (faults : List FaultScenario) (w : World) : Label → Option World
  | .decide p d => if w.calls p = .idle then some (w.goTo p (.waiting (.decide d))) else none
  | .claim p key =>
    if w.calls p = .idle then some (w.goTo p (.waiting (.claim key false))) else none
  | .runProposal p key clusterId config =>
    if w.calls p = .idle then
      match Table.get w.records key with
      | none => none
      | some r =>
        match runnable faults clusterId config r with
        | .error _ => none
        | .ok _ => some (w.goTo p (.waiting (.claim key true)))
    else none
  | .acquire p =>
    match w.calls p with
    | .waiting op =>
      if w.lock = none then some ({ w with lock := some p }.goTo p (.inside op)) else none
    | _ => none
  | .load p =>
    match w.calls p with
    | .inside op =>
      match Table.get w.records op.key with
      | none => some (w.goTo p (.releasing none))
      | some r => some (w.goTo p (.loaded op r))
    | .updating key outcome =>
      match Table.get w.records key with
      | none => some (w.goTo p .idle)
      | some r =>
        some (w.goTo p (.merging key outcome { r with status := outcome.status.getD r.status }))
    | _ => none
  | .conclude p checkedAt decidedAt =>
    match w.calls p with
    | .loaded op r =>
      match op.conclude checkedAt decidedAt r with
      | .error _ => some (w.goTo p (.releasing none))
      | .ok r' =>
        some ({ w.put r' with hist := w.hist.note op checkedAt }.goTo p (.releasing op.next))
    | _ => none
  | .release p =>
    match w.calls p with
    | .releasing next => some ((w.unlock p).goTo p (Phase.unlocked next))
    | _ => none
  | .apply p =>
    match w.calls p with
    | .executing key false =>
      some ({ w with hist := { w.hist with applied := key :: w.hist.applied } }.goTo p
        (.executing key true))
    | _ => none
  | .refuse p =>
    match w.calls p with
    | .executing key false => some (w.goTo p (.updating key .refused))
    | _ => none
  | .fail p =>
    match w.calls p with
    | .executing key _ => some (w.goTo p (.updating key .failed))
    | _ => none
  | .finish p =>
    match w.calls p with
    | .executing key true => some (w.goTo p (.updating key .done))
    | _ => none
  | .write p =>
    match w.calls p with
    | .merging key outcome r =>
      some ((w.put r).goTo p (if outcome = .done then .reporting key else .idle))
    | _ => none
  | .summarize p =>
    match w.calls p with
    | .reporting key => some (w.goTo p (.updating key .reported))
    | _ => none
  | .stop p => some ((w.unlock p).goTo p .idle)

/-- The calls on a directory. -/
def approvals (faults : List FaultScenario) : System World Label := ⟨step faults⟩

/-- A directory without calls. -/
def World.initial (records : List Record) : World := ⟨records, none, fun _ => .idle, ⟨[], [], []⟩⟩

/-! ## What a step does -/

/-- The steps, one by one. -/
inductive Stepped (w : World) : World → Prop
  | began {p : Nat} (op : Op) (hp : w.calls p = .idle) : Stepped w (w.goTo p (.waiting op))
  | acquired {p : Nat} {op : Op} (hp : w.calls p = .waiting op) (hfree : w.lock = none) :
      Stepped w ({ w with lock := some p }.goTo p (.inside op))
  | missing {p : Nat} {op : Op} (hp : w.calls p = .inside op) :
      Stepped w (w.goTo p (.releasing none))
  | loaded {p : Nat} {op : Op} {r : Record} (hp : w.calls p = .inside op)
      (hr : Table.get w.records op.key = some r) : Stepped w (w.goTo p (.loaded op r))
  | lost {p key : Nat} {outcome : Outcome} (hp : w.calls p = .updating key outcome) :
      Stepped w (w.goTo p .idle)
  | merged {p key : Nat} {outcome : Outcome} {r : Record}
      (hp : w.calls p = .updating key outcome) (hr : Table.get w.records key = some r) :
      Stepped w
        (w.goTo p (.merging key outcome { r with status := outcome.status.getD r.status }))
  | raised {p : Nat} {op : Op} {r : Record} (hp : w.calls p = .loaded op r) :
      Stepped w (w.goTo p (.releasing none))
  | concluded {p : Nat} {op : Op} {r r' : Record} {checkedAt decidedAt : Int}
      (hp : w.calls p = .loaded op r) (hok : op.conclude checkedAt decidedAt r = .ok r') :
      Stepped w ({ w.put r' with hist := w.hist.note op checkedAt }.goTo p (.releasing op.next))
  | released {p : Nat} {next : Option Nat} (hp : w.calls p = .releasing next) :
      Stepped w ((w.unlock p).goTo p (Phase.unlocked next))
  | applied {p key : Nat} (hp : w.calls p = .executing key false) :
      Stepped w ({ w with hist := { w.hist with applied := key :: w.hist.applied } }.goTo p
        (.executing key true))
  | refused {p key : Nat} (hp : w.calls p = .executing key false) :
      Stepped w (w.goTo p (.updating key .refused))
  | ended {p key : Nat} {applied : Bool} {outcome : Outcome}
      (hp : w.calls p = .executing key applied) (hend : outcome = .failed ∨ outcome = .done) :
      Stepped w (w.goTo p (.updating key outcome))
  | written {p key : Nat} {outcome : Outcome} {r : Record}
      (hp : w.calls p = .merging key outcome r) :
      Stepped w ((w.put r).goTo p (if outcome = .done then .reporting key else .idle))
  | summarized {p key : Nat} (hp : w.calls p = .reporting key) :
      Stepped w (w.goTo p (.updating key .reported))
  | stopped (p : Nat) : Stepped w ((w.unlock p).goTo p .idle)

variable {checkedAt decidedAt : Int} {key p : Nat} {ph : Phase} {r r' s : Record} {st : Status}
    {w : World}

theorem stepped_of_step {faults : List FaultScenario} {w' : World} {l : Label}
    (hstep : step faults w l = some w') : Stepped w w' := by
  revert hstep
  fun_cases step faults w l <;> rintro ⟨⟩
  next hp => exact .began _ hp
  next hp => exact .began _ hp
  next hp _ _ _ _ => exact .began _ hp
  next hp hfree => exact .acquired hp hfree
  next hp _ => exact .missing hp
  next hp _ hr => exact .loaded hp hr
  next hp _ => exact .lost hp
  next hp _ hr => exact .merged hp hr
  next hp _ _ => exact .raised hp
  next hp _ hok => exact .concluded hp hok
  next hp => exact .released hp
  next hp => exact .applied hp
  next hp => exact .refused hp
  next hp => exact .ended hp (.inl rfl)
  next hp => exact .ended hp (.inr rfl)
  next hp => exact .written hp
  next hp => exact .summarized hp
  · exact .stopped _

theorem inTime_of_checked {now : Int} (hcheck : checkExpiry r now = .ok ())
    (htelegram : r.request.telegram = true) : ∃ t, r.request.expiresAt = .at t ∧ now < t := by
  unfold checkExpiry at hcheck
  rw [if_pos htelegram] at hcheck
  split at hcheck
  · cases hcheck
  · cases hcheck
  · next t ht =>
    split_ifs at hcheck with hlate
    exact ⟨t, ht, by omega⟩

theorem decideRecord_ok {d : Decision} (h : decideRecord d checkedAt decidedAt r = .ok r') :
    r.status = .proposed ∧ r'.key = r.key ∧ r'.request = r.request ∧
      r'.status = (if d.approve then .approved else .skipped) ∧
      (r.request.telegram = true →
        ∃ t, r.request.expiresAt = .at t ∧ d.now.getD checkedAt < t) := by
  unfold decideRecord at h
  by_cases hstatus : r.status = .proposed
  · rw [if_neg (not_not.mpr hstatus)] at h
    cases hcheck : checkExpiry r (d.now.getD checkedAt) with
    | error e =>
      rw [hcheck] at h
      cases h
    | ok _ =>
      rw [hcheck] at h
      dsimp only at h
      by_cases hkind : (d.approve && r.request.faultKind.isNone) = true
      · rw [if_pos hkind] at h
        cases h
      · rw [if_neg hkind] at h
        cases h
        exact ⟨hstatus, rfl, rfl, rfl, inTime_of_checked hcheck⟩
  · rw [if_pos hstatus] at h
    cases h

theorem claimRecord_ok (h : claimRecord r = .ok r') :
    r.status = .approved ∧ r' = { r with status := .running } := by
  unfold claimRecord at h
  split_ifs at h with hstatus
  cases h
  exact ⟨not_not.mp hstatus, rfl⟩

/-! ## Who writes a record -/

/-- The decision lock is held. -/
def Phase.holds : Phase → Bool
  | .inside _ | .loaded _ _ | .releasing _ => true
  | _ => false

/-- The record that is under a runner, and the status it has meanwhile. -/
def Phase.owns : Phase → Option (Nat × Status)
  | .releasing (some key) | .executing key _ => some (key, .running)
  | .updating key outcome | .merging key outcome _ => some (key, outcome.before)
  | .reporting key => some (key, .done)
  | _ => none

/-- The fault may still be refused. -/
def Phase.fresh : Phase → Bool
  | .releasing _ | .executing _ false | .updating _ .refused | .merging _ .refused _ => true
  | _ => false

theorem Phase.running_or_done (howns : ph.owns = some (key, st)) : st = .running ∨ st = .done := by
  unfold Phase.owns at howns
  split at howns <;> cases howns
  · exact .inl rfl
  · exact .inl rfl
  · next outcome => cases outcome <;> simp [Outcome.before]
  · next outcome _ => cases outcome <;> simp [Outcome.before]
  · exact .inr rfl

/-- The status of a proposal. -/
def World.status (w : World) (key : Nat) : Option Status :=
  (Table.get w.records key).map Record.status

theorem World.status_of_get (hr : Table.get w.records key = some r) :
    w.status key = some r.status := by
  unfold World.status
  rw [hr]
  rfl

theorem World.get_put (hs : Table.get w.records r.key = some s) (key : Nat) :
    Table.get (w.put r).records key = if key = r.key then some r else Table.get w.records key := by
  have hkey : s.key = r.key := Table.key_of_get hs
  show Table.get (Table.modify w.records r.key _) key = _
  rw [Table.get_modify]
  · by_cases h : key = r.key
    · rw [if_pos h, if_pos h, h, hs]
      show some { r with key := s.key } = some r
      rw [hkey]
    · rw [if_neg h, if_neg h]
  · intro s'
    rfl

theorem World.status_put (hs : Table.get w.records r.key = some s) (key : Nat) :
    (w.put r).status key = if key = r.key then some r.status else w.status key := by
  unfold World.status
  rw [World.get_put hs]
  split <;> rfl

theorem World.calls_goTo (w : World) (p : Nat) (ph : Phase) (q : Nat) :
    (w.goTo p ph).calls q = if q = p then ph else w.calls q :=
  Function.update_apply _ _ _ _

/-- A process gives up its place first. -/
theorem World.goTo_goTo (w : World) (p : Nat) (ph ph' : Phase) :
    (w.goTo p ph).goTo p ph' = w.goTo p ph' := by
  unfold World.goTo
  rw [Function.update_idem]

/-- What the processes rely on: the lock of those that hold it, the record that was loaded
under it, and the record of a runner, which no other process writes. -/
structure Control (requests : Nat → Option Request) (w : World) : Prop where
  stored : ∀ key, (Table.get w.records key).map Record.request = requests key
  locked : ∀ p, (w.calls p).holds = true → w.lock = some p
  loaded : ∀ p op r, w.calls p = .loaded op r → r.key = op.key ∧
    requests op.key = some r.request ∧
    (r.status = .proposed ∨ r.status = .approved → Table.get w.records op.key = some r)
  owned : ∀ p key st, (w.calls p).owns = some (key, st) → w.status key = some st
  single : ∀ p q key st st', (w.calls p).owns = some (key, st) →
    (w.calls q).owns = some (key, st') → p = q
  merging : ∀ p key outcome r, w.calls p = .merging key outcome r → r.key = key ∧
    requests key = some r.request ∧ r.status = outcome.status.getD .done

variable {requests : Nat → Option Request} {w w' : World}

theorem Control.goTo (h : Control requests w) (p : Nat) (ph : Phase)
    (hlock : ph.holds = true → w.lock = some p)
    (hloaded : ∀ op r, ph = .loaded op r → r.key = op.key ∧ requests op.key = some r.request ∧
      (r.status = .proposed ∨ r.status = .approved → Table.get w.records op.key = some r))
    (howned : ∀ key st, ph.owns = some (key, st) → w.status key = some st ∧
      ∀ q, q ≠ p → ∀ st', (w.calls q).owns ≠ some (key, st'))
    (hmerging : ∀ key outcome r, ph = .merging key outcome r → r.key = key ∧
      requests key = some r.request ∧ r.status = outcome.status.getD .done) :
    Control requests (w.goTo p ph) where
  stored := h.stored
  locked := by
    intro q hq
    rw [World.calls_goTo] at hq
    split_ifs at hq with hqp
    · rw [hqp]
      exact hlock hq
    · exact h.locked q hq
  loaded := by
    intro q op r hq
    rw [World.calls_goTo] at hq
    split_ifs at hq with hqp
    · exact hloaded op r hq
    · exact h.loaded q op r hq
  owned := by
    intro q key st hq
    rw [World.calls_goTo] at hq
    split_ifs at hq with hqp
    · exact (howned key st hq).1
    · exact h.owned q key st hq
  single := by
    intro q q' key st st' hq hq'
    rw [World.calls_goTo] at hq hq'
    split_ifs at hq hq' with hqp hqp' hqp'
    · rw [hqp, hqp']
    · exact absurd hq' ((howned key st hq).2 q' hqp' st')
    · exact absurd hq ((howned key st' hq').2 q hqp st)
    · exact h.single q q' key st st' hq hq'
  merging := by
    intro q key outcome r hq
    rw [World.calls_goTo] at hq
    split_ifs at hq with hqp
    · exact hmerging key outcome r hq
    · exact h.merging q key outcome r hq

/-- A record is at hand that was read before. -/
def Phase.carries : Phase → Bool
  | .loaded _ _ | .merging _ _ _ => true
  | _ => false

section

variable (h : Control requests w)
include h

/-- The process keeps the record it runs, or gives it up. -/
theorem Control.goOn (hlock : ph.holds = false ∨ (w.calls p).holds = true)
    (howns : ph.owns = none ∨ ph.owns = (w.calls p).owns) (hcarries : ph.carries = false) :
    Control requests (w.goTo p ph) := by
  apply h.goTo p ph
  · intro hholds
    rcases hlock with hno | hyes
    · rw [hno] at hholds
      cases hholds
    · exact h.locked p hyes
  · intro op r hph
    rw [hph] at hcarries
    cases hcarries
  · intro key st hph
    rcases howns with hnone | hsame
    · rw [hnone] at hph
      cases hph
    · rw [hsame] at hph
      exact ⟨h.owned p key st hph, fun q hq st' hq' => hq (h.single q p key st' st hq' hph)⟩
  · intro key outcome r hph
    rw [hph] at hcarries
    cases hcarries

theorem Control.leave (p : Nat) : Control requests (w.goTo p .idle) :=
  h.goOn (.inl rfl) (.inl rfl) rfl

/-- A record is written that no process relies on. -/
theorem Control.put (hrequest : requests r.key = some r.request)
    (hloaded : ∀ q op s, w.calls q = .loaded op s → op.key = r.key →
      ¬(s.status = .proposed ∨ s.status = .approved))
    (howned : ∀ q st, (w.calls q).owns ≠ some (r.key, st)) : Control requests (w.put r) := by
  have hcolumn := h.stored r.key
  rw [hrequest] at hcolumn
  cases hs : Table.get w.records r.key with
  | none =>
    rw [hs] at hcolumn
    cases hcolumn
  | some s =>
    refine ⟨?_, h.locked, ?_, ?_, h.single, h.merging⟩
    · intro key
      rw [World.get_put hs]
      split_ifs with hkey
      · rw [hkey]
        exact hrequest.symm
      · exact h.stored key
    · intro q op t hq
      obtain ⟨hkey, hreq, hstored⟩ := h.loaded q op t hq
      refine ⟨hkey, hreq, ?_⟩
      intro hstatus
      rw [World.get_put hs]
      split_ifs with hsame
      · exact absurd hstatus (hloaded q op t hq hsame)
      · exact hstored hstatus
    · intro q key st hq
      rw [World.status_put hs]
      split_ifs with hkey
      · rw [hkey] at hq
        exact absurd hq (howned q st)
      · exact h.owned q key st hq

theorem Control.lock (hfree : w.lock = none) (p : Nat) :
    Control requests { w with lock := some p } := by
  refine ⟨h.stored, ?_, h.loaded, h.owned, h.single, h.merging⟩
  intro q hq
  have hlock := h.locked q hq
  rw [hfree] at hlock
  cases hlock

/-- The lock is freed by a process that does not rely on it. -/
theorem Control.unlock (hp : (w.calls p).holds = false) : Control requests (w.unlock p) := by
  refine ⟨h.stored, ?_, h.loaded, h.owned, h.single, h.merging⟩
  intro q hq
  have hlock := h.locked q hq
  show (if w.lock = some p then none else w.lock) = some q
  rw [hlock]
  split_ifs with hqp
  · have hsame : q = p := Option.some.inj hqp
    rw [hsame] at hq
    have hholds : (w.calls p).holds = true := hq
    rw [hp] at hholds
    cases hholds
  · rfl

/-- What is noted is not what the processes rely on. -/
theorem Control.log (hist : History) :
    Control requests { w with hist := hist } :=
  ⟨h.stored, h.locked, h.loaded, h.owned, h.single, h.merging⟩

theorem Control.request (hr : Table.get w.records key = some r) :
    requests key = some r.request := by
  rw [← h.stored key, hr]
  rfl

theorem Control.unowned (hstatus : w.status key = some st) (hst : st = .proposed ∨ st = .approved)
    (q : Nat) (st' : Status) : (w.calls q).owns ≠ some (key, st') := by
  intro hq
  have howned := h.owned q key st' hq
  rw [hstatus] at howned
  cases howned
  rcases Phase.running_or_done hq with hrun | hdone
  · rw [hrun] at hst
    simp at hst
  · rw [hdone] at hst
    simp at hst

end

theorem conclude_ok {op : Op} (hok : op.conclude checkedAt decidedAt r = .ok r') :
    (r.status = .proposed ∨ r.status = .approved) ∧ r'.key = r.key ∧ r'.request = r.request ∧
      (∀ key, op.next = some key → key = op.key ∧ r'.status = .running) := by
  cases op with
  | decide d =>
    obtain ⟨hstatus, hkey, hrequest, _, _⟩ := decideRecord_ok hok
    refine ⟨.inl hstatus, hkey, hrequest, ?_⟩
    intro key hnext
    cases hnext
  | claim key run =>
    obtain ⟨hstatus, hr'⟩ := claimRecord_ok hok
    rw [hr']
    refine ⟨.inr hstatus, rfl, rfl, ?_⟩
    intro key' hnext
    have hrun : (if run = true then some key else none) = some key' := hnext
    split_ifs at hrun
    cases hrun
    exact ⟨rfl, rfl⟩

section

variable (h : Control requests w)
include h

/-- The holder of the lock writes. -/
theorem Control.concluded {op : Op} (hp : w.calls p = .loaded op r)
    (hok : op.conclude checkedAt decidedAt r = .ok r') :
    Control requests ((w.put r').goTo p (.releasing op.next)) := by
  obtain ⟨hstatus, hkey', hrequest', hnext⟩ := conclude_ok hok
  obtain ⟨hkey, hrequest, hstored⟩ := h.loaded p op r hp
  have hget : Table.get w.records op.key = some r := hstored hstatus
  have hheld : w.lock = some p := by
    apply h.locked p
    rw [hp]
    rfl
  have hop : r'.key = op.key := hkey'.trans hkey
  have hfree : ∀ q st, (w.calls q).owns ≠ some (op.key, st) :=
    h.unowned (World.status_of_get hget) hstatus
  have hleft := h.leave p
  have hput : Control requests ((w.goTo p .idle).put r') := by
    apply hleft.put
    · rw [hop, hrequest']
      exact hrequest
    · intro q op' s hq hsame
      -- another process inside the lock
      have hholds : ((w.goTo p .idle).calls q).holds = true := by
        rw [hq]
        rfl
      have hlocked : w.lock = some q := hleft.locked q hholds
      rw [hheld] at hlocked
      cases hlocked
      rw [World.calls_goTo, if_pos rfl] at hq
      cases hq
    · intro q st hq
      rw [World.calls_goTo, hop] at hq
      split_ifs at hq
      · cases hq
      · exact hfree q st hq
  rw [← World.goTo_goTo _ p .idle]
  apply hput.goTo p _ (fun _ => hheld)
  · intro op' s hph
    cases hph
  · intro key st hph
    cases hn : op.next with
    | none =>
      rw [hn] at hph
      cases hph
    | some key' =>
      rw [hn] at hph
      cases hph
      obtain ⟨hkeys, hrunning⟩ := hnext key hn
      constructor
      · have hgetr : Table.get (w.goTo p .idle).records r'.key = some r := by
          rw [hop]
          exact hget
        rw [World.status_put hgetr, if_pos (hkeys.trans hop.symm), hrunning]
      · intro q hq st' hq'
        have hcall : ((w.goTo p .idle).calls q).owns = some (key, st') := hq'
        rw [World.calls_goTo, if_neg hq, hkeys] at hcall
        exact hfree q st' hcall
  · intro key outcome s hph
    cases hph

/-- A runner writes its record. -/
theorem Control.written {outcome : Outcome} (hp : w.calls p = .merging key outcome r) :
    Control requests ((w.put r).goTo p (if outcome = .done then .reporting key else .idle)) := by
  obtain ⟨hkey, hrequest, hstatus⟩ := h.merging p key outcome r hp
  have howns : (w.calls p).owns = some (key, outcome.before) := by
    rw [hp]
    rfl
  have howned : w.status key = some outcome.before := h.owned p key _ howns
  have hother : ∀ q, q ≠ p → ∀ st, (w.calls q).owns ≠ some (key, st) := by
    intro q hq st hqowns
    exact hq (h.single q p key st _ hqowns howns)
  have hleft := h.leave p
  have hput : Control requests ((w.goTo p .idle).put r) := by
    apply hleft.put
    · rw [hkey]
      exact hrequest
    · intro q op s hq hsame hopen
      have hget := (hleft.loaded q op s hq).2.2 hopen
      rw [hsame, hkey] at hget
      exact h.unowned (World.status_of_get hget) hopen p _ howns
    · intro q st hq
      rw [World.calls_goTo, hkey] at hq
      split_ifs at hq with hqp
      · cases hq
      · exact hother q hqp st hq
  have hget : ∃ s, Table.get (w.goTo p .idle).records r.key = some s := by
    rw [hkey]
    exact Option.map_eq_some_iff.mp howned |>.imp fun s hs => hs.1
  obtain ⟨s, hs⟩ := hget
  rw [← World.goTo_goTo _ p .idle]
  split_ifs with hdone
  · apply hput.goTo p (.reporting key)
    · intro hholds
      cases hholds
    · intro op t hph
      cases hph
    · intro key' st hph
      cases hph
      constructor
      · rw [World.status_put hs, if_pos hkey.symm, hstatus, hdone]
        rfl
      · intro q hq st' hq'
        have hcall : ((w.goTo p .idle).calls q).owns = some (key, st') := hq'
        rw [World.calls_goTo, if_neg hq] at hcall
        exact hother q hq st' hcall
    · intro key' outcome' t hph
      cases hph
  · exact hput.leave p

theorem control_step (hstep : Stepped w w') : Control requests w' := by
  cases hstep with
  | began op hp => exact h.goOn (.inl rfl) (.inl rfl) rfl
  | @acquired p op hp hfree =>
    apply (h.lock hfree p).goTo p (.inside op) (fun _ => rfl)
    · intro op' r hph
      cases hph
    · intro key st hph
      cases hph
    · intro key outcome r hph
      cases hph
  | missing hp =>
    apply h.goOn _ (.inl rfl) rfl
    rw [hp]
    exact .inr rfl
  | @loaded p op r hp hr =>
    have hholds : (w.calls p).holds = true := by
      rw [hp]
      rfl
    apply h.goTo p (.loaded op r) (fun _ => h.locked p hholds)
    · intro op' r' hph
      cases hph
      exact ⟨Table.key_of_get hr, h.request hr, fun _ => hr⟩
    · intro key st hph
      cases hph
    · intro key outcome r' hph
      cases hph
  | lost hp => exact h.leave _
  | @merged p key outcome r hp hr =>
    have howns : (w.calls p).owns = some (key, outcome.before) := by
      rw [hp]
      rfl
    have hrequest := h.request hr
    have hstatus := h.owned p key _ howns
    rw [World.status_of_get hr] at hstatus
    apply h.goTo p
    · intro hholds
      cases hholds
    · intro op' r' hph
      cases hph
    · intro key' st hph
      cases hph
      exact ⟨h.owned p key _ howns, fun q hq st' hq' => hq (h.single q p key st' _ hq' howns)⟩
    · intro key' outcome' r' hph
      cases hph
      refine ⟨Table.key_of_get hr, hrequest, ?_⟩
      cases outcome with
      | reported => exact Option.some.inj hstatus
      | refused | failed | done => rfl
  | raised hp =>
    apply h.goOn _ (.inl rfl) rfl
    rw [hp]
    exact .inr rfl
  | concluded hp hok => exact (h.concluded hp hok).log _
  | @released p next_ hp =>
    have hgone : Control requests (w.goTo p (Phase.unlocked next_)) := by
      cases next_ with
      | none => exact h.leave p
      | some key =>
        apply h.goOn (.inl rfl) _ rfl
        rw [hp]
        exact .inr rfl
    apply hgone.unlock
    rw [World.calls_goTo, if_pos rfl]
    cases next_ <;> rfl
  | @applied p key hp =>
    have hsame : Phase.owns (.executing key true) = (w.calls p).owns := by
      rw [hp]
      rfl
    exact (h.log _).goOn (.inl rfl) (.inr hsame) rfl
  | refused hp =>
    apply h.goOn (.inl rfl) _ rfl
    rw [hp]
    exact .inr rfl
  | ended hp hend =>
    apply h.goOn (.inl rfl) _ rfl
    rw [hp]
    rcases hend with hfailed | hdone
    · rw [hfailed]
      exact .inr rfl
    · rw [hdone]
      exact .inr rfl
  | written hp => exact h.written hp
  | summarized hp =>
    apply h.goOn (.inl rfl) _ rfl
    rw [hp]
    exact .inr rfl
  | stopped p =>
    apply (h.leave p).unlock
    rw [World.calls_goTo, if_pos rfl]
    rfl

end

/-! ## What has happened to a proposal -/

/-- Nothing was approved. -/
def Status.barred : Status → Bool
  | .proposed | .skipped => true
  | _ => false

/-- The status of a proposal whose fault may have been applied. -/
def Status.Spent (st : Status) : Prop := st = .running ∨ st = .done ∨ st = .failed

/-- A decision on this proposal at this time was open, and in time. -/
def Timely (records : List Record) (key : Nat) (t : Int) : Prop :=
  ∃ r, Table.get records key = some r ∧ r.status = .proposed ∧
    (r.request.telegram = true → ∃ e, r.request.expiresAt = .at e ∧ t < e)

/-- What has happened agrees with the statuses of the records. -/
structure Logged (records : List Record) (w : World) : Prop where
  origin : ∀ key, w.status key = some .proposed →
    ∃ r, Table.get records key = some r ∧ r.status = .proposed
  undecided : ∀ key r, Table.get records key = some r → r.status.barred = true →
    (∀ d t, (d, t) ∈ w.hist.decisions → d.key ≠ key) → w.status key = some r.status
  settled : ∀ d t, (d, t) ∈ w.hist.decisions → w.status d.key ≠ some .proposed ∧
    (d.approve = false → w.status d.key = some .skipped)
  timely : ∀ d t, (d, t) ∈ w.hist.decisions → Timely records d.key t
  distinct : (w.hist.decisions.map fun e => e.1.key).Nodup
  claimed : ∀ key, key ∈ w.hist.claims → ∃ st, w.status key = some st ∧ st.barred = false
  applied : ∀ key, key ∈ w.hist.applied →
    key ∈ w.hist.claims ∧ ∃ st, w.status key = some st ∧ st.Spent
  once : w.hist.applied.Nodup
  runners : ∀ p key st, (w.calls p).owns = some (key, st) →
    key ∈ w.hist.claims ∧ ((w.calls p).fresh = true → key ∉ w.hist.applied)

variable {records : List Record}

section

variable (h : Logged records w)
include h

/-- A process goes to a place where it runs what it may. -/
theorem Logged.goTo (p : Nat) (ph : Phase)
    (hph : ∀ key st, ph.owns = some (key, st) →
      key ∈ w.hist.claims ∧ (ph.fresh = true → key ∉ w.hist.applied)) :
    Logged records (w.goTo p ph) := by
  refine ⟨h.origin, h.undecided, h.settled, h.timely, h.distinct, h.claimed, h.applied, h.once, ?_⟩
  intro q key st hq
  rw [World.calls_goTo] at hq ⊢
  split_ifs at hq ⊢ with hqp
  · exact hph key st hq
  · exact h.runners q key st hq

theorem Logged.goOn (howns : ph.owns = none ∨ ph.owns = (w.calls p).owns)
    (hfresh : ph.fresh = true → ph.owns = none ∨ (w.calls p).fresh = true) :
    Logged records (w.goTo p ph) := by
  apply h.goTo
  intro key st hph
  rcases howns with hnone | hsame
  · rw [hnone] at hph
    cases hph
  · have hrun := h.runners p key st (hsame ▸ hph)
    refine ⟨hrun.1, ?_⟩
    intro hphfresh
    rcases hfresh hphfresh with hnone | hp
    · rw [hnone] at hph
      cases hph
    · exact hrun.2 hp

theorem Logged.relock (lock : Option Nat) :
    Logged records { w with lock := lock } :=
  ⟨h.origin, h.undecided, h.settled, h.timely, h.distinct, h.claimed, h.applied, h.once, h.runners⟩

theorem Logged.put (hs : Table.get w.records r.key = some s) (hopen : s.status.barred = false)
    (hbarred : r.status.barred = false) (hspent : r.key ∈ w.hist.applied → r.status.Spent) :
    Logged records (w.put r) := by
  have hstatus : w.status r.key = some s.status := World.status_of_get hs
  refine ⟨?_, ?_, ?_, h.timely, h.distinct, ?_, ?_, h.once, h.runners⟩
  · intro key hkey
    rw [World.status_put hs] at hkey
    split_ifs at hkey with hsame
    · rw [Option.some.inj hkey] at hbarred
      cases hbarred
    · exact h.origin key hkey
  · intro key r0 hr0 hr0barred hnone
    have hkept := h.undecided key r0 hr0 hr0barred hnone
    rw [World.status_put hs]
    split_ifs with hsame
    · rw [hsame, hstatus] at hkept
      rw [Option.some.inj hkept, hr0barred] at hopen
      cases hopen
    · exact hkept
  · intro d t hd
    obtain ⟨hnot, hskip⟩ := h.settled d t hd
    rw [World.status_put hs]
    split_ifs with hsame
    · constructor
      · intro hproposed
        rw [Option.some.inj hproposed] at hbarred
        cases hbarred
      · intro happrove
        have hskipped := hskip happrove
        rw [hsame, hstatus] at hskipped
        rw [Option.some.inj hskipped] at hopen
        cases hopen
    · exact ⟨hnot, hskip⟩
  · intro key hkey
    rw [World.status_put hs]
    split_ifs with hsame
    · exact ⟨r.status, rfl, hbarred⟩
    · exact h.claimed key hkey
  · intro key hkey
    obtain ⟨hclaim, hst⟩ := h.applied key hkey
    refine ⟨hclaim, ?_⟩
    rw [World.status_put hs]
    split_ifs with hsame
    · exact ⟨r.status, rfl, hspent (hsame ▸ hkey)⟩
    · exact hst

theorem Logged.claim (hstatus : w.status key = some st) (hst : st.barred = false) :
    Logged records { w with hist := { w.hist with claims := key :: w.hist.claims } } := by
  refine ⟨h.origin, h.undecided, h.settled, h.timely, h.distinct, ?_, ?_, h.once, ?_⟩
  · intro key' hkey'
    rcases List.mem_cons.mp hkey' with hsame | hold
    · rw [hsame]
      exact ⟨st, hstatus, hst⟩
    · exact h.claimed key' hold
  · intro key' hkey'
    obtain ⟨hclaim, hspent⟩ := h.applied key' hkey'
    exact ⟨List.mem_cons_of_mem _ hclaim, hspent⟩
  · intro p key' st' hp
    obtain ⟨hclaim, hfresh⟩ := h.runners p key' st' hp
    exact ⟨List.mem_cons_of_mem _ hclaim, hfresh⟩

/-- A fault is applied by the one runner of the proposal. -/
theorem Logged.apply (hcontrol : Control requests w) (hp : w.calls p = .executing key false) :
    Logged records ({ w with hist := { w.hist with applied := key :: w.hist.applied } }.goTo p
      (.executing key true)) := by
  have howns : (w.calls p).owns = some (key, .running) := by
    rw [hp]
    rfl
  have hfresh : (w.calls p).fresh = true := by
    rw [hp]
    rfl
  have hrunner := h.runners p key .running howns
  refine ⟨h.origin, h.undecided, h.settled, h.timely, h.distinct, h.claimed, ?_, ?_, ?_⟩
  · intro key' hkey'
    rcases List.mem_cons.mp hkey' with hsame | hold
    · rw [hsame]
      exact ⟨hrunner.1, .running, hcontrol.owned p key .running howns, .inl rfl⟩
    · exact h.applied key' hold
  · exact List.nodup_cons.mpr ⟨hrunner.2 hfresh, h.once⟩
  · intro q key' st hq
    rw [World.calls_goTo] at hq ⊢
    split_ifs at hq ⊢ with hqp
    · cases hq
      refine ⟨hrunner.1, ?_⟩
      intro hno
      cases hno
    · have hrun := h.runners q key' st hq
      refine ⟨hrun.1, ?_⟩
      intro hqfresh hmem
      rcases List.mem_cons.mp hmem with hsame | hold
      · rw [hsame] at hq
        exact hqp (hcontrol.single q p key st _ hq howns)
      · exact hrun.2 hqfresh hold

end

/-- The requests of a directory. -/
def requestsOf (records : List Record) (key : Nat) : Option Request :=
  (Table.get records key).map Record.request

theorem Logged.decided (h : Logged records w) (hcontrol : Control (requestsOf records) w)
    {d : Decision} (hr : Table.get w.records d.key = some r)
    (hok : decideRecord d checkedAt decidedAt r = .ok r') :
    Logged records { w.put r' with hist := w.hist.note (.decide d) checkedAt } := by
  obtain ⟨hstatus, hkey', _, hstatus', hintime⟩ := decideRecord_ok hok
  have hkey : r'.key = d.key := hkey'.trans (Table.key_of_get hr)
  have hs : Table.get w.records r'.key = some r := by
    rw [hkey]
    exact hr
  have hbefore : w.status d.key = some .proposed := by
    rw [World.status_of_get hr, hstatus]
  have hafter : ∀ key, (w.put r').status key =
      if key = d.key then some r'.status else w.status key := by
    intro key
    rw [World.status_put hs, hkey]
  have hnew : ∀ d' t', (d', t') ∈ w.hist.decisions → d'.key ≠ d.key := by
    intro d' t' hd' hsame
    have hsettled := (h.settled d' t' hd').1
    rw [hsame] at hsettled
    exact hsettled hbefore
  have hdecided : r'.status ≠ .proposed := by
    rw [hstatus']
    split <;> simp
  constructor
  case origin =>
    intro key hproposed
    have hst : (w.put r').status key = some .proposed := hproposed
    rw [hafter] at hst
    split_ifs at hst with hsame
    · exact absurd (Option.some.inj hst) hdecided
    · exact h.origin key hst
  case undecided =>
    intro key r0 hr0 hbarred hnone
    have hne : key ≠ d.key := (hnone d _ List.mem_cons_self).symm
    show (w.put r').status key = _
    rw [hafter, if_neg hne]
    exact h.undecided key r0 hr0 hbarred fun d' t' hd' => hnone d' t' (List.mem_cons_of_mem _ hd')
  case settled =>
    intro d' t' hd'
    show (w.put r').status d'.key ≠ _ ∧ (_ → (w.put r').status d'.key = _)
    rw [hafter]
    rcases List.mem_cons.mp hd' with hsame | hold
    · cases hsame
      rw [if_pos rfl]
      refine ⟨fun hst => hdecided (Option.some.inj hst), ?_⟩
      intro hskip
      rw [hstatus', hskip]
      rfl
    · rw [if_neg (hnew d' t' hold)]
      exact h.settled d' t' hold
  case timely =>
    intro d' t' hd'
    rcases List.mem_cons.mp hd' with hsame | hold
    · cases hsame
      obtain ⟨r0, hr0, hproposed⟩ := h.origin d.key hbefore
      have hrequest := hcontrol.request hr
      unfold requestsOf at hrequest
      rw [hr0] at hrequest
      have hsamereq : r0.request = r.request := Option.some.inj hrequest
      refine ⟨r0, hr0, hproposed, ?_⟩
      rw [hsamereq]
      exact hintime
    · exact h.timely d' t' hold
  case distinct =>
    refine List.nodup_cons.mpr ⟨?_, h.distinct⟩
    intro hmem
    obtain ⟨e, he, hekey⟩ := List.mem_map.mp hmem
    exact hnew e.1 e.2 he hekey
  case claimed =>
    intro key hclaim
    obtain ⟨st, hst, hbarred⟩ := h.claimed key hclaim
    have hne : key ≠ d.key := by
      intro hsame
      rw [hsame, hbefore] at hst
      cases hst
      cases hbarred
    refine ⟨st, ?_, hbarred⟩
    show (w.put r').status key = _
    rw [hafter, if_neg hne]
    exact hst
  case applied =>
    intro key happlied
    obtain ⟨hclaim, st, hst, hspent⟩ := h.applied key happlied
    have hne : key ≠ d.key := by
      intro hsame
      rw [hsame, hbefore] at hst
      cases hst
      rcases hspent with hno | hno | hno <;> cases hno
    refine ⟨hclaim, st, ?_, hspent⟩
    show (w.put r').status key = _
    rw [hafter, if_neg hne]
    exact hst
  case once => exact h.once
  case runners => exact h.runners

theorem Logged.claimRecord (h : Logged records w) (hr : Table.get w.records key = some r)
    (hok : claimRecord r = .ok r') :
    Logged records { w.put r' with
      hist := { w.hist with claims := key :: w.hist.claims } } ∧ key ∉ w.hist.applied := by
  obtain ⟨hstatus, hr'⟩ := claimRecord_ok hok
  have hkey : r'.key = key := by
    rw [hr']
    exact Table.key_of_get hr
  have hs : Table.get w.records r'.key = some r := by
    rw [hkey]
    exact hr
  have hrunning : r'.status = .running := by
    rw [hr']
  have hput : Logged records (w.put r') := by
    apply h.put hs
    · rw [hstatus]
      rfl
    · rw [hrunning]
      rfl
    · intro _
      exact .inl hrunning
  have hafter : (w.put r').status key = some .running := by
    rw [World.status_put hs, if_pos hkey.symm, hrunning]
  refine ⟨hput.claim hafter rfl, ?_⟩
  intro happlied
  obtain ⟨_, st, hst, hspent⟩ := h.applied key happlied
  rw [World.status_of_get hr, hstatus] at hst
  cases hst
  rcases hspent with hno | hno | hno <;> cases hno

theorem Logged.written (h : Logged records w) (hcontrol : Control requests w) {outcome : Outcome}
    (hp : w.calls p = .merging key outcome r) :
    Logged records ((w.put r).goTo p (if outcome = .done then .reporting key else .idle)) := by
  obtain ⟨hkey, _, hstatus⟩ := hcontrol.merging p key outcome r hp
  have howns : (w.calls p).owns = some (key, outcome.before) := by
    rw [hp]
    rfl
  have hrunner := h.runners p key _ howns
  obtain ⟨s, hs, hbefore⟩ := Option.map_eq_some_iff.mp (hcontrol.owned p key _ howns)
  have hput : Logged records (w.put r) := by
    rw [← hkey] at hs
    apply h.put hs
    · rw [hbefore]
      cases outcome <;> rfl
    · rw [hstatus]
      cases outcome <;> rfl
    · intro happlied
      rw [hstatus]
      cases outcome with
      | refused =>
        rw [hkey] at happlied
        refine absurd happlied (hrunner.2 ?_)
        rw [hp]
        rfl
      | failed => exact .inr (.inr rfl)
      | done | reported => exact .inr (.inl rfl)
  apply hput.goTo
  intro key' st hph
  split_ifs at hph ⊢
  · cases hph
    refine ⟨hrunner.1, ?_⟩
    intro hno
    cases hno
  · cases hph

theorem logged_step (hcontrol : Control (requestsOf records) w) (h : Logged records w)
    (hstep : Stepped w w') : Logged records w' := by
  cases hstep with
  | began | loaded | lost => exact h.goOn (.inl rfl) (fun hno => nomatch hno)
  | acquired hp hfree => exact (h.relock _).goOn (.inl rfl) (fun hno => nomatch hno)
  | missing | raised => exact h.goOn (.inl rfl) (fun _ => .inl rfl)
  | @merged p key outcome r hp hr =>
    apply h.goOn
    · rw [hp]
      exact .inr rfl
    · intro hfresh
      right
      rw [hp]
      cases outcome with
      | refused => rfl
      | failed | done | reported => cases hfresh
  | @concluded p op r r' checkedAt decidedAt hp hok =>
    obtain ⟨_, _, hstored⟩ := hcontrol.loaded p op r hp
    have hget := hstored (conclude_ok hok).1
    cases op with
    | decide d =>
      exact (h.decided hcontrol hget hok).goOn (.inl rfl) (fun _ => .inl rfl)
    | claim key run =>
      obtain ⟨hclaim, hnew⟩ := h.claimRecord hget hok
      apply Logged.goTo hclaim
      intro key' st hph
      cases run with
      | false => cases hph
      | true =>
        cases hph
        exact ⟨List.mem_cons_self, fun _ => hnew⟩
  | @released p next_ hp =>
    apply Logged.goOn (h.relock _)
    · show _ ∨ _ = (w.calls p).owns
      cases next_ with
      | none => exact .inl rfl
      | some key =>
        rw [hp]
        exact .inr rfl
    · intro _
      right
      show (w.calls p).fresh = true
      rw [hp]
      rfl
  | applied hp => exact h.apply hcontrol hp
  | @refused p key hp =>
    apply h.goOn
    · rw [hp]
      exact .inr rfl
    · intro _
      right
      rw [hp]
      rfl
  | @ended p key applied outcome hp hend =>
    rcases hend with hfailed | hdone
    · rw [hfailed]
      apply h.goOn
      · rw [hp]
        exact .inr rfl
      · intro hno
        cases hno
    · rw [hdone]
      apply h.goOn
      · rw [hp]
        exact .inr rfl
      · intro hno
        cases hno
  | written hp => exact h.written hcontrol hp
  | summarized hp =>
    apply h.goOn
    · rw [hp]
      exact .inr rfl
    · intro hno
      cases hno
  | stopped p => exact Logged.goOn (h.relock _) (.inl rfl) (fun hno => nomatch hno)

/-! ## Runs -/

theorem control_initial (records : List Record) :
    Control (requestsOf records) (World.initial records) := by
  refine ⟨fun _ => rfl, ?_, ?_, ?_, ?_, ?_⟩
  · intro p hp
    cases hp
  · intro p op r hp
    cases hp
  · intro p key st hp
    cases hp
  · intro p q key st st' hp
    cases hp
  · intro p key outcome r hp
    cases hp

theorem logged_initial (records : List Record) : Logged records (World.initial records) := by
  refine ⟨?_, ?_, ?_, ?_, List.nodup_nil, ?_, ?_, List.nodup_nil, ?_⟩
  · intro key hstatus
    exact Option.map_eq_some_iff.mp hstatus
  · intro key r hr _ _
    exact World.status_of_get hr
  · intro d t hd
    cases hd
  · intro d t hd
    cases hd
  · intro key hkey
    cases hkey
  · intro key hkey
    cases hkey
  · intro p key st hp
    cases hp

theorem logged_of_run {faults : List FaultScenario} {ls : List Label}
    (hrun : (approvals faults).run (World.initial records) ls = some w) :
    Control (requestsOf records) w ∧ Logged records w := by
  apply (approvals faults).run_invariant
    (fun w => Control (requestsOf records) w ∧ Logged records w) _ ls (World.initial records) w
    ⟨control_initial records, logged_initial records⟩ hrun
  intro w l w' h hstep
  have hstepped := stepped_of_step hstep
  exact ⟨control_step h.1 hstepped, logged_step h.1 h.2 hstepped⟩

theorem Logged.approved_of_claimed (h : Logged records w) (hr : Table.get records key = some r)
    (hbarred : r.status.barred = true) (hclaim : key ∈ w.hist.claims) :
    ∃ d t, (d, t) ∈ w.hist.decisions ∧ d.key = key ∧ d.approve = true := by
  obtain ⟨st, hst, hopen⟩ := h.claimed key hclaim
  by_contra hnone
  by_cases hdecided : ∃ d t, (d, t) ∈ w.hist.decisions ∧ d.key = key
  · obtain ⟨d, t, hd, hkey⟩ := hdecided
    cases happrove : d.approve with
    | true => exact hnone ⟨d, t, hd, hkey, happrove⟩
    | false =>
      have hskipped := (h.settled d t hd).2 happrove
      rw [hkey, hst] at hskipped
      cases hskipped
      cases hopen
  · have hkept := h.undecided key r hr hbarred fun d t hd hkey => hdecided ⟨d, t, hd, hkey⟩
    rw [hst] at hkept
    rw [Option.some.inj hkept, hbarred] at hopen
    cases hopen

/-- **Decided once, run once.**  Whatever the processes do on a directory, one decision on a
proposal is written at most, and it was open and in time.  A proposal that is skipped is never
claimed; one that was waiting for a decision is claimed after an approval only.  The fault is
applied under a claim, and once at most. -/
theorem proposals_run_once {faults : List FaultScenario} {ls : List Label}
    (hrun : (approvals faults).run (World.initial records) ls = some w) (key : Nat) :
    (w.hist.decisions.map fun e => e.1.key).count key ≤ 1 ∧
    (∀ d t, (d, t) ∈ w.hist.decisions → d.key = key → Timely records key t) ∧
    ((∃ r, Table.get records key = some r ∧ r.status = .skipped) ∨
        (∃ d t, (d, t) ∈ w.hist.decisions ∧ d.key = key ∧ d.approve = false) →
      key ∉ w.hist.claims) ∧
    ((∃ r, Table.get records key = some r ∧ r.status = .proposed) → key ∈ w.hist.claims →
      ∃ d t, (d, t) ∈ w.hist.decisions ∧ d.key = key ∧ d.approve = true) ∧
    (key ∈ w.hist.applied → key ∈ w.hist.claims) ∧
    w.hist.applied.count key ≤ 1 := by
  have h := (logged_of_run hrun).2
  refine ⟨List.nodup_iff_count_le_one.mp h.distinct key, ?_, ?_, ?_,
    fun happlied => (h.applied key happlied).1, List.nodup_iff_count_le_one.mp h.once key⟩
  · intro d t hd hkey
    rw [← hkey]
    exact h.timely d t hd
  · intro hskipped hclaim
    rcases hskipped with ⟨r, hr, hstatus⟩ | ⟨d, t, hd, hkey, hskip⟩
    · -- the decision that let it run would have found it open
      have hbarred : r.status.barred = true := by
        rw [hstatus]
        rfl
      obtain ⟨d, t, hd, hkey, _⟩ := h.approved_of_claimed hr hbarred hclaim
      obtain ⟨r', hr', hproposed, _⟩ := h.timely d t hd
      rw [hkey, hr] at hr'
      cases hr'
      rw [hstatus] at hproposed
      cases hproposed
    · obtain ⟨st, hst, hopen⟩ := h.claimed key hclaim
      have hskipped := (h.settled d t hd).2 hskip
      rw [hkey, hst] at hskipped
      cases hskipped
      cases hopen
  · intro hproposed hclaim
    obtain ⟨r, hr, hstatus⟩ := hproposed
    apply h.approved_of_claimed hr _ hclaim
    rw [hstatus]
    rfl

/-- A request of the lab chat that is open until 100. -/
def waitingRequest : Record where
  key := 1
  status := .proposed
  request :=
    { id := "repro-0123456789"
      telegram := true
      expiresAt := .at 100
      family := "osd_nearfull_fault"
      faultKind := some .nearfullRatio
      maxSeconds := none
      expectedHealthCodes := []
      clusterId := "lab"
      fsid := "f1"
      channelId := "" }
  decidedBy := none
  decidedAt := none

/-- Two operators press at once; the approval is first, the runner is refused by the lab, and
the next run applies the fault. -/
def pressedTwice : List Label :=
  [.decide 0 ⟨1, true, "op", none⟩, .decide 1 ⟨1, false, "op2", none⟩, .acquire 0, .load 0,
    .conclude 0 50 50, .release 0, .acquire 1, .load 1, .conclude 1 51 51, .release 1,
    .runProposal 2 1 "lab" FailureLab.labConfig, .acquire 2, .load 2, .conclude 2 60 60, .release 2,
    .refuse 2, .load 2, .write 2,
    .runProposal 2 1 "lab" FailureLab.labConfig, .acquire 2, .load 2, .conclude 2 70 70, .release 2,
    .apply 2, .finish 2, .load 2, .write 2]

theorem proposals_run_once_pressed : ∃ w, (approvals [FailureLab.osdNearfull]).run
    (World.initial [waitingRequest]) pressedTwice = some w ∧
    w.hist.claims = [1, 1] ∧ w.hist.applied.count 1 ≤ 1 :=
  ⟨_, rfl, rfl, (proposals_run_once (show (approvals [FailureLab.osdNearfull]).run
    (World.initial [waitingRequest]) pressedTwice = some _ from rfl) 1).2.2.2.2.2⟩

end CephAi.Ports.ReproductionApproval
