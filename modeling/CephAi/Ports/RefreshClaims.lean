import CephAi.Verified.Runs
import Mathlib.Data.List.Chain
import Mathlib.Logic.Function.Basic
import Mathlib.Tactic.ByContra

/-!
# The refresh claim of a cluster's snapshot

`claim_refresh` lets one caller at a time start a refresh of a cluster.  What it
tests and stores is the marker: a record `{"refreshing": true}` in a file of its
own, which counts for `REFRESH_STATE_MAX_AGE_SECONDS` after it was stored.  The
test and the store are made under a lock; the record names nobody, and
`publish_snapshot`, `mark_refreshing` and `invalidate_snapshot` write and remove it
without that lock.

An operation is the list of its statements, a call what is left of one, and a run
of the system any order of the statements of its calls, of calls that start and
die, of the clock, and of cache pruning.

## Main results

* `claimed_once_iff` — the claims of a run are one at a time, however it goes on,
  exactly when no marker is removed or left unwritten while a claim of another
  call is live.
-/

namespace CephAi.Ports.RefreshClaims

open Verified.Runs

/-- `REFRESH_STATE_MAX_AGE_SECONDS`, on a clock that counts microseconds. -/
def refreshStateMaxAge : Nat := 900 * 1000000

/-- The record in the marker's file: `created_at` and `value.get("refreshing")`. -/
structure Record where
  createdAt : Nat
  refreshing : Bool
deriving DecidableEq, Repr

/-- `get_cached` of a file with `prefer_disk`. -/
def getCached (now maxAge : Nat) (file : Option Record) : Option Record :=
  match file with
  | none => none
  | some record => if maxAge < now - record.createdAt then none else some record

def isRefreshing (now : Nat) (marker : Option Record) : Bool :=
  match getCached now refreshStateMaxAge marker with
  | none => false
  | some record => record.refreshing

/-- What the operations do to the files, in the order of the source. -/
inductive Statement
  | lockClaim
  | testRefreshing
  | storeClaimed
  | unlockClaim
  | storeMarker
  | invalidateMarker
  | storeVersioned
  | publishEvent
  | invalidateSnapshot
deriving DecidableEq, Repr

inductive Operation
  | claimRefresh
  | markRefreshing (refreshing : Bool)
  | publishSnapshot
  | invalidateSnapshot
deriving DecidableEq, Repr

/-- The statement of `mark_refreshing`, which the other operations call. -/
def marking : Bool → List Statement
  | true => [.storeMarker]
  | false => [.invalidateMarker]

def Operation.statements : Operation → List Statement
  | .claimRefresh => [.lockClaim, .testRefreshing, .storeClaimed, .unlockClaim]
  | .markRefreshing refreshing => marking refreshing
  | .publishSnapshot => [.storeVersioned, .publishEvent] ++ marking false
  | .invalidateSnapshot => marking false ++ [.invalidateSnapshot]

/-- How the file system took a statement: `unwritten` is a record that could not be
persisted, `unlocked` a lock file that could not be locked. -/
inductive Outcome
  | done
  | unwritten
  | unlocked
deriving DecidableEq, Repr

/-- A call of an operation: what is left of it, the claim whose refresh it belongs to, and what
`claim_refresh` answers.  A call that answers `True` has the claim since it stored the marker,
until a call for its refresh has published or cleared it (`closed`). -/
structure Call where
  todo : List Statement := []
  refresh : Option Nat := none
  answer : Option Bool := none
  claimedAt : Nat := 0
  closed : Bool := false
deriving DecidableEq, Repr

/-- The files of one cluster, who has the claim's lock, and the calls by their numbers.  Of the
snapshot only its generation is kept. -/
structure World where
  now : Nat
  marker : Option Record
  generation : Option Nat
  holder : Option Nat := none
  next : Nat := 0
  calls : Nat → Call := fun _ => {}

/-- Before any of the calls. -/
def start (now : Nat) (marker : Option Record) (generation : Option Nat) : World :=
  { now := now, marker := marker, generation := generation }

def World.setCall (w : World) (c : Nat) (call : Call) : World :=
  { w with calls := Function.update w.calls c call }

/-- The call has `rest` left. -/
def World.goOn (w : World) (c : Nat) (rest : List Statement) : World :=
  w.setCall c { w.calls c with todo := rest }

/-- The call is left with an answer; inside the lock, the unlocking comes first. -/
def World.refuse (w : World) (c : Nat) (rest : List Statement) : World :=
  w.setCall c { w.calls c with todo := rest, answer := some false }

def World.grant (w : World) (c : Nat) (rest : List Statement) : World :=
  w.setCall c { w.calls c with
    todo := rest, answer := some true, claimedAt := w.now, closed := false }

/-- The refresh of a claim is published or cleared. -/
def World.close (w : World) : Option Nat → World
  | none => w
  | some r => w.setCall r { w.calls r with closed := true }

/-- One statement of a call that has `rest` left after it.  A statement that raises ends its
operation; in `claim_refresh` it is caught, and the answer is `False`. -/
def World.execute (w : World) (c : Nat) (rest : List Statement) (outcome : Outcome) :
    Statement → World
  | .lockClaim =>
    if outcome = .done ∧ w.holder = none then
      World.goOn { w with holder := some c } c rest
    else w.refuse c []
  | .testRefreshing =>
    if isRefreshing w.now w.marker then w.refuse c [.unlockClaim] else w.goOn c rest
  | .storeClaimed =>
    match outcome with
    | .done => World.grant { w with marker := some ⟨w.now, true⟩ } c rest
    -- `_write` returned `None`, which `store` does not look at
    | .unwritten => w.grant c rest
    | .unlocked => w.refuse c [.unlockClaim]
  | .unlockClaim => World.goOn { w with holder := none } c rest
  | .storeMarker =>
    match outcome with
    | .done => World.goOn { w with marker := some ⟨w.now, true⟩ } c rest
    | .unwritten => w.goOn c rest
    | .unlocked => w.goOn c []
  | .invalidateMarker =>
    match outcome with
    | .done => World.goOn (World.close { w with marker := none } (w.calls c).refresh) c rest
    | _ => w.goOn c []
  | .storeVersioned =>
    match outcome with
    | .done =>
      World.goOn (World.close { w with generation := some (w.generation.getD 0 + 1) }
        (w.calls c).refresh) c rest
    | _ => w.goOn c []
  | .publishEvent =>
    match outcome with
    | .done => w.goOn c rest
    | _ => w.goOn c []
  | .invalidateSnapshot =>
    match outcome with
    | .done => World.goOn { w with generation := none } c rest
    | _ => w.goOn c []

/-- What can happen: a call starts, a call takes its next statement, the process of a call dies,
the clock goes on, and a store of some record prunes the marker's file. -/
inductive Label
  | start (operation : Operation) (refresh : Option Nat)
  | next (c : Nat) (outcome : Outcome)
  | die (c : Nat)
  | wait (time : Nat)
  | prune
deriving DecidableEq, Repr

/-- A refresh is of a call that answered `True`. -/
def World.canStart (w : World) : Option Nat → Prop
  | none => True
  | some r => (w.calls r).answer = some true

instance (w : World) (refresh : Option Nat) : Decidable (w.canStart refresh) :=
  match refresh with
  | none => inferInstanceAs (Decidable True)
  | some r => inferInstanceAs (Decidable ((w.calls r).answer = some true))

/-- A call that starts. -/
def World.begin (w : World) (operation : Operation) (refresh : Option Nat) : World :=
  World.setCall { w with next := w.next + 1 } w.next
    { todo := operation.statements, refresh := refresh }

/-- The lock of a process that dies is released. -/
def World.die (w : World) (c : Nat) : World :=
  World.goOn { w with holder := if w.holder = some c then none else w.holder } c []

def step (w : World) : Label → Option World
  | .start operation refresh =>
    if w.canStart refresh then some (w.begin operation refresh) else none
  | .next c outcome =>
    match (w.calls c).todo with
    | [] => none
    | statement :: rest => some (w.execute c rest outcome statement)
  | .die c => some (w.die c)
  | .wait time => some { w with now := w.now + time }
  | .prune => some { w with marker := none }

/-- The refresh claims of one cluster. -/
def system : System World Label := ⟨step⟩

/-! ## Claims -/

/-- The call has the claim: it answered `True`, its refresh is not published or cleared, and
`REFRESH_STATE_MAX_AGE_SECONDS` have not passed. -/
def World.Live (w : World) (c : Nat) : Prop :=
  (w.calls c).answer = some true ∧ (w.calls c).closed = false ∧
    w.now - (w.calls c).claimedAt ≤ refreshStateMaxAge

/-- At most one call has the claim. -/
def Single (w : World) : Prop := ∀ c d, w.Live c → w.Live d → c = d

/-- The record counts as long as a claim since then. -/
def Backs (since : Nat) (marker : Option Record) : Prop :=
  match marker with
  | none => False
  | some record => record.refreshing = true ∧ since ≤ record.createdAt

/-- The statement that a call takes next. -/
def World.head (w : World) (c : Nat) : Option Statement := (w.calls c).todo.head?

/-- The marker is removed only when no call other than the one whose refresh this is has the
claim; a call that answers `True` leaves a marker; the marker is pruned only when no call has the
claim. -/
def Sound (w : World) : Label → Prop
  | .next c .done =>
    w.head c = some .invalidateMarker → ∀ d < w.next, w.Live d → (w.calls c).refresh = some d
  | .next c .unwritten => w.head c = some .storeClaimed → Backs w.now w.marker
  | .prune => ∀ d < w.next, ¬w.Live d
  | _ => True

instance (w : World) (c : Nat) : Decidable (w.Live c) :=
  inferInstanceAs (Decidable (_ ∧ _ ∧ _))

instance (since : Nat) (marker : Option Record) : Decidable (Backs since marker) :=
  match marker with
  | none => inferInstanceAs (Decidable False)
  | some record => inferInstanceAs (Decidable (record.refreshing = true ∧ _))

instance (w : World) (label : Label) : Decidable (Sound w label) :=
  match label with
  | .next c .done => inferInstanceAs (Decidable
    (w.head c = some .invalidateMarker → ∀ d < w.next, w.Live d → (w.calls c).refresh = some d))
  | .next c .unwritten =>
    inferInstanceAs (Decidable (w.head c = some .storeClaimed → Backs w.now w.marker))
  | .prune => inferInstanceAs (Decidable (∀ d < w.next, ¬w.Live d))
  | .next _ .unlocked | .start _ _ | .die _ | .wait _ => inferInstanceAs (Decidable True)

/-- Whichever way the run goes on that meets the condition, at most one call has the claim. -/
def SingleFlight (w : World) : Prop :=
  ∀ more u, system.run w more = some u → system.Meets Sound w more → Single u

/-! ## What the helpers change -/

@[simp] theorem World.calls_setCall_self (w : World) (c : Nat) (call : Call) :
    (w.setCall c call).calls c = call := by
  unfold World.setCall
  exact Function.update_self c call w.calls

variable {c d : Nat} {label : Label} {outcome : Outcome} {rest : List Statement}
    {statement : Statement} {w w' : World}

theorem World.calls_setCall_other (w : World) (call : Call) (h : d ≠ c) :
    (w.setCall c call).calls d = w.calls d := by
  unfold World.setCall
  exact Function.update_of_ne h call w.calls

theorem World.live_setCall {call : Call} (hanswer : call.answer = (w.calls c).answer)
    (hclosed : call.closed = (w.calls c).closed) (hat : call.claimedAt = (w.calls c).claimedAt)
    (d : Nat) : (w.setCall c call).Live d ↔ w.Live d := by
  unfold World.Live
  by_cases hd : d = c
  · rw [hd, calls_setCall_self, hanswer, hclosed, hat]
    exact Iff.rfl
  · rw [calls_setCall_other w call hd]
    exact Iff.rfl

theorem World.live_goOn (w : World) (c : Nat) (rest : List Statement) (d : Nat) :
    (w.goOn c rest).Live d ↔ w.Live d := by
  unfold World.goOn
  apply live_setCall
  · rfl
  · rfl
  · rfl

theorem World.live_of_refuse (h : (w.refuse c rest).Live d) : w.Live d := by
  unfold World.refuse World.Live at h
  by_cases hd : d = c
  · rw [hd, calls_setCall_self] at h
    exact absurd h.1 (by simp)
  · rw [calls_setCall_other w _ hd] at h
    exact h

theorem World.live_close (w : World) (refresh : Option Nat) (d : Nat) :
    (w.close refresh).Live d ↔ w.Live d ∧ refresh ≠ some d := by
  cases refresh with
  | none =>
    show w.Live d ↔ _
    constructor
    · intro h
      exact ⟨h, by simp⟩
    · intro h
      exact h.1
  | some r =>
    unfold World.close World.Live
    by_cases hd : d = r
    · rw [hd, calls_setCall_self]
      simp
    · rw [calls_setCall_other w _ hd]
      constructor
      · intro h
        exact ⟨h, fun hr => hd (Option.some.inj hr).symm⟩
      · intro h
        exact h.1

@[simp] theorem World.claimedAt_goOn (w : World) (c : Nat) (rest : List Statement) (d : Nat) :
    ((w.goOn c rest).calls d).claimedAt = (w.calls d).claimedAt := by
  unfold World.goOn
  by_cases hd : d = c
  · rw [hd, calls_setCall_self]
  · rw [calls_setCall_other w _ hd]

@[simp] theorem World.claimedAt_refuse (w : World) (c : Nat) (rest : List Statement) (d : Nat) :
    ((w.refuse c rest).calls d).claimedAt = (w.calls d).claimedAt := by
  unfold World.refuse
  by_cases hd : d = c
  · rw [hd, calls_setCall_self]
  · rw [calls_setCall_other w _ hd]

theorem World.calls_close (w : World) (refresh : Option Nat) (d : Nat) :
    ∃ closed, (w.close refresh).calls d = { w.calls d with closed := closed } := by
  cases refresh with
  | none => exact ⟨(w.calls d).closed, rfl⟩
  | some r =>
    unfold World.close
    by_cases hd : d = r
    · rw [hd, calls_setCall_self]
      exact ⟨true, rfl⟩
    · rw [calls_setCall_other w _ hd]
      exact ⟨(w.calls d).closed, rfl⟩

/-! ## One statement -/

/-- The statements that are made under the claim's lock. -/
def Statement.inside : Statement → Bool
  | .testRefreshing | .storeClaimed | .unlockClaim => true
  | _ => false

/-- What a statement does to the calls, whatever it is. -/
structure Executed (w w' : World) (c : Nat) (rest : List Statement) (statement : Statement) :
    Prop where
  now_eq : w'.now = w.now
  next_eq : w'.next = w.next
  others : ∀ d, d ≠ c → ∃ closed, w'.calls d = { w.calls d with closed := closed }
  todo : (w'.calls c).todo = rest ∨ (w'.calls c).todo = [] ∨
    statement.inside = true ∧ (w'.calls c).todo = [.unlockClaim]
  live : ∀ d, w'.Live d → w.Live d ∧ (w'.calls d).claimedAt = (w.calls d).claimedAt ∨
    statement = .storeClaimed ∧ d = c ∧ (w'.calls d).claimedAt = w.now

section

variable {w v : World} {c : Nat} {rest todo : List Statement} {statement : Statement}

theorem live_of_same (hnow : v.now = w.now) (hcalls : v.calls = w.calls) (d : Nat) :
    v.Live d ↔ w.Live d := by
  unfold World.Live
  rw [hcalls, hnow]

theorem Executed.goOn (hnow : v.now = w.now) (hnext : v.next = w.next)
    (hcalls : ∀ d, ∃ closed, v.calls d = { w.calls d with closed := closed })
    (hlive : ∀ d, v.Live d → w.Live d) (htodo : todo = rest ∨ todo = []) :
    Executed w (v.goOn c todo) c rest statement where
  now_eq := hnow
  next_eq := hnext
  others := by
    intro d hd
    unfold World.goOn
    rw [World.calls_setCall_other v _ hd]
    exact hcalls d
  todo := by
    unfold World.goOn
    rw [World.calls_setCall_self]
    rcases htodo with h | h
    · exact Or.inl h
    · exact Or.inr (Or.inl h)
  live := by
    intro d hd
    left
    obtain ⟨closed, hsame⟩ := hcalls d
    rw [World.claimedAt_goOn, hsame]
    exact ⟨hlive d ((World.live_goOn v c todo d).mp hd), rfl⟩

theorem unclosed (hcalls : v.calls = w.calls) (d : Nat) :
    ∃ closed, v.calls d = { w.calls d with closed := closed } :=
  ⟨(w.calls d).closed, by rw [hcalls]⟩

theorem Executed.goOn_same (hnow : v.now = w.now) (hnext : v.next = w.next)
    (hcalls : v.calls = w.calls) (htodo : todo = rest ∨ todo = []) :
    Executed w (v.goOn c todo) c rest statement := by
  apply Executed.goOn hnow hnext (unclosed hcalls) _ htodo
  intro d hd
  exact (live_of_same hnow hcalls d).mp hd

theorem Executed.refuse (htodo : todo = [] ∨ statement.inside = true ∧ todo = [.unlockClaim]) :
    Executed w (w.refuse c todo) c rest statement where
  now_eq := rfl
  next_eq := rfl
  others := by
    intro d hd
    unfold World.refuse
    rw [World.calls_setCall_other w _ hd]
    exact unclosed rfl d
  todo := by
    unfold World.refuse
    rw [World.calls_setCall_self]
    exact Or.inr htodo
  live := by
    intro d hd
    left
    rw [World.claimedAt_refuse]
    exact ⟨World.live_of_refuse hd, rfl⟩

theorem Executed.grant (hnow : v.now = w.now) (hnext : v.next = w.next)
    (hcalls : v.calls = w.calls) :
    Executed w (v.grant c rest) c rest .storeClaimed where
  now_eq := hnow
  next_eq := hnext
  others := by
    intro d hd
    unfold World.grant
    rw [World.calls_setCall_other v _ hd]
    exact unclosed hcalls d
  todo := by
    unfold World.grant
    rw [World.calls_setCall_self]
    exact Or.inl rfl
  live := by
    intro d hd
    by_cases hc : d = c
    · right
      rw [hc]
      unfold World.grant
      rw [World.calls_setCall_self]
      exact ⟨rfl, rfl, hnow⟩
    · left
      unfold World.grant World.Live at hd
      unfold World.grant
      rw [World.calls_setCall_other v _ hc] at hd ⊢
      rw [hcalls]
      exact ⟨(live_of_same hnow hcalls d).mp hd, rfl⟩

theorem Executed.close (hnow : v.now = w.now) (hnext : v.next = w.next) (hcalls : v.calls = w.calls)
    (refresh : Option Nat) : Executed w ((v.close refresh).goOn c rest) c rest statement := by
  have hkept : (v.close refresh).now = v.now ∧ (v.close refresh).next = v.next := by
    cases refresh with
    | none | some => exact ⟨rfl, rfl⟩
  apply Executed.goOn (hkept.1.trans hnow) (hkept.2.trans hnext) _ _ (Or.inl rfl)
  · intro d
    obtain ⟨closed, h⟩ := v.calls_close refresh d
    rw [h, hcalls]
    exact ⟨closed, rfl⟩
  · intro d hd
    exact (live_of_same hnow hcalls d).mp ((v.live_close refresh d).mp hd).1

end

theorem World.executed (w : World) (c : Nat) (rest : List Statement) (outcome : Outcome)
    (statement : Statement) : Executed w (w.execute c rest outcome statement) c rest statement := by
  have hgo : ∀ s, Executed w (w.goOn c rest) c rest s :=
    fun s => Executed.goOn_same rfl rfl rfl (Or.inl rfl)
  have hstop : ∀ s, Executed w (w.goOn c []) c rest s :=
    fun s => Executed.goOn_same rfl rfl rfl (Or.inr rfl)
  cases statement with
  | lockClaim =>
    dsimp only [World.execute]
    split
    · exact Executed.goOn_same rfl rfl rfl (Or.inl rfl)
    · exact Executed.refuse (Or.inl rfl)
  | testRefreshing =>
    dsimp only [World.execute]
    split
    · exact Executed.refuse (Or.inr ⟨rfl, rfl⟩)
    · exact hgo _
  | storeClaimed =>
    cases outcome with
    | done | unwritten => exact Executed.grant rfl rfl rfl
    | unlocked => exact Executed.refuse (Or.inr ⟨rfl, rfl⟩)
  | unlockClaim => exact Executed.goOn_same rfl rfl rfl (Or.inl rfl)
  | storeMarker =>
    cases outcome with
    | done => exact Executed.goOn_same rfl rfl rfl (Or.inl rfl)
    | unwritten => exact hgo _
    | unlocked => exact hstop _
  | invalidateMarker | storeVersioned =>
    cases outcome with
    | done =>
      dsimp only [World.execute]
      apply Executed.close
      · rfl
      · rfl
      · rfl
    | unwritten | unlocked => exact hstop _
  | publishEvent =>
    cases outcome with
    | done => exact hgo _
    | unwritten | unlocked => exact hstop _
  | invalidateSnapshot =>
    cases outcome with
    | done => exact Executed.goOn_same rfl rfl rfl (Or.inl rfl)
    | unwritten | unlocked => exact hstop _

theorem World.close_keeps (w : World) (refresh : Option Nat) :
    (w.close refresh).holder = w.holder ∧ (w.close refresh).marker = w.marker := by
  cases refresh with
  | none | some _ => exact ⟨rfl, rfl⟩

theorem World.holder_execute (w : World) (c : Nat) (rest : List Statement) (outcome : Outcome)
    (hlock : statement ≠ .lockClaim) (hunlock : statement ≠ .unlockClaim) :
    (w.execute c rest outcome statement).holder = w.holder := by
  cases statement with
  | lockClaim => exact absurd rfl hlock
  | unlockClaim => exact absurd rfl hunlock
  | testRefreshing =>
    dsimp only [World.execute]
    split
    · rfl
    · rfl
  | invalidateMarker | storeVersioned =>
    cases outcome with
    | done => exact (World.close_keeps _ _).1
    | unwritten => rfl
    | unlocked => rfl
  | storeClaimed | storeMarker | publishEvent | invalidateSnapshot => cases outcome <;> rfl

theorem World.marker_execute (w : World) (c : Nat) (rest : List Statement) (outcome : Outcome)
    (statement : Statement) :
    (w.execute c rest outcome statement).marker = w.marker ∨
      (w.execute c rest outcome statement).marker = some ⟨w.now, true⟩ ∨
      statement = .invalidateMarker ∧ outcome = .done := by
  cases statement with
  | lockClaim | testRefreshing =>
    left
    dsimp only [World.execute]
    split
    · rfl
    · rfl
  | unlockClaim => exact Or.inl rfl
  | storeClaimed | storeMarker =>
    cases outcome with
    | done => exact Or.inr (Or.inl rfl)
    | unwritten | unlocked => exact Or.inl rfl
  | invalidateMarker =>
    cases outcome with
    | done => exact Or.inr (Or.inr ⟨rfl, rfl⟩)
    | unwritten | unlocked => exact Or.inl rfl
  | storeVersioned =>
    left
    cases outcome with
    | done => exact (World.close_keeps _ _).2
    | unwritten => rfl
    | unlocked => rfl
  | publishEvent | invalidateSnapshot =>
    left
    cases outcome <;> rfl

/-! ## Every reachable world -/

/-- Inside the lock a call gets by locking only, and there it stays until it unlocks; it stores
the claim right after its test. -/
def Follows (s t : Statement) : Prop :=
  (t.inside = true → s = .lockClaim ∨ s.inside = true ∧ s ≠ .unlockClaim) ∧
    (t = .storeClaimed → s = .testRefreshing)

instance (s t : Statement) : Decidable (Follows s t) :=
  inferInstanceAs (Decidable (_ ∧ _))

theorem statements_follow (operation : Operation) :
    operation.statements.IsChain Follows ∧
      ∀ s ∈ operation.statements.head?, s.inside = false := by
  cases operation with
  | claimRefresh | publishSnapshot | invalidateSnapshot => decide
  | markRefreshing refreshing =>
    cases refreshing with
    | true => decide
    | false => decide

/-- The calls that are not there yet have done nothing, the statements of a call are in their
order, and a call between locking and unlocking holds the lock. -/
structure Formed (w : World) : Prop where
  unborn : ∀ c, w.next ≤ c → (w.calls c).todo = [] ∧ (w.calls c).answer = none
  ordered : ∀ c, (w.calls c).todo.IsChain Follows
  locked : ∀ c statement, w.head c = some statement → statement.inside = true →
    w.holder = some c

theorem Formed.start (now : Nat) (marker : Option Record) (generation : Option Nat) :
    Formed (start now marker generation) where
  unborn := fun _ _ => ⟨rfl, rfl⟩
  ordered := fun _ => List.isChain_nil
  locked := by
    intro c statement h
    cases h

section

variable (h : Formed w)
include h

theorem Formed.lt_of_live (hlive : w.Live c) : c < w.next := by
  by_contra hge
  have hnone := (h.unborn c (Nat.le_of_not_lt hge)).2
  rw [hlive.1] at hnone
  cases hnone

theorem Formed.lt_of_head (htodo : (w.calls c).todo = statement :: rest) : c < w.next := by
  by_contra hge
  have hnone := (h.unborn c (Nat.le_of_not_lt hge)).1
  rw [htodo] at hnone
  cases hnone

section

variable (outcome : Outcome)

theorem Formed.holder_self {t : Statement} (htodo : (w.calls c).todo = statement :: rest)
    (hhead : (w.execute c rest outcome statement).head c = some t) (ht : t.inside = true) :
    (w.execute c rest outcome statement).holder = some c := by
  have hchain := List.isChain_cons.mp (htodo ▸ h.ordered c)
  have hin : statement = .lockClaim ∨ statement.inside = true ∧ statement ≠ .unlockClaim := by
    unfold World.head at hhead
    rcases (w.executed c rest outcome statement).todo with hrest | hnil | ⟨hinside, hunlock⟩
    · rw [hrest] at hhead
      exact (hchain.1 t hhead).1 ht
    · rw [hnil] at hhead
      cases hhead
    · right
      refine ⟨hinside, ?_⟩
      intro heq
      -- the unlocking itself leaves nothing
      rw [heq] at hunlock
      have hrest : ((w.execute c rest outcome .unlockClaim).calls c).todo = rest := by
        dsimp only [World.execute, World.goOn]
        rw [World.calls_setCall_self]
      rw [hrest] at hunlock
      have hfollows := (hchain.1 .unlockClaim (by rw [hunlock]; rfl)).1 rfl
      rw [heq] at hfollows
      rcases hfollows with hlock | hother
      · cases hlock
      · exact hother.2 rfl
  rcases hin with hlock | ⟨hinside, hunlock⟩
  · rw [hlock] at hhead ⊢
    dsimp only [World.execute] at hhead ⊢
    split
    · rfl
    · rename_i hfail
      rw [if_neg hfail] at hhead
      unfold World.head World.refuse at hhead
      rw [World.calls_setCall_self] at hhead
      cases hhead
  · have hheld : w.holder = some c :=
      h.locked c statement (by unfold World.head; rw [htodo]; rfl) hinside
    rw [w.holder_execute c rest outcome _ hunlock]
    · exact hheld
    · intro heq
      rw [heq] at hinside
      cases hinside

theorem Formed.holder_other (htodo : (w.calls c).todo = statement :: rest) (hd : d ≠ c)
    (hheld : w.holder = some d) : (w.execute c rest outcome statement).holder = some d := by
  by_cases hlock : statement = .lockClaim
  · rw [hlock]
    dsimp only [World.execute]
    have hfail : ¬(outcome = .done ∧ w.holder = none) := by
      intro hfree
      rw [hheld] at hfree
      cases hfree.2
    rw [if_neg hfail]
    exact hheld
  by_cases hunlock : statement = .unlockClaim
  · have hmine := h.locked c statement (by unfold World.head; rw [htodo]; rfl)
      (by rw [hunlock]; rfl)
    rw [hheld] at hmine
    exact absurd (Option.some.inj hmine) hd
  · rw [w.holder_execute c rest outcome hlock hunlock]
    exact hheld

theorem Formed.execute (htodo : (w.calls c).todo = statement :: rest) :
    Formed (w.execute c rest outcome statement) := by
  have hexec := w.executed c rest outcome statement
  constructor
  · intro d hd
    rw [hexec.next_eq] at hd
    have hne : d ≠ c := by
      have hlt := h.lt_of_head htodo
      omega
    obtain ⟨closed, hsame⟩ := hexec.others d hne
    rw [hsame]
    exact h.unborn d hd
  · intro d
    by_cases hd : d = c
    · rw [hd]
      rcases hexec.todo with hrest | hnil | hunlock
      · rw [hrest]
        exact (List.isChain_cons.mp (htodo ▸ h.ordered c)).2
      · rw [hnil]
        exact List.isChain_nil
      · rw [hunlock.2]
        exact List.isChain_singleton _
    · obtain ⟨closed, hsame⟩ := hexec.others d hd
      rw [hsame]
      exact h.ordered d
  · intro d t hhead ht
    by_cases hd : d = c
    · rw [hd] at hhead ⊢
      exact h.holder_self outcome htodo hhead ht
    · apply h.holder_other outcome htodo hd
      obtain ⟨closed, hsame⟩ := hexec.others d hd
      unfold World.head at hhead
      rw [hsame] at hhead
      exact h.locked d t hhead ht

end

end

theorem World.calls_die_self (w : World) (c : Nat) :
    (w.die c).calls c = { w.calls c with todo := [] } := by
  unfold World.die World.goOn
  rw [World.calls_setCall_self]

theorem World.calls_die_other (w : World) (h : d ≠ c) : (w.die c).calls d = w.calls d := by
  unfold World.die World.goOn
  rw [World.calls_setCall_other _ _ h]

theorem Formed.die (h : Formed w) (c : Nat) : Formed (w.die c) := by
  constructor
  · intro d hd
    by_cases hc : d = c
    · rw [hc, World.calls_die_self]
      rw [hc] at hd
      exact ⟨rfl, (h.unborn c hd).2⟩
    · rw [World.calls_die_other w hc]
      exact h.unborn d hd
  · intro d
    by_cases hc : d = c
    · rw [hc, World.calls_die_self]
      exact List.isChain_nil
    · rw [World.calls_die_other w hc]
      exact h.ordered d
  · intro d statement hhead hin
    unfold World.head at hhead
    by_cases hc : d = c
    · rw [hc, World.calls_die_self] at hhead
      cases hhead
    · rw [World.calls_die_other w hc] at hhead
      have hheld := h.locked d statement hhead hin
      show (if w.holder = some c then none else w.holder) = some d
      rw [if_neg]
      · exact hheld
      · rw [hheld]
        intro hdc
        exact hc (Option.some.inj hdc)

theorem Formed.begin (h : Formed w) (operation : Operation) (refresh : Option Nat) :
    Formed (w.begin operation refresh) := by
  obtain ⟨hchain, hhead⟩ := statements_follow operation
  unfold World.begin
  constructor
  · intro c hc
    have hne : c ≠ w.next := Nat.ne_of_gt hc
    rw [World.calls_setCall_other _ _ hne]
    exact h.unborn c (Nat.le_of_succ_le hc)
  · intro c
    by_cases hc : c = w.next
    · rw [hc, World.calls_setCall_self]
      exact hchain
    · rw [World.calls_setCall_other _ _ hc]
      exact h.ordered c
  · intro c statement hstatement hin
    unfold World.head at hstatement
    by_cases hc : c = w.next
    · rw [hc, World.calls_setCall_self] at hstatement
      rw [hhead statement hstatement] at hin
      cases hin
    · rw [World.calls_setCall_other _ _ hc] at hstatement
      exact h.locked c statement hstatement hin

theorem step_cases (hs : step w label = some w') :
    (∃ operation refresh, label = .start operation refresh ∧ w' = w.begin operation refresh) ∨
    (∃ c outcome statement rest, label = .next c outcome ∧
      (w.calls c).todo = statement :: rest ∧ w' = w.execute c rest outcome statement) ∨
    (∃ c, label = .die c ∧ w' = w.die c) ∨
    (∃ time, label = .wait time ∧ w' = { w with now := w.now + time }) ∨
    (label = .prune ∧ w' = { w with marker := none }) := by
  cases label with
  | start operation refresh =>
    left
    simp only [step] at hs
    split at hs
    · exact ⟨operation, refresh, rfl, (Option.some.inj hs).symm⟩
    · cases hs
  | next c outcome =>
    right; left
    simp only [step] at hs
    split at hs
    · cases hs
    · rename_i statement rest htodo
      exact ⟨c, outcome, statement, rest, rfl, htodo, (Option.some.inj hs).symm⟩
  | die c =>
    right; right; left
    exact ⟨c, rfl, (Option.some.inj hs).symm⟩
  | wait time =>
    right; right; right; left
    exact ⟨time, rfl, (Option.some.inj hs).symm⟩
  | prune =>
    right; right; right; right
    exact ⟨rfl, (Option.some.inj hs).symm⟩

theorem Formed.step (h : Formed w) (hs : step w label = some w') : Formed w' := by
  rcases step_cases hs with ⟨operation, refresh, -, rfl⟩ |
    ⟨c, outcome, statement, rest, -, htodo, rfl⟩ | ⟨c, -, rfl⟩ | ⟨time, -, rfl⟩ | ⟨-, rfl⟩
  · exact h.begin operation refresh
  · exact h.execute outcome htodo
  · exact h.die c
  · exact ⟨h.unborn, h.ordered, h.locked⟩
  · exact ⟨h.unborn, h.ordered, h.locked⟩

/-! ## Runs that meet the condition -/

/-- No call has the claim while another one is about to store it, every claim has a marker that
counts as long, and one call at most has the claim. -/
structure Kept (w : World) : Prop where
  tested : ∀ c, w.head c = some .storeClaimed → ∀ d, ¬w.Live d
  past : ∀ c, w.Live c → (w.calls c).claimedAt ≤ w.now
  backed : ∀ c, w.Live c → Backs (w.calls c).claimedAt w.marker
  single : Single w

theorem not_live_start (now : Nat) (marker : Option Record) (generation : Option Nat) (c : Nat) :
    ¬(start now marker generation).Live c := by
  intro h
  cases h.1

theorem Kept.start (now : Nat) (marker : Option Record) (generation : Option Nat) :
    Kept (start now marker generation) where
  tested := by
    intro c h
    cases h
  past := fun c h => absurd h (not_live_start now marker generation c)
  backed := fun c h => absurd h (not_live_start now marker generation c)
  single := fun c _ h => absurd h (not_live_start now marker generation c)

section

variable (h : Kept w)
include h

theorem Kept.refreshing (hlive : w.Live c) : isRefreshing w.now w.marker = true := by
  have hbacked := h.backed c hlive
  unfold isRefreshing getCached
  cases hmarker : w.marker with
  | none =>
    rw [hmarker] at hbacked
    exact hbacked.elim
  | some record =>
    rw [hmarker] at hbacked
    have hage := hlive.2.2
    have hsince := hbacked.2
    have hfresh : ¬refreshStateMaxAge < w.now - record.createdAt := by omega
    simp only [if_neg hfresh]
    exact hbacked.1

theorem Kept.shrink (hnow : w.now ≤ w'.now)
    (hlive : ∀ d, w'.Live d → w.Live d ∧ (w'.calls d).claimedAt = (w.calls d).claimedAt)
    (htested : ∀ c, w'.head c = some .storeClaimed → w.head c = some .storeClaimed)
    (hmarker : ∀ d, w'.Live d → Backs (w.calls d).claimedAt w.marker →
      Backs (w.calls d).claimedAt w'.marker) : Kept w' where
  tested := by
    intro c hc d hd
    exact h.tested c (htested c hc) d (hlive d hd).1
  past := by
    intro c hc
    obtain ⟨hold, hsame⟩ := hlive c hc
    rw [hsame]
    exact Nat.le_trans (h.past c hold) hnow
  backed := by
    intro c hc
    obtain ⟨hold, hsame⟩ := hlive c hc
    rw [hsame]
    exact hmarker c hc (h.backed c hold)
  single := by
    intro c d hc hd
    exact h.single c d (hlive c hc).1 (hlive d hd).1

theorem Kept.test (hhead : (w.execute c rest outcome .testRefreshing).head c = some .storeClaimed)
    (d : Nat) : ¬w.Live d := by
  intro hlive
  dsimp only [World.execute] at hhead
  rw [if_pos (h.refreshing hlive)] at hhead
  unfold World.head World.refuse at hhead
  rw [World.calls_setCall_self] at hhead
  cases hhead

theorem Kept.marker (hf : Formed w) (htodo : (w.calls c).todo = statement :: rest)
    (hsound : Sound w (.next c outcome)) (hold : w.Live d)
    (hlive : (w.execute c rest outcome statement).Live d) :
    Backs (w.calls d).claimedAt (w.execute c rest outcome statement).marker := by
  rcases w.marker_execute c rest outcome statement with hsame | hnew | ⟨hclear, hdone⟩
  · rw [hsame]
    exact h.backed d hold
  · rw [hnew]
    exact ⟨rfl, h.past d hold⟩
  · rw [hclear] at htodo hlive
    rw [hdone] at hsound hlive
    -- the claim that the marker is removed for is over with it
    have hmine := hsound (by unfold World.head; rw [htodo]; rfl) d (hf.lt_of_live hold) hold
    dsimp only [World.execute] at hlive
    rw [World.live_goOn, World.live_close] at hlive
    exact absurd hmine hlive.2

theorem Kept.storeClaimed (hf : Formed w) (htodo : (w.calls c).todo = .storeClaimed :: rest)
    (hsound : Sound w (.next c outcome)) : Kept (w.execute c rest outcome .storeClaimed) := by
  have hexec := w.executed c rest outcome .storeClaimed
  have hhead : w.head c = some .storeClaimed := by
    unfold World.head
    rw [htodo]
    rfl
  have hnone := h.tested c hhead
  -- the claim is the call's own
  have hmine : ∀ d, (w.execute c rest outcome .storeClaimed).Live d →
      d = c ∧ ((w.execute c rest outcome .storeClaimed).calls d).claimedAt = w.now := by
    intro d hd
    rcases hexec.live d hd with hold | hnew
    · exact absurd hold.1 (hnone d)
    · exact hnew.2
  constructor
  · intro e he d hd
    by_cases hec : e = c
    · have hnext : rest.head? ≠ some .storeClaimed := by
        intro hrest
        have hfollows := (List.isChain_cons.mp (htodo ▸ hf.ordered c)).1 _ hrest
        cases hfollows.2 rfl
      unfold World.head at he
      rw [hec] at he
      rcases hexec.todo with hrest | hnil | hunlock
      · rw [hrest] at he
        exact hnext he
      · rw [hnil] at he
        cases he
      · rw [hunlock.2] at he
        cases he
    · obtain ⟨closed, hsame⟩ := hexec.others e hec
      unfold World.head at he
      rw [hsame] at he
      have hheld := hf.locked e _ he rfl
      rw [hf.locked c _ hhead rfl] at hheld
      exact hec (Option.some.inj hheld).symm
  · intro d hd
    rw [(hmine d hd).2, hexec.now_eq]
  · intro d hd
    rw [(hmine d hd).2]
    cases outcome with
    | done => exact ⟨rfl, Nat.le_refl w.now⟩
    | unwritten => exact hsound hhead
    | unlocked =>
      obtain rfl := (hmine d hd).1
      exact absurd (World.live_of_refuse hd) (hnone d)
  · intro d e hd he
    rw [(hmine d hd).1, (hmine e he).1]

theorem Kept.execute (hf : Formed w) (htodo : (w.calls c).todo = statement :: rest)
    (hsound : Sound w (.next c outcome)) : Kept (w.execute c rest outcome statement) := by
  by_cases hstore : statement = .storeClaimed
  · rw [hstore] at htodo ⊢
    exact h.storeClaimed hf htodo hsound
  have hexec := w.executed c rest outcome statement
  have hlive : ∀ d, (w.execute c rest outcome statement).Live d →
      w.Live d ∧ ((w.execute c rest outcome statement).calls d).claimedAt =
        (w.calls d).claimedAt := by
    intro d hd
    rcases hexec.live d hd with hold | hnew
    · exact hold
    · exact absurd hnew.1 hstore
  constructor
  · intro e he d hd
    have hold := (hlive d hd).1
    by_cases hec : e = c
    · rw [hec] at he
      have htest : statement = .testRefreshing := by
        unfold World.head at he
        rcases hexec.todo with hrest | hnil | hunlock
        · rw [hrest] at he
          exact ((List.isChain_cons.mp (htodo ▸ hf.ordered c)).1 _ he).2 rfl
        · rw [hnil] at he
          cases he
        · rw [hunlock.2] at he
          cases he
      rw [htest] at he
      exact h.test he d hold
    · obtain ⟨closed, hsame⟩ := hexec.others e hec
      unfold World.head at he
      rw [hsame] at he
      exact h.tested e he d hold
  · intro d hd
    rw [(hlive d hd).2, hexec.now_eq]
    exact h.past d (hlive d hd).1
  · intro d hd
    rw [(hlive d hd).2]
    exact h.marker hf htodo hsound (hlive d hd).1 hd
  · intro d e hd he
    exact h.single d e (hlive d hd).1 (hlive e he).1

theorem Kept.begin (operation : Operation) (refresh : Option Nat) :
    Kept (w.begin operation refresh) := by
  have hold : ∀ d, (w.begin operation refresh).Live d →
      d ≠ w.next := by
    intro d hd hnext
    unfold World.begin World.Live at hd
    rw [hnext, World.calls_setCall_self] at hd
    cases hd.1
  apply h.shrink
  · exact Nat.le_refl w.now
  · intro d hd
    have hne := hold d hd
    unfold World.begin World.Live at hd
    unfold World.begin
    rw [World.calls_setCall_other _ _ hne] at hd ⊢
    exact ⟨hd, rfl⟩
  · intro c hc
    unfold World.begin World.head at hc
    by_cases hnext : c = w.next
    · rw [hnext, World.calls_setCall_self] at hc
      cases operation with
      | markRefreshing refreshing => cases refreshing <;> cases hc
      | claimRefresh | publishSnapshot | invalidateSnapshot => cases hc
    · rw [World.calls_setCall_other _ _ hnext] at hc
      exact hc
  · intro d _ hbacks
    exact hbacks

end

theorem World.live_die (w : World) (c d : Nat) : (w.die c).Live d ↔ w.Live d := by
  unfold World.die
  exact World.live_goOn _ c [] d

theorem Kept.die (h : Kept w) (c : Nat) : Kept (w.die c) := by
  apply h.shrink
  · exact Nat.le_refl w.now
  · intro d hd
    refine ⟨(w.live_die c d).mp hd, ?_⟩
    by_cases hc : d = c
    · rw [hc, World.calls_die_self]
    · rw [World.calls_die_other w hc]
  · intro e he
    unfold World.head at he
    by_cases hc : e = c
    · rw [hc, World.calls_die_self] at he
      cases he
    · rw [World.calls_die_other w hc] at he
      exact he
  · intro d _ hbacks
    exact hbacks

theorem Kept.wait (h : Kept w) (time : Nat) : Kept { w with now := w.now + time } := by
  apply h.shrink
  · exact Nat.le_add_right w.now time
  · intro d hd
    have hage : w.now + time - (w.calls d).claimedAt ≤ refreshStateMaxAge := hd.2.2
    exact ⟨⟨hd.1, hd.2.1, by omega⟩, rfl⟩
  · intro c hc
    exact hc
  · intro d _ hbacks
    exact hbacks

/-- **Step lemma.**  A step that meets the condition keeps the claims one at a time. -/
theorem Kept.step (h : Kept w) (hf : Formed w) (hsound : Sound w label)
    (hs : step w label = some w') : Kept w' := by
  rcases step_cases hs with ⟨operation, refresh, -, rfl⟩ |
    ⟨c, outcome, statement, rest, rfl, htodo, rfl⟩ | ⟨c, -, rfl⟩ | ⟨time, -, rfl⟩ | ⟨rfl, rfl⟩
  · exact h.begin operation refresh
  · exact h.execute hf htodo hsound
  · exact h.die c
  · exact h.wait time
  · apply h.shrink
    · exact Nat.le_refl w.now
    · intro d hd
      exact ⟨hd, rfl⟩
    · intro c hc
      exact hc
    · intro d hd _
      exact absurd hd (hsound d (hf.lt_of_live hd))

/-! ## Runs that do not -/

theorem step_next (outcome : Outcome) (htodo : (w.calls c).todo = statement :: rest) :
    step w (.next c outcome) = some (w.execute c rest outcome statement) := by
  simp only [step, htodo]

theorem SingleFlight.after (h : SingleFlight w) (label : Label) (hsound : Sound w label)
    (hs : step w label = some w') : SingleFlight w' :=
  System.Onward.after h label hsound hs

theorem SingleFlight.single (h : SingleFlight w) : Single w :=
  System.Onward.here h

theorem sound_done (htodo : (w.calls c).todo = statement :: rest)
    (hne : statement ≠ .invalidateMarker) : Sound w (.next c .done) := by
  intro hhead
  unfold World.head at hhead
  rw [htodo] at hhead
  exact absurd (Option.some.inj hhead) hne

theorem second_claim (hf : Formed w) (hfree : w.holder = none)
    (hstale : isRefreshing w.now w.marker = false) (hlive : w.Live d) : ¬SingleFlight w := by
  intro hsingle
  have hd : d ≠ w.next := Nat.ne_of_lt (hf.lt_of_live hlive)
  let w₁ := w.begin .claimRefresh none
  have htodo₁ : (w₁.calls w.next).todo =
      [.lockClaim, .testRefreshing, .storeClaimed, .unlockClaim] := by
    show ((World.begin w _ none).calls w.next).todo = _
    unfold World.begin
    rw [World.calls_setCall_self]
    rfl
  have hlive₁ : w₁.Live d := by
    unfold World.Live
    show ((World.begin w _ none).calls d).answer = _ ∧ _ ∧ _
    unfold w₁ World.begin
    rw [World.calls_setCall_other _ _ hd]
    exact hlive
  let w₂ := World.goOn { w₁ with holder := some w.next } w.next
    [.testRefreshing, .storeClaimed, .unlockClaim]
  have htodo₂ : (w₂.calls w.next).todo = [.testRefreshing, .storeClaimed, .unlockClaim] := by
    unfold w₂ World.goOn
    rw [World.calls_setCall_self]
  have hlive₂ : w₂.Live d := (World.live_goOn _ _ _ d).mpr hlive₁
  have hstep₂ : w₁.execute w.next _ .done .lockClaim = w₂ := if_pos ⟨rfl, hfree⟩
  let w₃ := w₂.goOn w.next [.storeClaimed, .unlockClaim]
  have htodo₃ : (w₃.calls w.next).todo = [.storeClaimed, .unlockClaim] := by
    unfold w₃ World.goOn
    rw [World.calls_setCall_self]
  have hlive₃ : w₃.Live d := (World.live_goOn _ _ _ d).mpr hlive₂
  have hstep₃ : w₂.execute w.next [.storeClaimed, .unlockClaim] .done .testRefreshing = w₃ := by
    apply if_neg
    show ¬isRefreshing w.now w.marker = true
    rw [hstale]
    exact Bool.false_ne_true
  let w₄ := World.grant { w₃ with marker := some ⟨w₃.now, true⟩ } w.next [.unlockClaim]
  have hlive₄ : w₄.Live d := by
    unfold World.Live w₄ World.grant
    rw [World.calls_setCall_other _ _ hd]
    exact hlive₃
  have hmine : w₄.Live w.next := by
    unfold World.Live w₄ World.grant
    rw [World.calls_setCall_self]
    refine ⟨rfl, rfl, ?_⟩
    show w₃.now - w₃.now ≤ refreshStateMaxAge
    omega
  have h₁ : SingleFlight w₁ := hsingle.after (.start .claimRefresh none) True.intro rfl
  have h₂ : SingleFlight w₂ := by
    apply h₁.after (.next w.next .done) (sound_done htodo₁ (by decide))
    rw [step_next .done htodo₁, hstep₂]
  have h₃ : SingleFlight w₃ := by
    apply h₂.after (.next w.next .done) (sound_done htodo₂ (by decide))
    rw [step_next .done htodo₂, hstep₃]
  have h₄ : SingleFlight w₄ := by
    apply h₃.after (.next w.next .done) (sound_done htodo₃ (by decide))
    exact step_next .done htodo₃
  exact hd (h₄.single d w.next hlive₄ hmine)

/-- A claim that no marker backs is not the only one for long: the lock may have to be released
before. -/
theorem not_singleFlight (hf : Formed w) (hstale : isRefreshing w.now w.marker = false)
    (hlive : w.Live d) : ¬SingleFlight w := by
  cases hholder : w.holder with
  | none => exact second_claim hf hholder hstale hlive
  | some c =>
    intro hsingle
    have hdied : SingleFlight (w.die c) := hsingle.after (.die c) True.intro rfl
    have hfree : (w.die c).holder = none := by
      show (if w.holder = some c then none else w.holder) = none
      rw [if_pos hholder]
    exact second_claim (hf.die c) hfree hstale ((w.live_die c d).mpr hlive) hdied

theorem stale_of_not_backs {now : Nat} {marker : Option Record} (h : ¬Backs now marker) :
    isRefreshing (now + refreshStateMaxAge) marker = false := by
  unfold isRefreshing getCached
  cases marker with
  | none => rfl
  | some record =>
    cases hvalue : record.refreshing with
    | false =>
      split
      · rfl
      · rename_i cached hcached
        dsimp only at hcached
        split at hcached
        · cases hcached
        · cases hcached
          exact hvalue
    | true =>
      have hbefore : ¬now ≤ record.createdAt := fun hle => h ⟨hvalue, hle⟩
      have hold : refreshStateMaxAge < now + refreshStateMaxAge - record.createdAt := by
        omega
      simp only [if_pos hold]

/-- **Breaking lemma.**  After a step that does not meet the condition a second caller can be
granted the claim. -/
theorem Formed.breaks (h : Formed w) (hsound : ¬Sound w label)
    (hs : RefreshClaims.step w label = some w') : ¬SingleFlight w' := by
  have hf' := h.step hs
  rcases step_cases hs with ⟨operation, refresh, rfl, -⟩ |
    ⟨c, outcome, statement, rest, rfl, htodo, rfl⟩ | ⟨c, rfl, -⟩ | ⟨time, rfl, -⟩ | ⟨rfl, rfl⟩
  · exact absurd True.intro hsound
  · cases outcome with
    | done =>
      simp only [Sound, Classical.not_imp, not_forall] at hsound
      obtain ⟨hhead, d, hlt, hlive, hother⟩ := hsound
      unfold World.head at hhead
      rw [htodo] at hhead
      obtain rfl : statement = .invalidateMarker := Option.some.inj hhead
      have hclear : (w.execute c rest .done .invalidateMarker).marker = none := by
        dsimp only [World.execute]
        cases (w.calls c).refresh with
        | none | some => rfl
      have hstill : (w.execute c rest .done .invalidateMarker).Live d := by
        dsimp only [World.execute]
        rw [World.live_goOn, World.live_close]
        exact ⟨hlive, hother⟩
      apply not_singleFlight hf' _ hstill
      rw [hclear]
      rfl
    | unwritten =>
      simp only [Sound, Classical.not_imp] at hsound
      obtain ⟨hhead, hbacks⟩ := hsound
      unfold World.head at hhead
      rw [htodo] at hhead
      obtain rfl : statement = .storeClaimed := Option.some.inj hhead
      intro hsingle
      -- until the claim is about to be over, an older marker is no more
      let later : World :=
        { w.grant c rest with now := w.now + refreshStateMaxAge }
      have hlater : SingleFlight later :=
        hsingle.after (.wait refreshStateMaxAge) True.intro rfl
      have hflater : Formed later := ⟨hf'.unborn, hf'.ordered, hf'.locked⟩
      have hmine : later.Live c := by
        unfold World.Live later World.grant
        rw [World.calls_setCall_self]
        refine ⟨rfl, rfl, ?_⟩
        show w.now + refreshStateMaxAge - w.now ≤ refreshStateMaxAge
        omega
      exact not_singleFlight hflater (stale_of_not_backs hbacks) hmine hlater
    | unlocked => exact absurd True.intro hsound
  · exact absurd True.intro hsound
  · exact absurd True.intro hsound
  · simp only [Sound, not_forall, not_not] at hsound
    obtain ⟨d, hlt, hlive⟩ := hsound
    exact not_singleFlight (d := d) hf' rfl hlive

/-! ## Main results -/

/-- **Main theorem.**  However a run goes on, at most one call has the claim of the cluster,
exactly when the markers of the run are removed and stored as the claims ask. -/
theorem claimed_once_iff (now : Nat) (marker : Option Record) (generation : Option Nat)
    (labels : List Label) (w : World)
    (hrun : system.run (start now marker generation) labels = some w) :
    system.Always (fun _ _ w' => SingleFlight w') (start now marker generation) labels ↔
      system.Meets Sound (start now marker generation) labels := by
  apply system.always_onward_iff (I := fun w => Formed w ∧ Kept w) _ _ _ labels _ w _ hrun
  · intro w hw
    exact hw.2.single
  · intro w label w' hw hsound hs
    exact ⟨hw.1.step hs, hw.2.step hw.1 hsound hs⟩
  · intro w label w' hw hsound hs
    exact hw.1.breaks hsound hs
  · exact ⟨Formed.start now marker generation, Kept.start now marker generation⟩

/-- A caller claims the refresh, publishes it and clears the marker; then another one does. -/
def oneAfterTheOther : List Label :=
  [.start .claimRefresh none, .next 0 .done, .next 0 .done, .next 0 .done, .next 0 .done,
    .start .claimRefresh none, .next 1 .done, .next 1 .done, .next 1 .done,
    .start .publishSnapshot (some 0), .next 2 .done, .next 2 .done, .next 2 .done,
    .start .claimRefresh none, .next 3 .done, .next 3 .done, .next 3 .done, .next 3 .done]

theorem claimed_once_iff_published :
    system.Always (fun _ _ w' => SingleFlight w') (start 0 none none) oneAfterTheOther :=
  (claimed_once_iff 0 none none oneAfterTheOther _ rfl).mpr (by decide)

/-- A caller claims the refresh, and before it is done the Watcher publishes a snapshot of its
own: the next caller is granted the claim, too. -/
def watcherPublishes : List Label :=
  [.start .claimRefresh none, .next 0 .done, .next 0 .done, .next 0 .done, .next 0 .done,
    .start .publishSnapshot none, .next 1 .done, .next 1 .done, .next 1 .done,
    .start .claimRefresh none, .next 2 .done, .next 2 .done, .next 2 .done, .next 2 .done]

theorem claim_granted_again : ∃ w, system.run (start 0 none none) watcherPublishes = some w ∧
    w.Live 0 ∧ w.Live 2 ∧ ¬Single w := by
  refine ⟨_, rfl, by decide, by decide, ?_⟩
  intro h
  exact absurd (h 0 2 (by decide) (by decide)) (by decide)

end CephAi.Ports.RefreshClaims
