import CephAi.Verified.Runs
import Mathlib.Logic.Function.Basic
import Mathlib.Tactic.SplitIfs

/-!
# The lock of a login

`_is_locked_out`, `_record_failure`, `_clear_failures` and `login_submit` of
`dashboard/routes/auth.py`, any number of attempts with one client key.  A call reads the clock
first; its transaction, with the row locked, comes later.

A row has two deadlines: the failures count in a window from the first of them, and the lock
runs from the last one.  The check looks at the window first and deletes the row when it is over,
whatever is left of the lock.

## Main results

* `stepped_of_step` — what each step does.
* `guarded_step` — what a step leaves of the locks that are due.
* `locked_not_compared` — where no window ends before its lock, no attempt is compared while one
  is due.
* `compared_while_locked` — five failures, and a check when the window is over.
-/

namespace CephAi.Ports.LoginLockout

open Verified.Runs

/-! ## The row and the calls -/

/-- `timedelta(seconds=n)`; times are in microseconds. -/
def seconds (n : Int) : Int := n * 1000000

def maxLoginAttempts : Nat := 5

def lockoutWindow : Int := seconds 300

/-- A row of `AuthLoginRateLimit`, of the one client key. -/
structure Row where
  failedAttempts : Nat
  windowStartedAt : Int
  lockedUntil : Option Int
deriving DecidableEq, Repr

def Row.windowOver (r : Row) (now : Int) : Bool := lockoutWindow ≤ now - r.windowStartedAt

/-- `_is_locked_out`: what is left of the row, and the answer. -/
def isLockedOut (row : Option Row) (now : Int) : Option Row × Bool :=
  match row with
  | none => (none, false)
  | some r =>
    if r.windowOver now then (none, false)
    else (some r, match r.lockedUntil with
      | none => false
      | some t => now < t)

/-- `_record_failure` of the row; a missing one is inserted first. -/
def recordFailure (row : Option Row) (now : Int) : Row :=
  let r := row.getD ⟨0, now, none⟩
  if r.windowOver now then ⟨1, now, none⟩
  else
    { r with
      failedAttempts := r.failedAttempts + 1
      lockedUntil :=
        if maxLoginAttempts ≤ r.failedAttempts + 1 then some (now + lockoutWindow)
        else r.lockedUntil }

/-- Where an attempt is; the time is the one that was read. -/
inductive Phase
  | idle
  | checking (now : Int)
  /-- The password is compared. -/
  | comparing
  | recording (now : Int)
  | clearing
deriving DecidableEq, Repr

structure World where
  clock : Int
  row : Option Row
  calls : Nat → Phase
  /-- The deadlines of the locks since the last login: what was counted as one failure too many
  locks for a window. -/
  locks : List Int

/-- How the comparison ends. -/
inductive Result
  | wrong
  | inactive
  | correct
deriving DecidableEq, Repr

/-- A step; the first argument is the attempt.  `stored` says whether the store works. -/
inductive Label
  | tick (d : Nat)
  | submit (p : Nat)
  | check (p : Nat) (stored : Bool)
  | compare (p : Nat) (result : Result)
  | record (p : Nat) (stored : Bool)
  | clear (p : Nat) (stored : Bool)
deriving DecidableEq, Repr

def World.goTo (w : World) (p : Nat) (ph : Phase) : World :=
  { w with calls := Function.update w.calls p ph }

def World.record (w : World) (now : Int) : World :=
  let r := recordFailure w.row now
  { w with
    row := some r
    locks := if maxLoginAttempts ≤ r.failedAttempts then (now + lockoutWindow) :: w.locks
      else w.locks }

/-- One step; `none` when it is not the attempt's turn. -/
def step (w : World) : Label → Option World
  | .tick d => some { w with clock := w.clock + d }
  | .submit p =>
    match w.calls p with
    | .idle => some (w.goTo p (.checking w.clock))
    | _ => none
  | .check p stored =>
    match w.calls p with
    | .checking now =>
      if !stored then some (w.goTo p .idle)
      else
        let (row, locked) := isLockedOut w.row now
        some ({ w with row := row }.goTo p (if locked then .idle else .comparing))
    | _ => none
  | .compare p result =>
    match w.calls p with
    | .comparing =>
      match result with
      | .correct => some (w.goTo p .clearing)
      | .wrong | .inactive => some (w.goTo p (.recording w.clock))
    | _ => none
  | .record p stored =>
    match w.calls p with
    | .recording now => some ((if stored then w.record now else w).goTo p .idle)
    | _ => none
  | .clear p stored =>
    match w.calls p with
    | .clearing =>
      some ((if stored then { w with row := none, locks := [] } else w).goTo p .idle)
    | _ => none

/-- The attempts of a client. -/
def logins : System World Label := ⟨step⟩

/-- The store at the start; a row may be there. -/
def World.start (clock : Int) (row : Option Row) : World where
  clock := clock
  row := row
  calls := fun _ => .idle
  locks := (row.bind Row.lockedUntil).toList

/-! ## Property and condition -/

/-- No attempt goes on to the comparison while a lock is due. -/
def NotCompared (w : World) (l : Label) (w' : World) : Prop :=
  ∀ p stored, l = .check p stored → w'.calls p = .comparing → ∀ t ∈ w.locks, t ≤ w.clock

/-- The clock that a check, or a failure that is recorded, has read. -/
def Phase.checkRead : Phase → Option Int
  | .checking now => some now
  | _ => none

def Phase.recordRead : Phase → Option Int
  | .recording now => some now
  | _ => none

/-- The condition on a step: a check whose window is over finds no lock that is due, and a
failure that is recorded finds none that it would shorten or drop. -/
def LockKept (w : World) : Label → Prop
  | .check p _ => ∀ now ∈ (w.calls p).checkRead, ∀ r ∈ w.row, r.windowOver now = true →
      ∀ t ∈ r.lockedUntil, t ≤ w.clock
  | .record p _ => ∀ now ∈ (w.calls p).recordRead, ∀ r ∈ w.row, ∀ t ∈ r.lockedUntil,
      t ≤ w.clock ∨ (r.windowOver now = false ∧ t ≤ now + lockoutWindow)
  | _ => True

instance (w : World) (l : Label) : Decidable (LockKept w l) :=
  match l with
  | .check p _ => inferInstanceAs (Decidable (∀ now ∈ (w.calls p).checkRead, ∀ r ∈ w.row,
      r.windowOver now = true → ∀ t ∈ r.lockedUntil, t ≤ w.clock))
  | .record p _ => inferInstanceAs (Decidable (∀ now ∈ (w.calls p).recordRead, ∀ r ∈ w.row,
      ∀ t ∈ r.lockedUntil,
        t ≤ w.clock ∨ (r.windowOver now = false ∧ t ≤ now + lockoutWindow)))
  | .tick _ | .submit _ | .compare .. | .clear .. => isTrue trivial

/-- The row has every lock that is due, and no call has read a later clock. -/
structure Guarded (w : World) : Prop where
  due : ∀ t ∈ w.locks, t ≤ w.clock ∨
    ∃ r u, w.row = some r ∧ r.lockedUntil = some u ∧ t ≤ u
  read : ∀ p now, w.calls p = .checking now → now ≤ w.clock

/-! ## What a step does -/

/-- The steps, one by one. -/
inductive Stepped (w : World) : Label → World → Prop
  | ticked (d : Nat) : Stepped w (.tick d) { w with clock := w.clock + d }
  | submitted {p : Nat} (hp : w.calls p = .idle) :
      Stepped w (.submit p) (w.goTo p (.checking w.clock))
  | checked {p : Nat} {now : Int} {stored : Bool} (hp : w.calls p = .checking now)
      (hstored : stored = true) :
      Stepped w (.check p stored) ({ w with row := (isLockedOut w.row now).1 }.goTo p
        (if (isLockedOut w.row now).2 then .idle else .comparing))
  | compared {p : Nat} {result : Result} {ph : Phase} (hp : w.calls p = .comparing)
      (hph : ∀ now, ph ≠ .checking now) : Stepped w (.compare p result) (w.goTo p ph)
  | recorded {p : Nat} {now : Int} {stored : Bool} (hp : w.calls p = .recording now) :
      Stepped w (.record p stored) ((w.record now).goTo p .idle)
  | cleared {p : Nat} {stored : Bool} (hp : w.calls p = .clearing) :
      Stepped w (.clear p stored) ({ w with row := none, locks := [] }.goTo p .idle)
  | ended {p : Nat} {l : Label} (hl : ∀ q stored, l = .check q stored → q = p) :
      Stepped w l (w.goTo p .idle)

theorem stepped_of_step {w w' : World} {l : Label} (hstep : step w l = some w') :
    Stepped w l w' := by
  revert hstep
  fun_cases step w l <;> rintro ⟨⟩
  · exact .ticked _
  next hp => exact .submitted hp
  · exact .ended fun _ _ hl => by
      cases hl
      rfl
  next hp hstored row locked hlocked =>
    have hchecked := Stepped.checked hp (by simpa using hstored)
    rwa [hlocked] at hchecked
  next hp => exact .compared hp fun _ hno => nomatch hno
  next hp => exact .compared hp fun _ hno => nomatch hno
  next hp => exact .compared hp fun _ hno => nomatch hno
  next hp =>
    split_ifs
    · exact .recorded hp
    · exact .ended fun _ _ hno => nomatch hno
  next hp =>
    split_ifs
    · exact .cleared hp
    · exact .ended fun _ _ hno => nomatch hno

/-! ## The locks that are due -/

variable {w w' : World}

theorem Guarded.due_of_over (h : Guarded w) {r : Row} (hr : w.row = some r)
    (hkept : ∀ t, r.lockedUntil = some t → t ≤ w.clock) : ∀ t ∈ w.locks, t ≤ w.clock := by
  intro t ht
  rcases h.due t ht with hpast | ⟨r', u, hr', hu, htu⟩
  · exact hpast
  · rw [hr] at hr'
    cases hr'
    have hpast := hkept u hu
    omega

variable {now : Int}

section

variable (h : Guarded w)
include h

theorem Guarded.due_of_passed (hnow : now ≤ w.clock)
    (hkept : ∀ r, w.row = some r → r.windowOver now = true →
      ∀ t, r.lockedUntil = some t → t ≤ w.clock)
    (hpassed : (isLockedOut w.row now).2 = false) : ∀ t ∈ w.locks, t ≤ w.clock := by
  cases hrow : w.row with
  | none =>
    intro t ht
    rcases h.due t ht with hpast | ⟨r, _, hr, _⟩
    · exact hpast
    · rw [hrow] at hr
      cases hr
  | some r =>
    apply h.due_of_over hrow
    cases hover : r.windowOver now with
    | true => exact hkept r hrow hover
    | false =>
      intro t ht
      unfold isLockedOut at hpassed
      rw [hrow] at hpassed
      dsimp only at hpassed
      rw [hover, if_neg Bool.false_ne_true, ht] at hpassed
      have hdue : ¬now < t := of_decide_eq_false hpassed
      omega

theorem Guarded.checked
    (hkept : ∀ r, w.row = some r → r.windowOver now = true →
      ∀ t, r.lockedUntil = some t → t ≤ w.clock) :
    Guarded { w with row := (isLockedOut w.row now).1 } := by
  refine ⟨?_, h.read⟩
  intro t ht
  cases hrow : w.row with
  | none =>
    rcases h.due t ht with hpast | ⟨r, _, hr, _⟩
    · exact .inl hpast
    · rw [hrow] at hr
      cases hr
  | some r =>
    cases hover : r.windowOver now with
    | true => exact .inl (h.due_of_over hrow (hkept r hrow hover) t ht)
    | false =>
      have hsame : (isLockedOut (some r) now).1 = some r := by
        unfold isLockedOut
        dsimp only
        rw [hover, if_neg Bool.false_ne_true]
      show t ≤ w.clock ∨ ∃ r' u, (isLockedOut (some r) now).1 = some r' ∧ _
      rw [hsame, ← hrow]
      exact h.due t ht

theorem Guarded.record
    (hkept : ∀ r, w.row = some r → ∀ t, r.lockedUntil = some t →
      t ≤ w.clock ∨ (r.windowOver now = false ∧ t ≤ now + lockoutWindow)) :
    Guarded (w.record now) := by
  refine ⟨?_, h.read⟩
  -- the lock of the new failure
  have hnew : maxLoginAttempts ≤ (recordFailure w.row now).failedAttempts →
      (recordFailure w.row now).lockedUntil = some (now + lockoutWindow) := by
    unfold recordFailure
    dsimp only
    split
    · intro hone
      unfold maxLoginAttempts at hone
      dsimp only at hone
      omega
    · intro hmany
      exact if_pos hmany
  -- a lock that was due
  have hold : ∀ t ∈ w.locks, t ≤ w.clock ∨
      ∃ u, (recordFailure w.row now).lockedUntil = some u ∧ t ≤ u := by
    intro t ht
    rcases h.due t ht with hpast | ⟨r, u, hr, hu, htu⟩
    · exact .inl hpast
    · rcases hkept r hr u hu with hpast | ⟨hopen, hlong⟩
      · left
        omega
      · right
        unfold recordFailure
        rw [hr, Option.getD_some]
        dsimp only
        rw [hopen, if_neg Bool.false_ne_true]
        dsimp only
        split
        · exact ⟨now + lockoutWindow, rfl, by omega⟩
        · exact ⟨u, hu, htu⟩
  intro t ht
  have hmem : t ∈ if maxLoginAttempts ≤ (recordFailure w.row now).failedAttempts then
      (now + lockoutWindow) :: w.locks else w.locks := ht
  have hfound : t ≤ w.clock ∨ ∃ u, (recordFailure w.row now).lockedUntil = some u ∧ t ≤ u := by
    split_ifs at hmem with hmany
    · rcases List.mem_cons.mp hmem with hsame | hrest
      · exact .inr ⟨now + lockoutWindow, hnew hmany, by omega⟩
      · exact hold t hrest
    · exact hold t hmem
  rcases hfound with hpast | ⟨u, hu, htu⟩
  · exact .inl hpast
  · exact .inr ⟨_, u, rfl, hu, htu⟩

/-- An attempt goes on. -/
theorem Guarded.goTo (p : Nat) {ph : Phase}
    (hph : ∀ now, ph = .checking now → now ≤ w.clock) : Guarded (w.goTo p ph) := by
  refine ⟨h.due, ?_⟩
  intro q now hq
  have hcall : Function.update w.calls p ph q = .checking now := hq
  rw [Function.update_apply] at hcall
  split_ifs at hcall
  · exact hph now hcall
  · exact h.read q now hcall

/-- **Step lemma.**  A step that keeps the locks compares no password while one is due. -/
theorem guarded_step {l : Label} (hkept : LockKept w l)
    (hstep : Stepped w l w') : NotCompared w l w' ∧ Guarded w' := by
  cases hstep with
  | ticked d =>
    refine ⟨(fun _ _ hno => nomatch hno), ?_, ?_⟩
    · intro t ht
      rcases h.due t ht with hpast | hdue
      · left
        show t ≤ w.clock + d
        omega
      · exact .inr hdue
    · intro p now hp
      have hread := h.read p now hp
      show now ≤ w.clock + d
      omega
  | submitted hp =>
    refine ⟨(fun _ _ hno => nomatch hno), h.goTo _ ?_⟩
    intro now hnow
    cases hnow
    exact Int.le_refl _
  | @checked p now stored hp hstored =>
    have hover : ∀ r, w.row = some r → r.windowOver now = true →
        ∀ t, r.lockedUntil = some t → t ≤ w.clock := by
      intro r hr hwindow t ht
      exact hkept now (by rw [hp]; rfl) r hr hwindow t ht
    constructor
    · intro q st hl hq
      cases hl
      have hph : (if (isLockedOut w.row now).2 = true then Phase.idle else .comparing) =
          .comparing := by
        have hcall : Function.update w.calls p _ p = Phase.comparing := hq
        rw [Function.update_self] at hcall
        exact hcall
      split_ifs at hph with hlocked
      exact h.due_of_passed (h.read p now hp) hover (Bool.eq_false_iff.mpr hlocked)
    · apply (h.checked hover).goTo
      intro now' hno
      split_ifs at hno
  | compared hp hph =>
    exact ⟨(fun _ _ hno => nomatch hno), h.goTo _ fun now hno => absurd hno (hph now)⟩
  | @recorded p now stored hp =>
    refine ⟨(fun _ _ hno => nomatch hno), ?_⟩
    have hlocks : ∀ r, w.row = some r → ∀ t, r.lockedUntil = some t →
        t ≤ w.clock ∨ (r.windowOver now = false ∧ t ≤ now + lockoutWindow) := by
      intro r hr t ht
      exact hkept now (by rw [hp]; rfl) r hr t ht
    exact (h.record hlocks).goTo p fun _ hno => nomatch hno
  | @cleared p stored hp =>
    refine ⟨(fun _ _ hno => nomatch hno), ?_⟩
    have hnone : Guarded { w with row := none, locks := [] } :=
      ⟨(fun _ hno => nomatch hno), h.read⟩
    exact hnone.goTo p fun _ hno => nomatch hno
  | @ended p l hl =>
    refine ⟨?_, h.goTo p fun _ hno => nomatch hno⟩
    intro q stored hcheck hq
    have hcall : Function.update w.calls p .idle q = .comparing := hq
    rw [hl q stored hcheck, Function.update_self] at hcall
    cases hcall

end

/-! ## Runs -/

theorem guarded_start (clock : Int) (row : Option Row) : Guarded (World.start clock row) := by
  constructor
  · intro t ht
    right
    obtain ⟨r, hr, hu⟩ := Option.bind_eq_some_iff.mp (Option.mem_toList.mp ht)
    exact ⟨r, t, hr, hu, Int.le_refl t⟩
  · intro p now hno
    cases hno

/-- **Nothing is compared while a lock is due.**  In a run whose windows end after their locks
and whose failures shorten none, every attempt that is compared passed its check after every
lock since the last login. -/
theorem locked_not_compared (clock : Int) (row : Option Row) (ls : List Label)
    (hkept : logins.Meets LockKept (World.start clock row) ls) :
    logins.Always NotCompared (World.start clock row) ls := by
  apply logins.always_of_meets NotCompared LockKept Guarded _ ls _ (guarded_start clock row) hkept
  intro w l w' h hlock hstep
  exact guarded_step h hlock (stepped_of_step hstep)

def wrongPassword (p : Nat) : List Label :=
  [.submit p, .check p true, .compare p .wrong, .record p true]

/-- A failure, four more at the end of its window, and an attempt that is to be checked when the
window is over. -/
def atWindowEnd : List Label :=
  wrongPassword 0 ++ [.tick 299000000] ++ wrongPassword 1 ++ wrongPassword 2 ++ wrongPassword 3 ++
    wrongPassword 4 ++ [.tick 1000000, .submit 5]

/-- Five failures at once, and an attempt while the lock is due. -/
def atOnce : List Label :=
  wrongPassword 0 ++ wrongPassword 1 ++ wrongPassword 2 ++ wrongPassword 3 ++ wrongPassword 4 ++
    [.tick 1000000, .submit 5, .check 5 true]

theorem locked_not_compared_at_once : logins.Always NotCompared (World.start 0 none) atOnce := by
  apply locked_not_compared 0 none atOnce
  decide

/-- The attempt is compared 299 seconds before the lock ends. -/
theorem compared_while_locked : ¬∀ ls, logins.Always NotCompared (World.start 0 none) ls := by
  intro h
  obtain ⟨w, w', hw, hstep, hcompared, hlocks, hclock⟩ : ∃ w w',
      logins.run (World.start 0 none) atWindowEnd = some w ∧ step w (.check 5 true) = some w' ∧
      w'.calls 5 = .comparing ∧ w.locks = [599000000] ∧ w.clock = 300000000 := by
    refine ⟨_, _, rfl, rfl, rfl, ?_, ?_⟩ <;> decide
  have hlast : NotCompared w (.check 5 true) w' :=
    System.Always.step_after hstep atWindowEnd _ (h (atWindowEnd ++ [.check 5 true])) hw
  have hpast := hlast 5 true rfl hcompared 599000000 (by rw [hlocks]; exact List.mem_cons_self)
  rw [hclock] at hpast
  exact absurd hpast (by decide)

end CephAi.Ports.LoginLockout
