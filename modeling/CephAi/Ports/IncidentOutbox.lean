import CephAi.Verified.Leases
import CephAi.Verified.Runs
import CephAi.Verified.Table
import Mathlib

/-!
# The deliveries of the incident outbox

`_claim_one`, `_mark_sent`, `_mark_failed` and `dispatch_due` of `shared/incident_outbox.py`, any
number of dispatchers, with `enqueue`, `mark_published` and what `reconcile_stale` writes.

A dispatcher reads the clock, then a candidate that is due, and claims it by an `UPDATE` that
compares the status with the one it read.  A row that was claimed again in between is
`PROCESSING` as before.  `shared/telegram_outbox.py` compares the lease as well.

## Main results

* `stepped_of_step` — what each step does.
* `sound_step` — what a claim that replaces nothing but expired ones leaves of the claims.
* `exclusive_iff` — claims are exclusive in the runs where no candidate was claimed since it was
  read, other than by a dispatcher whose clock is a lease behind.
* `rechecked_exclusive` — with the test of the Telegram outbox, in every run.
* `claimed_twice` — two dispatchers that read the same expired row.
-/

namespace CephAi.Ports.IncidentOutbox

open Verified.Leases Verified.Runs Verified.Table

/-! ## The rows and the dispatchers -/

/-- `timedelta(seconds=n)`; times are in microseconds. -/
def seconds (n : Int) : Int := n * 1000000

def claimLease : Int := seconds 300

def maxAttempts : Nat := 8

def redriveDeadAfter : Int := seconds 3600

/-- `IncidentOutboxStatus` -/
inductive Status
  | pending
  | processing
  | sent
  | dead
deriving DecidableEq, Repr

/-- A row of `IncidentOutbox`; a token is known by when it was made. -/
structure Row where
  id : Nat
  eventId : String
  status : Status
  attempts : Nat
  nextAttemptAt : Int
  claimedAt : Option Int
  claimToken : Option Nat
  createdAt : Int
  updatedAt : Int
deriving DecidableEq, Repr

instance : Keyed Row := ⟨Row.id⟩

def Row.leaseExpired (now : Int) (r : Row) : Bool :=
  r.claimedAt.any fun t => t ≤ now - claimLease

/-- The filter `due` of `_claim_one`. -/
def Row.due (now : Int) (r : Row) : Bool :=
  (r.status = .pending ∧ r.nextAttemptAt ≤ now) ∨
    (r.status = .processing ∧ r.leaseExpired now = true)

/-- The order by `next_attempt_at`, then `created_at`. -/
def Row.before (a b : Row) : Bool :=
  a.nextAttemptAt < b.nextAttemptAt ∨
    (a.nextAttemptAt = b.nextAttemptAt ∧ a.createdAt < b.createdAt)

/-- A row that `first` may return: it is due, and nothing that is due comes before it. -/
def isCandidate (rows : List Row) (now : Int) (r : Row) : Bool :=
  r.due now && rows.all fun s => !(s.due now && s.before r)

/-- The filter of the `UPDATE`: the row, the candidate as it was read, and the clock. -/
abbrev ClaimTest := Row → Row → Int → Bool

/-- The filter of `_claim_one`. -/
def sameStatus : ClaimTest := fun r candidate _ => r.status = candidate.status

/-- The filter of `_claim_one` of the Telegram outbox. -/
def sameStatusOrExpired : ClaimTest := fun r candidate now =>
  r.status = candidate.status ∧ (candidate.status ≠ .processing ∨ r.leaseExpired now = true)

def Row.claim (now : Int) (token : Nat) (r : Row) : Row :=
  { r with
    status := .processing
    claimedAt := some now
    claimToken := some token
    attempts := r.attempts + 1
    updatedAt := now }

/-- The columns that `_mark_sent` sets, and `mark_published`. -/
def Row.markSent (now : Int) (r : Row) : Row := { r with status := .sent, updatedAt := now }

/-- The columns that `_mark_failed` sets; the claim stays in the row. -/
def Row.markFailed (now : Int) (r : Row) : Row :=
  { r with
    status := if maxAttempts ≤ r.attempts then .dead else .pending
    nextAttemptAt := now + seconds (min 3600 (5 * 2 ^ (r.attempts - 1)))
    updatedAt := now }

/-- The columns that `reconcile_stale` sets. -/
def Row.redrive (now : Int) (r : Row) : Row :=
  { r with status := .pending, attempts := 0, nextAttemptAt := now, updatedAt := now }

def Row.enqueued (id : Nat) (eventId : String) (now : Int) : Row where
  id := id
  eventId := eventId
  status := .pending
  attempts := 0
  nextAttemptAt := now
  claimedAt := none
  claimToken := none
  createdAt := now
  updatedAt := now

/-- Where a dispatcher is; the time is the one that was read. -/
inductive Phase
  | idle
  | reading (now : Int)
  | selected (now : Int) (candidate : Row)
  | publishing (id token : Nat)
  | published (id token : Nat) (ok : Bool)
deriving DecidableEq, Repr

structure World where
  clock : Int
  rows : List Row
  nextToken : Nat
  phase : Nat → Phase
  /-- The claims that were returned and not marked since. -/
  held : List (Claim Nat)

/-- A step; the first argument is the dispatcher, where it is one's. -/
inductive Label
  | tick (d : Nat)
  | enqueue (eventId : String)
  | readClock (p : Nat)
  | select (p : Nat) (id : Option Nat)
  | claim (p : Nat)
  | publish (p : Nat) (ok : Bool)
  | mark (p : Nat)
  | markPublished (eventId : String)
  | redrive (id : Nat)
  | crash (p : Nat)
deriving DecidableEq, Repr

def World.goTo (w : World) (p : Nat) (ph : Phase) : World :=
  { w with phase := Function.update w.phase p ph }

/-- The `UPDATE` has found the row. -/
def World.claim (w : World) (p : Nat) (id : Nat) (now : Int) : World :=
  { w with
    rows := modify w.rows id (Row.claim now w.nextToken)
    nextToken := w.nextToken + 1
    held := ⟨id, w.nextToken, now⟩ :: w.held }.goTo p (.publishing id w.nextToken)

/-- The row that `_mark_sent` and `_mark_failed` ask for. -/
def ownClaim (id token : Nat) (r : Row) : Bool :=
  r.id = id ∧ r.claimToken = some token ∧ r.status = .processing

def World.mark (w : World) (id token : Nat) (ok : Bool) : World :=
  { w with
    rows := update w.rows (ownClaim id token)
      (if ok then Row.markSent w.clock else Row.markFailed w.clock)
    held := endClaim w.held id token }

/-- One step; `none` when it is not the dispatcher's turn, or the row is not the first. -/
def step (test : ClaimTest) (w : World) : Label → Option World
  | .tick d => some { w with clock := w.clock + d }
  | .enqueue eventId =>
    if w.rows.any fun r => r.eventId = eventId then some w
    else some { w with rows := insert w.rows (.enqueued (fresh w.rows) eventId w.clock) }
  | .readClock p =>
    match w.phase p with
    | .idle => some (w.goTo p (.reading w.clock))
    | _ => none
  | .select p none =>
    match w.phase p with
    | .reading now => if w.rows.any (Row.due now) then none else some (w.goTo p .idle)
    | _ => none
  | .select p (some id) =>
    match w.phase p, get w.rows id with
    | .reading now, some r =>
      if isCandidate w.rows now r then some (w.goTo p (.selected now r)) else none
    | _, _ => none
  | .claim p =>
    match w.phase p with
    | .selected now candidate =>
      match get w.rows candidate.id with
      | some r =>
        if test r candidate now then some (w.claim p candidate.id now)
        else some (w.goTo p .idle)
      | none => some (w.goTo p .idle)
    | _ => none
  | .publish p ok =>
    match w.phase p with
    | .publishing id token => some (w.goTo p (.published id token ok))
    | _ => none
  | .mark p =>
    match w.phase p with
    | .published id token ok => some ((w.mark id token ok).goTo p .idle)
    | _ => none
  | .markPublished eventId =>
    some { w with
      rows := update w.rows (fun r => r.eventId = eventId ∧ r.status = .pending)
        (Row.markSent w.clock) }
  | .redrive id =>
    some { w with
      rows := update w.rows
        (fun r => r.id = id ∧ r.status = .dead ∧ r.updatedAt ≤ w.clock - redriveDeadAfter)
        (Row.redrive w.clock) }
  | .crash p => some (w.goTo p .idle)

/-- The dispatchers, with the test of their `UPDATE`. -/
def dispatchers (test : ClaimTest) : System World Label := ⟨step test⟩

/-- Nothing was enqueued yet. -/
def World.start (clock : Int) : World where
  clock := clock
  rows := []
  nextToken := 0
  phase := fun _ => .idle
  held := []

/-! ## Property and condition -/

/-- The dispatcher has a claim in its hands. -/
def Phase.claimed : Phase → Bool
  | .publishing _ _ => true
  | _ => false

def ReplacesExpired (w : World) (l : Label) (w' : World) : Prop :=
  ∀ p now candidate r, l = .claim p → w.phase p = .selected now candidate →
    (w'.phase p).claimed = true → get w.rows candidate.id = some r → r.status = .processing →
    ∃ t, r.claimedAt = some t ∧ t ≤ now - claimLease

/-- A step after which no row has two live claims, and that replaces only an expired one. -/
def Exclusive (w : World) (l : Label) (w' : World) : Prop :=
  ReplacesExpired w l w' ∧ OneLive claimLease w'.clock w'.held

/-- What was read before the `UPDATE`. -/
def Phase.selection : Phase → Option (Int × Row)
  | .selected now candidate => some (now, candidate)
  | _ => none

/-- The condition on a step: the `UPDATE` of an expired row finds the claim that was read, or one
of a dispatcher that had read its clock a lease earlier. -/
def NotOvertaken (w : World) : Label → Prop
  | .claim p => ∀ s ∈ (w.phase p).selection, ∀ r ∈ get w.rows s.2.id,
      s.2.status = .processing → r.status = .processing →
      r.claimToken = s.2.claimToken ∨ r.leaseExpired s.1 = true
  | _ => True

instance (w : World) (l : Label) : Decidable (NotOvertaken w l) :=
  match l with
  | .claim p => inferInstanceAs (Decidable (∀ s ∈ (w.phase p).selection,
      ∀ r ∈ get w.rows s.2.id, s.2.status = .processing → r.status = .processing →
      r.claimToken = s.2.claimToken ∨ r.leaseExpired s.1 = true))
  | .tick _ | .enqueue _ | .readClock _ | .select .. | .publish .. | .mark _
  | .markPublished _ | .redrive _ | .crash _ => isTrue trivial
/-! ## What a step does -/

/-- Steps of the system, one by one. -/
inductive Stepped (test : ClaimTest) (w : World) : Label → World → Prop
  | ticked (d : Nat) : Stepped test w (.tick d) { w with clock := w.clock + d }
  | enqueued (eventId : String) : Stepped test w (.enqueue eventId)
      { w with rows := insert w.rows (.enqueued (fresh w.rows) eventId w.clock) }
  | began {p : Nat} (hp : w.phase p = .idle) :
      Stepped test w (.readClock p) (w.goTo p (.reading w.clock))
  | selected {p id : Nat} {now : Int} {r : Row} (hp : w.phase p = .reading now)
      (hr : get w.rows id = some r) (hdue : r.due now = true) :
      Stepped test w (.select p (some id)) (w.goTo p (.selected now r))
  | claimed {p : Nat} {now : Int} {candidate r : Row}
      (hp : w.phase p = .selected now candidate) (hr : get w.rows candidate.id = some r)
      (htest : test r candidate now = true) :
      Stepped test w (.claim p) (w.claim p candidate.id now)
  | marked {p id token : Nat} {ok : Bool} (hp : w.phase p = .published id token ok) :
      Stepped test w (.mark p) ((w.mark id token ok).goTo p .idle)
  /-- Rows that are not `PROCESSING` are rewritten, their claims kept. -/
  | rewritten {l : Label} {q : Row → Bool} {f : Row → Row} (hl : ∀ p, l ≠ .claim p)
      (hq : ∀ r, q r = true → r.status ≠ .processing) (hid : ∀ r, (f r).id = r.id)
      (hclaim : ∀ r, (f r).claimToken = r.claimToken ∧ (f r).claimedAt = r.claimedAt) :
      Stepped test w l { w with rows := update w.rows q f }
  | refused {p : Nat} {now : Int} {candidate : Row}
      (hp : w.phase p = .selected now candidate)
      (hno : ∀ r, get w.rows candidate.id = some r → test r candidate now = false) :
      Stepped test w (.claim p) (w.goTo p .idle)
  /-- A dispatcher goes on, or stops. -/
  | moved {l : Label} {p : Nat} {ph : Phase} (hl : ∀ q, l ≠ .claim q)
      (hph : ph = .idle ∨ ∃ id token ok, ph = .published id token ok) :
      Stepped test w l (w.goTo p ph)
  | stayed {l : Label} (hl : ∀ p, l ≠ .claim p) : Stepped test w l w

theorem stepped_of_step {test : ClaimTest} {w w' : World} {l : Label}
    (hstep : step test w l = some w') : Stepped test w l w' := by
  revert hstep
  fun_cases step test w l <;> rintro ⟨⟩
  · exact .ticked _
  · exact .stayed fun _ hno => nomatch hno
  · exact .enqueued _
  next hp => exact .began hp
  · exact .moved (fun _ hno => nomatch hno) (.inl rfl)
  next hr hp hfirst =>
    unfold isCandidate at hfirst
    rw [Bool.and_eq_true] at hfirst
    exact .selected hp hr hfirst.1
  next hp _ hr htest => exact .claimed hp hr htest
  next hp _ hr htest =>
    apply Stepped.refused hp
    intro r' hr'
    rw [hr] at hr'
    cases hr'
    exact eq_false_of_ne_true htest
  next hp hr =>
    apply Stepped.refused hp
    intro r' hr'
    rw [hr] at hr'
    cases hr'
  · exact .moved (fun _ hno => nomatch hno) (.inr ⟨_, _, _, rfl⟩)
  next hp => exact .marked hp
  · refine .rewritten (fun _ hno => nomatch hno) ?_ (fun _ => rfl) (fun _ => ⟨rfl, rfl⟩)
    intro r hr
    rw [(of_decide_eq_true hr).2]
    exact Status.noConfusion
  · refine .rewritten (fun _ hno => nomatch hno) ?_ (fun _ => rfl) (fun _ => ⟨rfl, rfl⟩)
    intro r hr
    rw [(of_decide_eq_true hr).2.1]
    exact Status.noConfusion
  · exact .moved (fun _ hno => nomatch hno) (.inl rfl)

/-! ## The claims of a row -/

def Row.claimOf (r : Row) : Option Nat × Option Int := (r.claimToken, r.claimedAt)

/-- The same, by the row's id. -/
def claimColumns (rows : List Row) (id : Nat) : Option (Option Nat × Option Int) :=
  (get rows id).map Row.claimOf

/-- The row is `PROCESSING` under this claim. -/
def Has (rows : List Row) (c : Claim Nat) : Prop :=
  ∃ r, get rows c.key = some r ∧ r.status = .processing ∧ r.claimToken = some c.token ∧
    r.claimedAt = some c.since

/-- What a dispatcher knows of the candidate it has read. -/
structure Seen (w : World) (now : Int) (candidate : Row) : Prop where
  now_le : now ≤ w.clock
  due : candidate.due now = true
  token_lt : ∀ t, candidate.claimToken = some t → t < w.nextToken
  found : claimColumns w.rows candidate.id ≠ none
  since : ∀ a, claimColumns w.rows candidate.id = some (candidate.claimToken, a) →
    a = candidate.claimedAt

/-- The record of the claims is what the rows have, and the tokens are new ones each. -/
structure Sound (w : World) : Prop where
  recorded : Recorded claimLease w.clock w.nextToken (Has w.rows) w.held
  token_lt : ∀ id t a, claimColumns w.rows id = some (some t, a) → t < w.nextToken
  reading : ∀ p now, w.phase p = .reading now → now ≤ w.clock
  seen : ∀ p now r, w.phase p = .selected now r → Seen w now r

theorem sound_start (clock : Int) : Sound (.start clock) where
  recorded := Recorded.nil
  token_lt := by
    intro id t a hcolumns
    cases hcolumns
  reading := by
    intro p now hp
    cases hp
  seen := by
    intro p now r hp
    cases hp

variable {w w' : World} {test : ClaimTest}

theorem Has.token_eq {rows : List Row} {c d : Claim Nat} (hc : Has rows c) (hd : Has rows d)
    (hkey : c.key = d.key) : c.token = d.token := by
  obtain ⟨r, hr, _, htoken, _⟩ := hc
  obtain ⟨r', hr', _, htoken', _⟩ := hd
  rw [hkey, hr'] at hr
  cases hr
  rw [htoken] at htoken'
  exact Option.some.inj htoken'

theorem Sound.oneLive (h : Sound w) : OneLive claimLease w.clock w.held :=
  h.recorded.oneLive fun _ _ => Has.token_eq

theorem Has.of_not_picked {rows : List Row} {c : Claim Nat} {q : Row → Bool} {f : Row → Row}
    (hid : ∀ r, (f r).id = r.id) (hc : Has rows c)
    (hq : ∀ r, r.id = c.key → r.claimToken = some c.token → r.status = .processing → q r = false) :
    Has (update rows q f) c := by
  obtain ⟨r, hr, hstatus, htoken, hsince⟩ := hc
  refine ⟨r, ?_, hstatus, htoken, hsince⟩
  rw [get_update rows q f hid, hr, Option.map_some, hq r (key_of_get hr) htoken hstatus]
  rfl

theorem claimColumns_update {rows : List Row} {q : Row → Bool} {f : Row → Row}
    (hid : ∀ r, (f r).id = r.id)
    (hclaim : ∀ r, (f r).claimToken = r.claimToken ∧ (f r).claimedAt = r.claimedAt) (id : Nat) :
    claimColumns (update rows q f) id = claimColumns rows id :=
  map_get_update_of_eq rows q f hid Row.claimOf
    (fun r => Prod.ext (hclaim r).1 (hclaim r).2) id

theorem claimColumns_insert {rows : List Row} {r : Row} (hid : r.id = fresh rows) {id : Nat}
    (hfound : claimColumns rows id ≠ none) :
    claimColumns (insert rows r) id = claimColumns rows id := by
  unfold claimColumns at hfound ⊢
  cases hrow : get rows id with
  | none =>
    rw [hrow] at hfound
    exact absurd rfl hfound
  | some r' => rw [get_insert_of_get hid hrow]

theorem claimColumns_claim (rows : List Row) (id : Nat) (now : Int) (token k : Nat) :
    claimColumns (modify rows id (Row.claim now token)) k =
      if k = id then (get rows k).map fun _ => (some token, some now)
      else claimColumns rows k :=
  map_get_modify rows id (Row.claim now token) (fun _ => rfl) Row.claimOf k

/-! ## What a step leaves of the claims -/

section

variable (h : Sound w)
include h

/-- Time goes on. -/
theorem Sound.later (d : Nat) : Sound { w with clock := w.clock + d } where
  recorded := by
    apply h.recorded.later
    show w.clock ≤ w.clock + d
    omega
  token_lt := h.token_lt
  reading := by
    intro p now hp
    have hle := h.reading p now hp
    show now ≤ w.clock + d
    omega
  seen := by
    intro p now r hp
    have hseen := h.seen p now r hp
    have hle := hseen.now_le
    refine ⟨?_, hseen.due, hseen.token_lt, hseen.found, hseen.since⟩
    show now ≤ w.clock + d
    omega

/-- A dispatcher goes on. -/
theorem Sound.goTo (p : Nat) {ph : Phase} (hreading : ∀ now, ph = .reading now → now ≤ w.clock)
    (hselected : ∀ now r, ph = .selected now r → Seen w now r) : Sound (w.goTo p ph) where
  recorded := h.recorded
  token_lt := h.token_lt
  reading := by
    intro q now hq
    have hphase : Function.update w.phase p ph q = .reading now := hq
    rw [Function.update_apply] at hphase
    split_ifs at hphase
    · exact hreading now hphase
    · exact h.reading q now hphase
  seen := by
    intro q now r hq
    have hphase : Function.update w.phase p ph q = .selected now r := hq
    rw [Function.update_apply] at hphase
    have hseen : Seen w now r := by
      split_ifs at hphase
      · exact hselected now r hphase
      · exact h.seen q now r hphase
    exact ⟨hseen.now_le, hseen.due, hseen.token_lt, hseen.found, hseen.since⟩

theorem Sound.rows {rows : List Row} {held : List (Claim Nat)}
    (hrecorded : Recorded claimLease w.clock w.nextToken (Has rows) held)
    (hcolumns : ∀ id, claimColumns rows id = claimColumns w.rows id) :
    Sound { w with rows := rows, held := held } where
  recorded := hrecorded
  token_lt := by
    intro id t a hclaim
    rw [hcolumns] at hclaim
    exact h.token_lt id t a hclaim
  reading := h.reading
  seen := by
    intro p now r hp
    have hseen := h.seen p now r hp
    refine ⟨hseen.now_le, hseen.due, hseen.token_lt, ?_, ?_⟩
    · show claimColumns rows r.id ≠ none
      rw [hcolumns]
      exact hseen.found
    · intro a hclaim
      apply hseen.since a
      rw [← hcolumns]
      exact hclaim

theorem Sound.enqueue {r : Row} (hid : r.id = fresh w.rows)
    (hclaim : r.claimOf = (none, none)) : Sound { w with rows := insert w.rows r } where
  recorded := by
    apply h.recorded.mono
    intro c _ _ hc
    obtain ⟨r', hr', hrest⟩ := hc
    exact ⟨r', get_insert_of_get hid hr', hrest⟩
  token_lt := by
    intro id t a hcolumns
    unfold claimColumns at hcolumns
    rw [get_insert_fresh hid] at hcolumns
    split_ifs at hcolumns
    · rw [Option.map_some, hclaim] at hcolumns
      cases hcolumns
    · exact h.token_lt id t a hcolumns
  reading := h.reading
  seen := by
    intro p now r' hp
    have hseen := h.seen p now r' hp
    have hsame := claimColumns_insert hid hseen.found
    refine ⟨hseen.now_le, hseen.due, hseen.token_lt, ?_, ?_⟩
    · show claimColumns (insert w.rows r) r'.id ≠ none
      rw [hsame]
      exact hseen.found
    · intro a hcolumns
      apply hseen.since a
      rw [← hsame]
      exact hcolumns

theorem Sound.claim (p : Nat) {now : Int} {candidate r : Row}
    (hr : get w.rows candidate.id = some r) (hnow : now ≤ w.clock)
    (hover : r.status = .processing → ∃ t, r.claimedAt = some t ∧ t ≤ now - claimLease) :
    Sound (w.claim p candidate.id now) := by
  have hrow : get (modify w.rows candidate.id (Row.claim now w.nextToken)) candidate.id =
      some (r.claim now w.nextToken) := by
    rw [get_modify w.rows candidate.id (Row.claim now w.nextToken) (fun _ => rfl), if_pos rfl,
      hr]
    rfl
  have hclaimed : Sound { w with
      rows := modify w.rows candidate.id (Row.claim now w.nextToken)
      nextToken := w.nextToken + 1
      held := ⟨candidate.id, w.nextToken, now⟩ :: w.held } := by
    refine ⟨?_, ?_, h.reading, ?_⟩
    · apply h.recorded.claim candidate.id now
      · -- what the row had is over, by the clock that was read
        intro c hc hkey hlive
        obtain ⟨r', hr', hstatus, _, hsince⟩ := h.recorded.backed c hc hlive
        rw [hkey, hr] at hr'
        cases hr'
        obtain ⟨t, ht, hexpired⟩ := hover hstatus
        rw [ht] at hsince
        cases hsince
        unfold Claim.Live at hlive
        omega
      · exact ⟨_, hrow, rfl, rfl, rfl⟩
      · intro c _ hkey hc
        obtain ⟨r', hr', hrest⟩ := hc
        refine ⟨r', ?_, hrest⟩
        show get (modify w.rows candidate.id (Row.claim now w.nextToken)) c.key = some r'
        rw [get_modify w.rows candidate.id (Row.claim now w.nextToken) (fun _ => rfl),
          if_neg hkey]
        exact hr'
    · intro id t a hcolumns
      show t < w.nextToken + 1
      rw [claimColumns_claim] at hcolumns
      split_ifs at hcolumns with hid
      · rw [hid, hr] at hcolumns
        cases hcolumns
        exact Nat.lt_succ_self _
      · have hlt := h.token_lt id t a hcolumns
        omega
    · intro q now' candidate' hq
      have hseen := h.seen q now' candidate' hq
      refine ⟨hseen.now_le, hseen.due, ?_, ?_, ?_⟩
      · intro t ht
        have hlt := hseen.token_lt t ht
        show t < w.nextToken + 1
        omega
      · show claimColumns (modify w.rows candidate.id _) candidate'.id ≠ none
        rw [claimColumns_claim]
        split_ifs with hid
        · rw [hid, hr]
          exact Option.some_ne_none _
        · exact hseen.found
      · -- the new token is not the one that was read
        intro a hcolumns
        have hcolumns' : claimColumns (modify w.rows candidate.id
            (Row.claim now w.nextToken)) candidate'.id =
              some (candidate'.claimToken, a) := hcolumns
        rw [claimColumns_claim] at hcolumns'
        split_ifs at hcolumns' with hid
        · rw [hid, hr, Option.map_some, Option.some.injEq, Prod.mk.injEq] at hcolumns'
          have hlt := hseen.token_lt w.nextToken hcolumns'.1.symm
          omega
        · exact hseen.since a hcolumns'
  exact hclaimed.goTo p (fun _ hno => nomatch hno) (fun _ _ hno => nomatch hno)

theorem Sound.mark (id token : Nat) (ok : Bool) : Sound (w.mark id token ok) := by
  have hmarked : ∀ f : Row → Row, (∀ r, (f r).id = r.id) →
      (∀ r, (f r).claimToken = r.claimToken ∧ (f r).claimedAt = r.claimedAt) →
      Sound { w with
        rows := update w.rows (ownClaim id token) f
        held := endClaim w.held id token } := by
    intro f hid hclaim
    apply h.rows
    · apply h.recorded.end_
      intro c _ hother hc
      apply hc.of_not_picked hid
      intro r hkey htoken _
      apply decide_eq_false
      intro hpicked
      have htokens := hpicked.2.1
      rw [htoken] at htokens
      exact hother ⟨hkey.symm.trans hpicked.1, Option.some.inj htokens⟩
    · exact claimColumns_update hid hclaim
  cases ok with
  | false => exact hmarked (Row.markFailed w.clock) (fun _ => rfl) fun _ => ⟨rfl, rfl⟩
  | true => exact hmarked (Row.markSent w.clock) (fun _ => rfl) fun _ => ⟨rfl, rfl⟩

end

theorem ReplacesExpired.of_claimed {p : Nat} {now : Int} {candidate r : Row}
    (h : ReplacesExpired w (.claim p) (w.claim p candidate.id now))
    (hp : w.phase p = .selected now candidate) (hr : get w.rows candidate.id = some r)
    (hstatus : r.status = .processing) : ∃ t, r.claimedAt = some t ∧ t ≤ now - claimLease := by
  apply h p now candidate r rfl hp _ hr hstatus
  show (Function.update w.phase p (.publishing candidate.id w.nextToken) p).claimed = true
  rw [Function.update_self]
  rfl

/-- A candidate that was just read. -/
theorem Sound.seen_of_get (h : Sound w) {now : Int} {id : Nat} {r : Row} (hnow : now ≤ w.clock)
    (hr : get w.rows id = some r) (hdue : r.due now = true) : Seen w now r := by
  have hkey : r.id = id := key_of_get hr
  have hcolumns : claimColumns w.rows r.id = some (r.claimToken, r.claimedAt) := by
    unfold claimColumns
    rw [hkey, hr]
    rfl
  refine ⟨hnow, hdue, ?_, ?_, ?_⟩
  · intro t ht
    rw [ht] at hcolumns
    exact h.token_lt r.id t r.claimedAt hcolumns
  · rw [hcolumns]
    exact Option.some_ne_none _
  · intro a ha
    rw [hcolumns] at ha
    cases ha
    rfl

/-- **Step lemma.**  A step that replaces no live claim keeps the record of the claims. -/
theorem sound_step {l : Label} (h : Sound w) (hstep : Stepped test w l w')
    (hreplaces : ReplacesExpired w l w') : Sound w' := by
  cases hstep with
  | ticked d => exact h.later d
  | enqueued eventId => exact h.enqueue rfl rfl
  | began hp =>
    apply h.goTo
    · intro now hnow
      cases hnow
      exact Int.le_refl _
    · intro now r hno
      cases hno
  | @selected p id now r hp hr hdue =>
    apply h.goTo
    · intro now hno
      cases hno
    · intro now r hsel
      cases hsel
      exact h.seen_of_get (h.reading p now hp) hr hdue
  | claimed hp hr htest =>
    apply h.claim _ hr (h.seen _ _ _ hp).now_le
    exact hreplaces.of_claimed hp hr
  | marked hp =>
    exact (h.mark _ _ _).goTo _ (fun _ hno => nomatch hno) fun _ _ hno => nomatch hno
  | rewritten hl hq hid hclaim =>
    apply h.rows _ (claimColumns_update hid hclaim)
    apply h.recorded.mono
    intro c _ _ hc
    apply hc.of_not_picked hid
    intro r _ _ hstatus
    apply eq_false_of_ne_true
    intro hpicked
    exact hq r hpicked hstatus
  | refused hp hno =>
    exact h.goTo _ (fun _ hno => nomatch hno) fun _ _ hno => nomatch hno
  | moved hl hph =>
    apply h.goTo
    · intro now hno
      rcases hph with hidle | ⟨_, _, _, hpub⟩
      · rw [hidle] at hno
        cases hno
      · rw [hpub] at hno
        cases hno
    · intro now r hno
      rcases hph with hidle | ⟨_, _, _, hpub⟩
      · rw [hidle] at hno
        cases hno
      · rw [hpub] at hno
        cases hno
  | stayed hl => exact h

/-! ## Which claims are exclusive -/

theorem Seen.leaseExpired {now : Int} {candidate : Row} (h : Seen w now candidate)
    (hstatus : candidate.status = .processing) : candidate.leaseExpired now = true := by
  rcases of_decide_eq_true h.due with ⟨hpending, _⟩ | ⟨_, hexpired⟩
  · rw [hstatus] at hpending
    cases hpending
  · exact hexpired

theorem Row.leaseExpired_iff (now : Int) (r : Row) :
    r.leaseExpired now = true ↔ ∃ t, r.claimedAt = some t ∧ t ≤ now - claimLease := by
  unfold Row.leaseExpired
  rw [Option.any_eq_true]
  simp only [decide_eq_true_eq]

theorem Stepped.claim_cases {p : Nat} (h : Stepped test w (.claim p) w') :
    ∃ now candidate, w.phase p = .selected now candidate ∧
      ((∃ r, get w.rows candidate.id = some r ∧ test r candidate now = true ∧
        w' = w.claim p candidate.id now) ∨
      ((∀ r, get w.rows candidate.id = some r → test r candidate now = false) ∧
        w' = w.goTo p .idle)) := by
  cases h with
  | claimed hp hr htest => exact ⟨_, _, hp, .inl ⟨_, hr, htest, rfl⟩⟩
  | refused hp hno => exact ⟨_, _, hp, .inr ⟨hno, rfl⟩⟩
  | rewritten hl => exact absurd rfl (hl p)
  | moved hl => exact absurd rfl (hl p)
  | stayed hl => exact absurd rfl (hl p)

theorem Stepped.replacesExpired {l : Label} (hstep : Stepped test w l w')
    (hover : ∀ p now candidate r, l = .claim p → w.phase p = .selected now candidate →
      get w.rows candidate.id = some r → test r candidate now = true →
      r.status = .processing → r.leaseExpired now = true) : ReplacesExpired w l w' := by
  intro p now candidate r hl hp hclaimed hr hstatus
  rw [hl] at hstep
  obtain ⟨now', candidate', hp', hclaim | hrefuse⟩ := hstep.claim_cases
  · obtain ⟨r', hr', htest, _⟩ := hclaim
    rw [hp] at hp'
    cases hp'
    rw [hr] at hr'
    cases hr'
    exact (r.leaseExpired_iff now).mp (hover p now candidate r hl hp hr htest hstatus)
  · rw [hrefuse.2] at hclaimed
    have hidle : (Function.update w.phase p Phase.idle p).claimed = true := hclaimed
    rw [Function.update_self] at hidle
    cases hidle

theorem replacesExpired_iff {l : Label} (h : Sound w) (hstep : Stepped sameStatus w l w') :
    ReplacesExpired w l w' ↔ NotOvertaken w l := by
  constructor
  · intro hreplaces
    cases l with
    | claim p =>
      intro s hs r hr hread hstatus
      obtain ⟨now, candidate, hp, hclaim | hrefuse⟩ := hstep.claim_cases
      · obtain ⟨r', hr', _, hw'⟩ := hclaim
        rw [hp] at hs
        cases hs
        rw [hr'] at hr
        cases hr
        right
        rw [hw'] at hreplaces
        exact (r.leaseExpired_iff now).mpr (hreplaces.of_claimed hp hr' hstatus)
      · rw [hp] at hs
        cases hs
        have hrefused := of_decide_eq_false (hrefuse.1 r hr)
        exact absurd (hstatus.trans hread.symm) hrefused
    | _ => trivial
  · intro hkept
    apply hstep.replacesExpired
    intro p now candidate r hl hp hr htest hstatus
    rw [hl] at hkept
    have hseen := h.seen p now candidate hp
    have hsame : r.status = candidate.status := of_decide_eq_true htest
    have hread : candidate.status = .processing := hsame.symm.trans hstatus
    rcases hkept (now, candidate) (by rw [hp]; rfl) r hr hread hstatus with htoken | hover
    · have hcolumns : claimColumns w.rows candidate.id =
          some (candidate.claimToken, r.claimedAt) := by
        unfold claimColumns
        rw [hr, ← htoken]
        rfl
      have hexpired := hseen.leaseExpired hread
      unfold Row.leaseExpired at hexpired ⊢
      rwa [hseen.since _ hcolumns]
    · exact hover

/-- **Run theorem.**  Claims are exclusive throughout a run exactly when no `UPDATE` of the run
finds a row that was claimed since the dispatcher read it, other than by one that had read its
clock a lease earlier. -/
theorem exclusive_iff (clock : Int) (ls : List Label) (w : World)
    (hrun : (dispatchers sameStatus).run (.start clock) ls = some w) :
    (dispatchers sameStatus).Always Exclusive (.start clock) ls ↔
      (dispatchers sameStatus).Meets NotOvertaken (.start clock) ls := by
  apply System.always_iff_meets_of (dispatchers sameStatus) Exclusive NotOvertaken Sound _ ls
    (.start clock) w (sound_start clock) hrun
  intro w l w' h hstep
  have hstepped := stepped_of_step hstep
  have hiff := replacesExpired_iff h hstepped
  constructor
  · constructor
    · intro hexclusive
      exact hiff.mp hexclusive.1
    · intro hkept
      have hreplaces := hiff.mpr hkept
      exact ⟨hreplaces, (sound_step h hstepped hreplaces).oneLive⟩
  · intro hkept
    exact sound_step h hstepped (hiff.mpr hkept)

/-- A row that is claimed, whose dispatcher dies, and that another one claims after the lease. -/
def takenOver : List Label :=
  [.enqueue "incident:i1:diagnose", .readClock 0, .select 0 (some 1), .claim 0, .crash 0,
    .tick 300000000, .readClock 1, .select 1 (some 1), .claim 1]

theorem exclusive_iff_takenOver :
    (dispatchers sameStatus).Always Exclusive (.start 0) takenOver :=
  (exclusive_iff 0 takenOver _ rfl).mpr (by decide)

/-- Two dispatchers read the expired row; the second `UPDATE` finds it `PROCESSING` again. -/
theorem claimed_twice :
    ∃ w, (dispatchers sameStatus).run (.start 0)
        [.enqueue "incident:i1:diagnose", .readClock 0, .select 0 (some 1), .claim 0, .crash 0,
          .tick 300000000, .readClock 1, .select 1 (some 1), .readClock 2,
          .select 2 (some 1), .claim 1, .claim 2] = some w ∧
      ¬OneLive claimLease w.clock w.held :=
  ⟨_, rfl, by decide⟩

/-- **Run theorem.**  With the test of the Telegram outbox claims are exclusive in every run. -/
theorem rechecked_exclusive (clock : Int) (ls : List Label) :
    (dispatchers sameStatusOrExpired).Always Exclusive (.start clock) ls := by
  apply System.always_of_invariant (dispatchers sameStatusOrExpired) Exclusive Sound _ ls
    (.start clock) (sound_start clock)
  intro w l w' h hstep
  have hstepped := stepped_of_step hstep
  have hreplaces : ReplacesExpired w l w' := by
    apply hstepped.replacesExpired
    intro p now candidate r _ _ _ htest hstatus
    obtain ⟨hsame, hother | hover⟩ := of_decide_eq_true htest
    · exact absurd (hsame.symm.trans hstatus) hother
    · exact hover
  have hsound := sound_step h hstepped hreplaces
  exact ⟨⟨hreplaces, hsound.oneLive⟩, hsound⟩

end CephAi.Ports.IncidentOutbox
