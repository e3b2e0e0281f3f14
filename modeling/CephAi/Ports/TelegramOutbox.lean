import CephAi.Verified.Runs
import CephAi.Verified.Table
import Mathlib

/-!
# The attempts of the Telegram outbox

`_claim_one`, `_mark_sent`, `_mark_failed`, `dispatch_due` and `replay_dead` of
`shared/telegram_outbox.py`, any number of dispatchers, with `_enqueue`.

A claim counts an attempt.  The limit and the backoff are applied where a delivery is marked as
failed, and nowhere else: a claim whose dispatcher is gone is claimed again when its lease is over,
whatever its attempts, and the `UPDATE` of a dispatcher that read a pending row compares the status
only, so it claims a row that was claimed, failed and put back in between.

## Main results

* `stepped_of_step` — what each step does.
* `limited_step` — one step, from the invariant of rows and dispatchers.
* `limited_iff` — attempts and backoff are kept exactly in the runs without such claims.
-/

namespace CephAi.Ports.TelegramOutbox

open Verified.Runs Verified.Table

/-! ## The rows and the dispatchers -/

/-- `timedelta(seconds=n)`; times are in microseconds. -/
def seconds (n : Int) : Int := n * 1000000

def claimLease : Int := seconds 300

def maxAttempts : Nat := 8

/-- `TelegramOutboxStatus` -/
inductive Status
  | pending
  | processing
  | sent
  | dead
deriving DecidableEq, Repr

/-- A row of `TelegramOutbox`; a token is known by when it was made.  The last three fields are not
columns: the claims since the last replay, the deliveries that were marked as failed, and whether
the last of these put the row back to PENDING. -/
structure Row where
  id : Nat
  eventId : String
  status : Status
  attempts : Nat
  nextAttemptAt : Int
  claimedAt : Option Int
  claimToken : Option Nat
  createdAt : Int
  claims : Nat
  failures : Nat
  putBack : Bool
deriving DecidableEq, Repr

instance : Keyed Row := ⟨Row.id⟩

def Row.leaseExpired (now : Int) (r : Row) : Bool :=
  r.claimedAt.any fun t => t ≤ now - claimLease

/-- The filter `due` of `_claim_one`. -/
def Row.due (now : Int) (r : Row) : Bool :=
  (r.status = .pending ∧ r.nextAttemptAt ≤ now) ∨
    (r.status = .processing ∧ r.leaseExpired now = true)

/-- The order by `next_attempt_at`, then `created_at`. -/
def Row.before (a b : Row) : Bool :=
  a.nextAttemptAt < b.nextAttemptAt ∨
    (a.nextAttemptAt = b.nextAttemptAt ∧ a.createdAt < b.createdAt)

/-- `event_id.in_(event_ids)`, when there are event ids. -/
def Row.requested (events : Option (List String)) (r : Row) : Bool :=
  match events with
  | none => true
  | some ids => ids.contains r.eventId

/-- A row that `first` may return: it is due and asked for, and nothing that is comes before. -/
def isCandidate (rows : List Row) (events : Option (List String)) (now : Int) (r : Row) : Bool :=
  r.due now && r.requested events &&
    rows.all fun s => !(s.due now && s.requested events && s.before r)

/-- The filter of the `UPDATE` of `_claim_one`. -/
def claims (now : Int) (candidate r : Row) : Bool :=
  r.status = candidate.status ∧
    (candidate.status ≠ .processing ∨ r.leaseExpired now = true)

/-- The `UPDATE` of `_claim_one`. -/
def Row.claim (now : Int) (token : Nat) (r : Row) : Row :=
  { r with
    status := .processing
    claimedAt := some now
    claimToken := some token
    attempts := r.attempts + 1
    claims := r.claims + 1 }

def Row.markSent (r : Row) : Row := { r with status := .sent }

def Row.markFailed (now : Int) (r : Row) : Row :=
  { r with
    status := if maxAttempts ≤ r.attempts then .dead else .pending
    nextAttemptAt := now + seconds (min 3600 (5 * 2 ^ (r.attempts - 1)))
    failures := r.failures + 1
    putBack := true }

def Row.replay (now : Int) (r : Row) : Row :=
  { r with
    status := .pending
    attempts := 0
    nextAttemptAt := now
    claimedAt := none
    claimToken := none
    claims := 0
    putBack := false }

def Row.enqueued (id : Nat) (eventId : String) (now : Int) : Row where
  id := id
  eventId := eventId
  status := .pending
  attempts := 0
  nextAttemptAt := now
  claimedAt := none
  claimToken := none
  createdAt := now
  claims := 0
  failures := 0
  putBack := false

/-- Where a dispatcher is; the time is the one that was read. -/
inductive Phase
  | idle
  | reading (now : Int)
  | selected (now : Int) (candidate : Row)
  | delivering (id token : Nat)
  | delivered (id token : Nat) (ok : Bool)
deriving DecidableEq, Repr

structure World where
  clock : Int
  rows : List Row
  nextToken : Nat
  phase : Nat → Phase

/-- A step; the first argument is the dispatcher, where it is one's. -/
inductive Label
  | tick (d : Nat)
  | enqueue (eventId : String)
  | readClock (p : Nat)
  | select (p : Nat) (events : Option (List String)) (id : Option Nat)
  | claim (p : Nat)
  | deliver (p : Nat) (ok : Bool)
  | mark (p : Nat)
  | replay (ids : List Nat)
  | crash (p : Nat)
deriving DecidableEq, Repr

def World.goTo (w : World) (p : Nat) (ph : Phase) : World :=
  { w with phase := Function.update w.phase p ph }

/-- The `UPDATE` has found the row. -/
def World.claim (w : World) (p : Nat) (id : Nat) (now : Int) : World :=
  { w with
    rows := modify w.rows id (Row.claim now w.nextToken)
    nextToken := w.nextToken + 1 }.goTo p (.delivering id w.nextToken)

/-- The row that `_mark_sent` and `_mark_failed` ask for. -/
def ownClaim (id token : Nat) (r : Row) : Bool :=
  r.id = id ∧ r.claimToken = some token ∧ r.status = .processing

def World.mark (w : World) (id token : Nat) (ok : Bool) : World :=
  { w with
    rows := update w.rows (ownClaim id token)
      (if ok then Row.markSent else Row.markFailed w.clock) }

/-- `replay_dead`, which takes up to a limit of the DEAD rows asked for: those of `ids`. -/
def World.replay (w : World) (ids : List Nat) : World :=
  { w with
    rows := update w.rows (fun r => ids.contains r.id && r.status == .dead)
      (Row.replay w.clock) }

/-- One step; `none` when it is not the dispatcher's turn, or the row is not the first. -/
def step (w : World) : Label → Option World
  | .tick d => some { w with clock := w.clock + d }
  | .enqueue eventId =>
    if w.rows.any fun r => r.eventId = eventId then some w
    else some { w with rows := insert w.rows (.enqueued (fresh w.rows) eventId w.clock) }
  | .readClock p =>
    match w.phase p with
    | .idle => some (w.goTo p (.reading w.clock))
    | _ => none
  | .select p events none =>
    match w.phase p with
    | .reading now =>
      if w.rows.any fun r => r.due now && r.requested events then none
      else some (w.goTo p .idle)
    | _ => none
  | .select p events (some id) =>
    match w.phase p, get w.rows id with
    | .reading now, some r =>
      if isCandidate w.rows events now r then some (w.goTo p (.selected now r)) else none
    | _, _ => none
  | .claim p =>
    match w.phase p with
    | .selected now candidate =>
      match get w.rows candidate.id with
      | some r =>
        if claims now candidate r then some (w.claim p candidate.id now)
        else some (w.goTo p .idle)
      | none => some (w.goTo p .idle)
    | _ => none
  | .deliver p ok =>
    match w.phase p with
    | .delivering id token => some (w.goTo p (.delivered id token ok))
    | _ => none
  | .mark p =>
    match w.phase p with
    | .delivered id token ok => some ((w.mark id token ok).goTo p .idle)
    | _ => none
  | .replay ids => some (w.replay ids)
  | .crash p => some (w.goTo p .idle)

def dispatchers : System World Label := ⟨step⟩

/-- Nothing was enqueued yet. -/
def World.start (clock : Int) : World where
  clock := clock
  rows := []
  nextToken := 0
  phase := fun _ => .idle

/-! ## Property and condition -/

/-- What was read before the `UPDATE`. -/
def Phase.selection : Phase → Option (Int × Row)
  | .selected now candidate => some (now, candidate)
  | _ => none

/-- The row that the `UPDATE` of a claim finds, with what the dispatcher read. -/
def Finds (w : World) (l : Label) (now : Int) (candidate r : Row) : Prop :=
  ∃ p, l = .claim p ∧ w.phase p = .selected now candidate ∧
    get w.rows candidate.id = some r ∧ claims now candidate r = true

/-- A claim is within the attempts since the last replay, and does not come before the next
attempt of a row that a failed delivery has put back. -/
def ClaimsInTime (w : World) (l : Label) : Prop :=
  ∀ now candidate r, Finds w l now candidate r →
    r.claims < maxAttempts ∧
      (r.status = .pending → r.putBack = true → r.nextAttemptAt ≤ w.clock)

/-- A row that is claimed for the last time changes to SENT or DEAD only. -/
def LastEnds (w w' : World) : Prop :=
  ∀ id r r', get w.rows id = some r → get w'.rows id = some r' →
    r.claims = maxAttempts → r.status = .processing → r' ≠ r →
      r'.status = .sent ∨ r'.status = .dead

def Limited (w : World) (l : Label) (w' : World) : Prop :=
  ClaimsInTime w l ∧ LastEnds w w'

/-- The condition on a step: a claim whose lease is over is claimed again with an attempt left, and
a pending row is claimed without a failed delivery since it was read, or when its backoff is
over. -/
def InOrder (w : World) : Label → Prop
  | .claim p => ∀ s ∈ (w.phase p).selection, ∀ r ∈ get w.rows s.2.id,
      claims s.1 s.2 r = true →
      (r.status = .processing → r.attempts < maxAttempts) ∧
      (r.status = .pending → r.failures = s.2.failures ∨ r.nextAttemptAt ≤ w.clock)
  | _ => True

instance (w : World) (l : Label) : Decidable (InOrder w l) :=
  match l with
  | .claim p => inferInstanceAs (Decidable (∀ s ∈ (w.phase p).selection,
      ∀ r ∈ get w.rows s.2.id, claims s.1 s.2 r = true →
      (r.status = .processing → r.attempts < maxAttempts) ∧
      (r.status = .pending → r.failures = s.2.failures ∨ r.nextAttemptAt ≤ w.clock)))
  | .tick _ | .enqueue _ | .readClock _ | .select .. | .deliver .. | .mark _ | .replay _
  | .crash _ => isTrue trivial

/-! ## What a step does -/

/-- Steps of the system, one by one. -/
inductive Stepped (w : World) : Label → World → Prop
  | ticked (d : Nat) : Stepped w (.tick d) { w with clock := w.clock + d }
  | enqueued (eventId : String) : Stepped w (.enqueue eventId)
      { w with rows := insert w.rows (.enqueued (fresh w.rows) eventId w.clock) }
  | began {p : Nat} (hp : w.phase p = .idle) :
      Stepped w (.readClock p) (w.goTo p (.reading w.clock))
  | selected {p id : Nat} {events : Option (List String)} {now : Int} {r : Row}
      (hp : w.phase p = .reading now) (hr : get w.rows id = some r)
      (hdue : r.due now = true) :
      Stepped w (.select p events (some id)) (w.goTo p (.selected now r))
  | claimed {p : Nat} {now : Int} {candidate r : Row}
      (hp : w.phase p = .selected now candidate) (hr : get w.rows candidate.id = some r)
      (hclaims : claims now candidate r = true) :
      Stepped w (.claim p) (w.claim p candidate.id now)
  | marked {p id token : Nat} {ok : Bool} (hp : w.phase p = .delivered id token ok) :
      Stepped w (.mark p) ((w.mark id token ok).goTo p .idle)
  | replayed (ids : List Nat) : Stepped w (.replay ids) (w.replay ids)
  | refused {p : Nat} {now : Int} {candidate : Row}
      (hp : w.phase p = .selected now candidate)
      (hno : ∀ r, get w.rows candidate.id = some r → claims now candidate r = false) :
      Stepped w (.claim p) (w.goTo p .idle)
  /-- A dispatcher goes on, or stops. -/
  | moved {l : Label} {p : Nat} {ph : Phase} (hl : ∀ q, l ≠ .claim q)
      (hph : ph = .idle ∨ ∃ id token ok, ph = .delivered id token ok) :
      Stepped w l (w.goTo p ph)
  | stayed {l : Label} (hl : ∀ p, l ≠ .claim p) : Stepped w l w

variable {l : Label} {now : Int} {p : Nat} {r : Row} {w w' : World}

theorem stepped_of_step (hstep : step w l = some w') : Stepped w l w' := by
  revert hstep
  fun_cases step w l <;> rintro ⟨⟩
  · exact .ticked _
  · exact .stayed fun _ hno => nomatch hno
  · exact .enqueued _
  next hp => exact .began hp
  · exact .moved (fun _ hno => nomatch hno) (.inl rfl)
  next hr hp hfirst =>
    unfold isCandidate at hfirst
    rw [Bool.and_eq_true, Bool.and_eq_true] at hfirst
    exact .selected hp hr hfirst.1.1
  next hp _ hr hclaims => exact .claimed hp hr hclaims
  next hp _ hr hclaims =>
    apply Stepped.refused hp
    intro r' hr'
    rw [hr] at hr'
    cases hr'
    exact eq_false_of_ne_true hclaims
  next hp hr =>
    apply Stepped.refused hp
    intro r' hr'
    rw [hr] at hr'
    cases hr'
  · exact .moved (fun _ hno => nomatch hno) (.inr ⟨_, _, _, rfl⟩)
  next hp => exact .marked hp
  · exact .replayed _
  · exact .moved (fun _ hno => nomatch hno) (.inl rfl)

/-! ## Rows -/

/-- What holds of a row: its attempts are its claims, a pending row has one left, and one that no
failed delivery put back can be claimed at once. -/
structure RowOk (clock : Int) (r : Row) : Prop where
  claims : r.attempts = r.claims
  pending : r.status = .pending → r.attempts < maxAttempts
  fresh : r.status = .pending → r.putBack = false → r.nextAttemptAt ≤ clock

theorem RowOk.later {clock clock' : Int} (h : RowOk clock r) (hle : clock ≤ clock') :
    RowOk clock' r := by
  refine ⟨h.claims, h.pending, fun hpending hfresh => ?_⟩
  have hnext := h.fresh hpending hfresh
  omega

theorem RowOk.enqueued (id : Nat) (eventId : String) (clock : Int) :
    RowOk clock (.enqueued id eventId clock) where
  claims := rfl
  pending := fun _ => by
    show 0 < maxAttempts
    decide
  fresh := fun _ _ => Int.le_refl clock

/-- What a rewrite keeps of a row: it stays as it has to be, no failure is forgotten, and it does
not become pending before its time unless a delivery failed. -/
structure Keeps (clock : Int) (r r' : Row) : Prop where
  ok : RowOk clock r → RowOk clock r'
  failures : r.failures ≤ r'.failures
  pending : r'.failures = r.failures → r'.status = .pending → r'.nextAttemptAt ≤ clock

theorem keeps_claim (clock now : Int) (token : Nat) (r : Row) :
    Keeps clock r (r.claim now token) where
  ok := fun h => ⟨congrArg (· + 1) h.claims, fun hno => (nomatch hno), fun hno => (nomatch hno)⟩
  failures := Nat.le_refl _
  pending := fun _ hno => nomatch hno

theorem keeps_markSent (clock : Int) (r : Row) : Keeps clock r r.markSent where
  ok := fun h => ⟨h.claims, fun hno => (nomatch hno), fun hno => (nomatch hno)⟩
  failures := Nat.le_refl _
  pending := fun _ hno => nomatch hno

theorem markFailed_status (now : Int) (r : Row) :
    (r.markFailed now).status = if maxAttempts ≤ r.attempts then .dead else .pending := rfl

theorem keeps_markFailed (clock now : Int) (r : Row) : Keeps clock r (r.markFailed now) where
  ok := by
    intro h
    refine ⟨h.claims, fun hpending => ?_, fun _ hno => nomatch hno⟩
    show r.attempts < maxAttempts
    rw [markFailed_status] at hpending
    split_ifs at hpending with hlimit
    omega
  failures := Nat.le_succ _
  pending := by
    intro hsame
    have hmore : (r.markFailed now).failures = r.failures + 1 := rfl
    omega

theorem keeps_replay (clock : Int) (r : Row) : Keeps clock r (r.replay clock) where
  ok := fun _ => by
    refine ⟨rfl, fun _ => ?_, fun _ _ => Int.le_refl clock⟩
    show 0 < maxAttempts
    decide
  failures := Nat.le_refl _
  pending := fun _ _ => Int.le_refl clock

/-! ## The invariant -/

/-- What a dispatcher knows of the candidate it has read: it was due, and as long as no delivery of
it has failed since, the row can be claimed when it is pending. -/
structure Seen (w : World) (now : Int) (candidate : Row) : Prop where
  due : candidate.due now = true
  here : (get w.rows candidate.id).isSome = true
  failures : ∀ r, get w.rows candidate.id = some r → candidate.failures ≤ r.failures
  pending : ∀ r, get w.rows candidate.id = some r → r.failures = candidate.failures →
    r.status = .pending → candidate.status = .pending → r.nextAttemptAt ≤ w.clock

structure Inv (w : World) : Prop where
  rows : ∀ id r, get w.rows id = some r → RowOk w.clock r
  reading : ∀ p now, w.phase p = .reading now → now ≤ w.clock
  seen : ∀ p now candidate, w.phase p = .selected now candidate → Seen w now candidate

theorem Inv.start (clock : Int) : Inv (.start clock) :=
  ⟨fun _ _ h => (nomatch h), fun _ _ h => (nomatch h), fun _ _ _ h => (nomatch h)⟩

theorem goTo_self (w : World) (p : Nat) (ph : Phase) : (w.goTo p ph).phase p = ph := by
  unfold World.goTo
  exact Function.update_self p ph w.phase

theorem goTo_other (w : World) {q : Nat} (ph : Phase) (h : q ≠ p) :
    (w.goTo p ph).phase q = w.phase q := by
  unfold World.goTo
  exact Function.update_of_ne h ph w.phase

section

variable (h : Inv w)
include h

/-- A dispatcher goes on. -/
theorem Inv.goTo (p : Nat) {ph : Phase} (hreading : ∀ now, ph = .reading now → now ≤ w.clock)
    (hseen : ∀ now candidate, ph = .selected now candidate → Seen w now candidate) :
    Inv (w.goTo p ph) := by
  refine ⟨h.rows, fun q now hq => ?_, fun q now candidate hq => ?_⟩
  · by_cases hqp : q = p
    · subst hqp
      rw [goTo_self] at hq
      exact hreading now hq
    · rw [goTo_other w ph hqp] at hq
      exact h.reading q now hq
  · by_cases hqp : q = p
    · subst hqp
      rw [goTo_self] at hq
      have hs := hseen now candidate hq
      exact ⟨hs.due, hs.here, hs.failures, hs.pending⟩
    · rw [goTo_other w ph hqp] at hq
      have hs := h.seen q now candidate hq
      exact ⟨hs.due, hs.here, hs.failures, hs.pending⟩

theorem Inv.idle (p : Nat) {ph : Phase} (hreading : ∀ now, ph ≠ .reading now)
    (hseen : ∀ now candidate, ph ≠ .selected now candidate) :
    Inv (w.goTo p ph) :=
  h.goTo p (fun now hph => absurd hph (hreading now))
    (fun now candidate hph => absurd hph (hseen now candidate))

theorem Inv.update {q : Row → Bool} {f : Row → Row} (hid : ∀ r, (f r).id = r.id)
    (hkeeps : ∀ r, Keeps w.clock r (f r)) : Inv { w with rows := update w.rows q f } := by
  have hget : ∀ id r', get (Verified.Table.update w.rows q f) id = some r' →
      ∃ r, get w.rows id = some r ∧ (r' = r ∨ r' = f r) := by
    intro id r' hr'
    rw [get_update w.rows q f hid, Option.map_eq_some_iff] at hr'
    obtain ⟨r, hr, rfl⟩ := hr'
    refine ⟨r, hr, ?_⟩
    split_ifs
    · exact .inr rfl
    · exact .inl rfl
  refine ⟨fun id r' hr' => ?_, h.reading, fun p now candidate hp => ?_⟩
  · obtain ⟨r, hr, hhow⟩ := hget id r' hr'
    cases hhow with
    | inl hsame => exact hsame ▸ h.rows id r hr
    | inr hnew => exact hnew ▸ (hkeeps r).ok (h.rows id r hr)
  · have hs := h.seen p now candidate hp
    refine ⟨hs.due, ?_, fun r' hr' => ?_, fun r' hr' hsame hpending hread => ?_⟩
    · rw [get_update w.rows q f hid, Option.isSome_map]
      exact hs.here
    · obtain ⟨r, hr, hhow⟩ := hget _ r' hr'
      have hle := hs.failures r hr
      cases hhow with
      | inl hsame => exact hsame ▸ hle
      | inr hnew =>
        rw [hnew]
        exact Nat.le_trans hle (hkeeps r).failures
    · obtain ⟨r, hr, hhow⟩ := hget _ r' hr'
      have hle := hs.failures r hr
      cases hhow with
      | inl heq =>
        subst heq
        exact hs.pending _ hr hsame hpending hread
      | inr hnew =>
        subst hnew
        have hmore := (hkeeps r).failures
        exact (hkeeps r).pending (by omega) hpending

theorem Inv.token (n : Nat) : Inv { w with nextToken := n } :=
  ⟨h.rows, h.reading, fun p now candidate hp =>
    have hs := h.seen p now candidate hp
    ⟨hs.due, hs.here, hs.failures, hs.pending⟩⟩

theorem Inv.tick (d : Nat) : Inv { w with clock := w.clock + d } := by
  have hle : w.clock ≤ w.clock + d := by omega
  refine ⟨fun id r hr => (h.rows id r hr).later hle, fun p now hp => ?_,
    fun p now candidate hp => ?_⟩
  · exact Int.le_trans (h.reading p now hp) hle
  · have hs := h.seen p now candidate hp
    refine ⟨hs.due, hs.here, hs.failures, fun r hr hsame hpending hread => ?_⟩
    exact Int.le_trans (hs.pending r hr hsame hpending hread) hle

theorem Inv.enqueue (eventId : String) :
    Inv { w with rows := insert w.rows (.enqueued (fresh w.rows) eventId w.clock) } := by
  refine ⟨fun id r hr => ?_, h.reading, fun p now candidate hp => ?_⟩
  · rw [get_insert_fresh rfl] at hr
    split_ifs at hr with hid
    · cases hr
      exact .enqueued _ eventId w.clock
    · exact h.rows id r hr
  · have hs := h.seen p now candidate hp
    obtain ⟨r₀, hr₀⟩ := Option.isSome_iff_exists.mp hs.here
    have hget : get (insert w.rows (.enqueued (fresh w.rows) eventId w.clock)) candidate.id =
        some r₀ := get_insert_of_get rfl hr₀
    refine ⟨hs.due, by rw [hget]; rfl, fun r hr => ?_, fun r hr => ?_⟩
    · rw [hget] at hr
      cases hr
      exact hs.failures _ hr₀
    · rw [hget] at hr
      cases hr
      exact hs.pending _ hr₀

theorem Inv.select {id : Nat} (hp : w.phase p = .reading now) (hr : get w.rows id = some r)
    (hdue : r.due now = true) : Inv (w.goTo p (.selected now r)) := by
  refine h.goTo p (fun _ hno => (nomatch hno)) ?_
  intro now' candidate hph
  cases hph
  have hid : get w.rows r.id = some r := by
    rw [show r.id = id from key_of_get hr]
    exact hr
  refine ⟨hdue, by rw [hid]; rfl, fun r' hr' => ?_, fun r' hr' _ hpending _ => ?_⟩
  · rw [hid] at hr'
    cases hr'
    exact Nat.le_refl _
  · rw [hid] at hr'
    cases hr'
    have hnow := h.reading p now hp
    simp only [Row.due, hpending, decide_eq_true_eq] at hdue
    rcases hdue with hnext | hno
    · omega
    · cases hno.1

theorem Inv.claim (p id : Nat) (now : Int) : Inv (w.claim p id now) := by
  have hrows : Inv { w with rows := modify w.rows id (Row.claim now w.nextToken) } :=
    h.update (fun _ => rfl) fun r => keeps_claim w.clock now w.nextToken r
  exact (hrows.token (w.nextToken + 1)).idle p (fun _ hno => nomatch hno)
    (fun _ _ hno => nomatch hno)

theorem Inv.mark (id token : Nat) (ok : Bool) : Inv (w.mark id token ok) := by
  cases ok with
  | true => exact h.update (fun _ => rfl) fun r => keeps_markSent w.clock r
  | false => exact h.update (fun _ => rfl) fun r => keeps_markFailed w.clock w.clock r

theorem Inv.stepped (hs : Stepped w l w') : Inv w' := by
  cases hs with
  | ticked d => exact h.tick d
  | enqueued eventId => exact h.enqueue eventId
  | began hp =>
    refine h.goTo _ (fun now hnow => ?_) (fun _ _ hno => nomatch hno)
    cases hnow
    exact Int.le_refl _
  | selected hp hr hdue => exact h.select hp hr hdue
  | claimed hp hr hclaims => exact h.claim _ _ _
  | marked hp => exact (h.mark _ _ _).idle _ (fun _ hno => nomatch hno) (fun _ _ hno => nomatch hno)
  | replayed ids => exact h.update (fun _ => rfl) fun r => keeps_replay w.clock r
  | refused hp hno => exact h.idle _ (fun _ hno => nomatch hno) (fun _ _ hno => nomatch hno)
  | moved hl hph =>
    rcases hph with rfl | ⟨id, token, ok, rfl⟩
    · exact h.idle _ (fun _ hno => nomatch hno) (fun _ _ hno => nomatch hno)
    · exact h.idle _ (fun _ hno => nomatch hno) (fun _ _ hno => nomatch hno)
  | stayed hl => exact h

/-! ## One step -/

theorem limited_update {q : Row → Bool} {f : Row → Row} (hid : ∀ r, (f r).id = r.id)
    (hends : ∀ r, q r = true → r.attempts = maxAttempts → r.status = .processing →
      (f r).status = .sent ∨ (f r).status = .dead) :
    LastEnds w { w with rows := update w.rows q f } := by
  intro id r r' hr hr' hlast hprocessing hne
  rw [get_update w.rows q f hid, hr, Option.map_some, Option.some.injEq] at hr'
  have hattempts := (h.rows id r hr).claims
  subst hr'
  by_cases hq : q r = true
  · rw [if_pos hq]
    exact hends r hq (by omega) hprocessing
  · rw [if_neg hq] at hne
    exact absurd rfl hne

end

theorem lastEnds_of_rows (hrows : w'.rows = w.rows) : LastEnds w w' := by
  intro id r r' hr hr' _ _ hne
  rw [hrows, hr, Option.some.injEq] at hr'
  exact absurd hr'.symm hne

theorem lastEnds_insert (w : World) (eventId : String) : LastEnds w
    { w with rows := insert w.rows (.enqueued (fresh w.rows) eventId w.clock) } := by
  intro id r r' hr hr' _ _ hne
  rw [get_insert_of_get rfl hr, Option.some.injEq] at hr'
  exact absurd hr'.symm hne

theorem lastEnds_mark (h : Inv w) (id token : Nat) (ok : Bool) :
    LastEnds w (w.mark id token ok) := by
  cases ok with
  | true => exact limited_update h (fun _ => rfl) fun _ _ _ _ => .inl rfl
  | false =>
    refine limited_update h (fun _ => rfl) fun r _ hlast _ => .inr ?_
    show (r.markFailed w.clock).status = .dead
    rw [markFailed_status, if_pos (Nat.le_of_eq hlast.symm)]

theorem lastEnds_replay (h : Inv w) (ids : List Nat) : LastEnds w (w.replay ids) := by
  refine limited_update h (fun _ => rfl) fun r hq _ hprocessing => ?_
  rw [Bool.and_eq_true, beq_iff_eq] at hq
  rw [hq.2] at hprocessing
  cases hprocessing

theorem lastEnds_claim_iff {candidate : Row} (hr : get w.rows candidate.id = some r)
    (hlt : r.claims < maxAttempts) : LastEnds w (w.claim p candidate.id now) := by
  intro id r₀ r' hr₀ hr' hlast _ hne
  have hget : get (w.claim p candidate.id now).rows id =
      if id = candidate.id then (get w.rows id).map (Row.claim now w.nextToken)
      else get w.rows id :=
    get_modify w.rows candidate.id (Row.claim now w.nextToken) (fun _ => rfl) id
  rw [hget] at hr'
  split_ifs at hr' with hid
  · subst hid
    rw [hr] at hr₀
    cases hr₀
    omega
  · rw [hr₀, Option.some.injEq] at hr'
    exact absurd hr'.symm hne

theorem limited_of_not_claim (hl : ∀ p, l ≠ .claim p) (hends : LastEnds w w') :
    Limited w l w' ↔ InOrder w l := by
  refine iff_of_true ⟨?_, hends⟩ ?_
  · rintro now candidate r ⟨p, rfl, -⟩
    exact absurd rfl (hl p)
  · cases l with
    | claim p => exact absurd rfl (hl p)
    | tick | enqueue | readClock | select | deliver | mark | replay | crash => exact True.intro

theorem limited_claim (h : Inv w) {candidate : Row} (hp : w.phase p = .selected now candidate)
    (hr : get w.rows candidate.id = some r) (hclaims : claims now candidate r = true) :
    Limited w (.claim p) (w.claim p candidate.id now) ↔ InOrder w (.claim p) := by
  have hok := h.rows _ _ hr
  have hseen := h.seen p now candidate hp
  have hattempts := hok.claims
  have hstatus : r.status = candidate.status := by
    rw [claims, decide_eq_true_iff] at hclaims
    exact hclaims.1
  have horder : InOrder w (.claim p) ↔
      (r.status = .processing → r.attempts < maxAttempts) ∧
      (r.status = .pending → r.failures = candidate.failures ∨ r.nextAttemptAt ≤ w.clock) := by
    simp [InOrder, hp, Phase.selection, hr, hclaims]
  rw [horder]
  constructor
  · rintro ⟨hintime, -⟩
    obtain ⟨hlt, hbackoff⟩ := hintime now candidate r ⟨p, rfl, hp, hr, hclaims⟩
    refine ⟨fun _ => by omega, fun hpending => .inr ?_⟩
    cases hput : r.putBack with
    | true => exact hbackoff hpending hput
    | false => exact hok.fresh hpending hput
  · rintro ⟨hprocessing, hpending⟩
    have hlt : r.claims < maxAttempts := by
      have hdue := hseen.due
      simp only [Row.due, decide_eq_true_eq, ← hstatus] at hdue
      rcases hdue with hp' | hp'
      · have hleft := hok.pending hp'.1
        omega
      · have hleft := hprocessing hp'.1
        omega
    refine ⟨?_, lastEnds_claim_iff hr hlt⟩
    rintro now' candidate' r' ⟨p', hl, hp', hr', -⟩
    cases hl
    rw [hp] at hp'
    cases hp'
    rw [hr] at hr'
    cases hr'
    refine ⟨hlt, fun hpend _ => ?_⟩
    cases hpending hpend with
    | inl hsame => exact hseen.pending r hr hsame hpend (hstatus ▸ hpend)
    | inr hover => exact hover

/-- **One step.** -/
theorem limited_step (h : Inv w) (hstep : step w l = some w') :
    (Limited w l w' ↔ InOrder w l) ∧ Inv w' := by
  have hs := stepped_of_step hstep
  refine ⟨?_, h.stepped hs⟩
  cases hs with
  | ticked | began => exact limited_of_not_claim (fun _ hno => nomatch hno) (lastEnds_of_rows rfl)
  | enqueued eventId =>
    exact limited_of_not_claim (fun _ hno => nomatch hno) (lastEnds_insert w eventId)
  | selected hp hr hdue =>
    exact limited_of_not_claim (fun _ hno => nomatch hno) (lastEnds_of_rows rfl)
  | claimed hp hr hclaims => exact limited_claim h hp hr hclaims
  | marked hp => exact limited_of_not_claim (fun _ hno => nomatch hno) (lastEnds_mark h _ _ _)
  | replayed ids => exact limited_of_not_claim (fun _ hno => nomatch hno) (lastEnds_replay h ids)
  | @refused p now candidate hp hno =>
    have hrefused : ∀ r, get w.rows candidate.id = some r → claims now candidate r = true →
        False := by
      intro r hr hclaims
      rw [hno r hr] at hclaims
      cases hclaims
    refine iff_of_true ⟨?_, lastEnds_of_rows rfl⟩ ?_
    · rintro now' candidate' r ⟨p', hl, hp', hr, hclaims⟩
      cases hl
      rw [hp] at hp'
      cases hp'
      exact (hrefused r hr hclaims).elim
    · intro s hs r hr hclaims
      rw [hp] at hs
      cases hs
      exact (hrefused r hr hclaims).elim
  | moved hl hph => exact limited_of_not_claim hl (lastEnds_of_rows rfl)
  | stayed hl => exact limited_of_not_claim hl (lastEnds_of_rows rfl)

/-! ## Runs -/

theorem last_delivery_ends (h : Inv w) {id token : Nat} (ok : Bool)
    (hp : w.phase p = .delivering id token) (hr : get w.rows id = some r)
    (hown : ownClaim id token r = true) (hlast : r.claims = maxAttempts) :
    ∃ w' r', dispatchers.run w [.deliver p ok, .mark p] = some w' ∧
      get w'.rows id = some r' ∧ (r'.status = .sent ∨ r'.status = .dead) := by
  have hattempts : maxAttempts ≤ r.attempts := by
    have hclaims := (h.rows id r hr).claims
    omega
  have hdelivered : step w (.deliver p ok) = some (w.goTo p (.delivered id token ok)) := by
    simp only [step, hp]
  have hmarked : step (w.goTo p (.delivered id token ok)) (.mark p) =
      some (((w.goTo p (.delivered id token ok)).mark id token ok).goTo p .idle) := by
    simp only [step, goTo_self]
  refine ⟨((w.goTo p (.delivered id token ok)).mark id token ok).goTo p .idle, ?_⟩
  have hrun : dispatchers.run w [.deliver p ok, .mark p] =
      some (((w.goTo p (.delivered id token ok)).mark id token ok).goTo p .idle) := by
    simp only [dispatchers, System.run, hdelivered, hmarked]
  cases ok with
  | true =>
    refine ⟨r.markSent, hrun, ?_, .inl rfl⟩
    show get (update w.rows (ownClaim id token) Row.markSent) id = _
    rw [get_update w.rows _ Row.markSent (fun _ => rfl), hr, Option.map_some, if_pos hown]
  | false =>
    refine ⟨r.markFailed w.clock, hrun, ?_, .inr ?_⟩
    · show get (update w.rows (ownClaim id token) (Row.markFailed w.clock)) id = _
      rw [get_update w.rows _ (Row.markFailed w.clock) (fun _ => rfl), hr, Option.map_some,
        if_pos hown]
    · rw [markFailed_status, if_pos hattempts]

theorem inv_run (clock : Int) (ls : List Label) (w : World)
    (hrun : dispatchers.run (.start clock) ls = some w) : Inv w :=
  dispatchers.run_invariant Inv (fun _ _ _ h hstep => (limited_step h hstep).2) ls
    (.start clock) w (Inv.start clock) hrun

/-- **The attempts.**  In every run a row is claimed within its attempts since the last replay,
changes to SENT or DEAD only after the last of them, and is not claimed before the next attempt
that a failed delivery gave it, exactly when the claims of the run are in order; and in the state
it leads to, the dispatcher that delivers a row for the last time makes it SENT or DEAD. -/
theorem limited_iff (clock : Int) (ls : List Label) (w : World)
    (hrun : dispatchers.run (.start clock) ls = some w) :
    (dispatchers.Always Limited (.start clock) ls ↔
      dispatchers.Meets InOrder (.start clock) ls) ∧
    ∀ p id token r ok, w.phase p = .delivering id token → get w.rows id = some r →
      ownClaim id token r = true → r.claims = maxAttempts →
        ∃ w' r', dispatchers.run w [.deliver p ok, .mark p] = some w' ∧
          get w'.rows id = some r' ∧ (r'.status = .sent ∨ r'.status = .dead) := by
  constructor
  · exact dispatchers.always_iff_meets_of Limited InOrder Inv
      (fun _ _ _ h hstep => ⟨(limited_step h hstep).1, fun _ => (limited_step h hstep).2⟩)
      ls (.start clock) w (Inv.start clock) hrun
  · intro p id token r ok hp hr hown hlast
    exact last_delivery_ends (inv_run clock ls w hrun) ok hp hr hown hlast

/-- A dispatcher claims the row that is first. -/
def claimFirst (p : Nat) : List Label := [.readClock p, .select p none (some 1), .claim p]

/-- A delivery fails, and succeeds when the backoff is over. -/
def retried : List Label :=
  [.enqueue "incident:1"] ++ claimFirst 0 ++ [.deliver 0 false, .mark 0, .tick 5000000] ++
    claimFirst 0 ++ [.deliver 0 true, .mark 0]

theorem limited_iff_retried : dispatchers.Always Limited (.start 0) retried :=
  (limited_iff 0 retried _ rfl).1.mpr (by decide +kernel)

/-- Every dispatcher that claims the row is gone before it marks it. -/
def abandoned (n : Nat) : List Label :=
  [.enqueue "incident:1"] ++
    (List.replicate n (claimFirst 0 ++ [.crash 0, .tick 300000000])).flatten

/-- Two dispatchers read the pending row; one claims it and fails, the other claims it then. -/
def overtaken : List Label :=
  [.enqueue "incident:1", .readClock 1, .select 1 none (some 1)] ++ claimFirst 0 ++
    [.deliver 0 false, .mark 0, .claim 1]

/-- A row that was claimed nine times since it was enqueued; and one that was put back with a
backoff of five seconds and claimed at once. -/
theorem claimed_beyond :
    ((dispatchers.run (.start 0) (abandoned 9)).map fun w => w.rows.map (·.claims)) =
        some [9] ∧
      ((dispatchers.run (.start 0) (overtaken.take 8)).map fun w =>
          (w.clock, w.rows.map fun r => (r.status, r.putBack, r.nextAttemptAt))) =
        some (0, [(.pending, true, 5000000)]) ∧
      ((dispatchers.run (.start 0) overtaken).map fun w =>
          (w.clock, w.rows.map fun r => (r.status, r.claims))) =
        some (0, [(.processing, 2)]) := by
  decide +kernel

end CephAi.Ports.TelegramOutbox
