import CephAi.Verified.Leases
import CephAi.Verified.Runs
import Mathlib.Logic.Function.Basic
import Mathlib.Tactic.SplitIfs

/-!
# The consumers of an incident event

`claim_consumer`, `mark_consumer_done` and `release_consumer` of `shared/incident_outbox.py`, as
`_handle_message_without_context` of `worker/main.py` calls them: any number of consumers and of
deliveries of an event.

A claim that has expired is taken over by an `UPDATE` that compares the status only; the lease
was compared before, in the row as it was read, and runs from the clock reading that the claim
stored, which may be some time before its `UPDATE`.

## Main results

* `kept_step` — what a step leaves of the claims, where no live one is replaced.
* `obtained_alone_iff` — the consumers exclude each other in the runs where each `UPDATE` of an
  expired claim finds that claim, stored a lease ago.
* `done_final` — in every run, an event that is done is not claimed again.
* `obtained_twice` — two consumers that read the same expired claim.
-/

namespace CephAi.Ports.ConsumerClaims

open Verified.Leases Verified.Runs

/-! ## The row of an event and the consumers -/

/-- `CONSUMER_CLAIM_LEASE_SECONDS`; times are in microseconds. -/
def consumerLease : Int := 300 * 1000000

/-- `CONSUMER_PENDING`, `CONSUMER_PROCESSING`, `CONSUMER_DONE` -/
inductive Status
  | pending
  | processing
  | done
deriving DecidableEq, Repr

/-- The consumer's columns of a row of `IncidentOutbox`; a token is known by when it was made. -/
structure Row where
  consumerStatus : Status
  consumerClaimedAt : Option Int
  consumerClaimToken : Option Nat
deriving DecidableEq, Repr

def Row.enqueued : Row := ⟨.pending, none, none⟩

/-- What `claim_consumer` answers. -/
inductive Answer
  | missing
  | done
  | busy
  | claimed (token : Nat)
deriving DecidableEq, Repr

def readClaim (row : Option Row) (now : Int) : Answer ⊕ Row :=
  match row with
  | none => .inl .missing
  | some r =>
    if r.consumerStatus = .done then .inl .done
    else if r.consumerStatus = .processing ∧
        (r.consumerClaimedAt.any fun t => now - consumerLease < t) then .inl .busy
    else .inr r

/-- The `UPDATE` of `claim_consumer`. -/
def Row.claim (now : Int) (token : Nat) : Row := ⟨.processing, some now, some token⟩

/-- The filter of `mark_consumer_done` and `release_consumer`. -/
def Row.ownClaim (token : Nat) (r : Row) : Bool :=
  r.consumerClaimToken = some token ∧ r.consumerStatus = .processing

/-- The columns after `mark_consumer_done`, or `release_consumer`. -/
def Row.ended (done : Bool) : Row := ⟨if done then .done else .pending, none, none⟩

/-- Where a consumer is with a delivery; the time is the one that was read. -/
inductive Phase
  | idle
  | reading (event : String) (now : Int)
  | selected (event : String) (now : Int) (seen : Row)
  | answered (event : String) (answer : Answer)
deriving DecidableEq, Repr

structure World where
  clock : Int
  rows : String → Option Row
  nextToken : Nat
  phase : Nat → Phase
  /-- The claims that were answered and not ended since, with the time of the `UPDATE`. -/
  held : List (Claim String)
  /-- The events that `mark_consumer_done` has set to done. -/
  finished : List String

/-- A step; the first argument is the consumer, where it is one's. -/
inductive Label
  | tick (d : Nat)
  | enqueue (event : String)
  | deliver (p : Nat) (event : String)
  | select (p : Nat)
  | claim (p : Nat)
  /-- The message is acknowledged, or given back; a claim was marked done, or released. -/
  | finish (p : Nat) (done : Bool)
  | crash (p : Nat)
deriving DecidableEq, Repr

def World.goTo (w : World) (p : Nat) (ph : Phase) : World :=
  { w with phase := Function.update w.phase p ph }

/-- The `UPDATE` has found the row. -/
def World.claim (w : World) (p : Nat) (event : String) (now : Int) : World :=
  { w with
    rows := Function.update w.rows event (some (.claim now w.nextToken))
    nextToken := w.nextToken + 1
    held := ⟨event, w.nextToken, w.clock⟩ :: w.held }.goTo p
      (.answered event (.claimed w.nextToken))

/-- `mark_consumer_done` or `release_consumer`. -/
def World.end_ (w : World) (event : String) (token : Nat) (done : Bool) : World :=
  let own := (w.rows event).any (Row.ownClaim token)
  { w with
    rows := if own then Function.update w.rows event (some (.ended done)) else w.rows
    held := endClaim w.held event token
    finished := if own && done then event :: w.finished else w.finished }

/-- One step; `none` when it is not the consumer's turn. -/
def step (w : World) : Label → Option World
  | .tick d => some { w with clock := w.clock + d }
  | .enqueue event =>
    match w.rows event with
    | some _ => some w
    | none => some { w with rows := Function.update w.rows event (some .enqueued) }
  | .deliver p event =>
    match w.phase p with
    | .idle => some (w.goTo p (.reading event w.clock))
    | _ => none
  | .select p =>
    match w.phase p with
    | .reading event now =>
      match readClaim (w.rows event) now with
      | .inl answer => some (w.goTo p (.answered event answer))
      | .inr seen => some (w.goTo p (.selected event now seen))
    | _ => none
  | .claim p =>
    match w.phase p with
    | .selected event now seen =>
      if (w.rows event).any fun r => r.consumerStatus = seen.consumerStatus then
        some (w.claim p event now)
      else some (w.goTo p (.answered event .busy))
    | _ => none
  | .finish p done =>
    match w.phase p with
    | .answered event (.claimed token) => some ((w.end_ event token done).goTo p .idle)
    | .answered _ _ => some (w.goTo p .idle)
    | _ => none
  | .crash p => some (w.goTo p .idle)

def consumers : System World Label := ⟨step⟩

/-- Nothing was enqueued yet. -/
def World.start (clock : Int) : World where
  clock := clock
  rows := fun _ => none
  nextToken := 0
  phase := fun _ => .idle
  held := []
  finished := []

/-! ## Property and condition -/

/-- `claim_consumer` answers `CLAIMED` in this step, for the event. -/
def Claims (w : World) (l : Label) (w' : World) (event : String) : Prop :=
  ∃ p now seen token, l = .claim p ∧ w.phase p = .selected event now seen ∧
    w'.phase p = .answered event (.claimed token)

/-- `CLAIMED` is answered only where nobody has obtained the event within the lease and holds it,
and nobody has finished it. -/
structure Exclusive (w : World) (l : Label) (w' : World) : Prop where
  free : ∀ event, Claims w l w' event →
    ∀ c ∈ w.held, c.key = event → ¬c.Live consumerLease w.clock
  unfinished : ∀ event, Claims w l w' event → event ∉ w.finished
  one : OneLive consumerLease w'.clock w'.held

/-- What was read before the `UPDATE`. -/
def Phase.selection : Phase → Option (String × Row)
  | .selected event _ seen => some (event, seen)
  | _ => none

/-- The holder of this token, if it holds the event still, has had it for a lease. -/
def LongHeld (w : World) (event : String) (token : Option Nat) : Prop :=
  ∀ c ∈ w.held, c.key = event → token = some c.token → ¬c.Live consumerLease w.clock

/-- The condition on a step: an `UPDATE` of an expired claim finds the claim that was read, and
that was stored a lease ago; or another one since that was. -/
def NotOvertaken (w : World) : Label → Prop
  | .claim p => ∀ s ∈ (w.phase p).selection, ∀ r ∈ w.rows s.1,
      s.2.consumerStatus = .processing → r.consumerStatus = .processing →
      LongHeld w s.1 s.2.consumerClaimToken ∧
        (r.consumerClaimToken = s.2.consumerClaimToken ∨ LongHeld w s.1 r.consumerClaimToken)
  | _ => True

instance (w : World) (event : String) (token : Option Nat) :
    Decidable (LongHeld w event token) :=
  inferInstanceAs (Decidable (∀ c ∈ w.held, c.key = event → token = some c.token →
    ¬c.Live consumerLease w.clock))

instance (w : World) (l : Label) : Decidable (NotOvertaken w l) :=
  match l with
  | .claim p => inferInstanceAs (Decidable (∀ s ∈ (w.phase p).selection, ∀ r ∈ w.rows s.1,
      s.2.consumerStatus = .processing → r.consumerStatus = .processing →
      LongHeld w s.1 s.2.consumerClaimToken ∧
        (r.consumerClaimToken = s.2.consumerClaimToken ∨
          LongHeld w s.1 r.consumerClaimToken)))
  | .tick _ | .enqueue _ | .deliver .. | .select _ | .finish .. | .crash _ => isTrue trivial

/-! ## What a step does -/

/-- Steps of the consumers, one by one. -/
inductive Stepped (w : World) : Label → World → Prop
  | ticked (d : Nat) : Stepped w (.tick d) { w with clock := w.clock + d }
  | enqueued {event : String} (hnew : w.rows event = none) : Stepped w (.enqueue event)
      { w with rows := Function.update w.rows event (some .enqueued) }
  | selected {p : Nat} {event : String} {now : Int} {seen : Row}
      (hseen : readClaim (w.rows event) now = .inr seen) :
      Stepped w (.select p) (w.goTo p (.selected event now seen))
  | claimed {p : Nat} {event : String} {now : Int} {seen r : Row}
      (hp : w.phase p = .selected event now seen) (hr : w.rows event = some r)
      (htest : r.consumerStatus = seen.consumerStatus) :
      Stepped w (.claim p) (w.claim p event now)
  | refused {p : Nat} {event : String} {now : Int} {seen : Row}
      (hp : w.phase p = .selected event now seen)
      (hno : ∀ r, w.rows event = some r → r.consumerStatus ≠ seen.consumerStatus) :
      Stepped w (.claim p) (w.goTo p (.answered event .busy))
  | ended {p : Nat} {event : String} {token : Nat} {done : Bool} :
      Stepped w (.finish p done) ((w.end_ event token done).goTo p .idle)
  | moved {l : Label} {p : Nat} {ph : Phase} (hl : ∀ q, l ≠ .claim q)
      (hph : ∀ event now seen, ph ≠ .selected event now seen) : Stepped w l (w.goTo p ph)
  | stayed {l : Label} (hl : ∀ p, l ≠ .claim p) : Stepped w l w

variable {event : String} {l : Label}

theorem stepped_of_step {w w' : World} (hstep : step w l = some w') : Stepped w l w' := by
  revert hstep
  fun_cases step w l <;> rintro ⟨⟩
  · exact .ticked _
  · exact .stayed fun _ hno => nomatch hno
  next hnew => exact .enqueued hnew
  · exact .moved (fun _ hno => nomatch hno) fun _ _ _ hno => nomatch hno
  · exact .moved (fun _ hno => nomatch hno) fun _ _ _ hno => nomatch hno
  next hseen => exact .selected hseen
  next hp htest =>
    obtain ⟨r, hr, hsame⟩ := (Option.any_eq_true _ _).mp htest
    exact .claimed hp hr (of_decide_eq_true hsame)
  next hp htest =>
    apply Stepped.refused hp
    intro r hr hsame
    apply htest
    rw [hr]
    exact decide_eq_true hsame
  · exact .ended
  · exact .moved (fun _ hno => nomatch hno) fun _ _ _ hno => nomatch hno
  · exact .moved (fun _ hno => nomatch hno) fun _ _ _ hno => nomatch hno

/-! ## What a step leaves of the claims -/

variable {w w' : World}

/-- The row is `PROCESSING` under the claim's token. -/
def Has (rows : String → Option Row) (c : Claim String) : Prop :=
  ∃ r, rows c.key = some r ∧ r.consumerStatus = .processing ∧
    r.consumerClaimToken = some c.token

theorem Has.token_eq {rows : String → Option Row} {c d : Claim String} (hc : Has rows c)
    (hd : Has rows d) (hkey : c.key = d.key) : c.token = d.token := by
  obtain ⟨r, hr, _, htoken⟩ := hc
  obtain ⟨r', hr', _, htoken'⟩ := hd
  rw [hkey, hr'] at hr
  cases hr
  rw [htoken] at htoken'
  exact Option.some.inj htoken'

theorem Has.of_ne {rows : String → Option Row} {c : Claim String} {row : Option Row}
    (hc : Has rows c) (hne : c.key ≠ event) : Has (Function.update rows event row) c := by
  obtain ⟨r, hr, hrest⟩ := hc
  refine ⟨r, ?_, hrest⟩
  rw [Function.update_of_ne hne]
  exact hr

/-- The record of the claims is what the rows have. -/
def Kept (w : World) : Prop :=
  Recorded consumerLease w.clock w.nextToken (Has w.rows) w.held

theorem kept_start (clock : Int) : Kept (.start clock) := Recorded.nil

theorem Kept.oneLive (h : Kept w) : OneLive consumerLease w.clock w.held :=
  Recorded.oneLive h fun _ _ => Has.token_eq

theorem Kept.end_ (h : Kept w) (event : String) (token : Nat) (done : Bool) :
    Kept (w.end_ event token done) := by
  unfold World.end_
  cases hown : (w.rows event).any (Row.ownClaim token) with
  | false =>
    apply Recorded.end_ h
    intro c _ _ hc
    exact hc
  | true =>
    -- the row had this claim, and every other live one is of another event
    obtain ⟨r, hr, hrow⟩ := (Option.any_eq_true _ _).mp hown
    obtain ⟨htoken, hstatus⟩ := of_decide_eq_true hrow
    apply Recorded.end_ h
    intro c _ hne hc
    show Has (Function.update w.rows event (some (.ended done))) c
    apply hc.of_ne
    intro hkey
    have hfound : Has w.rows ⟨event, token, c.since⟩ := ⟨r, hr, hstatus, htoken⟩
    exact hne ⟨hkey, hc.token_eq hfound hkey⟩

theorem claims_claimed {p : Nat} {now : Int} {event : String} {seen : Row}
    (hp : w.phase p = .selected event now seen) :
    Claims w (.claim p) (w.claim p event now) event :=
  ⟨p, now, seen, w.nextToken, rfl, hp, Function.update_self ..⟩

/-- **Step lemma.**  A step that replaces no live claim keeps the record of the claims. -/
theorem kept_step (h : Kept w) (hstep : Stepped w l w')
    (hfree : ∀ event, Claims w l w' event →
      ∀ c ∈ w.held, c.key = event → ¬c.Live consumerLease w.clock) : Kept w' := by
  cases hstep with
  | ticked d =>
    apply Recorded.later h
    show w.clock ≤ w.clock + d
    omega
  | enqueued hnew =>
    apply Recorded.mono h
    intro c _ _ hc
    apply hc.of_ne
    intro hkey
    obtain ⟨r, hr, _⟩ := hc
    rw [hkey, hnew] at hr
    cases hr
  | @claimed p event now seen r hp hr htest =>
    apply Recorded.claim h event w.clock (hfree event (claims_claimed hp))
    · refine ⟨.claim now w.nextToken, ?_, rfl, rfl⟩
      exact Function.update_self ..
    · intro c _ hne hc
      exact hc.of_ne hne
  | ended => exact h.end_ _ _ _
  | selected | refused | moved | stayed => exact h

theorem Stepped.of_claims (hstep : Stepped w l w') (hclaims : Claims w l w' event) :
    ∃ p now seen r, l = .claim p ∧ w.phase p = .selected event now seen ∧
      w.rows event = some r ∧ r.consumerStatus = seen.consumerStatus := by
  obtain ⟨p, now, seen, token, hl, hp, hanswer⟩ := hclaims
  cases hl
  cases hstep with
  | claimed hp' hr htest =>
    rw [hp] at hp'
    cases hp'
    exact ⟨p, now, seen, _, rfl, hp, hr, htest⟩
  | refused hp' _ =>
    have hbusy : Function.update w.phase p (.answered _ .busy) p =
        .answered event (.claimed token) := hanswer
    rw [Function.update_self] at hbusy
    cases hbusy
  | moved hl _ => exact absurd rfl (hl p)
  | stayed hl => exact absurd rfl (hl p)

/-! ## What is done -/

/-- What was finished is done, and no consumer has read a row that was to claim it. -/
structure Finished (w : World) : Prop where
  done : ∀ event ∈ w.finished, ∃ r, w.rows event = some r ∧ r.consumerStatus = .done
  seen : ∀ p event now r, w.phase p = .selected event now r → r.consumerStatus ≠ .done

theorem finished_start (clock : Int) : Finished (.start clock) where
  done := by
    intro event hno
    cases hno
  seen := by
    intro p event now r hno
    cases hno

theorem status_of_readClaim {row : Option Row} {now : Int} {seen : Row}
    (h : readClaim row now = .inr seen) : seen.consumerStatus ≠ .done := by
  unfold readClaim at h
  split at h
  · cases h
  · split_ifs at h with hdone
    cases h
    exact hdone

section

variable (h : Finished w)
include h

theorem Finished.unfinished (hstep : Stepped w l w')
    (hclaims : Claims w l w' event) : event ∉ w.finished := by
  intro hfinished
  obtain ⟨p, now, seen, r, _, hp, hr, hsame⟩ := hstep.of_claims hclaims
  obtain ⟨r', hr', hdone⟩ := h.done event hfinished
  rw [hr] at hr'
  cases hr'
  exact h.seen p event now seen hp (hsame.symm.trans hdone)

theorem Finished.goTo (p : Nat) {ph : Phase}
    (hselected : ∀ event now r, ph = .selected event now r → r.consumerStatus ≠ .done) :
    Finished (w.goTo p ph) where
  done := h.done
  seen := by
    intro q event now r hq
    have hphase : Function.update w.phase p ph q = .selected event now r := hq
    rw [Function.update_apply] at hphase
    split_ifs at hphase
    · exact hselected event now r hphase
    · exact h.seen q event now r hphase

theorem Finished.write (row : Option Row) (hnew : event ∉ w.finished) :
    ∀ e ∈ w.finished, ∃ r, Function.update w.rows event row e = some r ∧
      r.consumerStatus = .done := by
  intro e he
  have hne : e ≠ event := by
    intro heq
    rw [heq] at he
    exact hnew he
  rw [Function.update_of_ne hne]
  exact h.done e he

theorem Finished.end_ (event : String) (token : Nat) (done : Bool) :
    Finished (w.end_ event token done) := by
  unfold World.end_
  cases hown : (w.rows event).any (Row.ownClaim token) with
  | false => exact ⟨h.done, h.seen⟩
  | true =>
    obtain ⟨r, hr, hrow⟩ := (Option.any_eq_true _ _).mp hown
    have hstatus := (of_decide_eq_true hrow).2
    have hnew : event ∉ w.finished := by
      intro hfinished
      obtain ⟨r', hr', hdone⟩ := h.done event hfinished
      rw [hr] at hr'
      cases hr'
      rw [hstatus] at hdone
      cases hdone
    refine ⟨?_, h.seen⟩
    cases done with
    | false => exact h.write _ hnew
    | true =>
      intro e he
      rcases List.mem_cons.mp he with hself | hrest
      · refine ⟨.ended true, ?_, rfl⟩
        rw [hself]
        exact Function.update_self ..
      · exact h.write _ hnew e hrest

/-- **Step lemma.**  What is done stays done. -/
theorem finished_step (hstep : Stepped w l w') : Finished w' := by
  have hstep' := hstep
  cases hstep with
  | @enqueued event hnew =>
    refine ⟨h.write _ ?_, h.seen⟩
    intro hfinished
    obtain ⟨r, hr, _⟩ := h.done event hfinished
    rw [hnew] at hr
    cases hr
  | selected hseen =>
    apply h.goTo
    intro event now r hsel
    cases hsel
    exact status_of_readClaim hseen
  | @claimed p event now seen r hp hr htest =>
    have hwritten := h.write (some (.claim now w.nextToken)) (h.unfinished hstep' (claims_claimed hp))
    have hgone : Finished (w.goTo p (.answered event (.claimed w.nextToken))) :=
      h.goTo p fun _ _ _ hno => nomatch hno
    exact ⟨hwritten, hgone.seen⟩
  | ended => exact (h.end_ _ _ _).goTo _ fun _ _ _ hno => nomatch hno
  | refused _ _ => exact h.goTo _ fun _ _ _ hno => nomatch hno
  | moved _ hph =>
    apply h.goTo
    intro event now r hsel
    exact absurd hsel (hph event now r)
  | ticked d => exact ⟨h.done, h.seen⟩
  | stayed _ => exact h

end

theorem free_iff (h : Kept w) (hstep : Stepped w l w') :
    (∀ event, Claims w l w' event →
      ∀ c ∈ w.held, c.key = event → ¬c.Live consumerLease w.clock) ↔ NotOvertaken w l := by
  constructor
  · intro hfree
    cases l with
    | claim p =>
      intro s hs r hr hread hstatus
      cases hstep with
      | @claimed _ event now seen r' hp hr' htest =>
        rw [hp] at hs
        cases hs
        have hover := hfree event (claims_claimed hp)
        exact ⟨fun c hc hkey _ => hover c hc hkey, .inr fun c hc hkey _ => hover c hc hkey⟩
      | refused hp hno =>
        rw [hp] at hs
        cases hs
        exact absurd (hstatus.trans hread.symm) (hno r hr)
      | moved hl _ => exact absurd rfl (hl p)
      | stayed hl => exact absurd rfl (hl p)
    | _ => trivial
  · intro hkept event hclaims c hc hkey hlive
    obtain ⟨p, now, seen, r, hl, hp, hr, hsame⟩ := hstep.of_claims hclaims
    rw [hl] at hkept
    -- a live claim would be the row's, that was read or that came since
    obtain ⟨r', hr', hstatus, htoken⟩ := Recorded.backed h c hc hlive
    rw [hkey, hr] at hr'
    cases hr'
    have hread : seen.consumerStatus = .processing := hsame.symm.trans hstatus
    obtain ⟨hseen, hnow⟩ := hkept (event, seen) (by rw [hp]; rfl) r hr hread hstatus
    rcases hnow with hsame | hover
    · exact hseen c hc hkey (hsame.symm.trans htoken) hlive
    · exact hover c hc hkey htoken hlive

/-- **Run theorem.**  The consumers exclude each other throughout a run, and leave what is done
alone, exactly when every `UPDATE` of an expired claim finds the claim that was read and that was
stored a lease ago, or another one that was. -/
theorem obtained_alone_iff (clock : Int) (ls : List Label) (w : World)
    (hrun : consumers.run (.start clock) ls = some w) :
    consumers.Always Exclusive (.start clock) ls ↔
      consumers.Meets NotOvertaken (.start clock) ls := by
  apply System.always_iff_meets_of consumers Exclusive NotOvertaken
    (fun w => Kept w ∧ Finished w) _ ls (.start clock) w
    ⟨kept_start clock, finished_start clock⟩ hrun
  intro w l w' ⟨hkept, hfinished⟩ hstep
  have hstepped := stepped_of_step hstep
  have hiff := free_iff hkept hstepped
  constructor
  · constructor
    · intro hexclusive
      exact hiff.mp hexclusive.free
    · intro hmeets
      have hfree := hiff.mpr hmeets
      exact ⟨hfree, fun _ => hfinished.unfinished hstepped,
        (kept_step hkept hstepped hfree).oneLive⟩
  · intro hmeets
    exact ⟨kept_step hkept hstepped (hiff.mpr hmeets), finished_step hfinished hstepped⟩

/-- A consumer dies, another one takes the event over after the lease and finishes it, and a third
delivery is told so. -/
def redelivered : List Label :=
  [.enqueue "incident:i1:diagnose", .deliver 0 "incident:i1:diagnose", .select 0, .claim 0,
    .crash 0, .tick 300000000, .deliver 1 "incident:i1:diagnose", .select 1, .claim 1,
    .finish 1 true, .deliver 2 "incident:i1:diagnose", .select 2]

theorem obtained_alone_iff_redelivered : consumers.Always Exclusive (.start 0) redelivered :=
  (obtained_alone_iff 0 redelivered _ rfl).mpr (by decide)

/-- Two consumers read the expired claim; the second `UPDATE` finds the row `PROCESSING` again. -/
theorem obtained_twice :
    ∃ w, consumers.run (.start 0)
        [.enqueue "incident:i1:diagnose", .deliver 0 "incident:i1:diagnose", .select 0, .claim 0,
          .crash 0, .tick 300000000, .deliver 1 "incident:i1:diagnose", .select 1,
          .deliver 2 "incident:i1:diagnose", .select 2, .claim 1, .claim 2] = some w ∧
      ¬OneLive consumerLease w.clock w.held :=
  ⟨_, rfl, by decide⟩

end CephAi.Ports.ConsumerClaims
