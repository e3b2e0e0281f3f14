import CephAi.Verified.Process

/-!
# Handlers and finalizers

A process that stops with an error may be guarded in two ways.  `handle` is
`try … except`: when the error is caught, the handler goes on in its place.
`ensure` is `try … finally`: the finalizer runs however the process ended, and an
error of its own takes the place of the first one.

## Main results

* `handle_of_ok`, `handle_of_caught`, `handle_of_uncaught` — the three ways through
  a handler.
* `ensure_fst` — a finalizer runs from what the process leaves.
* `keeps_handle` — an invariant of the parts is one of the whole.
-/

namespace CephAi.Verified.Process

variable {σ ε : Type _}

/-- `try … except`: the handler runs on an error that is caught. -/
def handle (p : Process σ ε) (catches : ε → Bool) (handler : Process σ ε) : Process σ ε :=
  fun s =>
    match p s with
    | (s', some e) => if catches e then handler s' else (s', some e)
    | (s', none) => (s', none)

/-- `try … finally`: the finalizer always runs. -/
def ensure (p finalizer : Process σ ε) : Process σ ε := fun s =>
  match p s with
  | (s', e) =>
    match finalizer s' with
    | (s'', some e') => (s'', some e')
    | (s'', none) => (s'', e)

/-- Nothing follows an error. -/
theorem andThen_of_stop {p : Process σ ε} {s s' : σ} {e : ε} (h : p s = (s', some e))
    (q : Process σ ε) : p.andThen q s = (s', some e) := by
  rw [andThen_of_error (e := e) (by rw [h]), h]

theorem andThen_of_ne_none {p : Process σ ε} {s : σ} (h : (p s).2 ≠ none)
    (q : Process σ ε) : p.andThen q s = p s := by
  cases hend : (p s).2 with
  | none => exact absurd hend h
  | some e => exact andThen_of_error hend q

/-- A process that never goes through. -/
def Stops (p : Process σ ε) : Prop := ∀ s, (p s).2 ≠ none

theorem stops_fail (e : ε) : Stops (fail e : Process σ ε) := by
  intro s h
  cases h

theorem Stops.after {q : Process σ ε} (h : Stops q) (p : Process σ ε) : Stops (p.andThen q) := by
  intro s
  cases hp : p s with
  | mk s' end_ =>
    cases end_ with
    | none =>
      rw [andThen_of_ok hp]
      exact h s'
    | some e =>
      rw [andThen_of_stop hp]
      exact Option.some_ne_none e

variable {p : Process σ ε} {catches : ε → Bool} {handler : Process σ ε} {s s' : σ} {e : ε}

theorem handle_of_ok (h : p.Ok s s') : p.handle catches handler s = (s', none) := by
  unfold handle
  rw [h]

theorem handle_of_caught (h : p s = (s', some e)) (hcatch : catches e = true) :
    p.handle catches handler s = handler s' := by
  unfold handle
  rw [h]
  exact if_pos hcatch

/-- What is not caught goes on. -/
theorem handle_of_uncaught (h : p s = (s', some e)) (hcatch : catches e = false) :
    p.handle catches handler s = (s', some e) := by
  unfold handle
  rw [h]
  exact if_neg (by rw [hcatch]; exact Bool.false_ne_true)

/-- **The finalizer always runs**, from what the process leaves. -/
theorem ensure_fst (p finalizer : Process σ ε) (s : σ) :
    (p.ensure finalizer s).1 = (finalizer (p s).1).1 := by
  unfold ensure
  cases hp : p s with
  | mk s' end_ =>
    cases hfinal : finalizer s' with
    | mk s'' e =>
      cases e with
      | none | some => simp only [hfinal]

theorem keeps_handle {I : σ → Prop} (hp : Keeps I p) (hhandler : Keeps I handler) :
    Keeps I (p.handle catches handler) := by
  intro s hs
  have hfirst := hp s hs
  cases hrun : p s with
  | mk s' end_ =>
    rw [hrun] at hfirst
    cases end_ with
    | none =>
      rw [handle_of_ok hrun]
      exact hfirst
    | some e =>
      cases hcatch : catches e with
      | true =>
        rw [handle_of_caught hrun hcatch]
        exact hhandler s' hfirst
      | false =>
        rw [handle_of_uncaught hrun hcatch]
        exact hfirst

end CephAi.Verified.Process
