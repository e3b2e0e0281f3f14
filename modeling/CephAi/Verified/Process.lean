import Mathlib.Data.List.Basic

/-!
# Processes that stop at the first failure

A process acts on a state and either goes on or fails with an error.  What it
did before it failed stays.  `andThen` and `forEach` put processes one after
another; what follows a failure is not run.

## Main results

* `ok_andThen_iff`, `ok_forEach_cons_iff` — when a sequence goes through.
* `keeps_andThen`, `keeps_forEach` — an invariant of the parts is one of the
  sequence.
-/

namespace CephAi.Verified

/-- What a process leaves, and the error that stopped it. -/
abbrev Process (σ ε : Type _) := σ → σ × Option ε

namespace Process

variable {σ ε α : Type _}

/-- Nothing is done. -/
def done : Process σ ε := fun s => (s, none)

/-- Stop with an error. -/
def fail (e : ε) : Process σ ε := fun s => (s, some e)

/-- Change the state. -/
def act (f : σ → σ) : Process σ ε := fun s => (f s, none)

/-- One process after another. -/
def andThen (p q : Process σ ε) : Process σ ε := fun s =>
  match p s with
  | (s', some e) => (s', some e)
  | (s', none) => q s'

def forEach (xs : List α) (f : α → Process σ ε) : Process σ ε :=
  xs.foldr (fun x p => (f x).andThen p) done

/-- The process goes through from `s` and leaves `s'`. -/
def Ok (p : Process σ ε) (s s' : σ) : Prop := p s = (s', none)

/-- The process keeps `I`, whether it goes through or not. -/
def Keeps (I : σ → Prop) (p : Process σ ε) : Prop := ∀ s, I s → I (p s).1

@[simp] theorem forEach_nil (f : α → Process σ ε) : forEach [] f = done := rfl

@[simp] theorem forEach_cons (x : α) (xs : List α) (f : α → Process σ ε) :
    forEach (x :: xs) f = (f x).andThen (forEach xs f) := rfl

@[simp] theorem ok_done_iff (s s' : σ) : (done : Process σ ε).Ok s s' ↔ s' = s := by
  simp [Ok, done, eq_comm]

@[simp] theorem not_ok_fail (e : ε) (s s' : σ) : ¬ (fail e : Process σ ε).Ok s s' := by
  simp [Ok, fail]

variable {I : σ → Prop} {p : Process σ ε}

variable {s : σ}

theorem andThen_of_ok {s' : σ} (h : p.Ok s s') (q : Process σ ε) : p.andThen q s = q s' := by
  unfold andThen
  rw [h]

/-- Nothing follows a failure. -/
theorem andThen_of_error {e : ε} (h : (p s).2 = some e) (q : Process σ ε) :
    p.andThen q s = p s := by
  unfold andThen
  cases hp : p s with
  | mk s' e' =>
    rw [hp] at h
    cases h
    rfl

/-- A sequence goes through when both parts do. -/
theorem ok_andThen_iff (p q : Process σ ε) (s s'' : σ) :
    (p.andThen q).Ok s s'' ↔ ∃ s', p.Ok s s' ∧ q.Ok s' s'' := by
  unfold Ok
  cases hp : p s with
  | mk s' e =>
    cases e with
    | none =>
      rw [andThen_of_ok hp]
      simp
    | some e =>
      rw [andThen_of_error (e := e) (by rw [hp]), hp]
      simp

/-- A loop goes through when its first part and the rest do. -/
theorem ok_forEach_cons_iff (x : α) (xs : List α) (f : α → Process σ ε) (s s'' : σ) :
    (forEach (x :: xs) f).Ok s s'' ↔ ∃ s', (f x).Ok s s' ∧ (forEach xs f).Ok s' s'' := by
  rw [forEach_cons, ok_andThen_iff]

/-- What goes through from a state with `I` leaves one. -/
theorem Keeps.of_ok (h : Keeps I p) {s' : σ} (hs : I s) (hok : p.Ok s s') : I s' := by
  have hkeep := h s hs
  rw [hok] at hkeep
  exact hkeep

theorem keeps_done (I : σ → Prop) : Keeps I (done : Process σ ε) := fun _ h => h

theorem keeps_fail (I : σ → Prop) (e : ε) : Keeps I (fail e : Process σ ε) := fun _ h => h

theorem keeps_andThen {q : Process σ ε} (hp : Keeps I p) (hq : Keeps I q) :
    Keeps I (p.andThen q) := by
  intro s hs
  have hfirst := hp s hs
  cases hrun : p s with
  | mk s' e =>
    rw [hrun] at hfirst
    cases e with
    | none =>
      rw [andThen_of_ok hrun]
      exact hq s' hfirst
    | some e =>
      rw [andThen_of_error (e := e) (by rw [hrun]), hrun]
      exact hfirst

theorem keeps_forEach {xs : List α} {f : α → Process σ ε} (h : ∀ x ∈ xs, Keeps I (f x)) :
    Keeps I (forEach xs f) := by
  induction xs with
  | nil => exact keeps_done I
  | cons x xs ih =>
    rw [forEach_cons]
    exact keeps_andThen (h x List.mem_cons_self)
      (ih (fun y hy => h y (List.mem_cons_of_mem x hy)))

end Process

end CephAi.Verified
