import Mathlib.Data.List.Induction

/-!
# Streaks in a history

A monitor acts when enough observations in a row agree.  Of an observation it
matters to a streak only whether it counts, is passed over, or breaks it.
`streak` is the counter such a monitor keeps; `EndsRun` says what the counter is
for, in terms of the history alone.

## Main results

* `exists_run` — the history ends with a run that has as many counted
  observations as the counter says.
* `endsRun_concat` — an observation ends a run of `n` exactly when it counts and
  the counter has reached `n`.
-/

namespace CephAi.Verified.Streaks

/-- What an observation does to a streak. -/
inductive Effect where
  | counts
  | skips
  | breaks
  deriving DecidableEq, Repr

/-- The counter after an observation. -/
def Effect.grow (n : Nat) : Effect → Nat
  | .counts => n + 1
  | .skips => n
  | .breaks => 0

variable {α : Type _} (effect : α → Effect)

/-- The counter at the end of a history. -/
def streak (history : List α) : Nat :=
  history.foldl (fun n a => (effect a).grow n) 0

/-- How many observations of a list count. -/
def counted (l : List α) : Nat :=
  l.countP fun a => effect a = .counts

/-- The last observation of the history counts, and ends a part of it without a
break in which at least `n` count. -/
def EndsRun (n : Nat) (history : List α) : Prop :=
  ∃ before run a, history = before ++ run ++ [a] ∧ effect a = .counts ∧
    (∀ b ∈ run, effect b ≠ .breaks) ∧ n ≤ counted effect (run ++ [a])

@[simp] theorem streak_concat (history : List α) (a : α) :
    streak effect (history ++ [a]) = (effect a).grow (streak effect history) := by
  unfold streak
  rw [List.foldl_append]
  rfl

variable {effect}

theorem streak_of_breaks {history : List α} {a : α} (h : effect a = .breaks) :
    streak effect (history ++ [a]) = 0 := by
  rw [streak_concat, h]
  rfl

theorem counted_concat (l : List α) (a : α) :
    counted effect (l ++ [a]) = counted effect l + if effect a = .counts then 1 else 0 := by
  unfold counted
  rw [List.countP_append, List.countP_singleton]
  simp only [decide_eq_true_eq]

theorem streak_append_of_no_break (before : List α) :
    ∀ run : List α, (∀ b ∈ run, effect b ≠ .breaks) →
      streak effect (before ++ run) = streak effect before + counted effect run := by
  intro run
  induction run using List.reverseRecOn with
  | nil =>
    intro _
    rw [List.append_nil]
    rfl
  | append_singleton run a ih =>
    intro h
    have hrun := ih fun b hb => h b (List.mem_append_left _ hb)
    have ha := h a (List.mem_append_right _ (List.mem_singleton.mpr rfl))
    rw [← List.append_assoc, streak_concat, hrun, counted_concat]
    cases heff : effect a with
    | counts => rfl
    | skips => rfl
    | breaks => exact absurd heff ha

/-- **The counter is the length of a run.**  The history ends with a part without
a break in which the counter's number of observations count. -/
theorem exists_run (history : List α) :
    ∃ before run, history = before ++ run ∧ (∀ b ∈ run, effect b ≠ .breaks) ∧
      counted effect run = streak effect history := by
  induction history using List.reverseRecOn with
  | nil => exact ⟨[], [], rfl, fun b hb => absurd hb List.not_mem_nil, rfl⟩
  | append_singleton history a ih =>
    obtain ⟨before, run, hsplit, hrun, hcount⟩ := ih
    by_cases ha : effect a = .breaks
    · refine ⟨history ++ [a], [], (List.append_nil _).symm, ?_, ?_⟩
      · intro b hb
        exact absurd hb List.not_mem_nil
      · rw [streak_of_breaks ha]
        rfl
    · refine ⟨before, run ++ [a], ?_, ?_, ?_⟩
      · rw [hsplit, List.append_assoc]
      · intro b hb
        rcases List.mem_append.mp hb with hb | hb
        · exact hrun b hb
        · exact List.mem_singleton.mp hb ▸ ha
      · rw [counted_concat, hcount, streak_concat]
        cases heff : effect a with
        | counts => rfl
        | skips => rfl
        | breaks => exact absurd heff ha

/-- **What the counter is for.**  An observation ends a run of `n` exactly when it
counts and brings the counter to `n`. -/
theorem endsRun_concat (n : Nat) (history : List α) (a : α) :
    EndsRun effect n (history ++ [a]) ↔
      effect a = .counts ∧ n ≤ streak effect history + 1 := by
  constructor
  · rintro ⟨before, run, b, hsplit, hb, hrun, hn⟩
    obtain ⟨hhistory, hab⟩ := List.append_inj' hsplit rfl
    have hab : a = b := List.singleton_inj.mp hab
    subst hab
    refine ⟨hb, ?_⟩
    rw [counted_concat, if_pos hb] at hn
    rw [hhistory, streak_append_of_no_break before run hrun]
    omega
  · rintro ⟨ha, hn⟩
    obtain ⟨before, run, hsplit, hrun, hcount⟩ := exists_run history
    refine ⟨before, run, a, by rw [hsplit], ha, hrun, ?_⟩
    rw [counted_concat, if_pos ha, hcount]
    exact hn

end CephAi.Verified.Streaks
