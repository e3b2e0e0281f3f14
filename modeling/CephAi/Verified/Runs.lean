/-!
# Runs of a labelled system

A system is a partial step function on states and labels: `none` means the
label is not enabled.  A run is a list of labels.  A property of every run is
proved from what one step preserves, and a property of the runs whose steps all
meet a condition likewise.

## Main results

* `run_invariant` — what every step preserves holds at the end of every run.
* `run_invariant_of_meets` — the same for the runs that meet a condition.
* `always_iff_meets_of`, `always_of_meets` — a property of every step of a run.
* `count_le_one` — what can be done once only is done at most once in a run.
* `run_measure_le` — what a run adds to a measure.
* `always_onward_iff` — what holds however a run goes on.
-/

namespace CephAi.Verified.Runs

/-- A labelled transition system. -/
structure System (σ α : Type _) where
  step : σ → α → Option σ

variable {σ α : Type _}

/-- Follow the labels; `none` when one of them is not enabled. -/
def System.run (S : System σ α) : σ → List α → Option σ
  | s, [] => some s
  | s, a :: as =>
    match S.step s a with
    | none => none
    | some s' => S.run s' as

/-- Every step of the run is taken in a state and with a label that meet
`C`. -/
def System.Meets (S : System σ α) (C : σ → α → Prop) : σ → List α → Prop
  | _, [] => True
  | s, a :: as => C s a ∧
    match S.step s a with
    | none => True
    | some s' => S.Meets C s' as

/-- A run can be checked against a decidable condition. -/
instance System.decidableMeets (S : System σ α) (C : σ → α → Prop)
    [∀ s a, Decidable (C s a)] :
    ∀ (s : σ) (as : List α), Decidable (S.Meets C s as)
  | _, [] => inferInstanceAs (Decidable True)
  | s, a :: as =>
    have : Decidable (match S.step s a with
        | none => True
        | some s' => S.Meets C s' as) :=
      match S.step s a with
      | none => inferInstanceAs (Decidable True)
      | some s' => S.decidableMeets C s' as
    inferInstanceAs (Decidable (C s a ∧ _))

/-- Every step of the run satisfies `R`. -/
def System.Always (S : System σ α) (R : σ → α → σ → Prop) :
    σ → List α → Prop
  | _, [] => True
  | s, a :: as =>
    match S.step s a with
    | none => True
    | some s' => R s a s' ∧ S.Always R s' as

variable {C : σ → α → Prop} {P : σ → Prop} {S : System σ α}

variable {s s' : σ}

theorem System.Meets.tail {a : α} {as : List α} (h : S.Meets C s (a :: as))
    (hs' : S.step s a = some s') : S.Meets C s' as := by
  have hrest := h.2
  rwa [hs'] at hrest

@[simp] theorem System.run_nil (S : System σ α) (s : σ) :
    S.run s [] = some s := rfl

theorem System.run_cons_eq_some (S : System σ α) (s s'' : σ) (a : α) (as : List α) :
    S.run s (a :: as) = some s'' ↔
      ∃ s', S.step s a = some s' ∧ S.run s' as = some s'' := by
  simp only [System.run]
  cases S.step s a with
  | none => simp
  | some s' => simp

theorem System.Always.step_after {R : σ → α → σ → Prop} {a : α} {s'' : σ}
    (hstep : S.step s' a = some s'') :
    ∀ (as : List α) (s : σ), S.Always R s (as ++ [a]) →
      S.run s as = some s' → R s' a s'' := by
  intro as
  induction as with
  | nil =>
    intro s h hrun
    rw [System.run_nil, Option.some.injEq] at hrun
    subst hrun
    simp only [List.nil_append, System.Always, hstep] at h
    exact h.1
  | cons b as ih =>
    intro s h hrun
    obtain ⟨s₁, hs₁, hrest⟩ := (S.run_cons_eq_some s s' b as).mp hrun
    simp only [List.cons_append, System.Always, hs₁] at h
    exact ih s₁ h.2 hrest

section

variable (S : System σ α)

/-- **Run lemma.**  What every step that meets `C` preserves holds at the end
of every run whose steps meet `C`. -/
theorem System.run_invariant_of_meets (C : σ → α → Prop) (I : σ → Prop)
    (hstep : ∀ s a s', I s → C s a → S.step s a = some s' → I s') :
    ∀ (as : List α) (s s' : σ), I s → S.Meets C s as →
      S.run s as = some s' → I s' := by
  intro as
  induction as with
  | nil =>
    intro s s' hs _ hrun
    rw [System.run_nil, Option.some.injEq] at hrun
    exact hrun ▸ hs
  | cons a as ih =>
    intro s s'' hs hmeets hrun
    obtain ⟨s', hs', hrest⟩ := (S.run_cons_eq_some s s'' a as).mp hrun
    exact ih s' s'' (hstep s a s' hs hmeets.1 hs') (hmeets.tail hs') hrest

theorem System.run_invariant (I : σ → Prop) (hstep : ∀ s a s', I s → S.step s a = some s' → I s') :
    ∀ (as : List α) (s s' : σ), I s → S.run s as = some s' → I s' := by
  intro as
  induction as with
  | nil =>
    intro s s' hs hrun
    rw [System.run_nil, Option.some.injEq] at hrun
    exact hrun ▸ hs
  | cons a as ih =>
    intro s s'' hs hrun
    obtain ⟨s', hs', hrest⟩ := (S.run_cons_eq_some s s'' a as).mp hrun
    exact ih s' s'' (hstep s a s' hs hs') hrest

section

variable (R : σ → α → σ → Prop)

theorem System.always_iff_meets_of (C : σ → α → Prop) (I : σ → Prop)
    (hstep : ∀ s a s', I s → S.step s a = some s' → (R s a s' ↔ C s a) ∧ (C s a → I s')) :
    ∀ (as : List α) (s s' : σ), I s → S.run s as = some s' →
      (S.Always R s as ↔ S.Meets C s as) := by
  intro as
  induction as with
  | nil =>
    intro s s' _ _
    exact Iff.rfl
  | cons a as ih =>
    intro s s'' hs hrun
    obtain ⟨s', hs', hrest⟩ := (S.run_cons_eq_some s s'' a as).mp hrun
    obtain ⟨hiff, hkeep⟩ := hstep s a s' hs hs'
    simp only [System.Always, System.Meets, hs']
    constructor
    · intro h
      have hC := hiff.mp h.1
      exact ⟨hC, (ih s' s'' (hkeep hC) hrest).mp h.2⟩
    · intro h
      exact ⟨hiff.mpr h.1, (ih s' s'' (hkeep h.1) hrest).mpr h.2⟩

theorem System.always_iff_meets (C : σ → α → Prop)
    (hstep : ∀ s a s', S.step s a = some s' → (R s a s' ↔ C s a)) (as : List α) (s s' : σ)
    (hrun : S.run s as = some s') : S.Always R s as ↔ S.Meets C s as := by
  apply S.always_iff_meets_of R C (fun _ => True) _ as s s' True.intro hrun
  intro s a s' _ hs'
  exact ⟨hstep s a s' hs', fun _ => True.intro⟩

theorem System.always_of_meets (C : σ → α → Prop) (I : σ → Prop)
    (hstep : ∀ s a s', I s → C s a → S.step s a = some s' → R s a s' ∧ I s') :
    ∀ (as : List α) (s : σ), I s → S.Meets C s as → S.Always R s as := by
  intro as
  induction as with
  | nil =>
    intro s _ _
    exact True.intro
  | cons a as ih =>
    intro s hs hmeets
    unfold System.Always
    cases hs' : S.step s a with
    | none => exact True.intro
    | some s' =>
      obtain ⟨hR, hI⟩ := hstep s a s' hs hmeets.1 hs'
      exact ⟨hR, ih s' hI (hmeets.tail hs')⟩

theorem System.always_of_invariant (I : σ → Prop)
    (hstep : ∀ s a s', I s → S.step s a = some s' → R s a s' ∧ I s') :
    ∀ (as : List α) (s : σ), I s → S.Always R s as := by
  intro as
  induction as with
  | nil =>
    intro s _
    exact True.intro
  | cons a as ih =>
    intro s hs
    unfold Always
    cases hs' : S.step s a with
    | none => exact True.intro
    | some s' =>
      obtain ⟨hR, hI⟩ := hstep s a s' hs hs'
      exact ⟨hR, ih s' hI⟩

end

end

/-! ## However a run goes on -/

/-- Wherever a run from here comes to by steps that meet `C`, `P` holds. -/
def System.Onward (S : System σ α) (C : σ → α → Prop) (P : σ → Prop) (s : σ) : Prop :=
  ∀ more u, S.run s more = some u → S.Meets C s more → P u

theorem System.Onward.here (h : S.Onward C P s) : P s := h [] s rfl True.intro

theorem System.Onward.after (h : S.Onward C P s) (a : α) (hC : C s a) (hs' : S.step s a = some s') :
    S.Onward C P s' := by
  intro more u hrun hmeets
  apply h (a :: more) u
  · exact (S.run_cons_eq_some s u a more).mpr ⟨s', hs', hrun⟩
  · refine ⟨hC, ?_⟩
    rw [hs']
    exact hmeets

theorem System.always_onward_iff (S : System σ α) {I : σ → Prop} (hP : ∀ s, I s → P s)
    (hstep : ∀ s a s', I s → C s a → S.step s a = some s' → I s')
    (hbreaks : ∀ s a s', I s → ¬C s a → S.step s a = some s' → ¬S.Onward C P s') :
    ∀ (as : List α) (s s' : σ), I s → S.run s as = some s' →
      (S.Always (fun _ _ s' => S.Onward C P s') s as ↔ S.Meets C s as) := by
  apply S.always_iff_meets_of
  intro s a s' hs hs'
  constructor
  · constructor
    · intro honward
      apply Classical.byContradiction
      intro hC
      exact hbreaks s a s' hs hC hs' honward
    · intro hC more u hrun hmeets
      exact hP u (S.run_invariant_of_meets C I hstep more s' u (hstep s a s' hs hC hs') hmeets hrun)
  · intro hC
    exact hstep s a s' hs hC hs'

/-! ## Steps that are counted -/

/-- How many steps of the run satisfy `P`. -/
def System.count (S : System σ α) (P : σ → σ → Bool) : σ → List α → Nat
  | _, [] => 0
  | s, a :: as =>
    match S.step s a with
    | none => 0
    | some s' => (P s s').toNat + S.count P s' as

section

variable (S : System σ α)

theorem System.count_eq_zero {P : σ → σ → Bool} {D : σ → Prop}
    (hdone : ∀ s a s', D s → S.step s a = some s' → P s s' = false ∧ D s') :
    ∀ (as : List α) (s : σ), D s → S.count P s as = 0 := by
  intro as
  induction as with
  | nil =>
    intro s _
    rfl
  | cons a as ih =>
    intro s hs
    unfold count
    cases hs' : S.step s a with
    | none => rfl
    | some s' =>
      have hd := hdone s a s' hs hs'
      show (P s s').toNat + S.count P s' as = 0
      rw [hd.1, ih s' hd.2]
      rfl

theorem System.count_le_one {P : σ → σ → Bool} {D : σ → Prop}
    (hmakes : ∀ s a s', S.step s a = some s' → P s s' = true → D s')
    (hdone : ∀ s a s', D s → S.step s a = some s' → P s s' = false ∧ D s') :
    ∀ (as : List α) (s : σ), S.count P s as ≤ 1 := by
  intro as
  induction as with
  | nil =>
    intro s
    exact Nat.zero_le 1
  | cons a as ih =>
    intro s
    unfold count
    cases hs' : S.step s a with
    | none => exact Nat.zero_le 1
    | some s' =>
      show (P s s').toNat + S.count P s' as ≤ 1
      cases hP : P s s' with
      | false =>
        have hrest := ih s'
        rw [Bool.toNat_false]
        omega
      | true =>
        have hrest := S.count_eq_zero hdone as s' (hmakes s a s' hs' hP)
        rw [Bool.toNat_true]
        omega

/-- What only labels of a kind raise, by one at most, a run raises by the number of these. -/
theorem System.run_measure_le (f : σ → Nat) (p : α → Bool)
    (hstep : ∀ s a s', S.step s a = some s' → f s' ≤ f s + (p a).toNat) :
    ∀ (as : List α) (s s' : σ), S.run s as = some s' → f s' ≤ f s + as.countP p := by
  intro as
  induction as with
  | nil =>
    intro s s' hrun
    rw [System.run_nil, Option.some.injEq] at hrun
    exact hrun ▸ Nat.le_add_right _ _
  | cons a as ih =>
    intro s s'' hrun
    obtain ⟨s', hs', hrest⟩ := (S.run_cons_eq_some s s'' a as).mp hrun
    have hfirst := hstep s a s' hs'
    have hothers := ih s' s'' hrest
    cases hp : p a with
    | false =>
      rw [hp, Bool.toNat_false] at hfirst
      rw [List.countP_cons_of_neg (by simp [hp])]
      omega
    | true =>
      rw [hp, Bool.toNat_true] at hfirst
      rw [List.countP_cons_of_pos hp]
      omega

theorem System.run_total (hstep : ∀ s a, ∃ s', S.step s a = some s') :
    ∀ (as : List α) (s : σ), ∃ s', S.run s as = some s' := by
  intro as
  induction as with
  | nil =>
    intro s
    exact ⟨s, rfl⟩
  | cons a as ih =>
    intro s
    obtain ⟨s', hs'⟩ := hstep s a
    obtain ⟨s'', hrest⟩ := ih s'
    exact ⟨s'', (S.run_cons_eq_some s s'' a as).mpr ⟨s', hs', hrest⟩⟩

theorem System.iff_meets (J G : σ → Prop) (C : σ → α → Prop)
    (hstep : ∀ s a s', J s → S.step s a = some s' → J s' ∧ (G s' ↔ G s ∧ C s a)) :
    ∀ (as : List α) (s s' : σ), J s → S.run s as = some s' →
      (G s' ↔ G s ∧ S.Meets C s as) := by
  intro as
  induction as with
  | nil =>
    intro s s' _ hrun
    rw [System.run_nil, Option.some.injEq] at hrun
    subst hrun
    exact (and_iff_left True.intro).symm
  | cons a as ih =>
    intro s s'' hJ hrun
    obtain ⟨s', hs', hrest⟩ := (S.run_cons_eq_some s s'' a as).mp hrun
    obtain ⟨hJ', hiff⟩ := hstep s a s' hJ hs'
    have hih := ih s' s'' hJ' hrest
    simp only [System.Meets, hs']
    rw [hih, hiff, and_assoc]

end

end CephAi.Verified.Runs
