import CephAi.Ports.GateRuns

/-!
# Monitors taken out by node OS gates

A gate takes a node's monitor out of the quorum and brings it back later; the
lock row is to keep a second gate away until then.  A failed `prepare` compensates
before it releases the lock, and keeps the lock when the compensation fails.  A
failed `abort` or `recover` releases the lock whatever was undone, and a
`ceph mon rm` that took effect although it reported an error is not compensated.

## Main results

* `runStep_covered` — what a command does to the monitors that are out, and to
  the lock.
* `one_monitor_out` — when neither happens, at most one monitor is out because
  of a gate, and none when the lock is free or a gate removes one.
-/

namespace CephAi.Ports.GateQuorum

open Verified NodeOsGate GateRuns

/-- The places of a run where every monitor is in.  At the end of a rollback,
`clean` and `release` tell. -/
def MonIn (j : Journal) (r : Run) : Prop :=
  match r.pc with
  | .resolve => r.kind = .prepare
  | .backup | .readFlags | .setFlags _ | .removeMon => True
  | .checkQuorum | .markPrepared | .rollbackState =>
    r.monRemoved.getD j.monRemoved = false
  | .rejoinBack _ | .reinstall | .rejoin => False
  | .readBack _ clean | .unsetBack _ clean => clean = true
  | .readClear | .unsetClear _ | .markDone => True
  | .failing release => release = true

/-- A removal that takes effect reports success, and an `abort` or a `recover`
does not fail before the monitor is back. -/
def Compensated (g : Gate) (k : GateKind) (o : Outcome) : Pc → Prop
  | .removeMon => o.applied = true → o.ok = true
  | .resolve => k = .prepare ∨ g.hasMon = false ∨ o.ok = true
  | .reinstall => g.hasMon = false ∨ o.ok = true
  | .rejoin => g.hasMon = false ∨ o.took = true
  | _ => True

instance (g : Gate) (k : GateKind) (o : Outcome) (pc : Pc) :
    Decidable (Compensated g k o pc) :=
  match pc with
  | .removeMon => inferInstanceAs (Decidable (o.applied = true → o.ok = true))
  | .resolve =>
    inferInstanceAs (Decidable (k = .prepare ∨ g.hasMon = false ∨ o.ok = true))
  | .reinstall => inferInstanceAs (Decidable (g.hasMon = false ∨ o.ok = true))
  | .rejoin => inferInstanceAs (Decidable (g.hasMon = false ∨ o.took = true))
  | .backup | .readFlags | .setFlags _ | .checkQuorum | .markPrepared
  | .rollbackState | .rejoinBack _ | .readBack .. | .unsetBack .. | .readClear
  | .unsetClear _ | .markDone | .failing _ => inferInstanceAs (Decidable True)

/-- What a command leaves: the monitors that are out are this gate's, and there
is none where a run relies on it or the lock is free. -/
structure Covers (g : Gate) (s : Site) (next : Next) : Prop where
  out : ∀ h ∈ s.live.removed, h = g.host ∧ g.hasMon = true
  running : ∀ r, next = .goOn r → MonIn s.journal r → s.live.removed = []
  free : s.lock = none → s.live.removed = []

variable {g : Gate} {s : Site} {w : World}

/-- All that is out is this gate's monitor. -/
theorem removed_rejoinMon {l : Live} (h : ∀ x ∈ l.removed, x = g.host ∧ g.hasMon = true) :
    (l.rejoinMon g.host).removed = [] := by
  apply List.eq_nil_iff_forall_not_mem.mpr
  intro x hx
  obtain ⟨hmem, hne⟩ := Compensation.mem_remove.mp hx
  exact hne (h x hmem).1

theorem removed_of_not_hasMon {l : Live} (h : ∀ x ∈ l.removed, x = g.host ∧ g.hasMon = true)
    (hmon : g.hasMon = false) : l.removed = [] := by
  apply List.eq_nil_iff_forall_not_mem.mpr
  intro x hx
  have htrue := (h x hx).2
  rw [hmon] at htrue
  cases htrue

theorem covers_goTo {r : Run} {pc : Pc} {i : Nat} (hlock : s.lock = some i)
    (hout : ∀ h ∈ s.live.removed, h = g.host ∧ g.hasMon = true)
    (hin : MonIn s.journal { r with pc := pc } → s.live.removed = []) :
    Covers g s (r.goTo pc) where
  out := hout
  running := by
    intro r' h hr'
    simp only [Run.goTo, Next.goOn.injEq] at h
    subst h
    exact hin hr'
  free := by
    intro h
    rw [hlock] at h
    cases h

theorem covers_raised {i : Nat} (hlock : s.lock = some i)
    (hout : ∀ h ∈ s.live.removed, h = g.host ∧ g.hasMon = true) :
    Covers g s .raised where
  out := hout
  running := by simp
  free := by simp [hlock]

theorem covers_ended (succeeded : Bool) (hin : s.live.removed = []) :
    Covers g s (.ended succeeded) where
  out := by simp [hin]
  running := by simp
  free := fun _ => hin

section Command

variable {g : Gate} {s : Site} {r : Run} {o : Outcome} {i : Nat}

theorem prepareStep_covered (hlock : s.lock = some i)
    (hout : ∀ h ∈ s.live.removed, h = g.host ∧ g.hasMon = true)
    (hin : MonIn s.journal r → s.live.removed = [])
    (hfits : r.pc.fits g .prepare) (hcare : Compensated g r.kind o r.pc) :
    Covers g (prepareStep g s r o).1 (prepareStep g s r o).2 := by
  unfold prepareStep
  unfold MonIn at hin
  cases hpc : r.pc with
  | backup | readFlags =>
    rw [hpc] at hin
    exact covers_goTo hlock hout (fun _ => hin trivial)
  | setFlags todo =>
    rw [hpc] at hin
    have hnone := hin trivial
    cases todo with
    | nil => exact covers_goTo hlock hout (fun _ => hnone)
    | cons flag todo =>
      dsimp only
      have hlive : (if o.took then s.live.setFlag flag else s.live).removed =
          s.live.removed := by
        split_ifs <;> rfl
      have hnone' := hlive.trans hnone
      rw [← hlive] at hout
      split_ifs at hout hnone' ⊢
      all_goals exact covers_goTo hlock hout (fun _ => hnone')
  | removeMon =>
    rw [hpc] at hin hcare hfits
    have hnone := hin trivial
    dsimp only
    by_cases hok : o.ok = true
    · have hlive : (if o.took then s.live.monRm g.host else s.live).removed =
          [g.host] := by
        rw [if_pos (Outcome.took_of_ok hok)]
        simp [Live.monRm, hnone]
      have hout' : ∀ h ∈ (if o.took then s.live.monRm g.host else s.live).removed,
          h = g.host ∧ g.hasMon = true := by
        rw [hlive]
        intro h hmem
        exact ⟨List.mem_singleton.mp hmem, hfits.2⟩
      rw [if_pos hok]
      split_ifs at hout' ⊢
      all_goals exact covers_goTo hlock hout' (fun h => by cases h)
    · -- the command did not take effect
      rw [if_neg hok, if_neg (Outcome.not_took hcare hok)]
      exact covers_goTo hlock hout (fun _ => hnone)
  | checkQuorum =>
    rw [hpc] at hin
    dsimp only
    split_ifs
    · exact covers_goTo hlock hout hin
    · exact covers_goTo hlock hout hin
  | markPrepared =>
    rw [hpc] at hin
    dsimp only
    split_ifs
    · exact ⟨hout, by simp, by simp [hlock]⟩
    · exact covers_goTo hlock hout hin
  | _ => exact covers_raised hlock hout

theorem rollbackStep_covered (hlock : s.lock = some i)
    (hout : ∀ h ∈ s.live.removed, h = g.host ∧ g.hasMon = true)
    (hin : MonIn s.journal r → s.live.removed = []) :
    Covers g (rollbackStep g s r o).1 (rollbackStep g s r o).2 := by
  -- what comes after the monitor is only reached clean when it is in
  have hback : ∀ (s' : Site) (r' : Run) (flags : List String) (clean : Bool),
      s'.lock = some i →
      (∀ h ∈ s'.live.removed, h = g.host ∧ g.hasMon = true) →
      (clean = true → s'.live.removed = []) →
      Covers g s' (r'.goTo (afterRejoinBack flags clean)) := by
    intro s' r' flags clean hlock' hout' hin'
    apply covers_goTo hlock' hout'
    unfold afterRejoinBack
    split_ifs
    · exact hin'
    · exact hin'
  unfold rollbackStep
  unfold MonIn at hin
  cases hpc : r.pc with
  | rollbackState =>
    rw [hpc] at hin
    dsimp only
    split_ifs with hread hmarker
    · exact covers_goTo hlock hout (fun h => h.elim)
    · apply hback s r _ true hlock hout
      intro _
      exact hin (by simpa using hmarker)
    · exact covers_raised hlock hout
  | rejoinBack flags =>
    dsimp only
    have hgone := removed_rejoinMon hout
    by_cases hok : o.ok = true
    · have hlive : (if o.took then s.live.rejoinMon g.host else s.live).removed =
          [] := by
        rw [if_pos (Outcome.took_of_ok hok)]
        exact hgone
      rw [if_pos hok]
      split_ifs at hlive ⊢
      all_goals exact hback _ _ _ _ hlock (by simp [hlive]) (fun _ => hlive)
    · have hlive : ∀ h ∈ (if o.took then s.live.rejoinMon g.host
          else s.live).removed, h = g.host ∧ g.hasMon = true := by
        split_ifs
        · simp [hgone]
        · exact hout
      rw [if_neg hok]
      exact hback _ _ _ _ hlock hlive (by simp)
  | readBack flags clean =>
    rw [hpc] at hin
    dsimp only
    split_ifs
    · exact covers_goTo hlock hout hin
    · exact covers_goTo hlock hout (fun h => by cases h)
  | unsetBack todo clean =>
    rw [hpc] at hin
    cases todo with
    | nil =>
      dsimp only
      split_ifs
      · exact covers_goTo hlock hout hin
      · exact covers_goTo hlock hout (fun h => by cases h)
    | cons flag todo =>
      dsimp only
      have hlive : (if o.took then s.live.unsetFlag flag else s.live).removed =
          s.live.removed := by
        split_ifs <;> rfl
      rw [← hlive] at hout hin
      by_cases hok : o.ok = true
      · rw [if_pos hok]
        exact covers_goTo hlock hout hin
      · rw [if_neg hok]
        exact covers_goTo hlock hout (fun h => by cases h)
  | _ => exact covers_raised hlock hout

/-- An `abort` or a `recover`. -/
theorem undoStep_covered (pending : Bool) (hlock : s.lock = some i)
    (hout : ∀ h ∈ s.live.removed, h = g.host ∧ g.hasMon = true)
    (hin : MonIn s.journal r → s.live.removed = [])
    (hfits : r.pc.fits g r.kind) (hcare : Compensated g r.kind o r.pc) :
    Covers g (undoStep pending g s r o).1 (undoStep pending g s r o).2 := by
  unfold undoStep
  unfold MonIn at hin
  cases hpc : r.pc with
  | reinstall =>
    rw [hpc] at hcare
    apply covers_goTo hlock hout
    split_ifs with hok
    · unfold firstUndo
      split_ifs with hmon
      · exact fun h => h.elim
      · intro _
        exact removed_of_not_hasMon hout (by simpa using hmon)
    · intro _
      exact removed_of_not_hasMon hout (hcare.resolve_right hok)
  | rejoin =>
    rw [hpc] at hcare hfits
    have htook : o.took = true := by
      cases hcare with
      | inl hmon =>
        rw [hfits.2] at hmon
        cases hmon
      | inr htook => exact htook
    have hgone := removed_rejoinMon hout
    dsimp only
    rw [if_pos htook]
    exact covers_goTo hlock (by simp [hgone]) (fun _ => hgone)
  | readClear =>
    rw [hpc] at hin
    have hnone := hin trivial
    dsimp only
    split_ifs
    all_goals exact covers_goTo hlock hout (fun _ => hnone)
  | unsetClear todo =>
    rw [hpc] at hin
    have hnone := hin trivial
    cases todo with
    | nil =>
      dsimp only
      split_ifs
      all_goals exact covers_goTo hlock hout (fun _ => hnone)
    | cons flag todo =>
      dsimp only
      have hlive : (if o.took then s.live.unsetFlag flag else s.live).removed =
          s.live.removed := by
        split_ifs <;> rfl
      by_cases habort : r.kind = .abort
      · rw [if_pos habort]
        exact covers_goTo hlock (by rw [hlive]; exact hout)
          (fun _ => hlive.trans hnone)
      · rw [if_neg habort]
        exact covers_goTo hlock hout (fun _ => hnone)
  | markDone =>
    rw [hpc] at hin
    have hnone := hin trivial
    dsimp only
    split_ifs
    · exact covers_ended true hnone
    · exact covers_goTo hlock hout (fun _ => hnone)
  | _ => exact covers_raised hlock hout

theorem failStep_covered (hlock : s.lock = some i)
    (hout : ∀ h ∈ s.live.removed, h = g.host ∧ g.hasMon = true) (release : Bool)
    (hin : release = true → s.live.removed = []) :
    Covers g (failStep g s o release).1 (failStep g s o release).2 := by
  unfold failStep
  split_ifs with hstored hrelease
  · exact covers_ended false (hin hrelease)
  · exact ⟨hout, by simp, by simp [hlock]⟩
  · exact ⟨hout, by simp, by simp [hlock]⟩

theorem runStep_covered (pending : Bool) (hlock : s.lock = some i)
    (hout : ∀ h ∈ s.live.removed, h = g.host ∧ g.hasMon = true)
    (hin : MonIn s.journal r → s.live.removed = [])
    (hfits : r.pc.fits g r.kind) (hcare : Compensated g r.kind o r.pc) :
    Covers g (runStep pending g s r o).1 (runStep pending g s r o).2 := by
  unfold runStep
  cases hpc : r.pc with
  | resolve =>
    unfold MonIn at hin
    rw [hpc] at hin hcare
    apply covers_goTo hlock hout
    split_ifs with hok
    · cases hkind : r.kind with
      | prepare => exact fun _ => hin hkind
      | recover => exact fun h => h.elim
      | abort =>
        unfold firstPhase firstUndo
        dsimp only
        split_ifs with hmon
        · exact fun h => h.elim
        · intro _
          exact removed_of_not_hasMon hout (by simpa using hmon)
    · intro _
      cases hcare with
      | inl hprepare => exact hin hprepare
      | inr hcare =>
        exact removed_of_not_hasMon hout (hcare.resolve_right hok)
  | readFlags | setFlags _ | removeMon | checkQuorum | backup | markPrepared =>
    have hplace : r.pc.fits g .prepare := Pc.fits_prepare hfits (by rw [hpc]; rfl)
    exact prepareStep_covered hlock hout hin hplace hcare
  | rollbackState | rejoinBack _ | readBack _ _ | unsetBack _ _ =>
    exact rollbackStep_covered hlock hout hin
  | reinstall | rejoin | readClear | unsetClear _ | markDone =>
    exact undoStep_covered pending hlock hout hin hfits hcare
  | failing release =>
    unfold MonIn at hin
    rw [hpc] at hin
    exact failStep_covered hlock hout release hin

end Command

/-! ## Runs -/

/-- The monitors that are out are those of the gate with the lock; there is none
while a `prepare` waits, or where a run relies on it. -/
structure Covered (w : World) : Prop where
  ordered : Ordered w
  out : ∀ x ∈ w.live.removed, ∃ i g, w.lock = some i ∧
    Table.get w.gates i = some g ∧ x = g.host ∧ g.hasMon = true
  waiting : ∀ a i, w.origin a = some (i, .prepare) → a ∉ w.entered →
    w.live.removed = []
  running : ∀ t r g, w.phase t = .running r →
    Table.get w.gates r.gateId = some g → MonIn g.journal r → w.live.removed = []

/-- No Action is run twice, a removal that takes effect reports success, and no
`abort` or `recover` of a gate with a monitor fails before that is back. -/
def Careful (w : World) : Label → Prop
  | .enter t => NotEntered w (w.phase t)
  | .work t o => OnRun w (fun g r => Compensated g r.kind o r.pc) (w.phase t)
  | _ => True

instance (w : World) (l : Label) : Decidable (Careful w l) :=
  match l with
  | .enter t => inferInstanceAs (Decidable (NotEntered w (w.phase t)))
  | .work t o =>
    inferInstanceAs (Decidable
      (OnRun w (fun g r => Compensated g r.kind o r.pc) (w.phase t)))
  | .prepareGate .. | .abortGate _ | .confirmGate _ | .approve _ | .reject _
  | .recheck .. | .claim _ | .refuse _ | .record _ | .vanish _ | .reconcile =>
    inferInstanceAs (Decidable True)

theorem Careful.once {l : Label} (h : Careful w l) : Once w l := by
  cases l with
  | enter t => exact h
  | _ => trivial

theorem covered_initial (quorum flags : List String) :
    Covered (World.initial quorum flags) where
  ordered := ordered_initial quorum flags
  out := by simp [World.initial]
  waiting := fun _ _ _ _ => rfl
  running := by simp [World.initial]

section

variable (h : Covered w)
include h

theorem Covered.free (hlock : w.lock = none) : w.live.removed = [] := by
  apply List.eq_nil_iff_forall_not_mem.mpr
  intro x hx
  obtain ⟨i, _, hi, _⟩ := h.out x hx
  rw [hlock] at hi
  cases hi

theorem covered_prepare (hlock : w.lock = none) (host : String)
    (roles : List String) : Covered (w.prepare host roles) where
  ordered := ordered_prepare h.ordered hlock host roles
  out := by
    intro x hx
    have hnone : w.live.removed = [] := h.free hlock
    have hmem : x ∈ w.live.removed := hx
    rw [hnone] at hmem
    cases hmem
  waiting := fun _ _ _ _ => h.free hlock
  running := fun _ _ _ _ _ _ => h.free hlock

theorem covered_request {kind : GateKind} (hg : Table.get w.gates g.id = some g)
    (hstate : g.journal.state = .prepared) (hkind : kind ≠ .prepare) :
    Covered (w.request g.id kind) where
  ordered := ordered_request h.ordered hg hstate hkind
  out := by
    intro x hx
    obtain ⟨i, g', hlock, hg', hhost, hmon⟩ := h.out x hx
    by_cases hi : i = g.id
    · refine ⟨i, request kind (Table.fresh w.actions) g', hlock, ?_, hhost, hmon⟩
      rw [get_request, if_pos hi, hg']
      rfl
    · exact ⟨i, g', hlock, by rw [get_request, if_neg hi]; exact hg', hhost, hmon⟩
  waiting := by
    intro a i ha hnew
    rw [origin_request] at ha
    split_ifs at ha with hfresh
    · cases ha
      exact absurd rfl hkind
    · exact h.waiting a i ha hnew
  running := by
    intro t r g' hrun hg' hin
    have hworks := h.ordered.works t r hrun
    exact h.running t r g' hrun
      (hworks.get_of_kept (kept_request kind hg hstate) hg') hin

theorem covered_start {t : Nat} {x : GateAction}
    (hx : Table.get w.actions x.id = some x) (hnew : x.id ∉ w.entered) :
    Covered (w.start t x) where
  ordered := ordered_start h.ordered hx hnew
  out := h.out
  waiting := by
    intro a i ha hout
    apply h.waiting a i ha
    intro hmem
    exact hout (List.mem_cons_of_mem _ hmem)
  running := by
    intro t' r g hr _ hin
    obtain ⟨_, hr⟩ := h.ordered.running_start hx hnew hr
    subst hr
    have hkind : x.kind = .prepare := hin
    apply h.waiting x.id x.gateId _ hnew
    rw [origin_of_get hx, hkind]

theorem covered_work {t : Nat} {r : Run} {o : Outcome}
    (hrun : w.phase t = .running r) (hg : Table.get w.gates r.gateId = some g)
    (hcare : Compensated g r.kind o r.pc) : Covered (w.work t r g o) := by
  have hworks := h.ordered.works t r hrun
  have hlock := h.ordered.lock_of_waits hworks.waits
  obtain ⟨_, _, hfits⟩ := hworks.gate_of_get hg
  have hself := get_work_self hg t o
  have hout : ∀ x ∈ w.live.removed, x = g.host ∧ g.hasMon = true := by
    intro x hx
    obtain ⟨i, g', hi, hg', hrest⟩ := h.out x hx
    rw [hlock, Option.some.injEq] at hi
    subst hi
    rw [hg, Option.some.injEq] at hg'
    exact hg' ▸ hrest
  have hcovers : Covers g (w.command r g o).1 (w.command r g o).2 :=
    runStep_covered _ hlock hout (h.running t r g hrun hg) hfits hcare
  have hframe : Framed g _ r (w.command r g o).1 (w.command r g o).2 :=
    runStep_frame _ g ⟨w.live, g.journal, w.lock⟩ r o hfits
  constructor
  case ordered => exact ordered_work h.ordered o hrun hg
  case out =>
    intro x hx
    cases hl : (w.command r g o).1.lock with
    | none =>
      have hmem : x ∈ (w.command r g o).1.live.removed := hx
      rw [hcovers.free hl] at hmem
      cases hmem
    | some i =>
      -- a lock that is still held is held by this gate
      have hi : i = r.gateId := by
        cases hframe.lock with
        | inl hkept =>
          rw [hkept, hlock, Option.some.injEq] at hl
          exact hl.symm
        | inr hreleased =>
          have hid : g.id = r.gateId := Table.key_of_get hg
          rw [hreleased.1, hlock, hid, releaseLock, if_pos rfl] at hl
          cases hl
      refine ⟨i, g.write (w.command r g o).1.journal, hl, ?_, hcovers.out x hx⟩
      rw [hi]
      exact hself
  case waiting =>
    intro a i ha hnew
    have hwaits := h.ordered.waits a i .prepare ha hnew
    have ha' := h.ordered.waits_unique hwaits hworks.waits
    rw [ha'] at hnew
    exact absurd hworks.entered hnew
  case running =>
    intro t' r' g' hr' hg' hin
    obtain ⟨_, hnext⟩ := h.ordered.running_work hrun hr'
    obtain ⟨_, hi, _⟩ := hframe.goesOn r' hnext
    rw [hi, hself, Option.some.injEq] at hg'
    subst hg'
    exact hcovers.running r' hnext hin

theorem covered_aside {w' : World} (hstep : Aside w w') :
    Covered w' where
  ordered := ordered_aside h.ordered hstep
  out := by
    rw [hstep.live, hstep.lock, hstep.gates]
    exact h.out
  waiting := by
    intro a i ha hnew
    rw [hstep.origin] at ha
    rw [hstep.entered] at hnew
    rw [hstep.live]
    exact h.waiting a i ha hnew
  running := by
    intro t r g hrun hg hin
    rw [hstep.gates] at hg
    rw [hstep.live]
    exact h.running t r g (hstep.running t r hrun) hg hin

/-- **Step lemma.** -/
theorem covered_step {w' : World} {l : Label} (hcare : Careful w l)
    (hstep : step w l = some w') : Covered w' := by
  cases stepped_of_step hstep with
  | opened host roles hlock => exact covered_prepare h hlock host roles
  | requested _ g kind hg hstate hkind =>
    exact covered_request h (Table.get_of_mem h.ordered.gateKeys hg) hstate hkind
  | started t x hphase hx =>
    exact covered_start h hx (hcare.once.started hphase)
  | worked t o r g hphase hg =>
    have hrun : OnRun w (fun g r => Compensated g r.kind o r.pc) (w.phase t) :=
      hcare
    exact covered_work h hphase hg (hrun.of_running hphase hg)
  | beside _ _ hbeside => exact covered_aside h (aside_of_beside hbeside)

end

/-- **Run lemma.** -/
theorem covered_run (labels : List Label) (w w' : World) (h : Covered w)
    (hmeets : gateSystem.Meets Careful w labels)
    (hrun : gateSystem.run w labels = some w') : Covered w' :=
  gateSystem.run_invariant_of_meets Careful Covered
    (fun _ _ _ hw hC hstep => covered_step hw hC hstep) labels w w' h hmeets hrun

/-- At most one monitor is out because of a gate, and none when the lock is free
or a gate is about to remove one. -/
structure OneOut (w : World) : Prop where
  one : ∀ x ∈ w.live.removed, ∀ y ∈ w.live.removed, x = y
  free : w.lock = none → w.live.removed = []
  removal : ∀ t r, w.phase t = .running r → r.pc = .removeMon →
    w.live.removed = []

/-- **Exclusion.**  While no Action is run twice, removals that take effect
report success, and no `abort` or `recover` fails before the monitor is back, at
most one monitor is out because of a gate. -/
theorem one_monitor_out (quorum flags : List String) (labels : List Label) (w : World)
    (hmeets : gateSystem.Meets Careful (World.initial quorum flags) labels)
    (hrun : gateSystem.run (World.initial quorum flags) labels = some w) : OneOut w := by
  have hcovered := covered_run labels _ w (covered_initial quorum flags) hmeets
    hrun
  constructor
  case one =>
    intro x hx y hy
    obtain ⟨i, g, hi, hg, hhost, _⟩ := hcovered.out x hx
    obtain ⟨i', g', hi', hg', hhost', _⟩ := hcovered.out y hy
    rw [hi, Option.some.injEq] at hi'
    subst hi'
    rw [hg, Option.some.injEq] at hg'
    rw [hhost, hhost', hg']
  case free => exact hcovered.free
  case removal =>
    intro t r hphase hpc
    obtain ⟨g, hg, _⟩ := (hcovered.ordered.works t r hphase).gate
    apply hcovered.running t r g hphase hg
    unfold MonIn
    rw [hpc]
    trivial

/-- A monitor is taken out of three, and the gate is aborted. -/
def abortedRun : List Label :=
  [.prepareGate "a" ["MON"]] ++ executed 0 1 (List.replicate 5 Outcome.success) ++
    [.abortGate "a"] ++ executed 0 2 (List.replicate 3 Outcome.success)

theorem one_monitor_out_abortedRun : ∃ w,
    gateSystem.run (World.initial ["a", "b", "c"] []) abortedRun = some w ∧
      w.live.quorum = ["b", "c", "a"] ∧ OneOut w := by
  have hview : (gateSystem.run (World.initial ["a", "b", "c"] [])
      abortedRun).map (fun w => w.live.quorum) = some ["b", "c", "a"] := by
    decide +kernel
  obtain ⟨w, hrun, hquorum⟩ := Option.map_eq_some_iff.mp hview
  refine ⟨w, hrun, hquorum, ?_⟩
  exact one_monitor_out ["a", "b", "c"] [] abortedRun w (by decide +kernel) hrun

/-- The `abort` fails to bring the monitor back, and a second node is prepared. -/
def secondGateRun : List Label :=
  [.prepareGate "a" ["MON"]] ++ executed 0 1 (List.replicate 5 Outcome.success) ++
    [.abortGate "a"] ++
    executed 0 2 [Outcome.success, Outcome.error, Outcome.success] ++
    [.prepareGate "b" ["MON"]] ++ executed 0 3 (List.replicate 5 Outcome.success)

/-- Two monitors of three are out. -/
theorem second_monitor_removed :
    ¬ ∀ (quorum flags : List String) (labels : List Label) (w : World),
      gateSystem.run (World.initial quorum flags) labels = some w →
        OneOut w := by
  intro h
  have hview : (gateSystem.run (World.initial ["a", "b", "c"] [])
      secondGateRun).map (fun w => (w.live.quorum, w.live.removed)) =
        some (["c"], ["b", "a"]) := by
    decide +kernel
  obtain ⟨w, hrun, hlive⟩ := Option.map_eq_some_iff.mp hview
  rw [Prod.mk.injEq] at hlive
  have hone := (h ["a", "b", "c"] [] secondGateRun w hrun).one
  rw [hlive.2] at hone
  have hne := hone "b" (by simp) "a" (by simp)
  exact absurd hne (by decide)

end CephAi.Ports.GateQuorum
