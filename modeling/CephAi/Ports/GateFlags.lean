import CephAi.Ports.GateQuorum

/-!
# What a node OS gate undoes

`prepare` sets the maintenance flags that are not set and records each one; a
failed `prepare`, `abort` and `recover` clear flags by three different rules.  A
rollback and an `abort` clear what was recorded, a `recover` clears every
maintenance flag, by one command whose parts can fail separately.  A flag that was
set although the command reported an error is not recorded.

## Main results

* `runStep_tracked` — what a command does to the flags that are to be undone.
* `gate_restored` — when what was set is recorded and undone before the lock is
  released, a gate that ended has restored the flags and the quorum, and no flag
  of the operator is ever cleared.
-/

namespace CephAi.Ports.GateFlags

open Verified Verified.Compensation NodeOsGate
open GateRuns GateQuorum

/-! ## What is to be undone -/

/-- The flags a run has to undo: what its rollback reads, or what is left of it.
It is not known any more when a rollback failed. -/
def owedFlags (j : Journal) (r : Run) : Option (List String) :=
  match r.pc with
  | .resolve | .backup | .readFlags | .setFlags _ | .removeMon | .checkQuorum
  | .markPrepared | .rollbackState | .reinstall | .rejoin | .readClear =>
    some (r.flagsAdded.getD j.maintenanceFlagsAdded)
  | .rejoinBack flags | .readBack flags _ => some flags
  | .unsetBack todo _ | .unsetClear todo => some todo
  | .markDone => some []
  | .failing release => if release then some [] else none

/-- The markers in memory and in the row agree until one of them could not be
stored, and an `abort` and a `recover` read the row. -/
def Placed (g : Gate) (j : Journal) (l : Live) (r : Run) : Prop :=
  match r.pc with
  | .resolve =>
    r.flagsAdded = none ∧ (r.kind = .prepare → j.maintenanceFlagsAdded = [])
  | .backup | .readFlags | .removeMon | .checkQuorum | .markPrepared =>
    r.flagsAdded.getD [] = j.maintenanceFlagsAdded
  | .setFlags todo =>
    r.flagsAdded.getD [] = j.maintenanceFlagsAdded ∧ todo.Nodup ∧
      ∀ f ∈ todo, f ∈ maintenanceFlags ∧ f ∉ l.flags
  | .rejoinBack _ => g.hasMon = true
  | .reinstall | .rejoin | .readClear => r.flagsAdded = none
  | .rollbackState | .readBack .. | .unsetBack .. | .unsetClear _ | .markDone
  | .failing _ => True

/-- A run knows what it has to undo. -/
structure Tracks (g : Gate) (b : Live) (s : Site) (r : Run) : Prop where
  owed : ∀ flags, owedFlags s.journal r = some flags →
    Owed s.live.flags b.flags flags
  placed : Placed g s.journal s.live r
  marker : r.monRemoved = some true → g.hasMon = true

/-- What a row records fits the roles of its node. -/
structure Proper (g : Gate) (j : Journal) : Prop where
  osd : g.hasOsd = false → j.maintenanceFlagsAdded = []
  known : ∀ f ∈ j.maintenanceFlagsAdded, f ∈ maintenanceFlags
  mon : j.monRemoved = true → g.hasMon = true

/-- No flag of the operator was cleared, and the monitors that are not in are
the removed ones. -/
structure Sound (g : Gate) (b : Live) (s : Site) : Prop where
  kept : Keeps s.live.flags b.flags
  quorate : ∀ h, h ∈ s.live.quorum ↔ h ∈ b.quorum ∧ h ∉ s.live.removed
  proper : Proper g s.journal

/-- What a command leaves. -/
structure Tracked (g : Gate) (b : Live) (s : Site) (next : Next) : Prop where
  sound : Sound g b s
  running : ∀ r, next = .goOn r → Tracks g b s r
  prepared : s.journal.state = .prepared →
    Owed s.live.flags b.flags s.journal.maintenanceFlagsAdded
  free : s.lock = none → Owed s.live.flags b.flags []
  done : s.journal.state = .done → s.lock = none

/-- A flag that is set is recorded, and an `abort` or a `recover` does not fail
before the flags are cleared; a `recover` finds no flag but the recorded ones,
and clears them all. -/
def Undone (j : Journal) (l : Live) (k : GateKind) (o : Outcome) : Pc → Prop
  | .setFlags (_ :: _) => o.applied = true → o.ok = true
  | .resolve => k = .prepare ∨ j.maintenanceFlagsAdded = [] ∨ o.ok = true
  | .reinstall | .rejoin => j.maintenanceFlagsAdded = [] ∨ o.ok = true
  | .readClear =>
    (j.maintenanceFlagsAdded = [] ∨ (o.ok = true ∧ o.stored = true)) ∧
      (k = .recover → o.ok = true → o.stored = true →
        ∀ f ∈ maintenanceFlags, f ∈ l.flags → f ∈ j.maintenanceFlagsAdded)
  | .unsetClear (flag :: todo) =>
    (k = .abort → o.ok = true ∨ (o.applied = true ∧ todo = [])) ∧
      (k ≠ .abort → ∀ f ∈ flag :: todo, f ∈ o.cleared)
  | _ => True

instance (j : Journal) (l : Live) (k : GateKind) (o : Outcome) (pc : Pc) :
    Decidable (Undone j l k o pc) :=
  match pc with
  | .setFlags (_ :: _) =>
    inferInstanceAs (Decidable (o.applied = true → o.ok = true))
  | .resolve =>
    inferInstanceAs (Decidable
      (k = .prepare ∨ j.maintenanceFlagsAdded = [] ∨ o.ok = true))
  | .reinstall | .rejoin =>
    inferInstanceAs (Decidable (j.maintenanceFlagsAdded = [] ∨ o.ok = true))
  | .readClear =>
    inferInstanceAs (Decidable
      ((j.maintenanceFlagsAdded = [] ∨ (o.ok = true ∧ o.stored = true)) ∧
        (k = .recover → o.ok = true → o.stored = true →
          ∀ f ∈ maintenanceFlags, f ∈ l.flags → f ∈ j.maintenanceFlagsAdded)))
  | .unsetClear (flag :: todo) =>
    inferInstanceAs (Decidable
      ((k = .abort → o.ok = true ∨ (o.applied = true ∧ todo = [])) ∧
        (k ≠ .abort → ∀ f ∈ flag :: todo, f ∈ o.cleared)))
  | .setFlags [] | .unsetClear [] | .backup | .readFlags | .removeMon
  | .checkQuorum | .markPrepared | .rollbackState | .rejoinBack _ | .readBack ..
  | .unsetBack .. | .markDone | .failing _ => inferInstanceAs (Decidable True)

/-! ## Commands -/

variable {b : Live} {g : Gate} {r : Run} {s : Site} {w : World}

theorem quorate_monRm {l : Live} (host : String)
    (h : ∀ x, x ∈ l.quorum ↔ x ∈ b.quorum ∧ x ∉ l.removed) (x : String) :
    x ∈ (l.monRm host).quorum ↔ x ∈ b.quorum ∧ x ∉ (l.monRm host).removed := by
  show x ∈ Compensation.remove l.quorum host ↔ x ∈ b.quorum ∧ x ∉ host :: l.removed
  rw [mem_remove, h x, List.mem_cons, not_or]
  constructor
  · rintro ⟨⟨hbase, hout⟩, hne⟩
    exact ⟨hbase, hne, hout⟩
  · rintro ⟨hbase, hne, hout⟩
    exact ⟨⟨hbase, hout⟩, hne⟩

theorem quorate_rejoinMon {l : Live} {host : String} (hhost : host ∈ b.quorum)
    (h : ∀ x, x ∈ l.quorum ↔ x ∈ b.quorum ∧ x ∉ l.removed) (x : String) :
    x ∈ (l.rejoinMon host).quorum ↔
      x ∈ b.quorum ∧ x ∉ (l.rejoinMon host).removed := by
  show x ∈ Compensation.add l.quorum host ↔
    x ∈ b.quorum ∧ x ∉ Compensation.remove l.removed host
  rw [mem_add, mem_remove, h x]
  by_cases hx : x = host
  · simp [hx, hhost]
  · simp [hx]

variable {i : Nat}

theorem tracked_raised {k : GateKind} (hsound : Sound g b s) (hlock : s.lock = some i)
    (hstate : s.journal.state = k.state) : Tracked g b s .raised where
  sound := hsound
  running := by simp
  prepared := fun h => absurd (hstate.symm.trans h) (GateKind.state_ne_prepared k)
  free := by
    intro h
    rw [hlock] at h
    cases h
  done := by
    intro h
    rw [hstate] at h
    cases k <;> cases h

theorem tracked_goTo {pc : Pc} {k : GateKind} (hsound : Sound g b s) (hlock : s.lock = some i)
    (hstate : s.journal.state = k.state) (htracks : Tracks g b s { r with pc := pc }) :
    Tracked g b s (r.goTo pc) :=
  { tracked_raised hsound hlock hstate with
    running := by
      intro r' h
      simp only [Run.goTo, Next.goOn.injEq] at h
      exact h ▸ htracks }

theorem tracks_at (flags : List String) (hflags : owedFlags s.journal r = some flags)
    (howed : Owed s.live.flags b.flags flags) (hplaced : Placed g s.journal s.live r)
    (hmarker : r.monRemoved = some true → g.hasMon = true) : Tracks g b s r where
  owed := by
    intro flags' h
    rw [hflags, Option.some.injEq] at h
    exact h ▸ howed
  placed := hplaced
  marker := hmarker

theorem tracks_failed (hmarker : r.monRemoved = some true → g.hasMon = true) :
    Tracks g b s { r with pc := .failing false } where
  owed := by simp [owedFlags]
  placed := trivial
  marker := hmarker

theorem getD_self {α : Type _} {o : Option (List α)} {l : List α}
    (h : o.getD [] = l) : o.getD l = l := by
  cases o with
  | none => rfl
  | some l' => exact h

section Command

variable {g : Gate} {b : Live} {s : Site} {r : Run} {o : Outcome} {i : Nat}
  {k : GateKind}

theorem tracks_afterFlags (howed : Owed s.live.flags b.flags (r.flagsAdded.getD []))
    (hplaced : r.flagsAdded.getD [] = s.journal.maintenanceFlagsAdded)
    (hmarker : r.monRemoved = some true → g.hasMon = true) :
    Tracks g b s { r with pc := afterFlags g } := by
  have hself : r.flagsAdded.getD s.journal.maintenanceFlagsAdded =
      r.flagsAdded.getD [] := (getD_self hplaced).trans hplaced.symm
  unfold afterFlags
  split_ifs
  · exact tracks_at _ rfl (hself ▸ howed) hplaced hmarker
  · exact tracks_at _ rfl (hself ▸ howed) hplaced hmarker

theorem tracks_rollbackState
    (howed : Owed s.live.flags b.flags (r.flagsAdded.getD s.journal.maintenanceFlagsAdded))
    (hmarker : r.monRemoved = some true → g.hasMon = true) :
    Tracks g b s { r with pc := .rollbackState } :=
  tracks_at _ rfl howed trivial hmarker

theorem setFlags_tracked {todo : List String} (hpc : r.pc = .setFlags todo) (hsound : Sound g b s)
    (hlock : s.lock = some i) (hstate : s.journal.state = k.state) (htracks : Tracks g b s r)
    (hfits : r.pc.fits g .prepare) (hcare : Undone s.journal s.live r.kind o r.pc) :
    Tracked g b (prepareStep g s r o).1 (prepareStep g s r o).2 := by
  have hplaced := htracks.placed
  have hmarker := htracks.marker
  unfold Placed at hplaced
  rw [prepareStep, hpc]
  rw [hpc] at hplaced
  obtain ⟨hplaced, hnodup, htodo⟩ := hplaced
  have howed := htracks.owed (r.flagsAdded.getD s.journal.maintenanceFlagsAdded)
    (by rw [owedFlags, hpc])
  rw [getD_self hplaced, ← hplaced] at howed
  cases todo with
  | nil =>
    exact tracked_goTo hsound hlock hstate
      (tracks_afterFlags howed hplaced hmarker)
  | cons flag todo =>
    rw [hpc] at hcare hfits
    dsimp only
    obtain ⟨hflag, hnew⟩ := htodo flag List.mem_cons_self
    by_cases hok : o.ok = true
    · rw [if_pos hok, if_pos (Outcome.took_of_ok hok)]
      have howed' := howed.add hnew
      have hkept : Keeps (s.live.setFlag flag).flags b.flags :=
        hsound.kept.add flag
      split_ifs
      · have hproper : Proper g { s.journal with
            maintenanceFlagsAdded := r.flagsAdded.getD [] ++ [flag] } := by
          constructor
          · intro hosd
            rw [hfits.2] at hosd
            cases hosd
          · intro f hf
            rw [hplaced] at hf
            cases List.mem_append.mp hf with
            | inl hf => exact hsound.proper.known f hf
            | inr hf => exact List.mem_singleton.mp hf ▸ hflag
          · exact hsound.proper.mon
        refine tracked_goTo ⟨hkept, hsound.quorate, hproper⟩ hlock hstate
          (tracks_at _ rfl howed' ⟨rfl, hnodup.of_cons, ?_⟩ hmarker)
        intro f hf
        refine ⟨(htodo f (List.mem_cons_of_mem _ hf)).1, ?_⟩
        intro hmem
        cases mem_add.mp hmem with
        | inl hlive => exact (htodo f (List.mem_cons_of_mem _ hf)).2 hlive
        | inr heq => exact (List.nodup_cons.mp hnodup).1 (heq ▸ hf)
      · exact tracked_goTo ⟨hkept, hsound.quorate, hsound.proper⟩ hlock hstate
          (tracks_rollbackState howed' hmarker)
    · -- the command did not take effect
      rw [if_neg hok, if_neg (Outcome.not_took hcare hok)]
      apply tracked_goTo hsound hlock hstate
      apply tracks_rollbackState _ hmarker
      rw [getD_self hplaced, ← hplaced]
      exact howed

theorem removeMon_tracked (hpc : r.pc = .removeMon) (hsound : Sound g b s) (hlock : s.lock = some i)
    (hstate : s.journal.state = k.state) (htracks : Tracks g b s r) (hfits : r.pc.fits g .prepare) :
    Tracked g b (prepareStep g s r o).1 (prepareStep g s r o).2 := by
  have hplaced := htracks.placed
  have hmarker := htracks.marker
  unfold Placed at hplaced
  rw [prepareStep, hpc]
  rw [hpc] at hplaced hfits
  have howed := htracks.owed (r.flagsAdded.getD s.journal.maintenanceFlagsAdded)
    (by rw [owedFlags, hpc])
  have hmon := hfits.2
  dsimp only
  have hflags : (if o.took then s.live.monRm g.host else s.live).flags =
      s.live.flags := by
    split_ifs <;> rfl
  have hquorate : ∀ h,
      h ∈ (if o.took then s.live.monRm g.host else s.live).quorum ↔
        h ∈ b.quorum ∧
          h ∉ (if o.took then s.live.monRm g.host else s.live).removed := by
    split_ifs
    · exact quorate_monRm g.host hsound.quorate
    · exact hsound.quorate
  revert hflags hquorate
  generalize (if o.took then s.live.monRm g.host else s.live) = live
  intro hflags hquorate
  have hkept : Keeps live.flags b.flags := hflags ▸ hsound.kept
  rw [← hflags] at howed
  split_ifs
  · refine tracked_goTo ⟨hkept, hquorate, ?_⟩ hlock hstate
      (tracks_at _ rfl howed hplaced (fun _ => hmon))
    exact ⟨hsound.proper.osd, hsound.proper.known, fun _ => hmon⟩
  · exact tracked_goTo ⟨hkept, hquorate, hsound.proper⟩ hlock hstate
      (tracks_at _ rfl howed trivial (fun _ => hmon))
  · exact tracked_goTo ⟨hkept, hquorate, hsound.proper⟩ hlock hstate
      (tracks_at _ rfl howed trivial hmarker)

theorem prepareStep_tracked (hsound : Sound g b s) (hlock : s.lock = some i)
    (hstate : s.journal.state = k.state) (htracks : Tracks g b s r) (hfits : r.pc.fits g .prepare)
    (hcare : Undone s.journal s.live r.kind o r.pc) :
    Tracked g b (prepareStep g s r o).1 (prepareStep g s r o).2 := by
  have hplaced := htracks.placed
  have hmarker := htracks.marker
  unfold Placed at hplaced
  cases hpc : r.pc with
  | backup =>
    rw [prepareStep, hpc]
    rw [hpc] at hplaced
    have howed := htracks.owed (r.flagsAdded.getD s.journal.maintenanceFlagsAdded)
      (by rw [owedFlags, hpc])
    apply tracked_goTo hsound hlock hstate
    split_ifs
    · exact tracks_at _ rfl howed hplaced hmarker
    · rw [getD_self hplaced] at howed
      exact tracks_afterFlags (hplaced ▸ howed) hplaced hmarker
    · exact tracks_rollbackState howed hmarker
  | readFlags =>
    rw [prepareStep, hpc]
    rw [hpc] at hplaced
    have howed := htracks.owed (r.flagsAdded.getD s.journal.maintenanceFlagsAdded)
      (by rw [owedFlags, hpc])
    apply tracked_goTo hsound hlock hstate
    split_ifs
    · refine tracks_at _ rfl howed ⟨hplaced, ?_, ?_⟩ hmarker
      · exact List.Nodup.sublist List.filter_sublist (by decide)
      · intro f hf
        obtain ⟨hmem, hout⟩ := List.mem_filter.mp hf
        exact ⟨hmem, by simpa using hout⟩
    · exact tracks_rollbackState howed hmarker
  | setFlags todo => exact setFlags_tracked hpc hsound hlock hstate htracks hfits hcare
  | removeMon => exact removeMon_tracked hpc hsound hlock hstate htracks hfits
  | checkQuorum =>
    rw [prepareStep, hpc]
    rw [hpc] at hplaced
    have howed := htracks.owed (r.flagsAdded.getD s.journal.maintenanceFlagsAdded)
      (by rw [owedFlags, hpc])
    apply tracked_goTo hsound hlock hstate
    split_ifs
    · exact tracks_at _ rfl howed hplaced hmarker
    · exact tracks_rollbackState howed hmarker
  | markPrepared =>
    rw [prepareStep, hpc]
    rw [hpc] at hplaced
    have howed := htracks.owed (r.flagsAdded.getD s.journal.maintenanceFlagsAdded)
      (by rw [owedFlags, hpc])
    dsimp only
    split_ifs
    · rw [getD_self hplaced] at howed
      refine ⟨⟨hsound.kept, hsound.quorate, ?_⟩, by simp, fun _ => howed, ?_, by simp⟩
      · exact ⟨hsound.proper.osd, hsound.proper.known, hsound.proper.mon⟩
      · simp [hlock]
    · exact tracked_goTo hsound hlock hstate (tracks_rollbackState howed hmarker)
  | _ =>
    rw [prepareStep, hpc]
    exact tracked_raised hsound hlock hstate

theorem tracks_failing {release : Bool} (howed : release = true → Owed s.live.flags b.flags [])
    (hmarker : r.monRemoved = some true → g.hasMon = true) :
    Tracks g b s { r with pc := .failing release } := by
  cases release with
  | false => exact tracks_failed hmarker
  | true => exact tracks_at [] rfl (howed rfl) trivial hmarker

theorem tracks_afterRejoinBack {flags : List String} {clean : Bool}
    (howed : Owed s.live.flags b.flags flags)
    (hmarker : r.monRemoved = some true → g.hasMon = true) :
    Tracks g b s { r with pc := afterRejoinBack flags clean } := by
  unfold afterRejoinBack
  split_ifs with hflags
  · exact tracks_failing (fun _ => hflags ▸ howed) hmarker
  · exact tracks_at flags rfl howed trivial hmarker

theorem sound_rejoin (took : Bool) (hsound : Sound g b s) (hhome : g.host ∈ b.quorum) :
    Sound g b ⟨if took then s.live.rejoinMon g.host else s.live, s.journal, s.lock⟩ ∧
      (if took then s.live.rejoinMon g.host else s.live).flags = s.live.flags := by
  cases took with
  | false => exact ⟨hsound, rfl⟩
  | true =>
    exact ⟨⟨hsound.kept, quorate_rejoinMon hhome hsound.quorate, hsound.proper⟩,
      rfl⟩

theorem sound_unset {flag : String} (took : Bool) (hsound : Sound g b s) (hnew : flag ∉ b.flags) :
    Sound g b ⟨if took then s.live.unsetFlag flag else s.live, s.journal, s.lock⟩ := by
  cases took with
  | false => exact hsound
  | true => exact ⟨hsound.kept.remove hnew, hsound.quorate, hsound.proper⟩

theorem rollbackStep_tracked (hsound : Sound g b s) (hlock : s.lock = some i)
    (hstate : s.journal.state = k.state) (htracks : Tracks g b s r)
    (hhome : g.hasMon = true → g.host ∈ b.quorum) :
    Tracked g b (rollbackStep g s r o).1 (rollbackStep g s r o).2 := by
  have hplaced := htracks.placed
  have hmarker := htracks.marker
  unfold Placed at hplaced
  unfold rollbackStep
  cases hpc : r.pc with
  | rollbackState =>
    have howed := htracks.owed (r.flagsAdded.getD s.journal.maintenanceFlagsAdded)
      (by rw [owedFlags, hpc])
    dsimp only
    split_ifs with _ hremoved
    · have hmon : g.hasMon = true := by
        cases hmemory : r.monRemoved with
        | none =>
          rw [hmemory] at hremoved
          exact hsound.proper.mon hremoved
        | some removed =>
          rw [hmemory] at hremoved
          exact hmarker (hmemory.trans (congrArg some hremoved))
      exact tracked_goTo hsound hlock hstate (tracks_at _ rfl howed hmon hmarker)
    · exact tracked_goTo hsound hlock hstate (tracks_afterRejoinBack howed hmarker)
    · exact tracked_raised hsound hlock hstate
  | rejoinBack flags =>
    rw [hpc] at hplaced
    have howed := htracks.owed flags (by rw [owedFlags, hpc])
    obtain ⟨hsound', hflags⟩ := sound_rejoin o.took hsound (hhome hplaced)
    rw [← hflags] at howed
    dsimp only
    revert hsound' howed
    generalize (if o.took then s.live.rejoinMon g.host else s.live) = live
    intro howed hsound'
    split_ifs
    · refine tracked_goTo ⟨hsound'.kept, hsound'.quorate, ?_⟩ hlock hstate
        (tracks_afterRejoinBack howed (by simp))
      exact ⟨hsound.proper.osd, hsound.proper.known, by simp⟩
    · exact tracked_goTo hsound' hlock hstate
        (tracks_afterRejoinBack howed (by simp))
    · exact tracked_goTo hsound' hlock hstate
        (tracks_afterRejoinBack howed hmarker)
  | readBack flags clean =>
    have howed := htracks.owed flags (by rw [owedFlags, hpc])
    apply tracked_goTo hsound hlock hstate
    split_ifs
    · refine tracks_at _ rfl (howed.present ?_ ?_) trivial hmarker
      · intro f hf hlive
        exact List.mem_filter.mpr ⟨hf, by simpa using hlive⟩
      · intro f hf
        exact howed.new f (List.mem_filter.mp hf).1
    · exact tracks_failed hmarker
  | unsetBack todo clean =>
    have howed := htracks.owed todo (by rw [owedFlags, hpc])
    cases todo with
    | nil =>
      dsimp only
      split_ifs
      · refine tracked_goTo ⟨hsound.kept, hsound.quorate, ?_⟩ hlock hstate
          (tracks_failing (fun _ => howed) hmarker)
        exact ⟨fun _ => rfl, by simp, hsound.proper.mon⟩
      · exact tracked_goTo hsound hlock hstate (tracks_failed hmarker)
    | cons flag todo =>
      have hsound' := sound_unset o.took hsound
        (howed.new flag List.mem_cons_self)
      dsimp only
      apply tracked_goTo hsound' hlock hstate
      by_cases hok : o.ok = true
      · rw [if_pos hok, if_pos (Outcome.took_of_ok hok)]
        exact tracks_at todo rfl howed.remove trivial hmarker
      · rw [if_neg hok]
        exact tracks_failed hmarker
  | _ => exact tracked_raised hsound hlock hstate

theorem tracks_afterRejoin (hproper : Proper g s.journal) (hmemory : r.flagsAdded = none)
    (howed : Owed s.live.flags b.flags s.journal.maintenanceFlagsAdded)
    (hmarker : r.monRemoved = some true → g.hasMon = true) :
    Tracks g b s { r with pc := afterRejoin g } := by
  unfold afterRejoin
  split_ifs with hosd
  · exact tracks_at _ (by simp [owedFlags, hmemory]) howed hmemory hmarker
  · have hnone := hproper.osd (by simpa using hosd)
    rw [hnone] at howed
    exact tracks_at [] rfl howed trivial hmarker

theorem tracks_firstUndo (hproper : Proper g s.journal) (hmemory : r.flagsAdded = none)
    (howed : Owed s.live.flags b.flags s.journal.maintenanceFlagsAdded)
    (hmarker : r.monRemoved = some true → g.hasMon = true) :
    Tracks g b s { r with pc := firstUndo g } := by
  unfold firstUndo
  split_ifs
  · exact tracks_at _ (by simp [owedFlags, hmemory]) howed hmemory hmarker
  · exact tracks_afterRejoin hproper hmemory howed hmarker

theorem readClear_tracked (hpc : r.pc = .readClear) (hsound : Sound g b s)
    (hlock : s.lock = some g.id) (hstate : s.journal.state = k.state) (htracks : Tracks g b s r)
    (hfits : r.pc.fits g r.kind) (hcare : Undone s.journal s.live r.kind o r.pc) :
    Tracked g b (undoStep false g s r o).1 (undoStep false g s r o).2 := by
  have hplaced := htracks.placed
  have hmarker := htracks.marker
  unfold Placed at hplaced
  rw [undoStep, hpc]
  rw [hpc] at hplaced hcare hfits
  have howed := htracks.owed s.journal.maintenanceFlagsAdded
    (by simp [owedFlags, hpc, hplaced])
  obtain ⟨hread, hrecover⟩ := hcare
  dsimp only
  rw [hplaced, Option.getD_none]
  -- a failure to read is harmless when nothing is owed
  have hfail : ¬ (o.ok = true ∧ o.stored = true) →
      Tracked g b s (r.goTo (.failing true)) := by
    intro hnot
    have hnone := hread.resolve_right hnot
    exact tracked_goTo hsound hlock hstate
      (tracks_failing (fun _ => hnone ▸ howed) hmarker)
  by_cases hstored : o.stored = true
  · rw [if_neg (not_not_intro hstored)]
    by_cases hnone : (if r.kind = .abort then s.journal.maintenanceFlagsAdded
        else maintenanceFlags) = [] ∨ false = true
    · rw [if_pos hnone]
      have habort : s.journal.maintenanceFlagsAdded = [] := by
        split_ifs at hnone with hkind
        · simpa using hnone
        · simp [maintenanceFlags] at hnone
      exact tracked_goTo hsound hlock hstate
        (tracks_at [] rfl (habort ▸ howed) trivial hmarker)
    · rw [if_neg hnone]
      by_cases hok : o.ok = true
      · rw [if_pos hok]
        apply tracked_goTo hsound hlock hstate
        refine tracks_at _ rfl (howed.present ?_ ?_) trivial hmarker
        · intro f hf hlive
          apply List.mem_filter.mpr
          refine ⟨?_, by simpa using hlive⟩
          split_ifs
          · exact hf
          · exact hsound.proper.known f hf
        · intro f hf
          obtain ⟨hmem, hlive⟩ := List.mem_filter.mp hf
          apply howed.new f
          split_ifs at hmem with hkind
          · exact hmem
          · have hkind' : r.kind = .recover := by
              cases h : r.kind with
              | prepare => exact absurd h hfits.1
              | abort => exact absurd h hkind
              | recover => rfl
            exact hrecover hkind' hok hstored f hmem (by simpa using hlive)
      · rw [if_neg hok]
        exact hfail (fun h => hok h.1)
  · rw [if_pos hstored]
    exact hfail (fun h => hstored h.2)

theorem unsetClear_tracked {todo : List String} (hpc : r.pc = .unsetClear todo)
    (hsound : Sound g b s) (hlock : s.lock = some g.id) (hstate : s.journal.state = k.state)
    (htracks : Tracks g b s r) (hcare : Undone s.journal s.live r.kind o r.pc) :
    Tracked g b (undoStep false g s r o).1 (undoStep false g s r o).2 := by
  have hmarker := htracks.marker
  rw [undoStep, hpc]
  have howed := htracks.owed todo (by rw [owedFlags, hpc])
  cases todo with
  | nil =>
    dsimp only
    split_ifs
    · refine tracked_goTo ⟨hsound.kept, hsound.quorate, ?_⟩ hlock hstate
        (tracks_at [] rfl howed trivial hmarker)
      exact ⟨fun _ => rfl, by simp, hsound.proper.mon⟩
    · exact tracked_goTo hsound hlock hstate
        (tracks_failing (fun _ => howed) hmarker)
    · exact tracked_goTo hsound hlock hstate
        (tracks_at [] rfl howed trivial hmarker)
  | cons flag todo =>
    rw [hpc] at hcare
    obtain ⟨hone, hjoined⟩ := hcare
    dsimp only
    by_cases hkind : r.kind = .abort
    · rw [if_pos hkind]
      have hsound' := sound_unset o.took hsound
        (howed.new flag List.mem_cons_self)
      apply tracked_goTo hsound' hlock hstate
      by_cases hok : o.ok = true
      · rw [if_pos hok, if_pos (Outcome.took_of_ok hok)]
        exact tracks_at todo rfl howed.remove trivial hmarker
      · obtain ⟨happlied, hlast⟩ := (hone hkind).resolve_left hok
        rw [if_neg hok, if_pos (by simp [Outcome.took, happlied])]
        exact tracks_failing (fun _ => hlast ▸ howed.remove) hmarker
    · rw [if_neg hkind]
      have hnew : ∀ f ∈ o.cleared.filter (fun f => (flag :: todo).contains f),
          f ∉ b.flags := by
        intro f hf
        apply howed.new f
        simpa using (List.mem_filter.mp hf).2
      have hclear := howed.removeAll (fun f hf => List.mem_filter.mpr
        ⟨hjoined hkind f hf, by simpa using hf⟩) hnew
      refine tracked_goTo ⟨hsound.kept.removeAll hnew, hsound.quorate,
        hsound.proper⟩ hlock hstate ?_
      split_ifs
      · exact tracks_at [] rfl hclear trivial hmarker
      · exact tracks_failing (fun _ => hclear) hmarker

/-- An `abort` or a `recover`. -/
theorem undoStep_tracked (hsound : Sound g b s) (hlock : s.lock = some g.id)
    (hstate : s.journal.state = k.state) (htracks : Tracks g b s r)
    (hhome : g.hasMon = true → g.host ∈ b.quorum) (hfits : r.pc.fits g r.kind)
    (hcare : Undone s.journal s.live r.kind o r.pc) :
    Tracked g b (undoStep false g s r o).1 (undoStep false g s r o).2 := by
  have hplaced := htracks.placed
  have hmarker := htracks.marker
  unfold Placed at hplaced
  cases hpc : r.pc with
  | reinstall =>
    rw [undoStep, hpc]
    rw [hpc] at hplaced hcare
    have howed := htracks.owed s.journal.maintenanceFlagsAdded
      (by simp [owedFlags, hpc, hplaced])
    apply tracked_goTo hsound hlock hstate
    split_ifs with hok
    · exact tracks_firstUndo hsound.proper hplaced howed hmarker
    · have hnone := hcare.resolve_right hok
      exact tracks_failing (fun _ => hnone ▸ howed) hmarker
  | rejoin =>
    rw [undoStep, hpc]
    rw [hpc] at hplaced hcare hfits
    have howed := htracks.owed s.journal.maintenanceFlagsAdded
      (by simp [owedFlags, hpc, hplaced])
    obtain ⟨hsound', hflags⟩ := sound_rejoin o.took hsound (hhome hfits.2)
    rw [← hflags] at howed
    dsimp only
    apply tracked_goTo hsound' hlock hstate
    by_cases hok : o.ok = true
    · rw [if_pos hok]
      exact tracks_afterRejoin hsound.proper hplaced howed hmarker
    · rw [if_neg hok]
      have hnone := hcare.resolve_right hok
      exact tracks_failing (fun _ => hnone ▸ howed) hmarker
  | readClear => exact readClear_tracked hpc hsound hlock hstate htracks hfits hcare
  | unsetClear todo => exact unsetClear_tracked hpc hsound hlock hstate htracks hcare
  | markDone =>
    rw [undoStep, hpc]
    have howed := htracks.owed [] (by rw [owedFlags, hpc])
    dsimp only
    split_ifs
    · refine ⟨⟨hsound.kept, hsound.quorate, ?_⟩, by simp, by simp, fun _ => howed,
        ?_⟩
      · exact ⟨hsound.proper.osd, hsound.proper.known, hsound.proper.mon⟩
      · intro _
        show releaseLock s.lock g.id = none
        rw [hlock, releaseLock, if_pos rfl]
    · exact tracked_goTo hsound hlock hstate
        (tracks_failing (fun _ => howed) hmarker)
  | _ =>
    rw [undoStep, hpc]
    exact tracked_raised hsound hlock hstate

theorem failStep_tracked (hsound : Sound g b s) (hlock : s.lock = some i)
    (hstate : s.journal.state = k.state) (release : Bool)
    (howed : release = true → Owed s.live.flags b.flags []) :
    Tracked g b (failStep g s o release).1 (failStep g s o release).2 := by
  have hproper : Proper g { s.journal with state := .failed } :=
    ⟨hsound.proper.osd, hsound.proper.known, hsound.proper.mon⟩
  unfold failStep
  split_ifs with hstored hrelease
  · exact ⟨⟨hsound.kept, hsound.quorate, hproper⟩, by simp, by simp,
      fun _ => howed hrelease, by simp⟩
  · exact ⟨⟨hsound.kept, hsound.quorate, hproper⟩, by simp, by simp,
      by simp [hlock], by simp⟩
  · rw [hstate, GateKind.terminal_state] at hstored
    refine ⟨hsound, by simp, ?_, by simp [hlock], ?_⟩
    · exact fun h => absurd (hstate.symm.trans h) (GateKind.state_ne_prepared k)
    · intro h
      rw [hstate] at h
      cases k <;> cases h

theorem runStep_tracked (hsound : Sound g b s) (hlock : s.lock = some g.id)
    (hstate : s.journal.state = k.state) (htracks : Tracks g b s r)
    (hhome : g.hasMon = true → g.host ∈ b.quorum) (hfits : r.pc.fits g r.kind)
    (hcare : Undone s.journal s.live r.kind o r.pc) :
    Tracked g b (runStep false g s r o).1 (runStep false g s r o).2 := by
  unfold runStep
  cases hpc : r.pc with
  | resolve =>
    have hplaced := htracks.placed
    have hmarker := htracks.marker
    unfold Placed at hplaced
    rw [hpc] at hplaced hcare
    obtain ⟨hmemory, hprepare⟩ := hplaced
    have howed := htracks.owed s.journal.maintenanceFlagsAdded
      (by simp [owedFlags, hpc, hmemory])
    apply tracked_goTo hsound hlock hstate
    split_ifs with hok
    · cases hkind : r.kind with
      | prepare =>
        refine tracks_at _ (by simp [firstPhase, owedFlags, hmemory]) howed ?_
          hmarker
        show r.flagsAdded.getD [] = s.journal.maintenanceFlagsAdded
        rw [hmemory, hprepare hkind]
        rfl
      | abort =>
        have hundo := tracks_firstUndo hsound.proper hmemory howed hmarker
        rw [hkind] at hundo
        exact hundo
      | recover =>
        exact tracks_at _ (by simp [firstPhase, owedFlags, hmemory]) howed
          hmemory hmarker
    · have hnone : s.journal.maintenanceFlagsAdded = [] :=
        hcare.elim hprepare (fun h => h.resolve_right hok)
      exact tracks_failing (fun _ => hnone ▸ howed) hmarker
  | readFlags | setFlags _ | removeMon | checkQuorum | backup | markPrepared =>
    have hplace : r.pc.fits g .prepare := Pc.fits_prepare hfits (by rw [hpc]; rfl)
    exact prepareStep_tracked hsound hlock hstate htracks hplace hcare
  | rollbackState | rejoinBack _ | readBack _ _ | unsetBack _ _ =>
    exact rollbackStep_tracked hsound hlock hstate htracks hhome
  | reinstall | rejoin | readClear | unsetClear _ | markDone =>
    exact undoStep_tracked hsound hlock hstate htracks hhome hfits hcare
  | failing release =>
    apply failStep_tracked hsound hlock hstate release
    intro hrelease
    exact htracks.owed [] (by simp [owedFlags, hpc, hrelease])

end Command

/-! ## Runs -/

/-- What was live when the last gate was requested is what is live now, but for
what that gate has to undo. -/
structure Restores (w : World) : Prop where
  covered : Covered w
  kept : Keeps w.live.flags w.before.flags
  quorate : ∀ h, h ∈ w.live.quorum ↔ h ∈ w.before.quorum ∧ h ∉ w.live.removed
  proper : ∀ i g, Table.get w.gates i = some g → Proper g g.journal
  home : ∀ i g, w.lock = some i → Table.get w.gates i = some g →
    g.hasMon = true → g.host ∈ w.before.quorum
  free : w.lock = none → Owed w.live.flags w.before.flags []
  done : ∀ i g, Table.get w.gates i = some g → g.journal.state = .done →
    w.lock ≠ some i
  last : ∀ i, w.lock = some i → (w.gates.map Gate.id).getLast? = some i
  prepared : ∀ i g, Table.get w.gates i = some g → g.journal.state = .prepared →
    Owed w.live.flags w.before.flags g.journal.maintenanceFlagsAdded
  waiting : ∀ a i k g, w.origin a = some (i, k) → a ∉ w.entered →
    Table.get w.gates i = some g →
      Owed w.live.flags w.before.flags g.journal.maintenanceFlagsAdded ∧
        (k = .prepare → g.journal.maintenanceFlagsAdded = [])
  running : ∀ t r g, w.phase t = .running r →
    Table.get w.gates r.gateId = some g →
      Tracks g w.before ⟨w.live, g.journal, w.lock⟩ r

/-- A gate is requested for a node whose monitor is in, when it has one; no
Action is run twice; what a run does is recorded, and undone before the lock is
released. -/
def Diligent (w : World) : Label → Prop
  | .prepareGate host roles =>
    roles.contains "MON" = true → host ∈ w.live.quorum
  | .enter t => NotEntered w (w.phase t)
  | .work t o =>
    OnRun w (fun g r => Compensated g r.kind o r.pc ∧
      Undone g.journal w.live r.kind o r.pc) (w.phase t)
  | _ => True

instance (w : World) (l : Label) : Decidable (Diligent w l) :=
  match l with
  | .prepareGate host roles =>
    inferInstanceAs (Decidable
      (roles.contains "MON" = true → host ∈ w.live.quorum))
  | .enter t => inferInstanceAs (Decidable (NotEntered w (w.phase t)))
  | .work t o =>
    inferInstanceAs (Decidable
      (OnRun w (fun g r => Compensated g r.kind o r.pc ∧
        Undone g.journal w.live r.kind o r.pc) (w.phase t)))
  | .abortGate _ | .confirmGate _ | .approve _ | .reject _ | .recheck ..
  | .claim _ | .refuse _ | .record _ | .vanish _ | .reconcile =>
    inferInstanceAs (Decidable True)

theorem Diligent.careful {l : Label} (h : Diligent w l) : Careful w l := by
  cases l with
  | enter t => exact h
  | work t o =>
    have hrun : OnRun w (fun g r => Compensated g r.kind o r.pc ∧
        Undone g.journal w.live r.kind o r.pc) (w.phase t) := h
    show OnRun w (fun g r => Compensated g r.kind o r.pc) (w.phase t)
    cases hphase : w.phase t with
    | running r =>
      rw [hphase] at hrun
      exact fun g hg => (hrun g hg).1
    | _ => trivial
  | _ => trivial

theorem restores_initial (quorum flags : List String) :
    Restores (World.initial quorum flags) where
  covered := covered_initial quorum flags
  kept := fun _ h => h
  quorate := by simp [World.initial]
  proper := by simp [World.initial, Table.get]
  home := by simp [World.initial]
  free := fun _ => Owed.refl flags
  done := by simp [World.initial, Table.get]
  last := by simp [World.initial]
  prepared := by simp [World.initial, Table.get]
  waiting := by simp [World.initial, Table.get]
  running := by simp [World.initial]

section

variable (h : Restores w)
include h

theorem Restores.ended (hlock : w.lock = none)
    (hg : Table.get w.gates i = some g) : g.journal.state.terminal = true := by
  cases hstate : g.journal.state.terminal with
  | true => rfl
  | false =>
    have hheld := h.covered.ordered.held i g hg hstate
    rw [hlock] at hheld
    cases hheld

theorem restores_prepare (hlock : w.lock = none) (host : String)
    (roles : List String) (hhome : roles.contains "MON" = true → host ∈ w.live.quorum) :
    Restores (w.prepare host roles) := by
  have hgates : ∀ i, Table.get (w.prepare host roles).gates i =
      if i = Table.fresh w.gates then some _ else Table.get w.gates i :=
    Table.get_insert_fresh rfl
  have hcovered := covered_prepare h.covered hlock host roles
  -- no other gate is under way
  have hwaits : ∀ a i k, ¬ Waits w a i k := by
    intro a i k hwaits
    have hheld := h.covered.ordered.lock_of_waits hwaits
    rw [hlock] at hheld
    cases hheld
  constructor
  case covered => exact hcovered
  case kept => exact fun _ hf => hf
  case quorate =>
    intro x
    show x ∈ w.live.quorum ↔ x ∈ w.live.quorum ∧ x ∉ w.live.removed
    rw [h.covered.free hlock]
    simp
  case proper =>
    intro i g hg
    rw [hgates] at hg
    split_ifs at hg
    · cases hg
      exact ⟨fun _ => rfl, by simp, by simp⟩
    · exact h.proper i g hg
  case home =>
    intro i g hi hg hmon
    rw [hgates] at hg
    split_ifs at hg with hfresh
    · cases hg
      exact hhome hmon
    · cases hi
      exact absurd rfl hfresh
  case free =>
    intro hnone
    cases hnone
  case done =>
    intro i g hg hstate hi
    rw [hgates] at hg
    split_ifs at hg with hfresh
    · cases hg
      cases hstate
    · cases hi
      exact hfresh rfl
  case last =>
    intro i hi
    cases hi
    show ((w.gates ++ [_]).map Gate.id).getLast? = _
    simp
  case prepared =>
    intro i g hg hstate
    rw [hgates] at hg
    split_ifs at hg
    · cases hg
      cases hstate
    · have hended := h.ended hlock hg
      rw [hstate] at hended
      cases hended
  case waiting =>
    intro a i k g ha hnew hg
    rw [origin_prepare] at ha
    split_ifs at ha
    · cases ha
      rw [hgates, if_pos rfl, Option.some.injEq] at hg
      subst hg
      exact ⟨Owed.refl w.live.flags, fun _ => rfl⟩
    · exact absurd (h.covered.ordered.waits a i k ha hnew) (hwaits a i k)
  case running =>
    intro t r g hrun
    exact absurd (h.covered.ordered.works t r hrun).waits (hwaits _ _ _)

theorem restores_request {kind : GateKind} (hg : Table.get w.gates g.id = some g)
    (hstate : g.journal.state = .prepared) (hkind : kind ≠ .prepare) :
    Restores (w.request g.id kind) := by
  -- a gate after the request is one before it, but for its state and its Action
  have hback : ∀ i g', Table.get (w.request g.id kind).gates i = some g' →
      (Table.get w.gates i = some g' ∨
        i = g.id ∧ g' = request kind (Table.fresh w.actions) g) := by
    intro i g' hg'
    rw [get_request] at hg'
    split_ifs at hg' with hi
    · rw [hi, hg, Option.map_some, Option.some.injEq] at hg'
      exact Or.inr ⟨hi, hg'.symm⟩
    · exact Or.inl hg'
  constructor
  case covered => exact covered_request h.covered hg hstate hkind
  case kept => exact h.kept
  case quorate => exact h.quorate
  case proper =>
    intro i g' hg'
    cases hback i g' hg' with
    | inl hg' => exact h.proper i g' hg'
    | inr hnew =>
      have hproper := h.proper g.id g hg
      rw [hnew.2]
      exact ⟨hproper.osd, hproper.known, hproper.mon⟩
  case home =>
    intro i g' hi hg' hmon
    cases hback i g' hg' with
    | inl hg' => exact h.home i g' hi hg' hmon
    | inr hnew =>
      rw [hnew.2] at hmon ⊢
      exact h.home g.id g (hnew.1 ▸ hi) hg hmon
  case free => exact h.free
  case done =>
    intro i g' hg' hdone
    cases hback i g' hg' with
    | inl hg' => exact h.done i g' hg' hdone
    | inr hnew =>
      rw [hnew.2] at hdone
      exact absurd hdone (by cases kind <;> simp [request, GateKind.state])
  case last =>
    intro i hi
    show ((Table.modify w.gates g.id _).map Table.Keyed.key).getLast? = _
    rw [Table.keys_modify w.gates g.id (request kind _) (fun _ => rfl)]
    exact h.last i hi
  case prepared =>
    intro i g' hg' hprepared
    cases hback i g' hg' with
    | inl hg' => exact h.prepared i g' hg' hprepared
    | inr hnew =>
      rw [hnew.2] at hprepared
      exact absurd hprepared (GateKind.state_ne_prepared kind)
  case waiting =>
    intro a i k g' ha hnew hg'
    rw [origin_request] at ha
    split_ifs at ha
    · cases ha
      cases hback g.id g' hg' with
      | inl hsame =>
        rw [hg, Option.some.injEq] at hsame
        subst hsame
        exact ⟨h.prepared g.id g hg hstate, fun hk => absurd hk hkind⟩
      | inr hnew =>
        rw [hnew.2]
        exact ⟨h.prepared g.id g hg hstate, fun hk => absurd hk hkind⟩
    · cases hback i g' hg' with
      | inl hg' => exact h.waiting a i k g' ha hnew hg'
      | inr hsame =>
        rw [hsame.2]
        exact h.waiting a i k g ha hnew (hsame.1 ▸ hg)
  case running =>
    intro t r g' hrun hg'
    have hworks := h.covered.ordered.works t r hrun
    exact h.running t r g' hrun
      (hworks.get_of_kept (kept_request kind hg hstate) hg')

theorem restores_start {t : Nat} {x : GateAction}
    (hx : Table.get w.actions x.id = some x) (hnew : x.id ∉ w.entered) :
    Restores (w.start t x) where
  covered := covered_start h.covered hx hnew
  kept := h.kept
  quorate := h.quorate
  proper := h.proper
  home := h.home
  free := h.free
  done := h.done
  last := h.last
  prepared := h.prepared
  waiting := by
    intro a i k g ha hout
    apply h.waiting a i k g ha
    intro hmem
    exact hout (List.mem_cons_of_mem _ hmem)
  running := by
    intro t' r g hr hg
    obtain ⟨_, hr⟩ := h.covered.ordered.running_start hx hnew hr
    subst hr
    obtain ⟨howed, hprepare⟩ := h.waiting x.id x.gateId x.kind g (origin_of_get hx) hnew hg
    exact tracks_at _ rfl howed ⟨rfl, hprepare⟩ (by simp)

end

theorem not_pending (h : Ordered w) (hworks : Works w r) :
    isGatePending w.gates r.action = false := by
  have hlock := h.lock_of_waits hworks.waits
  obtain ⟨g, hg, _, haction, _⟩ := hworks.gate
  unfold isGatePending
  apply List.any_eq_false.mpr
  intro g' hg' hpending
  simp only [Bool.and_eq_true, Bool.not_eq_true', bne_iff_ne, ne_eq] at hpending
  have hget : Table.get w.gates g'.id = some g' := Table.get_of_mem h.gateKeys hg'
  have hheld := h.held g'.id g' hget hpending.1.1.1
  rw [hlock, Option.some.injEq] at hheld
  rw [← hheld, hg, Option.some.injEq] at hget
  subst hget
  cases hkind : r.kind with
  | prepare =>
    rw [hkind] at haction
    exact hpending.1.1.2 (Option.some.inj haction)
  | abort =>
    rw [hkind] at haction
    exact hpending.2 haction
  | recover =>
    rw [hkind] at haction
    exact hpending.1.2 haction

theorem restores_work (h : Restores w) {t : Nat} {o : Outcome} (hrun : w.phase t = .running r)
    (hg : Table.get w.gates r.gateId = some g) (hcare : Compensated g r.kind o r.pc)
    (hundone : Undone g.journal w.live r.kind o r.pc) : Restores (w.work t r g o) := by
  have hordered := h.covered.ordered
  have hworks := hordered.works t r hrun
  have hlock := hordered.lock_of_waits hworks.waits
  obtain ⟨hstate, haction, hfits⟩ := hworks.gate_of_get hg
  have hself := get_work_self hg t o
  have hid : g.id = r.gateId := Table.key_of_get hg
  have hsound : Sound g w.before ⟨w.live, g.journal, w.lock⟩ :=
    ⟨h.kept, h.quorate, h.proper _ g hg⟩
  have htracked : Tracked g w.before (w.command r g o).1 (w.command r g o).2 := by
    unfold World.command
    rw [not_pending hordered hworks]
    exact runStep_tracked hsound (hid ▸ hlock) hstate (h.running t r g hrun hg)
      (h.home _ g hlock hg) hfits hundone
  have hframe : Framed g _ r (w.command r g o).1 (w.command r g o).2 :=
    runStep_frame _ g ⟨w.live, g.journal, w.lock⟩ r o hfits
  -- the lock is this gate's, or free
  have hholder : ∀ i, (w.work t r g o).lock = some i → i = r.gateId := by
    intro i hi
    have hl : (w.command r g o).1.lock = some i := hi
    cases hframe.lock with
    | inl hkept =>
      rw [hkept, hlock, Option.some.injEq] at hl
      exact hl.symm
    | inr hreleased =>
      rw [hreleased.1, hlock, hid, releaseLock, if_pos rfl] at hl
      cases hl
  constructor
  case covered => exact covered_work h.covered hrun hg hcare
  case kept => exact htracked.sound.kept
  case quorate => exact htracked.sound.quorate
  case proper =>
    intro i g' hg'
    by_cases hi : i = r.gateId
    · rw [hi, hself, Option.some.injEq] at hg'
      subst hg'
      have hproper := htracked.sound.proper
      exact ⟨hproper.osd, hproper.known, hproper.mon⟩
    · rw [get_work, if_neg hi] at hg'
      exact h.proper i g' hg'
  case home =>
    intro i g' hi hg' hmon
    rw [hholder i hi, hself, Option.some.injEq] at hg'
    subst hg'
    exact h.home _ g hlock hg hmon
  case free => exact htracked.free
  case done =>
    intro i g' hg' hdone hi
    rw [hholder i hi, hself, Option.some.injEq] at hg'
    subst hg'
    have hnone : (w.command r g o).1.lock = none := htracked.done hdone
    have hl : (w.command r g o).1.lock = some i := hi
    rw [hnone] at hl
    cases hl
  case last =>
    intro i hi
    show ((Table.modify w.gates r.gateId _).map Table.Keyed.key).getLast? = _
    rw [Table.keys_modify w.gates r.gateId (Gate.write _) (fun _ => rfl),
      hholder i hi]
    exact h.last _ hlock
  case prepared =>
    intro i g' hg' hprepared
    by_cases hi : i = r.gateId
    · rw [hi, hself, Option.some.injEq] at hg'
      subst hg'
      exact htracked.prepared hprepared
    · rw [get_work, if_neg hi] at hg'
      have hheld := hordered.held i g' hg' (by
        rw [hprepared]
        rfl)
      rw [hlock, Option.some.injEq] at hheld
      exact absurd hheld.symm hi
  case waiting =>
    intro a i k g' ha hnew _
    have hwaits := hordered.waits a i k ha hnew
    rw [hordered.waits_unique hwaits hworks.waits] at hnew
    exact absurd hworks.entered hnew
  case running =>
    intro t' r' g' hr' hg'
    obtain ⟨_, hnext⟩ := hordered.running_work hrun hr'
    obtain ⟨_, hi, _⟩ := hframe.goesOn r' hnext
    rw [hi, hself, Option.some.injEq] at hg'
    subst hg'
    have htracks := htracked.running r' hnext
    exact ⟨htracks.owed, htracks.placed, htracks.marker⟩

theorem restores_aside {w' : World} (h : Restores w) (hstep : Aside w w') :
    Restores w' where
  covered := covered_aside h.covered hstep
  kept := by
    rw [hstep.live, hstep.before]
    exact h.kept
  quorate := by
    rw [hstep.live, hstep.before]
    exact h.quorate
  proper := by
    rw [hstep.gates]
    exact h.proper
  home := by
    rw [hstep.lock, hstep.gates, hstep.before]
    exact h.home
  free := by
    rw [hstep.lock, hstep.live, hstep.before]
    exact h.free
  done := by
    rw [hstep.gates, hstep.lock]
    exact h.done
  last := by
    rw [hstep.lock, hstep.gates]
    exact h.last
  prepared := by
    rw [hstep.gates, hstep.live, hstep.before]
    exact h.prepared
  waiting := by
    intro a i k g ha hnew hg
    rw [hstep.origin] at ha
    rw [hstep.entered] at hnew
    rw [hstep.gates] at hg
    rw [hstep.live, hstep.before]
    exact h.waiting a i k g ha hnew hg
  running := by
    intro t r g hrun hg
    rw [hstep.gates] at hg
    rw [hstep.live, hstep.before, hstep.lock]
    exact h.running t r g (hstep.running t r hrun) hg

/-- **Step lemma.** -/
theorem restores_step {w' : World} {l : Label} (h : Restores w) (hcare : Diligent w l)
    (hstep : step w l = some w') : Restores w' := by
  cases stepped_of_step hstep with
  | opened host roles hlock => exact restores_prepare h hlock host roles hcare
  | requested _ g kind hg hstate hkind =>
    exact restores_request h
      (Table.get_of_mem h.covered.ordered.gateKeys hg) hstate hkind
  | started t x hphase hx =>
    exact restores_start h hx (hcare.careful.once.started hphase)
  | worked t o r g hphase hg =>
    have hrun : OnRun w (fun g r => Compensated g r.kind o r.pc ∧
        Undone g.journal w.live r.kind o r.pc) (w.phase t) := hcare
    obtain ⟨hmon, hflags⟩ := hrun.of_running hphase hg
    exact restores_work h hphase hg hmon hflags
  | beside _ _ hbeside => exact restores_aside h (aside_of_beside hbeside)

/-- **Run lemma.** -/
theorem restores_run (labels : List Label) (w w' : World) (h : Restores w)
    (hmeets : gateSystem.Meets Diligent w labels)
    (hrun : gateSystem.run w labels = some w') : Restores w' :=
  gateSystem.run_invariant_of_meets Diligent Restores
    (fun _ _ _ hw hC hstep => restores_step hw hC hstep) labels w w' h hmeets hrun

/-- The gate requested last is done, or failed with its lock released. -/
def Ended (w : World) (g : Gate) : Prop :=
  w.gates.getLast? = some g ∧ (g.journal.state = .done ∨
    (g.journal.state = .failed ∧ w.lock ≠ some g.id))

/-- What a gate leaves: once it has ended, the flags and the quorum are those
before its `prepare`; a flag that was set before is never cleared. -/
structure Restored (w : World) : Prop where
  flags : ∀ g, Ended w g → ∀ f, f ∈ w.live.flags ↔ f ∈ w.before.flags
  monitor : ∀ g, Ended w g →
    (g.host ∈ w.live.quorum ↔ g.host ∈ w.before.quorum)
  kept : ∀ f ∈ w.before.flags, f ∈ w.live.flags

/-- **Restoration.** -/
theorem gate_restored (quorum flags : List String) (labels : List Label) (w : World)
    (hmeets : gateSystem.Meets Diligent (World.initial quorum flags) labels)
    (hrun : gateSystem.run (World.initial quorum flags) labels = some w) : Restored w := by
  have h := restores_run labels _ w (restores_initial quorum flags) hmeets hrun
  -- a gate that ended does not hold the lock, and no other gate does
  have hfree : ∀ g, Ended w g → w.lock = none := by
    intro g hended
    have hmem : g ∈ w.gates := List.mem_of_getLast? hended.1
    have hg : Table.get w.gates g.id = some g :=
      Table.get_of_mem h.covered.ordered.gateKeys hmem
    cases hlock : w.lock with
    | none => rfl
    | some i =>
      have hlast := h.last i hlock
      rw [List.getLast?_map, hended.1, Option.map_some,
        Option.some.injEq] at hlast
      subst hlast
      cases hended.2 with
      | inl hdone => exact absurd hlock (h.done _ g hg hdone)
      | inr hfailed => exact absurd hlock hfailed.2
  constructor
  case flags => exact fun g hended => (h.free (hfree g hended)).restored
  case monitor =>
    intro g hended
    rw [h.quorate, h.covered.free (hfree g hended)]
    simp
  case kept => exact h.kept

/-- A monitor and OSD node is prepared while the operator has set `noout`, and the
gate is aborted. -/
def keptNooutRun : List Label :=
  [.prepareGate "a" ["MON", "OSD"]] ++
    executed 0 1 (List.replicate 10 Outcome.success) ++
    [.abortGate "a"] ++ executed 0 2 (List.replicate 8 Outcome.success)

theorem gate_restored_keptNooutRun : ∃ w,
    gateSystem.run (World.initial ["a", "b", "c"] ["noout"]) keptNooutRun =
      some w ∧ w.live.flags = ["noout"] ∧ Restored w := by
  have hview : (gateSystem.run (World.initial ["a", "b", "c"] ["noout"])
      keptNooutRun).map (fun w => w.live.flags) = some ["noout"] := by
    decide +kernel
  obtain ⟨w, hrun, hflags⟩ := Option.map_eq_some_iff.mp hview
  refine ⟨w, hrun, hflags, ?_⟩
  exact gate_restored ["a", "b", "c"] ["noout"] keptNooutRun w (by decide +kernel)
    hrun

/-- The same node is recovered after its reinstallation. -/
def recoveredRun : List Label :=
  [.prepareGate "a" ["MON", "OSD"]] ++
    executed 0 1 (List.replicate 10 Outcome.success) ++
    [.confirmGate 1] ++
    executed 0 2 (List.replicate 4 Outcome.success ++
      [⟨true, true, true, maintenanceFlags⟩, Outcome.success])

/-- The recovery clears the operator's `noout`. -/
theorem recover_clears_noout :
    ¬ ∀ (quorum flags : List String) (labels : List Label) (w : World),
      gateSystem.run (World.initial quorum flags) labels = some w →
        Restored w := by
  intro h
  have hview : (gateSystem.run (World.initial ["a", "b", "c"] ["noout"])
      recoveredRun).map (fun w => (w.before.flags, w.live.flags)) =
        some (["noout"], []) := by
    decide +kernel
  obtain ⟨w, hrun, hlive⟩ := Option.map_eq_some_iff.mp hview
  rw [Prod.mk.injEq] at hlive
  have hkept := (h ["a", "b", "c"] ["noout"] recoveredRun w hrun).kept
  rw [hlive.1, hlive.2] at hkept
  exact absurd (hkept "noout" (by simp)) (by simp)

end CephAi.Ports.GateFlags
