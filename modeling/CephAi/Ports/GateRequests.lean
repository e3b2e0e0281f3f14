import CephAi.Ports.GateRuns

/-!
# Requests for node OS gates

A gate that is `PREPARING`, `ABORTING` or `RECOVERING` is moved by the run of one
Action only.  A run that fails marks the gate `FAILED`; a rejected Action, one that
the router refuses, and one that a restart finds interrupted end without touching
the gate.

## Main results

* `runStep_closes` — a run that stops leaves the gate in another state.
* `gates_movable` — when no Action that a gate waits for ends like that, a gate
  has at most one `abort` or `recover` Action, at most one gate is under way, and
  its Action can still run.
-/

namespace CephAi.Ports.GateRequests

open Verified Models NodeOsGate
open GateRuns

/-! ## A run that stops -/

/-- What a failing run writes is stored, and what a rollback reads is read. -/
def Closing (r : Run) (o : Outcome) : Pc → Prop
  | .failing _ => o.stored = true
  | .rollbackState =>
    (r.flagsAdded.isSome && r.monRemoved.isSome) = true ∨ o.ok = true
  | _ => True

instance (r : Run) (o : Outcome) (pc : Pc) : Decidable (Closing r o pc) :=
  match pc with
  | .failing _ => inferInstanceAs (Decidable (o.stored = true))
  | .rollbackState =>
    inferInstanceAs (Decidable
      ((r.flagsAdded.isSome && r.monRemoved.isSome) = true ∨ o.ok = true))
  | .resolve | .backup | .readFlags | .setFlags _ | .removeMon | .checkQuorum
  | .markPrepared | .rejoinBack _ | .readBack .. | .unsetBack .. | .reinstall
  | .rejoin | .readClear | .unsetClear _ | .markDone =>
    inferInstanceAs (Decidable True)

/-- A run goes on, or has moved its gate. -/
def Closes (s : Site) (next : Next) : Prop :=
  (∃ r, next = .goOn r) ∨ s.journal.state = .prepared ∨
    s.journal.state.terminal = true

theorem closes_goTo (s : Site) (r : Run) (pc : Pc) : Closes s (r.goTo pc) :=
  Or.inl ⟨_, rfl⟩

variable {g : Gate} {l : Label} {o : Outcome} {r : Run} {t : Nat} {w w' : World}

theorem runStep_closes (pending : Bool) {s : Site} (hopen : s.journal.state.terminal = false)
    (hcare : Closing r o r.pc) :
    Closes (runStep pending g s r o).1 (runStep pending g s r o).2 := by
  unfold runStep
  cases hpc : r.pc with
  | setFlags todo =>
    simp only [prepareStep, hpc]
    cases todo with
    | nil => exact closes_goTo _ _ _
    | cons flag todo =>
      dsimp only
      split_ifs <;> exact closes_goTo _ _ _
  | removeMon =>
    simp only [prepareStep, hpc]
    split_ifs <;> exact closes_goTo _ _ _
  | markPrepared =>
    simp only [prepareStep, hpc]
    split_ifs
    · exact Or.inr (Or.inl rfl)
    · exact closes_goTo _ _ _
  | rollbackState =>
    rw [hpc] at hcare
    simp only [rollbackStep, hpc]
    rw [if_pos (by simpa [Closing] using hcare)]
    split_ifs <;> exact closes_goTo _ _ _
  | rejoinBack flags =>
    simp only [rollbackStep, hpc]
    split_ifs <;> exact closes_goTo _ _ _
  | unsetBack todo clean =>
    simp only [rollbackStep, hpc]
    cases todo with
    | nil =>
      dsimp only
      split_ifs <;> exact closes_goTo _ _ _
    | cons flag todo => exact closes_goTo _ _ _
  | readClear =>
    simp only [undoStep, hpc]
    split_ifs <;> exact closes_goTo _ _ _
  | unsetClear todo =>
    simp only [undoStep, hpc]
    cases todo with
    | nil | cons =>
      dsimp only
      split_ifs <;> exact closes_goTo _ _ _
  | markDone =>
    simp only [undoStep, hpc]
    split_ifs
    · exact Or.inr (Or.inr rfl)
    · exact closes_goTo _ _ _
  | failing release =>
    rw [hpc] at hcare
    simp only [failStep]
    rw [if_pos ⟨hcare, hopen⟩]
    exact Or.inr (Or.inr rfl)
  | resolve | backup | readFlags | checkQuorum | readBack _ _ | reinstall
  | rejoin =>
    simp only [prepareStep, rollbackStep, undoStep, hpc]
    exact closes_goTo _ _ _

/-! ## Requests -/

/-- A gate waits for an Action. -/
def Awaited (w : World) (a : Nat) : Prop :=
  ∃ g ∈ w.gates, ∃ k ∈ [GateKind.prepare, .abort, .recover],
    g.journal.state = k.state ∧ g.actionOf k = some a

instance (w : World) (a : Nat) : Decidable (Awaited w a) :=
  inferInstanceAs (Decidable (∃ g ∈ w.gates,
    ∃ k ∈ [GateKind.prepare, .abort, .recover],
      g.journal.state = k.state ∧ g.actionOf k = some a))

/-- The statuses of an Action that can still run. -/
def runnable : List ActionStatus := [.pendingApproval, .approved, .executing]

def statusOf (w : World) (a : Nat) : Option ActionStatus :=
  (Table.get w.actions a).map GateAction.status

/-- An Action can still run. -/
def CanRun (w : World) (a : Nat) : Prop :=
  ∃ s ∈ runnable, statusOf w a = some s

/-- The Action a thread is busy with, before and after its run. -/
def Phase.action : Phase → Option Nat
  | .claiming a | .claimed a | .recording a _ => some a
  | .idle | .running _ => none

/-- What holds while no Action that a gate waits for ends without its run. -/
structure Movable (w : World) : Prop where
  ordered : Ordered w
  exists_gate : ∀ a i k, w.origin a = some (i, k) → Table.get w.gates i ≠ none
  once : ∀ a a' i k k', w.origin a = some (i, k) → w.origin a' = some (i, k') →
    k ≠ .prepare → k' ≠ .prepare → a = a'
  unrequested : ∀ a i k g, w.origin a = some (i, k) → k ≠ .prepare →
    Table.get w.gates i = some g →
      g.journal.state ≠ .preparing ∧ g.journal.state ≠ .prepared
  posted : ∀ i g k, Table.get w.gates i = some g → g.journal.state = k.state →
    g.actionOf k ≠ none
  movable : ∀ a i k, Waits w a i k → CanRun w a
  known : ∀ t a, Phase.action (w.phase t) = some a → w.origin a ≠ none
  recorded : ∀ t a succeeded, w.phase t = .recording a succeeded →
    ∀ i k, ¬ Waits w a i k

/-- Whether a thread gives up an Action that a gate waits for. -/
def GivesUp (w : World) : Phase → Prop
  | .claiming a | .claimed a => Awaited w a
  | .running r => Awaited w r.action
  | .idle | .recording .. => False

instance (w : World) (p : Phase) : Decidable (GivesUp w p) :=
  match p with
  | .claiming a | .claimed a => inferInstanceAs (Decidable (Awaited w a))
  | .running r => inferInstanceAs (Decidable (Awaited w r.action))
  | .idle | .recording .. => inferInstanceAs (Decidable False)

/-- No Action is run twice; an Action that a gate waits for is not rejected, not
refused and not found interrupted; a run that stops moves its gate. -/
def Moving (w : World) : Label → Prop
  | .enter t => NotEntered w (w.phase t)
  | .reject a => ¬ Awaited w a
  | .refuse t => ¬ GivesUp w (w.phase t)
  | .work t o => OnRun w (fun _ r => Closing r o r.pc) (w.phase t)
  | .reconcile => ∀ x ∈ w.actions, interrupted x = true → ¬ Awaited w x.id
  | _ => True

instance (w : World) (l : Label) : Decidable (Moving w l) :=
  match l with
  | .enter t => inferInstanceAs (Decidable (NotEntered w (w.phase t)))
  | .reject a => inferInstanceAs (Decidable (¬ Awaited w a))
  | .refuse t => inferInstanceAs (Decidable (¬ GivesUp w (w.phase t)))
  | .work t o =>
    inferInstanceAs (Decidable
      (OnRun w (fun _ r => Closing r o r.pc) (w.phase t)))
  | .reconcile =>
    inferInstanceAs (Decidable
      (∀ x ∈ w.actions, interrupted x = true → ¬ Awaited w x.id))
  | .prepareGate .. | .abortGate _ | .confirmGate _ | .approve _ | .recheck ..
  | .claim _ | .record _ | .vanish _ => inferInstanceAs (Decidable True)

theorem Moving.once (h : Moving w l) : Once w l := by
  cases l with
  | enter t => exact h
  | _ => trivial

variable {a : Nat}

theorem awaited_of_waits {i : Nat} {k : GateKind} (h : Waits w a i k) : Awaited w a := by
  obtain ⟨g, hg, hstate, haction⟩ := h
  refine ⟨g, Table.mem_of_get hg, k, ?_, hstate, haction⟩
  cases k <;> simp

theorem movable_initial (quorum flags : List String) :
    Movable (World.initial quorum flags) where
  ordered := ordered_initial quorum flags
  exists_gate := by simp [World.initial, World.origin, Table.get]
  once := by simp [World.initial, World.origin, Table.get]
  unrequested := by simp [World.initial, World.origin, Table.get]
  posted := by simp [World.initial, Table.get]
  movable := by
    rintro a i k ⟨g, hg, _⟩
    cases hg
  known := by simp [World.initial, Phase.action]
  recorded := by simp [World.initial]

/-- The statuses after one was proposed. -/
theorem statusOf_insert {x : GateAction} (hw : w'.actions = Table.insert w.actions x)
    (hkey : x.id = Table.fresh w.actions) (a : Nat) :
    statusOf w' a =
      if a = Table.fresh w.actions then some x.status else statusOf w a := by
  unfold statusOf
  rw [hw, Table.get_insert_fresh hkey]
  split_ifs <;> rfl

theorem movable_prepare (h : Movable w) (hlock : w.lock = none) (host : String)
    (roles : List String) : Movable (w.prepare host roles) := by
  have hgates : ∀ i, Table.get (w.prepare host roles).gates i =
      if i = Table.fresh w.gates then some _ else Table.get w.gates i :=
    Table.get_insert_fresh rfl
  have horigin := origin_prepare w host roles
  have hordered := ordered_prepare h.ordered hlock host roles
  -- only the new gate waits
  have hwaits : ∀ {a i k}, Waits (w.prepare host roles) a i k →
      a = Table.fresh w.actions := by
    rintro a i k ⟨g, hg, hstate, haction⟩
    rw [hgates] at hg
    split_ifs at hg with hfresh
    · cases hg
      have hk : k = .prepare := by
        cases k with
        | prepare => rfl
        | abort | recover => cases haction
      subst hk
      exact (Option.some.inj haction).symm
    · have hheld := h.ordered.lock_of_waits ⟨g, hg, hstate, haction⟩
      rw [hlock] at hheld
      cases hheld
  constructor
  case ordered => exact hordered
  case exists_gate =>
    intro a i k ha
    rw [horigin] at ha
    rw [hgates]
    split_ifs at ha with hfresh
    · cases ha
      rw [if_pos rfl]
      simp
    · split_ifs
      · simp
      · exact h.exists_gate a i k ha
  case once =>
    intro a a' i k k' ha ha' hk hk'
    rw [horigin] at ha ha'
    split_ifs at ha
    · cases ha
      exact absurd rfl hk
    · split_ifs at ha'
      · cases ha'
        exact absurd rfl hk'
      · exact h.once a a' i k k' ha ha' hk hk'
  case unrequested =>
    intro a i k g ha hk hg
    rw [horigin] at ha
    split_ifs at ha
    · cases ha
      exact absurd rfl hk
    · rw [hgates] at hg
      split_ifs at hg with hfresh
      · have hexists := h.exists_gate a i k ha
        rw [hfresh, Table.get_fresh] at hexists
        exact absurd rfl hexists
      · exact h.unrequested a i k g ha hk hg
  case posted =>
    intro i g k hg hstate
    rw [hgates] at hg
    split_ifs at hg
    · cases hg
      cases k with
      | prepare => simp [Gate.actionOf]
      | abort | recover => cases hstate
    · exact h.posted i g k hg hstate
  case movable =>
    intro a i k ha
    refine ⟨.pendingApproval, by simp [runnable], ?_⟩
    rw [statusOf_insert (w := w) rfl rfl, if_pos (hwaits ha)]
  case known =>
    intro t a ha
    rw [horigin]
    split_ifs
    · simp
    · exact h.known t a ha
  case recorded =>
    intro t a succeeded hphase i k hwait
    have hknown := h.known t a (by
      have hphase' : w.phase t = .recording a succeeded := hphase
      rw [hphase']
      rfl)
    rw [hwaits hwait, origin_fresh] at hknown
    exact hknown rfl

theorem movable_request (h : Movable w) {kind : GateKind} (hg : Table.get w.gates g.id = some g)
    (hstate : g.journal.state = .prepared) (hkind : kind ≠ .prepare) :
    Movable (w.request g.id kind) := by
  have horigin := origin_request w g.id kind
  have hself : Table.get (w.request g.id kind).gates g.id =
      some (request kind (Table.fresh w.actions) g) := by
    rw [get_request, if_pos rfl, hg]
    rfl
  -- a prepared gate has no Action but that of its `prepare`
  have hnone : ∀ {a k}, w.origin a = some (g.id, k) → k = .prepare := by
    intro a k ha
    by_contra hk
    exact (h.unrequested a g.id k g ha hk hg).2 hstate
  -- the new Action is awaited, and the others that were
  have hwaits : ∀ {a i k}, Waits (w.request g.id kind) a i k →
      a = Table.fresh w.actions ∨ Waits w a i k := by
    rintro a i k ⟨g', hg', hstate', haction⟩
    rw [get_request] at hg'
    split_ifs at hg' with hi
    · rw [hi, hg, Option.map_some, Option.some.injEq] at hg'
      subst hg'
      have hk : kind = k := GateKind.eq_of_state hstate'
      subst hk
      rw [actionOf_request kind kind _ g hkind, if_pos rfl] at haction
      exact Or.inl (Option.some.inj haction).symm
    · exact Or.inr ⟨g', hg', hstate', haction⟩
  constructor
  case ordered => exact ordered_request h.ordered hg hstate hkind
  case exists_gate =>
    intro a i k ha
    rw [horigin] at ha
    split_ifs at ha
    · cases ha
      rw [hself]
      simp
    · rw [get_request]
      split_ifs with hi
      · rw [hi, hg]
        simp
      · exact h.exists_gate a i k ha
  case once =>
    intro a a' i k k' ha ha' hk hk'
    rw [horigin] at ha ha'
    split_ifs at ha with hfresh
    · cases ha
      split_ifs at ha' with hfresh'
      · rw [hfresh, hfresh']
      · exact absurd (hnone ha') hk'
    · split_ifs at ha'
      · cases ha'
        exact absurd (hnone ha) hk
      · exact h.once a a' i k k' ha ha' hk hk'
  case unrequested =>
    intro a i k g' ha hk hg'
    by_cases hi : i = g.id
    · rw [hi, hself, Option.some.injEq] at hg'
      subst hg'
      refine ⟨?_, GateKind.state_ne_prepared kind⟩
      cases kind with
      | prepare => exact absurd rfl hkind
      | abort | recover => simp [request, GateKind.state]
    · rw [get_request, if_neg hi] at hg'
      rw [horigin] at ha
      split_ifs at ha
      · cases ha
        exact absurd rfl hi
      · exact h.unrequested a i k g' ha hk hg'
  case posted =>
    intro i g' k hg' hstate'
    rw [get_request] at hg'
    split_ifs at hg' with hi
    · rw [hi, hg, Option.map_some, Option.some.injEq] at hg'
      subst hg'
      have hk : kind = k := GateKind.eq_of_state hstate'
      rw [actionOf_request kind k _ g hkind, if_pos hk.symm]
      simp
    · exact h.posted i g' k hg' hstate'
  case movable =>
    intro a i k hwait
    unfold CanRun
    rw [statusOf_insert (w := w) rfl rfl]
    split_ifs with hfresh
    · exact ⟨.pendingApproval, by simp [runnable], rfl⟩
    · exact h.movable a i k ((hwaits hwait).resolve_left hfresh)
  case known =>
    intro t a ha
    rw [horigin]
    split_ifs
    · simp
    · exact h.known t a ha
  case recorded =>
    intro t a succeeded hphase i k hwait
    have hphase' : w.phase t = .recording a succeeded := hphase
    cases hwaits hwait with
    | inl hfresh =>
      have hknown := h.known t a (by rw [hphase']; rfl)
      rw [hfresh, origin_fresh] at hknown
      exact hknown rfl
    | inr hwait => exact h.recorded t a succeeded hphase' i k hwait

theorem movable_start (h : Movable w) {x : GateAction} (hx : Table.get w.actions x.id = some x)
    (hnew : x.id ∉ w.entered) :
    Movable (w.start t x) where
  ordered := ordered_start h.ordered hx hnew
  exists_gate := h.exists_gate
  once := h.once
  unrequested := h.unrequested
  posted := h.posted
  movable := h.movable
  known := by
    intro t' a ha
    have hphase : Phase.action (if t' = t then
        .running ⟨x.id, x.gateId, x.kind, .resolve, none, none⟩
        else w.phase t') = some a := ha
    split_ifs at hphase
    · cases hphase
    · exact h.known t' a hphase
  recorded := by
    intro t' a succeeded hphase
    have hphase' : (if t' = t then
        .running ⟨x.id, x.gateId, x.kind, .resolve, none, none⟩
        else w.phase t') = Phase.recording a succeeded := hphase
    split_ifs at hphase'
    exact h.recorded t' a succeeded hphase'

theorem action_nextPhase {next : Next} (h : Phase.action (Next.phase r next) = some a) :
    a = r.action := by
  cases next with
  | goOn r' => cases h
  | ended | raised =>
    cases h
    rfl

theorem get_before_work (hg : Table.get w.gates r.gateId = some g)
    (hframe : Framed g ⟨w.live, g.journal, w.lock⟩ r (w.command r g o).1 (w.command r g o).2)
    {i : Nat} {g' : Gate} {k : GateKind} (hg' : Table.get (w.work t r g o).gates i = some g')
    (hstate' : g'.journal.state = k.state) :
    ∃ g₀, Table.get w.gates i = some g₀ ∧ g₀.journal.state = k.state ∧
      g₀.actionOf k = g'.actionOf k := by
  by_cases hi : i = r.gateId
  · rw [hi, get_work_self hg t o, Option.some.injEq] at hg'
    subst hg'
    have hj : (w.command r g o).1.journal.state = k.state := hstate'
    refine ⟨g, hi ▸ hg, ?_, by cases k <;> rfl⟩
    rcases hframe.state with hsame | hprepared | hended
    · exact hsame.symm.trans hj
    · rw [hprepared.1] at hj
      exact absurd hj.symm (GateKind.state_ne_prepared k)
    · rw [hj, GateKind.terminal_state] at hended
      cases hended
  · rw [get_work, if_neg hi] at hg'
    exact ⟨g', hg', hstate', rfl⟩

theorem movable_work (h : Movable w) (hrun : w.phase t = .running r)
    (hg : Table.get w.gates r.gateId = some g) (hcare : Closing r o r.pc) :
    Movable (w.work t r g o) := by
  have hworks := h.ordered.works t r hrun
  obtain ⟨hstate, haction, hfits⟩ := hworks.gate_of_get hg
  have hself := get_work_self hg t o
  have hordered := ordered_work h.ordered o hrun hg
  have hframe : Framed g ⟨w.live, g.journal, w.lock⟩ r (w.command r g o).1
      (w.command r g o).2 :=
    runStep_frame _ g ⟨w.live, g.journal, w.lock⟩ r o hfits
  have hcloses : Closes (w.command r g o).1 (w.command r g o).2 := by
    apply runStep_closes _ _ hcare
    show g.journal.state.terminal = false
    rw [hstate, GateKind.terminal_state]
  have hown : w.origin r.action = some (r.gateId, r.kind) :=
    h.ordered.owns _ g _ _ hg haction
  have hwaits : ∀ {a i k}, Waits (w.work t r g o) a i k → Waits w a i k := by
    rintro a i k ⟨g', hg', hstate', haction'⟩
    obtain ⟨g₀, hg₀, hstate₀, haction₀⟩ := get_before_work hg hframe hg' hstate'
    exact ⟨g₀, hg₀, hstate₀, haction₀.trans haction'⟩
  constructor
  case ordered => exact hordered
  case exists_gate =>
    intro a i k ha
    rw [get_work]
    split_ifs with hi
    · rw [hi, hg]
      simp
    · exact h.exists_gate a i k ha
  case once => exact h.once
  case unrequested =>
    intro a i k g' ha hk hg'
    by_cases hi : i = r.gateId
    · rw [hi, hself, Option.some.injEq] at hg'
      subst hg'
      have hbefore := h.unrequested a i k g ha hk (hi ▸ hg)
      show (w.command r g o).1.journal.state ≠ .preparing ∧
        (w.command r g o).1.journal.state ≠ .prepared
      rcases hframe.state with hsame | hprepared | hended
      · rw [hsame]
        exact hbefore
      · rw [hprepared.2] at hstate
        exact absurd hstate hbefore.1
      · constructor
        · intro heq
          rw [heq] at hended
          cases hended
        · intro heq
          rw [heq] at hended
          cases hended
    · rw [get_work, if_neg hi] at hg'
      exact h.unrequested a i k g' ha hk hg'
  case posted =>
    intro i g' k hg' hstate'
    obtain ⟨g₀, hg₀, hstate₀, haction₀⟩ := get_before_work hg hframe hg' hstate'
    rw [← haction₀]
    exact h.posted i g₀ k hg₀ hstate₀
  case movable => exact fun a i k hwait => h.movable a i k (hwaits hwait)
  case known =>
    intro t' a ha
    show w.origin a ≠ none
    have hphase : Phase.action (if t' = t then Next.phase r (w.command r g o).2
        else w.phase t') = some a := ha
    split_ifs at hphase
    · rw [action_nextPhase hphase, hown]
      simp
    · exact h.known t' a hphase
  case recorded =>
    intro t' a succeeded hphase i k hwait
    have hphase' : (if t' = t then Next.phase r (w.command r g o).2
        else w.phase t') = .recording a succeeded := hphase
    split_ifs at hphase'
    · -- the run has stopped, and its gate has moved
      have ha : a = r.action := action_nextPhase (congrArg Phase.action hphase')
      subst ha
      obtain ⟨g', hg', hstate', haction'⟩ := hwait
      have howns : (w.work t r g o).origin r.action = some (i, k) :=
        hordered.owns i g' k _ hg' haction'
      have hown' : (w.work t r g o).origin r.action = some (r.gateId, r.kind) :=
        hown
      rw [hown', Option.some.injEq, Prod.mk.injEq] at howns
      rw [← howns.1, hself, Option.some.injEq] at hg'
      subst hg'
      have hj : (w.command r g o).1.journal.state = k.state := hstate'
      rcases hcloses with ⟨r', hnext⟩ | hprepared | hended
      · rw [hnext] at hphase'
        cases hphase'
      · rw [hj] at hprepared
        exact GateKind.state_ne_prepared k hprepared
      · rw [hj, GateKind.terminal_state] at hended
        cases hended
    · exact h.recorded t' a succeeded hphase' i k (hwaits hwait)

theorem movable_aside (h : Movable w) (hstep : Aside w w')
    (hcan : ∀ a i k, Waits w a i k → CanRun w a → CanRun w' a)
    (hknown : ∀ t a, Phase.action (w'.phase t) = some a → w.origin a ≠ none)
    (hrecorded : ∀ t a succeeded, w'.phase t = .recording a succeeded → ∀ i k, ¬ Waits w a i k) :
    Movable w' := by
  have hwaits : ∀ {a i k}, Waits w' a i k → Waits w a i k := by
    rintro a i k ⟨g, hg, hrest⟩
    rw [hstep.gates] at hg
    exact ⟨g, hg, hrest⟩
  constructor
  case ordered => exact ordered_aside h.ordered hstep
  case exists_gate =>
    intro a i k ha
    rw [hstep.origin] at ha
    rw [hstep.gates]
    exact h.exists_gate a i k ha
  case once =>
    intro a a' i k k' ha ha'
    rw [hstep.origin] at ha ha'
    exact h.once a a' i k k' ha ha'
  case unrequested =>
    intro a i k g ha hk hg
    rw [hstep.origin] at ha
    rw [hstep.gates] at hg
    exact h.unrequested a i k g ha hk hg
  case posted =>
    rw [hstep.gates]
    exact h.posted
  case movable =>
    intro a i k hwait
    exact hcan a i k (hwaits hwait) (h.movable a i k (hwaits hwait))
  case known =>
    intro t a ha
    rw [hstep.origin]
    exact hknown t a ha
  case recorded =>
    intro t a succeeded hphase i k hwait
    exact hrecorded t a succeeded hphase i k (hwaits hwait)

theorem statusOf_mark (w : World) (b : Nat) (s : ActionStatus) (executing : Bool) (a : Nat) :
    statusOf (w.mark b s executing) a =
      if a = b then (statusOf w a).map (fun _ => s) else statusOf w a := by
  have hmap := Table.map_get_modify w.actions b
    (fun x => { x with status := s, executing := executing }) (fun _ => rfl)
    GateAction.status a
  unfold statusOf
  rw [Option.map_map]
  exact hmap

theorem canRun_mark {b : Nat} {s : ActionStatus} {executing : Bool} (hs : a = b → s ∈ runnable)
    (h : CanRun w a) : CanRun (w.mark b s executing) a := by
  obtain ⟨s', hs', hstatus⟩ := h
  unfold CanRun
  rw [statusOf_mark, hstatus]
  split_ifs with hab
  · exact ⟨s, hs hab, rfl⟩
  · exact ⟨s', hs', rfl⟩

theorem phase_move {t' : Nat} {p : Phase} :
    (w.move t p).phase t' = if t' = t then p else w.phase t' := rfl

/-- The steps of operators and of the router. -/
theorem movable_beside (h : Movable w) (hcare : Moving w l) (hstep : Beside w l w') :
    Movable w' := by
  have haside := aside_of_beside hstep
  -- threads go on with Actions that exist
  have hmoved : ∀ (t : Nat) (p : Phase),
      (∀ a, Phase.action p = some a → w.origin a ≠ none) →
      ∀ t' a, Phase.action ((w.move t p).phase t') = some a → w.origin a ≠ none := by
    intro t p hp t' a ha
    rw [phase_move] at ha
    split_ifs at ha
    · exact hp a ha
    · exact h.known t' a ha
  have hkept : ∀ (t : Nat) (p : Phase), (∀ a s, p ≠ .recording a s) →
      ∀ t' a succeeded, (w.move t p).phase t' = .recording a succeeded →
        ∀ i k, ¬ Waits w a i k := by
    intro t p hp t' a succeeded hphase
    rw [phase_move] at hphase
    split_ifs at hphase
    · exact absurd hphase (hp a succeeded)
    · exact h.recorded t' a succeeded hphase
  cases hstep with
  | approved | returned =>
    apply movable_aside h haside _ h.known h.recorded
    exact fun b i k _ hcan => canRun_mark (fun _ => by simp [runnable]) hcan
  | rejected a x hx hstatus =>
    apply movable_aside h haside _ h.known h.recorded
    intro b i k hwait hcan
    apply canRun_mark _ hcan
    intro hab
    have hnot : ¬ Awaited w a := hcare
    exact absurd (awaited_of_waits (hab ▸ hwait)) hnot
  | passed t a unchanged x hphase hx hstatus =>
    apply movable_aside h haside (fun _ _ _ _ hcan => hcan)
    · apply hmoved t
      intro b hb
      cases hb
      exact Option.ne_none_iff_exists'.mpr ⟨_, origin_of_get hx⟩
    · exact hkept t _ (by simp)
  | lost t a x hphase hx =>
    apply movable_aside h haside (fun _ _ _ _ hcan => hcan)
    · exact hmoved t _ (by simp [Phase.action])
    · exact hkept t _ (by simp)
  | claimed t a x hphase hx =>
    apply movable_aside h haside
    · intro b i k _ hcan
      obtain ⟨s, hs, hb⟩ := hcan
      refine canRun_mark ?_ ⟨s, hs, hb⟩
      intro hab
      rw [statusOf, hab, hx] at hb
      exact (Option.some.inj hb) ▸ hs
    · apply hmoved t
      intro b hb
      cases hb
      exact Option.ne_none_iff_exists'.mpr ⟨_, origin_of_get hx⟩
    · exact hkept t _ (by simp)
  | refused t a hphase =>
    have hgive : ¬ GivesUp w (w.phase t) := hcare
    have hnot : ¬ Awaited w a ∧ w.origin a ≠ none := by
      rcases hphase with hphase | hphase | ⟨r, hphase, hr⟩
      · rw [hphase] at hgive
        exact ⟨hgive, h.known t a (by rw [hphase]; rfl)⟩
      · rw [hphase] at hgive
        exact ⟨hgive, h.known t a (by rw [hphase]; rfl)⟩
      · rw [hphase] at hgive
        have hentered := (h.ordered.works t r hphase).entered
        exact hr ▸ ⟨hgive, h.ordered.known r.action hentered⟩
    apply movable_aside h haside (fun _ _ _ _ hcan => hcan)
    · apply hmoved t
      intro b hb
      cases hb
      exact hnot.2
    · intro t' b succeeded hphase' i k hwait
      rw [phase_move] at hphase'
      split_ifs at hphase'
      · cases hphase'
        exact hnot.1 (awaited_of_waits hwait)
      · exact h.recorded t' b succeeded hphase' i k hwait
  | recorded t a succeeded hphase =>
    apply movable_aside h haside
    · intro b i k hwait hcan
      apply canRun_mark _ hcan
      intro hab
      exact absurd (hab ▸ hwait) (h.recorded t a succeeded hphase i k)
    · exact hmoved t _ (by simp [Phase.action])
    · exact hkept t _ (by simp)
  | vanished t =>
    apply movable_aside h haside (fun _ _ _ _ hcan => hcan)
    · exact hmoved t _ (by simp [Phase.action])
    · exact hkept t _ (by simp)
  | reconciled =>
    apply movable_aside h haside _ h.known h.recorded
    intro a i k hwait hcan
    obtain ⟨s, hs, hstatus⟩ := hcan
    obtain ⟨x, hx, hxs⟩ := Option.map_eq_some_iff.mp hstatus
    refine ⟨s, hs, ?_⟩
    show (Table.get (Table.update w.actions interrupted abandon) a).map _ = some s
    rw [Table.get_update w.actions interrupted abandon (fun _ => rfl), hx,
      Option.map_some, Option.map_some]
    -- an interrupted Action is not awaited
    have hquiet : ¬ interrupted x = true := by
      intro hboth
      have hnot := hcare x (Table.mem_of_get hx) hboth
      have hid : x.id = a := Table.key_of_get hx
      rw [hid] at hnot
      exact hnot (awaited_of_waits hwait)
    rw [if_neg hquiet, hxs]

/-- **Step lemma.** -/
theorem movable_step (h : Movable w) (hcare : Moving w l) (hstep : step w l = some w') :
    Movable w' := by
  cases stepped_of_step hstep with
  | opened host roles hlock => exact movable_prepare h hlock host roles
  | requested _ g kind hg hstate hkind =>
    exact movable_request h (Table.get_of_mem h.ordered.gateKeys hg) hstate hkind
  | started t x hphase hx =>
    exact movable_start h hx (hcare.once.started hphase)
  | worked t o r g hphase hg =>
    have hrun : OnRun w (fun _ r => Closing r o r.pc) (w.phase t) := hcare
    exact movable_work h hphase hg (hrun.of_running hphase hg)
  | beside _ _ hbeside => exact movable_beside h hcare hbeside

/-- **Run lemma.** -/
theorem movable_run (labels : List Label) (w w' : World) (h : Movable w)
    (hmeets : gateSystem.Meets Moving w labels)
    (hrun : gateSystem.run w labels = some w') : Movable w' :=
  gateSystem.run_invariant_of_meets Moving Movable
    (fun _ _ _ hw hC hstep => movable_step hw hC hstep) labels w w' h hmeets hrun

/-- A gate is undone by one Action, one gate is under way, and a gate in the state
of a step has an Action for it that can still run. -/
structure Governed (w : World) : Prop where
  one_undo : ∀ x ∈ w.actions, ∀ y ∈ w.actions, x.kind ≠ .prepare →
    y.kind ≠ .prepare → x.gateId = y.gateId → x = y
  one_gate : ∀ g ∈ w.gates, ∀ g' ∈ w.gates, g.journal.state.terminal = false →
    g'.journal.state.terminal = false → g = g'
  movable : ∀ g ∈ w.gates, ∀ k : GateKind, g.journal.state = k.state →
    ∃ x ∈ w.actions, g.actionOf k = some x.id ∧ x.status ∈ runnable

/-- **Requests.** -/
theorem gates_movable (quorum flags : List String) (labels : List Label) (w : World)
    (hmeets : gateSystem.Meets Moving (World.initial quorum flags) labels)
    (hrun : gateSystem.run (World.initial quorum flags) labels = some w) : Governed w := by
  have h := movable_run labels _ w (movable_initial quorum flags) hmeets hrun
  have horigin : ∀ x ∈ w.actions, w.origin x.id = some (x.gateId, x.kind) := by
    intro x hx
    exact origin_of_get (Table.get_of_mem h.ordered.actionKeys hx)
  have hgate : ∀ g ∈ w.gates, Table.get w.gates g.id = some g :=
    fun g hg => Table.get_of_mem h.ordered.gateKeys hg
  constructor
  case one_undo =>
    intro x hx y hy hxk hyk hsame
    have hxo := horigin x hx
    rw [hsame] at hxo
    have hid := h.once x.id y.id _ _ _ hxo (horigin y hy) hxk hyk
    have hxg : Table.get w.actions x.id = some x :=
      Table.get_of_mem h.ordered.actionKeys hx
    have hyg : Table.get w.actions y.id = some y :=
      Table.get_of_mem h.ordered.actionKeys hy
    rw [hid, hyg, Option.some.injEq] at hxg
    exact hxg.symm
  case one_gate =>
    intro g hg g' hg' hopen hopen'
    have hheld := h.ordered.held g.id g (hgate g hg) hopen
    rw [h.ordered.held g'.id g' (hgate g' hg') hopen', Option.some.injEq] at hheld
    have hsame := hgate g hg
    rw [← hheld, hgate g' hg', Option.some.injEq] at hsame
    exact hsame.symm
  case movable =>
    intro g hg k hstate
    obtain ⟨a, ha⟩ := Option.ne_none_iff_exists'.mp
      (h.posted g.id g k (hgate g hg) hstate)
    obtain ⟨s, hs, hstatus⟩ := h.movable a g.id k ⟨g, hgate g hg, hstate, ha⟩
    obtain ⟨x, hx, hxs⟩ := Option.map_eq_some_iff.mp hstatus
    have hid : x.id = a := Table.key_of_get hx
    exact ⟨x, Table.mem_of_get hx, hid ▸ ha, hxs ▸ hs⟩

/-- The `abort` of a prepared gate fails, and the node is requested again. -/
def retriedRun : List Label :=
  [.prepareGate "a" ["OSD"]] ++ executed 0 1 (List.replicate 9 Outcome.success) ++
    [.abortGate "a"] ++ executed 1 2 [Outcome.success, Outcome.success,
      Outcome.error, Outcome.success] ++
    [.prepareGate "a" ["OSD"]]

theorem gates_movable_retriedRun : ∃ w,
    gateSystem.run (World.initial ["a", "b", "c"] []) retriedRun = some w ∧
      w.gates.length = 2 ∧ Governed w := by
  have hview : (gateSystem.run (World.initial ["a", "b", "c"] [])
      retriedRun).map (fun w => w.gates.length) = some 2 := by
    decide +kernel
  obtain ⟨w, hrun, hgates⟩ := Option.map_eq_some_iff.mp hview
  refine ⟨w, hrun, hgates, ?_⟩
  exact gates_movable ["a", "b", "c"] [] retriedRun w (by decide +kernel) hrun

/-- The Action of a `prepare` is rejected: its gate stays `PREPARING`. -/
theorem rejected_prepare_holds_lock :
    ¬ ∀ (quorum flags : List String) (labels : List Label) (w : World),
      gateSystem.run (World.initial quorum flags) labels = some w →
        Governed w := by
  intro h
  have hview : (gateSystem.run (World.initial ["a", "b", "c"] [])
      [.prepareGate "a" ["OSD"], .reject 1]).map (fun w =>
        (w.gates.map (fun g => g.journal.state), w.lock,
          w.actions.map GateAction.status)) =
      some ([.preparing], some 1, [.rejected]) := by
    decide +kernel
  obtain ⟨w, hrun, hrows⟩ := Option.map_eq_some_iff.mp hview
  rw [Prod.mk.injEq, Prod.mk.injEq] at hrows
  obtain ⟨g, hg, hstate⟩ := List.mem_map.mp
    (show GateState.preparing ∈ w.gates.map (fun g => g.journal.state) by
      rw [hrows.1]
      simp)
  obtain ⟨x, hx, _, hstatus⟩ := (h _ _ _ w hrun).movable g hg .prepare hstate
  have hrejected : x.status ∈ w.actions.map GateAction.status :=
    List.mem_map_of_mem hx
  rw [hrows.2.2, List.mem_singleton] at hrejected
  rw [hrejected] at hstatus
  exact absurd hstatus (by decide)

end CephAi.Ports.GateRequests
