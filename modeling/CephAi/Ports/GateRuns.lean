import CephAi.Ports.NodeOsGate

/-!
# Runs of the node OS gate

Requests, decisions and Worker threads on one cluster, in any order.  Each label
is one database transaction, or one remote command, or the end of a thread.  A
request that changes nothing is not a step.

`confirm_node_os_gate` reads the gate twice; its label names the gate that its
first read found.  `_execute_approved_action` is `recheck`, `claim` and `enter`;
a refusal in between, and an exception that nobody catches, is `refuse`.
`reconcile` is what a starting Worker does to the Actions another one left.

## Main results

* `stepped_of_step`, `aside_of_beside` — what the steps do, one by one, and that
  those of operators and of the router leave the gates alone.
* `ordered_step`, `ordered_run` — while no Action is run twice, a gate that has
  not ended holds the lock, at most one thread works, and a gate waits for an
  Action that was not run.
-/

namespace CephAi.Ports.GateRuns

open Verified Models NodeOsGate

/-- Where a Worker thread is. -/
inductive Phase
  | idle
  | claiming (action : Nat)
  | claimed (action : Nat)
  | running (r : Run)
  | recording (action : Nat) (succeeded : Bool)
deriving DecidableEq, Repr

/-- A cluster, its rows and its Worker threads.  `entered` has the Actions that
were run, `before` what was live when the last gate was requested; nothing reads
them. -/
structure World where
  live : Live
  gates : List Gate
  lock : Option Nat
  actions : List GateAction
  phase : Nat → Phase
  entered : List Nat
  before : Live

/-- A cluster without gates. -/
def World.initial (quorum flags : List String) : World where
  live := ⟨quorum, flags, []⟩
  gates := []
  lock := none
  actions := []
  phase := fun _ => .idle
  entered := []
  before := ⟨quorum, flags, []⟩

inductive Label
  | prepareGate (host : String) (roles : List String)
  | abortGate (host : String)
  | confirmGate (gateId : Nat)
  | approve (action : Nat)
  | reject (action : Nat)
  | recheck (t action : Nat) (unchanged : Bool)
  | claim (t : Nat)
  | refuse (t : Nat)
  | enter (t : Nat)
  | work (t : Nat) (o : Outcome)
  | record (t : Nat)
  | vanish (t : Nat)
  | reconcile
deriving DecidableEq, Repr

/-! ## The transactions -/

/-- A thread goes on. -/
def World.move (w : World) (t : Nat) (p : Phase) : World :=
  { w with phase := fun t' => if t' = t then p else w.phase t' }

/-- The status of an Action and whether its Incident is `EXECUTING`. -/
def World.mark (w : World) (action : Nat) (status : ActionStatus)
    (executing : Bool) : World :=
  { w with
    actions := Table.modify w.actions action
      (fun x => { x with status := status, executing := executing }) }

/-- The transaction of `prepare_node_os_gate`. -/
def World.prepare (w : World) (host : String) (roles : List String) : World :=
  { w with
    lock := some (Table.fresh w.gates)
    gates := Table.insert w.gates
      { id := Table.fresh w.gates
        host := host
        roles := roles
        prepareActionId := Table.fresh w.actions
        confirmActionId := none
        abortActionId := none
        journal := ⟨.preparing, [], false⟩ }
    actions := Table.insert w.actions
      ⟨Table.fresh w.actions, Table.fresh w.gates, .prepare, .pendingApproval,
        false⟩
    before := w.live }

/-- What `abort_node_os_gate` and `confirm_node_os_gate` write to the gate. -/
def request (kind : GateKind) (action : Nat) (g : Gate) : Gate :=
  { g with
    confirmActionId := if kind = .recover then some action else g.confirmActionId
    abortActionId := if kind = .abort then some action else g.abortActionId
    journal := { g.journal with state := kind.state } }

/-- The transaction of `abort_node_os_gate` and `confirm_node_os_gate`. -/
def World.request (w : World) (gateId : Nat) (kind : GateKind) : World :=
  { w with
    gates := Table.modify w.gates gateId
      (GateRuns.request kind (Table.fresh w.actions))
    actions := Table.insert w.actions
      ⟨Table.fresh w.actions, gateId, kind, .pendingApproval, false⟩ }

/-- The gate an abort request finds. -/
def latestGate (gates : List Gate) (host : String) : Option Gate :=
  (gates.filter (fun g => g.host == host)).getLast?

/-- Another gate Action that was proposed and has not ended. -/
def lifecycleConflict (actions : List GateAction) (action : Nat) : Bool :=
  actions.any (fun x => x.id != action &&
    [ActionStatus.pendingApproval, .approved, .executing].contains x.status)

/-- An Action that a stopped Worker left behind. -/
def interrupted (x : GateAction) : Bool := x.status == .approved && x.executing

/-- What `reconcile_interrupted_approved_executions` writes to it. -/
def abandon (x : GateAction) : GateAction :=
  { x with status := .inconclusive, executing := false }

/-- A thread starts to run an Action. -/
def World.start (w : World) (t : Nat) (x : GateAction) : World :=
  { w with
    phase := fun t' =>
      if t' = t then .running ⟨x.id, x.gateId, x.kind, .resolve, none, none⟩
      else w.phase t'
    entered := x.id :: w.entered }

/-- How a thread goes on after a command of its run. -/
def Next.phase (r : Run) : Next → Phase
  | .goOn r' => .running r'
  | .ended succeeded => .recording r.action succeeded
  | .raised => .recording r.action false

/-- The next command or transaction of a run. -/
def World.command (w : World) (r : Run) (g : Gate) (o : Outcome) : Site × Next :=
  runStep (isGatePending w.gates r.action) g ⟨w.live, g.journal, w.lock⟩ r o

/-- A thread works on a gate. -/
def World.work (w : World) (t : Nat) (r : Run) (g : Gate) (o : Outcome) :
    World :=
  let after := w.command r g o
  { w with
    live := after.1.live
    gates := Table.modify w.gates r.gateId (Gate.write after.1.journal)
    lock := after.1.lock
    phase := fun t' =>
      if t' = t then Next.phase r after.2 else w.phase t' }

def step (w : World) : Label → Option World
  | .prepareGate host roles =>
    if w.gates.any (fun g => g.host == host && !g.journal.state.terminal) then none
    else if w.lock = none then some (w.prepare host roles)
    else none
  | .abortGate host =>
    match latestGate w.gates host with
    | none => none
    | some g =>
      if g.journal.state = .prepared ∧ g.abortActionId = none then
        some (w.request g.id .abort)
      else none
  | .confirmGate gateId =>
    match Table.get w.gates gateId with
    | none => none
    | some g =>
      if g.journal.state = .prepared then some (w.request g.id .recover) else none
  | .approve action =>
    match Table.get w.actions action with
    | none => none
    | some x =>
      if x.status = .pendingApproval ∧ isGatePending w.gates action = false ∧
          lifecycleConflict w.actions action = false then
        some (w.mark action .approved false)
      else none
  | .reject action =>
    match Table.get w.actions action with
    | none => none
    | some x =>
      if x.status = .pendingApproval then some (w.mark action .rejected false)
      else none
  | .recheck t action unchanged =>
    match w.phase t, Table.get w.actions action with
    | .idle, some x =>
      if x.status = .approved then
        if unchanged then some (w.move t (.claiming action))
        else some (w.mark action .pendingApproval false)
      else none
    | _, _ => none
  | .claim t =>
    match w.phase t with
    | .claiming action =>
      match Table.get w.actions action with
      | none => none
      | some x =>
        if x.executing then some (w.move t .idle)
        else some ((w.mark action x.status true).move t (.claimed action))
    | _ => none
  | .refuse t =>
    match w.phase t with
    | .claiming action | .claimed action =>
      some (w.move t (.recording action false))
    | .running r => some (w.move t (.recording r.action false))
    | _ => none
  | .enter t =>
    match w.phase t with
    | .claimed action =>
      match Table.get w.actions action with
      | none => none
      | some x => some (w.start t x)
    | _ => none
  | .work t o =>
    match w.phase t with
    | .running r =>
      match Table.get w.gates r.gateId with
      | none => none
      | some g => some (w.work t r g o)
    | _ => none
  | .record t =>
    match w.phase t with
    | .recording action succeeded =>
      some ((w.mark action (if succeeded then .executed else .failed) false).move t
        .idle)
    | _ => none
  | .vanish t => some (w.move t .idle)
  | .reconcile =>
    some { w with actions := Table.update w.actions interrupted abandon }

/-- The cluster with its gates. -/
def gateSystem : Runs.System World Label where
  step := step

/-- A thread decides on an Action, claims it and runs it: its approval, its
recheck, its claim, its commands and its record. -/
def executed (t action : Nat) (outcomes : List Outcome) : List Label :=
  [.approve action, .recheck t action true, .claim t, .enter t] ++
    outcomes.map (Label.work t) ++ [.record t]

/-! ## What a step does -/

/-- The gate and the kind of the Action under a key. -/
def World.origin (w : World) (a : Nat) : Option (Nat × GateKind) :=
  (Table.get w.actions a).map GateAction.origin

variable {a t : Nat} {g : Gate} {k : GateKind} {l : Label} {r : Run} {w w' : World} {x : GateAction}

theorem origin_of_get (hx : Table.get w.actions a = some x) :
    w.origin a = some (x.gateId, x.kind) := by
  unfold World.origin
  rw [hx]
  rfl

/-- A step that leaves the gates alone. -/
structure Aside (w w' : World) : Prop where
  live : w'.live = w.live
  gates : w'.gates = w.gates
  lock : w'.lock = w.lock
  entered : w'.entered = w.entered
  before : w'.before = w.before
  keys : w'.actions.map Table.Keyed.key = w.actions.map Table.Keyed.key
  origin : ∀ a, w'.origin a = w.origin a
  running : ∀ t r, w'.phase t = .running r → w.phase t = .running r

/-- The steps of operators and of the router, one by one. -/
inductive Beside (w : World) : Label → World → Prop
  | approved (a : Nat) (x : GateAction) (hx : Table.get w.actions a = some x)
    (hstatus : x.status = .pendingApproval) :
    Beside w (.approve a) (w.mark a .approved false)
  | rejected (a : Nat) (x : GateAction) (hx : Table.get w.actions a = some x)
    (hstatus : x.status = .pendingApproval) :
    Beside w (.reject a) (w.mark a .rejected false)
  | passed (t a : Nat) (unchanged : Bool) (x : GateAction)
    (hphase : w.phase t = .idle) (hx : Table.get w.actions a = some x)
    (hstatus : x.status = .approved) :
    Beside w (.recheck t a unchanged) (w.move t (.claiming a))
  | returned (t a : Nat) (unchanged : Bool) (x : GateAction)
    (hphase : w.phase t = .idle) (hx : Table.get w.actions a = some x)
    (hstatus : x.status = .approved) :
    Beside w (.recheck t a unchanged) (w.mark a .pendingApproval false)
  | lost (t a : Nat) (x : GateAction) (hphase : w.phase t = .claiming a)
    (hx : Table.get w.actions a = some x) :
    Beside w (.claim t) (w.move t .idle)
  | claimed (t a : Nat) (x : GateAction) (hphase : w.phase t = .claiming a)
    (hx : Table.get w.actions a = some x) :
    Beside w (.claim t) ((w.mark a x.status true).move t (.claimed a))
  | refused (t a : Nat)
    (hphase : w.phase t = .claiming a ∨ w.phase t = .claimed a ∨
      ∃ r, w.phase t = .running r ∧ r.action = a) :
    Beside w (.refuse t) (w.move t (.recording a false))
  | recorded (t a : Nat) (succeeded : Bool)
    (hphase : w.phase t = .recording a succeeded) :
    Beside w (.record t)
      ((w.mark a (if succeeded then .executed else .failed) false).move t .idle)
  | vanished (t : Nat) : Beside w (.vanish t) (w.move t .idle)
  | reconciled :
    Beside w .reconcile
      { w with actions := Table.update w.actions interrupted abandon }

/-- The steps of a cluster. -/
inductive Stepped (w : World) : Label → World → Prop
  | opened (host : String) (roles : List String) (hlock : w.lock = none) :
    Stepped w (.prepareGate host roles) (w.prepare host roles)
  | requested (l : Label) (g : Gate) (kind : GateKind) (hg : g ∈ w.gates)
    (hstate : g.journal.state = .prepared) (hkind : kind ≠ .prepare) :
    Stepped w l (w.request g.id kind)
  | started (t : Nat) (x : GateAction) (hphase : w.phase t = .claimed x.id)
    (hx : Table.get w.actions x.id = some x) : Stepped w (.enter t) (w.start t x)
  | worked (t : Nat) (o : Outcome) (r : Run) (g : Gate)
    (hphase : w.phase t = .running r) (hg : Table.get w.gates r.gateId = some g) :
    Stepped w (.work t o) (w.work t r g o)
  | beside (l : Label) (w' : World) (h : Beside w l w') : Stepped w l w'

theorem Aside.trans {w'' : World} (h : Aside w w') (h' : Aside w' w'') :
    Aside w w'' where
  live := h'.live.trans h.live
  gates := h'.gates.trans h.gates
  lock := h'.lock.trans h.lock
  entered := h'.entered.trans h.entered
  before := h'.before.trans h.before
  keys := h'.keys.trans h.keys
  origin := fun a => (h'.origin a).trans (h.origin a)
  running := fun t r hr => h.running t r (h'.running t r hr)

/-- A rewrite of statuses. -/
theorem aside_update (w : World) (p : GateAction → Bool) (f : GateAction → GateAction)
    (hkey : ∀ x, (f x).id = x.id) (horigin : ∀ x, GateAction.origin (f x) = GateAction.origin x) :
    Aside w { w with actions := Table.update w.actions p f } where
  live := rfl
  gates := rfl
  lock := rfl
  entered := rfl
  before := rfl
  keys := Table.map_update_of_eq w.actions p f Table.Keyed.key hkey
  origin := Table.map_get_update_of_eq w.actions p f hkey GateAction.origin horigin
  running := fun _ _ h => h

theorem aside_mark (w : World) (a : Nat) (status : ActionStatus)
    (executing : Bool) : Aside w (w.mark a status executing) :=
  aside_update w _ _ (fun _ => rfl) (fun _ => rfl)

theorem aside_move (w : World) (t : Nat) {p : Phase} (hp : ∀ r, p ≠ .running r) :
    Aside w (w.move t p) where
  live := rfl
  gates := rfl
  lock := rfl
  entered := rfl
  before := rfl
  keys := rfl
  origin := fun _ => rfl
  running := by
    intro t' r h
    have hphase : (if t' = t then p else w.phase t') = .running r := h
    by_cases ht : t' = t
    · rw [if_pos ht] at hphase
      exact absurd hphase (hp r)
    · rwa [if_neg ht] at hphase

theorem aside_of_beside (h : Beside w l w') : Aside w w' := by
  cases h with
  | approved | rejected | returned => exact aside_mark w _ _ _
  | passed | lost | refused | vanished => exact aside_move w _ (by simp)
  | claimed | recorded =>
    exact (aside_mark w _ _ _).trans (aside_move _ _ (by simp))
  | reconciled => exact aside_update w interrupted abandon (fun _ => rfl) (fun _ => rfl)

theorem stepped_of_step (h : step w l = some w') : Stepped w l w' := by
  revert h
  fun_cases step w l <;> rintro ⟨⟩
  next hlock => exact .opened _ _ hlock
  next g hg hstate =>
    have hmem : g ∈ w.gates := (List.mem_filter.mp (List.mem_of_getLast? hg)).1
    exact .requested _ g .abort hmem hstate.1 (by simp)
  next g hg hstate => exact .requested _ g .recover (Table.mem_of_get hg) hstate (by simp)
  next hx hguard => exact .beside _ _ (.approved _ _ hx hguard.1)
  next hx hstatus => exact .beside _ _ (.rejected _ _ hx hstatus)
  next hx hphase hstatus => exact .beside _ _ (.passed _ _ _ _ hphase hx hstatus)
  next hx hphase hstatus _ => exact .beside _ _ (.returned _ _ _ _ hphase hx hstatus)
  next hphase _ hx _ => exact .beside _ _ (.lost _ _ _ hphase hx)
  next hphase _ hx _ => exact .beside _ _ (.claimed _ _ _ hphase hx)
  next hphase => exact .beside _ _ (.refused _ _ (Or.inl hphase))
  next hphase => exact .beside _ _ (.refused _ _ (Or.inr (Or.inl hphase)))
  next r hphase => exact .beside _ _ (.refused _ _ (Or.inr (Or.inr ⟨r, hphase, rfl⟩)))
  next hphase x hx =>
    cases Table.key_of_get hx
    exact .started _ x hphase hx
  next hphase _ hg => exact .worked _ _ _ _ hphase hg
  next hphase => exact .beside _ _ (.recorded _ _ _ hphase)
  · exact .beside _ _ (.vanished _)
  · exact .beside _ _ .reconciled

/-! ## Order -/

/-- A gate is in the state of a step, and the step is this Action's. -/
def Waits (w : World) (a gateId : Nat) (k : GateKind) : Prop :=
  ∃ g, Table.get w.gates gateId = some g ∧ g.journal.state = k.state ∧
    g.actionOf k = some a

/-- What a run works on. -/
structure Works (w : World) (r : Run) : Prop where
  gate : ∃ g, Table.get w.gates r.gateId = some g ∧
    g.journal.state = r.kind.state ∧ g.actionOf r.kind = some r.action ∧
    r.pc.fits g r.kind
  entered : r.action ∈ w.entered

/-- What holds while no Action is run twice. -/
structure Ordered (w : World) : Prop where
  gateKeys : (w.gates.map Table.Keyed.key).Nodup
  actionKeys : (w.actions.map Table.Keyed.key).Nodup
  held : ∀ i g, Table.get w.gates i = some g → g.journal.state.terminal = false →
    w.lock = some i
  owns : ∀ i g k a, Table.get w.gates i = some g → g.actionOf k = some a →
    w.origin a = some (i, k)
  waits : ∀ a i k, w.origin a = some (i, k) → a ∉ w.entered → Waits w a i k
  known : ∀ a ∈ w.entered, w.origin a ≠ none
  works : ∀ t r, w.phase t = .running r → Works w r
  sole : ∀ t t' r r', w.phase t = .running r → w.phase t' = .running r' → t = t'

/-- A thread does not start to run an Action that was run. -/
def NotEntered (w : World) : Phase → Prop
  | .claimed a => a ∉ w.entered
  | _ => True

/-- No Action is run twice. -/
def Once (w : World) : Label → Prop
  | .enter t => NotEntered w (w.phase t)
  | _ => True

instance (w : World) (p : Phase) : Decidable (NotEntered w p) :=
  match p with
  | .claimed a => inferInstanceAs (Decidable (a ∉ w.entered))
  | .idle | .claiming _ | .running _ | .recording .. =>
    inferInstanceAs (Decidable True)

instance (w : World) (l : Label) : Decidable (Once w l) :=
  match l with
  | .enter t => inferInstanceAs (Decidable (NotEntered w (w.phase t)))
  | .prepareGate .. | .abortGate _ | .confirmGate _ | .approve _ | .reject _
  | .recheck .. | .claim _ | .refuse _ | .work .. | .record _ | .vanish _
  | .reconcile => inferInstanceAs (Decidable True)

/-- A condition on the next command of a run, with its gate. -/
def OnRun (w : World) (C : Gate → Run → Prop) : Phase → Prop
  | .running r => ∀ g ∈ Table.get w.gates r.gateId, C g r
  | _ => True

instance (w : World) (C : Gate → Run → Prop) [∀ g r, Decidable (C g r)]
    (p : Phase) : Decidable (OnRun w C p) :=
  match p with
  | .running r =>
    inferInstanceAs (Decidable (∀ g ∈ Table.get w.gates r.gateId, C g r))
  | .idle | .claiming _ | .claimed _ | .recording .. =>
    inferInstanceAs (Decidable True)

theorem OnRun.of_running {C : Gate → Run → Prop} (h : OnRun w C (w.phase t))
    (hrun : w.phase t = .running r) (hg : Table.get w.gates r.gateId = some g) : C g r := by
  rw [hrun] at h
  exact h g hg

theorem ordered_initial (quorum flags : List String) :
    Ordered (World.initial quorum flags) where
  gateKeys := List.nodup_nil
  actionKeys := List.nodup_nil
  held := by simp [World.initial, Table.get]
  owns := by simp [World.initial, Table.get]
  waits := by simp [World.initial, World.origin, Table.get]
  known := by simp [World.initial]
  works := by simp [World.initial]
  sole := by simp [World.initial]

theorem Works.waits (h : Works w r) : Waits w r.action r.gateId r.kind := by
  obtain ⟨g, hg, hstate, haction, _⟩ := h.gate
  exact ⟨g, hg, hstate, haction⟩

theorem Works.gate_of_get (h : Works w r) (hg : Table.get w.gates r.gateId = some g) :
    g.journal.state = r.kind.state ∧ g.actionOf r.kind = some r.action ∧
      r.pc.fits g r.kind := by
  obtain ⟨g', hg', hrest⟩ := h.gate
  rw [hg, Option.some.injEq] at hg'
  exact hg' ▸ hrest

/-- The gates of a world that are not prepared are gates of another. -/
def Kept (w w' : World) : Prop :=
  ∀ i g, Table.get w.gates i = some g → g.journal.state ≠ .prepared →
    Table.get w'.gates i = some g

variable {i : Nat}

theorem Waits.of_kept (h : Waits w a i k) (hkept : Kept w w') : Waits w' a i k := by
  obtain ⟨g, hg, hstate, haction⟩ := h
  refine ⟨g, hkept i g hg ?_, hstate, haction⟩
  rw [hstate]
  exact GateKind.state_ne_prepared k

theorem Works.of_kept (h : Works w r) (hkept : Kept w w') (hentered : w'.entered = w.entered) :
    Works w' r where
  gate := by
    obtain ⟨g, hg, hstate, hrest⟩ := h.gate
    refine ⟨g, hkept _ g hg ?_, hstate, hrest⟩
    rw [hstate]
    exact GateKind.state_ne_prepared r.kind
  entered := hentered ▸ h.entered

theorem Works.get_of_kept (h : Works w r) (hkept : Kept w w')
    (hg : Table.get w'.gates r.gateId = some g) : Table.get w.gates r.gateId = some g := by
  obtain ⟨g', hg', hstate, _⟩ := h.gate
  have hg'' := hkept _ g' hg' (by
    rw [hstate]
    exact GateKind.state_ne_prepared r.kind)
  rw [hg, Option.some.injEq] at hg''
  rw [hg', hg'']

theorem Ordered.lock_of_waits (h : Ordered w) (hwaits : Waits w a i k) : w.lock = some i := by
  obtain ⟨g, hg, hstate, _⟩ := hwaits
  apply h.held i g hg
  rw [hstate, GateKind.terminal_state]

theorem Ordered.waits_unique (h : Ordered w) {a' i' : Nat} {k' : GateKind} (hwaits : Waits w a i k)
    (hwaits' : Waits w a' i' k') : a = a' := by
  have hlock := h.lock_of_waits hwaits
  rw [h.lock_of_waits hwaits', Option.some.injEq] at hlock
  subst hlock
  obtain ⟨g, hg, hstate, haction⟩ := hwaits
  obtain ⟨g', hg', hstate', haction'⟩ := hwaits'
  rw [hg, Option.some.injEq] at hg'
  subst hg'
  have hkind : k = k' := GateKind.eq_of_state (hstate.symm.trans hstate')
  subst hkind
  rw [haction, Option.some.injEq] at haction'
  exact haction'

theorem ordered_aside (h : Ordered w) (hstep : Aside w w') : Ordered w' := by
  have hkept : Kept w w' := by
    intro i g hg _
    rw [hstep.gates]
    exact hg
  constructor
  case gateKeys => exact hstep.gates ▸ h.gateKeys
  case actionKeys => exact hstep.keys ▸ h.actionKeys
  case held =>
    rw [hstep.gates, hstep.lock]
    exact h.held
  case owns =>
    intro i g k a hg haction
    rw [hstep.gates] at hg
    rw [hstep.origin]
    exact h.owns i g k a hg haction
  case waits =>
    intro a i k ha hnew
    rw [hstep.origin] at ha
    rw [hstep.entered] at hnew
    exact (h.waits a i k ha hnew).of_kept hkept
  case known =>
    intro a ha
    rw [hstep.entered] at ha
    rw [hstep.origin]
    exact h.known a ha
  case works =>
    intro t r hphase
    have hworks := h.works t r (hstep.running t r hphase)
    exact hworks.of_kept hkept hstep.entered
  case sole =>
    intro t t' r r' hr hr'
    exact h.sole t t' r r' (hstep.running t r hr) (hstep.running t' r' hr')

theorem origin_fresh (w : World) : w.origin (Table.fresh w.actions) = none := by
  unfold World.origin
  rw [Table.get_fresh]
  rfl

theorem origin_insert (i : Nat) (k : GateKind)
    (hw : w'.actions = Table.insert w.actions
      ⟨Table.fresh w.actions, i, k, .pendingApproval, false⟩)
    (a : Nat) :
    w'.origin a =
      if a = Table.fresh w.actions then some (i, k) else w.origin a := by
  unfold World.origin
  rw [hw, Table.get_insert_fresh rfl]
  split_ifs <;> rfl

theorem origin_prepare (w : World) (host : String) (roles : List String) (a : Nat) :
    (w.prepare host roles).origin a =
      if a = Table.fresh w.actions then some (Table.fresh w.gates, .prepare)
      else w.origin a :=
  origin_insert (Table.fresh w.gates) .prepare rfl a

theorem ordered_prepare (h : Ordered w) (hlock : w.lock = none) (host : String)
    (roles : List String) : Ordered (w.prepare host roles) := by
  have hgates : ∀ i, Table.get (w.prepare host roles).gates i =
      if i = Table.fresh w.gates then some _ else Table.get w.gates i :=
    Table.get_insert_fresh rfl
  have horigin := origin_prepare w host roles
  have hkept : Kept w (w.prepare host roles) :=
    fun i g hg _ => Table.get_insert_of_get rfl hg
  constructor
  case gateKeys => exact Table.keys_insert_fresh rfl h.gateKeys
  case actionKeys => exact Table.keys_insert_fresh rfl h.actionKeys
  case held =>
    intro i g hg hstate
    rw [hgates] at hg
    split_ifs at hg with hi
    · rw [hi]
      rfl
    · have hheld := h.held i g hg hstate
      rw [hlock] at hheld
      cases hheld
  case owns =>
    intro i g k a hg haction
    rw [hgates] at hg
    rw [horigin]
    split_ifs at hg with hi
    · cases hg
      cases k with
      | prepare =>
        cases haction
        rw [if_pos rfl, hi]
      | abort | recover => cases haction
    · have howns := h.owns i g k a hg haction
      rw [if_neg]
      · exact howns
      · intro ha
        rw [ha, origin_fresh] at howns
        cases howns
  case waits =>
    intro a i k ha hnew
    rw [horigin] at ha
    split_ifs at ha with hfresh
    · cases ha
      exact ⟨_, by rw [hgates, if_pos rfl], rfl, by rw [hfresh]; rfl⟩
    · exact (h.waits a i k ha hnew).of_kept hkept
  case known =>
    intro a ha
    rw [horigin]
    split_ifs
    · simp
    · exact h.known a ha
  case works =>
    intro t r hphase
    exact (h.works t r hphase).of_kept hkept rfl
  case sole => exact h.sole

theorem actionOf_request (kind k : GateKind) (a : Nat) (g : Gate) (hkind : kind ≠ .prepare) :
    (request kind a g).actionOf k = if k = kind then some a else g.actionOf k := by
  cases kind with
  | prepare => exact absurd rfl hkind
  | abort | recover => cases k <;> simp [request, Gate.actionOf]

theorem get_request (w : World) (gateId : Nat) (kind : GateKind) (i : Nat) :
    Table.get (w.request gateId kind).gates i =
      if i = gateId then
        (Table.get w.gates i).map (request kind (Table.fresh w.actions))
      else Table.get w.gates i :=
  Table.get_modify w.gates gateId (request kind _) (fun _ => rfl) i

theorem origin_request (w : World) (gateId : Nat) (kind : GateKind) (a : Nat) :
    (w.request gateId kind).origin a =
      if a = Table.fresh w.actions then some (gateId, kind) else w.origin a :=
  origin_insert gateId kind rfl a

theorem kept_request (kind : GateKind) (hg : Table.get w.gates g.id = some g)
    (hstate : g.journal.state = .prepared) : Kept w (w.request g.id kind) := by
  intro i g' hg' hne
  rw [get_request, if_neg]
  · exact hg'
  · intro hi
    rw [hi, hg, Option.some.injEq] at hg'
    exact hne (hg' ▸ hstate)

section

variable (h : Ordered w)
include h

theorem ordered_request {kind : GateKind} (hg : Table.get w.gates g.id = some g)
    (hstate : g.journal.state = .prepared) (hkind : kind ≠ .prepare) :
    Ordered (w.request g.id kind) := by
  have hgates := get_request w g.id kind
  have hself : Table.get (w.request g.id kind).gates g.id =
      some (request kind (Table.fresh w.actions) g) := by
    rw [hgates, if_pos rfl, hg]
    rfl
  have horigin := origin_request w g.id kind
  have hkept := kept_request kind hg hstate
  constructor
  case gateKeys =>
    show ((Table.modify w.gates g.id _).map Table.Keyed.key).Nodup
    rw [Table.keys_modify w.gates g.id (request kind _) (fun _ => rfl)]
    exact h.gateKeys
  case actionKeys => exact Table.keys_insert_fresh rfl h.actionKeys
  case held =>
    intro i g' hg' hnt
    rw [hgates] at hg'
    split_ifs at hg' with hi
    · rw [hi]
      apply h.held g.id g hg
      rw [hstate]
      rfl
    · exact h.held i g' hg' hnt
  case owns =>
    have hprevious : ∀ {a i k}, w.origin a = some (i, k) →
        (w.request g.id kind).origin a = some (i, k) := by
      intro a i k ha
      rw [horigin, if_neg]
      · exact ha
      · intro heq
        rw [heq, origin_fresh] at ha
        cases ha
    intro i g' k a hg' haction
    by_cases hi : i = g.id
    · subst hi
      rw [hself, Option.some.injEq] at hg'
      rw [← hg', actionOf_request kind k _ g hkind] at haction
      split_ifs at haction with hk
      · cases haction
        rw [horigin, if_pos rfl, hk]
      · exact hprevious (h.owns _ g k a hg haction)
    · rw [hgates, if_neg hi] at hg'
      exact hprevious (h.owns i g' k a hg' haction)
  case waits =>
    intro a i k ha hnew
    rw [horigin] at ha
    split_ifs at ha with hfresh
    · cases ha
      refine ⟨_, hself, rfl, ?_⟩
      rw [actionOf_request kind kind _ g hkind, if_pos rfl, hfresh]
    · exact (h.waits a i k ha hnew).of_kept hkept
  case known =>
    intro a ha
    rw [horigin]
    split_ifs
    · simp
    · exact h.known a ha
  case works =>
    intro t r hphase
    exact (h.works t r hphase).of_kept hkept rfl
  case sole => exact h.sole

theorem Ordered.not_running (hx : Table.get w.actions x.id = some x)
    (hnew : x.id ∉ w.entered) (t : Nat) (r : Run) : w.phase t ≠ .running r := by
  intro hr
  have horigin : w.origin x.id = some (x.gateId, x.kind) := by
    unfold World.origin
    rw [hx]
    rfl
  have hworks := h.works t r hr
  apply hnew
  rw [h.waits_unique (h.waits x.id _ _ horigin hnew) hworks.waits]
  exact hworks.entered

theorem Ordered.running_start {t' : Nat} (hx : Table.get w.actions x.id = some x)
    (hnew : x.id ∉ w.entered) (hr : (w.start t x).phase t' = .running r) :
    t' = t ∧ r = ⟨x.id, x.gateId, x.kind, .resolve, none, none⟩ := by
  have hphase : (if t' = t then
      .running ⟨x.id, x.gateId, x.kind, .resolve, none, none⟩
      else w.phase t') = .running r := hr
  split_ifs at hphase with ht
  · cases hphase
    exact ⟨ht, rfl⟩
  · exact absurd hphase (h.not_running hx hnew t' r)

theorem ordered_start (hx : Table.get w.actions x.id = some x)
    (hnew : x.id ∉ w.entered) : Ordered (w.start t x) := by
  have horigin : w.origin x.id = some (x.gateId, x.kind) := by
    unfold World.origin
    rw [hx]
    rfl
  constructor
  case gateKeys => exact h.gateKeys
  case actionKeys => exact h.actionKeys
  case held => exact h.held
  case owns => exact h.owns
  case waits =>
    intro a i k ha hout
    apply h.waits a i k ha
    intro hmem
    exact hout (List.mem_cons_of_mem _ hmem)
  case known =>
    intro a ha
    cases ha with
    | head =>
      show w.origin x.id ≠ none
      rw [horigin]
      simp
    | tail _ ha => exact h.known a ha
  case works =>
    intro t' r hr
    obtain ⟨_, hr⟩ := h.running_start hx hnew hr
    subst hr
    obtain ⟨g, hg, hstate, haction⟩ := h.waits x.id _ _ horigin hnew
    exact ⟨⟨g, hg, hstate, haction, trivial⟩, List.mem_cons_self⟩
  case sole =>
    intro t₁ t₂ r₁ r₂ hr₁ hr₂
    rw [(h.running_start hx hnew hr₁).1, (h.running_start hx hnew hr₂).1]

end

theorem get_work (w : World) (t : Nat) (r : Run) (g : Gate) (o : Outcome) (i : Nat) :
    Table.get (w.work t r g o).gates i =
      if i = r.gateId then
        (Table.get w.gates i).map (Gate.write (w.command r g o).1.journal)
      else Table.get w.gates i :=
  Table.get_modify w.gates r.gateId (Gate.write _) (fun _ => rfl) i

theorem get_work_self (hg : Table.get w.gates r.gateId = some g) (t : Nat) (o : Outcome) :
    Table.get (w.work t r g o).gates r.gateId =
      some (g.write (w.command r g o).1.journal) := by
  rw [get_work, if_pos rfl, hg]
  rfl

theorem Ordered.running_work (h : Ordered w) {t' : Nat} {r' : Run} {o : Outcome}
    (hrun : w.phase t = .running r) (hr' : (w.work t r g o).phase t' = .running r') :
    t' = t ∧ (w.command r g o).2 = .goOn r' := by
  have hphase : (if t' = t then Next.phase r (w.command r g o).2
      else w.phase t') = .running r' := hr'
  split_ifs at hphase with ht
  · cases hnext : (w.command r g o).2 with
    | goOn r'' =>
      rw [hnext] at hphase
      cases hphase
      exact ⟨ht, rfl⟩
    | ended | raised =>
      rw [hnext] at hphase
      cases hphase
  · exact absurd (h.sole t' t r' r hphase hrun) ht

theorem ordered_work (h : Ordered w) (o : Outcome) (hrun : w.phase t = .running r)
    (hg : Table.get w.gates r.gateId = some g) : Ordered (w.work t r g o) := by
  have hworks := h.works t r hrun
  have hlock := h.lock_of_waits hworks.waits
  obtain ⟨hstate, haction, hfits⟩ := hworks.gate_of_get hg
  have hself := get_work_self hg t o
  have hframe : Framed g _ r (w.command r g o).1 (w.command r g o).2 :=
    runStep_frame (isGatePending w.gates r.action) g
      ⟨w.live, g.journal, w.lock⟩ r o hfits
  constructor
  case gateKeys =>
    show ((Table.modify w.gates r.gateId _).map Table.Keyed.key).Nodup
    rw [Table.keys_modify w.gates r.gateId (Gate.write _) (fun _ => rfl)]
    exact h.gateKeys
  case actionKeys => exact h.actionKeys
  case held =>
    intro i g' hg' hnt
    show (w.command r g o).1.lock = some i
    by_cases hi : i = r.gateId
    · subst hi
      rw [hself, Option.some.injEq] at hg'
      subst hg'
      cases hframe.lock with
      | inl hkept => rw [hkept, hlock]
      | inr hreleased =>
        have hopen : (w.command r g o).1.journal.state.terminal = false := hnt
        rw [hreleased.2] at hopen
        cases hopen
    · rw [get_work, if_neg hi] at hg'
      have hheld := h.held i g' hg' hnt
      rw [hlock, Option.some.injEq] at hheld
      exact absurd hheld.symm hi
  case owns =>
    intro i g' k a hg' ha
    by_cases hi : i = r.gateId
    · subst hi
      rw [hself, Option.some.injEq] at hg'
      subst hg'
      exact h.owns _ g k a hg ha
    · rw [get_work, if_neg hi] at hg'
      exact h.owns i g' k a hg' ha
  case waits =>
    intro a i k ha hnew
    have hwaits := h.waits a i k ha hnew
    have hne : i ≠ r.gateId := by
      intro hi
      apply hnew
      rw [h.waits_unique hwaits hworks.waits]
      exact hworks.entered
    obtain ⟨g', hg', hrest⟩ := hwaits
    exact ⟨g', by rw [get_work, if_neg hne]; exact hg', hrest⟩
  case known => exact h.known
  case works =>
    intro t' r' hr'
    obtain ⟨_, hnext⟩ := h.running_work hrun hr'
    obtain ⟨ha, hi, hk, hfits, hkept⟩ := hframe.goesOn r' hnext
    constructor
    · refine ⟨_, by rw [hi]; exact hself, ?_, ?_, ?_⟩
      · rw [hk, ← hstate]
        exact hkept
      · rw [hk, ha]
        exact haction
      · exact Pc.fits_of_roles rfl hfits
    · rw [ha]
      exact hworks.entered
  case sole =>
    intro t₁ t₂ r₁ r₂ hr₁ hr₂
    rw [(h.running_work hrun hr₁).1, (h.running_work hrun hr₂).1]

theorem Once.started (h : Once w (.enter t)) (hphase : w.phase t = .claimed a) : a ∉ w.entered := by
  have hnew : NotEntered w (w.phase t) := h
  rw [hphase] at hnew
  exact hnew

/-- **Step lemma.** -/
theorem ordered_step (h : Ordered w) (honce : Once w l) (hstep : step w l = some w') :
    Ordered w' := by
  cases stepped_of_step hstep with
  | opened host roles hlock => exact ordered_prepare h hlock host roles
  | requested _ g kind hg hstate hkind =>
    exact ordered_request h (Table.get_of_mem h.gateKeys hg) hstate hkind
  | started t x hphase hx => exact ordered_start h hx (honce.started hphase)
  | worked t o r g hphase hg => exact ordered_work h o hphase hg
  | beside _ _ hbeside => exact ordered_aside h (aside_of_beside hbeside)

/-- **Run lemma.** -/
theorem ordered_run (labels : List Label) (w w' : World) (h : Ordered w)
    (hmeets : gateSystem.Meets Once w labels)
    (hrun : gateSystem.run w labels = some w') : Ordered w' :=
  gateSystem.run_invariant_of_meets Once Ordered
    (fun _ _ _ hw hC hstep => ordered_step hw hC hstep) labels w w' h hmeets hrun

/-- A gate is requested and approved, and a Worker starts to prepare it. -/
def entering : List Label :=
  [.prepareGate "a" ["mon"], .approve 1, .recheck 0 1 true, .claim 0, .enter 0]

theorem ordered_run_entering :
    ∃ w, gateSystem.run (World.initial ["a", "b"] []) entering = some w ∧ Ordered w :=
  ⟨_, rfl, ordered_run entering (World.initial ["a", "b"] []) _ (ordered_initial _ _) (by decide)
    rfl⟩

end CephAi.Ports.GateRuns
