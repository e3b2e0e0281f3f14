import CephAi.Verified.Grants
import CephAi.Verified.Runs

/-!
# Slots of the API rate limit, reserved in blocks

`allow_api_request` of `shared/api_rate_limit.py`, for one key with a common limit and window, in
any number of Dashboard processes.  The row of the key counts the slots that were reserved in its
window; its lock is held from the `SELECT ... FOR UPDATE` to the commit, so that transaction is one
step.  A process holds its own lock from the look at its reservation until the call returns, and
other processes take their steps in between.

A window is known by the number of resets before it.  The windows of the reservations, and
`World.log`, are not in the source: they say to which window a call that returned `True` is
charged.

## Main results

* `within_step` — what one step keeps.
* `allowed_le_limit` — no window has more calls than the limit.
-/

namespace CephAi.Ports.ApiReservations

open Verified.Runs Verified.Grants

/-! ## The row and the processes -/

/-- The arguments that the calls have in common. -/
structure Config where
  limit : Int
  windowSeconds : Int
deriving DecidableEq, Repr

/-- `timedelta(seconds=window_seconds)`; times are in microseconds. -/
def Config.window (cfg : Config) : Int := cfg.windowSeconds * 1000000

/-- A row of `ApiRateLimit`. -/
structure Row where
  requestCount : Nat
  windowStartedAt : Int
  updatedAt : Int
deriving DecidableEq, Repr

/-- An entry of `_reservations`, and the window whose slots it holds.  One without slots is not
stored. -/
structure Reservation where
  remaining : Nat
  expiresAt : Int
  window : Nat
  pos : 0 < remaining
deriving DecidableEq, Repr

/-- A call that holds the lock of its process: before its transaction, or with the slots that the
transaction reserved. -/
inductive Call
  | asking (now : Int) (size : Int)
  | granted (slots : Reservation)
deriving DecidableEq, Repr

/-- A Dashboard process. -/
structure Process where
  reservation : Option Reservation
  call : Option Call
deriving DecidableEq, Repr

/-- The shared row, the resets so far, the processes, and the windows of the calls that returned
`True`. -/
structure World where
  row : Option Row
  resets : Nat
  processes : List Process
  log : List Nat
deriving DecidableEq, Repr

def Process.new : Process := ⟨none, none⟩

def World.start (row : Option Row) : World := ⟨row, 0, [], []⟩

/-! ## `allow_api_request` -/

/-- `max(1, min(int(reservation_size), limit))` -/
def reservationSize (cfg : Config) (size : Int) : Int := max 1 (min size cfg.limit)

/-- The reservation after a call was served from it; `none` when it cannot serve one. -/
def Reservation.serve (now : Int) (r : Reservation) : Option (Option Reservation) :=
  if now < r.expiresAt ∧ 0 < r.remaining then
    some (if h : r.remaining = 1 then none
      else some { r with
        remaining := r.remaining - 1
        pos := Nat.sub_pos_of_lt (Nat.lt_of_le_of_ne r.pos (Ne.symm h)) })
  else none

/-- The row after `_insert_row` and the reset of a window that is over, and whether it was
reset. -/
def openWindow (cfg : Config) (row : Option Row) (now : Int) : Row × Bool :=
  let row := row.getD ⟨0, now, now⟩
  if cfg.window ≤ now - row.windowStartedAt then
    ({ row with requestCount := 0, windowStartedAt := now }, true)
  else (row, false)

/-- The slots that are reserved from a row; none when it has no capacity. -/
def slots (cfg : Config) (row : Row) (size : Int) : Nat :=
  (min (reservationSize cfg size) (cfg.limit - row.requestCount)).toNat

variable {cfg : Config} {p : Nat} {process : Process} {r : Reservation} {row : Row} {w w' : World}

theorem slots_pos (size : Int) (h : ¬cfg.limit - row.requestCount ≤ 0) :
    0 < slots cfg row size := by
  unfold slots reservationSize
  omega

/-- What a transaction comes to. -/
inductive Outcome
  | commits
  /-- It raises, and nothing is written. -/
  | fails
  /-- It is written, but the commit raises. -/
  | unheard
deriving DecidableEq, Repr

def World.setProcess (w : World) (p : Nat) (process : Process) : World :=
  { w with processes := w.processes.set p process }

/-- The transaction of a call. -/
def transact (cfg : Config) (w : World) (p : Nat) (process : Process) (now size : Int)
    (outcome : Outcome) : World :=
  let opened := openWindow cfg w.row now
  if h : cfg.limit - opened.1.requestCount ≤ 0 then
    w.setProcess p { process with call := none }
  else
    let reserved := slots cfg opened.1 size
    let resets := if opened.2 then w.resets + 1 else w.resets
    let written : World := { w with
      row := some { opened.1 with
        requestCount := opened.1.requestCount + reserved
        updatedAt := now }
      resets := resets }
    match outcome with
    | .commits => written.setProcess p { process with
        call := some (.granted
          ⟨reserved, opened.1.windowStartedAt + cfg.window, resets, slots_pos size h⟩) }
    | .fails => w.setProcess p { process with call := none }
    | .unheard => written.setProcess p { process with call := none }

inductive Label
  /-- A process starts. -/
  | spawn
  /-- A call gets the lock of its process and looks at the reservation. -/
  | begin (p : Nat) (now size : Int)
  /-- Its transaction. -/
  | transact (p : Nat) (outcome : Outcome)
  /-- It keeps the other slots as a reservation and returns `True`. -/
  | finish (p : Nat)
  /-- The process dies, and starts again. -/
  | die (p : Nat)
deriving DecidableEq, Repr

/-- A call looks at the reservation of its process. -/
def World.begin (w : World) (p : Nat) (process : Process) (now size : Int) : World :=
  match process.reservation with
  | none => w.setProcess p ⟨none, some (.asking now size)⟩
  | some r =>
    match r.serve now with
    | none => w.setProcess p ⟨none, some (.asking now size)⟩
    | some left => { w.setProcess p ⟨left, none⟩ with log := r.window :: w.log }

/-- What is left of the slots that were reserved. -/
def Reservation.keep (r : Reservation) (cached : Option Reservation) : Option Reservation :=
  if h : 1 < r.remaining then
    some { r with remaining := r.remaining - 1, pos := Nat.sub_pos_of_lt h }
  else cached

def step (cfg : Config) (w : World) : Label → Option World
  | .spawn => some { w with processes := w.processes ++ [Process.new] }
  | .begin p now size =>
    match w.processes[p]? with
    | none => none
    | some process =>
      match process.call with
      | some _ => none
      | none => some (w.begin p process now size)
  | .transact p outcome =>
    match w.processes[p]? with
    | none => none
    | some process =>
      match process.call with
      | some (.asking now size) => some (transact cfg w p process now size outcome)
      | _ => none
  | .finish p =>
    match w.processes[p]? with
    | none => none
    | some process =>
      match process.call with
      | some (.granted r) =>
        some { w.setProcess p ⟨r.keep process.reservation, none⟩ with log := r.window :: w.log }
      | _ => none
  | .die p =>
    match w.processes[p]? with
    | none => none
    | some _ => some (w.setProcess p Process.new)

def system (cfg : Config) : System World Label := ⟨step cfg⟩

/-- The calls that returned `True` and are charged to a window. -/
def World.allowed (w : World) (window : Nat) : Nat := w.log.count window

/-! ## What is used and held -/

/-- The slots of a window in a reservation. -/
def Reservation.held (window : Nat) (r : Reservation) : Nat :=
  if r.window = window then r.remaining else 0

/-- The slots of a window that a call was granted. -/
def Call.held (window : Nat) : Call → Nat
  | .asking _ _ => 0
  | .granted r => r.held window

/-- The slots of a window that a process holds. -/
def Process.held (window : Nat) (p : Process) : Nat :=
  p.reservation.elim 0 (Reservation.held window) + p.call.elim 0 (Call.held window)

/-- The slots of a window that calls were charged for or may still be. -/
def World.used (w : World) (window : Nat) : Nat :=
  w.allowed window + total (Process.held window) w.processes

/-- No window has more slots in use than the limit, the present one no more than the row counts,
and a later one none. -/
structure Kept (cfg : Config) (w : World) : Prop where
  bounded : ∀ window, w.used window ≤ cfg.limit.toNat
  backed : w.used w.resets ≤ w.row.elim 0 Row.requestCount
  unopened : ∀ window, w.resets < window → w.used window = 0

theorem Kept.start (cfg : Config) (row : Option Row) : Kept cfg (.start row) where
  bounded := fun _ => Nat.zero_le _
  backed := Nat.zero_le _
  unopened := fun _ _ => rfl

theorem Kept.shrink (h : Kept cfg w) (hrow : w'.row = w.row) (hresets : w'.resets = w.resets)
    (hused : ∀ window, w'.used window ≤ w.used window) :
    Kept cfg w' where
  bounded := fun window => Nat.le_trans (hused window) (h.bounded window)
  backed := by
    rw [hrow, hresets]
    exact Nat.le_trans (hused w.resets) h.backed
  unopened := by
    intro window hwindow
    rw [hresets] at hwindow
    exact Nat.le_zero.mp (h.unopened window hwindow ▸ hused window)

theorem used_setProcess (hp : w.processes[p]? = some process) (process' : Process)
    (charged : List Nat) (window : Nat) :
    World.used { w.setProcess p process' with log := charged ++ w.log } window +
        process.held window =
      w.used window + process'.held window + charged.count window := by
  have hset := total_set (Process.held window) process' hp
  simp only [World.used, World.allowed, World.setProcess, List.count_append]
  omega

/-! ## Steps -/

theorem Kept.release (h : Kept cfg w) (hp : w.processes[p]? = some process) (process' : Process)
    (charged : List Nat)
    (hheld : ∀ window, process'.held window + charged.count window ≤ process.held window) :
    Kept cfg { w.setProcess p process' with log := charged ++ w.log } := by
  refine h.shrink rfl rfl ?_
  intro window
  have hused := used_setProcess hp process' charged window
  have hless := hheld window
  omega

theorem Kept.replace (h : Kept cfg w) (hp : w.processes[p]? = some process) (process' : Process)
    (hheld : ∀ window, process'.held window ≤ process.held window) :
    Kept cfg (w.setProcess p process') :=
  h.release hp process' [] hheld

theorem Kept.spawn (h : Kept cfg w) :
    Kept cfg { w with processes := w.processes ++ [Process.new] } := by
  refine h.shrink rfl rfl ?_
  intro window
  simp only [World.used, World.allowed, total_append]
  exact Nat.le_refl _

theorem Reservation.held_less (r r' : Reservation) (hwindow : r'.window = r.window)
    (hremaining : r'.remaining = r.remaining - 1) (window : Nat) :
    r'.held window + [r.window].count window = r.held window := by
  have hpos := r.pos
  unfold Reservation.held
  rw [hwindow, hremaining, List.count_singleton]
  by_cases h : r.window = window
  · rw [if_pos h, if_pos h, if_pos (beq_iff_eq.mpr h)]
    omega
  · rw [if_neg h, if_neg h, if_neg (fun heq => h (beq_iff_eq.mp heq))]

theorem Reservation.held_last (hlast : r.remaining = 1) (window : Nat) :
    [r.window].count window = r.held window := by
  unfold Reservation.held
  rw [hlast, List.count_singleton]
  by_cases h : r.window = window
  · rw [if_pos h, if_pos (beq_iff_eq.mpr h)]
  · rw [if_neg h, if_neg (fun heq => h (beq_iff_eq.mp heq))]

theorem serve_held {now : Int} {left : Option Reservation} (h : r.serve now = some left)
    (window : Nat) :
    left.elim 0 (Reservation.held window) + [r.window].count window = r.held window := by
  unfold Reservation.serve at h
  split at h
  · rw [Option.some.injEq] at h
    subst h
    split
    · rename_i hlast
      rw [Option.elim_none, Nat.zero_add]
      exact Reservation.held_last hlast window
    · rename_i hmore
      exact r.held_less { r with remaining := r.remaining - 1, pos := _ } rfl rfl window
  · cases h

section

variable (h : Kept cfg w)
include h

theorem Kept.begin (hp : w.processes[p]? = some process)
    (hcall : process.call = none) (now size : Int) : Kept cfg (w.begin p process now size) := by
  unfold World.begin
  split
  · refine h.replace hp _ ?_
    intro window
    exact Nat.zero_le _
  · rename_i r hr
    split
    · refine h.replace hp _ ?_
      intro window
      exact Nat.zero_le _
    · rename_i left hleft
      refine h.release hp ⟨left, none⟩ [r.window] ?_
      intro window
      have hserve := serve_held hleft window
      simp only [Process.held, hr, hcall, Option.elim_none, Option.elim_some]
      omega

theorem Kept.finish (hp : w.processes[p]? = some process)
    (hcall : process.call = some (.granted r)) :
    Kept cfg { w.setProcess p ⟨r.keep process.reservation, none⟩ with
      log := r.window :: w.log } := by
  refine h.release hp ⟨r.keep process.reservation, none⟩ [r.window] ?_
  intro window
  simp only [Process.held, hcall, Option.elim_none, Option.elim_some, Call.held,
    Reservation.keep]
  split
  · rename_i hmore
    have hless := r.held_less
      { r with remaining := r.remaining - 1, pos := Nat.sub_pos_of_lt hmore } rfl rfl window
    simp only [Option.elim_some]
    omega
  · have hlast := Reservation.held_last (r := r) (by have := r.pos; omega) window
    omega

theorem Kept.openWindow (now : Int) :
    w.used (if (ApiReservations.openWindow cfg w.row now).2 then w.resets + 1 else w.resets) ≤
      (ApiReservations.openWindow cfg w.row now).1.requestCount := by
  by_cases hover : cfg.window ≤ now - (w.row.getD ⟨0, now, now⟩).windowStartedAt
  · simp only [ApiReservations.openWindow, if_pos hover, if_true]
    have hnone := h.unopened (w.resets + 1) (Nat.lt_succ_self _)
    exact Nat.le_trans (Nat.le_of_eq hnone) (Nat.zero_le _)
  · simp only [ApiReservations.openWindow, if_neg hover]
    rw [if_neg Bool.false_ne_true]
    have hbacked := h.backed
    cases hrow : w.row with
    | none | some =>
      rw [hrow] at hbacked
      exact hbacked

theorem Kept.reserve {resets reserved : Nat} (hresets : w.resets ≤ resets)
    (hopen : w.used resets ≤ row.requestCount)
    (hcapacity : (row.requestCount : Int) + reserved ≤ cfg.limit)
    (hcount : w'.row.elim 0 Row.requestCount = row.requestCount + reserved)
    (hresets' : w'.resets = resets)
    (hused : ∀ window, w'.used window ≤ w.used window + if window = resets then reserved else 0) :
    Kept cfg w' where
  bounded := by
    intro window
    have hless := hused window
    by_cases hwindow : window = resets
    · rw [if_pos hwindow] at hless
      rw [hwindow] at hless ⊢
      omega
    · rw [if_neg hwindow] at hless
      have hbounded := h.bounded window
      omega
  backed := by
    have hless := hused resets
    rw [if_pos rfl] at hless
    rw [hresets', hcount]
    omega
  unopened := by
    intro window hwindow
    rw [hresets'] at hwindow
    have hless := hused window
    rw [if_neg (Nat.ne_of_gt hwindow), h.unopened window (Nat.lt_of_le_of_lt hresets hwindow)]
      at hless
    exact Nat.le_zero.mp hless

end

theorem slots_le (size : Int) (h : ¬cfg.limit - row.requestCount ≤ 0) :
    (row.requestCount : Int) + slots cfg row size ≤ cfg.limit := by
  unfold slots
  omega

theorem Kept.transact (h : Kept cfg w) (hp : w.processes[p]? = some process) {now size : Int}
    (hcall : process.call = some (.asking now size)) (outcome : Outcome) :
    Kept cfg (ApiReservations.transact cfg w p process now size outcome) := by
  have hheld : ∀ window, Process.held window { process with call := none } =
      process.held window := by
    intro window
    simp only [Process.held, hcall, Option.elim_some, Option.elim_none, Call.held]
  have hreturns : Kept cfg (w.setProcess p { process with call := none }) :=
    h.replace hp _ fun window => Nat.le_of_eq (hheld window)
  have hopen := h.openWindow now
  unfold ApiReservations.transact
  dsimp only
  split
  · exact hreturns
  · rename_i hcapacity
    have hslots := slots_le size hcapacity
    have hresets : w.resets ≤ if (ApiReservations.openWindow cfg w.row now).2 = true
        then w.resets + 1 else w.resets := by
      split
      · exact Nat.le_succ _
      · exact Nat.le_refl _
    cases outcome with
    | fails => exact hreturns
    | commits =>
      refine h.reserve hresets hopen hslots rfl rfl ?_
      intro window
      have hused := used_setProcess hp { process with call := some (.granted
        ⟨slots cfg (ApiReservations.openWindow cfg w.row now).1 size,
          (ApiReservations.openWindow cfg w.row now).1.windowStartedAt + cfg.window,
          if (ApiReservations.openWindow cfg w.row now).2 = true then w.resets + 1
            else w.resets, slots_pos size hcapacity⟩) } [] window
      simp only [Process.held, hcall, Option.elim_some, Call.held, Reservation.held,
        List.count_nil] at hused
      simp only [World.used, World.allowed, World.setProcess, List.nil_append] at hused ⊢
      simp only [eq_comm (a := window)]
      omega
    | unheard =>
      refine h.reserve hresets hopen hslots rfl rfl ?_
      intro window
      have hused := used_setProcess hp { process with call := none } [] window
      rw [hheld window, List.count_nil] at hused
      simp only [World.used, World.allowed, World.setProcess, List.nil_append] at hused ⊢
      omega

/-- **Step lemma.** -/
theorem within_step {label : Label} (h : Kept cfg w) (hs : step cfg w label = some w') :
    Kept cfg w' := by
  cases label with
  | spawn =>
    cases hs
    exact h.spawn
  | begin p now size =>
    simp only [step] at hs
    split at hs
    · cases hs
    · rename_i process hp
      split at hs
      · cases hs
      · rename_i hcall
        cases hs
        exact h.begin hp hcall now size
  | transact p outcome =>
    simp only [step] at hs
    split at hs
    · cases hs
    · rename_i process hp
      split at hs
      · rename_i now size hcall
        cases hs
        exact h.transact hp hcall outcome
      · cases hs
  | finish p =>
    simp only [step] at hs
    split at hs
    · cases hs
    · rename_i process hp
      split at hs
      · rename_i r hcall
        cases hs
        exact h.finish hp hcall
      · cases hs
  | die p =>
    simp only [step] at hs
    split at hs
    · cases hs
    · rename_i process hp
      cases hs
      exact h.replace hp _ fun window => Nat.zero_le _

/-! ## Runs -/

theorem kept_run {row : Option Row} {labels : List Label}
    (hrun : (system cfg).run (.start row) labels = some w) : Kept cfg w :=
  (system cfg).run_invariant (Kept cfg) (fun _ _ _ h hs => within_step h hs) labels _ w
    (Kept.start cfg row) hrun

/-- **Main theorem.**  Whatever the processes do, and whatever their clocks say, the calls that
return `True` and are charged to a window are no more than the limit; for a limit below zero there
are none. -/
theorem allowed_le_limit (cfg : Config) (row : Option Row) (labels : List Label) (w : World)
    (hrun : (system cfg).run (.start row) labels = some w) (window : Nat) :
    w.allowed window ≤ cfg.limit.toNat := by
  have hbounded := (kept_run hrun).bounded window
  unfold World.used at hbounded
  omega

/-- Two processes share a limit of two; the reservation of the first outlasts the window. -/
def shared : List Label :=
  [.spawn, .spawn, .begin 0 0 2, .transact 0 .commits, .finish 0, .begin 1 5000000 2,
    .transact 1 .commits, .begin 1 60000000 2, .transact 1 .commits, .finish 1,
    .begin 0 59000000 2, .begin 1 61000000 2]

theorem allowed_le_limit_shared :
    ∃ w, (system ⟨2, 60⟩).run (.start none) shared = some w ∧ w.log = [1, 0, 1, 0] ∧
      w.allowed 0 ≤ 2 :=
  ⟨_, rfl, rfl, allowed_le_limit ⟨2, 60⟩ none shared _ rfl 0⟩

end CephAi.Ports.ApiReservations
