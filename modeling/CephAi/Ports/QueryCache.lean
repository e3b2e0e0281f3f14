import CephAi.Verified.Runs
import Mathlib.Logic.Function.Basic

/-!
# The cache of Ceph queries, across processes

`_load_entry` (without `prefer_disk`), `get_or_load`, `store` and `invalidate` of
`shared/ceph_query_cache.py` on one key.  All processes share the record on disk and the key's
lock; each has its copy in memory, which it trusts when some record is on disk.

What a process does under its own `_lock` is one step, but for `_load_entry`, which tests that the
file exists before it reads it: the process lets no other call of it in between.

## Main results

* `kept_step` — what one step keeps.
* `answers_after_invalidate` — no answer is older than an `invalidate` that had returned, where
  the record is never created while another process has a copy from before the last
  `invalidate`.
* `stale_answer` — the copy that is trusted because somebody else created the record.
-/

namespace CephAi.Ports.QueryCache

open Verified.Runs

/-- A record.  `era` is not stored: how many invalidations there were before its loader ran, or
before it was stored. -/
structure Record (V : Type) where
  createdAt : Int
  value : V
  era : Nat
deriving DecidableEq, Repr

/-- The places of `get_or_load` that look for an entry. -/
inductive Look
  /-- `_fresh_value`, first of all -/
  | fresh
  /-- `get_cached`, with `stale_ttl_seconds` -/
  | stale
  /-- `_fresh_value` under the key's lock -/
  | locked
  /-- `_fresh_value` after the lock's timeout -/
  | late
  /-- `_stale_value` after it -/
  | fallback
  /-- `_stale_value` after an exception -/
  | failed
deriving DecidableEq, Repr

/-- Where a call is. -/
inductive Pc (V : Type)
  | test (look : Look)
  | read (look : Look) (now : Int)
  | lock
  | load
  | write (value : V) (era : Nat)
  | answer (r : Record V)
  | lockStore (value : V)
  | store (value : V)
  | prune
  | forget
  | lockInvalidate
  | remove
  | removed (era : Nat)
deriving DecidableEq, Repr

inductive Operation (V : Type)
  | getOrLoad (ttl : Int) (staleTtl : Option Int)
  | store (value : V)
  | invalidate
deriving DecidableEq, Repr

/-- A call of a process.  `since` is the last invalidation that had returned when it started. -/
structure Call (V : Type) where
  process : Nat
  since : Nat
  ttl : Int
  staleTtl : Option Int
  pc : Pc V
deriving DecidableEq, Repr

/-- The record on disk, who has the key's lock, how many invalidations there were and which of
them have returned, and each process's copy; `looking` is a process inside `_load_entry`. -/
structure World (V : Type) where
  file : Option (Record V)
  lock : Option Nat
  era : Nat
  returned : Nat
  memory : Nat → Option (Record V)
  looking : Nat → Bool
  calls : Nat → Option (Call V)

variable {V : Type}

def World.goOn (w : World V) (c : Nat) (call : Call V) (pc : Pc V) : World V :=
  { w with calls := Function.update w.calls c (some { call with pc := pc }) }

def World.finish (w : World V) (c : Nat) : World V :=
  { w with calls := Function.update w.calls c none }

def World.remember (w : World V) (p : Nat) (copy : Option (Record V)) : World V :=
  { w with memory := Function.update w.memory p copy }

def World.setLooking (w : World V) (p : Nat) (looking : Bool) : World V :=
  { w with looking := Function.update w.looking p looking }

/-- `_MAX_STALE_SECONDS`, on a clock that counts microseconds. -/
def maxStale : Int := 900 * 1000000

/-- The entry is of an age that the look takes. -/
def Look.takes (look : Look) (call : Call V) (now : Int) (r : Record V) : Bool :=
  match look with
  | .fresh | .locked | .late => now - r.createdAt < call.ttl
  | .stale =>
    match call.staleTtl with
    | none => false
    | some staleTtl =>
      call.ttl ≤ max 0 (now - r.createdAt) ∧ max 0 (now - r.createdAt) < staleTtl
  | .fallback | .failed => now - r.createdAt < maxStale

/-- After a look that has found nothing it takes. -/
def World.refuse (w : World V) (c : Nat) (call : Call V) : Look → World V
  | .fresh => w.goOn c call (if call.staleTtl.isSome then .test .stale else .lock)
  | .stale => w.goOn c call .lock
  | .locked => w.goOn c call .load
  | .late => w.goOn c call (.test .fallback)
  -- `CacheLockError` is raised where the handler sees it
  | .fallback => w.goOn c call (.test .failed)
  | .failed => w.finish c

/-- After a look; the key's lock is released on the way out. -/
def World.looked (w : World V) (c : Nat) (call : Call V) (look : Look) (now : Int)
    (entry : Option (Record V)) : World V :=
  match entry with
  | none => w.refuse c call look
  | some r =>
    if look.takes call now r = true then
      World.goOn { w with lock := if look = .locked then none else w.lock } c call (.answer r)
    else w.refuse c call look

/-- `_load_entry`: the copy in memory, if some record is on disk. -/
def World.test (w : World V) (c : Nat) (call : Call V) (look : Look) (now : Int) : World V :=
  match w.memory call.process, w.file with
  | some r, some _ => w.looked c call look now (some r)
  | _, _ =>
    World.goOn ((w.remember call.process none).setLooking call.process true) c call
      (.read look now)

/-- `_load_entry`: the record on disk. -/
def World.read (w : World V) (c : Nat) (call : Call V) (look : Look) (now : Int)
    (readable : Bool) : World V :=
  match readable, w.file with
  | true, some r =>
    World.looked ((w.remember call.process (some r)).setLooking call.process false) c call look now
      (some r)
  | _, _ => World.looked (w.setLooking call.process false) c call look now none

/-- `_write`, and the copy of what was written. -/
def World.write (w : World V) (p : Nat) (r : Record V) (written : Bool) : World V :=
  if written = true then World.remember { w with file := some r } p (some r) else w

/-- What a call does next.  `readable`, `written`, `removed` and `unlinked` say how the file
system took it. -/
inductive Action (V : Type)
  | test (now : Int)
  | read (readable : Bool)
  | lock
  /-- The lock was not got in time, or could not be opened. -/
  | unlocked
  /-- The loader returns, or raises. -/
  | load (value : Option V)
  | write (now : Int) (written : Bool)
  /-- `prune_disk_cache`, without the key's lock -/
  | prune (removed : Bool)
  | forget
  | remove (unlinked : Bool)
  | answer
deriving DecidableEq, Repr

/-- One step of a call; `none` where it is at another place. -/
def World.next (w : World V) (c : Nat) (call : Call V) (action : Action V) : Option (World V) :=
  match action, call.pc with
  | .test now, .test look =>
    if w.looking call.process = true then none else some (w.test c call look now)
  | .read readable, .read look now => some (w.read c call look now readable)
  | .lock, .lock =>
    if w.lock.isSome = true then none
    else some (World.goOn { w with lock := some c } c call (.test .locked))
  | .lock, .lockStore value =>
    if w.lock.isSome = true then none
    else some (World.goOn { w with lock := some c } c call (.store value))
  | .lock, .lockInvalidate =>
    if w.lock.isSome = true then none
    else some (World.goOn { w with lock := some c } c call .remove)
  | .unlocked, .lock => some (w.goOn c call (.test .late))
  | .unlocked, .lockStore _ | .unlocked, .lockInvalidate => some (w.finish c)
  | .load value, .load =>
    match value with
    | some value => some (w.goOn c call (.write value w.era))
    | none => some (World.goOn { w with lock := none } c call (.test .failed))
  | .write now written, .write value era =>
    if w.looking call.process = true then none
    else some (World.goOn { w.write call.process ⟨now, value, era⟩ written with lock := none } c
      call (.answer ⟨now, value, era⟩))
  | .write now written, .store value =>
    if w.looking call.process = true then none
    else some (World.goOn { w.write call.process ⟨now, value, w.era⟩ written with lock := none } c
      call .prune)
  | .prune removed, .prune =>
    if removed = true then some (World.goOn { w with file := none } c call .forget)
    else some (w.finish c)
  | .forget, .forget =>
    if w.looking call.process = true then none
    else some ((w.remember call.process none).finish c)
  | .remove unlinked, .remove =>
    if w.looking call.process = true then none
    else if unlinked = true then
      some (World.goOn { w.remember call.process none with
        file := none
        era := w.era + 1
        lock := none } c call (.removed (w.era + 1)))
    else some (World.finish { w.remember call.process none with lock := none } c)
  | .answer, .answer _ => some (w.finish c)
  | .answer, .removed era => some (World.finish { w with returned := max w.returned era } c)
  | _, _ => none

/-- A call that starts. -/
def Operation.call (operation : Operation V) (process since : Nat) : Call V :=
  match operation with
  | .getOrLoad ttl staleTtl => ⟨process, since, ttl, staleTtl, .test .fresh⟩
  | .store value => ⟨process, since, 0, none, .lockStore value⟩
  | .invalidate => ⟨process, since, 0, none, .lockInvalidate⟩

/-- The calls of a process are gone, its locks are released. -/
def World.die (w : World V) (p : Nat) : World V :=
  { w with
    lock := w.lock.filter fun c => (w.calls c).all fun call => call.process ≠ p
    memory := Function.update w.memory p none
    looking := Function.update w.looking p false
    calls := fun c => (w.calls c).filter fun call => call.process ≠ p }

inductive Label (V : Type)
  | start (c process : Nat) (operation : Operation V)
  | next (c : Nat) (action : Action V)
  | die (process : Nat)
deriving DecidableEq, Repr

def step (w : World V) : Label V → Option (World V)
  | .start c process operation =>
    match w.calls c with
    | none => some { w with
        calls := Function.update w.calls c (some (operation.call process w.returned)) }
    | some _ => none
  | .next c action =>
    match w.calls c with
    | none => none
    | some call => w.next c call action
  | .die process => some (w.die process)

def system (V : Type) : System (World V) (Label V) := ⟨step⟩

/-- Before any call.  What is on disk and in memory is from before the first invalidation. -/
structure Start (w : World V) : Prop where
  era : w.era = 0
  returned : w.returned = 0
  file : ∀ r, w.file = some r → r.era = 0
  memory : ∀ p r, w.memory p = some r → r.era = 0
  calls : w.calls = fun _ => none

/-! ## The law -/

/-- What a `get_or_load` answers is not from before an `invalidate` that had returned when it
started. -/
def AnswersSince (w : World V) (l : Label V) (_ : World V) : Prop :=
  match l with
  | .next c .answer => ∀ call, w.calls c = some call → ∀ r, call.pc = .answer r →
    call.since ≤ r.era
  | _ => True

/-- Where the record is created, no other process has a copy from before the last invalidation. -/
def CreatedAfresh (w : World V) : Label V → Prop
  | .next c (.write _ true) => w.file = none → ∀ call, w.calls c = some call →
    ∀ p, p ≠ call.process → ∀ r, w.memory p = some r → w.era ≤ r.era
  | _ => True

/-! ## What is kept -/

/-- What a call knows: who is under the key's lock, and since when. -/
def Pc.Kept (lock : Option Nat) (era c since : Nat) : Pc V → Prop
  | .test .locked | .read .locked _ | .load | .store _ | .remove => lock = some c
  | .write _ loaded => lock = some c ∧ loaded = era
  | .answer r => since ≤ r.era
  | .removed n => n ≤ era
  | _ => True

structure Call.Kept (w : World V) (c : Nat) (call : Call V) : Prop where
  since : call.since ≤ w.returned
  pc : call.pc.Kept w.lock w.era c call.since

/-- **Invariant.**  Where some record is on disk, it and every copy are from after the last
invalidation. -/
structure Kept (w : World V) : Prop where
  returned : w.returned ≤ w.era
  file : ∀ r, w.file = some r → w.era ≤ r.era
  memory : w.file.isSome = true → ∀ p r, w.memory p = some r → w.era ≤ r.era
  calls : ∀ c call, w.calls c = some call → call.Kept w c

variable {c era since : Nat} {call : Call V} {lock : Option Nat} {look : Look} {pc : Pc V}
    {w : World V}

theorem Pc.Kept.mono {lock' : Option Nat} {era' : Nat} (h : pc.Kept lock era c since)
    (hheld : lock = some c → lock' = some c ∧ era' = era) (hera : era ≤ era') :
    pc.Kept lock' era' c since := by
  cases pc with
  | test look =>
    cases look with
    | locked => exact (hheld h).1
    | _ => exact True.intro
  | read look now =>
    cases look with
    | locked => exact (hheld h).1
    | _ => exact True.intro
  | load | store | remove => exact (hheld h).1
  | write value loaded => exact ⟨(hheld h.1).1, h.2.trans (hheld h.1).2.symm⟩
  | answer r => exact h
  | removed n =>
    have hle : n ≤ era := h
    show n ≤ era'
    omega
  | _ => exact True.intro

/-- What a step of the call `c` leaves to another one. -/
theorem Pc.Kept.other {lock' : Option Nat} {era' c' : Nat} (h : pc.Kept lock era c' since)
    (hne : c' ≠ c) (hlock : lock' = lock ∨ lock = none ∨ lock = some c)
    (hera : era' = era ∨ era ≤ era' ∧ lock = some c) : pc.Kept lock' era' c' since := by
  have hle : era ≤ era' := by omega
  apply h.mono _ hle
  intro hheld
  have hnot : lock ≠ some c := by
    rw [hheld]
    intro heq
    exact hne (Option.some.inj heq)
  constructor
  · rcases hlock with heq | hnone | hc
    · rw [heq, hheld]
    · rw [hnone] at hheld
      cases hheld
    · exact absurd hc hnot
  · rcases hera with heq | ⟨-, hc⟩
    · exact heq
    · exact absurd hc hnot

section

variable (h : Kept w)
include h

theorem Kept.move {w' : World V} {next : Option (Call V)}
    (hcalls : w'.calls = Function.update w.calls c next)
    (hlock : w'.lock = w.lock ∨ w.lock = none ∨ w.lock = some c)
    (hera : w'.era = w.era ∨ w.era ≤ w'.era ∧ w.lock = some c)
    (hreturned : w.returned ≤ w'.returned) (hle : w'.returned ≤ w'.era)
    (hfile : ∀ r, w'.file = some r → w'.era ≤ r.era)
    (hmemory : w'.file.isSome = true → ∀ p r, w'.memory p = some r → w'.era ≤ r.era)
    (hnext : ∀ call, next = some call → call.Kept w' c) : Kept w' := by
  refine ⟨hle, hfile, hmemory, ?_⟩
  intro c' call' hcall'
  rw [hcalls] at hcall'
  by_cases hc : c' = c
  · subst hc
    rw [Function.update_self] at hcall'
    exact hnext call' hcall'
  · rw [Function.update_of_ne hc] at hcall'
    have hcall := h.calls c' call' hcall'
    exact ⟨Nat.le_trans hcall.since hreturned, hcall.pc.other hc hlock hera⟩

theorem Kept.goOn (hsince : call.since ≤ w.returned) (hpc : pc.Kept w.lock w.era c call.since) :
    Kept (w.goOn c call pc) := by
  refine h.move rfl (.inl rfl) (.inl rfl) (Nat.le_refl _) h.returned h.file h.memory ?_
  intro call' hcall'
  cases hcall'
  exact ⟨hsince, hpc⟩

theorem Kept.finish (c : Nat) : Kept (w.finish c) := by
  refine h.move rfl (.inl rfl) (.inl rfl) (Nat.le_refl _) h.returned h.file h.memory ?_
  intro call' hcall'
  cases hcall'

theorem Kept.setLooking (p : Nat) (looking : Bool) : Kept (w.setLooking p looking) :=
  ⟨h.returned, h.file, h.memory, fun c call hcall => ⟨(h.calls c call hcall).since,
    (h.calls c call hcall).pc⟩⟩

theorem Kept.remember (p : Nat) {copy : Option (Record V)}
    (hcopy : ∀ r, copy = some r → w.era ≤ r.era) : Kept (w.remember p copy) := by
  refine ⟨h.returned, h.file, ?_, fun c call hcall => ⟨(h.calls c call hcall).since,
    (h.calls c call hcall).pc⟩⟩
  intro hfile p' r hr
  change Function.update w.memory p copy p' = some r at hr
  by_cases hp : p' = p
  · rw [hp, Function.update_self] at hr
    exact hcopy r hr
  · rw [Function.update_of_ne hp] at hr
    exact h.memory hfile p' r hr

theorem Kept.forget (p : Nat) : Kept (w.remember p none) := by
  apply h.remember p
  intro r hr
  cases hr

/-! ## A look -/

theorem Kept.refuse (hsince : call.since ≤ w.returned) (hlock : look = .locked → w.lock = some c) :
    Kept (w.refuse c call look) := by
  cases look with
  | fresh =>
    apply h.goOn hsince
    split <;> exact True.intro
  | stale | late | fallback => exact h.goOn hsince True.intro
  | locked => exact h.goOn hsince (hlock rfl)
  | failed => exact h.finish c

theorem Kept.looked (now : Int) {entry : Option (Record V)}
    (hsince : call.since ≤ w.returned) (hlock : look = .locked → w.lock = some c)
    (hentry : ∀ r, entry = some r → w.era ≤ r.era) : Kept (w.looked c call look now entry) := by
  cases entry with
  | none => exact h.refuse hsince hlock
  | some r =>
    show Kept (if look.takes call now r = true then _ else _)
    split
    · have hlock' : (if look = .locked then none else w.lock) = w.lock ∨ w.lock = none ∨
          w.lock = some c := by
        split
        · rename_i heq
          exact .inr (.inr (hlock heq))
        · exact .inl rfl
      refine h.move rfl hlock' (.inl rfl) (Nat.le_refl _) h.returned h.file h.memory ?_
      intro call' hcall'
      cases hcall'
      refine ⟨hsince, ?_⟩
      have hreturned := h.returned
      have hera := hentry r rfl
      show call.since ≤ r.era
      omega
    · exact h.refuse hsince hlock

end

theorem Pc.Kept.held (h : (Pc.test look : Pc V).Kept lock era c since) :
    look = .locked → lock = some c := by
  intro heq
  subst heq
  exact h

theorem Kept.test (h : Kept w) (now : Int) (hcall : call.Kept w c) (hpc : call.pc = .test look) :
    Kept (w.test c call look now) := by
  have hheld := hcall.pc
  rw [hpc] at hheld
  unfold World.test
  split
  · rename_i r _ hmemory hfile
    apply h.looked now hcall.since hheld.held
    intro r' hr'
    cases hr'
    exact h.memory (by rw [hfile]; rfl) call.process r hmemory
  · refine ((h.forget call.process).setLooking _ true).goOn hcall.since ?_
    cases look with
    | locked => exact hheld
    | _ => exact True.intro

theorem Kept.read (h : Kept w) (now : Int) {at_ : Int} (readable : Bool) (hcall : call.Kept w c)
    (hpc : call.pc = .read look at_) : Kept (w.read c call look now readable) := by
  have hheld : look = .locked → w.lock = some c := by
    intro heq
    have hpc' := hcall.pc
    rw [hpc, heq] at hpc'
    exact hpc'
  unfold World.read
  split
  · rename_i r hfile
    have hentry : ∀ r', some r = some r' → w.era ≤ r'.era := by
      intro r' hr'
      cases hr'
      exact h.file r hfile
    exact ((h.remember call.process hentry).setLooking _ false).looked now hcall.since hheld hentry
  · exact (h.setLooking _ false).looked now hcall.since hheld fun _ hnone => (nomatch hnone)

/-! ## The other steps -/

theorem Kept.write (h : Kept w) {p : Nat} {r : Record V} {written : Bool} (hr : r.era = w.era)
    (hafresh : written = true → w.file = none → ∀ p', p' ≠ p → ∀ r', w.memory p' = some r' →
      w.era ≤ r'.era) : Kept (w.write p r written) := by
  unfold World.write
  split
  · rename_i hwritten
    refine ⟨h.returned, ?_, ?_, fun c call hcall => ⟨(h.calls c call hcall).since,
      (h.calls c call hcall).pc⟩⟩
    · intro r' hr'
      cases hr'
      exact Nat.le_of_eq hr.symm
    · intro _ p' r' hr'
      change Function.update w.memory p (some r) p' = some r' at hr'
      by_cases hp : p' = p
      · rw [hp, Function.update_self] at hr'
        cases hr'
        exact Nat.le_of_eq hr.symm
      · rw [Function.update_of_ne hp] at hr'
        cases hfile : w.file with
        | none => exact hafresh hwritten hfile p' hp r' hr'
        | some _ => exact h.memory (by rw [hfile]; rfl) p' r' hr'
  · exact h

theorem World.write_keeps (w : World V) (p : Nat) (r : Record V) (written : Bool) :
    (w.write p r written).lock = w.lock ∧ (w.write p r written).era = w.era ∧
      (w.write p r written).returned = w.returned := by
  unfold World.write
  split <;> exact ⟨rfl, rfl, rfl⟩

section

variable (h : Kept w)
include h

theorem Kept.release (hlock : w.lock = some c) (hsince : call.since ≤ w.returned)
    (hpc : pc.Kept none w.era c call.since) :
    Kept (World.goOn { w with lock := none } c call pc) := by
  refine h.move rfl (.inr (.inr hlock)) (.inl rfl) (Nat.le_refl _) h.returned h.file h.memory ?_
  intro call' hcall'
  cases hcall'
  exact ⟨hsince, hpc⟩

theorem Kept.acquire (hlock : ¬w.lock.isSome = true) (hsince : call.since ≤ w.returned)
    (hpc : pc.Kept (some c) w.era c call.since) :
    Kept (World.goOn { w with lock := some c } c call pc) := by
  have hnone : w.lock = none := by simpa using hlock
  refine h.move rfl (.inr (.inl hnone)) (.inl rfl) (Nat.le_refl _) h.returned h.file h.memory ?_
  intro call' hcall'
  cases hcall'
  exact ⟨hsince, hpc⟩

theorem Kept.remove (hlock : w.lock = some c) (hsince : call.since ≤ w.returned) :
    Kept (World.goOn { w with file := none, era := w.era + 1, lock := none } c call
      (.removed (w.era + 1))) := by
  have hreturned := h.returned
  refine h.move rfl (.inr (.inr hlock)) (.inr ⟨Nat.le_succ _, hlock⟩) (Nat.le_refl _)
    (Nat.le_succ_of_le hreturned) (fun _ hnone => nomatch hnone) (fun hnone => nomatch hnone) ?_
  intro call' hcall'
  cases hcall'
  exact ⟨hsince, Nat.le_refl _⟩

theorem Kept.die (p : Nat) : Kept (w.die p) := by
  refine ⟨h.returned, h.file, ?_, ?_⟩
  · intro hfile p' r hr
    exact (h.forget p).memory hfile p' r hr
  · intro c call hcall
    obtain ⟨hcall, hp⟩ := Option.filter_eq_some_iff.mp hcall
    have hkept := h.calls c call hcall
    refine ⟨hkept.since, hkept.pc.mono ?_ (Nat.le_refl _)⟩
    intro hlock
    refine ⟨?_, rfl⟩
    unfold World.die
    rw [hlock]
    simp only [hcall, Option.filter_some, Option.all_some]
    rw [if_pos hp]

theorem kept_next {w' : World V} {action : Action V} (hcall : w.calls c = some call)
    (hafresh : CreatedAfresh w (.next c action)) (hnext : w.next c call action = some w') :
    Kept w' := by
  have hkept := h.calls c call hcall
  have hpc := hkept.pc
  have hreturned := h.returned
  have hwrite : ∀ now written, action = .write now written → written = true → w.file = none →
      ∀ p, p ≠ call.process → ∀ r, w.memory p = some r → w.era ≤ r.era := by
    intro now written haction hwritten
    subst haction hwritten
    exact fun hfile => hafresh hfile call hcall
  unfold World.next at hnext
  split at hnext
  · rename_i now look hat
    split at hnext
    · cases hnext
    · cases hnext
      exact h.test now hkept hat
  · rename_i readable look now hat
    cases hnext
    exact h.read now readable hkept hat
  · split at hnext
    · cases hnext
    · rename_i hfree
      cases hnext
      exact h.acquire hfree hkept.since rfl
  · split at hnext
    · cases hnext
    · rename_i hfree
      cases hnext
      exact h.acquire hfree hkept.since rfl
  · split at hnext
    · cases hnext
    · rename_i hfree
      cases hnext
      exact h.acquire hfree hkept.since rfl
  · cases hnext
    exact h.goOn hkept.since True.intro
  · cases hnext
    exact h.finish c
  · cases hnext
    exact h.finish c
  · rename_i value hat
    rw [hat] at hpc
    split at hnext
    · cases hnext
      exact h.goOn hkept.since ⟨hpc, rfl⟩
    · cases hnext
      exact h.release hpc hkept.since True.intro
  · rename_i now written value loaded hat
    rw [hat] at hpc
    obtain ⟨hlock, rfl⟩ := hpc
    split at hnext
    · cases hnext
    · cases hnext
      obtain ⟨hlock', -, hreturned'⟩ := w.write_keeps call.process ⟨now, value, w.era⟩ written
      apply (h.write rfl (hwrite now written rfl)).release (hlock'.trans hlock)
      · rw [hreturned']
        exact hkept.since
      · exact Nat.le_trans hkept.since hreturned
  · rename_i now written value hat
    rw [hat] at hpc
    split at hnext
    · cases hnext
    · cases hnext
      obtain ⟨hlock', -, hreturned'⟩ := w.write_keeps call.process ⟨now, value, w.era⟩ written
      apply (h.write rfl (hwrite now written rfl)).release (hlock'.trans hpc)
      · rw [hreturned']
        exact hkept.since
      · exact True.intro
  · split at hnext
    · cases hnext
      refine h.move rfl (.inl rfl) (.inl rfl) (Nat.le_refl _) hreturned
        (fun _ hnone => nomatch hnone) (fun hnone => nomatch hnone) ?_
      intro call' hcall'
      cases hcall'
      exact ⟨hkept.since, True.intro⟩
    · cases hnext
      exact h.finish c
  · split at hnext
    · cases hnext
    · cases hnext
      exact (h.forget call.process).finish c
  · rename_i unlinked hat
    rw [hat] at hpc
    split at hnext
    · cases hnext
    · split at hnext
      · cases hnext
        exact (h.forget call.process).remove hpc hkept.since
      · cases hnext
        have hforget := h.forget call.process
        refine hforget.move rfl (.inr (.inr hpc)) (.inl rfl) (Nat.le_refl _) hreturned hforget.file
          hforget.memory ?_
        intro call' hcall'
        cases hcall'
  · cases hnext
    exact h.finish c
  · rename_i n hat
    rw [hat] at hpc
    have hn : n ≤ w.era := hpc
    cases hnext
    refine h.move rfl (.inl rfl) (.inl rfl) (Nat.le_max_left _ _) (Nat.max_le.mpr ⟨hreturned, hn⟩)
      h.file h.memory ?_
    intro call' hcall'
    cases hcall'
  · cases hnext

end

/-- **Step lemma.**  What one step keeps. -/
theorem kept_step (w : World V) (l : Label V) (w' : World V) (h : Kept w)
    (hafresh : CreatedAfresh w l) (hstep : (system V).step w l = some w') : Kept w' := by
  cases l with
  | start c process operation =>
    simp only [system, step] at hstep
    split at hstep
    · cases hstep
      refine h.move rfl (.inl rfl) (.inl rfl) (Nat.le_refl _) h.returned h.file h.memory ?_
      intro call hcall
      cases hcall
      cases operation <;> exact ⟨Nat.le_refl _, True.intro⟩
    · cases hstep
  | next c action =>
    simp only [system, step] at hstep
    split at hstep
    · cases hstep
    · rename_i call hcall
      exact kept_next h hcall hafresh hstep
  | die process =>
    cases hstep
    exact h.die process

theorem Start.kept (h : Start w) : Kept w := by
  refine ⟨?_, ?_, ?_, ?_⟩
  · rw [h.returned]
    exact Nat.zero_le _
  · intro r _
    rw [h.era]
    exact Nat.zero_le _
  · intro _ p r _
    rw [h.era]
    exact Nat.zero_le _
  · intro c call hcall
    rw [h.calls] at hcall
    cases hcall

/-- **No answer is from before an `invalidate` that had returned**, in the runs in which the record
is never created while another process has a copy from before the last invalidation. -/
theorem answers_after_invalidate (w : World V) (run : List (Label V)) (hw : Start w)
    (hrun : (system V).Meets CreatedAfresh w run) : (system V).Always AnswersSince w run := by
  apply (system V).always_of_meets AnswersSince CreatedAfresh Kept _ run w hw.kept hrun
  intro w l w' h hafresh hstep
  refine ⟨?_, kept_step w l w' h hafresh hstep⟩
  unfold AnswersSince
  split
  · rename_i c
    intro call hcall r hpc
    have hanswer := (h.calls c call hcall).pc
    rw [hpc] at hanswer
    exact hanswer
  · exact True.intro

/-! ## A copy that is trusted for another one's record -/

def cold : World String where
  file := none
  lock := none
  era := 0
  returned := 0
  memory := fun _ => none
  looking := fun _ => false
  calls := fun _ => none

theorem cold_start : Start cold :=
  ⟨rfl, rfl, fun _ h => (nomatch h), fun _ _ h => (nomatch h), rfl⟩

/-- A call of `get_or_load` that finds nothing and loads `value`. -/
def loads (c process : Nat) (value : String) (now : Int) : List (Label String) :=
  [.start c process (.getOrLoad 45000000 none), .next c (.test now), .next c (.read true),
    .next c .lock, .next c (.test now), .next c (.read true), .next c (.load (some value)),
    .next c (.write now true), .next c .answer]

def invalidates (c process : Nat) : List (Label String) :=
  [.start c process .invalidate, .next c .lock, .next c (.remove true), .next c .answer]

/-- The record is loaded by one process, invalidated by another and created again by a third; then
the first looks again. -/
def thirdParty : List (Label String) :=
  loads 0 0 "before" 0 ++ invalidates 1 1 ++ loads 2 2 "after" 1 ++
    [.start 3 0 (.getOrLoad 45000000 none), .next 3 (.test 2)]

/-- The first process answers with its copy from before the invalidation. -/
theorem stale_answer :
    ¬∀ (w : World String) (run : List (Label String)), Start w →
      (system String).Always AnswersSince w run := by
  intro h
  have hlast : AnswersSince _ (.next 3 .answer) _ :=
    System.Always.step_after rfl thirdParty cold
      (h cold (thirdParty ++ [.next 3 .answer]) cold_start) rfl
  exact absurd (hlast _ rfl _ rfl) (by decide)

/-- One process that loads, invalidates and loads again. -/
theorem answers_after_invalidate_alone : (system String).Always AnswersSince cold
    (loads 0 0 "before" 0 ++ invalidates 1 0 ++ loads 2 0 "after" 1) := by
  apply answers_after_invalidate cold _ cold_start
  refine ⟨True.intro, True.intro, True.intro, True.intro, True.intro, True.intro, True.intro, ?_,
    True.intro, True.intro, True.intro, True.intro, True.intro, True.intro, True.intro, True.intro,
    True.intro, True.intro, True.intro, True.intro, ?_, True.intro, True.intro⟩
  all_goals
    intro _ call hcall p hp r hr
    cases hcall
    cases p with
    | zero => exact absurd rfl hp
    | succ p =>
      have hnone : none = some r := hr
      cases hnone

end CephAi.Ports.QueryCache
