import CephAi.Verified.Ledger
import CephAi.Verified.Runs
import CephAi.Verified.Table
import Mathlib.Algebra.Order.Group.Nat

/-!
# The hard budget of AI calls

`_spent_since`, `_expire_stale_reservations`, `_reserve_hard_budget` and `_record_cost` of
`shared/ai_budget.py`, and `_record` of `shared/ai_observability.py` for a call that holds a
reservation.

A reservation holds the locks of its periods from its first statement to its end; its statements
are steps of their own, since completions take no lock.  Its session does not flush before the
commit: what it has marked as expired it reads back as it loaded and marked it, everything else as
it stands in the table.

Prices are whatever the price table says and do not change; amounts are of any type whose addition
is monotone, and rows are added up in the order in which they were made.

## Main results

* `kept_step` — what one step keeps.
* `spent_lt_limit` — the spend of the present day and month is under its limit at every moment,
  where no completed call costs more than its estimate.
-/

namespace CephAi.Ports.HardBudget

open Verified.Ledger Verified.Runs Verified.Table

/-! ## Times -/

/-- A `datetime` without a zone; the time of day is in microseconds. -/
structure DateTime where
  year : Nat
  month : Nat
  day : Nat
  micros : Nat
deriving DecidableEq, Repr

instance : LE DateTime where
  le a b := a.year < b.year ∨ a.year = b.year ∧ (a.month < b.month ∨ a.month = b.month ∧
    (a.day < b.day ∨ a.day = b.day ∧ a.micros ≤ b.micros))

instance (a b : DateTime) : Decidable (a ≤ b) :=
  inferInstanceAs (Decidable (_ ∨ _ ∧ (_ ∨ _ ∧ (_ ∨ _ ∧ _))))

variable {a b : DateTime}

theorem DateTime.le_iff :
    a ≤ b ↔ a.year < b.year ∨ a.year = b.year ∧ (a.month < b.month ∨ a.month = b.month ∧
      (a.day < b.day ∨ a.day = b.day ∧ a.micros ≤ b.micros)) := Iff.rfl

theorem DateTime.le_trans {c : DateTime} (h : a ≤ b) (h' : b ≤ c) : a ≤ c := by
  rw [DateTime.le_iff] at h h' ⊢
  omega

def daysBeforeYear (year : Nat) : Nat :=
  (year - 1) * 365 + (year - 1) / 4 - (year - 1) / 100 + (year - 1) / 400

def isLeap (year : Nat) : Bool := year % 4 = 0 ∧ (year % 100 ≠ 0 ∨ year % 400 = 0)

def daysBeforeMonth (year month : Nat) : Nat :=
  ([0, 31, 59, 90, 120, 151, 181, 212, 243, 273, 304, 334].getD (month - 1) 0) +
    if 2 < month ∧ isLeap year = true then 1 else 0

/-- Microseconds since the first of January of the year one. -/
def DateTime.total (t : DateTime) : Nat :=
  (daysBeforeYear t.year + daysBeforeMonth t.year t.month + (t.day - 1)) * 86400000000 + t.micros

inductive Period
  | daily
  | monthly
deriving DecidableEq, Repr

def periodStart (now : DateTime) : Period → DateTime
  | .daily => { now with micros := 0 }
  | .monthly => { now with day := 1, micros := 0 }

theorem periodStart_mono (h : a ≤ b) (p : Period) : periodStart a p ≤ periodStart b p := by
  rcases h with hyear | ⟨hyear, hmonth | ⟨hmonth, hday⟩⟩
  · cases p <;> exact .inl hyear
  · cases p <;> exact .inr ⟨hyear, .inl hmonth⟩
  · cases p with
    | daily =>
      rcases hday with hday | ⟨hday, -⟩
      · exact .inr ⟨hyear, .inr ⟨hmonth, .inl hday⟩⟩
      · exact .inr ⟨hyear, .inr ⟨hmonth, .inr ⟨hday, Nat.le_refl 0⟩⟩⟩
    | monthly => exact .inr ⟨hyear, .inr ⟨hmonth, .inr ⟨rfl, Nat.le_refl 0⟩⟩⟩

/-! ## Rows and prices -/

inductive Status
  | reserved
  | success
  | error
deriving DecidableEq, Repr

/-- A row of `AIInvocation`.  `running` is not a column: the call of the row has still to be
recorded. -/
structure Invocation where
  id : Nat
  provider : String
  modelId : String
  status : Status
  inputChars : Int
  outputChars : Int
  inputTokens : Option Int
  outputTokens : Option Int
  errorType : Option String
  createdAt : DateTime
  running : Bool
deriving DecidableEq, Repr

instance : Keyed Invocation := ⟨Invocation.id⟩

/-- `math.ceil(max(0, chars) / CHARS_PER_TOKEN)` -/
def estimatedTokens (chars : Int) : Nat := (chars.toNat + 3) / 4

/-- The real count where the provider supplied it. -/
def tokens (counted : Option Int) (chars : Int) : Nat :=
  match counted with
  | some n => n.toNat
  | none => estimatedTokens chars

variable {F : Type} [AddZeroClass F] [LinearOrder F]

/-- `_resolve_price`, or `_configured_fallback`: the cost of so many input and output tokens. -/
structure Pricing (F : Type) [AddZeroClass F] [LinearOrder F] where
  price : String → String → Option (Nat → Nat → F)
  nonneg : ∀ {provider modelId cost}, price provider modelId = some cost → ∀ i o, 0 ≤ cost i o

def estimateCost (prices : Pricing F) (provider modelId : String) (inputChars outputChars : Int) :
    Option F :=
  (prices.price provider modelId).map fun cost =>
    cost (estimatedTokens inputChars) (estimatedTokens outputChars)

def recordCost (prices : Pricing F) (r : Invocation) : Option F :=
  (prices.price r.provider r.modelId).map fun cost =>
    cost (tokens r.inputTokens r.inputChars) (tokens r.outputTokens r.outputChars)

/-- The call was rejected before it reached a provider. -/
def Invocation.rejected (r : Invocation) : Bool :=
  r.errorType = some "AIBudgetUnpricedError" ∨ r.errorType = some "AIBudgetConfigurationError"

/-- The settings, and the rows of `AIBudgetLock`. -/
structure Config (F : Type) where
  limit : Period → F
  timeoutSeconds : Nat
  reserveOutputTokens : Nat
  lockRows : List Period

/-- Reserved before the cutoff. -/
def Config.stale (cfg : Config F) (now : DateTime) (r : Invocation) : Bool :=
  r.status = .reserved ∧ r.createdAt.total + cfg.timeoutSeconds * 1000000 < now.total

/-- The loop of `_spent_since`. -/
def spend (prices : Pricing F) (cfg : Config F) (now : DateTime) (sum : F × Nat) (r : Invocation) :
    F × Nat :=
  if r.rejected = true then sum
  else if cfg.stale now r = true then sum
  else
    match recordCost prices r with
    | none => (sum.1, sum.2 + 1)
    | some cost => (sum.1 + cost, sum.2)

def spentSince (prices : Pricing F) (cfg : Config F) (rows : List Invocation)
    (start now : DateTime) : F × Nat :=
  (rows.filter fun r => start ≤ r.createdAt).foldl (spend prices cfg now) (0, 0)

/-- A stale reservation is marked. -/
def Invocation.expire (r : Invocation) : Invocation :=
  { r with status := .error, errorType := some "AIBudgetReservationExpired" }

def expireStaleReservations (cfg : Config F) (rows : List Invocation) (now : DateTime) :
    List Invocation :=
  update rows (cfg.stale now) Invocation.expire

/-! ## Reservations and completions -/

/-- A transaction of `_reserve_hard_budget` that has the locks: what it was called with, what it
has loaded and marked as expired, and the periods it has still to check. -/
structure Session (F : Type) where
  now : DateTime
  provider : String
  modelId : String
  inputChars : Int
  estimated : F
  expired : Option (List Invocation)
  unchecked : List Period

structure World (F : Type) where
  now : DateTime
  rows : List Invocation
  session : Option (Session F)

/-- What `_record` writes. -/
structure Completion where
  provider : String
  modelId : String
  succeeded : Bool
  inputChars : Int
  outputChars : Int
  inputTokens : Option Int
  outputTokens : Option Int
  errorType : Option String
deriving DecidableEq, Repr

/-- The row of a reservation is replaced by the actual usage.  Where the completion has read the
row `early`, before a reservation marked it, an error type that it does not change it does not
write. -/
def Invocation.complete (early : Bool) (c : Completion) (r : Invocation) : Invocation :=
  { r with
    provider := c.provider
    modelId := c.modelId
    status := if c.succeeded then .success else .error
    inputChars := c.inputChars
    outputChars := c.outputChars
    inputTokens := c.inputTokens
    outputTokens := c.outputTokens
    errorType := if early = true ∧ c.errorType = none then r.errorType else c.errorType
    running := false }

/-- A row as the session reads it. -/
def seen (expired : List Invocation) (r : Invocation) : Invocation :=
  (get expired r.id).getD r

/-- The statements that mark what the session has loaded as stale. -/
def flushExpired (expired : List Invocation) (rows : List Invocation) : List Invocation :=
  update rows (fun r => (get expired r.id).isSome) Invocation.expire

/-- The accounting row of a reservation. -/
def reservation (cfg : Config F) (s : Session F) (id : Nat) : Invocation where
  id := id
  provider := s.provider
  modelId := s.modelId
  status := .reserved
  inputChars := max 0 s.inputChars
  outputChars := cfg.reserveOutputTokens * 4
  inputTokens := none
  outputTokens := none
  errorType := none
  createdAt := s.now
  running := true

def Config.active (cfg : Config F) : List Period :=
  [.daily, .monthly].filter fun p => cfg.limit p ≠ 0

/-- The check of one period; `none` when it raises. -/
def Session.check (prices : Pricing F) (cfg : Config F) (rows : List Invocation) (s : Session F)
    (expired : List Invocation) (p : Period) (unchecked : List Period) : Option (Session F) :=
  let spent := spentSince prices cfg (rows.map (seen expired)) (periodStart s.now p) s.now
  if spent.2 ≠ 0 then none
  else if cfg.limit p ≤ spent.1 + s.estimated then none
  else some { s with unchecked := unchecked }

inductive Label
  | advance (to_ : DateTime)
  /-- A call that read the clock at `at_` gets the locks. -/
  | lock (at_ : DateTime) (provider modelId : String) (inputChars : Int)
  /-- It loads the stale reservations and marks them. -/
  | expire
  /-- It checks the next period. -/
  | check
  /-- It adds its row and commits. -/
  | commit
  /-- It ends without a commit, for whatever reason. -/
  | abort
  /-- A call is recorded. -/
  | complete (id : Nat) (early : Bool) (c : Completion)
deriving DecidableEq, Repr

def step (prices : Pricing F) (cfg : Config F) (w : World F) : Label → Option (World F)
  | .advance to_ => if w.now ≤ to_ then some { w with now := to_ } else none
  | .lock at_ provider modelId inputChars =>
    match w.session with
    | some _ => none
    | none =>
      match estimateCost prices provider modelId inputChars (cfg.reserveOutputTokens * 4) with
      | none => none
      | some estimated =>
        if at_ ≤ w.now ∧ cfg.active ≠ [] ∧ cfg.active ⊆ cfg.lockRows then
          some { w with
            session := some ⟨at_, provider, modelId, inputChars, estimated, none, cfg.active⟩ }
        else none
  | .expire =>
    match w.session with
    | none => none
    | some s =>
      match s.expired with
      | some _ => none
      | none => some { w with session := some { s with
          expired := some ((w.rows.filter (cfg.stale s.now)).map Invocation.expire) } }
  | .check =>
    match w.session with
    | none => none
    | some s =>
      match s.expired, s.unchecked with
      | some expired, p :: ps =>
        some { w with session := s.check prices cfg w.rows expired p ps }
      | _, _ => none
  | .commit =>
    match w.session with
    | none => none
    | some s =>
      match s.expired, s.unchecked with
      | some expired, [] =>
        some { w with
          rows := insert (flushExpired expired w.rows) (reservation cfg s (fresh w.rows))
          session := none }
      | _, _ => none
  | .abort =>
    match w.session with
    | none => none
    | some _ => some { w with session := none }
  | .complete id early c =>
    match get w.rows id with
    | none => none
    | some r =>
      if r.running = true then
        some { w with rows := modify w.rows id (Invocation.complete early c) }
      else none

def system (prices : Pricing F) (cfg : Config F) : System (World F) Label := ⟨step prices cfg⟩

/-! ## The law -/

/-- The recorded spend of the present period. -/
def World.spent (prices : Pricing F) (cfg : Config F) (w : World F) (p : Period) : F :=
  (spentSince prices cfg w.rows (periodStart w.now p) w.now).1

/-- A completed call costs no more than what was reserved for it. -/
def Affordable (prices : Pricing F) (w : World F) : Label → Prop
  | .complete id early c => ∀ r, get w.rows id = some r →
    ∀ cost, recordCost prices (r.complete early c) = some cost →
      ∃ estimate, recordCost prices r = some estimate ∧ cost ≤ estimate
  | _ => True

/-! ## Charges -/

/-- What a row adds to the spend of its periods as long as it is not stale. -/
def charge (prices : Pricing F) (r : Invocation) : F :=
  if r.rejected = true then 0 else (recordCost prices r).getD 0

/-- The same for the periods that begin at `start`. -/
def chargeSince (prices : Pricing F) (start : DateTime) (r : Invocation) : F :=
  if start ≤ r.createdAt then charge prices r else 0

/-- What the loop of `_spent_since` adds for a row. -/
def counted (prices : Pricing F) (cfg : Config F) (start now : DateTime) (r : Invocation) : F :=
  if cfg.stale now r = true then 0 else chargeSince prices start r

section

variable (prices : Pricing F)

theorem recordCost_nonneg (r : Invocation) : 0 ≤ (recordCost prices r).getD 0 := by
  unfold recordCost
  cases hprice : prices.price r.provider r.modelId with
  | none => exact le_refl 0
  | some cost => exact prices.nonneg hprice _ _

theorem charge_nonneg (r : Invocation) : 0 ≤ charge prices r := by
  unfold charge
  split
  · exact le_refl 0
  · exact recordCost_nonneg prices r

theorem chargeSince_nonneg (start : DateTime) (r : Invocation) :
    0 ≤ chargeSince prices start r := by
  unfold chargeSince
  split
  · exact charge_nonneg prices r
  · exact le_refl 0

/-- A period that begins later has no more of a row. -/
theorem chargeSince_anti {start start' : DateTime} (h : start ≤ start')
    (r : Invocation) : chargeSince prices start' r ≤ chargeSince prices start r := by
  unfold chargeSince
  split
  · rename_i hin
    rw [if_pos (DateTime.le_trans h hin)]
  · exact chargeSince_nonneg prices start r

end

variable {c : Completion} {cfg : Config F} {early : Bool} {expired rows : List Invocation}
    {id : Nat} {now : DateTime} {prices : Pricing F} {r r' : Invocation} {s : Session F}
    {w : World F}

section

variable (prices : Pricing F)

theorem spend_fst (cfg : Config F) {start : DateTime} (now : DateTime)
    (sum : F × Nat) (hin : start ≤ r.createdAt) :
    (spend prices cfg now sum r).1 = sum.1 + counted prices cfg start now r := by
  unfold spend counted chargeSince charge
  rw [if_pos hin]
  by_cases hrejected : r.rejected = true
  · rw [if_pos hrejected, if_pos hrejected, ite_self, add_zero]
  · rw [if_neg hrejected, if_neg hrejected]
    by_cases hstale : cfg.stale now r = true
    · rw [if_pos hstale, if_pos hstale, add_zero]
    · rw [if_neg hstale, if_neg hstale]
      cases recordCost prices r with
      | none => exact (add_zero sum.1).symm
      | some cost => rfl

/-- A part of the spend to which each row since `start` adds its own. -/
theorem foldl_spend {M : Type _} [AddZeroClass M] (cfg : Config F) {start now : DateTime}
    (part : F × Nat → M) (own : Invocation → M)
    (hin : ∀ {r}, start ≤ r.createdAt → ∀ sum, part (spend prices cfg now sum r) = part sum + own r)
    (hout : ∀ {r}, ¬start ≤ r.createdAt → own r = 0) (rows : List Invocation) :
    ∀ sum, part ((rows.filter fun r => start ≤ r.createdAt).foldl (spend prices cfg now) sum) =
      rows.foldl (fun s r => s + own r) (part sum) := by
  induction rows with
  | nil => exact fun _ => rfl
  | cons r rows ih =>
    intro sum
    by_cases hstart : start ≤ r.createdAt
    · rw [List.filter_cons_of_pos (by simpa using hstart), List.foldl_cons, List.foldl_cons, ih,
        hin hstart]
    · rw [List.filter_cons_of_neg (by simpa using hstart), List.foldl_cons, ih, hout hstart,
        add_zero]

theorem spentSince_fst (cfg : Config F) (rows : List Invocation) (start now : DateTime) :
    (spentSince prices cfg rows start now).1 = total (counted prices cfg start now) rows := by
  refine foldl_spend prices cfg Prod.fst (counted prices cfg start now)
    (fun hin sum => spend_fst prices cfg now sum hin) ?_ rows (0, 0)
  intro r hout
  unfold counted chargeSince
  rw [if_neg hout, ite_self]

theorem counted_le (cfg : Config F) (start now : DateTime) (r : Invocation) :
    counted prices cfg start now r ≤ chargeSince prices start r := by
  unfold counted
  split
  · exact chargeSince_nonneg prices start r
  · exact le_refl _

end

/-- A row that costs no more than another one. -/
def Cheaper (prices : Pricing F) (r' r : Invocation) : Prop :=
  ∀ cost, recordCost prices r' = some cost →
    ∃ estimate, recordCost prices r = some estimate ∧ cost ≤ estimate

theorem Cheaper.refl (prices : Pricing F) (r : Invocation) : Cheaper prices r r :=
  fun cost hcost => ⟨cost, hcost, le_refl cost⟩

theorem Cheaper.trans {r'' : Invocation} (h : Cheaper prices r'' r') (h' : Cheaper prices r' r) :
    Cheaper prices r'' r := by
  intro cost hcost
  obtain ⟨cost', hcost', hle⟩ := h cost hcost
  obtain ⟨estimate, hestimate, hle'⟩ := h' cost' hcost'
  exact ⟨estimate, hestimate, le_trans hle hle'⟩

theorem Cheaper.le (h : Cheaper prices r' r) :
    (recordCost prices r').getD 0 ≤ (recordCost prices r).getD 0 := by
  cases hcost : recordCost prices r' with
  | none => exact recordCost_nonneg prices r
  | some cost =>
    obtain ⟨estimate, hestimate, hle⟩ := h cost hcost
    rw [hestimate]
    exact hle

theorem Cheaper.chargeSince_le (h : Cheaper prices r' r) (hcreated : r'.createdAt = r.createdAt)
    (hrejected : r.rejected = false) (start : DateTime) :
    chargeSince prices start r' ≤ chargeSince prices start r := by
  unfold chargeSince charge
  rw [hcreated, hrejected]
  split
  · split
    · exact recordCost_nonneg prices r
    · exact h.le
  · exact le_refl 0

/-! ## What is kept -/

/-- What the session has marked, against the rows as they stand. -/
structure Loaded (prices : Pricing F) (cfg : Config F) (now : DateTime) (expired : List Invocation)
    (rows : List Invocation) : Prop where
  marked : ∀ r ∈ rows, ∀ x, get expired r.id = some x →
    x.createdAt = r.createdAt ∧ x.status = .error ∧ x.rejected = false ∧ Cheaper prices r x
  all : ∀ r ∈ rows, cfg.stale now r = true → (get expired r.id).isSome = true

/-- A session, against the rows as they stand: the periods it has checked have room for its
estimate. -/
structure Holding (prices : Pricing F) (cfg : Config F) (now : DateTime) (rows : List Invocation)
    (s : Session F) : Prop where
  past : s.now ≤ now
  estimate : estimateCost prices s.provider s.modelId s.inputChars (cfg.reserveOutputTokens * 4) =
    some s.estimated
  unloaded : s.expired = none → s.unchecked = cfg.active
  loaded : ∀ expired, s.expired = some expired → Loaded prices cfg s.now expired rows
  checked : ∀ expired, s.expired = some expired → ∀ p ∈ cfg.active, p ∉ s.unchecked →
    total (chargeSince prices (periodStart s.now p)) (flushExpired expired rows) + s.estimated <
      cfg.limit p

/-- **Invariant.** -/
structure Kept (prices : Pricing F) (cfg : Config F) (w : World F) : Prop where
  keys : (w.rows.map Keyed.key).Nodup
  running : ∀ r ∈ w.rows, r.running = true → r.rejected = false
  under : ∀ p, cfg.limit p ≠ 0 →
    Under (cfg.limit p) (chargeSince prices (periodStart w.now p)) w.rows
  session : ∀ s, w.session = some s → Holding prices cfg w.now w.rows s

theorem mem_active {p : Period} : p ∈ cfg.active ↔ cfg.limit p ≠ 0 := by
  unfold Config.active
  cases p <;> simp

@[simp] theorem Invocation.rejected_expire (r : Invocation) : r.expire.rejected = false := by
  simp [Invocation.rejected, Invocation.expire]

theorem cheaper_expire (prices : Pricing F) (r : Invocation) : Cheaper prices r r.expire :=
  Cheaper.refl prices r

/-! ## A session that loads and checks -/

theorem Loaded.load (prices : Pricing F) (cfg : Config F) (now : DateTime)
    (hkeys : (rows.map Keyed.key).Nodup) :
    Loaded prices cfg now ((rows.filter (cfg.stale now)).map Invocation.expire) rows := by
  constructor
  · intro r hr x hx
    obtain ⟨r', hr', rfl⟩ := List.mem_map.mp (mem_of_get hx)
    have hkey : r'.id = r.id := key_of_get hx
    have hsame : r' = r := by
      have hget := get_of_mem hkeys (List.mem_of_mem_filter hr')
      have hget' := get_of_mem hkeys hr
      change get rows r'.id = some r' at hget
      change get rows r.id = some r at hget'
      rw [hkey, hget', Option.some.injEq] at hget
      exact hget.symm
    subst hsame
    exact ⟨rfl, rfl, r'.rejected_expire, cheaper_expire prices r'⟩
  · intro r hr hstale
    have hmem : r.expire ∈ (rows.filter (cfg.stale now)).map Invocation.expire :=
      List.mem_map_of_mem (List.mem_filter.mpr ⟨hr, hstale⟩)
    exact List.find?_isSome.mpr ⟨r.expire, hmem, beq_self_eq_true r.id⟩

/-- A row once it was flushed. -/
def flushed (expired : List Invocation) (r : Invocation) : Invocation :=
  if (get expired r.id).isSome = true then r.expire else r

theorem flushExpired_eq (expired rows : List Invocation) :
    flushExpired expired rows = rows.map (flushed expired) := rfl

theorem Loaded.flushed_le (h : Loaded prices cfg now expired rows) (start : DateTime)
    (hr : r ∈ rows) :
    chargeSince prices start (flushed expired r) ≤
      counted prices cfg start now (seen expired r) := by
  unfold seen counted flushed
  cases hget : get expired r.id with
  | none =>
    have hfresh : ¬cfg.stale now r = true := by
      intro hstale
      have hsome := h.all r hr hstale
      rw [hget] at hsome
      cases hsome
    rw [Option.getD_none, if_neg hfresh]
    exact le_refl _
  | some x =>
    obtain ⟨hcreated, hstatus, hrejected, hcheaper⟩ := h.marked r hr x hget
    have hfresh : ¬cfg.stale now x = true := by
      simp [Config.stale, hstatus]
    rw [Option.getD_some, if_neg hfresh]
    have hflushed : Cheaper prices r.expire x := hcheaper
    exact hflushed.chargeSince_le hcreated.symm hrejected start

theorem Loaded.room [AddLeftMono F] [AddRightMono F] (h : Loaded prices cfg now expired rows)
    (start : DateTime) :
    total (chargeSince prices start) (flushExpired expired rows) ≤
      (spentSince prices cfg (rows.map (seen expired)) start now).1 := by
  rw [spentSince_fst, flushExpired_eq, total_map, total_map]
  exact total_le fun r hr => h.flushed_le start hr

/-! ## A call is recorded -/

theorem mem_complete (h : r' ∈ modify rows id (Invocation.complete early c)) :
    ∃ r ∈ rows, (r.id = id ∧ r' = r.complete early c) ∨ r' = r := by
  obtain ⟨r, hr, heq⟩ := List.mem_map.mp h
  by_cases hid : r.id = id
  · refine ⟨r, hr, .inl ⟨hid, ?_⟩⟩
    rw [← heq]
    exact if_pos (beq_iff_eq.mpr hid)
  · refine ⟨r, hr, .inr ?_⟩
    rw [← heq]
    exact if_neg fun h => hid (beq_iff_eq.mp h)

section

variable (hcheaper : ∀ r ∈ rows, r.id = id → r.rejected = false ∧ Cheaper prices (r.complete early c) r)
include hcheaper

theorem complete_le (start : DateTime) (hr : r ∈ rows) :
    chargeSince prices start (if r.id == id then r.complete early c else r) ≤
      chargeSince prices start r := by
  by_cases hid : r.id = id
  · obtain ⟨hrejected, hle⟩ := hcheaper r hr hid
    rw [if_pos (beq_iff_eq.mpr hid)]
    exact hle.chargeSince_le rfl hrejected start
  · rw [if_neg (by simpa using hid)]

theorem flushed_complete_le [AddLeftMono F] [AddRightMono F] (start : DateTime) :
    total (chargeSince prices start)
        (flushExpired expired (modify rows id (Invocation.complete early c))) ≤
      total (chargeSince prices start) (flushExpired expired rows) := by
  unfold Verified.Table.modify update
  rw [flushExpired_eq, flushExpired_eq, total_map, total_map, total_map]
  apply total_le
  intro r hr
  show chargeSince prices start (flushed expired (if r.id == id then r.complete early c else r)) ≤
    chargeSince prices start (flushed expired r)
  by_cases hrow : r.id = id
  · obtain ⟨hrejected, hle⟩ := hcheaper r hr hrow
    rw [if_pos (beq_iff_eq.mpr hrow)]
    show chargeSince prices start
      (if (get expired r.id).isSome = true then (r.complete early c).expire
      else r.complete early c) ≤ _
    unfold flushed
    split
    · have hflushed : Cheaper prices (r.complete early c).expire r.expire := hle
      exact hflushed.chargeSince_le rfl r.rejected_expire start
    · exact hle.chargeSince_le rfl hrejected start
  · rw [if_neg fun h => hrow (beq_iff_eq.mp h)]

end

theorem Loaded.complete (h : Loaded prices cfg now expired rows)
    (hcheaper : ∀ r ∈ rows, r.id = id →
      r.rejected = false ∧ Cheaper prices (r.complete early c) r) :
    Loaded prices cfg now expired (modify rows id (Invocation.complete early c)) := by
  constructor
  · intro r' hr' x hx
    obtain ⟨r, hr, ⟨hid, rfl⟩ | rfl⟩ := mem_complete hr'
    · obtain ⟨hcreated, hstatus, hrejected, hle⟩ := h.marked r hr x hx
      exact ⟨hcreated, hstatus, hrejected, (hcheaper r hr hid).2.trans hle⟩
    · exact h.marked r' hr x hx
  · intro r' hr' hstale
    obtain ⟨r, hr, ⟨-, rfl⟩ | rfl⟩ := mem_complete hr'
    · have hreserved : ¬cfg.stale now (r.complete early c) = true := by
        unfold Config.stale Invocation.complete
        cases c.succeeded <;> simp
      exact absurd hstale hreserved
    · exact h.all r' hr hstale

variable [AddLeftMono F] [AddRightMono F]

theorem Holding.complete (h : Holding prices cfg now rows s)
    (hcheaper : ∀ r ∈ rows, r.id = id →
      r.rejected = false ∧ Cheaper prices (r.complete early c) r) :
    Holding prices cfg now (modify rows id (Invocation.complete early c)) s where
  past := h.past
  estimate := h.estimate
  unloaded := h.unloaded
  loaded := fun expired hexpired => (h.loaded expired hexpired).complete hcheaper
  checked := fun expired hexpired p hp hchecked =>
    lt_of_le_of_lt (add_le_add (flushed_complete_le hcheaper _) le_rfl)
      (h.checked expired hexpired p hp hchecked)

/-- A call that costs no more than was reserved for it is recorded. -/
theorem Kept.complete (h : Kept prices cfg w) (hr : get w.rows id = some r)
    (hrunning : r.running = true) (hle : Cheaper prices (r.complete early c) r) :
    Kept prices cfg { w with rows := modify w.rows id (Invocation.complete early c) } := by
  have hcheaper : ∀ r' ∈ w.rows, r'.id = id →
      r'.rejected = false ∧ Cheaper prices (r'.complete early c) r' := by
    intro r' hr' hid
    have hget := get_of_mem h.keys hr'
    change get w.rows r'.id = some r' at hget
    rw [hid, hr, Option.some.injEq] at hget
    subst hget
    exact ⟨h.running r hr' hrunning, hle⟩
  constructor
  · show ((modify w.rows id (Invocation.complete early c)).map Keyed.key).Nodup
    rw [keys_modify w.rows id (Invocation.complete early c) fun _ => rfl]
    exact h.keys
  · intro r' hr' hrun
    obtain ⟨r₀, hr₀, ⟨-, rfl⟩ | rfl⟩ := mem_complete hr'
    · cases hrun
    · exact h.running r' hr₀ hrun
  · intro p hp
    show total _ (modify w.rows id (Invocation.complete early c)) < _
    unfold Verified.Table.modify update
    rw [total_map]
    exact lt_of_le_of_lt (total_le fun r hr => complete_le hcheaper _ hr) (h.under p hp)
  · intro s hs
    exact (h.session s hs).complete hcheaper

/-! ## A reservation -/

theorem Holding.check {s' : Session F} {p : Period} {ps : List Period}
    (h : Holding prices cfg now rows s) (hexpired : s.expired = some expired)
    (hnext : s.unchecked = p :: ps) (hcheck : s.check prices cfg rows expired p ps = some s') :
    Holding prices cfg now rows s' := by
  simp only [Session.check] at hcheck
  split at hcheck
  · cases hcheck
  · split at hcheck
    · cases hcheck
    · rename_i hroom
      rw [Option.some.injEq] at hcheck
      subst hcheck
      refine ⟨h.past, h.estimate, ?_, h.loaded, ?_⟩
      · intro hnone
        rw [show s.expired = none from hnone] at hexpired
        cases hexpired
      · intro expired' hexpired' q hq hchecked
        by_cases hqp : q = p
        · subst hqp
          rw [show s.expired = some expired' from hexpired', Option.some.injEq] at hexpired
          subst hexpired
          have hle := (h.loaded expired' hexpired').room (periodStart s.now q)
          exact lt_of_le_of_lt (add_le_add hle le_rfl) (lt_of_not_ge hroom)
        · apply h.checked expired' hexpired' q hq
          rw [hnext]
          exact List.not_mem_cons_of_ne_of_not_mem hqp hchecked

omit [AddLeftMono F] [AddRightMono F] in
theorem chargeSince_reservation (h : Holding prices cfg now rows s) (start : DateTime) (id : Nat) :
    chargeSince prices start (reservation cfg s id) ≤ s.estimated := by
  have hcost : recordCost prices (reservation cfg s id) = some s.estimated := by
    rw [← h.estimate]
    have hchars : (max 0 s.inputChars).toNat = s.inputChars.toNat := by omega
    unfold recordCost estimateCost reservation tokens estimatedTokens
    rw [hchars]
  have hnonneg : 0 ≤ s.estimated := by
    have hcost' := recordCost_nonneg prices (reservation cfg s id)
    rwa [hcost] at hcost'
  unfold chargeSince charge
  rw [hcost]
  split
  · split
    · exact hnonneg
    · exact le_refl _
  · exact hnonneg

theorem Kept.commit (h : Kept prices cfg w) (hs : w.session = some s)
    (hexpired : s.expired = some expired) (hnext : s.unchecked = []) :
    Kept prices cfg { w with
      rows := insert (flushExpired expired w.rows) (reservation cfg s (fresh w.rows))
      session := none } := by
  have hholding := h.session s hs
  have hkeys : (flushExpired expired w.rows).map Keyed.key = w.rows.map Keyed.key :=
    map_update_of_eq w.rows _ Invocation.expire Keyed.key fun _ => rfl
  constructor
  · apply keys_insert_fresh (fresh_congr hkeys.symm)
    rw [hkeys]
    exact h.keys
  · intro r hr hrun
    rcases List.mem_append.mp hr with hr | hr
    · rw [flushExpired_eq] at hr
      obtain ⟨r', hr', rfl⟩ := List.mem_map.mp hr
      unfold flushed at hrun ⊢
      split
      · exact r'.rejected_expire
      · rename_i hkept
        rw [if_neg hkept] at hrun
        exact h.running r' hr' hrun
    · rw [List.mem_singleton.mp hr]
      rfl
  · intro p hp
    have hroom := hholding.checked expired hexpired p (mem_active.mpr hp) (by simp [hnext])
    have hunder := Under.concat hroom
      (chargeSince_reservation hholding (periodStart s.now p) (fresh w.rows))
    exact hunder.lower fun r _ => chargeSince_anti prices (periodStart_mono hholding.past p) r
  · intro s' hs'
    cases hs'

omit [AddLeftMono F] [AddRightMono F] in
theorem Holding.expire (hkeys : (rows.map Keyed.key).Nodup) (h : Holding prices cfg now rows s)
    (hnone : s.expired = none) :
    Holding prices cfg now rows { s with
      expired := some ((rows.filter (cfg.stale s.now)).map Invocation.expire) } := by
  refine ⟨h.past, h.estimate, fun hsome => (nomatch hsome), ?_, ?_⟩
  · intro expired hexpired
    cases hexpired
    exact Loaded.load prices cfg s.now hkeys
  · intro expired hexpired p hp hchecked
    rw [show s.unchecked = cfg.active from h.unloaded hnone] at hchecked
    exact absurd hp hchecked

omit [AddLeftMono F] [AddRightMono F] in
theorem Holding.later {prices : Pricing F} {cfg : Config F} {now later : DateTime}
    {rows : List Invocation} {s : Session F} (h : Holding prices cfg now rows s)
    (hle : now ≤ later) : Holding prices cfg later rows s :=
  ⟨DateTime.le_trans h.past hle, h.estimate, h.unloaded, h.loaded, h.checked⟩

/-- **Step lemma.**  What one step keeps. -/
theorem kept_step (prices : Pricing F) (cfg : Config F) (w : World F) (l : Label) (w' : World F)
    (h : Kept prices cfg w) (hafford : Affordable prices w l)
    (hstep : (system prices cfg).step w l = some w') : Kept prices cfg w' := by
  change HardBudget.step prices cfg w l = some w' at hstep
  revert hstep
  fun_cases HardBudget.step prices cfg w l <;> rintro ⟨⟩
  next hle =>
    refine ⟨h.keys, h.running, ?_, ?_⟩
    · intro p hp
      exact (h.under p hp).lower fun r _ => chargeSince_anti prices (periodStart_mono hle p) r
    · intro s hs
      exact (h.session s hs).later hle
  next hestimated hlock =>
    refine ⟨h.keys, h.running, h.under, ?_⟩
    intro s hs
    cases hs
    exact ⟨hlock.1, hestimated, fun _ => rfl, fun _ hnone => (nomatch hnone),
      fun _ hnone => (nomatch hnone)⟩
  next s hs hnone =>
    refine ⟨h.keys, h.running, h.under, ?_⟩
    intro s' hs'
    cases hs'
    exact (h.session s hs).expire h.keys hnone
  next s hs _ _ _ hnext hexpired =>
    refine ⟨h.keys, h.running, h.under, ?_⟩
    intro s' hs'
    exact (h.session s hs).check hexpired hnext hs'
  next hs _ hnext hexpired => exact h.commit hs hexpired hnext
  · exact ⟨h.keys, h.running, h.under, fun s hs => nomatch hs⟩
  next r hr hrunning => exact h.complete hr hrunning (hafford r hr)

/-- Before hard mode: every call has been recorded, no spend has reached its limit. -/
structure Settled (prices : Pricing F) (cfg : Config F) (w : World F) : Prop where
  keys : (w.rows.map Keyed.key).Nodup
  recorded : ∀ r ∈ w.rows, r.status ≠ .reserved ∧ r.running = false
  under : ∀ p, cfg.limit p ≠ 0 → w.spent prices cfg p < cfg.limit p
  session : w.session = none

omit [AddLeftMono F] [AddRightMono F] in
theorem Settled.kept (h : Settled prices cfg w) : Kept prices cfg w := by
  refine ⟨h.keys, ?_, ?_, ?_⟩
  · intro r hr hrun
    rw [(h.recorded r hr).2] at hrun
    cases hrun
  · intro p hp
    have hunder := h.under p hp
    unfold World.spent at hunder
    rw [spentSince_fst] at hunder
    have hall : total (counted prices cfg (periodStart w.now p) w.now) w.rows =
        total (chargeSince prices (periodStart w.now p)) w.rows := by
      apply total_congr
      intro r hr
      have hfresh : ¬cfg.stale w.now r = true := by
        simp [Config.stale, (h.recorded r hr).1]
      unfold counted
      rw [if_neg hfresh]
    rwa [hall] at hunder
  · intro s hs
    rw [h.session] at hs
    cases hs

/-- **At every moment the recorded spend of a period is under its limit**, where no recorded call
costs more than its reservation. -/
theorem spent_lt_limit (prices : Pricing F) (cfg : Config F) (w w' : World F) (run : List Label)
    (hw : Settled prices cfg w) (hafford : (system prices cfg).Meets (Affordable prices) w run)
    (hrun : (system prices cfg).run w run = some w') (p : Period) (hp : cfg.limit p ≠ 0) :
    w'.spent prices cfg p < cfg.limit p := by
  have hkept := (system prices cfg).run_invariant_of_meets (Affordable prices) (Kept prices cfg)
    (kept_step prices cfg) run w w' hw.kept hafford hrun
  unfold World.spent
  rw [spentSince_fst]
  exact lt_of_le_of_lt (total_le fun r _ => counted_le prices cfg _ _ r) (hkept.under p hp)

/-- Two tokens cost two units; a call is limited by the month only. -/
def flatRate : Pricing Nat where
  price := fun provider _ => if provider = "codex" then some (· + ·) else none
  nonneg := fun _ _ _ => Nat.zero_le _

def hundredAMonth : Config Nat where
  limit := fun p => match p with
    | .daily => 0
    | .monthly => 100
  timeoutSeconds := 7200
  reserveOutputTokens := 20
  lockRows := [.daily, .monthly]

/-- A call of the last evening of January is recorded in February, after another one was
reserved. -/
def lateCompletion : List Label :=
  [.lock ⟨2025, 1, 31, 86000000000⟩ "codex" "gpt" 40, .expire, .check, .commit,
    .advance ⟨2025, 2, 1, 9000000000⟩,
    .lock ⟨2025, 2, 1, 9000000000⟩ "codex" "gpt" 80, .expire, .check, .commit,
    .complete 1 false ⟨"codex", "gpt", true, 40, 12, some 9, some 3, none⟩]

theorem spent_lt_limit_late :
    ∃ w, (system flatRate hundredAMonth).run ⟨⟨2025, 1, 31, 86000000000⟩, [], none⟩ lateCompletion =
      some w ∧ w.spent flatRate hundredAMonth .monthly < 100 := by
  refine ⟨_, rfl, ?_⟩
  apply spent_lt_limit flatRate hundredAMonth ⟨⟨2025, 1, 31, 86000000000⟩, [], none⟩ _
    lateCompletion _ _ rfl .monthly (by decide)
  · refine ⟨List.nodup_nil, fun _ hr => (nomatch hr), ?_, rfl⟩
    intro p hp
    cases p with
    | daily => exact absurd rfl hp
    | monthly => decide
  · refine ⟨True.intro, True.intro, True.intro, True.intro, True.intro, True.intro, True.intro,
      True.intro, True.intro, ?_, True.intro⟩
    intro r hr cost hcost
    cases hr
    cases hcost
    exact ⟨_, rfl, by decide⟩

end CephAi.Ports.HardBudget
