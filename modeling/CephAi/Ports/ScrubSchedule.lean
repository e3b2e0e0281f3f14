import Mathlib

/-!
# The smart scrub scheduler

`build_scrub_schedule`, `_item` and `_window_for` of `watcher/scrub_scheduler.py`.  Times are
numbers of microseconds in UTC, without the bounds of `datetime`; what the standard library makes
of a text is a parameter.

## Main results

* `windowFor_right_iff` — when the window is the first one that has not ended.
* `mem_schedule_mustNotDefer` — which rows the schedule does not defer.
* `schedule_sound_iff` — when no overdue PG is left out and the window is right.
-/

namespace CephAi.Ports.ScrubSchedule

def maxItems : Nat := 500

/-- The microseconds of a minute. -/
def minute : Int := 60000000

def hour : Int := 3600000000

def day : Int := 86400000000

/-! ## The rows -/

/-- The standard library: `fromisoformat` answers a time in UTC, and `hours` the hours of a span,
rounded to two places. -/
structure Python where
  strip : String → String
  lower : String → String
  fromisoformat : String → Option Int
  hours : Int → ℚ

/-- A row of the inventory: the texts of the values that are not falsy, and the time stamps that
are texts. -/
structure PgRow where
  pgid : Option String
  pool : Option String
  state : Option String
  lastScrub : Option String
  lastDeepScrub : Option String
deriving DecidableEq

/-- A window, by its start and its end. -/
abbrev Window := Int × Int

inductive Status
  | deferredBusy
  | safetyOverdue
  | windowUnavailable
  | scheduledAdvisory
deriving DecidableEq

structure Item where
  pgid : String
  pool : String
  state : String
  scrubType : String
  ageHours : ℚ
  intervalDays : Int
  hardLimitDays : Int
  status : Status
  reason : String
  recommendedWindow : Option Window
  mustNotDefer : Bool

section Scheduling

variable (py : Python)

def parseTimestamp (value : Option String) : Option Int :=
  match value with
  | none => none
  | some text =>
    if py.strip text = "" ∨ py.strip text ∈ ["—", "-"] then none
    else py.fromisoformat ((py.strip text).replace "Z" "+00:00")

/-- `_hours_old`, as a number of microseconds. -/
def hoursOld (value : Option String) (now : Int) : Option Int :=
  (parseTimestamp py value).map fun parsed => max 0 (now - parsed)

def busyState (state : Option String) : Bool :=
  ["recover", "backfill", "peering"].any fun token =>
    decide (token.toList <:+: (py.lower (state.getD "")).toList)

/-- `_window_for`: the start of a window that has begun is now, cut to the minute. -/
def windowFor (now : Int) (startHour endHour : Option Int) : Option Window :=
  match startHour, endHour with
  | some startHour, some endHour =>
    if ¬(0 ≤ startHour ∧ startHour ≤ 23 ∧ 0 ≤ endHour ∧ endHour ≤ 23) ∨ startHour = endHour then
      none
    else
      let midnight := now - now % day
      let start := midnight + startHour * hour
      let stop := midnight + endHour * hour
      let stop := if stop ≤ start then stop + day else stop
      if stop ≤ now then some (start + day, stop + day)
      else if now < start then some (start, stop)
      else some (now - now % minute, stop)
  | _, _ => none

/-- What `_item` writes under `status`, `reason` and `must_not_defer`. -/
def verdict (overdueSafety busy : Bool) (window : Option Window) : Status × String × Bool :=
  if busy && !overdueSafety then
    (.deferredBusy, "PG đang recovery/backfill/peering; tạm hoãn để không tăng tải.", false)
  else if overdueSafety then
    (.safetyOverdue, "PG đã vượt giới hạn an toàn; không được trì hoãn thêm chỉ vì tải.", true)
  else if window.isNone then
    (.windowUnavailable, "Đã đến hạn nhưng chưa có maintenance window hợp lệ.", false)
  else (.scheduledAdvisory, "Đã đến hạn và phù hợp để đưa vào maintenance window.", false)

def item (row : PgRow) (kind : String) (age intervalDays hardLimitDays : Int) (busy : Bool)
    (window : Option Window) : Item :=
  let overdueSafety := decide (hardLimitDays * day ≤ age)
  let (status, reason, mustNotDefer) := verdict overdueSafety busy window
  { pgid := row.pgid.getD "unknown", pool := row.pool.getD "unknown"
    state := row.state.getD "unknown", scrubType := kind, ageHours := py.hours age
    intervalDays, hardLimitDays, status, reason
    recommendedWindow := if status = .scheduledAdvisory then window else none
    mustNotDefer }

/-- The input of `build_scrub_schedule`; an entry that is no dict is `none`. -/
structure Input where
  pgRows : List (Option PgRow)
  now : Int
  scrubIntervalDays : Int
  deepScrubIntervalDays : Int
  maintenanceStartHour : Option Int
  maintenanceEndHour : Option Int

namespace Input

variable (i : Input)

def rows : List PgRow := i.pgRows.filterMap id

def scrubDays : Int := max 1 i.scrubIntervalDays

def deepDays : Int := max i.scrubDays i.deepScrubIntervalDays

def window : Option Window := windowFor i.now i.maintenanceStartHour i.maintenanceEndHour

def scrubAge (row : PgRow) : Option Int := hoursOld py row.lastScrub i.now

def deepAge (row : PgRow) : Option Int := hoursOld py row.lastDeepScrub i.now

/-- What a row adds to the schedule. -/
def scheduled (row : PgRow) : Option Item :=
  match i.scrubAge py row, i.deepAge py row with
  | some scrubAge, some deepAge =>
    if i.deepDays * day ≤ deepAge then
      some (item py row "deep_scrub" deepAge i.deepDays (i.deepDays * 2) (busyState py row.state)
        i.window)
    else if i.scrubDays * day ≤ scrubAge then
      some (item py row "scrub" scrubAge i.scrubDays (i.scrubDays * 2) (busyState py row.state)
        i.window)
    else none
  | _, _ => none

/-- The entries of `evidence_gaps`. -/
def evidenceGaps : List (String × String) :=
  let seen := i.rows.take maxItems
  let missingScrub := seen.countP fun row => (i.scrubAge py row).isNone
  let missingDeep := seen.countP fun row => (i.deepAge py row).isNone
  (if i.rows = [] then
    [("PG_SCRUB_INVENTORY_UNAVAILABLE", "Chưa có PG inventory để lập lịch scrub.")] else []) ++
  (if missingScrub ≠ 0 then [("LAST_SCRUB_TIMESTAMP_MISSING",
    toString missingScrub ++ " PG thiếu timestamp last scrub.")] else []) ++
  (if missingDeep ≠ 0 then [("LAST_DEEP_SCRUB_TIMESTAMP_MISSING",
    toString missingDeep ++ " PG thiếu timestamp last deep-scrub.")] else []) ++
  (if i.maintenanceStartHour.isNone || i.maintenanceEndHour.isNone then
    [("MAINTENANCE_WINDOW_UNCONFIGURED",
      "Chưa cấu hình maintenance window; chỉ trả due/defer advice.")] else []) ++
  (if i.rows.any fun row => busyState py row.state then
    [("RECOVERY_OR_BACKFILL_ACTIVITY_PRESENT",
      "Có PG đang recovery/backfill/peering; scrub cần tránh tạo thêm tải.")] else [])

end Input

def Item.rank (item : Item) : Nat :=
  if item.mustNotDefer then 0 else if item.status = .scheduledAdvisory then 1 else 2

/-- The key of the sort. -/
def before (a b : Item) : Prop :=
  a.rank < b.rank ∨ a.rank = b.rank ∧
    (b.ageHours < a.ageHours ∨ a.ageHours = b.ageHours ∧ a.pgid ≤ b.pgid)

instance : DecidableRel before := fun _ _ => inferInstanceAs (Decidable (_ ∨ _))

structure Result where
  schedule : List Item
  maintenanceWindow : Option Window
  evidenceGaps : List (String × String)

def buildScrubSchedule (i : Input) : Result where
  schedule := (((i.rows.take maxItems).filterMap (i.scheduled py)).insertionSort before).take
    maxItems
  maintenanceWindow := i.window
  evidenceGaps := i.evidenceGaps py

end Scheduling

/-! ## The window -/

/-- The occurrence of the configured hours that starts on a day. -/
def occurrence (startHour endHour d : Int) : Window :=
  (d * day + startHour * hour,
    d * day + endHour * hour + if endHour ≤ startHour then day else 0)

/-- The first occurrence that has not ended, from now on. -/
def RightWindow (now startHour endHour : Int) (w : Window) : Prop :=
  ∃ d, now < (occurrence startHour endHour d).2 ∧
    (∀ d' < d, (occurrence startHour endHour d').2 ≤ now) ∧
    w = (max (occurrence startHour endHour d).1 now, (occurrence startHour endHour d).2)

/-- Now is not in the window that began yesterday, and a whole minute when it is in the one of
today. -/
def WindowFits (now startHour endHour : Int) : Prop :=
  ¬(endHour < startHour ∧ now % day < endHour * hour) ∧
    (startHour * hour ≤ now % day →
      now % day < endHour * hour ∨ endHour < startHour → now % minute = 0)

/-- The day on which the first occurrence starts that has not ended: yesterday after midnight in a
window that crosses it, and tomorrow after the window of today. -/
def firstDay (now startHour endHour : Int) : Int :=
  if endHour ≤ startHour ∧ now % day < endHour * hour then now / day - 1
  else if startHour < endHour ∧ endHour * hour ≤ now % day then now / day + 1
  else now / day

theorem first_iff {now startHour endHour : Int} (hend : 0 ≤ endHour ∧ endHour ≤ 23) (d : Int) :
    (now < (occurrence startHour endHour d).2 ∧
      ∀ d' < d, (occurrence startHour endHour d').2 ≤ now) ↔
      d = firstDay now startHour endHour := by
  unfold occurrence firstDay day hour
  dsimp only
  constructor
  · rintro ⟨hnow, hbefore⟩
    have hprevious := hbefore (d - 1) (by omega)
    split_ifs at hnow hprevious ⊢ <;> omega
  · rintro rfl
    constructor
    · split_ifs <;> omega
    · intro d' hd'
      split_ifs at hd' ⊢ <;> omega

/-- **When the window is right.** -/
theorem windowFor_right_iff {now startHour endHour : Int} {w : Window}
    (h : windowFor now (some startHour) (some endHour) = some w) :
    RightWindow now startHour endHour w ↔ WindowFits now startHour endHour := by
  unfold windowFor at h
  dsimp only at h
  split at h
  · cases h
  rename_i hvalid
  have hright : RightWindow now startHour endHour w ↔
      w = (max (occurrence startHour endHour (firstDay now startHour endHour)).1 now,
        (occurrence startHour endHour (firstDay now startHour endHour)).2) := by
    constructor
    · rintro ⟨d, hd, hbefore, rfl⟩
      rw [(first_iff (by omega) d).mp ⟨hd, hbefore⟩]
    · intro hw
      obtain ⟨hd, hbefore⟩ :=
        (first_iff (by omega) (firstDay now startHour endHour)).mpr rfl
      exact ⟨_, hd, hbefore, hw⟩
  rw [hright]
  unfold occurrence firstDay WindowFits
  dsimp only
  have hseconds : 0 ≤ now % minute := Int.emod_nonneg now (by decide)
  have htime : 0 ≤ now % day ∧ now % day < day :=
    ⟨Int.emod_nonneg now (by decide), Int.emod_lt_of_pos now (by decide)⟩
  have hnow : now = now / day * day + now % day := by rw [mul_comm, Int.mul_ediv_add_emod]
  generalize now / day = today, now % day = time, now % minute = seconds at *
  unfold day at htime hnow h ⊢
  unfold hour at h ⊢
  rcases lt_or_gt_of_ne (show startHour ≠ endHour by omega) with hlt | hgt
  · -- the hours of one day
    have hstop : ¬ now - time + endHour * 3600000000 ≤ now - time + startHour * 3600000000 := by
      omega
    have hyesterday : ¬(endHour ≤ startHour ∧ time < endHour * 3600000000) := by omega
    rw [if_neg hstop] at h
    rw [if_neg hlt.not_ge, if_neg hyesterday]
    by_cases hended : endHour * 3600000000 ≤ time
    · have hpast : now - time + endHour * 3600000000 ≤ now := by omega
      rw [if_pos hpast] at h
      cases h
      rw [if_pos ⟨hlt, hended⟩, max_eq_left (by omega), Prod.mk.injEq]
      omega
    · have hopen : ¬ now - time + endHour * 3600000000 ≤ now := by omega
      rw [if_neg hopen] at h
      rw [if_neg fun hafter => hended hafter.2]
      split at h
      · cases h
        rw [max_eq_left (by omega), Prod.mk.injEq]
        omega
      · cases h
        rw [max_eq_right (by omega), Prod.mk.injEq]
        omega
  · -- the hours cross midnight
    have hstop : now - time + endHour * 3600000000 ≤ now - time + startHour * 3600000000 := by
      omega
    have hopen : ¬ now - time + endHour * 3600000000 + 86400000000 ≤ now := by omega
    rw [if_pos hstop, if_neg hopen] at h
    rw [if_pos hgt.le]
    by_cases hmorning : time < endHour * 3600000000
    · have hearly : now < now - time + startHour * 3600000000 := by omega
      rw [if_pos hearly] at h
      cases h
      rw [if_pos ⟨hgt.le, hmorning⟩, Prod.mk.injEq]
      omega
    · rw [if_neg fun hearly => hmorning hearly.2, if_neg fun hafter => hgt.not_gt hafter.1]
      split at h
      · cases h
        rw [max_eq_left (by omega), Prod.mk.injEq]
        omega
      · cases h
        rw [max_eq_right (by omega), Prod.mk.injEq]
        omega

/-! ## The rows that are not deferred -/

section Returned

variable {py : Python} {i : Input}

/-- A scrub of the row is twice its interval old. -/
def Overdue (py : Python) (i : Input) (row : PgRow) : Prop :=
  (∃ age, i.scrubAge py row = some age ∧ i.scrubDays * 2 * day ≤ age) ∨
    ∃ age, i.deepAge py row = some age ∧ i.deepDays * 2 * day ≤ age

instance (row : PgRow) : Decidable (Overdue py i row) :=
  inferInstanceAs (Decidable ((∃ age, _ = some age ∧ _) ∨ ∃ age, _ = some age ∧ _))

/-- Both time stamps are read, and either the deep scrub is overdue, or it is not due and the
scrub is overdue. -/
def Taken (py : Python) (i : Input) (row : PgRow) : Prop :=
  ∃ scrubAge deepAge, i.scrubAge py row = some scrubAge ∧ i.deepAge py row = some deepAge ∧
    (i.deepDays * 2 * day ≤ deepAge ∨
      deepAge < i.deepDays * day ∧ i.scrubDays * 2 * day ≤ scrubAge)

theorem mustNotDefer_item (row : PgRow) (kind : String) (age interval limit : Int) (busy : Bool)
    (window : Option Window) :
    (item py row kind age interval limit busy window).mustNotDefer = true ↔ limit * day ≤ age := by
  have hverdict : ∀ overdue : Bool, (verdict overdue busy window).2.2 = overdue := by
    intro overdue
    cases overdue <;> cases busy <;> cases window <;> rfl
  show (verdict (decide (limit * day ≤ age)) busy window).2.2 = true ↔ _
  rw [hverdict, decide_eq_true_iff]

theorem taken_iff (row : PgRow) :
    Taken py i row ↔ ∃ x, i.scheduled py row = some x ∧ x.mustNotDefer = true := by
  have hscrub : 0 < i.scrubDays := by
    unfold Input.scrubDays
    omega
  have hdeep : i.scrubDays ≤ i.deepDays := le_max_left _ _
  unfold Taken Input.scheduled day
  cases i.scrubAge py row with
  | none => simp
  | some scrubAge =>
    cases i.deepAge py row with
    | none => simp
    | some deepAge =>
      simp only [Option.some.injEq, exists_and_left, exists_eq_left']
      split_ifs with hdue hdue'
      · simp only [Option.some.injEq, exists_eq_left', mustNotDefer_item]
        constructor
        · rintro (hle | ⟨hlt, -⟩)
          · exact hle
          · exact absurd hdue (not_le.mpr hlt)
        · exact Or.inl
      · simp only [Option.some.injEq, exists_eq_left', mustNotDefer_item]
        constructor
        · rintro (hle | ⟨-, hle⟩)
          · omega
          · exact hle
        · exact fun hle => Or.inr ⟨not_le.mp hdue, hle⟩
      · simp only [false_and, exists_false, iff_false, not_or, not_and]
        omega

/-- **What the schedule does not defer**: nothing is cut from it, as the rows were cut before. -/
theorem mem_schedule_mustNotDefer (pgid : String) :
    (∃ x ∈ (buildScrubSchedule py i).schedule, x.pgid = pgid ∧ x.mustNotDefer = true) ↔
      ∃ row ∈ i.rows.take maxItems, row.pgid.getD "unknown" = pgid ∧ Taken py i row := by
  have hlength : (((i.rows.take maxItems).filterMap (i.scheduled py)).insertionSort
      before).length ≤ maxItems := by
    rw [List.length_insertionSort]
    exact (List.length_filterMap_le _ _).trans (List.length_take_le _ _)
  have hpgid : ∀ row x, i.scheduled py row = some x → x.pgid = row.pgid.getD "unknown" := by
    intro row x hx
    unfold Input.scheduled at hx
    split at hx
    · split_ifs at hx
      · cases hx
        rfl
      · cases hx
        rfl
    · cases hx
  unfold buildScrubSchedule
  dsimp only
  rw [List.take_of_length_le hlength]
  simp only [List.mem_insertionSort, List.mem_filterMap]
  constructor
  · rintro ⟨x, ⟨row, hrow, hx⟩, rfl, hmust⟩
    exact ⟨row, hrow, (hpgid row x hx).symm, (taken_iff row).mpr ⟨x, hx, hmust⟩⟩
  · rintro ⟨row, hrow, rfl, htaken⟩
    obtain ⟨x, hx, hmust⟩ := (taken_iff row).mp htaken
    exact ⟨x, ⟨row, hrow, hx⟩, hpgid row x hx, hmust⟩

end Returned

/-! ## What the schedule promises -/

/-- Each overdue PG is in the schedule and not deferred, when they are no more than `maxItems`,
and a window that is proposed is the right one. -/
structure Sound (py : Python) (i : Input) : Prop where
  returned : (i.rows.filter fun row => decide (Overdue py i row)).length ≤ maxItems →
    ∀ row ∈ i.rows, Overdue py i row → ∃ x ∈ (buildScrubSchedule py i).schedule,
      x.pgid = row.pgid.getD "unknown" ∧ x.mustNotDefer = true
  window : ∀ startHour endHour w, i.maintenanceStartHour = some startHour →
    i.maintenanceEndHour = some endHour → (buildScrubSchedule py i).maintenanceWindow = some w →
    RightWindow i.now startHour endHour w

/-- **When the schedule is sound**: of each overdue PG a row among the first ones is taken, and
the hours fit the time. -/
theorem schedule_sound_iff (py : Python) (i : Input) :
    Sound py i ↔
      ((i.rows.filter fun row => decide (Overdue py i row)).length ≤ maxItems →
        ∀ row ∈ i.rows, Overdue py i row → ∃ row' ∈ i.rows.take maxItems,
          row'.pgid.getD "unknown" = row.pgid.getD "unknown" ∧ Taken py i row') ∧
      ∀ startHour endHour, i.maintenanceStartHour = some startHour →
        i.maintenanceEndHour = some endHour → i.window.isSome →
        WindowFits i.now startHour endHour := by
  constructor
  · intro h
    constructor
    · intro hfew row hrow hoverdue
      exact (mem_schedule_mustNotDefer _).mp (h.returned hfew row hrow hoverdue)
    · intro startHour endHour hstart hend hsome
      obtain ⟨w, hw⟩ := Option.isSome_iff_exists.mp hsome
      have hfor : windowFor i.now (some startHour) (some endHour) = some w := by
        rw [← hstart, ← hend]
        exact hw
      exact (windowFor_right_iff hfor).mp (h.window _ _ w hstart hend hw)
  · rintro ⟨hreturned, hwindow⟩
    constructor
    · intro hfew row hrow hoverdue
      exact (mem_schedule_mustNotDefer _).mpr (hreturned hfew row hrow hoverdue)
    · intro startHour endHour w hstart hend hw
      have hfor : windowFor i.now (some startHour) (some endHour) = some w := by
        rw [← hstart, ← hend]
        exact hw
      refine (windowFor_right_iff hfor).mpr (hwindow _ _ hstart hend ?_)
      exact Option.isSome_iff_exists.mpr ⟨w, hw⟩

/-- A PG whose deep scrub is 28 days old and whose last scrub is not known is left out. -/
theorem unknown_scrub_left_out :
    ¬ Sound ⟨id, id, fun _ => some 0, fun age => age⟩
      ⟨[some ⟨some "1.a", none, none, none, some "1970-01-01"⟩], 28 * day, 7, 14, none, none⟩ := by
  intro h
  have hreturned := h.returned (by decide) ⟨some "1.a", none, none, none, some "1970-01-01"⟩
    (by decide) (Or.inr ⟨28 * day, by decide, by decide⟩)
  obtain ⟨x, hx, -⟩ := hreturned
  cases hx

end CephAi.Ports.ScrubSchedule
