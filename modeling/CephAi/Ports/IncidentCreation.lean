import CephAi.Verified.Runs
import CephAi.Ports.Verification
import Mathlib.Data.List.Sort

/-!
# Creating Incidents for health checks

`build_and_publish_incident` of `watcher/main.py` against the partial unique
index of `incidents`: it reads which codes are covered, by an open Incident or
by an attempt that failed a short time ago, and inserts a row for every other
check.  An Incident whose repair is being verified does not stop a second
attempt; for `OSD_DOWN` its row is given a key of its own.

One Watcher polls.  Between its polls the Incidents, Actions and audit entries
change in any way the index allows.

## Main results

* `mem_inFlightDedupeStatuses_iff` — the statuses it asks for are those under
  the index.
* `retryKey_not_own` — no row has the key that is composed of its own id.
* `polls_agree` — in every run, what is not skipped is created, and what is
  skipped is covered; which checks this is not said of stands in `Regular` and
  `Exempt`.
* `polls_do_not_agree` — a check that is skipped and not covered, and one that
  is neither skipped nor created.
-/

namespace CephAi.Ports.IncidentCreation

open Verified.Runs
open Models Verification

/-! ## Rows -/

/-- The text of a UUID. -/
structure Uuid where
  text : String
  length : text.toList.length = 36
  comma : ',' ∉ text.toList
deriving DecidableEq

/-- A row of `incidents`. -/
structure Row where
  id : Uuid
  clusterId : Option Nat
  cephCode : String
  dedupeKey : Option String
  status : IncidentStatus
  failedAt : Option Nat
  updatedAt : Nat
deriving DecidableEq

structure ActionRow where
  incidentId : Uuid
  actionId : String
  status : ActionStatus
  executedAt : Option Nat
deriving DecidableEq

/-- An audit entry `proposal_blocked_by_low_confidence`. -/
structure LowConfidence where
  incidentId : Uuid
  createdAt : Nat
deriving DecidableEq

/-- The database and the clock.  `outbox` has the Incidents with a message. -/
structure World where
  rows : List Row
  actions : List ActionRow
  lowConfidence : List LowConfidence
  outbox : List Uuid
  now : Nat

structure Settings where
  failedRetryCooldown : Nat
  lowConfidenceRetryCooldown : Nat

def inFlightDedupeStatuses : List IncidentStatus :=
  recoverableStatuses.filter (· ≠ .failed) ++ [.gracePending]

/-- The row is under the index. -/
def Row.inFlight (r : Row) : Bool := inFlightStatuses.contains r.status

/-- The columns of the index. -/
def Row.key (r : Row) : Option Nat × String × String :=
  (r.clusterId, r.cephCode, r.dedupeKey.getD "")

/-- `uq_incidents_inflight_cluster_code` -/
def UniqueIndex (rows : List Row) : Prop :=
  rows.Pairwise fun a b => a.inFlight = true → b.inFlight = true → a.key ≠ b.key

instance (rows : List Row) : Decidable (UniqueIndex rows) := by
  unfold UniqueIndex
  infer_instance

/-! ## What is covered -/

def World.openRows (w : World) (c : Option Nat) (code : String) : List Row :=
  w.rows.filter fun r =>
    r.clusterId == c && r.cephCode == code && inFlightDedupeStatuses.contains r.status

/-- The failed rows of a code whose model was not sure enough a short time ago. -/
def World.abstained (S : Settings) (w : World) (c : Option Nat) (code : String) : Bool :=
  w.rows.any fun r =>
    r.clusterId == c && r.cephCode == code && r.status == .failed &&
      w.lowConfidence.any fun e =>
        e.incidentId == r.id &&
          decide (w.now ≤ e.createdAt + S.lowConfidenceRetryCooldown)

def World.recentlyFailed (S : Settings) (w : World) (c : Option Nat) (code : String) : Bool :=
  w.rows.any fun r =>
    r.clusterId == c && r.cephCode == code && r.status == .failed &&
      decide (w.now ≤ r.failedAt.getD r.updatedAt + S.failedRetryCooldown)

/-- `already_open_codes`, before the retries. -/
def World.alreadyOpen (S : Settings) (w : World) (c : Option Nat) (code : String) : Bool :=
  !(w.openRows c code).isEmpty || w.abstained S c code || w.recentlyFailed S c code

/-- The row is verified, and such an Action was executed for it. -/
def World.verified (w : World) (p : ActionRow → Bool) (r : Row) : Bool :=
  r.status == .verifying &&
    w.actions.any fun a => a.incidentId == r.id && a.status == .autoExecuted && p a

def osdRestartRetryAfter : Nat := 30

/-- `OSD_DOWN` came back after every open row's restart. -/
def World.osdRetry (S : Settings) (w : World) (c : Option Nat) : Bool :=
  w.alreadyOpen S c "OSD_DOWN" && !(w.openRows c "OSD_DOWN").isEmpty &&
    (w.openRows c "OSD_DOWN").all (w.verified fun a =>
      a.actionId == "restart_osd_daemon" &&
        a.executedAt.any fun t => decide (t + osdRestartRetryAfter ≤ w.now))

def idempotentVerifyRetryActions : List (String × String) :=
  [("MON_MSGR2_NOT_ENABLED", "enable_mon_msgr2")]

/-- A code whose repair may be repeated came back while it was verified. -/
def World.idempotentRetry (S : Settings) (w : World) (c : Option Nat) (code : String) : Bool :=
  (idempotentVerifyRetryActions.lookup code).any fun actionId =>
    w.alreadyOpen S c code && !(w.openRows c code).isEmpty &&
      (w.openRows c code).all (w.verified fun a => a.actionId == actionId)

def World.suppressed (S : Settings) (w : World) (c : Option Nat) (code : String) : Bool :=
  w.alreadyOpen S c code &&
    !(code == "OSD_DOWN" && w.osdRetry S c) && !w.idempotentRetry S c code

/-- `"osd-down-retry:" + ",".join(sorted(...))` -/
def retryKey (ids : List Uuid) : String :=
  String.ofList ("osd-down-retry:".toList ++
    [','].intercalate (((ids.map Uuid.text).insertionSort (· ≤ ·)).map String.toList))

/-- `retry_dedupe_keys.get(ceph_code)` -/
def World.retryDedupeKey (S : Settings) (w : World) (c : Option Nat) (code : String) :
    Option String :=
  if code = "OSD_DOWN" ∧ w.osdRetry S c = true then
    some (retryKey ((w.openRows c "OSD_DOWN").map Row.id))
  else none

/-! ## The polls -/

/-- A check of `ceph health detail`; `slowOpQuiet` is the first value of
`bluestore_slow_ops.gate_incident` for it. -/
structure Check where
  code : String
  severity : Option String
  slowOpQuiet : Bool
deriving DecidableEq

/-- What `ceph health detail` reports; the checks are the keys of an object. -/
structure Health where
  status : String
  checks : List Check
  distinct : (checks.map Check.code).Nodup

def problemStatuses : List String := ["HEALTH_WARN", "HEALTH_ERR"]

/-- The slow ops of this check are no trend. -/
def Check.quiet (check : Check) : Bool :=
  check.code == "BLUESTORE_SLOW_OP_ALERT" && check.slowOpQuiet

/-- The check gets no row. -/
def World.skips (S : Settings) (w : World) (c : Option Nat) (check : Check) : Bool :=
  w.suppressed S c check.code || check.quiet || check.code == "BLUESTORE_NO_PER_POOL_OMAP"

/-- What becomes of a check: `refused` is an error of the database that ends the
call. -/
inductive Decision
  | skipped
  | created (id : Uuid)
  | duplicate
  | refused
deriving DecidableEq

/-- The row that is inserted; `w` is the database that was read. -/
def World.newRow (S : Settings) (w : World) (c : Option Nat) (check : Check) (id : Uuid) :
    Row where
  id := id
  clusterId := c
  cephCode := check.code
  dedupeKey := w.retryDedupeKey S c check.code
  status := .new
  failedAt := none
  updatedAt := w.now

/-- The texts fit their columns. -/
def fits (r : Row) (severity : Option String) : Bool :=
  decide (r.cephCode.toList.length ≤ 64) &&
    r.dedupeKey.all (fun k => decide (k.toList.length ≤ 256)) &&
    severity.all (fun s => decide (s.toList.length ≤ 16))

/-- A row of the database is in the way of `r`. -/
def conflicts (rows : List Row) (r : Row) : Bool :=
  rows.any fun r' => r'.inFlight && r'.key == r.key

/-- The row and its message in one transaction. -/
def World.addRow (w : World) (r : Row) : World :=
  { w with rows := w.rows ++ [r], outbox := w.outbox ++ [r.id] }

/-- One check: `read` is the database at the beginning of the call, `newId` gives the id of
a new row. -/
def buildOne (S : Settings) (read : World) (c : Option Nat) (newId : String → Uuid)
    (w : World) (check : Check) : World × Decision :=
  if read.skips S c check then (w, .skipped)
  else
    let r := read.newRow S c check (newId check.code)
    if fits r check.severity = false then (w, .refused)
    else if conflicts w.rows r then (w, .duplicate)
    else (w.addRow r, .created r.id)

/-- The checks in turn. -/
def buildLoop (S : Settings) (read : World) (c : Option Nat) (newId : String → Uuid) :
    List Check → World → World × List (Check × Decision)
  | [], w => (w, [])
  | check :: checks, w =>
    let one := buildOne S read c newId w check
    if one.2 = .refused then (one.1, [(check, one.2)])
    else
      let rest := buildLoop S read c newId checks one.1
      (rest.1, (check, one.2) :: rest.2)

def buildAndPublishIncident (S : Settings) (w : World) (c : Option Nat) (health : Health)
    (newId : String → Uuid) : World × List (Check × Decision) :=
  if problemStatuses.contains health.status then buildLoop S w c newId health.checks w
  else (w, [])

/-- A step: a poll, or what others do to the database in between.  No other writer
gives a row of `OSD_DOWN` a key. -/
inductive Label
  | poll (c : Option Nat) (health : Health) (newId : String → Uuid)
  | update (id : Uuid) (status : IncidentStatus) (failedAt : Option Nat) (updatedAt : Nat)
  | insert (r : Row)
  | remove (id : Uuid)
  | setActions (actions : List ActionRow)
  | addLowConfidence (entry : LowConfidence)
  | tick (seconds : Nat)

/-- The rows, if the index allows them. -/
def World.setRows (w : World) (rows : List Row) : Option World :=
  if UniqueIndex rows then some { w with rows := rows } else none

/-- No row has this id. -/
def World.unused (w : World) (id : Uuid) : Bool := w.rows.all fun r => r.id != id

/-- One step; a new UUID is the id of no row. -/
def step (S : Settings) (w : World) : Label → Option World
  | .poll c health newId =>
    if health.checks.all (fun check => w.unused (newId check.code)) then
      some (buildAndPublishIncident S w c health newId).1
    else none
  | .update id status failedAt updatedAt =>
    w.setRows (w.rows.map fun r =>
      if r.id = id then
        { r with status := status, failedAt := failedAt, updatedAt := updatedAt }
      else r)
  | .insert r =>
    if w.unused r.id = false ∨ r.cephCode = "OSD_DOWN" ∧ r.dedupeKey ≠ none then none
    else w.setRows (w.rows ++ [r])
  | .remove id => some { w with rows := w.rows.filter (fun r => r.id != id) }
  | .setActions actions => some { w with actions := actions }
  | .addLowConfidence entry => some { w with lowConfidence := entry :: w.lowConfidence }
  | .tick seconds => some { w with now := w.now + seconds }

/-- One Watcher and the others. -/
def watcher (S : Settings) : System World Label := ⟨step S⟩

/-- A database without Incidents. -/
def emptyWorld : World := ⟨[], [], [], [], 0⟩

/-! ## What a poll should do -/

/-- The check is skipped by design: slow ops without a trend, or the code of another
monitor. -/
def Exempt (check : Check) : Prop :=
  check.quiet = true ∨ check.code = "BLUESTORE_NO_PER_POOL_OMAP"

/-- The code has an open Incident, or one that failed inside a retry window. -/
def Covered (S : Settings) (w : World) (c : Option Nat) (code : String) : Prop :=
  ∃ r ∈ w.rows, r.clusterId = c ∧ r.cephCode = code ∧
    (r.inFlight = true ∨ r.status = .failed ∧
      ((∃ e ∈ w.lowConfidence, e.incidentId = r.id ∧
          w.now ≤ e.createdAt + S.lowConfidenceRetryCooldown) ∨
        w.now ≤ r.failedAt.getD r.updatedAt + S.failedRetryCooldown))

/-- The texts of the check fit, it is no second attempt at an idempotent repair, and one
at `OSD_DOWN` is about at most six open rows. -/
structure Regular (S : Settings) (w : World) (c : Option Nat) (check : Check) : Prop where
  code : check.code.toList.length ≤ 64
  severity : ∀ s, check.severity = some s → s.toList.length ≤ 16
  notIdempotent : w.idempotentRetry S c check.code = false
  fewRows : check.code = "OSD_DOWN" → w.osdRetry S c = true →
    (w.openRows c "OSD_DOWN").length ≤ 6

/-- The check has a new Incident with a message. -/
def CreatedFor (c : Option Nat) (w : World) (check : Check) (d : Decision) : Prop :=
  ∃ id, d = .created id ∧ id ∈ w.outbox ∧
    ∃ r ∈ w.rows, r.id = id ∧ r.clusterId = c ∧ r.cephCode = check.code ∧ r.status = .new

/-- What a poll decided agrees with the database before it (`w`) and after it. -/
def PollAgrees (S : Settings) (w : World) (l : Label) (w' : World) : Prop :=
  match l with
  | .poll c health newId => ∀ p ∈ (buildAndPublishIncident S w c health newId).2,
      (p.2 ≠ .skipped → Regular S w c p.1 → CreatedFor c w' p.1 p.2) ∧
      (p.2 = .skipped → ¬ Exempt p.1 → Covered S w c p.1.code)
  | _ => True

/-! ## Skipped checks -/

theorem mem_inFlightDedupeStatuses_iff (status : IncidentStatus) :
    status ∈ inFlightDedupeStatuses ↔ status ∈ inFlightStatuses := by
  cases status <;> decide

theorem mem_openRows_iff (w : World) (c : Option Nat) (code : String) (r : Row) :
    r ∈ w.openRows c code ↔
      r ∈ w.rows ∧ r.clusterId = c ∧ r.cephCode = code ∧ r.inFlight = true := by
  unfold World.openRows Row.inFlight
  rw [List.mem_filter]
  simp only [Bool.and_eq_true, beq_iff_eq, List.contains_iff_mem,
    mem_inFlightDedupeStatuses_iff, and_assoc]

variable {S : Settings} {c : Option Nat} {check : Check} {newId : String → Uuid} {read w w' : World}

theorem covered_of_alreadyOpen {code : String} (h : w.alreadyOpen S c code = true) :
    Covered S w c code := by
  unfold World.alreadyOpen at h
  rw [Bool.or_eq_true, Bool.or_eq_true] at h
  rcases h with (hopen | habstained) | hfailed
  · have hne : w.openRows c code ≠ [] := by simpa using hopen
    obtain ⟨r, hr⟩ := List.exists_mem_of_ne_nil _ hne
    obtain ⟨hmem, hc, hcode, hflight⟩ := (mem_openRows_iff w c code r).mp hr
    exact ⟨r, hmem, hc, hcode, Or.inl hflight⟩
  · unfold World.abstained at habstained
    obtain ⟨r, hr, hrow⟩ := List.any_eq_true.mp habstained
    simp only [Bool.and_eq_true, beq_iff_eq] at hrow
    obtain ⟨⟨⟨hc, hcode⟩, hstatus⟩, hentry⟩ := hrow
    obtain ⟨e, he, hrecent⟩ := List.any_eq_true.mp hentry
    simp only [Bool.and_eq_true, beq_iff_eq, decide_eq_true_eq] at hrecent
    exact ⟨r, hr, hc, hcode, Or.inr ⟨hstatus, Or.inl ⟨e, he, hrecent.1, hrecent.2⟩⟩⟩
  · unfold World.recentlyFailed at hfailed
    obtain ⟨r, hr, hrow⟩ := List.any_eq_true.mp hfailed
    simp only [Bool.and_eq_true, beq_iff_eq, decide_eq_true_eq] at hrow
    obtain ⟨⟨⟨hc, hcode⟩, hstatus⟩, hrecent⟩ := hrow
    exact ⟨r, hr, hc, hcode, Or.inr ⟨hstatus, Or.inr hrecent⟩⟩

theorem covered_of_skips (h : w.skips S c check = true) (hexempt : ¬ Exempt check) :
    Covered S w c check.code := by
  unfold World.skips at h
  rw [Bool.or_eq_true, Bool.or_eq_true] at h
  rcases h with (hsuppressed | hquiet) | homap
  · unfold World.suppressed at hsuppressed
    rw [Bool.and_eq_true, Bool.and_eq_true] at hsuppressed
    exact covered_of_alreadyOpen hsuppressed.1.1
  · exact absurd (Or.inl hquiet) hexempt
  · exact absurd (Or.inr (beq_iff_eq.mp homap)) hexempt

/-! ## The keys of second attempts -/

private theorem mem_sortedTexts {ids : List Uuid} {t : List Char} :
    t ∈ ((ids.map Uuid.text).insertionSort (· ≤ ·)).map String.toList ↔
      ∃ id ∈ ids, id.text.toList = t := by
  simp only [List.mem_map, List.mem_insertionSort]
  constructor
  · intro h
    obtain ⟨text, ⟨id, hid, htext⟩, ht⟩ := h
    exact ⟨id, hid, by rw [htext, ht]⟩
  · intro h
    obtain ⟨id, hid, ht⟩ := h
    exact ⟨id.text, ⟨id, hid, rfl⟩, ht⟩

theorem mem_of_retryKey_eq {ids ids' : List Uuid} (hne : ids ≠ []) (hne' : ids' ≠ [])
    (h : retryKey ids = retryKey ids') {id : Uuid} (hid : id ∈ ids) : id ∈ ids' := by
  have hcomma : ∀ l : List Uuid,
      ∀ t ∈ ((l.map Uuid.text).insertionSort (· ≤ ·)).map String.toList, ',' ∉ t := by
    intro l t ht
    obtain ⟨id, _, rfl⟩ := mem_sortedTexts.mp ht
    exact id.comma
  have hnonempty : ∀ l : List Uuid, l ≠ [] →
      ((l.map Uuid.text).insertionSort (· ≤ ·)).map String.toList ≠ [] := by
    intro l hl hnil
    have hlength := congrArg List.length hnil
    simp only [List.length_map, List.length_insertionSort, List.length_nil,
      List.length_eq_zero_iff] at hlength
    exact hl hlength
  unfold retryKey at h
  have hlists := List.append_cancel_left (String.ofList_injective h)
  have hsplit := congrArg (List.splitOn ',') hlists
  rw [List.splitOn_intercalate ',' (hcomma ids) (hnonempty ids hne),
    List.splitOn_intercalate ',' (hcomma ids') (hnonempty ids' hne')] at hsplit
  have hmem := mem_sortedTexts.mpr ⟨id, hid, rfl⟩
  rw [hsplit] at hmem
  obtain ⟨id', hid', htext⟩ := mem_sortedTexts.mp hmem
  have heq : id' = id := by
    cases id'
    cases id
    simp only [Uuid.mk.injEq]
    exact String.toList_injective htext
  exact heq ▸ hid'

theorem length_retryKey (ids : List Uuid) :
    (retryKey ids).toList.length ≤ 15 + 37 * ids.length := by
  have hjoin : ∀ ts : List (List Char), (∀ t ∈ ts, t.length = 36) →
      ([','].intercalate ts).length ≤ 37 * ts.length := by
    intro ts
    induction ts with
    | nil =>
      intro _
      simp
    | cons t ts ih =>
      intro h
      have ht := h t List.mem_cons_self
      have hts := ih (fun u hu => h u (List.mem_cons_of_mem t hu))
      cases ts with
      | nil =>
        simp [ht]
      | cons u us =>
        rw [List.intercalate_cons_cons]
        simp only [List.length_append, List.length_cons, List.length_nil] at hts ⊢
        omega
  have htexts : ∀ t ∈ ((ids.map Uuid.text).insertionSort (· ≤ ·)).map String.toList,
      t.length = 36 := by
    intro t ht
    obtain ⟨id, _, rfl⟩ := mem_sortedTexts.mp ht
    exact id.length
  have hlength := hjoin _ htexts
  rw [List.length_map, List.length_insertionSort, List.length_map] at hlength
  unfold retryKey
  rw [String.toList_ofList, List.length_append]
  have hprefix : "osd-down-retry:".toList.length = 15 := by decide
  omega

def Row.KeyOfOthers (r : Row) : Prop :=
  r.cephCode = "OSD_DOWN" → r.dedupeKey = none ∨
    ∃ ids, ids ≠ [] ∧ r.dedupeKey = some (retryKey ids) ∧ r.id ∉ ids

/-- Every row is like this. -/
def Wf (w : World) : Prop := ∀ r ∈ w.rows, r.KeyOfOthers

variable {r : Row}

/-- **No row has the key that is composed of open rows it is one of.** -/
theorem retryKey_not_own (hw : Wf w) (hr : r ∈ w.openRows c "OSD_DOWN") :
    r.dedupeKey.getD "" ≠ retryKey ((w.openRows c "OSD_DOWN").map Row.id) := by
  obtain ⟨hmem, _, hcode, _⟩ := (mem_openRows_iff w c "OSD_DOWN" r).mp hr
  have hown : r.id ∈ (w.openRows c "OSD_DOWN").map Row.id := List.mem_map_of_mem hr
  intro heq
  rcases hw r hmem hcode with hnone | ⟨ids, hne, hkey, hnot⟩
  · rw [hnone] at heq
    have hlength := congrArg (fun k : String => k.toList.length) heq
    unfold retryKey at hlength
    simp at hlength
  · rw [hkey, Option.getD_some] at heq
    exact hnot (mem_of_retryKey_eq (List.ne_nil_of_mem hown) hne heq.symm hown)

/-! ## One poll -/

theorem fits_newRow (h : Regular S w c check) (id : Uuid) :
    fits (w.newRow S c check id) check.severity = true := by
  have hkey : (w.retryDedupeKey S c check.code).all
      (fun k => decide (k.toList.length ≤ 256)) = true := by
    unfold World.retryDedupeKey
    split_ifs with hretry
    · have hlength := length_retryKey ((w.openRows c "OSD_DOWN").map Row.id)
      have hfew := h.fewRows hretry.1 hretry.2
      rw [List.length_map] at hlength
      simp only [Option.all_some, decide_eq_true_eq]
      omega
    · rfl
  have hseverity : check.severity.all (fun s => decide (s.toList.length ≤ 16)) = true := by
    cases hs : check.severity with
    | none => rfl
    | some s => exact decide_eq_true (h.severity s hs)
  unfold fits
  rw [Bool.and_eq_true, Bool.and_eq_true]
  exact ⟨⟨decide_eq_true h.code, hkey⟩, hseverity⟩

theorem key_ne_newRow (hw : Wf w) (hskip : w.skips S c check = false)
    (hidempotent : w.idempotentRetry S c check.code = false) (hr : r ∈ w.rows)
    (hflight : r.inFlight = true) (id : Uuid) : r.key ≠ (w.newRow S c check id).key := by
  intro heq
  unfold Row.key at heq
  simp only [World.newRow, Prod.mk.injEq] at heq
  obtain ⟨hc, hcode, hdedupe⟩ := heq
  have hopen : r ∈ w.openRows c check.code :=
    (mem_openRows_iff w c check.code r).mpr ⟨hr, hc, hcode, hflight⟩
  have halready : w.alreadyOpen S c check.code = true := by
    have hne : (w.openRows c check.code).isEmpty = false := by
      rw [List.isEmpty_eq_false_iff]
      exact List.ne_nil_of_mem hopen
    unfold World.alreadyOpen
    rw [hne]
    rfl
  -- an open row that does not suppress the check is a second attempt's
  have hsuppressed : w.suppressed S c check.code = false := by
    unfold World.skips at hskip
    rw [Bool.or_eq_false_iff, Bool.or_eq_false_iff] at hskip
    exact hskip.1.1
  unfold World.suppressed at hsuppressed
  rw [halready, hidempotent] at hsuppressed
  have hretry : check.code = "OSD_DOWN" ∧ w.osdRetry S c = true := by
    simpa using hsuppressed
  unfold World.retryDedupeKey at hdedupe
  rw [if_pos hretry, Option.getD_some] at hdedupe
  rw [hretry.1] at hopen
  exact retryKey_not_own hw hopen hdedupe

/-- The rows at some point of a call: those that were there, and rows for other codes. -/
def During (w : World) (codes : List String) (w' : World) : Prop :=
  ∀ r ∈ w'.rows, r ∈ w.rows ∨ r.cephCode ∉ codes

theorem buildOne_created (hw : Wf read) (hduring : During read [check.code] w)
    (hskip : read.skips S c check = false) (h : Regular S read c check) :
    buildOne S read c newId w check =
      (w.addRow (read.newRow S c check (newId check.code)), .created (newId check.code)) := by
  have hconflict : conflicts w.rows (read.newRow S c check (newId check.code)) = false := by
    rw [Bool.eq_false_iff]
    intro hconflict
    unfold conflicts at hconflict
    obtain ⟨r, hr, hkey⟩ := List.any_eq_true.mp hconflict
    rw [Bool.and_eq_true, beq_iff_eq] at hkey
    cases hduring r hr with
    | inl hread =>
      exact key_ne_newRow hw hskip h.notIdempotent hread hkey.1 (newId check.code) hkey.2
    | inr hother =>
      have hcode := congrArg (fun k => k.2.1) hkey.2
      exact hother (List.mem_singleton.mpr hcode)
  unfold buildOne
  simp only [hskip, fits_newRow h (newId check.code), hconflict, Bool.false_eq_true, if_false,
    Bool.true_eq_false]
  rfl

theorem buildOne_cases (S : Settings) (read w : World) (c : Option Nat)
    (newId : String → Uuid) (check : Check) :
    (buildOne S read c newId w check).1 = w ∨
      (buildOne S read c newId w check).1 =
        w.addRow (read.newRow S c check (newId check.code)) := by
  unfold buildOne
  split_ifs
  · exact Or.inl rfl
  · dsimp only
    split_ifs
    · exact Or.inl rfl
    · exact Or.inl rfl
    · exact Or.inr rfl

/-- Rows and messages stay. -/
def Grows (w w' : World) : Prop :=
  (∀ r ∈ w.rows, r ∈ w'.rows) ∧ ∀ id ∈ w.outbox, id ∈ w'.outbox

theorem Grows.refl (w : World) : Grows w w := ⟨fun _ h => h, fun _ h => h⟩

theorem Grows.trans {w'' : World} (h : Grows w w') (h' : Grows w' w'') : Grows w w'' :=
  ⟨fun r hr => h'.1 r (h.1 r hr), fun id hid => h'.2 id (h.2 id hid)⟩

theorem grows_buildOne (S : Settings) (read w : World) (c : Option Nat) (newId : String → Uuid)
    (check : Check) : Grows w (buildOne S read c newId w check).1 := by
  rcases buildOne_cases S read w c newId check with hsame | hadded
  · rw [hsame]
    exact Grows.refl w
  · rw [hadded]
    exact ⟨fun r hr => List.mem_append_left _ hr, fun id hid => List.mem_append_left _ hid⟩

theorem grows_buildLoop (S : Settings) (read : World) (c : Option Nat) (newId : String → Uuid)
    (checks : List Check) : ∀ w : World, Grows w (buildLoop S read c newId checks w).1 := by
  induction checks with
  | nil => exact Grows.refl
  | cons check checks ih =>
    intro w
    unfold buildLoop
    dsimp only
    split_ifs
    · exact grows_buildOne S read w c newId check
    · exact (grows_buildOne S read w c newId check).trans (ih _)

theorem CreatedFor.grows {d : Decision} (h : CreatedFor c w check d) (hgrows : Grows w w') :
    CreatedFor c w' check d := by
  obtain ⟨id, hd, hid, r, hr, hrow⟩ := h
  exact ⟨id, hd, hgrows.2 id hid, r, hgrows.1 r hr, hrow⟩

theorem buildOne_skipped_iff (S : Settings) (read w : World) (c : Option Nat)
    (newId : String → Uuid) (check : Check) :
    (buildOne S read c newId w check).2 = .skipped ↔ read.skips S c check = true := by
  unfold buildOne
  by_cases hskip : read.skips S c check = true
  · simp [hskip]
  · rw [if_neg hskip]
    dsimp only
    split_ifs <;> simp [hskip]

/-- **What the checks of a call become.** -/
theorem buildLoop_agrees (hw : Wf read) {checks : List Check} :
    ∀ {w : World}, (checks.map Check.code).Nodup →
      During read (checks.map Check.code) w →
      ∀ p ∈ (buildLoop S read c newId checks w).2,
        (p.2 ≠ .skipped → Regular S read c p.1 →
          CreatedFor c (buildLoop S read c newId checks w).1 p.1 p.2) ∧
        (p.2 = .skipped → ¬ Exempt p.1 → Covered S read c p.1.code) := by
  induction checks with
  | nil =>
    intro w _ _ p hp
    cases hp
  | cons check checks ih =>
    intro w hnodup hduring
    rw [List.map_cons, List.nodup_cons] at hnodup
    have hhere : During read [check.code] w := by
      intro r hr
      rcases hduring r hr with hread | hother
      · exact Or.inl hread
      · refine Or.inr (fun hcode => hother ?_)
        rw [List.mem_singleton.mp hcode]
        exact List.mem_cons_self
    -- the check itself
    have hcheck : ((buildOne S read c newId w check).2 ≠ .skipped → Regular S read c check →
        CreatedFor c (buildOne S read c newId w check).1 check
          (buildOne S read c newId w check).2) ∧
        ((buildOne S read c newId w check).2 = .skipped → ¬ Exempt check →
          Covered S read c check.code) := by
      constructor
      · intro hd hregular
        have hskip : read.skips S c check = false := by
          rw [Bool.eq_false_iff]
          exact fun h => hd ((buildOne_skipped_iff S read w c newId check).mpr h)
        rw [buildOne_created hw hhere hskip hregular]
        refine ⟨newId check.code, rfl, ?_, read.newRow S c check (newId check.code), ?_,
          rfl, rfl, rfl, rfl⟩
        · exact List.mem_append_right _ List.mem_cons_self
        · exact List.mem_append_right _ List.mem_cons_self
      · intro hd
        exact covered_of_skips ((buildOne_skipped_iff S read w c newId check).mp hd)
    unfold buildLoop
    dsimp only
    split_ifs with hrefused
    · intro p hp
      rw [List.mem_singleton.mp hp]
      exact hcheck
    · have hafter : During read (checks.map Check.code) (buildOne S read c newId w check).1 := by
        intro r hr
        rcases buildOne_cases S read w c newId check with hsame | hadded
        · rw [hsame] at hr
          rcases hduring r hr with hread | hother
          · exact Or.inl hread
          · exact Or.inr (fun hcode => hother (List.mem_cons_of_mem _ hcode))
        · rw [hadded] at hr
          rcases List.mem_append.mp hr with hold | hnew
          · rcases hduring r hold with hread | hother
            · exact Or.inl hread
            · exact Or.inr (fun hcode => hother (List.mem_cons_of_mem _ hcode))
          · rw [List.mem_singleton.mp hnew]
            exact Or.inr hnodup.1
      intro p hp
      rcases List.mem_cons.mp hp with rfl | hp
      · refine ⟨fun hd hregular => ?_, hcheck.2⟩
        exact (hcheck.1 hd hregular).grows (grows_buildLoop S read c newId checks _)
      · exact ih hnodup.2 hafter p hp

/-! ## Every run -/

theorem Wf.of_rows (hw : Wf w)
    (hrows : ∀ r' ∈ w'.rows, ∃ r ∈ w.rows, r'.id = r.id ∧ r'.cephCode = r.cephCode ∧
      r'.dedupeKey = r.dedupeKey) : Wf w' := by
  intro r' hr' hcode
  obtain ⟨r, hr, hid, hcode', hkey⟩ := hrows r' hr'
  rw [hkey, hid]
  exact hw r hr (hcode' ▸ hcode)

theorem Wf.snoc (hw : Wf w) (hrows : w'.rows = w.rows ++ [r]) (hr : r.KeyOfOthers) : Wf w' := by
  intro r' hr'
  rw [hrows] at hr'
  rcases List.mem_append.mp hr' with hold | hnew
  · exact hw r' hold
  · rw [List.mem_singleton.mp hnew]
    exact hr

theorem keyOfOthers_newRow (S : Settings) (read : World) (c : Option Nat) (check : Check)
    {id : Uuid} (hunused : read.unused id = true) : (read.newRow S c check id).KeyOfOthers := by
  intro _
  show read.retryDedupeKey S c check.code = none ∨
    ∃ ids, ids ≠ [] ∧ read.retryDedupeKey S c check.code = some (retryKey ids) ∧ id ∉ ids
  unfold World.retryDedupeKey
  split_ifs with hretry
  · refine Or.inr ⟨(read.openRows c "OSD_DOWN").map Row.id, ?_, rfl, ?_⟩
    · intro hnil
      have hempty := List.map_eq_nil_iff.mp hnil
      have hosd := hretry.2
      unfold World.osdRetry at hosd
      rw [hempty] at hosd
      simp at hosd
    · intro hmem
      obtain ⟨r, hr, hid⟩ := List.mem_map.mp hmem
      have hread := ((mem_openRows_iff read c "OSD_DOWN" r).mp hr).1
      have hne := List.all_eq_true.mp hunused r hread
      rw [bne_iff_ne] at hne
      exact hne hid
  · exact Or.inl rfl

theorem wf_buildLoop (c : Option Nat) (newId : String → Uuid) (checks : List Check) :
    ∀ {w : World}, (∀ check ∈ checks, read.unused (newId check.code) = true) → Wf w →
      Wf (buildLoop S read c newId checks w).1 := by
  induction checks with
  | nil =>
    intro w _ hw
    exact hw
  | cons check checks ih =>
    intro w hunused hw
    have hone : Wf (buildOne S read c newId w check).1 := by
      rcases buildOne_cases S read w c newId check with hsame | hadded
      · rw [hsame]
        exact hw
      · rw [hadded]
        exact hw.snoc rfl
          (keyOfOthers_newRow S read c check (hunused check List.mem_cons_self))
    unfold buildLoop
    dsimp only
    split_ifs
    · exact hone
    · exact ih (fun check' h => hunused check' (List.mem_cons_of_mem check h)) hone

theorem setRows_eq {rows : List Row} (h : w.setRows rows = some w') :
    w' = { w with rows := rows } := by
  unfold World.setRows at h
  split_ifs at h
  exact (Option.some.inj h).symm

theorem step_poll {health : Health} (h : step S w (.poll c health newId) = some w') :
    (∀ check ∈ health.checks, w.unused (newId check.code) = true) ∧
      w' = (buildAndPublishIncident S w c health newId).1 := by
  simp only [step] at h
  split_ifs at h with hunused
  exact ⟨List.all_eq_true.mp hunused, (Option.some.inj h).symm⟩

theorem wf_step (hw : Wf w) (l : Label) (h : step S w l = some w') : Wf w' := by
  cases l with
  | poll c health newId =>
    obtain ⟨hunused, hw'⟩ := step_poll h
    rw [hw']
    unfold buildAndPublishIncident
    split_ifs
    · exact wf_buildLoop c newId health.checks hunused hw
    · exact hw
  | update id status failedAt updatedAt =>
    rw [setRows_eq h]
    refine hw.of_rows ?_
    intro r' hr'
    obtain ⟨r, hr, rfl⟩ := List.mem_map.mp hr'
    refine ⟨r, hr, ?_⟩
    split_ifs
    · exact ⟨rfl, rfl, rfl⟩
    · exact ⟨rfl, rfl, rfl⟩
  | insert r =>
    simp only [step] at h
    split_ifs at h with hkey
    rw [setRows_eq h]
    refine hw.snoc rfl ?_
    intro hcode
    left
    by_contra hsome
    exact hkey (Or.inr ⟨hcode, hsome⟩)
  | remove id =>
    simp only [step, Option.some.injEq] at h
    subst h
    exact hw.of_rows (fun r hr => ⟨r, (List.mem_filter.mp hr).1, rfl, rfl, rfl⟩)
  | setActions | addLowConfidence | tick =>
    simp only [step, Option.some.injEq] at h
    subst h
    exact hw.of_rows (fun r hr => ⟨r, hr, rfl, rfl, rfl⟩)

theorem pollAgrees_step (hw : Wf w) (l : Label) (h : step S w l = some w') :
    PollAgrees S w l w' := by
  cases l with
  | poll c health newId =>
    rw [(step_poll h).2]
    show ∀ p ∈ (buildAndPublishIncident S w c health newId).2, _
    unfold buildAndPublishIncident
    split_ifs
    · exact buildLoop_agrees hw health.distinct (fun r hr => Or.inl hr)
    · intro p hp
      cases hp
  | _ => exact True.intro

/-- **In every run, a check that is not skipped gets an open Incident and a message, if it
is regular, and one that is skipped is covered, unless it is exempt.** -/
theorem polls_agree (S : Settings) (labels : List Label) :
    (watcher S).Always (PollAgrees S) emptyWorld labels := by
  apply (watcher S).always_of_invariant (PollAgrees S) Wf
  · intro w l w' hw hstep
    exact ⟨pollAgrees_step hw l hstep, wf_step hw l hstep⟩
  · intro r hr
    cases hr

def CreatesUnskipped (S : Settings) (w : World) (l : Label) (w' : World) : Prop :=
  match l with
  | .poll c health newId => ∀ p ∈ (buildAndPublishIncident S w c health newId).2,
      p.2 ≠ .skipped → CreatedFor c w' p.1 p.2
  | _ => True

def CoversSkipped (S : Settings) (w : World) (l : Label) (_ : World) : Prop :=
  match l with
  | .poll c health newId => ∀ p ∈ (buildAndPublishIncident S w c health newId).2,
      p.2 = .skipped → Covered S w c p.1.code
  | _ => True

/-- Two ids. -/
def firstId : Uuid := ⟨"11111111-1111-4111-8111-111111111111", by decide, by decide⟩

def secondId : Uuid := ⟨"22222222-2222-4222-8222-222222222222", by decide, by decide⟩

/-- A poll that reports one code. -/
def pollOf (code : String) (id : Uuid) : Label :=
  .poll none ⟨"HEALTH_WARN", [⟨code, some "HEALTH_WARN", false⟩], by simp⟩ (fun _ => id)

def defaultSettings : Settings := ⟨900, 3600⟩

/-- `MON_MSGR2_NOT_ENABLED` is repaired, verified and comes back. -/
def repairedOnce : List Label :=
  [pollOf "MON_MSGR2_NOT_ENABLED" firstId,
    .setActions [⟨firstId, "enable_mon_msgr2", .autoExecuted, some 0⟩],
    .update firstId .verifying none 0]

/-- The database then. -/
def verifyingWorld : World where
  rows := [⟨firstId, none, "MON_MSGR2_NOT_ENABLED", none, .verifying, none, 0⟩]
  actions := [⟨firstId, "enable_mon_msgr2", .autoExecuted, some 0⟩]
  lowConfidence := []
  outbox := [firstId]
  now := 0

/-- The second attempt at `MON_MSGR2_NOT_ENABLED` is neither skipped nor created, and the
code of another monitor is skipped without an Incident. -/
theorem polls_do_not_agree :
    ¬ (watcher defaultSettings).Always (CreatesUnskipped defaultSettings) emptyWorld
        (repairedOnce ++ [pollOf "MON_MSGR2_NOT_ENABLED" secondId]) ∧
      ¬ (watcher defaultSettings).Always (CoversSkipped defaultSettings) emptyWorld
        [pollOf "BLUESTORE_NO_PER_POOL_OMAP" firstId] := by
  constructor
  · intro h
    have hrun : (watcher defaultSettings).run emptyWorld repairedOnce = some verifyingWorld := by
      rfl
    have hstep : (watcher defaultSettings).step verifyingWorld
        (pollOf "MON_MSGR2_NOT_ENABLED" secondId) = some verifyingWorld := by
      rfl
    have hpoll := h.step_after hstep repairedOnce emptyWorld hrun
    -- the index refuses the row
    have hduplicate := hpoll (⟨"MON_MSGR2_NOT_ENABLED", some "HEALTH_WARN", false⟩, .duplicate)
      (by decide) (by decide)
    obtain ⟨id, hid, _⟩ := hduplicate
    cases hid
  · intro h
    have hpoll := h.1 (⟨"BLUESTORE_NO_PER_POOL_OMAP", some "HEALTH_WARN", false⟩, .skipped)
      (by decide) rfl
    obtain ⟨r, hr, _⟩ := hpoll
    cases hr

end CephAi.Ports.IncidentCreation
