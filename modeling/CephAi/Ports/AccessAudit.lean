import CephAi.Verified.Table
import CephAi.Verified.Timeline
import Mathlib.Algebra.Order.Ring.Rat
import Mathlib.Data.List.Nodup
import Mathlib.Data.List.Sort

/-!
# RGW access audit

`collect_once` of `worker/rgw_access_audit.py`: the rows of a host are stored once each by
their fingerprint, the first ones of a host as a baseline; what is pending is sent to Telegram
and queued for the other channels; old rows are pruned.

The query for a row that exists does not see the rows added before it in its batch, and the
constraint on the fingerprint then undoes the batch.

## Main results

* `storedOnce_iff` — when every request that is fetched is stored exactly once.
* `announced_iff` — when a request is announced on a channel that accepts it.
* `audited_iff` — when a whole run stores and announces as it should.
* `baseline_announced` — the first rows of a host, on the other channels.
-/

namespace CephAi.Ports.AccessAudit

open Verified

/-! ## Requests -/

/-- A row of the parser; `timestamp` as `_naive_utc` reads it. -/
structure Request where
  timestampRaw : Option String
  method : Option String
  path : Option String
  requester : Option String
  remoteAddr : Option String
  status : Option Int
  bytesSent : Option Int
  latencyMs : Option ℚ
  transactionId : Option String
  timestamp : Int
deriving DecidableEq

/-- What `_fingerprint` is the hash of. -/
structure Fingerprint where
  clusterId : String
  host : String
  timestampRaw : Option String
  method : Option String
  path : Option String
  requester : Option String
  remoteAddr : Option String
  status : Option Int
  bytesSent : Option Int
  latencyMs : Option ℚ
  transactionId : Option String
deriving DecidableEq

def fingerprint (clusterId host : String) (row : Request) : Fingerprint where
  clusterId := clusterId
  host := host
  timestampRaw := row.timestampRaw
  method := row.method
  path := row.path
  requester := row.requester
  remoteAddr := row.remoteAddr
  status := row.status
  bytesSent := row.bytesSent
  latencyMs := row.latencyMs
  transactionId := row.transactionId

/-- A row of `rgw_access_audit_events`. -/
structure Event where
  id : Nat
  clusterId : String
  rgwHost : String
  fingerprint : Fingerprint
  eventAt : Int
  createdAt : Int
  telegramSent : Bool
  telegramAttempts : Nat
  externalAlertQueued : Bool
deriving DecidableEq

instance : Table.Keyed Event := ⟨Event.id⟩

/-- The two kinds of channels. -/
inductive Channel
  | telegram
  | external
deriving DecidableEq, Repr

/-- The events; and which requests were stored, which of them as a baseline, and what was
announced, for the statements below. -/
structure World where
  events : List Event
  stored : List Fingerprint
  baseline : List Fingerprint
  announced : List (Channel × Fingerprint)
deriving DecidableEq

/-! ## `_ingest_host` -/

/-- The rows of a host, the newest first. -/
structure Batch where
  clusterId : String
  host : String
  rows : List Request
  now : Int
deriving DecidableEq

def Batch.key (b : Batch) (row : Request) : Fingerprint := fingerprint b.clusterId b.host row

def initialized (w : World) (b : Batch) : Bool :=
  w.events.any fun e => e.clusterId == b.clusterId && e.rgwHost == b.host

/-- The rows that `exists` does not find. -/
def unstored (w : World) (b : Batch) : List Request :=
  b.rows.reverse.filter fun row => !(w.events.map Event.fingerprint).contains (b.key row)

def eventOf (b : Batch) (known : Bool) (events : List Event) (row : Request) : Event where
  id := Table.fresh events
  clusterId := b.clusterId
  rgwHost := b.host
  fingerprint := b.key row
  eventAt := row.timestamp
  createdAt := b.now
  telegramSent := !known
  telegramAttempts := 0
  externalAlertQueued := false

/-- The events with those of these rows. -/
def addRows (b : Batch) (known : Bool) : List Event → List Request → List Event
  | events, [] => events
  | events, row :: rows =>
    addRows b known (Table.insert events (eventOf b known events row)) rows

/-- `_ingest_host`; a fingerprint that is there twice undoes the batch. -/
def ingest (w : World) (b : Batch) : World :=
  let new := unstored w b
  let events := addRows b (initialized w b) w.events new
  if (events.map Event.fingerprint).Nodup then
    { w with
      events := events
      stored := w.stored ++ new.map b.key
      baseline := if initialized w b then w.baseline else w.baseline ++ new.map b.key }
  else w

/-! ## `_deliver_pending` -/

/-- Which channels are configured. -/
structure Channels where
  telegram : Bool
  external : Bool

def both : Channels := ⟨true, true⟩

/-- What the channels answer in one delivery. -/
structure Delivery where
  telegram : Fingerprint → Bool
  external : Fingerprint → Bool

def Delivery.accepts (d : Delivery) : Channel → Fingerprint → Bool
  | .telegram => d.telegram
  | .external => d.external

section Deliver

variable (c : Channels)

def needs (e : Event) : Channel → Bool
  | .telegram => !e.telegramSent
  | .external => c.external && !e.externalAlertQueued

/-- `ORDER BY event_at, created_at`; rows that tie come in the order of the table. -/
def older (e f : Event) : Prop :=
  e.eventAt < f.eventAt ∨ (e.eventAt = f.eventAt ∧ e.createdAt ≤ f.createdAt)

instance : DecidableRel older := fun _ _ => inferInstanceAs (Decidable (_ ∨ _))

/-- What `access_filter` selects, the oldest first. -/
def awaiting (w : World) : List Event :=
  (w.events.filter fun e => needs c e .telegram || needs c e .external).insertionSort older

def pending (w : World) : List Event := (awaiting c w).take 500

def announces (d : Delivery) (e : Event) (ch : Channel) : Bool :=
  match ch with
  | .external => needs c e .external && d.external e.fingerprint
  | .telegram => c.telegram && needs c e .telegram && d.telegram e.fingerprint

/-- One event after its attempt. -/
def attempt (d : Delivery) (e : Event) : Event :=
  { e with
    telegramSent := e.telegramSent || !c.telegram || d.telegram e.fingerprint
    telegramAttempts :=
      if c.telegram && needs c e .telegram then e.telegramAttempts + 1 else e.telegramAttempts
    externalAlertQueued := e.externalAlertQueued || announces c d e .external }

/-- The loop ends with this event: Telegram refuses it, and it is queued nowhere else. -/
def stops (d : Delivery) (e : Event) : Bool :=
  c.telegram && needs c e .telegram && !d.telegram e.fingerprint &&
    !(e.externalAlertQueued || announces c d e .external)

def announcements (d : Delivery) (e : Event) : List (Channel × Fingerprint) :=
  ([Channel.external, .telegram].filter (announces c d e)).map fun ch => (ch, e.fingerprint)

/-- The loop over `pending`. -/
def deliverLoop (d : Delivery) : List Event → World → World
  | [], w => w
  | e :: rest, w =>
    let w' :=
      { w with
        events := Table.modify w.events e.id (attempt c d)
        announced := w.announced ++ announcements c d e }
    if stops c d e then w' else deliverLoop d rest w'

/-- `_deliver_pending`, its first loop. -/
def deliver (w : World) (d : Delivery) : World :=
  if !c.telegram && !c.external then w else deliverLoop c d (pending c w) w

end Deliver

/-! ## A run -/

/-- A step: the batch of a host, a delivery, or `prune_old_access_events` with its cutoff. -/
inductive Label
  | ingest (b : Batch)
  | deliver (d : Delivery)
  | prune (cutoff : Int)

def step (c : Channels) (w : World) : Label → World
  | .ingest b => ingest w b
  | .deliver d => deliver c w d
  | .prune cutoff => { w with events := w.events.filter fun e => cutoff ≤ e.eventAt }

/-- Nothing has been fetched. -/
def empty : World := ⟨[], [], [], []⟩

/-- An unbounded run with both channels. -/
def audit (labels : Nat → Label) : Timeline World Label := ⟨empty, step both, labels⟩

/-! ## What is stored -/

def World.keys (w : World) : List Fingerprint := w.events.map Event.fingerprint

theorem keys_addRows (b : Batch) (known : Bool) (rows : List Request) :
    ∀ events : List Event, (addRows b known events rows).map Event.fingerprint =
      events.map Event.fingerprint ++ rows.map b.key := by
  induction rows with
  | nil =>
    intro events
    rw [addRows, List.map_nil, List.append_nil]
  | cons row rows ih =>
    intro events
    rw [addRows, ih]
    unfold Table.insert
    rw [List.map_append, List.append_assoc]
    rfl

variable {b : Batch} {w : World}

theorem mem_unstored {row : Request} : row ∈ unstored w b ↔ row ∈ b.rows ∧ b.key row ∉ w.keys := by
  unfold unstored World.keys
  rw [List.mem_filter, List.mem_reverse, Bool.not_eq_true', List.contains_eq_mem,
    decide_eq_false_iff_not]

/-- **A batch is stored** when the rows that are not there yet are distinct. -/
theorem ingest_stored (hkeys : w.keys.Nodup) (hnew : ((unstored w b).map b.key).Nodup) :
    (ingest w b).keys = w.keys ++ (unstored w b).map b.key ∧
      (ingest w b).stored = w.stored ++ (unstored w b).map b.key := by
  have hnodup : ((addRows b (initialized w b) w.events (unstored w b)).map
      Event.fingerprint).Nodup := by
    rw [keys_addRows, List.nodup_append]
    refine ⟨hkeys, hnew, ?_⟩
    intro key hkey key' hkey' heq
    obtain ⟨row, hrow, rfl⟩ := List.mem_map.mp hkey'
    exact (mem_unstored.mp hrow).2 (heq ▸ hkey)
  unfold ingest World.keys
  dsimp only
  rw [if_pos hnodup]
  exact ⟨keys_addRows _ _ _ _, rfl⟩

/-- The constraint undoes the others. -/
theorem ingest_undone (h : ¬ ((unstored w b).map b.key).Nodup) : ingest w b = w := by
  unfold ingest
  dsimp only
  rw [if_neg]
  rw [keys_addRows, List.nodup_append]
  exact fun hnodup => h hnodup.2.1

/-- The request was stored once, and is there. -/
def StoredOnce (w : World) (key : Fingerprint) : Prop :=
  w.stored.count key = 1 ∧ w.keys.count key = 1

/-- The rows that are not there yet are distinct, and were never there. -/
def Fresh (w : World) (b : Batch) : Prop :=
  ((unstored w b).map b.key).Nodup ∧ ∀ row ∈ unstored w b, b.key row ∉ w.stored

/-- No request was stored twice, and what is there was stored. -/
structure Sound (w : World) : Prop where
  keys : w.keys.Nodup
  stored : w.stored.Nodup
  subset : w.keys ⊆ w.stored

/-- **Every request that is fetched is stored once** when the batch is fresh. -/
theorem storedOnce_of_fresh (h : Sound w) (hfresh : Fresh w b) :
    ∀ row ∈ b.rows, StoredOnce (ingest w b) (b.key row) := by
  intro row hrow
  obtain ⟨hkeys, hstored⟩ := ingest_stored h.keys hfresh.1
  unfold StoredOnce
  rw [hkeys, hstored, List.count_append, List.count_append]
  by_cases hthere : b.key row ∈ w.keys
  · have hnot : b.key row ∉ (unstored w b).map b.key := by
      intro hmem
      obtain ⟨row', hrow', heq⟩ := List.mem_map.mp hmem
      exact (mem_unstored.mp hrow').2 (heq ▸ hthere)
    rw [List.count_eq_zero_of_not_mem hnot, List.count_eq_one_of_mem h.keys hthere,
      List.count_eq_one_of_mem h.stored (h.subset hthere)]
    exact ⟨rfl, rfl⟩
  · have hnew : row ∈ unstored w b := mem_unstored.mpr ⟨hrow, hthere⟩
    rw [List.count_eq_one_of_mem hfresh.1 (List.mem_map_of_mem hnew),
      List.count_eq_zero_of_not_mem hthere,
      List.count_eq_zero_of_not_mem (hfresh.2 row hnew)]
    exact ⟨rfl, rfl⟩

/-- Only then. -/
theorem fresh_of_storedOnce (hkeys : w.keys.Nodup)
    (h : ∀ row ∈ b.rows, StoredOnce (ingest w b) (b.key row)) : Fresh w b := by
  have hnew : ((unstored w b).map b.key).Nodup := by
    by_contra hnot
    have hne : unstored w b ≠ [] := by
      intro hnil
      apply hnot
      rw [hnil]
      exact List.nodup_nil
    obtain ⟨row, hrow⟩ := List.exists_mem_of_ne_nil _ hne
    obtain ⟨hmem, hthere⟩ := mem_unstored.mp hrow
    have honce := (h row hmem).2
    rw [ingest_undone hnot, List.count_eq_zero_of_not_mem hthere] at honce
    cases honce
  refine ⟨hnew, ?_⟩
  intro row hrow hstored
  have honce := (h row (mem_unstored.mp hrow).1).1
  rw [(ingest_stored hkeys hnew).2, List.count_append] at honce
  have hold := List.count_pos_iff.mpr hstored
  have hadded := List.count_pos_iff.mpr (List.mem_map_of_mem (f := b.key) hrow)
  omega

/-! ## What is announced -/

section Announced

variable {c : Channels}

/-- The events that the loop comes to. -/
def visited (c : Channels) (d : Delivery) : List Event → List Event
  | [] => []
  | e :: rest => if stops c d e then [e] else e :: visited c d rest

theorem mem_visited_iff {d : Delivery} {e : Event} {es : List Event} :
    e ∈ visited c d es ↔
      ∃ before after, es = before ++ e :: after ∧ ∀ e' ∈ before, stops c d e' = false := by
  induction es with
  | nil => simp [visited]
  | cons e₀ es ih =>
    unfold visited
    constructor
    · intro h
      split_ifs at h with hstops
      · rw [List.mem_singleton] at h
        subst h
        exact ⟨[], es, rfl, by simp⟩
      · rcases List.mem_cons.mp h with rfl | h
        · exact ⟨[], es, rfl, by simp⟩
        · obtain ⟨before, after, rfl, hbefore⟩ := ih.mp h
          refine ⟨e₀ :: before, after, rfl, ?_⟩
          intro e' he'
          rcases List.mem_cons.mp he' with rfl | he'
          · simpa using hstops
          · exact hbefore e' he'
    · rintro ⟨before, after, hes, hbefore⟩
      cases before with
      | nil =>
        injection hes with hhead _
        subst hhead
        split_ifs
        · exact List.mem_cons_self
        · exact List.mem_cons_self
      | cons e₁ before =>
        injection hes with hhead htail
        subst hhead
        rw [if_neg (by rw [hbefore e₀ List.mem_cons_self]; exact Bool.false_ne_true)]
        apply List.mem_cons_of_mem
        exact ih.mpr ⟨before, after, htail,
          fun e' he' => hbefore e' (List.mem_cons_of_mem e₀ he')⟩

theorem key_attempt (d : Delivery) (e : Event) : (attempt c d e).fingerprint = e.fingerprint := rfl

theorem keys_modify (d : Delivery) (events : List Event) (id : Nat) :
    (Table.modify events id (attempt c d)).map Event.fingerprint =
      events.map Event.fingerprint := by
  unfold Table.modify Table.update
  rw [List.map_map]
  apply List.map_congr_left
  intro e _
  dsimp only [Function.comp]
  split_ifs
  · exact key_attempt d e
  · rfl

/-- **What the loop does**: it announces the events that it comes to, and stores nothing. -/
theorem deliverLoop_spec (d : Delivery) (es : List Event) :
    ∀ w : World, (deliverLoop c d es w).announced =
        w.announced ++ (visited c d es).flatMap (announcements c d) ∧
      (deliverLoop c d es w).keys = w.keys ∧ (deliverLoop c d es w).stored = w.stored ∧
        (deliverLoop c d es w).baseline = w.baseline := by
  induction es with
  | nil =>
    intro w
    refine ⟨?_, rfl, rfl, rfl⟩
    simp [deliverLoop, visited]
  | cons e es ih =>
    intro w
    unfold deliverLoop visited
    dsimp only
    split_ifs with hstops
    · refine ⟨?_, keys_modify d w.events e.id, rfl, rfl⟩
      rw [List.flatMap_cons, List.flatMap_nil, List.append_nil]
    · obtain ⟨hannounced, hkeys, hstored, hbaseline⟩ := ih
        { w with
          events := Table.modify w.events e.id (attempt c d)
          announced := w.announced ++ announcements c d e }
      refine ⟨?_, hkeys.trans (keys_modify d w.events e.id), hstored, hbaseline⟩
      rw [hannounced, List.flatMap_cons, List.append_assoc]

theorem mem_announcements {d : Delivery} {e : Event} {ch : Channel} {key : Fingerprint} :
    (ch, key) ∈ announcements c d e ↔ announces c d e ch = true ∧ e.fingerprint = key := by
  unfold announcements
  rw [List.mem_map]
  constructor
  · rintro ⟨ch', hch', heq⟩
    injection heq with hch hkey
    subst hch
    exact ⟨(List.mem_filter.mp hch').2, hkey⟩
  · rintro ⟨hannounces, rfl⟩
    refine ⟨ch, List.mem_filter.mpr ⟨?_, hannounces⟩, rfl⟩
    cases ch <;> decide

end Announced

/-- A delivery reaches an event: fewer than five hundred wait before it, and none of these is
refused by Telegram while it is queued nowhere else. -/
def Reached (w : World) (d : Delivery) (e : Event) : Prop :=
  ∃ before after, awaiting both w = before ++ e :: after ∧ before.length < 500 ∧
    ∀ e' ∈ before, stops both d e' = false

theorem mem_visited_pending {d : Delivery} {e : Event} :
    e ∈ visited both d (pending both w) ↔ Reached w d e := by
  rw [mem_visited_iff]
  unfold pending Reached
  constructor
  · rintro ⟨before, after, hes, hbefore⟩
    refine ⟨before, after ++ (awaiting both w).drop 500, ?_, ?_, hbefore⟩
    · rw [← List.cons_append, ← List.append_assoc, ← hes, List.take_append_drop]
    · have hlen := congrArg List.length hes
      rw [List.length_take, List.length_append, List.length_cons] at hlen
      omega
  · rintro ⟨before, after, hes, hlen, hbefore⟩
    refine ⟨before, after.take (499 - before.length), ?_, hbefore⟩
    rw [hes, List.take_append, List.take_of_length_le (by omega)]
    obtain ⟨k, hk⟩ : ∃ k, 500 - before.length = k + 1 := ⟨499 - before.length, by omega⟩
    rw [hk, List.take_succ_cons]
    congr 3
    omega

/-- **What a delivery announces.** -/
theorem deliver_announced (w : World) (d : Delivery) :
    ∃ new, (deliver both w d).announced = w.announced ++ new ∧
      ∀ ch key, (ch, key) ∈ new ↔
        ∃ e, Reached w d e ∧ announces both d e ch = true ∧ e.fingerprint = key := by
  refine ⟨(visited both d (pending both w)).flatMap (announcements both d),
    (deliverLoop_spec d (pending both w) w).1, ?_⟩
  intro ch key
  rw [List.mem_flatMap]
  simp only [mem_visited_pending, mem_announcements]

theorem announces_iff (d : Delivery) (e : Event) (ch : Channel) :
    announces both d e ch = true ↔
      needs both e ch = true ∧ d.accepts ch e.fingerprint = true := by
  cases ch with
  | external => exact Bool.and_eq_true_iff
  | telegram =>
    unfold announces both
    rw [Bool.true_and, Bool.and_eq_true]
    rfl

/-! ## Every run -/

section Audit

variable (labels : Nat → Label)

/-- The world at a moment. -/
def worldAt (n : Nat) : World := (audit labels).state n

/-- What a step announces. -/
def announcedAt (n : Nat) : List (Channel × Fingerprint) :=
  (worldAt labels (n + 1)).announced.drop (worldAt labels n).announced.length

/-- The channel accepts the request from this moment on. -/
def AcceptedFrom (n : Nat) (ch : Channel) (key : Fingerprint) : Prop :=
  ∀ m d, n ≤ m → labels m = .deliver d → d.accepts ch key = true

/-- What the audit should do: every request that is fetched is stored once, one that is no part
of a baseline is announced on each channel that accepts it, and none of a baseline is. -/
structure Audited : Prop where
  storedOnce : ∀ n b, labels n = .ingest b →
    ∀ row ∈ b.rows, StoredOnce (worldAt labels (n + 1)) (b.key row)
  announced : ∀ n ch key, key ∈ (worldAt labels n).keys → key ∉ (worldAt labels n).baseline →
    AcceptedFrom labels n ch key → ∃ m, (ch, key) ∈ (worldAt labels m).announced
  silent : ∀ n ch key, (ch, key) ∈ announcedAt labels n → key ∉ (worldAt labels n).baseline

/-- When it does: each batch is fresh, deliveries reach what waits for a channel that accepts
it, and reach nothing of a baseline that waits for one. -/
structure Reaches : Prop where
  fresh : ∀ n b, labels n = .ingest b → Fresh (worldAt labels n) b
  reached : ∀ n ch key, key ∈ (worldAt labels n).keys → key ∉ (worldAt labels n).baseline →
    AcceptedFrom labels n ch key → (ch, key) ∉ (worldAt labels n).announced →
      ∃ m d e, n ≤ m ∧ labels m = .deliver d ∧ Reached (worldAt labels m) d e ∧
        e.fingerprint = key ∧ needs both e ch = true
  silent : ∀ n d e ch, labels n = .deliver d → Reached (worldAt labels n) d e →
    e.fingerprint ∈ (worldAt labels n).baseline → needs both e ch = true →
      d.accepts ch e.fingerprint = false

theorem worldAt_succ (n : Nat) :
    worldAt labels (n + 1) = step both (worldAt labels n) (labels n) := rfl

variable {labels}

variable {n : Nat}

theorem worldAt_deliver {d : Delivery} (h : labels n = .deliver d) :
    worldAt labels (n + 1) = deliver both (worldAt labels n) d := by
  rw [worldAt_succ, h]
  rfl

/-- **What a step announces**: nothing, unless it is a delivery. -/
theorem announced_succ (n : Nat) :
    ∃ new, (worldAt labels (n + 1)).announced = (worldAt labels n).announced ++ new ∧
      ∀ ch key, (ch, key) ∈ new ↔
        ∃ d e, labels n = .deliver d ∧ Reached (worldAt labels n) d e ∧
          announces both d e ch = true ∧ e.fingerprint = key := by
  cases hlabel : labels n with
  | deliver d =>
    obtain ⟨new, hnew, hmem⟩ := deliver_announced (worldAt labels n) d
    rw [worldAt_deliver hlabel]
    refine ⟨new, hnew, ?_⟩
    intro ch key
    rw [hmem]
    constructor
    · rintro ⟨e, he⟩
      exact ⟨d, e, rfl, he⟩
    · rintro ⟨d', e, heq, he⟩
      cases heq
      exact ⟨e, he⟩
  | ingest b =>
    refine ⟨[], ?_, ?_⟩
    · rw [worldAt_succ, hlabel, List.append_nil]
      unfold step ingest
      dsimp only
      split_ifs <;> rfl
    · intro ch key
      simp
  | prune cutoff =>
    refine ⟨[], ?_, ?_⟩
    · rw [worldAt_succ, hlabel, List.append_nil]
      rfl
    · intro ch key
      simp

theorem mem_announcedAt {ch : Channel} {key : Fingerprint} :
    (ch, key) ∈ announcedAt labels n ↔
      ∃ d e, labels n = .deliver d ∧ Reached (worldAt labels n) d e ∧
        announces both d e ch = true ∧ e.fingerprint = key := by
  obtain ⟨new, hnew, hmem⟩ := announced_succ n
  unfold announcedAt
  rw [hnew, List.drop_left, hmem]

theorem sound_step {w : World} {l : Label} (h : Sound w)
    (hfresh : ∀ b, l = .ingest b → Fresh w b) : Sound (step both w l) := by
  cases l with
  | ingest b =>
    have hb := hfresh b rfl
    obtain ⟨hkeys, hstored⟩ := ingest_stored h.keys hb.1
    have hnew : ∀ key ∈ (unstored w b).map b.key, key ∉ w.stored := by
      intro key hkey
      obtain ⟨row, hrow, rfl⟩ := List.mem_map.mp hkey
      exact hb.2 row hrow
    constructor
    · show (ingest w b).keys.Nodup
      rw [hkeys, List.nodup_append]
      refine ⟨h.keys, hb.1, ?_⟩
      intro key hkey key' hkey' heq
      exact hnew key' hkey' (h.subset (heq ▸ hkey))
    · show (ingest w b).stored.Nodup
      rw [hstored, List.nodup_append]
      refine ⟨h.stored, hb.1, ?_⟩
      intro key hkey key' hkey' heq
      exact hnew key' hkey' (heq ▸ hkey)
    · show (ingest w b).keys ⊆ (ingest w b).stored
      rw [hkeys, hstored]
      intro key hkey
      rcases List.mem_append.mp hkey with hold | hadded
      · exact List.mem_append_left _ (h.subset hold)
      · exact List.mem_append_right _ hadded
  | deliver d =>
    obtain ⟨_, hkeys, hstored, _⟩ := deliverLoop_spec (c := both) d (pending both w) w
    constructor
    · show (deliverLoop both d (pending both w) w).keys.Nodup
      rw [hkeys]
      exact h.keys
    · show (deliverLoop both d (pending both w) w).stored.Nodup
      rw [hstored]
      exact h.stored
    · show (deliverLoop both d (pending both w) w).keys ⊆ _
      rw [hkeys]
      show w.keys ⊆ (deliverLoop both d (pending both w) w).stored
      rw [hstored]
      exact h.subset
  | prune cutoff =>
    have hsub : List.Sublist
        ((w.events.filter fun e => cutoff ≤ e.eventAt).map Event.fingerprint) w.keys :=
      List.filter_sublist.map _
    exact ⟨h.keys.sublist hsub, h.stored, List.Subset.trans hsub.subset h.subset⟩

theorem sound_worldAt (n : Nat)
    (h : ∀ k < n, ∀ b, labels k = .ingest b → Fresh (worldAt labels k) b) :
    Sound (worldAt labels n) := by
  apply (audit labels).invariant (C := fun w l => ∀ b, l = .ingest b → Fresh w b)
  · exact ⟨List.nodup_nil, List.nodup_nil, List.Subset.refl _⟩
  · intro w l hsound hfresh
    exact sound_step hsound hfresh
  · exact h

/-- The constraint holds in every run. -/
theorem nodup_keys (n : Nat) : (worldAt labels n).keys.Nodup := by
  induction n with
  | zero => exact List.nodup_nil
  | succ n ih =>
    rw [worldAt_succ]
    cases labels n with
    | ingest b =>
      show (ingest (worldAt labels n) b).keys.Nodup
      by_cases hnew : ((unstored (worldAt labels n) b).map b.key).Nodup
      · rw [(ingest_stored ih hnew).1, List.nodup_append]
        refine ⟨ih, hnew, ?_⟩
        intro key hkey key' hkey' heq
        obtain ⟨row, hrow, rfl⟩ := List.mem_map.mp hkey'
        exact (mem_unstored.mp hrow).2 (heq ▸ hkey)
      · rw [ingest_undone hnew]
        exact ih
    | deliver d =>
      show (deliverLoop both d (pending both (worldAt labels n)) (worldAt labels n)).keys.Nodup
      rw [(deliverLoop_spec d _ _).2.1]
      exact ih
    | prune cutoff => exact ih.sublist (List.filter_sublist.map _)

/-- **When every request is stored once.** -/
theorem storedOnce_iff :
    (∀ n b, labels n = .ingest b →
        ∀ row ∈ b.rows, StoredOnce (worldAt labels (n + 1)) (b.key row)) ↔
      ∀ n b, labels n = .ingest b → Fresh (worldAt labels n) b := by
  have hsucc : ∀ n b, labels n = .ingest b →
      worldAt labels (n + 1) = ingest (worldAt labels n) b := by
    intro n b hlabel
    rw [worldAt_succ, hlabel]
    rfl
  constructor
  · intro h n b hlabel
    apply fresh_of_storedOnce (nodup_keys n)
    rw [← hsucc n b hlabel]
    exact h n b hlabel
  · intro h n b hlabel
    rw [hsucc n b hlabel]
    exact storedOnce_of_fresh (sound_worldAt n fun k _ => h k) (h n b hlabel)

/-- **When a request is announced** on a channel that accepts it from `n` on. -/
theorem announced_iff {ch : Channel} {key : Fingerprint} (haccepted : AcceptedFrom labels n ch key)
    (hnot : (ch, key) ∉ (worldAt labels n).announced) :
    (∃ m, (ch, key) ∈ (worldAt labels m).announced) ↔
      ∃ m d e, n ≤ m ∧ labels m = .deliver d ∧ Reached (worldAt labels m) d e ∧
        e.fingerprint = key ∧ needs both e ch = true := by
  have hstays : ∀ {m m' : Nat}, m ≤ m' → (ch, key) ∈ (worldAt labels m).announced →
      (ch, key) ∈ (worldAt labels m').announced := by
    intro m m' hle hmem
    induction hle with
    | refl => exact hmem
    | @step k _ ih =>
      obtain ⟨new, hnew, _⟩ := announced_succ k
      rw [hnew]
      exact List.mem_append_left _ ih
  constructor
  · rintro ⟨m, hm⟩
    have hle : n ≤ m := by
      by_contra hlt
      exact hnot (hstays (by omega) hm)
    obtain ⟨k, hk, _, hbefore, hafter⟩ :=
      (audit labels).exists_change (P := fun w => (ch, key) ∈ w.announced) hle hnot hm
    obtain ⟨new, hnew, hmem⟩ := announced_succ k
    have hafter' : (ch, key) ∈ (worldAt labels (k + 1)).announced := hafter
    rw [hnew, List.mem_append] at hafter'
    obtain ⟨d, e, hlabel, hreached, hannounces, hkey⟩ :=
      (hmem ch key).mp (hafter'.resolve_left hbefore)
    exact ⟨k, d, e, hk, hlabel, hreached, hkey, ((announces_iff d e ch).mp hannounces).1⟩
  · rintro ⟨m, d, e, hle, hlabel, hreached, hkey, hneeds⟩
    obtain ⟨new, hnew, hmem⟩ := announced_succ m
    refine ⟨m + 1, ?_⟩
    rw [hnew]
    apply List.mem_append_right
    apply (hmem ch key).mpr
    refine ⟨d, e, hlabel, hreached, (announces_iff d e ch).mpr ⟨hneeds, ?_⟩, hkey⟩
    rw [hkey]
    exact haccepted m d hle hlabel

end Audit

/-- **When the audit does what it should.** -/
theorem audited_iff (labels : Nat → Label) : Audited labels ↔ Reaches labels := by
  constructor
  · intro h
    refine ⟨storedOnce_iff.mp h.storedOnce, ?_, ?_⟩
    · intro n ch key hkey hbaseline haccepted hnot
      exact (announced_iff haccepted hnot).mp (h.announced n ch key hkey hbaseline haccepted)
    · intro n d e ch hlabel hreached hbaseline hneeds
      rw [← Bool.not_eq_true]
      intro haccepts
      apply h.silent n ch e.fingerprint _ hbaseline
      exact mem_announcedAt.mpr
        ⟨d, e, hlabel, hreached, (announces_iff d e ch).mpr ⟨hneeds, haccepts⟩, rfl⟩
  · intro h
    refine ⟨storedOnce_iff.mpr h.fresh, ?_, ?_⟩
    · intro n ch key hkey hbaseline haccepted
      by_cases hthere : (ch, key) ∈ (worldAt labels n).announced
      · exact ⟨n, hthere⟩
      · exact (announced_iff haccepted hthere).mpr
          (h.reached n ch key hkey hbaseline haccepted hthere)
    · intro n ch key hmem hbaseline
      obtain ⟨d, e, hlabel, hreached, hannounces, rfl⟩ := mem_announcedAt.mp hmem
      obtain ⟨hneeds, haccepts⟩ := (announces_iff d e ch).mp hannounces
      rw [h.silent n d e ch hlabel hreached hbaseline hneeds] at haccepts
      cases haccepts

/-- A request of the daemon's tail. -/
def request : Request where
  timestampRaw := some "t0"
  method := some "GET"
  path := some "/bucket"
  requester := none
  remoteAddr := none
  status := some 200
  bytesSent := some 0
  latencyMs := none
  transactionId := none
  timestamp := 0

/-- The first scan of a host, and deliveries that are accepted. -/
def firstScan : Nat → Label
  | 0 => .ingest ⟨"c1", "rgw1", [request], 0⟩
  | _ + 1 => .deliver ⟨fun _ => true, fun _ => true⟩

/-- **A baseline is announced**: the request of the first scan is queued for the other
channels. -/
theorem baseline_announced : ¬ Audited firstScan := by
  intro h
  have hmem : (Channel.external, fingerprint "c1" "rgw1" request) ∈ announcedAt firstScan 1 := by
    decide +kernel
  exact h.silent 1 _ _ hmem (by decide +kernel)

end CephAi.Ports.AccessAudit
