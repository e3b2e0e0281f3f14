import Mathlib

/-!
# Pruning the cache of Ceph queries

`prune_disk_cache` of `shared/ceph_query_cache.py`.

The loop takes the oldest row off its list before it deletes the file, and lowers the bytes only
after it did: a file that was found missing keeps its bytes in the total, and one that could not be
deleted is off the list while it is still on disk.

## Main results

* `attempts_append` — what is tried, and what is left, are the rows from the oldest on.
* `reached` — what the limits were compared with when a file was tried.
* `prunes_iff` — pruning deletes no more than needed and reports what is left exactly if none of the
  files that have to go is refused, and none that is found missing had any bytes.
-/

namespace CephAi.Ports.CachePrune

/-! ## The scan -/

structure Stat where
  mtimeNs : Int
  size : Int
deriving DecidableEq, Repr

/-- An entry of the directory; `stat` is none where it raises. -/
structure DirEntry where
  name : String
  isFile : Bool
  isSymlink : Bool
  stat : Option Stat
deriving DecidableEq, Repr

/-- `entry.suffix == ".json"` -/
def isJson (name : String) : Bool :=
  ".json".toList.isSuffixOf name.toList && 5 < name.toList.length

/-- A row of the scan. -/
structure Payload where
  mtimeNs : Int
  name : String
  size : Nat
deriving DecidableEq, Repr

/-- The row of an entry. -/
def DirEntry.payload (e : DirEntry) : Option Payload :=
  if e.isFile && !e.isSymlink && isJson e.name then
    e.stat.map fun stat => ⟨stat.mtimeNs, e.name, (max 0 stat.size).toNat⟩
  else none

/-- `a` may stand before `b`. -/
def Older (a b : Payload) : Prop := a.mtimeNs ≤ b.mtimeNs

instance : DecidableRel Older := fun a b => inferInstanceAs (Decidable (a.mtimeNs ≤ b.mtimeNs))

instance : Std.Total Older := ⟨fun a b => Int.le_total a.mtimeNs b.mtimeNs⟩

instance : IsTrans Payload Older := ⟨fun _ _ _ hab hbc => Int.le_trans hab hbc⟩

/-- The rows, oldest first. -/
def scan (entries : List DirEntry) : List Payload :=
  (entries.filterMap DirEntry.payload).insertionSort Older

/-- The size of files. -/
def bytes (rows : List Payload) : Nat := (rows.map Payload.size).sum

@[simp] theorem bytes_cons (f : Payload) (rows : List Payload) :
    bytes (f :: rows) = f.size + bytes rows := List.sum_cons

/-! ## The loop -/

structure Limits where
  byteLimit : Nat
  fileLimit : Nat

/-- `max(1, int(given or setting))` -/
def limit (given : Option Int) (setting : Int) : Nat :=
  (max 1 (match given with
    | some n => if n ≠ 0 then n else setting
    | none => setting)).toNat

def Limits.exceeded (limits : Limits) (files bytes : Nat) : Bool :=
  limits.fileLimit < files || limits.byteLimit < bytes

/-- How `unlink` ends. -/
inductive Unlink
  | deleted
  /-- `FileNotFoundError` -/
  | missing
  /-- any other `OSError` -/
  | refused
deriving DecidableEq, Repr

/-- Where the loop ends.  `attempts` are the files it has tried, in order. -/
structure Pruned (K : Type) where
  rows : List Payload
  totalBytes : Nat
  removed : Nat
  memory : List K
  attempts : List (Payload × Unlink)
deriving DecidableEq, Repr

variable {K : Type}

/-- The loop; `memory` are the keys of the copies in memory, `path` is `_path`. -/
def pruneLoop (limits : Limits) (unlink : Payload → Unlink) (path : K → String) :
    List Payload → Nat → Nat → List K → Pruned K
  | [], totalBytes, removed, memory => ⟨[], totalBytes, removed, memory, []⟩
  | f :: rows, totalBytes, removed, memory =>
    if limits.exceeded (rows.length + 1) totalBytes = true then
      match unlink f with
      | .deleted =>
        let r := pruneLoop limits unlink path rows (totalBytes - f.size) (removed + 1)
          (memory.filter fun key => path key ≠ f.name)
        { r with attempts := (f, .deleted) :: r.attempts }
      | .missing =>
        let r := pruneLoop limits unlink path rows totalBytes removed memory
        { r with attempts := (f, .missing) :: r.attempts }
      | .refused =>
        let r := pruneLoop limits unlink path rows totalBytes removed memory
        { r with attempts := (f, .refused) :: r.attempts }
    else ⟨f :: rows, totalBytes, removed, memory, []⟩

/-- The counters of `_metrics`. -/
structure Metrics where
  pruneRuns : Nat
  prunedFiles : Nat
  pruneErrors : Nat
deriving DecidableEq, Repr

/-- What is returned. -/
structure Report where
  available : Bool
  removed : Nat
  files : Nat
  bytes : Nat
deriving DecidableEq, Repr

structure Outcome (K : Type) where
  report : Report
  metrics : Metrics
  memory : List K
  attempts : List (Payload × Unlink)
  /-- the rows that were not tried -/
  rest : List Payload
deriving DecidableEq, Repr

structure Settings where
  snapshotCacheMaxBytes : Int
  realtimeCacheMaxFiles : Int

def Settings.limits (s : Settings) (maxBytes maxFiles : Option Int) : Limits :=
  ⟨limit maxBytes s.snapshotCacheMaxBytes, limit maxFiles s.realtimeCacheMaxFiles⟩

/-- `prune_disk_cache`; `entries` is none where listing the directory raises. -/
def pruneDiskCache (limits : Limits) (entries : Option (List DirEntry))
    (unlink : Payload → Unlink) (path : K → String) (metrics : Metrics) (memory : List K) :
    Outcome K :=
  match entries with
  | none =>
    ⟨⟨false, 0, 0, 0⟩, { metrics with pruneErrors := metrics.pruneErrors + 1 }, memory, [], []⟩
  | some entries =>
    let rows := scan entries
    let r := pruneLoop limits unlink path rows (bytes rows) 0 memory
    ⟨⟨true, r.removed, r.rows.length, r.totalBytes⟩,
      { metrics with
        pruneRuns := metrics.pruneRuns + 1
        prunedFiles := metrics.prunedFiles + r.removed },
      r.memory, r.attempts, r.rows⟩

section

-- the equations, made once for all the proofs that use them
attribute [local simp] pruneLoop

end

/-! ## The law -/

/-- The files that are neither deleted nor found missing. -/
def onDisk (attempts : List (Payload × Unlink)) (rest : List Payload) : List Payload :=
  (attempts.filter fun a => a.2 = .refused).map Prod.fst ++ rest

/-- The oldest go first, one is deleted only while the files on disk exceed a limit, and the report
is about what is left. -/
structure Lawful (limits : Limits) (entries : List DirEntry) (o : Outcome K) : Prop where
  oldest : (o.attempts.map Prod.fst ++ o.rest).Pairwise Older
  all : (o.attempts.map Prod.fst ++ o.rest).Perm (entries.filterMap DirEntry.payload)
  needed : ∀ before f after, o.attempts = before ++ (f, .deleted) :: after →
    limits.exceeded (onDisk before (f :: after.map Prod.fst ++ o.rest)).length
      (bytes (onDisk before (f :: after.map Prod.fst ++ o.rest))) = true
  files : o.report.files = (onDisk o.attempts o.rest).length
  bytes : o.report.bytes = bytes (onDisk o.attempts o.rest)

/-- The oldest files, as many as have to go for the others to be within the limits. -/
def due (limits : Limits) : List Payload → List Payload
  | [] => []
  | f :: rows =>
    if limits.exceeded (f :: rows).length (bytes (f :: rows)) = true then f :: due limits rows
    else []

/-- The file goes, or had no bytes. -/
def Goes (f : Payload) (u : Unlink) : Prop := u ≠ .refused ∧ (u = .missing → f.size = 0)

instance (f : Payload) (u : Unlink) : Decidable (Goes f u) :=
  inferInstanceAs (Decidable (_ ∧ (_ → _)))

/-! ## One file of the loop -/

/-- The total after a file was tried. -/
def lowered (f : Payload) (u : Unlink) (totalBytes : Nat) : Nat :=
  if u = .deleted then totalBytes - f.size else totalBytes

/-- The number of removed files after it. -/
def counted (u : Unlink) (removed : Nat) : Nat := if u = .deleted then removed + 1 else removed

/-- The copies in memory after it. -/
def forgotten (path : K → String) (f : Payload) (u : Unlink) (memory : List K) : List K :=
  if u = .deleted then memory.filter fun key => path key ≠ f.name else memory

variable (limits : Limits) (unlink : Payload → Unlink) (path : K → String)

variable {rows : List Payload}

/-- **Step lemma.**  The limits are not exceeded: the loop ends. -/
theorem pruneLoop_within (f : Payload) {totalBytes : Nat} (removed : Nat) (memory : List K)
    (h : limits.exceeded (rows.length + 1) totalBytes = false) :
    pruneLoop limits unlink path (f :: rows) totalBytes removed memory =
      ⟨f :: rows, totalBytes, removed, memory, []⟩ := by
  rw [pruneLoop, h, if_neg Bool.false_ne_true]

/-- **Step lemma.**  They are: the file is tried, and the loop goes on without it. -/
theorem pruneLoop_exceeded (f : Payload) {totalBytes : Nat} (removed : Nat) (memory : List K)
    (h : limits.exceeded (rows.length + 1) totalBytes = true) :
    let r := pruneLoop limits unlink path rows (lowered f (unlink f) totalBytes)
      (counted (unlink f) removed) (forgotten path f (unlink f) memory)
    pruneLoop limits unlink path (f :: rows) totalBytes removed memory =
      { r with attempts := (f, unlink f) :: r.attempts } := by
  rw [pruneLoop, if_pos h]
  cases unlink f <;> rfl

/-! ## The whole loop -/

theorem attempts_append (rows : List Payload) (totalBytes removed : Nat) (memory : List K) :
    (pruneLoop limits unlink path rows totalBytes removed memory).attempts.map Prod.fst ++
      (pruneLoop limits unlink path rows totalBytes removed memory).rows = rows := by
  induction rows generalizing totalBytes removed memory with
  | nil => rfl
  | cons f rows ih =>
    cases h : limits.exceeded (rows.length + 1) totalBytes with
    | false =>
      rw [pruneLoop_within limits unlink path f removed memory h]
      rfl
    | true =>
      rw [pruneLoop_exceeded limits unlink path f removed memory h, List.map_cons,
        List.cons_append, ih]

theorem onDisk_cons (f : Payload) (u : Unlink) (attempts : List (Payload × Unlink))
    (rest : List Payload) :
    onDisk ((f, u) :: attempts) rest =
      if u = .refused then f :: onDisk attempts rest else onDisk attempts rest := by
  unfold onDisk
  cases u <;> rfl

/-- Files that were found missing. -/
def missing (attempts : List (Payload × Unlink)) : List Payload :=
  (attempts.filter fun a => a.2 = .missing).map Prod.fst

theorem missing_cons (f : Payload) (u : Unlink) (attempts : List (Payload × Unlink)) :
    missing ((f, u) :: attempts) =
      if u = .missing then f :: missing attempts else missing attempts := by
  unfold missing
  cases u <;> rfl

theorem totalBytes_eq (rows : List Payload) (totalBytes removed : Nat) (memory : List K)
    (h : bytes rows ≤ totalBytes) :
    let r := pruneLoop limits unlink path rows totalBytes removed memory
    r.totalBytes + bytes rows =
      totalBytes + bytes (onDisk r.attempts r.rows) + bytes (missing r.attempts) := by
  induction rows generalizing totalBytes removed memory with
  | nil => rfl
  | cons f rows ih =>
    rw [bytes_cons] at h
    cases hexceeded : limits.exceeded (rows.length + 1) totalBytes with
    | false => rw [pruneLoop_within limits unlink path f removed memory hexceeded]; rfl
    | true =>
      have hlowered : bytes rows ≤ lowered f (unlink f) totalBytes := by
        unfold lowered
        split <;> omega
      have hrest := ih (lowered f (unlink f) totalBytes) (counted (unlink f) removed)
        (forgotten path f (unlink f) memory) hlowered
      simp only [pruneLoop_exceeded limits unlink path f removed memory hexceeded, onDisk_cons,
        missing_cons, bytes_cons] at hrest ⊢
      cases hu : unlink f with
      | deleted =>
        simp only [hu, lowered, if_true, reduceCtorEq, if_false] at hrest ⊢
        omega
      | missing | refused =>
        simp only [hu, lowered, if_true, reduceCtorEq, if_false, bytes_cons] at hrest ⊢
        omega

/-- Files that were deleted. -/
def deleted (attempts : List (Payload × Unlink)) : List Payload :=
  (attempts.filter fun a => a.2 = .deleted).map Prod.fst

/-! ## When all goes well -/

theorem lowered_bytes {f : Payload} {u : Unlink} (h : Goes f u) (rows : List Payload) :
    lowered f u (bytes (f :: rows)) = bytes rows := by
  obtain ⟨hrefused, hmissing⟩ := h
  rw [bytes_cons]
  unfold lowered
  cases u with
  | deleted => rw [if_pos rfl, Nat.add_sub_cancel_left]
  | missing => rw [if_neg (by decide), hmissing rfl, Nat.zero_add]
  | refused => exact absurd rfl hrefused

theorem goes_iff (rows : List Payload) (removed : Nat) (memory : List K) :
    (∀ a ∈ (pruneLoop limits unlink path rows (bytes rows) removed memory).attempts,
        Goes a.1 a.2) ↔
      ∀ f ∈ due limits rows, Goes f (unlink f) := by
  induction rows generalizing removed memory with
  | nil => exact iff_of_true (fun _ h => (nomatch h)) fun _ h => (nomatch h)
  | cons f rows ih =>
    cases h : limits.exceeded (rows.length + 1) (bytes (f :: rows)) with
    | false =>
      rw [pruneLoop_within limits unlink path f removed memory h, due, List.length_cons, h,
        if_neg Bool.false_ne_true]
      exact iff_of_true (fun _ h => (nomatch h)) fun _ h => (nomatch h)
    | true =>
      rw [pruneLoop_exceeded limits unlink path f removed memory h, due, List.length_cons, if_pos h, List.forall_mem_cons, List.forall_mem_cons]
      refine and_congr_right fun hgoes => ?_
      rw [lowered_bytes hgoes, ih]

theorem reached {removed : Nat} {memory : List K} {r : Pruned K}
    (hr : pruneLoop limits unlink path rows (bytes rows) removed memory = r)
    {before after : List (Payload × Unlink)} {a : Payload × Unlink}
    (hbefore : ∀ b ∈ before, Goes b.1 b.2) (hat : r.attempts = before ++ a :: after) :
    limits.exceeded (a.1 :: after.map Prod.fst ++ r.rows).length
      (bytes (a.1 :: after.map Prod.fst ++ r.rows)) = true := by
  induction rows generalizing removed memory r before with
  | nil =>
    subst hr
    exact absurd hat (List.append_ne_nil_of_right_ne_nil _ (List.cons_ne_nil _ _)).symm
  | cons f rows ih =>
    cases h : limits.exceeded (rows.length + 1) (bytes (f :: rows)) with
    | false =>
      rw [pruneLoop_within limits unlink path f removed memory h] at hr
      subst hr
      exact absurd hat (List.append_ne_nil_of_right_ne_nil _ (List.cons_ne_nil _ _)).symm
    | true =>
      cases before with
      | nil =>
        have hall :=
          attempts_append limits unlink path (f :: rows) (bytes (f :: rows)) removed memory
        rw [hr, hat, List.nil_append, List.map_cons] at hall
        rw [hall]
        exact h
      | cons b before =>
        rw [pruneLoop_exceeded limits unlink path f removed memory h] at hr
        subst hr
        rw [List.cons_append, List.cons.injEq] at hat
        obtain ⟨rfl, hat⟩ := hat
        have hgoes : Goes f (unlink f) := hbefore _ List.mem_cons_self
        rw [lowered_bytes hgoes] at hat ⊢
        exact ih (r := pruneLoop limits unlink path rows (bytes rows) _ _) rfl
          (fun b hb => hbefore b (List.mem_cons_of_mem _ hb)) hat

/-! ## The report -/

theorem onDisk_of_goes {attempts : List (Payload × Unlink)}
    (h : ∀ a ∈ attempts, Goes a.1 a.2) (rest : List Payload) : onDisk attempts rest = rest := by
  unfold onDisk
  rw [List.filter_eq_nil_iff.mpr fun a ha => by simp [(h a ha).1]]
  rfl

theorem missing_of_goes {attempts : List (Payload × Unlink)}
    (h : ∀ a ∈ attempts, Goes a.1 a.2) : bytes (missing attempts) = 0 := by
  unfold missing bytes
  rw [List.sum_eq_zero_iff_forall_eq_nat]
  intro size hsize
  obtain ⟨f, hf, rfl⟩ := List.mem_map.mp hsize
  obtain ⟨a, ha, rfl⟩ := List.mem_map.mp hf
  have hmissing := List.of_mem_filter ha
  exact (h a (List.mem_of_mem_filter ha)).2 (of_decide_eq_true hmissing)

theorem report_iff (attempts : List (Payload × Unlink)) (rest : List Payload) (totalBytes : Nat)
    (h : totalBytes = bytes (onDisk attempts rest) + bytes (missing attempts)) :
    rest.length = (onDisk attempts rest).length ∧ totalBytes = bytes (onDisk attempts rest) ↔
      ∀ a ∈ attempts, Goes a.1 a.2 := by
  constructor
  · rintro ⟨hfiles, hbytes⟩ a ha
    constructor
    · intro hrefused
      have hmem : a.1 ∈ (attempts.filter fun a => a.2 = .refused).map Prod.fst :=
        List.mem_map_of_mem (List.mem_filter.mpr ⟨ha, decide_eq_true hrefused⟩)
      have hpos := List.length_pos_of_mem hmem
      unfold onDisk at hfiles
      rw [List.length_append] at hfiles
      omega
    · intro hmissing
      have hmem : a.1 ∈ missing attempts :=
        List.mem_map_of_mem (List.mem_filter.mpr ⟨ha, decide_eq_true hmissing⟩)
      have hle : a.1.size ≤ bytes (missing attempts) :=
        List.le_sum_of_mem (List.mem_map_of_mem hmem)
      omega
  · intro hgoes
    rw [onDisk_of_goes hgoes] at h ⊢
    rw [missing_of_goes hgoes, Nat.add_zero] at h
    exact ⟨rfl, h⟩

/-- **Pruning** deletes no more than it needs to, from the oldest on, and reports what is left,
exactly if none of the oldest files that have to go is refused and none of them that is found
missing had any bytes. -/
theorem prunes_iff (entries : List DirEntry) (metrics : Metrics) (memory : List K) :
    Lawful limits entries
        (pruneDiskCache limits (some entries) unlink path metrics memory) ↔
      ∀ f ∈ due limits (scan entries), Goes f (unlink f) := by
  have hall := attempts_append limits unlink path (scan entries) (bytes (scan entries)) 0 memory
  have htotal := totalBytes_eq limits unlink path (scan entries) (bytes (scan entries)) 0 memory
    (Nat.le_refl _)
  have hgoes := goes_iff limits unlink path (scan entries) 0 memory
  obtain ⟨r, hr⟩ : ∃ r,
    pruneLoop limits unlink path (scan entries) (bytes (scan entries)) 0 memory = r := ⟨_, rfl⟩
  rw [hr] at hall hgoes
  simp only [hr] at htotal
  have hreport := report_iff r.attempts r.rows r.totalBytes (by omega)
  rw [← hgoes, ← hreport, pruneDiskCache]
  simp only [hr]
  constructor
  · intro h
    exact ⟨h.files, h.bytes⟩
  · intro h
    refine ⟨?_, ?_, ?_, h.1, h.2⟩
    · exact hall.symm ▸ List.pairwise_insertionSort Older _
    · exact hall.symm ▸ List.perm_insertionSort Older _
    · intro before f after hat
      have hattempts : r.attempts = before ++ (f, .deleted) :: after := hat
      have hbefore : ∀ b ∈ before, Goes b.1 b.2 :=
        fun b hb => hreport.mp h b (hattempts ▸ List.mem_append_left _ hb)
      rw [onDisk_of_goes hbefore]
      exact reached limits unlink path hr hbefore hat

/-- Three payloads, of 8, 8 and 2 bytes. -/
def threeFiles : List DirEntry :=
  [⟨"b.json", true, false, some ⟨2, 8⟩⟩, ⟨"a.json", true, false, some ⟨1, 8⟩⟩,
    ⟨"c.json", true, false, some ⟨3, 2⟩⟩, ⟨"c.json.lock", true, false, some ⟨3, 0⟩⟩]

/-- Somebody else removes the oldest one. -/
def oldestMissing (f : Payload) : Unlink := if f.name = "a.json" then .missing else .deleted

/-- The second one is deleted although the rest is within the limits, and the bytes of the missing
one are reported. -/
theorem fresh_deleted :
    let o := pruneDiskCache ⟨10, 10⟩ (some threeFiles) oldestMissing id ⟨0, 0, 0⟩
      ["a.json", "b.json", "c.json"]
    o.attempts = [(⟨1, "a.json", 8⟩, .missing), (⟨2, "b.json", 8⟩, .deleted)] ∧
      o.report = ⟨true, 1, 1, 10⟩ ∧ ¬Lawful ⟨10, 10⟩ threeFiles o := by
  refine ⟨by decide, by decide, fun h => ?_⟩
  exact absurd (h.needed [(⟨1, "a.json", 8⟩, .missing)] ⟨2, "b.json", 8⟩ [] (by decide)) (by decide)

end CephAi.Ports.CachePrune
