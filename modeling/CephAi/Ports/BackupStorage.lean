import CephAi.Verified.Retention

/-!
# Backup storage backends

`worker/backup/storage`: the two backends behind one listing contract, over
two namespaces.  `SSHStorageBackend` lists the entries of a directory;
`S3StorageBackend` lists the keys that start with a string.  Both sort the
listing newest first, leave protected keys alone, keep a count and delete the
rest until a deletion raises.

A stored object carries a payload of an arbitrary type; only restores read it.
The listing's size is not kept, since retention does not look at it.
Directories are not kept either: `SSHStorageBackend.list` skips them.

## Main results

* `applyRetention_deleted` — what one retention call deletes is a sweep of the
  listing, whatever the destination refuses.
* `find?_applyRetention` — every other object is still stored unchanged.
-/

namespace CephAi.Ports.BackupStorage

open Verified

/-! ## Names and keys -/

def isRbdNameChar (c : Char) : Bool :=
  c.isAlphanum || c == '_' || c == '.' || c == '-'

/-- `cluster_scope.is_valid_rbd_name`. -/
def isValidRbdName (value : String) : Bool :=
  value != "." && value != ".." &&
    decide (1 ≤ value.toList.length ∧ value.toList.length ≤ 128) &&
    value.toList.all isRbdNameChar

/-- A pool or image component that passed `is_valid_rbd_name`. -/
structure RbdName where
  value : String
  valid : isValidRbdName value = true

theorem rbd_valid : isValidRbdName "rbd" = true := by decide

/-- `key.startswith(start)`. -/
def startsWith (key start : String) : Bool :=
  start.toList.isPrefixOf key.toList

/-- One path component: not empty and without a slash. -/
def isFileName (name : List Char) : Bool := !name.isEmpty && !name.contains '/'

/-- The part of `key` behind the directory `dir`. -/
def behind (dir key : String) : List Char :=
  key.toList.drop (dir.toList.length + 1)

/-- `key` is `dir/<file>`. -/
def isFileIn (dir key : String) : Bool :=
  startsWith key (dir ++ "/") && isFileName (behind dir key)

/-- `SSHStorageBackend._remote_path` accepts `remoteKey`. -/
def remotePathSafe (remoteKey : String) : Bool :=
  remoteKey != "" && !startsWith remoteKey "/" &&
    !remoteKey.toList.contains '\\' &&
    (remoteKey.toList.splitOn '/').all fun part =>
      part != [] && part != ['.'] && part != ['.', '.']

/-- `BackupJob.job_type`. -/
inductive JobType
  | full
  | incremental
  | metadata
  | restoreDrill
deriving DecidableEq, Repr

/-- The column's text, which also begins the keys of the job's artifacts. -/
def JobType.text : JobType → String
  | .full => "full"
  | .incremental => "incremental"
  | .metadata => "metadata"
  | .restoreDrill => "restore_drill"

/-- `f"{job_type}/{pool}/{image}"`. -/
def retentionPrefix (jobType : JobType) (pool image : RbdName) : String :=
  jobType.text ++ "/" ++ pool.value ++ "/" ++ image.value

theorem startsWith_iff (key start : String) :
    startsWith key start = true ↔ start.toList <+: key.toList := by
  simp [startsWith]

theorem startsWith_full_incremental (pool image : RbdName) (key : String)
    (h : startsWith key (retentionPrefix .full pool image) = true) :
    startsWith key (retentionPrefix .incremental pool image) = false := by
  rw [startsWith_iff] at h
  rw [Bool.eq_false_iff, ne_eq, startsWith_iff]
  intro h'
  obtain ⟨s, hs⟩ := h
  obtain ⟨s', hs'⟩ := h'
  rw [← hs] at hs'
  simp [retentionPrefix, JobType.text, String.toList_append] at hs'

/-! ## Stored objects -/

/-- `BackupObjectInfo`, the fields retention reads. -/
structure BackupObjectInfo where
  key : String
  createdAt : Nat
deriving DecidableEq, Repr

/-- An object at the destination. -/
structure StoredObject (π : Type) where
  key : String
  createdAt : Nat
  payload : π
deriving DecidableEq, Repr

/-- What a listing tells about an object. -/
def StoredObject.info {π : Type} (o : StoredObject π) : BackupObjectInfo :=
  { key := o.key, createdAt := o.createdAt }

@[simp] theorem StoredObject.info_key {π : Type} (o : StoredObject π) :
    o.info.key = o.key := rfl

structure RetentionPolicyLike where
  keepFullCount : Nat
  keepIncrementalCount : Nat
  protectedKeys : List String

def RetentionPolicyLike.keepCount (policy : RetentionPolicyLike) : Nat :=
  policy.keepFullCount + policy.keepIncrementalCount

def RetentionPolicyLike.protects (policy : RetentionPolicyLike)
    (o : BackupObjectInfo) : Bool := policy.protectedKeys.contains o.key

/-- `BackupTarget.transport`. -/
inductive Transport
  | ssh
  | s3
deriving DecidableEq, Repr

/-- A destination: its transport and what it stores, each key once. -/
structure Backend (π : Type) where
  transport : Transport
  objects : List (StoredObject π)
  keysNodup : (objects.map (·.key)).Nodup

variable {π : Type}

/-- `S3StorageBackend.list`: the keys that start with `keyStart`. -/
def s3List (keyStart : String) (objects : List (StoredObject π)) :
    List BackupObjectInfo :=
  (objects.filter (fun o => startsWith o.key keyStart)).map (·.info)

/-- The SFTP listing keeps `filename` unless it is a partial upload. -/
def sshListed (filename : List Char) : Bool :=
  isFileName filename && !(".part".toList).isSuffixOf filename

/-- `SSHStorageBackend.list`: the files of the directory; `none` when
`_remote_path` raises. -/
def sshList (dir : String) (objects : List (StoredObject π)) :
    Option (List BackupObjectInfo) :=
  if dir = "" then
    some ((objects.filter (fun o => sshListed o.key.toList)).map (·.info))
  else if remotePathSafe dir then
    some ((objects.filter (fun o =>
      startsWith o.key (dir ++ "/") && sshListed (behind dir o.key))).map
        (·.info))
  else none

def Backend.list (b : Backend π) (keyStart : String) :
    Option (List BackupObjectInfo) :=
  match b.transport with
  | .s3 => some (s3List keyStart b.objects)
  | .ssh => sshList keyStart b.objects

def Backend.find? (b : Backend π) (remoteKey : String) :
    Option (StoredObject π) :=
  b.objects.find? (fun o => o.key == remoteKey)

/-- Drop the object at `remoteKey`. -/
def Backend.erase (b : Backend π) (remoteKey : String) : Backend π where
  transport := b.transport
  objects := b.objects.filter (fun o => o.key != remoteKey)
  keysNodup := b.keysNodup.sublist (List.filter_sublist.map _)

/-- `delete(remote_key)`; `none` when it raises.  Both destinations may refuse
on their own grounds, an S3 bucket does not mind a missing key, and the SFTP
backend checks the path and needs the file. -/
def Backend.delete (b : Backend π) (refuses : String → Bool)
    (remoteKey : String) : Option (Backend π) :=
  match b.transport with
  | .s3 => if refuses remoteKey then none else some (b.erase remoteKey)
  | .ssh =>
    if remotePathSafe remoteKey && (b.find? remoteKey).isSome &&
        !refuses remoteKey then
      some (b.erase remoteKey)
    else none

/-- `for obj in to_delete: self.delete(obj.key)`: the first refusal ends the
loop.  The keys are those really deleted, also when the loop raised. -/
def Backend.deleteEach (refuses : String → Bool) :
    Backend π → List BackupObjectInfo → Backend π × List String
  | b, [] => (b, [])
  | b, o :: toDelete =>
    match b.delete refuses o.key with
    | none => (b, [])
    | some b' =>
      let rest := Backend.deleteEach refuses b' toDelete
      (rest.1, o.key :: rest.2)

/-- `apply_retention(prefix, policy)`, the same body in both backends. -/
def Backend.applyRetention (b : Backend π) (refuses : String → Bool)
    (keyStart : String) (policy : RetentionPolicyLike) :
    Backend π × List String :=
  match b.list keyStart with
  | none => (b, [])
  | some listed =>
    let objects := Retention.sortNewest (·.createdAt) listed
    let deletable := objects.filter (fun o => !policy.protects o)
    let toDelete := deletable.drop policy.keepCount
    b.deleteEach refuses toDelete

/-- Store `o`, over whatever its key held. -/
def Backend.put (b : Backend π) (o : StoredObject π) : Backend π where
  transport := b.transport
  objects := b.objects.filter (fun x => x.key != o.key) ++ [o]
  keysNodup := by
    rw [List.map_append, List.map_singleton]
    refine List.Nodup.append ?_ (by simp) ?_
    · exact b.keysNodup.sublist (List.filter_sublist.map _)
    · intro key hkey hmem
      obtain ⟨x, hx, rfl⟩ := List.mem_map.mp hkey
      have hne := (List.mem_filter.mp hx).2
      simp at hmem hne
      exact hne hmem

/-- `upload` takes the key: only the SFTP backend checks it. -/
def Backend.acceptsUpload (b : Backend π) (remoteKey : String) : Bool :=
  match b.transport with
  | .s3 => true
  | .ssh => remotePathSafe remoteKey

/-! ## What the operations do to the store -/

/-- The destination turns a deletion of `remoteKey` down. -/
def Backend.declines (b : Backend π) (refuses : String → Bool)
    (remoteKey : String) : Bool :=
  match b.transport with
  | .s3 => refuses remoteKey
  | .ssh => !remotePathSafe remoteKey || refuses remoteKey

section

variable (b : Backend π)

@[simp] theorem Backend.erase_transport (key : String) :
    (b.erase key).transport = b.transport := rfl

@[simp] theorem Backend.erase_objects (key : String) :
    (b.erase key).objects = b.objects.filter (fun o => o.key != key) := rfl

theorem Backend.find?_eq_some_iff (o : StoredObject π) :
    b.find? o.key = some o ↔ o ∈ b.objects := by
  constructor
  · intro h
    exact List.mem_of_find?_eq_some h
  · intro h
    cases hf : b.find? o.key with
    | none =>
      have := List.find?_eq_none.mp hf o h
      simp at this
    | some o' =>
      have hmem := List.mem_of_find?_eq_some hf
      have hkey : o'.key = o.key := by
        simpa using List.find?_some hf
      rw [List.inj_on_of_nodup_map b.keysNodup hmem h hkey]

theorem Backend.find?_erase (key key' : String) :
    (b.erase key').find? key = if key = key' then none else b.find? key := by
  unfold Backend.find?
  rw [Backend.erase_objects, List.find?_filter]
  by_cases h : key = key'
  · subst h
    rw [if_pos rfl, List.find?_eq_none]
    intro o _
    by_cases ho : o.key = key <;> simp [ho]
  · rw [if_neg h]
    congr 1
    funext o
    by_cases ho : o.key = key
    · simp [ho, h]
    · simp [ho]

theorem Backend.find?_put (o : StoredObject π) (key : String) :
    (b.put o).find? key = if key = o.key then some o else b.find? key := by
  have hput : (b.put o).find? key =
      ((b.erase o.key).find? key).or ([o].find? (fun x => x.key == key)) := by
    simp only [Backend.find?, Backend.put, Backend.erase_objects,
      List.find?_append]
  rw [hput, Backend.find?_erase]
  by_cases h : key = o.key
  · simp [h]
  · have h' : ¬ o.key = key := fun h' => h h'.symm
    simp [h, h']

theorem Backend.delete_of_stored (refuses : String → Bool)
    (key : String) (hkey : (b.find? key).isSome = true) :
    b.delete refuses key =
      if b.declines refuses key then none else some (b.erase key) := by
  unfold Backend.delete Backend.declines
  cases b.transport with
  | s3 => rfl
  | ssh =>
    cases hs : remotePathSafe key <;> cases hr : refuses key <;>
      simp [hkey]

end

variable {b b' : Backend π} {keyStart : String} {listed : List BackupObjectInfo}
    {refuses : String → Bool}

theorem Backend.delete_eq_some {key : String} (h : b.delete refuses key = some b') :
    b' = b.erase key ∧ b.declines refuses key = false := by
  unfold Backend.delete at h
  unfold Backend.declines
  cases ht : b.transport with
  | s3 =>
    rw [ht] at h
    cases hr : refuses key <;> simp [hr] at h ⊢
    exact h.symm
  | ssh =>
    rw [ht] at h
    cases hr : refuses key <;> cases hs : remotePathSafe key <;>
      simp [hr, hs] at h ⊢
    exact h.2.symm

theorem Backend.declines_erase (b : Backend π) (refuses : String → Bool)
    (key : String) : (b.erase key).declines refuses = b.declines refuses := rfl

theorem Backend.deleteEach_cons_of_none {o : BackupObjectInfo} (toDelete : List BackupObjectInfo)
    (h : b.delete refuses o.key = none) : b.deleteEach refuses (o :: toDelete) = (b, []) := by
  simp only [Backend.deleteEach]
  rw [h]

theorem Backend.deleteEach_cons_of_some {o : BackupObjectInfo} (toDelete : List BackupObjectInfo)
    (h : b.delete refuses o.key = some b') :
    b.deleteEach refuses (o :: toDelete) =
      ((b'.deleteEach refuses toDelete).1,
        o.key :: (b'.deleteEach refuses toDelete).2) := by
  simp only [Backend.deleteEach]
  rw [h]

section

variable (refuses : String → Bool)

/-- What holds of nothing deleted, and of one more object where it does of the others. -/
theorem Backend.deleteEach_ind {P : Backend π → Backend π × List String → Prop}
    (hnone : ∀ b, P b (b, []))
    (hsome : ∀ b key rest, P (b.erase key) rest → P b (rest.1, key :: rest.2)) :
    ∀ (toDelete : List BackupObjectInfo) (b : Backend π), P b (b.deleteEach refuses toDelete) := by
  intro toDelete
  induction toDelete with
  | nil => exact hnone
  | cons o toDelete ih =>
    intro b
    cases hd : b.delete refuses o.key with
    | none =>
      rw [Backend.deleteEach_cons_of_none toDelete hd]
      exact hnone b
    | some b' =>
      rw [Backend.deleteEach_cons_of_some toDelete hd]
      obtain ⟨rfl, _⟩ := Backend.delete_eq_some hd
      exact hsome b o.key _ (ih _)

theorem Backend.deleteEach_find? (key : String) (toDelete : List BackupObjectInfo) (b : Backend π) :
    (b.deleteEach refuses toDelete).1.find? key =
      if key ∈ (b.deleteEach refuses toDelete).2 then none else b.find? key := by
  refine Backend.deleteEach_ind refuses
    (P := fun b r => r.1.find? key = if key ∈ r.2 then none else b.find? key) ?_ ?_ toDelete b
  · simp
  · intro b deleted rest ih
    simp only [ih, Backend.find?_erase, List.mem_cons]
    by_cases hk : key = deleted
    · simp [hk]
    · simp [hk]

theorem Backend.deleteEach_objects (toDelete : List BackupObjectInfo) (b : Backend π) :
    (b.deleteEach refuses toDelete).1.objects =
      b.objects.filter (fun o => !(b.deleteEach refuses toDelete).2.contains o.key) := by
  refine Backend.deleteEach_ind refuses
    (P := fun b r => r.1.objects = b.objects.filter fun o => !r.2.contains o.key) ?_ ?_ toDelete b
  · simp
  · intro b deleted rest ih
    simp only [ih, Backend.erase_objects, List.filter_filter]
    congr 1
    funext x
    by_cases hx : x.key = deleted <;> simp [hx]

@[simp] theorem Backend.deleteEach_transport (toDelete : List BackupObjectInfo) (b : Backend π) :
    (b.deleteEach refuses toDelete).1.transport = b.transport :=
  Backend.deleteEach_ind refuses (P := fun b r => r.1.transport = b.transport)
    (fun _ => rfl) (fun _ _ _ ih => ih) toDelete b

theorem Backend.deleteEach_deleted :
    ∀ (toDelete : List BackupObjectInfo) (b : Backend π),
      (toDelete.map (·.key)).Nodup →
      (∀ o ∈ toDelete, (b.find? o.key).isSome = true) →
      (b.deleteEach refuses toDelete).2 =
        (toDelete.takeWhile (fun o => !b.declines refuses o.key)).map
          (·.key) := by
  intro toDelete
  induction toDelete with
  | nil => intro b _ _; rfl
  | cons o toDelete ih =>
    intro b hnd hstored
    obtain ⟨hnot, hnd⟩ := List.nodup_cons.mp hnd
    have hdel := Backend.delete_of_stored b refuses o.key
      (hstored o List.mem_cons_self)
    by_cases hdec : b.declines refuses o.key = true
    · rw [if_pos hdec] at hdel
      simp [Backend.deleteEach_cons_of_none toDelete hdel, hdec]
    · have hrest : ∀ o' ∈ toDelete,
          ((b.erase o.key).find? o'.key).isSome = true := by
        intro o' ho'
        have hne : o'.key ≠ o.key := by
          intro h
          exact hnot (List.mem_map.mpr ⟨o', ho', h⟩)
        rw [Backend.find?_erase, if_neg hne]
        exact hstored o' (List.mem_cons_of_mem _ ho')
      have hih := ih (b.erase o.key) hnd hrest
      rw [Backend.declines_erase] at hih
      rw [if_neg hdec] at hdel
      simp [Backend.deleteEach_cons_of_some toDelete hdel, hdec, hih]

end

/-! ## Listings -/

theorem Backend.stored_of_mem_list (hlist : b.list keyStart = some listed) {i : BackupObjectInfo}
    (hi : i ∈ listed) : ∃ o ∈ b.objects, o.info = i := by
  unfold Backend.list at hlist
  cases ht : b.transport with
  | s3 =>
    simp only [ht, s3List, Option.some.injEq] at hlist
    subst hlist
    obtain ⟨o, ho, rfl⟩ := List.mem_map.mp hi
    exact ⟨o, List.mem_of_mem_filter ho, rfl⟩
  | ssh =>
    simp only [ht, sshList] at hlist
    split_ifs at hlist
    all_goals
      rw [Option.some.injEq] at hlist
      subst hlist
      obtain ⟨o, ho, rfl⟩ := List.mem_map.mp hi
      exact ⟨o, List.mem_of_mem_filter ho, rfl⟩

theorem Backend.list_keysNodup (hlist : b.list keyStart = some listed) :
    (listed.map (·.key)).Nodup := by
  have hsub : ∀ p : StoredObject π → Bool,
      (((b.objects.filter p).map (·.info)).map (·.key)).Nodup := by
    intro p
    rw [List.map_map]
    exact b.keysNodup.sublist (List.filter_sublist.map _)
  unfold Backend.list at hlist
  cases ht : b.transport with
  | s3 =>
    simp only [ht, s3List, Option.some.injEq] at hlist
    subst hlist
    exact hsub _
  | ssh =>
    simp only [ht, sshList] at hlist
    split_ifs at hlist
    all_goals
      rw [Option.some.injEq] at hlist
      subst hlist
      exact hsub _

theorem Backend.list_of_filtered (deleted : List String) (ht : b'.transport = b.transport)
    (hobjects : b'.objects = b.objects.filter (fun o => !deleted.contains o.key))
    (hdeleted : ∀ key ∈ deleted, startsWith key keyStart = false) :
    b'.list keyStart = b.list keyStart := by
  have hkeep : ∀ p : StoredObject π → Bool,
      (∀ o, p o = true → startsWith o.key keyStart = true) →
      b'.objects.filter p = b.objects.filter p := by
    intro p hp
    rw [hobjects, List.filter_filter]
    refine List.filter_congr (fun o _ => ?_)
    by_cases hdel : o.key ∈ deleted
    · have hno : p o = false := by
        rw [Bool.eq_false_iff]
        intro hpo
        have hstart := hp o hpo
        rw [hdeleted o.key hdel] at hstart
        exact absurd hstart (by decide)
      simp [hno]
    · simp [hdel]
  unfold Backend.list
  rw [ht]
  cases b.transport with
  | s3 =>
    simp only [s3List]
    rw [hkeep (fun o => startsWith o.key keyStart) (fun o h => h)]
  | ssh =>
    simp only [sshList]
    by_cases hempty : keyStart = ""
    · subst hempty
      have hstart : ∀ key, startsWith key "" = true := by
        intro key
        simp [startsWith]
      rw [if_pos rfl, if_pos rfl,
        hkeep (fun o => sshListed o.key.toList) (fun o _ => hstart o.key)]
    · rw [if_neg hempty, if_neg hempty]
      rw [hkeep (fun o => startsWith o.key (keyStart ++ "/") &&
        sshListed (behind keyStart o.key)) ?_]
      intro o ho
      have hdir := (Bool.and_eq_true _ _ ▸ ho).1
      rw [startsWith_iff] at hdir ⊢
      refine List.IsPrefix.trans ?_ hdir
      rw [String.toList_append]
      exact List.prefix_append _ _

theorem Backend.list_nodup (hlist : b.list keyStart = some listed) :
    listed.Nodup := (b.list_keysNodup hlist).of_map _

theorem isFileIn_of_mem_sshList {dir : String} (hdir : dir ≠ "") {objects : List (StoredObject π)}
    (hlist : sshList dir objects = some listed) {i : BackupObjectInfo} (hi : i ∈ listed) :
    isFileIn dir i.key = true := by
  unfold sshList at hlist
  rw [if_neg hdir] at hlist
  split_ifs at hlist
  rw [Option.some.injEq] at hlist
  subst hlist
  obtain ⟨o, ho, rfl⟩ := List.mem_map.mp hi
  have hkept := (List.mem_filter.mp ho).2
  simp only [sshListed, Bool.and_eq_true] at hkept
  simp [isFileIn, hkept.1, hkept.2.1]

/-! ## What one retention call deletes -/

/-- **One retention call** deletes a sweep of the listing: newest first, the
protected keys left alone, up to the first deletion that is declined. -/
theorem applyRetention_deleted (b : Backend π) (refuses : String → Bool)
    (keyStart : String) (policy : RetentionPolicyLike)
    (listed : List BackupObjectInfo) (hlist : b.list keyStart = some listed) :
    (b.applyRetention refuses keyStart policy).2 =
      (Retention.sweep (·.createdAt) policy.protects policy.keepCount
        (fun o => b.declines refuses o.key) listed).map (·.key) := by
  unfold Backend.applyRetention
  rw [hlist]
  have hsub : (((Retention.sortNewest (·.createdAt) listed).filter
      (fun o => !policy.protects o)).drop policy.keepCount).Sublist
        (Retention.sortNewest (·.createdAt) listed) :=
    (List.drop_sublist _ _).trans List.filter_sublist
  refine Backend.deleteEach_deleted refuses _ b ?_ ?_
  · have hperm : (Retention.sortNewest (·.createdAt) listed).Perm listed :=
      List.perm_insertionSort _ listed
    have hkeys := (hperm.map (·.key)).nodup_iff.mpr (b.list_keysNodup hlist)
    exact hkeys.sublist (hsub.map _)
  · intro i hi
    have hi' := (Retention.mem_sortNewest _ _ _).mp (hsub.subset hi)
    obtain ⟨o, ho, rfl⟩ := Backend.stored_of_mem_list hlist hi'
    rw [StoredObject.info_key, (b.find?_eq_some_iff o).mpr ho]
    rfl

theorem applyRetention_of_list_none (b : Backend π) (refuses : String → Bool) (keyStart : String)
    (policy : RetentionPolicyLike) (hlist : b.list keyStart = none) :
    b.applyRetention refuses keyStart policy = (b, []) := by
  unfold Backend.applyRetention
  rw [hlist]

theorem applyRetention_listed {policy : RetentionPolicyLike} {key : String}
    (hkey : key ∈ (b.applyRetention refuses keyStart policy).2) :
    ∃ listed, b.list keyStart = some listed ∧
      ∃ i ∈ listed, i.key = key ∧ policy.protects i = false := by
  cases hlist : b.list keyStart with
  | none =>
    rw [applyRetention_of_list_none b refuses keyStart policy hlist] at hkey
    simp at hkey
  | some listed =>
    rw [applyRetention_deleted b refuses keyStart policy listed hlist] at hkey
    obtain ⟨i, hi, rfl⟩ := List.mem_map.mp hkey
    obtain ⟨hmem, hspared, _⟩ := Retention.mem_of_mem_sweep hi
    exact ⟨listed, rfl, i, hmem, rfl, hspared⟩

theorem find?_applyRetention (b : Backend π) (refuses : String → Bool)
    (keyStart : String) (policy : RetentionPolicyLike) (key : String) :
    (b.applyRetention refuses keyStart policy).1.find? key =
      if key ∈ (b.applyRetention refuses keyStart policy).2 then none
      else b.find? key := by
  cases hlist : b.list keyStart with
  | none =>
    rw [applyRetention_of_list_none b refuses keyStart policy hlist]
    simp
  | some listed =>
    unfold Backend.applyRetention
    rw [hlist]
    exact Backend.deleteEach_find? refuses key _ b

theorem applyRetention_objects (b : Backend π) (refuses : String → Bool)
    (keyStart : String) (policy : RetentionPolicyLike) :
    (b.applyRetention refuses keyStart policy).1.objects =
      b.objects.filter (fun o =>
        !(b.applyRetention refuses keyStart policy).2.contains o.key) := by
  cases hlist : b.list keyStart with
  | none =>
    rw [applyRetention_of_list_none b refuses keyStart policy hlist]
    simp
  | some listed =>
    unfold Backend.applyRetention
    rw [hlist]
    exact Backend.deleteEach_objects refuses _ b

@[simp] theorem applyRetention_transport (b : Backend π) (refuses : String → Bool)
    (keyStart : String) (policy : RetentionPolicyLike) :
    (b.applyRetention refuses keyStart policy).1.transport = b.transport := by
  unfold Backend.applyRetention
  cases b.list keyStart with
  | none => rfl
  | some listed => exact Backend.deleteEach_transport refuses _ b

end CephAi.Ports.BackupStorage
