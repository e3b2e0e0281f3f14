import CephAi.Ports.RbdMove

/-!
# Cleaning up after an interrupted move

`commands._rbd_move_cleanup_partial_command` removes the destination that a
failed `rbd_move_volume` left behind.  It knows it by the token that the move
writes to the image once the copy is complete: a destination without the token is
kept, whoever created it.

The move may be interrupted anywhere.  What `rbd` does is a parameter; while the
move runs, every command may fail, with or without its effect.  The cleanup runs
later, when `rbd` works.

## Main results

* `moveScript_keeps` — what a move that stopped anywhere has left as it was.
* `cleanupScript_world` — the cleanup removes the destination that is owned, and
  nothing else.
* `cleanup_after_move` — what the two leave behind together.
* `cleanup_before_marker` — a destination that stays.
-/

namespace CephAi.Ports.RbdMoveCleanup

open Verified
open Verified.Shell
open RbdMove

/-! ## The command -/

/-- The action parameters the command reads. -/
structure CleanupParams where
  poolName : Option String
  image : Option String
  destPool : Option String
  destImage : Option String
  sizeBytes : Option Int
  deleteDestination : Bool
  checksum : Option String
  moveToken : Option String

/-- The checks of `_rbd_move_cleanup_partial_command`, in order; the texts are those
of its `ExecutorError`s, without the quoted values. -/
def checkCleanup (p : CleanupParams) : Except String Move :=
  match p.poolName.filter (fun s => matchesPoolName s.toList) with
  | none => .error "invalid or missing pool_name"
  | some pool =>
    match p.image.filter (fun s => isRbdImage s.toList) with
    | none => .error "invalid or missing RBD image"
    | some image =>
      match p.destPool.filter (fun s => isPoolName s.toList) with
      | none => .error "invalid or missing destination pool"
      | some destPool =>
        match p.destImage.filter (fun s => isRbdImage s.toList) with
        | none => .error "invalid or missing destination RBD image"
        | some destImage =>
          if hpools : pool = destPool then
            .error "partial move cleanup requires a different destination pool"
          else
            match p.sizeBytes with
            | some (Int.ofNat (size + 1)) =>
              if !p.deleteDestination then
                .error ("partial cleanup requires explicit destination-delete " ++
                  "confirmation")
              else if p.checksum ≠ some "rbd-export-diff-sha256" then
                .error ("partial cleanup requires the approved export-diff " ++
                  "SHA-256 checksum")
              else
                match p.moveToken.filter (fun s => isMoveToken s.toList) with
                | none =>
                  .error ("partial cleanup requires the original " ++
                    "server-generated move token")
                | some token =>
                  .ok ⟨pool, image, destPool, destImage, size + 1, token,
                    hpools, Nat.succ_pos size⟩
            | _ =>
              .error "partial cleanup requires a positive approved source size_bytes"

/-- The cleanup of a move, as it is proposed. -/
def cleanupOf (p : MoveParams) : CleanupParams where
  poolName := p.poolName
  image := p.image
  destPool := p.destPool
  destImage := p.destImage
  sizeBytes := p.sizeBytes
  deleteDestination := true
  checksum := p.checksum
  moveToken := p.moveToken

def infoOf (image : String) : List String := ["rbd", "info", image, "--format", "json"]

def statusOf (image : String) : List String := ["rbd", "status", image, "--format", "json"]

def snapshotsOf (image : String) : List String :=
  ["rbd", "snap", "ls", image, "--format", "json"]

def markerOf (image : String) : List String :=
  ["rbd", "image-meta", "get", image, "ceph.ai.move_token"]

def removeOf (image : String) : List String := ["rbd", "rm", image]

def python (script : String) : List String := ["python3", "-c", script]

/-- `_rbd_move_cleanup_partial_command`: the program passed to `sh -c`. -/
def cleanupScript (m : Move) : List Sh :=
  [ .setEU,
    .assign "source_info" (.run (lits (infoOf m.source))),
    sizeFrom "actual_source_size" "source_info",
    stopIfDiffer (.var "actual_source_size") (.lit m.sizeText)
      (lits ["echo",
        "RBD partial cleanup source size changed; destination was preserved"]) 1,
    .assign "destination_info" (.run (lits (infoOf m.destination))),
    countFrom "watcher_count" (statusOf m.destination) watchersScript,
    stopIfDiffer (.var "watcher_count") (.lit "0")
      (lits ["echo", "RBD partial cleanup destination has active watchers; " ++
        "destination was preserved"]) 1,
    countFrom "snapshot_count" (snapshotsOf m.destination) snapshotsScript,
    stopIfDiffer (.var "snapshot_count") (.lit "0")
      (lits ["echo", "RBD partial cleanup destination has snapshots; " ++
        "destination was preserved"]) 1,
    .assign "marker" (.orElse (.run (lits (markerOf m.destination))) .noop),
    stopIfDiffer (.var "marker") (.lit m.moveToken)
      (lits ["echo", "RBD partial cleanup destination token mismatch; " ++
        "destination was preserved"]) 23,
    sizeFrom "actual_destination_size" "destination_info",
    .run (lits (removeOf m.destination)),
    .run [.lit "printf", .lit ("\x7b\"name\":\"" ++ m.destImage ++
        "\",\"size\":%s,\"source_present\":true," ++
        "\"destination_deleted\":true,\"marker_verified\":true\x7d"),
      .var "actual_destination_size"] ]

/-! ## The pools -/

/-- An RBD image.  `token` is its `ceph.ai.move_token`, without newlines at its end. -/
structure Image where
  size : Nat
  data : String
  token : Option String
  watchers : Nat
  snapshots : Nat
deriving DecidableEq, Repr

/-- The images under `pool/image`. -/
abbrev Pools := String → Option Image

def copyTo (source destination : String) : List String :=
  ["rbd", "cp", "--no-progress", source, destination]

def markWith (image token : String) : List String :=
  ["rbd", "image-meta", "set", image, "ceph.ai.move_token", token]

/-- The commands that change images. -/
def mutates : List String → Bool
  | "rbd" :: "cp" :: _ => true
  | "rbd" :: "rm" :: _ => true
  | "rbd" :: "image-meta" :: "set" :: _ => true
  | _ => false

/-- What `rbd` may do while the move runs.  A command may fail at any time: a copy, a
marker or a removal changes its own image only, and then in any way. -/
structure Fallible {σ : Type} (H : Host σ) (view : σ → Pools) : Prop where
  reads : ∀ w argv stdin, mutates argv = false →
    view (H.exec w argv stdin).1 = view w
  copy_other : ∀ w source destination stdin image, image ≠ destination →
    view (H.exec w (copyTo source destination) stdin).1 image = view w image
  copy_existing : ∀ w source destination stdin, view w destination ≠ none →
    (H.exec w (copyTo source destination) stdin).2.1 ≠ 0 ∧
      view (H.exec w (copyTo source destination) stdin).1 destination = view w destination
  mark_other : ∀ w image token stdin image', image' ≠ image →
    view (H.exec w (markWith image token) stdin).1 image' = view w image'
  remove_other : ∀ w image stdin image', image' ≠ image →
    view (H.exec w (removeOf image) stdin).1 image' = view w image'
  info : ∀ w image, (H.exec w (infoOf image) "").2.1 = 0 →
    ∃ i, view w image = some i ∧ ∀ w',
      (H.exec w' (python sizeScript)
        (stripNewlines (H.exec w (infoOf image) "").2.2)).2.1 = 0 →
      stripNewlines (H.exec w' (python sizeScript)
        (stripNewlines (H.exec w (infoOf image) "").2.2)).2.2 = toString i.size
  printf : ∀ w text, (H.exec w ["printf", "%s", text] "").2.2 = text ∨
    (H.exec w ["printf", "%s", text] "").2.2 = ""
  python_empty : ∀ w, (H.exec w (python sizeScript) "").2.1 ≠ 0

/-- What `rbd` does when it works. -/
structure Reliable {τ : Type} (H : Host τ) (view : τ → Pools) : Prop where
  info : ∀ w image i, view w image = some i → ∃ doc out,
    H.exec w (infoOf image) "" = (w, 0, doc) ∧
      H.exec w (python sizeScript) (stripNewlines doc) = (w, 0, out) ∧
      stripNewlines out = toString i.size
  info_none : ∀ w image, view w image = none → ∃ status out,
    H.exec w (infoOf image) "" = (w, status, out) ∧ status ≠ 0
  watchers : ∀ w image i, view w image = some i → ∃ status doc out,
    H.exec w (statusOf image) "" = (w, status, doc) ∧
      H.exec w (python watchersScript) doc = (w, 0, out) ∧
      stripNewlines out = toString i.watchers
  snapshots : ∀ w image i, view w image = some i → ∃ status doc out,
    H.exec w (snapshotsOf image) "" = (w, status, doc) ∧
      H.exec w (python snapshotsScript) doc = (w, 0, out) ∧
      stripNewlines out = toString i.snapshots
  marker : ∀ w image i token, view w image = some i → i.token = some token → ∃ out,
    H.exec w (markerOf image) "" = (w, 0, out) ∧ stripNewlines out = token
  marker_none : ∀ w image i, view w image = some i → i.token = none → ∃ status,
    H.exec w (markerOf image) "" = (w, status, "") ∧ status ≠ 0
  printf : ∀ w text, H.exec w ["printf", "%s", text] "" = (w, 0, text)
  prints : ∀ w args stdin, (H.exec w ("printf" :: args) stdin).1 = w ∧
    (H.exec w ("echo" :: args) stdin).1 = w
  remove : ∀ w image i, view w image = some i → i.watchers = 0 → i.snapshots = 0 →
    (H.exec w (removeOf image) "").2.1 = 0 ∧
      view (H.exec w (removeOf image) "").1 = Function.update (view w) image none

/-! ## What the cleanup should do -/

/-- The destination carries the token of the move. -/
def Marked (m : Move) (pools : Pools) : Prop :=
  ∃ i, pools m.destination = some i ∧ i.token = some m.moveToken

/-- No one uses the destination. -/
def Unused (m : Move) (pools : Pools) : Prop :=
  ∀ i, pools m.destination = some i → i.watchers = 0 ∧ i.snapshots = 0

/-- The source is there, with the size that was approved. -/
def SourcePresent (m : Move) (pools : Pools) : Prop :=
  ∃ i, pools m.source = some i ∧ i.size = m.sizeBytes

/-- The move has made a destination. -/
def Created (m : Move) (before after : Pools) : Prop :=
  before m.destination = none ∧ after m.destination ≠ none

/-- The cleanup has removed the destination. -/
def Deleted (m : Move) (after final : Pools) : Prop :=
  after m.destination ≠ none ∧ final m.destination = none

instance (m : Move) (before after : Pools) : Decidable (Created m before after) := by
  unfold Created
  infer_instance

instance (m : Move) (after final : Pools) : Decidable (Deleted m after final) := by
  unfold Deleted
  infer_instance

/-- What is left after the move and the cleanup; `begun` says that the move had begun to
remove the source. -/
structure CleanedUp (m : Move) (before after final : Pools) (begun : Prop) : Prop where
  /-- It deletes the destination that carries the token. -/
  deletes : Deleted m after final ↔ SourcePresent m after ∧ Marked m after ∧ Unused m after
  /-- What it deletes was created by this move, or by an earlier attempt at it. -/
  owned : Deleted m after final → Created m before after ∨ Marked m before
  /-- What the move created is deleted when it is marked and no one uses it. -/
  created : ¬ begun → Created m before after →
    (Deleted m after final ↔ Marked m after ∧ Unused m after)
  /-- The source is never touched. -/
  source : final m.source = after m.source
  /-- Without the deletion nothing changes. -/
  unchanged : ¬ Deleted m after final → final = after
  /-- Otherwise the pools are as they were before the move. -/
  restored : ¬ begun → ¬ Marked m before →
    (Created m before after → Deleted m after final) → final = before

variable {σ τ : Type}

/-! ## The cleanup -/

/-- A number is read back from its digits. -/
theorem toString_inj {a b : Nat} (h : toString a = toString b) : a = b := by
  have hdigits := congrArg (fun t : String => Nat.ofDigitChars 10 t.toList 0) h
  simpa [Nat.toString_eq_repr, Nat.toList_repr] using hdigits

section

variable {H : Host σ} {R : Host τ} {doc image out : String} {i : Image} {m : Move} {p : MoveParams}
    {s : St τ} {view : τ → Pools}

theorem reads_sizeFrom (hR : Reliable R view) {name info : String} (hinfo : s.vars info = some doc)
    (hout : R.exec s.world (python sizeScript) doc = (s.world, 0, out)) :
    Reads R (sizeFrom name info) s name (stripNewlines out) := by
  have hexpand : s.expandAll [.lit "printf", .lit "%s", .var info] =
      some ["printf", "%s", doc] := by
    simp [St.expandAll, St.expand, hinfo]
  exact reads_pipe name hexpand (hR.printf s.world doc) hout

theorem reads_countFrom {document : List String} {script : String} {status : Nat} (name : String)
    (hdoc : R.exec s.world document "" = (s.world, status, doc))
    (hout : R.exec s.world (python script) doc = (s.world, 0, out)) :
    Reads R (countFrom name document script) s name (stripNewlines out) :=
  reads_pipe name (expandAll_literal s document) hdoc hout

section

variable (hR : Reliable R view)
include hR

/-- The message of a comparison. -/
theorem Reliable.echo (w : τ) (text : String) :
    (R.exec w ["echo", text] "").1 = w :=
  (hR.prints w [text] "").2

theorem guards_source (m : Move) (s : St τ) (hstrict : s.strict = true) (message : String) :
    Guards R
      [.assign "source_info" (.run (lits (infoOf m.source))),
        sizeFrom "actual_source_size" "source_info",
        stopIfDiffer (.var "actual_source_size") (.lit m.sizeText) (lits ["echo", message]) 1]
      (SourcePresent m (view s.world)) s := by
  cases hsource : view s.world m.source with
  | none =>
    obtain ⟨status, out, hexec, hfails⟩ := hR.info_none s.world m.source hsource
    have hstops := stops_run "source_info" hstrict hexec hfails
    constructor
    · intro ⟨i, hi, _⟩
      rw [hsource] at hi
      cases hi
    · intro _
      exact runScript_stops _ hstops
  | some i =>
    obtain ⟨doc, out, hexec, hsize, hout⟩ := hR.info s.world m.source i hsource
    obtain ⟨s', heval, hworld, hstrict', hvars⟩ := reads_run "source_info" hexec
    have hreads : Reads R (sizeFrom "actual_source_size" "source_info") s'
        "actual_source_size" (toString i.size) := by
      rw [← hout]
      apply reads_sizeFrom hR
      · rw [hvars, if_pos rfl]
      · rw [hworld]
        exact hsize
    have hcompare := guards_compare hreads m.sizeText ["echo", message] 1
      (hR.echo s'.world message)
    have hiff : SourcePresent m (view s.world) ↔ toString i.size = m.sizeText := by
      constructor
      · intro ⟨j, hj, hsizej⟩
        rw [hsource, Option.some.injEq] at hj
        rw [hj, hsizej]
        rfl
      · intro heq
        exact ⟨i, hsource, toString_inj heq⟩
    rw [hiff]
    constructor
    · intro h
      obtain ⟨s'', n, hrun, hworld'⟩ := hcompare.1 h
      exact ⟨s'', n, (runScript_next heval).trans hrun, hworld'.trans hworld⟩
    · intro h
      obtain ⟨s'', n, hrun, hworld'⟩ := hcompare.2 h
      exact ⟨s'', n, (runScript_next heval).trans hrun, hworld'.trans hworld⟩

theorem guards_zero {document : List String} {script : String} {status count : Nat}
    (name message : String) (hdoc : R.exec s.world document "" = (s.world, status, doc))
    (hexec : R.exec s.world (python script) doc = (s.world, 0, out))
    (hout : stripNewlines out = toString count) :
    Guards R
      [countFrom name document script,
        stopIfDiffer (.var name) (.lit "0") (lits ["echo", message]) 1]
      (count = 0) s := by
  have hreads := reads_countFrom name hdoc hexec
  rw [hout] at hreads
  have hcompare := guards_compare hreads "0" ["echo", message] 1 (hR.echo s.world message)
  have hiff : count = 0 ↔ toString count = "0" :=
    ⟨fun h => by rw [h]; rfl, fun h => toString_inj h⟩
  rw [hiff]
  exact hcompare

theorem guards_marker (m : Move) (htoken : m.moveToken ≠ "")
    (hi : view s.world m.destination = some i) (message : String) :
    Guards R
      [.assign "marker" (.orElse (.run (lits (markerOf m.destination))) .noop),
        stopIfDiffer (.var "marker") (.lit m.moveToken) (lits ["echo", message]) 23]
      (i.token = some m.moveToken) s := by
  cases hmarker : i.token with
  | none =>
    obtain ⟨status, hexec, _⟩ := hR.marker_none s.world m.destination i hi hmarker
    have hcompare := guards_compare (reads_run_or_noop "marker" hexec) m.moveToken
      ["echo", message] 23 (hR.echo s.world message)
    have hiff : (none : Option String) = some m.moveToken ↔
        stripNewlines "" = m.moveToken := by
      constructor
      · intro h
        cases h
      · intro h
        exact absurd h.symm htoken
    rw [hiff]
    exact hcompare
  | some token =>
    obtain ⟨out, hexec, hout⟩ := hR.marker s.world m.destination i token hi hmarker
    have hreads := reads_run_or_noop "marker" hexec
    rw [hout] at hreads
    rw [Option.some.injEq]
    exact guards_compare hreads m.moveToken ["echo", message] 23 (hR.echo s.world message)

end

def destinationChecks (m : Move) : List Sh := ((cleanupScript m).drop 5).take 6

theorem guards_destination (hR : Reliable R view) (m : Move) (htoken : m.moveToken ≠ "")
    (hi : view s.world m.destination = some i) :
    Guards R (destinationChecks m)
      (i.watchers = 0 ∧ i.snapshots = 0 ∧ i.token = some m.moveToken) s := by
  obtain ⟨status, doc, out, hdoc, hexec, hout⟩ := hR.watchers s.world m.destination i hi
  apply guards_append (guards_zero hR "watcher_count" _ hdoc hexec hout)
  intro _ s' n _ hworld
  rw [← hworld] at hi
  obtain ⟨status, doc, out, hdoc, hexec, hout⟩ := hR.snapshots s'.world m.destination i hi
  apply guards_append (guards_zero hR "snapshot_count" _ hdoc hexec hout)
  intro _ s'' n' _ hworld'
  rw [← hworld'] at hi
  exact guards_marker hR m htoken hi _

theorem world_remove (hR : Reliable R view) (m : Move) (hi : view s.world m.destination = some i)
    (hwatchers : i.watchers = 0) (hsnapshots : i.snapshots = 0)
    (hinfo : s.vars "destination_info" = some doc)
    (hout : R.exec s.world (python sizeScript) doc = (s.world, 0, out)) :
    view (runScript R ((cleanupScript m).drop 11) s).1.world =
      Function.update (view s.world) m.destination none := by
  have hreads : Reads R (sizeFrom "actual_destination_size" "destination_info") s
      "actual_destination_size" (stripNewlines out) := reads_sizeFrom hR hinfo hout
  obtain ⟨s', heval, hworld, _, _⟩ := hreads
  have hremove := hR.remove s'.world m.destination i (hworld ▸ hi) hwatchers hsnapshots
  have hrun : eval R false (.run (lits (removeOf m.destination))) s' =
      ((call R s' (removeOf m.destination) "").1.print
        (call R s' (removeOf m.destination) "").2.2, .next 0) := by
    have hstatus : (call R s' (removeOf m.destination) "").2.1 = 0 := hremove.1
    simp only [lits, eval, expandAll_literal, hstatus, settle_zero]
  have hscript : (cleanupScript m).drop 11 =
      sizeFrom "actual_destination_size" "destination_info" ::
        .run (lits (removeOf m.destination)) :: (cleanupScript m).drop 13 := rfl
  rw [hscript, runScript_next heval, runScript_next hrun]
  -- what is printed at the end changes nothing
  have hprinted : Holds R
      (fun t => view t.world = Function.update (view s.world) m.destination none)
      ((cleanupScript m).drop 13)
      (fun t => view t.world = Function.update (view s.world) m.destination none)
      (fun t => view t.world = Function.update (view s.world) m.destination none) := by
    apply holds_world (I := fun w => view w = Function.update (view s.world) m.destination none)
    intro words hwords argv hfits w stdin hw
    have hwords' := List.mem_singleton.mp hwords
    rw [hwords'] at hfits
    cases argv with
    | nil => cases hfits
    | cons a args =>
      have ha : a = "printf" := by
        unfold fits at hfits
        exact (beq_iff_eq.mp (Bool.and_eq_true_iff.mp hfits).1).symm
      rw [ha, (hR.prints w args stdin).1]
      exact hw
  have hend := hprinted ((call R s' (removeOf m.destination) "").1.print
    (call R s' (removeOf m.destination) "").2.2) (by rw [← hworld]; exact hremove.2)
  cases hr : runScript R ((cleanupScript m).drop 13)
      ((call R s' (removeOf m.destination) "").1.print
        (call R s' (removeOf m.destination) "").2.2) with
  | mk t flow =>
    rw [hr] at hend
    cases flow with
    | exited | next => exact hend

theorem removable_iff {pools : Pools} (hpresent : SourcePresent m pools)
    (hdestination : pools m.destination = some i) :
    (SourcePresent m pools ∧ Marked m pools ∧ Unused m pools) ↔
      (i.watchers = 0 ∧ i.snapshots = 0 ∧ i.token = some m.moveToken) := by
  constructor
  · intro ⟨_, ⟨j, hj, htokenj⟩, hunused⟩
    rw [hdestination, Option.some.injEq] at hj
    have hfree := hunused i hdestination
    exact ⟨hfree.1, hfree.2, hj ▸ htokenj⟩
  · intro ⟨hwatchers, hsnapshots, htokeni⟩
    refine ⟨hpresent, ⟨i, hdestination, htokeni⟩, ?_⟩
    intro j hj
    rw [hdestination, Option.some.injEq] at hj
    exact hj ▸ ⟨hwatchers, hsnapshots⟩

theorem destination_world (hR : Reliable R view) (m : Move) (htoken : m.moveToken ≠ "")
    (hdestination : view s.world m.destination = some i)
    (hinfo : s.vars "destination_info" = some (stripNewlines doc))
    (hsize : R.exec s.world (python sizeScript) (stripNewlines doc) = (s.world, 0, out)) :
    (i.watchers = 0 ∧ i.snapshots = 0 ∧ i.token = some m.moveToken →
      view (runScript R ((cleanupScript m).drop 5) s).1.world =
        Function.update (view s.world) m.destination none) ∧
    (¬ (i.watchers = 0 ∧ i.snapshots = 0 ∧ i.token = some m.moveToken) →
      view (runScript R ((cleanupScript m).drop 5) s).1.world = view s.world) := by
  have hchecks := guards_destination hR m htoken hdestination
  have hsplit : (cleanupScript m).drop 5 =
      destinationChecks m ++ (cleanupScript m).drop 11 := rfl
  rw [hsplit, runScript_append]
  constructor
  · intro hfree
    obtain ⟨s', n, hrun, hworld⟩ := hchecks.1 hfree
    have hkept : s'.vars "destination_info" = s.vars "destination_info" := by
      have hext := runScript_extends R (destinationChecks m) s
      rw [hrun] at hext
      apply hext.vars
      show "destination_info" ∉ ["watcher_count", "snapshot_count", "marker"]
      decide
    rw [hrun]
    dsimp only
    have hdestination' : view s'.world m.destination = some i := by
      rw [hworld]
      exact hdestination
    have hsize' : R.exec s'.world (python sizeScript) (stripNewlines doc) =
        (s'.world, 0, out) := by
      rw [hworld]
      exact hsize
    rw [world_remove hR m hdestination' hfree.1 hfree.2.1 (hkept.trans hinfo) hsize', hworld]
  · intro hnot
    obtain ⟨s', n, hrun, hworld⟩ := hchecks.2 hnot
    rw [hrun]
    dsimp only
    rw [hworld]

/-- **The cleanup removes the destination when it is owned and unused and the source is
there**, and changes nothing otherwise. -/
theorem cleanupScript_world (hR : Reliable R view) (m : Move) (htoken : m.moveToken ≠ "") (w : τ) :
    (SourcePresent m (view w) ∧ Marked m (view w) ∧ Unused m (view w) →
      view (runScript R (cleanupScript m) (St.start w)).1.world =
        Function.update (view w) m.destination none) ∧
    (¬ (SourcePresent m (view w) ∧ Marked m (view w) ∧ Unused m (view w)) →
      view (runScript R (cleanupScript m) (St.start w)).1.world = view w) := by
  have hstart : runScript R (cleanupScript m) (St.start w) =
      runScript R ((cleanupScript m).drop 1) { St.start w with strict := true } :=
    runScript_next rfl
  have hsplit : (cleanupScript m).drop 1 =
      ((cleanupScript m).drop 1).take 3 ++ (cleanupScript m).drop 4 := rfl
  have hsource : Guards R (((cleanupScript m).drop 1).take 3) (SourcePresent m (view w))
      { St.start w with strict := true } :=
    guards_source hR m { St.start w with strict := true } rfl _
  rw [hstart, hsplit, runScript_append]
  by_cases hpresent : SourcePresent m (view w)
  · obtain ⟨s, n, hrun, hworld⟩ := hsource.1 hpresent
    have hstrict : s.strict = true := by
      have hext := runScript_extends R (((cleanupScript m).drop 1).take 3)
        { St.start w with strict := true }
      rw [hrun] at hext
      exact hext.strict rfl
    have hw : s.world = w := hworld
    rw [hrun]
    dsimp only
    have hinfo : (cleanupScript m).drop 4 =
        .assign "destination_info" (.run ((infoOf m.destination).map Word.lit)) ::
          (cleanupScript m).drop 5 := rfl
    rw [hinfo]
    cases hdestination : view w m.destination with
    | none =>
      obtain ⟨status, out, hexec, hfails⟩ :=
        hR.info_none s.world m.destination (hw.symm ▸ hdestination)
      obtain ⟨s', n', hrun', hworld'⟩ := runScript_stops ((cleanupScript m).drop 5)
        (stops_run "destination_info" hstrict hexec hfails)
      constructor
      · intro ⟨_, ⟨i, hi, _⟩, _⟩
        rw [hdestination] at hi
        cases hi
      · intro _
        rw [hrun', hworld', hw]
    | some i =>
      obtain ⟨doc, out, hexec, hsize, _⟩ :=
        hR.info s.world m.destination i (hw.symm ▸ hdestination)
      obtain ⟨s', heval, hworld', _, hvars⟩ := reads_run "destination_info" hexec
      have hw' : s'.world = w := hworld'.trans hw
      have hdestination' : view s'.world m.destination = some i := by
        rw [hw']
        exact hdestination
      have hinfo' : s'.vars "destination_info" = some (stripNewlines doc) := by
        rw [hvars, if_pos rfl]
      have hsize' : R.exec s'.world (python sizeScript) (stripNewlines doc) =
          (s'.world, 0, out) := by
        rw [hw', ← hw]
        exact hsize
      rw [runScript_next heval, removable_iff hpresent hdestination, ← hw']
      exact destination_world hR m htoken hdestination' hinfo' hsize'
  · obtain ⟨s, n, hrun, hworld⟩ := hsource.2 hpresent
    rw [hrun]
    dsimp only
    constructor
    · intro h
      exact absurd h.1 hpresent
    · intro _
      rw [hworld]
      rfl

/-! ## The move -/

/-- The parameters of a move that was accepted. -/
structure Accepted (p : MoveParams) (m : Move) : Prop where
  pool : p.poolName.filter (fun s => matchesPoolName s.toList) = some m.pool
  image : p.image.filter (fun s => isRbdImage s.toList) = some m.image
  destPool : p.destPool.filter (fun s => isPoolName s.toList) = some m.destPool
  destImage : p.destImage.filter (fun s => isRbdImage s.toList) = some m.destImage
  size : ∃ size, p.sizeBytes = some (Int.ofNat (size + 1)) ∧ m.sizeBytes = size + 1
  checksum : p.checksum = some "rbd-export-diff-sha256"
  token : p.moveToken.filter (fun s => isMoveToken s.toList) = some m.moveToken

theorem accepted_of_checkMove (h : checkMove p = .ok m) : Accepted p m := by
  unfold checkMove at h
  cases hpool : p.poolName.filter (fun s => matchesPoolName s.toList) with
  | none => rw [hpool] at h; cases h
  | some pool =>
    rw [hpool] at h
    cases himage : p.image.filter (fun s => isRbdImage s.toList) with
    | none => rw [himage] at h; cases h
    | some image =>
      rw [himage] at h
      cases hdest : p.destPool.filter (fun s => isPoolName s.toList) with
      | none => rw [hdest] at h; cases h
      | some destPool =>
        rw [hdest] at h
        cases hdestImage : p.destImage.filter (fun s => isRbdImage s.toList) with
        | none => rw [hdestImage] at h; cases h
        | some destImage =>
          rw [hdestImage] at h
          dsimp only at h
          split at h
          · cases h
          · split at h
            · cases h
            · split at h
              · split at h
                · cases h
                · split at h
                  · cases h
                  · rename_i size hsize _ hchecksum
                    split at h
                    · cases h
                    · rename_i token htoken
                      cases h
                      exact ⟨hpool, himage, hdest, hdestImage, ⟨size, hsize, rfl⟩,
                        not_not.mp hchecksum, htoken⟩
              · cases h

theorem slash_not_mem_pool {name : List Char} (h : matchesPoolName name = true) : '/' ∉ name := by
  have hpool : ∀ cs : List Char, isPoolName cs = true → '/' ∉ cs := by
    intro cs hcs hmem
    unfold isPoolName matchesName at hcs
    cases cs with
    | nil => cases hmem
    | cons c cs =>
      simp only [Bool.and_eq_true, List.all_eq_true] at hcs
      rcases List.mem_cons.mp hmem with hc | hc
      · have hfirst := hcs.1.1.1
        rw [← hc] at hfirst
        exact absurd hfirst (by decide)
      · exact absurd (hcs.1.1.2 '/' hc) (by decide)
  unfold matchesPoolName at h
  rw [Bool.or_eq_true, Bool.and_eq_true] at h
  rcases h with h | ⟨hlast, h⟩
  · exact hpool name h
  · intro hmem
    have hne : name ≠ [] := List.ne_nil_of_mem hmem
    rw [beq_iff_eq, List.getLast?_eq_some_getLast hne, Option.some.injEq] at hlast
    rw [← List.dropLast_concat_getLast hne, hlast, List.mem_append] at hmem
    rcases hmem with hmem | hmem
    · exact hpool _ h hmem
    · exact absurd hmem (by decide)

theorem source_ne_destination (h : checkMove p = .ok m) : m.source ≠ m.destination := by
  have haccepted := accepted_of_checkMove h
  have hpool := (Option.filter_eq_some_iff.mp haccepted.pool).2
  have hdest := (Option.filter_eq_some_iff.mp haccepted.destPool).2
  have hslash := slash_not_mem_pool hpool
  have hslash' : '/' ∉ m.destPool.toList := by
    apply slash_not_mem_pool
    unfold matchesPoolName
    rw [hdest]
    rfl
  have hbefore : ∀ pool image : String, '/' ∉ pool.toList →
      (pool ++ "/" ++ image).toList.takeWhile (· != '/') = pool.toList := by
    intro pool image hnot
    rw [String.toList_append, String.toList_append, List.append_assoc,
      List.takeWhile_append_of_pos]
    · simp
    · intro c hc
      rw [bne_iff_ne]
      exact fun heq => hnot (heq ▸ hc)
  intro heq
  have hpools := congrArg (fun t : String => t.toList.takeWhile (· != '/')) heq
  dsimp only [Move.source, Move.destination] at hpools
  rw [hbefore _ _ hslash, hbefore _ _ hslash'] at hpools
  exact m.poolsDiffer (String.toList_injective hpools)

theorem moveToken_ne (h : checkMove p = .ok m) : m.moveToken ≠ "" := by
  have htoken := (Option.filter_eq_some_iff.mp (accepted_of_checkMove h).token).2
  intro hempty
  rw [hempty] at htoken
  exact absurd htoken (by decide)

/-- The checks of the source and of the destination's name. -/
def moveChecks (m : Move) : List Sh := (prologue m).take 9

def copyOrResume (m : Move) : List Sh := (prologue m).drop 9

/-- From the digests to the removal. -/
def verification (m : Move) : List Sh :=
  [digestOf "source_sha256" m.source] ++
    ([digestOf "dest_sha256" m.destination] ++ ([compareDigests] ++ sizeCheck m))

theorem moveScript_split (m : Move) :
    moveScript m = moveChecks m ++ (copyOrResume m ++ (verification m ++ epilogue m)) := rfl

/-- The words of a command that changes no image. -/
def harmless : List Word → Bool
  | .lit a :: .lit b :: .lit c :: _ => !mutates [a, b, c]
  | .lit a :: _ => a != "rbd"
  | _ => false

theorem mutates_of_ne {a : String} (h : a ≠ "rbd") (args : List String) :
    mutates (a :: args) = false := by
  unfold mutates
  split <;> simp_all

theorem mutates_take (a b c : String) (args : List String) :
    mutates (a :: b :: c :: args) = mutates [a, b, c] := by
  by_cases ha : a = "rbd"
  · subst ha
    unfold mutates
    split <;> simp_all
  · rw [mutates_of_ne ha, mutates_of_ne ha]

theorem mutates_of_harmless {words : List Word} {argv : List String}
    (h : harmless words = true) (hfits : fits words argv = true) : mutates argv = false := by
  unfold harmless at h
  split at h
  · rename_i a b c words
    match argv, hfits with
    | a' :: b' :: c' :: args, hfits =>
      simp only [fits, Bool.and_eq_true, beq_iff_eq] at hfits
      rw [mutates_take, ← hfits.1, ← hfits.2.1, ← hfits.2.2.1]
      simpa using h
    | [a'], hfits => simp [fits] at hfits
    | [a', b'], hfits => simp [fits] at hfits
    | [], hfits => simp [fits] at hfits
  · rename_i a words _
    cases argv with
    | nil => simp [fits] at hfits
    | cons a' args =>
      simp only [fits, Bool.and_eq_true, beq_iff_eq] at hfits
      rw [← hfits.1]
      exact mutates_of_ne (bne_iff_ne.mp h) args
  · cases h

theorem holds_harmless {view : σ → Pools} (hH : Fallible H view) (image : String) (x : Option Image)
    {cs : List Sh} (h : (scriptCommands cs).all harmless = true) :
    Holds H (fun s => view s.world image = x) cs (fun s => view s.world image = x)
      (fun s => view s.world image = x) := by
  apply holds_world (I := fun w => view w image = x)
  intro words hwords argv hfits w stdin hw
  rw [hH.reads w argv stdin (mutates_of_harmless (List.all_eq_true.mp h words hwords) hfits)]
  exact hw

theorem harmless_moveChecks (m : Move) : (scriptCommands (moveChecks m)).all harmless = true := by
  rfl

theorem harmless_verification (m : Move) :
    (scriptCommands (verification m)).all harmless = true := by
  rfl

theorem copyOrResume_other {view : σ → Pools} (hH : Fallible H view) (m : Move)
    (hne : image ≠ m.destination) (x : Option Image) :
    Holds H (fun s => view s.world image = x) (copyOrResume m)
      (fun s => view s.world image = x) (fun s => view s.world image = x) := by
  apply holds_world (I := fun w => view w image = x)
  intro words hwords argv hfits w stdin hw
  have hcommands : scriptCommands (copyOrResume m) =
      [(markerOf m.destination).map Word.lit,
        (["echo", "RBD move destination exists without matching " ++
          "resume token; source was preserved"]).map Word.lit,
        (copyTo m.source m.destination).map Word.lit,
        (markWith m.destination m.moveToken).map Word.lit] := rfl
  rw [hcommands] at hwords
  simp only [List.mem_cons, List.not_mem_nil, or_false] at hwords
  rcases hwords with rfl | rfl | rfl | rfl
  · rw [fits_literal hfits, hH.reads w _ stdin rfl]
    exact hw
  · rw [fits_literal hfits, hH.reads w _ stdin rfl]
    exact hw
  · rw [fits_literal hfits, hH.copy_other w _ _ stdin image hne]
    exact hw
  · rw [fits_literal hfits, hH.mark_other w _ _ stdin image hne]
    exact hw

theorem copyOrResume_existing {view : σ → Pools} (hH : Fallible H view) (m : Move)
    {x : Option Image} (hx : x ≠ none) :
    Holds H (fun s => view s.world m.destination = x) (copyOrResume m)
      (fun s => view s.world m.destination = x) (fun s => view s.world m.destination = x) := by
  apply holds_command
  intro s hs
  -- reading the marker and giving up
  have hresume : ∀ t : St σ, view t.world m.destination = x →
      view (eval H false (.seq
        (.assign "marker" (.orElse (.run (lits (markerOf m.destination))) .noop))
        (stopIfDiffer (.var "marker") (.lit m.moveToken)
          (lits ["echo", "RBD move destination exists without matching " ++
            "resume token; source was preserved"]) 23)) t).1.world m.destination = x := by
    intro t ht
    apply eval_world H (fun w => view w m.destination = x)
    · intro words hwords argv hfits w stdin hw
      have hharmless : harmless words = true := by
        rcases List.mem_cons.mp hwords with rfl | hwords
        · rfl
        · rw [List.mem_singleton.mp hwords]
          rfl
      rw [hH.reads w argv stdin (mutates_of_harmless hharmless hfits)]
      exact hw
    · exact ht
  -- the copy
  have hcopy : ∀ t : St σ, view t.world m.destination = x →
      view (eval H false (.andThen (.run (lits (copyTo m.source m.destination)))
        (.run (lits (markWith m.destination m.moveToken)))) t).1.world m.destination = x := by
    intro t ht
    obtain ⟨hfails, hkept⟩ := hH.copy_existing t.world m.source m.destination ""
      (by rw [ht]; exact hx)
    have hrun : eval H true (.run (lits (copyTo m.source m.destination))) t =
        ((call H t (copyTo m.source m.destination) "").1.print
          (call H t (copyTo m.source m.destination) "").2.2,
          .next (call H t (copyTo m.source m.destination) "").2.1) := by
      simp only [lits, eval, expandAll_literal, settle, Bool.true_eq_false, and_false, if_false]
    have hstatus : (call H t (copyTo m.source m.destination) "").2.1 ≠ 0 := hfails
    obtain ⟨n, hn⟩ := Nat.exists_eq_succ_of_ne_zero hstatus
    simp only [eval.eq_def H false (.andThen _ _), hrun, hn]
    rw [← ht]
    exact hkept
  have hcond : ∃ flow,
      eval H true (.test (.var "destination_exists") .eq (.lit "1")) s = (s, flow) := by
    simp only [eval]
    cases s.expand (.var "destination_exists") with
    | none | some => exact ⟨_, rfl⟩
  obtain ⟨flow, hflow⟩ := hcond
  simp only [eval.eq_def H false (.ifElse _ _ _), hflow]
  cases flow with
  | exited n => exact hs
  | next n =>
    cases n with
    | zero => exact hresume s hs
    | succ n => exact hcopy s hs

theorem epilogue_other {view : σ → Pools} (hH : Fallible H view) (m : Move) (hne : image ≠ m.source)
    (x : Option Image) :
    Holds H (fun s => view s.world image = x) (epilogue m)
      (fun s => view s.world image = x) (fun s => view s.world image = x) := by
  apply holds_world (I := fun w => view w image = x)
  intro words hwords argv hfits w stdin hw
  rcases List.mem_cons.mp hwords with rfl | hwords
  · have hargv : argv = removeOf m.source := fits_literal hfits
    rw [hargv, hH.remove_other w _ stdin image hne]
    exact hw
  · rw [List.mem_singleton.mp hwords] at hfits
    rw [hH.reads w argv stdin (mutates_of_harmless rfl hfits)]
    exact hw

/-- The source is as it was, or its removal has begun. -/
def SourceKept (m : Move) (view : σ → Pools) (x : Option Image) (s : St σ) : Prop :=
  view s.world m.source = x ∨ ¬ NotRemoved m s.trace

theorem epilogue_source {view : σ → Pools} (hH : Fallible H view) (m : Move) (x : Option Image) :
    Holds H (fun s => view s.world m.source = x) (epilogue m)
      (SourceKept m view x) (SourceKept m view x) := by
  have hremove : Holds H (fun s => view s.world m.source = x) [.run (lits (removal m))]
      (SourceKept m view x) (SourceKept m view x) := by
    apply holds_command
    intro s _
    refine Or.inr (fun hnot => ?_)
    have htrace : (eval H false (.run (lits (removal m))) s).1.trace = s.trace ++
        [⟨removal m, "", (H.exec s.world (removal m) "").2.1,
          (H.exec s.world (removal m) "").2.2⟩] := by
      simp only [lits, eval, expandAll_literal, call, St.print]
    rw [htrace] at hnot
    exact hnot _ (List.mem_append_right _ List.mem_cons_self) rfl
  have hprint : Holds H (SourceKept m view x) ((epilogue m).drop 1)
      (SourceKept m view x) (SourceKept m view x) := by
    apply holds_command
    intro s hs
    rcases hs with hkept | hbegun
    · refine Or.inl (eval_world H (fun w => view w m.source = x) _ false s ?_ hkept)
      intro words hwords argv hfits w stdin hw
      rw [List.mem_singleton.mp hwords] at hfits
      rw [hH.reads w argv stdin (mutates_of_harmless rfl hfits)]
      exact hw
    · refine Or.inr (fun hnot => hbegun ?_)
      intro e he
      exact hnot e ((Extends.trace_le (eval_extends H _ false s)).subset he)
  exact holds_append hremove hprint

theorem readSize_holds {view : σ → Pools} (hH : Fallible H view) (m : Move) (before : Pools) :
    Holds H (fun s => view s.world = before) ((moveChecks m).take 3)
      (fun s => view s.world = before ∧ ∃ i, before m.source = some i ∧
        s.vars "actual_source_size" = some (toString i.size))
      (fun s => view s.world = before) := by
  intro s hs
  have hscript : (moveChecks m).take 3 =
      [.setEU, .assign "source_info" (.run ((infoOf m.source).map Word.lit)),
        sizeFrom "actual_source_size" "source_info"] := rfl
  have hstart : eval H false .setEU s = ({ s with strict := true }, .next 0) := rfl
  rw [hscript, runScript_next hstart]
  obtain ⟨t, heval, hcaptured⟩ :=
    eval_assign_run H { s with strict := true } "source_info" (infoOf m.source)
  have ht : view t.world = before := by
    rw [hcaptured.world, hH.reads _ _ _ rfl]
    exact hs
  by_cases hstatus : (H.exec s.world (infoOf m.source) "").2.1 = 0
  · have heval' : eval H false (.assign "source_info" (.run ((infoOf m.source).map Word.lit)))
        { s with strict := true } = (t, .next 0) := by
      rw [heval]
      dsimp only
      rw [hstatus, settle_zero]
    rw [runScript_next heval']
    obtain ⟨i, hi, hsize⟩ := hH.info s.world m.source hstatus
    have hexpand : t.expandAll [.lit "printf", .lit "%s", .var "source_info"] =
        some ["printf", "%s", stripNewlines (H.exec s.world (infoOf m.source) "").2.2] := by
      simp [St.expandAll, St.expand, hcaptured.vars]
    obtain ⟨u, hevalu, hcapturedu⟩ :=
      eval_assign_pipe H "actual_source_size" (python sizeScript) hexpand
    have hu : view u.world = before := by
      rw [hcapturedu.world, hH.reads _ _ _ rfl, hH.reads _ _ _ rfl]
      exact ht
    generalize hdoc : stripNewlines (H.exec s.world (infoOf m.source) "").2.2 = doc at *
    generalize hprinted : H.exec t.world ["printf", "%s", doc] "" = printed at *
    generalize hpython : H.exec printed.1 (python sizeScript) printed.2.2 = answer at *
    by_cases hanswer : answer.2.1 = 0
    · have hevalu' : eval H false (sizeFrom "actual_source_size" "source_info") t =
          (u, .next 0) := by
        rw [hanswer, settle_zero] at hevalu
        exact hevalu
      rw [runScript_next hevalu']
      refine ⟨hu, i, by rw [← hs]; exact hi, ?_⟩
      rw [hcapturedu.vars, if_pos rfl, ← hpython]
      -- an empty document has no size
      rcases hH.printf t.world doc with htext | hempty
      · rw [hprinted] at htext
        rw [htext] at hpython ⊢
        rw [hsize printed.1 (by rw [hpython]; exact hanswer)]
      · rw [hprinted] at hempty
        rw [hempty] at hpython
        exact absurd (by rw [hpython]; exact hanswer) (hH.python_empty printed.1)
    · have hstrict : t.strict = true := hcaptured.strict
      have hevalu' : eval H false (sizeFrom "actual_source_size" "source_info") t =
          (u, .exited answer.2.1) := by
        rw [hstrict, settle_fails hanswer] at hevalu
        exact hevalu
      simp only [runScript, hevalu']
      exact hu
  · have heval' : eval H false (.assign "source_info" (.run ((infoOf m.source).map Word.lit)))
        { s with strict := true } =
          (t, .exited (H.exec s.world (infoOf m.source) "").2.1) := by
      rw [heval]
      dsimp only
      rw [settle_fails hstatus]
    simp only [runScript, heval']
    exact ht

theorem moveChecks_size {view : σ → Pools} (hH : Fallible H view) (m : Move) (before : Pools) :
    Holds H (fun s => view s.world = before) (moveChecks m)
      (fun _ => SourcePresent m before)
      (fun s => SourcePresent m before ∨ view s.world m.destination = before m.destination) := by
  have hread := (readSize_holds hH m before).stop
    (fun s hs => show SourcePresent m before ∨ _ from Or.inr (congrFun hs m.destination))
  have hrest : Holds H
      (fun s => view s.world = before ∧ ∃ i, before m.source = some i ∧
        s.vars "actual_source_size" = some (toString i.size))
      ((moveChecks m).drop 3) (fun _ => SourcePresent m before)
      (fun s => SourcePresent m before ∨
        view s.world m.destination = before m.destination) := by
    intro s ⟨hs, i, hi, hvar⟩
    have hexpand : s.expand (.var "actual_source_size") = some (toString i.size) := by
      simp [St.expand, hvar]
    by_cases hsize : i.size = m.sizeBytes
    · -- from here on the source is known to be there
      have hpresent : SourcePresent m before := ⟨i, hi, hsize⟩
      cases runScript H ((moveChecks m).drop 3) s with
      | mk s' flow =>
        cases flow with
        | next n => exact hpresent
        | exited n => exact Or.inl hpresent
    · have hne : toString i.size ≠ m.sizeText := fun heq => hsize (toString_inj heq)
      obtain ⟨⟨n, hexit⟩, hworld⟩ := exits_stopIfDiffer (H := H)
        ["echo", "RBD move source size changed; source was preserved"] 1 hexpand
        (show s.expand (.lit m.sizeText) = some m.sizeText from rfl) hne
      have hscript : (moveChecks m).drop 3 =
          stopIfDiffer (.var "actual_source_size") (.lit m.sizeText)
            ((["echo", "RBD move source size changed; source was preserved"]).map Word.lit) 1 ::
            (moveChecks m).drop 4 := rfl
      rw [hscript]
      simp only [runScript]
      cases hr : eval H false (stopIfDiffer (.var "actual_source_size") (.lit m.sizeText)
          ((["echo", "RBD move source size changed; source was preserved"]).map Word.lit) 1) s with
      | mk s' flow =>
        rw [hr] at hexit hworld
        dsimp only at hexit hworld
        rw [hexit]
        refine Or.inr ?_
        rw [hworld, hH.reads _ _ _ rfl, hs]
  exact holds_append hread hrest

/-- **What a move leaves as it was**, wherever it stopped. -/
theorem moveScript_keeps {view : σ → Pools} (hH : Fallible H view) (hne : m.source ≠ m.destination)
    (w : σ) :
    let s := (runScript H (moveScript m) (St.start w)).1
    (∀ image, image ≠ m.source → image ≠ m.destination →
      view s.world image = view w image) ∧
    (view w m.destination ≠ none → view s.world m.destination = view w m.destination) ∧
    (SourcePresent m (view w) ∨ view s.world m.destination = view w m.destination) ∧
    (NotRemoved m s.trace → view s.world m.source = view w m.source) := by
  rw [moveScript_split]
  intro s
  refine ⟨?_, ?_, ?_, ?_⟩
  · intro image hsource hdestination
    have hkept := holds_append
      (holds_harmless hH image (view w image) (harmless_moveChecks m))
      (holds_append (copyOrResume_other hH m hdestination (view w image))
        (holds_append (holds_harmless hH image (view w image) (harmless_verification m))
          (epilogue_other hH m hsource (view w image))))
    exact holds_run hkept rfl
  · intro hx
    have hkept := holds_append
      (holds_harmless hH m.destination (view w m.destination) (harmless_moveChecks m))
      (holds_append (copyOrResume_existing hH m hx)
        (holds_append
          (holds_harmless hH m.destination (view w m.destination) (harmless_verification m))
          (epilogue_other hH m hne.symm (view w m.destination))))
    exact holds_run hkept rfl
  · have hsize := moveChecks_size hH m (view w)
    have hrest : Holds H (fun _ => SourcePresent m (view w))
        (copyOrResume m ++ (verification m ++ epilogue m))
        (fun s => SourcePresent m (view w) ∨
          view s.world m.destination = view w m.destination)
        (fun s => SourcePresent m (view w) ∨
          view s.world m.destination = view w m.destination) := by
      intro t ht
      cases runScript H (copyOrResume m ++ (verification m ++ epilogue m)) t with
      | mk s' flow =>
        cases flow with
        | next | exited => exact Or.inl ht
    exact holds_run (holds_append hsize hrest) rfl
  · intro hnot
    have hkept : Holds H (fun s => view s.world m.source = view w m.source)
        (moveChecks m ++ (copyOrResume m ++ (verification m ++ epilogue m)))
        (SourceKept m view (view w m.source)) (SourceKept m view (view w m.source)) := by
      have hbefore := holds_append
        (holds_harmless hH m.source (view w m.source) (harmless_moveChecks m))
        (holds_append (copyOrResume_other hH m hne (view w m.source))
          (holds_harmless hH m.source (view w m.source) (harmless_verification m)))
      have hall := holds_append (hbefore.stop (fun _ hs => Or.inl hs))
        (epilogue_source hH m (view w m.source))
      rwa [List.append_assoc, List.append_assoc] at hall
    have hstart : view (St.start w).world m.source = view w m.source := rfl
    rcases holds_run hkept hstart with hsource | hbegun
    · exact hsource
    · exact absurd hnot hbegun

/-! ## Both -/

/-- **The cleanup after a move that stopped anywhere.** -/
theorem cleanup_after_move {H : Host σ} {view : σ → Pools} (hH : Fallible H view)
    {R : Host τ} {view' : τ → Pools} (hR : Reliable R view') {p : MoveParams} {m : Move}
    (hm : checkMove p = .ok m) (w : σ) (w' : τ)
    (hlater : view' w' = view (runScript H (moveScript m) (St.start w)).1.world) :
    CleanedUp m (view w) (view (runScript H (moveScript m) (St.start w)).1.world)
      (view' (runScript R (cleanupScript m) (St.start w')).1.world)
      (¬ NotRemoved m (runScript H (moveScript m) (St.start w)).1.trace) := by
  have hne := source_ne_destination hm
  obtain ⟨hothers, hexisting, hsize, hsource⟩ := moveScript_keeps hH hne w
  have hcleanup := cleanupScript_world hR m (moveToken_ne hm) w'
  rw [hlater] at hcleanup
  generalize hs : (runScript H (moveScript m) (St.start w)).1 = s at *
  generalize view' (runScript R (cleanupScript m) (St.start w')).1.world = final at *
  generalize view w = before at *
  generalize hafter : view s.world = after at *
  have hdeletes : Deleted m after final ↔
      SourcePresent m after ∧ Marked m after ∧ Unused m after := by
    constructor
    · intro hdeleted
      by_contra hnot
      rw [hcleanup.2 hnot] at hdeleted
      exact hdeleted.1 hdeleted.2
    · intro howned
      obtain ⟨i, hi, _⟩ := howned.2.1
      constructor
      · rw [hi]
        exact Option.some_ne_none i
      · rw [hcleanup.1 howned]
        exact Function.update_self _ _ _
  have hunchanged : ¬ Deleted m after final → final = after :=
    fun hnot => hcleanup.2 (fun howned => hnot (hdeletes.mpr howned))
  have hfinal : ∀ image, image ≠ m.destination → final image = after image := by
    intro image himage
    by_cases howned : SourcePresent m after ∧ Marked m after ∧ Unused m after
    · rw [hcleanup.1 howned]
      exact Function.update_of_ne himage _ _
    · rw [hcleanup.2 howned]
  have howned : Deleted m after final → Created m before after ∨ Marked m before := by
    intro hdeleted
    obtain ⟨i, hi, htoken⟩ := (hdeletes.mp hdeleted).2.1
    by_cases hbefore : before m.destination = none
    · exact Or.inl ⟨hbefore, hdeleted.1⟩
    · exact Or.inr ⟨i, by rw [← hexisting hbefore]; exact hi, htoken⟩
  refine ⟨hdeletes, howned, ?_, hfinal m.source hne, hunchanged, ?_⟩
  · intro hbegun hcreated
    have hpresent : SourcePresent m after := by
      rcases hsize with hpresent | hsame
      · obtain ⟨i, hi, hsizei⟩ := hpresent
        exact ⟨i, by rw [hsource (not_not.mp hbegun)]; exact hi, hsizei⟩
      · exact absurd (hsame.trans hcreated.1) hcreated.2
    rw [hdeletes]
    exact ⟨fun h => h.2, fun h => ⟨hpresent, h⟩⟩
  · intro hbegun hunmarked hdeleted
    funext image
    by_cases himage : image = m.destination
    · rw [himage]
      by_cases hcreated : Created m before after
      · rw [(hdeleted hcreated).2, hcreated.1]
      · have hnot : ¬ Deleted m after final := by
          intro h
          rcases howned h with hc | hmarked
          · exact hcreated hc
          · exact hunmarked hmarked
        rw [hunchanged hnot]
        by_cases hbefore : before m.destination = none
        · rw [hbefore]
          by_contra hafter'
          exact hcreated ⟨hbefore, hafter'⟩
        · exact hexisting hbefore
    · rw [hfinal image himage]
      by_cases hsrc : image = m.source
      · rw [hsrc]
        exact hsource (not_not.mp hbegun)
      · exact hothers image hsrc himage

/-! ## Interruptions -/

/-- A machine on which nothing works after so many commands. -/
def cutOff (H : Host σ) : Host (σ × Nat) where
  exec w argv stdin :=
    match w.2 with
    | 0 => (w, 255, "")
    | n + 1 => (((H.exec w.1 argv stdin).1, n), (H.exec w.1 argv stdin).2)

/-- What may happen before the interruption and after it. -/
theorem exec_cutOff (H : Host σ) (w : σ × Nat) (argv : List String) (stdin : String) :
    (cutOff H).exec w argv stdin = (w, 255, "") ∨
      ((cutOff H).exec w argv stdin).1.1 = (H.exec w.1 argv stdin).1 ∧
        ((cutOff H).exec w argv stdin).2 = (H.exec w.1 argv stdin).2 := by
  unfold cutOff
  cases hn : w.2 with
  | zero =>
    left
    simp [hn]
  | succ n =>
    right
    simp [hn]

/-- **An interruption at any point is a failure that the move allows for.** -/
theorem Fallible.cutOff {view : σ → Pools} (hH : Fallible H view) :
    Fallible (cutOff H) (fun w => view w.1) where
  reads := by
    intro w argv stdin h
    rcases exec_cutOff H w argv stdin with hdead | hlive
    · rw [hdead]
    · rw [hlive.1, hH.reads w.1 argv stdin h]
  copy_other := by
    intro w source destination stdin image h
    rcases exec_cutOff H w (copyTo source destination) stdin with hdead | hlive
    · rw [hdead]
    · rw [hlive.1, hH.copy_other w.1 source destination stdin image h]
  copy_existing := by
    intro w source destination stdin h
    rcases exec_cutOff H w (copyTo source destination) stdin with hdead | hlive
    · rw [hdead]
      exact ⟨Nat.succ_ne_zero 254, rfl⟩
    · rw [hlive.1, hlive.2]
      exact hH.copy_existing w.1 source destination stdin h
  mark_other := by
    intro w image token stdin image' h
    rcases exec_cutOff H w (markWith image token) stdin with hdead | hlive
    · rw [hdead]
    · rw [hlive.1, hH.mark_other w.1 image token stdin image' h]
  remove_other := by
    intro w image stdin image' h
    rcases exec_cutOff H w (removeOf image) stdin with hdead | hlive
    · rw [hdead]
    · rw [hlive.1, hH.remove_other w.1 image stdin image' h]
  info := by
    intro w image hstatus
    rcases exec_cutOff H w (infoOf image) "" with hdead | hlive
    · rw [hdead] at hstatus
      cases hstatus
    · rw [hlive.2] at hstatus ⊢
      obtain ⟨i, hi, hsize⟩ := hH.info w.1 image hstatus
      refine ⟨i, hi, ?_⟩
      intro w' hw'
      rcases exec_cutOff H w' (python sizeScript)
        (stripNewlines (H.exec w.1 (infoOf image) "").2.2) with hdead' | hlive'
      · rw [hdead'] at hw'
        cases hw'
      · rw [hlive'.2] at hw' ⊢
        exact hsize w'.1 hw'
  printf := by
    intro w text
    rcases exec_cutOff H w ["printf", "%s", text] "" with hdead | hlive
    · rw [hdead]
      exact Or.inr rfl
    · rw [hlive.2]
      exact hH.printf w.1 text
  python_empty := by
    intro w
    rcases exec_cutOff H w (python sizeScript) "" with hdead | hlive
    · rw [hdead]
      exact Nat.succ_ne_zero 254
    · rw [hlive.2]
      exact hH.python_empty w.1

end

/-! ## Two pools -/

/-- Images by name. -/
abbrev Table := List (String × Image)

/-- The documents that `rbd` prints for an image. -/
def infoDoc (i : Image) : String :=
  String.ofList ("\x7b\"size\":".toList ++ (toString i.size).toList ++ ['}'])

/-- A JSON list of so many empty objects. -/
def objects (n : Nat) : List Char :=
  '[' :: [','].intercalate (List.replicate n ['{', '}']) ++ [']']

def statusDoc (i : Image) : String :=
  String.ofList ("\x7b\"watchers\":".toList ++ objects i.watchers ++ ['}'])

def snapshotsDoc (i : Image) : String := String.ofList (objects i.snapshots)

/-- What the scripts print for these documents. -/
def runPython (script stdin : String) : Nat × String :=
  if script = sizeScript then
    if stdin.toList.take 8 = "\x7b\"size\":".toList then
      (0, String.ofList ((stdin.toList.drop 8).dropLast ++ ['\n']))
    else (1, "")
  else if script = watchersScript then
    (0, toString (stdin.toList.count '{' - 1) ++ "\n")
  else if script = snapshotsScript then (0, toString (stdin.toList.count '{') ++ "\n")
  else (0, if stdin = "[]" then "0\n" else "1\n")

/-- `rbd` without the exports, and what else the scripts run. -/
def rbd : Host Table where
  exec t argv stdin :=
    match argv with
    | ["rbd", "info", image, "--format", "json"] =>
      match t.lookup image with
      | some i => (t, 0, infoDoc i)
      | none => (t, 2, "")
    | ["rbd", "status", image, "--format", "json"] =>
      match t.lookup image with
      | some i => (t, 0, statusDoc i)
      | none => (t, 2, "")
    | ["rbd", "snap", "ls", image, "--format", "json"] =>
      match t.lookup image with
      | some i => (t, 0, snapshotsDoc i)
      | none => (t, 2, "")
    | ["rbd", "ls", pool, "--format", "json"] =>
      (t, 0, if t.any (fun e => (pool ++ "/").toList.isPrefixOf e.1.toList) then "[\"db1\"]"
        else "[]")
    | ["rbd", "image-meta", "get", image, "ceph.ai.move_token"] =>
      match (t.lookup image).bind Image.token with
      | some token => (t, 0, token ++ "\n")
      | none => (t, 2, "")
    | ["rbd", "image-meta", "set", image, "ceph.ai.move_token", token] =>
      match t.lookup image with
      | some i => ((image, { i with token := some token }) :: t, 0, "")
      | none => (t, 2, "")
    | ["rbd", "cp", "--no-progress", source, destination] =>
      match t.lookup source, t.lookup destination with
      | some i, none =>
        ((destination, { i with token := none, watchers := 0, snapshots := 0 }) :: t, 0, "")
      | _, _ => (t, 17, "")
    | ["rbd", "rm", image] =>
      match t.lookup image with
      | some i =>
        if i.watchers = 0 ∧ i.snapshots = 0 then (t.filter (fun e => e.1 != image), 0, "")
        else (t, 39, "")
      | none => (t, 2, "")
    | ["python3", "-c", script] => (t, runPython script stdin)
    | ["printf", "%s", text] => (t, 0, text)
    | _ => (t, 0, "")

def Table.view (t : Table) : Pools := fun image =>
  (t.lookup image).map fun i => { i with token := i.token.map stripNewlines }

theorem stripNewlines_of_not_mem {cs : List Char} (h : '\n' ∉ cs) :
    stripNewlines (String.ofList cs) = String.ofList cs := by
  unfold stripNewlines
  rw [String.toList_ofList]
  cases hrev : cs.reverse with
  | nil =>
    rw [List.reverse_eq_nil_iff.mp hrev]
    rfl
  | cons c rest =>
    have hc : c ≠ '\n' := by
      intro heq
      apply h
      rw [← List.mem_reverse, hrev, heq]
      exact List.mem_cons_self
    rw [List.dropWhile_cons_of_neg (by simpa using hc), ← hrev, List.reverse_reverse]

theorem stripNewlines_line (text : String) : stripNewlines (text ++ "\n") = stripNewlines text := by
  unfold stripNewlines
  simp [String.toList_append]

theorem newline_not_mem_digits (n : Nat) : '\n' ∉ (toString n).toList := by
  rw [Nat.toString_eq_repr, Nat.toList_repr]
  intro hmem
  have hdigit := Nat.isDigit_of_mem_toDigits (by decide) (by decide) hmem
  exact absurd hdigit (by decide)

theorem stripNewlines_number (n : Nat) : stripNewlines (toString n ++ "\n") = toString n := by
  rw [stripNewlines_line]
  have hdigits := stripNewlines_of_not_mem (newline_not_mem_digits n)
  rwa [String.ofList_toList] at hdigits

theorem runPython_size (i : Image) :
    runPython sizeScript (stripNewlines (infoDoc i)) = (0, toString i.size ++ "\n") := by
  have hnewline : '\n' ∉ "\x7b\"size\":".toList ++ (toString i.size).toList ++ ['}'] := by
    have hdigits := newline_not_mem_digits i.size
    simp only [List.mem_append, not_or]
    exact ⟨⟨by decide, hdigits⟩, by decide⟩
  unfold infoDoc
  rw [stripNewlines_of_not_mem hnewline]
  unfold runPython
  rw [if_pos rfl, String.toList_ofList]
  have hline : String.ofList ((toString i.size).toList ++ ['\n']) = toString i.size ++ "\n" := by
    apply String.toList_injective
    simp [String.toList_append]
  rw [← hline]
  simp

theorem count_objects (n : Nat) : (objects n).count '{' = n := by
  have hjoined : ∀ n, ([','].intercalate (List.replicate n ['{', '}'])).count '{' = n := by
    intro n
    induction n with
    | zero => rfl
    | succ n ih =>
      cases n with
      | zero => rfl
      | succ n =>
        rw [List.replicate_succ, List.replicate_succ, List.intercalate_cons_cons,
          ← List.replicate_succ, List.count_append, List.count_append, ih]
        show 1 + 0 + (n + 1) = n + 1 + 1
        omega
  unfold objects
  rw [List.cons_append, List.count_cons_of_ne (by decide), List.count_append, hjoined]
  rfl

theorem runPython_watchers (i : Image) :
    runPython watchersScript (statusDoc i) = (0, toString i.watchers ++ "\n") := by
  have hcount : (statusDoc i).toList.count '{' - 1 = i.watchers := by
    unfold statusDoc
    rw [String.toList_ofList, List.count_append, List.count_append, count_objects]
    show 1 + i.watchers + 0 - 1 = i.watchers
    omega
  unfold runPython
  rw [if_neg (by decide), if_pos rfl, hcount]

theorem runPython_snapshots (i : Image) :
    runPython snapshotsScript (snapshotsDoc i) = (0, toString i.snapshots ++ "\n") := by
  unfold runPython snapshotsDoc
  rw [if_neg (by decide), if_neg (by decide), if_pos rfl, String.toList_ofList, count_objects]

theorem lookup_filter_ne (t : Table) (image image' : String) :
    (t.filter (fun e => e.1 != image)).lookup image' =
      if image' = image then none else t.lookup image' := by
  induction t with
  | nil => simp
  | cons e t ih =>
    by_cases he : e.1 = image
    · rw [List.filter_cons_of_neg (by simpa using he), ih]
      by_cases himage : image' = image
      · rw [if_pos himage, if_pos himage]
      · have hne : (image' == e.1) = false := by
          rw [he]
          exact beq_eq_false_iff_ne.mpr himage
        rw [if_neg himage, if_neg himage, List.lookup_cons, hne]
    · rw [List.filter_cons_of_pos (by simpa using he), List.lookup_cons, List.lookup_cons, ih]
      by_cases himage : image' = image
      · have hne : (image' == e.1) = false := by
          rw [himage]
          exact beq_eq_false_iff_ne.mpr (fun h => he h.symm)
        rw [if_pos himage, if_pos himage, hne]
      · rw [if_neg himage, if_neg himage]

theorem lookup_cons_of_ne {t : Table} {image' : String} (i : Image) (h : image' ≠ image) :
    ((image, i) :: t : Table).lookup image' = t.lookup image' := by
  rw [List.lookup_cons, beq_eq_false_iff_ne.mpr h]

theorem view_eq_some {t : Table} (h : t.view image = some i) :
    ∃ j, t.lookup image = some j ∧ i = { j with token := j.token.map stripNewlines } := by
  obtain ⟨j, hj, hi⟩ := Option.map_eq_some_iff.mp h
  exact ⟨j, hj, hi.symm⟩

/-! ### What each command does -/

section

variable (t : Table)

section

variable (image stdin : String)

theorem exec_infoOf :
    rbd.exec t (infoOf image) stdin =
      match t.lookup image with
      | some i => (t, 0, infoDoc i)
      | none => (t, 2, "") := rfl

theorem exec_statusOf :
    rbd.exec t (statusOf image) stdin =
      match t.lookup image with
      | some i => (t, 0, statusDoc i)
      | none => (t, 2, "") := rfl

theorem exec_snapshotsOf :
    rbd.exec t (snapshotsOf image) stdin =
      match t.lookup image with
      | some i => (t, 0, snapshotsDoc i)
      | none => (t, 2, "") := rfl

theorem exec_markerOf :
    rbd.exec t (markerOf image) stdin =
      match (t.lookup image).bind Image.token with
      | some token => (t, 0, token ++ "\n")
      | none => (t, 2, "") := rfl

end

theorem exec_python (script stdin : String) :
    rbd.exec t (python script) stdin = (t, runPython script stdin) := rfl

theorem exec_copyTo (source destination stdin : String) :
    rbd.exec t (copyTo source destination) stdin =
      match t.lookup source, t.lookup destination with
      | some i, none =>
        ((destination, { i with token := none, watchers := 0, snapshots := 0 }) :: t, 0, "")
      | _, _ => (t, 17, "") := rfl

theorem exec_markWith (image token stdin : String) :
    rbd.exec t (markWith image token) stdin =
      match t.lookup image with
      | some i => ((image, { i with token := some token }) :: t, 0, "")
      | none => (t, 2, "") := rfl

theorem exec_removeOf (image stdin : String) :
    rbd.exec t (removeOf image) stdin =
      match t.lookup image with
      | some i =>
        if i.watchers = 0 ∧ i.snapshots = 0 then (t.filter (fun e => e.1 != image), 0, "")
        else (t, 39, "")
      | none => (t, 2, "") := rfl

end

theorem reliable_rbd : Reliable rbd Table.view where
  info := by
    intro t image i h
    obtain ⟨j, hj, rfl⟩ := view_eq_some h
    refine ⟨infoDoc j, toString j.size ++ "\n", ?_, ?_, stripNewlines_number j.size⟩
    · rw [exec_infoOf, hj]
    · rw [exec_python, runPython_size]
  info_none := by
    intro t image h
    have hnone : t.lookup image = none := Option.map_eq_none_iff.mp h
    exact ⟨2, "", by rw [exec_infoOf, hnone], by decide⟩
  watchers := by
    intro t image i h
    obtain ⟨j, hj, rfl⟩ := view_eq_some h
    refine ⟨0, statusDoc j, toString j.watchers ++ "\n", ?_, ?_, stripNewlines_number j.watchers⟩
    · rw [exec_statusOf, hj]
    · rw [exec_python, runPython_watchers]
  snapshots := by
    intro t image i h
    obtain ⟨j, hj, rfl⟩ := view_eq_some h
    refine ⟨0, snapshotsDoc j, toString j.snapshots ++ "\n", ?_, ?_,
      stripNewlines_number j.snapshots⟩
    · rw [exec_snapshotsOf, hj]
    · rw [exec_python, runPython_snapshots]
  marker := by
    intro t image i token h htoken
    obtain ⟨j, hj, rfl⟩ := view_eq_some h
    obtain ⟨text, htext, rfl⟩ := Option.map_eq_some_iff.mp htoken
    exact ⟨text ++ "\n", by simp [exec_markerOf, hj, htext], stripNewlines_line text⟩
  marker_none := by
    intro t image i h htoken
    obtain ⟨j, hj, rfl⟩ := view_eq_some h
    have hnone : j.token = none := Option.map_eq_none_iff.mp htoken
    exact ⟨2, by simp [exec_markerOf, hj, hnone], by decide⟩
  printf := by
    intro t text
    rfl
  prints := by
    intro t args stdin
    constructor
    · unfold rbd
      dsimp only
      split <;> first | rfl | simp_all
    · unfold rbd
      dsimp only
      split <;> first | rfl | simp_all
  remove := by
    intro t image i h hwatchers hsnapshots
    obtain ⟨j, hj, rfl⟩ := view_eq_some h
    have hexec : rbd.exec t (removeOf image) "" = (t.filter (fun e => e.1 != image), 0, "") := by
      rw [exec_removeOf, hj]
      exact if_pos ⟨hwatchers, hsnapshots⟩
    rw [hexec]
    refine ⟨rfl, ?_⟩
    funext image'
    unfold Table.view
    rw [lookup_filter_ne]
    by_cases himage : image' = image
    · rw [if_pos himage, himage, Function.update_self]
      rfl
    · rw [if_neg himage, Function.update_of_ne himage]

theorem fallible_rbd : Fallible rbd Table.view where
  reads := by
    intro t argv stdin h
    unfold rbd
    dsimp only
    split <;> first | rfl | (split <;> rfl) | cases h
  copy_other := by
    intro t source destination stdin image h
    unfold Table.view
    rw [exec_copyTo]
    split
    · rw [lookup_cons_of_ne _ h]
    · rfl
  copy_existing := by
    intro t source destination stdin h
    have hsome : t.lookup destination ≠ none := fun hnone => h (by simp [Table.view, hnone])
    obtain ⟨i, hi⟩ := Option.ne_none_iff_exists'.mp hsome
    have hexec : rbd.exec t (copyTo source destination) stdin = (t, 17, "") := by
      rw [exec_copyTo, hi]
      cases t.lookup source with
      | none => rfl
      | some o => rfl
    rw [hexec]
    exact ⟨Nat.succ_ne_zero 16, rfl⟩
  mark_other := by
    intro t image token stdin image' h
    unfold Table.view
    rw [exec_markWith]
    split
    · rw [lookup_cons_of_ne _ h]
    · rfl
  remove_other := by
    intro t image stdin image' h
    unfold Table.view
    rw [exec_removeOf]
    split
    · split_ifs
      · rw [lookup_filter_ne, if_neg h]
      · rfl
    · rfl
  info := by
    intro t image hstatus
    cases hview : t.view image with
    | none =>
      obtain ⟨status, out, hexec, hfails⟩ := reliable_rbd.info_none t image hview
      rw [hexec] at hstatus
      exact absurd hstatus hfails
    | some i =>
      obtain ⟨j, hj, rfl⟩ := view_eq_some hview
      have hexec : rbd.exec t (infoOf image) "" = (t, 0, infoDoc j) := by
        rw [exec_infoOf, hj]
      refine ⟨_, rfl, ?_⟩
      intro t' _
      rw [hexec]
      have hpython : rbd.exec t' (python sizeScript) (stripNewlines (infoDoc j)) =
          (t', 0, toString j.size ++ "\n") := by
        rw [exec_python, runPython_size]
      rw [hpython]
      exact stripNewlines_number j.size
  printf := by
    intro t text
    exact Or.inl rfl
  python_empty := by
    intro t
    have hexec : rbd.exec t (python sizeScript) "" = (t, 1, "") := by
      rfl
    rw [hexec]
    exact Nat.succ_ne_zero 0

/-- The parameters of `sampleMove`. -/
def sampleParams : MoveParams where
  poolName := some "ssd"
  image := some "db1"
  destPool := some "hdd"
  destImage := some "db1"
  sizeBytes := some 1073741824
  deleteSource := true
  checksum := some "rbd-export-diff-sha256"
  moveToken := some "0123456789abcdef"

theorem sampleAccepted : checkMove sampleParams = .ok sampleMove := rfl

/-- Only the source is there. -/
def sampleTable : Table := [("ssd/db1", ⟨1073741824, "data", none, 0, 0⟩)]

/-- The images after the move was interrupted behind so many commands. -/
def tableAfter (commands : Nat) : Table :=
  (runScript (cutOff rbd) (moveScript sampleMove)
    (St.start (sampleTable, commands))).1.world.1

/-- A move that is interrupted when its copy is marked is cleaned up. -/
theorem cleanup_after_marker :
    CleanedUp sampleMove sampleTable.view (tableAfter 11).view
      ((runScript rbd (cleanupScript sampleMove) (St.start (tableAfter 11))).1.world.view)
      (¬ NotRemoved sampleMove (runScript (cutOff rbd) (moveScript sampleMove)
        (St.start (sampleTable, 11))).1.trace) ∧
      Deleted sampleMove (tableAfter 11).view
        ((runScript rbd (cleanupScript sampleMove) (St.start (tableAfter 11))).1.world.view) := by
  refine ⟨cleanup_after_move fallible_rbd.cutOff reliable_rbd sampleAccepted
    (sampleTable, 11) (tableAfter 11) rfl, ?_⟩
  decide +kernel

/-- One that is interrupted between the copy and the marker leaves a destination that no
cleanup deletes. -/
theorem cleanup_before_marker :
    Created sampleMove sampleTable.view (tableAfter 10).view ∧
      ¬ Deleted sampleMove (tableAfter 10).view
        ((runScript rbd (cleanupScript sampleMove) (St.start (tableAfter 10))).1.world.view) := by
  decide +kernel

end CephAi.Ports.RbdMoveCleanup
