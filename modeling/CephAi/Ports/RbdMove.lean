import CephAi.Verified.Runs
import CephAi.Verified.Shell

/-!
# The cross-pool move of an RBD image

`commands._rbd_move_volume_command` builds one `sh` program that copies an
image to another pool, compares the SHA-256 of an `export-diff` of both images
and only then removes the source.  `rbd_move.run` may run it any number of
times; each attempt can stop anywhere.

The digests are assigned from pipelines, whose status is that of `cut`.  An
`export-diff` that fails therefore goes unnoticed, and when both fail the two
digests are those of the same empty text.

## Main results

* `removal_after_checksum` — in every attempt, interrupted anywhere, in which
  equal digests come from two completed exports with equal output, the source
  is removed only after both.
* `removal_without_export` — an attempt that removes the source although both
  exports failed.
-/

namespace CephAi.Ports.RbdMove

open Verified
open Verified.Shell

/-! ## The parameters -/

/-- `first` is in the class and so is the rest, up to `most` characters. -/
def matchesName (first rest : Char → Bool) (least most : Nat)
    (name : List Char) : Bool :=
  match name with
  | [] => false
  | c :: cs => first c && cs.all rest && decide (least ≤ cs.length) &&
      decide (cs.length ≤ most)

/-- The class `[A-Za-z0-9_.-]`. -/
def isNameChar (c : Char) : Bool :=
  c.isAlphanum || c == '_' || c == '.' || c == '-'

def isPoolName (name : List Char) : Bool :=
  matchesName Char.isAlphanum isNameChar 0 127 name

/-- `_POOL_NAME_RE.match`: its `$` also matches before a final newline. -/
def matchesPoolName (name : List Char) : Bool :=
  isPoolName name ||
    (name.getLast? == some '\n' && isPoolName name.dropLast)

def isRbdImage (name : List Char) : Bool :=
  matchesName (fun c => c.isAlphanum || c == '_') isNameChar 0 127 name

/-- `_RBD_MOVE_TOKEN_RE`, fully matched. -/
def isMoveToken (token : List Char) : Bool :=
  matchesName Char.isAlphanum
    (fun c => c.isAlphanum || c == '_' || c == '-') 15 63 token

/-- The action parameters the command reads; `none` for a missing value or one
of another type. -/
structure MoveParams where
  poolName : Option String
  image : Option String
  destPool : Option String
  destImage : Option String
  sizeBytes : Option Int
  deleteSource : Bool
  checksum : Option String
  moveToken : Option String

/-- A move that passed every check. -/
structure Move where
  pool : String
  image : String
  destPool : String
  destImage : String
  sizeBytes : Nat
  moveToken : String
  poolsDiffer : pool ≠ destPool
  sizePositive : 0 < sizeBytes

/-- The names belong to Cinder. -/
def isCinderManaged (name : String) : Bool :=
  "volume-".toList.isPrefixOf name.toList

/-- The checks of `_rbd_move_volume_command`, in order; the texts are those of
its `ExecutorError`s, without the quoted values. -/
def checkMove (p : MoveParams) : Except String Move :=
  match p.poolName.filter (fun s => matchesPoolName s.toList) with
  | none => .error "invalid or missing pool_name"
  | some pool =>
    match p.image.filter (fun s => isRbdImage s.toList) with
    | none => .error "invalid or missing RBD image"
    | some image =>
      match p.destPool.filter (fun s => isPoolName s.toList) with
      | none => .error "invalid or missing destination pool"
      | some destPool =>
        match p.destImage.filter (fun s => isRbdImage s.toList) with
        | none => .error "invalid or missing destination RBD image"
        | some destImage =>
          if hpools : pool = destPool then
            .error "cross-pool move requires a different destination pool"
          else if isCinderManaged image || isCinderManaged destImage then
            .error
              "Cinder-managed volume cannot be moved directly through RBD"
          else
            match p.sizeBytes with
            | some (Int.ofNat (size + 1)) =>
              if !p.deleteSource then
                .error "move requires explicit delete_source confirmation"
              else if p.checksum ≠ some "rbd-export-diff-sha256" then
                .error ("move requires the approved export-diff SHA-256 " ++
                  "checksum")
              else
                match p.moveToken.filter (fun s => isMoveToken s.toList) with
                | none =>
                  .error "move requires a server-generated resume token"
                | some token =>
                  .ok ⟨pool, image, destPool, destImage, size + 1, token,
                    hpools, Nat.succ_pos size⟩
            | _ => .error "move requires a positive approved size_bytes"

/-! ## The program -/

/-- `pool/image`. -/
def Move.source (m : Move) : String := m.pool ++ "/" ++ m.image

/-- `dest_pool/dest_image`. -/
def Move.destination (m : Move) : String := m.destPool ++ "/" ++ m.destImage

def Move.sizeText (m : Move) : String := toString m.sizeBytes

/-- Prints the size of an `rbd info` document. -/
def sizeScript : String :=
  "import json,sys; print(int(json.load(sys.stdin)[\"size\"]))"

/-- Prints the number of watchers of an `rbd status` document. -/
def watchersScript : String :=
  "import json,sys; p=json.load(sys.stdin); " ++
    "print(len(p.get(\"watchers\", [])) if isinstance(p,dict) else 0)"

/-- Prints the number of snapshots of an `rbd snap ls` document. -/
def snapshotsScript : String :=
  "import json,sys; p=json.load(sys.stdin); " ++
    "print(len(p if isinstance(p,list) else p.get(\"snapshots\", [])))"

/-- Prints `1` when the destination is in an `rbd ls` document. -/
def existsScript (destImage : String) : String :=
  "import json,sys; p=json.load(sys.stdin); " ++
    "names=[x if isinstance(x,str) else x.get(\"name\") for x in " ++
    "(p if isinstance(p,list) else p.get(\"images\", []))]; " ++
    "print(\"1\" if \"" ++ destImage ++ "\" in names else \"0\")"

/-- Literal words. -/
def lits (texts : List String) : List Word := texts.map Word.lit

def exportDiff (image : String) : List String :=
  ["rbd", "export-diff", image, "-"]

/-- `rbd export-diff image - | sha256sum | cut -d ' ' -f 1`. -/
def digestPipeline (image : String) : List (List String) :=
  [exportDiff image, ["sha256sum"], ["cut", "-d", " ", "-f", "1"]]

def removal (m : Move) : List String := ["rbd", "rm", m.source]

/-- `name=$(rbd ... | python3 -c script)`. -/
def countFrom (name : String) (document : List String) (script : String) :
    Sh :=
  .assign name (.pipe [lits document, lits ["python3", "-c", script]])

/-- `name=$(printf '%s' "$info" | python3 -c ...)`: the size in a document. -/
def sizeFrom (name info : String) : Sh :=
  .assign name (.pipe [[.lit "printf", .lit "%s", .var info],
    lits ["python3", "-c", sizeScript]])

/-- Everything before the digests: the checks on the source, then the resume
branch or the copy. -/
def prologue (m : Move) : List Sh :=
  [ .setEU,
    .assign "source_info"
      (.run (lits ["rbd", "info", m.source, "--format", "json"])),
    sizeFrom "actual_source_size" "source_info",
    stopIfDiffer (.var "actual_source_size") (.lit m.sizeText)
      (lits ["echo", "RBD move source size changed; source was preserved"]) 1,
    countFrom "watcher_count"
      ["rbd", "status", m.source, "--format", "json"] watchersScript,
    stopIfDiffer (.var "watcher_count") (.lit "0")
      (lits ["echo",
        "RBD move source has active watchers; source was preserved"]) 1,
    countFrom "snapshot_count"
      ["rbd", "snap", "ls", m.source, "--format", "json"] snapshotsScript,
    stopIfDiffer (.var "snapshot_count") (.lit "0")
      (lits ["echo", "RBD move source has snapshots; source was preserved"]) 1,
    countFrom "destination_exists"
      ["rbd", "ls", m.destPool, "--format", "json"]
      (existsScript m.destImage),
    .ifElse (.test (.var "destination_exists") .eq (.lit "1"))
      (.seq
        (.assign "marker"
          (.orElse (.run (lits ["rbd", "image-meta", "get", m.destination,
            "ceph.ai.move_token"])) .noop))
        (stopIfDiffer (.var "marker") (.lit m.moveToken)
          (lits ["echo", "RBD move destination exists without matching " ++
            "resume token; source was preserved"]) 23))
      (.andThen
        (.run (lits ["rbd", "cp", "--no-progress", m.source, m.destination]))
        (.run (lits ["rbd", "image-meta", "set", m.destination,
          "ceph.ai.move_token", m.moveToken]))) ]

/-- `name=$(rbd export-diff image - | sha256sum | cut -d ' ' -f 1)`. -/
def digestOf (name image : String) : Sh :=
  .assign name (.pipe (literalStages (digestPipeline image)))

/-- The comparison of the two digests. -/
def compareDigests : Sh :=
  stopIfDiffer (.var "source_sha256") (.var "dest_sha256")
    (lits ["echo", "RBD move checksum mismatch; source was preserved"]) 1

def sizeCheck (m : Move) : List Sh :=
  [ .assign "dest_info"
      (.run (lits ["rbd", "info", m.destination, "--format", "json"])),
    sizeFrom "actual_size" "dest_info",
    stopIfDiffer (.var "actual_size") (.lit m.sizeText)
      (lits ["echo",
        "RBD move destination size mismatch; source was preserved"]) 1 ]

/-- The removal and the JSON envelope printed after it. -/
def epilogue (m : Move) : List Sh :=
  [ .run (lits (removal m)),
    .run [.lit "printf", .lit ("\x7b\"name\":\"" ++ m.destImage ++
        "\",\"size\":%s,\"source_deleted\":true,\"checksum_verified\":true," ++
        "\"source_sha256\":\"%s\",\"dest_sha256\":\"%s\"\x7d"),
      .var "actual_size", .var "source_sha256", .var "dest_sha256"] ]

/-- `_rbd_move_volume_command`: the program passed to `sh -c`. -/
def moveScript (m : Move) : List Sh :=
  prologue m ++ ([digestOf "source_sha256" m.source] ++
    ([digestOf "dest_sha256" m.destination] ++
      ([compareDigests] ++ (sizeCheck m ++ epilogue m))))

/-- What one attempt did when it stopped after `executed` commands. -/
def attempt {σ : Type} (H : Host σ) (m : Move) (world : σ)
    (executed : Nat) : List Event :=
  ((runScript H (moveScript m) (St.start world)).1.trace).take executed

/-! ## What the move promises -/

/-- Every removal of the source comes after a completed export of the source
and one of the destination with equal output. -/
def RemovedAfterVerified (m : Move) (trace : List Event) : Prop :=
  ∀ before e after, trace = before ++ e :: after → e.argv = removal m →
    ∃ a ∈ before, ∃ b ∈ before,
      a.argv = exportDiff m.source ∧ b.argv = exportDiff m.destination ∧
      a.status = 0 ∧ b.status = 0 ∧ a.stdout = b.stdout

/-- The trace holds a digest pipeline on `image` that began with the export
`e` and came out as `text`. -/
def DigestOf (trace : List Event) (image : String) (e : Event)
    (text : String) : Prop :=
  ∃ events out, events <:+: trace ∧
    Piped "" (digestPipeline image) events out ∧
    events.head? = some e ∧ stripNewlines out = text

/-- Equal digests of the two images come from two completed exports with equal
output. -/
def ChecksumSound (m : Move) (trace : List Event) : Prop :=
  ∀ a b text, DigestOf trace m.source a text →
    DigestOf trace m.destination b text →
      a.status = 0 ∧ b.status = 0 ∧ a.stdout = b.stdout

/-- The source was not removed in this part of the trace. -/
def NotRemoved (m : Move) (trace : List Event) : Prop :=
  ∀ e ∈ trace, e.argv ≠ removal m

variable {assigned : List String} {commands : List (List Word)} {image : String} {m : Move}
    {s s' : St σ} {trace : List Event}

theorem DigestOf.mono {trace' : List Event} {e : Event} {text : String}
    (h : DigestOf trace image e text) (hle : trace <+: trace') : DigestOf trace' image e text := by
  obtain ⟨events, out, hin, hrest⟩ := h
  exact ⟨events, out, hin.trans hle.isInfix, hrest⟩

theorem DigestOf.mem {e : Event} {text : String} (h : DigestOf trace image e text) :
    e ∈ trace ∧ e.argv = exportDiff image := by
  obtain ⟨events, out, hin, hpiped, hhead, _⟩ := h
  obtain ⟨e', rest, rfl, hargv, _⟩ := hpiped
  simp only [List.head?_cons, Option.some.injEq] at hhead
  subst hhead
  exact ⟨hin.subset List.mem_cons_self, hargv⟩

/-- What the program has established before it removes the source: the two
digests are equal, and nothing was removed up to them. -/
def DigestsAgree (m : Move) (trace : List Event) : Prop :=
  ∃ t, t <+: trace ∧ NotRemoved m t ∧
    ∃ a b text, DigestOf t m.source a text ∧ DigestOf t m.destination b text

theorem removedAfterVerified_of_digestsAgree {cut : List Event}
    (h : NotRemoved m trace ∨ DigestsAgree m trace) (hcut : cut <+: trace)
    (hsound : ChecksumSound m cut) : RemovedAfterVerified m cut := by
  intro before e after hsplit he
  have hmem : e ∈ cut := by rw [hsplit]; simp
  rcases h with hnone | ⟨t, ht, hnone, a, b, text, ha, hb⟩
  · exact absurd he (hnone e (hcut.subset hmem))
  · have hbefore : before ++ [e] <+: trace := by
      refine List.IsPrefix.trans ?_ hcut
      rw [hsplit]
      exact ⟨after, by simp⟩
    -- the removal is not in `t`, so `t` ends before it
    have hshort : t <+: before := by
      rcases List.prefix_or_prefix_of_prefix ht hbefore with h | h
      · rcases List.prefix_concat_iff.mp h with h | h
        · have hin : e ∈ t := by rw [h]; simp
          exact absurd he (hnone e hin)
        · exact h
      · have hin : e ∈ t := h.subset (by simp)
        exact absurd he (hnone e hin)
    have hlong : t <+: cut := hshort.trans (by
      rw [hsplit]; exact List.prefix_append _ _)
    obtain ⟨hsa, hsb, hout⟩ :=
      hsound a b text (ha.mono hlong) (hb.mono hlong)
    exact ⟨a, hshort.subset ha.mem.1, b, hshort.subset hb.mem.1,
      ha.mem.2, hb.mem.2, hsa, hsb, hout⟩

/-! ## The parts of the program -/

variable {σ : Type}

theorem NotRemoved.extends (h : NotRemoved m s.trace) (hext : Extends commands assigned s s')
    (hno : ∀ words ∈ commands, fits words (removal m) = false) : NotRemoved m s'.trace := by
  obtain ⟨new, hnew, hfit⟩ := hext.trace
  intro e he
  rw [hnew] at he
  rcases List.mem_append.mp he with he | he
  · exact h e he
  · intro heq
    obtain ⟨words, hwords, hf⟩ := hfit e he
    rw [heq, hno words hwords] at hf
    exact absurd hf (by decide)

theorem Extends.trace_le (hext : Extends commands assigned s s') : s.trace <+: s'.trace := by
  obtain ⟨new, hnew, _⟩ := hext.trace
  exact ⟨new, hnew.symm⟩

theorem DigestsAgree.mono {trace' : List Event} (h : DigestsAgree m trace)
    (hle : trace <+: trace') : DigestsAgree m trace' := by
  obtain ⟨t, ht, hrest⟩ := h
  exact ⟨t, ht.trans hle, hrest⟩

/-- Where the shell may stop. -/
def Stopped (m : Move) (s : St σ) : Prop :=
  NotRemoved m s.trace ∨ DigestsAgree m s.trace

/-- The digest of `image` is in the trace and in the variable `name`. -/
def Digested (name image : String) (s : St σ) : Prop :=
  ∃ a text, DigestOf s.trace image a text ∧ s.vars name = some text

theorem Digested.extends {name : String} (h : Digested name image s)
    (hext : Extends commands assigned s s') (hname : name ∉ assigned) : Digested name image s' := by
  obtain ⟨a, text, hdigest, hvar⟩ := h
  exact ⟨a, text, hdigest.mono (Extends.trace_le hext),
    by rw [hext.vars name hname, hvar]⟩

theorem digestPipeline_fits (m : Move) (image : String) :
    ∀ words ∈ literalStages (digestPipeline image),
      fits words (removal m) = false := by
  simp [literalStages, digestPipeline, exportDiff, removal, fits]

section

variable (H : Host σ)

section

variable (m : Move)

theorem prologue_holds :
    Holds H (fun s => NotRemoved m s.trace) (prologue m)
      (fun s => NotRemoved m s.trace) (Stopped m) := by
  refine holds_frame (fun s s' hs hext => hs.extends hext ?_)
    (fun s hs => Or.inl hs)
  simp [scriptCommands, prologue, Sh.commands, sizeFrom, countFrom,
    stopIfDiffer, Sh.ifThen, lits, fits, removal]

theorem digestOf_holds (name image : String) (P : St σ → Prop)
    (hP : ∀ s s', P s → Extends (literalStages (digestPipeline image)) [name] s s' → P s') :
    Holds H (fun s => NotRemoved m s.trace ∧ P s) [digestOf name image]
      (fun s => (NotRemoved m s.trace ∧ P s) ∧ Digested name image s)
      (Stopped m) := by
  have hno := digestPipeline_fits m image
  refine (holds_capture name (digestPipeline image)
    (fun s s' hs hext => Or.inl (hs.1.extends hext hno))).consequence
    (fun s hs => hs) ?_
  rintro s' ⟨s, events, out, ⟨hnone, hp⟩, hext, htrace, hpiped, hvar⟩
  refine ⟨⟨hnone.extends hext hno, hP s s' hp hext⟩, ?_⟩
  obtain ⟨e, rest, hevents, hrest⟩ := hpiped
  refine ⟨e, stripNewlines out, ⟨events, out, ?_, ?_, ?_, rfl⟩, hvar⟩
  · rw [htrace]
    exact (List.suffix_append _ _).isInfix
  · exact ⟨e, rest, hevents, hrest⟩
  · rw [hevents]
    rfl

theorem compareDigests_holds :
    Holds H
      (fun s => (NotRemoved m s.trace ∧ Digested "source_sha256" m.source s) ∧
        Digested "dest_sha256" m.destination s)
      [compareDigests] (fun s => DigestsAgree m s.trace) (Stopped m) := by
  refine (holds_stopIfDiffer (fun s s' hs hext => Or.inl (hs.1.1.extends hext
    (by simp [lits, fits, removal])))).consequence (fun s hs => hs) ?_
  rintro s ⟨⟨⟨hnone, a, text, ha, hvar⟩, b, text', hb, hvar'⟩, v, hv, hv'⟩
  simp only [St.expand, hvar, Option.some.injEq] at hv
  simp only [St.expand, hvar', Option.some.injEq] at hv'
  exact ⟨s.trace, List.prefix_refl _, hnone, a, b, v, hv ▸ ha, hv' ▸ hb⟩

theorem agree_holds (cs : List Sh) :
    Holds H (fun s => DigestsAgree m s.trace) cs
      (fun s => DigestsAgree m s.trace) (Stopped m) :=
  holds_frame (fun _ _ hs hext => hs.mono (Extends.trace_le hext))
    (fun _ hs => Or.inr hs)

theorem moveScript_holds :
    Holds H (fun s => NotRemoved m s.trace) (moveScript m)
      (fun s => DigestsAgree m s.trace) (Stopped m) := by
  have hsource : Holds H (fun s => NotRemoved m s.trace)
      [digestOf "source_sha256" m.source]
      (fun s => NotRemoved m s.trace ∧ Digested "source_sha256" m.source s)
      (Stopped m) :=
    (digestOf_holds H m "source_sha256" m.source (fun _ => True)
      (fun _ _ _ _ => trivial)).consequence
        (fun s hs => ⟨hs, trivial⟩) (fun s hs => ⟨hs.1.1, hs.2⟩)
  have hdest := digestOf_holds H m "dest_sha256" m.destination
    (Digested "source_sha256" m.source)
    (fun s s' hs hext => hs.extends hext (by decide))
  exact holds_append (prologue_holds H m) (holds_append hsource
    (holds_append hdest (holds_append (compareDigests_holds H m)
      (holds_append (agree_holds H m (sizeCheck m))
        (agree_holds H m (epilogue m))))))

theorem attempt_removedAfterVerified (world : σ) (executed : Nat)
    (hsound : ChecksumSound m (attempt H m world executed)) :
    RemovedAfterVerified m (attempt H m world executed) := by
  have hstart : NotRemoved m (St.start world).trace := by
    simp [NotRemoved, St.start]
  have hpost := moveScript_holds H m (St.start world) hstart
  refine removedAfterVerified_of_digestsAgree ?_ (List.take_prefix _ _) hsound
  cases hr : runScript H (moveScript m) (St.start world) with
  | mk s' flow =>
    rw [hr] at hpost
    cases flow with
    | exited n => exact hpost
    | next n => exact Or.inr hpost

end

end

/-! ## Retries -/

/-- One more attempt: the pools as it finds them, and how far it got. -/
structure Attempt (σ : Type) where
  world : σ
  executed : Nat

/-- `rbd_move.run`, as often as it is run; the state lists the attempts'
traces. -/
def moveSystem (H : Host σ) (m : Move) :
    Runs.System (List (List Event)) (Attempt σ) where
  step done a := some (done ++ [attempt H m a.world a.executed])

/-- The condition on an attempt: its equal digests come from two completed
exports with equal output. -/
def SoundAttempt (H : Host σ) (m : Move) (_ : List (List Event))
    (a : Attempt σ) : Prop :=
  ChecksumSound m (attempt H m a.world a.executed)

/-- **Removal after checksum.**  In every sequence of attempts whose digests
are sound, every attempt removes the source only after both exports completed
with equal output. -/
theorem removal_after_checksum (H : Host σ) (m : Move) (attempts : List (Attempt σ))
    (traces : List (List Event)) (hmeets : (moveSystem H m).Meets (SoundAttempt H m) [] attempts)
    (hrun : (moveSystem H m).run [] attempts = some traces) :
    ∀ trace ∈ traces, RemovedAfterVerified m trace := by
  refine (moveSystem H m).run_invariant_of_meets (SoundAttempt H m)
    (fun done => ∀ trace ∈ done, RemovedAfterVerified m trace) ?_ attempts []
    traces (by simp) hmeets hrun
  intro done a done' hdone hsound hstep
  simp only [moveSystem, Option.some.injEq] at hstep
  subst hstep
  intro trace htrace
  rcases List.mem_append.mp htrace with htrace | htrace
  · exact hdone trace htrace
  · rw [List.mem_singleton.mp htrace]
    exact attempt_removedAfterVerified H m a.world a.executed hsound

/-! ## Two hosts -/

/-- A gibibyte image. -/
def sampleMove : Move where
  pool := "ssd"
  image := "db1"
  destPool := "hdd"
  destImage := "db1"
  sizeBytes := 1073741824
  moveToken := "0123456789abcdef"
  poolsDiffer := by decide
  sizePositive := by decide

/-- A host whose exports end with `status` and print `bytes`; everything else
works, and a digest is the text it is taken of. -/
def exportingHost (status : Nat) (bytes : String) : Host Unit where
  exec _ argv stdin :=
    if argv.take 2 = ["rbd", "export-diff"] then ((), status, bytes)
    else if argv.take 2 = ["python3", "-c"] then
      ((), 0, if argv[2]? = some sizeScript then "1073741824\n" else "0\n")
    else ((), 0, stdin)

theorem checksumSound_of_exports (bytes : String)
    (h : trace.all (fun e => e.argv.take 2 != ["rbd", "export-diff"] ||
      (e.status == 0 && e.stdout == bytes)) = true) :
    ChecksumSound m trace := by
  have hexport : ∀ image e text, DigestOf trace image e text →
      e.status = 0 ∧ e.stdout = bytes := by
    intro image e text he
    have hone := List.all_eq_true.mp h e he.mem.1
    simpa [he.mem.2, exportDiff] using hone
  intro a b text ha hb
  obtain ⟨hsa, hoa⟩ := hexport _ a text ha
  obtain ⟨hsb, hob⟩ := hexport _ b text hb
  exact ⟨hsa, hsb, hoa.trans hob.symm⟩

/-- A first attempt that is cut off after five commands and a second one that
removes the source. -/
theorem removal_after_checksum_retry :
    ∃ traces,
      (moveSystem (exportingHost 0 "data") sampleMove).run []
        [⟨(), 5⟩, ⟨(), 30⟩] = some traces ∧
      (traces.any (fun t => t.any (fun e => e.argv == removal sampleMove))) =
        true ∧
      ∀ trace ∈ traces, RemovedAfterVerified sampleMove trace := by
  have hfirst : SoundAttempt (exportingHost 0 "data") sampleMove []
      ⟨(), 5⟩ :=
    checksumSound_of_exports "data" (by decide +kernel)
  have hsecond : ∀ done, SoundAttempt (exportingHost 0 "data") sampleMove done
      ⟨(), 30⟩ := fun _ =>
    checksumSound_of_exports "data" (by decide +kernel)
  have hmeets : (moveSystem (exportingHost 0 "data") sampleMove).Meets
      (SoundAttempt (exportingHost 0 "data") sampleMove) []
      [⟨(), 5⟩, ⟨(), 30⟩] := ⟨hfirst, hsecond _, trivial⟩
  exact ⟨_, rfl, by decide +kernel,
    removal_after_checksum (exportingHost 0 "data") sampleMove _ _ hmeets rfl⟩

/-- Both exports fail without output, and the source is removed. -/
theorem removal_without_export :
    ¬ ∀ (H : Host Unit) (m : Move) (attempts : List (Attempt Unit))
      (traces : List (List Event)),
      (moveSystem H m).run [] attempts = some traces →
        ∀ trace ∈ traces, RemovedAfterVerified m trace := by
  intro h
  have hbad : (attempt (exportingHost 1 "") sampleMove () 30).any
        (fun e => e.argv == removal sampleMove) = true ∧
      (attempt (exportingHost 1 "") sampleMove () 30).all
        (fun e => e.argv != exportDiff sampleMove.source || e.status != 0) =
          true := by
    decide +kernel
  have hsafe := h (exportingHost 1 "") sampleMove [⟨(), 30⟩] _ rfl _
    (List.mem_singleton_self _)
  obtain ⟨e, he, hremoval⟩ := List.any_eq_true.mp hbad.1
  obtain ⟨before, after, hsplit⟩ := List.append_of_mem he
  obtain ⟨a, ha, _, _, hexport, _, hstatus, _⟩ :=
    hsafe before e after hsplit (by simpa using hremoval)
  have hin : a ∈ attempt (exportingHost 1 "") sampleMove () 30 := by
    rw [hsplit]
    exact List.mem_append_left _ ha
  have hfailed := List.all_eq_true.mp hbad.2 a hin
  simp [hexport, hstatus] at hfailed

end CephAi.Ports.RbdMove
