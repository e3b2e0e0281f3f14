import CephAi.Ports.GetCommand
import Mathlib

/-!
# Parameters do not change the structure of a command

Two accepted assignments of an action's parameters may ask for different
commands on purpose: a clause more for an optional parameter, one command for
each entry of a list, another phase of an upgrade.  `variant` says what they ask
for.  Within one variant every builder gives commands that a shell reads alike,
up to the words that carry the parameters.

Most parameters go through `shlex.quote`, and then the place alone counts.  A
few are pasted as they are, and their patterns keep them inert.  The patterns of
the two package upgrades accept a last line break, which is not inert.

## Main results

* `alike_builder` — the commands of one variant are built alike.
* `structure_fixed` — `get_command` gives commands with one token structure.
* `structure_differs` — it does not across variants, nor with a line break at the
  end of a directory.
-/

namespace CephAi.Ports.CommandStructure

open Verified.ShellText
open CommandParams
open ManagementCommands
open GetCommand

/-! ## Variants -/

/-- What the parameters ask for: the optional clauses, the number of list
entries, and what the worker itself adds to a package upgrade. -/
structure Variant where
  clauses : List Bool
  entries : Nat
  worker : List Value

/-- The keys that the worker adds to a package upgrade. -/
def workerKeys : List String := ["_phase", "_phase_daemon_types", "_ssh_user", "_ssh_key_path"]

def variant (params : Params) : CommandAction → Variant
  | .createPool => ⟨[(get params "app_name").isNull], 0, []⟩
  | .cephfsCreateSubvolume => ⟨[(get params "size_gib").isNull], 0, []⟩
  | .nfsCreateExport =>
    ⟨[(get params "subvolume").truthy, (get params "readonly").isTrue], 0, []⟩
  | .setPoolPgNum =>
    ⟨[(get params "adjustments").isNull], (get params "adjustments").entries, []⟩
  | .enablePoolPgAutoscaler => ⟨[], (get params "pools").entries, []⟩
  | .reshardRgwBucket => ⟨[(get params "pg_id").isNull], 0, []⟩
  | .deepScrubOmapPg => ⟨[(get params "pg_ids").isNull], (get params "pg_ids").entries, []⟩
  | .rbdTrashPurgeAll => ⟨[], (get params "trash_ids").entries, []⟩
  | .cinderCreateSnapshot => ⟨[(get params "force").isTrue], 0, []⟩
  | .upgradeCephClusterPackageDownload | .upgradeCephClusterPackageLocal =>
    ⟨[], 0, workerKeys.map (get params)⟩
  | _ => ⟨[], 0, []⟩

/-- The string at a key ends in a line break. -/
def lineAt (params : Params) (key : String) : Bool :=
  ((get params key).asStr.map endsLine).getD false

/-- A package upgrade pastes a parameter that ends in a line break. -/
def pastesLine (params : Params) : CommandAction → Bool
  | .upgradeCephClusterPackageDownload =>
    !isPhase params "restart_only" && lineAt params "target_version"
  | .upgradeCephClusterPackageLocal =>
    !isPhase params "restart_only" && lineAt params "package_dir"
  | _ => false

/-! ## Parameters pasted as they are -/

variable {c : Char} {cs : List Char} {params params' : Params} {ps : List Piece} {s : String}

theorem requireStr_eq {key : String} {test : String → Bool}
    (h : requireStr params key test = some s) : get params key = .str s ∧ test s = true := by
  unfold requireStr at h
  cases hvalue : get params key with
  | str t =>
    simp only [hvalue, Value.asStr, Option.bind_eq_bind, Option.bind_some, guard] at h
    split_ifs at h with htest
    · cases h
      exact ⟨rfl, htest⟩
    · cases h
  | _ =>
    simp [hvalue, Value.asStr] at h

theorem isSafe_alnumOr {extra : List Char} (hextra : extra.all isSafe = true)
    (h : alnumOr extra c = true) : isSafe c = true := by
  rcases (by simpa [alnumOr] using h : c.isAlphanum = true ∨ c ∈ extra) with h | h
  · simp [isSafe, h]
  · exact List.all_eq_true.mp hextra c h

theorem oneThen_chars {first rest : Char → Bool} {low high : Nat}
    (h : oneThen first rest low high cs = true) :
    cs ≠ [] ∧ ∀ c ∈ cs, first c = true ∨ rest c = true := by
  cases cs with
  | nil => cases h
  | cons d cs =>
    simp only [oneThen, Bool.and_eq_true, List.all_eq_true] at h
    refine ⟨List.cons_ne_nil _ _, ?_⟩
    intro c hc
    rcases List.mem_cons.mp hc with rfl | hc
    · exact Or.inl h.1.1.1
    · exact Or.inr (h.1.1.2 c hc)

theorem inert_rbdImage (h : fullmatchRe rbdImageRe s = true) : InertText s := by
  obtain ⟨hne, hchars⟩ := oneThen_chars h
  refine ⟨hne, ?_⟩
  intro c hc
  apply inert_of_isSafe
  rcases hchars c hc with hc | hc
  · exact isSafe_alnumOr (by decide) hc
  · exact isSafe_alnumOr (by decide) hc

theorem each_chars {P : Char → Prop} {tests : List (Char → Bool)}
    (htests : ∀ test ∈ tests, ∀ c, test c = true → P c) (h : each tests cs = true) :
    cs.length = tests.length ∧ ∀ c ∈ cs, P c := by
  induction tests generalizing cs with
  | nil =>
    cases cs with
    | nil => exact ⟨rfl, by simp⟩
    | cons d cs => cases h
  | cons test tests ih =>
    cases cs with
    | nil => cases h
    | cons d cs =>
      simp only [each, Bool.and_eq_true] at h
      obtain ⟨hlen, hchars⟩ :=
        ih (fun t ht => htests t (List.mem_cons_of_mem _ ht)) h.2
      refine ⟨congrArg (· + 1) hlen, ?_⟩
      intro c hc
      rcases List.mem_cons.mp hc with rfl | hc
      · exact htests test List.mem_cons_self c h.1
      · exact hchars c hc

theorem isSafe_isHex (h : isHex c = true) : isSafe c = true := by
  have halnum : c.isAlphanum = true := by
    simp only [isHex, Bool.or_eq_true, Bool.and_eq_true, decide_eq_true_eq] at h
    simp only [Char.isAlphanum, Char.isAlpha, Char.isLower, Char.isUpper, Bool.or_eq_true,
      Bool.and_eq_true, decide_eq_true_eq]
    rcases h with (h | h) | h
    · exact Or.inr h
    · exact Or.inl (Or.inr ⟨h.1, Char.le_trans h.2 (by decide)⟩)
    · exact Or.inl (Or.inl ⟨h.1, Char.le_trans h.2 (by decide)⟩)
  simp [isSafe, halnum]

/-- A Cinder id may be pasted anywhere. -/
theorem inert_uuid (h : fullmatchRe openstackUuidRe s = true) : InertText s := by
  have htests : ∀ test ∈ List.replicate 8 isHex ++ [(· == '-')] ++ List.replicate 4 isHex ++
      [(· == '-')] ++ [(['1', '2', '3', '4', '5'].contains ·)] ++ List.replicate 3 isHex ++
      [(· == '-')] ++ [(['8', '9', 'a', 'b', 'A', 'B'].contains ·)] ++
      List.replicate 3 isHex ++ [(· == '-')] ++ List.replicate 12 isHex,
      ∀ c, test c = true → isSafe c = true := by
    have hex : ∀ n, ∀ test ∈ List.replicate n isHex, ∀ c, test c = true → isSafe c = true := by
      intro n test htest c hc
      rw [List.eq_of_mem_replicate htest] at hc
      exact isSafe_isHex hc
    have listed : ∀ cs : List Char, cs.all isSafe = true → ∀ c,
        cs.contains c = true → isSafe c = true :=
      fun cs hcs c hc => List.all_eq_true.mp hcs c (by simpa using hc)
    have dash : ∀ c : Char, (c == '-') = true → isSafe c = true := by
      intro c hc
      rw [beq_iff_eq.mp hc]
      decide
    intro test htest
    simp only [List.mem_append, List.mem_singleton] at htest
    rcases htest with
      (((((((((h | rfl) | h) | rfl) | rfl) | h) | rfl) | rfl) | h) | rfl) | h
    · exact hex 8 test h
    · exact dash
    · exact hex 4 test h
    · exact dash
    · exact listed _ (by decide)
    · exact hex 3 test h
    · exact dash
    · exact listed _ (by decide)
    · exact hex 3 test h
    · exact dash
    · exact hex 12 test h
  obtain ⟨hlen, hchars⟩ := each_chars htests h
  refine ⟨?_, fun c hc => inert_of_isSafe (hchars c hc)⟩
  intro hnil
  rw [hnil] at hlen
  simp at hlen

theorem inert_decimal (h : isDecimal c = true) : inert c = true := by
  have hrange : (48 ≤ c.toNat ∧ c.toNat ≤ 57) ∨ 128 ≤ c.toNat := by
    simp only [isDecimal, decimal, Option.isSome_map] at h
    obtain ⟨base, hbase⟩ := Option.isSome_iff_exists.mp h
    have hzeros : ∀ z ∈ zeros, z = 48 ∨ 128 ≤ z := by decide
    have hmem := hzeros base (List.mem_of_find?_eq_some hbase)
    have hbounds := List.find?_some hbase
    simp only [Bool.and_eq_true, decide_eq_true_eq] at hbounds
    omega
  have hspecial : special.all (fun d => (d.toNat < 48 || 57 < d.toNat) && d.toNat < 128) =
      true := by decide
  apply inert_of_not_special
  intro hc
  have hout := List.all_eq_true.mp hspecial c hc
  simp only [Bool.and_eq_true, Bool.or_eq_true, decide_eq_true_eq] at hout
  omega

theorem targetVersion_chars (h : targetVersionRe cs = true) :
    cs ≠ [] ∧ ∀ c ∈ cs, inert c = true := by
  have htake : ∀ l : List Char, ∀ c ∈ l.takeWhile isDecimal, inert c = true :=
    fun l c hc => inert_decimal (List.all_eq_true.mp List.all_takeWhile c hc)
  unfold targetVersionRe at h
  have hsplit := List.takeWhile_append_dropWhile (p := isDecimal) (l := cs)
  cases hrest : cs.dropWhile isDecimal with
  | nil => simp [hrest] at h
  | cons d cs' =>
    by_cases hd : d = '.'
    · subst hd
      have hsplit' := List.takeWhile_append_dropWhile (p := isDecimal) (l := cs')
      cases hrest' : cs'.dropWhile isDecimal with
      | nil => simp [hrest, hrest'] at h
      | cons e patch =>
        by_cases he : e = '.'
        · subst he
          simp only [hrest, hrest', Bool.and_eq_true, List.all_eq_true] at h
          rw [← hsplit, hrest, ← hsplit', hrest']
          refine ⟨by simp, ?_⟩
          intro c hc
          simp only [List.mem_append, List.mem_cons] at hc
          rcases hc with hc | rfl | hc | rfl | hc
          · exact htake _ c hc
          · decide
          · exact htake _ c hc
          · decide
          · exact inert_decimal (h.2 c hc)
        · simp [hrest, hrest', he] at h
    · simp [hrest, hd] at h

theorem inert_targetVersion (h : matchRe targetVersionRe s = true) (hline : endsLine s = false) :
    InertText s := by
  simp only [matchRe, hline, Bool.false_and, Bool.or_false] at h
  exact targetVersion_chars h

theorem inert_repoPath {version : String} (h : InertText version) :
    InertText (repoPathVersion version) := by
  unfold repoPathVersion
  cases hrelease : releaseOf version with
  | none => exact h
  | some release =>
    have hmem : release ∈ releases := by
      unfold releaseOf at hrelease
      obtain ⟨major, -, hfind⟩ := Option.bind_eq_some_iff.mp hrelease
      exact List.mem_of_find?_eq_some hfind
    have hcodename : releases.all (fun r =>
        !r.codename.toList.isEmpty && r.codename.toList.all inert) = true := by decide
    show InertText (if release.repoPathUsesCodename then _ else _)
    split_ifs
    · exact inertText_of_all (List.all_eq_true.mp hcodename release hmem)
    · exact h

theorem packageDir_chars (h : packageDirRe cs = true) : cs ≠ [] ∧ ∀ c ∈ cs, isSafe c = true := by
  cases cs with
  | nil => cases h
  | cons d cs =>
    by_cases hd : d = '/'
    · subst hd
      simp only [packageDirRe, Bool.and_eq_true, List.all_eq_true] at h
      refine ⟨List.cons_ne_nil _ _, ?_⟩
      intro c hc
      rcases List.mem_cons.mp hc with rfl | hc
      · decide
      · exact isSafe_alnumOr (by decide) (h.2 c hc)
    · simp [packageDirRe, hd] at h

theorem inert_packageDir (h : matchRe packageDirRe s = true) (hline : endsLine s = false) :
    InertText (String.ofList (quote s.toList)) := by
  simp only [matchRe, hline, Bool.false_and, Bool.or_false] at h
  obtain ⟨hne, hsafe⟩ := packageDir_chars h
  have hquote : quote s.toList = s.toList := by
    simp only [quote, hne, if_false, if_pos (List.all_eq_true.mpr hsafe)]
  rw [hquote, String.ofList_toList]
  exact ⟨hne, fun c hc => inert_of_isSafe (hsafe c hc)⟩

/-! ## Pools -/

theorem inert_protected (b : Bool) : InertText (if b then "true" else "false") := by
  cases b
  · exact inertText_of_all (by decide)
  · exact inertText_of_all (by decide)

theorem alike_setPoolProtection (params params' : Params) :
    Alike (setPoolProtectionCommand params) (setPoolProtectionCommand params') := by
  refine .bind fun poolName poolName' _ _ => ?_
  refine .bind fun isProtected isProtected' _ _ => ?_
  refine Alike.line rfl ?_ (by simp [Piece.Inert, inert_protected])
    (by simp [Piece.Inert, inert_protected])
  simp only [List.map, Piece.slot, -String.reduceToList]
  repeat rw [String.toList_ofList]
  decide

theorem alike_createPool (h : variant params .createPool = variant params' .createPool) :
    Alike (createPoolCommand params) (createPoolCommand params') := by
  have happ : (get params "app_name").isNull = (get params' "app_name").isNull := by
    simpa [variant] using h
  refine .bind fun poolName poolName' _ _ => ?_
  refine .bind fun pgNum pgNum' _ _ => ?_
  rw [happ]
  split_ifs
  on_goal 2 => repeat refine .bind fun _ _ _ _ => ?_
  all_goals
    refine Alike.quotedLine rfl rfl rfl ?_
    simp only [List.map, Piece.slot, List.cons_append, List.nil_append, -String.reduceToList]
    repeat rw [String.toList_ofList]
    decide

/-! ## Lists of commands -/

theorem entries_of_asList {value : Value} {values : List Value}
    (h : value.asList = some values) : value.entries = values.length := by
  cases value with
  | list vs =>
    cases h
    rfl
  | _ => cases h

section Entries

/-! Commands whose pieces all have the same slots. -/

variable {slots : List Slot} (halone : standsAlone " && " slots = true)

include halone

theorem alike_one {x x' : Option (List Piece)}
    (hx : ∀ ps, x = some ps → ps.map Piece.slot = slots ∧ ∀ p ∈ ps, p.Inert)
    (hx' : ∀ ps, x' = some ps → ps.map Piece.slot = slots ∧ ∀ p ∈ ps, p.Inert) :
    Alike (x >>= fun ps => pure (.line ps)) (x' >>= fun ps => pure (.line ps)) := by
  refine .bind fun ps ps' hps hps' => ?_
  obtain ⟨hslots, hinert⟩ := hx ps hps
  obtain ⟨hslots', hinert'⟩ := hx' ps' hps'
  apply Alike.line
  · rw [hslots, hslots']
  · rw [hslots]
    exact sound_of_standsAlone halone
  · exact hinert
  · exact hinert'

theorem alike_entries {f : Value → Option (List Piece)}
    (hf : ∀ v ps, f v = some ps → ps.map Piece.slot = slots ∧ ∀ p ∈ ps, p.Inert)
    {value value' : Value} (hentries : value.entries = value'.entries)
    {test : List Value → Prop} [DecidablePred test] (htest : ¬test []) :
    Alike (value.asList >>= fun values => guard (test values) >>= fun _ =>
        values.mapM f >>= fun blocks => pure (.line (joined " && " blocks)))
      (value'.asList >>= fun values => guard (test values) >>= fun _ =>
        values.mapM f >>= fun blocks => pure (.line (joined " && " blocks))) := by
  refine .bind fun values values' hvalues hvalues' => ?_
  rw [entries_of_asList hvalues, entries_of_asList hvalues'] at hentries
  refine .bind fun _ _ hne _ => ?_
  refine .bind fun blocks blocks' hblocks hblocks' => ?_
  obtain ⟨hslots, hinert⟩ := slots_mapM (fun _ => slots) hf hblocks
  obtain ⟨hslots', hinert'⟩ := slots_mapM (fun _ => slots) hf hblocks'
  rw [List.map_const'] at hslots hslots'
  apply Alike.joined
  · rw [hslots, hslots', hentries]
  · rintro rfl
    rw [List.map_nil, eq_comm, List.replicate_eq_nil_iff] at hslots
    rw [List.length_eq_zero_iff.mp hslots] at hne
    simp [guard, htest] at hne
  · intro ps hps
    have hmem : ps.map Piece.slot ∈ blocks.map (·.map Piece.slot) := List.mem_map_of_mem hps
    rw [hslots] at hmem
    rw [List.eq_of_mem_replicate hmem]
    exact halone
  · exact hinert
  · exact hinert'

end Entries

def poolPgNumSlots : List Slot :=
  [.text "ceph osd pool set ".toList, .quoted, .text " pg_num ".toList, .raw]

theorem slots_poolPgNum (h : poolPgNumPieces params = some ps) :
    ps.map Piece.slot = poolPgNumSlots ∧ ∀ p ∈ ps, p.Inert := by
  obtain ⟨poolName, -, h⟩ := Option.bind_eq_some_iff.mp h
  obtain ⟨pgNum, -, h⟩ := Option.bind_eq_some_iff.mp h
  cases h
  exact ⟨rfl, inert_of_noRaw rfl⟩

theorem alone_poolPgNum : standsAlone " && " poolPgNumSlots = true := by
  unfold poolPgNumSlots
  repeat rw [String.toList_ofList]
  decide

theorem alike_setPoolPgNum (h : variant params .setPoolPgNum = variant params' .setPoolPgNum) :
    Alike (setPoolPgNumCommand params) (setPoolPgNumCommand params') := by
  obtain ⟨hnull, hentries⟩ :
      (get params "adjustments").isNull = (get params' "adjustments").isNull ∧
        (get params "adjustments").entries = (get params' "adjustments").entries := by
    simpa [variant] using h
  unfold setPoolPgNumCommand
  rw [hnull]
  split_ifs
  · exact alike_one alone_poolPgNum (fun _ => slots_poolPgNum) (fun _ => slots_poolPgNum)
  · apply alike_entries alone_poolPgNum _ hentries (by simp)
    intro v ps hv
    cases v with
    | dict adjustment => exact slots_poolPgNum hv
    | _ => cases hv

def autoscalerSlots : List Slot :=
  [.text "ceph osd pool set ".toList, .quoted, .text " pg_autoscale_mode on".toList]

theorem alone_autoscaler : standsAlone " && " autoscalerSlots = true := by
  unfold autoscalerSlots
  repeat rw [String.toList_ofList]
  decide

theorem alike_enablePoolPgAutoscaler
    (h : variant params .enablePoolPgAutoscaler = variant params' .enablePoolPgAutoscaler) :
    Alike (enablePoolPgAutoscalerCommand params) (enablePoolPgAutoscalerCommand params') := by
  have hentries : (get params "pools").entries = (get params' "pools").entries := by
    simpa [variant] using h
  apply alike_entries alone_autoscaler _ hentries (by simp)
  intro v ps hv
  obtain ⟨name, -, hv⟩ := Option.bind_eq_some_iff.mp hv
  cases hv
  exact ⟨rfl, inert_of_noRaw rfl⟩

/-- The slots of one placement group's scrub. -/
def deepScrubSlots : List Slot := [.text "ceph pg ".toList, .quoted, .text " deep_scrub".toList]

theorem slots_deepScrub {value : Value} (h : deepScrubPieces value = some ps) :
    ps.map Piece.slot = deepScrubSlots ∧ ∀ p ∈ ps, p.Inert := by
  obtain ⟨pgId, -, h⟩ := Option.bind_eq_some_iff.mp h
  cases h
  exact ⟨rfl, inert_of_noRaw rfl⟩

theorem alone_deepScrub : standsAlone " && " deepScrubSlots = true := by
  unfold deepScrubSlots
  repeat rw [String.toList_ofList]
  decide

theorem alike_deepScrubOmapPg
    (h : variant params .deepScrubOmapPg = variant params' .deepScrubOmapPg) :
    Alike (deepScrubOmapPgCommand params) (deepScrubOmapPgCommand params') := by
  obtain ⟨hnull, hentries⟩ :
      (get params "pg_ids").isNull = (get params' "pg_ids").isNull ∧
        (get params "pg_ids").entries = (get params' "pg_ids").entries := by
    simpa [variant] using h
  unfold deepScrubOmapPgCommand
  rw [hnull]
  split_ifs
  · exact alike_one alone_deepScrub (fun _ => slots_deepScrub) (fun _ => slots_deepScrub)
  · exact alike_entries alone_deepScrub (fun _ _ => slots_deepScrub) hentries (by simp)

/-! ## File systems, gateways, buckets and OSDs -/

theorem alike_cephfsCreateSubvolume
    (h : variant params .cephfsCreateSubvolume = variant params' .cephfsCreateSubvolume) :
    Alike (cephfsCreateSubvolumeCommand params) (cephfsCreateSubvolumeCommand params') := by
  have hsize : (get params "size_gib").isNull = (get params' "size_gib").isNull := by
    simpa [variant] using h
  refine .bind fun fsName fsName' _ _ => ?_
  refine .bind fun subvolume subvolume' _ _ => ?_
  rw [hsize]
  split_ifs
  on_goal 2 => refine .bind fun sizeGib sizeGib' _ _ => ?_
  all_goals
    refine Alike.quotedLine rfl rfl rfl ?_
    simp only [List.map, Piece.slot, List.cons_append, List.nil_append, -String.reduceToList]
    repeat rw [String.toList_ofList]
    decide

theorem alike_nfsCreateExport
    (h : variant params .nfsCreateExport = variant params' .nfsCreateExport) :
    Alike (nfsCreateExportCommand params) (nfsCreateExportCommand params') := by
  obtain ⟨hsubvolume, hreadonly⟩ :
      (get params "subvolume").truthy = (get params' "subvolume").truthy ∧
        (get params "readonly").isTrue = (get params' "readonly").isTrue := by
    simpa [variant] using h
  refine .bind fun fsName fsName' _ _ => ?_
  refine .bind fun nfsId nfsId' _ _ => ?_
  refine .bind fun pseudoPath pseudoPath' _ _ => ?_
  rw [hsubvolume, hreadonly]
  -- four texts: a subvolume or a path, read-only or not
  cases (get params' "readonly").isTrue
  all_goals
    cases (get params' "subvolume").truthy
  all_goals
    refine .bind fun value value' _ _ => ?_
    refine Alike.quotedLine rfl rfl rfl ?_
    simp only [List.map, Piece.slot, List.cons_append, List.nil_append, if_true, if_false,
      Bool.false_eq_true, -String.reduceToList]
    repeat rw [String.toList_ofList]
    decide

theorem alike_reshardRgwBucket
    (h : variant params .reshardRgwBucket = variant params' .reshardRgwBucket) :
    Alike (reshardRgwBucketCommand params) (reshardRgwBucketCommand params') := by
  have hpg : (get params "pg_id").isNull = (get params' "pg_id").isNull := by
    simpa [variant] using h
  refine .bind fun bucket bucket' _ _ => ?_
  refine .bind fun _ _ _ _ => ?_
  refine .bind fun shards shards' _ _ => ?_
  rw [hpg]
  split_ifs
  on_goal 2 => refine .bind fun pgId pgId' _ _ => ?_
  all_goals
    refine Alike.quotedLine rfl rfl rfl ?_
    simp only [List.map, Piece.slot, List.cons_append, List.nil_append, -String.reduceToList]
    repeat rw [String.toList_ofList]
    decide

theorem alike_markOsd {verb : String} (hverb : verb ∈ ["out", "in", "down"])
    (params params' : Params) :
    Alike (markOsdCommand verb params) (markOsdCommand verb params') := by
  refine .bind fun osdId osdId' _ _ => ?_
  refine Alike.quotedLine rfl rfl rfl ?_
  simp only [List.mem_cons, List.not_mem_nil, or_false] at hverb
  rcases hverb with rfl | rfl | rfl
  all_goals
    simp only [List.map, Piece.slot, -String.reduceToList]
    repeat rw [String.toList_ofList]
    decide

theorem inert_mask {mask : String} (h : bluestoreSlowOpsMask params = some mask) :
    InertText mask ∧ InertText (afterColon mask) := by
  obtain ⟨deviceClass, -, h⟩ := Option.bind_eq_some_iff.mp h
  obtain ⟨_, hclass, h⟩ := Option.bind_eq_some_iff.mp h
  cases h
  have hmem : deviceClass ∈ bluestoreDeviceClasses := by
    by_contra hnot
    simp [guard, hnot] at hclass
  simp only [bluestoreDeviceClasses, List.mem_cons, List.not_mem_nil, or_false] at hmem
  rcases hmem with rfl | rfl | rfl
  · exact ⟨inertText_of_all (by decide), inertText_of_all (by decide)⟩
  · exact ⟨inertText_of_all (by decide), inertText_of_all (by decide)⟩
  · exact ⟨inertText_of_all (by decide), inertText_of_all (by decide)⟩

set_option maxRecDepth 4000 in
theorem alike_tuneBluestoreSlowOpsWarn (params params' : Params) :
    Alike (tuneBluestoreSlowOpsWarnCommand params) (tuneBluestoreSlowOpsWarnCommand params') := by
  refine .bind fun mask mask' hmask hmask' => ?_
  refine .bind fun threshold threshold' _ _ => ?_
  refine .bind fun lifetime lifetime' _ _ => ?_
  refine Alike.line rfl ?_ (by simp [Piece.Inert, inert_mask hmask])
    (by simp [Piece.Inert, inert_mask hmask'])
  simp only [List.map, Piece.slot, -String.reduceToList]
  repeat rw [String.toList_ofList]
  decide

/-! ## Block images -/

def qosSlots (option : String × Int × Int) : List Slot :=
  [.text "rbd config image set ".toList, .quoted, .text " ".toList, .text option.1.toList,
    .text " ".toList, .raw]

theorem slots_qos {spec : String} {option : String × Int × Int}
    (h : rbdQosPieces spec params option = some ps) :
    ps.map Piece.slot = qosSlots option ∧ ∀ p ∈ ps, p.Inert := by
  unfold rbdQosPieces at h
  cases hvalue : (params.lookup option.1).getD (.int 0) with
  | int value =>
    simp only [hvalue] at h
    split_ifs at h
    cases h
    exact ⟨rfl, inert_of_noRaw rfl⟩
  | _ => simp [hvalue] at h

theorem alone_qos : ∀ option ∈ rbdQosOptions, standsAlone " && " (qosSlots option) = true := by
  unfold qosSlots
  repeat rw [String.toList_ofList]
  decide

theorem alone_qosList :
    standsAlone " && " [.text "rbd config image list ".toList, .quoted,
      .text " --format json".toList] = true := by
  repeat rw [String.toList_ofList]
  decide

theorem alike_rbdQosSet (params params' : Params) :
    Alike (rbdQosSetCommand params) (rbdQosSetCommand params') := by
  refine .bind fun pool pool' _ _ => ?_
  refine .bind fun image image' _ _ => ?_
  refine .bind fun blocks blocks' hblocks hblocks' => ?_
  obtain ⟨hslots, hinert⟩ := slots_mapM qosSlots (fun _ _ h => slots_qos h) hblocks
  obtain ⟨hslots', hinert'⟩ := slots_mapM qosSlots (fun _ _ h => slots_qos h) hblocks'
  have hlast : ∀ spec : String, ∀ p ∈ [Piece.text "rbd config image list ", .quoted spec,
      .text " --format json"], p.Inert := fun spec => inert_of_noRaw rfl
  apply Alike.joined
  · rw [List.map_append, List.map_append, hslots, hslots']
    rfl
  · exact List.append_ne_nil_of_right_ne_nil _ (List.cons_ne_nil _ _)
  · intro ps hps
    rcases List.mem_append.mp hps with hps | hps
    · have hmem : ps.map Piece.slot ∈ blocks.map (·.map Piece.slot) := List.mem_map_of_mem hps
      rw [hslots] at hmem
      obtain ⟨option, hoption, hsame⟩ := List.mem_map.mp hmem
      rw [← hsame]
      exact alone_qos option hoption
    · rw [List.mem_singleton.mp hps]
      exact alone_qosList
  · intro ps hps
    rcases List.mem_append.mp hps with hps | hps
    · exact hinert ps hps
    · rw [List.mem_singleton.mp hps]
      exact hlast _
  · intro ps hps
    rcases List.mem_append.mp hps with hps | hps
    · exact hinert' ps hps
    · rw [List.mem_singleton.mp hps]
      exact hlast _

theorem length_mapM {α β : Type} {f : α → Option β} {values : List α} {out : List β}
    (h : values.mapM f = some out) : out.length = values.length := by
  induction values generalizing out with
  | nil =>
    cases h
    rfl
  | cons a values ih =>
    rw [List.mapM_cons] at h
    obtain ⟨b, -, h⟩ := Option.bind_eq_some_iff.mp h
    obtain ⟨rest, hrest, h⟩ := Option.bind_eq_some_iff.mp h
    cases h
    rw [List.length_cons, ih hrest, List.length_cons]

def trashSlots : List Slot :=
  [.text "rbd trash rm ".toList, .quoted, .text "/".toList, .quoted]

theorem alone_trash : standsAlone "\n" trashSlots = true := by
  unfold trashSlots
  repeat rw [String.toList_ofList]
  decide

theorem alike_rbdTrashPurgeAll
    (h : variant params .rbdTrashPurgeAll = variant params' .rbdTrashPurgeAll) :
    Alike (rbdTrashPurgeAllCommand params) (rbdTrashPurgeAllCommand params') := by
  have hentries : (get params "trash_ids").entries = (get params' "trash_ids").entries := by
    simpa [variant] using h
  refine .bind fun pool pool' _ _ => ?_
  refine .bind fun values values' hvalues hvalues' => ?_
  rw [entries_of_asList hvalues, entries_of_asList hvalues'] at hentries
  refine .bind fun _ _ hne _ => ?_
  refine .bind fun ids ids' hids hids' => ?_
  refine .bind fun _ _ _ _ => ?_
  have hlen := length_mapM hids
  have hlen' := length_mapM hids'
  have hslots : ∀ (pool : String) (ids : List String),
      (ids.map fun trashId => [Piece.text "rbd trash rm ", .quoted pool, .text "/",
        .quoted trashId]).map (·.map Piece.slot) = List.replicate ids.length trashSlots := by
    intro pool ids
    rw [List.eq_replicate_iff]
    refine ⟨by simp, ?_⟩
    intro ss hss
    obtain ⟨ps, hps, rfl⟩ := List.mem_map.mp hss
    obtain ⟨trashId, -, rfl⟩ := List.mem_map.mp hps
    rfl
  have hinert : ∀ (pool : String) (ids : List String), ∀ ps ∈ ids.map fun trashId =>
      [Piece.text "rbd trash rm ", .quoted pool, .text "/", .quoted trashId],
      ∀ p ∈ ps, p.Inert := by
    intro pool ids ps hps
    obtain ⟨trashId, -, rfl⟩ := List.mem_map.mp hps
    exact inert_of_noRaw rfl
  apply Alike.joined
  · rw [hslots, hslots, hlen, hlen', hentries]
  · intro hnil
    have hids : ids = [] := List.map_eq_nil_iff.mp hnil
    have hempty : values = [] := by
      rw [hids] at hlen
      exact List.length_eq_zero_iff.mp hlen.symm
    subst hempty
    cases hne
  · intro ps hps
    obtain ⟨trashId, -, rfl⟩ := List.mem_map.mp hps
    exact alone_trash
  · exact hinert pool ids
  · exact hinert pool' ids'

/-! ## Scripts for another shell -/

theorem alike_sh {script script' : Command} (h : Alike (pure script) (pure script')) :
    Alike (pure (.shell [.text "sh -c "] script)) (pure (.shell [.text "sh -c "] script')) := by
  refine Alike.shell rfl rfl rfl ?_ h
  simp only [List.map, Piece.slot, List.cons_append, List.nil_append, -String.reduceToList]
  repeat rw [String.toList_ofList]
  decide

set_option maxRecDepth 8000 in
theorem alike_rbdMoveVolume (params params' : Params) :
    Alike (rbdMoveVolumeCommand params) (rbdMoveVolumeCommand params') := by
  refine .bind fun pool pool' _ _ => ?_
  refine .bind fun image image' _ _ => ?_
  refine .bind fun destPool destPool' _ _ => ?_
  refine .bind fun destImage destImage' hdest hdest' => ?_
  refine .bind fun _ _ _ _ => ?_
  refine .bind fun _ _ _ _ => ?_
  refine .bind fun sizeBytes sizeBytes' _ _ => ?_
  refine .bind fun _ _ _ _ => ?_
  refine .bind fun checksum checksum' _ _ => ?_
  refine .bind fun _ _ _ _ => ?_
  refine .bind fun moveToken moveToken' _ _ => ?_
  have hraw := inert_rbdImage (requireStr_eq hdest).2
  have hraw' := inert_rbdImage (requireStr_eq hdest').2
  apply alike_sh
  apply Alike.line
  · rfl
  · simp only [List.map, Piece.slot, -String.reduceToList]
    repeat rw [String.toList_ofList]
    decide
  · simp [Piece.Inert, hraw]
  · simp [Piece.Inert, hraw']

set_option maxRecDepth 8000 in
theorem alike_rbdMoveCleanupPartial (params params' : Params) :
    Alike (rbdMoveCleanupPartialCommand params) (rbdMoveCleanupPartialCommand params') := by
  refine .bind fun pool pool' _ _ => ?_
  refine .bind fun image image' _ _ => ?_
  refine .bind fun destPool destPool' _ _ => ?_
  refine .bind fun destImage destImage' hdest hdest' => ?_
  refine .bind fun _ _ _ _ => ?_
  refine .bind fun sizeBytes sizeBytes' _ _ => ?_
  refine .bind fun _ _ _ _ => ?_
  refine .bind fun checksum checksum' _ _ => ?_
  refine .bind fun _ _ _ _ => ?_
  refine .bind fun moveToken moveToken' _ _ => ?_
  have hraw := inert_rbdImage (requireStr_eq hdest).2
  have hraw' := inert_rbdImage (requireStr_eq hdest').2
  apply alike_sh
  apply Alike.line
  · rfl
  · simp only [List.map, Piece.slot, -String.reduceToList]
    repeat rw [String.toList_ofList]
    decide
  · simp [Piece.Inert, hraw]
  · simp [Piece.Inert, hraw']

set_option maxRecDepth 4000 in
theorem alike_cinderAttachment (operation : String) (params params' : Params) :
    Alike (cinderAttachmentCommand params operation)
      (cinderAttachmentCommand params' operation) := by
  refine .bind fun volumeId volumeId' _ _ => ?_
  refine .bind fun serverId serverId' _ _ => ?_
  refine .bind fun openrcPath openrcPath' _ _ => ?_
  apply alike_sh
  refine Alike.quotedLine rfl rfl rfl ?_
  generalize hverb : (if operation = "attach" then "add" else "remove") = verb
  have hverbs : verb = "add" ∨ verb = "remove" := by
    rw [← hverb]
    split_ifs
    · exact Or.inl rfl
    · exact Or.inr rfl
  rcases hverbs with rfl | rfl
  all_goals
    simp only [List.map, Piece.slot, -String.reduceToList]
    repeat rw [String.toList_ofList]
    decide

set_option maxRecDepth 4000 in
theorem alike_cinderCreateSnapshot
    (h : variant params .cinderCreateSnapshot = variant params' .cinderCreateSnapshot) :
    Alike (cinderCreateSnapshotCommand params) (cinderCreateSnapshotCommand params') := by
  have hforce : (get params "force").isTrue = (get params' "force").isTrue := by
    simpa [variant] using h
  refine .bind fun volumeId volumeId' _ _ => ?_
  refine .bind fun snapshotName snapshotName' _ _ => ?_
  refine .bind fun openrcPath openrcPath' _ _ => ?_
  rw [hforce]
  apply alike_sh
  cases (get params' "force").isTrue
  all_goals
    refine Alike.quotedLine rfl rfl rfl ?_
    simp only [List.map, Piece.slot, List.cons_append, List.nil_append, if_true, if_false,
      Bool.false_eq_true, -String.reduceToList]
    repeat rw [String.toList_ofList]
    decide

set_option maxRecDepth 4000 in
theorem alike_cinderDeleteSnapshot (params params' : Params) :
    Alike (cinderDeleteSnapshotCommand params) (cinderDeleteSnapshotCommand params') := by
  refine .bind fun _ _ _ _ => ?_
  refine .bind fun snapshotId snapshotId' hid hid' => ?_
  refine .bind fun openrcPath openrcPath' _ _ => ?_
  have hraw := inert_uuid (requireStr_eq hid).2
  have hraw' := inert_uuid (requireStr_eq hid').2
  apply alike_sh
  refine Alike.line rfl ?_ (by simp [Piece.Inert, hraw]) (by simp [Piece.Inert, hraw'])
  simp only [List.map, Piece.slot, -String.reduceToList]
  repeat rw [String.toList_ofList]
  decide

/-! ## Upgrades -/

set_option maxRecDepth 4000 in
theorem alike_upgradeCephCluster (site : Site) (params params' : Params) :
    Alike (upgradeCephClusterCommand site params) (upgradeCephClusterCommand site params') := by
  refine .bind fun targetVersion targetVersion' _ _ => ?_
  refine .bind fun _ _ _ _ => ?_
  refine Alike.shell rfl rfl rfl ?_ (Alike.quotedLine rfl rfl rfl ?_)
  · simp only [List.map, Piece.slot, List.cons_append, List.nil_append, -String.reduceToList]
    repeat rw [String.toList_ofList]
    decide
  · simp only [List.map, Piece.slot, -String.reduceToList]
    repeat rw [String.toList_ofList]
    decide

def restartSlots : List Slot :=
  [.text "(systemctl reset-failed ".toList, .quoted,
    .text " 2>/dev/null; systemctl restart ".toList, .quoted, .text ")".toList]

set_option maxRecDepth 4000 in
theorem alone_restart : standsAlone " && " restartSlots = true := by
  unfold restartSlots
  repeat rw [String.toList_ofList]
  decide

theorem alike_install {install install' : List Piece}
    (hslots : install.map Piece.slot = install'.map Piece.slot)
    (halone : standsAlone " && " (install.map Piece.slot) = true) (hinert : ∀ p ∈ install, p.Inert)
    (hinert' : ∀ p ∈ install', p.Inert) (names : List String) :
    Alike
      (match restartUnits names with
        | none => pure (.line install)
        | some restart => pure (.line (install ++ [.text " && "] ++ restart)))
      (match restartUnits names with
        | none => pure (.line install')
        | some restart => pure (.line (install' ++ [.text " && "] ++ restart))) := by
  cases names with
  | nil => exact Alike.line hslots (sound_of_standsAlone halone) hinert hinert'
  | cons name names =>
    have hjoin : ∀ ps : List Piece,
        ps ++ [.text " && "] ++ joined " && " ((name :: names).map restartPieces) =
          joined " && " (ps :: (name :: names).map restartPieces) := by
      intro ps
      rw [List.append_assoc]
      rfl
    have hrestart : ∀ ps ∈ (name :: names).map restartPieces,
        ps.map Piece.slot = restartSlots ∧ ∀ p ∈ ps, p.Inert := by
      intro ps hps
      obtain ⟨unit, -, rfl⟩ := List.mem_map.mp hps
      exact ⟨rfl, inert_of_noRaw rfl⟩
    show Alike
      (pure (.line (install ++ [.text " && "] ++
        joined " && " ((name :: names).map restartPieces))))
      (pure (.line (install' ++ [.text " && "] ++
        joined " && " ((name :: names).map restartPieces))))
    rw [hjoin, hjoin]
    apply Alike.joined
    · simp only [List.map_cons, hslots]
    · exact List.cons_ne_nil _ _
    · intro ps hps
      rcases List.mem_cons.mp hps with rfl | hps
      · exact halone
      · rw [(hrestart ps hps).1]
        exact alone_restart
    · intro ps hps
      rcases List.mem_cons.mp hps with rfl | hps
      · exact hinert
      · exact (hrestart ps hps).2
    · intro ps hps
      rcases List.mem_cons.mp hps with rfl | hps
      · exact hinert'
      · exact (hrestart ps hps).2

theorem alike_restart (names : List String) :
    Alike ((restartUnits names).bind fun restart => pure (.line restart))
      ((restartUnits names).bind fun restart => pure (.line restart)) := by
  refine .bind fun restart restart' hrestart hrestart' => ?_
  rw [hrestart] at hrestart'
  cases hrestart'
  unfold restartUnits at hrestart
  split_ifs at hrestart with hnil
  cases hrestart
  have hblock : ∀ ps ∈ names.map restartPieces,
      ps.map Piece.slot = restartSlots ∧ ∀ p ∈ ps, p.Inert := by
    intro ps hps
    obtain ⟨unit, -, rfl⟩ := List.mem_map.mp hps
    exact ⟨rfl, inert_of_noRaw rfl⟩
  apply Alike.joined rfl
  · simpa using hnil
  · intro ps hps
    rw [(hblock ps hps).1]
    exact alone_restart
  · exact fun ps hps => (hblock ps hps).2
  · exact fun ps hps => (hblock ps hps).2

theorem alike_package (site : Site) (host : Option String)
    (hworker : workerKeys.map (get params) = workerKeys.map (get params'))
    {install install' : Option (List Piece)}
    (hinstall : isPhase params "restart_only" = false → ∀ ps ps', install = some ps →
      install' = some ps' → ps.map Piece.slot = ps'.map Piece.slot ∧
        standsAlone " && " (ps.map Piece.slot) = true ∧ (∀ p ∈ ps, p.Inert) ∧
        ∀ p ∈ ps', p.Inert) :
    Alike (packageCommand site host params install)
      (packageCommand site host params' install') := by
  simp only [workerKeys, List.map_cons, List.map_nil, List.cons.injEq, and_true] at hworker
  obtain ⟨hphase, htypes, huser, hkey⟩ := hworker
  refine .bind fun _ _ _ _ => ?_
  refine .bind fun host host' hhost hhost' => ?_
  cases hhost.symm.trans hhost'
  have hrestartOnly : isPhase params "restart_only" = isPhase params' "restart_only" := by
    rw [isPhase, isPhase, hphase]
  have hinstallOnly : isPhase params "install_only" = isPhase params' "install_only" := by
    rw [isPhase, isPhase, hphase]
  cases hcase : isPhase params "restart_only" with
  | true =>
    rw [← hrestartOnly, hcase, if_pos rfl]
    refine .bind fun restart restart' hrestart hrestart' => ?_
    have hsame : restartUnitsByType site host params =
        restartUnitsByType site host params' := by
      unfold restartUnitsByType
      rw [htypes, huser, hkey]
    rw [hsame, hrestart'] at hrestart
    cases hrestart
    obtain ⟨types, -, hrest⟩ := Option.bind_eq_some_iff.mp hrestart'
    obtain ⟨discovered, -, hrest⟩ := Option.bind_eq_some_iff.mp hrest
    obtain ⟨names, -, hnames⟩ := Option.bind_eq_some_iff.mp hrest
    have hunits := alike_restart names.flatten
    rw [hnames] at hunits
    exact hunits
  | false =>
    rw [← hrestartOnly, hcase]
    refine .bind fun ps ps' hps hps' => ?_
    obtain ⟨hslots, halone, hinert, hinert'⟩ := hinstall hcase ps ps' hps hps'
    rw [hinstallOnly]
    split_ifs
    · exact Alike.line hslots (sound_of_standsAlone halone) hinert hinert'
    · rw [huser, hkey]
      refine .bind fun discovered discovered' hdiscovered hdiscovered' => ?_
      rw [hdiscovered] at hdiscovered'
      cases hdiscovered'
      exact alike_install hslots halone hinert hinert' discovered.all

theorem slots_downloadText (repoPath rpmPackage repoPath' rpmPackage' : String) :
    (downloadText repoPath rpmPackage).map Piece.slot =
      (downloadText repoPath' rpmPackage').map Piece.slot := rfl

theorem inert_downloadText {repoPath rpmPackage : String} (hpath : InertText repoPath)
    (hpackage : InertText rpmPackage) : ∀ p ∈ downloadText repoPath rpmPackage, p.Inert := by
  simp [downloadText, packageManagerBranch, Piece.Inert, hpath, hpackage]

set_option maxRecDepth 4000 in
theorem alone_downloadText (repoPath rpmPackage : String) :
    standsAlone " && " ((downloadText repoPath rpmPackage).map Piece.slot) = true := by
  simp only [downloadText, packageManagerBranch, List.map, List.cons_append, List.nil_append,
    Piece.slot, -String.reduceToList]
  repeat rw [String.toList_ofList]
  decide

theorem inert_rpmPackage {repoPath version : String} (h : InertText version) :
    InertText (if repoPath ≠ version then "ceph-" ++ version else "ceph") := by
  split_ifs
  · refine ⟨by simp, ?_⟩
    intro c hc
    rw [String.toList_append, List.mem_append] at hc
    rcases hc with hc | hc
    · have hceph : "ceph-".toList.all inert = true := by decide
      exact List.all_eq_true.mp hceph c hc
    · exact h.2 c hc
  · exact inertText_of_all (by decide)

theorem downloadPieces_eq (h : downloadPieces params = some ps) :
    ∃ repoPath rpmPackage, ps = downloadText repoPath rpmPackage ∧
      (lineAt params "target_version" = false →
        InertText repoPath ∧ InertText rpmPackage) := by
  obtain ⟨targetVersion, hversion, h⟩ := Option.bind_eq_some_iff.mp h
  obtain ⟨_, -, h⟩ := Option.bind_eq_some_iff.mp h
  refine ⟨_, _, (Option.some.inj h).symm, ?_⟩
  intro hline
  obtain ⟨hvalue, htest⟩ := requireStr_eq hversion
  have hend : endsLine targetVersion = false := by
    simpa [lineAt, hvalue, Value.asStr] using hline
  have hinert := inert_targetVersion htest hend
  exact ⟨inert_repoPath hinert, inert_rpmPackage hinert⟩

theorem slots_local {ps' : List Piece} (h : localPieces params = some ps)
    (h' : localPieces params' = some ps') : ps.map Piece.slot = ps'.map Piece.slot := by
  obtain ⟨packageDir, -, h⟩ := Option.bind_eq_some_iff.mp h
  obtain ⟨packageDir', -, h'⟩ := Option.bind_eq_some_iff.mp h'
  cases h
  cases h'
  rfl

set_option maxRecDepth 4000 in
theorem local_alone (h : localPieces params = some ps)
    (hline : lineAt params "package_dir" = false) :
    (∀ p ∈ ps, p.Inert) ∧ standsAlone " && " (ps.map Piece.slot) = true := by
  obtain ⟨packageDir, hdir, h⟩ := Option.bind_eq_some_iff.mp h
  cases h
  obtain ⟨hvalue, htest⟩ := requireStr_eq hdir
  have hend : endsLine packageDir = false := by
    simpa [lineAt, hvalue, Value.asStr] using hline
  have hquoted := inert_packageDir htest hend
  constructor
  · intro p hp
    simp only [packageManagerBranch, List.mem_append, List.mem_cons, List.not_mem_nil,
      or_false] at hp
    cases p with
    | raw s =>
      simp only [Piece.raw.injEq, reduceCtorEq, false_or, or_false] at hp
      rw [hp]
      exact hquoted
    | _ => trivial
  · simp only [packageManagerBranch, List.map, List.cons_append, List.nil_append, Piece.slot,
      -String.reduceToList]
    repeat rw [String.toList_ofList]
    decide

theorem isPhase_of_worker (h : workerKeys.map (get params) = workerKeys.map (get params'))
    (phase : String) : isPhase params phase = isPhase params' phase := by
  simp only [workerKeys, List.map_cons, List.cons.injEq] at h
  rw [isPhase, isPhase, h.1]

theorem alike_packageDownload (site : Site) (host : Option String)
    (h : variant params .upgradeCephClusterPackageDownload =
      variant params' .upgradeCephClusterPackageDownload)
    (hline : pastesLine params .upgradeCephClusterPackageDownload = false)
    (hline' : pastesLine params' .upgradeCephClusterPackageDownload = false) :
    Alike (upgradeCephClusterPackageDownloadCommand site host params)
      (upgradeCephClusterPackageDownloadCommand site host params') := by
  have hworker : workerKeys.map (get params) = workerKeys.map (get params') := by
    simpa only [variant, Variant.mk.injEq, true_and] using h
  apply alike_package site host hworker
  intro hphase ps ps' hps hps'
  have hphase' := (isPhase_of_worker hworker "restart_only").symm.trans hphase
  simp only [pastesLine, hphase, Bool.not_false, Bool.true_and] at hline
  simp only [pastesLine, hphase', Bool.not_false, Bool.true_and] at hline'
  obtain ⟨repoPath, rpmPackage, rfl, hinert⟩ := downloadPieces_eq hps
  obtain ⟨repoPath', rpmPackage', rfl, hinert'⟩ := downloadPieces_eq hps'
  obtain ⟨hpath, hpackage⟩ := hinert hline
  obtain ⟨hpath', hpackage'⟩ := hinert' hline'
  exact ⟨slots_downloadText _ _ _ _, alone_downloadText _ _,
    inert_downloadText hpath hpackage, inert_downloadText hpath' hpackage'⟩

theorem alike_packageLocal (site : Site) (host : Option String)
    (h : variant params .upgradeCephClusterPackageLocal =
      variant params' .upgradeCephClusterPackageLocal)
    (hline : pastesLine params .upgradeCephClusterPackageLocal = false)
    (hline' : pastesLine params' .upgradeCephClusterPackageLocal = false) :
    Alike (upgradeCephClusterPackageLocalCommand site host params)
      (upgradeCephClusterPackageLocalCommand site host params') := by
  have hworker : workerKeys.map (get params) = workerKeys.map (get params') := by
    simpa only [variant, Variant.mk.injEq, true_and] using h
  apply alike_package site host hworker
  intro hphase ps ps' hps hps'
  have hphase' := (isPhase_of_worker hworker "restart_only").symm.trans hphase
  simp only [pastesLine, hphase, Bool.not_false, Bool.true_and] at hline
  simp only [pastesLine, hphase', Bool.not_false, Bool.true_and] at hline'
  obtain ⟨hinert, halone⟩ := local_alone hps hline
  exact ⟨slots_local hps hps', halone, hinert, (local_alone hps' hline').1⟩

/-! ## `get_command` -/

set_option maxRecDepth 4000 in
/-- **Every builder builds alike within one variant.** -/
theorem alike_builder (site : Site) (host : Option String) {action : CommandAction}
    (hnode : action ≠ .executeNodeCommand) (h : variant params action = variant params' action)
    (hline : pastesLine params action = false) (hline' : pastesLine params' action = false) :
    Alike (builder site host params action) (builder site host params' action) := by
  cases action with
  | editPool | scrubPool | deletePool | setPoolSize | enablePoolApplication | cephfsCreateVolume
  | nfsCreateCluster | nfsDeleteExport | rgwApplyService | finalizePacificOsdRelease
  | rbdTrashRemove | rbdCreateVolume | rbdResizeVolume | rbdRenameVolume | rbdCloneVolume
  | rbdCopyVolume | rbdFlattenVolume | rbdTemplateMark | rbdTrashMoveVolume
  | rbdTrashRestoreVolume =>
    -- required parameters, each in its place of one text
    repeat refine .bind fun _ _ _ _ => ?_
    refine Alike.quotedLine rfl rfl rfl ?_
    simp only [List.map, Piece.slot, -String.reduceToList]
    repeat rw [String.toList_ofList]
    decide
  | tuneBluestoreSlowOpsWarn => exact alike_tuneBluestoreSlowOpsWarn params params'
  | setPoolProtection => exact alike_setPoolProtection params params'
  | executeNodeCommand => exact absurd rfl hnode
  | createPool => exact alike_createPool h
  | cephfsCreateSubvolume => exact alike_cephfsCreateSubvolume h
  | nfsCreateExport => exact alike_nfsCreateExport h
  | setPoolPgNum => exact alike_setPoolPgNum h
  | enablePoolPgAutoscaler => exact alike_enablePoolPgAutoscaler h
  | reshardRgwBucket => exact alike_reshardRgwBucket h
  | deepScrubOmapPg => exact alike_deepScrubOmapPg h
  | markOsdOut => exact alike_markOsd (by simp) params params'
  | markOsdIn => exact alike_markOsd (by simp) params params'
  | markOsdDown => exact alike_markOsd (by simp) params params'
  | rbdMoveVolume => exact alike_rbdMoveVolume params params'
  | rbdMoveCleanupPartial => exact alike_rbdMoveCleanupPartial params params'
  | rbdQosSet => exact alike_rbdQosSet params params'
  | rbdTrashPurgeAll => exact alike_rbdTrashPurgeAll h
  | cinderAttachVolume => exact alike_cinderAttachment "attach" params params'
  | cinderDetachVolume => exact alike_cinderAttachment "detach" params params'
  | cinderCreateSnapshot => exact alike_cinderCreateSnapshot h
  | cinderDeleteSnapshot => exact alike_cinderDeleteSnapshot params params'
  | upgradeCephCluster => exact alike_upgradeCephCluster site params params'
  | upgradeCephClusterPackageDownload => exact alike_packageDownload site host h hline hline'
  | upgradeCephClusterPackageLocal => exact alike_packageLocal site host h hline hline'

theorem alike_wrap {c c' : Command} (h : Alike (pure c) (pure c'))
    (execMode containerName : String) :
    Alike (wrapCephRuntimeCommand c execMode containerName)
      (wrapCephRuntimeCommand c' execMode containerName) := by
  unfold wrapCephRuntimeCommand
  split_ifs with hnone hcephadm hcontainer hname hdocker
  · exact h
  · refine Alike.shell rfl rfl rfl ?_ h
    simp only [List.map, Piece.slot, List.cons_append, List.nil_append, -String.reduceToList]
    repeat rw [String.toList_ofList]
    decide
  · exact Alike.none _
  · refine Alike.shell rfl rfl rfl ?_ h
    simp only [List.map, Piece.slot, List.cons_append, List.nil_append, -String.reduceToList]
    repeat rw [String.toList_ofList]
    decide
  · refine Alike.shell rfl rfl rfl ?_ h
    simp only [List.map, Piece.slot, List.cons_append, List.nil_append, -String.reduceToList]
    repeat rw [String.toList_ofList]
    decide
  · exact Alike.none _

theorem alike_getCommand (site : Site) (host : Option String) {action : CommandAction}
    (hnode : action ≠ .executeNodeCommand) (h : variant params action = variant params' action)
    (hline : pastesLine params action = false) (hline' : pastesLine params' action = false)
    (execMode : Option String) (containerName : String) :
    Alike (getCommand site action host params execMode containerName)
      (getCommand site action host params' execMode containerName) := by
  refine .bind fun _ _ _ _ => ?_
  refine .bind fun c c' hc hc' => ?_
  have hbuilt : Alike (pure c) (pure c') := by
    have hbuilder := alike_builder site host hnode h hline hline'
    rw [hc, hc'] at hbuilder
    exact hbuilder
  cases execMode with
  | none => exact hbuilt
  | some execMode =>
    show Alike (if cephRuntimeAction action then _ else _)
      (if cephRuntimeAction action then _ else _)
    split_ifs
    · exact alike_wrap hbuilt execMode containerName
    · exact hbuilt

/-- **Parameters do not change the structure of a command.**  Two accepted
assignments that ask for the same variant give commands in which every shell
finds the same commands, operators, words and expansions, up to the words that
carry the parameters. -/
theorem structure_fixed (site : Site) (host : Option String) (action : CommandAction)
    (hnode : action ≠ .executeNodeCommand) (params params' : Params)
    (h : variant params action = variant params' action) (hline : pastesLine params action = false)
    (hline' : pastesLine params' action = false) (execMode : Option String) (containerName : String)
    (c c' : Command) (hc : getCommand site action host params execMode containerName = some c)
    (hc' : getCommand site action host params' execMode containerName = some c') :
    c.reading = c'.reading ∧ c.reading.isSome = true :=
  (alike_getCommand site host hnode h hline hline' execMode containerName).reading hc hc'

/-- A site without orchestrator, whose host runs no Ceph unit. -/
def plainSite : Site := ⟨"none", fun _ _ _ => some ⟨[], [], [], [], []⟩⟩

/-- A template's parameters, with any description. -/
def templateParams (description : String) : Params :=
  [("pool_name", .str "p"), ("image", .str "i"), ("snapshot", .str "s"),
    ("template_name", .str "t"), ("description", .str description)]

/-- A description that tries to end the command is a part of one word, inside
the container's shell as well. -/
theorem structure_fixed_description :
    ∃ c c', getCommand plainSite .rbdTemplateMark none (templateParams "") (some "cephadm") "" =
        some c ∧
      getCommand plainSite .rbdTemplateMark none (templateParams "a'; reboot #")
        (some "cephadm") "" = some c' ∧
      c.reading = c'.reading ∧ c.reading.isSome = true := by
  have hsome : (getCommand plainSite .rbdTemplateMark none (templateParams "")
        (some "cephadm") "").isSome = true ∧
      (getCommand plainSite .rbdTemplateMark none (templateParams "a'; reboot #")
        (some "cephadm") "").isSome = true := by decide +kernel
  obtain ⟨c, hc⟩ := Option.isSome_iff_exists.mp hsome.1
  obtain ⟨c', hc'⟩ := Option.isSome_iff_exists.mp hsome.2
  exact ⟨c, c', hc, hc', structure_fixed plainSite none .rbdTemplateMark (by decide)
    (templateParams "") (templateParams "a'; reboot #") rfl rfl rfl (some "cephadm") "" c c'
    hc hc'⟩

/-- A pool's parameters, with and without an application. -/
def poolParams (app : List (String × Value)) : Params :=
  [("pool_name", .str "p"), ("pg_num", .int 8)] ++ app

/-- The parameters of an upgrade from a directory, to install only. -/
def packageParams (dir : String) : Params :=
  [("package_dir", .str dir), ("_phase", .str "install_only")]

theorem reading_ne {x y : Option Command}
    (h : (x.isSome && y.isSome && x.bind Command.reading != y.bind Command.reading) = true) :
    ∃ c c', x = some c ∧ y = some c' ∧ c.reading ≠ c'.reading := by
  simp only [Bool.and_eq_true, bne_iff_ne] at h
  obtain ⟨⟨hx, hy⟩, hne⟩ := h
  obtain ⟨c, rfl⟩ := Option.isSome_iff_exists.mp hx
  obtain ⟨c', rfl⟩ := Option.isSome_iff_exists.mp hy
  exact ⟨c, c', rfl, rfl, hne⟩

/-- A pool's application asks for one command more.  A directory that ends in a
line break is accepted too, and closes the quotation that it is pasted in. -/
theorem structure_differs :
    (∃ c c', getCommand plainSite .createPool none (poolParams []) none "" = some c ∧
      getCommand plainSite .createPool none (poolParams [("app_name", .str "rbd")]) none "" =
        some c' ∧ c.reading ≠ c'.reading) ∧
    ∃ c c', getCommand plainSite .upgradeCephClusterPackageLocal (some "h") (packageParams "/p")
        none "" = some c ∧
      getCommand plainSite .upgradeCephClusterPackageLocal (some "h") (packageParams "/p\n")
        none "" = some c' ∧ c.reading ≠ c'.reading := by
  constructor
  · apply reading_ne
    decide +kernel
  · apply reading_ne
    decide +kernel

end CephAi.Ports.CommandStructure
