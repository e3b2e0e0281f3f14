import Mathlib.Data.List.Infix
import Mathlib.Data.List.Basic

/-!
# A git work tree

The head commit, the index and the files of a work tree, with what `git status
--porcelain`, `git diff --` and `git add --` make of them.  Rename detection, ignore
rules, patterns in path specifications and commit ids are parameters of `Git`.

## Main results

* `Git.get_add` — the index after `git add`.
* `begins_of_covers` — a path specification covers what begins like it.
-/

namespace CephAi.Verified.WorkTree

/-! ## Trees -/

/-- Files by path, a path once. -/
abbrev Tree := List (String × String)

/-- The file at a path. -/
def Tree.get (t : Tree) (path : String) : Option String := t.lookup path

def Tree.paths (t : Tree) : List String := t.map Prod.fst

/-- The tree that has `f` at these paths. -/
def Tree.ofFn (paths : List String) (f : String → Option String) : Tree :=
  paths.filterMap fun path => (f path).map fun file => (path, file)

theorem Tree.get_ofFn (f : String → Option String) (path : String) :
    ∀ paths : List String, (Tree.ofFn paths f).get path = if path ∈ paths then f path else none := by
  intro paths
  induction paths with
  | nil => rfl
  | cons q paths ih =>
    unfold Tree.get Tree.ofFn at ih ⊢
    by_cases hq : path = q
    · subst hq
      rw [if_pos List.mem_cons_self]
      cases hf : f path with
      | none =>
        rw [List.filterMap_cons_none (by rw [hf]; rfl), ih]
        split_ifs
        · exact hf
        · rfl
      | some file =>
        rw [List.filterMap_cons_some (by rw [hf]; rfl), List.lookup_cons_self]
    · have hmem : path ∈ q :: paths ↔ path ∈ paths := by
        rw [List.mem_cons]
        exact or_iff_right hq
      rw [if_congr hmem rfl rfl, ← ih]
      cases hf : f q with
      | none => rw [List.filterMap_cons_none (by rw [hf]; rfl)]
      | some file =>
        rw [List.filterMap_cons_some (by rw [hf]; rfl), List.lookup_cons]
        rw [beq_eq_false_iff_ne.mpr hq]

variable {path : String}

theorem Tree.mem_paths_of_get {t : Tree} {file : String} (h : t.get path = some file) :
    path ∈ t.paths := by
  induction t with
  | nil => cases h
  | cons q t ih =>
    unfold Tree.get at h ih
    rw [List.lookup_cons] at h
    unfold Tree.paths
    rw [List.map_cons]
    by_cases hq : path = q.1
    · rw [hq]
      exact List.mem_cons_self
    · rw [beq_eq_false_iff_ne.mpr hq] at h
      exact List.mem_cons_of_mem _ (ih h)

theorem Tree.get_eq_none_of_notMem {t : Tree} (h : path ∉ t.paths) : t.get path = none := by
  cases hget : t.get path with
  | none => rfl
  | some file => exact absurd (Tree.mem_paths_of_get hget) h

/-! ## Paths -/

/-- `str.startswith` -/
def begins (path start : String) : Bool := start.toList.isPrefixOf path.toList

theorem begins_iff (path start : String) :
    begins path start = true ↔ start.toList <+: path.toList := by
  unfold begins
  exact List.isPrefixOf_iff_prefix

theorem begins_trans {a b c : String} (hab : begins a b = true) (hbc : begins b c = true) :
    begins a c = true := by
  rw [begins_iff] at *
  exact hbc.trans hab

/-- The directories of a path, the outermost first. -/
def directories (path : String) : List String :=
  (path.toList.inits.filter fun q => q.getLast? == some '/').map String.ofList

/-- Characters that are written as they are. -/
def plainChar (c : Char) : Bool := '!' ≤ c && c ≤ '~' && c != '"' && c != '\\'

/-- How a path is written: in quotes when it is not plain.  The escapes inside the quotes
are left out. -/
def quote (path : String) : String :=
  if path.toList.all plainChar then path else "\"" ++ path ++ "\""

/-- Characters that make a path specification a pattern. -/
def patternChar (c : Char) : Bool := c == '*' || c == '?' || c == '[' || c == '\\'

/-! ## The work tree -/

/-- A commit: its id and its tree. -/
structure Commit where
  revision : String
  tree : Tree
deriving DecidableEq, Repr

/-- The head commit, the index, and the files. -/
structure Repo where
  head : Commit
  index : Tree
  work : Tree
deriving DecidableEq, Repr

/-- What git decides by heuristics, rules and hashes.  A pattern matches only what begins
like its part before the first pattern character. -/
structure Git where
  renames : Tree → Tree → List (String × String)
  ignored : Tree → String → Bool
  glob : String → String → Bool
  commitId : Commit → Tree → String
  glob_literal : ∀ spec path start, glob spec path = true → begins spec start = true →
    start.toList.all (fun c => !patternChar c) = true → begins path start = true

variable (g : Git)

/-- A path specification covers a path: the path itself, a directory of it, or a pattern. -/
def Git.covers (spec path : String) : Bool :=
  path == spec || begins path (spec ++ "/") ||
    (spec.toList.getLast? == some '/' && begins path spec) || g.glob spec path

theorem begins_of_covers {spec start : String} (h : g.covers spec path = true)
    (hspec : begins spec start = true)
    (hstart : start.toList.all (fun c => !patternChar c) = true) : begins path start = true := by
  unfold Git.covers at h
  simp only [Bool.or_eq_true, Bool.and_eq_true, beq_iff_eq] at h
  rcases h with ((hsame | hbelow) | ⟨_, hbelow⟩) | hglob
  · exact hsame ▸ hspec
  · have hslash : begins (spec ++ "/") spec = true := by
      rw [begins_iff, String.toList_append]
      exact List.prefix_append _ _
    exact begins_trans hbelow (begins_trans hslash hspec)
  · exact begins_trans hbelow hspec
  · exact g.glob_literal spec path start hglob hspec hstart

/-- A line of `git status --porcelain`: its two letters, and the rest. -/
structure Line where
  code : String
  entry : String
deriving DecidableEq, Repr

/-- The letter of a change from the first file to the second. -/
def changeLetter (before after : Option String) : String :=
  if before = after then " "
  else if before = none then "A"
  else if after = none then "D"
  else "M"

/-- The letter of the file against the index. -/
def Repo.workLetter (r : Repo) (path : String) : String :=
  if r.index.get path = none then " " else changeLetter (r.index.get path) (r.work.get path)

/-- The staged renames. -/
def Git.renameLines (r : Repo) : List Line :=
  (g.renames r.head.tree r.index).map fun pair =>
    ⟨"R" ++ r.workLetter pair.2, quote pair.1 ++ " -> " ++ quote pair.2⟩

/-- The path is a side of a staged rename. -/
def Git.renamed (r : Repo) (path : String) : Bool :=
  (g.renames r.head.tree r.index).any fun pair => pair.1 == path || pair.2 == path

/-- The other changes of what is tracked. -/
def Git.trackedLines (r : Repo) : List Line :=
  ((r.head.tree.paths ++ r.index.paths).eraseDups.filter fun path => !g.renamed r path).filterMap
    fun path =>
      let code := changeLetter (r.head.tree.get path) (r.index.get path) ++ r.workLetter path
      if code = "  " then none else some ⟨code, quote path⟩

/-- An untracked path is shown as its outermost directory without tracked files. -/
def Repo.shown (r : Repo) (path : String) : String :=
  ((directories path).find? fun d => !r.index.paths.any (begins · d)).getD path

def Git.untrackedLines (r : Repo) : List Line :=
  ((r.work.paths.filter fun path => (r.index.get path).isNone && !g.ignored r.work path).map
    r.shown).eraseDups.map fun path => ⟨"??", quote path⟩

/-- `git status --porcelain`; the order of its lines is left out. -/
def Git.status (r : Repo) : List Line :=
  g.renameLines r ++ g.trackedLines r ++ g.untrackedLines r

def Git.diffPaths (r : Repo) (specs : List String) : List String :=
  r.index.paths.filter fun path =>
    specs.any (g.covers · path) && r.index.get path != r.work.get path

/-- `git add -- specs` takes this path from the files. -/
def Git.takes (r : Repo) (specs : List String) (path : String) : Bool :=
  specs.any (g.covers · path) && ((r.index.get path).isSome || !g.ignored r.work path)

/-- Every specification covers a path, without which `git add` fails. -/
def Git.addable (r : Repo) (specs : List String) : Bool :=
  specs.all fun spec => (r.index.paths ++ r.work.paths).any (g.takes r [spec])

def Git.add (r : Repo) (specs : List String) : Tree :=
  Tree.ofFn (r.index.paths ++ r.work.paths) fun path =>
    if g.takes r specs path then r.work.get path else r.index.get path

/-- **The index after `git add`.** -/
theorem Git.get_add (r : Repo) (specs : List String) (path : String) :
    (g.add r specs).get path =
      if g.takes r specs path then r.work.get path else r.index.get path := by
  unfold Git.add
  rw [Tree.get_ofFn]
  by_cases hmem : path ∈ r.index.paths ++ r.work.paths
  · rw [if_pos hmem]
  · rw [if_neg hmem]
    rw [List.mem_append, not_or] at hmem
    rw [Tree.get_eq_none_of_notMem hmem.1, Tree.get_eq_none_of_notMem hmem.2]
    split_ifs <;> rfl

theorem Git.mem_diffPaths {r : Repo} {specs : List String} (htracked : r.index.get path ≠ none)
    (hcovers : specs.any (g.covers · path) = true) (hdiffers : r.index.get path ≠ r.work.get path) :
    path ∈ g.diffPaths r specs := by
  obtain ⟨file, hfile⟩ := Option.ne_none_iff_exists'.mp htracked
  unfold Git.diffPaths
  rw [List.mem_filter]
  refine ⟨Tree.mem_paths_of_get hfile, ?_⟩
  rw [Bool.and_eq_true, bne_iff_ne]
  exact ⟨hcovers, hdiffers⟩

/-- `git commit`: the index becomes the tree of the new head. -/
def Git.commit (r : Repo) : Commit := ⟨g.commitId r.head r.index, r.index⟩

/-- There is something to commit. -/
def Repo.staged (r : Repo) : Bool :=
  (r.head.tree.paths ++ r.index.paths).any fun path =>
    r.head.tree.get path != r.index.get path

end CephAi.Verified.WorkTree
