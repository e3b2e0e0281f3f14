import CephAi.Verified.WorkTree

/-!
# The gate of the AI code repair

`run_repair` of `worker/code_repair.py`: the Implementer's turns, the gate
`_validate_changes` after each, the tests, the review rounds, and what is committed,
pushed, deployed and promoted.  Every process that runs in the candidate's work tree, the
AI, the tests and the Reviewer, is a `Turn` that may leave any head, index and files.

The gate looks at `git status` and at the files against the index; the commit has the
index, on top of whatever head there is.

## Main results

* `candidate_validated` — what the last gate established about a candidate.
* `published_inside_iff` — what is reported is inside the allowlist and without a
  credential exactly when what the gate did not see is.
* `published_own_commit` — a workflow that the Implementer commits itself.
-/

namespace CephAi.Ports.CodeRepair

open Verified.WorkTree

/-! ## Paths -/

def allowedPrefixes : List String :=
  ["config/", "dashboard/", "shared/", "tests/", "watcher/", "worker/"]

def forbiddenPrefixes : List String :=
  [".env", ".git", ".github/", ".codex", "alembic/versions/", "scripts/deploy/"]

/-- The path is under `ALLOWED_PREFIXES`. -/
def allowed (path : String) : Bool := allowedPrefixes.any (begins path)

/-- The path is under `FORBIDDEN_PREFIXES`. -/
def forbidden (path : String) : Bool := forbiddenPrefixes.any (begins path)

def changedTestFiles (files : List String) : List String :=
  files.filter fun path => begins path "tests/" && path.toList.reverse.take 3 == ['y', 'p', '.']

/-! ## The job -/

/-- `RepairConfig`, as far as the gate and what follows it read it. -/
structure RepairConfig where
  createCommit : Bool
  push : Bool
  deployStaging : Bool
  promoteMain : Bool
  fullAccess : Bool
  requireChangedTests : Bool
  allowNoChange : Bool
  maxAiAttempts : Int
  maxReviewRounds : Int
deriving DecidableEq, Repr

/-- A process in the work tree: what it leaves, its exit code, whether its output is an
infrastructure failure, and the verdict in it, `true` for PASS. -/
structure Turn where
  act : Repo → Repo
  returncode : Int
  infrastructure : Bool
  verdict : Option Bool

/-- What the Planner gives. -/
structure Planner where
  returncode : Int
  clean : Bool
  plan : Bool
  noChange : Bool
deriving DecidableEq, Repr

/-- A run of `run_repair`: the configuration, the base branch, the processes in the order
in which they are started, and the commands at the end.  `leaks` tells whether
`DIFF_SECRET_RE` is found in git's diff of one file, `coversRegression` what the patterns
of `_validate_proactive_test_changes` say of the diff of the tests, `skips` whether the
state file has the error as done or running. -/
structure Job where
  config : RepairConfig
  git : Git
  leaks : String → Option String → Option String → Bool
  coversRegression : Repo → List String → Bool
  skips : Bool
  planner : Planner
  base : Commit
  venv : String
  turn : Nat → Turn
  pushes : Bool
  deploys : Bool
  promotes : Bool

/-- `RepairError`, and the other ways to end before a candidate. -/
inductive Stop
  | duplicate
  | noChange
  | reviewOnlyCannotPush
  | reviewRoundsOutOfRange
  | plannerFailed
  | plannerNotReadOnly
  | noPlan
  | providerFailed
  | ownCommit
  | noPatch
  | outsideAllowlist (paths : List String)
  | credential
  | noRegressionTest
  | testsFailed
  | reviewerFailed
  | reviewerNotReadOnly
  | noVerdict
  | reviewExhausted
deriving DecidableEq, Repr

/-- The candidate: the work tree, how many processes have run in it, and what the last gate
saw. -/
structure Candidate where
  repo : Repo
  calls : Nat
  changedFiles : List String
  untracked : List String
  gated : Repo
deriving DecidableEq, Repr

/-- A process runs. -/
def Candidate.call (j : Job) (s : Candidate) : Candidate × Turn :=
  ({ s with repo := (j.turn s.calls).act s.repo, calls := s.calls + 1 }, j.turn s.calls)

/-! ## The gate -/

/-- The lines that `_validate_changes` keeps. -/
def Job.changedLines (j : Job) (r : Repo) : List Line :=
  (j.git.status r).filter fun line => line.entry != "" && line.entry != ".venv"

def Job.untrackedFiles (j : Job) (r : Repo) : List String :=
  ((j.changedLines r).filter fun line => line.code == "??").map Line.entry

/-- `DIFF_SECRET_RE` is found in `_candidate_diff`. -/
def Job.diffLeaks (j : Job) (r : Repo) (files : List String) : Bool :=
  (j.git.diffPaths r files).any (fun path => j.leaks path (r.index.get path) (r.work.get path)) ||
    (j.untrackedFiles r).any fun path => j.leaks path none (r.work.get path)

def Job.validateChanges (j : Job) (r : Repo) : Except Stop (List String) :=
  let files := (j.changedLines r).map Line.entry
  let invalid := files.filter fun path => !allowed path || forbidden path
  if files = [] then .error .noPatch
  else if !j.config.fullAccess && invalid ≠ [] then .error (.outsideAllowlist invalid)
  else if j.diffLeaks r files then .error .credential
  else .ok files

/-- What follows a turn of the Implementer: its exit code, `_ensure_uncommitted_candidate`,
`_validate_changes` and `_validate_proactive_test_changes`. -/
def Job.gate (j : Job) (s : Candidate) (t : Turn) : Except Stop Candidate :=
  if t.returncode ≠ 0 then .error .providerFailed
  else if !j.config.createCommit && s.repo.head.revision != j.base.revision then
    .error .ownCommit
  else
    match j.validateChanges s.repo with
    | .error e => .error e
    | .ok files =>
      if j.config.requireChangedTests &&
          (changedTestFiles files == [] || !j.coversRegression s.repo (changedTestFiles files)) then
        .error .noRegressionTest
      else .ok { s with
        changedFiles := files, untracked := j.untrackedFiles s.repo, gated := s.repo }

/-! ## Tests and reviews -/

/-- How the tests end. -/
inductive TestGate
  | passed (s : Candidate)
  | failed (s : Candidate)
  | infrastructure
deriving DecidableEq, Repr

def Job.regression (j : Job) (s : Candidate) : TestGate :=
  let (s, t) := s.call j
  if t.returncode = 0 then .passed s
  else if t.infrastructure then .infrastructure
  else .failed s

/-- The focused tests, if there are changed tests, and the regression gate. -/
def Job.tests (j : Job) (s : Candidate) : TestGate :=
  if changedTestFiles s.changedFiles = [] then j.regression s
  else
    let (s, t) := s.call j
    if t.returncode = 0 then j.regression s
    else if t.infrastructure then .infrastructure
    else .failed s

/-- The attempts of the Implementer. -/
def Job.attempts (j : Job) : Nat → Candidate → Except Stop Candidate
  | 0, _ => .error .testsFailed
  | left + 1, s =>
    let (s, t) := s.call j
    match j.gate s t with
    | .error e => .error e
    | .ok s =>
      match j.tests s with
      | .passed s => .ok s
      | .infrastructure => .error .testsFailed
      | .failed s => j.attempts left s

/-- The review rounds. -/
def Job.reviews (j : Job) : Nat → Candidate → Except Stop Candidate
  | 0, s => .ok s
  | left + 1, s =>
    let before := j.git.status s.repo
    let (s, t) := s.call j
    let after := j.git.status s.repo
    if t.returncode ≠ 0 then .error .reviewerFailed
    else if !(before.all after.contains && after.all before.contains) then
      .error .reviewerNotReadOnly
    else
      match t.verdict with
      | none => .error .noVerdict
      | some true => .ok s
      | some false =>
        if left = 0 then .error .reviewExhausted
        else
          let (s, t) := s.call j
          match j.gate s t with
          | .error e => .error e
          | .ok s =>
            match j.tests s with
            | .passed s => j.reviews left s
            | .infrastructure => .error .testsFailed
            | .failed _ => .error .testsFailed

/-- The work tree of the base branch, with the supervisor's link to the environment. -/
def Job.checkout (j : Job) : Repo where
  head := j.base
  index := j.base.tree
  work := (".venv", j.venv) :: j.base.tree

/-- `run_repair`, up to the commit. -/
def Job.candidate (j : Job) : Except Stop Candidate :=
  if j.skips then .error .duplicate
  else if !j.config.createCommit &&
      (j.config.push || j.config.deployStaging || j.config.promoteMain) then
    .error .reviewOnlyCannotPush
  else if ¬ (0 ≤ j.config.maxReviewRounds ∧ j.config.maxReviewRounds ≤ 5) then
    .error .reviewRoundsOutOfRange
  else if j.planner.returncode ≠ 0 then .error .plannerFailed
  else if !j.planner.clean then .error .plannerNotReadOnly
  else if !j.planner.plan then .error .noPlan
  else if j.config.allowNoChange && j.planner.noChange then .error .noChange
  else
    match j.attempts (max 1 j.config.maxAiAttempts).toNat ⟨j.checkout, 0, [], [], j.checkout⟩ with
    | .error e => .error e
    | .ok s => j.reviews j.config.maxReviewRounds.toNat s

/-! ## What is published -/

/-- `result.status` -/
inductive Status
  | skippedDuplicate
  | noChange
  | failed
  | patchReady
  | committed
  | pushed
  | stagingVerified
  | promoted
deriving DecidableEq, Repr

/-- `RepairResult` -/
structure Result where
  status : Status
  commit : Option Commit
deriving DecidableEq, Repr

def Job.promote (j : Job) (status : Status) (commit : Option Commit) : Result :=
  if !j.config.promoteMain then ⟨status, commit⟩
  else if !j.config.deployStaging || commit.isNone then ⟨.failed, commit⟩
  else if !j.promotes then ⟨.failed, commit⟩
  else ⟨.promoted, commit⟩

def Job.deploy (j : Job) (status : Status) (commit : Option Commit) : Result :=
  if !j.config.deployStaging then j.promote status commit
  else if !j.config.push then ⟨.failed, commit⟩
  else if !j.deploys then ⟨.failed, commit⟩
  else j.promote .stagingVerified commit

/-- The index that is committed. -/
def Job.added (j : Job) (s : Candidate) : Tree := j.git.add s.repo s.changedFiles

def Job.publish (j : Job) (s : Candidate) : Result :=
  if !j.config.createCommit then j.deploy .patchReady none
  else if !j.git.addable s.repo s.changedFiles then ⟨.failed, none⟩
  else
    let repo := { s.repo with index := j.added s }
    if !repo.staged then ⟨.failed, none⟩
    else if j.config.push && !j.pushes then ⟨.failed, some (j.git.commit repo)⟩
    else j.deploy (if j.config.push then .pushed else .committed) (some (j.git.commit repo))

def runRepair (j : Job) : Result :=
  match j.candidate with
  | .error .duplicate => ⟨.skippedDuplicate, none⟩
  | .error .noChange => ⟨.noChange, none⟩
  | .error _ => ⟨.failed, none⟩
  | .ok s => j.publish s

/-! ## What should be published -/

/-- The statuses of a candidate that is out. -/
def Status.published (status : Status) : Bool :=
  [Status.committed, .pushed, .stagingVerified, .promoted].contains status

/-- Where the commit differs from the base, it is inside the allowlist, and the difference
has no credential. -/
def Job.inside (j : Job) (tree : Tree) : Prop :=
  ∀ path, j.base.tree.get path ≠ tree.get path →
    allowed path = true ∧ forbidden path = false ∧
      j.leaks path (j.base.tree.get path) (tree.get path) = false

def PublishedInside (j : Job) : Prop :=
  (runRepair j).status.published = true →
    ∃ commit, (runRepair j).commit = some commit ∧ j.inside commit.tree

/-- The gate saw this change as it is committed: as a difference between index and files
of a tracked path that a changed file covers, or as the text of an untracked file. -/
def Job.seen (j : Job) (s : Candidate) (path : String) : Prop :=
  s.gated.index.get path = j.base.tree.get path ∧
    s.gated.work.get path = (j.added s).get path ∧
    if s.gated.index.get path = none then path ∈ s.untracked
    else s.changedFiles.any (j.git.covers · path) = true

/-- The candidate is committed, and goes through the push, the deployment and the promotion
that the configuration asks for. -/
def Job.goesOut (j : Job) (s : Candidate) : Bool :=
  j.config.createCommit && j.git.addable s.repo s.changedFiles &&
    ({ s.repo with index := j.added s } : Repo).staged && (!j.config.push || j.pushes) &&
    (!j.config.deployStaging || (j.config.push && j.deploys)) &&
    (!j.config.promoteMain || (j.config.deployStaging && j.promotes))

/-- What the gate did not see in a candidate that goes out is harmless: a change outside of
the changed files is inside the allowlist, and one that the gate did not see as it is
committed has no credential. -/
def UnseenHarmless (j : Job) : Prop :=
  ∀ s, j.candidate = .ok s → j.goesOut s = true →
    ∀ path, j.base.tree.get path ≠ (j.added s).get path →
      (s.changedFiles.any (j.git.covers · path) = false → allowed path = true) ∧
      (¬ j.seen s path →
        j.leaks path (j.base.tree.get path) ((j.added s).get path) = false)

/-! ## The lists of prefixes -/

theorem allowedPrefixes_spec : ∀ start ∈ allowedPrefixes,
    start.toList.all (fun c => !patternChar c) = true ∧
      ∀ other ∈ forbiddenPrefixes, ¬ begins start other = true ∧ ¬ begins other start = true := by
  decide

variable {j : Job} {path : String} {s s' : Candidate}

theorem not_forbidden_of_allowed (h : allowed path = true) : forbidden path = false := by
  obtain ⟨start, hstart, hbegins⟩ := List.any_eq_true.mp h
  rw [Bool.eq_false_iff]
  intro hforbidden
  obtain ⟨other, hother, hbegins'⟩ := List.any_eq_true.mp hforbidden
  obtain ⟨_, hapart⟩ := allowedPrefixes_spec start hstart
  obtain ⟨hnot, hnot'⟩ := hapart other hother
  rw [begins_iff] at hbegins hbegins' hnot hnot'
  rcases List.prefix_or_prefix_of_prefix hbegins hbegins' with hshort | hlong
  · exact hnot' hshort
  · exact hnot hlong

theorem allowed_of_covers {g : Git} {spec : String} (h : allowed spec = true)
    (hcovers : g.covers spec path = true) : allowed path = true := by
  obtain ⟨start, hstart, hbegins⟩ := List.any_eq_true.mp h
  exact List.any_eq_true.mpr ⟨start, hstart,
    begins_of_covers g hcovers hbegins (allowedPrefixes_spec start hstart).1⟩

/-! ## The last gate -/

/-- What the last gate established. -/
structure Validated (j : Job) (s : Candidate) : Prop where
  allowed : j.config.fullAccess = false → ∀ path ∈ s.changedFiles, allowed path = true
  untracked : s.untracked = j.untrackedFiles s.gated
  clean : j.diffLeaks s.gated s.changedFiles = false

theorem validateChanges_ok {r : Repo} {files : List String} (h : j.validateChanges r = .ok files) :
    (j.config.fullAccess = false → ∀ path ∈ files, allowed path = true) ∧
      j.diffLeaks r files = false := by
  unfold Job.validateChanges at h
  dsimp only at h
  split_ifs at h with hnone hinvalid hleaks
  cases h
  refine ⟨?_, Bool.eq_false_iff.mpr hleaks⟩
  intro hfull path hpath
  rw [hfull, Bool.not_false, Bool.true_and, decide_eq_true_eq, not_not] at hinvalid
  have hkept := List.filter_eq_nil_iff.mp hinvalid path hpath
  rw [Bool.or_eq_true, not_or, Bool.not_eq_true, Bool.not_eq_false'] at hkept
  exact hkept.1

/-- **A gate that is passed validates the candidate.** -/
theorem validated_gate {t : Turn} (h : j.gate s t = .ok s') : Validated j s' := by
  unfold Job.gate at h
  split_ifs at h
  split at h
  · cases h
  · rename_i files hfiles
    split_ifs at h
    cases h
    obtain ⟨hallowed, hclean⟩ := validateChanges_ok hfiles
    exact ⟨hallowed, rfl, hclean⟩

/-- A process in the work tree does not change what the gate has seen. -/
theorem Validated.call (h : Validated j s) : Validated j (s.call j).1 :=
  ⟨h.allowed, h.untracked, h.clean⟩

theorem validated_regression (h : Validated j s) (hpassed : j.regression s = .passed s') :
    Validated j s' := by
  unfold Job.regression at hpassed
  dsimp only at hpassed
  split_ifs at hpassed
  cases hpassed
  exact h.call

theorem validated_tests (h : Validated j s) (hpassed : j.tests s = .passed s') :
    Validated j s' := by
  unfold Job.tests at hpassed
  dsimp only at hpassed
  split_ifs at hpassed
  · exact validated_regression h hpassed
  · exact validated_regression h.call hpassed

theorem validated_attempts :
    ∀ (left : Nat) (s s' : Candidate), j.attempts left s = .ok s' → Validated j s' := by
  intro left
  induction left with
  | zero =>
    intro s s' h
    cases h
  | succ left ih =>
    intro s s' h
    unfold Job.attempts at h
    dsimp only at h
    split at h
    · cases h
    · rename_i gated hgate
      split at h
      · rename_i passed hpassed
        cases h
        exact validated_tests (validated_gate hgate) hpassed
      · cases h
      · exact ih _ s' h

theorem validated_reviews :
    ∀ (left : Nat) (s s' : Candidate), Validated j s → j.reviews left s = .ok s' →
      Validated j s' := by
  intro left
  induction left with
  | zero =>
    intro s s' hs h
    cases h
    exact hs
  | succ left ih =>
    intro s s' hs h
    unfold Job.reviews at h
    dsimp only at h
    split_ifs at h with _ _ hlast
    · split at h
      · cases h
      · cases h
        exact hs.call
      · cases h
    · split at h
      · cases h
      · cases h
        exact hs.call
      · split at h
        · cases h
        · rename_i gated hgate
          split at h
          · rename_i passed hpassed
            exact ih passed s' (validated_tests (validated_gate hgate) hpassed) h
          · cases h
          · cases h

/-- **A candidate has passed a gate.** -/
theorem candidate_validated (h : j.candidate = .ok s) : Validated j s := by
  unfold Job.candidate at h
  split_ifs at h
  split at h
  · cases h
  · rename_i implemented hattempts
    exact validated_reviews _ _ s (validated_attempts _ _ _ hattempts) h

/-- What the gate saw has no credential. -/
theorem not_leaks_of_seen (h : Validated j s) (hseen : j.seen s path)
    (hdiffers : j.base.tree.get path ≠ (j.added s).get path) :
    j.leaks path (j.base.tree.get path) ((j.added s).get path) = false := by
  obtain ⟨hindex, hwork, hwhere⟩ := hseen
  obtain ⟨htracked, huntracked⟩ := Bool.or_eq_false_iff.mp h.clean
  rw [← hindex, ← hwork] at hdiffers ⊢
  by_cases hnone : s.gated.index.get path = none
  · rw [if_pos hnone, h.untracked] at hwhere
    have hclean := List.any_eq_false.mp huntracked path hwhere
    rw [hnone]
    exact Bool.eq_false_iff.mpr hclean
  · rw [if_neg hnone] at hwhere
    have hclean := List.any_eq_false.mp htracked path
      (j.git.mem_diffPaths hnone hwhere hdiffers)
    exact Bool.eq_false_iff.mpr hclean

/-! ## What is published -/

theorem promote_commit (j : Job) (status : Status) (commit : Option Commit) :
    (j.promote status commit).commit = commit := by
  unfold Job.promote
  split_ifs <;> rfl

theorem deploy_commit (j : Job) (status : Status) (commit : Option Commit) :
    (j.deploy status commit).commit = commit := by
  unfold Job.deploy
  split_ifs
  · exact promote_commit j status commit
  · rfl
  · rfl
  · exact promote_commit j .stagingVerified commit

theorem published_promote_iff (j : Job) (status : Status) (commit : Option Commit) :
    (j.promote status commit).status.published = true ↔
      (j.config.promoteMain = false ∧ status.published = true) ∨
        (j.config.promoteMain = true ∧ j.config.deployStaging = true ∧ commit ≠ none ∧
          j.promotes = true) := by
  unfold Job.promote
  split_ifs with hno hcannot hfails
  · simp [(Bool.not_eq_true' _).mp hno]
  · rw [Bool.not_eq_true', Bool.not_eq_false] at hno
    rw [Bool.or_eq_true, Bool.not_eq_true', Option.isNone_iff_eq_none] at hcannot
    constructor
    · intro h
      cases h
    · rintro (⟨hfalse, _⟩ | ⟨_, hstaging, hcommit, _⟩)
      · rw [hno] at hfalse
        cases hfalse
      · rcases hcannot with hnone | hnone
        · rw [hstaging] at hnone
          cases hnone
        · exact absurd hnone hcommit
  · rw [Bool.not_eq_true'] at hfails
    constructor
    · intro h
      cases h
    · rintro (⟨hfalse, _⟩ | ⟨_, _, _, hpromotes⟩)
      · exact absurd ((Bool.not_eq_true' _).mpr hfalse) hno
      · rw [hfails] at hpromotes
        cases hpromotes
  · rw [Bool.not_eq_true', Bool.not_eq_false] at hno hfails
    rw [Bool.or_eq_true, not_or, Bool.not_eq_true', Bool.not_eq_false,
      Option.isNone_iff_eq_none] at hcannot
    constructor
    · intro _
      exact Or.inr ⟨hno, hcannot.1, hcannot.2, hfails⟩
    · intro _
      rfl

theorem published_deploy_iff (j : Job) {status : Status} (hstatus : status.published = true)
    (commit : Commit) :
    (j.deploy status (some commit)).status.published = true ↔
      (!j.config.deployStaging || (j.config.push && j.deploys)) = true ∧
        (!j.config.promoteMain || (j.config.deployStaging && j.promotes)) = true := by
  unfold Job.deploy
  cases hstaging : j.config.deployStaging with
  | false =>
    rw [if_pos (by rfl), published_promote_iff, hstaging]
    cases j.config.promoteMain <;> simp [hstatus]
  | true =>
    rw [if_neg (by simp)]
    cases hpush : j.config.push with
    | false => simp [Status.published]
    | true =>
      rw [if_neg (by simp)]
      cases hdeploys : j.deploys with
      | false => simp [Status.published]
      | true =>
        rw [if_neg (by simp), published_promote_iff, hstaging]
        have hverified : Status.published .stagingVerified = true := rfl
        cases j.config.promoteMain <;> simp [hverified]

theorem reviewOnly_of_candidate (h : j.candidate = .ok s) (hno : j.config.createCommit = false) :
    j.config.deployStaging = false ∧ j.config.promoteMain = false := by
  unfold Job.candidate at h
  split_ifs at h with _ hreview
  rw [hno, Bool.not_false, Bool.true_and, Bool.or_eq_true, Bool.or_eq_true, not_or, not_or,
    Bool.not_eq_true, Bool.not_eq_true, Bool.not_eq_true] at hreview
  exact ⟨hreview.1.2, hreview.2⟩

theorem published_publish_iff (h : j.candidate = .ok s) :
    (j.publish s).status.published = true ↔ j.goesOut s = true := by
  unfold Job.publish Job.goesOut
  cases hcreate : j.config.createCommit with
  | false =>
    obtain ⟨hstaging, hpromote⟩ := reviewOnly_of_candidate h hcreate
    rw [if_pos (by rfl), Job.deploy, hstaging, if_pos (by rfl), published_promote_iff, hpromote]
    simp [Status.published]
  | true =>
    rw [if_neg (by simp)]
    cases haddable : j.git.addable s.repo s.changedFiles with
    | false => simp [Status.published]
    | true =>
      rw [if_neg (by simp)]
      dsimp only
      cases hstaged : ({ s.repo with index := j.added s } : Repo).staged with
      | false => simp [Status.published]
      | true =>
        rw [if_neg (by simp)]
        cases hpush : j.config.push with
        | false =>
          rw [if_neg (by simp), published_deploy_iff j (by rfl), hpush]
          simp
        | true =>
          cases hpushes : j.pushes with
          | false => simp [Status.published]
          | true =>
            rw [if_neg (by simp), published_deploy_iff j (by rfl), hpush]
            simp

/-- **A run publishes when its candidate goes out.** -/
theorem published_iff (j : Job) :
    (runRepair j).status.published = true ↔
      ∃ s, j.candidate = .ok s ∧ j.goesOut s = true := by
  unfold runRepair
  cases hcandidate : j.candidate with
  | error e =>
    constructor
    · intro h
      cases e <;> cases h
    · rintro ⟨s, hs, _⟩
      cases hs
  | ok s =>
    show (j.publish s).status.published = true ↔ _
    rw [published_publish_iff hcandidate]
    constructor
    · intro h
      exact ⟨s, rfl, h⟩
    · rintro ⟨s', hs', h⟩
      cases hs'
      exact h

theorem commit_of_goesOut (h : j.candidate = .ok s) (hout : j.goesOut s = true) :
    (runRepair j).commit = some (j.git.commit { s.repo with index := j.added s }) := by
  unfold Job.goesOut at hout
  simp only [Bool.and_eq_true] at hout
  obtain ⟨⟨⟨⟨⟨hcreate, haddable⟩, hstaged⟩, hpush⟩, _⟩, _⟩ := hout
  unfold runRepair
  rw [h]
  show (j.publish s).commit = _
  unfold Job.publish
  rw [hcreate, haddable, if_neg (by simp), if_neg (by simp)]
  dsimp only
  rw [hstaged, if_neg (by simp)]
  split_ifs
  · rfl
  · exact deploy_commit _ _ _
  · exact deploy_commit _ _ _

/-- **What is published is inside the allowlist and without a credential exactly when what
the gate did not see is.** -/
theorem published_inside_iff (j : Job) (hfull : j.config.fullAccess = false) :
    PublishedInside j ↔ UnseenHarmless j := by
  constructor
  · intro h s hs hout path hdiffers
    obtain ⟨commit, hcommit, hinside⟩ := h ((published_iff j).mpr ⟨s, hs, hout⟩)
    rw [commit_of_goesOut hs hout, Option.some.injEq] at hcommit
    subst hcommit
    obtain ⟨hallowed, _, hclean⟩ := hinside path hdiffers
    exact ⟨fun _ => hallowed, fun _ => hclean⟩
  · intro h hpublished
    obtain ⟨s, hs, hout⟩ := (published_iff j).mp hpublished
    have hvalidated := candidate_validated hs
    refine ⟨_, commit_of_goesOut hs hout, ?_⟩
    intro path hdiffers
    obtain ⟨houtside, hunseen⟩ := h s hs hout path hdiffers
    have hallowed : allowed path = true := by
      cases hcovered : s.changedFiles.any (j.git.covers · path) with
      | false => exact houtside hcovered
      | true =>
        obtain ⟨file, hfile, hcovers⟩ := List.any_eq_true.mp hcovered
        exact allowed_of_covers (hvalidated.allowed hfull file hfile) hcovers
    refine ⟨hallowed, not_forbidden_of_allowed hallowed, ?_⟩
    by_cases hseen : j.seen s path
    · exact not_leaks_of_seen hvalidated hseen hdiffers
    · exact hunseen hseen

/-- Nothing is renamed or ignored, and there are no patterns. -/
def plainGit : Git where
  renames := fun _ _ => []
  ignored := fun _ _ => false
  glob := fun _ _ => false
  commitId := fun _ _ => "c2"
  glob_literal := by
    intro spec path start h
    cases h

/-- A file of the application and a workflow. -/
def baseCommit : Commit :=
  ⟨"c1", [("worker/main.py", "old"), (".github/workflows/ci.yml", "tests")]⟩

/-- The files with a patch of the application. -/
def patched : Tree :=
  [(".venv", "link"), ("worker/main.py", "new"), (".github/workflows/ci.yml", "tests")]

/-- A run that pushes: this turn of the Implementer, tests that pass, and no review. -/
def pushJob (implement : Repo → Repo) : Job where
  config := ⟨true, true, false, false, false, false, false, 3, 0⟩
  git := plainGit
  leaks := fun _ _ _ => false
  coversRegression := fun _ _ => true
  skips := false
  planner := ⟨0, true, true, false⟩
  base := baseCommit
  venv := "link"
  turn := fun n => ⟨if n = 0 then implement else id, 0, false, none⟩
  pushes := true
  deploys := true
  promotes := true

/-- The Implementer edits a file. -/
def editing : Repo → Repo := fun r => { r with work := patched }

/-- The candidate after the edit. -/
def edited : Candidate where
  repo := ⟨baseCommit, baseCommit.tree, patched⟩
  calls := 2
  changedFiles := ["worker/main.py"]
  untracked := []
  gated := ⟨baseCommit, baseCommit.tree, patched⟩

/-- The edit is pushed, and is inside. -/
theorem published_edit :
    (runRepair (pushJob editing)).status = .pushed ∧ PublishedInside (pushJob editing) := by
  have hcandidate : (pushJob editing).candidate = .ok edited := by decide
  refine ⟨by decide, (published_inside_iff (pushJob editing) rfl).mpr ?_⟩
  intro s hs _ path hdiffers
  rw [hcandidate, Except.ok.injEq] at hs
  subst hs
  refine ⟨?_, fun _ => rfl⟩
  -- what the changed file does not cover is as in the index, which is the base's
  intro houtside
  exfalso
  apply hdiffers
  unfold Job.added
  rw [Git.get_add, Git.takes, houtside, Bool.false_and, if_neg Bool.false_ne_true]
  rfl

/-- The Implementer commits a workflow, and leaves the edit in the work tree. -/
def committing : Repo → Repo := fun _ =>
  let tree : Tree := [("worker/main.py", "old"), (".github/workflows/ci.yml", "deploy")]
  ⟨⟨"c3", tree⟩, tree,
    [(".venv", "link"), ("worker/main.py", "new"), (".github/workflows/ci.yml", "deploy")]⟩

/-- The gate sees the edit only, and the workflow is pushed. -/
theorem published_own_commit : ¬ PublishedInside (pushJob committing) := by
  intro h
  obtain ⟨commit, hcommit, hinside⟩ := h (by decide)
  have hworkflow : commit.tree.get ".github/workflows/ci.yml" = some "deploy" := by
    have htree : (runRepair (pushJob committing)).commit.map
        (fun c => c.tree.get ".github/workflows/ci.yml") = some (some "deploy") := by decide
    rw [hcommit, Option.map_some, Option.some.injEq] at htree
    exact htree
  obtain ⟨hallowed, _⟩ := hinside ".github/workflows/ci.yml" (by rw [hworkflow]; decide)
  exact absurd hallowed (by decide)

end CephAi.Ports.CodeRepair
