import Mathlib.Data.List.Basic
import Mathlib.Tactic.SplitIfs

/-!
# A small POSIX shell

Scripts of external commands, assignments from command substitutions,
pipelines, AND-OR lists and conditionals, run under `set -eu`.

The rules of `set -e` are those of POSIX.  A failing command ends the shell,
unless it is in the condition of an `if` or is not the last command of an
AND-OR list; an AND-OR list or an `if` whose failure comes from such a command
does not end the shell either.  The status of a pipeline is that of its last
command, and an assignment has the status of its substitution.  With this, the
option only ever acts at the leaves, under a flag that says whether it is
ignored there.

What external commands do is a parameter, the `Host`.  A run keeps a trace of
them; an interrupted run is a prefix of the trace.  Redirections of the error
stream are left out: they change no status and no captured output.

## Main results

* `eval_extends` — a command only adds events of its own commands and only
  assigns its own variables.
* `holds_append`, `holds_frame`, `holds_world`, `holds_stopIfDiffer`,
  `holds_capture` — rules to prove what holds after a script, or where it stopped.
* `reads_run`, `reads_pipe`, `stops_run`, `guards_compare` — what commands that only
  read do when it is known what the machine answers.
-/

namespace CephAi.Verified.Shell

/-- A word: literal text or a quoted variable. -/
inductive Word
  | lit (text : String)
  | var (name : String)
deriving DecidableEq, Repr

/-- `[ lhs = rhs ]` and `[ lhs != rhs ]`. -/
inductive TestOp
  | eq
  | ne
deriving DecidableEq, Repr

/-- Commands. -/
inductive Sh
  | setEU
  | noop
  | exit (status : Nat)
  | run (words : List Word)
  | test (lhs : Word) (op : TestOp) (rhs : Word)
  | pipe (stages : List (List Word))
  | assign (name : String) (body : Sh)
  | seq (first second : Sh)
  | andThen (first second : Sh)
  | orElse (first second : Sh)
  | ifElse (cond thenBranch elseBranch : Sh)
deriving Repr

/-- One external command that was run: what it got, how it ended and what it
printed. -/
structure Event where
  argv : List String
  stdin : String
  status : Nat
  stdout : String
deriving DecidableEq, Repr

/-- The machine the commands run on: any state, any behaviour. -/
structure Host (σ : Type) where
  exec : σ → List String → String → σ × Nat × String

/-- The state of the shell. -/
structure St (σ : Type) where
  world : σ
  vars : String → Option String
  strict : Bool
  out : String
  trace : List Event

/-- How a command ended: with a status, or by ending the shell. -/
inductive Flow
  | next (status : Nat)
  | exited (status : Nat)
deriving DecidableEq, Repr

/-- The status either way. -/
def Flow.status : Flow → Nat
  | .next n => n
  | .exited n => n

variable {σ : Type}

/-! ## Evaluation -/

/-- `set -u` makes an unset variable an error. -/
def St.expand (s : St σ) : Word → Option String
  | .lit text => some text
  | .var name =>
    match s.vars name with
    | some value => some value
    | none => if s.strict then none else some ""

/-- The argument vector of a command. -/
def St.expandAll (s : St σ) : List Word → Option (List String)
  | [] => some []
  | w :: ws =>
    match s.expand w, s.expandAll ws with
    | some a, some as => some (a :: as)
    | _, _ => none

/-- What command substitution strips. -/
def stripNewlines (text : String) : String :=
  String.ofList ((text.toList.reverse.dropWhile (fun c => c == '\n')).reverse)

/-- A leaf ends the shell when it fails under `set -e`. -/
def settle (strict ignored : Bool) (status : Nat) : Flow :=
  if status ≠ 0 ∧ strict = true ∧ ignored = false then .exited status
  else .next status

/-- Run an external command; its output is returned, not yet printed. -/
def call (H : Host σ) (s : St σ) (argv : List String) (stdin : String) :
    St σ × Nat × String :=
  let r := H.exec s.world argv stdin
  ({ s with world := r.1, trace := s.trace ++ [⟨argv, stdin, r.2.1, r.2.2⟩] },
    r.2.1, r.2.2)

/-- The stages of a pipeline: each reads what the one before it printed. -/
def runStages (H : Host σ) : St σ → String → List (List Word) →
    St σ × Nat × String
  | s, stdin, [] => (s, 0, stdin)
  | s, stdin, [words] =>
    match s.expandAll words with
    | none => (s, 2, "")
    | some argv => call H s argv stdin
  | s, stdin, words :: stages =>
    match s.expandAll words with
    | none => runStages H s "" stages
    | some argv =>
      let r := call H s argv stdin
      runStages H r.1 r.2.2 stages

/-- Print on standard output. -/
def St.print (s : St σ) (text : String) : St σ := { s with out := s.out ++ text }

/-- Assign a variable. -/
def St.setVar (s : St σ) (name value : String) : St σ :=
  { s with vars := fun x => if x = name then some value else s.vars x }

/-- Run a command; `ignored` says that `set -e` is ignored here. -/
def eval (H : Host σ) : Bool → Sh → St σ → St σ × Flow
  | _, .setEU, s => ({ s with strict := true }, .next 0)
  | _, .noop, s => (s, .next 0)
  | _, .exit n, s => (s, .exited n)
  | ignored, .run words, s =>
    match s.expandAll words with
    | none => (s, .exited 2)
    | some argv =>
      let r := call H s argv ""
      (r.1.print r.2.2, settle s.strict ignored r.2.1)
  | ignored, .test lhs op rhs, s =>
    match s.expand lhs, s.expand rhs with
    | some a, some b =>
      let status := match op with
        | .eq => if a = b then 0 else 1
        | .ne => if a = b then 1 else 0
      (s, settle s.strict ignored status)
    | _, _ => (s, .exited 2)
  | ignored, .pipe stages, s =>
    let r := runStages H s "" stages
    (r.1.print r.2.2, settle s.strict ignored r.2.1)
  | ignored, .assign name body, s =>
    -- the body runs in a subshell: its output is captured and an exit ends
    -- the subshell only
    let r := eval H ignored body { s with out := "" }
    let after := { r.1 with vars := s.vars, strict := s.strict, out := s.out }
    (after.setVar name (stripNewlines r.1.out),
      settle s.strict ignored r.2.status)
  | ignored, .seq first second, s =>
    match eval H ignored first s with
    | (s', .exited n) => (s', .exited n)
    | (s', .next _) => eval H ignored second s'
  | ignored, .andThen first second, s =>
    match eval H true first s with
    | (s', .exited n) => (s', .exited n)
    | (s', .next 0) => eval H ignored second s'
    | (s', .next n) => (s', .next n)
  | ignored, .orElse first second, s =>
    match eval H true first s with
    | (s', .exited n) => (s', .exited n)
    | (s', .next 0) => (s', .next 0)
    | (s', .next _) => eval H ignored second s'
  | ignored, .ifElse cond thenBranch elseBranch, s =>
    match eval H true cond s with
    | (s', .exited n) => (s', .exited n)
    | (s', .next 0) => eval H ignored thenBranch s'
    | (s', .next _) => eval H ignored elseBranch s'

section

-- the equations, made once for all the proofs that use them
attribute [local simp] eval

end

def Sh.ifThen (cond body : Sh) : Sh := .ifElse cond body .noop

/-- `c1; c2; ...` up to the first command that ends the shell. -/
def runScript (H : Host σ) : List Sh → St σ → St σ × Flow
  | [], s => (s, .next 0)
  | c :: cs, s =>
    match eval H false c s with
    | (s', .exited n) => (s', .exited n)
    | (s', .next _) => runScript H cs s'

/-- A shell that has just started. -/
def St.start (world : σ) : St σ where
  world := world
  vars := fun _ => none
  strict := false
  out := ""
  trace := []

/-! ## What a command can do -/

/-- The external commands a command contains. -/
def Sh.commands : Sh → List (List Word)
  | .setEU | .noop | .exit _ | .test .. => []
  | .run words => [words]
  | .pipe stages => stages
  | .assign _ body => body.commands
  | .seq a b | .andThen a b | .orElse a b => a.commands ++ b.commands
  | .ifElse c a b => c.commands ++ (a.commands ++ b.commands)

/-- The variables a command assigns. -/
def Sh.assigned : Sh → List String
  | .setEU | .noop | .exit _ | .test .. | .run _ | .pipe _ => []
  | .assign name _ => [name]
  | .seq a b | .andThen a b | .orElse a b => a.assigned ++ b.assigned
  | .ifElse c a b => c.assigned ++ (a.assigned ++ b.assigned)

/-- The argument vector can come from these words. -/
def fits : List Word → List String → Bool
  | [], [] => true
  | .lit text :: ws, a :: as => text == a && fits ws as
  | .var _ :: ws, _ :: as => fits ws as
  | _, _ => false

/-- `s'` comes after `s` by some of the commands and assignments listed. -/
structure Extends (commands : List (List Word)) (assigned : List String)
    (s s' : St σ) : Prop where
  trace : ∃ new, s'.trace = s.trace ++ new ∧
    ∀ e ∈ new, ∃ words ∈ commands, fits words e.argv = true
  vars : ∀ x, x ∉ assigned → s'.vars x = s.vars x
  strict : s.strict = true → s'.strict = true

theorem Extends.refl (commands : List (List Word)) (assigned : List String)
    (s : St σ) : Extends commands assigned s s where
  trace := ⟨[], by simp, by simp⟩
  vars := fun _ _ => rfl
  strict := fun h => h

variable {H : Host σ} {P Q X : St σ → Prop} {argv assigned : List String} {c : Sh}
    {commands : List (List Word)} {cs : List Sh} {lhs rhs : Word} {out : String} {s s' : St σ}
    {status : Nat}

theorem Extends.trans {s'' : St σ} (h : Extends commands assigned s s')
    (h' : Extends commands assigned s' s'') : Extends commands assigned s s'' := by
  obtain ⟨new, hnew, hfit⟩ := h.trace
  obtain ⟨new', hnew', hfit'⟩ := h'.trace
  refine ⟨⟨new ++ new', ?_, ?_⟩, ?_, fun hs => h'.strict (h.strict hs)⟩
  · rw [hnew', hnew, List.append_assoc]
  · intro e he
    rcases List.mem_append.mp he with he | he
    · exact hfit e he
    · exact hfit' e he
  · intro x hx
    rw [h'.vars x hx, h.vars x hx]

theorem Extends.mono {commands' : List (List Word)} {assigned' : List String}
    (h : Extends commands assigned s s') (hc : commands ⊆ commands') (ha : assigned ⊆ assigned') :
    Extends commands' assigned' s s' := by
  obtain ⟨new, hnew, hfit⟩ := h.trace
  refine ⟨⟨new, hnew, ?_⟩, fun x hx => h.vars x (fun h' => hx (ha h')),
    h.strict⟩
  intro e he
  obtain ⟨words, hwords, hf⟩ := hfit e he
  exact ⟨words, hc hwords, hf⟩

theorem fits_expandAll (s : St σ) : ∀ (words : List Word) (argv : List String),
    s.expandAll words = some argv → fits words argv = true := by
  intro words
  induction words with
  | nil =>
    intro argv h
    simp only [St.expandAll, Option.some.injEq] at h
    subst h
    rfl
  | cons w ws ih =>
    intro argv h
    simp only [St.expandAll] at h
    cases hw : s.expand w with
    | none => simp [hw] at h
    | some a =>
      cases hws : s.expandAll ws with
      | none => simp [hw, hws] at h
      | some as =>
        simp only [hw, hws, Option.some.injEq] at h
        subst h
        cases w with
        | lit text =>
          simp only [St.expand, Option.some.injEq] at hw
          simp [fits, hw, ih as hws]
        | var name => simpa [fits] using ih as hws

theorem call_extends (H : Host σ) (s : St σ) {words : List Word} (h : s.expandAll words = some argv)
    (stdin : String) :
    Extends [words] [] s (call H s argv stdin).1 where
  trace := by
    refine ⟨[⟨argv, stdin, _, _⟩], rfl, ?_⟩
    intro e he
    rw [List.mem_singleton.mp he]
    exact ⟨words, List.mem_singleton_self _, fits_expandAll s words argv h⟩
  vars := fun _ _ => rfl
  strict := fun h => h

theorem runStages_extends (H : Host σ) :
    ∀ (stages : List (List Word)) (s : St σ) (stdin : String),
      Extends stages [] s (runStages H s stdin stages).1 := by
  intro stages
  induction stages with
  | nil => intro s stdin; exact Extends.refl _ _ s
  | cons words stages ih =>
    intro s stdin
    have hhead : [words] ⊆ words :: stages := by simp
    have htail : stages ⊆ words :: stages := by simp
    cases stages with
    | nil =>
      simp only [runStages]
      cases hexp : s.expandAll words with
      | none => exact Extends.refl _ _ s
      | some argv => exact call_extends H s hexp stdin
    | cons words' stages =>
      simp only [runStages]
      cases hexp : s.expandAll words with
      | none => exact (ih s "").mono htail (by simp)
      | some argv =>
        exact ((call_extends H s hexp stdin).mono hhead (by simp)).trans
          ((ih _ _).mono htail (by simp))

theorem runStages_out (H : Host σ) :
    ∀ (stages : List (List Word)) (s : St σ) (stdin : String),
      (runStages H s stdin stages).1.out = s.out := by
  intro stages
  induction stages with
  | nil => intro s stdin; rfl
  | cons words stages ih =>
    intro s stdin
    cases stages with
    | nil =>
      simp only [runStages]
      cases s.expandAll words with
      | none | some => rfl
    | cons words' stages =>
      simp only [runStages]
      cases s.expandAll words with
      | none => exact ih s ""
      | some argv => exact ih _ _

theorem Extends.print (h : Extends commands assigned s s') (text : String) :
    Extends commands assigned s (s'.print text) :=
  ⟨h.trace, h.vars, h.strict⟩

section

variable (H : Host σ)

section

variable (ignored : Bool)

/-- A sequence leaves what its first command leaves, or what the second makes of it. -/
theorem state_seq (a b : Sh) (s : St σ) :
    (eval H ignored (.seq a b) s).1 = (eval H ignored a s).1 ∨
      (eval H ignored (.seq a b) s).1 = (eval H ignored b (eval H ignored a s).1).1 := by
  simp only [eval]
  cases eval H ignored a s with
  | mk s' flow =>
    cases flow with
    | exited n => exact Or.inl rfl
    | next n => exact Or.inr rfl

theorem state_andThen (a b : Sh) (s : St σ) :
    (eval H ignored (.andThen a b) s).1 = (eval H true a s).1 ∨
      (eval H ignored (.andThen a b) s).1 = (eval H ignored b (eval H true a s).1).1 := by
  simp only [eval]
  cases eval H true a s with
  | mk s' flow =>
    cases flow with
    | exited n => exact Or.inl rfl
    | next n =>
      cases n with
      | zero => exact Or.inr rfl
      | succ n => exact Or.inl rfl

theorem state_orElse (a b : Sh) (s : St σ) :
    (eval H ignored (.orElse a b) s).1 = (eval H true a s).1 ∨
      (eval H ignored (.orElse a b) s).1 = (eval H ignored b (eval H true a s).1).1 := by
  simp only [eval]
  cases eval H true a s with
  | mk s' flow =>
    cases flow with
    | exited n => exact Or.inl rfl
    | next n =>
      cases n with
      | zero => exact Or.inl rfl
      | succ n => exact Or.inr rfl

/-- A conditional leaves what its condition leaves, or what one of the branches makes of it. -/
theorem state_ifElse (c a b : Sh) (s : St σ) :
    (eval H ignored (.ifElse c a b) s).1 = (eval H true c s).1 ∨
      (eval H ignored (.ifElse c a b) s).1 = (eval H ignored a (eval H true c s).1).1 ∨
      (eval H ignored (.ifElse c a b) s).1 = (eval H ignored b (eval H true c s).1).1 := by
  simp only [eval]
  cases eval H true c s with
  | mk s' flow =>
    cases flow with
    | exited n => exact Or.inl rfl
    | next n =>
      cases n with
      | zero => exact Or.inr (Or.inl rfl)
      | succ n => exact Or.inr (Or.inr rfl)

end

/-- **A command only runs its own commands** and only assigns its own
variables. -/
theorem eval_extends :
    ∀ (c : Sh) (ignored : Bool) (s : St σ),
      Extends c.commands c.assigned s (eval H ignored c s).1 := by
  intro c
  induction c with
  | setEU => intro ignored s; exact ⟨⟨[], by simp [eval]⟩, fun _ _ => rfl, fun _ => rfl⟩
  | noop | exit => intro ignored s; exact Extends.refl _ _ s
  | run words =>
    intro ignored s
    simp only [eval]
    cases hexp : s.expandAll words with
    | none => exact Extends.refl _ _ s
    | some argv => exact (call_extends H s hexp "").print _
  | test lhs op rhs =>
    intro ignored s
    simp only [eval]
    cases s.expand lhs with
    | none => exact Extends.refl _ _ s
    | some a =>
      cases s.expand rhs with
      | none | some => exact Extends.refl _ _ s
  | pipe stages =>
    intro ignored s
    exact (runStages_extends H stages s "").print _
  | assign name body ih =>
    intro ignored s
    have hbody := ih ignored { s with out := "" }
    refine ⟨hbody.trace, ?_, fun h => h⟩
    intro x hx
    have hne : x ≠ name := fun h => hx (h ▸ List.mem_singleton_self _)
    simp [eval, St.setVar, hne]
  | seq a b iha ihb =>
    intro ignored s
    have ha : Extends (Sh.seq a b).commands (Sh.seq a b).assigned s
        (eval H ignored a s).1 :=
      (iha ignored s).mono (by simp [Sh.commands]) (by simp [Sh.assigned])
    have hb : ∀ s', Extends (Sh.seq a b).commands (Sh.seq a b).assigned s'
        (eval H ignored b s').1 := fun s' =>
      (ihb ignored s').mono (by simp [Sh.commands]) (by simp [Sh.assigned])
    cases state_seq H ignored a b s with
    | inl heq => exact heq ▸ ha
    | inr heq => exact heq ▸ ha.trans (hb _)
  | andThen a b iha ihb =>
    intro ignored s
    have ha : Extends (Sh.andThen a b).commands (Sh.andThen a b).assigned s
        (eval H true a s).1 :=
      (iha true s).mono (by simp [Sh.commands]) (by simp [Sh.assigned])
    have hb : ∀ s', Extends (Sh.andThen a b).commands
        (Sh.andThen a b).assigned s' (eval H ignored b s').1 := fun s' =>
      (ihb ignored s').mono (by simp [Sh.commands]) (by simp [Sh.assigned])
    cases state_andThen H ignored a b s with
    | inl heq => exact heq ▸ ha
    | inr heq => exact heq ▸ ha.trans (hb _)
  | orElse a b iha ihb =>
    intro ignored s
    have ha : Extends (Sh.orElse a b).commands (Sh.orElse a b).assigned s
        (eval H true a s).1 :=
      (iha true s).mono (by simp [Sh.commands]) (by simp [Sh.assigned])
    have hb : ∀ s', Extends (Sh.orElse a b).commands
        (Sh.orElse a b).assigned s' (eval H ignored b s').1 := fun s' =>
      (ihb ignored s').mono (by simp [Sh.commands]) (by simp [Sh.assigned])
    cases state_orElse H ignored a b s with
    | inl heq => exact heq ▸ ha
    | inr heq => exact heq ▸ ha.trans (hb _)
  | ifElse c a b ihc iha ihb =>
    intro ignored s
    have hc : Extends (Sh.ifElse c a b).commands (Sh.ifElse c a b).assigned
        s (eval H true c s).1 :=
      (ihc true s).mono (by simp [Sh.commands]) (by simp [Sh.assigned])
    have ha : ∀ s', Extends (Sh.ifElse c a b).commands
        (Sh.ifElse c a b).assigned s' (eval H ignored a s').1 := fun s' =>
      (iha ignored s').mono (by intro w hw; simp [Sh.commands, hw])
        (by intro x hx; simp [Sh.assigned, hx])
    have hb : ∀ s', Extends (Sh.ifElse c a b).commands
        (Sh.ifElse c a b).assigned s' (eval H ignored b s').1 := fun s' =>
      (ihb ignored s').mono (by intro w hw; simp [Sh.commands, hw])
        (by intro x hx; simp [Sh.assigned, hx])
    obtain heq | heq | heq := state_ifElse H ignored c a b s
    · exact heq ▸ hc
    · exact heq ▸ hc.trans (ha _)
    · exact heq ▸ hc.trans (hb _)

end

/-! ## Rules for scripts -/

def scriptCommands (cs : List Sh) : List (List Word) := cs.flatMap Sh.commands

def scriptAssigned (cs : List Sh) : List String := cs.flatMap Sh.assigned

/-- From a state in `P` the script ends in `Q`, or ends the shell in `X`. -/
def Holds (H : Host σ) (P : St σ → Prop) (cs : List Sh) (Q X : St σ → Prop) :
    Prop :=
  ∀ s, P s →
    match runScript H cs s with
    | (s', .next _) => Q s'
    | (s', .exited _) => X s'

theorem runScript_extends (H : Host σ) :
    ∀ (cs : List Sh) (s : St σ),
      Extends (scriptCommands cs) (scriptAssigned cs) s
        (runScript H cs s).1 := by
  intro cs
  induction cs with
  | nil => intro s; exact Extends.refl _ _ s
  | cons c cs ih =>
    intro s
    have hc : Extends (scriptCommands (c :: cs)) (scriptAssigned (c :: cs)) s
        (eval H false c s).1 :=
      (eval_extends H c false s).mono (by simp [scriptCommands])
        (by simp [scriptAssigned])
    simp only [runScript]
    cases hr : eval H false c s with
    | mk s' flow =>
      rw [hr] at hc
      cases flow with
      | exited n => exact hc
      | next n =>
        exact hc.trans ((ih s').mono (by simp [scriptCommands])
          (by simp [scriptAssigned]))

theorem runScript_append (H : Host σ) (as bs : List Sh) :
    ∀ s : St σ, runScript H (as ++ bs) s =
      match runScript H as s with
      | (s', .exited n) => (s', .exited n)
      | (s', .next _) => runScript H bs s' := by
  induction as with
  | nil => intro s; rfl
  | cons c cs ih =>
    intro s
    simp only [List.cons_append, runScript]
    cases eval H false c s with
    | mk s' flow =>
      cases flow with
      | exited n => rfl
      | next n => exact ih s'

/-- One script after another. -/
theorem holds_append {M : St σ → Prop} :
    ∀ {as bs : List Sh}, Holds H P as M X → Holds H M bs Q X →
      Holds H P (as ++ bs) Q X := by
  intro as bs ha hb s hs
  have hfirst := ha s hs
  rw [runScript_append]
  cases hr : runScript H as s with
  | mk s' flow =>
    rw [hr] at hfirst
    cases flow with
    | exited n => exact hfirst
    | next n => exact hb s' hfirst

/-- A script does what less is asked of it. -/
theorem Holds.consequence {P' Q' : St σ → Prop} (h : Holds H P cs Q X) (hP : ∀ s, P' s → P s)
    (hQ : ∀ s, Q s → Q' s) : Holds H P' cs Q' X := by
  intro s hs
  have hpost := h s (hP s hs)
  cases hr : runScript H cs s with
  | mk s' flow =>
    rw [hr] at hpost
    cases flow with
    | exited n => exact hpost
    | next n => exact hQ s' hpost

theorem Holds.stop {X' : St σ → Prop} (h : Holds H P cs Q X) (hX : ∀ s, X s → X' s) :
    Holds H P cs Q X' := by
  intro s hs
  have hpost := h s hs
  cases hr : runScript H cs s with
  | mk s' flow =>
    rw [hr] at hpost
    cases flow with
    | exited n => exact hX s' hpost
    | next n => exact hpost

theorem holds_frame (hP : ∀ s s', P s → Extends (scriptCommands cs) (scriptAssigned cs) s s' → P s')
    (hX : ∀ s, P s → X s) : Holds H P cs P X := by
  intro s hs
  have hext := hP s _ hs (runScript_extends H cs s)
  cases hr : runScript H cs s with
  | mk s' flow =>
    rw [hr] at hext
    cases flow with
    | exited n => exact hX s' hext
    | next n => exact hext

theorem holds_run (h : Holds H P cs Q Q) (hs : P s) : Q (runScript H cs s).1 := by
  have hend := h s hs
  cases hr : runScript H cs s with
  | mk s' flow =>
    rw [hr] at hend
    cases flow with
    | exited | next => exact hend

theorem holds_command (h : ∀ s, P s → Q (eval H false c s).1) : Holds H P [c] Q Q := by
  intro s hs
  have hq := h s hs
  simp only [runScript]
  cases hr : eval H false c s with
  | mk s' flow =>
    rw [hr] at hq
    cases flow with
    | exited | next => exact hq

/-- `if [ lhs != rhs ]; then message; exit status; fi`. -/
def stopIfDiffer (lhs rhs : Word) (message : List Word) (status : Nat) : Sh :=
  .ifThen (.test lhs .ne rhs) (.seq (.run message) (.exit status))

theorem holds_stopIfDiffer {message : List Word}
    (hX : ∀ s s', P s → Extends [message] [] s s' → X s') :
    Holds H P [stopIfDiffer lhs rhs message status]
      (fun s => P s ∧ ∃ v, s.expand lhs = some v ∧ s.expand rhs = some v)
      X := by
  intro s hs
  have hstop : X s := hX s s hs (Extends.refl _ _ s)
  simp only [runScript, stopIfDiffer, Sh.ifThen, eval]
  cases hl : s.expand lhs with
  | none => exact hstop
  | some a =>
    cases hr : s.expand rhs with
    | none => exact hstop
    | some b =>
      by_cases hab : a = b
      · subst hab
        simp only [if_true, settle, Bool.true_eq_false, and_false,
          if_false]
        exact ⟨hs, a, hl, hr⟩
      · simp only [hab, if_false, settle, Bool.true_eq_false, and_false]
        cases hexp : s.expandAll message with
        | none => exact hstop
        | some argv =>
          have hmsg : X ((call H s argv "").1.print
              (call H s argv "").2.2) :=
            hX s _ hs ((call_extends H s hexp "").print _)
          simp only
          split_ifs <;> exact hmsg

/-- The events of a pipeline of the given commands, what went in and what came
out. -/
def Piped : String → List (List String) → List Event → String → Prop
  | stdin, [], events, out => events = [] ∧ out = stdin
  | stdin, argv :: argvs, events, out =>
    ∃ e rest, events = e :: rest ∧ e.argv = argv ∧ e.stdin = stdin ∧
      Piped e.stdout argvs rest out

/-- A pipeline of literal commands. -/
def literalStages (argvs : List (List String)) : List (List Word) :=
  argvs.map (fun argv => argv.map Word.lit)

theorem expandAll_literal (s : St σ) (argv : List String) :
    s.expandAll (argv.map Word.lit) = some argv := by
  induction argv with
  | nil => rfl
  | cons a as ih => simp [St.expandAll, St.expand, ih]

theorem runStages_piped (H : Host σ) :
    ∀ (argvs : List (List String)) (s : St σ) (stdin : String),
      ∃ events,
        (runStages H s stdin (literalStages argvs)).1.trace =
          s.trace ++ events ∧
        Piped stdin argvs events
          (runStages H s stdin (literalStages argvs)).2.2 := by
  intro argvs
  induction argvs with
  | nil => intro s stdin; exact ⟨[], by simp [literalStages, runStages, Piped]⟩
  | cons argv argvs ih =>
    intro s stdin
    cases argvs with
    | nil =>
      refine ⟨[⟨argv, stdin, (call H s argv stdin).2.1,
        (call H s argv stdin).2.2⟩], ?_, ?_⟩
      · simp [literalStages, runStages, expandAll_literal, call]
      · simp [literalStages, runStages, expandAll_literal, Piped]
    | cons argv' argvs =>
      obtain ⟨events, htrace, hpiped⟩ :=
        ih (call H s argv stdin).1 (call H s argv stdin).2.2
      have hrun : runStages H s stdin
          (literalStages (argv :: argv' :: argvs)) =
            runStages H (call H s argv stdin).1 (call H s argv stdin).2.2
              (literalStages (argv' :: argvs)) := by
        simp [literalStages, runStages, expandAll_literal]
      rw [hrun, htrace]
      refine ⟨⟨argv, stdin, (call H s argv stdin).2.1,
        (call H s argv stdin).2.2⟩ :: events, ?_, ?_⟩
      · simp [call]
      · exact ⟨_, events, rfl, rfl, rfl, hpiped⟩

theorem holds_capture (name : String) (argvs : List (List String))
    (hX : ∀ s s', P s → Extends (literalStages argvs) [name] s s' → X s') :
    Holds H P [.assign name (.pipe (literalStages argvs))]
      (fun s' => ∃ s events out, P s ∧
        Extends (literalStages argvs) [name] s s' ∧
        s'.trace = s.trace ++ events ∧ Piped "" argvs events out ∧
        s'.vars name = some (stripNewlines out)) X := by
  intro s hs
  obtain ⟨events, htrace, hpiped⟩ :=
    runStages_piped H argvs { s with out := "" } ""
  have hext := eval_extends H (.assign name (.pipe (literalStages argvs)))
    false s
  simp only [runScript]
  cases hr : eval H false (.assign name (.pipe (literalStages argvs))) s with
  | mk s' flow =>
    rw [hr] at hext
    cases flow with
    | exited n => exact hX s s' hs hext
    | next n =>
      have hs' : s' =
          (eval H false (.assign name (.pipe (literalStages argvs)))
            s).1 := by rw [hr]
      have hout : (runStages H { s with out := "" } ""
          (literalStages argvs)).1.out = "" := by
        exact runStages_out H _ _ _
      refine ⟨s, events, _, hs, hext, ?_, hpiped, ?_⟩
      · rw [hs']
        simpa [eval, St.setVar, St.print] using htrace
      · rw [hs']
        simp [eval, St.setVar, St.print, hout]

/-! ## What the machine keeps -/

theorem runStages_world (H : Host σ) (I : σ → Prop) :
    ∀ (stages : List (List Word)) (s : St σ) (stdin : String),
      (∀ words ∈ stages, ∀ argv, fits words argv = true →
        ∀ w stdin, I w → I (H.exec w argv stdin).1) →
      I s.world → I (runStages H s stdin stages).1.world := by
  intro stages
  induction stages with
  | nil => intro s stdin _ hs; exact hs
  | cons words stages ih =>
    intro s stdin hkeep hs
    have hcall : ∀ argv, s.expandAll words = some argv →
        I (call H s argv stdin).1.world := by
      intro argv hexp
      exact hkeep words List.mem_cons_self argv (fits_expandAll s words argv hexp)
        s.world stdin hs
    have htail : ∀ words' ∈ stages, ∀ argv, fits words' argv = true →
        ∀ w stdin, I w → I (H.exec w argv stdin).1 :=
      fun words' h => hkeep words' (List.mem_cons_of_mem words h)
    cases stages with
    | nil =>
      simp only [runStages]
      cases hexp : s.expandAll words with
      | none => exact hs
      | some argv => exact hcall argv hexp
    | cons words' stages =>
      simp only [runStages]
      cases hexp : s.expandAll words with
      | none => exact ih s "" htail hs
      | some argv => exact ih _ _ htail (hcall argv hexp)

/-- **What every command keeps, the shell keeps.** -/
theorem eval_world (H : Host σ) (I : σ → Prop) :
    ∀ (c : Sh) (ignored : Bool) (s : St σ),
      (∀ words ∈ c.commands, ∀ argv, fits words argv = true →
        ∀ w stdin, I w → I (H.exec w argv stdin).1) →
      I s.world → I (eval H ignored c s).1.world := by
  intro c
  induction c with
  | setEU | noop | exit => intro ignored s _ hs; exact hs
  | run words =>
    intro ignored s hkeep hs
    simp only [eval]
    cases hexp : s.expandAll words with
    | none => exact hs
    | some argv =>
      exact hkeep words (List.mem_singleton_self _) argv
        (fits_expandAll s words argv hexp) s.world "" hs
  | test lhs op rhs =>
    intro ignored s _ hs
    simp only [eval]
    cases s.expand lhs with
    | none => exact hs
    | some a =>
      cases s.expand rhs with
      | none | some => exact hs
  | pipe stages =>
    intro ignored s hkeep hs
    exact runStages_world H I stages s "" hkeep hs
  | assign name body ih =>
    intro ignored s hkeep hs
    exact ih ignored { s with out := "" } hkeep hs
  | seq a b iha ihb =>
    intro ignored s hkeep hs
    have ha := iha ignored s
      (fun words h => hkeep words (List.mem_append_left _ h)) hs
    have hb := fun s' => ihb ignored s'
      (fun words h => hkeep words (List.mem_append_right _ h))
    cases state_seq H ignored a b s with
    | inl heq => exact heq ▸ ha
    | inr heq => exact heq ▸ hb _ ha
  | andThen a b iha ihb =>
    intro ignored s hkeep hs
    have ha := iha true s (fun words h => hkeep words (List.mem_append_left _ h)) hs
    have hb := fun s' => ihb ignored s'
      (fun words h => hkeep words (List.mem_append_right _ h))
    cases state_andThen H ignored a b s with
    | inl heq => exact heq ▸ ha
    | inr heq => exact heq ▸ hb _ ha
  | orElse a b iha ihb =>
    intro ignored s hkeep hs
    have ha := iha true s (fun words h => hkeep words (List.mem_append_left _ h)) hs
    have hb := fun s' => ihb ignored s'
      (fun words h => hkeep words (List.mem_append_right _ h))
    cases state_orElse H ignored a b s with
    | inl heq => exact heq ▸ ha
    | inr heq => exact heq ▸ hb _ ha
  | ifElse c a b ihc iha ihb =>
    intro ignored s hkeep hs
    have hc := ihc true s (fun words h => hkeep words (List.mem_append_left _ h)) hs
    have ha := fun s' => iha ignored s' (fun words h =>
      hkeep words (List.mem_append_right _ (List.mem_append_left _ h)))
    have hb := fun s' => ihb ignored s' (fun words h =>
      hkeep words (List.mem_append_right _ (List.mem_append_right _ h)))
    obtain heq | heq | heq := state_ifElse H ignored c a b s
    · exact heq ▸ hc
    · exact heq ▸ ha _ hc
    · exact heq ▸ hb _ hc

theorem holds_world {I : σ → Prop}
    (hkeep : ∀ words ∈ scriptCommands cs, ∀ argv, fits words argv = true →
      ∀ w stdin, I w → I (H.exec w argv stdin).1) :
    Holds H (fun s => I s.world) cs (fun s => I s.world) (fun s => I s.world) := by
  induction cs with
  | nil => intro s hs; exact hs
  | cons c cs ih =>
    intro s hs
    have hc := eval_world H I c false s
      (fun words h => hkeep words (List.mem_append_left _ h)) hs
    simp only [runScript]
    cases hr : eval H false c s with
    | mk s' flow =>
      rw [hr] at hc
      cases flow with
      | exited n => exact hc
      | next n =>
        exact ih (fun words h => hkeep words (List.mem_append_right _ h)) s' hc

theorem fits_literal {texts : List String} (h : fits (texts.map Word.lit) argv = true) :
    argv = texts := by
  induction texts generalizing argv with
  | nil =>
    cases argv with
    | nil => rfl
    | cons a as => simp [fits] at h
  | cons t ts ih =>
    cases argv with
    | nil => simp [fits] at h
    | cons a as =>
      simp only [List.map_cons, fits, Bool.and_eq_true, beq_iff_eq] at h
      rw [← h.1, ih h.2]

/-! ## Single commands -/

theorem expandAll_congr (hvars : s.vars = s'.vars) (hstrict : s.strict = s'.strict)
    (words : List Word) : s.expandAll words = s'.expandAll words := by
  have hexpand : ∀ w, s.expand w = s'.expand w := by
    intro w
    cases w with
    | lit text => rfl
    | var name => simp only [St.expand, hvars, hstrict]
  induction words with
  | nil => rfl
  | cons w ws ih => simp only [St.expandAll, hexpand, ih]

theorem settle_zero (strict ignored : Bool) : settle strict ignored 0 = .next 0 := by
  unfold settle
  rw [if_neg]
  exact fun h => h.1 rfl

theorem settle_fails (h : status ≠ 0) : settle true false status = .exited status := by
  unfold settle
  rw [if_pos ⟨h, rfl, rfl⟩]

theorem settle_status (strict ignored : Bool) (status : Nat) :
    (settle strict ignored status).status = status := by
  unfold settle
  split_ifs <;> rfl

/-- The state after a command that sets `name` to `value` and leaves `world`. -/
structure Captured (s s' : St σ) (name value : String) (world : σ) : Prop where
  world : s'.world = world
  strict : s'.strict = s.strict
  vars : ∀ x, s'.vars x = if x = name then some value else s.vars x

theorem eval_assign {body : Sh} {flow : Flow} (name : String)
    (h : eval H false body { s with out := "" } = (s', flow)) (hout : s'.out = out) :
    ∃ s'', eval H false (.assign name body) s = (s'', settle s.strict false flow.status) ∧
      Captured s s'' name (stripNewlines out) s'.world := by
  refine ⟨({ s' with vars := s.vars, strict := s.strict, out := s.out } : St σ).setVar name
    (stripNewlines s'.out), ?_, rfl, rfl, ?_⟩
  · simp only [eval, h]
  · intro x
    rw [← hout]
    rfl

theorem eval_assign_run (H : Host σ) (s : St σ) (name : String) (argv : List String) :
    ∃ s', eval H false (.assign name (.run (argv.map Word.lit))) s =
        (s', settle s.strict false (H.exec s.world argv "").2.1) ∧
      Captured s s' name (stripNewlines (H.exec s.world argv "").2.2)
        (H.exec s.world argv "").1 := by
  have hbody : eval H false (.run (argv.map Word.lit)) { s with out := "" } =
      (((call H { s with out := "" } argv "").1.print (H.exec s.world argv "").2.2),
        settle s.strict false (H.exec s.world argv "").2.1) := by
    simp only [eval, expandAll_literal, call]
  have hout : ((call H { s with out := "" } argv "").1.print (H.exec s.world argv "").2.2).out =
      (H.exec s.world argv "").2.2 := by
    simp [call, St.print]
  have hassign := eval_assign name hbody hout
  rwa [settle_status] at hassign

theorem eval_assign_run_or_noop (H : Host σ) (s : St σ) (name : String) (argv : List String) :
    ∃ s', eval H false (.assign name (.orElse (.run (argv.map Word.lit)) .noop)) s =
        (s', .next 0) ∧
      Captured s s' name (stripNewlines (H.exec s.world argv "").2.2)
        (H.exec s.world argv "").1 := by
  have hsettle : settle s.strict true (H.exec s.world argv "").2.1 =
      .next (H.exec s.world argv "").2.1 := by
    simp [settle]
  have hbody : eval H false (.orElse (.run (argv.map Word.lit)) .noop) { s with out := "" } =
      ((call H { s with out := "" } argv "").1.print (H.exec s.world argv "").2.2,
        .next 0) := by
    simp only [eval, expandAll_literal, call, hsettle]
    cases (H.exec s.world argv "").2.1 with
    | zero => rfl
    | succ n => rfl
  have hout : ((call H { s with out := "" } argv "").1.print (H.exec s.world argv "").2.2).out =
      (H.exec s.world argv "").2.2 := by
    simp [call, St.print]
  have hassign := eval_assign name hbody hout
  rwa [show Flow.status (.next 0) = 0 from rfl, settle_zero] at hassign

theorem eval_assign_pipe (H : Host σ) {first : List Word} (name : String) (second : List String)
    (hfirst : s.expandAll first = some argv) :
    let r := H.exec s.world argv ""
    let r' := H.exec r.1 second r.2.2
    ∃ s', eval H false (.assign name (.pipe [first, second.map Word.lit])) s =
        (s', settle s.strict false r'.2.1) ∧
      Captured s s' name (stripNewlines r'.2.2) r'.1 := by
  intro r r'
  have hexpand : ({ s with out := "" } : St σ).expandAll first = some argv := by
    rw [← hfirst]
    exact @expandAll_congr σ { s with out := "" } s rfl rfl first
  have hbody : eval H false (.pipe [first, second.map Word.lit]) { s with out := "" } =
      ((call H (call H { s with out := "" } argv "").1 second r.2.2).1.print r'.2.2,
        settle s.strict false r'.2.1) := by
    simp only [eval, runStages, hexpand, expandAll_literal, call]
    rfl
  have hout : ((call H (call H { s with out := "" } argv "").1 second r.2.2).1.print
      r'.2.2).out = r'.2.2 := by
    simp [call, St.print]
  have hassign := eval_assign name hbody hout
  rwa [settle_status] at hassign

/-- The command succeeds, changes nothing on the machine and sets `name` to `value`. -/
def Reads (H : Host σ) (c : Sh) (s : St σ) (name value : String) : Prop :=
  ∃ s', eval H false c s = (s', .next 0) ∧ Captured s s' name value s.world

/-- The command ends the shell and changes nothing on the machine. -/
def Stops (H : Host σ) (c : Sh) (s : St σ) : Prop :=
  (∃ n, (eval H false c s).2 = .exited n) ∧ (eval H false c s).1.world = s.world

section

variable (name : String)

theorem reads_run (h : H.exec s.world argv "" = (s.world, 0, out)) :
    Reads H (.assign name (.run (argv.map Word.lit))) s name (stripNewlines out) := by
  have hassign := eval_assign_run H s name argv
  rwa [h, settle_zero] at hassign

/-- A command of an assignment that fails ends the shell. -/
theorem stops_run (hstrict : s.strict = true) (h : H.exec s.world argv "" = (s.world, status, out))
    (hfails : status ≠ 0) : Stops H (.assign name (.run (argv.map Word.lit))) s := by
  have hassign := eval_assign_run H s name argv
  rw [h, hstrict, settle_fails hfails] at hassign
  obtain ⟨s', heval, hcaptured⟩ := hassign
  unfold Stops
  rw [heval]
  exact ⟨⟨status, rfl⟩, hcaptured.world⟩

theorem reads_run_or_noop (h : H.exec s.world argv "" = (s.world, status, out)) :
    Reads H (.assign name (.orElse (.run (argv.map Word.lit)) .noop)) s name
      (stripNewlines out) := by
  have hassign := eval_assign_run_or_noop H s name argv
  rwa [h] at hassign

theorem reads_pipe {first : List Word} {second : List String} {mid : String}
    (hfirst : s.expandAll first = some argv) (h : H.exec s.world argv "" = (s.world, status, mid))
    (h' : H.exec s.world second mid = (s.world, 0, out)) :
    Reads H (.assign name (.pipe [first, second.map Word.lit])) s name (stripNewlines out) := by
  have hassign := eval_assign_pipe H name second hfirst
  dsimp only at hassign
  rwa [h, h', settle_zero] at hassign

end

theorem eval_stopIfDiffer_eq {value : String} (message : List Word) (status : Nat)
    (hl : s.expand lhs = some value) (hr : s.expand rhs = some value) :
    eval H false (stopIfDiffer lhs rhs message status) s = (s, .next 0) := by
  simp [stopIfDiffer, Sh.ifThen, eval, hl, hr, settle]

theorem exits_stopIfDiffer {a b : String} (argv : List String) (status : Nat)
    (hl : s.expand lhs = some a) (hr : s.expand rhs = some b) (hne : a ≠ b) :
    (∃ n, (eval H false (stopIfDiffer lhs rhs (argv.map Word.lit) status) s).2 = .exited n) ∧
      (eval H false (stopIfDiffer lhs rhs (argv.map Word.lit) status) s).1.world =
        (H.exec s.world argv "").1 := by
  have htest : eval H true (.test lhs .ne rhs) s = (s, .next 0) := by
    simp [eval, hl, hr, hne, settle]
  have hmessage : eval H false (.run (argv.map Word.lit)) s =
      ((call H s argv "").1.print (call H s argv "").2.2,
        settle s.strict false (call H s argv "").2.1) := by
    simp only [eval, expandAll_literal]
  unfold stopIfDiffer Sh.ifThen
  simp only [eval.eq_def H false (.ifElse _ _ _), htest, eval.eq_def H false (.seq _ _),
    hmessage]
  cases settle s.strict false (call H s argv "").2.1 with
  | exited n => exact ⟨⟨n, rfl⟩, rfl⟩
  | next n => exact ⟨⟨status, rfl⟩, rfl⟩

theorem runScript_next {n : Nat} (h : eval H false c s = (s', .next n)) :
    runScript H (c :: cs) s = runScript H cs s' := by
  simp only [runScript, h]

theorem runScript_stops (cs : List Sh) (h : Stops H c s) :
    ∃ s' n, runScript H (c :: cs) s = (s', .exited n) ∧ s'.world = s.world := by
  obtain ⟨⟨n, hflow⟩, hworld⟩ := h
  refine ⟨(eval H false c s).1, n, ?_, hworld⟩
  simp only [runScript]
  cases hr : eval H false c s with
  | mk s' flow =>
    rw [hr] at hflow
    dsimp only at hflow
    rw [hflow]

/-- The script goes on when `P` holds and ends the shell when not; it only reads. -/
def Guards (H : Host σ) (cs : List Sh) (P : Prop) (s : St σ) : Prop :=
  (P → ∃ s' n, runScript H cs s = (s', .next n) ∧ s'.world = s.world) ∧
    (¬ P → ∃ s' n, runScript H cs s = (s', .exited n) ∧ s'.world = s.world)

theorem guards_append {as bs : List Sh} {P Q : Prop} (ha : Guards H as P s)
    (hb : P → ∀ s' n, runScript H as s = (s', .next n) → s'.world = s.world → Guards H bs Q s') :
    Guards H (as ++ bs) (P ∧ Q) s := by
  by_cases hP : P
  · obtain ⟨s', n, hrun, hworld⟩ := ha.1 hP
    have hb' := hb hP s' n hrun hworld
    constructor
    · intro h
      obtain ⟨s'', n', hrun', hworld'⟩ := hb'.1 h.2
      exact ⟨s'', n', by rw [runScript_append, hrun]; exact hrun', hworld'.trans hworld⟩
    · intro h
      obtain ⟨s'', n', hrun', hworld'⟩ := hb'.2 (fun hQ => h ⟨hP, hQ⟩)
      exact ⟨s'', n', by rw [runScript_append, hrun]; exact hrun', hworld'.trans hworld⟩
  · obtain ⟨s', n, hrun, hworld⟩ := ha.2 hP
    constructor
    · intro h
      exact absurd h.1 hP
    · intro _
      exact ⟨s', n, by rw [runScript_append, hrun], hworld⟩

theorem guards_compare {name value : String} (hreads : Reads H c s name value) (expected : String)
    (message : List String) (status : Nat) (hmessage : (H.exec s.world message "").1 = s.world) :
    Guards H
      [c, stopIfDiffer (.var name) (.lit expected) (message.map Word.lit) status]
      (value = expected) s := by
  obtain ⟨s', heval, hworld, _, hvars⟩ := hreads
  have hexpand : s'.expand (.var name) = some value := by
    simp [St.expand, hvars]
  constructor
  · intro heq
    have hpass := eval_stopIfDiffer_eq (H := H) (message.map Word.lit) status hexpand
      (show s'.expand (.lit expected) = some value by rw [heq]; rfl)
    exact ⟨s', 0, by rw [runScript_next heval, runScript_next hpass]; rfl, hworld⟩
  · intro hne
    have hexits := exits_stopIfDiffer (H := H) message status hexpand
      (show s'.expand (.lit expected) = some expected from rfl) hne
    rw [hworld, hmessage, ← hworld] at hexits
    obtain ⟨s'', n, hrun, hworld'⟩ := runScript_stops [] hexits
    exact ⟨s'', n, by rw [runScript_next heval]; exact hrun, hworld'.trans hworld⟩

end CephAi.Verified.Shell
