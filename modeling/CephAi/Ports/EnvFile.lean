import CephAi.Verified.Lines
import CephAi.Verified.Runs
import Mathlib.Data.List.Perm.Basic

/-!
# Updates of the `.env` file

`apply_env_updates`, `write_env_lines`, `read_env_values` and `update_env_file_batch` of
`shared/env_config.py`.

A value with `\n` or `\r` in it is refused.  The file is split where `str.splitlines` does, which
is at more characters: the rest of a value that holds one of them is a line of its own for every
reader, and for the next update.

## Main results

* `linesOf_step` — what an update adds to the lines of a variable that it does not name.
* `unchanged_iff` — the variables that no update names read as before exactly when no value
  holds a line of one of them.
-/

namespace CephAi.Ports.EnvFile

open Verified.Lines Verified.Runs

/-- The name of a variable. -/
structure Name where
  chars : List Char
  noEquals : '=' ∉ chars
  oneLine : ∀ c ∈ chars, isLineEnd c = false
deriving DecidableEq

/-- `f"{name}={value}"` -/
def assignment (name : Name) (value : List Char) : List Char := name.chars ++ '=' :: value

/-- `line.startswith(f"{name}=")` -/
def isLineOf (name : Name) (line : List Char) : Bool := (assignment name []).isPrefixOf line

/-- The fields of an update. -/
abbrev Fields := List (Name × List Char)

/-- The second loop of `apply_env_updates`, and what it is left with. -/
def replaceLines : List (List Char) → Fields → List (List Char)
  | [], remaining => remaining.map fun field => assignment field.1 field.2
  | line :: lines, remaining =>
    match remaining.find? fun field => isLineOf field.1 line with
    | some field => assignment field.1 field.2 :: replaceLines lines (remaining.erase field)
    | none => line :: replaceLines lines remaining

/-- A value without `\n` and `\r`. -/
def accepted (value : List Char) : Bool := !value.contains '\n' && !value.contains '\r'

/-- `apply_env_updates`; `none` where it raises. -/
def applyEnvUpdates (lines : List (List Char)) (fields : Fields) : Option (List (List Char)) :=
  if fields.all fun field => accepted field.2 then some (replaceLines lines fields) else none

/-- The lines of the file, if there is one. -/
def envLines : Option (List Char) → List (List Char)
  | none => []
  | some text => splitlines (readText text)

def readEnvValue (name : Name) (file : Option (List Char)) : Option (List Char) :=
  (envLines file).foldl (fun value line =>
    if isLineOf name line = true then some (line.drop (name.chars.length + 1)) else value) none

def updateEnvFileBatch (file : Option (List Char)) (fields : Fields) :
    Option (Option (List Char)) :=
  match applyEnvUpdates (envLines file) fields with
  | none => none
  | some lines => some (some (render lines))

/-- Updates one after the other. -/
def system : System (Option (List Char)) Fields := ⟨updateEnvFileBatch⟩

/-! ## The law -/

/-- The lines of a variable. -/
def linesOf (name : Name) (file : Option (List Char)) : List (List Char) :=
  (envLines file).filter (isLineOf name)

/-- No update names the variable. -/
def Unnamed (updates : List Fields) (name : Name) : Prop :=
  ∀ fields ∈ updates, ∀ field ∈ fields, field.1 ≠ name

/-- Every variable that no update names has the lines it had, and reads as it did. -/
def Unchanged (file file' : Option (List Char)) (updates : List Fields) : Prop :=
  ∀ name, Unnamed updates name →
    linesOf name file' = linesOf name file ∧ readEnvValue name file' = readEnvValue name file

/-- The lines that a value has behind its first one. -/
def furtherLines (value : List Char) : List (List Char) := (pieces value).tail

/-- No value of the updates has a line of a variable that they do not name. -/
def Contained (updates : List Fields) : Prop :=
  ∀ name, Unnamed updates name → ∀ fields ∈ updates, ∀ field ∈ fields,
    ∀ line ∈ furtherLines field.2, isLineOf name line = false

/-! ## Lines of a variable -/

theorem eq_of_append_equals {before before' after after' : List Char} (h : '=' ∉ before)
    (h' : '=' ∉ before') (heq : before ++ '=' :: after = before' ++ '=' :: after') :
    before = before' := by
  induction before generalizing before' with
  | nil =>
    cases before' with
    | nil => rfl
    | cons c before' =>
      rw [List.nil_append, List.cons_append, List.cons.injEq] at heq
      exact absurd List.mem_cons_self (heq.1 ▸ h')
  | cons c before ih =>
    cases before' with
    | nil =>
      rw [List.nil_append, List.cons_append, List.cons.injEq] at heq
      exact absurd List.mem_cons_self (heq.1 ▸ h)
    | cons c' before' =>
      rw [List.cons_append, List.cons_append, List.cons.injEq] at heq
      have htail := ih (fun hmem => h (List.mem_cons_of_mem c hmem))
        (fun hmem => h' (List.mem_cons_of_mem c' hmem)) heq.2
      rw [heq.1, htail]

variable {file : Option (List Char)} {line : List Char} {lines : List (List Char)}
    {name name' : Name}

theorem isLineOf_iff : isLineOf name line = true ↔ ∃ value, line = assignment name value := by
  unfold isLineOf assignment
  rw [List.isPrefixOf_iff_prefix]
  constructor
  · rintro ⟨value, rfl⟩
    exact ⟨value, by rw [List.append_assoc]; rfl⟩
  · rintro ⟨value, rfl⟩
    exact ⟨value, by rw [List.append_assoc]; rfl⟩

theorem eq_of_isLineOf (h : isLineOf name line = true) (h' : isLineOf name' line = true) :
    name = name' := by
  obtain ⟨value, rfl⟩ := isLineOf_iff.mp h
  obtain ⟨value', heq⟩ := isLineOf_iff.mp h'
  have hchars := eq_of_append_equals name.noEquals name'.noEquals heq
  cases name
  cases name'
  cases hchars
  rfl

theorem isLineOf_of_ne (hne : name' ≠ name) (h : isLineOf name' line = true) :
    isLineOf name line = false := by
  cases hline : isLineOf name line with
  | false => rfl
  | true => exact absurd (eq_of_isLineOf h hline) hne

theorem pieces_assignment (name : Name) (value : List Char) :
    ∃ first, pieces (assignment name value) = assignment name first :: furtherLines value := by
  have hsplit : ∀ before : List Char, (∀ c ∈ before, isLineEnd c = false) → ∀ first rest,
      pieces value = first :: rest → pieces (before ++ value) = (before ++ first) :: rest := by
    intro before
    induction before with
    | nil =>
      intro _ first rest hvalue
      exact hvalue
    | cons c before ih =>
      intro hbefore first rest hvalue
      have hc := hbefore c List.mem_cons_self
      have hrest := ih (fun c' hc' => hbefore c' (List.mem_cons_of_mem c hc')) first rest hvalue
      unfold pieces at hrest ⊢
      rw [List.cons_append, List.splitOnP_cons_eq_if_modifyHead, hc, if_neg Bool.false_ne_true,
        hrest]
      rfl
  unfold furtherLines
  cases hvalue : pieces value with
  | nil => exact absurd hvalue (List.splitOnP_ne_nil isLineEnd value)
  | cons first rest =>
    refine ⟨first, ?_⟩
    have hbefore : ∀ c ∈ name.chars ++ ['='], isLineEnd c = false := by
      intro c hc
      rcases List.mem_append.mp hc with hc | hc
      · exact name.oneLine c hc
      · rw [List.mem_singleton.mp hc]
        rfl
    have hpieces := hsplit (name.chars ++ ['=']) hbefore first rest hvalue
    rw [List.append_assoc, List.append_assoc] at hpieces
    exact hpieces

theorem filter_pieces_assignment (hne : name' ≠ name) (value : List Char) :
    (pieces (assignment name' value)).filter (isLineOf name) =
      (furtherLines value).filter (isLineOf name) := by
  obtain ⟨first, hpieces⟩ := pieces_assignment name' value
  have hfirst := isLineOf_of_ne hne (isLineOf_iff.mpr ⟨first, rfl⟩)
  rw [hpieces, List.filter_cons, hfirst, if_neg Bool.false_ne_true]

/-! ## One update -/

/-- The further lines of all values. -/
def further (fields : Fields) : List (List Char) := fields.flatMap fun field => furtherLines field.2

theorem filter_replaceLines (hlines : ∀ line ∈ lines, ∀ c ∈ line, isLineEnd c = false)
    {remaining : Fields} (hname : ∀ field ∈ remaining, field.1 ≠ name) :
    (lines.filter (isLineOf name)).Sublist
        (((replaceLines lines remaining).flatMap pieces).filter (isLineOf name)) ∧
      (((replaceLines lines remaining).flatMap pieces).filter (isLineOf name)).length =
        (lines.filter (isLineOf name)).length + (further remaining).countP (isLineOf name) := by
  induction lines generalizing remaining with
  | nil =>
    refine ⟨List.nil_sublist _, ?_⟩
    rw [List.filter_nil, List.length_nil, Nat.zero_add]
    unfold replaceLines further
    induction remaining with
    | nil => rfl
    | cons field remaining ih =>
      have hne := hname field List.mem_cons_self
      have hrest := ih fun field' hfield' => hname field' (List.mem_cons_of_mem field hfield')
      rw [List.map_cons, List.flatMap_cons, List.filter_append, List.length_append, hrest,
        filter_pieces_assignment hne, List.flatMap_cons, List.countP_append,
        ← List.countP_eq_length_filter]
  | cons line lines ih =>
    have hrest : ∀ line' ∈ lines, ∀ c ∈ line', isLineEnd c = false :=
      fun line' hline' => hlines line' (List.mem_cons_of_mem line hline')
    unfold replaceLines
    split
    · rename_i field hfind
      have hmem := List.mem_of_find?_eq_some hfind
      have hfield : isLineOf field.1 line = true := by
        have hfound := List.find?_some hfind
        exact hfound
      have hline := isLineOf_of_ne (hname field hmem) hfield
      obtain ⟨hsub, hlength⟩ := ih hrest fun field' hfield' =>
        hname field' (List.mem_of_mem_erase hfield')
      rw [List.flatMap_cons, List.filter_append, filter_pieces_assignment (hname field hmem),
        List.filter_cons, hline, if_neg Bool.false_ne_true]
      refine ⟨hsub.trans (List.sublist_append_right _ _), ?_⟩
      have hperm : (further remaining).countP (isLineOf name) =
          (further (field :: remaining.erase field)).countP (isLineOf name) :=
        ((List.perm_cons_erase hmem).flatMap_right _).countP_eq _
      rw [List.length_append, hlength, hperm]
      unfold further
      rw [List.flatMap_cons, List.countP_append, ← List.countP_eq_length_filter]
      omega
    · obtain ⟨hsub, hlength⟩ := ih hrest hname
      rw [List.flatMap_cons, pieces_of_no_lineEnd (hlines line List.mem_cons_self),
        List.singleton_append, List.filter_cons, List.filter_cons]
      split
      · refine ⟨hsub.cons_cons line, ?_⟩
        rw [List.length_cons, List.length_cons, hlength]
        omega
      · exact ⟨hsub, hlength⟩

theorem mem_replaceLines {remaining : Fields} (h : line ∈ replaceLines lines remaining) :
    line ∈ lines ∨ ∃ field ∈ remaining, line = assignment field.1 field.2 := by
  induction lines generalizing remaining with
  | nil =>
    obtain ⟨field, hfield, rfl⟩ := List.mem_map.mp h
    exact .inr ⟨field, hfield, rfl⟩
  | cons line' lines ih =>
    unfold replaceLines at h
    split at h
    · rename_i field hfind
      rcases List.mem_cons.mp h with rfl | h
      · exact .inr ⟨field, List.mem_of_find?_eq_some hfind, rfl⟩
      · rcases ih h with h | ⟨field', hfield', heq⟩
        · exact .inl (List.mem_cons_of_mem line' h)
        · exact .inr ⟨field', List.mem_of_mem_erase hfield', heq⟩
    · rcases List.mem_cons.mp h with rfl | h
      · exact .inl List.mem_cons_self
      · rcases ih h with h | h
        · exact .inl (List.mem_cons_of_mem line' h)
        · exact .inr h

theorem no_lineEnd_of_mem_envLines (h : line ∈ envLines file) :
    ∀ c ∈ line, isLineEnd c = false := by
  cases file with
  | none => cases h
  | some text => exact no_lineEnd_of_mem_splitlines h

theorem no_return_of_accepted {value : List Char} (h : accepted value = true) :
    '\r' ∉ assignment name value := by
  intro hmem
  rcases List.mem_append.mp hmem with hmem | hmem
  · exact absurd (name.oneLine _ hmem) (by decide)
  · rcases List.mem_cons.mp hmem with heq | hmem
    · exact absurd heq (by decide)
    · simp [accepted, hmem] at h

theorem linesOf_render (hline : ∀ line ∈ lines, '\r' ∉ line) (name : Name) :
    linesOf name (some (render lines)) = (lines.flatMap pieces).filter (isLineOf name) := by
  unfold linesOf envLines
  by_cases hne : lines = []
  · subst hne
    have hempty : isLineOf name [] = false := by
      cases hnil : isLineOf name [] with
      | false => rfl
      | true =>
        obtain ⟨value, heq⟩ := isLineOf_iff.mp hnil
        exact absurd heq.symm (List.append_ne_nil_of_right_ne_nil _ (List.cons_ne_nil _ _))
    show List.filter (isLineOf name) [[]] = []
    rw [List.filter_cons, hempty, if_neg Bool.false_ne_true, List.filter_nil]
  · show List.filter (isLineOf name) (splitlines (readText (render lines))) = _
    rw [splitlines_render hne hline]

/-- **Step lemma.**  What an update leaves of the lines of a variable that it does not name, and how
many lines of it the values bring. -/
theorem linesOf_step {file' : Option (List Char)} {fields : Fields}
    (hname : ∀ field ∈ fields, field.1 ≠ name)
    (hstep : updateEnvFileBatch file fields = some file') :
    (linesOf name file).Sublist (linesOf name file') ∧
      (linesOf name file').length =
        (linesOf name file).length + (further fields).countP (isLineOf name) := by
  unfold updateEnvFileBatch applyEnvUpdates at hstep
  by_cases haccepted : (fields.all fun field => accepted field.2) = true
  · rw [if_pos haccepted] at hstep
    cases hstep
    rw [linesOf_render]
    · exact filter_replaceLines (fun line hline => no_lineEnd_of_mem_envLines hline) hname
    · intro line hline
      rcases mem_replaceLines hline with hline | ⟨field, hfield, rfl⟩
      · intro hmem
        exact absurd (no_lineEnd_of_mem_envLines hline _ hmem) (by decide)
      · exact no_return_of_accepted (List.all_eq_true.mp haccepted field hfield)
  · rw [if_neg haccepted] at hstep
    cases hstep

/-! ## A run of updates -/

/-- **Run lemma.** -/
theorem linesOf_run {updates : List Fields} (hname : Unnamed updates name)
    {file' : Option (List Char)} (hrun : system.run file updates = some file') :
    (linesOf name file).Sublist (linesOf name file') ∧
      (linesOf name file').length =
        (linesOf name file).length + (further updates.flatten).countP (isLineOf name) := by
  induction updates generalizing file with
  | nil =>
    rw [System.run_nil, Option.some.injEq] at hrun
    subst hrun
    exact ⟨List.Sublist.refl _, rfl⟩
  | cons fields updates ih =>
    obtain ⟨next, hstep, hrest⟩ := (system.run_cons_eq_some file file' fields updates).mp hrun
    obtain ⟨hsub, hlength⟩ := linesOf_step (hname fields List.mem_cons_self) hstep
    obtain ⟨hsub', hlength'⟩ :=
      ih (fun fields' hfields => hname fields' (List.mem_cons_of_mem fields hfields)) hrest
    refine ⟨hsub.trans hsub', ?_⟩
    rw [hlength', hlength]
    unfold further
    rw [List.flatten_cons, List.flatMap_append, List.countP_append, Nat.add_assoc]

theorem readEnvValue_eq (name : Name) (file : Option (List Char)) :
    readEnvValue name file = (linesOf name file).foldl
      (fun _ line => some (line.drop (name.chars.length + 1))) none := by
  unfold readEnvValue linesOf
  rw [List.foldl_filter]

/-- **What no update names reads as before**, and has the lines that it had, exactly when no value
has a line of it. -/
theorem unchanged_iff (file file' : Option (List Char)) (updates : List Fields)
    (hrun : system.run file updates = some file') :
    Unchanged file file' updates ↔ Contained updates := by
  have hcontained : ∀ name, (further updates.flatten).countP (isLineOf name) = 0 ↔
      ∀ fields ∈ updates, ∀ field ∈ fields, ∀ line ∈ furtherLines field.2,
        isLineOf name line = false := by
    intro name
    rw [List.countP_eq_zero]
    unfold further
    constructor
    · intro h fields hfields field hfield line hline
      exact Bool.not_eq_true _ ▸ h line (List.mem_flatMap.mpr
        ⟨field, List.mem_flatten.mpr ⟨fields, hfields, hfield⟩, hline⟩)
    · intro h line hline
      obtain ⟨field, hfield, hline⟩ := List.mem_flatMap.mp hline
      obtain ⟨fields, hfields, hfield⟩ := List.mem_flatten.mp hfield
      rw [h fields hfields field hfield line hline]
      exact Bool.false_ne_true
  constructor
  · intro h name hname
    obtain ⟨-, hlength⟩ := linesOf_run hname hrun
    rw [(h name hname).1] at hlength
    apply (hcontained name).mp
    omega
  · intro h name hname
    obtain ⟨hsub, hlength⟩ := linesOf_run hname hrun
    rw [(hcontained name).mpr (h name hname), Nat.add_zero] at hlength
    have hlines := (hsub.eq_of_length hlength.symm).symm
    refine ⟨hlines, ?_⟩
    rw [readEnvValue_eq, readEnvValue_eq, hlines]

def key : Name := ⟨['K'], by decide, List.forall_mem_singleton.mpr rfl⟩

def other : Name := ⟨['X'], by decide, List.forall_mem_singleton.mpr rfl⟩

def before : List Char := ['K', '=', '1', '\n']

/-- A value with a line separator in it. -/
def injecting : List Fields := [[(other, ['a', '\u2028', 'K', '=', '2'])]]

/-- An accepted value of one variable that sets another. -/
theorem other_variable_set :
    ¬∀ (file file' : Option (List Char)) (updates : List Fields),
      system.run file updates = some file' → Unchanged file file' updates := by
  intro h
  have hunnamed : Unnamed injecting key := by
    intro fields hfields field hfield
    rw [List.mem_singleton.mp hfields] at hfield
    rw [List.mem_singleton.mp hfield]
    decide
  have hread := (h (some before) _ injecting rfl key hunnamed).2
  exact absurd hread (by decide)

/-- The variable keeps its value through two updates of another one. -/
theorem unchanged_iff_twice :
    ∃ file', system.run (some before) [[(other, ['a'])], [(other, ['b', '='])]] = some file' ∧
      (Unchanged (some before) file' [[(other, ['a'])], [(other, ['b', '='])]] ↔
        Contained [[(other, ['a'])], [(other, ['b', '='])]]) :=
  ⟨_, rfl, unchanged_iff (some before) _ _ rfl⟩

end CephAi.Ports.EnvFile
