import CephAi.Ports.EnvFile
import Mathlib.Data.List.Induction

/-!
# What was written to the `.env` file is read back

`apply_env_updates`, `write_env_lines` and `read_env_values` of `shared/env_config.py`, for the
variables that an update names.

The writer replaces the first line of a variable, the reader answers with the last one: where the
file has several lines of the variable, the reader goes on with the one that was left.  And a value
is read as far as `str.splitlines` lets its first line go.

## Main results

* `filter_replaceLines_named` — the lines of a variable after an update that names it.
* `round_trip_iff` — when every value that was written is read back.
-/

namespace CephAi.Ports.EnvFile

open Verified.Lines

/-- The line holds no line break. -/
def OneLine (line : List Char) : Prop := ∀ c ∈ line, isLineEnd c = false

instance (line : List Char) : Decidable (OneLine line) :=
  decidable_of_iff (line.all fun c => isLineEnd c = false) (by simp [OneLine])

/-- The last of the lines that are left behind the first one, if there is one, is this line. -/
def LastIs (lines : List (List Char)) (line : List Char) : Prop :=
  ∀ last, lines.getLast? = some last → last = line

/-- No value has a line break, and where a variable has several lines the last one already says
what the update writes. -/
def ReadsBack (lines : List (List Char)) (fields : Fields) : Prop :=
  ∀ field ∈ fields, OneLine field.2 ∧
    LastIs (lines.filter (isLineOf field.1)).tail (assignment field.1 field.2)

/-! ## The lines of a variable that is named -/

theorem isLineOf_assignment (name : Name) (value : List Char) :
    isLineOf name (assignment name value) = true :=
  isLineOf_iff.mpr ⟨value, rfl⟩

variable {field : Name × List Char} {lines : List (List Char)} {name : Name}

theorem oneLine_assignment {value : List Char} :
    OneLine (assignment name value) ↔ OneLine value := by
  constructor
  · intro h c hc
    exact h c (List.mem_append_right name.chars (List.mem_cons_of_mem '=' hc))
  · intro h c hc
    rcases List.mem_append.mp hc with hc | hc
    · exact name.oneLine c hc
    · rcases List.mem_cons.mp hc with rfl | hc
      · rfl
      · exact h c hc

theorem drop_assignment (name : Name) (value : List Char) :
    (assignment name value).drop (name.chars.length + 1) = value := by
  unfold assignment
  rw [List.drop_append, List.drop_of_length_le (Nat.le_succ _), Nat.add_sub_cancel_left]
  rfl

theorem filter_replaceLines_unnamed {remaining : Fields}
    (hname : ∀ field ∈ remaining, field.1 ≠ name) :
    (replaceLines lines remaining).filter (isLineOf name) = lines.filter (isLineOf name) := by
  induction lines generalizing remaining with
  | nil =>
    rw [List.filter_nil, List.filter_eq_nil_iff]
    intro line hline
    obtain ⟨field, hfield, rfl⟩ := List.mem_map.mp hline
    rw [isLineOf_of_ne (hname field hfield) (isLineOf_assignment _ _)]
    exact Bool.false_ne_true
  | cons line lines ih =>
    unfold replaceLines
    split
    · rename_i field hfind
      have hmem := List.mem_of_find?_eq_some hfind
      have hfield : isLineOf field.1 line = true := by
        have hfound := List.find?_some hfind
        exact hfound
      have hne := hname field hmem
      rw [List.filter_cons, List.filter_cons, isLineOf_of_ne hne (isLineOf_assignment _ _),
        isLineOf_of_ne hne hfield, if_neg Bool.false_ne_true, if_neg Bool.false_ne_true,
        ih fun field' hfield' => hname field' (List.mem_of_mem_erase hfield')]
    · rw [List.filter_cons, List.filter_cons, ih hname]

/-- **The lines of a variable that is named.**  The first one is written, the others stay. -/
theorem filter_replaceLines_named {remaining : Fields} (hdict : (remaining.map Prod.fst).Nodup)
    (hfield : field ∈ remaining) :
    (replaceLines lines remaining).filter (isLineOf field.1) =
      assignment field.1 field.2 :: (lines.filter (isLineOf field.1)).tail := by
  have hothers : ∀ field' ∈ remaining.erase field, field'.1 ≠ field.1 := by
    have hperm := (List.perm_cons_erase hfield).map Prod.fst
    rw [hperm.nodup_iff, List.map_cons, List.nodup_cons] at hdict
    intro field' hfield' heq
    exact hdict.1 (heq ▸ List.mem_map_of_mem hfield')
  induction lines generalizing remaining with
  | nil =>
    have hperm : ((replaceLines [] remaining).filter (isLineOf field.1)).Perm
        [assignment field.1 field.2] := by
      have hfirst := ((List.perm_cons_erase hfield).map
        fun field : Name × List Char => assignment field.1 field.2).filter (isLineOf field.1)
      rw [List.map_cons, List.filter_cons, isLineOf_assignment, if_pos rfl] at hfirst
      refine hfirst.trans (List.Perm.of_eq ?_)
      have hnone := @filter_replaceLines_unnamed [] field.1 _ hothers
      unfold replaceLines at hnone
      rw [hnone]
      rfl
    exact List.perm_singleton.mp hperm
  | cons line lines ih =>
    unfold replaceLines
    split
    · rename_i other hfind
      have hmem := List.mem_of_find?_eq_some hfind
      have hother : isLineOf other.1 line = true := by
        have hfound := List.find?_some hfind
        exact hfound
      by_cases heq : other = field
      · subst heq
        rw [List.filter_cons, isLineOf_assignment, if_pos rfl, List.filter_cons, hother,
          if_pos rfl, filter_replaceLines_unnamed hothers, List.tail_cons]
      · have hin : other ∈ remaining.erase field := (List.mem_erase_of_ne heq).mpr hmem
        have hne := hothers other hin
        have hkept : field ∈ remaining.erase other :=
          (List.mem_erase_of_ne fun h => heq h.symm).mpr hfield
        have hless : ((remaining.erase other).map Prod.fst).Nodup :=
          hdict.sublist (List.erase_sublist.map Prod.fst)
        rw [List.filter_cons, List.filter_cons, isLineOf_of_ne hne (isLineOf_assignment _ _),
          isLineOf_of_ne hne hother, if_neg Bool.false_ne_true, if_neg Bool.false_ne_true]
        apply ih hless hkept
        intro field' hfield'
        rw [List.erase_comm] at hfield'
        exact hothers field' (List.mem_of_mem_erase hfield')
    · rename_i hfind
      have hline : isLineOf field.1 line = false := by
        have hnot := List.find?_eq_none.mp hfind field hfield
        exact Bool.eq_false_iff.mpr hnot
      rw [List.filter_cons, List.filter_cons, hline, if_neg Bool.false_ne_true,
        if_neg Bool.false_ne_true, ih hdict hfield hothers]

/-! ## What is read -/

theorem readEnvValue_last (name : Name) (file : Option (List Char)) :
    readEnvValue name file =
      (linesOf name file).getLast?.map fun line => line.drop (name.chars.length + 1) := by
  rw [readEnvValue_eq]
  cases linesOf name file using List.reverseRecOn with
  | nil => rfl
  | append_singleton lines line =>
    rw [List.foldl_append, List.getLast?_concat]
    rfl

theorem oneLine_of_readEnvValue {file : Option (List Char)} {value : List Char}
    (h : readEnvValue name file = some value) : OneLine value := by
  rw [readEnvValue_last, Option.map_eq_some_iff] at h
  obtain ⟨line, hline, rfl⟩ := h
  have hmem : line ∈ envLines file := List.mem_of_mem_filter (List.mem_of_getLast? hline)
  intro c hc
  exact no_lineEnd_of_mem_envLines hmem c (List.mem_of_mem_drop hc)

theorem flatMap_pieces (h : ∀ line ∈ lines, OneLine line) : lines.flatMap pieces = lines := by
  induction lines with
  | nil => rfl
  | cons line lines ih =>
    rw [List.flatMap_cons, pieces_of_no_lineEnd (h line List.mem_cons_self),
      ih fun line' hline' => h line' (List.mem_cons_of_mem line hline')]
    rfl

theorem linesOf_written (hlines : ∀ line ∈ lines, OneLine line) {fields : Fields}
    (hdict : (fields.map Prod.fst).Nodup) (hvalues : ∀ field ∈ fields, OneLine field.2)
    (hfield : field ∈ fields) :
    linesOf field.1 (some (render (replaceLines lines fields))) =
      assignment field.1 field.2 :: (lines.filter (isLineOf field.1)).tail := by
  have hwritten : ∀ line ∈ replaceLines lines fields, OneLine line := by
    intro line hline
    rcases mem_replaceLines hline with hline | ⟨field', hfield', rfl⟩
    · exact hlines line hline
    · exact oneLine_assignment.mpr (hvalues field' hfield')
  rw [linesOf_render, flatMap_pieces hwritten, filter_replaceLines_named hdict hfield]
  intro line hline hmem
  exact absurd (hwritten line hline _ hmem) (by decide)

theorem readEnvValue_written (hlines : ∀ line ∈ lines, OneLine line) {fields : Fields}
    (hdict : (fields.map Prod.fst).Nodup) (hvalues : ∀ field ∈ fields, OneLine field.2)
    (hfield : field ∈ fields) :
    readEnvValue field.1 (some (render (replaceLines lines fields))) = some field.2 ↔
      LastIs (lines.filter (isLineOf field.1)).tail (assignment field.1 field.2) := by
  rw [readEnvValue_last, linesOf_written hlines hdict hvalues hfield]
  unfold LastIs
  cases hlast : (lines.filter (isLineOf field.1)).tail.getLast? with
  | none =>
    rw [List.getLast?_eq_none_iff] at hlast
    rw [hlast, List.getLast?_singleton, Option.map_some, drop_assignment]
    exact iff_of_true rfl fun _ h => (nomatch h)
  | some last =>
    have hmem := List.mem_of_getLast? hlast
    have hline : isLineOf field.1 last = true :=
      List.of_mem_filter (List.mem_of_mem_tail hmem)
    obtain ⟨value, rfl⟩ := isLineOf_iff.mp hline
    rw [List.getLast?_cons, hlast, Option.getD_some, Option.map_some, drop_assignment]
    constructor
    · intro hvalue last heq
      cases hvalue
      cases heq
      rfl
    · intro h
      have heq := congrArg (List.drop (field.1.chars.length + 1)) (h _ rfl)
      rw [drop_assignment, drop_assignment] at heq
      rw [heq]

/-- **Every value that was written is read back** exactly if no value has a line break and, where a
variable has several lines, the last one already says what the update writes. -/
theorem round_trip_iff (lines : List (List Char)) (hlines : ∀ line ∈ lines, OneLine line)
    (fields : Fields) (hdict : (fields.map Prod.fst).Nodup) (written : List (List Char))
    (happly : applyEnvUpdates lines fields = some written) :
    (∀ field ∈ fields, readEnvValue field.1 (some (render written)) = some field.2) ↔
      ReadsBack lines fields := by
  have hwritten : replaceLines lines fields = written := by
    unfold applyEnvUpdates at happly
    split at happly
    · cases happly
      rfl
    · cases happly
  subst hwritten
  constructor
  · intro h
    have hvalues : ∀ field ∈ fields, OneLine field.2 :=
      fun field hfield => oneLine_of_readEnvValue (h field hfield)
    intro field hfield
    exact ⟨hvalues field hfield,
      (readEnvValue_written hlines hdict hvalues hfield).mp (h field hfield)⟩
  · intro h field hfield
    exact (readEnvValue_written hlines hdict (fun field hfield => (h field hfield).1) hfield).mpr
      (h field hfield).2

def twice : List (List Char) := [['K', '=', '1'], ['X', '=', '0'], ['K', '=', '2']]

/-- The line that is left is the one that is read. -/
theorem old_value_read :
    applyEnvUpdates twice [(key, ['3'])] =
        some [['K', '=', '3'], ['X', '=', '0'], ['K', '=', '2']] ∧
      readEnvValue key (some (render [['K', '=', '3'], ['X', '=', '0'], ['K', '=', '2']])) =
        some ['2'] := by
  decide

theorem round_trip_iff_again :
    (∀ field ∈ [(key, ['2']), (other, [])],
        readEnvValue field.1 (some (render [['K', '=', '2'], ['X', '='], ['K', '=', '2']])) =
          some field.2) ↔
      ReadsBack twice [(key, ['2']), (other, [])] := by
  exact round_trip_iff twice (by decide) [(key, ['2']), (other, [])] (by decide) _ rfl

end CephAi.Ports.EnvFile
