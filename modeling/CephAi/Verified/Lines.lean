import Mathlib.Data.List.Basic

/-!
# Lines of a text

A text is read with its newlines translated and split where `str.splitlines` does, which is at more
characters than the newline; it is written as lines joined by newlines.

## Main results

* `no_lineEnd_of_mem_splitlines` — a line holds no character that ends one.
* `splitlines_render` — lines that were written come back, each split where it holds such a
  character.
-/

namespace CephAi.Verified.Lines

/-- The characters that end a line for `str.splitlines`. -/
def isLineEnd (c : Char) : Bool :=
  ['\n', '\x0b', '\x0c', '\r', '\x1c', '\x1d', '\x1e', '\u0085', '\u2028', '\u2029'].contains c

/-- The text of a file, with its newlines translated. -/
def readText : List Char → List Char
  | [] => []
  | '\r' :: '\n' :: text => '\n' :: readText text
  | '\r' :: text => '\n' :: readText text
  | c :: text => c :: readText text

/-- What is between the line ends of a text. -/
def pieces (text : List Char) : List (List Char) := text.splitOnP isLineEnd

/-- `str.splitlines` of a text that was read: after the last line end there is no line. -/
def splitlines (text : List Char) : List (List Char) :=
  if (pieces text).getLast? = some [] then (pieces text).dropLast else pieces text

/-- `"\n".join(lines) + "\n"` -/
def render : List (List Char) → List Char
  | [] => ['\n']
  | [line] => line ++ ['\n']
  | line :: lines => line ++ '\n' :: render lines

variable {line text : List Char} {lines : List (List Char)}

theorem no_lineEnd_of_mem_pieces (h : line ∈ pieces text) : ∀ c ∈ line, isLineEnd c = false := by
  unfold pieces at h
  induction text generalizing line with
  | nil =>
    rw [List.splitOnP_nil, List.mem_singleton] at h
    subst h
    intro c hc
    cases hc
  | cons x text ih =>
    rw [List.splitOnP_cons_eq_if_modifyHead] at h
    split at h
    · rcases List.mem_cons.mp h with rfl | h
      · intro c hc
        cases hc
      · exact ih h
    · rename_i hx
      cases hsplit : text.splitOnP isLineEnd with
      | nil => exact absurd hsplit (List.splitOnP_ne_nil isLineEnd text)
      | cons first rest =>
        rw [hsplit, List.modifyHead_cons] at h
        rcases List.mem_cons.mp h with rfl | h
        · intro c hc
          rcases List.mem_cons.mp hc with rfl | hc
          · simpa using hx
          · exact ih (by rw [hsplit]; exact List.mem_cons_self) c hc
        · exact ih (by rw [hsplit]; exact List.mem_cons_of_mem first h)

theorem no_lineEnd_of_mem_splitlines (h : line ∈ splitlines text) :
    ∀ c ∈ line, isLineEnd c = false := by
  unfold splitlines at h
  split at h
  · exact no_lineEnd_of_mem_pieces ((List.dropLast_sublist _).subset h)
  · exact no_lineEnd_of_mem_pieces h

theorem pieces_of_no_lineEnd (h : ∀ c ∈ line, isLineEnd c = false) :
    pieces line = [line] := List.splitOnP_eq_singleton h

theorem pieces_append_newline (line text : List Char) :
    pieces (line ++ '\n' :: text) = pieces line ++ pieces text :=
  List.splitOnP_append_cons line text rfl

theorem readText_eq_self (h : '\r' ∉ text) : readText text = text := by
  induction text with
  | nil => rfl
  | cons c text ih =>
    have hc : c ≠ '\r' := fun heq => h (heq ▸ List.mem_cons_self)
    have htext : '\r' ∉ text := fun hmem => h (List.mem_cons_of_mem c hmem)
    rw [readText, ih htext]
    · intro text' heq
      exact fun _ => hc heq
    · exact hc

theorem mem_render {c : Char} (h : c ∈ render lines) : c = '\n' ∨ ∃ line ∈ lines, c ∈ line := by
  fun_induction render lines with
  | case1 => exact .inl (List.mem_singleton.mp h)
  | case2 line =>
    rcases List.mem_append.mp h with h | h
    · exact .inr ⟨line, List.mem_cons_self, h⟩
    · exact .inl (List.mem_singleton.mp h)
  | case3 line lines _ ih =>
    rcases List.mem_append.mp h with h | h
    · exact .inr ⟨line, List.mem_cons_self, h⟩
    · rcases List.mem_cons.mp h with h | h
      · exact .inl h
      · rcases ih h with h | ⟨line', hline', hc⟩
        · exact .inl h
        · exact .inr ⟨line', List.mem_cons_of_mem line hline', hc⟩

theorem pieces_render (h : lines ≠ []) : pieces (render lines) = lines.flatMap pieces ++ [[]] := by
  fun_induction render lines with
  | case1 => exact absurd rfl h
  | case2 line =>
    rw [pieces_append_newline, List.flatMap_singleton]
    rfl
  | case3 line lines hlines ih =>
    have hne : lines ≠ [] := hlines
    rw [pieces_append_newline, ih hne, List.flatMap_cons, List.append_assoc]

/-- **What was written comes back**, each line split where it holds a character that ends one. -/
theorem splitlines_render (hne : lines ≠ []) (hline : ∀ line ∈ lines, '\r' ∉ line) :
    splitlines (readText (render lines)) = lines.flatMap pieces := by
  have hread : '\r' ∉ render lines := by
    intro hmem
    rcases mem_render hmem with heq | ⟨line, hmem', hc⟩
    · exact absurd heq (by decide)
    · exact hline line hmem' hc
  rw [readText_eq_self hread]
  unfold splitlines
  rw [pieces_render hne, List.getLast?_concat, if_pos rfl, List.dropLast_concat]

end CephAi.Verified.Lines
