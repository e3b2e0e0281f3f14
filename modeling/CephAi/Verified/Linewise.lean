import CephAi.Verified.Lines
import CephAi.Verified.Ranking

/-!
# Texts that are read line by line

Each line gives a record, nothing, or an error that ends the whole; blank lines give nothing.
Then the records are ranked, and equal ones stay in order.

## Main results

* `lines_flatMap` — lines that each end in a newline are read as they are.
* `nonblank_append` — the lines of two texts with a newline between them, but for blank ones.
* `collect_eq_some`, `collect_join` — when a text is read, and the records of two texts.
* `pairwise_insertionSort_iff` — what holds along a ranked list beyond the rank.
-/

namespace CephAi.Verified.Linewise

open Verified.Lines
open Verified.Ranking

/-! ## Lines -/

/-- The lines of a text that was not read through a file. -/
def lines (text : List Char) : List (List Char) := splitlines (readText text)

theorem lines_flatMap {rest : List (List Char)}
    (h : ∀ line ∈ rest, ∀ c ∈ line, isLineEnd c = false) :
    lines (rest.flatMap (· ++ ['\n'])) = rest := by
  have hread : '\r' ∉ rest.flatMap (· ++ ['\n']) := by
    intro hmem
    obtain ⟨line, hline, hc⟩ := List.mem_flatMap.mp hmem
    rcases List.mem_append.mp hc with hc | hc
    · exact absurd (h line hline _ hc) (by decide)
    · exact absurd (List.mem_singleton.mp hc) (by decide)
  have hpieces : pieces (rest.flatMap (· ++ ['\n'])) = rest ++ [[]] := by
    clear hread
    induction rest with
    | nil => rfl
    | cons line rest ih =>
      obtain ⟨hline, hrest⟩ := List.forall_mem_cons.mp h
      rw [List.flatMap_cons, List.append_assoc, List.singleton_append, pieces_append_newline,
        pieces_of_no_lineEnd hline, ih hrest, List.singleton_append, List.cons_append]
  unfold lines splitlines
  rw [readText_eq_self hread, hpieces, List.getLast?_concat, if_pos rfl, List.dropLast_concat]

def nonblank (text : List Char) : List (List Char) := (pieces (readText text)).filter (· ≠ [])

theorem filter_lines (text : List Char) : (lines text).filter (· ≠ []) = nonblank text := by
  unfold lines splitlines nonblank
  split
  · rename_i hlast
    conv_rhs => rw [← List.dropLast_append_getLast? [] hlast]
    rw [List.filter_append]
    simp
  · rfl

theorem readText_append {s t : List Char} (h : s.getLast? ≠ some '\r' ∨ t.head? ≠ some '\n') :
    readText (s ++ t) = readText s ++ readText t := by
  fun_induction readText s with
  | case1 => rfl
  | case2 s ih =>
    have hrest : s.getLast? ≠ some '\r' ∨ t.head? ≠ some '\n' := by
      rcases h with h | h
      · left
        intro hlast
        exact h (by rw [List.getLast?_cons_cons, List.getLast?_cons, hlast]; rfl)
      · exact .inr h
    rw [List.cons_append, List.cons_append, readText, ih hrest]
    rfl
  | case3 s hs ih =>
    have hnext : ∀ u, s ++ t = '\n' :: u → False := by
      intro u heq
      cases s with
      | nil =>
        rcases h with h | h
        · exact h rfl
        · rw [List.nil_append] at heq
          rw [heq] at h
          exact h rfl
      | cons c s =>
        rw [List.cons_append, List.cons.injEq] at heq
        exact hs s (by rw [heq.1])
    have hrest : s.getLast? ≠ some '\r' ∨ t.head? ≠ some '\n' := by
      rcases h with h | h
      · cases s with
        | nil => exact .inl (by simp)
        | cons c s => exact .inl (by rwa [List.getLast?_cons_cons] at h)
      · exact .inr h
    rw [List.cons_append, readText, ih hrest]
    · rfl
    · exact hnext
  | case4 c s hnewline hreturn ih =>
    have hrest : s.getLast? ≠ some '\r' ∨ t.head? ≠ some '\n' := by
      rcases h with h | h
      · cases s with
        | nil => exact .inl (by simp)
        | cons d s => exact .inl (by rwa [List.getLast?_cons_cons] at h)
      · exact .inr h
    rw [List.cons_append, readText, ih hrest]
    · rfl
    · intro u hc heq
      cases s with
      | nil | cons => exact hreturn hc
    · exact hreturn

/-- Between texts with a newline there are the lines of both, but for blank ones. -/
theorem nonblank_append (s t : List Char) :
    nonblank (s ++ '\n' :: t) = nonblank s ++ nonblank t := by
  have hnewline : ∀ u v : List Char, (pieces (u ++ '\n' :: v)).filter (· ≠ []) =
      (pieces u).filter (· ≠ []) ++ (pieces v).filter (· ≠ []) := by
    intro u v
    rw [pieces_append_newline, List.filter_append]
  have hstart : readText ('\n' :: t) = '\n' :: readText t := rfl
  by_cases h : s.getLast? = some '\r'
  · -- a carriage return and the newline are one line end
    obtain ⟨s, rfl⟩ : ∃ s', s = s' ++ ['\r'] := ⟨_, (List.dropLast_append_getLast? _ h).symm⟩
    have hwhole : readText (s ++ '\r' :: '\n' :: t) = readText s ++ '\n' :: readText t :=
      readText_append (.inr (by simp))
    have hleft : readText (s ++ ['\r']) = readText s ++ ['\n'] := readText_append (.inr (by simp))
    unfold nonblank
    rw [List.append_assoc, List.singleton_append, hwhole, hleft, hnewline, hnewline]
    have hblank : (pieces []).filter (· ≠ []) = [] := rfl
    rw [hblank, List.append_nil]
  · unfold nonblank
    rw [readText_append (.inl h), hstart, hnewline]

/-! ## Records -/

section Records

variable {ρ : Type _} (record : List Char → Option (Option ρ))

/-- The records of the lines, until a line fails. -/
def collect : List (List Char) → Option (List ρ)
  | [] => some []
  | line :: rest =>
    match record line with
    | none => none
    | some r => (collect rest).map (r.toList ++ ·)

/-- The records of the lines that do not fail. -/
def found (rest : List (List Char)) : List ρ := rest.filterMap fun line => (record line).join

theorem collect_eq_some (rest : List (List Char)) (rs : List ρ) :
    collect record rest = some rs ↔
      (∀ line ∈ rest, (record line).isSome = true) ∧ rs = found record rest := by
  induction rest generalizing rs with
  | nil =>
    rw [collect, Option.some.injEq]
    constructor
    · rintro rfl
      exact ⟨List.forall_mem_nil _, rfl⟩
    · rintro ⟨-, rfl⟩
      rfl
  | cons line rest ih =>
    unfold collect
    cases hline : record line with
    | none => simp [hline]
    | some r =>
      have hfound : found record (line :: rest) = r.toList ++ found record rest := by
        unfold found
        rw [List.filterMap_cons, hline]
        cases r with
        | none | some => rfl
      simp only [Option.map_eq_some_iff, List.forall_mem_cons, hline, Option.isSome_some,
        true_and, ih, hfound]
      constructor
      · rintro ⟨rs', ⟨hall, rfl⟩, rfl⟩
        exact ⟨hall, rfl⟩
      · rintro ⟨hall, rfl⟩
        exact ⟨_, ⟨hall, rfl⟩, rfl⟩

theorem collect_filter {p : List Char → Bool} (h : ∀ line, p line = false → record line = some none)
    (rest : List (List Char)) : collect record (rest.filter p) = collect record rest := by
  induction rest with
  | nil => rfl
  | cons line rest ih =>
    rw [List.filter_cons]
    cases hp : p line with
    | true =>
      rw [if_pos rfl]
      unfold collect
      rw [ih]
    | false =>
      rw [if_neg Bool.false_ne_true, ih, collect, h line hp]
      cases collect record rest with
      | none | some => rfl

theorem collect_lines (h : record [] = some none) (text : List Char) :
    collect record (lines text) = collect record (nonblank text) := by
  rw [← filter_lines, collect_filter]
  intro line hline
  have hnil : line = [] := by simpa using hline
  rw [hnil, h]

/-- **The records of two texts** with a newline between them. -/
theorem collect_join (h : record [] = some none) (s t : List Char) (rs : List ρ) :
    collect record (lines (s ++ '\n' :: t)) = some rs ↔
      ∃ rs₁ rs₂, collect record (lines s) = some rs₁ ∧ collect record (lines t) = some rs₂ ∧
        rs = rs₁ ++ rs₂ := by
  rw [collect_lines record h, collect_lines record h, collect_lines record h, nonblank_append]
  simp only [collect_eq_some]
  unfold found
  rw [List.filterMap_append]
  constructor
  · rintro ⟨hall, rfl⟩
    exact ⟨_, _, ⟨fun line hline => hall line (List.mem_append_left _ hline), rfl⟩,
      ⟨fun line hline => hall line (List.mem_append_right _ hline), rfl⟩, rfl⟩
  · rintro ⟨_, _, ⟨hleft, rfl⟩, ⟨hright, rfl⟩, rfl⟩
    refine ⟨?_, rfl⟩
    intro line hline
    rcases List.mem_append.mp hline with hline | hline
    · exact hleft line hline
    · exact hright line hline

end Records

/-! ## Ranks -/

theorem pairwise_insertionSort_iff {α : Type _} (r : α → α → Prop) [DecidableRel r] [IsTrans α r]
    [Std.Total r] {p : α → Bool} {Q : α → α → Prop} (hQ : ∀ x y, ¬Q x y → p x = true ∧ p y = true)
    (hr : ∀ x y, p x = true → p y = true → r x y) (l : List α) :
    (l.insertionSort r).Pairwise Q ↔ l.Pairwise Q := by
  have hfilter : ∀ l : List α, l.Pairwise Q ↔ (l.filter p).Pairwise Q := by
    intro l
    rw [List.pairwise_filter]
    apply List.Pairwise.iff
    intro x y
    constructor
    · exact fun h _ _ => h
    · intro h
      by_contra hnot
      obtain ⟨hx, hy⟩ := hQ x y hnot
      exact hnot (h hx hy)
  have hsorted : (l.filter p).Pairwise r := by
    rw [List.pairwise_filter]
    exact List.pairwise_of_forall fun x y => hr x y
  rw [hfilter, filter_insertionSort, hsorted.insertionSort_eq, ← hfilter]

end CephAi.Verified.Linewise
