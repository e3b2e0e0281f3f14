import Mathlib.Data.List.Basic
import Mathlib.Data.List.Forall2

/-!
# Regular expressions, by backtracking

A regular expression is tried at a place of a text and yields the places it may reach, the ones
that are preferred first: a repetition is greedy or not, and of two branches the left one comes
before.  The match is the first of them.  Repetitions are of one character class, which is enough
for them to end.

A text is searched from left to right; what follows a match is searched from there on.  Matches of
nothing are passed over.

## Main results

* `reads_of_mem_ends`, `mem_ends_of_lang` — what a pattern reads is in its language, and without
  edges it reads all of that.
* `head_many` — where a greedy repetition ends.
* `scan_cases`, `subFrom_cases` — the first match of a text, and what a replacement makes of it.
* `has_append_cons` — no match lies across a character that is foreign to the pattern.
-/

namespace CephAi.Verified.Regex

inductive Pattern
  | empty
  | char (p : Char → Bool)
  | seq (r s : Pattern)
  | alt (r s : Pattern)
  | many (p : Char → Bool)
  | fewest (p : Char → Bool)
  | group (i : Nat) (r : Pattern)
  | edge (word : Char → Bool)
  | start
  | finish

/-- A place in a text: what was read, nearest first, what is left, and the groups. -/
structure Place where
  before : List Char
  rest : List Char
  groups : List (Nat × List Char)

/-- What was read since another place. -/
def Place.since (e m : Place) : List Char := m.rest.take (m.rest.length - e.rest.length)

/-- What the last group of a number has read. -/
def Place.group (m : Place) (i : Nat) : Option (List Char) := m.groups.lookup i

/-- The places behind characters of a class, the farthest first. -/
def farthest (p : Char → Bool) (groups : List (Nat × List Char)) :
    List Char → List Char → List Place
  | before, [] => [⟨before, [], groups⟩]
  | before, c :: cs =>
    if p c then farthest p groups (c :: before) cs ++ [⟨before, c :: cs, groups⟩]
    else [⟨before, c :: cs, groups⟩]

/-- The places behind characters of a class, the nearest first. -/
def nearest (p : Char → Bool) (groups : List (Nat × List Char)) :
    List Char → List Char → List Place
  | before, [] => [⟨before, [], groups⟩]
  | before, c :: cs =>
    ⟨before, c :: cs, groups⟩ :: if p c then nearest p groups (c :: before) cs else []

/-- A character of the class stands on one side only. -/
def onEdge (word : Char → Bool) (before rest : List Char) : Bool :=
  before.head?.any word != rest.head?.any word

/-- The places a regular expression may reach from a place. -/
def ends : Pattern → Place → List Place
  | .empty, m => [m]
  | .char p, m =>
    match m.rest with
    | [] => []
    | c :: cs => if p c then [⟨c :: m.before, cs, m.groups⟩] else []
  | .seq r s, m => (ends r m).flatMap (ends s)
  | .alt r s, m => ends r m ++ ends s m
  | .many p, m => farthest p m.groups m.before m.rest
  | .fewest p, m => nearest p m.groups m.before m.rest
  | .group i r, m => (ends r m).map fun e => ⟨e.before, e.rest, (i, e.since m) :: e.groups⟩
  | .edge word, m => if onEdge word m.before m.rest then [m] else []
  | .start, m => if m.before = [] then [m] else []
  | .finish, m => if m.rest = [] ∨ m.rest = ['\n'] then [m] else []

/-- The match at a place. -/
def first (r : Pattern) (before rest : List Char) : Option Place :=
  (ends r ⟨before, rest, []⟩).head?

/-- The first match in a text. -/
def search (r : Pattern) : List Char → List Char → Option Place
  | before, [] => first r before []
  | before, c :: cs => (first r before (c :: cs)).or (search r (c :: before) cs)

/-- A text as the characters that are in no match, and the matches; `skip` of the next characters
belong to the last match. -/
def scan (r : Pattern) : Nat → List Char → List Char → List (Char ⊕ Place)
  | _, _, [] => []
  | skip + 1, before, c :: cs => scan r skip (c :: before) cs
  | 0, before, c :: cs =>
    match first r before (c :: cs) with
    | some m =>
      if m.rest.length < cs.length + 1 then
        .inr m :: scan r (cs.length - m.rest.length) (c :: before) cs
      else .inl c :: scan r 0 (c :: before) cs
    | none => .inl c :: scan r 0 (c :: before) cs

/-- The matches in a text. -/
def findall (r : Pattern) (text : List Char) : List Place :=
  (scan r 0 [] text).filterMap Sum.getRight?

/-- What is left of a text, with its matches replaced. -/
def subFrom (r : Pattern) (replace : Place → List Char) (before text : List Char) : List Char :=
  (scan r 0 before text).flatMap (Sum.elim (fun c => [c]) replace)

/-- A text with its matches replaced. -/
def sub (r : Pattern) (replace : Place → List Char) (text : List Char) : List Char :=
  subFrom r replace [] text

/-! ## Abbreviations -/

def plus (p : Char → Bool) : Pattern := .seq (.char p) (.many p)

def opt (r : Pattern) : Pattern := .alt r .empty

/-- Patterns one behind the other. -/
def inTurn : List Pattern → Pattern
  | [] => .empty
  | r :: rs => .seq r (inTurn rs)

/-- The characters in turn. -/
def all : List (Char → Bool) → Pattern
  | [] => .empty
  | p :: ps => .seq (.char p) (all ps)

def lit (s : String) : Pattern := all (s.toList.map fun c => (· == c))

/-- The characters outside ASCII that a letter of ASCII is a case of. -/
def otherCases (l : Char) : List Nat :=
  match l.toLower with
  | 'i' => [0x130, 0x131]
  | 'k' => [0x212a]
  | 's' => [0x17f]
  | _ => []

/-- A letter, whatever its case. -/
def sameLetter (l c : Char) : Bool := c.toLower == l.toLower || (otherCases l).contains c.toNat

/-- A text, whatever the case of its letters. -/
def litIgnoreCase (s : String) : Pattern := all (s.toList.map sameLetter)

/-! ## Languages -/

/-- What a pattern may read; its edges and ends are not asked for. -/
def Lang : Pattern → List Char → Prop
  | .empty, u => u = []
  | .char p, u => ∃ c, p c = true ∧ u = [c]
  | .seq r s, u => ∃ v w, u = v ++ w ∧ Lang r v ∧ Lang s w
  | .alt r s, u => Lang r u ∨ Lang s u
  | .many p, u => ∀ c ∈ u, p c = true
  | .fewest p, u => ∀ c ∈ u, p c = true
  | .group _ r, u => Lang r u
  | .edge _, u => u = []
  | .start, u => u = []
  | .finish, u => u = []

/-- A pattern without edges and ends. -/
def Plain : Pattern → Bool
  | .seq r s => Plain r && Plain s
  | .alt r s => Plain r && Plain s
  | .group _ r => Plain r
  | .edge _ => false
  | .start => false
  | .finish => false
  | _ => true

section

-- the equations, made once for all the proofs that use them
attribute [local simp] farthest nearest ends first scan Lang Plain all lit

end

/-- What was read between two places. -/
structure Reads (m : Place) (u : List Char) (e : Place) : Prop where
  rest : m.rest = u ++ e.rest
  before : e.before = u.reverse ++ m.before

theorem Reads.refl (m : Place) : Reads m [] m := ⟨rfl, rfl⟩

variable {before rest s u v x : List Char} {c : Char} {d e m : Place}
    {groups : List (Nat × List Char)} {p : Char → Bool} {r : Pattern}

theorem Reads.trans (h : Reads m u e) (h' : Reads e v d) : Reads m (u ++ v) d := by
  refine ⟨?_, ?_⟩
  · rw [h.rest, h'.rest, List.append_assoc]
  · rw [h'.before, h.before, List.reverse_append, List.append_assoc]

theorem reads_of_mem_farthest (h : e ∈ farthest p groups before rest) :
    ∃ u, Reads ⟨before, rest, groups⟩ u e ∧ ∀ c ∈ u, p c = true := by
  induction rest generalizing before with
  | nil =>
    rw [farthest, List.mem_singleton] at h
    subst h
    exact ⟨[], Reads.refl _, List.forall_mem_nil _⟩
  | cons c cs ih =>
    unfold farthest at h
    have hstay : e = ⟨before, c :: cs, groups⟩ →
        ∃ u, Reads ⟨before, c :: cs, groups⟩ u e ∧ ∀ c ∈ u, p c = true := by
      rintro rfl
      exact ⟨[], Reads.refl _, List.forall_mem_nil _⟩
    split at h
    · rename_i hc
      rcases List.mem_append.mp h with h | h
      · obtain ⟨u, hreads, hu⟩ := ih h
        refine ⟨c :: u, ⟨by rw [show cs = u ++ e.rest from hreads.rest]; rfl, ?_⟩,
          List.forall_mem_cons.mpr ⟨hc, hu⟩⟩
        rw [hreads.before, List.reverse_cons, List.append_assoc]
        rfl
      · exact hstay (List.mem_singleton.mp h)
    · exact hstay (List.mem_singleton.mp h)

theorem mem_nearest : e ∈ nearest p groups before rest ↔ e ∈ farthest p groups before rest := by
  induction rest generalizing before with
  | nil => exact Iff.rfl
  | cons c cs ih =>
    unfold nearest farthest
    split
    · rw [List.mem_cons, List.mem_append, List.mem_singleton, ih, or_comm]
    · exact Iff.rfl

/-- **A pattern reads** what is in its language. -/
theorem reads_of_mem_ends (h : e ∈ ends r m) : ∃ u, Reads m u e ∧ Lang r u := by
  induction r generalizing m e with
  | empty =>
    rw [ends, List.mem_singleton] at h
    subst h
    exact ⟨[], Reads.refl _, rfl⟩
  | char p =>
    obtain ⟨before, rest, groups⟩ := m
    unfold ends at h
    cases rest with
    | nil => cases h
    | cons c cs =>
      dsimp only at h
      split at h
      · rename_i hc
        rw [List.mem_singleton] at h
        subst h
        exact ⟨[c], ⟨rfl, rfl⟩, c, hc, rfl⟩
      · cases h
  | seq r s ihr ihs =>
    rw [ends, List.mem_flatMap] at h
    obtain ⟨d, hd, he⟩ := h
    obtain ⟨u, hu, hlang⟩ := ihr hd
    obtain ⟨v, hv, hlang'⟩ := ihs he
    exact ⟨u ++ v, hu.trans hv, u, v, rfl, hlang, hlang'⟩
  | alt r s ihr ihs =>
    rw [ends, List.mem_append] at h
    rcases h with h | h
    · obtain ⟨u, hu, hlang⟩ := ihr h
      exact ⟨u, hu, .inl hlang⟩
    · obtain ⟨u, hu, hlang⟩ := ihs h
      exact ⟨u, hu, .inr hlang⟩
  | many p => exact reads_of_mem_farthest h
  | fewest p => exact reads_of_mem_farthest (mem_nearest.mp h)
  | group i r ih =>
    rw [ends, List.mem_map] at h
    obtain ⟨d, hd, rfl⟩ := h
    obtain ⟨u, hu, hlang⟩ := ih hd
    exact ⟨u, ⟨hu.rest, hu.before⟩, hlang⟩
  | edge | start | finish =>
    unfold ends at h
    split at h
    · rw [List.mem_singleton] at h
      subst h
      exact ⟨[], Reads.refl _, rfl⟩
    · cases h

theorem mem_farthest_of_forall (hu : ∀ c ∈ u, p c = true) (groups : List (Nat × List Char))
    (before v : List Char) :
    ⟨u.reverse ++ before, v, groups⟩ ∈ farthest p groups before (u ++ v) := by
  induction u generalizing before with
  | nil =>
    cases v with
    | nil => exact List.mem_singleton_self _
    | cons c cs =>
      rw [List.nil_append, farthest]
      split
      · exact List.mem_append_right _ (List.mem_singleton_self _)
      · exact List.mem_singleton_self _
  | cons c u ih =>
    obtain ⟨hc, hu⟩ := List.forall_mem_cons.mp hu
    rw [List.cons_append, farthest, if_pos hc, List.reverse_cons, List.append_assoc]
    exact List.mem_append_left _ (ih hu (c :: before))

/-- **A plain pattern reads** all of its language, whatever is around. -/
theorem mem_ends_of_lang (hplain : Plain r = true) (h : Lang r u) (groups : List (Nat × List Char))
    (before v : List Char) :
    ∃ e ∈ ends r ⟨before, u ++ v, groups⟩, e.rest = v ∧ e.before = u.reverse ++ before := by
  induction r generalizing u groups before v with
  | empty =>
    obtain rfl : u = [] := h
    exact ⟨_, List.mem_singleton_self _, rfl, rfl⟩
  | char p =>
    obtain ⟨c, hc, rfl⟩ := h
    refine ⟨⟨c :: before, v, groups⟩, ?_, rfl, rfl⟩
    show _ ∈ if p c then _ else _
    rw [if_pos hc]
    exact List.mem_singleton_self _
  | seq r s ihr ihs =>
    obtain ⟨w, x, rfl, hw, hx⟩ := h
    rw [Plain, Bool.and_eq_true] at hplain
    obtain ⟨d, hd, hdrest, hdbefore⟩ := ihr hplain.1 hw groups before (x ++ v)
    obtain ⟨e, he, herest, hebefore⟩ := ihs hplain.2 hx d.groups d.before v
    rw [List.append_assoc]
    refine ⟨e, List.mem_flatMap.mpr ⟨d, hd, ?_⟩, herest, ?_⟩
    · rw [← hdrest] at he
      exact he
    · rw [hebefore, hdbefore, List.reverse_append, List.append_assoc]
  | alt r s ihr ihs =>
    rw [Plain, Bool.and_eq_true] at hplain
    rcases h with h | h
    · obtain ⟨e, he, hread⟩ := ihr hplain.1 h groups before v
      exact ⟨e, List.mem_append_left _ he, hread⟩
    · obtain ⟨e, he, hread⟩ := ihs hplain.2 h groups before v
      exact ⟨e, List.mem_append_right _ he, hread⟩
  | many p => exact ⟨_, mem_farthest_of_forall h groups before v, rfl, rfl⟩
  | fewest p =>
    exact ⟨_, mem_nearest.mpr (mem_farthest_of_forall h groups before v), rfl, rfl⟩
  | group i r ih =>
    obtain ⟨e, he, hread⟩ := ih hplain h groups before v
    exact ⟨_, List.mem_map_of_mem he, hread⟩
  | edge | start | finish => cases hplain

/-! ## Preference -/

theorem ends_eq_nil (h : ∀ u v, m.rest = u ++ v → ¬Lang r u) : ends r m = [] := by
  rw [List.eq_nil_iff_forall_not_mem]
  intro e he
  obtain ⟨u, hreads, hlang⟩ := reads_of_mem_ends he
  exact h u e.rest hreads.rest hlang

theorem ends_seq_assoc (r s t : Pattern) (m : Place) :
    ends (.seq (.seq r s) t) m = ends (.seq r (.seq s t)) m := List.flatMap_assoc

theorem head_seq {s : Pattern} (hr : (ends r m).head? = some d) (hs : (ends s d).head? = some e) :
    (ends (.seq r s) m).head? = some e := by
  obtain ⟨rest, hrest⟩ := List.head?_eq_some_iff.mp hr
  rw [ends, hrest, List.flatMap_cons, List.head?_append, hs, Option.some_or]

theorem head_char (hc : p c = true) (before cs : List Char) (groups : List (Nat × List Char)) :
    (ends (.char p) ⟨before, c :: cs, groups⟩).head? = some ⟨c :: before, cs, groups⟩ := by
  rw [ends]
  dsimp only
  rw [if_pos hc, List.head?_cons]

theorem head_group (i : Nat) (h : (ends r m).head? = some d) :
    (ends (.group i r) m).head? = some ⟨d.before, d.rest, (i, d.since m) :: d.groups⟩ := by
  rw [ends, List.head?_map, h, Option.map_some]

theorem ends_edge {word : Char → Bool} (h : onEdge word m.before m.rest = true) :
    ends (.edge word) m = [m] := by
  rw [ends, if_pos h]

theorem ends_all_self {ps : List (Char → Bool)} (h : List.Forall₂ (fun p c => p c = true) ps u)
    (before v : List Char) (groups : List (Nat × List Char)) :
    ends (all ps) ⟨before, u ++ v, groups⟩ = [⟨u.reverse ++ before, v, groups⟩] := by
  induction h generalizing before with
  | nil => rfl
  | cons hc _ ih =>
    rename_i p c ps u _
    have hstep : ends (.char p) ⟨before, c :: (u ++ v), groups⟩ =
        [⟨c :: before, u ++ v, groups⟩] := if_pos hc
    rw [all, ends, List.cons_append, hstep, List.flatMap_singleton, ih, List.reverse_cons,
      List.append_assoc]
    rfl

theorem ends_lit_self (s : String) (before v : List Char) (groups : List (Nat × List Char)) :
    ends (lit s) ⟨before, s.toList ++ v, groups⟩ = [⟨s.toList.reverse ++ before, v, groups⟩] := by
  apply ends_all_self
  rw [List.forall₂_map_left_iff]
  exact List.forall₂_same.mpr fun c _ => beq_self_eq_true c

/-- **A greedy repetition** ends at the farthest place behind which the rest can be read. -/
theorem head_many {s : Pattern} (hu : ∀ c ∈ u, p c = true)
    (hfar : ∀ w x y, w ≠ [] → v = w ++ (x ++ y) → (∀ c ∈ w, p c = true) → ¬Lang s x)
    (hnear : (ends s ⟨u.reverse ++ before, v, groups⟩).head? = some e) :
    (ends (.seq (.many p) s) ⟨before, u ++ v, groups⟩).head? = some e := by
  rw [ends]
  induction u generalizing before with
  | nil =>
    have hhere : ∀ (far : List Place), (∀ d ∈ far, ends s d = []) →
        ((far ++ [Place.mk before v groups]).flatMap (ends s)).head? = some e := by
      intro far hnone
      have hnil : far.flatMap (ends s) = [] := List.flatMap_eq_nil_iff.mpr hnone
      rw [List.flatMap_append, hnil, List.nil_append, List.flatMap_singleton]
      exact hnear
    cases v with
    | nil => exact hhere [] (List.forall_mem_nil _)
    | cons c v =>
      show ((farthest p groups before (c :: v)).flatMap (ends s)).head? = some e
      unfold farthest
      split
      · rename_i hc
        apply hhere
        intro d hd
        obtain ⟨w, hreads, hw⟩ := reads_of_mem_farthest hd
        have hrest : v = w ++ d.rest := hreads.rest
        apply ends_eq_nil
        intro x y hxy
        apply hfar (c :: w) x y (List.cons_ne_nil _ _)
        · rw [hrest, hxy]
          rfl
        · exact List.forall_mem_cons.mpr ⟨hc, hw⟩
      · exact hhere [] (List.forall_mem_nil _)
  | cons c u ih =>
    obtain ⟨hc, hu⟩ := List.forall_mem_cons.mp hu
    rw [List.reverse_cons, List.append_assoc] at hnear
    have hmore : ((farthest p groups (c :: before) (u ++ v)).flatMap (ends s)).head? = some e :=
      ih hu hnear
    show ((farthest p groups before (c :: (u ++ v))).flatMap (ends s)).head? = some e
    unfold farthest
    rw [if_pos hc, List.flatMap_append, List.head?_append, hmore, Option.some_or]

/-! ## Matches -/

theorem reads_of_first (h : first r before rest = some m) :
    ∃ u, Reads ⟨before, rest, []⟩ u m ∧ Lang r u :=
  reads_of_mem_ends (List.mem_of_mem_head? h)

/-- A text in the language is matched where it stands. -/
theorem first_of_lang (hplain : Plain r = true) (h : Lang r u) (before v : List Char) :
    ∃ m, first r before (u ++ v) = some m := by
  obtain ⟨e, he, -⟩ := mem_ends_of_lang hplain h [] before v
  unfold first
  cases hends : ends r ⟨before, u ++ v, []⟩ with
  | nil =>
    rw [hends] at he
    cases he
  | cons m ms => exact ⟨m, rfl⟩

theorem scan_skip (r : Pattern) (u before v : List Char) :
    scan r u.length before (u ++ v) = scan r 0 (u.reverse ++ before) v := by
  induction u generalizing before with
  | nil => rfl
  | cons c u ih =>
    rw [List.length_cons, List.cons_append, scan, ih, List.reverse_cons, List.append_assoc]
    rfl

/-- Nothing is matched at the characters of `x` before `v`. -/
def Unmatched (r : Pattern) (before x v : List Char) : Prop :=
  ∀ y c z, x = y ++ c :: z → first r (y.reverse ++ before) (c :: z ++ v) = none

theorem Unmatched.cons (hc : first r before (c :: x ++ v) = none)
    (h : Unmatched r (c :: before) x v) : Unmatched r before (c :: x) v := by
  intro y d z heq
  cases y with
  | nil =>
    rw [List.nil_append, List.cons.injEq] at heq
    rw [List.reverse_nil, List.nil_append, ← heq.1, ← heq.2]
    exact hc
  | cons e y =>
    rw [List.cons_append, List.cons.injEq] at heq
    rw [List.reverse_cons, List.append_assoc, ← heq.1]
    exact h y d z heq.2

/-- **The first match of a text**: there is none, or it stands behind characters at which nothing is
matched, and the search goes on behind it. -/
theorem scan_cases (hr : ¬Lang r []) (before text : List Char) :
    (Unmatched r before text [] ∧ scan r 0 before text = text.map .inl) ∨
      ∃ x u y m, text = x ++ u ++ y ∧ Unmatched r before x (u ++ y) ∧ Lang r u ∧ u ≠ [] ∧
        first r (x.reverse ++ before) (u ++ y) = some m ∧ m.rest = y ∧
        scan r 0 before text =
          x.map .inl ++ .inr m :: scan r 0 (u.reverse ++ (x.reverse ++ before)) y := by
  induction text generalizing before with
  | nil =>
    left
    refine ⟨?_, rfl⟩
    intro y c z heq
    cases y with
    | nil | cons => cases heq
  | cons c cs ih =>
    cases hfirst : first r before (c :: cs) with
    | some m =>
      right
      obtain ⟨u, hreads, hlang⟩ := reads_of_first hfirst
      have hrest : c :: cs = u ++ m.rest := hreads.rest
      cases u with
      | nil => exact absurd hlang hr
      | cons d u =>
        rw [List.cons_append, List.cons.injEq] at hrest
        obtain ⟨rfl, hcs⟩ := hrest
        refine ⟨[], c :: u, m.rest, m, by rw [hcs]; rfl, ?_, hlang, List.cons_ne_nil _ _,
          by rw [hcs] at hfirst; exact hfirst, rfl, ?_⟩
        · intro y d z heq
          cases y with
          | nil | cons => cases heq
        · have hlength : cs.length - m.rest.length = u.length := by
            rw [hcs, List.length_append]
            omega
          have hless : m.rest.length < cs.length + 1 := by
            rw [hcs, List.length_append]
            omega
          rw [scan, hfirst]
          dsimp only
          rw [if_pos hless, hlength]
          conv_lhs => rw [hcs]
          rw [scan_skip, List.reverse_cons, List.append_assoc]
          rfl
    | none =>
      have hstep : scan r 0 before (c :: cs) = .inl c :: scan r 0 (c :: before) cs := by
        rw [scan, hfirst]
      rcases ih (c :: before) with ⟨hnone, hscan⟩ |
        ⟨x, u, y, m, rfl, hnone, hlang, hne, hm, hmrest, hscan⟩
      · left
        refine ⟨hnone.cons (by rw [List.append_nil]; exact hfirst), ?_⟩
        rw [hstep, hscan]
        rfl
      · right
        refine ⟨c :: x, u, y, m, rfl, hnone.cons ?_, hlang, hne, ?_, hmrest, ?_⟩
        · rw [List.append_assoc] at hfirst
          exact hfirst
        · rw [List.reverse_cons, List.append_assoc]
          exact hm
        · rw [hstep, hscan, List.reverse_cons, List.append_assoc]
          rfl

@[simp] theorem lang_inTurn_nil (u : List Char) : Lang (inTurn []) u ↔ u = [] := Iff.rfl

/-- The language of characters in turn. -/
theorem lang_all {ps : List (Char → Bool)} :
    Lang (all ps) u ↔ List.Forall₂ (fun p c => p c = true) ps u := by
  induction ps generalizing u with
  | nil => exact List.forall₂_nil_left_iff.symm
  | cons p ps ih =>
    rw [List.forall₂_cons_left_iff]
    constructor
    · rintro ⟨v, w, rfl, ⟨c, hc, rfl⟩, hw⟩
      exact ⟨c, w, hc, ih.mp hw, rfl⟩
    · rintro ⟨c, w, hc, hw, rfl⟩
      exact ⟨[c], w, rfl, ⟨c, hc, rfl⟩, ih.mpr hw⟩

theorem lang_lit {s : String} : Lang (lit s) u ↔ u = s.toList := by
  unfold lit
  rw [lang_all, List.forall₂_map_left_iff]
  generalize s.toList = cs
  constructor
  · intro h
    induction h with
    | nil => rfl
    | cons hc _ ih => rw [ih, beq_iff_eq.mp hc]
  · rintro rfl
    exact List.forall₂_same.mpr fun c _ => beq_self_eq_true c

/-- No class of the pattern holds the character. -/
def avoids (c : Char) : Pattern → Bool
  | .char p => !p c
  | .seq r s => avoids c r && avoids c s
  | .alt r s => avoids c r && avoids c s
  | .many p => !p c
  | .fewest p => !p c
  | .group _ r => avoids c r
  | _ => true

/-- No text of the language holds the character. -/
def Foreign (r : Pattern) (c : Char) : Prop := ∀ u, Lang r u → c ∉ u

theorem foreign_of_avoids (h : avoids c r = true) : Foreign r c := by
  have hclass : ∀ {p : Char → Bool} {u : List Char}, (!p c) = true → (∀ d ∈ u, p d = true) →
      c ∉ u := by
    intro p u hp hu hc
    rw [hu c hc] at hp
    cases hp
  induction r with
  | empty | edge | start | finish =>
    rintro u rfl
    exact List.not_mem_nil
  | char p =>
    rintro u ⟨d, hd, rfl⟩
    exact hclass h (List.forall_mem_singleton.mpr hd)
  | seq r s ihr ihs =>
    rw [avoids, Bool.and_eq_true] at h
    rintro u ⟨v, w, rfl, hv, hw⟩ hc
    rcases List.mem_append.mp hc with hc | hc
    · exact ihr h.1 v hv hc
    · exact ihs h.2 w hw hc
  | alt r s ihr ihs =>
    rw [avoids, Bool.and_eq_true] at h
    rintro u (hu | hu)
    · exact ihr h.1 u hu
    · exact ihs h.2 u hu
  | many | fewest => exact fun u hu => hclass h hu
  | group i r ih => exact ih h

/-! ## Texts with a match -/

/-- Some part of the text is in the language. -/
def Has (r : Pattern) (text : List Char) : Prop := ∃ x u y, text = x ++ u ++ y ∧ Lang r u

theorem Has.append_left (h : Has r v) (u : List Char) : Has r (u ++ v) := by
  obtain ⟨x, w, y, rfl, hw⟩ := h
  exact ⟨u ++ x, w, y, by simp only [List.append_assoc], hw⟩

theorem Has.append_right (h : Has r u) (v : List Char) : Has r (u ++ v) := by
  obtain ⟨x, w, y, rfl, hw⟩ := h
  exact ⟨x, w, y ++ v, by simp only [List.append_assoc], hw⟩

theorem Has.of_take {n : Nat} (h : Has r (u.take n)) : Has r u := by
  have happend := h.append_right (u.drop n)
  rw [List.take_append_drop] at happend
  exact happend

theorem part_append {t y : List Char} (h : s ++ t = x ++ u ++ y) :
    (∃ z, s = x ++ u ++ z) ∨ (∃ z, t = z ++ u ++ y) ∨
      ∃ v w, u = v ++ w ∧ v ≠ [] ∧ w ≠ [] ∧ s = x ++ v ∧ t = w ++ y := by
  rw [List.append_assoc, List.append_eq_append_iff] at h
  rcases h with ⟨a, rfl, hrest⟩ | ⟨a, rfl, hrest⟩
  · exact .inr (.inl ⟨a, by rw [hrest, List.append_assoc]⟩)
  · rw [List.append_eq_append_iff] at hrest
    rcases hrest with ⟨b, rfl, rfl⟩ | ⟨b, rfl, rfl⟩
    · exact .inl ⟨b, by simp only [List.append_assoc]⟩
    · cases a with
      | nil => exact .inr (.inl ⟨[], rfl⟩)
      | cons c a =>
        cases b with
        | nil => exact .inl ⟨[], by simp⟩
        | cons d b =>
          exact .inr (.inr ⟨c :: a, d :: b, rfl, List.cons_ne_nil _ _, List.cons_ne_nil _ _,
            rfl, rfl⟩)

/-- **No match lies across** a character that is foreign to the pattern. -/
theorem has_append_cons (hc : Foreign r c) (hr : ¬Lang r []) (u v : List Char) :
    Has r (u ++ c :: v) ↔ Has r u ∨ Has r v := by
  constructor
  · rintro ⟨x, w, y, heq, hw⟩
    rcases part_append heq with ⟨z, rfl⟩ | ⟨z, hv⟩ | ⟨w₁, w₂, rfl, -, hne, -, hv⟩
    · exact .inl ⟨x, w, z, rfl, hw⟩
    · cases z with
      | nil =>
        cases w with
        | nil => exact absurd hw hr
        | cons d w =>
          rw [List.nil_append, List.cons_append, List.cons.injEq] at hv
          exact absurd (by rw [hv.1]; exact List.mem_cons_self) (hc _ hw)
      | cons d z =>
        rw [List.cons_append, List.cons_append, List.cons.injEq] at hv
        exact .inr ⟨z, w, y, hv.2, hw⟩
    · cases w₂ with
      | nil => exact absurd rfl hne
      | cons d w₂ =>
        rw [List.cons_append, List.cons.injEq] at hv
        refine absurd ?_ (hc _ hw)
        rw [hv.1]
        exact List.mem_append_right _ List.mem_cons_self
  · rintro (h | h)
    · exact h.append_right _
    · exact (h.append_left [c]).append_left u

/-- A match does not reach into a text without the character in which it ends. -/
theorem has_append_of_last (hr : ∀ u, Lang r u → u.getLast? = some c) (hs : c ∉ s) (u : List Char) :
    Has r (u ++ s) ↔ Has r u := by
  constructor
  · rintro ⟨x, w, y, heq, hw⟩
    have hlast := hr w hw
    rcases part_append heq with ⟨z, rfl⟩ | ⟨z, rfl⟩ | ⟨w₁, w₂, rfl, -, hne, -, rfl⟩
    · exact ⟨x, w, z, rfl, hw⟩
    · exact absurd (by simp [List.mem_of_getLast? hlast]) hs
    · rw [List.getLast?_append_of_ne_nil _ hne] at hlast
      exact absurd (List.mem_append_left _ (List.mem_of_getLast? hlast)) hs
  · exact fun h => h.append_right s

/-- Nor does it begin in a text without the character with which it begins. -/
theorem has_append_of_head (hr : ∀ u, Lang r u → u.head? = some c) (hs : c ∉ s) (u : List Char) :
    Has r (s ++ u) ↔ Has r u := by
  constructor
  · rintro ⟨x, w, y, heq, hw⟩
    have hhead := hr w hw
    rcases part_append heq with ⟨z, rfl⟩ | ⟨z, rfl⟩ | ⟨w₁, w₂, rfl, hne, -, rfl, -⟩
    · exact absurd (by simp [List.mem_of_mem_head? hhead]) hs
    · exact ⟨z, w, y, rfl, hw⟩
    · rw [List.head?_append_of_ne_nil _ hne] at hhead
      exact absurd (List.mem_append_right _ (List.mem_of_mem_head? hhead)) hs
  · exact fun h => h.append_left s

theorem has_map {f : Char → Char} {text : List Char} :
    Has r (text.map f) ↔ ∃ x u y, text = x ++ u ++ y ∧ Lang r (u.map f) := by
  constructor
  · rintro ⟨x, u, y, heq, hu⟩
    obtain ⟨xu, y', rfl, hxu, rfl⟩ := List.map_eq_append_iff.mp heq
    obtain ⟨x', u', rfl, rfl, rfl⟩ := List.map_eq_append_iff.mp hxu
    exact ⟨x', u', y', rfl, hu⟩
  · rintro ⟨x, u, y, rfl, hu⟩
    exact ⟨x.map f, u.map f, y.map f, by simp only [List.map_append], hu⟩

theorem not_has_of_unmatched (hplain : Plain r = true) (hr : ¬Lang r [])
    (h : Unmatched r before x v) : ¬Has r x := by
  rintro ⟨y, u, z, rfl, hu⟩
  cases u with
  | nil => exact hr hu
  | cons c u =>
    obtain ⟨m, hm⟩ := first_of_lang hplain hu (y.reverse ++ before) (z ++ v)
    have hnone := h y c (u ++ z) (by simp only [List.append_assoc, List.cons_append])
    rw [show c :: (u ++ z) ++ v = c :: u ++ (z ++ v) by
      simp only [List.cons_append, List.append_assoc], hm] at hnone
    cases hnone

theorem flatMap_inl (replace : Place → List Char) (x : List Char) :
    (x.map Sum.inl).flatMap (Sum.elim (fun c => [c]) replace) = x := by
  rw [List.flatMap_map]
  exact List.flatMap_singleton' x

/-- **A replacement**: the text, if nothing in it is in the language, or what it becomes up to the
first match, and behind it. -/
theorem subFrom_cases (hplain : Plain r = true) (hr : ¬Lang r []) (replace : Place → List Char)
    (before text : List Char) :
    (¬Has r text ∧ subFrom r replace before text = text) ∨
      ∃ x u y m before', text = x ++ u ++ y ∧ ¬Has r x ∧ Lang r u ∧ u ≠ [] ∧
        subFrom r replace before text = x ++ replace m ++ subFrom r replace before' y := by
  unfold subFrom
  rcases scan_cases hr before text with ⟨hnone, hscan⟩ |
    ⟨x, u, y, m, htext, hnone, hlang, hne, -, -, hscan⟩
  · left
    refine ⟨not_has_of_unmatched hplain hr hnone, ?_⟩
    rw [hscan, flatMap_inl]
  · right
    refine ⟨x, u, y, m, u.reverse ++ (x.reverse ++ before), htext,
      not_has_of_unmatched hplain hr hnone, hlang, hne, ?_⟩
    rw [hscan, List.flatMap_append, flatMap_inl, List.flatMap_cons, List.append_assoc]
    rfl

end CephAi.Verified.Regex
