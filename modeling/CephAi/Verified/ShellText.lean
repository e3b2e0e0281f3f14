import Mathlib.Data.List.Basic
import Mathlib.Tactic.SplitIfs

/-!
# How a POSIX shell reads a command text

The reader goes through a text one character at a time and marks what it finds:
the characters of words, the ends of words, operators, line breaks, and the
expansions that stay live, also between double quotes.  Command substitutions
are read like the text around them, on a stack of the words that wait for them.

Each character carries a flag that says whether it comes from a parameter.  The
flag never changes how a character is read.  It only replaces the parameter's
own characters in a word by one mark, so that two texts with the same marks
have the same commands, operators and words, and differ at most in the words
that carry parameters.

Texts that need more than this to be read are refused: here-documents,
backquotes, brace and arithmetic expansions, dollar-quotes, and a redirection
right after a word that carries a parameter, which would be a descriptor number
or a word by the parameter's value.  The patterns of a `case` inside a command
substitution are not known to the reader.

## Main results

* `after_quote` — a quoted text is one piece of one word, whatever its characters
  are, and the word has exactly these characters.
* `reading_eq` — commands built alike, with parameters in safe places, are read
  alike by every shell that reads a part of them.
-/

namespace CephAi.Verified.ShellText

/-! ## Characters -/

/-- The single quote. -/
def apostrophe : Char := Char.ofNat 39

/-- The double quote. -/
def quotation : Char := Char.ofNat 34

def backslash : Char := Char.ofNat 92

/-- The grave accent. -/
def backquote : Char := Char.ofNat 96

/-- The opening brace. -/
def brace : Char := Char.ofNat 123

/-- What an unquoted character is to the shell. -/
inductive Kind
  | blank
  | newline
  | single
  | double
  | escape
  | dollar
  | backquote
  | hash
  | lparen
  | rparen
  | operator
  | other
deriving DecidableEq, Repr

/-- The kind of a character. -/
def kind (c : Char) : Kind :=
  if c = ' ' ∨ c = '\t' then .blank
  else if c = '\n' then .newline
  else if c = apostrophe then .single
  else if c = quotation then .double
  else if c = backslash then .escape
  else if c = '$' then .dollar
  else if c = backquote then .backquote
  else if c = '#' then .hash
  else if c = '(' then .lparen
  else if c = ')' then .rparen
  else if c = '&' ∨ c = '|' ∨ c = ';' ∨ c = '<' ∨ c = '>' then .operator
  else .other

/-- The operators of two characters. -/
def pairs (first second : Char) : Bool :=
  (first, second) ∈ [('&', '&'), ('|', '|'), (';', ';'), ('<', '<'), ('>', '>'),
    ('<', '&'), ('>', '&'), ('<', '>'), ('>', '|')]

/-- After a dollar sign: the first character of a name, or a special parameter. -/
def namesParameter (c : Char) : Bool :=
  c.isAlphanum || c ∈ ['_', '@', '*', '#', '?', '-', '$', '!']

/-! ## The reader -/

/-- A character and whether it comes from a parameter. -/
abbrev Tagged := Char × Bool

/-- A text that comes from a parameter, or does not. -/
def tagged (p : Bool) (s : List Char) : List Tagged := s.map (·, p)

/-- What the reader finds. -/
inductive Mark
  /-- A character of a word, not a parameter's. -/
  | char (c : Char)
  /-- The word carries a parameter, from here. -/
  | param
  /-- A live parameter expansion. -/
  | expand
  /-- A command substitution begins. -/
  | subst
  /-- The command substitution ends. -/
  | close
  /-- The word ends. -/
  | stop
  /-- An operator, of one or two characters. -/
  | op (first : Char) (second : Option Char)
  /-- A line break, which separates commands. -/
  | newline
deriving DecidableEq, Repr

/-- Where in a token the reader stands. -/
inductive Mode
  | between
  | word
  | single
  | double
  | comment
  | escaped (inWord : Bool)
  | escapedDouble
  | dollar (inDouble : Bool)
  | paren
  | operator (first : Char)
  | stuck
deriving DecidableEq, Repr

/-- A word that waits for the end of a command substitution. -/
structure Frame where
  inDouble : Bool
  depth : Nat
  carries : Bool
deriving DecidableEq, Repr

/-- The state of the reader: its mode, the open parentheses of this level,
whether the word so far carries a parameter, and the words that wait. -/
structure Reader where
  mode : Mode
  depth : Nat
  carries : Bool
  stack : List Frame
deriving DecidableEq, Repr

/-- Before the first character. -/
def start : Reader := ⟨.between, 0, false, []⟩

/-- The mark a parameter leaves in a word, once. -/
def Reader.touch (q : Reader) (p : Bool) : List Mark :=
  if p && !q.carries then [.param] else []

/-- The marks of one character of a word. -/
def Reader.put (q : Reader) (c : Char) (p : Bool) : List Mark :=
  if p then q.touch true else [.char c]

def Reader.refuse (q : Reader) : Reader × List Mark := ({ q with mode := .stuck }, [])

/-- An unquoted character, in a word or before one. -/
def unquoted (q : Reader) (inWord : Bool) (c : Char) (p : Bool) : Reader × List Mark :=
  let ends : List Mark := if inWord then [.stop] else []
  match kind c with
  | .blank => ({ q with mode := .between, carries := false }, ends)
  | .newline => ({ q with mode := .between, carries := false }, ends ++ [.newline])
  | .single => ({ q with mode := .single, carries := q.carries || p }, q.touch p)
  | .double => ({ q with mode := .double, carries := q.carries || p }, q.touch p)
  | .escape => ({ q with mode := .escaped inWord }, [])
  | .dollar => ({ q with mode := .dollar false, carries := q.carries || p }, q.put c p)
  | .backquote => q.refuse
  | .hash =>
    if inWord then ({ q with mode := .word, carries := q.carries || p }, q.put c p)
    else ({ q with mode := .comment }, [])
  | .lparen =>
    ({ q with mode := .between, depth := q.depth + 1, carries := false },
      ends ++ [.op c none])
  | .rparen =>
    match q.depth, q.stack with
    | depth + 1, _ =>
      ({ q with mode := .between, depth := depth, carries := false }, ends ++ [.op c none])
    | 0, frame :: stack =>
      (⟨if frame.inDouble then .double else .word, frame.depth, frame.carries, stack⟩,
        ends ++ [.close])
    | 0, [] => q.refuse
  | .operator =>
    if q.carries && (c == '<' || c == '>') then q.refuse
    else ({ q with mode := .operator c, carries := false }, ends)
  | .other => ({ q with mode := .word, carries := q.carries || p }, q.put c p)

/-- A character between double quotes. -/
def doubleQuoted (q : Reader) (c : Char) (p : Bool) : Reader × List Mark :=
  match kind c with
  | .double => ({ q with mode := .word }, [])
  | .escape => ({ q with mode := .escapedDouble }, [])
  | .dollar => ({ q with mode := .dollar true, carries := q.carries || p }, q.put c p)
  | .backquote => q.refuse
  | _ => ({ q with mode := .double, carries := q.carries || p }, q.put c p)

/-- One character of the text. -/
def step (q : Reader) (c : Char) (p : Bool) : Reader × List Mark :=
  match q.mode with
  | .between => unquoted q false c p
  | .word => unquoted q true c p
  | .single =>
    if c = apostrophe then ({ q with mode := .word }, [])
    else ({ q with carries := q.carries || p }, q.put c p)
  | .double => doubleQuoted q c p
  | .comment =>
    if c = '\n' then ({ q with mode := .between }, [.newline]) else (q, [])
  | .escaped inWord =>
    -- an escaped line break joins two lines
    if c = '\n' then ({ q with mode := if inWord then .word else .between }, [])
    else ({ q with mode := .word, carries := q.carries || p }, q.put c p)
  | .escapedDouble =>
    if c = '\n' then ({ q with mode := .double }, [])
    else if c = '$' ∨ c = backquote ∨ c = quotation ∨ c = backslash then
      ({ q with mode := .double, carries := q.carries || p }, q.put c p)
    else
      ({ q with mode := .double, carries := q.carries || p }, .char backslash :: q.put c p)
  | .dollar inDouble =>
    if c = '(' then
      (⟨.paren, 0, false, ⟨inDouble, q.depth, q.carries⟩ :: q.stack⟩, [.subst])
    else if c = brace then q.refuse
    else if namesParameter c then
      ({ q with mode := if inDouble then .double else .word, carries := q.carries || p },
        .expand :: q.put c p)
    else if inDouble then doubleQuoted q c p
    else if c = apostrophe ∨ c = quotation then q.refuse
    else unquoted q true c p
  | .paren => if c = '(' then q.refuse else unquoted q false c p
  | .operator first =>
    if pairs first c then
      if first = '<' ∧ c = '<' then q.refuse
      else ({ q with mode := .between }, [.op first (some c)])
    else
      let next := unquoted q false c p
      (next.1, .op first none :: next.2)
  | .stuck => (q, [])

/-- The reader after a text. -/
def after (q : Reader) : List Tagged → Reader
  | [] => q
  | x :: t => after (step q x.1 x.2).1 t

/-- The marks of a text. -/
def marks (q : Reader) : List Tagged → List Mark
  | [] => []
  | x :: t => (step q x.1 x.2).2 ++ marks (step q x.1 x.2).1 t

/-- The marks at the end of the text; none if it ends inside a quotation, a
substitution or a parenthesis. -/
def finish (q : Reader) : Option (List Mark) :=
  if q.depth = 0 ∧ q.stack = [] then
    match q.mode with
    | .between | .comment => some []
    | .word | .dollar false => some [.stop]
    | .operator first => some [.op first none]
    | _ => none
  else none

/-- The marks of a whole text. -/
def reads (t : List Tagged) : Option (List Mark) :=
  (finish (after start t)).map (marks start t ++ ·)

section

variable (q : Reader)

@[simp] theorem after_nil : after q [] = q := rfl

@[simp] theorem marks_nil : marks q [] = [] := rfl

theorem after_append (t t' : List Tagged) : after q (t ++ t') = after (after q t) t' := by
  induction t generalizing q with
  | nil => rfl
  | cons x t ih => exact ih _

theorem marks_append (t t' : List Tagged) :
    marks q (t ++ t') = marks q t ++ marks (after q t) t' := by
  induction t generalizing q with
  | nil => rfl
  | cons x t ih =>
    show (step q x.1 x.2).2 ++ marks (step q x.1 x.2).1 (t ++ t') = _
    rw [ih, ← List.append_assoc]
    rfl

end

/-! ## Parameters pasted as they are -/

/-- A character without a meaning of its own, quoted or not. -/
def inert (c : Char) : Bool := kind c == .other

/-- The places where inert characters are only characters. -/
def Reader.inText (q : Reader) : Bool :=
  q.mode == .between || q.mode == .word || q.mode == .single || q.mode == .double

/-- The places where a quotation may begin. -/
def Reader.plain (q : Reader) : Bool := q.mode == .between || q.mode == .word

/-- The reader after a piece of a word. -/
def Reader.taken (q : Reader) (p : Bool) : Reader :=
  { q with mode := if q.mode = .between then .word else q.mode, carries := q.carries || p }

/-- The marks of a piece of a word. -/
def Reader.puts (q : Reader) (s : List Char) (p : Bool) : List Mark :=
  if p then q.touch true else s.map .char

variable {c : Char} {q : Reader}

theorem kind_of_inert (h : inert c = true) : kind c = .other := by
  simpa [inert] using h

/-- The characters that are not inert. -/
def special : List Char :=
  [' ', '\t', '\n', apostrophe, quotation, backslash, '$', backquote, '#', '(', ')', '&', '|',
    ';', '<', '>']

theorem inert_of_not_special (h : c ∉ special) : inert c = true := by
  have hne : ∀ d ∈ special, c ≠ d := by
    rintro d hd rfl
    exact h hd
  have hkind : kind c = .other := by
    unfold kind
    rw [if_neg, if_neg, if_neg, if_neg, if_neg, if_neg, if_neg, if_neg, if_neg, if_neg, if_neg]
    · rintro (h' | h' | h' | h' | h') <;> exact hne _ (by decide) h'
    all_goals first
      | exact hne _ (by decide)
      | rintro (h' | h') <;> exact hne _ (by decide) h'
  simp [inert, hkind]

theorem taken_taken (q : Reader) (p : Bool) : (q.taken p).taken p = q.taken p := by
  cases q with
  | mk mode depth carries stack => cases mode <;> cases carries <;> cases p <;> rfl

theorem inText_taken (p : Bool) (h : q.inText = true) : (q.taken p).inText = true := by
  cases q with
  | mk mode depth carries stack => cases mode <;> first | rfl | cases h

theorem puts_cons (q : Reader) (c : Char) (s : List Char) (p : Bool) :
    q.put c p ++ (q.taken p).puts s p = q.puts (c :: s) p := by
  cases p with
  | false => rfl
  | true => simp [Reader.put, Reader.puts, Reader.touch, Reader.taken]

theorem inText_of_plain (h : q.plain = true) : q.inText = true := by
  simp only [Reader.plain, Reader.inText, Bool.or_eq_true] at h ⊢
  exact Or.inl (Or.inl h)

theorem step_inert (p : Bool) (hc : inert c = true) (hq : q.inText = true) :
    step q c p = (q.taken p, q.put c p) := by
  have hkind := kind_of_inert hc
  have hne : c ≠ apostrophe := by
    rintro rfl
    cases hc
  cases q with
  | mk mode depth carries stack =>
    cases mode with
    | between | word => simp [step, unquoted, hkind, Reader.put, Reader.taken]
    | single => simp [step, hne, Reader.put, Reader.taken]
    | double => simp [step, doubleQuoted, hkind, Reader.put, Reader.taken]
    | _ => cases hq

theorem after_inert {s : List Char} (p : Bool) (hs : s ≠ []) (hinert : ∀ c ∈ s, inert c = true)
    (hq : q.inText = true) :
    after q (tagged p s) = q.taken p ∧ marks q (tagged p s) = q.puts s p := by
  induction s generalizing q with
  | nil => exact absurd rfl hs
  | cons c s ih =>
    have hstep := step_inert p (hinert c List.mem_cons_self) hq
    show after (step q c p).1 (tagged p s) = _ ∧
      (step q c p).2 ++ marks (step q c p).1 (tagged p s) = _
    rw [hstep]
    cases s with
    | nil =>
      refine ⟨rfl, ?_⟩
      rw [← puts_cons]
      cases p with
      | false => rfl
      | true => simp [Reader.puts, Reader.touch, Reader.taken, tagged]
    | cons d s =>
      obtain ⟨hafter, hmarks⟩ := ih (List.cons_ne_nil _ _)
        (fun x hx => hinert x (List.mem_cons_of_mem _ hx)) (inText_taken p hq)
      rw [hafter, hmarks, taken_taken, puts_cons]
      exact ⟨rfl, rfl⟩

/-! ## `shlex.quote` -/

/-- The characters that need no quotes: letters, digits and `_@%+=:,.-` with the
slash. -/
def isSafe (c : Char) : Bool :=
  c.isAlphanum || c ∈ ['_', '@', '%', '+', '=', ':', ',', '.', '/', '-']

/-- A single quote inside single quotes: the quotation is closed, the quote is
put between double quotes, and the quotation is opened again. -/
def quoteChar (c : Char) : List Char :=
  if c = apostrophe then [apostrophe, quotation, apostrophe, quotation, apostrophe] else [c]

/-- `shlex.quote`. -/
def quote (s : List Char) : List Char :=
  if s = [] then [apostrophe, apostrophe]
  else if s.all isSafe then s
  else apostrophe :: s.flatMap quoteChar ++ [apostrophe]

theorem inert_of_isSafe (h : isSafe c = true) : inert c = true := by
  have hspecial : special.all (fun d => !isSafe d) = true := by decide
  apply inert_of_not_special
  intro hc
  have hunsafe := List.all_eq_true.mp hspecial c hc
  rw [h] at hunsafe
  cases hunsafe

theorem after_quoteChar (hq : q.mode = .single) (c : Char) (p : Bool) :
    after q (tagged p (quoteChar c)) = q.taken p ∧
      marks q (tagged p (quoteChar c)) = q.put c p := by
  cases q with
  | mk mode depth carries stack =>
    cases hq
    by_cases hc : c = apostrophe
    · subst hc
      cases carries <;> cases p <;> exact ⟨rfl, rfl⟩
    · simp [quoteChar, hc, tagged, after, marks, step, Reader.put, Reader.taken]

theorem after_quoteChars (hq : q.mode = .single) (p : Bool) (s : List Char)
    (hcarries : p = true → q.carries = true) :
    after q (tagged p (s.flatMap quoteChar)) = q ∧
      marks q (tagged p (s.flatMap quoteChar)) = q.puts s p := by
  have htaken : q.taken p = q := by
    cases q with
    | mk mode depth carries stack =>
      cases hq
      cases p with
      | false => simp [Reader.taken]
      | true => simp [Reader.taken, show carries = true from hcarries rfl]
  induction s with
  | nil =>
    cases p with
    | false => exact ⟨rfl, rfl⟩
    | true => simp [tagged, Reader.puts, Reader.touch, hcarries rfl]
  | cons c s ih =>
    obtain ⟨hafter, hmarks⟩ := after_quoteChar hq c p
    rw [htaken] at hafter
    have happend : tagged p ((c :: s).flatMap quoteChar) =
        tagged p (quoteChar c) ++ tagged p (s.flatMap quoteChar) := by
      simp [tagged]
    have hputs := puts_cons q c s p
    rw [htaken] at hputs
    rw [happend, after_append, marks_append, hafter, hmarks, ih.1, ih.2, hputs]
    exact ⟨rfl, rfl⟩

/-- **A quoted text is one piece of one word**, whatever its characters are: as
a parameter it leaves one mark, and otherwise the word has its characters. -/
theorem after_quote (hq : q.plain = true) (p : Bool) (s : List Char) :
    after q (tagged p (quote s)) = q.taken p ∧ marks q (tagged p (quote s)) = q.puts s p := by
  unfold quote
  split_ifs with hnil hsafe
  · subst hnil
    cases q with
    | mk mode depth carries stack =>
      cases mode <;>
        first | (cases carries <;> cases p <;> exact ⟨rfl, rfl⟩) | cases hq
  · exact after_inert p hnil
      (fun c hc => inert_of_isSafe (List.all_eq_true.mp hsafe c hc)) (inText_of_plain hq)
  · have hopen : step q apostrophe p =
        ({ q with mode := .single, carries := q.carries || p }, q.touch p) := by
      cases q with
      | mk mode depth carries stack => cases mode <;> first | rfl | cases hq
    have hclose : ∀ q' : Reader, q'.mode = .single →
        after q' (tagged p [apostrophe]) = { q' with mode := .word } ∧
          marks q' (tagged p [apostrophe]) = [] := by
      intro q' hq'
      cases q' with
      | mk mode depth carries stack =>
        cases hq'
        exact ⟨rfl, rfl⟩
    obtain ⟨hafter, hmarks⟩ := after_quoteChars
      (q := { q with mode := .single, carries := q.carries || p }) rfl p s (by simp +contextual)
    have htext : tagged p (apostrophe :: s.flatMap quoteChar ++ [apostrophe]) =
        (apostrophe, p) :: (tagged p (s.flatMap quoteChar) ++ tagged p [apostrophe]) := by
      simp [tagged]
    rw [htext]
    show after (step q apostrophe p).1 _ = _ ∧
      (step q apostrophe p).2 ++ marks (step q apostrophe p).1 _ = _
    rw [hopen, after_append, marks_append, hafter, hmarks, (hclose _ rfl).1, (hclose _ rfl).2]
    constructor
    · cases q with
      | mk mode depth carries stack => cases mode <;> first | rfl | cases hq
    · cases p with
      | false | true => simp [Reader.touch, Reader.puts]

/-! ## Texts put together from pieces -/

/-- A piece of a command text. -/
inductive Piece
  /-- The program's own text. -/
  | text (s : String)
  /-- A parameter, through `quote`. -/
  | quoted (s : String)
  /-- An integer parameter. -/
  | number (n : Int)
  /-- A parameter, as it is. -/
  | raw (s : String)
deriving DecidableEq, Repr

/-- The characters of a piece. -/
def Piece.chars : Piece → List Char
  | .text s => s.toList
  | .quoted s => quote s.toList
  | .number n => (toString n).toList
  | .raw s => s.toList

/-- The characters of a piece, with their origin. -/
def Piece.tagged : Piece → List Tagged
  | .text s => ShellText.tagged false s.toList
  | p => ShellText.tagged true p.chars

/-- A command text.  The last word of a `shell` is a script for another shell,
put through `quote`. -/
inductive Command
  | line (pieces : List Piece)
  | shell (pieces : List Piece) (script : Command)
deriving Repr

/-- The characters of a command. -/
def Command.chars : Command → List Char
  | .line ps => ps.flatMap Piece.chars
  | .shell ps script => ps.flatMap Piece.chars ++ quote script.chars

def Command.text (c : Command) : String := String.ofList c.chars

/-- The texts that the shells read, the outermost first.  By `after_quote` each
inner shell is given the characters of its script. -/
def Command.layers : Command → List (List Tagged)
  | .line ps => [ps.flatMap Piece.tagged]
  | .shell ps script =>
    (ps.flatMap Piece.tagged ++ ShellText.tagged true (quote script.chars)) :: script.layers

/-- What the shells find in the command. -/
def Command.reading (c : Command) : Option (List (List Mark)) := c.layers.mapM reads

/-- Command texts with a separator between them. -/
def joined (separator : String) : List (List Piece) → List Piece
  | [] => []
  | [ps] => ps
  | ps :: rest => ps ++ .text separator :: joined separator rest

/-! ## Shapes -/

/-- A piece without its parameter. -/
inductive Slot
  | text (s : List Char)
  | quoted
  | raw
deriving DecidableEq, Repr

def Piece.slot : Piece → Slot
  | .text s => .text s.toList
  | .quoted _ => .quoted
  | .number _ => .raw
  | .raw _ => .raw

/-- The reader after slots, if each parameter stands in a place that keeps it
one piece of a word. -/
def settle (q : Reader) : List Slot → Option Reader
  | [] => some q
  | .text s :: ss => settle (after q (tagged false s)) ss
  | .quoted :: ss => if q.plain then settle (q.taken true) ss else none
  | .raw :: ss => if q.inText then settle (q.taken true) ss else none

def slotMarks (q : Reader) : List Slot → List Mark
  | [] => []
  | .text s :: ss => marks q (tagged false s) ++ slotMarks (after q (tagged false s)) ss
  | .quoted :: ss | .raw :: ss => q.touch true ++ slotMarks (q.taken true) ss

/-- The text can be read, whatever the parameters are. -/
def sound (ss : List Slot) : Bool :=
  match settle start ss with
  | some q => (finish q).isSome
  | none => false

/-- A text of inert characters only, and not empty. -/
def InertText (s : String) : Prop := s.toList ≠ [] ∧ ∀ c ∈ s.toList, inert c = true

theorem inertText_of_all {s : String}
    (h : (!s.toList.isEmpty && s.toList.all inert) = true) : InertText s := by
  rw [Bool.and_eq_true, List.all_eq_true] at h
  refine ⟨?_, h.2⟩
  intro hnil
  rw [hnil] at h
  cases h.1

/-- A parameter pasted as it is has inert characters only. -/
def Piece.Inert : Piece → Prop
  | .raw s => InertText s
  | _ => True

/-- No parameter is pasted as it is. -/
def noRaw (ps : List Piece) : Bool :=
  ps.all fun
    | .raw _ => false
    | _ => true

variable {ps ps' : List Piece} {separator : String}

theorem inert_of_noRaw (h : noRaw ps = true) : ∀ p ∈ ps, p.Inert := by
  intro p hp
  have hraw := List.all_eq_true.mp h p hp
  cases p with
  | raw s => cases hraw
  | _ => trivial

/-- The slots of the texts that the shells read. -/
def Command.shape : Command → List (List Slot)
  | .line ps => [ps.map Piece.slot]
  | .shell ps script => (ps.map Piece.slot ++ [.quoted]) :: script.shape

/-- Every parameter that is pasted as it is has inert characters only. -/
def Command.Inert : Command → Prop
  | .line ps => ∀ p ∈ ps, p.Inert
  | .shell ps script => (∀ p ∈ ps, p.Inert) ∧ script.Inert

/-- The text of each shell can be read. -/
def Command.Sound (c : Command) : Prop := ∀ ss ∈ c.shape, sound ss = true

theorem inert_digit (h : c.isDigit = true) : inert c = true := by
  apply inert_of_isSafe
  simp [isSafe, Char.isAlphanum, h]

theorem inert_number (n : Int) :
    (toString n).toList ≠ [] ∧ ∀ c ∈ (toString n).toList, inert c = true := by
  have hdigits : ∀ k : Nat, ∀ c ∈ k.repr.toList, inert c = true := by
    intro k c hc
    rw [Nat.toList_repr] at hc
    exact inert_digit (Nat.isDigit_of_mem_toDigits (by decide) (by decide) hc)
  rw [Int.toString_eq_repr, Int.repr_eq_if]
  split_ifs
  · exact ⟨by simp, hdigits _⟩
  · refine ⟨by simp, ?_⟩
    intro c hc
    rw [String.toList_append, List.mem_append] at hc
    rcases hc with hc | hc
    · have hminus : c = '-' := by simpa using hc
      subst hminus
      decide
    · exact hdigits _ c hc

theorem after_pieces {q' : Reader} (hinert : ∀ p ∈ ps, p.Inert)
    (hsettle : settle q (ps.map Piece.slot) = some q') :
    after q (ps.flatMap Piece.tagged) = q' ∧
      marks q (ps.flatMap Piece.tagged) = slotMarks q (ps.map Piece.slot) := by
  induction ps generalizing q with
  | nil => exact ⟨Option.some.inj hsettle, rfl⟩
  | cons p ps ih =>
    have hrest : ∀ x ∈ ps, x.Inert := fun x hx => hinert x (List.mem_cons_of_mem _ hx)
    have hp : p.Inert := hinert p List.mem_cons_self
    rw [List.flatMap_cons, after_append, marks_append]
    have hraw : ∀ s : List Char, (s ≠ [] ∧ ∀ c ∈ s, inert c = true) → q.inText = true →
        after q (tagged true s) = q.taken true ∧ marks q (tagged true s) = q.touch true :=
      fun s hs hq => after_inert true hs.1 hs.2 hq
    cases p with
    | text s =>
      obtain ⟨hafter, hmarks⟩ := ih hrest hsettle
      exact ⟨hafter, congrArg (marks q (tagged false s.toList) ++ ·) hmarks⟩
    | quoted s =>
      simp only [List.map_cons, Piece.slot, settle] at hsettle
      split_ifs at hsettle with hq
      obtain ⟨hone, htwo⟩ := after_quote hq true s.toList
      obtain ⟨hafter, hmarks⟩ := ih hrest hsettle
      show after (after q (tagged true (quote s.toList))) _ = _ ∧
        marks q (tagged true (quote s.toList)) ++
          marks (after q (tagged true (quote s.toList))) _ = _
      rw [hone, htwo]
      exact ⟨hafter, congrArg (q.touch true ++ ·) hmarks⟩
    | number n =>
      simp only [List.map_cons, Piece.slot, settle] at hsettle
      split_ifs at hsettle with hq
      obtain ⟨hone, htwo⟩ := hraw _ (inert_number n) hq
      obtain ⟨hafter, hmarks⟩ := ih hrest hsettle
      show after (after q (tagged true (toString n).toList)) _ = _ ∧
        marks q (tagged true (toString n).toList) ++
          marks (after q (tagged true (toString n).toList)) _ = _
      rw [hone, htwo]
      exact ⟨hafter, congrArg (q.touch true ++ ·) hmarks⟩
    | raw s =>
      simp only [List.map_cons, Piece.slot, settle] at hsettle
      split_ifs at hsettle with hq
      obtain ⟨hone, htwo⟩ := hraw _ hp hq
      obtain ⟨hafter, hmarks⟩ := ih hrest hsettle
      show after (after q (tagged true s.toList)) _ = _ ∧
        marks q (tagged true s.toList) ++ marks (after q (tagged true s.toList)) _ = _
      rw [hone, htwo]
      exact ⟨hafter, congrArg (q.touch true ++ ·) hmarks⟩

/-- What a shell finds in a text with these slots. -/
def slotReading (ss : List Slot) : Option (List Mark) :=
  (settle start ss).bind fun q => (finish q).map (slotMarks start ss ++ ·)

theorem reads_pieces (hinert : ∀ p ∈ ps, p.Inert) (hsound : sound (ps.map Piece.slot) = true) :
    reads (ps.flatMap Piece.tagged) = slotReading (ps.map Piece.slot) ∧
      (slotReading (ps.map Piece.slot)).isSome = true := by
  unfold sound at hsound
  cases hsettle : settle start (ps.map Piece.slot) with
  | none => simp [hsettle] at hsound
  | some q =>
    obtain ⟨hafter, hmarks⟩ := after_pieces hinert hsettle
    simp only [hsettle] at hsound
    constructor
    · simp only [reads, slotReading, hsettle, hafter, hmarks, Option.bind_some]
    · simpa [slotReading, hsettle] using hsound

variable {c : Command}

theorem reading_of_shape (hinert : c.Inert) (hsound : c.Sound) :
    c.reading = c.shape.mapM slotReading ∧ c.reading.isSome = true := by
  induction c with
  | line ps =>
    obtain ⟨hreads, hsome⟩ := reads_pieces hinert (hsound _ List.mem_cons_self)
    constructor
    · simp [Command.reading, Command.layers, Command.shape, hreads]
    · rw [← hreads, Option.isSome_iff_exists] at hsome
      obtain ⟨ms, hms⟩ := hsome
      simp [Command.reading, Command.layers, hms]
  | shell ps script ih =>
    have hlast : ∀ p ∈ ps ++ [Piece.quoted script.text], p.Inert := by
      intro p hp
      rcases List.mem_append.mp hp with hp | hp
      · exact hinert.1 p hp
      · rw [List.mem_singleton.mp hp]
        trivial
    have htext : (ps ++ [Piece.quoted script.text]).flatMap Piece.tagged =
        ps.flatMap Piece.tagged ++ tagged true (quote script.chars) := by
      simp [Piece.tagged, Piece.chars, Command.text]
    have hslots : (ps ++ [Piece.quoted script.text]).map Piece.slot =
        ps.map Piece.slot ++ [.quoted] := by
      simp [Piece.slot]
    have houter := reads_pieces hlast (by
      rw [hslots]
      exact hsound _ List.mem_cons_self)
    rw [htext, hslots] at houter
    obtain ⟨hreads, hsome⟩ := houter
    obtain ⟨hinner, hinnerSome⟩ :=
      ih hinert.2 (fun ss hss => hsound ss (List.mem_cons_of_mem _ hss))
    rw [← hreads, Option.isSome_iff_exists] at hsome
    obtain ⟨ms, hms⟩ := hsome
    obtain ⟨rest, hrest⟩ := Option.isSome_iff_exists.mp hinnerSome
    have hscript : script.layers.mapM reads = some rest := hrest
    have hshape : script.shape.mapM slotReading = some rest := by rw [← hinner, hrest]
    constructor
    · simp [Command.reading, Command.layers, Command.shape, ← hreads, hms, hscript, hshape]
    · simp [Command.reading, Command.layers, hms, hscript]

/-- **Commands built alike are read alike**: the same commands, operators and
words by every shell, up to the words that carry parameters. -/
theorem reading_eq {c' : Command} (hshape : c.shape = c'.shape) (hsound : c.Sound)
    (hinert : c.Inert) (hinert' : c'.Inert) : c.reading = c'.reading ∧ c.reading.isSome = true := by
  have hsound' : c'.Sound := by
    unfold Command.Sound
    rw [← hshape]
    exact hsound
  obtain ⟨hread, hsome⟩ := reading_of_shape hinert hsound
  obtain ⟨hread', -⟩ := reading_of_shape hinert' hsound'
  exact ⟨by rw [hread, hread', hshape], hsome⟩

/-! ## Commands that are built twice -/

/-- Two builds, if both give a command, give commands of one shape that can be
read. -/
def Alike (x y : Option Command) : Prop :=
  ∀ c c', x = some c → y = some c' →
    c.shape = c'.shape ∧ c.Sound ∧ c.Inert ∧ c'.Inert

theorem Alike.bind {α : Type} {x y : Option α} {f g : α → Option Command}
    (h : ∀ a b, x = some a → y = some b → Alike (f a) (g b)) : Alike (x >>= f) (y >>= g) := by
  intro c c' hc hc'
  obtain ⟨a, ha, hfa⟩ := Option.bind_eq_some_iff.mp hc
  obtain ⟨b, hb, hgb⟩ := Option.bind_eq_some_iff.mp hc'
  exact h a b ha hb c c' hfa hgb

theorem Alike.none (y : Option Command) : Alike Option.none y := by
  intro c c' hc
  cases hc

section

variable (hslots : ps.map Piece.slot = ps'.map Piece.slot)
include hslots

theorem Alike.line (hsound : sound (ps.map Piece.slot) = true) (hinert : ∀ p ∈ ps, p.Inert)
    (hinert' : ∀ p ∈ ps', p.Inert) : Alike (pure (.line ps)) (pure (.line ps')) := by
  intro c c' hc hc'
  cases hc
  cases hc'
  refine ⟨congrArg ([·]) hslots, ?_, hinert, hinert'⟩
  intro ss hss
  rw [List.mem_singleton.mp hss]
  exact hsound

theorem Alike.quotedLine (hraw : noRaw ps = true)
    (hraw' : noRaw ps' = true) (hsound : sound (ps.map Piece.slot) = true) :
    Alike (pure (.line ps)) (pure (.line ps')) :=
  .line hslots hsound (inert_of_noRaw hraw) (inert_of_noRaw hraw')

theorem Alike.shell {script script' : Command} (hraw : noRaw ps = true) (hraw' : noRaw ps' = true)
    (hsound : sound (ps.map Piece.slot ++ [.quoted]) = true)
    (hscript : Alike (pure script) (pure script')) :
    Alike (pure (.shell ps script)) (pure (.shell ps' script')) := by
  intro c c' hc hc'
  cases hc
  cases hc'
  obtain ⟨hshape, hsounds, hin, hin'⟩ := hscript _ _ rfl rfl
  refine ⟨?_, ?_, ⟨inert_of_noRaw hraw, hin⟩, ⟨inert_of_noRaw hraw', hin'⟩⟩
  · show (_ ++ _) :: script.shape = (_ ++ _) :: script'.shape
    rw [hslots, hshape]
  · intro ss hss
    rcases List.mem_cons.mp hss with rfl | hss
    · exact hsound
    · exact hsounds ss hss

end

/-! ## Commands with a separator between them -/

def joinedSlots (separator : String) : List (List Slot) → List Slot
  | [] => []
  | [ss] => ss
  | ss :: rest => ss ++ .text separator.toList :: joinedSlots separator rest

theorem slots_joined (separator : String) (blocks : List (List Piece)) :
    (joined separator blocks).map Piece.slot =
      joinedSlots separator (blocks.map (·.map Piece.slot)) := by
  induction blocks with
  | nil => rfl
  | cons ps blocks ih =>
    cases blocks with
    | nil => rfl
    | cons ps' blocks =>
      show (ps ++ .text separator :: joined separator (ps' :: blocks)).map Piece.slot = _
      rw [List.map_append, List.map_cons, ih]
      rfl

theorem mem_joined {blocks : List (List Piece)} {p : Piece} (hp : p ∈ joined separator blocks) :
    p = .text separator ∨ ∃ ps ∈ blocks, p ∈ ps := by
  induction blocks with
  | nil => cases hp
  | cons ps blocks ih =>
    cases blocks with
    | nil => exact Or.inr ⟨ps, List.mem_cons_self, hp⟩
    | cons ps' blocks =>
      rcases List.mem_append.mp hp with hp | hp
      · exact Or.inr ⟨ps, List.mem_cons_self, hp⟩
      · rcases List.mem_cons.mp hp with hp | hp
        · exact Or.inl hp
        · rcases ih hp with hp | ⟨block, hblock, hp⟩
          · exact Or.inl hp
          · exact Or.inr ⟨block, List.mem_cons_of_mem _ hblock, hp⟩

theorem settle_append (q : Reader) (ss ss' : List Slot) :
    settle q (ss ++ ss') = (settle q ss).bind (settle · ss') := by
  induction ss generalizing q with
  | nil => rfl
  | cons s ss ih =>
    cases s with
    | text t => exact ih _
    | quoted | raw =>
      simp only [List.cons_append, settle]
      split_ifs
      · exact ih _
      · rfl

/-- A text that can be read and that the separator ends, like a text of its own. -/
def standsAlone (separator : String) (ss : List Slot) : Bool :=
  match settle start ss with
  | some q => (finish q).isSome && settle q [.text separator.toList] == some start
  | none => false

theorem sound_of_standsAlone {ss : List Slot} (h : standsAlone separator ss = true) :
    sound ss = true := by
  unfold standsAlone at h
  unfold sound
  cases hsettle : settle start ss with
  | none => simp [hsettle] at h
  | some q =>
    simp only [hsettle, Bool.and_eq_true] at h
    exact h.1

theorem sound_joinedSlots {blocks : List (List Slot)} (hne : blocks ≠ [])
    (halone : ∀ ss ∈ blocks, standsAlone separator ss = true) :
    sound (joinedSlots separator blocks) = true := by
  induction blocks with
  | nil => exact absurd rfl hne
  | cons ss blocks ih =>
    have hhead := halone ss List.mem_cons_self
    cases blocks with
    | nil => exact sound_of_standsAlone hhead
    | cons ss' blocks =>
      have htail := ih (List.cons_ne_nil _ _)
        (fun x hx => halone x (List.mem_cons_of_mem _ hx))
      unfold standsAlone at hhead
      cases hsettle : settle start ss with
      | none => simp [hsettle] at hhead
      | some q =>
        simp only [hsettle, Bool.and_eq_true, beq_iff_eq] at hhead
        have hstart : after q (tagged false separator.toList) = start :=
          Option.some.inj hhead.2
        show sound (ss ++ .text separator.toList ::
          joinedSlots separator (ss' :: blocks)) = true
        unfold sound
        rw [settle_append, hsettle, Option.bind_some]
        show (match settle (after q (tagged false separator.toList)) _ with
          | some q => (finish q).isSome
          | Option.none => false) = true
        rw [hstart]
        exact htail

theorem Alike.joined {separator : String} {blocks blocks' : List (List Piece)}
    (hslots : blocks.map (·.map Piece.slot) = blocks'.map (·.map Piece.slot)) (hne : blocks ≠ [])
    (halone : ∀ ps ∈ blocks, standsAlone separator (ps.map Piece.slot) = true)
    (hinert : ∀ ps ∈ blocks, ∀ p ∈ ps, p.Inert) (hinert' : ∀ ps ∈ blocks', ∀ p ∈ ps, p.Inert) :
    Alike (pure (.line (joined separator blocks)))
      (pure (.line (joined separator blocks'))) := by
  have hall : ∀ bs : List (List Piece), (∀ ps ∈ bs, ∀ p ∈ ps, p.Inert) →
      ∀ p ∈ ShellText.joined separator bs, p.Inert := by
    intro bs hbs p hp
    rcases mem_joined hp with rfl | ⟨ps, hps, hp⟩
    · trivial
    · exact hbs ps hps p hp
  apply Alike.line
  · rw [slots_joined, slots_joined, hslots]
  · rw [slots_joined]
    apply sound_joinedSlots
    · simpa using hne
    · intro ss hss
      obtain ⟨ps, hps, rfl⟩ := List.mem_map.mp hss
      exact halone ps hps
  · exact hall blocks hinert
  · exact hall blocks' hinert'

theorem slots_mapM {α : Type} {f : α → Option (List Piece)} (slots : α → List Slot)
    (hf : ∀ a ps, f a = some ps → ps.map Piece.slot = slots a ∧ ∀ p ∈ ps, p.Inert)
    {values : List α} {blocks : List (List Piece)} (h : values.mapM f = some blocks) :
    blocks.map (·.map Piece.slot) = values.map slots ∧
      ∀ ps ∈ blocks, ∀ p ∈ ps, p.Inert := by
  induction values generalizing blocks with
  | nil =>
    cases h
    exact ⟨rfl, by simp⟩
  | cons a values ih =>
    rw [List.mapM_cons] at h
    obtain ⟨ps, hps, h⟩ := Option.bind_eq_some_iff.mp h
    obtain ⟨rest, hrest, h⟩ := Option.bind_eq_some_iff.mp h
    cases h
    obtain ⟨hslots, hinert⟩ := ih hrest
    constructor
    · rw [List.map_cons, List.map_cons, hslots, (hf a ps hps).1]
    · intro ps' hps' p hp
      rcases List.mem_cons.mp hps' with rfl | hps'
      · exact (hf a ps' hps).2 p hp
      · exact hinert ps' hps' p hp

/-- **Commands that are built alike are read alike.** -/
theorem Alike.reading {x y : Option Command} (h : Alike x y) {c' : Command} (hc : x = some c)
    (hc' : y = some c') : c.reading = c'.reading ∧ c.reading.isSome = true := by
  obtain ⟨hshape, hsound, hinert, hinert'⟩ := h c c' hc hc'
  exact reading_eq hshape hsound hinert hinert'

end CephAi.Verified.ShellText
