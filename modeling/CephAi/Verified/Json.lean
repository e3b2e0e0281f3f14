import Mathlib

/-!
# JSON texts

Values over any atoms, which are the numbers and the names; how a value is written without blanks
and with the keys of an object in order; and that what is written determines the value, up to the
order of the members.

## Main results

* `quote_append` — a quoted string is read back, whatever follows it.
* `text_append` — so is a value that a delimiter or nothing follows.
* `same_of_dumps` — two values with one canonical text are the same.
* `bytes_arr`, `bytes_obj` — the size of a list and of an object from those of their parts.
-/

namespace CephAi.Verified.Json

/-- A value; an atom is written in one piece. -/
inductive Value (A : Type _)
  | atom (a : A)
  | str (s : String)
  | arr (items : List (Value A))
  | obj (members : List (String × Value A))

variable {A : Type _}

/-! ## Texts -/

/-- A character of a quoted string. -/
def escape (c : Char) : List Char :=
  if c = '"' then ['\\', '"']
  else if c = '\\' then ['\\', '\\']
  else if c = '\n' then ['\\', 'n']
  else if c = '\r' then ['\\', 'r']
  else if c = '\t' then ['\\', 't']
  else if c.toNat = 0x08 then ['\\', 'b']
  else if c.toNat = 0x0c then ['\\', 'f']
  else if c.toNat < 0x20 then
    ['\\', 'u', '0', '0', Nat.digitChar (c.toNat / 16), Nat.digitChar (c.toNat % 16)]
  else [c]

def quote (s : String) : List Char := '"' :: s.toList.flatMap escape ++ ['"']

mutual

/-- A value without blanks. -/
def text (T : A → List Char) : Value A → List Char
  | .atom a => T a
  | .str s => quote s
  | .arr items => '[' :: textItems T [] items
  | .obj members => '{' :: textMembers T [] members

/-- What follows `[`, or an item where `sep` is a comma. -/
def textItems (T : A → List Char) (sep : List Char) : List (Value A) → List Char
  | [] => [']']
  | v :: items => sep ++ text T v ++ textItems T [','] items

def textMembers (T : A → List Char) (sep : List Char) : List (String × Value A) → List Char
  | [] => ['}']
  | (k, v) :: members => sep ++ quote k ++ ':' :: text T v ++ textMembers T [','] members

end

mutual

/-- The members of every object in the order of their keys. -/
def sorted : Value A → Value A
  | .atom a => .atom a
  | .str s => .str s
  | .arr items => .arr (sortedItems items)
  | .obj members => .obj ((sortedMembers members).insertionSort fun p q => p.1 ≤ q.1)

def sortedItems : List (Value A) → List (Value A)
  | [] => []
  | v :: items => sorted v :: sortedItems items

def sortedMembers : List (String × Value A) → List (String × Value A)
  | [] => []
  | (k, v) :: members => (k, sorted v) :: sortedMembers members

end

/-- The canonical text: sorted keys, no blanks. -/
def dumps (T : A → List Char) (v : Value A) : List Char := text T (sorted v)

/-! ## Values -/

mutual

/-- The atoms meet `L`. -/
def Lawful (L : A → Prop) : Value A → Prop
  | .atom a => L a
  | .str _ => True
  | .arr items => LawfulItems L items
  | .obj members => LawfulMembers L members

def LawfulItems (L : A → Prop) : List (Value A) → Prop
  | [] => True
  | v :: items => Lawful L v ∧ LawfulItems L items

def LawfulMembers (L : A → Prop) : List (String × Value A) → Prop
  | [] => True
  | (_, v) :: members => Lawful L v ∧ LawfulMembers L members

end

mutual

/-- No object has a key twice. -/
def Distinct : Value A → Prop
  | .atom _ => True
  | .str _ => True
  | .arr items => DistinctItems items
  | .obj members => (members.map Prod.fst).Nodup ∧ DistinctMembers members

def DistinctItems : List (Value A) → Prop
  | [] => True
  | v :: items => Distinct v ∧ DistinctItems items

def DistinctMembers : List (String × Value A) → Prop
  | [] => True
  | (_, v) :: members => Distinct v ∧ DistinctMembers members

end

mutual

/-- Equality, in which the members of an object have no order. -/
def Same : Value A → Value A → Prop
  | .atom a, .atom b => a = b
  | .str s, .str t => s = t
  | .arr items, .arr items' => SameItems items items'
  | .obj members, .obj members' =>
    members.length = members'.length ∧ SameMembers members members'
  | _, _ => False

def SameItems : List (Value A) → List (Value A) → Prop
  | [], [] => True
  | v :: items, v' :: items' => Same v v' ∧ SameItems items items'
  | _, _ => False

/-- Every member is one of the others. -/
def SameMembers : List (String × Value A) → List (String × Value A) → Prop
  | [], _ => True
  | (k, v) :: members, members' =>
    (∃ v', members'.lookup k = some v' ∧ Same v v') ∧ SameMembers members members'

end

/-! ## Strings are read back -/

def hexValue (c : Char) : Nat := if c.toNat < 58 then c.toNat - 48 else c.toNat - 87

theorem hexValue_digitChar : ∀ n < 16, hexValue (Nat.digitChar n) = n := by decide

/-- One character of a quoted string, and what follows it. -/
def unescape : List Char → Option (Char × List Char)
  | '\\' :: 'n' :: r => some ('\n', r)
  | '\\' :: 'r' :: r => some ('\r', r)
  | '\\' :: 't' :: r => some ('\t', r)
  | '\\' :: 'b' :: r => some (Char.ofNat 0x08, r)
  | '\\' :: 'f' :: r => some (Char.ofNat 0x0c, r)
  | '\\' :: 'u' :: _ :: _ :: a :: b :: r => some (Char.ofNat (16 * hexValue a + hexValue b), r)
  | '\\' :: c :: r => some (c, r)
  | c :: r => some (c, r)
  | [] => none

theorem unescape_escape (c : Char) (r : List Char) : unescape (escape c ++ r) = some (c, r) := by
  unfold escape
  split_ifs with hquote hslash hnewline hreturn htab hback hfeed hcontrol
  · subst hquote
    rfl
  · subst hslash
    rfl
  · subst hnewline
    rfl
  · subst hreturn
    rfl
  · subst htab
    rfl
  · show some (Char.ofNat 0x08, r) = _
    rw [← hback, Char.ofNat_toNat]
  · show some (Char.ofNat 0x0c, r) = _
    rw [← hfeed, Char.ofNat_toNat]
  · show some (Char.ofNat (16 * hexValue _ + hexValue _), r) = _
    rw [hexValue_digitChar _ (by omega), hexValue_digitChar _ (by omega),
      Nat.div_add_mod, Char.ofNat_toNat]
  · show unescape (c :: r) = _
    unfold unescape
    split
    all_goals simp_all

theorem escape_cons (c : Char) : ∃ d r, escape c = d :: r ∧ d ≠ '"' := by
  unfold escape
  split
  · exact ⟨_, _, rfl, by decide⟩
  · rename_i hquote
    split
    · exact ⟨_, _, rfl, by decide⟩
    · repeat' split
      all_goals first
        | exact ⟨_, _, rfl, by decide⟩
        | exact ⟨_, _, rfl, hquote⟩

variable {members : List (String × Value A)} {r r' : List Char} {v : Value A}

theorem escapes_append {cs cs' : List Char}
    (h : cs.flatMap escape ++ '"' :: r = cs'.flatMap escape ++ '"' :: r') : cs = cs' ∧ r = r' := by
  induction cs generalizing cs' with
  | nil =>
    cases cs' with
    | nil =>
      injection h with _ hr
      exact ⟨rfl, hr⟩
    | cons c' cs' =>
      obtain ⟨d, t, hescape, hd⟩ := escape_cons c'
      rw [List.flatMap_cons, hescape] at h
      injection h with hhead _
      exact absurd hhead.symm hd
  | cons c cs ih =>
    cases cs' with
    | nil =>
      obtain ⟨d, t, hescape, hd⟩ := escape_cons c
      rw [List.flatMap_cons, hescape] at h
      injection h with hhead _
      exact absurd hhead hd
    | cons c' cs' =>
      rw [List.flatMap_cons, List.flatMap_cons, List.append_assoc, List.append_assoc] at h
      have hread := congrArg unescape h
      rw [unescape_escape, unescape_escape] at hread
      injection hread with hread
      injection hread with hc hrest
      obtain ⟨hcs, hr⟩ := ih hrest
      exact ⟨by rw [hc, hcs], hr⟩

theorem quote_append {s s' : String} (h : quote s ++ r = quote s' ++ r') : s = s' ∧ r = r' := by
  unfold quote at h
  rw [List.cons_append, List.cons_append, List.append_assoc, List.append_assoc] at h
  injection h with _ h
  obtain ⟨hs, hr⟩ := escapes_append h
  exact ⟨String.toList_inj.mp hs, hr⟩

/-! ## Values are read back -/

/-- The characters that no atom has. -/
def reserved : List Char := [',', ']', '}', '[', '{', '"']

/-- Atoms are written in plain characters, and are read back. -/
structure Readable (T : A → List Char) (L : A → Prop) : Prop where
  inj : ∀ a b, L a → L b → T a = T b → a = b
  ne_nil : ∀ a, L a → T a ≠ []
  plain : ∀ a, L a → ∀ c ∈ T a, c ∉ reserved

/-- Nothing, or a delimiter. -/
def Stop (r : List Char) : Prop := ∀ c s, r = c :: s → c = ',' ∨ c = ']' ∨ c = '}'

theorem stop_textItems (T : A → List Char) (items : List (Value A)) (r : List Char) :
    Stop (textItems T [','] items ++ r) := by
  intro c s h
  cases items with
  | nil =>
    injection h with h _
    exact .inr (.inl h.symm)
  | cons v items =>
    injection h with h _
    exact .inl h.symm

theorem stop_textMembers (T : A → List Char) (members : List (String × Value A)) (r : List Char) :
    Stop (textMembers T [','] members ++ r) := by
  intro c s h
  cases members with
  | nil =>
    injection h with h _
    exact .inr (.inr h.symm)
  | cons m members =>
    injection h with h _
    exact .inl h.symm

theorem plain_append {p p' : List Char} (hp : ∀ c ∈ p, c ∉ reserved) (hp' : ∀ c ∈ p', c ∉ reserved)
    (hr : Stop r) (hr' : Stop r') (h : p ++ r = p' ++ r') : p = p' ∧ r = r' := by
  have hstop : ∀ {c : Char} {q s : List Char}, Stop s → c ∉ reserved → s = c :: q → False := by
    intro c q s hs hc heq
    apply hc
    rcases hs c q heq with rfl | rfl | rfl
    · decide
    · decide
    · decide
  induction p generalizing p' with
  | nil =>
    cases p' with
    | nil => exact ⟨rfl, h⟩
    | cons c p' => exact (hstop hr (hp' c List.mem_cons_self) h).elim
  | cons c p ih =>
    cases p' with
    | nil => exact (hstop hr' (hp c List.mem_cons_self) h.symm).elim
    | cons c' p' =>
      injection h with hc h
      obtain ⟨heq, hrest⟩ := ih (fun d hd => hp d (List.mem_cons_of_mem c hd))
        (fun d hd => hp' d (List.mem_cons_of_mem c' hd)) h
      exact ⟨by rw [hc, heq], hrest⟩

variable {T : A → List Char} {L : A → Prop}

/-- The first character says what kind of value comes. -/
def kind : Value A → Option Char
  | .atom _ => none
  | .str _ => some '"'
  | .arr _ => some '['
  | .obj _ => some '{'

theorem text_cons (hT : Readable T L) (hv : Lawful L v) :
    ∃ c r, text T v = c :: r ∧
      match kind v with
      | some d => c = d
      | none => c ∉ reserved := by
  cases v with
  | atom a =>
    cases htext : T a with
    | nil => exact absurd htext (hT.ne_nil a hv)
    | cons c r =>
      refine ⟨c, r, htext, hT.plain a hv c ?_⟩
      rw [htext]
      exact List.mem_cons_self
  | str s => exact ⟨'"', _, rfl, rfl⟩
  | arr items => exact ⟨'[', _, rfl, rfl⟩
  | obj members => exact ⟨'{', _, rfl, rfl⟩

theorem kind_mem (v : Value A) : ∀ d, kind v = some d → d ∈ reserved ∧ d ≠ ']' ∧ d ≠ '}' := by
  intro d hd
  cases v with
  | atom a => cases hd
  | str | arr | obj =>
    cases hd
    decide

theorem kind_eq (hT : Readable T L) {v' : Value A} (hv : Lawful L v) (hv' : Lawful L v')
    (h : text T v ++ r = text T v' ++ r') : kind v = kind v' := by
  obtain ⟨c, s, htext, hc⟩ := text_cons hT hv
  obtain ⟨c', s', htext', hc'⟩ := text_cons hT hv'
  rw [htext, htext'] at h
  injection h with hhead _
  subst hhead
  cases hkind : kind v with
  | none =>
    rw [hkind] at hc
    cases hkind' : kind v' with
    | none => rfl
    | some d =>
      rw [hkind'] at hc'
      exact absurd (hc' ▸ (kind_mem v' d hkind').1) hc
  | some d =>
    rw [hkind] at hc
    cases hkind' : kind v' with
    | none =>
      rw [hkind'] at hc'
      exact absurd (hc ▸ (kind_mem v d hkind).1) hc'
    | some d' =>
      rw [hkind'] at hc'
      exact congrArg some (hc.symm.trans hc')

theorem text_not_end (hT : Readable T L) {v : Value A} (hv : Lawful L v) {r s : List Char}
    {c : Char} (hc : c = ']' ∨ c = '}') (h : c :: s = text T v ++ r) : False := by
  obtain ⟨d, t, htext, hd⟩ := text_cons hT hv
  rw [htext] at h
  injection h with hhead _
  subst hhead
  cases hkind : kind v with
  | none =>
    rw [hkind] at hd
    apply hd
    rcases hc with rfl | rfl
    · decide
    · decide
  | some e =>
    rw [hkind] at hd
    subst hd
    have hends := (kind_mem v c hkind).2
    rcases hc with hc | hc
    · exact hends.1 hc
    · exact hends.2 hc

mutual

theorem text_append (hT : Readable T L) : ∀ (v v' : Value A) (r r' : List Char), Lawful L v →
    Lawful L v' → Stop r → Stop r' → text T v ++ r = text T v' ++ r' → v = v' ∧ r = r'
  | .atom a, v', r, r', hv, hv', hr, hr', h => by
    have hkind := kind_eq hT hv hv' h
    cases v' with
    | atom b =>
      obtain ⟨htext, hrest⟩ := plain_append (hT.plain a hv) (hT.plain b hv') hr hr' h
      exact ⟨congrArg Value.atom (hT.inj a b hv hv' htext), hrest⟩
    | str | arr | obj => cases hkind
  | .str s, v', r, r', hv, hv', _, _, h => by
    have hkind := kind_eq hT hv hv' h
    cases v' with
    | str s' =>
      obtain ⟨hs, hrest⟩ := quote_append h
      exact ⟨congrArg Value.str hs, hrest⟩
    | atom b => cases hkind
    | arr | obj => injection hkind with hkind; exact absurd hkind (by decide)
  | .arr items, v', r, r', hv, hv', _, _, h => by
    have hkind := kind_eq hT hv hv' h
    cases v' with
    | arr items' =>
      injection h with _ h
      obtain ⟨hitems, hrest⟩ := textItems_append hT items items' [] r r' hv hv' (.inl rfl) h
      exact ⟨congrArg Value.arr hitems, hrest⟩
    | atom b => cases hkind
    | str | obj => injection hkind with hkind; exact absurd hkind (by decide)
  | .obj members, v', r, r', hv, hv', _, _, h => by
    have hkind := kind_eq hT hv hv' h
    cases v' with
    | obj members' =>
      injection h with _ h
      obtain ⟨hmembers, hrest⟩ :=
        textMembers_append hT members members' [] r r' hv hv' (.inl rfl) h
      exact ⟨congrArg Value.obj hmembers, hrest⟩
    | atom b => cases hkind
    | str | arr => injection hkind with hkind; exact absurd hkind (by decide)

theorem textItems_append (hT : Readable T L) :
    ∀ (items items' : List (Value A)) (sep r r' : List Char),
    LawfulItems L items → LawfulItems L items' → sep = [] ∨ sep = [','] →
    textItems T sep items ++ r = textItems T sep items' ++ r' → items = items' ∧ r = r'
  | [], [], _, _, _, _, _, _, h => by
    injection h with _ h
    exact ⟨rfl, h⟩
  | [], v' :: items', sep, r, r', _, hitems', hsep, h => by
    rcases hsep with rfl | rfl
    · exact (text_not_end hT hitems'.1 (.inl rfl)
        (h.trans (List.append_assoc (text T v') _ r'))).elim
    · injection h with h _
      exact absurd h (by decide)
  | v :: items, [], sep, r, r', hitems, _, hsep, h => by
    rcases hsep with rfl | rfl
    · exact (text_not_end hT hitems.1 (.inl rfl)
        (h.symm.trans (List.append_assoc (text T v) _ r))).elim
    · injection h with h _
      exact absurd h (by decide)
  | v :: items, v' :: items', sep, r, r', hitems, hitems', hsep, h => by
    have hvalues : text T v ++ (textItems T [','] items ++ r) =
        text T v' ++ (textItems T [','] items' ++ r') := by
      simp only [textItems, List.append_assoc] at h
      exact List.append_cancel_left h
    obtain ⟨hv, hrest⟩ := text_append hT v v' _ _ hitems.1 hitems'.1
      (stop_textItems T items r) (stop_textItems T items' r') hvalues
    obtain ⟨htail, hr⟩ := textItems_append hT items items' [','] r r' hitems.2 hitems'.2
      (.inr rfl) hrest
    exact ⟨by rw [hv, htail], hr⟩

theorem textMembers_append (hT : Readable T L) :
    ∀ (members members' : List (String × Value A)) (sep r r' : List Char),
    LawfulMembers L members → LawfulMembers L members' → sep = [] ∨ sep = [','] →
    textMembers T sep members ++ r = textMembers T sep members' ++ r' →
      members = members' ∧ r = r'
  | [], [], _, _, _, _, _, _, h => by
    injection h with _ h
    exact ⟨rfl, h⟩
  | [], (k', v') :: members', sep, r, r', _, _, hsep, h => by
    rcases hsep with rfl | rfl
    · injection h with h _
      exact absurd h (by decide)
    · injection h with h _
      exact absurd h (by decide)
  | (k, v) :: members, [], sep, r, r', _, _, hsep, h => by
    rcases hsep with rfl | rfl
    · injection h with h _
      exact absurd h (by decide)
    · injection h with h _
      exact absurd h (by decide)
  | (k, v) :: members, (k', v') :: members', sep, r, r', hmembers, hmembers', hsep, h => by
    have hkeys : quote k ++ (':' :: (text T v ++ (textMembers T [','] members ++ r))) =
        quote k' ++ (':' :: (text T v' ++ (textMembers T [','] members' ++ r'))) := by
      simp only [textMembers, List.append_assoc, List.cons_append] at h
      exact List.append_cancel_left h
    obtain ⟨hk, hvalues⟩ := quote_append hkeys
    injection hvalues with _ hvalues
    obtain ⟨hv, hrest⟩ := text_append hT v v' _ _ hmembers.1 hmembers'.1
      (stop_textMembers T members r) (stop_textMembers T members' r') hvalues
    obtain ⟨htail, hr⟩ := textMembers_append hT members members' [','] r r' hmembers.2
      hmembers'.2 (.inr rfl) hrest
    exact ⟨by rw [hk, hv, htail], hr⟩

end

/-! ## Canonical texts -/

theorem lawfulMembers_iff : LawfulMembers L members ↔ ∀ m ∈ members, Lawful L m.2 := by
  induction members with
  | nil => exact iff_of_true True.intro fun m hm => (nomatch hm)
  | cons m members ih =>
    rw [List.forall_mem_cons, ← ih]
    rfl

mutual

theorem lawful_sorted : ∀ v : Value A, Lawful L v → Lawful L (sorted v)
  | .atom _, h => h
  | .str _, _ => True.intro
  | .arr items, h => lawful_sortedItems items h
  | .obj members, h => by
    show LawfulMembers L ((sortedMembers members).insertionSort fun p q => p.1 ≤ q.1)
    rw [lawfulMembers_iff]
    intro m hm
    exact lawfulMembers_iff.mp (lawful_sortedMembers members h) m
      ((List.mem_insertionSort _).mp hm)

theorem lawful_sortedItems : ∀ items : List (Value A), LawfulItems L items →
    LawfulItems L (sortedItems items)
  | [], _ => True.intro
  | v :: items, h => ⟨lawful_sorted v h.1, lawful_sortedItems items h.2⟩

theorem lawful_sortedMembers : ∀ members : List (String × Value A), LawfulMembers L members →
    LawfulMembers L (sortedMembers members)
  | [], _ => True.intro
  | (_, v) :: members, h => ⟨lawful_sorted v h.1, lawful_sortedMembers members h.2⟩

end

theorem sortedMembers_eq_map (members : List (String × Value A)) :
    sortedMembers members = members.map fun m => (m.1, sorted m.2) := by
  induction members with
  | nil => rfl
  | cons m members ih =>
    rw [List.map_cons, ← ih]
    rfl

theorem lookup_of_mem (h : (members.map Prod.fst).Nodup) {k : String} (hm : (k, v) ∈ members) :
    members.lookup k = some v := by
  induction members with
  | nil => cases hm
  | cons m members ih =>
    rw [List.map_cons, List.nodup_cons] at h
    cases hm with
    | head => rw [List.lookup_cons_self]
    | tail _ hm =>
      have hne : k ≠ m.1 := by
        intro heq
        exact h.1 (heq ▸ List.mem_map_of_mem hm)
      rw [List.lookup_cons, beq_eq_false_iff_ne.mpr hne]
      exact ih h.2 hm

theorem distinct_of_mem (h : DistinctMembers members) {m : String × Value A} (hm : m ∈ members) :
    Distinct m.2 := by
  induction members with
  | nil => cases hm
  | cons m' members ih =>
    cases hm with
    | head => exact h.1
    | tail _ hm => exact ih h.2 hm

mutual

theorem same_of_sorted : ∀ v w : Value A, Distinct w → sorted v = sorted w → Same v w
  | .atom a, w, _, h => by
    cases w with
    | atom b => exact Value.atom.inj h
    | str | arr | obj => cases h
  | .str s, w, _, h => by
    cases w with
    | str t => exact Value.str.inj h
    | atom | arr | obj => cases h
  | .arr items, w, hw, h => by
    cases w with
    | arr items' => exact same_of_sortedItems items items' hw (Value.arr.inj h)
    | atom | str | obj => cases h
  | .obj members, w, hw, h => by
    cases w with
    | obj members' =>
      have hperm : (sortedMembers members).Perm (sortedMembers members') := by
        have hleft := List.perm_insertionSort (fun p q : String × Value A => p.1 ≤ q.1)
          (sortedMembers members)
        rw [Value.obj.inj h] at hleft
        exact hleft.symm.trans (List.perm_insertionSort _ _)
      constructor
      · simpa only [sortedMembers_eq_map, List.length_map] using hperm.length_eq
      · exact same_of_sortedMembers members members' hw fun m hm => hperm.subset hm
    | atom | str | arr => cases h

theorem same_of_sortedItems : ∀ items items' : List (Value A), DistinctItems items' →
    sortedItems items = sortedItems items' → SameItems items items'
  | [], [], _, _ => True.intro
  | [], v' :: items', _, h => by cases h
  | v :: items, [], _, h => by cases h
  | v :: items, v' :: items', hitems', h => by
    injection h with hv htail
    exact ⟨same_of_sorted v v' hitems'.1 hv, same_of_sortedItems items items' hitems'.2 htail⟩

theorem same_of_sortedMembers : ∀ members members' : List (String × Value A),
    Distinct (.obj members') → (∀ m ∈ sortedMembers members, m ∈ sortedMembers members') →
      SameMembers members members'
  | [], _, _, _ => True.intro
  | (k, v) :: members, members', hdistinct, h => by
    have hm := h (k, sorted v) List.mem_cons_self
    rw [sortedMembers_eq_map] at hm
    obtain ⟨⟨k', v'⟩, hmem, heq⟩ := List.mem_map.mp hm
    injection heq with hk hv
    have hk : k' = k := hk
    subst hk
    have hv' : Distinct v' := distinct_of_mem hdistinct.2 hmem
    exact ⟨⟨v', lookup_of_mem hdistinct.1 hmem, same_of_sorted v v' hv' hv.symm⟩,
      same_of_sortedMembers members members' hdistinct fun m hm =>
        h m (List.mem_cons_of_mem _ hm)⟩

end

theorem same_of_dumps (hT : Readable T L) {w : Value A} (hv : Lawful L v) (hw : Lawful L w)
    (hdistinct : Distinct w) (h : dumps T v = dumps T w) : Same v w := by
  have hnil : Stop [] := fun c s heq => (nomatch heq)
  have htext : text T (sorted v) ++ [] = text T (sorted w) ++ [] := by
    rw [List.append_nil, List.append_nil]
    exact h
  exact same_of_sorted v w hdistinct (text_append hT (sorted v) (sorted w) [] []
    (lawful_sorted v hv) (lawful_sorted w hw) hnil hnil htext).1

/-! ## Sizes -/

/-- The number of bytes of an encoded text. -/
def utf8Bytes (cs : List Char) : Nat := (cs.map Char.utf8Size).sum

@[simp] theorem utf8Bytes_nil : utf8Bytes [] = 0 := rfl

@[simp] theorem utf8Bytes_cons (c : Char) (cs : List Char) :
    utf8Bytes (c :: cs) = c.utf8Size + utf8Bytes cs := List.sum_cons

@[simp] theorem utf8Bytes_append (cs cs' : List Char) :
    utf8Bytes (cs ++ cs') = utf8Bytes cs + utf8Bytes cs' := by
  simp [utf8Bytes]

/-- The size of a value. -/
def bytes (T : A → List Char) (v : Value A) : Nat := utf8Bytes (text T v)

/-- The size of items, each with a comma or bracket. -/
def itemBytes (T : A → List Char) (items : List (Value A)) : Nat :=
  (items.map fun v => bytes T v + 1).sum

/-- The size of members, each with a colon and a comma or brace. -/
def memberBytes (T : A → List Char) (members : List (String × Value A)) : Nat :=
  (members.map fun m => utf8Bytes (quote m.1) + bytes T m.2 + 2).sum

section

variable (T : A → List Char)

@[simp] theorem itemBytes_nil : itemBytes T [] = 0 := rfl

@[simp] theorem itemBytes_cons (v : Value A) (items : List (Value A)) :
    itemBytes T (v :: items) = bytes T v + 1 + itemBytes T items := List.sum_cons

@[simp] theorem memberBytes_nil : memberBytes T [] = 0 := rfl

@[simp] theorem memberBytes_cons (m : String × Value A) (members : List (String × Value A)) :
    memberBytes T (m :: members) =
      utf8Bytes (quote m.1) + bytes T m.2 + 2 + memberBytes T members := List.sum_cons

@[simp] theorem memberBytes_append (members members' : List (String × Value A)) :
    memberBytes T (members ++ members') = memberBytes T members + memberBytes T members' := by
  simp [memberBytes]

theorem utf8Bytes_textItems (items : List (Value A)) :
    utf8Bytes (textItems T [','] items) = itemBytes T items + 1 := by
  induction items with
  | nil => rfl
  | cons v items ih =>
    have hcomma : Char.utf8Size ',' = 1 := rfl
    rw [textItems, itemBytes_cons, utf8Bytes_append, utf8Bytes_append, utf8Bytes_cons,
      utf8Bytes_nil, ih, hcomma]
    simp only [bytes]
    omega

theorem utf8Bytes_textMembers (members : List (String × Value A)) :
    utf8Bytes (textMembers T [','] members) = memberBytes T members + 1 := by
  induction members with
  | nil => rfl
  | cons m members ih =>
    obtain ⟨k, v⟩ := m
    have hcomma : Char.utf8Size ',' = 1 := rfl
    have hcolon : Char.utf8Size ':' = 1 := rfl
    rw [textMembers, memberBytes_cons, utf8Bytes_append, utf8Bytes_append, utf8Bytes_append,
      utf8Bytes_cons, utf8Bytes_nil, utf8Bytes_cons, ih, hcomma, hcolon]
    simp only [bytes]
    omega

theorem bytes_arr (items : List (Value A)) :
    bytes T (.arr items) = max 2 (itemBytes T items + 1) := by
  have hbracket : Char.utf8Size '[' = 1 := rfl
  cases items with
  | nil => rfl
  | cons v items =>
    rw [bytes, text, textItems, List.nil_append, utf8Bytes_cons, utf8Bytes_append,
      utf8Bytes_textItems, itemBytes_cons, hbracket]
    simp only [bytes]
    omega

/-- The size of an object. -/
theorem bytes_obj (members : List (String × Value A)) :
    bytes T (.obj members) = max 2 (memberBytes T members + 1) := by
  have hbrace : Char.utf8Size '{' = 1 := rfl
  cases members with
  | nil => rfl
  | cons m members =>
    obtain ⟨k, v⟩ := m
    have hcolon : Char.utf8Size ':' = 1 := rfl
    rw [bytes, text, textMembers, List.nil_append, utf8Bytes_cons, utf8Bytes_append,
      utf8Bytes_append, utf8Bytes_cons, utf8Bytes_textMembers, memberBytes_cons, hbrace, hcolon]
    simp only [bytes]
    omega

end

end CephAi.Verified.Json
