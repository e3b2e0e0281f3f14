import CephAi.Ports.SafeCommands
import CephAi.Verified.Linewise
import CephAi.Verified.Regex
import Mathlib

/-!
# Which units an OSD restart restarts

`_discover_ceph_units` of `worker/executor/commands.py` reads the units of a host off the lines of
`systemctl` and sorts them by the daemon type that occurs in the name, wherever it does.
`_restart_osd_daemon_command` restarts the OSD units among them, or those of the requested ids.

Of a line the unit is read only if it comes first: in front of a failed unit there is a glyph.

## Main results

* `unitName_row` — what is read off a line.
* `exact_iff` — when the command restarts the OSD units that it should, and no other unit.
-/

namespace CephAi.Ports.OsdRestart

open Verified.Linewise (lines lines_flatMap)
open Verified.Lines (isLineEnd)
open Verified.Regex
open Verified.ShellText (Piece Command joined)
open CommandParams
open GetCommand (Units)
open SafeCommands

/-! ## Discovery -/

/-- `\w`, which is not known outside ASCII. -/
structure Words where
  word : Char → Bool
  ascii : ∀ c : Char, c.toNat < 128 → word c = (c.isAlphanum || c == '_')

def dotService : List Char := ".service".toList

def systemctlUnitRe (W : Words) : Pattern :=
  inTurn [.start, .many isSpace, .group 1 (inTurn [plus fun c => !isSpace c, lit ".service"]),
    .edge W.word]

/-- The unit that is read off a line. -/
def unitName (W : Words) (line : List Char) : Option String :=
  (first (systemctlUnitRe W) [] line).bind fun m => (m.group 1).map String.ofList

def unitTypeMarkers : List String := ["osd", "mon", "mgr", "mds", "rgw"]

/-- `_classify_ceph_unit`; no letter outside ASCII has a letter of a marker as its lower case. -/
def classifyCephUnit (name : String) : Option String :=
  unitTypeMarkers.find? fun marker => occurs marker.toList (name.toList.map Char.toLower)

def discoverCephUnits (W : Words) (output : List Char) : Units :=
  let names := (lines output).filterMap (unitName W)
  let ofType := fun daemonType => names.filter fun name => classifyCephUnit name == some daemonType
  ⟨ofType "osd", ofType "mon", ofType "mgr", ofType "mds", ofType "rgw"⟩

/-! ## Listings -/

/-- The names of units, of cephadm and of the packages. -/
inductive Service
  | cephadmOsd (fsid : String) (id : Nat)
  | cephadm (fsid kind instanceName : String)
  | packageOsd (id : Nat)
  | package (kind instanceName : String)
  | single (kind : String)
deriving DecidableEq

/-- The OSD of a unit. -/
def Service.osd : Service → Option Nat
  | .cephadmOsd _ id => some id
  | .packageOsd id => some id
  | _ => none

/-- What stands before `.service`. -/
def Service.stem : Service → List Char
  | .cephadmOsd fsid id => "ceph-".toList ++ fsid.toList ++ "@osd.".toList ++ Nat.toDigits 10 id
  | .cephadm fsid kind instanceName =>
    "ceph-".toList ++ fsid.toList ++ '@' :: kind.toList ++ '.' :: instanceName.toList
  | .packageOsd id => "ceph-osd@".toList ++ Nat.toDigits 10 id
  | .package kind instanceName => "ceph-".toList ++ kind.toList ++ '@' :: instanceName.toList
  | .single kind => "ceph-".toList ++ kind.toList

def Service.chars (service : Service) : List Char := service.stem ++ dotService

def Service.name (service : Service) : String := String.ofList service.chars

def isFsid (fsid : String) : Bool := fsid.toList.all (alnumOr ['-'])

/-- A daemon type that is no OSD. -/
def isKind (kind : String) : Bool := kind != "osd" && kind.toList.all (alnumOr ['-'])

/-- What systemd lets stand in the name of a unit. -/
def isNameChar (c : Char) : Bool := alnumOr [':', '-', '_', '.', '\\', '@'] c

def Service.wellFormed : Service → Bool
  | .cephadmOsd fsid _ => isFsid fsid
  | .cephadm fsid kind instanceName =>
    isFsid fsid && isKind kind && instanceName.toList.all isNameChar
  | .packageOsd _ => true
  | .package kind instanceName => isKind kind && instanceName.toList.all isNameChar
  | .single kind => isKind kind

/-- A line of the listing. -/
structure Row where
  lead : Nat
  glyph : Option Char
  service : Service
  columns : List Char
  wellFormed : service.wellFormed = true
  visible : glyph.all (fun g => !isSpace g) = true
  apart : columns.head?.all (· == ' ') = true
  oneLine : columns.all (fun c => !isLineEnd c) = true

def Row.text (row : Row) : List Char :=
  List.replicate row.lead ' ' ++
    (row.glyph.elim [] (fun g => [g, ' ']) ++ (row.service.chars ++ row.columns))

/-- What `systemctl` prints of a host; a unit is listed once. -/
structure Listing where
  rows : List Row
  distinct : (rows.map fun row => row.service.name).Nodup

def Listing.text (listing : Listing) : List Char :=
  (listing.rows.map Row.text).flatMap (· ++ ['\n'])

/-! ## Reading a line -/

variable {c : Char} {columns : List Char} {ids : List Int} {service : Service}

theorem not_space_of_isNameChar (h : isNameChar c = true) : isSpace c = false := by
  unfold isNameChar alnumOr at h
  rw [Bool.or_eq_true] at h
  rcases h with h | h
  · have hrange : (48 ≤ c.toNat ∧ c.toNat ≤ 57) ∨ (65 ≤ c.toNat ∧ c.toNat ≤ 90) ∨
        (97 ≤ c.toNat ∧ c.toNat ≤ 122) := by
      simp only [Char.isAlphanum, Char.isAlpha, Char.isUpper, Char.isLower, Char.isDigit,
        Bool.or_eq_true, decide_eq_true_eq, ge_iff_le, UInt32.le_iff_toNat_le,
        Bool.and_eq_true] at h
      rcases h with (⟨h, h'⟩ | ⟨h, h'⟩) | ⟨h, h'⟩
      · exact .inr (.inl ⟨h, h'⟩)
      · exact .inr (.inr ⟨h, h'⟩)
      · exact .inl ⟨h, h'⟩
    unfold isSpace
    simp only [Bool.or_eq_false_iff, Bool.and_eq_false_iff, decide_eq_false_iff_not,
      beq_eq_false_iff_ne]
    omega
  · have hall : [':', '-', '_', '.', '\\', '@'].all (fun d => !isSpace d) = true := by decide
    simpa using List.all_eq_true.mp hall c (of_decide_eq_true h)

theorem not_space_dotService : ∀ c ∈ dotService, isSpace c = false := by
  have hall : dotService.all (fun c => !isSpace c) = true := by decide
  intro c hc
  simpa using List.all_eq_true.mp hall c hc

theorem not_lineEnd_of_not_space (h : isSpace c = false) : isLineEnd c = false := by
  by_contra hend
  rw [Bool.not_eq_false] at hend
  unfold isLineEnd at hend
  rw [List.contains_iff_mem] at hend
  have hall : ['\n', '\x0b', '\x0c', '\r', '\x1c', '\x1d', '\x1e', '\u0085', '\u2028',
      '\u2029'].all isSpace = true := by decide
  rw [List.all_eq_true.mp hall c hend] at h
  cases h

theorem no_later_service {w y : List Char} (hw : w ≠ []) (hspace : ∀ c ∈ w, isSpace c = false)
    (hcolumns : columns.head?.all (· == ' ') = true) :
    dotService ++ columns ≠ w ++ (dotService ++ y) := by
  intro heq
  have hlength : dotService.length = 8 := by decide
  have hpos : 0 < w.length := List.length_pos_iff.mpr hw
  -- the character behind the first `.service` stands in `w` or in the second
  have hninth : columns.head? = (w ++ dotService)[8]? := by
    have hget := congrArg (fun l : List Char => l[8]?) heq
    rw [← List.append_assoc, List.getElem?_append_right (by omega), hlength,
      List.getElem?_append_left (by rw [List.length_append]; omega), Nat.sub_self] at hget
    rw [List.head?_eq_getElem?]
    exact hget
  have hlt : 8 < (w ++ dotService).length := by
    rw [List.length_append]
    omega
  rw [List.getElem?_eq_getElem hlt] at hninth
  rw [hninth] at hcolumns
  have hblank : (w ++ dotService)[8] = ' ' := by simpa using hcolumns
  have hvisible : isSpace (w ++ dotService)[8] = false := by
    rcases List.mem_append.mp (List.getElem_mem hlt) with hmem | hmem
    · exact hspace _ hmem
    · exact not_space_dotService _ hmem
  rw [hblank] at hvisible
  cases hvisible

theorem head_name {stem : List Char} (hc : isSpace c = false)
    (hstem : ∀ d ∈ stem, isSpace d = false) (hcolumns : columns.head?.all (· == ' ') = true)
    (before : List Char) :
    (ends (inTurn [plus fun c => !isSpace c, lit ".service"])
      ⟨before, c :: (stem ++ (dotService ++ columns)), []⟩).head? =
        some ⟨dotService.reverse ++ (stem.reverse ++ c :: before), columns, []⟩ := by
  show (ends (.seq (.seq _ _) _) _).head? = _
  rw [ends_seq_assoc]
  apply head_seq (head_char (by rw [hc]; rfl) _ _ _)
  apply head_many
  · intro d hd
    rw [hstem d hd]
    rfl
  · rintro w x y hw heq hspace ⟨v, z, rfl, hv, hz⟩
    rw [lang_lit] at hv
    rw [lang_inTurn_nil] at hz
    rw [hz, hv, List.append_nil] at heq
    exact no_later_service hw (fun d hd => by simpa using hspace d hd) hcolumns heq
  · apply head_seq
    · rw [show dotService = ".service".toList from rfl, ends_lit_self]
      rfl
    · rfl

theorem onEdge_name (W : Words) (hcolumns : columns.head?.all (· == ' ') = true)
    (before : List Char) : onEdge W.word (dotService.reverse ++ before) columns = true := by
  have hword : W.word 'e' = true := by
    rw [W.ascii 'e' (by decide)]
    decide
  have hcolumn : columns.head?.any W.word = false := by
    cases hhead : columns.head? with
    | none => rfl
    | some d =>
      rw [hhead] at hcolumns
      have hd : d = ' ' := by simpa using hcolumns
      show W.word d = false
      rw [hd, W.ascii ' ' (by decide)]
      decide
  unfold onEdge
  rw [hcolumn]
  show (W.word 'e' != false) = true
  rw [hword]
  rfl

/-- **The unit of a line** is what stands before its first column. -/
theorem unitName_of_stem (W : Words) (lead : Nat) {stem : List Char} (hne : stem ≠ [])
    (hstem : ∀ c ∈ stem, isSpace c = false) (hcolumns : columns.head?.all (· == ' ') = true) :
    unitName W (List.replicate lead ' ' ++ (stem ++ dotService ++ columns)) =
      some (String.ofList (stem ++ dotService)) := by
  cases stem with
  | nil => exact absurd rfl hne
  | cons c stem =>
    obtain ⟨hc, hstem⟩ := List.forall_mem_cons.mp hstem
    have hsince : Place.since
        ⟨dotService.reverse ++ (stem.reverse ++ c :: List.replicate lead ' '), columns, []⟩
        ⟨List.replicate lead ' ', c :: (stem ++ (dotService ++ columns)), []⟩ =
          c :: stem ++ dotService := by
      unfold Place.since
      show List.take ((c :: (stem ++ (dotService ++ columns))).length - columns.length)
        (c :: (stem ++ (dotService ++ columns))) = _
      rw [← List.append_assoc, ← List.cons_append, List.length_append, Nat.add_sub_cancel,
        List.take_left]
      rfl
    have hname := head_seq (head_group 1 (head_name hc hstem hcolumns (List.replicate lead ' ')))
      (head_seq (s := .empty) (by rw [ends_edge (onEdge_name W hcolumns _)]; rfl) rfl)
    rw [hsince] at hname
    have hblanks : (ends (.seq (.many isSpace) _)
        ⟨[], List.replicate lead ' ' ++ (c :: (stem ++ (dotService ++ columns))), []⟩).head? =
          some _ := head_many
      (by
        intro d hd
        rw [List.eq_of_mem_replicate hd]
        rfl)
      (by
        intro w x y hw heq hspace
        cases w with
        | nil => exact absurd rfl hw
        | cons d w =>
          rw [List.cons_append, List.cons.injEq] at heq
          have hd := (List.forall_mem_cons.mp hspace).1
          rw [← heq.1, hc] at hd
          cases hd)
      (by
        rw [List.reverse_replicate, List.append_nil]
        exact hname)
    have htext : List.replicate lead ' ' ++ (c :: stem ++ dotService ++ columns) =
        List.replicate lead ' ' ++ (c :: (stem ++ (dotService ++ columns))) := by
      simp only [List.cons_append, List.append_assoc]
    have hwhole : first (systemctlUnitRe W) []
        (List.replicate lead ' ' ++ (c :: (stem ++ (dotService ++ columns)))) = some _ :=
      head_seq (r := .start) (m := ⟨[], _, []⟩) (d := ⟨[], _, []⟩) rfl hblanks
    unfold unitName
    rw [htext, hwhole]
    rfl

theorem unitName_of_glyph (W : Words) (lead : Nat) {g : Char} (hg : isSpace g = false)
    (text : List Char) : unitName W (List.replicate lead ' ' ++ g :: ' ' :: text) = none := by
  unfold unitName
  rw [Option.bind_eq_none_iff]
  intro m hm
  exfalso
  obtain ⟨u, hreads, hlang⟩ := reads_of_first hm
  obtain ⟨v₀, w₀, rfl, hv₀, v, w₁, rfl, hv, w, w₂, rfl, hw, hw₂⟩ := hlang
  obtain ⟨a, b, rfl, ⟨a₀, as, rfl, ⟨c, hc, rfl⟩, has⟩, s, b₀, rfl, hs, hb₀⟩ := hw
  have hempty : v₀ = [] := hv₀
  have hservice : s = dotService := lang_lit.mp hs
  have hrest := hreads.rest
  rw [hempty, hservice] at hrest
  -- the unit would begin with the glyph
  have hskip := congrArg (List.dropWhile isSpace) hrest
  have hvisible : isSpace c = false := by simpa using hc
  simp only [List.nil_append, List.append_assoc, List.cons_append] at hskip
  rw [List.dropWhile_append_of_pos (by simp [isSpace]), List.dropWhile_append_of_pos hv,
    List.dropWhile_cons_of_neg (by rw [hg]; decide),
    List.dropWhile_cons_of_neg (by rw [hvisible]; decide), List.cons.injEq] at hskip
  cases as with
  | nil => exact absurd (List.cons.inj hskip.2).1 (by decide)
  | cons d as =>
    have hd := (List.forall_mem_cons.mp has).1
    rw [← (List.cons.inj hskip.2).1] at hd
    cases hd

/-! ## Reading a listing -/

theorem isNameChar_of_alnumOr (h : alnumOr ['-'] c = true) : isNameChar c = true := by
  unfold alnumOr at h
  unfold isNameChar alnumOr
  rw [Bool.or_eq_true] at h ⊢
  rcases h with h | h
  · exact .inl h
  · have hc : c = '-' := by simpa using h
    rw [hc]
    decide

variable {n : Nat}

theorem isNameChar_of_mem_toDigits (h : c ∈ Nat.toDigits 10 n) : isNameChar c = true := by
  have hdigit := Nat.isDigit_of_mem_toDigits (by decide) (by decide) h
  unfold isNameChar alnumOr Char.isAlphanum
  rw [hdigit, Bool.or_true, Bool.true_or]

theorem isNameChar_of_isFsid {fsid : String} (h : isFsid fsid = true) :
    ∀ c ∈ fsid.toList, isNameChar c = true := by
  unfold isFsid at h
  rw [List.all_eq_true] at h
  exact fun c hc => isNameChar_of_alnumOr (h c hc)

theorem isNameChar_of_isKind {kind : String} (h : isKind kind = true) :
    ∀ c ∈ kind.toList, isNameChar c = true := by
  unfold isKind at h
  rw [Bool.and_eq_true, List.all_eq_true] at h
  exact fun c hc => isNameChar_of_alnumOr (h.2 c hc)

theorem isNameChar_ceph : (∀ c ∈ "ceph-".toList, isNameChar c = true) ∧
    (∀ c ∈ "@osd.".toList, isNameChar c = true) ∧
    (∀ c ∈ "ceph-osd@".toList, isNameChar c = true) ∧ isNameChar '@' = true ∧
    isNameChar '.' = true := by
  simp only [← List.all_eq_true]
  decide

theorem Service.isNameChar_of_mem_stem (h : service.wellFormed = true) :
    ∀ c ∈ service.stem, isNameChar c = true := by
  obtain ⟨hceph, hosd, hpackage, hat, hdot⟩ := isNameChar_ceph
  cases service with
  | cephadmOsd fsid id =>
    show ∀ c ∈ "ceph-".toList ++ fsid.toList ++ "@osd.".toList ++ Nat.toDigits 10 id, _
    simp only [List.forall_mem_append]
    exact ⟨⟨⟨hceph, isNameChar_of_isFsid h⟩, hosd⟩, fun c hc => isNameChar_of_mem_toDigits hc⟩
  | cephadm fsid kind instanceName =>
    show ∀ c ∈ "ceph-".toList ++ fsid.toList ++ '@' :: kind.toList ++ '.' :: instanceName.toList, _
    have hparts := Bool.and_eq_true_iff.mp h
    obtain ⟨hfsid, hkind⟩ := Bool.and_eq_true_iff.mp hparts.1
    simp only [List.forall_mem_append, List.forall_mem_cons]
    exact ⟨⟨⟨hceph, isNameChar_of_isFsid hfsid⟩, hat, isNameChar_of_isKind hkind⟩, hdot,
      List.all_eq_true.mp hparts.2⟩
  | packageOsd id =>
    show ∀ c ∈ "ceph-osd@".toList ++ Nat.toDigits 10 id, _
    rw [List.forall_mem_append]
    exact ⟨hpackage, fun c hc => isNameChar_of_mem_toDigits hc⟩
  | package kind instanceName =>
    show ∀ c ∈ "ceph-".toList ++ kind.toList ++ '@' :: instanceName.toList, _
    obtain ⟨hkind, hinstance⟩ := Bool.and_eq_true_iff.mp h
    simp only [List.forall_mem_append, List.forall_mem_cons]
    exact ⟨⟨hceph, isNameChar_of_isKind hkind⟩, hat, List.all_eq_true.mp hinstance⟩
  | single kind =>
    show ∀ c ∈ "ceph-".toList ++ kind.toList, _
    rw [List.forall_mem_append]
    exact ⟨hceph, isNameChar_of_isKind h⟩

theorem Row.not_space_of_mem_stem (row : Row) : ∀ c ∈ row.service.stem, isSpace c = false :=
  fun c hc => not_space_of_isNameChar (Service.isNameChar_of_mem_stem row.wellFormed c hc)

theorem Service.stem_ne_nil (service : Service) : service.stem ≠ [] := by
  cases service <;> exact List.cons_ne_nil _ _

/-- **What is read off a line**: its unit, unless there is a glyph in front of it. -/
theorem unitName_row (W : Words) (row : Row) :
    unitName W row.text = if row.glyph = none then some row.service.name else none := by
  unfold Row.text
  cases hglyph : row.glyph with
  | none =>
    rw [if_pos rfl]
    exact unitName_of_stem W row.lead row.service.stem_ne_nil row.not_space_of_mem_stem row.apart
  | some g =>
    have hg : isSpace g = false := by
      have hvisible := row.visible
      rw [hglyph] at hvisible
      simpa using hvisible
    rw [if_neg (Option.some_ne_none g)]
    exact unitName_of_glyph W row.lead hg _

theorem Row.no_lineEnd (row : Row) : ∀ c ∈ row.text, isLineEnd c = false := by
  have hlead : ∀ c ∈ List.replicate row.lead ' ', isLineEnd c = false := by
    intro c hc
    rw [List.eq_of_mem_replicate hc]
    decide
  have hglyph : ∀ c ∈ row.glyph.elim [] fun g => [g, ' '], isLineEnd c = false := by
    have hvisible := row.visible
    cases hrow : row.glyph with
    | none => exact List.forall_mem_nil _
    | some g =>
      rw [hrow] at hvisible
      have hg : isSpace g = false := by simpa using hvisible
      show ∀ c ∈ [g, ' '], isLineEnd c = false
      rw [List.forall_mem_cons, List.forall_mem_singleton]
      exact ⟨not_lineEnd_of_not_space hg, by decide⟩
  have hservice : ∀ c ∈ row.service.chars, isLineEnd c = false := by
    unfold Service.chars
    rw [List.forall_mem_append]
    exact ⟨fun c hc => not_lineEnd_of_not_space (row.not_space_of_mem_stem c hc),
      fun c hc => not_lineEnd_of_not_space (not_space_dotService c hc)⟩
  have hcolumns : ∀ c ∈ row.columns, isLineEnd c = false := by
    simpa using row.oneLine
  unfold Row.text
  simp only [List.forall_mem_append]
  exact ⟨hlead, hglyph, hservice, hcolumns⟩

/-- The unit of the line is taken for one of an OSD. -/
def Row.listed (row : Row) : Bool :=
  row.glyph.isNone && occurs "osd".toList (row.service.chars.map Char.toLower)

theorem classify_osd (name : String) :
    (classifyCephUnit name == some "osd") = occurs "osd".toList (name.toList.map Char.toLower) := by
  unfold classifyCephUnit unitTypeMarkers
  rw [List.find?_cons]
  cases hosd : occurs "osd".toList (name.toList.map Char.toLower) with
  | true => rfl
  | false =>
    rw [beq_eq_false_iff_ne]
    intro hfound
    exact absurd (List.mem_of_find?_eq_some hfound) (by decide)

/-- **The OSD units that are discovered**, in the order of the listing. -/
theorem discovered_osd (W : Words) (listing : Listing) :
    (discoverCephUnits W listing.text).osd =
      (listing.rows.filter Row.listed).map fun row => row.service.name := by
  have hlines : lines listing.text = listing.rows.map Row.text := by
    apply lines_flatMap
    rw [List.forall_mem_map]
    exact fun row _ => row.no_lineEnd
  unfold discoverCephUnits
  dsimp only
  rw [hlines]
  clear hlines
  induction listing.rows with
  | nil => rfl
  | cons row rows ih =>
    rw [List.map_cons, List.filterMap_cons, unitName_row, List.filter_cons]
    have hname : row.service.name.toList = row.service.chars := String.toList_ofList
    cases hglyph : row.glyph with
    | none =>
      have hlisted : row.listed = (classifyCephUnit row.service.name == some "osd") := by
        unfold Row.listed
        rw [classify_osd, hname, hglyph]
        rfl
      rw [if_pos rfl]
      dsimp only
      rw [List.filter_cons, ih, hlisted]
      split
      · rw [List.map_cons]
      · rfl
    | some g =>
      have hlisted : row.listed = false := by
        unfold Row.listed
        rw [hglyph]
        rfl
      rw [if_neg (Option.some_ne_none g), hlisted, if_neg Bool.false_ne_true]
      exact ih

/-! ## OSD units -/

theorem unitNumber_append {ds : List Char} (h : ∀ c ∈ ds, c.isDigit = true) (value : Nat) :
    unitNumber value (ds ++ dotService) = some (Nat.ofDigitChars 10 ds value) := by
  induction ds generalizing value with
  | nil => rfl
  | cons c ds ih =>
    obtain ⟨hc, hds⟩ := List.forall_mem_cons.mp h
    rw [List.cons_append, unitNumber, decimal_of_isDigit hc]
    dsimp only
    rw [ih hds, Nat.ofDigitChars_cons, Nat.mul_comm value]
    rfl

theorem unitIdAt_osd {p : Char} (hp : p = '.' ∨ p = '@') (n : Nat) :
    unitIdAt ('o' :: 's' :: 'd' :: p :: (Nat.toDigits 10 n ++ dotService)) = some n := by
  have hdigits : ∀ c ∈ Nat.toDigits 10 n, c.isDigit = true := fun c hc =>
    Nat.isDigit_of_mem_toDigits (by decide) (by decide) hc
  have hnumber : unitNumber 0 (Nat.toDigits 10 n ++ dotService) = some n := by
    rw [unitNumber_append hdigits, Nat.ofDigitChars_ten_toDigits]
  have hp' : (p == '.' || p == '@') = true := by
    rcases hp with rfl | rfl <;> rfl
  cases hcase : Nat.toDigits 10 n with
  | nil => exact absurd hcase Nat.toDigits_ne_nil
  | cons c cs =>
    rw [hcase] at hdigits hnumber
    have hc := decimal_of_isDigit (hdigits c List.mem_cons_self)
    rw [List.cons_append, unitNumber, hc] at hnumber
    dsimp only at hnumber
    rw [Nat.zero_mul, Nat.zero_add] at hnumber
    have hletters : (['o', 's', 'd'].map Char.toLower == ['o', 's', 'd']) = true := by decide
    rw [List.cons_append, unitIdAt, hp', hletters, Bool.and_true, if_pos rfl, hc]
    exact hnumber

theorem Service.chars_of_osd (h : service.osd = some n) :
    ∃ start p, (p = '.' ∨ p = '@') ∧ service.chars =
      start ++ 'o' :: 's' :: 'd' :: p :: (Nat.toDigits 10 n ++ dotService) := by
  cases service with
  | cephadmOsd fsid id =>
    have hid : id = n := Option.some.inj h
    refine ⟨"ceph-".toList ++ fsid.toList ++ ['@'], '.', .inl rfl, ?_⟩
    rw [← hid]
    show "ceph-".toList ++ fsid.toList ++ ('@' :: 'o' :: 's' :: 'd' :: ['.']) ++
      Nat.toDigits 10 id ++ dotService = _
    simp only [List.append_assoc, List.cons_append, List.nil_append]
  | packageOsd id =>
    have hid : id = n := Option.some.inj h
    refine ⟨"ceph-".toList, '@', .inr rfl, ?_⟩
    rw [← hid]
    show "ceph-".toList ++ ('o' :: 's' :: 'd' :: ['@']) ++ Nat.toDigits 10 id ++ dotService = _
    simp only [List.append_assoc, List.cons_append, List.nil_append]
  | cephadm | package | single => cases h

/-- **An OSD unit's name mentions its number.** -/
theorem mem_unitIds_of_osd (h : service.osd = some n) : (n : Int) ∈ unitIds service.name := by
  obtain ⟨start, p, hp, hchars⟩ := Service.chars_of_osd h
  have hname : service.name.toList = service.chars := String.toList_ofList
  unfold unitIds
  rw [List.mem_filterMap, hname, hchars]
  refine ⟨_, (List.mem_tails _ _).mpr (List.suffix_append start _), ?_⟩
  rw [unitIdAt_osd hp]
  rfl

theorem occurs_append (start needle rest : List Char) :
    occurs needle (start ++ (needle ++ rest)) = true := by
  unfold occurs
  rw [List.any_eq_true]
  exact ⟨needle ++ rest, (List.mem_tails _ _).mpr (List.suffix_append start _),
    List.isPrefixOf_iff_prefix.mpr (List.prefix_append needle rest)⟩

theorem Row.listed_of_osd {row : Row} (h : row.service.osd.isSome = true) :
    row.listed = row.glyph.isNone := by
  obtain ⟨n, hn⟩ := Option.isSome_iff_exists.mp h
  obtain ⟨start, p, -, hchars⟩ := Service.chars_of_osd hn
  have hoccurs : occurs "osd".toList (row.service.chars.map Char.toLower) = true := by
    rw [hchars, List.map_append]
    exact occurs_append _ "osd".toList _
  unfold Row.listed
  rw [hoccurs, Bool.and_true]

/-! ## Commands -/

inductive Target
  | unit (name : String)
  | daemon (id : Int)
deriving DecidableEq

def Target.restart : Target → List Piece
  | .unit name => [.text "systemctl restart ", .quoted name]
  | .daemon id => [.text "ceph orch daemon restart osd.", .number id]

/-- The command that restarts these targets in turn. -/
def restartOf (targets : List Target) : Command :=
  .line (joined " && " (targets.map Target.restart))

def target : Piece → Option Target
  | .quoted name => some (.unit name)
  | .number id => some (.daemon id)
  | _ => none

theorem targets_joined (targets : List Target) :
    (joined " && " (targets.map Target.restart)).filterMap target = targets := by
  have hone : ∀ t : Target, t.restart.filterMap target = [t] := by
    intro t
    cases t <;> rfl
  induction targets with
  | nil => rfl
  | cons t targets ih =>
    cases targets with
    | nil => exact hone t
    | cons t' targets =>
      show (t.restart ++ .text " && " ::
        joined " && " ((t' :: targets).map Target.restart)).filterMap target = t :: t' :: targets
      rw [List.filterMap_append, hone, List.filterMap_cons]
      dsimp only [target]
      rw [ih]
      rfl

theorem restartOf_inj {targets targets' : List Target}
    (h : restartOf targets = restartOf targets') : targets = targets' := by
  have hpieces := Command.line.inj h
  calc targets = (joined " && " (targets.map Target.restart)).filterMap target :=
        (targets_joined targets).symm
    _ = (joined " && " (targets'.map Target.restart)).filterMap target := by rw [hpieces]
    _ = targets' := targets_joined targets'

theorem restartOsdUnits_eq (names : List String) : restartOsdUnits names =
    if names = [] then .skip else .command (restartOf (names.map .unit)) := by
  unfold restartOsdUnits restartOf
  rw [List.map_map]
  rfl

/-! ## Requests -/

/-- What is asked of a host: to restart its OSDs, or these, or these through the orchestrator. -/
inductive Request
  | all
  | ids (ids : List Int)
  | cephadm (ids : List Int)

/-- What parameters ask of a host. -/
inductive Asks (host : String) (params : Params) : Request → Prop
  | all (hcephadm : (get params "cephadm_osd_ids").truthy = false)
      (hbyHost : ∀ byHost, get params "osd_ids_by_host" = .dict byHost →
        (byHost.lookup host).getD .null = .null) : Asks host params .all
  | ids {byHost : List (String × Value)} {requested : Value} {ids : List Int}
      (hcephadm : (get params "cephadm_osd_ids").truthy = false)
      (hbyHost : get params "osd_ids_by_host" = .dict byHost)
      (hrequested : byHost.lookup host = some requested)
      (hids : pyInts requested = some ids) : Asks host params (.ids ids)
  | cephadm {ids : List Int} (hcephadm : (get params "cephadm_osd_ids").truthy = true)
      (hids : pyInts (get params "cephadm_osd_ids") = some ids) : Asks host params (.cephadm ids)

structure Order where
  host : String
  params : Params
  request : Request
  asks : Asks host params request

/-- `_restart_osd_daemon_command`, with what `systemctl` prints of the host. -/
def restartCommand (W : Words) (output : List Char) (order : Order) : Built :=
  restartOsdDaemonCommand (fun _ => some (discoverCephUnits W output)) order.host order.params

/-- The unit of a listed line mentions one of the ids. -/
def Row.chosen (ids : List Int) (row : Row) : Bool :=
  row.listed && (unitIds row.service.name).any ids.contains

/-- The lines of OSDs that are asked for. -/
def Row.asked (row : Row) : Request → Bool
  | .all => row.service.osd.isSome
  | .ids ids =>
    match row.service.osd with
    | some n => ids.contains (n : Int)
    | none => false
  | .cephadm _ => false

/-- Some unit that is asked for is not there. -/
def Missing (listing : Listing) : Request → Prop
  | .ids ids => ∃ id ∈ ids, ∀ row ∈ listing.rows, ∀ n, row.service.osd = some n → (n : Int) ≠ id
  | _ => False

def Wanted (listing : Listing) (request : Request) : Target → Prop
  | .unit name => ∃ row ∈ listing.rows, row.asked request = true ∧ name = row.service.name
  | .daemon id =>
    match request with
    | .cephadm ids => id ∈ ids
    | _ => False

/-- What is built restarts just what is wanted, each once; an error is raised only for a unit that
is asked for and not there. -/
def Exact (listing : Listing) (request : Request) : Built → Prop
  | .command c => ¬Missing listing request ∧
      ∃ targets, c = restartOf targets ∧ targets.Nodup ∧
        ∀ t, t ∈ targets ↔ Wanted listing request t
  | .skip => Missing listing request
  | .stop => False

/-- The listed units that mention one of the ids mention just these. -/
def Mentioned (listing : Listing) (ids : List Int) : Prop :=
  (∀ row ∈ listing.rows, row.chosen ids = true → ∀ id ∈ unitIds row.service.name, id ∈ ids) ∧
    ∀ id ∈ ids, ∃ row ∈ listing.rows, row.listed = true ∧ id ∈ unitIds row.service.name

def Suits (listing : Listing) : Request → Prop
  | .all => (∃ row ∈ listing.rows, row.service.osd.isSome = true) ∧
      ∀ row ∈ listing.rows,
        if row.service.osd.isSome = true then row.glyph = none else row.listed = false
  | .ids ids => (Missing listing (.ids ids) → ¬Mentioned listing ids) ∧
      (¬Missing listing (.ids ids) → ids ≠ [] ∧ ∀ row ∈ listing.rows,
        if row.asked (.ids ids) = true then
          row.glyph = none ∧ ∀ id ∈ unitIds row.service.name, id ∈ ids
        else row.chosen ids = false)
  | .cephadm _ => True

/-! ## What is built -/

/-- The names on the lines that are selected. -/
def namesOf (listing : Listing) (p : Row → Bool) : List String :=
  (listing.rows.filter p).map fun row => row.service.name

def built (listing : Listing) : Request → Built
  | .all => restartOsdUnits (namesOf listing Row.listed)
  | .ids ids =>
    match requestedUnits (namesOf listing Row.listed) ids with
    | none => .skip
    | some chosen => restartOsdUnits chosen
  | .cephadm ids => .command (restartOf ((sortedIds ids).map .daemon))

theorem restartCommand_eq (W : Words) (listing : Listing) (order : Order) :
    restartCommand W listing.text order = built listing order.request := by
  obtain ⟨host, params, request, asks⟩ := order
  have hosd : (discoverCephUnits W listing.text).osd = namesOf listing Row.listed :=
    discovered_osd W listing
  unfold restartCommand restartOsdDaemonCommand
  dsimp only
  cases asks with
  | all hcephadm hbyHost =>
    rw [hcephadm, if_neg Bool.false_ne_true]
    split
    · rename_i byHost hdict
      rw [hbyHost byHost hdict]
      dsimp only [built]
      rw [hosd]
    · dsimp only [built]
      rw [hosd]
  | ids hcephadm hbyHost hrequested hids =>
    rename_i byHost requested ids
    rw [hcephadm, if_neg Bool.false_ne_true, hbyHost]
    dsimp only
    rw [hrequested, Option.getD_some]
    cases requested with
    | null => cases hids
    | _ =>
      dsimp only
      rw [hids]
      generalize (discoverCephUnits W listing.text).osd = units at hosd
      subst hosd
      rfl
  | cephadm hcephadm hids =>
    rw [if_pos hcephadm, hids]
    dsimp only [built, restartOf]
    rw [List.map_map]
    rfl

section

variable (listing : Listing)

theorem exact_names_iff (request : Request)
    (hrequest : ∀ ids, request ≠ .cephadm ids) (p : Row → Bool) :
    (∃ targets, restartOf ((namesOf listing p).map .unit) = restartOf targets ∧ targets.Nodup ∧
        ∀ t, t ∈ targets ↔ Wanted listing request t) ↔
      ∀ row ∈ listing.rows, p row = row.asked request := by
  have hmem : ∀ row ∈ listing.rows, ∀ q : Row → Bool,
      row.service.name ∈ namesOf listing q ↔ q row = true := by
    intro row hrow q
    unfold namesOf
    rw [List.mem_map]
    constructor
    · rintro ⟨row', hrow', hname⟩
      obtain ⟨hin, hq⟩ := List.mem_filter.mp hrow'
      have heq : row' = row := List.inj_on_of_nodup_map listing.distinct hin hrow hname
      rw [← heq]
      exact hq
    · intro hq
      exact ⟨row, List.mem_filter.mpr ⟨hrow, hq⟩, rfl⟩
  have hwanted : ∀ name, Wanted listing request (.unit name) ↔
      name ∈ namesOf listing fun row => row.asked request := by
    intro name
    unfold Wanted namesOf
    rw [List.mem_map]
    constructor
    · rintro ⟨row, hrow, hasked, rfl⟩
      exact ⟨row, List.mem_filter.mpr ⟨hrow, hasked⟩, rfl⟩
    · rintro ⟨row, hrow, rfl⟩
      exact ⟨row, (List.mem_filter.mp hrow).1, (List.mem_filter.mp hrow).2, rfl⟩
  have hunit : Function.Injective Target.unit := fun _ _ h => Target.unit.inj h
  constructor
  · rintro ⟨targets, heq, -, htargets⟩ row hrow
    have hone := htargets (.unit row.service.name)
    rw [← restartOf_inj heq, hwanted, List.mem_map_of_injective hunit, hmem row hrow,
      hmem row hrow] at hone
    exact Bool.eq_iff_iff.mpr hone
  · intro hall
    have hnames : namesOf listing p = namesOf listing fun row => row.asked request := by
      unfold namesOf
      rw [List.filter_congr hall]
    refine ⟨_, rfl, ?_, ?_⟩
    · have hnodup : (namesOf listing p).Nodup :=
        listing.distinct.sublist (List.filter_sublist.map _)
      exact hnodup.map hunit
    · intro t
      cases t with
      | unit name => rw [List.mem_map_of_injective hunit, hwanted, hnames]
      | daemon id =>
        constructor
        · intro hmem
          obtain ⟨name, -, hname⟩ := List.mem_map.mp hmem
          cases hname
        · intro hid
          cases request with
          | all | ids => exact hid.elim
          | cephadm ids => exact absurd rfl (hrequest ids)

theorem namesOf_eq_nil (p : Row → Bool) :
    namesOf listing p = [] ↔ ∀ row ∈ listing.rows, p row = false := by
  unfold namesOf
  rw [List.map_eq_nil_iff, List.filter_eq_nil_iff]
  simp only [Bool.not_eq_true]

theorem exact_restart_iff (request : Request)
    (hrequest : ∀ ids, request ≠ .cephadm ids) (p : Row → Bool) :
    Exact listing request (restartOsdUnits (namesOf listing p)) ↔
      if namesOf listing p = [] then Missing listing request
      else ¬Missing listing request ∧ ∀ row ∈ listing.rows, p row = row.asked request := by
  rw [restartOsdUnits_eq]
  split
  · exact Iff.rfl
  · unfold Exact
    dsimp only
    rw [exact_names_iff listing request hrequest]

end

theorem Row.chosen_iff (ids : List Int) (row : Row) : row.chosen ids = true ↔
    row.listed = true ∧ ∃ id ∈ unitIds row.service.name, id ∈ ids := by
  unfold Row.chosen
  rw [Bool.and_eq_true, List.any_eq_true]
  simp only [List.contains_iff_mem]

theorem requestedUnits_cases (listing : Listing) (ids : List Int) :
    (Mentioned listing ids ∧ requestedUnits (namesOf listing Row.listed) ids =
        some (namesOf listing (Row.chosen ids))) ∨
      (¬Mentioned listing ids ∧ requestedUnits (namesOf listing Row.listed) ids = none) := by
  have hchosen : (namesOf listing Row.listed).filter (fun unit => (unitIds unit).any ids.contains) =
      namesOf listing (Row.chosen ids) := by
    unfold namesOf
    rw [List.filter_map, List.filter_filter]
    congr 1
    apply List.filter_congr
    intro row _
    exact Bool.and_comm _ _
  have hfound : ∀ id, id ∈ (namesOf listing (Row.chosen ids)).flatMap unitIds ↔
      ∃ row ∈ listing.rows, row.chosen ids = true ∧ id ∈ unitIds row.service.name := by
    intro id
    unfold namesOf
    rw [List.mem_flatMap]
    constructor
    · rintro ⟨name, hname, hid⟩
      obtain ⟨row, hrow, rfl⟩ := List.mem_map.mp hname
      exact ⟨row, (List.mem_filter.mp hrow).1, (List.mem_filter.mp hrow).2, hid⟩
    · rintro ⟨row, hrow, hp, hid⟩
      exact ⟨_, List.mem_map_of_mem (List.mem_filter.mpr ⟨hrow, hp⟩), hid⟩
  have hmentioned : (((namesOf listing (Row.chosen ids)).flatMap unitIds).all ids.contains &&
      ids.all ((namesOf listing (Row.chosen ids)).flatMap unitIds).contains) = true ↔
        Mentioned listing ids := by
    rw [Bool.and_eq_true, List.all_eq_true, List.all_eq_true]
    simp only [List.contains_iff_mem, hfound]
    unfold Mentioned
    constructor
    · rintro ⟨hall, hids⟩
      refine ⟨fun row hrow hp id hid => hall id ⟨row, hrow, hp, hid⟩, ?_⟩
      intro id hid
      obtain ⟨row, hrow, hp, hmem⟩ := hids id hid
      exact ⟨row, hrow, ((row.chosen_iff ids).mp hp).1, hmem⟩
    · rintro ⟨hall, hids⟩
      constructor
      · rintro id ⟨row, hrow, hp, hid⟩
        exact hall row hrow hp id hid
      · intro id hid
        obtain ⟨row, hrow, hlisted, hmem⟩ := hids id hid
        exact ⟨row, hrow, (row.chosen_iff ids).mpr ⟨hlisted, id, hmem, hid⟩, hmem⟩
  unfold requestedUnits
  dsimp only
  rw [hchosen]
  by_cases h : Mentioned listing ids
  · exact .inl ⟨h, if_pos (hmentioned.mpr h)⟩
  · exact .inr ⟨h, if_neg fun htrue => h (hmentioned.mp htrue)⟩

/-! ## When the command is right -/

theorem Row.asked_ids (row : Row) : row.asked (.ids ids) = true ↔
    ∃ n, row.service.osd = some n ∧ (n : Int) ∈ ids := by
  unfold Row.asked
  dsimp only
  cases row.service.osd with
  | none => simp
  | some n => simp

theorem Row.chosen_of_asked {row : Row} (h : row.asked (.ids ids) = true) :
    row.chosen ids = row.glyph.isNone := by
  obtain ⟨n, hn, hid⟩ := row.asked_ids.mp h
  have hlisted : row.listed = row.glyph.isNone := Row.listed_of_osd (by rw [hn]; rfl)
  have hany : (unitIds row.service.name).any ids.contains = true :=
    List.any_eq_true.mpr ⟨n, mem_unitIds_of_osd hn, List.contains_iff_mem.mpr hid⟩
  unfold Row.chosen
  rw [hlisted, hany, Bool.and_true]

theorem exact_all_iff (listing : Listing) :
    Exact listing .all (built listing .all) ↔ Suits listing .all := by
  unfold built Suits
  rw [exact_restart_iff listing .all (fun _ h => by cases h)]
  have hrow : ∀ row : Row, row.listed = row.asked .all ↔
      if row.service.osd.isSome = true then row.glyph = none else row.listed = false := by
    intro row
    show row.listed = row.service.osd.isSome ↔ _
    split
    · rename_i hosd
      rw [hosd, Row.listed_of_osd hosd, Option.isNone_iff_eq_none]
    · rename_i hosd
      rw [Bool.eq_false_iff.mpr hosd]
  simp only [hrow]
  split
  · rename_i hnil
    rw [namesOf_eq_nil] at hnil
    constructor
    · exact False.elim
    · rintro ⟨⟨row, hin, hosd⟩, hall⟩
      have hglyph := hall row hin
      rw [if_pos hosd] at hglyph
      have hlisted := hnil row hin
      rw [Row.listed_of_osd hosd, hglyph] at hlisted
      cases hlisted
  · rename_i hne
    constructor
    · rintro ⟨-, hall⟩
      refine ⟨?_, hall⟩
      by_contra hnone
      apply hne
      rw [namesOf_eq_nil]
      intro row hin
      have hosd : ¬row.service.osd.isSome = true := fun hosd => hnone ⟨row, hin, hosd⟩
      have hlisted := hall row hin
      rw [if_neg hosd] at hlisted
      exact hlisted
    · rintro ⟨-, hall⟩
      exact ⟨id, hall⟩

theorem Row.suits_iff (row : Row) (ids : List Int) :
    (if row.asked (.ids ids) = true then
        row.glyph = none ∧ ∀ id ∈ unitIds row.service.name, id ∈ ids
      else row.chosen ids = false) ↔
      row.chosen ids = row.asked (.ids ids) ∧
        (row.chosen ids = true → ∀ id ∈ unitIds row.service.name, id ∈ ids) := by
  split
  · rename_i hasked
    rw [Row.chosen_of_asked hasked, hasked, Option.isNone_iff_eq_none]
    constructor
    · rintro ⟨hglyph, hids⟩
      exact ⟨hglyph, fun _ => hids⟩
    · rintro ⟨hglyph, hids⟩
      exact ⟨hglyph, hids hglyph⟩
  · rename_i hasked
    rw [Bool.eq_false_iff.mpr hasked]
    constructor
    · intro hchosen
      refine ⟨hchosen, fun htrue => ?_⟩
      rw [hchosen] at htrue
      cases htrue
    · rintro ⟨hchosen, -⟩
      exact hchosen

theorem mentioned_of_suits {listing : Listing} (hpresent : ¬Missing listing (.ids ids))
    (h : ∀ row ∈ listing.rows, row.chosen ids = row.asked (.ids ids) ∧
      (row.chosen ids = true → ∀ id ∈ unitIds row.service.name, id ∈ ids)) :
    Mentioned listing ids := by
  constructor
  · exact fun row hrow => (h row hrow).2
  · intro id hid
    by_contra hnone
    apply hpresent
    refine ⟨id, hid, fun row hrow n hn hsame => hnone ⟨row, hrow, ?_, ?_⟩⟩
    · have hasked : row.asked (.ids ids) = true := by
        rw [row.asked_ids]
        exact ⟨n, hn, by rw [hsame]; exact hid⟩
      have hchosen : row.chosen ids = true := by rw [(h row hrow).1, hasked]
      exact ((row.chosen_iff ids).mp hchosen).1
    · rw [← hsame]
      exact mem_unitIds_of_osd hn

theorem exact_ids_iff (listing : Listing) (ids : List Int) :
    Exact listing (.ids ids) (built listing (.ids ids)) ↔ Suits listing (.ids ids) := by
  unfold built Suits
  simp only [Row.suits_iff]
  rcases requestedUnits_cases listing ids with ⟨hmentioned, heq⟩ | ⟨hnot, heq⟩
  · rw [heq]
    dsimp only
    rw [exact_restart_iff listing (.ids ids) (fun _ h => by cases h)]
    split
    · rename_i hnil
      rw [namesOf_eq_nil] at hnil
      -- no unit is chosen, so no id was asked for
      have hids : ids = [] := by
        rw [List.eq_nil_iff_forall_not_mem]
        intro id hid
        obtain ⟨row, hrow, hlisted, hmem⟩ := hmentioned.2 id hid
        have hchosen := (row.chosen_iff ids).mpr ⟨hlisted, id, hmem, hid⟩
        rw [hnil row hrow] at hchosen
        cases hchosen
      constructor
      · intro hmissing
        obtain ⟨id, hid, -⟩ := hmissing
        rw [hids] at hid
        cases hid
      · rintro ⟨-, hpresent⟩
        by_contra hmissing
        exact (hpresent hmissing).1 hids
    · rename_i hne
      constructor
      · rintro ⟨hpresent, hall⟩
        refine ⟨fun hmissing => absurd hmissing hpresent, fun _ => ⟨?_, ?_⟩⟩
        · rintro rfl
          apply hne
          rw [namesOf_eq_nil]
          intro row hrow
          rw [hall row hrow, Bool.eq_false_iff]
          intro hasked
          obtain ⟨n, -, hn⟩ := row.asked_ids.mp hasked
          cases hn
        · exact fun row hrow => ⟨hall row hrow, hmentioned.1 row hrow⟩
      · rintro ⟨hmissing, hpresent⟩
        have hthere : ¬Missing listing (.ids ids) := fun h => hmissing h hmentioned
        exact ⟨hthere, fun row hrow => ((hpresent hthere).2 row hrow).1⟩
  · rw [heq]
    show Missing listing (.ids ids) ↔ _
    constructor
    · exact fun hmissing => ⟨fun _ => hnot, fun hthere => absurd hmissing hthere⟩
    · rintro ⟨-, hpresent⟩
      by_contra hthere
      exact hnot (mentioned_of_suits hthere (hpresent hthere).2)

theorem exact_cephadm (listing : Listing) (ids : List Int) :
    Exact listing (.cephadm ids) (built listing (.cephadm ids)) := by
  have hdaemon : Function.Injective Target.daemon := fun _ _ h => Target.daemon.inj h
  have hmem : ∀ id, id ∈ sortedIds ids ↔ id ∈ ids := by
    intro id
    unfold sortedIds
    rw [List.mem_mergeSort, List.mem_dedup]
  have hnodup : (sortedIds ids).Nodup :=
    (List.mergeSort_perm _ _).nodup_iff.mpr (List.nodup_dedup ids)
  refine ⟨id, _, rfl, hnodup.map hdaemon, ?_⟩
  intro t
  cases t with
  | unit name =>
    constructor
    · intro h
      obtain ⟨id, -, hid⟩ := List.mem_map.mp h
      cases hid
    · rintro ⟨row, -, hasked, -⟩
      cases hasked
  | daemon id =>
    rw [List.mem_map_of_injective hdaemon, hmem]
    exact Iff.rfl

/-- **When the command is right**: the OSDs that it should restart have no glyph in front of them,
and no other unit is taken for one of theirs; ids that are not there are not mentioned either. -/
theorem exact_iff (W : Words) (listing : Listing) (order : Order) :
    Exact listing order.request (restartCommand W listing.text order) ↔
      Suits listing order.request := by
  rw [restartCommand_eq]
  cases order.request with
  | all => exact exact_all_iff listing
  | ids ids => exact exact_ids_iff listing ids
  | cephadm ids => exact iff_of_true (exact_cephadm listing ids) trivial

/-! ## Two listings -/

def asciiWords : Words := ⟨fun c => c.isAlphanum || c == '_', fun _ _ => rfl⟩

/-- A monitor on a host with such a name. -/
def monitorRow : Row where
  lead := 2
  glyph := none
  service := .package "mon" "osd-node1"
  columns := " loaded active running Ceph cluster monitor daemon".toList
  wellFormed := by decide
  visible := rfl
  apart := by decide
  oneLine := by decide

/-- An OSD of the host. -/
def osdRow (glyph : Option Char) (visible : glyph.all (fun g => !isSpace g) = true) : Row where
  lead := 0
  glyph := glyph
  service := .packageOsd 3
  columns := " loaded failed failed Ceph object storage daemon osd.3".toList
  wellFormed := rfl
  visible := visible
  apart := by decide
  oneLine := by decide

def withMonitor : Listing := ⟨[osdRow none rfl, monitorRow], by decide⟩

def withFailed : Listing := ⟨[osdRow (some '●') (by decide)], by decide⟩

def allOsds : Order where
  host := "10.20.1.83"
  params := []
  request := .all
  asks := .all rfl fun _ h => by cases h

def osdThree : Order where
  host := "10.20.1.83"
  params := [("osd_ids_by_host", .dict [("10.20.1.83", .list [.int 3])])]
  request := .ids [3]
  asks := .ids rfl rfl rfl rfl

/-- The monitor is restarted with the OSD, and a failed OSD is not found. -/
theorem monitor_restarted :
    restartCommand asciiWords withMonitor.text allOsds = .command (restartOf
        [.unit "ceph-osd@3.service", .unit "ceph-mon@osd-node1.service"]) ∧
      ¬Exact withMonitor .all (restartCommand asciiWords withMonitor.text allOsds) ∧
      ¬Exact withFailed (.ids [3]) (restartCommand asciiWords withFailed.text osdThree) := by
  have hcommand : restartCommand asciiWords withMonitor.text allOsds = .command (restartOf
      [.unit "ceph-osd@3.service", .unit "ceph-mon@osd-node1.service"]) := by
    have hnames : namesOf withMonitor Row.listed =
        ["ceph-osd@3.service", "ceph-mon@osd-node1.service"] := by decide
    rw [restartCommand_eq]
    show restartOsdUnits (namesOf withMonitor Row.listed) = _
    rw [hnames]
    rfl
  refine ⟨hcommand, ?_, ?_⟩
  · rw [hcommand]
    rintro ⟨-, targets, heq, -, htargets⟩
    rw [← restartOf_inj heq] at htargets
    obtain ⟨row, hrow, hasked, hname⟩ :=
      (htargets (.unit "ceph-mon@osd-node1.service")).mp (by decide)
    rcases List.mem_pair.mp hrow with rfl | rfl
    · revert hname
      decide
    · cases hasked
  · have hnames : namesOf withFailed Row.listed = [] := by decide
    rw [restartCommand_eq]
    show ¬Exact withFailed (.ids [3]) (match requestedUnits (namesOf withFailed Row.listed) [3] with
      | none => Built.skip
      | some chosen => restartOsdUnits chosen)
    rw [hnames]
    rintro ⟨id, hid, hmissing⟩
    exact hmissing _ List.mem_cons_self 3 rfl (List.mem_singleton.mp hid).symm

end CephAi.Ports.OsdRestart
