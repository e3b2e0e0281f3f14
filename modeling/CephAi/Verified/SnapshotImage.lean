/-!
# Block images with snapshots

A block image, its named snapshots, and the two kinds of export taken from
them: a full export holds the whole content, a differential export holds the
extents written between two snapshots and names both.

An import creates an image without snapshots.  A differential import needs the
start snapshot on the destination; it overwrites the recorded extents and
creates the end snapshot.

Offsets and data are arbitrary types.

## Main results

* `importDiff_of_import` — nothing differential applies to a fresh import.
-/

namespace CephAi.Verified.SnapshotImage

variable {ω δ : Type}

/-- A snapshot remembers the content and how many writes came before it. -/
structure Snapshot (ω δ : Type) where
  name : String
  content : ω → δ
  position : Nat

/-- An image: its content, the offsets written so far, its snapshots. -/
structure Image (ω δ : Type) where
  content : ω → δ
  writes : List ω
  snapshots : List (Snapshot ω δ)

/-- What an export command prints. -/
inductive Export (ω δ : Type)
  | full (content : ω → δ)
  | diff (fromSnap toSnap : String) (extents : List ω) (content : ω → δ)

def Image.write [DecidableEq ω] (im : Image ω δ) (offset : ω) (data : δ) :
    Image ω δ where
  content := fun o => if o = offset then data else im.content o
  writes := im.writes ++ [offset]
  snapshots := im.snapshots

def Image.snapshot? (im : Image ω δ) (name : String) :
    Option (Snapshot ω δ) :=
  im.snapshots.find? (fun s => s.name == name)

/-- `rbd snap create`; a taken name is refused. -/
def Image.snapCreate (im : Image ω δ) (name : String) : Option (Image ω δ) :=
  if (im.snapshot? name).isSome then none
  else some { im with
    snapshots := im.snapshots ++ [⟨name, im.content, im.writes.length⟩] }

/-- `rbd snap rm`. -/
def Image.snapRm (im : Image ω δ) (name : String) : Image ω δ :=
  { im with snapshots := im.snapshots.filter (fun s => s.name != name) }

/-- `rbd export image@name`: the whole content at the snapshot. -/
def Image.exportSnap (im : Image ω δ) (name : String) :
    Option (Export ω δ) :=
  (im.snapshot? name).map (fun s => .full s.content)

/-- `rbd export-diff image@toSnap --from-snap fromSnap`: the extents written
between the two snapshots, with their content at the end. -/
def Image.exportDiff (im : Image ω δ) (fromSnap toSnap : String) :
    Option (Export ω δ) :=
  match im.snapshot? fromSnap, im.snapshot? toSnap with
  | some s, some e =>
    some (.diff fromSnap toSnap
      ((im.writes.take e.position).drop s.position) e.content)
  | _, _ => none

/-- `rbd import`: a new image without snapshots.  Only a full export is an
image. -/
def Image.ofImport : Export ω δ → Option (Image ω δ)
  | .full content => some ⟨content, [], []⟩
  | .diff .. => none

/-- `rbd import-diff`: the start snapshot has to be there. -/
def Image.importDiff [DecidableEq ω] (im : Image ω δ) :
    Export ω δ → Option (Image ω δ)
  | .full _ => none
  | .diff fromSnap toSnap extents content =>
    if (im.snapshot? fromSnap).isNone then none
    else
      let patched : Image ω δ :=
        { im with
          content := fun o =>
            if o ∈ extents then content o else im.content o
          writes := im.writes ++ extents }
      patched.snapCreate toSnap

variable {im : Image ω δ} {name : String}

theorem snapCreate_eq_some {im' : Image ω δ} (h : im.snapCreate name = some im') :
    im'.content = im.content ∧ im'.writes = im.writes ∧
      im'.snapshots =
        im.snapshots ++ [⟨name, im.content, im.writes.length⟩] ∧
      im.snapshot? name = none := by
  unfold Image.snapCreate at h
  cases hs : im.snapshot? name with
  | some s => simp [hs] at h
  | none =>
    simp only [hs, Option.isSome_none, Bool.false_eq_true, if_false,
      Option.some.injEq] at h
    subst h
    exact ⟨rfl, rfl, rfl, rfl⟩

theorem snapshot?_snapCreate {im' : Image ω δ} (h : im.snapCreate name = some im') :
    im'.snapshot? name = some ⟨name, im.content, im.writes.length⟩ := by
  obtain ⟨_, _, hsnaps, hnone⟩ := snapCreate_eq_some h
  unfold Image.snapshot? at hnone ⊢
  rw [hsnaps, List.find?_append, hnone]
  simp

/-- **Nothing differential applies to a fresh import**: it has no snapshot a
diff could start from. -/
theorem importDiff_of_import [DecidableEq ω] {e : Export ω δ} (him : Image.ofImport e = some im)
    (d : Export ω δ) : im.importDiff d = none := by
  cases e with
  | diff fromSnap toSnap extents content => simp [Image.ofImport] at him
  | full content =>
    simp only [Image.ofImport, Option.some.injEq] at him
    subst him
    cases d with
    | full c => rfl
    | diff fromSnap toSnap extents c =>
      simp [Image.importDiff, Image.snapshot?]

end CephAi.Verified.SnapshotImage
