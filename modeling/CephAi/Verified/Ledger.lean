import Mathlib.Algebra.Order.Monoid.Unbundled.Basic
import Mathlib.Data.List.Basic
import Mathlib.Data.List.Induction

/-!
# Charges on a ledger

The charges of the entries are added up in the order of the entries.  The addition need not be
exact: it is monotone, and zero is neutral.

## Main results

* `total_le` — charges that go down lower the total.
* `total_eq_iff` — where the addition is strictly monotone, they leave it only if none went down.
* `Under.concat` — an entry that was checked against the limit keeps the total under it.
-/

namespace CephAi.Verified.Ledger

variable {α β F : Type _} [AddZeroClass F]

/-- The charges of the entries, added up in turn. -/
def total (charge : α → F) (entries : List α) : F :=
  entries.foldl (fun sum x => sum + charge x) 0

theorem total_concat (charge : α → F) (entries : List α) (x : α) :
    total charge (entries ++ [x]) = total charge entries + charge x := by
  simp only [total, List.foldl_append, List.foldl_cons, List.foldl_nil]

theorem total_map (charge : β → F) (f : α → β) (entries : List α) :
    total charge (entries.map f) = total (fun x => charge (f x)) entries :=
  List.foldl_map

variable {charge charge' : α → F} {entries : List α}

theorem total_congr (h : ∀ x ∈ entries, charge x = charge' x) :
    total charge entries = total charge' entries :=
  List.foldl_ext _ _ 0 fun sum x hx => congrArg (sum + ·) (h x hx)

variable [Preorder F] [AddLeftMono F] [AddRightMono F]

section

variable (h : ∀ x ∈ entries, charge x ≤ charge' x)
include h

theorem foldl_add_le :
    ∀ {sum sum' : F}, sum ≤ sum' →
      entries.foldl (fun sum x => sum + charge x) sum ≤
        entries.foldl (fun sum x => sum + charge' x) sum' := by
  induction entries with
  | nil =>
    intro sum sum' hsum
    exact hsum
  | cons x entries ih =>
    intro sum sum' hsum
    apply ih (fun y hy => h y (List.mem_cons_of_mem x hy))
    exact add_le_add hsum (h x List.mem_cons_self)

theorem total_le :
    total charge entries ≤ total charge' entries :=
  foldl_add_le h le_rfl

end

def Under (limit : F) (charge : α → F) (entries : List α) : Prop := total charge entries < limit

theorem Under.lower {limit : F} (h : Under limit charge entries)
    (hle : ∀ x ∈ entries, charge' x ≤ charge x) :
    Under limit charge' entries :=
  lt_of_le_of_lt (total_le hle) h

theorem Under.concat {limit estimate : F} {x : α} (h : total charge entries + estimate < limit)
    (hx : charge x ≤ estimate) : Under limit charge (entries ++ [x]) := by
  unfold Under
  rw [total_concat]
  exact lt_of_le_of_lt (add_le_add le_rfl hx) h

/-! ## Exact addition -/

section

variable {F : Type _} [AddZeroClass F] [PartialOrder F] [AddLeftStrictMono F] [AddRightStrictMono F]

theorem total_lt {charge charge' : α → F} {entries : List α}
    (h : ∀ x ∈ entries, charge x ≤ charge' x) {x : α} (hx : x ∈ entries)
    (hlt : charge x < charge' x) : total charge entries < total charge' entries := by
  have := addLeftMono_of_addLeftStrictMono F
  have := addRightMono_of_addRightStrictMono F
  induction entries using List.reverseRecOn with
  | nil => exact absurd hx List.not_mem_nil
  | append_singleton entries y ih =>
    have hinit : ∀ z ∈ entries, charge z ≤ charge' z :=
      fun z hz => h z (List.mem_append_left [y] hz)
    have hlast : charge y ≤ charge' y := h y (List.mem_append_right entries List.mem_cons_self)
    rw [total_concat, total_concat]
    rcases List.mem_append.mp hx with hx | hx
    · exact add_lt_add_of_lt_of_le (ih hinit hx) hlast
    · rw [List.mem_singleton] at hx
      subst hx
      exact add_lt_add_of_le_of_lt (total_le hinit) hlt

theorem total_eq_iff {charge charge' : α → F} {entries : List α}
    (h : ∀ x ∈ entries, charge x ≤ charge' x) :
    total charge entries = total charge' entries ↔ ∀ x ∈ entries, charge x = charge' x := by
  constructor
  · intro htotal x hx
    by_contra hne
    exact absurd htotal (total_lt h hx (lt_of_le_of_ne (h x hx) hne)).ne
  · exact total_congr

end

end CephAi.Verified.Ledger
