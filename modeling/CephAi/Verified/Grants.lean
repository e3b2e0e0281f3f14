/-!
# Grants from a counter

A counter grants uses of something scarce.  Who holds a grant may use it once or
lose it; the counter is not given back what is lost.  The holders are the
elements of a list, each with as many grants as a function of it says.

## Main results

* `total_set`, `total_append`, `total_map_le` — what the holders hold together.
* `Within.take` — what is used stays within the limit of the counter.
-/

namespace CephAi.Verified.Grants

variable {α : Type _}

/-- What the elements of the list hold together. -/
def total (held : α → Nat) : List α → Nat
  | [] => 0
  | x :: l => held x + total held l

variable {held : α → Nat}

theorem total_append (l l' : List α) : total held (l ++ l') = total held l + total held l' := by
  induction l with
  | nil => exact (Nat.zero_add _).symm
  | cons x l ih =>
    show held x + total held (l ++ l') = held x + total held l + total held l'
    rw [ih]
    omega

/-- One element replaced. -/
theorem total_set (held : α → Nat) {x : α} (y : α) : ∀ {l : List α} {i : Nat},
    l[i]? = some x → total held (l.set i y) + held x = total held l + held y := by
  intro l
  induction l with
  | nil =>
    intro i hx
    simp at hx
  | cons z l ih =>
    intro i hx
    cases i with
    | zero =>
      rw [List.getElem?_cons_zero, Option.some.injEq] at hx
      subst hx
      show held y + total held l + held z = held z + total held l + held y
      omega
    | succ i =>
      rw [List.getElem?_cons_succ] at hx
      have hrest := ih hx
      show held z + total held (l.set i y) + held x = held z + total held l + held y
      omega

/-- Elements that lose grants. -/
theorem total_map_le {f : α → α} (h : ∀ x, held (f x) ≤ held x) (l : List α) :
    total held (l.map f) ≤ total held l := by
  induction l with
  | nil => exact Nat.le_refl 0
  | cons x l ih =>
    have hx := h x
    show held (f x) + total held (l.map f) ≤ held x + total held l
    omega

theorem total_eq_zero {l : List α} (h : ∀ x ∈ l, held x = 0) : total held l = 0 := by
  induction l with
  | nil => rfl
  | cons x l ih =>
    show held x + total held l = 0
    rw [h x List.mem_cons_self, ih fun y hy => h y (List.mem_cons_of_mem x hy)]

/-- What is used and what is held lies within what the counter has granted, and that within
its limit. -/
structure Within (limit used held counted : Nat) : Prop where
  backed : used + held ≤ counted
  bounded : counted ≤ limit

theorem Within.take {limit used held counted used' held' counted' : Nat}
    (h : Within limit used held counted) (hcounted : counted ≤ counted')
    (hpaid : used' + held' ≤ used + held + (counted' - counted))
    (hbounded : counted' ≤ limit) : Within limit used' held' counted' := by
  have hbacked := h.backed
  exact ⟨by omega, hbounded⟩

theorem Within.used_le {limit used held counted : Nat}
    (h : Within limit used held counted) : used ≤ limit := by
  have hbacked := h.backed
  have hbounded := h.bounded
  omega

end CephAi.Verified.Grants
