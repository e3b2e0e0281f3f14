import Mathlib.Data.List.Pairwise

/-!
# Claims with a lease

Who obtains a claim on a key holds it until it ends the claim or the lease is over.  The record of
the claims is a list; what is stored, a row of a table say, has one claim of a key at a time.
`has` says which claims the stored state has.

## Main results

* `Recorded.claim` — a key whose claims are over can be claimed.
* `Recorded.mono`, `Recorded.end_`, `Recorded.later` — what keeps the record.
* `Recorded.oneLive` — two claims of a key are never live at once.
-/

namespace CephAi.Verified.Leases

/-- A claim on a key, under a token of its own, since a time. -/
structure Claim (κ : Type _) where
  key : κ
  token : Nat
  since : Int
deriving DecidableEq, Repr

variable {κ : Type _} {lease clock : Int} {next : Nat} {has has' : Claim κ → Prop}
  {held : List (Claim κ)}

/-- The lease is not over. -/
def Claim.Live (lease clock : Int) (c : Claim κ) : Prop := clock < c.since + lease

/-- A key has one live claim at most. -/
def OneLive (lease clock : Int) (held : List (Claim κ)) : Prop :=
  ∀ c ∈ held, ∀ d ∈ held, c.key = d.key → c.Live lease clock → d.Live lease clock → c = d

instance (lease clock : Int) (c : Claim κ) : Decidable (c.Live lease clock) :=
  inferInstanceAs (Decidable (clock < c.since + lease))

instance [DecidableEq κ] (lease clock : Int) (held : List (Claim κ)) :
    Decidable (OneLive lease clock held) :=
  inferInstanceAs (Decidable (∀ c ∈ held, ∀ d ∈ held, c.key = d.key → c.Live lease clock →
    d.Live lease clock → c = d))

/-- The claims on record without the one of this key and token. -/
def endClaim [DecidableEq κ] (held : List (Claim κ)) (key : κ) (token : Nat) :
    List (Claim κ) :=
  held.filter fun c => ¬(c.key = key ∧ c.token = token)

/-- What is stored has every live claim on record, and the tokens are of one claim each. -/
structure Recorded (lease clock : Int) (next : Nat) (has : Claim κ → Prop)
    (held : List (Claim κ)) : Prop where
  backed : ∀ c ∈ held, c.Live lease clock → has c
  token_lt : ∀ c ∈ held, c.token < next
  apart : held.Pairwise fun c d => c.token ≠ d.token

theorem Recorded.nil : Recorded lease clock next has [] where
  backed := by
    intro c hc
    cases hc
  token_lt := by
    intro c hc
    cases hc
  apart := List.Pairwise.nil

section

variable (h : Recorded lease clock next has held)
include h

theorem Recorded.eq_of_token {c d : Claim κ}
    (hc : c ∈ held) (hd : d ∈ held) (htoken : c.token = d.token) : c = d := by
  by_contra hne
  have hsymm : Std.Symm fun a b : Claim κ => a.token ≠ b.token :=
    ⟨fun _ _ hab heq => hab heq.symm⟩
  exact h.apart.forall hc hd hne htoken

theorem Recorded.oneLive (hone : ∀ c d, has c → has d → c.key = d.key → c.token = d.token) :
    OneLive lease clock held := by
  intro c hc d hd hkey hlivec hlived
  apply h.eq_of_token hc hd
  exact hone c d (h.backed c hc hlivec) (h.backed d hd hlived) hkey

/-- Time goes on. -/
theorem Recorded.later {clock' : Int}
    (hclock : clock ≤ clock') : Recorded lease clock' next has held := by
  refine ⟨?_, h.token_lt, h.apart⟩
  intro c hc hlive
  apply h.backed c hc
  unfold Claim.Live at hlive ⊢
  omega

theorem Recorded.mono (hkeep : ∀ c ∈ held, c.Live lease clock → has c → has' c) :
    Recorded lease clock next has' held := by
  refine ⟨?_, h.token_lt, h.apart⟩
  intro c hc hlive
  exact hkeep c hc hlive (h.backed c hc hlive)

theorem Recorded.claim (key : κ) (since : Int)
    (hover : ∀ c ∈ held, c.key = key → ¬c.Live lease clock) (hnew : has' ⟨key, next, since⟩)
    (hkeep : ∀ c ∈ held, c.key ≠ key → has c → has' c) :
    Recorded lease clock (next + 1) has' (⟨key, next, since⟩ :: held) := by
  refine ⟨?_, ?_, ?_⟩
  · intro c hc hlive
    rcases List.mem_cons.mp hc with hself | hrest
    · rw [hself]
      exact hnew
    · apply hkeep c hrest
      · intro hkey
        exact hover c hrest hkey hlive
      · exact h.backed c hrest hlive
  · intro c hc
    rcases List.mem_cons.mp hc with hself | hrest
    · rw [hself]
      exact Nat.lt_succ_self next
    · have hlt := h.token_lt c hrest
      omega
  · apply List.Pairwise.cons _ h.apart
    intro c hc
    have hlt := h.token_lt c hc
    show next ≠ c.token
    omega

theorem Recorded.end_ [DecidableEq κ] (key : κ) (token : Nat)
    (hkeep : ∀ c ∈ held, ¬(c.key = key ∧ c.token = token) → has c → has' c) :
    Recorded lease clock next has' (endClaim held key token) := by
  have hmem : ∀ c ∈ endClaim held key token,
      c ∈ held ∧ ¬(c.key = key ∧ c.token = token) := by
    intro c hc
    obtain ⟨hin, hother⟩ := List.mem_filter.mp hc
    exact ⟨hin, of_decide_eq_true hother⟩
  refine ⟨?_, ?_, ?_⟩
  · intro c hc hlive
    obtain ⟨hin, hother⟩ := hmem c hc
    exact hkeep c hin hother (h.backed c hin hlive)
  · intro c hc
    exact h.token_lt c (hmem c hc).1
  · exact h.apart.sublist List.filter_sublist

end

end CephAi.Verified.Leases
