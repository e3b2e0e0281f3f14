import CephAi.Ports.ActionRuns

/-!
# The execution claim of an approved Action

`_execute_approved_action` reads the Action as approved in one transaction and
claims its Incident in the next: the claim succeeds unless the Incident is
`EXECUTING`.  Recording the result moves the Incident on and so frees the
claim, while a Worker that read the Action earlier is still on its way to it.

## Main results

* `started_once` — where every claim and every start finds the Action approved
  as it was read, an approval leads to one start, and no Worker that read the
  Action before a start starts it again.
* `started_again` — a second Worker claims and starts after the first one has
  recorded its result.
-/

namespace CephAi.Ports.ExecutionClaim

open Verified Models ApprovedExecution
open ActionRuns

/-! ## Property and condition -/

/-- Two starts of one Action are under different approvals, and the Worker of
the later one read the Action after the earlier one. -/
def Succeeds (s s' : Start) : Prop :=
  s.action = s'.action → ∀ n n', s.approval = some n → s'.approval = some n' →
    n ≠ n' ∧ s.startedAt < s'.readAt

/-- Every approval led to at most one start. -/
def StartedOnce (w : World) : Prop := w.starts.Pairwise Succeeds

/-- The Action is approved as the Worker read it. -/
def StillApproved (w : World) (pk approval : Nat) : Prop :=
  w.db.statusOf pk = some .approved ∧ w.approvals pk = approval

/-- The Incident has no other Action. -/
def SoleAction (db : Db) (pk incidentId : Nat) : Prop :=
  ∀ l ∈ db.links, l.2 = incidentId → l.1 = pk

/-- A claim that succeeds finds the Action approved as it was read. -/
def ClaimCurrent (w : World) : Phase → Prop
  | .claiming pk incidentId approval _ =>
    ∀ s ∈ w.db.incidentStatus incidentId, s ≠ .executing →
      StillApproved w pk approval ∧ SoleAction w.db pk incidentId
  | _ => True

/-- A start finds the Action approved as it was read. -/
def StartCurrent (w : World) : Phase → Prop
  | .claimed pk _ approval _ => StillApproved w pk approval
  | _ => True

/-- The condition on a step. -/
def Current (w : World) : Label → Prop
  | .claim t => ClaimCurrent w (w.phase t)
  | .start t => StartCurrent w (w.phase t)
  | _ => True

instance (w : World) (pk approval : Nat) :
    Decidable (StillApproved w pk approval) :=
  inferInstanceAs (Decidable (_ ∧ _))

instance (db : Db) (pk incidentId : Nat) :
    Decidable (SoleAction db pk incidentId) :=
  inferInstanceAs (Decidable (∀ l ∈ db.links, l.2 = incidentId → l.1 = pk))

instance (w : World) (p : Phase) : Decidable (ClaimCurrent w p) :=
  match p with
  | .claiming pk incidentId approval _ =>
    inferInstanceAs (Decidable (∀ s ∈ w.db.incidentStatus incidentId,
      s ≠ .executing →
        StillApproved w pk approval ∧ SoleAction w.db pk incidentId))
  | .idle | .claimed .. | .running _ | .graceLoaded .. | .safe ..
  | .safeReady .. | .safeRunning .. => inferInstanceAs (Decidable True)

instance (w : World) (p : Phase) : Decidable (StartCurrent w p) :=
  match p with
  | .claimed pk _ approval _ =>
    inferInstanceAs (Decidable (StillApproved w pk approval))
  | .idle | .claiming .. | .running _ | .graceLoaded .. | .safe ..
  | .safeReady .. | .safeRunning .. => inferInstanceAs (Decidable True)

instance (w : World) (l : Label) : Decidable (Current w l) :=
  match l with
  | .claim t => inferInstanceAs (Decidable (ClaimCurrent w (w.phase t)))
  | .start t => inferInstanceAs (Decidable (StartCurrent w (w.phase t)))
  | .override .. | .recheck .. | .finish .. | .vanish .. | .reconcile
  | .graceDue .. | .resume .. | .gate .. | .startSafe .. | .finishSafe ..
  | .read .. | .refuse .. | .write .. => inferInstanceAs (Decidable True)

/-! ## The invariant -/

/-- A Worker on the way to its claim, or between claim and start. -/
def Reads (p : Phase) (pk incidentId approval readAt : Nat) : Prop :=
  p = .claiming pk incidentId approval readAt ∨
    p = .claimed pk incidentId approval readAt

/-- A Worker on the autonomous path. -/
def Resumes (p : Phase) (pk incidentId : Nat) : Prop :=
  p = .graceLoaded pk incidentId ∨ p = .safe pk incidentId ∨
    p = .safeReady pk incidentId ∨ p = .safeRunning pk incidentId

/-- A claim holds as long as its Action is approved as claimed: the Incident is
`EXECUTING`. -/
def Held (db : Db) (approvals : Nat → Nat) (pk approval : Nat) : Prop :=
  approval ≤ approvals pk ∧
    ∃ i, db.incidentOf pk = some i ∧ SoleAction db pk i ∧
      (db.statusOf pk = some .approved → approvals pk = approval →
        db.incidentStatus i = some .executing)

/-- What every step keeps. -/
structure Locked (w : World) : Prop where
  reads : ∀ t pk i n r, Reads (w.phase t) pk i n r →
    n ≤ w.approvals pk ∧ w.db.incidentOf pk = some i ∧
    ∀ s ∈ w.starts, s.action = pk → ∀ m, s.approval = some m → m < n →
      s.startedAt < r
  resumes : ∀ t pk i, Resumes (w.phase t) pk i → w.db.incidentOf pk = some i
  held : ∀ c ∈ w.claims, Held w.db w.approvals c.1 c.2
  claimed : ∀ t pk i n r, w.phase t = .claimed pk i n r →
    (pk, n) ∈ w.claims ∧ ∀ s ∈ w.starts, s.action = pk → s.approval ≠ some n
  claimedOnce : ∀ t t' pk i n r i' r', w.phase t = .claimed pk i n r →
    w.phase t' = .claimed pk i' n r' → t = t'
  started : ∀ s ∈ w.starts, ∀ n, s.approval = some n → (s.action, n) ∈ w.claims
  past : ∀ s ∈ w.starts, s.startedAt < w.clock
  once : StartedOnce w

theorem locked_initial (db : Db) : Locked (World.initial db) where
  reads := by
    intro t pk i n r h
    rcases h with h | h <;> exact absurd h (by simp [World.initial])
  resumes := by
    intro t pk i h
    rcases h with h | h | h | h <;> exact absurd h (by simp [World.initial])
  held := by
    intro c hc
    exact absurd hc (by simp [World.initial])
  claimed := by
    intro t pk i n r h
    exact absurd h (by simp [World.initial])
  claimedOnce := by
    intro t t' pk i n r i' r' h
    exact absurd h (by simp [World.initial])
  started := by
    intro s hs
    exact absurd hs (by simp [World.initial])
  past := by
    intro s hs
    exact absurd hs (by simp [World.initial])
  once := List.Pairwise.nil

/-! ## What the parts of a step keep -/

variable {db : Db} {i pk : Nat} {w : World}

section

variable (h : Locked w)
include h

theorem Locked.tick : Locked w.tick where
  reads := h.reads
  resumes := h.resumes
  held := h.held
  claimed := h.claimed
  claimedOnce := h.claimedOnce
  started := h.started
  past := fun s hs => Nat.lt_succ_of_lt (h.past s hs)
  once := h.once

theorem Locked.tell (pk : Nat) (outcome : ApprovalOutcome) :
    Locked (w.tell pk outcome) :=
  ⟨h.reads, h.resumes, h.held, h.claimed, h.claimedOnce, h.started, h.past,
    h.once⟩

theorem Locked.call (d : Nat) (c : Option (DecisionKind × Nat)) :
    Locked (w.call d c) :=
  ⟨h.reads, h.resumes, h.held, h.claimed, h.claimedOnce, h.started, h.past,
    h.once⟩

theorem Locked.enter (t : Nat) (p : Phase)
    (hreads : ∀ pk i n r, Reads p pk i n r →
      n ≤ w.approvals pk ∧ w.db.incidentOf pk = some i ∧
      ∀ s ∈ w.starts, s.action = pk → ∀ m, s.approval = some m → m < n →
        s.startedAt < r)
    (hresumes : ∀ pk i, Resumes p pk i → w.db.incidentOf pk = some i)
    (hclaimed : ∀ pk i n r, p = .claimed pk i n r →
      ((pk, n) ∈ w.claims ∧
        ∀ s ∈ w.starts, s.action = pk → s.approval ≠ some n) ∧
      ∀ t' i' r', t' ≠ t → w.phase t' ≠ .claimed pk i' n r') :
    Locked (w.enter t p) where
  reads := by
    intro t' pk i n r hp
    by_cases ht : t' = t
    · subst ht
      rw [enter_self] at hp
      exact hreads pk i n r hp
    · rw [enter_of_ne w p ht] at hp
      exact h.reads t' pk i n r hp
  resumes := by
    intro t' pk i hp
    by_cases ht : t' = t
    · subst ht
      rw [enter_self] at hp
      exact hresumes pk i hp
    · rw [enter_of_ne w p ht] at hp
      exact h.resumes t' pk i hp
  held := h.held
  claimed := by
    intro t' pk i n r hp
    by_cases ht : t' = t
    · subst ht
      rw [enter_self] at hp
      exact (hclaimed pk i n r hp).1
    · rw [enter_of_ne w p ht] at hp
      exact h.claimed t' pk i n r hp
  claimedOnce := by
    intro t₁ t₂ pk i n r i' r' h₁ h₂
    by_cases ht₁ : t₁ = t
    · by_cases ht₂ : t₂ = t
      · rw [ht₁, ht₂]
      · subst ht₁
        rw [enter_self] at h₁
        rw [enter_of_ne w p ht₂] at h₂
        exact absurd h₂ ((hclaimed pk i n r h₁).2 t₂ i' r' ht₂)
    · rw [enter_of_ne w p ht₁] at h₁
      by_cases ht₂ : t₂ = t
      · subst ht₂
        rw [enter_self] at h₂
        exact absurd h₁ ((hclaimed pk i' n r' h₂).2 t₁ i r ht₁)
      · rw [enter_of_ne w p ht₂] at h₂
        exact h.claimedOnce t₁ t₂ pk i n r i' r' h₁ h₂
  started := h.started
  past := h.past
  once := h.once

theorem Locked.enter_plain (t : Nat) (p : Phase) (hreads : ∀ pk i n r, ¬ Reads p pk i n r)
    (hresumes : ∀ pk i, Resumes p pk i → w.db.incidentOf pk = some i) :
    Locked (w.enter t p) :=
  h.enter t p (fun pk i n r hp => absurd hp (hreads pk i n r)) hresumes
    (fun pk i n r hp => absurd (Or.inr hp) (hreads pk i n r))

theorem Locked.enter_idle (t : Nat) : Locked (w.enter t .idle) :=
  h.enter_plain t .idle (by simp [Reads]) (by simp [Resumes])

theorem Locked.enter_resuming (t : Nat) {p : Phase} (hresumes : Resumes p pk i)
    (hlink : w.db.incidentOf pk = some i) : Locked (w.enter t p) := by
  refine h.enter_plain t p ?_ ?_
  · intro pk' i' n r hp
    rcases hresumes with rfl | rfl | rfl | rfl <;> simp [Reads] at hp
  · intro pk' i' hp
    have hsame : pk = pk' ∧ i = i' := by
      rcases hresumes with rfl | rfl | rfl | rfl <;> simpa [Resumes] using hp
    rw [← hsame.1, ← hsame.2]
    exact hlink

theorem Locked.store (hlinks : db.links = w.db.links)
    (hincident : ∀ pk, db.incidentOf pk = w.db.incidentOf pk)
    (hheld : ∀ c ∈ w.claims, ∀ i, w.db.incidentOf c.1 = some i →
      SoleAction w.db c.1 i → db.statusOf c.1 = some .approved →
      w.approvals c.1 = c.2 →
      (w.db.statusOf c.1 = some .approved →
        w.db.incidentStatus i = some .executing) →
      db.incidentStatus i = some .executing) :
    Locked (w.store db) where
  reads := by
    intro t pk i n r hp
    obtain ⟨hn, hi, hs⟩ := h.reads t pk i n r hp
    exact ⟨hn, by rw [← hi]; exact hincident pk, hs⟩
  resumes := by
    intro t pk i hp
    rw [← h.resumes t pk i hp]
    exact hincident pk
  held := by
    intro c hc
    obtain ⟨hbound, i, hi, hsole, hlock⟩ := h.held c hc
    refine ⟨hbound, i, ?_, ?_, ?_⟩
    · rw [← hi]
      exact hincident c.1
    · intro l hl
      exact hsole l (hlinks ▸ hl)
    · intro happroved hn
      exact hheld c hc i hi hsole happroved hn
        (fun hbefore => hlock hbefore hn)
  claimed := h.claimed
  claimedOnce := h.claimedOnce
  started := h.started
  past := h.past
  once := h.once

theorem Locked.store_quiet (hlinks : db.links = w.db.links)
    (hincident : ∀ pk, db.incidentOf pk = w.db.incidentOf pk)
    (hstatus : ∀ pk, db.statusOf pk = w.db.statusOf pk)
    (hi : ∀ i, db.incidentStatus i = w.db.incidentStatus i) : Locked (w.store db) := by
  refine h.store hlinks hincident ?_
  intro c _ i _ _ happroved _ hlock
  rw [hi]
  exact hlock (by rw [← hstatus]; exact happroved)

theorem Locked.rewrite {incidentId : Nat} {s : ActionStatus}
    (hrw : Rewrites pk incidentId s w.db db) (hs : s ≠ .approved)
    (hlink : w.db.incidentOf pk = some incidentId) : Locked (w.store db) := by
  refine h.store hrw.links hrw.incidentOf ?_
  intro c _ i hi hsole happroved _ hlock
  by_cases hpk : c.1 = pk
  · rw [hpk, hrw.own, Option.map_eq_some_iff] at happroved
    obtain ⟨_, _, happroved⟩ := happroved
    exact absurd happroved hs
  · have hne : i ≠ incidentId := by
      intro heq
      have hmine := hsole (pk, incidentId) (mem_links_of_incidentOf hlink)
        heq.symm
      exact hpk hmine.symm
    rw [hrw.incident i hne]
    exact hlock (by rw [← hrw.status c.1 hpk]; exact happroved)

theorem Locked.approve {incidentId : Nat} (htouch : Touches pk incidentId w.db db)
    (hlink : w.db.incidentOf pk = some incidentId) :
    Locked ((w.store db).noteApproval pk) where
  reads := by
    intro t pk' i n r hp
    obtain ⟨hn, hi, hs⟩ := h.reads t pk' i n r hp
    refine ⟨?_, by rw [← hi]; exact htouch.incidentOf pk', hs⟩
    show n ≤ if pk' = pk then w.approvals pk' + 1 else w.approvals pk'
    by_cases hpk : pk' = pk
    · rw [if_pos hpk]
      omega
    · rw [if_neg hpk]
      exact hn
  resumes := by
    intro t pk' i hp
    rw [← h.resumes t pk' i hp]
    exact htouch.incidentOf pk'
  held := by
    intro c hc
    obtain ⟨hbound, i, hi, hsole, hlock⟩ := h.held c hc
    by_cases hpk : c.1 = pk
    · have hmore : ((w.store db).noteApproval pk).approvals c.1 =
          w.approvals c.1 + 1 := if_pos hpk
      refine ⟨?_, i, ?_, ?_, ?_⟩
      · rw [hmore]
        omega
      · rw [← hi]
        exact htouch.incidentOf c.1
      · intro l hl
        exact hsole l (htouch.links ▸ hl)
      · intro _ hn
        rw [hmore] at hn
        omega
    · have hsame : ((w.store db).noteApproval pk).approvals c.1 =
          w.approvals c.1 := if_neg hpk
      have hne : i ≠ incidentId := by
        intro heq
        have hmine := hsole (pk, incidentId) (mem_links_of_incidentOf hlink)
          heq.symm
        exact hpk hmine.symm
      refine ⟨?_, i, ?_, ?_, ?_⟩
      · rw [hsame]
        exact hbound
      · rw [← hi]
        exact htouch.incidentOf c.1
      · intro l hl
        exact hsole l (htouch.links ▸ hl)
      · intro happroved hn
        rw [hsame] at hn
        have hbefore : w.db.statusOf c.1 = some .approved := by
          rw [← htouch.status c.1 hpk]
          exact happroved
        have hkept := htouch.incident i hne
        exact hkept.trans (hlock hbefore hn)
  claimed := h.claimed
  claimedOnce := h.claimedOnce
  started := h.started
  past := h.past
  once := h.once

/-- The start of a Worker ends the claims it finds. -/
theorem Locked.reconcile : Locked (w.store (reconcileInterrupted w.db)) := by
  refine h.store (reconcileInterrupted_links w.db)
    (reconcileInterrupted_incidentOf w.db) ?_
  intro c _ i hi _ happroved _ hlock
  rw [statusOf_reconcileInterrupted] at happroved
  cases ha : w.db.action? c.1 with
  | none => simp [ha, Db.statusOf] at happroved
  | some a =>
    have hai : a.incidentId = i := by
      simpa [Db.incidentOf, ha] using hi
    cases hint : interrupted w.db a with
    | true => simp [ha, hint] at happroved
    | false =>
      have hbefore : w.db.statusOf c.1 = some .approved := by
        simpa [ha, hint] using happroved
      have hexec := hlock hbefore
      have hstatus : a.status = .approved := by
        simpa [Db.statusOf, ha] using hbefore
      simp [interrupted, hstatus, hai, hexec] at hint

end

variable {n : Nat}

section

variable (h : Locked w)
include h

theorem Locked.not_claimed (hlink : w.db.incidentOf pk = some i) (hstill : StillApproved w pk n)
    (hfree : w.db.incidentStatus i ≠ some .executing) : (pk, n) ∉ w.claims := by
  intro hmem
  obtain ⟨_, i', hi', _, hlock⟩ := h.held (pk, n) hmem
  have hsame : i' = i := Option.some.inj (hi'.symm.trans hlink)
  rw [hsame] at hlock
  exact hfree (hlock hstill.1 hstill.2)

theorem Locked.claimWon {t r : Nat} (hphase : w.phase t = .claiming pk i n r)
    (hclaim : claim w.db i = some db) (hstill : StillApproved w pk n)
    (hsole : SoleAction w.db pk i) :
    Locked (((w.store db).noteClaim pk n).enter t (.claimed pk i n r)) := by
  obtain ⟨rfl, ⟨s, hs, hfree⟩, hexec⟩ := claim_eq_some hclaim
  obtain ⟨hn, hlink, hfresh⟩ := h.reads t pk i n r (Or.inl hphase)
  have hnew := h.not_claimed hlink hstill (by
    rw [hs]
    simpa using hfree)
  have hstored : Locked (w.store (w.db.writeIncident i
      { status := some .executing })) := by
    refine h.store rfl (fun _ => rfl) ?_
    intro c _ i' _ _ happroved _ hlock
    have hbefore := hlock happroved
    by_cases hi : i' = i
    · simp [hi, hs]
    · simpa [hi] using hbefore
  have hnoted : Locked ((w.store (w.db.writeIncident i
      { status := some .executing })).noteClaim pk n) :=
    { reads := hstored.reads
      resumes := hstored.resumes
      held := by
        intro c hc
        rcases List.mem_cons.mp hc with rfl | hc
        · exact ⟨hn, i, hlink, hsole, fun _ _ => hexec⟩
        · exact hstored.held c hc
      claimed := by
        intro t' pk' i' n' r' hp
        obtain ⟨hmem, hstarts⟩ := hstored.claimed t' pk' i' n' r' hp
        exact ⟨List.mem_cons_of_mem _ hmem, hstarts⟩
      claimedOnce := hstored.claimedOnce
      started := by
        intro s' hs' n' hn'
        exact List.mem_cons_of_mem _ (hstored.started s' hs' n' hn')
      past := hstored.past
      once := hstored.once }
  refine hnoted.enter t _ ?_ (by simp [Resumes]) ?_
  · intro pk' i' n' r' hp
    rcases hp with hp | hp
    · exact absurd hp (by simp)
    · simp only [Phase.claimed.injEq] at hp
      obtain ⟨rfl, rfl, rfl, rfl⟩ := hp
      exact ⟨hn, hlink, hfresh⟩
  · intro pk' i' n' r' hp
    simp only [Phase.claimed.injEq] at hp
    obtain ⟨rfl, rfl, rfl, rfl⟩ := hp
    refine ⟨⟨List.mem_cons_self, ?_⟩, ?_⟩
    · intro s' hs' haction happroval
      have hstarted := h.started s' hs' n happroval
      rw [haction] at hstarted
      exact hnew hstarted
    · intro t' i' r' _ hp'
      exact hnew (h.claimed t' pk i' n r' hp').1

theorem Locked.log_tick {approval : Option Nat} {readAt : Nat}
    (hnew : ∀ n, approval = some n →
      n = w.approvals pk ∧ (pk, n) ∈ w.claims ∧
      (∀ s ∈ w.starts, s.action = pk → ∀ m, s.approval = some m →
        m ≠ n ∧ s.startedAt < readAt) ∧
      ∀ t i r, w.phase t ≠ .claimed pk i n r) :
    Locked (w.log pk approval readAt).tick where
  reads := by
    intro t pk' i n r hp
    obtain ⟨hn, hi, hs⟩ := h.reads t pk' i n r hp
    refine ⟨hn, hi, ?_⟩
    intro s hmem haction m hm hlt
    rcases List.mem_append.mp hmem with hmem | hmem
    · exact hs s hmem haction m hm hlt
    · rw [List.mem_singleton.mp hmem] at haction hm
      have hmax := (hnew m hm).1
      have hpk : pk = pk' := haction
      rw [← hpk] at hn
      omega
  resumes := h.resumes
  held := h.held
  claimed := by
    intro t pk' i n r hp
    obtain ⟨hclaim, hs⟩ := h.claimed t pk' i n r hp
    refine ⟨hclaim, ?_⟩
    intro s hmem haction hm
    rcases List.mem_append.mp hmem with hmem | hmem
    · exact hs s hmem haction hm
    · rw [List.mem_singleton.mp hmem] at haction hm
      have hpk : pk = pk' := haction
      rw [← hpk] at hp
      exact (hnew n hm).2.2.2 t i r hp
  claimedOnce := h.claimedOnce
  started := by
    intro s hmem n hn
    rcases List.mem_append.mp hmem with hmem | hmem
    · exact h.started s hmem n hn
    · rw [List.mem_singleton.mp hmem] at hn ⊢
      exact (hnew n hn).2.1
  past := by
    intro s hmem
    rcases List.mem_append.mp hmem with hmem | hmem
    · exact Nat.lt_succ_of_lt (h.past s hmem)
    · rw [List.mem_singleton.mp hmem]
      exact Nat.lt_succ_self w.clock
  once := by
    show List.Pairwise Succeeds
      (w.starts ++ [⟨pk, approval, readAt, w.clock⟩])
    refine List.pairwise_append.mpr ⟨h.once, List.pairwise_singleton _ _, ?_⟩
    intro s hmem s' hmem' haction n n' hn hn'
    rw [List.mem_singleton.mp hmem'] at haction hn' ⊢
    exact (hnew n' hn').2.2.1 s hmem haction n hn

/-- A Worker has read an approved Action. -/
theorem Locked.recheckPass {S : Settings} (t : Nat) {fingerprint : String}
    (hpass : (recheck S.policy w.db pk fingerprint).2 = some i) :
    Locked ((w.store (recheck S.policy w.db pk fingerprint).1).enter t
      (.claiming pk i (w.approvals pk) w.clock)) := by
  obtain ⟨_, hlink, _, assessment, hdb⟩ := recheck_some hpass
  rw [hdb]
  have hstored : Locked (w.store
      (w.db.writeAction pk { assessment := some assessment })) :=
    h.store_quiet (by simp) (by simp) (by simp) (by simp)
  refine hstored.enter t _ ?_ (by simp [Resumes]) (by simp)
  intro pk' i' n r hp
  rcases hp with hp | hp
  · simp only [Phase.claiming.injEq] at hp
    obtain ⟨rfl, rfl, rfl, rfl⟩ := hp
    refine ⟨Nat.le_refl _, ?_, fun s hs _ _ _ _ => h.past s hs⟩
    rw [← hlink]
    exact incidentOf_writeAction _ _ _ _
  · exact absurd hp (by simp)

theorem Locked.start {t r : Nat} (hphase : w.phase t = .claimed pk i n r)
    (hlast : w.approvals pk = n) : Locked ((w.enter t (.running pk)).log pk (some n) r).tick := by
  obtain ⟨hclaim, hstarts⟩ := h.claimed t pk i n r hphase
  obtain ⟨_, _, hfresh⟩ := h.reads t pk i n r (Or.inr hphase)
  have hrunning : Locked (w.enter t (.running pk)) :=
    h.enter_plain t _ (by simp [Reads]) (by simp [Resumes])
  refine hrunning.log_tick ?_
  intro n' hn'
  simp only [Option.some.injEq] at hn'
  subst hn'
  refine ⟨hlast.symm, hclaim, ?_, ?_⟩
  · intro s hs haction m hm
    have hne : m ≠ n := fun heq => hstarts s hs haction (heq ▸ hm)
    have hbound := (h.held (s.action, m) (h.started s hs m hm)).1
    have hle : m ≤ n := by
      rw [← hlast, ← haction]
      exact hbound
    exact ⟨hne, hfresh s hs haction m hm (by omega)⟩
  · intro t' i' r' hp
    by_cases ht : t' = t
    · rw [ht, enter_self] at hp
      exact absurd hp (by simp)
    · rw [enter_of_ne w _ ht] at hp
      exact ht (h.claimedOnce t' t pk i' n r' i r hp hphase)

end

theorem status_ne_approved {outcome : ApprovalOutcome} (h : outcome ≠ .approved) :
    outcome.status ≠ .approved := by
  cases outcome with
  | approved => exact absurd rfl h
  | acknowledged | alreadyHandled | rejected | expired => simp [ApprovalOutcome.status]

/-! ## Steps and runs -/

theorem locked_step {S : Settings} {w' : World} {l : Label} (h : Locked w) (hcurrent : Current w l)
    (hstep : step S w l = some w') : Locked w' := by
  cases stepped_of_step hstep with
  | override actionId c overrides =>
    have hstored : Locked (w.store { w.db with overrides := overrides }) :=
      h.store_quiet rfl (fun _ => rfl) (fun _ => rfl) (fun _ => rfl)
    exact hstored.tick
  | recheckStop t pk fingerprint hphase hstop =>
    rcases recheck_none hstop with hsame | ⟨i, s, _, hlink, hrw, hs⟩
    · rw [hsame]
      exact h.tick
    · refine (h.rewrite hrw ?_ hlink).tick
      rcases hs with ⟨rfl, _⟩ | ⟨rfl, _⟩ <;> decide
  | recheckPass t pk fingerprint i hphase hpass =>
    exact (h.recheckPass t hpass).tick
  | claimLost t pk i n r hphase => exact (h.enter_idle t).tick
  | claimWon t pk i n r db hphase hclaim =>
    obtain ⟨_, ⟨s, hs, hfree⟩, _⟩ := claim_eq_some hclaim
    simp only [Current, hphase, ClaimCurrent] at hcurrent
    obtain ⟨hstill, hsole⟩ := hcurrent s hs hfree
    exact (h.claimWon hphase hclaim hstill hsole).tick
  | start t pk i n r hphase =>
    simp only [Current, hphase, StartCurrent] at hcurrent
    exact h.start hphase hcurrent.2
  | finish t pk succeeded now hphase =>
    have hidle := h.enter_idle t
    cases hlink : w.db.incidentOf pk with
    | none =>
      rw [recordApproved_of_none S.verify succeeded now hlink]
      exact hidle.tick
    | some i =>
      refine (hidle.rewrite (recordApproved_rewrites S.verify w.db pk i
        succeeded now ?_) ?_ hlink).tick
      · intro i' hi'
        exact Option.some.inj (hi'.symm.trans hlink)
      · cases succeeded <;> decide
  | vanish t => exact (h.enter_idle t).tick
  | reconcile => exact h.reconcile.tick
  | graceNotDue t pk => exact h.tick
  | graceDue t pk i hphase hdue =>
    exact (h.enter_resuming t (Or.inl rfl) (graceDue_eq_some hdue).2).tick
  | resume t pk i hphase hok =>
    have hlink := h.resumes t pk i (Or.inl hphase)
    have hrw := resumeGrace_rewrites w.db pk i
    rw [hok, if_pos rfl] at hrw
    have hstored := h.rewrite hrw (by decide) hlink
    exact (hstored.enter_resuming t (Or.inr (Or.inl rfl))
      ((hrw.incidentOf pk).trans hlink)).tick
  | resumeFails t pk i hphase =>
    have hlink := h.resumes t pk i (Or.inl hphase)
    refine ((h.enter_idle t).rewrite (resumeGrace_rewrites w.db pk i) ?_
      hlink).tick
    cases (resumeGrace w.db pk i).2 <;> decide
  | gate t pk i outcome r hphase hgate =>
    have hlink := h.resumes t pk i (Or.inr (Or.inl hphase))
    obtain ⟨s, hrw, hs, hp⟩ := passGate_spec hgate
    have hstored := h.rewrite hrw hs hlink
    rcases hp with hp | ⟨hp, _⟩
    · rw [hp]
      exact (hstored.enter_idle t).tick
    · rw [hp]
      exact (hstored.enter_resuming t (Or.inr (Or.inr (Or.inl rfl)))
        ((hrw.incidentOf pk).trans hlink)).tick
  | startSafe t pk i hphase =>
    have hlink := h.resumes t pk i (Or.inr (Or.inr (Or.inl hphase)))
    have hrunning : Locked (w.enter t (.safeRunning pk i)) :=
      h.enter_resuming t (Or.inr (Or.inr (Or.inr rfl))) hlink
    exact hrunning.log_tick (by simp)
  | finishSafe t pk i succeeded now hphase =>
    have hlink := h.resumes t pk i (Or.inr (Or.inr hphase))
    refine ((h.enter_idle t).rewrite (recordExecutionResult_rewrites S.verify
      w.db pk i succeeded now) ?_ hlink).tick
    cases succeeded <;> decide
  | readHandled d kind pk => exact (h.tell pk .alreadyHandled).tick
  | readPending d kind pk => exact (h.call d _).tick
  | refuseExpired d pk => exact ((h.call d none).tell pk .expired).tick
  | refuse d => exact (h.call d none).tick
  | write d kind pk a fingerprint hcall haction houtcome =>
    obtain ⟨hlink, hrw⟩ := decideAction_spec S.hasCommand haction kind
      fingerprint
    exact (((h.call d none).rewrite hrw (status_ne_approved houtcome) hlink).tell pk _).tick
  | approve d kind pk a fingerprint hcall haction houtcome =>
    obtain ⟨hlink, hrw⟩ := decideAction_spec S.hasCommand haction kind
      fingerprint
    exact (((h.call d none).approve hrw.toTouches hlink).tell pk
      .approved).tick

/-- **One start for each approval.**  In every run, from any database, in which
every claim that succeeds and every start find the Action approved as the
Worker read it, every approval leads to at most one start, and a Worker that
read the Action before a start does not start it again. -/
theorem started_once (S : Settings) (db : Db) (labels : List Label) (w : World)
    (hcurrent : (actionSystem S).Meets Current (World.initial db) labels)
    (hrun : (actionSystem S).run (World.initial db) labels = some w) : StartedOnce w := by
  have hlocked : Locked w :=
    (actionSystem S).run_invariant_of_meets Current Locked
      (fun _ _ _ h hc hs => locked_step h hc hs) labels (World.initial db) w
      (locked_initial db) hcurrent hrun
  exact hlocked.once

/-- An Action is approved, claimed, run and recorded by one of two Workers that
read it; the other one comes too late. -/
def promptRun : List Label :=
  [.read 0 .approve 1, .write 0 "evidence", .recheck 1 1 "evidence",
    .recheck 2 1 "evidence", .claim 1, .claim 2, .start 1, .finish 1 true 50]

theorem started_once_promptRun :
    ∃ w, (actionSystem sampleSettings).run
        (World.initial (sampleDb .pendingApproval .pendingApproval)) promptRun =
          some w ∧
      w.starts.length = 1 ∧ StartedOnce w := by
  have hmeets : (actionSystem sampleSettings).Meets Current
      (World.initial (sampleDb .pendingApproval .pendingApproval))
      promptRun := by
    decide +kernel
  have hstarts : ((actionSystem sampleSettings).run
      (World.initial (sampleDb .pendingApproval .pendingApproval))
      promptRun).map (fun w => w.starts.length) = some 1 := by
    decide +kernel
  obtain ⟨w, hrun, hlength⟩ := Option.map_eq_some_iff.mp hstarts
  exact ⟨w, hrun, hlength, started_once sampleSettings _ promptRun w hmeets
    hrun⟩

/-- Two Workers read the approved Action; the second one claims and starts it
after the first has recorded its result. -/
def lateRun : List Label :=
  [.recheck 1 1 "evidence", .recheck 2 1 "evidence", .claim 1, .start 1,
    .finish 1 true 50, .claim 2, .start 2]

/-- The second Worker of `lateRun` runs the command again. -/
theorem started_again :
    ¬ ∀ (S : Settings) (db : Db) (labels : List Label) (w : World),
      (actionSystem S).run (World.initial db) labels = some w →
        StartedOnce w := by
  intro h
  have hstarts : ((actionSystem sampleSettings).run
      (World.initial (sampleDb .approved .approved)) lateRun).map World.starts =
        some [⟨1, some 0, 0, 3⟩, ⟨1, some 0, 1, 6⟩] := by
    decide +kernel
  obtain ⟨w, hrun, hlog⟩ := Option.map_eq_some_iff.mp hstarts
  have honce := h sampleSettings _ lateRun w hrun
  unfold StartedOnce at honce
  rw [hlog] at honce
  have hpair := (List.pairwise_cons.mp honce).1 _ (List.mem_singleton_self _)
  exact (hpair rfl 0 0 rfl rfl).1 rfl

end CephAi.Ports.ExecutionClaim
