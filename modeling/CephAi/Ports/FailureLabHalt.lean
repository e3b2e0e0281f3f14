import CephAi.Ports.FailureLab

/-!
# No fault into a cluster that is not back

A run that has started `injected.apply()` is settled once it has confirmed its undo and the
recovery, or an operator has removed the HALT file written for it.  The HALT of an
interrupted run is written in the `finally`, under the lock; that of a run after which the
cluster is not back, after the lock is released.

## Main results

* `safe_step` — what a step keeps when it cuts no unsettled run short and asks the gates only
  when no HALT is still to be written.
* `settled_of_uncut` — in the runs of such steps, faults are applied to a cluster on which
  every earlier run is settled.
* `recovery_interrupted` — an exception while `_recover` polls, and the next run injects.
-/

namespace CephAi.Ports.FailureLab

open Verified Verified.Runs

/-! ## What a call holds -/

/-- Past the gates, before the fault. -/
def Phase.ready : Phase → Bool
  | .checking _ _ _ | .preparing _ _ _ _ | .saving _ | .saved _ => true
  | _ => false

/-- The run whose fault was applied, and that has neither confirmed the recovery nor written
its HALT. -/
def Phase.unsettled : Phase → Option Nat
  | .applying j | .observing j | .undoing j _ _ | .undone j _ _ | .interrupted j _
  | .recovering j _ _ => some j.run.runId
  | .scored j ok recovered | .released j ok recovered =>
    if recovered && ok then none else some j.run.runId
  | _ => none

/-- The lock is released, the HALT still to be written. -/
def Phase.haltPending (ph : Phase) : Bool := !ph.inside && ph.unsettled.isSome

/-- An exception here is met by the `finally` of `_inject_and_observe`. -/
def Phase.guarded : Phase → Bool
  | .applying _ | .observing _ => true
  | _ => false

/-- The run is confirmed, or its HALT file was removed by an operator. -/
def World.Settles (w : World) (r : Nat) : Prop :=
  r ∈ w.hist.confirmed ∨ r ∈ w.hist.cleared

instance (w : World) (r : Nat) : Decidable (w.Settles r) :=
  inferInstanceAs (Decidable (_ ∨ _))

/-- A fault is applied only when every earlier run is settled. -/
def Settled (w : World) (l : Label) (_ : World) : Prop :=
  ∀ p, l = .apply p → ∀ r ∈ w.hist.applied, w.Settles r

/-- No unsettled run is cut short, unless by an exception that the `finally` meets, and the
gates are asked only when no released run has its HALT to write. -/
def Uncut (w : World) : Label → Prop
  | .raise p _ => ∀ ph ∈ w.calls[p]?, ph.guarded = true ∨ ph.unsettled = none
  | .kill p => ∀ ph ∈ w.calls[p]?, ph.unsettled = none
  | .gate _ _ _ => ∀ ph ∈ w.calls, ph.haltPending = false
  | _ => True

instance (w : World) (l : Label) : Decidable (Uncut w l) := by
  unfold Uncut
  split <;> infer_instance

/-! ## The invariant -/

/-- What holds between the steps of a run that is never cut short. -/
structure Safe (w : World) : Prop where
  settled : ∀ r ∈ w.hist.applied, w.Settles r ∨ r ∈ w.hist.haltedFor ∨
    ∃ ph ∈ w.calls, ph.unsettled = some r
  halt : w.hist.haltedFor ≠ [] → w.halt ≠ none
  ready : ∀ ph ∈ w.calls, ph.ready = true → ∀ r ∈ w.hist.applied, w.Settles r

variable {p : Nat} {ph : Phase} {w w' : World}

theorem inside_of_ready (h : ph.ready = true) : ph.inside = true := by
  cases ph <;> first | rfl | cases h

theorem inside_of_unsettled {r : Nat} (h : ph.unsettled = some r)
    (hpending : ph.haltPending = false) : ph.inside = true := by
  unfold Phase.haltPending at hpending
  rw [h] at hpending
  simpa using hpending

theorem Safe.move (w' : World) (h : Safe w) (ph' : Phase) (hp : w.calls[p]? = some ph)
    (hcalls : w'.calls = w.calls.set p ph') (happlied : w'.hist.applied = w.hist.applied)
    (hsettles : ∀ r, w.Settles r → w'.Settles r) (hhalted : w.hist.haltedFor ⊆ w'.hist.haltedFor)
    (hhalt : w'.hist.haltedFor ≠ [] → w'.halt ≠ none) (hready : ph'.ready = true → ph.ready = true)
    (hunsettled : ∀ r, ph.unsettled = some r →
      ph'.unsettled = some r ∨ w'.Settles r ∨ r ∈ w'.hist.haltedFor) : Safe w' := by
  have hlt : p < w.calls.length := (List.getElem?_eq_some_iff.mp hp).1
  constructor
  · intro r hr
    rw [happlied] at hr
    rcases h.settled r hr with hs | hs | ⟨phq, hq, hr⟩
    · exact Or.inl (hsettles r hs)
    · exact Or.inr (Or.inl (hhalted hs))
    · obtain ⟨q, hq⟩ := List.mem_iff_getElem?.mp hq
      by_cases hpq : p = q
      · subst hpq
        rw [hp, Option.some.injEq] at hq
        subst hq
        rcases hunsettled r hr with hu | hu | hu
        · refine Or.inr (Or.inr ⟨ph', ?_, hu⟩)
          rw [hcalls]
          exact List.mem_set hlt ph'
        · exact Or.inl hu
        · exact Or.inr (Or.inl hu)
      · refine Or.inr (Or.inr ⟨phq, ?_, hr⟩)
        rw [hcalls, List.mem_iff_getElem?]
        exact ⟨q, by rw [List.getElem?_set_ne hpq, hq]⟩
  · exact hhalt
  · intro phq hq hphq r hr
    rw [happlied] at hr
    rw [hcalls] at hq
    rcases List.mem_or_eq_of_mem_set hq with hq | rfl
    · exact hsettles r (h.ready phq hq hphq r hr)
    · exact hsettles r (h.ready ph (List.mem_of_getElem? hp) (hready hphq) r hr)

section

variable (h : Safe w)
include h

/-- Proposals, records, windows and the clock do not matter. -/
theorem Safe.congr (hcalls : w'.calls = w.calls) (hhalt : w'.halt = w.halt)
    (happlied : w'.hist.applied = w.hist.applied)
    (hconfirmed : w'.hist.confirmed = w.hist.confirmed)
    (hcleared : w'.hist.cleared = w.hist.cleared) (hhalted : w'.hist.haltedFor = w.hist.haltedFor) :
    Safe w' := by
  have hsettles : ∀ r, w'.Settles r ↔ w.Settles r := by
    intro r
    unfold World.Settles
    rw [hconfirmed, hcleared]
  constructor
  · intro r hr
    rw [happlied] at hr
    rw [hsettles, hhalted, hcalls]
    exact h.settled r hr
  · rw [hhalted, hhalt]
    exact h.halt
  · intro ph hph hready r hr
    rw [hcalls] at hph
    rw [happlied] at hr
    exact (hsettles r).mpr (h.ready ph hph hready r hr)

theorem Safe.setProposal (c : Call) (status : ProposalStatus) : Safe (w.setProposal c status) := by
  unfold World.setProposal
  split
  · exact h
  · exact h.congr rfl rfl rfl rfl rfl rfl

theorem Safe.goTo (ph' : Phase) (hp : w.calls[p]? = some ph)
    (hready : ph'.ready = true → ph.ready = true) (hunsettled : ph'.unsettled = ph.unsettled) :
    Safe (w.goTo p ph') := by
  apply Safe.move (w.goTo p ph') h ph' hp rfl rfl (fun _ hs => hs) (fun _ hr => hr) h.halt
    hready
  intro r hr
  rw [hunsettled]
  exact Or.inl hr

theorem Safe.leave (hp : w.calls[p]? = some ph) (hunsettled : ph.unsettled = none) :
    Safe (w.leave p) := by
  apply Safe.move (w.leave p) h .finished hp rfl rfl (fun _ hs => hs) (fun _ hr => hr) h.halt
  · intro hready
    cases hready
  · intro r hr
    rw [hunsettled] at hr
    cases hr

theorem Safe.refuse (c : Call) (hp : w.calls[p]? = some ph) (hunsettled : ph.unsettled = none) :
    Safe (w.refuse p c) :=
  (h.leave hp hunsettled).setProposal c .approved

theorem Safe.cut (ph : Phase) : Safe (w.cut ph) := by
  unfold World.cut
  split
  · exact h
  · exact h.congr rfl rfl rfl rfl rfl rfl

end

theorem calls_cut (w : World) (ph : Phase) : (w.cut ph).calls = w.calls := by
  unfold World.cut
  split <;> rfl

theorem Safe.writeHalt (h : Safe w) (ph' : Phase) {run : Run} (reason : String)
    (hp : w.calls[p]? = some ph) (hready : ph'.ready = false)
    (hunsettled : ∀ r, ph.unsettled = some r → r = run.runId) :
    Safe ((w.writeHalt run reason).goTo p ph') := by
  apply Safe.move ((w.writeHalt run reason).goTo p ph') h ph' hp rfl rfl (fun _ hs => hs)
    (List.subset_cons_self _ _)
  · intro _ hnone
    cases hnone
  · intro hr
    rw [hready] at hr
    cases hr
  · intro r hr
    right
    right
    show r ∈ run.runId :: w.hist.haltedFor
    rw [hunsettled r hr]
    exact List.mem_cons_self

/-! ## Steps -/

theorem Safe.enter (h : Safe w) (c : Call) : Safe { w with calls := w.calls ++ [.entering c] } := by
  constructor
  · intro r hr
    rcases h.settled r hr with hs | hs | ⟨ph, hph, hr⟩
    · exact Or.inl hs
    · exact Or.inr (Or.inl hs)
    · exact Or.inr (Or.inr ⟨ph, List.mem_append_left _ hph, hr⟩)
  · exact h.halt
  · intro ph hph hready r hr
    rcases List.mem_append.mp hph with hph | hph
    · exact h.ready ph hph hready r hr
    · rw [List.mem_singleton] at hph
      subst hph
      cases hready

/-- **The gates.**  Who passes them finds every run settled: the lock keeps the calls inside
out, no call outside has a HALT to write, and there is no HALT. -/
theorem Safe.gate (hlocked : Locked w) (h : Safe w) {c : Call} {isDefault : Bool}
    (hp : w.calls[p]? = some (.gating c)) (hhalt : w.halt = none)
    (hpending : ∀ ph ∈ w.calls, ph.haltPending = false) :
    Safe (w.goTo p (.checking c w.now isDefault)) := by
  have hall : ∀ r ∈ w.hist.applied, w.Settles r := by
    intro r hr
    rcases h.settled r hr with hs | hs | ⟨ph, hph, hr⟩
    · exact hs
    · exact absurd hhalt (h.halt (List.ne_nil_of_mem hs))
    · obtain ⟨q, hq⟩ := List.mem_iff_getElem?.mp hph
      have hinside := inside_of_unsettled hr (hpending ph hph)
      have hpq := hlocked.eq_of_inside hp hq rfl hinside
      rw [← hpq, hp, Option.some.injEq] at hq
      subst hq
      cases hr
  constructor
  · intro r hr
    exact Or.inl (hall r hr)
  · exact h.halt
  · intro ph _ _ r hr
    exact hall r hr

variable {j : Job}

/-- The fault is applied: the run is the one that is unsettled. -/
theorem Safe.apply (hlocked : Locked w) (h : Safe w) (hp : w.calls[p]? = some (.saved j)) :
    Safe ({ w with hist := { w.hist with
      applied := j.run.runId :: w.hist.applied } }.goTo p (.applying j)) := by
  have hlt : p < w.calls.length := (List.getElem?_eq_some_iff.mp hp).1
  constructor
  · intro r hr
    rcases List.mem_cons.mp hr with rfl | hr
    · exact Or.inr (Or.inr ⟨.applying j, List.mem_set hlt _, rfl⟩)
    · exact Or.inl (h.ready _ (List.mem_of_getElem? hp) rfl r hr)
  · exact h.halt
  · intro ph hph hready r _
    rcases List.mem_iff_getElem?.mp hph with ⟨q, hq⟩
    simp only [World.goTo, List.getElem?_set] at hq
    split_ifs at hq with hpq
    · cases hq
      cases hready
    · have hqp := hlocked.eq_of_inside hp hq rfl (inside_of_ready hready)
      exact absurd hqp hpq

theorem Safe.removeHalt (h : Safe w) :
    Safe { w with
      halt := none
      hist := { w.hist with
        haltedFor := []
        cleared := w.hist.haltedFor ++ w.hist.cleared } } := by
  have hsettles : ∀ r, w.Settles r →
      r ∈ w.hist.confirmed ∨ r ∈ w.hist.haltedFor ++ w.hist.cleared := by
    intro r hr
    exact hr.imp id (List.mem_append_right _)
  constructor
  · intro r hr
    rcases h.settled r hr with hs | hs | hs
    · exact Or.inl (hsettles r hs)
    · exact Or.inl (Or.inr (List.mem_append_left _ hs))
    · exact Or.inr (Or.inr hs)
  · intro hne
    exact absurd rfl hne
  · intro ph hph hready r hr
    exact hsettles r (h.ready ph hph hready r hr)

/-- `_recover` has ended. -/
theorem Safe.poll (h : Safe w) {ok : Bool} {deadline : Nat} (recovered : Bool)
    (hp : w.calls[p]? = some (.recovering j ok deadline)) :
    Safe ((w.recovered j.run ok recovered).goTo p (.scored j ok recovered)) := by
  have hsettles : ∀ r, w.Settles r → (w.recovered j.run ok recovered).Settles r := by
    intro r hr
    unfold World.Settles World.recovered
    dsimp only
    split_ifs
    · exact hr.imp (List.mem_cons_of_mem _) id
    · exact hr
  apply Safe.move ((w.recovered j.run ok recovered).goTo p (.scored j ok recovered)) h
    (.scored j ok recovered) hp rfl rfl hsettles (fun _ hr => hr) h.halt
  · intro hready
    cases hready
  · intro r hr
    have hrun : j.run.runId = r := by
      simpa [Phase.unsettled] using hr
    subst hrun
    by_cases hback : (ok && recovered) = true
    · right
      left
      left
      show j.run.runId ∈ ite _ _ _
      rw [if_pos hback]
      exact List.mem_cons_self
    · left
      rw [Bool.and_comm] at hback
      simp only [Phase.unsettled, if_neg hback]

theorem Safe.release (h : Safe w) {ok recovered : Bool}
    (hp : w.calls[p]? = some (.scored j ok recovered)) :
    Safe ((w.unlock p).goTo p (.released j ok recovered)) := by
  apply Safe.move ((w.unlock p).goTo p (.released j ok recovered)) h (.released j ok recovered)
    hp rfl rfl (fun _ hs => hs) (fun _ hr => hr) h.halt
  · intro hready
    cases hready
  · intro r hr
    exact Or.inl hr

theorem unsettled_afterUndo (j : Job) (completed : Bool) (attempt : Nat) (succeeded : Bool) :
    (afterUndo j completed attempt succeeded).unsettled = some j.run.runId ∧
      (afterUndo j completed attempt succeeded).ready = false := by
  unfold afterUndo
  split_ifs <;> exact ⟨rfl, rfl⟩

theorem halt_of_gatedCluster {config : LabConfig} {cluster : Option Cluster}
    {halt : Option String} {c : Call} {now : Nat} {row : Cluster}
    (h : gatedCluster config cluster halt c now = .ok row) : halt = none := by
  cases halt with
  | none => rfl
  | some text =>
    unfold gatedCluster at h
    split_ifs at h

/-- An exception at a step where it leaves nothing unsettled, or where the `finally` meets
it. -/
theorem Safe.raise (h : Safe w) {refused : Bool} (hp : w.calls[p]? = some ph)
    (huncut : ph.guarded = true ∨ ph.unsettled = none) (hraise : w.raise p ph refused = some w') :
    Safe w' := by
  unfold World.raise at hraise
  split at hraise
  · cases hraise
  · cases hraise
    exact h.goTo _ hp (fun hready => nomatch hready) rfl
  · cases hraise
    exact h.goTo _ hp (fun hready => nomatch hready) rfl
  · next hfinished happlying hobserving =>
    have hunsettled : ph.unsettled = none := by
      rcases huncut with hguarded | hunsettled
      · cases ph with
        | applying j => exact absurd rfl (happlying j)
        | observing j => exact absurd rfl (hobserving j)
        | _ => cases hguarded
      · exact hunsettled
    have hleft : Safe ((w.cut ph).leave p) := by
      apply (h.cut ph).leave _ hunsettled
      rw [calls_cut, hp]
    split at hraise
    · cases hraise
      exact hleft
    · cases hraise
      exact hleft.setProposal _ _

/-- **What a step keeps** that cuts no unsettled run short and asks the gates only when no
HALT is still to be written. -/
theorem safe_step {faults : List FaultScenario} {l : Label} (hlocked : Locked w) (h : Safe w)
    (hC : Uncut w l) (hstep : step faults w l = some w') : Safe w' := by
  cases stepped_of_step hstep with
  | runFault clusterId scenarioId scheduled s => exact h.enter _
  | runProposal clusterId key scheduled config s => exact (h.enter _).setProposal _ _
  | @lock _ c hp hfree =>
    have hgone := h.goTo (.gating c) hp (fun hready => nomatch hready) rfl
    exact hgone.congr rfl rfl rfl rfl rfl rfl
  | refused _ hp hearly =>
    apply h.refuse _ hp
    rcases hearly with rfl | rfl | ⟨_, _, rfl⟩ | ⟨_, _, _, rfl⟩ <;> rfl
  | gate hp hgated => exact h.gate hlocked hp (halt_of_gatedCluster hgated) hC
  | check baseline hp => exact h.goTo _ hp (fun _ => rfl) rfl
  | prepare target hp =>
    have hnext : Safe { w with nextRun := w.nextRun + 1 } := h.congr rfl rfl rfl rfl rfl rfl
    exact hnext.goTo _ hp (fun _ => rfl) rfl
  | @save _ j hp =>
    exact (h.goTo (.saved j) hp (fun _ => rfl) rfl).congr rfl rfl rfl rfl rfl rfl
  | apply hp => exact (h.apply hlocked hp).congr rfl rfl rfl rfl rfl rfl
  | applied hp => exact h.goTo _ hp (fun hready => nomatch hready) rfl
  | observed hp => exact h.goTo _ hp (fun hready => nomatch hready) rfl
  | @undo _ j completed attempt succeeded hp =>
    obtain ⟨hunsettled, hready⟩ := unsettled_afterUndo j completed attempt succeeded
    exact h.goTo _ hp (fun hr => by rw [hready] at hr; cases hr) hunsettled
  | @saveEnded _ j completed ok hp =>
    have hmoved := h.goTo (if completed then .recovering { j with
        run := { j.run with endedAt := some w.now } } ok
          (w.now + seconds j.call.scenario.recoverySeconds)
      else .interrupted { j with run := { j.run with endedAt := some w.now } } ok) hp
    cases completed with
    | true | false =>
      exact (hmoved (fun hready => nomatch hready) rfl).congr rfl rfl rfl rfl rfl rfl
  | @haltInterrupted _ j ok hp =>
    apply h.writeHalt (.halted j) _ hp rfl
    intro r hr
    cases hr
    rfl
  | recovered _ recovered hp => exact h.poll recovered hp
  | polled _ hp => exact h.goTo _ hp (fun hready => nomatch hready) rfl
  | release hp => exact h.release hp
  | @back _ j _ _ hp hback =>
    apply h.goTo (.reporting j) hp (fun hready => nomatch hready)
    simp only [Phase.unsettled, if_pos hback]
  | @halt _ j _ _ hp hback =>
    apply h.writeHalt (.reporting j) _ hp rfl
    intro r hr
    simp only [Phase.unsettled, if_neg hback, Option.some.injEq] at hr
    exact hr.symm
  | @report _ j hp =>
    have hgone := h.goTo .finished hp (fun hready => nomatch hready) rfl
    exact hgone.setProposal j.call .done
  | @raise _ _ ph _ hp hraise => exact h.raise hp (hC ph hp) hraise
  | @kill _ ph hp =>
    apply (h.cut ph).leave _ (hC ph hp)
    rw [calls_cut, hp]
  | removeHalt => exact h.removeHalt
  | tick | writeProposals => exact h.congr rfl rfl rfl rfl rfl rfl

/-! ## Runs -/

theorem safe_initial (now : Nat) (proposals : List Proposal) :
    Safe (World.initial now proposals) := by
  constructor
  · intro r hr
    cases hr
  · intro hne
    exact absurd rfl hne
  · intro ph hph
    cases hph

/-- **No fault into a cluster that is not back.**  In every run of calls, of any number and
overlap, in which no unsettled run is cut short other than by an exception that the
`finally` meets, and the gates are asked only when no released run has its HALT to write, a
fault is applied only when every earlier run has confirmed its undo and the recovery, or an
operator has removed its HALT file. -/
theorem settled_of_uncut (faults : List FaultScenario) (now : Nat) (proposals : List Proposal)
    (labels : List Label) (h : (lab faults).Meets Uncut (World.initial now proposals) labels) :
    (lab faults).Always Settled (World.initial now proposals) labels := by
  apply (lab faults).always_of_meets Settled Uncut (fun w => Locked w ∧ Safe w) _ labels _
    ⟨locked_initial now proposals, safe_initial now proposals⟩ h
  intro w l w' ⟨hlocked, hw⟩ hC hstep
  refine ⟨?_, locked_step hlocked hstep, safe_step hlocked hw hC hstep⟩
  · intro p hl r hr
    subst hl
    simp only [lab, step] at hstep
    split at hstep <;> cases hstep
    next j hp => exact hw.ready _ (List.mem_of_getElem? hp) rfl r hr

/-- The cluster is not back in time: HALT, until an operator removes it. -/
def haltedRun : List Label :=
  upToSave osdNearfull.id 0 ++ faultAndUndo 0 ++
    [.tick (seconds 300), .poll 0 (some (false, [])), .release 0, .halt 0, .removeHalt] ++
    upToSave osdNearfull.id 1 ++ [.apply 1]

/-- The next run injects only then. -/
theorem settled_after_halt :
    ((lab [osdNearfull]).run (World.initial 0 []) haltedRun).map
        (fun w => (w.hist.applied, w.hist.cleared)) = some ([1, 0], [0]) ∧
      (lab [osdNearfull]).Always Settled (World.initial 0 []) haltedRun :=
  ⟨by decide, settled_of_uncut [osdNearfull] 0 [] haltedRun (by decide)⟩

/-- The first reading of `_recover` fails, and the operator stops the run while it waits for
the next one. -/
def interruptedRecovery : List Label :=
  upToSave osdNearfull.id 0 ++ faultAndUndo 0 ++ [.poll 0 none, .raise 0 false] ++
    upToSave osdNearfull.id 1

/-- **An interrupted recovery leaves no HALT**: the next run applies its fault. -/
theorem recovery_interrupted :
    ¬ (lab [osdNearfull]).Always Settled (World.initial 0 [])
      (interruptedRecovery ++ [.apply 1]) := by
  intro h
  have hrun : (lab [osdNearfull]).run (World.initial 0 []) interruptedRecovery =
      some (((lab [osdNearfull]).run (World.initial 0 []) interruptedRecovery).getD
        (World.initial 0 [])) := by
    rfl
  have hsettled := h.step_after rfl interruptedRecovery _ hrun 1 rfl 0 (by decide)
  revert hsettled
  decide

end CephAi.Ports.FailureLab
