import CephAi.Ports.ModelPromotion

/-!
# A rollback right after an approval

`rollback_promotion` of `shared/model_registry.py` finds what it restores through the audit of the
promotion.  A row is promoted once, so this is the audit that the approval has just written.

## Main results

* `onlySelected_select` — what `_select_runtime_state` leaves selected.
* `registry_reachable` — one active row in a scope, and a rollback right after an approval undoes
  it or is refused.
* `rollback_refused` — a baseline that has no runtime state.
-/

namespace CephAi.Ports.ModelRollback

open ModelPromotion ShadowRegistry Verified.Checks
open Verified.Lifecycle Verified.Runs Verified.Table

variable {M : Type}

/-! ## The law -/

def Registry.status (db : Registry M) (id : Nat) : Option ModelStatus :=
  (get db.models id).map ModelRow.status

/-- The states of the scope can be found, and one of them is of the model. -/
def HasRuntime (w : World M) (row : ModelRow) : Prop :=
  ∃ scope, runtimeScope row = .ok scope ∧ ∃ s ∈ w.states scope, runs row s = true

/-- One state of the model is selected, and no other one of its scope. -/
def OnlySelected (w : World M) (row : ModelRow) : Prop :=
  ∃ scope target, runtimeScope row = .ok scope ∧ target ∈ w.states scope ∧
    runs row target = true ∧ ∀ s ∈ w.states scope, s.selected = true ↔ s = target

/-- A rollback after an approval: `w` is before it, `w'` after it. -/
structure Undone (w w' : World M) (candidateId : Nat) (previous : ModelRow) (actor : String)
    (now : Int) : Prop where
  restored : HasRuntime w previous →
    (rollbackPromotion w' candidateId actor now).2 = .ok previous.id ∧
      (∀ id, Registry.status (rollbackPromotion w' candidateId actor now).1.registry id =
        if id = candidateId then some .retired else Registry.status w.registry id) ∧
      OnlySelected (rollbackPromotion w' candidateId actor now).1 previous
  refused : ¬HasRuntime w previous →
    rollbackPromotion w' candidateId actor now =
      (w', .error "registry model has no matching runtime model state")

/-- One active row in each scope; a rollback right after an approval restores every status but
that of the promoted row, and the runtime state of the row that was active, or is refused and
changes nothing where that row has no runtime state. -/
structure Sound (guard : Guard M) (w : World M) : Prop where
  oneActive : OneActive w.registry
  undone : ∀ candidateId actor now promoted,
    (approvePromotion guard w candidateId actor now).2 = .ok promoted →
      ∃ previous ∈ w.registry.models, previous.status = .active ∧
        (get w.registry.models candidateId).all (fun candidate =>
          candidate.identity.scopeType = previous.identity.scopeType ∧
            candidate.identity.scopeKey = previous.identity.scopeKey) = true ∧
        ∀ actor' now', Undone w (approvePromotion guard w candidateId actor now).1 candidateId
          previous actor' now'

variable {w w' : World M} {db : Registry M}

/-! ## Selected runtime states -/

variable {active candidate row : ModelRow} {candidateId : Nat} {selected : Bool}

theorem runtimeScope_congr {row' : ModelRow} (h : scopeOf row = scopeOf row') :
    runtimeScope row = runtimeScope row' := by
  have htype : row.identity.scopeType = row'.identity.scopeType := congrArg Prod.fst h
  have hkey : row.identity.scopeKey = row'.identity.scopeKey := congrArg Prod.snd h
  unfold runtimeScope
  rw [htype, hkey]

section

variable (status : ModelStatus)

section

variable (reason : String)

theorem withStatus_window (now : Int) (r : ModelRow) :
    (r.withStatus status reason now).trainingWindowHours = r.trainingWindowHours := by
  unfold ModelRow.withStatus
  cases status <;> dsimp only
  · split <;> rfl
  · split <;> rfl

theorem runs_withStatus (now : Int) (r : ModelRow) :
    runs (r.withStatus status reason now) = runs r := by
  funext s
  unfold runs
  rw [ModelRow.withStatus_identity, withStatus_window]

theorem hasRuntime_withStatus (now : Int) (r : ModelRow) :
    HasRuntime w (r.withStatus status reason now) ↔ HasRuntime w r := by
  unfold HasRuntime
  rw [runtimeScope_congr (scopeOf_withStatus status reason now r), runs_withStatus]

theorem onlySelected_withStatus (now : Int)
    (r : ModelRow) : OnlySelected w (r.withStatus status reason now) ↔ OnlySelected w r := by
  unfold OnlySelected
  rw [runtimeScope_congr (scopeOf_withStatus status reason now r), runs_withStatus]

end

end

theorem runtimeScope_of_select (h : selectRuntimeState w row selected = .ok w') :
    ∃ scope, runtimeScope row = .ok scope := by
  unfold selectRuntimeState at h
  obtain ⟨scope, hscope, _⟩ := bind_eq_ok.mp h
  exact ⟨scope, hscope⟩

theorem selectRuntimeState_states {scope : RuntimeScope} (hscope : runtimeScope row = .ok scope)
    (h : selectRuntimeState w row selected = .ok w') :
    ∃ target ∈ w.states scope, runs row target = true ∧
      w'.states scope = (w.states scope).map fun s =>
        { s with selected := selected && s.id == target.id } := by
  unfold selectRuntimeState at h
  rw [hscope] at h
  obtain ⟨_, hok, h⟩ := bind_eq_ok.mp h
  cases hok
  split at h
  · cases h
  · rename_i target htarget
    cases h
    refine ⟨target, List.mem_of_find?_eq_some htarget, List.find?_some htarget, ?_⟩
    unfold World.states
    dsimp only
    rw [Function.update_self]
    exact filter_update _ _ _ fun _ => rfl

theorem states_unique (w : World M) (scope : RuntimeScope) {s s' : RuntimeState}
    (hs : s ∈ w.states scope) (hs' : s' ∈ w.states scope) (hid : s.id = s'.id) : s = s' := by
  have hget := get_of_mem (w.runtime scope.kind).unique (List.mem_of_mem_filter hs)
  have hget' := get_of_mem (w.runtime scope.kind).unique (List.mem_of_mem_filter hs')
  rw [show Keyed.key s = Keyed.key s' from hid, hget'] at hget
  exact (Option.some.inj hget).symm

theorem onlySelected_select (h : selectRuntimeState w row true = .ok w') : OnlySelected w' row := by
  obtain ⟨scope, hscope⟩ := runtimeScope_of_select h
  obtain ⟨target, htarget, hruns, hstates⟩ := selectRuntimeState_states hscope h
  refine ⟨scope, { target with selected := true }, hscope, ?_, hruns, ?_⟩
  · rw [hstates]
    exact List.mem_map.mpr ⟨target, htarget, by simp⟩
  · intro s hs
    rw [hstates] at hs
    obtain ⟨old, hold, rfl⟩ := List.mem_map.mp hs
    constructor
    · intro hselected
      have hid : old.id = target.id := by simpa using hselected
      rw [states_unique w scope hold htarget hid]
      simp
    · intro heq
      rw [heq]

theorem hasRuntime_select {row' : ModelRow} (h : selectRuntimeState w row selected = .ok w')
    (hsame : scopeOf row' = scopeOf row) : HasRuntime w' row' ↔ HasRuntime w row' := by
  obtain ⟨scope, hscope⟩ := runtimeScope_of_select h
  obtain ⟨_, _, _, hstates⟩ := selectRuntimeState_states hscope h
  unfold HasRuntime
  rw [runtimeScope_congr hsame, hscope]
  constructor
  · rintro ⟨_, hok, s, hs, hruns⟩
    cases hok
    rw [hstates] at hs
    obtain ⟨old, hold, rfl⟩ := List.mem_map.mp hs
    exact ⟨scope, rfl, old, hold, hruns⟩
  · rintro ⟨_, hok, s, hs, hruns⟩
    cases hok
    refine ⟨scope, rfl, ?_⟩
    rw [hstates]
    exact ⟨_, List.mem_map_of_mem hs, hruns⟩

theorem selectRuntimeState_of_hasRuntime (h : HasRuntime w row) :
    ∃ w', selectRuntimeState w row true = .ok w' := by
  obtain ⟨scope, hscope, s, hs, hruns⟩ := h
  have hfound : ((w.states scope).find? (runs row)).isSome = true :=
    List.find?_isSome.mpr ⟨s, hs, hruns⟩
  obtain ⟨target, htarget⟩ := Option.isSome_iff_exists.mp hfound
  unfold selectRuntimeState
  simp only [hscope, htarget, bind, Except.bind]
  exact ⟨_, rfl⟩

theorem selectRuntimeState_of_not {scope : RuntimeScope} (hscope : runtimeScope row = .ok scope)
    (h : ¬HasRuntime w row) :
    selectRuntimeState w row true =
      .error "registry model has no matching runtime model state" := by
  have hnone : (w.states scope).find? (runs row) = none := by
    apply List.find?_eq_none.mpr
    intro s hs hruns
    exact h ⟨scope, hscope, s, hs, hruns⟩
  unfold selectRuntimeState
  simp only [hscope, hnone, bind, Except.bind]

/-! ## A rollback right after an approval -/

/-- What an approval that goes through has done. -/
structure Approved (w w' : World M) (candidateId : Nat) (candidate active : ModelRow) : Prop where
  found : get w.registry.models candidateId = some candidate
  unsettled : candidate.status = .candidate ∨ candidate.status = .shadow
  beside : activeBeside w.registry candidate = .ok (some active)
  written : ∃ selected registry actor reason now,
    selectRuntimeState w candidate true = .ok selected ∧
      replaceActive w.registry active candidate ("replaced by " ++ candidate.identity.version)
        "operator-approved guarded promotion" now = (registry, .ok ()) ∧
      w' = ({ selected with registry := registry } : World M).audit candidate.id (some active.id)
        .promoted actor reason now

theorem approved_of_ok {guard : Guard M} {promoted : Nat} {actor : String} {now : Int}
    (h : (approvePromotion guard w candidateId actor now).2 = .ok promoted) :
    ∃ candidate active,
      Approved w (approvePromotion guard w candidateId actor now).1 candidateId candidate
        active := by
  unfold approvePromotion at h ⊢
  dsimp only at h ⊢
  split at h
  · cases h
  · rename_i candidate hcandidate
    split at h
    · cases h
    · rename_i hstatus
      split at h
      · cases h
      · cases h
      · rename_i active hactive
        split at h
        · cases h
        · rename_i hready
          split at h
          · cases h
          · rename_i decision hguard
            split at h
            · cases h
            · rename_i hallowed
              split at h
              · cases h
              · rename_i selected hselect
                split at h
                · cases h
                · rename_i registry hreplace
                  refine ⟨candidate, active, hcandidate, not_not.mp hstatus, hactive, selected,
                    registry, actor, decision.reason, now, hselect, ?_, ?_⟩
                  · rw [← (selectRuntimeState_eq_ok hselect).1]
                    exact hreplace
                  · rw [if_neg hstatus, if_neg hready, if_neg hallowed]

/-- The world after an approval, as its rollback meets it. -/
structure Promoted (w w' : World M) (candidate active : ModelRow) : Prop where
  candidate' : ∃ reason now,
    get w'.registry.models candidate.id = some (candidate.withStatus .active reason now)
  active' : ∃ reason now,
    get w'.registry.models active.id = some (active.withStatus .retired reason now)
  board' : board w'.registry = Function.update
    (Function.update (board w.registry) active.id (some (scopeOf active, .retired))) candidate.id
      (some (scopeOf active, .active))
  last : lastPromotion w'.audits candidate.id >>= PromotionAudit.previousActiveModelId =
    some active.id
  scope : ∃ scope, runtimeScope active = .ok scope
  runtime : HasRuntime w' active ↔ HasRuntime w active

theorem lastPromotion_append {audits : List PromotionAudit} {a : PromotionAudit}
    (hnone : ∀ b ∈ audits, b.eventType = .promoted → b.candidateModelId ≠ a.candidateModelId)
    (ha : a.eventType = .promoted) : lastPromotion (audits ++ [a]) a.candidateModelId = some a := by
  have hempty : audits.filter (fun b => b.candidateModelId = a.candidateModelId ∧
      b.eventType = .promoted) = [] := by
    apply List.filter_eq_nil_iff.mpr
    intro b hb hpicked
    obtain ⟨hcandidate, hevent⟩ := of_decide_eq_true hpicked
    exact hnone b hb hevent hcandidate
  unfold lastPromotion
  rw [List.filter_append, hempty, List.nil_append, List.filter_cons, if_pos]
  · rfl
  · exact decide_eq_true ⟨rfl, ha⟩

theorem Approved.promoted (hinv : Inv w) (h : Approved w w' candidateId candidate active) :
    Promoted w w' candidate active := by
  obtain ⟨selected, registry, actor, reason, now, hselect, hreplace, rfl⟩ := h.written
  have hrow := get_self h.found
  have hne : candidate.status ≠ .active := by
    intro hactive
    rcases h.unsettled with hs | hs
    · rw [hactive] at hs
      cases hs
    · rw [hactive] at hs
      cases hs
  obtain ⟨registry', hreplace', hold, hnew, hboard⟩ := replaceActive_candidate
    ("replaced by " ++ candidate.identity.version) "operator-approved guarded promotion" now hrow
    hne h.beside
  rw [hreplace] at hreplace'
  cases hreplace'
  have hscope := (oneOrNone_active h.beside).2.1
  have hruntime : HasRuntime selected active ↔ HasRuntime w active :=
    hasRuntime_select hselect hscope
  refine ⟨⟨_, _, hnew⟩, ⟨_, _, hold⟩, hboard, ?_, ?_, hruntime⟩
  · show lastPromotion (selected.audits ++ [_]) _ >>= _ = _
    rw [(selectRuntimeState_eq_ok hselect).2, lastPromotion_append _ rfl]
    · rfl
    · intro b hb hevent heq
      obtain ⟨scope, status, hstatus, hsettled⟩ := hinv.promoted b hb hevent
      rw [heq, board_of_get hrow] at hstatus
      cases hstatus
      rcases h.unsettled with hs | hs
      · rw [hs] at hsettled
        rcases hsettled with hsettled | hsettled
        · cases hsettled
        · cases hsettled
      · rw [hs] at hsettled
        rcases hsettled with hsettled | hsettled
        · cases hsettled
        · cases hsettled
  · rw [runtimeScope_congr hscope]
    exact runtimeScope_of_select hselect

theorem rollbackPromotion_eq {candidate' active' : ModelRow} (actor : String) (now : Int)
    (hcandidate : get w.registry.models candidate.id = some candidate')
    (hactive : get w.registry.models active.id = some active')
    (hstatus : candidate'.status = .active) (hretired : active'.status = .retired)
    (hlast : lastPromotion w.audits candidate.id >>= PromotionAudit.previousActiveModelId =
      some active.id) :
    rollbackPromotion w candidate.id actor now = restorePrevious w candidate' active' actor now := by
  have hid : candidate'.id = candidate.id := key_of_get hcandidate
  obtain ⟨audit, haudit, hprevious⟩ := Option.bind_eq_some_iff.mp hlast
  have hfound : ((lastPromotion w.audits candidate'.id).bind fun audit =>
      audit.previousActiveModelId.bind (get w.registry.models)) = some active' := by
    rw [hid, haudit]
    show audit.previousActiveModelId.bind (get w.registry.models) = _
    rw [hprevious]
    exact hactive
  unfold rollbackPromotion
  simp only [hcandidate, hstatus, hfound, Option.filter_some, hretired, ne_eq, not_true,
    if_false, decide_true, if_true]

theorem status_eq (db : Registry M) (id : Nat) :
    Registry.status db id = (board db id).map Prod.snd := by
  unfold Registry.status board
  rw [Option.map_map]
  rfl

theorem undone (hinv : Inv w) (hinv' : Inv w') (h : Approved w w' candidateId candidate active)
    (actor : String) (now : Int) : Undone w w' candidateId active actor now := by
  have hid : candidate.id = candidateId := key_of_get h.found
  subst hid
  have hpromoted := h.promoted hinv
  obtain ⟨reason, then_, hcandidate⟩ := hpromoted.candidate'
  obtain ⟨reason', then', hactive⟩ := hpromoted.active'
  have heq := rollbackPromotion_eq actor now hcandidate hactive
    (candidate.withStatus_status _ _ _) (active.withStatus_status _ _ _) hpromoted.last
  obtain ⟨hactiveRow, hscope, hisActive⟩ := oneOrNone_active h.beside
  have hne : candidate.id ≠ active.id := by
    intro hsame
    have hrow := h.found
    rw [hsame, hactiveRow] at hrow
    cases hrow
    rcases h.unsettled with hs | hs
    · rw [hisActive] at hs
      cases hs
    · rw [hisActive] at hs
      cases hs
  constructor
  · intro hruntime
    have hruntime' := (hasRuntime_withStatus .retired reason' then' active).mpr
      (hpromoted.runtime.mpr hruntime)
    obtain ⟨selected, hselect⟩ := selectRuntimeState_of_hasRuntime hruntime'
    obtain ⟨hregistry, _⟩ := selectRuntimeState_eq_ok hselect
    have hcandidateScope : scopeOf (candidate.withStatus .active reason then_) = scopeOf active :=
      (scopeOf_withStatus _ _ _ _).trans hscope.symm
    have hactiveScope := scopeOf_withStatus .retired reason' then' active
    have hboardCandidate : board w'.registry candidate.id = some (scopeOf active, .active) := by
      rw [hpromoted.board', Function.update_self]
    obtain ⟨registry, hreplace, _, _, hboard⟩ := replaceActive_eq
      ("rollback về " ++ (active.withStatus .retired reason' then').identity.version)
      "operator-approved rollback" now (get_self hcandidate) (get_self hactive)
      (by rw [ModelRow.withStatus_id, ModelRow.withStatus_id]; exact hne)
      (hcandidateScope.trans hactiveScope.symm)
      (fun id hrow => by
        rw [ModelRow.withStatus_id]
        exact hinv'.exclusive id candidate.id _ (hcandidateScope ▸ hrow) hboardCandidate)
    unfold restorePrevious at heq
    rw [hselect] at heq
    simp only [hregistry, hreplace] at heq
    rw [heq]
    refine ⟨?_, ?_, ?_⟩
    · exact congrArg Except.ok (active.withStatus_id .retired reason' then')
    · intro id
      show Registry.status registry id = _
      rw [status_eq, status_eq, hboard, hpromoted.board', hcandidateScope,
        ModelRow.withStatus_id, ModelRow.withStatus_id]
      by_cases hidActive : id = active.id
      · rw [hidActive, Function.update_self, if_neg hne.symm, board_of_get hactiveRow, hisActive,
          Option.map_some]
      · rw [Function.update_of_ne hidActive]
        by_cases hidCandidate : id = candidate.id
        · rw [hidCandidate, Function.update_self, if_pos rfl, Option.map_some]
        · rw [Function.update_of_ne hidCandidate, if_neg hidCandidate,
            Function.update_of_ne hidCandidate, Function.update_of_ne hidActive]
    · have honly : OnlySelected selected active :=
        (onlySelected_withStatus .retired reason' then' active).mp (onlySelected_select hselect)
      exact honly
  · intro hnone
    obtain ⟨scope, hruntimeScope⟩ := hpromoted.scope
    rw [← runtimeScope_congr (scopeOf_withStatus .retired reason' then' active)] at hruntimeScope
    rw [heq, restorePrevious, selectRuntimeState_of_not hruntimeScope]
    intro hruntime
    exact hnone (hpromoted.runtime.mp
      ((hasRuntime_withStatus .retired reason' then' active).mp hruntime))

/-- **Registries.** In every reachable registry a scope has at most one active row, and a rollback
right after an approval undoes it, or is refused where the row that was active has no runtime
state. -/
theorem registry_reachable (guard : Guard M) (w w' : World M) (ops : List (Op M))
    (hstart : Start w) (hrun : (system guard).run w ops = some w') : Sound guard w' := by
  have hinv := inv_reachable hstart hrun
  refine ⟨hinv.oneActive, ?_⟩
  intro candidateId actor now promoted hok
  obtain ⟨candidate, active, happroved⟩ := approved_of_ok hok
  obtain ⟨hactive, hscope, hisActive⟩ := oneOrNone_active happroved.beside
  refine ⟨active, mem_of_get hactive, hisActive, ?_, ?_⟩
  · rw [happroved.found]
    exact decide_eq_true ⟨congrArg Prod.fst hscope.symm, congrArg Prod.snd hscope.symm⟩
  · intro actor' now'
    exact undone hinv (hinv.written (written_approve guard w' candidateId actor now)) happroved
      actor' now'

/-- A guard that allows every promotion. -/
def allowing : Guard Unit := fun _ _ _ _ => .ok ⟨true, "candidate đạt đủ dữ liệu"⟩

def empty : World Unit := ⟨noModels, [], fun _ => ⟨[], List.nodup_nil⟩⟩

/-- The states of the learner of one node: of the candidate, and of the baseline where `baseline`
has one. -/
def learned (baseline : Bool) : RuntimeKind → RuntimeTable
  | .node =>
    if baseline = true then
      ⟨[⟨1, ["CS-LAB", "h1", "ram"], "linear", 24, 6, false⟩,
        ⟨2, ["CS-LAB", "h1", "ram"], "linear", 72, 6, true⟩], by decide⟩
    else ⟨[⟨1, ["CS-LAB", "h1", "ram"], "linear", 24, 6, false⟩], by decide⟩
  | .volume => ⟨[], List.nodup_nil⟩

/-- A baseline and a candidate in the shadow. -/
def paired (baseline : Bool) : World Unit :=
  perform allowing (perform allowing empty (.ensure taken.comparison 0)) (.learn (learned baseline))

/-- The baseline has no runtime state: it stays retired. -/
theorem rollback_refused :
    ¬∀ (guard : Guard Unit) (w w' : World Unit) (ops : List (Op Unit)), Start w →
      (system guard).run w ops = some w' → ∀ candidateId actor now promoted,
        (approvePromotion guard w' candidateId actor now).2 = .ok promoted → ∀ actor' now' id,
          Registry.status (rollbackPromotion (approvePromotion guard w' candidateId actor now).1
            candidateId actor' now').1.registry id =
              if id = candidateId then some .retired else Registry.status w'.registry id := by
  intro h
  have hstatus := h allowing empty (paired false)
    [.ensure taken.comparison 0, .learn (learned false)] ⟨rfl, rfl⟩ rfl 2 "admin" 1 2
    (by decide +kernel) "admin" 2 1
  exact absurd hstatus (by decide +kernel)

/-- A baseline with its runtime state. -/
theorem registry_paired :
    (approvePromotion allowing (paired true) 2 "admin" 1).2 = .ok 2 ∧
      Sound allowing (paired true) :=
  ⟨by decide +kernel, registry_reachable allowing empty (paired true)
    [.ensure taken.comparison 0, .learn (learned true)] ⟨rfl, rfl⟩ rfl⟩

end CephAi.Ports.ModelRollback
