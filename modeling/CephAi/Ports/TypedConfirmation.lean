import CephAi.Ports.TelegramApproval
import Mathlib

/-!
# The typed confirmation of a lifecycle Action

An Action of the cluster lifecycle that carries a confirmation is to be approved with that text
only.  The button for an approval asks for the text, and so do the message and the Dashboard.
The buttons that choose an application for a pool, and the final approval in the chat, go to
the core without it; and a confirmation of blanks is asked for nowhere.

## Main results

* `approves_callback`, `approves_dashboard` — when a callback or a form approves such an Action.
* `confirmed_of_message` — what a message approves has its text in it.
* `confirmed_iff` — which updates and requests approve such an Action with its text only.
-/

namespace CephAi.Ports.TypedConfirmation

open CommandParams TelegramApproval

variable {S : Site} {db : Db} {live : Live}

/-- A lifecycle Action with a confirmation that is not approved. -/
structure Guarded (S : Site) (a : Action) : Prop where
  lifecycle : clusterLifecycleActionIds.contains a.actionId = true
  confirmation : confirmation S a ≠ ""
  status : a.status ≠ .approved

/-- The sender may decide on the Action, and the text is its confirmation.  A callback brings no
text. -/
def Confirmed (S : Site) (db : Db) (a : Action) : Request → Prop
  | .callback _ => False
  | .message m => authorised S db (db.incidentOf a) m.chat m.sender = true ∧
      ∃ ref supplied rest, confirmArgs m.text = some (ref :: supplied :: rest) ∧
        strip supplied = strip (confirmation S a)
  | .dashboard r => r.id = a.id ∧ authorizeActionRoute S db a r.user = true ∧
      (isDestructive S db a = true → S.isAdmin r.user = true) ∧
      strip r.confirmText = strip (confirmation S a)

/-- A final approval in the chat is for this Action. -/
def ChatTap (S : Site) (db : Db) (a : Action) (u : Callback) : Prop :=
  S.chatAllowed u.chat u.sender.id = true ∧
    ∃ ref, dropStart "chatapprove:" u.data = some ref ∧ chatAction db ref u.sender = some a

/-- A button approves this Action: it chooses an application for an Action that names a pool, or
its text is blank. -/
def ButtonTap (S : Site) (db : Db) (a : Action) (u : Callback) : Prop :=
  authorised S db (db.incidentOf a) u.chat u.sender = true ∧
    ((∃ app ref, press u.data = some (.poolApp app ref) ∧ unqualify ref = a.id ∧ HasPool a) ∨
      (∃ ref, press u.data = some (.approve ref) ∧ unqualify ref = a.id ∧
        strip (confirmation S a) = ""))

/-- The data of a callback are taken by the Failure Lab, or by the chat. -/
def forLab (u : Callback) : Bool := labStarts.any fun start => (dropStart start u.data).isSome

def forChat (u : Callback) : Bool := chatStarts.any fun start => (dropStart start u.data).isSome

/-- One tap approves this Action. -/
def Tapped (S : Site) (db : Db) (live : Live) (a : Action) (u : Callback) : Prop :=
  Approvable S live a ∧ forLab u = false ∧
    ((forChat u = true ∧ ChatTap S db a u) ∨ (forChat u = false ∧ ButtonTap S db a u))

/-- What the Dashboard approves when it lets an approval pass: the Action as it is, or as the
choice of an application leaves it. -/
def chosenByForm (S : Site) (db : Db) (live : Live) (a : Action) (r : Approval) :
    Except Answer Action :=
  if r.poolApp = "" then .ok a
  else preparePoolChoice S a (db.incidentOf a) r.poolApp live.evidence

/-- The Dashboard approves an Action whose confirmation is blank with another text. -/
def BlankForm (S : Site) (db : Db) (live : Live) (a : Action) (r : Approval) : Prop :=
  r.id = a.id ∧ strip (confirmation S a) = "" ∧ strip r.confirmText ≠ "" ∧
    authorizeActionRoute S db a r.user = true ∧ requireAdmin S db a r = none ∧
    ∃ chosen, chosenByForm S db live a r = .ok chosen ∧ Approvable S live chosen

/-- The update or the request asks for the text where it approves. -/
def Asked (S : Site) (db : Db) (live : Live) (a : Action) : Request → Prop
  | .callback u => ¬Tapped S db live a u
  | .message _ => True
  | .dashboard r => ¬BlankForm S db live a r

/-! ## Callbacks -/

variable {a : Action} {id : String}

/-- The button for an approval asks for a text that is not blank. -/
theorem typedConfirmation_isSome (hguarded : Guarded S a) :
    (typedConfirmation S a).isSome = true ↔ strip (confirmation S a) ≠ "" := by
  unfold typedConfirmation
  rw [hguarded.lifecycle]
  by_cases hblank : strip (confirmation S a) = ""
  · simp [hblank]
  · simp [hblank]

/-- A lifecycle Action is no manual warning. -/
theorem chooseOrPrepare_of_guarded (hguarded : Guarded S a) (app evidence : String) :
    chooseOrPrepare S db a app evidence = chooseApp a app := by
  unfold chooseOrPrepare
  have hother : (a.actionId == "investigate_manually") = false := by
    rw [beq_eq_false_iff_ne]
    intro hmanual
    have hlifecycle := hguarded.lifecycle
    rw [hmanual] at hlifecycle
    exact absurd hlifecycle (by decide)
  rw [hother]
  rfl

theorem approves_poolApp {a : Action} {id : String} (ha : db.action? id = some a)
    (hguarded : Guarded S a) (id' app evidence : String) :
    (match db.action? id' with
      | none => (db, Answer.notFound)
      | some b => chosenThenApproved S db live id' (chooseOrPrepare S db b app evidence)).1.statusOf
        id = some .approved ↔
      id' = id ∧ HasPool a ∧ Approvable S live a := by
  have hbefore : db.statusOf id ≠ some .approved := by
    rw [statusOf_of_action? ha]
    intro h
    exact hguarded.status (Option.some.inj h)
  cases hb : db.action? id' with
  | none =>
    constructor
    · intro h
      exact absurd h hbefore
    · rintro ⟨hsame, _⟩
      rw [hsame, ha] at hb
      cases hb
  | some b =>
    dsimp only
    cases hchosen : chooseOrPrepare S db b app evidence with
    | error answer =>
      constructor
      · intro h
        exact absurd h hbefore
      · rintro ⟨hsame, hpool, _⟩
        rw [hsame, ha] at hb
        cases hb
        rw [chooseOrPrepare_of_guarded hguarded] at hchosen
        obtain ⟨chosen, hok⟩ := chooseApp_of_hasPool hpool app
        rw [hok] at hchosen
        cases hchosen
    | ok chosen =>
      rw [approves_chosen hb id]
      constructor
      · rintro (h | ⟨hsame, hpass⟩)
        · exact absurd h hbefore
        · rw [← hsame, ha] at hb
          cases hb
          rw [chooseOrPrepare_of_guarded hguarded] at hchosen
          obtain ⟨hkept, hpool⟩ := approvable_chooseApp hchosen
          refine ⟨hsame.symm, hpool, ?_⟩
          have haction : chosen.actionId = a.actionId := by
            rw [hkept]
          rw [haction] at hpass
          exact hpass
      · rintro ⟨hsame, hpool, hpass⟩
        rw [hsame, ha] at hb
        cases hb
        rw [chooseOrPrepare_of_guarded hguarded] at hchosen
        obtain ⟨hkept, _⟩ := approvable_chooseApp hchosen
        have haction : chosen.actionId = a.actionId := by
          rw [hkept]
        refine .inr ⟨hsame.symm, ?_⟩
        rw [haction]
        exact hpass

theorem mem_of_chatAction {ref : String} {sender : Sender} {b : Action}
    (h : chatAction db ref sender = some b) : b ∈ db.actions := by
  unfold chatAction at h
  simp only [Option.bind_eq_bind, Option.bind_eq_some_iff] at h
  obtain ⟨_, _, _, _, _, _, _, _, hfind⟩ := h
  exact List.mem_of_find?_eq_some hfind

section

variable (ha : db.action? id = some a)
include ha

theorem approves_core (hguarded : Guarded S a) (id' : String) :
    (approveActionCore S db live id').1.statusOf id = some .approved ↔
      id' = id ∧ Approvable S live a := by
  rw [statusOf_approveActionCore, statusOf_of_action? ha]
  constructor
  · rintro (h | ⟨hsame, b, hb, hpass⟩)
    · exact absurd (Option.some.inj h) hguarded.status
    · rw [← hsame, ha] at hb
      cases hb
      exact ⟨hsame.symm, hpass⟩
  · rintro ⟨hsame, hpass⟩
    refine .inr ⟨hsame.symm, a, ?_, hpass⟩
    rw [hsame]
    exact ha

theorem approves_chat (hguarded : Guarded S a) (u : Callback) :
    (handleChatCallback S db live u).1.statusOf id = some .approved ↔
      Approvable S live a ∧ ChatTap S db a u := by
  have hbefore : db.statusOf id ≠ some .approved := by
    rw [statusOf_of_action? ha]
    intro h
    exact hguarded.status (Option.some.inj h)
  unfold handleChatCallback ChatTap
  cases hdata : dropStart "chatapprove:" u.data with
  | none => simp [hbefore]
  | some ref =>
    cases hallowed : S.chatAllowed u.chat u.sender.id with
    | false => simp [hbefore]
    | true =>
      cases hfound : chatAction db ref u.sender with
      | none => simp [hfound, hbefore]
      | some b =>
        have hb : db.action? b.id = some b := Db.action?_of_mem (mem_of_chatAction hfound)
        have hsame : b.id = id ↔ b = a := action?_eq_iff hb ha
        dsimp only
        rw [if_neg (by simp), hfound]
        dsimp only
        rw [approves_core ha hguarded, hsame]
        simp [hfound, and_comm]

theorem authorised_of_ref {ref chat : String} {sender : Sender} (hsame : unqualify ref = id)
    (hauth : authorised S db ((db.action? (unqualify ref)).bind db.incidentOf) chat sender = true) :
    authorised S db (db.incidentOf a) chat sender = true := by
  rw [hsame, ha, Option.bind_some] at hauth
  exact hauth

theorem approves_button (hguarded : Guarded S a) (u : Callback) :
    (handleCallbackQuery S db live u).1.statusOf id = some .approved ↔
      Approvable S live a ∧ ButtonTap S db a u := by
  have hid : a.id = id := Db.id_of_action? ha
  have hbefore : db.statusOf id ≠ some .approved := by
    rw [statusOf_of_action? ha]
    intro h
    exact hguarded.status (Option.some.inj h)
  unfold handleCallbackQuery ButtonTap
  cases hpress : press u.data with
  | none => simp [hbefore]
  | some p =>
    dsimp only
    cases hauth : authorised S db ((db.action? (unqualify p.ref)).bind db.incidentOf) u.chat
        u.sender with
    | false =>
      rw [if_pos (show (!false) = true from rfl)]
      constructor
      · intro h
        exact absurd h hbefore
      · rintro ⟨_, hallowed, hbutton⟩
        -- the chat was checked for this Action
        have href : unqualify p.ref = id := by
          rcases hbutton with ⟨app, ref, hp, href, _⟩ | ⟨ref, hp, href, _⟩
          · cases hp
            exact href.trans hid
          · cases hp
            exact href.trans hid
        rw [href, ha, Option.bind_some, hallowed] at hauth
        cases hauth
    | true =>
      rw [if_neg (by simp)]
      cases p with
      | verdict ref => simp [hbefore]
      | reject ref =>
        have hkept : (rejectCore db (unqualify ref) .pendingApproval).1.statusOf id ≠
            some .approved := fun h => hbefore (statusOf_rejectCore db _ _ id h)
        simpa [Press.ref] using hkept
      | cancelGrace ref =>
        have hkept : (rejectCore db (unqualify ref) .gracePending).1.statusOf id ≠
            some .approved := fun h => hbefore (statusOf_rejectCore db _ _ id h)
        simpa [Press.ref] using hkept
      | approve ref =>
        show (if ((db.action? (unqualify ref)).bind (typedConfirmation S)).isSome = true
          then _ else _ : Db × Answer).1.statusOf id = _ ↔ _
        by_cases hsame : unqualify ref = id
        · have hallowed := authorised_of_ref ha hsame hauth
          rw [hsame, ha, Option.bind_some]
          by_cases htyped : (typedConfirmation S a).isSome = true
          · have htext := (typedConfirmation_isSome hguarded).mp htyped
            rw [if_pos htyped]
            simp [hbefore, htext]
          · have hblank : strip (confirmation S a) = "" := by
              by_contra htext
              exact htyped ((typedConfirmation_isSome hguarded).mpr htext)
            rw [if_neg htyped, approves_core ha hguarded]
            simp [hallowed, hblank, hsame, hid, Press.ref]
        · have hother : unqualify ref ≠ a.id := fun h => hsame (h.trans hid)
          split
          · simp [hbefore, hother]
          · rw [approves_core ha hguarded]
            simp [hsame, hother, Press.ref]
      | poolApp app ref =>
        apply Iff.trans (approves_poolApp ha hguarded (unqualify ref) app live.evidence)
        constructor
        · rintro ⟨hsame, hpool, hpass⟩
          exact ⟨hpass, authorised_of_ref ha hsame hauth,
            .inl ⟨app, ref, rfl, hsame.trans hid.symm, hpool⟩⟩
        · rintro ⟨hpass, _, hbutton⟩
          rcases hbutton with ⟨app', ref', hp, href, hpool⟩ | ⟨ref', hp, _⟩
          · cases hp
            exact ⟨href.trans hid, hpool, hpass⟩
          · cases hp

theorem approves_callback (hguarded : Guarded S a) (u : Callback) :
    (handle S db live (.callback u)).1.statusOf id = some .approved ↔ Tapped S db live a u := by
  have hbefore : db.statusOf id ≠ some .approved := by
    rw [statusOf_of_action? ha]
    intro h
    exact hguarded.status (Option.some.inj h)
  show (if forLab u = true then _ else if forChat u = true then _ else _ : Db × Answer).1.statusOf
    id = _ ↔ _
  unfold Tapped
  cases hlab : forLab u with
  | true => simp [hbefore]
  | false =>
    cases hchat : forChat u with
    | true =>
      rw [if_neg Bool.false_ne_true, if_pos rfl, approves_chat ha hguarded]
      simp
    | false =>
      rw [if_neg Bool.false_ne_true, if_neg Bool.false_ne_true, approves_button ha hguarded]
      simp

/-! ## Messages and the Dashboard -/

theorem confirmed_of_message (hguarded : Guarded S a) {m : Message}
    (happroved : (handle S db live (.message m)).1.statusOf id = some .approved) :
    Confirmed S db a (.message m) := by
  have hbefore : db.statusOf id ≠ some .approved := by
    rw [statusOf_of_action? ha]
    intro h
    exact hguarded.status (Option.some.inj h)
  unfold handle at happroved
  dsimp only at happroved
  cases hargs : confirmArgs m.text with
  | none =>
    rw [hargs] at happroved
    exact absurd happroved hbefore
  | some args =>
    rw [hargs] at happroved
    dsimp only at happroved
    unfold decideConfirmation at happroved
    split at happroved
    · next ref supplied rest =>
      split_ifs at happroved with hshort
      · exact absurd happroved hbefore
      · split at happroved
        · next b hfound =>
          have hb : b ∈ db.actions := by
            have hmem : b ∈ matches_ S db ref := by
              rw [hfound]
              exact List.mem_singleton_self b
            exact List.mem_of_mem_filter (List.mem_of_mem_take hmem)
          split_ifs at happroved with hauth
          · exact absurd happroved hbefore
          · split at happroved
            · exact absurd happroved hbefore
            · next expected hexpected =>
              split_ifs at happroved with hascii hwrong
              · exact absurd happroved hbefore
              · exact absurd happroved hbefore
              · -- the text is the one of the Action that was found
                have hsame := ((approves_core ha hguarded b.id).mp happroved).1
                have hba : b = a := (action?_eq_iff (Db.action?_of_mem hb) ha).mp hsame
                rw [hba] at hauth hexpected
                refine ⟨by simpa using hauth, ref, supplied, rest, hargs, ?_⟩
                have htext : strip supplied = expected := not_not.mp hwrong
                unfold typedConfirmation at hexpected
                split_ifs at hexpected
                rw [htext]
                exact (Option.some.inj hexpected).symm
        · exact absurd happroved hbefore
    · exact absurd happroved hbefore

end

/-- What a form chooses keeps the status and the expiry. -/
theorem kept_of_prepared {chosen : Action} {incident : Option Incident} {app evidence : String}
    (hchosen : preparePoolChoice S a incident app evidence = .ok chosen) :
    { a with actionId := chosen.actionId, actionParams := chosen.actionParams } = chosen := by
  unfold preparePoolChoice at hchosen
  dsimp only at hchosen
  split_ifs at hchosen
  split at hchosen
  · split_ifs at hchosen
    all_goals
      cases hchosen
      rfl
  · cases hchosen

theorem approves_dashboard (ha : db.action? id = some a) (hguarded : Guarded S a) (r : Approval) :
    (handle S db live (.dashboard r)).1.statusOf id = some .approved ↔
      r.id = id ∧ authorizeActionRoute S db a r.user = true ∧ requireAdmin S db a r = none ∧
        ∃ chosen, chosenByForm S db live a r = .ok chosen ∧ Approvable S live chosen := by
  have hbefore : db.statusOf id ≠ some .approved := by
    rw [statusOf_of_action? ha]
    intro h
    exact hguarded.status (Option.some.inj h)
  show (approveAction S db live r).1.statusOf id = _ ↔ _
  unfold approveAction chosenByForm
  cases hb : db.action? r.id with
  | none =>
    constructor
    · intro h
      exact absurd h hbefore
    · rintro ⟨hsame, _⟩
      rw [hsame, ha] at hb
      cases hb
  | some b =>
    have hsame : r.id = id ↔ b = a := action?_eq_iff hb ha
    dsimp only
    by_cases hba : b = a
    · have hid : r.id = id := hsame.mpr hba
      rw [hba]
      cases hauth : authorizeActionRoute S db a r.user with
      | false => simp [hbefore]
      | true =>
        rw [if_neg (by simp)]
        cases hadmin : requireAdmin S db a r with
        | some answer => simp [hbefore]
        | none =>
          by_cases hpool : r.poolApp = ""
          · simp only [if_pos hpool]
            rw [approves_core ha hguarded]
            simp [hid]
          · simp only [if_neg hpool]
            cases hchosen : preparePoolChoice S a (db.incidentOf a) r.poolApp
                live.evidence with
            | error answer =>
              show db.statusOf id = _ ↔ _
              simp [hbefore]
            | ok chosen =>
              rw [hid, approves_chosen ha id, kept_of_prepared hchosen]
              simp [hbefore]
    · have hid : r.id ≠ id := fun h => hba (hsame.mp h)
      have hother : ∀ chosen, (chosenThenApproved S db live r.id chosen).1.statusOf id ≠
          some .approved := by
        intro chosen h
        cases chosen with
        | error answer => exact hbefore h
        | ok chosen =>
          rw [approves_chosen hb id] at h
          rcases h with hold | ⟨hno, _⟩
          · exact hbefore hold
          · exact hid hno.symm
      constructor
      · intro h
        exfalso
        split at h
        · exact hbefore h
        · split at h
          · exact hbefore h
          · split at h
            · exact hid ((approves_core ha hguarded r.id).mp h).1
            · exact hother _ h
      · rintro ⟨hno, _⟩
        exact absurd hno hid

/-- **The text is asked for, but not by every button.**  An update or a request approves a
lifecycle Action with its confirmation only, from a sender who may decide on it, if and only if
it is no button that chooses an application for an Action that names a pool, no final approval
in the chat, and does not approve an Action whose confirmation is blank. -/
theorem confirmed_iff (S : Site) (db : Db) (live : Live) (q : Request) (id : String) :
    (∀ a, db.action? id = some a → Guarded S a →
      (handle S db live q).1.statusOf id = some .approved → Confirmed S db a q) ↔
    ∀ a, db.action? id = some a → Guarded S a → Asked S db live a q := by
  apply forall_congr'
  intro a
  apply imp_congr_right
  intro ha
  apply imp_congr_right
  intro hguarded
  have hid : a.id = id := Db.id_of_action? ha
  cases q with
  | callback u =>
    rw [approves_callback ha hguarded]
    exact Iff.rfl
  | message m =>
    constructor
    · intro _
      trivial
    · intro _ happroved
      exact confirmed_of_message ha hguarded happroved
  | dashboard r =>
    rw [approves_dashboard ha hguarded]
    constructor
    · rintro hconfirmed ⟨hr, hblank, htext, hauth, hadmin, hchosen⟩
      obtain ⟨_, _, _, hsame⟩ := hconfirmed ⟨hr.trans hid, hauth, hadmin, hchosen⟩
      rw [hblank] at hsame
      exact htext hsame
    · rintro hasked ⟨hr, hauth, hadmin, hchosen⟩
      have hrid : r.id = a.id := hr.trans hid.symm
      have hpassed := hadmin
      unfold requireAdmin at hpassed
      dsimp only at hpassed
      split_ifs at hpassed with hobject htyped hdestructive
      refine ⟨hrid, hauth, ?_, ?_⟩
      · intro hdestroys
        by_contra hno
        exact hdestructive (by simp [hdestroys, hno])
      · by_contra hwrong
        by_cases hblank : strip (confirmation S a) = ""
        · have htext : strip r.confirmText ≠ "" := by
            rw [hblank] at hwrong
            exact hwrong
          exact hasked ⟨hrid, hblank, htext, hauth, hadmin, hchosen⟩
        · apply htyped
          rw [hguarded.lifecycle]
          simp [hblank, hwrong]

/-- An installation with one chat, whose members may decide. -/
def smallSite : Site where
  channels := ["-100"]
  approvalUserIds := ""
  membersAreOperators := false
  policy := ⟨[], [], [], []⟩
  upgradeIds := []
  deployIds := []
  hasCommand := fun _ => true
  mayApprove := fun _ _ => false
  isAdmin := fun _ => false
  chatAllowed := fun _ _ => false
  startsWith := fun _ _ => false
  render := fun _ => "?"

/-- An OSD that is to be replaced, with a pool among the parameters. -/
def replacement : Action where
  id := "a1"
  actionId := "replace_failed_osd"
  status := .pendingApproval
  actionParams := .value (.dict [("osd_id", .int 2), ("pool_name", .str "vms"),
    ("_approval_confirmation", .str "THAY osd.2")])
  incidentId := "i1"
  expiresAt := none

def replacementDb : Db where
  actions := [replacement]
  unique := by decide
  incidents := []
  clusters := []
  messages := []
  overrides := []

def quiet : Live := ⟨0, ⟨false, false, false, false, false⟩, ""⟩

/-- One tap on a button for a pool's application. -/
def poolAppTap : Callback := ⟨"poolapp:rbd:a1", "-100", ⟨"7", false⟩⟩

/-- The tap approves the replacement; no text was typed. -/
theorem replaced_by_tap :
    ¬∀ a, replacementDb.action? "a1" = some a → Guarded smallSite a →
      (handle smallSite replacementDb quiet (.callback poolAppTap)).1.statusOf "a1" =
        some .approved →
      Confirmed smallSite replacementDb a (.callback poolAppTap) := by
  intro h
  exact h replacement rfl ⟨by decide, by decide, by decide⟩ (by decide)

end CephAi.Ports.TypedConfirmation
