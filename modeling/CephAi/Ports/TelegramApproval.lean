import CephAi.Ports.ApprovedExecution
import CephAi.Ports.ManagementCommands

/-!
# Approvals from Telegram and from the Dashboard

`approve_action_core` and what stands before it: the callbacks and the `/xacnhan` message of
`dashboard/telegram_approval_bot.py`, `approve_action` of `dashboard/routes/actions.py`, and the
final approval of `dashboard/telegram_chat.py`.  An update or a request is handled from the
text that came in to the rows it leaves.

## Main results

* `statusOf_approveActionCore` — which Action the core approves.
* `approves_chosen` — which it approves after a choice of an application.
-/

namespace CephAi.Ports.TelegramApproval

open CommandParams
open Models (ActionStatus ActionClassification)
open ApprovedExecution (ActionPolicy)

/-! ## Text -/

def strip (s : String) : String := trim isSpace s

/-- The rest of a text that starts so. -/
def dropStart (start s : String) : Option String :=
  if start.toList.isPrefixOf s.toList then some (String.ofList (s.toList.drop start.length))
  else none

/-- `str.partition` of a character: before it, whether it is there, after it. -/
def partition (sep : Char) (s : String) : String × Bool × String :=
  let head := s.toList.takeWhile (· != sep)
  (String.ofList head, s.toList.contains sep, String.ofList (s.toList.drop (head.length + 1)))

/-- `str.split(maxsplit=n)` at white space. -/
def splitWords : Nat → List Char → List String
  | 0, cs =>
    let rest := cs.dropWhile isSpace
    if rest.isEmpty then [] else [String.ofList rest]
  | n + 1, cs =>
    let rest := cs.dropWhile isSpace
    if rest.isEmpty then []
    else
      String.ofList (rest.takeWhile (!isSpace ·)) ::
        splitWords n (rest.dropWhile (!isSpace ·))

/-- The digits that are not decimal. -/
def otherDigits : List (Nat × Nat) :=
  [(0xb2, 0xb3), (0xb9, 0xb9), (0x1369, 0x1371), (0x19da, 0x19da), (0x2070, 0x2070),
    (0x2074, 0x2079), (0x2080, 0x2089), (0x2460, 0x2468), (0x2474, 0x247c), (0x2488, 0x2490),
    (0x24ea, 0x24ea), (0x24f5, 0x24fd), (0x24ff, 0x24ff), (0x2776, 0x277e), (0x2780, 0x2788),
    (0x278a, 0x2792), (0x10a40, 0x10a43), (0x10e60, 0x10e68), (0x11052, 0x1105a),
    (0x1f100, 0x1f10a)]

/-- `str.isdigit` -/
def isDigits (s : String) : Bool :=
  !s.isEmpty && s.toList.all fun c =>
    isDecimal c || otherDigits.any fun r => r.1 ≤ c.toNat && c.toNat ≤ r.2

/-! ## Rows -/

/-- A column with JSON text: empty, no JSON, or what it parses to. -/
inductive Column
  | missing
  | malformed
  | value (v : Value)

/-- What the approvals read of a row of `actions`. -/
structure Action where
  id : String
  actionId : String
  status : ActionStatus
  actionParams : Column
  incidentId : String
  expiresAt : Option Int

def Action.content (a : Action) : String × Column := (a.actionId, a.actionParams)

/-- What they read of a row of `incidents`. -/
structure Incident where
  id : String
  cephCode : String
  clusterId : Option String

/-- A row of `clusters`; `channel` is the chat of `_cluster_channel`. -/
structure Cluster where
  id : String
  isDefault : Bool
  channel : Option String

/-- A row of `chat_messages`. -/
structure ChatMessage where
  id : String
  actor : String
  proposedIncidentId : Option String

/-- The tables; `actions` has a primary key. -/
structure Db where
  actions : List Action
  unique : (actions.map Action.id).Nodup
  incidents : List Incident
  clusters : List Cluster
  messages : List ChatMessage
  overrides : List (String × ActionClassification)

/-- `session.get(Action, id)` -/
def Db.action? (db : Db) (id : String) : Option Action := db.actions.find? (·.id == id)

/-- `session.get(Incident, action.incident_id)` -/
def Db.incidentOf (db : Db) (a : Action) : Option Incident :=
  db.incidents.find? (·.id == a.incidentId)

/-- A row with the columns that a statement sets for this key. -/
def setRow (id : String) (f : Action → Action) (a : Action) : Action :=
  if a.id == id then { f a with id := a.id } else a

theorem setRow_id (id : String) (f : Action → Action) (a : Action) : (setRow id f a).id = a.id := by
  unfold setRow
  split <;> rfl

/-- `UPDATE actions SET ... WHERE id = ...` -/
def Db.setAction (db : Db) (id : String) (f : Action → Action) : Db :=
  { db with
    actions := db.actions.map (setRow id f)
    unique := by
      have hids : (db.actions.map (setRow id f)).map Action.id = db.actions.map Action.id := by
        rw [List.map_map]
        exact List.map_congr_left fun a _ => setRow_id id f a
      rw [hids]
      exact db.unique }

def Db.statusOf (db : Db) (id : String) : Option ActionStatus := (db.action? id).map Action.status

theorem Db.action?_setAction (db : Db) (id : String) (f : Action → Action) (id' : String) :
    (db.setAction id f).action? id' =
      (db.action? id').map fun a => if id' = id then { f a with id := a.id } else a := by
  unfold Db.action? Db.setAction
  dsimp only
  generalize db.actions = rows
  induction rows with
  | nil => rfl
  | cons a rows ih =>
    rw [List.map_cons, List.find?_cons, List.find?_cons, setRow_id]
    cases hsame : a.id == id' with
    | false => exact ih
    | true =>
      have heq : a.id = id' := by simpa using hsame
      unfold setRow
      by_cases hset : id' = id
      · simp [heq, hset]
      · simp [heq, hset]

variable {a : Action} {db : Db} {id : String}

/-- A row is the one under its key. -/
theorem Db.action?_of_mem (ha : a ∈ db.actions) : db.action? a.id = some a := by
  have hunique := db.unique
  unfold Db.action?
  revert ha hunique
  generalize db.actions = rows
  intro ha hunique
  induction rows with
  | nil => cases ha
  | cons b rows ih =>
    rw [List.map_cons, List.nodup_cons] at hunique
    rw [List.find?_cons]
    rcases List.mem_cons.mp ha with hsame | hrest
    · rw [hsame]
      simp
    · have hne : (b.id == a.id) = false := by
        rw [beq_eq_false_iff_ne]
        intro heq
        exact hunique.1 (heq ▸ List.mem_map_of_mem hrest)
      rw [hne]
      exact ih hrest hunique.2

theorem Db.id_of_action? (ha : db.action? id = some a) : a.id = id := by
  have hfound := List.find?_some ha
  simpa using hfound

def Db.defaultCluster (db : Db) : Option String := (db.clusters.find? (·.isDefault)).map Cluster.id

/-! ## Settings and what a call finds -/

/-- The settings, the policy and the accounts. -/
structure Site where
  /-- The chats of `_configured_channels`. -/
  channels : List String
  /-- `telegram_approval_user_ids` -/
  approvalUserIds : String
  /-- `telegram_chat_members_are_operators` -/
  membersAreOperators : Bool
  policy : ActionPolicy
  /-- `CLUSTER_UPGRADE_ACTION_IDS` -/
  upgradeIds : List String
  /-- `VALID_CLUSTER_DEPLOY_ACTION_IDS` -/
  deployIds : List String
  /-- `executor_commands.has_command` -/
  hasCommand : String → Bool
  /-- `require_cluster_capability` of an account and a cluster. -/
  mayApprove : String → Option String → Bool
  /-- `auth.is_admin_user` -/
  isAdmin : String → Bool
  /-- `is_allowed_callback` of a chat and a sender. -/
  chatAllowed : String → String → Bool
  /-- `Action.id.startswith` of the database. -/
  startsWith : String → String → Bool
  /-- `str` of a JSON value that is not a string. -/
  render : Value → String

def Site.text (S : Site) : Value → String
  | .str s => s
  | v => S.render v

/-- What the checks of the core find beside the Action. -/
structure Gates where
  /-- The cluster of the Incident is missing or not active. -/
  clusterInactive : Bool
  upgradePending : Bool
  upgradeRunning : Bool
  /-- `is_node_upgrade_gate_pending` -/
  nodeGatePending : Bool
  lifecycleConflict : Bool

/-- What a call finds: the clock, the checks, and the text that is searched for a pool. -/
structure Live where
  now : Int
  gates : Gates
  evidence : String

/-! ## The core -/

inductive Outcome
  | alreadyHandled
  | acknowledged
  | approved
  | rejected
  | expired
deriving DecidableEq, Repr

/-- What a call ends with. -/
inductive Answer
  | outcome (o : Outcome)
  /-- `ActionConflictError` -/
  | conflict (detail : String)
  /-- `ActionNotFoundError` -/
  | notFound
  /-- The update is not taken up: another format, no right, a text that is asked for. -/
  | refused (detail : String)
  /-- Another exception. -/
  | raised
deriving DecidableEq, Repr

def inactiveText : String :=
  "Cụm của Action đã bị vô hiệu hoá hoặc không còn tồn tại; không thể duyệt hành động."

def upgradeText : String :=
  "Đang có đề xuất/quá trình nâng cấp cụm — tạm khoá duyệt hành động khác " ++
    "cho tới khi nâng cấp xong."

def nodeGateText : String :=
  "Đang có node khác trong quá trình Chuẩn bị/chờ Xác nhận/Node Recovery OS — tạm " ++
    "khoá duyệt hành động khác cho tới khi xong."

def lifecycleText : String :=
  "Đang có lifecycle action khác của cụm chờ duyệt/đã duyệt — không thể duyệt đồng thời."

/-- The checks of `approve_action_core`; nothing when the Action may be approved. -/
def approveCheck (S : Site) (a : Action) (now : Int) (g : Gates) : Option Answer :=
  if a.status ≠ .pendingApproval then some (.outcome .alreadyHandled)
  else if ∃ t ∈ a.expiresAt, t < now then some (.outcome .expired)
  else if g.clusterInactive then some (.conflict inactiveText)
  else if !S.upgradeIds.contains a.actionId && (g.upgradePending || g.upgradeRunning) then
    some (.conflict upgradeText)
  else if g.nodeGatePending then some (.conflict nodeGateText)
  else if S.deployIds.contains a.actionId && g.lifecycleConflict then
    some (.conflict lifecycleText)
  else none

/-- The status that an approval writes; without a command the Action is closed. -/
def approvedStatus (S : Site) (a : Action) : ActionStatus :=
  if S.hasCommand a.actionId then .approved else .executed

def approveActionCore (S : Site) (db : Db) (live : Live) (id : String) : Db × Answer :=
  match db.action? id with
  | none => (db, .notFound)
  | some a =>
    match approveCheck S a live.now live.gates with
    | some answer => (db, answer)
    | none =>
      (db.setAction id fun r => { r with status := approvedStatus S a },
        .outcome (if S.hasCommand a.actionId then .approved else .acknowledged))

/-- `reject_action_core`, and `cancel_grace_action_core` of an Action in its grace period. -/
def rejectCore (db : Db) (id : String) (from_ : ActionStatus) : Db × Answer :=
  match db.action? id with
  | none => (db, .notFound)
  | some a =>
    if a.status ≠ from_ then (db, .outcome .alreadyHandled)
    else (db.setAction id fun r => { r with status := .rejected }, .outcome .rejected)

/-- The core approves this Action. -/
def Approvable (S : Site) (live : Live) (a : Action) : Prop :=
  approveCheck S a live.now live.gates = none ∧ S.hasCommand a.actionId = true

theorem Db.statusOf_setAction (db : Db) (id : String) (f : Action → Action) (id' : String) :
    (db.setAction id f).statusOf id' =
      (db.action? id').map fun a => if id' = id then (f a).status else a.status := by
  unfold Db.statusOf
  rw [Db.action?_setAction, Option.map_map]
  congr 1
  funext a
  show (if id' = id then { f a with id := a.id } else a).status = _
  split <;> rfl

variable {S : Site} {live : Live}

theorem approveActionCore_of_missing (ha : db.action? id = none) :
    approveActionCore S db live id = (db, .notFound) := by
  unfold approveActionCore
  rw [ha]

theorem approveActionCore_of_answer {answer : Answer} (ha : db.action? id = some a)
    (hcheck : approveCheck S a live.now live.gates = some answer) :
    approveActionCore S db live id = (db, answer) := by
  unfold approveActionCore
  rw [ha]
  dsimp only
  rw [hcheck]

theorem approveActionCore_of_pass (ha : db.action? id = some a)
    (hcheck : approveCheck S a live.now live.gates = none) :
    approveActionCore S db live id =
      (db.setAction id fun r => { r with status := approvedStatus S a },
        .outcome (if S.hasCommand a.actionId then .approved else .acknowledged)) := by
  unfold approveActionCore
  rw [ha]
  dsimp only
  rw [hcheck]

theorem statusOf_approveActionCore (S : Site) (db : Db) (live : Live) (id id' : String) :
    (approveActionCore S db live id).1.statusOf id' = some .approved ↔
      db.statusOf id' = some .approved ∨
        (id' = id ∧ ∃ a, db.action? id = some a ∧ Approvable S live a) := by
  cases ha : db.action? id with
  | none =>
    rw [approveActionCore_of_missing ha]
    constructor
    · exact .inl
    · rintro (h | ⟨_, a, hno, _⟩)
      · exact h
      · cases hno
  | some a =>
    cases hcheck : approveCheck S a live.now live.gates with
    | some answer =>
      rw [approveActionCore_of_answer ha hcheck]
      constructor
      · exact .inl
      · rintro (h | ⟨_, b, hb, hpass, _⟩)
        · exact h
        · cases hb
          rw [hcheck] at hpass
          cases hpass
    | none =>
      rw [approveActionCore_of_pass ha hcheck, Db.statusOf_setAction]
      by_cases hid : id' = id
      · -- its own row
        have hopen : a.status = .pendingApproval := by
          by_contra hclosed
          unfold approveCheck at hcheck
          rw [if_pos hclosed] at hcheck
          cases hcheck
        have hbefore : db.statusOf id' ≠ some .approved := by
          unfold Db.statusOf
          rw [hid, ha, Option.map_some, hopen]
          simp
        rw [hid, ha, Option.map_some, if_pos rfl]
        rw [hid] at hbefore
        show some (approvedStatus S a) = _ ↔ _
        unfold approvedStatus
        constructor
        · intro h
          split_ifs at h with hcommand
          · exact .inr ⟨rfl, a, rfl, hcheck, hcommand⟩
          · cases h
        · rintro (h | ⟨_, b, hb, _, hcommand⟩)
          · exact absurd h hbefore
          · cases hb
            rw [if_pos hcommand]
      · simp only [if_neg hid]
        constructor
        · exact .inl
        · rintro (h | ⟨hno, _⟩)
          · exact h
          · exact absurd hno hid

theorem statusOf_rejectCore (db : Db) (id : String) (from_ : ActionStatus) (id' : String)
    (h : (rejectCore db id from_).1.statusOf id' = some .approved) :
    db.statusOf id' = some .approved := by
  unfold rejectCore at h
  cases ha : db.action? id with
  | none =>
    rw [ha] at h
    exact h
  | some a =>
    rw [ha] at h
    dsimp only at h
    split_ifs at h
    · exact h
    · rw [Db.statusOf_setAction] at h
      by_cases hid : id' = id
      · rw [hid, ha, Option.map_some, if_pos rfl] at h
        cases h
      · simp only [if_neg hid] at h
        exact h

/-! ## The choice of an application -/

/-- `json.loads(column or "{}")` -/
def Column.loads : Column → Option Value
  | .missing => some (.dict [])
  | .malformed => none
  | .value v => some v

/-- `params[key] = value` -/
def assign (params : Params) (key : String) (value : Value) : Params :=
  if params.any (·.1 == key) then
    params.map fun entry => if entry.1 == key then (key, value) else entry
  else params ++ [(key, value)]

/-- The choice in a callback, for an Action that is no manual warning. -/
def chooseApp (a : Action) (app : String) : Except Answer Action :=
  match a.actionParams.loads with
  | none => .error (.conflict "Không xác định được tên pool")
  | some (.dict params) =>
    if (get params "pool_name").truthy then
      .ok { a with actionParams := .value (.dict (assign params "app_name" (.str app))) }
    else .error (.conflict "Không xác định được tên pool")
  | some _ => .error .raised

/-- A quoted name, behind `pool` and white space. -/
def quotedName : List Char → Option String
  | cs =>
    if (cs.take 4).map Char.toLower == ['p', 'o', 'o', 'l'] then
      let blank := cs.drop 4
      match blank.takeWhile isSpace, blank.dropWhile isSpace with
      | _ :: _, quote :: rest =>
        let name := rest.takeWhile fun c => c != '\'' && c != '"'
        if (quote == '\'' || quote == '"') && !name.isEmpty && name.length < rest.length then
          some (String.ofList name)
        else none
      | _, _ => none
    else none

def searchPool (evidence : String) : String := (evidence.toList.tails.findSome? quotedName).getD ""

/-- `_prepare_pool_application_choice` of the loaded rows; an `HTTPException` is an answer that is
refused. -/
def preparePoolChoice (S : Site) (a : Action) (incident : Option Incident) (app : String)
    (evidence : String) : Except Answer Action :=
  let app := String.ofList ((strip app).toList.map Char.toLower)
  if !(["rbd", "cephfs", "rgw"].contains app) then
    .error (.refused "Application phải là RBD, CephFS hoặc RGW")
  else if incident.map Incident.cephCode ≠ some "POOL_APP_NOT_ENABLED" then
    .error (.refused "Action này không phải cảnh báo application của pool")
  else if a.status ≠ .pendingApproval then
    .error (.conflict "Action không còn ở trạng thái chờ duyệt")
  else
    match a.actionParams.loads with
    | some (.dict params) =>
      let stored := get params "pool_name"
      let named := if stored.truthy then strip (S.text stored) else ""
      let pool := if named = "" then searchPool evidence else named
      let chosen : Params := [("pool_name", .str pool), ("app_name", .str app)]
      if pool = "" then .error (.refused "Không xác định được tên pool từ cảnh báo")
      else if (ManagementCommands.enablePoolApplicationCommand chosen).isNone then
        .error (.refused "enable_pool_application")
      else .ok { a with
        actionId := "enable_pool_application"
        actionParams := .value (.dict chosen) }
    | _ => .error .raised

/-! ## Who may decide -/

/-- The sender of an update: its id as text, empty when there is none. -/
structure Sender where
  id : String
  isBot : Bool

/-- `_approval_user_ids`; nothing when the setting is malformed. -/
def approvalUserIds (raw : String) : Option (List String) :=
  if strip raw = "" then some []
  else
    let values := (((strip raw).splitOn ",").map strip).filter (· ≠ "")
    if values.isEmpty || values.any (!isDigits ·) then none else some values

def senderMayDecide (S : Site) (sender : Sender) : Bool :=
  if S.membersAreOperators then isDigits sender.id && !sender.isBot
  else
    match approvalUserIds S.approvalUserIds with
    | none => false
    | some [] => true
    | some allowed => allowed.contains sender.id

def channelsForIncident (S : Site) (db : Db) (incident : Option Incident) : List String :=
  match incident.bind Incident.clusterId with
  | none => S.channels
  | some clusterId =>
    if some clusterId = db.defaultCluster then S.channels
    else
      match db.clusters.find? (·.id == clusterId) with
      | none => S.channels
      | some cluster => cluster.channel.toList

/-- The chat is one of the Action's channels, and the sender may decide there. -/
def authorised (S : Site) (db : Db) (incident : Option Incident) (chat : String)
    (sender : Sender) : Bool :=
  (channelsForIncident S db incident).contains chat && senderMayDecide S sender

/-! ## Typed confirmation -/

def clusterLifecycleActionIds : List String :=
  ["deploy_cluster_cephadm", "deploy_cluster_ceph_deploy", "deploy_cluster_rpm_local",
    "delete_cluster_cephadm", "delete_cluster_manual", "convert_cluster_to_cephadm",
    "restore_cluster_from_backup", "remove_cluster_nodes", "finish_remove_cluster_nodes",
    "replace_failed_osd", "finish_replace_osd"]

/-- `str(params.get("_approval_confirmation") or "")` -/
def confirmation (S : Site) (a : Action) : String :=
  match a.actionParams.loads with
  | some (.dict params) =>
    if (get params "_approval_confirmation").truthy then
      S.text (get params "_approval_confirmation")
    else ""
  | _ => ""

def typedConfirmation (S : Site) (a : Action) : Option String :=
  if !clusterLifecycleActionIds.contains a.actionId then none
  else if strip (confirmation S a) = "" then none
  else some (strip (confirmation S a))

/-! ## Callbacks -/

/-- A button, by the prefix of its data. -/
inductive Press
  | verdict (ref : String)
  | poolApp (app ref : String)
  | approve (ref : String)
  | reject (ref : String)
  | cancelGrace (ref : String)

def Press.ref : Press → String
  | .verdict ref | .poolApp _ ref | .approve ref | .reject ref | .cancelGrace ref => ref

def beforeLastColon (s : String) : String :=
  String.ofList ((s.toList.reverse.dropWhile (· != ':')).drop 1).reverse

/-- How `_handle_callback_query` reads the data. -/
def press (data : String) : Option Press :=
  match dropStart "v:" data with
  | some rest =>
    if beforeLastColon rest = "" then none else some (.verdict (beforeLastColon rest))
  | none =>
  match dropStart "poolapp:" data with
  | some remainder =>
    let (app, found, ref) := partition ':' remainder
    if !found || !(["rbd", "cephfs", "rgw"].contains app) then none else some (.poolApp app ref)
  | none =>
  match dropStart "approve:" data with
  | some ref => some (.approve ref)
  | none =>
  match dropStart "reject:" data with
  | some ref => some (.reject ref)
  | none => (dropStart "cancelgrace:" data).map .cancelGrace

/-- `unqualify_reference`; the only source is `local`. -/
def unqualify (ref : String) : String :=
  let (key, found, objectId) := partition ':' (strip ref)
  if found && key == "local" then objectId else strip ref

structure Callback where
  data : String
  chat : String
  sender : Sender

/-- The choice of a callback. -/
def chooseOrPrepare (S : Site) (db : Db) (a : Action) (app evidence : String) :
    Except Answer Action :=
  if a.actionId == "investigate_manually" &&
      (db.incidentOf a).map Incident.cephCode == some "POOL_APP_NOT_ENABLED" then
    preparePoolChoice S a (db.incidentOf a) app evidence
  else chooseApp a app

/-- The choice is committed, then the core is called. -/
def chosenThenApproved (S : Site) (db : Db) (live : Live) (id : String) :
    Except Answer Action → Db × Answer
  | .error answer => (db, answer)
  | .ok chosen =>
    approveActionCore S (db.setAction id fun r => { r with
      actionId := chosen.actionId
      actionParams := chosen.actionParams }) live id

def handleCallbackQuery (S : Site) (db : Db) (live : Live) (u : Callback) : Db × Answer :=
  match press u.data with
  | none => (db, .refused "unrecognized callback_data")
  | some p =>
    let id := unqualify p.ref
    if !authorised S db ((db.action? id).bind db.incidentOf) u.chat u.sender then
      (db, .refused "Không có quyền")
    else
      match p with
      | .verdict _ => (db, .refused "verdict")
      | .approve _ =>
        if ((db.action? id).bind (typedConfirmation S)).isSome then
          (db, .refused "Cần gõ xác nhận")
        else approveActionCore S db live id
      | .poolApp app _ =>
        match db.action? id with
        | none => (db, .notFound)
        | some a => chosenThenApproved S db live id (chooseOrPrepare S db a app live.evidence)
      | .reject _ => rejectCore db id .pendingApproval
      | .cancelGrace _ => rejectCore db id .gracePending

def chatActor (sender : Sender) : String :=
  String.ofList (("telegram-chat:" ++ strip sender.id).toList.take 32)

/-- The Action that a final approval in the chat is for. -/
def chatAction (db : Db) (ref : String) (sender : Sender) : Option Action := do
  let row ← db.messages.find? (·.id == unqualify ref)
  guard (row.actor = chatActor sender)
  let incident ← row.proposedIncidentId
  guard (incident ≠ "")
  db.actions.find? (·.incidentId == incident)

def handleChatCallback (S : Site) (db : Db) (live : Live) (u : Callback) : Db × Answer :=
  match dropStart "chatapprove:" u.data with
  | none => (db, .refused "chat")
  | some ref =>
    if !S.chatAllowed u.chat u.sender.id then (db, .refused "chat")
    else
      match chatAction db ref u.sender with
      | none => (db, .refused "Không tìm thấy yêu cầu cần duyệt.")
      | some a => approveActionCore S db live a.id

/-! ## The typed message -/

structure Message where
  text : String
  chat : String
  sender : Sender

/-- The arguments of `/xacnhan`; nothing when the message is not that command. -/
def confirmArgs (text : String) : Option (List String) :=
  match splitWords 2 (strip text).toList with
  | [] => none
  | head :: args =>
    if (partition '@' head).1.toList.map Char.toLower = "/xacnhan".toList then some args else none

/-- `str.isascii` -/
def isAscii (s : String) : Bool := s.toList.all fun c => c.toNat < 128

/-- The pending Actions that a reference finds. -/
def matches_ (S : Site) (db : Db) (ref : String) : List Action :=
  (db.actions.filter fun a =>
    a.status == .pendingApproval && S.startsWith a.id ref).take 2

/-- `_decide_confirmation`; `compare_digest` takes no text that is not ASCII. -/
def decideConfirmation (S : Site) (db : Db) (live : Live) (m : Message) :
    List String → Db × Answer
  | ref :: supplied :: _ =>
    if ref.length < 8 then (db, .refused "Cú pháp")
    else
      match matches_ S db ref with
      | [a] =>
        if !authorised S db (db.incidentOf a) m.chat m.sender then
          (db, .refused "Không có quyền duyệt đề xuất này.")
        else
          match typedConfirmation S a with
          | none => (db, .refused "Đề xuất này không cần gõ xác nhận; hãy dùng nút Duyệt.")
          | some expected =>
            if !(isAscii (strip supplied) && isAscii expected) then (db, .raised)
            else if strip supplied ≠ expected then (db, .refused "Sai chuỗi xác nhận.")
            else approveActionCore S db live a.id
      | _ => (db, .refused "Không tìm thấy đúng một đề xuất đang chờ duyệt với mã này.")
  | _ => (db, .refused "Cú pháp")

/-! ## The Dashboard -/

/-- The form of an approval. -/
structure Approval where
  id : String
  user : String
  poolApp : String
  confirmText : String

/-- The Action is destructive for the Dashboard. -/
def isDestructive (S : Site) (db : Db) (a : Action) : Bool :=
  ["rbd_trash_remove", "rbd_trash_purge_all"].contains a.actionId ||
    S.policy.classifyAction db.overrides a.actionId == .destructive

def authorizeActionRoute (S : Site) (db : Db) (a : Action) (user : String) : Bool :=
  S.mayApprove user (((db.incidentOf a).bind Incident.clusterId).or db.defaultCluster)

/-- `_require_admin_for_destructive_approval`; nothing when it lets the approval pass. -/
def requireAdmin (S : Site) (db : Db) (a : Action) (r : Approval) : Option Answer :=
  let lifecycle := clusterLifecycleActionIds.contains a.actionId
  let isObject := match a.actionParams.loads with
    | some (.dict _) | none => true
    | some _ => false
  if lifecycle && !isObject then some .raised
  else if lifecycle && strip (confirmation S a) ≠ "" &&
      strip r.confirmText ≠ strip (confirmation S a) then
    some (.refused "Phải nhập chính xác để xác nhận thao tác trên cụm.")
  else if isDestructive S db a && !S.isAdmin r.user then
    some (.refused "Chỉ tài khoản admin mới được phép duyệt thao tác xoá dữ liệu")
  else none

def approveAction (S : Site) (db : Db) (live : Live) (r : Approval) : Db × Answer :=
  match db.action? r.id with
  | none => (db, .notFound)
  | some a =>
    if !authorizeActionRoute S db a r.user then (db, .refused "403")
    else
      match requireAdmin S db a r with
      | some answer => (db, answer)
      | none =>
        if r.poolApp = "" then approveActionCore S db live r.id
        else
          chosenThenApproved S db live r.id
            (preparePoolChoice S a (db.incidentOf a) r.poolApp live.evidence)

/-! ## Updates and requests -/

/-- What comes in. -/
inductive Request
  | callback (u : Callback)
  | message (m : Message)
  | dashboard (r : Approval)

/-- `CALLBACK_PREFIXES` of the Failure Lab. -/
def labStarts : List String := ["fllab:ok:", "fllab:skip:"]

/-- `CALLBACK_PREFIXES` of the chat. -/
def chatStarts : List String :=
  ["chatconfirm:", "chatapprove:", "dualstop:", "quotalogin:", "aimode:", "clusterselect:",
    "relapprove:", "relskip:", "flrepro:ok:", "flrepro:skip:"]

/-- The listener's dispatch of an update, and the route of the Dashboard.  A message that is
no confirmation goes to the chat, which approves only Actions that it has just created. -/
def handle (S : Site) (db : Db) (live : Live) : Request → Db × Answer
  | .callback u =>
    if labStarts.any fun start => (dropStart start u.data).isSome then (db, .refused "lab")
    else if chatStarts.any fun start => (dropStart start u.data).isSome then
      handleChatCallback S db live u
    else handleCallbackQuery S db live u
  | .message m =>
    match confirmArgs m.text with
    | none => (db, .refused "chat")
    | some args => decideConfirmation S db live m args
  | .dashboard r => approveAction S db live r

/-! ## What an update or a request approves -/

variable {S : Site} {db : Db} {live : Live}

theorem statusOf_of_action? (ha : db.action? id = some a) : db.statusOf id = some a.status := by
  unfold Db.statusOf
  rw [ha]
  rfl

theorem approves_chosen {chosen : Action} (ha : db.action? id = some a) (id' : String) :
    (chosenThenApproved S db live id (.ok chosen)).1.statusOf id' = some .approved ↔
      db.statusOf id' = some .approved ∨ (id' = id ∧ Approvable S live { a with
        actionId := chosen.actionId
        actionParams := chosen.actionParams }) := by
  have hid : a.id = id := Db.id_of_action? ha
  unfold chosenThenApproved
  rw [statusOf_approveActionCore]
  apply or_congr
  · rw [Db.statusOf_setAction]
    unfold Db.statusOf
    simp
  · apply and_congr_right
    intro hsame
    rw [Db.action?_setAction, ha, Option.map_some, if_pos rfl]
    constructor
    · rintro ⟨b, hb, hpass⟩
      cases hb
      exact hpass
    · intro hpass
      exact ⟨_, rfl, hpass⟩

/-- The choice of a callback leaves what the core checks. -/
theorem approvable_chooseApp {chosen : Action} {app : String}
    (hchosen : chooseApp a app = .ok chosen) :
    chosen = { a with actionParams := chosen.actionParams } ∧
      ∃ params, a.actionParams.loads = some (.dict params) ∧
        (get params "pool_name").truthy = true := by
  unfold chooseApp at hchosen
  split at hchosen
  · cases hchosen
  · next params hparams =>
    split_ifs at hchosen with hpool
    cases hchosen
    exact ⟨rfl, params, hparams, hpool⟩
  · cases hchosen

def HasPool (a : Action) : Prop :=
  ∃ params, a.actionParams.loads = some (.dict params) ∧ (get params "pool_name").truthy = true

theorem chooseApp_of_hasPool (hpool : HasPool a) (app : String) :
    ∃ chosen, chooseApp a app = .ok chosen := by
  obtain ⟨params, hparams, hname⟩ := hpool
  unfold chooseApp
  rw [hparams]
  dsimp only
  rw [if_pos hname]
  exact ⟨_, rfl⟩

theorem action?_eq_iff {id' : String} {b : Action} (ha : db.action? id = some a)
    (hb : db.action? id' = some b) : id = id' ↔ a = b := by
  constructor
  · intro h
    rw [h, hb] at ha
    exact (Option.some.inj ha).symm
  · intro h
    rw [← Db.id_of_action? ha, ← Db.id_of_action? hb, h]

end CephAi.Ports.TelegramApproval
