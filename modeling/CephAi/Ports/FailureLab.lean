import CephAi.Verified.Table
import CephAi.Verified.Runs
import CephAi.Verified.Latest

/-!
# Fault runs of the Failure Lab

`run_fault` and `run_proposal` of `shared/failure_lab_fault.py`, any number of them on one
state directory, each step of a call by itself: the lock, the gates, the record of the
window, `injected.apply()`, what watches the fault, each attempt of `_undo`, the second
record, each reading of `_recover`, the release of the lock and the HALT file.

A call can be cut short at every step, by an exception (`Label.raise`) or by the end of its
process (`Label.kill`).  Times are in microseconds; one clock stands for `utc_now` and for
`time.monotonic`.  `History` is for the statements.

## Main results

* `locked_step` — the calls inside `_exclusive` are under the lock, whatever happens.
-/

namespace CephAi.Ports.FailureLab

open Verified Verified.Runs

/-- `timedelta(seconds=n)` -/
def seconds (n : Nat) : Nat := n * 1000000

def holdGrace : Nat := seconds 900

def keepRuns : Nat := 50

/-! ## The catalog -/

/-- The keys of `PREPARE`. -/
inductive FaultKind
  | stopOsd
  | nearfullRatio
deriving DecidableEq, Repr

def FaultKind.ofName : String → Option FaultKind
  | "stop_osd" => some .stopOsd
  | "nearfull_ratio" => some .nearfullRatio
  | _ => none

/-- The range of the time limits. -/
def InRange (maxSeconds recoverySeconds : Int) : Prop :=
  (60 ≤ maxSeconds ∧ maxSeconds ≤ 540) ∧ 60 ≤ recoverySeconds ∧ recoverySeconds ≤ 1800

instance (maxSeconds recoverySeconds : Int) :
    Decidable (InRange maxSeconds recoverySeconds) := by
  unfold InRange
  infer_instance

/-- `FaultScenario`, as `_scenario` admits it. -/
structure FaultScenario where
  id : String
  kind : FaultKind
  expectFrom : String
  expectedHealthCodes : List String
  maxSeconds : Nat
  recoverySeconds : Nat
  detectionTimeoutSeconds : Int
  inRange : InRange maxSeconds recoverySeconds
deriving DecidableEq, Repr

/-- An entry of the catalog. -/
structure RawFault where
  id : String
  kind : Option String
  expectFrom : String
  expectedHealthCodes : List String
  maxSeconds : Option Int
  recoverySeconds : Option Int
  detectionTimeoutSeconds : Option Int
deriving DecidableEq, Repr

def scenario (raw : RawFault) : Except String FaultScenario :=
  match raw.kind.bind FaultKind.ofName with
  | none => .error "fault catalog: unknown kind"
  | some kind =>
    let maxSeconds := raw.maxSeconds.getD 300
    let recoverySeconds := raw.recoverySeconds.getD 600
    if h : InRange maxSeconds recoverySeconds then
      .ok { id := raw.id, kind := kind, expectFrom := raw.expectFrom
            expectedHealthCodes := raw.expectedHealthCodes
            maxSeconds := maxSeconds.toNat
            recoverySeconds := recoverySeconds.toNat
            detectionTimeoutSeconds := raw.detectionTimeoutSeconds.getD 180
            inRange := by
              unfold InRange at h ⊢
              omega }
    else .error (raw.id ++ " time limits are out of range")

/-! ## Proposals -/

/-- The statuses of a proposal. -/
inductive ProposalStatus
  | proposed
  | approved
  | skipped
  | running
  | done
  | failed
deriving DecidableEq, Repr

/-- A reproduction proposal, as `shared/reproduction_approval.py` stores it. -/
structure Proposal where
  key : Nat
  id : String
  status : ProposalStatus
  /-- `source == "telegram_failure_lab"` -/
  telegram : Bool
  family : String
  faultKind : Option FaultKind
  maxSeconds : Option Int
  expectedHealthCodes : List String
  clusterId : String
  fsid : String
  channelId : String
deriving DecidableEq, Repr

instance : Table.Keyed Proposal := ⟨Proposal.key⟩

/-- How long the approved proposal holds the fault. -/
def heldSeconds (base : FaultScenario) (maxSeconds : Option Int) : Nat :=
  let asked := match maxSeconds with
    | none | some 0 => (base.maxSeconds : Int)
    | some n => n
  (max 60 (min (base.maxSeconds : Int) asked)).toNat

theorem inRange_heldSeconds (base : FaultScenario) (maxSeconds : Option Int) :
    InRange (heldSeconds base maxSeconds) base.recoverySeconds := by
  have hbase := base.inRange
  unfold InRange at hbase ⊢
  unfold heldSeconds
  dsimp only
  omega

/-- The fault of the catalog that `scenario_from_proposal` narrows. -/
def baseFault (faults : List FaultScenario) (r : Proposal) : Option FaultScenario :=
  if r.telegram then
    (faults.find? fun s => s.id == r.family).filter fun s => some s.kind == r.faultKind
  else faults.find? fun s => some s.kind == r.faultKind

def scenarioFromProposal (faults : List FaultScenario) (r : Proposal) :
    Except String FaultScenario :=
  match baseFault faults r with
  | none => .error ("proposal " ++ r.id ++ ": no reviewed fault of this kind")
  | some base =>
    .ok { base with
      id := r.id
      maxSeconds := heldSeconds base r.maxSeconds
      expectedHealthCodes := base.expectedHealthCodes ++ r.expectedHealthCodes
      inRange := inRange_heldSeconds base r.maxSeconds }

/-! ## Windows -/

/-- An entry of `fault-runs.json`. -/
structure Run where
  runId : Nat
  clusterId : String
  isDefault : Bool
  scenarioId : String
  target : String
  startedAt : Nat
  deadline : Nat
  endedAt : Option Nat
deriving DecidableEq, Repr

def saveRun (runs : List Run) (record : Run) : List Run :=
  latest keepRuns ((runs.filter fun r => r.runId != record.runId) ++ [record])

/-- The Incidents of the run's cluster; one without a cluster belongs to the default one. -/
def onCluster (run : Run) (clusterId : Option String) : Bool :=
  some run.clusterId == clusterId || (clusterId.isNone && run.isDefault)

/-- The end of the window, the grace apart. -/
def Run.until (run : Run) : Nat := run.endedAt.getD run.deadline

def covers (run : Run) (clusterId : Option String) (detectedAt : Nat) : Bool :=
  onCluster run clusterId && run.startedAt ≤ detectedAt && detectedAt ≤ run.until + holdGrace

def holdingRun (runs : List Run) (clusterId : Option String) :
    Option Nat → Option Run
  | none => none
  | some detectedAt => runs.reverse.find? fun run => covers run clusterId detectedAt

/-! ## Gates -/

/-- `LabConfig`, with the two ends of `window` in minutes of the day. -/
structure LabConfig where
  clusterId : String
  fsid : String
  faultEnabled : Bool
  windowStart : Nat
  windowEnd : Nat
  telegramChannelId : String
deriving DecidableEq, Repr

/-- What the gates read of a row of `clusters`. -/
structure Cluster where
  isDefault : Bool
  autonomyEnvironment : String
deriving DecidableEq, Repr

/-- `in_window`, in the time of `LOCAL_TZ`. -/
def inWindow (now : Nat) (config : LabConfig) : Bool :=
  let local_ := (now / seconds 60 + 7 * 60) % (24 * 60)
  if config.windowStart ≤ config.windowEnd then
    config.windowStart ≤ local_ && local_ < config.windowEnd
  else config.windowStart ≤ local_ || local_ < config.windowEnd

/-- A call of `_execute`. -/
structure Call where
  clusterId : String
  scenario : FaultScenario
  scheduled : Bool
  /-- The claimed proposal of `run_proposal`. -/
  proposal : Option Nat
deriving DecidableEq, Repr

def gatedCluster (config : LabConfig) (cluster : Option Cluster) (halt : Option String)
    (c : Call) (now : Nat) : Except String Cluster :=
  if !config.faultEnabled then .error "fault injection is off"
  else match halt with
  | some text => .error ("halted: " ++ text)
  | none =>
    if config.fsid == "" then .error "no staging fsid is pinned"
    else if config.clusterId != "" && c.clusterId != config.clusterId then
      .error "this is not the cluster chosen as staging in Settings"
    else if c.scheduled && !inWindow now config then
      .error "outside the Failure Lab window"
    else match cluster with
    | none => .error "the cluster is not marked autonomy_environment=lab"
    | some cluster =>
      if cluster.autonomyEnvironment != "lab" then
        .error "the cluster is not marked autonomy_environment=lab"
      else .ok cluster

/-- What `_check_cluster_state` reads. -/
structure Reading where
  liveFsid : String
  pinnedFsid : String
  replayCode : String
  /-- The codes of the open real Incidents. -/
  busy : List String
  healthCodes : List String
deriving DecidableEq, Repr

def checkClusterState (s : FaultScenario) (r : Reading) : Except String (List String) :=
  if r.liveFsid != r.pinnedFsid then
    .error ("live fsid " ++ r.liveFsid ++ " is not the pinned lab fsid")
  else if r.busy.contains r.replayCode then
    .error ("a real " ++ r.replayCode ++ " incident is already open")
  else if r.healthCodes.any s.expectedHealthCodes.contains then
    .error ("already raised: " ++
      ", ".intercalate ((r.healthCodes.filter s.expectedHealthCodes.contains).mergeSort
        fun a b => decide (a ≤ b)))
  else .ok r.healthCodes

/-! ## Calls -/

/-- A run whose fault is prepared. -/
structure Job where
  call : Call
  run : Run
  baseline : List String
deriving DecidableEq, Repr

/-- Where a call is. -/
inductive Phase
  /-- Before `_exclusive`. -/
  | entering (c : Call)
  /-- The lock is held, the gates not asked. -/
  | gating (c : Call)
  | checking (c : Call) (now : Nat) (isDefault : Bool)
  | preparing (c : Call) (now : Nat) (isDefault : Bool) (baseline : List String)
  /-- The fault is prepared, its window not recorded. -/
  | saving (j : Job)
  /-- The window is recorded. -/
  | saved (j : Job)
  /-- `injected.apply()` has started. -/
  | applying (j : Job)
  | observing (j : Job)
  /-- An attempt of `_undo` is next. -/
  | undoing (j : Job) (completed : Bool) (attempt : Nat)
  /-- `_undo` has returned, `ended_at` is not recorded. -/
  | undone (j : Job) (completed ok : Bool)
  /-- `ended_at` is recorded, the HALT of an interrupted run not written. -/
  | interrupted (j : Job) (ok : Bool)
  /-- The HALT is written and the exception goes on. -/
  | halted (j : Job)
  | recovering (j : Job) (ok : Bool) (deadline : Nat)
  /-- `_recover` has returned. -/
  | scored (j : Job) (ok recovered : Bool)
  /-- The lock is released, the result not looked at. -/
  | released (j : Job) (ok recovered : Bool)
  /-- The audit row, the label and the report are next. -/
  | reporting (j : Job)
  | finished
deriving DecidableEq, Repr

def undoAttempts : Nat := 3

def afterUndo (j : Job) (completed : Bool) (attempt : Nat) (succeeded : Bool) : Phase :=
  if succeeded then .undone j completed true
  else if attempt < undoAttempts then .undoing j completed (attempt + 1)
  else .undone j completed false

/-- One turn of the loop of `_recover`; `reading` is whether the fault is restored and the
health codes, `none` when reading them raised. -/
def afterPoll (j : Job) (ok : Bool) (deadline now : Nat)
    (reading : Option (Bool × List String)) : Phase :=
  let back := match reading with
    | none => false
    | some (restored, codes) => restored && codes.all j.baseline.contains
  if back then .scored j ok true
  else if deadline ≤ now then .scored j ok false
  else .recovering j ok deadline

/-- `_halt` of a run that did not complete. -/
def interruptedReason (j : Job) (ok : Bool) : String :=
  j.run.scenarioId ++ " on " ++ j.run.target ++ " was interrupted; the fault was " ++
    (if ok then "undone" else "NOT undone")

/-- `_halt` of a run after which the cluster is not back. -/
def notBackReason (j : Job) : String :=
  j.run.scenarioId ++ " on " ++ j.run.target ++
    ": cụm chưa về trạng thái trước lượt chạy"

/-! ## The state directory and its calls -/

/-- A run: its record, when its fault was applied, and when `_recover` ended or the call was
cut short. -/
structure Entry where
  run : Run
  appliedAt : Option Nat
  overAt : Option Nat
deriving DecidableEq, Repr

/-- What has happened. -/
structure History where
  /-- The runs with a record, the oldest first. -/
  entries : List Entry
  /-- The runs that have started `injected.apply()`. -/
  applied : List Nat
  /-- Those that confirmed their undo and the recovery. -/
  confirmed : List Nat
  /-- Those that the present HALT file was written for. -/
  haltedFor : List Nat
  /-- Those whose HALT file an operator has removed. -/
  cleared : List Nat
deriving DecidableEq, Repr

/-- The state. -/
structure World where
  now : Nat
  /-- `fault-runs.json` -/
  runs : List Run
  /-- Which call holds the locks of the directory. -/
  lock : Option Nat
  /-- The HALT file. -/
  halt : Option String
  proposals : List Proposal
  calls : List Phase
  /-- The next run id. -/
  nextRun : Nat
  hist : History
deriving DecidableEq, Repr

/-- A step; the first argument is the call. -/
inductive Label
  | runFault (clusterId scenarioId : String) (scheduled : Bool)
  | runProposal (clusterId : String) (proposal : Nat) (scheduled : Bool) (config : LabConfig)
  | lock (p : Nat)
  | gate (p : Nat) (config : LabConfig) (cluster : Option Cluster)
  | check (p : Nat) (r : Reading)
  /-- `PREPARE[scenario.kind]` picks a target, or refuses. -/
  | prepare (p : Nat) (target : Except String String)
  | save (p : Nat)
  | apply (p : Nat)
  | applied (p : Nat)
  | observed (p : Nat)
  | undo (p : Nat) (succeeded : Bool)
  | saveEnded (p : Nat)
  | haltInterrupted (p : Nat)
  | poll (p : Nat) (reading : Option (Bool × List String))
  | release (p : Nat)
  | halt (p : Nat)
  | report (p : Nat)
  /-- An exception, `FaultRefused` or another one. -/
  | raise (p : Nat) (refused : Bool)
  /-- The process ends. -/
  | kill (p : Nat)
  /-- An operator removes the HALT file. -/
  | removeHalt
  | tick (n : Nat)
  /-- Others write the proposals. -/
  | writeProposals (proposals : List Proposal)

/-- The call goes on. -/
def World.goTo (w : World) (p : Nat) (ph : Phase) : World :=
  { w with calls := w.calls.set p ph }

/-- Leaving `_exclusive`. -/
def World.unlock (w : World) (p : Nat) : World :=
  { w with lock := if w.lock = some p then none else w.lock }

/-- `approvals.update` of a claimed proposal. -/
def World.setProposal (w : World) (c : Call) (status : ProposalStatus) : World :=
  match c.proposal with
  | none => w
  | some key =>
    { w with proposals := Table.modify w.proposals key fun r => { r with status := status } }

/-- The call is over. -/
def World.leave (w : World) (p : Nat) : World := (w.unlock p).goTo p .finished

def World.save (w : World) (run : Run) : World :=
  { w with runs := saveRun w.runs run }

/-- The first `_save_run` of a run. -/
def World.record (w : World) (run : Run) : World :=
  let w := w.save run
  { w with hist := { w.hist with entries := w.hist.entries ++ [⟨run, none, none⟩] } }

def World.writeHalt (w : World) (run : Run) (reason : String) : World :=
  { w with
    halt := some reason
    hist := { w.hist with haltedFor := run.runId :: w.hist.haltedFor } }

/-- Of the entry of this run. -/
def World.editEntry (w : World) (runId : Nat) (f : Entry → Entry) : World :=
  { w with hist := { w.hist with
      entries := w.hist.entries.map fun e => if e.run.runId = runId then f e else e } }

/-- `_recover` has ended, or never will. -/
def World.close (w : World) (run : Run) : World :=
  w.editEntry run.runId fun e => { e with overAt := e.overAt.or (some w.now) }

/-- `_recover` has returned; the run is confirmed when the fault is undone and the cluster
is back. -/
def World.recovered (w : World) (run : Run) (ok recovered : Bool) : World :=
  let w := w.close run
  { w with hist := { w.hist with
      confirmed := if ok && recovered then run.runId :: w.hist.confirmed
        else w.hist.confirmed } }

/-- The run of a call whose fault may be on the cluster. -/
def Phase.spanning : Phase → Option Run
  | .applying j | .observing j | .undoing j _ _ | .undone j _ _ | .interrupted j _
  | .halted j | .recovering j _ _ => some j.run
  | _ => none

def Phase.call : Phase → Option Call
  | .entering c | .gating c | .checking c _ _ | .preparing c _ _ _ => some c
  | .saving j | .saved j | .applying j | .observing j | .undoing j _ _ | .undone j _ _
  | .interrupted j _ | .halted j | .recovering j _ _ | .scored j _ _ | .released j _ _
  | .reporting j => some j.call
  | .finished => none

/-- The run of the call is cut short. -/
def World.cut (w : World) (ph : Phase) : World :=
  match ph.spanning with
  | none => w
  | some run => w.close run

/-- `run_proposal` before `_execute`: the scenario of an approved proposal. -/
def proposalScenario (faults : List FaultScenario) (clusterId : String) (r : Proposal)
    (config : LabConfig) : Except String FaultScenario :=
  if r.status != .approved then .error ("proposal " ++ r.id ++ " is not APPROVED")
  else if r.telegram && (!config.faultEnabled || config.clusterId == "" || config.fsid == "" ||
      config.clusterId != clusterId || r.clusterId != clusterId || r.fsid != config.fsid ||
      r.channelId != config.telegramChannelId) then
    .error "Telegram lab proposal no longer matches the enabled pinned staging cluster"
  else scenarioFromProposal faults r

/-- The record of a prepared run. -/
def newRun (runId : Nat) (c : Call) (now : Nat) (isDefault : Bool) (target : String) : Run where
  runId := runId
  clusterId := c.clusterId
  isDefault := isDefault
  scenarioId := c.scenario.id
  target := target
  startedAt := now
  deadline := now + seconds (c.scenario.maxSeconds + c.scenario.recoverySeconds)
  endedAt := none

/-- The refusal of a call. -/
def World.refuse (w : World) (p : Nat) (c : Call) : World :=
  (w.leave p).setProposal c .approved

/-- An exception in a call: `injected.apply()` and `_observe` are inside the `try` whose
`finally` undoes the fault, everything else leaves the call. -/
def World.raise (w : World) (p : Nat) (ph : Phase) (refused : Bool) : Option World :=
  match ph with
  | .finished => none
  | .applying j | .observing j => some (w.goTo p (.undoing j false 1))
  | ph =>
    let w := (w.cut ph).leave p
    match ph.call with
    | none => some w
    | some c => some (w.setProposal c (if refused then .approved else .failed))

/-- One step; `none` when it is not the call's turn. -/
def step (faults : List FaultScenario) (w : World) : Label → Option World
  | .runFault clusterId scenarioId scheduled =>
    match faults.find? fun s => s.id == scenarioId with
    | none => none
    | some s => some { w with calls := w.calls ++ [.entering ⟨clusterId, s, scheduled, none⟩] }
  | .runProposal clusterId key scheduled config =>
    match Table.get w.proposals key with
    | none => none
    | some r =>
      match proposalScenario faults clusterId r config with
      | .error _ => none
      | .ok s =>
        let c : Call := ⟨clusterId, s, scheduled, some key⟩
        let w' : World := { w with calls := w.calls ++ [.entering c] }
        some (w'.setProposal c .running)
  | .lock p =>
    match w.calls[p]? with
    | some (.entering c) =>
      if w.lock = none then some ({ w with lock := some p }.goTo p (.gating c))
      else some (w.refuse p c)
    | _ => none
  | .gate p config cluster =>
    match w.calls[p]? with
    | some (.gating c) =>
      match gatedCluster config cluster w.halt c w.now with
      | .error _ => some (w.refuse p c)
      | .ok cluster => some (w.goTo p (.checking c w.now cluster.isDefault))
    | _ => none
  | .check p r =>
    match w.calls[p]? with
    | some (.checking c now isDefault) =>
      match checkClusterState c.scenario r with
      | .error _ => some (w.refuse p c)
      | .ok baseline => some (w.goTo p (.preparing c now isDefault baseline))
    | _ => none
  | .prepare p target =>
    match w.calls[p]? with
    | some (.preparing c now isDefault baseline) =>
      match target with
      | .error _ => some (w.refuse p c)
      | .ok target =>
        some ({ w with nextRun := w.nextRun + 1 }.goTo p
          (.saving ⟨c, newRun w.nextRun c now isDefault target, baseline⟩))
    | _ => none
  | .save p =>
    match w.calls[p]? with
    | some (.saving j) =>
      some ((w.record j.run).goTo p (.saved j))
    | _ => none
  | .apply p =>
    match w.calls[p]? with
    | some (.saved j) =>
      let w' := w.editEntry j.run.runId fun e => { e with appliedAt := some w.now }
      some ({ w' with hist := { w'.hist with
          applied := j.run.runId :: w.hist.applied } }.goTo p (.applying j))
    | _ => none
  | .applied p =>
    match w.calls[p]? with
    | some (.applying j) => some (w.goTo p (.observing j))
    | _ => none
  | .observed p =>
    match w.calls[p]? with
    | some (.observing j) => some (w.goTo p (.undoing j true 1))
    | _ => none
  | .undo p succeeded =>
    match w.calls[p]? with
    | some (.undoing j completed attempt) =>
      some (w.goTo p (afterUndo j completed attempt succeeded))
    | _ => none
  | .saveEnded p =>
    match w.calls[p]? with
    | some (.undone j completed ok) =>
      let run := { j.run with endedAt := some w.now }
      some (((w.save run).editEntry run.runId fun e => { e with run := run }).goTo p
        (if completed then
          .recovering { j with run := run } ok (w.now + seconds j.call.scenario.recoverySeconds)
        else .interrupted { j with run := run } ok))
    | _ => none
  | .haltInterrupted p =>
    match w.calls[p]? with
    | some (.interrupted j ok) =>
      some ((w.writeHalt j.run (interruptedReason j ok)).goTo p (.halted j))
    | _ => none
  | .poll p reading =>
    match w.calls[p]? with
    | some (.recovering j ok deadline) =>
      match afterPoll j ok deadline w.now reading with
      | .scored j ok recovered =>
        some ((w.recovered j.run ok recovered).goTo p (.scored j ok recovered))
      | ph => some (w.goTo p ph)
    | _ => none
  | .release p =>
    match w.calls[p]? with
    | some (.scored j ok recovered) => some ((w.unlock p).goTo p (.released j ok recovered))
    | _ => none
  | .halt p =>
    match w.calls[p]? with
    | some (.released j ok recovered) =>
      if recovered && ok then some (w.goTo p (.reporting j))
      else some ((w.writeHalt j.run (notBackReason j)).goTo p (.reporting j))
    | _ => none
  | .report p =>
    match w.calls[p]? with
    | some (.reporting j) => some ((w.goTo p .finished).setProposal j.call .done)
    | _ => none
  | .raise p refused =>
    match w.calls[p]? with
    | none => none
    | some ph => w.raise p ph refused
  | .kill p =>
    match w.calls[p]? with
    | none | some .finished => none
    | some ph => some ((w.cut ph).leave p)
  | .removeHalt =>
    match w.halt with
    | none => none
    | some _ =>
      some { w with
        halt := none
        hist := { w.hist with
          haltedFor := []
          cleared := w.hist.haltedFor ++ w.hist.cleared } }
  | .tick n => some { w with now := w.now + n }
  | .writeProposals proposals => some { w with proposals := proposals }

/-- The calls on a state directory. -/
def lab (faults : List FaultScenario) : System World Label := ⟨step faults⟩

/-- An empty state directory. -/
def World.initial (now : Nat) (proposals : List Proposal) : World where
  now := now
  runs := []
  lock := none
  halt := none
  proposals := proposals
  calls := []
  nextRun := 0
  hist := ⟨[], [], [], [], []⟩

/-! ## What a step does -/

theorem afterPoll_cases (j : Job) (ok : Bool) (deadline now : Nat)
    (reading : Option (Bool × List String)) :
    (∃ recovered, afterPoll j ok deadline now reading = .scored j ok recovered) ∨
      afterPoll j ok deadline now reading = .recovering j ok deadline := by
  unfold afterPoll
  dsimp only
  split_ifs
  · exact Or.inl ⟨true, rfl⟩
  · exact Or.inl ⟨false, rfl⟩
  · exact Or.inr rfl

/-- The call is before its run. -/
def Phase.Early (c : Call) (ph : Phase) : Prop :=
  ph = .entering c ∨ ph = .gating c ∨ (∃ now isDefault, ph = .checking c now isDefault) ∨
    ∃ now isDefault baseline, ph = .preparing c now isDefault baseline

/-- The run has started `injected.apply()`. -/
def World.startApply (w : World) (run : Run) : World :=
  let edited := w.editEntry run.runId fun e => { e with appliedAt := some w.now }
  { edited with hist := { edited.hist with applied := run.runId :: w.hist.applied } }

/-- The record of a run that has ended. -/
def World.saveEnd (w : World) (run : Run) : World :=
  (w.save run).editEntry run.runId fun e => { e with run := run }

/-- The steps, one by one. -/
inductive Stepped (w : World) : Label → World → Prop
  | runFault (clusterId scenarioId : String) (scheduled : Bool) (s : FaultScenario) :
      Stepped w (.runFault clusterId scenarioId scheduled)
        { w with calls := w.calls ++ [.entering ⟨clusterId, s, scheduled, none⟩] }
  | runProposal (clusterId : String) (key : Nat) (scheduled : Bool) (config : LabConfig)
      (s : FaultScenario) :
      Stepped w (.runProposal clusterId key scheduled config)
        (World.setProposal
          { w with calls := w.calls ++ [.entering ⟨clusterId, s, scheduled, some key⟩] }
          ⟨clusterId, s, scheduled, some key⟩ .running)
  | lock {p : Nat} {c : Call} (hp : w.calls[p]? = some (.entering c)) (hfree : w.lock = none) :
      Stepped w (.lock p) ({ w with lock := some p }.goTo p (.gating c))
  | refused (l : Label) {p : Nat} {c : Call} {ph : Phase} (hp : w.calls[p]? = some ph)
      (hearly : ph.Early c) : Stepped w l (w.refuse p c)
  | gate {p : Nat} {config : LabConfig} {cluster : Option Cluster} {c : Call} {found : Cluster}
      (hp : w.calls[p]? = some (.gating c))
      (hgated : gatedCluster config cluster w.halt c w.now = .ok found) :
      Stepped w (.gate p config cluster) (w.goTo p (.checking c w.now found.isDefault))
  | check {p : Nat} {r : Reading} {c : Call} {now : Nat} {isDefault : Bool}
      (baseline : List String) (hp : w.calls[p]? = some (.checking c now isDefault)) :
      Stepped w (.check p r) (w.goTo p (.preparing c now isDefault baseline))
  | prepare {p : Nat} {c : Call} {now : Nat} {isDefault : Bool} {baseline : List String}
      (target : String) (hp : w.calls[p]? = some (.preparing c now isDefault baseline)) :
      Stepped w (.prepare p (.ok target))
        ({ w with nextRun := w.nextRun + 1 }.goTo p
          (.saving ⟨c, newRun w.nextRun c now isDefault target, baseline⟩))
  | save {p : Nat} {j : Job} (hp : w.calls[p]? = some (.saving j)) :
      Stepped w (.save p) ((w.record j.run).goTo p (.saved j))
  | apply {p : Nat} {j : Job} (hp : w.calls[p]? = some (.saved j)) :
      Stepped w (.apply p) ((w.startApply j.run).goTo p (.applying j))
  | applied {p : Nat} {j : Job} (hp : w.calls[p]? = some (.applying j)) :
      Stepped w (.applied p) (w.goTo p (.observing j))
  | observed {p : Nat} {j : Job} (hp : w.calls[p]? = some (.observing j)) :
      Stepped w (.observed p) (w.goTo p (.undoing j true 1))
  | undo {p : Nat} {j : Job} {completed : Bool} {attempt : Nat} (succeeded : Bool)
      (hp : w.calls[p]? = some (.undoing j completed attempt)) :
      Stepped w (.undo p succeeded) (w.goTo p (afterUndo j completed attempt succeeded))
  | saveEnded {p : Nat} {j : Job} {completed ok : Bool}
      (hp : w.calls[p]? = some (.undone j completed ok)) :
      Stepped w (.saveEnded p)
        ((w.saveEnd { j.run with endedAt := some w.now }).goTo p
          (if completed then
            .recovering { j with run := { j.run with endedAt := some w.now } } ok
              (w.now + seconds j.call.scenario.recoverySeconds)
          else .interrupted { j with run := { j.run with endedAt := some w.now } } ok))
  | haltInterrupted {p : Nat} {j : Job} {ok : Bool}
      (hp : w.calls[p]? = some (.interrupted j ok)) :
      Stepped w (.haltInterrupted p)
        ((w.writeHalt j.run (interruptedReason j ok)).goTo p (.halted j))
  | recovered {p : Nat} {j : Job} {ok : Bool} {deadline : Nat}
      (reading : Option (Bool × List String)) (recovered : Bool)
      (hp : w.calls[p]? = some (.recovering j ok deadline)) :
      Stepped w (.poll p reading)
        ((w.recovered j.run ok recovered).goTo p (.scored j ok recovered))
  | polled {p : Nat} {j : Job} {ok : Bool} {deadline : Nat}
      (reading : Option (Bool × List String))
      (hp : w.calls[p]? = some (.recovering j ok deadline)) :
      Stepped w (.poll p reading) (w.goTo p (.recovering j ok deadline))
  | release {p : Nat} {j : Job} {ok recovered : Bool}
      (hp : w.calls[p]? = some (.scored j ok recovered)) :
      Stepped w (.release p) ((w.unlock p).goTo p (.released j ok recovered))
  | back {p : Nat} {j : Job} {ok recovered : Bool}
      (hp : w.calls[p]? = some (.released j ok recovered))
      (hback : (recovered && ok) = true) : Stepped w (.halt p) (w.goTo p (.reporting j))
  | halt {p : Nat} {j : Job} {ok recovered : Bool}
      (hp : w.calls[p]? = some (.released j ok recovered))
      (hback : ¬ (recovered && ok) = true) :
      Stepped w (.halt p) ((w.writeHalt j.run (notBackReason j)).goTo p (.reporting j))
  | report {p : Nat} {j : Job} (hp : w.calls[p]? = some (.reporting j)) :
      Stepped w (.report p) ((w.goTo p .finished).setProposal j.call .done)
  | raise {p : Nat} {refused : Bool} {ph : Phase} {w' : World} (hp : w.calls[p]? = some ph)
      (hraise : w.raise p ph refused = some w') : Stepped w (.raise p refused) w'
  | kill {p : Nat} {ph : Phase} (hp : w.calls[p]? = some ph) :
      Stepped w (.kill p) ((w.cut ph).leave p)
  | removeHalt :
      Stepped w .removeHalt
        { w with
          halt := none
          hist := { w.hist with
            haltedFor := []
            cleared := w.hist.haltedFor ++ w.hist.cleared } }
  | tick (n : Nat) : Stepped w (.tick n) { w with now := w.now + n }
  | writeProposals (proposals : List Proposal) :
      Stepped w (.writeProposals proposals) { w with proposals := proposals }

variable {ph : Phase} {w w' : World}

theorem stepped_of_step {faults : List FaultScenario} {l : Label}
    (hstep : step faults w l = some w') : Stepped w l w' := by
  revert hstep
  fun_cases step faults w l <;> try rintro ⟨⟩
  · exact .runFault ..
  · exact .runProposal ..
  next hp hfree => exact .lock hp hfree
  next hp _ => exact .refused _ hp (.inl rfl)
  next hp _ _ => exact .refused _ hp (.inr (.inl rfl))
  next hp _ hok => exact .gate hp hok
  next hp _ _ => exact .refused _ hp (.inr (.inr (.inl ⟨_, _, rfl⟩)))
  next hp _ _ => exact .check _ hp
  next hp _ => exact .refused _ hp (.inr (.inr (.inr ⟨_, _, _, rfl⟩)))
  next hp _ => exact .prepare _ hp
  next hp => exact .save hp
  next hp _ => exact .apply hp
  next hp => exact .applied hp
  next hp => exact .observed hp
  next hp => exact .undo _ hp
  next hp _ => exact .saveEnded hp
  next hp => exact .haltInterrupted hp
  next j ok deadline hp _ _ _ hscored =>
    rcases afterPoll_cases j ok deadline w.now _ with ⟨_, hpoll⟩ | hpoll
    all_goals
      rw [hpoll] at hscored
      cases hscored
    exact .recovered _ _ hp
  next j ok deadline hp hrecovering =>
    rcases afterPoll_cases j ok deadline w.now _ with ⟨_, hpoll⟩ | hpoll
    · exact absurd hpoll (hrecovering _ _ _)
    · rw [hpoll]
      exact .polled _ hp
  next hp => exact .release hp
  next hp hback => exact .back hp hback
  next hp hback => exact .halt hp hback
  next hp => exact .report hp
  next hp => exact .raise hp
  next hp => exact .kill hp
  · exact .removeHalt
  · exact .tick _
  · exact .writeProposals _

/-! ## The lock -/

/-- Inside `_exclusive`. -/
def Phase.inside : Phase → Bool
  | .entering _ | .released _ _ _ | .reporting _ | .finished => false
  | _ => true

/-- Who is inside holds the lock. -/
def Locked (w : World) : Prop :=
  ∀ p ph, w.calls[p]? = some ph → ph.inside = true → w.lock = some p

variable {p : Nat}

section

variable (h : Locked w)
include h

theorem Locked.eq_of_inside {q : Nat} {ph' : Phase} (hp : w.calls[p]? = some ph)
    (hq : w.calls[q]? = some ph') (hinside : ph.inside = true) (hinside' : ph'.inside = true) :
    p = q := by
  have hlock := h p ph hp hinside
  rw [h q ph' hq hinside', Option.some.injEq] at hlock
  exact hlock.symm

theorem Locked.congr (hcalls : w'.calls = w.calls) (hlock : w'.lock = w.lock) : Locked w' := by
  unfold Locked
  rw [hcalls, hlock]
  exact h

theorem Locked.goTo (ph' : Phase) (hp : w.calls[p]? = some ph)
    (hinside : ph'.inside = true → ph.inside = true) : Locked (w.goTo p ph') := by
  intro q phq hq hq_in
  simp only [World.goTo, List.getElem?_set] at hq
  split_ifs at hq with hpq
  · cases hq
    rw [← hpq]
    exact h p ph hp (hinside hq_in)
  · exact h q phq hq hq_in

theorem Locked.unlock (p : Nat) {ph' : Phase} (hout : ph'.inside = false) :
    Locked ((w.unlock p).goTo p ph') := by
  intro q phq hq hq_in
  simp only [World.goTo, World.unlock, List.getElem?_set] at hq
  split_ifs at hq with hpq
  · cases hq
    rw [hout] at hq_in
    cases hq_in
  · have hheld := h q phq hq hq_in
    have hne : w.lock ≠ some p := by
      rw [hheld]
      intro heq
      cases heq
      exact hpq rfl
    show (if w.lock = some p then none else w.lock) = some q
    rw [if_neg hne, hheld]

theorem Locked.setProposal (c : Call) (status : ProposalStatus) :
    Locked (w.setProposal c status) := by
  unfold World.setProposal
  split
  · exact h
  · exact h.congr rfl rfl

theorem Locked.leave (p : Nat) : Locked (w.leave p) :=
  h.unlock p rfl

theorem Locked.refuse (p : Nat) (c : Call) : Locked (w.refuse p c) :=
  (h.leave p).setProposal c .approved

theorem Locked.cut (ph : Phase) : Locked (w.cut ph) := by
  unfold World.cut
  split
  · exact h
  · exact h.congr rfl rfl

theorem Locked.enter (c : Call) : Locked { w with calls := w.calls ++ [.entering c] } := by
  intro p ph hp hinside
  rw [List.getElem?_append] at hp
  split_ifs at hp with hlt
  · exact h p ph hp hinside
  · have hmem := List.mem_of_getElem? hp
    rw [List.mem_singleton] at hmem
    subst hmem
    cases hinside

theorem Locked.acquire (p : Nat) (ph' : Phase) (hfree : w.lock = none) :
    Locked ({ w with lock := some p }.goTo p ph') := by
  intro q phq hq hinside
  simp only [World.goTo, List.getElem?_set] at hq
  split_ifs at hq with hpq
  · rw [← hpq]
    rfl
  · have hheld := h q phq hq hinside
    rw [hfree] at hheld
    cases hheld

theorem Locked.raise {refused : Bool} (hp : w.calls[p]? = some ph)
    (hraise : w.raise p ph refused = some w') : Locked w' := by
  unfold World.raise at hraise
  split at hraise
  · cases hraise
  · cases hraise
    exact h.goTo _ hp fun _ => rfl
  · cases hraise
    exact h.goTo _ hp fun _ => rfl
  · split at hraise
    · cases hraise
      exact (h.cut ph).leave p
    · cases hraise
      exact ((h.cut ph).leave p).setProposal _ _

/-- **The lock.**  Every step keeps the calls inside under the lock. -/
theorem locked_step {faults : List FaultScenario} {l : Label}
    (hstep : step faults w l = some w') : Locked w' := by
  cases stepped_of_step hstep with
  | runFault clusterId scenarioId scheduled s => exact h.enter _
  | runProposal clusterId key scheduled config s => exact (h.enter _).setProposal _ _
  | lock hp hfree => exact h.acquire _ _ hfree
  | refused _ hp _ => exact h.refuse _ _
  | gate hp _ => exact h.goTo _ hp fun _ => rfl
  | check baseline hp => exact h.goTo _ hp fun _ => rfl
  | prepare target hp =>
    exact Locked.goTo (w := { w with nextRun := w.nextRun + 1 }) h _ hp fun _ => rfl
  | @save _ j hp => exact (h.goTo (.saved j) hp fun _ => rfl).congr rfl rfl
  | @apply _ j hp => exact (h.goTo (.applying j) hp fun _ => rfl).congr rfl rfl
  | applied hp => exact h.goTo _ hp fun _ => rfl
  | observed hp => exact h.goTo _ hp fun _ => rfl
  | undo succeeded hp => exact h.goTo _ hp fun _ => rfl
  | saveEnded hp => exact (h.goTo _ hp fun _ => rfl).congr rfl rfl
  | @haltInterrupted _ j _ hp => exact (h.goTo (.halted j) hp fun _ => rfl).congr rfl rfl
  | @recovered _ j ok _ _ recovered hp =>
    exact (h.goTo (.scored j ok recovered) hp fun _ => rfl).congr rfl rfl
  | polled _ hp => exact h.goTo _ hp fun _ => rfl
  | release hp => exact h.unlock _ rfl
  | back hp _ => exact h.goTo _ hp fun hinside => nomatch hinside
  | @halt _ j _ _ hp _ =>
    exact (h.goTo (.reporting j) hp fun hinside => nomatch hinside).congr rfl rfl
  | report hp => exact (h.goTo .finished hp fun hinside => nomatch hinside).setProposal _ _
  | raise hp hraise => exact h.raise hp hraise
  | kill hp => exact (h.cut _).leave _
  | removeHalt | tick | writeProposals => exact h.congr rfl rfl

end

theorem locked_initial (now : Nat) (proposals : List Proposal) :
    Locked (World.initial now proposals) := by
  intro p ph hp
  cases hp

/-! ## A cluster, its gates and its runs -/

def osdNearfull : FaultScenario where
  id := "osd_nearfull_fault"
  kind := .nearfullRatio
  expectFrom := "osd_nearfull"
  expectedHealthCodes := ["OSD_NEARFULL", "POOL_NEARFULL"]
  maxSeconds := 300
  recoverySeconds := 300
  detectionTimeoutSeconds := 180
  inRange := by decide

/-- A Failure Lab that is on. -/
def labConfig : LabConfig where
  clusterId := "lab"
  fsid := "f1"
  faultEnabled := true
  windowStart := 120
  windowEnd := 300
  telegramChannelId := ""

/-- A healthy cluster. -/
def healthy : Reading where
  liveFsid := "f1"
  pinnedFsid := "f1"
  replayCode := "OSD_NEARFULL"
  busy := []
  healthCodes := []

/-- A call, up to the record of its window. -/
def upToSave (scenarioId : String) (p : Nat) : List Label :=
  [.runFault "lab" scenarioId false, .lock p, .gate p labConfig (some ⟨false, "lab"⟩),
    .check p healthy, .prepare p (.ok "osd.2"), .save p]

/-- The fault is applied, observed and undone. -/
def faultAndUndo (p : Nat) : List Label :=
  [.apply p, .applied p, .observed p, .undo p true, .saveEnded p]

end CephAi.Ports.FailureLab
