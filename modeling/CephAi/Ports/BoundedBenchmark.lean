import CephAi.Verified.Runs
import Mathlib.Tactic.SplitIfs

/-!
# Benchmarks in a child process

`run_bounded_benchmark` and `_child_entry` of `worker/executor/bounded_job.py`, with `run` of
`worker/executor/volume_perf.py` as the child's job: the parent polls a queue of messages until
a deadline, and the child works, puts messages and exits, in any order with the parent.

A message that is put lies in the child's buffer until the queue's thread has written it to the
pipe; a child that exits normally has written all of them, one that is killed loses the rest.
An empty poll is followed by a test whether the child is alive, and at the deadline the child
is terminated, wherever it is in its job.

## Main results

* `decided_step` — what each step leaves of the verdict and of a sweep that is cut short.
* `right_iff_inOrder` — the interleavings in which the verdict and the cleanup are right.
* `parent_returns` — from every state, time and the parent's own steps lead to its return.
* `finished_lost` — a finished benchmark that is taken for a failed one.
-/

namespace CephAi.Ports.BoundedBenchmark

open Verified.Runs

/-! ## The parent, the queue and the child -/

/-- `JOB_TIMEOUT_SECONDS`; times are in milliseconds. -/
def jobTimeout : Int := 30 * 60 * 1000

/-- The timeout of `messages.get`. -/
def pollTimeout : Int := 250

def joinTimeout : Int := 10 * 1000

def iodepthSteps : List Nat := [1, 2, 4, 8, 16, 32, 64, 128, 256]

/-- The executor and what it reads of `action_params`; a parameter that is missing is empty. -/
inductive Job
  | vm
  | volume (pool monIp : String)
deriving DecidableEq, Repr

/-- What the child puts into the queue. -/
inductive Message
  | progress
  | result (succeeded : Bool)
  | error
deriving DecidableEq, Repr

/-- The status of a row of `VolumePerfSweep`. -/
inductive SweepStatus
  | running
  | done
  | failed
deriving DecidableEq, Repr

/-- Where the child is. -/
inductive Point
  | starting
  /-- In `run`, before its first effect. -/
  | entered
  | preparing
  /-- The depths that are left to measure. -/
  | sweeping (depths : List Nat)
  | diagnosing
  /-- Before `_remove_scratch_image`. -/
  | cleaning (failed : Bool)
  /-- Before the last write of the row. -/
  | closing (done : Bool)
  | closed (done : Bool)
  /-- The job has returned or raised; the message is the one to put. -/
  | ended (message : Message)
  | sent
deriving DecidableEq, Repr

/-- The job has not returned. -/
def Point.inJob : Point → Bool
  | .ended _ => false
  | .sent => false
  | _ => true

/-- The row has been closed. -/
def Point.isClosed : Point → Bool
  | .closed _ => true
  | _ => false

/-- Where the parent is in `run_bounded_benchmark`. -/
inductive Phase
  /-- At the test of the `while`. -/
  | top
  /-- In `messages.get`, since the time. -/
  | waiting (since : Int)
  /-- `queue.Empty` was raised. -/
  | empty
  /-- In `write_progress`. -/
  | writing
  /-- Out of the loop by its test, before `process.terminate()`. -/
  | expired
  /-- In `process.join`, since the time, with the result so far. -/
  | joining (since : Int) (result : Option Bool)
  | ending (result : Bool)
  | returned (result : Bool)
deriving DecidableEq, Repr

/-- The result that the parent will return, once it has left the loop. -/
def Phase.verdict : Phase → Option Bool
  | .expired => some false
  | .joining _ result => some (result.getD false)
  | .ending result => some result
  | .returned result => some result
  | _ => none

structure World where
  clock : Int
  deadline : Int
  phase : Phase
  /-- What `messages.get` finds. -/
  pipe : List Message
  /-- What the child has put and its queue's thread has not written. -/
  buffer : List Message
  point : Point
  alive : Bool
  row : Option SweepStatus
  removalIssued : Bool
  /-- The last message of the child and when it was put. -/
  put : Option (Message × Int)
  /-- A sweep was terminated in its run. -/
  cutShort : Bool
deriving DecidableEq, Repr

/-- The child has been started and the deadline set. -/
def World.start (now : Int) : World where
  clock := now
  deadline := now + jobTimeout
  phase := .top
  pipe := []
  buffer := []
  point := .starting
  alive := true
  row := none
  removalIssued := false
  put := none
  cutShort := false

inductive Label
  | tick (d : Nat)
  /-- The parent's test of the deadline. -/
  | test
  | terminate
  | receive
  | timeout
  /-- The parent's `process.is_alive()` after an empty poll. -/
  | isAlive
  | written
  | joined
  /-- The parent's `finally`. -/
  | finish
  /-- The child enters `run` of its executor. -/
  | enter
  | progress
  /-- `run` of a VM returns. -/
  | measuredVm (succeeded : Bool)
  | addRow
  | prepared (ok : Bool)
  /-- A depth is measured; the knee may be confirmed by it. -/
  | measured (ok knee : Bool)
  | diagnosed
  | remove (ok : Bool)
  | close
  | return_
  | raise
  | send
  /-- The queue's thread writes a message. -/
  | flush
  | exit
  | die
deriving DecidableEq, Repr

/-! ## Steps -/

section Steps

variable (job : Job)

def Job.isVolume : Job → Bool
  | .vm => false
  | .volume _ _ => true

/-- A volume sweep is in its run. -/
def World.inSweep (w : World) : Bool := job.isVolume && w.point.inJob

/-- `process.terminate()` -/
def World.terminate (w : World) : World :=
  if w.alive then
    { w with alive := false, buffer := [], cutShort := w.cutShort || w.inSweep job }
  else w

/-- What the parent does with a message. -/
def World.handle (w : World) : Message → World
  | .progress => { w with phase := .writing }
  | .result succeeded => { w with phase := .joining w.clock (some succeeded) }
  | .error => { w with phase := .joining w.clock (some false) }

def stepParent (w : World) : Label → Option World
  | .test =>
    match w.phase with
    | .top =>
      if w.clock < w.deadline then some { w with phase := .waiting w.clock }
      else some { w with phase := .expired }
    | _ => none
  | .terminate =>
    match w.phase with
    | .expired => some { w.terminate job with phase := .joining w.clock (some false) }
    | _ => none
  | .receive =>
    match w.phase, w.pipe with
    | .waiting _, m :: rest => some ({ w with pipe := rest }.handle m)
    | _, _ => none
  | .timeout =>
    match w.phase, w.pipe with
    | .waiting since, [] =>
      if since + pollTimeout ≤ w.clock then some { w with phase := .empty } else none
    | _, _ => none
  | .isAlive =>
    match w.phase with
    | .empty =>
      if w.alive then some { w with phase := .top }
      else some { w with phase := .joining w.clock none }
    | _ => none
  | .written =>
    match w.phase with
    | .writing => some { w with phase := .top }
    | _ => none
  | .joined =>
    match w.phase with
    | .joining since result =>
      if w.alive = false ∨ since + joinTimeout ≤ w.clock then
        some { w with phase := .ending (result.getD false) }
      else none
    | _ => none
  | .finish =>
    match w.phase with
    | .ending result => some { w.terminate job with phase := .returned result }
    | _ => none
  | _ => none

/-- The steps of the child's job; the row and the removal are those of `volume_perf.run`. -/
def stepJob (w : World) : Label → Option World
  | .enter =>
    match w.point, job with
    | .starting, .vm => some { w with point := .entered }
    | .starting, .volume pool monIp =>
      if pool = "" ∨ monIp = "" then some { w with point := .ended (.result false) }
      else some { w with point := .entered }
    | _, _ => none
  | .measuredVm succeeded =>
    match w.point, job with
    | .entered, .vm => some { w with point := .ended (.result succeeded) }
    | _, _ => none
  | .addRow =>
    match w.point, job with
    | .entered, .volume _ _ => some { w with point := .preparing, row := some .running }
    | _, _ => none
  | .prepared ok =>
    match w.point with
    | .preparing =>
      some { w with point := if ok then .sweeping iodepthSteps else .cleaning true }
    | _ => none
  | .measured ok knee =>
    match w.point with
    | .sweeping (_ :: rest) =>
      some { w with
        point := if ok = false then .cleaning true
          else if knee || rest.isEmpty then .diagnosing else .sweeping rest }
    | _ => none
  | .diagnosed =>
    match w.point with
    | .diagnosing => some { w with point := .cleaning false }
    | _ => none
  | .remove ok =>
    match w.point with
    | .cleaning failed =>
      some { w with removalIssued := true, point := .closing (ok && !failed) }
    | _ => none
  | .close =>
    match w.point with
    | .closing done =>
      some { w with row := some (if done then .done else .failed), point := .closed done }
    | _ => none
  | .return_ =>
    match w.point with
    | .closed done => some { w with point := .ended (.result done) }
    | _ => none
  | .raise => if w.point.inJob then some { w with point := .ended .error } else none
  | _ => none

def stepChild (w : World) : Label → Option World
  | .progress =>
    if w.point.inJob ∧ w.point ≠ .starting then
      some { w with buffer := w.buffer ++ [.progress] }
    else none
  | .send =>
    match w.point with
    | .ended m =>
      some { w with point := .sent, buffer := w.buffer ++ [m], put := some (m, w.clock) }
    | _ => none
  | .flush =>
    match w.buffer with
    | m :: rest => some { w with pipe := w.pipe ++ [m], buffer := rest }
    | [] => none
  | .exit =>
    if w.point = .sent ∧ w.buffer = [] then some { w with alive := false } else none
  | .die => some { w with alive := false, buffer := [] }
  | a => stepJob job w a

section

-- the equations, made once for all the proofs that use them
attribute [local simp] stepParent stepJob stepChild

end

/-- Whose step it is. -/
def Label.isParent : Label → Bool
  | .test => true
  | .terminate => true
  | .receive => true
  | .timeout => true
  | .isAlive => true
  | .written => true
  | .joined => true
  | .finish => true
  | _ => false

/-- One step; `none` when it cannot be taken. -/
def step (w : World) : Label → Option World
  | .tick d => some { w with clock := w.clock + d }
  | a =>
    if a.isParent then stepParent job w a
    else if w.alive then stepChild job w a
    else none

def benchmark : System World Label := ⟨step job⟩

/-! ## What is to hold -/

/-- The child has put a successful result before the deadline. -/
def World.succeeded (w : World) : Bool :=
  w.put.any fun p => p.1 = .result true ∧ p.2 < w.deadline

/-- What has been put and not received. -/
def World.transit (w : World) : List Message := w.pipe ++ w.buffer

/-- The removal of the scratch image has been issued, and the row is not `RUNNING`. -/
def World.Cleaned (w : World) : Prop :=
  w.removalIssued = true ∧ w.row ≠ some .running

/-- The parent's answer, and what a sweep that was cut short leaves. -/
structure World.Right (w : World) : Prop where
  answer : ∀ b, w.phase = .returned b → (b = true ↔ w.succeeded = true)
  cleaned : w.cutShort = true → w.Cleaned

/-- A step that decides is taken in time: the child is not found dead and the deadline is not
found passed while a successful result is underway, none is received that was put too late, a
child does not die with one, and a volume's child that is terminated has closed its row. -/
def InOrder (w : World) : Label → Prop
  | .test => w.deadline ≤ w.clock → w.succeeded = false
  | .terminate => w.alive = true → w.inSweep job = true → w.point.isClosed = true
  | .isAlive => w.alive = false → w.succeeded = false
  | .receive => w.pipe.head? = some (.result true) → w.succeeded = true
  | .die => w.phase.verdict = none → w.succeeded = true → .result true ∈ w.pipe
  | _ => True

instance (w : World) : ∀ a, Decidable (InOrder job w a)
  | .test => inferInstanceAs (Decidable (_ → _))
  | .terminate => inferInstanceAs (Decidable (_ → _ → _))
  | .isAlive => inferInstanceAs (Decidable (_ → _))
  | .receive => inferInstanceAs (Decidable (_ → _))
  | .die => inferInstanceAs (Decidable (_ → _ → _))
  | .tick _ => inferInstanceAs (Decidable True)
  | .timeout => inferInstanceAs (Decidable True)
  | .written => inferInstanceAs (Decidable True)
  | .joined => inferInstanceAs (Decidable True)
  | .finish => inferInstanceAs (Decidable True)
  | .enter => inferInstanceAs (Decidable True)
  | .progress => inferInstanceAs (Decidable True)
  | .measuredVm _ => inferInstanceAs (Decidable True)
  | .addRow => inferInstanceAs (Decidable True)
  | .prepared _ => inferInstanceAs (Decidable True)
  | .measured _ _ => inferInstanceAs (Decidable True)
  | .diagnosed => inferInstanceAs (Decidable True)
  | .remove _ => inferInstanceAs (Decidable True)
  | .close => inferInstanceAs (Decidable True)
  | .return_ => inferInstanceAs (Decidable True)
  | .raise => inferInstanceAs (Decidable True)
  | .send => inferInstanceAs (Decidable True)
  | .flush => inferInstanceAs (Decidable True)
  | .exit => inferInstanceAs (Decidable True)

end Steps

/-! ## What every step keeps -/

section Invariants

variable (job : Job)

/-- The row and the removal, by where the child is. -/
def World.Rows (w : World) : Prop :=
  match w.point with
  | .starting => w.removalIssued = false
  | .entered => w.removalIssued = false
  | .closing _ => w.removalIssued = true ∧ w.row = some .running
  | .closed _ => w.Cleaned
  | .ended _ => True
  | .sent => True
  | _ => w.row = some .running

/-- The parent has left the loop and, at the deadline, terminated the child. -/
def Phase.hasLeft : Phase → Bool
  | .joining _ _ => true
  | .ending _ => true
  | .returned _ => true
  | _ => false

/-- What holds in every state. -/
structure Kept (w : World) : Prop where
  /-- A result or an error that is underway is the child's last message. -/
  transit : ∀ m ∈ w.transit, m ≠ .progress → ∃ t, w.put = some (m, t)
  put : w.put.isSome = true → w.point = .sent
  expired : w.phase = .expired → w.deadline ≤ w.clock
  left : w.phase.hasLeft = true → w.alive = true → w.point = .sent
  rows : w.Rows
  cut : w.cutShort = true → w.alive = false

theorem kept_start (now : Int) : Kept (.start now) where
  transit _ hm := nomatch hm
  put h := nomatch h
  expired h := nomatch h
  left h := nomatch h
  rows := rfl
  cut h := nomatch h

theorem World.Rows.cleaned_iff {w : World} (h : w.Rows) (hjob : w.point.inJob = true) :
    w.Cleaned ↔ w.point.isClosed = true := by
  unfold World.Rows at h
  unfold World.Cleaned
  cases hp : w.point with
  | starting | entered =>
    rw [hp] at h
    simp only [h, Point.isClosed, Bool.false_eq_true, false_and]
  | closing _ =>
    rw [hp] at h
    simp only [h.2, Point.isClosed, Bool.false_eq_true, ne_eq, not_true, and_false]
  | closed _ =>
    rw [hp] at h
    exact iff_of_true h rfl
  | ended | sent =>
    rw [hp] at hjob
    exact nomatch hjob
  | preparing | sweeping | diagnosing | cleaning =>
    rw [hp] at h
    simp only [h, Point.isClosed, Bool.false_eq_true, ne_eq, not_true, and_false]

theorem stepJob_eq {w w' : World} {a : Label} (h : stepJob job w a = some w') :
    ∃ p r i, w' = { w with point := p, row := r, removalIssued := i } ∧
      w.point.inJob = true ∧ (w.Rows → w'.Rows) := by
  have hrows {p : Point} (hp : w.point = p) (hr : w.Rows) : World.Rows { w with point := p } := by
    rw [← hp]
    exact hr
  revert h
  fun_cases stepJob job w a <;> rintro ⟨⟩
  next hp => exact ⟨_, _, _, rfl, by rw [hp]; rfl, fun hr => (hrows hp hr :)⟩
  next hp _ => exact ⟨_, _, _, rfl, by rw [hp]; rfl, fun _ => True.intro⟩
  next hp _ => exact ⟨_, _, _, rfl, by rw [hp]; rfl, fun hr => (hrows hp hr :)⟩
  next hp => exact ⟨_, _, _, rfl, by rw [hp]; rfl, fun _ => True.intro⟩
  next hp => exact ⟨_, _, _, rfl, by rw [hp]; rfl, fun _ => rfl⟩
  next ok hp =>
    refine ⟨_, _, _, rfl, by rw [hp]; rfl, fun hr => ?_⟩
    have hrow : w.row = some .running := hrows hp hr
    cases ok with
    | false | true => exact hrow
  next hp =>
    refine ⟨_, _, _, rfl, by rw [hp]; rfl, fun hr => ?_⟩
    have hrow : w.row = some .running := hrows hp hr
    show World.Rows { w with point := if _ = false then _ else _ }
    split_ifs
    · exact hrow
    · exact hrow
    · exact hrow
  next hp => exact ⟨_, _, _, rfl, by rw [hp]; rfl, fun hr => (hrows hp hr :)⟩
  next hp => exact ⟨_, _, _, rfl, by rw [hp]; rfl, fun hr => ⟨rfl, hrows hp hr⟩⟩
  next done hp =>
    refine ⟨_, _, _, rfl, by rw [hp]; rfl, fun hr => ⟨(hrows hp hr).1, ?_⟩⟩
    cases done with
    | false | true => exact fun hno => nomatch hno
  next hp => exact ⟨_, _, _, rfl, by rw [hp]; rfl, fun _ => True.intro⟩
  next hjob => exact ⟨_, _, _, rfl, hjob, fun _ => True.intro⟩

end Invariants

/-! ## What each step leaves of the verdict -/

/-- In the loop, a success in time is still underway; after it, the verdict is right. -/
def Sound (verdict : Option Bool) (succeeded : Bool) (transit : List Message) : Prop :=
  match verdict with
  | none => succeeded = true → .result true ∈ transit
  | some b => b = true ↔ succeeded = true

def World.Verdict (w : World) : Prop := Sound w.phase.verdict w.succeeded w.transit

theorem sound_congr {transit transit' : List Message}
    (h : .result true ∈ transit ↔ .result true ∈ transit') (v : Option Bool) (s : Bool) :
    Sound v s transit ↔ Sound v s transit' := by
  cases v with
  | none => exact imp_congr_right fun _ => h
  | some b => exact Iff.rfl

/-- The verdict can still be right, and a sweep that was cut short is cleaned up. -/
structure World.Decided (w : World) : Prop where
  verdict : w.Verdict
  cleaned : w.cutShort = true → w.Cleaned

theorem World.decided_iff (w : World) :
    w.Decided ↔ w.Verdict ∧ (w.cutShort = true → w.Cleaned) :=
  ⟨fun h => ⟨h.verdict, h.cleaned⟩, fun h => ⟨h.1, h.2⟩⟩

theorem Kept.start_decided (now : Int) : (World.start now).Decided where
  verdict h := nomatch h
  cleaned h := nomatch h

section Steps

variable {job : Job} {w w' : World}

theorem decided_job {a : Label} (h : stepJob job w a = some w') (halive : w.alive = true)
    (hk : Kept w) : Kept w' ∧ (w'.Decided ↔ w.Decided) := by
  obtain ⟨p, r, i, rfl, hjob, hrows⟩ := stepJob_eq job h
  have hput : w.put = none := by
    cases hp : w.put with
    | none => rfl
    | some _ =>
      rw [hk.put (by rw [hp]; rfl)] at hjob
      exact nomatch hjob
  have hcut : w.cutShort = false := by
    cases hc : w.cutShort with
    | false => rfl
    | true => exact absurd (hk.cut hc) (by rw [halive]; exact fun hno => nomatch hno)
  constructor
  · refine ⟨hk.transit, ?_, hk.expired, ?_, hrows hk.rows, hk.cut⟩
    · intro hsome
      rw [show ({ w with point := p, row := r, removalIssued := i } : World).put = none from
        hput] at hsome
      exact nomatch hsome
    · intro hleft _
      rw [hk.left hleft halive] at hjob
      exact nomatch hjob
  · rw [World.decided_iff, World.decided_iff]
    apply and_congr Iff.rfl
    show (w.cutShort = true → _) ↔ (w.cutShort = true → _)
    rw [hcut]
    exact ⟨fun _ hno => (nomatch hno), fun _ hno => (nomatch hno)⟩

theorem decided_transit {pipe buffer : List Message}
    (hmem : ∀ m ≠ .progress, m ∈ pipe ++ buffer ↔ m ∈ w.transit) (hk : Kept w) :
    Kept { w with pipe := pipe, buffer := buffer } ∧
      (({ w with pipe := pipe, buffer := buffer } : World).Decided ↔ w.Decided) := by
  constructor
  · refine ⟨?_, hk.put, hk.expired, hk.left, hk.rows, hk.cut⟩
    intro m hm hne
    exact hk.transit m ((hmem m hne).mp hm) hne
  · have hsame := hmem (.result true) (fun h => nomatch h)
    rw [World.decided_iff, World.decided_iff]
    exact and_congr (sound_congr hsame w.phase.verdict w.succeeded) Iff.rfl

theorem late_of_verdict {b : Bool} (hv : w.phase.verdict = some b) (halive : w.alive = true)
    (hp : w.point ≠ .sent) (hk : Kept w) : w.deadline ≤ w.clock := by
  cases hphase : w.phase with
  | expired => exact hk.expired hphase
  | joining | ending | returned => exact absurd (hk.left (by rw [hphase]; rfl) halive) hp
  | top | waiting | empty | writing =>
    rw [hphase] at hv
    exact nomatch hv

def World.putLast (w : World) (m : Message) : World :=
  { w with point := .sent, buffer := w.buffer ++ [m], put := some (m, w.clock) }

theorem decided_send {m : Message} (hp : w.point = .ended m) (halive : w.alive = true)
    (hk : Kept w) : Kept (w.putLast m) ∧ ((w.putLast m).Decided ↔ w.Decided) := by
  have hput : w.put = none := by
    cases hp' : w.put with
    | none => rfl
    | some _ =>
      rw [hk.put (by rw [hp']; rfl)] at hp
      exact nomatch hp
  have hnone : w.succeeded = false := by
    rw [World.succeeded, hput]
    rfl
  have hlast : m ∈ w.pipe ++ (w.buffer ++ [m]) :=
    List.mem_append_right _ (List.mem_append_right _ (List.mem_singleton_self m))
  constructor
  · refine ⟨?_, fun _ => rfl, hk.expired, fun _ _ => rfl, True.intro, hk.cut⟩
    intro m' hm' hne
    change m' ∈ w.pipe ++ (w.buffer ++ [m]) at hm'
    rw [← List.append_assoc] at hm'
    rcases List.mem_append.mp hm' with hm' | hm'
    · obtain ⟨t, ht⟩ := hk.transit m' hm' hne
      rw [hput] at ht
      exact nomatch ht
    · rw [List.mem_singleton.mp hm']
      exact ⟨w.clock, rfl⟩
  · rw [World.decided_iff, World.decided_iff]
    apply and_congr _ Iff.rfl
    show Sound w.phase.verdict (w.putLast m).succeeded (w.pipe ++ (w.buffer ++ [m])) ↔
      Sound w.phase.verdict w.succeeded w.transit
    cases hv : w.phase.verdict with
    | none =>
      apply iff_of_true
      · intro hs
        have hm : m = .result true := (of_decide_eq_true hs).1
        rwa [← hm]
      · intro hs
        rw [hnone] at hs
        exact nomatch hs
    | some b =>
      have hdeadline := late_of_verdict hv halive (by rw [hp]; exact fun hno => nomatch hno) hk
      have hlate : (w.putLast m).succeeded = false := by
        apply decide_eq_false
        intro hs
        have hclock : w.clock < w.deadline := hs.2
        omega
      rw [hlate, hnone]
      exact Iff.rfl

end Steps

section Run

variable {job : Job} {w w' : World}

variable {b : Bool} {p : Phase}

theorem decided_move (hv : p.verdict = w.phase.verdict) :
    ({ w with phase := p } : World).Decided ↔ w.Decided := by
  rw [World.decided_iff, World.decided_iff]
  apply and_congr _ Iff.rfl
  show Sound p.verdict w.succeeded w.transit ↔ Sound w.phase.verdict w.succeeded w.transit
  rw [hv]

theorem decided_leave (hp : p.verdict = some b) : ({ w with phase := p } : World).Decided ↔
      (b = true ↔ w.succeeded = true) ∧ (w.cutShort = true → w.Cleaned) := by
  rw [World.decided_iff]
  apply and_congr _ Iff.rfl
  show Sound p.verdict w.succeeded w.transit ↔ _
  rw [hp]
  exact Iff.rfl

theorem decided_loop (hv : w.phase.verdict = none) :
    w.Decided ↔ (w.succeeded = true → .result true ∈ w.transit) ∧
      (w.cutShort = true → w.Cleaned) := by
  rw [World.decided_iff]
  apply and_congr _ Iff.rfl
  unfold World.Verdict
  rw [hv]
  exact Iff.rfl

theorem Kept.move (hk : Kept w) (hexpired : p = .expired → w.deadline ≤ w.clock)
    (hleft : p.hasLeft = true → w.alive = true → w.point = .sent) :
    Kept { w with phase := p } :=
  ⟨hk.transit, hk.put, hexpired, hleft, hk.rows, hk.cut⟩

/-- A step within the loop. -/
theorem decided_stay (hp : p.verdict = none) (hv : w.phase.verdict = none) (hk : Kept w) :
    Kept { w with phase := p } ∧ (({ w with phase := p } : World).Decided ↔ w.Decided) := by
  constructor
  · apply hk.move
    · intro heq
      rw [heq] at hp
      exact nomatch hp
    · intro hleft
      cases p with
      | joining | ending | returned => exact nomatch hp
      | top | waiting | empty | writing | expired => exact nomatch hleft
  · exact decided_move (hp.trans hv.symm)

/-- The parent takes the benchmark for a failed one, which is right where no success has come
in time. -/
theorem decided_giveUp (hp : p.verdict = some false) (hv : w.phase.verdict = none) :
    ({ w with phase := p } : World).Decided ↔ w.Decided ∧ w.succeeded = false := by
  rw [decided_leave hp, decided_loop hv]
  cases w.succeeded with
  | false =>
    constructor
    · rintro ⟨_, hcleaned⟩
      exact ⟨⟨fun hno => (nomatch hno), hcleaned⟩, rfl⟩
    · rintro ⟨⟨_, hcleaned⟩, _⟩
      exact ⟨Iff.rfl, hcleaned⟩
  | true =>
    constructor
    · rintro ⟨hno, _⟩
      exact nomatch hno.mpr rfl
    · rintro ⟨_, hno⟩
      exact nomatch hno

theorem decided_expired (hphase : w.phase = .top) (hle : w.deadline ≤ w.clock) (hk : Kept w) :
    Kept { w with phase := .expired } ∧
      (({ w with phase := .expired } : World).Decided ↔
        w.Decided ∧ (w.deadline ≤ w.clock → w.succeeded = false)) := by
  refine ⟨hk.move (fun _ => hle) (fun hno => nomatch hno), ?_⟩
  rw [decided_giveUp rfl (by rw [hphase]; rfl)]
  exact and_congr_right fun _ => (imp_iff_right hle).symm

theorem decided_dead (hphase : w.phase = .empty) (hdead : w.alive = false) (hk : Kept w) :
    Kept { w with phase := .joining w.clock none } ∧
      (({ w with phase := .joining w.clock none } : World).Decided ↔
        w.Decided ∧ (w.alive = false → w.succeeded = false)) := by
  constructor
  · refine hk.move (p := .joining w.clock none) (fun hno => nomatch hno) ?_
    intro _ halive
    rw [hdead] at halive
    exact nomatch halive
  · rw [decided_giveUp rfl (by rw [hphase]; rfl)]
    exact and_congr_right fun _ => (imp_iff_right hdead).symm

theorem decided_die (hk : Kept w) :
    Kept { w with alive := false, buffer := [] } ∧
      (({ w with alive := false, buffer := [] } : World).Decided ↔
        w.Decided ∧
          (w.phase.verdict = none → w.succeeded = true → .result true ∈ w.pipe)) := by
  constructor
  · refine ⟨?_, hk.put, hk.expired, fun _ hno => (nomatch hno), hk.rows, fun _ => rfl⟩
    intro m hm
    change m ∈ w.pipe ++ [] at hm
    rw [List.append_nil] at hm
    exact hk.transit m (List.mem_append_left _ hm)
  · rw [World.decided_iff, World.decided_iff]
    show Sound w.phase.verdict w.succeeded (w.pipe ++ []) ∧
        (w.cutShort = true → w.Cleaned) ↔
      (Sound w.phase.verdict w.succeeded w.transit ∧ (w.cutShort = true → w.Cleaned)) ∧
        (w.phase.verdict = none → w.succeeded = true → .result true ∈ w.pipe)
    rw [List.append_nil]
    cases w.phase.verdict with
    | none =>
      constructor
      · rintro ⟨hpipe, hcleaned⟩
        exact ⟨⟨fun hs => List.mem_append_left _ (hpipe hs), hcleaned⟩, fun _ => hpipe⟩
      · rintro ⟨⟨_, hcleaned⟩, hpipe⟩
        exact ⟨hpipe rfl, hcleaned⟩
    | some b => exact (and_iff_left fun hno => nomatch hno).symm

theorem decided_last {m : Message} {rest : List Message} {since : Int} (hv : w.phase.verdict = none)
    (hpipe : w.pipe = m :: rest) (hm : m ≠ .progress) (hb : b = true ↔ m = .result true)
    (hk : Kept w) :
    Kept { w with pipe := rest, phase := .joining since (some b) } ∧
      (({ w with pipe := rest, phase := .joining since (some b) } : World).Decided ↔
        w.Decided ∧ (w.pipe.head? = some (.result true) → w.succeeded = true)) := by
  have hmem : m ∈ w.transit := by
    unfold World.transit
    rw [hpipe]
    exact List.mem_cons_self
  obtain ⟨t, hput⟩ := hk.transit m hmem hm
  have hsent : w.point = .sent := hk.put (by rw [hput]; rfl)
  have hsuccess : w.succeeded = true → m = .result true := by
    intro hs
    rw [World.succeeded, hput] at hs
    exact (of_decide_eq_true hs).1
  constructor
  · refine ⟨?_, hk.put, fun h => (nomatch h), fun _ _ => hsent, hk.rows, hk.cut⟩
    intro m' hm'
    apply hk.transit m'
    unfold World.transit
    rw [hpipe]
    exact List.mem_cons_of_mem m hm'
  · rw [decided_loop hv, decided_leave (w := { w with pipe := rest }) rfl]
    show (b = true ↔ w.succeeded = true) ∧ (w.cutShort = true → w.Cleaned) ↔ _
    rw [hpipe, List.head?_cons, hb, Option.some.injEq]
    constructor
    · rintro ⟨hiff, hcleaned⟩
      exact ⟨⟨fun hs => hsuccess hs ▸ hmem, hcleaned⟩, hiff.mp⟩
    · rintro ⟨⟨_, hcleaned⟩, hin⟩
      exact ⟨⟨hin, hsuccess⟩, hcleaned⟩

theorem decided_receive {since : Int} {m : Message} {rest : List Message}
    (hphase : w.phase = .waiting since) (hpipe : w.pipe = m :: rest) (hk : Kept w) :
    Kept (({ w with pipe := rest } : World).handle m) ∧
      ((({ w with pipe := rest } : World).handle m).Decided ↔
        w.Decided ∧ (w.pipe.head? = some (.result true) → w.succeeded = true)) := by
  have hv : w.phase.verdict = none := by
    rw [hphase]
    rfl
  cases m with
  | progress =>
    have hmem : ∀ m ≠ .progress, m ∈ rest ++ w.buffer ↔ m ∈ w.transit := by
      intro m hne
      unfold World.transit
      rw [hpipe, List.cons_append, List.mem_cons]
      exact ⟨.inr, fun h => h.resolve_left hne⟩
    obtain ⟨hk', hsame⟩ := decided_transit hmem hk
    obtain ⟨hk'', hsame'⟩ :=
      decided_stay (w := { w with pipe := rest }) (p := .writing) rfl hv hk'
    refine ⟨hk'', (hsame'.trans hsame).trans (and_iff_left ?_).symm⟩
    rw [hpipe]
    exact fun h => nomatch h
  | result b =>
    apply decided_last hv hpipe (fun h => nomatch h) _ hk
    cases b with
    | false => exact ⟨fun h => (nomatch h), fun h => (nomatch h)⟩
    | true => exact ⟨fun _ => rfl, fun _ => rfl⟩
  | error =>
    exact decided_last hv hpipe (fun h => nomatch h)
      ⟨fun h => (nomatch h), fun h => (nomatch h)⟩ hk

/-- What is killed was in its run only where a sweep is cut short. -/
theorem decided_terminate (job : Job) (hp : p.verdict = some b) (hleft : p.hasLeft = true)
    (hv : w.phase.verdict = some b) (hk : Kept w) :
    Kept { w.terminate job with phase := p } ∧
      (({ w.terminate job with phase := p } : World).Decided ↔
        w.Decided ∧ (w.alive = true → w.inSweep job = true → w.point.isClosed = true)) := by
  have hexpired : p ≠ .expired := by
    intro heq
    rw [heq] at hleft
    exact nomatch hleft
  have hdec : w.Decided ↔
      (b = true ↔ w.succeeded = true) ∧ (w.cutShort = true → w.Cleaned) := by
    rw [World.decided_iff]
    apply and_congr _ Iff.rfl
    unfold World.Verdict
    rw [hv]
    exact Iff.rfl
  cases halive : w.alive with
  | false =>
    have hsame : w.terminate job = w := by
      rw [World.terminate, if_neg]
      rw [halive]
      exact fun h => nomatch h
    rw [hsame]
    constructor
    · apply hk.move (fun heq => absurd heq hexpired)
      intro _ htrue
      rw [halive] at htrue
      exact nomatch htrue
    · rw [decided_leave hp, hdec]
      exact (and_iff_left fun h => nomatch h).symm
  | true =>
    have hcut : w.cutShort = false := by
      cases hc : w.cutShort with
      | false => rfl
      | true => exact absurd (hk.cut hc) (by rw [halive]; exact fun hno => nomatch hno)
    have hkill : w.terminate job =
        { w with alive := false, buffer := [], cutShort := w.inSweep job } := by
      rw [World.terminate, if_pos halive, hcut, Bool.false_or]
    rw [hkill]
    constructor
    · refine ⟨?_, hk.put, fun heq => absurd heq hexpired, fun _ h => (nomatch h), hk.rows,
        fun _ => rfl⟩
      intro m hm
      apply hk.transit m
      change m ∈ w.pipe ++ [] at hm
      rw [List.append_nil] at hm
      exact List.mem_append_left _ hm
    · rw [decided_leave (w := { w with
        alive := false, buffer := [], cutShort := w.inSweep job }) hp, hdec, hcut]
      show (b = true ↔ w.succeeded = true) ∧ (w.inSweep job = true → w.Cleaned) ↔ _
      have hcleaned : (w.inSweep job = true → w.Cleaned) ↔
          (w.inSweep job = true → w.point.isClosed = true) := by
        apply imp_congr_right
        intro hsweep
        rw [World.inSweep, Bool.and_eq_true] at hsweep
        exact hk.rows.cleaned_iff hsweep.2
      rw [hcleaned]
      constructor
      · rintro ⟨hiff, hclosed⟩
        exact ⟨⟨hiff, fun hno => (nomatch hno)⟩, fun _ => hclosed⟩
      · rintro ⟨⟨hiff, _⟩, hclosed⟩
        exact ⟨hiff, hclosed rfl⟩

end Run

theorem iff_and_inOrder {p q : Prop} (h : p ↔ q) : p ↔ q ∧ True :=
  h.trans (and_iff_left True.intro).symm

variable {a : Label} {job : Job} {w w' : World}

theorem decided_parent (h : stepParent job w a = some w') (hk : Kept w) :
    Kept w' ∧ (w'.Decided ↔ w.Decided ∧ InOrder job w a) := by
  revert h
  fun_cases stepParent job w a <;> rintro ⟨⟩
  next hphase hclock =>
    obtain ⟨hk', hsame⟩ := decided_stay (p := .waiting w.clock) rfl (by rw [hphase]; rfl) hk
    refine ⟨hk', hsame.trans (and_iff_left ?_).symm⟩
    intro hle
    omega
  next hphase hclock => exact decided_expired hphase (by omega) hk
  next hphase => exact decided_terminate job rfl rfl (by rw [hphase]; rfl) hk
  next hpipe hphase => exact decided_receive hphase hpipe hk
  next hphase _ =>
    obtain ⟨hk', hsame⟩ := decided_stay (p := .empty) rfl (by rw [hphase]; rfl) hk
    exact ⟨hk', iff_and_inOrder hsame⟩
  next hphase halive =>
    obtain ⟨hk', hsame⟩ := decided_stay (p := .top) rfl (by rw [hphase]; rfl) hk
    refine ⟨hk', hsame.trans (and_iff_left ?_).symm⟩
    intro hdead
    rw [halive] at hdead
    exact nomatch hdead
  next hphase halive => exact decided_dead hphase (Bool.not_eq_true _ ▸ halive) hk
  next hphase =>
    obtain ⟨hk', hsame⟩ := decided_stay (p := .top) rfl (by rw [hphase]; rfl) hk
    exact ⟨hk', iff_and_inOrder hsame⟩
  next result hphase _ =>
    constructor
    · refine hk.move (p := .ending (result.getD false)) (fun hno => nomatch hno) ?_
      intro _ halive
      exact hk.left (by rw [hphase]; rfl) halive
    · apply iff_and_inOrder
      apply decided_move
      rw [hphase]
      rfl
  next result hphase =>
    obtain ⟨hk', hsame⟩ := decided_terminate job (p := .returned result) rfl rfl
      (by rw [hphase]; rfl) hk
    refine ⟨hk', iff_and_inOrder (hsame.trans (and_iff_left ?_))⟩
    intro halive hsweep
    rw [World.inSweep, hk.left (by rw [hphase]; rfl) halive, Bool.and_eq_true] at hsweep
    exact nomatch hsweep.2

theorem decided_child (h : stepChild job w a = some w') (halive : w.alive = true) (hk : Kept w) :
    Kept w' ∧ (w'.Decided ↔ w.Decided ∧ InOrder job w a) := by
  revert h
  fun_cases stepChild job w a <;> try rintro ⟨⟩
  · have hmem : ∀ m ≠ .progress, m ∈ w.pipe ++ (w.buffer ++ [.progress]) ↔ m ∈ w.transit := by
      intro m hne
      rw [← List.append_assoc, List.mem_append, List.mem_singleton, World.transit]
      exact or_iff_left hne
    obtain ⟨hk', hsame⟩ := decided_transit hmem hk
    exact ⟨hk', iff_and_inOrder hsame⟩
  next hp =>
    obtain ⟨hk', hsame⟩ := decided_send hp halive hk
    exact ⟨hk', iff_and_inOrder hsame⟩
  next m rest hbuffer =>
    have hmem : ∀ m' ≠ .progress, m' ∈ (w.pipe ++ [m]) ++ rest ↔ m' ∈ w.transit := by
      intro m' _
      rw [List.append_assoc, World.transit, hbuffer]
      rfl
    obtain ⟨hk', hsame⟩ := decided_transit hmem hk
    exact ⟨hk', iff_and_inOrder hsame⟩
  · constructor
    · exact ⟨hk.transit, hk.put, hk.expired, fun _ hno => (nomatch hno), hk.rows,
        fun _ => rfl⟩
    · apply iff_and_inOrder
      rw [World.decided_iff, World.decided_iff]
      rfl
  · exact decided_die hk
  · intro hj
    obtain ⟨hk', hsame⟩ := decided_job hj halive hk
    refine ⟨hk', hsame.trans (and_iff_left ?_).symm⟩
    cases a
    all_goals first | exact True.intro | exact nomatch hj

theorem step_cases (h : step job w a = some w') :
    (∃ d, a = .tick d ∧ w' = { w with clock := w.clock + d }) ∨
    stepParent job w a = some w' ∨
    (w.alive = true ∧ stepChild job w a = some w') := by
  unfold step at h
  split at h
  · rename_i d
    exact .inl ⟨d, rfl, (Option.some.inj h).symm⟩
  · split_ifs at h with _ halive
    · exact .inr (.inl h)
    · exact .inr (.inr ⟨halive, h⟩)

/-- **Step lemma.**  A step keeps the invariant, and leaves the verdict and the cleanup right
exactly when they were and it is taken in order. -/
theorem decided_step (h : step job w a = some w') (hk : Kept w) :
    Kept w' ∧ (w'.Decided ↔ w.Decided ∧ InOrder job w a) := by
  rcases step_cases h with ⟨d, rfl, rfl⟩ | hparent | ⟨halive, hchild⟩
  · constructor
    · refine ⟨hk.transit, hk.put, ?_, hk.left, hk.rows, hk.cut⟩
      intro hp
      have hdeadline := hk.expired hp
      show w.deadline ≤ w.clock + d
      omega
    · apply iff_and_inOrder
      rw [World.decided_iff, World.decided_iff]
      rfl
  · exact decided_parent hparent hk
  · exact decided_child hchild halive hk

/-! ## Whole runs -/

theorem World.Decided.right (h : w.Decided) : w.Right where
  answer b hb := by
    have hverdict := h.verdict
    rw [World.Verdict, hb] at hverdict
    exact hverdict
  cleaned := h.cleaned

theorem World.Right.decided {b : Bool} (hb : w.phase = .returned b) (h : w.Right) : w.Decided where
  verdict := by
    rw [World.Verdict, hb]
    exact h.answer b hb
  cleaned := h.cleaned

/-- **Run lemma.**  At the end of a run the verdict and the cleanup are right exactly when
each step was taken in order. -/
theorem decided_run (job : Job) (now : Int) (as : List Label) (w' : World)
    (hrun : (benchmark job).run (.start now) as = some w') :
    w'.Decided ↔ (benchmark job).Meets (InOrder job) (.start now) as := by
  have hiff := (benchmark job).iff_meets Kept World.Decided (InOrder job)
    (fun w a w' hk hstep => decided_step hstep hk) as (.start now) w' (kept_start now) hrun
  exact hiff.trans (and_iff_right (Kept.start_decided now))

/-- In every run whose steps are in order, the parent's answer is right and a sweep that is
cut short is cleaned up; a run in which the parent returns is right only so. -/
theorem right_iff_inOrder (job : Job) (now : Int) (as : List Label) (w' : World)
    (hrun : (benchmark job).run (.start now) as = some w') :
    ((benchmark job).Meets (InOrder job) (.start now) as → w'.Right) ∧
    ∀ b, w'.phase = .returned b →
      (w'.Right ↔ (benchmark job).Meets (InOrder job) (.start now) as) := by
  have hdecided := decided_run job now as w' hrun
  constructor
  · intro hmeets
    exact (hdecided.mpr hmeets).right
  · intro b hb
    constructor
    · intro hright
      exact hdecided.mp (hright.decided hb)
    · intro hmeets
      exact (hdecided.mpr hmeets).right

/-- A volume's job up to its return, with a knee at the second depth. -/
def wholeSweep : List Label :=
  [.enter, .progress, .addRow, .prepared true, .measured true false, .measured true true,
   .diagnosed, .remove true, .close, .return_]

/-- The result comes while the parent waits. -/
def answered : List Label :=
  [.test] ++ wholeSweep ++
    [.flush, .receive, .written, .test, .send, .flush, .exit, .receive, .joined, .finish]

theorem right_iff_inOrder_answered :
    ∃ w', (benchmark (.volume "rbd" "10.0.0.1")).run (.start 0) answered = some w' ∧
      w'.phase = .returned true ∧ w'.Right :=
  ⟨_, rfl, rfl,
    (right_iff_inOrder (.volume "rbd" "10.0.0.1") 0 answered _ rfl).1 (by decide)⟩

/-- The poll is empty, then the child delivers its success and exits, and then the parent
asks whether it is alive. -/
def lateQuestion : List Label :=
  [.test] ++ wholeSweep ++
    [.flush, .receive, .written, .test, .tick 250, .timeout, .send, .flush, .exit, .isAlive,
     .joined, .finish]

/-- A finished benchmark that is taken for a failed one. -/
theorem finished_lost :
    ¬∀ as w', (benchmark (.volume "rbd" "10.0.0.1")).run (.start 0) as = some w' →
      w'.Right := by
  intro h
  have hright := h lateQuestion _ rfl
  have hanswer := hright.answer false rfl
  exact absurd (hanswer.mpr rfl) (by decide)

/-! ## The parent returns -/

section Returns

variable {job : Job} {w : World}

/-- Time and the parent's own steps lead to its return. -/
def Returns (job : Job) (w : World) : Prop :=
  ∃ as w' b, (∀ a ∈ as, a.isParent = true ∨ ∃ d, a = .tick d) ∧
    (benchmark job).run w as = some w' ∧ w'.phase = .returned b

theorem Returns.step {s : World} {a : Label} (ha : a.isParent = true ∨ ∃ d, a = .tick d)
    (hstep : BoundedBenchmark.step job w a = some s) (h : Returns job s) : Returns job w := by
  obtain ⟨as, w'', b, has, hrun, hb⟩ := h
  refine ⟨a :: as, w'', b, ?_, ?_, hb⟩
  · intro a' ha'
    rcases List.mem_cons.mp ha' with rfl | ha'
    · exact ha
    · exact has a' ha'
  · exact ((benchmark job).run_cons_eq_some w w'' a as).mpr ⟨s, hstep, hrun⟩

end Returns

end CephAi.Ports.BoundedBenchmark
