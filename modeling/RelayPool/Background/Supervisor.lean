import RelayPool.Runs
import RelayPool.Table

/-! The supervisor of the background tasks.

Each registered task has a slot. A start puts a run of it on the tracker, a join takes
the handle of the run out of its slot, awaits it and records what the run came to; a
transient failure backs off, and `tick` starts the tasks whose backoff is over. Every
function here is what one call does while it holds the supervisor's mutex; a call that
fails midway keeps what it has changed so far. -/
namespace RelayPool.Background
open Table

abbrev TaskId := String

/-- The u64 that numbers the runs. -/
abbrev TaskRunId := Nat

/-- Nanoseconds. -/
abbrev Duration := Nat

/-- A task that the tracker has spawned. -/
abbrev SpawnedTask := Nat

def u32Max : Nat := 2 ^ 32 - 1

def u64Max : Nat := 2 ^ 64 - 1

def u128Max : Nat := 2 ^ 128 - 1

def asMillis (duration : Duration) : Nat := duration / 1000000

def fromMillis (millis : Nat) : Duration := millis * 1000000

/-! ### Tasks -/

inductive RestartClass
  | transient
  | configuration
  | authentication
  | invariant
  | cancelled
  deriving DecidableEq

structure TaskFailure where
  restart : RestartClass
  code : String
  deriving DecidableEq

/-- What the body of a run returned, unless it panicked. -/
inductive TaskJoinResult
  | ok
  | failed (failure : TaskFailure)
  | panicked
  deriving DecidableEq

inductive TaskState
  | registered
  | running
  | stopping
  | backingOff (retryAtMs : Nat)
  | succeeded
  | failed (code : String)
  | cancelled
  | panicked
  deriving DecidableEq

def TaskState.isActive : TaskState → Bool
  | .running | .stopping => true
  | _ => false

structure RestartPolicy where
  maxRetries : Nat
  baseDelay : Duration
  maxDelay : Duration
  jitterSeed : Nat
  maxRetries_le : maxRetries ≤ u32Max
  deriving DecidableEq

def deterministicJitterMs (seed attempt : Nat) : Nat :=
  if seed = 0 then 0 else (seed ^^^ (attempt * 0x9E3779B97F4A7C15 % 2 ^ 64)) % 11

def RestartPolicy.delayForAttempt (policy : RestartPolicy) (attempt : Nat) : Duration :=
  if policy.maxRetries = 0 ∨ policy.baseDelay = 0 then 0
  else
    let multiplier := 2 ^ min (attempt - 1) 16
    let baseMs := min (asMillis policy.baseDelay * multiplier) u128Max
    let jitterMs := deterministicJitterMs policy.jitterSeed attempt
    let cappedMs := min (min (baseMs + jitterMs) u128Max) (asMillis policy.maxDelay)
    fromMillis (cappedMs % 2 ^ 64)

structure TaskSpec where
  id : TaskId
  kind : String
  concurrencyKey : Option String
  restartPolicy : RestartPolicy
  deriving DecidableEq

structure TaskSlot where
  spec : TaskSpec
  state : TaskState
  runId : Option TaskRunId
  /-- Whether the run's token has been cancelled, while there is one. -/
  token : Option Bool
  join : Option SpawnedTask
  consecutiveFailures : Nat
  lastDelay : Option Duration
  lastStartedAtMs : Option Nat
  lastSucceededAtMs : Option Nat
  lastFailureCode : Option String
  nextRetryAtMs : Option Nat
  /-- The last run, which no field of the source names once its handle is taken. -/
  latest : Option SpawnedTask
  deriving DecidableEq

inductive TaskSupervisorError
  | duplicateTaskId (id : TaskId)
  | taskNotFound (id : TaskId)
  | alreadyRunning (id : TaskId)
  | notRunning (id : TaskId)
  | concurrencyKeyRunning (key : String)
  | joinHandleMissing (id : TaskId)
  | illegalTransition (id : TaskId)
  deriving DecidableEq

structure SupervisorInner where
  tasks : List TaskSlot
  nextRunId : TaskRunId
  /-- How many tasks the tracker has spawned. -/
  spawned : Nat

namespace TaskSlot

def id (slot : TaskSlot) : TaskId := slot.spec.id

def isActive (slot : TaskSlot) : Bool := slot.state.isActive

/-- The task's backoff is over. -/
def isReady (nowMs : Nat) (slot : TaskSlot) : Bool :=
  match slot.state with
  | .backingOff retryAtMs => retryAtMs ≤ nowMs
  | _ => false

def registered (spec : TaskSpec) : TaskSlot where
  spec := spec
  state := .registered
  runId := none
  token := none
  join := none
  consecutiveFailures := 0
  lastDelay := none
  lastStartedAtMs := none
  lastSucceededAtMs := none
  lastFailureCode := none
  nextRetryAtMs := none
  latest := none

def cancelled (slot : TaskSlot) : TaskSlot :=
  { slot with token := slot.token.map fun _ => true, state := .stopping }

def started (runId : TaskRunId) (task : SpawnedTask) (nowMs : Nat) (slot : TaskSlot) : TaskSlot :=
  { slot with
    state := .running
    runId := some runId
    token := some false
    join := some task
    lastStartedAtMs := some nowMs
    nextRetryAtMs := none
    latest := some task }

/-- The slot records what its run came to. -/
def joined (result : TaskJoinResult) (nowMs : Nat) (slot : TaskSlot) : TaskSlot :=
  let slot := { slot with token := none, join := none }
  match result with
  | .ok =>
    { slot with
      consecutiveFailures := 0
      lastDelay := none
      lastFailureCode := none
      nextRetryAtMs := none
      lastSucceededAtMs := some nowMs
      state := .succeeded }
  | .failed error =>
    if error.restart = .cancelled then { slot with nextRetryAtMs := none, state := .cancelled }
    else if error.restart = .transient ∧
        slot.consecutiveFailures < slot.spec.restartPolicy.maxRetries then
      let failures := min (slot.consecutiveFailures + 1) u32Max
      let delay := slot.spec.restartPolicy.delayForAttempt failures
      { slot with
        consecutiveFailures := failures
        lastDelay := some delay
        lastFailureCode := some error.code
        nextRetryAtMs := some (min (nowMs + min (asMillis delay) u64Max) u64Max)
        -- the delay, and not the time at which it is over
        state := .backingOff (asMillis delay % 2 ^ 64) }
    else
      { slot with
        consecutiveFailures := min (slot.consecutiveFailures + 1) u32Max
        lastFailureCode := some error.code
        nextRetryAtMs := none
        state := .failed error.code }
  | .panicked =>
    { slot with lastFailureCode := some "panic", nextRetryAtMs := none, state := .panicked }

end TaskSlot

namespace SupervisorInner
variable (inner : SupervisorInner)

def slot? (id : TaskId) : Option TaskSlot := lookup TaskSlot.id inner.tasks id

def updateSlot (id : TaskId) (f : TaskSlot → TaskSlot) : SupervisorInner :=
  { inner with tasks := updateWhere (·.id = id) f inner.tasks }

/-- Another active task has the concurrency key. -/
def keyRunning (id : TaskId) (key : String) : Bool :=
  inner.tasks.any fun slot => slot.id ≠ id ∧ slot.spec.concurrencyKey = some key ∧ slot.isActive

/-- The tasks are kept in the order of their ids. -/
def register (spec : TaskSpec) : Except TaskSupervisorError SupervisorInner :=
  match inner.slot? spec.id with
  | some _ => .error (.duplicateTaskId spec.id)
  | none => .ok { inner with
      tasks := inner.tasks.orderedInsert (fun a b => ¬ b.id < a.id) (.registered spec) }

def nextRun : TaskRunId := min (inner.nextRunId + 1) u64Max

/-- The task's next run, on the tracker and in its slot. -/
def spawn (id : TaskId) (nowMs : Nat) : SupervisorInner :=
  { inner.updateSlot id (TaskSlot.started inner.nextRun inner.spawned nowMs) with
    nextRunId := inner.nextRun
    spawned := inner.spawned + 1 }

def startLocked (id : TaskId) (nowMs : Nat) :
    Except TaskSupervisorError (SupervisorInner × TaskRunId) :=
  match inner.slot? id with
  | none => .error (.taskNotFound id)
  | some slot =>
    if slot.isActive then .error (.alreadyRunning id)
    else
      match slot.spec.concurrencyKey with
      | some key =>
        if inner.keyRunning id key then .error (.concurrencyKeyRunning key)
        else .ok (inner.spawn id nowMs, inner.nextRun)
      | none => .ok (inner.spawn id nowMs, inner.nextRun)

def cancel (id : TaskId) : Except TaskSupervisorError SupervisorInner :=
  match inner.slot? id with
  | none => .error (.taskNotFound id)
  | some slot =>
    if slot.isActive then .ok (inner.updateSlot id TaskSlot.cancelled)
    else .error (.notRunning id)

def ready (nowMs : Nat) : List TaskId :=
  (inner.tasks.filter (TaskSlot.isReady nowMs)).map TaskSlot.id

/-- The ready tasks are started one after the other; the first one that cannot be started
ends the call. -/
def startAll (nowMs : Nat) :
    SupervisorInner → List TaskId → List TaskRunId →
      SupervisorInner × Except TaskSupervisorError (List TaskRunId)
  | inner, [], started => (inner, .ok started)
  | inner, id :: rest, started =>
    match inner.startLocked id nowMs with
    | .error error => (inner, .error error)
    | .ok (inner, runId) => startAll nowMs inner rest (started ++ [runId])

def tick (nowMs : Nat) : SupervisorInner × Except TaskSupervisorError (List TaskRunId) :=
  startAll nowMs inner (inner.ready nowMs) []

/-- A call of `join_finished` takes the handle, and remembers the run that it belongs to. -/
def takeJoin (id : TaskId) :
    Except TaskSupervisorError (SupervisorInner × SpawnedTask × TaskRunId) :=
  match inner.slot? id with
  | none => .error (.taskNotFound id)
  | some slot =>
    match slot.runId, slot.join with
    | some runId, some join => .ok (inner.updateSlot id ({ · with join := none }), join, runId)
    | _, _ => .error (.joinHandleMissing id)

def applyJoinResultLocked (id : TaskId) (runId : TaskRunId) (result : TaskJoinResult)
    (nowMs : Nat) : Except TaskSupervisorError SupervisorInner :=
  match inner.slot? id with
  | none => .error (.taskNotFound id)
  | some slot =>
    if slot.runId ≠ some runId then .error (.illegalTransition id)
    else .ok (inner.updateSlot id (TaskSlot.joined result nowMs))

/-- The first section of `shutdown`: the active tasks are cancelled. -/
def stopAll : SupervisorInner :=
  { inner with tasks := updateWhere TaskSlot.isActive TaskSlot.cancelled inner.tasks }

end SupervisorInner

/-! ### The system -/

/-- A call of `join_finished` that awaits the handle it took. -/
structure JoinCall where
  id : TaskId
  task : SpawnedTask
  runId : TaskRunId
  deriving DecidableEq

structure TaskSupervisor where
  inner : SupervisorInner
  joining : List JoinCall
  /-- Whether `shutdown` has begun. -/
  shuttingDown : Bool
  /-- How often `tick` has started the task since its last success. -/
  restarts : TaskId → Nat

inductive SupervisorOp
  | register (spec : TaskSpec)
  | start (id : TaskId)
  | cancel (id : TaskId)
  | tick
  | joinFinished (id : TaskId)
  /-- The awaited task is done. -/
  | joined (call : JoinCall) (result : TaskJoinResult)
  /-- The awaited task is lost, or the call is dropped. -/
  | joinLost (call : JoinCall)
  | shutdown

/-- One call or one section of it, and the time on the clock. -/
structure SupervisorStep where
  nowMs : Nat
  op : SupervisorOp

namespace TaskSupervisor
variable (supervisor : TaskSupervisor)

/-- The state after a call that may be refused. -/
def accept (result : Except TaskSupervisorError SupervisorInner) : TaskSupervisor :=
  match result with
  | .ok inner => { supervisor with inner }
  | .error _ => supervisor

/-- The task has been started between the two states. -/
def startedBetween (before after : SupervisorInner) (id : TaskId) : Bool :=
  (before.slot? id).bind TaskSlot.latest ≠ (after.slot? id).bind TaskSlot.latest

def tick (nowMs : Nat) : TaskSupervisor :=
  let inner := (supervisor.inner.tick nowMs).1
  { supervisor with
    inner
    restarts := fun id => supervisor.restarts id +
      if startedBetween supervisor.inner inner id then 1 else 0 }

def joinFinished (id : TaskId) : TaskSupervisor :=
  match supervisor.inner.takeJoin id with
  | .ok (inner, task, runId) =>
    { supervisor with inner, joining := supervisor.joining ++ [⟨id, task, runId⟩] }
  | .error _ => supervisor

def joined (call : JoinCall) (result : TaskJoinResult) (nowMs : Nat) : TaskSupervisor :=
  if call ∈ supervisor.joining then
    let waiting := { supervisor with joining := supervisor.joining.erase call }
    match supervisor.inner.applyJoinResultLocked call.id call.runId result nowMs with
    | .ok inner =>
      { waiting with
        inner
        restarts := if result = .ok then Function.update supervisor.restarts call.id 0
          else supervisor.restarts }
    | .error _ => waiting
  else supervisor

def step (step : SupervisorStep) : TaskSupervisor :=
  match step.op with
  | .register spec => supervisor.accept (supervisor.inner.register spec)
  | .start id => supervisor.accept ((supervisor.inner.startLocked id step.nowMs).map Prod.fst)
  | .cancel id => supervisor.accept (supervisor.inner.cancel id)
  | .tick => supervisor.tick step.nowMs
  | .joinFinished id => supervisor.joinFinished id
  | .joined call result => supervisor.joined call result step.nowMs
  | .joinLost call => { supervisor with joining := supervisor.joining.erase call }
  | .shutdown => { supervisor with inner := supervisor.inner.stopAll, shuttingDown := true }

def new : TaskSupervisor := ⟨⟨[], 0, 0⟩, [], false, fun _ => 0⟩

end TaskSupervisor

end RelayPool.Background
