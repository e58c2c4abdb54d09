import RelayPool.Counters
import RelayPool.Indexes
import RelayPool.Runs

/-! The monitoring runtime (`services/monitoring/runtime.rs`).

Commands are admitted to a queue, started as permits allow, and released when a guard is
finished or dropped or when an interruption gets to them. A section under the mutex is a
function on the state (`RuntimeState`); around it stand the guards that callers hold and the
interruptions that are under way, which have listed the executions that they will release one
after the other (`MonitoringRuntime`). An absent counter is zero. -/
namespace RelayPool.Monitoring
open Counters Indexes Table

structure MonitoringRuntimeLimits where
  queueCapacity : Nat
  globalConcurrency : Nat
  stationConcurrency : Nat
  keyConcurrency : Nat
deriving DecidableEq, Repr

def MonitoringRuntimeLimits.normalized (limits : MonitoringRuntimeLimits) :
    MonitoringRuntimeLimits where
  queueCapacity := max limits.queueCapacity 1
  globalConcurrency := max limits.globalConcurrency 1
  stationConcurrency := max limits.stationConcurrency 1
  keyConcurrency := max limits.keyConcurrency 1

inductive MonitorTriggerKind
  | scheduled
  | manual
deriving DecidableEq, Repr

structure SchedulerCommand where
  monitorId : String
  stationId : String
  stationKeyIds : List String
  triggerKind : MonitorTriggerKind
  dueAtMs : Int
  lagMs : Int
  scheduleRevision : Int
deriving DecidableEq, Repr

inductive RuntimeAdmission
  | queued (executionId : String) (queueDepth : Nat)
  | reused (executionId : String)
  | queueFull (lagMs : Int)
  | shuttingDown
deriving DecidableEq, Repr

inductive RuntimeStart
  | started (executionId : String) (command : SchedulerCommand)
  | queueEmpty
  | permitBlocked
  | shuttingDown
deriving DecidableEq, Repr

/-- A queued or an active execution. -/
structure Execution where
  executionId : String
  command : SchedulerCommand
deriving DecidableEq, Repr

structure RuntimeState where
  limits : MonitoringRuntimeLimits
  admitting : Bool
  nextExecutionOrdinal : Nat
  queue : List Execution
  queuedByMonitor : String → Option String
  queuedByKey : String → Option String
  active : List Execution
  activeByMonitor : String → Option String
  activeByKey : String → Option String
  stationInUse : String → Nat
  keyInUse : String → Nat
  queueFullCount : Nat
  maxLagMs : Int
  terminalInterruptedCount : Nat

/-- The largest value of an unsigned integer of 64 bits. -/
def wordMax : Nat := 2 ^ 64 - 1

def MonitorTriggerKind.prefixOf : MonitorTriggerKind → String
  | .scheduled => "scheduled"
  | .manual => "manual"

/-- The id of the execution of a command. -/
def executionIdOf (command : SchedulerCommand) (ordinal : Nat) : String :=
  command.triggerKind.prefixOf ++ "-" ++ command.monitorId ++ "-" ++ toString ordinal

namespace RuntimeState

def new (limits : MonitoringRuntimeLimits) : RuntimeState where
  limits := limits.normalized
  admitting := true
  nextExecutionOrdinal := 1
  queue := []
  queuedByMonitor := fun _ => none
  queuedByKey := fun _ => none
  active := []
  activeByMonitor := fun _ => none
  activeByKey := fun _ => none
  stationInUse := fun _ => 0
  keyInUse := fun _ => 0
  queueFullCount := 0
  maxLagMs := 0
  terminalInterruptedCount := 0

variable (s : RuntimeState)

/-- The execution that a command is taken to be. -/
def existing (command : SchedulerCommand) : Option String :=
  ((s.queuedByMonitor command.monitorId).or (s.activeByMonitor command.monitorId)).or
    (command.stationKeyIds.findSome? fun key => (s.queuedByKey key).or (s.activeByKey key))

def admitCommand (command : SchedulerCommand) : RuntimeAdmission × RuntimeState :=
  if s.admitting = false then (.shuttingDown, s)
  else match s.existing command with
  | some existing => (.reused existing, s)
  | none =>
    if s.limits.queueCapacity ≤ s.queue.length then
      (.queueFull command.lagMs,
        { s with
          queueFullCount := min (s.queueFullCount + 1) wordMax
          maxLagMs := max s.maxLagMs command.lagMs })
    else
      let executionId := executionIdOf command s.nextExecutionOrdinal
      (.queued executionId (s.queue.length + 1),
        { s with
          nextExecutionOrdinal := min (s.nextExecutionOrdinal + 1) wordMax
          queuedByMonitor := insertAll s.queuedByMonitor [command.monitorId] executionId
          queuedByKey := insertAll s.queuedByKey command.stationKeyIds executionId
          maxLagMs := max s.maxLagMs command.lagMs
          queue := s.queue ++ [⟨executionId, command⟩] })

def canAcquire (command : SchedulerCommand) : Bool :=
  s.active.length < s.limits.globalConcurrency ∧
    s.stationInUse command.stationId < s.limits.stationConcurrency ∧
    ∀ key ∈ command.stationKeyIds, s.keyInUse key < s.limits.keyConcurrency

/-- The front of the queue becomes active. -/
def startFront (front : Execution) (rest : List Execution) : RuntimeState :=
  { s with
    queue := rest
    queuedByMonitor := removeAll s.queuedByMonitor [front.command.monitorId]
    queuedByKey := removeAll s.queuedByKey front.command.stationKeyIds
    stationInUse := bump s.stationInUse front.command.stationId
    keyInUse := front.command.stationKeyIds.foldl bump s.keyInUse
    activeByMonitor := insertAll s.activeByMonitor [front.command.monitorId] front.executionId
    activeByKey := insertAll s.activeByKey front.command.stationKeyIds front.executionId
    active := upsert (·.executionId) front s.active }

def startNext : RuntimeStart × RuntimeState :=
  if s.admitting = false ∧ s.queue = [] then (.shuttingDown, s)
  else match s.queue with
  | [] => (.queueEmpty, s)
  | front :: rest =>
    if s.canAcquire front.command = false then (.permitBlocked, s)
    else (.started front.executionId front.command, s.startFront front rest)

def isActive (executionId : String) : Bool :=
  (lookup (·.executionId) s.active executionId).isSome

def release (executionId : String) (interrupted : Bool) : RuntimeState :=
  match lookup (·.executionId) s.active executionId with
  | none => s
  | some execution =>
    { s with
      active := s.active.filter (·.executionId ≠ executionId)
      activeByMonitor := removeAll s.activeByMonitor [execution.command.monitorId]
      activeByKey := removeAll s.activeByKey execution.command.stationKeyIds
      stationInUse := lower s.stationInUse execution.command.stationId
      keyInUse := execution.command.stationKeyIds.foldl lower s.keyInUse
      terminalInterruptedCount :=
        if interrupted then min (s.terminalInterruptedCount + 1) wordMax
        else s.terminalInterruptedCount }

def shutdownBegin : RuntimeState :=
  { s with
    admitting := false
    queue := []
    queuedByMonitor := fun _ => none
    queuedByKey := fun _ => none }

end RuntimeState

/-! ### Guards and interruptions -/

/-- The runtime with the guards that are held and what the interruptions under way have still
to release, and a record of what has been started and released. -/
structure MonitoringRuntime where
  state : RuntimeState
  guards : List String
  interruptions : List (List String)
  started : List String
  released : List String

inductive RuntimeAction
  | admitCommand (command : SchedulerCommand)
  | startNext
  | guard (executionId : String)
  /-- A guard is finished, or dropped: both release its execution. -/
  | letGo (executionId : String)
  | shutdownBegin
  /-- `interrupt_running` lists the active executions. -/
  | interruptRunning
  /-- It releases the next one of its list. -/
  | interruptNext (interruption : Nat)

namespace MonitoringRuntime

def new (limits : MonitoringRuntimeLimits) : MonitoringRuntime := ⟨.new limits, [], [], [], []⟩

/-- What a call of `release` does, with its record. -/
def release (runtime : MonitoringRuntime) (executionId : String) (interrupted : Bool) :
    MonitoringRuntime :=
  { runtime with
    state := runtime.state.release executionId interrupted
    released := if runtime.state.isActive executionId then executionId :: runtime.released
      else runtime.released }

def step (runtime : MonitoringRuntime) : RuntimeAction → MonitoringRuntime
  | .admitCommand command => { runtime with state := (runtime.state.admitCommand command).2 }
  | .startNext =>
    match runtime.state.startNext with
    | (.started executionId _, state) =>
      { runtime with state, started := executionId :: runtime.started }
    | (_, state) => { runtime with state }
  | .guard executionId =>
    if runtime.state.isActive executionId then
      { runtime with guards := executionId :: runtime.guards }
    else runtime
  | .letGo executionId =>
    if executionId ∈ runtime.guards then
      { runtime with guards := runtime.guards.erase executionId }.release executionId false
    else runtime
  | .shutdownBegin => { runtime with state := runtime.state.shutdownBegin }
  | .interruptRunning =>
    { runtime with
      interruptions := runtime.interruptions ++ [runtime.state.active.map (·.executionId)] }
  | .interruptNext interruption =>
    match runtime.interruptions[interruption]? with
    | some (executionId :: rest) =>
      { runtime with interruptions := runtime.interruptions.set interruption rest }.release
        executionId true
    | _ => runtime

end MonitoringRuntime

end RelayPool.Monitoring
