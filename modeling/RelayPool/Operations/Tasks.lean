import RelayPool.Runs
import RelayPool.Operations.Registry

/-! Calls and tasks around the registry.

Every call takes the registry's mutex for one section at a time, so a run is a list of
such sections, of whichever calls and tasks, each a while after the one before. A start
draws its id, is admitted, spawns its task and hands over the join handle in four
sections; a cancellation that took the handle waits for the task; a task ends by
recording its terminal, unless its body panics. -/
namespace RelayPool.Operations
open Table Runs

inductive TaskPhase
  | admitted
  | running
  | ended
  | panicked
  deriving DecidableEq

/-- The task that `start` spawns for an operation. -/
structure OperationTask where
  id : OperationId
  concurrencyKey : Option String
  phase : TaskPhase
  deriving DecidableEq

/-- The task has neither ended nor panicked. -/
def OperationTask.isUnfinished (task : OperationTask) : Bool :=
  task.phase = .admitted ∨ task.phase = .running

structure OperationStartRequest where
  kind : String
  owner : OperationOwner
  deadline : Option Duration
  concurrencyKey : Option String
  cancellation : CancellationPolicy

/-- A start that has drawn its id and not reached the registry yet. -/
structure StartCall where
  id : OperationId
  spec : RunningOperationSpec
  deriving DecidableEq

structure OperationRegistry where
  inner : OperationRegistryInner
  nextId : OperationId
  admissionClosed : Bool
  /-- The time of the last section. -/
  clock : Instant
  starting : List StartCall
  tasks : List OperationTask
  /-- Starts that hold the join handle of a task they spawned. -/
  retaining : List OperationId
  /-- Cancellations that wait for the task whose join handle they took. -/
  cancelling : List OperationId

inductive Section
  | start (request : OperationStartRequest)
  | startLocked (id : OperationId)
  | spawn (id : OperationId)
  | retainJoin (id : OperationId)
  /-- The body returned a terminal, or the deadline elapsed first. -/
  | ends (id : OperationId) (returned : Option OperationTerminal)
  | panics (id : OperationId)
  | enterCommitBarrier (id : OperationId)
  | progress (id : OperationId) (message : String)
  | status (id : OperationId)
  | cancel (id : OperationId)
  /-- The task that a cancellation waits for is done. -/
  | joined (id : OperationId)
  /-- The wait of a cancellation elapsed, or its caller dropped it. -/
  | gaveUp (id : OperationId)
  | detach (id : OperationId)
  | gc
  | stopAdmission

/-- The section draws an id. -/
def Section.isStart : Section → Bool
  | .start _ => true
  | _ => false

/-- One section, a while after the one before. -/
structure Turn where
  elapsed : Duration
  taken : Section

namespace OperationRegistry

/-- `OperationRegistry::new`. -/
def new : OperationRegistry where
  inner := .empty
  nextId := 1
  admissionClosed := false
  clock := 0
  starting := []
  tasks := []
  retaining := []
  cancelling := []

def specOf (config : OperationRegistryConfig) (request : OperationStartRequest) :
    RunningOperationSpec where
  kind := request.kind
  owner := request.owner
  deadline := request.deadline.getD config.defaultDeadline
  concurrencyKey := request.concurrencyKey
  cancellation := request.cancellation

/-- The part of `start` before the mutex. The id is drawn before the deadline is checked. -/
def start (config : OperationRegistryConfig) (request : OperationStartRequest)
    (registry : OperationRegistry) : Except OperationRegistryError StartCall × OperationRegistry :=
  if registry.admissionClosed then (.error .admissionClosed, registry)
  else
    let call : StartCall := ⟨registry.nextId, specOf config request⟩
    let drawn := { registry with nextId := (registry.nextId + 1) % 2 ^ 64 }
    if call.spec.deadline = 0 then (.error .invalidSpec, drawn)
    else (.ok call, { drawn with starting := registry.starting ++ [call] })

def taskIs (registry : OperationRegistry) (id : OperationId) (phase : TaskPhase) : Bool :=
  registry.tasks.any fun task => task.id = id ∧ task.phase = phase

/-- The task with this id moves on to `phase`. -/
def move (registry : OperationRegistry) (id : OperationId) (phase : TaskPhase) :
    OperationRegistry :=
  { registry with
    tasks := updateWhere (·.id = id) (fun task => { task with phase }) registry.tasks }

def onInner (f : OperationRegistryInner → OperationRegistryInner) (registry : OperationRegistry) :
    OperationRegistry :=
  { registry with inner := f registry.inner }

/-- What `start` does with its call once it has the mutex. -/
def answerCall (config : OperationRegistryConfig) (call : StartCall) (registry : OperationRegistry) :
    Except OperationRegistryError OperationRegistryInner :=
  registry.inner.startLocked config registry.admissionClosed call.id call.spec registry.clock

def panicked : OperationTerminal := .failed "operation-panicked"

/-- One section, at the registry's clock. -/
def perform (config : OperationRegistryConfig) (registry : OperationRegistry) :
    Section → OperationRegistry
  | .start request => (registry.start config request).2
  | .startLocked id =>
    match lookup (·.id) registry.starting id with
    | none => registry
    | some call =>
      let answered := { registry with starting := registry.starting.filter (·.id ≠ id) }
      match registry.answerCall config call with
      | .error _ => answered
      | .ok inner =>
        { answered with
          inner
          tasks := registry.tasks ++ [⟨id, call.spec.concurrencyKey, .admitted⟩] }
  | .spawn id =>
    if registry.taskIs id .admitted then
      { registry.move id .running with retaining := registry.retaining ++ [id] }
    else registry
  | .retainJoin id =>
    if id ∈ registry.retaining then
      { registry.onInner (·.retainJoin id) with retaining := registry.retaining.erase id }
    else registry
  | .ends id returned =>
    if registry.taskIs id .running then
      (registry.onInner (·.finish config id (returned.getD .timedOut) registry.clock)).move id .ended
    else registry
  | .panics id =>
    if registry.taskIs id .running then registry.move id .panicked else registry
  | .enterCommitBarrier id =>
    if registry.taskIs id .running then registry.onInner (·.enterCommitBarrier id) else registry
  | .progress id message =>
    match registry.inner.progress config id message with
    | .ok inner => registry.onInner fun _ => inner
    | .error _ => registry
  | .status _ => registry
  | .cancel id =>
    let (outcome, inner) := registry.inner.cancel id
    { registry.onInner fun _ => inner with
      cancelling :=
        if outcome = .ok none then registry.cancelling ++ [id] else registry.cancelling }
  | .joined id =>
    if id ∈ registry.cancelling then
      let joined := { registry with cancelling := registry.cancelling.erase id }
      if registry.taskIs id .panicked
      then joined.onInner (·.finish config id panicked registry.clock)
      else if registry.taskIs id .ended then joined
      else registry
    else registry
  | .gaveUp id => { registry with cancelling := registry.cancelling.erase id }
  | .detach id => registry.onInner fun inner => (inner.detach id).2
  | .gc => registry.onInner (·.gc config registry.clock)
  | .stopAdmission => { registry with admissionClosed := true }

/-- The registry when a section is about to run. -/
def advance (registry : OperationRegistry) (turn : Turn) : OperationRegistry :=
  { registry with clock := registry.clock + turn.elapsed }

def step (config : OperationRegistryConfig) (registry : OperationRegistry) (turn : Turn) :
    OperationRegistry :=
  (registry.advance turn).perform config turn.taken

end OperationRegistry

end RelayPool.Operations
