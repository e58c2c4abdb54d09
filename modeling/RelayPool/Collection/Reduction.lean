import RelayPool.Collection.Plan
import RelayPool.Table

/-! One projection from the outcomes of a collection (`reduce_collection`).

The outcomes are checked against the plan and against each other, the fence against that of
the projection before, and what is left is counted: the core tasks decide the status and the
freshness, the optional ones are only listed. The counts are of distinct tasks, so that no
sixteen bits overflow. -/
namespace RelayPool.Collection
open Table (lookup)
open Protocol (trim)

inductive CollectionStatus
  | notCollected
  | collecting
  | healthy
  | degraded
  | failed
  | stale
deriving DecidableEq, Repr

structure TaskProjection where
  task : CollectionTaskKind
  role : TaskRole
  completion : Completion
  failureClass : Option FailureClass
  authEffect : AuthEffect
  freshness : Freshness
  reason : ReasonCode
  observedAtMs : Int
deriving DecidableEq, Repr

structure CollectionProjection where
  status : CollectionStatus
  operationId : String
  fence : RevisionFence
  coreSuccessCount : Nat
  corePartialCount : Nat
  coreFailureCount : Nat
  optionalFailureCount : Nat
  freshness : Freshness
  reasons : List ReasonCode
  tasks : List TaskProjection
deriving DecidableEq, Repr

inductive CollectionReduction
  | applied (projection : CollectionProjection)
  | stale (axes : List RevisionAxis)
deriving DecidableEq, Repr

inductive CollectionReducerError
  | plan (error : CollectionPlanError)
  | emptyOutcomes
  | emptyOperationId
  | unexpectedTask (task : CollectionTaskKind)
  | missingTask (task : CollectionTaskKind)
  | duplicateTask (task : CollectionTaskKind)
  | mixedOperationIds
  | mixedRevisionFences
  | successWithFailure (task : CollectionTaskKind)
  | failureWithoutClass (task : CollectionTaskKind)
  | negativeObservedAt
  | watermarkConflict
deriving DecidableEq, Repr

/-! ### Checks -/

section Checks
variable (plan : CollectionPlan) (operationId : String) (fence : RevisionFence)

/-- The outcomes after those of the tasks seen. -/
def checkOutcomes (seen : List CollectionTaskKind) :
    List TaskOutcome → Except CollectionReducerError (List CollectionTaskKind)
  | [] => .ok seen
  | outcome :: rest =>
    if trim outcome.operationId = "" then .error .emptyOperationId
    else if outcome.operationId ≠ operationId then .error .mixedOperationIds
    else if outcome.fence ≠ fence then .error .mixedRevisionFences
    else if outcome.task ∈ seen then .error (.duplicateTask outcome.task)
    else if (plan.specFor outcome.task).isNone then .error (.unexpectedTask outcome.task)
    else if outcome.completion = .succeeded ∧ outcome.failureClass.isSome then
      .error (.successWithFailure outcome.task)
    else if outcome.completion = .failed ∧ outcome.failureClass.isNone then
      .error (.failureWithoutClass outcome.task)
    else if outcome.observedAtMs < 0 then .error .negativeObservedAt
    else checkOutcomes (outcome.task :: seen) rest

end Checks

/-! ### The projection -/

/-- The reason of an outcome without one of its own. -/
def defaultReason : TaskRole → Completion → ReasonCode
  | .core, .partially => .coreTaskPartial
  | .core, .failed => .coreTaskFailed
  | .core, .skipped => .coreTaskSkipped
  | .optional, .partially => .optionalTaskPartial
  | .optional, .failed => .optionalTaskFailed
  | .optional, .skipped => .optionalTaskSkipped
  | _, .succeeded => .none

def taskProjection (spec : TaskSpec) (outcome : TaskOutcome) : TaskProjection where
  task := outcome.task
  role := spec.role
  completion := outcome.completion
  failureClass := outcome.failureClass
  authEffect := outcome.authEffect
  freshness := outcome.freshness
  reason := if outcome.reason = .none then defaultReason spec.role outcome.completion
    else outcome.reason
  observedAtMs := outcome.observedAtMs

/-- The tasks in the order of the plan, each with its outcome. -/
def projectTasks (plan : CollectionPlan) (outcomes : List TaskOutcome) : List TaskProjection :=
  plan.tasks.filterMap fun spec =>
    (lookup (·.task) outcomes spec.task).map (taskProjection spec)

section Counts
variable (tasks : List TaskProjection)

def coreCount (completion : Completion) : Nat :=
  tasks.countP fun t => t.role = .core ∧ t.completion = completion

def anyCore (freshness : Freshness) : Bool :=
  tasks.any fun t => t.role = .core ∧ t.freshness = freshness

def optionalFailureCount : Nat :=
  tasks.countP fun t => t.role = .optional ∧ (t.completion = .partially ∨ t.completion = .failed)

def overallFreshness : Freshness :=
  if anyCore tasks .stale then .stale else if anyCore tasks .unknown then .unknown else .fresh

/-- The reasons of the tasks and of the freshness, without repetitions. -/
def reasonsOf : List ReasonCode :=
  let freshnessReason := match overallFreshness tasks with
    | .stale => [ReasonCode.staleData]
    | .unknown => [.freshnessUnknown]
    | .fresh => []
  ReasonCode.all.filter fun reason =>
    reason ∈ (tasks.map (·.reason)).filter (· ≠ .none) ++ freshnessReason

def statusOf (coreTaskCount : Nat) : CollectionStatus :=
  if coreCount tasks .failed = coreTaskCount then .failed
  else if coreCount tasks .skipped = coreTaskCount then .notCollected
  else if 0 < coreCount tasks .failed ∨ 0 < coreCount tasks .partially ∨
      0 < coreCount tasks .skipped then .degraded
  else if anyCore tasks .stale then .stale
  else if anyCore tasks .unknown then .degraded
  else .healthy

end Counts

def projectionOf (plan : CollectionPlan) (outcomes : List TaskOutcome) (operationId : String)
    (fence : RevisionFence) : CollectionProjection :=
  let tasks := projectTasks plan outcomes
  { status := statusOf tasks (plan.tasks.countP (·.role = .core))
    operationId
    fence
    coreSuccessCount := coreCount tasks .succeeded
    corePartialCount := coreCount tasks .partially
    coreFailureCount := coreCount tasks .failed
    optionalFailureCount := optionalFailureCount tasks
    freshness := overallFreshness tasks
    reasons := reasonsOf tasks
    tasks }

/-- The axes on which the fence is behind the previous projection. -/
def watermark (previous : Option CollectionProjection) (operationId : String)
    (fence : RevisionFence) : Except CollectionReducerError (List RevisionAxis) :=
  match previous with
  | none => .ok []
  | some current =>
    if fence.staleAxesAgainst current.fence ≠ [] then .ok (fence.staleAxesAgainst current.fence)
    else if fence = current.fence ∧ operationId ≠ current.operationId then
      .error .watermarkConflict
    else .ok []

/-- Every task of the plan has its outcome when they are projected. -/
def reduceCollection (plan : CollectionPlan) (outcomes : List TaskOutcome)
    (previous : Option CollectionProjection) : Except CollectionReducerError CollectionReduction := do
  plan.validate.mapError .plan
  match outcomes with
  | [] => .error .emptyOutcomes
  | first :: _ =>
    let operationId := trim first.operationId
    if operationId = "" then .error .emptyOperationId
    else do
      let seen ← checkOutcomes plan operationId first.fence [] outcomes
      match plan.tasks.find? (·.task ∉ seen) with
      | some spec => .error (.missingTask spec.task)
      | none => do
        let staleAxes ← watermark previous operationId first.fence
        if staleAxes ≠ [] then .ok (.stale staleAxes)
        else .ok (.applied (projectionOf plan outcomes operationId first.fence))

end RelayPool.Collection
