import Mathlib.Data.List.Perm.Basic
import RelayPool.Protocol.Event

/-! Plans of a collection and the outcomes of their tasks.

A plan names tasks of which some are core; every task reports one outcome, under the
operation and the revision fence that the whole collection runs for. -/
namespace RelayPool.Collection

inductive CollectionTaskKind
  | balance
  | groups
  | publishedStatus
  | detect
deriving DecidableEq, Repr

inductive TaskRole
  | core
  | optional
deriving DecidableEq, Repr

inductive FactFamily
  | balance
  | groups
  | publishedStatus
  | endpoint
deriving DecidableEq, Repr

structure TaskSpec where
  task : CollectionTaskKind
  role : TaskRole
  factFamilies : List FactFamily
deriving DecidableEq, Repr

structure CollectionPlan where
  planVersion : Nat
  tasks : List TaskSpec
deriving DecidableEq, Repr

inductive CollectionPlanError
  | unsupportedVersion (received supported : Nat)
  | empty
  | duplicateTask (task : CollectionTaskKind)
  | missingFactFamily (task : CollectionTaskKind)
  | noCoreTask
deriving DecidableEq, Repr

def currentCollectionPlanVersion : Nat := 1

/-- The tasks after those seen, each new and with a fact family. -/
def checkTasks (seen : List CollectionTaskKind) : List TaskSpec → Except CollectionPlanError Unit
  | [] => .ok ()
  | task :: rest =>
    if task.task ∈ seen then .error (.duplicateTask task.task)
    else if task.factFamilies.isEmpty then .error (.missingFactFamily task.task)
    else checkTasks (task.task :: seen) rest

namespace CollectionPlan

def validate (plan : CollectionPlan) : Except CollectionPlanError Unit :=
  if plan.planVersion ≠ currentCollectionPlanVersion then
    .error (.unsupportedVersion plan.planVersion currentCollectionPlanVersion)
  else if plan.tasks.isEmpty then .error .empty
  else do
    checkTasks [] plan.tasks
    if !plan.tasks.any (·.role = .core) then .error .noCoreTask else .ok ()

def specFor (plan : CollectionPlan) (task : CollectionTaskKind) : Option TaskSpec :=
  plan.tasks.find? (·.task = task)

end CollectionPlan

/-! ### Outcomes -/

inductive Completion
  | succeeded
  | partially
  | failed
  | skipped
deriving DecidableEq, Repr

inductive FailureClass
  | authRejected
  | timeout
  | transport
  | malformedPayload
  | unsupported
  | invalidRequest
  | rateLimited
  | cancelled
  | resultUnknown
  | providerUnavailable
  | budgetExhausted
  | browserContextRequired
  | internal
deriving DecidableEq, Repr

inductive AuthEffect
  | none
  | startsVerification
  | confirmsValid
  | requiresReauthorization
  | indeterminate
deriving DecidableEq, Repr

inductive Freshness
  | fresh
  | stale
  | unknown
deriving DecidableEq, Repr

inductive ReasonCode
  | none
  | coreTaskFailed
  | coreTaskPartial
  | coreTaskSkipped
  | optionalTaskFailed
  | optionalTaskPartial
  | optionalTaskSkipped
  | authorizationRequired
  | authorizationVerifying
  | authIndeterminate
  | networkTimeout
  | transportError
  | malformedPayload
  | unsupportedTask
  | invalidRequest
  | rateLimited
  | cancelled
  | resultUnknown
  | providerUnavailable
  | budgetExhausted
  | internalError
  | noEvidence
  | freshnessUnknown
  | staleData
  | contractViolation
  | superseded
deriving DecidableEq, Repr

/-- The reasons in their order. -/
def ReasonCode.all : List ReasonCode :=
  [.none, .coreTaskFailed, .coreTaskPartial, .coreTaskSkipped, .optionalTaskFailed,
    .optionalTaskPartial, .optionalTaskSkipped, .authorizationRequired, .authorizationVerifying,
    .authIndeterminate, .networkTimeout, .transportError, .malformedPayload, .unsupportedTask,
    .invalidRequest, .rateLimited, .cancelled, .resultUnknown, .providerUnavailable,
    .budgetExhausted, .internalError, .noEvidence, .freshnessUnknown, .staleData,
    .contractViolation, .superseded]

inductive RevisionAxis
  | endpoint
  | credential
  | intent
deriving DecidableEq, Repr

structure RevisionFence where
  endpointRevision : Int
  credentialRevision : Int
  intentSequence : Int
deriving DecidableEq, Repr

/-- No axis is behind. -/
instance : LE RevisionFence where
  le a b := a.endpointRevision ≤ b.endpointRevision ∧ a.credentialRevision ≤ b.credentialRevision ∧
    a.intentSequence ≤ b.intentSequence

def RevisionFence.staleAxesAgainst (fence current : RevisionFence) : List RevisionAxis :=
  (if fence.endpointRevision < current.endpointRevision then [.endpoint] else []) ++
    (if fence.credentialRevision < current.credentialRevision then [.credential] else []) ++
    (if fence.intentSequence < current.intentSequence then [.intent] else [])

structure TaskOutcome where
  task : CollectionTaskKind
  operationId : String
  fence : RevisionFence
  completion : Completion
  failureClass : Option FailureClass
  authEffect : AuthEffect
  freshness : Freshness
  reason : ReasonCode
  observedAtMs : Int
deriving DecidableEq, Repr

end RelayPool.Collection
