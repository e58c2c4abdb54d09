import RelayPool.Distinct
import RelayPool.Routing.Steady

/-! The loop that lists the models of all keys.

It goes through the keys as the execute loop does, but goes on after a success: the
items of each catalog are collected, first come first kept under each id, until
planning finds no further key or the attempts are used up. Every answered attempt
marks the shared runtime as changed. -/
namespace RelayPool.Routing

/-! ### Catalogs -/

/-- A parsed body; a number is kept as it is written. -/
inductive Json where
  | null
  | bool (value : Bool)
  | number (text : String)
  | string (text : String)
  | array (items : List Json)
  | object (fields : List (String × Json))

namespace Json

def get (key : String) : Json → Option Json
  | object fields => fields.lookup key
  | _ => none

def asArray : Json → Option (List Json)
  | array items => some items
  | _ => none

def asStr : Json → Option String
  | string text => some text
  | _ => none

/-- The id of a model item. -/
def modelId (item : Json) : Option String := (item.get "id").bind asStr

end Json

/-- The items of a catalog: the `data` of an object, or an array. -/
def extractModels (value : Json) : Except String (List Json) :=
  match (value.get "data").bind Json.asArray with
  | some data => .ok data
  | none =>
    match value.asArray with
    | some data => .ok data
    | none => .error "model list response did not contain data array"

inductive ProxyExecutionBody where
  /-- The body with what the JSON parser makes of it. -/
  | buffered (value : Except String Json)
  | stream

/-- The items of an answer, or why it has none. -/
inductive CatalogAnswer where
  | items (models : List Json)
  | rejected (reasonKey explanationKey : String)

def ProxyExecutionBody.answer : ProxyExecutionBody → CatalogAnswer
  | .stream => .rejected "models_stream_response" "routing.retry.modelsStreamResponse"
  | .buffered value =>
    match value.bind extractModels with
    | .ok models => .items models
    | .error _ => .rejected "models_response_parse_failed" "routing.retry.modelsResponseParseFailed"

def internalFailure : ProxyFailure := .new .internalProxyError .internal .never

/-- What the world answers during one pass of the listing. -/
structure CatalogTurn extends Turn where
  /-- The attempt ran into the deadline of the request. -/
  timedOut : Bool
  body : ProxyExecutionBody

structure ModelsResponse where
  models : List Json
  fallbackCount : Nat
  attemptedCount : Nat

/-- The variables of the loop. -/
structure ModelsExecution where
  request : ExecuteRequest
  controller : RouteAdmissionCoordinator
  snapshots : RouteSnapshots
  runtimeRevision : Nat
  attemptIndex : Nat
  replanCount : Nat
  attemptedCount : Nat
  failedCount : Nat
  lastFailure : Option ProxyFailure
  seenIds : Finset String
  models : List Json
  result : Option (Except ProxyFailure ModelsResponse)

/-- Does the listing go on after an attempt with this action? -/
def RetryAction.allowsNextCandidate (a : RetryAction) : Bool :=
  match a.kind with
  | .stopRequest => false
  | .retryCurrentKey => true
  | .tryNextKey => true

namespace ModelsExecution

def start (request : ExecuteRequest) : ModelsExecution where
  request
  controller := .new { request.settings with fallbackPolicy := ⟨true, false⟩ }
  snapshots := request.initial
  runtimeRevision := request.initial.planning.runtime.runtimeRevision
  attemptIndex := 0
  replanCount := 0
  attemptedCount := 0
  failedCount := 0
  lastFailure := none
  seenIds := ∅
  models := []
  result := none

variable (e : ModelsExecution) (t : CatalogTurn)

def attemptLimit : Nat :=
  executionAttemptLimit e.request.attemptBudget e.request.initial.operational.candidates.length

def fail (failure : ProxyFailure) : ModelsExecution := { e with result := some (.error failure) }

/-- The end of the loop: what was collected, if anything was. -/
def finish : ModelsExecution :=
  if e.models.isEmpty then e.fail (e.lastFailure.getD internalFailure)
  else { e with result := some (.ok ⟨e.models, e.failedCount, e.attemptedCount⟩) }

def input : AdmissionPlanningInput where
  executionCandidates := e.snapshots.operational.candidates
  planningSnapshot := e.snapshots.planning
  rootSeed := e.request.rootSeed
  profiles := e.snapshots.operational.profiles
  active := t.active
  waiting := t.waiting
  currentRuntimeOverlayRevision := e.runtimeRevision + t.runtimeChanges
  nowMs := t.nowMs
  maxWaitersPerConstraint := 0

def decision : Except AdmissionFailure AdmissionDecision := (e.controller.next (e.input t)).2

/-- The state after the coordinator was asked. -/
def asked : ModelsExecution :=
  { e with
    controller := (e.controller.next (e.input t)).1
    runtimeRevision := e.runtimeRevision + t.runtimeChanges }

def withSnapshots (snapshots : RouteSnapshots) : ModelsExecution := { e with snapshots }

def replanned : ModelsExecution := { e with replanCount := e.replanCount + 1 }

def replan : ModelsExecution :=
  if maxExecutionReplans ≤ e.replanCount then
    e.fail (controllerFailure executionReplanLimitExceeded)
  else
    match t.reload with
    | .error failure => e.replanned.fail failure
    | .ok snapshots => e.replanned.withSnapshots snapshots

def fenced : ModelsExecution :=
  match t.transition with
  | .error failure => e.fail failure
  | .ok () =>
    match t.reload with
    | .error failure => e.fail failure
    | .ok snapshots => e.withSnapshots snapshots

def denied (key : String) : ModelsExecution :=
  { e with
    controller := e.controller.excludeStationKey key
    runtimeRevision := e.runtimeRevision + 1 }

/-- An attempt that ends the request with its own failure. -/
def abandoned (failure : ProxyFailure) : ModelsExecution :=
  match t.finishAttempt with
  | .error unavailable => e.fail unavailable
  | .ok () => e.fail failure

/-- The outbound boundary was crossed. -/
def sent : ModelsExecution := { e with attemptedCount := max e.attemptedCount (e.attemptIndex + 1) }

def collectItem (item : Json) : ModelsExecution :=
  match item.modelId with
  | none => e
  | some id =>
    if id ∈ e.seenIds then e
    else { e with seenIds := insert id e.seenIds, models := e.models ++ [item] }

def collect (items : List Json) : ModelsExecution := items.foldl collectItem e

/-- On to the next attempt, with the runtime marked as changed. -/
def advanced : ModelsExecution :=
  { e with runtimeRevision := e.runtimeRevision + 1, attemptIndex := e.attemptIndex + 1 }

/-- The attempt is recorded with its terminal, and the loop goes on or ends. -/
def recorded (candidate : RoutePlanCandidate) (outcome : ActualAttemptTerminal) (goesOn : Bool) :
    ModelsExecution :=
  let (controller, answer) := e.controller.recordActualTerminalForStationKey
    candidate.stationKeyId candidate.routingIdentity outcome
  match answer with
  | .error failure => { e with controller }.fail (controllerFailure failure)
  | .ok () => if goesOn then { e with controller }.advanced else { e with controller }.finish

def context : RetryActionContext where
  attemptOrdinal := e.attemptIndex
  policyRevision := e.request.attemptBudget.policyRevision
  remainingAttemptBudget := e.controller.remainingAdditionalKeyBudget
  remainingSameKeyFailureBudget := 0
  remainingPrecommitBudgetMs := t.remainingPrecommitBudgetMs

/-- A failure that is counted, and followed by its action. -/
def failedWith (candidate : RoutePlanCandidate) (failure : ProxyFailure) (action : RetryAction) :
    ModelsExecution :=
  match t.finishAttempt with
  | .error unavailable => e.fail unavailable
  | .ok () =>
    { e with
      failedCount := e.failedCount + 1
      lastFailure := some failure }.recorded candidate .failedBeforeCommit
        action.allowsNextCandidate

def succeeded (candidate : RoutePlanCandidate) (items : List Json) : ModelsExecution :=
  match t.finishAttempt with
  | .error unavailable => e.fail unavailable
  | .ok () => (e.collect items).recorded candidate .succeeded true

/-- What an answered attempt brought. -/
def answered (candidate : RoutePlanCandidate) : ModelsExecution :=
  match t.body.answer with
  | .items items => e.succeeded t candidate items
  | .rejected reasonKey explanationKey =>
    e.failedWith t candidate internalFailure (.stop internalFailure (e.context t)
      (.rejected reasonKey) reasonKey explanationKey)

def attempt (candidate : RoutePlanCandidate) : ModelsExecution :=
  match t.preparation with
  | .error failure => e.abandoned t failure
  | .ok () =>
    let e := if t.boundaryCrossed then e.sent else e
    if t.timedOut then e.abandoned t precommitTimeoutFailure
    else
      match t.attempt with
      | .ok () => e.answered t candidate
      | .error failure =>
        if !t.boundaryCrossed then e.abandoned t failure
        else e.failedWith t candidate failure (planWithContext failure true false (e.context t))

def admitted (candidate : RoutePlanCandidate) : ModelsExecution :=
  match t.circuit with
  | .error failure => e.fail failure
  | .ok .deniedGenerationFence => e.fenced t
  | .ok .deniedStaleGeneration => e.fenced t
  | .ok .allowedClosed => e.attempt t candidate
  | .ok (.allowedHalfOpen _) => e.attempt t candidate
  | .ok .deniedOpenCooldown => e.denied candidate.stationKeyId
  | .ok .deniedHalfOpenLease => e.denied candidate.stationKeyId
  | .ok .deniedLateAfterFinalization => e.denied candidate.stationKeyId
  | .ok .deniedPersistenceUnavailable => e.denied candidate.stationKeyId

/-- Planning that cannot go on ends the listing once an attempt was made. -/
def refused (failure : AdmissionFailure) : ModelsExecution :=
  if 0 < e.attemptedCount ∧ catalogPlanningExhausted failure then e.finish
  else e.fail (controllerFailure failure)

/-- What the pass does with the answer of the coordinator. -/
def follow : Except AdmissionFailure AdmissionDecision → ModelsExecution
  | .error failure => (e.asked t).refused failure
  | .ok (.replan _) => (e.asked t).replan t
  | .ok (.wait _) =>
    (e.asked t).refused ⟨.capacityExhausted, [⟨"capacity_wait_required", ""⟩]⟩
  | .ok (.selected route) => (e.asked t).admitted t route.candidate

/-- One pass of the loop. -/
def pass : ModelsExecution :=
  if e.result.isSome then e
  else if e.attemptLimit ≤ e.attemptIndex then e.finish
  else if !t.deadlineLeft then e.fail precommitTimeoutFailure
  else e.follow t (e.decision t)

end ModelsExecution

end RelayPool.Routing
