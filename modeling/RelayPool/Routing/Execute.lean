import RelayPool.Routing.Admission
import RelayPool.Routing.Retry

/-! The execute loop of one request.

A pass of the loop asks the coordinator for a target, the store for the key's
circuit admission, sends one attempt and follows the retry action of its failure.
A turn is what the world answers during one pass: the clock, the counters, the
circuit, the store, the upstream. `pass_cases` says once what a pass can do. -/
namespace RelayPool.Routing
open Fallible

/-- What a load of the route snapshots gives: the loader validates the planning
snapshot, and its budget is one the policy compiler emitted. -/
structure RouteSnapshots where
  planning : PlanningSnapshot
  targets : List ExecutionTargetRef
  wellFormed : planning.WellFormed
  valid : planning.validate = .ok ()
  budget : planning.attemptBudget.validate = .ok ()

def RouteSnapshots.operational (s : RouteSnapshots) : OperationalRouteSnapshot :=
  loadOperationalRouteSnapshot s.targets s.planning

/-- The answers of the repository to the admission of an attempt at a key's circuit. -/
inductive CircuitAdmissionResult where
  | allowedClosed
  | allowedHalfOpen (leaseRevision : Nat)
  | deniedOpenCooldown
  | deniedHalfOpenLease
  | deniedGenerationFence
  | deniedStaleGeneration
  | deniedLateAfterFinalization
  | deniedPersistenceUnavailable
deriving DecidableEq, Repr

/-- What the world answers during one pass. -/
structure Turn where
  deadlineLeft : Bool
  /-- How often others changed the shared runtime since the last pass. -/
  runtimeChanges : Nat
  nowMs : Int
  active : CompositeCapacityRequest → CapacityConstraintKey → Nat
  waiting : CapacityConstraintKey → Nat
  reload : Except ProxyFailure RouteSnapshots
  circuit : Except ProxyFailure CircuitAdmissionResult
  /-- The wait for the routing generation to settle. -/
  transition : Except ProxyFailure Unit
  /-- The deadline checks and the resolution of the target before the attempt. -/
  preparation : Except ProxyFailure Unit
  boundaryCrossed : Bool
  attempt : Except ProxyFailure Unit
  remainingPrecommitBudgetMs : Option Nat
  /-- The write of the attempt's terminal record. -/
  finishAttempt : Except ProxyFailure Unit

structure ExecuteRequest where
  idempotent : Bool
  deadlineMs : Int
  rootSeed : List UInt8
  initial : RouteSnapshots

namespace ExecuteRequest
variable (request : ExecuteRequest)

/-- The budget is frozen before any replan. -/
def attemptBudget : AttemptBudgetProfileV1 := request.initial.planning.attemptBudget

def settings : AdmissionSettings where
  deadlineMs := request.deadlineMs
  initialRuntimeOverlayRevision := request.initial.planning.runtime.runtimeRevision
  initialDurableGeneration := request.initial.planning.durableRevision
  fallbackPolicy := fallbackPolicy request.idempotent
  attemptBudget := request.attemptBudget

end ExecuteRequest

/-- The budget of a request is one the policy compiler emits. -/
theorem attemptBudget_valid (request : ExecuteRequest) :
    0 < request.attemptBudget.maxTotalAttempts ∧ request.attemptBudget.maxTotalAttempts ≤ 4 ∧
      0 < request.attemptBudget.consecutiveFailureThreshold := by
  have valid := request.initial.budget
  simp only [AttemptBudgetProfileV1.validate, bind_ok, ite_ok, throw_ok, false_and, exists_false,
    and_false, false_or, not_and, not_le, not_or] at valid
  unfold ExecuteRequest.attemptBudget
  unfold maxTotalAttemptsHardCap at valid
  omega

def maxExecutionReplans : Nat := 3

def maxExecutionAttemptsHardCap : Nat := 40

def executionAttemptLimit (profile : AttemptBudgetProfileV1) (candidateCount : Nat) : Nat :=
  max 1 (min (min profile.maxTotalAttempts (max candidateCount 1) *
    profile.consecutiveFailureThreshold) maxExecutionAttemptsHardCap)

/-- An attempt that crossed the outbound boundary. -/
structure OutboundAttempt where
  attemptIndex : Nat
  stationKeyId : String
  routingIdentity : String
  targetRank : Nat
  /-- The failure and the action planned for it; none for a success. -/
  failure : Option (ProxyFailure × RetryAction)
deriving DecidableEq, Repr

structure ExecutionSuccess where
  stationKeyId : String
  attemptIndex : Nat
deriving DecidableEq, Repr

/-- The variables of the loop; `attempts` is the record of what was sent, and
`result` is set when the function returns. -/
structure Execution where
  request : ExecuteRequest
  controller : RouteAdmissionCoordinator
  snapshots : RouteSnapshots
  runtimeRevision : Nat
  attemptIndex : Nat
  currentKeyId : Option String
  currentKeyRetryCount : Nat
  currentKeyHadOutboundAttempt : Bool
  replanCount : Nat
  attemptedCount : Nat
  lastFailure : Option ProxyFailure
  attempts : List OutboundAttempt
  result : Option (Except ProxyFailure ExecutionSuccess)

namespace Execution

def start (request : ExecuteRequest) : Execution where
  request
  controller := .new request.settings
  snapshots := request.initial
  runtimeRevision := request.initial.planning.runtime.runtimeRevision
  attemptIndex := 0
  currentKeyId := none
  currentKeyRetryCount := 0
  currentKeyHadOutboundAttempt := false
  replanCount := 0
  attemptedCount := 0
  lastFailure := none
  attempts := []
  result := none

variable (e : Execution) (t : Turn)

def attemptLimit : Nat :=
  executionAttemptLimit e.request.attemptBudget e.request.initial.operational.candidates.length

def fail (failure : ProxyFailure) : Execution := { e with result := some (.error failure) }

/-- The end of the loop: the last failure, or that there was no key. -/
def exhausted : Execution :=
  e.fail { e.lastFailure.getD noAvailableKeyFailure with attemptCount := some e.attemptedCount }

def input : AdmissionPlanningInput where
  executionCandidates := e.snapshots.operational.candidates
  planningSnapshot := e.snapshots.planning
  rootSeed := e.request.rootSeed
  profiles := e.snapshots.operational.profiles
  active := t.active
  waiting := t.waiting
  currentRuntimeOverlayRevision := e.runtimeRevision + t.runtimeChanges
  nowMs := t.nowMs
  maxWaitersPerConstraint := 0

/-- The answer of the coordinator in this pass. -/
def decision : Except AdmissionFailure AdmissionDecision := (e.controller.next (e.input t)).2

/-- The state after the coordinator was asked. -/
def asked : Execution :=
  { e with
    controller := (e.controller.next (e.input t)).1
    runtimeRevision := e.runtimeRevision + t.runtimeChanges }

def withSnapshots (snapshots : RouteSnapshots) : Execution := { e with snapshots }

def replanned : Execution := { e with replanCount := e.replanCount + 1 }

def replan : Execution :=
  if maxExecutionReplans ≤ e.replanCount then
    e.fail (controllerFailure executionReplanLimitExceeded)
  else
    match t.reload with
    | .error failure => e.replanned.fail failure
    | .ok snapshots => e.replanned.withSnapshots snapshots

/-- The key of this pass; another key than the current one starts over. -/
def focus (key : String) : Execution :=
  if e.currentKeyId = some key then e
  else
    { e with
      currentKeyId := some key
      currentKeyRetryCount := 0
      currentKeyHadOutboundAttempt := false }

def fenced : Execution :=
  match t.transition with
  | .error failure => e.fail failure
  | .ok () =>
    match t.reload with
    | .error failure => e.fail failure
    | .ok snapshots => e.withSnapshots snapshots

/-- The circuit of the key turned the attempt away. -/
def denied (key : String) : Execution :=
  { e with
    controller :=
      if e.currentKeyId = some key ∧ e.currentKeyHadOutboundAttempt then
        e.controller.excludeAttemptedKey key
      else e.controller.excludeStationKey key
    currentKeyId := none
    currentKeyRetryCount := 0
    currentKeyHadOutboundAttempt := false
    runtimeRevision := e.runtimeRevision + 1 }

def retryAction (failure : ProxyFailure) (leased : Bool) : RetryAction :=
  planWithContext failure e.request.idempotent false {
    attemptOrdinal := e.attemptIndex
    policyRevision := e.request.attemptBudget.policyRevision
    remainingAttemptBudget := e.controller.remainingAdditionalKeyBudget
    remainingSameKeyFailureBudget :=
      if leased then 0
      else e.request.attemptBudget.consecutiveFailureThreshold - (e.currentKeyRetryCount + 1)
    remainingPrecommitBudgetMs := t.remainingPrecommitBudgetMs }

def outbound (candidate : RoutePlanCandidate) (failure : Option (ProxyFailure × RetryAction)) :
    OutboundAttempt :=
  ⟨e.attemptIndex, candidate.stationKeyId, candidate.routingIdentity, candidate.targetRank, failure⟩

/-- The outbound boundary was crossed. -/
def sent (candidate : RoutePlanCandidate) (failure : Option (ProxyFailure × RetryAction)) :
    Execution :=
  { e with
    attempts := e.attempts ++ [e.outbound candidate failure]
    attemptedCount := max e.attemptedCount (e.attemptIndex + 1)
    currentKeyHadOutboundAttempt := true }

def succeeded (candidate : RoutePlanCandidate) : Execution :=
  let (controller, recorded) := e.controller.recordActualTerminalForStationKey
    candidate.stationKeyId candidate.routingIdentity .succeeded
  match recorded with
  | .error failure => { e with controller }.fail (controllerFailure failure)
  | .ok () => { e with controller, result := some (.ok ⟨candidate.stationKeyId, e.attemptIndex⟩) }

/-- On to the next attempt. -/
def advanced (failure : ProxyFailure) : Execution :=
  { e with lastFailure := some failure, attemptIndex := e.attemptIndex + 1 }

def stopped (failure : ProxyFailure) : Execution :=
  { e with lastFailure := some failure }.exhausted

def retried (failure : ProxyFailure) : Execution :=
  { e with
    currentKeyRetryCount := e.currentKeyRetryCount + 1
    controller := e.controller.recordRetryAttempt }.advanced failure

/-- The key is left behind, charged with its terminal. -/
def left (candidate : RoutePlanCandidate) (failure : ProxyFailure) (action : RetryAction) :
    Execution :=
  { e with
    currentKeyRetryCount := 0
    currentKeyId := none
    currentKeyHadOutboundAttempt := false
    controller := (e.controller.recordActualTerminalForStationKey candidate.stationKeyId
      candidate.routingIdentity (actualTerminalForAction failure action)).1 }

def moved (candidate : RoutePlanCandidate) (failure : ProxyFailure) (action : RetryAction) :
    Execution :=
  if !action.allowsReplan then (e.left candidate failure action).stopped failure
  else
    match (e.controller.recordActualTerminalForStationKey candidate.stationKeyId
        candidate.routingIdentity (actualTerminalForAction failure action)).2 with
    | .error refused => (e.left candidate failure action).fail (controllerFailure refused)
    | .ok () => (e.left candidate failure action).advanced failure

/-- A failure after the boundary: its record is written, and its action followed. -/
def follow (candidate : RoutePlanCandidate) (failure : ProxyFailure) (action : RetryAction) :
    Execution :=
  match t.finishAttempt with
  | .error unavailable => e.fail unavailable
  | .ok () =>
    match action.kind with
    | .retryCurrentKey => e.retried failure
    | .tryNextKey => e.moved candidate failure action
    | .stopRequest => e.stopped failure

/-- A failure before the boundary ends the request. -/
def abandoned (failure : ProxyFailure) : Execution :=
  match t.finishAttempt with
  | .error unavailable => e.fail unavailable
  | .ok () => e.fail failure

def attempt (candidate : RoutePlanCandidate) (leased : Bool) : Execution :=
  match t.preparation with
  | .error failure => e.abandoned t failure
  | .ok () =>
    match t.attempt with
    | .ok () => (if t.boundaryCrossed then e.sent candidate none else e).succeeded candidate
    | .error failure =>
      if !t.boundaryCrossed then e.abandoned t failure
      else
        let action := e.retryAction t failure leased
        (e.sent candidate (some (failure, action))).follow t candidate failure action

def admitted (candidate : RoutePlanCandidate) : Execution :=
  match t.circuit with
  | .error failure => e.fail failure
  | .ok .deniedGenerationFence => e.fenced t
  | .ok .deniedStaleGeneration => e.fenced t
  | .ok .allowedClosed => e.attempt t candidate false
  | .ok (.allowedHalfOpen _) => e.attempt t candidate true
  | .ok .deniedOpenCooldown => e.denied candidate.stationKeyId
  | .ok .deniedHalfOpenLease => e.denied candidate.stationKeyId
  | .ok .deniedLateAfterFinalization => e.denied candidate.stationKeyId
  | .ok .deniedPersistenceUnavailable => e.denied candidate.stationKeyId

/-- One pass of the loop. -/
def pass : Execution :=
  if e.result.isSome then e
  else if e.attemptLimit ≤ e.attemptIndex then e.exhausted
  else if !t.deadlineLeft then e.fail precommitTimeoutFailure
  else
    match e.decision t with
    | .error failure =>
      if e.lastFailure.isSome ∧ catalogPlanningExhausted failure then (e.asked t).exhausted
      else (e.asked t).fail (controllerFailure failure)
    | .ok (.replan _) => (e.asked t).replan t
    | .ok (.wait _) =>
      (e.asked t).fail (controllerFailure ⟨.capacityExhausted, [⟨"capacity_wait_required", ""⟩]⟩)
    | .ok (.selected route) =>
      ((e.asked t).focus route.candidate.stationKeyId).admitted t route.candidate

/-! ### What a pass can do -/

/-- The pass takes a target. -/
def Picks (route : SelectedRoute) : Prop := e.decision t = .ok (.selected route)

/-- The state in which a pass that took a target goes on. -/
def picked (candidate : RoutePlanCandidate) : Execution :=
  (e.asked t).focus candidate.stationKeyId

/-- The loop is entered once more. -/
structure Runs : Prop where
  running : e.result = none
  withinLimit : e.attemptIndex < e.attemptLimit
  inTime : t.deadlineLeft

/-- What is known of a target that was taken, before and after the coordinator's
answer. -/
structure Choice (route : SelectedRoute) : Prop where
  kept : RouteAdmissionCoordinator.Kept e.controller (e.picked t route.candidate).controller
  inPlay : route.candidate.stationKeyId ∉ e.controller.progress.actualAttemptExclusions
  budget : e.controller.progress.attemptCount < e.controller.maxAttempts
  rankLimit : modelFallbackRankAllowed e.controller.modelFallbackRankLimit
    route.candidate.targetRank
  offers : ∀ rank, e.controller.Offers e.snapshots.planning rank →
    route.candidate.targetRank ≤ rank
  ranks : mapGet (e.picked t route.candidate).controller.candidateTargetRanks
    route.candidate.routingIdentity = some route.candidate.targetRank
  trigger : (e.picked t route.candidate).controller.modelFallbackTrigger =
    e.snapshots.planning.modelFallbackTrigger
  may : e.controller.MayPlan (e.input t)
  revision : (e.picked t route.candidate).controller.runtimeOverlayRevision =
    e.controller.runtimeOverlayRevision

theorem picked_controller (candidate : RoutePlanCandidate) :
    (e.picked t candidate).controller = (e.controller.next (e.input t)).1 := by
  unfold picked focus
  split <;> rfl

theorem Picks.choice {e : Execution} {t : Turn} {route : SelectedRoute}
    (picks : e.Picks t route) : Choice e t route := by
  have ok : (e.controller.next (e.input t)).2 = .ok (.selected route) := picks
  obtain ⟨plan, selects⟩ := RouteAdmissionCoordinator.next_selected ok
  obtain ⟨candidate, variant, picked⟩ := selects.picked e.snapshots.targets e.snapshots.wellFormed rfl
  obtain ⟨passCapacity, state⟩ := selects.takes.state
  have ranks := RouteAdmissionCoordinator.mapGet_targetRanks e.snapshots.wellFormed picked.member
  rw [← picked.routingIdentity, ← picked.targetRank] at ranks
  refine ⟨?_, picked.stationKeyId ▸ picked.inPlay, selects.gate.budget, ?_,
    fun rank => selects.rank_le_of_offers, ?_, ?_, selects.may, ?_⟩
  · rw [picked_controller]
    exact RouteAdmissionCoordinator.next_kept _ _
  · rw [selects.targetRank]
    exact selects.gate.rankLimit
  all_goals rw [picked_controller, state]
  · exact ranks
  · rfl
  · rfl

/-- The request has ended, and nothing more was sent for it. -/
structure Ended (e e' : Execution) : Prop where
  finished : e'.result.isSome
  attempts : e'.attempts = e.attempts
  request : e'.request = e.request

theorem Ended.of_eq {e₁ e₂ e' : Execution} (h : Ended e₂ e') (attempts : e₂.attempts = e₁.attempts)
    (request : e₂.request = e₁.request) : Ended e₁ e' :=
  ⟨h.finished, h.attempts.trans attempts, h.request.trans request⟩

/-- A pass leaves a request that is over alone, ends it, or goes on in one of five
ways. -/
inductive Passes (e : Execution) (t : Turn) : Execution → Prop where
  | finished : e.result.isSome → Passes e t e
  | stops {e' : Execution} : e.result = none → Ended e e' → Passes e t e'
  | replans (transition : AdmissionTransition) (snapshots : RouteSnapshots) : e.Runs t →
      e.decision t = .ok (.replan transition) → e.replanCount < maxExecutionReplans →
      t.reload = .ok snapshots →
      Passes e t ((e.asked t).replanned.withSnapshots snapshots)
  | fences (route : SelectedRoute) (snapshots : RouteSnapshots) : e.Runs t → e.Picks t route →
      (t.circuit = .ok .deniedGenerationFence ∨ t.circuit = .ok .deniedStaleGeneration) →
      t.reload = .ok snapshots →
      Passes e t ((e.picked t route.candidate).withSnapshots snapshots)
  | denies (route : SelectedRoute) : e.Runs t → e.Picks t route →
      Passes e t ((e.picked t route.candidate).denied route.candidate.stationKeyId)
  | ends (route : SelectedRoute) (failure : Option (ProxyFailure × RetryAction))
      {e' : Execution} : e.Runs t → e.Picks t route →
      Ended ((e.picked t route.candidate).sent route.candidate failure) e' → Passes e t e'
  | retries (route : SelectedRoute) (failure : ProxyFailure) (leased : Bool) : e.Runs t →
      e.Picks t route →
      ((e.picked t route.candidate).retryAction t failure leased).kind = .retryCurrentKey →
      Passes e t (((e.picked t route.candidate).sent route.candidate (some (failure,
        (e.picked t route.candidate).retryAction t failure leased))).retried failure)
  | moves (route : SelectedRoute) (failure : ProxyFailure) (leased : Bool) : e.Runs t →
      e.Picks t route →
      ((e.picked t route.candidate).retryAction t failure leased).kind = .tryNextKey →
      Passes e t ((((e.picked t route.candidate).sent route.candidate (some (failure,
        (e.picked t route.candidate).retryAction t failure leased))).left route.candidate failure
          ((e.picked t route.candidate).retryAction t failure leased)).advanced failure)

theorem focus_attempts (key : String) : (e.focus key).attempts = e.attempts := by
  unfold focus
  split <;> rfl

theorem focus_request (key : String) : (e.focus key).request = e.request := by
  unfold focus
  split <;> rfl

@[simp] theorem picked_attempts (candidate : RoutePlanCandidate) :
    (e.picked t candidate).attempts = e.attempts := focus_attempts (e.asked t) _

@[simp] theorem picked_request (candidate : RoutePlanCandidate) :
    (e.picked t candidate).request = e.request := focus_request (e.asked t) _

@[simp] theorem picked_snapshots (candidate : RoutePlanCandidate) :
    (e.picked t candidate).snapshots = e.snapshots := by
  unfold picked focus
  split <;> rfl

@[simp] theorem picked_attemptIndex (candidate : RoutePlanCandidate) :
    (e.picked t candidate).attemptIndex = e.attemptIndex := by
  unfold picked focus
  split <;> rfl

@[simp] theorem picked_replanCount (candidate : RoutePlanCandidate) :
    (e.picked t candidate).replanCount = e.replanCount := by
  unfold picked focus
  split <;> rfl

@[simp] theorem picked_result (candidate : RoutePlanCandidate) :
    (e.picked t candidate).result = e.result := by
  unfold picked focus
  split <;> rfl

@[simp] theorem picked_runtimeRevision (candidate : RoutePlanCandidate) :
    (e.picked t candidate).runtimeRevision = e.runtimeRevision + t.runtimeChanges := by
  unfold picked focus
  split <;> rfl

theorem picked_sent_attempts (candidate : RoutePlanCandidate)
    (failure : Option (ProxyFailure × RetryAction)) :
    ((e.picked t candidate).sent candidate failure).attempts =
      e.attempts ++ [(e.picked t candidate).outbound candidate failure] := by
  rw [sent, picked_attempts]

theorem fail_ended (failure : ProxyFailure) : Ended e (e.fail failure) := ⟨rfl, rfl, rfl⟩

theorem stopped_ended (failure : ProxyFailure) : Ended e (e.stopped failure) := ⟨rfl, rfl, rfl⟩

theorem abandoned_ended (failure : ProxyFailure) : Ended e (e.abandoned t failure) := by
  unfold abandoned
  split <;> exact fail_ended e _

theorem succeeded_ended (candidate : RoutePlanCandidate) : Ended e (e.succeeded candidate) := by
  unfold succeeded
  dsimp only
  split <;> exact ⟨rfl, rfl, rfl⟩

theorem replan_cases {e : Execution} {t : Turn} :
    Ended e (e.replan t) ∨
      e.replanCount < maxExecutionReplans ∧
        ∃ snapshots, t.reload = .ok snapshots ∧
          e.replan t = e.replanned.withSnapshots snapshots := by
  unfold replan
  by_cases spent : maxExecutionReplans ≤ e.replanCount
  · rw [if_pos spent]
    exact .inl (fail_ended e _)
  · rw [if_neg spent]
    cases t.reload with
    | error failure => exact .inl ⟨rfl, rfl, rfl⟩
    | ok snapshots => exact .inr ⟨by omega, snapshots, rfl, rfl⟩

theorem fenced_cases {e : Execution} {t : Turn} :
    Ended e (e.fenced t) ∨
      ∃ snapshots, t.reload = .ok snapshots ∧ e.fenced t = e.withSnapshots snapshots := by
  unfold fenced
  cases t.transition with
  | error failure => exact .inl (fail_ended e _)
  | ok u =>
    dsimp only
    cases t.reload with
    | error failure => exact .inl (fail_ended e _)
    | ok snapshots => exact .inr ⟨snapshots, rfl, rfl⟩

/-- A failed attempt ends the request unless the planner's action goes on. -/
theorem follow_cases {e : Execution} {t : Turn} {candidate : RoutePlanCandidate}
    {failure : ProxyFailure} {action : RetryAction} :
    Ended e (e.follow t candidate failure action) ∨
      (action.kind = .retryCurrentKey ∧
        e.follow t candidate failure action = e.retried failure) ∨
      (action.kind = .tryNextKey ∧ e.follow t candidate failure action =
        (e.left candidate failure action).advanced failure) := by
  unfold follow
  cases t.finishAttempt with
  | error unavailable => exact .inl (fail_ended e _)
  | ok u =>
    dsimp only
    cases kind : action.kind with
    | retryCurrentKey => exact .inr (.inl ⟨rfl, rfl⟩)
    | stopRequest => exact .inl (stopped_ended e _)
    | tryNextKey =>
      dsimp only
      unfold moved
      split
      · exact .inl ⟨rfl, rfl, rfl⟩
      · split
        · exact .inl ⟨rfl, rfl, rfl⟩
        · exact .inr (.inr ⟨rfl, rfl⟩)

theorem Ended.of_picked {e e' : Execution} {t : Turn} {candidate : RoutePlanCandidate}
    (h : Ended (e.picked t candidate) e') : Ended e e' :=
  h.of_eq (e.picked_attempts t candidate) (e.picked_request t candidate)

theorem attempt_passes {e : Execution} {t : Turn} {route : SelectedRoute} (runs : e.Runs t)
    (picks : e.Picks t route) (leased : Bool) :
    Passes e t ((e.picked t route.candidate).attempt t route.candidate leased) := by
  unfold attempt
  cases t.preparation with
  | error failure => exact .stops runs.running (abandoned_ended _ t failure).of_picked
  | ok u =>
    dsimp only
    cases t.attempt with
    | ok u =>
      cases t.boundaryCrossed with
      | false => exact .stops runs.running (succeeded_ended _ route.candidate).of_picked
      | true => exact .ends route none runs picks (succeeded_ended _ route.candidate)
    | error failure =>
      cases t.boundaryCrossed with
      | false => exact .stops runs.running (abandoned_ended _ t failure).of_picked
      | true =>
        rcases @follow_cases ((e.picked t route.candidate).sent route.candidate
            (some (failure, (e.picked t route.candidate).retryAction t failure leased))) t
            route.candidate failure ((e.picked t route.candidate).retryAction t failure leased)
          with ended | ⟨kind, eq⟩ | ⟨kind, eq⟩
        · exact .ends route _ runs picks ended
        · show Passes e t (follow _ t route.candidate failure _)
          rw [eq]
          exact .retries route failure leased runs picks kind
        · show Passes e t (follow _ t route.candidate failure _)
          rw [eq]
          exact .moves route failure leased runs picks kind

theorem admitted_passes {e : Execution} {t : Turn} {route : SelectedRoute} (runs : e.Runs t)
    (picks : e.Picks t route) :
    Passes e t ((e.picked t route.candidate).admitted t route.candidate) := by
  have fence : t.circuit = .ok .deniedGenerationFence ∨ t.circuit = .ok .deniedStaleGeneration →
      Passes e t ((e.picked t route.candidate).fenced t) := by
    intro circuit
    rcases @fenced_cases (e.picked t route.candidate) t with ended | ⟨snapshots, reload, eq⟩
    · exact .stops runs.running ended.of_picked
    · rw [eq]
      exact .fences route snapshots runs picks circuit reload
  have deny : Passes e t ((e.picked t route.candidate).denied route.candidate.stationKeyId) :=
    .denies route runs picks
  unfold admitted
  cases circuit : t.circuit with
  | error failure => exact .stops runs.running (fail_ended _ failure).of_picked
  | ok answer =>
    cases answer with
    | allowedClosed => exact attempt_passes runs picks false
    | allowedHalfOpen _ => exact attempt_passes runs picks true
    | deniedGenerationFence => exact fence (.inl circuit)
    | deniedStaleGeneration => exact fence (.inr circuit)
    | deniedOpenCooldown => exact deny
    | deniedHalfOpenLease => exact deny
    | deniedLateAfterFinalization => exact deny
    | deniedPersistenceUnavailable => exact deny

/-- A pass that takes a target goes on to its admission. -/
theorem pass_of_picks {e : Execution} {t : Turn} {route : SelectedRoute} (runs : e.Runs t)
    (picks : e.Picks t route) :
    e.pass t = (e.picked t route.candidate).admitted t route.candidate := by
  have undecided : ¬e.result.isSome := by simp [runs.running]
  rw [pass, if_neg undecided, if_neg (by have := runs.withinLimit; omega),
    if_neg (by simp [runs.inTime])]
  simp only [show e.decision t = .ok (.selected route) from picks]
  rfl

/-- A pass whose coordinator asks for a replan makes one. -/
theorem pass_of_replan {e : Execution} {t : Turn} {reason : AdmissionTransition}
    (runs : e.Runs t) (decision : e.decision t = .ok (.replan reason)) :
    e.pass t = (e.asked t).replan t := by
  have undecided : ¬e.result.isSome := by simp [runs.running]
  rw [pass, if_neg undecided, if_neg (Nat.not_le.mpr runs.withinLimit),
    if_neg (by simp [runs.inTime]), decision]

/-- A pass whose coordinator refuses ends the request, when no attempt has failed yet. -/
theorem pass_of_refused {e : Execution} {t : Turn} {refused : AdmissionFailure} (runs : e.Runs t)
    (unfailed : e.lastFailure = none) (decision : e.decision t = .error refused) :
    e.pass t = (e.asked t).fail (controllerFailure refused) := by
  have undecided : ¬e.result.isSome := by simp [runs.running]
  rw [pass, if_neg undecided, if_neg (Nat.not_le.mpr runs.withinLimit),
    if_neg (by simp [runs.inTime]), decision]
  dsimp only
  rw [if_neg (by simp [unfailed])]

theorem pass_cases (e : Execution) (t : Turn) : Passes e t (e.pass t) := by
  by_cases finished : e.result.isSome
  · rw [pass, if_pos finished]
    exact .finished finished
  have running : e.result = none := by simpa using finished
  by_cases spent : e.attemptLimit ≤ e.attemptIndex
  · rw [pass, if_neg finished, if_pos spent]
    exact .stops running ⟨rfl, rfl, rfl⟩
  by_cases late : t.deadlineLeft
  swap
  · rw [pass, if_neg finished, if_neg spent, if_pos (by simpa using late)]
    exact .stops running (fail_ended e _)
  have runs : e.Runs t := ⟨running, by omega, late⟩
  cases decision : e.decision t with
  | error failure =>
    rw [pass, if_neg finished, if_neg spent, if_neg (by simpa using late)]
    simp only [decision]
    split <;> exact .stops running ⟨rfl, rfl, rfl⟩
  | ok answer =>
    cases answer with
    | selected route =>
      rw [pass_of_picks runs decision]
      exact admitted_passes runs decision
    | wait constraint =>
      rw [pass, if_neg finished, if_neg spent, if_neg (by simpa using late)]
      simp only [decision]
      exact .stops running ⟨rfl, rfl, rfl⟩
    | replan transition =>
      rw [pass_of_replan runs decision]
      rcases @replan_cases (e.asked t) t with ended | ⟨left, snapshots, reload, eq⟩
      · exact .stops running ⟨ended.finished, ended.attempts, ended.request⟩
      · rw [eq]
        exact .replans transition snapshots runs decision left reload

theorem pass_request {e e' : Execution} {t : Turn} (passes : Passes e t e') :
    e'.request = e.request := by
  cases passes with
  | finished => rfl
  | stops _ ended => exact ended.request
  | replans => rfl
  | fences => exact picked_request ..
  | denies => exact picked_request ..
  | ends _ _ _ _ ended => exact ended.request.trans (picked_request ..)
  | retries => exact picked_request ..
  | moves => exact picked_request ..

/-- A pass only adds to the record of what was sent. -/
theorem pass_attempts {e e' : Execution} {t : Turn} (passes : Passes e t e') :
    ∃ added, e'.attempts = e.attempts ++ added := by
  have same : ∀ candidate, (e.picked t candidate).attempts = e.attempts ++ [] :=
    fun candidate => (picked_attempts e t candidate).trans (List.append_nil _).symm
  cases passes with
  | finished => exact ⟨[], (List.append_nil _).symm⟩
  | stops _ ended => exact ⟨[], ended.attempts.trans (List.append_nil _).symm⟩
  | replans => exact ⟨[], (List.append_nil _).symm⟩
  | fences => exact ⟨[], same _⟩
  | denies => exact ⟨[], same _⟩
  | ends _ _ _ _ ended => exact ⟨_, ended.attempts.trans (picked_sent_attempts ..)⟩
  | retries => exact ⟨_, picked_sent_attempts ..⟩
  | moves => exact ⟨_, picked_sent_attempts ..⟩

end Execution

/-! ### Plain values, for fixed inputs -/

/-- A turn in which the attempt is made and succeeds. -/
def plainTurn (snapshots : RouteSnapshots) : Turn where
  deadlineLeft := true
  runtimeChanges := 0
  nowMs := 0
  active := fun _ _ => 0
  waiting := fun _ => 0
  reload := .ok snapshots
  circuit := .ok .allowedClosed
  transition := .ok ()
  preparation := .ok ()
  boundaryCrossed := true
  attempt := .ok ()
  remainingPrecommitBudgetMs := none
  finishAttempt := .ok ()

/-- A rate limit turns the request away before it is accepted. -/
def rateLimited : ProxyFailure :=
  .fromCanonical ⟨.tryNextKey, .rateLimited, .rejectedBeforeAcceptance, .replaySafe⟩

end RelayPool.Routing
