import RelayPool.Routing.Planner

/-! The admission coordinator of one request.

It plans on what a snapshot still offers, leaves out keys the request is done
with, keeps to the rank the model fallback allows, and takes the first target
whose capacity it gets. What the store or the other requests of the process
contribute is an input: the snapshots, the capacity counters each call finds, the
clock and the runtime revision. -/
namespace RelayPool.Routing
open Mapping (FallbackTrigger)

/-! ### Capacity -/

inductive CapacityConstraintKey where
  | halfOpen (probeId : String)
  | global
  | stationAccount (stationId : String)
  | stationKey (stationKeyId : String)
deriving DecidableEq, Repr

structure CompositeCapacityRequest where
  stationId : String
  stationKeyId : String
  halfOpenProbeId : Option String
  globalMaxConcurrency : Nat
  stationAccountMaxConcurrency : Nat
  stationKeyMaxConcurrency : Nat
deriving DecidableEq, Repr

structure CapacityAcquireFailure where
  constraint : CapacityConstraintKey
  inFlight : Nat
  maxConcurrency : Nat
deriving DecidableEq, Repr

def orderedConstraints (request : CompositeCapacityRequest) :
    List (CapacityConstraintKey × Nat) :=
  (request.halfOpenProbeId.map fun id => (CapacityConstraintKey.halfOpen id, 1)).toList ++
    [(.global, request.globalMaxConcurrency),
      (.stationAccount request.stationId, request.stationAccountMaxConcurrency),
      (.stationKey request.stationKeyId, request.stationKeyMaxConcurrency)]

/-- All constraints or none: the lease is the list of those acquired. A limit of 0
is no limit. `active` is the registry as the call finds it. -/
def tryAcquire (active : CapacityConstraintKey → Nat) (request : CompositeCapacityRequest) :
    Except CapacityAcquireFailure (List CapacityConstraintKey) :=
  match (orderedConstraints request).find? fun c => decide (0 < c.2) && decide (c.2 ≤ active c.1) with
  | some (constraint, maxConcurrency) =>
    .error ⟨constraint, active constraint, maxConcurrency⟩
  | none => .ok ((orderedConstraints request).map (·.1))

structure CapacityMissObservation where
  constraint : CapacityConstraintKey
  waitable : Bool
  inFlight : Nat
  maxConcurrency : Nat
deriving DecidableEq, Repr

def missObservation (failure : CapacityAcquireFailure) : CapacityMissObservation where
  constraint := failure.constraint
  waitable := match failure.constraint with
    | .halfOpen _ => false
    | _ => true
  inFlight := failure.inFlight
  maxConcurrency := failure.maxConcurrency

structure PlanningRoundCapacityState where
  unavailableThisPass : List CapacityMissObservation
  waitObservations : List CapacityMissObservation
deriving DecidableEq, Repr

namespace PlanningRoundCapacityState

def empty : PlanningRoundCapacityState := ⟨[], []⟩

def recordMiss (s : PlanningRoundCapacityState) (o : CapacityMissObservation) :
    PlanningRoundCapacityState where
  unavailableThisPass := s.unavailableThisPass ++ [o]
  waitObservations := if o.waitable then s.waitObservations ++ [o] else s.waitObservations

end PlanningRoundCapacityState

inductive CapacityWaitMiss where
  | notAdmitted
  | queueFull
deriving DecidableEq, Repr

/-- The constraint to wait for. -/
def buildWaitPlan (s : PlanningRoundCapacityState) (nowMs deadlineMs : Int) (maxWaiters : Nat) :
    Except CapacityWaitMiss CapacityConstraintKey :=
  if deadlineMs ≤ nowMs ∨ maxWaiters = 0 then .error .notAdmitted
  else
    match s.waitObservations.head? with
    | none => .error .notAdmitted
    | some observation => .ok observation.constraint

def tryEnterWait (waiting : CapacityConstraintKey → Nat) (constraint : CapacityConstraintKey)
    (maxWaiters : Nat) (nowMs deadlineMs : Int) : Except CapacityWaitMiss Unit :=
  if maxWaiters = 0 ∨ deadlineMs ≤ nowMs then .error .notAdmitted
  else if maxWaiters ≤ waiting constraint then .error .queueFull
  else .ok ()

/-! ### Execution candidates and profiles -/

structure DecisionEvidence where
  code : String
  detail : String
deriving DecidableEq, Repr

structure RoutePlanCandidate where
  stationKeyId : String
  stationId : String
  endpointRevision : Int
  credentialRevision : Int
  resolvedUpstreamModel : Option String
  modelVariant : Option CandidateModelVariant
  tier : AvailabilityTier
  evidence : List DecisionEvidence
deriving DecidableEq, Repr

def RoutePlanCandidate.routingIdentity (c : RoutePlanCandidate) : String :=
  (c.modelVariant.map (·.identityKey)).getD c.stationKeyId

/-- The rank of the target a candidate stands for. -/
def RoutePlanCandidate.targetRank (c : RoutePlanCandidate) : Nat :=
  (c.modelVariant.map (·.targetRank)).getD 0

structure CandidateAdmissionProfile where
  endpointRevision : Int
  expectedCredentialRevision : Int
  credentialRevision : Int
  durableGeneration : Nat
  globalMaxConcurrency : Nat
  stationAccountMaxConcurrency : Nat
  stationKeyMaxConcurrency : Nat
  halfOpenProbeId : Option String
deriving DecidableEq, Repr

def CandidateAdmissionProfile.capacityRequest (p : CandidateAdmissionProfile)
    (c : RoutePlanCandidate) : CompositeCapacityRequest where
  stationId := c.stationId
  stationKeyId := c.stationKeyId
  halfOpenProbeId := p.halfOpenProbeId
  globalMaxConcurrency := p.globalMaxConcurrency
  stationAccountMaxConcurrency := p.stationAccountMaxConcurrency
  stationKeyMaxConcurrency := p.stationKeyMaxConcurrency

/-- The entry of a map built by insertions: the last one under the key. -/
def mapGet {β : Type} (entries : List (String × β)) (key : String) : Option β :=
  entries.reverse.lookup key

/-- The execution row of a station key as the store has it now. -/
structure ExecutionTargetRef where
  stationKeyId : String
  credentialRevision : Int
  stationAccountMaxConcurrency : Nat
  stationKeyMaxConcurrency : Nat
deriving DecidableEq, Repr

structure OperationalRouteSnapshot where
  candidates : List RoutePlanCandidate
  profiles : List (String × CandidateAdmissionProfile)
deriving DecidableEq, Repr

def executionCandidate (c : CandidateSnapshot) (variant : Option CandidateModelVariant) :
    RoutePlanCandidate where
  stationKeyId := c.stationKeyId
  stationId := c.stationId
  endpointRevision := c.endpointRevision
  credentialRevision := c.credentialRevision
  resolvedUpstreamModel := (variant.map (·.upstreamModel)).or c.resolvedUpstreamModel
  modelVariant := variant
  tier := .primary
  evidence := []

def admissionProfile (s : PlanningSnapshot) (c : CandidateSnapshot)
    (target : Option ExecutionTargetRef) : CandidateAdmissionProfile where
  endpointRevision := c.endpointRevision
  expectedCredentialRevision := c.credentialRevision
  credentialRevision := (target.map (·.credentialRevision)).getD 0
  durableGeneration := s.durableRevision
  globalMaxConcurrency := max s.runtime.maxConcurrency 1
  stationAccountMaxConcurrency := (target.map (·.stationAccountMaxConcurrency)).getD 0
  stationKeyMaxConcurrency := (target.map (·.stationKeyMaxConcurrency)).getD 0
  halfOpenProbeId := none

/-- The execution side of a planning snapshot: one candidate for each of its
targets, and the admission profile of each key from the key's current row. -/
def loadOperationalRouteSnapshot (targets : List ExecutionTargetRef) (s : PlanningSnapshot) :
    OperationalRouteSnapshot where
  candidates := s.expansion.map fun e => executionCandidate e.1 e.2
  profiles := s.candidates.map fun c => (c.stationKeyId,
    admissionProfile s c (targets.reverse.find? fun t => decide (t.stationKeyId = c.stationKeyId)))

/-! ### Progress of the request -/

def saturatingSucc (n : Nat) : Nat := min (n + 1) (2 ^ 32 - 1)

structure RouteProgress where
  ordinal : Nat
  actualAttemptExclusions : Finset String
  deadlineMs : Int
  attemptCount : Nat
  snapshotRebuildCount : Nat
  runtimeRebuildCount : Nat
deriving DecidableEq

namespace RouteProgress

def new (deadlineMs : Int) : RouteProgress := ⟨0, ∅, deadlineMs, 0, 0, 0⟩

def recordActualAttempt (p : RouteProgress) (key : String) : RouteProgress :=
  { p with
    ordinal := saturatingSucc p.ordinal
    attemptCount := saturatingSucc p.attemptCount
    actualAttemptExclusions := insert key p.actualAttemptExclusions }

def recordRetryAttempt (p : RouteProgress) : RouteProgress :=
  { p with ordinal := saturatingSucc p.ordinal }

def excludeAttemptedKey (p : RouteProgress) (key : String) : RouteProgress :=
  { p with
    attemptCount := saturatingSucc p.attemptCount
    actualAttemptExclusions := insert key p.actualAttemptExclusions }

def excludeWithoutAttempt (p : RouteProgress) (key : String) : RouteProgress :=
  { p with actualAttemptExclusions := insert key p.actualAttemptExclusions }

def recordSnapshotRebuild (p : RouteProgress) : RouteProgress :=
  { p with snapshotRebuildCount := saturatingSucc p.snapshotRebuildCount }

def recordRuntimeRebuild (p : RouteProgress) : RouteProgress :=
  { p with runtimeRebuildCount := saturatingSucc p.runtimeRebuildCount }

def excludesStationKey (p : RouteProgress) (key : String) : Bool :=
  decide (key ∈ p.actualAttemptExclusions)

end RouteProgress

/-! ### The coordinator -/

inductive ActualAttemptTerminal where
  | failedBeforeCommit
  | possiblyAccepted
  | succeeded
deriving DecidableEq, Repr

structure FallbackPolicy where
  hasStableIdempotencyKey : Bool
  nonIdempotent : Bool
deriving DecidableEq, Repr

def FallbackPolicy.retrySafe (p : FallbackPolicy) (outcome : ActualAttemptTerminal) : Bool :=
  decide (outcome ≠ .possiblyAccepted) || !p.nonIdempotent || p.hasStableIdempotencyKey

inductive AdmissionFailureKind where
  | noEligible
  | temporaryHealth
  | capacityExhausted
  | deadline
  | configUnstable
  | attemptLimit
  | commitUncertain
deriving DecidableEq, Repr

structure AdmissionEvidence where
  code : String
  detail : String
deriving DecidableEq, Repr

structure AdmissionFailure where
  kind : AdmissionFailureKind
  evidence : List AdmissionEvidence
deriving DecidableEq, Repr

/-- A failure with the detail every reader looks at. -/
def failure (kind : AdmissionFailureKind) (detail : String) : AdmissionFailure :=
  ⟨kind, [⟨"failure", detail⟩]⟩

inductive AdmissionTransition where
  | runtimeReplan
  | snapshotRebuild
deriving DecidableEq, Repr

structure SelectedRoute where
  candidate : RoutePlanCandidate
  lease : List CapacityConstraintKey
  evidence : List AdmissionEvidence
deriving DecidableEq, Repr

inductive AdmissionDecision where
  | selected (route : SelectedRoute)
  | wait (constraint : CapacityConstraintKey)
  | replan (reason : AdmissionTransition)
deriving DecidableEq, Repr

structure RouteAdmissionCoordinator where
  progress : RouteProgress
  runtimeOverlayRevision : Nat
  durableGeneration : Nat
  passCapacity : PlanningRoundCapacityState
  fallbackPolicy : FallbackPolicy
  modelFallbackTrigger : Option FallbackTrigger
  modelFallbackRankLimit : Option Nat
  fallbackBlocked : Option AdmissionFailureKind
  maxAttempts : Nat
  candidateTargetRanks : List (String × Nat)
  attemptedModelTargetRanks : Finset Nat
deriving DecidableEq

structure AdmissionSettings where
  deadlineMs : Int
  initialRuntimeOverlayRevision : Nat
  initialDurableGeneration : Nat
  fallbackPolicy : FallbackPolicy
  attemptBudget : AttemptBudgetProfileV1
deriving DecidableEq, Repr

structure AdmissionPlanningInput where
  executionCandidates : List RoutePlanCandidate
  planningSnapshot : PlanningSnapshot
  rootSeed : List UInt8
  profiles : List (String × CandidateAdmissionProfile)
  /-- The counters of the shared registry as each request finds them. -/
  active : CompositeCapacityRequest → CapacityConstraintKey → Nat
  waiting : CapacityConstraintKey → Nat
  currentRuntimeOverlayRevision : Nat
  nowMs : Int
  maxWaitersPerConstraint : Nat

def candidatePopulationFailure (s : PlanningSnapshot) : Option String :=
  if s.configuredKeyCount = 0 then some "no_configured_key"
  else if s.capabilityMatchCount = 0 then some "capability_mismatch"
  else if s.candidateCapCount = 0 then some "static_candidate_unavailable"
  else none

def retryExhaustedFallbackIsOpen (candidates : List CandidateSnapshot) (progress : RouteProgress)
    (attemptedTargetRanks : Finset Nat) : Bool :=
  decide (0 ∈ attemptedTargetRanks) || candidates.any fun c =>
    progress.excludesStationKey c.stationKeyId &&
      (c.modelVariants.isEmpty || c.modelVariants.any fun v => decide (v.targetRank = 0))

def modelFallbackRankAllowed (rankLimit : Option Nat) (targetRank : Nat) : Bool :=
  rankLimit.all fun limit => decide (targetRank ≤ limit)

def tightenModelFallbackRankLimit (current : Option Nat) (failedRank : Nat) : Nat :=
  (current.map (min · failedRank)).getD failedRank

/-- The selected target first, then its tier, then the others. -/
def orderedPlannedCandidates (plan : RoutePlan) : List PlannedCandidate :=
  match (plan.candidates.map (·.tier)).min? with
  | none => []
  | some tier =>
    let selected := fun p : PlannedCandidate => decide (p.routingIdentity = plan.dispatch.selectedId)
    (plan.candidates.find? selected).toList ++
      (plan.candidates.filter fun p => decide (p.tier = tier) && !selected p) ++
      plan.candidates.filter fun p => decide (p.tier ≠ tier) && !selected p

/-- The ranks of a snapshot's targets, by identity. -/
def targetRanks (s : PlanningSnapshot) : List (String × Nat) :=
  s.candidates.flatMap fun c =>
    if c.modelVariants.isEmpty then [(c.stationKeyId, 0)]
    else c.modelVariants.map fun v => (v.identityKey, v.targetRank)

def plannerFailure : PlannerError → AdmissionFailure
  | .invalidSnapshot detail => ⟨.configUnstable, [⟨"invalid_planning_snapshot", detail⟩]⟩
  | .noEligibleCandidate => failure .noEligible "no_available_key"
  | .runtimeAtCapacity => failure .capacityExhausted "runtime_at_capacity"

/-- The execution candidate as it is handed out for a planned target. -/
def selectedCandidate (plan : RoutePlan) (planned : PlannedCandidate)
    (base : RoutePlanCandidate) : RoutePlanCandidate :=
  { base with
    tier := planned.tier
    evidence := [⟨"planner_snapshot", plan.snapshotId⟩,
      ⟨"utility_score", planned.utility.value.display⟩,
      ⟨"base_utility_score", planned.baseUtility.value.display⟩,
      ⟨"affinity_bonus", planned.affinityBonus.display⟩,
      ⟨"affinity_applied", toString planned.affinityApplied⟩]
    modelVariant := planned.variant
    resolvedUpstreamModel := (planned.variant.map (·.upstreamModel)).or base.resolvedUpstreamModel }

namespace RouteAdmissionCoordinator

def new (settings : AdmissionSettings) : RouteAdmissionCoordinator where
  progress := .new settings.deadlineMs
  runtimeOverlayRevision := settings.initialRuntimeOverlayRevision
  durableGeneration := settings.initialDurableGeneration
  passCapacity := .empty
  fallbackPolicy := settings.fallbackPolicy
  modelFallbackTrigger := none
  modelFallbackRankLimit := none
  fallbackBlocked := none
  maxAttempts := settings.attemptBudget.maxTotalAttempts
  candidateTargetRanks := []
  attemptedModelTargetRanks := ∅

variable (c : RouteAdmissionCoordinator)

def capacityStateBlocksCandidate (candidate : RoutePlanCandidate)
    (profile : CandidateAdmissionProfile) : Bool :=
  c.passCapacity.unavailableThisPass.any fun miss =>
    match miss.constraint with
    | .global => true
    | .stationAccount stationId => decide (stationId = candidate.stationId)
    | .stationKey stationKeyId => decide (stationKeyId = candidate.stationKeyId)
    | .halfOpen probeId => decide (profile.halfOpenProbeId = some probeId)

def profileInvalidatesCandidate (candidate : RoutePlanCandidate)
    (profile : CandidateAdmissionProfile) : Bool :=
  decide (profile.endpointRevision ≠ candidate.endpointRevision) ||
  decide (profile.credentialRevision ≠ profile.expectedCredentialRevision) ||
  decide (profile.durableGeneration ≠ c.durableGeneration)

/-- What `next` and the recordings return beside the new state. -/
abbrev Answer := RouteAdmissionCoordinator × Except AdmissionFailure AdmissionDecision

def rebuildOrFailConfig (profile : CandidateAdmissionProfile) : Answer :=
  if 0 < c.progress.snapshotRebuildCount then
    (c, .error (failure .configUnstable "config_fence_changed_after_rebuild"))
  else
    ({ c with
      progress := c.progress.recordSnapshotRebuild
      durableGeneration := profile.durableGeneration
      passCapacity := .empty }, .ok (.replan .snapshotRebuild))

/-- No target of the pass could be taken: wait for capacity, if anyone may. -/
def waitOrFail (input : AdmissionPlanningInput) : Answer :=
  match buildWaitPlan c.passCapacity input.nowMs c.progress.deadlineMs
      input.maxWaitersPerConstraint with
  | .error _ => (c, .error (failure .capacityExhausted "all_strata_capacity_exhausted"))
  | .ok constraint =>
    match tryEnterWait input.waiting constraint input.maxWaitersPerConstraint input.nowMs
        c.progress.deadlineMs with
    | .ok () => (c, .ok (.wait constraint))
    | .error .notAdmitted => (c, .error (failure .capacityExhausted "wait_not_admitted"))
    | .error .queueFull => (c, .error (failure .capacityExhausted "wait_queue_full"))

/-- The targets of the pass in order, each skipped when its capacity is known to be
taken or turns out to be. -/
def tryCandidates (input : AdmissionPlanningInput) (plan : RoutePlan) :
    RouteAdmissionCoordinator → List PlannedCandidate → Answer
  | c, [] => c.waitOrFail input
  | c, planned :: rest =>
    match input.executionCandidates.find? fun e =>
        decide (e.routingIdentity = planned.routingIdentity) with
    | none => (c, .error (failure .configUnstable "candidate_snapshot_missing"))
    | some base =>
      let candidate := selectedCandidate plan planned base
      match mapGet input.profiles candidate.stationKeyId with
      | none => (c, .error (failure .configUnstable "missing_profile"))
      | some profile =>
        if c.capacityStateBlocksCandidate candidate profile then tryCandidates input plan c rest
        else if c.profileInvalidatesCandidate candidate profile then c.rebuildOrFailConfig profile
        else
          let request := profile.capacityRequest candidate
          match tryAcquire (input.active request) request with
          | .ok lease =>
            (c, .ok (.selected ⟨candidate, lease, [⟨"selected", candidate.stationKeyId⟩]⟩))
          | .error miss =>
            tryCandidates input plan
              { c with passCapacity := c.passCapacity.recordMiss (missObservation miss) } rest

def maxRuntimeOnlyReplans : Nat := 8

/-- What the snapshot still offers this request. -/
def workingSnapshot (s : PlanningSnapshot) : PlanningSnapshot :=
  { s with candidates := s.candidates.filter fun candidate =>
      !c.progress.excludesStationKey candidate.stationKeyId }

/-- The best rank of a plan. -/
def bestTargetRank (plan : RoutePlan) : Nat := (bestRank plan.candidates).getD 0

/-- The rank fallback and the attempt budget, over a plan. -/
def gate (s : PlanningSnapshot) (plan : RoutePlan) : Except AdmissionFailure Unit := do
  if plan.candidates.isEmpty then
    throw (failure .noEligible "no_available_key")
  if c.maxAttempts ≤ c.progress.attemptCount then
    throw (failure .attemptLimit "attempt_limit_reached")
  if !modelFallbackRankAllowed c.modelFallbackRankLimit (bestTargetRank plan) then
    throw (failure .attemptLimit "model_fallback_rank_limit_reached")
  if c.modelFallbackTrigger = some .retryExhaustedBeforeOutput ∧ 0 < bestTargetRank plan ∧
      !retryExhaustedFallbackIsOpen s.candidates c.progress c.attemptedModelTargetRanks then
    throw (failure .noEligible "fallback_requires_rank_zero_attempt")

/-- Planning and admission on a snapshot whose trigger and ranks are noted. -/
def planAndAdmit (input : AdmissionPlanningInput) : Answer :=
  match planSnapshot (c.workingSnapshot input.planningSnapshot) input.rootSeed
      (c.progress.ordinal + 1) with
  | .error error => (c, .error (plannerFailure error))
  | .ok plan =>
    match c.gate input.planningSnapshot plan with
    | .error failure => (c, .error failure)
    | .ok () =>
      tryCandidates input plan c ((orderedPlannedCandidates plan).filter fun p =>
        decide (p.targetRank = bestTargetRank plan))

/-- The runtime moved on: capacity misses are forgotten and the rebuild is counted. -/
def runtimeChanged (runtimeRevision : Nat) : RouteAdmissionCoordinator :=
  { c with
    progress := c.progress.recordRuntimeRebuild
    passCapacity := .empty
    runtimeOverlayRevision := runtimeRevision }

def withTrigger (s : PlanningSnapshot) : RouteAdmissionCoordinator :=
  { c with modelFallbackTrigger := s.modelFallbackTrigger }

/-- The coordinator's state while it plans on a snapshot. -/
def noted (s : PlanningSnapshot) : RouteAdmissionCoordinator :=
  { c.withTrigger s with candidateTargetRanks := targetRanks s }

def next (input : AdmissionPlanningInput) : Answer :=
  match c.fallbackBlocked with
  | some kind => (c, .error (failure kind "fallback_blocked"))
  | none =>
    if c.progress.deadlineMs ≤ input.nowMs then
      (c, .error (failure .deadline "deadline_elapsed"))
    else if input.currentRuntimeOverlayRevision ≠ c.runtimeOverlayRevision then
      let c := c.runtimeChanged input.currentRuntimeOverlayRevision
      if maxRuntimeOnlyReplans < c.progress.runtimeRebuildCount then
        (c, .error (failure .temporaryHealth "runtime_replan_limit_exceeded"))
      else (c, .ok (.replan .runtimeReplan))
    else
      match candidatePopulationFailure input.planningSnapshot with
      | some detail => (c.withTrigger input.planningSnapshot, .error (failure .noEligible detail))
      | none => (c.noted input.planningSnapshot).planAndAdmit input

/-- The coordinator after a terminal attempt, and whether the request may go on. -/
def recordActualTerminalForStationKey (stationKeyId routingIdentity : String)
    (outcome : ActualAttemptTerminal) :
    RouteAdmissionCoordinator × Except AdmissionFailure Unit :=
  let rank := mapGet c.candidateTargetRanks routingIdentity
  let c' := { c with
    progress := c.progress.recordActualAttempt stationKeyId
    attemptedModelTargetRanks :=
      rank.elim c.attemptedModelTargetRanks (insert · c.attemptedModelTargetRanks)
    passCapacity := .empty
    modelFallbackRankLimit :=
      -- `no_eligible_target` is a qualification fallback, not a transport-error fallback
      if c.modelFallbackTrigger = some .noEligibleTarget ∧ outcome = .failedBeforeCommit then
        some (tightenModelFallbackRankLimit c.modelFallbackRankLimit (rank.getD 0))
      else c.modelFallbackRankLimit }
  if c.fallbackPolicy.retrySafe outcome then (c', .ok ())
  else
    ({ c' with fallbackBlocked := some .commitUncertain },
      .error (failure .commitUncertain "possibly_accepted_without_idempotency_key"))

def recordRetryAttempt : RouteAdmissionCoordinator :=
  { c with progress := c.progress.recordRetryAttempt, passCapacity := .empty }

def excludeAttemptedKey (stationKeyId : String) : RouteAdmissionCoordinator :=
  { c with progress := c.progress.excludeAttemptedKey stationKeyId, passCapacity := .empty }

def excludeStationKey (stationKeyId : String) : RouteAdmissionCoordinator :=
  if stationKeyId = "" then c
  else { c with progress := c.progress.excludeWithoutAttempt stationKeyId }

def remainingAdditionalKeyBudget : Nat := c.maxAttempts - c.progress.attemptCount - 1

end RouteAdmissionCoordinator

end RelayPool.Routing
