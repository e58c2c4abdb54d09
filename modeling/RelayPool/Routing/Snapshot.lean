import RelayPool.Binary64
import RelayPool.Mapping.Document

/-! The planning snapshot: the candidate keys of a request, the policy and the
budget it runs under, and what the process knows at that moment.

`PlanningSnapshot.validate` is what every reader of a snapshot checks first. A
snapshot the reader of the store produces has one candidate for each station key
and one variant for each routing identity (`WellFormed`). -/
namespace RelayPool.Routing
open Mapping (EndpointKind FallbackTrigger)

structure CandidateModelVariant where
  stationKeyId : String
  stationId : String
  upstreamModel : String
  targetRank : Nat
  modelResolutionFence : String
  endpoint : EndpointKind
  credentialRevision : Nat
  endpointRevision : Nat
deriving DecidableEq, Repr

/-- Stable, non-secret identity for request-local attempt de-duplication. -/
def CandidateModelVariant.identityKey (v : CandidateModelVariant) : String :=
  "\u001f".intercalate [v.stationKeyId, v.upstreamModel, v.endpoint.debug,
    toString v.credentialRevision, toString v.endpointRevision, v.modelResolutionFence]

structure RoutePlanPricingSnapshot where
  rateMultiplier : Option Binary64
  estimatedInputPrice : Option Binary64
  estimatedOutputPrice : Option Binary64
  statusLabel : String
deriving DecidableEq, Repr

structure CandidateSnapshot where
  stationKeyId : String
  stationId : String
  endpointRevision : Int
  credentialRevision : Int
  accountRevision : Int
  groupBindingId : Option String
  groupRevision : Option Int
  resolvedUpstreamModel : Option String
  modelAliasRevision : Int
  /-- Empty means one implicit variant of rank 0. -/
  modelVariants : List CandidateModelVariant
  credentialAvailable : Bool
  hardEligible : Bool
  backupOnly : Bool
  depleted : Bool
  capabilityBasisPoints : Nat
  qualityAvailable : Bool
  reliabilityBasisPoints : Nat
  responsivenessBasisPoints : Nat
  costBasisPoints : Option Nat
  pricing : RoutePlanPricingSnapshot
  preferenceBasisPoints : Nat
deriving DecidableEq, Repr

/-- The variants a candidate is planned with. -/
def CandidateSnapshot.variants (c : CandidateSnapshot) : List (Option CandidateModelVariant) :=
  if c.modelVariants.isEmpty then [none] else c.modelVariants.map some

/-- The name of a candidate planned with a variant. -/
def CandidateSnapshot.routingIdentity (c : CandidateSnapshot) :
    Option CandidateModelVariant → String
  | none => c.stationKeyId
  | some v => v.identityKey

structure RuntimeOverlaySnapshot where
  runtimeInstanceId : String
  runtimeRevision : Nat
  candidateSetRevision : Nat
  inFlight : Nat
  maxConcurrency : Nat
  affinityStationKeyId : Option String
deriving DecidableEq, Repr

/-- The fields of the routing policy that planning reads. `otherFieldsValid` is
the answer of the checks on the fields it does not read. -/
structure RoutingPolicyConfigV2 where
  reliabilityWeight : Nat
  responsivenessWeight : Nat
  costWeight : Nat
  preferenceWeight : Nat
  allowDepletedFallback : Bool
  affinityEnabled : Bool
  otherFieldsValid : Bool
deriving DecidableEq, Repr

def RoutingPolicyConfigV2.validate (p : RoutingPolicyConfigV2) : Except String Unit :=
  if p.reliabilityWeight + p.responsivenessWeight + p.costWeight + p.preferenceWeight = 10000 ∧
      p.otherFieldsValid then .ok ()
  else .error "invalid_base_policy"

structure AttemptBudgetProfileV1 where
  policyRevision : Nat
  maxTotalAttempts : Nat
  maxSameTargetCapacityRetries : Nat
  capacityRetryWaitBudgetMs : Nat
  consecutiveFailureThreshold : Nat
  circuitRecoverySuccessThreshold : Nat
  circuitRecoveryWaitMs : Nat
deriving DecidableEq, Repr

structure RoutingPolicyFieldValidationError where
  field : String
  code : String
  messageKey : String
deriving DecidableEq, Repr

inductive RoutingPolicyCompileError where
  | notAdmitted (reason : String)
  | invalidField (error : RoutingPolicyFieldValidationError)
deriving DecidableEq, Repr

def maxTotalAttemptsHardCap : Nat := 4

def AttemptBudgetProfileV1.validate (p : AttemptBudgetProfileV1) :
    Except RoutingPolicyCompileError Unit := do
  if p.policyRevision = 0 then
    throw (.notAdmitted "revision_unavailable")
  if ¬(1 ≤ p.maxTotalAttempts ∧ p.maxTotalAttempts ≤ maxTotalAttemptsHardCap) then
    throw (.invalidField ⟨"retryFailover.maxTotalAttempts", "out_of_range",
      "routing.retryFailover.maxTotalAttempts.range"⟩)
  if 2 < p.maxSameTargetCapacityRetries then
    throw (.invalidField ⟨"retryFailover.maxSameTargetCapacityRetries", "out_of_range",
      "routing.retryFailover.maxSameTargetCapacityRetries.range"⟩)
  if p.maxTotalAttempts ≤ p.maxSameTargetCapacityRetries then
    throw (.invalidField ⟨"retryFailover.maxSameTargetCapacityRetries",
      "must_be_less_than_max_total_attempts",
      "routing.retryFailover.maxSameTargetCapacityRetries.lessThanTotal"⟩)
  if 2000 < p.capacityRetryWaitBudgetMs then
    throw (.invalidField ⟨"retryFailover.capacityRetryWaitBudgetSeconds", "out_of_range",
      "routing.retryFailover.capacityRetryWaitBudgetSeconds.range"⟩)
  if ¬(1 ≤ p.consecutiveFailureThreshold ∧ p.consecutiveFailureThreshold ≤ 10) ∨
      p.circuitRecoverySuccessThreshold = 0 ∨ p.circuitRecoveryWaitMs < 5000 then
    throw (.invalidField ⟨"circuitBreaker", "out_of_range", "routing.circuitBreaker.invalid"⟩)

structure DispatchAlgorithmProfile where
  version : Nat
  latencyCapMs : Nat
  affinityBonusCapBasisPoints : Nat
  affinityHysteresisMarginBasisPoints : Nat
deriving DecidableEq, Repr

def dispatchAlgorithmVersion : Nat := 2

def DispatchAlgorithmProfile.validate (p : DispatchAlgorithmProfile) : Except String Unit :=
  if p.version ≠ dispatchAlgorithmVersion ∨ p.latencyCapMs = 0 ∨
      p.affinityBonusCapBasisPoints = 0 ∨ 10000 < p.affinityBonusCapBasisPoints ∨
      p.affinityHysteresisMarginBasisPoints = 0 ∨ 10000 < p.affinityHysteresisMarginBasisPoints then
    .error "invalid dispatch algorithm profile"
  else .ok ()

structure PlanningSnapshot where
  snapshotId : String
  durableRevision : Nat
  configuredKeyCount : Nat
  capabilityMatchCount : Nat
  candidateCapCount : Nat
  routingRuntimeGenerationId : Option String
  routingGenerationFenceRevision : Nat
  routingPolicyRevision : Nat
  routingQualityRevision : Nat
  routingHealthRevision : Nat
  qualityProjectionBacklog : Nat
  qualityProjectionLagSeconds : Nat
  qualityStale : Bool
  policy : RoutingPolicyConfigV2
  attemptBudget : AttemptBudgetProfileV1
  profile : DispatchAlgorithmProfile
  candidates : List CandidateSnapshot
  modelFallbackTrigger : Option FallbackTrigger
  runtime : RuntimeOverlaySnapshot
deriving DecidableEq, Repr

def maxOperationalCandidates : Nat := 1024

/-- The checks on one candidate; it is refused where one of them holds. -/
def CandidateSnapshot.invalid (c : CandidateSnapshot) : Bool :=
  decide (c.stationKeyId = "") || decide (c.stationId = "") ||
  decide (c.endpointRevision ≤ 0) || decide (c.credentialRevision ≤ 0) ||
  decide (c.accountRevision ≤ 0) ||
  c.groupRevision.any (fun revision => decide (revision ≤ 0)) ||
  (c.groupBindingId.isSome != c.groupRevision.isSome) ||
  decide (c.modelAliasRevision ≤ 0) ||
  decide (10000 < c.capabilityBasisPoints) ||
  decide (10000 < c.reliabilityBasisPoints) ||
  decide (10000 < c.responsivenessBasisPoints) ||
  c.costBasisPoints.any (fun value => decide (10000 < value)) ||
  decide (c.pricing.statusLabel = "") ||
  ([c.pricing.estimatedInputPrice, c.pricing.estimatedOutputPrice].filterMap id).any
    (fun value => !value.isFinite || value.isNegative) ||
  decide (10000 < c.preferenceBasisPoints) ||
  c.modelVariants.any fun v =>
    decide (v.stationKeyId ≠ c.stationKeyId) || decide (v.stationId ≠ c.stationId) ||
      decide (v.upstreamModel = "")

/-- The checks on the snapshot's own fields. -/
def PlanningSnapshot.headerInvalid (s : PlanningSnapshot) : Prop :=
  s.snapshotId = "" ∨ s.durableRevision = 0 ∨ s.routingPolicyRevision = 0 ∨
  s.attemptBudget.policyRevision ≠ s.routingPolicyRevision ∨
  s.configuredKeyCount < s.capabilityMatchCount ∨
  s.capabilityMatchCount < s.candidateCapCount ∨
  s.candidateCapCount < s.candidates.length ∨
  maxOperationalCandidates < s.candidateCapCount ∨
  maxOperationalCandidates < s.candidates.length ∨
  s.runtime.runtimeInstanceId = "" ∨ s.runtime.runtimeRevision = 0 ∨
  s.runtime.candidateSetRevision = 0 ∨ s.runtime.maxConcurrency < s.runtime.inFlight ∨
  (s.routingRuntimeGenerationId.isSome ∧
    (s.routingQualityRevision = 0 ∨ s.routingHealthRevision = 0)) ∨
  s.qualityStale ≠ decide (0 < s.qualityProjectionBacklog) ∨
  (s.qualityStale = false ∧ 0 < s.qualityProjectionLagSeconds)

instance (s : PlanningSnapshot) : Decidable s.headerInvalid :=
  inferInstanceAs (Decidable (_ ∨ _))

def PlanningSnapshot.validate (s : PlanningSnapshot) : Except String Unit := do
  if s.headerInvalid then throw "invalid planning snapshot"
  s.policy.validate.mapError fun _ => "invalid planning policy"
  s.profile.validate
  if s.candidates.any (·.invalid) then
    throw "planning snapshot contains invalid or unavailable candidate"

/-- The candidates of a snapshot with each of their variants. -/
def PlanningSnapshot.expansion (s : PlanningSnapshot) :
    List (CandidateSnapshot × Option CandidateModelVariant) :=
  s.candidates.flatMap fun c => c.variants.map fun v => (c, v)

/-- What the reader of the store promises of a snapshot beyond `validate`: the
station key is the primary key of its rows, and the variants of a key are
de-duplicated by their identity. -/
structure PlanningSnapshot.WellFormed (s : PlanningSnapshot) : Prop where
  stationKeys : (s.candidates.map (·.stationKeyId)).Nodup
  identities : (s.expansion.map fun e => e.1.routingIdentity e.2).Nodup

/-! ### Plain values, for fixed inputs -/

def plainKey (stationKeyId : String) (modelVariants : List CandidateModelVariant) :
    CandidateSnapshot where
  stationKeyId
  stationId := "station"
  endpointRevision := 1
  credentialRevision := 1
  accountRevision := 1
  groupBindingId := none
  groupRevision := none
  resolvedUpstreamModel := some "model"
  modelAliasRevision := 1
  modelVariants
  credentialAvailable := true
  hardEligible := true
  backupOnly := false
  depleted := false
  capabilityBasisPoints := 10000
  qualityAvailable := true
  reliabilityBasisPoints := 10000
  responsivenessBasisPoints := 10000
  costBasisPoints := none
  pricing := ⟨none, none, none, "unpriced"⟩
  preferenceBasisPoints := 0

def plainVariant (stationKeyId upstreamModel : String) (targetRank : Nat) :
    CandidateModelVariant where
  stationKeyId
  stationId := "station"
  upstreamModel
  targetRank
  modelResolutionFence := "mapping"
  endpoint := .responses
  credentialRevision := 1
  endpointRevision := 1

def plainSnapshot (modelFallbackTrigger : Option FallbackTrigger)
    (candidates : List CandidateSnapshot) : PlanningSnapshot where
  snapshotId := "snapshot"
  durableRevision := 1
  configuredKeyCount := candidates.length
  capabilityMatchCount := candidates.length
  candidateCapCount := candidates.length
  routingRuntimeGenerationId := none
  routingGenerationFenceRevision := 0
  routingPolicyRevision := 1
  routingQualityRevision := 0
  routingHealthRevision := 0
  qualityProjectionBacklog := 0
  qualityProjectionLagSeconds := 0
  qualityStale := false
  policy := ⟨4000, 3000, 2000, 1000, false, false, true⟩
  attemptBudget := ⟨1, 4, 0, 0, 3, 2, 30000⟩
  profile := ⟨2, 120000, 150, 1000⟩
  candidates
  modelFallbackTrigger
  runtime := ⟨"runtime", 1, 1, 0, 8, none⟩

end RelayPool.Routing
