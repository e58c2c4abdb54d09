import RelayPool.Binary64
import RelayPool.Protocol.Event

/-! The three generations of the routing policy (`models/routing_policy.rs`).

Each generation has a validator of its own. A policy is upgraded from one to the next, and a
policy of the last one is projected back for the parts of the program that still run on the one
before. The fields that all three have in common, under one check, are `CommonPolicy`. -/
namespace RelayPool.Policies
open Protocol

/-- What is wrong with a policy, by field, code and message key. -/
structure RoutingPolicyFieldValidationError where
  field : String
  code : String
  messageKey : String
deriving DecidableEq, Repr

/-- One check of a validator. -/
def check (holds : Bool) (field code messageKey : String) :
    Except RoutingPolicyFieldValidationError Unit :=
  if holds then .ok () else .error ⟨field, code, messageKey⟩

/-! ### Seconds -/

/-- A finite number between two bounds. -/
def within (low high : Rat) (x : Binary64) : Bool :=
  match x.value with
  | .finite negative m =>
    decide (low ≤ Binary64.signed negative m ∧ Binary64.signed negative m ≤ high)
  | _ => false

/-- `x > y` -/
def exceeds (x y : Binary64) : Bool :=
  match x.value, y.value with
  | .nan, _ | _, .nan => false
  | .inf negative, .inf negative' => !negative && negative'
  | .inf negative, .finite _ _ => !negative
  | .finite _ _, .inf negative => negative
  | .finite s m, .finite t n => decide (Binary64.signed t n < Binary64.signed s m)

/-! ### The common fields -/

inductive PricingGroupType
  | gpt
  | claude
  | gemini
  | grok
  | imageGeneration
deriving DecidableEq, Repr

inductive RoutingGroupFilter
  | allGroups
  | ungroupedOnly
  | groupBindingId (id : String)
  | groupIdHash (hash : String)
  | groupType (groupType : PricingGroupType)
deriving DecidableEq, Repr

structure CommonPolicy where
  reliabilityWeight : Nat
  responsivenessWeight : Nat
  costWeight : Nat
  preferenceWeight : Nat
  allowDepletedFallback : Bool
  affinityEnabled : Bool
  affinityTtlSeconds : Nat
  maxRateMultiplier : Option Binary64
  routingGroupFilter : RoutingGroupFilter
  outboundProxyMode : String
  outboundProxyUrl : Option String
deriving DecidableEq, Repr

def lowercase (text : String) : String := text.map Char.toLower

namespace CommonPolicy
variable (p : CommonPolicy)

def total : Nat :=
  p.reliabilityWeight + p.responsivenessWeight + p.costWeight + p.preferenceWeight

def proxyRejected : Bool :=
  lowercase (trim p.outboundProxyMode) ∉ ["inherit", "direct", "system", "manual"] ||
    (lowercase p.outboundProxyMode = "manual" &&
      p.outboundProxyUrl.all fun url => trim url = "") ||
    p.outboundProxyUrl.any fun url =>
      !(["http://", "https://", "socks5://", "socks5h://"].any fun scheme =>
        (trim url).startsWith scheme)

def rejected : Bool :=
  p.total ≠ 10000 ||
    (p.maxRateMultiplier.any fun value => !value.isFinite || value.isNegative) ||
    p.proxyRejected ||
    (p.affinityEnabled && !decide (1 ≤ p.affinityTtlSeconds ∧ p.affinityTtlSeconds ≤ 86400))

end CommonPolicy

/-! ### The first generation -/

structure RoutingPolicyConfigV1 extends CommonPolicy where
  version : Nat
  maxCandidates : Nat
  explorationShareBasisPoints : Nat
deriving DecidableEq, Repr

def RoutingPolicyConfigV1.validate (p : RoutingPolicyConfigV1) : Except String Unit :=
  if p.version ≠ 1 || p.maxCandidates = 0 || 1024 < p.maxCandidates ||
      2000 < p.explorationShareBasisPoints || p.rejected then
    .error "invalid routing policy"
  else .ok ()

def RoutingPolicyConfigV1.default : RoutingPolicyConfigV1 where
  version := 1
  reliabilityWeight := 4000
  responsivenessWeight := 2500
  costWeight := 2000
  preferenceWeight := 1500
  maxCandidates := 64
  explorationShareBasisPoints := 500
  allowDepletedFallback := false
  affinityEnabled := false
  affinityTtlSeconds := 300
  maxRateMultiplier := none
  routingGroupFilter := .allGroups
  outboundProxyMode := "inherit"
  outboundProxyUrl := none

/-! ### The second generation -/

def maxTotalAttemptsHardCap : Nat := 4

def maxSameTargetCapacityRetriesHardCap : Nat := 2

def maxProtectionWindowSamples : Nat := 256

def maxProtectionHalfOpenSuccesses : Nat := 16

structure RetryFailoverPolicyV2 where
  version : Nat
  maxTotalAttempts : Nat
  maxSameTargetCapacityRetries : Nat
  capacityRetryWaitBudgetSeconds : Binary64
  allowCrossCapacityDomainFallback : Bool
deriving DecidableEq, Repr

def RetryFailoverPolicyV2.default : RetryFailoverPolicyV2 where
  version := 2
  maxTotalAttempts := maxTotalAttemptsHardCap
  maxSameTargetCapacityRetries := maxSameTargetCapacityRetriesHardCap
  capacityRetryWaitBudgetSeconds := ⟨0x4000000000000000⟩  -- 2.0
  allowCrossCapacityDomainFallback := true

def RetryFailoverPolicyV2.validate (p : RetryFailoverPolicyV2) :
    Except RoutingPolicyFieldValidationError Unit := do
  check (p.version = 2) "retryFailover.version" "unsupported_version"
    "routing.retryFailover.version.unsupported"
  check (1 ≤ p.maxTotalAttempts ∧ p.maxTotalAttempts ≤ maxTotalAttemptsHardCap)
    "retryFailover.maxTotalAttempts" "out_of_range" "routing.retryFailover.maxTotalAttempts.range"
  check (p.maxSameTargetCapacityRetries ≤ maxSameTargetCapacityRetriesHardCap)
    "retryFailover.maxSameTargetCapacityRetries" "out_of_range"
    "routing.retryFailover.maxSameTargetCapacityRetries.range"
  check (p.maxSameTargetCapacityRetries < p.maxTotalAttempts)
    "retryFailover.maxSameTargetCapacityRetries" "must_be_less_than_max_total_attempts"
    "routing.retryFailover.maxSameTargetCapacityRetries.lessThanTotal"
  check (within 0 2 p.capacityRetryWaitBudgetSeconds)
    "retryFailover.capacityRetryWaitBudgetSeconds" "out_of_range"
    "routing.retryFailover.capacityRetryWaitBudgetSeconds.range"

structure ProtectionProfileConfigV2 where
  version : Nat
  enabled : Bool
  windowMaxSamples : Nat
  windowSeconds : Binary64
  minSamples : Nat
  failureThresholdPercent : Nat
  halfOpenSuccessesToClose : Nat
deriving DecidableEq, Repr

def ProtectionProfileConfigV2.default : ProtectionProfileConfigV2 where
  version := 2
  enabled := false
  windowMaxSamples := 64
  windowSeconds := ⟨0x4072c00000000000⟩  -- 300.0
  minSamples := 5
  failureThresholdPercent := 60
  halfOpenSuccessesToClose := 2

def ProtectionProfileConfigV2.validate (p : ProtectionProfileConfigV2) :
    Except RoutingPolicyFieldValidationError Unit := do
  check (p.version = 2) "protectionProfile.version" "unsupported_version"
    "routing.protectionProfile.version.unsupported"
  check (1 ≤ p.windowMaxSamples ∧ p.windowMaxSamples ≤ maxProtectionWindowSamples)
    "protectionProfile.windowMaxSamples" "out_of_range"
    "routing.protectionProfile.windowMaxSamples.range"
  -- from the least positive normal number to a day
  check (within (mkRat 1 (2 ^ 1022)) 86400 p.windowSeconds) "protectionProfile.windowSeconds"
    "out_of_range" "routing.protectionProfile.windowSeconds.range"
  check (1 ≤ p.minSamples ∧ p.minSamples ≤ p.windowMaxSamples) "protectionProfile.minSamples"
    "out_of_range" "routing.protectionProfile.minSamples.range"
  check (1 ≤ p.failureThresholdPercent ∧ p.failureThresholdPercent ≤ 100)
    "protectionProfile.failureThresholdPercent" "out_of_range"
    "routing.protectionProfile.failureThresholdPercent.range"
  check (1 ≤ p.halfOpenSuccessesToClose ∧
      p.halfOpenSuccessesToClose ≤ maxProtectionHalfOpenSuccesses)
    "protectionProfile.halfOpenSuccessesToClose" "out_of_range"
    "routing.protectionProfile.halfOpenSuccessesToClose.range"

structure TimeoutPolicyV2 where
  version : Nat
  connectSeconds : Binary64
  firstByteSeconds : Binary64
  precommitSeconds : Binary64
  bufferedExecutionSeconds : Binary64
  streamIdleSeconds : Binary64
deriving DecidableEq, Repr

def TimeoutPolicyV2.default : TimeoutPolicyV2 where
  version := 2
  connectSeconds := ⟨0x4024000000000000⟩  -- 10.0
  firstByteSeconds := ⟨0x403e000000000000⟩  -- 30.0
  precommitSeconds := ⟨0x404e000000000000⟩  -- 60.0
  bufferedExecutionSeconds := ⟨0x4072c00000000000⟩  -- 300.0
  streamIdleSeconds := ⟨0x4066800000000000⟩  -- 180.0

def TimeoutPolicyV2.checkSeconds (field : String) (seconds : Binary64) (maximum : Rat) :
    Except RoutingPolicyFieldValidationError Unit :=
  check (within 1 maximum seconds) field "out_of_range" "routing.timeoutPolicy.range"

def TimeoutPolicyV2.validate (p : TimeoutPolicyV2) :
    Except RoutingPolicyFieldValidationError Unit := do
  check (p.version = 2) "timeoutPolicy.version" "unsupported_version"
    "routing.timeoutPolicy.version.unsupported"
  checkSeconds "timeoutPolicy.connectSeconds" p.connectSeconds 120
  checkSeconds "timeoutPolicy.firstByteSeconds" p.firstByteSeconds 300
  checkSeconds "timeoutPolicy.precommitSeconds" p.precommitSeconds 600
  checkSeconds "timeoutPolicy.bufferedExecutionSeconds" p.bufferedExecutionSeconds 1800
  checkSeconds "timeoutPolicy.streamIdleSeconds" p.streamIdleSeconds 600
  check (!exceeds p.precommitSeconds p.bufferedExecutionSeconds)
    "timeoutPolicy.precommitSeconds" "must_not_exceed_buffered_execution"
    "routing.timeoutPolicy.precommitBeforeBuffered"

structure RoutingPolicyConfigV2 extends CommonPolicy where
  version : Nat
  maxCandidates : Nat
  explorationShareBasisPoints : Nat
  retryFailover : RetryFailoverPolicyV2
  protectionProfile : ProtectionProfileConfigV2
  timeoutPolicy : TimeoutPolicyV2
deriving DecidableEq, Repr

/-- The check of the common fields by the validator of the first generation. -/
def validateBase (p : CommonPolicy) (maxCandidates explorationShareBasisPoints : Nat) :
    Except RoutingPolicyFieldValidationError Unit :=
  ({ p with version := 1, maxCandidates, explorationShareBasisPoints :
      RoutingPolicyConfigV1 }).validate.mapError fun _ =>
    ⟨"policy", "invalid_base_policy", "routing.policy.invalid"⟩

def RoutingPolicyConfigV2.validate (p : RoutingPolicyConfigV2) :
    Except RoutingPolicyFieldValidationError Unit := do
  check (p.version = 2) "version" "unsupported_version" "routing.policy.version.unsupported"
  validateBase p.toCommonPolicy p.maxCandidates p.explorationShareBasisPoints
  p.retryFailover.validate
  p.protectionProfile.validate
  p.timeoutPolicy.validate

/-! ### The third generation -/

structure ReliabilitySourceWeightsV3 where
  realTrafficPercent : Nat
  monitoringPercent : Nat
deriving DecidableEq, Repr

def ReliabilitySourceWeightsV3.default : ReliabilitySourceWeightsV3 := ⟨70, 30⟩

def ReliabilitySourceWeightsV3.validate (p : ReliabilitySourceWeightsV3) :
    Except RoutingPolicyFieldValidationError Unit :=
  check (p.realTrafficPercent + p.monitoringPercent = 100)
    "reliabilitySourceWeights.monitoringPercent" "sum_must_equal_100"
    "routing.reliabilitySourceWeights.sum"

structure ReliabilitySamplingPolicyV3 where
  historicalMinimumSamples : Nat
  recentMinimumSamples : Nat
  optimisticReliabilityPercent : Nat
  optimisticLatencyMs : Nat
deriving DecidableEq, Repr

def ReliabilitySamplingPolicyV3.default : ReliabilitySamplingPolicyV3 := ⟨15, 5, 95, 2500⟩

def ReliabilitySamplingPolicyV3.validate (p : ReliabilitySamplingPolicyV3) :
    Except RoutingPolicyFieldValidationError Unit := do
  check (1 ≤ p.historicalMinimumSamples ∧ p.historicalMinimumSamples ≤ 10000)
    "reliabilitySampling.historicalMinimumSamples" "out_of_range"
    "routing.reliabilitySampling.historicalMinimumSamples.range"
  check (1 ≤ p.recentMinimumSamples ∧ p.recentMinimumSamples ≤ 10000)
    "reliabilitySampling.recentMinimumSamples" "out_of_range"
    "routing.reliabilitySampling.recentMinimumSamples.range"
  check (p.optimisticReliabilityPercent ≤ 100) "reliabilitySampling.optimisticReliabilityPercent"
    "out_of_range" "routing.reliabilitySampling.optimisticReliabilityPercent.range"
  check (100 ≤ p.optimisticLatencyMs ∧ p.optimisticLatencyMs ≤ 120000)
    "reliabilitySampling.optimisticLatencyMs" "out_of_range"
    "routing.reliabilitySampling.optimisticLatencyMs.range"

structure RetryPolicyV3 where
  version : Nat
  maxRetryCount : Nat
  consecutiveFailureThreshold : Nat
deriving DecidableEq, Repr

def RetryPolicyV3.validate (p : RetryPolicyV3) :
    Except RoutingPolicyFieldValidationError Unit := do
  check (p.version = 1) "retry.version" "unsupported_version" "routing.retry.version.unsupported"
  check (p.maxRetryCount ≤ maxTotalAttemptsHardCap - 1) "retry.maxRetryCount" "out_of_range"
    "routing.retry.maxRetryCount.range"
  check (1 ≤ p.consecutiveFailureThreshold ∧ p.consecutiveFailureThreshold ≤ 10)
    "retry.consecutiveFailureThreshold" "out_of_range"
    "routing.retry.consecutiveFailureThreshold.range"

def RetryPolicyV3.maxTotalAttempts (p : RetryPolicyV3) : Nat := p.maxRetryCount + 1

structure CircuitBreakerPolicyV3 where
  version : Nat
  recoverySuccessThreshold : Nat
  recoveryWaitSeconds : Nat
deriving DecidableEq, Repr

def CircuitBreakerPolicyV3.validate (p : CircuitBreakerPolicyV3) :
    Except RoutingPolicyFieldValidationError Unit := do
  check (p.version = 1) "circuitBreaker.version" "unsupported_version"
    "routing.circuitBreaker.version.unsupported"
  check (1 ≤ p.recoverySuccessThreshold ∧
      p.recoverySuccessThreshold ≤ maxProtectionHalfOpenSuccesses)
    "circuitBreaker.recoverySuccessThreshold" "out_of_range"
    "routing.circuitBreaker.recoverySuccessThreshold.range"
  check (5 ≤ p.recoveryWaitSeconds ∧ p.recoveryWaitSeconds ≤ 3600)
    "circuitBreaker.recoveryWaitSeconds" "out_of_range"
    "routing.circuitBreaker.recoveryWaitSeconds.range"

structure RoutingPolicyConfigV3 extends CommonPolicy where
  version : Nat
  reliabilitySourceWeights : ReliabilitySourceWeightsV3
  reliabilitySampling : ReliabilitySamplingPolicyV3
  retry : RetryPolicyV3
  circuitBreaker : CircuitBreakerPolicyV3
  timeoutPolicy : TimeoutPolicyV2
deriving DecidableEq, Repr

def RoutingPolicyConfigV3.validate (p : RoutingPolicyConfigV3) :
    Except RoutingPolicyFieldValidationError Unit := do
  check (p.version = 3) "version" "unsupported_version" "routing.policy.version.unsupported"
  validateBase p.toCommonPolicy 1 0
  p.reliabilitySourceWeights.validate
  p.reliabilitySampling.validate
  p.retry.validate
  p.circuitBreaker.validate
  p.timeoutPolicy.validate

/-! ### From one generation to the next -/

structure RoutingPolicyV3UpgradeAudit where
  fromVersion : Nat
  toVersion : Nat
  discardedFields : List String
  defaultedFields : List String
  semanticChanges : List String
  qualityRebuildRequired : Bool
deriving DecidableEq, Repr

structure RoutingPolicyV3Upgrade where
  policy : RoutingPolicyConfigV3
  audit : RoutingPolicyV3UpgradeAudit
deriving DecidableEq, Repr

/-- The audit is the same for every policy. -/
def upgradeAudit : RoutingPolicyV3UpgradeAudit where
  fromVersion := 2
  toVersion := 3
  discardedFields := ["maxCandidates", "explorationShareBasisPoints",
    "retryFailover.maxSameTargetCapacityRetries",
    "retryFailover.capacityRetryWaitBudgetSeconds",
    "retryFailover.allowCrossCapacityDomainFallback", "protectionProfile.enabled",
    "protectionProfile.windowMaxSamples", "protectionProfile.windowSeconds",
    "protectionProfile.minSamples", "protectionProfile.failureThresholdPercent"]
  defaultedFields := ["reliabilitySourceWeights", "reliabilitySampling",
    "retry.consecutiveFailureThreshold", "circuitBreaker.recoveryWaitSeconds"]
  semanticChanges := ["circuit_breaker_always_enabled",
    "error_rate_protection_replaced_by_consecutive_failures",
    "capacity_domain_controls_removed_from_routing"]
  qualityRebuildRequired := true

def RoutingPolicyConfigV2.fromV1 (value : RoutingPolicyConfigV1) :
    Except RoutingPolicyFieldValidationError RoutingPolicyConfigV2 := do
  value.validate.mapError fun _ =>
    ⟨"policy", "invalid_v1_policy", "routing.policy.invalid"⟩
  let upgraded : RoutingPolicyConfigV2 := { value.toCommonPolicy with
    version := 2
    maxCandidates := value.maxCandidates
    explorationShareBasisPoints := value.explorationShareBasisPoints
    retryFailover := .default
    protectionProfile := .default
    timeoutPolicy := .default }
  upgraded.validate
  return upgraded

def RoutingPolicyConfigV3.fromV2 (value : RoutingPolicyConfigV2) :
    Except RoutingPolicyFieldValidationError RoutingPolicyV3Upgrade := do
  value.validate
  check (1 ≤ value.retryFailover.maxTotalAttempts) "retry.maxRetryCount" "invalid_legacy_value"
    "routing.retry.maxRetryCount.invalidLegacy"
  let policy : RoutingPolicyConfigV3 := { value.toCommonPolicy with
    version := 3
    reliabilitySourceWeights := .default
    reliabilitySampling := .default
    retry := ⟨1, value.retryFailover.maxTotalAttempts - 1, 3⟩
    circuitBreaker := ⟨1, value.protectionProfile.halfOpenSuccessesToClose, 30⟩
    timeoutPolicy := value.timeoutPolicy }
  policy.validate
  return ⟨policy, upgradeAudit⟩

/-- The projection keeps what the second generation can say. -/
def RoutingPolicyConfigV2.fromV3Compat (value : RoutingPolicyConfigV3) :
    Except RoutingPolicyFieldValidationError RoutingPolicyConfigV2 := do
  -- the attempts have to fit into 16 bits
  check (value.retry.maxTotalAttempts < 2 ^ 16) "retry.maxRetryCount" "out_of_range"
    "routing.retry.maxRetryCount.range"
  let projected : RoutingPolicyConfigV2 := { value.toCommonPolicy with
    version := 2
    maxCandidates := 1024
    explorationShareBasisPoints := 0
    retryFailover := {
      version := 2
      maxTotalAttempts := value.retry.maxTotalAttempts
      maxSameTargetCapacityRetries := 0
      capacityRetryWaitBudgetSeconds := ⟨0⟩  -- 0.0
      allowCrossCapacityDomainFallback := false }
    protectionProfile := {
      version := 2
      enabled := false
      windowMaxSamples := 64
      windowSeconds := ⟨0x4072c00000000000⟩  -- 300.0
      minSamples := 1
      failureThresholdPercent := 100
      halfOpenSuccessesToClose := value.circuitBreaker.recoverySuccessThreshold }
    timeoutPolicy := value.timeoutPolicy }
  projected.validate
  return projected

end RelayPool.Policies
