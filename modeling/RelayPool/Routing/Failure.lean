import RelayPool.Routing.Coordinator

/-! The failures of a request, as the execution layer sees them.

A canonical failure says what is known about the upstream request: whether it may
have been accepted and whether it may be sent again. A failure without one carries
only what is shown to the client. -/
namespace RelayPool.Routing

inductive FailureSource where
  | local
  | routing
  | upstream
  | downstream
  | internal
deriving DecidableEq, Repr

inductive RetryClass where
  | never
  | beforeOutput
  | afterCommitStop
deriving DecidableEq, Repr

/-- How far the request had come when the transport gave up. -/
inductive RequestSendPhase where
  | notConnected
  | responseStarted
  | unknown
deriving DecidableEq, Repr

def RequestSendPhase.definitelyNoRequestBytesSent (p : RequestSendPhase) : Bool :=
  decide (p = .notConnected)

inductive RequestAcceptance where
  | rejectedBeforeAcceptance
  | acceptedOrMayHaveBeenAccepted
  | unknown
deriving DecidableEq, Repr

inductive ReplaySafety where
  | replaySafe
  | requiresProviderIdempotency
  | notReplayable
deriving DecidableEq, Repr

inductive CanonicalRetryDisposition where
  | tryNextKey
  | stopRequest
deriving DecidableEq, Repr

inductive PublicErrorCode where
  | configRequired | policyRejected | economicsUnavailable | healthUnavailable
  | authenticationFailed | insufficientBalance | rateLimited | modelUnavailable
  | capabilityMismatch | badRequest | upstreamRequestRejected | timeout | transportFailure
  | upstreamUnavailable | upstreamOverloaded | malformedResponse | streamInterrupted
  | downstreamDisconnected | noAvailableKey | capacityExhausted | candidateLimitExceeded
  | factsUnavailable | configUnstable | lifecycleUnavailable | deadlineExceeded
  | invariantViolation | upstreamUncertain
deriving DecidableEq, Repr

def PublicErrorCode.asStr : PublicErrorCode → String
  | configRequired => "routing_configuration_required"
  | policyRejected => "route_policy_rejected"
  | economicsUnavailable => "route_economics_unavailable"
  | healthUnavailable => "route_health_unavailable"
  | authenticationFailed => "upstream_authentication_failed"
  | insufficientBalance => "upstream_insufficient_balance"
  | rateLimited => "upstream_rate_limited"
  | modelUnavailable => "upstream_model_unavailable"
  | capabilityMismatch => "upstream_capability_mismatch"
  | badRequest => "request_bad_request"
  | upstreamRequestRejected => "upstream_request_rejected"
  | timeout => "upstream_timeout"
  | transportFailure => "upstream_transport_failure"
  | upstreamUnavailable => "upstream_unavailable"
  | upstreamOverloaded => "upstream_overloaded"
  | malformedResponse => "upstream_malformed_response"
  | streamInterrupted => "upstream_stream_interrupted"
  | downstreamDisconnected => "downstream_disconnected"
  | noAvailableKey => "no_available_key"
  | capacityExhausted => "route_capacity_exhausted"
  | candidateLimitExceeded => "route_candidate_limit_exceeded"
  | factsUnavailable => "route_facts_unavailable"
  | configUnstable => "route_configuration_changed"
  | lifecycleUnavailable => "route_lifecycle_unavailable"
  | deadlineExceeded => "route_deadline_exceeded"
  | invariantViolation => "route_invariant_violation"
  | upstreamUncertain => "upstream_uncertain"

inductive ProxyFailureCode where
  | localProxyBusy | localProxyMemoryBusy | requestHeaderTimeout | requestHeaderTooLarge
  | requestBodyTimeout | requestBodyTooLarge | requestBodyInvalid | localAuthMissing
  | localAuthInvalid | routeNoCandidate | routeNoAvailableKey | routeConfigRequired
  | routePolicyRejected | routeEconomicsUnavailable | routeHealthUnavailable
  | routeCapacityExhausted | routeCandidateLimitExceeded | routeFactsUnavailable
  | routeConfigUnstable | routeLifecycleUnavailable | routeDeadlineExceeded
  | routeInvariantViolation | upstreamConnectFailed | upstreamFirstByteTimeout
  | upstreamAuthenticationFailed | upstreamInsufficientBalance | upstreamRateLimited
  | upstreamModelUnavailable | upstreamCapabilityMismatch | upstreamRequestRejected
  | upstreamUnavailable | upstreamOverloaded | upstreamMalformedResponse | upstreamUncertain
  | upstreamStreamFailed | downstreamDisconnected | responsesChatFallbackIncompatible
  | applicationUpdateInProgress | internalProxyError
deriving DecidableEq, Repr

def ProxyFailureCode.asStr : ProxyFailureCode → String
  | localProxyBusy => "local_proxy_busy"
  | localProxyMemoryBusy => "local_proxy_memory_busy"
  | requestHeaderTimeout => "request_header_timeout"
  | requestHeaderTooLarge => "request_header_too_large"
  | requestBodyTimeout => "request_body_timeout"
  | requestBodyTooLarge => "request_body_too_large"
  | requestBodyInvalid => "request_body_invalid"
  | localAuthMissing => "local_auth_missing"
  | localAuthInvalid => "local_auth_invalid"
  | routeNoCandidate => "route_no_candidate"
  | routeNoAvailableKey => "no_available_key"
  | routeConfigRequired => "routing_configuration_required"
  | routePolicyRejected => "route_policy_rejected"
  | routeEconomicsUnavailable => "route_economics_unavailable"
  | routeHealthUnavailable => "route_health_unavailable"
  | routeCapacityExhausted => "route_capacity_exhausted"
  | routeCandidateLimitExceeded => "route_candidate_limit_exceeded"
  | routeFactsUnavailable => "route_facts_unavailable"
  | routeConfigUnstable => "route_configuration_changed"
  | routeLifecycleUnavailable => "route_lifecycle_unavailable"
  | routeDeadlineExceeded => "route_deadline_exceeded"
  | routeInvariantViolation => "route_invariant_violation"
  | upstreamConnectFailed => "upstream_connect_failed"
  | upstreamFirstByteTimeout => "upstream_first_byte_timeout"
  | upstreamAuthenticationFailed => "upstream_authentication_failed"
  | upstreamInsufficientBalance => "upstream_insufficient_balance"
  | upstreamRateLimited => "upstream_rate_limited"
  | upstreamModelUnavailable => "upstream_model_unavailable"
  | upstreamCapabilityMismatch => "upstream_capability_mismatch"
  | upstreamRequestRejected => "upstream_request_rejected"
  | upstreamUnavailable => "upstream_unavailable"
  | upstreamOverloaded => "upstream_overloaded"
  | upstreamMalformedResponse => "upstream_malformed_response"
  | upstreamUncertain => "upstream_uncertain"
  | upstreamStreamFailed => "upstream_stream_failed"
  | downstreamDisconnected => "downstream_disconnected"
  | responsesChatFallbackIncompatible => "responses_chat_fallback_incompatible"
  | applicationUpdateInProgress => "application_update_in_progress"
  | internalProxyError => "internal_proxy_error"

def proxyFailureCodeForPublicError : PublicErrorCode → ProxyFailureCode
  | .configRequired => .routeConfigRequired
  | .policyRejected => .routePolicyRejected
  | .economicsUnavailable => .routeEconomicsUnavailable
  | .healthUnavailable => .routeHealthUnavailable
  | .authenticationFailed => .upstreamAuthenticationFailed
  | .insufficientBalance => .upstreamInsufficientBalance
  | .rateLimited => .upstreamRateLimited
  | .modelUnavailable => .upstreamModelUnavailable
  | .capabilityMismatch => .upstreamCapabilityMismatch
  | .upstreamRequestRejected => .upstreamRequestRejected
  | .upstreamUnavailable => .upstreamUnavailable
  | .upstreamOverloaded => .upstreamOverloaded
  | .upstreamUncertain => .upstreamUncertain
  | .badRequest => .requestBodyInvalid
  | .timeout => .upstreamFirstByteTimeout
  | .transportFailure => .upstreamConnectFailed
  | .malformedResponse => .upstreamMalformedResponse
  | .streamInterrupted => .upstreamStreamFailed
  | .downstreamDisconnected => .downstreamDisconnected
  | .noAvailableKey => .routeNoAvailableKey
  | .capacityExhausted => .routeCapacityExhausted
  | .candidateLimitExceeded => .routeCandidateLimitExceeded
  | .factsUnavailable => .routeFactsUnavailable
  | .configUnstable => .routeConfigUnstable
  | .lifecycleUnavailable => .routeLifecycleUnavailable
  | .deadlineExceeded => .routeDeadlineExceeded
  | .invariantViolation => .routeInvariantViolation

def failureSourceForPublicError : PublicErrorCode → FailureSource
  | .authenticationFailed | .insufficientBalance | .rateLimited | .modelUnavailable
  | .capabilityMismatch | .upstreamRequestRejected | .timeout | .transportFailure
  | .upstreamUnavailable | .upstreamOverloaded | .malformedResponse | .streamInterrupted
  | .upstreamUncertain => .upstream
  | .downstreamDisconnected => .downstream
  | .invariantViolation => .internal
  | .configRequired | .noAvailableKey | .policyRejected | .economicsUnavailable
  | .healthUnavailable | .badRequest | .capacityExhausted | .candidateLimitExceeded
  | .factsUnavailable | .configUnstable | .lifecycleUnavailable | .deadlineExceeded => .routing

def retryClassForPublicError : PublicErrorCode → RetryClass
  | .rateLimited | .timeout | .transportFailure | .upstreamUnavailable | .upstreamOverloaded
  | .streamInterrupted | .noAvailableKey | .capacityExhausted | .economicsUnavailable
  | .healthUnavailable | .factsUnavailable | .configUnstable | .lifecycleUnavailable
  | .deadlineExceeded => .beforeOutput
  | .configRequired | .policyRejected | .authenticationFailed | .insufficientBalance
  | .modelUnavailable | .capabilityMismatch | .upstreamRequestRejected | .badRequest
  | .malformedResponse | .downstreamDisconnected | .candidateLimitExceeded
  | .invariantViolation | .upstreamUncertain => .never

structure CanonicalFailure where
  retry : CanonicalRetryDisposition
  publicCode : PublicErrorCode
  requestAcceptance : RequestAcceptance
  replaySafety : ReplaySafety
deriving DecidableEq, Repr

structure ProxyFailure where
  code : ProxyFailureCode
  source : FailureSource
  retryClass : RetryClass
  requestSendPhase : RequestSendPhase
  canonical : Option CanonicalFailure
  /-- The stable code of the planning failure behind it, where one is. -/
  internalDetail : Option String
  /-- How many attempts the request had made when it failed for good. -/
  attemptCount : Option Nat
deriving DecidableEq, Repr

namespace ProxyFailure

def new (code : ProxyFailureCode) (source : FailureSource) (retryClass : RetryClass) :
    ProxyFailure := ⟨code, source, retryClass, .unknown, none, none, none⟩

def fromPublicError (code : PublicErrorCode) : ProxyFailure :=
  new (proxyFailureCodeForPublicError code) (failureSourceForPublicError code)
    (retryClassForPublicError code)

def fromCanonical (canonical : CanonicalFailure) : ProxyFailure :=
  { fromPublicError canonical.publicCode with canonical := some canonical }

end ProxyFailure

/-! ### Failures of planning -/

/-- The canonical failures planning makes; none of them may be sent again. -/
inductive RoutePlanningFailure where
  | noAvailableKey
  | capabilityMismatch
  | healthUnavailable
  | capacityExhausted
  | configUnstable
  | deadlineExceeded
  | invariantViolation (code : String)
deriving DecidableEq, Repr

namespace RoutePlanningFailure

def publicCode : RoutePlanningFailure → PublicErrorCode
  | noAvailableKey => .noAvailableKey
  | capabilityMismatch => .capabilityMismatch
  | healthUnavailable => .healthUnavailable
  | capacityExhausted => .capacityExhausted
  | configUnstable => .configUnstable
  | deadlineExceeded => .deadlineExceeded
  | invariantViolation _ => .invariantViolation

def stableCode : RoutePlanningFailure → String
  | noAvailableKey => "no_available_key"
  | capabilityMismatch => "upstream_capability_mismatch"
  | healthUnavailable => "route_health_unavailable"
  | capacityExhausted => "route_capacity_exhausted"
  | configUnstable => "route_configuration_changed"
  | deadlineExceeded => "route_deadline_exceeded"
  | invariantViolation code => code

end RoutePlanningFailure

/-- The detail of an admission failure's first piece of evidence of that name. -/
def admissionFailureDetail (failure : AdmissionFailure) : Option String :=
  (failure.evidence.find? fun e => decide (e.code = "failure")).map (·.detail)

def routePlanningFailure (failure : AdmissionFailure) : Option RoutePlanningFailure :=
  match failure.kind with
  | .noEligible =>
    match admissionFailureDetail failure with
    | some "no_configured_key" => some .noAvailableKey
    | some "static_candidate_unavailable" => some .noAvailableKey
    | some "no_available_key" => some .noAvailableKey
    | some "capability_mismatch" => some .capabilityMismatch
    | _ => none
  | .attemptLimit => some .noAvailableKey
  | .temporaryHealth => some .healthUnavailable
  | .capacityExhausted => some .capacityExhausted
  | .deadline => some .deadlineExceeded
  | .configUnstable => some .configUnstable
  | .commitUncertain => some (.invariantViolation "route_commit_uncertain")

def admissionFailureCode : AdmissionFailureKind → ProxyFailureCode
  | .noEligible => .routeNoCandidate
  | .temporaryHealth => .routeHealthUnavailable
  | .capacityExhausted => .routeCapacityExhausted
  | .deadline => .routeDeadlineExceeded
  | .configUnstable => .routeConfigUnstable
  | .attemptLimit => .routeNoCandidate
  | .commitUncertain => .routeInvariantViolation

/-- The failure the client sees for an admission failure. -/
def controllerFailure (failure : AdmissionFailure) : ProxyFailure :=
  match routePlanningFailure failure with
  | some planning =>
    let proxyFailure := ProxyFailure.fromPublicError planning.publicCode
    if proxyFailure.code ≠ .routeNoAvailableKey then
      { proxyFailure with internalDetail := some planning.stableCode }
    else proxyFailure
  | none => .new (admissionFailureCode failure.kind) .routing .beforeOutput

def precommitTimeoutFailure : ProxyFailure :=
  .fromCanonical ⟨.stopRequest, .deadlineExceeded, .rejectedBeforeAcceptance, .notReplayable⟩

def noAvailableKeyFailure : ProxyFailure := .new .routeNoAvailableKey .routing .never

def catalogPlanningExhausted (failure : AdmissionFailure) : Bool :=
  decide (failure.kind = .noEligible) || decide (failure.kind = .attemptLimit)

def executionReplanLimitExceeded : AdmissionFailure :=
  ⟨.configUnstable, [⟨"execution_replan_limit_exceeded",
    "routing state changed repeatedly before admission"⟩]⟩

end RelayPool.Routing
