import RelayPool.Fallible
import RelayPool.Policies.Versions

/-! Upgrading a policy loses nothing and always succeeds (`policy_upgrades_lossless`).

What a validator accepts is a conjunction of conditions on the fields (`validate_iff`). The
ranges of one generation lie inside those of the next, so that a policy that its own validator
accepts is accepted after every upgrade and after every projection. -/
namespace RelayPool.Policies
open Fallible

/-! ### What the validators accept -/

@[simp] theorem check_holds {holds : Bool} {field code messageKey : String} {u : Unit} :
    check holds field code messageKey = .ok u ↔ holds = true := by
  unfold check
  cases holds <;> simp

theorem RetryFailoverPolicyV2.validate_iff (p : RetryFailoverPolicyV2) :
    p.validate = .ok () ↔ p.version = 2 ∧
      (1 ≤ p.maxTotalAttempts ∧ p.maxTotalAttempts ≤ maxTotalAttemptsHardCap) ∧
      p.maxSameTargetCapacityRetries ≤ maxSameTargetCapacityRetriesHardCap ∧
      p.maxSameTargetCapacityRetries < p.maxTotalAttempts ∧
      within 0 2 p.capacityRetryWaitBudgetSeconds := by
  simp only [validate, then_ok, check_holds, decide_eq_true_eq]

theorem ProtectionProfileConfigV2.validate_iff (p : ProtectionProfileConfigV2) :
    p.validate = .ok () ↔ p.version = 2 ∧
      (1 ≤ p.windowMaxSamples ∧ p.windowMaxSamples ≤ maxProtectionWindowSamples) ∧
      within (mkRat 1 (2 ^ 1022)) 86400 p.windowSeconds ∧
      (1 ≤ p.minSamples ∧ p.minSamples ≤ p.windowMaxSamples) ∧
      (1 ≤ p.failureThresholdPercent ∧ p.failureThresholdPercent ≤ 100) ∧
      1 ≤ p.halfOpenSuccessesToClose ∧
      p.halfOpenSuccessesToClose ≤ maxProtectionHalfOpenSuccesses := by
  simp only [validate, then_ok, check_holds, decide_eq_true_eq]

theorem validateBase_iff (p : CommonPolicy) (maxCandidates exploration : Nat) :
    validateBase p maxCandidates exploration = .ok () ↔
      (1 ≤ maxCandidates ∧ maxCandidates ≤ 1024) ∧ exploration ≤ 2000 ∧
        p.rejected = false := by
  unfold validateBase RoutingPolicyConfigV1.validate
  rw [mapError_ok, check_ok]
  grind

theorem RoutingPolicyConfigV1.validate_iff (p : RoutingPolicyConfigV1) :
    p.validate = .ok () ↔ p.version = 1 ∧
      validateBase p.toCommonPolicy p.maxCandidates p.explorationShareBasisPoints = .ok () := by
  rw [validateBase_iff]
  unfold validate
  rw [check_ok]
  grind

theorem RoutingPolicyConfigV2.validate_iff (p : RoutingPolicyConfigV2) :
    p.validate = .ok () ↔ p.version = 2 ∧
      validateBase p.toCommonPolicy p.maxCandidates p.explorationShareBasisPoints = .ok () ∧
      p.retryFailover.validate = .ok () ∧ p.protectionProfile.validate = .ok () ∧
      p.timeoutPolicy.validate = .ok () := by
  simp only [validate, then_ok, check_holds, decide_eq_true_eq]

theorem RetryPolicyV3.validate_iff (p : RetryPolicyV3) :
    p.validate = .ok () ↔ p.version = 1 ∧ p.maxRetryCount ≤ maxTotalAttemptsHardCap - 1 ∧
      1 ≤ p.consecutiveFailureThreshold ∧ p.consecutiveFailureThreshold ≤ 10 := by
  simp only [validate, then_ok, check_holds, decide_eq_true_eq]

theorem CircuitBreakerPolicyV3.validate_iff (p : CircuitBreakerPolicyV3) :
    p.validate = .ok () ↔ p.version = 1 ∧ (1 ≤ p.recoverySuccessThreshold ∧
      p.recoverySuccessThreshold ≤ maxProtectionHalfOpenSuccesses) ∧
      5 ≤ p.recoveryWaitSeconds ∧ p.recoveryWaitSeconds ≤ 3600 := by
  simp only [validate, then_ok, check_holds, decide_eq_true_eq]

theorem RoutingPolicyConfigV3.validate_iff (p : RoutingPolicyConfigV3) :
    p.validate = .ok () ↔ p.version = 3 ∧ validateBase p.toCommonPolicy 1 0 = .ok () ∧
      p.reliabilitySourceWeights.validate = .ok () ∧ p.reliabilitySampling.validate = .ok () ∧
      p.retry.validate = .ok () ∧ p.circuitBreaker.validate = .ok () ∧
      p.timeoutPolicy.validate = .ok () := by
  simp only [validate, then_ok, check_holds, decide_eq_true_eq]

/-! ### The defaults -/

theorem RoutingPolicyConfigV1.default_valid : RoutingPolicyConfigV1.default.validate = .ok () := by
  decide +kernel

theorem RetryFailoverPolicyV2.default_valid : RetryFailoverPolicyV2.default.validate = .ok () := by
  rw [validate_iff]
  decide +kernel

theorem ProtectionProfileConfigV2.default_valid :
    ProtectionProfileConfigV2.default.validate = .ok () := by
  rw [validate_iff]
  decide +kernel

theorem TimeoutPolicyV2.default_valid : TimeoutPolicyV2.default.validate = .ok () := by
  decide +kernel

/-- Every default of the third generation passes its own check. -/
theorem reliability_defaults_valid :
    ReliabilitySourceWeightsV3.default.validate = .ok () ∧
      ReliabilitySamplingPolicyV3.default.validate = .ok () :=
  ⟨rfl, rfl⟩

/-! ### Upgrades and projections -/

/-- The policy of the third generation that a policy of the second one becomes. -/
def upgradedPolicy (value : RoutingPolicyConfigV2) : RoutingPolicyConfigV3 :=
  { value.toCommonPolicy with
    version := 3
    reliabilitySourceWeights := .default
    reliabilitySampling := .default
    retry := ⟨1, value.retryFailover.maxTotalAttempts - 1, 3⟩
    circuitBreaker := ⟨1, value.protectionProfile.halfOpenSuccessesToClose, 30⟩
    timeoutPolicy := value.timeoutPolicy }

theorem upgradedPolicy_valid {value : RoutingPolicyConfigV2} (valid : value.validate = .ok ()) :
    (upgradedPolicy value).validate = .ok () := by
  obtain ⟨-, base, retry, protection, timeout⟩ := value.validate_iff.mp valid
  obtain ⟨-, ⟨some, few⟩, -⟩ := value.retryFailover.validate_iff.mp retry
  obtain ⟨-, -, -, -, -, halfOpen⟩ := value.protectionProfile.validate_iff.mp protection
  have common := ((validateBase_iff ..).mp base).2.2
  refine (upgradedPolicy value).validate_iff.mpr ⟨rfl, ?_, rfl, rfl, ?_, ?_, timeout⟩
  · exact (validateBase_iff ..).mpr ⟨by decide, by decide, common⟩
  · exact (RetryPolicyV3.validate_iff _).mpr ⟨rfl, Nat.sub_le_sub_right few 1,
      (by decide : 1 ≤ 3 ∧ 3 ≤ 10)⟩
  · exact (CircuitBreakerPolicyV3.validate_iff _).mpr ⟨rfl, halfOpen,
      (by decide : 5 ≤ 30 ∧ 30 ≤ 3600)⟩

theorem fromV2_valid {value : RoutingPolicyConfigV2} (valid : value.validate = .ok ()) :
    RoutingPolicyConfigV3.fromV2 value = .ok ⟨upgradedPolicy value, upgradeAudit⟩ := by
  obtain ⟨-, -, retry, -⟩ := value.validate_iff.mp valid
  have some := (value.retryFailover.validate_iff.mp retry).2.1.1
  refine bind_ok.mpr ⟨(), valid, bind_ok.mpr ⟨(), check_holds.mpr (decide_eq_true some), ?_⟩⟩
  exact bind_ok.mpr ⟨(), upgradedPolicy_valid valid, rfl⟩

theorem no_wait : within 0 2 ⟨0⟩ := by decide +kernel

theorem default_window : within (mkRat 1 (2 ^ 1022)) 86400 ⟨0x4072c00000000000⟩ := by
  decide +kernel

/-- The policy of the second generation that stands for a policy of the third one. -/
def projectedPolicy (value : RoutingPolicyConfigV3) : RoutingPolicyConfigV2 :=
  { value.toCommonPolicy with
    version := 2
    maxCandidates := 1024
    explorationShareBasisPoints := 0
    retryFailover := ⟨2, value.retry.maxTotalAttempts, 0, ⟨0⟩, false⟩
    protectionProfile :=
      ⟨2, false, 64, ⟨0x4072c00000000000⟩, 1, 100, value.circuitBreaker.recoverySuccessThreshold⟩
    timeoutPolicy := value.timeoutPolicy }

theorem projectedPolicy_valid {value : RoutingPolicyConfigV3} (valid : value.validate = .ok ()) :
    (projectedPolicy value).validate = .ok () := by
  obtain ⟨-, base, -, -, retry, circuit, timeout⟩ := value.validate_iff.mp valid
  obtain ⟨-, few, -⟩ := value.retry.validate_iff.mp retry
  obtain ⟨-, halfOpen, -⟩ := value.circuitBreaker.validate_iff.mp circuit
  have common := ((validateBase_iff ..).mp base).2.2
  refine (projectedPolicy value).validate_iff.mpr ⟨rfl, ?_, ?_, ?_, timeout⟩
  · exact (validateBase_iff ..).mpr ⟨(by decide : 1 ≤ 1024 ∧ 1024 ≤ 1024), Nat.zero_le _, common⟩
  · exact (RetryFailoverPolicyV2.validate_iff _).mpr ⟨rfl, ⟨Nat.succ_pos _, Nat.succ_le_succ few⟩,
      Nat.zero_le _, Nat.succ_pos _, no_wait⟩
  · exact (ProtectionProfileConfigV2.validate_iff _).mpr ⟨rfl, (by decide : 1 ≤ 64 ∧ 64 ≤ 256),
      default_window, (by decide : 1 ≤ 1 ∧ 1 ≤ 64), (by decide : 1 ≤ 100 ∧ 100 ≤ 100), halfOpen⟩

theorem fromV3Compat_valid {value : RoutingPolicyConfigV3} (valid : value.validate = .ok ()) :
    RoutingPolicyConfigV2.fromV3Compat value = .ok (projectedPolicy value) := by
  obtain ⟨-, -, -, -, retry, -⟩ := value.validate_iff.mp valid
  have few := (value.retry.validate_iff.mp retry).2.1
  have fits : value.retry.maxTotalAttempts < 2 ^ 16 :=
    Nat.lt_of_le_of_lt (Nat.succ_le_succ few) (by decide)
  refine bind_ok.mpr ⟨(), check_holds.mpr (decide_eq_true fits), ?_⟩
  exact bind_ok.mpr ⟨(), projectedPolicy_valid valid, rfl⟩

/-- What an upgrade decides is what a projection keeps. -/
theorem upgradedPolicy_projected (value : RoutingPolicyConfigV2) :
    upgradedPolicy (projectedPolicy (upgradedPolicy value)) = upgradedPolicy value := rfl

/-- The policy that a policy of the first generation becomes. -/
def raisedPolicy (value : RoutingPolicyConfigV1) : RoutingPolicyConfigV2 :=
  { value.toCommonPolicy with
    version := 2
    maxCandidates := value.maxCandidates
    explorationShareBasisPoints := value.explorationShareBasisPoints
    retryFailover := .default
    protectionProfile := .default
    timeoutPolicy := .default }

theorem raisedPolicy_valid {value : RoutingPolicyConfigV1} (valid : value.validate = .ok ()) :
    (raisedPolicy value).validate = .ok () :=
  (raisedPolicy value).validate_iff.mpr ⟨rfl, (value.validate_iff.mp valid).2,
    RetryFailoverPolicyV2.default_valid, ProtectionProfileConfigV2.default_valid,
    TimeoutPolicyV2.default_valid⟩

theorem fromV1_valid {value : RoutingPolicyConfigV1} (valid : value.validate = .ok ()) :
    RoutingPolicyConfigV2.fromV1 value = .ok (raisedPolicy value) :=
  bind_ok.mpr ⟨(), mapError_ok.mpr valid, bind_ok.mpr ⟨(), raisedPolicy_valid valid, rfl⟩⟩

/-! ### Every accepted policy -/

/-- An accepted policy of the first or the second generation is upgraded to an accepted policy
with the same common fields, timeouts and attempts; an accepted policy of the third generation
is projected with the same fields; and the projection of an upgraded policy is upgraded to that
policy again. -/
theorem policy_upgrades_lossless :
    (∀ value : RoutingPolicyConfigV1, value.validate = .ok () →
      ∃ second upgrade, RoutingPolicyConfigV2.fromV1 value = .ok second ∧
        RoutingPolicyConfigV3.fromV2 second = .ok upgrade ∧
        upgrade.policy.validate = .ok () ∧
        upgrade.policy.toCommonPolicy = value.toCommonPolicy ∧
        upgrade.policy.timeoutPolicy = .default ∧
        upgrade.policy.retry.maxTotalAttempts = maxTotalAttemptsHardCap) ∧
    (∀ value : RoutingPolicyConfigV2, value.validate = .ok () →
      ∃ upgrade projected, RoutingPolicyConfigV3.fromV2 value = .ok upgrade ∧
        upgrade.policy.validate = .ok () ∧
        upgrade.policy.toCommonPolicy = value.toCommonPolicy ∧
        upgrade.policy.timeoutPolicy = value.timeoutPolicy ∧
        upgrade.policy.retry.maxTotalAttempts = value.retryFailover.maxTotalAttempts ∧
        RoutingPolicyConfigV2.fromV3Compat upgrade.policy = .ok projected ∧
        RoutingPolicyConfigV3.fromV2 projected = .ok upgrade) ∧
    ∀ value : RoutingPolicyConfigV3, value.validate = .ok () →
      ∃ projected, RoutingPolicyConfigV2.fromV3Compat value = .ok projected ∧
        projected.validate = .ok () ∧
        projected.toCommonPolicy = value.toCommonPolicy ∧
        projected.timeoutPolicy = value.timeoutPolicy ∧
        projected.retryFailover.maxTotalAttempts = value.retry.maxTotalAttempts ∧
        projected.protectionProfile.halfOpenSuccessesToClose =
          value.circuitBreaker.recoverySuccessThreshold := by
  refine ⟨fun value valid => ?_, fun value valid => ?_, fun value valid => ?_⟩
  · have raised := raisedPolicy_valid valid
    exact ⟨_, _, fromV1_valid valid, fromV2_valid raised, upgradedPolicy_valid raised, rfl, rfl,
      rfl⟩
  · have upgraded := upgradedPolicy_valid valid
    obtain ⟨-, -, retry, -⟩ := value.validate_iff.mp valid
    have some := (value.retryFailover.validate_iff.mp retry).2.1.1
    refine ⟨_, _, fromV2_valid valid, upgraded, rfl, rfl, Nat.sub_add_cancel some,
      fromV3Compat_valid upgraded, ?_⟩
    rw [fromV2_valid (projectedPolicy_valid upgraded), upgradedPolicy_projected]
  · exact ⟨_, fromV3Compat_valid valid, projectedPolicy_valid valid, rfl, rfl, rfl, rfl⟩

/-- The default policy of the first generation, raised twice and projected back. -/
theorem policy_upgrades_lossless_default :
    ∃ second upgrade projected,
      RoutingPolicyConfigV2.fromV1 .default = .ok second ∧
      second.validate = .ok () ∧
      RoutingPolicyConfigV3.fromV2 second = .ok upgrade ∧
      RoutingPolicyConfigV2.fromV3Compat upgrade.policy = .ok projected ∧
      RoutingPolicyConfigV3.fromV2 projected = .ok upgrade := by
  have first := RoutingPolicyConfigV1.default_valid
  have raised := raisedPolicy_valid first
  obtain ⟨second, upgrade, is, upgraded, valid, -⟩ := policy_upgrades_lossless.1 .default first
  obtain rfl := Except.ok.inj ((fromV1_valid first).symm.trans is)
  obtain ⟨again, projected, same, -, -, -, -, back, kept⟩ :=
    policy_upgrades_lossless.2.1 (raisedPolicy .default) raised
  obtain rfl := Except.ok.inj (upgraded.symm.trans same)
  exact ⟨_, upgrade, projected, is, raised, upgraded, back, kept⟩

end RelayPool.Policies
