import RelayPool.Saturating

/-! The station-key circuit reducer.

One circuit per key lifecycle: `Closed` counts consecutive failures, `Open`
waits out a cooldown, `HalfOpen` admits one leased probe at a time. The reducer
owns the transition rules and nothing else: the durable store serializes its
calls and supplies the policy in force at each of them.

`admitAttempt`, `finish` and `reapExpiredLease` are the three operations. An operation
that reports an error has changed nothing, so it is an `Except` over the reply
and the new circuit. -/
namespace RelayPool.Circuit

/-! ### Policy and state -/

inductive CircuitError
  | invalidConfig
  | invalidTime
  | invalidLease
deriving DecidableEq, Repr

structure StationKeyCircuitConfig where
  policyRevision : UInt64
  consecutiveFailureThreshold : UInt16
  recoverySuccessThreshold : UInt16
  recoveryWaitMs : UInt64
  maxCooldownMs : UInt64
deriving DecidableEq, Repr

def StationKeyCircuitConfig.validate (config : StationKeyCircuitConfig) :
    Except CircuitError StationKeyCircuitConfig :=
  if config.policyRevision = 0 ∨ config.consecutiveFailureThreshold = 0 ∨
      config.recoverySuccessThreshold = 0 ∨ config.recoveryWaitMs = 0 ∨
      config.maxCooldownMs < config.recoveryWaitMs then
    .error .invalidConfig
  else
    .ok config

/-- A config that passed `validate`. -/
structure ValidConfig where
  config : StationKeyCircuitConfig
  valid : config.validate = .ok config
deriving DecidableEq

/-- The part of the policy a Half-Open lease is granted under and keeps. -/
structure StationKeyCircuitLeasePolicy where
  policyRevision : UInt64
  recoverySuccessThreshold : UInt16
  recoveryWaitMs : UInt64
deriving DecidableEq, Repr

inductive StationKeyCircuitState
  | closed (stateRevision : UInt64) (consecutiveFailures : UInt16) (reopenLevel : UInt32)
  | open (stateRevision openedAtMs cooldownUntilMs : UInt64) (consecutiveFailures : UInt16)
      (reopenLevel : UInt32)
  | halfOpen (stateRevision : UInt64) (leaseId : Option String) (leaseRevision : UInt64)
      (leaseExpiresAtMs : Option UInt64) (recoverySuccesses : UInt16) (reopenLevel : UInt32)
deriving DecidableEq, Repr

namespace StationKeyCircuitState

def initial : StationKeyCircuitState := .closed 1 0 0

def stateRevision : StationKeyCircuitState → UInt64
  | .closed r _ _ => r
  | .open r _ _ _ _ => r
  | .halfOpen r _ _ _ _ _ => r

def leaseRevision : StationKeyCircuitState → Option UInt64
  | .closed .. => none
  | .open .. => none
  | .halfOpen _ _ r _ _ _ => some r

def leaseId : StationKeyCircuitState → Option String
  | .closed .. => none
  | .open .. => none
  | .halfOpen _ lease _ _ _ _ => lease

def leaseExpiresAtMs : StationKeyCircuitState → Option UInt64
  | .closed .. => none
  | .open .. => none
  | .halfOpen _ _ _ expires _ _ => expires

def reopenLevel : StationKeyCircuitState → UInt32
  | .closed _ _ l => l
  | .open _ _ _ _ l => l
  | .halfOpen _ _ _ _ _ l => l

/-- The failures a state carries; Half-Open carries none. -/
def consecutiveFailures : StationKeyCircuitState → UInt16
  | .closed _ f _ => f
  | .open _ _ _ f _ => f
  | .halfOpen .. => 0

/-- The recovery successes a state carries; only Half-Open carries any. -/
def recoverySuccesses : StationKeyCircuitState → UInt16
  | .closed .. => 0
  | .open .. => 0
  | .halfOpen _ _ _ _ n _ => n

def IsClosed : StationKeyCircuitState → Prop
  | .closed .. => True
  | .open .. => False
  | .halfOpen .. => False

def IsOpen : StationKeyCircuitState → Prop
  | .closed .. => False
  | .open .. => True
  | .halfOpen .. => False

def IsHalfOpen : StationKeyCircuitState → Prop
  | .closed .. => False
  | .open .. => False
  | .halfOpen .. => True

-- By constructor only: on a state that is not one yet, simp leaves the accessor folded.
attribute [simp] stateRevision.eq_1 stateRevision.eq_2 stateRevision.eq_3 leaseRevision.eq_1
  leaseRevision.eq_2 leaseRevision.eq_3 leaseId.eq_1 leaseId.eq_2 leaseId.eq_3
  leaseExpiresAtMs.eq_1 leaseExpiresAtMs.eq_2 leaseExpiresAtMs.eq_3 reopenLevel.eq_1
  reopenLevel.eq_2 reopenLevel.eq_3 consecutiveFailures.eq_1 consecutiveFailures.eq_2
  consecutiveFailures.eq_3 recoverySuccesses.eq_1 recoverySuccesses.eq_2 recoverySuccesses.eq_3
  IsClosed.eq_1 IsClosed.eq_2 IsClosed.eq_3 IsOpen.eq_1 IsOpen.eq_2 IsOpen.eq_3 IsHalfOpen.eq_1
  IsHalfOpen.eq_2 IsHalfOpen.eq_3

theorem IsClosed.not_open {s : StationKeyCircuitState} (h : s.IsClosed) : ¬ s.IsOpen := by
  cases s <;> simp_all

theorem IsClosed.not_halfOpen {s : StationKeyCircuitState} (h : s.IsClosed) : ¬ s.IsHalfOpen := by
  cases s <;> simp_all

theorem IsOpen.not_halfOpen {s : StationKeyCircuitState} (h : s.IsOpen) : ¬ s.IsHalfOpen := by
  cases s <;> simp_all

instance : DecidablePred IsClosed
  | .closed .. => isTrue trivial
  | .open .. => isFalse id
  | .halfOpen .. => isFalse id

instance : DecidablePred IsOpen
  | .closed .. => isFalse id
  | .open .. => isTrue trivial
  | .halfOpen .. => isFalse id

instance : DecidablePred IsHalfOpen
  | .closed .. => isFalse id
  | .open .. => isFalse id
  | .halfOpen .. => isTrue trivial

end StationKeyCircuitState

inductive CircuitAdmission
  | allowedClosed
  | allowedHalfOpen
  | deniedOpenCooldown
  | deniedHalfOpenLease
deriving DecidableEq, Repr

inductive CircuitTransition
  | observed
  | opened
  | reopened
  | recoverySucceeded
  | closed
  | ignoredLateResult
deriving DecidableEq, Repr

structure StationKeyCircuit where
  config : StationKeyCircuitConfig
  policyRevision : UInt64
  leasePolicy : Option StationKeyCircuitLeasePolicy
  state : StationKeyCircuitState
deriving DecidableEq, Repr

/-- What is stored of a circuit: all of it but the policy in force. -/
structure StationKeyCircuitStatus where
  policyRevision : UInt64
  leasePolicy : Option StationKeyCircuitLeasePolicy
  state : StationKeyCircuitState
deriving DecidableEq, Repr

def StationKeyCircuit.status (c : StationKeyCircuit) : StationKeyCircuitStatus :=
  ⟨c.policyRevision, c.leasePolicy, c.state⟩

/-- The circuit of a stored status under the policy in force. -/
def StationKeyCircuitStatus.circuit (status : StationKeyCircuitStatus)
    (config : StationKeyCircuitConfig) : StationKeyCircuit :=
  ⟨config, status.policyRevision, status.leasePolicy, status.state⟩

@[simp] theorem StationKeyCircuit.status_circuit (c : StationKeyCircuit)
    (config : StationKeyCircuitConfig) : c.status.circuit config = { c with config } := rfl

@[simp] theorem StationKeyCircuitStatus.circuit_status (status : StationKeyCircuitStatus)
    (config : StationKeyCircuitConfig) : (status.circuit config).status = status := rfl

/-- The revision every state write takes: one more, and never zero. -/
def bumpRevision (stateRevision : UInt64) : UInt64 := max (stateRevision.saturatingAdd 1) 1

namespace StationKeyCircuit
open StationKeyCircuitState

/-- A circuit with another policy in force, as when the store rebuilds it from its row. -/
def withConfig (c : StationKeyCircuit) (config : StationKeyCircuitConfig) : StationKeyCircuit :=
  { c with config }

def new (config : StationKeyCircuitConfig) : Except CircuitError StationKeyCircuit := do
  let config ← config.validate
  return ⟨config, config.policyRevision, none, initial⟩

/-! ### The checks on a stored circuit -/

def validateState (c : StationKeyCircuit) : Except CircuitError Unit :=
  let hasActiveLease := c.state.leaseId.isSome
  if hasActiveLease ≠ c.leasePolicy.isSome ∨
      c.leasePolicy.any (fun policy => policy.policyRevision = 0 ∨
        policy.recoverySuccessThreshold = 0 ∨ policy.recoveryWaitMs = 0) then
    .error .invalidLease
  else
    match c.state with
    | .open _ openedAtMs cooldownUntilMs _ _ =>
      if cooldownUntilMs < openedAtMs then .error .invalidTime else .ok ()
    | .halfOpen _ leaseId _ leaseExpiresAtMs _ _ =>
      if leaseId.isSome ≠ leaseExpiresAtMs.isSome then .error .invalidLease else .ok ()
    | .closed .. => .ok ()

def fromState (config : StationKeyCircuitConfig) (policyRevision : UInt64)
    (leasePolicy : Option StationKeyCircuitLeasePolicy) (state : StationKeyCircuitState) :
    Except CircuitError StationKeyCircuit := do
  if policyRevision = 0 then throw .invalidConfig
  let config ← config.validate
  let circuit : StationKeyCircuit := ⟨config, policyRevision, leasePolicy, state⟩
  circuit.validateState
  return circuit

/-! ### Opening -/

/-- The wait of one opening: doubled for each re-opening, the shift kept below the
word's width, the product capped by the system maximum. -/
def cooldown (recoveryWaitMs maxCooldownMs : UInt64) (reopenLevel : UInt32) : UInt64 :=
  let exponent := min (reopenLevel.saturatingSub 1) 63
  let multiplier := (UInt64.checkedShl 1 exponent).getD UInt64.maxValue
  min (recoveryWaitMs.saturatingMul multiplier) maxCooldownMs

def openWithPolicy (c : StationKeyCircuit) (nowMs : UInt64) (consecutiveFailures : UInt16)
    (previousLevel : UInt32) (policyRevision recoveryWaitMs : UInt64) : StationKeyCircuit :=
  let reopenLevel := max (previousLevel.saturatingAdd 1) 1
  let cooldown := cooldown recoveryWaitMs c.config.maxCooldownMs reopenLevel
  { c with
    policyRevision
    leasePolicy := none
    state := .open (bumpRevision c.state.stateRevision) nowMs (nowMs.saturatingAdd cooldown)
      consecutiveFailures reopenLevel }

def activeLeasePolicy (c : StationKeyCircuit) : Except CircuitError StationKeyCircuitLeasePolicy :=
  match c.leasePolicy with
  | some policy => .ok policy
  | none => .error .invalidLease

/-- A probe is admitted under the policy in force. -/
def grantLease (c : StationKeyCircuit) (stateRevision : UInt64) (leaseId : String)
    (deadlineAtMs : UInt64) (recoverySuccesses : UInt16) (reopenLevel : UInt32) :
    StationKeyCircuit :=
  { c with
    policyRevision := c.config.policyRevision
    leasePolicy := some ⟨c.config.policyRevision, c.config.recoverySuccessThreshold,
      c.config.recoveryWaitMs⟩
    state := .halfOpen stateRevision (some leaseId) stateRevision (some deadlineAtMs)
      recoverySuccesses reopenLevel }

/-! ### The operations -/

def admitAttempt (c : StationKeyCircuit) (nowMs deadlineAtMs : UInt64) (leaseId : String) :
    Except CircuitError (CircuitAdmission × StationKeyCircuit) :=
  if deadlineAtMs < nowMs then .error .invalidTime
  else if leaseId.isEmpty then .error .invalidLease
  else match c.state with
    | .closed stateRevision consecutiveFailures reopenLevel =>
      if c.config.consecutiveFailureThreshold ≤ consecutiveFailures then
        .ok (.deniedOpenCooldown,
          c.openWithPolicy nowMs consecutiveFailures reopenLevel c.config.policyRevision
            c.config.recoveryWaitMs)
      else if c.policyRevision ≠ c.config.policyRevision then
        .ok (.allowedClosed, { c with
          policyRevision := c.config.policyRevision
          state := .closed (bumpRevision stateRevision) consecutiveFailures reopenLevel })
      else
        .ok (.allowedClosed, c)
    | .open stateRevision openedAtMs cooldownUntilMs consecutiveFailures reopenLevel =>
      -- A new policy is adopted in place; the cooldown it finds is kept.
      let adopted :=
        if c.policyRevision ≠ c.config.policyRevision then
          { c with
            policyRevision := c.config.policyRevision
            state := .open (bumpRevision stateRevision) openedAtMs cooldownUntilMs
              consecutiveFailures reopenLevel }
        else c
      if nowMs < cooldownUntilMs then .ok (.deniedOpenCooldown, adopted)
      else
        .ok (.allowedHalfOpen, adopted.grantLease (bumpRevision adopted.state.stateRevision)
          leaseId deadlineAtMs 0 reopenLevel)
    | .halfOpen _ (some _) _ _ _ _ => .ok (.deniedHalfOpenLease, c)
    | .halfOpen stateRevision none _ _ recoverySuccesses reopenLevel =>
      .ok (.allowedHalfOpen, c.grantLease (bumpRevision stateRevision) leaseId deadlineAtMs
        recoverySuccesses reopenLevel)

def finish (c : StationKeyCircuit) (nowMs : UInt64) (leaseId : Option String)
    (success boundaryCrossed : Bool) :
    Except CircuitError (CircuitTransition × StationKeyCircuit) :=
  match c.state with
  | .closed stateRevision consecutiveFailures reopenLevel =>
    if !boundaryCrossed then .ok (.observed, c)
    else if success then
      .ok (.observed, { c with
        policyRevision := c.config.policyRevision
        leasePolicy := none
        state := .closed (bumpRevision stateRevision) 0 reopenLevel })
    else
      let failures := consecutiveFailures.saturatingAdd 1
      if failures < c.config.consecutiveFailureThreshold then
        .ok (.observed, { c with
          policyRevision := c.config.policyRevision
          leasePolicy := none
          state := .closed (bumpRevision stateRevision) failures reopenLevel })
      else
        .ok (.opened, c.openWithPolicy nowMs failures reopenLevel c.config.policyRevision
          c.config.recoveryWaitMs)
  | .open .. => .ok (.ignoredLateResult, c)
  | .halfOpen _ none _ _ _ _ => .ok (.ignoredLateResult, c)
  | .halfOpen stateRevision (some expected) _ leaseExpiresAtMs recoverySuccesses reopenLevel =>
    if leaseId ≠ some expected then .ok (.ignoredLateResult, c)
    else if !boundaryCrossed then
      .ok (.observed, { c with
        leasePolicy := none
        state := .halfOpen stateRevision none stateRevision none recoverySuccesses reopenLevel })
    else if leaseExpiresAtMs.any (fun expires => expires ≤ nowMs) then do
      let leasePolicy ← c.activeLeasePolicy
      return (.reopened, c.openWithPolicy nowMs 0 reopenLevel leasePolicy.policyRevision
        leasePolicy.recoveryWaitMs)
    else do
      let leasePolicy ← c.activeLeasePolicy
      if success then
        let successes := recoverySuccesses.saturatingAdd 1
        if leasePolicy.recoverySuccessThreshold ≤ successes then
          return (.closed, { c with
            policyRevision := leasePolicy.policyRevision
            leasePolicy := none
            state := .closed (bumpRevision stateRevision) 0 0 })
        else
          return (.recoverySucceeded, { c with
            policyRevision := leasePolicy.policyRevision
            leasePolicy := none
            state := .halfOpen (bumpRevision stateRevision) none (bumpRevision stateRevision) none
              successes reopenLevel })
      else
        return (.reopened, c.openWithPolicy nowMs 0 reopenLevel leasePolicy.policyRevision
          leasePolicy.recoveryWaitMs)

def reapExpiredLease (c : StationKeyCircuit) (nowMs : UInt64) (leaseId : String) :
    Except CircuitError (Bool × StationKeyCircuit) :=
  match c.state with
  | .halfOpen _ (some active) _ (some expires) _ reopenLevel =>
    if active ≠ leaseId ∨ nowMs < expires then .ok (false, c)
    else do
      let leasePolicy ← c.activeLeasePolicy
      return (true, c.openWithPolicy nowMs 0 reopenLevel leasePolicy.policyRevision
        leasePolicy.recoveryWaitMs)
  | _ => .ok (false, c)

end StationKeyCircuit
end RelayPool.Circuit
