import Mathlib.Algebra.Ring.Int.Defs
import Mathlib.Algebra.Ring.Nat
import RelayPool.Alerting.Policy

/-! Incidents.

An incident is what the observations of one condition amount to: pending while the
trigger of the policy has not been met, opened, recovering while the recovery rule has
not, resolved. An abnormal observation of a resolved incident begins its next episode.
`applyObservation` is the whole state machine. -/
namespace RelayPool.Alerting

/-! ### Machine arithmetic -/

def u32Max : Nat := 4294967295

def saturatingSucc (n : Nat) : Nat := min (n + 1) u32Max

def clampI64 (n : Int) : Int := max (-2 ^ 63) (min n (2 ^ 63 - 1))

/-- The bits of a `u64` read as an `i64`. -/
def asI64 (n : Nat) : Int := if n < 2 ^ 63 then n else (n : Int) - 2 ^ 64

def durationMs (seconds : Nat) : Int := asI64 (min (seconds * 1000) (2 ^ 64 - 1))

theorem durationMs_eq {seconds : Nat} (h : seconds ≤ 30 * 24 * 60 * 60) :
    durationMs seconds = seconds * 1000 := by
  rw [durationMs, Nat.min_eq_left (by omega), asI64, if_pos (by omega)]
  exact Int.natCast_mul seconds 1000

/-! ### The record -/

def validConditionKey (value : String) : Bool :=
  value ≠ "" ∧ value.utf8ByteSize ≤ 200 ∧
    value.toList.all fun c => c.isAlphanum ∨ c ∈ ['.', '_', ':', '-']

/-- Stable, redacted identity of an observation stream. -/
structure ConditionKey where
  asStr : String
  valid : validConditionKey asStr
deriving DecidableEq

@[ext] theorem ConditionKey.ext {k k' : ConditionKey} (h : k.asStr = k'.asStr) : k = k' := by
  cases k
  cases k'
  cases h
  rfl

inductive LifecycleState
  | pending
  | opened
  | recovering
  | resolved
deriving DecidableEq, Repr

inductive StateTransition
  | none
  | pending
  | opened
  | recovering
  | resolved
  | reopened
deriving DecidableEq, Repr

structure IncidentObservation where
  sourceObservationKey : String
  eventType : AlertEventType
  conditionKey : ConditionKey
  kind : ObservationKind
  severity : Severity
  observedAtMs : Int
  factFreshUntilMs : Int
  summaryJson : String

structure Incident where
  id : String
  conditionKey : ConditionKey
  eventType : AlertEventType
  lifecycleState : LifecycleState
  baseSeverity : Severity
  severity : Severity
  objectType : String
  objectId : Option String
  stationId : Option String
  stationKeyId : Option String
  policyId : Option String
  policyRevision : Option Nat
  lifecyclePolicyFingerprint : String
  episodeNumber : Nat
  firstSeenAtMs : Int
  lastSeenAtMs : Int
  openedAtMs : Option Int
  recoveringAtMs : Option Int
  resolvedAtMs : Option Int
  occurrenceCount : Nat
  episodeOccurrenceCount : Nat
  consecutiveAbnormalCount : Nat
  consecutiveHealthyCount : Nat
  pendingSinceMs : Option Int
  healthySinceMs : Option Int
  lastObservationId : Option String
  lastObservationSummaryJson : String
  factFreshUntilMs : Option Int
  nextStateEvaluationAtMs : Option Int
  lastNotificationAtMs : Option Int
  nextNotificationAtMs : Option Int
  version : Nat
  createdAtMs : Int
  updatedAtMs : Int
deriving DecidableEq

def recoverySatisfied (mode : RecoveryMode) (healthyCount : Nat) (healthySinceMs : Option Int)
    (observedAtMs : Int) (count durationSeconds : Option Nat) : Bool :=
  match mode with
  | .consecutiveHealthy => count.getD 1 ≤ healthyCount
  | .healthyDuration =>
    match healthySinceMs, durationSeconds with
    | some since, some duration => durationMs duration ≤ clampI64 (observedAtMs - since)
    | _, _ => false

/-- When a duration that began at `since` is over. -/
def deadline (since : Option Int) (durationSeconds : Option Nat) : Option Int :=
  match since, durationSeconds with
  | some since, some duration => some (clampI64 (since + durationMs duration))
  | _, _ => none

namespace Incident

def new (id : String) (conditionKey : ConditionKey) (eventType : AlertEventType)
    (baseSeverity : Severity) (nowMs : Int) (lifecyclePolicyFingerprint : String) : Incident where
  id := id
  conditionKey := conditionKey
  eventType := eventType
  lifecycleState := .pending
  baseSeverity := baseSeverity
  severity := baseSeverity
  objectType := "unknown"
  objectId := none
  stationId := none
  stationKeyId := none
  policyId := none
  policyRevision := none
  lifecyclePolicyFingerprint := lifecyclePolicyFingerprint
  episodeNumber := 1
  firstSeenAtMs := nowMs
  lastSeenAtMs := nowMs
  openedAtMs := none
  recoveringAtMs := none
  resolvedAtMs := none
  occurrenceCount := 0
  episodeOccurrenceCount := 0
  consecutiveAbnormalCount := 0
  consecutiveHealthyCount := 0
  pendingSinceMs := some nowMs
  healthySinceMs := none
  lastObservationId := none
  lastObservationSummaryJson := "\x7b\x7d"
  factFreshUntilMs := none
  nextStateEvaluationAtMs := none
  lastNotificationAtMs := none
  nextNotificationAtMs := none
  version := 0
  createdAtMs := nowMs
  updatedAtMs := nowMs

def isActive (i : Incident) : Bool := i.lifecycleState ≠ .resolved

/-- Whether the trigger of the policy is met; a trigger by duration never is here. -/
def triggerSatisfied (i : Incident) (p : AlertPolicy) : Bool :=
  match p.triggerMode with
  | .immediate => true
  | .consecutiveOccurrences => p.triggerCount.getD 1 ≤ i.consecutiveAbnormalCount
  | .activeDuration => false

def maybeOpen (i : Incident) (observedAtMs : Int) (p : AlertPolicy) :
    StateTransition × Incident :=
  if i.triggerSatisfied p then
    (.opened, { i with
      lifecycleState := .opened
      openedAtMs := some observedAtMs
      pendingSinceMs := none
      nextStateEvaluationAtMs := none })
  else
    (.pending, { i with
      nextStateEvaluationAtMs :=
        if p.triggerMode = .activeDuration then deadline i.pendingSinceMs p.triggerDurationSeconds
        else i.nextStateEvaluationAtMs })

def countAbnormal (i : Incident) : Incident :=
  { i with
    occurrenceCount := i.occurrenceCount + 1
    episodeOccurrenceCount := i.episodeOccurrenceCount + 1
    consecutiveAbnormalCount := saturatingSucc i.consecutiveAbnormalCount
    consecutiveHealthyCount := 0
    healthySinceMs := none
    nextStateEvaluationAtMs := none }

def nextEpisode (i : Incident) (observedAtMs : Int) : Incident :=
  { i with
    episodeNumber := saturatingSucc i.episodeNumber
    episodeOccurrenceCount := 1
    consecutiveAbnormalCount := 1
    pendingSinceMs := some observedAtMs
    openedAtMs := none
    recoveringAtMs := none
    resolvedAtMs := none
    lifecycleState := .pending }

def observeAbnormal (i : Incident) (o : IncidentObservation) (p : AlertPolicy) :
    StateTransition × Incident :=
  match i.lifecycleState with
  | .resolved => (i.countAbnormal.nextEpisode o.observedAtMs).maybeOpen o.observedAtMs p
  | .recovering =>
    (.opened, { i.countAbnormal with lifecycleState := .opened, recoveringAtMs := none })
  -- an incident that is already open stays open without a second transition
  | .opened => (.none, i.countAbnormal)
  | .pending => i.countAbnormal.maybeOpen o.observedAtMs p

def recovers (i : Incident) (observedAtMs : Int) (p : AlertPolicy) : Bool :=
  recoverySatisfied p.recoveryMode i.consecutiveHealthyCount i.healthySinceMs observedAtMs
    p.recoveryCount p.recoveryDurationSeconds

/-- The deadline of a recovery by duration. -/
def recoveryDeadline (i : Incident) (p : AlertPolicy) : Option Int :=
  if p.recoveryMode = .healthyDuration then deadline i.healthySinceMs p.recoveryDurationSeconds
  else i.nextStateEvaluationAtMs

def resolve (i : Incident) (observedAtMs : Int) : Incident :=
  { i with
    lifecycleState := .resolved
    resolvedAtMs := some observedAtMs
    recoveringAtMs := none }

def countHealthy (i : Incident) : Incident :=
  { i with
    consecutiveAbnormalCount := 0
    consecutiveHealthyCount := saturatingSucc i.consecutiveHealthyCount
    pendingSinceMs := none
    nextStateEvaluationAtMs := none }

def startRecovery (i : Incident) (observedAtMs : Int) : Incident :=
  { i with
    lifecycleState := .recovering
    recoveringAtMs := some observedAtMs
    healthySinceMs := some observedAtMs }

/-- A recovering incident resolves or waits on; `waiting` is the transition of the latter. -/
def continueRecovery (i : Incident) (waiting : StateTransition) (observedAtMs : Int)
    (p : AlertPolicy) : StateTransition × Incident :=
  if i.recovers observedAtMs p then (.resolved, i.resolve observedAtMs)
  else (waiting, { i with nextStateEvaluationAtMs := i.recoveryDeadline p })

def observeHealthy (i : Incident) (o : IncidentObservation) (p : AlertPolicy) :
    StateTransition × Incident :=
  match i.lifecycleState with
  | .pending =>
    (.resolved, { i.countHealthy with
      lifecycleState := .resolved
      resolvedAtMs := some o.observedAtMs })
  | .opened =>
    (i.countHealthy.startRecovery o.observedAtMs).continueRecovery .recovering o.observedAtMs p
  | .recovering => i.countHealthy.continueRecovery .none o.observedAtMs p
  | .resolved => (.none, i.countHealthy)

/-- What every observation leaves in the record. -/
def note (i : Incident) (o : IncidentObservation) : Incident :=
  { i with
    version := i.version + 1
    updatedAtMs := o.observedAtMs
    lastSeenAtMs := o.observedAtMs
    lastObservationId := some o.sourceObservationKey
    lastObservationSummaryJson := o.summaryJson
    factFreshUntilMs := some o.factFreshUntilMs
    severity := o.severity }

/-- The policy is read for its trigger and its recovery rule only. -/
def applyObservation (i : Incident) (o : IncidentObservation) (p : AlertPolicy) :
    StateTransition × Incident :=
  -- invalid or out-of-order facts never change the incident
  if o.factFreshUntilMs < o.observedAtMs ∨ o.observedAtMs < i.lastSeenAtMs then (.none, i)
  else
    match o.kind with
    | .abnormal => (i.note o).observeAbnormal o p
    | .healthy => (i.note o).observeHealthy o p
    | .change => (.none, i.note o)

end Incident

inductive ProjectionError
  | invalidFreshness
  | observationOutOfOrder
deriving DecidableEq, Repr

namespace IncidentProjector

def apply (i : Incident) (o : IncidentObservation) (p : AlertPolicy) :
    Except ProjectionError (StateTransition × Incident) :=
  if o.factFreshUntilMs < o.observedAtMs then .error .invalidFreshness
  else if o.observedAtMs < i.lastSeenAtMs then .error .observationOutOfOrder
  else .ok (i.applyObservation o p)

end IncidentProjector

end RelayPool.Alerting
