import RelayPool.Fallible
import RelayPool.Circuit.Reachable

/-! The durable store of one key's circuit.

The tables are those of one key lifecycle; other keys share nothing with it but
the database-wide clock. Every operation runs in a write transaction: it is a
function of the tables that answers and returns them changed, or fails and
leaves them as they were.

A row keeps a circuit in columns. `rowToStatus` reads back what `CircuitRow.of`
wrote, whatever the state, so the operations are the reducer's on the circuit
the row stands for, plus an event for every terminal result and every reaped
lease. -/
namespace RelayPool.Circuit

inductive PersistenceError
  | invariantViolation (message : String)
  | revisionConflict (scope : String)
  | constraintViolation
  | databaseFailed
  | databaseBusy
  | notFound
deriving DecidableEq, Repr

/-- The conversion every value makes on its way into a SQLite column. -/
def sqliteInteger (value : UInt64) : Except PersistenceError UInt64 :=
  if value < 9223372036854775808 then .ok value else .error .constraintViolation

def sqliteOptional (value : Option UInt64) : Except PersistenceError (Option UInt64) :=
  value.mapM sqliteInteger

/-- SQLite's `length` of a text: its characters up to the first NUL. -/
def sqliteLength (text : String) : Nat := (text.toList.takeWhile (· ≠ '\x00')).length

def mapCircuitError : CircuitError → PersistenceError
  | .invalidConfig => .constraintViolation
  | .invalidTime => .constraintViolation
  | .invalidLease => .constraintViolation

/-! ### Rows -/

inductive CircuitStateName
  | closed
  | open
  | halfOpen
deriving DecidableEq, Repr

structure StateValues where
  state : CircuitStateName
  stateRevision : UInt64
  consecutiveFailures : UInt16
  reopenLevel : UInt32
  openedAtMs : Option UInt64
  cooldownUntilMs : Option UInt64
  recoverySuccesses : UInt16
  leaseId : Option String
  leaseRevision : Option UInt64
  leaseAttemptId : Option String
  leaseExpiresAtMs : Option UInt64
  leaseDeadlineAtMs : Option UInt64
deriving DecidableEq, Repr

/-- The columns of a state. -/
def StateValues.of : StationKeyCircuitState → StateValues
  | .closed stateRevision consecutiveFailures reopenLevel =>
    ⟨.closed, stateRevision, consecutiveFailures, reopenLevel, none, none, 0, none, none, none,
      none, none⟩
  | .open stateRevision openedAtMs cooldownUntilMs consecutiveFailures reopenLevel =>
    ⟨.open, stateRevision, consecutiveFailures, reopenLevel, some openedAtMs, some cooldownUntilMs,
      0, none, none, none, none, none⟩
  | .halfOpen stateRevision leaseId leaseRevision leaseExpiresAtMs recoverySuccesses reopenLevel =>
    ⟨.halfOpen, stateRevision, 0, reopenLevel, none, none, recoverySuccesses, leaseId,
      some leaseRevision, leaseId, leaseExpiresAtMs, leaseExpiresAtMs⟩

theorem StateValues.of_stateRevision (state : StationKeyCircuitState) :
    (StateValues.of state).stateRevision = state.stateRevision := by
  cases state <;> rfl

/-- The columns of a state whose times and lease revision fit them. -/
def stateValues (state : StationKeyCircuitState) : Except PersistenceError StateValues := do
  match state with
  | .closed .. => pure ()
  | .open _ openedAtMs cooldownUntilMs _ _ =>
    let _ ← sqliteInteger openedAtMs
    let _ ← sqliteInteger cooldownUntilMs
  | .halfOpen _ _ leaseRevision leaseExpiresAtMs _ _ =>
    let _ ← sqliteInteger leaseRevision
    let _ ← sqliteOptional leaseExpiresAtMs
  return StateValues.of state

structure CircuitRow where
  values : StateValues
  policyRevision : UInt64
  leasePolicyRevision : Option UInt64
  leaseRecoverySuccessThreshold : Option UInt16
  leaseRecoveryWaitMs : Option UInt64
  boundaryCrossed : Option Bool
deriving DecidableEq, Repr

def CircuitRow.of (status : StationKeyCircuitStatus) (boundaryCrossed : Option Bool) :
    CircuitRow where
  values := StateValues.of status.state
  policyRevision := status.policyRevision
  leasePolicyRevision := status.leasePolicy.map (·.policyRevision)
  leaseRecoverySuccessThreshold := status.leasePolicy.map (·.recoverySuccessThreshold)
  leaseRecoveryWaitMs := status.leasePolicy.map (·.recoveryWaitMs)
  boundaryCrossed

def rowToStatus (row : CircuitRow) : Except PersistenceError StationKeyCircuitStatus := do
  let leasePolicy ← match row.leasePolicyRevision, row.leaseRecoverySuccessThreshold,
      row.leaseRecoveryWaitMs with
    | none, none, none => pure none
    | some revision, some threshold, some waitMs =>
      pure (some (StationKeyCircuitLeasePolicy.mk revision threshold waitMs))
    | _, _, _ => throw (.invariantViolation "partial circuit lease policy snapshot")
  let values := row.values
  let state ← match values.state with
    | .closed =>
      pure (.closed values.stateRevision values.consecutiveFailures values.reopenLevel)
    | .open => do
      let some openedAtMs := values.openedAtMs
        | throw (.invariantViolation "open circuit missing opened_at")
      let some cooldownUntilMs := values.cooldownUntilMs
        | throw (.invariantViolation "open circuit missing cooldown")
      pure (.open values.stateRevision openedAtMs cooldownUntilMs values.consecutiveFailures
        values.reopenLevel)
    | .halfOpen =>
      pure (.halfOpen values.stateRevision values.leaseId
        (values.leaseRevision.getD values.stateRevision) values.leaseExpiresAtMs
        values.recoverySuccesses values.reopenLevel)
  return ⟨row.policyRevision, leasePolicy, state⟩

/-- Reading a row gives back the status written to it. -/
theorem rowToStatus_of (status : StationKeyCircuitStatus) (boundaryCrossed : Option Bool) :
    rowToStatus (.of status boundaryCrossed) = .ok status := by
  obtain ⟨policyRevision, leasePolicy, state⟩ := status
  cases leasePolicy <;> cases state <;> rfl

def textFits (text : String) : Bool := 1 ≤ sqliteLength text ∧ sqliteLength text ≤ 160

/-- The CHECK constraints of the state table that its typed columns do not already give. -/
def CircuitRow.check (row : CircuitRow) : Bool :=
  let values := row.values
  let positive := fun value : UInt64 => decide (0 < value)
  positive values.stateRevision && positive row.policyRevision && values.leaseId.all textFits &&
    values.leaseRevision.all positive && row.leasePolicyRevision.all positive &&
    row.leaseRecoverySuccessThreshold.all (0 < ·) && row.leaseRecoveryWaitMs.all positive &&
    values.leaseAttemptId.all textFits &&
    let noLease := values.leaseId.isNone && row.leasePolicyRevision.isNone &&
      row.leaseRecoverySuccessThreshold.isNone && row.leaseRecoveryWaitMs.isNone &&
      values.leaseAttemptId.isNone && values.leaseExpiresAtMs.isNone &&
      values.leaseDeadlineAtMs.isNone && row.boundaryCrossed.isNone
    let fullLease := values.leaseId.isSome && row.leasePolicyRevision.isSome &&
      row.leaseRecoverySuccessThreshold.isSome && row.leaseRecoveryWaitMs.isSome &&
      values.leaseAttemptId.isSome && values.leaseExpiresAtMs.isSome &&
      values.leaseDeadlineAtMs.isSome
    match values.state with
    | .closed =>
      values.openedAtMs.isNone && values.cooldownUntilMs.isNone && noLease &&
        values.leaseRevision.isNone && values.recoverySuccesses == 0
    | .open =>
      noLease && values.leaseRevision.isNone && values.recoverySuccesses == 0 &&
        match values.openedAtMs, values.cooldownUntilMs with
        | some openedAtMs, some cooldownUntilMs => openedAtMs ≤ cooldownUntilMs
        | _, _ => false
    | .halfOpen =>
      values.leaseRevision.isSome && (noLease || fullLease) &&
        match values.leaseExpiresAtMs, values.leaseDeadlineAtMs with
        | some expires, some deadline => expires ≤ deadline
        | _, _ => true

/-! ### Events -/

inductive EffectKind
  | circuit
  | lease
deriving DecidableEq, Repr

inductive CanonicalOutcome
  | success
  | attributableFailure
  | excluded
deriving DecidableEq, Repr

structure CircuitEvent where
  eventId : String
  effectKind : EffectKind
  attemptId : String
  reducerCommitSequence : Nat
  policyRevision : UInt64
  expectedStateRevision : UInt64
  occurredAtMs : UInt64
  canonicalOutcome : CanonicalOutcome
  failureCode : Option String
  recoveryOrigin : String
  retryDisposition : String
  leaseRevision : Option UInt64
  boundaryCrossed : Bool
  applied : Bool
  createdAtMs : UInt64
deriving DecidableEq, Repr

/-- The CHECK constraints of the event table. -/
def CircuitEvent.check (event : CircuitEvent) : Bool :=
  textFits event.eventId && textFits event.attemptId && decide (0 < event.policyRevision) &&
    decide (0 < event.expectedStateRevision) &&
    event.failureCode.all (fun code => 1 ≤ sqliteLength code ∧ sqliteLength code ≤ 96) &&
    (["normal", "crash_recovery", "lease_reaper"].contains event.recoveryOrigin) &&
    (["end", "retryable_before_commit", "stop_request"].contains event.retryDisposition) &&
    event.leaseRevision.all (0 < ·) &&
    (event.canonicalOutcome == .excluded || event.boundaryCrossed) &&
    (event.recoveryOrigin == "normal" || event.retryDisposition == "stop_request")

/-! ### The tables -/

structure CircuitKey where
  stationKeyId : String
  lifecycleRevision : UInt64
deriving DecidableEq, Repr

structure CircuitDb where
  key : CircuitKey
  watermarkMs : UInt64
  row : Option CircuitRow
  events : List CircuitEvent
deriving DecidableEq, Repr

/-- A database in which the key has not been seen yet. -/
def CircuitDb.empty (key : CircuitKey) : CircuitDb := ⟨key, 0, none, []⟩

/-- The policy columns a caller passes to each operation. -/
structure CircuitPolicy where
  policyRevision : UInt64
  consecutiveFailureThreshold : UInt16
  recoverySuccessThreshold : UInt16
  recoveryWaitMs : UInt64
deriving DecidableEq, Repr

/-- Twenty-four hours. -/
def maxCooldownMs : UInt64 := 86400000

def CircuitPolicy.config (policy : CircuitPolicy) : StationKeyCircuitConfig where
  policyRevision := policy.policyRevision
  consecutiveFailureThreshold := max policy.consecutiveFailureThreshold 1
  recoverySuccessThreshold := max policy.recoverySuccessThreshold 1
  recoveryWaitMs := max policy.recoveryWaitMs 1
  maxCooldownMs := max maxCooldownMs policy.recoveryWaitMs

def CircuitDb.advanceCircuitClock (db : CircuitDb) (systemUtcNowMs : UInt64) :
    Except PersistenceError (UInt64 × CircuitDb) := do
  let sampled ← sqliteInteger systemUtcNowMs
  let watermarkMs := max db.watermarkMs sampled
  return (watermarkMs, { db with watermarkMs })

def CircuitDb.loadStatus (db : CircuitDb) :
    Except PersistenceError (Option StationKeyCircuitStatus) := do
  let _ ← sqliteInteger db.key.lifecycleRevision
  match db.row with
  | some row => return some (← rowToStatus row)
  | none => return none

def CircuitDb.ensureState (db : CircuitDb) (policyRevision nowMs : UInt64) :
    Except PersistenceError (StationKeyCircuitStatus × CircuitDb) := do
  let _ ← sqliteInteger db.key.lifecycleRevision
  let _ ← sqliteInteger nowMs
  let policyRevision ← sqliteInteger policyRevision
  let initial := CircuitRow.of ⟨policyRevision, none, .initial⟩ none
  -- The constraints are checked before the conflict with an existing row is seen.
  if !(textFits db.key.stationKeyId && decide (0 < db.key.lifecycleRevision) && initial.check) then
    throw .databaseFailed
  let db := { db with row := some (db.row.getD initial) }
  match ← db.loadStatus with
  | some status => return (status, db)
  | none => throw (.invariantViolation "circuit state disappeared")

/-- The write of a new state, lost unless the row still has the expected revision. -/
def CircuitDb.updateStateCas (db : CircuitDb) (expectedRevision policyRevision : UInt64)
    (leasePolicy : Option StationKeyCircuitLeasePolicy) (state : StationKeyCircuitState)
    (nowMs : UInt64) : Except PersistenceError CircuitDb := do
  let _ ← sqliteInteger db.key.lifecycleRevision
  let _ ← sqliteInteger expectedRevision
  let _ ← sqliteInteger policyRevision
  let _ ← sqliteInteger nowMs
  let values ← stateValues state
  let _ ← sqliteInteger values.stateRevision
  let _ ← sqliteOptional (leasePolicy.map (·.policyRevision))
  let _ ← sqliteOptional (leasePolicy.map (·.recoveryWaitMs))
  match db.row with
  | none => throw .databaseBusy
  | some row =>
    if row.values.stateRevision ≠ expectedRevision then throw .databaseBusy
    let row := CircuitRow.of ⟨policyRevision, leasePolicy, state⟩ none
    if !row.check then throw .databaseFailed
    return { db with row := some row }

/-- A sequence of its own for every event of the key. -/
def CircuitDb.nextSequence (db : CircuitDb) : Nat :=
  (db.events.map (·.reducerCommitSequence)).foldl max 0 + 1

/-- An event of an attempt that already has one of its kind is dropped. -/
def CircuitDb.insert (db : CircuitDb) (event : CircuitEvent) :
    Except PersistenceError CircuitDb := do
  if !event.check then throw .databaseFailed
  if db.events.any fun e => e.effectKind = event.effectKind ∧ e.attemptId = event.attemptId then
    return db
  return { db with events := db.events ++ [event] }

/-! ### Admission -/

inductive CircuitAdmissionResult
  | allowedClosed (stateRevision : UInt64)
  | allowedHalfOpen (stateRevision leaseRevision : UInt64)
  | deniedOpenCooldown
  | deniedHalfOpenLease
deriving DecidableEq, Repr

def admissionResult (reducer : StationKeyCircuit) : CircuitAdmission → CircuitAdmissionResult
  | .deniedOpenCooldown => .deniedOpenCooldown
  | .deniedHalfOpenLease => .deniedHalfOpenLease
  | .allowedClosed => .allowedClosed reducer.state.stateRevision
  | .allowedHalfOpen => .allowedHalfOpen reducer.state.stateRevision
    (reducer.state.leaseRevision.getD reducer.state.stateRevision)

/-- A permission is always written, a denial only when it changed the circuit. -/
def Writes (status : StationKeyCircuitStatus) (reducer : StationKeyCircuit)
    (admission : CircuitAdmission) : Prop :=
  admission = .allowedClosed ∨ admission = .allowedHalfOpen ∨ reducer.status ≠ status

instance (status : StationKeyCircuitStatus) (reducer : StationKeyCircuit)
    (admission : CircuitAdmission) : Decidable (Writes status reducer admission) :=
  inferInstanceAs (Decidable (_ ∨ _ ∨ _))

def CircuitDb.writeAdmission (db : CircuitDb) (status : StationKeyCircuitStatus)
    (reducer : StationKeyCircuit) (admission : CircuitAdmission) (nowMs : UInt64) :
    Except PersistenceError CircuitDb :=
  if Writes status reducer admission then
    db.updateStateCas status.state.stateRevision reducer.policyRevision reducer.leasePolicy
      reducer.state nowMs
  else
    .ok db

def CircuitDb.admitAttempt (db : CircuitDb) (policy : CircuitPolicy)
    (nowMs deadlineAtMs : UInt64) (attemptId : String) :
    Except PersistenceError (CircuitAdmissionResult × CircuitDb) := do
  if policy.policyRevision = 0 ∨ attemptId.isEmpty then throw .constraintViolation
  let (logicalNowMs, db) ← db.advanceCircuitClock nowMs
  let (status, db) ← db.ensureState policy.policyRevision logicalNowMs
  let reducer ← (StationKeyCircuit.fromState policy.config status.policyRevision
    status.leasePolicy status.state).mapError mapCircuitError
  let (admission, reducer) ←
    (reducer.admitAttempt logicalNowMs deadlineAtMs attemptId).mapError mapCircuitError
  let db ← db.writeAdmission status reducer admission logicalNowMs
  return (admissionResult reducer admission, db)

/-! ### Terminal results -/

structure CircuitTerminalInput where
  policy : CircuitPolicy
  attemptId : String
  leaseId : Option String
  leaseRevision : Option UInt64
  nowMs : UInt64
  /-- Producer time, meant for audit only; the reducer's time is the clock's. -/
  occurredAtMs : UInt64
  success : Bool
  boundaryCrossed : Bool
  /-- False for business rejections, which release a lease but never count. -/
  affectsCircuit : Bool
  failureCode : Option String
  recoveryOrigin : String
  retryDisposition : String
deriving DecidableEq, Repr

structure CircuitTerminalResult where
  applied : Bool
  transition : CircuitTransition
  stateRevision : UInt64
  reducerCommitSequence : Nat
deriving DecidableEq, Repr

def CircuitTerminalInput.canonicalOutcome (input : CircuitTerminalInput) : CanonicalOutcome :=
  if input.success then .success
  else if input.boundaryCrossed then .attributableFailure
  else .excluded

/-- The row a terminal result leaves behind. -/
def CircuitDb.terminalEvent (db : CircuitDb) (input : CircuitTerminalInput)
    (expectedStateRevision : UInt64) (transition : CircuitTransition)
    (effectiveLeaseRevision : Option UInt64) (effectivePolicyRevision createdAtMs : UInt64) :
    CircuitEvent where
  eventId := "circuit:" ++ input.attemptId
  effectKind := .circuit
  attemptId := input.attemptId
  reducerCommitSequence := db.nextSequence
  policyRevision := effectivePolicyRevision
  expectedStateRevision
  occurredAtMs := input.occurredAtMs
  canonicalOutcome := input.canonicalOutcome
  failureCode := input.failureCode
  recoveryOrigin := input.recoveryOrigin
  retryDisposition := input.retryDisposition
  leaseRevision := effectiveLeaseRevision
  boundaryCrossed := input.boundaryCrossed
  applied := transition ≠ .ignoredLateResult
  createdAtMs

def CircuitDb.insertEvent (db : CircuitDb) (input : CircuitTerminalInput)
    (expectedStateRevision : UInt64) (transition : CircuitTransition)
    (effectiveLeaseRevision : Option UInt64) (effectivePolicyRevision createdAtMs : UInt64) :
    Except PersistenceError (Nat × CircuitDb) := do
  let _ ← sqliteInteger db.key.lifecycleRevision
  let _ ← sqliteInteger expectedStateRevision
  let _ ← sqliteInteger effectivePolicyRevision
  let _ ← sqliteInteger input.occurredAtMs
  let _ ← sqliteOptional effectiveLeaseRevision
  let _ ← sqliteInteger createdAtMs
  let event := db.terminalEvent input expectedStateRevision transition effectiveLeaseRevision
    effectivePolicyRevision createdAtMs
  let db ← db.insert event
  return (event.reducerCommitSequence, db)

/-- The revision and policy of the active lease, when the input names it. -/
def activeLease (status : StationKeyCircuitStatus) (leaseId : Option String) :
    Option (UInt64 × Option StationKeyCircuitLeasePolicy) :=
  match status.state with
  | .halfOpen _ (some active) leaseRevision _ _ _ =>
    if leaseId = some active then some (leaseRevision, status.leasePolicy) else none
  | _ => none

def effectivePolicyRevision (status : StationKeyCircuitStatus) (input : CircuitTerminalInput) :
    UInt64 :=
  let active := activeLease status input.leaseId
  ((active.bind (·.2)).map (·.policyRevision)).getD input.policy.policyRevision

/-- The revision the caller carried, else the active lease's when the input names it. -/
def effectiveLeaseRevision (status : StationKeyCircuitStatus) (input : CircuitTerminalInput) :
    Option UInt64 :=
  input.leaseRevision.or ((activeLease status input.leaseId).map (·.1))

def leaseRevisionMismatch (status : StationKeyCircuitStatus) (input : CircuitTerminalInput) : Bool :=
  let activeLeaseRevision := (activeLease status input.leaseId).map (·.1)
  input.leaseRevision.isSome && activeLeaseRevision.isSome &&
    input.leaseRevision != activeLeaseRevision

/-- A result the reducer does not apply: an event and nothing else. -/
def CircuitDb.auditLate (db : CircuitDb) (status : StationKeyCircuitStatus)
    (input : CircuitTerminalInput) (logicalNowMs : UInt64) :
    Except PersistenceError (CircuitTerminalResult × CircuitDb) := do
  let (sequence, db) ← db.insertEvent input status.state.stateRevision .ignoredLateResult
    (effectiveLeaseRevision status input) (effectivePolicyRevision status input) logicalNowMs
  return (⟨false, .ignoredLateResult, status.state.stateRevision, sequence⟩, db)

/-- A result the reducer applied: its state and an event. -/
def CircuitDb.applyTerminal (db : CircuitDb) (status : StationKeyCircuitStatus)
    (reducer : StationKeyCircuit) (transition : CircuitTransition) (input : CircuitTerminalInput)
    (logicalNowMs : UInt64) : Except PersistenceError (CircuitTerminalResult × CircuitDb) := do
  let db ← db.updateStateCas status.state.stateRevision reducer.policyRevision reducer.leasePolicy
    reducer.state logicalNowMs
  let (sequence, db) ← db.insertEvent input status.state.stateRevision transition
    (effectiveLeaseRevision status input) (effectivePolicyRevision status input) logicalNowMs
  return (⟨true, transition, reducer.state.stateRevision, sequence⟩, db)

def CircuitDb.finishAttempt (db : CircuitDb) (input : CircuitTerminalInput) :
    Except PersistenceError (CircuitTerminalResult × CircuitDb) := do
  if input.policy.policyRevision = 0 ∨ input.attemptId.isEmpty ∨
      ¬ ["normal", "crash_recovery", "lease_reaper"].contains input.recoveryOrigin then
    throw .constraintViolation
  let (logicalNowMs, db) ← db.advanceCircuitClock input.nowMs
  let (status, db) ← db.ensureState input.policy.policyRevision logicalNowMs
  -- A duplicate terminal is recognized before the reducer sees it.
  match db.events.find? fun e => e.effectKind = .circuit ∧ e.attemptId = input.attemptId with
  | some existing =>
    return (⟨false, .ignoredLateResult, status.state.stateRevision,
      existing.reducerCommitSequence⟩, db)
  | none =>
    if leaseRevisionMismatch status input then
      db.auditLate status input logicalNowMs
    else
      let reducer ← (StationKeyCircuit.fromState input.policy.config status.policyRevision
        status.leasePolicy status.state).mapError mapCircuitError
      let (transition, reducer) ← (reducer.finish logicalNowMs input.leaseId input.success
        (input.boundaryCrossed && input.affectsCircuit)).mapError mapCircuitError
      if transition = .ignoredLateResult then
        db.auditLate status input logicalNowMs
      else
        db.applyTerminal status reducer transition input logicalNowMs

/-! ### Leases -/

def CircuitDb.markBoundaryCrossed (db : CircuitDb) (attemptId : String)
    (leaseRevision nowMs : UInt64) : Except PersistenceError (Bool × CircuitDb) := do
  if db.key.stationKeyId.isEmpty ∨ attemptId.isEmpty ∨ leaseRevision = 0 then
    throw .constraintViolation
  let _ ← sqliteInteger db.key.lifecycleRevision
  let leaseRevision ← sqliteInteger leaseRevision
  let (_, db) ← db.advanceCircuitClock nowMs
  match db.row with
  | none => return (false, db)
  | some row =>
    let values := row.values
    if values.state = .halfOpen ∧ values.leaseAttemptId = some attemptId ∧
        values.leaseId = some attemptId ∧ values.leaseRevision = some leaseRevision ∧
        row.boundaryCrossed = none then
      return (true, { db with row := some { row with boundaryCrossed := some true } })
    else
      return (false, db)

/-- The row a reaped lease leaves behind. -/
def CircuitDb.leaseEvent (db : CircuitDb) (attemptId : String) (leaseRevision : Option UInt64)
    (policyRevision expectedStateRevision nowMs : UInt64) (boundaryCrossed : Bool)
    (transition : CircuitTransition) : CircuitEvent where
  eventId := "lease-reaper:" ++ attemptId
  effectKind := .lease
  attemptId
  reducerCommitSequence := db.nextSequence
  policyRevision
  expectedStateRevision
  occurredAtMs := nowMs
  canonicalOutcome := .excluded
  failureCode := some (if transition = .reopened then "lease_expired" else "lease_released")
  recoveryOrigin := "lease_reaper"
  retryDisposition := "stop_request"
  leaseRevision
  boundaryCrossed
  applied := true
  createdAtMs := nowMs

def CircuitDb.insertLeaseEvent (db : CircuitDb) (attemptId : String)
    (leaseRevision : Option UInt64) (policyRevision expectedStateRevision nowMs : UInt64)
    (boundaryCrossed : Bool) (transition : CircuitTransition) :
    Except PersistenceError CircuitDb := do
  let _ ← sqliteInteger db.key.lifecycleRevision
  let _ ← sqliteInteger policyRevision
  let _ ← sqliteInteger expectedStateRevision
  let _ ← sqliteInteger nowMs
  let _ ← sqliteOptional leaseRevision
  db.insert (db.leaseEvent attemptId leaseRevision policyRevision expectedStateRevision nowMs
    boundaryCrossed transition)

/-- The row as a Half-Open circuit whose lease the reaper found expired. -/
def expiredLease (row : CircuitRow) : Except PersistenceError (String × StationKeyCircuitStatus) := do
  let values := row.values
  let some attemptId := values.leaseId
    | throw (.invariantViolation "expired circuit lease has no id")
  let some leaseRevision := values.leaseRevision
    | throw (.invariantViolation "expired lease has no revision")
  let some leaseExpiresAtMs := values.leaseExpiresAtMs
    | throw (.invariantViolation "expired lease has no deadline")
  let some policyRevision := row.leasePolicyRevision
    | throw (.invariantViolation "active circuit lease has no policy revision")
  let some recoverySuccessThreshold := row.leaseRecoverySuccessThreshold
    | throw (.invariantViolation "active circuit lease has no recovery threshold")
  let some recoveryWaitMs := row.leaseRecoveryWaitMs
    | throw (.invariantViolation "active circuit lease has no recovery wait")
  return (attemptId, ⟨row.policyRevision,
    some ⟨policyRevision, recoverySuccessThreshold, recoveryWaitMs⟩,
    .halfOpen values.stateRevision (some attemptId) leaseRevision (some leaseExpiresAtMs)
      values.recoverySuccesses values.reopenLevel⟩)

/-- The row the reaper's query selects. -/
def CircuitRow.expired (row : CircuitRow) (now : UInt64) : Bool :=
  row.values.state == .halfOpen && row.values.leaseId.isSome &&
    row.values.leaseExpiresAtMs.any (· ≤ now)

/-- An expired lease that crossed the boundary opens the circuit, one that did not is
given back. -/
def reapLease (reducer : StationKeyCircuit) (boundaryCrossed : Bool) (nowMs : UInt64)
    (attemptId : String) : Except CircuitError (Option CircuitTransition × StationKeyCircuit) :=
  if boundaryCrossed then
    (reducer.reapExpiredLease nowMs attemptId).map fun (reaped, reducer) =>
      (if reaped then some .reopened else none, reducer)
  else
    (reducer.finish nowMs (some attemptId) false false).map fun (transition, reducer) =>
      (some transition, reducer)

/-- The reaper's policy always has a revision. -/
def CircuitPolicy.reaperConfig (policy : CircuitPolicy) : StationKeyCircuitConfig :=
  { policy with policyRevision := max policy.policyRevision 1 }.config

def CircuitDb.writeReaped (db : CircuitDb) (status : StationKeyCircuitStatus)
    (reducer : StationKeyCircuit) (attemptId : String) (boundaryCrossed : Bool)
    (transition : CircuitTransition) (nowMs : UInt64) : Except PersistenceError CircuitDb := do
  let db ← db.updateStateCas status.state.stateRevision reducer.policyRevision reducer.leasePolicy
    reducer.state nowMs
  db.insertLeaseEvent attemptId status.state.leaseRevision status.policyRevision
    status.state.stateRevision nowMs boundaryCrossed transition

/-- How many leases were reaped: at most this key's one. -/
def CircuitDb.reapExpiredLeases (db : CircuitDb) (nowMs : UInt64) (policy : CircuitPolicy) :
    Except PersistenceError (Nat × CircuitDb) := do
  let (logicalNowMs, db) ← db.advanceCircuitClock nowMs
  match db.row.filter (·.expired logicalNowMs) with
  | none => return (0, db)
  | some row =>
    let (attemptId, status) ← expiredLease row
    let boundaryCrossed := row.boundaryCrossed == some true
    let reducer ← (StationKeyCircuit.fromState policy.reaperConfig status.policyRevision
      status.leasePolicy status.state).mapError mapCircuitError
    let (transition, reducer) ←
      (reapLease reducer boundaryCrossed logicalNowMs attemptId).mapError mapCircuitError
    match transition with
    | none => return (0, db)
    | some transition =>
      let db ← db.writeReaped status reducer attemptId boundaryCrossed transition logicalNowMs
      return (1, db)

end RelayPool.Circuit
