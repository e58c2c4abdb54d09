import RelayPool.Circuit.History

/-! The row as SQLite holds it.

In `CircuitColumns` every number is a signed word and a state is a text.
`boundColumns` binds a status to them, number by number, and fails on one that no
signed word holds (`boundColumns_ok`). A row has two readers, `columnsToStatus` for
everybody and `columnsExpiredLease` for the reaper; each gives back the status that was
bound (`columnsToStatus_of`, `columnsExpiredLease_of`). -/
namespace RelayPool.Circuit
open Fallible

/-! ### Numbers -/

/-- A number on its way into a column. -/
def toColumn (value : UInt64) : Except PersistenceError Int :=
  if value < 9223372036854775808 then .ok value.toNat else .error .constraintViolation

def positiveU64 (value : Int) : Except PersistenceError UInt64 :=
  if value < 0 then .error (.invariantViolation "negative circuit value")
  else .ok (.ofNat value.toNat)

def toU16 (value : Int) (message : String) : Except PersistenceError UInt16 :=
  if 0 ≤ value ∧ value < 65536 then .ok (.ofNat value.toNat)
  else .error (.invariantViolation message)

def toU32 (value : Int) (message : String) : Except PersistenceError UInt32 :=
  if 0 ≤ value ∧ value < 4294967296 then .ok (.ofNat value.toNat)
  else .error (.invariantViolation message)

theorem toColumn_ok {value : UInt64} {column : Int} :
    toColumn value = .ok column ↔ value < 9223372036854775808 ∧ column = value.toNat := by
  unfold toColumn
  split
  · rename_i fits
    exact ⟨fun h => ⟨fits, (Except.ok.inj h).symm⟩, fun h => congrArg _ h.2.symm⟩
  · rename_i above
    exact ⟨nofun, fun h => absurd h.1 above⟩

theorem mapM_toColumn_ok {value : Option UInt64} {column : Option Int} :
    value.mapM toColumn = .ok column ↔
      (∀ v, value = some v → v < 9223372036854775808) ∧
        column = value.map fun v => (v.toNat : Int) := by
  cases value with
  | none =>
    show (pure none : Except PersistenceError _) = .ok column ↔ _
    rw [pure_ok]
    simp [eq_comm]
  | some v =>
    show toColumn v >>= (fun v => pure (some v)) = .ok column ↔ _
    simp only [bind_ok, toColumn_ok, pure_ok]
    constructor
    · rintro ⟨_, ⟨fits, rfl⟩, rfl⟩
      exact ⟨by rintro _ ⟨⟩; exact fits, rfl⟩
    · rintro ⟨fits, rfl⟩
      exact ⟨_, ⟨fits v rfl, rfl⟩, rfl⟩

@[simp] theorem positiveU64_toNat (value : UInt64) :
    positiveU64 (value.toNat : Int) = .ok value := by
  unfold positiveU64
  rw [if_neg (by omega), Int.toNat_natCast, UInt64.ofNat_toNat]

@[simp] theorem toU16_toNat (value : UInt16) (message : String) :
    toU16 (value.toNat : Int) message = .ok value := by
  have bound := value.toNat_lt
  unfold toU16
  rw [if_pos (by omega), Int.toNat_natCast, UInt16.ofNat_toNat]

@[simp] theorem toU16_zero (message : String) : toU16 0 message = .ok 0 := rfl

@[simp] theorem toU32_toNat (value : UInt32) (message : String) :
    toU32 (value.toNat : Int) message = .ok value := by
  have bound := value.toNat_lt
  unfold toU32
  rw [if_pos (by omega), Int.toNat_natCast, UInt32.ofNat_toNat]

/-! ### Writing -/

/-- The columns of a state, but for the numbers the update binds itself. -/
structure StateColumns where
  state : String
  stateRevision : UInt64
  consecutiveFailures : UInt16
  reopenLevel : UInt32
  openedAtMs : Option Int
  cooldownUntilMs : Option Int
  recoverySuccesses : UInt16
  leaseId : Option String
  leaseRevision : Option Int
  leaseAttemptId : Option String
  leaseExpiresAtMs : Option Int
  leaseDeadlineAtMs : Option Int
deriving DecidableEq, Repr

def stateColumns : StationKeyCircuitState → Except PersistenceError StateColumns
  | .closed stateRevision consecutiveFailures reopenLevel =>
    return ⟨"closed", stateRevision, consecutiveFailures, reopenLevel, none, none, 0, none, none,
      none, none, none⟩
  | .open stateRevision openedAtMs cooldownUntilMs consecutiveFailures reopenLevel => do
    let openedAtMs ← toColumn openedAtMs
    let cooldownUntilMs ← toColumn cooldownUntilMs
    return ⟨"open", stateRevision, consecutiveFailures, reopenLevel, some openedAtMs,
      some cooldownUntilMs, 0, none, none, none, none, none⟩
  | .halfOpen stateRevision leaseId leaseRevision leaseExpiresAtMs recoverySuccesses
      reopenLevel => do
    let leaseRevision ← toColumn leaseRevision
    let expiresAtMs ← leaseExpiresAtMs.mapM toColumn
    let deadlineAtMs ← leaseExpiresAtMs.mapM toColumn
    return ⟨"half_open", stateRevision, 0, reopenLevel, none, none, recoverySuccesses, leaseId,
      some leaseRevision, leaseId, expiresAtMs, deadlineAtMs⟩

structure CircuitColumns where
  state : String
  stateRevision : Int
  policyRevision : Int
  consecutiveFailures : Int
  reopenLevel : Int
  openedAtMs : Option Int
  cooldownUntilMs : Option Int
  recoverySuccesses : Int
  leaseId : Option String
  leaseRevision : Option Int
  leaseAttemptId : Option String
  leaseExpiresAtMs : Option Int
  leaseDeadlineAtMs : Option Int
  leasePolicyRevision : Option Int
  leaseRecoverySuccessThreshold : Option Int
  leaseRecoveryWaitMs : Option Int
  boundaryCrossed : Option Int
deriving DecidableEq, Repr

/-- What the update binds to the columns of the row. -/
def boundColumns (policyRevision : UInt64) (leasePolicy : Option StationKeyCircuitLeasePolicy)
    (state : StationKeyCircuitState) : Except PersistenceError CircuitColumns := do
  let policyRevision ← toColumn policyRevision
  let values ← stateColumns state
  let stateRevision ← toColumn values.stateRevision
  let leasePolicyRevision ← (leasePolicy.map (·.policyRevision)).mapM toColumn
  let leaseRecoveryWaitMs ← (leasePolicy.map (·.recoveryWaitMs)).mapM toColumn
  return {
    state := values.state
    stateRevision
    policyRevision
    consecutiveFailures := values.consecutiveFailures.toNat
    reopenLevel := values.reopenLevel.toNat
    openedAtMs := values.openedAtMs
    cooldownUntilMs := values.cooldownUntilMs
    recoverySuccesses := values.recoverySuccesses.toNat
    leaseId := values.leaseId
    leaseRevision := values.leaseRevision
    leaseAttemptId := values.leaseAttemptId
    leaseExpiresAtMs := values.leaseExpiresAtMs
    leaseDeadlineAtMs := values.leaseDeadlineAtMs
    leasePolicyRevision
    leaseRecoverySuccessThreshold := leasePolicy.map fun policy =>
      (policy.recoverySuccessThreshold.toNat : Int)
    leaseRecoveryWaitMs
    boundaryCrossed := none }

/-! ### Reading -/

def columnsToStatus (row : CircuitColumns) : Except PersistenceError StationKeyCircuitStatus := do
  let policyRevision ← positiveU64 row.policyRevision
  let leasePolicy ← match row.leasePolicyRevision, row.leaseRecoverySuccessThreshold,
      row.leaseRecoveryWaitMs with
    | none, none, none => pure none
    | some revision, some threshold, some waitMs => do
      let revision ← positiveU64 revision
      let threshold ← toU16 threshold "invalid circuit lease recovery threshold"
      let waitMs ← positiveU64 waitMs
      pure (some (StationKeyCircuitLeasePolicy.mk revision threshold waitMs))
    | _, _, _ => throw (.invariantViolation "partial circuit lease policy snapshot")
  let stateRevision ← positiveU64 row.stateRevision
  let consecutiveFailures ← toU16 row.consecutiveFailures "invalid circuit failure count"
  let reopenLevel ← toU32 row.reopenLevel "invalid circuit reopen level"
  let recoverySuccesses ← toU16 row.recoverySuccesses "invalid circuit recovery count"
  let state ←
    if row.state = "closed" then
      pure (.closed stateRevision consecutiveFailures reopenLevel)
    else if row.state = "open" then do
      let some openedAtMs := row.openedAtMs
        | throw (.invariantViolation "open circuit missing opened_at")
      let openedAtMs ← positiveU64 openedAtMs
      let some cooldownUntilMs := row.cooldownUntilMs
        | throw (.invariantViolation "open circuit missing cooldown")
      let cooldownUntilMs ← positiveU64 cooldownUntilMs
      pure (.open stateRevision openedAtMs cooldownUntilMs consecutiveFailures reopenLevel)
    else if row.state = "half_open" then do
      -- The fallback is computed also where the column has a revision.
      let fallback ← (toColumn stateRevision).mapError fun _ =>
        .invariantViolation "half-open circuit revision exceeds SQLite range"
      let leaseRevision ← positiveU64 (row.leaseRevision.getD fallback)
      let leaseExpiresAtMs ← row.leaseExpiresAtMs.mapM positiveU64
      pure (.halfOpen stateRevision row.leaseId leaseRevision leaseExpiresAtMs recoverySuccesses
        reopenLevel)
    else
      throw (.invariantViolation "unknown circuit state")
  return ⟨policyRevision, leasePolicy, state⟩

/-- The reaper's reading of a row that its query has selected. -/
def columnsExpiredLease (row : CircuitColumns) :
    Except PersistenceError (String × StationKeyCircuitStatus) := do
  let some attemptId := row.leaseId
    | throw (.invariantViolation "expired circuit lease has no id")
  let stateRevision ← positiveU64 row.stateRevision
  let some leaseRevision := row.leaseRevision
    | throw (.invariantViolation "expired lease has no revision")
  let leaseRevision ← positiveU64 leaseRevision
  let some leaseExpiresAtMs := row.leaseExpiresAtMs
    | throw (.invariantViolation "expired lease has no deadline")
  let leaseExpiresAtMs ← positiveU64 leaseExpiresAtMs
  let recoverySuccesses ← toU16 row.recoverySuccesses "invalid recovery count"
  let reopenLevel ← toU32 row.reopenLevel "invalid reopen level"
  let statePolicyRevision ← positiveU64 row.policyRevision
  let some leasePolicyRevision := row.leasePolicyRevision
    | throw (.invariantViolation "active circuit lease has no policy revision")
  let leasePolicyRevision ← positiveU64 leasePolicyRevision
  let some threshold := row.leaseRecoverySuccessThreshold
    | throw (.invariantViolation "active circuit lease has no recovery threshold")
  let threshold ← toU16 threshold "invalid active circuit lease recovery threshold"
  let some recoveryWaitMs := row.leaseRecoveryWaitMs
    | throw (.invariantViolation "active circuit lease has no recovery wait")
  let recoveryWaitMs ← positiveU64 recoveryWaitMs
  return (attemptId, ⟨statePolicyRevision, some ⟨leasePolicyRevision, threshold, recoveryWaitMs⟩,
    .halfOpen stateRevision (some attemptId) leaseRevision (some leaseExpiresAtMs)
      recoverySuccesses reopenLevel⟩)

/-! ### The columns of a typed row -/

def CircuitStateName.text : CircuitStateName → String
  | .closed => "closed"
  | .open => "open"
  | .halfOpen => "half_open"

def column (value : UInt64) : Int := value.toNat

def CircuitRow.columns (row : CircuitRow) : CircuitColumns where
  state := row.values.state.text
  stateRevision := column row.values.stateRevision
  policyRevision := column row.policyRevision
  consecutiveFailures := row.values.consecutiveFailures.toNat
  reopenLevel := row.values.reopenLevel.toNat
  openedAtMs := row.values.openedAtMs.map column
  cooldownUntilMs := row.values.cooldownUntilMs.map column
  recoverySuccesses := row.values.recoverySuccesses.toNat
  leaseId := row.values.leaseId
  leaseRevision := row.values.leaseRevision.map column
  leaseAttemptId := row.values.leaseAttemptId
  leaseExpiresAtMs := row.values.leaseExpiresAtMs.map column
  leaseDeadlineAtMs := row.values.leaseDeadlineAtMs.map column
  leasePolicyRevision := row.leasePolicyRevision.map column
  leaseRecoverySuccessThreshold := row.leaseRecoverySuccessThreshold.map fun n => (n.toNat : Int)
  leaseRecoveryWaitMs := row.leaseRecoveryWaitMs.map column
  boundaryCrossed := row.boundaryCrossed.map fun crossed => if crossed then 1 else 0

def StationKeyCircuitState.numbers : StationKeyCircuitState → List UInt64
  | .closed stateRevision _ _ => [stateRevision]
  | .open stateRevision openedAtMs cooldownUntilMs _ _ => [stateRevision, openedAtMs, cooldownUntilMs]
  | .halfOpen stateRevision _ leaseRevision leaseExpiresAtMs _ _ =>
    stateRevision :: leaseRevision :: leaseExpiresAtMs.toList

/-- The numbers of a status that a column may not hold. -/
def StationKeyCircuitStatus.numbers (status : StationKeyCircuitStatus) : List UInt64 :=
  status.policyRevision :: (status.state.numbers ++
    (status.leasePolicy.map fun policy => [policy.policyRevision, policy.recoveryWaitMs]).getD [])

def NumbersFit (status : StationKeyCircuitStatus) : Prop :=
  ∀ n ∈ status.numbers, n < 9223372036854775808

instance (status : StationKeyCircuitStatus) : Decidable (NumbersFit status) :=
  inferInstanceAs (Decidable (∀ n ∈ status.numbers, n < 9223372036854775808))

/-- The numbers of a status, one by one. -/
theorem numbersFit_iff {status : StationKeyCircuitStatus} :
    NumbersFit status ↔ status.policyRevision < 9223372036854775808 ∧
      (∀ n ∈ status.state.numbers, n < 9223372036854775808) ∧
      ∀ policy, status.leasePolicy = some policy →
        policy.policyRevision < 9223372036854775808 ∧
          policy.recoveryWaitMs < 9223372036854775808 := by
  obtain ⟨policyRevision, leasePolicy, state⟩ := status
  cases leasePolicy <;>
    simp [NumbersFit, StationKeyCircuitStatus.numbers, or_imp, forall_and]

/-- The numbers of a state, by what they are. -/
theorem numbers_fit_iff {state : StationKeyCircuitState} :
    (∀ n ∈ state.numbers, n < 9223372036854775808) ↔
      state.stateRevision < 9223372036854775808 ∧
      (∀ r t u f l, state = .open r t u f l →
        t < 9223372036854775808 ∧ u < 9223372036854775808) ∧
      (∀ r, state.leaseRevision = some r → r < 9223372036854775808) ∧
      ∀ expires, state.leaseExpiresAtMs = some expires → expires < 9223372036854775808 := by
  cases state with
  | closed => simp [StationKeyCircuitState.numbers]
  | «open» r t u f l =>
    simp only [StationKeyCircuitState.numbers, List.forall_mem_cons]
    constructor
    · rintro ⟨revision, opened, cooldown, -⟩
      refine ⟨revision, ?_, fun _ h => ?_, fun _ h => ?_⟩
      · rintro _ _ _ _ _ ⟨⟩
        exact ⟨opened, cooldown⟩
      all_goals cases h
    · rintro ⟨revision, times, -⟩
      obtain ⟨opened, cooldown⟩ := times r t u f l rfl
      exact ⟨revision, opened, cooldown, List.forall_mem_nil _⟩
  | halfOpen => simp [StationKeyCircuitState.numbers]

theorem statusFits_iff {status : StationKeyCircuitStatus} :
    StatusFits status ↔
      NumbersFit status ∧ ∀ lease, status.state.leaseId = some lease → textFits lease := by
  rw [numbersFit_iff, numbers_fit_iff]
  constructor
  · intro fits
    refine ⟨⟨fits.policyRevision, ⟨fits.stateRevision, fits.times, fits.leaseRevision, fits.expiry⟩,
      fun policy given => ?_⟩, fits.lease⟩
    exact ⟨fits.leasePolicyRevision _ (by rw [given]; rfl), fits.leaseWait _ (by rw [given]; rfl)⟩
  · rintro ⟨⟨policyRevision, ⟨stateRevision, times, leaseRevision, expiry⟩, policy⟩, lease⟩
    refine ⟨policyRevision, stateRevision, fun r given => ?_, fun w given => ?_, times,
      leaseRevision, expiry, lease⟩
    · obtain ⟨found, h, rfl⟩ := Option.map_eq_some_iff.mp given
      exact (policy found h).1
    · obtain ⟨found, h, rfl⟩ := Option.map_eq_some_iff.mp given
      exact (policy found h).2

theorem stateColumns_ok {state : StationKeyCircuitState} {values : StateColumns} :
    stateColumns state = .ok values ∧ values.stateRevision < 9223372036854775808 ↔
      (∀ n ∈ state.numbers, n < 9223372036854775808) ∧ values =
        let typed := StateValues.of state
        ⟨typed.state.text, typed.stateRevision, typed.consecutiveFailures, typed.reopenLevel,
          typed.openedAtMs.map column, typed.cooldownUntilMs.map column, typed.recoverySuccesses,
          typed.leaseId, typed.leaseRevision.map column, typed.leaseAttemptId,
          typed.leaseExpiresAtMs.map column, typed.leaseDeadlineAtMs.map column⟩ := by
  cases state with
  | closed r f l =>
    simp only [stateColumns, pure_ok, StationKeyCircuitState.numbers, List.forall_mem_cons]
    constructor
    · rintro ⟨rfl, revision⟩
      exact ⟨⟨revision, List.forall_mem_nil _⟩, rfl⟩
    · rintro ⟨⟨revision, -⟩, rfl⟩
      exact ⟨rfl, revision⟩
  | «open» r t u f l =>
    simp only [stateColumns, bind_ok, toColumn_ok, pure_ok, StationKeyCircuitState.numbers,
      List.forall_mem_cons]
    constructor
    · rintro ⟨⟨_, ⟨opened, rfl⟩, _, ⟨cooldown, rfl⟩, rfl⟩, revision⟩
      exact ⟨⟨revision, opened, cooldown, List.forall_mem_nil _⟩, rfl⟩
    · rintro ⟨⟨revision, opened, cooldown, -⟩, rfl⟩
      exact ⟨⟨_, ⟨opened, rfl⟩, _, ⟨cooldown, rfl⟩, rfl⟩, revision⟩
  | halfOpen r lease lr e n l =>
    simp only [stateColumns, bind_ok, toColumn_ok, mapM_toColumn_ok, pure_ok,
      StationKeyCircuitState.numbers, List.forall_mem_cons, Option.mem_toList]
    constructor
    · rintro ⟨⟨_, ⟨leaseRevision, rfl⟩, _, ⟨expiry, rfl⟩, _, ⟨-, rfl⟩, rfl⟩, revision⟩
      exact ⟨⟨revision, leaseRevision, expiry⟩, rfl⟩
    · rintro ⟨⟨revision, leaseRevision, expiry⟩, rfl⟩
      exact ⟨⟨_, ⟨leaseRevision, rfl⟩, _, ⟨expiry, rfl⟩, _, ⟨expiry, rfl⟩, rfl⟩, revision⟩

/-- Every number that fits is bound as it is, and one that does not fails the write. -/
theorem boundColumns_ok {status : StationKeyCircuitStatus} {columns : CircuitColumns} :
    boundColumns status.policyRevision status.leasePolicy status.state = .ok columns ↔
      NumbersFit status ∧ columns = (CircuitRow.of status none).columns := by
  rw [numbersFit_iff]
  obtain ⟨policyRevision, leasePolicy, state⟩ := status
  simp only [boundColumns, bind_ok, toColumn_ok, mapM_toColumn_ok, pure_ok,
    Option.map_eq_some_iff]
  constructor
  · rintro ⟨_, ⟨policyRevision, rfl⟩, values, bound, _, ⟨revision, rfl⟩, _,
      ⟨leasePolicyRevision, rfl⟩, _, ⟨leaseWait, rfl⟩, rfl⟩
    obtain ⟨numbers, rfl⟩ := stateColumns_ok.mp ⟨bound, revision⟩
    refine ⟨⟨policyRevision, numbers, fun policy given => ?_⟩, ?_⟩
    · exact ⟨leasePolicyRevision _ ⟨policy, given, rfl⟩, leaseWait _ ⟨policy, given, rfl⟩⟩
    · cases leasePolicy <;> rfl
  · rintro ⟨⟨policyRevision, numbers, policy⟩, rfl⟩
    obtain ⟨bound, revision⟩ := stateColumns_ok.mpr ⟨numbers, rfl⟩
    refine ⟨_, ⟨policyRevision, rfl⟩, _, bound, _, ⟨revision, rfl⟩, _, ⟨?_, rfl⟩, _, ⟨?_, rfl⟩, ?_⟩
    · rintro _ ⟨found, given, rfl⟩
      exact (policy found given).1
    · rintro _ ⟨found, given, rfl⟩
      exact (policy found given).2
    · cases leasePolicy <;> rfl

/-- The half-open fallback fits its column, as the state's revision does. -/
theorem columnsToStatus_of {status : StationKeyCircuitStatus} (fits : NumbersFit status)
    (crossed : Option Bool) :
    columnsToStatus (CircuitRow.of status crossed).columns = .ok status := by
  obtain ⟨policyRevision, leasePolicy, state⟩ := status
  have numbers := (numbersFit_iff.mp fits).2.1
  cases state with
  | closed =>
    cases leasePolicy <;>
      simp [columnsToStatus, CircuitRow.columns, CircuitRow.of, StateValues.of, column,
        CircuitStateName.text, bind_ok]
  | «open» =>
    cases leasePolicy <;>
      simp [columnsToStatus, CircuitRow.columns, CircuitRow.of, StateValues.of, column,
        CircuitStateName.text, bind_ok]
  | halfOpen r lease lr e n l =>
    have revision : r < 9223372036854775808 := numbers r (List.mem_cons_self ..)
    have fallback : toColumn r = .ok r.toNat := toColumn_ok.mpr ⟨revision, rfl⟩
    cases leasePolicy <;> cases e <;>
      simp [columnsToStatus, CircuitRow.columns, CircuitRow.of, StateValues.of, column,
        CircuitStateName.text, bind_ok, mapError_ok, fallback]

theorem columnsExpiredLease_of {status : StationKeyCircuitStatus} {lease : String}
    (active : status.state.leaseId = some lease) (policy : status.leasePolicy.isSome)
    (expiry : status.state.leaseExpiresAtMs.isSome) (crossed : Option Bool) :
    columnsExpiredLease (CircuitRow.of status crossed).columns = .ok (lease, status) := by
  obtain ⟨policyRevision, leasePolicy, state⟩ := status
  obtain ⟨policy, rfl⟩ := Option.isSome_iff_exists.mp policy
  cases state with
  | closed => cases active
  | «open» => cases active
  | halfOpen r held lr e n l =>
    obtain rfl : held = some lease := active
    obtain ⟨expires, rfl⟩ := Option.isSome_iff_exists.mp expiry
    simp [columnsExpiredLease, CircuitRow.columns, CircuitRow.of, StateValues.of, column, bind_ok]

end RelayPool.Circuit
