import RelayPool.Circuit.Columns
import RelayPool.Table
import Mathlib.Data.Prod.Lex
import Mathlib.Data.String.Basic

/-! The durable ledger of routing attempts.

An attempt is admitted as a pending row, may cross the outbound boundary once, and
gets one terminal, from its own execution (`terminalize`) or from the repair after a
restart (`recoverStartupInterrupted`). When its request ends, `finalizeRequestClusters`
writes one cluster for each key that was tried, and hands out one sample for each. What
arrives after that is written to an audit only. Every operation runs in a write
transaction: it answers and returns the tables changed, or it fails and they stay. -/
namespace RelayPool.Attempts
open Circuit (PersistenceError sqliteLength toColumn)
open Table

inductive RoutingGenerationEligibility
  | active
  | next
  | legacy
deriving DecidableEq, Repr

/-- The values of `terminal_state`, but for `pending`. -/
inductive TerminalState
  | success
  | attributableFailure
  | excluded
  | localAbandoned
  | upstreamUncertain
deriving DecidableEq, Repr

inductive Outcome
  | success
  | attributableFailure
  | excluded
deriving DecidableEq, Repr

inductive FailureAttribution
  | key
  | local
  | client
  | unknown
deriving DecidableEq, Repr

inductive ResponseOrigin
  | upstream
  | relay
  | unknown
deriving DecidableEq, Repr

inductive EventTimeStatus
  | valid
  | missing
  | invalid
deriving DecidableEq, Repr

inductive RecoveryOrigin
  | normal
  | crashRecovery
  | leaseReaper
deriving DecidableEq, Repr

/-! ### Rows -/

/-- The columns that are written together, once the attempt is not pending any more. -/
structure TerminalColumns where
  terminalState : TerminalState
  outcome : Outcome
  failureCode : Option String
  failureAttribution : FailureAttribution
  responseOrigin : ResponseOrigin
  eventTimeStatus : EventTimeStatus
  latencyMs : Int
  eventAtMs : Option Int
  observedAtMs : Int
  ingestedAtMs : Int
  comparabilityKey : Option String
  recoveryOrigin : RecoveryOrigin
  retryDisposition : String
  terminalAtMs : Int
  releasedAtMs : Int
deriving DecidableEq, Repr

/-- A row of `routing_attempt_v3`. All of them are written by `admitAttempt`, so `source` is
`real_request` and `candidate_admitted` is 1. The boundary is crossed when its time is
set, and the attempt is pending as long as it has no terminal. -/
structure AttemptRow where
  attemptId : String
  eventId : String
  correlationId : String
  stationKeyId : String
  stationKeyLifecycleRevision : Int
  attemptIndex : Int
  candidateAdmittedAtMs : Int
  capacityLeaseId : String
  halfOpenLeaseId : Option String
  leaseRevision : Option Int
  deadlineAtMs : Int
  generationEligibility : RoutingGenerationEligibility
  boundaryCrossedAtMs : Option Int
  ingestionSequence : Int
  terminal : Option TerminalColumns
  createdAtMs : Int
  updatedAtMs : Int
deriving DecidableEq, Repr

/-- A row of `routing_attempt_cluster_v3`. A cluster is finalized when it is written; the
one without a key says that the request had no attempts. -/
structure ClusterRow where
  stationKey : Option (String × Int)
  correlationId : String
  expectedAttemptCount : Int
  clusterFinalizedAtMs : Int
  clusterFinalizationReason : String
  generationEligibility : RoutingGenerationEligibility
deriving DecidableEq, Repr

inductive LateEventKind
  | admission
  | terminal
deriving DecidableEq, Repr

/-- A row of `routing_attempt_late_audit_v3`. -/
structure LateAudit where
  eventKind : LateEventKind
  eventId : String
  attemptId : String
  correlationId : String
  stationKeyId : String
  stationKeyLifecycleRevision : Int
  attemptIndex : Int
  payloadCommitment : String
  observedAtMs : Int
deriving DecidableEq, Repr

structure Ledger where
  attempts : List AttemptRow
  clusters : List ClusterRow
  audits : List LateAudit
  nextSequence : Int
deriving DecidableEq, Repr

namespace AttemptRow

def boundaryCrossed (row : AttemptRow) : Bool := row.boundaryCrossedAtMs.isSome

def pending (row : AttemptRow) : Bool := row.terminal.isNone

/-- The columns of `UNIQUE (source, station_key_id, …, attempt_index)`. -/
def slot (row : AttemptRow) : String × Int × String × Int :=
  (row.stationKeyId, row.stationKeyLifecycleRevision, row.correlationId, row.attemptIndex)

/-- The key and the lifecycle that a request tried with this attempt. -/
def stationKey (row : AttemptRow) : String × Int :=
  (row.stationKeyId, row.stationKeyLifecycleRevision)

end AttemptRow

/-! ### Constraints

The checks that the types of the columns leave open. -/

def Within (low high : Nat) (text : String) : Prop :=
  low ≤ sqliteLength text ∧ sqliteLength text ≤ high

instance (low high : Nat) (text : String) : Decidable (Within low high text) :=
  inferInstanceAs (Decidable (_ ∧ _))

/-- The bounds of the terminal's own columns. -/
def TerminalColumns.InRange (columns : TerminalColumns) : Prop :=
  (∀ code ∈ columns.failureCode, Within 1 96 code) ∧
  (∀ key ∈ columns.comparabilityKey, Within 1 192 key) ∧
  columns.retryDisposition ∈ ["end", "retryable_before_commit", "stop_request"] ∧
  0 ≤ columns.latencyMs ∧ (∀ at_ ∈ columns.eventAtMs, 0 ≤ at_) ∧ 0 ≤ columns.observedAtMs ∧
  0 ≤ columns.ingestedAtMs ∧ 0 ≤ columns.terminalAtMs ∧ 0 ≤ columns.releasedAtMs

/-- How the columns of a terminal go together, and with the boundary. -/
def TerminalColumns.Coherent (columns : TerminalColumns) (boundaryCrossed : Bool) : Prop :=
  (columns.terminalState = .localAbandoned →
    columns.outcome = .excluded ∧ columns.failureAttribution = .local ∧
      columns.responseOrigin = .relay ∧ boundaryCrossed = false) ∧
  (columns.terminalState = .upstreamUncertain →
    columns.outcome = .attributableFailure ∧ columns.failureAttribution = .key ∧
      columns.responseOrigin = .unknown ∧ boundaryCrossed = true) ∧
  (columns.terminalState = .success →
    columns.outcome = .success ∧ columns.failureAttribution = .key ∧
      columns.responseOrigin = .upstream ∧ boundaryCrossed = true) ∧
  (columns.terminalState = .excluded → columns.outcome = .excluded)

/-- The bounds of the columns that an admission fills. -/
def AttemptRow.AdmissionInRange (row : AttemptRow) : Prop :=
  Within 1 160 row.attemptId ∧ Within 1 160 row.eventId ∧ Within 1 192 row.correlationId ∧
  Within 1 160 row.stationKeyId ∧ 0 < row.stationKeyLifecycleRevision ∧
  (0 ≤ row.attemptIndex ∧ row.attemptIndex ≤ 1023) ∧ (∀ r ∈ row.leaseRevision, 0 < r) ∧
  0 ≤ row.deadlineAtMs ∧ 0 ≤ row.createdAtMs

instance (columns : TerminalColumns) : Decidable columns.InRange :=
  inferInstanceAs (Decidable (_ ∧ _))

instance (columns : TerminalColumns) (boundaryCrossed : Bool) :
    Decidable (columns.Coherent boundaryCrossed) := inferInstanceAs (Decidable (_ ∧ _))

instance (row : AttemptRow) : Decidable row.AdmissionInRange :=
  inferInstanceAs (Decidable (_ ∧ _))

/-- The CHECK constraints of the table. -/
structure AttemptRow.Checks (row : AttemptRow) : Prop where
  admission : row.AdmissionInRange
  boundary : ∀ at_ ∈ row.boundaryCrossedAtMs, 0 ≤ at_
  terminal : ∀ columns ∈ row.terminal,
    columns.InRange ∧ columns.Coherent row.boundaryCrossed
  updated : row.createdAtMs ≤ row.updatedAtMs

instance (row : AttemptRow) : Decidable row.Checks :=
  decidable_of_iff
    (row.AdmissionInRange ∧ (∀ at_ ∈ row.boundaryCrossedAtMs, 0 ≤ at_) ∧
      (∀ columns ∈ row.terminal, columns.InRange ∧ columns.Coherent row.boundaryCrossed) ∧
      row.createdAtMs ≤ row.updatedAtMs)
    ⟨fun ⟨a, b, c, d⟩ => ⟨a, b, c, d⟩, fun ⟨a, b, c, d⟩ => ⟨a, b, c, d⟩⟩

def ClusterRow.Checks (row : ClusterRow) : Prop :=
  (∀ key ∈ row.stationKey, Within 1 160 key.1 ∧ 0 < key.2) ∧ Within 1 192 row.correlationId ∧
  (0 ≤ row.expectedAttemptCount ∧ row.expectedAttemptCount ≤ 1023) ∧
  0 ≤ row.clusterFinalizedAtMs ∧ Within 1 96 row.clusterFinalizationReason ∧
  (row.expectedAttemptCount = 0 →
    row.stationKey = none ∧ row.clusterFinalizationReason = "no_attempts") ∧
  (row.expectedAttemptCount ≠ 0 → row.stationKey ≠ none)

instance (row : ClusterRow) : Decidable row.Checks := inferInstanceAs (Decidable (_ ∧ _))

def LateAudit.Checks (row : LateAudit) : Prop :=
  Within 1 160 row.eventId ∧ Within 1 160 row.attemptId ∧ Within 1 192 row.correlationId ∧
  Within 1 160 row.stationKeyId ∧ 0 < row.stationKeyLifecycleRevision ∧
  (0 ≤ row.attemptIndex ∧ row.attemptIndex ≤ 1023) ∧ Within 1 512 row.payloadCommitment ∧
  0 ≤ row.observedAtMs

instance (row : LateAudit) : Decidable row.Checks := inferInstanceAs (Decidable (_ ∧ _))

/-! ### Admission -/

structure RoutingAttemptAdmission where
  attemptId : String
  correlationId : String
  stationKeyId : String
  stationKeyLifecycleRevision : UInt64
  attemptIndex : UInt16
  capacityLeaseId : String
  halfOpenLeaseId : Option String
  leaseRevision : Option UInt64
  deadlineAtMs : UInt64
  admittedAtMs : UInt64
  generationEligibility : RoutingGenerationEligibility
deriving DecidableEq, Repr

inductive RoutingAttemptAdmissionResult
  | inserted
  | alreadyAdmitted
  | lateAfterFinalization
deriving DecidableEq, Repr

def validateAdmission (admission : RoutingAttemptAdmission) : Except PersistenceError Unit :=
  if admission.attemptId.isEmpty ∨ admission.attemptId.utf8ByteSize > 144 ∨
      admission.correlationId.isEmpty ∨ admission.correlationId.utf8ByteSize > 192 ∨
      admission.stationKeyId.isEmpty ∨ admission.stationKeyId.utf8ByteSize > 160 ∨
      admission.stationKeyLifecycleRevision = 0 ∨ admission.capacityLeaseId.isEmpty ∨
      admission.deadlineAtMs < admission.admittedAtMs then
    .error .constraintViolation
  else if admission.halfOpenLeaseId.isSome ≠ admission.leaseRevision.isSome then
    .error (.invariantViolation
      "half-open lease identity and revision must be present together")
  else .ok ()

def eventIdOf (attemptId : String) : String := "routing-attempt:" ++ attemptId

/-- The row of an admission, with its numbers bound. -/
def admittedRow (admission : RoutingAttemptAdmission) (ingestionSequence : Int) :
    Except PersistenceError AttemptRow := do
  let stationKeyLifecycleRevision ← toColumn admission.stationKeyLifecycleRevision
  let admittedAtMs ← toColumn admission.admittedAtMs
  let leaseRevision ← admission.leaseRevision.mapM toColumn
  let deadlineAtMs ← toColumn admission.deadlineAtMs
  return {
    attemptId := admission.attemptId
    eventId := eventIdOf admission.attemptId
    correlationId := admission.correlationId
    stationKeyId := admission.stationKeyId
    stationKeyLifecycleRevision
    attemptIndex := admission.attemptIndex.toNat
    candidateAdmittedAtMs := admittedAtMs
    capacityLeaseId := admission.capacityLeaseId
    halfOpenLeaseId := admission.halfOpenLeaseId
    leaseRevision
    deadlineAtMs
    generationEligibility := admission.generationEligibility
    boundaryCrossedAtMs := none
    ingestionSequence
    terminal := none
    createdAtMs := admittedAtMs
    updatedAtMs := admittedAtMs }

/-- The columns that a repeated admission is compared on. -/
def AttemptRow.sameAdmission (existing row : AttemptRow) : Bool :=
  existing.eventId = row.eventId && existing.correlationId = row.correlationId &&
    existing.stationKeyId = row.stationKeyId &&
    existing.stationKeyLifecycleRevision = row.stationKeyLifecycleRevision &&
    existing.attemptIndex = row.attemptIndex &&
    existing.candidateAdmittedAtMs = row.candidateAdmittedAtMs &&
    existing.capacityLeaseId = row.capacityLeaseId &&
    existing.halfOpenLeaseId = row.halfOpenLeaseId && existing.leaseRevision = row.leaseRevision &&
    existing.deadlineAtMs = row.deadlineAtMs &&
    existing.generationEligibility = row.generationEligibility

namespace Ledger

/-- The migrated tables. -/
def initial : Ledger := ⟨[], [], [], 1⟩

def attempt (ledger : Ledger) (attemptId : String) : Option AttemptRow :=
  lookup AttemptRow.attemptId ledger.attempts attemptId

/-- The attempts of a request. -/
def attemptsOf (ledger : Ledger) (correlationId : String) : List AttemptRow :=
  ledger.attempts.filter (·.correlationId = correlationId)

def clustersOf (ledger : Ledger) (correlationId : String) : List ClusterRow :=
  ledger.clusters.filter (·.correlationId = correlationId)

def finalized (ledger : Ledger) (correlationId : String) : Bool :=
  ledger.clusters.any (·.correlationId = correlationId)

/-- `INSERT OR IGNORE` into the audit. -/
def audit (ledger : Ledger) (row : LateAudit) : Ledger :=
  if row.Checks ∧ ledger.audits.all fun other =>
      (other.eventKind, other.eventId, other.payloadCommitment) ≠
        (row.eventKind, row.eventId, row.payloadCommitment) then
    { ledger with audits := ledger.audits ++ [row] }
  else ledger

def auditLateAdmissionIfFinalized (ledger : Ledger) (admission : RoutingAttemptAdmission) :
    Except PersistenceError (Bool × Ledger) := do
  if ledger.finalized admission.correlationId then
    let stationKeyLifecycleRevision ← toColumn admission.stationKeyLifecycleRevision
    let admittedAtMs ← toColumn admission.admittedAtMs
    return (true, ledger.audit {
      eventKind := .admission
      eventId := eventIdOf admission.attemptId
      attemptId := admission.attemptId
      correlationId := admission.correlationId
      stationKeyId := admission.stationKeyId
      stationKeyLifecycleRevision
      attemptIndex := admission.attemptIndex.toNat
      payloadCommitment := ":".intercalate [eventIdOf admission.attemptId,
        admission.correlationId, admission.stationKeyId,
        toString admission.stationKeyLifecycleRevision, toString admission.attemptIndex]
      observedAtMs := admittedAtMs })
  else
    return (false, ledger)

/-- The insertion is `ON CONFLICT(attempt_id) DO NOTHING`: a row with the same attempt
is compared with the admission, and a conflict on the slot is an error. The trigger that
rejects late admissions sees none, since the audit comes first. -/
def admitAttempt (ledger : Ledger) (admission : RoutingAttemptAdmission) :
    Except PersistenceError (RoutingAttemptAdmissionResult × Ledger) := do
  validateAdmission admission
  let (late, ledger) ← ledger.auditLateAdmissionIfFinalized admission
  if late then
    return (.lateAfterFinalization, ledger)
  let row ← admittedRow admission ledger.nextSequence
  if ¬ row.Checks then
    throw .databaseFailed
  match ledger.attempt admission.attemptId with
  | some existing =>
    if ¬ existing.sameAdmission row then
      throw (.invariantViolation
        "duplicate routing attempt admission does not match durable identity")
    return (.alreadyAdmitted, ledger)
  | none =>
    if ledger.attempts.any (·.slot = row.slot) then
      throw .constraintViolation
    return (.inserted, { ledger with
      attempts := ledger.attempts ++ [row], nextSequence := ledger.nextSequence + 1 })

/-! ### The boundary and the terminal -/

end Ledger

def AttemptRow.markedCrossed (row : AttemptRow) (crossedAtMs ingestionSequence : Int) :
    AttemptRow :=
  { row with
    boundaryCrossedAtMs := some crossedAtMs
    ingestionSequence
    updatedAtMs := max row.updatedAtMs crossedAtMs }

namespace Ledger

/-- The update of one attempt, which takes a number of the ingestion sequence. -/
def write (ledger : Ledger) (row : AttemptRow) : Except PersistenceError Ledger :=
  if row.Checks then
    .ok { ledger with
      attempts := put AttemptRow.attemptId row ledger.attempts
      nextSequence := ledger.nextSequence + 1 }
  else .error .databaseFailed

/-- The conditions of the update hold, since the transaction has just read the row. -/
def markBoundaryCrossed (ledger : Ledger) (attemptId stationKeyId : String)
    (lifecycleRevision crossedAtMs : UInt64) : Except PersistenceError (Bool × Ledger) := do
  let crossedAtMs ← toColumn crossedAtMs
  let lifecycleRevision ← toColumn lifecycleRevision
  match ledger.attempt attemptId with
  | none => return (false, ledger)
  | some current =>
    if current.stationKey ≠ (stationKeyId, lifecycleRevision) then
      return (false, ledger)
    if current.boundaryCrossed then
      return (true, ledger)
    if ¬ current.pending then
      return (false, ledger)
    let ledger ← ledger.write (current.markedCrossed crossedAtMs ledger.nextSequence)
    return (true, ledger)

end Ledger

structure RoutingAttemptTerminal where
  attemptId : String
  comparabilityKey : Option String
  failureCode : Option String
  failureBlame : Option String
  terminalKind : String
  retryDisposition : String
  eventAtMs : UInt64
  observedAtMs : UInt64
  ingestedAtMs : UInt64
  latencyMs : UInt64
deriving DecidableEq, Repr

structure RoutingAttemptTerminalResult where
  updated : Bool
  boundaryCrossed : Bool
  lateAfterFinalization : Bool
deriving DecidableEq, Repr

/-- Under a name, so that a column is looked up in a list in one way. -/
instance lawfulColumn : LawfulBEq (Option String) := inferInstance

structure CanonicalTerminal where
  terminalState : TerminalState
  outcome : Outcome
  failureAttribution : FailureAttribution
  responseOrigin : ResponseOrigin
deriving DecidableEq, Repr

def canonicalTerminal (terminal : RoutingAttemptTerminal) (boundaryCrossed : Bool) :
    Except PersistenceError CanonicalTerminal :=
  if terminal.terminalKind = "succeeded" then
    if boundaryCrossed then .ok ⟨.success, .success, .key, .upstream⟩
    else .error (.invariantViolation
      "successful routing attempt did not cross the outbound boundary")
  else if terminal.terminalKind = "abandoned" ∨ boundaryCrossed = false then
    .ok ⟨.localAbandoned, .excluded, .local, .relay⟩
  else if terminal.failureBlame ∈ [some "Downstream", some "downstream"] then
    .ok ⟨.excluded, .excluded, .client, .relay⟩
  else if terminal.failureBlame ∈ [some "Upstream", some "upstream"] then
    .ok ⟨.attributableFailure, .attributableFailure, .key, .upstream⟩
  else .ok ⟨.upstreamUncertain, .attributableFailure, .key, .unknown⟩

/-- The columns of a terminal, with its numbers bound. -/
def terminalColumns (terminal : RoutingAttemptTerminal) (canonical : CanonicalTerminal) :
    Except PersistenceError TerminalColumns := do
  let terminalAtMs ← toColumn terminal.eventAtMs
  let observedAtMs ← toColumn terminal.observedAtMs
  let ingestedAtMs ← toColumn terminal.ingestedAtMs
  let latencyMs ← toColumn terminal.latencyMs
  return {
    terminalState := canonical.terminalState
    outcome := canonical.outcome
    failureCode := terminal.failureCode
    failureAttribution := canonical.failureAttribution
    responseOrigin := canonical.responseOrigin
    eventTimeStatus := .valid
    latencyMs
    eventAtMs := some terminalAtMs
    observedAtMs
    ingestedAtMs
    comparabilityKey := terminal.comparabilityKey
    recoveryOrigin := .normal
    retryDisposition := terminal.retryDisposition
    terminalAtMs
    releasedAtMs := ingestedAtMs }

def AttemptRow.terminalized (row : AttemptRow) (columns : TerminalColumns)
    (ingestionSequence : Int) : AttemptRow :=
  { row with
    terminal := some columns
    ingestionSequence
    updatedAtMs := max row.updatedAtMs columns.releasedAtMs }

def duplicateMismatch : PersistenceError :=
  .invariantViolation "duplicate routing attempt terminal does not match durable outcome"

/-- A number of a repeated terminal is bound when it is compared. -/
def sameColumn (current : Int) (value : UInt64) : Except PersistenceError Unit := do
  let value ← toColumn value
  if current ≠ value then
    throw duplicateMismatch

def validateDuplicateTerminal (current : TerminalColumns) (terminal : RoutingAttemptTerminal)
    (canonical : CanonicalTerminal) : Except PersistenceError Unit := do
  if current.terminalState ≠ canonical.terminalState ∨ current.outcome ≠ canonical.outcome ∨
      current.failureCode ≠ terminal.failureCode ∨
      current.failureAttribution ≠ canonical.failureAttribution then
    throw duplicateMismatch
  match current.eventAtMs with
  | none => throw duplicateMismatch
  | some eventAtMs => sameColumn eventAtMs terminal.eventAtMs
  sameColumn current.observedAtMs terminal.observedAtMs
  sameColumn current.ingestedAtMs terminal.ingestedAtMs
  sameColumn current.latencyMs terminal.latencyMs
  if current.comparabilityKey ≠ terminal.comparabilityKey ∨
      current.retryDisposition ≠ terminal.retryDisposition then
    throw duplicateMismatch

namespace Ledger

def auditLateTerminalIfFinalized (ledger : Ledger) (current : AttemptRow)
    (terminal : RoutingAttemptTerminal) : Except PersistenceError (Bool × Ledger) := do
  if ledger.finalized current.correlationId then
    let observedAtMs ← toColumn terminal.observedAtMs
    return (true, ledger.audit {
      eventKind := .terminal
      eventId := current.eventId
      attemptId := terminal.attemptId
      correlationId := current.correlationId
      stationKeyId := current.stationKeyId
      stationKeyLifecycleRevision := current.stationKeyLifecycleRevision
      attemptIndex := current.attemptIndex
      payloadCommitment := ":".intercalate [terminal.attemptId, terminal.terminalKind,
        terminal.failureCode.getD "", terminal.failureBlame.getD "", terminal.retryDisposition,
        toString terminal.eventAtMs]
      observedAtMs })
  else
    return (false, ledger)

def terminalize (ledger : Ledger) (terminal : RoutingAttemptTerminal) :
    Except PersistenceError (RoutingAttemptTerminalResult × Ledger) := do
  let some current := ledger.attempt terminal.attemptId
    | throw (.invariantViolation "routing attempt terminal has no durable admission slot")
  let canonical ← canonicalTerminal terminal current.boundaryCrossed
  let (late, ledger) ← ledger.auditLateTerminalIfFinalized current terminal
  if late then
    return (⟨false, current.boundaryCrossed, true⟩, ledger)
  match current.terminal with
  | some stored =>
    validateDuplicateTerminal stored terminal canonical
    return (⟨false, current.boundaryCrossed, false⟩, ledger)
  | none =>
    let columns ← terminalColumns terminal canonical
    let ledger ← ledger.write (current.terminalized columns ledger.nextSequence)
    return (⟨true, current.boundaryCrossed, false⟩, ledger)

/-! ### Repair and finalization -/

/-- The terminal of an attempt that a previous process left pending. -/
def interruptedColumns (row : AttemptRow) (recoveredAtMs : Int) : TerminalColumns where
  terminalState := if row.boundaryCrossed then .upstreamUncertain else .localAbandoned
  outcome := if row.boundaryCrossed then .attributableFailure else .excluded
  failureCode := some "startup_interrupted"
  failureAttribution := if row.boundaryCrossed then .key else .local
  responseOrigin := if row.boundaryCrossed then .unknown else .relay
  eventTimeStatus := .missing
  latencyMs := min (max (recoveredAtMs - row.candidateAdmittedAtMs) 0) 3600000
  eventAtMs := none
  observedAtMs := recoveredAtMs
  ingestedAtMs := recoveredAtMs
  comparabilityKey := none
  recoveryOrigin := .crashRecovery
  retryDisposition := "stop_request"
  terminalAtMs := recoveredAtMs
  releasedAtMs := recoveredAtMs

def recoverAttempt (recoveredAtMs : Int) (ledger : Ledger) (row : AttemptRow) :
    Except PersistenceError Ledger :=
  ledger.write (row.terminalized (interruptedColumns row recoveredAtMs) ledger.nextSequence)

/-- The order in which the repair visits the attempts of a request. -/
def visitKey (row : AttemptRow) : Int ×ₗ String := toLex (row.attemptIndex, row.attemptId)

def recoverStartupInterrupted (ledger : Ledger) (correlationId : String) (recoveredAtMs : Int) :
    Except PersistenceError (Nat × Ledger) := do
  if correlationId.isEmpty ∨ recoveredAtMs < 0 then
    throw .constraintViolation
  let rows := ((ledger.attemptsOf correlationId).filter (·.pending)).insertionSort
    (visitKey · ≤ visitKey ·)
  let ledger ← rows.foldlM (recoverAttempt recoveredAtMs) ledger
  return (rows.length, ledger)

/-- What new evidence is labelled with while the generation fence answers `eligibility`. -/
def resolveGenerationEligibility (eligibility : String) : RoutingGenerationEligibility :=
  if eligibility = "active" then .active else .next

end Ledger

structure FinalizedRoutingAttemptSample where
  attemptId : String
  correlationId : String
  stationKeyId : String
  stationKeyLifecycleRevision : UInt64
  attemptIndex : UInt16
  expectedAttemptCount : UInt16
  candidateAdmittedAtMs : Int
  boundaryCrossed : Bool
  responseOrigin : ResponseOrigin
  eventTimeStatus : EventTimeStatus
  outcome : Outcome
  failureCode : Option String
  failureAttribution : FailureAttribution
  recoveryOrigin : RecoveryOrigin
  retryDisposition : String
  latencyMs : Option UInt32
  comparabilityKey : Option String
  eventAtMs : Option Int
  observedAtMs : Int
  generationEligibility : RoutingGenerationEligibility
  finalizedAtMs : Int
  finalizationReason : String
deriving DecidableEq, Repr

/-- The sample of a key, from its last attempt. -/
def sampleOf (expectedAttemptCount : UInt16) (finalizedAtMs : Int) (row : AttemptRow) :
    Except PersistenceError FinalizedRoutingAttemptSample := do
  let some columns := row.terminal
    | throw (.invariantViolation "request terminal reached a pending durable routing attempt")
  if ¬ (0 ≤ row.stationKeyLifecycleRevision ∧ row.stationKeyLifecycleRevision < 2 ^ 64) then
    throw (.invariantViolation "routing attempt lifecycle revision is invalid")
  if ¬ (0 ≤ row.attemptIndex ∧ row.attemptIndex < 2 ^ 16) then
    throw (.invariantViolation "routing attempt index is invalid")
  if ¬ (0 ≤ columns.latencyMs ∧ columns.latencyMs < 2 ^ 32) then
    throw (.invariantViolation "routing attempt latency is invalid")
  return {
    attemptId := row.attemptId
    correlationId := row.correlationId
    stationKeyId := row.stationKeyId
    stationKeyLifecycleRevision := .ofNat row.stationKeyLifecycleRevision.toNat
    attemptIndex := .ofNat row.attemptIndex.toNat
    expectedAttemptCount
    candidateAdmittedAtMs := row.candidateAdmittedAtMs
    boundaryCrossed := row.boundaryCrossed
    responseOrigin := columns.responseOrigin
    eventTimeStatus := columns.eventTimeStatus
    outcome := columns.outcome
    failureCode := columns.failureCode
    failureAttribution := columns.failureAttribution
    recoveryOrigin := columns.recoveryOrigin
    retryDisposition := columns.retryDisposition
    latencyMs := some (.ofNat columns.latencyMs.toNat)
    comparabilityKey := columns.comparabilityKey
    eventAtMs := columns.eventAtMs
    observedAtMs := columns.observedAtMs
    generationEligibility := row.generationEligibility
    finalizedAtMs
    finalizationReason := "request_terminal" }

/-- The attempts of a key, the one with the highest index last. -/
abbrev KeyGroup := (String × Int) × List AttemptRow

def orderKey (row : AttemptRow) : String ×ₗ Int ×ₗ Int ×ₗ String :=
  toLex (row.stationKeyId, toLex (row.stationKeyLifecycleRevision,
    toLex (row.attemptIndex, row.eventId)))

/-- The rows come in order, so the keys do. -/
def groupByKey (rows : List AttemptRow) : List KeyGroup :=
  (rows.map AttemptRow.stationKey).dedup.map fun key => (key, rows.filter (·.stationKey = key))

/-- The distinct indices are 0, 1, … -/
def contiguous (rows : List AttemptRow) : Bool :=
  let indices := (rows.map AttemptRow.attemptIndex).dedup.insertionSort (· ≤ ·)
  indices = (List.range indices.length).map Int.ofNat

namespace Ledger

def eligibleAttempts (ledger : Ledger) (correlationId : String) : List AttemptRow :=
  ((ledger.attemptsOf correlationId).filter
    (·.generationEligibility ∈ [.active, .next])).insertionSort (orderKey · ≤ orderKey ·)

def clusterOf (ledger : Ledger) (correlationId : String) (stationKey : Option (String × Int)) :
    Option ClusterRow :=
  ledger.clusters.find? fun row => row.correlationId = correlationId ∧ row.stationKey = stationKey

/-- `ON CONFLICT DO NOTHING`: whether the row was inserted. -/
def insertCluster (ledger : Ledger) (row : ClusterRow) :
    Except PersistenceError (Bool × Ledger) :=
  if ¬ row.Checks then .error .databaseFailed
  else if (ledger.clusterOf row.correlationId row.stationKey).isSome then .ok (false, ledger)
  else .ok (true, { ledger with clusters := ledger.clusters ++ [row] })

def validateExistingCluster (ledger : Ledger) (row : ClusterRow) :
    Except PersistenceError Unit :=
  match ledger.clusterOf row.correlationId row.stationKey with
  | none => .error (.invariantViolation
      "duplicate routing cluster finalization has no durable row")
  | some existing =>
    if existing.expectedAttemptCount ≠ row.expectedAttemptCount ∨
        existing.clusterFinalizationReason ≠ row.clusterFinalizationReason ∨
        existing.generationEligibility ≠ row.generationEligibility then
      .error (.invariantViolation
        "duplicate routing cluster finalization does not match durable row")
    else .ok ()

/-- One key of the loop: its cluster, and its sample if the cluster is new. -/
def finalizeKey (correlationId : String) (expectedAttemptCount : UInt16) (finalizedAtMs : Int)
    (state : List FinalizedRoutingAttemptSample × Ledger) (group : KeyGroup) :
    Except PersistenceError (List FinalizedRoutingAttemptSample × Ledger) := do
  let some canonical := group.2.getLast?
    | throw (.invariantViolation "routing attempt cluster is empty")
  let cluster : ClusterRow := {
    stationKey := some group.1
    correlationId
    expectedAttemptCount := expectedAttemptCount.toNat
    clusterFinalizedAtMs := max finalizedAtMs 0
    clusterFinalizationReason := "request_terminal"
    generationEligibility := canonical.generationEligibility }
  let (inserted, ledger) ← state.2.insertCluster cluster
  if ¬ inserted then
    ledger.validateExistingCluster cluster
    return (state.1, ledger)
  let sample ← sampleOf expectedAttemptCount (max finalizedAtMs 0) canonical
  return (state.1 ++ [sample], ledger)

/-- `fence` is the eligibility that the generation fence answers. -/
def finalizeRequestClusters (ledger : Ledger) (correlationId : String) (finalizedAtMs : Int)
    (fence : String) : Except PersistenceError (List FinalizedRoutingAttemptSample × Ledger) := do
  let rows := ledger.eligibleAttempts correlationId
  if rows.isEmpty then
    let (_, ledger) ← ledger.insertCluster {
      stationKey := none
      correlationId
      expectedAttemptCount := 0
      clusterFinalizedAtMs := max finalizedAtMs 0
      clusterFinalizationReason := "no_attempts"
      generationEligibility := resolveGenerationEligibility fence }
    return ([], ledger)
  if rows.any (·.pending) then
    throw (.invariantViolation "request terminal reached a pending durable routing attempt")
  if ¬ contiguous rows then
    throw (.invariantViolation "request terminal has a non-contiguous durable attempt ledger")
  if rows.length > 1023 then
    throw (.invariantViolation "routing request cluster exceeds supported attempt count")
  (groupByKey rows).foldlM
    (finalizeKey correlationId (.ofNat rows.length) finalizedAtMs) ([], ledger)

end Ledger

end RelayPool.Attempts
