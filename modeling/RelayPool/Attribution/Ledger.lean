import RelayPool.Circuit.Late

/-! The attempt ledger beside the circuit.

Every outbound attempt of a key has a row in the ledger, pending until it is
given a terminal. A finished attempt is judged twice in one transaction: the
ledger classifies it from its terminal kind, its blame and its row's boundary
flag (`canonicalTerminal`), and the circuit is told from the public code whether
it counts (`failureCountsTowardKeyCircuit`). What a crash leaves pending is
classified at the next start, request by request, and the last attempt of each
request is then delivered to the circuit.

The tables are those of one key, as in the circuit's store; an operation that
fails changes nothing. -/
namespace RelayPool.Attribution
open RelayPool.Circuit

/-! ### Attempts -/

inductive FailureBlame
  | upstream
  | downstream
  | localAdapter
deriving DecidableEq, Repr

inductive RetryDisposition
  | retrySameTarget
  | tryNextCandidate
  | stopRequest
deriving DecidableEq, Repr

structure ClassifiedAttemptFailure where
  blame : FailureBlame
  retry : RetryDisposition
  publicCode : String
deriving DecidableEq, Repr

inductive AttemptTerminal
  | succeeded
  | failed (failure : ClassifiedAttemptFailure)
  | abandoned (reason : String)
deriving DecidableEq, Repr

structure AttemptTerminalRecord where
  attemptId : String
  terminal : AttemptTerminal
  terminalAtMs : UInt64
deriving DecidableEq, Repr

inductive TerminalKind
  | succeeded
  | failed
  | abandoned
deriving DecidableEq, Repr

structure AttemptTerminalWrite where
  attemptId : String
  terminalKind : TerminalKind
  failureBlame : Option FailureBlame
  retryDisposition : Option RetryDisposition
  publicCode : Option String
  terminalAtMs : UInt64
deriving DecidableEq, Repr

def mapAttemptTerminal (record : AttemptTerminalRecord) : AttemptTerminalWrite :=
  match record.terminal with
  | .succeeded => ⟨record.attemptId, .succeeded, none, none, none, record.terminalAtMs⟩
  | .failed failure => ⟨record.attemptId, .failed, some failure.blame, some failure.retry,
      some failure.publicCode, record.terminalAtMs⟩
  | .abandoned reason => ⟨record.attemptId, .abandoned, none, some .stopRequest, some reason,
      record.terminalAtMs⟩

/-! ### The two judgements -/

inductive TerminalState
  | success
  | localAbandoned
  | excluded
  | attributableFailure
  | upstreamUncertain
deriving DecidableEq, Repr

inductive FailureAttribution
  | key
  | local
  | client
deriving DecidableEq, Repr

inductive ResponseOrigin
  | upstream
  | relay
  | unknown
deriving DecidableEq, Repr

structure CanonicalTerminal where
  terminalState : TerminalState
  outcome : CanonicalOutcome
  failureAttribution : FailureAttribution
  responseOrigin : ResponseOrigin
deriving DecidableEq, Repr

def canonicalTerminal (terminal : AttemptTerminalWrite) (boundaryCrossed : Bool) :
    Except PersistenceError CanonicalTerminal :=
  if terminal.terminalKind = .succeeded then
    if !boundaryCrossed then
      .error (.invariantViolation
        "successful routing attempt did not cross the outbound boundary")
    else .ok ⟨.success, .success, .key, .upstream⟩
  else if terminal.terminalKind = .abandoned ∨ boundaryCrossed = false then
    .ok ⟨.localAbandoned, .excluded, .local, .relay⟩
  else if terminal.failureBlame = some .downstream then
    .ok ⟨.excluded, .excluded, .client, .relay⟩
  else if terminal.failureBlame = some .upstream then
    .ok ⟨.attributableFailure, .attributableFailure, .key, .upstream⟩
  else .ok ⟨.upstreamUncertain, .attributableFailure, .key, .unknown⟩

/-- What an attempt that a crash left pending is recorded as. -/
def startupTerminal (boundaryCrossed : Bool) : CanonicalTerminal :=
  if boundaryCrossed then ⟨.upstreamUncertain, .attributableFailure, .key, .unknown⟩
  else ⟨.localAbandoned, .excluded, .local, .relay⟩

/-- The CHECK constraints of the attempt table on a row that gets a terminal. -/
def CanonicalTerminal.check (terminal : CanonicalTerminal) (boundaryCrossed : Bool)
    (failureCode : Option String) : Bool :=
  failureCode.all (fun code => 1 ≤ sqliteLength code ∧ sqliteLength code ≤ 96) &&
    match terminal.terminalState with
    | .success => terminal.outcome == .success && terminal.failureAttribution == .key &&
      terminal.responseOrigin == .upstream && boundaryCrossed
    | .localAbandoned => terminal.outcome == .excluded && terminal.failureAttribution == .local &&
      terminal.responseOrigin == .relay && !boundaryCrossed
    | .upstreamUncertain => terminal.outcome == .attributableFailure &&
      terminal.failureAttribution == .key && terminal.responseOrigin == .unknown && boundaryCrossed
    | .excluded => terminal.outcome == .excluded
    | .attributableFailure => true

/-- The startup's terminals always pass them. -/
example (boundaryCrossed : Bool) :
    (startupTerminal boundaryCrossed).check boundaryCrossed (some "startup_interrupted") = true := by
  cases boundaryCrossed <;> decide +kernel

def failureCountsTowardKeyCircuit (publicCode : Option String) : Bool :=
  ¬ (publicCode = some "upstream_insufficient_balance" ∨
    publicCode = some "upstream_model_unavailable")

def circuitRetryDisposition (value : Option RetryDisposition) (success : Bool) : String :=
  if success then "end"
  else if value = some .retrySameTarget ∨ value = some .tryNextCandidate then
    "retryable_before_commit"
  else "stop_request"

/-! ### The ledger -/

inductive RoutingGenerationEligibility
  | active
  | next
  | legacy
deriving DecidableEq, Repr

structure AttemptRow where
  attemptId : String
  correlationId : String
  attemptIndex : UInt16
  generationEligibility : RoutingGenerationEligibility
  boundaryCrossed : Bool
  terminal : Option CanonicalTerminal
  failureCode : Option String
deriving DecidableEq, Repr

namespace AttemptRow

/-- The row, if it is the attempt's and pending, with its terminal. -/
def terminalized (attemptId : String) (terminal : CanonicalTerminal)
    (failureCode : Option String) (row : AttemptRow) : AttemptRow :=
  if row.attemptId = attemptId ∧ row.terminal.isNone then
    { row with terminal := some terminal, failureCode }
  else row

/-- The row, if it is the request's and pending, as the next start records it. -/
def recovered (correlationId : String) (row : AttemptRow) : AttemptRow :=
  if row.correlationId = correlationId ∧ row.terminal.isNone then
    { row with
      terminal := some (startupTerminal row.boundaryCrossed)
      failureCode := some "startup_interrupted" }
  else row

/-- The row, if it is the attempt's and pending, with its request sent. -/
def crossed (attemptId : String) (row : AttemptRow) : AttemptRow :=
  if row.attemptId = attemptId ∧ row.terminal.isNone then { row with boundaryCrossed := true }
  else row

/-- The order of the attempts of a request. -/
def before (a b : AttemptRow) : Bool :=
  a.attemptIndex < b.attemptIndex ∨ (a.attemptIndex = b.attemptIndex ∧ a.attemptId ≤ b.attemptId)

end AttemptRow

/-- The circuit of a key with the ledger of its attempts and the requests whose attempts
are final. -/
structure Attempts where
  circuit : CircuitDb
  rows : List AttemptRow
  finalized : List String
deriving DecidableEq, Repr

namespace Attempts

def find (s : Attempts) (attemptId : String) : Option AttemptRow :=
  s.rows.find? (·.attemptId = attemptId)

structure TerminalResult where
  updated : Bool
  boundaryCrossed : Bool
deriving DecidableEq, Repr

def terminalize (s : Attempts) (terminal : AttemptTerminalWrite) :
    Except PersistenceError (TerminalResult × Attempts) := do
  match s.find terminal.attemptId with
  | none => throw (.invariantViolation "routing attempt terminal has no durable admission slot")
  | some current =>
    let boundaryCrossed := current.boundaryCrossed
    let canonical ← canonicalTerminal terminal boundaryCrossed
    -- After the request is final, and for a duplicate, nothing is written.
    if s.finalized.contains current.correlationId ∨ current.terminal.isSome then
      return (⟨false, boundaryCrossed⟩, s)
    -- A refused row rolls the whole transaction back, so the circuit is not told either.
    else if !canonical.check boundaryCrossed terminal.publicCode then
      throw .databaseFailed
    else
      return (⟨true, boundaryCrossed⟩,
        { s with rows :=
          s.rows.map (.terminalized terminal.attemptId canonical terminal.publicCode) })

/-! ### The live path -/

def terminalInput (write : AttemptTerminalWrite) (boundaryCrossed : Bool)
    (policy : CircuitPolicy) : CircuitTerminalInput :=
  let success := decide (write.terminalKind = .succeeded)
  { policy
    attemptId := write.attemptId
    leaseId := some write.attemptId
    leaseRevision := none
    nowMs := write.terminalAtMs
    occurredAtMs := write.terminalAtMs
    success
    boundaryCrossed
    affectsCircuit := success || failureCountsTowardKeyCircuit write.publicCode
    failureCode := write.publicCode
    recoveryOrigin := "normal"
    retryDisposition := circuitRetryDisposition write.retryDisposition success }

def persistAttemptTerminalOnce (s : Attempts) (record : AttemptTerminalRecord)
    (policy : CircuitPolicy) : Except PersistenceError Attempts := do
  let write := mapAttemptTerminal record
  let (outcome, s) ← s.terminalize write
  if outcome.updated then
    let (_, circuit) ← s.circuit.finishAttempt
      (terminalInput write outcome.boundaryCrossed policy)
    return { s with circuit }
  else return s

/-! ### The startup path -/

def recoverStartupInterrupted (s : Attempts) (correlationId : String) : Attempts :=
  { s with rows := s.rows.map (.recovered correlationId) }

/-- The attempts of a request that count for a generation, in their order. -/
def clusterRows (s : Attempts) (correlationId : String) : List AttemptRow :=
  (s.rows.filter fun row =>
    row.correlationId = correlationId ∧ row.generationEligibility ≠ .legacy).mergeSort AttemptRow.before

/-- The last attempt of a request that is made final now stands for all of them. -/
def finalizeRequestClusters (s : Attempts) (correlationId : String) :
    Except PersistenceError (Option AttemptRow × Attempts) :=
  let rows := s.clusterRows correlationId
  if rows.any (·.terminal.isNone) then
    .error (.invariantViolation "request terminal reached a pending durable routing attempt")
  else if s.finalized.contains correlationId then .ok (none, s)
  else .ok (rows.getLast?, { s with finalized := correlationId :: s.finalized })

def sampleInput (sample : AttemptRow) (finalizedAtMs : UInt64) (policy : CircuitPolicy) :
    CircuitTerminalInput :=
  let success := decide (sample.terminal.map (·.outcome) = some .success)
  { policy
    attemptId := sample.attemptId
    leaseId := some sample.attemptId
    leaseRevision := none
    nowMs := finalizedAtMs
    occurredAtMs := finalizedAtMs
    success
    boundaryCrossed := sample.boundaryCrossed
    affectsCircuit := success || failureCountsTowardKeyCircuit sample.failureCode
    failureCode := sample.failureCode
    recoveryOrigin := "crash_recovery"
    retryDisposition := "stop_request" }

/-- One request of the startup reconciliation. -/
def reconcileStartupInterrupted (s : Attempts) (correlationId : String) (nowMs : UInt64)
    (policy : CircuitPolicy) : Except PersistenceError Attempts := do
  let (sample, s) ← (s.recoverStartupInterrupted correlationId).finalizeRequestClusters
    correlationId
  match sample with
  | none => return s
  | some sample =>
    let (_, circuit) ← s.circuit.finishAttempt (sampleInput sample nowMs policy)
    return { s with circuit }

/-! ### The other operations -/

/-- A slot for a new attempt of a request that is still open. -/
def admitRow (s : Attempts) (attemptId correlationId : String) (attemptIndex : UInt16)
    (generationEligibility : RoutingGenerationEligibility) : Attempts :=
  if s.finalized.contains correlationId ∨ (s.find attemptId).isSome then s
  else { s with rows := s.rows ++
    [⟨attemptId, correlationId, attemptIndex, generationEligibility, false, none, none⟩] }

def markBoundaryCrossed (s : Attempts) (attemptId : String) : Attempts :=
  { s with rows := s.rows.map (.crossed attemptId) }

end Attempts

/-- An operation of the circuit's store that delivers no result. -/
structure CircuitOnly where
  op : StoreOp
  noResult : ∀ input, op ≠ .finishAttempt input

inductive AttemptOp
  | circuit (call : CircuitOnly)
  | admitRow (attemptId correlationId : String) (attemptIndex : UInt16)
      (generationEligibility : RoutingGenerationEligibility)
  | markBoundaryCrossed (attemptId : String)
  | finish (record : AttemptTerminalRecord) (policy : CircuitPolicy)
  | finalize (correlationId : String)
  | reconcile (correlationId : String) (nowMs : UInt64) (policy : CircuitPolicy)

namespace Attempts

def apply (s : Attempts) : AttemptOp → Except PersistenceError Attempts
  | .circuit call => (s.circuit.apply call.op).map fun circuit => { s with circuit }
  | .admitRow attemptId correlationId attemptIndex eligibility =>
    .ok (s.admitRow attemptId correlationId attemptIndex eligibility)
  | .markBoundaryCrossed attemptId => .ok (s.markBoundaryCrossed attemptId)
  | .finish record policy => s.persistAttemptTerminalOnce record policy
  | .finalize correlationId => (s.finalizeRequestClusters correlationId).map (·.2)
  | .reconcile correlationId now policy => s.reconcileStartupInterrupted correlationId now policy

def next (s : Attempts) (op : AttemptOp) : Attempts :=
  match s.apply op with
  | .ok s' => s'
  | .error _ => s

def empty (key : CircuitKey) : Attempts := ⟨.empty key, [], []⟩

end Attempts

def attempts (key : CircuitKey) (ops : List AttemptOp) : Attempts :=
  Runs.run Attempts.next (.empty key) ops

end RelayPool.Attribution
