import RelayPool.Attempts.Runs

/-! The request log around the ledger.

A finished attempt is written to four places in one transaction: its slot and terminal in
the ledger, its row in `request_attempts`, and its decision events. A record that comes
again is compared with each of them. Circuit, quality and health follow only if the
answer is that the terminal is new. -/
namespace RelayPool.Attempts
open Circuit (PersistenceError)
open Table

/-! ### Decision events -/

structure RoutingDecisionEventWrite where
  requestId : String
  eventKey : String
  occurredAtMs : Int
  eventKind : String
  detailCode : String
  attemptOrdinal : Option UInt16
  retryDisposition : Option String
  outputCommitted : Option Bool
deriving DecidableEq, Repr

/-- A row of `request_decision_events`. -/
structure DecisionEventRow where
  write : RoutingDecisionEventWrite
  sequence : Int
deriving DecidableEq, Repr

def maxDurableDecisionEvents : Nat := 64

def tokenByte (byte : UInt8) : Bool :=
  (97 ≤ byte && byte ≤ 122) || (48 ≤ byte && byte ≤ 57) || byte = 95 || byte = 45 || byte = 58

def validToken (value : String) (max : Nat) : Bool :=
  !value.isEmpty && value.utf8ByteSize ≤ max && value.toUTF8.data.all tokenByte

def validateDecisionEvent (record : RoutingDecisionEventWrite) : Except PersistenceError Unit :=
  if !validToken record.eventKey 96 || !validToken record.eventKind 48 ||
      !validToken record.detailCode 96 || record.attemptOrdinal.any (· ≥ 16) ||
      record.retryDisposition.any (!validToken · 48) then
    .error (.invariantViolation "durable decision event contains unsafe or oversized fields")
  else .ok ()

/-- The first event owns its time. -/
def existingMatches (existing record : RoutingDecisionEventWrite) : Bool :=
  existing.eventKey = record.eventKey && existing.eventKind = record.eventKind &&
    existing.detailCode = record.detailCode && existing.attemptOrdinal = record.attemptOrdinal &&
    existing.retryDisposition = record.retryDisposition &&
    existing.outputCommitted = record.outputCommitted

/-! ### The tables -/

/-- A row of `request_attempts`. -/
structure RequestAttemptRow where
  requestId : String
  ordinal : UInt16
  stationId : String
  stationKeyId : String
  endpointRevision : Int
  startedAtMs : Int
  terminalKind : String
  failureKind : Option String
  failureBlame : Option String
  retryDisposition : Option String
  healthEffect : String
  healthCooldownUntilMs : Option Int
  publicCode : Option String
  sanitizedDetail : Option String
  outputCommitted : Bool
  terminalAtMs : Int
  resolvedUpstreamModel : Option String
deriving DecidableEq, Repr

/-- Every column is compared when the record comes again. -/
def RequestAttemptRow.of (record : AttemptTerminalWrite) : RequestAttemptRow where
  requestId := record.requestId
  ordinal := record.ordinal
  stationId := record.stationId
  stationKeyId := record.stationKeyId
  endpointRevision := record.endpointRevision
  startedAtMs := record.startedAtMs
  terminalKind := record.terminalKind
  failureKind := record.failureKind
  failureBlame := record.failureBlame
  retryDisposition := record.retryDisposition
  healthEffect := record.healthEffect
  healthCooldownUntilMs := record.healthCooldownUntilMs
  publicCode := record.publicCode
  sanitizedDetail := record.sanitizedDetail
  outputCommitted := record.outputCommitted
  terminalAtMs := record.terminalAtMs
  resolvedUpstreamModel := record.resolvedUpstreamModel

def RequestAttemptRow.key (row : RequestAttemptRow) : String × UInt16 := (row.requestId, row.ordinal)

def DecisionEventRow.key (row : DecisionEventRow) : String × String :=
  (row.write.requestId, row.write.eventKey)

/-- The rows of `request_logs` matter here as the targets of foreign keys. -/
structure RequestLog where
  requests : List String
  attempts : List RequestAttemptRow
  events : List DecisionEventRow
  ledger : Ledger
deriving DecidableEq

structure AttemptPersistenceResult where
  inserted : Bool
  boundaryCrossed : Bool
deriving DecidableEq, Repr

def safeDecisionCode (value : Option String) : String :=
  let value := value.getD "attempt_terminal"
  if validToken value 96 then value else "attempt_terminal"

def normalizeRetryDisposition (value : String) : String :=
  if eqIgnoreAsciiCase value "trynextcandidate" || eqIgnoreAsciiCase value "retry_same_target"
    then "try_next_candidate"
  else if eqIgnoreAsciiCase value "stoprequest" || eqIgnoreAsciiCase value "stop_request"
    then "stop_request"
  else "retry_continue"

namespace AttemptTerminalWrite

/-- The events of an attempt, in the order they are appended. -/
def decisionEvents (record : AttemptTerminalWrite) : List RoutingDecisionEventWrite :=
  let keyPrefix := toString record.ordinal
  [{ requestId := record.requestId
     eventKey := "attempt_started:" ++ keyPrefix
     occurredAtMs := record.startedAtMs
     eventKind := "attempt_started"
     detailCode := "attempt_started"
     attemptOrdinal := some record.ordinal
     retryDisposition := none
     outputCommitted := none },
   -- a stream can have committed output and still end in a failure
   { requestId := record.requestId
     eventKey := "attempt_terminal:" ++ keyPrefix
     occurredAtMs := record.terminalAtMs
     eventKind := if record.terminalKind = "succeeded" ∧ record.outputCommitted
       then "attempt_succeeded" else "failure_classified"
     detailCode := safeDecisionCode record.publicCode
     attemptOrdinal := some record.ordinal
     retryDisposition := record.retryDisposition.map normalizeRetryDisposition
     outputCommitted := some record.outputCommitted }] ++
  if record.retryDisposition.any (!eqIgnoreAsciiCase · "stoprequest") then
    [{ requestId := record.requestId
       eventKey := "retry_scheduled:" ++ keyPrefix
       occurredAtMs := record.terminalAtMs
       eventKind := "retry_scheduled"
       detailCode := "retry_scheduled"
       attemptOrdinal := some record.ordinal
       retryDisposition := record.retryDisposition.map normalizeRetryDisposition
       outputCommitted := some record.outputCommitted }]
  else []

/-- Each delivery stamps the record anew, with its own reading of the clock. -/
def receivedAt (record : AttemptTerminalWrite) (nowMs : Int64) : AttemptTerminalWrite :=
  { record with ingestedAtMs := max nowMs.toInt 0 }

end AttemptTerminalWrite

namespace RequestLog

def initial : RequestLog := ⟨[], [], [], .initial⟩

def attempt (log : RequestLog) (requestId : String) (ordinal : UInt16) :
    Option RequestAttemptRow :=
  lookup RequestAttemptRow.key log.attempts (requestId, ordinal)

def event (log : RequestLog) (requestId eventKey : String) : Option DecisionEventRow :=
  lookup DecisionEventRow.key log.events (requestId, eventKey)

/-- `COALESCE(MAX(sequence), -1) + 1` of the request. -/
def nextEventSequence (log : RequestLog) (requestId : String) : Int :=
  ((log.events.filter (·.write.requestId = requestId)).map (·.sequence)).foldr max (-1) + 1

def insertDecisionEvent (log : RequestLog) (record : RoutingDecisionEventWrite) :
    Except PersistenceError RequestLog := do
  validateDecisionEvent record
  match log.event record.requestId record.eventKey with
  | some existing =>
    if ¬ existingMatches existing.write record then
      throw (.invariantViolation
        "duplicate durable decision event does not match canonical record")
    return log
  | none =>
    if log.events.countP (·.write.requestId = record.requestId) ≥ maxDurableDecisionEvents then
      throw (.invariantViolation "durable decision event limit exceeded")
    let sequence := log.nextEventSequence record.requestId
    if ¬ (0 ≤ sequence ∧ sequence < 64) then
      throw .databaseFailed
    if record.requestId ∉ log.requests then
      throw .constraintViolation
    return { log with events := log.events ++ [⟨record, sequence⟩] }

def appendAttemptDecisionEvents (log : RequestLog) (record : AttemptTerminalWrite) :
    Except PersistenceError RequestLog :=
  record.decisionEvents.foldlM insertDecisionEvent log

def finishAttempt (log : RequestLog) (record : AttemptTerminalWrite) (v3Active : Bool) :
    Except PersistenceError (AttemptPersistenceResult × RequestLog) := do
  let ledger ← log.ledger.ensurePreCutoverRoutingAttemptSlot record v3Active
  match log.attempt record.requestId record.ordinal with
  | some existing =>
    if existing ≠ .of record then
      throw (.invariantViolation "duplicate attempt terminal does not match canonical record")
    let log ← appendAttemptDecisionEvents { log with ledger } record
    let (terminal, ledger) ← log.ledger.terminalize record.routingTerminal
    return (⟨false, terminal.boundaryCrossed⟩, { log with ledger })
  | none =>
    if record.requestId ∉ log.requests then
      throw .constraintViolation
    let (terminal, ledger) ← ledger.terminalize record.routingTerminal
    let log ← appendAttemptDecisionEvents
      { log with ledger, attempts := log.attempts ++ [.of record] } record
    return (⟨terminal.updated, terminal.boundaryCrossed⟩, log)

end RequestLog

end RelayPool.Attempts
