import RelayPool.Attempts.Ledger

/-! The terminal of an attempt, as the request log receives it.

Before the generation cutover an attempt may end without an admission. Its terminal then
brings the slot with it, as legacy evidence (`ensurePreCutoverRoutingAttemptSlot`), in the
same transaction. -/
namespace RelayPool.Attempts
open Circuit (PersistenceError)

/-- The health update and the durable effect are left out: the request log ignores them. -/
structure AttemptTerminalWrite where
  requestId : String
  ordinal : UInt16
  stationId : String
  stationKeyId : String
  endpointRevision : Int
  credentialRevision : Int
  resolvedUpstreamModel : Option String
  comparabilityKey : Option String
  startedAtMs : Int
  terminalKind : String
  failureKind : Option String
  failureBlame : Option String
  retryDisposition : Option String
  healthEffect : String
  healthCooldownUntilMs : Option Int
  publicCode : Option String
  sanitizedDetail : Option String
  outputCommitted : Bool
  eventAtMs : Int
  observedAtMs : Int
  ingestedAtMs : Int
  terminalAtMs : Int
deriving DecidableEq, Repr

/-- `u64::try_from` of a value that is not negative. -/
def nonnegativeU64 (value : Int) : UInt64 := .ofNat (max value 0).toNat

def eqIgnoreAsciiCase (a b : String) : Bool := a.toList.map Char.toLower = b.toList.map Char.toLower

def routingRetryDisposition : Option String → String
  | some value =>
    if eqIgnoreAsciiCase value "trynextcandidate" || eqIgnoreAsciiCase value "retry_same_target"
      then "retryable_before_commit"
    else if eqIgnoreAsciiCase value "stoprequest" then "stop_request"
    else "end"
  | none => "end"

namespace AttemptTerminalWrite

def attemptId (record : AttemptTerminalWrite) : String :=
  record.requestId ++ ":" ++ toString record.ordinal

/-- Only what reached the provider says something about the key. -/
def attemptBoundaryCrossed (record : AttemptTerminalWrite) : Bool :=
  if record.terminalKind = "succeeded" then true
  else if record.terminalKind = "abandoned" then false
  else record.failureBlame ∉
    [some "LocalAdapter", some "Downstream", some "local", some "downstream"]

/-- Subtraction on the signed words stops at their ends. -/
def latencyMs (record : AttemptTerminalWrite) : Int :=
  max (-2 ^ 63) (min (2 ^ 63 - 1) (record.eventAtMs - record.startedAtMs))

def routingTerminal (record : AttemptTerminalWrite) : RoutingAttemptTerminal where
  attemptId := record.attemptId
  comparabilityKey := record.comparabilityKey
  failureCode := record.publicCode
  failureBlame := record.failureBlame
  terminalKind := record.terminalKind
  retryDisposition := routingRetryDisposition record.retryDisposition
  eventAtMs := nonnegativeU64 record.eventAtMs
  observedAtMs := nonnegativeU64 record.observedAtMs
  ingestedAtMs := nonnegativeU64 record.ingestedAtMs
  latencyMs := nonnegativeU64 record.latencyMs

def lifecycleRevision (record : AttemptTerminalWrite) : UInt64 :=
  .ofNat (max record.credentialRevision 1).toNat

/-- The admission that a terminal without a slot brings along. -/
def preCutoverAdmission (record : AttemptTerminalWrite) : RoutingAttemptAdmission where
  attemptId := record.attemptId
  correlationId := record.requestId
  stationKeyId := record.stationKeyId
  stationKeyLifecycleRevision := record.lifecycleRevision
  attemptIndex := record.ordinal
  capacityLeaseId := "pre-cutover-compatibility"
  halfOpenLeaseId := none
  leaseRevision := none
  deadlineAtMs := nonnegativeU64 record.eventAtMs
  admittedAtMs := nonnegativeU64 record.startedAtMs
  generationEligibility := .legacy

end AttemptTerminalWrite

namespace Ledger

/-- `v3Active` says whether the cutover marker is `v3_active`. -/
def ensurePreCutoverRoutingAttemptSlot (ledger : Ledger) (record : AttemptTerminalWrite)
    (v3Active : Bool) : Except PersistenceError Ledger := do
  if (ledger.attempt record.attemptId).isSome then
    return ledger
  if v3Active then
    throw (.invariantViolation "v3 routing attempt terminal has no durable admission slot")
  let (_, ledger) ← ledger.admitAttempt record.preCutoverAdmission
  if record.attemptBoundaryCrossed then
    let (_, ledger) ← ledger.markBoundaryCrossed record.attemptId record.stationKeyId
      record.lifecycleRevision (nonnegativeU64 record.eventAtMs)
    return ledger
  return ledger

/-- The part of `RequestLogStore::finish_attempt` that concerns the ledger. -/
def finishAttempt (ledger : Ledger) (record : AttemptTerminalWrite) (v3Active : Bool) :
    Except PersistenceError (RoutingAttemptTerminalResult × Ledger) := do
  let ledger ← ledger.ensurePreCutoverRoutingAttemptSlot record v3Active
  ledger.terminalize record.routingTerminal

end Ledger

end RelayPool.Attempts
