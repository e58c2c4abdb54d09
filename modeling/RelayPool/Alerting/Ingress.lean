import RelayPool.Alerting.Store
import RelayPool.Fallible
import RelayPool.Protocol.Event

/-! Observations on their way into the alerting tables.

An observation is recorded in one transaction: its occurrence, the incident it moves,
the deliveries of the move, and the deletion of an incident it resolves where the settings
ask for that (`record`). An observation that was recorded before does nothing, and one
that fails leaves the tables as they were. -/
namespace RelayPool.Alerting
open Circuit (PersistenceError)
open Protocol (Value JsonParser)

structure ObservationIngress where
  sourceObservationKey : String
  eventType : AlertEventType
  conditionKey : ConditionKey
  kind : ObservationKind
  severity : Severity
  objectType : String
  objectId : Option String
  stationId : Option String
  stationKeyId : Option String
  source : String
  reasonCode : Option String
  summaryJson : String
  observedAtMs : Int
  factFreshUntilMs : Int

/-! ### Validation -/

def containsText (text needle : List Char) : Bool := text.tails.any needle.isPrefixOf

def lowercase (text : String) : List Char := text.toList.map Char.toLower

def sensitiveNames : List String :=
  ["token", "secret", "authorization", "password", "cookie", "api_key"]

def redactedName (name : String) : Bool :=
  !sensitiveNames.any fun needle => containsText (lowercase name) needle.toList

def redactedText (text : String) : Bool :=
  !containsText text.toList "://".toList && !containsText (lowercase text) "bearer ".toList

mutual

def redacted : Value → Bool
  | .object entries => redactedEntries entries
  | .array items => redactedItems items
  | .string text => redactedText text
  | _ => true

def redactedEntries : List (String × Value) → Bool
  | [] => true
  | (name, value) :: rest => redactedName name && redacted value && redactedEntries rest

def redactedItems : List Value → Bool
  | [] => true
  | value :: rest => redacted value && redactedItems rest

end

def isRedactedJson (fromStr : JsonParser) (value : String) : Bool :=
  if 16 * 1024 < value.utf8ByteSize then false
  else
    match fromStr value with
    | .error _ => false
    | .ok value => redacted value

/-- What recording takes from libraries: the encodings and a JSON parser. -/
structure AlertingEnv extends Encodings where
  fromStr : JsonParser

namespace ObservationIngress

def validate (env : AlertingEnv) (input : ObservationIngress) : Except PersistenceError Unit :=
  if input.sourceObservationKey = "" ∨ 200 < input.sourceObservationKey.utf8ByteSize ∨
      ¬ input.sourceObservationKey.toList.all
        (fun c => c.isAlphanum ∨ c ∈ ['.', '_', ':', '-']) ∨
      input.objectType = "" ∨ 100 < input.objectType.utf8ByteSize ∨
      input.source = "" ∨ 100 < input.source.utf8ByteSize ∨
      input.observedAtMs < 0 ∨ input.factFreshUntilMs < input.observedAtMs ∨
      ¬ isRedactedJson env.fromStr input.summaryJson ∨
      (input.eventType = .groupMissing ∧ (input.kind ≠ .change ∨ input.severity ≠ .info)) then
    .error .constraintViolation
  else .ok ()

def occurrence (input : ObservationIngress) : Occurrence where
  id := "occurrence-" ++ input.sourceObservationKey
  sourceObservationKey := input.sourceObservationKey
  eventType := input.eventType
  category := if input.kind = .change then .auditChange else .conditionObservation
  observationKind := input.kind
  severity := input.severity
  conditionKey := some input.conditionKey
  objectType := input.objectType
  objectId := input.objectId
  stationId := input.stationId
  stationKeyId := input.stationKeyId
  source := input.source
  reasonCode := input.reasonCode
  newValueJson := some input.summaryJson
  observedAtMs := input.observedAtMs
  createdAtMs := input.observedAtMs
  incidentId := none
  episodeNumber := none

def observation (input : ObservationIngress) : IncidentObservation where
  sourceObservationKey := input.sourceObservationKey
  eventType := input.eventType
  conditionKey := input.conditionKey
  kind := input.kind
  severity := input.severity
  observedAtMs := input.observedAtMs
  factFreshUntilMs := input.factFreshUntilMs
  summaryJson := input.summaryJson

def context (input : ObservationIngress) : PolicyMatchContext where
  eventType := input.eventType
  baseSeverity := input.severity
  stationId := input.stationId
  stationKeyId := input.stationKeyId

def incidentId (key : ConditionKey) : String := "incident-" ++ key.asStr

end ObservationIngress

namespace AlertingIngress
open ObservationIngress

def fingerprint (policy : AlertPolicy) : String := policy.id ++ ":" ++ toString policy.revision

/-- The incident the observation is about: the stored one, or a new one. -/
def loaded (db : AlertingDb) (input : ObservationIngress) (policy : AlertPolicy) : Incident :=
  (IncidentStore.loadForWrite db input.conditionKey).getD
    (.new (incidentId input.conditionKey) input.conditionKey input.eventType input.severity
      input.observedAtMs (fingerprint policy))

/-- What the observation and its policy determine of the incident, before it is applied. The
system default is no row of the policy table, so nothing refers to it. -/
def prepared (i : Incident) (input : ObservationIngress) (policy : AlertPolicy) : Incident :=
  { i with
    objectType := input.objectType
    objectId := input.objectId
    stationId := input.stationId
    stationKeyId := input.stationKeyId
    policyId := if policy.id ≠ "system_default" then some policy.id else none
    policyRevision := if policy.id ≠ "system_default" then some policy.revision else none
    lifecyclePolicyFingerprint := fingerprint policy
    severity := policy.effectiveSeverity input.severity }

def storeIncident (db : AlertingDb) (i : Incident) (expectedVersion : Nat) :
    Except PersistenceError AlertingDb :=
  if expectedVersion = 0 then IncidentStore.insertSnapshot db i
  else IncidentStore.updateSnapshotCas db i expectedVersion

/-- A planned delivery as it is written. -/
def plannedRow (planned : PlannedDelivery) (nowMs : Int) :
    Except PersistenceError NotificationDelivery :=
  match planned.suppressionReason with
  | none => .ok planned.delivery
  | some reason => (planned.delivery.suppress reason nowMs).mapError .invariantViolation

def scheduleAll (db : AlertingDb) (nowMs : Int) :
    List PlannedDelivery → Except PersistenceError AlertingDb
  | [] => .ok db
  | planned :: rest => do
    let delivery ← plannedRow planned nowMs
    let (_, db) ← scheduleDelivery db delivery
    scheduleAll db nowMs rest

/-- A first healthy observation resolves an incident that nobody was told of. -/
def announces (transition : StateTransition) (i : Incident) : Bool :=
  transition ≠ .none ∧ ¬ (transition = .resolved ∧ i.episodeOccurrenceCount = 0)

def scheduleTransition (env : AlertingEnv) (db : AlertingDb) (transition : StateTransition)
    (i : Incident) (policy : AlertPolicy) (nowMs : Int) : Except PersistenceError AlertingDb :=
  if announces transition i then
    scheduleAll db nowMs (DeliveryPlanner.planTransition env.toEncodings transition i policy
      db.settings none nowMs)
  else .ok db

def cleanUp (db : AlertingDb) (applyRecoveryCleanup : Bool) (transition : StateTransition)
    (i : Incident) : Except PersistenceError AlertingDb :=
  if applyRecoveryCleanup ∧ transition = .resolved ∧ db.settings.deleteResolvedIncidents then
    let (deleted, db) := IncidentStore.deleteResolvedById db i.id
    if deleted ≠ 1 then .error (.revisionConflict i.id) else .ok db
  else .ok db

/-- The incident after the observation; a first observation counts as a version. -/
def observed (db : AlertingDb) (input : ObservationIngress) (policy : AlertPolicy) :
    Except PersistenceError (StateTransition × Incident) :=
  match IncidentProjector.apply (prepared (loaded db input policy) input policy) input.observation
      policy with
  | .error _ => .error .constraintViolation
  | .ok (transition, i) =>
    .ok (transition, if (loaded db input policy).version = 0 ∧ i.occurrenceCount = 0 then
      { i with version := 1 } else i)

/-- What a condition observation does after its occurrence was inserted. -/
def project (env : AlertingEnv) (db : AlertingDb) (input : ObservationIngress)
    (applyRecoveryCleanup : Bool) : Except PersistenceError AlertingDb := do
  let policy := resolvePolicy db.policies input.context
  let (transition, i) ← observed db input policy
  let db ← storeIncident db i (loaded db input policy).version
  let db := IncidentStore.linkOccurrence db input.occurrence.id i.id i.episodeNumber
  let db ← scheduleTransition env db transition i policy input.observedAtMs
  cleanUp db applyRecoveryCleanup transition i

/-- The transaction of an observation, with whether it was new. -/
def recordWithCleanup (env : AlertingEnv) (db : AlertingDb) (input : ObservationIngress)
    (applyRecoveryCleanup : Bool) : Except PersistenceError (Bool × AlertingDb) := do
  input.validate env
  let (inserted, db) ← OccurrenceStore.insertIgnore db input.occurrence
  if !inserted then return (false, db)
  -- changes are audit facts; only condition observations enter the state machine
  if input.kind = .change then return (true, db)
  let db ← project env db input applyRecoveryCleanup
  return (true, db)

def record (env : AlertingEnv) (db : AlertingDb) (input : ObservationIngress) :
    Except PersistenceError (Bool × AlertingDb) :=
  recordWithCleanup env db input true

end AlertingIngress

end RelayPool.Alerting
