import RelayPool.Alerting.Planner

/-! The alerting tables.

The tables refer to each other: an incident to its policy and its station, a delivery to
its incident, with which it is deleted. A statement that would leave a reference without
its row fails, and with it the transaction it is part of. -/
namespace RelayPool.Alerting
open Table
open Circuit (PersistenceError)

/-- A row of `change_event_occurrences`. -/
structure Occurrence where
  id : String
  sourceObservationKey : String
  eventType : AlertEventType
  category : EventCategory
  observationKind : ObservationKind
  severity : Severity
  conditionKey : Option ConditionKey
  objectType : String
  objectId : Option String
  stationId : Option String
  stationKeyId : Option String
  source : String
  reasonCode : Option String
  newValueJson : Option String
  observedAtMs : Int
  createdAtMs : Int
  incidentId : Option String
  episodeNumber : Option Nat

structure AlertingDb where
  policies : List AlertPolicy
  settings : AlertingSettings
  stations : List String
  stationKeys : List String
  occurrences : List Occurrence
  incidents : List Incident
  deliveries : Ledger

namespace AlertingDb

/-- The tables before the first observation. -/
def start (policies : List AlertPolicy) (settings : AlertingSettings)
    (stations stationKeys : List String) : AlertingDb where
  policies := policies
  settings := settings
  stations := stations
  stationKeys := stationKeys
  occurrences := []
  incidents := []
  deliveries := []

/-- The references of a row to its station and its key, and to a policy. -/
def references (db : AlertingDb) (stationId stationKeyId policyId : Option String) : Bool :=
  stationId.all (· ∈ db.stations) ∧ stationKeyId.all (· ∈ db.stationKeys) ∧
    policyId.all (· ∈ db.policies.map (·.id))

end AlertingDb

variable (db : AlertingDb)

namespace OccurrenceStore

/-- An observation that is there already is left out without an error. -/
def insertIgnore (occurrence : Occurrence) : Except PersistenceError (Bool × AlertingDb) :=
  if db.occurrences.any (·.sourceObservationKey = occurrence.sourceObservationKey) then
    .ok (false, db)
  else if db.occurrences.any (·.id = occurrence.id) then .error .constraintViolation
  else if !db.references occurrence.stationId occurrence.stationKeyId none then
    .error .constraintViolation
  else .ok (true, { db with occurrences := db.occurrences ++ [occurrence] })

end OccurrenceStore

namespace IncidentStore

def loadForWrite (conditionKey : ConditionKey) : Option Incident :=
  lookup (·.conditionKey) db.incidents conditionKey

def insertSnapshot (i : Incident) : Except PersistenceError AlertingDb :=
  if db.incidents.any fun r => r.id = i.id ∨ r.conditionKey = i.conditionKey then
    .error .constraintViolation
  else if !db.references i.stationId i.stationKeyId i.policyId then .error .constraintViolation
  else .ok { db with incidents := db.incidents ++ [i] }

/-- The columns that an update of a row sets; the others stay. -/
def written (i row : Incident) : Incident :=
  { i with
    id := row.id
    conditionKey := row.conditionKey
    eventType := row.eventType
    baseSeverity := row.baseSeverity
    createdAtMs := row.createdAtMs }

/-- Writes the row if it still has the expected version. -/
def updateSnapshotCas (i : Incident) (expectedVersion : Nat) :
    Except PersistenceError AlertingDb :=
  if db.incidents.countP (fun r => r.id = i.id ∧ r.version = expectedVersion) ≠ 1 then
    .error (.revisionConflict i.id)
  else if !db.references i.stationId i.stationKeyId i.policyId then .error .constraintViolation
  else
    .ok { db with
      incidents :=
        updateWhere (fun r => r.id = i.id ∧ r.version = expectedVersion) (written i) db.incidents }

def linkOccurrence (occurrenceId incidentId : String) (episodeNumber : Nat) : AlertingDb :=
  { db with
    occurrences := updateWhere (fun o => o.id = occurrenceId ∧ o.incidentId.all (· = incidentId))
      (fun o => { o with incidentId := some incidentId, episodeNumber := some episodeNumber })
      db.occurrences }

/-- Deletes incidents; their deliveries go with them, their occurrences lose the reference. -/
def deleteIncidents (gone : Incident → Bool) : AlertingDb :=
  let ids := (db.incidents.filter gone).map (·.id)
  { db with
    incidents := db.incidents.filter (! gone ·)
    deliveries := db.deliveries.filter (·.incidentId ∉ ids)
    occurrences := updateWhere (·.incidentId.any (· ∈ ids)) (fun o => { o with incidentId := none })
      db.occurrences }

def deleteResolvedById (id : String) : Nat × AlertingDb :=
  let gone : Incident → Bool := fun i => i.id = id ∧ i.lifecycleState = .resolved
  (db.incidents.countP gone, deleteIncidents db gone)

/-- The incidents a resolve by hand is about. -/
def resolvable (stationId : Option String) (severity : Option Severity) (i : Incident) : Bool :=
  i.isActive ∧ i.eventType ≠ .groupMissing ∧ stationId.all (some · = i.stationId) ∧
    severity.all (· = i.severity)

def resolvedByHand (nowMs : Int) (i : Incident) : Incident :=
  { i with
    lifecycleState := .resolved
    resolvedAtMs := some nowMs
    recoveringAtMs := none
    consecutiveAbnormalCount := 0
    consecutiveHealthyCount := 0
    pendingSinceMs := none
    healthySinceMs := none
    nextStateEvaluationAtMs := none
    nextNotificationAtMs := none
    version := i.version + 1
    updatedAtMs := nowMs }

def resolveAllActive (stationId : Option String) (severity : Option Severity) (nowMs : Int) :
    Except PersistenceError (Nat × AlertingDb) :=
  if nowMs < 0 then .error .constraintViolation
  else
    let chosen := resolvable stationId severity
    let ids := (db.incidents.filter chosen).map (·.id)
    .ok (db.incidents.countP chosen,
      { db with
        deliveries := DeliveryStore.suppressForIncidents db.deliveries (fun id _ => id ∈ ids) nowMs
        incidents := updateWhere chosen (resolvedByHand nowMs) db.incidents })

inductive ClearFilter
  | active
  | unread
  | resolved
deriving DecidableEq, Repr

/-- `unread` tells the incidents whose current episode nobody has seen. -/
def cleared (unread : Incident → Bool) (filter : Option ClearFilter) (i : Incident) : Bool :=
  match filter with
  | none => true
  | some .active => i.isActive
  | some .unread => i.isActive ∧ unread i
  | some .resolved => i.lifecycleState = .resolved

def clear (unread : Incident → Bool) (stationId : Option String) (severity : Option Severity)
    (lifecycleState : Option ClearFilter) : Nat × AlertingDb :=
  let chosen : Incident → Bool := fun i =>
    stationId.all (some · = i.stationId) ∧ i.eventType ≠ .groupMissing ∧
      severity.all (· = i.severity) ∧ cleared unread lifecycleState i
  (db.incidents.countP chosen, deleteIncidents db chosen)

/-- The order of the pages: the incidents updated longest ago come first. -/
def updatedBefore (i j : Incident) : Prop :=
  i.updatedAtMs < j.updatedAtMs ∨ (i.updatedAtMs = j.updatedAtMs ∧ i.id ≤ j.id)

instance : DecidableRel updatedBefore := fun _ _ => inferInstanceAs (Decidable (_ ∨ _))

/-- The resolved incidents that were updated longest ago go first. -/
def deleteResolved (limit : Nat) : Nat × AlertingDb :=
  let chosen := (page updatedBefore (max 1 (min limit 10000)) (·.lifecycleState = .resolved)
    db.incidents).map (·.id)
  let gone : Incident → Bool := fun i => i.id ∈ chosen
  (db.incidents.countP gone, deleteIncidents db gone)

def listed (i : Incident) : Bool := i.isActive ∧ i.eventType ≠ .groupMissing

structure ReconcileCursor where
  updatedAtMs : Int
  id : String
deriving DecidableEq, Repr

def afterCursor (cursor : Option ReconcileCursor) (i : Incident) : Bool :=
  cursor.all fun c => c.updatedAtMs < i.updatedAtMs ∨ (i.updatedAtMs = c.updatedAtMs ∧ c.id < i.id)

def listActivePage (cursor : Option ReconcileCursor) (limit : Nat) : List Incident :=
  page updatedBefore (clampLimit limit) (fun i => listed i ∧ afterCursor cursor i) db.incidents

end IncidentStore

/-- A delivery refers to its incident and its policy. -/
def scheduleDelivery (delivery : NotificationDelivery) :
    Except PersistenceError (Bool × AlertingDb) :=
  match DeliveryStore.schedule db.deliveries delivery with
  | .error e => .error e
  | .ok (inserted, deliveries) =>
    if inserted ∧ !(db.incidents.any (·.id = delivery.incidentId) ∧
        db.references none none delivery.policyId) then .error .constraintViolation
    else .ok (inserted, { db with deliveries })

end RelayPool.Alerting
