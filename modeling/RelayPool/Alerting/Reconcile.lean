import RelayPool.Alerting.Store

/-! Reconciling incidents with the policies.

A pass reads a page of active incidents and resolves the policy of each anew. An incident
whose stored policy is not the resolved one is written back, in a transaction of its own;
where the fingerprint has changed too, its counters begin again. A pass stops at the first
error. -/
namespace RelayPool.Alerting
open Circuit (PersistenceError)

structure ResolvedPolicy where
  policy : AlertPolicy
  effectiveSeverity : Severity
  fingerprint : String

namespace PolicyResolver

def policyFingerprint (e : Encodings) (policy : AlertPolicy) : String :=
  hex (e.sha256 (e.policyJson policy))

def resolve (e : Encodings) (policies : List AlertPolicy) (context : PolicyMatchContext) :
    ResolvedPolicy :=
  let policy := resolvePolicy policies context
  { policy
    effectiveSeverity := policy.effectiveSeverity context.baseSeverity
    fingerprint := policyFingerprint e policy }

end PolicyResolver

namespace AlertingReconciler
open IncidentStore (ReconcileCursor)

def pageSize : Nat := 100

def suppressionLimitPerIncident : Nat := 100

structure ReconcilePage where
  examined : Nat
  updated : Nat
  suppressed : Nat
  nextCursor : Option ReconcileCursor
deriving DecidableEq, Repr

/-- The counters of a rule begin again; an open episode is not closed by an edit. -/
def resetEvaluationEpoch (i : Incident) (nowMs : Int) : Incident :=
  match i.lifecycleState with
  | .pending =>
    { i with
      pendingSinceMs := some nowMs
      consecutiveAbnormalCount := 0
      nextStateEvaluationAtMs := none }
  | .recovering =>
    { i with
      healthySinceMs := none
      consecutiveHealthyCount := 0
      nextStateEvaluationAtMs := none }
  | .opened | .resolved => i

def canonicalBaseSeverity (eventType : AlertEventType) (persisted : Severity) : Severity :=
  if eventType = .groupMissing then .info else persisted

def suppressionReason (settings : AlertingSettings) (policy : AlertPolicy) (nowMs : Int) :
    Option SuppressionReason :=
  if !policy.enabled ∨ policy.state ≠ .active then some .policyMuted
  else if !settings.alertingEnabled then some .globalDisabled
  else if settings.isPausedAt nowMs then some .globalPause
  else none

variable (e : Encodings) (policies : List AlertPolicy) (settings : AlertingSettings) (nowMs : Int)

def context (i : Incident) : PolicyMatchContext where
  eventType := i.eventType
  baseSeverity := canonicalBaseSeverity i.eventType i.baseSeverity
  stationId := i.stationId
  stationKeyId := i.stationKeyId

def resolved (i : Incident) : ResolvedPolicy := PolicyResolver.resolve e policies (context i)

def fingerprintChanged (i : Incident) : Bool :=
  i.lifecyclePolicyFingerprint ≠ (resolved e policies i).fingerprint

/-- The incident with what its resolved policy says. -/
def reconciled (i : Incident) : Incident :=
  let r := resolved e policies i
  let next := { i with
    baseSeverity := canonicalBaseSeverity i.eventType i.baseSeverity
    policyId := some r.policy.id
    policyRevision := some r.policy.revision
    severity := r.effectiveSeverity
    lifecyclePolicyFingerprint := r.fingerprint }
  if fingerprintChanged e policies i then resetEvaluationEpoch next nowMs else next

def shouldUpdate (i : Incident) : Bool :=
  let r := resolved e policies i
  fingerprintChanged e policies i ∨ some r.policy.id ≠ i.policyId ∨
    some r.policy.revision ≠ i.policyRevision ∨
    canonicalBaseSeverity i.eventType i.baseSeverity ≠ i.baseSeverity ∨
    r.effectiveSeverity ≠ i.severity

/-- The row that is written. -/
def next (i : Incident) : Incident :=
  { reconciled e policies nowMs i with
    version := i.version + 1
    updatedAtMs := max nowMs i.updatedAtMs }

/-- A change of the fingerprint mutes what was scheduled under the old one. -/
def reason (i : Incident) : Option SuppressionReason :=
  if fingerprintChanged e policies i then some .policyMuted
  else suppressionReason settings (resolved e policies i).policy nowMs

/-- The transaction that writes one incident of the page. -/
def write (db : AlertingDb) (i : Incident) : Except PersistenceError (Nat × AlertingDb) :=
  (IncidentStore.updateSnapshotCas db (next e policies nowMs i) i.version).map fun db =>
    match reason e policies settings nowMs i with
    | none => (0, db)
    | some reason =>
      let (suppressed, deliveries) := DeliveryStore.suppressScheduledForIncident db.deliveries i.id
        i.episodeNumber reason nowMs suppressionLimitPerIncident
      (suppressed, { db with deliveries })

/-- The incidents of a page one by one, with the incidents updated and the deliveries
suppressed. What was written before an error stays. -/
def writePage (db : AlertingDb) : List Incident →
    AlertingDb × Except PersistenceError (Nat × Nat)
  | [] => (db, .ok (0, 0))
  | i :: rest =>
    if !shouldUpdate e policies i then writePage db rest
    else
      match write e policies settings nowMs db i with
      | .error error => (db, .error error)
      | .ok (suppressed, db) =>
        let (db, counts) := writePage db rest
        (db, counts.map fun (updated, others) => (updated + 1, suppressed + others))

def cursorOf (snapshots : List Incident) : Option ReconcileCursor :=
  snapshots.getLast?.map fun i => ⟨i.updatedAtMs, i.id⟩

def reconcilePage (cursor : Option ReconcileCursor) (db : AlertingDb) :
    AlertingDb × Except PersistenceError ReconcilePage :=
  if nowMs < 0 then (db, .error .constraintViolation)
  else
    let snapshots := IncidentStore.listActivePage db cursor pageSize
    let (db, counts) := writePage e policies settings nowMs db snapshots
    (db, counts.map fun (updated, suppressed) =>
      { examined := snapshots.length
        updated
        suppressed
        nextCursor := if snapshots.length = pageSize then cursorOf snapshots else none })

end AlertingReconciler

end RelayPool.Alerting
