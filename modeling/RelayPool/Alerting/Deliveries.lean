import RelayPool.Alerting.Incident
import RelayPool.Circuit.Store
import RelayPool.Table

/-! The delivery ledger.

A row of the ledger is one notification over one channel. A worker claims a due row
under a token and reports what became of it under the same token; a claim whose lease
is over is taken back. The updates of the ledger are conditional statements, so each is
a function of the rows, with the error it reports when no row met its condition. -/
namespace RelayPool.Alerting
open Table
open Circuit (PersistenceError)

/-! ### Rows -/

inductive NotificationChannel
  | inApp
  | desktop
deriving DecidableEq, Repr

def NotificationChannel.asStr : NotificationChannel → String
  | inApp => "in_app"
  | desktop => "desktop"

inductive DeliveryKind
  | opened
  | repeated
  | escalated
  | recovered
  | test
deriving DecidableEq, Repr

def DeliveryKind.asStr : DeliveryKind → String
  | opened => "opened"
  | repeated => "repeated"
  | escalated => "escalated"
  | recovered => "recovered"
  | test => "test"

inductive DeliveryStatus
  | scheduled
  | claimed
  | delivered
  | suppressed
  | failed
  | outcomeUnknown
deriving DecidableEq, Repr

inductive SuppressionReason
  | globalDisabled
  | channelDisabled
  | permissionDenied
  | quietHours
  | globalPause
  | incidentSnoozed
  | cooldown
  | repeatDisabled
  | policyMuted
  | staleEpisode
deriving DecidableEq, Repr

structure NotificationDelivery where
  id : String
  deliveryKey : String
  incidentId : String
  episodeNumber : Nat
  deliverySequence : Nat
  policyId : Option String
  policyRevision : Option Nat
  policySnapshotJson : String
  channel : NotificationChannel
  deliveryKind : DeliveryKind
  status : DeliveryStatus
  scheduledAtMs : Int
  claimToken : Option String
  claimedAtMs : Option Int
  leaseExpiresAtMs : Option Int
  attemptCount : Nat
  attemptedAtMs : Option Int
  outcomeUnknownAtMs : Option Int
  retryNotBeforeMs : Option Int
  deliveredAtMs : Option Int
  suppressedReason : Option SuppressionReason
  errorCode : Option String
  createdAtMs : Int
  updatedAtMs : Int
deriving DecidableEq, Repr

def makeDeliveryKey (incidentId : String) (episodeNumber : Nat) (channel : NotificationChannel)
    (deliveryKind : DeliveryKind) (deliverySequence : Nat) : String :=
  incidentId ++ ":" ++ toString episodeNumber ++ ":" ++ channel.asStr ++ ":" ++
    deliveryKind.asStr ++ ":" ++ toString deliverySequence

namespace NotificationDelivery

/-- The numbers are positive and the snapshot is JSON wherever this is called. -/
def new (id incidentId : String) (episodeNumber deliverySequence : Nat)
    (channel : NotificationChannel) (deliveryKind : DeliveryKind) (scheduledAtMs : Int)
    (policySnapshotJson : String) : NotificationDelivery where
  id := id
  deliveryKey := makeDeliveryKey incidentId episodeNumber channel deliveryKind deliverySequence
  incidentId := incidentId
  episodeNumber := episodeNumber
  deliverySequence := deliverySequence
  policyId := none
  policyRevision := none
  policySnapshotJson := policySnapshotJson
  channel := channel
  deliveryKind := deliveryKind
  status := .scheduled
  scheduledAtMs := scheduledAtMs
  claimToken := none
  claimedAtMs := none
  leaseExpiresAtMs := none
  attemptCount := 0
  attemptedAtMs := none
  outcomeUnknownAtMs := none
  retryNotBeforeMs := none
  deliveredAtMs := none
  suppressedReason := none
  errorCode := none
  createdAtMs := scheduledAtMs
  updatedAtMs := scheduledAtMs

def suppress (d : NotificationDelivery) (reason : SuppressionReason) (nowMs : Int) :
    Except String NotificationDelivery :=
  if d.status ≠ .scheduled then .error "only scheduled delivery can be suppressed"
  else .ok { d with status := .suppressed, suppressedReason := some reason, updatedAtMs := nowMs }

/-- The columns a new row is given; the others have their defaults. -/
def inserted (d : NotificationDelivery) : NotificationDelivery :=
  { d with
    claimToken := none
    claimedAtMs := none
    leaseExpiresAtMs := none
    attemptCount := 0
    attemptedAtMs := none
    outcomeUnknownAtMs := none
    retryNotBeforeMs := none
    deliveredAtMs := none
    errorCode := none
    createdAtMs := d.scheduledAtMs
    updatedAtMs := d.scheduledAtMs }

def isDue (d : NotificationDelivery) (nowMs : Int) : Bool :=
  d.status ∈ [.scheduled, .outcomeUnknown] ∧ d.scheduledAtMs ≤ nowMs ∧
    d.retryNotBeforeMs.all (· ≤ nowMs)

def claimed (d : NotificationDelivery) (token : String) (nowMs leaseMs : Int) :
    NotificationDelivery :=
  { d with
    status := .claimed
    claimToken := some token
    claimedAtMs := some nowMs
    leaseExpiresAtMs := some (nowMs + leaseMs)
    attemptCount := d.attemptCount + 1
    attemptedAtMs := some nowMs
    retryNotBeforeMs := none
    updatedAtMs := nowMs }

/-- The row is claimed under this token. -/
def heldBy (d : NotificationDelivery) (token : String) : Bool :=
  d.status = .claimed ∧ d.claimToken = some token

def released (d : NotificationDelivery) (nowMs : Int) : NotificationDelivery :=
  { d with claimToken := none, leaseExpiresAtMs := none, updatedAtMs := nowMs }

def delivered (d : NotificationDelivery) (nowMs : Int) : NotificationDelivery :=
  { d.released nowMs with status := .delivered, deliveredAtMs := some nowMs }

def failed (d : NotificationDelivery) (errorCode : String) (nowMs : Int) : NotificationDelivery :=
  { d.released nowMs with status := .failed, errorCode := some errorCode }

/-- A claim that came to nothing: the row has failed or waits for its next attempt. -/
def retried (d : NotificationDelivery) (errorCode : String) (outcomeUnknownAtMs : Int)
    (retryNotBeforeMs nowMs : Int) (maxAttempts : Nat) : NotificationDelivery :=
  if max maxAttempts 1 ≤ d.attemptCount then
    { d.released nowMs with
      status := .failed
      errorCode := some errorCode
      retryNotBeforeMs := none }
  else
    { d.released nowMs with
      status := .outcomeUnknown
      outcomeUnknownAtMs := some outcomeUnknownAtMs
      retryNotBeforeMs := some retryNotBeforeMs }

def isExpired (d : NotificationDelivery) (nowMs : Int) : Bool :=
  d.status = .claimed ∧ d.leaseExpiresAtMs.any (· ≤ nowMs)

def muted (d : NotificationDelivery) (reason : SuppressionReason) (nowMs : Int) :
    NotificationDelivery :=
  { d with status := .suppressed, suppressedReason := some reason, updatedAtMs := nowMs }

def isUnsettled (d : NotificationDelivery) : Bool :=
  d.status ∈ [.scheduled, .claimed, .outcomeUnknown]

/-- The episode of the row is over. -/
def outdated (d : NotificationDelivery) (nowMs : Int) : NotificationDelivery :=
  { d with
    status := .suppressed
    suppressedReason := some .staleEpisode
    claimToken := none
    leaseExpiresAtMs := none
    retryNotBeforeMs := none
    updatedAtMs := nowMs }

/-- The columns of the second unique constraint. -/
def identity (d : NotificationDelivery) :
    String × Nat × NotificationChannel × DeliveryKind × Nat :=
  (d.incidentId, d.episodeNumber, d.channel, d.deliveryKind, d.deliverySequence)

end NotificationDelivery

/-! ### Statements -/

abbrev Ledger := List NotificationDelivery

/-- A limit of rows, within what the statements allow. -/
def clampLimit (limit : Nat) : Nat := max 1 (min limit 500)

namespace DeliveryStore

variable (ledger : Ledger)

/-- A row whose delivery key is there already is left out without an error. -/
def schedule (delivery : NotificationDelivery) : Except PersistenceError (Bool × Ledger) :=
  if ledger.any (·.deliveryKey = delivery.deliveryKey) then .ok (false, ledger)
  else if ledger.any fun d => d.id = delivery.id ∨ d.identity = delivery.identity then
    .error .constraintViolation
  else .ok (true, ledger ++ [delivery.inserted])

def claimDue (id token : String) (nowMs leaseMs : Int) :
    Except PersistenceError (Bool × Ledger) :=
  if leaseMs ≤ 0 then .error .constraintViolation
  else
    .ok (ledger.countP (fun d => d.id = id ∧ d.isDue nowMs) = 1,
      updateWhere (fun d => d.id = id ∧ d.isDue nowMs) (·.claimed token nowMs leaseMs) ledger)

/-- A report on a claim: an error unless the row is claimed under the token. -/
def report (id token : String) (f : NotificationDelivery → NotificationDelivery) :
    Except PersistenceError Ledger :=
  if ledger.countP (fun d => d.id = id ∧ d.heldBy token) = 1 then
    .ok (updateWhere (fun d => d.id = id ∧ d.heldBy token) f ledger)
  else .error (.revisionConflict id)

def markDelivered (id token : String) (nowMs : Int) : Except PersistenceError Ledger :=
  report ledger id token (·.delivered nowMs)

def markFailed (id token errorCode : String) (nowMs : Int) : Except PersistenceError Ledger :=
  report ledger id token (·.failed errorCode nowMs)

def releaseForRetry (id token errorCode : String) (retryNotBeforeMs nowMs : Int)
    (maxAttempts : Nat) : Except PersistenceError Ledger :=
  report ledger id token (·.retried errorCode retryNotBeforeMs retryNotBeforeMs nowMs maxAttempts)

def suppressScheduledForIncident (incidentId : String) (episodeNumber : Nat)
    (reason : SuppressionReason) (nowMs : Int) (limit : Nat) : Nat × Ledger :=
  let chosen := (page (fun d d' => d.scheduledAtMs < d'.scheduledAtMs ∨
      (d.scheduledAtMs = d'.scheduledAtMs ∧ d.id ≤ d'.id)) (clampLimit limit)
    (fun d => d.incidentId = incidentId ∧ d.episodeNumber = episodeNumber ∧
      d.status = .scheduled) ledger).map (·.id)
  (ledger.countP (·.id ∈ chosen), updateWhere (·.id ∈ chosen) (·.muted reason nowMs) ledger)

def expireClaims (nowMs retryNotBeforeMs : Int) (maxAttempts limit : Nat) : Nat × Ledger :=
  let chosen := (page (fun d d' => d.leaseExpiresAtMs.getD 0 < d'.leaseExpiresAtMs.getD 0 ∨
      (d.leaseExpiresAtMs.getD 0 = d'.leaseExpiresAtMs.getD 0 ∧ d.id ≤ d'.id)) (clampLimit limit)
    (·.isExpired nowMs) ledger).map (·.id)
  (ledger.countP (·.id ∈ chosen),
    updateWhere (·.id ∈ chosen)
      (·.retried "retry_exhausted" nowMs retryNotBeforeMs nowMs maxAttempts) ledger)

/-- The deliveries of incidents that are resolved without an observation: all of an incident's,
or those of the episode it was resolved in. -/
def suppressForIncidents (episode : String → Nat → Bool) (nowMs : Int) : Ledger :=
  updateWhere (fun d => episode d.incidentId d.episodeNumber ∧ d.isUnsettled) (·.outdated nowMs)
    ledger

end DeliveryStore

/-! ### The worker -/

namespace DeliveryWorker

def maxAttempts : Nat := 3

end DeliveryWorker

end RelayPool.Alerting
