import RelayPool.Alerting.Deliveries

/-! The deliveries of a transition.

An incident that opens is announced over both channels, and so is its recovery when the
policy wants it. A delivery that must not go out is planned all the same, with the reason
why it is suppressed. -/
namespace RelayPool.Alerting

/-- Encodings the code takes from libraries: the JSON text of a policy and SHA-256 of a text. -/
structure Encodings where
  policyJson : AlertPolicy → String
  sha256 : String → List UInt8

def hexDigit (n : Nat) : Char := if n < 10 then .ofNat (48 + n) else .ofNat (87 + n)

def hexByte (byte : UInt8) : List Char := [hexDigit (byte.toNat / 16), hexDigit (byte.toNat % 16)]

def hex (bytes : List UInt8) : String := .ofList (bytes.flatMap hexByte)

structure AlertingSettings where
  alertingEnabled : Bool
  inAppEnabled : Bool
  desktopEnabled : Bool
  paused : Bool
  globalPauseUntilMs : Option Int
  /-- The quiet hours, which the settings give as local times of a time zone. -/
  isQuietAt : Int → Bool
  criticalBypassesQuietHours : Bool
  deleteResolvedIncidents : Bool

namespace AlertingSettings

def default : AlertingSettings where
  alertingEnabled := true
  inAppEnabled := true
  desktopEnabled := false
  paused := false
  globalPauseUntilMs := none
  isQuietAt := fun _ => false
  criticalBypassesQuietHours := true
  deleteResolvedIncidents := true

def isPausedAt (s : AlertingSettings) (nowMs : Int) : Bool :=
  s.paused ∨ s.globalPauseUntilMs.any (nowMs < ·)

end AlertingSettings

structure IncidentAttention where
  snoozedUntilMs : Option Int

def IncidentAttention.isSnoozedAt (a : IncidentAttention) (nowMs : Int) : Bool :=
  a.snoozedUntilMs.any (nowMs < ·)

structure PlannedDelivery where
  delivery : NotificationDelivery
  suppressionReason : Option SuppressionReason

namespace DeliveryPlanner

def channelIsPolicyEnabled (policy : AlertPolicy) : NotificationChannel → Bool
  | .inApp => policy.inAppEnabled
  | .desktop => policy.desktopEnabled

def channelIsEnabled (settings : AlertingSettings) : NotificationChannel → Bool
  | .inApp => settings.inAppEnabled
  | .desktop => settings.desktopEnabled

def quietAllowed (incident : Incident) (policy : AlertPolicy) (settings : AlertingSettings) :
    Bool :=
  match policy.quietHoursPolicy with
  | .respect => true
  | .bypassForCritical => incident.severity ≠ .critical
  | .inherit => ¬ (incident.severity = .critical ∧ settings.criticalBypassesQuietHours)

def suppressionReason (incident : Incident) (policy : AlertPolicy) (settings : AlertingSettings)
    (attention : Option IncidentAttention) (channel : NotificationChannel) (nowMs : Int)
    (policyChannelEnabled : Bool) : Option SuppressionReason :=
  if !policy.enabled ∨ policy.state ≠ .active then some .policyMuted
  else if !settings.alertingEnabled then some .globalDisabled
  else if !policyChannelEnabled then some .channelDisabled
  else if !channelIsEnabled settings channel then some .channelDisabled
  else if settings.isPausedAt nowMs then some .globalPause
  else if attention.any (·.isSnoozedAt nowMs) then some .incidentSnoozed
  else if quietAllowed incident policy settings ∧ settings.isQuietAt nowMs then some .quietHours
  else none

variable (e : Encodings)

def shortHash (value : String) : String := hex ((e.sha256 value).take 12)

/-- The system default is no row of the policy table, so nothing refers to it. -/
def makeDelivery (incident : Incident) (policy : AlertPolicy) (channel : NotificationChannel)
    (kind : DeliveryKind) (sequence : Nat) (nowMs : Int) (snapshot : String) :
    NotificationDelivery :=
  let key := makeDeliveryKey incident.id incident.episodeNumber channel kind sequence
  let delivery := NotificationDelivery.new ("delivery-" ++ shortHash e key) incident.id
    incident.episodeNumber sequence channel kind nowMs snapshot
  if policy.id = "system_default" then delivery
  else { delivery with policyId := some policy.id, policyRevision := some policy.revision }

def planKind (kind : DeliveryKind) (incident : Incident) (policy : AlertPolicy)
    (settings : AlertingSettings) (attention : Option IncidentAttention) (nowMs : Int)
    (sequence : Nat) : List PlannedDelivery :=
  [NotificationChannel.inApp, .desktop].map fun channel =>
    { delivery := makeDelivery e incident policy channel kind sequence nowMs (e.policyJson policy)
      suppressionReason := suppressionReason incident policy settings attention channel nowMs
        (channelIsPolicyEnabled policy channel) }

def transitionKind (policy : AlertPolicy) : StateTransition → Option DeliveryKind
  | .opened | .reopened => some .opened
  | .resolved => if policy.recoveryNotificationEnabled then some .recovered else none
  | .none | .pending | .recovering => none

def planTransition (transition : StateTransition) (incident : Incident) (policy : AlertPolicy)
    (settings : AlertingSettings) (attention : Option IncidentAttention) (nowMs : Int) :
    List PlannedDelivery :=
  match transitionKind policy transition with
  | none => []
  | some kind => planKind e kind incident policy settings attention nowMs 1

end DeliveryPlanner

end RelayPool.Alerting
