import Mathlib.Data.Int.Order.Basic
import Mathlib.Tactic.Common

/-! Alert policies.

A policy says when a condition becomes an incident and when it has recovered. The
policy of an observation is the most specific one that matches it (`resolvePolicy`);
where none matches, a virtual profile stands in that is no row of the policy table
(`systemDefaultForEvent`). -/
namespace RelayPool.Alerting

/-! ### Events -/

inductive Severity
  | info
  | warning
  | critical
deriving DecidableEq, Repr

namespace Severity

def rank : Severity → Nat
  | info => 1
  | warning => 2
  | critical => 3

def applyOffset (severity : Severity) (offset : Int) : Severity :=
  let rank := max 1 (min 3 ((severity.rank : Int) + offset))
  if rank = 1 then info else if rank = 2 then warning else critical

@[simp] theorem applyOffset_zero (severity : Severity) : severity.applyOffset 0 = severity := by
  cases severity <;> rfl

end Severity

inductive EventCategory
  | auditChange
  | conditionObservation
deriving DecidableEq, Repr

inductive ObservationKind
  | abnormal
  | healthy
  | change
deriving DecidableEq, Repr

inductive AlertEventType
  | groupMissing
  | keyGroupUnresolved
  | balanceLow
  | balanceDepleted
  | priceExpired
  | keyInvalid
  | collectorFailed
  | authorizationExpired
  | stationDown
  | routeImpacted
  | groupAdded
  | rateChanged
  | groupRateChanged
  | priceChanged
  | modelAdded
  | modelRemoved
  | auditChange
deriving DecidableEq, Repr

/-- The category in the event registry, which has every event type. -/
def AlertEventType.category : AlertEventType → EventCategory
  | groupMissing | groupAdded | rateChanged | groupRateChanged | priceChanged | modelAdded
  | modelRemoved | auditChange => .auditChange
  | keyGroupUnresolved | balanceLow | balanceDepleted | priceExpired | keyInvalid
  | collectorFailed | authorizationExpired | stationDown | routeImpacted => .conditionObservation

/-! ### Policies -/

inductive ScopeKind
  | global
  | eventType
  | station
  | stationKey
deriving DecidableEq, Repr

def ScopeKind.rank : ScopeKind → Nat
  | global => 0
  | eventType => 1
  | station => 2
  | stationKey => 3

inductive TriggerMode
  | immediate
  | consecutiveOccurrences
  | activeDuration
deriving DecidableEq, Repr

inductive RecoveryMode
  | consecutiveHealthy
  | healthyDuration
deriving DecidableEq, Repr

inductive RepeatMode
  | never
  | interval
  | severityEscalation
  | intervalAndEscalation
deriving DecidableEq, Repr

inductive QuietHoursPolicy
  | inherit
  | respect
  | bypassForCritical
deriving DecidableEq, Repr

inductive PolicyState
  | active
  | disabled
  | orphaned
  | tombstone
deriving DecidableEq, Repr

structure PolicyMatchContext where
  eventType : AlertEventType
  baseSeverity : Severity
  stationId : Option String
  stationKeyId : Option String
deriving DecidableEq, Repr

structure AlertPolicy where
  id : String
  name : String
  enabled : Bool
  state : PolicyState
  scopeKind : ScopeKind
  eventType : Option AlertEventType
  stationId : Option String
  stationKeyId : Option String
  minimumSeverity : Option Severity
  severityOffset : Int
  triggerMode : TriggerMode
  triggerCount : Option Nat
  triggerDurationSeconds : Option Nat
  recoveryMode : RecoveryMode
  recoveryCount : Option Nat
  recoveryDurationSeconds : Option Nat
  inAppEnabled : Bool
  desktopEnabled : Bool
  repeatMode : RepeatMode
  repeatIntervalSeconds : Option Nat
  cooldownSeconds : Nat
  recoveryNotificationEnabled : Bool
  quietHoursPolicy : QuietHoursPolicy
  priority : Nat
  revision : Nat
  createdAtMs : Int
  updatedAtMs : Int
deriving DecidableEq, Repr

namespace AlertPolicy

def systemDefaultForEvent (eventType : Option AlertEventType) (baseSeverity : Severity) :
    AlertPolicy :=
  let audit := eventType.any (·.category = .auditChange)
  let immediate := audit ∨ eventType = some .keyInvalid ∨ eventType = some .authorizationExpired ∨
    (eventType = none ∧ baseSeverity = .critical)
  { id := "system_default"
    name := "System default"
    enabled := true
    state := .active
    scopeKind := .global
    eventType := none
    stationId := none
    stationKeyId := none
    minimumSeverity := none
    severityOffset := 0
    triggerMode := if immediate then .immediate else .consecutiveOccurrences
    triggerCount :=
      if immediate then none else some (if eventType = some .collectorFailed then 3 else 2)
    triggerDurationSeconds := none
    recoveryMode := .consecutiveHealthy
    recoveryCount := some 1
    recoveryDurationSeconds := none
    inAppEnabled := true
    desktopEnabled := false
    repeatMode := .never
    repeatIntervalSeconds := none
    cooldownSeconds := 30 * 60
    recoveryNotificationEnabled := true
    quietHoursPolicy := .inherit
    priority := 4294967295
    revision := 1
    createdAtMs := 0
    updatedAtMs := 0 }

def scopeError (p : AlertPolicy) : Option String :=
  match p.scopeKind with
  | .global =>
    if p.stationId.isSome ∨ p.stationKeyId.isSome then
      some "global policy cannot specify station ids"
    else none
  | .eventType =>
    if p.eventType.isNone then some "event_type policy requires event_type"
    else if p.stationId.isSome ∨ p.stationKeyId.isSome then
      some "event_type policy cannot specify station ids"
    else none
  | .station =>
    if p.stationId.isNone ∨ p.stationKeyId.isSome then
      some "station policy requires only station_id"
    else none
  | .stationKey =>
    if p.stationKeyId.isNone then some "station_key policy requires station_key_id" else none

def countInRange (count : Option Nat) : Bool := count.all fun n => 1 ≤ n ∧ n ≤ 100

def durationInRange (seconds : Option Nat) : Bool :=
  seconds.all fun n => 60 ≤ n ∧ n ≤ 30 * 24 * 60 * 60

def triggerMatches (p : AlertPolicy) : Bool :=
  match p.triggerMode with
  | .consecutiveOccurrences => p.triggerCount.isSome
  | .activeDuration => p.triggerDurationSeconds.isSome
  | .immediate => p.triggerCount.isNone ∧ p.triggerDurationSeconds.isNone

def recoveryMatches (p : AlertPolicy) : Bool :=
  match p.recoveryMode with
  | .consecutiveHealthy => p.recoveryCount.isSome
  | .healthyDuration => p.recoveryDurationSeconds.isSome

def validate (p : AlertPolicy) : Except String Unit := do
  if p.id = "" ∨ 128 < p.id.utf8ByteSize then throw "policy id must be 1..=128 bytes"
  if p.name = "" ∨ 200 < p.name.utf8ByteSize then throw "policy name must be 1..=200 bytes"
  if p.severityOffset < -1 ∨ 1 < p.severityOffset then throw "severity_offset must be -1, 0 or 1"
  if p.revision = 0 ∨ p.createdAtMs < 0 ∨ p.updatedAtMs < 0 then
    throw "policy revision and timestamps must be positive"
  match p.scopeError with
  | some error => throw error
  | none => pure ()
  if !countInRange p.triggerCount then throw "trigger_count must be between 1 and 100"
  if !durationInRange p.triggerDurationSeconds then
    throw "trigger_duration_seconds is outside supported range"
  if !countInRange p.recoveryCount then throw "recovery_count must be between 1 and 100"
  if !durationInRange p.recoveryDurationSeconds then
    throw "recovery_duration_seconds is outside supported range"
  if !p.triggerMatches then throw "trigger mode and trigger parameters do not match"
  if !p.recoveryMatches then throw "recovery mode and recovery parameters do not match"
  if (p.repeatMode = .interval ∨ p.repeatMode = .intervalAndEscalation) ∧
      p.repeatIntervalSeconds.isNone then
    throw "interval repeat mode requires repeat_interval_seconds"
  if p.repeatIntervalSeconds = some 0 then throw "repeat_interval_seconds must be positive"

def «matches» (p : AlertPolicy) (context : PolicyMatchContext) : Bool :=
  p.enabled && p.state = .active &&
    p.eventType.all (· = context.eventType) &&
    p.minimumSeverity.all (·.rank ≤ context.baseSeverity.rank) &&
    p.stationId.all (some · = context.stationId) &&
    p.stationKeyId.all (some · = context.stationKeyId) &&
    match p.scopeKind with
    | .global => true
    | .eventType => p.eventType = some context.eventType
    | .station => p.stationId = context.stationId
    | .stationKey => p.stationKeyId = context.stationKeyId

def minimumRank (p : AlertPolicy) : Nat := (p.minimumSeverity.map Severity.rank).getD 0

/-- The order of the resolution keys, the first three of them reversed. -/
def precedes (p q : AlertPolicy) : Bool :=
  ((compare q.scopeKind.rank p.scopeKind.rank).then <|
    (compare q.eventType.isSome.toNat p.eventType.isSome.toNat).then <|
    (compare q.minimumRank p.minimumRank).then <|
    (compare p.priority q.priority).then <|
    (compare p.createdAtMs q.createdAtMs).then (compare p.id q.id)) = .lt

def effectiveSeverity (p : AlertPolicy) (base : Severity) : Severity :=
  base.applyOffset p.severityOffset

end AlertPolicy

/-- The first least element. -/
def minBy? {α : Type} (precedes : α → α → Bool) : List α → Option α
  | [] => none
  | a :: rest => some (rest.foldl (fun best b => if precedes b best then b else best) a)

def resolvePolicy (policies : List AlertPolicy) (context : PolicyMatchContext) : AlertPolicy :=
  (minBy? AlertPolicy.precedes (policies.filter (·.matches context))).getD
    (.systemDefaultForEvent (some context.eventType) context.baseSeverity)

theorem minBy?_mem {α : Type} {precedes : α → α → Bool} {as : List α} {a : α}
    (h : minBy? precedes as = some a) : a ∈ as := by
  cases as with
  | nil => exact (nomatch h)
  | cons b rest =>
    rw [← Option.some.inj h]
    clear h
    induction rest generalizing b with
    | nil => exact List.mem_cons_self ..
    | cons c rest ih =>
      rw [List.foldl_cons]
      split
      · exact List.mem_cons_of_mem b (ih c)
      · rcases List.mem_cons.mp (ih b) with same | later
        · exact List.mem_cons.mpr (.inl same)
        · exact List.mem_cons_of_mem b (List.mem_cons_of_mem c later)

theorem resolvePolicy_cases (policies : List AlertPolicy) (context : PolicyMatchContext) :
    (resolvePolicy policies context ∈ policies ∧ (resolvePolicy policies context).matches context) ∨
      resolvePolicy policies context =
        .systemDefaultForEvent (some context.eventType) context.baseSeverity := by
  unfold resolvePolicy
  cases found : minBy? AlertPolicy.precedes (policies.filter (·.matches context)) with
  | none => exact .inr rfl
  | some p => exact .inl (List.mem_filter.mp (minBy?_mem found))

end RelayPool.Alerting
