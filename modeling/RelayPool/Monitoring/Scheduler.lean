import Mathlib.Algebra.Ring.Int.Defs
import Mathlib.Data.Prod.Lex
import Mathlib.Data.String.Basic
import RelayPool.Monitoring.Runtime
import RelayPool.OrderedSets

/-! The monitoring scheduler (`services/monitoring/scheduler.rs`).

A map holds the monitors, and an ordered set of pairs of a due time and an id says which of
them is next. A tick walks over a copy of the pairs that are due and moves each of them while
it goes. Times are signed integers of 64 bits, and their arithmetic saturates. -/
namespace RelayPool.Monitoring
open OrderedSets Table

/-- The nearest signed integer of 64 bits. -/
def clampI64 (i : Int) : Int := max (-2 ^ 63) (min i (2 ^ 63 - 1))

def i64Max : Int := 2 ^ 63 - 1

structure ScheduledMonitor where
  monitorId : String
  stationId : String
  stationKeyIds : List String
  nextDueAtMs : Int
  intervalMs : Int
  jitterMs : Int
  scheduleRevision : Int
deriving DecidableEq, Repr

structure SchedulerTick where
  admittedCount : Nat
  queueFullCount : Nat
  maxLagMs : Int
  nextWakeupAtMs : Option Int
deriving DecidableEq, Repr

structure MonitoringScheduler where
  monitors : List ScheduledMonitor
  dueIndex : List (Int ×ₗ String)
  queue : List SchedulerCommand
  maxQueueDepth : Nat
  queueFullCount : Nat
  lastLagMs : Option Int

/-! ### The next due time -/

def rotateLeft (word : UInt64) (by' : UInt64) : UInt64 := (word <<< by') ||| (word >>> (64 - by'))

def deterministicForwardJitterMs (monitorId : String)
    (scheduleRevision nowMs maxJitterMs : Int) : Int :=
  if maxJitterMs ≤ 0 then 0
  else
    let hash : UInt64 := monitorId.toUTF8.data.toList.foldl
      (fun hash byte => (hash ^^^ byte.toUInt64) * 0x100000001B3) 0xcbf29ce484222325
    let hash := hash ^^^ UInt64.ofInt scheduleRevision
    let hash := rotateLeft hash 13 ^^^ UInt64.ofInt nowMs
    (hash.toNat % (maxJitterMs.toNat + 1) : Nat)

def nextDueAfterTick (entry : ScheduledMonitor) (nowMs : Int) : Int :=
  let interval := max entry.intervalMs 1
  let jitter := deterministicForwardJitterMs entry.monitorId entry.scheduleRevision nowMs
    (max entry.jitterMs 0)
  clampI64 (clampI64 (nowMs + interval) + jitter)

/-! ### The scheduler -/

namespace ScheduledMonitor

/-- The entry of the due index. -/
def dueKey (entry : ScheduledMonitor) : Int ×ₗ String := toLex (entry.nextDueAtMs, entry.monitorId)

/-- The command of a monitor that is due. -/
def scheduled (entry : ScheduledMonitor) (dueAtMs lagMs : Int) : SchedulerCommand where
  monitorId := entry.monitorId
  stationId := entry.stationId
  stationKeyIds := entry.stationKeyIds
  triggerKind := .scheduled
  dueAtMs
  lagMs
  scheduleRevision := entry.scheduleRevision

end ScheduledMonitor

namespace MonitoringScheduler

def new (maxQueueDepth : Nat) : MonitoringScheduler where
  monitors := []
  dueIndex := []
  queue := []
  maxQueueDepth := max maxQueueDepth 1
  queueFullCount := 0
  lastLagMs := none

variable (s : MonitoringScheduler)

def get (monitorId : String) : Option ScheduledMonitor := lookup (·.monitorId) s.monitors monitorId

def removeFromDueIndex (monitorId : String) : MonitoringScheduler :=
  match s.get monitorId with
  | some existing => { s with dueIndex := remove existing.dueKey s.dueIndex }
  | none => s

def upsertMonitor (entry : ScheduledMonitor) : MonitoringScheduler :=
  let s := s.removeFromDueIndex entry.monitorId
  { s with
    dueIndex := add entry.dueKey s.dueIndex
    monitors := upsert (·.monitorId) entry s.monitors }

def notifyDefinitionEdit (entry : ScheduledMonitor) (nowMs : Int) : MonitoringScheduler :=
  s.upsertMonitor { entry with nextDueAtMs := max entry.nextDueAtMs nowMs }

def popReady : Option SchedulerCommand × MonitoringScheduler :=
  (s.queue.head?, { s with queue := s.queue.tail })

def nextWakeupAtMs : Option Int := s.dueIndex.head?.map fun due => (ofLex due).1

/-- The scheduler and the counts of a tick so far. -/
structure Ticking where
  scheduler : MonitoringScheduler
  admittedCount : Nat
  queueFullCount : Nat
  maxLagMs : Int

/-- A monitor that is due is queued, or counted when the queue is full, and moved on. -/
def handleDue (nowMs : Int) (t : Ticking) (due : Int ×ₗ String) : Ticking :=
  let (dueAtMs, monitorId) := ofLex due
  let s := { t.scheduler with dueIndex := remove due t.scheduler.dueIndex }
  match s.get monitorId with
  | none => { t with scheduler := s }
  | some entry =>
    let lagMs := clampI64 (nowMs - dueAtMs)
    let next := { entry with nextDueAtMs := nextDueAfterTick entry nowMs }
    if s.maxQueueDepth ≤ s.queue.length then
      { scheduler := upsertMonitor
          { s with
            lastLagMs := some lagMs
            queueFullCount := min (s.queueFullCount + 1) wordMax } next
        admittedCount := t.admittedCount
        queueFullCount := t.queueFullCount + 1
        maxLagMs := max t.maxLagMs lagMs }
    else
      { scheduler := upsertMonitor
          { s with
            lastLagMs := some lagMs
            queue := s.queue ++ [entry.scheduled dueAtMs lagMs] } next
        admittedCount := t.admittedCount + 1
        queueFullCount := t.queueFullCount
        maxLagMs := max t.maxLagMs lagMs }

def tick (nowMs : Int) : SchedulerTick × MonitoringScheduler :=
  let due := s.dueIndex.takeWhile fun due => (ofLex due).1 ≤ nowMs
  let t := due.foldl (handleDue nowMs) ⟨s, 0, 0, 0⟩
  (⟨t.admittedCount, t.queueFullCount, t.maxLagMs, t.scheduler.nextWakeupAtMs⟩, t.scheduler)

end MonitoringScheduler

inductive SchedulerOperation
  | upsertMonitor (entry : ScheduledMonitor)
  | notifyDefinitionEdit (entry : ScheduledMonitor) (nowMs : Int)
  | tick (nowMs : Int)
  | popReady

def MonitoringScheduler.step (s : MonitoringScheduler) : SchedulerOperation → MonitoringScheduler
  | .upsertMonitor entry => s.upsertMonitor entry
  | .notifyDefinitionEdit entry nowMs => s.notifyDefinitionEdit entry nowMs
  | .tick nowMs => (s.tick nowMs).2
  | .popReady => s.popReady.2

end RelayPool.Monitoring
