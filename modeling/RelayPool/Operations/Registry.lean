import Mathlib.Algebra.Ring.Nat
import RelayPool.Table

/-! The registry of user-triggered operations.

Each operation has a slot from its start to the removal of its terminal record. The
registry counts the running operations, altogether and for each concurrency key, and
keeps the terminal records in the order in which they were written: `gc` removes those
that are too old, `finish` the oldest ones once there are too many. Every function here
is what one call does while it holds the registry's mutex. -/
namespace RelayPool.Operations
open Table

/-- The u64 that the registry handed out. -/
abbrev OperationId := Nat

/-- Nanoseconds on the monotonic clock. -/
abbrev Instant := Nat

/-- Nanoseconds. -/
abbrev Duration := Nat

structure OperationRegistryConfig where
  maxRunningGlobal : Nat
  maxRunningPerConcurrencyKey : Nat
  progressRingEntriesPerOperation : Nat
  progressEntryMaxBytes : Nat
  terminalTtl : Duration
  terminalMaxEntries : Nat
  expiredTombstoneTtl : Duration
  defaultDeadline : Duration
  -- what `OperationRegistry::new` asserts
  maxRunningGlobal_pos : 0 < maxRunningGlobal
  maxRunningPerConcurrencyKey_pos : 0 < maxRunningPerConcurrencyKey
  progressRingEntries_pos : 0 < progressRingEntriesPerOperation
  progressEntryMaxBytes_pos : 0 < progressEntryMaxBytes
  terminalMaxEntries_pos : 0 < terminalMaxEntries
  defaultDeadline_pos : 0 < defaultDeadline

def fromMillis (n : Nat) : Duration := n * 1000000

def architectureBudget : OperationRegistryConfig where
  maxRunningGlobal := 8
  maxRunningPerConcurrencyKey := 1
  progressRingEntriesPerOperation := 128
  progressEntryMaxBytes := 8192
  terminalTtl := fromMillis 900000
  terminalMaxEntries := 256
  expiredTombstoneTtl := fromMillis 3600000
  defaultDeadline := fromMillis 30000
  maxRunningGlobal_pos := by decide
  maxRunningPerConcurrencyKey_pos := by decide
  progressRingEntries_pos := by decide
  progressEntryMaxBytes_pos := by decide
  terminalMaxEntries_pos := by decide
  defaultDeadline_pos := by decide

structure OperationOwner where
  feature : String
  deriving DecidableEq

inductive OperationTerminal
  | completed
  | failed (code : String)
  | cancelled
  | timedOut
  | resultUnknown
  deriving DecidableEq

inductive OperationState
  | running
  | stopping
  | terminal (terminal : OperationTerminal) (recordedAt : Instant)
  deriving DecidableEq

inductive CancellationPolicy
  | cooperative
  | detach
  deriving DecidableEq

structure OperationProgress where
  id : OperationId
  sequence : Nat
  message : String
  deriving DecidableEq

structure RunningOperationSpec where
  kind : String
  owner : OperationOwner
  deadline : Duration
  concurrencyKey : Option String
  cancellation : CancellationPolicy
  deriving DecidableEq

structure OperationSlot where
  id : OperationId
  spec : RunningOperationSpec
  /-- The token has been cancelled. -/
  token : Bool
  commitBarrier : Bool
  cancelRequested : Bool
  startedAt : Instant
  state : OperationState
  progress : List OperationProgress
  nextProgressSequence : Nat
  /-- The slot holds the task's join handle. -/
  join : Bool
  deriving DecidableEq

structure OperationRegistryInner where
  slots : List OperationSlot
  runningCount : Nat
  runningByConcurrencyKey : String → Option Nat
  terminalOrder : List OperationId
  expiredTombstones : List (OperationId × Instant)

inductive OperationRegistryError
  | overloaded
  | conflict (concurrencyKey : String)
  | invalidSpec
  | notFound
  | expired
  | progressTooLarge (limitBytes : Nat)
  | terminalAlreadyRecorded
  | admissionClosed
  deriving DecidableEq

structure OperationSnapshot where
  id : OperationId
  kind : String
  owner : OperationOwner
  deadline : Duration
  state : OperationState
  startedAt : Instant
  progress : List OperationProgress
  terminal : Option OperationTerminal
  deriving DecidableEq

inductive OperationCancelOutcome
  | stopped (terminal : OperationTerminal)
  | stillStopping
  | alreadyTerminal (terminal : OperationTerminal)
  deriving DecidableEq

inductive OperationDetachOutcome
  | cancelRequested
  | detached
  deriving DecidableEq

/-! ### Slots -/

/-- The terminal and the time it was recorded at. -/
def OperationState.record : OperationState → Option (OperationTerminal × Instant)
  | .terminal result recordedAt => some (result, recordedAt)
  | .running => none
  | .stopping => none

def OperationSlot.terminal (slot : OperationSlot) : Option OperationTerminal :=
  slot.state.record.map Prod.fst

namespace OperationRegistryInner

def empty : OperationRegistryInner := ⟨[], 0, fun _ => none, [], []⟩

def slot (inner : OperationRegistryInner) (id : OperationId) : Option OperationSlot :=
  lookup (·.id) inner.slots id

def record (inner : OperationRegistryInner) (id : OperationId) :
    Option (OperationTerminal × Instant) :=
  (inner.slot id).bind (·.state.record)

def runningFor (inner : OperationRegistryInner) (key : String) : Nat :=
  (inner.runningByConcurrencyKey key).getD 0

/-- What the code writes through `slots.get_mut`. -/
def put (inner : OperationRegistryInner) (slot : OperationSlot) : OperationRegistryInner :=
  { inner with slots := Table.put (·.id) slot inner.slots }

def notFoundOrExpiredLocked (inner : OperationRegistryInner) (id : OperationId) :
    OperationRegistryError :=
  if (lookup Prod.fst inner.expiredTombstones id).isSome then .expired else .notFound

/-! ### Starting -/

/-- The slot of an operation that was just admitted. -/
def startedSlot (id : OperationId) (spec : RunningOperationSpec) (now : Instant) :
    OperationSlot where
  id
  spec
  token := false
  commitBarrier := false
  cancelRequested := false
  startedAt := now
  state := .running
  progress := []
  nextProgressSequence := 1
  join := false

/-- An admitted operation is counted and gets a slot. -/
def reserve (id : OperationId) (spec : RunningOperationSpec) (now : Instant)
    (inner : OperationRegistryInner) : OperationRegistryInner :=
  { inner with
    runningCount := inner.runningCount + 1
    runningByConcurrencyKey := match spec.concurrencyKey with
      | some key => Function.update inner.runningByConcurrencyKey key (some (inner.runningFor key + 1))
      | none => inner.runningByConcurrencyKey
    slots := upsert (·.id) (startedSlot id spec now) inner.slots }

/-- The part of `start` that decides about admission. -/
def startLocked (config : OperationRegistryConfig) (admissionClosed : Bool) (id : OperationId)
    (spec : RunningOperationSpec) (now : Instant) (inner : OperationRegistryInner) :
    Except OperationRegistryError OperationRegistryInner :=
  if admissionClosed then .error .admissionClosed
  else if config.maxRunningGlobal ≤ inner.runningCount then .error .overloaded
  else match spec.concurrencyKey with
    | some key =>
      if config.maxRunningPerConcurrencyKey ≤ inner.runningFor key then .error (.conflict key)
      else .ok (inner.reserve id spec now)
    | none => .ok (inner.reserve id spec now)

/-- The end of `start`: the slot keeps the handle of the spawned task. -/
def retainJoin (id : OperationId) (inner : OperationRegistryInner) : OperationRegistryInner :=
  match inner.slot id with
  | some slot => inner.put { slot with join := true }
  | none => inner

/-! ### Calls on a started operation -/

def progress (config : OperationRegistryConfig) (id : OperationId) (message : String)
    (inner : OperationRegistryInner) : Except OperationRegistryError OperationRegistryInner :=
  if config.progressEntryMaxBytes < message.utf8ByteSize then
    .error (.progressTooLarge config.progressEntryMaxBytes)
  else match inner.slot id with
    | none => .error .notFound
    | some slot =>
      if slot.state.record.isSome then .error .terminalAlreadyRecorded
      else
        let kept := if slot.progress.length = config.progressRingEntriesPerOperation
          then slot.progress.tail else slot.progress
        .ok (inner.put { slot with
          progress := kept ++ [⟨id, slot.nextProgressSequence, message⟩]
          nextProgressSequence := (slot.nextProgressSequence + 1) % 2 ^ 64 })

def status (id : OperationId) (inner : OperationRegistryInner) :
    Except OperationRegistryError OperationSnapshot :=
  match inner.slot id with
  | none => .error (inner.notFoundOrExpiredLocked id)
  | some slot => .ok {
      id
      kind := slot.spec.kind
      owner := slot.spec.owner
      deadline := slot.spec.deadline
      state := slot.state
      startedAt := slot.startedAt
      progress := slot.progress
      terminal := slot.terminal }

/-- The part of `cancel` before it waits. It goes on to wait, and has no outcome yet,
when it took the join handle out of the slot. -/
def cancel (id : OperationId) (inner : OperationRegistryInner) :
    Except OperationRegistryError (Option OperationCancelOutcome) × OperationRegistryInner :=
  match inner.slot id with
  | none => (.error (inner.notFoundOrExpiredLocked id), inner)
  | some slot =>
    match slot.state.record with
    | some (terminal, _) => (.ok (some (.alreadyTerminal terminal)), inner)
    | none =>
      (.ok (if slot.join then none else some .stillStopping),
        inner.put { slot with
          cancelRequested := true
          state := .stopping
          token := slot.token || slot.spec.cancellation = .cooperative
          join := false })

def detach (id : OperationId) (inner : OperationRegistryInner) :
    Except OperationRegistryError OperationDetachOutcome × OperationRegistryInner :=
  match inner.slot id with
  | none => (.error (inner.notFoundOrExpiredLocked id), inner)
  | some slot =>
    match slot.spec.cancellation with
    -- the state is not looked at
    | .cooperative =>
      (.ok .cancelRequested,
        inner.put { slot with cancelRequested := true, state := .stopping, token := true })
    | .detach => (.ok .detached, inner)

/-- What `OperationContext::enter_commit_barrier` sets is shared with the slot. -/
def enterCommitBarrier (id : OperationId) (inner : OperationRegistryInner) :
    OperationRegistryInner :=
  match inner.slot id with
  | some slot => inner.put { slot with commitBarrier := true }
  | none => inner

/-! ### Terminal records -/

/-- The terminal that is recorded for a task that ended with `terminal`. -/
def settledTerminal (slot : OperationSlot) (terminal : OperationTerminal) : OperationTerminal :=
  let terminal :=
    if slot.cancelRequested ∧ slot.commitBarrier ∧ terminal = .cancelled then .resultUnknown
    else terminal
  if slot.cancelRequested ∧ terminal = .timedOut then .resultUnknown else terminal

/-- A key whose count reaches zero leaves the map. -/
def releaseKey (counts : String → Option Nat) (key : String) : String → Option Nat :=
  match counts key with
  | some count => Function.update counts key (if count - 1 = 0 then none else some (count - 1))
  | none => counts

/-- A removed record leaves a tombstone. -/
def expire (id : OperationId) (now : Instant) (inner : OperationRegistryInner) :
    OperationRegistryInner :=
  { inner with
    slots := inner.slots.filter (·.id ≠ id)
    expiredTombstones := upsert Prod.fst (id, now) inner.expiredTombstones }

/-- The loop at the end of `finish`, over the queue `order`. -/
def evict (config : OperationRegistryConfig) (now : Instant) (inner : OperationRegistryInner) :
    List OperationId → OperationRegistryInner
  | [] => { inner with terminalOrder := [] }
  | expired :: rest =>
    if config.terminalMaxEntries < (expired :: rest).length
    then evict config now (inner.expire expired now) rest
    else { inner with terminalOrder := expired :: rest }

/-- A slot without a terminal gets one and its running counts are given back. -/
def recordTerminal (slot : OperationSlot) (terminal : OperationTerminal) (now : Instant)
    (inner : OperationRegistryInner) : OperationRegistryInner :=
  { inner.put { slot with state := .terminal (settledTerminal slot terminal) now, join := false } with
    runningCount := inner.runningCount - 1
    runningByConcurrencyKey := match slot.spec.concurrencyKey with
      | some key => releaseKey inner.runningByConcurrencyKey key
      | none => inner.runningByConcurrencyKey
    terminalOrder := inner.terminalOrder ++ [slot.id] }

def finish (config : OperationRegistryConfig) (id : OperationId) (terminal : OperationTerminal)
    (now : Instant) (inner : OperationRegistryInner) : OperationRegistryInner :=
  match inner.slot id with
  | none => inner
  | some slot =>
    if slot.state.record.isSome then inner
    else
      let recorded := inner.recordTerminal slot terminal now
      recorded.evict config now recorded.terminalOrder

/-- The record of the slot is older than the time to live. -/
def expiredAt (config : OperationRegistryConfig) (now : Instant) (slot : OperationSlot) : Bool :=
  match slot.state with
  | .terminal _ recordedAt => config.terminalTtl ≤ now - recordedAt
  | .running => false
  | .stopping => false

def gc (config : OperationRegistryConfig) (now : Instant) (inner : OperationRegistryInner) :
    OperationRegistryInner :=
  let terminalIds := (inner.slots.filter (expiredAt config now)).map (·.id)
  let collected := terminalIds.foldl (fun inner id => inner.expire id now) inner
  { collected with
    expiredTombstones := collected.expiredTombstones.filter fun tombstone =>
      now - tombstone.2 < config.expiredTombstoneTtl }

end OperationRegistryInner

end RelayPool.Operations
