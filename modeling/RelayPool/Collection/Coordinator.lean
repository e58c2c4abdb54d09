import Mathlib.Data.PNat.Basic
import RelayPool.Collection.Plan
import RelayPool.Table

/-! The coordinator of station collections (`services/station_collection_coordinator.rs`).

A mutex guards the limit and the set of stations that are being collected. What runs under it
is one step, and so is everything that a call does between two uses of it; the steps of
different calls come in any order. `notify_waiters` is called after the mutex is released, and
wakes every call that has enabled its notification before. -/
namespace RelayPool.Collection
open Protocol Table

inductive StationCollectionAdmissionError
  | alreadyRunning
  | atCapacity
  | cancelled
  | invalidStationId
deriving DecidableEq, Repr

structure StationCollectionCoordinatorState where
  maxConcurrency : ℕ+
  activeStationIds : List String

/-- A lease, told apart from the others by its number. -/
structure StationCollectionLease where
  number : Nat
  stationId : String
deriving DecidableEq, Repr

inductive TryInsert
  | acquired
  | alreadyRunning
  | atCapacity
deriving DecidableEq, Repr

def tryInsertStation (state : StationCollectionCoordinatorState) (stationId : String) :
    Except StationCollectionAdmissionError (TryInsert × StationCollectionCoordinatorState) :=
  if trim stationId = "" then .error .invalidStationId
  else if stationId ∈ state.activeStationIds then .ok (.alreadyRunning, state)
  else if state.maxConcurrency ≤ state.activeStationIds.length then .ok (.atCapacity, state)
  else
    .ok (.acquired, { state with activeStationIds := state.activeStationIds ++ [stationId] })

/-! ### Calls of `acquire` -/

/-- Where a call of `acquire` is. Its notification is enabled from `checking` to `waiting`. -/
inductive AcquirePhase
  | looping
  | enabling
  | checking (notified : Bool)
  | holding (lease : StationCollectionLease)
  | waiting (notified : Bool)
  | dropped
  | returned (result : Except StationCollectionAdmissionError StationCollectionLease)

structure Acquire where
  stationId : String
  /-- The cancellation token, by a number. -/
  cancellation : Nat
  phase : AcquirePhase

namespace Acquire

/-- The lease that a call has made and not returned yet. -/
def lease? (acquire : Acquire) : Option StationCollectionLease :=
  match acquire.phase with
  | .holding lease => some lease
  | _ => none

/-- A call of `notify_waiters` reaches the notifications that are enabled. -/
def notify (acquire : Acquire) : Acquire :=
  match acquire.phase with
  | .checking _ => { acquire with phase := .checking true }
  | .waiting _ => { acquire with phase := .waiting true }
  | _ => acquire

end Acquire

/-- The coordinator with everyone who uses it. -/
structure StationCollections where
  state : StationCollectionCoordinatorState
  /-- The calls of `notify_waiters` that are still to be made. -/
  notifying : Nat
  acquires : List Acquire
  /-- The tokens that are cancelled. -/
  cancelled : List Nat
  /-- The leases in the hands of the callers. -/
  leases : List StationCollectionLease
  /-- Every lease that has ever been made, and every one that has released its station. -/
  granted : List StationCollectionLease
  released : List StationCollectionLease

namespace StationCollections

def new (maxConcurrency : ℕ+) : StationCollections where
  state := ⟨maxConcurrency, []⟩
  notifying := 0
  acquires := []
  cancelled := []
  leases := []
  granted := []
  released := []

variable (s : StationCollections)

/-- The leases that have not been dropped. -/
def live : List StationCollectionLease := s.acquires.filterMap (·.lease?) ++ s.leases

/-- The next lease. -/
def newLease (stationId : String) : StationCollectionLease := ⟨s.granted.length, stationId⟩

def setMaxConcurrency (maxConcurrency : ℕ+) : StationCollections :=
  if s.state.maxConcurrency = maxConcurrency then s
  else { s with state := { s.state with maxConcurrency }, notifying := s.notifying + 1 }

def tryAcquire (stationId : String) :
    Except StationCollectionAdmissionError StationCollectionLease × StationCollections :=
  match tryInsertStation s.state stationId with
  | .error error => (.error error, s)
  | .ok (.acquired, state) =>
    let lease := s.newLease stationId
    (.ok lease,
      { s with state, leases := s.leases ++ [lease], granted := s.granted ++ [lease] })
  | .ok (.alreadyRunning, _) => (.error .alreadyRunning, s)
  | .ok (.atCapacity, _) => (.error .atCapacity, s)

/-- The drop of a lease, up to its call of `notify_waiters`. -/
def dropped (lease : StationCollectionLease) : StationCollections :=
  if lease.stationId ∈ s.state.activeStationIds then
    { s with
      state := { s.state with
        activeStationIds := s.state.activeStationIds.filter (· ≠ lease.stationId) }
      notifying := s.notifying + 1
      released := s.released ++ [lease] }
  else s

def dropLease (number : Nat) : StationCollections :=
  match lookup (·.number) s.leases number with
  | none => s
  | some lease => dropped { s with leases := s.leases.filter (·.number ≠ number) } lease

def notifyWaiters : StationCollections :=
  if s.notifying = 0 then s
  else { s with notifying := s.notifying - 1, acquires := s.acquires.map (·.notify) }

/-- The call goes on in another phase. -/
def setPhase (index : Nat) (acquire : Acquire) (phase : AcquirePhase) : StationCollections :=
  { s with acquires := s.acquires.set index { acquire with phase } }

/-- A call that is woken goes on, and so does one that is not waiting. -/
def advance (index : Nat) : StationCollections :=
  match s.acquires[index]? with
  | none => s
  | some acquire =>
    match acquire.phase with
    | .looping =>
      if acquire.cancellation ∈ s.cancelled then
        s.setPhase index acquire (.returned (.error .cancelled))
      else s.setPhase index acquire .enabling
    | .enabling => s.setPhase index acquire (.checking false)
    | .checking notified =>
      match tryInsertStation s.state acquire.stationId with
      | .error error => s.setPhase index acquire (.returned (.error error))
      | .ok (.acquired, state) =>
        let lease := s.newLease acquire.stationId
        setPhase { s with state, granted := s.granted ++ [lease] } index acquire (.holding lease)
      | .ok (.alreadyRunning, _) =>
        s.setPhase index acquire (.returned (.error .alreadyRunning))
      | .ok (.atCapacity, _) => s.setPhase index acquire (.waiting notified)
    | .holding lease =>
      if acquire.cancellation ∈ s.cancelled then
        dropped (s.setPhase index acquire (.returned (.error .cancelled))) lease
      else
        setPhase { s with leases := s.leases ++ [lease] } index acquire (.returned (.ok lease))
    | .waiting true => s.setPhase index acquire .looping
    | .waiting false | .dropped | .returned _ => s

/-- A call that is waiting sees that its token is cancelled. -/
def observeCancellation (index : Nat) : StationCollections :=
  match s.acquires[index]? with
  | none => s
  | some acquire =>
    match acquire.phase with
    | .waiting _ =>
      if acquire.cancellation ∈ s.cancelled then
        s.setPhase index acquire (.returned (.error .cancelled))
      else s
    | _ => s

/-- The future of a call is dropped where it waits. -/
def dropAcquire (index : Nat) : StationCollections :=
  match s.acquires[index]? with
  | none => s
  | some acquire =>
    match acquire.phase with
    | .waiting _ => s.setPhase index acquire .dropped
    | _ => s

end StationCollections

inductive CoordinatorAction
  | tryAcquire (stationId : String)
  | acquire (stationId : String) (cancellation : Nat)
  | advance (index : Nat)
  | cancel (cancellation : Nat)
  | observeCancellation (index : Nat)
  | dropAcquire (index : Nat)
  | setMaxConcurrency (maxConcurrency : ℕ+)
  | dropLease (number : Nat)
  | notifyWaiters

def StationCollections.step (s : StationCollections) : CoordinatorAction → StationCollections
  | .tryAcquire stationId => (s.tryAcquire stationId).2
  | .acquire stationId cancellation =>
    { s with acquires := s.acquires ++ [⟨stationId, cancellation, .looping⟩] }
  | .advance index => s.advance index
  | .cancel cancellation => { s with cancelled := cancellation :: s.cancelled }
  | .observeCancellation index => s.observeCancellation index
  | .dropAcquire index => s.dropAcquire index
  | .setMaxConcurrency maxConcurrency => s.setMaxConcurrency maxConcurrency
  | .dropLease number => s.dropLease number
  | .notifyWaiters => s.notifyWaiters

end RelayPool.Collection
