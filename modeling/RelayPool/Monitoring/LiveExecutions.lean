import RelayPool.Indexes
import RelayPool.Runs

/-! The registry of live executions (`LiveExecutionRegistry` of `runner.rs`).

A map holds the live executions, and three indexes hold their monitors, their station keys and
their trigger requests. Every call runs under the mutex, so that a run is a list of calls. The
indexes are exact after every run (`LiveExecutionState.Consistent`), from which all the rest
follows (`live_executions_consistent`). The order in which `cancel_all` lists the executions
is that of the hash map, which is taken to be that of their registration. -/
namespace RelayPool.Monitoring
open Indexes Runs Table

structure LiveExecution where
  executionId : String
  monitorId : String
  stationKeyIds : List String
  triggerRequestId : Option String
  /-- The token of the execution, by a number. -/
  token : Nat
deriving DecidableEq, Repr

structure LiveExecutionState where
  executions : List LiveExecution
  byMonitor : String → Option String
  byKey : String → Option String
  byTriggerRequest : String → Option String

inductive LiveRegistrationOutcome
  | registered (executionId : String)
  | existing (executionId monitorId : String)
deriving DecidableEq, Repr

namespace LiveExecutionState

def empty : LiveExecutionState where
  executions := []
  byMonitor := fun _ => none
  byKey := fun _ => none
  byTriggerRequest := fun _ => none

def get (state : LiveExecutionState) (executionId : String) : Option LiveExecution :=
  lookup (·.executionId) state.executions executionId

/-- The execution that stands in the way of another one. -/
def existing (state : LiveExecutionState) (execution : LiveExecution) : Option String :=
  (state.byMonitor execution.monitorId).or
    ((execution.stationKeyIds.findSome? state.byKey).or
      (execution.triggerRequestId.bind state.byTriggerRequest))

def register (state : LiveExecutionState) (execution : LiveExecution) :
    LiveRegistrationOutcome × LiveExecutionState :=
  match state.existing execution with
  | some existing =>
    let monitorId := ((state.get existing).map (·.monitorId)).getD execution.monitorId
    (.existing existing monitorId, state)
  | none =>
    (.registered execution.executionId,
      { executions := upsert (·.executionId) execution state.executions
        byMonitor := insertAll state.byMonitor [execution.monitorId] execution.executionId
        byKey := insertAll state.byKey execution.stationKeyIds execution.executionId
        byTriggerRequest := insertAll state.byTriggerRequest execution.triggerRequestId.toList
          execution.executionId })

def unregister (state : LiveExecutionState) (executionId : String) : LiveExecutionState :=
  match state.get executionId with
  | none => state
  | some execution =>
    { executions := state.executions.filter (·.executionId ≠ executionId)
      byMonitor := removeAll state.byMonitor [execution.monitorId]
      byKey := removeAll state.byKey execution.stationKeyIds
      byTriggerRequest := removeAll state.byTriggerRequest execution.triggerRequestId.toList }

end LiveExecutionState

/-- The registry and the tokens that have been cancelled. -/
structure LiveExecutionRegistry where
  state : LiveExecutionState
  cancelled : List Nat

/-- A call on the registry; a registration that is dropped unregisters its execution. -/
inductive RegistryCall
  | register (execution : LiveExecution)
  | cancel (executionId : String)
  | cancelAll
  | unregister (executionId : String)

namespace LiveExecutionRegistry

def empty : LiveExecutionRegistry := ⟨.empty, []⟩

def cancel (registry : LiveExecutionRegistry) (executionId : String) :
    Bool × LiveExecutionRegistry :=
  match registry.state.get executionId with
  | none => (false, registry)
  | some execution => (true, { registry with cancelled := execution.token :: registry.cancelled })

def cancelAll (registry : LiveExecutionRegistry) : List String × LiveExecutionRegistry :=
  (registry.state.executions.map (·.executionId),
    { registry with
      cancelled := registry.state.executions.map (·.token) ++ registry.cancelled })

def step (registry : LiveExecutionRegistry) : RegistryCall → LiveExecutionRegistry
  | .register execution => { registry with state := (registry.state.register execution).2 }
  | .cancel executionId => (registry.cancel executionId).2
  | .cancelAll => registry.cancelAll.2
  | .unregister executionId => { registry with state := registry.state.unregister executionId }

end LiveExecutionRegistry

/-- The execution that a call registers. -/
def RegistryCall.registers : RegistryCall → Option String
  | .register execution => some execution.executionId
  | _ => none

/-! ### Exact indexes -/

namespace LiveExecutionState

/-- The indexes are the images of the map. -/
structure Consistent (state : LiveExecutionState) : Prop where
  keyed : Keyed (·.executionId) state.executions
  monitors : Indexed (·.executionId) (fun e => [e.monitorId]) state.executions state.byMonitor
  keys : Indexed (·.executionId) (·.stationKeyIds) state.executions state.byKey
  triggers : Indexed (·.executionId) (·.triggerRequestId.toList) state.executions
    state.byTriggerRequest

variable {state : LiveExecutionState} {execution : LiveExecution} {executionId : String}

theorem Consistent.empty : Consistent .empty := ⟨List.nodup_nil, .empty, .empty, .empty⟩

theorem existing_none (free : state.existing execution = none) :
    state.byMonitor execution.monitorId = none ∧
      (∀ key ∈ execution.stationKeyIds, state.byKey key = none) ∧
      ∀ request ∈ execution.triggerRequestId, state.byTriggerRequest request = none := by
  obtain ⟨monitor, free⟩ := Option.or_eq_none_iff.mp free
  obtain ⟨keys, trigger⟩ := Option.or_eq_none_iff.mp free
  refine ⟨monitor, List.findSome?_eq_none_iff.mp keys, fun request is => ?_⟩
  rwa [Option.mem_def.mp is] at trigger

/-- What is in the way is live. -/
theorem Consistent.existing_live (consistent : state.Consistent) {existing : String}
    (found : state.existing execution = some existing) :
    ∃ live ∈ state.executions, live.executionId = existing := by
  rcases Option.or_eq_some_iff.mp found with entered | ⟨-, found⟩
  · obtain ⟨live, mem, is, -⟩ := (consistent.monitors _ _).mp entered
    exact ⟨live, mem, is⟩
  rcases Option.or_eq_some_iff.mp found with entered | ⟨-, found⟩
  · obtain ⟨key, -, entered⟩ := List.exists_of_findSome?_eq_some entered
    obtain ⟨live, mem, is, -⟩ := (consistent.keys _ _).mp entered
    exact ⟨live, mem, is⟩
  · obtain ⟨request, -, entered⟩ := Option.bind_eq_some_iff.mp found
    obtain ⟨live, mem, is, -⟩ := (consistent.triggers _ _).mp entered
    exact ⟨live, mem, is⟩

theorem Consistent.register (consistent : state.Consistent)
    (fresh : state.get execution.executionId = none) :
    (state.register execution).2.Consistent := by
  unfold LiveExecutionState.register
  split
  · exact consistent
  · rename_i free
    obtain ⟨monitor, keys, trigger⟩ := existing_none free
    have concat : upsert (·.executionId) execution state.executions =
        state.executions ++ [execution] := by
      refine congrArg (· ++ [execution]) (List.filter_eq_self.mpr fun e mem => ?_)
      exact decide_eq_true (lookup_none.mp fresh e mem)
    dsimp only
    rw [concat]
    exact ⟨consistent.keyed.concat fresh, consistent.monitors.concat (by simpa using monitor),
      consistent.keys.concat keys, consistent.triggers.concat (by simpa using trigger)⟩

theorem Consistent.unregister (consistent : state.Consistent) :
    (state.unregister executionId).Consistent := by
  unfold LiveExecutionState.unregister
  split
  · exact consistent
  · rename_i execution found
    obtain ⟨mem, rfl⟩ := lookup_some found
    exact ⟨consistent.keyed.filter _, consistent.monitors.remove consistent.keyed mem,
      consistent.keys.remove consistent.keyed mem, consistent.triggers.remove consistent.keyed mem⟩

/-- An execution that is gone takes with it the entries that name it. -/
theorem Consistent.unregister_entries (consistent : state.Consistent) (name : String) :
    (state.unregister executionId).byMonitor name =
        (state.byMonitor name).filter (· ≠ executionId) ∧
      (state.unregister executionId).byKey name = (state.byKey name).filter (· ≠ executionId) ∧
      (state.unregister executionId).byTriggerRequest name =
        (state.byTriggerRequest name).filter (· ≠ executionId) := by
  unfold LiveExecutionState.unregister
  split
  · rename_i absent
    have none_of {names : LiveExecution → List String} {index : String → Option String}
        (indexed : Indexed (·.executionId) names state.executions index) :
        index name = (index name).filter (· ≠ executionId) := by
      cases entered : index name with
      | none => rfl
      | some k =>
        obtain ⟨e, mem, rfl, -⟩ := (indexed name k).mp entered
        rw [Option.filter_some, if_pos (decide_eq_true (lookup_none.mp absent e mem))]
    exact ⟨none_of consistent.monitors, none_of consistent.keys, none_of consistent.triggers⟩
  · rename_i execution found
    obtain ⟨mem, rfl⟩ := lookup_some found
    exact ⟨consistent.monitors.removeAll_eq consistent.keyed mem name,
      consistent.keys.removeAll_eq consistent.keyed mem name,
      consistent.triggers.removeAll_eq consistent.keyed mem name⟩

/-- An execution in the way of another: they share a monitor, a key or a trigger request. -/
def Contend (a b : LiveExecution) : Prop :=
  a.monitorId = b.monitorId ∨ (∃ key ∈ a.stationKeyIds, key ∈ b.stationKeyIds) ∨
    ∃ request ∈ a.triggerRequestId, request ∈ b.triggerRequestId

theorem Consistent.unique (consistent : state.Consistent) {a b : LiveExecution}
    (mem : a ∈ state.executions) (mem' : b ∈ state.executions) (contend : Contend a b) : a = b := by
  rcases contend with same | ⟨key, carried, carried'⟩ | ⟨request, carried, carried'⟩
  · exact consistent.monitors.unique consistent.keyed mem mem' (List.mem_singleton_self _)
      (List.mem_singleton.mpr same)
  · exact consistent.keys.unique consistent.keyed mem mem' carried carried'
  · exact consistent.triggers.unique consistent.keyed mem mem' (Option.mem_toList.mpr carried)
      (Option.mem_toList.mpr carried')

end LiveExecutionState

/-! ### Runs -/

namespace LiveExecutionRegistry

/-- What the call registers is not live. -/
def Fresh (registry : LiveExecutionRegistry) (call : RegistryCall) : Prop :=
  ∀ executionId ∈ call.registers, registry.state.get executionId = none

variable {registry : LiveExecutionRegistry} {call : RegistryCall} {calls : List RegistryCall}

theorem cancel_state (executionId : String) :
    (registry.cancel executionId).2.state = registry.state := by
  unfold cancel
  split <;> rfl

theorem consistent_step (consistent : registry.state.Consistent) (fresh : registry.Fresh call) :
    (registry.step call).state.Consistent := by
  cases call with
  | register execution => exact consistent.register (fresh _ rfl)
  | cancel executionId => exact (registry.cancel_state executionId).symm ▸ consistent
  | cancelAll => exact consistent
  | unregister executionId => exact consistent.unregister

/-- Only what is registered becomes live. -/
theorem live_step {live : LiveExecution} (after : live ∈ (registry.step call).state.executions) :
    live ∈ registry.state.executions ∨ some live.executionId = call.registers := by
  cases call with
  | register execution =>
    unfold LiveExecutionRegistry.step LiveExecutionState.register at after
    dsimp only at after
    split at after
    · exact .inl after
    · rcases List.mem_append.mp after with old | new
      · exact .inl (List.mem_filter.mp old).1
      · exact .inr (congrArg (some ·.executionId) (List.mem_singleton.mp new))
  | cancel executionId => exact .inl (registry.cancel_state executionId ▸ after)
  | cancelAll => exact .inl after
  | unregister executionId =>
    unfold LiveExecutionRegistry.step LiveExecutionState.unregister at after
    dsimp only at after
    split at after
    · exact .inl after
    · exact .inl (List.mem_filter.mp after).1

/-- Distinct executions are registered before they are live. -/
theorem fresh_along (distinct : (calls.filterMap RegistryCall.registers).Nodup)
    (new : ∀ e ∈ registry.state.executions,
      e.executionId ∉ calls.filterMap RegistryCall.registers) :
    Along LiveExecutionRegistry.step Fresh registry calls := by
  induction calls generalizing registry with
  | nil => trivial
  | cons call rest ih =>
    refine ⟨fun executionId is => lookup_none.mpr fun e mem same => new e mem ?_, ih ?_ ?_⟩
    · exact List.mem_filterMap.mpr ⟨call, List.mem_cons_self .., same ▸ is⟩
    · exact distinct.sublist ((List.sublist_cons_self ..).filterMap _)
    · intro e after later
      rcases live_step after with old | here
      · refine new e old ?_
        exact ((List.sublist_cons_self ..).filterMap _).subset later
      · rw [List.filterMap_cons_some here.symm] at distinct
        exact (List.nodup_cons.mp distinct).1 later

end LiveExecutionRegistry

/-- Registrations of distinct executions, cancellations and drops in any order: the indexes are
exact, no two live executions contend, an execution that is refused for another one is so for
one that is live, and the registry stays as it was, and one that is dropped takes its own
entries with it and no others. -/
theorem live_executions_consistent (calls : List RegistryCall)
    (distinct : (calls.filterMap RegistryCall.registers).Nodup) :
    let registry := run LiveExecutionRegistry.step .empty calls
    registry.state.Consistent ∧
    (∀ a ∈ registry.state.executions, ∀ b ∈ registry.state.executions,
      LiveExecutionState.Contend a b → a = b) ∧
    (∀ execution existing monitorId state,
      registry.state.register execution = (.existing existing monitorId, state) →
      (∃ live ∈ registry.state.executions,
        live.executionId = existing ∧ live.monitorId = monitorId) ∧
      registry.step (.register execution) = registry) ∧
    ∀ executionId, let after := (registry.step (.unregister executionId)).state
      after.executions = registry.state.executions.filter (·.executionId ≠ executionId) ∧
      ∀ name, after.byMonitor name = (registry.state.byMonitor name).filter (· ≠ executionId) ∧
        after.byKey name = (registry.state.byKey name).filter (· ≠ executionId) ∧
        after.byTriggerRequest name =
          (registry.state.byTriggerRequest name).filter (· ≠ executionId) := by
  have along : Along LiveExecutionRegistry.step LiveExecutionRegistry.Fresh .empty calls :=
    LiveExecutionRegistry.fresh_along distinct nofun
  have preserved (registry : LiveExecutionRegistry) (call : RegistryCall)
      (fresh : registry.Fresh call) (consistent : registry.state.Consistent) :
      (registry.step call).state.Consistent :=
    LiveExecutionRegistry.consistent_step consistent fresh
  have consistent : (run LiveExecutionRegistry.step .empty calls).state.Consistent :=
    run_invariant_along preserved .empty along
  refine ⟨consistent, fun a mem b mem' => consistent.unique mem mem', ?_, ?_⟩
  · intro execution existing monitorId state refused
    unfold LiveExecutionState.register at refused
    split at refused
    · rename_i found
      cases refused
      obtain ⟨live, mem, is⟩ := consistent.existing_live found
      have gets := consistent.keyed.lookup_iff.mpr ⟨mem, is⟩
      refine ⟨⟨live, mem, is, ?_⟩, ?_⟩
      · rw [LiveExecutionState.get, gets]
        rfl
      · simp only [LiveExecutionRegistry.step, LiveExecutionState.register, found]
    · cases refused
  · refine fun executionId => ⟨?_, consistent.unregister_entries⟩
    simp only [LiveExecutionRegistry.step, LiveExecutionState.unregister]
    split
    · rename_i absent
      refine (List.filter_eq_self.mpr fun e mem => ?_).symm
      exact decide_eq_true (lookup_none.mp absent e mem)
    · rfl

/-- An execution, one that shares a key with it, and the end of the first one. -/
def sampleRegistrations : List RegistryCall :=
  [.register ⟨"execution-1", "monitor-1", ["key-1", "key-2"], some "request-1", 0⟩,
    .register ⟨"execution-2", "monitor-2", ["key-2"], none, 1⟩,
    .unregister "execution-1"]

theorem live_executions_sample :
    (run LiveExecutionRegistry.step .empty sampleRegistrations).state.Consistent :=
  (live_executions_consistent sampleRegistrations (by decide)).1

end RelayPool.Monitoring
