import RelayPool.Monitoring.Runtime
import RelayPool.Numerals

/-! The runtime accounts for its executions (`runtime_accounted_iff`).

No two live executions are of one monitor or share a key, which also keeps their ids apart
(`RuntimeState.Booked`); the indexes and the counters are then those of the queue and of the
active executions, whatever is called in whatever order. Only the limit on a key can be
exceeded: each naming of a key is checked for itself before any of them is counted, so that
one command may take a key more often than the limit allows. -/
namespace RelayPool.Monitoring
open Counters Indexes Numerals Runs Table

/-! ### Ids -/

theorem executionIdOf_toList (command : SchedulerCommand) (ordinal : Nat) :
    (executionIdOf command ordinal).toList =
      (command.triggerKind.prefixOf.toList ++ '-' :: command.monitorId.toList) ++
        '-' :: (toString ordinal).toList := by
  simp [executionIdOf, String.toList_append]

/-- An id tells the monitor. -/
theorem monitor_of_executionId {command command' : SchedulerCommand} {ordinal ordinal' : Nat}
    (same : executionIdOf command ordinal = executionIdOf command' ordinal') :
    command.monitorId = command'.monitorId := by
  have lists := congrArg String.toList same
  rw [executionIdOf_toList, executionIdOf_toList] at lists
  obtain ⟨lists, -⟩ := cut_last (notMem_toString (by decide)) (notMem_toString (by decide)) lists
  cases kind : command.triggerKind <;> cases kind' : command'.triggerKind <;>
    simp only [kind, kind', MonitorTriggerKind.prefixOf] at lists
  · exact String.toList_inj.mp (List.cons.inj (List.append_cancel_left lists)).2
  · exact absurd (congrArg List.head? lists) (by simp)
  · exact absurd (congrArg List.head? lists) (by simp)
  · exact String.toList_inj.mp (List.cons.inj (List.append_cancel_left lists)).2

/-! ### The books -/

/-- Executions of one monitor, or with a key in common. -/
def Rivals (a b : Execution) : Prop :=
  a.command.monitorId = b.command.monitorId ∨
    ∃ key ∈ a.command.stationKeyIds, key ∈ b.command.stationKeyIds

theorem Rivals.symm {a b : Execution} (rivals : Rivals a b) : Rivals b a :=
  rivals.imp Eq.symm fun ⟨key, carried, carried'⟩ => ⟨key, carried', carried⟩

def Execution.monitors (e : Execution) : List String := [e.command.monitorId]

def Execution.keys (e : Execution) : List String := e.command.stationKeyIds

namespace RuntimeState

def live (s : RuntimeState) : List Execution := s.queue ++ s.active

/-- What holds of the runtime after every run. -/
structure Booked (s : RuntimeState) : Prop where
  named : ∀ e ∈ s.live, ∃ ordinal, e.executionId = executionIdOf e.command ordinal
  apart : s.live.Pairwise fun a b => ¬ Rivals a b
  queuedMonitors : Indexed (·.executionId) (·.monitors) s.queue s.queuedByMonitor
  queuedKeys : Indexed (·.executionId) (·.keys) s.queue s.queuedByKey
  activeMonitors : Indexed (·.executionId) (·.monitors) s.active s.activeByMonitor
  activeKeys : Indexed (·.executionId) (·.keys) s.active s.activeByKey
  stations : ∀ station, s.stationInUse station = s.active.countP (·.command.stationId = station)
  keys : ∀ key, s.keyInUse key = (s.active.map (·.keys.count key)).sum
  global : s.active.length ≤ s.limits.globalConcurrency
  station : ∀ station, s.stationInUse station ≤ s.limits.stationConcurrency
  shut : s.admitting = false → s.queue = []

variable {s : RuntimeState}

theorem Booked.new (limits : MonitoringRuntimeLimits) : Booked (new limits) where
  named _ mem := nomatch mem
  apart := List.Pairwise.nil
  queuedMonitors := .empty
  queuedKeys := .empty
  activeMonitors := .empty
  activeKeys := .empty
  stations _ := rfl
  keys _ := rfl
  global := Nat.zero_le _
  station _ := Nat.zero_le _
  shut is := nomatch is

theorem Booked.keyed (booked : s.Booked) : Keyed (·.executionId) s.live := by
  refine List.pairwise_map.mpr (booked.apart.imp_of_mem fun mem mem' apart same => ?_)
  obtain ⟨ordinal, is⟩ := booked.named _ mem
  obtain ⟨ordinal', is'⟩ := booked.named _ mem'
  exact apart (.inl (monitor_of_executionId (is.symm.trans (same.trans is'))))

theorem Booked.keyed_queue (booked : s.Booked) : Keyed (·.executionId) s.queue :=
  booked.keyed.sublist ((List.sublist_append_left ..).map _)

theorem Booked.keyed_active (booked : s.Booked) : Keyed (·.executionId) s.active :=
  booked.keyed.sublist ((List.sublist_append_right ..).map _)

/-- What is named apart from the live executions may become live with any of them. -/
theorem apart_cons {rows rows' : List Execution} {e : Execution} (perm : rows'.Perm (e :: rows))
    (apart : rows.Pairwise fun a b => ¬ Rivals a b) (new : ∀ a ∈ rows, ¬ Rivals e a) :
    rows'.Pairwise fun a b => ¬ Rivals a b :=
  (perm.pairwise_iff fun notRivals rivals => notRivals rivals.symm).mpr
    (List.pairwise_cons.mpr ⟨new, apart⟩)

theorem Booked.existing_none (booked : s.Booked) {command : SchedulerCommand}
    (free : s.existing command = none) :
    (∀ name ∈ [command.monitorId], s.queuedByMonitor name = none) ∧
      (∀ key ∈ command.stationKeyIds, s.queuedByKey key = none) ∧
      ∀ e ∈ s.live, ∀ executionId, ¬ Rivals ⟨executionId, command⟩ e := by
  obtain ⟨monitor, keys⟩ := Option.or_eq_none_iff.mp free
  obtain ⟨queued, active⟩ := Option.or_eq_none_iff.mp monitor
  have keys := List.findSome?_eq_none_iff.mp keys
  refine ⟨by simpa using queued, fun key carried => (Option.or_eq_none_iff.mp (keys key carried)).1,
    ?_⟩
  rintro e mem executionId (same | ⟨key, carried, carried'⟩)
  · rcases List.mem_append.mp mem with mem | mem
    · exact booked.queuedMonitors.none_iff.mp queued e mem (List.mem_singleton.mpr same)
    · exact booked.activeMonitors.none_iff.mp active e mem (List.mem_singleton.mpr same)
  · obtain ⟨queued, active⟩ := Option.or_eq_none_iff.mp (keys key carried)
    rcases List.mem_append.mp mem with mem | mem
    · exact booked.queuedKeys.none_iff.mp queued e mem carried'
    · exact booked.activeKeys.none_iff.mp active e mem carried'

theorem Booked.admitCommand (booked : s.Booked) (command : SchedulerCommand) :
    (s.admitCommand command).2.Booked := by
  unfold RuntimeState.admitCommand
  split
  · exact booked
  rename_i admitting
  split
  · exact booked
  rename_i free
  split
  · exact { booked with }
  obtain ⟨monitor, keys, new⟩ := booked.existing_none free
  let e : Execution := ⟨executionIdOf command s.nextExecutionOrdinal, command⟩
  have perm : ((s.queue ++ [e]) ++ s.active).Perm (e :: s.live) := by
    rw [List.append_assoc]
    exact List.perm_middle
  exact { booked with
    named := fun a mem => by
      rcases List.mem_cons.mp (perm.mem_iff.mp mem) with rfl | mem
      · exact ⟨_, rfl⟩
      · exact booked.named a mem
    apart := apart_cons perm booked.apart fun a mem => new a mem _
    queuedMonitors := booked.queuedMonitors.concat monitor (r := e)
    queuedKeys := booked.queuedKeys.concat keys (r := e)
    shut := fun is => absurd is admitting }

/-- Nothing is started, when there are no permits for the front of the queue, or the front is. -/
theorem startNext_cases (s : RuntimeState) :
    (s.startNext.2 = s ∧ (∀ executionId command, s.startNext.1 ≠ .started executionId command) ∧
      ∀ front ∈ s.queue.head?, s.canAcquire front.command = false) ∨
      ∃ front rest, s.queue = front :: rest ∧ s.canAcquire front.command ∧
        s.startNext = (.started front.executionId front.command, s.startFront front rest) := by
  unfold startNext
  split
  · rename_i shut
    exact .inl ⟨rfl, nofun, by simp [shut.2]⟩
  split
  · rename_i empty
    exact .inl ⟨rfl, nofun, by simp [empty]⟩
  · rename_i front rest queued
    split
    · rename_i blocked
      exact .inl ⟨rfl, nofun, by simpa [queued] using blocked⟩
    · rename_i acquired
      exact .inr ⟨front, rest, queued, Bool.eq_true_of_not_eq_false acquired, rfl⟩

section Front
variable {front : Execution} {rest : List Execution}

theorem Booked.fresh_front (booked : s.Booked) (queued : s.queue = front :: rest) :
    lookup (·.executionId) s.active front.executionId = none := by
  have keyed := booked.keyed
  rw [live, queued] at keyed
  refine lookup_none.mpr fun e mem same => (List.nodup_cons.mp keyed).1 ?_
  exact List.mem_map.mpr ⟨e, List.mem_append_right rest mem, same⟩

theorem Booked.active_startFront (booked : s.Booked) (queued : s.queue = front :: rest) :
    (s.startFront front rest).active = s.active ++ [front] := by
  refine congrArg (· ++ [front]) (List.filter_eq_self.mpr fun e mem => ?_)
  exact decide_eq_true (lookup_none.mp (booked.fresh_front queued) e mem)

/-- No active execution has a key of the front. -/
theorem Booked.unused (booked : s.Booked) (queued : s.queue = front :: rest) {key : String}
    (carried : key ∈ front.keys) : s.keyInUse key = 0 := by
  have apart := booked.apart
  rw [live, queued] at apart
  rw [booked.keys]
  refine List.sum_eq_zero_iff_forall_eq_nat.mpr fun n mem => ?_
  obtain ⟨e, active, rfl⟩ := List.mem_map.mp mem
  refine List.count_eq_zero_of_not_mem fun carried' => ?_
  have notRivals := (List.pairwise_cons.mp apart).1 e (List.mem_append_right rest active)
  exact notRivals (.inr ⟨key, carried, carried'⟩)

theorem Booked.keyInUse_startFront (booked : s.Booked) (queued : s.queue = front :: rest)
    (key : String) : (s.startFront front rest).keyInUse key =
      if key ∈ front.keys then front.keys.count key else s.keyInUse key := by
  show front.keys.foldl bump s.keyInUse key = _
  rw [foldl_bump_apply]
  split
  · rename_i carried
    rw [booked.unused queued carried, Nat.zero_add]
  · rename_i notCarried
    rw [List.count_eq_zero_of_not_mem notCarried, Nat.add_zero]

theorem Booked.startFront (booked : s.Booked) (queued : s.queue = front :: rest)
    (acquired : s.canAcquire front.command) : (s.startFront front rest).Booked := by
  have active := booked.active_startFront queued
  have live : (s.startFront front rest).live = rest ++ (s.active ++ [front]) :=
    congrArg (rest ++ ·) active
  have perm : (rest ++ (s.active ++ [front])).Perm s.live := by
    rw [← List.append_assoc, RuntimeState.live, queued]
    exact List.perm_append_singleton ..
  obtain ⟨global, station, -⟩ := of_decide_eq_true acquired
  have queue : s.queue.filter (·.executionId ≠ front.executionId) = rest := by
    have keyed := booked.keyed_queue
    rw [queued] at keyed ⊢
    rw [List.filter_cons_of_neg (by simp)]
    refine List.filter_eq_self.mpr fun e mem => decide_eq_true fun same => ?_
    exact (List.nodup_cons.mp keyed).1 (List.mem_map.mpr ⟨e, mem, same⟩)
  have inQueue : front ∈ s.queue := queued ▸ List.mem_cons_self ..
  have inLive : front ∈ s.live := List.mem_append_left _ inQueue
  have free {names : Execution → List String} {index : String → Option String}
      (indexed : Indexed (·.executionId) names s.active index)
      (rivals : ∀ a b name, name ∈ names a → name ∈ names b → Rivals a b) :
      ∀ name ∈ names front, index name = none := by
    refine fun name carried => indexed.none_iff.mpr fun e mem carried' => ?_
    have apart := booked.apart
    rw [RuntimeState.live, queued] at apart
    exact (List.pairwise_cons.mp apart).1 e (List.mem_append_right rest mem)
      (rivals front e name carried carried')
  have counted (station : String) : (s.startFront front rest).stationInUse station =
      (s.startFront front rest).active.countP (·.command.stationId = station) := by
    rw [active, List.countP_append, List.countP_singleton, ← booked.stations]
    show bump s.stationInUse front.command.stationId station = _
    by_cases here : station = front.command.stationId
    · rw [here, bump, Function.update_self, if_pos (decide_eq_true rfl)]
    · rw [bump, Function.update_of_ne here, if_neg (by simpa using Ne.symm here), Nat.add_zero]
  exact {
    named := fun e mem => booked.named e (perm.mem_iff.mp (live ▸ mem))
    apart := by
      rw [live]
      exact (perm.pairwise_iff fun notRivals rivals => notRivals rivals.symm).mpr booked.apart
    queuedMonitors := by
      have removed := booked.queuedMonitors.remove booked.keyed_queue inQueue
      rwa [queue] at removed
    queuedKeys := by
      have removed := booked.queuedKeys.remove booked.keyed_queue inQueue
      rwa [queue] at removed
    activeMonitors := by
      rw [active]
      refine booked.activeMonitors.concat (free booked.activeMonitors fun a b name is is' => ?_)
      exact .inl ((List.mem_singleton.mp is).symm.trans (List.mem_singleton.mp is'))
    activeKeys := by
      rw [active]
      exact booked.activeKeys.concat (free booked.activeKeys fun a b name is is' =>
        .inr ⟨name, is, is'⟩)
    stations := counted
    keys := fun key => by
      rw [active, List.map_append, List.sum_append, ← booked.keys]
      show front.keys.foldl bump s.keyInUse key = _
      rw [foldl_bump_apply, List.map_singleton, List.sum_singleton]
    global := by
      rw [active, List.length_append]
      exact global
    station := fun station' => by
      show bump s.stationInUse front.command.stationId station' ≤ _
      by_cases here : station' = front.command.stationId
      · rw [here, bump, Function.update_self]
        exact station
      · rw [bump, Function.update_of_ne here]
        exact booked.station station'
    shut := fun is => absurd (booked.shut is) (by simp [queued]) }

end Front

theorem Booked.release (booked : s.Booked) (executionId : String) (interrupted : Bool) :
    (s.release executionId interrupted).Booked := by
  unfold RuntimeState.release
  split
  · exact booked
  rename_i e found
  obtain ⟨mem, rfl⟩ := lookup_some found
  have keyed := booked.keyed_active
  have perm := perm_cons_filter keyed mem
  have sub : (s.queue ++ s.active.filter (·.executionId ≠ e.executionId)).Sublist s.live :=
    (List.Sublist.refl _).append List.filter_sublist
  have counted (station : String) : lower s.stationInUse e.command.stationId station =
      (s.active.filter (·.executionId ≠ e.executionId)).countP (·.command.stationId = station) := by
    have total := booked.stations station
    rw [perm.countP_eq, List.countP_cons] at total
    by_cases here : station = e.command.stationId
    · rw [if_pos (decide_eq_true here.symm)] at total
      rw [← here, lower_self, total, Nat.add_sub_cancel]
    · rw [if_neg (by simpa using Ne.symm here), Nat.add_zero] at total
      rw [lower_of_ne here, total]
  exact { booked with
    named := fun a live => booked.named a (sub.subset live)
    apart := booked.apart.sublist sub
    activeMonitors := booked.activeMonitors.remove keyed mem
    activeKeys := booked.activeKeys.remove keyed mem
    stations := counted
    keys := fun key => by
      have total := booked.keys key
      rw [(perm.map _).sum_nat, List.map_cons, List.sum_cons] at total
      show e.keys.foldl lower s.keyInUse key = _
      rw [foldl_lower_apply, total, Nat.add_sub_cancel_left]
    global := (List.length_filter_le ..).trans booked.global
    station := fun station => by
      show lower s.stationInUse e.command.stationId station ≤ _
      have below := booked.station station
      by_cases here : station = e.command.stationId
      · rw [here, lower_self, ← here]
        exact (Nat.sub_le ..).trans below
      · rw [lower_of_ne here]
        exact below }

theorem Booked.shutdownBegin (booked : s.Booked) : s.shutdownBegin.Booked := by
  have sub : ([] ++ s.active).Sublist s.live := List.sublist_append_right ..
  exact { booked with
    named := fun e mem => booked.named e (sub.subset mem)
    apart := booked.apart.sublist sub
    queuedMonitors := .empty
    queuedKeys := .empty
    shut := fun _ => rfl }

end RuntimeState

/-! ### Steps -/

namespace MonitoringRuntime

/-- What has been started has been released once, or it is active. -/
def Once (runtime : MonitoringRuntime) : Prop :=
  ∀ executionId, runtime.started.count executionId = runtime.released.count executionId +
    (runtime.state.active.map (·.executionId)).count executionId

/-- No key is in use more often than its limit allows. -/
def KeyLimit (runtime : MonitoringRuntime) : Prop :=
  ∀ key, runtime.state.keyInUse key ≤ runtime.state.limits.keyConcurrency

structure Accounted (runtime : MonitoringRuntime) : Prop where
  booked : runtime.state.Booked
  once : runtime.Once
  keyLimit : runtime.KeyLimit

/-- The action starts a command that names a key more often than its limit allows. -/
def OverNames (runtime : MonitoringRuntime) : RuntimeAction → Prop
  | .startNext => ∃ front ∈ runtime.state.queue.head?, runtime.state.canAcquire front.command ∧
      ∃ key ∈ front.command.stationKeyIds,
        runtime.state.limits.keyConcurrency < front.command.stationKeyIds.count key
  | _ => False

/-- The books are right after the action, and nothing is let in after the shutdown. -/
structure StepAccounted (runtime : MonitoringRuntime) (action : RuntimeAction) : Prop where
  accounted : (runtime.step action).Accounted
  shut : runtime.state.admitting = false →
    (runtime.step action).state.admitting = false ∧ (runtime.step action).state.queue = [] ∧
      (runtime.step action).started = runtime.started ∧
      ∀ command, runtime.state.admitCommand command = (.shuttingDown, runtime.state)

variable {runtime : MonitoringRuntime}

/-- What an action does to the state and to the record. -/
inductive Moves (runtime : MonitoringRuntime) :
    RuntimeAction → RuntimeState → List String → List String → Prop
  | kept {action} (within : ¬ runtime.OverNames action) :
    Moves runtime action runtime.state runtime.started runtime.released
  | admitted (command) :
    Moves runtime (.admitCommand command) (runtime.state.admitCommand command).2
      runtime.started runtime.released
  | started {front rest} (queued : runtime.state.queue = front :: rest)
      (acquired : runtime.state.canAcquire front.command) :
    Moves runtime .startNext (runtime.state.startFront front rest)
      (front.executionId :: runtime.started) runtime.released
  | released {action} (within : ¬ runtime.OverNames action) (executionId interrupted) :
    Moves runtime action (runtime.state.release executionId interrupted) runtime.started
      (runtime.release executionId interrupted).released
  | shut : Moves runtime .shutdownBegin runtime.state.shutdownBegin runtime.started runtime.released

theorem step_moves (runtime : MonitoringRuntime) (action : RuntimeAction) :
    Moves runtime action (runtime.step action).state (runtime.step action).started
      (runtime.step action).released := by
  cases action with
  | admitCommand command => exact .admitted command
  | startNext =>
    dsimp only [step]
    rcases runtime.state.startNext_cases with
      ⟨same, idle, blocked⟩ | ⟨front, rest, queued, acquired, is⟩
    · split
      · rename_i executionId command state is
        exact absurd (congrArg Prod.fst is) (idle executionId command)
      · rename_i state _ is
        obtain rfl : runtime.state = state := by rw [← same, is]
        refine .kept fun beyond => ?_
        obtain ⟨front, first, acquired, -⟩ := beyond
        exact Bool.false_ne_true ((blocked front first).symm.trans acquired)
    · rw [is]
      exact .started queued acquired
  | guard executionId =>
    have within : ¬ runtime.OverNames (.guard executionId) := fun beyond => beyond
    dsimp only [step]
    split <;> exact .kept within
  | letGo executionId =>
    have within : ¬ runtime.OverNames (.letGo executionId) := fun beyond => beyond
    dsimp only [step]
    split
    · exact .released within executionId false
    · exact .kept within
  | shutdownBegin => exact .shut
  | interruptRunning => exact .kept fun beyond => beyond
  | interruptNext interruption =>
    have within : ¬ runtime.OverNames (.interruptNext interruption) := fun beyond => beyond
    dsimp only [step]
    split
    · exact .released within _ true
    · exact .kept within

variable {action : RuntimeAction} {state : RuntimeState} {started released : List String}

theorem Moves.booked (moves : Moves runtime action state started released)
    (booked : runtime.state.Booked) : state.Booked := by
  cases moves with
  | kept within => exact booked
  | admitted command => exact booked.admitCommand command
  | started queued acquired => exact booked.startFront queued acquired
  | released within executionId interrupted => exact booked.release executionId interrupted
  | shut => exact booked.shutdownBegin

theorem admit_permits (s : RuntimeState) (command : SchedulerCommand) :
    (s.admitCommand command).2.active = s.active ∧ (s.admitCommand command).2.keyInUse = s.keyInUse ∧
      (s.admitCommand command).2.limits = s.limits := by
  unfold RuntimeState.admitCommand
  split
  · exact ⟨rfl, rfl, rfl⟩
  split
  · exact ⟨rfl, rfl, rfl⟩
  split <;> exact ⟨rfl, rfl, rfl⟩

theorem Moves.once (moves : Moves runtime action state started released)
    (booked : runtime.state.Booked) (once : runtime.Once) (executionId : String) :
    started.count executionId = released.count executionId +
      (state.active.map (·.executionId)).count executionId := by
  cases moves with
  | kept within => exact once executionId
  | admitted command =>
    rw [(admit_permits runtime.state command).1]
    exact once executionId
  | @started front rest queued acquired =>
    rw [booked.active_startFront queued, List.map_append, List.count_append, List.map_singleton,
      List.count_cons, List.count_singleton, once executionId]
    exact Nat.add_assoc ..
  | released within released interrupted =>
    unfold release RuntimeState.release RuntimeState.isActive
    cases found : lookup (·.executionId) runtime.state.active released with
    | none => exact once executionId
    | some e =>
      obtain ⟨mem, rfl⟩ := lookup_some found
      have perm := (perm_cons_filter booked.keyed_active mem).map (·.executionId)
      have total := once executionId
      rw [perm.count_eq, List.map_cons, List.count_cons] at total
      simp only [Option.isSome_some, if_true, List.count_cons]
      omega
  | shut => exact once executionId

/-- Only a start that names a key too often exceeds the limit of a key. -/
theorem Moves.keyLimit_iff (moves : Moves runtime action state started released)
    (accounted : runtime.Accounted) :
    (∀ key, state.keyInUse key ≤ state.limits.keyConcurrency) ↔ ¬ runtime.OverNames action := by
  cases moves with
  | kept within => exact iff_of_true accounted.keyLimit within
  | admitted command =>
    obtain ⟨-, keyInUse, limits⟩ := admit_permits runtime.state command
    rw [keyInUse, limits]
    exact iff_of_true accounted.keyLimit fun beyond => beyond
  | @started front rest queued acquired =>
    have first : runtime.state.queue.head? = some front := by rw [queued]; rfl
    constructor
    · rintro within ⟨front', is, -, key, carried, beyond⟩
      obtain rfl := Option.some.inj (first.symm.trans is)
      have held := within key
      rw [accounted.booked.keyInUse_startFront queued, if_pos (show key ∈ front.keys from carried)]
        at held
      exact Nat.not_lt.mpr held beyond
    · intro within key
      rw [accounted.booked.keyInUse_startFront queued]
      split
      · rename_i carried
        exact Nat.not_lt.mp fun beyond => within ⟨front, first, acquired, key, carried, beyond⟩
      · exact accounted.keyLimit key
  | released within executionId interrupted =>
    refine iff_of_true (fun key => ?_) within
    have held := accounted.keyLimit key
    unfold RuntimeState.release
    split
    · exact held
    · rename_i e found
      show e.command.stationKeyIds.foldl lower runtime.state.keyInUse key ≤ _
      rw [foldl_lower_apply]
      exact (Nat.sub_le ..).trans held
  | shut => exact iff_of_true accounted.keyLimit fun beyond => beyond

theorem Moves.shut_down (moves : Moves runtime action state started released)
    (booked : runtime.state.Booked) (shut : runtime.state.admitting = false) :
    state.admitting = false ∧ started = runtime.started := by
  cases moves with
  | kept within => exact ⟨shut, rfl⟩
  | admitted command =>
    rw [RuntimeState.admitCommand, if_pos shut]
    exact ⟨shut, rfl⟩
  | started queued acquired => exact absurd (booked.shut shut) (by rw [queued]; nofun)
  | released within executionId interrupted =>
    unfold RuntimeState.release
    split <;> exact ⟨shut, rfl⟩
  | shut => exact ⟨rfl, rfl⟩

theorem stepAccounted_iff (accounted : runtime.Accounted) (action : RuntimeAction) :
    runtime.StepAccounted action ↔ ¬ runtime.OverNames action := by
  have moves := runtime.step_moves action
  refine ⟨fun right => (moves.keyLimit_iff accounted).mp right.accounted.keyLimit, fun within => ?_⟩
  have booked := moves.booked accounted.booked
  refine ⟨⟨booked, moves.once accounted.booked accounted.once,
    (moves.keyLimit_iff accounted).mpr within⟩, fun shut => ?_⟩
  obtain ⟨stays, same⟩ := moves.shut_down accounted.booked shut
  exact ⟨stays, booked.shut stays, same, fun command => if_pos shut⟩

theorem accounted_new (limits : MonitoringRuntimeLimits) : (new limits).Accounted where
  booked := .new limits
  once _ := rfl
  keyLimit _ := Nat.zero_le _

end MonitoringRuntime

/-! ### Runs -/

/-- Admissions, starts, guards that are finished or dropped, interruptions and the shutdown in
any order: the books are right and nothing is let in after the shutdown, exactly as long as no
command is started that names a key more often than the limit of keys allows. -/
theorem runtime_accounted_iff (limits : MonitoringRuntimeLimits) (actions : List RuntimeAction) :
    (MonitoringRuntime.new limits).Accounted ∧
        Along MonitoringRuntime.step MonitoringRuntime.StepAccounted (.new limits) actions ↔
      Along MonitoringRuntime.step (fun runtime action => ¬ runtime.OverNames action) (.new limits)
        actions := by
  have first := MonitoringRuntime.accounted_new limits
  have agree (runtime : MonitoringRuntime) (action : RuntimeAction) (_ : True)
      (accounted : runtime.Accounted) :
      runtime.StepAccounted action ↔ ¬ runtime.OverNames action :=
    MonitoringRuntime.stepAccounted_iff accounted action
  have preserved (runtime : MonitoringRuntime) (action : RuntimeAction) (_ : True)
      (accounted : runtime.Accounted) (within : ¬ runtime.OverNames action) :
      (runtime.step action).Accounted :=
    ((agree runtime action trivial accounted).mpr within).accounted
  exact (and_iff_right first).trans (along_iff agree preserved first fun _ _ => trivial)

/-- A command that names its key twice. -/
def sampleTwice : SchedulerCommand where
  monitorId := "monitor"
  stationId := "station"
  stationKeyIds := ["key", "key"]
  triggerKind := .scheduled
  dueAtMs := 0
  lagMs := 0
  scheduleRevision := 1

/-- The key is in use twice where one use is allowed. -/
theorem key_limit_exceeded :
    ¬ Along MonitoringRuntime.step MonitoringRuntime.StepAccounted (.new ⟨1, 1, 1, 1⟩)
      [.admitCommand sampleTwice, .startNext] := by
  rintro ⟨-, started, -⟩
  have held := started.accounted.keyLimit "key"
  revert held
  decide

end RelayPool.Monitoring
