import RelayPool.Collection.Coordinator
import RelayPool.Indexes
import RelayPool.Runs

/-! The coordinator admits within its limit and loses no wake-up (`coordinator_admits`).

The stations that are active are those of the live leases, and a call that waits without
having been woken does so because there is no room, or a call of `notify_waiters` is still to
be made (`Admitted`). A step of any call grants a lease, releases one, or leaves the leases as
they are, and each of the three keeps this. -/
namespace RelayPool.Collection
open Runs Table Indexes

variable {s s' : StationCollections} {lease : StationCollectionLease} {acquire : Acquire}
  {index : Nat} {phase : AcquirePhase}

theorem tryInsertStation_cases (state : StationCollectionCoordinatorState) (stationId : String) :
    tryInsertStation state stationId = .error .invalidStationId ∨
      (tryInsertStation state stationId = .ok (.alreadyRunning, state) ∧
        stationId ∈ state.activeStationIds) ∨
      (tryInsertStation state stationId = .ok (.atCapacity, state) ∧
        state.maxConcurrency ≤ state.activeStationIds.length) ∨
      (tryInsertStation state stationId = .ok (.acquired,
          { state with activeStationIds := state.activeStationIds ++ [stationId] }) ∧
        stationId ∉ state.activeStationIds ∧
        state.activeStationIds.length < state.maxConcurrency) := by
  unfold tryInsertStation
  split
  · exact .inl rfl
  split
  · rename_i active
    exact .inr (.inl ⟨rfl, active⟩)
  split
  · rename_i full
    exact .inr (.inr (.inl ⟨rfl, full⟩))
  · rename_i free room
    exact .inr (.inr (.inr ⟨rfl, free, Nat.not_le.mp room⟩))

namespace StationCollections

/-! ### What every step keeps -/

/-- What a step does to the leases: it leaves them, grants one or releases one. A call that
waits afterwards has waited before, or there is no room, or it is about to be woken. -/
inductive Change (s s' : StationCollections) : Prop
  | move (live : s'.live.Perm s.live)
      (active : s'.state.activeStationIds = s.state.activeStationIds)
      (granted : s'.granted = s.granted) (released : s'.released = s.released)
      (waits : ∀ acquire ∈ s'.acquires, acquire.phase = .waiting false →
        (acquire ∈ s.acquires ∧ s'.state.maxConcurrency = s.state.maxConcurrency ∧
          s'.notifying = s.notifying) ∨
        s'.state.maxConcurrency ≤ s.state.activeStationIds.length ∨ 0 < s'.notifying)
  | grant (stationId : String) (free : stationId ∉ s.state.activeStationIds)
      (room : s.state.activeStationIds.length < s.state.maxConcurrency)
      (live : s'.live.Perm (s.newLease stationId :: s.live))
      (state : s'.state =
        { s.state with activeStationIds := s.state.activeStationIds ++ [stationId] })
      (granted : s'.granted = s.granted ++ [s.newLease stationId])
      (released : s'.released = s.released) (notifying : s'.notifying = s.notifying)
      (waits : ∀ acquire ∈ s'.acquires, acquire.phase = .waiting false → acquire ∈ s.acquires)
  | release (lease : StationCollectionLease) (live : s.live.Perm (lease :: s'.live))
      (state : s'.state = { s.state with
        activeStationIds := s.state.activeStationIds.filter (· ≠ lease.stationId) })
      (granted : s'.granted = s.granted) (released : s'.released = s.released ++ [lease])
      (notifying : s'.notifying = s.notifying + 1)

theorem Change.refl (s : StationCollections) : Change s s :=
  .move (.refl _) rfl rfl rfl fun _ mem _ => .inl ⟨mem, rfl, rfl⟩

structure Admitted (s : StationCollections) : Prop where
  active : s.state.activeStationIds.Perm (s.live.map (·.stationId))
  unique : s.state.activeStationIds.Nodup
  granted : s.granted.Perm (s.live ++ s.released)
  numbered : s.granted.map (·.number) = List.range s.granted.length
  awake : ∀ acquire ∈ s.acquires, acquire.phase = .waiting false →
    s.state.maxConcurrency ≤ s.state.activeStationIds.length ∨ 0 < s.notifying

theorem Admitted.new (maxConcurrency : ℕ+) : Admitted (new maxConcurrency) where
  active := .refl _
  unique := List.nodup_nil
  granted := .refl _
  numbered := rfl
  awake _ mem := nomatch mem

theorem Admitted.of_change (admitted : s.Admitted) (change : Change s s') : s'.Admitted := by
  cases change with
  | move live active granted released waits =>
    refine ⟨?_, active ▸ admitted.unique, ?_, granted ▸ admitted.numbered,
      fun acquire mem phase => ?_⟩
    · exact active ▸ admitted.active.trans (live.map (·.stationId)).symm
    · rw [granted, released]
      exact admitted.granted.trans (live.symm.append_right _)
    · rw [active]
      rcases waits acquire mem phase with ⟨known, limit, notifying⟩ | awake
      · rw [limit, notifying]
        exact admitted.awake acquire known phase
      · exact awake
  | grant stationId free room live state granted released notifying waits =>
    have stations : (s'.live.map (·.stationId)).Perm (stationId :: s.live.map (·.stationId)) :=
      live.map (·.stationId)
    refine ⟨?_, ?_, ?_, ?_, fun acquire mem phase => ?_⟩
    · rw [state]
      exact (List.perm_append_singleton ..).trans ((admitted.active.cons _).trans stations.symm)
    · rw [state]
      exact ((List.perm_append_singleton ..).nodup_iff).mpr
        (List.nodup_cons.mpr ⟨free, admitted.unique⟩)
    · rw [granted, released]
      exact (List.perm_append_singleton ..).trans
        ((admitted.granted.cons _).trans (live.symm.append_right _))
    · rw [granted, List.map_append, admitted.numbered, List.length_append,
        List.length_singleton, List.range_succ]
      rfl
    · rw [state, notifying, List.length_append]
      rcases admitted.awake acquire (waits acquire mem phase) phase with full | pending
      · exact .inl (full.trans (Nat.le_add_right ..))
      · exact .inr pending
  | release lease live state granted released notifying =>
    have active := admitted.active.trans (live.map (·.stationId))
    have fresh : lease.stationId ∉ s'.live.map (·.stationId) :=
      (List.nodup_cons.mp (active.nodup_iff.mp admitted.unique)).1
    have others : (s'.live.map (·.stationId)).filter (· ≠ lease.stationId) =
        s'.live.map (·.stationId) :=
      List.filter_eq_self.mpr fun other mem => decide_eq_true fun same => fresh (same ▸ mem)
    refine ⟨?_, ?_, ?_, granted ▸ admitted.numbered, fun _ _ _ => ?_⟩
    · have filtered := active.filter (· ≠ lease.stationId)
      rw [List.map_cons, List.filter_cons_of_neg (by simp), others] at filtered
      rwa [state]
    · rw [state]
      exact admitted.unique.filter _
    · rw [granted, released, ← List.append_assoc]
      exact admitted.granted.trans ((live.append_right _).trans
        (List.perm_append_singleton lease (s'.live ++ s.released)).symm)
    · exact .inr (notifying ▸ Nat.succ_pos _)

theorem Admitted.stationId_mem (admitted : s.Admitted) (mem : lease ∈ s.live) :
    lease.stationId ∈ s.state.activeStationIds :=
  admitted.active.mem_iff.mpr (List.mem_map_of_mem mem)

theorem Admitted.keyed (admitted : s.Admitted) : Keyed (·.number) s.granted := by
  unfold Keyed
  rw [admitted.numbered]
  exact List.nodup_range

/-! ### The phase of one call -/

theorem mem_setPhase {other : Acquire} (mem : other ∈ (s.setPhase index acquire phase).acquires)
    (apart : phase ≠ .waiting false) (waiting : other.phase = .waiting false) :
    other ∈ s.acquires := by
  rcases List.mem_or_eq_of_mem_set mem with known | rfl
  · exact known
  · exact (apart waiting).elim

/-- The leases of the other calls. -/
theorem exists_leases_set {acquires : List Acquire} (found : acquires[index]? = some acquire) :
    ∃ others : List StationCollectionLease,
      (acquires.filterMap (·.lease?)).Perm (acquire.lease?.toList ++ others) ∧
      ∀ changed : Acquire, ((acquires.set index changed).filterMap (·.lease?)).Perm
        (changed.lease?.toList ++ others) := by
  have first (acquire : Acquire) (rest : List Acquire) : (acquire :: rest).filterMap (·.lease?) =
      acquire.lease?.toList ++ rest.filterMap (·.lease?) := by
    rw [List.filterMap_cons]
    split <;> rename_i lease? <;> rw [lease?] <;> rfl
  obtain ⟨inside, rfl⟩ := List.getElem?_eq_some_iff.mp found
  refine ⟨(acquires.eraseIdx index).filterMap (·.lease?), ?_, fun changed => ?_⟩
  · rw [← first]
    exact (List.getElem_cons_eraseIdx_perm inside).symm.filterMap (·.lease?)
  · rw [← first]
    exact (List.set_perm_cons_eraseIdx inside changed).filterMap (·.lease?)

/-- A call goes on without making or dropping a lease. -/
theorem Change.setPhase (found : s.acquires[index]? = some acquire)
    (kept : Acquire.lease? { acquire with phase } = acquire.lease?)
    (waits : phase = .waiting false →
      s.state.maxConcurrency ≤ s.state.activeStationIds.length) :
    Change s (s.setPhase index acquire phase) := by
  obtain ⟨others, before, after⟩ := exists_leases_set found
  refine .move (.append_right _ ((after _).trans ?_)) rfl rfl rfl fun other mem waiting => ?_
  · rw [kept]
    exact before.symm
  · rcases List.mem_or_eq_of_mem_set mem with known | rfl
    · exact .inl ⟨known, rfl, rfl⟩
    · exact .inr (.inl (waits waiting))

/-- A lease that is dropped has a station to release. -/
theorem Admitted.dropped (admitted : s.Admitted) (live : s.live.Perm (lease :: s'.live))
    (state : s'.state = s.state) (granted : s'.granted = s.granted)
    (released : s'.released = s.released) (notifying : s'.notifying = s.notifying) :
    Change s (s'.dropped lease) := by
  have active : lease.stationId ∈ s'.state.activeStationIds :=
    state ▸ admitted.stationId_mem (live.mem_iff.mpr (List.mem_cons_self ..))
  unfold StationCollections.dropped
  rw [if_pos active]
  refine .release lease live ?_ granted (congrArg (· ++ _) released)
    (congrArg (· + 1) notifying)
  dsimp only
  rw [state]

/-! ### Every step -/

/-- What a call may do next: go on without a lease, make one, drop it or return it. -/
theorem Admitted.advance (admitted : s.Admitted) (index : Nat) : Change s (s.advance index) := by
  unfold StationCollections.advance
  cases found : s.acquires[index]? with
  | none => exact .refl s
  | some acquire =>
    obtain ⟨stationId, cancellation, phase⟩ := acquire
    obtain ⟨others, before, after⟩ := exists_leases_set found
    cases phase with
    | looping =>
      dsimp only
      split
      · exact .setPhase found rfl nofun
      · exact .setPhase found rfl nofun
    | enabling => exact .setPhase found rfl nofun
    | checking notified =>
      dsimp only
      rcases tryInsertStation_cases s.state stationId with
        is | ⟨is, -⟩ | ⟨is, full⟩ | ⟨is, free, room⟩
      · rw [is]
        exact .setPhase found rfl nofun
      · rw [is]
        exact .setPhase found rfl nofun
      · rw [is]
        exact .setPhase found rfl fun _ => full
      · rw [is]
        have made := (after ⟨stationId, cancellation, .holding (s.newLease stationId)⟩).trans
          (List.Perm.cons (s.newLease stationId) before.symm)
        exact .grant stationId free room (made.append_right s.leases) rfl rfl rfl rfl
          fun other mem waiting => mem_setPhase mem nofun waiting
    | holding lease =>
      dsimp only
      split
      · have taken := before.trans (List.Perm.cons lease
          (after ⟨stationId, cancellation, .returned (.error .cancelled)⟩).symm)
        exact admitted.dropped (taken.append_right s.leases) rfl rfl rfl rfl
      · refine .move (.trans ?_ (before.symm.append_right s.leases)) rfl rfl rfl
          fun other mem waiting => .inl ⟨mem_setPhase mem nofun waiting, rfl, rfl⟩
        refine ((after _).append_right (s.leases ++ [lease])).trans ?_
        show (others ++ (s.leases ++ [lease])).Perm (lease :: (others ++ s.leases))
        rw [← List.append_assoc]
        exact List.perm_append_singleton ..
    | waiting notified =>
      cases notified with
      | true => exact .setPhase found rfl nofun
      | false => exact .refl s
    | dropped => exact .refl s
    | returned result => exact .refl s

theorem observeCancellation_change (s : StationCollections) (index : Nat) :
    Change s (s.observeCancellation index) := by
  unfold StationCollections.observeCancellation
  split
  · exact .refl s
  · rename_i acquire found
    obtain ⟨stationId, cancellation, phase⟩ := acquire
    dsimp only
    split
    · split
      · exact .setPhase found rfl nofun
      · exact .refl s
    · exact .refl s

theorem dropAcquire_change (s : StationCollections) (index : Nat) :
    Change s (s.dropAcquire index) := by
  unfold StationCollections.dropAcquire
  split
  · exact .refl s
  · rename_i acquire found
    obtain ⟨stationId, cancellation, phase⟩ := acquire
    dsimp only
    split
    · exact .setPhase found rfl nofun
    · exact .refl s

theorem tryAcquire_change (s : StationCollections) (stationId : String) :
    Change s (s.tryAcquire stationId).2 := by
  unfold StationCollections.tryAcquire
  rcases tryInsertStation_cases s.state stationId with is | ⟨is, -⟩ | ⟨is, -⟩ | ⟨is, free, room⟩
  · rw [is]
    exact .refl s
  · rw [is]
    exact .refl s
  · rw [is]
    exact .refl s
  · rw [is]
    refine .grant stationId free room ?_ rfl rfl rfl rfl fun _ mem _ => mem
    unfold live
    rw [← List.append_assoc]
    exact List.perm_append_singleton ..

theorem Admitted.dropLease (admitted : s.Admitted) (number : Nat) :
    Change s (s.dropLease number) := by
  unfold StationCollections.dropLease
  split
  · exact .refl s
  · rename_i lease found
    obtain ⟨mem, rfl⟩ := lookup_some found
    have keyed : Keyed (·.number) s.leases := by
      have all : Keyed (·.number) (s.live ++ s.released) :=
        (admitted.granted.map _).nodup_iff.mp admitted.keyed
      refine List.Nodup.sublist (List.Sublist.map _ ?_) all
      exact (List.sublist_append_right _ s.leases).trans (List.sublist_append_left _ s.released)
    refine admitted.dropped ?_ rfl rfl rfl rfl
    exact (List.Perm.append_left _ (perm_cons_filter keyed mem)).trans List.perm_middle

/-- After `notify_waiters` no call waits that has not been woken. -/
theorem woken (acquire : Acquire) : acquire.notify.phase ≠ .waiting false := by
  obtain ⟨stationId, cancellation, phase⟩ := acquire
  cases phase <;> nofun

theorem notifyWaiters_change (s : StationCollections) : Change s s.notifyWaiters := by
  unfold StationCollections.notifyWaiters
  split
  · exact .refl s
  · have kept (acquire : Acquire) : acquire.notify.lease? = acquire.lease? := by
      obtain ⟨stationId, cancellation, phase⟩ := acquire
      cases phase <;> rfl
    refine .move (.of_eq (congrArg (· ++ s.leases) ?_)) rfl rfl rfl fun acquire mem waiting => ?_
    · rw [List.filterMap_map]
      exact List.filterMap_congr fun acquire _ => kept acquire
    · obtain ⟨before, -, rfl⟩ := List.mem_map.mp mem
      exact (woken before waiting).elim

theorem Admitted.change (admitted : s.Admitted) (action : CoordinatorAction) :
    Change s (s.step action) := by
  cases action with
  | tryAcquire stationId => exact tryAcquire_change s stationId
  | acquire stationId cancellation =>
    refine .move ?_ rfl rfl rfl fun acquire mem waiting => ?_
    · exact .of_eq (congrArg (· ++ s.leases) (List.filterMap_append.trans (List.append_nil _)))
    · rcases List.mem_append.mp mem with known | started
      · exact .inl ⟨known, rfl, rfl⟩
      · obtain rfl := List.mem_singleton.mp started
        cases waiting
  | advance index => exact admitted.advance index
  | cancel cancellation => exact .move (.refl _) rfl rfl rfl fun _ mem _ => .inl ⟨mem, rfl, rfl⟩
  | observeCancellation index => exact observeCancellation_change s index
  | dropAcquire index => exact dropAcquire_change s index
  | setMaxConcurrency maxConcurrency =>
    show Change s (s.setMaxConcurrency maxConcurrency)
    unfold StationCollections.setMaxConcurrency
    split
    · exact .refl s
    · exact .move (.refl _) rfl rfl rfl fun _ _ _ => .inr (.inr (Nat.succ_pos _))
  | dropLease number => exact admitted.dropLease number
  | notifyWaiters => exact notifyWaiters_change s

theorem run_admitted (maxConcurrency : ℕ+) (actions : List CoordinatorAction) :
    (run StationCollections.step (StationCollections.new maxConcurrency) actions).Admitted :=
  run_invariant (fun _ action admitted => admitted.of_change (admitted.change action))
    (Admitted.new maxConcurrency) actions

end StationCollections

/-! ### Every interleaving -/

open StationCollections

/-- The stations that are active are those of the live leases, one for each; every lease that
was granted is live or has released its station once, and it was granted while there was room;
and where a call waits without having been woken and none is about to be, there is no room. -/
theorem coordinator_admits (maxConcurrency : ℕ+) (actions : List CoordinatorAction) :
    let s := run StationCollections.step (StationCollections.new maxConcurrency) actions
    s.state.activeStationIds.Perm (s.live.map (·.stationId)) ∧
      (s.live.map (·.stationId)).Nodup ∧
      s.granted.Perm (s.live ++ s.released) ∧ s.granted.Nodup ∧
      (∀ acquire ∈ s.acquires, acquire.phase = .waiting false →
        s.state.activeStationIds.length < s.state.maxConcurrency → 0 < s.notifying ∧
          ∀ other ∈ (s.step .notifyWaiters).acquires, other.phase ≠ .waiting false) ∧
      ∀ action,
        ((s.step action).granted = s.granted ∨
          ∃ lease, (s.step action).granted = s.granted ++ [lease] ∧
            lease.stationId ∉ s.state.activeStationIds ∧
            s.state.activeStationIds.length < s.state.maxConcurrency) ∧
        ((s.step action).released = s.released ∨
          ∃ lease ∈ s.live, (s.step action).released = s.released ++ [lease] ∧
            s.state.activeStationIds.Perm
              (lease.stationId :: (s.step action).state.activeStationIds) ∧
            (s.step action).notifying = s.notifying + 1) := by
  intro s
  have admitted : s.Admitted := run_admitted maxConcurrency actions
  have distinct : s.granted.Nodup := List.Nodup.of_map _ admitted.keyed
  refine ⟨admitted.active, admitted.active.nodup_iff.mp admitted.unique, admitted.granted,
    distinct, fun acquire mem waiting room => ?_, fun action => ?_⟩
  · have pending : 0 < s.notifying :=
      (admitted.awake acquire mem waiting).resolve_left (Nat.not_le.mpr room)
    refine ⟨pending, fun other mem' => ?_⟩
    have woken' : (s.step .notifyWaiters).acquires = s.acquires.map (·.notify) :=
      congrArg StationCollections.acquires (if_neg (Nat.ne_of_gt pending))
    rw [woken'] at mem'
    obtain ⟨before, -, rfl⟩ := List.mem_map.mp mem'
    exact woken before
  · have after := admitted.of_change (admitted.change action)
    cases admitted.change action with
    | move live active granted released waits => exact ⟨.inl granted, .inl released⟩
    | grant stationId free room live state granted released notifying waits =>
      exact ⟨.inr ⟨_, granted, free, room⟩, .inl released⟩
    | release lease live state granted released notifying =>
      refine ⟨.inl granted, .inr ⟨lease, live.mem_iff.mpr (List.mem_cons_self ..), released, ?_,
        notifying⟩⟩
      have stations : (s.live.map (·.stationId)).Perm
          (lease.stationId :: (s.step action).live.map (·.stationId)) := live.map (·.stationId)
      exact admitted.active.trans (stations.trans (after.active.symm.cons _))

end RelayPool.Collection
