import RelayPool.Counters
import RelayPool.Routing.Coordinator
import RelayPool.Runs
import Mathlib.Data.List.Find

/-! The capacity registry shared by all requests.

A lease counts in every constraint of its request. `tryAcquire` raises the
counters one by one and takes back what it raised at the first full one; a lease
gives its constraints back once, at its release or when it is dropped. Calls hold
the registry's lock, so that any number of requests is one list of events.

While fewer leases are live than a counter can tell apart, each counter is the
number of live leases that hold its key, and a failed call leaves no trace
(`counts_kept`). A counter at its largest value is lowered by a failed call
without having been raised (`saturated_miss_lowers`). -/
namespace RelayPool.Routing
open Counters Runs

/-! ### The registry -/

/-- The counters are unsigned 32-bit words. -/
def counterMax : Nat := 2 ^ 32 - 1

structure CapacityLease where
  constraints : List CapacityConstraintKey
  released : Bool
deriving DecidableEq

/-- Without `runtime_max_overrides`, the limit of a constraint is the requested one. -/
def acquireConstraints (active : CapacityConstraintKey → Nat)
    (acquired : List CapacityConstraintKey) : List (CapacityConstraintKey × Nat) →
    Except CapacityAcquireFailure (List CapacityConstraintKey) × (CapacityConstraintKey → Nat)
  | [] => (.ok acquired, active)
  | (constraint, maxConcurrency) :: rest =>
    if 0 < maxConcurrency ∧ maxConcurrency ≤ active constraint then
      (.error ⟨constraint, active constraint, maxConcurrency⟩, lowerAll active acquired)
    else
      acquireConstraints (raise counterMax active constraint) (acquired ++ [constraint]) rest

structure CompositeCapacityRegistry where
  active : CapacityConstraintKey → Nat

namespace CompositeCapacityRegistry

def tryAcquire (registry : CompositeCapacityRegistry) (request : CompositeCapacityRequest) :
    Except CapacityAcquireFailure CapacityLease × CompositeCapacityRegistry :=
  let (answer, active) := acquireConstraints registry.active [] (orderedConstraints request)
  (answer.map fun acquired => ⟨acquired, false⟩, ⟨active⟩)

def rollback (registry : CompositeCapacityRegistry) (acquired : List CapacityConstraintKey) :
    CompositeCapacityRegistry := ⟨lowerAll registry.active acquired⟩

end CompositeCapacityRegistry

namespace CapacityLease

def release (lease : CapacityLease) (registry : CompositeCapacityRegistry) :
    CapacityLease × CompositeCapacityRegistry :=
  if lease.released then (lease, registry)
  else ({ lease with released := true }, registry.rollback lease.constraints)

def drop (lease : CapacityLease) (registry : CompositeCapacityRegistry) :
    CapacityLease × CompositeCapacityRegistry := lease.release registry

end CapacityLease

/-! ### Any number of requests -/

/-- The registry, and the leases handed out so far in the order of their acquisition. -/
structure CapacitySystem where
  registry : CompositeCapacityRegistry
  leases : List CapacityLease

inductive CapacityEvent
  | tryAcquire (request : CompositeCapacityRequest)
  | release (lease : Nat)
  | drop (lease : Nat)
deriving DecidableEq

namespace CapacitySystem

def initial : CapacitySystem := ⟨⟨fun _ => 0⟩, []⟩

def step (s : CapacitySystem) : CapacityEvent → CapacitySystem
  | .tryAcquire request =>
    match s.registry.tryAcquire request with
    | (.ok lease, registry) => ⟨registry, s.leases ++ [lease]⟩
    | (.error _, registry) => ⟨registry, s.leases⟩
  | .release i =>
    match s.leases[i]? with
    | some lease => ⟨(lease.release s.registry).2, s.leases.set i (lease.release s.registry).1⟩
    | none => s
  | .drop i =>
    match s.leases[i]? with
    | some lease => ⟨(lease.drop s.registry).2, s.leases.set i (lease.drop s.registry).1⟩
    | none => s

/-- The system after a history of events. -/
def after (events : List CapacityEvent) : CapacitySystem := run step initial events

/-- How many leases are acquired and not yet released. -/
def live (s : CapacitySystem) : Nat := s.leases.countP fun lease => !lease.released

/-- How many of them hold the key. -/
def holders (s : CapacitySystem) (key : CapacityConstraintKey) : Nat :=
  s.leases.countP fun lease => !lease.released && decide (key ∈ lease.constraints)

theorem holders_le_live (s : CapacitySystem) (key : CapacityConstraintKey) :
    s.holders key ≤ s.live :=
  List.countP_mono_left fun _ _ h => (Bool.and_eq_true_iff.mp h).1

end CapacitySystem

/-! ### One acquisition -/

theorem orderedConstraints_distinct (request : CompositeCapacityRequest) :
    ((orderedConstraints request).map (·.1)).Nodup := by
  unfold orderedConstraints
  cases request.halfOpenProbeId <;> simp

/-- Whether a constraint has no room. -/
def full (active : CapacityConstraintKey → Nat) (c : CapacityConstraintKey × Nat) : Bool :=
  decide (0 < c.2) && decide (c.2 ≤ active c.1)

theorem find_full_raise {active : CapacityConstraintKey → Nat} {key : CapacityConstraintKey}
    {constraints : List (CapacityConstraintKey × Nat)} (fresh : key ∉ constraints.map (·.1)) :
    constraints.find? (full (raise counterMax active key)) = constraints.find? (full active) := by
  refine List.find?_congr fun c hc => ?_
  have other : c.1 ≠ key := fun h => fresh (h ▸ List.mem_map_of_mem hc)
  simp only [full, raise_of_ne other]

/-- What an acquisition answers is decided by the counters it finds. -/
theorem acquireConstraints_answer (active : CapacityConstraintKey → Nat)
    (acquired : List CapacityConstraintKey) (constraints : List (CapacityConstraintKey × Nat))
    (distinct : (constraints.map (·.1)).Nodup) :
    (acquireConstraints active acquired constraints).1 =
      match constraints.find? (full active) with
      | some (constraint, maxConcurrency) =>
        .error ⟨constraint, active constraint, maxConcurrency⟩
      | none => .ok (acquired ++ constraints.map (·.1)) := by
  induction constraints generalizing active acquired with
  | nil => simp [acquireConstraints]
  | cons c rest ih =>
    obtain ⟨constraint, maxConcurrency⟩ := c
    obtain ⟨fresh, distinct⟩ := List.nodup_cons.mp distinct
    by_cases miss : 0 < maxConcurrency ∧ maxConcurrency ≤ active constraint
    · have hfull : full active (constraint, maxConcurrency) = true := by
        simpa [full] using miss
      rw [acquireConstraints, if_pos miss, List.find?_cons_of_pos hfull]
    · have hroom : ¬ full active (constraint, maxConcurrency) = true := by
        simpa [full] using miss
      rw [acquireConstraints, if_neg miss, List.find?_cons_of_neg hroom, ih _ _ distinct,
        find_full_raise fresh]
      cases hfind : rest.find? (full active) with
      | none => simp
      | some found =>
        have member := List.mem_map_of_mem (f := (·.1)) (List.mem_of_find?_eq_some hfind)
        have other : found.1 ≠ constraint := fun h => fresh (h ▸ member)
        simp only [raise_of_ne other]

theorem acquireConstraints_ok {active after : CapacityConstraintKey → Nat}
    {acquired keys : List CapacityConstraintKey}
    {constraints : List (CapacityConstraintKey × Nat)}
    (h : acquireConstraints active acquired constraints = (.ok keys, after)) :
    keys = acquired ++ constraints.map (·.1) ∧
      after = raiseAll counterMax active (constraints.map (·.1)) := by
  induction constraints generalizing active acquired with
  | nil =>
    simp only [acquireConstraints, Prod.mk.injEq, Except.ok.injEq] at h
    simp [h.1, h.2]
  | cons c rest ih =>
    obtain ⟨constraint, maxConcurrency⟩ := c
    rw [acquireConstraints] at h
    by_cases miss : 0 < maxConcurrency ∧ maxConcurrency ≤ active constraint
    · rw [if_pos miss] at h
      simp at h
    · rw [if_neg miss] at h
      obtain ⟨hkeys, hafter⟩ := ih h
      exact ⟨by simpa using hkeys, by simpa using hafter⟩

/-- A miss takes back what the acquisition has raised so far. -/
theorem acquireConstraints_error {base active after : CapacityConstraintKey → Nat}
    {acquired : List CapacityConstraintKey} {constraints : List (CapacityConstraintKey × Nat)}
    {failure : CapacityAcquireFailure} (room : ∀ key, base key < counterMax)
    (distinct : (acquired ++ constraints.map (·.1)).Nodup)
    (raised : active = raiseAll counterMax base acquired)
    (h : acquireConstraints active acquired constraints = (.error failure, after)) :
    after = base := by
  induction constraints generalizing active acquired with
  | nil => simp [acquireConstraints] at h
  | cons c rest ih =>
    obtain ⟨constraint, maxConcurrency⟩ := c
    rw [acquireConstraints] at h
    by_cases miss : 0 < maxConcurrency ∧ maxConcurrency ≤ active constraint
    · rw [if_pos miss] at h
      have undone : lowerAll active acquired = base := by
        rw [raised]
        refine lowerAll_raiseAll fun key => ?_
        have once := List.nodup_iff_count_le_one.mp (List.nodup_append.mp distinct).1 key
        have := room key
        omega
      rw [← undone]
      exact (Prod.mk.inj h).2.symm
    · rw [if_neg miss] at h
      refine ih ?_ ?_ h
      · simpa using distinct
      · rw [raised, raiseAll_concat]

namespace CompositeCapacityRegistry
variable {registry registry' : CompositeCapacityRegistry} {request : CompositeCapacityRequest}

/-- The registry answers as the coordinator's own account of it says. -/
theorem tryAcquire_answer (registry : CompositeCapacityRegistry)
    (request : CompositeCapacityRequest) :
    (registry.tryAcquire request).1 =
      (Routing.tryAcquire registry.active request).map fun acquired => ⟨acquired, false⟩ := by
  have answer := acquireConstraints_answer registry.active [] (orderedConstraints request)
    (orderedConstraints_distinct request)
  unfold CompositeCapacityRegistry.tryAcquire Routing.tryAcquire
  dsimp only
  rw [answer]
  rfl

theorem tryAcquire_ok {lease : CapacityLease}
    (h : registry.tryAcquire request = (.ok lease, registry')) :
    lease = ⟨(orderedConstraints request).map (·.1), false⟩ ∧
      registry'.active =
        raiseAll counterMax registry.active ((orderedConstraints request).map (·.1)) := by
  unfold CompositeCapacityRegistry.tryAcquire at h
  cases hacquire : acquireConstraints registry.active [] (orderedConstraints request) with
  | mk answer active =>
    rw [hacquire] at h
    cases answer with
    | error failure => simp [Except.map] at h
    | ok keys =>
      obtain ⟨rfl, rfl⟩ := acquireConstraints_ok hacquire
      simp only [Except.map, Prod.mk.injEq, Except.ok.injEq, List.nil_append] at h
      exact ⟨h.1.symm, congrArg active h.2.symm⟩

/-- A failed call changes no counter. -/
theorem tryAcquire_error {failure : CapacityAcquireFailure}
    (room : ∀ key, registry.active key < counterMax)
    (h : registry.tryAcquire request = (.error failure, registry')) : registry' = registry := by
  unfold CompositeCapacityRegistry.tryAcquire at h
  cases hacquire : acquireConstraints registry.active [] (orderedConstraints request) with
  | mk answer active =>
    rw [hacquire] at h
    cases answer with
    | ok keys => simp [Except.map] at h
    | error failure' =>
      have same : active = registry.active :=
        acquireConstraints_error room (orderedConstraints_distinct request) (raiseAll_nil ..).symm
          hacquire
      rw [same] at h
      exact (Prod.mk.inj h).2.symm

/-- A call that succeeds found room under every limit. -/
theorem room_of_ok {lease : CapacityLease} (h : (registry.tryAcquire request).1 = .ok lease)
    {c : CapacityConstraintKey × Nat} (hc : c ∈ orderedConstraints request) (limit : 0 < c.2) :
    registry.active c.1 < c.2 := by
  rw [tryAcquire_answer] at h
  unfold Routing.tryAcquire at h
  cases hfind : (orderedConstraints request).find? fun c =>
      decide (0 < c.2) && decide (c.2 ≤ registry.active c.1) with
  | some c => simp [hfind, Except.map] at h
  | none =>
    have none := List.find?_eq_none.mp hfind c hc
    simpa [limit] using none

end CompositeCapacityRegistry

theorem CapacityLease.release_released {lease : CapacityLease} (h : lease.released = true)
    (registry : CompositeCapacityRegistry) : lease.release registry = (lease, registry) := by
  rw [release, if_pos h]

theorem CapacityLease.release_live {lease : CapacityLease} (h : lease.released = false)
    (registry : CompositeCapacityRegistry) :
    lease.release registry =
      ({ lease with released := true }, registry.rollback lease.constraints) := by
  rw [release, h]
  rfl

namespace CapacitySystem

/-! ### One event -/

/-- The counters are the leases' own count, and a lease holds a constraint once. -/
structure Balanced (s : CapacitySystem) : Prop where
  counted : ∀ key, s.registry.active key = s.holders key
  distinct : ∀ lease ∈ s.leases, lease.constraints.Nodup

/-- The lease that a call would take still has room in every counter. -/
def HasRoom (s : CapacitySystem) : CapacityEvent → Prop
  | .tryAcquire _ => s.live < counterMax
  | .release _ | .drop _ => True

instance (s : CapacitySystem) : (e : CapacityEvent) → Decidable (s.HasRoom e)
  | .tryAcquire _ => inferInstanceAs (Decidable (s.live < counterMax))
  | .release _ | .drop _ => inferInstanceAs (Decidable True)

theorem Balanced.room {s : CapacitySystem} (h : s.Balanced) (few : s.live < counterMax)
    (key : CapacityConstraintKey) : s.registry.active key < counterMax := by
  rw [h.counted]
  exact (s.holders_le_live key).trans_lt few

theorem step_acquired {s : CapacitySystem} {request : CompositeCapacityRequest}
    {lease : CapacityLease} {registry : CompositeCapacityRegistry}
    (h : s.registry.tryAcquire request = (.ok lease, registry)) :
    s.step (.tryAcquire request) = ⟨registry, s.leases ++ [lease]⟩ := by
  simp only [step, h]

theorem step_missed {s : CapacitySystem} {request : CompositeCapacityRequest}
    {failure : CapacityAcquireFailure} {registry : CompositeCapacityRegistry}
    (h : s.registry.tryAcquire request = (.error failure, registry)) :
    s.step (.tryAcquire request) = ⟨registry, s.leases⟩ := by
  simp only [step, h]

/-- Giving a lease back, at its release or its drop. -/
def settle (s : CapacitySystem) (i : Nat) : CapacitySystem :=
  match s.leases[i]? with
  | some lease => ⟨(lease.release s.registry).2, s.leases.set i (lease.release s.registry).1⟩
  | none => s

theorem step_release (s : CapacitySystem) (i : Nat) : s.step (.release i) = s.settle i := rfl

theorem step_drop (s : CapacitySystem) (i : Nat) : s.step (.drop i) = s.settle i := rfl

theorem settle_released {s : CapacitySystem} {i : Nat} {lease : CapacityLease}
    (hlease : s.leases[i]? = some lease) (h : lease.released = true) : s.settle i = s := by
  obtain ⟨hi, rfl⟩ := List.getElem?_eq_some_iff.mp hlease
  unfold settle
  rw [hlease]
  dsimp only
  rw [CapacityLease.release_released h, List.set_getElem_self]

theorem settle_live {s : CapacitySystem} {i : Nat} {lease : CapacityLease}
    (hlease : s.leases[i]? = some lease) (h : lease.released = false) :
    s.settle i =
      ⟨s.registry.rollback lease.constraints, s.leases.set i { lease with released := true }⟩ := by
  unfold settle
  rw [hlease]
  dsimp only
  rw [CapacityLease.release_live h]

/-- A lease given back no longer counts under its constraints. -/
theorem holders_settle {s : CapacitySystem} {i : Nat} {lease : CapacityLease}
    (hlease : s.leases[i]? = some lease) (h : lease.released = false)
    (distinct : lease.constraints.Nodup) (key : CapacityConstraintKey) :
    (s.settle i).holders key + lease.constraints.count key = s.holders key := by
  obtain ⟨hi, hget⟩ := List.getElem?_eq_some_iff.mp hlease
  have counted : lease.constraints.count key =
      if (!lease.released && decide (key ∈ lease.constraints)) = true then 1 else 0 := by
    rw [distinct.count, h]
    simp
  have least : (if (!lease.released && decide (key ∈ lease.constraints)) = true then 1 else 0) ≤
      s.holders key := by
    split
    · rename_i holds
      exact List.countP_pos_iff.mpr ⟨lease, List.mem_of_getElem? hlease, holds⟩
    · exact Nat.zero_le _
  rw [settle_live hlease h, counted]
  unfold holders at least ⊢
  dsimp only
  rw [List.countP_set hi, hget]
  simp only [Bool.not_true, Bool.false_and, Bool.false_eq_true, if_false]
  omega

/-- A lease given back lowers each of its counters by one. -/
theorem settle_active {s : CapacitySystem} {i : Nat} {lease : CapacityLease}
    (hlease : s.leases[i]? = some lease) (h : lease.released = false)
    (key : CapacityConstraintKey) :
    (s.settle i).registry.active key = s.registry.active key - lease.constraints.count key := by
  rw [settle_live hlease h]
  exact lowerAll_apply ..

theorem Balanced.settle {s : CapacitySystem} (h : s.Balanced) (i : Nat) : (s.settle i).Balanced := by
  cases hlease : s.leases[i]? with
  | none =>
    have same : s.settle i = s := by
      unfold CapacitySystem.settle
      rw [hlease]
    rwa [same]
  | some lease =>
    by_cases released : lease.released = true
    · rwa [settle_released hlease released]
    · have hlive : lease.released = false := by simpa using released
      have distinct := h.distinct lease (List.mem_of_getElem? hlease)
      constructor
      · intro key
        have held := holders_settle hlease hlive distinct key
        have counted := h.counted key
        rw [settle_active hlease hlive]
        omega
      · intro lease' hmem
        rw [settle_live hlease hlive] at hmem
        rcases List.mem_or_eq_of_mem_set hmem with old | rfl
        · exact h.distinct lease' old
        · exact distinct

/-- A lease taken counts under each constraint of its request. -/
theorem Balanced.tryAcquire {s : CapacitySystem} (h : s.Balanced)
    (request : CompositeCapacityRequest) (few : s.live < counterMax) :
    (s.step (.tryAcquire request)).Balanced := by
  cases hacquire : s.registry.tryAcquire request with
  | mk answer registry =>
    cases answer with
    | error failure =>
      rw [step_missed hacquire, CompositeCapacityRegistry.tryAcquire_error (h.room few) hacquire]
      exact h
    | ok lease =>
      rw [step_acquired hacquire]
      obtain ⟨rfl, hactive⟩ := CompositeCapacityRegistry.tryAcquire_ok hacquire
      have distinct := orderedConstraints_distinct request
      constructor
      · intro key
        have counted := h.counted key
        have room := h.room few key
        have bounded : ∀ key, s.registry.active key ≤ counterMax := fun key =>
          (h.room few key).le
        show registry.active key = CapacitySystem.holders ⟨registry, _⟩ key
        rw [hactive, raiseAll_apply bounded, distinct.count]
        unfold holders at counted ⊢
        dsimp only
        rw [List.countP_append, List.countP_singleton]
        simp only [Bool.not_false, Bool.true_and, decide_eq_true_eq]
        split <;> omega
      · intro lease hmem
        rcases List.mem_append.mp hmem with old | new
        · exact h.distinct lease old
        · rw [List.mem_singleton.mp new]
          exact distinct

theorem Balanced.step {s : CapacitySystem} (h : s.Balanced) (e : CapacityEvent)
    (room : s.HasRoom e) : (s.step e).Balanced := by
  cases e with
  | tryAcquire request => exact h.tryAcquire request room
  | release i => exact h.settle i
  | drop i => exact h.settle i

theorem initial_balanced : initial.Balanced := ⟨fun _ => rfl, List.forall_mem_nil _⟩

/-! ### Histories of events -/

/-- A lease that has been given back stays so. -/
theorem step_released {s : CapacitySystem} {i : Nat} {lease : CapacityLease}
    (hlease : s.leases[i]? = some lease) (h : lease.released = true) (e : CapacityEvent) :
    (s.step e).leases[i]? = some lease := by
  have settled : ∀ j, (s.settle j).leases[i]? = some lease := by
    intro j
    by_cases hj : j = i
    · rw [hj, settle_released hlease h]
      exact hlease
    · unfold settle
      split
      · rw [List.getElem?_set_ne hj]
        exact hlease
      · exact hlease
  cases e with
  | tryAcquire request =>
    cases hacquire : s.registry.tryAcquire request with
    | mk answer registry =>
      cases answer with
      | error failure =>
        rw [step_missed hacquire]
        exact hlease
      | ok lease' =>
        rw [step_acquired hacquire]
        have hi := (List.getElem?_eq_some_iff.mp hlease).1
        show (s.leases ++ [lease'])[i]? = some lease
        rw [List.getElem?_append_left hi]
        exact hlease
  | release j => exact settled j
  | drop j => exact settled j

theorem run_released {s : CapacitySystem} {i : Nat} {lease : CapacityLease}
    (hlease : s.leases[i]? = some lease) (h : lease.released = true) (events : List CapacityEvent) :
    (run step s events).leases[i]? = some lease := by
  have preserved : ∀ (s : CapacitySystem) (e : CapacityEvent),
      s.leases[i]? = some lease → (s.step e).leases[i]? = some lease := fun _ e hs =>
    step_released hs h e
  exact run_invariant preserved hlease events

/-- The event gives lease `i` back. -/
def Settles (i : Nat) (e : CapacityEvent) : Prop := e = .release i ∨ e = .drop i

theorem step_of_settles {i : Nat} {e : CapacityEvent} (h : Settles i e) (s : CapacitySystem) :
    s.step e = s.settle i := by
  rcases h with rfl | rfl
  · exact s.step_release i
  · exact s.step_drop i

theorem after_concat (before : List CapacityEvent) (e : CapacityEvent) :
    after (before ++ [e]) = (after before).step e := run_concat ..

theorem after_append (before events : List CapacityEvent) :
    after (before ++ events) = run step (after before) events := run_append ..

theorem after_balanced {events : List CapacityEvent} (room : Along step HasRoom initial events) :
    (after events).Balanced := by
  have preserved : ∀ (s : CapacitySystem) (e : CapacityEvent), s.HasRoom e → s.Balanced →
      (s.step e).Balanced := fun _ e he h => h.step e he
  exact run_invariant_along preserved initial_balanced room

/-- What the registry keeps over a history of events, whatever the order. -/
structure CountsKept (events : List CapacityEvent) : Prop where
  counted : ∀ key, (after events).registry.active key = (after events).holders key
  /-- A failed call leaves every counter as it found it. -/
  untouched : ∀ before request rest failure, events = before ++ .tryAcquire request :: rest →
    ((after before).registry.tryAcquire request).1 = .error failure →
    ((after before).registry.tryAcquire request).2 = (after before).registry
  /-- A live lease is given back by its first release or drop, and by no later one. -/
  once : ∀ before first middle second rest i lease,
    events = before ++ first :: (middle ++ second :: rest) → Settles i first → Settles i second →
    (after before).leases[i]? = some lease → lease.released = false →
    (∀ key, (after (before ++ [first])).registry.active key +
      (if key ∈ lease.constraints then 1 else 0) = (after before).registry.active key) ∧
    (after (before ++ first :: (middle ++ [second]))).registry =
      (after (before ++ first :: middle)).registry
  /-- No call succeeds past a positive limit. -/
  limited : ∀ before request rest lease, events = before ++ .tryAcquire request :: rest →
    ((after before).registry.tryAcquire request).1 = .ok lease →
    ∀ c ∈ orderedConstraints request, 0 < c.2 → (after before).holders c.1 < c.2

theorem settles_lowers {s : CapacitySystem} (h : s.Balanced) {i : Nat} {lease : CapacityLease}
    {e : CapacityEvent} (settles : Settles i e) (hlease : s.leases[i]? = some lease)
    (hlive : lease.released = false) (key : CapacityConstraintKey) :
    (s.step e).registry.active key + (if key ∈ lease.constraints then 1 else 0) =
      s.registry.active key := by
  have distinct := h.distinct lease (List.mem_of_getElem? hlease)
  have held := holders_settle hlease hlive distinct key
  have counted := h.counted key
  rw [distinct.count] at held
  rw [step_of_settles settles, settle_active hlease hlive, distinct.count]
  omega

theorem settles_marks {s : CapacitySystem} {i : Nat} {lease : CapacityLease} {e : CapacityEvent}
    (settles : Settles i e) (hlease : s.leases[i]? = some lease) (hlive : lease.released = false) :
    (s.step e).leases[i]? = some { lease with released := true } := by
  rw [step_of_settles settles, settle_live hlease hlive]
  exact List.getElem?_set_self (List.getElem?_eq_some_iff.mp hlease).1

/-- Each counter is the number of live leases that hold its key. -/
theorem counts_kept (events : List CapacityEvent) (room : Along step HasRoom initial events) :
    CountsKept events where
  counted := (after_balanced room).counted
  untouched before request rest failure split missed := by
    subst split
    obtain ⟨past, few, -⟩ := along_append.mp room
    cases hacquire : (after before).registry.tryAcquire request with
    | mk answer registry =>
      rw [hacquire] at missed
      obtain rfl : answer = .error failure := missed
      exact CompositeCapacityRegistry.tryAcquire_error ((after_balanced past).room few) hacquire
  once before first middle second rest i lease split hfirst hsecond hlease hlive := by
    subst split
    obtain ⟨past, -⟩ := along_append.mp room
    refine ⟨fun key => ?_, ?_⟩
    · rw [after_concat]
      exact settles_lowers (after_balanced past) hfirst hlease hlive key
    · have marked := settles_marks hfirst hlease hlive
      have later := run_released marked rfl middle
      rw [← List.cons_append, ← List.append_assoc, after_concat, step_of_settles hsecond,
        after_append, run_cons, settle_released later rfl]
  limited before request rest lease split taken c hc limit := by
    subst split
    obtain ⟨past, -⟩ := along_append.mp room
    rw [← (after_balanced past).counted]
    exact CompositeCapacityRegistry.room_of_ok taken hc limit

/-! ### A saturated counter -/

def unlimitedRequest : CompositeCapacityRequest := ⟨"station", "key", none, 0, 0, 0⟩

def limitedRequest : CompositeCapacityRequest := ⟨"station", "key", none, 0, 1, 0⟩

/-- Two requests for one station key: the second fails, then the first lease is given
back, and its drop does nothing more. -/
theorem counts_kept_two :
    CountsKept [.tryAcquire limitedRequest, .tryAcquire limitedRequest, .release 0, .drop 0] :=
  counts_kept _ (by decide +kernel)

theorem tryAcquire_unlimited (registry : CompositeCapacityRegistry) :
    registry.tryAcquire unlimitedRequest =
      (.ok ⟨[.global, .stationAccount "station", .stationKey "key"], false⟩,
        ⟨raiseAll counterMax registry.active
          [.global, .stationAccount "station", .stationKey "key"]⟩) := rfl

theorem after_unlimited (n : Nat) :
    (after (List.replicate n (.tryAcquire unlimitedRequest))).registry.active .global =
        min n counterMax ∧
      (after (List.replicate n (.tryAcquire unlimitedRequest))).registry.active
        (.stationAccount "station") = min n counterMax := by
  induction n with
  | zero => exact ⟨(Nat.zero_min _).symm, (Nat.zero_min _).symm⟩
  | succ n ih =>
    obtain ⟨global, account⟩ := ih
    rw [List.replicate_succ', after_concat, step_acquired (tryAcquire_unlimited _)]
    simp only [raiseAll_cons, raiseAll_nil, raise, Function.update_apply, reduceCtorEq, if_false,
      if_true, global, account]
    omega

theorem live_le_length (events : List CapacityEvent) : (after events).live ≤ events.length := by
  have leases : (after events).leases.length ≤ events.length := by
    induction events using List.reverseRecOn with
    | nil => exact Nat.le_refl _
    | append_singleton before e ih =>
      rw [after_concat, List.length_append, List.length_singleton]
      refine le_trans ?_ (Nat.add_le_add_right ih 1)
      cases e with
      | tryAcquire request =>
        cases hacquire : (after before).registry.tryAcquire request with
        | mk answer registry =>
          cases answer with
          | error failure =>
            rw [step_missed hacquire]
            exact Nat.le_succ _
          | ok lease =>
            rw [step_acquired hacquire]
            exact (List.length_append ..).le
      | release i =>
        rw [step_release]
        unfold settle
        split
        · exact (List.length_set ..).le.trans (Nat.le_succ _)
        · exact Nat.le_succ _
      | drop i =>
        rw [step_drop]
        unfold settle
        split
        · exact (List.length_set ..).le.trans (Nat.le_succ _)
        · exact Nat.le_succ _
  exact List.countP_le_length.trans leases

/-- With a saturated counter, a miss further on takes back what it did not raise. -/
theorem tryAcquire_saturated {registry : CompositeCapacityRegistry}
    (account : registry.active (.stationAccount "station") = counterMax) :
    registry.tryAcquire limitedRequest =
      (.error ⟨.stationAccount "station", counterMax, 1⟩,
        ⟨lower (raise counterMax registry.active .global) .global⟩) := by
  have other : (CapacityConstraintKey.stationAccount "station") ≠ .global := by decide
  have limit : (0 : Nat) < 1 ∧ 1 ≤ counterMax := by decide
  unfold CompositeCapacityRegistry.tryAcquire orderedConstraints limitedRequest
  simp only [Option.map_none, Option.toList_none, List.nil_append, acquireConstraints,
    Nat.lt_irrefl, false_and, if_false, raise_of_ne other, account, if_pos limit]
  rfl

theorem lower_saturated {c : CapacityConstraintKey → Nat} {key : CapacityConstraintKey}
    (h : c key = counterMax) : lower (raise counterMax c key) key ≠ c := by
  intro same
  have once := congrFun same key
  have positive : 0 < counterMax := by decide
  rw [lower_self, raise_self] at once
  omega

theorem miss_lowers {s : CapacitySystem} (global : s.registry.active .global = counterMax)
    (account : s.registry.active (.stationAccount "station") = counterMax) :
    (s.registry.tryAcquire limitedRequest).1 = .error ⟨.stationAccount "station", counterMax, 1⟩ ∧
      (s.registry.tryAcquire limitedRequest).2.active ≠ s.registry.active := by
  rw [tryAcquire_saturated account]
  exact ⟨rfl, lower_saturated global⟩

theorem live_of_replicate {before rest : List CapacityEvent} {n : Nat} {e : CapacityEvent}
    (split : List.replicate n e = before ++ rest) : (after before).live ≤ n := by
  have whole := congrArg List.length split
  rw [List.length_replicate, List.length_append] at whole
  have live := live_le_length before
  omega

theorem miss_after_unlimited {n : Nat} (large : n = counterMax) :
    let s := after (List.replicate n (CapacityEvent.tryAcquire unlimitedRequest))
    (s.registry.tryAcquire limitedRequest).1 = .error ⟨.stationAccount "station", counterMax, 1⟩ ∧
      (s.registry.tryAcquire limitedRequest).2.active ≠ s.registry.active := by
  obtain ⟨global, account⟩ := after_unlimited n
  have saturated : min n counterMax = counterMax := large ▸ Nat.min_self _
  exact miss_lowers (global.trans saturated) (account.trans saturated)

/-- With 2³² − 1 live leases, a failed call lowers a counter. -/
theorem saturated_miss_lowers :
    let events := List.replicate (2 ^ 32 - 1) (CapacityEvent.tryAcquire unlimitedRequest)
    (∀ before rest, events = before ++ rest → (after before).live < 2 ^ 32) ∧
      ((after events).registry.tryAcquire limitedRequest).1 =
        .error ⟨.stationAccount "station", 2 ^ 32 - 1, 1⟩ ∧
      ((after events).registry.tryAcquire limitedRequest).2.active ≠
        (after events).registry.active := by
  refine ⟨fun before rest split => ?_, miss_after_unlimited rfl⟩
  exact Nat.lt_of_le_of_lt (live_of_replicate split) (by decide)

end CapacitySystem

end RelayPool.Routing
