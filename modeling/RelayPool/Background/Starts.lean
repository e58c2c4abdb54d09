import RelayPool.Background.Supervisor

/-! Starting tasks, one or many.

A task is started if it has a slot, is not active and no other active task has its
concurrency key (`startLocked_of_startable`). `tick` starts every ready task if and only
if each of them is startable and no two of them share a key (`startAll_ok_iff`); the
sweep that passes over the others says what it could have started. -/
namespace RelayPool.Background
open Table

namespace SupervisorInner
variable {inner : SupervisorInner} {id other : TaskId} {slot : TaskSlot} {nowMs : Nat}

/-- The task can be started now. -/
def startable (inner : SupervisorInner) (id : TaskId) : Bool :=
  match inner.slot? id with
  | none => false
  | some slot => !slot.isActive && slot.spec.concurrencyKey.all fun key => !inner.keyRunning id key

theorem startLocked_of_startable (can : inner.startable id) :
    inner.startLocked id nowMs = .ok (inner.spawn id nowMs, inner.nextRun) := by
  unfold startable at can
  unfold startLocked
  cases found : inner.slot? id with
  | none => simp [found] at can
  | some slot =>
    rw [found] at can
    obtain ⟨idle, free⟩ := Bool.and_eq_true _ _ ▸ can
    rw [Bool.not_eq_true'] at idle
    cases keyed : slot.spec.concurrencyKey with
    | none => simp [idle, keyed]
    | some key =>
      rw [keyed] at free
      have free : inner.keyRunning id key = false := by simpa using free
      simp [idle, keyed, free]

theorem startLocked_refused (nowMs : Nat) (cannot : inner.startable id = false) :
    ∃ error, inner.startLocked id nowMs = .error error := by
  unfold startable at cannot
  unfold startLocked
  cases found : inner.slot? id with
  | none => exact ⟨_, rfl⟩
  | some slot =>
    rw [found] at cannot
    cases active : slot.isActive with
    | true => exact ⟨.alreadyRunning id, by simp [active]⟩
    | false =>
      cases keyed : slot.spec.concurrencyKey with
      | none => simp [active, keyed] at cannot
      | some key =>
        have held : inner.keyRunning id key = true := by simpa [active, keyed] using cannot
        exact ⟨.concurrencyKeyRunning key, by simp [active, keyed, held]⟩

/-! ### Slots -/

theorem slot?_updateSlot (f : TaskSlot → TaskSlot) (same : ∀ slot, (f slot).id = slot.id)
    (k : TaskId) : (inner.updateSlot id f).slot? k =
      if k = id then (inner.slot? k).map f else inner.slot? k := by
  refine (lookup_updateWhere same).trans ?_
  show (inner.slot? k).map _ = _
  cases found : inner.slot? k with
  | none => split <;> rfl
  | some slot =>
    have isSlot : slot.id = k := (lookup_some found).2
    by_cases here : k = id
    · simp [here, isSlot ▸ here]
    · simp [here, isSlot]

theorem slot?_spawn (k : TaskId) : (inner.spawn id nowMs).slot? k =
    if k = id then (inner.slot? k).map (TaskSlot.started inner.nextRun inner.spawned nowMs)
    else inner.slot? k :=
  slot?_updateSlot (TaskSlot.started inner.nextRun inner.spawned nowMs) (fun _ => rfl) k

theorem keyed_spawn (keyed : Keyed TaskSlot.id inner.tasks) :
    Keyed TaskSlot.id (inner.spawn id nowMs).tasks :=
  keyed.updateWhere fun _ => rfl

theorem keyRunning_iff (keyed : Keyed TaskSlot.id inner.tasks) {key : String} :
    inner.keyRunning id key ↔ ∃ k slot, inner.slot? k = some slot ∧ k ≠ id ∧
      slot.spec.concurrencyKey = some key ∧ slot.isActive := by
  rw [keyRunning, List.any_eq_true]
  constructor
  · rintro ⟨slot, mem, held⟩
    obtain ⟨other, sameKey, active⟩ := of_decide_eq_true held
    exact ⟨slot.id, slot, keyed.lookup mem, other, sameKey, active⟩
  · rintro ⟨k, slot, found, other, sameKey, active⟩
    obtain ⟨mem, rfl⟩ := lookup_some found
    exact ⟨slot, mem, decide_eq_true ⟨other, sameKey, active⟩⟩

theorem startable_iff (keyed : Keyed TaskSlot.id inner.tasks) :
    inner.startable id ↔ ∃ slot, inner.slot? id = some slot ∧ slot.isActive = false ∧
      ∀ key, slot.spec.concurrencyKey = some key → ∀ k other, inner.slot? k = some other →
        k ≠ id → other.spec.concurrencyKey = some key → other.isActive = false := by
  unfold startable
  cases found : inner.slot? id with
  | none => simp
  | some slot =>
    rw [Bool.and_eq_true, Bool.not_eq_true']
    constructor
    · rintro ⟨idle, free⟩
      refine ⟨slot, rfl, idle, fun key isKey k other isSlot apart sameKey => ?_⟩
      rw [isKey, Option.all_some, Bool.not_eq_true'] at free
      refine Bool.eq_false_iff.mpr fun active => ?_
      rw [(keyRunning_iff keyed).mpr ⟨k, other, isSlot, apart, sameKey, active⟩] at free
      cases free
    · rintro ⟨_, isSlot, idle, free⟩
      cases isSlot
      refine ⟨idle, ?_⟩
      cases isKey : slot.spec.concurrencyKey with
      | none => rfl
      | some key =>
        rw [Option.all_some, Bool.not_eq_true', Bool.eq_false_iff]
        intro held
        obtain ⟨k, other, isSlot, apart, sameKey, active⟩ := (keyRunning_iff keyed).mp held
        exact Bool.eq_false_iff.mp (free key isKey k other isSlot apart sameKey) active

/-! ### Many starts -/

def key? (inner : SupervisorInner) (id : TaskId) : Option String :=
  (inner.slot? id).bind fun slot => slot.spec.concurrencyKey

/-- Two tasks have the same concurrency key. -/
def sharesKey (inner : SupervisorInner) (a b : TaskId) : Bool :=
  (inner.key? a).any fun key => inner.key? b = some key

theorem sharesKey_iff {a b : TaskId} : inner.sharesKey a b ↔
    ∃ slot slot' key, inner.slot? a = some slot ∧ inner.slot? b = some slot' ∧
      slot.spec.concurrencyKey = some key ∧ slot'.spec.concurrencyKey = some key := by
  simp only [sharesKey, key?, Option.any_eq_true, Option.bind_eq_some_iff, decide_eq_true_eq]
  constructor
  · rintro ⟨key, ⟨slot, first, isKey⟩, slot', second, isKey'⟩
    exact ⟨slot, slot', key, first, second, isKey, isKey'⟩
  · rintro ⟨slot, slot', key, first, second, isKey, isKey'⟩
    exact ⟨key, ⟨slot, first, isKey⟩, slot', second, isKey'⟩

theorem key?_spawn (k : TaskId) : (inner.spawn id nowMs).key? k = inner.key? k := by
  rw [key?, key?, slot?_spawn]
  split
  · cases inner.slot? k <;> rfl
  · rfl

theorem sharesKey_spawn {a b : TaskId} :
    (inner.spawn id nowMs).sharesKey a b = inner.sharesKey a b := by
  rw [sharesKey, sharesKey, key?_spawn, key?_spawn]

theorem startable_spawn (keyed : Keyed TaskSlot.id inner.tasks) (can : inner.startable id)
    (apart : other ≠ id) : (inner.spawn id nowMs).startable other ↔
      inner.startable other ∧ ¬ inner.sharesKey other id := by
  obtain ⟨begun, isBegun, -⟩ := (startable_iff keyed).mp can
  have unchanged : (inner.spawn id nowMs).slot? other = inner.slot? other :=
    (slot?_spawn other).trans (if_neg apart)
  have running : (inner.spawn id nowMs).slot? id =
      some (begun.started inner.nextRun inner.spawned nowMs) := by
    rw [slot?_spawn, if_pos rfl, isBegun]
    rfl
  rw [startable_iff (keyed_spawn keyed), startable_iff keyed, unchanged]
  constructor
  · rintro ⟨slot, found, idle, free⟩
    refine ⟨⟨slot, found, idle, fun key isKey k other' isSlot ne sameKey => ?_⟩, ?_⟩
    · by_cases here : k = id
      · subst here
        cases isBegun.symm.trans isSlot
        cases free key isKey k _ running ne sameKey
      · exact free key isKey k other' (((slot?_spawn k).trans (if_neg here)).trans isSlot) ne sameKey
    · intro shared
      obtain ⟨slot', begun', key, isSlot, isBegun', key', key''⟩ := sharesKey_iff.mp shared
      cases found.symm.trans isSlot
      cases isBegun.symm.trans isBegun'
      cases free key key' id _ running (Ne.symm apart) key''
  · rintro ⟨⟨slot, found, idle, free⟩, unshared⟩
    refine ⟨slot, found, idle, fun key isKey k other' isSlot ne sameKey => ?_⟩
    by_cases here : k = id
    · subst here
      cases running.symm.trans isSlot
      exact absurd (sharesKey_iff.mpr ⟨slot, begun, key, found, isBegun, isKey, sameKey⟩) unshared
    · exact free key isKey k other' (((slot?_spawn k).trans (if_neg here)).symm.trans isSlot) ne
        sameKey

/-- Like `startAll`, but a task that cannot be started is passed over. -/
def sweep (nowMs : Nat) : SupervisorInner → List TaskId → List TaskRunId →
    SupervisorInner × List TaskRunId
  | inner, [], started => (inner, started)
  | inner, id :: rest, started =>
    match inner.startLocked id nowMs with
    | .error _ => sweep nowMs inner rest started
    | .ok (inner, runId) => sweep nowMs inner rest (started ++ [runId])

theorem startAll_cons_startable {rest : List TaskId} {started : List TaskRunId}
    (can : inner.startable id) : startAll nowMs inner (id :: rest) started =
      startAll nowMs (inner.spawn id nowMs) rest (started ++ [inner.nextRun]) := by
  rw [startAll, startLocked_of_startable can]

theorem sweep_cons_startable {rest : List TaskId} {started : List TaskRunId}
    (can : inner.startable id) : sweep nowMs inner (id :: rest) started =
      sweep nowMs (inner.spawn id nowMs) rest (started ++ [inner.nextRun]) := by
  rw [sweep, startLocked_of_startable can]

/-- What starts every task starts what the sweep starts. -/
theorem sweep_of_startAll {inner' : SupervisorInner} {ids : List TaskId}
    {started runs : List TaskRunId} (all : startAll nowMs inner ids started = (inner', .ok runs)) :
    sweep nowMs inner ids started = (inner', runs) := by
  induction ids generalizing inner started with
  | nil =>
    cases all
    rfl
  | cons id rest ih =>
    cases can : inner.startable id with
    | true => exact (sweep_cons_startable can).trans (ih ((startAll_cons_startable can).symm.trans all))
    | false =>
      obtain ⟨error, refused⟩ := startLocked_refused nowMs can
      rw [startAll, refused] at all
      cases all

theorem length_le_sweep {ids : List TaskId} {started : List TaskRunId} :
    started.length ≤ (sweep nowMs inner ids started).2.length := by
  induction ids generalizing inner started with
  | nil => exact Nat.le_refl _
  | cons id rest ih =>
    rw [sweep]
    split
    · exact ih
    · refine Nat.le_trans ?_ ih
      simp

/-- The sweep starts something exactly if some task is startable to begin with. -/
theorem sweep_started_iff {ids : List TaskId} {started : List TaskRunId} :
    (sweep nowMs inner ids started).2 = started ↔ ∀ id ∈ ids, inner.startable id = false := by
  induction ids generalizing inner started with
  | nil => exact ⟨fun _ => List.forall_mem_nil _, fun _ => rfl⟩
  | cons id rest ih =>
    cases can : inner.startable id with
    | true =>
      refine ⟨fun same => ?_, fun none => ?_⟩
      · rw [sweep_cons_startable can] at same
        have longer := @length_le_sweep (inner.spawn id nowMs) nowMs rest (started ++ [inner.nextRun])
        rw [same, List.length_append, List.length_singleton] at longer
        omega
      · cases can.symm.trans (none id (List.mem_cons_self ..))
    | false =>
      obtain ⟨error, refused⟩ := startLocked_refused nowMs can
      rw [sweep, refused, List.forall_mem_cons]
      exact ih.trans (and_iff_right can).symm

theorem startAll_ok_iff {ids : List TaskId} {started : List TaskRunId}
    (keyed : Keyed TaskSlot.id inner.tasks) (distinct : ids.Nodup) :
    (∃ inner' runs, startAll nowMs inner ids started = (inner', .ok runs)) ↔
      (∀ id ∈ ids, inner.startable id) ∧ ids.Pairwise fun a b => ¬ inner.sharesKey b a := by
  induction ids generalizing inner started with
  | nil => exact ⟨fun _ => ⟨List.forall_mem_nil _, .nil⟩, fun _ => ⟨inner, started, rfl⟩⟩
  | cons id rest ih =>
    obtain ⟨fresh, distinct⟩ := List.nodup_cons.mp distinct
    cases can : inner.startable id with
    | false =>
      refine ⟨fun ⟨_, _, all⟩ => ?_, fun ⟨each, _⟩ => ?_⟩
      · obtain ⟨error, refused⟩ := startLocked_refused nowMs can
        rw [startAll, refused] at all
        cases all
      · cases can.symm.trans (each id (List.mem_cons_self ..))
    | true =>
      rw [startAll_cons_startable can, ih (keyed_spawn keyed) distinct,
        List.forall_mem_cons, List.pairwise_cons]
      have next (k : TaskId) (mem : k ∈ rest) : (inner.spawn id nowMs).startable k ↔
          inner.startable k ∧ ¬ inner.sharesKey k id :=
        startable_spawn keyed can fun same => fresh (same ▸ mem)
      have rest_iff : (rest.Pairwise fun a b => ¬ (inner.spawn id nowMs).sharesKey b a) ↔
          rest.Pairwise fun a b => ¬ inner.sharesKey b a := by
        simp only [sharesKey_spawn]
      rw [rest_iff]
      constructor
      · rintro ⟨each, apart⟩
        exact ⟨⟨can, fun k mem => ((next k mem).mp (each k mem)).1⟩,
          fun k mem => ((next k mem).mp (each k mem)).2, apart⟩
      · rintro ⟨⟨-, each⟩, unshared, apart⟩
        exact ⟨fun k mem => (next k mem).mpr ⟨each k mem, unshared k mem⟩, apart⟩

end SupervisorInner

end RelayPool.Background
