import Mathlib.Data.List.Pairwise
import RelayPool.Background.Starts

/-! What the supervisor keeps, and when.

Two active tasks never share a concurrency key, `tick` never restarts a task more often
in a row than its policy allows, and a join records the run whose handle it took, along
every run of the calls. That a tick waits for the retry times it published, passes a busy
task over, and that nothing starts after the shutdown has begun holds exactly as long as
the calls are `orderly` (`scheduling_iff`). -/
namespace RelayPool.Background
open Table Runs

namespace SupervisorInner

/-- No two active tasks share a concurrency key. -/
def Exclusive (inner : SupervisorInner) : Prop :=
  ∀ a b slot slot' key, inner.slot? a = some slot → inner.slot? b = some slot' →
    slot.isActive → slot'.isActive → slot.spec.concurrencyKey = some key →
    slot'.spec.concurrencyKey = some key → a = b

/-- What starting some of the tasks in `idle` does. -/
structure Swept (idle : TaskSlot → Prop) (nowMs : Nat) (before after : SupervisorInner) : Prop where
  keyed : Keyed TaskSlot.id before.tasks → Keyed TaskSlot.id after.tasks
  slots : ∀ id, after.slot? id = before.slot? id ∨ ∃ slot runId task,
    before.slot? id = some slot ∧ idle slot ∧ before.spawned ≤ task ∧ task < after.spawned ∧
      after.slot? id = some (slot.started runId task nowMs)
  spawned : before.spawned ≤ after.spawned
  exclusive : Keyed TaskSlot.id before.tasks → before.Exclusive → after.Exclusive

section Sweeps
variable {idle : TaskSlot → Prop} {nowMs : Nat} {before between after : SupervisorInner}
  {id : TaskId}

theorem Swept.refl : Swept idle nowMs before before where
  keyed keyed := keyed
  slots _ := .inl rfl
  spawned := Nat.le_refl _
  exclusive _ exclusive := exclusive

theorem Swept.trans (inactive : ∀ slot, idle slot → slot.isActive = false)
    (first : Swept idle nowMs before between) (second : Swept idle nowMs between after) :
    Swept idle nowMs before after where
  keyed keyed := second.keyed (first.keyed keyed)
  slots id := by
    rcases second.slots id with same | ⟨slot, runId, task, found, isIdle, low, high, started⟩
    · rcases first.slots id with same' | ⟨slot, runId, task, found, isIdle, low, high, started⟩
      · exact .inl (same.trans same')
      · exact .inr ⟨slot, runId, task, found, isIdle, low, Nat.lt_of_lt_of_le high second.spawned,
          same.trans started⟩
    · rcases first.slots id with same' | ⟨slot', runId', task', -, -, -, -, started'⟩
      · exact .inr ⟨slot, runId, task, same'.symm.trans found, isIdle,
          Nat.le_trans first.spawned low, high, started⟩
      · cases found.symm.trans started'
        cases inactive _ isIdle
  spawned := Nat.le_trans first.spawned second.spawned
  exclusive keyed exclusive := second.exclusive (first.keyed keyed) (first.exclusive keyed exclusive)

theorem spawn_swept (keyed : Keyed TaskSlot.id before.tasks) (can : before.startable id)
    (isIdle : ∀ slot, before.slot? id = some slot → idle slot) :
    Swept idle nowMs before (before.spawn id nowMs) := by
  obtain ⟨slot, found, inactive, free⟩ := (startable_iff keyed).mp can
  have running : (before.spawn id nowMs).slot? id =
      some (slot.started before.nextRun before.spawned nowMs) := by
    rw [slot?_spawn, if_pos rfl, found]
    rfl
  have other {k : TaskId} (apart : k ≠ id) : (before.spawn id nowMs).slot? k = before.slot? k :=
    (slot?_spawn k).trans (if_neg apart)
  refine ⟨keyed_spawn, fun k => ?_, Nat.le_succ _, fun _ exclusive => ?_⟩
  · by_cases here : k = id
    · subst here
      exact .inr ⟨slot, _, _, found, isIdle slot found, Nat.le_refl _, Nat.lt_succ_self _, running⟩
    · exact .inl (other here)
  · -- the new run shares no key with an active task, so only old pairs can clash
    intro a b slotA slotB key isA isB activeA activeB keyA keyB
    by_cases hereA : a = id
    · by_cases hereB : b = id
      · exact hereA.trans hereB.symm
      · subst hereA
        cases running.symm.trans isA
        have idleB := free key keyA b slotB ((other hereB).symm.trans isB) hereB keyB
        cases idleB.symm.trans activeB
    · by_cases hereB : b = id
      · subst hereB
        cases running.symm.trans isB
        have idleA := free key keyB a slotA ((other hereA).symm.trans isA) hereA keyA
        cases idleA.symm.trans activeA
      · exact exclusive a b slotA slotB key ((other hereA).symm.trans isA)
          ((other hereB).symm.trans isB) activeA activeB keyA keyB

theorem startAll_swept (inactive : ∀ slot, idle slot → slot.isActive = false) {ids : List TaskId}
    {started : List TaskRunId} (keyed : Keyed TaskSlot.id before.tasks)
    (isIdle : ∀ id ∈ ids, ∀ slot, before.slot? id = some slot → slot.isActive = false → idle slot) :
    Swept idle nowMs before (startAll nowMs before ids started).1 := by
  induction ids generalizing before started with
  | nil => exact .refl
  | cons id rest ih =>
    cases can : before.startable id with
    | false =>
      obtain ⟨error, refused⟩ := startLocked_refused nowMs can
      rw [startAll, refused]
      exact .refl
    | true =>
      obtain ⟨slot, found, free⟩ := (startable_iff keyed).mp can
      rw [startAll_cons_startable can]
      have first : Swept idle nowMs before (before.spawn id nowMs) :=
        spawn_swept keyed can fun slot' found' => by
          cases found.symm.trans found'
          exact isIdle id (List.mem_cons_self ..) slot found free.1
      refine first.trans inactive (ih (keyed_spawn keyed) fun k mem slot' found' idle' => ?_)
      rw [slot?_spawn] at found'
      split at found'
      · obtain ⟨_, _, rfl⟩ := Option.map_eq_some_iff.mp found'
        cases idle'
      · exact isIdle k (List.mem_cons_of_mem id mem) slot' found' idle'

end Sweeps

theorem mem_ready (inner : SupervisorInner) (keyed : Keyed TaskSlot.id inner.tasks) {nowMs : Nat}
    {id : TaskId} : id ∈ inner.ready nowMs ↔
      ∃ slot, inner.slot? id = some slot ∧ slot.isReady nowMs := by
  rw [ready, List.mem_map]
  constructor
  · rintro ⟨slot, mem, rfl⟩
    obtain ⟨mem, isReady⟩ := List.mem_filter.mp mem
    exact ⟨slot, keyed.lookup mem, isReady⟩
  · rintro ⟨slot, found, isReady⟩
    obtain ⟨mem, rfl⟩ := lookup_some found
    exact ⟨slot, List.mem_filter.mpr ⟨mem, isReady⟩, rfl⟩

theorem isReady_inactive {slot : TaskSlot} {nowMs : Nat} (isReady : slot.isReady nowMs) :
    slot.isActive = false := by
  unfold TaskSlot.isReady at isReady
  split at isReady
  · rename_i retryAtMs backingOff
    rw [TaskSlot.isActive, backingOff]
    rfl
  · cases isReady

theorem tick_swept {inner : SupervisorInner} (keyed : Keyed TaskSlot.id inner.tasks) (nowMs : Nat) :
    Swept (fun slot => slot.isReady nowMs) nowMs inner (inner.tick nowMs).1 := by
  refine startAll_swept (fun slot => isReady_inactive) keyed fun id mem slot found _ => ?_
  obtain ⟨slot', found', isReady⟩ := (mem_ready inner keyed).mp mem
  cases found.symm.trans found'
  exact isReady

theorem ready_nodup {inner : SupervisorInner} (keyed : Keyed TaskSlot.id inner.tasks) (nowMs : Nat) :
    (inner.ready nowMs).Nodup :=
  keyed.filter _

end SupervisorInner

open SupervisorInner

namespace TaskSupervisor
variable (supervisor : TaskSupervisor)

/-! ### What the schedule promises -/

structure Safe : Prop where
  exclusive : supervisor.inner.Exclusive
  bounded : ∀ id slot, supervisor.inner.slot? id = some slot →
    supervisor.restarts id ≤ slot.spec.restartPolicy.maxRetries
  /-- A task whose run is awaited has not been started again. -/
  current : ∀ call ∈ supervisor.joining, ∀ slot, supervisor.inner.slot? call.id = some slot →
    slot.latest = some call.task ∧ slot.isActive

structure StepSafe (step : SupervisorStep) : Prop where
  after : (supervisor.step step).Safe
  waits : step.op = .tick → ∀ id slot, supervisor.inner.slot? id = some slot →
    startedBetween supervisor.inner (supervisor.step step).inner id →
    ∃ retryAtMs, slot.nextRetryAtMs = some retryAtMs ∧ retryAtMs ≤ step.nowMs
  /-- The ready tasks that can be started are started, and reported. -/
  sweeps : step.op = .tick → ∀ inner started,
    sweep step.nowMs supervisor.inner (supervisor.inner.ready step.nowMs) [] = (inner, started) →
    started ≠ [] → supervisor.inner.tick step.nowMs = (inner, .ok started)
  late : ∀ call result, step.op = .joined call result → ∀ id slot,
    supervisor.inner.slot? id = some slot → (supervisor.step step).inner.slot? id ≠ some slot →
    id = call.id ∧ slot.latest = some call.task
  stops : supervisor.shuttingDown → ∀ id,
    startedBetween supervisor.inner (supervisor.step step).inner id = false

/-- Every task that the tick finds ready can be started, beside the other ones, and the
retry time that its slot publishes has come. -/
def clear (nowMs : Nat) : Bool :=
  (supervisor.inner.ready nowMs).all fun id => supervisor.inner.startable id ∧
    ((supervisor.inner.slot? id).bind TaskSlot.nextRetryAtMs).any (· ≤ nowMs) ∧
    (supervisor.inner.ready nowMs).all fun other =>
      other = id ∨ ¬ supervisor.inner.sharesKey other id

/-- Nothing is started once the shutdown has begun, and a tick that could start a task finds
all the ready ones clear. -/
def orderly (step : SupervisorStep) : Bool :=
  match step.op with
  | .start id => supervisor.shuttingDown = false ∨ supervisor.inner.startable id = false
  | .tick => (∀ id ∈ supervisor.inner.ready step.nowMs, supervisor.inner.startable id = false) ∨
      supervisor.shuttingDown = false ∧ supervisor.clear step.nowMs
  | _ => true

/-! ### The invariant -/

/-- A backoff that is still to come counts as one more restart. -/
def pending (slot : TaskSlot) : Nat :=
  match slot.state with
  | .backingOff _ => 1
  | _ => 0

structure Kept : Prop where
  keyed : Keyed TaskSlot.id supervisor.inner.tasks
  calls : Keyed JoinCall.id supervisor.joining
  exclusive : supervisor.inner.Exclusive
  serial : ∀ id slot, supervisor.inner.slot? id = some slot → ∀ task, slot.latest = some task →
    task < supervisor.inner.spawned
  held : ∀ id slot, supervisor.inner.slot? id = some slot → ∀ task, slot.join = some task →
    slot.latest = some task ∧ slot.isActive ∧ lookup JoinCall.id supervisor.joining id = none
  current : ∀ call ∈ supervisor.joining, ∃ slot, supervisor.inner.slot? call.id = some slot ∧
    slot.latest = some call.task ∧ slot.isActive
  bounded : ∀ id slot, supervisor.inner.slot? id = some slot →
    supervisor.restarts id + pending slot ≤ slot.consecutiveFailures ∧
      supervisor.restarts id + pending slot ≤ slot.spec.restartPolicy.maxRetries
  unseen : ∀ id, supervisor.inner.slot? id = none → supervisor.restarts id = 0

variable {supervisor}

theorem Kept.awaited (kept : supervisor.Kept) {call : JoinCall} (mem : call ∈ supervisor.joining)
    {slot : TaskSlot} (found : supervisor.inner.slot? call.id = some slot) :
    slot.latest = some call.task ∧ slot.isActive := by
  obtain ⟨slot', found', awaited⟩ := kept.current call mem
  cases found.symm.trans found'
  exact awaited

theorem Kept.safe (kept : supervisor.Kept) : supervisor.Safe where
  exclusive := kept.exclusive
  bounded id slot found := Nat.le_trans (Nat.le_add_right _ _) (kept.bounded id slot found).2
  current _ mem _ found := kept.awaited mem found

theorem Kept.new : new.Kept where
  keyed := List.nodup_nil
  calls := List.nodup_nil
  exclusive _ _ _ _ _ found := by cases found
  serial _ _ found := by cases found
  held _ _ found := by cases found
  current _ mem := by cases mem
  bounded _ _ found := by cases found
  unseen _ _ := rfl

/-- Some idle tasks were started; `restarts` counts those that were backing off. -/
theorem Kept.swept {idle : TaskSlot → Prop} {nowMs : Nat} {after : SupervisorInner}
    {restarts : TaskId → Nat} (kept : supervisor.Kept)
    (inactive : ∀ slot, idle slot → slot.isActive = false)
    (swept : Swept idle nowMs supervisor.inner after)
    (same : ∀ id, after.slot? id = supervisor.inner.slot? id → restarts id = supervisor.restarts id)
    (counts : ∀ id slot, supervisor.inner.slot? id = some slot → idle slot →
      restarts id ≤ supervisor.restarts id + pending slot) :
    Kept { supervisor with inner := after, restarts } where
  keyed := swept.keyed kept.keyed
  calls := kept.calls
  exclusive := swept.exclusive kept.keyed kept.exclusive
  serial id slot found task latest := by
    rcases swept.slots id with same' | ⟨slot', runId, task', -, -, -, high, started⟩
    · exact Nat.lt_of_lt_of_le (kept.serial id slot (same'.symm.trans found) task latest)
        swept.spawned
    · cases started.symm.trans found
      cases latest
      exact high
  held id slot found task join := by
    rcases swept.slots id with same' | ⟨slot', runId, task', was, isIdle, -, -, started⟩
    · exact kept.held id slot (same'.symm.trans found) task join
    · cases started.symm.trans found
      cases join
      refine ⟨rfl, rfl, lookup_none.mpr fun call mem isCall => ?_⟩
      have active := (kept.awaited mem (isCall ▸ was)).2
      cases (inactive slot' isIdle).symm.trans active
  current call mem := by
    obtain ⟨slot, found, latest, active⟩ := kept.current call mem
    rcases swept.slots call.id with same' | ⟨slot', runId, task', was, isIdle, -, -, -⟩
    · exact ⟨slot, same'.trans found, latest, active⟩
    · cases found.symm.trans was
      cases (inactive slot isIdle).symm.trans active
  bounded id slot found := by
    rcases swept.slots id with same' | ⟨slot', runId, task', was, isIdle, -, -, started⟩
    · show restarts id + _ ≤ _ ∧ restarts id + _ ≤ _
      rw [same id same']
      exact kept.bounded id slot (same'.symm.trans found)
    · cases started.symm.trans found
      obtain ⟨failures, retries⟩ := kept.bounded id slot' was
      have counted := counts id slot' was isIdle
      exact ⟨Nat.le_trans counted failures, Nat.le_trans counted retries⟩
  unseen id absent := by
    rcases swept.slots id with same' | ⟨slot', runId, task', -, -, -, -, started⟩
    · exact (same id same').trans (kept.unseen id (same'.symm.trans absent))
    · cases started.symm.trans absent

theorem startedBetween_of_swept {idle : TaskSlot → Prop} {nowMs : Nat} {after : SupervisorInner}
    (kept : supervisor.Kept) (swept : Swept idle nowMs supervisor.inner after) {id : TaskId} :
    startedBetween supervisor.inner after id ↔ ∃ slot runId task,
      supervisor.inner.slot? id = some slot ∧ idle slot ∧
        after.slot? id = some (slot.started runId task nowMs) ∧
        supervisor.inner.spawned ≤ task := by
  rw [startedBetween, decide_eq_true_eq]
  constructor
  · intro differ
    rcases swept.slots id with same | ⟨slot, runId, task, was, isIdle, low, -, started⟩
    · exact absurd (congrArg (Option.bind · TaskSlot.latest) same.symm) differ
    · exact ⟨slot, runId, task, was, isIdle, started, low⟩
  · rintro ⟨slot, runId, task, was, -, started, low⟩ same
    rw [was, started] at same
    exact Nat.not_lt_of_le low (kept.serial id slot was task same)

/-- Rewriting the slot starts and ends nothing. -/
structure Alike (slot slot' : TaskSlot) : Prop where
  spec : slot'.spec = slot.spec
  active : slot'.isActive = slot.isActive
  latest : slot'.latest = slot.latest
  join : slot'.join = slot.join ∨ slot'.join = none
  failures : slot'.consecutiveFailures = slot.consecutiveFailures
  waiting : pending slot' = pending slot

theorem Alike.refl (slot : TaskSlot) : Alike slot slot := ⟨rfl, rfl, rfl, .inl rfl, rfl, rfl⟩

theorem alike_cancelled {slot : TaskSlot} (active : slot.isActive) : Alike slot slot.cancelled := by
  refine ⟨rfl, active.symm, rfl, .inl rfl, rfl, ?_⟩
  unfold pending
  split
  · rename_i stopping
    cases stopping
  · rename_i retryAtMs backingOff
    split
    · rename_i retryAtMs backingOff
      rw [TaskSlot.isActive, backingOff] at active
      cases active
    · rfl

theorem Kept.remap {after : SupervisorInner} {f : TaskSlot → TaskSlot} (kept : supervisor.Kept)
    (keyed : Keyed TaskSlot.id after.tasks) (spawned : after.spawned = supervisor.inner.spawned)
    (slots : ∀ id, after.slot? id = (supervisor.inner.slot? id).map f)
    (alike : ∀ id slot, supervisor.inner.slot? id = some slot → Alike slot (f slot))
    (shuttingDown : Bool) : Kept { supervisor with inner := after, shuttingDown } := by
  have old {id : TaskId} {slot : TaskSlot} (found : after.slot? id = some slot) :
      ∃ slot', supervisor.inner.slot? id = some slot' ∧ f slot' = slot :=
    Option.map_eq_some_iff.mp ((slots id).symm.trans found)
  refine ⟨keyed, kept.calls, fun a b slotA slotB key isA isB activeA activeB keyA keyB => ?_,
    fun id slot found task isLatest => ?_, fun id slot found task isJoin => ?_,
    fun call mem => ?_, fun id slot found => ?_, fun id absent => ?_⟩
  · obtain ⟨slotA, wasA, rfl⟩ := old isA
    obtain ⟨slotB, wasB, rfl⟩ := old isB
    rw [(alike a slotA wasA).active] at activeA
    rw [(alike b slotB wasB).active] at activeB
    rw [(alike a slotA wasA).spec] at keyA
    rw [(alike b slotB wasB).spec] at keyB
    exact kept.exclusive a b slotA slotB key wasA wasB activeA activeB keyA keyB
  · obtain ⟨slot, was, rfl⟩ := old found
    rw [(alike id slot was).latest] at isLatest
    exact Nat.lt_of_lt_of_eq (kept.serial id slot was task isLatest) spawned.symm
  · obtain ⟨slot, was, rfl⟩ := old found
    have isJoin : slot.join = some task := by
      rcases (alike id slot was).join with same | none
      · exact same.symm.trans isJoin
      · cases none.symm.trans isJoin
    rw [(alike id slot was).latest, (alike id slot was).active]
    exact kept.held id slot was task isJoin
  · obtain ⟨slot, was, latest, active⟩ := kept.current call mem
    refine ⟨f slot, (slots call.id).trans (by rw [was]; rfl), ?_, ?_⟩
    · rw [(alike call.id slot was).latest, latest]
    · rw [(alike call.id slot was).active, active]
  · obtain ⟨slot, was, rfl⟩ := old found
    rw [(alike id slot was).failures, (alike id slot was).spec, (alike id slot was).waiting]
    exact kept.bounded id slot was
  · exact kept.unseen id (Option.map_eq_none_iff.mp ((slots id).symm.trans absent))

theorem slot?_updateWhere {inner : SupervisorInner} {p : TaskSlot → Bool} {f : TaskSlot → TaskSlot}
    (same : ∀ slot, (f slot).id = slot.id) (id : TaskId) :
    lookup TaskSlot.id (updateWhere p f inner.tasks) id =
      (inner.slot? id).map fun slot => if p slot then f slot else slot :=
  lookup_updateWhere same

theorem Kept.cancel (kept : supervisor.Kept) {id : TaskId} {slot : TaskSlot}
    (found : supervisor.inner.slot? id = some slot) (active : slot.isActive) :
    Kept { supervisor with inner := supervisor.inner.updateSlot id TaskSlot.cancelled } := by
  have keyed : Keyed TaskSlot.id (supervisor.inner.updateSlot id TaskSlot.cancelled).tasks :=
    kept.keyed.updateWhere fun _ => rfl
  refine kept.remap keyed rfl
    (@slot?_updateWhere supervisor.inner (·.id = id) TaskSlot.cancelled fun _ => rfl)
    (fun k slot' found' => ?_) supervisor.shuttingDown
  split
  · rename_i here
    have here : slot'.id = id := of_decide_eq_true here
    cases (lookup_some found').2.symm.trans here
    cases found.symm.trans found'
    exact alike_cancelled active
  · exact .refl slot'

theorem Kept.stopAll (kept : supervisor.Kept) :
    Kept { supervisor with inner := supervisor.inner.stopAll, shuttingDown := true } := by
  have keyed : Keyed TaskSlot.id supervisor.inner.stopAll.tasks :=
    kept.keyed.updateWhere fun _ => rfl
  refine kept.remap keyed rfl
    (@slot?_updateWhere supervisor.inner TaskSlot.isActive TaskSlot.cancelled fun _ => rfl)
    (fun id slot _ => ?_) true
  split
  · rename_i active
    exact alike_cancelled active
  · exact .refl slot

theorem Kept.start (kept : supervisor.Kept) {id : TaskId} {nowMs : Nat}
    (can : supervisor.inner.startable id) :
    Kept { supervisor with inner := supervisor.inner.spawn id nowMs } := by
  obtain ⟨slot, found, inactive, -⟩ := (startable_iff kept.keyed).mp can
  exact kept.swept (fun _ idle => idle) (spawn_swept kept.keyed can fun slot' found' => by
    cases found.symm.trans found'
    exact inactive) (fun _ _ => rfl) fun _ _ _ _ => Nat.le_add_right _ _

theorem Kept.tick (kept : supervisor.Kept) (nowMs : Nat) : (supervisor.tick nowMs).Kept := by
  have swept := tick_swept kept.keyed nowMs
  refine kept.swept (fun slot => isReady_inactive) swept (fun id same => ?_)
    fun id slot found isReady => ?_
  · have unstarted : startedBetween supervisor.inner (supervisor.inner.tick nowMs).1 id = false :=
      decide_eq_false (not_not_intro (congrArg (Option.bind · TaskSlot.latest) same.symm))
    simp [unstarted]
  · have waiting : pending slot = 1 := by
      unfold TaskSlot.isReady at isReady
      split at isReady
      · rename_i retryAtMs backingOff
        simp only [pending, backingOff]
      · cases isReady
    rw [waiting]
    split <;> omega

theorem Kept.await (kept : supervisor.Kept) {call : JoinCall} {slot : TaskSlot}
    (found : supervisor.inner.slot? call.id = some slot) (latest : slot.latest = some call.task)
    (active : slot.isActive) (taken : slot.join = none)
    (fresh : lookup JoinCall.id supervisor.joining call.id = none) :
    Kept { supervisor with joining := supervisor.joining ++ [call] } where
  keyed := kept.keyed
  calls := kept.calls.concat fresh
  exclusive := kept.exclusive
  serial := kept.serial
  held id slot' found' task join := by
    obtain ⟨isLatest, isActive, unawaited⟩ := kept.held id slot' found' task join
    refine ⟨isLatest, isActive, (lookup_concat fresh).trans ((if_neg ?_).trans unawaited)⟩
    rintro rfl
    cases found.symm.trans found'
    cases taken.symm.trans join
  current other mem := by
    rcases List.mem_append.mp mem with mem | mem
    · exact kept.current other mem
    · cases List.mem_singleton.mp mem
      exact ⟨slot, found, latest, active⟩
  bounded := kept.bounded
  unseen := kept.unseen

theorem Kept.joinFinished (kept : supervisor.Kept) (id : TaskId) :
    (supervisor.joinFinished id).Kept := by
  unfold TaskSupervisor.joinFinished takeJoin
  cases found : supervisor.inner.slot? id with
  | none => exact kept
  | some slot =>
    cases isRun : slot.runId with
    | none =>
      simp only [isRun]
      exact kept
    | some runId =>
      cases isJoin : slot.join with
      | none =>
        simp only [isRun, isJoin]
        exact kept
      | some task =>
        simp only [isRun, isJoin]
        obtain ⟨latest, active, fresh⟩ := kept.held id slot found task isJoin
        have keyed : Keyed TaskSlot.id
            (supervisor.inner.updateSlot id ({ · with join := none })).tasks :=
          kept.keyed.updateWhere fun _ => rfl
        have taken : Kept { supervisor with
            inner := supervisor.inner.updateSlot id ({ · with join := none }) } := by
          refine kept.remap keyed rfl
            (@slot?_updateWhere supervisor.inner (·.id = id) ({ · with join := none }) fun _ => rfl)
            (fun k slot' _ => ?_) supervisor.shuttingDown
          split
          · exact ⟨rfl, rfl, rfl, .inr rfl, rfl, rfl⟩
          · exact .refl slot'
        have now : (supervisor.inner.updateSlot id ({ · with join := none })).slot? id =
            some { slot with join := none } := by
          rw [slot?_updateSlot ({ · with join := none }) fun _ => rfl, if_pos rfl, found]
          rfl
        have unawaited : lookup JoinCall.id supervisor.joining (⟨id, task, runId⟩ : JoinCall).id =
            none := fresh
        exact @Kept.await _ taken ⟨id, task, runId⟩ _ now latest active rfl unawaited

theorem Kept.forget (kept : supervisor.Kept) (call : JoinCall) :
    Kept { supervisor with joining := supervisor.joining.erase call } where
  keyed := kept.keyed
  calls := kept.calls.sublist (List.erase_sublist.map JoinCall.id)
  exclusive := kept.exclusive
  serial := kept.serial
  held id slot found task join := by
    obtain ⟨latest, active, unawaited⟩ := kept.held id slot found task join
    exact ⟨latest, active, lookup_none.mpr fun other mem =>
      lookup_none.mp unawaited other (List.mem_of_mem_erase mem)⟩
  current other mem := kept.current other (List.mem_of_mem_erase mem)
  bounded := kept.bounded
  unseen := kept.unseen

end TaskSupervisor

/-! ### What a run came to -/

namespace TaskSlot
variable {slot : TaskSlot} {result : TaskJoinResult} {nowMs : Nat}

/-- The parts of the slot that the result of a run changes. -/
theorem joined_cases (slot : TaskSlot) (result : TaskJoinResult) (nowMs : Nat) :
    (slot.joined result nowMs).spec = slot.spec ∧ (slot.joined result nowMs).latest = slot.latest ∧
      (slot.joined result nowMs).join = none ∧ (slot.joined result nowMs).isActive = false := by
  unfold joined isActive
  cases result with
  | ok => exact ⟨rfl, rfl, rfl, rfl⟩
  | panicked => exact ⟨rfl, rfl, rfl, rfl⟩
  | failed error =>
    simp only
    split
    · exact ⟨rfl, rfl, rfl, rfl⟩
    · split
      · exact ⟨rfl, rfl, rfl, rfl⟩
      · exact ⟨rfl, rfl, rfl, rfl⟩

theorem id_joined (slot : TaskSlot) (result : TaskJoinResult) (nowMs : Nat) :
    (slot.joined result nowMs).id = slot.id :=
  congrArg TaskSpec.id (slot.joined_cases result nowMs).1

/-- A backoff is granted as long as the failures in a row are fewer than the retries. -/
theorem joined_bounded {restarts : Nat} (failures : restarts ≤ slot.consecutiveFailures)
    (retries : restarts ≤ slot.spec.restartPolicy.maxRetries) :
    (if result = .ok then 0 else restarts) + TaskSupervisor.pending (slot.joined result nowMs) ≤
        (slot.joined result nowMs).consecutiveFailures ∧
      (if result = .ok then 0 else restarts) + TaskSupervisor.pending (slot.joined result nowMs) ≤
        slot.spec.restartPolicy.maxRetries := by
  have most := slot.spec.restartPolicy.maxRetries_le
  unfold joined TaskSupervisor.pending
  cases result with
  | ok => simp
  | panicked => exact ⟨failures, retries⟩
  | failed error =>
    by_cases cancels : error.restart = .cancelled
    · simp only [reduceCtorEq, if_false, if_pos cancels]
      exact ⟨failures, retries⟩
    · by_cases again : error.restart = .transient ∧
          slot.consecutiveFailures < slot.spec.restartPolicy.maxRetries
      · simp only [reduceCtorEq, if_false, if_neg cancels, if_pos again]
        have room := again.2
        omega
      · simp only [reduceCtorEq, if_false, if_neg cancels, if_neg again]
        omega

end TaskSlot

namespace TaskSupervisor
variable {supervisor : TaskSupervisor}

/-- The slot of an awaited run records its result. -/
theorem Kept.record (kept : supervisor.Kept) {call : JoinCall} (mem : call ∈ supervisor.joining)
    (result : TaskJoinResult) (nowMs : Nat) :
    Kept { supervisor with
      inner := supervisor.inner.updateSlot call.id (TaskSlot.joined result nowMs)
      joining := supervisor.joining.erase call
      restarts := if result = .ok then Function.update supervisor.restarts call.id 0
        else supervisor.restarts } := by
  have id_joined (slot : TaskSlot) : (slot.joined result nowMs).id = slot.id :=
    slot.id_joined result nowMs
  have kept' := kept.forget call
  have slots := @slot?_updateSlot supervisor.inner call.id (TaskSlot.joined result nowMs) id_joined
  -- the slot of the call is inactive now, and every other slot is as it was
  have cases' {k : TaskId} {slot : TaskSlot}
      (found : (supervisor.inner.updateSlot call.id (TaskSlot.joined result nowMs)).slot? k =
        some slot) : (k ≠ call.id ∧ supervisor.inner.slot? k = some slot) ∨
      k = call.id ∧ ∃ was, supervisor.inner.slot? k = some was ∧ was.joined result nowMs = slot := by
    have found := (slots k).symm.trans found
    split at found
    · exact .inr ⟨‹_›, Option.map_eq_some_iff.mp found⟩
    · exact .inl ⟨‹_›, found⟩
  refine ⟨kept.keyed.updateWhere id_joined, kept'.calls,
    fun a b slotA slotB key isA isB activeA activeB keyA keyB => ?_,
    fun k slot found task latest => ?_, fun k slot found task join => ?_,
    fun other otherMem => ?_, fun k slot found => ?_, fun k absent => ?_⟩
  · rcases cases' isA with ⟨-, isA⟩ | ⟨-, wasA, -, rfl⟩
    · rcases cases' isB with ⟨-, isB⟩ | ⟨-, wasB, -, rfl⟩
      · exact kept.exclusive a b slotA slotB key isA isB activeA activeB keyA keyB
      · cases (wasB.joined_cases result nowMs).2.2.2.symm.trans activeB
    · cases (wasA.joined_cases result nowMs).2.2.2.symm.trans activeA
  · rcases cases' found with ⟨-, found⟩ | ⟨-, was, isWas, rfl⟩
    · exact kept.serial k slot found task latest
    · rw [(was.joined_cases result nowMs).2.1] at latest
      exact kept.serial k was isWas task latest
  · rcases cases' found with ⟨-, found⟩ | ⟨-, was, isWas, rfl⟩
    · exact kept'.held k slot found task join
    · cases (was.joined_cases result nowMs).2.2.1.symm.trans join
  · obtain ⟨slot, found, awaited⟩ := kept'.current other otherMem
    refine ⟨slot, (slots other.id).trans ((if_neg fun same => ?_).trans found), awaited⟩
    have twice := kept.calls.inj (List.mem_of_mem_erase otherMem) mem same
    rw [twice] at otherMem
    have distinct : supervisor.joining.Nodup := kept.calls.of_map _
    exact absurd otherMem distinct.not_mem_erase
  · rcases cases' found with ⟨apart, found⟩ | ⟨same, was, isWas, rfl⟩
    · have unchanged : (if result = .ok then Function.update supervisor.restarts call.id 0
          else supervisor.restarts) k = supervisor.restarts k := by
        split
        · exact Function.update_of_ne apart _ _
        · rfl
      have bounded := kept.bounded k slot found
      rw [← unchanged] at bounded
      exact bounded
    · subst same
      obtain ⟨failures, retries⟩ := kept.bounded call.id was isWas
      have after : (if result = .ok then Function.update supervisor.restarts call.id 0
          else supervisor.restarts) call.id =
          if result = .ok then 0 else supervisor.restarts call.id := by
        split
        · exact Function.update_self ..
        · rfl
      have bounded := @TaskSlot.joined_bounded was result nowMs _
        (Nat.le_trans (Nat.le_add_right _ _) failures) (Nat.le_trans (Nat.le_add_right _ _) retries)
      rw [(was.joined_cases result nowMs).1]
      rw [← after] at bounded
      exact bounded
  · have was : supervisor.inner.slot? k = none := by
      have absent := (slots k).symm.trans absent
      split at absent
      · exact Option.map_eq_none_iff.mp absent
      · exact absent
    have unseen := kept.unseen k was
    show (if result = .ok then Function.update supervisor.restarts call.id 0
      else supervisor.restarts) k = 0
    split
    · rw [Function.update_apply, unseen, ite_self]
    · exact unseen

theorem Kept.joined (kept : supervisor.Kept) (call : JoinCall) (result : TaskJoinResult)
    (nowMs : Nat) : (supervisor.joined call result nowMs).Kept := by
  unfold TaskSupervisor.joined
  split
  · rename_i mem
    unfold applyJoinResultLocked
    cases found : supervisor.inner.slot? call.id with
    | none => exact kept.forget call
    | some slot =>
      by_cases other : slot.runId ≠ some call.runId
      · simp only [if_pos other]
        exact kept.forget call
      · simp only [if_neg other]
        exact kept.record mem result nowMs
  · exact kept

theorem lookup_orderedInsert {tasks : List TaskSlot} (slot : TaskSlot)
    (keyed : Keyed TaskSlot.id tasks) (fresh : lookup TaskSlot.id tasks slot.id = none)
    (r : TaskSlot → TaskSlot → Prop) [DecidableRel r] :
    Keyed TaskSlot.id (tasks.orderedInsert r slot) ∧
      ∀ k, lookup TaskSlot.id (tasks.orderedInsert r slot) k =
        if k = slot.id then some slot else lookup TaskSlot.id tasks k := by
  have perm := List.perm_orderedInsert r slot tasks
  have keyed' : Keyed TaskSlot.id (tasks.orderedInsert r slot) := by
    refine (perm.map TaskSlot.id).nodup_iff.mpr (List.nodup_cons.mpr ⟨fun mem => ?_, keyed⟩)
    obtain ⟨other, mem, same⟩ := List.mem_map.mp mem
    exact lookup_none.mp fresh other mem same
  refine ⟨keyed', fun k => Option.ext fun other => ?_⟩
  rw [keyed'.lookup_iff, perm.mem_iff, List.mem_cons]
  split
  · rename_i same
    constructor
    · rintro ⟨rfl | mem, isKey⟩
      · rfl
      · exact absurd (isKey.trans same) (lookup_none.mp fresh other mem)
    · intro same'
      cases same'
      exact ⟨.inl rfl, same.symm⟩
  · rename_i apart
    rw [keyed.lookup_iff]
    refine and_congr_left fun isKey => or_iff_right ?_
    rintro rfl
    exact apart isKey.symm

theorem Kept.register (kept : supervisor.Kept) (spec : TaskSpec) :
    (supervisor.accept (supervisor.inner.register spec)).Kept := by
  unfold SupervisorInner.register
  cases found : supervisor.inner.slot? spec.id with
  | some slot => exact kept
  | none =>
    obtain ⟨keyed, slots⟩ := lookup_orderedInsert (.registered spec) kept.keyed found
      fun a b => ¬ b.id < a.id
    have cases' {k : TaskId} {slot : TaskSlot} (isSlot : lookup TaskSlot.id
        (supervisor.inner.tasks.orderedInsert (fun a b => ¬ b.id < a.id) (.registered spec)) k =
          some slot) : (k = spec.id ∧ slot = .registered spec) ∨
        supervisor.inner.slot? k = some slot := by
      have isSlot := (slots k).symm.trans isSlot
      split at isSlot
      · exact .inl ⟨‹_›, (Option.some.inj isSlot).symm⟩
      · exact .inr isSlot
    refine ⟨keyed, kept.calls, fun a b slotA slotB key isA isB activeA activeB keyA keyB => ?_,
      fun k slot isSlot task latest => ?_, fun k slot isSlot task join => ?_,
      fun call mem => ?_, fun k slot isSlot => ?_, fun k absent => ?_⟩
    · rcases cases' isA with ⟨-, rfl⟩ | isA
      · cases activeA
      · rcases cases' isB with ⟨-, rfl⟩ | isB
        · cases activeB
        · exact kept.exclusive a b slotA slotB key isA isB activeA activeB keyA keyB
    · rcases cases' isSlot with ⟨-, rfl⟩ | isSlot
      · cases latest
      · exact kept.serial k slot isSlot task latest
    · rcases cases' isSlot with ⟨-, rfl⟩ | isSlot
      · cases join
      · exact kept.held k slot isSlot task join
    · obtain ⟨slot, isSlot, awaited⟩ := kept.current call mem
      refine ⟨slot, (slots call.id).trans ((if_neg fun same => ?_).trans isSlot), awaited⟩
      rw [same] at isSlot
      cases found.symm.trans isSlot
    · rcases cases' isSlot with ⟨rfl, rfl⟩ | isSlot
      · show supervisor.restarts spec.id + 0 ≤ 0 ∧ supervisor.restarts spec.id + 0 ≤ _
        rw [kept.unseen spec.id found]
        exact ⟨Nat.le_refl _, Nat.zero_le _⟩
      · exact kept.bounded k slot isSlot
    · refine kept.unseen k ?_
      have absent := (slots k).symm.trans absent
      split at absent
      · cases absent
      · exact absent

theorem Kept.step (kept : supervisor.Kept) (step : SupervisorStep) :
    (supervisor.step step).Kept := by
  unfold TaskSupervisor.step
  cases step.op with
  | register spec => exact kept.register spec
  | start id =>
    cases can : supervisor.inner.startable id with
    | true =>
      simp only [startLocked_of_startable can]
      exact kept.start can
    | false =>
      obtain ⟨error, refused⟩ := startLocked_refused step.nowMs can
      simp only [refused]
      exact kept
  | cancel id =>
    simp only [SupervisorInner.cancel]
    split
    · exact kept
    · split
      · rename_i slot found active
        exact kept.cancel found active
      · exact kept
  | tick => exact kept.tick step.nowMs
  | joinFinished id => exact kept.joinFinished id
  | joined call result => exact kept.joined call result step.nowMs
  | joinLost call => exact kept.forget call
  | shutdown => exact kept.stopAll

/-! ### Steps -/

theorem sharesKey_symm {inner : SupervisorInner} {a b : TaskId} (shares : inner.sharesKey a b) :
    inner.sharesKey b a := by
  obtain ⟨slot, slot', key, isA, isB, keyA, keyB⟩ := sharesKey_iff.mp shares
  exact sharesKey_iff.mpr ⟨slot', slot, key, isB, isA, keyB, keyA⟩

/-- Nothing is started where nothing can be. -/
theorem startAll_none {inner : SupervisorInner} {nowMs : Nat} {ids : List TaskId}
    {started : List TaskRunId} (none : ∀ id ∈ ids, inner.startable id = false) :
    (startAll nowMs inner ids started).1 = inner := by
  cases ids with
  | nil => rfl
  | cons id rest =>
    obtain ⟨error, refused⟩ := startLocked_refused nowMs (none id (List.mem_cons_self ..))
    rw [startAll, refused]

theorem startAll_started {inner after : SupervisorInner} {nowMs : Nat} {ids : List TaskId}
    {started runs : List TaskRunId} (keyed : Keyed TaskSlot.id inner.tasks)
    (all : startAll nowMs inner ids started = (after, .ok runs)) {id : TaskId} (mem : id ∈ ids) :
    ∃ (slot : TaskSlot) (runId task : Nat),
      after.slot? id = some (slot.started runId task nowMs) ∧ inner.spawned ≤ task := by
  induction ids generalizing inner started with
  | nil => cases mem
  | cons first rest ih =>
    cases can : inner.startable first with
    | false =>
      obtain ⟨error, refused⟩ := startLocked_refused nowMs can
      rw [startAll, refused] at all
      cases all
    | true =>
      rw [startAll_cons_startable can] at all
      rcases List.mem_cons.mp mem with rfl | mem
      · obtain ⟨slot, found, -⟩ := (startable_iff keyed).mp can
        have running : (inner.spawn id nowMs).slot? id =
            some (slot.started inner.nextRun inner.spawned nowMs) := by
          rw [slot?_spawn, if_pos rfl, found]
          rfl
        have later : Swept (fun slot => slot.isActive = false) nowMs (inner.spawn id nowMs)
            (startAll nowMs (inner.spawn id nowMs) rest (started ++ [inner.nextRun])).1 :=
          startAll_swept (fun _ idle => idle) (keyed_spawn keyed) fun _ _ _ _ idle => idle
        rw [all] at later
        rcases later.slots id with same | ⟨slot', _, _, was, idle, -⟩
        · exact ⟨slot, _, _, same.trans running, Nat.le_refl _⟩
        · cases running.symm.trans was
          cases idle
      · obtain ⟨slot, runId, task, isStarted, low⟩ := ih (keyed_spawn keyed) all mem
        exact ⟨slot, runId, task, isStarted, Nat.le_trans (Nat.le_succ _) low⟩

theorem Kept.startedBetween_started (kept : supervisor.Kept) {after : SupervisorInner} {id : TaskId}
    {slot : TaskSlot} {runId : TaskRunId} {task nowMs : Nat}
    (isStarted : after.slot? id = some (slot.started runId task nowMs))
    (low : supervisor.inner.spawned ≤ task) : startedBetween supervisor.inner after id := by
  refine decide_eq_true fun same => ?_
  rw [isStarted] at same
  obtain ⟨was, found, latest⟩ := Option.bind_eq_some_iff.mp same
  exact Nat.not_lt_of_le low (kept.serial id was found task latest)

theorem clear_iff (kept : supervisor.Kept) {nowMs : Nat} : supervisor.clear nowMs ↔
    (∃ inner runs, supervisor.inner.tick nowMs = (inner, .ok runs)) ∧
      ∀ id ∈ supervisor.inner.ready nowMs,
        ((supervisor.inner.slot? id).bind TaskSlot.nextRetryAtMs).any (· ≤ nowMs) := by
  have distinct := ready_nodup kept.keyed nowMs
  rw [SupervisorInner.tick, startAll_ok_iff kept.keyed distinct, clear, List.all_eq_true]
  simp only [decide_eq_true_eq, List.all_eq_true]
  constructor
  · intro each
    refine ⟨⟨fun id mem => (each id mem).1, ?_⟩, fun id mem => (each id mem).2.1⟩
    refine distinct.pairwise_of_forall_ne fun a memA b memB apart => ?_
    exact (each a memA).2.2 b memB |>.resolve_left apart.symm
  · rintro ⟨⟨each, apart⟩, due⟩ id mem
    refine ⟨each id mem, due id mem, fun other mem' => ?_⟩
    by_cases same : other = id
    · exact .inl same
    · refine .inr fun shares => ?_
      have symm : Std.Symm fun a b => ¬ supervisor.inner.sharesKey b a :=
        ⟨fun _ _ unshared shares => unshared (sharesKey_symm shares)⟩
      exact apart.forall mem mem' (Ne.symm same) shares

theorem startedBetween_self (inner : SupervisorInner) (id : TaskId) :
    startedBetween inner inner id = false :=
  decide_eq_false (not_not_intro rfl)

theorem startedBetween_of_latest {before after : SupervisorInner}
    (same : ∀ id, (before.slot? id).bind TaskSlot.latest = (after.slot? id).bind TaskSlot.latest)
    (id : TaskId) : startedBetween before after id = false :=
  decide_eq_false (not_not_intro (same id))

/-- Rewriting slots without touching their last runs starts nothing. -/
theorem startedBetween_updateWhere {before after : SupervisorInner} {p : TaskSlot → Bool}
    {f : TaskSlot → TaskSlot} (tasks : after.tasks = updateWhere p f before.tasks)
    (same : ∀ slot, (f slot).id = slot.id) (latest : ∀ slot, (f slot).latest = slot.latest)
    (id : TaskId) : startedBetween before after id = false := by
  refine startedBetween_of_latest (fun k => ?_) id
  have slots : after.slot? k = (before.slot? k).map fun slot => if p slot then f slot else slot := by
    rw [slot?, tasks]
    exact slot?_updateWhere same k
  rw [slots]
  cases before.slot? k with
  | none => rfl
  | some slot =>
    show slot.latest = (if p slot then f slot else slot).latest
    split
    · exact (latest slot).symm
    · rfl

theorem takeJoin_ok {inner inner' : SupervisorInner} {id : TaskId} {task : SpawnedTask}
    {runId : TaskRunId} (taken : inner.takeJoin id = .ok (inner', task, runId)) :
    inner' = inner.updateSlot id ({ · with join := none }) := by
  unfold takeJoin at taken
  split at taken
  · cases taken
  · split at taken
    · cases taken
      rfl
    · cases taken

theorem applyJoinResultLocked_ok {inner inner' : SupervisorInner} {id : TaskId} {runId : TaskRunId}
    {result : TaskJoinResult} {nowMs : Nat}
    (applied : inner.applyJoinResultLocked id runId result nowMs = .ok inner') :
    inner' = inner.updateSlot id (TaskSlot.joined result nowMs) := by
  unfold applyJoinResultLocked at applied
  split at applied
  · cases applied
  · split at applied
    · cases applied
    · cases applied
      rfl

theorem Kept.late (kept : supervisor.Kept) {call : JoinCall} {result : TaskJoinResult} {nowMs : Nat}
    {id : TaskId} {slot : TaskSlot} (found : supervisor.inner.slot? id = some slot)
    (changed : (supervisor.joined call result nowMs).inner.slot? id ≠ some slot) :
    id = call.id ∧ slot.latest = some call.task := by
  unfold TaskSupervisor.joined at changed
  split at changed
  · rename_i mem
    cases applied : supervisor.inner.applyJoinResultLocked call.id call.runId result nowMs with
    | error error =>
      rw [applied] at changed
      exact absurd found changed
    | ok inner =>
      rw [applied] at changed
      cases applyJoinResultLocked_ok applied
      by_cases here : id = call.id
      · exact ⟨here, (kept.awaited mem (here ▸ found)).1⟩
      · exact absurd ((slot?_updateSlot _ (fun slot => slot.id_joined result nowMs) id).trans
          ((if_neg here).trans found)) changed
  · exact absurd found changed

/-- Only `start` and `tick` start tasks. -/
theorem Kept.quiet (kept : supervisor.Kept) {step : SupervisorStep}
    (other : step.op ≠ .tick ∧ ∀ id, step.op ≠ .start id) (id : TaskId) :
    startedBetween supervisor.inner (supervisor.step step).inner id = false := by
  obtain ⟨nowMs, op⟩ := step
  cases op with
  | tick => exact absurd rfl other.1
  | start k => exact absurd rfl (other.2 k)
  | register spec =>
    simp only [TaskSupervisor.step, SupervisorInner.register]
    cases found : supervisor.inner.slot? spec.id with
    | some slot => exact startedBetween_self ..
    | none =>
      have slots := (lookup_orderedInsert (.registered spec) kept.keyed found
        fun a b => ¬ b.id < a.id).2
      refine startedBetween_of_latest (fun k => ?_) id
      refine Eq.trans ?_ (congrArg (Option.bind · TaskSlot.latest) (slots k).symm)
      split
      · rename_i same
        have absent : supervisor.inner.slot? k = none := (congrArg _ same).trans found
        rw [absent]
        rfl
      · rfl
  | cancel k =>
    simp only [TaskSupervisor.step, SupervisorInner.cancel]
    split
    · exact startedBetween_self ..
    · split
      · exact startedBetween_updateWhere (f := TaskSlot.cancelled) rfl (fun _ => rfl)
          (fun _ => rfl) id
      · exact startedBetween_self ..
  | joinFinished k =>
    simp only [TaskSupervisor.step, TaskSupervisor.joinFinished]
    split
    · rename_i inner task runId taken
      cases takeJoin_ok taken
      exact startedBetween_updateWhere (f := fun slot => { slot with join := none }) rfl
        (fun _ => rfl) (fun _ => rfl) id
    · exact startedBetween_self ..
  | joined call result =>
    simp only [TaskSupervisor.step, TaskSupervisor.joined]
    split
    · split
      · rename_i inner applied
        cases applyJoinResultLocked_ok applied
        exact startedBetween_updateWhere (f := TaskSlot.joined result nowMs) rfl
          (fun slot => slot.id_joined result nowMs)
          (fun slot => (slot.joined_cases result nowMs).2.1) id
      · exact startedBetween_self ..
    · exact startedBetween_self ..
  | joinLost call => exact startedBetween_self ..
  | shutdown =>
    have stopped : supervisor.inner.stopAll.tasks =
        updateWhere TaskSlot.isActive TaskSlot.cancelled supervisor.inner.tasks := rfl
    exact startedBetween_updateWhere stopped (fun _ => rfl) (fun _ => rfl) id

theorem Kept.started_iff (kept : supervisor.Kept) {id : TaskId} {nowMs : Nat} :
    startedBetween supervisor.inner (supervisor.step ⟨nowMs, .start id⟩).inner id ↔
      supervisor.inner.startable id := by
  cases can : supervisor.inner.startable id with
  | true =>
    obtain ⟨slot, found, -⟩ := (startable_iff kept.keyed).mp can
    have running : (supervisor.inner.spawn id nowMs).slot? id =
        some (slot.started supervisor.inner.nextRun supervisor.inner.spawned nowMs) := by
      rw [slot?_spawn, if_pos rfl, found]
      rfl
    simp only [TaskSupervisor.step, startLocked_of_startable can]
    exact iff_of_true (kept.startedBetween_started running (Nat.le_refl _)) trivial
  | false =>
    obtain ⟨error, refused⟩ := startLocked_refused nowMs can
    simp only [TaskSupervisor.step, refused]
    have same := startedBetween_self supervisor.inner id
    exact iff_of_false (fun h => by cases same.symm.trans h) nofun

theorem Kept.orderly_of_safe (kept : supervisor.Kept) {step : SupervisorStep}
    (safe : supervisor.StepSafe step) : supervisor.orderly step := by
  obtain ⟨nowMs, op⟩ := step
  cases op with
  | start id =>
    refine decide_eq_true ?_
    cases down : supervisor.shuttingDown with
    | false => exact .inl rfl
    | true =>
      refine .inr (Bool.eq_false_iff.mpr fun can => ?_)
      cases (safe.stops down id).symm.trans (kept.started_iff.mpr can)
  | tick =>
    refine decide_eq_true ?_
    by_cases none : ∀ id ∈ supervisor.inner.ready nowMs, supervisor.inner.startable id = false
    · exact .inl none
    · -- something can be started, so the tick has started every ready task
      obtain ⟨swept, runs, isSweep⟩ : ∃ swept runs,
          sweep nowMs supervisor.inner (supervisor.inner.ready nowMs) [] = (swept, runs) :=
        ⟨_, _, rfl⟩
      have some' : runs ≠ [] := fun nothing =>
        none (sweep_started_iff.mp (congrArg Prod.snd isSweep |>.trans nothing))
      have all := safe.sweeps rfl swept runs isSweep some'
      have started (id : TaskId) (mem : id ∈ supervisor.inner.ready nowMs) :
          TaskSupervisor.startedBetween supervisor.inner
            (supervisor.step ⟨nowMs, .tick⟩).inner id := by
        obtain ⟨slot, runId, task, isStarted, low⟩ := startAll_started kept.keyed all mem
        have after : (supervisor.step ⟨nowMs, .tick⟩).inner = swept := congrArg Prod.fst all
        rw [after]
        exact kept.startedBetween_started isStarted low
      refine .inr ⟨?_, (clear_iff kept).mpr ⟨⟨swept, runs, all⟩, fun id mem => ?_⟩⟩
      · obtain ⟨id, mem, -⟩ : ∃ id ∈ supervisor.inner.ready nowMs,
            ¬ supervisor.inner.startable id = false := by simpa using none
        refine Bool.eq_false_iff.mpr fun down => ?_
        cases (safe.stops down id).symm.trans (started id mem)
      · obtain ⟨slot, found, -⟩ := (mem_ready supervisor.inner kept.keyed).mp mem
        obtain ⟨retryAtMs, published, due⟩ := safe.waits rfl id slot found (started id mem)
        rw [found, Option.bind_some, published]
        exact decide_eq_true due
  | register spec => rfl
  | cancel id => rfl
  | joinFinished id => rfl
  | joined call result => rfl
  | joinLost call => rfl
  | shutdown => rfl

theorem Kept.safe_of_orderly (kept : supervisor.Kept) {step : SupervisorStep}
    (orderly : supervisor.orderly step) : supervisor.StepSafe step := by
  have after := (kept.step step).safe
  obtain ⟨nowMs, op⟩ := step
  cases op with
  | tick =>
    have swept := tick_swept kept.keyed nowMs
    rcases of_decide_eq_true orderly with none | ⟨up, clear⟩
    · -- no ready task can be started, so the tick starts none
      have unchanged : (supervisor.inner.tick nowMs).1 = supervisor.inner := startAll_none none
      have unstarted (id : TaskId) : TaskSupervisor.startedBetween supervisor.inner
          (supervisor.step ⟨nowMs, .tick⟩).inner id = false := by
        show TaskSupervisor.startedBetween supervisor.inner (supervisor.inner.tick nowMs).1 id = false
        rw [unchanged]
        exact startedBetween_self ..
      refine ⟨after, fun _ id slot _ started => ?_, fun _ inner started isSweep some' => ?_, nofun,
        fun _ => unstarted⟩
      · cases (unstarted id).symm.trans started
      · exact absurd ((congrArg Prod.snd isSweep).symm.trans (sweep_started_iff.mpr none)) some'
    · obtain ⟨⟨inner, runs, all⟩, due⟩ := (clear_iff kept).mp clear
      refine ⟨after, fun _ id slot found started => ?_, fun _ inner' started isSweep _ => ?_, nofun,
        fun down => by cases up.symm.trans down⟩
      · obtain ⟨slot', runId, task, found', isReady, -⟩ :=
          (startedBetween_of_swept kept swept).mp started
        cases found.symm.trans found'
        have published := due id ((mem_ready supervisor.inner kept.keyed).mpr ⟨slot, found, isReady⟩)
        rw [found, Option.bind_some] at published
        obtain ⟨retryAtMs, isRetry, reached⟩ := (Option.any_eq_true _ _).mp published
        exact ⟨retryAtMs, isRetry, of_decide_eq_true reached⟩
      · cases (sweep_of_startAll all).symm.trans isSweep
        exact all
  | start id =>
    refine ⟨after, nofun, nofun, nofun, fun down other => ?_⟩
    rcases of_decide_eq_true orderly with up | cannot
    · cases up.symm.trans down
    · obtain ⟨error, refused⟩ := startLocked_refused nowMs cannot
      simp only [TaskSupervisor.step, refused]
      exact startedBetween_self ..
  | joined call result =>
    refine ⟨after, nofun, nofun, ?_, fun _ => kept.quiet ⟨nofun, nofun⟩⟩
    rintro call' result' same id slot found changed
    cases same
    exact kept.late found changed
  | register spec => exact ⟨after, nofun, nofun, nofun, fun _ => kept.quiet ⟨nofun, nofun⟩⟩
  | cancel id => exact ⟨after, nofun, nofun, nofun, fun _ => kept.quiet ⟨nofun, nofun⟩⟩
  | joinFinished id => exact ⟨after, nofun, nofun, nofun, fun _ => kept.quiet ⟨nofun, nofun⟩⟩
  | joinLost call => exact ⟨after, nofun, nofun, nofun, fun _ => kept.quiet ⟨nofun, nofun⟩⟩
  | shutdown => exact ⟨after, nofun, nofun, nofun, fun _ => kept.quiet ⟨nofun, nofun⟩⟩

end TaskSupervisor

open TaskSupervisor

theorem scheduling_iff (steps : List SupervisorStep) :
    new.Safe ∧ Along TaskSupervisor.step StepSafe new steps ↔
      Along TaskSupervisor.step (fun supervisor step => supervisor.orderly step = true) new steps :=
  (and_iff_right Kept.new.safe).trans
    (along_iff (fun _ _ _ kept => ⟨kept.orderly_of_safe, kept.safe_of_orderly⟩)
      (fun _ step _ kept _ => kept.step step) Kept.new fun _ _ => trivial)

/-! ### A retry without a wait -/

def sampleSpec : TaskSpec :=
  ⟨"refresh", "refresh", none, ⟨3, fromMillis 60000, fromMillis 60000, 0, by decide⟩⟩

def sampleTime : Nat := 1700000000000

/-- A run fails, and its task backs off for a minute. -/
def sampleFailure : List SupervisorStep :=
  [⟨sampleTime, .register sampleSpec⟩, ⟨sampleTime, .start "refresh"⟩,
    ⟨sampleTime, .joinFinished "refresh"⟩,
    ⟨sampleTime, .joined ⟨"refresh", 0, 1⟩ (.failed ⟨.transient, "timeout"⟩)⟩]

theorem tick_ignores_retry_time :
    ¬ (new.Safe ∧ Along TaskSupervisor.step StepSafe new (sampleFailure ++ [⟨sampleTime + 1, .tick⟩])) := by
  rintro ⟨-, safe⟩
  have waits := (along_append.mp safe).2.1.waits rfl "refresh"
  obtain ⟨slot, found⟩ : ∃ slot,
      (run TaskSupervisor.step new sampleFailure).inner.slot? "refresh" = some slot := ⟨_, rfl⟩
  obtain ⟨retryAtMs, published, due⟩ := waits slot found (by decide)
  cases found
  cases published
  exact absurd due (by decide)

end RelayPool.Background
