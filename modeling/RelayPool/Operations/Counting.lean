import RelayPool.Operations.Absorbing

/-! The registry counts its operations.

`running_count` and the counts of the concurrency keys are the numbers of started
operations whose task has not ended, they keep to their limits, a start is refused only at
a limit, and an operation whose task has ended has a terminal record. A body that panics
breaks the first, since nothing gives its counts back, and a `detach` after the end the
last; nothing else breaks either (`operations_accounted_iff`). -/
namespace RelayPool.Operations
open Table Runs

namespace OperationRegistryInner

variable {config : OperationRegistryConfig} {inner inner' : OperationRegistryInner}
  {now clock : Instant} {id : OperationId} {row : OperationSlot}

/-! ### Counts -/

theorem runningFor_reserve {spec : RunningOperationSpec} {key : String} :
    (inner.reserve id spec now).runningFor key =
      inner.runningFor key + if spec.concurrencyKey = some key then 1 else 0 := by
  unfold runningFor reserve
  cases spec.concurrencyKey with
  | none => rfl
  | some key' =>
    dsimp only
    by_cases same : key' = key
    · subst same
      rw [Function.update_self, if_pos rfl]
      rfl
    · rw [Function.update_of_ne (Ne.symm same), if_neg (by simpa using same)]
      rfl

theorem runningFor_recordTerminal {terminal : OperationTerminal} {key : String} :
    (inner.recordTerminal row terminal now).runningFor key =
      inner.runningFor key - if row.spec.concurrencyKey = some key then 1 else 0 := by
  unfold runningFor recordTerminal
  cases row.spec.concurrencyKey with
  | none => rfl
  | some key' =>
    show (releaseKey inner.runningByConcurrencyKey key' key).getD 0 = _
    unfold releaseKey
    by_cases same : key' = key
    · subst same
      rw [if_pos rfl]
      cases counted : inner.runningByConcurrencyKey key' with
      | none => simp [counted]
      | some count =>
        dsimp only
        rw [Function.update_self]
        split
        · rename_i last
          exact last.symm
        · rfl
    · rw [if_neg (by simpa using same)]
      cases inner.runningByConcurrencyKey key' with
      | none => rfl
      | some count =>
        dsimp only
        rw [Function.update_of_ne (Ne.symm same)]
        rfl

/-- The counts of `finish`, whether or not it evicts a record. -/
theorem finish_counts {terminal : OperationTerminal}
    (bounded : inner.terminalOrder.length ≤ config.terminalMaxEntries)
    (found : inner.slot id = some row) (active : row.state.record = none) :
    (inner.finish config id terminal now).runningCount = inner.runningCount - 1 ∧
      ∀ key, (inner.finish config id terminal now).runningFor key =
        inner.runningFor key - if row.spec.concurrencyKey = some key then 1 else 0 := by
  rcases @finish_cases config inner now id terminal bounded with
    ⟨-, none | recorded⟩ | ⟨row', found', -, ⟨room, is⟩ | ⟨oldest, rest, order, full, is⟩⟩
  · cases none.symm.trans found
  · rw [record_of_slot found, active] at recorded
    cases recorded
  · cases found'.symm.trans found
    rw [is]
    exact ⟨rfl, fun key => runningFor_recordTerminal⟩
  · cases found'.symm.trans found
    rw [is]
    exact ⟨rfl, fun key => @runningFor_recordTerminal inner now row terminal key⟩

/-! ### Slots of other operations -/

/-- What becomes of a slot that no call ends. -/
inductive Kept (inner inner' : OperationRegistryInner) (id : OperationId) : Prop
  | same (h : inner'.slot id = inner.slot id)
  | touched (slot slot' : OperationSlot) (before : inner.slot id = some slot)
    (after : inner'.slot id = some slot') (spec : slot'.spec = slot.spec)
    (record : slot'.state.record = slot.state.record)
  | removed (gone : inner'.slot id = none) (recorded : (inner.record id).isSome)

/-- The slot of an operation that runs. -/
def Runs (inner : OperationRegistryInner) (id : OperationId) (key : Option String) : Prop :=
  ∃ slot, inner.slot id = some slot ∧ slot.state.record = none ∧ slot.spec.concurrencyKey = key

/-- The operation has a terminal record, or none any more. -/
def Over (inner : OperationRegistryInner) (id : OperationId) : Prop :=
  inner.slot id = none ∨ (inner.record id).isSome

theorem Kept.runs {key : Option String} (kept : Kept inner inner' id) (runs : inner.Runs id key) :
    inner'.Runs id key := by
  obtain ⟨slot, found, active, keyed⟩ := runs
  cases kept with
  | same h => exact ⟨slot, h.trans found, active, keyed⟩
  | touched before' after' is after spec record =>
    cases found.symm.trans is
    exact ⟨after', after, record.trans active, (congrArg _ spec).trans keyed⟩
  | removed gone recorded =>
    rw [record_of_slot found, active] at recorded
    cases recorded

theorem Kept.settled (kept : Kept inner inner' id) (h : inner.Over id) : inner'.Over id := by
  cases kept with
  | same same =>
    unfold Over OperationRegistryInner.record
    rw [same]
    exact h
  | touched slot slot' before after spec record =>
    rcases h with gone | recorded
    · cases gone.symm.trans before
    · refine .inr ?_
      rw [record_of_slot after, record, ← record_of_slot before]
      exact recorded
  | removed gone recorded => exact .inl gone

theorem Touches.kept (touches : Touches inner inner') (id : OperationId) : Kept inner inner' id := by
  rcases touches.slot_cases id with same | ⟨slot, slot', before, after, spec, record⟩
  · exact .same same
  · exact .touched slot slot' before after spec record

theorem kept_gc (keyed : Keyed (·.id) inner.slots) (id : OperationId) :
    Kept inner (inner.gc config now) id := by
  rcases gc_cases keyed id with same | ⟨gone, result, recordedAt, held, -⟩
  · exact .same same
  · exact .removed gone (by rw [held]; rfl)

theorem Ordered.kept_finish {terminal : OperationTerminal} {id' : OperationId}
    (ordered : Ordered config clock inner) (other : id ≠ id') :
    Kept inner (inner.finish config id terminal clock) id' := by
  rcases @finish_cases config inner clock id terminal ordered.bounded with
    ⟨same, -⟩ | ⟨row, found, -, ⟨room, is⟩ | ⟨oldest, rest, order, full, is⟩⟩
  · exact .same (by rw [same])
  · obtain rfl := slot_id found
    have put := @slot_put inner id'
      { row with state := .terminal (settledTerminal row terminal) clock, join := false }
    rw [if_neg other] at put
    exact .same (is ▸ put)
  · obtain rfl := slot_id found
    have put := @slot_put inner id'
      { row with state := .terminal (settledTerminal row terminal) clock, join := false }
    rw [if_neg other] at put
    have slot : (inner.finish config row.id terminal clock).slot id' =
        if oldest = id' then none else inner.slot id' := by
      rw [is]
      show (OperationRegistryInner.expire oldest clock _).slot id' = _
      rw [slot_expire, ← put]
      rfl
    by_cases first : oldest = id'
    · rw [if_pos first] at slot
      cases before : inner.slot id' with
      | none => exact .same (slot.trans before.symm)
      | some _ =>
        have mem : id' ∈ inner.terminalOrder := by
          rw [order, first]
          exact List.mem_cons_self ..
        exact .removed slot (ordered.settled id' mem (by rw [before]; rfl))
    · exact .same (slot.trans (if_neg first))

/-- A recorded terminal is there right after `finish`. -/
theorem Ordered.over_finish {terminal : OperationTerminal} (ordered : Ordered config clock inner) :
    (inner.finish config id terminal clock).Over id := by
  rcases @finish_cases config inner clock id terminal ordered.bounded with
    ⟨same, h⟩ | ⟨row, found, active, ⟨room, is⟩ | ⟨oldest, rest, order, full, is⟩⟩
  · rw [same]
    exact h
  · obtain rfl := slot_id found
    refine .inr ?_
    rw [is, record_recordTerminal found, if_pos rfl]
    rfl
  · obtain rfl := slot_id found
    by_cases first : oldest = row.id
    · refine .inl ?_
      rw [is]
      show (OperationRegistryInner.expire oldest clock _).slot row.id = none
      rw [slot_expire, if_pos first]
    · refine .inr ?_
      rw [is]
      show ((OperationRegistryInner.expire oldest clock _).record row.id).isSome
      rw [record_expire, if_neg first, record_recordTerminal found, if_pos rfl]
      rfl

end OperationRegistryInner

namespace OperationRegistry

variable {config : OperationRegistryConfig} {registry : OperationRegistry} {turn : Turn}

/-- The started operations whose task has not ended. -/
def unfinished (registry : OperationRegistry) : Nat := registry.tasks.countP (·.isUnfinished)

def unfinishedFor (registry : OperationRegistry) (key : String) : Nat :=
  registry.tasks.countP fun task => task.concurrencyKey = some key ∧ task.isUnfinished

/-- What each refusal of a start stands for. -/
def Warranted (config : OperationRegistryConfig) (registry : OperationRegistry)
    (spec : RunningOperationSpec) : OperationRegistryError → Prop
  | .overloaded => config.maxRunningGlobal ≤ registry.unfinished
  | .conflict key => spec.concurrencyKey = some key ∧
      config.maxRunningPerConcurrencyKey ≤ registry.unfinishedFor key
  | .admissionClosed => registry.admissionClosed
  | .invalidSpec => spec.deadline = 0
  | _ => False

/-- Every refusal of a start in this section is warranted. -/
def WarrantedIn (config : OperationRegistryConfig) (registry : OperationRegistry) :
    Section → Prop
  | .start request => ∀ error, (registry.start config request).1 = .error error →
      registry.Warranted config (specOf config request) error
  | .startLocked id => ∀ call error, lookup (·.id) registry.starting id = some call →
      registry.answerCall config call = .error error → registry.Warranted config call.spec error
  | _ => True

/-- The books are right after the section: the counts are the numbers of operations whose
task has not ended, within their limits; a start was refused for a reason; and an operation
whose task has ended has a terminal record, unless one that it had was removed. -/
structure Accounts (config : OperationRegistryConfig) (registry : OperationRegistry)
    (turn : Turn) : Prop where
  running : (registry.step config turn).inner.runningCount = (registry.step config turn).unfinished
  perKey : ∀ key, (registry.step config turn).inner.runningFor key =
    (registry.step config turn).unfinishedFor key
  running_le : (registry.step config turn).inner.runningCount ≤ config.maxRunningGlobal
  perKey_le : ∀ key, (registry.step config turn).inner.runningFor key ≤
    config.maxRunningPerConcurrencyKey
  recorded : ∀ task ∈ (registry.step config turn).tasks, ¬ task.isUnfinished →
    ((registry.step config turn).inner.record task.id).isSome ∨
      (registry.step config turn).inner.slot task.id = none ∧
        ((registry.inner.record task.id).isSome ∨ registry.inner.slot task.id = none)
  warranted : (registry.advance turn).WarrantedIn config turn.taken

/-- A body that is running panics. -/
def panics (registry : OperationRegistry) : Section → Bool
  | .panics id => registry.taskIs id .running
  | _ => false

/-! ### The books -/

structure Books (config : OperationRegistryConfig) (registry : OperationRegistry) : Prop
    extends Sound config registry where
  keyed : Keyed (·.id) registry.tasks
  started : ∀ task ∈ registry.tasks, registry.Answered task.id
  runs : ∀ task ∈ registry.tasks, task.isUnfinished →
    registry.inner.Runs task.id task.concurrencyKey
  settled : ∀ task ∈ registry.tasks, ¬ task.isUnfinished → registry.inner.Over task.id
  owned : ∀ id, (registry.inner.slot id).isSome → ∃ task ∈ registry.tasks, task.id = id
  calm : ∀ task ∈ registry.tasks, task.phase ≠ .panicked
  running : registry.inner.runningCount = registry.unfinished
  perKey : ∀ key, registry.inner.runningFor key = registry.unfinishedFor key
  running_le : registry.inner.runningCount ≤ config.maxRunningGlobal
  perKey_le : ∀ key, registry.inner.runningFor key ≤ config.maxRunningPerConcurrencyKey

theorem Books.new : Books config .new where
  toSound := .new
  keyed := List.nodup_nil
  started := nofun
  runs := nofun
  settled := nofun
  owned := nofun
  calm := nofun
  running := rfl
  perKey := fun _ => rfl
  running_le := Nat.zero_le _
  perKey_le := fun _ => Nat.zero_le _

theorem taskIs_iff {id : OperationId} {phase : TaskPhase} :
    registry.taskIs id phase ↔ ∃ task ∈ registry.tasks, task.id = id ∧ task.phase = phase := by
  simp [taskIs]

/-- A phase moves on and the counts with it. -/
theorem Books.unfinished_move (books : registry.Books config) {task : OperationTask}
    (mem : task ∈ registry.tasks) (phase : TaskPhase) :
    (registry.move task.id phase).unfinished + (if task.isUnfinished then 1 else 0) =
      registry.unfinished + if OperationTask.isUnfinished { task with phase } then 1 else 0 :=
  books.keyed.countP_updateWhere mem _ _

theorem Books.unfinishedFor_move (books : registry.Books config) {task : OperationTask}
    (mem : task ∈ registry.tasks) (phase : TaskPhase) (key : String) :
    (registry.move task.id phase).unfinishedFor key +
        (if task.concurrencyKey = some key ∧ task.isUnfinished then 1 else 0) =
      registry.unfinishedFor key +
        if task.concurrencyKey = some key ∧ OperationTask.isUnfinished { task with phase } then 1
        else 0 := by
  have := books.keyed.countP_updateWhere mem (fun task => { task with phase })
    fun task => task.concurrencyKey = some key ∧ task.isUnfinished
  simpa [unfinishedFor, move] using this

/-- A section after which the slots and the tasks are those before. -/
structure Quiet (registry after : OperationRegistry) : Prop where
  tasks : after.tasks = registry.tasks
  kept : ∀ id, OperationRegistryInner.Kept registry.inner after.inner id
  running : after.inner.runningCount = registry.inner.runningCount
  perKey : after.inner.runningByConcurrencyKey = registry.inner.runningByConcurrencyKey

section Quiet
variable {after : OperationRegistry}

theorem Quiet.of_inner (tasks : after.tasks = registry.tasks) (inner : after.inner = registry.inner) :
    Quiet registry after :=
  ⟨tasks, fun id => .same (by rw [inner]), by rw [inner], by rw [inner]⟩

theorem Quiet.of_touches (tasks : after.tasks = registry.tasks)
    (touches : after.inner = registry.inner ∨ registry.inner.Touches after.inner) :
    Quiet registry after := by
  rcases touches with inner | touches
  · exact .of_inner tasks inner
  · exact ⟨tasks, touches.kept, touches.rest.2.1, touches.rest.2.2⟩

theorem Quiet.found (quiet : Quiet registry after) {id : OperationId}
    (h : (after.inner.slot id).isSome) : (registry.inner.slot id).isSome := by
  cases quiet.kept id with
  | same same => exact same ▸ h
  | touched slot slot' before _ _ _ => rw [before]; rfl
  | removed gone _ => rw [gone] at h; cases h

theorem Books.quiet (books : registry.Books config) (quiet : Quiet registry after)
    (sound : after.Sound config) (answered : ∀ id, registry.Answered id → after.Answered id) :
    after.Books config where
  toSound := sound
  keyed := quiet.tasks ▸ books.keyed
  started := fun task mem => answered _ (books.started task (quiet.tasks ▸ mem))
  runs := fun task mem h => (quiet.kept _).runs (books.runs task (quiet.tasks ▸ mem) h)
  settled := fun task mem h => (quiet.kept _).settled (books.settled task (quiet.tasks ▸ mem) h)
  owned := fun id h => quiet.tasks ▸ books.owned id (quiet.found h)
  calm := fun task mem => books.calm task (quiet.tasks ▸ mem)
  running := by
    rw [quiet.running, books.running, unfinished, unfinished, quiet.tasks]
  perKey := fun key => by
    rw [OperationRegistryInner.runningFor, quiet.perKey, unfinishedFor, quiet.tasks]
    exact books.perKey key
  running_le := quiet.running ▸ books.running_le
  perKey_le := fun key => by
    rw [OperationRegistryInner.runningFor, quiet.perKey]
    exact books.perKey_le key

end Quiet

/-- The sections that neither start nor move on a task. -/
theorem Books.quiet_perform {taken : Section} (books : registry.Books config)
    (spared : registry.overwrites taken = false) (unharmed : registry.panics taken = false) :
    (∃ id, taken = .startLocked id) ∨ (∃ id, taken = .spawn id) ∨ (∃ id returned, taken = .ends id returned) ∨
      Quiet registry (registry.perform config taken) := by
  cases taken with
  | start request =>
    obtain ⟨spec, inner, -, tasks, -⟩ := @start_cases config registry request
    exact .inr (.inr (.inr (.of_inner tasks inner)))
  | startLocked id => exact .inl ⟨id, rfl⟩
  | spawn id => exact .inr (.inl ⟨id, rfl⟩)
  | ends id returned => exact .inr (.inr (.inl ⟨id, returned, rfl⟩))
  | retainJoin id =>
    refine .inr (.inr (.inr ?_))
    simp only [perform]
    split
    · exact .of_touches rfl OperationRegistryInner.touches_retainJoin
    · exact .of_inner rfl rfl
  | panics id =>
    refine .inr (.inr (.inr ?_))
    have idle : ¬ registry.taskIs id .running := Bool.eq_false_iff.mp unharmed
    simp only [perform]
    rw [if_neg idle]
    exact .of_inner rfl rfl
  | enterCommitBarrier id =>
    refine .inr (.inr (.inr ?_))
    simp only [perform]
    split
    · exact .of_touches rfl OperationRegistryInner.touches_enterCommitBarrier
    · exact .of_inner rfl rfl
  | progress id message =>
    refine .inr (.inr (.inr ?_))
    simp only [perform]
    split
    · rename_i inner written
      exact .of_touches rfl (.inr (OperationRegistryInner.touches_progress written))
    · exact .of_inner rfl rfl
  | status id => exact .inr (.inr (.inr (.of_inner rfl rfl)))
  | cancel id => exact .inr (.inr (.inr (.of_touches rfl OperationRegistryInner.touches_cancel)))
  | joined id =>
    refine .inr (.inr (.inr ?_))
    have calm : ¬ registry.taskIs id .panicked := fun h => by
      obtain ⟨task, mem, -, panicked⟩ := taskIs_iff.mp h
      exact books.calm task mem panicked
    simp only [perform]
    rw [if_neg calm]
    split
    · split <;> exact .of_inner rfl rfl
    · exact .of_inner rfl rfl
  | gaveUp id => exact .inr (.inr (.inr (.of_inner rfl rfl)))
  | detach id =>
    exact .inr (.inr (.inr (.of_touches rfl (OperationRegistryInner.touches_detach spared))))
  | gc =>
    have rest := @OperationRegistryInner.gc_rest config registry.inner registry.clock
    exact .inr (.inr (.inr ⟨rfl, OperationRegistryInner.kept_gc books.ordered.keyed, rest.2.1,
      rest.2.2⟩))
  | stopAdmission => exact .inr (.inr (.inr (.of_inner rfl rfl)))

theorem mem_move {id : OperationId} {phase : TaskPhase} {task : OperationTask}
    (mem : task ∈ (registry.move id phase).tasks) :
    (task ∈ registry.tasks ∧ task.id ≠ id) ∨
      ∃ before ∈ registry.tasks, before.id = id ∧ task = { before with phase } := by
  obtain ⟨before, old, is⟩ := mem_updateWhere.mp mem
  split at is
  · rename_i same
    exact .inr ⟨before, old, of_decide_eq_true same, is.symm⟩
  · rename_i other
    subst is
    exact .inl ⟨old, by simpa using other⟩

theorem keys_move {id : OperationId} {phase : TaskPhase} (h : Keyed (·.id) registry.tasks) :
    Keyed (·.id) (registry.move id phase).tasks := h.updateWhere fun _ => rfl

theorem exists_move {id id' : OperationId} {phase : TaskPhase}
    (h : ∃ task ∈ registry.tasks, task.id = id') :
    ∃ task ∈ (registry.move id phase).tasks, task.id = id' := by
  obtain ⟨task, mem, rfl⟩ := h
  refine ⟨_, mem_updateWhere.mpr ⟨task, mem, rfl⟩, ?_⟩
  split <;> rfl

/-- An operation is admitted. -/
theorem Books.admitted {call : StartCall} {inner : OperationRegistryInner}
    {after : OperationRegistry} (books : registry.Books config) (mem : call ∈ registry.starting)
    (admitted : registry.answerCall config call = .ok inner) (is : after.inner = inner)
    (tasks : after.tasks = registry.tasks ++ [⟨call.id, call.spec.concurrencyKey, .admitted⟩])
    (sound : after.Sound config) (answered : ∀ id, registry.Answered id → after.Answered id) :
    after.Books config := by
  obtain ⟨room, free, reserved⟩ := OperationRegistryInner.startLocked_ok admitted
  have slot : ∀ id, after.inner.slot id = if call.id = id then _ else registry.inner.slot id :=
    fun id => by rw [is, reserved, OperationRegistryInner.slot_reserve]
  have fresh : ∀ task ∈ registry.tasks, task.id ≠ call.id := fun task mem' same =>
    (books.started task mem').2 call mem same.symm
  have kept : ∀ task ∈ registry.tasks,
      OperationRegistryInner.Kept registry.inner after.inner task.id := fun task mem' =>
    .same (by rw [slot, if_neg (fresh task mem').symm])
  have split : ∀ task ∈ after.tasks, task ∈ registry.tasks ∨
      task = ⟨call.id, call.spec.concurrencyKey, .admitted⟩ := fun task mem' => by
    rw [tasks, List.mem_append, List.mem_singleton] at mem'
    exact mem'
  have admittedSlot := slot call.id
  rw [if_pos rfl] at admittedSlot
  refine ⟨sound, ?_, fun task mem' => ?_, fun task mem' h => ?_, fun task mem' h => ?_,
    fun id h => ?_, fun task mem' => ?_, ?_, fun key => ?_, ?_, fun key => ?_⟩
  · rw [tasks]
    exact books.keyed.concat (lookup_none.mpr fresh)
  · rcases split task mem' with old | rfl
    · exact answered _ (books.started task old)
    · exact sound.answered _ (.inl (by rw [admittedSlot]; rfl))
  · rcases split task mem' with old | rfl
    · exact (kept task old).runs (books.runs task old h)
    · exact ⟨_, admittedSlot, rfl, rfl⟩
  · rcases split task mem' with old | rfl
    · exact (kept task old).settled (books.settled task old h)
    · exact absurd rfl h
  · rw [tasks]
    rw [slot] at h
    by_cases same : call.id = id
    · exact ⟨_, List.mem_append_right _ (List.mem_singleton.mpr rfl), same⟩
    · rw [if_neg same] at h
      obtain ⟨task, mem', same⟩ := books.owned id h
      exact ⟨task, List.mem_append_left _ mem', same⟩
  · rcases split task mem' with old | rfl
    · exact books.calm task old
    · exact fun h => nomatch h
  · rw [is, reserved, unfinished, tasks, List.countP_append]
    exact congrArg (· + 1) books.running
  · rw [is, reserved, OperationRegistryInner.runningFor_reserve, books.perKey, unfinishedFor,
      unfinishedFor, tasks, List.countP_append, List.countP_singleton]
    simp [OperationTask.isUnfinished]
  · rw [is, reserved]
    exact room
  · rw [is, reserved, OperationRegistryInner.runningFor_reserve]
    split
    · rename_i has
      exact free key has
    · exact books.perKey_le key

/-- A task goes from one unfinished phase to another. -/
theorem Books.moved {id : OperationId} {after : OperationRegistry} (books : registry.Books config)
    (before : registry.taskIs id .admitted) (inner : after.inner = registry.inner)
    (tasks : after.tasks = (registry.move id .running).tasks)
    (sound : after.Sound config) (answered : ∀ id, registry.Answered id → after.Answered id) :
    after.Books config := by
  obtain ⟨task, mem, rfl, phase⟩ := taskIs_iff.mp before
  have was : task.isUnfinished := by simp [OperationTask.isUnfinished, phase]
  have cases_move : ∀ task' ∈ after.tasks, task' ∈ registry.tasks ∨
      task' = { task with phase := .running } := fun task' mem' => by
    rw [tasks] at mem'
    rcases mem_move mem' with ⟨old, -⟩ | ⟨task₀, mem₀, same, is⟩
    · exact .inl old
    · rw [books.keyed.inj mem₀ mem same] at is
      exact .inr is
  have still : OperationTask.isUnfinished { task with phase := .running } := rfl
  have count := books.unfinished_move mem .running
  have counts := fun key => books.unfinishedFor_move mem .running key
  refine ⟨sound, tasks ▸ keys_move books.keyed, fun task' mem' => ?_, fun task' mem' h => ?_,
    fun task' mem' h => ?_, fun id h => ?_, fun task' mem' => ?_, ?_, fun key => ?_,
    inner ▸ books.running_le, fun key => inner ▸ books.perKey_le key⟩
  · rcases cases_move task' mem' with old | rfl
    · exact answered _ (books.started task' old)
    · exact answered _ (books.started task mem)
  · rw [inner]
    rcases cases_move task' mem' with old | rfl
    · exact books.runs task' old h
    · exact books.runs task mem was
  · rw [inner]
    rcases cases_move task' mem' with old | rfl
    · exact books.settled task' old h
    · exact absurd rfl h
  · rw [tasks]
    exact exists_move (books.owned id (inner ▸ h))
  · rcases cases_move task' mem' with old | rfl
    · exact books.calm task' old
    · exact fun h => nomatch h
  · have total : after.unfinished = (registry.move task.id .running).unfinished :=
      congrArg (List.countP _) tasks
    rw [if_pos was, if_pos still] at count
    rw [inner, books.running, total]
    exact (Nat.add_right_cancel count).symm
  · have total : after.unfinishedFor key = (registry.move task.id .running).unfinishedFor key :=
      congrArg (List.countP _) tasks
    have count := counts key
    simp only [was, still] at count
    rw [inner, books.perKey, total]
    exact (Nat.add_right_cancel count).symm

/-- A task ends. -/
theorem Books.ended {id : OperationId} {terminal : OperationTerminal} {after : OperationRegistry}
    (books : registry.Books config) (before : registry.taskIs id .running)
    (inner : after.inner = registry.inner.finish config id terminal registry.clock)
    (tasks : after.tasks = (registry.move id .ended).tasks)
    (sound : after.Sound config) (answered : ∀ id, registry.Answered id → after.Answered id) :
    after.Books config := by
  obtain ⟨task, mem, rfl, phase⟩ := taskIs_iff.mp before
  have was : task.isUnfinished := by simp [OperationTask.isUnfinished, phase]
  have cases_move : ∀ task' ∈ after.tasks, (task' ∈ registry.tasks ∧ task'.id ≠ task.id) ∨
      task' = { task with phase := .ended } := fun task' mem' => by
    rw [tasks] at mem'
    rcases mem_move mem' with old | ⟨task₀, mem₀, same, is⟩
    · exact .inl old
    · rw [books.keyed.inj mem₀ mem same] at is
      exact .inr is
  obtain ⟨slot, found, active, keyed⟩ := books.runs task mem was
  obtain ⟨running, perKey⟩ :=
    @OperationRegistryInner.finish_counts config registry.inner registry.clock task.id slot terminal
      books.ordered.bounded found active
  rw [← inner] at running perKey
  have gone : ¬ OperationTask.isUnfinished { task with phase := .ended } := nofun
  have count := books.unfinished_move mem .ended
  have counts := fun key => books.unfinishedFor_move mem .ended key
  refine ⟨sound, tasks ▸ keys_move books.keyed, fun task' mem' => ?_, fun task' mem' h => ?_,
    fun task' mem' h => ?_, fun id h => ?_, fun task' mem' => ?_, ?_, fun key => ?_, ?_,
    fun key => ?_⟩
  · rcases cases_move task' mem' with ⟨old, -⟩ | rfl
    · exact answered _ (books.started task' old)
    · exact answered _ (books.started task mem)
  · rw [inner]
    rcases cases_move task' mem' with ⟨old, other⟩ | rfl
    · exact (books.ordered.kept_finish other.symm).runs (books.runs task' old h)
    · cases h
  · rw [inner]
    rcases cases_move task' mem' with ⟨old, other⟩ | rfl
    · exact (books.ordered.kept_finish other.symm).settled (books.settled task' old h)
    · exact books.ordered.over_finish
  · rw [tasks]
    have effect : Effect config registry.clock registry.inner after.inner :=
      inner ▸ .finished task.id terminal
    exact exists_move (books.owned id (effect.found books.ordered h))
  · rcases cases_move task' mem' with ⟨old, -⟩ | rfl
    · exact books.calm task' old
    · exact fun h => nomatch h
  · have total : after.unfinished = (registry.move task.id .ended).unfinished :=
      congrArg (List.countP _) tasks
    rw [if_pos was, if_neg gone] at count
    rw [running, books.running, total]
    exact Nat.sub_eq_of_eq_add count.symm
  · have total : after.unfinishedFor key = (registry.move task.id .ended).unfinishedFor key :=
      congrArg (List.countP _) tasks
    have count := counts key
    simp only [was, gone, and_true, and_false, if_false, Bool.false_eq_true, Nat.add_zero] at count
    rw [perKey, books.perKey, total, keyed]
    exact Nat.sub_eq_of_eq_add count.symm
  · rw [running]
    exact (Nat.sub_le ..).trans books.running_le
  · rw [perKey]
    exact (Nat.sub_le ..).trans (books.perKey_le key)

/-- The section leaves the books right. -/
def Counted (registry : OperationRegistry) (turn : Turn) : Prop :=
  registry.panics turn.taken = false ∧ registry.overwrites turn.taken = false

theorem Books.perform (books : registry.Books config) (left : registry.IdsLeft turn)
    (counted : registry.Counted turn) : (registry.perform config turn.taken).Books config := by
  obtain ⟨unharmed, spared⟩ := counted
  have sound := Sound.perform books.toSound left spared
  have answered := fun id h => @Answered.perform config registry turn id h left spared
  rcases books.quiet_perform spared unharmed with
    ⟨id, is⟩ | ⟨id, is⟩ | ⟨id, returned, is⟩ | quiet
  · rw [is] at sound answered ⊢
    rcases @startLocked_section config registry id with
      same | ⟨call, mem, rfl, -, -, -, ⟨inner, tasks⟩ | ⟨admitted, tasks⟩⟩
    · exact same.symm ▸ books
    · exact books.quiet (.of_inner tasks inner) sound answered
    · exact books.admitted mem admitted rfl tasks sound answered
  · rw [is] at sound answered ⊢
    by_cases before : registry.taskIs id .admitted
    · have after : registry.perform config (.spawn id) =
          { registry.move id .running with retaining := registry.retaining ++ [id] } := if_pos before
      rw [after] at sound answered ⊢
      exact books.moved before rfl rfl sound answered
    · have same : registry.perform config (.spawn id) = registry := if_neg before
      exact same.symm ▸ books
  · rw [is] at sound answered ⊢
    by_cases before : registry.taskIs id .running
    · have after : registry.perform config (.ends id returned) = _ := if_pos before
      rw [after] at sound answered ⊢
      exact books.ended before rfl rfl sound answered
    · have same : registry.perform config (.ends id returned) = registry := if_neg before
      exact same.symm ▸ books
  · exact books.quiet quiet sound answered

theorem Books.advance (books : registry.Books config) (turn : Turn) :
    (registry.advance turn).Books config :=
  books.quiet (.of_inner rfl rfl) (books.toSound.advance turn) fun _ h => h

theorem Books.step (books : registry.Books config) (left : registry.IdsLeft turn)
    (counted : registry.Counted turn) : (registry.step config turn).Books config :=
  @Books.perform config (registry.advance turn) turn (books.advance turn) left counted

/-! ### Right books, step by step -/

theorem Books.warranted {taken : Section} (books : registry.Books config) :
    registry.WarrantedIn config taken := by
  cases taken with
  | start request =>
    intro error refused
    unfold OperationRegistry.start at refused
    split at refused
    · rename_i shut
      cases refused
      exact shut
    · dsimp only at refused
      split at refused
      · rename_i zero
        cases refused
        exact zero
      · cases refused
  | startLocked id =>
    intro call error _ refused
    unfold answerCall at refused
    rcases @OperationRegistryInner.startLocked_cases config registry.inner registry.clock call.id
      registry.admissionClosed call.spec with
      ⟨shut, is⟩ | ⟨full, is⟩ | ⟨key, has, full, is⟩ | ⟨-, -, is⟩
    · cases is.symm.trans refused
      exact shut
    · cases is.symm.trans refused
      show config.maxRunningGlobal ≤ registry.unfinished
      exact books.running ▸ full
    · cases is.symm.trans refused
      exact ⟨has, books.perKey key ▸ full⟩
    · cases is.symm.trans refused
  | _ => trivial

theorem Books.accounts (books : registry.Books config) (left : registry.IdsLeft turn)
    (counted : registry.Counted turn) : registry.Accounts config turn := by
  have after := books.step left counted
  have absorbs := books.toSound.absorbs counted.2
  refine ⟨after.running, after.perKey, after.running_le, after.perKey_le, fun task mem h => ?_,
    (books.advance turn).warranted⟩
  refine (after.settled task mem h).symm.imp_right fun gone => ⟨gone, ?_⟩
  by_contra! lost
  obtain ⟨unrecorded, found⟩ := lost
  have stays := absorbs.running task.id (Option.isSome_iff_ne_none.mpr found)
    (Option.not_isSome_iff_eq_none.mp unrecorded)
  rw [gone] at stays
  cases stays

/-- A panic leaves a count too high. -/
theorem Books.not_accounts_of_panic (books : registry.Books config)
    (harmed : registry.panics turn.taken) : ¬ registry.Accounts config turn := by
  intro accounts
  unfold panics at harmed
  split at harmed
  · rename_i id is
    have after : registry.step config turn = (registry.advance turn).move id .panicked := by
      rw [OperationRegistry.step, is]
      exact if_pos harmed
    obtain ⟨task, mem, rfl, phase⟩ := taskIs_iff.mp harmed
    have count := (books.advance turn).unfinished_move mem .panicked
    have was : task.isUnfinished := by simp [OperationTask.isUnfinished, phase]
    have gone : ¬ OperationTask.isUnfinished { task with phase := .panicked } := by
      simp [OperationTask.isUnfinished]
    rw [if_pos was, if_neg gone, ← (books.advance turn).running, ← after, ← accounts.running,
      after] at count
    exact absurd count (Nat.succ_ne_self _)
  · cases harmed

/-- A lost record leaves an ended operation without one. -/
theorem Books.not_accounts_of_overwrite (books : registry.Books config)
    (lost : registry.overwrites turn.taken) : ¬ registry.Accounts config turn := by
  intro accounts
  unfold overwrites at lost
  split at lost
  · rename_i id is
    obtain ⟨recorded, found, overwritten⟩ := OperationRegistryInner.detach_overwrites lost
    have after : registry.step config turn =
        (registry.advance turn).onInner fun inner => (inner.detach id).2 := by
      rw [OperationRegistry.step, is]
      rfl
    obtain ⟨r, held⟩ := Option.isSome_iff_exists.mp recorded
    obtain ⟨task, mem, rfl⟩ := books.owned id (OperationRegistryInner.slot_of_record held)
    have ended : ¬ task.isUnfinished := fun running => by
      obtain ⟨slot, there, active, -⟩ := books.runs task mem running
      rw [OperationRegistryInner.record_of_slot there, active] at held
      cases held
    have mem' : task ∈ (registry.step config turn).tasks := after ▸ mem
    rcases accounts.recorded task mem' ended with recorded' | ⟨gone, -⟩
    · have none : (registry.step config turn).inner.record task.id = none := after ▸ overwritten
      rw [none] at recorded'
      cases recorded'
    · have some : ((registry.step config turn).inner.slot task.id).isSome := after ▸ found
      rw [gone] at some
      cases some
  · cases lost

theorem Books.accounts_iff (books : registry.Books config) (left : registry.IdsLeft turn) :
    registry.Accounts config turn ↔ registry.Counted turn := by
  refine ⟨fun accounts => ⟨?_, ?_⟩, books.accounts left⟩
  · exact Bool.eq_false_of_not_eq_true fun harmed => books.not_accounts_of_panic harmed accounts
  · exact Bool.eq_false_of_not_eq_true fun lost => books.not_accounts_of_overwrite lost accounts

end OperationRegistry

open OperationRegistry

instance {registry : OperationRegistry} {turn : Turn} : Decidable (registry.Counted turn) :=
  inferInstanceAs (Decidable (_ = false ∧ _ = false))

theorem operations_accounted_iff (config : OperationRegistryConfig) (turns : List Turn)
    (left : Along (step config) IdsLeft .new turns) :
    Along (step config) (Accounts config) .new turns ↔ Along (step config) Counted .new turns := by
  have agree : ∀ registry turn, True → Books config registry →
      (Accounts config registry turn ∧ IdsLeft registry turn ↔
        Counted registry turn ∧ IdsLeft registry turn) := fun registry turn _ books =>
    and_congr_left fun left => books.accounts_iff left
  have preserved : ∀ registry turn, True → Books config registry →
      Counted registry turn ∧ IdsLeft registry turn → Books config (registry.step config turn) :=
    fun registry turn _ books allowed => books.step allowed.2 allowed.1
  have both : Along (step config) (fun registry turn => Accounts config registry turn ∧
        IdsLeft registry turn) .new turns ↔
      Along (step config) (fun registry turn => Counted registry turn ∧ IdsLeft registry turn)
        .new turns :=
    along_iff agree preserved .new fun turn _ => trivial
  rw [along_and, along_and] at both
  exact ⟨fun h => (both.mp ⟨h, left⟩).1, fun h => (both.mpr ⟨h, left⟩).1⟩

/-- Two operations of one key, the second refused while the first runs. -/
def sampleConflict : List Turn :=
  let request : OperationStartRequest :=
    ⟨"scan", ⟨"key-pool"⟩, none, some "station-1", .cooperative⟩
  [⟨0, .start request⟩, ⟨0, .startLocked 1⟩, ⟨0, .spawn 1⟩, ⟨0, .start request⟩, ⟨0, .startLocked 2⟩,
    ⟨0, .cancel 1⟩, ⟨3, .ends 1 (some .cancelled)⟩]

theorem operations_accounted_conflict :
    Along (step architectureBudget) (Accounts architectureBudget) .new sampleConflict :=
  (operations_accounted_iff architectureBudget _ (by decide)).mpr (by decide)

/-- A body that panics: its count is never given back. -/
theorem count_lost_by_panic : ¬ ∀ turns, Along (step architectureBudget) IdsLeft .new turns →
    Along (step architectureBudget) (Accounts architectureBudget) .new turns := by
  intro accounted
  have accounts := accounted (sampleConflict.take 3 ++ [⟨0, .panics 1⟩]) (by decide)
  have running := (along_append.mp accounts).2.1.running
  revert running
  decide

end RelayPool.Operations
