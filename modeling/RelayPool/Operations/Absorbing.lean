import RelayPool.Operations.Tasks
import RelayPool.Operations.Queue

/-! Terminal results are absorbing.

Once an operation has a terminal record, the record stays as it is until `gc` finds it too
old or `finish` evicts it as the oldest of too many; a slot without a record stays; and an
operation that has been removed is never found again. The only call that breaks this is a
`detach` that reaches a cooperative operation after its end (`terminals_absorbing_iff`). -/
namespace RelayPool.Operations
open Table Runs

/-! ### What a section does to the registry -/

/-- A section that neither draws an id nor admits an operation. -/
inductive Effect (config : OperationRegistryConfig) (now : Instant)
    (inner : OperationRegistryInner) : OperationRegistryInner → Prop
  | same : Effect config now inner inner
  | touched {inner' : OperationRegistryInner} (touches : inner.Touches inner') :
    Effect config now inner inner'
  | finished (id : OperationId) (terminal : OperationTerminal) :
    Effect config now inner (inner.finish config id terminal now)
  | collected : Effect config now inner (inner.gc config now)

section Effects
variable {config : OperationRegistryConfig} {now : Instant} {inner inner' : OperationRegistryInner}

theorem Effect.of_touches (h : inner' = inner ∨ inner.Touches inner') :
    Effect config now inner inner' := by
  rcases h with rfl | touches
  · exact .same
  · exact .touched touches

theorem Effect.ordered (effect : Effect config now inner inner')
    (ordered : inner.Ordered config now) : inner'.Ordered config now := by
  cases effect with
  | same => exact ordered
  | touched touches => exact ordered.touches touches
  | finished id terminal => exact ordered.finish
  | collected => exact ordered.gc

theorem Effect.absorbs (effect : Effect config now inner inner')
    (ordered : inner.Ordered config now) : inner.Absorbs config now inner' := by
  cases effect with
  | same => exact .of_record rfl fun _ h => h
  | touched touches =>
    exact .of_record touches.record_eq fun id h => (touches.isSome_slot id).symm ▸ h
  | finished id terminal => exact ordered.absorbs_finish
  | collected => exact ordered.absorbs_gc

/-- It creates no slot. -/
theorem Effect.found (effect : Effect config now inner inner')
    (ordered : inner.Ordered config now) {id : OperationId} (h : (inner'.slot id).isSome) :
    (inner.slot id).isSome := by
  cases effect with
  | same => exact h
  | touched touches => exact touches.isSome_slot id ▸ h
  | collected =>
    rcases OperationRegistryInner.gc_cases ordered.keyed id with same | ⟨gone, -⟩
    · exact same ▸ h
    · rw [gone] at h
      cases h
  | finished id' terminal =>
    rcases @OperationRegistryInner.finish_cases config inner now id' terminal ordered.bounded with
      ⟨same, -⟩ | ⟨row, found, active, ⟨room, is⟩ | ⟨oldest, rest, order, full, is⟩⟩
    · exact same ▸ h
    · rw [is, OperationRegistryInner.isSome_slot_recordTerminal] at h
      exact h
    · have kept : (((inner.recordTerminal row terminal now).expire oldest now).slot id).isSome :=
        by rw [is] at h; exact h
      rw [OperationRegistryInner.slot_expire] at kept
      split at kept
      · cases kept
      · rwa [OperationRegistryInner.isSome_slot_recordTerminal] at kept

/-- What it adds to the queue has a slot. -/
theorem Effect.queue (effect : Effect config now inner inner')
    (ordered : inner.Ordered config now) {id : OperationId} (h : id ∈ inner'.terminalOrder) :
    id ∈ inner.terminalOrder ∨ (inner.slot id).isSome := by
  cases effect with
  | same => exact .inl h
  | touched touches => exact .inl (touches.rest.1 ▸ h)
  | collected => exact .inl (OperationRegistryInner.gc_rest.1 ▸ h)
  | finished id' terminal =>
    rcases @OperationRegistryInner.finish_cases config inner now id' terminal ordered.bounded with
      ⟨same, -⟩ | ⟨row, found, active, ⟨room, is⟩ | ⟨oldest, rest, order, full, is⟩⟩
    · exact .inl (same ▸ h)
    · rw [is] at h
      rcases List.mem_append.mp h with old | new
      · exact .inl old
      · have : id = id' := (List.mem_singleton.mp new).trans (OperationRegistryInner.slot_id found)
        exact .inr (by rw [this, found]; rfl)
    · rw [is] at h
      rcases List.mem_append.mp h with old | new
      · exact .inl (order ▸ List.mem_cons_of_mem _ old)
      · exact .inr (by rw [List.mem_singleton.mp new, found]; rfl)

end Effects

namespace OperationRegistry

variable {config : OperationRegistryConfig} {registry : OperationRegistry} {turn : Turn}

/-- A `detach` that overwrites a terminal record. -/
def overwrites (registry : OperationRegistry) : Section → Bool
  | .detach id => registry.inner.overwrites id
  | _ => false

/-- What a section does, apart from the two that start an operation. -/
theorem perform_cases {taken : Section} (spared : registry.overwrites taken = false) :
    (∃ request, taken = .start request) ∨ (∃ id, taken = .startLocked id) ∨
      (Effect config registry.clock registry.inner (registry.perform config taken).inner ∧
        (registry.perform config taken).starting = registry.starting ∧
        (registry.perform config taken).nextId = registry.nextId ∧
        (registry.perform config taken).clock = registry.clock) := by
  cases taken with
  | start request => exact .inl ⟨request, rfl⟩
  | startLocked id => exact .inr (.inl ⟨id, rfl⟩)
  | spawn id =>
    refine .inr (.inr ?_)
    simp only [perform]
    split <;> exact ⟨.same, rfl, rfl, rfl⟩
  | retainJoin id =>
    refine .inr (.inr ?_)
    simp only [perform]
    split
    · exact ⟨.of_touches OperationRegistryInner.touches_retainJoin, rfl, rfl, rfl⟩
    · exact ⟨.same, rfl, rfl, rfl⟩
  | ends id returned =>
    refine .inr (.inr ?_)
    simp only [perform]
    split
    · exact ⟨.finished id _, rfl, rfl, rfl⟩
    · exact ⟨.same, rfl, rfl, rfl⟩
  | panics id =>
    refine .inr (.inr ?_)
    simp only [perform]
    split <;> exact ⟨.same, rfl, rfl, rfl⟩
  | enterCommitBarrier id =>
    refine .inr (.inr ?_)
    simp only [perform]
    split
    · exact ⟨.of_touches OperationRegistryInner.touches_enterCommitBarrier, rfl, rfl, rfl⟩
    · exact ⟨.same, rfl, rfl, rfl⟩
  | progress id message =>
    refine .inr (.inr ?_)
    simp only [perform]
    split
    · rename_i inner written
      exact ⟨.touched (OperationRegistryInner.touches_progress written), rfl, rfl, rfl⟩
    · exact ⟨.same, rfl, rfl, rfl⟩
  | status id => exact .inr (.inr ⟨.same, rfl, rfl, rfl⟩)
  | cancel id =>
    exact .inr (.inr ⟨.of_touches OperationRegistryInner.touches_cancel, rfl, rfl, rfl⟩)
  | joined id =>
    refine .inr (.inr ?_)
    simp only [perform]
    split
    · split
      · exact ⟨.finished id panicked, rfl, rfl, rfl⟩
      · split <;> exact ⟨.same, rfl, rfl, rfl⟩
    · exact ⟨.same, rfl, rfl, rfl⟩
  | gaveUp id => exact .inr (.inr ⟨.same, rfl, rfl, rfl⟩)
  | detach id =>
    exact .inr (.inr ⟨.of_touches (OperationRegistryInner.touches_detach spared), rfl, rfl, rfl⟩)
  | gc => exact .inr (.inr ⟨.collected, rfl, rfl, rfl⟩)
  | stopAdmission => exact .inr (.inr ⟨.same, rfl, rfl, rfl⟩)

/-! ### Ids -/

/-- The section does not exhaust the 64-bit ids. -/
def IdsLeft (registry : OperationRegistry) (turn : Turn) : Prop :=
  turn.taken.isStart → registry.nextId + 1 < 2 ^ 64

instance : Decidable (IdsLeft registry turn) :=
  inferInstanceAs (Decidable (turn.taken.isStart → registry.nextId + 1 < 2 ^ 64))

/-- The id was drawn and its start has been answered. -/
def Answered (registry : OperationRegistry) (id : OperationId) : Prop :=
  id < registry.nextId ∧ ∀ call ∈ registry.starting, call.id ≠ id

structure Sound (config : OperationRegistryConfig) (registry : OperationRegistry) : Prop where
  ordered : registry.inner.Ordered config registry.clock
  answered : ∀ id, (registry.inner.slot id).isSome ∨ id ∈ registry.inner.terminalOrder →
    registry.Answered id
  drawn : ∀ call ∈ registry.starting, call.id < registry.nextId

theorem Sound.new : Sound config .new where
  ordered := .empty
  answered := fun _ h => h.elim (fun h => nomatch h) fun h => nomatch h
  drawn := nofun

theorem Sound.advance (sound : registry.Sound config) (turn : Turn) :
    (registry.advance turn).Sound config where
  ordered := sound.ordered.later (Nat.le_add_right _ _)
  answered := sound.answered
  drawn := sound.drawn

theorem start_cases (request : OperationStartRequest) :
    ∃ spec : RunningOperationSpec, let after := (registry.start config request).2
      after.inner = registry.inner ∧ after.clock = registry.clock ∧ after.tasks = registry.tasks ∧
        (after = registry ∨ after.nextId = (registry.nextId + 1) % 2 ^ 64 ∧
          (after.starting = registry.starting ∨
            after.starting = registry.starting ++ [⟨registry.nextId, spec⟩])) := by
  refine ⟨specOf config request, ?_⟩
  unfold start
  split
  · exact ⟨rfl, rfl, rfl, .inl rfl⟩
  · dsimp only
    split
    · exact ⟨rfl, rfl, rfl, .inr ⟨rfl, .inl rfl⟩⟩
    · exact ⟨rfl, rfl, rfl, .inr ⟨rfl, .inr rfl⟩⟩

theorem startLocked_section (id : OperationId) :
    let after := registry.perform config (.startLocked id)
    after = registry ∨ ∃ call ∈ registry.starting, call.id = id ∧
      after.nextId = registry.nextId ∧ after.clock = registry.clock ∧
      after.starting = registry.starting.filter (·.id ≠ id) ∧
      (after.inner = registry.inner ∧ after.tasks = registry.tasks ∨
        registry.answerCall config call = .ok after.inner ∧
          after.tasks = registry.tasks ++ [⟨id, call.spec.concurrencyKey, .admitted⟩]) := by
  simp only [perform]
  split
  · exact .inl rfl
  · rename_i call found
    obtain ⟨mem, same⟩ := lookup_some found
    refine .inr ⟨call, mem, same, ?_⟩
    split
    · exact ⟨rfl, rfl, rfl, .inl ⟨rfl, rfl⟩⟩
    · rename_i inner admitted
      exact ⟨rfl, rfl, rfl, .inr ⟨admitted, rfl⟩⟩

/-- An answered id stays answered. -/
theorem Answered.perform {id : OperationId} (answered : registry.Answered id)
    (left : registry.IdsLeft turn) (spared : registry.overwrites turn.taken = false) :
    (registry.perform config turn.taken).Answered id := by
  rcases @perform_cases config registry _ spared with
    ⟨request, is⟩ | ⟨id', is⟩ | ⟨-, starting, next, -⟩
  · have left := left (congrArg Section.isStart is)
    rw [is]
    show (registry.start config request).2.Answered id
    obtain ⟨spec, -, -, -, same | ⟨next, same | starting⟩⟩ := @start_cases config registry request
    · rw [same]
      exact answered
    · rw [Nat.mod_eq_of_lt left] at next
      exact ⟨next ▸ Nat.lt_succ_of_lt answered.1, same ▸ answered.2⟩
    · rw [Nat.mod_eq_of_lt left] at next
      refine ⟨next ▸ Nat.lt_succ_of_lt answered.1, fun call mem => ?_⟩
      rw [starting] at mem
      rcases List.mem_append.mp mem with old | new
      · exact answered.2 call old
      · rw [List.mem_singleton.mp new]
        exact (Nat.ne_of_lt answered.1).symm
  · rw [is]
    rcases @startLocked_section config registry id' with same | ⟨call, mem, rfl, next, -, starting, -⟩
    · exact same.symm ▸ answered
    · refine ⟨next ▸ answered.1, fun other mem' => answered.2 other ?_⟩
      rw [starting] at mem'
      exact (List.mem_filter.mp mem').1
  · exact ⟨next ▸ answered.1, starting ▸ answered.2⟩

/-- A slot that appears is that of an operation whose start was waiting. -/
theorem Sound.found {id : OperationId} (sound : registry.Sound config) {taken : Section}
    (spared : registry.overwrites taken = false)
    (h : ((registry.perform config taken).inner.slot id).isSome) :
    (registry.inner.slot id).isSome ∨ ∃ call ∈ registry.starting, call.id = id ∧
      taken = .startLocked id ∧ (registry.perform config taken).inner.record = registry.inner.record := by
  rcases @perform_cases config registry _ spared with ⟨request, is⟩ | ⟨id', is⟩ | ⟨effect, -⟩
  · rw [is] at h
    obtain ⟨spec, inner, -⟩ := @start_cases config registry request
    exact .inl (inner ▸ h)
  · subst is
    rcases @startLocked_section config registry id' with same | ⟨call, mem, rfl, -, -, -, ⟨inner, -⟩ | ⟨admitted, -⟩⟩
    · exact .inl (same ▸ h)
    · exact .inl (inner ▸ h)
    · have is := (OperationRegistryInner.startLocked_ok admitted).2.2
      have unused : registry.inner.slot call.id = none := by
        rw [← Option.not_isSome_iff_eq_none]
        exact fun found => (sound.answered _ (.inl found)).2 call mem rfl
      rw [is, OperationRegistryInner.slot_reserve] at h
      split at h
      · rename_i same
        refine .inr ⟨call, mem, same, same ▸ rfl, ?_⟩
        rw [is]
        exact OperationRegistryInner.record_reserve unused
      · exact .inl h
  · exact .inl (effect.found sound.ordered h)

theorem drawn_start {request : OperationStartRequest} (left : registry.nextId + 1 < 2 ^ 64)
    (drawn : ∀ call ∈ registry.starting, call.id < registry.nextId) :
    ∀ call ∈ (registry.start config request).2.starting,
      call.id < (registry.start config request).2.nextId := by
  obtain ⟨spec, -, -, -, same | ⟨next, same | starting⟩⟩ := @start_cases config registry request
  · rw [same]
    exact drawn
  · rw [next, same, Nat.mod_eq_of_lt left]
    exact fun call mem => Nat.lt_succ_of_lt (drawn call mem)
  · rw [next, starting, Nat.mod_eq_of_lt left]
    intro call mem
    rcases List.mem_append.mp mem with old | new
    · exact Nat.lt_succ_of_lt (drawn call old)
    · rw [List.mem_singleton.mp new]
      exact Nat.lt_succ_self _

theorem Sound.perform (sound : registry.Sound config) (left : registry.IdsLeft turn)
    (spared : registry.overwrites turn.taken = false) :
    (registry.perform config turn.taken).Sound config := by
  have answered := fun id (h : registry.Answered id) => @Answered.perform config registry turn id h left spared
  rcases @perform_cases config registry _ spared with
    ⟨request, is⟩ | ⟨id, is⟩ | ⟨effect, starting, next, clock⟩
  · rw [is] at answered ⊢
    have left := left (congrArg Section.isStart is)
    obtain ⟨spec, inner, clock, -⟩ := @start_cases config registry request
    have inner : (registry.perform config (.start request)).inner = registry.inner := inner
    have clock : (registry.perform config (.start request)).clock = registry.clock := clock
    exact ⟨inner ▸ clock ▸ sound.ordered, fun id h => answered id (sound.answered id (inner ▸ h)),
      drawn_start left sound.drawn⟩
  · rw [is] at answered ⊢
    rcases @startLocked_section config registry id with
      same | ⟨call, mem, rfl, next, clock, starting, ⟨inner, -⟩ | ⟨admitted, -⟩⟩
    · rw [same]
      exact sound
    · refine ⟨inner ▸ clock ▸ sound.ordered, fun id h => answered id (sound.answered id (inner ▸ h)), ?_⟩
      rw [next, starting]
      exact fun other mem => sound.drawn other (List.mem_filter.mp mem).1
    · have reserved := (OperationRegistryInner.startLocked_ok admitted).2.2
      have unused : registry.inner.slot call.id = none ∧ call.id ∉ registry.inner.terminalOrder := by
        rw [← Option.not_isSome_iff_eq_none]
        exact ⟨fun found => (sound.answered _ (.inl found)).2 call mem rfl,
          fun queued => (sound.answered _ (.inr queued)).2 call mem rfl⟩
      refine ⟨?_, fun id h => ?_, ?_⟩
      · rw [reserved, clock]
        exact sound.ordered.reserve unused.1 unused.2
      · rw [reserved, OperationRegistryInner.slot_reserve] at h
        by_cases same : call.id = id
        · refine ⟨same ▸ next ▸ sound.drawn call mem, fun other mem' => ?_⟩
          rw [starting] at mem'
          exact same ▸ of_decide_eq_true (List.mem_filter.mp mem').2
        · rw [if_neg same] at h
          exact answered id (sound.answered id h)
      · rw [next, starting]
        exact fun other mem => sound.drawn other (List.mem_filter.mp mem).1
  · refine ⟨clock ▸ effect.ordered sound.ordered, fun id h => answered id ?_, ?_⟩
    · refine sound.answered id (h.elim (fun h => .inl (effect.found sound.ordered h)) fun h => ?_)
      exact (effect.queue sound.ordered h).symm
    · rw [starting, next]
      exact sound.drawn

theorem Sound.step (sound : registry.Sound config) (left : registry.IdsLeft turn)
    (spared : registry.overwrites turn.taken = false) : (registry.step config turn).Sound config :=
  @Sound.perform config (registry.advance turn) turn (sound.advance turn) left spared

/-! ### Sections absorb terminal records -/

/-- What one section does to the records of the registry. -/
def Absorbs (config : OperationRegistryConfig) (registry : OperationRegistry) (turn : Turn) : Prop :=
  registry.inner.Absorbs config (registry.step config turn).clock (registry.step config turn).inner

theorem Sound.absorbs (sound : registry.Sound config)
    (spared : registry.overwrites turn.taken = false) : registry.Absorbs config turn := by
  have sound := sound.advance turn
  unfold OperationRegistry.Absorbs OperationRegistry.step
  rcases @perform_cases config (registry.advance turn) _ spared with
    ⟨request, is⟩ | ⟨id, is⟩ | ⟨effect, -, -, clock⟩
  · rw [is]
    obtain ⟨spec, inner, -⟩ := @start_cases config (registry.advance turn) request
    have inner : ((registry.advance turn).perform config (.start request)).inner = registry.inner :=
      inner
    exact .of_record (by rw [inner]) fun _ h => inner.symm ▸ h
  · rw [is]
    rcases @startLocked_section config (registry.advance turn) id with
      same | ⟨call, mem, rfl, -, -, -, ⟨inner, -⟩ | ⟨admitted, -⟩⟩
    · exact .of_record (by rw [same]; rfl) fun _ h => same.symm ▸ h
    · exact .of_record (by rw [inner]; rfl) fun _ h => inner.symm ▸ h
    · have reserved := (OperationRegistryInner.startLocked_ok admitted).2.2
      have unused : (registry.advance turn).inner.slot call.id = none := by
        rw [← Option.not_isSome_iff_eq_none]
        exact fun found => (sound.answered _ (.inl found)).2 call mem rfl
      refine .of_record (reserved ▸ OperationRegistryInner.record_reserve unused) fun id h => ?_
      rw [reserved, OperationRegistryInner.slot_reserve]
      split
      · rfl
      · exact h
  · exact clock ▸ effect.absorbs sound.ordered

/-- An overwritten record is lost. -/
theorem not_absorbs (lost : registry.overwrites turn.taken) : ¬ registry.Absorbs config turn := by
  intro absorbs
  unfold overwrites at lost
  split at lost
  · rename_i id is
    obtain ⟨recorded, found, overwritten⟩ := OperationRegistryInner.detach_overwrites lost
    have after : (registry.step config turn).inner = (registry.inner.detach id).2 := by
      rw [OperationRegistry.step, is]
      rfl
    obtain ⟨⟨result, recordedAt⟩, held⟩ := Option.isSome_iff_exists.mp recorded
    rcases absorbs.kept id result recordedAt held with kept | ⟨gone, -⟩
    · rw [after, overwritten] at kept
      cases kept
    · rw [after] at gone
      rw [gone] at found
      cases found
  · cases lost

/-! ### Runs -/

/-- No section so far has drawn the last id or overwritten a record. -/
def Spared (registry : OperationRegistry) (turn : Turn) : Prop :=
  registry.IdsLeft turn ∧ registry.overwrites turn.taken = false

theorem Answered.run {id : OperationId} {turns : List Turn} (answered : registry.Answered id)
    (along : Along (OperationRegistry.step config) Spared registry turns) :
    (Runs.run (OperationRegistry.step config) registry turns).Answered id :=
  have preserved : ∀ registry turn, Spared registry turn → Answered registry id →
      Answered (registry.step config turn) id := fun registry turn spared answered =>
    @Answered.perform config (registry.advance turn) turn _ answered spared.1 spared.2
  run_invariant_along preserved answered along

theorem gone_run {id : OperationId} {turns : List Turn} (sound : registry.Sound config)
    (answered : registry.Answered id) (gone : registry.inner.slot id = none)
    (along : Along (step config) Spared registry turns) :
    (run (step config) registry turns).inner.slot id = none := by
  induction turns generalizing registry with
  | nil => exact gone
  | cons turn rest ih =>
    obtain ⟨⟨left, spared⟩, along⟩ := along
    have answered' : (registry.step config turn).Answered id :=
      @Answered.perform config (registry.advance turn) turn _ answered left spared
    refine ih (sound.step left spared) answered' ?_ along
    rw [← Option.not_isSome_iff_eq_none]
    intro found
    rcases Sound.found (sound.advance turn) spared found with found | ⟨call, mem, same, -⟩
    · rw [show (registry.advance turn).inner.slot id = none from gone] at found
      cases found
    · exact answered.2 call mem same

theorem record_run {id : OperationId} {r : OperationTerminal × Instant} {turns : List Turn}
    (sound : registry.Sound config) (held : registry.inner.record id = some r)
    (along : Along (step config) Spared registry turns) :
    (run (step config) registry turns).inner.record id = some r ∨
      (run (step config) registry turns).inner.slot id = none := by
  induction turns generalizing registry with
  | nil => exact .inl held
  | cons turn rest ih =>
    obtain ⟨⟨left, spared⟩, along⟩ := along
    have answered : (registry.step config turn).Answered id :=
      @Answered.perform config (registry.advance turn) turn _
        (sound.answered id (.inl (OperationRegistryInner.slot_of_record held))) left spared
    rcases (sound.absorbs spared).kept id r.1 r.2 held with kept | ⟨gone, -⟩
    · exact ih (sound.step left spared) kept along
    · have later := gone_run (sound.step left spared) answered gone along
      exact .inr later

theorem Sound.run {turns : List Turn} (sound : registry.Sound config)
    (along : Along (OperationRegistry.step config) Spared registry turns) :
    (Runs.run (OperationRegistry.step config) registry turns).Sound config :=
  have preserved : ∀ registry turn, Spared registry turn → Sound config registry →
      Sound config (registry.step config turn) := fun _ _ spared sound => sound.step spared.1 spared.2
  run_invariant_along preserved sound along

end OperationRegistry

open OperationRegistry

/-- The status call returns this terminal record. -/
def Returns (inner : OperationRegistryInner) (id : OperationId) (result : OperationTerminal)
    (recordedAt : Instant) : Prop :=
  ∃ snapshot, inner.status id = .ok snapshot ∧ snapshot.terminal = some result ∧
    snapshot.state = .terminal result recordedAt

theorem returns_of_record {inner : OperationRegistryInner} {id : OperationId}
    {result : OperationTerminal} {recordedAt : Instant}
    (held : inner.record id = some (result, recordedAt)) : Returns inner id result recordedAt := by
  obtain ⟨slot, found, isTerminal⟩ := OperationRegistryInner.record_some held
  refine ⟨_, by rw [OperationRegistryInner.status, found], ?_, ?_⟩
  · show slot.state.record.map Prod.fst = _
    rw [isTerminal]
    rfl
  · show slot.state = _
    unfold OperationState.record at isTerminal
    split at isTerminal
    · cases isTerminal
      assumption
    · cases isTerminal
    · cases isTerminal

/-- Terminal records are absorbing over the whole run: every section keeps them or removes
them by the rules, later status calls return them or find nothing, and what was removed is
not found again. -/
structure TerminalsAbsorbing (config : OperationRegistryConfig) (turns : List Turn) : Prop where
  sections : Along (step config) (Absorbs config) .new turns
  returned : ∀ before after id result recordedAt, turns = before ++ after →
    (run (step config) .new before).inner.record id = some (result, recordedAt) →
    Returns (run (step config) .new turns).inner id result recordedAt ∨
      (run (step config) .new turns).inner.slot id = none
  removed : ∀ before middle after id, turns = before ++ middle ++ after →
    ((run (step config) .new before).inner.slot id).isSome →
    (run (step config) .new (before ++ middle)).inner.slot id = none →
    (run (step config) .new turns).inner.slot id = none

theorem terminals_absorbing_iff (config : OperationRegistryConfig) (turns : List Turn)
    (left : Along (step config) IdsLeft .new turns) :
    TerminalsAbsorbing config turns ↔
      Along (step config) (fun registry turn => registry.overwrites turn.taken = false) .new turns := by
  constructor
  · intro absorbing
    refine absorbing.sections.mono fun registry turn absorbs => ?_
    exact Bool.eq_false_of_not_eq_true fun lost => not_absorbs lost absorbs
  · intro spared
    have along : Along (step config) Spared .new turns := along_and.mpr ⟨left, spared⟩
    have preserved : ∀ registry turn, Spared registry turn → Sound config registry →
        Absorbs config registry turn ∧ Sound config (registry.step config turn) :=
      fun _ _ spared sound => ⟨sound.absorbs spared.2, sound.step spared.1 spared.2⟩
    refine ⟨along.imp_invariant preserved .new, fun before after id result recordedAt is held => ?_,
      fun before middle after id is found gone => ?_⟩
    · subst is
      obtain ⟨first, later⟩ := along_append.mp along
      rw [run_append]
      rcases record_run (Sound.run .new first) held later with kept | gone
      · exact .inl (returns_of_record kept)
      · exact .inr gone
    · subst is
      obtain ⟨first, later⟩ := along_append.mp along
      have answered := (Sound.run .new (along_append.mp first).1).answered id (.inl found)
      rw [run_append]
      refine gone_run (Sound.run .new first) ?_ gone later
      rw [run_append]
      exact answered.run (along_append.mp first).2

/-- An operation that is started and completes. -/
def sampleCompleted : List Turn :=
  [⟨0, .start ⟨"connectivity", ⟨"key-pool"⟩, none, none, .cooperative⟩⟩, ⟨0, .startLocked 1⟩,
    ⟨0, .spawn 1⟩, ⟨5, .ends 1 (some .completed)⟩]

theorem terminals_absorbing_status :
    TerminalsAbsorbing architectureBudget (sampleCompleted ++ [⟨1, .status 1⟩, ⟨fromMillis 900000, .gc⟩]) :=
  (terminals_absorbing_iff architectureBudget _ (by decide)).mpr (by decide)

/-- A `detach` after the end: later status calls find the operation stopping. -/
theorem terminal_lost_by_detach :
    ¬ TerminalsAbsorbing architectureBudget (sampleCompleted ++ [⟨1, .detach 1⟩]) := by
  intro absorbing
  have held : (run (step architectureBudget) .new sampleCompleted).inner.record 1 =
      some (.completed, 5) := by decide
  have found : ((run (step architectureBudget) .new (sampleCompleted ++ [⟨1, .detach 1⟩])).inner.slot
      1).isSome := by decide
  have stopping : ∀ snapshot, (run (step architectureBudget) .new
      (sampleCompleted ++ [⟨1, .detach 1⟩])).inner.status 1 = .ok snapshot →
      snapshot.terminal = none := fun snapshot is => by cases is; rfl
  rcases absorbing.returned sampleCompleted _ 1 .completed 5 rfl held with
    ⟨snapshot, is, returned, -⟩ | gone
  · rw [stopping snapshot is] at returned
    cases returned
  · rw [gone] at found
    cases found

end RelayPool.Operations
