import RelayPool.Operations.Registry

/-! Terminal records.

What each call does to the terminal records and to the queue that orders them. The queue
may name records that `gc` has already removed, but only before all those that are still
there, and it is in the order in which they were recorded (`Ordered`). So the record that
`finish` evicts is the oldest one, and it evicts one only when there are too many. -/
namespace RelayPool.Operations
open Table

namespace OperationRegistryInner

variable {config : OperationRegistryConfig} {inner inner' : OperationRegistryInner}
  {now clock : Instant} {id : OperationId} {row row' : OperationSlot}

structure OperationRegistryMetrics where
  running : Nat
  stored : Nat
  terminal : Nat
  expiredTombstones : Nat

def metrics (inner : OperationRegistryInner) : OperationRegistryMetrics where
  running := inner.runningCount
  stored := inner.slots.length
  terminal := inner.slots.countP (·.terminal.isSome)
  expiredTombstones := inner.expiredTombstones.length

/-! ### Slots and records -/

theorem slot_id (h : inner.slot id = some row) : row.id = id := (lookup_some h).2

theorem slot_put : (inner.put row').slot id =
    if row'.id = id then (inner.slot id).map fun _ => row' else inner.slot id := lookup_put

theorem record_of_slot (h : inner.slot id = some row) : inner.record id = row.state.record := by
  rw [record, h, Option.bind_some]

theorem record_of_none (h : inner.slot id = none) : inner.record id = none := by
  rw [record, h, Option.bind_none]

theorem record_some {r : OperationTerminal × Instant} (h : inner.record id = some r) :
    ∃ slot, inner.slot id = some slot ∧ slot.state.record = some r := Option.bind_eq_some_iff.mp h

theorem slot_of_record {r : OperationTerminal × Instant} (h : inner.record id = some r) :
    (inner.slot id).isSome := by
  obtain ⟨slot, found, -⟩ := record_some h
  rw [found, Option.isSome_some]

/-! ### Calls that leave the records alone -/

/-- One slot changes, apart from its record and its specification. -/
def Touches (inner inner' : OperationRegistryInner) : Prop :=
  ∃ slot slot', inner.slot slot'.id = some slot ∧ slot'.spec = slot.spec ∧
    slot'.state.record = slot.state.record ∧ inner' = inner.put slot'

theorem Touches.of_slot (found : inner.slot id = some row) (same : row'.id = row.id)
    (spec : row'.spec = row.spec) (record : row'.state.record = row.state.record) :
    Touches inner (inner.put row') :=
  ⟨row, row', by rw [same, slot_id found, found], spec, record, rfl⟩

theorem Touches.slot_cases (touches : Touches inner inner') (id : OperationId) :
    inner'.slot id = inner.slot id ∨
      ∃ slot slot', inner.slot id = some slot ∧ inner'.slot id = some slot' ∧
        slot'.spec = slot.spec ∧ slot'.state.record = slot.state.record := by
  obtain ⟨slot, slot', found, spec, record, rfl⟩ := touches
  rw [slot_put]
  split
  · rename_i same
    subst same
    exact .inr ⟨slot, slot', found, by rw [found]; rfl, spec, record⟩
  · exact .inl rfl

theorem Touches.record_eq (touches : Touches inner inner') : inner'.record = inner.record := by
  funext id
  rcases touches.slot_cases id with same | ⟨slot, slot', before, after, -, record⟩
  · rw [OperationRegistryInner.record, same, OperationRegistryInner.record]
  · rw [record_of_slot before, record_of_slot after, record]

theorem Touches.isSome_slot (touches : Touches inner inner') (id : OperationId) :
    (inner'.slot id).isSome = (inner.slot id).isSome := by
  rcases touches.slot_cases id with same | ⟨slot, slot', before, after, -⟩
  · rw [same]
  · rw [before, after, Option.isSome_some, Option.isSome_some]

theorem Touches.rest (touches : Touches inner inner') :
    inner'.terminalOrder = inner.terminalOrder ∧ inner'.runningCount = inner.runningCount ∧
      inner'.runningByConcurrencyKey = inner.runningByConcurrencyKey := by
  obtain ⟨-, -, -, -, -, rfl⟩ := touches
  exact ⟨rfl, rfl, rfl⟩

theorem Touches.keyed (touches : Touches inner inner') (keyed : Keyed (·.id) inner.slots) :
    Keyed (·.id) inner'.slots := by
  obtain ⟨-, -, -, -, -, rfl⟩ := touches
  exact keyed.put

theorem touches_retainJoin : inner.retainJoin id = inner ∨ Touches inner (inner.retainJoin id) := by
  unfold retainJoin
  split
  · rename_i slot found
    exact .inr (.of_slot found rfl rfl rfl)
  · exact .inl rfl

theorem touches_enterCommitBarrier :
    inner.enterCommitBarrier id = inner ∨ Touches inner (inner.enterCommitBarrier id) := by
  unfold enterCommitBarrier
  split
  · rename_i slot found
    exact .inr (.of_slot found rfl rfl rfl)
  · exact .inl rfl

theorem touches_progress {message : String} (h : inner.progress config id message = .ok inner') :
    Touches inner inner' := by
  unfold progress at h
  split at h
  · cases h
  · split at h
    · cases h
    · rename_i slot found
      split at h
      · cases h
      · cases h
        exact .of_slot found rfl rfl rfl

theorem touches_cancel : (inner.cancel id).2 = inner ∨ Touches inner (inner.cancel id).2 := by
  unfold cancel
  split
  · exact .inl rfl
  · rename_i slot found
    split
    · exact .inl rfl
    · rename_i active
      exact .inr (.of_slot found rfl rfl active.symm)

/-- The detached operation has a terminal record that `detach` overwrites. -/
def overwrites (inner : OperationRegistryInner) (id : OperationId) : Bool :=
  (inner.slot id).any fun slot =>
    slot.spec.cancellation = .cooperative ∧ slot.state.record.isSome

theorem touches_detach (spared : inner.overwrites id = false) :
    (inner.detach id).2 = inner ∨ Touches inner (inner.detach id).2 := by
  unfold detach
  split
  · exact .inl rfl
  · rename_i slot found
    split
    · rename_i cooperative
      have active : slot.state.record = none := by
        simpa [overwrites, found, cooperative] using spared
      exact .inr (.of_slot found rfl rfl active.symm)
    · exact .inl rfl

/-- What `detach` does to a terminal record. -/
theorem detach_overwrites (lost : inner.overwrites id) :
    (inner.record id).isSome ∧ ((inner.detach id).2.slot id).isSome ∧
      (inner.detach id).2.record id = none := by
  obtain ⟨slot, found, decided⟩ := Option.any_eq_true _ _ |>.mp lost
  obtain ⟨cooperative, recorded⟩ := of_decide_eq_true decided
  have stopping : (inner.detach id).2.slot id =
      some { slot with cancelRequested := true, state := .stopping, token := true } := by
    unfold detach
    rw [found]
    simp only [cooperative]
    rw [slot_put, if_pos (slot_id found), found]
    rfl
  exact ⟨record_of_slot found ▸ recorded, by rw [stopping]; rfl, record_of_slot stopping⟩

/-! ### Starting -/

theorem slot_reserve {spec : RunningOperationSpec} {id' : OperationId} :
    (inner.reserve id spec now).slot id' =
      if id = id' then some (startedSlot id spec now) else inner.slot id' := lookup_upsert

theorem record_reserve {spec : RunningOperationSpec} (fresh : inner.slot id = none) :
    (inner.reserve id spec now).record = inner.record := by
  funext id'
  unfold OperationRegistryInner.record
  rw [slot_reserve]
  split
  · rename_i same
    subst same
    rw [fresh]
    rfl
  · rfl

/-- The answers of `startLocked` and what they mean. -/
theorem startLocked_cases {closed : Bool} {spec : RunningOperationSpec} :
    (closed ∧ inner.startLocked config closed id spec now = .error .admissionClosed) ∨
      (config.maxRunningGlobal ≤ inner.runningCount ∧
        inner.startLocked config closed id spec now = .error .overloaded) ∨
      (∃ key, spec.concurrencyKey = some key ∧
        config.maxRunningPerConcurrencyKey ≤ inner.runningFor key ∧
        inner.startLocked config closed id spec now = .error (.conflict key)) ∨
      (inner.runningCount < config.maxRunningGlobal ∧
        (∀ key, spec.concurrencyKey = some key →
          inner.runningFor key < config.maxRunningPerConcurrencyKey) ∧
        inner.startLocked config closed id spec now = .ok (inner.reserve id spec now)) := by
  unfold startLocked
  split
  · rename_i shut
    exact .inl ⟨shut, rfl⟩
  split
  · rename_i full
    exact .inr (.inl ⟨full, rfl⟩)
  rename_i room
  split
  · rename_i key has
    split
    · rename_i full
      exact .inr (.inr (.inl ⟨key, has, full, rfl⟩))
    · rename_i free
      refine .inr (.inr (.inr ⟨Nat.lt_of_not_le room, fun key' has' => ?_, rfl⟩))
      cases has.symm.trans has'
      exact Nat.lt_of_not_le free
  · rename_i none
    exact .inr (.inr (.inr ⟨Nat.lt_of_not_le room, fun key has => (nomatch none.symm.trans has), rfl⟩))

theorem startLocked_ok {closed : Bool} {spec : RunningOperationSpec}
    (h : inner.startLocked config closed id spec now = .ok inner') :
    inner.runningCount < config.maxRunningGlobal ∧
      (∀ key, spec.concurrencyKey = some key →
        inner.runningFor key < config.maxRunningPerConcurrencyKey) ∧
      inner' = inner.reserve id spec now := by
  rcases @startLocked_cases config inner now id closed spec with
    ⟨-, refused⟩ | ⟨-, refused⟩ | ⟨_, -, -, refused⟩ | ⟨room, free, admitted⟩
  · cases refused.symm.trans h
  · cases refused.symm.trans h
  · cases refused.symm.trans h
  · exact ⟨room, free, (Except.ok.inj (admitted.symm.trans h)).symm⟩

/-! ### Ending -/

theorem record_recordTerminal {terminal : OperationTerminal} {id' : OperationId}
    (found : inner.slot row.id = some row) :
    (inner.recordTerminal row terminal now).record id' =
      if row.id = id' then some (settledTerminal row terminal, now) else inner.record id' := by
  have put := @slot_put inner id'
    { row with state := .terminal (settledTerminal row terminal) now, join := false }
  unfold OperationRegistryInner.record
  split
  · rename_i same
    subst same
    rw [if_pos rfl, found] at put
    exact congrArg (·.bind fun slot => slot.state.record) put
  · rename_i other
    rw [if_neg other] at put
    exact congrArg (·.bind fun slot => slot.state.record) put

theorem isSome_slot_recordTerminal {terminal : OperationTerminal} {id' : OperationId} :
    ((inner.recordTerminal row terminal now).slot id').isSome = (inner.slot id').isSome := by
  have put := @slot_put inner id'
    { row with state := .terminal (settledTerminal row terminal) now, join := false }
  rw [show (inner.recordTerminal row terminal now).slot id' = _ from put]
  split
  · rw [Option.isSome_map]
  · rfl

theorem slot_expire {id' : OperationId} : (inner.expire id now).slot id' =
    if id = id' then none else inner.slot id' := lookup_filter_ne

theorem record_expire {id' : OperationId} : (inner.expire id now).record id' =
    if id = id' then none else inner.record id' := by
  unfold OperationRegistryInner.record
  rw [slot_expire]
  split <;> rfl

theorem evict_of_le {order : List OperationId} (room : order.length ≤ config.terminalMaxEntries) :
    inner.evict config now order = { inner with terminalOrder := order } := by
  cases order with
  | nil => rfl
  | cons expired rest => exact if_neg (Nat.not_lt.mpr room)

/-- The queue holds one record too many. -/
theorem evict_of_full {rest : List OperationId} (full : rest.length = config.terminalMaxEntries) :
    inner.evict config now (id :: rest) = { inner.expire id now with terminalOrder := rest } := by
  rw [evict, if_pos (by rw [List.length_cons]; omega), evict_of_le (Nat.le_of_eq full)]

/-- `finish` does nothing, or it records a terminal and evicts at most the oldest record. -/
theorem finish_cases {terminal : OperationTerminal}
    (bounded : inner.terminalOrder.length ≤ config.terminalMaxEntries) :
    (inner.finish config id terminal now = inner ∧
        (inner.slot id = none ∨ (inner.record id).isSome)) ∨
      ∃ row, inner.slot id = some row ∧ row.state.record = none ∧
        let recorded := inner.recordTerminal row terminal now
        (inner.terminalOrder.length < config.terminalMaxEntries ∧
            inner.finish config id terminal now = recorded) ∨
          ∃ oldest rest, inner.terminalOrder = oldest :: rest ∧
            inner.terminalOrder.length = config.terminalMaxEntries ∧
            inner.finish config id terminal now =
              { recorded.expire oldest now with terminalOrder := rest ++ [id] } := by
  unfold finish
  cases found : inner.slot id with
  | none => exact .inl ⟨rfl, .inl rfl⟩
  | some row =>
    cases active : row.state.record with
    | some r =>
      refine .inl ⟨by simp [active], .inr ?_⟩
      rw [record_of_slot found, active, Option.isSome_some]
    | none =>
      refine .inr ⟨row, rfl, active, ?_⟩
      have same : row.id = id := slot_id found
      simp only [active, Option.isSome_none, Bool.false_eq_true, if_false]
      rcases Nat.lt_or_eq_of_le bounded with room | full
      · refine .inl ⟨room, evict_of_le ?_⟩
        show (inner.terminalOrder ++ [row.id]).length ≤ _
        rw [List.length_append, List.length_singleton]
        omega
      · cases order : inner.terminalOrder with
        | nil =>
          have := config.terminalMaxEntries_pos
          rw [order, List.length_nil] at full
          omega
        | cons oldest rest =>
          refine .inr ⟨oldest, rest, rfl, order ▸ full, ?_⟩
          have queue : (inner.recordTerminal row terminal now).terminalOrder =
              oldest :: (rest ++ [id]) := by
            show inner.terminalOrder ++ [row.id] = _
            rw [order, same, List.cons_append]
          rw [queue]
          refine evict_of_full ?_
          rw [order, List.length_cons] at full
          rw [List.length_append, List.length_singleton, full]

/-! ### Collecting -/

theorem foldl_expire (ids : List OperationId) (inner : OperationRegistryInner) :
    let expired := ids.foldl (fun inner id => inner.expire id now) inner
    expired.slots = inner.slots.filter (·.id ∉ ids) ∧ expired.terminalOrder = inner.terminalOrder ∧
      expired.runningCount = inner.runningCount ∧
      expired.runningByConcurrencyKey = inner.runningByConcurrencyKey := by
  induction ids generalizing inner with
  | nil => simp
  | cons id rest ih =>
    obtain ⟨slots, order, count, counts⟩ := ih (inner.expire id now)
    refine ⟨slots.trans ?_, order, count, counts⟩
    rw [expire, List.filter_filter]
    exact congrArg (List.filter · inner.slots) (by
      funext slot
      simp [Bool.and_comm])

theorem slot_gc (keyed : Keyed (·.id) inner.slots) :
    (inner.gc config now).slot id = (inner.slot id).filter fun slot => ! expiredAt config now slot := by
  have slots : (inner.gc config now).slots =
      inner.slots.filter fun slot => ! expiredAt config now slot := by
    refine (foldl_expire _ inner).1.trans (List.filter_congr fun slot mem => ?_)
    cases expired : expiredAt config now slot with
    | true =>
      have named : slot.id ∈ (inner.slots.filter (expiredAt config now)).map (·.id) :=
        List.mem_map_of_mem (List.mem_filter.mpr ⟨mem, expired⟩)
      rw [Bool.not_true, decide_eq_false_iff_not]
      exact not_not_intro named
    | false =>
      have unnamed : slot.id ∉ (inner.slots.filter (expiredAt config now)).map (·.id) := by
        intro named
        obtain ⟨slot', mem', same⟩ := List.mem_map.mp named
        obtain ⟨mem', expired'⟩ := List.mem_filter.mp mem'
        rw [keyed.inj mem' mem same, expired] at expired'
        cases expired'
      rw [Bool.not_false, decide_eq_true_eq]
      exact unnamed
  unfold OperationRegistryInner.slot
  rw [slots]
  exact keyed.lookup_filter _

theorem gc_rest : (inner.gc config now).terminalOrder = inner.terminalOrder ∧
    (inner.gc config now).runningCount = inner.runningCount ∧
    (inner.gc config now).runningByConcurrencyKey = inner.runningByConcurrencyKey :=
  (foldl_expire _ inner).2

theorem keyed_gc (keyed : Keyed (·.id) inner.slots) :
    Keyed (·.id) (inner.gc config now).slots := by
  have slots : (inner.gc config now).slots = inner.slots.filter _ := (foldl_expire _ inner).1
  rw [slots]
  exact keyed.filter _

/-- `gc` removes the records that are too old and nothing else. -/
theorem gc_cases (keyed : Keyed (·.id) inner.slots) (id : OperationId) :
    (inner.gc config now).slot id = inner.slot id ∨
      ((inner.gc config now).slot id = none ∧
        ∃ result recordedAt, inner.record id = some (result, recordedAt) ∧
          config.terminalTtl ≤ now - recordedAt) := by
  rw [slot_gc keyed]
  cases found : inner.slot id with
  | none => exact .inl rfl
  | some slot =>
    rw [Option.filter_some, record_of_slot found]
    unfold expiredAt
    cases slot.state with
    | running => exact .inl rfl
    | stopping => exact .inl rfl
    | terminal result recordedAt =>
      by_cases old : config.terminalTtl ≤ now - recordedAt
      · exact .inr ⟨by simp [old], result, recordedAt, rfl, old⟩
      · exact .inl (by simp [old])

theorem gc_removes (keyed : Keyed (·.id) inner.slots) {result : OperationTerminal}
    {recordedAt : Instant} (held : inner.record id = some (result, recordedAt))
    (old : config.terminalTtl ≤ now - recordedAt) : (inner.gc config now).slot id = none := by
  obtain ⟨slot, found, isTerminal⟩ := record_some held
  rw [slot_gc keyed, found]
  unfold OperationState.record at isTerminal
  split at isTerminal
  · rename_i state
    cases isTerminal
    simp [expiredAt, state, old]
  · cases isTerminal
  · cases isTerminal

end OperationRegistryInner

end RelayPool.Operations
