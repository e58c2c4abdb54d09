import Mathlib.Tactic.Set
import RelayPool.Operations.Records

/-! The queue of terminal records.

The queue is in the order in which the records were written, and what it names without a
record is gone before all that is still there (`Ordered`); every call keeps it so. Then
`finish` evicts the oldest record, and only when there are too many
(`Ordered.absorbs_finish`); `gc` removes records that are too old and nothing else
(`Ordered.absorbs_gc`). -/
namespace RelayPool.Operations
open Table

namespace OperationRegistryInner

variable {config : OperationRegistryConfig} {inner inner' : OperationRegistryInner}
  {now clock : Instant} {id : OperationId}

/-! ### The queue of records -/

/-- Where `a` has a record, `b` has one that is not older. -/
def Precedes (inner : OperationRegistryInner) (a b : OperationId) : Prop :=
  ∀ result recordedAt, inner.record a = some (result, recordedAt) →
    ∃ result' recordedAt', inner.record b = some (result', recordedAt') ∧ recordedAt ≤ recordedAt'

/-- The queue names every record once, in the order in which they were recorded, and ids
whose record is gone before all others. -/
structure Queued (clock : Instant) (inner : OperationRegistryInner) : Prop where
  keyed : Keyed (·.id) inner.slots
  named : ∀ id result recordedAt, inner.record id = some (result, recordedAt) →
    id ∈ inner.terminalOrder ∧ recordedAt ≤ clock
  settled : ∀ id ∈ inner.terminalOrder, (inner.slot id).isSome → (inner.record id).isSome
  distinct : inner.terminalOrder.Nodup
  sorted : inner.terminalOrder.Pairwise inner.Precedes

structure Ordered (config : OperationRegistryConfig) (clock : Instant)
    (inner : OperationRegistryInner) : Prop extends Queued clock inner where
  bounded : inner.terminalOrder.length ≤ config.terminalMaxEntries

theorem Ordered.empty : Ordered config clock .empty where
  keyed := List.nodup_nil
  named := nofun
  settled := nofun
  distinct := List.nodup_nil
  sorted := .nil
  bounded := Nat.zero_le _

theorem Ordered.later (ordered : Ordered config now inner) (h : now ≤ clock) :
    Ordered config clock inner where
  keyed := ordered.keyed
  named := fun id result recordedAt held =>
    ⟨(ordered.named id result recordedAt held).1, ((ordered.named id result recordedAt held).2).trans h⟩
  settled := ordered.settled
  distinct := ordered.distinct
  sorted := ordered.sorted
  bounded := ordered.bounded

/-- What leaves the records and the queue alone. -/
theorem Ordered.of_record (ordered : Ordered config clock inner)
    (keyed : Keyed (·.id) inner'.slots) (record : inner'.record = inner.record)
    (order : inner'.terminalOrder = inner.terminalOrder)
    (found : ∀ id ∈ inner.terminalOrder, (inner'.slot id).isSome → (inner.slot id).isSome) :
    Ordered config clock inner' where
  keyed
  named := by
    rw [record, order]
    exact ordered.named
  settled := by
    rw [record, order]
    exact fun id mem h => ordered.settled id mem (found id mem h)
  distinct := order ▸ ordered.distinct
  sorted := by
    unfold Precedes
    rw [record, order]
    exact ordered.sorted
  bounded := order ▸ ordered.bounded

theorem Ordered.touches (ordered : Ordered config clock inner) (touches : Touches inner inner') :
    Ordered config clock inner' :=
  ordered.of_record (touches.keyed ordered.keyed) touches.record_eq touches.rest.1
    fun id _ h => touches.isSome_slot id ▸ h

theorem Ordered.reserve {spec : RunningOperationSpec} (ordered : Ordered config clock inner)
    (fresh : inner.slot id = none) (unqueued : id ∉ inner.terminalOrder) :
    Ordered config clock (inner.reserve id spec now) := by
  refine ordered.of_record ordered.keyed.upsert (record_reserve fresh) rfl fun id' mem h => ?_
  have other : id ≠ id' := fun same => unqueued (same ▸ mem)
  rwa [slot_reserve, if_neg other] at h

/-- A new record joins the queue at its end. -/
theorem Queued.recordTerminal {row : OperationSlot} {terminal : OperationTerminal}
    (queued : Queued clock inner) (found : inner.slot row.id = some row)
    (active : row.state.record = none) :
    Queued clock (inner.recordTerminal row terminal clock) := by
  have records := fun id' => @record_recordTerminal inner clock row terminal id' found
  have slots := fun id' => @isSome_slot_recordTerminal inner clock row terminal id'
  have unqueued : row.id ∉ inner.terminalOrder := fun mem => by
    have := queued.settled row.id mem (by rw [found]; rfl)
    rw [record_of_slot found, active] at this
    cases this
  have kept : ∀ id ∈ inner.terminalOrder,
      (inner.recordTerminal row terminal clock).record id = inner.record id := fun id mem => by
    have other : row.id ≠ id := fun same => unqueued (same ▸ mem)
    rw [records, if_neg other]
  refine ⟨queued.keyed.put, fun id result recordedAt h => ?_, fun id mem h => ?_, ?_, ?_⟩
  · rw [records] at h
    split at h
    · rename_i same
      cases h
      exact ⟨List.mem_append_right _ (List.mem_singleton.mpr same.symm), Nat.le_refl _⟩
    · obtain ⟨mem, before⟩ := queued.named id result recordedAt h
      exact ⟨List.mem_append_left _ mem, before⟩
  · rcases List.mem_append.mp mem with old | new
    · rw [kept id old]
      exact queued.settled id old (slots id ▸ h)
    · rw [records, if_pos (List.mem_singleton.mp new).symm]
      rfl
  · refine List.nodup_append.mpr ⟨queued.distinct, List.nodup_singleton _, fun a mem b last same => ?_⟩
    exact unqueued (List.mem_singleton.mp last ▸ same ▸ mem)
  · refine List.pairwise_append.mpr ⟨?_, List.pairwise_singleton _ _, fun a mem b last => ?_⟩
    · refine queued.sorted.imp_of_mem fun {a b} mema memb precedes => ?_
      unfold Precedes at precedes ⊢
      rw [kept a mema, kept b memb]
      exact precedes
    · intro result recordedAt held
      rw [kept a mem] at held
      rw [List.mem_singleton.mp last, records, if_pos rfl]
      exact ⟨_, clock, rfl, (queued.named a result recordedAt held).2⟩

theorem Queued.evict {oldest : OperationId} {rest : List OperationId}
    (queued : Queued clock inner) (order : inner.terminalOrder = oldest :: rest) :
    Queued clock { inner.expire oldest now with terminalOrder := rest } := by
  have distinct := queued.distinct
  have sorted := queued.sorted
  rw [order] at distinct sorted
  obtain ⟨unqueued, distinct⟩ := List.nodup_cons.mp distinct
  have records := fun id' => @record_expire inner now oldest id'
  have other : ∀ id ∈ rest, oldest ≠ id := fun id mem same => unqueued (same ▸ mem)
  have kept : ∀ id ∈ rest, (inner.expire oldest now).record id = inner.record id := fun id mem => by
    rw [records, if_neg (other id mem)]
  refine ⟨queued.keyed.filter _, fun id result recordedAt h => ?_, fun id mem h => ?_, distinct, ?_⟩
  · have held : (inner.expire oldest now).record id = some (result, recordedAt) := h
    rw [records] at held
    split at held
    · cases held
    · rename_i another
      obtain ⟨mem, before⟩ := queued.named id result recordedAt held
      rw [order] at mem
      exact ⟨(List.mem_cons.mp mem).resolve_left (Ne.symm another), before⟩
  · show ((inner.expire oldest now).record id).isSome
    have found : ((inner.expire oldest now).slot id).isSome := h
    rw [slot_expire, if_neg (other id mem)] at found
    rw [kept id mem]
    exact queued.settled id (order ▸ List.mem_cons_of_mem _ mem) found
  · refine (List.pairwise_cons.mp sorted).2.imp_of_mem fun {a b} mema memb precedes => ?_
    intro result recordedAt held
    have held' : inner.record a = some (result, recordedAt) := kept a mema ▸ held
    obtain ⟨result', recordedAt', later, le⟩ := precedes result recordedAt held'
    exact ⟨result', recordedAt', (kept b memb).trans later, le⟩

theorem Ordered.finish {terminal : OperationTerminal} (ordered : Ordered config clock inner) :
    Ordered config clock (inner.finish config id terminal clock) := by
  rcases @finish_cases config inner clock id terminal ordered.bounded with
    ⟨same, -⟩ | ⟨row, found, active, ⟨room, is⟩ | ⟨oldest, rest, order, full, is⟩⟩
  · rw [same]
    exact ordered
  · obtain rfl := slot_id found
    rw [is]
    refine ⟨ordered.recordTerminal found active, ?_⟩
    show (inner.terminalOrder ++ [row.id]).length ≤ _
    rw [List.length_append, List.length_singleton]
    omega
  · obtain rfl := slot_id found
    rw [is]
    have queue : (inner.recordTerminal row terminal clock).terminalOrder =
        oldest :: (rest ++ [row.id]) := by
      show inner.terminalOrder ++ [row.id] = _
      rw [order, List.cons_append]
    refine ⟨(ordered.recordTerminal found active).evict queue, ?_⟩
    show (rest ++ [row.id]).length ≤ _
    rw [order, List.length_cons] at full
    rw [List.length_append, List.length_singleton]
    omega

theorem Ordered.gc (ordered : Ordered config clock inner) :
    Ordered config clock (inner.gc config clock) := by
  have kept : ∀ id r, (inner.gc config clock).record id = some r →
      inner.record id = some r ∧ (inner.gc config clock).slot id = inner.slot id := fun id r h => by
    rcases gc_cases ordered.keyed id with same | ⟨gone, -⟩
    · rw [record, same] at h
      exact ⟨h, same⟩
    · rw [record_of_none gone] at h
      cases h
  have order : (inner.gc config clock).terminalOrder = inner.terminalOrder := gc_rest.1
  refine ⟨⟨keyed_gc ordered.keyed, fun id result recordedAt h => ?_, fun id mem h => ?_, ?_, ?_⟩, ?_⟩
  · rw [order]
    exact ordered.named id result recordedAt (kept id _ h).1
  · rw [order] at mem
    rcases gc_cases ordered.keyed id with same | ⟨gone, -⟩
    · rw [same] at h
      rw [record, same]
      exact ordered.settled id mem h
    · rw [gone] at h
      cases h
  · rw [order]
    exact ordered.distinct
  · rw [order]
    refine ordered.sorted.imp fun {a b} precedes result recordedAt held => ?_
    obtain ⟨before, sameSlot⟩ := kept a _ held
    obtain ⟨result', recordedAt', later, le⟩ := precedes result recordedAt before
    refine ⟨result', recordedAt', ?_, le⟩
    rcases gc_cases ordered.keyed b with same | ⟨gone, r, at', isb, old⟩
    · rw [record, same]
      exact later
    · -- `a` is at least as old as `b` and would have been removed as well
      rw [later] at isb
      cases isb
      have removed := gc_removes ordered.keyed before (old.trans (Nat.sub_le_sub_left le clock))
      rw [record_of_none removed] at held
      cases held
  · rw [order]
    exact ordered.bounded

/-! ### Records that go -/

/-- Another record makes them too many, and all that stay are at least as new. -/
def TooMany (config : OperationRegistryConfig) (recordedAt : Instant)
    (inner inner' : OperationRegistryInner) : Prop :=
  config.terminalMaxEntries ≤ inner.metrics.terminal ∧
    (∃ id, inner.record id = none ∧ (inner'.record id).isSome) ∧
    ∀ id result recordedAt', inner'.record id = some (result, recordedAt') →
      recordedAt ≤ recordedAt'

/-- A record goes when it is too old, or as the oldest of too many. -/
def Removable (config : OperationRegistryConfig) (now recordedAt : Instant)
    (inner inner' : OperationRegistryInner) : Prop :=
  config.terminalTtl ≤ now - recordedAt ∨ TooMany config recordedAt inner inner'

/-- Records stay as they are or are removed, and nothing else is. -/
structure Absorbs (config : OperationRegistryConfig) (now : Instant)
    (inner inner' : OperationRegistryInner) : Prop where
  kept : ∀ id result recordedAt, inner.record id = some (result, recordedAt) →
    inner'.record id = some (result, recordedAt) ∨
      inner'.slot id = none ∧ Removable config now recordedAt inner inner'
  running : ∀ id, (inner.slot id).isSome → inner.record id = none → (inner'.slot id).isSome

theorem length_le_terminal {ids : List OperationId} (distinct : ids.Nodup)
    (recorded : ∀ id ∈ ids, (inner.record id).isSome) : ids.length ≤ inner.metrics.terminal := by
  have named : ids ⊆ (inner.slots.filter (·.terminal.isSome)).map (·.id) := fun id mem => by
    obtain ⟨r, held⟩ := Option.isSome_iff_exists.mp (recorded id mem)
    obtain ⟨slot, found, isTerminal⟩ := record_some held
    refine List.mem_map.mpr ⟨slot, List.mem_filter.mpr ⟨(lookup_some found).1, ?_⟩, slot_id found⟩
    rw [OperationSlot.terminal, isTerminal]
    rfl
  have le := (List.subperm_of_subset distinct named).length_le
  rwa [List.length_map, ← List.countP_eq_length_filter] at le

theorem Absorbs.of_record (record : inner'.record = inner.record)
    (found : ∀ id, (inner.slot id).isSome → (inner'.slot id).isSome) :
    Absorbs config now inner inner' where
  kept := fun _ _ _ held => .inl (record ▸ held)
  running := fun id h _ => found id h

theorem Ordered.absorbs_gc (ordered : Ordered config clock inner) :
    Absorbs config clock inner (inner.gc config clock) where
  kept := fun id result recordedAt held => by
    rcases gc_cases ordered.keyed id with same | ⟨gone, r, at', isHeld, old⟩
    · refine .inl ?_
      rw [record, same]
      exact held
    · cases held.symm.trans isHeld
      exact .inr ⟨gone, .inl old⟩
  running := fun id found active => by
    rcases gc_cases ordered.keyed id with same | ⟨gone, r, at', isHeld, old⟩
    · rw [same]
      exact found
    · cases active.symm.trans isHeld

theorem Ordered.absorbs_finish {terminal : OperationTerminal} (ordered : Ordered config clock inner) :
    Absorbs config clock inner (inner.finish config id terminal clock) := by
  rcases @finish_cases config inner clock id terminal ordered.bounded with
    ⟨same, -⟩ | ⟨row, found, active, ⟨room, is⟩ | ⟨oldest, rest, order, full, is⟩⟩
  · rw [same]
    exact .of_record rfl fun _ h => h
  · obtain rfl := slot_id found
    rw [is]
    refine ⟨fun id result recordedAt held => .inl ?_, fun id h _ => ?_⟩
    · have other : row.id ≠ id := fun same => by
        rw [← same, record_of_slot found, active] at held
        cases held
      rw [record_recordTerminal found, if_neg other]
      exact held
    · rw [isSome_slot_recordTerminal]
      exact h
  · obtain rfl := slot_id found
    rw [is]
    set recorded := inner.recordTerminal row terminal clock
    have records : ∀ id, (recorded.expire oldest clock).record id =
        if oldest = id then none
        else if row.id = id then some (settledTerminal row terminal, clock) else inner.record id :=
      fun id => by rw [record_expire, record_recordTerminal found]
    have sorted := ordered.sorted
    rw [order] at sorted
    have oldestFirst := (List.pairwise_cons.mp sorted).1
    refine ⟨fun id result recordedAt held => ?_, fun id h active' => ?_⟩
    · have other : row.id ≠ id := fun same => by
        rw [← same, record_of_slot found, active] at held
        cases held
      by_cases first : oldest = id
      · subst first
        refine .inr ⟨?_, .inr ⟨?_, ⟨row.id, ?_, ?_⟩, fun id' result' recordedAt' held' => ?_⟩⟩
        · show (recorded.expire oldest clock).slot oldest = none
          rw [slot_expire, if_pos rfl]
        · -- the front of the queue has a record, so all of the queue does
          rw [← full]
          refine length_le_terminal ordered.distinct fun id mem => ?_
          rw [order] at mem
          rcases List.mem_cons.mp mem with rfl | later
          · rw [held]
            rfl
          · obtain ⟨_, _, has, -⟩ := oldestFirst id later result recordedAt held
            rw [has]
            rfl
        · rw [record_of_slot found, active]
        · show ((recorded.expire oldest clock).record row.id).isSome
          rw [records, if_neg (Ne.symm other), if_pos rfl]
          rfl
        · have held' : (recorded.expire oldest clock).record id' = some (result', recordedAt') := held'
          rw [records] at held'
          split at held'
          · cases held'
          rename_i another
          split at held'
          · cases held'
            exact (ordered.named oldest result recordedAt held).2
          · have mem := (ordered.named id' result' recordedAt' held').1
            rw [order] at mem
            have later := (List.mem_cons.mp mem).resolve_left (Ne.symm another)
            obtain ⟨_, _, has, le⟩ := oldestFirst id' later result recordedAt held
            cases held'.symm.trans has
            exact le
      · refine .inl ?_
        show (recorded.expire oldest clock).record id = _
        rw [records, if_neg first, if_neg other]
        exact held
    · have first : oldest ≠ id := fun same => by
        have := ordered.settled id (by rw [order, same]; exact List.mem_cons_self ..) h
        rw [active'] at this
        cases this
      show ((recorded.expire oldest clock).slot id).isSome
      rw [slot_expire, if_neg first, isSome_slot_recordTerminal]
      exact h

end OperationRegistryInner

end RelayPool.Operations
