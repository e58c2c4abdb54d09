import Mathlib
import RelayPool.Cutover.Writable

/-! The registry is consistent exactly when no rollback is retargeted (`registry_consistent_iff`).

A rollback has fenced a generation that has been retired before, and aborting it gives the
generation back as a retired one. `retarget_fence` puts a ready generation in its place, which
has no retirement date, and the CHECK on retired rows then refuses every abort. Nothing else
goes wrong: a transaction that retargets no rollback keeps the registry in order
(`Kept.step`), and in a kept registry the current fence can be aborted (`Kept.abortable`). -/
namespace RelayPool.Cutover
open Table Fallible Runs

namespace RegistryDb
variable {db db' : RegistryDb} {id : String} {row : RuntimeGenerationRow} {clock nowMs : Int}

/-! ### Components on their way -/

theorem Settled.build {rows rows' : List ComponentGeneration} {component : ComponentGeneration}
    (h : buildComponent rows component = .ok rows') : Settled rows rows' := by
  unfold buildComponent at h
  rcases ite_ok.mp h with ⟨unbuilt, h⟩ | ⟨-, h⟩
  · cases h
    intro id other binding found bound
    rw [lookup_upsert]
    split
    · rename_i here
      subst here
      rw [found] at unbuilt
      have building : other.status = .building := by simpa using unbuilt
      have := binding_ok bound
      rw [building] at this
      cases this
    · exact ⟨other, found, bound⟩
  · cases h

theorem Staged.concat {rows : List StagedPolicy} {policy : StagedPolicy}
    (fresh : lookup (·.policyGenerationId) rows policy.policyGenerationId = none) :
    Staged rows (rows ++ [policy]) := by
  intro id other found
  rw [lookup_concat fresh, if_neg]
  · exact ⟨other, found, rfl, rfl⟩
  · rintro rfl
    rw [fresh] at found
    cases found

theorem Kept.stagePolicy (kept : Kept clock db) {policy : StagedPolicy}
    (h : db.stagePolicy policy = .ok db') : Kept clock db' := by
  unfold RegistryDb.stagePolicy at h
  split at h
  · cases h
  · rename_i fresh
    cases h
    exact kept.switched ⟨rfl, .of (.concat fresh) (.refl _) (.refl _)⟩

/-! ### Transactions -/

theorem persistence_ok {α : Type} {x : Except PersistenceError α} {a : α} :
    persistence x = .ok a ↔ x = .ok a :=
  mapError_ok

theorem activate_ok {fence : RoutingGenerationFence} {rollback : Bool} {reads : CutoverReads}
    (h : db.activate fence rollback reads nowMs = .ok db') :
    db.activateFencedGeneration fence rollback false reads.activation nowMs = .ok db' := by
  unfold RegistryDb.activate at h
  obtain ⟨-, h⟩ := guard_ok.mp h
  obtain ⟨found, -, h⟩ := bind_ok.mp h
  split at h
  · cases h
  · obtain ⟨hash, -, h⟩ := bind_ok.mp h
    obtain ⟨-, h⟩ := guard_ok.mp h
    exact persistence_ok.mp h

/-- A policy that is activated on its own is fenced and activated. -/
theorem activatePolicyOnly_ok {target expectedActive : String} {reads : PolicyOnlyReads}
    (h : db.activatePolicyOnly target expectedActive reads nowMs = .ok db') :
    ∃ fence fenced, db.beginFence target (some expectedActive) false (some "policy_fast")
        reads.qualified nowMs = .ok (fence, fenced) ∧
      fenced.activateFencedGeneration fence false true reads.activation nowMs = .ok db' := by
  unfold RegistryDb.activatePolicyOnly at h
  obtain ⟨registry, -, h⟩ := bind_ok.mp h
  split at h
  · cases h
  · obtain ⟨found, -, h⟩ := bind_ok.mp h
    split at h
    · cases h
    · obtain ⟨-, h⟩ := guard_ok.mp h
      obtain ⟨-, h⟩ := guard_ok.mp h
      obtain ⟨-, h⟩ := guard_ok.mp h
      obtain ⟨⟨fence, fenced⟩, begun, h⟩ := bind_ok.mp h
      exact ⟨fence, fenced, persistence_ok.mp begun, persistence_ok.mp h⟩

end RegistryDb

open RegistryDb

namespace GenerationRegistry
variable {registry : GenerationRegistry} {transaction : Transaction}

/-- Whether the transaction carries out a `retarget_fence` on a fence begun as a rollback. -/
def retargetsRollback (registry : GenerationRegistry) (transaction : Transaction) : Bool :=
  match transaction.op with
  | .retargetFence fence replacement tail qualified =>
    (registry.db.retargetable fence replacement tail qualified (registry.now transaction)).isOk ∧
      (registry.db.isRollbackFence fence).toOption = some true
  | _ => false

theorem clock_le_now : registry.clockMs ≤ registry.now transaction := by
  unfold GenerationRegistry.now
  omega

/-- The registry is in order at its time. -/
abbrev InOrder (registry : GenerationRegistry) : Prop := Kept registry.clockMs registry.db

theorem InOrder.commit {db : RegistryDb} (kept : registry.InOrder)
    (spared : registry.retargetsRollback transaction = false)
    (h : registry.commit transaction = .ok db) : Kept (registry.now transaction) db := by
  have kept : Kept (registry.now transaction) registry.db :=
    kept.mono clock_le_now
  unfold GenerationRegistry.commit RegistryOperation.perform at h
  unfold retargetsRollback at spared
  cases is : transaction.op <;> simp only [is] at h spared
  case insertBuilding generation age =>
    refine (kept.insertBuilding ?_ (persistence_ok.mp h)).1
    show registry.now transaction - age ≤ _
    omega
  case markReady id => exact (kept.markReady (persistence_ok.mp h)).1
  case markStale id => exact (kept.markStale (persistence_ok.mp h)).1
  case beginFence target expectedActive rollback reason qualified =>
    obtain ⟨⟨fence, db'⟩, begun, rfl⟩ := map_ok.mp (persistence_ok.mp h)
    exact kept.beginFence begun
  case retargetFence fence replacement tail qualified =>
    obtain ⟨⟨fence', db'⟩, moved, rfl⟩ := map_ok.mp (persistence_ok.mp h)
    refine kept.retargetFence (fun rollback => ?_) moved
    obtain ⟨_, allowed, -⟩ := bind_ok.mp moved
    rw [allowed, rollback] at spared
    cases spared
  case abortFence fence reason => exact kept.abortOwnMode (persistence_ok.mp h)
  case activate fence rollback reads => exact kept.activateFenced (activate_ok h)
  case activatePolicyOnly target expectedActive reads =>
    obtain ⟨fence, fenced, begun, activated⟩ := activatePolicyOnly_ok h
    exact (kept.beginFence begun).activateFenced activated
  case stagePolicy policy => exact kept.stagePolicy (persistence_ok.mp h)
  case buildQuality component =>
    obtain ⟨quality, built, rfl⟩ := map_ok.mp (persistence_ok.mp h)
    exact kept.switched ⟨rfl, .of (.refl _) (.build built) (.refl _)⟩
  case buildCircuit component =>
    obtain ⟨circuit, built, rfl⟩ := map_ok.mp (persistence_ok.mp h)
    exact kept.switched ⟨rfl, .of (.refl _) (.refl _) (.build built)⟩

theorem InOrder.step (kept : registry.InOrder)
    (spared : registry.retargetsRollback transaction = false) :
    (registry.step transaction).InOrder := by
  unfold GenerationRegistry.step
  show Kept (registry.now transaction) _
  split
  · rename_i db committed
    exact kept.commit spared committed
  · exact kept.mono clock_le_now

/-! ### The registry as it should be -/

/-- The registry is read without an error, its marker points at the active and at the fencing
generation, of which there is at most one each, and a current fence can be aborted. -/
structure Consistent (registry : GenerationRegistry) : Prop where
  snapshot : ∃ snapshot, registry.db.loadRegistrySnapshot = .ok snapshot
  oneActive : registry.db.generations.countP (·.status = .active) ≤ 1
  oneFencing : registry.db.generations.countP (·.status = .cutoverFencing) ≤ 1
  active : ∀ id, registry.db.marker.activeRuntimeGenerationId = some id ↔
    ∃ row ∈ registry.db.generations, row.runtimeGenerationId = id ∧ row.status = .active
  fencing : ∀ id, registry.db.marker.fencedRuntimeGenerationId = some id ↔
    ∃ row ∈ registry.db.generations, row.runtimeGenerationId = id ∧ row.status = .cutoverFencing
  abortable : ∀ fence, registry.db.assertFence fence = .ok () → ∀ reason nowMs,
    registry.clockMs ≤ nowMs → validateReason (some reason) nowMs = .ok () →
    ∃ db, registry.db.abortOwnMode fence reason nowMs = .ok db ∧
      db.marker.fencedRuntimeGenerationId = none ∧
      db.marker.activeRuntimeGenerationId = fence.sourceRuntimeGenerationId ∧
      ∀ row, row.status = .active → (row ∈ db.generations ↔ row ∈ registry.db.generations)

/-- What a transaction does to the registry is in order. -/
structure StepConsistent (registry : GenerationRegistry) (transaction : Transaction) : Prop where
  after : (registry.step transaction).Consistent
  /-- The revision counts the fences that were begun. -/
  revision : (registry.step transaction).db.marker.fenceRevision =
    registry.db.marker.fenceRevision +
      if transaction.op.begins ∧ (registry.commit transaction).isOk then 1 else 0
  /-- An operation with a stale fence changes nothing. -/
  stale : ∀ fence, transaction.op.fence? = some fence → ¬ Current fence registry.db.marker →
    (registry.step transaction).db = registry.db

theorem mem_rewrite_active {db : RegistryDb} {id : String} {row row' r : RuntimeGenerationRow}
    (keyed : Keyed (·.runtimeGenerationId) db.generations) (found : db.find id = some row)
    (same : row'.runtimeGenerationId = row.runtimeGenerationId) (was : row.status ≠ .active)
    (is : row'.status ≠ .active) (active : r.status = .active) :
    r ∈ (db.rewrite row').generations ↔ r ∈ db.generations := by
  have finds {b : RegistryDb} (keyed : Keyed (·.runtimeGenerationId) b.generations) :
      r ∈ b.generations ↔ b.find r.runtimeGenerationId = some r :=
    ⟨fun mem => keyed.lookup mem, fun found => (lookup_some found).1⟩
  rw [finds keyed, @finds (db.rewrite row') keyed.put, find_rewrite found same]
  split
  · rename_i here
    subst here
    rw [found]
    refine ⟨fun h => ?_, fun h => ?_⟩
    · cases h
      exact absurd active is
    · cases h
      exact absurd active was
  · exact Iff.rfl

theorem InOrder.consistent (kept : registry.InOrder) : registry.Consistent where
  snapshot := ⟨_, kept.snapshot⟩
  oneActive := of_decide_eq_true (kept.active.unique kept.keyed)
  oneFencing := of_decide_eq_true (kept.fencing.unique kept.keyed)
  active := fun id => (kept.active id).trans
    ⟨fun ⟨row, found, is⟩ => ⟨row, (lookup_some found).1, find_id found, is⟩,
      fun ⟨row, mem, same, is⟩ => ⟨row, same ▸ kept.keyed.lookup mem, is⟩⟩
  fencing := fun id => (kept.fencing id).trans
    ⟨fun ⟨row, found, is⟩ => ⟨row, (lookup_some found).1, find_id found, is⟩,
      fun ⟨row, mem, same, is⟩ => ⟨row, same ▸ kept.keyed.lookup mem, is⟩⟩
  abortable := by
    intro fence asserted reason nowMs le valid
    have current := kept.assertFence_iff.mp asserted
    obtain ⟨row, rollback, found, fencing, aborts⟩ := kept.abortable current le valid
    have off := @restored_status nowMs rollback row
    refine ⟨_, aborts, rfl, current.2.2, fun r active => ?_⟩
    exact mem_rewrite_active kept.keyed found rfl (by simp [fencing]) off.1 active

theorem InOrder.commit_revision {db : RegistryDb} (kept : registry.InOrder)
    (h : registry.commit transaction = .ok db) :
    db.marker.fenceRevision = registry.db.marker.fenceRevision +
      if transaction.op.begins then 1 else 0 := by
  have kept : Kept (registry.now transaction) registry.db := kept.mono clock_le_now
  unfold GenerationRegistry.commit RegistryOperation.perform at h
  cases is : transaction.op <;> simp only [is] at h
  case insertBuilding generation age =>
    exact congrArg _ (kept.insertBuilding (Int.sub_le_self _ (Int.natCast_nonneg age))
      (persistence_ok.mp h)).2
  case markReady id => exact congrArg _ (kept.markReady (persistence_ok.mp h)).2
  case markStale id => exact congrArg _ (kept.markStale (persistence_ok.mp h)).2
  case beginFence target expectedActive rollback reason qualified =>
    obtain ⟨⟨fence, db'⟩, begun, rfl⟩ := map_ok.mp (persistence_ok.mp h)
    obtain ⟨-, -, -, -, -, -, -, -, rfl⟩ := beginFence_ok kept.toRegistered begun
    rfl
  case retargetFence fence replacement tail qualified =>
    obtain ⟨⟨fence', db'⟩, moved, rfl⟩ := map_ok.mp (persistence_ok.mp h)
    obtain ⟨-, -, -, -, -, -, -, -, -, rfl⟩ := retargetFence_ok kept.toRegistered moved
    rfl
  case abortFence fence reason =>
    obtain ⟨rollback, -, aborted⟩ := bind_ok.mp (persistence_ok.mp h)
    obtain ⟨-, -, -, -, -, -, rfl⟩ := abortFence_ok kept.toRegistered aborted
    rfl
  case activate fence rollback reads =>
    exact activateFencedGeneration_revision kept.toRegistered (activate_ok h)
  case activatePolicyOnly target expectedActive reads =>
    obtain ⟨fence, fenced, begun, activated⟩ := activatePolicyOnly_ok h
    have same := activateFencedGeneration_revision (kept.beginFence begun).toRegistered activated
    obtain ⟨row, -, -, -, -, -, -, -, begins⟩ := beginFence_ok kept.toRegistered begun
    rw [same, begins]
    rfl
  case stagePolicy policy =>
    unfold RegistryDb.stagePolicy at h
    split at h
    · cases h
    · cases h
      rfl
  case buildQuality component =>
    obtain ⟨quality, -, rfl⟩ := map_ok.mp (persistence_ok.mp h)
    rfl
  case buildCircuit component =>
    obtain ⟨circuit, -, rfl⟩ := map_ok.mp (persistence_ok.mp h)
    rfl

theorem InOrder.revision (kept : registry.InOrder) :
    (registry.step transaction).db.marker.fenceRevision = registry.db.marker.fenceRevision +
      if transaction.op.begins ∧ (registry.commit transaction).isOk then 1 else 0 := by
  unfold GenerationRegistry.step
  dsimp only
  split
  · rename_i db committed
    rw [kept.commit_revision committed, committed]
    simp [Except.isOk, Except.toBool]
  · rename_i failed
    rw [failed]
    simp [Except.isOk, Except.toBool]

theorem InOrder.stale (kept : registry.InOrder) {fence : RoutingGenerationFence}
    (carries : transaction.op.fence? = some fence) (stale : ¬ Current fence registry.db.marker) :
    (registry.step transaction).db = registry.db := by
  have fails (db) (h : registry.commit transaction = .ok db) : False := by
    refine stale ?_
    unfold GenerationRegistry.commit RegistryOperation.perform at h
    cases is : transaction.op <;> simp only [is] at h carries <;> cases carries
    case retargetFence replacement tail qualified =>
      obtain ⟨⟨fence', db'⟩, moved, rfl⟩ := map_ok.mp (persistence_ok.mp h)
      exact (retargetFence_ok kept.toRegistered moved).1
    case abortFence reason =>
      obtain ⟨rollback, -, aborted⟩ := bind_ok.mp (persistence_ok.mp h)
      exact (abortFence_ok kept.toRegistered aborted).1
    case activate rollback reads =>
      exact (activateFencedGeneration_ok kept.toRegistered (activate_ok h)).1
  unfold GenerationRegistry.step
  dsimp only
  split
  · rename_i db committed
    exact (fails db committed).elim
  · rfl

/-- A retargeted rollback cannot be aborted. -/
theorem InOrder.not_consistent (kept : registry.InOrder)
    (broken : registry.retargetsRollback transaction) :
    ¬ (registry.step transaction).Consistent := by
  intro consistent
  have kept : Kept (registry.now transaction) registry.db := kept.mono clock_le_now
  unfold retargetsRollback at broken
  split at broken
  · rename_i fence replacement tail qualified is
    simp only [decide_eq_true_eq] at broken
    obtain ⟨allowed, rollback⟩ := broken
    obtain ⟨_, allowed⟩ := isOk_iff.mp allowed
    have rollback : registry.db.isRollbackFence fence = .ok true := by
      unfold Except.toOption at rollback
      split at rollback
      · rename_i mode isMode
        rw [isMode, Option.some.inj rollback]
      · cases rollback
    obtain ⟨old, new, found, fencing, foundNew, ready, moved⟩ :=
      kept.toRegistered.retargetFence_of (le_refl _) allowed
    obtain ⟨current, old', new', found', -, foundNew', -, checks, checks', -⟩ :=
      retargetFence_ok kept.toRegistered moved
    cases found.symm.trans found'
    cases foundNew.symm.trans foundNew'
    have after := kept.toRegistered.retargeted current found fencing foundNew ready checks checks'
    have committed : (registry.step transaction).db = registry.db.retargeted replacement old new
        fence.fenceRevision (registry.now transaction) := by
      have : registry.commit transaction = .ok (registry.db.retargeted replacement old new
          fence.fenceRevision (registry.now transaction)) := by
        unfold GenerationRegistry.commit
        rw [is]
        show persistence (Except.map Prod.snd _) = _
        rw [moved]
        rfl
      unfold GenerationRegistry.step
      rw [this]
    have moves : Current { fence with targetRuntimeGenerationId := replacement }
        (registry.step transaction).db.marker := by
      rw [committed]
      exact ⟨current.1, rfl, current.2.2⟩
    have time : 0 ≤ registry.now transaction := by
      unfold retargetable at allowed
      exact not_lt.mp (not_or.mp (not_or.mp (guard_ok.mp allowed).1).2).2
    have valid : validateReason (some "operator") (registry.now transaction) = .ok () := by
      refine if_neg (not_or.mpr ⟨not_lt.mpr time, ?_⟩)
      decide
    rw [← committed] at after
    obtain ⟨db, aborted, -⟩ := consistent.abortable _ (after.assertFence_iff.mpr moves) "operator"
      (registry.now transaction) (le_refl _) valid
    obtain ⟨mode, isMode, aborted⟩ := bind_ok.mp aborted
    have same : (registry.step transaction).db.isRollbackFence
        { fence with targetRuntimeGenerationId := replacement } =
        registry.db.isRollbackFence fence := by
      rw [committed]
      rfl
    rw [same, rollback] at isMode
    cases isMode
    obtain ⟨-, row, foundRow, -, -, refused, -⟩ := abortFence_ok after aborted
    have isRow : (registry.step transaction).db.find replacement =
        some (RegistryDb.fenced new fence.fenceRevision (registry.now transaction)) := by
      have foundMid : (registry.db.rewrite (superseded old (registry.now transaction))).find
          replacement = some new := by
        have other := ne_of_status found foundNew (by simp [fencing, ready])
        rw [@find_rewrite registry.db _ old found (superseded old (registry.now transaction)) rfl,
          if_neg other, foundNew]
      rw [committed]
      exact (@find_rewrite _ _ new foundMid
        (RegistryDb.fenced new fence.fenceRevision (registry.now transaction)) rfl replacement).trans
        (if_pos rfl)
    cases isRow.symm.trans foundRow
    exact restored_refused ((kept.row _ new foundNew).fresh (.inr ready)) refused
  · cases broken

end GenerationRegistry

open GenerationRegistry

theorem registry_consistent_iff (components : Components) (clockMs : Int)
    (transactions : List Transaction) :
    (start components clockMs).Consistent ∧
        Along GenerationRegistry.step StepConsistent (start components clockMs) transactions ↔
      Along GenerationRegistry.step (fun registry transaction =>
        registry.retargetsRollback transaction = false) (start components clockMs) transactions := by
  have first : (start components clockMs).InOrder := Kept.initial components
  have agree : ∀ registry transaction, True → InOrder registry →
      (StepConsistent registry transaction ↔ registry.retargetsRollback transaction = false) := by
    intro registry transaction _ kept
    refine ⟨fun consistent => ?_, fun spared => ?_⟩
    · exact Bool.eq_false_of_not_eq_true fun broken => kept.not_consistent broken consistent.after
    · exact ⟨(kept.step spared).consistent, kept.revision, fun _ carries => kept.stale carries⟩
  have preserved : ∀ registry transaction, True → InOrder registry →
      registry.retargetsRollback transaction = false → InOrder (registry.step transaction) :=
    fun _ _ _ kept spared => kept.step spared
  exact (and_iff_right first.consistent).trans
    (along_iff agree preserved first fun _ _ => trivial)

/-! ### A rollback that is retargeted -/

/-- The hash of every content of the sample. -/
def sampleHash : String := "0123456789abcdef0123456789abcdef0123456789abcdef0123456789abcdef"

def sampleComponent (id : String) : ComponentGeneration where
  generationId := id
  policyRevision := 1
  algorithmVersion := "v3"
  status := .ready
  inputWatermark := some 0
  inputHash := some sampleHash
  outputContentHash := some sampleHash
  checkpointRef := some "c"
  activatedAtMs := none
  createdAtMs := 0
  updatedAtMs := 0
  checkpointReady := true
  checkpointWatermark := some 0

/-- A generation that binds one of the policies of the sample. -/
def sampleGeneration (id policy : String) (revision : Nat) : NewRoutingRuntimeGeneration where
  runtimeGenerationId := id
  policyGenerationId := policy
  qualityGenerationId := "quality"
  circuitGenerationId := "circuit"
  policyRevision := revision
  qualityPolicyRevision := 1
  circuitPolicyRevision := 1
  algorithmVersion := "v3"
  inputObservationWatermark := 0
  inputCircuitEventWatermark := 0
  policyInputHash := sampleHash
  qualityInputHash := sampleHash
  circuitInputHash := sampleHash
  policyContentHash := sampleHash
  qualityContentHash := sampleHash
  circuitContentHash := sampleHash
  checkpointRef := "c"
  policyCheckpointRef := "c"
  qualityCheckpointRef := "c"
  circuitCheckpointRef := "c"
  createdAtMs := 0

/-- A generation that is built while its policy is staged. -/
def sampleBuilt (id policy : String) (revision : Nat) : List RegistryOperation :=
  [.stagePolicy ⟨policy, revision, "routing-policy-v3", .staged, 0, 0⟩,
    .insertBuilding (sampleGeneration id policy revision) 0, .markReady id]

def sampleReads : CutoverReads := ⟨0, .ok sampleHash, false, .ok ()⟩

/-- Two cutovers, and a rollback to the first generation while a third one gets ready. -/
def sampleRollback : List Transaction :=
  List.map (⟨1, ·⟩) ([.buildQuality (sampleComponent "quality"),
      .buildCircuit (sampleComponent "circuit")] ++
    sampleBuilt "first" "policy-1" 1 ++
    [.beginFence "first" none false none true, .activate ⟨none, "first", 1⟩ false sampleReads] ++
    sampleBuilt "second" "policy-2" 2 ++
    [.beginFence "second" (some "first") false none true,
      .activate ⟨some "first", "second", 2⟩ false sampleReads] ++
    sampleBuilt "third" "policy-3" 3 ++
    [.beginFence "first" (some "second") true (some "operator") true])

def sampleRetarget : Transaction := ⟨1, .retargetFence ⟨some "second", "first", 3⟩ "third" false true⟩

/-- The rollback waits for "first"; "third" is put in its place, and the fence cannot be
aborted any more. -/
theorem rollback_stuck_after_retarget :
    ¬ Along GenerationRegistry.step StepConsistent (start ⟨[], [], []⟩ 0)
      (sampleRollback ++ [sampleRetarget]) := by
  intro consistent
  have spared : Along GenerationRegistry.step (fun registry transaction =>
      registry.retargetsRollback transaction = false) (start ⟨[], [], []⟩ 0) sampleRollback := by
    decide
  have first : (start ⟨[], [], []⟩ 0).InOrder := Kept.initial _
  have preserved : ∀ registry transaction, registry.retargetsRollback transaction = false →
      InOrder registry → InOrder (registry.step transaction) :=
    fun _ _ spared kept => kept.step spared
  have kept := run_invariant_along preserved first spared
  have broken : (run GenerationRegistry.step (start ⟨[], [], []⟩ 0) sampleRollback).retargetsRollback
      sampleRetarget := by
    have last : sampleRollback = sampleRollback.take 15 ++
        [⟨1, .beginFence "first" (some "second") true (some "operator") true⟩] := rfl
    -- the registry before the rollback is evaluated once
    rw [last, run_concat]
    generalize ready : run _ _ (sampleRollback.take 15) = registry
    cbv at ready
    subst ready
    decide +kernel
  exact kept.not_consistent broken (along_append.mp consistent).2.1.after

end RelayPool.Cutover
