import RelayPool.Cutover.Effects

/-! Every operation keeps the registry in order.

A row that is rewritten takes a pointer up, lays it down or leaves it alone
(`Points.take`, `Points.drop`, `Points.other`); each operation is a few such rewrites with
the marker written beside them. Only `retarget_fence` may break the tie between the mode of
the fence and the row that is fenced: it must not be carried out on a rollback. -/
namespace RelayPool.Cutover
open Table Fallible

namespace RegistryDb
variable {db db' : RegistryDb} {id : String} {row row' : RuntimeGenerationRow} {clock nowMs : Int}

/-! ### Pointers and rows -/

section Rewrites
variable {status : RoutingGenerationStatus} {pointer : Option String}

theorem Points.other (points : Points db.find status pointer) (found : db.find id = some row)
    (same : row'.runtimeGenerationId = row.runtimeGenerationId) (was : row.status ≠ status)
    (is : row'.status ≠ status) : Points (db.rewrite row').find status pointer := by
  intro k
  rw [points k, find_rewrite found same]
  split
  · rename_i here
    subst here
    rw [found]
    refine ⟨fun ⟨r, found', h⟩ => ?_, fun ⟨r, found', h⟩ => ?_⟩
    · cases found'
      exact absurd h was
    · cases found'
      exact absurd h is
  · exact Iff.rfl

theorem Points.take (points : Points db.find status none) (found : db.find id = some row)
    (same : row'.runtimeGenerationId = row.runtimeGenerationId) (is : row'.status = status) :
    Points (db.rewrite row').find status (some id) := by
  intro k
  rw [find_rewrite found same]
  split
  · rename_i here
    exact ⟨fun _ => ⟨row', rfl, is⟩, fun _ => congrArg some here⟩
  · rename_i there
    exact ⟨fun here => absurd (Option.some.inj here) there, fun h => nomatch (points k).mpr h⟩

theorem Points.drop (points : Points db.find status (some id)) (found : db.find id = some row)
    (same : row'.runtimeGenerationId = row.runtimeGenerationId) (is : row'.status ≠ status) :
    Points (db.rewrite row').find status none := by
  intro k
  rw [find_rewrite found same]
  refine ⟨nofun, fun ⟨r, found', h⟩ => ?_⟩
  split at found'
  · cases found'
    exact absurd h is
  · rename_i there
    exact absurd (Option.some.inj ((points k).mpr ⟨r, found', h⟩)) there

theorem Points.has (points : Points db.find status (some id)) (found : db.find id = some row) :
    row.status = status := by
  obtain ⟨r, found', is⟩ := (points id).mp rfl
  cases found.symm.trans found'
  exact is

theorem Points.none_of (points : Points db.find status none) (found : db.find id = some row) :
    row.status ≠ status :=
  fun is => nomatch (points id).mpr ⟨row, found, is⟩

end Rewrites

theorem forall_rewrite {P : RuntimeGenerationRow → Prop}
    (all : ∀ id row, db.find id = some row → P row) (found : db.find id = some row)
    (same : row'.runtimeGenerationId = row.runtimeGenerationId) (new : P row') :
    ∀ id row, (db.rewrite row').find id = some row → P row := by
  intro k r h
  rw [find_rewrite found same] at h
  split at h
  · cases h
    exact new
  · exact all k r h

theorem RowKept.dated (kept : RowKept clock row) : row.dated :=
  (by simpa [RuntimeGenerationRow.checks] using kept.checks : row.described ∧ row.dated).2

theorem RowKept.retired (kept : RowKept clock row) (is : row.status = .retired) :
    row.retiredAtMs.isSome := by
  have dated := kept.dated
  simp only [RuntimeGenerationRow.dated, decide_eq_true_eq] at dated
  exact dated.2.2.2.2.2.2.2.2.2.2.1 is

theorem RowKept.ready (kept : RowKept clock row) (is : row.status = .ready) :
    row.readyAtMs.isSome := by
  have dated := kept.dated
  simp only [RuntimeGenerationRow.dated, decide_eq_true_eq] at dated
  exact dated.2.2.2.2.2.2.2.2.1 is

theorem FencedAs.rewrite {rollback : Bool} (fencedAs : FencedAs rollback row)
    (ready : row'.readyAtMs = row.readyAtMs) (retired : row'.retiredAtMs = row.retiredAtMs) :
    FencedAs rollback row' := by
  cases rollback with
  | true => exact (congrArg Option.isSome retired).trans fencedAs
  | false => exact ⟨(congrArg Option.isSome ready).trans fencedAs.1, retired.trans fencedAs.2⟩

/-- A rewritten row is kept when it is not ready after it has been retired. -/
theorem RowKept.rewrite (kept : RowKept clock row) (checks : row'.checks)
    (created : row'.createdAtMs = row.createdAtMs)
    (fresh : row'.status = .building ∨ row'.status = .ready → row'.retiredAtMs = none) :
    RowKept clock row' :=
  ⟨checks, created ▸ kept.created, fresh⟩

/-! ### Operations beside the marker -/

theorem Kept.switched (kept : Kept clock db) (switched : Switched db db') : Kept clock db' := by
  have bound (id row) (found : db.find id = some row) (is : row.status = .active) :
      { db with components := db'.components }.validateComponentBindings row = .ok () :=
    switched.carried db row (kept.bound id row found is)
  rw [switched.only]
  exact { kept with bound }

/-- A row that is written while it is neither active nor fencing. -/
theorem Kept.quiet (kept : Kept clock db) (found : db.find id = some row)
    (same : row'.runtimeGenerationId = row.runtimeGenerationId)
    (was : row.status ≠ .active ∧ row.status ≠ .cutoverFencing)
    (is : row'.status ≠ .active ∧ row'.status ≠ .cutoverFencing) (new : RowKept clock row') :
    Kept clock (db.rewrite row') where
  keyed := kept.keyed.put
  row := forall_rewrite kept.row found same new
  active := kept.active.other found same was.1 is.1
  fencing := kept.fencing.other found same was.2 is.2
  mode := kept.mode
  marked := kept.marked
  bound := by
    refine @forall_rewrite db id row row'
      (fun row => row.status = .active → db.validateComponentBindings row = .ok ()) kept.bound
      found same fun h => absurd h is.1
  revision := by
    refine @forall_rewrite db id row row' (fun row => row.status = .cutoverFencing →
      row.cutoverFenceRevision = some db.marker.fenceRevision) kept.revision found same
      fun h => absurd h is.2
  origin := by
    refine @forall_rewrite db id row row' (fun row => row.status = .cutoverFencing →
      ∃ rollback, (∀ target, db.isRollbackFence (db.currentFence target) = .ok rollback) ∧
        FencedAs rollback row) kept.origin found same fun h => absurd h is.2
  audits := kept.audits

theorem find_concat (fresh : db.find row.runtimeGenerationId = none) (k : String) :
    { db with generations := db.generations ++ [row] }.find k =
      if row.runtimeGenerationId = k then some row else db.find k :=
  lookup_concat fresh

theorem Points.concat {status : RoutingGenerationStatus} {pointer : Option String}
    (points : Points db.find status pointer) (fresh : db.find row.runtimeGenerationId = none)
    (is : row.status ≠ status) :
    Points { db with generations := db.generations ++ [row] }.find status pointer := by
  intro k
  rw [points k, find_concat fresh]
  split
  · rename_i here
    subst here
    rw [fresh]
    refine ⟨fun ⟨_, found, _⟩ => ?_, fun ⟨_, found, h⟩ => ?_⟩
    · cases found
    · cases found
      exact absurd h is
  · exact Iff.rfl

theorem forall_concat {P : RuntimeGenerationRow → Prop}
    (all : ∀ id row, db.find id = some row → P row)
    (fresh : db.find row.runtimeGenerationId = none) (new : P row) :
    ∀ id r, { db with generations := db.generations ++ [row] }.find id = some r → P r := by
  intro k r h
  rw [find_concat fresh] at h
  split at h
  · cases h
    exact new
  · exact all k r h

theorem Kept.insertBuilding (kept : Kept clock db) {generation : NewRoutingRuntimeGeneration}
    (created : generation.createdAtMs ≤ clock)
    (h : db.insertBuildingRuntimeGeneration generation = .ok db') :
    Kept clock db' ∧ db'.marker = db.marker := by
  unfold insertBuildingRuntimeGeneration at h
  obtain ⟨found, is, h⟩ := bind_ok.mp h
  rw [kept.loadRuntimeGeneration] at is
  cases is
  split at h
  · rcases ite_ok.mp h with ⟨-, h⟩ | ⟨-, h⟩
    · exact pure_ok.mp h ▸ ⟨kept, rfl⟩
    · cases h
  · rename_i fresh
    obtain ⟨_, -, h⟩ := bind_ok.mp h
    obtain ⟨_, -, h⟩ := bind_ok.mp h
    obtain ⟨_, -, h⟩ := bind_ok.mp h
    obtain ⟨_, -, h⟩ := bind_ok.mp h
    obtain ⟨_, -, h⟩ := bind_ok.mp h
    obtain ⟨checks, h⟩ := guard_ok.mp h
    have checks := not_not.mp checks
    rcases ite_ok.mp h with ⟨-, h⟩ | ⟨-, h⟩
    · rw [← pure_ok.mp h]
      have new : db.find generation.row.runtimeGenerationId = none := fresh
      refine ⟨?_, rfl⟩
      exact {
        keyed := kept.keyed.concat new
        row := forall_concat kept.row new ⟨checks, created, fun _ => rfl⟩
        active := kept.active.concat new nofun
        fencing := kept.fencing.concat new nofun
        mode := kept.mode
        marked := kept.marked
        bound := @forall_concat db _
          (fun row => row.status = .active → db.validateComponentBindings row = .ok ()) kept.bound
          new nofun
        revision := @forall_concat db _ (fun row => row.status = .cutoverFencing →
          row.cutoverFenceRevision = some db.marker.fenceRevision) kept.revision new nofun
        origin := @forall_concat db _ (fun row => row.status = .cutoverFencing →
          ∃ rollback, (∀ target, db.isRollbackFence (db.currentFence target) = .ok rollback) ∧
            FencedAs rollback row) kept.origin new nofun
        audits := kept.audits }
    · cases h

theorem Kept.markReady (kept : Kept clock db)
    (h : db.markRuntimeGenerationReady id nowMs = .ok db') :
    Kept clock db' ∧ db'.marker = db.marker := by
  unfold markRuntimeGenerationReady at h
  obtain ⟨generation, loaded, h⟩ := bind_ok.mp h
  obtain ⟨_, -, h⟩ := bind_ok.mp h
  have rest (b : RegistryDb) (switched : Switched db b) (h : ((do
      if generation.status = .ready then return b
      b.updateGeneration id (·.status = .building) fun row =>
        { row with status := .ready, readyAtMs := some nowMs, updatedAtMs := nowMs } :
        Except PersistenceError RegistryDb)) = .ok db') :
      Kept clock db' ∧ db'.marker = db.marker := by
    have kept := kept.switched switched
    rcases ite_ok.mp h with ⟨-, h⟩ | ⟨-, h⟩
    · exact pure_ok.mp h ▸ ⟨kept, switched.marker⟩
    · obtain ⟨row, found, holds, checks, rfl⟩ := updateGeneration_ok h
      have building : row.status = .building := by simpa using holds
      have fresh := (kept.row id row found).fresh (.inl building)
      exact ⟨kept.quiet found rfl (by simp [building]) (by simp)
        ((kept.row id row found).rewrite checks rfl fun _ => fresh), switched.marker⟩
  dsimp only at h
  split at h
  · cases h
  · rename_i policy policyFound
    rcases ite_ok.mp h with ⟨-, h⟩ | ⟨-, h⟩
    · exact rest db (.refl db) h
    · obtain ⟨b, is, h⟩ := bind_ok.mp h
      exact rest b (updatePolicy_ok is) h

theorem Kept.markStale (kept : Kept clock db)
    (h : db.markReadyGenerationStale id nowMs = .ok db') :
    Kept clock db' ∧ db'.marker = db.marker := by
  obtain ⟨-, h⟩ := check_ok.mp h
  obtain ⟨row, found, holds, checks, rfl⟩ := updateGeneration_ok h
  have ready : row.status = .ready := by simpa using holds
  exact ⟨kept.quiet found rfl (by simp [ready]) (by simp)
    ((kept.row id row found).rewrite checks rfl (by simp)), rfl⟩

/-! ### Beginning a fence -/

/-- The row that `begin_fence` fences. -/
def fenced (row : RuntimeGenerationRow) (revision : Nat) (nowMs : Int) : RuntimeGenerationRow :=
  { row with
    status := .cutoverFencing
    cutoverFenceRevision := some revision
    updatedAtMs := nowMs }

/-- The audit that `begin_fence` leaves. -/
def startedAudit (rollback : Bool) (fence : RoutingGenerationFence) (reason : Option String)
    (nowMs : Int) : TransitionAudit where
  transitionKind := if rollback then .rollbackStarted else .cutoverStarted
  sourceRuntimeGenerationId := fence.sourceRuntimeGenerationId
  targetRuntimeGenerationId := fence.targetRuntimeGenerationId
  fenceRevision := fence.fenceRevision
  reasonCode := reason
  createdAtMs := nowMs

section Begin
variable {target : String} {expectedActive reason : Option String} {rollback qualified : Bool}
  {fence : RoutingGenerationFence}

theorem beginFence_ok (kept : Registered clock db)
    (h : db.beginFence target expectedActive rollback reason qualified nowMs = .ok (fence, db')) :
    ∃ row, db.find target = some row ∧
      row.status = (if rollback then .retired else .ready) ∧
      db.marker.fencedRuntimeGenerationId = none ∧
      db.marker.activeRuntimeGenerationId = expectedActive ∧ 0 ≤ nowMs ∧
      (fenced row (db.marker.fenceRevision + 1) nowMs).checks ∧
      fence = ⟨expectedActive, target, db.marker.fenceRevision + 1⟩ ∧
      db' = { db.rewrite (fenced row (db.marker.fenceRevision + 1) nowMs) with
        marker := { db.marker with
          fencedRuntimeGenerationId := some target
          fenceRevision := db.marker.fenceRevision + 1
          updatedAtMs := nowMs }
        audits := db.audits ++ [startedAudit rollback fence reason nowMs] } := by
  unfold beginFence at h
  obtain ⟨_, -, h⟩ := bind_ok.mp h
  obtain ⟨snapshot, is, h⟩ := bind_ok.mp h
  rw [kept.snapshot] at is
  cases is
  obtain ⟨clear, h⟩ := guard_ok.mp h
  obtain ⟨generation, loaded, h⟩ := bind_ok.mp h
  obtain ⟨-, h⟩ := guard_ok.mp h
  obtain ⟨_, -, h⟩ := bind_ok.mp h
  obtain ⟨_, -, h⟩ := bind_ok.mp h
  obtain ⟨_, -, h⟩ := bind_ok.mp h
  obtain ⟨a, written, h⟩ := bind_ok.mp h
  obtain ⟨b, marked, h⟩ := bind_ok.mp h
  obtain ⟨c, audited, h⟩ := bind_ok.mp h
  obtain ⟨row, found, status, checks, rfl⟩ := updateGeneration_ok written
  obtain ⟨holds, time, rfl⟩ := updateMarker_ok marked
  obtain rfl := insertAudit_ok audited
  cases pure_ok.mp h
  have unfenced : db.marker.fencedRuntimeGenerationId = none := by
    simpa using holds
  exact ⟨row, found, by simpa using status, unfenced,
    not_not.mp (not_or.mp clear).2, time, checks, rfl, rfl⟩

/-- The audits of a fence that has just been begun say in which mode. -/
theorem isRollbackFence_started (db : RegistryDb) (fence : RoutingGenerationFence)
    (old : ∀ audit ∈ db.audits, audit.fenceRevision < fence.fenceRevision)
    (is : db'.audits = db.audits ++ [startedAudit rollback fence reason nowMs])
    {fence' : RoutingGenerationFence}
    (source : fence'.sourceRuntimeGenerationId = fence.sourceRuntimeGenerationId)
    (revision : fence'.fenceRevision = fence.fenceRevision) :
    db'.isRollbackFence fence' = .ok rollback := by
  have before : (db.audits.countP fun audit => audit.transitionKind = .rollbackStarted ∧
      audit.fenceRevision = fence'.fenceRevision ∧
      audit.sourceRuntimeGenerationId = fence'.sourceRuntimeGenerationId) = 0 := by
    refine List.countP_eq_zero.mpr fun audit mem => ?_
    have := old audit mem
    simp only [decide_eq_true_eq, not_and, revision]
    omega
  unfold isRollbackFence
  rw [is, List.countP_append, before, List.countP_singleton]
  cases rollback <;> simp [startedAudit, source, revision]

theorem Kept.beginFence (kept : Kept clock db)
    (h : db.beginFence target expectedActive rollback reason qualified nowMs = .ok (fence, db')) :
    Kept clock db' := by
  obtain ⟨row, found, status, unfenced, is, time, checks, rfl, rfl⟩ := beginFence_ok kept.toRegistered h
  have rowKept := kept.row target row found
  have fencing : Points db.find .cutoverFencing none := unfenced ▸ kept.fencing
  have inactive : row.status ≠ .active := by
    rw [status]
    split <;> simp
  have fencedAs : FencedAs rollback row := by
    cases rollback with
    | true => exact rowKept.retired status
    | false => exact ⟨rowKept.ready status, rowKept.fresh (.inr status)⟩
  exact {
    keyed := kept.keyed.put
    row := forall_rewrite kept.row found rfl (rowKept.rewrite checks rfl (by simp [fenced]))
    active := kept.active.other found rfl inactive nofun
    fencing := fencing.take found rfl rfl
    mode := kept.mode
    marked := time
    bound := @forall_rewrite db target row _
      (fun row => row.status = .active → db.validateComponentBindings row = .ok ()) kept.bound
      found rfl nofun
    revision := @forall_rewrite db target row _ (fun row => row.status = .cutoverFencing →
      row.cutoverFenceRevision = some (db.marker.fenceRevision + 1))
      (fun _ _ found h => absurd h (fencing.none_of found)) found rfl fun _ => rfl
    origin := by
      refine @forall_rewrite db target row _ (fun row => row.status = .cutoverFencing → _)
        (fun _ _ found h => absurd h (fencing.none_of found)) found rfl fun _ =>
          ⟨rollback, fun other => ?_, fencedAs.rewrite rfl rfl⟩
      refine isRollbackFence_started db ⟨expectedActive, target, db.marker.fenceRevision + 1⟩
        (fun audit mem => ?_) rfl is rfl
      exact Nat.lt_succ_of_le (kept.audits audit mem)
    audits := by
      intro audit mem
      rcases List.mem_append.mp mem with old | new
      · exact Nat.le_succ_of_le (kept.audits audit old)
      · rw [List.mem_singleton.mp new]
        exact Nat.le_refl _ }

end Begin

/-! ### Moving a fence -/

section Current
variable {fence fence' : RoutingGenerationFence} {rollback : Bool}

theorem currentFence_eq (current : Current fence db.marker) :
    db.currentFence fence.targetRuntimeGenerationId = fence := by
  obtain ⟨revision, -, source⟩ := current
  cases fence
  simp only [currentFence] at *
  rw [revision, source]

/-- The row that `retarget_fence` gives up. -/
def superseded (row : RuntimeGenerationRow) (nowMs : Int) : RuntimeGenerationRow :=
  { row with
    status := .failed
    failureCode := some "superseded_by_fence_tail"
    failedAtMs := some nowMs
    cutoverFenceRevision := none
    updatedAtMs := nowMs }

/-- The registry after `retarget_fence`. -/
def retargeted (db : RegistryDb) (replacement : String) (old new : RuntimeGenerationRow)
    (revision : Nat) (nowMs : Int) : RegistryDb :=
  { (db.rewrite (superseded old nowMs)).rewrite (fenced new revision nowMs) with
    marker := { db.marker with fencedRuntimeGenerationId := some replacement } }

theorem retargetFence_ok (kept : Registered clock db) {replacement : String} {tail qualified : Bool}
    (h : db.retargetFence fence replacement tail qualified nowMs = .ok (fence', db')) :
    Current fence db.marker ∧ ∃ old new,
      db.find fence.targetRuntimeGenerationId = some old ∧ old.status = .cutoverFencing ∧
      db.find replacement = some new ∧ new.status = .ready ∧
      (superseded old nowMs).checks ∧ (fenced new fence.fenceRevision nowMs).checks ∧
      db' = db.retargeted replacement old new fence.fenceRevision nowMs := by
  unfold retargetFence at h
  obtain ⟨_, allowed, h⟩ := bind_ok.mp h
  unfold retargetable at allowed
  obtain ⟨input, allowed⟩ := guard_ok.mp allowed
  obtain ⟨_, asserted, -⟩ := bind_ok.mp allowed
  obtain ⟨a, written, h⟩ := bind_ok.mp h
  obtain ⟨b, promoted, h⟩ := bind_ok.mp h
  obtain ⟨c, marked, h⟩ := bind_ok.mp h
  obtain ⟨old, found, status, checks, rfl⟩ := updateGeneration_ok written
  obtain ⟨new, found', status', checks', rfl⟩ := updateGeneration_ok promoted
  obtain ⟨-, -, rfl⟩ := updateMarker_ok marked
  cases pure_ok.mp h
  have other : fence.targetRuntimeGenerationId ≠ replacement :=
    fun same => (not_or.mp (not_or.mp input).2).1 same.symm
  have found' : (db.rewrite (superseded old nowMs)).find replacement = some new := found'
  rw [@find_rewrite db _ old found (superseded old nowMs) rfl, if_neg other] at found'
  simp only [Bool.decide_and, Bool.and_eq_true, decide_eq_true_eq] at status status'
  exact ⟨kept.assertFence_iff.mp asserted, old, new, found, status.1, found', status', checks,
    checks', rfl⟩

section Retarget
variable {replacement : String} {old new : RuntimeGenerationRow}

theorem ne_of_status (found : db.find id = some old) (foundNew : db.find replacement = some new)
    (other : old.status ≠ new.status) : id ≠ replacement := by
  rintro rfl
  cases found.symm.trans foundNew
  exact other rfl

theorem forall_retargeted {P : RuntimeGenerationRow → Prop}
    (all : ∀ id row, db.find id = some row → P row) (found : db.find id = some old)
    (foundNew : db.find replacement = some new) (other : id ≠ replacement) {revision : Nat}
    (failed : P (superseded old nowMs)) (promoted : P (fenced new revision nowMs)) :
    ∀ id row, (db.retargeted replacement old new revision nowMs).find id = some row → P row := by
  have foundNew' : (db.rewrite (superseded old nowMs)).find replacement = some new := by
    rw [@find_rewrite db _ old found (superseded old nowMs) rfl, if_neg other, foundNew]
  exact forall_rewrite (forall_rewrite all found rfl failed) foundNew' rfl promoted

theorem Registered.retargeted (kept : Registered clock db) (current : Current fence db.marker)
    (found : db.find fence.targetRuntimeGenerationId = some old)
    (fencing : old.status = .cutoverFencing) (foundNew : db.find replacement = some new)
    (ready : new.status = .ready) (checks : (superseded old nowMs).checks)
    (checks' : (fenced new fence.fenceRevision nowMs).checks) :
    Registered clock (db.retargeted replacement old new fence.fenceRevision nowMs) := by
  have points : Points db.find .cutoverFencing (some fence.targetRuntimeGenerationId) :=
    current.2.1 ▸ kept.fencing
  have other := ne_of_status found foundNew (by simp [fencing, ready])
  have left : Points (db.rewrite (superseded old nowMs)).find .cutoverFencing none :=
    points.drop found rfl nofun
  have inactive : Points (db.rewrite (superseded old nowMs)).find .active
      db.marker.activeRuntimeGenerationId :=
    kept.active.other found rfl (by simp [fencing]) nofun
  have foundNew' : (db.rewrite (superseded old nowMs)).find replacement = some new := by
    rw [@find_rewrite db _ old found (superseded old nowMs) rfl, if_neg other, foundNew]
  exact {
    keyed := kept.keyed.put.put
    row := forall_retargeted kept.row found foundNew other
      ((kept.row _ old found).rewrite checks rfl (by simp [superseded]))
      ((kept.row _ new foundNew).rewrite checks' rfl (by simp [fenced]))
    active := inactive.other foundNew' rfl (by simp [ready]) nofun
    fencing := left.take foundNew' rfl rfl
    mode := kept.mode
    marked := kept.marked
    bound := @forall_retargeted db _ nowMs replacement old new
      (fun row => row.status = .active → db.validateComponentBindings row = .ok ())
      kept.bound found foundNew other _ nofun nofun
    revision := @forall_retargeted db _ nowMs replacement old new
      (fun row => row.status = .cutoverFencing →
        row.cutoverFenceRevision = some db.marker.fenceRevision)
      kept.revision found foundNew other _ nofun fun _ => congrArg some current.1.symm
    audits := kept.audits }

theorem Kept.retargetFence (kept : Kept clock db) {tail qualified : Bool}
    (cutover : db.isRollbackFence fence ≠ .ok true)
    (h : db.retargetFence fence replacement tail qualified nowMs = .ok (fence', db')) :
    Kept clock db' := by
  obtain ⟨current, old, new, found, fencing, foundNew, ready, checks, checks', rfl⟩ :=
    retargetFence_ok kept.toRegistered h
  obtain ⟨rollback, mode, -⟩ := kept.origin _ old found fencing
  have isMode := mode fence.targetRuntimeGenerationId
  rw [currentFence_eq current] at isMode
  have other := ne_of_status found foundNew (by simp [fencing, ready])
  cases rollback with
  | true => exact absurd isMode cutover
  | false =>
    have newKept := kept.row _ new foundNew
    exact {
      toRegistered := kept.toRegistered.retargeted current found fencing foundNew ready checks checks'
      origin := @forall_retargeted db _ nowMs replacement old new
        (fun row => row.status = .cutoverFencing → ∃ rollback,
          (∀ target, db.isRollbackFence (db.currentFence target) = .ok rollback) ∧
            FencedAs rollback row) kept.origin found foundNew other _ nofun
        fun _ => ⟨false, mode, newKept.ready ready, newKept.fresh (.inr ready)⟩ }

end Retarget

/-! ### Aborting -/

/-- The row that `abort_fence` gives back. -/
def restored (rollback : Bool) (row : RuntimeGenerationRow) (nowMs : Int) : RuntimeGenerationRow :=
  { row with
    status := if rollback then .retired else .ready
    cutoverFenceRevision := none
    updatedAtMs := nowMs }

theorem restored_status (row : RuntimeGenerationRow) :
    (restored rollback row nowMs).status ≠ .active ∧
      (restored rollback row nowMs).status ≠ .cutoverFencing := by
  unfold restored
  cases rollback <;> simp

/-- The audit that an operation on a fence leaves. -/
def transitionAudit (kind : TransitionKind) (fence : RoutingGenerationFence)
    (reason : Option String) (nowMs : Int) : TransitionAudit where
  transitionKind := kind
  sourceRuntimeGenerationId := fence.sourceRuntimeGenerationId
  targetRuntimeGenerationId := fence.targetRuntimeGenerationId
  fenceRevision := fence.fenceRevision
  reasonCode := reason
  createdAtMs := nowMs

/-- The registry after `abort_fence`. -/
def aborted (db : RegistryDb) (fence : RoutingGenerationFence) (row : RuntimeGenerationRow)
    (reason : String) (nowMs : Int) : RegistryDb :=
  { db.rewrite row with
    marker := { db.marker with fencedRuntimeGenerationId := none, updatedAtMs := nowMs }
    audits := db.audits ++ [transitionAudit .cutoverAborted fence (some reason) nowMs] }

theorem abortFence_ok (kept : Registered clock db) {reason : String}
    (h : db.abortFence fence rollback reason nowMs = .ok db') :
    Current fence db.marker ∧ ∃ row,
      db.find fence.targetRuntimeGenerationId = some row ∧ row.status = .cutoverFencing ∧
      0 ≤ nowMs ∧ (restored rollback row nowMs).checks ∧
      db' = db.aborted fence (restored rollback row nowMs) reason nowMs := by
  unfold abortFence at h
  obtain ⟨_, -, h⟩ := bind_ok.mp h
  obtain ⟨_, asserted, h⟩ := bind_ok.mp h
  obtain ⟨a, written, h⟩ := bind_ok.mp h
  obtain ⟨b, marked, h⟩ := bind_ok.mp h
  obtain ⟨row, found, status, checks, rfl⟩ := updateGeneration_ok written
  obtain ⟨-, time, rfl⟩ := updateMarker_ok marked
  obtain rfl := insertAudit_ok h
  simp only [Bool.decide_and, Bool.and_eq_true, decide_eq_true_eq] at status
  exact ⟨kept.assertFence_iff.mp asserted, row, found, status.1, time, checks, rfl⟩

theorem Kept.aborted (kept : Kept clock db) {reason : String}
    (current : Current fence db.marker)
    (found : db.find fence.targetRuntimeGenerationId = some row) (time : 0 ≤ nowMs)
    (checks : (restored rollback row nowMs).checks) (fencedAs : FencedAs rollback row) :
    Kept clock (db.aborted fence (restored rollback row nowMs) reason nowMs) := by
  have points : Points db.find .cutoverFencing (some fence.targetRuntimeGenerationId) :=
    current.2.1 ▸ kept.fencing
  have fencing := points.has found
  have off := @restored_status nowMs rollback row
  have left : Points (db.rewrite (restored rollback row nowMs)).find .cutoverFencing none :=
    points.drop found rfl off.2
  have fresh : (restored rollback row nowMs).status = .building ∨
      (restored rollback row nowMs).status = .ready →
      (restored rollback row nowMs).retiredAtMs = none := by
    cases rollback with
    | true => exact fun h => by simp [restored] at h
    | false => exact fun _ => fencedAs.2
  exact {
    keyed := kept.keyed.put
    row := forall_rewrite kept.row found rfl ((kept.row _ row found).rewrite checks rfl fresh)
    active := kept.active.other found rfl (by simp [fencing]) off.1
    fencing := left
    mode := kept.mode
    marked := time
    bound := @forall_rewrite db _ row _
      (fun row => row.status = .active → db.validateComponentBindings row = .ok ()) kept.bound
      found rfl fun h => absurd h off.1
    revision := fun _ _ found h => absurd h (left.none_of found)
    origin := fun _ _ found h => absurd h (left.none_of found)
    audits := by
      intro audit mem
      rcases List.mem_append.mp mem with old | new
      · exact kept.audits audit old
      · rw [List.mem_singleton.mp new]
        exact Nat.le_of_eq current.1.symm }

theorem Kept.abortOwnMode (kept : Kept clock db) {reason : String}
    (h : db.abortOwnMode fence reason nowMs = .ok db') : Kept clock db' := by
  obtain ⟨rollback, isMode, h⟩ := bind_ok.mp h
  obtain ⟨current, row, found, fencing, time, checks, rfl⟩ := abortFence_ok kept.toRegistered h
  obtain ⟨rollback', mode, fencedAs⟩ := kept.origin _ row found fencing
  have same := mode fence.targetRuntimeGenerationId
  rw [currentFence_eq current, isMode] at same
  cases same
  exact kept.aborted current found time checks fencedAs

/-! ### Activating -/

/-- The row that gives way to the target of the fence. -/
def gaveWay (row : RuntimeGenerationRow) (nowMs : Int) : RuntimeGenerationRow :=
  { row with status := .retired, retiredAtMs := some nowMs, updatedAtMs := nowMs }

/-- The row that becomes active. -/
def activated (row : RuntimeGenerationRow) (nowMs : Int) : RuntimeGenerationRow :=
  { row with
    status := .active
    activatedAtMs := some nowMs
    retiredAtMs := none
    updatedAtMs := nowMs }

/-- The registry once the source of the fence has given way. -/
structure GivenWay (clock : Int) (db db' : RegistryDb) : Prop where
  only : db' = { db with generations := db'.generations }
  keyed : Keyed (·.runtimeGenerationId) db'.generations
  row : ∀ id row, db'.find id = some row → RowKept clock row
  active : Points db'.find .active none
  fencing : Points db'.find .cutoverFencing db.marker.fencedRuntimeGenerationId
  fenced : ∀ id row, db'.find id = some row → row.status = .cutoverFencing →
    db.find id = some row

theorem Registered.giveWay (kept : Registered clock db) (current : Current fence db.marker)
    (h : db.retireActive fence.sourceRuntimeGenerationId nowMs = .ok db') :
    GivenWay clock db db' := by
  unfold retireActive at h
  split at h
  · rename_i none
    cases h
    exact ⟨rfl, kept.keyed, kept.row, none ▸ current.2.2 ▸ kept.active, kept.fencing,
      fun _ _ found _ => found⟩
  · rename_i source some
    obtain ⟨row, found, status, checks, rfl⟩ := updateGeneration_ok h
    have active : row.status = .active := by simpa using status
    have points : Points db.find .active (Option.some source) := some ▸ current.2.2 ▸ kept.active
    refine ⟨rfl, kept.keyed.put, ?_, points.drop found rfl nofun,
      kept.fencing.other found rfl (by simp [active]) nofun, fun k r found' fencing => ?_⟩
    · exact forall_rewrite kept.row found rfl ((kept.row _ row found).rewrite checks rfl (by simp))
    · have found' : (db.rewrite (gaveWay row nowMs)).find k = Option.some r := found'
      rw [@find_rewrite db _ row found (gaveWay row nowMs) rfl] at found'
      split at found'
      · cases found'
        cases fencing
      · exact found'

/-- The registry after `activate_fenced_generation`, with the components as they were. -/
def crossed (db : RegistryDb) (rollback : Bool) (fence : RoutingGenerationFence)
    (row : RuntimeGenerationRow) (nowMs : Int) : RegistryDb :=
  { db.rewrite (activated row nowMs) with
    marker := { db.marker with
      mode := .v3Active
      activeRuntimeGenerationId := some fence.targetRuntimeGenerationId
      fencedRuntimeGenerationId := none
      updatedAtMs := nowMs }
    audits := db.audits ++ [transitionAudit (if rollback then .rollbackActivated
      else .cutoverActivated) fence none nowMs] }

theorem activateFencedGeneration_ok (kept : Registered clock db) {preserve : Bool}
    {reads : ActivationReads}
    (h : db.activateFencedGeneration fence rollback preserve reads nowMs = .ok db') :
    Current fence db.marker ∧ ∃ a row, GivenWay clock db a ∧
      a.find fence.targetRuntimeGenerationId = some row ∧ row.status = .cutoverFencing ∧
      0 ≤ nowMs ∧ (activated row nowMs).checks ∧ db.validateComponentBindings row = .ok () ∧
      Switched (a.crossed rollback fence row nowMs) db' := by
  unfold activateFencedGeneration at h
  obtain ⟨time, h⟩ := guard_ok.mp h
  obtain ⟨_, asserted, h⟩ := bind_ok.mp h
  have current := kept.assertFence_iff.mp asserted
  obtain ⟨target, loaded, h⟩ := bind_ok.mp h
  have foundTarget := kept.loadExisting_ok loaded
  obtain ⟨_, valid, h⟩ := bind_ok.mp h
  obtain ⟨_, -, h⟩ := bind_ok.mp h
  obtain ⟨a, retired, h⟩ := bind_ok.mp h
  obtain ⟨b, written, h⟩ := bind_ok.mp h
  obtain ⟨c, switched, h⟩ := bind_ok.mp h
  obtain ⟨reuse, -, last⟩ := bind_ok.mp h
  have way := kept.giveWay current retired
  obtain ⟨row, found, status, checks, rfl⟩ := updateGeneration_ok written
  simp only [Bool.decide_and, Bool.and_eq_true, decide_eq_true_eq] at status
  have same := way.fenced _ row found status.1
  cases foundTarget.symm.trans same
  have switched := switchComponentStatuses_ok switched
  have rest (h : (do
      let marked ← c.updateMarker (holdsFence fence) fun marker =>
        { marker with
          mode := .v3Active
          activeRuntimeGenerationId := some fence.targetRuntimeGenerationId
          fencedRuntimeGenerationId := none
          updatedAtMs := nowMs }
      marked.insertTransitionAudit (if rollback then .rollbackActivated else .cutoverActivated)
        fence none nowMs) = .ok db') : Switched (a.crossed rollback fence target nowMs) db' := by
    obtain ⟨d, marked, h⟩ := bind_ok.mp h
    obtain ⟨-, -, rfl⟩ := updateMarker_ok marked
    obtain rfl := insertAudit_ok h
    rw [switched.only]
    exact ⟨rfl, switched.carried⟩
  refine ⟨current, a, target, way, found, status.1, not_lt.mp time, checks, valid, ?_⟩
  rcases ite_ok.mp last with ⟨-, last⟩ | ⟨-, last⟩
  · exact rest last
  · obtain ⟨_, -, last⟩ := bind_ok.mp last
    exact rest last

theorem activateFencedGeneration_revision (kept : Registered clock db) {preserve : Bool}
    {reads : ActivationReads}
    (h : db.activateFencedGeneration fence rollback preserve reads nowMs = .ok db') :
    db'.marker.fenceRevision = db.marker.fenceRevision := by
  obtain ⟨-, a, row, way, -, -, -, -, -, switched⟩ := activateFencedGeneration_ok kept h
  rw [switched.marker]
  show a.marker.fenceRevision = _
  rw [way.only]

theorem Kept.activateFenced (kept : Kept clock db) {preserve : Bool} {reads : ActivationReads}
    (h : db.activateFencedGeneration fence rollback preserve reads nowMs = .ok db') :
    Kept clock db' := by
  obtain ⟨current, a, row, way, found, fencing, time, checks, valid, switched⟩ :=
    activateFencedGeneration_ok kept.toRegistered h
  have points : Points a.find .cutoverFencing (some fence.targetRuntimeGenerationId) :=
    current.2.1 ▸ way.fencing
  have left : Points (a.rewrite (activated row nowMs)).find .cutoverFencing none :=
    points.drop found rfl nofun
  have valid' : (a.rewrite (activated row nowMs)).validateComponentBindings (activated row nowMs) =
      .ok () := by
    rw [way.only]
    exact valid
  have crossed : Kept clock (a.crossed rollback fence row nowMs) := {
    keyed := way.keyed.put
    row := forall_rewrite way.row found rfl ((way.row _ row found).rewrite checks rfl fun _ => rfl)
    active := way.active.take found rfl rfl
    fencing := left
    mode := ⟨nofun, nofun⟩
    marked := time
    bound := @forall_rewrite a _ row _
      (fun row => row.status = .active → a.validateComponentBindings row = .ok ())
      (fun _ _ found h => absurd h (way.active.none_of found)) found rfl fun _ => valid'
    revision := fun _ _ found h => absurd h (left.none_of found)
    origin := fun _ _ found h => absurd h (left.none_of found)
    audits := by
      intro audit mem
      have marker : a.marker = db.marker := by rw [way.only]
      have audits : a.audits = db.audits := by rw [way.only]
      show audit.fenceRevision ≤ a.marker.fenceRevision
      rw [marker]
      rcases List.mem_append.mp mem with old | new
      · exact kept.audits audit (audits ▸ old)
      · rw [List.mem_singleton.mp new]
        exact Nat.le_of_eq current.1.symm }
  exact crossed.switched switched

end Current

end RegistryDb

end RelayPool.Cutover
