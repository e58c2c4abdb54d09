import RelayPool.Cutover.Preserved

/-! Operations that succeed.

In a kept registry the current fence can be aborted, whatever the reason and however late
(`Kept.abortable`). `retarget_fence` succeeds once its checks have passed
(`Registered.retargetFence_of`), and a ready generation cannot be given back as a retired one
(`restored_refused`). -/
namespace RelayPool.Cutover
open Table Fallible

namespace RegistryDb
variable {db db' : RegistryDb} {id : String} {row : RuntimeGenerationRow} {clock nowMs : Int}
  {fence : RoutingGenerationFence}

/-! ### Writing without an error -/

theorem Points.unique {status : RoutingGenerationStatus} {pointer : Option String}
    (keyed : Keyed (·.runtimeGenerationId) db.generations)
    (points : Points db.find status pointer) : uniqueStatus db.generations status :=
  uniqueStatus_of keyed fun row mem is => (points _).mpr ⟨row, keyed.lookup mem, is⟩

theorem length_le_utf8ByteSize (text : String) : text.length ≤ text.utf8ByteSize := by
  have chars (cs : List Char) : cs.length ≤ (String.ofList cs).utf8ByteSize := by
    induction cs with
    | nil => exact Nat.zero_le _
    | cons c rest ih =>
      have size : (String.ofList (c :: rest)).utf8ByteSize =
          c.utf8Size + (String.ofList rest).utf8ByteSize := by
        rw [← List.singleton_append, String.ofList_append, String.utf8ByteSize_append]
        simp
      have := c.utf8Size_pos
      rw [size, List.length_cons]
      omega
  have := chars text.toList
  rwa [String.ofList_toList] at this

/-- A reason that passes its check passes the one of the audit. -/
theorem between_of_validateReason {reason : String}
    (valid : validateReason (some reason) nowMs = .ok ()) :
    0 ≤ nowMs ∧ between 1 96 reason := by
  obtain ⟨checks, -⟩ := check_ok.mp valid
  simp only [Option.any_some, not_or, decide_eq_true_eq] at checks
  obtain ⟨time, nonempty, short, -⟩ := checks
  have pos : 0 < reason.length := Nat.pos_of_ne_zero fun h => nonempty (String.length_eq_zero_iff.mp h)
  have := length_le_utf8ByteSize reason
  exact ⟨by omega, by simp only [between, decide_eq_true_eq]; omega⟩

theorem RowKept.restored {rollback : Bool} (kept : RowKept clock row) (le : clock ≤ nowMs)
    (fencedAs : FencedAs rollback row) : (restored rollback row nowMs).checks := by
  have created := kept.created
  have checks := kept.checks
  simp only [RuntimeGenerationRow.checks, decide_eq_true_eq] at checks ⊢
  refine ⟨checks.1, ?_⟩
  have dated := checks.2
  simp only [RuntimeGenerationRow.dated, decide_eq_true_eq] at dated ⊢
  obtain ⟨-, pos, ready, active, retired, failed, code, -⟩ := dated
  have updated : row.createdAtMs ≤ nowMs := le_trans created le
  refine ⟨rfl, pos, ready, active, retired, failed, code, updated, ?_⟩
  cases rollback with
  | true =>
    refine ⟨fun h => ?_, fun h => ?_, fun _ => fencedAs, fun h => ?_⟩ <;> cases h
  | false =>
    refine ⟨fun _ => fencedAs.1, fun h => ?_, fun h => ?_, fun h => ?_⟩ <;> cases h

theorem Registered.revision_pos (kept : Registered clock db) (current : Current fence db.marker) :
    0 < fence.fenceRevision := by
  obtain ⟨row, found, fencing⟩ := (kept.fencing _).mp current.2.1
  have dated := (kept.row _ row found).dated
  simp only [RuntimeGenerationRow.dated, decide_eq_true_eq] at dated
  have pos := dated.1
  rw [kept.revision _ row found fencing, current.1] at pos
  simpa using pos

theorem Registered.abortFence_of (kept : Registered clock db) {rollback : Bool} {reason : String}
    (current : Current fence db.marker) (valid : validateReason (some reason) nowMs = .ok ())
    (found : db.find fence.targetRuntimeGenerationId = some row)
    (fencing : row.status = .cutoverFencing) (checks : (restored rollback row nowMs).checks) :
    db.abortFence fence rollback reason nowMs =
      .ok (db.aborted fence (restored rollback row nowMs) reason nowMs) := by
  have points : Points db.find .cutoverFencing (some fence.targetRuntimeGenerationId) :=
    current.2.1 ▸ kept.fencing
  have off := @restored_status nowMs rollback row
  have revision := kept.revision _ row found fencing
  have active : Points (db.rewrite (restored rollback row nowMs)).find .active
      db.marker.activeRuntimeGenerationId := kept.active.other found rfl (by simp [fencing]) off.1
  have left : Points (db.rewrite (restored rollback row nowMs)).find .cutoverFencing none :=
    points.drop found rfl off.2
  obtain ⟨time, short⟩ := between_of_validateReason valid
  have written : db.updateGeneration fence.targetRuntimeGenerationId
      (fun row => row.status = .cutoverFencing ∧
        row.cutoverFenceRevision = some fence.fenceRevision)
      (fun row => { row with
        status := if rollback then .retired else .ready
        cutoverFenceRevision := none
        updatedAtMs := nowMs }) = .ok (db.rewrite (restored rollback row nowMs)) := by
    refine updateGeneration_of found ?_ checks ?_ fun status is => ?_
    · simp [fencing, revision, current.1]
    · rw [fencing]
      cases rollback <;> rfl
    · rcases is with rfl | rfl
      · exact active.unique kept.keyed.put
      · exact left.unique kept.keyed.put
  have cleared : (db.rewrite (restored rollback row nowMs)).updateMarker (holdsFence fence)
      (fun marker => { marker with fencedRuntimeGenerationId := none, updatedAtMs := nowMs }) =
      .ok { db.rewrite (restored rollback row nowMs) with
        marker := { db.marker with fencedRuntimeGenerationId := none, updatedAtMs := nowMs } } := by
    have holds : holdsFence fence db.marker := by simp [holdsFence, current.1, current.2.1]
    unfold updateMarker
    rw [if_pos holds, if_neg]
    exact not_or.mpr ⟨not_lt.mpr time, not_not.mpr kept.mode⟩
  have audited : (transitionAudit .cutoverAborted fence (some reason) nowMs).fenceRevision > 0 ∧
      ((transitionAudit .cutoverAborted fence (some reason) nowMs).reasonCode.all (between 1 96)) ∧
      0 ≤ (transitionAudit .cutoverAborted fence (some reason) nowMs).createdAtMs :=
    ⟨kept.revision_pos current, short, time⟩
  unfold abortFence
  rw [valid, kept.assertFence_iff.mpr current, written]
  show (updateMarker _ _ _ >>= _) = _
  rw [cleared]
  exact if_pos audited

/-- The current fence can be aborted at any later time, for any reason. -/
theorem Kept.abortable (kept : Kept clock db) (current : Current fence db.marker)
    (le : clock ≤ nowMs) {reason : String} (valid : validateReason (some reason) nowMs = .ok ()) :
    ∃ row rollback, db.find fence.targetRuntimeGenerationId = some row ∧
      row.status = .cutoverFencing ∧ db.abortOwnMode fence reason nowMs =
        .ok (db.aborted fence (restored rollback row nowMs) reason nowMs) := by
  obtain ⟨row, found, fencing⟩ := (kept.fencing _).mp current.2.1
  obtain ⟨rollback, mode, fencedAs⟩ := kept.origin _ row found fencing
  have isMode := mode fence.targetRuntimeGenerationId
  rw [currentFence_eq current] at isMode
  have checks := (kept.row _ row found).restored le fencedAs
  refine ⟨row, rollback, found, fencing, ?_⟩
  unfold RegistryDb.abortOwnMode
  rw [isMode]
  exact kept.abortFence_of current valid found fencing checks

/-- A ready generation that a retargeted rollback has fenced cannot be given back. -/
theorem restored_refused (fresh : row.retiredAtMs = none) : ¬ (restored true row nowMs).checks := by
  intro checks
  simp only [RuntimeGenerationRow.checks, decide_eq_true_eq] at checks
  have dated := checks.2
  simp only [RuntimeGenerationRow.dated, decide_eq_true_eq] at dated
  have retired := dated.2.2.2.2.2.2.2.2.2.2.1 rfl
  rw [show (restored true row nowMs).retiredAtMs = none from fresh] at retired
  cases retired

/-! ### Retargeting without an error -/

theorem RowKept.superseded (kept : RowKept clock row) (le : clock ≤ nowMs) :
    (superseded row nowMs).checks := by
  have created : row.createdAtMs ≤ nowMs := le_trans kept.created le
  have checks := kept.checks
  simp only [RuntimeGenerationRow.checks, decide_eq_true_eq] at checks ⊢
  refine ⟨checks.1, ?_⟩
  have dated := checks.2
  simp only [RuntimeGenerationRow.dated, decide_eq_true_eq] at dated ⊢
  obtain ⟨-, pos, ready, active, retired, -⟩ := dated
  have code : between 1 96 "superseded_by_fence_tail" := by decide
  refine ⟨rfl, pos, ready, active, retired, decide_eq_true created, code, created, fun h => ?_,
    fun h => ?_, fun h => ?_, fun _ => ⟨rfl, rfl⟩⟩ <;> cases h

theorem RowKept.fenced (kept : RowKept clock row) (le : clock ≤ nowMs) {revision : Nat}
    (pos : 0 < revision) : (fenced row revision nowMs).checks := by
  have created : row.createdAtMs ≤ nowMs := le_trans kept.created le
  have checks := kept.checks
  simp only [RuntimeGenerationRow.checks, decide_eq_true_eq] at checks ⊢
  refine ⟨checks.1, ?_⟩
  have dated := checks.2
  simp only [RuntimeGenerationRow.dated, decide_eq_true_eq] at dated ⊢
  obtain ⟨-, pos', ready, active, retired, failed, code, -⟩ := dated
  refine ⟨?_, pos', ready, active, retired, failed, code, created, fun h => ?_, fun h => ?_,
    fun h => ?_, fun h => ?_⟩
  · simpa [RegistryDb.fenced] using pos
  all_goals cases h

/-- `retarget_fence` succeeds once its checks have passed. -/
theorem Registered.retargetFence_of (kept : Registered clock db) (le : clock ≤ nowMs)
    {replacement : String} {tail qualified : Bool}
    (allowed : db.retargetable fence replacement tail qualified nowMs = .ok ()) :
    ∃ old new, db.find fence.targetRuntimeGenerationId = some old ∧
      old.status = .cutoverFencing ∧ db.find replacement = some new ∧ new.status = .ready ∧
      db.retargetFence fence replacement tail qualified nowMs =
        .ok ({ fence with targetRuntimeGenerationId := replacement },
          db.retargeted replacement old new fence.fenceRevision nowMs) := by
  have allowed' := allowed
  unfold retargetable at allowed'
  obtain ⟨input, allowed'⟩ := guard_ok.mp allowed'
  obtain ⟨_, asserted, allowed'⟩ := bind_ok.mp allowed'
  obtain ⟨new, loaded, allowed'⟩ := bind_ok.mp allowed'
  obtain ⟨ready, -⟩ := guard_ok.mp allowed'
  have ready := not_not.mp ready
  have current := kept.assertFence_iff.mp asserted
  have foundNew := kept.loadExisting_ok loaded
  obtain ⟨old, found, fencing⟩ := (kept.fencing _).mp current.2.1
  refine ⟨old, new, found, fencing, foundNew, ready, ?_⟩
  have oldKept := kept.row _ old found
  have newKept := kept.row _ new foundNew
  have pos := kept.revision_pos current
  have revision := kept.revision _ old found fencing
  have other := ne_of_status found foundNew (by simp [fencing, ready])
  have points : Points db.find .cutoverFencing (some fence.targetRuntimeGenerationId) :=
    current.2.1 ▸ kept.fencing
  have left : Points (db.rewrite (superseded old nowMs)).find .cutoverFencing none :=
    points.drop found rfl nofun
  have active : Points (db.rewrite (superseded old nowMs)).find .active
      db.marker.activeRuntimeGenerationId :=
    kept.active.other found rfl (by simp [fencing]) nofun
  have foundNew' : (db.rewrite (superseded old nowMs)).find replacement = some new := by
    rw [@find_rewrite db _ old found (superseded old nowMs) rfl, if_neg other, foundNew]
  have after := kept.retargeted current found fencing foundNew ready (oldKept.superseded le)
    (newKept.fenced le pos)
  have written : db.updateGeneration fence.targetRuntimeGenerationId
      (fun row => row.status = .cutoverFencing ∧
        row.cutoverFenceRevision = some fence.fenceRevision)
      (superseded · nowMs) = .ok (db.rewrite (superseded old nowMs)) := by
    refine updateGeneration_of found ?_ (oldKept.superseded le) (by rw [fencing]; rfl)
      fun status is => ?_
    · simp [fencing, revision, current.1]
    · rcases is with rfl | rfl
      · exact active.unique kept.keyed.put
      · exact left.unique kept.keyed.put
  have promoted : (db.rewrite (superseded old nowMs)).updateGeneration replacement
      (fun row => row.status = .ready) (fenced · fence.fenceRevision nowMs) =
      .ok ((db.rewrite (superseded old nowMs)).rewrite (fenced new fence.fenceRevision nowMs)) := by
    refine updateGeneration_of foundNew' (by simp [ready]) (newKept.fenced le pos)
      (by rw [ready]; rfl) fun status is => ?_
    rcases is with rfl | rfl
    · exact Points.unique after.keyed after.active
    · exact Points.unique after.keyed after.fencing
  have holds : db.marker.fencedRuntimeGenerationId = some fence.targetRuntimeGenerationId ∧
      db.marker.fenceRevision = fence.fenceRevision := ⟨current.2.1, current.1⟩
  have marked : ((db.rewrite (superseded old nowMs)).rewrite
      (fenced new fence.fenceRevision nowMs)).updateMarker
      (fun marker => marker.fencedRuntimeGenerationId = some fence.targetRuntimeGenerationId ∧
        marker.fenceRevision = fence.fenceRevision)
      (fun marker => { marker with fencedRuntimeGenerationId := some replacement }) =
      .ok (db.retargeted replacement old new fence.fenceRevision nowMs) := by
    unfold updateMarker
    rw [if_pos (decide_eq_true holds), if_neg]
    · rfl
    · exact not_or.mpr ⟨not_lt.mpr kept.marked, not_not.mpr kept.mode⟩
  unfold retargetFence
  rw [allowed]
  show (updateGeneration _ _ _ (superseded · nowMs) >>= _) = _
  rw [written]
  show (updateGeneration _ _ _ (fenced · fence.fenceRevision nowMs) >>= _) = _
  rw [promoted]
  show (updateMarker _ _ _ >>= _) = _
  rw [marked]
  rfl

end RegistryDb

end RelayPool.Cutover
