import RelayPool.Cutover.Coordinator

/-! What holds of the registry between two transactions.

`Kept` ties the marker to the rows: it points at the one active row and at the one fencing
row (`Registered`), and the audits say in which mode the fence was begun. Such a registry is
read without an error (`Registered.snapshot`), so a fence is current exactly when it says what
the marker says (`Registered.assertFence_iff`). -/
namespace RelayPool.Cutover
open Table Fallible

namespace RegistryDb
variable {db db' : RegistryDb} {id : String} {row : RuntimeGenerationRow}

abbrev find (db : RegistryDb) (id : String) : Option RuntimeGenerationRow :=
  lookup (·.runtimeGenerationId) db.generations id

/-- The database with one row rewritten. -/
abbrev rewrite (db : RegistryDb) (row : RuntimeGenerationRow) : RegistryDb :=
  { db with generations := put (·.runtimeGenerationId) row db.generations }

theorem find_id (found : db.find id = some row) : row.runtimeGenerationId = id :=
  (lookup_some found).2

theorem find_rewrite (found : db.find id = some row) {row' : RuntimeGenerationRow}
    (same : row'.runtimeGenerationId = row.runtimeGenerationId) (k : String) :
    (db.rewrite row').find k = if id = k then some row' else db.find k := by
  have key : row'.runtimeGenerationId = id := same.trans (find_id found)
  rw [find, lookup_put, key]
  split
  · rename_i here
    subst here
    rw [show lookup (·.runtimeGenerationId) db.generations id = some row from found]
    rfl
  · rfl

/-! ### The statements -/

section Statements
variable {p : RuntimeGenerationRow → Bool} {f : RuntimeGenerationRow → RuntimeGenerationRow}

theorem updateGeneration_ok (h : db.updateGeneration id p f = .ok db') :
    ∃ row, db.find id = some row ∧ p row ∧ (f row).checks ∧ db' = db.rewrite (f row) := by
  unfold updateGeneration at h
  split at h
  · cases h
  · rename_i row affected
    obtain ⟨found, holds⟩ := Option.filter_eq_some_iff.mp affected
    simp only [ite_ok, reduceCtorEq, and_false, or_false, false_or, not_not, Except.ok.injEq] at h
    obtain ⟨written, -, is⟩ := h
    exact ⟨row, found, holds, written.1, is.symm⟩

theorem updateGeneration_of (found : db.find id = some row) (holds : p row)
    (checks : (f row).checks) (legal : legalStatusTransition row.status (f row).status)
    (one : ∀ status, status = .active ∨ status = .cutoverFencing →
      uniqueStatus (put (·.runtimeGenerationId) (f row) db.generations) status) :
    db.updateGeneration id p f = .ok (db.rewrite (f row)) := by
  have affected : (db.find id).filter p = some row :=
    Option.filter_eq_some_iff.mpr ⟨found, holds⟩
  unfold updateGeneration
  rw [affected]
  exact (if_neg (not_not.mpr ⟨checks, legal⟩)).trans
    (if_pos ⟨one _ (.inl rfl), one _ (.inr rfl)⟩)

theorem updateMarker_ok {p : RoutingGenerationMarker → Bool}
    {f : RoutingGenerationMarker → RoutingGenerationMarker} (h : db.updateMarker p f = .ok db') :
    p db.marker ∧ 0 ≤ (f db.marker).updatedAtMs ∧ db' = { db with marker := f db.marker } := by
  unfold updateMarker at h
  simp only [ite_ok, reduceCtorEq, and_false, or_false, false_or, Except.ok.injEq] at h
  obtain ⟨holds, checks, is⟩ := h
  exact ⟨holds, not_lt.mp (not_or.mp checks).1, is.symm⟩

theorem insertAudit_ok {audit : TransitionAudit} (h : db.insertAudit audit = .ok db') :
    db' = { db with audits := db.audits ++ [audit] } := by
  unfold insertAudit at h
  simp only [ite_ok, reduceCtorEq, and_false, or_false, Except.ok.injEq] at h
  exact h.2.symm

end Statements

/-- Rows that a pointer tells apart by their status are not two. -/
theorem uniqueStatus_of {rows : List RuntimeGenerationRow}
    (keyed : Keyed (·.runtimeGenerationId) rows) {status : RoutingGenerationStatus}
    {pointer : Option String}
    (points : ∀ row ∈ rows, row.status = status → pointer = some row.runtimeGenerationId) :
    uniqueStatus rows status := by
  rw [uniqueStatus, decide_eq_true_eq, List.countP_eq_length_filter]
  cases is : pointer with
  | none =>
    rw [List.filter_eq_nil_iff.mpr fun row mem isStatus => ?_]
    · exact Nat.zero_le 1
    · cases is.symm.trans (points row mem (by simpa using isStatus))
  | some id =>
    have only : ∀ row ∈ rows, decide (row.status = status) → row.runtimeGenerationId = id :=
      fun row mem isStatus =>
        Option.some.inj ((points row mem (by simpa using isStatus)).symm.trans is)
    rw [Keyed.filter_eq keyed only]
    generalize Option.filter _ _ = found
    cases found <;> simp

/-! ### What is kept -/

/-- What holds of a row at a time. -/
structure RowKept (clock : Int) (row : RuntimeGenerationRow) : Prop where
  checks : row.checks
  created : row.createdAtMs ≤ clock
  /-- A generation that has not been active has not been retired. -/
  fresh : row.status = .building ∨ row.status = .ready → row.retiredAtMs = none

/-- What a fence that was begun in this mode has fenced. -/
def FencedAs : Bool → RuntimeGenerationRow → Prop
  | true, row => row.retiredAtMs.isSome
  | false, row => row.readyAtMs.isSome ∧ row.retiredAtMs = none

/-- The fence that the marker holds, whatever it has fenced. -/
def currentFence (db : RegistryDb) (target : String) : RoutingGenerationFence :=
  ⟨db.marker.activeRuntimeGenerationId, target, db.marker.fenceRevision⟩

/-- The fence says what the marker says. -/
def Current (fence : RoutingGenerationFence) (marker : RoutingGenerationMarker) : Prop :=
  marker.fenceRevision = fence.fenceRevision ∧
    marker.fencedRuntimeGenerationId = some fence.targetRuntimeGenerationId ∧
    marker.activeRuntimeGenerationId = fence.sourceRuntimeGenerationId

/-- A pointer names the one row that has a status. -/
def Points (find : String → Option RuntimeGenerationRow) (status : RoutingGenerationStatus)
    (pointer : Option String) : Prop :=
  ∀ id, pointer = some id ↔ ∃ row, find id = some row ∧ row.status = status

/-- The marker points at the rows, and the rows are what their status says. -/
structure Registered (clock : Int) (db : RegistryDb) : Prop where
  keyed : Keyed (·.runtimeGenerationId) db.generations
  row : ∀ id row, db.find id = some row → RowKept clock row
  active : Points db.find .active db.marker.activeRuntimeGenerationId
  fencing : Points db.find .cutoverFencing db.marker.fencedRuntimeGenerationId
  mode : db.marker.mode = .preCutover ↔ db.marker.activeRuntimeGenerationId = none
  marked : 0 ≤ db.marker.updatedAtMs
  bound : ∀ id row, db.find id = some row → row.status = .active →
    db.validateComponentBindings row = .ok ()
  revision : ∀ id row, db.find id = some row → row.status = .cutoverFencing →
    row.cutoverFenceRevision = some db.marker.fenceRevision
  audits : ∀ audit ∈ db.audits, audit.fenceRevision ≤ db.marker.fenceRevision

structure Kept (clock : Int) (db : RegistryDb) : Prop extends Registered clock db where
  /-- The audits tell the mode of the fence, which suits the row that it has fenced. -/
  origin : ∀ id row, db.find id = some row → row.status = .cutoverFencing →
    ∃ rollback, (∀ target, db.isRollbackFence (db.currentFence target) = .ok rollback) ∧
      FencedAs rollback row

theorem RowKept.mono {clock later : Int} (kept : RowKept clock row) (le : clock ≤ later) :
    RowKept later row :=
  ⟨kept.checks, le_trans kept.created le, kept.fresh⟩

namespace Kept
variable {clock later : Int}

theorem mono (kept : Kept clock db) (le : clock ≤ later) : Kept later db :=
  { kept with row := fun id row found => (kept.row id row found).mono le }

theorem initial (components : Components) : Kept clock (RegistryDb.initial components) := by
  have empty (id : String) : (RegistryDb.initial components).find id = none := rfl
  have absent {P : Prop} (id : String) {row : RuntimeGenerationRow}
      (found : (RegistryDb.initial components).find id = some row) : P := by
    rw [empty] at found
    cases found
  exact {
    keyed := List.nodup_nil
    row := fun id _ found => absent id found
    active := fun id => ⟨nofun, fun ⟨_, found, _⟩ => absent id found⟩
    fencing := fun id => ⟨nofun, fun ⟨_, found, _⟩ => absent id found⟩
    mode := ⟨fun _ => rfl, fun _ => rfl⟩
    marked := le_refl 0
    bound := fun id _ found => absent id found
    revision := fun id _ found => absent id found
    origin := fun id _ found => absent id found
    audits := nofun }

end Kept

/-! ### Reading it -/

theorem ne_of_between {least most : Nat} {text : String} (pos : 0 < least)
    (h : between least most text) : text ≠ "" := by
  rintro rfl
  have : least = 0 := by simpa [between] using h
  omega

theorem fromRow_of (checks : row.checks) : fromRow row = .ok row := by
  have described : row.described := (by simpa [RuntimeGenerationRow.checks] using checks :
    row.described ∧ row.dated).1
  simp only [RuntimeGenerationRow.described, decide_eq_true_eq] at described
  obtain ⟨-, -, -, -, -, -, -, -, policyIn, qualityIn, circuitIn, policyOut, qualityOut,
    circuitOut, checkpoint, -⟩ := described
  have hash {text : String} (h : between 64 64 text) : text ≠ "" := ne_of_between (by decide) h
  exact if_pos ⟨hash policyIn, hash qualityIn, hash circuitIn, hash policyOut, hash qualityOut,
    hash circuitOut, ne_of_between (by decide) checkpoint⟩

namespace Registered
variable {clock : Int}

theorem mem (kept : Registered clock db) (mem : row ∈ db.generations) :
    db.find row.runtimeGenerationId = some row :=
  kept.keyed.lookup mem

theorem loadRuntimeGeneration (kept : Registered clock db) (id : String) :
    db.loadRuntimeGeneration id = .ok (db.find id) := by
  unfold RegistryDb.loadRuntimeGeneration
  split
  · rename_i absent
    exact congrArg _ absent.symm
  · rename_i row found
    rw [fromRow_of (kept.row id row found).checks]
    exact congrArg _ found.symm

theorem loadExisting_ok (kept : Registered clock db) (h : db.loadExisting id = .ok row) :
    db.find id = some row := by
  unfold RegistryDb.loadExisting at h
  rw [kept.loadRuntimeGeneration, show (Except.ok (db.find id) : Except PersistenceError _) =
    pure (db.find id) from rfl, pure_bind] at h
  split at h
  · rename_i found
    rw [found, pure_ok.mp h]
  · cases h

/-- The rows with a status are the one that the pointer names. -/
theorem loadByStatus (kept : Registered clock db) {status : RoutingGenerationStatus}
    {pointer : Option String} (points : Points db.find status pointer) :
    db.loadByStatus status = .ok (pointer.bind db.find).toList := by
  have rows : db.generations.filter (·.status = status) = (pointer.bind db.find).toList := by
    cases is : pointer with
    | none =>
      refine List.filter_eq_nil_iff.mpr fun row mem is' => ?_
      cases is.symm.trans ((points _).mpr ⟨row, kept.mem mem, by simpa using is'⟩)
    | some id =>
      obtain ⟨row, found, isRow⟩ := (points id).mp is
      have only : ∀ r ∈ db.generations, decide (r.status = status) →
          r.runtimeGenerationId = id := fun r mem isr => Option.some.inj
        (((points _).mpr ⟨r, kept.mem mem, by simpa using isr⟩).symm.trans is)
      have here : lookup (·.runtimeGenerationId) db.generations id = some row := found
      rw [Keyed.filter_eq kept.keyed only, Option.bind_some, found, here, Option.filter_some,
        if_pos (by simpa using isRow)]
  unfold RegistryDb.loadByStatus
  rw [rows]
  cases found : pointer.bind db.find with
  | none => rfl
  | some row =>
    obtain ⟨id, -, found⟩ := Option.bind_eq_some_iff.mp found
    show [row].mapM fromRow = _
    rw [List.mapM_cons, fromRow_of (kept.row id row found).checks]
    rfl

theorem snapshot (kept : Registered clock db) : db.loadRegistrySnapshot = .ok
    ⟨db.marker, db.marker.activeRuntimeGenerationId.bind db.find,
      db.marker.fencedRuntimeGenerationId.bind db.find⟩ := by
  have head {o : Option RuntimeGenerationRow} : o.toList.head? = o := by cases o <;> rfl
  have length {o : Option RuntimeGenerationRow} : ¬ 1 < o.toList.length := by cases o <;> simp
  have fence : db.marker.fencedRuntimeGenerationId =
      (db.marker.fencedRuntimeGenerationId.bind db.find).map (·.runtimeGenerationId) := by
    cases is : db.marker.fencedRuntimeGenerationId with
    | none => rfl
    | some id =>
      obtain ⟨row, found, -⟩ := (kept.fencing id).mp is
      rw [Option.bind_some, found, Option.map_some, find_id found]
  unfold RegistryDb.loadRegistrySnapshot
  rw [kept.loadByStatus kept.active, kept.loadByStatus kept.fencing]
  have ok {α β : Type} (a : α) (f : α → Except PersistenceError β) :
      (Except.ok a >>= f) = f a := rfl
  rw [ok, ok, if_neg (not_or.mpr ⟨length, length⟩)]
  simp only [head, if_neg (not_not.mpr fence)]
  cases mode : db.marker.mode with
  | preCutover =>
    rw [kept.mode.mp mode]
    rfl
  | v3Active =>
    cases is : db.marker.activeRuntimeGenerationId with
    | none => cases mode.symm.trans (kept.mode.mpr is)
    | some id =>
      obtain ⟨row, found, isActive⟩ := (kept.active id).mp is
      simp only [Option.bind_some, found, find_id found, ne_eq, not_true_eq_false, if_false,
        kept.bound id row found isActive]
      rfl

theorem assertFence_iff (kept : Registered clock db) {fence : RoutingGenerationFence} :
    db.assertFence fence = .ok () ↔ Current fence db.marker := by
  unfold RegistryDb.assertFence Current
  rw [kept.snapshot]
  show (if _ then throw _ else pure ()) = _ ↔ _
  rw [ite_ok]
  simp only [throw_ok, and_false, false_or, not_or, not_not]
  exact and_iff_left rfl

end Registered

end RegistryDb

end RelayPool.Cutover
