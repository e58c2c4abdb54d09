import RelayPool.Alerting.Reconcile
import RelayPool.Alerting.Recorded

/-! What a reconcile pass does to the tables.

The incidents of a page are rows as they stand, so each write of an undisturbed pass finds
its row. A pass rewrites the incidents of the page in order, up to the first one whose
resolved policy is no row of the policy table (`writePage_cases`). -/
namespace RelayPool.Alerting
open Table Fallible
open Circuit (PersistenceError)
open AlertingReconciler
open IncidentStore (ReconcileCursor listActivePage listed)

section Frames
variable (e : Encodings) (policies : List AlertPolicy) (settings : AlertingSettings) (nowMs : Int)
  (i : Incident)

theorem frame_next : (next e policies nowMs i).frame = { i.frame with
    baseSeverity := canonicalBaseSeverity i.eventType i.baseSeverity
    policyId := some (resolved e policies i).policy.id
    policyRevision := some (resolved e policies i).policy.revision
    severity := (resolved e policies i).effectiveSeverity
    lifecyclePolicyFingerprint := (resolved e policies i).fingerprint
    version := i.version + 1
    updatedAtMs := max nowMs i.updatedAtMs } := by
  unfold next reconciled
  dsimp only
  split
  · unfold resetEvaluationEpoch
    split <;> rfl
  · rfl

theorem next_id : (next e policies nowMs i).id = i.id :=
  Incident.field_of_frame (frame_next ..) (·.id) fun _ => rfl

/-- The row that a pass leaves of an incident it writes. -/
def rewritten : Incident := IncidentStore.written (next e policies nowMs i) i

theorem frame_rewritten : (rewritten e policies nowMs i).frame = { i.frame with
    policyId := some (resolved e policies i).policy.id
    policyRevision := some (resolved e policies i).policy.revision
    severity := (resolved e policies i).effectiveSeverity
    lifecyclePolicyFingerprint := (resolved e policies i).fingerprint
    version := i.version + 1
    updatedAtMs := max nowMs i.updatedAtMs } := by
  have frame := frame_next e policies nowMs i
  have same : (rewritten e policies nowMs i).frame =
      IncidentStore.written (next e policies nowMs i).frame i.frame := rfl
  rw [same, frame]
  rfl

/-- The lifecycle of a rewritten incident is as it was, or its counters begin again. -/
theorem lifecycleState_rewritten :
    (rewritten e policies nowMs i).lifecycleState = i.lifecycleState := by
  unfold rewritten IncidentStore.written next reconciled
  dsimp only
  split
  · unfold resetEvaluationEpoch
    split <;> simp_all
  · rfl

/-- The policy that the incident resolves to has a row. -/
def Backed (db : AlertingDb) (policies : List AlertPolicy) (i : Incident) : Prop :=
  (resolved e policies i).policy.id ∈ db.policies.map (·.id)

instance {db : AlertingDb} : Decidable (Backed e db policies i) :=
  inferInstanceAs (Decidable (_ ∈ _))

end Frames

/-! ### One write -/

section Writes
variable {e : Encodings} {policies : List AlertPolicy} {settings : AlertingSettings} {nowMs : Int}
  {db db' : AlertingDb} {i : Incident}

theorem updateSnapshotCas_of_mem (wf : WellFormed db) (mem : i ∈ db.incidents) {n : Incident}
    (same : n.id = i.id) : IncidentStore.updateSnapshotCas db n i.version =
      if db.references n.stationId n.stationKeyId n.policyId then
        .ok { db with
          incidents := updateWhere (fun r => r.id = n.id ∧ r.version = i.version)
            (IncidentStore.written n) db.incidents }
      else .error .constraintViolation := by
  unfold IncidentStore.updateSnapshotCas
  have one : db.incidents.countP (fun r => r.id = n.id ∧ r.version = i.version) = 1 := by
    have affected := (wf.ids.affected (·.version = i.version)).mpr
      ⟨i, wf.lookup_id mem, decide_eq_true rfl⟩
    rw [same]
    simpa using affected
  rw [if_neg (not_not.mpr one)]
  cases db.references n.stationId n.stationKeyId n.policyId <;> rfl

theorem references_next (wf : WellFormed db) (mem : i ∈ db.incidents) :
    db.references (next e policies nowMs i).stationId (next e policies nowMs i).stationKeyId
      (next e policies nowMs i).policyId ↔ Backed e db policies i := by
  have frame := frame_next e policies nowMs i
  have station : (next e policies nowMs i).stationId = i.stationId :=
    Incident.field_of_frame frame (·.stationId) fun _ => rfl
  have stationKey : (next e policies nowMs i).stationKeyId = i.stationKeyId :=
    Incident.field_of_frame frame (·.stationKeyId) fun _ => rfl
  have policy : (next e policies nowMs i).policyId = some (resolved e policies i).policy.id :=
    Incident.field_of_frame frame (·.policyId) fun _ => rfl
  have refers := wf.references i mem
  rw [station, stationKey, policy]
  unfold AlertingDb.references Backed at *
  simp only [decide_eq_true_eq] at *
  simp [refers.1, refers.2.1]

/-- An undisturbed write fails on the reference to its policy alone. -/
theorem write_of_not_backed (wf : WellFormed db) (mem : i ∈ db.incidents)
    (h : ¬ Backed e db policies i) :
    write e policies settings nowMs db i = .error .constraintViolation := by
  unfold write
  rw [updateSnapshotCas_of_mem wf mem (next_id ..),
    if_neg (mt (references_next wf mem).mp h)]
  rfl

/-- What a pass has done when it has written the stale ones of `before`. -/
structure Passed (e : Encodings) (policies : List AlertPolicy) (nowMs : Int)
    (before : List Incident) (db db' : AlertingDb) : Prop where
  incident k : incident db' k = (incident db k).map fun i =>
    if i ∈ before ∧ shouldUpdate e policies i then rewritten e policies nowMs i else i
  same : db' = { db with incidents := db'.incidents, deliveries := db'.deliveries }
  wf : WellFormed db'

theorem write_of_backed (settings : AlertingSettings) (nowMs : Int) (wf : WellFormed db)
    (mem : i ∈ db.incidents) (stale : shouldUpdate e policies i)
    (h : Backed e db policies i) :
    ∃ n db', write e policies settings nowMs db i = .ok (n, db') ∧
      Passed e policies nowMs [i] db db' := by
  have same : (next e policies nowMs i).id = i.id := next_id ..
  have version : (next e policies nowMs i).version ≠ 0 := Nat.succ_ne_zero _
  have cas := updateSnapshotCas_of_mem wf mem same
  rw [if_pos ((references_next wf mem).mpr h)] at cas
  obtain ⟨r, mem', same', -, -, stored⟩ := updateSnapshotCas_ok wf version cas
  obtain rfl : i = r := wf.ids.inj mem mem' (same.symm.trans same'.symm)
  have incident k : Alerting.incident (_ : AlertingDb) k = _ := stored.incident k
  have moved k : (if k = i.conditionKey then some (rewritten e policies nowMs i)
      else Alerting.incident db k) = (Alerting.incident db k).map fun j =>
        if j ∈ [i] ∧ shouldUpdate e policies j then rewritten e policies nowMs j else j := by
    cases found : Alerting.incident db k with
    | none =>
      rw [if_neg fun same => lookup_none.mp found i mem same.symm]
      rfl
    | some j =>
      obtain ⟨memj, rfl⟩ := lookup_some found
      by_cases here : j = i
      · subst here
        simp [stale]
      · rw [if_neg fun same => here (wf.keyed.inj memj mem same)]
        simp [here]
  unfold write
  rw [cas]
  cases reason e policies settings nowMs i with
  | none => exact ⟨0, _, rfl, fun k => (incident k).trans (moved k), rfl, stored.wf⟩
  | some reason =>
    exact ⟨_, _, rfl, fun k => (incident k).trans (moved k), rfl, stored.wf.congr rfl rfl rfl rfl⟩

theorem Passed.nil (wf : WellFormed db) : Passed e policies nowMs [] db db where
  incident k := by simp
  same := rfl
  wf := wf

theorem Passed.same_policies {before : List Incident} (passed : Passed e policies nowMs before db db') :
    db'.policies = db.policies := by rw [passed.same]

theorem rewritten_conditionKey : (rewritten e policies nowMs i).conditionKey = i.conditionKey := rfl

/-- An incident that has not had its turn is as it was. -/
theorem Passed.stays {before : List Incident} (passed : Passed e policies nowMs before db db')
    (wf : WellFormed db) {j : Incident} (mem : j ∈ db.incidents) (later : j ∉ before) :
    j ∈ db'.incidents := by
  have found : Alerting.incident db j.conditionKey = some j := wf.keyed.lookup mem
  have kept := passed.incident j.conditionKey
  rw [found, Option.map_some, if_neg fun h => later h.1] at kept
  exact (lookup_some kept).1

/-- An incident of the page that is not stale makes no difference. -/
theorem Passed.skip {before : List Incident} (passed : Passed e policies nowMs before db db')
    (fresh : ¬ shouldUpdate e policies i) : Passed e policies nowMs (i :: before) db db' where
  incident k := by
    rw [passed.incident k]
    refine congrArg (Option.map · _) (funext fun j => if_congr ?_ rfl rfl)
    rw [List.mem_cons]
    exact ⟨fun h => ⟨.inr h.1, h.2⟩, fun h => ⟨h.1.resolve_left fun is => fresh (is ▸ h.2), h.2⟩⟩
  same := passed.same
  wf := passed.wf

theorem Passed.cons {before : List Incident} {db₁ : AlertingDb}
    (first : Passed e policies nowMs [i] db db₁) (passed : Passed e policies nowMs before db₁ db')
    (wf : WellFormed db) (mem : i ∈ db.incidents) (current : ∀ j ∈ before, j ∈ db.incidents)
    (distinct : i ∉ before) : Passed e policies nowMs (i :: before) db db' where
  incident k := by
    rw [passed.incident k, first.incident k]
    cases found : Alerting.incident db k with
    | none => rfl
    | some r =>
      rw [Option.map_some, Option.map_some, Option.map_some]
      refine congrArg some ?_
      by_cases here : r = i
      · subst here
        -- the rewritten row is none of those that are still to come
        have other : ∀ stale, rewritten e policies nowMs r ∈ before → stale → False := by
          intro stale later _
          have same := wf.keyed.inj (current _ later) mem rewritten_conditionKey
          exact distinct (same ▸ later)
        by_cases stale : shouldUpdate e policies r
        · have turn : (if r ∈ [r] ∧ shouldUpdate e policies r then rewritten e policies nowMs r
              else r) = rewritten e policies nowMs r := if_pos ⟨List.mem_singleton_self r, stale⟩
          rw [turn]
          exact (if_neg fun h => other _ h.1 h.2).trans
            (if_pos ⟨List.mem_cons_self .., stale⟩).symm
        · simp [stale]
      · simp [here]
  same := by rw [passed.same, first.same]
  wf := passed.wf

/-- A pass writes the stale incidents up to the first whose policy has no row. -/
theorem writePage_cases (wf : WellFormed db) {snapshots : List Incident}
    (current : ∀ i ∈ snapshots, i ∈ db.incidents) (distinct : snapshots.Nodup) :
    ∃ before after, snapshots = before ++ after ∧
      (∀ i ∈ before, shouldUpdate e policies i → Backed e db policies i) ∧
      Passed e policies nowMs before db (writePage e policies settings nowMs db snapshots).1 ∧
      ((after = [] ∧ ∃ counts, (writePage e policies settings nowMs db snapshots).2 = .ok counts) ∨
        ∃ j rest, after = j :: rest ∧ shouldUpdate e policies j ∧ ¬ Backed e db policies j ∧
          (writePage e policies settings nowMs db snapshots).2 = .error .constraintViolation) := by
  induction snapshots generalizing db with
  | nil => exact ⟨[], [], rfl, List.forall_mem_nil _, .nil wf, .inl ⟨rfl, (0, 0), rfl⟩⟩
  | cons i rest ih =>
    obtain ⟨mem, currentRest⟩ := List.forall_mem_cons.mp current
    obtain ⟨fresh, distinctRest⟩ := List.nodup_cons.mp distinct
    unfold writePage
    by_cases stale : shouldUpdate e policies i
    · rw [if_neg (by simp [stale])]
      by_cases backed : Backed e db policies i
      · obtain ⟨n, db₁, done, first⟩ := write_of_backed settings nowMs wf mem stale backed
        have currentRest₁ : ∀ j ∈ rest, j ∈ db₁.incidents := fun j later =>
          first.stays wf (currentRest j later) fun is => fresh (List.mem_singleton.mp is ▸ later)
        obtain ⟨before, after, rfl, all, passed, ending⟩ := ih first.wf currentRest₁ distinctRest
        have sameBacked : ∀ j, Backed e db₁ policies j ↔ Backed e db policies j := fun j => by
          unfold Backed
          rw [first.same_policies]
        have now : i ∉ before := fun h => fresh (List.mem_append_left after h)
        refine ⟨i :: before, after, rfl, ?_, ?_, ?_⟩
        · refine List.forall_mem_cons.mpr ⟨fun _ => backed, fun j mem stale => ?_⟩
          exact (sameBacked j).mp (all j mem stale)
        · rw [done]
          exact first.cons passed wf mem
            (fun j later => currentRest j (List.mem_append_left after later)) now
        · rw [done]
          rcases ending with ⟨rfl, counts, ok⟩ | ⟨j, rest, rfl, staleJ, unbacked, failed⟩
          · exact .inl ⟨rfl, _, congrArg (Except.map _) ok⟩
          · exact .inr ⟨j, rest, rfl, staleJ, mt (sameBacked j).mpr unbacked,
              congrArg (Except.map _) failed⟩
      · rw [write_of_not_backed wf mem backed]
        exact ⟨[], i :: rest, rfl, List.forall_mem_nil _, .nil wf,
          .inr ⟨i, rest, rfl, stale, backed, rfl⟩⟩
    · rw [if_pos (by simp [stale])]
      obtain ⟨before, after, rfl, all, passed, ending⟩ := ih wf currentRest distinctRest
      refine ⟨i :: before, after, rfl, ?_, passed.skip stale, ending⟩
      exact List.forall_mem_cons.mpr ⟨fun h => absurd h stale, all⟩

end Writes

/-! ### A pass -/

section Passes
variable {e : Encodings} {policies : List AlertPolicy} {settings : AlertingSettings} {nowMs : Int}
  {cursor : Option ReconcileCursor} {db : AlertingDb}

/-- The page of a pass consists of rows as they stand, each one once. -/
theorem listActivePage_current (wf : WellFormed db) (cursor : Option ReconcileCursor)
    (limit : Nat) : (∀ i ∈ listActivePage db cursor limit, i ∈ db.incidents ∧ i.isActive) ∧
      (listActivePage db cursor limit).Nodup := by
  refine ⟨fun i mem => ?_, nodup_page (List.Nodup.of_map _ wf.keyed)⟩
  obtain ⟨mem, holds⟩ := mem_of_mem_page mem
  simp only [listed, Bool.decide_and, Bool.decide_eq_true, Bool.and_eq_true] at holds
  exact ⟨mem, holds.1.1⟩

theorem reconcilePage_db (h : 0 ≤ nowMs) :
    (reconcilePage e policies settings nowMs cursor db).1 =
      (writePage e policies settings nowMs db (listActivePage db cursor pageSize)).1 := by
  rw [reconcilePage, if_neg (not_lt.mpr h)]

theorem reconcilePage_of_neg (h : nowMs < 0) :
    (reconcilePage e policies settings nowMs cursor db) = (db, .error .constraintViolation) :=
  if_pos h

/-- A rewritten incident has another version. -/
theorem rewritten_ne (i : Incident) : rewritten e policies nowMs i ≠ i := by
  intro same
  have version : (rewritten e policies nowMs i).version = i.version + 1 :=
    Incident.field_of_frame (frame_rewritten ..) (·.version) fun _ => rfl
  rw [same] at version
  omega

end Passes

end RelayPool.Alerting
