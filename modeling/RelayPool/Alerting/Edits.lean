import RelayPool.Alerting.Reconciled
import RelayPool.Runs

/-! Edits of the policies, and the steps that the tables are moved by.

A policy is saved against the revision its editor has seen, or marked with a state; no
edit removes its row, so a reference to it stays good. Observations, edits and passes
keep the tables well formed in any order (`Kept`). -/
namespace RelayPool.Alerting
open Runs Table Fallible
open Circuit (PersistenceError)

/-! ### Statements -/

/-- The constraints of the policy table that tie columns to each other. -/
def AlertPolicy.checked (p : AlertPolicy) : Bool :=
  (match p.triggerMode with
    | .immediate => p.triggerCount.isNone ∧ p.triggerDurationSeconds.isNone
    | .consecutiveOccurrences => p.triggerCount.isSome ∧ p.triggerDurationSeconds.isNone
    | .activeDuration => p.triggerCount.isNone ∧ p.triggerDurationSeconds.isSome : Bool) &&
  (match p.recoveryMode with
    | .consecutiveHealthy => p.recoveryCount.isSome ∧ p.recoveryDurationSeconds.isNone
    | .healthyDuration => p.recoveryCount.isNone ∧ p.recoveryDurationSeconds.isSome : Bool) &&
  (match p.repeatMode with
    | .never | .severityEscalation => p.repeatIntervalSeconds.isNone
    | .interval | .intervalAndEscalation => p.repeatIntervalSeconds.isSome)

namespace PolicyStore

variable (db : AlertingDb)

/-- The columns that an update of a policy sets; the others stay. -/
def written (policy row : AlertPolicy) : AlertPolicy := { policy with createdAtMs := row.createdAtMs }

def save (policy : AlertPolicy) (expectedRevision : Option Nat) :
    Except PersistenceError AlertingDb :=
  match policy.validate with
  | .error message => .error (.invariantViolation message)
  | .ok () =>
    match (lookup (·.id) db.policies policy.id).map (·.revision), expectedRevision with
    | none, none =>
      if policy.revision ≠ 1 then .error (.revisionConflict policy.id)
      else if !policy.checked then .error .databaseFailed
      else .ok { db with policies := db.policies ++ [policy] }
    | some current, some expected =>
      if current ≠ expected ∨ policy.revision ≠ expected + 1 then
        .error (.revisionConflict policy.id)
      else if !policy.checked then .error .databaseFailed
      else
        .ok { db with
          policies := updateWhere (·.id = policy.id) (written policy) db.policies }
    | _, _ => .error (.revisionConflict policy.id)

def marked (state : PolicyState) (nowMs : Int) (p : AlertPolicy) : AlertPolicy :=
  { p with
    state := state
    enabled := state = .active
    revision := p.revision + 1
    updatedAtMs := nowMs }

def markState (id : String) (state : PolicyState) (expectedRevision : Nat) (nowMs : Int) :
    Except PersistenceError AlertingDb :=
  if db.policies.countP (fun p => p.id = id ∧ p.revision = expectedRevision) ≠ 1 then
    .error (.revisionConflict id)
  else if nowMs < 0 then .error .databaseFailed
  else
    .ok { db with
      policies := updateWhere (fun p => p.id = id ∧ p.revision = expectedRevision)
        (marked state nowMs) db.policies }

end PolicyStore

/-! ### Steps -/

inductive PolicyEdit
  | save (policy : AlertPolicy) (expectedRevision : Option Nat)
  | setState (id : String) (state : PolicyState) (expectedRevision : Nat) (nowMs : Int)

def PolicyEdit.execute (db : AlertingDb) : PolicyEdit → Except PersistenceError AlertingDb
  | .save policy expectedRevision => PolicyStore.save db policy expectedRevision
  | .setState id state expectedRevision nowMs =>
    PolicyStore.markState db id state expectedRevision nowMs

/-- A refused edit leaves the policies as they are. -/
def PolicyEdit.step (db : AlertingDb) (edit : PolicyEdit) : AlertingDb :=
  match edit.execute db with
  | .ok db' => db'
  | .error _ => db

/-- A pass of the alerting loop, which reads the policies and the settings for it. -/
def passStep (e : Encodings) (db : AlertingDb) (nowMs : Int) : AlertingDb :=
  (AlertingReconciler.reconcilePage e db.policies db.settings nowMs none db).1

inductive AlertingStep
  | record (input : ObservationIngress)
  | edit (edit : PolicyEdit)
  | updateSettings (settings : AlertingSettings)
  | reconcile (nowMs : Int)

def alertingStep (env : AlertingEnv) (db : AlertingDb) : AlertingStep → AlertingDb
  | .record input => recordStep env db input
  | .edit edit => edit.step db
  | .updateSettings settings => { db with settings }
  | .reconcile nowMs => passStep env.toEncodings db nowMs

/-! ### What every step keeps -/

section Edits
variable {db db' : AlertingDb}

/-- An edit replaces policies row by row, or adds one that is valid. -/
inductive Edited (db : AlertingDb) : AlertingDb → Prop
  | added (policy : AlertPolicy) (fresh : lookup (·.id) db.policies policy.id = none)
      (valid : policy.validate = .ok ()) :
      Edited db { db with policies := db.policies ++ [policy] }
  | saved (policy : AlertPolicy) (valid : policy.validate = .ok ()) :
      Edited db { db with
        policies := updateWhere (·.id = policy.id) (PolicyStore.written policy) db.policies }
  | marked (p : AlertPolicy → Bool) (state : PolicyState) (nowMs : Int) (time : 0 ≤ nowMs) :
      Edited db { db with policies := updateWhere p (PolicyStore.marked state nowMs) db.policies }

theorem save_ok {policy : AlertPolicy} {expectedRevision : Option Nat}
    (h : PolicyStore.save db policy expectedRevision = .ok db') : Edited db db' := by
  unfold PolicyStore.save at h
  split at h
  · exact (nomatch h)
  · rename_i valid
    split at h
    · rename_i absent
      split_ifs at h
      cases h
      exact .added policy (Option.map_eq_none_iff.mp absent) valid
    · split_ifs at h
      cases h
      exact .saved policy valid
    · exact (nomatch h)

theorem markState_ok {id : String} {state : PolicyState} {expectedRevision : Nat} {nowMs : Int}
    (h : PolicyStore.markState db id state expectedRevision nowMs = .ok db') : Edited db db' := by
  unfold PolicyStore.markState at h
  split_ifs at h with _ early
  cases h
  exact .marked _ state nowMs (not_lt.mp early)

/-- An edit is refused, or it is one of the three. -/
theorem PolicyEdit.step_cases (db : AlertingDb) (edit : PolicyEdit) :
    edit.step db = db ∨ Edited db (edit.step db) := by
  unfold PolicyEdit.step
  cases done : edit.execute db with
  | error => exact .inl rfl
  | ok db' =>
    cases edit with
    | save policy expectedRevision => exact .inr (save_ok done)
    | setState id state expectedRevision nowMs => exact .inr (markState_ok done)

theorem map_id_updateWhere {p : AlertPolicy → Bool} {f : AlertPolicy → AlertPolicy}
    {policies : List AlertPolicy} (same : ∀ r ∈ policies, p r → (f r).id = r.id) :
    (updateWhere p f policies).map (·.id) = policies.map (·.id) := by
  rw [updateWhere, List.map_map]
  refine List.map_congr_left fun r mem => ?_
  rw [Function.comp_apply]
  split
  · rename_i chosen
    exact same r mem chosen
  · rfl

theorem Edited.rest (edited : Edited db db') : db' = { db with policies := db'.policies } := by
  cases edited <;> rfl

/-- No edit takes the row of a policy away. -/
theorem Edited.ids (edited : Edited db db') {id : String} (mem : id ∈ db.policies.map (·.id)) :
    id ∈ db'.policies.map (·.id) := by
  cases edited with
  | added policy =>
    rw [List.map_append]
    exact List.mem_append_left _ mem
  | saved policy =>
    rwa [map_id_updateWhere fun r _ chosen => (of_decide_eq_true chosen).symm]
  | marked p state nowMs =>
    have same : ∀ r ∈ db.policies, p r → (PolicyStore.marked state nowMs r).id = r.id :=
      fun _ _ _ => rfl
    rwa [map_id_updateWhere same]

theorem Edited.wellFormed (edited : Edited db db') (wf : WellFormed db) : WellFormed db' := by
  have rest := edited.rest
  have incidents : db'.incidents = db.incidents := by rw [rest]
  refine ⟨incidents ▸ wf.keyed, incidents ▸ wf.named, incidents ▸ wf.written, fun i mem => ?_⟩
  have refers := wf.references i (incidents ▸ mem)
  have stations : db'.stations = db.stations := by rw [rest]
  have stationKeys : db'.stationKeys = db.stationKeys := by rw [rest]
  unfold AlertingDb.references at refers ⊢
  rw [stations, stationKeys]
  simp only [decide_eq_true_eq] at refers ⊢
  refine ⟨refers.1, refers.2.1, ?_⟩
  cases policy : i.policyId with
  | none => rfl
  | some id =>
    rw [policy] at refers
    exact decide_eq_true (edited.ids (of_decide_eq_true refers.2.2))

end Edits

/-- What every step keeps: well-formed tables, in which no incident is about a group that is
missing, for these observations are changes. -/
structure Kept (db : AlertingDb) : Prop where
  wf : WellFormed db
  condition : ∀ i ∈ db.incidents, i.eventType ≠ .groupMissing

section Steps
variable {env : AlertingEnv} {db : AlertingDb}

theorem Kept.start (policies : List AlertPolicy) (settings : AlertingSettings)
    (stations stationKeys : List String) : Kept (.start policies settings stations stationKeys) :=
  ⟨.start .., List.forall_mem_nil _⟩

theorem condition_of_valid {input : ObservationIngress} (valid : input.validate env = .ok ())
    (condition : input.kind ≠ .change) : input.eventType ≠ .groupMissing := by
  unfold ObservationIngress.validate at valid
  split_ifs at valid with invalid
  intro missing
  simp [missing, condition] at invalid

theorem Kept.recordStep (kept : Kept db) (input : ObservationIngress) :
    Kept (recordStep env db input) := by
  refine ⟨kept.wf.recordStep input, fun i mem => ?_⟩
  rcases @recordStep_cases env _ kept.wf input with same | ⟨valid, condition, t, j, moved⟩
  · rw [same] at mem
    exact kept.condition i mem
  · have found : incident _ i.conditionKey = some i := moved.wf.keyed.lookup mem
    rw [moved.incident] at found
    split_ifs at found
    · obtain rfl := Option.some.inj found
      have frame := frame_of_apply moved.applied
      have event : j.eventType = (target db input).eventType :=
        Incident.field_of_frame frame (·.eventType) fun _ => rfl
      rw [event]
      show (AlertingIngress.loaded db input (policyOf db input)).eventType ≠ _
      cases there : incident db input.conditionKey with
      | none =>
        rw [loaded_of_none there]
        exact condition_of_valid valid condition
      | some r =>
        rw [loaded_of_some there]
        exact kept.condition r (lookup_some there).1
    · exact kept.condition i (lookup_some found).1

/-- What a pass of the loop has done: it wrote the stale incidents of a first part of its page,
all of it if every policy there has a row. -/
theorem passStep_cases (e : Encodings) (wf : WellFormed db) (nowMs : Int) :
    ∃ before, Passed e db.policies nowMs before db (passStep e db nowMs) ∧
      (∃ after, IncidentStore.listActivePage db none AlertingReconciler.pageSize =
        before ++ after) ∧
      (∀ i ∈ before, AlertingReconciler.shouldUpdate e db.policies i → Backed e db db.policies i) ∧
      (0 ≤ nowMs →
        (∀ i ∈ IncidentStore.listActivePage db none AlertingReconciler.pageSize,
          Backed e db db.policies i) →
        before = IncidentStore.listActivePage db none AlertingReconciler.pageSize ∧
          ∃ page, (AlertingReconciler.reconcilePage e db.policies db.settings nowMs none db).2 =
            .ok page) := by
  unfold passStep
  rcases lt_or_ge nowMs 0 with early | on_time
  · rw [reconcilePage_of_neg early]
    exact ⟨[], .nil wf, ⟨_, rfl⟩, List.forall_mem_nil _, fun h => absurd early (not_lt.mpr h)⟩
  · rw [reconcilePage_db on_time]
    obtain ⟨current, distinct⟩ := listActivePage_current wf none AlertingReconciler.pageSize
    obtain ⟨before, after, split_, backed, passed, ending⟩ :=
      @writePage_cases e db.policies db.settings nowMs db wf _ (fun i mem => (current i mem).1)
        distinct
    refine ⟨before, passed, ⟨after, split_⟩, backed, fun _ all => ?_⟩
    · rcases ending with ⟨rfl, counts, done⟩ | ⟨j, rest, rfl, -, unbacked, -⟩
      · refine ⟨by rw [split_, List.append_nil], ?_⟩
        unfold AlertingReconciler.reconcilePage
        rw [if_neg (not_lt.mpr on_time)]
        dsimp only
        rw [done]
        exact ⟨_, rfl⟩
      · refine absurd (all j ?_) unbacked
        rw [split_]
        exact List.mem_append_right before (List.mem_cons_self ..)

theorem Passed.eventType {e : Encodings} {policies : List AlertPolicy} {nowMs : Int}
    {before : List Incident} {db' : AlertingDb} (passed : Passed e policies nowMs before db db')
    {i : Incident} (mem : i ∈ db'.incidents) : ∃ j ∈ db.incidents, j.eventType = i.eventType := by
  have found : Alerting.incident db' i.conditionKey = some i := passed.wf.keyed.lookup mem
  rw [passed.incident] at found
  obtain ⟨j, there, is⟩ := Option.map_eq_some_iff.mp found
  refine ⟨j, (lookup_some there).1, ?_⟩
  rw [← is]
  split <;> rfl

theorem Kept.passStep (kept : Kept db) (e : Encodings) (nowMs : Int) :
    Kept (passStep e db nowMs) := by
  obtain ⟨before, passed, -, -, -⟩ := passStep_cases e kept.wf nowMs
  refine ⟨passed.wf, fun i mem => ?_⟩
  obtain ⟨j, there, same⟩ := passed.eventType mem
  exact same ▸ kept.condition j there

theorem Kept.alertingStep (kept : Kept db) (step : AlertingStep) :
    Kept (alertingStep env db step) := by
  cases step with
  | record input => exact kept.recordStep input
  | edit edit =>
    rcases edit.step_cases db with same | edited
    · show Kept (edit.step db)
      rwa [same]
    · have incidents : (edit.step db).incidents = db.incidents := by rw [edited.rest]
      exact ⟨edited.wellFormed kept.wf, fun i mem => kept.condition i (incidents ▸ mem)⟩
  | updateSettings settings => exact ⟨kept.wf.congr rfl rfl rfl rfl, kept.condition⟩
  | reconcile nowMs => exact kept.passStep env.toEncodings nowMs

theorem Kept.run (kept : Kept db) (steps : List AlertingStep) :
    Kept (Runs.run (Alerting.alertingStep env) db steps) :=
  have preserved : ∀ (db : AlertingDb) (step : AlertingStep),
      Kept db → Kept (Alerting.alertingStep env db step) := fun _ step kept => kept.alertingStep step
  run_invariant preserved kept steps

end Steps

end RelayPool.Alerting
