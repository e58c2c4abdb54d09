import RelayPool.Alerting.Agreement
import RelayPool.Alerting.Edits

/-! Passes among the other writers.

A pass reads its page once and writes the incidents later, each in a transaction of its
own that names the version it has read. Versions of one row only grow, but the row that
replaces a deleted one starts again under the same id. The fence holds as long as no such
row is brought to the version of a snapshot that is still held (`Fenced`): then a write
that succeeds starts from the row as it stands (`writes_start_from_row`). -/
namespace RelayPool.Alerting
open Runs Table
open Circuit (PersistenceError)
open AlertingReconciler
open IncidentStore (ReconcileCursor ClearFilter listActivePage resolvable resolvedByHand)

/-! ### The steps of all writers -/

/-- A pass in flight: what it was called with, and the snapshots it has not had its turn with. -/
structure ReconcilePass where
  policies : List AlertPolicy
  settings : AlertingSettings
  nowMs : Int
  snapshots : List Incident

structure SharedTables where
  db : AlertingDb
  passes : List ReconcilePass

inductive SharedStep
  | record (input : ObservationIngress)
  | resolveAllActive (stationId : Option String) (severity : Option Severity) (nowMs : Int)
  | clear (unread : Incident → Bool) (stationId : Option String) (severity : Option Severity)
    (lifecycleState : Option ClearFilter)
  | deleteResolved (limit : Nat)
  | edit (edit : PolicyEdit)
  | updateSettings (settings : AlertingSettings)
  | read (policies : List AlertPolicy) (settings : AlertingSettings)
    (cursor : Option ReconcileCursor) (nowMs : Int)
  | write (pass : Nat)

/-- The turn of one snapshot; `none` is a pass that is over. -/
def ReconcilePass.advance (e : Encodings) (db : AlertingDb) (p : ReconcilePass) :
    AlertingDb × Option ReconcilePass :=
  match p.snapshots with
  | [] => (db, none)
  | i :: rest =>
    if !shouldUpdate e p.policies i then (db, some { p with snapshots := rest })
    else
      match write e p.policies p.settings p.nowMs db i with
      | .error _ => (db, none)
      | .ok (_, db) => (db, some { p with snapshots := rest })

def sharedStep (env : AlertingEnv) (σ : SharedTables) : SharedStep → SharedTables
  | .record input => { σ with db := recordStep env σ.db input }
  | .resolveAllActive stationId severity nowMs =>
    match IncidentStore.resolveAllActive σ.db stationId severity nowMs with
    | .error _ => σ
    | .ok (_, db) => { σ with db }
  | .clear unread stationId severity lifecycleState =>
    { σ with db := (IncidentStore.clear σ.db unread stationId severity lifecycleState).2 }
  | .deleteResolved limit => { σ with db := (IncidentStore.deleteResolved σ.db limit).2 }
  | .edit edit => { σ with db := edit.step σ.db }
  | .updateSettings settings => { σ with db := { σ.db with settings } }
  | .read policies settings cursor nowMs =>
    if nowMs < 0 then σ
    else
      { σ with
        passes := σ.passes ++ [⟨policies, settings, nowMs, listActivePage σ.db cursor pageSize⟩] }
  | .write n =>
    match σ.passes[n]? with
    | none => σ
    | some p =>
      let (db, left) := p.advance env.toEncodings σ.db
      { db, passes := σ.passes.take n ++ left.toList ++ σ.passes.drop (n + 1) }

/-! ### A pass that nothing disturbs -/

section Undisturbed
variable {env : AlertingEnv}

theorem run_write_done (db : AlertingDb) (n : Nat) :
    run (sharedStep env) ⟨db, []⟩ (List.replicate n (.write 0)) = ⟨db, []⟩ := by
  induction n with
  | zero => rfl
  | succ n ih => exact ih

theorem run_write (db : AlertingDb) (policies : List AlertPolicy) (settings : AlertingSettings)
    (nowMs : Int) (snapshots : List Incident) :
    run (sharedStep env) ⟨db, [⟨policies, settings, nowMs, snapshots⟩]⟩
        (List.replicate (snapshots.length + 1) (.write 0)) =
      ⟨(writePage env.toEncodings policies settings nowMs db snapshots).1, []⟩ := by
  induction snapshots generalizing db with
  | nil => rfl
  | cons i rest ih =>
    rw [List.length_cons, List.replicate_succ, run_cons]
    unfold writePage
    simp only [sharedStep, ReconcilePass.advance, List.getElem?_cons_zero, List.take_zero,
      List.nil_append, List.drop_succ_cons, List.drop_zero, List.append_nil]
    split
    · exact ih db
    · cases write env.toEncodings policies settings nowMs db i with
      | error => exact run_write_done db _
      | ok done => exact ih done.2

/-- The steps of a pass, taken one after the other, are the pass. -/
theorem run_pass (db : AlertingDb) (policies : List AlertPolicy) (settings : AlertingSettings)
    (cursor : Option ReconcileCursor) {nowMs : Int} (time : 0 ≤ nowMs) :
    run (sharedStep env) ⟨db, []⟩ (.read policies settings cursor nowMs ::
        List.replicate ((listActivePage db cursor pageSize).length + 1) (.write 0)) =
      ⟨(reconcilePage env.toEncodings policies settings nowMs cursor db).1, []⟩ := by
  rw [run_cons, sharedStep, if_neg (not_lt.mpr time), List.nil_append, run_write,
    reconcilePage_db time]

end Undisturbed

/-! ### Versions -/

/-- The version of the incident of a condition; where there is none it is before all of them. -/
def storedVersion (db : AlertingDb) (k : ConditionKey) : Nat :=
  ((incident db k).map (·.version)).getD 0

/-- What a step does to the incidents: each one stays, goes, or is written with the next
version where the step may write it. -/
structure Advances (db db' : AlertingDb) (touched : ConditionKey → Prop) : Prop where
  incident k : incident db' k = incident db k ∨ incident db' k = none ∨
    (touched k ∧ ∃ r, incident db' k = some r ∧ r.version = storedVersion db k + 1)
  wf : WellFormed db'

section Advancing
variable {env : AlertingEnv} {e : Encodings} {db db' : AlertingDb}
  {touched : ConditionKey → Prop} {k : ConditionKey} {r : Incident}

theorem storedVersion_of_some (found : incident db k = some r) : storedVersion db k = r.version := by
  rw [storedVersion, found]
  rfl

theorem Advances.refl (wf : WellFormed db) : Advances db db touched := ⟨fun _ => .inl rfl, wf⟩

theorem Advances.of_incidents (wf : WellFormed db') (same : db'.incidents = db.incidents) :
    Advances db db' touched := ⟨fun _ => .inl (by rw [Alerting.incident, same]), wf⟩

theorem Advances.deleteIncidents (wf : WellFormed db) (gone : Incident → Bool) :
    Advances db (IncidentStore.deleteIncidents db gone) touched := by
  refine ⟨fun k => ?_, wf.deleteIncidents gone⟩
  rw [incident_deleteIncidents wf]
  cases Alerting.incident db k with
  | none => exact .inl rfl
  | some r =>
    cases gone_ : gone r with
    | false => exact .inl (by simp [gone_])
    | true => exact .inr (.inl (by simp [gone_]))

theorem target_version (db : AlertingDb) (input : ObservationIngress) :
    (target db input).version = storedVersion db input.conditionKey := by
  show (AlertingIngress.loaded db input (policyOf db input)).version = _
  cases found : Alerting.incident db input.conditionKey with
  | none =>
    rw [loaded_of_none found, storedVersion, found]
    rfl
  | some r => rw [loaded_of_some found, storedVersion_of_some found]

theorem Projected.advances {input : ObservationIngress} {cleanup : Bool} {t : StateTransition}
    {i : Incident} (moved : Projected env db input cleanup t i db')
    (touches : touched input.conditionKey) : Advances db db' touched := by
  refine ⟨fun k => ?_, moved.wf⟩
  rw [moved.incident k]
  by_cases here : k = input.conditionKey
  · subst here
    rw [if_pos rfl]
    by_cases gone : deletes db cleanup t
    · exact .inr (.inl (if_pos gone))
    · have version : i.version = (target db input).version + 1 :=
        congrArg Incident.version (frame_of_apply moved.applied)
      exact .inr (.inr ⟨touches, i, if_neg gone, version.trans (by rw [target_version])⟩)
  · exact .inl (if_neg here)

theorem WellFormed.resolvedByHand (wf : WellFormed db) (chosen : Incident → Bool) (nowMs : Int)
    (deliveries : Ledger) : WellFormed { db with
      deliveries
      incidents := updateWhere chosen (resolvedByHand nowMs) db.incidents } := by
  have key : ∀ r, (IncidentStore.resolvedByHand nowMs r).conditionKey = r.conditionKey :=
    fun _ => rfl
  refine ⟨wf.keyed.updateWhere key, ?_, ?_, ?_⟩
  all_goals
    intro x mem
    obtain ⟨r', mem', rfl⟩ := mem_updateWhere.mp mem
    split
  · exact wf.named r' mem'
  · exact wf.named r' mem'
  · exact Nat.succ_ne_zero _
  · exact wf.written r' mem'
  · exact wf.references r' mem'
  · exact wf.references r' mem'

theorem Advances.resolvedByHand (wf : WellFormed db) (chosen : Incident → Bool) (nowMs : Int)
    (deliveries : Ledger)
    (touches : ∀ i ∈ db.incidents, chosen i → touched i.conditionKey) :
    Advances db { db with
      deliveries
      incidents := updateWhere chosen (IncidentStore.resolvedByHand nowMs) db.incidents }
      touched := by
  have key : ∀ r, (IncidentStore.resolvedByHand nowMs r).conditionKey = r.conditionKey :=
    fun _ => rfl
  refine ⟨fun k => ?_, wf.resolvedByHand chosen nowMs deliveries⟩
  have moved : lookup (·.conditionKey)
      (updateWhere chosen (IncidentStore.resolvedByHand nowMs) db.incidents) k = _ :=
    lookup_updateWhere key
  cases found : Alerting.incident db k with
  | none => exact .inl (moved.trans (congrArg (Option.map _) found))
  | some r =>
    obtain ⟨mem, rfl⟩ := lookup_some found
    have is := moved.trans (congrArg (Option.map _) found)
    rw [Option.map_some] at is
    by_cases hit : chosen r
    · rw [if_pos hit] at is
      refine .inr (.inr ⟨touches r mem hit, _, is, ?_⟩)
      rw [storedVersion_of_some found]
      rfl
    · rw [if_neg hit] at is
      exact .inl is

/-- A write that succeeds has found a row with the version of its snapshot. -/
theorem write_ok {policies : List AlertPolicy} {settings : AlertingSettings} {nowMs : Int}
    {i : Incident} {n : Nat} (wf : WellFormed db)
    (h : write e policies settings nowMs db i = .ok (n, db')) :
    ∃ r ∈ db.incidents, r.id = i.id ∧ r.version = i.version ∧
      Advances db db' (· = r.conditionKey) := by
  unfold write at h
  cases stored : IncidentStore.updateSnapshotCas db (next e policies nowMs i) i.version with
  | error => rw [stored] at h; exact (nomatch h)
  | ok db₁ =>
    rw [stored] at h
    obtain ⟨r, mem, name, version, -, done⟩ :=
      updateSnapshotCas_ok wf (Nat.succ_ne_zero _ : (next e policies nowMs i).version ≠ 0) stored
    have incidents : db'.incidents = db₁.incidents ∧ WellFormed db' := by
      obtain ⟨-, rfl⟩ := Prod.mk.inj (Except.ok.inj h)
      split
      · exact ⟨rfl, done.wf⟩
      · exact ⟨rfl, done.wf.congr rfl rfl rfl rfl⟩
    refine ⟨r, mem, name.trans (next_id ..), version, fun k => ?_, incidents.2⟩
    rw [Alerting.incident, incidents.1, ← Alerting.incident, done.incident k]
    by_cases here : k = r.conditionKey
    · subst here
      have found : Alerting.incident db r.conditionKey = some r := wf.keyed.lookup mem
      refine .inr (.inr ⟨rfl, _, if_pos rfl, ?_⟩)
      rw [storedVersion_of_some found, version]
      rfl
    · exact .inl (if_neg here)

end Advancing

/-! ### The fence -/

/-- The incidents that a step may write. -/
def writes (env : AlertingEnv) (σ : SharedTables) : SharedStep → ConditionKey → Prop
  | .record input, k => k = input.conditionKey ∧ input.kind ≠ .change ∧
      ∃ db', AlertingIngress.record env σ.db input = .ok (true, db')
  | .resolveAllActive stationId severity _, k =>
    ∃ i ∈ σ.db.incidents, resolvable stationId severity i ∧ i.conditionKey = k
  | .write n, k => ∃ p i, σ.passes[n]? = some p ∧ p.snapshots.head? = some i ∧
      i.conditionKey = k ∧ storedVersion σ.db k = i.version
  | _, _ => False

/-- No step brings an incident to the version of a snapshot that a pass in flight holds. -/
def Fenced (env : AlertingEnv) (σ : SharedTables) (step : SharedStep) : Prop :=
  ∀ p ∈ σ.passes, ∀ i ∈ p.snapshots, writes env σ step i.conditionKey →
    storedVersion σ.db i.conditionKey + 1 ≠ i.version

/-- A row with the version of a held snapshot is that snapshot. -/
structure Guarded (σ : SharedTables) : Prop where
  wf : WellFormed σ.db
  held : ∀ p ∈ σ.passes, ∀ i ∈ p.snapshots,
    i.id = ObservationIngress.incidentId i.conditionKey ∧
      ∀ r, incident σ.db i.conditionKey = some r → r.version = i.version → r = i

/-- A write that succeeds now starts from the row as it stands. -/
def WritesFromRow (env : AlertingEnv) (σ : SharedTables) : Prop :=
  ∀ p ∈ σ.passes, ∀ i, p.snapshots.head? = some i → ∀ n db',
    write env.toEncodings p.policies p.settings p.nowMs σ.db i = .ok (n, db') →
      incident σ.db i.conditionKey = some i

section Fence
variable {env : AlertingEnv} {σ : SharedTables}

theorem Guarded.writesFromRow (guarded : Guarded σ) : WritesFromRow env σ := by
  intro p mem i first n db' done
  obtain ⟨name, same⟩ := guarded.held p mem i (List.mem_of_mem_head? first)
  obtain ⟨r, memr, id, version, -⟩ := write_ok guarded.wf done
  have key : r.conditionKey = i.conditionKey := (guarded.wf.id_iff memr).mp (id.trans name)
  have found : incident σ.db i.conditionKey = some r := key ▸ guarded.wf.keyed.lookup memr
  rw [found, same r found version]

theorem advances_record (wf : WellFormed σ.db) (input : ObservationIngress) :
    Advances σ.db (recordStep env σ.db input) (writes env σ (.record input)) := by
  cases recorded : AlertingIngress.record env σ.db input with
  | error e =>
    rw [recordStep, recorded]
    exact .refl wf
  | ok result =>
    obtain ⟨inserted, db'⟩ := result
    rw [recordStep, recorded]
    obtain ⟨-, ⟨-, rfl⟩ | ⟨-, -, same⟩ | ⟨new, condition, t, i, moved⟩⟩ := record_ok wf recorded
    · exact .refl wf
    · rw [same]
      exact .of_incidents (wf.congr rfl rfl rfl rfl) rfl
    · exact moved.advances ⟨rfl, condition, db', new ▸ recorded⟩

/-- The turn of a snapshot leaves the tables as they are, or it is a write that succeeds. -/
theorem ReconcilePass.advance_cases (p : ReconcilePass) (e : Encodings) (db : AlertingDb) :
    (∀ p' ∈ (p.advance e db).2, p'.snapshots ⊆ p.snapshots) ∧
      ((p.advance e db).1 = db ∨ ∃ i n, p.snapshots.head? = some i ∧
        write e p.policies p.settings p.nowMs db i = .ok (n, (p.advance e db).1)) := by
  unfold ReconcilePass.advance
  cases p.snapshots with
  | nil => exact ⟨by simp, .inl rfl⟩
  | cons i rest =>
    dsimp only
    split
    · exact ⟨by simp, .inl rfl⟩
    · cases done : write e p.policies p.settings p.nowMs db i with
      | error => exact ⟨by simp, .inl rfl⟩
      | ok result => exact ⟨by simp, .inr ⟨i, result.1, rfl, done⟩⟩

theorem Guarded.advances (guarded : Guarded σ) (step : SharedStep) :
    Advances σ.db (sharedStep env σ step).db (writes env σ step) := by
  have wf := guarded.wf
  cases step with
  | record input => exact advances_record wf input
  | resolveAllActive stationId severity nowMs =>
    simp only [sharedStep, IncidentStore.resolveAllActive]
    by_cases early : nowMs < 0
    · rw [if_pos early]
      exact .refl wf
    · rw [if_neg early]
      exact .resolvedByHand wf _ nowMs _ fun i mem chosen => ⟨i, mem, chosen, rfl⟩
  | clear unread stationId severity lifecycleState => exact .deleteIncidents wf _
  | deleteResolved limit => exact .deleteIncidents wf _
  | edit edit =>
    rcases edit.step_cases σ.db with same | edited
    · rw [sharedStep, same]
      exact .refl wf
    · exact .of_incidents (edited.wellFormed wf) (by rw [sharedStep, edited.rest])
  | updateSettings settings => exact .of_incidents (wf.congr rfl rfl rfl rfl) rfl
  | read policies settings cursor nowMs =>
    simp only [sharedStep]
    split
    · exact .refl wf
    · exact .refl wf
  | write n =>
    simp only [sharedStep]
    cases there : σ.passes[n]? with
    | none => exact .refl wf
    | some p =>
      obtain ⟨-, same | ⟨i, m, first, done⟩⟩ := p.advance_cases env.toEncodings σ.db
      · show Advances σ.db (p.advance env.toEncodings σ.db).1 _
        rw [same]
        exact .refl wf
      · obtain ⟨r, mem, id, version, incident, wf'⟩ := write_ok wf done
        obtain ⟨name, -⟩ := guarded.held p (List.mem_of_getElem? there) i
          (List.mem_of_mem_head? first)
        have key : i.conditionKey = r.conditionKey :=
          ((wf.id_iff mem).mp (id.trans name)).symm
        refine ⟨fun k => (incident k).imp_right fun h => h.imp_right fun ⟨is, next⟩ => ?_, wf'⟩
        refine ⟨⟨p, i, there, first, key.trans is.symm, ?_⟩, next⟩
        rw [is, storedVersion_of_some (wf.keyed.lookup mem), version]

/-- The snapshots that are held after a step were held before, or are rows that a pass has just
read. -/
theorem held_sharedStep (wf : WellFormed σ.db) (step : SharedStep) {p' : ReconcilePass}
    (memp : p' ∈ (sharedStep env σ step).passes) {i : Incident} (mem : i ∈ p'.snapshots) :
    (∃ p ∈ σ.passes, i ∈ p.snapshots) ∨
      (incident σ.db i.conditionKey = some i ∧ (sharedStep env σ step).db = σ.db) := by
  have old (h : p' ∈ σ.passes) : ∃ p ∈ σ.passes, i ∈ p.snapshots := ⟨p', h, mem⟩
  cases step with
  | record input => exact .inl (old memp)
  | resolveAllActive stationId severity nowMs =>
    simp only [sharedStep] at memp
    split at memp <;> exact .inl (old memp)
  | clear unread stationId severity lifecycleState => exact .inl (old memp)
  | deleteResolved limit => exact .inl (old memp)
  | edit edit => exact .inl (old memp)
  | updateSettings settings => exact .inl (old memp)
  | read policies settings cursor nowMs =>
    simp only [sharedStep] at memp ⊢
    split at memp
    · exact .inl (old memp)
    · rename_i time
      rcases List.mem_append.mp memp with before | new
      · exact .inl (old before)
      · obtain rfl := List.mem_singleton.mp new
        have current := ((listActivePage_current wf cursor pageSize).1 i mem).1
        exact .inr ⟨wf.keyed.lookup current, by rw [if_neg time]⟩
  | write n =>
    simp only [sharedStep] at memp
    cases there : σ.passes[n]? with
    | none =>
      rw [there] at memp
      exact .inl (old memp)
    | some p =>
      rw [there] at memp
      rcases List.mem_append.mp memp with memp | after
      · rcases List.mem_append.mp memp with before | now
        · exact .inl (old (List.mem_of_mem_take before))
        · obtain ⟨sub, -⟩ := p.advance_cases env.toEncodings σ.db
          exact .inl ⟨p, List.mem_of_getElem? there, sub p' (Option.mem_toList.mp now) mem⟩
      · exact .inl (old (List.mem_of_mem_drop after))

/-- What is written under the fence has another version than the snapshots that are held. -/
theorem Guarded.sharedStep (guarded : Guarded σ) {step : SharedStep}
    (fenced : Fenced env σ step) : Guarded (sharedStep env σ step) := by
  have advances : Advances σ.db (Alerting.sharedStep env σ step).db (writes env σ step) :=
    guarded.advances step
  refine ⟨advances.wf, fun p' mem' i mem => ?_⟩
  rcases held_sharedStep guarded.wf step mem' mem with ⟨p, memp, memi⟩ | ⟨found, same⟩
  · obtain ⟨name, unique⟩ := guarded.held p memp i memi
    refine ⟨name, fun r found version => ?_⟩
    rcases advances.incident i.conditionKey with same | gone | ⟨touched, r', found', next⟩
    · exact unique r (same ▸ found) version
    · exact (nomatch gone.symm.trans found)
    · obtain rfl := Option.some.inj (found'.symm.trans found)
      exact absurd (next.symm.trans version) (fenced p memp i memi touched)
  · rw [same]
    refine ⟨guarded.wf.named i (lookup_some found).1, fun r there _ => ?_⟩
    exact Option.some.inj (there.symm.trans found)

end Fence

/-- In a run that keeps to the fence, every write that succeeds starts from the row as it
stands. -/
theorem writes_start_from_row (env : AlertingEnv) (policies : List AlertPolicy)
    (settings : AlertingSettings) (stations stationKeys : List String) (steps : List SharedStep)
    (fenced : Along (sharedStep env) (Fenced env)
      ⟨.start policies settings stations stationKeys, []⟩ steps) :
    WritesFromRow env
      (run (sharedStep env) ⟨.start policies settings stations stationKeys, []⟩ steps) := by
  have initial : Guarded ⟨.start policies settings stations stationKeys, []⟩ :=
    ⟨.start .., List.forall_mem_nil _⟩
  have preserved : ∀ (σ : SharedTables) (step : SharedStep), Fenced env σ step → Guarded σ →
      Guarded (sharedStep env σ step) := fun _ _ fenced guarded => guarded.sharedStep fenced
  exact (run_invariant_along preserved initial fenced).writesFromRow

/-- An observation comes between the read of a pass and its write. -/
theorem writes_start_from_row_observed :
    WritesFromRow sampleEnv (run (sharedStep sampleEnv) ⟨.start [samplePolicy] .default [] [], []⟩
      [.record (sampleObservation "observation-1" .abnormal 1000),
        .read [samplePolicy] .default none 1060,
        .record (sampleObservation "observation-2" .abnormal 1100)]) := by
  refine writes_start_from_row sampleEnv [samplePolicy] .default [] [] _
    ⟨List.forall_mem_nil _, List.forall_mem_nil _, ?_, trivial⟩
  have older : ∀ p ∈ (run (sharedStep sampleEnv) ⟨.start [samplePolicy] .default [] [], []⟩
      [.record (sampleObservation "observation-1" .abnormal 1000),
        .read [samplePolicy] .default none 1060]).passes, ∀ i ∈ p.snapshots,
      storedVersion (run (sharedStep sampleEnv) ⟨.start [samplePolicy] .default [] [], []⟩
        [.record (sampleObservation "observation-1" .abnormal 1000),
          .read [samplePolicy] .default none 1060]).db i.conditionKey + 1 ≠ i.version := by
    decide +kernel
  exact fun p mem i held _ => older p mem i held

/-- The incident of the third observation is overwritten with that of the first, which was
deleted when it had recovered. -/
theorem recreated_incident_overwritten :
    let σ := run (sharedStep sampleEnv) ⟨.start [samplePolicy] .default [] [], []⟩
      [.record (sampleObservation "observation-1" .abnormal 1000),
        .read [samplePolicy] .default none 1060,
        .record (sampleObservation "observation-2" .healthy 1100),
        .record (sampleObservation "observation-3" .abnormal 1200)]
    (incident σ.db sampleKey).map (fun i => (i.version, i.lastSeenAtMs, i.lastObservationId)) =
        some (1, 1200, some "observation-3") ∧
      (incident (sharedStep sampleEnv σ (.write 0)).db sampleKey).map
        (fun i => (i.version, i.lastSeenAtMs, i.lastObservationId)) =
          some (2, 1000, some "observation-1") := by
  decide +kernel

end RelayPool.Alerting
