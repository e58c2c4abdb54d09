import RelayPool.Alerting.Ingress

/-! What recording an observation does to the tables.

An observation moves the incident of its condition and no other (`Recorded.incident`).
Applying it changes the lifecycle of the incident; everything else that it leaves is in
the frame, which the state machine does not look at. -/
namespace RelayPool.Alerting
open Table Fallible
open Circuit (PersistenceError)

/-! ### The frame of an incident -/

namespace Incident

/-- The incident without its lifecycle. -/
def frame (i : Incident) : Incident :=
  { i with
    lifecycleState := .pending
    episodeNumber := 0
    openedAtMs := none
    recoveringAtMs := none
    resolvedAtMs := none
    occurrenceCount := 0
    episodeOccurrenceCount := 0
    consecutiveAbnormalCount := 0
    consecutiveHealthyCount := 0
    pendingSinceMs := none
    healthySinceMs := none
    nextStateEvaluationAtMs := none }

/-- A field outside the lifecycle is one of the frame. -/
theorem field_of_frame {β : Type} {i j : Incident} (h : i.frame = j) (f : Incident → β)
    (same : ∀ i : Incident, f i.frame = f i) : f i = f j := by
  rw [← same, h]

variable (i : Incident) (o : IncidentObservation) (p : AlertPolicy)

theorem frame_maybeOpen (at_ : Int) : (i.maybeOpen at_ p).2.frame = i.frame := by
  unfold maybeOpen
  split <;> rfl

theorem frame_continueRecovery (waiting : StateTransition) (at_ : Int) :
    (i.continueRecovery waiting at_ p).2.frame = i.frame := by
  unfold continueRecovery
  split <;> rfl

theorem frame_observeAbnormal : (i.observeAbnormal o p).2.frame = i.frame := by
  unfold observeAbnormal
  split
  · exact frame_maybeOpen ..
  · rfl
  · rfl
  · exact frame_maybeOpen ..

theorem frame_observeHealthy : (i.observeHealthy o p).2.frame = i.frame := by
  unfold observeHealthy
  split
  · rfl
  · exact frame_continueRecovery ..
  · exact frame_continueRecovery ..
  · rfl

end Incident

theorem apply_ok_iff {i i' : Incident} {o : IncidentObservation} {p : AlertPolicy}
    {t : StateTransition} : IncidentProjector.apply i o p = .ok (t, i') ↔
      o.observedAtMs ≤ o.factFreshUntilMs ∧ i.lastSeenAtMs ≤ o.observedAtMs ∧
        (match o.kind with
          | .abnormal => (i.note o).observeAbnormal o p
          | .healthy => (i.note o).observeHealthy o p
          | .change => (.none, i.note o)) = (t, i') := by
  unfold IncidentProjector.apply
  rw [ite_ok, ite_ok, not_lt, not_lt]
  simp only [reduceCtorEq, and_false, false_or]
  refine and_congr_right fun fresh => and_congr_right fun ordered => ?_
  have applied : i.applyObservation o p =
      match o.kind with
      | .abnormal => (i.note o).observeAbnormal o p
      | .healthy => (i.note o).observeHealthy o p
      | .change => (.none, i.note o) := if_neg (by omega)
  rw [Except.ok.injEq, applied]

theorem frame_of_apply {i i' : Incident} {o : IncidentObservation} {p : AlertPolicy}
    {t : StateTransition} (h : IncidentProjector.apply i o p = .ok (t, i')) :
    i'.frame = (i.note o).frame := by
  obtain ⟨-, -, moved⟩ := apply_ok_iff.mp h
  cases kind : o.kind with
  | abnormal =>
    rw [kind] at moved
    exact (congrArg (·.2.frame) moved).symm.trans (Incident.frame_observeAbnormal ..)
  | healthy =>
    rw [kind] at moved
    exact (congrArg (·.2.frame) moved).symm.trans (Incident.frame_observeHealthy ..)
  | change =>
    rw [kind] at moved
    exact (congrArg (·.2.frame) moved).symm

/-! ### Well-formed tables -/

theorem incidentId_inj {k k' : ConditionKey}
    (h : ObservationIngress.incidentId k = ObservationIngress.incidentId k') : k = k' := by
  refine ConditionKey.ext (String.toList_inj.mp ?_)
  have lists := congrArg String.toList h
  unfold ObservationIngress.incidentId at lists
  rw [String.toList_append, String.toList_append] at lists
  exact List.append_cancel_left lists

/-- Each condition has one incident, named after it, that refers to rows that are there. -/
structure WellFormed (db : AlertingDb) : Prop where
  keyed : Keyed Incident.conditionKey db.incidents
  named : ∀ i ∈ db.incidents, i.id = ObservationIngress.incidentId i.conditionKey
  written : ∀ i ∈ db.incidents, i.version ≠ 0
  references : ∀ i ∈ db.incidents, db.references i.stationId i.stationKeyId i.policyId

theorem WellFormed.start (policies : List AlertPolicy) (settings : AlertingSettings)
    (stations stationKeys : List String) : WellFormed (.start policies settings stations stationKeys) where
  keyed := List.nodup_nil
  named := List.forall_mem_nil _
  written := List.forall_mem_nil _
  references := List.forall_mem_nil _

abbrev incident (db : AlertingDb) (k : ConditionKey) : Option Incident :=
  lookup (·.conditionKey) db.incidents k

section Tables
variable {db : AlertingDb} {i r : Incident} {k : ConditionKey}

theorem WellFormed.ids (wf : WellFormed db) : Keyed Incident.id db.incidents := by
  have ids : db.incidents.map Incident.id =
      (db.incidents.map Incident.conditionKey).map ObservationIngress.incidentId := by
    rw [List.map_map]
    exact List.map_congr_left wf.named
  rw [Keyed, ids]
  exact wf.keyed.map fun _ _ => incidentId_inj

theorem WellFormed.id_iff (wf : WellFormed db) (mem : r ∈ db.incidents) :
    r.id = ObservationIngress.incidentId k ↔ r.conditionKey = k := by
  rw [wf.named r mem]
  exact ⟨incidentId_inj, congrArg _⟩

theorem WellFormed.lookup_id (wf : WellFormed db) (mem : r ∈ db.incidents) :
    lookup (·.id) db.incidents r.id = some r := wf.ids.lookup mem

theorem named_of_incident (wf : WellFormed db) (found : incident db k = some r) :
    r ∈ db.incidents ∧ r.conditionKey = k ∧ r.id = ObservationIngress.incidentId k := by
  obtain ⟨mem, rfl⟩ := lookup_some found
  exact ⟨mem, rfl, wf.named r mem⟩

/-- Other tables do not matter. -/
theorem WellFormed.congr {db' : AlertingDb} (wf : WellFormed db)
    (incidents : db'.incidents = db.incidents) (stations : db'.stations = db.stations)
    (stationKeys : db'.stationKeys = db.stationKeys) (policies : db'.policies = db.policies) :
    WellFormed db' where
  keyed := incidents ▸ wf.keyed
  named := incidents ▸ wf.named
  written := incidents ▸ wf.written
  references i mem := by
    have refers := wf.references i (incidents ▸ mem)
    unfold AlertingDb.references at refers ⊢
    rwa [stations, stationKeys, policies]

/-! ### Storing an incident -/

/-- The row of the incident is written, and no other. -/
structure Stored (db db' : AlertingDb) (i : Incident) : Prop where
  incident k : incident db' k = if k = i.conditionKey then some i else incident db k
  rest : db' = { db with incidents := db'.incidents }
  wf : WellFormed db'

theorem insertSnapshot_ok {db' : AlertingDb} (wf : WellFormed db)
    (named : i.id = ObservationIngress.incidentId i.conditionKey) (version : i.version ≠ 0)
    (h : IncidentStore.insertSnapshot db i = .ok db') : Stored db db' i := by
  unfold IncidentStore.insertSnapshot at h
  split_ifs at h with clash refers
  cases h
  have refers : db.references i.stationId i.stationKeyId i.policyId := by simpa using refers
  have fresh : Alerting.incident db i.conditionKey = none := lookup_none.mpr fun r mem same =>
    clash (List.any_eq_true.mpr ⟨r, mem, decide_eq_true (.inr same)⟩)
  refine ⟨fun k => ?_, rfl, wf.keyed.concat fresh, ?_, ?_, ?_⟩
  · exact (lookup_concat fresh).trans (if_congr eq_comm rfl rfl)
  · exact List.forall_mem_append.mpr ⟨wf.named, List.forall_mem_singleton.mpr named⟩
  · exact List.forall_mem_append.mpr ⟨wf.written, List.forall_mem_singleton.mpr version⟩
  · exact List.forall_mem_append.mpr ⟨wf.references, List.forall_mem_singleton.mpr refers⟩

/-- A write that succeeds has found its row with the expected version. -/
theorem updateSnapshotCas_ok {db' : AlertingDb} {version : Nat} (wf : WellFormed db)
    (written : i.version ≠ 0) (h : IncidentStore.updateSnapshotCas db i version = .ok db') :
    ∃ r ∈ db.incidents, r.id = i.id ∧ r.version = version ∧
      db.references i.stationId i.stationKeyId i.policyId ∧
      Stored db db' (IncidentStore.written i r) := by
  unfold IncidentStore.updateSnapshotCas at h
  split_ifs at h with stale refers
  cases h
  obtain ⟨r, found, same⟩ := (wf.ids.affected (·.version = version)).mp
    (by simpa using not_not.mp stale)
  obtain ⟨mem, name⟩ := lookup_some found
  have refers : db.references i.stationId i.stationKeyId i.policyId := by simpa using refers
  have key : ∀ r, (IncidentStore.written i r).conditionKey = r.conditionKey := fun _ => rfl
  refine ⟨r, mem, name, of_decide_eq_true same, refers, fun k => ?_, rfl,
    wf.keyed.updateWhere key, ?_, ?_, ?_⟩
  · refine (lookup_updateWhere key).trans ?_
    show _ = if k = r.conditionKey then some (IncidentStore.written i r) else Alerting.incident db k
    cases there : lookup (·.conditionKey) db.incidents k with
    | none =>
      rw [if_neg fun same => lookup_none.mp there r mem same.symm]
      exact there.symm
    | some r' =>
      obtain ⟨mem', rfl⟩ := lookup_some there
      by_cases one : r'.conditionKey = r.conditionKey
      · obtain rfl := wf.keyed.inj mem' mem one
        rw [if_pos rfl]
        simp [name, of_decide_eq_true same]
      · have other : ¬ (r'.id = i.id ∧ r'.version = version) := fun both =>
          one ((wf.id_iff mem').mp (both.1.trans (name.symm.trans (wf.named r mem))))
        rw [if_neg one]
        simpa [other] using there.symm
  all_goals
    intro x mem
    obtain ⟨r', mem', rfl⟩ := mem_updateWhere.mp mem
    split
  · exact wf.named r' mem'
  · exact wf.named r' mem'
  · exact written
  · exact wf.written r' mem'
  · exact refers
  · exact wf.references r' mem'

/-! ### Deleting incidents -/

theorem incident_deleteIncidents (wf : WellFormed db) (gone : Incident → Bool) (k : ConditionKey) :
    incident (IncidentStore.deleteIncidents db gone) k = (incident db k).filter (! gone ·) :=
  wf.keyed.lookup_filter (! gone ·)

theorem WellFormed.deleteIncidents (wf : WellFormed db) (gone : Incident → Bool) :
    WellFormed (IncidentStore.deleteIncidents db gone) where
  keyed := wf.keyed.filter _
  named i mem := wf.named i (List.mem_filter.mp mem).1
  written i mem := wf.written i (List.mem_filter.mp mem).1
  references i mem := wf.references i (List.mem_filter.mp mem).1

/-! ### Scheduling the deliveries of a transition -/

/-- The rows that scheduling adds, each one planned and new under its key. -/
structure Scheduled (nowMs : Int) (plan : List PlannedDelivery) (before after : Ledger) : Prop where
  added : ∃ rows, after = before ++ rows ∧ ∀ d ∈ rows, ∃ planned ∈ plan, ∃ row,
    AlertingIngress.plannedRow planned nowMs = .ok row ∧ d = row.inserted
  /-- Every planned delivery has a row under its key. -/
  present : ∀ planned ∈ plan, ∃ d ∈ after, d.deliveryKey = planned.delivery.deliveryKey
  /-- No two rows have the same key if that was so before. -/
  keyed : Keyed NotificationDelivery.deliveryKey before →
    Keyed NotificationDelivery.deliveryKey after

theorem plannedRow_key {planned : PlannedDelivery} {nowMs : Int} {d : NotificationDelivery}
    (h : AlertingIngress.plannedRow planned nowMs = .ok d) :
    d.deliveryKey = planned.delivery.deliveryKey := by
  unfold AlertingIngress.plannedRow at h
  split at h
  · cases h
    rfl
  · unfold NotificationDelivery.suppress at h
    split_ifs at h
    · exact (nomatch h)
    · cases h
      rfl

theorem scheduleDelivery_ok {db' : AlertingDb} {d : NotificationDelivery} {inserted : Bool}
    (h : scheduleDelivery db d = .ok (inserted, db')) :
    db' = { db with deliveries := db'.deliveries } ∧
      ((db'.deliveries = db.deliveries ∧ ∃ d' ∈ db.deliveries, d'.deliveryKey = d.deliveryKey) ∨
        (db'.deliveries = db.deliveries ++ [d.inserted] ∧
          ∀ d' ∈ db.deliveries, d'.deliveryKey ≠ d.deliveryKey)) := by
  unfold scheduleDelivery DeliveryStore.schedule at h
  by_cases known : db.deliveries.any (·.deliveryKey = d.deliveryKey)
  · rw [if_pos known] at h
    cases h
    obtain ⟨d', mem, same⟩ := List.any_eq_true.mp known
    exact ⟨rfl, .inl ⟨rfl, d', mem, of_decide_eq_true same⟩⟩
  · rw [if_neg known] at h
    have fresh : ∀ d' ∈ db.deliveries, d'.deliveryKey ≠ d.deliveryKey := fun d' mem same =>
      known (List.any_eq_true.mpr ⟨d', mem, decide_eq_true same⟩)
    split at h
    · exact (nomatch h)
    · rename_i done
      split_ifs at done
      cases done
      split_ifs at h
      cases h
      exact ⟨rfl, .inr ⟨rfl, fresh⟩⟩

theorem scheduleAll_ok {db' : AlertingDb} {nowMs : Int} {plan : List PlannedDelivery}
    (h : AlertingIngress.scheduleAll db nowMs plan = .ok db') :
    db' = { db with deliveries := db'.deliveries } ∧
      Scheduled nowMs plan db.deliveries db'.deliveries := by
  induction plan generalizing db with
  | nil =>
    cases h
    exact ⟨rfl, ⟨[], (List.append_nil _).symm, List.forall_mem_nil _⟩, List.forall_mem_nil _, id⟩
  | cons planned rest ih =>
    obtain ⟨row, made, h⟩ := bind_ok.mp h
    obtain ⟨⟨inserted, db₁⟩, first, h⟩ := bind_ok.mp h
    obtain ⟨is, ⟨rows, added, planned_⟩, present, keyed⟩ := ih h
    obtain ⟨is₁, first⟩ := scheduleDelivery_ok first
    have key := plannedRow_key made
    refine ⟨by rw [is, is₁], ?_⟩
    rcases first with ⟨same, d, mem, known⟩ | ⟨grown, fresh⟩
    · rw [same] at added keyed
      refine ⟨⟨rows, added, fun d mem => ?_⟩, List.forall_mem_cons.mpr ⟨?_, present⟩, keyed⟩
      · obtain ⟨p, mem, is⟩ := planned_ d mem
        exact ⟨p, List.mem_cons_of_mem _ mem, is⟩
      · exact ⟨d, added ▸ List.mem_append_left rows mem, known.trans key⟩
    · rw [grown] at added keyed
      rw [List.append_assoc] at added
      refine ⟨⟨_, added, fun d mem => ?_⟩, List.forall_mem_cons.mpr ⟨?_, present⟩, fun k => keyed ?_⟩
      · rcases List.mem_append.mp mem with new | later
        · exact ⟨planned, List.mem_cons_self .., row, made, List.mem_singleton.mp new⟩
        · obtain ⟨p, mem, is⟩ := planned_ d later
          exact ⟨p, List.mem_cons_of_mem _ mem, is⟩
      · refine ⟨row.inserted, ?_, key⟩
        rw [added]
        exact List.mem_append_right _ (List.mem_append_left _ (List.mem_singleton_self _))
      · exact k.concat (lookup_none.mpr fresh)

end Tables

/-! ### Recording an observation -/

section Recording
open AlertingIngress
variable {env : AlertingEnv} {db db' : AlertingDb} {input : ObservationIngress} {cleanup : Bool}
  {t : StateTransition} {i : Incident}

/-- The policy of an observation. -/
abbrev policyOf (db : AlertingDb) (input : ObservationIngress) : AlertPolicy :=
  resolvePolicy db.policies input.context

/-- The incident that the observation is applied to. -/
abbrev target (db : AlertingDb) (input : ObservationIngress) : Incident :=
  prepared (loaded db input (policyOf db input)) input (policyOf db input)

/-- The settings have the incident deleted as soon as it is resolved. -/
abbrev deletes (db : AlertingDb) (cleanup : Bool) (t : StateTransition) : Prop :=
  cleanup ∧ t = .resolved ∧ db.settings.deleteResolvedIncidents

/-- What an observation that entered the state machine did. -/
structure Projected (env : AlertingEnv) (db : AlertingDb) (input : ObservationIngress)
    (cleanup : Bool) (t : StateTransition) (i : Incident) (db' : AlertingDb) : Prop where
  applied : IncidentProjector.apply (target db input) input.observation (policyOf db input) =
    .ok (t, i)
  incident k : incident db' k =
    if k = input.conditionKey then (if deletes db cleanup t then none else some i)
    else incident db k
  wf : WellFormed db'
  same : db' = { db with
    occurrences := db'.occurrences, incidents := db'.incidents, deliveries := db'.deliveries }
  deliveries : ∃ ledger, db'.deliveries =
      (if deletes db cleanup t then ledger.filter (·.incidentId ≠ i.id) else ledger) ∧
    if announces t i then
      Scheduled input.observedAtMs (DeliveryPlanner.planTransition env.toEncodings t i
        (policyOf db input) db.settings none input.observedAtMs) db.deliveries ledger
    else ledger = db.deliveries

theorem loaded_of_some {r : Incident} {p : AlertPolicy}
    (found : incident db input.conditionKey = some r) : loaded db input p = r :=
  congrArg (Option.getD · _) found

theorem loaded_of_none {p : AlertPolicy} (absent : incident db input.conditionKey = none) :
    loaded db input p = .new (ObservationIngress.incidentId input.conditionKey) input.conditionKey
      input.eventType input.severity input.observedAtMs (fingerprint p) :=
  congrArg (Option.getD · _) absent

theorem target_conditionKey (wf : WellFormed db) :
    (target db input).conditionKey = input.conditionKey ∧
      (target db input).id = ObservationIngress.incidentId input.conditionKey := by
  show (loaded db input (policyOf db input)).conditionKey = _ ∧
    (loaded db input (policyOf db input)).id = _
  cases found : Alerting.incident db input.conditionKey with
  | none =>
    rw [loaded_of_none found]
    exact ⟨rfl, rfl⟩
  | some r =>
    rw [loaded_of_some found]
    exact (named_of_incident wf found).2

theorem written_self {i r : Incident} (id : i.id = r.id) (key : i.conditionKey = r.conditionKey)
    (event : i.eventType = r.eventType) (severity : i.baseSeverity = r.baseSeverity)
    (created : i.createdAtMs = r.createdAtMs) : IncidentStore.written i r = i := by
  rw [IncidentStore.written, ← id, ← key, ← event, ← severity, ← created]

theorem observed_ok (h : observed db input (policyOf db input) = .ok (t, i)) :
    IncidentProjector.apply (target db input) input.observation (policyOf db input) =
      .ok (t, i) := by
  unfold observed at h
  split at h
  · exact (nomatch h)
  · rename_i t' i' applied
    have version : i'.version = (loaded db input (policyOf db input)).version + 1 :=
      congrArg Incident.version (frame_of_apply applied)
    obtain ⟨rfl, rfl⟩ := Prod.mk.inj (Except.ok.inj h)
    rw [applied]
    split_ifs with first
    · rw [first.1] at version
      cases i'
      cases version
      rfl
    · rfl

theorem storeIncident_ok (wf : WellFormed db)
    (applied : IncidentProjector.apply (target db input) input.observation (policyOf db input) =
      .ok (t, i))
    (h : storeIncident db i (loaded db input (policyOf db input)).version = .ok db') :
    Stored db db' i := by
  have frame := frame_of_apply applied
  obtain ⟨targetKey, targetName⟩ :=
    (target_conditionKey wf : (target db input).conditionKey = input.conditionKey ∧ _)
  have key : i.conditionKey = input.conditionKey :=
    (congrArg Incident.conditionKey frame).trans targetKey
  have name : i.id = ObservationIngress.incidentId input.conditionKey :=
    (congrArg Incident.id frame).trans targetName
  have version : i.version ≠ 0 := (congrArg Incident.version frame).trans_ne (Nat.succ_ne_zero _)
  unfold storeIncident at h
  split_ifs at h
  · exact insertSnapshot_ok wf (name.trans (congrArg _ key.symm)) version h
  · rename_i stored
    obtain ⟨r, mem, same, -, -, done⟩ := updateSnapshotCas_ok wf version h
    have found : Alerting.incident db input.conditionKey = some r := by
      have isKey : r.conditionKey = input.conditionKey := (wf.id_iff mem).mp (same.trans name)
      exact isKey ▸ wf.keyed.lookup mem
    -- the row that is written over is the one that was loaded
    have isLoaded : loaded db input (policyOf db input) = r := loaded_of_some found
    have event : i.eventType = r.eventType :=
      (congrArg Incident.eventType frame).trans (isLoaded ▸ rfl)
    have severity : i.baseSeverity = r.baseSeverity :=
      (congrArg Incident.baseSeverity frame).trans (isLoaded ▸ rfl)
    have created : i.createdAtMs = r.createdAtMs :=
      (congrArg Incident.createdAtMs frame).trans (isLoaded ▸ rfl)
    have isKey : r.conditionKey = input.conditionKey := (wf.id_iff mem).mp (same.trans name)
    rwa [written_self same.symm (key.trans isKey.symm) event severity created] at done

theorem cleanUp_ok (wf : WellFormed db) (mem : i ∈ db.incidents)
    (h : cleanUp db cleanup t i = .ok db') : WellFormed db' ∧
      (∀ k, incident db' k =
        if k = i.conditionKey ∧ deletes db cleanup t then none else incident db k) ∧
      db'.deliveries = (if deletes db cleanup t then
        db.deliveries.filter (·.incidentId ≠ i.id) else db.deliveries) ∧
      db' = { db with
        occurrences := db'.occurrences, incidents := db'.incidents, deliveries := db'.deliveries } := by
  unfold cleanUp at h
  by_cases gone : deletes db cleanup t
  · rw [if_pos gone] at h
    unfold IncidentStore.deleteResolvedById at h
    dsimp only at h
    split_ifs at h with one
    cases h
    obtain ⟨r, found, resolved⟩ := (wf.ids.affected (·.lifecycleState = .resolved)).mp
      (by simpa using not_not.mp one)
    obtain rfl : i = r := by
      obtain ⟨mem', same⟩ := lookup_some found
      exact wf.ids.inj mem mem' same.symm
    have isResolved : i.lifecycleState = .resolved := of_decide_eq_true resolved
    have only : ∀ r ∈ db.incidents, (r.id = i.id ∧ r.lifecycleState = .resolved ↔ r = i) := by
      refine fun r mem' => ⟨fun h => wf.ids.inj mem' mem h.1, ?_⟩
      rintro rfl
      exact ⟨rfl, isResolved⟩
    refine ⟨wf.deleteIncidents _, fun k => ?_, ?_, rfl⟩
    · rw [incident_deleteIncidents wf]
      cases found : Alerting.incident db k with
      | none => exact (ite_self _).symm
      | some r =>
        obtain ⟨mem', rfl⟩ := lookup_some found
        rw [Option.filter_some]
        by_cases same : r = i
        · rw [if_neg (by simpa using (only r mem').mpr same), if_pos ⟨same ▸ rfl, gone⟩]
        · rw [if_pos (by simpa using not_and_or.mp (mt (only r mem').mp same)),
            if_neg fun h => same (wf.keyed.inj mem' mem h.1)]
    · rw [if_pos gone]
      refine List.filter_congr fun d _ => decide_eq_decide.mpr (not_congr ?_)
      simp only [List.mem_map, List.mem_filter, decide_eq_true_eq]
      constructor
      · rintro ⟨r, ⟨mem', h⟩, name⟩
        exact name.symm.trans h.1
      · exact fun name => ⟨i, ⟨mem, rfl, isResolved⟩, name.symm⟩
  · rw [if_neg gone] at h
    cases h
    refine ⟨wf, fun k => ?_, (if_neg gone).symm, rfl⟩
    rw [if_neg fun h => gone h.2]

theorem scheduleTransition_ok {p : AlertPolicy} {nowMs : Int}
    (h : scheduleTransition env db t i p nowMs = .ok db') :
    db' = { db with deliveries := db'.deliveries } ∧
      if announces t i then
        Scheduled nowMs (DeliveryPlanner.planTransition env.toEncodings t i p db.settings none nowMs)
          db.deliveries db'.deliveries
      else db'.deliveries = db.deliveries := by
  unfold scheduleTransition at h
  split_ifs at h ⊢
  · exact scheduleAll_ok h
  · cases h
    exact ⟨rfl, rfl⟩

theorem project_ok (wf : WellFormed db) (h : project env db input cleanup = .ok db') :
    ∃ t i, Projected env db input cleanup t i db' := by
  obtain ⟨⟨t, i⟩, seen, h⟩ := bind_ok.mp h
  obtain ⟨db₁, stored, h⟩ := bind_ok.mp h
  obtain ⟨db₂, planned, cleaned⟩ := bind_ok.mp h
  have applied := observed_ok seen
  have stored := storeIncident_ok wf applied stored
  obtain ⟨is₂, planned⟩ := scheduleTransition_ok planned
  have key : i.conditionKey = input.conditionKey :=
    (congrArg Incident.conditionKey (frame_of_apply applied)).trans (target_conditionKey wf).1
  have settings : db₁.settings = db.settings := by rw [stored.rest]
  have incidents₂ : db₂.incidents = db₁.incidents := by
    rw [is₂]
    rfl
  have wf₂ : WellFormed db₂ := by
    refine stored.wf.congr incidents₂ ?_ ?_ ?_ <;> rw [is₂] <;> rfl
  have found : incident db₁ i.conditionKey = some i := (stored.incident _).trans (if_pos rfl)
  have mem : i ∈ db₂.incidents := incidents₂ ▸ (lookup_some found).1
  obtain ⟨wf', kept, deliveries, is'⟩ := cleanUp_ok wf₂ mem cleaned
  have settings₂ : db₂.settings = db.settings := by
    rw [is₂]
    exact settings
  have same_deletes : deletes db₂ cleanup t ↔ deletes db cleanup t := by
    unfold deletes
    rw [settings₂]
  refine ⟨t, i, applied, fun k => ?_, wf', ?_, db₂.deliveries, ?_, ?_⟩
  · rw [kept k, Alerting.incident, incidents₂, ← Alerting.incident, stored.incident k, key]
    by_cases here : k = input.conditionKey
    · simp only [here, true_and, same_deletes, if_true]
    · simp only [here, false_and, if_false]
  · rw [is', is₂, stored.rest]
    rfl
  · rw [deliveries]
    exact if_congr same_deletes rfl rfl
  · have ledger : db₁.deliveries = db.deliveries := by rw [stored.rest]
    have planned := planned
    unfold IncidentStore.linkOccurrence at planned
    dsimp only at planned
    rwa [settings, ledger] at planned

/-- An observation that was recorded: a known one, a change, or one that moved its incident. -/
theorem record_ok (wf : WellFormed db) {inserted : Bool}
    (h : recordWithCleanup env db input cleanup = .ok (inserted, db')) :
    input.validate env = .ok () ∧
      ((inserted = false ∧ db' = db) ∨
        (inserted = true ∧ input.kind = .change ∧
          db' = { db with occurrences := db'.occurrences }) ∨
        (inserted = true ∧ input.kind ≠ .change ∧ ∃ t i, Projected env db input cleanup t i db')) := by
  obtain ⟨⟨⟩, valid, h⟩ := bind_ok.mp h
  obtain ⟨⟨new, db₁⟩, occurred, h⟩ := bind_ok.mp h
  refine ⟨valid, ?_⟩
  unfold OccurrenceStore.insertIgnore at occurred
  split_ifs at occurred
  · cases occurred
    cases h
    exact .inl ⟨rfl, rfl⟩
  · cases occurred
    by_cases change : input.kind = .change
    · simp only [change, if_true] at h
      cases h
      exact .inr (.inl ⟨rfl, change, rfl⟩)
    · simp only [change, if_false] at h
      obtain ⟨db₂, projected, h⟩ := bind_ok.mp h
      cases h
      have wf₁ : WellFormed { db with occurrences := db.occurrences ++ [input.occurrence] } :=
        wf.congr rfl rfl rfl rfl
      obtain ⟨t, i, p⟩ := project_ok wf₁ projected
      exact .inr (.inr ⟨rfl, change, t, i, p.applied, p.incident, p.wf, p.same, p.deliveries⟩)

/-- A failed observation leaves the tables as they are. -/
def recordStep (env : AlertingEnv) (db : AlertingDb) (input : ObservationIngress) : AlertingDb :=
  match record env db input with
  | .ok (_, db') => db'
  | .error _ => db

/-- An observation leaves the tables but for the occurrences, or moves its incident. -/
theorem recordStep_cases (wf : WellFormed db) (input : ObservationIngress) :
    recordStep env db input =
        { db with occurrences := (recordStep env db input).occurrences } ∨
      (input.validate env = .ok () ∧ input.kind ≠ .change ∧
        ∃ t i, Projected env db input true t i (recordStep env db input)) := by
  cases recorded : record env db input with
  | error e =>
    have same : recordStep env db input = db := by rw [recordStep, recorded]
    exact .inl (by rw [same])
  | ok result =>
    obtain ⟨inserted, db'⟩ := result
    have is : recordStep env db input = db' := by rw [recordStep, recorded]
    rw [is]
    obtain ⟨valid, ⟨-, rfl⟩ | ⟨-, -, same⟩ | ⟨-, condition, moved⟩⟩ := record_ok wf recorded
    · exact .inl rfl
    · exact .inl same
    · exact .inr ⟨valid, condition, moved⟩

theorem WellFormed.recordStep (wf : WellFormed db) (input : ObservationIngress) :
    WellFormed (recordStep env db input) := by
  rcases @recordStep_cases env _ wf input with same | ⟨-, -, t, i, moved⟩
  · rw [same]
    exact wf.congr rfl rfl rfl rfl
  · exact moved.wf

end Recording

end RelayPool.Alerting
