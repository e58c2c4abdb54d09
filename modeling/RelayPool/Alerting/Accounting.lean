import RelayPool.Alerting.Opening
import RelayPool.Numerals

/-! What the ledger says of an episode.

The key of a delivery names its incident, episode, channel and kind, so that each of them
is scheduled once (`makeDeliveryKey_inj`). An incident is only open after both channels
were told (`Ledgered`). Whether a recovery is told of an episode that had opened, and is
still there when the observation is committed, depends on the deletion of resolved
incidents (`Settles`). -/
namespace RelayPool.Alerting
open Runs Table Fallible Numerals

/-! ### Delivery keys -/

theorem makeDeliveryKey_toList (incidentId : String) (episode : Nat) (channel : NotificationChannel)
    (kind : DeliveryKind) (sequence : Nat) :
    (makeDeliveryKey incidentId episode channel kind sequence).toList =
      (((incidentId.toList ++ ':' :: (toString episode).toList) ++ ':' :: channel.asStr.toList) ++
        ':' :: kind.asStr.toList) ++ ':' :: (toString sequence).toList := by
  unfold makeDeliveryKey
  simp [String.toList_append]

/-- A delivery key tells what the delivery is about. -/
theorem makeDeliveryKey_inj {incidentId incidentId' : String} {episode episode' : Nat}
    {channel channel' : NotificationChannel} {kind kind' : DeliveryKind} {sequence sequence' : Nat}
    (h : makeDeliveryKey incidentId episode channel kind sequence =
      makeDeliveryKey incidentId' episode' channel' kind' sequence') :
    incidentId = incidentId' ∧ episode = episode' ∧ channel = channel' ∧ kind = kind' := by
  have lists := congrArg String.toList h
  rw [makeDeliveryKey_toList, makeDeliveryKey_toList] at lists
  have cleanKind (k : DeliveryKind) : ':' ∉ k.asStr.toList := by cases k <;> decide
  have cleanChannel (c : NotificationChannel) : ':' ∉ c.asStr.toList := by cases c <;> decide
  obtain ⟨lists, -⟩ := cut_last (notMem_toString (by decide)) (notMem_toString (by decide)) lists
  obtain ⟨lists, kinds⟩ := cut_last (cleanKind _) (cleanKind _) lists
  obtain ⟨lists, channels⟩ := cut_last (cleanChannel _) (cleanChannel _) lists
  obtain ⟨ids, episodes⟩ := cut_last (notMem_toString (by decide)) (notMem_toString (by decide)) lists
  have sameKind : kind.asStr = kind'.asStr → kind = kind' := by cases kind <;> cases kind' <;> decide
  have sameChannel : channel.asStr = channel'.asStr → channel = channel' := by
    cases channel <;> cases channel' <;> decide
  exact ⟨String.toList_inj.mp ids, toString_inj episodes,
    sameChannel (String.toList_inj.mp channels), sameKind (String.toList_inj.mp kinds)⟩

/-! ### The rows of an episode -/

/-- The row is the delivery of this kind, over this channel, of an episode of an incident. -/
def NotificationDelivery.tells (d : NotificationDelivery) (incidentId : String) (episode : Nat)
    (channel : NotificationChannel) (kind : DeliveryKind) : Prop :=
  d.incidentId = incidentId ∧ d.episodeNumber = episode ∧ d.channel = channel ∧
    d.deliveryKind = kind

/-- The row has the key of what it tells. -/
def NotificationDelivery.keyed (d : NotificationDelivery) : Prop :=
  d.deliveryKey = makeDeliveryKey d.incidentId d.episodeNumber d.channel d.deliveryKind 1

section Planned
variable {e : Encodings} {t : StateTransition} {i : Incident} {p : AlertPolicy}
  {settings : AlertingSettings} {attention : Option IncidentAttention} {nowMs : Int}
  {planned : PlannedDelivery} {d : NotificationDelivery}

theorem tells_of_key {incidentId : String} {episode : Nat} {channel : NotificationChannel}
    {kind : DeliveryKind} (keyed : d.keyed)
    (h : d.deliveryKey = makeDeliveryKey incidentId episode channel kind 1) :
    d.tells incidentId episode channel kind := makeDeliveryKey_inj (keyed.symm.trans h)

/-- What is planned for a transition: a delivery of its kind over each channel. -/
theorem mem_planTransition : planned ∈ DeliveryPlanner.planTransition e t i p settings attention nowMs ↔
    ∃ kind channel, DeliveryPlanner.transitionKind p t = some kind ∧ planned =
      { delivery := DeliveryPlanner.makeDelivery e i p channel kind 1 nowMs (e.policyJson p)
        suppressionReason := DeliveryPlanner.suppressionReason i p settings attention channel nowMs
          (DeliveryPlanner.channelIsPolicyEnabled p channel) } := by
  unfold DeliveryPlanner.planTransition
  cases DeliveryPlanner.transitionKind p t with
  | none => simp
  | some kind =>
    simp only [DeliveryPlanner.planKind, List.mem_map, Option.some.injEq]
    constructor
    · rintro ⟨channel, -, rfl⟩
      exact ⟨kind, channel, rfl, rfl⟩
    · rintro ⟨_, channel, rfl, rfl⟩
      exact ⟨channel, by cases channel <;> simp, rfl⟩

theorem makeDelivery_tells (channel : NotificationChannel) (kind : DeliveryKind) (json : String) :
    (DeliveryPlanner.makeDelivery e i p channel kind 1 nowMs json).tells i.id i.episodeNumber channel
        kind ∧
      (DeliveryPlanner.makeDelivery e i p channel kind 1 nowMs json).keyed := by
  unfold DeliveryPlanner.makeDelivery
  dsimp only
  split <;> exact ⟨⟨rfl, rfl, rfl, rfl⟩, rfl⟩

/-- A planned row is about what it was planned for. -/
theorem plannedRow_tells {incidentId : String} {episode : Nat} {channel : NotificationChannel}
    {kind : DeliveryKind} (h : AlertingIngress.plannedRow planned nowMs = .ok d)
    (tells : planned.delivery.tells incidentId episode channel kind)
    (keyed : planned.delivery.keyed) :
    d.inserted.tells incidentId episode channel kind ∧ d.inserted.keyed := by
  unfold AlertingIngress.plannedRow at h
  split at h
  · cases h
    exact ⟨tells, keyed⟩
  · unfold NotificationDelivery.suppress at h
    split_ifs at h
    · exact (nomatch h)
    · cases h
      exact ⟨tells, keyed⟩

/-- What scheduling the deliveries of a transition does to the rows: the new ones tell of it,
and everything it has to tell is told. -/
theorem Scheduled.tells {before after : Ledger}
    (scheduled : Scheduled nowMs (DeliveryPlanner.planTransition e t i p settings attention nowMs)
      before after) (keyed : ∀ d ∈ before, d.keyed) :
    (∀ d ∈ after, d.keyed) ∧ (∀ d ∈ before, d ∈ after) ∧
      (∀ d ∈ after, d ∈ before ∨ ∃ kind channel,
        DeliveryPlanner.transitionKind p t = some kind ∧
          d.tells i.id i.episodeNumber channel kind) ∧
      (∀ kind, DeliveryPlanner.transitionKind p t = some kind → ∀ channel,
        ∃ d ∈ after, d.tells i.id i.episodeNumber channel kind) := by
  obtain ⟨⟨rows, rfl, new⟩, present, -⟩ := scheduled
  have told : ∀ d ∈ rows, d.keyed ∧ ∃ kind channel,
      DeliveryPlanner.transitionKind p t = some kind ∧
        d.tells i.id i.episodeNumber channel kind := by
    intro d mem
    obtain ⟨planned, memp, row, made, rfl⟩ := new d mem
    obtain ⟨kind, channel, isKind, rfl⟩ := mem_planTransition.mp memp
    obtain ⟨tells, keyed⟩ := @makeDelivery_tells e i p nowMs channel kind
      (e.policyJson p)
    obtain ⟨tells, keyed⟩ := plannedRow_tells made tells keyed
    exact ⟨keyed, kind, channel, isKind, tells⟩
  have keys : ∀ d ∈ before ++ rows, d.keyed :=
    List.forall_mem_append.mpr ⟨keyed, fun d mem => (told d mem).1⟩
  refine ⟨keys, fun d mem => List.mem_append_left rows mem, fun d mem => ?_,
    fun kind isKind channel => ?_⟩
  · exact (List.mem_append.mp mem).imp_right fun mem => (told d mem).2
  · obtain ⟨d, mem, same⟩ := present _ (mem_planTransition.mpr ⟨kind, channel, isKind, rfl⟩)
    obtain ⟨tells, keyed⟩ := @makeDelivery_tells e i p nowMs channel kind
      (e.policyJson p)
    obtain ⟨id, episode, channel_, kind_⟩ := tells
    rw [NotificationDelivery.keyed, id, episode, channel_, kind_] at keyed
    exact ⟨d, mem, tells_of_key (keys d mem) (same.trans keyed)⟩

end Planned

/-! ### Open incidents -/

def Incident.isOpen (i : Incident) : Prop :=
  i.lifecycleState = .opened ∨ i.lifecycleState = .recovering

section Transitions
variable {p : AlertPolicy} {i i' : Incident} {o : IncidentObservation} {t : StateTransition}

/-- An incident that is open has just opened, or was open in the same episode. -/
theorem isOpen_cases (condition : o.kind ≠ .change)
    (applied : IncidentProjector.apply i o p = .ok (t, i')) (open_ : i'.isOpen) :
    (t = .opened ∧ 1 ≤ i'.episodeOccurrenceCount) ∨
      (i.isOpen ∧ i'.episodeNumber = i.episodeNumber ∧
        i.episodeOccurrenceCount ≤ i'.episodeOccurrenceCount) := by
  obtain ⟨-, -, moved⟩ := apply_ok_iff.mp applied
  have same : (i.note o).lifecycleState = i.lifecycleState := rfl
  cases kind : o.kind with
  | change => exact absurd kind condition
  | abnormal =>
    rw [kind] at moved
    have moved : (i.note o).observeAbnormal o p = (t, i') := moved
    unfold Incident.observeAbnormal Incident.maybeOpen at moved
    rw [same] at moved
    cases state : i.lifecycleState with
    | pending =>
      rw [state] at moved
      dsimp only at moved
      split at moved
      · cases moved
        exact .inl ⟨rfl, Nat.le_add_left ..⟩
      · cases moved
        exact (open_.elim (fun h => nomatch state.symm.trans h)
          fun h => nomatch state.symm.trans h)
    | opened =>
      rw [state] at moved
      cases moved
      exact .inr ⟨.inl state, rfl, Nat.le_add_right ..⟩
    | recovering =>
      rw [state] at moved
      cases moved
      exact .inl ⟨rfl, Nat.le_add_left ..⟩
    | resolved =>
      rw [state] at moved
      dsimp only at moved
      split at moved
      · cases moved
        exact .inl ⟨rfl, le_rfl⟩
      · cases moved
        exact open_.elim nofun nofun
  | healthy =>
    rw [kind] at moved
    have moved : (i.note o).observeHealthy o p = (t, i') := moved
    unfold Incident.observeHealthy Incident.continueRecovery at moved
    rw [same] at moved
    cases state : i.lifecycleState with
    | pending =>
      rw [state] at moved
      cases moved
      exact open_.elim nofun nofun
    | opened =>
      rw [state] at moved
      dsimp only at moved
      split at moved <;> (cases moved; exact .inr ⟨.inl state, rfl, le_rfl⟩)
    | recovering =>
      rw [state] at moved
      dsimp only at moved
      split at moved <;> (cases moved; exact .inr ⟨.inr state, rfl, le_rfl⟩)
    | resolved =>
      rw [state] at moved
      cases moved
      exact (open_.elim (fun h => nomatch state.symm.trans h)
        fun h => nomatch state.symm.trans h)

/-- An open incident is resolved by the transition that says so. -/
theorem transition_of_resolved (condition : o.kind ≠ .change)
    (applied : IncidentProjector.apply i o p = .ok (t, i')) (open_ : i.isOpen)
    (resolved : i'.lifecycleState = .resolved) : t = .resolved := by
  obtain ⟨-, -, moved⟩ := apply_ok_iff.mp applied
  have same : (i.note o).lifecycleState = i.lifecycleState := rfl
  cases kind : o.kind with
  | change => exact absurd kind condition
  | abnormal =>
    rw [kind] at moved
    have moved : (i.note o).observeAbnormal o p = (t, i') := moved
    unfold Incident.observeAbnormal at moved
    rw [same] at moved
    rcases open_ with state | state <;> rw [state] at moved <;> cases moved
    · exact (nomatch state.symm.trans resolved)
    · exact (nomatch resolved)
  | healthy =>
    rw [kind] at moved
    have moved : (i.note o).observeHealthy o p = (t, i') := moved
    unfold Incident.observeHealthy Incident.continueRecovery at moved
    rw [same] at moved
    rcases open_ with state | state <;> rw [state] at moved <;> dsimp only at moved <;>
      split at moved <;> cases moved
    · rfl
    · exact (nomatch resolved)
    · rfl
    · exact (nomatch state.symm.trans resolved)

end Transitions

/-! ### Accounting -/

section Accounting
variable (env : AlertingEnv) (db : AlertingDb) (input : ObservationIngress)

/-- What the ledger owes to an episode: each of its deliveries is there once, and its recovery
is told over a channel only where its opening was. -/
structure Accounted (ledger : Ledger) : Prop where
  once : ∀ d ∈ ledger, ∀ d' ∈ ledger,
    d'.tells d.incidentId d.episodeNumber d.channel d.deliveryKind → d' = d
  afterOpened : ∀ d ∈ ledger, d.deliveryKind = .recovered →
    ∃ d' ∈ ledger, d'.tells d.incidentId d.episodeNumber d.channel .opened

/-- Where the observation resolves an open incident and the policy wants recoveries to be told,
the rows that tell of it are in the ledger afterwards. -/
def RecoveryKept : Prop :=
  ∀ i, incident db input.conditionKey = some i → i.isOpen →
    (policyOf db input).recoveryNotificationEnabled →
      (∀ j, incident (recordStep env db input) input.conditionKey = some j →
        j.lifecycleState = .resolved) →
        ∀ channel, ∃ d ∈ (recordStep env db input).deliveries,
          d.tells i.id i.episodeNumber channel .recovered

def resolves : Bool :=
  match IncidentProjector.apply (target db input) input.observation (policyOf db input) with
  | .ok (.resolved, _) => true
  | _ => false

/-- Where the observation resolves a stored incident and the policy wants recoveries to be told,
resolved incidents are deleted if and only if this one was pending. -/
def Settles : Prop :=
  input.kind ≠ .change → resolves db input → (policyOf db input).recoveryNotificationEnabled →
    ∀ i, incident db input.conditionKey = some i →
      (db.settings.deleteResolvedIncidents ↔ i.lifecycleState = .pending)

instance : Decidable (Settles db input) :=
  inferInstanceAs (Decidable (_ → _ → _ → ∀ i ∈ incident db input.conditionKey, (_ ↔ _)))

/-- What every step keeps of the ledger. -/
structure Ledgered (db : AlertingDb) : Prop where
  wf : WellFormed db
  keys : ∀ d ∈ db.deliveries, d.keyed
  keyed : Keyed NotificationDelivery.deliveryKey db.deliveries
  opened : ∀ i ∈ db.incidents, i.isOpen → 1 ≤ i.episodeOccurrenceCount ∧
    ∀ channel, ∃ d ∈ db.deliveries, d.tells i.id i.episodeNumber channel .opened
  afterOpened : ∀ d ∈ db.deliveries, d.deliveryKind = .recovered →
    ∃ d' ∈ db.deliveries, d'.tells d.incidentId d.episodeNumber d.channel .opened

end Accounting

section Steps
variable {env : AlertingEnv} {db db' : AlertingDb} {input : ObservationIngress}
  {t : StateTransition} {i : Incident}

theorem Ledgered.accounted (ledgered : Ledgered db) : Accounted db.deliveries := by
  refine ⟨fun d mem d' mem' tells => ledgered.keyed.inj mem' mem ?_, ledgered.afterOpened⟩
  have keyed' := ledgered.keys d' mem'
  obtain ⟨id, episode, channel, kind⟩ := tells
  rw [NotificationDelivery.keyed, id, episode, channel, kind] at keyed'
  exact keyed'.trans (ledgered.keys d mem).symm

theorem resolves_of (applied : IncidentProjector.apply (target db input) input.observation
    (policyOf db input) = .ok (.resolved, i)) : resolves db input := by
  rw [resolves, applied]

/-- The ledger that an observation leaves before resolved incidents are deleted. -/
theorem Projected.ledger (ledgered : Ledgered db) (moved : Projected env db input true t i db') :
    ∃ ledger, db'.deliveries =
        (if deletes db true t then ledger.filter (·.incidentId ≠ i.id) else ledger) ∧
      (∀ d ∈ ledger, d.keyed) ∧ Keyed NotificationDelivery.deliveryKey ledger ∧
      (∀ d ∈ db.deliveries, d ∈ ledger) ∧
      (∀ d ∈ ledger, d ∈ db.deliveries ∨ (AlertingIngress.announces t i ∧ ∃ kind channel,
        DeliveryPlanner.transitionKind (policyOf db input) t = some kind ∧
          d.tells i.id i.episodeNumber channel kind)) ∧
      (AlertingIngress.announces t i → ∀ kind,
        DeliveryPlanner.transitionKind (policyOf db input) t = some kind → ∀ channel,
          ∃ d ∈ ledger, d.tells i.id i.episodeNumber channel kind) := by
  obtain ⟨ledger, is, scheduled⟩ := moved.deliveries
  refine ⟨ledger, is, ?_⟩
  by_cases told : AlertingIngress.announces t i
  · rw [if_pos told] at scheduled
    obtain ⟨keys, grown, new, all⟩ := scheduled.tells ledgered.keys
    exact ⟨keys, scheduled.keyed ledgered.keyed, grown,
      fun d mem => (new d mem).imp_right fun h => ⟨told, h⟩, fun _ => all⟩
  · rw [if_neg told] at scheduled
    subst scheduled
    exact ⟨ledgered.keys, ledgered.keyed, fun _ mem => mem, fun _ mem => .inl mem,
      fun h => absurd h told⟩

theorem target_of_some {r : Incident} (found : incident db input.conditionKey = some r) :
    target db input = AlertingIngress.prepared r input (policyOf db input) := by
  unfold target
  rw [loaded_of_some found]

theorem target_of_none (absent : incident db input.conditionKey = none) :
    (target db input).lifecycleState = .pending ∧ (target db input).episodeOccurrenceCount = 0 := by
  unfold target
  rw [loaded_of_none absent]
  exact ⟨rfl, rfl⟩

/-- An open incident that an observation is applied to is a stored one. -/
theorem stored_of_isOpen (open_ : (target db input).isOpen) :
    ∃ r, incident db input.conditionKey = some r := by
  cases found : incident db input.conditionKey with
  | some r => exact ⟨r, rfl⟩
  | none =>
    have pending := (target_of_none found).1
    exact (open_.elim (fun h => nomatch pending.symm.trans h) fun h => nomatch pending.symm.trans h)

/-- An incident that no one was told of resolves in silence. -/
theorem occurrences_of_resolved {p : AlertPolicy} {o : IncidentObservation} {i i' : Incident}
    (applied : IncidentProjector.apply i o p = .ok (.resolved, i')) :
    i'.episodeOccurrenceCount = i.episodeOccurrenceCount := by
  obtain ⟨kind, -, unresolved, -⟩ := resolved_of_transition applied
  obtain ⟨-, -, moved⟩ := apply_ok_iff.mp applied
  rw [kind] at moved
  have moved : (i.note o).observeHealthy o p = (.resolved, i') := moved
  have same : (i.note o).lifecycleState = i.lifecycleState := rfl
  unfold Incident.observeHealthy Incident.continueRecovery at moved
  rw [same] at moved
  cases state : i.lifecycleState with
  | pending =>
    rw [state] at moved
    cases moved
    rfl
  | resolved => exact absurd state unresolved
  | opened =>
    rw [state] at moved
    dsimp only at moved
    split at moved <;> (cases moved; try rfl)
  | recovering =>
    rw [state] at moved
    dsimp only at moved
    split at moved <;> (cases moved; try rfl)

theorem isOpen_of_stored {r : Incident} (resolved : r.lifecycleState ≠ .resolved)
    (pending : r.lifecycleState ≠ .pending) : r.isOpen := by
  cases state : r.lifecycleState with
  | opened => exact .inl state
  | recovering => exact .inr state
  | pending => exact absurd state pending
  | resolved => exact absurd state resolved

/-- Only a recovery is told by a delivery of that kind. -/
theorem resolved_of_transitionKind {p : AlertPolicy}
    (h : DeliveryPlanner.transitionKind p t = some .recovered) :
    t = .resolved ∧ p.recoveryNotificationEnabled := by
  unfold DeliveryPlanner.transitionKind at h
  split at h
  · exact (nomatch h)
  · exact (nomatch h)
  · split_ifs at h with enabled
    exact ⟨rfl, enabled⟩
  all_goals exact (nomatch h)

/-- The row of another incident stays. -/
theorem row_kept {ledger : Ledger}
    (is : db'.deliveries = if deletes db true t then ledger.filter (·.incidentId ≠ i.id) else ledger)
    {d : NotificationDelivery} (mem : d ∈ ledger) (other : deletes db true t → d.incidentId ≠ i.id) :
    d ∈ db'.deliveries := by
  rw [is]
  split
  · rename_i gone
    exact List.mem_filter.mpr ⟨mem, decide_eq_true (other gone)⟩
  · exact mem

theorem Projected.id (wf : WellFormed db) (moved : Projected env db input true t i db') :
    i.id = ObservationIngress.incidentId input.conditionKey ∧
      i.conditionKey = input.conditionKey := by
  have frame := frame_of_apply moved.applied
  obtain ⟨key, name⟩ := @target_conditionKey db input wf
  exact ⟨(congrArg Incident.id frame).trans name,
    (congrArg Incident.conditionKey frame).trans key⟩

/-- The openings of the incidents that are open are told. -/
theorem Projected.opened (ledgered : Ledgered db) (condition : input.kind ≠ .change)
    (moved : Projected env db input true t i db') {j : Incident} (mem : j ∈ db'.incidents)
    (open_ : j.isOpen) : 1 ≤ j.episodeOccurrenceCount ∧
      ∀ channel, ∃ d ∈ db'.deliveries, d.tells j.id j.episodeNumber channel .opened := by
  obtain ⟨ledger, is, -, -, grown, -, all⟩ := moved.ledger ledgered
  obtain ⟨name, -⟩ := moved.id ledgered.wf
  have found : Alerting.incident db' j.conditionKey = some j := moved.wf.keyed.lookup mem
  rw [moved.incident] at found
  split_ifs at found with here gone
  · obtain rfl := Option.some.inj found
    have keep {d : NotificationDelivery} (mem : d ∈ ledger) : d ∈ db'.deliveries :=
      row_kept is mem fun h => absurd h gone
    rcases isOpen_cases condition moved.applied open_ with ⟨rfl, count⟩ | ⟨was, number, count⟩
    · refine ⟨count, fun channel => ?_⟩
      obtain ⟨d, mem, tells⟩ := all (by simp [AlertingIngress.announces]) .opened rfl channel
      exact ⟨d, keep mem, tells⟩
    · obtain ⟨r, stored⟩ := stored_of_isOpen was
      rw [target_of_some stored] at was number count
      obtain ⟨memr, -, rname⟩ := named_of_incident ledgered.wf stored
      obtain ⟨counted, told⟩ := ledgered.opened r memr was
      refine ⟨le_trans counted count, fun channel => ?_⟩
      obtain ⟨d, mem, tells⟩ := told channel
      refine ⟨d, keep (grown d mem), ?_⟩
      have number : i.episodeNumber = r.episodeNumber := number
      rw [number, name, ← rname]
      exact tells
  · obtain ⟨memj, -⟩ := lookup_some found
    obtain ⟨counted, told⟩ := ledgered.opened j memj open_
    refine ⟨counted, fun channel => ?_⟩
    obtain ⟨d, mem, tells⟩ := told channel
    refine ⟨d, row_kept is (grown d mem) fun _ same => here ?_, tells⟩
    rw [tells.1, name] at same
    exact (ledgered.wf.id_iff memj).mp same

theorem Projected.afterOpened (ledgered : Ledgered db) (condition : input.kind ≠ .change)
    (settles : Settles db input) (moved : Projected env db input true t i db')
    {d : NotificationDelivery} (mem : d ∈ db'.deliveries) (kind : d.deliveryKind = .recovered) :
    ∃ d' ∈ db'.deliveries, d'.tells d.incidentId d.episodeNumber d.channel .opened := by
  obtain ⟨ledger, is, -, -, grown, new, -⟩ := moved.ledger ledgered
  have memLedger : d ∈ ledger ∧ (deletes db true t → d.incidentId ≠ i.id) := by
    rw [is] at mem
    split_ifs at mem with gone
    · obtain ⟨mem, other⟩ := List.mem_filter.mp mem
      exact ⟨mem, fun _ => of_decide_eq_true other⟩
    · exact ⟨mem, fun h => absurd h gone⟩
  rcases new d memLedger.1 with old | ⟨told, kind', channel, isKind, tells⟩
  · obtain ⟨d', mem', tells'⟩ := ledgered.afterOpened d old kind
    refine ⟨d', row_kept is (grown d' mem') fun gone => ?_, tells'⟩
    rw [tells'.1]
    exact memLedger.2 gone
  · obtain rfl : kind' = .recovered := tells.2.2.2.symm.trans kind
    obtain ⟨rfl, enabled⟩ := resolved_of_transitionKind isKind
    obtain ⟨-, -, unresolved, number⟩ := resolved_of_transition moved.applied
    have count := occurrences_of_resolved moved.applied
    cases stored : Alerting.incident db input.conditionKey with
    | none =>
      rw [(target_of_none stored).2] at count
      simp [AlertingIngress.announces, count] at told
    | some r =>
      have agree := settles condition (resolves_of moved.applied) enabled r stored
      rw [target_of_some stored] at unresolved number
      obtain ⟨name, -⟩ := moved.id ledgered.wf
      obtain ⟨memr, -, rname⟩ := named_of_incident ledgered.wf stored
      by_cases off : db.settings.deleteResolvedIncidents
      · exact absurd tells.1 (memLedger.2 ⟨rfl, rfl, off⟩)
      · have open_ : r.isOpen := isOpen_of_stored unresolved (mt agree.mpr off)
        obtain ⟨d', mem', tells'⟩ := (ledgered.opened r memr open_).2 channel
        refine ⟨d', row_kept is (grown d' mem') fun gone => absurd gone.2.2 off, ?_⟩
        have number : i.episodeNumber = r.episodeNumber := number
        rw [tells.1, tells.2.1, tells.2.2.1, number, name, ← rname]
        exact tells'

theorem Ledgered.recordStep (ledgered : Ledgered db) (settles : Settles db input) :
    Ledgered (recordStep env db input) := by
  rcases @recordStep_cases env _ ledgered.wf input with same | ⟨-, condition, t, i, moved⟩
  · rw [same]
    exact ⟨ledgered.wf.congr rfl rfl rfl rfl, ledgered.keys, ledgered.keyed, ledgered.opened,
      ledgered.afterOpened⟩
  · obtain ⟨ledger, is, keys, keyed, -⟩ := moved.ledger ledgered
    refine ⟨moved.wf, ?_, ?_, fun j mem => moved.opened ledgered condition mem,
      fun d mem => moved.afterOpened ledgered condition settles mem⟩
    · rw [is]
      split
      · exact fun d mem => keys d (List.mem_filter.mp mem).1
      · exact keys
    · rw [is]
      split
      · exact keyed.filter _
      · exact keyed

theorem Ledgered.recoveryKept (ledgered : Ledgered db) (settles : Settles db input) :
    RecoveryKept env db input := by
  intro r stored open_ enabled resolved channel
  rcases @recordStep_cases env _ ledgered.wf input with same | ⟨-, condition, t, i, moved⟩
  · have after : incident (Alerting.recordStep env db input) input.conditionKey = some r := by
      rw [same]
      exact stored
    exact (open_.elim (fun h => nomatch h.symm.trans (resolved r after))
      fun h => nomatch h.symm.trans (resolved r after))
  · have target := target_of_some stored
    have wasOpen : (Alerting.target db input).isOpen := by
      rw [target]
      exact open_
    have after := moved.incident input.conditionKey
    rw [if_pos rfl] at after
    obtain rfl : t = .resolved := by
      by_cases gone : deletes db true t
      · exact gone.2.1
      · rw [if_neg gone] at after
        exact transition_of_resolved condition moved.applied wasOpen (resolved i after)
    have pending : r.lifecycleState ≠ .pending := fun state =>
      open_.elim (fun h => nomatch h.symm.trans state) fun h => nomatch h.symm.trans state
    have off : ¬ db.settings.deleteResolvedIncidents :=
      mt (settles condition (resolves_of moved.applied) enabled r stored).mp pending
    obtain ⟨ledger, is, -, -, -, -, all⟩ := moved.ledger ledgered
    rw [if_neg fun gone => off gone.2.2] at is
    obtain ⟨-, -, -, number⟩ := resolved_of_transition moved.applied
    have count := occurrences_of_resolved moved.applied
    rw [target] at number count
    obtain ⟨memr, -, rname⟩ := named_of_incident ledgered.wf stored
    have counted := (ledgered.opened r memr open_).1
    obtain ⟨name, -⟩ := moved.id ledgered.wf
    have told : AlertingIngress.announces .resolved i := by
      have count : i.episodeOccurrenceCount = r.episodeOccurrenceCount := count
      simp only [AlertingIngress.announces, count]
      simp
      omega
    obtain ⟨d, mem, tells⟩ := all told .recovered
      (by rw [DeliveryPlanner.transitionKind, if_pos enabled]) channel
    refine ⟨d, is ▸ mem, ?_⟩
    have number : i.episodeNumber = r.episodeNumber := number
    rw [rname, ← name, ← number]
    exact tells

end Steps

/-- Where every recovery settles its episode, the ledger owes nothing after any observation. -/
theorem notifications_accounted (env : AlertingEnv) (policies : List AlertPolicy)
    (settings : AlertingSettings) (stations stationKeys : List String)
    (inputs : List ObservationIngress)
    (settles : Along (recordStep env) Settles (.start policies settings stations stationKeys)
      inputs) :
    Along (recordStep env)
      (fun db input => Accounted (recordStep env db input).deliveries ∧ RecoveryKept env db input)
      (.start policies settings stations stationKeys) inputs := by
  have initial : Ledgered (.start policies settings stations stationKeys) :=
    ⟨.start .., List.forall_mem_nil _, List.nodup_nil, List.forall_mem_nil _,
      List.forall_mem_nil _⟩
  have preserved : ∀ (db : AlertingDb) (input : ObservationIngress), Settles db input →
      Ledgered db → (Accounted (recordStep env db input).deliveries ∧ RecoveryKept env db input) ∧
        Ledgered (recordStep env db input) := by
    intro db input settles ledgered
    have next : Ledgered (recordStep env db input) := ledgered.recordStep settles
    exact ⟨⟨next.accounted, ledgered.recoveryKept settles⟩, next⟩
  exact settles.imp_invariant preserved initial

def sampleOpening : List ObservationIngress :=
  [sampleObservation "observation-1" .abnormal 1000,
    sampleObservation "observation-2" .abnormal 2000,
    sampleObservation "observation-3" .abnormal 3000]

def sampleKeptSettings : AlertingSettings :=
  { AlertingSettings.default with deleteResolvedIncidents := false }

/-- An incident opens and recovers while resolved incidents are kept. -/
theorem notifications_accounted_kept :
    Along (recordStep sampleEnv)
      (fun db input => Accounted (recordStep sampleEnv db input).deliveries ∧
        RecoveryKept sampleEnv db input)
      (.start [samplePolicy] sampleKeptSettings [] [])
      (sampleOpening ++ [sampleObservation "observation-4" .healthy 4000]) :=
  notifications_accounted sampleEnv [samplePolicy] sampleKeptSettings [] [] _ (by decide +kernel)

/-- Where resolved incidents are deleted, the recovery of an open one is not told; where they are
kept, the recovery of one that never opened is. -/
theorem notifications_not_accounted :
    ((incident (run (recordStep sampleEnv) (.start [samplePolicy] .default [] []) sampleOpening)
          sampleKey).map (·.lifecycleState) = some .opened ∧
      incident (run (recordStep sampleEnv) (.start [samplePolicy] .default [] [])
        (sampleOpening ++ [sampleObservation "observation-4" .healthy 4000])) sampleKey = none ∧
      (run (recordStep sampleEnv) (.start [samplePolicy] .default [] [])
        (sampleOpening ++ [sampleObservation "observation-4" .healthy 4000])).deliveries = []) ∧
    (run (recordStep sampleEnv) (.start [samplePolicy] sampleKeptSettings [] [])
      [sampleObservation "observation-1" .abnormal 1000,
        sampleObservation "observation-2" .healthy 2000]).deliveries.map
          (fun d => (d.episodeNumber, d.channel, d.deliveryKind)) =
        [(1, .inApp, .recovered), (1, .desktop, .recovered)] := by
  decide +kernel

end RelayPool.Alerting
