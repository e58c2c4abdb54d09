import RelayPool.Alerting.Agreement
import RelayPool.Alerting.Episodes

/-! When an incident is open.

Beside the tables of a run the episode of one condition is kept, as the recorded
observations make it. The stored incident agrees with it (`Agrees`) up to the first
abnormal observation that the record cannot follow: one that should open the episode by
its duration, or the first one after a resolution whose incident is gone, so that the
episodes are counted anew (`opening_exact_iff`). -/
namespace RelayPool.Alerting
open Runs Table Fallible

/-- The observation is recorded, and was not before. -/
def isRecorded (env : AlertingEnv) (db : AlertingDb) (input : ObservationIngress) : Bool :=
  match AlertingIngress.record env db input with
  | .ok (inserted, _) => inserted
  | .error _ => false

section Observed
variable (env : AlertingEnv) (p : AlertPolicy) (k : ConditionKey)

/-- The observation counts for the condition. -/
def counts (db : AlertingDb) (input : ObservationIngress) : Bool :=
  isRecorded env db input ∧ input.conditionKey = k ∧ input.kind ≠ .change

/-- A run keeps the episode of the condition beside the tables. -/
def episodeStep (s : AlertingDb × Episode) (input : ObservationIngress) : AlertingDb × Episode :=
  (recordStep env s.1 input,
    if counts env k s.1 input then s.2.observe p input.kind input.observedAtMs else s.2)

/-- The stored incident is in the state of the episode and has its number; where there is none
the episode has had no observation or is over. -/
def Agrees (ep : Episode) : Option Incident → Prop
  | none => ep = .start ∨ ep.phase = .idle
  | some i => i.episodeNumber = ep.number ∧
    match ep.phase with
    | .idle => i.lifecycleState = .resolved
    | .pending _ => i.lifecycleState = .pending
    | .opened _ => i.lifecycleState = .opened ∨ i.lifecycleState = .recovering

/-- What keeps the incident with its episode: the record can follow, and the incident of an
episode that is over is still there when the next one begins. -/
def Followed (s : AlertingDb × Episode) (input : ObservationIngress) : Prop :=
  counts env k s.1 input → s.2.followed p input.kind input.observedAtMs ∧
    (input.kind = .abnormal → s.2.phase = .idle → (incident s.1 k).isSome)

instance {s : AlertingDb × Episode} {input : ObservationIngress} :
    Decidable (Followed env p k s input) :=
  inferInstanceAs (Decidable (_ → _ ∧ (_ → _ → _)))

end Observed

/-! ### One observation -/

section Steps
variable {env : AlertingEnv} {p : AlertPolicy} {k : ConditionKey} {ep : Episode}
  {db : AlertingDb} {i i' : Incident} {o : IncidentObservation} {t : StateTransition}

theorem Shows.agrees (shows_ : Shows ep i) : Agrees ep (some i) := by
  refine ⟨shows_.number, ?_⟩
  have phase := shows_.phase
  cases is : ep.phase with
  | idle => rwa [is] at phase
  | pending abnormal =>
    rw [is] at phase
    exact phase.1
  | opened healthy =>
    rw [is] at phase
    by_cases first : healthy = []
    · exact .inl (phase.1.trans (if_pos first))
    · exact .inr (phase.1.trans (if_neg first))

theorem Shows.idle (shows_ : Shows ep i) (resolved : i.lifecycleState = .resolved) :
    ep.phase = .idle := by
  obtain ⟨-, state⟩ := shows_.agrees
  cases is : ep.phase with
  | idle => rfl
  | pending =>
    rw [is] at state
    exact (nomatch state.symm.trans resolved)
  | opened =>
    rw [is] at state
    rcases state with state | state <;> exact (nomatch state.symm.trans resolved)

theorem continueRecovery_resolved {waiting : StateTransition} {at_ : Int}
    (waits : waiting ≠ .resolved) (h : i.continueRecovery waiting at_ p = (.resolved, i')) :
    i'.lifecycleState = .resolved ∧ i'.episodeNumber = i.episodeNumber := by
  unfold Incident.continueRecovery at h
  split at h
  · cases h
    exact ⟨rfl, rfl⟩
  · exact absurd (congrArg Prod.fst h) waits

/-- An observation that resolves an incident is a healthy one in its episode. -/
theorem resolved_of_transition (applied : IncidentProjector.apply i o p = .ok (.resolved, i')) :
    o.kind = .healthy ∧ i'.lifecycleState = .resolved ∧ i.lifecycleState ≠ .resolved ∧
      i'.episodeNumber = i.episodeNumber := by
  obtain ⟨-, -, moved⟩ := apply_ok_iff.mp applied
  cases kind : o.kind with
  | abnormal =>
    rw [kind] at moved
    have moved : (i.note o).observeAbnormal o p = (.resolved, i') := moved
    unfold Incident.observeAbnormal Incident.maybeOpen at moved
    split at moved <;> (try split at moved) <;> exact (nomatch congrArg Prod.fst moved)
  | healthy =>
    rw [kind] at moved
    have moved : (i.note o).observeHealthy o p = (.resolved, i') := moved
    have same : (i.note o).lifecycleState = i.lifecycleState := rfl
    unfold Incident.observeHealthy at moved
    rw [same] at moved
    refine ⟨rfl, ?_⟩
    cases state : i.lifecycleState with
    | pending =>
      rw [state] at moved
      cases moved
      exact ⟨rfl, nofun, rfl⟩
    | opened =>
      rw [state] at moved
      obtain ⟨resolved, number⟩ := continueRecovery_resolved (by decide) moved
      exact ⟨resolved, nofun, number⟩
    | recovering =>
      rw [state] at moved
      obtain ⟨resolved, number⟩ := continueRecovery_resolved (by decide) moved
      exact ⟨resolved, nofun, number⟩
    | resolved =>
      rw [state] at moved
      exact (nomatch congrArg Prod.fst moved)
  | change =>
    rw [kind] at moved
    exact (nomatch congrArg Prod.fst moved)

/-- A duration opens no incident. -/
theorem pending_of_activeDuration (mode : p.triggerMode = .activeDuration)
    (kind : o.kind = .abnormal)
    (state : i.lifecycleState = .pending ∨ i.lifecycleState = .resolved)
    (applied : IncidentProjector.apply i o p = .ok (t, i')) : i'.lifecycleState = .pending := by
  obtain ⟨-, -, moved⟩ := apply_ok_iff.mp applied
  rw [kind] at moved
  have moved : (i.note o).observeAbnormal o p = (t, i') := moved
  have same : (i.note o).lifecycleState = i.lifecycleState := rfl
  unfold Incident.observeAbnormal Incident.maybeOpen Incident.triggerSatisfied at moved
  rw [same, mode] at moved
  rcases state with state | state
  · rw [state] at moved
    cases moved
    exact state
  · rw [state] at moved
    cases moved
    rfl

/-- The first abnormal observation after a resolution takes the next number there is. -/
theorem number_of_resolved (kind : o.kind = .abnormal) (state : i.lifecycleState = .resolved)
    (applied : IncidentProjector.apply i o p = .ok (t, i')) :
    i'.episodeNumber = saturatingSucc i.episodeNumber := by
  obtain ⟨-, -, moved⟩ := apply_ok_iff.mp applied
  rw [kind] at moved
  have moved : (i.note o).observeAbnormal o p = (t, i') := moved
  have same : (i.note o).lifecycleState = i.lifecycleState := rfl
  unfold Incident.observeAbnormal Incident.maybeOpen at moved
  rw [same, state] at moved
  dsimp only at moved
  split at moved <;> (cases moved; rfl)

theorem number_of_pending (kind : o.kind = .abnormal) (state : i.lifecycleState = .pending)
    (applied : IncidentProjector.apply i o p = .ok (t, i')) :
    i'.episodeNumber = i.episodeNumber := by
  obtain ⟨-, -, moved⟩ := apply_ok_iff.mp applied
  rw [kind] at moved
  have moved : (i.note o).observeAbnormal o p = (t, i') := moved
  have same : (i.note o).lifecycleState = i.lifecycleState := rfl
  unfold Incident.observeAbnormal Incident.maybeOpen at moved
  rw [same, state] at moved
  dsimp only at moved
  split at moved <;> (cases moved; rfl)

/-- A healthy observation resolves an incident that is pending. -/
theorem resolved_of_pending (kind : o.kind = .healthy) (state : i.lifecycleState = .pending)
    (applied : IncidentProjector.apply i o p = .ok (t, i')) : t = .resolved := by
  obtain ⟨-, -, moved⟩ := apply_ok_iff.mp applied
  rw [kind] at moved
  have moved : (i.note o).observeHealthy o p = (t, i') := moved
  have same : (i.note o).lifecycleState = i.lifecycleState := rfl
  unfold Incident.observeHealthy at moved
  rw [same, state] at moved
  cases moved
  rfl

/-- Where the record cannot follow, the incident is not in the state of the episode. -/
theorem not_agrees_of_not_followed (shows_ : Shows ep i)
    (applied : IncidentProjector.apply i o p = .ok (t, i'))
    (lost : ¬ ep.followed p o.kind o.observedAtMs) :
    ¬ Agrees (ep.observe p o.kind o.observedAtMs) (some i') := by
  obtain ⟨number, phase⟩ := shows_
  obtain ⟨n, phase_⟩ := ep
  cases kind : o.kind with
  | change => exact absurd rfl (kind ▸ lost)
  | healthy => exact absurd (by cases phase_ <;> rfl) (kind ▸ lost)
  | abnormal =>
    rw [kind] at lost
    cases phase_ with
    | opened => exact absurd rfl lost
    | idle =>
      have state : i.lifecycleState = .resolved := phase
      have isNumber : i.episodeNumber = n := number
      rintro ⟨agrees, states⟩
      have next := number_of_resolved kind state applied
      have agrees : i'.episodeNumber = n + 1 := agrees
      have room : n < u32Max := by
        unfold saturatingSucc at next
        omega
      simp only [Episode.followed, room, true_and, decide_not, Bool.not_eq_true',
        decide_eq_false_iff_not, not_not] at lost
      have pending := pending_of_activeDuration lost.1 kind (.inr state) applied
      simp only [Episode.observe, Episode.observeAbnormal, Episode.opening, lost.2, if_true,
        pending] at states
      exact states.elim nofun nofun
    | pending abnormal =>
      obtain ⟨state, -⟩ := phase
      rintro ⟨-, states⟩
      simp only [Episode.followed, decide_not, Bool.not_eq_true', decide_eq_false_iff_not,
        not_not] at lost
      have pending := pending_of_activeDuration lost.1 kind (.inl state) applied
      simp only [Episode.observe, Episode.observeAbnormal, Episode.opening, lost.2, if_true,
        pending] at states
      exact states.elim nofun nofun

end Steps

/-! ### The incident and the episode -/

section Tracking
variable {env : AlertingEnv} {p : AlertPolicy} {k : ConditionKey} {db : AlertingDb}
  {input : ObservationIngress} {policies : List AlertPolicy} {s : AlertingDb × Episode}

/-- An observation that counts moves the incident of the condition, any other one does not. -/
theorem counts_cases (wf : WellFormed db) (input : ObservationIngress) :
    (counts env k db input ∧ input.conditionKey = k ∧ input.kind ≠ .change ∧
        ∃ t i, Projected env db input true t i (recordStep env db input)) ∨
      (¬ counts env k db input ∧ incident (recordStep env db input) k = incident db k) := by
  cases recorded : AlertingIngress.record env db input with
  | error e =>
    have none : isRecorded env db input = false := by rw [isRecorded, recorded]
    refine .inr ⟨by simp [counts, none], ?_⟩
    rw [recordStep, recorded]
  | ok result =>
    obtain ⟨inserted, db'⟩ := result
    have is : recordStep env db input = db' := by rw [recordStep, recorded]
    have known : isRecorded env db input = inserted := by rw [isRecorded, recorded]
    rw [is]
    obtain ⟨-, ⟨rfl, rfl⟩ | ⟨-, change, same⟩ | ⟨rfl, condition, t, i, moved⟩⟩ :=
      record_ok wf recorded
    · exact .inr ⟨by simp [counts, known], rfl⟩
    · refine .inr ⟨by simp [counts, change], ?_⟩
      rw [same]
    · by_cases here : input.conditionKey = k
      · exact .inl ⟨by simp [counts, known, here, condition], here, condition, t, i, moved⟩
      · refine .inr ⟨by simp [counts, here], ?_⟩
        rw [moved.incident, if_neg (Ne.symm here)]

theorem rest_recordStep (wf : WellFormed db) (input : ObservationIngress) :
    (recordStep env db input).policies = db.policies ∧
      (recordStep env db input).settings = db.settings := by
  rcases @recordStep_cases env _ wf input with same | ⟨-, -, t, i, moved⟩
  · rw [same]
    exact ⟨rfl, rfl⟩
  · rw [moved.same]
    exact ⟨rfl, rfl⟩

structure Tracked (policies : List AlertPolicy) (k : ConditionKey) (s : AlertingDb × Episode) :
    Prop where
  wf : WellFormed s.1
  policies : s.1.policies = policies
  number : 1 ≤ s.2.number
  absent : incident s.1 k = none →
    s.2 = .start ∨ (s.2.phase = .idle ∧ s.1.settings.deleteResolvedIncidents)
  shown : ∀ i, incident s.1 k = some i → Shows s.2 i

theorem Tracked.agrees (tracked : Tracked policies k s) : Agrees s.2 (incident s.1 k) := by
  cases found : incident s.1 k with
  | none => exact (tracked.absent found).imp id And.left
  | some i => exact (tracked.shown i found).agrees

theorem Shows.prepared {ep : Episode} {i : Incident} (shows_ : Shows ep i)
    (input : ObservationIngress) (p : AlertPolicy) :
    Shows ep (AlertingIngress.prepared i input p) := by
  refine ⟨shows_.number, ?_⟩
  have phase := shows_.phase
  cases is : ep.phase with
  | idle => rwa [is] at phase
  | pending => rwa [is] at phase
  | opened healthy =>
    rw [is] at phase
    exact ⟨phase.1, phase.2.count, phase.2.since⟩

/-- The incident an observation is applied to shows the episode it is in, unless the incident
of the last one is gone. -/
theorem Tracked.target (tracked : Tracked policies k s) (here : input.conditionKey = k) :
    Shows s.2 (target s.1 input) ∨ (incident s.1 k = none ∧ s.2 ≠ .start ∧
      s.2.phase = .idle ∧ s.1.settings.deleteResolvedIncidents ∧ Shows .start (target s.1 input)) := by
  subst here
  have first (absent : incident s.1 input.conditionKey = none) :
      Shows .start (Alerting.target s.1 input) := by
    refine Shows.prepared ?_ input _
    rw [loaded_of_none absent]
    exact ⟨rfl, rfl, rfl⟩
  cases found : incident s.1 input.conditionKey with
  | some r =>
    refine .inl (Shows.prepared ?_ input _)
    rw [loaded_of_some found]
    exact tracked.shown r found
  | none =>
    by_cases start : s.2 = .start
    · rw [start]
      exact .inl (first found)
    · obtain ⟨idle, deletes⟩ := (tracked.absent found).resolve_left start
      exact .inr ⟨rfl, start, idle, deletes, first found⟩

theorem number_observe {ep : Episode} (number : 1 ≤ ep.number) (p : AlertPolicy)
    (kind : ObservationKind) (at_ : Int) : 1 ≤ (ep.observe p kind at_).number := by
  obtain ⟨n, phase⟩ := ep
  cases kind <;> cases phase <;> simp_all [Episode.observe, Episode.observeAbnormal,
    Episode.observeHealthy]

/-- What an observation that counts leaves of the incident. -/
theorem Projected.cases_deletes {t : StateTransition} {i : Incident} {db' : AlertingDb}
    (moved : Projected env db input true t i db') :
    (t = .resolved ∧ db.settings.deleteResolvedIncidents ∧
        Alerting.incident db' input.conditionKey = none) ∨
      ((t ≠ .resolved ∨ ¬ db.settings.deleteResolvedIncidents) ∧
        Alerting.incident db' input.conditionKey = some i) := by
  have after := moved.incident input.conditionKey
  rw [if_pos rfl] at after
  by_cases gone : deletes db true t
  · exact .inl ⟨gone.2.1, gone.2.2, after.trans (if_pos gone)⟩
  · refine .inr ⟨?_, after.trans (if_neg gone)⟩
    by_contra both
    push Not at both
    exact gone ⟨rfl, both⟩

theorem healthy_of_condition {kind : ObservationKind} (condition : kind ≠ .change)
    (other : kind ≠ .abnormal) : kind = .healthy := by
  cases kind with
  | abnormal => exact absurd rfl other
  | healthy => rfl
  | change => exact absurd rfl condition

theorem Tracked.step (ruled : p.Ruled) (tracked : Tracked policies k s)
    (fixed : input.conditionKey = k → resolvePolicy policies input.context = p)
    (followed : Followed env p k s input) : Tracked policies k (episodeStep env p k s input) := by
  obtain ⟨samePolicies, sameSettings⟩ := @rest_recordStep env _ tracked.wf input
  rcases @counts_cases env k _ tracked.wf input with
    ⟨counted, rfl, condition, t, i, moved⟩ | ⟨other, same⟩
  · obtain ⟨follows, stored⟩ := followed counted
    have policy : policyOf s.1 input = p := by rw [policyOf, tracked.policies, fixed rfl]
    have applied := moved.applied
    rw [policy] at applied
    have number := number_observe tracked.number p input.kind input.observedAtMs
    have moved_ : episodeStep env p input.conditionKey s input =
        (recordStep env s.1 input, s.2.observe p input.kind input.observedAtMs) := by
      rw [episodeStep, if_pos counted]
    rw [moved_]
    rcases tracked.target rfl with shows_ | ⟨absent, -, idle, deletes, fresh⟩
    · have shown := shows_.observe ruled condition applied follows
      rcases moved.cases_deletes with ⟨rfl, deletes, gone⟩ | ⟨-, kept⟩
      · have closed := shown.idle (resolved_of_transition applied).2.1
        exact ⟨moved.wf, samePolicies.trans tracked.policies, number,
          fun _ => .inr ⟨closed, sameSettings ▸ deletes⟩, fun _ found => nomatch gone.symm.trans found⟩
      · refine ⟨moved.wf, samePolicies.trans tracked.policies, number,
          fun absent => (nomatch kept.symm.trans absent), fun j found => ?_⟩
        obtain rfl := Option.some.inj (kept.symm.trans found)
        exact shown
    · have healthy : input.kind = .healthy := by
        refine healthy_of_condition condition fun abnormal => ?_
        exact (nomatch absent ▸ stored abnormal idle)
      obtain rfl := resolved_of_pending healthy fresh.phase.1 applied
      have gone : incident (recordStep env s.1 input) input.conditionKey = none := by
        rcases moved.cases_deletes with ⟨-, -, gone⟩ | ⟨keeps, -⟩
        · exact gone
        · exact absurd deletes (keeps.resolve_left (absurd rfl))
      have stays : s.2.observe p input.kind input.observedAtMs = s.2 := by
        rw [healthy]
        show s.2.observeHealthy p input.observedAtMs = s.2
        rw [Episode.observeHealthy, idle]
      rw [stays]
      exact ⟨moved.wf, samePolicies.trans tracked.policies, tracked.number,
        fun _ => .inr ⟨idle, sameSettings ▸ deletes⟩, fun _ found => nomatch gone.symm.trans found⟩
  · have moved_ : episodeStep env p k s input = (recordStep env s.1 input, s.2) := by
      rw [episodeStep, if_neg other]
    rw [moved_]
    refine ⟨tracked.wf.recordStep input, samePolicies.trans tracked.policies, tracked.number, ?_, ?_⟩
    · rw [same, sameSettings]
      exact tracked.absent
    · rw [same]
      exact tracked.shown

/-- What cannot be followed takes the incident away from the episode at once. -/
theorem Tracked.not_agrees (tracked : Tracked policies k s)
    (fixed : input.conditionKey = k → resolvePolicy policies input.context = p)
    (lost : ¬ Followed env p k s input) :
    ¬ Agrees (episodeStep env p k s input).2 (incident (episodeStep env p k s input).1 k) := by
  unfold Followed at lost
  push Not at lost
  obtain ⟨counted, lost⟩ := lost
  rcases @counts_cases env k _ tracked.wf input with
    ⟨-, rfl, condition, t, i, moved⟩ | ⟨other, -⟩
  · have policy : policyOf s.1 input = p := by rw [policyOf, tracked.policies, fixed rfl]
    have applied := moved.applied
    rw [policy] at applied
    rw [episodeStep, if_pos counted]
    -- what is lost is an abnormal observation, and no such one resolves the incident
    have abnormal : input.kind = .abnormal := by
      by_contra other
      have healthy := healthy_of_condition condition other
      have follows : s.2.followed p input.kind input.observedAtMs := by
        rw [healthy]
        unfold Episode.followed
        cases s.2.phase <;> rfl
      exact other (lost follows).1
    have kept : incident (recordStep env s.1 input) input.conditionKey = some i := by
      rcases moved.cases_deletes with ⟨rfl, -, -⟩ | ⟨-, kept⟩
      · exact (nomatch abnormal.symm.trans (resolved_of_transition applied).1)
      · exact kept
    show ¬ Agrees _ (incident (recordStep env s.1 input) input.conditionKey)
    rw [kept]
    rcases tracked.target rfl with shows_ | ⟨absent, -, idle, -, fresh⟩
    · refine not_agrees_of_not_followed shows_ applied fun follows => ?_
      obtain ⟨-, idle, absent⟩ := lost follows
      have state : (Alerting.target s.1 input).lifecycleState = .resolved := by
        have phase := shows_.phase
        rwa [idle] at phase
      have absent : incident s.1 input.conditionKey = none := by simpa using absent
      have loaded : (Alerting.target s.1 input).lifecycleState = .pending := by
        show (AlertingIngress.loaded s.1 input (policyOf s.1 input)).lifecycleState = _
        rw [loaded_of_none absent]
        rfl
      exact (nomatch state.symm.trans loaded)
    · rintro ⟨number, -⟩
      have number : i.episodeNumber =
          (s.2.observe p input.kind input.observedAtMs).number := number
      have first := (number_of_pending abnormal fresh.phase.1 applied).trans fresh.number
      have next : (s.2.observe p input.kind input.observedAtMs).number = s.2.number + 1 := by
        rw [abnormal]
        show (s.2.observeAbnormal p input.observedAtMs).number = _
        rw [Episode.observeAbnormal, idle]
      have positive := tracked.number
      have one : i.episodeNumber = 1 := first
      omega
  · exact absurd counted other

end Tracking

/-- Under a fixed valid policy, the incident of a condition is in the state of its episode,
with its number, after every observation of a run if and only if the run can be followed. -/
theorem opening_exact_iff (env : AlertingEnv) (p : AlertPolicy) (k : ConditionKey)
    (policies : List AlertPolicy) (settings : AlertingSettings)
    (stations stationKeys : List String) (inputs : List ObservationIngress)
    (valid : p.validate = .ok ())
    (fixed : ∀ input ∈ inputs, input.conditionKey = k → resolvePolicy policies input.context = p) :
    Along (episodeStep env p k)
        (fun s input => Agrees (episodeStep env p k s input).2
          (incident (episodeStep env p k s input).1 k))
        (.start policies settings stations stationKeys, .start) inputs ↔
      Along (episodeStep env p k) (Followed env p k)
        (.start policies settings stations stationKeys, .start) inputs := by
  have ruled := AlertPolicy.ruled_of_valid valid
  have absent : incident (.start policies settings stations stationKeys) k = none := rfl
  have initial : Tracked policies k (.start policies settings stations stationKeys, .start) := by
    refine ⟨.start .., rfl, le_rfl, fun _ => .inl rfl, fun i found => ?_⟩
    exact (nomatch absent.symm.trans found)
  have agree : ∀ (s : AlertingDb × Episode) (input : ObservationIngress),
      (input.conditionKey = k → resolvePolicy policies input.context = p) → Tracked policies k s →
        (Agrees (episodeStep env p k s input).2 (incident (episodeStep env p k s input).1 k) ↔
          Followed env p k s input) := by
    refine fun s input fixed tracked => ⟨fun agrees => ?_, fun followed => ?_⟩
    · by_contra lost
      exact tracked.not_agrees fixed lost agrees
    · exact (tracked.step ruled fixed followed).agrees
  have preserved : ∀ (s : AlertingDb × Episode) (input : ObservationIngress),
      (input.conditionKey = k → resolvePolicy policies input.context = p) → Tracked policies k s →
        Followed env p k s input → Tracked policies k (episodeStep env p k s input) :=
    fun s input fixed tracked followed => tracked.step ruled fixed followed
  exact along_iff agree preserved initial fixed

/-- Three abnormal observations open an incident, a healthy one ends its episode. -/
theorem opening_exact_opened :
    Along (episodeStep sampleEnv samplePolicy sampleKey)
      (fun s input => Agrees (episodeStep sampleEnv samplePolicy sampleKey s input).2
        (incident (episodeStep sampleEnv samplePolicy sampleKey s input).1 sampleKey))
      (.start [samplePolicy] .default [] [], .start)
      [sampleObservation "observation-1" .abnormal 1000,
        sampleObservation "observation-2" .abnormal 2000,
        sampleObservation "observation-3" .abnormal 3000,
        sampleObservation "observation-4" .healthy 4000] :=
  (opening_exact_iff sampleEnv samplePolicy sampleKey [samplePolicy] .default [] [] _
    (by decide +kernel) (by decide +kernel)).mpr (by decide +kernel)

def sampleDurationPolicy : AlertPolicy :=
  { samplePolicy with
    triggerMode := .activeDuration
    triggerCount := none
    triggerDurationSeconds := some 60 }

/-- An abnormal streak of ninety seconds does not open an incident that is to open after sixty,
and the episode after a resolution has the number of the one before. -/
theorem opening_not_exact :
    ((incident (run (recordStep sampleEnv) (.start [sampleDurationPolicy] .default [] [])
        [sampleObservation "observation-1" .abnormal 1000,
          sampleObservation "observation-2" .abnormal 91000]) sampleKey).map
            (·.lifecycleState) = some .pending ∧
      sampleDurationPolicy.triggerMet [1000, 91000]) ∧
    (incident (run (recordStep sampleEnv) (.start [samplePolicy] .default [] [])
        [sampleObservation "observation-1" .abnormal 1000]) sampleKey).map
          (·.episodeNumber) = some 1 ∧
    (incident (run (recordStep sampleEnv) (.start [samplePolicy] .default [] [])
        [sampleObservation "observation-1" .abnormal 1000,
          sampleObservation "observation-2" .healthy 2000,
          sampleObservation "observation-3" .abnormal 3000]) sampleKey).map
            (·.episodeNumber) = some 1 := by
  decide +kernel

end RelayPool.Alerting
