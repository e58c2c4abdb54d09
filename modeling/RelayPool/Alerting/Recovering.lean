import RelayPool.Alerting.Edits
import RelayPool.Alerting.Opening

/-! When an open incident recovers.

Beside the tables a run keeps the healthy observations of one condition since its last
abnormal one and since the policy that it resolves to has last changed. Once these meet the
recovery rule of the policy the incident should be resolved. Two things keep it from that: a
pass that begins the streak anew although no policy has changed, and a streak by duration
that has no start any more, which the record never gives it again. Where neither happens the
record counts at least the streak (`Recovered`), and the incident is resolved in time
(`recovery_never_stuck`). -/
namespace RelayPool.Alerting
open Runs Table Fallible
open AlertingReconciler
open IncidentStore (listActivePage)

/-! ### The streak beside the tables -/

/-- The context of the last observation of a condition and its healthy observations since the
last abnormal one and the last change of the policy that the context resolves to. -/
structure RecoveryHistory where
  context : Option PolicyMatchContext
  healthy : List Int
deriving DecidableEq

namespace RecoveryHistory

def start : RecoveryHistory := ⟨none, []⟩

/-- What is left of the streak where the policies are these and the next observation comes with
this context. -/
def carried (policies : List AlertPolicy) (context : PolicyMatchContext) (h : RecoveryHistory) :
    List Int :=
  if h.context.any fun last => resolvePolicy policies last = resolvePolicy policies context
  then h.healthy else []

def observe (policies : List AlertPolicy) (input : ObservationIngress) (h : RecoveryHistory) :
    RecoveryHistory where
  context := some input.context
  healthy := if input.kind = .healthy then h.carried policies input.context ++ [input.observedAtMs]
    else []

/-- An edit that changes the resolved policy ends the streak. -/
def edited (before after : List AlertPolicy) (h : RecoveryHistory) : RecoveryHistory :=
  if h.context.any fun last => resolvePolicy before last ≠ resolvePolicy after last
  then { h with healthy := [] } else h

end RecoveryHistory

section Definitions
variable (env : AlertingEnv) (k : ConditionKey)

def recoveryStep (s : AlertingDb × RecoveryHistory) (step : AlertingStep) :
    AlertingDb × RecoveryHistory :=
  (alertingStep env s.1 step,
    match step with
    | .record input => if counts env k s.1 input then s.2.observe s.1.policies input else s.2
    | .edit edit => s.2.edited s.1.policies (edit.step s.1).policies
    | .updateSettings _ | .reconcile _ => s.2)

/-- A healthy observation that completes the streak finds the incident resolved, or deleted
because it is. -/
def Recovers (s : AlertingDb × RecoveryHistory) (step : AlertingStep) : Prop :=
  ∀ input, step = .record input → counts env k s.1 input → input.kind = .healthy →
    (policyOf s.1 input).recoveryMet (s.2.observe s.1.policies input).healthy →
    ∀ i, incident (recoveryStep env k s step).1 k = some i → i.lifecycleState = .resolved

/-- The incidents that a pass comes to before its first write fails. -/
def reached (e : Encodings) (db : AlertingDb) : List Incident :=
  (listActivePage db none pageSize).takeWhile fun i =>
    ¬ shouldUpdate e db.policies i ∨ Backed e db db.policies i

/-- Whether the pass begins a streak anew that no change of the policy has ended. -/
def restartsRecovery (s : AlertingDb × RecoveryHistory) (nowMs : Int) : Bool :=
  0 ≤ nowMs ∧ s.2.healthy ≠ [] ∧ (incident s.1 k).any fun i =>
    i.lifecycleState = .recovering ∧ i ∈ reached env.toEncodings s.1 ∧
      fingerprintChanged env.toEncodings s.1.policies i

/-- Whether the observation finds a recovery by duration that has no start. -/
def startless (s : AlertingDb × RecoveryHistory) (input : ObservationIngress) : Bool :=
  counts env k s.1 input ∧ input.kind = .healthy ∧
    (policyOf s.1 input).recoveryMode = .healthyDuration ∧
    (incident s.1 k).any fun i => i.lifecycleState = .recovering ∧ i.healthySinceMs = none

/-- Neither happens. -/
def Uninterrupted (s : AlertingDb × RecoveryHistory) (step : AlertingStep) : Prop :=
  match step with
  | .record input => startless env k s input = false
  | .reconcile nowMs => restartsRecovery env k s nowMs = false
  | .edit _ | .updateSettings _ => True

instance {s : AlertingDb × RecoveryHistory} {step : AlertingStep} :
    Decidable (Uninterrupted env k s step) := by
  unfold Uninterrupted
  cases step <;> infer_instance

end Definitions

/-! ### Policies -/

theorem ruled_systemDefault (eventType : Option AlertEventType) (severity : Severity) :
    (AlertPolicy.systemDefaultForEvent eventType severity).Ruled where
  count mode := by
    simp only [AlertPolicy.systemDefaultForEvent] at mode ⊢
    split at mode
    · cases mode
    · rename_i notImmediate
      rw [if_neg notImmediate]
      refine ⟨_, rfl, ?_⟩
      split <;> decide
  recoveryCount _ := ⟨1, rfl, by decide⟩
  recoveryDuration mode := nomatch mode

/-- Every stored policy states its rules. -/
def Ruled (policies : List AlertPolicy) : Prop := ∀ p ∈ policies, p.Ruled

theorem Ruled.resolvePolicy {policies : List AlertPolicy} (ruled : Ruled policies)
    (context : PolicyMatchContext) : (resolvePolicy policies context).Ruled := by
  rcases resolvePolicy_cases policies context with ⟨mem, -⟩ | is
  · exact ruled _ mem
  · rw [is]
    exact ruled_systemDefault ..

theorem Ruled.updateWhere {policies : List AlertPolicy} (ruled : Ruled policies)
    {p : AlertPolicy → Bool} {f : AlertPolicy → AlertPolicy}
    (keeps : ∀ r : AlertPolicy, r.Ruled → (f r).Ruled) : Ruled (Table.updateWhere p f policies) := by
  intro r mem
  obtain ⟨r₀, mem₀, rfl⟩ := mem_updateWhere.mp mem
  split
  · exact keeps r₀ (ruled r₀ mem₀)
  · exact ruled r₀ mem₀

theorem Ruled.edited {db db' : AlertingDb} (ruled : Ruled db.policies) (edited : Edited db db') :
    Ruled db'.policies := by
  cases edited with
  | added policy fresh valid =>
    exact List.forall_mem_append.mpr
      ⟨ruled, List.forall_mem_singleton.mpr (AlertPolicy.ruled_of_valid valid)⟩
  | saved policy valid =>
    have new := AlertPolicy.ruled_of_valid valid
    exact ruled.updateWhere fun r _ => ⟨new.count, new.recoveryCount, new.recoveryDuration⟩
  | marked p state nowMs =>
    exact ruled.updateWhere fun r old => ⟨old.count, old.recoveryCount, old.recoveryDuration⟩

/-! ### What the record counts -/

/-- The record of a recovering incident counts at least the streak, and has begun no later. -/
structure Recovered (healthy : List Int) (i : Incident) : Prop where
  idle : i.lifecycleState = .pending ∨ i.lifecycleState = .opened → healthy = []
  count : i.lifecycleState = .recovering → min healthy.length u32Max ≤ i.consecutiveHealthyCount
  since : i.lifecycleState = .recovering → ∀ since, i.healthySinceMs = some since →
    since ≤ i.lastSeenAtMs ∧ ∀ at_ ∈ healthy, since ≤ at_
  seen : i.lifecycleState = .recovering → ∀ at_ ∈ healthy, at_ ≤ i.lastSeenAtMs

section Records
variable {p : AlertPolicy} {healthy : List Int} {i i' : Incident} {o : IncidentObservation}
  {t : StateTransition}

theorem Recovered.forget (recovered : Recovered healthy i) : Recovered [] i where
  idle _ := rfl
  count _ := Nat.zero_le _
  since state since is := ⟨(recovered.since state since is).1, nofun⟩
  seen _ := nofun

theorem Recovered.of_state (settled : i.lifecycleState = .resolved) : Recovered healthy i where
  idle state := by rcases state with state | state <;> cases settled.symm.trans state
  count state := nomatch settled.symm.trans state
  since state := nomatch settled.symm.trans state
  seen state := nomatch settled.symm.trans state

theorem Recovered.of_not_recovering (other : i.lifecycleState ≠ .recovering) : Recovered [] i where
  idle _ := rfl
  count state := absurd state other
  since state := absurd state other
  seen state := absurd state other

/-- A streak that meets the rule lets the record recover. -/
theorem recovers_of_met (ruled : p.Ruled) {at_ : Int}
    (count : min healthy.length u32Max ≤ i.consecutiveHealthyCount)
    (since : p.recoveryMode = .healthyDuration →
      ∃ since, i.healthySinceMs = some since ∧ ∀ a ∈ healthy, since ≤ a)
    (latest : ∀ a ∈ healthy, a ≤ at_) (met : p.recoveryMet healthy) : i.recovers at_ p := by
  unfold Incident.recovers recoverySatisfied
  unfold AlertPolicy.recoveryMet at met
  cases mode : p.recoveryMode with
  | consecutiveHealthy =>
    rw [mode] at met
    obtain ⟨n, is, le⟩ := ruled.recoveryCount mode
    have enough : n ≤ healthy.length := by simpa [is] using met
    simp only [is, Option.getD_some, decide_eq_true_eq]
    unfold u32Max at count
    omega
  | healthyDuration =>
    rw [mode] at met
    obtain ⟨seconds, is, le⟩ := ruled.recoveryDuration mode
    obtain ⟨since, isSince, bound⟩ := since mode
    have met : ∃ first ∈ healthy, ∃ last ∈ healthy, (seconds : Int) * 1000 ≤ last - first := by
      simpa [is] using met
    obtain ⟨first, memFirst, last, memLast, far⟩ := met
    have begun := bound first memFirst
    have ended := latest last memLast
    simp only [is, isSince, decide_eq_true_eq, durationMs_eq le]
    unfold clampI64
    omega

theorem not_recovering_of_abnormal (kind : o.kind = .abnormal)
    (applied : IncidentProjector.apply i o p = .ok (t, i')) : i'.lifecycleState ≠ .recovering := by
  obtain ⟨-, -, moved⟩ := apply_ok_iff.mp applied
  rw [kind] at moved
  have moved : (i.note o).observeAbnormal o p = (t, i') := moved
  have is : i' = ((i.note o).observeAbnormal o p).2 := by rw [moved]
  have opens {j : Incident} (other : j.lifecycleState ≠ .recovering) :
      (j.maybeOpen o.observedAtMs p).2.lifecycleState ≠ .recovering := by
    unfold Incident.maybeOpen
    split
    · nofun
    · exact other
  rw [is]
  unfold Incident.observeAbnormal
  split
  · exact opens nofun
  · nofun
  · rename_i state
    exact state.trans_ne nofun
  · rename_i state
    exact opens (state.trans_ne nofun)

/-- A recovering record that has counted the streak up to now resolves, or waits on. -/
theorem Recovered.continueRecovery (ruled : p.Ruled) {at_ : Int} (waiting : StateTransition)
    (state : i.lifecycleState = .recovering) (seen : i.lastSeenAtMs = at_)
    (recovered : Recovered healthy i)
    (started : p.recoveryMode = .healthyDuration → i.healthySinceMs ≠ none) :
    Recovered healthy (i.continueRecovery waiting at_ p).2 ∧
      (p.recoveryMet healthy → (i.continueRecovery waiting at_ p).2.lifecycleState = .resolved) := by
  have count := recovered.count state
  have latest : ∀ a ∈ healthy, a ≤ at_ := seen ▸ recovered.seen state
  have since (mode : p.recoveryMode = .healthyDuration) :
      ∃ since, i.healthySinceMs = some since ∧ ∀ a ∈ healthy, since ≤ a := by
    obtain ⟨since, is⟩ := Option.ne_none_iff_exists'.mp (started mode)
    exact ⟨since, is, (recovered.since state since is).2⟩
  have recovers := recovers_of_met ruled count since latest
  unfold Incident.continueRecovery
  split
  · exact ⟨.of_state rfl, fun _ => rfl⟩
  · rename_i waits
    exact ⟨⟨recovered.idle, recovered.count, recovered.since, recovered.seen⟩,
      fun met => absurd (recovers met) waits⟩

/-- A healthy observation is counted, and resolves the incident once the streak is complete. -/
theorem Recovered.observeHealthy (ruled : p.Ruled) (kind : o.kind = .healthy)
    (recovered : Recovered healthy i)
    (started : p.recoveryMode = .healthyDuration → i.lifecycleState = .recovering →
      i.healthySinceMs ≠ none)
    (applied : IncidentProjector.apply i o p = .ok (t, i')) :
    Recovered (healthy ++ [o.observedAtMs]) i' ∧
      (p.recoveryMet (healthy ++ [o.observedAtMs]) → i'.lifecycleState = .resolved) := by
  obtain ⟨-, ordered, moved⟩ := apply_ok_iff.mp applied
  rw [kind] at moved
  have moved : (i.note o).observeHealthy o p = (t, i') := moved
  have is : i' = ((i.note o).observeHealthy o p).2 := by rw [moved]
  rw [is]
  unfold Incident.observeHealthy
  split
  · exact ⟨.of_state rfl, fun _ => rfl⟩
  · rename_i state
    obtain rfl := recovered.idle (.inr state)
    refine Recovered.continueRecovery ruled .recovering rfl rfl ⟨?_, fun _ => ?_, ?_, fun _ => ?_⟩ nofun
    · exact fun state => by rcases state with state | state <;> cases state
    · show min 1 u32Max ≤ saturatingSucc _
      unfold saturatingSucc
      omega
    · rintro - since ⟨⟩
      exact ⟨le_refl _, List.forall_mem_singleton.mpr (le_refl _)⟩
    · exact List.forall_mem_singleton.mpr (le_refl _)
  · rename_i state
    have state : i.lifecycleState = .recovering := state
    have count := recovered.count state
    refine Recovered.continueRecovery ruled .none state rfl ⟨?_, fun _ => ?_, ?_, fun _ => ?_⟩
      fun mode => started mode state
    · exact fun other => by rcases other with other | other <;> cases state.symm.trans other
    · show min (healthy ++ [o.observedAtMs]).length u32Max ≤
        saturatingSucc i.consecutiveHealthyCount
      rw [List.length_append, List.length_singleton]
      unfold saturatingSucc
      omega
    · intro _ since is
      obtain ⟨begun, all⟩ := recovered.since state since is
      have begun := begun.trans ordered
      exact ⟨begun, List.forall_mem_append.mpr ⟨all, List.forall_mem_singleton.mpr begun⟩⟩
    · refine List.forall_mem_append.mpr ⟨fun a mem => ?_, List.forall_mem_singleton.mpr (le_refl _)⟩
      exact (recovered.seen state a mem).trans ordered
  · rename_i state
    exact ⟨.of_state state, fun _ => state⟩

theorem Recovered.prepared (recovered : Recovered healthy i) (input : ObservationIngress)
    (p : AlertPolicy) : Recovered healthy (AlertingIngress.prepared i input p) :=
  ⟨recovered.idle, recovered.count, recovered.since, recovered.seen⟩

/-- A pass leaves the record of a streak unless it begins it anew. -/
theorem Recovered.rewritten {e : Encodings} {policies : List AlertPolicy} {nowMs : Int}
    (recovered : Recovered healthy i)
    (goesOn : fingerprintChanged e policies i → i.lifecycleState = .recovering → healthy = []) :
    Recovered healthy (rewritten e policies nowMs i) := by
  have state := lifecycleState_rewritten e policies nowMs i
  by_cases same : fingerprintChanged e policies i ∧ i.lifecycleState = .recovering
  · obtain rfl := goesOn same.1 same.2
    have restarted : (Alerting.rewritten e policies nowMs i).healthySinceMs = none := by
      unfold Alerting.rewritten IncidentStore.written next reconciled
      dsimp only
      rw [if_pos same.1]
      unfold resetEvaluationEpoch
      dsimp only
      rw [same.2]
    refine ⟨fun _ => rfl, fun _ => Nat.zero_le _, fun _ since is => ?_, fun _ => nofun⟩
    cases restarted.symm.trans is
  · have record (recovering : i.lifecycleState = .recovering) :
        Alerting.rewritten e policies nowMs i = { i with
          policyId := (Alerting.rewritten e policies nowMs i).policyId
          policyRevision := (Alerting.rewritten e policies nowMs i).policyRevision
          severity := (Alerting.rewritten e policies nowMs i).severity
          lifecyclePolicyFingerprint :=
            (Alerting.rewritten e policies nowMs i).lifecyclePolicyFingerprint
          version := (Alerting.rewritten e policies nowMs i).version
          updatedAtMs := (Alerting.rewritten e policies nowMs i).updatedAtMs } := by
      have fresh : ¬ fingerprintChanged e policies i := fun changed => same ⟨changed, recovering⟩
      unfold Alerting.rewritten IncidentStore.written next reconciled
      dsimp only
      rw [if_neg fresh]
    refine ⟨fun other => recovered.idle (state ▸ other), fun was => ?_, fun was => ?_, fun was => ?_⟩
    all_goals
      have was : i.lifecycleState = .recovering := state ▸ was
      rw [record was]
    · exact recovered.count was
    · exact recovered.since was
    · exact recovered.seen was

end Records

/-! ### Runs -/

section Steps
variable {env : AlertingEnv} {k : ConditionKey} {s : AlertingDb × RecoveryHistory}

/-- The stored incident of the condition counts the streak. -/
structure Watched (k : ConditionKey) (s : AlertingDb × RecoveryHistory) : Prop where
  kept : Kept s.1
  ruled : Ruled s.1.policies
  recovered : ∀ i, incident s.1 k = some i → Recovered s.2.healthy i

theorem Recovered.carried {i : Incident} {h : RecoveryHistory}
    (recovered : Recovered h.healthy i) (policies : List AlertPolicy)
    (context : PolicyMatchContext) : Recovered (h.carried policies context) i := by
  unfold RecoveryHistory.carried
  split
  · exact recovered
  · exact recovered.forget

/-- An observation that counts keeps the record with the streak. -/
theorem Watched.observed (watched : Watched k s) {input : ObservationIngress} {t : StateTransition}
    {i : Incident} {db : AlertingDb} (here : input.conditionKey = k)
    (condition : input.kind ≠ .change) (started : startless env k s input = false)
    (counted : counts env k s.1 input) (moved : Projected env s.1 input true t i db) :
    Recovered (s.2.observe s.1.policies input).healthy i ∧ (input.kind = .healthy →
      (policyOf s.1 input).recoveryMet (s.2.observe s.1.policies input).healthy →
      i.lifecycleState = .resolved) := by
  have ruled := watched.ruled.resolvePolicy input.context
  unfold RecoveryHistory.observe
  by_cases healthy : input.kind = .healthy
  · rw [if_pos healthy]
    cases found : incident s.1 input.conditionKey with
    | none =>
      -- the first observation of a new incident resolves it
      have state : (target s.1 input).lifecycleState = .pending := by
        show (AlertingIngress.loaded s.1 input (policyOf s.1 input)).lifecycleState = _
        rw [loaded_of_none found]
        rfl
      obtain rfl := resolved_of_pending healthy state moved.applied
      have resolved := (resolved_of_transition moved.applied).2.1
      exact ⟨.of_state resolved, fun _ _ => resolved⟩
    | some r =>
      have isTarget : target s.1 input =
          AlertingIngress.prepared r input (policyOf s.1 input) := by
        rw [target, loaded_of_some found]
      have applied := moved.applied
      rw [isTarget] at applied
      have counts := (((watched.recovered r (here ▸ found)).carried s.1.policies
        input.context).prepared input (policyOf s.1 input))
      have begun (mode : (policyOf s.1 input).recoveryMode = .healthyDuration)
          (state : r.lifecycleState = .recovering) : r.healthySinceMs ≠ none := by
        intro none
        unfold startless at started
        subst here
        simp [counted, healthy, mode, found, none, state] at started
      obtain ⟨recovered, met⟩ := counts.observeHealthy ruled healthy begun applied
      exact ⟨recovered, fun _ => met⟩
  · rw [if_neg healthy]
    have abnormal : input.kind = .abnormal := by
      by_contra other
      exact healthy (healthy_of_condition condition other)
    exact ⟨.of_not_recovering (not_recovering_of_abnormal abnormal moved.applied),
      fun is => absurd is healthy⟩

theorem Watched.record (watched : Watched k s) {input : ObservationIngress}
    (started : startless env k s input = false) :
    Recovers env k s (.record input) ∧ Watched k (recoveryStep env k s (.record input)) := by
  obtain ⟨samePolicies, -⟩ := @rest_recordStep env _ watched.kept.wf input
  have kept := @Kept.recordStep env _ watched.kept input
  rcases @counts_cases env k _ watched.kept.wf input with
    ⟨counted, here, condition, t, i, moved⟩ | ⟨other, same⟩
  · have stepped : recoveryStep env k s (.record input) =
        (recordStep env s.1 input, s.2.observe s.1.policies input) :=
      Prod.ext rfl (if_pos counted)
    obtain ⟨recovered, met⟩ := watched.observed here condition started counted moved
    have stored : ∀ j, incident (recordStep env s.1 input) k = some j → j = i := by
      intro j found
      rcases moved.cases_deletes with ⟨-, -, gone⟩ | ⟨-, kept⟩
      · rw [here] at gone
        cases gone.symm.trans found
      · rw [here] at kept
        exact Option.some.inj (found.symm.trans kept)
    refine ⟨fun input' is _ healthy complete j found => ?_, ?_⟩
    · cases is
      rw [stepped] at found
      rw [stored j found]
      exact met healthy complete
    · rw [stepped]
      exact ⟨kept, samePolicies ▸ watched.ruled, fun j found => stored j found ▸ recovered⟩
  · have stepped : recoveryStep env k s (.record input) = (recordStep env s.1 input, s.2) :=
      Prod.ext rfl (if_neg other)
    refine ⟨fun input' is counted => ?_, ?_⟩
    · cases is
      exact absurd counted other
    · rw [stepped]
      exact ⟨kept, samePolicies ▸ watched.ruled, fun j found =>
        watched.recovered j (same.symm.trans found)⟩

theorem Watched.edit (watched : Watched k s) (edit : PolicyEdit) :
    Watched k (recoveryStep env k s (.edit edit)) := by
  have kept := @Kept.alertingStep env _ watched.kept (.edit edit)
  rcases edit.step_cases s.1 with same | edited
  · have stays : recoveryStep env k s (.edit edit) = s := by
      refine Prod.ext same ?_
      show s.2.edited s.1.policies (edit.step s.1).policies = s.2
      rw [same]
      exact if_neg (by simp)
    rwa [stays]
  · refine ⟨kept, watched.ruled.edited edited, fun i found => ?_⟩
    have incidents : incident (edit.step s.1) k = incident s.1 k := by rw [edited.rest]
    have recovered := watched.recovered i (incidents.symm.trans found)
    show Recovered (s.2.edited s.1.policies (edit.step s.1).policies).healthy i
    unfold RecoveryHistory.edited
    split
    · exact recovered.forget
    · exact recovered

theorem Watched.reconcile (watched : Watched k s) {nowMs : Int}
    (goesOn : restartsRecovery env k s nowMs = false) :
    Watched k (recoveryStep env k s (.reconcile nowMs)) := by
  have kept := @Kept.alertingStep env _ watched.kept (.reconcile nowMs)
  rcases lt_or_ge nowMs 0 with early | onTime
  · have stays : recoveryStep env k s (.reconcile nowMs) = s := by
      refine Prod.ext ?_ rfl
      show passStep env.toEncodings s.1 nowMs = s.1
      rw [passStep, reconcilePage_of_neg early]
    rwa [stays]
  · obtain ⟨before, passed, ⟨after, page⟩, backed, -⟩ :=
      passStep_cases env.toEncodings watched.kept.wf nowMs
    refine ⟨kept, ?_, fun i found => ?_⟩
    · show Ruled (passStep env.toEncodings s.1 nowMs).policies
      rw [passed.same_policies]
      exact watched.ruled
    · have found : incident (passStep env.toEncodings s.1 nowMs) k = some i := found
      rw [passed.incident] at found
      obtain ⟨j, stored, rfl⟩ := Option.map_eq_some_iff.mp found
      have recovered := watched.recovered j stored
      show Recovered s.2.healthy _
      split
      · rename_i turn
        refine recovered.rewritten fun changed state => ?_
        by_contra streak
        have comes : j ∈ reached env.toEncodings s.1 := by
          have passes : ∀ i ∈ before, decide (¬ shouldUpdate env.toEncodings s.1.policies i ∨
              Backed env.toEncodings s.1 s.1.policies i) = true := by
            intro i mem
            by_cases stale : shouldUpdate env.toEncodings s.1.policies i
            · exact decide_eq_true (.inr (backed i mem stale))
            · exact decide_eq_true (.inl stale)
          unfold reached
          rw [page, List.takeWhile_append_of_pos passes]
          exact List.mem_append_left _ turn.1
        unfold restartsRecovery at goesOn
        simp [onTime, streak, stored, state, comes, changed] at goesOn
      · exact recovered

theorem recovers_of_not_record {step : AlertingStep}
    (other : match step with | .record _ => False | _ => True) : Recovers env k s step := by
  rintro input rfl
  exact other.elim

/-- What is not interrupted recovers, and the record goes on counting. -/
theorem Watched.step (watched : Watched k s) {step : AlertingStep}
    (goesOn : Uninterrupted env k s step) :
    Recovers env k s step ∧ Watched k (recoveryStep env k s step) := by
  cases step with
  | record input => exact watched.record goesOn
  | edit edit => exact ⟨recovers_of_not_record trivial, watched.edit edit⟩
  | updateSettings settings =>
    exact ⟨recovers_of_not_record trivial,
      @Kept.alertingStep env _ watched.kept (.updateSettings settings), watched.ruled,
      watched.recovered⟩
  | reconcile nowMs => exact ⟨recovers_of_not_record trivial, watched.reconcile goesOn⟩

end Steps

/-- In a run that neither passes nor lost starts interrupt, a streak of healthy observations
that meets the recovery rule of its policy finds the incident resolved. -/
theorem recovery_never_stuck (env : AlertingEnv) (k : ConditionKey) (settings : AlertingSettings)
    (stations stationKeys : List String) (steps : List AlertingStep)
    (goesOn : Along (recoveryStep env k) (Uninterrupted env k)
      (.start [] settings stations stationKeys, .start) steps) :
    Along (recoveryStep env k) (Recovers env k)
      (.start [] settings stations stationKeys, .start) steps := by
  have initial : Watched k (.start [] settings stations stationKeys, .start) := by
    refine ⟨.start .., List.forall_mem_nil _, fun i found => ?_⟩
    have absent : incident (.start [] settings stations stationKeys) k = none := rfl
    cases absent.symm.trans found
  have preserved : ∀ s step, Uninterrupted env k s step → Watched k s →
      Recovers env k s step ∧ Watched k (recoveryStep env k s step) :=
    fun _ _ goesOn watched => watched.step goesOn
  exact goesOn.imp_invariant preserved initial

/-- A policy that asks for two healthy observations. -/
def sampleTwicePolicy : AlertPolicy := { samplePolicy with recoveryCount := some 2 }

def sampleTwiceJson : String :=
  "\x7b\"id\":\"policy-1\",\"name\":\"Station down\",\"enabled\":true,\"state\":\"active\"," ++
  "\"scopeKind\":\"global\",\"eventType\":null,\"stationId\":null,\"stationKeyId\":null," ++
  "\"minimumSeverity\":null,\"severityOffset\":0,\"triggerMode\":\"consecutive_occurrences\"," ++
  "\"triggerCount\":3,\"triggerDurationSeconds\":null," ++
  "\"recoveryMode\":\"consecutive_healthy\",\"recoveryCount\":2," ++
  "\"recoveryDurationSeconds\":null,\"inAppEnabled\":true,\"desktopEnabled\":false," ++
  "\"repeatMode\":\"never\",\"repeatIntervalSeconds\":null,\"cooldownSeconds\":1800," ++
  "\"recoveryNotificationEnabled\":true,\"quietHoursPolicy\":\"inherit\",\"priority\":100," ++
  "\"revision\":1,\"createdAtMs\":10,\"updatedAtMs\":10\x7d"

/-- The libraries on the texts of the samples and on that policy. -/
def sampleTwiceEnv : AlertingEnv where
  policyJson := fun p => if p = sampleTwicePolicy then sampleTwiceJson else sampleEnv.policyJson p
  sha256 := fun text => if text = sampleTwiceJson then
      [227, 215, 77, 104, 92, 67, 46, 151, 33, 62, 114, 59, 122, 98, 209, 72,
      1, 185, 103, 214, 39, 21, 110, 59, 54, 22, 79, 51, 223, 70, 182, 191]
    else sampleEnv.sha256 text
  fromStr := sampleEnv.fromStr

/-- An incident that is open, under that policy. -/
def sampleOpened : List AlertingStep :=
  [.edit (.save sampleTwicePolicy none),
    .record (sampleObservation "observation-1" .abnormal 1000),
    .record (sampleObservation "observation-2" .abnormal 2000),
    .record (sampleObservation "observation-3" .abnormal 3000)]

/-- A pass before the streak is no harm. -/
theorem recovery_after_pass :
    Along (recoveryStep sampleTwiceEnv sampleKey) (Recovers sampleTwiceEnv sampleKey)
      (.start [] .default [] [], .start)
      (sampleOpened ++ [.reconcile 3060,
        .record (sampleObservation "observation-4" .healthy 4000),
        .record (sampleObservation "observation-5" .healthy 5000)]) :=
  recovery_never_stuck sampleTwiceEnv sampleKey .default [] [] _ (by decide +kernel)

/-- A pass between two healthy observations: the second one leaves the incident recovering. -/
theorem recovery_stuck_after_pass :
    ¬ Along (recoveryStep sampleTwiceEnv sampleKey) (Recovers sampleTwiceEnv sampleKey)
      (.start [] .default [] [], .start)
      (sampleOpened ++ [.record (sampleObservation "observation-4" .healthy 4000),
        .reconcile 4060] ++ [.record (sampleObservation "observation-5" .healthy 5000)]) := by
  intro recovers
  obtain ⟨last, -⟩ := (along_append.mp recovers).2
  have state : (incident (recoveryStep sampleTwiceEnv sampleKey
      (run (recoveryStep sampleTwiceEnv sampleKey) (.start [] .default [] [], .start)
        (sampleOpened ++ [.record (sampleObservation "observation-4" .healthy 4000),
          .reconcile 4060]))
      (.record (sampleObservation "observation-5" .healthy 5000))).1 sampleKey).map
        (·.lifecycleState) = some .recovering := by
    decide +kernel
  obtain ⟨i, found, is⟩ := Option.map_eq_some_iff.mp state
  have resolved := last _ rfl (by decide +kernel) rfl (by decide +kernel) i found
  cases resolved.symm.trans is

end RelayPool.Alerting
